import LocalProxy.Proofs.Hub.Convergence
import LocalProxy.Proofs.Listening.ExclusiveHost

/-! Which configurations come up on a host of their own. Each of the three reconciliations of an
application closes before it opens, but a later one closes only after an earlier one opened: what
is wanted does not come up just where its socket is held by a listener of a later turn. -/
namespace LocalProxy

open ExclusiveHost

/-- The turn in which an application closes and opens the listeners of a service. -/
def Service.turn : Service → Nat
  | inbound spec => if spec.legacy then 0 else 1
  | tunnel _ => 2

theorem Service.turn_legacy {service : Service} {spec : InboundSpec}
    (part : service.spec? = some spec) (legacy : spec.legacy = true) : service.turn = 0 := by
  cases service with
  | inbound _ =>
    obtain rfl := Option.some.inj part
    exact if_pos legacy
  | tunnel _ => cases part

theorem Service.turn_explicit {service : Service} {spec : InboundSpec}
    (part : service.spec? = some spec) (explicit : spec.legacy = false) : service.turn = 1 := by
  cases service with
  | inbound _ =>
    obtain rfl := Option.some.inj part
    exact if_neg (by simp [explicit])
  | tunnel _ => cases part

theorem Service.turn_zero {service : Service} (first : service.turn = 0) :
    ∃ spec, service.spec? = some spec ∧ spec.legacy = true := by
  cases service with
  | inbound spec =>
    refine ⟨spec, rfl, ?_⟩
    by_contra explicit
    simp [turn, explicit] at first
  | tunnel _ => cases first

theorem Service.turn_le (service : Service) : service.turn ≤ 2 := by
  cases service with
  | inbound spec =>
    cases legacy : spec.legacy <;> simp [turn, legacy]
  | tunnel _ => exact Nat.le_refl 2

namespace Config

variable {σ π : Type} [DecidableEq π]

/-- A slot that must be open for the configuration to be up. -/
def Wants (d : Drivers σ) (c : Config) (slot : Slot) : Prop :=
  (∃ spec ∈ c.wantedInbounds, ∃ needed, spec.needs d = some needed ∧ slot ∈ needed) ∨
    ∃ e ∈ c.wantedTunnels, ∃ needed, e.needs = some needed ∧ slot ∈ needed

/-- Every listener that is wanted can be opened, and no two of them want one socket. -/
structure Compatible (host : ExclusiveHost π) (c : Config) : Prop where
  inbounds : ∀ spec ∈ c.wantedInbounds, spec.needs host.drivers ≠ none
  tunnels : ∀ e ∈ c.wantedTunnels, e.needs ≠ none
  distinct : ∀ a b, c.Wants host.drivers a → c.Wants host.drivers b →
    host.socket a = host.socket b → a = b

/-- The socket of a wanted slot is held by a listener of a later turn. -/
def Blocked (host : ExclusiveHost π) (c : Config) (m : Manager (List (Socket π))) : Prop :=
  ∃ slot, c.Wants host.drivers slot ∧
    ∃ h ∈ m.handles, host.socket h.slot = host.socket slot ∧ slot.2.turn < h.service.turn

/-- Where nothing is blocked, a listener of a later turn holds no wanted socket. -/
theorem apart_of_later {host : ExclusiveHost π} {c : Config} {m : Manager (List (Socket π))}
    (unblocked : ¬ c.Blocked host m) {slot : Slot} (wants : c.Wants host.drivers slot) {h : Handle}
    (held : h ∈ m.handles) (later : slot.2.turn < h.service.turn) :
    host.socket h.slot ≠ host.socket slot :=
  fun same => unblocked ⟨slot, wants, h, held, same, later⟩

theorem wants_inbound {d : Drivers σ} {c : Config} {m : Manager σ} (whole : m.Whole d)
    {spec : InboundSpec} (desired : spec ∈ c.wantedInbounds) {h : Handle} (held : h ∈ m.handles)
    (part : h.service.spec? = some spec) : c.Wants d h.slot := by
  obtain ⟨needed, needs, slots⟩ := whole.inbounds spec (Manager.mem_inbounds.mpr ⟨h, held, part⟩)
  exact .inl ⟨spec, desired, needed, needs, (slots h.slot part).mpr ⟨h, held, rfl⟩⟩

theorem wants_tunnel {d : Drivers σ} {c : Config} {m : Manager σ} (whole : m.Whole d)
    {e : TunnelEntry} (desired : e ∈ c.wantedTunnels) {h : Handle} (held : h ∈ m.handles)
    (part : TunnelEntry.ofSlot h.slot = some e) : c.Wants d h.slot := by
  obtain ⟨needed, needs, slots⟩ := whole.tunnels e (Manager.mem_tunnels.mpr ⟨h, held, part⟩)
  exact .inr ⟨e, desired, needed, needs, (slots h.slot part).mpr ⟨h, held, rfl⟩⟩

end Config

namespace Phases

variable {π : Type} [DecidableEq π] {host : ExclusiveHost π} {c : Config}
  {m : Manager (List (Socket π))}

theorem needs_inbound (compatible : c.Compatible host) {spec : InboundSpec}
    (desired : spec ∈ c.wantedInbounds) :
    ∃ needed, (Manager.inboundLayer host.drivers).needs spec = some needed ∧
      ∀ slot ∈ needed, c.Wants host.drivers slot := by
  obtain ⟨needed, needs⟩ := Option.ne_none_iff_exists'.mp (compatible.inbounds spec desired)
  exact ⟨needed, needs, fun slot member => .inl ⟨spec, desired, needed, needs, member⟩⟩

theorem needs_tunnel (compatible : c.Compatible host) {e : TunnelEntry}
    (desired : e ∈ c.wantedTunnels) :
    ∃ needed, e.needs = some needed ∧ ∀ slot ∈ needed, c.Wants host.drivers slot := by
  obtain ⟨needed, needs⟩ := Option.ne_none_iff_exists'.mp (compatible.tunnels e desired)
  exact ⟨needed, needs, fun slot member => .inr ⟨e, desired, needed, needs, member⟩⟩

theorem whole_ports (phases : Phases host.drivers c m) (whole : m.Whole host.drivers) :
    phases.afterPorts.1.Whole host.drivers :=
  ⟨phases.ports.whole whole.inbounds, whole.tunnels.rests fun e => (phases.tunnel_rests e).1⟩

theorem whole_inbounds (phases : Phases host.drivers c m) (whole : m.Whole host.drivers) :
    phases.afterInbounds.1.Whole host.drivers :=
  ⟨phases.inbounds.whole (phases.whole_ports whole).inbounds,
    (phases.whole_ports whole).tunnels.rests fun e => (phases.tunnel_rests e).2⟩

theorem whole_tunnels (phases : Phases host.drivers c m) (whole : m.Whole host.drivers) :
    phases.afterTunnels.1.Whole host.drivers :=
  ⟨(phases.whole_inbounds whole).inbounds.rests phases.inbound_rests,
    phases.tunnels.whole (phases.whole_inbounds whole).tunnels⟩

/-- What is wanted in the second turn is wanted at all. -/
theorem wanted_second (phases : Phases host.drivers c m) (explicit : c.Explicit)
    {spec : InboundSpec} (desired : spec ∈ c.inbounds ++ phases.afterPorts.1.legacyInbounds) :
    spec ∈ c.wantedInbounds := by
  rcases List.mem_append.mp desired with own | carried
  · exact List.mem_append_left _ own
  · obtain ⟨runs, legacy⟩ := List.mem_filter.mp carried
    exact (Config.mem_wanted_legacy explicit legacy).mp (phases.ports.running_iff.mp runs).1

/-- Every wanted legacy inbound comes up in the first turn. -/
theorem ports_succeed (phases : Phases host.drivers c m) (explicit : c.Explicit)
    (hosts : host.Hosts m) (whole : m.Whole host.drivers) (compatible : c.Compatible host)
    (unblocked : ¬ c.Blocked host m) :
    (∀ spec ∈ c.wantedInbounds, spec.legacy = true → spec ∈ phases.afterPorts.1.inbounds) ∧
      phases.afterPorts.2.failed = [] := by
  have idle_legacy : ∀ spec ∈ m.explicitInbounds ++ c.portInbounds, spec ∉ m.inbounds →
      spec.legacy = true ∧ spec ∈ c.wantedInbounds := by
    intro spec desired idle
    have legacy : spec.legacy = true := by
      rcases List.mem_append.mp desired with runs | port
      · exact absurd (List.mem_filter.mp runs).1 idle
      · exact Ports.legacy_toInbounds port
    exact ⟨legacy, (Config.mem_wanted_legacy explicit legacy).mp desired⟩
  have clear : ∀ h ∈ m.handles,
      (Manager.inboundLayer host.drivers).Stays (m.explicitInbounds ++ c.portInbounds) h →
      c.Wants host.drivers h.slot ∨
        ∀ spec ∈ m.explicitInbounds ++ c.portInbounds, spec ∉ m.inbounds →
          ∀ slot : Slot, slot.2.spec? = some spec → c.Wants host.drivers slot →
            host.socket h.slot ≠ host.socket slot := by
    intro h held stays
    by_cases turn : h.service.turn = 0
    · obtain ⟨other, part, legacy⟩ := Service.turn_zero turn
      have desired := (Config.mem_wanted_legacy explicit legacy).mp (stays other part)
      exact .inl (Config.wants_inbound whole desired held part)
    · refine .inr fun spec desired idle slot part wants => ?_
      refine Config.apart_of_later unblocked wants held ?_
      rw [Service.turn_legacy part (idle_legacy spec desired idle).1]
      exact Nat.pos_of_ne_zero turn
  obtain ⟨run, none_failed⟩ := hosts.succeeds phases.ports
    (fun spec desired idle => needs_inbound compatible (idle_legacy spec desired idle).2) clear
    compatible.distinct
  refine ⟨fun spec desired legacy => run spec ?_, none_failed⟩
  exact (Config.mem_wanted_legacy explicit legacy).mpr desired

/-- Every wanted explicit inbound comes up in the second turn. -/
theorem inbounds_succeed (phases : Phases host.drivers c m) (explicit : c.Explicit)
    (hosts : host.Hosts m) (whole : m.Whole host.drivers) (compatible : c.Compatible host)
    (unblocked : ¬ c.Blocked host m) :
    (∀ spec ∈ c.inbounds, spec ∈ phases.afterInbounds.1.inbounds) ∧
      phases.afterInbounds.2.failed = [] := by
  have clear : ∀ h ∈ phases.afterPorts.1.handles,
      (Manager.inboundLayer host.drivers).Stays
        (c.inbounds ++ phases.afterPorts.1.legacyInbounds) h →
      c.Wants host.drivers h.slot ∨
        ∀ spec ∈ c.inbounds ++ phases.afterPorts.1.legacyInbounds,
          spec ∉ phases.afterPorts.1.inbounds →
          ∀ slot : Slot, slot.2.spec? = some spec → c.Wants host.drivers slot →
            host.socket h.slot ≠ host.socket slot := by
    intro h held stays
    cases service : h.service with
    | inbound other =>
      have part : h.service.spec? = some other := congrArg Service.spec? service
      have desired := phases.wanted_second explicit (stays other part)
      exact .inl (Config.wants_inbound (phases.whole_ports whole) desired held part)
    | tunnel key =>
      have part : TunnelEntry.ofSlot h.slot = some ⟨h.network, key⟩ :=
        TunnelEntry.ofSlot_eq.mpr (congrArg (Prod.mk h.network) service)
      have before := ((phases.tunnel_rests _).1.handles h part).mp held
      refine .inr fun spec desired idle slot part wants => ?_
      refine Config.apart_of_later unblocked wants before ?_
      have own : spec.legacy = false := by
        rcases List.mem_append.mp desired with own | carried
        · exact explicit spec own
        · exact absurd (List.mem_filter.mp carried).1 idle
      rw [Service.turn_explicit part own, service]
      exact Nat.lt_succ_self 1
  obtain ⟨run, none_failed⟩ := (hosts.moves phases.ports.moves).succeeds phases.inbounds
    (fun spec desired _ => needs_inbound compatible (phases.wanted_second explicit desired)) clear
    compatible.distinct
  exact ⟨fun spec own => run spec (List.mem_append_left _ own), none_failed⟩

/-- Every wanted tunnel comes up in the third turn, blocked or not: nothing comes after it. -/
theorem tunnels_succeed (phases : Phases host.drivers c m) (explicit : c.Explicit)
    (hosts : host.Hosts m) (whole : m.Whole host.drivers) (compatible : c.Compatible host) :
    (∀ e ∈ c.wantedTunnels, e ∈ phases.afterTunnels.1.tunnels) ∧
      phases.afterTunnels.2.failed = [] := by
  have wants : ∀ h ∈ phases.afterInbounds.1.handles,
      (Manager.tunnelLayer (σ := List (Socket π))).Stays c.wantedTunnels h →
        c.Wants host.drivers h.slot := by
    intro h held stays
    cases service : h.service with
    | inbound other =>
      have part : h.service.spec? = some other := congrArg Service.spec? service
      have runs := phases.inbounds.running_iff.mp (Manager.mem_inbounds.mpr ⟨h, held, part⟩)
      have desired := phases.wanted_second explicit runs.1
      exact Config.wants_inbound (phases.whole_inbounds whole) desired held part
    | tunnel key =>
      have part : TunnelEntry.ofSlot h.slot = some ⟨h.network, key⟩ :=
        TunnelEntry.ofSlot_eq.mpr (congrArg (Prod.mk h.network) service)
      exact Config.wants_tunnel (phases.whole_inbounds whole) (stays _ part) held part
  have later := (hosts.moves phases.ports.moves).moves phases.inbounds.moves
  exact later.succeeds phases.tunnels (fun e desired _ => needs_tunnel compatible desired)
    (fun h held stays => .inl (wants h held stays)) compatible.distinct

/-- What is blocked does not run before its turn. -/
theorem idle_of_blocked (hosts : host.Hosts m) (whole : m.Whole host.drivers) {spec : InboundSpec}
    {needed : List Slot} (needs : spec.needs host.drivers = some needed) {slot : Slot}
    (member : slot ∈ needed) {h : Handle} (held : h ∈ m.handles)
    (same : host.socket h.slot = host.socket slot) (later : slot.2.turn < h.service.turn) :
    spec ∉ m.inbounds := by
  intro runs
  obtain ⟨own, held', rfl⟩ := whole.inbounds.held runs needs member
  obtain rfl := hosts.eq_of_socket held held' same
  exact Nat.lt_irrefl _ later

/-- A legacy inbound that is blocked is refused in the first turn. -/
theorem legacy_down (phases : Phases host.drivers c m) (explicit : c.Explicit)
    (hosts : host.Hosts m) {spec : InboundSpec} (legacy : spec.legacy = true)
    (idle : spec ∉ m.inbounds) {needed : List Slot}
    (needs : spec.needs host.drivers = some needed) {slot : Slot} (member : slot ∈ needed)
    {h : Handle} (held : h ∈ m.handles) (same : host.socket h.slot = host.socket slot)
    (later : 0 < h.service.turn) : spec ∉ phases.afterInbounds.1.inbounds := by
  have stays : (Manager.inboundLayer host.drivers).Stays
      (m.explicitInbounds ++ c.portInbounds) h := by
    intro other (part : h.service.spec? = some other)
    have runs := Manager.mem_inbounds.mpr ⟨h, held, part⟩
    cases origin : other.legacy with
    | true =>
      rw [Service.turn_legacy part origin] at later
      exact absurd later (Nat.lt_irrefl _)
    | false => exact List.mem_append_left _ (List.mem_filter.mpr ⟨runs, by simp [origin]⟩)
  have refused := hosts.not_granted phases.ports needs held stays member same
  have down := mt phases.ports.running_iff.mp fun ⟨_, up⟩ => up.elim idle refused
  exact mt (phases.legacy_rests explicit legacy).running.mp down

/-- An explicit inbound that is blocked, by a tunnel then, is refused in the second turn. -/
theorem explicit_down (phases : Phases host.drivers c m) (hosts : host.Hosts m)
    {spec : InboundSpec} (own : spec.legacy = false) (idle : spec ∉ m.inbounds)
    {needed : List Slot} (needs : spec.needs host.drivers = some needed) {slot : Slot}
    (member : slot ∈ needed) {h : Handle} (held : h ∈ m.handles)
    (same : host.socket h.slot = host.socket slot) (later : 1 < h.service.turn) :
    spec ∉ phases.afterInbounds.1.inbounds := by
  have stays : ∀ wanted, (Manager.inboundLayer host.drivers).Stays wanted h := by
    intro wanted other (part : h.service.spec? = some other)
    cases origin : other.legacy with
    | true =>
      rw [Service.turn_legacy part origin] at later
      exact absurd later (Nat.not_lt_zero _)
    | false =>
      rw [Service.turn_explicit part origin] at later
      exact absurd later (Nat.lt_irrefl _)
  have still_held := phases.ports.stay held (stays _)
  have still_idle := mt (phases.explicit_rests own).running.mp idle
  have refused := (hosts.moves phases.ports.moves).not_granted phases.inbounds needs
    still_held (stays _) member same
  exact mt phases.inbounds.running_iff.mp fun ⟨_, up⟩ => up.elim still_idle refused

/-- A slot that is blocked is still not open in the end. -/
theorem blocked_down (phases : Phases host.drivers c m) (explicit : c.Explicit)
    (hosts : host.Hosts m) (whole : m.Whole host.drivers) (blocked : c.Blocked host m) :
    ∃ slot, c.Wants host.drivers slot ∧ ∀ h ∈ phases.afterTunnels.1.handles, h.slot ≠ slot := by
  obtain ⟨slot, wants, h, held, same, later⟩ := blocked
  refine ⟨slot, wants, ?_⟩
  rcases wants with ⟨spec, desired, needed, needs, member⟩ | ⟨e, desired, needed, needs, member⟩
  · have part : slot.2.spec? = some spec :=
      (Manager.inboundLayer host.drivers).part_needs needs member
    have idle := idle_of_blocked hosts whole needs member held same later
    have down : spec ∉ phases.afterInbounds.1.inbounds := by
      cases legacy : spec.legacy with
      | true =>
        rw [Service.turn_legacy part legacy] at later
        exact phases.legacy_down explicit hosts legacy idle needs member held same later
      | false =>
        rw [Service.turn_explicit part legacy] at later
        exact phases.explicit_down hosts legacy idle needs member held same later
    rintro own open_ rfl
    refine mt (phases.inbound_rests spec).running.mp down ?_
    exact Manager.mem_inbounds.mpr ⟨own, open_, part⟩
  · obtain ⟨_, rfl⟩ := TunnelEntry.needs_eq needs
    rw [List.mem_singleton.mp member] at later
    exact absurd later (Nat.not_lt.mpr h.service.turn_le)

end Phases

namespace Hub

variable {σ π : Type} [DecidableEq π] {host : ExclusiveHost π} {d : Outside (List (Socket π))}
  {h : Hub (List (Socket π))} {document : Document} {c : Config}

/-- All that a configuration wants runs, and no failure was reported. -/
structure ComesUp (d : Drivers σ) (c : Config) (out : Hub σ × Application) : Prop where
  slots : ∀ slot, c.Wants d slot → ∃ h ∈ out.1.manager.handles, h.slot = slot
  inbounds : ∀ spec ∈ c.wantedInbounds, spec ∈ out.1.manager.inbounds
  tunnels : ∀ e ∈ c.wantedTunnels, e ∈ out.1.manager.tunnels
  reports : out.2.ports.failed = [] ∧ out.2.inbounds.failed = [] ∧ out.2.tunnels.failed = []

theorem stable_hosted (host : ExclusiveHost π) :
    Stable host.drivers fun m => host.Hosts m ∧ m.Whole host.drivers where
  perform _ operation := fun ⟨hosts, whole⟩ =>
    ⟨hosts.moves (Manager.perform_moves hosts.balanced.sole operation),
      whole.perform hosts.balanced.sole operation⟩
  log _ _ := fun ⟨hosts, whole⟩ => ⟨⟨hosts.balanced, hosts.holds⟩, ⟨whole.inbounds, whole.tunnels⟩⟩

theorem hosted (exclusive : d.toDrivers = host.drivers) (reachable : Reachable d [] h) :
    host.Hosts h.manager ∧ h.manager.Whole host.drivers := by
  have stable : Stable d.toDrivers fun m => host.Hosts m ∧ m.Whole host.drivers := by
    rw [exclusive]
    exact stable_hosted host
  exact stable.reachable ⟨⟨Manager.balanced_start [], .start⟩, .of_empty rfl⟩ reachable

theorem hosted_bound (exclusive : d.toDrivers = host.drivers) (reachable : Reachable d [] h)
    (c : Config) : host.Hosts (h.bound c) ∧ (h.bound c).Whole host.drivers := by
  obtain ⟨hosts, whole⟩ := hosted exclusive reachable
  exact ⟨⟨hosts.balanced, hosts.holds⟩, ⟨whole.inbounds, whole.tunnels⟩⟩

theorem comes_up (exclusive : d.toDrivers = host.drivers) (reachable : Reachable d [] h)
    (checked : document.check = .ok c) (compatible : c.Compatible host)
    (unblocked : ¬ c.Blocked host h.manager) :
    ComesUp host.drivers c (h.applying host.drivers c) := by
  obtain ⟨hosts, whole⟩ := hosted_bound exclusive reachable c
  have explicit := Document.check_explicit checked
  obtain ⟨phases, report, result⟩ := apply_phases (d := host.drivers) hosts.balanced.sole c
  rw [result]
  obtain ⟨legacy_run, ports_report⟩ :=
    phases.ports_succeed explicit hosts whole compatible unblocked
  obtain ⟨explicit_run, inbounds_report⟩ :=
    phases.inbounds_succeed explicit hosts whole compatible unblocked
  obtain ⟨tunnels_run, tunnels_report⟩ := phases.tunnels_succeed explicit hosts whole compatible
  have inbounds_run : ∀ spec ∈ c.wantedInbounds, spec ∈ phases.afterTunnels.1.inbounds := by
    intro spec desired
    refine (phases.inbound_rests spec).running.mpr ?_
    cases legacy : spec.legacy with
    | true =>
      exact (phases.legacy_rests explicit legacy).running.mpr (legacy_run spec desired legacy)
    | false =>
      exact explicit_run spec ((List.mem_append.mp desired).resolve_right (Config.not_port legacy))
  refine ⟨?_, inbounds_run, tunnels_run, ports_report, inbounds_report, tunnels_report⟩
  have whole := phases.whole_tunnels whole
  rintro slot (⟨spec, desired, needed, needs, member⟩ | ⟨e, desired, needed, needs, member⟩)
  · exact whole.inbounds.held (inbounds_run spec desired) needs member
  · exact whole.tunnels.held (tunnels_run e desired) needs member

theorem stays_down (exclusive : d.toDrivers = host.drivers) (reachable : Reachable d [] h)
    (checked : document.check = .ok c) (blocked : c.Blocked host h.manager) :
    ¬ ComesUp host.drivers c (h.applying host.drivers c) := by
  obtain ⟨hosts, whole⟩ := hosted_bound exclusive reachable c
  obtain ⟨phases, report, result⟩ := apply_phases (d := host.drivers) hosts.balanced.sole c
  rw [result]
  intro up
  obtain ⟨slot, wants, down⟩ :=
    phases.blocked_down (Document.check_explicit checked) hosts whole blocked
  obtain ⟨own, open_, here⟩ := up.slots slot wants
  exact down own open_ here

/-- In every state a hub can come to on a host of its own, a valid configuration whose listeners
can be opened and want sockets of their own comes up just if none of these is held by a listener
of a later turn. -/
theorem comes_up_iff (exclusive : d.toDrivers = host.drivers) (reachable : Reachable d [] h)
    (checked : document.check = .ok c) (compatible : c.Compatible host) :
    ComesUp host.drivers c (h.applying host.drivers c) ↔ ¬ c.Blocked host h.manager :=
  ⟨fun up blocked => stays_down exclusive reachable checked blocked up,
    comes_up exclusive reachable checked compatible⟩

/-- A host that takes addresses as they are written. -/
def plainHost : ExclusiveHost String where
  place := id
  serves := servedByDefault
  bound _ _ := default
  fault network service := .bind network service.address "Address already in use (os error 98)"
  complaint _ := none

def plainOutside : Outside (List (Socket String)) :=
  { plainHost.drivers with
    configFile := fun _ => .error .missing
    exchange := fun _ _ held => (.error .timeout, held) }

/-- A configuration that wants one listener is compatible with itself. -/
theorem compatible_single (host : ExclusiveHost π) (spec : InboundSpec) (slot : Slot)
    (inbound : c.wantedInbounds = [spec]) (no_tunnel : c.wantedTunnels = [])
    (needs : spec.needs host.drivers = some [slot]) :
    c.Compatible host ∧ ∀ other, c.Wants host.drivers other ↔ other = slot := by
  have wants : ∀ other, c.Wants host.drivers other ↔ other = slot := by
    intro other
    simp [Config.Wants, inbound, no_tunnel, needs]
  refine ⟨⟨?_, ?_, ?_⟩, wants⟩
  · simp [inbound, needs]
  · simp [no_tunnel]
  · intro a b left right _
    rw [(wants a).mp left, (wants b).mp right]

theorem portConfig_compatible :
    portConfig.Compatible plainHost ∧ ∀ slot, portConfig.Wants plainHost.drivers slot ↔
      slot = (.tcp, .inbound ⟨.http, "127.0.0.1:7890", true⟩) :=
  compatible_single plainHost ⟨.http, "127.0.0.1:7890", true⟩ _ (by decide) (by decide) (by decide)

theorem comes_up_iff_port :
    ComesUp plainHost.drivers portConfig
      ((create [] "config.yaml" {} 1).applying plainHost.drivers portConfig) := by
  refine (comes_up_iff (d := plainOutside) rfl ⟨"config.yaml", {}, 1, [], rfl⟩ portDocument_check
    portConfig_compatible.1).mpr ?_
  rintro ⟨_, _, h, held, _⟩
  cases held

/-- A document with an inbound of its own at the address that the port stands for. -/
def inboundDocument : Document := { inbounds := [.url "http://127.0.0.1:7890"] }

def inboundConfig : Config := { inbounds := [⟨.http, "127.0.0.1:7890", false⟩] }

theorem inboundDocument_check : inboundDocument.check = .ok inboundConfig := rfl

theorem inboundConfig_compatible :
    inboundConfig.Compatible plainHost ∧ ∀ slot, inboundConfig.Wants plainHost.drivers slot ↔
      slot = (.tcp, .inbound ⟨.http, "127.0.0.1:7890", false⟩) :=
  compatible_single plainHost ⟨.http, "127.0.0.1:7890", false⟩ _ (by decide) (by decide) (by decide)

/-- An address that moves from an explicit inbound to a port does not come up. -/
theorem moved_to_port_stays_down :
    inboundDocument.check = .ok inboundConfig ∧ portDocument.check = .ok portConfig ∧
      portConfig.Compatible plainHost ∧
      ¬ ComesUp plainHost.drivers portConfig
        ((run plainOutside (create [] "config.yaml" {} 1) [.apply inboundConfig]).applying
          plainHost.drivers portConfig) := by
  refine ⟨inboundDocument_check, portDocument_check, portConfig_compatible.1, ?_⟩
  refine stays_down (d := plainOutside) rfl ⟨_, _, _, _, rfl⟩ portDocument_check ?_
  have empty : ¬ inboundConfig.Blocked plainHost (create [] "config.yaml" {} 1).manager := by
    rintro ⟨_, _, h, held, _⟩
    cases held
  have up := comes_up (d := plainOutside) (h := create [] "config.yaml" {} 1) rfl
    ⟨_, _, _, [], rfl⟩ inboundDocument_check inboundConfig_compatible.1 empty
  obtain ⟨h, held, here⟩ := up.slots _ ((inboundConfig_compatible.2 _).mpr rfl)
  refine ⟨_, (portConfig_compatible.2 _).mpr rfl, h, held, ?_, ?_⟩
  · rw [here]
    rfl
  · rw [show h.service = _ from congrArg Prod.snd here]
    decide

end Hub

end LocalProxy
