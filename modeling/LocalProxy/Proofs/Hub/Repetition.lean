import LocalProxy.Listening.Sockets
import LocalProxy.Proofs.Hub.Operations
import LocalProxy.Proofs.Listening.Repetition

/-! Applying a configuration twice. Each of its three reconciliations tries what had failed in it
the first time, and nothing else. -/
namespace LocalProxy

variable {σ : Type} {d d' : Drivers σ} {c : Config} {m m' : Manager σ}

namespace Phases

theorem sole (phases : Phases d c m) (sole : Sole m.handles) :
    Sole phases.afterPorts.1.handles ∧ Sole phases.afterInbounds.1.handles ∧
      Sole phases.afterTunnels.1.handles :=
  have ports := phases.ports.moves.sole sole
  have inbounds := phases.inbounds.moves.sole ports
  ⟨ports, inbounds, phases.tunnels.moves.sole inbounds⟩

section Running

variable (phases : Phases d c m) {spec : InboundSpec}

/-- A legacy inbound runs at the end just if it did after the ports were replaced. -/
theorem running_legacy (explicit : c.Explicit) (legacy : spec.legacy = true) :
    spec ∈ phases.afterTunnels.1.inbounds ↔ spec ∈ phases.afterPorts.1.inbounds :=
  ((phases.legacy_rests explicit legacy).trans (phases.inbound_rests spec)).running

/-- An explicit inbound runs before the inbounds are replaced just if it did at the start. -/
theorem running_explicit (own : spec.legacy = false) :
    spec ∈ phases.afterPorts.1.inbounds ↔ spec ∈ m.inbounds := (phases.explicit_rests own).running

theorem running_inbound (spec : InboundSpec) :
    spec ∈ phases.afterTunnels.1.inbounds ↔ spec ∈ phases.afterInbounds.1.inbounds :=
  (phases.inbound_rests spec).running

theorem running_tunnel (e : TunnelEntry) :
    e ∈ phases.afterInbounds.1.tunnels ↔ e ∈ m.tunnels :=
  ((phases.tunnel_rests e).1.trans (phases.tunnel_rests e).2).running

end Running

section Again

variable (phases : Phases d c m)

/-- Replacing the ports again leaves just those to be opened that failed. -/
theorem plan_ports (explicit : c.Explicit) :
    Plan.between phases.afterTunnels.1.inbounds
        (phases.afterTunnels.1.explicitInbounds ++ c.portInbounds) =
      ⟨[], phases.afterPorts.2.failed.map Prod.fst⟩ := by
  refine phases.ports.next_plan (.inr rfl) (.inr rfl) (fun spec => List.mem_of_mem_filter)
    (fun spec => List.mem_of_mem_filter) (fun spec runs => ?_) fun spec listed =>
      phases.running_legacy explicit (Ports.legacy_toInbounds listed)
  rw [Manager.mem_explicitInbounds]
  cases legacy : spec.legacy with
  | false => exact .inr ⟨runs, rfl⟩
  | true =>
    have ran := (phases.running_legacy explicit legacy).mp runs
    refine .inl ((List.mem_append.mp (phases.ports.running_iff.mp ran).1).resolve_left ?_)
    intro carried
    cases legacy.symm.trans (Manager.mem_explicitInbounds.mp carried).2

/-- Replacing the inbounds again, after ports that were replaced on top, leaves just those to be
opened that failed. -/
theorem plan_inbounds (explicit : c.Explicit)
    (same : ∀ spec, spec.legacy = false →
      (spec ∈ m'.inbounds ↔ spec ∈ phases.afterTunnels.1.inbounds)) :
    Plan.between m'.inbounds (c.inbounds ++ m'.legacyInbounds) =
      ⟨[], phases.afterInbounds.2.failed.map Prod.fst⟩ := by
  have running : ∀ spec, spec.legacy = false →
      (spec ∈ m'.inbounds ↔ spec ∈ phases.afterInbounds.1.inbounds) := fun spec own =>
    (same spec own).trans (phases.running_inbound spec)
  refine phases.inbounds.next_plan (.inl rfl) (.inl rfl) (fun spec => List.mem_of_mem_filter)
    (fun spec => List.mem_of_mem_filter) (fun spec runs => ?_) fun spec listed =>
      running spec (explicit spec listed)
  rw [Manager.mem_legacyInbounds]
  cases legacy : spec.legacy with
  | true => exact .inr ⟨runs, rfl⟩
  | false =>
    have ran := (running spec legacy).mp runs
    refine .inl ((List.mem_append.mp (phases.inbounds.running_iff.mp ran).1).resolve_right ?_)
    intro carried
    cases legacy.symm.trans (Manager.mem_legacyInbounds.mp carried).2

theorem plan_tunnels (same : ∀ e, e ∈ m'.tunnels ↔ e ∈ phases.afterTunnels.1.tunnels) :
    Plan.between m'.tunnels c.wantedTunnels =
      ⟨[], phases.afterTunnels.2.failed.map Prod.fst⟩ :=
  have alone : Plan.Beside c.wantedTunnels [] c.wantedTunnels := .inr rfl
  phases.tunnels.next_plan alone alone nofun nofun
    (fun e runs => .inl (phases.tunnels.running_iff.mp ((same e).mp runs)).1) (fun e _ => same e)

end Again

end Phases

namespace Hub

open Manager

/-- A configuration was applied again: what had failed was tried, of the legacy inbounds, then of
the explicit ones, then of the tunnels, and that is all but for a record. -/
inductive Retries (d : Drivers σ) (first second : Hub σ × Application) : Prop
  | intro {afterPorts afterInbounds afterTunnels : Manager σ}
      (ports : (inboundLayer d).Tries d (createInbound d) (first.2.ports.failed.map Prod.fst)
        first.1.manager (afterPorts, second.2.ports))
      (inbounds : (inboundLayer d).Tries d (createInbound d) (first.2.inbounds.failed.map Prod.fst)
        afterPorts (afterInbounds, second.2.inbounds))
      (tunnels : tunnelLayer.Tries d (createTunnel d) (first.2.tunnels.failed.map Prod.fst)
        afterInbounds (afterTunnels, second.2.tunnels))
      (rest : second.1 = { first.1 with manager := afterTunnels.log (applied second.2) })

/-- Where nothing had failed, nothing is done but to say so. -/
theorem Retries.nothing {first second : Hub σ × Application} (retries : Retries d first second)
    (ports : first.2.ports.failed = []) (inbounds : first.2.inbounds.failed = [])
    (tunnels : first.2.tunnels.failed = []) :
    second.2.ports = .empty ∧ second.2.inbounds = .empty ∧ second.2.tunnels = .empty ∧
      second.1 = first.1.log (applied second.2) := by
  obtain ⟨first_tries, second_tries, third_tries, rest⟩ := retries
  obtain ⟨rfl, no_ports⟩ := Prod.mk.inj (first_tries.nothing (by rw [ports]; rfl))
  obtain ⟨rfl, no_inbounds⟩ := Prod.mk.inj (second_tries.nothing (by rw [inbounds]; rfl))
  obtain ⟨rfl, no_tunnels⟩ := Prod.mk.inj (third_tries.nothing (by rw [tunnels]; rfl))
  exact ⟨no_ports, no_inbounds, no_tunnels, rest⟩

/-- The binding is that of the configuration already when it is applied again. -/
theorem bound_eq {h : Hub σ} (same : h.manager.binding = c.general.binding) :
    h.bound c = h.manager := by
  rw [bound, ← same]

theorem applying_retries {h : Hub σ} (sole : Sole h.manager.handles) (explicit : c.Explicit) :
    Retries d' (h.applying d c) ((h.applying d c).1.applying d' c) := by
  obtain ⟨phases, report, applied⟩ := apply_phases (d := d) (h := h) sole c
  rw [applied]
  set after : Hub σ := { h with
    manager := phases.afterTunnels.1.log report
    rules := c.rules
    resolver := c.dns.resolver?
    general := h.overrides.apply c.general }
  have start : after.bound c = after.manager := bound_eq phases.consults.asks.binding
  have sole_after : Sole (after.bound c).handles := (phases.sole sole).2.2
  obtain ⟨again, ports, inbounds, tunnels⟩ :=
    Phases.exists_of_sole (d := d') (c := c) (m := after.bound c) sole_after
  obtain ⟨sole_ports, sole_inbounds, _⟩ := again.sole sole_after
  have result : after.applying d' c =
      let second : Application := ⟨(h.application c).config, again.afterPorts.2,
        again.afterInbounds.2, again.afterTunnels.2⟩
      ({ after with manager := again.afterTunnels.1.log (Hub.applied second) }, second) := by
    rw [tunnels, inbounds, ports]
    rfl
  have ports_try : (inboundLayer d').Tries d' (createInbound d')
      (phases.afterPorts.2.failed.map Prod.fst) after.manager again.afterPorts := by
    rw [ports, ← start]
    exact reconcileInbounds_tries sole_after (phases.plan_ports explicit)
  have inbounds_try : (inboundLayer d').Tries d' (createInbound d')
      (phases.afterInbounds.2.failed.map Prod.fst) again.afterPorts.1 again.afterInbounds := by
    rw [inbounds]
    exact reconcileInbounds_tries sole_ports
      (phases.plan_inbounds explicit fun spec own => again.running_explicit own)
  have tunnels_try : tunnelLayer.Tries d' (createTunnel d')
      (phases.afterTunnels.2.failed.map Prod.fst) again.afterInbounds.1 again.afterTunnels := by
    rw [tunnels]
    exact replaceTunnels_tries sole_inbounds (phases.plan_tunnels again.running_tunnel)
  dsimp only
  rw [result]
  exact .intro ports_try inbounds_try tunnels_try rfl

/-- In whatever state a manager or a hub is, and whatever the outside answers each time: asked the
same twice in a row, it tries just what had failed, in the same order and each once, and closes and
replaces nothing. If nothing had failed, it makes no call. -/
theorem repetition_retries (d : Outside σ) (first second : Drivers σ) (outside : σ) :
    (∀ operations,
      (Manager.run d.toDrivers { outside := outside } operations).Retries first second) ∧
    ∀ path overrides logBuffer operations,
      let h := run d (create outside path overrides logBuffer) operations
      h.manager.Retries first second ∧
      ∀ c : Config, c.Explicit →
        let once := h.applying first c
        let twice := once.1.applying second c
        Retries second once twice ∧
          (once.2.ports.failed = [] → once.2.inbounds.failed = [] → once.2.tunnels.failed = [] →
            twice.2.ports = .empty ∧ twice.2.inbounds = .empty ∧ twice.2.tunnels = .empty ∧
              twice.1 = once.1.log (applied twice.2)) := by
  constructor
  · intro operations
    exact Manager.retries ((Manager.balanced_start outside).run operations).sole
  · intro path overrides logBuffer operations h
    have reachable : Reachable d outside h := ⟨path, overrides, logBuffer, operations, rfl⟩
    have sole := reachable.balanced.sole
    refine ⟨Manager.retries sole, ?_⟩
    intro c explicit once twice
    have retries : Retries second once twice := applying_retries sole explicit
    exact ⟨retries, retries.nothing⟩

/-- An outside that refuses every listener. -/
def refusing : Drivers Unit :=
  { obliging.toDrivers with
    listen := fun network service s =>
      (.error (.bind network service.address Sockets.addressInUse), s) }

theorem repetition_retries_port :
    let port : InboundSpec := ⟨.http, "127.0.0.1:7890", true⟩
    let once := (create () "config.yaml" {} 1).applying refusing portConfig
    let twice := once.1.applying obliging.toDrivers portConfig
    portConfig.Explicit ∧ once.2.ports.failed.map Prod.fst = [port] ∧
      twice.2.ports.created = [port] ∧ Retries obliging.toDrivers once twice := by
  have explicit : portConfig.Explicit := by simp [Config.Explicit, portConfig]
  have repeated := (repetition_retries obliging refusing obliging.toDrivers ()).2
    "config.yaml" {} 1 []
  exact ⟨explicit, by decide +kernel, by decide +kernel, (repeated.2 portConfig explicit).1⟩

end Hub

end LocalProxy
