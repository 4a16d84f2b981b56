import LocalProxy.Proofs.Hub.Dropping
import LocalProxy.Proofs.Hub.Turns
import LocalProxy.Proofs.Listening.Wholeness
import Mathlib.Data.List.Permutation
import Mathlib.Data.List.Sort

/-! Patches of the general settings that set different fields. None of them is lost, and what they
leave does not depend on their order. The listeners they bring up on the way may differ; which of
them are left is a matter of the last settings, as far as opening an inbound comes out the same
each time. -/
namespace LocalProxy

open Manager

variable {σ : Type}

/-- The settings that a patch may set. -/
inductive Setting
  | port (type : InboundType)
  | allowLan
  | bindAddress
  | mode
  | logLevel

def Setting.Value : Setting → Type
  | port _ => UInt16
  | allowLan => Bool
  | bindAddress => String
  | mode => Mode
  | logLevel => Level

def Ports.port (p : Ports) : InboundType → UInt16
  | .http => p.http
  | .socks => p.socks
  | .redir => p.redir
  | .tproxy => p.tproxy
  | .mixed => p.mixed

def General.setting (g : General) : (s : Setting) → s.Value
  | .port type => g.ports.port type
  | .allowLan => g.allowLan
  | .bindAddress => g.bindAddress
  | .mode => g.mode
  | .logLevel => g.logLevel

/-- Settings are the same if they are so one by one, and with them what no patch can set. -/
theorem General.ext_setting {g g' : General} (settings : ∀ s, g.setting s = g'.setting s)
    (controller : g.externalController = g'.externalController) (secret : g.secret = g'.secret) :
    g = g' := by
  have http : g.ports.http = g'.ports.http := settings (.port .http)
  have socks : g.ports.socks = g'.ports.socks := settings (.port .socks)
  have redir : g.ports.redir = g'.ports.redir := settings (.port .redir)
  have tproxy : g.ports.tproxy = g'.ports.tproxy := settings (.port .tproxy)
  have mixed : g.ports.mixed = g'.ports.mixed := settings (.port .mixed)
  have ports : g.ports = g'.ports := by
    cases ports : g.ports
    cases ports' : g'.ports
    simp_all
  have allowLan : g.allowLan = g'.allowLan := settings .allowLan
  have bindAddress : g.bindAddress = g'.bindAddress := settings .bindAddress
  have mode : g.mode = g'.mode := settings .mode
  have logLevel : g.logLevel = g'.logLevel := settings .logLevel
  cases g
  cases g'
  simp_all

namespace GeneralPatch

/-- What a patch sets a setting to, if it does. -/
def sets (p : GeneralPatch) : (s : Setting) → Option s.Value
  | .port .http => p.http
  | .port .socks => p.socks
  | .port .redir => p.redir
  | .port .tproxy => p.tproxy
  | .port .mixed => p.mixed
  | .allowLan => p.allowLan
  | .bindAddress => p.bindAddress
  | .mode => p.mode
  | .logLevel => p.logLevel

/-- No setting is set by both. -/
def Apart (p q : GeneralPatch) : Prop := ∀ s, p.sets s = none ∨ q.sets s = none

variable {p q : GeneralPatch} {g : General}

theorem setting_merge (s : Setting) : (p.merge g).setting s = (p.sets s).getD (g.setting s) := by
  cases s with
  | port type => cases type <;> rfl
  | allowLan | bindAddress | mode | logLevel => rfl

/-- Of two patches, the later one wins. What neither sets stays. -/
theorem setting_merge_merge (s : Setting) :
    (q.merge (p.merge g)).setting s = ((q.sets s).or (p.sets s)).getD (g.setting s) := by
  rw [setting_merge, setting_merge]
  cases q.sets s <;> rfl

theorem merge_comm (apart : p.Apart q) : q.merge (p.merge g) = p.merge (q.merge g) := by
  refine General.ext_setting (fun s => ?_) rfl rfl
  rw [setting_merge_merge, setting_merge_merge]
  rcases apart s with unset | unset <;> simp [unset]

end GeneralPatch

theorem InboundSpec.eq_of_sorted {specs specs' : List InboundSpec}
    (sorted : specs.Pairwise fun a b => InboundSpec.cmp a b = .lt)
    (sorted' : specs'.Pairwise fun a b => InboundSpec.cmp a b = .lt)
    (same : ∀ spec, spec ∈ specs ↔ spec ∈ specs') : specs = specs' := by
  have irrefl : Std.Irrefl fun a b => InboundSpec.cmp a b = .lt :=
    ⟨fun a => by
      have same : InboundSpec.cmp a a = .eq := Std.ReflCmp.compare_self
      simp [same]⟩
  have antisymm : Std.Antisymm fun a b => InboundSpec.cmp a b = .lt :=
    ⟨fun a b below above => by simp [Std.OrientedCmp.gt_of_lt below] at above⟩
  exact sorted.eq_of_mem_iff sorted' same

section Steady

variable {d : Drivers σ} {ok : InboundSpec → Prop} {before calls : List Call}

/-- In some calls, whether an inbound could be opened was a matter of the inbound alone: where it
is so for good, it never failed, and where it is not, it never came up. -/
structure Steady (d : Drivers σ) (ok : InboundSpec → Prop) (calls : List Call) : Prop where
  opens : ∀ spec, ok spec → ¬ (inboundLayer d).Denied calls spec
  fails : ∀ spec, ¬ ok spec → ¬ (inboundLayer d).Granted calls spec

theorem Layer.Granted.mono {κ : Type} {L : Layer σ κ} {k : κ} (granted : L.Granted before k)
    (earlier : before ⊆ calls) : L.Granted calls k := by
  obtain ⟨wanted, needs, all⟩ := granted
  refine ⟨wanted, needs, fun slot member => ?_⟩
  obtain ⟨h, asked⟩ := all slot member
  exact ⟨h, earlier asked⟩

theorem Layer.Denied.mono {κ : Type} {L : Layer σ κ} {k : κ} (denied : L.Denied before k)
    (earlier : before ⊆ calls) : L.Denied calls k := by
  rcases denied with never | ⟨wanted, needs, slot, member, fault, asked⟩
  · exact .inl never
  · exact .inr ⟨wanted, needs, slot, member, fault, earlier asked⟩

theorem Steady.mono (steady : Steady d ok calls) (earlier : before ⊆ calls) :
    Steady d ok before where
  opens spec good denied := steady.opens spec good (denied.mono earlier)
  fails spec bad granted := steady.fails spec bad (granted.mono earlier)

/-- What runs was granted. -/
theorem Layer.Whole.granted {m : Manager σ} (whole : (inboundLayer d).Whole m)
    (balanced : m.Balanced) {spec : InboundSpec} (runs : spec ∈ m.inbounds) :
    (inboundLayer d).Granted m.calls spec := by
  obtain ⟨needed, needs, -⟩ := whole spec runs
  refine ⟨needed, needs, fun slot member => ?_⟩
  obtain ⟨h, held, rfl⟩ := whole.held runs needs member
  exact ⟨h, ((balanced.live h).mp held).1⟩

end Steady

namespace Hub

variable {d : Outside σ} {outside : σ} {h : Hub σ} {ok : InboundSpec → Prop} {p q : GeneralPatch}
  {spec : InboundSpec}

theorem stable_whole (d : Drivers σ) : Stable d fun m => m.Balanced ∧ m.Whole d where
  perform _ operation := fun ⟨balanced, whole⟩ =>
    ⟨balanced.perform operation, whole.perform balanced.sole operation⟩
  log _ _ := fun ⟨balanced, whole⟩ => ⟨balanced, ⟨whole.inbounds, whole.tunnels⟩⟩

theorem Reachable.whole (reachable : Reachable d outside h) : h.manager.Whole d.toDrivers :=
  ((stable_whole d.toDrivers).reachable ⟨balanced_start outside, .of_empty rfl⟩ reachable).2

theorem Reachable.patch (reachable : Reachable d outside h) (p : GeneralPatch) :
    Reachable d outside (h.patch d.toDrivers p) := by
  obtain ⟨path, overrides, logBuffer, operations, rfl⟩ := reachable
  refine ⟨path, overrides, logBuffer, operations ++ [.patch p], ?_⟩
  rw [run_concat]
  rfl

/-- A legacy inbound is wanted by a patch just if it stands for a port of the new settings. -/
theorem mem_wanted_patch (legacy : spec.legacy = true) :
    spec ∈ (Operation.patch p).wantedInbounds h ↔ spec ∈ (p.merge h.general).portInbounds := by
  rw [Operation.wantedInbounds, List.mem_append]
  refine or_iff_right fun own => ?_
  cases legacy.symm.trans (mem_explicitInbounds.mp own).2

/-- After a patch those legacy inbounds run that the new settings want and that can be opened. -/
theorem mem_legacy_patch (reachable : Reachable d outside h)
    (steady : Steady d.toDrivers ok (h.patch d.toDrivers p).manager.calls) :
    spec ∈ (h.patch d.toDrivers p).manager.legacyInbounds ↔
      spec ∈ (p.merge h.general).portInbounds ∧ ok spec := by
  obtain ⟨asked, performed⟩ := patch_performed (d := d.toDrivers) reachable.balanced.sole p
  have settles := performed.inbounds spec
  have later : asked ⊆ (h.patch d.toDrivers p).manager.calls := fun c member => by
    rw [performed.calls]
    exact List.mem_append_right _ member
  rw [mem_legacyInbounds]
  constructor
  · rintro ⟨runs, legacy⟩
    refine ⟨(mem_wanted_patch legacy).mp (settles.running.mp runs).1, ?_⟩
    by_contra bad
    have after := reachable.patch p
    exact steady.fails spec bad (after.whole.inbounds.granted after.balanced runs)
  · rintro ⟨listed, good⟩
    have legacy := Ports.legacy_toInbounds listed
    have wish := (mem_wanted_patch legacy).mpr listed
    refine ⟨settles.running.mpr ⟨wish, ?_⟩, legacy⟩
    by_contra idle
    obtain ⟨idle, refused⟩ := not_or.mp idle
    exact steady.opens spec good (((settles.tried wish idle).mpr refused).mono later)

/-- A legacy inbound that runs and stays wanted keeps its handles. -/
theorem handle?_patch (reachable : Reachable d outside h) (runs : spec ∈ h.manager.legacyInbounds)
    (wanted : spec ∈ (p.merge h.general).portInbounds) (network : Network) :
    (h.patch d.toDrivers p).manager.handle? network (.inbound spec) =
      h.manager.handle? network (.inbound spec) := by
  have sole := reachable.balanced.sole
  obtain ⟨asked, performed⟩ := patch_performed (d := d.toDrivers) sole p
  obtain ⟨runs, legacy⟩ := mem_legacyInbounds.mp runs
  have rests := (performed.inbounds spec).kept ((mem_wanted_patch legacy).mpr wanted) runs
  exact handle?_congr sole (reachable.patch p).balanced.sole fun handle slot =>
    rests.handles handle (congrArg (fun slot => slot.2.spec?) slot)

/-- A legacy inbound that runs and stays wanted goes on running. -/
theorem runs_patch (reachable : Reachable d outside h) (runs : spec ∈ h.manager.legacyInbounds)
    (wanted : spec ∈ (p.merge h.general).portInbounds) :
    spec ∈ (h.patch d.toDrivers p).manager.legacyInbounds := by
  obtain ⟨asked, performed⟩ := patch_performed (d := d.toDrivers) reachable.balanced.sole p
  obtain ⟨runs, legacy⟩ := mem_legacyInbounds.mp runs
  have wish := (mem_wanted_patch legacy).mpr wanted
  exact mem_legacyInbounds.mpr ⟨(performed.inbounds spec).running.mpr ⟨wish, .inl runs⟩, legacy⟩

/-- What two patches leave, one after the other. -/
structure Patched (d : Drivers σ) (ok : InboundSpec → Prop) (h : Hub σ) (p q : GeneralPatch)
    (after : Hub σ) : Prop where
  setting : ∀ s, after.general.setting s = ((q.sets s).or (p.sets s)).getD (h.general.setting s)
  others : after.general.externalController = h.general.externalController ∧
    after.general.secret = h.general.secret
  binding : after.manager.binding = after.general.binding
  legacy : ∀ spec, spec ∈ after.manager.legacyInbounds ↔
    spec ∈ after.general.portInbounds ∧ ok spec
  kept : ∀ spec ∈ h.manager.legacyInbounds, spec ∈ (p.merge h.general).portInbounds →
    spec ∈ after.general.portInbounds → ∀ network,
      after.manager.handle? network (.inbound spec) = h.manager.handle? network (.inbound spec)

theorem patched (reachable : Reachable d outside h)
    (steady : Steady d.toDrivers ok ((h.patch d.toDrivers p).patch d.toDrivers q).manager.calls) :
    Patched d.toDrivers ok h p q ((h.patch d.toDrivers p).patch d.toDrivers q) := by
  have mid := reachable.patch p
  obtain ⟨asked, performed⟩ := patch_performed (d := d.toDrivers) mid.balanced.sole q
  refine ⟨fun s => GeneralPatch.setting_merge_merge s, ⟨rfl, rfl⟩, performed.binding,
    fun spec => mem_legacy_patch mid steady, fun spec runs before after network => ?_⟩
  have stays := handle?_patch reachable runs before network
  exact (handle?_patch mid (runs_patch reachable runs before) after network).trans stays

/-- Two hubs have the same settings, the same binding, and the same legacy inbounds. -/
structure Alike (h h' : Hub σ) : Prop where
  general : h.general = h'.general
  binding : h.manager.binding = h'.manager.binding
  legacy : h.manager.legacyInbounds = h'.manager.legacyInbounds

theorem legacyInbounds_sorted (m : Manager σ) :
    m.legacyInbounds.Pairwise fun a b => InboundSpec.cmp a b = .lt :=
  m.inbounds_sorted.filter _

theorem Patched.alike {left right : Hub σ} (first : Patched d.toDrivers ok h p q left)
    (second : Patched d.toDrivers ok h q p right) (same : left.general = right.general) :
    Alike left right where
  general := same
  binding := by rw [first.binding, second.binding, same]
  legacy := by
    refine InboundSpec.eq_of_sorted (legacyInbounds_sorted _) (legacyInbounds_sorted _) fun spec => ?_
    rw [first.legacy, second.legacy, same]

/-- Patches that set different settings commute, and none is lost. Both orders leave the same
settings, binding and legacy inbounds. So do patches that are asked for at the same time, and they
come to an end: as each waits for its turn, they leave what one of the two orders leaves. -/
theorem patches_commute (reachable : Reachable d outside h)
    (steady : ∀ after ∈ [(h.patch d.toDrivers p).patch d.toDrivers q,
      (h.patch d.toDrivers q).patch d.toDrivers p], Steady d.toDrivers ok after.manager.calls) :
    let left := (h.patch d.toDrivers p).patch d.toDrivers q
    let right := (h.patch d.toDrivers q).patch d.toDrivers p
    Patched d.toDrivers ok h p q left ∧ Patched d.toDrivers ok h q p right ∧
      (p.Apart q → Alike left right) ∧
      ∀ race, Race.Steps d.toDrivers ⟨h, [p, q], none⟩ race →
        (race.Finished → race.hub = left ∨ race.hub = right) ∧
          ∃ done, Race.Steps d.toDrivers race done ∧ done.Finished := by
  intro left right
  have first : Patched d.toDrivers ok h p q left := patched reachable (steady left (by simp [left]))
  have second : Patched d.toDrivers ok h q p right :=
    patched reachable (steady right (by simp [right]))
  refine ⟨first, second, fun apart => first.alike second (GeneralPatch.merge_comm apart), ?_⟩
  intro race steps
  refine ⟨fun finished => ?_, race.exists_finished⟩
  obtain ⟨order, perm, result⟩ := Race.exists_order steps finished
  rcases List.perm_pair.mp perm with rfl | rfl
  · exact .inl result
  · exact .inr result

section Fixed

variable {grants : Network → Service → Bool}

/-- Whether a listener was granted was a matter of its slot. -/
def Told (grants : Network → Service → Bool) (calls : List Call) : Prop :=
  ∀ network service outcome, .listen network service outcome ∈ calls →
    outcome.isOk = grants network service

theorem Told.concat {calls : List Call} (told : Told grants calls) {c : Call}
    (last : ∀ network service outcome, c = .listen network service outcome →
      outcome.isOk = grants network service) : Told grants (calls ++ [c]) := by
  intro network service outcome member
  rcases List.mem_append.mp member with early | now
  · exact told network service outcome early
  · exact last network service outcome (List.mem_singleton.mp now).symm

theorem Told.concat_listen {calls : List Call} (told : Told grants calls) {network : Network}
    {service : Service} {outcome : Except OpenFault Handle}
    (answer : outcome.isOk = grants network service) :
    Told grants (calls ++ [.listen network service outcome]) := by
  refine told.concat fun network service outcome same => ?_
  obtain ⟨rfl, rfl, rfl⟩ := Call.listen.inj same
  exact answer

theorem Told.moves {d : Drivers σ} (fixed : ∀ network service outside,
      (d.listen network service outside).1.isOk = grants network service) {b c : Books σ}
    (moves : Moves d b c) (told : Told grants b.calls) : Told grants c.calls := by
  induction moves with
  | refl => exact told
  | tail _ move ih =>
    cases move with
    | opened _ answer =>
      exact ih.concat_listen ((congrArg (·.1.isOk) answer).symm.trans (fixed _ _ _))
    | refused _ answer =>
      exact ih.concat_listen ((congrArg (·.1.isOk) answer).symm.trans (fixed _ _ _))
    | closed =>
      refine ih.concat fun network service outcome same => ?_
      cases same

/-- Every listener that an inbound needs is granted. -/
def Grantable (d : Drivers σ) (grants : Network → Service → Bool) (spec : InboundSpec) : Prop :=
  ∃ needed, spec.needs d = some needed ∧ ∀ slot ∈ needed, grants slot.1 slot.2

/-- An outside that grants a listener by its slot alone is steady in every state of a hub. -/
theorem steady_of_fixed (fixed : ∀ network service outside,
      (d.listen network service outside).1.isOk = grants network service)
    (reachable : Reachable d outside h) :
    Steady d.toDrivers (Grantable d.toDrivers grants) h.manager.calls := by
  have stable : Stable d.toDrivers fun m => m.Balanced ∧ Told grants m.calls :=
    { perform := fun m operation => fun ⟨balanced, told⟩ =>
        ⟨balanced.perform operation, told.moves fixed (perform_moves balanced.sole operation)⟩
      log := fun m r => id }
  obtain ⟨-, told⟩ := stable.reachable ⟨balanced_start outside, by simp [Told]⟩ reachable
  constructor
  · rintro spec ⟨needed, needs, all⟩ (never | ⟨wanted, needs', slot, member, fault, refused⟩)
    · cases never.symm.trans needs
    · obtain rfl := Option.some.inj (needs.symm.trans needs')
      cases (told _ _ _ refused).trans (all slot member)
  · rintro spec bad ⟨wanted, needs, all⟩
    refine bad ⟨wanted, needs, fun slot member => ?_⟩
    obtain ⟨handle, granted⟩ := all slot member
    exact (told _ _ _ granted).symm

end Fixed

/-- An outside where one port is taken on all addresses at once. -/
def pickyOutside : Outside Unit :=
  { obliging with
    listen := fun network service _ =>
      if service.address = ":1080" then (.error (.bind network ":1080" "address in use"), ())
      else (.ok default, ()) }

theorem pickyOutside_fixed (network : Network) (service : Service) (outside : Unit) :
    (pickyOutside.listen network service outside).1.isOk = (service.address != ":1080") := by
  by_cases taken : service.address = ":1080" <;>
    simp [pickyOutside, taken, Except.isOk, Except.toBool]

/-- In one order the SOCKS port comes up on the loopback first, and is lost once the LAN is
allowed. -/
theorem patches_commute_picky :
    let h := (create () "config.yaml" {} 1).apply pickyOutside.toDrivers portConfig
    let p : GeneralPatch := { socks := some 1080 }
    let q : GeneralPatch := { allowLan := some true }
    let left := (h.patch pickyOutside.toDrivers p).patch pickyOutside.toDrivers q
    let right := (h.patch pickyOutside.toDrivers q).patch pickyOutside.toDrivers p
    p.Apart q ∧ Alike left right ∧ left.general.setting (.port .socks) = (1080 : UInt16) ∧
      left.general.setting .allowLan = true ∧
      left.general.setting (.port .http) = (7890 : UInt16) ∧
      ⟨.socks, "127.0.0.1:1080", true⟩ ∈ (h.patch pickyOutside.toDrivers p).manager.legacyInbounds ∧
      ∀ spec, spec ∈ right.manager.legacyInbounds ↔ spec = ⟨.http, ":7890", true⟩ := by
  intro h p q left right
  have reachable : Reachable pickyOutside () h :=
    ⟨"config.yaml", {}, 1, [.apply portConfig], rfl⟩
  have steady : ∀ {h' : Hub Unit}, Reachable pickyOutside () h' →
      Steady pickyOutside.toDrivers (Grantable pickyOutside.toDrivers fun _ service =>
        service.address != ":1080") h'.manager.calls := steady_of_fixed pickyOutside_fixed
  have apart : p.Apart q := by
    rintro (type | _) <;> try cases type
    all_goals decide
  obtain ⟨first, second, alike, -⟩ := patches_commute (p := p) (q := q) reachable
    (by simpa using ⟨steady ((reachable.patch p).patch q), steady ((reachable.patch q).patch p)⟩)
  have listed : right.general.portInbounds =
      [⟨.http, ":7890", true⟩, ⟨.socks, ":1080", true⟩] := by decide +kernel
  refine ⟨apart, alike apart, first.setting (.port .socks), first.setting .allowLan,
    first.setting (.port .http), ?_, fun spec => (second.legacy spec).trans ?_⟩
  · refine (mem_legacy_patch reachable (steady (reachable.patch p))).mpr ⟨by decide +kernel, ?_⟩
    refine ⟨[(.tcp, .inbound ⟨.socks, "127.0.0.1:1080", true⟩),
      (.udp, .inbound ⟨.socks, "127.0.0.1:1080", true⟩)], by decide +kernel, ?_⟩
    simp [Service.address]
  rw [listed]
  constructor
  · rintro ⟨wanted, needed, needs, all⟩
    rcases List.mem_cons.mp wanted with http | socks
    · exact http
    · obtain rfl := List.mem_singleton.mp socks
      have refused := all (InboundSpec.slot _ .tcp) ((InboundSpec.mem_needs needs).mpr rfl)
      simp [InboundSpec.slot, Service.address] at refused
  · rintro rfl
    refine ⟨List.mem_cons_self, [(.tcp, .inbound ⟨.http, ":7890", true⟩)], ?_, ?_⟩
    · decide +kernel
    · simp [Service.address]

end Hub

end LocalProxy
