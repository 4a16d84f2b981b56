import LocalProxy.Proofs.Hub.Coherence
import LocalProxy.Proofs.Listening.Dropping

/-! Changes to a hub that are dropped. A patch and a reload wait for locks and for listeners, and
are gone where the one who asked for them is. What they leave then has the listeners of some of the
new settings, while the settings themselves are still the old ones. -/
namespace LocalProxy

variable {σ : Type} {d : Drivers σ}

/-- The legacy inbounds that stand for the ports of some settings. -/
def General.portInbounds (g : General) : List InboundSpec :=
  g.ports.toInbounds g.bindAddress g.allowLan

namespace Hub

open Manager

/-- A stage that changes listeners waits for their lock, and then for them. -/
inductive StageLeaves (d : Drivers σ) (acc : Hub σ × Application) : Stage → Hub σ → Prop
  | lock {stage : Stage} (locks : stage ∈ [.binding, .ports, .inbounds, .tunnels]) :
      StageLeaves d acc stage acc.1
  | ports {m : Manager σ} (leaves : ReconcileLeaves d acc.1.manager
        (acc.1.manager.explicitInbounds ++ acc.2.config.general.ports.toInbounds
          acc.1.manager.binding.bindHost acc.1.manager.binding.allowLan) m) :
      StageLeaves d acc .ports { acc.1 with manager := m }
  | inbounds {m : Manager σ} (leaves : ReconcileLeaves d acc.1.manager
        (acc.2.config.inbounds ++ acc.1.manager.legacyInbounds) m) :
      StageLeaves d acc .inbounds { acc.1 with manager := m }
  | tunnels {m : Manager σ} (leaves : TunnelsLeave d acc.1.manager acc.2.config.tunnels m) :
      StageLeaves d acc .tunnels { acc.1 with manager := m }

/-- A change waits for its turn, and then goes through its stages. -/
inductive Leaves (d : Drivers σ) (h : Hub σ) (a : Application) (stages : List Stage) :
    Hub σ → Prop
  | turn : Leaves d h a stages h
  | stage {left : Hub σ} (dropped : DroppedIn (runStage d) (StageLeaves d) (h, a) stages left) :
      Leaves d h a stages left

def ApplyLeaves (d : Drivers σ) (h : Hub σ) (c : Config) : Hub σ → Prop :=
  Leaves d h (h.application c) applyStages

def PatchLeaves (d : Drivers σ) (h : Hub σ) (p : GeneralPatch) : Hub σ → Prop :=
  Leaves d h (h.patching p) patchStages

/-- A reload reads its file at once, and then applies it. -/
def ReloadLeaves (d : Drivers σ) (h : Hub σ) (file : Except FileFault Bytes) (left : Hub σ) :
    Prop :=
  ∃ c, Config.load h.configPath file = .ok c ∧ ApplyLeaves d h c left

/-- The legacy listeners are those of the settings, and so is their binding. -/
structure Agrees (h : Hub σ) : Prop where
  binding : h.manager.binding = h.general.binding
  legacy : ∀ spec ∈ h.manager.legacyInbounds, spec ∈ h.general.portInbounds

variable {h left : Hub σ}

section Stages

variable {acc : Hub σ × Application}

theorem stageLeaves_binding : StageLeaves d acc .binding left ↔ left = acc.1 := by
  constructor
  · rintro ⟨⟩
    rfl
  · rintro rfl
    exact .lock (by decide)

theorem stageLeaves_ports :
    StageLeaves d acc .ports left ↔ left = acc.1 ∨
      ∃ m, left = { acc.1 with manager := m } ∧ ReconcileLeaves d acc.1.manager
        (acc.1.manager.explicitInbounds ++ acc.2.config.general.ports.toInbounds
          acc.1.manager.binding.bindHost acc.1.manager.binding.allowLan) m := by
  constructor
  · rintro (_ | leaves)
    · exact .inl rfl
    · exact .inr ⟨_, rfl, leaves⟩
  · rintro (rfl | ⟨m, rfl, leaves⟩)
    · exact .lock (by decide)
    · exact .ports leaves

theorem stageLeaves_inbounds :
    StageLeaves d acc .inbounds left ↔ left = acc.1 ∨
      ∃ m, left = { acc.1 with manager := m } ∧ ReconcileLeaves d acc.1.manager
        (acc.2.config.inbounds ++ acc.1.manager.legacyInbounds) m := by
  constructor
  · rintro (_ | _ | leaves)
    · exact .inl rfl
    · exact .inr ⟨_, rfl, leaves⟩
  · rintro (rfl | ⟨m, rfl, leaves⟩)
    · exact .lock (by decide)
    · exact .inbounds leaves

theorem stageLeaves_tunnels :
    StageLeaves d acc .tunnels left ↔ left = acc.1 ∨
      ∃ m, left = { acc.1 with manager := m } ∧
        TunnelsLeave d acc.1.manager acc.2.config.tunnels m := by
  constructor
  · rintro (_ | _ | _ | leaves)
    · exact .inl rfl
    · exact .inr ⟨_, rfl, leaves⟩
  · rintro (rfl | ⟨m, rfl, leaves⟩)
    · exact .lock (by decide)
    · exact .tunnels leaves

/-- The stages that publish what was applied wait for nothing. -/
theorem not_dropped_published {stages : List Stage}
    (published : ∀ stage ∈ stages, stage ∉ [.binding, .ports, .inbounds, .tunnels]) :
    ¬ DroppedIn (runStage d) (StageLeaves d) acc stages left := by
  intro dropped
  obtain ⟨before, stage, after, rfl, leaves⟩ := DroppedIn.iff_split.mp dropped
  have waits : stage ∈ [.binding, .ports, .inbounds, .tunnels] := by
    cases leaves with
    | lock locks => exact locks
    | ports | inbounds | tunnels => decide
  exact published stage (by simp) waits

end Stages

/-- The manager once the ports of a configuration are reconciled. -/
def afterPorts (d : Drivers σ) (h : Hub σ) (c : Config) : Manager σ :=
  ((h.bound c).reconcileInbounds d (h.manager.explicitInbounds ++ c.portInbounds)).1

/-- The manager once its explicit inbounds are reconciled too. -/
def afterInbounds (d : Drivers σ) (h : Hub σ) (c : Config) : Manager σ :=
  ((h.afterPorts d c).replaceInbounds d c.inbounds).1

/-- What a dropped change leaves of the manager once its ports were bound anew. -/
inductive PortsLeave (d : Drivers σ) (h : Hub σ) (c : Config) : Manager σ → Prop
  | bound : PortsLeave d h c (h.bound c)
  | ports {m : Manager σ} (leaves : ReconcileLeaves d (h.bound c)
      (h.manager.explicitInbounds ++ c.portInbounds) m) : PortsLeave d h c m

/-- What a dropped configuration leaves of the manager once its ports are done with. -/
inductive RestLeaves (d : Drivers σ) (h : Hub σ) (c : Config) : Manager σ → Prop
  | afterPorts : RestLeaves d h c (h.afterPorts d c)
  | inbounds {m : Manager σ} (leaves : ReconcileLeaves d (h.afterPorts d c)
      (c.inbounds ++ (h.afterPorts d c).legacyInbounds) m) : RestLeaves d h c m
  | afterInbounds : RestLeaves d h c (h.afterInbounds d c)
  | tunnels {m : Manager σ} (leaves : TunnelsLeave d (h.afterInbounds d c) c.tunnels m) :
      RestLeaves d h c m

/-- A change is dropped before anything was changed, or among its ports, or after them. -/
theorem dropped_ports_iff {a : Application} {rest : List Stage} :
    DroppedIn (runStage d) (StageLeaves d) (h, a) (.binding :: .ports :: rest) left ↔
      left = h ∨ (∃ m, left = { h with manager := m } ∧ PortsLeave d h a.config m) ∨
        DroppedIn (runStage d) (StageLeaves d) (runStages d h a [.binding, .ports]) rest left := by
  rw [DroppedIn.cons_iff, DroppedIn.cons_iff, stageLeaves_binding, stageLeaves_ports]
  refine or_congr_right (or_congr_left ?_)
  constructor
  · rintro (rfl | ⟨m, rfl, leaves⟩)
    · exact ⟨_, rfl, .bound⟩
    · exact ⟨m, rfl, .ports leaves⟩
  · rintro ⟨m, rfl, _ | leaves⟩
    · exact .inl rfl
    · exact .inr ⟨m, rfl, leaves⟩

/-- What a dropped patch leaves is the hub as it was, but for its manager. -/
theorem patchLeaves_iff {p : GeneralPatch} :
    PatchLeaves d h p left ↔
      left = h ∨ ∃ m, left = { h with manager := m } ∧ PortsLeave d h (h.patching p).config m := by
  have stages : DroppedIn (runStage d) (StageLeaves d) (h, h.patching p) patchStages left ↔ _ :=
    dropped_ports_iff
  rw [or_iff_left (not_dropped_published (by decide))] at stages
  constructor
  · rintro (_ | dropped)
    · exact .inl rfl
    · exact stages.mp dropped
  · intro leaves
    exact .stage (stages.mpr leaves)

/-- Overrides do not matter for the listeners. -/
theorem portsLeave_application {c : Config} {m : Manager σ} :
    PortsLeave d h (h.application c).config m ↔ PortsLeave d h c m := by
  constructor
  · rintro (_ | leaves)
    · exact .bound
    · exact .ports leaves
  · rintro (_ | leaves)
    · exact .bound
    · exact .ports leaves

theorem dropped_rest_iff {c : Config} :
    DroppedIn (runStage d) (StageLeaves d) (runStages d h (h.application c) [.binding, .ports])
        [.inbounds, .tunnels, .rules, .resolver, .general, .report] left ↔
      ∃ m, left = { h with manager := m } ∧ RestLeaves d h c m := by
  rw [DroppedIn.cons_iff, DroppedIn.cons_iff, stageLeaves_inbounds, stageLeaves_tunnels,
    or_iff_left (not_dropped_published (by decide))]
  constructor
  · rintro ((rfl | ⟨m, rfl, leaves⟩) | rfl | ⟨m, rfl, leaves⟩)
    · exact ⟨_, rfl, .afterPorts⟩
    · exact ⟨m, rfl, .inbounds leaves⟩
    · exact ⟨_, rfl, .afterInbounds⟩
    · exact ⟨m, rfl, .tunnels leaves⟩
  · rintro ⟨m, rfl, _ | leaves | _ | leaves⟩
    · exact .inl (.inl rfl)
    · exact .inl (.inr ⟨m, rfl, leaves⟩)
    · exact .inr (.inl rfl)
    · exact .inr (.inr ⟨m, rfl, leaves⟩)

/-- What a dropped configuration leaves is the hub as it was, but for its manager. -/
theorem applyLeaves_iff {c : Config} :
    ApplyLeaves d h c left ↔
      left = h ∨ ∃ m, left = { h with manager := m } ∧ (PortsLeave d h c m ∨ RestLeaves d h c m) := by
  have stages : DroppedIn (runStage d) (StageLeaves d) (h, h.application c) applyStages left ↔
      _ := dropped_ports_iff
  rw [dropped_rest_iff] at stages
  constructor
  · rintro (_ | dropped)
    · exact .inl rfl
    · rcases stages.mp dropped with unchanged | ⟨m, same, leaves⟩ | ⟨m, same, leaves⟩
      · exact .inl unchanged
      · exact .inr ⟨m, same, .inl (portsLeave_application.mp leaves)⟩
      · exact .inr ⟨m, same, .inr leaves⟩
  · rintro (rfl | ⟨m, same, leaves | leaves⟩)
    · exact .turn
    · exact .stage (stages.mpr (.inr (.inl ⟨m, same, portsLeave_application.mpr leaves⟩)))
    · exact .stage (stages.mpr (.inr (.inr ⟨m, same, leaves⟩)))

section Reached

variable {c : Config} {m : Manager σ} {spec : InboundSpec}

/-- The inbounds that are opened for the ports of a configuration. -/
def portCreate (h : Hub σ) (c : Config) : List InboundSpec :=
  (Plan.between h.manager.inbounds (h.manager.explicitInbounds ++ c.portInbounds)).create

theorem mem_portCreate (listed : spec ∈ h.portCreate c) : spec ∈ c.portInbounds := by
  obtain ⟨wanted, idle⟩ := Plan.mem_create.mp listed
  refine (List.mem_append.mp wanted).resolve_left fun own => idle ?_
  exact (mem_explicitInbounds.mp own).1

theorem afterPorts_reconciles (sole : Sole h.manager.handles) :
    ∃ asked, (inboundLayer d).Reconciles d (h.manager.explicitInbounds ++ c.portInbounds)
      (h.bound c) ((h.bound c).reconcileInbounds d
        (h.manager.explicitInbounds ++ c.portInbounds)) asked :=
  reconcileInbounds_reconciles (m := h.bound c) sole _

theorem afterPorts_sole (sole : Sole h.manager.handles) : Sole (h.afterPorts d c).handles := by
  obtain ⟨_, reconciles⟩ := afterPorts_reconciles (d := d) (c := c) sole
  exact reconciles.moves.sole sole

theorem afterInbounds_reconciles (sole : Sole h.manager.handles) :
    ∃ asked, (inboundLayer d).Reconciles d (c.inbounds ++ (h.afterPorts d c).legacyInbounds)
      (h.afterPorts d c) ((h.afterPorts d c).replaceInbounds d c.inbounds) asked :=
  reconcileInbounds_reconciles (afterPorts_sole sole) _

theorem afterInbounds_sole (sole : Sole h.manager.handles) :
    Sole (h.afterInbounds d c).handles := by
  obtain ⟨_, reconciles⟩ := afterInbounds_reconciles (d := d) (c := c) sole
  exact reconciles.moves.sole (afterPorts_sole sole)

theorem afterPorts_binding (sole : Sole h.manager.handles) :
    (h.afterPorts d c).binding = c.general.binding := by
  obtain ⟨_, reconciles⟩ := afterPorts_reconciles (d := d) (c := c) sole
  exact reconciles.asks.binding

theorem afterInbounds_binding (sole : Sole h.manager.handles) :
    (h.afterInbounds d c).binding = c.general.binding := by
  obtain ⟨_, reconciles⟩ := afterInbounds_reconciles (d := d) (c := c) sole
  exact reconciles.asks.binding.trans (afterPorts_binding sole)

/-- The explicit inbounds of a configuration come after its ports, and leave those alone. -/
theorem afterInbounds_legacy (sole : Sole h.manager.handles) (explicit : c.Explicit)
    (legacy : spec.legacy = true) :
    spec ∈ (h.afterInbounds d c).inbounds ↔ spec ∈ (h.afterPorts d c).inbounds := by
  obtain ⟨_, reconciles⟩ := afterInbounds_reconciles (d := d) (c := c) sole
  have carried : spec ∈ (h.afterPorts d c).legacyInbounds ↔ spec ∈ (h.afterPorts d c).inbounds :=
    mem_legacyInbounds.trans (and_iff_left legacy)
  refine (reconciles.rests ?_).running
  rw [List.mem_append, carried]
  exact or_iff_right (Config.not_own explicit legacy)

/-- The legacy inbounds are those that came up for the ports. -/
theorem apply_legacy (sole : Sole h.manager.handles) (explicit : c.Explicit)
    (legacy : spec.legacy = true) :
    spec ∈ (h.apply d c).manager.inbounds ↔ spec ∈ (h.afterPorts d c).inbounds := by
  obtain ⟨_, reconciles⟩ := replaceTunnels_reconciles (d := d)
    (afterInbounds_sole (d := d) (c := c) sole) c.tunnels
  have rests : (inboundLayer d).Rests spec _ ((h.afterInbounds d c).replaceTunnels d c.tunnels).1 _ :=
    reconciles.rests_apart fun _ _ part => layers_apart part
  exact rests.running.trans (afterInbounds_legacy sole explicit legacy)

namespace PortsLeave

theorem binding (leaves : PortsLeave d h c m) (sole : Sole h.manager.handles) : m.binding = c.general.binding := by
  cases leaves with
  | bound => rfl
  | ports leaves => exact (leaves.midway (m := h.bound c) sole).binding

theorem sole (leaves : PortsLeave d h c m) (sole : Sole h.manager.handles) : Sole m.handles := by
  cases leaves with
  | bound => exact sole
  | ports leaves => exact (leaves.midway (m := h.bound c) sole).sole sole

/-- What runs did so before, or was opened before another inbound that is awaited. -/
theorem running (leaves : PortsLeave d h c m) (sole : Sole h.manager.handles)
    (runs : spec ∈ m.inbounds) :
    spec ∈ h.manager.inbounds ∨
      (inboundLayer d).Early (h.portCreate c) spec ∧ spec ∈ (h.afterPorts d c).inbounds := by
  cases leaves with
  | bound => exact .inl runs
  | ports leaves => exact (leaves.midway (m := h.bound c) sole).running runs

end PortsLeave

namespace RestLeaves

theorem binding (leaves : RestLeaves d h c m) (sole : Sole h.manager.handles) : m.binding = c.general.binding := by
  cases leaves with
  | afterPorts => exact afterPorts_binding sole
  | inbounds leaves =>
    exact (leaves.midway (afterPorts_sole sole)).binding.trans (afterPorts_binding sole)
  | afterInbounds => exact afterInbounds_binding sole
  | tunnels leaves =>
    exact (leaves.midway (afterInbounds_sole sole)).binding.trans (afterInbounds_binding sole)

theorem sole (leaves : RestLeaves d h c m) (sole : Sole h.manager.handles) : Sole m.handles := by
  cases leaves with
  | afterPorts => exact afterPorts_sole sole
  | inbounds leaves =>
    exact (leaves.midway (afterPorts_sole sole)).sole (afterPorts_sole sole)
  | afterInbounds => exact afterInbounds_sole sole
  | tunnels leaves =>
    exact (leaves.midway (afterInbounds_sole sole)).sole (afterInbounds_sole sole)

/-- No legacy inbound is opened once the ports are done with. -/
theorem legacy (leaves : RestLeaves d h c m) (sole : Sole h.manager.handles)
    (explicit : c.Explicit) (legacy : spec.legacy = true) (runs : spec ∈ m.inbounds) :
    spec ∈ (h.afterPorts d c).inbounds := by
  cases leaves with
  | afterPorts => exact runs
  | inbounds leaves =>
    rcases (leaves.midway (afterPorts_sole sole)).running runs with old | ⟨early, _⟩
    · exact old
    · have wanted := List.mem_append.mp (Plan.mem_create.mp early.mem).1
      exact (mem_legacyInbounds.mp (wanted.resolve_left (Config.not_own explicit legacy))).1
  | afterInbounds => exact (afterInbounds_legacy sole explicit legacy).mp runs
  | tunnels leaves =>
    have kept : spec ∈ (h.afterInbounds d c).inbounds :=
      (leaves.midway (afterInbounds_sole sole)).running_apart (inboundLayer d)
        (fun _ _ part => layers_apart part) runs
    exact (afterInbounds_legacy sole explicit legacy).mp kept

end RestLeaves

end Reached

/-- What comes of some settings and a change that was dropped: but for the listeners all is as it was,
and these are from before or from the change. -/
structure Between (h : Hub σ) (new : General) (left : Hub σ) : Prop where
  rest : left = { h with manager := left.manager }
  binding : left.manager.binding = h.manager.binding ∨ left.manager.binding = new.binding
  legacy : ∀ spec ∈ left.manager.legacyInbounds,
    spec ∈ h.manager.legacyInbounds ∨ spec ∈ new.portInbounds
  sole : Sole left.manager.handles

theorem Between.refl (sole : Sole h.manager.handles) (new : General) : Between h new h :=
  ⟨rfl, .inl rfl, fun _ runs => .inl runs, sole⟩

theorem PortsLeave.between {c : Config} {m : Manager σ} (leaves : PortsLeave d h c m)
    (sole : Sole h.manager.handles) : Between h c.general { h with manager := m } where
  rest := rfl
  binding := .inr (leaves.binding sole)
  legacy spec member := by
    obtain ⟨runs, legacy⟩ := mem_legacyInbounds.mp member
    rcases leaves.running sole runs with old | ⟨early, _⟩
    · exact .inl (mem_legacyInbounds.mpr ⟨old, legacy⟩)
    · exact .inr (mem_portCreate early.mem)
  sole := leaves.sole sole

theorem RestLeaves.between {c : Config} {m : Manager σ} (leaves : RestLeaves d h c m)
    (sole : Sole h.manager.handles) (explicit : c.Explicit) :
    Between h c.general { h with manager := m } where
  rest := rfl
  binding := .inr (leaves.binding sole)
  legacy spec member := by
    obtain ⟨runs, legacy⟩ := mem_legacyInbounds.mp member
    obtain ⟨_, reconciles⟩ := afterPorts_reconciles (d := d) (c := c) sole
    have now := leaves.legacy sole explicit legacy runs
    rcases List.mem_append.mp (reconciles.running_iff.mp now).1 with own | wanted
    · cases legacy.symm.trans (mem_explicitInbounds.mp own).2
    · exact .inr wanted
  sole := leaves.sole sole

theorem PatchLeaves.between {p : GeneralPatch} (leaves : PatchLeaves d h p left)
    (sole : Sole h.manager.handles) : Between h (p.merge h.general) left := by
  rcases patchLeaves_iff.mp leaves with rfl | ⟨m, rfl, half⟩
  · exact .refl sole _
  · exact half.between sole

theorem ApplyLeaves.between {c : Config} (leaves : ApplyLeaves d h c left)
    (sole : Sole h.manager.handles) (explicit : c.Explicit) : Between h c.general left := by
  rcases applyLeaves_iff.mp leaves with rfl | ⟨m, rfl, half | half⟩
  · exact .refl sole _
  · exact half.between sole
  · exact half.between sole explicit

theorem Coherent.agrees {applied : Option Config} {requested : List InboundSpec}
    (coherent : Coherent applied requested h) : h.Agrees :=
  ⟨coherent.binding, coherent.legacy⟩

namespace Agrees

variable {d : Outside σ}

/-- A patch that is carried through makes a hub agree, whatever it was before. -/
theorem patch (sole : Sole h.manager.handles) (p : GeneralPatch) :
    (h.patch d.toDrivers p).Agrees := by
  obtain ⟨asked, performed⟩ := patch_performed (d := d.toDrivers) sole p
  refine ⟨performed.binding, fun spec member => ?_⟩
  obtain ⟨runs, legacy⟩ := mem_legacyInbounds.mp member
  refine (List.mem_append.mp (performed.wanted_inbound runs)).resolve_left fun own => ?_
  cases legacy.symm.trans (mem_explicitInbounds.mp own).2

theorem apply (sole : Sole h.manager.handles) {c : Config} (explicit : c.Explicit) :
    (h.apply d.toDrivers c).Agrees :=
  (Coherent.apply sole explicit).agrees

theorem run (outside : σ) (path : String) (overrides : Overrides) (logBuffer : Nat)
    (operations : List Operation) (explicit : ∀ op ∈ operations, op.Explicit) :
    (run d (create outside path overrides logBuffer) operations).Agrees := by
  suffices ∃ applied requested, Coherent applied requested
      (Hub.run d (create outside path overrides logBuffer) operations) by
    obtain ⟨_, _, coherent⟩ := this
    exact coherent.agrees
  induction operations using List.reverseRecOn with
  | nil => exact ⟨_, _, .create outside path overrides logBuffer⟩
  | append_singleton operations op ih =>
    obtain ⟨_, _, coherent⟩ := ih fun op member => explicit op (List.mem_append_left _ member)
    have reachable : Reachable d outside
        (Hub.run d (create outside path overrides logBuffer) operations) :=
      ⟨path, overrides, logBuffer, operations, rfl⟩
    rw [run_concat]
    exact ⟨_, _, coherent.perform reachable.balanced.sole (explicit op (by simp))⟩

/-- A patch can be dropped at any point and leave agreement just if it keeps the binding, and brings
up no new legacy inbound before another inbound that is awaited. -/
theorem patchLeaves_iff (agrees : h.Agrees) (sole : Sole h.manager.handles) (p : GeneralPatch) :
    (∀ left, PatchLeaves d.toDrivers h p left → left.Agrees) ↔
      (p.merge h.general).binding = h.general.binding ∧
        ∀ spec ∈ (h.patch d.toDrivers p).manager.legacyInbounds,
          (inboundLayer d.toDrivers).Early (h.portCreate (h.patching p).config) spec →
            spec ∈ h.general.portInbounds := by
  constructor
  · intro all
    have reached : ∀ m, PortsLeave d.toDrivers h (h.patching p).config m →
        Agrees { h with manager := m } :=
      fun m leaves => all _ (Hub.patchLeaves_iff.mpr (.inr ⟨m, rfl, leaves⟩))
    refine ⟨(reached _ .bound).binding, fun spec member early => ?_⟩
    obtain ⟨runs, legacy⟩ := mem_legacyInbounds.mp member
    obtain ⟨before, next, after, split, awaited, listed⟩ := early
    obtain ⟨m, leaves, begun⟩ := ReconcileLeaves.exists_of_split
      (m := h.bound (h.patching p).config) sole split awaited
    refine (reached m (.ports leaves)).legacy spec (mem_legacyInbounds.mpr ⟨?_, legacy⟩)
    exact (begun.running spec listed).mpr runs
  · rintro ⟨same, early⟩ left leaves
    rcases Hub.patchLeaves_iff.mp leaves with rfl | ⟨m, rfl, half⟩
    · exact agrees
    · refine ⟨(half.binding sole).trans same, fun spec member => ?_⟩
      obtain ⟨runs, legacy⟩ := mem_legacyInbounds.mp member
      rcases half.running sole runs with old | ⟨first, up⟩
      · exact agrees.legacy spec (mem_legacyInbounds.mpr ⟨old, legacy⟩)
      · exact early spec (mem_legacyInbounds.mpr ⟨up, legacy⟩) first

/-- A configuration can be dropped at any point and leave agreement just if it keeps the binding, and
brings up no new legacy inbound: the explicit ones and the tunnels are awaited after its ports. -/
theorem applyLeaves_iff (agrees : h.Agrees) (sole : Sole h.manager.handles) {c : Config}
    (explicit : c.Explicit) :
    (∀ left, ApplyLeaves d.toDrivers h c left → left.Agrees) ↔
      c.general.binding = h.general.binding ∧
        ∀ spec ∈ (h.apply d.toDrivers c).manager.legacyInbounds,
          spec ∈ h.general.portInbounds := by
  constructor
  · intro all
    have bound : Agrees { h with manager := h.bound c } :=
      all _ (Hub.applyLeaves_iff.mpr (.inr ⟨_, rfl, .inl .bound⟩))
    have after : Agrees { h with manager := h.afterPorts d.toDrivers c } :=
      all _ (Hub.applyLeaves_iff.mpr (.inr ⟨_, rfl, .inr .afterPorts⟩))
    refine ⟨bound.binding, fun spec member => after.legacy spec ?_⟩
    obtain ⟨runs, legacy⟩ := mem_legacyInbounds.mp member
    exact mem_legacyInbounds.mpr ⟨(apply_legacy sole explicit legacy).mp runs, legacy⟩
  · rintro ⟨same, up⟩ left leaves
    have within : ∀ spec, spec.legacy = true → spec ∈ (h.afterPorts d.toDrivers c).inbounds →
        spec ∈ h.general.portInbounds := by
      intro spec legacy runs
      have applied := (apply_legacy sole explicit legacy).mpr runs
      exact up spec (mem_legacyInbounds.mpr ⟨applied, legacy⟩)
    rcases Hub.applyLeaves_iff.mp leaves with rfl | ⟨m, rfl, half | half⟩
    · exact agrees
    · refine ⟨(half.binding sole).trans same, fun spec member => ?_⟩
      obtain ⟨runs, legacy⟩ := mem_legacyInbounds.mp member
      rcases half.running sole runs with old | ⟨_, new⟩
      · exact agrees.legacy spec (mem_legacyInbounds.mpr ⟨old, legacy⟩)
      · exact within spec legacy new
    · refine ⟨(half.binding sole).trans same, fun spec member => ?_⟩
      obtain ⟨runs, legacy⟩ := mem_legacyInbounds.mp member
      exact within spec legacy (half.legacy sole explicit legacy runs)

end Agrees

/-- What is left of a hub where a change to its settings is dropped: some of the new listeners
beside the old settings, which only then agree where the change did not matter to them. Whatever
is left, the next change that is carried through makes it agree. -/
structure Droppable (d : Outside σ) (h : Hub σ) : Prop where
  agrees : h.Agrees
  patch_between : ∀ p left, PatchLeaves d.toDrivers h p left → Between h (p.merge h.general) left
  patch_agrees : ∀ p, (∀ left, PatchLeaves d.toDrivers h p left → left.Agrees) ↔
    (p.merge h.general).binding = h.general.binding ∧
      ∀ spec ∈ (h.patch d.toDrivers p).manager.legacyInbounds,
        (inboundLayer d.toDrivers).Early (h.portCreate (h.patching p).config) spec →
          spec ∈ h.general.portInbounds
  reload_between : ∀ file c left, Config.load h.configPath file = .ok c →
    ReloadLeaves d.toDrivers h file left → Between h c.general left
  reload_agrees : ∀ file c, Config.load h.configPath file = .ok c →
    ((∀ left, ReloadLeaves d.toDrivers h file left → left.Agrees) ↔
      c.general.binding = h.general.binding ∧
        ∀ spec ∈ (h.apply d.toDrivers c).manager.legacyInbounds, spec ∈ h.general.portInbounds)
  repaired : ∀ new left, Between h new left →
    (∀ p, (left.patch d.toDrivers p).Agrees) ∧
      ∀ c : Config, c.Explicit → (left.apply d.toDrivers c).Agrees

theorem reloadLeaves_iff {file : Except FileFault Bytes} {c : Config}
    (loaded : Config.load h.configPath file = .ok c) :
    ReloadLeaves d h file left ↔ ApplyLeaves d h c left := by
  simp [ReloadLeaves, loaded]

/-- In every state that a hub can come to, a dropped change leaves agreement behind just where it
keeps the binding and brings no new legacy inbound up before it waits once more. -/
theorem dropped_agrees_iff (d now : Outside σ) (outside : σ) (path : String)
    (overrides : Overrides) (logBuffer : Nat) (operations : List Operation)
    (explicit : ∀ op ∈ operations, op.Explicit) :
    Droppable now (run d (create outside path overrides logBuffer) operations) := by
  have agrees := Agrees.run (d := d) outside path overrides logBuffer operations explicit
  have reachable : Reachable d outside
      (run d (create outside path overrides logBuffer) operations) :=
    ⟨path, overrides, logBuffer, operations, rfl⟩
  have sole := reachable.balanced.sole
  refine ⟨agrees, fun p left leaves => leaves.between sole, agrees.patchLeaves_iff sole,
    fun file c left loaded leaves => ?_, fun file c loaded => ?_, fun new left between => ?_⟩
  · exact ((reloadLeaves_iff loaded).mp leaves).between sole (Config.load_explicit loaded)
  · simp only [reloadLeaves_iff loaded]
    exact agrees.applyLeaves_iff sole (Config.load_explicit loaded)
  · exact ⟨.patch between.sole, fun c => .apply between.sole⟩

theorem dropped_agrees_iff_port :
    (∀ op ∈ [Operation.apply portConfig], op.Explicit) ∧
      Droppable obliging (run obliging (create () "config.yaml" {} 1) [.apply portConfig]) := by
  have explicit : ∀ op ∈ [Operation.apply portConfig], op.Explicit := by
    simp [Operation.Explicit, Config.Explicit, portConfig]
  exact ⟨explicit, dropped_agrees_iff obliging obliging () "config.yaml" {} 1 _ explicit⟩

/-- A patch that opens the LAN is dropped before its ports are bound anew: the manager is to bind on
all addresses, and the settings deny it. -/
theorem dropped_patch_disagrees :
    let h := run obliging (create () "config.yaml" {} 1) [.apply portConfig]
    ∃ left, PatchLeaves obliging.toDrivers h { allowLan := some true } left ∧
      left.general.allowLan = false ∧ left.manager.binding.allowLan = true ∧ ¬ left.Agrees := by
  intro h
  refine ⟨_, patchLeaves_iff.mpr (.inr ⟨_, rfl, .bound⟩), rfl, rfl, fun agrees => ?_⟩
  exact absurd (congrArg Binding.allowLan agrees.binding) (by decide)

end Hub

end LocalProxy
