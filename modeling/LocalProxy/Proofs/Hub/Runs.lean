import LocalProxy.Hub
import LocalProxy.Proofs.Listening.Runs

/-! Runs of a hub. Its operations change the listeners only through those of the manager, so
that what these preserve holds in every state a hub can come to. -/
namespace LocalProxy

namespace Hub

variable {σ : Type}

/-- What a hub may be asked to do. A reload finds the configuration file as it is given. -/
inductive Operation
  | apply (c : Config)
  | reload (file : Except FileFault Bytes)
  | patch (p : GeneralPatch)
  | updateInbounds (specs : List InboundSpec)
  | shutdown

def perform (d : Outside σ) (h : Hub σ) : Operation → Hub σ
  | .apply c => h.apply d.toDrivers c
  | .reload file => (h.reload { d with configFile := fun _ => file }).2
  | .patch p => h.patch d.toDrivers p
  | .updateInbounds specs => (h.updateInbounds d.toDrivers specs).1
  | .shutdown => h.shutdown d.toDrivers

def run (d : Outside σ) (h : Hub σ) (operations : List Operation) : Hub σ :=
  operations.foldl (perform d) h

/-- The hub has come from its creation by some operations. -/
def Reachable (d : Outside σ) (outside : σ) (h : Hub σ) : Prop :=
  ∃ path overrides logBuffer operations,
    h = run d (create outside path overrides logBuffer) operations

/-- A property of managers that survives their operations and what they log. -/
structure Stable (d : Drivers σ) (kept : Manager σ → Prop) : Prop where
  perform : ∀ m operation, kept m → kept (m.perform d operation)
  log : ∀ m r, kept m → kept (m.log r)

namespace Stable

variable {d : Outside σ} {kept : Manager σ → Prop}

theorem runStages (stable : Stable d.toDrivers kept) (stages : List Stage) {h : Hub σ}
    {a : Application} (before : kept h.manager) :
    kept (runStages d.toDrivers h a stages).1.manager := by
  induction stages generalizing h a with
  | nil => exact before
  | cons stage rest ih =>
    refine ih ?_
    cases stage with
    | binding => exact stable.perform _ (.bind a.config.general.binding) before
    | ports => exact stable.perform _ (.replacePorts a.config.general.ports) before
    | inbounds => exact stable.perform _ (.replaceInbounds a.config.inbounds) before
    | tunnels => exact stable.perform _ (.replaceTunnels a.config.tunnels) before
    | rules | resolver | general => exact before
    | report => exact stable.log _ _ before

theorem hub_perform (stable : Stable d.toDrivers kept) {h : Hub σ} (before : kept h.manager)
    (operation : Operation) : kept (h.perform d operation).manager := by
  cases operation with
  | apply c => exact stable.runStages _ before
  | reload file =>
    simp only [Hub.perform, Hub.reload]
    split
    · exact before
    · exact stable.runStages _ before
  | patch p => exact stable.runStages _ before
  | updateInbounds specs => exact stable.perform _ (.replaceInbounds specs) before
  | shutdown => exact stable.log _ _ (stable.perform _ .closeAll before)

theorem hub_run (stable : Stable d.toDrivers kept) {h : Hub σ} (before : kept h.manager)
    (operations : List Operation) : kept (h.run d operations).manager := by
  induction operations generalizing h with
  | nil => exact before
  | cons operation rest ih => exact ih (stable.hub_perform before operation)

theorem reachable (stable : Stable d.toDrivers kept) {outside : σ}
    (start : kept { outside := outside }) {h : Hub σ} (reachable : Reachable d outside h) :
    kept h.manager := by
  obtain ⟨path, overrides, logBuffer, operations, rfl⟩ := reachable
  exact stable.hub_run start operations

end Stable

theorem stable_balanced (d : Drivers σ) : Stable d Manager.Balanced where
  perform _ operation balanced := balanced.perform operation
  log _ _ balanced := balanced

/-- What is in the journal was asked of the outside, which has answered so. -/
theorem stable_answered (d : Drivers σ) (outside : σ) :
    Stable d fun m => m.Balanced ∧ d.Answered outside m.calls m.outside where
  perform _ operation := fun ⟨balanced, answered⟩ =>
    ⟨balanced.perform operation, answered.moves (Manager.perform_moves balanced.sole operation)⟩
  log _ _ kept := kept

theorem Reachable.balanced {d : Outside σ} {outside : σ} {h : Hub σ}
    (reachable : Reachable d outside h) : h.manager.Balanced :=
  (stable_balanced d.toDrivers).reachable (Manager.balanced_start outside) reachable

theorem Reachable.answered {d : Outside σ} {outside : σ} {h : Hub σ}
    (reachable : Reachable d outside h) :
    d.toDrivers.Answered outside h.manager.calls h.manager.outside :=
  ((stable_answered d.toDrivers outside).reachable
    ⟨Manager.balanced_start outside, .nothing outside⟩ reachable).2

/-- In every run of a manager and of a hub, the journal is what the outside was asked, call by call,
with what it answered, and accounts for the handles that are kept; and once everything is closed
there are none, whatever the closing of each says. -/
theorem listeners_accounted (d : Outside σ) (outside : σ) :
    (∀ operations,
      let m := Manager.run d.toDrivers { outside := outside } operations
      d.toDrivers.Answered outside m.calls m.outside ∧ m.Accounted ∧
        (Manager.run d.toDrivers { outside := outside } (operations ++ [.closeAll])).handles = []) ∧
    ∀ path overrides logBuffer operations,
      let m := (run d (create outside path overrides logBuffer) operations).manager
      d.toDrivers.Answered outside m.calls m.outside ∧ m.Accounted ∧
        (run d (create outside path overrides logBuffer)
          (operations ++ [.shutdown])).manager.handles = [] := by
  have start := Manager.balanced_start outside
  constructor
  · intro operations m
    have balanced := start.run (d := d.toDrivers) operations
    refine ⟨Manager.run_start_answered d.toDrivers outside operations, balanced.accounted, ?_⟩
    rw [Manager.run, List.foldl_append]
    exact (Manager.closeAll_spec balanced.sole).1
  · intro path overrides logBuffer operations m
    have reachable : Reachable d outside
        (run d (create outside path overrides logBuffer) operations) :=
      ⟨path, overrides, logBuffer, operations, rfl⟩
    have balanced := reachable.balanced
    refine ⟨reachable.answered, balanced.accounted, ?_⟩
    rw [run, List.foldl_append]
    exact (Manager.closeAll_spec balanced.sole).1

end Hub

end LocalProxy
