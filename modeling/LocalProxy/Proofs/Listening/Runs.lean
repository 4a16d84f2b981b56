import LocalProxy.Proofs.Listening.Settling
import LocalProxy.Proofs.Listening.Tunnels

/-! Runs of a manager: whatever it is asked to do, in any order and with any answers from the
outside, its journal accounts for the handles it keeps, and tells what the outside answered. -/
namespace LocalProxy

variable {σ : Type} {d : Drivers σ}

namespace Manager

/-- What a manager may be asked to do. -/
inductive Operation
  | replaceInbounds (wanted : List InboundSpec)
  | replacePorts (ports : Ports)
  | bind (binding : Binding)
  | replaceTunnels (wanted : List TunnelSpec)
  | closeAll

def perform (d : Drivers σ) (m : Manager σ) : Operation → Manager σ
  | .replaceInbounds wanted => (m.replaceInbounds d wanted).1
  | .replacePorts ports => (m.replacePorts d ports).1
  | .bind binding => { m with binding := binding }
  | .replaceTunnels wanted => (m.replaceTunnels d wanted).1
  | .closeAll => m.closeAll d

def run (d : Drivers σ) (m : Manager σ) (operations : List Operation) : Manager σ :=
  operations.foldl (perform d) m

/-- The handles that were opened and not closed are those a manager keeps, each in its own
place; and the calls were lawful, each given those before it. -/
structure Accounted (m : Manager σ) : Prop where
  stored : ∀ network service h, m.handle? network service = some h ↔
    .listen network service (.ok h) ∈ m.calls ∧ ∀ failure, .close h failure ∉ m.calls
  sole : Sole m.handles
  lawful : ∀ before c after, m.calls = before ++ c :: after → c.Lawful before

def Balanced (m : Manager σ) : Prop := (m.books m.handles).Balanced

theorem Balanced.accounted {m : Manager σ} (balanced : m.Balanced) : m.Accounted where
  stored network service h := by
    rw [handle?_iff balanced.sole]
    constructor
    · rintro ⟨held, same⟩
      obtain ⟨granted, unclosed⟩ := (balanced.live h).mp held
      obtain ⟨rfl, rfl⟩ := Prod.mk.inj same
      exact ⟨granted, unclosed⟩
    · rintro ⟨granted, unclosed⟩
      obtain ⟨before, after, split⟩ := List.append_of_mem granted
      have same := (balanced.lawful before _ after split).2.1
      obtain ⟨rfl, rfl⟩ := Prod.mk.inj same
      exact ⟨(balanced.live h).mpr ⟨granted, unclosed⟩, rfl⟩
  sole := balanced.sole
  lawful := balanced.lawful

theorem perform_moves {m : Manager σ} (sole : Sole m.handles) (operation : Operation) :
    Moves d (m.books m.handles)
      ((m.perform d operation).books (m.perform d operation).handles) := by
  cases operation with
  | replaceInbounds wanted =>
    obtain ⟨_, reconciles⟩ := reconcileInbounds_reconciles sole (wanted ++ m.legacyInbounds)
    exact reconciles.moves
  | replacePorts ports =>
    obtain ⟨_, reconciles⟩ := reconcileInbounds_reconciles sole
      (m.explicitInbounds ++ ports.toInbounds m.binding.bindHost m.binding.allowLan)
    exact reconciles.moves
  | bind binding => exact .refl
  | replaceTunnels wanted =>
    obtain ⟨_, reconciles⟩ := replaceTunnels_reconciles sole wanted
    exact reconciles.moves
  | closeAll => exact (closeAll_spec sole).2

theorem Balanced.perform {m : Manager σ} (balanced : m.Balanced) (operation : Operation) :
    (m.perform d operation).Balanced :=
  balanced.moves (perform_moves balanced.sole operation)

theorem Balanced.run {m : Manager σ} (balanced : m.Balanced) (operations : List Operation) :
    (m.run d operations).Balanced := by
  induction operations generalizing m with
  | nil => exact balanced
  | cons operation rest ih => exact ih (balanced.perform operation)

/-- Whatever a manager has in its journal, the outside was asked and answered so. -/
theorem run_answered {m : Manager σ} {outside : σ} (balanced : m.Balanced)
    (answered : d.Answered outside m.calls m.outside) (operations : List Operation) :
    d.Answered outside (m.run d operations).calls (m.run d operations).outside := by
  induction operations generalizing m with
  | nil => exact answered
  | cons operation rest ih =>
    exact ih (balanced.perform operation) (answered.moves (perform_moves balanced.sole operation))

/-- No listener of an inbound or a tunnel is open without the others it needs. -/
structure Whole (d : Drivers σ) (m : Manager σ) : Prop where
  inbounds : (inboundLayer d).Whole m
  tunnels : tunnelLayer.Whole m

theorem Whole.of_empty {m : Manager σ} (empty : m.handles = []) : m.Whole d := by
  obtain ⟨no_inbound, no_tunnel⟩ := handles_eq_nil_iff.mp empty
  exact ⟨fun spec runs => absurd runs (no_inbound spec), fun e runs => absurd runs (no_tunnel e)⟩

theorem Whole.reconcileInbounds {m : Manager σ} (whole : m.Whole d) (sole : Sole m.handles)
    (wanted : List InboundSpec) : (m.reconcileInbounds d wanted).1.Whole d := by
  obtain ⟨asked, reconciles⟩ := reconcileInbounds_reconciles (d := d) sole wanted
  have rests : ∀ e, tunnelLayer.Rests e m (m.reconcileInbounds d wanted).1 asked := fun e =>
    reconciles.rests_apart fun slot spec part part' => layers_apart part' part
  exact ⟨reconciles.whole whole.inbounds, whole.tunnels.rests rests⟩

theorem Whole.replaceTunnels {m : Manager σ} (whole : m.Whole d) (sole : Sole m.handles)
    (wanted : List TunnelSpec) : (m.replaceTunnels d wanted).1.Whole d := by
  obtain ⟨asked, reconciles⟩ := replaceTunnels_reconciles (d := d) sole wanted
  have rests : ∀ spec, (inboundLayer d).Rests spec m (m.replaceTunnels d wanted).1 asked :=
    fun spec => reconciles.rests_apart fun slot e part => layers_apart part
  exact ⟨whole.inbounds.rests rests, reconciles.whole whole.tunnels⟩

theorem Whole.perform {m : Manager σ} (whole : m.Whole d) (sole : Sole m.handles)
    (operation : Operation) : (m.perform d operation).Whole d := by
  cases operation with
  | replaceInbounds wanted => exact whole.reconcileInbounds sole _
  | replacePorts ports => exact whole.reconcileInbounds sole _
  | bind binding => exact ⟨whole.inbounds, whole.tunnels⟩
  | replaceTunnels wanted => exact whole.replaceTunnels sole wanted
  | closeAll => exact .of_empty (closeAll_spec sole).1

theorem balanced_start (outside : σ) : ({ outside := outside } : Manager σ).Balanced :=
  Books.Balanced.start outside

theorem run_start_answered (d : Drivers σ) (outside : σ) (operations : List Operation) :
    let m := ({ outside := outside } : Manager σ).run d operations
    d.Answered outside m.calls m.outside :=
  run_answered (balanced_start outside) (.nothing outside) operations

end Manager

end LocalProxy
