import LocalProxy.Proofs.Hub.Operations
import LocalProxy.Proofs.Listening.Repetition

/-! The legacy and the explicit inbounds have one owner, and may differ in nothing but where they
come from. Whoever replaces those of one kind carries the others over. -/
namespace LocalProxy

variable {σ : Type} {d : Drivers σ} {m : Manager σ}

namespace Manager

/-- The report lists what ran and was not wanted. -/
theorem reconcileInbounds_closed (wanted : List InboundSpec) :
    (m.reconcileInbounds d wanted).2.closed = (Plan.between m.inbounds wanted).close := by
  rw [reconcileInbounds, Layer.closed_foldl createInbound_closed,
    Layer.foldl_closed fun _ _ => rfl]
  rfl

theorem mem_closed {wanted : List InboundSpec} {spec : InboundSpec} :
    spec ∈ (m.reconcileInbounds d wanted).2.closed ↔ spec ∈ m.inbounds ∧ spec ∉ wanted := by
  rw [reconcileInbounds_closed, Plan.mem_close]

/-- Of the two kinds of inbounds, none is touched where those of the other kind are replaced: nothing
is asked for it of the outside, which has answered to all the calls. -/
structure Isolated (d : Drivers σ) (m : Manager σ) : Prop where
  /-- A legacy inbound is left as it is, unless it does not run and is asked for by name. -/
  replaceInbounds : ∀ wanted, let out := m.replaceInbounds d wanted
    (∀ spec ∈ out.2.closed, spec.legacy = false) ∧
      ∃ asked, m.Consults d asked out.1 ∧
        (∀ spec, spec.legacy = true → spec ∈ m.inbounds ∨ spec ∉ wanted →
          (inboundLayer d).Rests spec m out.1 asked) ∧
        ∀ e, tunnelLayer.Rests e m out.1 asked
  /-- An explicit inbound is left as it is, also where a legacy one has its type and address. -/
  replacePorts : ∀ ports, let out := m.replacePorts d ports
    (∀ spec ∈ out.2.closed, spec.legacy = true) ∧
      ∃ asked, m.Consults d asked out.1 ∧
        (∀ spec, spec.legacy = false → (inboundLayer d).Rests spec m out.1 asked) ∧
        ∀ e, tunnelLayer.Rests e m out.1 asked

theorem isolated (sole : Sole m.handles) : m.Isolated d where
  replaceInbounds wanted := by
    intro out
    obtain ⟨asked, run⟩ := reconcileInbounds_reconciles (d := d) sole (wanted ++ m.legacyInbounds)
    refine ⟨fun spec closed => ?_, asked, run.consults, fun spec legacy rest => run.rests ?_,
      fun e => run.rests_apart fun _ _ part part' => layers_apart part' part⟩
    · obtain ⟨ran, unwanted⟩ := mem_closed.mp closed
      refine Bool.eq_false_iff.mpr fun legacy => unwanted ?_
      exact List.mem_append_right _ (mem_legacyInbounds.mpr ⟨ran, legacy⟩)
    · have carried : spec ∈ m.legacyInbounds ↔ spec ∈ m.inbounds :=
        mem_legacyInbounds.trans (and_iff_left legacy)
      rw [List.mem_append, carried]
      exact or_iff_right_of_imp fun asked_for => rest.resolve_right (not_not_intro asked_for)
  replacePorts ports := by
    intro out
    obtain ⟨asked, run⟩ := reconcileInbounds_reconciles (d := d) sole
      (m.explicitInbounds ++ ports.toInbounds m.binding.bindHost m.binding.allowLan)
    refine ⟨fun spec closed => ?_, asked, run.consults, fun spec own => run.rests ?_,
      fun e => run.rests_apart fun _ _ part part' => layers_apart part' part⟩
    · obtain ⟨ran, unwanted⟩ := mem_closed.mp closed
      refine Bool.of_not_eq_false fun own => unwanted ?_
      exact List.mem_append_left _ (mem_explicitInbounds.mpr ⟨ran, own⟩)
    · have carried : spec ∈ m.explicitInbounds ↔ spec ∈ m.inbounds :=
        mem_explicitInbounds.trans (and_iff_left own)
      have no_port : spec ∉ ports.toInbounds m.binding.bindHost m.binding.allowLan := fun listed =>
        Bool.false_ne_true (own.symm.trans (Ports.legacy_toInbounds listed))
      rw [List.mem_append, carried]
      exact or_iff_left no_port

end Manager

namespace Hub

open Manager

/-- A change to the settings keeps to the legacy inbounds, and a change to the inbounds keeps to the
explicit ones, but where it asks for a legacy one by name that does not run. -/
structure Isolated (d : Drivers σ) (h : Hub σ) : Prop where
  patch : ∀ p, let after := h.patch d p
    after = { h with manager := after.manager, general := after.general } ∧
      after.general.secret = h.general.secret ∧
      after.general.externalController = h.general.externalController ∧
      ∃ asked, after.manager.calls = h.manager.calls ++ asked ∧
        d.Answered h.manager.outside asked after.manager.outside ∧
        (∀ spec, spec.legacy = false →
          (inboundLayer d).Rests spec h.manager after.manager asked) ∧
        ∀ e, tunnelLayer.Rests e h.manager after.manager asked
  updateInbounds : ∀ specs, let after := (h.updateInbounds d specs).1
    after = { h with manager := after.manager } ∧
      ∃ asked, h.manager.Consults d asked after.manager ∧
        (∀ spec, spec.legacy = true → spec ∈ h.manager.inbounds ∨ spec ∉ specs →
          (inboundLayer d).Rests spec h.manager after.manager asked) ∧
        ∀ e, tunnelLayer.Rests e h.manager after.manager asked

variable {h : Hub σ}

theorem isolated (sole : Sole h.manager.handles) : h.Isolated d where
  patch p := by
    intro after
    have isolated := Manager.isolated (d := d)
      (m := { h.manager with binding := (p.merge h.general).binding }) sole
    obtain ⟨_, asked, consults, explicit_rests, tunnels_rest⟩ :=
      isolated.replacePorts (p.merge h.general).ports
    refine ⟨rfl, rfl, rfl, asked, consults.asks.calls, consults.answered, fun spec own => ?_,
      fun e => ?_⟩
    · exact ⟨(explicit_rests spec own).silent, (explicit_rests spec own).handles⟩
    · exact ⟨(tunnels_rest e).silent, (tunnels_rest e).handles⟩
  updateInbounds specs := by
    intro after
    obtain ⟨_, rest⟩ := (Manager.isolated (d := d) sole).replaceInbounds specs
    exact ⟨rfl, rest⟩

/-- In whatever state a manager or a hub is, and whatever the outside answers, the inbounds of one
kind and the tunnels stay out of what is done to the inbounds of the other. -/
theorem layers_isolated (d : Outside σ) (now : Drivers σ) (outside : σ) :
    (∀ operations, (Manager.run d.toDrivers { outside := outside } operations).Isolated now) ∧
    ∀ path overrides logBuffer operations,
      let h := run d (create outside path overrides logBuffer) operations
      h.manager.Isolated now ∧ h.Isolated now := by
  constructor
  · intro operations
    exact Manager.isolated ((Manager.balanced_start outside).run operations).sole
  · intro path overrides logBuffer operations h
    have reachable : Reachable d outside h := ⟨path, overrides, logBuffer, operations, rfl⟩
    exact ⟨Manager.isolated reachable.balanced.sole, isolated reachable.balanced.sole⟩

/-- An inbound that is asked for by name as a legacy one becomes one. -/
theorem updateInbounds_named_legacy :
    let h : Hub Unit := create () "config.yaml" {} 1
    let port : InboundSpec := ⟨.http, "127.0.0.1:1", true⟩
    h.manager.legacyInbounds = [] ∧
      (h.updateInbounds obliging.toDrivers [port]).1.manager.legacyInbounds = [port] := by
  decide +kernel

end Hub

end LocalProxy
