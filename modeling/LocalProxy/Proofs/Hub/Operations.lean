import LocalProxy.Proofs.Hub.Convergence

/-! What each operation of a hub wants to run, and that it settles every listener accordingly:
what is wanted and does not run is asked for once, what runs and is not wanted is closed, and the
rest is left as it is. -/
namespace LocalProxy

variable {σ κ : Type} {d : Drivers σ} {m m' : Manager σ} {asked : List Call}

namespace Manager.Clears

variable {gone : Slot → Prop} {L : Layer σ κ} {k : κ}

/-- A key whose slots are all given up is settled as not wanted. -/
theorem settles (clears : Clears d gone m m' asked)
    (all : ∀ slot, L.part slot = some k → gone slot) : L.Settles k False m m' asked where
  running := by
    refine iff_of_false ?_ (fun ⟨wish, _⟩ => wish)
    intro runs
    obtain ⟨h, held, part⟩ := L.mem_running.mp runs
    exact ((clears.handles h).mp held).2 (all h.slot part)
  tried := False.elim
  kept := False.elim
  closed _ h held part := clears.all h held (all h.slot part)

/-- A key rests none of whose slots is given up. -/
theorem rests (clears : Clears d gone m m' asked)
    (none_gone : ∀ slot, L.part slot = some k → ¬ gone slot) : L.Rests k m m' asked where
  silent c member part := by
    obtain ⟨h, failure, rfl, out⟩ := clears.closes c member
    exact none_gone h.slot part out
  handles h part := (clears.handles h).trans (and_iff_left (none_gone h.slot part))

end Manager.Clears

theorem Layer.Rests.nothing {L : Layer σ κ} (k : κ) : L.Rests k m m [] where
  silent := by simp
  handles _ _ := Iff.rfl

/-- A key that rests is settled as it was. -/
theorem Layer.Rests.settles {L : Layer σ κ} {k : κ} (rests : L.Rests k m m' asked) :
    L.Settles k (k ∈ L.running m) m m' asked where
  running := rests.running.trans ⟨fun runs => ⟨runs, .inl runs⟩, And.left⟩
  tried runs idle := absurd runs idle
  kept _ _ := rests
  closed idle h held part := absurd (L.mem_running.mpr ⟨h, held, part⟩) idle

/-- A key that did not run stays away just if it is refused where it is desired. -/
theorem Layer.Settles.absent_iff {L : Layer σ κ} {k : κ} {desired : Prop}
    (settles : L.Settles k desired m m' asked) (idle : k ∉ L.running m) :
    k ∉ L.running m' ↔ (desired → L.Denied asked k) := by
  rw [settles.running]
  constructor
  · intro absent wish
    exact (settles.tried wish idle).mpr fun granted => absent ⟨wish, .inr granted⟩
  · rintro refused ⟨wish, ran | granted⟩
    · exact idle ran
    · exact (settles.tried wish idle).mp (refused wish) granted

namespace Manager

theorem mem_explicitInbounds {spec : InboundSpec} :
    spec ∈ m.explicitInbounds ↔ spec ∈ m.inbounds ∧ spec.legacy = false := by
  simp [explicitInbounds]

theorem mem_legacyInbounds {spec : InboundSpec} :
    spec ∈ m.legacyInbounds ↔ spec ∈ m.inbounds ∧ spec.legacy = true := List.mem_filter

end Manager

namespace Hub

namespace Operation

/-- The configuration that an operation applies, if it applies one. -/
def config? (path : String) : Operation → Option Config
  | apply c => some c
  | reload file => (Config.load path file).toOption
  | patch _ | updateInbounds _ | shutdown => none

/-- The inbounds that an operation wants to run. -/
def wantedInbounds (h : Hub σ) : Operation → List InboundSpec
  | apply c => c.wantedInbounds
  | reload file => ((Config.load h.configPath file).toOption.map Config.wantedInbounds).getD
      h.manager.inbounds
  | patch p => h.manager.explicitInbounds ++ (h.patching p).config.portInbounds
  | updateInbounds specs => specs ++ h.manager.legacyInbounds
  | shutdown => []

/-- The tunnels that an operation wants to run. -/
def wantedTunnels (h : Hub σ) : Operation → List TunnelEntry
  | apply c => c.wantedTunnels
  | reload file => ((Config.load h.configPath file).toOption.map Config.wantedTunnels).getD
      h.manager.tunnels
  | patch _ | updateInbounds _ => h.manager.tunnels
  | shutdown => []

/-- The binding that an operation leaves. -/
def binding (h : Hub σ) : Operation → Binding
  | apply c => c.general.binding
  | reload file => ((Config.load h.configPath file).toOption.map (·.general.binding)).getD
      h.manager.binding
  | patch p => (p.merge h.general).binding
  | updateInbounds _ | shutdown => h.manager.binding

/-- The inbounds an operation brings stand for no port, as is so for every configuration that
was checked and for what the control interface builds. -/
def Explicit : Operation → Prop
  | apply c => c.Explicit
  | updateInbounds specs => ∀ spec ∈ specs, spec.legacy = false
  | reload _ | patch _ | shutdown => True

end Operation

/-- An operation has asked for some calls, which the outside has answered, and settled every listener
as it wants them. -/
structure Performed (d : Drivers σ) (op : Operation) (before after : Hub σ) (asked : List Call) :
    Prop where
  calls : after.manager.calls = before.manager.calls ++ asked
  answered : d.Answered before.manager.outside asked after.manager.outside
  binding : after.manager.binding = op.binding before
  inbounds : ∀ spec, (Manager.inboundLayer d).Settles spec (spec ∈ op.wantedInbounds before)
    before.manager after.manager asked
  tunnels : ∀ e, Manager.tunnelLayer.Settles e (e ∈ op.wantedTunnels before)
    before.manager after.manager asked

theorem Performed.wanted_inbound {op : Operation} {before after : Hub σ}
    (performed : Performed d op before after asked) {spec : InboundSpec}
    (runs : spec ∈ after.manager.inbounds) : spec ∈ op.wantedInbounds before :=
  ((performed.inbounds spec).running.mp runs).1

theorem Performed.wanted_tunnel {op : Operation} {before after : Hub σ}
    (performed : Performed d op before after asked) {e : TunnelEntry}
    (runs : e ∈ after.manager.tunnels) : e ∈ op.wantedTunnels before :=
  ((performed.tunnels e).running.mp runs).1

/-- What is open after an operation was so before, or was opened by it. -/
theorem Performed.held_or_asked {op : Operation} {before after : Hub σ}
    (performed : Performed d op before after asked) (balanced : before.manager.Balanced)
    (balanced' : after.manager.Balanced) {h : Handle} (held : h ∈ after.manager.handles) :
    h ∈ before.manager.handles ∨ .granting h ∈ asked := by
  obtain ⟨granted, unclosed⟩ := (balanced'.live h).mp held
  simp only [Manager.books, performed.calls, List.mem_append, not_or] at granted unclosed
  refine granted.imp_left fun early => ?_
  exact (balanced.live h).mpr ⟨early, fun failure => (unclosed failure).1⟩

variable {h : Hub σ}

theorem apply_performed (sole : Sole h.manager.handles) {c : Config} (explicit : c.Explicit) :
    ∃ asked, Performed d (.apply c) h (h.apply d c) asked := by
  obtain ⟨phases, report, result⟩ := apply_phases (d := d) sole c
  have applied : h.apply d c = _ := congrArg Prod.fst result
  refine ⟨phases.asked, ?_⟩
  rw [applied]
  exact {
    calls := phases.consults.asks.calls
    answered := phases.consults.answered
    binding := phases.consults.asks.binding
    inbounds := fun spec => (phases.settles_inbound explicit spec).of_handles rfl rfl
    tunnels := fun e => (phases.settles_tunnel e).of_handles rfl rfl }

theorem patch_performed (sole : Sole h.manager.handles) (p : GeneralPatch) :
    ∃ asked, Performed d (.patch p) h (h.patch d p) asked := by
  have reconciles := Manager.reconcileInbounds_reconciles (d := d)
    (m := { h.manager with binding := (h.patching p).config.general.binding }) sole
    (h.manager.explicitInbounds ++ (h.patching p).config.portInbounds)
  obtain ⟨asked, reconciles⟩ := reconciles
  exact ⟨asked, {
    calls := reconciles.asks.calls
    answered := reconciles.consults.answered
    binding := reconciles.asks.binding
    inbounds := fun spec => (reconciles.settles spec).of_handles rfl rfl
    tunnels := fun e => (reconciles.rests_apart
      (fun _ _ part part' => Manager.layers_apart part' part)).settles.of_handles rfl rfl }⟩

theorem updateInbounds_performed (sole : Sole h.manager.handles) (specs : List InboundSpec) :
    ∃ asked, Performed d (.updateInbounds specs) h (h.updateInbounds d specs).1 asked := by
  obtain ⟨asked, reconciles⟩ := Manager.reconcileInbounds_reconciles (d := d) sole
    (specs ++ h.manager.legacyInbounds)
  exact ⟨asked, {
    calls := reconciles.asks.calls
    answered := reconciles.consults.answered
    binding := reconciles.asks.binding
    inbounds := reconciles.settles
    tunnels := fun e => (reconciles.rests_apart
      (fun _ _ part part' => Manager.layers_apart part' part)).settles }⟩

/-- Closing everything settles every inbound first, and then every tunnel. -/
theorem shutdown_performed (sole : Sole h.manager.handles) :
    ∃ asked, Performed d .shutdown h (h.shutdown d) asked := by
  obtain ⟨first, clears⟩ :=
    Manager.Clears.of_foldl id (Manager.closeSpec_clears (d := d)) sole h.manager.inbounds
  obtain ⟨second, tunnels⟩ :=
    Manager.replaceTunnels_reconciles (d := d) (clears.moves.sole sole) []
  have closed : ∀ spec, (Manager.inboundLayer d).Settles spec False h.manager
      (h.manager.inbounds.foldl (Manager.closeSpec d) h.manager) first := by
    intro spec
    by_cases runs : spec ∈ h.manager.inbounds
    · exact clears.settles fun slot part => ⟨spec, runs, part⟩
    · refine (clears.rests ?_).settles.congr (iff_of_false runs id)
      rintro slot part ⟨other, listed, part'⟩
      exact runs (Option.some.inj (part.symm.trans part') ▸ listed)
  have consults := clears.consults.trans tunnels.consults
  refine ⟨first ++ second, consults.asks.calls, consults.answered, consults.asks.binding,
    fun spec => ?_, fun e => ?_⟩
  · have rest : (Manager.inboundLayer d).Rests spec _ (h.manager.closeAll d) second :=
      tunnels.rests_apart fun _ _ part => Manager.layers_apart part
    have unwanted : False ↔ spec ∈ Operation.shutdown.wantedInbounds h :=
      iff_of_false id List.not_mem_nil
    exact (((closed spec).before_rest rest).congr unwanted).of_handles rfl rfl
  · have rest := clears.rests (L := Manager.tunnelLayer) (k := e)
      fun _ part ⟨_, _, part'⟩ => Manager.layers_apart part' part
    exact (Layer.Settles.after_rest rest (tunnels.settles e)).of_handles rfl rfl

theorem reload_of_error {d : Outside σ} {file : Except FileFault Bytes} {fault : ConfigFault}
    (loaded : Config.load h.configPath file = .error fault) : h.perform d (.reload file) = h := by
  simp [perform, reload, readConfig, loaded]

theorem reload_of_ok {d : Outside σ} {file : Except FileFault Bytes} {c : Config}
    (loaded : Config.load h.configPath file = .ok c) :
    h.perform d (.reload file) = h.apply d.toDrivers c := by
  simp [perform, reload, readConfig, loaded]

theorem reload_performed {d : Outside σ} (sole : Sole h.manager.handles)
    (file : Except FileFault Bytes) :
    ∃ asked, Performed d.toDrivers (.reload file) h (h.perform d (.reload file)) asked := by
  cases loaded : Config.load h.configPath file with
  | error fault =>
    have inbounds : (Operation.reload file).wantedInbounds h = h.manager.inbounds := by
      simp [Operation.wantedInbounds, loaded, Except.toOption]
    have tunnels : (Operation.reload file).wantedTunnels h = h.manager.tunnels := by
      simp [Operation.wantedTunnels, loaded, Except.toOption]
    have binding : (Operation.reload file).binding h = h.manager.binding := by
      simp [Operation.binding, loaded, Except.toOption]
    rw [reload_of_error loaded]
    exact ⟨[], (List.append_nil _).symm, .nothing _, binding.symm,
      fun spec => inbounds.symm ▸ (Layer.Rests.nothing spec).settles,
      fun e => tunnels.symm ▸ (Layer.Rests.nothing e).settles⟩
  | ok c =>
    have inbounds : (Operation.reload file).wantedInbounds h = c.wantedInbounds := by
      simp [Operation.wantedInbounds, loaded, Except.toOption]
    have tunnels : (Operation.reload file).wantedTunnels h = c.wantedTunnels := by
      simp [Operation.wantedTunnels, loaded, Except.toOption]
    have binding : (Operation.reload file).binding h = c.general.binding := by
      simp [Operation.binding, loaded, Except.toOption]
    obtain ⟨asked, performed⟩ :=
      apply_performed (d := d.toDrivers) sole (Config.load_explicit loaded)
    rw [reload_of_ok loaded]
    exact ⟨asked, performed.calls, performed.answered, performed.binding.trans binding.symm,
      fun spec => inbounds.symm ▸ performed.inbounds spec,
      fun e => tunnels.symm ▸ performed.tunnels e⟩

/-- Every operation settles every listener. -/
theorem perform_performed {d : Outside σ} (sole : Sole h.manager.handles) {op : Operation}
    (explicit : op.Explicit) : ∃ asked, Performed d.toDrivers op h (h.perform d op) asked := by
  cases op with
  | apply c => exact apply_performed sole explicit
  | reload file => exact reload_performed sole file
  | patch p => exact patch_performed sole p
  | updateInbounds specs => exact updateInbounds_performed sole specs
  | shutdown => exact shutdown_performed sole

end Hub

end LocalProxy
