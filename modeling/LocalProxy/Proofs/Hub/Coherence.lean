import LocalProxy.Proofs.Hub.Operations
import Mathlib.Data.List.Induction

/-! The parts of a hub agree with one another, and with what was last asked of it, after every
run of operations. -/
namespace LocalProxy

theorem DnsSettings.isSome_resolver? (s : DnsSettings) : s.resolver?.isSome = s.enable := by
  cases enable : s.enable <;> simp [resolver?, enable]

namespace Hub

variable {σ : Type} {d : Outside σ} {h : Hub σ} {path : String} {past : List Operation}

/-- The explicit inbounds that an operation asks for, if it asks for any. -/
def Operation.explicit? (path : String) : Operation → Option (List InboundSpec)
  | .updateInbounds specs => some specs
  | op => (op.config? path).map Config.inbounds

/-- The configuration that was applied last. -/
def lastApplied (path : String) (past : List Operation) : Option Config :=
  (past.filterMap (Operation.config? path)).getLast?

/-- The explicit inbounds that were asked for last. -/
def lastExplicit (path : String) (past : List Operation) : List InboundSpec :=
  ((past.filterMap (Operation.explicit? path)).getLast?).getD []

theorem lastApplied_concat (op : Operation) :
    lastApplied path (past ++ [op]) = (op.config? path).or (lastApplied path past) := by
  cases asked : op.config? path <;> simp [lastApplied, asked]

theorem lastExplicit_concat (op : Operation) :
    lastExplicit path (past ++ [op]) = (op.explicit? path).getD (lastExplicit path past) := by
  cases asked : op.explicit? path <;> simp [lastExplicit, asked]

/-- How the settings, the manager, the rules and the resolver of a hub agree with one another,
with the configuration that was applied last and with the explicit inbounds that were asked for
last. Where none was applied yet, an empty configuration is in force. -/
structure Coherent (applied : Option Config) (requested : List InboundSpec) (h : Hub σ) :
    Prop where
  binding : h.manager.binding = ⟨h.general.allowLan, h.general.bindAddress⟩
  legacy : ∀ spec ∈ h.manager.legacyInbounds,
    spec ∈ h.general.ports.toInbounds h.general.bindAddress h.general.allowLan
  explicit : ∀ spec ∈ h.manager.explicitInbounds, spec ∈ requested
  tunnels : ∀ e ∈ h.manager.tunnels, e ∈ (applied.getD {}).wantedTunnels
  rules : h.rules = (applied.getD {}).rules
  resolver : h.resolver = (applied.getD {}).dns.resolver?
  installed : h.resolver.isSome = (applied.getD {}).dns.enable
  secret : ∀ c, applied = some c → h.general.secret = h.overrides.secret.getD c.general.secret
  controller : ∀ c, applied = some c →
    h.general.externalController = h.overrides.externalController.or c.general.externalController

namespace Coherent

variable {applied : Option Config} {requested : List InboundSpec}

/-- A hub that runs nothing is coherent if its settings are. -/
theorem create (outside : σ) (path : String) (overrides : Overrides) (logBuffer : Nat) :
    Coherent none [] (Hub.create outside path overrides logBuffer) := by
  obtain ⟨no_inbound, no_tunnel⟩ := Manager.handles_eq_nil_iff.mp
    (rfl : (Hub.create outside path overrides logBuffer).manager.handles = [])
  refine ⟨rfl, ?_, ?_, ?_, rfl, rfl, rfl, ?_, ?_⟩
  · exact fun spec member => absurd (Manager.mem_legacyInbounds.mp member).1 (no_inbound spec)
  · exact fun spec member => absurd (Manager.mem_explicitInbounds.mp member).1 (no_inbound spec)
  · exact fun e runs => absurd runs (no_tunnel e)
  · exact fun c never => absurd never.symm (Option.some_ne_none c)
  · exact fun c never => absurd never.symm (Option.some_ne_none c)

/-- Applying a configuration makes a hub coherent, whatever it was before. -/
theorem apply (sole : Sole h.manager.handles) {c : Config} (explicit : c.Explicit) :
    Coherent (some c) c.inbounds (h.apply d.toDrivers c) := by
  obtain ⟨asked, performed⟩ := apply_performed (d := d.toDrivers) sole explicit
  refine ⟨performed.binding, ?_, ?_, ?_, rfl, rfl, c.dns.isSome_resolver?, ?_, ?_⟩
  · intro spec member
    obtain ⟨runs, legacy⟩ := Manager.mem_legacyInbounds.mp member
    exact (List.mem_append.mp (performed.wanted_inbound runs)).resolve_left
      (Config.not_own explicit legacy)
  · intro spec member
    obtain ⟨runs, own⟩ := Manager.mem_explicitInbounds.mp member
    exact (List.mem_append.mp (performed.wanted_inbound runs)).resolve_right (Config.not_port own)
  · exact fun e runs => performed.wanted_tunnel runs
  · rintro other ⟨⟩
    rfl
  · rintro other ⟨⟩
    rfl

/-- A patch moves the legacy inbounds to the new ports and binding, and nothing else. -/
theorem patch (coherent : Coherent applied requested h) (sole : Sole h.manager.handles)
    (p : GeneralPatch) : Coherent applied requested (h.patch d.toDrivers p) := by
  obtain ⟨asked, performed⟩ := patch_performed (d := d.toDrivers) sole p
  refine ⟨performed.binding, ?_, ?_, ?_, coherent.rules, coherent.resolver, coherent.installed,
    coherent.secret, coherent.controller⟩
  · intro spec member
    obtain ⟨runs, legacy⟩ := Manager.mem_legacyInbounds.mp member
    refine (List.mem_append.mp (performed.wanted_inbound runs)).resolve_left fun own => ?_
    cases legacy.symm.trans (Manager.mem_explicitInbounds.mp own).2
  · intro spec member
    obtain ⟨runs, own⟩ := Manager.mem_explicitInbounds.mp member
    have wanted := List.mem_append.mp (performed.wanted_inbound runs)
    exact coherent.explicit spec (wanted.resolve_right (Config.not_port own))
  · exact fun e runs => coherent.tunnels e (performed.wanted_tunnel runs)

theorem updateInbounds (coherent : Coherent applied requested h) (sole : Sole h.manager.handles)
    {specs : List InboundSpec} (explicit : ∀ spec ∈ specs, spec.legacy = false) :
    Coherent applied specs (h.updateInbounds d.toDrivers specs).1 := by
  obtain ⟨asked, performed⟩ := updateInbounds_performed (d := d.toDrivers) sole specs
  refine ⟨performed.binding.trans coherent.binding, ?_, ?_, ?_, coherent.rules, coherent.resolver,
    coherent.installed, coherent.secret, coherent.controller⟩
  · intro spec member
    obtain ⟨runs, legacy⟩ := Manager.mem_legacyInbounds.mp member
    have wanted := List.mem_append.mp (performed.wanted_inbound runs)
    refine coherent.legacy spec (wanted.resolve_left fun listed => ?_)
    cases legacy.symm.trans (explicit spec listed)
  · intro spec member
    obtain ⟨runs, own⟩ := Manager.mem_explicitInbounds.mp member
    refine (List.mem_append.mp (performed.wanted_inbound runs)).resolve_right fun carried => ?_
    cases own.symm.trans (Manager.mem_legacyInbounds.mp carried).2
  · exact fun e runs => coherent.tunnels e (performed.wanted_tunnel runs)

theorem shutdown (coherent : Coherent applied requested h) (sole : Sole h.manager.handles) :
    Coherent applied requested (h.shutdown d.toDrivers) := by
  obtain ⟨asked, performed⟩ := shutdown_performed (d := d.toDrivers) sole
  refine ⟨performed.binding.trans coherent.binding, ?_, ?_, ?_, coherent.rules, coherent.resolver,
    coherent.installed, coherent.secret, coherent.controller⟩
  · intro spec member
    cases performed.wanted_inbound (Manager.mem_legacyInbounds.mp member).1
  · intro spec member
    cases performed.wanted_inbound (Manager.mem_explicitInbounds.mp member).1
  · intro e runs
    cases performed.wanted_tunnel runs

theorem perform (coherent : Coherent applied requested h) (sole : Sole h.manager.handles)
    {op : Operation} (explicit : op.Explicit) :
    Coherent ((op.config? h.configPath).or applied) ((op.explicit? h.configPath).getD requested)
      (h.perform d op) := by
  cases op with
  | apply c => exact apply sole explicit
  | reload file =>
    cases loaded : Config.load h.configPath file with
    | error fault =>
      rw [reload_of_error loaded]
      simpa [Operation.explicit?, Operation.config?, loaded, Except.toOption] using coherent
    | ok c =>
      rw [reload_of_ok loaded]
      simpa [Operation.explicit?, Operation.config?, loaded, Except.toOption] using
        apply sole (Config.load_explicit loaded)
  | patch p => exact coherent.patch sole p
  | updateInbounds specs => exact coherent.updateInbounds sole explicit
  | shutdown => exact coherent.shutdown sole

end Coherent

theorem run_concat (operations : List Operation) (op : Operation) :
    run d h (operations ++ [op]) = (run d h operations).perform d op := by
  simp [run]

theorem perform_fixed (op : Operation) :
    (h.perform d op).configPath = h.configPath ∧ (h.perform d op).overrides = h.overrides := by
  cases op with
  | apply | patch | updateInbounds | shutdown => exact ⟨rfl, rfl⟩
  | reload file =>
    cases loaded : Config.load h.configPath file with
    | error fault => simp [reload_of_error loaded]
    | ok c =>
      rw [reload_of_ok loaded]
      exact ⟨rfl, rfl⟩

/-- No operation changes where the configuration file is, and what overrides it. -/
theorem run_fixed (operations : List Operation) :
    (run d h operations).configPath = h.configPath ∧
      (run d h operations).overrides = h.overrides := by
  induction operations using List.reverseRecOn with
  | nil => exact ⟨rfl, rfl⟩
  | append_singleton operations op ih =>
    rw [run_concat, (perform_fixed op).1, (perform_fixed op).2]
    exact ih

/-- Every state that a hub can come to is coherent with what was applied and asked for last. -/
theorem run_coherent (d : Outside σ) (outside : σ) (path : String) (overrides : Overrides)
    (logBuffer : Nat) (operations : List Operation) (explicit : ∀ op ∈ operations, op.Explicit) :
    (run d (create outside path overrides logBuffer) operations).overrides = overrides ∧
      Coherent (lastApplied path operations) (lastExplicit path operations)
        (run d (create outside path overrides logBuffer) operations) := by
  refine ⟨(run_fixed operations).2, ?_⟩
  induction operations using List.reverseRecOn with
  | nil => exact .create outside path overrides logBuffer
  | append_singleton operations op ih =>
    have coherent := ih fun op member => explicit op (List.mem_append_left _ member)
    have reachable : Reachable d outside
        (run d (create outside path overrides logBuffer) operations) :=
      ⟨path, overrides, logBuffer, operations, rfl⟩
    have next := coherent.perform (d := d) reachable.balanced.sole (explicit op (by simp))
    rw [(run_fixed operations).1] at next
    rw [run_concat, lastApplied_concat, lastExplicit_concat]
    exact next

theorem run_coherent_patched :
    let operations := [.apply portConfig, .patch { socks := some 1080 },
      .updateInbounds [⟨.http, "127.0.0.1:8080", false⟩]]
    let h := run obliging (create () "config.yaml" {} 1) operations
    (∀ op ∈ operations, op.Explicit) ∧ h.overrides = {} ∧
      Coherent (lastApplied "config.yaml" operations) (lastExplicit "config.yaml" operations)
        h := by
  intro operations
  have explicit : ∀ op ∈ operations, op.Explicit := by
    simp [operations, Operation.Explicit, Config.Explicit, portConfig]
  exact ⟨explicit, run_coherent obliging () "config.yaml" {} 1 operations explicit⟩

end Hub

end LocalProxy
