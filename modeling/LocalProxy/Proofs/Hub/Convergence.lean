import LocalProxy.Proofs.Config.Check
import LocalProxy.Proofs.Hub.Runs
import LocalProxy.Proofs.Listening.Settling

/-! Applying a configuration is three reconciliations: of the legacy inbounds, of the explicit
ones, and of the tunnels. Together they settle each listener as the configuration wants it. -/
namespace LocalProxy

variable {σ : Type} {d : Drivers σ} {c : Config} {m : Manager σ}

theorem Ports.legacy_toInbounds {p : Ports} {host : String} {allowLan : Bool} {spec : InboundSpec}
    (member : spec ∈ p.toInbounds host allowLan) : spec.legacy = true := by
  obtain ⟨_, _, rfl⟩ := List.mem_map.mp member
  rfl

namespace Config

/-- The legacy inbounds that stand for the ports of a configuration. -/
def portInbounds (c : Config) : List InboundSpec :=
  c.general.ports.toInbounds c.general.bindAddress c.general.allowLan

/-- The inbounds a configuration asks for: its own, and those of its ports. -/
def wantedInbounds (c : Config) : List InboundSpec := c.inbounds ++ c.portInbounds

def wantedTunnels (c : Config) : List TunnelEntry := c.tunnels.flatMap TunnelSpec.entries

theorem not_port {spec : InboundSpec} (own : spec.legacy = false) : spec ∉ c.portInbounds := by
  intro member
  cases own.symm.trans (Ports.legacy_toInbounds member)

theorem not_own (explicit : c.Explicit) {spec : InboundSpec} (legacy : spec.legacy = true) :
    spec ∉ c.inbounds := by
  intro member
  cases legacy.symm.trans (explicit spec member)

/-- While the explicit inbounds are carried over, a legacy one is wanted as by the whole. -/
theorem mem_wanted_legacy (explicit : c.Explicit) {spec : InboundSpec}
    (legacy : spec.legacy = true) :
    spec ∈ m.explicitInbounds ++ c.portInbounds ↔ spec ∈ c.wantedInbounds := by
  simp [wantedInbounds, Manager.explicitInbounds, not_own explicit legacy, legacy]

/-- While the legacy inbounds are carried over, an explicit one is wanted as by the whole. -/
theorem mem_wanted_explicit {spec : InboundSpec} (own : spec.legacy = false) :
    spec ∈ c.inbounds ++ m.legacyInbounds ↔ spec ∈ c.wantedInbounds := by
  simp [wantedInbounds, Manager.legacyInbounds, not_port own, own]

end Config

/-- The reconciliations of an application, each from where the one before it ended. -/
structure Phases (d : Drivers σ) (c : Config) (m : Manager σ) where
  afterPorts : Manager σ × Report InboundSpec
  afterInbounds : Manager σ × Report InboundSpec
  afterTunnels : Manager σ × Report TunnelEntry
  first : List Call
  second : List Call
  third : List Call
  ports : (Manager.inboundLayer d).Reconciles d (m.explicitInbounds ++ c.portInbounds) m
    afterPorts first
  inbounds : (Manager.inboundLayer d).Reconciles d
    (c.inbounds ++ afterPorts.1.legacyInbounds) afterPorts.1 afterInbounds second
  tunnels : Manager.tunnelLayer.Reconciles d c.wantedTunnels afterInbounds.1 afterTunnels third

namespace Phases

/-- The phases are what the operations of the manager do, one after the other. -/
theorem exists_of_sole (sole : Sole m.handles) : ∃ phases : Phases d c m,
    phases.afterPorts = m.reconcileInbounds d (m.explicitInbounds ++ c.portInbounds) ∧
      phases.afterInbounds = phases.afterPorts.1.replaceInbounds d c.inbounds ∧
      phases.afterTunnels = phases.afterInbounds.1.replaceTunnels d c.tunnels := by
  obtain ⟨first, ports⟩ := Manager.reconcileInbounds_reconciles (d := d) sole
    (m.explicitInbounds ++ c.portInbounds)
  obtain ⟨second, inbounds⟩ := Manager.reconcileInbounds_reconciles (d := d)
    (ports.moves.sole sole) (c.inbounds ++ _)
  obtain ⟨third, tunnels⟩ := Manager.replaceTunnels_reconciles (d := d)
    (inbounds.moves.sole (ports.moves.sole sole)) c.tunnels
  exact ⟨⟨_, _, _, first, second, third, ports, inbounds, tunnels⟩, rfl, rfl, rfl⟩

def asked (phases : Phases d c m) : List Call := phases.first ++ phases.second ++ phases.third

theorem consults (phases : Phases d c m) : m.Consults d phases.asked phases.afterTunnels.1 :=
  (phases.ports.consults.trans phases.inbounds.consults).trans phases.tunnels.consults

theorem explicit_rests (phases : Phases d c m) {spec : InboundSpec} (own : spec.legacy = false) :
    (Manager.inboundLayer d).Rests spec m phases.afterPorts.1 phases.first := by
  refine phases.ports.rests ?_
  simp [Manager.explicitInbounds, Manager.inboundLayer, Config.not_port own, own]

theorem legacy_rests (phases : Phases d c m) (explicit : c.Explicit) {spec : InboundSpec}
    (legacy : spec.legacy = true) :
    (Manager.inboundLayer d).Rests spec phases.afterPorts.1 phases.afterInbounds.1
      phases.second := by
  refine phases.inbounds.rests ?_
  simp [Manager.legacyInbounds, Manager.inboundLayer, Config.not_own explicit legacy, legacy]

theorem inbound_rests (phases : Phases d c m) (spec : InboundSpec) :
    (Manager.inboundLayer d).Rests spec phases.afterInbounds.1 phases.afterTunnels.1
      phases.third :=
  phases.tunnels.rests_apart fun _ _ part => Manager.layers_apart part

theorem tunnel_rests (phases : Phases d c m) (e : TunnelEntry) :
    Manager.tunnelLayer.Rests e m phases.afterPorts.1 phases.first ∧
      Manager.tunnelLayer.Rests e phases.afterPorts.1 phases.afterInbounds.1 phases.second :=
  ⟨phases.ports.rests_apart fun _ _ part part' => Manager.layers_apart part' part,
    phases.inbounds.rests_apart fun _ _ part part' => Manager.layers_apart part' part⟩

/-- An explicit inbound is settled by the reconciliation of the explicit ones, a legacy one by
that of the ports. -/
theorem settles_inbound (phases : Phases d c m) (explicit : c.Explicit) (spec : InboundSpec) :
    (Manager.inboundLayer d).Settles spec (spec ∈ c.wantedInbounds) m phases.afterTunnels.1
      phases.asked := by
  refine Layer.Settles.before_rest ?_ (phases.inbound_rests spec)
  cases legacy : spec.legacy with
  | false =>
    refine Layer.Settles.after_rest (phases.explicit_rests legacy) ?_
    exact (phases.inbounds.settles spec).congr (Config.mem_wanted_explicit legacy)
  | true =>
    refine Layer.Settles.before_rest ?_ (phases.legacy_rests explicit legacy)
    exact (phases.ports.settles spec).congr (Config.mem_wanted_legacy explicit legacy)

/-- A tunnel is settled by the last of them. -/
theorem settles_tunnel (phases : Phases d c m) (e : TunnelEntry) :
    Manager.tunnelLayer.Settles e (e ∈ c.wantedTunnels) m phases.afterTunnels.1
      phases.asked := by
  obtain ⟨ports_rest, inbounds_rest⟩ := phases.tunnel_rests e
  exact Layer.Settles.after_rest (ports_rest.trans inbounds_rest) (phases.tunnels.settles e)

end Phases

namespace Hub

/-- The manager under the binding of a configuration, as its reconciliations find it. -/
def bound (h : Hub σ) (c : Config) : Manager σ :=
  { h.manager with binding := c.general.binding }

/-- Applying a configuration, with what that reports. -/
def applying (d : Drivers σ) (h : Hub σ) (c : Config) : Hub σ × Application :=
  runStages d h (h.application c) applyStages

/-- Applying a configuration goes through its phases. -/
theorem apply_phases {h : Hub σ} (sole : Sole h.manager.handles) (c : Config) :
    ∃ (phases : Phases d c (h.bound c)) (report : Record),
      h.applying d c =
        ({ h with
            manager := phases.afterTunnels.1.log report
            rules := c.rules
            resolver := c.dns.resolver?
            general := h.overrides.apply c.general },
          ⟨(h.application c).config, phases.afterPorts.2, phases.afterInbounds.2,
            phases.afterTunnels.2⟩) := by
  obtain ⟨phases, ports, inbounds, tunnels⟩ := Phases.exists_of_sole (d := d) (c := c)
    (m := h.bound c) sole
  refine ⟨phases, applied (h.applying d c).2, ?_⟩
  rw [tunnels, inbounds, ports]
  rfl

end Hub

/-- A document that asks for one HTTP port. -/
def portDocument : Document := { ports := { http := 7890 } }

def portConfig : Config := { general := { ports := { http := 7890 } } }

theorem portDocument_check : portDocument.check = .ok portConfig := rfl

/-- An outside that grants every listener. -/
def obliging : Outside Unit where
  serves := servedByDefault
  listen _ _ _ := (.ok default, ())
  close _ _ := (none, ())
  configFile _ := .error .missing
  exchange _ _ _ := (.error .timeout, ())

end LocalProxy
