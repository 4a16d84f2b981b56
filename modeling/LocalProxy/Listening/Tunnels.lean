import LocalProxy.Listening.Inbounds

/-! The tunnel listeners: what runs, and how it is turned into what is wanted; and the close of
everything that listens. -/
namespace LocalProxy

namespace TunnelEntry

def service (e : TunnelEntry) : Service := .tunnel e.key

def logNames (e : TunnelEntry) : List (String × FieldValue) :=
  [("network", .text e.network.name), ("tunnel", .text e.key.text)]

end TunnelEntry

namespace Manager

variable {σ : Type}

def entryOf (h : Handle) : Option TunnelEntry :=
  match h.service with
  | .inbound _ => none
  | .tunnel key => some ⟨h.network, key⟩

/-- Every running tunnel, sorted. -/
def tunnels (m : Manager σ) : List TunnelEntry :=
  TunnelEntry.sort (m.handles.filterMap entryOf)

/-- The running tunnels with their endpoints, sorted. -/
def tunnelStatus (m : Manager σ) : List (TunnelEntry × Endpoint) :=
  m.tunnels.filterMap fun e => (m.handle? e.network e.service).map fun h => (e, h.bound)

def closeTunnel (d : Drivers σ) (acc : Manager σ × Report TunnelEntry) (e : TunnelEntry) :
    Manager σ × Report TunnelEntry :=
  let (m, report) := acc
  let m := match m.release d e.network e.service with
    | (none, m) => m
    | (some reason, m) =>
      m.log (.of .warn "Tunnel close failed" (e.logNames ++ [("error", FieldValue.text reason)]))
  (m.log (.of .info "Tunnel closed" e.logNames),
    { report with closed := report.closed ++ [e] })

/-- Opens a tunnel, whose target must be one. -/
def openTunnel (d : Drivers σ) (m : Manager σ) (e : TunnelEntry) :
    Except OpenFault Handle × Manager σ :=
  match Target.parse e.key.target with
  | .error fault => (.error (.target fault), m)
  | .ok _ => m.listen d e.network e.service

def createTunnel (d : Drivers σ) (acc : Manager σ × Report TunnelEntry) (e : TunnelEntry) :
    Manager σ × Report TunnelEntry :=
  let (m, report) := acc
  match openTunnel d m e with
  | (.ok h, m) =>
    ((m.keep h).log (.of .info "Tunnel created"
        (e.logNames ++ [("bound", FieldValue.text h.bound.text)])),
      { report with created := report.created ++ [e] })
  | (.error fault, m) =>
    (m.log (.of .error "Tunnel create failed"
        (e.logNames ++ [("error", FieldValue.text fault.message)])),
      { report with failed := report.failed ++ [(e, fault.message)] })

/-- Turns the running tunnels into the wanted ones. Every close comes before the first open. -/
def replaceTunnels (d : Drivers σ) (m : Manager σ) (wanted : List TunnelSpec) :
    Manager σ × Report TunnelEntry :=
  let plan := Plan.between m.tunnels (wanted.flatMap TunnelSpec.entries)
  plan.create.foldl (createTunnel d) (plan.close.foldl (closeTunnel d) (m, .empty))

/-- Closes every inbound, then every tunnel. -/
def closeAll (d : Drivers σ) (m : Manager σ) : Manager σ :=
  ((m.inbounds.foldl (closeSpec d) m).replaceTunnels d []).1

end Manager

end LocalProxy
