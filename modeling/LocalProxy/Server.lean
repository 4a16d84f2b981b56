import LocalProxy.Hub
import LocalProxy.Relay.Outbound

/-! The life of the process around a hub: the control interface is bound, the configuration is
applied, and at the end everything is closed. -/
namespace LocalProxy

/-- The outside of a server: that of its hub, looking up names, and a socket for the control
interface. -/
structure Host (σ : Type) extends Outside σ where
  names : String → Option IpAddress
  openApi : Endpoint → σ → Except String Endpoint × σ
  closeApi : Endpoint → σ → σ

inductive ServeFault
  | address (text : String) (fault : AddressFault)
  | bind (text reason : String)
deriving DecidableEq, Repr

namespace ServeFault

def message : ServeFault → String
  | address text _ => "Invalid API address " ++ text
  | bind text _ => "Failed to bind API address " ++ text

/-- The fault and what is behind it. -/
def causes : ServeFault → List String
  | address text fault => [message (.address text fault), fault.message text]
  | bind text reason => [message (.bind text reason), reason]

end ServeFault

/-- A hub that serves, and where its control interface is bound, if anywhere. -/
structure Server (σ : Type) where
  hub : Hub σ
  api : Option Endpoint

namespace Server

variable {σ : Type}

/-- The address of the control interface. An override wins over the configuration. -/
def controller (o : Overrides) (c : Config) : Option String :=
  o.externalController.or c.general.externalController

/-- Binds the control interface where an address is given. -/
def openApi (d : Host σ) (h : Hub σ) (c : Config) :
    Except ServeFault (Option Endpoint) × Hub σ :=
  match controller h.overrides c with
  | none => (.ok none, h.log (.of .info "No API address specified"))
  | some text =>
    match bindEndpoint d.names text with
    | .error fault => (.error (.address text fault), h)
    | .ok e =>
      match d.openApi e h.manager.outside with
      | (.error reason, outside) =>
        (.error (.bind text reason), { h with manager := { h.manager with outside := outside } })
      | (.ok bound, outside) =>
        (.ok (some bound), { h with manager := { h.manager with outside := outside } }.log
          (.of .info "API server listening" [("address", .text bound.text)]))

/-- Binds the control interface, then applies the configuration. Nothing is applied where the
interface cannot be bound. -/
def start (d : Host σ) (h : Hub σ) (c : Config) : Except ServeFault (Server σ) × Hub σ :=
  match openApi d h c with
  | (.error fault, h) => (.error fault, h)
  | (.ok api, h) =>
    let h := h.apply d.toDrivers c
    (.ok ⟨h, api⟩, h)

/-- Releases the control interface. -/
def stopApi (d : Host σ) (s : Server σ) : Server σ :=
  match s.api with
  | none => s
  | some e =>
    let m := s.hub.manager
    { hub := { s.hub with manager := { m with outside := d.closeApi e m.outside } }.log
        (.of .info "API server stopped")
      api := none }

/-- Stops the control interface, then the hub. -/
def stop (d : Host σ) (s : Server σ) : Hub σ :=
  ((s.stopApi d).hub.shutdown d.toDrivers).log (.of .info "Server stopped")

end Server

end LocalProxy
