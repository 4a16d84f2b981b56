import LocalProxy.Inbound
import LocalProxy.Tunnel

/-! Bound listeners, why one may fail to open, and the outside that opens and closes them. -/
namespace LocalProxy

/-- What a listener serves. -/
inductive Service
  | inbound (spec : InboundSpec)
  | tunnel (key : TunnelKey)
deriving DecidableEq, Repr, Inhabited

def Service.address : Service → String
  | inbound spec => spec.bindAddress
  | tunnel key => key.address

/-- A bound listener. No two ever have one serial number. -/
structure Handle where
  serial : Nat
  network : Network
  service : Service
  bound : Endpoint
deriving DecidableEq, Repr

inductive OpenFault
  | port (address : String)
  | unsupported (type : InboundType)
  | address (address : String) (fault : AddressFault)
  | bind (network : Network) (address reason : String)
  | target (fault : TargetFault)
deriving DecidableEq, Repr

def OpenFault.message : OpenFault → String
  | port text => "invalid port in address `" ++ text ++ "`"
  | unsupported type => "unsupported inbound type: " ++ type.name
  | address text fault => fault.message text
  | bind network text reason => "bind " ++ network.name ++ " `" ++ text ++ "`: " ++ reason
  | target fault => fault.message

/-- The outside, in a state of type `σ`: which inbound types have a listener on a network, how
a listener is bound, and how one is closed, which may fail for a reason. -/
structure Drivers (σ : Type) where
  serves : Network → InboundType → Bool
  listen : Network → Service → σ → Except OpenFault Endpoint × σ
  close : Handle → σ → Option String × σ

/-- The inbound types with a listener of their own. -/
def servedByDefault : Network → InboundType → Bool
  | .tcp, _ => true
  | .udp, type => type ≠ .http

/-- One call to the outside, with its outcome. -/
inductive Call
  | listen (network : Network) (service : Service) (outcome : Except OpenFault Handle)
  | close (handle : Handle) (failure : Option String)

end LocalProxy
