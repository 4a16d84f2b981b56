import LocalProxy.Listening.Handle

/-! Binding sockets on a host. A listener gets its endpoint unless another one holds it. -/
namespace LocalProxy

/-- Whether an address is the host's own, or stands for all of them. -/
def IpAddress.isLocal : IpAddress → Bool
  | .v4 ip => ip = .unspecified || ip.a = 127
  | .v6 ip => ip = .unspecified || ip.groups = [0, 0, 0, 0, 0, 0, 0, 1]

/-- Whether binding one address takes the other too. -/
def IpAddress.overlaps : IpAddress → IpAddress → Bool
  | .v4 a, .v4 b => a = b || a = .unspecified || b = .unspecified
  | .v6 a, .v6 b => a = b || a = .unspecified || b = .unspecified
  | .v4 _, .v6 b => b = .unspecified
  | .v6 a, .v4 _ => a = .unspecified

def Endpoint.overlaps (a b : Endpoint) : Bool := a.port = b.port && a.ip.overlaps b.ip

/-- The endpoints that are bound, and where to look for one that no listener asked for. -/
structure Sockets where
  bound : List (Network × Endpoint) := []
  spare : UInt16 := 32768
deriving DecidableEq, Repr

namespace Sockets

def isTaken (s : Sockets) (network : Network) (e : Endpoint) : Bool :=
  s.bound.any fun b => b.1 == network && b.2.overlaps e

/-- Takes an endpoint as it is. -/
def claim (s : Sockets) (network : Network) (e : Endpoint) : Sockets :=
  { s with bound := s.bound ++ [(network, e)] }

def addressInUse : String := "Address already in use (os error 98)"

def addressNotAvailable : String := "Cannot assign requested address (os error 99)"

/-- Binds an endpoint. The port zero asks for a spare one. -/
def bind (s : Sockets) (network : Network) (e : Endpoint) : Except String (Endpoint × Sockets) :=
  if !e.ip.isLocal then .error addressNotAvailable
  else if e.port = 0 then
    let e := e.withPort s.spare
    .ok (e, { s.claim network e with spare := s.spare + 1 })
  else if s.isTaken network e then .error addressInUse
  else .ok (e, s.claim network e)

def release (s : Sockets) (network : Network) (e : Endpoint) : Sockets :=
  { s with bound := s.bound.filter (· ≠ (network, e)) }

/-- Binds the address of a service. -/
def listen (names : String → Option IpAddress) (network : Network) (service : Service)
    (s : Sockets) : Except OpenFault Endpoint × Sockets :=
  let address := service.address
  match bindEndpoint names address with
  | .error fault => (.error (.address address fault), s)
  | .ok e =>
    match s.bind network e with
    | .error reason => (.error (.bind network address reason), s)
    | .ok (e, s) => (.ok e, s)

/-- Listeners on a host, of the types that have one; closing one never fails. -/
def drivers (names : String → Option IpAddress) : Drivers Sockets where
  serves := servedByDefault
  listen := listen names
  close h s := (none, s.release h.network h.bound)

end Sockets

end LocalProxy
