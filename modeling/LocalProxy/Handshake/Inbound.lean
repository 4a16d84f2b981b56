import LocalProxy.Handshake.Head
import LocalProxy.Handshake.ProxyRequest
import LocalProxy.Socks.Handshake
import LocalProxy.Traffic.Metadata

/-! The handshake of each kind of inbound, on a client's bytes in the pieces they arrive in. -/
namespace LocalProxy.Handshake

def connected : Bytes := Text.utf8 "HTTP/1.1 200 Connection established\r\n\r\n"

def badRequest : Bytes := Text.utf8 "HTTP/1.1 400 Bad Request\r\nConnection: close\r\n\r\n"

/-- Reads one head and does what it asks. The bytes read past the head go with the
connection. -/
def serveHttp (arriving : List Bytes) : Exchange :=
  match readHead [] arriving with
  | .error fault => .refuse fault
  | .ok (head, past, later) =>
    match ProxyRequest.parse head with
    | .error fault => .refuse fault badRequest
    | .ok (.connect target) => ⟨connected, .accepted target past later.flatten⟩
    | .ok (.forward target head) => ⟨[], .accepted target (head ++ past) later.flatten⟩

def serveSocks (here : Endpoint) (arriving : List Bytes) : Exchange :=
  Socks.serve here arriving.flatten

/-- The first octet tells a SOCKS version from a request. -/
def serveMixed (here : Endpoint) (arriving : List Bytes) : Exchange :=
  match arriving.flatten with
  | [] => .refuse .noFirstByte
  | b :: _ =>
    if b = Socks.version4 ∨ b = Socks.version5 then serveSocks here arriving
    else serveHttp arriving

/-- The handshake of an inbound type. The transparent ones have none: they are told the
destination by the system. -/
def serve? : InboundType → Option (Endpoint → List Bytes → Exchange)
  | .http => some fun _ => serveHttp
  | .socks => some serveSocks
  | .mixed => some serveMixed
  | .redir | .tproxy => none

/-- A tunnel sends everything to its own target. -/
def serveTunnel (target : Target) (arriving : List Bytes) : Exchange :=
  ⟨[], .accepted target [] arriving.flatten⟩

end LocalProxy.Handshake

namespace LocalProxy

/-- A connection to relay: what is known of it, the bytes read ahead, and the bytes to come. -/
structure Connection where
  metadata : Metadata
  buffered : Bytes
  unread : Bytes
deriving DecidableEq, Repr

/-- The connection an exchange leads to, if it leads to one. -/
def Exchange.connection? (e : Exchange) (origin : Origin) (peer : Endpoint)
    (specialProxy : Option String := none) : Option Connection :=
  match e.outcome with
  | .accepted target buffered unread =>
    some ⟨⟨.tcp, origin, peer, some target, specialProxy⟩, buffered, unread⟩
  | _ => none

end LocalProxy
