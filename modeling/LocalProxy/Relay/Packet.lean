import LocalProxy.Socks.Datagram
import LocalProxy.Traffic.Metadata

/-! Datagrams on their way in, and the way back to their clients. -/
namespace LocalProxy

/-- How an answer is framed for the client. -/
inductive Framing
  | raw
  | socks
deriving DecidableEq, Repr

/-- The inbound socket a datagram came in on, by its serial number, and who sent it. -/
structure ReturnPath where
  socket : Nat
  client : Endpoint
  framing : Framing
deriving DecidableEq, Repr

structure Packet where
  metadata : Metadata
  payload : Bytes
  path : ReturnPath
deriving DecidableEq, Repr

/-- The client is told where an answer is from if the framing has room for it. -/
def Framing.frame (f : Framing) (sender : Endpoint) (payload : Bytes) : Bytes :=
  match f with
  | raw => payload
  | socks => Socks.encodeDatagram (.address sender) payload

inductive WriteFault
  | listenerClosed
  | unsent (reason : String)
deriving DecidableEq, Repr

def WriteFault.message : WriteFault → String
  | listenerClosed => "inbound listener closed"
  | unsent reason => reason

/-- The datagram the client gets for an answer. A closed listener sends nothing. -/
def ReturnPath.writeBack (p : ReturnPath) (isOpen : Nat → Bool) (sender : Endpoint)
    (payload : Bytes) : Except WriteFault Bytes :=
  if isOpen p.socket then .ok (p.framing.frame sender payload) else .error .listenerClosed

namespace Packet

/-- A datagram to a SOCKS inbound names its destination itself. -/
def ofSocks (socket : Nat) (client : Endpoint) (datagram : Bytes) : Except ProtocolFault Packet :=
  match Socks.decodeDatagram datagram with
  | .ok (target, payload) =>
    .ok ⟨⟨.udp, .inbound .socks, client, some target, none⟩, payload,
      ⟨socket, client, .socks⟩⟩
  | .error fault => .error fault

/-- A datagram to a tunnel goes to the target of the tunnel. -/
def ofTunnel (target : Target) (proxy : String) (socket : Nat) (client : Endpoint)
    (datagram : Bytes) : Packet :=
  ⟨⟨.udp, .tunnel, client, some target, some proxy⟩, datagram, ⟨socket, client, .raw⟩⟩

end Packet

end LocalProxy
