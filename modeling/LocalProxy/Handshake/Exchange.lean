import LocalProxy.Net.Target
import LocalProxy.Text.Utf8

/-! What a client and an inbound say to each other before a connection is handed on, and why
the inbound may give it up. -/
namespace LocalProxy

/-- How a client breaks the protocol of an inbound. -/
inductive ProtocolFault
  | headTooLarge
  | closedBeforeHead
  | headNotText
  | requestLine
  | notProxyRequest (uri : String)
  | target (fault : TargetFault)
  | emptyHost
  | noFirstByte
  | noMethod
  | requestVersion (version : UInt8)
  | command (command : UInt8)
  | version (version : UInt8)
  | addressType (code : UInt8)
  | domainNotText
  | shortCommand (command : UInt8)
  | hostNotText
  | fieldTooLong
  | shortDatagram
  | fragmented
  | shortDomain
  | datagramAddress
deriving DecidableEq, Repr

namespace ProtocolFault

def octet (b : UInt8) : String := "0x" ++ .ofList (Text.hexByte b)

def message : ProtocolFault → String
  | headTooLarge => "request head too large"
  | closedBeforeHead => "connection closed before request head"
  | headNotText => "request head is not utf-8"
  | requestLine => "malformed request line"
  | notProxyRequest uri => "not a proxy request: " ++ uri
  | target fault => fault.message
  | emptyHost => "empty host"
  | noFirstByte => "connection closed before first byte"
  | noMethod => "client offers no acceptable auth method"
  | requestVersion v => "bad request version " ++ octet v
  | command c => "unsupported command " ++ octet c
  | version v => "unsupported socks version " ++ octet v
  | addressType c => "unknown address type " ++ octet c
  | domainNotText => "domain is not utf-8"
  | shortCommand c => "unsupported socks4 command " ++ octet c
  | hostNotText => "socks4a host is not utf-8"
  | fieldTooLong => "socks4 field too long"
  | shortDatagram => "short socks5 datagram"
  | fragmented => "fragmented socks5 datagram"
  | shortDomain => "short socks5 domain"
  | datagramAddress => "bad socks5 datagram address"

end ProtocolFault

/-- Why a handshake ends without a connection. The client's bytes may end inside a block of
known length or inside a single number. -/
inductive HandshakeFault
  | protocol (fault : ProtocolFault)
  | endInBlock
  | endInNumber
  | ingressClosed
deriving DecidableEq, Repr

namespace HandshakeFault

def reason : HandshakeFault → String
  | protocol fault => fault.message
  | endInBlock => "early eof"
  | endInNumber => "unexpected end of file"
  | ingressClosed => "ingress channel closed"

def message : HandshakeFault → String
  | protocol fault => "protocol: " ++ fault.message
  | ingressClosed => ingressClosed.reason
  | fault => "io: " ++ fault.reason

end HandshakeFault

/-- How a handshake ends. Of the client's bytes that belong to an accepted connection, some
were already read, perhaps changed, and the others were not. -/
inductive Outcome
  | accepted (target : Target) (buffered unread : Bytes)
  | dropped (fault : HandshakeFault)
  | finished
deriving DecidableEq, Repr

/-- What is to be forwarded of the client's bytes. -/
def Outcome.payload : Outcome → Bytes
  | accepted _ buffered unread => buffered ++ unread
  | _ => []

/-- All bytes the client is sent during the handshake, and how it ends. -/
structure Exchange where
  reply : Bytes
  outcome : Outcome
deriving DecidableEq, Repr

namespace Exchange

def drop (fault : HandshakeFault) : Exchange := ⟨[], .dropped fault⟩

def refuse (fault : ProtocolFault) (reply : Bytes := []) : Exchange :=
  ⟨reply, .dropped (.protocol fault)⟩

/-- The exchange with something sent ahead of it. -/
def after (front : Bytes) (e : Exchange) : Exchange := { e with reply := front ++ e.reply }

end Exchange

end LocalProxy
