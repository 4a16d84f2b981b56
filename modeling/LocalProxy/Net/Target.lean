import LocalProxy.Net.Endpoint

/-! Transports, and the destinations that clients ask for. -/
namespace LocalProxy

inductive Network
  | tcp
  | udp
deriving DecidableEq, Repr, Inhabited

namespace Network

def name : Network → String
  | tcp => "tcp"
  | udp => "udp"

/-- The network of a name, or the name as it was compared. -/
def parse (s : String) : Except String Network :=
  match Text.lower (Text.trim s) with
  | "tcp" => .ok tcp
  | "udp" => .ok udp
  | other => .error other

def unknownMessage (name : String) : String := "unknown network: " ++ name

end Network

inductive Target
  | address (endpoint : Endpoint)
  | domain (host : String) (port : UInt16)
deriving DecidableEq, Repr, Inhabited

inductive TargetFault
  | notHostPort (text : String)
  | badPort (text : String)
  | noHost (text : String)
deriving DecidableEq, Repr

def TargetFault.message : TargetFault → String
  | notHostPort s => "invalid target: " ++ s
  | badPort s => "invalid target port: " ++ s
  | noHost s => "missing target host: " ++ s

namespace Target

def port : Target → UInt16
  | address e => e.port
  | domain _ port => port

def host : Target → String
  | address e => e.ip.text
  | domain host _ => host

def text : Target → String
  | address e => e.text
  | domain host port => host ++ ":" ++ toString port.toNat

/-- An endpoint literal names an address; any other host with a port is a domain. -/
def parse (s : String) : Except TargetFault Target :=
  match Endpoint.parse? s with
  | some e => .ok (address e)
  | none =>
    match splitHostPort? s with
    | none => .error (.notHostPort s)
    | some (host, port) =>
      match Text.port? port with
      | none => .error (.badPort s)
      | some port => if host = "" then .error (.noHost s) else .ok (domain host port)

end Target

end LocalProxy
