import LocalProxy.Net.Ip

/-! Socket endpoints, and the `host:port` texts that name them. -/
namespace LocalProxy

open Text

inductive Endpoint
  | v4 (ip : Ipv4) (port : UInt16)
  | v6 (ip : Ipv6) (port : UInt16) (scope : UInt32)
deriving DecidableEq, Repr, Inhabited

namespace Endpoint

def ofIp (ip : IpAddress) (port : UInt16) : Endpoint :=
  match ip with
  | .v4 ip => v4 ip port
  | .v6 ip => v6 ip port 0

def ip : Endpoint → IpAddress
  | v4 ip _ => .v4 ip
  | v6 ip _ _ => .v6 ip

def port : Endpoint → UInt16
  | v4 _ port => port
  | v6 _ port _ => port

def withPort (port : UInt16) : Endpoint → Endpoint
  | v4 ip _ => v4 ip port
  | v6 ip _ scope => v6 ip port scope

/-- An IPv6 address stands in brackets, with its zone unless that is zero. -/
def text : Endpoint → String
  | v4 ip port => ip.text ++ ":" ++ toString port.toNat
  | v6 ip port scope =>
    let zone := if scope = 0 then "" else "%" ++ toString scope.toNat
    "[" ++ ip.text ++ zone ++ "]:" ++ toString port.toNat

def readPort (s : List Char) : Option (UInt16 × List Char) := do
  let (n, s) ← readNumber 10 none true UInt16.size (← readChar ':' s)
  return (n.toUInt16, s)

def readV4 (s : List Char) : Option (Endpoint × List Char) := do
  let (ip, s) ← readIpv4 s
  let (port, s) ← readPort s
  return (v4 ip port, s)

def readScope (s : List Char) : Option (UInt32 × List Char) := do
  let (n, s) ← readNumber 10 none true UInt32.size (← readChar '%' s)
  return (n.toUInt32, s)

def readV6 (s : List Char) : Option (Endpoint × List Char) := do
  let (ip, s) ← readIpv6 (← readChar '[' s)
  let (scope, s) := (readScope s).getD (0, s)
  let (port, s) ← readPort (← readChar ']' s)
  return (v6 ip port scope, s)

def parse? (s : String) : Option Endpoint :=
  whole (readV4 s.toList) <|> whole (readV6 s.toList)

end Endpoint

/-- The host between `[` and `]`, or a host without brackets and colons. -/
def bareHost? (host : List Char) : Option (List Char) :=
  match host with
  | '[' :: inner => if inner.getLast? = some ']' then some inner.dropLast else none
  | _ => if ':' ∈ host then none else some host

/-- The parts of `host:port` around its last colon, the host without its brackets. -/
def splitHostPort? (address : String) : Option (String × String) := do
  let (host, port) ← splitAtLast ':' address.toList
  return (.ofList (← bareHost? host), .ofList port)

/-- The port of `host:port` if a listener can be asked for it, that is unless it is zero. -/
def listenPort? (address : String) : Option UInt16 := do
  let (_, port) ← splitHostPort? address
  (Text.port? port).filter (· ≠ 0)

/-- The host that stands for every local IPv4 address. -/
def wildcardHost : String := "*"

inductive AddressFault
  | notHostPort
  | badPort
  | unresolved (host : String)
deriving DecidableEq, Repr

def AddressFault.reason : AddressFault → String
  | notHostPort => "expected host:port"
  | badPort => "bad port"
  | unresolved _ => "failed to lookup address information: Name or service not known"

def AddressFault.message (address : String) (fault : AddressFault) : String :=
  "invalid address `" ++ address ++ "`: " ++ fault.reason

/-- The endpoint a listen address names. Names other than address literals are looked up in
`names`. -/
def bindEndpoint (names : String → Option IpAddress) (address : String) :
    Except AddressFault Endpoint :=
  match splitHostPort? address with
  | none => .error .notHostPort
  | some (host, port) =>
    match Text.port? port with
    | none => .error .badPort
    | some port =>
      if host = "" ∨ host = wildcardHost then .ok (.v4 .unspecified port)
      else match IpAddress.parse? host <|> names host with
        | some ip => .ok (.ofIp ip port)
        | none => .error (.unresolved host)

end LocalProxy
