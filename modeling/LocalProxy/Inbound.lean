import LocalProxy.Net.Endpoint

/-! Inbound listeners: their types, the specifications that identify them, and the port
settings that stand for one listener each. -/
namespace LocalProxy

inductive InboundType
  | http
  | socks
  | redir
  | tproxy
  | mixed
deriving DecidableEq, Repr, Inhabited

namespace InboundType

def all : List InboundType := [http, socks, redir, tproxy, mixed]

def rank : InboundType → Nat
  | http => 0
  | socks => 1
  | redir => 2
  | tproxy => 3
  | mixed => 4

def name : InboundType → String
  | http => "http"
  | socks => "socks"
  | redir => "redir"
  | tproxy => "tproxy"
  | mixed => "mixed"

/-- The type of a name, or the name as it was compared. -/
def parse (s : String) : Except String InboundType :=
  match Text.lower (Text.trim s) with
  | "http" => .ok http
  | "socks" | "socks5" => .ok socks
  | "redir" => .ok redir
  | "tproxy" => .ok tproxy
  | "mixed" => .ok mixed
  | other => .error other

def unknownMessage (name : String) : String := "unknown inbound type: " ++ name

end InboundType

/-- A listener is identified by type, address and origin. A legacy one stands for a port
setting. -/
structure InboundSpec where
  type : InboundType
  bindAddress : String
  legacy : Bool
deriving DecidableEq, Repr, Inhabited

namespace InboundSpec

def label (s : InboundSpec) : String := s.type.name ++ "://" ++ s.bindAddress

def port? (s : InboundSpec) : Option UInt16 := listenPort? s.bindAddress

/-- Listings are sorted by type, then address, then explicit before legacy. -/
def cmp (a b : InboundSpec) : Ordering :=
  (compare a.type.rank b.type.rank).then <|
    (compare a.bindAddress b.bindAddress).then <| compare a.legacy.toNat b.legacy.toNat

def sort (specs : List InboundSpec) : List InboundSpec :=
  specs.mergeSort fun a b => (cmp a b).isLE

end InboundSpec

/-- One port per inbound type; zero asks for no listener. -/
structure Ports where
  http : UInt16 := 0
  socks : UInt16 := 0
  redir : UInt16 := 0
  tproxy : UInt16 := 0
  mixed : UInt16 := 0
deriving DecidableEq, Repr, Inhabited

/-- The address of a legacy listener: the loopback unless the LAN is allowed, and an IPv6
host in brackets. -/
def legacyBindAddress (host : String) (port : UInt16) (allowLan : Bool) : String :=
  let port := toString port.toNat
  if !allowLan then "127.0.0.1:" ++ port
  else if host = wildcardHost then ":" ++ port
  else if ':' ∈ host.toList ∧ host.toList.head? ≠ some '[' then "[" ++ host ++ "]:" ++ port
  else host ++ ":" ++ port

namespace Ports

def entries (p : Ports) : List (InboundType × UInt16) :=
  [(.http, p.http), (.socks, p.socks), (.redir, p.redir), (.tproxy, p.tproxy), (.mixed, p.mixed)]

/-- The setting that holds the port of a type. -/
def key : InboundType → String
  | .http => "port"
  | .socks => "socks-port"
  | .redir => "redir-port"
  | .tproxy => "tproxy-port"
  | .mixed => "mixed-port"

def toInbounds (p : Ports) (host : String) (allowLan : Bool) : List InboundSpec :=
  (p.entries.filter (·.2 ≠ 0)).map fun (type, port) =>
    ⟨type, legacyBindAddress host port allowLan, true⟩

end Ports

end LocalProxy
