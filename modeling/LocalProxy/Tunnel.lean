import LocalProxy.Net.Target
import LocalProxy.Json.Reader

/-! Static tunnels: what a listen address forwards to, and through which outbound. -/
namespace LocalProxy

/-- A tunnel as configured, on one or more networks. -/
structure TunnelSpec where
  networks : List Network
  address : String
  target : String
  proxy : String
deriving DecidableEq, Repr

/-- What identifies a tunnel within one network. -/
structure TunnelKey where
  address : String
  target : String
  proxy : String
deriving DecidableEq, Repr, Inhabited

def TunnelKey.text (k : TunnelKey) : String := k.address ++ "/" ++ k.target ++ "/" ++ k.proxy

/-- One tunnel on one network. -/
structure TunnelEntry where
  network : Network
  key : TunnelKey
deriving DecidableEq, Repr, Inhabited

namespace TunnelEntry

def text (e : TunnelEntry) : String := e.network.name ++ " " ++ e.key.text

/-- Listings are sorted by network, TCP first, then by address, target and proxy. -/
def cmp (a b : TunnelEntry) : Ordering :=
  (compare (decide (a.network = .udp)).toNat (decide (b.network = .udp)).toNat).then <|
    (compare a.key.address b.key.address).then <|
      (compare a.key.target b.key.target).then <| compare a.key.proxy b.key.proxy

def sort (es : List TunnelEntry) : List TunnelEntry := es.mergeSort fun a b => (cmp a b).isLE

end TunnelEntry

namespace TunnelSpec

def key (s : TunnelSpec) : TunnelKey := ⟨s.address, s.target, s.proxy⟩

def entries (s : TunnelSpec) : List TunnelEntry := s.networks.map fun n => ⟨n, s.key⟩

def networkNames : String → Option Network
  | "tcp" => some .tcp
  | "udp" => some .udp
  | _ => none

def blank : TunnelSpec := ⟨[], "", "", ""⟩

/-- The members of a specification in JSON, all of them required. -/
def members : Json.Fields TunnelSpec :=
  [("networks", fun s r => do
      let (ns, r) ← Json.readList (Json.readChoice networkNames) r
      return ({ s with networks := ns }, r)),
   ("address", fun s r => do
      let (a, r) ← Json.readString r
      return ({ s with address := a }, r)),
   ("target", fun s r => do
      let (t, r) ← Json.readString r
      return ({ s with target := t }, r)),
   ("proxy", fun s r => do
      let (p, r) ← Json.readString r
      return ({ s with proxy := p }, r))]

def reader : Json.Reader TunnelSpec :=
  Json.readRecord members ["networks", "address", "target", "proxy"] blank

end TunnelSpec

end LocalProxy
