import LocalProxy.Inbound
import LocalProxy.Json
import LocalProxy.Net.Target

/-! What is known of an accepted connection or datagram. -/
namespace LocalProxy

/-- What accepted it: an inbound or a static tunnel. -/
inductive Origin
  | inbound (type : InboundType)
  | tunnel
deriving DecidableEq, Repr, Inhabited

namespace Origin

def name : Origin → String
  | inbound type => type.name
  | tunnel => "tunnel"

def parse? (s : String) : Option Origin :=
  if s = "tunnel" then some tunnel
  else ((InboundType.all.find? (·.name == s))).map inbound

end Origin

/-- A tunnel names the outbound to use in `specialProxy`. -/
structure Metadata where
  network : Network
  origin : Origin
  source : Endpoint
  destination : Option Target
  specialProxy : Option String
deriving DecidableEq, Repr, Inhabited

/-- A destination shows either its name or its address. -/
def Metadata.json (m : Metadata) : Json :=
  let (host, ip, port) := match m.destination with
    | some (.address e) => ("", e.ip.text, toString e.port.toNat)
    | some (.domain host port) => (host, "", toString port.toNat)
    | none => ("", "", "")
  .obj [("network", .str m.network.name), ("type", .str m.origin.name),
    ("sourceIP", .str m.source.ip.text), ("sourcePort", .str (toString m.source.port.toNat)),
    ("host", .str host), ("destinationIP", .str ip), ("destinationPort", .str port),
    ("specialProxy", .str (m.specialProxy.getD ""))]

end LocalProxy
