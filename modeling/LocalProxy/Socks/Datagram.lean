import LocalProxy.Socks.Address

/-! Datagrams between a client and the SOCKS relay: two reserved octets, the number of the
fragment, the address of the other end, and the payload. -/
namespace LocalProxy.Socks

def encodeDatagram (t : Target) (payload : Bytes) : Bytes :=
  [0, 0, 0] ++ encodeAddress t ++ payload

/-- The address of a datagram after its type, and the payload. -/
def splitAddress (code : UInt8) (s : Bytes) : Except ProtocolFault (Target × Bytes) :=
  match AddressType.ofCode? code, s with
  | some .v4, a :: b :: c :: d :: high :: low :: payload =>
    .ok (.address (.v4 ⟨a, b, c, d⟩ (wordOf high low)), payload)
  | some .v6, s =>
    match Ipv6.ofOctets? (s.take 16), s.drop 16 with
    | some ip, high :: low :: payload => .ok (.address (.v6 ip (wordOf high low) 0), payload)
    | _, _ => .error .datagramAddress
  | some .domain, size :: s =>
    match s.drop size.toNat with
    | high :: low :: payload =>
      match Text.ofUtf8? (s.take size.toNat) with
      | some host => .ok (.domain host (wordOf high low), payload)
      | none => .error .domainNotText
    | _ => .error .shortDomain
  | _, _ => .error .datagramAddress

/-- Fragments are refused; the reserved octets may be anything. -/
def decodeDatagram : Bytes → Except ProtocolFault (Target × Bytes)
  | _ :: _ :: fragment :: code :: s =>
    if fragment = 0 then splitAddress code s else .error .fragmented
  | _ => .error .shortDatagram

end LocalProxy.Socks
