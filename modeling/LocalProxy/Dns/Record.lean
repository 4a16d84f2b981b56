import LocalProxy.Dns.RecordType
import LocalProxy.Dns.Wire
import LocalProxy.Text.Base64

/-! Resource records, and how their data shows. -/
namespace LocalProxy.Dns

/-- The data of a record by shape; types without a shape of their own are raw. -/
inductive RecordData
  | address (ip : IpAddress)
  | name (n : Name)
  | exchange (preference : UInt16) (host : Name)
  | text (strings : List Bytes)
  | authority (host mailbox : Name) (serial refresh retry expire minimum : Nat)
  | service (priority weight port : UInt16) (host : Name)
  | machine (cpu os : Bytes)
  | certification (critical : Bool) (tag value : Bytes)
  | raw (octets : Bytes)
  | empty
deriving DecidableEq, Repr

structure ResourceRecord where
  name : Name
  type : RecordType
  ttl : Nat
  data : RecordData
deriving DecidableEq, Repr

/-- A number of 32 bits taken as signed. -/
def signed (n : Nat) : Int := Int.bmod n 0x100000000

namespace RecordData

def shown : RecordData → String
  | address ip => ip.text
  | name n => n.text
  | exchange preference host => toString preference.toNat ++ " " ++ host.text
  | text strings => String.join (strings.map Text.ofUtf8Lossy)
  | authority host mailbox serial refresh retry expire minimum =>
    " ".intercalate [host.text, mailbox.text, toString serial, toString (signed refresh),
      toString (signed retry), toString (signed expire), toString minimum]
  | service priority weight port host =>
    " ".intercalate [toString priority.toNat, toString weight.toNat, toString port.toNat, host.text]
  | machine cpu os => Text.ofUtf8Lossy cpu ++ " " ++ Text.ofUtf8Lossy os
  | certification critical tag value =>
    (if critical then "128 " else "0 ") ++ Text.ofUtf8Lossy tag ++ " \"" ++
      Text.ofUtf8Lossy value ++ "\""
  | raw octets => Text.base64 octets
  | empty => ""

/-- Counted strings until `size` octets are used up. -/
def readStrings : Nat → Nat → Reading → Option (List Bytes × Reading)
  | 0, _, _ => none
  | fuel + 1, stop, r =>
    if stop ≤ r.offset then some ([], r)
    else do
      let (s, r) ← r.characterString
      let (rest, r) ← readStrings fuel stop r
      return (s :: rest, r)

def readAuthority (r : Reading) : Option (RecordData × Reading) := do
  let (host, r) ← r.name
  let (mailbox, r) ← r.name
  let (serial, r) ← r.long
  let (refresh, r) ← r.long
  let (retry, r) ← r.long
  let (expire, r) ← r.long
  let (minimum, r) ← r.long
  return (authority host mailbox serial refresh retry expire minimum, r)

/-- The data of a type in `size` octets, before it is known that it took them all. -/
def readShape (type : RecordType) (size : Nat) (r : Reading) : Option (RecordData × Reading) :=
  if type = .a then do
    match ← r.octets 4 with
    | ([a, b, c, d], r) => return (address (.v4 ⟨a, b, c, d⟩), r)
    | _ => none
  else if type = .aaaa then do
    let (octets, r) ← r.octets 16
    return (address (.v6 (← Ipv6.ofOctets? octets)), r)
  else if type ∈ [RecordType.ns, .cname, .ptr, .aname] then do
    let (n, r) ← r.name
    return (name n, r)
  else if type = .mx then do
    let (preference, r) ← r.word
    let (host, r) ← r.name
    return (exchange preference host, r)
  else if type = .txt then do
    let (strings, r) ← readStrings (size + 1) (r.offset + size) r
    return (text strings, r)
  else if type = .soa then readAuthority r
  else if type = .srv then do
    let (priority, r) ← r.word
    let (weight, r) ← r.word
    let (port, r) ← r.word
    let (host, r) ← r.name
    return (service priority weight port host, r)
  else if type = .hinfo then do
    let (cpu, r) ← r.characterString
    let (os, r) ← r.characterString
    return (machine cpu os, r)
  else if type = .caa then do
    let stop := r.offset + size
    let (flags, r) ← r.octet
    let (tag, r) ← r.characterString
    let (value, r) ← r.octets (stop - r.offset)
    return (certification (128 ≤ flags.toNat) tag value, r)
  else do
    let (octets, r) ← r.octets size
    return (raw octets, r)

/-- The data of a type, which takes exactly `size` octets. -/
def read (type : RecordType) (size : Nat) (r : Reading) : Option (RecordData × Reading) := do
  if size = 0 then return (empty, r)
  let (data, after) ← readShape type size r
  if after.offset = r.offset + size then return (data, after) else none

end RecordData

namespace ResourceRecord

/-- The data must fit into the message; an option record belongs to the root. -/
def read (r : Reading) : Option (ResourceRecord × Reading) := do
  let (name, r) ← r.name
  let (code, r) ← r.word
  let type : RecordType := ⟨code⟩
  if type = .opt ∧ name ≠ .root then none
  let (_, r) ← r.word
  let (ttl, r) ← r.long
  let (size, r) ← r.word
  if r.left < size.toNat then none
  let (data, r) ← RecordData.read type size.toNat r
  return (⟨name, type, ttl, data⟩, r)

end ResourceRecord

end LocalProxy.Dns
