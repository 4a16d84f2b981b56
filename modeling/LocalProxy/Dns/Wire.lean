import LocalProxy.Dns.Name
import LocalProxy.Net.Ip

/-! Reading a message from its octets. A reader stands at an offset of the whole message,
because a name may point back into what came before. -/
namespace LocalProxy.Dns

/-- A whole message, and how far it was read. -/
structure Reading where
  whole : Array UInt8
  offset : Nat
deriving DecidableEq, Repr

namespace Reading

def octet (r : Reading) : Option (UInt8 × Reading) := do
  return (← r.whole[r.offset]?, { r with offset := r.offset + 1 })

def word (r : Reading) : Option (UInt16 × Reading) := do
  let (high, r) ← r.octet
  let (low, r) ← r.octet
  return (wordOf high low, r)

def long (r : Reading) : Option (Nat × Reading) := do
  let (high, r) ← r.word
  let (low, r) ← r.word
  return (high.toNat * 65536 + low.toNat, r)

def left (r : Reading) : Nat := r.whole.size - r.offset

def octets (n : Nat) (r : Reading) : Option (Bytes × Reading) :=
  if n ≤ r.left then
    some ((r.whole.extract r.offset (r.offset + n)).toList, { r with offset := r.offset + n })
  else none

/-- Octets after their number. -/
def characterString (r : Reading) : Option (Bytes × Reading) := do
  let (n, r) ← r.octet
  r.octets n.toNat

/-- Labels up to the root or a pointer. A pointer leads to a place before `limit`, where its
own run of labels began; what it names must end before that too. -/
def nameFrom : Nat → Nat → Option Nat → Name → Reading → Option (Name × Reading)
  | 0, _, _, _, _ => none
  | fuel + 1, start, limit, name, r => do
    if limit.any (· ≤ r.offset) then none
    let (b, after) ← r.octet
    if b = 0 then return (name, after)
    if b.toNat < 64 then
      let (label, after) ← after.octets b.toNat
      let name ← name.append? label
      nameFrom fuel start limit name after
    else if 192 ≤ b.toNat then
      let (low, after) ← after.octet
      let place := (b.toNat - 192) * 256 + low.toNat
      if start ≤ place then none
      let (name, _) ← nameFrom fuel place (some start) name { r with offset := place }
      return (name, after)
    else none

def name (r : Reading) : Option (Name × Reading) :=
  nameFrom (r.whole.size + 130) r.offset none .root r

end Reading

end LocalProxy.Dns
