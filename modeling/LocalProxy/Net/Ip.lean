import LocalProxy.Text
import LocalProxy.Text.Utf8

/-! IP addresses, their octets and their written forms. A reader takes an address from the
front of a text and gives back the rest. -/
namespace LocalProxy

open Text

structure Ipv4 where
  a : UInt8
  b : UInt8
  c : UInt8
  d : UInt8
deriving DecidableEq, Repr, Inhabited

/-- Eight groups, the most significant first. -/
structure Ipv6 where
  s0 : UInt16
  s1 : UInt16
  s2 : UInt16
  s3 : UInt16
  s4 : UInt16
  s5 : UInt16
  s6 : UInt16
  s7 : UInt16
deriving DecidableEq, Repr, Inhabited

inductive IpAddress
  | v4 (ip : Ipv4)
  | v6 (ip : Ipv6)
deriving DecidableEq, Repr, Inhabited

/-- The number two octets write, the more significant octet first. -/
def wordOf (high low : UInt8) : UInt16 := (high.toNat * 256 + low.toNat).toUInt16

def highByte (w : UInt16) : UInt8 := (w.toNat / 256).toUInt8

def lowByte (w : UInt16) : UInt8 := (w.toNat % 256).toUInt8

/-- The octets of a number, the more significant first. -/
def wordBytes (w : UInt16) : Bytes := [highByte w, lowByte w]

theorem highByte_wordOf (high low : UInt8) : highByte (wordOf high low) = high := by
  apply UInt8.toNat.inj
  have h := high.toNat_lt
  have l := low.toNat_lt
  simp only [highByte, wordOf, Nat.toUInt16, UInt16.toNat_ofNat', Nat.toUInt8, UInt8.toNat_ofNat']
  omega

theorem lowByte_wordOf (high low : UInt8) : lowByte (wordOf high low) = low := by
  apply UInt8.toNat.inj
  have h := high.toNat_lt
  have l := low.toNat_lt
  simp only [lowByte, wordOf, Nat.toUInt16, UInt16.toNat_ofNat', Nat.toUInt8, UInt8.toNat_ofNat']
  omega

theorem wordOf_bytes (w : UInt16) : wordOf (highByte w) (lowByte w) = w := by
  apply UInt16.toNat.inj
  have h := w.toNat_lt
  simp only [highByte, lowByte, wordOf, Nat.toUInt16, UInt16.toNat_ofNat', Nat.toUInt8,
    UInt8.toNat_ofNat']
  omega

theorem wordBytes_wordOf (high low : UInt8) : wordBytes (wordOf high low) = [high, low] := by
  rw [wordBytes, highByte_wordOf, lowByte_wordOf]

namespace Ipv4

def unspecified : Ipv4 := ⟨0, 0, 0, 0⟩

def loopback : Ipv4 := ⟨127, 0, 0, 1⟩

def octets (ip : Ipv4) : Bytes := [ip.a, ip.b, ip.c, ip.d]

def ofOctets? : Bytes → Option Ipv4
  | [a, b, c, d] => some ⟨a, b, c, d⟩
  | _ => none

theorem ofOctets?_eq_some_iff {bytes : Bytes} {ip : Ipv4} :
    ofOctets? bytes = some ip ↔ bytes = ip.octets := by
  constructor
  · intro found
    unfold ofOctets? at found
    split at found
    · cases found
      rfl
    · cases found
  · rintro rfl
    rfl

def text (ip : Ipv4) : String := ".".intercalate (ip.octets.map (toString ·.toNat))

end Ipv4

namespace Ipv6

def unspecified : Ipv6 := ⟨0, 0, 0, 0, 0, 0, 0, 0⟩

def groups (ip : Ipv6) : List UInt16 :=
  [ip.s0, ip.s1, ip.s2, ip.s3, ip.s4, ip.s5, ip.s6, ip.s7]

def octets (ip : Ipv6) : Bytes := ip.groups.flatMap wordBytes

def ofGroups? : List UInt16 → Option Ipv6
  | [a, b, c, d, e, f, g, h] => some ⟨a, b, c, d, e, f, g, h⟩
  | _ => none

/-- Neighbouring octets taken as big-endian groups. -/
def pairs : Bytes → List UInt16
  | high :: low :: rest => wordOf high low :: pairs rest
  | _ => []

def ofOctets? (bytes : Bytes) : Option Ipv6 := ofGroups? (pairs bytes)

theorem ofGroups?_eq_some_iff {groups : List UInt16} {ip : Ipv6} :
    ofGroups? groups = some ip ↔ groups = ip.groups := by
  constructor
  · intro found
    unfold ofGroups? at found
    split at found
    · cases found
      rfl
    · cases found
  · rintro rfl
    rfl

theorem pairs_flatMap (groups : List UInt16) : pairs (groups.flatMap wordBytes) = groups := by
  induction groups with
  | nil => rfl
  | cons g rest ih =>
    rw [List.flatMap_cons, wordBytes, List.cons_append, List.cons_append, List.nil_append, pairs,
      wordOf_bytes, ih]

theorem flatMap_pairs {bytes : Bytes} (even : bytes.length % 2 = 0) :
    (pairs bytes).flatMap wordBytes = bytes := by
  fun_induction pairs bytes with
  | case1 high low rest ih =>
    simp only [List.length_cons] at even
    rw [List.flatMap_cons, wordBytes_wordOf, ih (by omega)]
    rfl
  | case2 bytes short =>
    match bytes, even with
    | [], _ => rfl
    | high :: low :: rest, _ => exact absurd rfl (short high low rest)

theorem ofOctets?_eq_some_iff {bytes : Bytes} {ip : Ipv6} (size : bytes.length = 16) :
    ofOctets? bytes = some ip ↔ bytes = ip.octets := by
  rw [ofOctets?, ofGroups?_eq_some_iff]
  constructor
  · intro groups
    rw [octets, ← groups, flatMap_pairs (by rw [size])]
  · rintro rfl
    exact pairs_flatMap ip.groups

/-- The IPv4 address of `::ffff:a.b.c.d`. -/
def mapped? (ip : Ipv6) : Option Ipv4 :=
  if ip.groups.take 6 = [0, 0, 0, 0, 0, 0xFFFF] then
    some ⟨highByte ip.s6, lowByte ip.s6, highByte ip.s7, lowByte ip.s7⟩
  else none

/-- The lengths of the runs of zero groups that begin at each position. -/
def zeroRuns : List UInt16 → List Nat
  | [] => []
  | g :: rest =>
    let runs := zeroRuns rest
    (if g = 0 then runs.headD 0 + 1 else 0) :: runs

/-- Start and length of the first among the longest runs of zero groups. -/
def longestRun (groups : List UInt16) : Nat × Nat :=
  ((zeroRuns groups).zipIdx.foldl
    (fun best (length, start) => if length > best.2 then (start, length) else best) (0, 0))

def joinGroups (groups : List UInt16) : String :=
  ":".intercalate (groups.map (hex ·.toNat))

/-- The longest run of at least two zero groups is written `::`. -/
def text (ip : Ipv6) : String :=
  match ip.mapped? with
  | some v4 => "::ffff:" ++ v4.text
  | none =>
    let (start, length) := longestRun ip.groups
    if length > 1 then
      joinGroups (ip.groups.take start) ++ "::" ++ joinGroups (ip.groups.drop (start + length))
    else joinGroups ip.groups

end Ipv6

namespace IpAddress

def text : IpAddress → String
  | v4 ip => ip.text
  | v6 ip => ip.text

def octets : IpAddress → Bytes
  | v4 ip => ip.octets
  | v6 ip => ip.octets

end IpAddress

namespace Text

/-- A numeral that takes every digit at the front. `width` bounds the digits; unless `padded`,
a zero may only stand alone. -/
def readNumber (base : Nat) (width : Option Nat) (padded : Bool) (bound : Nat)
    (s : List Char) : Option (Nat × List Char) :=
  let digits := s.takeWhile fun c => (digitValue base c).isSome
  let rest := s.dropWhile fun c => (digitValue base c).isSome
  let n := digitsValue base digits
  if digits = [] ∨ width.any (· < digits.length) ∨ bound ≤ n ∨
      (!padded ∧ digits.head? = some '0' ∧ digits.length > 1) then none
  else some (n, rest)

def readChar (c : Char) : List Char → Option (List Char)
  | x :: rest => if x = c then some rest else none
  | [] => none

def readOctet (s : List Char) : Option (UInt8 × List Char) :=
  (readNumber 10 (some 3) false 256 s).map fun (n, rest) => (n.toUInt8, rest)

def readIpv4 (s : List Char) : Option (Ipv4 × List Char) := do
  let (a, s) ← readOctet s
  let (b, s) ← readOctet (← readChar '.' s)
  let (c, s) ← readOctet (← readChar '.' s)
  let (d, s) ← readOctet (← readChar '.' s)
  return (⟨a, b, c, d⟩, s)

/-- At most `room` groups separated by colons. An IPv4 address may fill the last two of the
room and ends the groups; the flag tells whether one did. -/
def readGroups (isFirst : Bool) : Nat → List Char → List UInt16 × Bool × List Char
  | 0, s => ([], false, s)
  | room + 1, s =>
    let here := if isFirst then some s else readChar ':' s
    match if room = 0 then none else here.bind readIpv4 with
    | some (ip, rest) => ([wordOf ip.a ip.b, wordOf ip.c ip.d], true, rest)
    | none =>
      match here.bind (readNumber 16 (some 4) true UInt16.size) with
      | none => ([], false, s)
      | some (g, rest) =>
        let (gs, dotted, rest) := readGroups false room rest
        (g.toUInt16 :: gs, dotted, rest)

def readIpv6 (s : List Char) : Option (Ipv6 × List Char) := do
  let (front, dotted, rest) := readGroups true 8 s
  if front.length = 8 then return (← Ipv6.ofGroups? front, rest)
  if dotted then none
  let rest ← readChar ':' rest
  let rest ← readChar ':' rest
  let (back, _, rest) := readGroups true (7 - front.length) rest
  let gap := List.replicate (8 - front.length - back.length) 0
  return (← Ipv6.ofGroups? (front ++ gap ++ back), rest)

/-- Accepts a reading that leaves nothing. -/
def whole {α : Type} : Option (α × List Char) → Option α
  | some (a, []) => some a
  | _ => none

end Text

def Ipv4.parse? (s : String) : Option Ipv4 := whole (readIpv4 s.toList)

def Ipv6.parse? (s : String) : Option Ipv6 := whole (readIpv6 s.toList)

def IpAddress.parse? (s : String) : Option IpAddress :=
  (Ipv4.parse? s).map .v4 <|> (Ipv6.parse? s).map .v6

end LocalProxy
