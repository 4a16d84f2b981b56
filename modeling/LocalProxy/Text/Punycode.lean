import LocalProxy.Text

/-! Names in any script written with ASCII letters, digits and hyphens: first the ASCII
characters, then where the others go, as numerals in a base of 36 digits. -/
namespace LocalProxy.Text.Punycode

def base : Nat := 36

/-- The weight of the digit at a position is at least one and at most 26 away from the base. -/
def threshold (position bias : Nat) : Nat := min (max (position - bias) 1) 26

def adapt (delta count : Nat) (isFirst : Bool) : Nat :=
  let delta := if isFirst then delta / 700 else delta / 2
  let delta := delta + delta / count
  settle 40 0 delta
where
  settle : Nat → Nat → Nat → Nat
    | 0, k, delta => k + 36 * delta / (delta + 38)
    | fuel + 1, k, delta =>
      if delta > 455 then settle fuel (k + base) (delta / 35)
      else k + 36 * delta / (delta + 38)

def digitChar (d : Nat) : Char := if d < 26 then Char.ofNat (97 + d) else Char.ofNat (22 + d)

def charDigit (c : Char) : Option Nat :=
  if 'a' ≤ c ∧ c ≤ 'z' then some (c.toNat - 97)
  else if 'A' ≤ c ∧ c ≤ 'Z' then some (c.toNat - 65)
  else if '0' ≤ c ∧ c ≤ '9' then some (c.toNat - 22)
  else none

/-- A numeral of digits with falling weights. -/
def writeNumber : Nat → Nat → Nat → Nat → List Char
  | 0, _, _, _ => []
  | fuel + 1, k, bias, q =>
    let t := threshold k bias
    if q < t then [digitChar q]
    else digitChar (t + (q - t) % (base - t)) ::
      writeNumber fuel (k + base) bias ((q - t) / (base - t))

structure Writing where
  n : Nat
  delta : Nat
  bias : Nat
  done : Nat
  out : List Char

/-- Writes the characters with code `w.n` and counts the places before each. -/
def writeCode (basics : Nat) (w : Writing) (c : Char) : Writing :=
  if c.toNat < w.n then { w with delta := w.delta + 1 }
  else if c.toNat = w.n then
    { w with
      delta := 0
      bias := adapt w.delta (w.done + 1) (w.done == basics)
      done := w.done + 1
      out := w.out ++ writeNumber 40 base w.bias w.delta }
  else w

def writeCodes (chars : List Char) (basics : Nat) (w : Writing) (code : Nat) : Writing :=
  let w := { w with n := code, delta := w.delta + (code - w.n) * (w.done + 1) }
  let w := chars.foldl (writeCode basics) w
  { w with n := code + 1, delta := w.delta + 1 }

def isAscii (c : Char) : Bool := c.toNat < 128

def encode (chars : List Char) : List Char :=
  let basic := chars.filter isAscii
  let start : Writing :=
    ⟨128, 0, 72, basic.length, if basic = [] then [] else basic ++ ['-']⟩
  let codes := ((chars.filter (!isAscii ·)).map Char.toNat).mergeSort.eraseDups
  (codes.foldl (writeCodes chars basic.length) start).out

/-- A numeral's value and the rest. -/
def readNumber : Nat → Nat → Nat → Nat → List Char → Option (Nat × List Char)
  | 0, _, _, _, _ => none
  | _, _, _, _, [] => none
  | fuel + 1, k, bias, weight, c :: rest => do
    let d ← charDigit c
    let t := threshold k bias
    if d < t then return (d * weight, rest)
    let (n, rest) ← readNumber fuel (k + base) bias (weight * (base - t)) rest
    return (d * weight + n, rest)

def readCodes : Nat → Nat → Nat → Nat → List Char → List Char → Option (List Char)
  | 0, _, _, _, _, _ => none
  | _, _, _, _, out, [] => some out
  | fuel + 1, n, i, bias, out, digits => do
    let (delta, rest) ← readNumber 40 base bias 1 digits
    let count := out.length + 1
    let i := i + delta
    let n := n + i / count
    if h : n.isValidChar then
      let place := i % count
      readCodes fuel n (place + 1) (adapt delta count false)
        (out.take place ++ [Char.ofNatAux n h] ++ out.drop place) rest
    else none

def decode (s : List Char) : Option (List Char) :=
  match splitAtLast '-' s with
  | some (basic, digits) =>
    if basic.all isAscii then readFrom basic digits else none
  | none => readFrom [] s
where
  /-- The first number adapts the bias as the first of all. -/
  readFrom (basic digits : List Char) : Option (List Char) := do
    if digits = [] then return basic
    let (delta, rest) ← readNumber 40 base 72 1 digits
    let count := basic.length + 1
    let n := 128 + delta / count
    if h : n.isValidChar then
      let place := delta % count
      readCodes (digits.length + 1) n (place + 1) (adapt delta count true)
        (basic.take place ++ [Char.ofNatAux n h] ++ basic.drop place) rest
    else none

end LocalProxy.Text.Punycode
