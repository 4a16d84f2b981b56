import LocalProxy.Text

/-! The shortest decimal that reads back as the same binary fraction. -/
namespace LocalProxy.Text

/-- A positive double as `m · 2^q`. -/
def significand (f : Float) : Nat × Int :=
  let bits := f.toBits.toNat
  let exponent : Nat := bits / Nat.pow 2 52 % 2048
  let fraction : Nat := bits % Nat.pow 2 52
  if exponent = 0 then (fraction, -1074) else (fraction + Nat.pow 2 52, (exponent : Int) - 1075)

/-- The double nearest to `n · 10^e`. -/
def nearest (n : Nat) (e : Int) : Float :=
  if e < 0 then Float.ofScientific n true (-e).toNat else Float.ofScientific n false e.toNat

/-- The quotient of `m · 2^q` by `10^e`, rounded down, and whether the rest is at least half. -/
def scaled (m : Nat) (q e : Int) : Nat × Bool :=
  let num := m * Nat.pow 2 q.toNat * Nat.pow 10 (-e).toNat
  let den := Nat.pow 2 (-q).toNat * Nat.pow 10 e.toNat
  (num / den, decide (den ≤ 2 * (num % den)))

/-- Digits and exponent of the first grid, from one digit up to seventeen, with a point that
reads back. -/
def searchDigits (f : Float) (m : Nat) (q top : Int) : Nat → Nat → Nat × Int
  | 0, n => ((scaled m q (top - n)).1, top - n)
  | fuel + 1, n =>
    let e := top - (n : Int)
    let (low, up) := scaled m q e
    let near := if up then low + 1 else low
    let far := if up then low else low + 1
    if (nearest near e).toBits == f.toBits then (near, e)
    else if (nearest far e).toBits == f.toBits then (far, e)
    else searchDigits f m q top fuel (n + 1)

/-- Digits with a point after so many of them, without needless zeros but with at least one
digit on each side. -/
def placePoint (digits : List Char) (point : Int) : String :=
  let front := digits.take point.toNat
  let back := digits.drop point.toNat
  let whole := front ++ List.replicate (point.toNat - front.length) '0'
  let part := List.replicate (-point).toNat '0' ++ back
  let part := (part.reverse.dropWhile (· == '0')).reverse
  let orZero := fun digits => if digits.isEmpty then ['0'] else digits
  .ofList (orZero whole ++ '.' :: orZero part)

/-- The number of digits before the point; for a fraction, less the zeros after the point. -/
def magnitude (m : Nat) (q : Int) : Int :=
  let whole := (scaled m q 0).1
  if whole ≠ 0 then ((toString whole).length : Int)
  else match (List.range 330).find? fun (k : Nat) => (scaled m q (-(k : Int))).1 ≠ 0 with
    | some k => 1 - (k : Int)
    | none => 0

/-- A positive finite double, positionally. -/
def shortestPositive (f : Float) : String :=
  let (m, q) := significand f
  let (n, e) := searchDigits f m q (magnitude m q) 16 1
  let digits := (toString n).toList
  placePoint digits (digits.length + e)

/-- A number that a decimal text writes, its shortest form. -/
def shortestDecimal (negative : Bool) (digits : List Char) (exponent : Int) : String :=
  let f := nearest (digitsValue 10 digits) exponent
  let body := if f == 0.0 then "0.0" else shortestPositive f
  if negative then "-" ++ body else body

end LocalProxy.Text
