/-! Text as settings and requests spell it: blanks around a value, ASCII letter case,
fields between separators, and decimal numerals. -/
namespace LocalProxy.Text

/-- The characters with the Unicode property White_Space. -/
def isBlank (c : Char) : Bool :=
  let n := c.toNat
  (9 ≤ n && n ≤ 13) || n == 0x20 || n == 0x85 || n == 0xA0 || n == 0x1680 ||
    (0x2000 ≤ n && n ≤ 0x200A) || n == 0x2028 || n == 0x2029 || n == 0x202F ||
    n == 0x205F || n == 0x3000

def trimStart (s : List Char) : List Char := s.dropWhile isBlank

def trimEnd (s : List Char) : List Char := (s.reverse.dropWhile isBlank).reverse

/-- The text without the blanks at its two ends. -/
def trim (s : String) : String := .ofList (trimEnd (trimStart s.toList))

def lower (s : String) : String := .ofList (s.toList.map Char.toLower)

def upper (s : String) : String := .ofList (s.toList.map Char.toUpper)

/-- Equality up to the case of ASCII letters. -/
def sameLetters (a b : String) : Bool := lower a == lower b

/-- The pieces between occurrences of `sep`; the empty text is one empty piece. -/
def pieces (sep : Char) : List Char → List (List Char)
  | [] => [[]]
  | c :: rest =>
    if c = sep then [] :: pieces sep rest
    else match pieces sep rest with
      | [] => [[c]]
      | p :: ps => (c :: p) :: ps

def fields (sep : Char) (s : String) : List String :=
  (pieces sep s.toList).map String.ofList

/-- What stands before and after the first occurrence of the mark. -/
def splitAtFirst (mark : List Char) : List Char → Option (List Char × List Char)
  | [] => if mark = [] then some ([], []) else none
  | c :: rest =>
    match mark.isPrefixOf? (c :: rest) with
    | some after => some ([], after)
    | none => (splitAtFirst mark rest).map fun (before, after) => (c :: before, after)

/-- What stands before and after the last occurrence of the separator. -/
def splitAtLast (sep : Char) (s : List Char) : Option (List Char × List Char) :=
  match s.reverse.span (· ≠ sep) with
  | (_, []) => none
  | (after, _ :: before) => some (before.reverse, after.reverse)

def splitOnce (mark s : String) : Option (String × String) :=
  (splitAtFirst mark.toList s.toList).map fun (a, b) => (.ofList a, .ofList b)

def stripStart (mark s : String) : Option String :=
  (mark.toList.isPrefixOf? s.toList).map String.ofList

/-- The value of a digit in a base up to sixteen. -/
def digitValue (base : Nat) (c : Char) : Option Nat :=
  let v :=
    if '0' ≤ c ∧ c ≤ '9' then some (c.toNat - 48)
    else if 'a' ≤ c ∧ c ≤ 'f' then some (c.toNat - 87)
    else if 'A' ≤ c ∧ c ≤ 'F' then some (c.toNat - 55)
    else none
  v.filter (· < base)

def isDigit (c : Char) : Bool := (digitValue 10 c).isSome

/-- The number that digits of a base write, read from the left. -/
def digitsValue (base : Nat) (ds : List Char) : Nat :=
  ds.foldl (fun n c => n * base + (digitValue base c).getD 0) 0

/-- A numeral below `bound`: at least one decimal digit, any number of leading zeros, and
optionally one `+` in front. -/
def natBelow? (bound : Nat) (s : List Char) : Option Nat :=
  let digits := match s with
    | '+' :: rest => rest
    | _ => s
  if digits ≠ [] ∧ digits.all isDigit then
    let n := digitsValue 10 digits
    if n < bound then some n else none
  else none

def port? (s : String) : Option UInt16 :=
  (natBelow? UInt16.size s.toList).map Nat.toUInt16

/-- The decimal `digits × 10^exponent` rounds to no finite double. -/
def exceedsDouble (digits : List Char) (exponent : Int) : Bool :=
  let significant := digits.dropWhile (· == '0')
  let places := (significant.length : Int) + exponent
  if significant.isEmpty || places < 300 then false
  else if places > 320 then true
  else
    let limit := Nat.pow 2 1024 - Nat.pow 2 970
    let n := digitsValue 10 significant
    if exponent ≥ 0 then decide (limit ≤ n * Nat.pow 10 exponent.toNat)
    else decide (limit * Nat.pow 10 (-exponent).toNat ≤ n)

def hexDigit (n : Nat) : Char :=
  if n < 10 then Char.ofNat (48 + n) else Char.ofNat (87 + n)

/-- A byte as two lower-case hexadecimal digits. -/
def hexByte (b : UInt8) : List Char := [hexDigit (b.toNat / 16), hexDigit (b.toNat % 16)]

/-- A number in lower-case hexadecimal without leading zeros. -/
def hex (n : Nat) : String := .ofList (Nat.toDigits 16 n)

end LocalProxy.Text
