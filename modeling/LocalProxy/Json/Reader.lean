import LocalProxy.Json
import LocalProxy.Text.Utf8

/-! Readers that take a JSON value of an expected shape from the front of the octets. They
work from left to right, so the first fault met is the one reported. -/
namespace LocalProxy.Json

/-- A text that is no JSON is malformed; one that holds another value than expected is a
mismatch. -/
inductive Fault
  | malformed
  | mismatch
deriving DecidableEq, Repr

abbrev Reader (α : Type) := Bytes → Except Fault (α × Bytes)

def isSpace (b : UInt8) : Bool := b == 0x20 || b == 0x0A || b == 0x0D || b == 0x09

def skipSpace (s : Bytes) : Bytes := s.dropWhile isSpace

/-- Requires the octets of a word. -/
def readWord (word : String) (s : Bytes) : Except Fault Bytes :=
  match (Text.utf8 word).isPrefixOf? s with
  | some rest => .ok rest
  | none => .error .malformed

def octetChar (b : UInt8) : Char := Char.ofNat b.toNat

def octetIsDigit (b : UInt8) : Bool := 0x30 ≤ b && b ≤ 0x39

/-- Four hexadecimal digits. -/
def readHex4 : Reader Nat
  | a :: b :: c :: d :: rest =>
    let digits := [a, b, c, d].map octetChar
    if digits.all fun x => (Text.digitValue 16 x).isSome then
      .ok (Text.digitsValue 16 digits, rest)
    else .error .malformed
  | _ => .error .malformed

def simpleEscape : UInt8 → Option Char
  | 0x22 => some '"'
  | 0x5C => some '\\'
  | 0x2F => some '/'
  | 0x62 => some '\x08'
  | 0x66 => some '\x0c'
  | 0x6E => some '\n'
  | 0x72 => some '\r'
  | 0x74 => some '\t'
  | _ => none

/-- The character after a backslash. Two escaped halves make one character beyond the basic
plane; a half alone is malformed. -/
def readEscape : Reader Char
  | 0x75 :: rest => do
    let (n, rest) ← readHex4 rest
    if 0xD800 ≤ n ∧ n < 0xDC00 then
      let rest ← readWord "\\u" rest
      let (m, rest) ← readHex4 rest
      if 0xDC00 ≤ m ∧ m < 0xE000 then
        return (Char.ofNat (0x10000 + (n - 0xD800) * 0x400 + (m - 0xDC00)), rest)
      else throw .malformed
    else if 0xDC00 ≤ n ∧ n < 0xE000 then throw .malformed
    else return (Char.ofNat n, rest)
  | b :: rest =>
    match simpleEscape b with
    | some c => .ok (c, rest)
    | none => .error .malformed
  | [] => .error .malformed

/-- The octets of a string up to its closing quote, each turn taking one octet or escape. -/
def stringOctets : Nat → List Bytes → Reader Bytes
  | 0, _, _ => .error .malformed
  | _, _, [] => .error .malformed
  | fuel + 1, done, b :: rest =>
    if b == 0x22 then .ok (done.reverse.flatten, rest)
    else if b == 0x5C then do
      let (c, rest) ← readEscape rest
      stringOctets fuel (Text.utf8 (String.singleton c) :: done) rest
    else if b < 0x20 then .error .malformed
    else stringOctets fuel ([b] :: done) rest

/-- The rest of a string whose opening quote was taken. -/
def readStringBody : Reader String := fun s => do
  let (octets, rest) ← stringOctets (s.length + 1) [] s
  match Text.ofUtf8? octets with
  | some text => return (text, rest)
  | none => throw .malformed

/-- A number as read: whole, or not representable as a whole number. -/
inductive Numeral
  | whole (n : Int)
  | fraction
deriving DecidableEq, Repr

/-- Digits, of which there is at least one. -/
def readDigits (s : Bytes) : Except Fault (List Char × Bytes) :=
  match s.span octetIsDigit with
  | ([], _) => .error .malformed
  | (digits, rest) => .ok (digits.map octetChar, rest)

def readExponent : Reader (Option Int)
  | b :: rest =>
    if b == 0x65 || b == 0x45 then do
      let (sign, rest) := match rest with
        | 0x2B :: rest => ((1 : Int), rest)
        | 0x2D :: rest => (-1, rest)
        | rest => (1, rest)
      let (digits, rest) ← readDigits rest
      return (some (sign * Text.digitsValue 10 digits), rest)
    else .ok (none, b :: rest)
  | [] => .ok (none, [])

/-- A number. Whole numbers beyond 64 bits, and minus zero, count as fractions. -/
def readNumeral : Reader Numeral := fun s => do
  let (negative, s) := match s with
    | 0x2D :: rest => (true, rest)
    | s => (false, s)
  let (digits, rest) ← readDigits s
  if digits.length > 1 ∧ digits.head? = some '0' then throw .malformed
  let (decimals, rest) ← match rest with
    | 0x2E :: rest => do
      let (ds, rest) ← readDigits rest
      pure (some ds, rest)
    | rest => pure (none, rest)
  let (exponent, rest) ← readExponent rest
  if decimals.isNone && exponent.isNone then
    let n := Text.digitsValue 10 digits
    if negative then
      if n = 0 ∨ n > Nat.pow 2 63 then return (.fraction, rest)
      return (.whole (-n), rest)
    if n ≥ Nat.pow 2 64 then
      if Text.exceedsDouble digits 0 then throw .malformed
      return (.fraction, rest)
    return (.whole n, rest)
  let ds := decimals.getD []
  if Text.exceedsDouble (digits ++ ds) (exponent.getD 0 - ds.length) then throw .malformed
  return (.fraction, rest)

/-- Reads a scalar of a wrong kind to its end before calling it a mismatch; a container is a
mismatch at its opening bracket. -/
def mismatch {α : Type} : Reader α
  | [] => .error .malformed
  | 0x6E :: rest => do
    let _ ← readWord "ull" rest
    throw .mismatch
  | 0x74 :: rest => do
    let _ ← readWord "rue" rest
    throw .mismatch
  | 0x66 :: rest => do
    let _ ← readWord "alse" rest
    throw .mismatch
  | 0x22 :: rest => do
    let _ ← readStringBody rest
    throw .mismatch
  | 0x5B :: _ => .error .mismatch
  | 0x7B :: _ => .error .mismatch
  | b :: rest =>
    if b == 0x2D || octetIsDigit b then do
      let _ ← readNumeral (b :: rest)
      throw .mismatch
    else .error .malformed

def readBool : Reader Bool := fun s =>
  match skipSpace s with
  | 0x74 :: rest => return (true, ← readWord "rue" rest)
  | 0x66 :: rest => return (false, ← readWord "alse" rest)
  | s => mismatch s

def readString : Reader String := fun s =>
  match skipSpace s with
  | 0x22 :: rest => readStringBody rest
  | s => mismatch s

/-- A whole number from zero up to a bound. -/
def readNatBelow (bound : Nat) : Reader Nat := fun s =>
  match skipSpace s with
  | [] => .error .malformed
  | b :: rest =>
    if b == 0x2D || octetIsDigit b then do
      match ← readNumeral (b :: rest) with
      | (.whole (.ofNat n), rest) => if n < bound then return (n, rest) else throw .mismatch
      | _ => throw .mismatch
    else mismatch (b :: rest)

def readPort : Reader UInt16 := fun s => do
  let (n, rest) ← readNatBelow UInt16.size s
  return (n.toUInt16, rest)

/-- `null`, or a value. -/
def nullable {α : Type} (r : Reader α) : Reader (Option α) := fun s =>
  match skipSpace s with
  | 0x6E :: rest => return (none, ← readWord "ull" rest)
  | s => do
    let (a, rest) ← r s
    return (some a, rest)

/-- One of several words, as a string or as the only name of an object whose value is
`null`. -/
def readChoice {α : Type} (choice : String → Option α) : Reader α := fun s =>
  match skipSpace s with
  | 0x22 :: rest => do
    let (name, rest) ← readStringBody rest
    match choice name with
    | some a => return (a, rest)
    | none => throw .mismatch
  | 0x7B :: rest => do
    match skipSpace rest with
    | 0x22 :: rest =>
      let (name, rest) ← readStringBody rest
      match choice name with
      | none => throw .mismatch
      | some a =>
        match skipSpace rest with
        | 0x3A :: rest =>
          match skipSpace rest with
          | 0x6E :: rest =>
            let rest ← readWord "ull" rest
            match skipSpace rest with
            | 0x7D :: rest => return (a, rest)
            | _ => throw .malformed
          | s => mismatch s
        | _ => throw .malformed
    | s => mismatch s
  | _ => .error .malformed

/-- What follows a value inside a container: another one, or the closing bracket. -/
inductive Follow
  | item (rest : Bytes)
  | close (rest : Bytes)
deriving DecidableEq, Repr

def follow (closing : UInt8) (isFirst : Bool) (s : Bytes) : Except Fault Follow :=
  match skipSpace s with
  | [] => .error .malformed
  | b :: rest =>
    if b == closing then .ok (.close rest)
    else if isFirst then .ok (.item (b :: rest))
    else if b == 0x2C then
      match skipSpace rest with
      | [] => .error .malformed
      | c :: rest => if c == closing then .error .malformed else .ok (.item (c :: rest))
    else .error .malformed

def itemsFrom {α : Type} (r : Reader α) : Nat → List α → Reader (List α)
  | 0, _, _ => .error .malformed
  | fuel + 1, done, s => do
    match ← follow 0x5D done.isEmpty s with
    | .close rest => return (done.reverse, rest)
    | .item rest =>
      let (a, rest) ← r rest
      itemsFrom r fuel (a :: done) rest

def readList {α : Type} (r : Reader α) : Reader (List α) := fun s =>
  match skipSpace s with
  | 0x5B :: rest => itemsFrom r (rest.length + 1) [] rest
  | s => mismatch s

/-- The name of a member and the colon after it. -/
def readName : Reader String
  | 0x22 :: rest => do
    let (name, rest) ← readStringBody rest
    match skipSpace rest with
    | 0x3A :: rest => return (name, rest)
    | _ => throw .malformed
  | _ => .error .malformed

/-- Passes over the octets of a string without asking whether they are text. -/
def skipString : Nat → Bytes → Except Fault Bytes
  | 0, _ => .error .malformed
  | _, [] => .error .malformed
  | fuel + 1, b :: rest =>
    if b == 0x22 then .ok rest
    else if b == 0x5C then
      match rest with
      | 0x75 :: rest => do
        let (_, rest) ← readHex4 rest
        skipString fuel rest
      | c :: rest => if (simpleEscape c).isSome then skipString fuel rest else .error .malformed
      | [] => .error .malformed
    else if b < 0x20 then .error .malformed
    else skipString fuel rest

/-- Passes over the digits, fraction and exponent of a number. -/
def skipNumber (s : Bytes) : Except Fault Bytes := do
  let s := match s with
    | 0x2D :: rest => rest
    | s => s
  let (digits, rest) ← readDigits s
  if digits.length > 1 ∧ digits.head? = some '0' then throw .malformed
  let rest ← match rest with
    | 0x2E :: rest => do
      let (_, rest) ← readDigits rest
      pure rest
    | rest => pure rest
  let (_, rest) ← readExponent rest
  return rest

mutual

/-- Passes over any value. -/
def skipValue : Nat → Bytes → Except Fault Bytes
  | 0, _ => .error .malformed
  | fuel + 1, s =>
    match skipSpace s with
    | [] => .error .malformed
    | 0x6E :: rest => readWord "ull" rest
    | 0x74 :: rest => readWord "rue" rest
    | 0x66 :: rest => readWord "alse" rest
    | 0x22 :: rest => skipString (rest.length + 1) rest
    | 0x5B :: rest => skipItems fuel true rest
    | 0x7B :: rest => skipMembers fuel true rest
    | s => skipNumber s

def skipItems : Nat → Bool → Bytes → Except Fault Bytes
  | 0, _, _ => .error .malformed
  | fuel + 1, isFirst, s => do
    match ← follow 0x5D isFirst s with
    | .close rest => return rest
    | .item rest =>
      let rest ← skipValue fuel rest
      skipItems fuel false rest

def skipMembers : Nat → Bool → Bytes → Except Fault Bytes
  | 0, _, _ => .error .malformed
  | fuel + 1, isFirst, s => do
    match ← follow 0x7D isFirst s with
    | .close rest => return rest
    | .item rest =>
      match rest with
      | 0x22 :: rest =>
        let rest ← skipString (rest.length + 1) rest
        match skipSpace rest with
        | 0x3A :: rest =>
          let rest ← skipValue fuel rest
          skipMembers fuel false rest
        | _ => throw .malformed
      | _ => throw .malformed

end

/-- A record field by field: each field has a name and a reader that updates the record. -/
abbrev Fields (σ : Type) := List (String × (σ → Reader σ))

def membersFrom {σ : Type} (fields : Fields σ) :
    Nat → Bool → List String → σ → Reader (σ × List String)
  | 0, _, _, _, _ => .error .malformed
  | fuel + 1, isFirst, seen, record, s => do
    match ← follow 0x7D isFirst s with
    | .close rest => return ((record, seen), rest)
    | .item rest =>
      let (name, rest) ← readName rest
      match fields.lookup name with
      | some reader =>
        if name ∈ seen then throw .mismatch
        let (record, rest) ← reader record rest
        membersFrom fields fuel false (name :: seen) record rest
      | none =>
        let rest ← skipValue (rest.length + 1) rest
        membersFrom fields fuel false seen record rest

def positionsFrom {σ : Type} : Fields σ → Bool → σ → Reader σ
  | [], isFirst, record, s => do
    match ← follow 0x5D isFirst s with
    | .close rest => return (record, rest)
    | .item _ => throw .malformed
  | (_, reader) :: fields, isFirst, record, s => do
    match ← follow 0x5D isFirst s with
    | .close _ => throw .mismatch
    | .item rest =>
      let (record, rest) ← reader record rest
      positionsFrom fields false record rest

/-- A record as an object, where a known name may occur once, the `required` names must
occur and unknown names are passed over; or as an array of all fields in order. -/
def readRecord {σ : Type} (fields : Fields σ) (required : List String) (start : σ) :
    Reader σ := fun s =>
  match skipSpace s with
  | 0x7B :: rest => do
    let ((record, seen), rest) ← membersFrom fields (rest.length + 1) true [] start rest
    if required.all (· ∈ seen) then return (record, rest) else throw .mismatch
  | 0x5B :: rest => positionsFrom fields true start rest
  | s => mismatch s

/-- The value of a text that holds nothing else. -/
def readWhole {α : Type} (r : Reader α) (s : Bytes) : Except Fault α := do
  let (a, rest) ← r s
  if skipSpace rest = [] then return a else throw .malformed

mutual

/-- Any value whose numbers are whole. -/
def valueFrom : Nat → Reader Json
  | 0, _ => .error .malformed
  | fuel + 1, s =>
    match skipSpace s with
    | [] => .error .malformed
    | 0x6E :: rest => return (.null, ← readWord "ull" rest)
    | 0x74 :: rest => return (.bool true, ← readWord "rue" rest)
    | 0x66 :: rest => return (.bool false, ← readWord "alse" rest)
    | 0x22 :: rest => do
      let (text, rest) ← readStringBody rest
      return (.str text, rest)
    | 0x5B :: rest => itemValues fuel [] rest
    | 0x7B :: rest => memberValues fuel [] rest
    | s => do
      match ← readNumeral s with
      | (.whole n, rest) => return (.int n, rest)
      | (.fraction, _) => throw .mismatch

def itemValues : Nat → List Json → Reader Json
  | 0, _, _ => .error .malformed
  | fuel + 1, done, s => do
    match ← follow 0x5D done.isEmpty s with
    | .close rest => return (.arr done.reverse, rest)
    | .item rest =>
      let (j, rest) ← valueFrom fuel rest
      itemValues fuel (j :: done) rest

def memberValues : Nat → List (String × Json) → Reader Json
  | 0, _, _ => .error .malformed
  | fuel + 1, done, s => do
    match ← follow 0x7D done.isEmpty s with
    | .close rest => return (.obj done.reverse, rest)
    | .item rest =>
      let (name, rest) ← readName rest
      let (j, rest) ← valueFrom fuel rest
      memberValues fuel ((name, j) :: done) rest

end

def parse (s : Bytes) : Except Fault Json := readWhole (valueFrom (s.length + 1)) s

end LocalProxy.Json
