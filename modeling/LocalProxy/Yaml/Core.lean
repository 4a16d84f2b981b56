import LocalProxy.Yaml.Node
import LocalProxy.Text.Quoted
import LocalProxy.Text.Shortest

/-! What scalars mean: a plain one is null, a boolean, a number, or else text; quoted and
block scalars are text. -/
namespace LocalProxy.Yaml

def isNull (s : String) : Bool := s == "null" || s == "Null" || s == "NULL" || s == "~"

def bool? (s : String) : Option Bool :=
  if s == "true" || s == "True" || s == "TRUE" then some true
  else if s == "false" || s == "False" || s == "FALSE" then some false
  else none

/-- The text after a sign, and whether the sign is a minus. -/
def splitSign : List Char → Bool × List Char
  | '-' :: rest => (true, rest)
  | '+' :: rest => (false, rest)
  | s => (false, s)

/-- Digits with a zero in front, perhaps signed, are text and no number. -/
def isPadded (s : List Char) : Bool :=
  match (splitSign s).2 with
  | '0' :: rest => !rest.isEmpty && rest.all Char.isDigit
  | _ => false

def digits? (base : Nat) (s : List Char) : Option Nat :=
  if s.isEmpty || s.any (fun c => (Text.digitValue base c).isNone) then none
  else some (Text.digitsValue base s)

/-- A numeral without sign: hexadecimal, octal, binary or decimal. -/
def magnitude? (s : List Char) : Option Nat :=
  let based := match s with
    | '0' :: 'x' :: rest => digits? 16 rest
    | '0' :: 'o' :: rest => digits? 8 rest
    | '0' :: 'b' :: rest => digits? 2 rest
    | _ => none
  based <|> digits? 10 s

def unsigned? (s : String) : Option Nat :=
  if isPadded s.toList then none
  else match s.toList with
    | '+' :: rest => magnitude? rest
    | cs => magnitude? cs

/-- A whole number of at most 128 bits. -/
def integer? (s : String) : Option Int :=
  let n : Option Int :=
    if isPadded s.toList then none
    else match s.toList with
      | '-' :: rest => (magnitude? rest).map fun n => -(n : Int)
      | _ => (unsigned? s).map Int.ofNat
  n.filter fun n => -(Nat.pow 2 127 : Int) ≤ n && n < (Nat.pow 2 128 : Int)

/-- Digits, with a point and an exponent or not. -/
def decimal? (s : List Char) : Option (List Char × Int) := do
  let whole := s.takeWhile Char.isDigit
  let rest := s.dropWhile Char.isDigit
  let (part, rest) := match rest with
    | '.' :: rest => (rest.takeWhile Char.isDigit, rest.dropWhile Char.isDigit)
    | rest => ([], rest)
  let exponent : Int ← match rest with
    | [] => some 0
    | e :: rest =>
      if e == 'e' || e == 'E' then
        let (negative, ds) := splitSign rest
        (digits? 10 ds).map fun n => if negative then -(n : Int) else n
      else none
  if whole.isEmpty && part.isEmpty then none
  return (whole ++ part, exponent - part.length)

/-- The way messages show a number with a fraction, or one too large to be whole. -/
def float? (s : String) : Option String :=
  if [".inf", ".Inf", ".INF", "+.inf", "+.Inf", "+.INF"].contains s then some "inf"
  else if ["-.inf", "-.Inf", "-.INF"].contains s then some "-inf"
  else if [".nan", ".NaN", ".NAN"].contains s then some "NaN"
  else
    let (negative, body) := splitSign s.toList
    match decimal? body with
    | none => none
    | some (digits, exponent) =>
      if Text.exceedsDouble digits exponent then none
      else some (Text.shortestDecimal negative digits exponent)

/-- A scalar by what it means. Whole numbers beyond 64 bits are `wide`. -/
inductive Form
  | null
  | bool (b : Bool)
  | int (n : Int)
  | wide (n : Int)
  | float (shown : String)
  | text (s : String)
deriving DecidableEq, Repr

namespace Form

def ofInt (n : Int) : Form :=
  if -(Nat.pow 2 63 : Int) ≤ n ∧ n < (Nat.pow 2 64 : Int) then int n else wide n

/-- The form of a plain scalar without tag. -/
def ofPlain (s : String) : Form :=
  if s == "" || isNull s then null
  else match bool? s with
    | some b => bool b
    | none =>
      match integer? s with
      | some n => ofInt n
      | none =>
        match if isPadded s.toList then none else float? s with
        | some shown => float shown
        | none => text s

/-- How a message names what it found. -/
def shown : Form → String
  | null => "unit value"
  | bool b => "boolean `" ++ (if b then "true" else "false") ++ "`"
  | int n => "integer `" ++ toString n ++ "`"
  | wide n => "integer `" ++ toString n ++ (if n < 0 then "` as i128" else "` as u128")
  | float s => "floating point `" ++ s ++ "`"
  | text s => "string " ++ Text.quoted s

end Form

/-- A tag of the core schema. -/
def coreTag (name : String) : String := "tag:yaml.org,2002:" ++ name

def isLocal (tag : Option String) : Bool := tag.any fun t => t.toList.head? == some '!'

/-- The form of a scalar, or the type that its tag promises and its text does not hold. -/
def formOf (tag : Option String) (style : Style) (s : String) : Except String Form :=
  match tag with
  | none => .ok (if style = .plain then .ofPlain s else .text s)
  | some t =>
    if t == coreTag "bool" then ((bool? s).map .bool).elim (.error "a boolean") .ok
    else if t == coreTag "int" then ((integer? s).map .ofInt).elim (.error "an integer") .ok
    else if t == coreTag "float" then ((float? s).map .float).elim (.error "a float") .ok
    else if t == coreTag "null" then if isNull s then .ok .null else .error "null"
    else if isLocal tag && style = .plain then .ok (.ofPlain s)
    else .ok (.text s)

end LocalProxy.Yaml
