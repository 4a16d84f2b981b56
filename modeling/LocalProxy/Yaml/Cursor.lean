import LocalProxy.Text

/-! A position in a YAML text, the classes of characters that the format distinguishes, and
what may be wrong with a text. -/
namespace LocalProxy.Yaml

/-- Lines and columns count from zero. -/
structure Place where
  index : Nat
  line : Nat
  column : Nat
deriving DecidableEq, Repr, Inhabited

/-- The start of the text is not worth telling. -/
def Place.isStart (p : Place) : Bool := p.line == 0 && p.column == 0

def Place.text (p : Place) : String :=
  if p.isStart then "position " ++ toString p.index
  else "line " ++ toString (p.line + 1) ++ " column " ++ toString (p.column + 1)

/-- A defect, where it shows, and what was being read from where on. -/
structure Problem where
  what : String
  place : Place
  during : Option (String × Place)
deriving DecidableEq, Repr, Inhabited

def Problem.message (p : Problem) : String :=
  let at_ := if p.place.isStart then "" else " at " ++ p.place.text
  match p.during with
  | none => p.what ++ at_
  | some (activity, start) =>
    let from_ :=
      if start.isStart || (start.line == p.place.line && start.column == p.place.column) then ""
      else " at " ++ start.text
    p.what ++ at_ ++ ", " ++ activity ++ from_

/-- The text from here on, and where it begins. -/
structure Cursor where
  rest : List Char
  place : Place
deriving Repr, Inhabited

def isBreak (c : Char) : Bool :=
  c == '\n' || c == '\r' || c == '\u0085' || c == '\u2028' || c == '\u2029'

def isBlank (c : Char) : Bool := c == ' ' || c == '\t'

/-- The characters a document may hold. -/
def isAllowed (c : Char) : Bool :=
  let n := c.toNat
  n == 0x09 || n == 0x0A || n == 0x0D || (0x20 ≤ n && n ≤ 0x7E) || n == 0x85 ||
    (0xA0 ≤ n && n ≤ 0xFFFD) || 0x10000 ≤ n

/-- Characters of anchor names, tag handles and directive names. -/
def isWord (c : Char) : Bool := c.isAlphanum || c == '-' || c == '_'

namespace Cursor

def ofText (s : List Char) : Cursor := ⟨s, ⟨0, 0, 0⟩⟩

def column (c : Cursor) : Nat := c.place.column

def peek? (c : Cursor) (n : Nat) : Option Char := c.rest[n]?

def at? (c : Cursor) (n : Nat) (p : Char → Bool) : Bool := (c.peek? n).any p

def isEnd (c : Cursor) : Bool := c.rest.isEmpty

def sees (c : Cursor) (x : Char) : Bool := c.at? 0 (· == x)

/-- A blank, a line break or the end stands at an offset. -/
def endsWord (c : Cursor) (n : Nat) : Bool :=
  match c.peek? n with
  | none => true
  | some x => isBlank x || isBreak x

/-- A line break or the end stands here. -/
def endsLine (c : Cursor) : Bool :=
  match c.peek? 0 with
  | none => true
  | some x => isBreak x

/-- Past characters of the line. -/
def skip (c : Cursor) (n : Nat) : Cursor :=
  ⟨c.rest.drop n, ⟨c.place.index + n, c.place.line, c.place.column + n⟩⟩

def next (c : Cursor) : Cursor := c.skip 1

/-- Past a line break, with the break as the document keeps it: a line feed, or one of the
two Unicode separators. -/
def nextLine (c : Cursor) : List Char × Cursor :=
  let past := fun (n : Nat) (rest : List Char) =>
    (⟨rest, ⟨c.place.index + n, c.place.line + 1, 0⟩⟩ : Cursor)
  match c.rest with
  | '\r' :: '\n' :: rest => (['\n'], past 2 rest)
  | x :: rest =>
    if x == '\u2028' || x == '\u2029' then ([x], past 1 rest)
    else if isBreak x then (['\n'], past 1 rest)
    else ([], c)
  | [] => ([], c)

/-- The longest run of characters of a class, which holds no line breaks. -/
def takeWhile (c : Cursor) (p : Char → Bool) : List Char × Cursor :=
  let word := c.rest.takeWhile p
  (word, c.skip word.length)

def dropWhile (c : Cursor) (p : Char → Bool) : Cursor := (c.takeWhile p).2

/-- A document marker `---` or `...` stands at the start of the line. -/
def seesMarker (c : Cursor) (x : Char) : Bool :=
  c.column == 0 && c.at? 0 (· == x) && c.at? 1 (· == x) && c.at? 2 (· == x) && c.endsWord 3

def seesAnyMarker (c : Cursor) : Bool := c.seesMarker '-' || c.seesMarker '.'

/-- Reports a defect here in something that began at `start`. -/
def fail {α : Type} (c : Cursor) (activity : String) (start : Place) (what : String) :
    Except Problem α :=
  .error ⟨what, c.place, some (activity, start)⟩

/-- Past blanks and a comment, up to the end of the line; nothing else may stand there. -/
def finishLine (activity : String) (start : Place) (c : Cursor) : Except Problem Cursor :=
  let c := c.dropWhile isBlank
  let c := if c.sees '#' then c.dropWhile (!isBreak ·) else c
  if c.endsLine then .ok c.nextLine.2
  else c.fail activity start "did not find expected comment or line break"

end Cursor

end LocalProxy.Yaml
