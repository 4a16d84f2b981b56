import LocalProxy.Text.Punycode
import LocalProxy.Text.Utf8

/-! Domain names: labels of octets, most specific first. -/
namespace LocalProxy.Dns

open Text

/-- A name from the root; it has no empty label. -/
structure Name where
  labels : List Bytes
deriving DecidableEq, Repr, Inhabited

/-- Where the reading of a written name stands: in a label, or after a backslash and some
octal digits. -/
inductive Spelling
  | plain
  | escape
  | octal1 (a : Nat)
  | octal2 (a b : Nat)
deriving DecidableEq

/-- The characters of an ASCII label. A dot may only come from an escape. -/
def isLabelChar (isFirst : Bool) (c : Char) : Bool :=
  c.isAlphanum || c == '_' || c == '.' || (c == '-' && !isFirst) || (c == '*' && isFirst)

/-- The octets of an ASCII label. -/
def asciiLabel? (label : List Char) : Option Bytes :=
  match label with
  | [] => none
  | c :: rest =>
    if label.length ≤ 63 ∧ isLabelChar true c ∧ rest.all (isLabelChar false) then
      some (label.map fun c => c.toNat.toUInt8)
    else none

/-- Letter case folded away, wide forms made narrow, and characters that do not count left
out. -/
def foldChar (c : Char) : List Char :=
  let n := c.toNat
  if n = 0xAD ∨ n = 0x200B ∨ n = 0x2060 ∨ n = 0xFEFF ∨ (0xFE00 ≤ n ∧ n ≤ 0xFE0F) then []
  else if n < 128 then [c.toLower]
  else if n = 0x3002 ∨ n = 0xFF0E ∨ n = 0xFF61 then ['.']
  else if 0xFF01 ≤ n ∧ n ≤ 0xFF5E then [(Char.ofNat (n - 0xFEE0)).toLower]
  else if (0xC0 ≤ n ∧ n ≤ 0xDE ∧ n ≠ 0xD7) ∨ (0x391 ≤ n ∧ n ≤ 0x3AB ∧ n ≠ 0x3A2) ∨
      (0x410 ≤ n ∧ n ≤ 0x42F) then [Char.ofNat (n + 32)]
  else if 0x400 ≤ n ∧ n ≤ 0x40F then [Char.ofNat (n + 80)]
  else if ((0x100 ≤ n ∧ n ≤ 0x137 ∧ n ≠ 0x130) ∨ (0x14A ≤ n ∧ n ≤ 0x177) ∨
      (0x460 ≤ n ∧ n ≤ 0x481) ∨ (0x48A ≤ n ∧ n ≤ 0x4BF)) ∧ n % 2 = 0 then [Char.ofNat (n + 1)]
  else if ((0x139 ≤ n ∧ n ≤ 0x148) ∨ (0x179 ≤ n ∧ n ≤ 0x17E)) ∧ n % 2 = 1 then
    [Char.ofNat (n + 1)]
  else [c]

def acePrefix : List Char := "xn--".toList

/-- The ASCII form of one label in any script. -/
def foldedLabel? (label : List Char) : Option (List Char) :=
  if label = [] then none
  else if label.all Punycode.isAscii then
    if label.all fun c => c.isAlphanum || c == '-' then
      match acePrefix.isPrefixOf? label with
      | some code =>
        if ((Punycode.decode code).getD []).all Punycode.isAscii then none else some label
      | none => some label
    else none
  else if label.all fun c => !Punycode.isAscii c || c.isAlphanum || c == '-' then
    some (acePrefix ++ Punycode.encode label)
  else none

/-- The octets of a label in any script. Labels that begin with an underscore are ASCII. -/
def anyLabel? (label : List Char) : Option Bytes :=
  if label = ['*'] ∨ label.head? = some '_' then asciiLabel? label
  else do
    let parts ← (pieces '.' (label.flatMap foldChar)).mapM foldedLabel?
    if parts.all fun p => p.length ≤ 63 then
      asciiLabel? (".".toList.intercalate parts)
    else none

namespace Name

def root : Name := ⟨[]⟩

/-- The octets the name takes on the wire. -/
def size (n : Name) : Nat := n.labels.flatten.length + n.labels.length + 1

/-- Adds a label below, unless the name gets longer than 255 octets. -/
def append? (n : Name) (label : Bytes) : Option Name :=
  let longer : Name := ⟨n.labels ++ [label]⟩
  if longer.size ≤ 255 then some longer else none

structure Draft where
  name : Name := root
  label : List Char := []
  spelling : Spelling := .plain

def isControl (c : Char) : Bool := c.toNat < 32 || (0x7F ≤ c.toNat && c.toNat < 0xA0)

def octalDigit? (c : Char) : Option Nat := digitValue 8 c

/-- Takes one character. `read` makes the octets of a label. -/
def take (read : List Char → Option Bytes) (d : Draft) (c : Char) : Option Draft :=
  match d.spelling with
  | .plain =>
    if c = '.' then do
      let name ← d.name.append? (← read d.label)
      return { d with name := name, label := [] }
    else if c = '\\' then some { d with spelling := .escape }
    else if isControl c || isBlank c then none
    else some { d with label := d.label ++ [c] }
  | .escape =>
    if isDigit c then do return { d with spelling := .octal1 (← octalDigit? c) }
    else some { d with label := d.label ++ [c], spelling := .plain }
  | .octal1 a => do return { d with spelling := .octal2 a (← octalDigit? c) }
  | .octal2 a b => do
    let n := a * 64 + b * 8 + (← octalDigit? c)
    return { d with label := d.label ++ [Char.ofNat n], spelling := .plain }

def readWith (read : List Char → Option Bytes) (s : List Char) : Option Name := do
  if s = ['.'] then return root
  let d ← s.foldlM (take read) {}
  if d.label = [] then return d.name else d.name.append? (← read d.label)

/-- The name of a text: with labels in any script if it has such a form, else with its letter
case kept and ASCII labels only. -/
def parse? (s : String) : Option Name :=
  readWith anyLabel? s.toList <|> readWith asciiLabel? s.toList

/-- An octet of a label as it shows; `isFirst` tells whether it begins the label. -/
def octetText (isFirst : Bool) (b : UInt8) : List Char :=
  let c := Char.ofNat b.toNat
  if b.toNat < 128 ∧ c ≠ '.' ∧ isLabelChar isFirst c then [c]
  else if 0x20 < b.toNat ∧ b.toNat < 0x7F then ['\\', c]
  else
    let digit := fun k => Char.ofNat (48 + b.toNat / k % 8)
    ['\\', digit 64, digit 8, digit 1]

def asciiText : Bytes → List Char
  | [] => []
  | b :: rest => octetText true b ++ rest.flatMap (octetText false)

/-- A label in ASCII form shows in its own script. -/
def labelText (label : Bytes) : List Char :=
  let chars := label.map fun b => Char.ofNat b.toNat
  match acePrefix.isPrefixOf? chars with
  | some code =>
    match Punycode.decode code with
    | some own =>
      if label.all (· < 128) ∧ !own.all Punycode.isAscii ∧ own.flatMap foldChar = own then own
      else asciiText label
    | none => asciiText label
  | none => asciiText label

/-- The labels, each before a dot; the root is a dot alone. -/
def text (n : Name) : String :=
  if n.labels = [] then "." else .ofList (n.labels.flatMap fun l => labelText l ++ ['.'])

/-- Each label after its length, then a zero. -/
def wire (n : Name) : Bytes := n.labels.flatMap (fun l => l.length.toUInt8 :: l) ++ [0]

end Name

end LocalProxy.Dns
