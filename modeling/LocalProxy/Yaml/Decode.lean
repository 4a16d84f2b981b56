import LocalProxy.Yaml.Core

/-! Readers of nodes for values of a wanted type. They go through the document in its order,
and the first fault met is the one reported. -/
namespace LocalProxy.Yaml

/-- Where in the document, by place and by path. -/
structure Site where
  place : Place
  path : String
deriving DecidableEq, Repr

inductive Fault
  | broken (problem : Problem)
  | mismatch (what : String) (site : Option Site)
  | tooDeep (place : Place)
  | anotherDocument
deriving DecidableEq, Repr

namespace Fault

def message : Fault → String
  | broken p => p.message
  | mismatch what none => what
  | mismatch what (some site) =>
    (if site.path = "" then "" else site.path ++ ": ") ++ what ++
      (if site.place.isStart then "" else " at " ++ site.place.text)
  | tooDeep place =>
    "recursion limit exceeded" ++ (if place.isStart then "" else " at " ++ place.text)
  | anotherDocument =>
    "deserializing from YAML containing more than one document is not supported"

end Fault

abbrev Result (α : Type) := Except Fault α

/-- Gives a mismatch that has none yet the site of the node around it. -/
def locate {α : Type} (place : Place) (path : String) : Result α → Result α
  | .error (.mismatch what none) => .error (.mismatch what (some ⟨place, path⟩))
  | r => r

def mismatch {α : Type} (what : String) : Result α := .error (.mismatch what none)

def itemPath (path : String) (i : Nat) : String :=
  (if path = "" then "." else path) ++ "[" ++ toString i ++ "]"

def memberPath (path key : String) : String := if path = "" then key else path ++ "." ++ key

namespace Node

def place : Node → Place
  | scalar p _ _ _ => p
  | sequence p _ _ => p
  | mapping p _ _ => p
  | cycle => default
  | broken p => p.place

/-- The node is of another kind than expected. -/
def wrong {α : Type} (expected path : String) : Node → Result α
  | broken p => .error (.broken p)
  | cycle => .error (.tooDeep default)
  | sequence p _ _ => locate p path (mismatch ("invalid type: sequence, expected " ++ expected))
  | mapping p _ _ => locate p path (mismatch ("invalid type: map, expected " ++ expected))
  | scalar p tag style s =>
    locate p path <| match formOf tag style s with
      | .ok form => mismatch ("invalid type: " ++ form.shown ++ ", expected " ++ expected)
      | .error type =>
        mismatch ("invalid value: string " ++ Text.quoted s ++ ", expected " ++ type)

def isEmptyPlain : Node → Bool
  | scalar _ _ .plain "" => true
  | _ => false

/-- A scalar of any kind, as text. -/
def text (path : String) : Node → Result String
  | scalar _ _ _ s => .ok s
  | n => n.wrong "a string" path

/-- The text of a scalar that may stand for a value of a core type: a plain one, or a
literal one with the tag. -/
def literalOf? (type : String) : Node → Option String
  | scalar _ _ .plain s => some s
  | scalar _ tag .literal s => if tag = some (coreTag type) then some s else none
  | _ => none

def asBool (path : String) (n : Node) : Result Bool :=
  match (n.literalOf? "bool").bind bool? with
  | some b => .ok b
  | none => n.wrong "a boolean" path

def asNat (path : String) (n : Node) : Result Nat :=
  match ((n.literalOf? "int").bind unsigned?).filter (· < Nat.pow 2 64) with
  | some k => .ok k
  | none => n.wrong "u64" path

/-- A sequence, whose items are read one after the other; one left out is empty. -/
def listOf {α : Type} (read : String → Node → Result α) (path : String) (n : Node) :
    Result (List α) :=
  match n with
  | sequence p _ items =>
    locate p path ((items.zipIdx).mapM fun (item, i) => read (itemPath path i) item)
  | n => if n.isEmptyPlain then .ok [] else n.wrong "a sequence" path

/-- Nothing for a plain null, or what the reader makes of the node. -/
def optional {α : Type} (read : String → Node → Result α) (path : String) (n : Node) :
    Result (Option α) :=
  match n with
  | scalar _ tag .plain s =>
    if tag == some (coreTag "null") then
      if isNull s then .ok none
      else mismatch ("invalid value: string " ++ Text.quoted s ++ ", expected null")
    else if tag.isNone && (s == "" || isNull s) then .ok none
    else (read path n).map some
  | _ => (read path n).map some

/-- One of several words: as text, or as a local tag on a null. -/
def choice {α : Type} (words : List (String × α)) (path : String) (n : Node) : Result α :=
  let pick := fun (p : Place) (word : String) =>
    match words.lookup word with
    | some a => .ok a
    | none =>
      let names := ", ".intercalate (words.map fun w => "`" ++ w.1 ++ "`")
      locate p path (mismatch ("unknown variant `" ++ word ++ "`, expected one of " ++ names))
  match n with
  | scalar p tag style s =>
    if isLocal tag then do
      let a ← pick p (.ofList ((tag.getD "").toList.drop 1))
      if style = .plain ∧ (s == "" || isNull s) then return a
      locate p path (mismatch ("invalid value: string " ++ Text.quoted s ++ ", expected null"))
    else pick p s
  | n => n.wrong "a YAML tag starting with '!'" path

mutual

/-- Passes over a node, where nothing but a defect is a fault. -/
def sound : Node → Result Unit
  | broken p => .error (.broken p)
  | sequence _ _ items => soundItems items
  | mapping _ _ entries => soundEntries entries
  | _ => .ok ()

def soundItems : List Node → Result Unit
  | [] => .ok ()
  | n :: ns => do
    sound n
    soundItems ns

def soundEntries : List (Node × Node) → Result Unit
  | [] => .ok ()
  | (k, v) :: es => do
    sound k
    sound v
    soundEntries es

end

end Node

/-- A value as its own form tells it. -/
inductive Value
  | scalar (form : Form)
  | list (items : List Value)
  | map (entries : List (Value × Value))
deriving Repr, Inhabited

namespace Value

def shown : Value → String
  | scalar form => form.shown
  | list _ => "sequence"
  | map _ => "map"

def wrong {α : Type} (expected : String) (v : Value) : Result α :=
  mismatch ("invalid type: " ++ v.shown ++ ", expected " ++ expected)

def tagged {α : Type} : Result α :=
  mismatch "untagged and internally tagged enums do not support enum input"

mutual

/-- The value of a node whose collections nest at most as deep as given. Local tags and whole
numbers beyond 64 bits have no value. -/
def ofNode : Nat → String → Node → Result Value
  | _, path, .scalar p tag style s =>
    locate p path <|
      if isLocal tag then tagged
      else match formOf tag style s with
        | .ok (.wide n) => wrong "any value" (scalar (.wide n))
        | .ok form => .ok (scalar form)
        | .error type =>
          mismatch ("invalid value: string " ++ Text.quoted s ++ ", expected " ++ type)
  | 0, _, n => .error (.tooDeep n.place)
  | depth + 1, path, .sequence p tag items =>
    locate p path <|
      if isLocal tag then tagged else (ofItems depth path 0 items).map list
  | depth + 1, path, .mapping p tag entries =>
    locate p path <|
      if isLocal tag then tagged else (ofEntries depth path entries).map map
  | _ + 1, _, .cycle => .error (.tooDeep default)
  | _ + 1, _, .broken p => .error (.broken p)

def ofItems : Nat → String → Nat → List Node → Result (List Value)
  | _, _, _, [] => .ok []
  | depth, path, i, n :: ns => do
    let v ← ofNode depth (itemPath path i) n
    let vs ← ofItems depth path (i + 1) ns
    return v :: vs

def ofEntries : Nat → String → List (Node × Node) → Result (List (Value × Value))
  | _, _, [] => .ok []
  | depth, path, (k, n) :: es => do
    let key ← ofNode depth path k
    let inner := match k with
      | .scalar _ _ _ s => memberPath path s
      | _ => memberPath path "?"
    let v ← ofNode depth inner n
    let vs ← ofEntries depth path es
    return (key, v) :: vs

end

/-- How deep the collections of a document may nest. -/
def maxDepth : Nat := 128

def asPort : Value → Result UInt16
  | scalar (.int n) =>
    if 0 ≤ n ∧ n < UInt16.size then .ok n.toNat.toUInt16
    else mismatch ("invalid value: integer `" ++ toString n ++ "`, expected u16")
  | v => v.wrong "u16"

def asText? : Value → Option String
  | scalar (.text s) => some s
  | _ => none

def asTexts? : Value → Option (List String)
  | list items => items.mapM asText?
  | _ => none

/-- The value of a field in a record that allows other members. The field may occur once, by
its name or by its position; keys are texts or positions. -/
def fieldsOf? (names : List String) : List (Value × Value) → Option (List (String × Value))
  | [] => some []
  | (key, v) :: es => do
    let name ← match key with
      | scalar (.text s) => some (if s ∈ names then some s else none)
      | scalar (.int n) => if n < 0 then none else some names[n.toNat]?
      | _ => none
    let rest ← fieldsOf? names es
    match name with
    | none => return rest
    | some name => if (rest.lookup name).isSome then none else return (name, v) :: rest

end Value

end LocalProxy.Yaml
