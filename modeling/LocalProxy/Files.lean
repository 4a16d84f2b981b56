import LocalProxy.Text
import LocalProxy.Text.Utf8

/-! A tree of files, the paths into it, and what may go wrong with one. -/
namespace LocalProxy

inductive FileFault
  | missing
  | exists
  | notDirectory
  | isDirectory
deriving DecidableEq, Repr

def FileFault.message : FileFault → String
  | missing => "No such file or directory (os error 2)"
  | «exists» => "File exists (os error 17)"
  | notDirectory => "Not a directory (os error 20)"
  | isDirectory => "Is a directory (os error 21)"

namespace Path

def isAbsolute (path : String) : Bool := path.toList.head? == some '/'

/-- The second path as seen from the first. -/
def join (base path : String) : String :=
  if isAbsolute path || base = "" then path
  else if base.toList.getLast? = some '/' then base ++ path
  else base ++ "/" ++ path

/-- The pieces between slashes, without those that are empty or stand for the place itself. -/
def steps (path : String) : List String :=
  (Text.fields '/' path).filter fun s => s ≠ "" ∧ s ≠ "."

/-- Pieces of a path, the last in front, without those at the end that name no step. The first
piece of a path always counts. -/
def dropIdle : List String → List String
  | [] => []
  | [first] => [first]
  | piece :: before => if piece = "" ∨ piece = "." then dropIdle before else piece :: before

/-- What is written before the last step, or nothing where there is no step. -/
def parent? (path : String) : Option String :=
  match dropIdle (Text.fields '/' path).reverse with
  | [] | [""] => none
  | [_] => some ""
  | _ :: before =>
    match dropIdle before with
    | [""] => some "/"
    | before => some ("/".intercalate before.reverse)

/-- A path that ends in a slash can only name a directory. -/
def asksDirectory (path : String) : Bool := path.toList.getLast? == some '/'

end Path

inductive FileNode
  | directory
  | file (content : Bytes)
deriving DecidableEq, Repr

/-- The nodes below the root, each under its steps. -/
structure Files where
  nodes : List (List String × FileNode)
deriving DecidableEq, Repr

namespace Files

def node? (t : Files) (steps : List String) : Option FileNode :=
  if steps = [] then some .directory else t.nodes.lookup steps

def insert (t : Files) (steps : List String) (n : FileNode) : Files :=
  ⟨(steps, n) :: t.nodes.filter (·.1 ≠ steps)⟩

/-- Follows steps from a place that must be a directory each time one goes on from it. -/
def follow (t : Files) : List String → List String → Except FileFault (List String)
  | here, [] => .ok here
  | here, step :: rest =>
    match t.node? here with
    | none => .error .missing
    | some (.file _) => .error .notDirectory
    | some .directory => t.follow (if step = ".." then here.dropLast else here ++ [step]) rest

/-- The place of a path that starts at the root. -/
def place (t : Files) (path : String) : Except FileFault (List String) :=
  if path = "" then .error .missing else t.follow [] (Path.steps path)

def find (t : Files) (path : String) : Except FileFault FileNode := do
  match t.node? (← t.place path) with
  | some .directory => return .directory
  | some n => if Path.asksDirectory path then throw .notDirectory else return n
  | none => throw .missing

def isThere (t : Files) (path : String) : Bool := (t.find path).isOk

def isDirectory (t : Files) (path : String) : Bool :=
  match t.find path with
  | .ok .directory => true
  | _ => false

def read (t : Files) (path : String) : Except FileFault Bytes := do
  match ← t.find path with
  | .file content => return content
  | .directory => throw .isDirectory

def write (t : Files) (path : String) (content : Bytes) : Except FileFault Files := do
  let place ← t.place path
  match t.node? place with
  | some .directory => throw .isDirectory
  | some (.file _) =>
    if Path.asksDirectory path then throw .notDirectory
    else return t.insert place (.file content)
  | none =>
    match t.node? place.dropLast with
    | some .directory =>
      if Path.asksDirectory path then throw .isDirectory
      else return t.insert place (.file content)
    | some (.file _) => throw .notDirectory
    | none => throw .missing

def makeDirectory (t : Files) (path : String) : Except FileFault Files := do
  let place ← t.place path
  match t.node? place with
  | some _ => throw .exists
  | none =>
    match t.node? place.dropLast with
    | some .directory => return t.insert place .directory
    | some (.file _) => throw .notDirectory
    | none => throw .missing

/-- Makes the directories of a path that are missing. -/
def makeDirectories (t : Files) (path : String) : Except FileFault Files :=
  go ((Path.steps path).length + 1) path
where
  finish (t : Files) (path : String) : Except FileFault Files :=
    match t.makeDirectory path with
    | .ok t => .ok t
    | .error e => if t.isDirectory path then .ok t else .error e
  go : Nat → String → Except FileFault Files
    | 0, _ => .ok t
    | fuel + 1, path =>
      if path = "" then .ok t
      else match t.makeDirectory path with
        | .ok t => .ok t
        | .error .missing =>
          match Path.parent? path with
          | none => .error .missing
          | some parent => do finish (← go fuel parent) path
        | .error e => if t.isDirectory path then .ok t else .error e

/-- Adds a file and the directories above it. -/
def add (t : Files) (path : String) (content : Bytes) : Files :=
  let steps := Path.steps path
  let above := (List.range steps.length).map steps.take
  (above.foldl (fun t d => if (t.node? d).isSome then t else t.insert d .directory) t).insert
    steps (.file content)

/-- The files, by path. -/
def contents (t : Files) : List (List String × Bytes) :=
  t.nodes.filterMap fun (steps, n) => match n with
    | .file content => some (steps, content)
    | .directory => none

end Files

end LocalProxy
