import LocalProxy.Events.Level
import LocalProxy.Json
import LocalProxy.Text.Quoted

/-! Log records: what is written, and how it reads as one line. -/
namespace LocalProxy

/-- How weighty a record is, the most detailed first. -/
inductive Severity
  | trace
  | debug
  | info
  | warn
  | error
deriving DecidableEq, Repr, Inhabited

namespace Severity

def all : List Severity := [trace, debug, info, warn, error]

def rank : Severity → Nat
  | trace => 0
  | debug => 1
  | info => 2
  | warn => 3
  | error => 4

def name : Severity → String
  | trace => "trace"
  | debug => "debug"
  | info => "info"
  | warn => "warn"
  | error => "error"

def label (s : Severity) : String := Text.upper s.name

/-- The level under which the log stream shows a record. -/
def level : Severity → Level
  | trace | debug => .debug
  | info => .info
  | warn => .warning
  | error => .error

/-- The least severity a threshold lets through. -/
def ofThreshold : Level → Option Severity
  | .debug => some debug
  | .info => some info
  | .warning => some warn
  | .error => some error
  | .silent => none

def passes (threshold : Option Severity) (s : Severity) : Bool :=
  threshold.any (·.rank ≤ s.rank)

end Severity

inductive FieldValue
  | text (s : String)
  | quoted (s : String)
  | int (n : Int)
  | flag (b : Bool)
deriving DecidableEq, Repr

namespace FieldValue

def shown : FieldValue → String
  | text s => s
  | quoted s => Text.quoted s
  | int n => toString n
  | flag b => if b then "true" else "false"

def json : FieldValue → Json
  | text s => .str s
  | quoted s => .str (Text.quoted s)
  | int n => .int n
  | flag b => .bool b

end FieldValue

structure Record where
  severity : Severity
  message : Option String
  fields : List (String × FieldValue)
deriving DecidableEq, Repr

namespace Record

def of (severity : Severity) (message : String) (fields : List (String × FieldValue) := []) :
    Record := ⟨severity, some message, fields⟩

/-- The fields as `name=value`, each after a blank. -/
def fieldText (r : Record) : String :=
  String.join (r.fields.map fun (name, value) => " " ++ name ++ "=" ++ value.shown)

/-- One line: the message, then the fields. -/
def payload (r : Record) : String :=
  let message := r.message.getD ""
  if r.fields.isEmpty then message
  else if message = "" then .ofList (Text.trimStart r.fieldText.toList)
  else message ++ r.fieldText

def json (r : Record) : Json :=
  .obj ((r.message.map fun m => ("message", .str m)).toList ++
    r.fields.map fun (name, value) => (name, value.json))

end Record

end LocalProxy
