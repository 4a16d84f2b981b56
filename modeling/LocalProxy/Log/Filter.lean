import LocalProxy.Log.Record

/-! Which log records are written: a list of directives, each a threshold for the targets that
begin with some text or for all targets. -/
namespace LocalProxy

/-- Without a target a directive is for every record. No threshold lets nothing pass. -/
structure Directive where
  target : Option String
  threshold : Option Severity
deriving DecidableEq, Repr

structure LogFilter where
  directives : List Directive
deriving DecidableEq, Repr

namespace Directive

/-- The thresholds in the order of their numbers. -/
def thresholds : List (String × Option Severity) :=
  [("off", none), ("error", some .error), ("warn", some .warn), ("info", some .info),
   ("debug", some .debug), ("trace", some .trace)]

/-- A threshold by its number or its name. -/
def threshold? (s : String) : Option (Option Severity) :=
  match Text.natBelow? thresholds.length s.toList with
  | some n => thresholds[n]?.map (·.2)
  | none => (thresholds.find? fun t => Text.sameLetters t.1 s).map (·.2)

/-- The characters a directive may begin with. -/
def isStart (c : Char) : Bool :=
  c.isAlphanum || c == '-' || c == ':' || c == '_' || c == '[' || 128 ≤ c.toNat

/-- Reads `threshold`, `target` or `target=threshold`. A target without a threshold lets
everything pass. -/
def parse? (s : String) : Option Directive :=
  if !s.toList.head?.any isStart then none
  else match Text.splitOnce "=" s with
    | none =>
      match threshold? s with
      | some t => some ⟨none, t⟩
      | none => some ⟨some s, some .trace⟩
    | some (target, "") => some ⟨some target, some .trace⟩
    | some (target, level) => (threshold? level).map fun t => ⟨some target, t⟩

def covers (d : Directive) (target : String) : Bool :=
  d.target.all fun t => t.toList.isPrefixOf target.toList

/-- How much of a target a directive names. -/
def reach (d : Directive) : Nat := (d.target.map fun t => t.length + 1).getD 0

end Directive

namespace LogFilter

def ofThreshold (t : Option Severity) : LogFilter := ⟨[⟨none, t⟩]⟩

/-- Reads directives between commas. An empty text is a filter for errors alone. -/
def parse? (s : String) : Option LogFilter := do
  let parts := (Text.fields ',' s).filter (· ≠ "")
  let directives ← (parts.map Text.trim).mapM Directive.parse?
  return if directives = [] then ofThreshold (some .error) else ⟨directives⟩

/-- The directive that reaches farthest decides, and of two alike the later. -/
def deciding? (f : LogFilter) (target : String) : Option Directive :=
  (f.directives.filter (·.covers target)).foldl
    (fun best d => match best with
      | some b => if b.reach ≤ d.reach then some d else some b
      | none => some d) none

def passes (f : LogFilter) (target : String) (s : Severity) : Bool :=
  match f.deciding? target with
  | some d => Severity.passes d.threshold s
  | none => false

end LogFilter

end LocalProxy
