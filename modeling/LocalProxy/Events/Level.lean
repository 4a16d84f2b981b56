import LocalProxy.Text

/-! Log severities and thresholds. -/
namespace LocalProxy

/-- From the most to the least verbose; `silent` is a threshold only. -/
inductive Level
  | debug
  | info
  | warning
  | error
  | silent
deriving DecidableEq, Repr, Inhabited

namespace Level

def rank : Level → Nat
  | debug => 0
  | info => 1
  | warning => 2
  | error => 3
  | silent => 4

instance : LT Level := ⟨fun a b => a.rank < b.rank⟩

instance : LE Level := ⟨fun a b => a.rank ≤ b.rank⟩

instance (a b : Level) : Decidable (a < b) := inferInstanceAs (Decidable (a.rank < b.rank))

instance (a b : Level) : Decidable (a ≤ b) := inferInstanceAs (Decidable (a.rank ≤ b.rank))

def name : Level → String
  | debug => "debug"
  | info => "info"
  | warning => "warning"
  | error => "error"
  | silent => "silent"

/-- The word for the threshold in a filter directive. -/
def directive : Level → String
  | warning => "warn"
  | silent => "off"
  | level => level.name

/-- A record passes a threshold it is at or above; nothing passes `silent`. -/
def allows (threshold level : Level) : Bool := threshold ≠ silent && decide (threshold ≤ level)

/-- The level of a name, or the name as it was compared. -/
def parse (s : String) : Except String Level :=
  match Text.lower (Text.trim s) with
  | "debug" | "trace" => .ok debug
  | "info" => .ok info
  | "warning" | "warn" => .ok warning
  | "error" => .ok error
  | "silent" | "off" => .ok silent
  | other => .error other

def unknownMessage (name : String) : String := "unknown log level: " ++ name

theorem parse_name (l : Level) : parse l.name = .ok l := by
  cases l <;> rfl

end Level

end LocalProxy
