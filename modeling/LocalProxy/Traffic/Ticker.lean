import LocalProxy.Traffic.Statistics

/-! The clock of the traffic samples: one at once, then one at each full second since. Seconds
that went by unnoticed are not made up for. Times are in milliseconds. -/
namespace LocalProxy

/-- When the next sample is due. -/
structure Ticker where
  due : Nat
deriving DecidableEq, Repr

namespace Ticker

def period : Nat := 1000

/-- Takes a sample if one is due. The next one is due at the next full second. -/
def elapse (t : Ticker) (now : Nat) (s : Statistics) : Ticker × Statistics :=
  if t.due ≤ now then (⟨now + period - (now - t.due) % period⟩, s.tick) else (t, s)

def start (now : Nat) (s : Statistics) : Ticker × Statistics := elapse ⟨now⟩ now s

end Ticker

end LocalProxy
