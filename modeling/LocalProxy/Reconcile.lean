/-! The work that turns the running set of resources into the wanted one. -/
namespace LocalProxy

structure Plan (κ : Type) where
  close : List κ
  create : List κ
deriving DecidableEq, Repr

namespace Plan

variable {κ : Type} [DecidableEq κ]

/-- The entries that occur for the first time, apart from those in `seen`. -/
def firsts (seen : List κ) : List κ → List κ
  | [] => []
  | k :: ks => if k ∈ seen then firsts seen ks else k :: firsts (k :: seen) ks

/-- Close what runs and is not wanted, in running order; create what is wanted and does not
run, in the order of first mention. -/
def between (running wanted : List κ) : Plan κ where
  close := running.filter (· ∉ wanted)
  create := (firsts [] wanted).filter (· ∉ running)

def size (p : Plan κ) : Nat := p.close.length + p.create.length

def isEmpty (p : Plan κ) : Bool := p.close.isEmpty && p.create.isEmpty

theorem mem_close {running wanted : List κ} {k : κ} :
    k ∈ (between running wanted).close ↔ k ∈ running ∧ k ∉ wanted := by
  simp [between]

theorem mem_firsts {seen ks : List κ} {k : κ} : k ∈ firsts seen ks ↔ k ∈ ks ∧ k ∉ seen := by
  induction ks generalizing seen with
  | nil => simp [firsts]
  | cons x xs ih =>
    by_cases h : x ∈ seen
    · simp only [firsts, h, if_true, ih, List.mem_cons]
      grind
    · simp only [firsts, h, if_false, List.mem_cons, ih]
      grind

theorem mem_create {running wanted : List κ} {k : κ} :
    k ∈ (between running wanted).create ↔ k ∈ wanted ∧ k ∉ running := by
  simp [between, mem_firsts]

end Plan

/-- What one reconciliation did. -/
structure Report (κ : Type) where
  closed : List κ
  created : List κ
  failed : List (κ × String)
deriving DecidableEq, Repr

namespace Report

variable {κ : Type}

def empty : Report κ := ⟨[], [], []⟩

def isNoop (r : Report κ) : Bool := r.closed.isEmpty && r.created.isEmpty && r.failed.isEmpty

end Report

end LocalProxy
