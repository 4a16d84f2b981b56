import LocalProxy.Text
import Mathlib.Data.List.TakeDrop

/-! The two parts of a `host:port` text: where it is cut, and which numerals a port may be. -/
namespace LocalProxy.Text

section Cut

variable {sep : Char} {s before after : List Char}

theorem splitAtLast_append (apart : sep ∉ after) :
    splitAtLast sep (before ++ sep :: after) = some (before, after) := by
  have kept : ∀ c ∈ after.reverse, decide (c ≠ sep) = true := by
    intro c member
    refine decide_eq_true fun same => apart ?_
    rwa [same, List.mem_reverse] at member
  rw [splitAtLast, List.reverse_append, List.reverse_cons, List.append_assoc,
    List.singleton_append, List.span_eq_takeWhile_dropWhile, List.takeWhile_append_of_pos kept,
    List.dropWhile_append_of_pos kept]
  simp

theorem splitAtLast_of_notMem (free : sep ∉ s) : splitAtLast sep s = none := by
  have kept : ∀ c ∈ s.reverse, decide (c ≠ sep) = true := by
    intro c member
    refine decide_eq_true fun same => free ?_
    rwa [same, List.mem_reverse] at member
  rw [splitAtLast, List.span_eq_takeWhile_dropWhile, ← List.append_nil s.reverse,
    List.dropWhile_append_of_pos kept]
  rfl

/-- Of the ways to cut a text at a character just one leaves none of it behind the cut. -/
theorem splitAtLast_eq_some_iff :
    splitAtLast sep s = some (before, after) ↔ s = before ++ sep :: after ∧ sep ∉ after := by
  constructor
  · intro cut
    by_cases member : sep ∈ s
    · obtain ⟨back, front, whole, apart⟩ := List.eq_append_cons_of_mem (List.mem_reverse.mpr member)
      have split : s = front.reverse ++ sep :: back.reverse := by
        rw [← List.reverse_reverse s, whole]
        simp
      rw [split, splitAtLast_append (by simpa using apart)] at cut
      cases cut
      exact ⟨split, by simpa using apart⟩
    · rw [splitAtLast_of_notMem member] at cut
      cases cut
  · rintro ⟨rfl, apart⟩
    exact splitAtLast_append apart

end Cut

section Numeral

variable {bound n : Nat} {s : List Char}

/-- Digits without a sign are read for their value. -/
theorem natBelow?_digits (present : s ≠ []) (digits : s.all isDigit = true)
    (below : digitsValue 10 s < bound) : natBelow? bound s = some (digitsValue 10 s) := by
  have sign : isDigit '+' = false := by decide
  rw [natBelow?]
  · simp [present, digits, below]
  · rintro rest rfl
    simp [sign] at digits

/-- A numeral holds digits, and a sign at most. -/
theorem natBelow?_plain (read : natBelow? bound s = some n) :
    s ≠ [] ∧ ∀ c ∈ s, c = '+' ∨ isDigit c = true := by
  unfold natBelow? at read
  obtain ⟨⟨present, digits⟩, -⟩ := Option.ite_none_right_eq_some.mp read
  rw [List.all_eq_true] at digits
  refine ⟨fun none => present (by rw [none]), ?_⟩
  split at digits
  next rest => exact List.forall_mem_cons.mpr ⟨.inl rfl, fun c member => .inr (digits c member)⟩
  next => exact fun c member => .inr (digits c member)

end Numeral

end LocalProxy.Text
