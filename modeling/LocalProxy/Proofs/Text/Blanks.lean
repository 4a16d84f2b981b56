import LocalProxy.Text
import Mathlib.Data.List.DropRight

/-! A text that has lost the blanks at its ends, or a mark in front. It is a part of what it was; and
of blanks it has none to lose any more. -/
namespace LocalProxy.Text

theorem trimEnd_eq (s : List Char) : trimEnd s = s.rdropWhile isBlank := rfl

theorem trimEnd_initial (s : List Char) : trimEnd s <+: s := List.rdropWhile_prefix isBlank s

theorem trimStart_suffix (s : List Char) : trimStart s <:+ s := List.dropWhile_suffix isBlank

theorem trimEnd_eq_self_iff {s : List Char} :
    trimEnd s = s ↔ ∀ some : s ≠ [], isBlank (s.getLast some) = false := by
  rw [trimEnd_eq, List.rdropWhile_eq_self_iff]
  simp

/-- A text stays as it is if it has blanks neither in front nor at its end. -/
theorem trim_eq_self_iff {s : String} :
    trim s = s ↔ trimStart s.toList = s.toList ∧ trimEnd s.toList = s.toList := by
  rw [trim, ← String.toList_inj, String.toList_ofList]
  constructor
  · intro same
    have front : trimStart s.toList = s.toList := by
      refine (trimStart_suffix s.toList).eq_of_length_le ?_
      rw [← congrArg List.length same]
      exact (trimEnd_initial _).length_le
    exact ⟨front, by rwa [front] at same⟩
  · rintro ⟨front, back⟩
    rw [front, back]

theorem trim_trim (s : String) : trim (trim s) = trim s := by
  rw [trim_eq_self_iff, trim, String.toList_ofList]
  refine ⟨?_, List.rdropWhile_idempotent isBlank _⟩
  -- What is left begins as the text does that has lost the blanks in front.
  have bare : trimStart (trimStart s.toList) = trimStart s.toList :=
    List.dropWhile_idempotent isBlank _
  refine List.dropWhile_eq_self_iff.mpr fun some => ?_
  rw [(trimEnd_initial _).getElem]
  exact List.dropWhile_eq_self_iff.mp bare _

theorem mem_of_mem_trim {s : String} {c : Char} (member : c ∈ (trim s).toList) :
    c ∈ s.toList := by
  rw [trim, String.toList_ofList] at member
  exact (trimStart_suffix _).subset ((trimEnd_initial _).subset member)

/-- Blanks around a text that has none are all that it loses. -/
theorem trim_padded {front back s : List Char} (before : ∀ c ∈ front, isBlank c = true)
    (solid : ∀ c ∈ s, isBlank c = false) (after : ∀ c ∈ back, isBlank c = true) :
    trim (.ofList (front ++ s ++ back)) = .ofList s := by
  have stays : ∀ t : List Char, (∀ c ∈ t, isBlank c = false) → t.dropWhile isBlank = t := by
    intro t solid
    cases t with
    | nil => rfl
    | cons c t => exact List.dropWhile_cons_of_neg (by simp [solid c])
  have cut : trimStart (front ++ s ++ back) = s ++ back ∨
      s = [] ∧ trimStart (front ++ s ++ back) = [] := by
    rw [trimStart, List.append_assoc, List.dropWhile_append_of_pos before]
    cases s with
    | nil => exact .inr ⟨rfl, List.dropWhile_eq_nil_iff.mpr after⟩
    | cons c s => exact .inl (List.dropWhile_cons_of_neg (by simp [solid c]))
  rw [trim, String.toList_ofList]
  congr 1
  rcases cut with left | ⟨rfl, left⟩
  · rw [left, trimEnd, List.reverse_append, List.dropWhile_append_of_pos (by simpa using after),
      stays _ (by simpa using solid), List.reverse_reverse]
  · rw [left]
    rfl

/-- A text is what trimming leaves with blanks around it. -/
theorem exists_padded (s : List Char) : ∃ front back, s = front ++ trimEnd (trimStart s) ++ back ∧
    (∀ c ∈ front, isBlank c = true) ∧ ∀ c ∈ back, isBlank c = true := by
  refine ⟨s.takeWhile isBlank, ((trimStart s).reverse.takeWhile isBlank).reverse, ?_,
    fun c => List.mem_takeWhile_imp, fun c member => List.mem_takeWhile_imp
      (List.mem_reverse.mp member)⟩
  have back : trimEnd (trimStart s) ++ ((trimStart s).reverse.takeWhile isBlank).reverse =
      trimStart s := by
    rw [trimEnd, ← List.reverse_append, List.takeWhile_append_dropWhile, List.reverse_reverse]
  rw [List.append_assoc, back, trimStart, List.takeWhile_append_dropWhile]

theorem stripStart_eq_some {mark s rest : String} :
    stripStart mark s = some rest ↔ s = mark ++ rest := by
  simp only [stripStart, Option.map_eq_some_iff, List.isPrefixOf?_eq_some_iff_append_eq,
    ← String.toList_inj, String.toList_append]
  constructor
  · rintro ⟨after, split, same⟩
    rw [← same, String.toList_ofList]
    exact split.symm
  · intro split
    exact ⟨rest.toList, split.symm, String.toList_ofList⟩

end LocalProxy.Text
