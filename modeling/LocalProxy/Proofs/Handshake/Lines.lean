import LocalProxy.Handshake.ProxyRequest
import Mathlib.Data.List.Infix

/-! The lines and the words of a text, said by what the text is made of. Main statements:
`lines_eq_iff` and `words_eq_iff`. -/
namespace LocalProxy.ProxyRequest

open Text

section Lines

def lineEnd : List Char := ['\r', '\n']

/-- No line ends within the text. CR and LF may stand in it apart from one another. -/
def Unbroken (s : List Char) : Prop := ¬ lineEnd <:+: s

variable {c : Char} {l s : List Char} {ls : List (List Char)}

theorem unbroken_cons : Unbroken (c :: s) ↔ ¬ lineEnd <+: c :: s ∧ Unbroken s := by
  rw [Unbroken, List.infix_cons_iff, not_or, Unbroken]

/-- A text without CR is unbroken. -/
theorem unbroken_of_notMem (free : '\r' ∉ s) : Unbroken s := fun broken =>
  free (broken.subset (by simp [lineEnd]))

theorem lines_cons (away : ¬ lineEnd <+: c :: s) :
    lines (c :: s) = match lines s with
      | [] => [[c]]
      | line :: more => (c :: line) :: more := by
  have apart : ∀ rest, c = '\r' → s = '\n' :: rest → False := by
    rintro rest rfl rfl
    exact away ⟨rest, rfl⟩
  exact lines.eq_3 c s apart

/-- A line end that is begun by a line goes on within it. -/
theorem away_append (away : ¬ lineEnd <+: c :: l) : ¬ lineEnd <+: c :: (l ++ lineEnd ++ s) := by
  cases l with
  | nil => simp [lineEnd]
  | cons d l => simpa [lineEnd] using away

theorem lines_append (unbroken : Unbroken l) : lines (l ++ lineEnd ++ s) = l :: lines s := by
  induction l with
  | nil => rfl
  | cons c l ih =>
    obtain ⟨away, unbroken⟩ := unbroken_cons.mp unbroken
    rw [List.cons_append, List.cons_append, lines_cons (away_append away), ih unbroken]

theorem lines_unbroken (unbroken : Unbroken l) : lines l = [l] := by
  induction l with
  | nil => rfl
  | cons c l ih =>
    obtain ⟨away, unbroken⟩ := unbroken_cons.mp unbroken
    rw [lines_cons away, ih unbroken]

theorem lines_intercalate (filled : ls ≠ []) (unbroken : ∀ l ∈ ls, Unbroken l) :
    lines (lineEnd.intercalate ls) = ls := by
  induction ls with
  | nil => exact absurd rfl filled
  | cons l ls ih =>
    obtain ⟨here, later⟩ := List.forall_mem_cons.mp unbroken
    cases ls with
    | nil => rw [List.intercalate_singleton, lines_unbroken here]
    | cons next ls =>
      rw [List.intercalate_cons_cons, lines_append here, ih (List.cons_ne_nil _ _) later]

/-- The lines make up the text, and none of them is broken. -/
theorem lines_spec (s : List Char) :
    lines s ≠ [] ∧ lineEnd.intercalate (lines s) = s ∧ ∀ l ∈ lines s, Unbroken l := by
  fun_induction lines s with
  | case1 => simp [Unbroken, lineEnd]
  | case2 rest ih =>
    obtain ⟨filled, whole, unbroken⟩ := ih
    refine ⟨List.cons_ne_nil _ _, ?_, ?_⟩
    · obtain ⟨line, more, split⟩ := List.exists_cons_of_ne_nil filled
      rw [split, List.intercalate_cons_cons, ← split, whole]
      rfl
    · exact List.forall_mem_cons.mpr ⟨by simp [Unbroken, lineEnd], unbroken⟩
  | case3 c rest away none ih => exact absurd none ih.1
  | case4 c rest away line more split ih =>
    obtain ⟨-, whole, unbroken⟩ := ih
    rw [split] at whole unbroken
    obtain ⟨here, later⟩ := List.forall_mem_cons.mp unbroken
    have front : line <+: rest := by
      rw [← whole]
      cases more <;> simp [List.intercalate_cons_cons]
    refine ⟨List.cons_ne_nil _ _, ?_, List.forall_mem_cons.mpr ⟨?_, later⟩⟩
    · rw [← whole]
      cases more <;> simp [List.intercalate_cons_cons]
    · refine unbroken_cons.mpr ⟨fun starts => ?_, here⟩
      obtain ⟨after, begun⟩ := starts.trans (List.cons_prefix_cons.mpr ⟨rfl, front⟩)
      obtain ⟨rfl, rfl⟩ := List.cons.inj begun
      exact away after rfl rfl

/-- A text has just one way to be cut into lines. -/
theorem lines_eq_iff :
    lines s = ls ↔ ls ≠ [] ∧ lineEnd.intercalate ls = s ∧ ∀ l ∈ ls, Unbroken l := by
  constructor
  · rintro rfl
    exact lines_spec s
  · rintro ⟨filled, rfl, unbroken⟩
    exact lines_intercalate filled unbroken

end Lines

section Words

/-- Words with blanks around them. -/
inductive Worded : List Char → List (List Char) → Prop
  | none {blanks : List Char} (blank : ∀ c ∈ blanks, isBlank c = true) : Worded blanks []
  | word {blanks word rest : List Char} {more : List (List Char)}
      (blank : ∀ c ∈ blanks, isBlank c = true) (filled : word ≠ [])
      (solid : ∀ c ∈ word, isBlank c = false)
      (apart : ∀ c, rest.head? = some c → isBlank c = true) (later : Worded rest more) :
      Worded (blanks ++ word ++ rest) (word :: more)

variable {c : Char} {word rest blanks s : List Char} {ws more : List (List Char)}

theorem words_blanks (blank : ∀ c ∈ blanks, isBlank c = true) :
    words (blanks ++ rest) = words rest := by
  induction blanks with
  | nil => rfl
  | cons c blanks ih =>
    obtain ⟨here, blank⟩ := List.forall_mem_cons.mp blank
    rw [List.cons_append, words, if_pos here, ih blank]

/-- The last character of a word. -/
theorem words_last (solid : isBlank c = false)
    (apart : ∀ d, rest.head? = some d → isBlank d = true) : words (c :: rest) = [c] :: words rest := by
  rw [words]
  simp only [solid, Bool.false_eq_true, if_false]
  cases rest with
  | nil => rfl
  | cons d rest =>
    cases found : words (d :: rest) <;> simp [apart d rfl]

theorem words_word (filled : word ≠ []) (solid : ∀ c ∈ word, isBlank c = false)
    (apart : ∀ c, rest.head? = some c → isBlank c = true) :
    words (word ++ rest) = word :: words rest := by
  induction word with
  | nil => exact absurd rfl filled
  | cons c word ih =>
    obtain ⟨here, later⟩ := List.forall_mem_cons.mp solid
    cases word with
    | nil => exact words_last here apart
    | cons d word =>
      have next := ih (List.cons_ne_nil _ _) later
      rw [List.cons_append] at next
      rw [List.cons_append, List.cons_append, words]
      simp [here, later d List.mem_cons_self, next]

theorem Worded.cons (worded : Worded rest ws) (blank : isBlank c = true) : Worded (c :: rest) ws := by
  cases worded with
  | none blanks => exact .none (List.forall_mem_cons.mpr ⟨blank, blanks⟩)
  | word blanks filled solid apart later =>
    exact .word (List.forall_mem_cons.mpr ⟨blank, blanks⟩) filled solid apart later

/-- No word is empty or has a blank in it. -/
theorem Worded.solid (worded : Worded s ws) : ∀ w ∈ ws, w ≠ [] ∧ ∀ c ∈ w, isBlank c = false := by
  induction worded with
  | none => simp
  | word blank filled solid apart later ih => exact List.forall_mem_cons.mpr ⟨⟨filled, solid⟩, ih⟩

/-- A word that ends where a blank or nothing follows. -/
theorem Worded.begin (worded : Worded rest ws) (solid : isBlank c = false)
    (apart : ∀ d, rest.head? = some d → isBlank d = true) : Worded (c :: rest) ([c] :: ws) :=
  show Worded ([] ++ [c] ++ rest) ([c] :: ws) from
    .word (by simp) (List.cons_ne_nil _ _) (by simpa using solid) apart worded

/-- A word that goes on where no blank follows. -/
theorem Worded.extend (worded : Worded rest (word :: more)) (solid : isBlank c = false) {d : Char}
    (next : rest.head? = some d) (joined : isBlank d = false) :
    Worded (c :: rest) ((c :: word) :: more) := by
  obtain _ | ⟨blank, filled, inner, apart, later⟩ := worded
  rename_i blanks after
  cases blanks with
  | nil =>
    change Worded ([] ++ (c :: word) ++ after) ((c :: word) :: more)
    exact .word (by simp) (List.cons_ne_nil _ _) (List.forall_mem_cons.mpr ⟨solid, inner⟩) apart
      later
  | cons b blanks =>
    obtain rfl : b = d := by simpa using next
    exact absurd (blank b List.mem_cons_self) (by simp [joined])

theorem worded_words (s : List Char) : Worded s (words s) := by
  fun_induction words s with
  | case1 => exact .none (by simp)
  | case2 c rest blank ih => exact ih.cons blank
  | case3 c rest solid d word more found next blank ih =>
    rw [found] at ih
    refine ih.begin (by simpa using solid) fun e same => ?_
    obtain rfl := Option.some.inj (next.symm.trans same)
    exact blank
  | case4 c rest solid d word more found next joined ih =>
    exact (found ▸ ih).extend (by simpa using solid) next (by simpa using joined)
  | case5 c rest solid alone ih =>
    refine ih.begin (by simpa using solid) fun d next => ?_
    cases found : words rest with
    | cons word more => exact (alone d word more next found).elim
    | nil =>
      rw [found] at ih
      obtain ⟨blank⟩ := ih
      exact blank d (List.mem_of_mem_head? next)

/-- The words of a text are the stretches between its blanks. -/
theorem words_eq_iff : words s = ws ↔ Worded s ws := by
  constructor
  · rintro rfl
    exact worded_words s
  · intro worded
    induction worded with
    | @none blanks blank => rw [← List.append_nil blanks, words_blanks blank, words]
    | word blank filled solid apart later ih =>
      rw [List.append_assoc, words_blanks blank, words_word filled solid apart, ih]

end Words

end LocalProxy.ProxyRequest
