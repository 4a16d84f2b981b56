import LocalProxy.Proofs.Text.Blanks

/-! The fields of a text, said by what the text is made of, and words up to the case of their
letters. Main statements: `fields_eq_iff` and `sameLetters_iff_upper`. -/
namespace LocalProxy.Text

section Fields

/-- The text is the parts with a separator between them, and no part holds one. -/
structure Separated (sep : Char) (s : String) (parts : List String) : Prop where
  filled : parts ≠ []
  joined : (String.singleton sep).intercalate parts = s
  free : ∀ part ∈ parts, sep ∉ part.toList

variable {sep : Char} {s : String} {parts : List String}

theorem pieces_eq_splitOn (s : List Char) : pieces sep s = s.splitOn sep := by
  induction s with
  | nil => rfl
  | cons c s ih =>
    rw [List.splitOn_cons_eq_if_modifyHead, pieces, ih]
    by_cases mark : c = sep
    · simp [mark]
    · have filled := List.splitOn_ne_nil sep s
      cases split : List.splitOn sep s with
      | nil => exact absurd split filled
      | cons first rest => simp [mark]

theorem notMem_pieces (s : List Char) : ∀ piece ∈ pieces sep s, sep ∉ piece := by
  fun_induction pieces sep s with
  | case1 => simp
  | case2 rest ih => simpa using ih
  | case3 c rest other none => simpa using Ne.symm other
  | case4 c rest other first more split ih =>
    rw [split, List.forall_mem_cons] at ih
    exact List.forall_mem_cons.mpr ⟨by simp [Ne.symm other, ih.1], ih.2⟩

/-- A text has just one way to be cut into fields. -/
theorem fields_eq_iff : fields sep s = parts ↔ Separated sep s parts := by
  constructor
  · rintro rfl
    refine ⟨?_, ?_, ?_⟩
    · simp [fields, pieces_eq_splitOn, List.splitOn_ne_nil]
    · rw [← String.toList_inj, String.toList_intercalate, String.toList_singleton, fields,
        List.map_map]
      have same : (String.toList ∘ String.ofList) = id := funext fun _ => String.toList_ofList
      rw [same, List.map_id, pieces_eq_splitOn, List.intercalate_splitOn]
    · intro part member
      obtain ⟨piece, listed, rfl⟩ := List.mem_map.mp member
      rw [String.toList_ofList]
      exact notMem_pieces s.toList piece listed
  · rintro ⟨filled, rfl, free⟩
    have split : pieces sep ((String.singleton sep).intercalate parts).toList =
        parts.map String.toList := by
      rw [pieces_eq_splitOn, String.toList_intercalate, String.toList_singleton]
      exact List.splitOn_intercalate sep (by simpa using free) (by simpa using filled)
    rw [fields, split, List.map_map]
    exact List.map_id'' (fun _ => String.ofList_toList) parts

theorem separated_fields (sep : Char) (s : String) : Separated sep s (fields sep s) :=
  fields_eq_iff.mp rfl

theorem Separated.fields (separated : Separated sep s parts) : Text.fields sep s = parts :=
  fields_eq_iff.mpr separated

/-- There is one separator less than there are parts. -/
theorem Separated.length (separated : Separated sep s parts) :
    parts.length = s.toList.count sep + 1 := by
  obtain ⟨filled, rfl, free⟩ := separated
  rw [String.toList_intercalate, String.toList_singleton]
  induction parts with
  | nil => exact absurd rfl filled
  | cons part parts ih =>
    obtain ⟨here, later⟩ := List.forall_mem_cons.mp free
    cases parts with
    | nil => simp [List.count_eq_zero.mpr here]
    | cons next parts =>
      rw [List.length_cons, ih (List.cons_ne_nil _ _) later]
      simp [List.intercalate_cons_cons, List.count_eq_zero.mpr here, Nat.add_comm]

theorem mem_intercalate (sep : Char) {c : Char}
    (member : c ∈ ((String.singleton sep).intercalate parts).toList) :
    c = sep ∨ ∃ part ∈ parts, c ∈ part.toList := by
  rw [String.toList_intercalate, String.toList_singleton] at member
  induction parts with
  | nil => exact absurd member List.not_mem_nil
  | cons part parts ih =>
    cases parts with
    | nil => exact .inr ⟨part, List.mem_cons_self, by simpa using member⟩
    | cons next parts =>
      rw [List.map_cons, List.map_cons, List.intercalate_cons_cons] at member
      simp only [List.mem_append, List.mem_singleton] at member
      rcases member with (here | mark) | later
      · exact .inr ⟨part, List.mem_cons_self, here⟩
      · exact .inl mark
      · exact (ih later).imp_right fun ⟨part, listed, inside⟩ =>
          ⟨part, List.mem_cons_of_mem _ listed, inside⟩

/-- A text without blanks has none to lose. -/
theorem trim_of_solid (solid : ∀ c ∈ s.toList, isBlank c = false) : trim s = s := by
  simpa using @trim_padded [] [] s.toList (by simp) solid (by simp)

/-- A field as it is once the blanks around it are off. -/
structure IsField (sep : Char) (s : String) : Prop where
  free : sep ∉ s.toList
  bare : trim s = s

theorem Separated.isField (separated : Separated sep s parts) :
    ∀ field ∈ parts.map trim, IsField sep field := by
  intro field member
  obtain ⟨part, listed, rfl⟩ := List.mem_map.mp member
  exact ⟨mt mem_of_mem_trim (separated.free part listed), trim_trim part⟩

/-- Fields are found again between the separators that join them. -/
theorem separated_of_isField (filled : parts ≠ []) (all : ∀ field ∈ parts, IsField sep field) :
    Separated sep ((String.singleton sep).intercalate parts) parts ∧ parts.map trim = parts :=
  ⟨⟨filled, rfl, fun field member => (all field member).free⟩,
    List.map_congr_left (fun field member => (all field member).bare) |>.trans (List.map_id _)⟩

end Fields

section Letters

theorem toNat_toLower (c : Char) :
    c.toLower.toNat = if 65 ≤ c.toNat ∧ c.toNat ≤ 90 then c.toNat + 32 else c.toNat := by
  have range : (c.val ≥ 'A'.val ∧ c.val ≤ 'Z'.val) ↔ 65 ≤ c.toNat ∧ c.toNat ≤ 90 := by
    simp [UInt32.le_iff_toNat_le]
  by_cases capital : 65 ≤ c.toNat ∧ c.toNat ≤ 90
  · have lowered : c.toLower = _ := dif_pos (range.mpr capital)
    rw [if_pos capital, lowered, ← Char.toNat_val]
    simp
    omega
  · have kept : c.toLower = c := dif_neg (mt range.mp capital)
    rw [if_neg capital, kept]

theorem toNat_toUpper (c : Char) :
    c.toUpper.toNat = if 97 ≤ c.toNat ∧ c.toNat ≤ 122 then c.toNat - 32 else c.toNat := by
  have range : ('a'.val ≤ c.val ∧ c.val ≤ 'z'.val) ↔ 97 ≤ c.toNat ∧ c.toNat ≤ 122 := by
    simp [UInt32.le_iff_toNat_le]
  by_cases small : 97 ≤ c.toNat ∧ c.toNat ≤ 122
  · have raised : c.toUpper = _ := dif_pos (range.mpr small)
    rw [if_pos small, raised, ← Char.toNat_val]
    simp
    omega
  · have kept : c.toUpper = c := dif_neg (mt range.mp small)
    rw [if_neg small, kept]

theorem upper_lower (s : String) : upper (lower s) = upper s := by
  have each : ∀ c : Char, c.toLower.toUpper = c.toUpper := fun c => by
    rw [← Char.toNat_inj, toNat_toUpper, toNat_toUpper, toNat_toLower]
    grind
  simp [upper, lower, Function.comp_def, each]

theorem lower_upper (s : String) : lower (upper s) = lower s := by
  have each : ∀ c : Char, c.toUpper.toLower = c.toLower := fun c => by
    rw [← Char.toNat_inj, toNat_toLower, toNat_toLower, toNat_toUpper]
    grind
  simp [upper, lower, Function.comp_def, each]

/-- Words are the same up to the case of their letters when they are so in capitals. -/
theorem sameLetters_iff_upper {a b : String} : sameLetters a b = true ↔ upper a = upper b := by
  rw [sameLetters, beq_iff_eq]
  constructor
  · intro same
    rw [← upper_lower a, same, upper_lower]
  · intro same
    rw [← lower_upper a, same, lower_upper]

theorem mem_upper {c : Char} {s : String} (member : c ∈ s.toList) :
    c.toUpper ∈ (upper s).toList := by
  rw [upper, String.toList_ofList]
  exact List.mem_map_of_mem member

end Letters

end LocalProxy.Text
