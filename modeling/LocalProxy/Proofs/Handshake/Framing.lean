import LocalProxy.Proofs.Handshake.Arrival
import LocalProxy.Proofs.Handshake.Lines

/-! Where a head ends that is written line by line. The first empty line of lines that are unbroken
and hold something is the one after the last of them, whatever follows. -/
namespace LocalProxy.Handshake

open Text

/-- The octets of a line end. -/
def lineFeed : Bytes := [13, 10]

section Octets

variable {c : Char} {l : List Char} {s : Bytes}

theorem utf8_eq_nil_iff : utf8 (.ofList l) = [] ↔ l = [] := by
  rw [utf8_ofList, List.flatMap_eq_nil_iff]
  refine ⟨fun none => List.eq_nil_iff_forall_not_mem.mpr fun c member => ?_, by rintro rfl; simp⟩
  exact String.utf8EncodeChar_ne_nil (none c member)

/-- A line end that begins within an octet sequence of more than ASCII does not. -/
theorem lineFeed_infix_of_wide {octets : Bytes} (wide : ∀ b ∈ octets, 128 ≤ b)
    (broken : lineFeed <:+: octets ++ s) : lineFeed <:+: s := by
  induction octets with
  | nil => exact broken
  | cons b octets ih =>
    obtain ⟨here, later⟩ := List.forall_mem_cons.mp wide
    rw [List.cons_append, List.infix_cons_iff] at broken
    refine broken.elim (fun starts => ?_) (ih later)
    obtain ⟨rfl, -⟩ := List.cons_prefix_cons.mp starts
    exact absurd here (by decide)

theorem eq_of_octet {b : UInt8} (small : b < 128) (member : b ∈ String.utf8EncodeChar c) :
    c.toNat = b.toNat := by
  by_cases ascii : c.toNat < 128
  · rw [utf8EncodeChar_ascii ascii, List.mem_singleton] at member
    rw [member, UInt8.toNat_ofNat_of_lt' (Nat.lt_of_lt_of_le ascii (by decide))]
  · have wide := le_of_mem_utf8EncodeChar (Nat.not_lt.mp ascii) member
    exact absurd small (by simpa using wide)

theorem lineEnd_begins (starts : lineFeed <+: String.utf8EncodeChar c ++ l.flatMap String.utf8EncodeChar)
    (ascii : c.toNat < 128) : ProxyRequest.lineEnd <+: c :: l := by
  rw [utf8EncodeChar_ascii ascii, List.singleton_append] at starts
  obtain ⟨first, second⟩ := List.cons_prefix_cons.mp starts
  have cr : c = '\r' := Char.toNat_inj.mp <| eq_of_octet (b := 13) (by decide) (by
    rw [utf8EncodeChar_ascii ascii, ← first]
    exact List.mem_cons_self)
  cases l with
  | nil => simp at second
  | cons d l =>
    have lf : d = '\n' := Char.toNat_inj.mp <| eq_of_octet (b := 10) (by decide) (by
      cases octets : String.utf8EncodeChar d with
      | nil => exact absurd octets String.utf8EncodeChar_ne_nil
      | cons b rest =>
        rw [List.flatMap_cons, octets, List.cons_append] at second
        rw [(List.cons_prefix_cons.mp second).1]
        exact List.mem_cons_self)
    exact ⟨l, by rw [cr, lf]; rfl⟩

/-- A text is unbroken as its octets are. -/
theorem utf8_unbroken (unbroken : ProxyRequest.Unbroken l) : ¬ lineFeed <:+: utf8 (.ofList l) := by
  rw [utf8_ofList]
  induction l with
  | nil => simp [lineFeed]
  | cons c l ih =>
    obtain ⟨away, unbroken⟩ := ProxyRequest.unbroken_cons.mp unbroken
    intro broken
    rw [List.flatMap_cons] at broken
    by_cases ascii : c.toNat < 128
    · have starts_or := broken
      rw [utf8EncodeChar_ascii ascii, List.singleton_append, List.infix_cons_iff,
        ← List.singleton_append, ← utf8EncodeChar_ascii ascii] at starts_or
      exact starts_or.elim (fun starts => away (lineEnd_begins starts ascii)) (ih unbroken)
    · exact ih unbroken (lineFeed_infix_of_wide
        (fun b => le_of_mem_utf8EncodeChar (Nat.not_lt.mp ascii)) broken)

end Octets

section Lines

variable {l s : Bytes} {ls : List Bytes} {size : Nat}

/-- A line that is not broken is passed over up to its end. -/
theorem headEnds_skip (unbroken : ¬ lineFeed <:+: l) :
    HeadEnds (l ++ lineFeed ++ s) (l.length + size) ↔ HeadEnds (lineFeed ++ s) size := by
  induction l with
  | nil => simp
  | cons b l ih =>
    rw [List.infix_cons_iff, not_or] at unbroken
    have away : ¬ emptyLine <+: b :: (l ++ lineFeed ++ s) := by
      rintro starts
      refine unbroken.1 ?_
      cases l with
      | nil => simp [emptyLine, lineFeed] at starts
      | cons d l => simp_all [emptyLine, lineFeed]
    rw [List.cons_append, List.cons_append, headEnds_cons away, ← ih unbroken.2]
    constructor
    · rintro ⟨n, ends, same⟩
      obtain rfl : n = l.length + size := by simp only [List.length_cons] at same; omega
      exact ends
    · exact fun ends => ⟨_, ends, by simp only [List.length_cons]; omega⟩

/-- Lines that each end are followed by an empty one. -/
def framed (ls : List Bytes) : Bytes := ls.flatMap (· ++ lineFeed) ++ lineFeed

/-- Lines are written octet by octet. -/
theorem utf8_lines (ls : List (List Char)) :
    utf8 (.ofList (ls.flatMap (· ++ ProxyRequest.lineEnd) ++ ProxyRequest.lineEnd)) =
      framed (ls.map fun l => utf8 (.ofList l)) := by
  have ends : utf8 (.ofList ProxyRequest.lineEnd) = lineFeed := by decide
  induction ls with
  | nil => exact ends
  | cons l ls ih =>
    rw [List.flatMap_cons, List.append_assoc, String.ofList_append, utf8_append, ih,
      String.ofList_append, utf8_append, ends, List.map_cons]
    simp [framed]

/-- The head that some lines make ends with the empty line after them. -/
theorem headEnds_framed (filled : ls ≠ []) (each : ∀ l ∈ ls, l ≠ [] ∧ ¬ lineFeed <:+: l) :
    HeadEnds (framed ls) (framed ls).length := by
  induction ls with
  | nil => exact absurd rfl filled
  | cons l ls ih =>
    obtain ⟨⟨-, unbroken⟩, later⟩ := List.forall_mem_cons.mp each
    have whole : framed (l :: ls) = l ++ lineFeed ++ framed ls := by simp [framed]
    have length : (framed (l :: ls)).length = l.length + (2 + (framed ls).length) := by
      rw [whole]
      simp only [List.length_append, lineFeed, List.length_cons, List.length_nil]
      omega
    rw [length, whole, headEnds_skip unbroken]
    cases ls with
    | nil => exact Iff.mpr ( headEnds_cons_of_prefix ⟨[], rfl⟩) rfl
    | cons next ls =>
      obtain ⟨⟨holds, unbroken⟩, -⟩ := List.forall_mem_cons.mp later
      have goes_on : ¬ lineFeed <+: framed (next :: ls) := by
        intro starts
        refine unbroken (List.IsPrefix.isInfix ?_)
        cases next with
        | nil => exact absurd rfl holds
        | cons b next => cases next <;> simp_all [framed, lineFeed]
      have away : ¬ emptyLine <+: 13 :: 10 :: framed (next :: ls) := by
        simpa [emptyLine, lineFeed] using goes_on
      have apart : ¬ emptyLine <+: 10 :: framed (next :: ls) := by simp [emptyLine]
      have ends := ih (List.cons_ne_nil _ _) later
      refine (headEnds_cons away).mpr ⟨_, (headEnds_cons apart).mpr ⟨_, ends, rfl⟩, ?_⟩
      omega

end Lines

end LocalProxy.Handshake
