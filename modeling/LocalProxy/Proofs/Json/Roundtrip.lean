import LocalProxy.Json.Reader
import Mathlib.Tactic.Common

/-! What is written is read back: strings whatever their characters, and lists and records of what
is read back itself. A reader takes the octets of its value and leaves the rest as it is. -/
namespace LocalProxy

namespace Text

theorem utf8_singleton (c : Char) : utf8 (String.singleton c) = String.utf8EncodeChar c := by
  rw [utf8_eq, String.toList_singleton, List.flatMap_singleton]

theorem utf8_commas (parts : List String) :
    utf8 (",".intercalate parts) = List.intercalate [0x2C] (parts.map utf8) := by
  have comma : ",".toList.flatMap String.utf8EncodeChar = [0x2C] := by decide
  rw [utf8_eq, String.toList_intercalate]
  induction parts with
  | nil => rfl
  | cons s rest ih =>
    cases rest with
    | nil => simp [utf8_eq]
    | cons t rest =>
      simp only [List.map_cons, List.intercalate_cons_cons, List.flatMap_append, comma] at ih ⊢
      rw [ih, ← utf8_eq]

end Text

namespace Json

open Text

/-- An octet that stands for itself in a string. -/
def Plain (b : UInt8) : Prop := b ≠ 0x22 ∧ b ≠ 0x5C ∧ 0x20 ≤ b

/-- How a character is written in a string. -/
inductive Written (c : Char) : List Char → Prop
  | short {x : Char} (ascii : x.toNat < 128)
      (stands : simpleEscape (UInt8.ofNat x.toNat) = some c) : Written c ['\\', x]
  | long (control : c.toNat < 0x20) :
      Written c (['\\', 'u', '0', '0'] ++ hexByte c.toNat.toUInt8)
  | plain (quote : c ≠ '"') (backslash : c ≠ '\\') (visible : 0x20 ≤ c.toNat) : Written c [c]

theorem written_escapeChar (c : Char) : Written c (escapeChar c) := by
  unfold escapeChar
  split
  iterate 7 exact .short (by decide) (by decide)
  split
  · exact .long ‹_›
  · exact .plain ‹_› ‹_› (Nat.le_of_not_lt ‹_›)

/-- The octets of a character that needs no escape stand for themselves. -/
theorem plain_of_mem {c : Char} (quote : c ≠ '"') (backslash : c ≠ '\\')
    (visible : 0x20 ≤ c.toNat) {b : UInt8} (member : b ∈ String.utf8EncodeChar c) : Plain b := by
  rcases Nat.lt_or_ge c.toNat 128 with ascii | wide
  · rw [utf8EncodeChar_ascii ascii, List.mem_singleton] at member
    have same : b.toNat = c.toNat := by
      rw [member, UInt8.toNat_ofNat']
      omega
    have other : ∀ x : Char, c ≠ x → b.toNat ≠ x.toNat := fun x differ equal =>
      differ (Char.toNat_inj.mp (same.symm.trans equal))
    refine ⟨fun is => other '"' quote (by rw [is]; rfl),
      fun is => other '\\' backslash (by rw [is]; rfl), UInt8.le_iff_toNat_le.mpr ?_⟩
    rw [same]
    exact visible
  · have large := UInt8.le_iff_toNat_le.mp (le_of_mem_utf8EncodeChar wide member)
    refine ⟨?_, ?_, UInt8.le_iff_toNat_le.mpr (Nat.le_trans (by decide) large)⟩
    all_goals
      rintro rfl
      exact absurd large (by decide)

/-- Octets that stand for themselves are taken one by one. -/
theorem stringOctets_plain {octets : Bytes} (plain : ∀ b ∈ octets, Plain b) (done : List Bytes)
    (rest : Bytes) :
    ∃ done', done'.reverse.flatten = done.reverse.flatten ++ octets ∧
      ∀ fuel, stringOctets (fuel + octets.length) done (octets ++ rest) =
        stringOctets fuel done' rest := by
  induction octets generalizing done with
  | nil => exact ⟨done, (List.append_nil _).symm, fun _ => rfl⟩
  | cons b octets ih =>
    obtain ⟨⟨quote, backslash, visible⟩, later⟩ := List.forall_mem_cons.mp plain
    obtain ⟨done', all, goes⟩ := ih later ([b] :: done)
    refine ⟨done', by rw [all]; simp, fun fuel => ?_⟩
    rw [← goes, List.length_cons, ← Nat.add_assoc, List.cons_append, stringOctets]
    simp [quote, backslash, UInt8.not_lt.mpr visible]

theorem readHex4_control {n : Nat} (control : n < 0x20) (rest : Bytes) :
    readHex4 (0x30 :: 0x30 :: ((hexByte n.toUInt8).flatMap String.utf8EncodeChar ++ rest)) =
      .ok (n, rest) := by
  have digits : ∀ k : Fin 0x20,
      let a := UInt8.ofNat (hexDigit (k.val.toUInt8.toNat / 16)).toNat
      let b := UInt8.ofNat (hexDigit (k.val.toUInt8.toNat % 16)).toNat
      (hexByte k.val.toUInt8).flatMap String.utf8EncodeChar = [a, b] ∧
        (([0x30, 0x30, a, b].map octetChar).all fun x => (digitValue 16 x).isSome) = true ∧
        digitsValue 16 ([0x30, 0x30, a, b].map octetChar) = k.val := by
    decide
  obtain ⟨octets, valid, value⟩ := digits ⟨n, control⟩
  dsimp only at octets valid value
  rw [octets]
  simp only [List.cons_append, List.nil_append, readHex4, valid, value, if_true]

theorem readEscape_short {b : UInt8} {c : Char} (stands : simpleEscape b = some c) (rest : Bytes) :
    readEscape (b :: rest) = .ok (c, rest) := by
  unfold readEscape
  split
  · rename_i same
    obtain ⟨rfl, -⟩ := List.cons.inj same
    cases stands
  · rename_i same
    obtain ⟨rfl, rfl⟩ := List.cons.inj same
    rw [stands]
  · cases ‹_ = []›

theorem readEscape_control {c : Char} (control : c.toNat < 0x20) (rest : Bytes) :
    readEscape (0x75 :: 0x30 :: 0x30 ::
      ((hexByte c.toNat.toUInt8).flatMap String.utf8EncodeChar ++ rest)) = .ok (c, rest) := by
  have low : ¬ (0xD800 ≤ c.toNat ∧ c.toNat < 0xDC00) := by omega
  have high : ¬ (0xDC00 ≤ c.toNat ∧ c.toNat < 0xE000) := by omega
  simp only [readEscape, readHex4_control control, bind, Except.bind, low, high, if_false,
    Char.ofNat_toNat, pure, Except.pure]

theorem stringOctets_escape {s rest : Bytes} {c : Char} (escape : readEscape s = .ok (c, rest))
    (fuel : Nat) (done : List Bytes) :
    stringOctets (fuel + 1) done (0x5C :: s) =
      stringOctets fuel (utf8 (String.singleton c) :: done) rest := by
  simp [stringOctets, escape, bind, Except.bind]

/-- However a character is written, it is taken for itself. -/
theorem stringOctets_written {c : Char} {s : List Char} (written : Written c s)
    (done : List Bytes) (rest : Bytes) :
    ∃ done' more, done'.reverse.flatten = done.reverse.flatten ++ String.utf8EncodeChar c ∧
      more ≤ (s.flatMap String.utf8EncodeChar).length ∧
      ∀ fuel, stringOctets (fuel + more) done (s.flatMap String.utf8EncodeChar ++ rest) =
        stringOctets fuel done' rest := by
  have escaped : (utf8 (String.singleton c) :: done).reverse.flatten =
      done.reverse.flatten ++ String.utf8EncodeChar c := by simp [utf8_singleton]
  have backslash : String.utf8EncodeChar '\\' = [0x5C] := by decide
  cases written with
  | short ascii stands =>
    refine ⟨_, 1, escaped, by simp [backslash], fun fuel => ?_⟩
    simp only [List.flatMap_cons, List.flatMap_nil, backslash, utf8EncodeChar_ascii ascii,
      List.cons_append, List.nil_append]
    exact stringOctets_escape (readEscape_short stands rest) fuel done
  | long control =>
    have start : ['\\', 'u', '0', '0'].flatMap String.utf8EncodeChar = [0x5C, 0x75, 0x30, 0x30] := by
      decide
    refine ⟨_, 1, escaped, by simp [backslash], fun fuel => ?_⟩
    rw [List.flatMap_append, start, List.append_assoc]
    exact stringOctets_escape (readEscape_control control rest) fuel done
  | plain quote slash visible =>
    obtain ⟨done', all, goes⟩ := stringOctets_plain
      (fun b member => plain_of_mem quote slash visible member) done rest
    rw [List.flatMap_singleton]
    exact ⟨done', _, all, Nat.le_refl _, goes⟩

/-- A string is taken up to its closing quote. -/
theorem stringOctets_quoted (s : List Char) {fuel : Nat} (done : List Bytes) (rest : Bytes)
    (enough : ((escape s).flatMap String.utf8EncodeChar).length < fuel) :
    stringOctets fuel done ((escape s).flatMap String.utf8EncodeChar ++ 0x22 :: rest) =
      .ok (done.reverse.flatten ++ s.flatMap String.utf8EncodeChar, rest) := by
  induction s generalizing fuel done with
  | nil =>
    obtain ⟨fuel, rfl⟩ := Nat.exists_eq_add_of_lt enough
    simp [escape, stringOctets]
  | cons c s ih =>
    have split : escape (c :: s) = escapeChar c ++ escape s := rfl
    rw [split, List.flatMap_append, List.length_append] at enough
    rw [split, List.flatMap_append, List.append_assoc]
    obtain ⟨done', more, all, few, goes⟩ := stringOctets_written (written_escapeChar c) done
      ((escape s).flatMap String.utf8EncodeChar ++ 0x22 :: rest)
    have there : fuel = fuel - more + more := by omega
    rw [there, goes, ih done' (by omega), all, List.append_assoc]
    rfl

/-- What follows the opening quote of a string. -/
def quoted (s : String) : Bytes := (escape s.toList).flatMap String.utf8EncodeChar ++ [0x22]

theorem utf8_quote (s : String) : utf8 (quote s) = 0x22 :: quoted s := by
  have mark : utf8 "\"" = [0x22] := by decide
  rw [quote, utf8_append, utf8_append, mark, utf8_ofList]
  rfl

/-- However a character is written, none of its octets is a control character. -/
theorem Written.visible {c : Char} {s : List Char} (written : Written c s) :
    ∀ b ∈ s.flatMap String.utf8EncodeChar, 0x20 ≤ b := by
  have backslash : String.utf8EncodeChar '\\' = [0x5C] := by decide
  cases written with
  | short ascii stands =>
    have escape : ∀ b : UInt8, simpleEscape b = some c → 0x20 ≤ b := fun b stands => by
      unfold simpleEscape at stands
      split at stands
      iterate 8 exact by decide
      cases stands
    simpa [backslash, utf8EncodeChar_ascii ascii] using escape _ stands
  | long control =>
    have digits : ∀ k : Fin 0x20, ((['\\', 'u', '0', '0'] ++
        hexByte k.val.toUInt8).flatMap String.utf8EncodeChar).all (0x20 ≤ ·) = true := by
      decide
    simpa only [List.all_eq_true, decide_eq_true_eq] using digits ⟨_, control⟩
  | plain quote slash visible =>
    rw [List.flatMap_singleton]
    exact fun b member => (plain_of_mem quote slash visible member).2.2

theorem visible_quote (s : String) : ∀ b ∈ utf8 (quote s), 0x20 ≤ b := by
  have inside : ∀ s : List Char, ∀ b ∈ (escape s).flatMap String.utf8EncodeChar, 0x20 ≤ b := by
    intro s
    induction s with
    | nil => exact nofun
    | cons c s ih =>
      have split : escape (c :: s) = escapeChar c ++ escape s := rfl
      rw [split, List.flatMap_append]
      exact List.forall_mem_append.mpr ⟨(written_escapeChar c).visible, ih⟩
  rw [utf8_quote, quoted]
  exact List.forall_mem_cons.mpr ⟨by decide, List.forall_mem_append.mpr
    ⟨inside _, List.forall_mem_singleton.mpr (by decide)⟩⟩

/-- Nothing gets shorter by being quoted. -/
theorem length_le_quote (s : String) : s.toList.length ≤ (utf8 (quote s)).length := by
  have each : ∀ s : List Char, s.length ≤ ((escape s).flatMap String.utf8EncodeChar).length := by
    intro s
    induction s with
    | nil => exact Nat.le_refl 0
    | cons c s ih =>
      have some_octet : 0 < ((escapeChar c).flatMap String.utf8EncodeChar).length := by
        obtain ⟨first, more, shape⟩ : ∃ first more, escapeChar c = first :: more := by
          cases h : escapeChar c with
          | nil => cases h ▸ written_escapeChar c
          | cons first more => exact ⟨first, more, rfl⟩
        rw [shape, List.flatMap_cons, List.length_append, String.length_utf8EncodeChar]
        exact Nat.add_pos_left first.utf8Size_pos _
      have split : escape (c :: s) = escapeChar c ++ escape s := rfl
      rw [split, List.flatMap_append, List.length_append, List.length_cons]
      omega
  rw [utf8_quote, List.length_cons, quoted, List.length_append]
  exact Nat.le_trans (each _) (Nat.le_add_right_of_le (Nat.le_add_right _ _))

theorem readStringBody_quoted (s : String) (rest : Bytes) :
    readStringBody (quoted s ++ rest) = .ok (s, rest) := by
  have enough : ((escape s.toList).flatMap String.utf8EncodeChar).length <
      (quoted s ++ rest).length + 1 := by
    simp only [quoted, List.length_append]
    omega
  have octets := stringOctets_quoted s.toList [] rest enough
  rw [← utf8_eq] at octets
  simp only [quoted, List.append_assoc, List.cons_append, List.nil_append] at octets ⊢
  simp only [readStringBody, octets, bind, Except.bind, List.reverse_nil, List.flatten_nil,
    List.nil_append, ofUtf8?_utf8]
  rfl

/-- A reader takes the octets of a value off the front, and leaves the rest. What it takes is not
mistaken for the end of a list. -/
structure Takes {α : Type} (r : Reader α) (a : α) (s : Bytes) : Prop where
  start : ∃ b rest, s = b :: rest ∧ isSpace b = false ∧ b ≠ 0x5D
  takes : ∀ rest, r (s ++ rest) = .ok (a, rest)

theorem skipSpace_cons {b : UInt8} (visible : isSpace b = false) (s : Bytes) :
    skipSpace (b :: s) = b :: s := by
  simp [skipSpace, visible]

theorem takes_string (s : String) : Takes readString s (utf8 (quote s)) where
  start := ⟨0x22, quoted s, utf8_quote s, rfl, by decide⟩
  takes rest := by
    rw [utf8_quote, List.cons_append, readString, skipSpace_cons rfl]
    exact readStringBody_quoted s rest

theorem readName_quoted (s : String) (rest : Bytes) :
    readName (utf8 (quote s) ++ 0x3A :: rest) = .ok (s, rest) := by
  rw [utf8_quote, List.cons_append, readName, readStringBody_quoted s]
  simp [bind, Except.bind, skipSpace_cons, isSpace, pure, Except.pure]

/-- What stands before an item of a container. -/
def comma (isFirst : Bool) : Bytes := if isFirst then [] else [0x2C]

/-- Items from the first on, or from a later one on. -/
def listed (isFirst : Bool) : List Bytes → Bytes
  | [] => []
  | s :: rest => comma isFirst ++ s ++ listed false rest

theorem listed_true (items : List Bytes) : listed true items = List.intercalate [0x2C] items := by
  have later : ∀ s rest, List.intercalate [0x2C] (s :: rest) = s ++ listed false rest := by
    intro s rest
    induction rest generalizing s with
    | nil => simp [listed]
    | cons t rest ih =>
      rw [List.intercalate_cons_cons, ih, listed, comma]
      simp
  cases items with
  | nil => rfl
  | cons s rest => exact (later s rest).symm

theorem follow_comma {closing b : UInt8} (visible : isSpace b = false) (other : b ≠ closing)
    (apart : closing ≠ 0x2C) (isFirst : Bool) (rest : Bytes) :
    follow closing isFirst (comma isFirst ++ b :: rest) = .ok (.item (b :: rest)) := by
  cases isFirst
  · have mark : isSpace 0x2C = false := rfl
    simp [follow, comma, skipSpace_cons mark, skipSpace_cons visible, other, apart.symm]
  · simp [follow, comma, skipSpace_cons visible, other]

theorem follow_close {closing : UInt8} (visible : isSpace closing = false) (isFirst : Bool)
    (rest : Bytes) : follow closing isFirst (closing :: rest) = .ok (.close rest) := by
  simp [follow, skipSpace_cons visible]

theorem length_le_listed {items : List Bytes} (some_octet : ∀ s ∈ items, s ≠ []) (isFirst : Bool) :
    items.length ≤ (listed isFirst items).length := by
  induction items generalizing isFirst with
  | nil => exact Nat.zero_le _
  | cons s items ih =>
    obtain ⟨first, later⟩ := List.forall_mem_cons.mp some_octet
    have positive := List.length_pos_iff.mpr first
    have more := ih later false
    simp only [listed, List.length_cons, List.length_append]
    omega

section Lists

variable {α : Type} {r : Reader α} {as : List α}

theorem itemsFrom_listed {write : α → Bytes} (takes : ∀ a ∈ as, Takes r a (write a)) {fuel : Nat}
    (enough : as.length < fuel) (done : List α) (rest : Bytes) :
    itemsFrom r fuel done (listed done.isEmpty (as.map write) ++ 0x5D :: rest) =
      .ok (done.reverse ++ as, rest) := by
  induction as generalizing fuel done with
  | nil =>
    obtain ⟨more, rfl⟩ := Nat.exists_eq_add_of_lt enough
    rw [itemsFrom, List.map_nil, listed, List.nil_append, follow_close rfl, List.append_nil]
    rfl
  | cons a as ih =>
    obtain ⟨more, rfl⟩ := Nat.exists_eq_add_of_lt enough
    obtain ⟨first, later⟩ := List.forall_mem_cons.mp takes
    obtain ⟨b, s, split, visible, other⟩ := first.start
    have one := first.takes (listed false (as.map write) ++ 0x5D :: rest)
    have enough' : as.length < (a :: as).length + more :=
      Nat.lt_of_lt_of_le (Nat.lt_succ_self _) (Nat.le_add_right _ _)
    have others := ih later enough' (a :: done)
    rw [split, List.cons_append] at one
    rw [itemsFrom]
    simp only [List.map_cons, listed, split, List.append_assoc, List.cons_append, bind,
      Except.bind, follow_comma visible other (show (0x5D : UInt8) ≠ 0x2C by decide), one]
    refine others.trans ?_
    rw [List.reverse_cons, List.append_assoc, List.singleton_append]

/-- A list is read back if its items are. -/
theorem takes_list {f : α → Json} (takes : ∀ a ∈ as, Takes r a (utf8 (f a).text)) :
    Takes (readList r) as (utf8 (Json.arr (as.map f)).text) := by
  let write := fun a => utf8 (f a).text
  have texts : ∀ js, itemTexts js = js.map text := fun js => by
    induction js with
    | nil => rfl
    | cons j js ih => rw [itemTexts, ih, List.map_cons]
  have opening : utf8 "[" = [0x5B] := by decide
  have closing : utf8 "]" = [0x5D] := by decide
  have written : utf8 (Json.arr (as.map f)).text = 0x5B :: (listed true (as.map write) ++ [0x5D]) := by
    rw [text, texts, utf8_append, utf8_append, utf8_commas, opening, closing, listed_true,
      List.map_map, List.map_map]
    rfl
  refine ⟨⟨0x5B, _, written, rfl, by decide⟩, fun rest => ?_⟩
  have enough : as.length < (listed true (as.map write) ++ 0x5D :: rest).length + 1 := by
    have some_octet : ∀ s ∈ as.map write, s ≠ [] := by
      simp only [List.mem_map, forall_exists_index, and_imp, forall_apply_eq_imp_iff₂]
      intro a member none
      obtain ⟨b, s, split, -⟩ := (takes a member).start
      exact List.cons_ne_nil b s (split.symm.trans none)
    have long := length_le_listed some_octet true
    rw [List.length_map] at long
    rw [List.length_append]
    omega
  rw [written, readList, List.cons_append, skipSpace_cons rfl, List.append_assoc]
  exact itemsFrom_listed takes enough [] rest

end Lists

section Records

variable {σ : Type} {fields : Fields σ} {name : String} {read : σ → Reader σ} {record : σ}
  {seen : List String} {value : Bytes}

/-- A known member is read by its reader, which makes of the record what is told. -/
theorem membersFrom_known (record' : σ) (found : fields.lookup name = some read) (unseen : name ∉ seen)
    (takes : ∀ rest, read record (value ++ rest) = .ok (record', rest)) (fuel : Nat)
    (isFirst : Bool) (rest : Bytes) :
    membersFrom fields (fuel + 1) isFirst seen record
        (comma isFirst ++ utf8 (quote name) ++ 0x3A :: (value ++ rest)) =
      membersFrom fields fuel false (name :: seen) record' rest := by
  have named := readName_quoted name (value ++ rest)
  rw [utf8_quote, List.cons_append] at named
  rw [membersFrom, utf8_quote, List.append_assoc, List.cons_append,
    follow_comma (by decide) (by decide) (by decide)]
  simp only [bind, Except.bind, named, found, unseen, if_false, takes]

theorem membersFrom_close (fuel : Nat) (isFirst : Bool) (rest : Bytes) :
    membersFrom fields (fuel + 1) isFirst seen record (0x7D :: rest) =
      .ok ((record, seen), rest) := by
  rw [membersFrom, follow_close rfl]
  rfl

/-- A record is read if its members are, and none that is required is missing. -/
theorem readRecord_members {required : List String} {start : σ} {s rest : Bytes}
    (members : membersFrom fields (s.length + 1) true [] start s = .ok ((record, seen), rest))
    (all : required.all (· ∈ seen)) :
    readRecord fields required start (0x7B :: s) = .ok (record, rest) := by
  rw [readRecord, skipSpace_cons rfl]
  simp only [members, bind, Except.bind, all, if_true]
  rfl

end Records

/-- Blanks may follow the value of a text. -/
theorem readWhole_append {α : Type} {r : Reader α} {a : α} {s tail : Bytes} (takes : Takes r a s)
    (blank : skipSpace tail = []) : readWhole r (s ++ tail) = .ok a := by
  simp [readWhole, takes.takes, bind, Except.bind, blank, pure, Except.pure]

theorem readWhole_eq {α : Type} {r : Reader α} {a : α} {s : Bytes} (takes : Takes r a s) :
    readWhole r s = .ok a := by
  simpa using readWhole_append takes (show skipSpace [] = [] from rfl)

section Values

/-- A member whose value is a string. -/
def member (m : String × String) : Bytes := utf8 (quote m.1) ++ 0x3A :: utf8 (quote m.2)

theorem valueFrom_string (fuel : Nat) (s : String) (rest : Bytes) :
    valueFrom (fuel + 1) (utf8 (quote s) ++ rest) = .ok (.str s, rest) := by
  rw [utf8_quote, List.cons_append, valueFrom, skipSpace_cons rfl]
  simp only [readStringBody_quoted, bind, Except.bind]
  rfl

theorem memberValues_strings (ms : List (String × String)) {fuel : Nat} (enough : ms.length < fuel)
    (done : List (String × Json)) (rest : Bytes) :
    memberValues fuel done (listed done.isEmpty (ms.map member) ++ 0x7D :: rest) =
      .ok (.obj (done.reverse ++ ms.map fun m => (m.1, .str m.2)), rest) := by
  induction ms generalizing fuel done with
  | nil =>
    obtain ⟨more, rfl⟩ := Nat.exists_eq_add_of_lt enough
    rw [memberValues, List.map_nil, listed, List.nil_append, follow_close rfl, List.map_nil,
      List.append_nil]
    rfl
  | cons m ms ih =>
    obtain ⟨name, s⟩ := m
    obtain ⟨more, rfl⟩ := Nat.exists_eq_add_of_lt enough
    have others := @ih (ms.length + more + 1) (by omega) ((name, .str s) :: done)
    have named := readName_quoted name
      (utf8 (quote s) ++ (listed false (ms.map member) ++ 0x7D :: rest))
    rw [utf8_quote, List.cons_append] at named
    have fuel : (((name, s) :: ms).length + more) = ms.length + more + 1 := by
      rw [List.length_cons]
      omega
    rw [memberValues, fuel]
    simp only [List.map_cons, listed, member, utf8_quote name, List.append_assoc, List.cons_append]
    rw [follow_comma (by decide) (by decide) (by decide)]
    simp only [bind, Except.bind, named, valueFrom_string]
    refine others.trans ?_
    rw [List.reverse_cons, List.append_assoc, List.singleton_append]

/-- A record of strings is written member by member. -/
theorem utf8_strings (ms : List (String × String)) :
    utf8 (Json.obj (ms.map fun m => (m.1, .str m.2))).text =
      0x7B :: (listed true (ms.map member) ++ [0x7D]) := by
  have opening : utf8 "\x7b" = [0x7B] := by decide
  have closing : utf8 "\x7d" = [0x7D] := by decide
  have colon : utf8 ":" = [0x3A] := by decide
  have texts : (memberTexts (ms.map fun m => (m.1, Json.str m.2))).map utf8 = ms.map member := by
    induction ms with
    | nil => rfl
    | cons m ms ih =>
      rw [List.map_cons, memberTexts, List.map_cons, ih, List.map_cons, member, text, utf8_append,
        utf8_append, colon, List.append_assoc, List.singleton_append]
  rw [text, utf8_append, utf8_append, utf8_commas, opening, closing, texts, listed_true]
  rfl

theorem visible_strings (ms : List (String × String)) :
    ∀ b ∈ utf8 (Json.obj (ms.map fun m => (m.1, .str m.2))).text, 0x20 ≤ b := by
  have inside : ∀ isFirst, ∀ b ∈ listed isFirst (ms.map member), 0x20 ≤ b := by
    induction ms with
    | nil => exact fun _ => nofun
    | cons m ms ih =>
      intro isFirst
      have mark : ∀ b ∈ comma isFirst, 0x20 ≤ b := by cases isFirst <;> simp [comma]
      rw [List.map_cons, listed, member]
      simp only [List.forall_mem_append, List.forall_mem_cons]
      exact ⟨⟨mark, visible_quote _, by decide, visible_quote _⟩, ih false⟩
  rw [utf8_strings]
  exact List.forall_mem_cons.mpr ⟨by decide, List.forall_mem_append.mpr
    ⟨inside true, List.forall_mem_singleton.mpr (by decide)⟩⟩

/-- A record of strings is read back, whatever characters they are made of. -/
theorem parse_strings (ms : List (String × String)) :
    parse (utf8 (Json.obj (ms.map fun m => (m.1, .str m.2))).text) =
      .ok (.obj (ms.map fun m => (m.1, .str m.2))) := by
  have some_octet : ∀ s ∈ ms.map member, s ≠ [] := fun s there => by
    obtain ⟨m, -, rfl⟩ := List.mem_map.mp there
    simp [member]
  have long := length_le_listed some_octet true
  have enough : ms.length < (listed true (ms.map member) ++ [0x7D]).length + 1 := by
    rw [List.length_map] at long
    rw [List.length_append]
    omega
  rw [parse, utf8_strings, readWhole, List.length_cons, valueFrom, skipSpace_cons rfl]
  have members := memberValues_strings ms enough [] []
  simp only [List.isEmpty_nil] at members
  simp only [members, bind, Except.bind]
  rfl

end Values

end Json

end LocalProxy
