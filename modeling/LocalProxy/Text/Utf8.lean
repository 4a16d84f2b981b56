import LocalProxy.Text

/-! Octets and the text they encode in UTF-8. -/
namespace LocalProxy

abbrev Bytes := List UInt8

namespace Text

def utf8 (s : String) : Bytes := s.toByteArray.data.toList

def ofUtf8? (bytes : Bytes) : Option String := String.fromUTF8? ⟨bytes.toArray⟩

theorem ofUtf8?_utf8 (s : String) : ofUtf8? (utf8 s) = some s := by
  have h : (⟨s.toByteArray.data.toList.toArray⟩ : ByteArray) = s.toByteArray := by simp
  simp only [ofUtf8?, utf8, h, String.fromUTF8?, s.isValidUTF8, dite_true]
  rfl

theorem ofUtf8?_eq_some_iff {bytes : Bytes} {s : String} :
    ofUtf8? bytes = some s ↔ bytes = utf8 s := by
  constructor
  · intro text
    simp only [ofUtf8?, String.fromUTF8?] at text
    split at text
    · cases text
      simp [utf8, String.fromUTF8]
    · cases text
  · rintro rfl
    exact ofUtf8?_utf8 s

theorem utf8_append (a b : String) : utf8 (a ++ b) = utf8 a ++ utf8 b := by
  simp [utf8, String.toByteArray_append]

/-- Each character is encoded for itself. -/
theorem utf8_ofList (s : List Char) : utf8 (.ofList s) = s.flatMap String.utf8EncodeChar := by
  rw [utf8, String.toByteArray_ofList, List.utf8Encode, List.data_toByteArray]

theorem utf8_eq (s : String) : utf8 s = s.toList.flatMap String.utf8EncodeChar := by
  rw [← utf8_ofList, String.ofList_toList]

theorem utf8EncodeChar_ascii {c : Char} (ascii : c.toNat < 128) :
    String.utf8EncodeChar c = [UInt8.ofNat c.toNat] := by
  have small : c.val.toNat ≤ 127 := Nat.le_of_lt_succ ascii
  rw [String.utf8EncodeChar]
  exact if_pos small

/-- No octet of another character is one of ASCII. -/
theorem le_of_mem_utf8EncodeChar {c : Char} (wide : 128 ≤ c.toNat) {b : UInt8}
    (member : b ∈ String.utf8EncodeChar c) : 128 ≤ b := by
  have large : ¬ c.val.toNat ≤ 127 := Nat.not_le.mpr wide
  rw [String.utf8EncodeChar] at member
  simp only [large, if_false] at member
  rw [UInt8.le_iff_toNat_le]
  split at member
  · simp only [List.mem_cons, List.not_mem_nil, or_false] at member
    rcases member with rfl | rfl <;> simp <;> omega
  · split at member
    · simp only [List.mem_cons, List.not_mem_nil, or_false] at member
      rcases member with rfl | rfl | rfl <;> simp <;> omega
    · simp only [List.mem_cons, List.not_mem_nil, or_false] at member
      rcases member with rfl | rfl | rfl | rfl <;> simp <;> omega

/-- The number of octets the sequence started by an octet takes, and the bounds of its
second octet. -/
def sequenceShape (b : UInt8) : Option (Nat × UInt8 × UInt8) :=
  if b < 0x80 then some (1, 0x80, 0xBF)
  else if 0xC2 ≤ b ∧ b ≤ 0xDF then some (2, 0x80, 0xBF)
  else if b = 0xE0 then some (3, 0xA0, 0xBF)
  else if b = 0xED then some (3, 0x80, 0x9F)
  else if 0xE1 ≤ b ∧ b ≤ 0xEF then some (3, 0x80, 0xBF)
  else if b = 0xF0 then some (4, 0x90, 0xBF)
  else if 0xF1 ≤ b ∧ b ≤ 0xF3 then some (4, 0x80, 0xBF)
  else if b = 0xF4 then some (4, 0x80, 0x8F)
  else none

/-- How many of the octets form the longest start of one encoded character, at least one,
and whether the character is complete. -/
def characterStart : Bytes → Nat × Bool
  | [] => (0, false)
  | b :: rest =>
    match sequenceShape b with
    | none => (1, false)
    | some (1, _, _) => (1, true)
    | some (size, low, high) =>
      let isTail := fun (i : Nat) (x : UInt8) =>
        if i = 0 then low ≤ x && x ≤ high else 0x80 ≤ x && x ≤ 0xBF
      let tails := ((rest.take (size - 1)).zipIdx.takeWhile fun (x, i) => isTail i x).length
      (tails + 1, tails + 1 == size)

def lossyFrom : Nat → Bytes → List Char
  | 0, _ => []
  | _, [] => []
  | fuel + 1, bytes =>
    let (size, complete) := characterStart bytes
    let head := if complete then
        match ofUtf8? (bytes.take size) with
        | some s => s.toList
        | none => ['\uFFFD']
      else ['\uFFFD']
    head ++ lossyFrom fuel (bytes.drop size)

/-- Text in which every longest ill-formed stretch is one replacement character. -/
def ofUtf8Lossy (bytes : Bytes) : String := .ofList (lossyFrom bytes.length bytes)

def hexBytes (bytes : Bytes) : String := .ofList (bytes.flatMap hexByte)

end Text

end LocalProxy
