import LocalProxy.Handshake.Exchange

/-! Reading numbers, blocks and fields from the front of a client's bytes. A reader gives what
it read and the rest. -/
namespace LocalProxy.Handshake

def octet : Bytes → Except HandshakeFault (UInt8 × Bytes)
  | b :: rest => .ok (b, rest)
  | [] => .error .endInNumber

/-- A number of two octets, the more significant first. -/
def word : Bytes → Except HandshakeFault (UInt16 × Bytes)
  | high :: low :: rest => .ok (wordOf high low, rest)
  | _ => .error .endInNumber

def block (size : Nat) (s : Bytes) : Except HandshakeFault (Bytes × Bytes) :=
  if size ≤ s.length then .ok (s.take size, s.drop size) else .error .endInBlock

/-- A field of at most `room` octets that a NUL ends. -/
def untilNul : Nat → Bytes → Except HandshakeFault (Bytes × Bytes)
  | _, [] => .error .endInNumber
  | room, b :: rest =>
    if b = 0 then .ok ([], rest)
    else match room with
      | 0 => .error (.protocol .fieldTooLong)
      | room + 1 =>
        match untilNul room rest with
        | .ok (field, rest) => .ok (b :: field, rest)
        | .error fault => .error fault

theorem word_wordBytes (w : UInt16) (rest : Bytes) :
    word (wordBytes w ++ rest) = .ok (w, rest) := by
  simp [word, wordBytes, wordOf_bytes]

theorem block_append {size : Nat} {front : Bytes} (rest : Bytes) (h : front.length = size) :
    block size (front ++ rest) = .ok (front, rest) := by
  subst h
  simp [block]

theorem block_eq_ok {size : Nat} {s front rest : Bytes} (h : block size s = .ok (front, rest)) :
    s = front ++ rest ∧ front.length = size := by
  unfold block at h
  split at h
  next le =>
    cases h
    exact ⟨(List.take_append_drop size s).symm, by simp [le]⟩
  next => cases h

end LocalProxy.Handshake
