import LocalProxy.Proofs.Socks.Datagrams

/-! The two readers of an address, of which one takes a client's bytes as they come and the other
cuts a datagram. Both read just what `Address` writes, so they agree. Main statement:
`readers_agree`. -/
namespace LocalProxy.Socks

open Handshake

/-- The target is read, and that many octets are taken off the front for it. -/
def TakesOff (read : Bytes → Except HandshakeFault (Target × Bytes)) (s : Bytes) (t : Target)
    (taken : Nat) : Prop :=
  ∃ front rest, s = front ++ rest ∧ front.length = taken ∧ read s = .ok (t, rest)

section Agreement

variable {code : UInt8} {t : Target} {s rest : Bytes} {taken : Nat}

theorem readAddress_eq_ok_iff : readAddress code s = .ok (t, rest) ↔
    ∃ address, Address code t address ∧ s = address ++ rest := by
  constructor
  · exact (readAddress_reads code).sound
  · rintro ⟨address, written, rfl⟩
    exact (readAddress_reads code).complete written rest

theorem splitAddress_eq_ok_iff : splitAddress code s = .ok (t, rest) ↔
    ∃ address, Address code t address ∧ s = address ++ rest := by
  constructor
  · exact splitAddress_sound
  · rintro ⟨address, written, rfl⟩
    exact splitAddress_append written rest

/-- Behind the head of an unfragmented datagram the two readers see the same octets. -/
theorem decodeDatagram_eq_ok_iff_read :
    decodeDatagram ([0, 0, 0, code] ++ s) = .ok (t, rest) ↔ readAddress code s = .ok (t, rest) := by
  have split : decodeDatagram ([0, 0, 0, code] ++ s) = splitAddress code s := rfl
  rw [split, splitAddress_eq_ok_iff, readAddress_eq_ok_iff]

theorem takesOff_iff : TakesOff (readAddress code) s t taken ↔
    taken ≤ s.length ∧ decodeDatagram ([0, 0, 0, code] ++ s) = .ok (t, s.drop taken) := by
  constructor
  · rintro ⟨front, rest, rfl, rfl, read⟩
    refine ⟨by simp, ?_⟩
    rw [List.drop_left]
    exact decodeDatagram_eq_ok_iff_read.mpr read
  · rintro ⟨fits, decoded⟩
    exact ⟨s.take taken, s.drop taken, (List.take_append_drop taken s).symm,
      List.length_take_of_le fits, decodeDatagram_eq_ok_iff_read.mp decoded⟩

theorem readAddress_fails_iff : (∃ fault, readAddress code s = .error fault) ↔
    ∃ fault, decodeDatagram ([0, 0, 0, code] ++ s) = .error fault := by
  constructor
  · rintro ⟨fault, failed⟩
    cases decoded : decodeDatagram ([0, 0, 0, code] ++ s) with
    | error fault' => exact ⟨fault', rfl⟩
    | ok p => cases failed.symm.trans (decodeDatagram_eq_ok_iff_read.mp decoded)
  · rintro ⟨fault, failed⟩
    cases read : readAddress code s with
    | error fault' => exact ⟨fault', rfl⟩
    | ok p => cases failed.symm.trans (decodeDatagram_eq_ok_iff_read.mpr read)

end Agreement

/-- Of any octets behind a type, the reader of a client's bytes takes an address off the front just
when a datagram of the same octets holds this address with what is left for a payload, and it fails
just when there is none. What encodes a target is read back, and no octet behind it is touched. -/
theorem readers_agree :
    (∀ code s t taken, TakesOff (readAddress code) s t taken ↔
      taken ≤ s.length ∧ decodeDatagram ([0, 0, 0, code] ++ s) = .ok (t, s.drop taken)) ∧
    (∀ code s, (∃ fault, readAddress code s = .error fault) ↔
      ∃ fault, decodeDatagram ([0, 0, 0, code] ++ s) = .error fault) ∧
    ∀ t, Carried t → ∃ code address, encodeAddress t = code :: address ∧
      ∀ rest, readAddress code (address ++ rest) = .ok (t, rest) := by
  refine ⟨fun code s t taken => takesOff_iff, fun code s => readAddress_fails_iff, ?_⟩
  intro t carried
  obtain ⟨code, address, written⟩ := carried.written
  exact ⟨code, address, written.encoded, (readAddress_reads code).complete written⟩

end LocalProxy.Socks
