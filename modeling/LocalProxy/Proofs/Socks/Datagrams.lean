import LocalProxy.Proofs.Socks.Addresses
import LocalProxy.Socks.Datagram

/-! Datagrams of the SOCKS relay as they are written: every address that fits into one is read back
with its payload, and nothing else is read. Main statement: `datagrams_read_back`. -/
namespace LocalProxy.Socks

open Handshake Text

/-- A target that a datagram has room for. -/
inductive Carried : Target → Prop
  | v4 (ip : Ipv4) (port : UInt16) : Carried (.address (.v4 ip port))
  | v6 (ip : Ipv6) (port : UInt16) : Carried (.address (.v6 ip port 0))
  | domain (host : String) (port : UInt16) (fits : (utf8 host).length ≤ 255) :
      Carried (.domain host port)

section Written

variable {code : UInt8} {t : Target} {address payload s d : Bytes}

/-- What there is room for is written as an address. -/
theorem Carried.written (carried : Carried t) : ∃ code address, Address code t address := by
  cases carried with
  | v4 ip port => exact ⟨_, _, .v4 ip port⟩
  | v6 ip port => exact ⟨_, _, .v6 ip port⟩
  | domain host port fits => exact ⟨_, _, .domain host port fits⟩

theorem Address.encoded (written : Address code t address) : encodeAddress t = code :: address := by
  cases written with
  | v4 ip port => rfl
  | v6 ip port => rfl
  | domain host port fits =>
    have whole : (utf8 host).take maxDomain = utf8 host := List.take_of_length_le fits
    simp only [encodeAddress, addressBody, whole]
    rfl

theorem splitAddress_v6 (s : Bytes) : splitAddress 4 s =
    match Ipv6.ofOctets? (s.take 16), s.drop 16 with
    | some ip, high :: low :: payload => .ok (.address (.v6 ip (wordOf high low) 0), payload)
    | _, _ => .error .datagramAddress :=
  rfl

theorem splitAddress_domain (size : UInt8) (s : Bytes) : splitAddress 3 (size :: s) =
    match s.drop size.toNat with
    | high :: low :: payload =>
      match ofUtf8? (s.take size.toNat) with
      | some host => .ok (.domain host (wordOf high low), payload)
      | none => .error .domainNotText
    | _ => .error .shortDomain :=
  rfl

theorem splitAddress_append (written : Address code t address) (payload : Bytes) :
    splitAddress code (address ++ payload) = .ok (t, payload) := by
  cases written with
  | v4 ip port =>
    change Except.ok (Target.address (.v4 ip (wordOf (highByte port) (lowByte port))), payload) = _
    rw [wordOf_bytes]
  | v6 ip port =>
    have known : Ipv6.ofOctets? ip.octets = some ip := (Ipv6.ofOctets?_eq_some_iff rfl).mpr rfl
    have octets : (ip.octets ++ wordBytes port ++ payload).take 16 = ip.octets := rfl
    have rest : (ip.octets ++ wordBytes port ++ payload).drop 16 =
      highByte port :: lowByte port :: payload := rfl
    simp only [splitAddress_v6, octets, rest, known, wordOf_bytes]
  | domain host port fits =>
    have size : (utf8 host).length.toUInt8.toNat = (utf8 host).length :=
      (length_eq_toNat_iff.mpr ⟨fits, rfl⟩).symm
    have rest : (utf8 host ++ wordBytes port ++ payload).drop (utf8 host).length =
        highByte port :: lowByte port :: payload := by
      rw [List.append_assoc, List.drop_left]
      rfl
    have name : (utf8 host ++ wordBytes port ++ payload).take (utf8 host).length = utf8 host := by
      rw [List.append_assoc, List.take_left]
    simp only [List.cons_append, splitAddress_domain, size, rest, name, ofUtf8?_utf8, wordOf_bytes]

/-- Octets in front of a number of two octets. -/
theorem eq_append_of_drop {high low : UInt8} {size : Nat}
    (rest : s.drop size = high :: low :: payload) :
    (s.take size).length = size ∧ s = s.take size ++ wordBytes (wordOf high low) ++ payload := by
  have more := congrArg List.length rest
  simp only [List.length_drop, List.length_cons] at more
  refine ⟨List.length_take_of_le (by omega), ?_⟩
  rw [wordBytes_wordOf, List.append_assoc, List.cons_append, List.cons_append, List.nil_append,
    ← rest, List.take_append_drop]

theorem splitAddress_sound (split : splitAddress code s = .ok (t, payload)) :
    ∃ address, Address code t address ∧ s = address ++ payload := by
  unfold splitAddress at split
  split at split
  next a b c d high low payload known =>
    obtain rfl := AddressType.ofCode?_eq_some_iff.mp known
    cases split
    refine ⟨_, .v4 ⟨a, b, c, d⟩ (wordOf high low), ?_⟩
    rw [wordBytes_wordOf]
    rfl
  next known =>
    obtain rfl := AddressType.ofCode?_eq_some_iff.mp known
    split at split
    next ip high low payload found rest =>
      cases split
      obtain ⟨size, whole⟩ := eq_append_of_drop rest
      have octets := (Ipv6.ofOctets?_eq_some_iff size).mp found
      exact ⟨_, .v6 ip _, by rw [← octets]; exact whole⟩
    next => cases split
  next count s known =>
    obtain rfl := AddressType.ofCode?_eq_some_iff.mp known
    split at split
    next high low payload rest =>
      split at split
      next host text =>
        cases split
        obtain ⟨size, whole⟩ := eq_append_of_drop rest
        have name := ofUtf8?_eq_some_iff.mp text
        rw [name] at size whole
        obtain ⟨fits, rfl⟩ := length_eq_toNat_iff.mp size
        exact ⟨_, .domain host _ fits, congrArg (_ :: ·) whole⟩
      next => cases split
    next => cases split
  next => cases split

/-- A datagram is read just when it is whole and no fragment. What the reserved octets hold is
passed over. -/
theorem decodeDatagram_eq_ok_iff : decodeDatagram d = .ok (t, payload) ↔
    ∃ a b code address, Address code t address ∧ d = [a, b, 0, code] ++ address ++ payload := by
  constructor
  · intro decoded
    unfold decodeDatagram at decoded
    split at decoded
    next a b fragment code s =>
      split at decoded
      next first =>
        obtain ⟨address, written, rfl⟩ := splitAddress_sound decoded
        exact ⟨a, b, code, address, written, by rw [first]; rfl⟩
      next => cases decoded
    next => cases decoded
  · rintro ⟨a, b, code, address, written, rfl⟩
    exact splitAddress_append written payload

theorem encodeDatagram_eq (written : Address code t address) (payload : Bytes) :
    encodeDatagram t payload = [0, 0, 0, code] ++ address ++ payload := by
  rw [encodeDatagram, written.encoded]
  rfl

end Written

section Places

/-- The octets from one place to another, if there are so many. -/
def between? (s : Bytes) (start stop : Nat) : Option Bytes :=
  if start ≤ stop ∧ stop ≤ s.length then some ((s.take stop).drop start) else none

/-- The number at a place and the next. -/
def wordAt? (s : Bytes) (place : Nat) : Option UInt16 := do
  return wordOf (← s[place]?) (← s[place + 1]?)

/-- The address of a datagram after its type, and how long it is, read by place once the length
has been looked at. It is `none` if a place is read that is not there. -/
def addressByPlace (code : UInt8) (s : Bytes) : Option (Except ProtocolFault (Target × Nat)) := do
  match AddressType.ofCode? code with
  | some .v4 =>
    if 6 ≤ s.length then
      let ip : Ipv4 := ⟨← s[0]?, ← s[1]?, ← s[2]?, ← s[3]?⟩
      return .ok (.address (.v4 ip (← wordAt? s 4)), 6)
    else return .error .datagramAddress
  | some .v6 =>
    if 18 ≤ s.length then
      let ip ← Ipv6.ofOctets? (← between? s 0 16)
      return .ok (.address (.v6 ip (← wordAt? s 16) 0), 18)
    else return .error .datagramAddress
  | some .domain =>
    if s ≠ [] then
      let size := (← s[0]?).toNat
      if s.length < 1 + size + 2 then return .error .shortDomain
      let name ← between? s 1 (1 + size)
      let port ← wordAt? s (1 + size)
      match ofUtf8? name with
      | some host => return .ok (.domain host port, 1 + size + 2)
      | none => return .error .domainNotText
    else return .error .datagramAddress
  | none => return .error .datagramAddress

/-- A datagram read by place. -/
def decodeByPlace (d : Bytes) : Option (Except ProtocolFault (Target × Bytes)) := do
  if d.length < 4 then return .error .shortDatagram
  if (← d[2]?) ≠ 0 then return .error .fragmented
  let s ← between? d 4 d.length
  match ← addressByPlace (← d[3]?) s with
  | .ok (t, size) => return .ok (t, ← between? s size s.length)
  | .error fault => return .error fault

variable {s payload : Bytes} {high low : UInt8}

theorem wordAt?_of_drop {place : Nat} (rest : s.drop place = high :: low :: payload) :
    wordAt? s place = some (wordOf high low) := by
  have first : s[place]? = some high := by
    rw [← Nat.add_zero place, ← List.getElem?_drop, rest]
    rfl
  have second : s[place + 1]? = some low := by
    rw [← List.getElem?_drop, rest]
    rfl
  simp only [wordAt?, first, second]
  rfl

theorem exists_drop_of_le {size : Nat} (long : size + 2 ≤ s.length) :
    ∃ high low payload, s.drop size = high :: low :: payload := by
  match rest : s.drop size with
  | high :: low :: payload => exact ⟨high, low, payload, rfl⟩
  | [] | [_] =>
    have short := congrArg List.length rest
    simp only [List.length_drop, List.length_cons, List.length_nil] at short
    omega

theorem drop_ne_of_lt {size : Nat} (short : s.length < size + 2) (high low : UInt8)
    (payload : Bytes) : s.drop size ≠ high :: low :: payload := by
  intro rest
  have more := congrArg List.length rest
  simp only [List.length_drop, List.length_cons] at more
  omega

theorem exists_ofOctets? {octets : Bytes} (size : octets.length = 16) :
    ∃ ip, Ipv6.ofOctets? octets = some ip :=
  match octets, size with
  | [_, _, _, _, _, _, _, _, _, _, _, _, _, _, _, _], _ => ⟨_, rfl⟩

/-- No place is read that is not there, and what is read is what the address is. -/
def ReadsInside (code : UInt8) (s : Bytes) : Prop :=
  ∃ r, addressByPlace code s = some r ∧
    splitAddress code s = r.map (fun p => (p.1, s.drop p.2)) ∧ ∀ p, r = .ok p → p.2 ≤ s.length

theorem readsInside_v4 (s : Bytes) : ReadsInside 1 s := by
  match s with
  | a :: b :: c :: d :: high :: low :: payload =>
    refine ⟨.ok (.address (.v4 ⟨a, b, c, d⟩ (wordOf high low)), 6), rfl, rfl, ?_⟩
    rintro _ ⟨⟩
    simp
  | [] | [_] | [_, _] | [_, _, _] | [_, _, _, _] | [_, _, _, _, _] => exact ⟨_, rfl, rfl, nofun⟩

theorem readsInside_v6 (s : Bytes) : ReadsInside 4 s := by
  have known : AddressType.ofCode? 4 = some .v6 := rfl
  rw [ReadsInside, addressByPlace, known, splitAddress_v6]
  by_cases long : 18 ≤ s.length
  · have fits : 16 + 2 ≤ s.length := long
    have size : (s.take 16).length = 16 := List.length_take_of_le (by omega)
    obtain ⟨high, low, payload, rest⟩ := exists_drop_of_le fits
    obtain ⟨ip, found⟩ := exists_ofOctets? size
    have octets : between? s 0 16 = some (s.take 16) := by simp [between?]; omega
    have port := wordAt?_of_drop rest
    refine ⟨.ok (.address (.v6 ip (wordOf high low) 0), 18), ?_, ?_, ?_⟩
    · simp [long, octets, found, port]
    · have after : s.drop 18 = payload := by
        rw [← List.drop_drop (i := 2) (j := 16), rest]
        rfl
      simp [found, rest, after, Except.map]
    · rintro _ ⟨⟩
      exact long
  · refine ⟨.error .datagramAddress, by simp [long], ?_, by simp⟩
    split
    next rest => exact absurd rest (drop_ne_of_lt (by omega) _ _ _)
    next => rfl

theorem readsInside_domain (s : Bytes) : ReadsInside 3 s := by
  have known : AddressType.ofCode? 3 = some .domain := rfl
  match s with
  | [] => exact ⟨_, rfl, rfl, nofun⟩
  | size :: s =>
    rw [ReadsInside, addressByPlace, known, splitAddress_domain]
    by_cases short : s.length < size.toNat + 2
    · refine ⟨.error .shortDomain, by simp; omega, ?_, by simp⟩
      split
      next rest => exact absurd rest (drop_ne_of_lt short _ _ _)
      next => rfl
    · obtain ⟨high, low, payload, rest⟩ := exists_drop_of_le (Nat.not_lt.mp short)
      have octets : between? (size :: s) 1 (1 + size.toNat) = some (s.take size.toNat) := by
        simp [between?, Nat.add_comm 1]; omega
      have behind : (size :: s).drop (1 + size.toNat) = high :: low :: payload := by
        rw [Nat.add_comm, List.drop_succ_cons, rest]
      have port := wordAt?_of_drop behind
      cases text : ofUtf8? (s.take size.toNat) with
      | none =>
        refine ⟨.error .domainNotText, ?_, ?_, by simp⟩
        · simp [octets, port, text]; omega
        · simp [rest]; rfl
      | some host =>
        refine ⟨.ok (.domain host (wordOf high low), 1 + size.toNat + 2), ?_, ?_, ?_⟩
        · simp [octets, port, text]; omega
        · have after : (size :: s).drop (1 + size.toNat + 2) = payload := by
            rw [← List.drop_drop, behind]
            rfl
          simp [rest, after, Except.map]
        · rintro _ ⟨⟩
          simp
          omega

theorem readsInside (code : UInt8) (s : Bytes) : ReadsInside code s := by
  cases known : AddressType.ofCode? code with
  | none =>
    refine ⟨.error .datagramAddress, ?_, ?_, nofun⟩
    · rw [addressByPlace, known]
      rfl
    · rw [splitAddress.eq_def, known]
      rfl
  | some type =>
    obtain rfl := AddressType.ofCode?_eq_some_iff.mp known
    cases type with
    | v4 => exact readsInside_v4 s
    | v6 => exact readsInside_v6 s
    | domain => exact readsInside_domain s

theorem decodeByPlace_cons (a b code : UInt8) (s : Bytes) :
    decodeByPlace (a :: b :: 0 :: code :: s) = addressByPlace code s >>= fun r => match r with
      | .ok (t, size) => do return .ok (t, ← between? s size s.length)
      | .error fault => return .error fault := by
  have long : ¬ (a :: b :: 0 :: code :: s).length < 4 := by simp
  have rest : between? (a :: b :: 0 :: code :: s) 4 (a :: b :: 0 :: code :: s).length = some s := by
    simp [between?]
  rw [decodeByPlace, rest, if_neg long]
  rfl

theorem decodeByPlace_eq (d : Bytes) : decodeByPlace d = some (decodeDatagram d) := by
  match d with
  | [] | [_] | [_, _] | [_, _, _] => rfl
  | a :: b :: fragment :: code :: s =>
    by_cases first : fragment = 0
    · subst first
      obtain ⟨r, read, split, within⟩ := readsInside code s
      change _ = some (splitAddress code s)
      rw [decodeByPlace_cons, read, split]
      cases r with
      | error fault => rfl
      | ok p =>
        have payload : between? s p.2 s.length = some (s.drop p.2) := by
          simp [between?, within p rfl]
        simp [payload, Except.map]
    · simp [decodeByPlace, decodeDatagram, first]

end Places

/-- Whatever a datagram has room for is read back from it, with its payload. A datagram is read
without looking at a place that it does not have, just when it is no fragment and holds a whole
address, and what is read from one with nothing reserved is written as it was. -/
theorem datagrams_read_back :
    (∀ t payload, Carried t → decodeDatagram (encodeDatagram t payload) = .ok (t, payload)) ∧
      (∀ d, decodeByPlace d = some (decodeDatagram d)) ∧
      (∀ d t payload, decodeDatagram d = .ok (t, payload) ↔
        ∃ a b code address, Address code t address ∧ d = [a, b, 0, code] ++ address ++ payload) ∧
      ∀ d t payload, decodeDatagram d = .ok (t, payload) → d.take 2 = [0, 0] →
        encodeDatagram t payload = d := by
  refine ⟨?_, decodeByPlace_eq, fun d t payload => decodeDatagram_eq_ok_iff, ?_⟩
  · intro t payload carried
    obtain ⟨code, address, written⟩ := carried.written
    rw [encodeDatagram_eq written]
    exact splitAddress_append written payload
  · intro d t payload decoded reserved
    obtain ⟨a, b, code, address, written, rfl⟩ := decodeDatagram_eq_ok_iff.mp decoded
    obtain ⟨rfl, rfl⟩ : a = 0 ∧ b = 0 := by simpa using reserved
    exact encodeDatagram_eq written payload

end LocalProxy.Socks
