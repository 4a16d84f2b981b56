import LocalProxy.Net.Target
import LocalProxy.Proofs.Text.Ports
import Mathlib.Data.List.TakeWhile

/-! Literals of addresses and endpoints. What their readers take off the front of a text is made of
the characters of literals, and is read the same where it stands alone; so that an endpoint is read
just where the text before its port is an address. -/
namespace LocalProxy

open Text

/-- What follows does not go on with such a character. -/
def Ends (P : Char → Prop) (rest : List Char) : Prop := ∀ c, rest.head? = some c → ¬ P c

theorem ends_cons {P : Char → Prop} {c : Char} (other : ¬ P c) (rest : List Char) :
    Ends P (c :: rest) := by
  rintro _ ⟨⟩
  exact other

section Numbers

variable {base bound n : Nat} {width : Option Nat} {padded : Bool} {s rest : List Char}
  {p : Char → Bool} {c : Char}

theorem takeWhile_append_of_ends (ends : Ends (p · = true) rest) (s : List Char) :
    (s ++ rest).takeWhile p = s.takeWhile p := by
  induction s with
  | nil =>
    cases rest with
    | nil => rfl
    | cons c rest => exact List.takeWhile_cons_of_neg (ends c rfl)
  | cons d s ih => simp only [List.cons_append, List.takeWhile_cons, ih]

theorem dropWhile_append_of_ends (ends : Ends (p · = true) rest) (s : List Char) :
    (s ++ rest).dropWhile p = s.dropWhile p ++ rest := by
  induction s with
  | nil =>
    cases rest with
    | nil => rfl
    | cons c rest => exact List.dropWhile_cons_of_neg (ends c rfl)
  | cons d s ih =>
    simp only [List.cons_append, List.dropWhile_cons, ih]
    split <;> rfl

/-- A digit of the base. -/
def InBase (base : Nat) (c : Char) : Prop := (digitValue base c).isSome = true

instance : DecidablePred (InBase base) := fun c =>
  inferInstanceAs (Decidable ((digitValue base c).isSome = true))

theorem InBase.mono {base base' : Nat} (le : base ≤ base') (digit : InBase base c) :
    InBase base' c := by
  simp only [InBase, digitValue, Option.isSome_filter, Option.any_eq_true,
    decide_eq_true_eq] at digit ⊢
  obtain ⟨value, found, small⟩ := digit
  exact ⟨value, found, Nat.lt_of_lt_of_le small le⟩

theorem readNumber_spec (read : readNumber base width padded bound s = some (n, rest)) :
    ∃ digits, s = digits ++ rest ∧ digits ≠ [] ∧ (∀ c ∈ digits, InBase base c) ∧
      n = digitsValue base digits ∧ n < bound := by
  unfold readNumber at read
  obtain ⟨good, value⟩ := Option.ite_none_left_eq_some.mp read
  cases value
  simp only [not_or, Nat.not_le] at good
  exact ⟨_, List.takeWhile_append_dropWhile.symm, good.1, fun c => List.mem_takeWhile_imp, rfl,
    good.2.2.1⟩

theorem readNumber_append (ends : Ends (InBase base) rest) (s : List Char) :
    readNumber base width padded bound (s ++ rest) =
      (readNumber base width padded bound s).map fun p => (p.1, p.2 ++ rest) := by
  simp only [readNumber, takeWhile_append_of_ends ends, dropWhile_append_of_ends ends]
  split <;> rfl

theorem readChar_eq_some : readChar c s = some rest ↔ s = c :: rest := by
  cases s with
  | nil => simp [readChar]
  | cons d s => simp [readChar]

theorem readChar_append (ends : Ends (· = c) rest) (s : List Char) :
    readChar c (s ++ rest) = (readChar c s).map (· ++ rest) := by
  cases s with
  | nil =>
    cases rest with
    | nil => rfl
    | cons d rest => exact if_neg (ends d rfl)
  | cons d s =>
    simp only [List.cons_append, readChar]
    split <;> rfl

end Numbers

section Ipv4

variable {s rest front : List Char} {ip : Ipv4} {b : UInt8} {c : Char}

/-- A character of an IPv4 address. -/
def InIpv4 (c : Char) : Prop := InBase 10 c ∨ c = '.'

instance : DecidablePred InIpv4 := fun c => inferInstanceAs (Decidable (InBase 10 c ∨ c = '.'))

theorem readOctet_spec (read : readOctet s = some (b, rest)) :
    ∃ digits, s = digits ++ rest ∧ digits ≠ [] ∧ ∀ c ∈ digits, InBase 10 c := by
  obtain ⟨⟨n, _⟩, number, same⟩ := Option.map_eq_some_iff.mp read
  cases same
  obtain ⟨digits, whole, present, each, -⟩ := readNumber_spec number
  exact ⟨digits, whole, present, each⟩

theorem readOctet_append (ends : Ends (InBase 10) rest) (s : List Char) :
    readOctet (s ++ rest) = (readOctet s).map fun p => (p.1, p.2 ++ rest) := by
  rw [readOctet, readNumber_append ends, readOctet, Option.map_map, Option.map_map]
  rfl

theorem readIpv4_spec (read : readIpv4 s = some (ip, rest)) :
    ∃ front, s = front ++ rest ∧ front ≠ [] ∧ ∀ c ∈ front, InIpv4 c := by
  simp only [readIpv4, bind, Option.bind_eq_some_iff, Prod.exists, readChar_eq_some, pure,
    Option.some.injEq, Prod.mk.injEq] at read
  obtain ⟨a, _, r₁, _, rfl, b, _, r₂, _, rfl, c, _, r₃, _, rfl, d, _, r₄, -, rfl⟩ := read
  obtain ⟨as, rfl, present, first⟩ := readOctet_spec r₁
  obtain ⟨bs, rfl, -, second⟩ := readOctet_spec r₂
  obtain ⟨cs, rfl, -, third⟩ := readOctet_spec r₃
  obtain ⟨ds, rfl, -, fourth⟩ := readOctet_spec r₄
  refine ⟨as ++ '.' :: (bs ++ '.' :: (cs ++ '.' :: ds)), by simp, by simp [present], ?_⟩
  simp only [List.mem_append, List.mem_cons]
  rintro c (m | rfl | m | rfl | m | rfl | m)
  · exact .inl (first c m)
  · exact .inr rfl
  · exact .inl (second c m)
  · exact .inr rfl
  · exact .inl (third c m)
  · exact .inr rfl
  · exact .inl (fourth c m)

theorem readIpv4_append (ends : Ends InIpv4 rest) (s : List Char) :
    readIpv4 (s ++ rest) = (readIpv4 s).map fun p => (p.1, p.2 ++ rest) := by
  have digits : Ends (InBase 10) rest := fun c first digit => ends c first (.inl digit)
  have dots : Ends (· = '.') rest := fun c first dot => ends c first (.inr dot)
  have octet := readOctet_append digits
  have dot := readChar_append dots
  simp only [readIpv4, octet, dot, bind, Option.bind_map, Function.comp_def, Option.map_bind, pure,
    Option.map_some]

end Ipv4

section Ipv6

variable {s rest : List Char} {ip : Ipv6} {c : Char}

/-- A character of an IPv6 address. -/
def InIpv6 (c : Char) : Prop := InBase 16 c ∨ c = '.' ∨ c = ':'

instance : DecidablePred InIpv6 := fun c =>
  inferInstanceAs (Decidable (InBase 16 c ∨ c = '.' ∨ c = ':'))

theorem InIpv4.inIpv6 (literal : InIpv4 c) : InIpv6 c :=
  literal.imp (InBase.mono (by decide)) .inl

/-- The colon before a group, unless it is the first. -/
def lead (isFirst : Bool) : List Char := if isFirst then [] else [':']

/-- No more groups are read than there are colons, but for the first of them and for the two that
an IPv4 address fills. -/
theorem readGroups_spec (isFirst : Bool) (room : Nat) (s : List Char) :
    ∃ front, s = front ++ (readGroups isFirst room s).2.2 ∧ (∀ c ∈ front, InIpv6 c) ∧
      (readGroups isFirst room s).1.length ≤
        front.count ':' + isFirst.toNat + (readGroups isFirst room s).2.1.toNat := by
  induction room generalizing isFirst s with
  | zero => exact ⟨[], rfl, by simp, by simp [readGroups]⟩
  | succ room ih =>
    rw [readGroups]
    have here : ∀ t, (if isFirst then some s else readChar ':' s) = some t →
        s = lead isFirst ++ t := by
      intro t begun
      cases isFirst with
      | false => exact readChar_eq_some.mp begun
      | true => exact Option.some.inj begun
    have leads : ∀ c ∈ lead isFirst, InIpv6 c := by
      cases isFirst <;> simp [lead, InIpv6]
    have count : (lead isFirst).count ':' + isFirst.toNat = 1 := by cases isFirst <;> rfl
    dsimp only
    split
    next ip rest read =>
      obtain ⟨t, begun, address⟩ := Option.bind_eq_some_iff.mp (Option.ite_none_left_eq_some.mp read).2
      obtain ⟨front, rfl, -, each⟩ := readIpv4_spec address
      refine ⟨lead isFirst ++ front, by rw [here _ begun, List.append_assoc],
        List.forall_mem_append.mpr ⟨leads, fun c member => (each c member).inIpv6⟩, ?_⟩
      simp only [List.count_append, List.length_cons, List.length_nil, Bool.toNat_true]
      omega
    next none =>
      split
      next => exact ⟨[], rfl, by simp, by simp⟩
      next g rest read =>
        obtain ⟨t, begun, number⟩ := Option.bind_eq_some_iff.mp read
        obtain ⟨digits, rfl, -, each, -⟩ := readNumber_spec number
        obtain ⟨front, whole, members, groups⟩ := ih false rest
        generalize readGroups false room rest = result at *
        obtain ⟨gs, dotted, left⟩ := result
        dsimp only at *
        refine ⟨lead isFirst ++ digits ++ front, ?_, ?_, ?_⟩
        · rw [here _ begun, List.append_assoc, List.append_assoc]
          rw [whole]
        · exact List.forall_mem_append.mpr
            ⟨List.forall_mem_append.mpr ⟨leads, fun c member => .inl (each c member)⟩, members⟩
        · simp only [List.count_append, List.length_cons, Bool.toNat_false] at groups ⊢
          omega

theorem readIpv6_spec (read : readIpv6 s = some (ip, rest)) :
    ∃ front, s = front ++ rest ∧ (∀ c ∈ front, InIpv6 c) ∧ 2 ≤ front.count ':' := by
  obtain ⟨front, whole, each, groups⟩ := readGroups_spec true 8 s
  unfold readIpv6 at read
  generalize readGroups true 8 s = result at *
  obtain ⟨gs, dotted, left⟩ := result
  dsimp only at *
  split at read
  next full =>
    obtain ⟨ip', found, same⟩ := Option.bind_eq_some_iff.mp read
    cases same
    have small := Bool.toNat_le dotted
    have one : Bool.toNat true = 1 := rfl
    exact ⟨front, whole, each, by omega⟩
  next short =>
    split at read
    next => cases read
    next =>
      simp only [bind, Option.bind_eq_some_iff, pure, readChar_eq_some, Option.some.injEq,
        Prod.mk.injEq] at read
      obtain ⟨_, rfl, back, rfl, _, -, -, rfl⟩ := read
      obtain ⟨more, whole', each', -⟩ := readGroups_spec true (7 - gs.length) back
      refine ⟨front ++ ':' :: ':' :: more, ?_, ?_, by simp; omega⟩
      · rw [whole]
        simpa using whole'
      · refine List.forall_mem_append.mpr ⟨each, ?_⟩
        exact List.forall_mem_cons.mpr ⟨.inr (.inr rfl),
          List.forall_mem_cons.mpr ⟨.inr (.inr rfl), each'⟩⟩

theorem readGroups_append (ends : Ends InIpv6 rest) (isFirst : Bool) (room : Nat) (s : List Char) :
    readGroups isFirst room (s ++ rest) = ((readGroups isFirst room s).1,
      (readGroups isFirst room s).2.1, (readGroups isFirst room s).2.2 ++ rest) := by
  have address := readIpv4_append fun c first literal => ends c first literal.inIpv6
  have number : ∀ t, readNumber 16 (some 4) true UInt16.size (t ++ rest) = _ :=
    readNumber_append fun c first digit => ends c first (.inl digit)
  have colon := readChar_append fun c first colon => ends c first (.inr (.inr colon))
  induction room generalizing isFirst s with
  | zero => rfl
  | succ room ih =>
    have here : (if isFirst then some (s ++ rest) else readChar ':' (s ++ rest)) =
        (if isFirst then some s else readChar ':' s).map (· ++ rest) := by
      cases isFirst with
      | false => exact colon s
      | true => rfl
    simp only [readGroups, here]
    generalize (if isFirst then some s else readChar ':' s) = here
    cases here with
    | none => simp
    | some t =>
      simp only [Option.map_some, Option.bind_some, address, number]
      by_cases last : room = 0
      · simp only [last, if_true]
        cases readNumber 16 (some 4) true UInt16.size t <;> simp [readGroups]
      · simp only [last, if_false]
        cases readIpv4 t with
        | some p => rfl
        | none => cases readNumber 16 (some 4) true UInt16.size t <;> simp [ih]

theorem readIpv6_append (ends : Ends InIpv6 rest) (s : List Char) :
    readIpv6 (s ++ rest) = (readIpv6 s).map fun p => (p.1, p.2 ++ rest) := by
  have colon := readChar_append fun c first colon => ends c first (.inr (.inr colon))
  have groups := readGroups_append ends
  simp only [readIpv6, groups]
  split
  next => simp only [bind, Option.pure_def, Option.map_bind, Function.comp_def, Option.map_some]
  next =>
    split
    next => rfl
    next =>
      simp only [bind, colon, List.append_assoc, Option.pure_def, Option.bind_map,
        Function.comp_def, groups, Option.map_bind, Option.map_some]

end Ipv6

section Alone

variable {α : Type} {read : List Char → Option (α × List Char)} {a : α} {front rest s : List Char}

/-- What is read in front of the rest is read as well where nothing follows. -/
theorem alone_of_append
    (goes_on : read (front ++ rest) = (read front).map fun p => (p.1, p.2 ++ rest))
    (done : read (front ++ rest) = some (a, rest)) : whole (read front) = some a := by
  rw [goes_on] at done
  obtain ⟨⟨b, left⟩, alone, same⟩ := Option.map_eq_some_iff.mp done
  simp only [Prod.mk.injEq, List.append_left_eq_self] at same
  obtain ⟨rfl, rfl⟩ := same
  rw [alone]
  rfl

theorem whole_eq_some {found : Option (α × List Char)} :
    whole found = some a ↔ found = some (a, []) := by
  unfold whole
  split <;> simp_all

end Alone

section Numerals

variable {bound n : Nat} {s rest : List Char} {port : UInt16} {scope : UInt32}

/-- The digits that are read write the number. -/
theorem readNumber_numeral (read : readNumber 10 none true bound s = some (n, rest)) :
    ∃ numeral, s = numeral ++ rest ∧ (∀ c ∈ numeral, InBase 10 c) ∧
      natBelow? bound numeral = some n := by
  obtain ⟨digits, whole, present, each, rfl, below⟩ := readNumber_spec read
  exact ⟨digits, whole, each, natBelow?_digits present (List.all_eq_true.mpr each) below⟩

theorem Endpoint.readPort_spec (read : readPort s = some (port, rest)) :
    ∃ numeral, s = ':' :: (numeral ++ rest) ∧ (∀ c ∈ numeral, InBase 10 c) ∧
      Text.port? (.ofList numeral) = some port := by
  simp only [readPort, bind, Option.bind_eq_some_iff, Prod.exists, readChar_eq_some, pure,
    Option.some.injEq, Prod.mk.injEq] at read
  obtain ⟨_, rfl, n, _, number, rfl, rfl⟩ := read
  obtain ⟨numeral, rfl, digits, value⟩ := readNumber_numeral number
  exact ⟨numeral, rfl, digits, by rw [Text.port?, String.toList_ofList, value]; rfl⟩

theorem Endpoint.readScope_spec (read : readScope s = some (scope, rest)) :
    ∃ zone, s = '%' :: (zone ++ rest) ∧ (∀ c ∈ zone, InBase 10 c) ∧
      natBelow? UInt32.size zone = some scope.toNat := by
  simp only [readScope, bind, Option.bind_eq_some_iff, Prod.exists, readChar_eq_some, pure,
    Option.some.injEq, Prod.mk.injEq] at read
  obtain ⟨_, rfl, n, _, number, rfl, rfl⟩ := read
  obtain ⟨-, -, -, -, -, below⟩ := readNumber_spec number
  obtain ⟨zone, rfl, digits, value⟩ := readNumber_numeral number
  have same : n.toUInt32.toNat = n := UInt32.toNat_ofNat_of_lt' below
  exact ⟨zone, rfl, digits, by rw [value, same]⟩

end Numerals

end LocalProxy
