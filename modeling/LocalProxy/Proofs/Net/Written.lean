import LocalProxy.Proofs.Net.Literals
import LocalProxy.Proofs.Text.Numerals

/-! Addresses and endpoints as they are written. -/
namespace LocalProxy

open Text

section Numbers

variable {base bound n : Nat} {width : Option Nat} {padded : Bool} {rest : List Char}

/-- A number is read as it is printed, if there is room for its digits. -/
theorem readNumber_toDigits (large : 1 < base) (small : base ≤ 16) (below : n < bound)
    (fits : ∀ room, width = some room → (Nat.toDigits base n).length ≤ room)
    (ends : Ends (InBase base) rest) :
    readNumber base width padded bound (Nat.toDigits base n ++ rest) = some (n, rest) := by
  obtain ⟨digits, value⟩ := toDigits_spec large small n
  have taken : (Nat.toDigits base n).takeWhile (fun c => (digitValue base c).isSome) =
      Nat.toDigits base n := List.takeWhile_eq_self_iff.mpr digits
  have left : (Nat.toDigits base n).dropWhile (fun c => (digitValue base c).isSome) = [] :=
    List.dropWhile_eq_nil_iff.mpr digits
  have unpadded : (Nat.toDigits base n).head? = some '0' → (Nat.toDigits base n).length = 1 := by
    intro zero
    obtain rfl := eq_zero_of_toDigits large zero
    rw [Nat.toDigits_zero]
    rfl
  have room : width.any (· < (Nat.toDigits base n).length) = false := by
    cases width with
    | none => rfl
    | some room => simpa using fits room rfl
  simp only [readNumber, takeWhile_append_of_ends ends, dropWhile_append_of_ends ends, taken, left,
    value, room, List.nil_append]
  refine if_neg ?_
  rintro (empty | full | exceeds | ⟨-, zero, more⟩)
  · exact Nat.toDigits_ne_nil empty
  · cases full
  · omega
  · have := unpadded zero
    omega

theorem readNumber_decimal (below : n < bound) (ends : Ends (InBase 10) rest) :
    readNumber 10 none true bound (Nat.toDigits 10 n ++ rest) = some (n, rest) :=
  readNumber_toDigits (by decide) (by decide) below nofun ends

end Numbers

section Ipv4

variable {rest : List Char}

theorem readOctet_toDigits (b : UInt8) (ends : Ends (InBase 10) rest) :
    readOctet (Nat.toDigits 10 b.toNat ++ rest) = some (b, rest) := by
  have below := b.toNat_lt
  have fits : (Nat.toDigits 10 b.toNat).length ≤ 3 :=
    (Nat.length_toDigits_le_iff (by decide) (by decide)).mpr (by omega)
  rw [readOctet, readNumber_toDigits (by decide) (by decide) below
    (by rintro _ ⟨⟩; exact fits) ends]
  simp

theorem Ipv4.toList_text (ip : Ipv4) : ip.text.toList = Nat.toDigits 10 ip.a.toNat ++ '.' ::
    (Nat.toDigits 10 ip.b.toNat ++ '.' :: (Nat.toDigits 10 ip.c.toNat ++ '.' ::
      Nat.toDigits 10 ip.d.toNat)) := by
  simp [text, octets]

theorem readIpv4_text (ip : Ipv4) : readIpv4 ip.text.toList = some (ip, []) := by
  have dot : ∀ s, Ends (InBase 10) ('.' :: s) := ends_cons (by decide)
  have done : Ends (InBase 10) [] := nofun
  have last := readOctet_toDigits ip.d done
  rw [List.append_nil] at last
  simp only [Ipv4.toList_text, readIpv4, readOctet_toDigits _ (dot _), readChar, last, bind,
    Option.bind_some, if_true, pure]

theorem Ipv4.parse?_text (ip : Ipv4) : Ipv4.parse? ip.text = some ip := by
  rw [Ipv4.parse?, readIpv4_text]
  rfl

/-- An IPv4 address has dots in it. -/
theorem dot_mem_of_readIpv4 {s : List Char} {ip : Ipv4} (read : readIpv4 s = some (ip, rest)) :
    '.' ∈ s := by
  simp only [readIpv4, bind, Option.bind_eq_some_iff, Prod.exists, readChar_eq_some] at read
  obtain ⟨a, _, first, _, rfl, -⟩ := read
  obtain ⟨digits, rfl, -⟩ := readOctet_spec first
  simp

theorem readNumber_of_ends {base bound : Nat} {width : Option Nat} {padded : Bool} {s : List Char}
    (ends : Ends (InBase base) s) : readNumber base width padded bound s = none := by
  have none : s.takeWhile (fun c => (digitValue base c).isSome) = [] := by
    cases s with
    | nil => rfl
    | cons c s => exact List.takeWhile_cons_of_neg (ends c rfl)
  rw [readNumber, none]
  exact if_pos (.inl rfl)

theorem readIpv4_of_ends {s : List Char} (ends : Ends (InBase 10) s) : readIpv4 s = none := by
  rw [readIpv4, readOctet, readNumber_of_ends ends]
  rfl

end Ipv4

section Ipv6

variable {g : UInt16} {gs : List UInt16} {rest : List Char}

/-- Groups as they are written behind another. -/
def behind (gs : List UInt16) : List Char := gs.flatMap fun g => ':' :: Nat.toDigits 16 g.toNat

theorem Ipv6.toList_joinGroups (gs : List UInt16) : (Ipv6.joinGroups gs).toList =
    [':'].intercalate (gs.map fun g => Nat.toDigits 16 g.toNat) := by
  simp [joinGroups, hex, Function.comp_def]

theorem Ipv6.toList_joinGroups_cons (g : UInt16) (gs : List UInt16) :
    (Ipv6.joinGroups (g :: gs)).toList = Nat.toDigits 16 g.toNat ++ behind gs := by
  rw [toList_joinGroups]
  induction gs generalizing g with
  | nil => simp [behind]
  | cons h gs ih =>
    have more := ih h
    rw [List.map_cons] at more
    rw [List.map_cons, List.map_cons, List.intercalate_cons_cons, more]
    simp [behind]

theorem not_dot_mem_toDigits (g : UInt16) : '.' ∉ Nat.toDigits 16 g.toNat :=
  notMem_toDigits (by decide) (by decide) (by decide) g.toNat

theorem not_dot_mem_behind (gs : List UInt16) : '.' ∉ behind gs := by
  simp only [behind, List.mem_flatMap, List.mem_cons, not_exists, not_and, not_or]
  exact fun g _ => ⟨by decide, not_dot_mem_toDigits g⟩

theorem not_dot_mem_joinGroups (gs : List UInt16) : '.' ∉ (Ipv6.joinGroups gs).toList := by
  cases gs with
  | nil => simp [Ipv6.joinGroups]
  | cons g gs => simp [Ipv6.toList_joinGroups_cons, not_dot_mem_toDigits, not_dot_mem_behind]

theorem readGroup_toDigits (g : UInt16) (ends : Ends (InBase 16) rest) :
    readNumber 16 (some 4) true UInt16.size (Nat.toDigits 16 g.toNat ++ rest) =
      some (g.toNat, rest) := by
  have below := g.toNat_lt
  have fits : (Nat.toDigits 16 g.toNat).length ≤ 4 :=
    (Nat.length_toDigits_le_iff (by decide) (by decide)).mpr (by omega)
  exact readNumber_toDigits (by decide) (by decide) below (by rintro _ ⟨⟩; exact fits) ends

/-- The text does not go on with a group, be it with a colon in front. -/
def Stops (rest : List Char) : Prop :=
  Ends (InBase 16) rest ∧ ∀ t, rest = ':' :: t → Ends (InBase 16) t

theorem readGroups_stop {isFirst : Bool} {s : List Char} (room : Nat)
    (stop : ∀ t, (if isFirst then some s else readChar ':' s) = some t → Ends (InBase 16) t) :
    readGroups isFirst room s = ([], false, s) := by
  cases room with
  | zero => rfl
  | succ room =>
    rw [readGroups]
    generalize (if isFirst then some s else readChar ':' s) = here at stop
    cases here with
    | none => simp
    | some t =>
      have ends := stop t rfl
      have decimal := readIpv4_of_ends fun c first digit => ends c first (digit.mono (by decide))
      simp [decimal, readNumber_of_ends ends]

theorem readGroups_group (isFirst : Bool) (room : Nat) {s : List Char}
    (here : (if isFirst then some s else readChar ':' s) = some (Nat.toDigits 16 g.toNat ++ rest))
    (undotted : readIpv4 (Nat.toDigits 16 g.toNat ++ rest) = none) (ends : Ends (InBase 16) rest) :
    readGroups isFirst (room + 1) s = (g :: (readGroups false room rest).1,
      (readGroups false room rest).2.1, (readGroups false room rest).2.2) := by
  rw [readGroups, here]
  simp [undotted, readGroup_toDigits g ends]

theorem ends_behind (stops : Stops rest) (gs : List UInt16) :
    Ends (InBase 16) (behind gs ++ rest) := by
  cases gs with
  | nil => exact stops.1
  | cons g gs => exact ends_cons (by decide) _

theorem readIpv4_undotted {s : List Char} (plain : '.' ∉ s) : readIpv4 s = none := by
  cases read : readIpv4 s with
  | none => rfl
  | some p => exact absurd (dot_mem_of_readIpv4 read) plain

theorem readGroups_behind {room : Nat} (fits : gs.length ≤ room) (plain : '.' ∉ rest)
    (stops : Stops rest) : readGroups false room (behind gs ++ rest) = (gs, false, rest) := by
  induction gs generalizing room with
  | nil => exact readGroups_stop room fun t begun => stops.2 t (readChar_eq_some.mp begun)
  | cons g gs ih =>
    obtain ⟨room, rfl⟩ := Nat.exists_eq_add_one_of_ne_zero (Nat.ne_zero_of_lt fits)
    have undotted : readIpv4 (Nat.toDigits 16 g.toNat ++ (behind gs ++ rest)) = none :=
      readIpv4_undotted (by simp [not_dot_mem_toDigits, not_dot_mem_behind, plain])
    have here : readChar ':' (behind (g :: gs) ++ rest) =
        some (Nat.toDigits 16 g.toNat ++ (behind gs ++ rest)) := by
      simp [behind, readChar]
    rw [readGroups_group false room (by rw [if_neg Bool.false_ne_true]; exact here) undotted
      (ends_behind stops gs), ih (Nat.le_of_succ_le_succ fits)]

/-- Groups are read as they are joined. -/
theorem readGroups_joined {room : Nat} (fits : gs.length ≤ room) (plain : '.' ∉ rest)
    (stops : Stops rest) :
    readGroups true room ((Ipv6.joinGroups gs).toList ++ rest) = (gs, false, rest) := by
  cases gs with
  | nil =>
    refine readGroups_stop room ?_
    rintro t ⟨⟩
    exact stops.1
  | cons g gs =>
    obtain ⟨room, rfl⟩ := Nat.exists_eq_add_one_of_ne_zero (Nat.ne_zero_of_lt fits)
    rw [Ipv6.toList_joinGroups_cons, List.append_assoc]
    have undotted : readIpv4 (Nat.toDigits 16 g.toNat ++ (behind gs ++ rest)) = none :=
      readIpv4_undotted (by simp [not_dot_mem_toDigits, not_dot_mem_behind, plain])
    rw [readGroups_group true room rfl undotted (ends_behind stops gs),
      readGroups_behind (Nat.le_of_succ_le_succ fits) plain stops]

end Ipv6

section Runs

variable {gs : List UInt16} {start length : Nat}

/-- From its position on, a run is of zeros. -/
theorem Ipv6.zeros_of_zeroRuns (run : (Ipv6.zeroRuns gs)[start]? = some length) :
    List.replicate length 0 <+: gs.drop start := by
  induction gs generalizing start length with
  | nil => simp [zeroRuns] at run
  | cons g gs ih =>
    cases start with
    | succ start => exact ih run
    | zero =>
      obtain rfl := Option.some.inj run
      split
      next zero =>
        obtain rfl := zero
        rw [List.replicate_succ, List.drop_zero, List.cons_prefix_cons]
        refine ⟨rfl, ?_⟩
        cases first : zeroRuns gs with
        | nil => exact List.nil_prefix
        | cons m runs =>
          have head : (zeroRuns gs)[0]? = some m := by rw [first, List.getElem?_cons_zero]
          exact ih head
      next => exact List.nil_prefix

theorem Ipv6.zeros_of_longestRun (gs : List UInt16) :
    List.replicate (Ipv6.longestRun gs).2 0 <+: gs.drop (Ipv6.longestRun gs).1 := by
  rw [longestRun]
  refine List.foldlRecOn
    (motive := fun best : Nat × Nat => List.replicate best.2 0 <+: gs.drop best.1) _ _
    List.nil_prefix ?_
  rintro best zeros ⟨length, start⟩ member
  dsimp only
  split
  next => exact zeros_of_zeroRuns (List.mk_mem_zipIdx_iff_getElem?.mp member)
  next => exact zeros

end Runs

section Text

variable {s t rest : List Char} {front back : List UInt16} {dotted : Bool}

theorem readIpv6_full (read : readGroups true 8 s = (front, dotted, rest))
    (full : front.length = 8) : readIpv6 s = (Ipv6.ofGroups? front).map fun ip => (ip, rest) := by
  simp only [readIpv6, read, full, if_true]
  cases Ipv6.ofGroups? front <;> rfl

theorem readIpv6_gap (read : readGroups true 8 s = (front, false, ':' :: ':' :: t))
    (short : front.length ≠ 8)
    (after : readGroups true (7 - front.length) t = (back, dotted, rest)) :
    readIpv6 s = (Ipv6.ofGroups? (front ++ List.replicate (8 - front.length - back.length) 0 ++
      back)).map fun ip => (ip, rest) := by
  simp only [readIpv6, read, short, if_false, Bool.false_eq_true, readChar, if_true, bind,
    Option.bind_some, after]
  cases Ipv6.ofGroups? (front ++ List.replicate (8 - front.length - back.length) 0 ++ back) <;> rfl

theorem Ipv6.length_groups (ip : Ipv6) : ip.groups.length = 8 := rfl

theorem Ipv6.ofGroups?_groups (ip : Ipv6) : ofGroups? ip.groups = some ip := rfl

theorem stops_end : Stops [] := ⟨nofun, nofun⟩

theorem stops_gap (t : List Char) : Stops (':' :: ':' :: t) := by
  refine ⟨ends_cons (by decide) _, ?_⟩
  rintro _ ⟨⟩
  exact ends_cons (by decide) t

theorem readIpv6_joined (ip : Ipv6) :
    readIpv6 (Ipv6.joinGroups ip.groups).toList = some (ip, []) := by
  have read := readGroups_joined (Nat.le_of_eq ip.length_groups) (List.not_mem_nil) stops_end
  rw [List.append_nil] at read
  rw [readIpv6_full read ip.length_groups, ip.ofGroups?_groups]
  rfl

/-- A run of zeros is left out, and is what is missing. -/
theorem readIpv6_abridged {ip : Ipv6} {start length : Nat} (two : 1 < length)
    (zeros : List.replicate length 0 <+: ip.groups.drop start) :
    readIpv6 ((Ipv6.joinGroups (ip.groups.take start)).toList ++ ':' :: ':' ::
      (Ipv6.joinGroups (ip.groups.drop (start + length))).toList) = some (ip, []) := by
  have total := ip.length_groups
  obtain ⟨back, split⟩ := zeros
  have behind : ip.groups.drop (start + length) = back := by
    rw [← List.drop_drop, ← split, List.drop_left' (List.length_replicate)]
  have whole : ip.groups = ip.groups.take start ++ List.replicate length 0 ++ back := by
    rw [List.append_assoc, split, List.take_append_drop]
  have sizes := congrArg List.length whole
  simp only [List.length_append, List.length_replicate] at sizes
  have front_fits : (ip.groups.take start).length ≤ 8 := by omega
  have back_fits : back.length ≤ 7 - (ip.groups.take start).length := by omega
  have front := readGroups_joined front_fits
    (by simp [not_dot_mem_joinGroups]) (stops_gap (Ipv6.joinGroups back).toList)
  have after := readGroups_joined back_fits List.not_mem_nil stops_end
  rw [List.append_nil] at after
  have gap : 8 - (ip.groups.take start).length - back.length = length := by omega
  rw [behind, readIpv6_gap front (by omega) after, gap, ← whole, ip.ofGroups?_groups]
  rfl

/-- An IPv4 address fills the last two groups. -/
theorem readGroups_dotted {isFirst : Bool} {v4 : Ipv4} (room : Nat)
    (here : (if isFirst then some s else readChar ':' s) = some v4.text.toList) :
    readGroups isFirst (room + 2) s = ([wordOf v4.a v4.b, wordOf v4.c v4.d], true, []) := by
  rw [readGroups, here]
  simp [readIpv4_text]

theorem Ipv6.mapped?_eq_some {ip : Ipv6} {v4 : Ipv4} (mapped : ip.mapped? = some v4) :
    ip.groups = [0, 0, 0, 0, 0, 0xFFFF, wordOf v4.a v4.b, wordOf v4.c v4.d] := by
  obtain ⟨front, same⟩ := Option.ite_none_right_eq_some.mp mapped
  cases same
  rw [← List.take_append_drop 6 ip.groups, front]
  simp [groups, wordOf_bytes]

theorem readGroups_mapped (v4 : Ipv4) : readGroups true 7 ("ffff:" ++ v4.text).toList =
    ([0xFFFF, wordOf v4.a v4.b, wordOf v4.c v4.d], true, []) := by
  have digits : Nat.toDigits 16 (0xFFFF : UInt16).toNat = ['f', 'f', 'f', 'f'] := by decide
  have written : ("ffff:" ++ v4.text).toList =
      Nat.toDigits 16 (0xFFFF : UInt16).toNat ++ ':' :: v4.text.toList := by
    rw [digits]
    simp
  have undotted : readIpv4 (Nat.toDigits 16 (0xFFFF : UInt16).toNat ++ ':' :: v4.text.toList) =
      none := by
    rw [digits]
    exact readIpv4_of_ends (ends_cons (by decide) _)
  have colon : Ends (InBase 16) (':' :: v4.text.toList) := ends_cons (by decide) _
  rw [written, readGroups_group true 6 rfl undotted colon, readGroups_dotted 4 rfl]

theorem readIpv6_mapped {ip : Ipv6} {v4 : Ipv4} (mapped : ip.mapped? = some v4) :
    readIpv6 ("::ffff:" ++ v4.text).toList = some (ip, []) := by
  have written : ("::ffff:" ++ v4.text).toList = ':' :: ':' :: ("ffff:" ++ v4.text).toList := by
    simp
  have front : readGroups true 8 (':' :: ':' :: ("ffff:" ++ v4.text).toList) =
      ([], false, ':' :: ':' :: ("ffff:" ++ v4.text).toList) := by
    refine readGroups_stop 8 ?_
    rintro t ⟨⟩
    exact ends_cons (by decide) _
  rw [written, readIpv6_gap front (by decide) (readGroups_mapped v4)]
  change (Ipv6.ofGroups? [0, 0, 0, 0, 0, 0xFFFF, wordOf v4.a v4.b, wordOf v4.c v4.d]).map _ = _
  rw [← Ipv6.mapped?_eq_some mapped, ip.ofGroups?_groups]
  rfl

/-- An IPv6 address is read as it is written. -/
theorem readIpv6_text (ip : Ipv6) : readIpv6 ip.text.toList = some (ip, []) := by
  rw [Ipv6.text]
  split
  next v4 mapped => exact readIpv6_mapped mapped
  next =>
    dsimp only
    split
    next two =>
      have read := readIpv6_abridged two (Ipv6.zeros_of_longestRun ip.groups)
      simpa using read
    next => exact readIpv6_joined ip

theorem Ipv6.parse?_text (ip : Ipv6) : Ipv6.parse? ip.text = some ip := by
  rw [Ipv6.parse?, readIpv6_text]
  rfl

end Text

namespace Endpoint

variable {name : List Char}

theorem readPort_decimal (port : UInt16) :
    readPort (':' :: (toString port.toNat).toList) = some (port, []) := by
  have number : readNumber 10 none true UInt16.size (Nat.toDigits 10 port.toNat ++ []) =
      some (port.toNat, []) := readNumber_decimal port.toNat_lt nofun
  rw [List.append_nil] at number
  rw [readPort, toList_decimal]
  simp only [readChar, if_true, bind, Option.bind_some, number]
  simp

/-- An address literal and a printed port are an endpoint. -/
theorem readV4_literal {ip : Ipv4} (literal : readIpv4 name = some (ip, [])) (port : UInt16) :
    readV4 (name ++ ':' :: (toString port.toNat).toList) = some (v4 ip port, []) := by
  have ends : Ends InIpv4 (':' :: (toString port.toNat).toList) := ends_cons (by decide) _
  have address := readIpv4_append ends name
  rw [literal, Option.map_some, List.nil_append] at address
  rw [readV4, address]
  simp only [bind, Option.bind_some, readPort_decimal]
  rfl

/-- The zone in front of the closing bracket. -/
def zoneText (scope : UInt32) : List Char :=
  if scope = 0 then [] else '%' :: Nat.toDigits 10 scope.toNat

theorem readScope_zoneText (scope : UInt32) (rest : List Char) :
    (readScope (zoneText scope ++ ']' :: rest)).getD (0, zoneText scope ++ ']' :: rest) =
      (scope, ']' :: rest) := by
  unfold zoneText
  split
  next unscoped =>
    rw [unscoped]
    rfl
  next =>
    have bracket : Ends (InBase 10) (']' :: rest) := ends_cons (by decide) rest
    have number := readNumber_decimal scope.toNat_lt bracket
    rw [readScope, List.cons_append]
    simp only [readChar, if_true, bind, Option.bind_some, number]
    simp

theorem toList_text_v6 (ip : Ipv6) (port : UInt16) (scope : UInt32) :
    (v6 ip port scope).text.toList = '[' :: (ip.text.toList ++ (zoneText scope ++
      ']' :: ':' :: (toString port.toNat).toList)) := by
  by_cases unscoped : scope = 0 <;> simp [text, zoneText, unscoped]

theorem readV6_text (ip : Ipv6) (port : UInt16) (scope : UInt32) :
    readV6 (v6 ip port scope).text.toList = some (v6 ip port scope, []) := by
  have ends : Ends InIpv6 (zoneText scope ++ ']' :: ':' :: (toString port.toNat).toList) := by
    unfold zoneText
    split <;> exact ends_cons (by decide) _
  have address := readIpv6_append ends ip.text.toList
  rw [readIpv6_text, Option.map_some, List.nil_append] at address
  rw [toList_text_v6, readV6]
  simp only [readChar, if_true, bind, Option.bind_some, address, readScope_zoneText,
    readPort_decimal]
  rfl

/-- An endpoint is read as it is written. -/
theorem parse?_text (e : Endpoint) : parse? e.text = some e := by
  cases e with
  | v4 ip port =>
    have read := readV4_literal (readIpv4_text ip) port
    have written : (v4 ip port).text.toList =
        ip.text.toList ++ ':' :: (toString port.toNat).toList := by
      simp [text]
    rw [parse?, written, read]
    rfl
  | v6 ip port scope =>
    have opened : readV4 (v6 ip port scope).text.toList = none := by
      rw [readV4, readIpv4_of_ends]
      · rfl
      · rw [toList_text_v6]
        exact ends_cons (by decide) _
    rw [parse?, opened, readV6_text]
    rfl

end Endpoint

end LocalProxy
