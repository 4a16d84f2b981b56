import LocalProxy.Handshake.Reader

/-! What a reader reads, said by the bytes that write each of its values: it takes them off the
front, leaves the rest as it is and takes nothing else. Bytes that are cut short are the end of
the client's bytes to it, and never a break of the protocol. -/
namespace LocalProxy.Handshake

/-- The bytes ended inside what is being read. -/
inductive Ended : HandshakeFault → Prop
  | inBlock : Ended .endInBlock
  | inNumber : Ended .endInNumber

structure Reads {α : Type} (read : Bytes → Except HandshakeFault (α × Bytes))
    (writes : α → Bytes → Prop) : Prop where
  sound : ∀ {s a rest}, read s = .ok (a, rest) → ∃ front, writes a front ∧ s = front ++ rest
  complete : ∀ {a front}, writes a front → ∀ rest, read (front ++ rest) = .ok (a, rest)
  short : ∀ {a front tail}, writes a (front ++ tail) → tail ≠ [] →
    ∃ fault, Ended fault ∧ read front = .error fault

/-- A reader that takes nothing and gives what was found in what had been read, if it was. -/
def given {α β : Type} (value? : Option α) (give : α → β) (fault : HandshakeFault) (s : Bytes) :
    Except HandshakeFault (β × Bytes) :=
  value?.elim (.error fault) fun a => .ok (give a, s)

/-- What is written by the one and then by the other. -/
def Then {α β : Type} (first : α → Bytes → Prop) (second : α → β → Bytes → Prop) (b : β)
    (s : Bytes) : Prop :=
  ∃ a front rest, first a front ∧ second a b rest ∧ s = front ++ rest

/-- A cut through two pieces is in the first, before its end, or in the second. -/
theorem cut_append {front tail s t : Bytes} (same : front ++ tail = s ++ t) :
    (∃ u, u ≠ [] ∧ s = front ++ u) ∨ ∃ u, front = s ++ u ∧ t = u ++ tail := by
  obtain ⟨u, whole, rest⟩ | ⟨u, whole, rest⟩ := List.append_eq_append_iff.mp same
  · by_cases none : u = []
    · subst none
      exact .inr ⟨[], by rw [whole, List.append_nil, List.append_nil], rest.symm⟩
    · exact .inl ⟨u, none, whole⟩
  · exact .inr ⟨u, whole, rest⟩

namespace Reads

variable {α β : Type} {read : Bytes → Except HandshakeFault (α × Bytes)}
  {next : α → Bytes → Except HandshakeFault (β × Bytes)}
  {writes writes' first : α → Bytes → Prop} {second : α → β → Bytes → Prop}

theorem congr (reads : Reads read writes) (same : ∀ a front, writes a front ↔ writes' a front) :
    Reads read writes' :=
  (funext fun a => funext fun front => propext (same a front) : writes = writes') ▸ reads

theorem bind (reads : Reads read first) (goes : ∀ a, Reads (next a) (second a)) :
    Reads (fun s => read s >>= fun p => next p.1 p.2) (Then first second) where
  sound {s b rest} := by
    intro done
    cases opened : read s with
    | error fault => rw [opened] at done; cases done
    | ok p =>
      obtain ⟨front, written, rfl⟩ := reads.sound opened
      rw [opened] at done
      obtain ⟨more, written', whole⟩ := (goes p.1).sound done
      exact ⟨front ++ more, ⟨p.1, front, more, written, written', rfl⟩,
        by rw [whole, List.append_assoc]⟩
  complete {b front} := by
    rintro ⟨a, head, more, written, written', rfl⟩ rest
    rw [List.append_assoc, reads.complete written]
    exact (goes a).complete written' rest
  short {b front tail} := by
    rintro ⟨a, head, more, written, written', same⟩ cut
    obtain ⟨u, unread, rfl⟩ | ⟨u, rfl, rfl⟩ := cut_append same
    · obtain ⟨fault, ended, failed⟩ := reads.short written unread
      exact ⟨fault, ended, by rw [failed]; rfl⟩
    · rw [reads.complete written]
      exact (goes a).short written' cut

theorem pure (a : α) : Reads (fun s => .ok (a, s)) fun b front => b = a ∧ front = [] where
  sound := by
    intro s b rest done
    cases done
    exact ⟨[], ⟨rfl, rfl⟩, rfl⟩
  complete := by
    rintro b front ⟨rfl, rfl⟩ rest
    rfl
  short := by
    rintro b front tail ⟨-, none⟩ cut
    exact absurd (List.append_eq_nil_iff.mp none).2 cut

theorem never (fault : HandshakeFault) :
    Reads (fun _ => .error fault) fun (_ : α) _ => False :=
  ⟨nofun, nofun, nofun⟩

theorem given (value? : Option α) (give : α → β) (fault : HandshakeFault) :
    Reads (Handshake.given value? give fault) fun b front =>
      (∃ a, value? = some a ∧ b = give a) ∧ front = [] := by
  cases value? with
  | none => exact (never fault).congr fun b front => by simp
  | some a => exact (pure (give a)).congr fun b front => by simp

/-- What is read may be changed, if the rest is left. -/
theorem map (reads : Reads read writes) (give : α → β) :
    Reads (fun s => (read s).map fun p => (give p.1, p.2))
      fun b front => ∃ a, writes a front ∧ b = give a := by
  refine (reads.bind fun a => pure (give a)).congr fun b front => ?_
  constructor
  · rintro ⟨a, head, _, written, ⟨rfl, rfl⟩, rfl⟩
    exact ⟨a, by rwa [List.append_nil], rfl⟩
  · rintro ⟨a, written, rfl⟩
    exact ⟨a, front, [], written, ⟨rfl, rfl⟩, (List.append_nil front).symm⟩

end Reads

theorem octet_reads : Reads octet fun b front => front = [b] where
  sound {s b rest} := by
    intro done
    cases s with
    | nil => cases done
    | cons c s =>
      cases done
      exact ⟨[b], rfl, rfl⟩
  complete := by
    rintro b front rfl rest
    rfl
  short := by
    rintro b front tail whole cut
    cases front with
    | nil => exact ⟨_, .inNumber, rfl⟩
    | cons c front =>
      exact absurd (List.append_eq_nil_iff.mp (List.cons.inj whole).2).2 cut

theorem word_reads : Reads word fun w front => front = wordBytes w where
  sound {s w rest} := by
    intro done
    match s, done with
    | high :: low :: _, rfl => exact ⟨_, rfl, by rw [wordBytes_wordOf]; rfl⟩
  complete := by
    rintro w front rfl rest
    exact word_wordBytes w rest
  short := by
    rintro w front tail whole cut
    match front, whole with
    | [], _ => exact ⟨_, .inNumber, rfl⟩
    | [_], _ => exact ⟨_, .inNumber, rfl⟩
    | _ :: _ :: _, whole =>
      have none := (List.cons.inj (List.cons.inj whole).2).2
      exact absurd (List.append_eq_nil_iff.mp none).2 cut

theorem block_reads (size : Nat) :
    Reads (block size) fun octets front => octets.length = size ∧ front = octets where
  sound {s octets rest} := by
    intro done
    obtain ⟨whole, fits⟩ := block_eq_ok done
    exact ⟨octets, ⟨fits, rfl⟩, whole⟩
  complete := by
    rintro octets front ⟨fits, rfl⟩ rest
    exact block_append rest fits
  short := by
    rintro octets front tail ⟨fits, whole⟩ cut
    have some := List.length_pos_iff.mpr cut
    rw [← whole, List.length_append] at fits
    exact ⟨_, .inBlock, if_neg (by omega)⟩

/-- A field without a NUL, of at most so many octets. -/
structure Field (room : Nat) (field : Bytes) : Prop where
  noNul : 0 ∉ field
  fits : field.length ≤ room

theorem Field.cons {room : Nat} {b : UInt8} {field : Bytes} :
    Field (room + 1) (b :: field) ↔ b ≠ 0 ∧ Field room field := by
  constructor
  · rintro ⟨noNul, fits⟩
    exact ⟨fun nul => noNul (nul ▸ List.mem_cons_self), fun nul => noNul (.tail b nul),
      Nat.le_of_succ_le_succ fits⟩
  · rintro ⟨nonzero, noNul, fits⟩
    exact ⟨List.not_mem_cons_of_ne_of_not_mem nonzero.symm noNul, Nat.succ_le_succ fits⟩

theorem Field.of_prefix {room : Nat} {front field : Bytes} (field_ok : Field room field)
    (part : front <+: field) : Field room front :=
  ⟨fun nul => field_ok.noNul (part.subset nul), Nat.le_trans part.length_le field_ok.fits⟩

theorem untilNul_sound {room : Nat} {s field rest : Bytes}
    (done : untilNul room s = .ok (field, rest)) : Field room field ∧ s = field ++ [0] ++ rest := by
  induction s generalizing room field with
  | nil =>
    rw [untilNul] at done
    cases done
  | cons b s ih =>
    rw [untilNul.eq_def] at done
    dsimp only at done
    split at done
    next nul =>
      cases done
      exact ⟨⟨List.not_mem_nil, Nat.zero_le _⟩, by rw [nul]; rfl⟩
    next nonzero =>
      cases room with
      | zero => cases done
      | succ room =>
        dsimp only at done
        split at done
        next opened =>
          cases done
          obtain ⟨field_ok, rfl⟩ := ih opened
          exact ⟨Field.cons.mpr ⟨nonzero, field_ok⟩, rfl⟩
        next => cases done

theorem untilNul_complete {room : Nat} {field : Bytes} (field_ok : Field room field)
    (rest : Bytes) : untilNul room (field ++ [0] ++ rest) = .ok (field, rest) := by
  induction field generalizing room with
  | nil =>
    rw [List.nil_append, List.singleton_append, untilNul.eq_def]
    rfl
  | cons b field ih =>
    cases room with
    | zero => exact absurd field_ok.fits (Nat.not_succ_le_zero _)
    | succ room =>
      obtain ⟨nonzero, field_ok⟩ := Field.cons.mp field_ok
      rw [List.cons_append, List.cons_append, untilNul, if_neg nonzero]
      simp only [ih field_ok]

theorem untilNul_short {room : Nat} {front : Bytes} (front_ok : Field room front) :
    untilNul room front = .error .endInNumber := by
  induction front generalizing room with
  | nil => rw [untilNul]
  | cons b front ih =>
    cases room with
    | zero => exact absurd front_ok.fits (Nat.not_succ_le_zero _)
    | succ room =>
      obtain ⟨nonzero, front_ok⟩ := Field.cons.mp front_ok
      rw [untilNul, if_neg nonzero]
      simp only [ih front_ok]

theorem untilNul_reads (room : Nat) :
    Reads (untilNul room) fun field front => Field room field ∧ front = field ++ [0] where
  sound done := by
    obtain ⟨field_ok, whole⟩ := untilNul_sound done
    exact ⟨_, ⟨field_ok, rfl⟩, whole⟩
  complete := by
    rintro field front ⟨field_ok, rfl⟩ rest
    exact untilNul_complete field_ok rest
  short := by
    rintro field front tail ⟨field_ok, whole⟩ cut
    obtain rfl | part := List.prefix_concat_iff.mp ⟨tail, whole⟩
    · exact absurd (List.append_right_eq_self.mp whole) cut
    · exact ⟨_, .inNumber, untilNul_short (field_ok.of_prefix part)⟩

/-- The exchange leads to a connection to the target, and these bytes are to be forwarded. -/
def Takes (e : Exchange) (target : Target) (payload : Bytes) : Prop :=
  ∃ buffered unread, e.outcome = .accepted target buffered unread ∧ buffered ++ unread = payload

theorem not_takes {e : Exchange} {target : Target} {payload : Bytes}
    (other : ∀ target buffered unread, e.outcome ≠ .accepted target buffered unread) :
    ¬ Takes e target payload :=
  fun ⟨_, _, accepted, _⟩ => other _ _ _ accepted

/-- A handshake accepts what writes a target, with all that follows to be forwarded, and nothing
else. -/
structure Admits (serve : Bytes → Exchange) (writes : Target → Bytes → Prop) : Prop where
  sound : ∀ {s target payload}, Takes (serve s) target payload →
    ∃ front, writes target front ∧ s = front ++ payload
  complete : ∀ {target front}, writes target front → ∀ payload,
    Takes (serve (front ++ payload)) target payload
  short : ∀ {target front tail}, writes target (front ++ tail) → tail ≠ [] →
    ∃ fault, Ended fault ∧ (serve front).outcome = .dropped fault

/-- A handshake that starts with a reader and goes on with what that has read. -/
def onward {α : Type} (read : Bytes → Except HandshakeFault (α × Bytes))
    (next : α → Bytes → Exchange) (s : Bytes) : Exchange :=
  match read s with
  | .error fault => .drop fault
  | .ok (a, rest) => next a rest

theorem Reads.onward_eq {α : Type} {read : Bytes → Except HandshakeFault (α × Bytes)}
    {writes : α → Bytes → Prop} {a : α} {front : Bytes} (reads : Reads read writes)
    (written : writes a front) (next : α → Bytes → Exchange) (rest : Bytes) :
    onward read next (front ++ rest) = next a rest := by
  rw [onward, reads.complete written]

namespace Admits

variable {α : Type} {read : Bytes → Except HandshakeFault (α × Bytes)}
  {serve : Bytes → Exchange} {next : α → Bytes → Exchange}
  {writes writes' : Target → Bytes → Prop} {first : α → Bytes → Prop}
  {second : α → Target → Bytes → Prop}

theorem congr (admits : Admits serve writes)
    (same : ∀ target front, writes target front ↔ writes' target front) : Admits serve writes' :=
  (funext fun target => funext fun front => propext (same target front) : writes = writes') ▸ admits

theorem onward (reads : Reads read first) (goes : ∀ a, Admits (next a) (second a)) :
    Admits (Handshake.onward read next) (Then first second) where
  sound {s target payload} := by
    intro taken
    unfold Handshake.onward at taken
    cases start : read s with
    | error fault =>
      rw [start] at taken
      exact absurd taken (not_takes nofun)
    | ok p =>
      obtain ⟨front, written, rfl⟩ := reads.sound start
      rw [start] at taken
      obtain ⟨more, written', whole⟩ := (goes p.1).sound taken
      exact ⟨front ++ more, ⟨p.1, front, more, written, written', rfl⟩,
        by rw [whole, List.append_assoc]⟩
  complete {target front} := by
    rintro ⟨a, head, more, written, written', rfl⟩ payload
    rw [List.append_assoc, reads.onward_eq written]
    exact (goes a).complete written' payload
  short {target front tail} := by
    rintro ⟨a, head, more, written, written', same⟩ cut
    obtain ⟨u, unread, rfl⟩ | ⟨u, rfl, rfl⟩ := cut_append same
    · obtain ⟨fault, ended, start⟩ := reads.short written unread
      exact ⟨fault, ended, by rw [Handshake.onward, start]; rfl⟩
    · rw [reads.onward_eq written]
      exact (goes a).short written' cut

/-- The handshake is over, and what follows is forwarded. -/
theorem granted (reply : Bytes) (target : Target) :
    Admits (fun s => ⟨reply, .accepted target [] s⟩) fun t front => t = target ∧ front = [] where
  sound := by
    rintro s t payload ⟨_, _, accepted, rfl⟩
    cases accepted
    exact ⟨[], ⟨rfl, rfl⟩, rfl⟩
  complete := by
    rintro t front ⟨rfl, rfl⟩ payload
    exact ⟨[], payload, rfl, rfl⟩
  short := by
    rintro t front tail ⟨-, none⟩ cut
    exact absurd (List.append_eq_nil_iff.mp none).2 cut

theorem never (refuses : ∀ s target payload, ¬ Takes (serve s) target payload) :
    Admits serve fun _ _ => False :=
  ⟨fun taken => absurd taken (refuses _ _ _), nofun, nofun⟩

theorem cond (admits : Admits serve writes) (c : Prop) [Decidable c] {other : Bytes → Exchange}
    (admits' : Admits other writes') :
    Admits (fun s => if c then serve s else other s)
      fun target front => if c then writes target front else writes' target front := by
  by_cases holds : c
  · simpa only [if_pos holds] using admits
  · simpa only [if_neg holds] using admits'

theorem only (admits : Admits serve writes) (c : Prop) [Decidable c] {other : Bytes → Exchange}
    (refuses : ∀ s target payload, ¬ Takes (other s) target payload) :
    Admits (fun s => if c then serve s else other s) fun target front => c ∧ writes target front :=
  (admits.cond c (never refuses)).congr fun _ _ => if_false_right

theorem after (admits : Admits serve writes) (sent : Bytes) :
    Admits (fun s => (serve s).after sent) writes :=
  ⟨admits.sound, admits.complete, admits.short⟩

end Admits

end LocalProxy.Handshake
