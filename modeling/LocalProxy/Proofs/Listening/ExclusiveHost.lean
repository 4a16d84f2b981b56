import LocalProxy.Proofs.Listening.Runs
import LocalProxy.Proofs.Listening.Settling

/-! A host on which only the manager holds sockets, and each at most once. Whoever asks for a
socket gets it just if no open handle has it. -/
namespace LocalProxy

/-- What a host does apart from that: what an address stands for, which types have a listener on
a network, what a listener is bound to, and what refusals and closings say. -/
structure ExclusiveHost (π : Type) where
  place : String → π
  serves : Network → InboundType → Bool
  bound : Network → Service → Endpoint
  fault : Network → Service → OpenFault
  complaint : Handle → Option String

variable {π : Type}

namespace ExclusiveHost

abbrev Socket (π : Type) := Network × π

def socket (host : ExclusiveHost π) (slot : Slot) : Socket π := (slot.1, host.place slot.2.address)

/-- A call is answered truly: refused just while an open handle has the socket. -/
def Truthful (host : ExclusiveHost π) (before : List Call) : Call → Prop
  | .listen network service (.ok _) =>
    ∀ h, Call.Open before h → host.socket h.slot ≠ host.socket (network, service)
  | .listen network service (.error _) =>
    ∃ h, Call.Open before h ∧ host.socket h.slot = host.socket (network, service)
  | .close _ _ => True

/-- The host holds the sockets of the open handles, and each call was answered truly. -/
structure Holds (host : ExclusiveHost π) (b : Books (List (Socket π))) : Prop where
  held : ∀ socket, socket ∈ b.outside ↔ ∃ h ∈ b.live, host.socket h.slot = socket
  apart : (b.live.map fun h => host.socket h.slot).Nodup
  truthful : ∀ before c after, b.calls = before ++ c :: after → host.Truthful before c

namespace Holds

variable {host : ExclusiveHost π}

theorem start : host.Holds (Books.start []) where
  held := by simp [Books.start]
  apart := List.nodup_nil
  truthful := by simp [Books.start]

theorem truthful_concat {b : Books (List (Socket π))} (holds : host.Holds b) {c : Call}
    (last : host.Truthful b.calls c) :
    ∀ before x after, b.calls ++ [c] = before ++ x :: after → host.Truthful before x := by
  intro before x after eq
  rcases concat_split eq with ⟨rfl, rfl⟩ | ⟨rest, earlier⟩
  · exact last
  · exact holds.truthful before x rest earlier

end Holds

/-- A manager whose listeners are on the host, and are all there is. -/
structure Hosts (host : ExclusiveHost π) (m : Manager (List (Socket π))) : Prop where
  balanced : m.Balanced
  holds : host.Holds (m.books m.handles)

theorem Hosts.eq_of_socket {host : ExclusiveHost π} {m : Manager (List (Socket π))}
    (hosts : host.Hosts m) {a b : Handle} (left : a ∈ m.handles) (right : b ∈ m.handles)
    (same : host.socket a.slot = host.socket b.slot) : a = b :=
  List.inj_on_of_nodup_map hosts.holds.apart left right same

variable [DecidableEq π]

/-- The outside whose state is the list of the sockets that are held. -/
def drivers (host : ExclusiveHost π) : Drivers (List (Socket π)) where
  serves := host.serves
  listen network service held :=
    if host.socket (network, service) ∈ held then (.error (host.fault network service), held)
    else (.ok (host.bound network service), host.socket (network, service) :: held)
  close h held := (host.complaint h, held.filter (· ≠ host.socket h.slot))

namespace Holds

variable {host : ExclusiveHost π}

theorem move {b c : Books (List (Socket π))} (balanced : b.Balanced) (holds : host.Holds b)
    (move : Move host.drivers b c) : host.Holds c := by
  cases move with
  | @opened network service bound outside _ answer =>
    simp only [drivers] at answer
    split at answer
    · cases answer
    rename_i vacant
    obtain ⟨rfl, rfl⟩ := Prod.mk.inj answer |>.imp_left Except.ok.inj
    rw [holds.held] at vacant
    have free : ∀ h ∈ b.live, host.socket h.slot ≠ host.socket (network, service) :=
      fun h live same => vacant ⟨h, live, same⟩
    refine ⟨?_, ?_, holds.truthful_concat ?_⟩
    · intro socket
      simp only [List.mem_cons, holds.held, List.mem_append, or_and_right, exists_or]
      rw [or_comm]
      refine or_congr_right ?_
      simp [Handle.slot, eq_comm]
    · rw [List.map_append, List.nodup_append]
      refine ⟨holds.apart, List.nodup_singleton _, ?_⟩
      intro socket held new fresh
      obtain ⟨h, live, rfl⟩ := List.mem_map.mp held
      rw [List.mem_singleton.mp fresh]
      exact free h live
    · intro h opened
      exact free h ((balanced.live h).mpr opened)
  | @refused network service fault outside _ answer =>
    simp only [drivers] at answer
    split at answer
    · rename_i taken
      obtain ⟨rfl, rfl⟩ := Prod.mk.inj answer |>.imp_left Except.error.inj
      refine ⟨holds.held, holds.apart, holds.truthful_concat ?_⟩
      obtain ⟨h, live, same⟩ := (holds.held _).mp taken
      exact ⟨h, (balanced.live h).mp live, same⟩
    · cases answer
  | @closed h before after split =>
    have apart := holds.apart
    rw [split] at apart
    obtain ⟨rest, others⟩ := nodup_remove apart
    refine ⟨?_, rest, holds.truthful_concat trivial⟩
    intro socket
    simp only [drivers, List.mem_filter, holds.held, decide_eq_true_eq, split]
    constructor
    · rintro ⟨⟨other, live, rfl⟩, differs⟩
      refine ⟨other, ?_, rfl⟩
      rcases List.mem_append.mp live with left | right
      · exact List.mem_append_left _ left
      · rcases List.mem_cons.mp right with rfl | right
        · exact absurd rfl differs
        · exact List.mem_append_right _ right
    · rintro ⟨other, live, rfl⟩
      refine ⟨⟨other, ?_, rfl⟩, others other live⟩
      rcases List.mem_append.mp live with left | right
      · exact List.mem_append_left _ left
      · exact List.mem_append_right _ (List.mem_cons_of_mem _ right)

theorem moves {b c : Books (List (Socket π))} (balanced : b.Balanced) (holds : host.Holds b)
    (moves : Moves host.drivers b c) : host.Holds c := by
  induction moves with
  | refl => exact holds
  | tail earlier last ih => exact ih.move (balanced.moves earlier) last

end Holds

namespace Hosts

variable {host : ExclusiveHost π} {m m' : Manager (List (Socket π))}

theorem moves (hosts : host.Hosts m)
    (moves : Moves host.drivers (m.books m.handles) (m'.books m'.handles)) : host.Hosts m' :=
  ⟨hosts.balanced.moves moves, hosts.holds.moves hosts.balanced moves⟩

variable {κ : Type} [DecidableEq κ] {L : Layer (List (Socket π)) κ} {wanted : List κ}
  {out : Manager (List (Socket π)) × Report κ} {asked : List Call} {k : κ} {needed : List Slot}

/-- A key is not granted while a handle that stays has a socket it needs. -/
theorem not_granted (hosts : host.Hosts m)
    (run : L.Reconciles host.drivers wanted m out asked) (needs : L.needs k = some needed)
    {h : Handle} (held : h ∈ m.handles) (stays : L.Stays wanted h) {slot : Slot}
    (member : slot ∈ needed) (same : host.socket h.slot = host.socket slot) :
    ¬ L.Granted asked k := by
  rintro ⟨_, needs', granted⟩
  obtain rfl := Option.some.inj (needs.symm.trans needs')
  obtain ⟨new, member⟩ := granted slot member
  obtain ⟨before, after, split⟩ := List.append_of_mem member
  have journal : out.1.calls = (m.calls ++ before) ++ .listen slot.1 slot.2 (.ok new) :: after := by
    rw [run.asks.calls, split, List.append_assoc]
  obtain ⟨opened, unclosed⟩ := (hosts.balanced.live h).mp held
  refine (hosts.moves run.moves).holds.truthful _ _ _ journal h ⟨?_, ?_⟩ same
  · exact List.mem_append_left _ opened
  · intro failure closed
    rcases List.mem_append.mp closed with earlier | now
    · exact unclosed failure earlier
    · have inside : Call.close h failure ∈ asked := split ▸ List.mem_append_left _ now
      exact run.untouched held stays inside rfl

/-- A key is granted if no handle that stays and no other key to be opened has a socket that it
needs. -/
theorem granted (hosts : host.Hosts m) (run : L.Reconciles host.drivers wanted m out asked)
    (desired : k ∈ wanted) (idle : k ∉ L.running m) (needs : L.needs k = some needed)
    (clear : ∀ h ∈ m.handles, L.Stays wanted h →
      ∀ slot ∈ needed, host.socket h.slot ≠ host.socket slot)
    (distinct : ∀ k' ∈ wanted, k' ∉ L.running m → ∀ needed', L.needs k' = some needed' →
      ∀ other ∈ needed', ∀ slot ∈ needed, host.socket other = host.socket slot → other = slot) :
    L.Granted asked k := by
  by_contra never
  rcases (run.denied_iff desired idle).mpr never with hopeless | ⟨_, needs', refusal⟩
  · cases needs.symm.trans hopeless
  obtain rfl := Option.some.inj (needs.symm.trans needs')
  obtain ⟨slot, member, fault, refused⟩ := refusal
  obtain ⟨before, after, split⟩ := List.append_of_mem refused
  have journal :
      out.1.calls = (m.calls ++ before) ++ .listen slot.1 slot.2 (.error fault) :: after := by
    rw [run.asks.calls, split, List.append_assoc]
  have later := hosts.moves run.moves
  obtain ⟨h, opened, same⟩ := later.holds.truthful _ _ _ journal
  have free : Call.Free (m.calls ++ before) slot := later.balanced.lawful _ _ _ journal
  have unclosed : ∀ failure, Call.close h failure ∉ m.calls ∧ Call.close h failure ∉ before :=
    fun failure => not_or.mp (mt List.mem_append.mpr (opened.2 failure))
  rcases List.mem_append.mp opened.1 with earlier | now
  · -- The handle was open before, and stays.
    have held := (hosts.balanced.live h).mpr ⟨earlier, fun failure => (unclosed failure).1⟩
    have stays := run.stays_of_split split held fun failure => (unclosed failure).2
    exact clear h held stays slot member same
  · -- The handle was opened for another key.
    have inside : Call.granting h ∈ asked := split ▸ List.mem_append_left _ now
    obtain ⟨k', desired', idle', needed', needs', member'⟩ := run.needs_listen inside
    exact free h opened (distinct k' desired' idle' needed' needs' _ member' slot member same)

/-- A reconciliation succeeds where the slots to be opened are among some with sockets of their
own, and a handle that stays either has such a slot or a socket that is not asked for. -/
theorem succeeds (hosts : host.Hosts m) (run : L.Reconciles host.drivers wanted m out asked)
    {fits : Slot → Prop}
    (needs : ∀ k ∈ wanted, k ∉ L.running m →
      ∃ needed, L.needs k = some needed ∧ ∀ slot ∈ needed, fits slot)
    (clear : ∀ h ∈ m.handles, L.Stays wanted h → fits h.slot ∨
      ∀ k ∈ wanted, k ∉ L.running m → ∀ slot, L.part slot = some k → fits slot →
        host.socket h.slot ≠ host.socket slot)
    (distinct : ∀ a b, fits a → fits b → host.socket a = host.socket b → a = b) :
    (∀ k ∈ wanted, k ∈ L.running out.1) ∧ out.2.failed = [] := by
  refine run.succeeds fun k desired idle => ?_
  obtain ⟨needed, has, fit⟩ := needs k desired idle
  refine hosts.granted run desired idle has ?_ ?_
  · intro h held stays slot member same
    have part := L.part_needs has member
    rcases clear h held stays with fits_h | apart
    · have slots := distinct h.slot slot fits_h (fit slot member) same
      exact idle (L.mem_running.mpr ⟨h, held, slots ▸ part⟩)
    · exact apart k desired idle slot part (fit slot member) same
  · intro k' desired' idle' needed' has' other member' slot member same
    obtain ⟨_, has'', fit'⟩ := needs k' desired' idle'
    obtain rfl := Option.some.inj (has'.symm.trans has'')
    exact distinct other slot (fit' other member') (fit slot member) same

end Hosts

end ExclusiveHost

end LocalProxy
