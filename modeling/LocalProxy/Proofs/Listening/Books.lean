import LocalProxy.Listening.Manager
import Mathlib.Data.List.Nodup
import Mathlib.Logic.Relation
import Mathlib.Tactic.Common

/-! What a manager has asked of the outside, as a run of single moves. A move opens a listener
in a slot that nobody holds, is refused one there, or closes a handle that is open. Whatever
is a run of moves leaves balanced books, and a journal in which each call stands with the
answer the outside gave to it. -/
namespace LocalProxy

/-- The place of a listener: one network and what is served on it. -/
abbrev Slot := Network × Service

def Handle.slot (h : Handle) : Slot := (h.network, h.service)

namespace Call

def slot : Call → Slot
  | listen network service _ => (network, service)
  | close h _ => h.slot

/-- The call that brought a handle. -/
def granting (h : Handle) : Call := listen h.network h.service (.ok h)

/-- A handle is open after some calls. -/
def Open (calls : List Call) (h : Handle) : Prop :=
  granting h ∈ calls ∧ ∀ failure, close h failure ∉ calls

/-- No open handle has the slot. -/
def Free (before : List Call) (slot : Slot) : Prop := ∀ h, Open before h → h.slot ≠ slot

/-- What a call needs of those before it. A slot is asked for only while it is free, what is
opened is a new handle of that slot, and only an open handle is closed. -/
def Lawful (before : List Call) : Call → Prop
  | listen network service (.ok h) =>
    Free before (network, service) ∧ h.slot = (network, service) ∧
      ∀ other, granting other ∈ before → other.serial ≠ h.serial
  | listen network service (.error _) => Free before (network, service)
  | close h _ => Open before h

@[simp] theorem slot_listen {network : Network} {service : Service}
    {outcome : Except OpenFault Handle} :
    (listen network service outcome).slot = (network, service) := rfl

@[simp] theorem slot_close {h : Handle} {failure : Option String} :
    (close h failure).slot = h.slot := rfl

@[simp] theorem slot_granting (h : Handle) : (granting h).slot = h.slot := rfl

@[simp] theorem granting_inj {a b : Handle} : granting a = granting b ↔ a = b := by
  constructor
  · intro same
    injection same with _ _ outcome
    exact Except.ok.inj outcome
  · rintro rfl
    rfl

@[simp] theorem granting_ne_refused {h : Handle} {network : Network} {service : Service}
    {fault : OpenFault} : granting h ≠ listen network service (.error fault) := by
  intro same
  injection same with _ _ outcome
  cases outcome

@[simp] theorem granting_ne_close {h other : Handle} {failure : Option String} :
    granting h ≠ close other failure := by
  simp [granting]

@[simp] theorem close_ne_granting {h other : Handle} {failure : Option String} :
    close other failure ≠ granting h := by
  simp [granting]

end Call

variable {σ : Type} {d : Drivers σ}

/-- The outside was asked for some calls, one after the other, and each tells its answer. -/
inductive Drivers.Answered (d : Drivers σ) : σ → List Call → σ → Prop
  | nothing (outside : σ) : Answered d outside [] outside
  | granted {outside mid last : σ} {later : List Call} {h : Handle}
      (answer : d.listen h.network h.service outside = (.ok h.bound, mid))
      (rest : Answered d mid later last) : Answered d outside (.granting h :: later) last
  | refused {outside mid last : σ} {later : List Call} {network : Network} {service : Service}
      {fault : OpenFault} (answer : d.listen network service outside = (.error fault, mid))
      (rest : Answered d mid later last) :
      Answered d outside (.listen network service (.error fault) :: later) last
  | closed {outside mid last : σ} {later : List Call} {h : Handle} {failure : Option String}
      (answer : d.close h outside = (failure, mid)) (rest : Answered d mid later last) :
      Answered d outside (.close h failure :: later) last

namespace Drivers.Answered

theorem append {outside mid last : σ} {first second : List Call}
    (left : d.Answered outside first mid) (right : d.Answered mid second last) :
    d.Answered outside (first ++ second) last := by
  induction left with
  | nothing => exact right
  | granted answer _ ih => exact .granted answer (ih right)
  | refused answer _ ih => exact .refused answer (ih right)
  | closed answer _ ih => exact .closed answer (ih right)

/-- What is granted has the slot that was asked for. -/
theorem slot_eq {outside last : σ} {asked : List Call} (answered : d.Answered outside asked last)
    {network : Network} {service : Service} {h : Handle}
    (member : .listen network service (.ok h) ∈ asked) : h.slot = (network, service) := by
  induction answered with
  | nothing => cases member
  | granted _ _ ih =>
    rcases List.mem_cons.mp member with same | later
    · obtain ⟨rfl, rfl, outcome⟩ := Call.listen.inj same
      rw [Except.ok.inj outcome]
      rfl
    · exact ih later
  | refused _ _ ih | closed _ _ ih => exact ih (by simpa using member)

end Drivers.Answered

/-- What a manager shares with the outside, and the handles that are open: those it keeps and
those it has not kept yet. -/
structure Books (σ : Type) where
  outside : σ
  serial : Nat
  calls : List Call
  live : List Handle

def Books.start (outside : σ) : Books σ := ⟨outside, 0, [], []⟩

def Manager.books (m : Manager σ) (live : List Handle) : Books σ :=
  ⟨m.outside, m.serial, m.calls, live⟩

/-- One call to the outside. No slot is asked for while a handle is open in it. -/
inductive Move (d : Drivers σ) : Books σ → Books σ → Prop
  | opened {b : Books σ} {network : Network} {service : Service} {bound : Endpoint} {outside : σ}
      (free : ∀ h ∈ b.live, h.slot ≠ (network, service))
      (answer : d.listen network service b.outside = (.ok bound, outside)) :
      Move d b ⟨outside, b.serial + 1,
        b.calls ++ [Call.granting ⟨b.serial, network, service, bound⟩],
        b.live ++ [⟨b.serial, network, service, bound⟩]⟩
  | refused {b : Books σ} {network : Network} {service : Service} {fault : OpenFault} {outside : σ}
      (free : ∀ h ∈ b.live, h.slot ≠ (network, service))
      (answer : d.listen network service b.outside = (.error fault, outside)) :
      Move d b ⟨outside, b.serial, b.calls ++ [.listen network service (.error fault)], b.live⟩
  | closed {b : Books σ} {h : Handle} {before after : List Handle}
      (held : b.live = before ++ h :: after) :
      Move d b ⟨(d.close h b.outside).2, b.serial,
        b.calls ++ [.close h (d.close h b.outside).1], before ++ after⟩

abbrev Moves (d : Drivers σ) : Books σ → Books σ → Prop := Relation.ReflTransGen (Move d)

/-- A move enters its call in the journal with the answer that the outside gave to it. -/
theorem Move.answered {b c : Books σ} (move : Move d b c) :
    ∃ call, c.calls = b.calls ++ [call] ∧ d.Answered b.outside [call] c.outside := by
  cases move with
  | opened _ answer => exact ⟨_, rfl, .granted answer (.nothing _)⟩
  | refused _ answer => exact ⟨_, rfl, .refused answer (.nothing _)⟩
  | closed _ => exact ⟨_, rfl, .closed rfl (.nothing _)⟩

theorem Moves.answered {b c : Books σ} (moves : Moves d b c) :
    ∃ asked, c.calls = b.calls ++ asked ∧ d.Answered b.outside asked c.outside := by
  induction moves with
  | refl => exact ⟨[], (List.append_nil _).symm, .nothing _⟩
  | tail _ last ih =>
    obtain ⟨asked, calls, answered⟩ := ih
    obtain ⟨call, grown, told⟩ := last.answered
    exact ⟨asked ++ [call], by rw [grown, calls, List.append_assoc], answered.append told⟩

/-- The outside has answered to all that is in the journal, also after more moves. -/
theorem Drivers.Answered.moves {b c : Books σ} {outside : σ}
    (answered : d.Answered outside b.calls b.outside) (moves : Moves d b c) :
    d.Answered outside c.calls c.outside := by
  obtain ⟨asked, grown, told⟩ := moves.answered
  rw [grown]
  exact answered.append told

/-- Values that differ in a list still differ once one is taken out, and from that one. -/
theorem nodup_remove {α β : Type} {f : α → β} {before after : List α} {x : α}
    (apart : ((before ++ x :: after).map f).Nodup) :
    ((before ++ after).map f).Nodup ∧ ∀ y ∈ before ++ after, f y ≠ f x := by
  rw [List.map_append, List.map_cons, List.nodup_middle, ← List.map_append,
    List.nodup_cons] at apart
  exact ⟨apart.2, fun y member same => apart.1 (same ▸ List.mem_map_of_mem member)⟩

/-- No two handles have one slot. -/
def Sole (handles : List Handle) : Prop := (handles.map Handle.slot).Nodup

namespace Sole

variable {handles : List Handle}

theorem eq_of_slot (sole : Sole handles) {a b : Handle} (left : a ∈ handles)
    (right : b ∈ handles) (same : a.slot = b.slot) : a = b :=
  List.inj_on_of_nodup_map sole left right same

theorem concat (sole : Sole handles) {h : Handle} (free : ∀ old ∈ handles, old.slot ≠ h.slot) :
    Sole (handles ++ [h]) := by
  rw [Sole, List.map_append, List.nodup_append]
  refine ⟨sole, List.nodup_singleton _, ?_⟩
  intro slot held new fresh
  obtain ⟨old, member, rfl⟩ := List.mem_map.mp held
  rw [List.mem_singleton.mp fresh]
  exact free old member

/-- The slot of the handle that goes is free among those that stay. -/
theorem remove {before after : List Handle} {h : Handle} (sole : Sole (before ++ h :: after)) :
    Sole (before ++ after) ∧ ∀ other ∈ before ++ after, other.slot ≠ h.slot :=
  nodup_remove sole

end Sole

theorem Move.sole {b c : Books σ} (move : Move d b c) (sole : Sole b.live) : Sole c.live := by
  cases move with
  | opened free _ => exact sole.concat free
  | refused => exact sole
  | closed held =>
    rw [held] at sole
    exact sole.remove.1

theorem Moves.sole {b c : Books σ} (moves : Moves d b c) (sole : Sole b.live) : Sole c.live := by
  induction moves with
  | refl => exact sole
  | tail _ move ih => exact move.sole ih

/-- A call of a longer journal is the last one, or was there before. -/
theorem concat_split {α : Type} {l before after : List α} {x y : α}
    (eq : l ++ [x] = before ++ y :: after) :
    (l = before ∧ x = y) ∨ ∃ rest, l = before ++ y :: rest := by
  rcases List.eq_nil_or_concat after with rfl | ⟨rest, z, rfl⟩
  · obtain ⟨first, last⟩ := List.append_inj' eq rfl
    exact .inl ⟨first, List.singleton_inj.mp last⟩
  · refine .inr ⟨rest, ?_⟩
    rw [List.concat_eq_append, ← List.cons_append, ← List.append_assoc] at eq
    exact (List.append_inj' eq rfl).1

/-- The journal says which handles are open, and each call in it was lawful. -/
structure Books.Balanced (b : Books σ) : Prop where
  live : ∀ h, h ∈ b.live ↔ Call.Open b.calls h
  sole : Sole b.live
  fresh : ∀ h, Call.granting h ∈ b.calls → h.serial < b.serial
  lawful : ∀ before c after, b.calls = before ++ c :: after → c.Lawful before

namespace Books.Balanced

theorem start (outside : σ) : (Books.start outside).Balanced where
  live := by simp [Books.start, Call.Open]
  sole := List.Pairwise.nil
  fresh := by simp [Books.start]
  lawful := by simp [Books.start]

/-- A slot that no open handle has is free. -/
theorem free {b : Books σ} (balanced : b.Balanced) {slot : Slot}
    (vacant : ∀ h ∈ b.live, h.slot ≠ slot) : Call.Free b.calls slot := by
  intro h opened
  exact vacant h ((balanced.live h).mpr opened)

theorem lawful_concat {b : Books σ} (balanced : b.Balanced) {c : Call} (last : c.Lawful b.calls) :
    ∀ before x after, b.calls ++ [c] = before ++ x :: after → x.Lawful before := by
  intro before x after eq
  rcases concat_split eq with ⟨rfl, rfl⟩ | ⟨rest, earlier⟩
  · exact last
  · exact balanced.lawful before x rest earlier

theorem move {b c : Books σ} (balanced : b.Balanced) (move : Move d b c) : c.Balanced := by
  have sole := move.sole balanced.sole
  cases move with
  | @opened network service bound outside vacant _ =>
    have new : ∀ h, Call.granting h ∈ b.calls → h.serial ≠ b.serial :=
      fun h granted => Nat.ne_of_lt (balanced.fresh h granted)
    have unclosed : ∀ failure,
        Call.close ⟨b.serial, network, service, bound⟩ failure ∉ b.calls := by
      intro failure closed
      obtain ⟨before, after, eq⟩ := List.append_of_mem closed
      have granted := (balanced.lawful before _ after eq).1
      exact new _ (eq ▸ List.mem_append_left _ granted) rfl
    refine ⟨?_, sole, ?_, balanced.lawful_concat ⟨balanced.free vacant, rfl, new⟩⟩
    · intro h
      by_cases same : h = ⟨b.serial, network, service, bound⟩
      · subst same
        simp [Call.Open, unclosed]
      · simp [same, balanced.live h, Call.Open]
    · intro h granted
      rcases List.mem_append.mp granted with earlier | last
      · exact Nat.lt_succ_of_lt (balanced.fresh h earlier)
      · rw [Call.granting_inj.mp (List.mem_singleton.mp last)]
        exact Nat.lt_succ_self _
  | refused vacant _ =>
    refine ⟨?_, sole, ?_, balanced.lawful_concat (balanced.free vacant)⟩
    · intro h
      simpa [Call.Open] using balanced.live h
    · intro h granted
      exact balanced.fresh h (by simpa using granted)
  | @closed h before after held =>
    have gone : h ∉ before ++ after := fun member => (held ▸ balanced.sole).remove.2 h member rfl
    have unclosed := (balanced.live h).mp (by simp [held])
    refine ⟨?_, sole, ?_, balanced.lawful_concat unclosed⟩
    · intro other
      by_cases same : other = h
      · subst same
        simp only [gone, false_iff, Call.Open, not_and]
        intro _ never
        exact never (d.close other b.outside).1 (by simp)
      · have live := balanced.live other
        rw [held] at live
        simp_all [Call.Open]
    · intro other granted
      exact balanced.fresh other (by simpa using granted)

theorem moves {b c : Books σ} (balanced : b.Balanced) (moves : Moves d b c) : c.Balanced := by
  induction moves with
  | refl => exact balanced
  | tail _ last ih => exact ih.move last

end Books.Balanced

end LocalProxy
