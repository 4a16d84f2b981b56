import LocalProxy.Events.Bus
import Mathlib.Data.List.Nodup

/-! What clients do to a bus and its pump, with the outcome of each act, and what the past then
says of a single subscription. Taken by itself it is a bounded queue, to which everything is
offered that is published while it lives. -/
namespace LocalProxy

def Poll.item? {α : Type} : Poll α → Option α
  | item a => some a
  | pending | ended => none

namespace Pump

variable {α : Type}

/-- A bus that a pump feeds, or one that none does. -/
def start (pumped : Bool) (buffer : Nat) : Pump α :=
  if pumped then create buffer else ⟨.create buffer, [], true, false⟩

/-- The handles that clients own. -/
def clients (p : Pump α) : Nat := p.bus.handles - p.running.toNat

/-- What may be done. A subscription is named by its number. -/
inductive Act (α : Type)
  | subscribe
  | publish (a : α)
  | tryReceive (id : Nat)
  | poll (id : Nat)
  | leave (id : Nat)
  | share
  | release
  | send (a : α)
  | close
  | turn

/-- What was done, with its outcome. The last two are turns of the pump. -/
inductive Deed (α : Type)
  | subscribed (id : Nat)
  | published (a : α) (delivered : Nat)
  | tried (id : Nat) (answer : Option α)
  | polled (id : Nat) (answer : Poll α)
  | left (id : Nat)
  | shared
  | released
  | sent (a : α) (accepted : Bool)
  | closed
  | forwarded (a : α)
  | ended

/-- One act. It takes a handle to subscribe, to publish, and to share or release it; nobody looks
at a subscription that was left; and a pump has no turn while it waits. -/
def act? (p : Pump α) : Act α → Option (Deed α × Pump α)
  | .subscribe =>
    if p.clients = 0 then none
    else some (.subscribed p.bus.subscribe.1, { p with bus := p.bus.subscribe.2 })
  | .publish a =>
    if p.clients = 0 then none
    else some (.published a (p.bus.publish a).1, { p with bus := (p.bus.publish a).2 })
  | .tryReceive id =>
    if (p.bus.find? id).isNone then none
    else some (.tried id (p.bus.take id).1, { p with bus := (p.bus.take id).2 })
  | .poll id =>
    if (p.bus.find? id).isNone then none
    else some (.polled id (p.bus.poll id).1, { p with bus := (p.bus.poll id).2 })
  | .leave id =>
    if (p.bus.find? id).isNone then none
    else some (.left id, { p with bus := p.bus.unsubscribe id })
  | .share => if p.clients = 0 then none else some (.shared, { p with bus := p.bus.share })
  | .release => if p.clients = 0 then none else some (.released, { p with bus := p.bus.release })
  | .send a => some (.sent a (p.send a).1, (p.send a).2)
  | .close => some (.closed, p.close)
  | .turn =>
    match p.running, p.waiting with
    | true, a :: _ => some (.forwarded a, p.turn)
    | true, [] => if p.sourceOpen then none else some (.ended, p.turn)
    | false, _ => none

/-- A bus with what was done to it, the latest deed first. -/
structure Course (α : Type) where
  pump : Pump α
  past : List (Deed α) := []

def Course.step (s : Course α) (act : Act α) : Course α :=
  match s.pump.act? act with
  | none => s
  | some (x, p) => ⟨p, x :: s.past⟩

def Course.run (s : Course α) (acts : List (Act α)) : Course α := acts.foldl step s

/-- The subscriptions that were made, the latest first. -/
def made (past : List (Deed α)) : List Nat :=
  past.filterMap fun
    | .subscribed i => some i
    | _ => none

/-- The subscriptions that live, in the order in which they were made. -/
def live : List (Deed α) → List Nat
  | [] => []
  | .subscribed i :: past => live past ++ [i]
  | .left i :: past => (live past).filter (· ≠ i)
  | _ :: past => live past

/-- What a subscription sees: an item is offered to it, or it is asked for one. -/
inductive Sight (α : Type)
  | offered (a : α)
  | asked

def Deed.sight? (i : Nat) : Deed α → Option (Sight α)
  | published a _ | forwarded a => some (.offered a)
  | tried j _ | polled j _ => if j = i then some .asked else none
  | _ => none

/-- What a subscription has seen while it lived. -/
def sights (i : Nat) : List (Deed α) → List (Sight α)
  | [] => []
  | x :: past => sights i past ++ if i ∈ live past then (x.sight? i).toList else []

def Deed.answer? (i : Nat) : Deed α → Option (Option α)
  | tried j answer => if j = i then some answer else none
  | polled j answer => if j = i then some answer.item? else none
  | _ => none

/-- What was received from a subscription each time it was asked. -/
def answers (i : Nat) (past : List (Deed α)) : List (Option α) :=
  past.reverse.filterMap (Deed.answer? i)

/-- A queue of its own, with what it has answered so far. -/
structure Queue (α : Type) where
  answers : List (Option α) := []
  held : List α := []

/-- An item is appended just if there is room, and the oldest one is taken. -/
def Queue.see (c : Nat) (q : Queue α) : Sight α → Queue α
  | .offered a => if q.held.length < c then { q with held := q.held ++ [a] } else q
  | .asked => ⟨q.answers ++ [q.held.head?], q.held.tail⟩

def replay (c : Nat) (seen : List (Sight α)) : Queue α := seen.foldl (Queue.see c) {}

/-- The queue that a subscription is. -/
def queue (c i : Nat) (past : List (Deed α)) : Queue α := replay c (sights i past)

/-- The handles that there are, the pump's included. -/
def handles (pumped : Bool) : List (Deed α) → Nat
  | [] => 1 + pumped.toNat
  | .shared :: past => handles pumped past + 1
  | .released :: past | .ended :: past => handles pumped past - 1
  | _ :: past => handles pumped past

/-- The pump goes on until it has ended. -/
def pumping (pumped : Bool) : List (Deed α) → Bool
  | [] => pumped
  | .ended :: _ => false
  | _ :: past => pumping pumped past

/-- The channel of the pump takes items until it is closed. -/
def accepting : List (Deed α) → Bool
  | [] => true
  | .closed :: _ => false
  | _ :: past => accepting past

/-- The items that went into the channel, in order. -/
def accepted : List (Deed α) → List α
  | [] => []
  | .sent a true :: past => accepted past ++ [a]
  | _ :: past => accepted past

/-- The items that the pump has published, in order. -/
def forwardings : List (Deed α) → List α
  | [] => []
  | .forwarded a :: past => forwardings past ++ [a]
  | _ :: past => forwardings past

/-- What a deed and its outcome had to be, given those before it. -/
def Deed.Lawful (c : Nat) (pumped : Bool) (past : List (Deed α)) : Deed α → Prop
  | subscribed i => i ∉ made past ∧ (pumping pumped past).toNat < handles pumped past
  | published _ delivered =>
    delivered = ((live past).filter fun i => (queue c i past).held.length < c).length ∧
      (pumping pumped past).toNat < handles pumped past
  | tried i answer => i ∈ live past ∧ answer = (queue c i past).held.head?
  | polled i answer => i ∈ live past ∧ answer = match (queue c i past).held with
    | a :: _ => .item a
    | [] => if handles pumped past = 0 then .ended else .pending
  | left i => i ∈ live past
  | shared | released => (pumping pumped past).toNat < handles pumped past
  | sent _ taken => taken = accepting past
  | closed => True
  | forwarded a => pumping pumped past ∧ forwardings past ++ [a] <+: accepted past
  | ended => pumping pumped past ∧ ¬ accepting past ∧ forwardings past = accepted past

section Past

variable {c i : Nat} {x : Deed α} {past : List (Deed α)}

theorem answers_cons : answers i (x :: past) = answers i past ++ (x.answer? i).toList := by
  cases answer : x.answer? i <;> simp [answers, answer]

theorem queue_cons_live (lives : i ∈ live past) :
    queue c i (x :: past) = (x.sight? i).toList.foldl (Queue.see c) (queue c i past) := by
  simp [queue, replay, sights, lives]

theorem queue_cons_idle (idle : i ∉ live past) : queue c i (x :: past) = queue c i past := by
  simp [queue, sights, idle]

theorem live_sublist : (live past).Sublist (made past).reverse := by
  induction past with
  | nil => exact .slnil
  | cons x past ih =>
    cases x with
    | subscribed i => simpa [live, made] using ih.append (List.Sublist.refl [i])
    | left i => exact List.filter_sublist.trans ih
    | published | tried | polled | shared | released | sent | closed | forwarded | ended => exact ih

theorem made_of_live (lives : i ∈ live past) : i ∈ made past :=
  List.mem_reverse.mp (live_sublist.subset lives)

@[simp] theorem answers_see_offered (q : Queue α) (a : α) :
    (q.see c (.offered a)).answers = q.answers := by
  simp only [Queue.see]
  split <;> rfl

/-- A subscription sees nothing before it is made. -/
theorem queue_unmade (unmade : i ∉ made past) : queue c i past = {} := by
  induction past with
  | nil => rfl
  | cons x past ih =>
    have before : i ∉ made past := fun member => by
      cases x <;> simp_all [made]
    rw [queue_cons_idle (mt made_of_live before), ih before]

/-- A lawful deed asks a subscription, which then answers as its queue does, or it gets nothing
from it. -/
theorem Deed.Lawful.answered {pumped : Bool} (lawful : x.Lawful c pumped past) (i : Nat) :
    x.answer? i = none ∧ x.sight? i ≠ some .asked ∨
      i ∈ live past ∧ x.sight? i = some .asked ∧
        x.answer? i = some (queue c i past).held.head? := by
  cases x with
  | tried j answer =>
    by_cases same : j = i
    · subst same
      exact .inr ⟨lawful.1, by simp [sight?], by simp [answer?, lawful.2]⟩
    · exact .inl (by simp [answer?, sight?, same])
  | polled j answer =>
    by_cases same : j = i
    · subst same
      have item : answer.item? = (queue c j past).held.head? := by
        rw [lawful.2]
        cases (queue c j past).held with
        | nil => by_cases gone : handles pumped past = 0 <;> simp [gone, Poll.item?]
        | cons a rest => rfl
      exact .inr ⟨lawful.1, by simp [sight?], by simp [answer?, item]⟩
    · exact .inl (by simp [answer?, sight?, same])
  | published | forwarded | subscribed | left | shared | released | sent | closed | ended =>
    exact .inl (by simp [answer?, sight?])

/-- So a subscription answers what its own queue answers. -/
theorem answers_eq_cons {pumped : Bool} (lawful : x.Lawful c pumped past)
    (before : answers i past = (queue c i past).answers) :
    answers i (x :: past) = (queue c i (x :: past)).answers := by
  rw [answers_cons, before]
  rcases lawful.answered i with ⟨silent, unasked⟩ | ⟨lives, seen, answer⟩
  · rw [silent]
    by_cases lives : i ∈ live past
    · rw [queue_cons_live lives]
      cases seen : x.sight? i with
      | none => simp
      | some s =>
        cases s with
        | offered a => simp
        | asked => exact absurd seen unasked
    · rw [queue_cons_idle lives]
      exact List.append_nil _
  · rw [queue_cons_live lives, seen, answer]
    rfl

/-- Once no handle is left, nothing is published, and nobody gets a handle or a subscription. -/
theorem Deed.Lawful.gone {pumped : Bool} (lawful : x.Lawful c pumped past)
    (owns : (pumping pumped past).toNat ≤ handles pumped past) (gone : handles pumped past = 0) :
    handles pumped (x :: past) = 0 ∧ (∀ i a, x.sight? i ≠ some (.offered a)) ∧
      ∀ i ∈ live (x :: past), i ∈ live past := by
  cases x with
  | subscribed j => exact absurd (gone ▸ lawful.2) (Nat.not_lt_zero _)
  | published a delivered => exact absurd (gone ▸ lawful.2) (Nat.not_lt_zero _)
  | shared =>
    have able : (pumping pumped past).toNat < handles pumped past := lawful
    exact absurd (gone ▸ able) (Nat.not_lt_zero _)
  | forwarded a =>
    rw [lawful.1, gone] at owns
    exact absurd owns (Nat.not_succ_le_zero 0)
  | released | ended =>
    exact ⟨congrArg (· - 1) gone, by simp [sight?], fun _ => id⟩
  | tried j answer | polled j answer =>
    exact ⟨gone, fun i a => by simp only [sight?]; split <;> simp, fun _ => id⟩
  | left j => exact ⟨gone, by simp [sight?], fun _ => List.mem_of_mem_filter⟩
  | sent | closed => exact ⟨gone, by simp [sight?], fun _ => id⟩

end Past

end Pump

end LocalProxy
