import LocalProxy.Relay.Flows
import Mathlib.Data.List.Nodup

/-! Runs of the flows. What can come of one datagram that arrives, and of one step of a task, is
said here once; what is done elsewhere to the statistics may come in between. -/
namespace LocalProxy

theorem Metadata.outbound_eq_direct {m : Metadata} :
    m.outbound = .direct ↔ m.specialProxy = none ∨ m.specialProxy = some Outbound.directName := by
  cases proxy : m.specialProxy with
  | none => simp [outbound, proxy, Outbound.ofName]
  | some name =>
    by_cases direct : name = Outbound.directName
    · simp [outbound, proxy, Outbound.ofName, direct]
    · simp only [outbound, proxy, Outbound.ofName, Option.getD_some, direct, if_false]
      split <;> simp [direct]

/-- The flow that a datagram belongs to, where it is one to relay. -/
def Packet.flowKey? (p : Packet) : Option Relay.FlowKey :=
  if p.metadata.outbound = .direct then p.metadata.destination.map (⟨p.metadata.source, ·⟩)
  else none

theorem Packet.flowKey?_eq_some {p : Packet} {key : Relay.FlowKey} :
    p.flowKey? = some key ↔ p.metadata.outbound = .direct ∧ p.metadata.source = key.source ∧
      p.metadata.destination = some key.destination := by
  cases key
  simp only [flowKey?, Option.ite_none_right_eq_some, Option.map_eq_some_iff,
    Relay.FlowKey.mk.injEq]
  grind

theorem Packet.flowKey?_eq_none {p : Packet} :
    p.flowKey? = none ↔ p.metadata.destination = none ∨ p.metadata.outbound ≠ .direct := by
  by_cases direct : p.metadata.outbound = .direct <;> simp [flowKey?, direct]

namespace Relay

/-- What happens while flows are relayed: they make a move, or the statistics are changed by
somebody else, as when a client asks for connections to be closed. -/
inductive Happening
  | move (m : FlowMove)
  | beside (change : Statistics → Statistics)

/-- The datagram that arrives. -/
def Happening.packet? : Happening → Option Packet
  | move (.arrive p) => some p
  | _ => none

def arrivals (happenings : List Happening) : List Packet := happenings.filterMap (·.packet?)

theorem arrivals_cons (h : Happening) (rest : List Happening) :
    arrivals (h :: rest) = h.packet?.toList ++ arrivals rest := by
  cases packet : h.packet? <;> simp [arrivals, packet]

def Deed.queued? : Deed → Option (Nat × Packet)
  | queued n p => some (n, p)
  | _ => none

def Deed.sent? : Deed → Option (Nat × Bytes)
  | sent n payload => some (n, payload)
  | _ => none

/-- The datagrams that were queued, each with the number of its flow, in order. -/
def queued (deeds : List Deed) : List (Nat × Packet) := deeds.filterMap (·.queued?)

/-- The payloads that were sent, each with the number of its flow, in order. -/
def sent (deeds : List Deed) : List (Nat × Bytes) := deeds.filterMap (·.sent?)

/-- What is under one number. -/
def only {α : Type} (n : Nat) (xs : List (Nat × α)) : List α := (xs.filter (·.1 = n)).map (·.2)

theorem mem_queued {n : Nat} {p : Packet} {deeds : List Deed} :
    (n, p) ∈ queued deeds ↔ .queued n p ∈ deeds := by
  rw [queued, List.mem_filterMap]
  constructor
  · rintro ⟨x, member, same⟩
    cases x <;> cases same
    exact member
  · exact fun member => ⟨_, member, rfl⟩

section Only

variable {α : Type} {n : Nat} {xs ys : List (Nat × α)}

@[simp] theorem only_append : only n (xs ++ ys) = only n xs ++ only n ys := by simp [only]

@[simp] theorem only_nil : only n ([] : List (Nat × α)) = [] := rfl

@[simp] theorem only_self (a : α) : only n [(n, a)] = [a] := by simp [only]

theorem only_other {m : Nat} (other : m ≠ n) (a : α) : only n [(m, a)] = [] := by
  simp [only, other]

theorem mem_only {a : α} : a ∈ only n xs ↔ (n, a) ∈ xs := by
  simp [only]

theorem only_eq_nil (absent : ∀ x ∈ xs, x.1 ≠ n) : only n xs = [] := by
  simpa [only] using absent

end Only

@[simp] theorem queued_append (xs ys : List Deed) : queued (xs ++ ys) = queued xs ++ queued ys :=
  List.filterMap_append

@[simp] theorem sent_append (xs ys : List Deed) : sent (xs ++ ys) = sent xs ++ sent ys :=
  List.filterMap_append

@[simp] theorem queued_nil : queued [] = [] := rfl

@[simp] theorem queued_queued (n : Nat) (p : Packet) : queued [.queued n p] = [(n, p)] := rfl

@[simp] theorem sent_queued (n : Nat) (p : Packet) : sent [.queued n p] = [] := rfl

@[simp] theorem queued_sent (n : Nat) (payload : Bytes) : queued [.sent n payload] = [] := rfl

@[simp] theorem sent_sent (n : Nat) (payload : Bytes) :
    sent [.sent n payload] = [(n, payload)] := rfl

/-- A step of the task of a flow that is in the table: what becomes of the flow, and the deeds. -/
inductive Turn (t : Flow) : (Flow → Flow) → List Deed → Prop
  | answered (sender : Endpoint) (payload : Bytes) :
    Turn t id [.answered t.serial t.path (t.path.framing.frame sender payload)]
  | staged {stage : FlowStage} (listed : t.stage ≠ .removed) (still : stage ≠ .removed) :
    Turn t (fun u => { u with stage := stage }) []
  | took {payload : Bytes} {rest : List Bytes} (free : t.held = none)
    (waits : t.queue = payload :: rest) :
    Turn t (fun u => { u with queue := rest, held := some payload }) []
  | sent {payload : Bytes} (holds : t.held = some payload) :
    Turn t (fun u => { u with held := none }) [.sent t.serial payload]
  | lost {payload : Bytes} (holds : t.held = some payload) :
    Turn t (fun u => { u with held := none }) []

namespace Turn

variable {t : Flow} {f : Flow → Flow} {deeds : List Deed} (turn : Turn t f deeds)
include turn

theorem key (u : Flow) : (f u).key = u.key := by
  cases turn <;> rfl

theorem serial (u : Flow) : (f u).serial = u.serial := by
  cases turn <;> rfl

theorem path (u : Flow) : (f u).path = u.path := by
  cases turn <;> rfl

theorem queued_eq_nil : queued deeds = [] := by
  cases turn <;> rfl

/-- Nothing is sent but by its own flow. -/
theorem only_sent {n : Nat} (other : n ≠ t.serial) : only n (Relay.sent deeds) = [] := by
  cases turn with
  | sent holds => exact only_other other.symm _
  | answered | staged | took | lost => rfl

end Turn

namespace Flows

def happen (d : Flows) : Happening → Flows
  | .move m => (d.move? m).getD d
  | .beside change => { d with statistics := change d.statistics }

def after (d : Flows) (happenings : List Happening) : Flows := happenings.foldl happen d

theorem arrive_eq {d : Flows} {p : Packet} {key : FlowKey} (keyed : p.flowKey? = some key) :
    d.arrive p = match d.route? key with
      | some t => d.enqueue t p
      | none => d.begin key p := by
  obtain ⟨direct, source, destination⟩ := p.flowKey?_eq_some.mp keyed
  have same : (⟨p.metadata.source, key.destination⟩ : FlowKey) = key := by rw [source]
  cases routed : d.route? key <;>
    simp only [arrive, destination, direct, same, routed, ne_eq, not_true_eq_false, if_false]

/-- What can come of a datagram that arrives. -/
inductive Arrival (d : Flows) (p : Packet) : Flows → Prop
  | refused (records : List Record) (unkeyed : p.flowKey? = none) :
    Arrival d p { d with records := records }
  | overflowed {key : FlowKey} {t : Flow} (records : List Record) (keyed : p.flowKey? = some key)
    (routed : d.route? key = some t) (full : flowQueue ≤ t.queue.length) :
    Arrival d p { d with records := records }
  | joined {key : FlowKey} {t : Flow} (keyed : p.flowKey? = some key)
    (routed : d.route? key = some t) (room : t.queue.length < flowQueue) :
    Arrival d p ((d.update t.serial fun u => { u with queue := u.queue ++ [p.payload] }).noted
      (.queued t.serial p))
  | began {key : FlowKey} (keyed : p.flowKey? = some key) (unrouted : d.route? key = none) :
    Arrival d p (d.begin key p)

theorem arrive_arrival (d : Flows) (p : Packet) : d.Arrival p (d.arrive p) := by
  cases keyed : p.flowKey? with
  | none =>
    unfold arrive
    split
    next => exact .refused _ keyed
    next destination named =>
      have rejected : p.metadata.outbound ≠ .direct :=
        (Packet.flowKey?_eq_none.mp keyed).resolve_left (by simp [named])
      simp only [rejected, ne_eq, not_false_eq_true, if_true]
      exact .refused _ keyed
  | some key =>
    rw [arrive_eq keyed]
    cases routed : d.route? key with
    | none => exact .began keyed routed
    | some t =>
      simp only [enqueue]
      split
      next room => exact .joined keyed routed room
      next full => exact .overflowed _ keyed routed (Nat.not_lt.mp full)

/-- A datagram that is not to be relayed leaves nothing but a record. -/
theorem Arrival.eq_of_unkeyed {d d' : Flows} {p : Packet} (arrival : d.Arrival p d')
    (unkeyed : p.flowKey? = none) : d' = { d with records := d'.records } := by
  cases arrival with
  | refused => rfl
  | overflowed records keyed | joined keyed | began keyed => simp [unkeyed] at keyed

/-- What can come of a step of the task of a flow. -/
inductive Step (d : Flows) (t : Flow) : Flows → Prop
  | turned {f : Flow → Flow} {deeds : List Deed} (statistics : Statistics)
    (records : List Record) (turn : Turn t f deeds) :
    Step d t { d.update t.serial f with
      deeds := d.deeds ++ deeds, statistics := statistics, records := records }
  | unlisted (ended : t.stage = .ended) :
    Step d t ({ d with table := d.table.filter (·.1 ≠ t.key) }.update t.serial
      fun u => { u with stage := .removed })
  | dropped (removed : t.stage = .removed) :
    Step d t { d with tasks := d.tasks.filter (·.serial ≠ t.serial) }

theorem update_id (d : Flows) (serial : Nat) : d.update serial id = d := by
  simp [update]

/-- A task stops by ending its flow. -/
theorem stop_eq (d : Flows) (t : Flow) : ∃ statistics,
    d.stop t = { d.update t.serial fun u => { u with stage := .ended } with
      statistics := statistics } := by
  unfold stop
  split <;> exact ⟨_, rfl⟩

theorem waiting?_eq_some {t : Flow} {guard : Nat} :
    waiting? t = some guard ↔ t.stage = .relaying guard ∧ t.held = none := by
  unfold waiting?
  split <;> simp_all

theorem step_of_step? {d d' : Flows} {t : Flow} {m : FlowMove} (taken : d.step? t m = some d') :
    d.Step t d' := by
  have quiet {f : Flow → Flow} (statistics : Statistics) (records : List Record)
      (turn : Turn t f []) : d.Step t { d.update t.serial f with
        deeds := d.deeds, statistics := statistics, records := records } := by
    have step := Step.turned (d := d) statistics records turn
    rwa [List.append_nil] at step
  have stopped (statistics : Statistics) (before after : List Record)
      (listed : t.stage ≠ .removed) :
      d.Step t { stop { d with statistics := statistics, records := before } t with
        records := after } := by
    obtain ⟨_, same⟩ := stop_eq { d with statistics := statistics, records := before } t
    rw [same]
    exact quiet _ after (.staged listed nofun)
  have listed {guard : Nat} (waits : waiting? t = some guard) : t.stage ≠ .removed := by
    simp [(waiting?_eq_some.mp waits).1]
  cases m with
  | arrive p => cases taken
  | opened n id time =>
    simp only [step?, Option.ite_none_right_eq_some] at taken
    obtain ⟨opening, ⟨⟩⟩ := taken
    exact quiet _ _ (.staged (by simp [opening]) nofun)
  | notOpened n reason =>
    simp only [step?, Option.ite_none_right_eq_some] at taken
    obtain ⟨opening, ⟨⟩⟩ := taken
    exact stopped _ _ _ (by simp [opening])
  | take n =>
    simp only [step?] at taken
    split at taken
    next guard payload rest waits queue =>
      cases taken
      exact quiet _ _ (.took (waiting?_eq_some.mp waits).2 queue)
    next => cases taken
  | sent n =>
    simp only [step?] at taken
    split at taken
    next guard payload stage holds =>
      cases taken
      exact .turned _ _ (.sent holds)
    next => cases taken
  | notSent n reason =>
    simp only [step?] at taken
    split at taken
    next guard payload stage holds =>
      cases taken
      exact quiet _ _ (.lost holds)
    next => cases taken
  | answer n sender payload fault =>
    simp only [step?] at taken
    split at taken
    next => cases taken
    next guard waits =>
      cases fault with
      | none =>
        cases taken
        have step := Step.turned (d := d) (d.statistics.addDownload guard payload.length.toUInt64)
          d.records (Turn.answered (t := t) sender payload)
        rwa [update_id] at step
      | some fault =>
        cases taken
        exact stopped _ _ _ (listed waits)
  | finish n how =>
    simp only [step?] at taken
    split at taken
    next => cases taken
    next guard waits =>
      cases taken
      exact stopped _ _ _ (listed waits)
    next guard waits =>
      obtain ⟨-, ⟨⟩⟩ := Option.ite_none_right_eq_some.mp taken
      exact stopped _ _ _ (listed waits)
    next guard reason waits =>
      cases taken
      exact stopped _ _ _ (listed waits)
  | unlist n =>
    simp only [step?, Option.ite_none_right_eq_some] at taken
    obtain ⟨ended, ⟨⟩⟩ := taken
    exact .unlisted ended
  | drop n =>
    simp only [step?, Option.ite_none_right_eq_some] at taken
    obtain ⟨removed, ⟨⟩⟩ := taken
    exact .dropped removed

theorem step_of_move? {d d' : Flows} {m : FlowMove} {n : Nat} (flow : m.flow? = some n)
    (moved : d.move? m = some d') : ∃ t ∈ d.tasks, d.Step t d' := by
  have stepped : (d.task? n).bind (d.step? · m) = some d' := by
    cases m <;> cases flow <;> exact moved
  obtain ⟨t, found, taken⟩ := Option.bind_eq_some_iff.mp stepped
  exact ⟨t, List.mem_of_find?_eq_some found, step_of_step? taken⟩

/-- A datagram arrives, a task takes a step, or the flows stay as they are. -/
theorem happen_cases (d : Flows) (h : Happening) :
    (∃ p, h.packet? = some p ∧ d.Arrival p (d.happen h)) ∨
      h.packet? = none ∧ ((∃ t ∈ d.tasks, d.Step t (d.happen h)) ∨
        ∃ statistics, d.happen h = { d with statistics := statistics }) := by
  cases h with
  | beside change => exact .inr ⟨rfl, .inr ⟨_, rfl⟩⟩
  | move m =>
    cases flow : m.flow? with
    | none =>
      cases m <;> cases flow
      exact .inl ⟨_, rfl, d.arrive_arrival _⟩
    | some n =>
      have none : (Happening.move m).packet? = none := by
        cases m <;> first | rfl | cases flow
      refine .inr ⟨none, ?_⟩
      cases moved : d.move? m with
      | none => exact .inr ⟨d.statistics, by simp [happen, moved]⟩
      | some d' =>
        have same : d.happen (.move m) = d' := by simp [happen, moved]
        exact .inl (same ▸ step_of_move? flow moved)

/-- What each datagram that arrives keeps, and each step of a task, holds at any time. It may speak
of the datagrams that came so far. -/
theorem after_induction {P : Flows → List Packet → Prop} {d : Flows} {came : List Packet}
    (start : P d came)
    (arrival : ∀ {d came p d'}, P d came → d.Arrival p d' → P d' (came ++ [p]))
    (step : ∀ {d came t d'}, P d came → t ∈ d.tasks → d.Step t d' → P d' came)
    (beside : ∀ {d came} statistics, P d came → P { d with statistics := statistics } came)
    (happenings : List Happening) : P (d.after happenings) (came ++ arrivals happenings) := by
  induction happenings generalizing d came with
  | nil => exact (List.append_nil came).symm ▸ start
  | cons h rest ih =>
    rw [arrivals_cons, ← List.append_assoc]
    refine ih ?_
    rcases d.happen_cases h with ⟨p, packet, arrived⟩ | ⟨packet, ⟨t, member, taken⟩ | ⟨s, same⟩⟩
    · exact packet ▸ arrival start arrived
    · rw [packet, Option.toList_none, List.append_nil]
      exact step start member taken
    · rw [packet, same, Option.toList_none, List.append_nil]
      exact beside s start

end Flows

end Relay

end LocalProxy
