import LocalProxy.Proofs.Events.Deeds
import Mathlib.Data.List.Induction

/-! A bus is as many bounded queues as it has subscriptions. Each deed keeps the bus at what the
past says of every subscription, so none depends on what the others do. -/
namespace LocalProxy

namespace Pump

variable {α : Type} {c : Nat} {pumped : Bool} {past : List (Deed α)}

/-- The subscriptions of a bus are those that live, each with what its own queue holds. -/
structure Fits (c : Nat) (b : Bus α) (past : List (Deed α)) : Prop where
  capacity : b.capacity = c
  subscriptions : b.subscriptions = (live past).map fun i => ⟨i, (queue c i past).held⟩
  next : ∀ i ∈ made past, i < b.nextId
  once : (made past).Nodup

namespace Fits

variable {b : Bus α} {i : Nat} {x : Deed α}

theorem fresh (buffer : Nat) : Fits (max buffer 1) (Bus.create buffer : Bus α) [] :=
  ⟨rfl, rfl, by simp [made], List.nodup_nil⟩

theorem mem_live (fits : Fits c b past) : ¬ (b.find? i).isNone ↔ i ∈ live past := by
  simp [Bus.find?, fits.subscriptions]

/-- Whatever no subscription sees changes none. -/
theorem unseen (fits : Fits c b past) (blind : ∀ i, x.sight? i = none)
    (lives : live (x :: past) = live past) (named : made (x :: past) = made past) (n : Nat) :
    Fits c { b with handles := n } (x :: past) := by
  refine ⟨fits.capacity, ?_, named ▸ fits.next, named ▸ fits.once⟩
  rw [fits.subscriptions, lives]
  refine List.map_congr_left fun i member => ?_
  rw [queue_cons_live member, blind i]
  rfl

theorem subscribe (fits : Fits c b past) :
    b.subscribe.1 ∉ made past ∧ Fits c b.subscribe.2 (.subscribed b.subscribe.1 :: past) := by
  have unmade : b.nextId ∉ made past := fun member => Nat.lt_irrefl _ (fits.next _ member)
  refine ⟨unmade, fits.capacity, ?_, ?_, List.nodup_cons.mpr ⟨unmade, fits.once⟩⟩
  · have new : (queue c b.nextId (.subscribed b.nextId :: past)).held = [] := by
      rw [queue_cons_idle (mt made_of_live unmade), queue_unmade unmade]
    simp only [Bus.subscribe, live, List.map_append, List.map_singleton, new]
    rw [fits.subscriptions]
    refine congrArg (· ++ _) (List.map_congr_left fun i member => ?_)
    rw [queue_cons_live member]
    rfl
  · intro i member
    rcases List.mem_cons.mp member with rfl | old
    · exact Nat.lt_succ_self _
    · exact Nat.lt_succ_of_lt (fits.next i old)

theorem delivered (fits : Fits c b past) (a : α) :
    (b.publish a).1 = ((live past).filter fun i => (queue c i past).held.length < c).length := by
  simp only [Bus.publish, fits.subscriptions, fits.capacity, List.filter_map, List.length_map]
  rfl

/-- An item is offered to every queue. -/
theorem publish (fits : Fits c b past) {a : α} (seen : ∀ i, x.sight? i = some (.offered a))
    (lives : live (x :: past) = live past) (named : made (x :: past) = made past) :
    Fits c (b.publish a).2 (x :: past) := by
  refine ⟨fits.capacity, ?_, named ▸ fits.next, named ▸ fits.once⟩
  simp only [Bus.publish, fits.subscriptions, fits.capacity, lives, List.map_map]
  refine List.map_congr_left fun i member => ?_
  rw [queue_cons_live member, seen i]
  simp only [Function.comp_apply, Subscription.offer, Subscription.hasRoom, Option.toList_some,
    List.foldl_cons, List.foldl_nil, Queue.see, decide_eq_true_eq]
  split <;> rfl

theorem items (fits : Fits c b past) {items : List α} (member : ⟨i, items⟩ ∈ b.subscriptions) :
    items = (queue c i past).held := by
  rw [fits.subscriptions] at member
  obtain ⟨j, _, ⟨⟩⟩ := List.mem_map.mp member
  rfl

theorem found (fits : Fits c b past) (lives : i ∈ live past) :
    b.find? i = some ⟨i, (queue c i past).held⟩ := by
  have there := fits.mem_live.mpr lives
  rw [Option.isNone_iff_eq_none] at there
  obtain ⟨⟨j, held⟩, found⟩ := Option.ne_none_iff_exists'.mp there
  obtain rfl : j = i := by simpa using List.find?_some found
  rw [found, fits.items (List.mem_of_find?_eq_some found)]

/-- Taking answers with the oldest item of one queue, and leaves the others as they are. -/
theorem take (fits : Fits c b past) (lives : i ∈ live past) :
    (b.take i).1 = (queue c i past).held.head? ∧ (b.take i).2 = { b with
      subscriptions := (live past).map fun j =>
        ⟨j, if j = i then (queue c j past).held.tail else (queue c j past).held⟩ } := by
  unfold Bus.take
  rw [fits.found lives]
  cases held : (queue c i past).held with
  | nil =>
    refine ⟨rfl, ?_⟩
    have same : b.subscriptions = (live past).map fun j =>
        ⟨j, if j = i then (queue c j past).held.tail else (queue c j past).held⟩ := by
      rw [fits.subscriptions]
      refine List.map_congr_left fun j _ => ?_
      split
      · rename_i eq
        rw [eq, held, List.tail_nil]
      · rfl
    rw [← same]
  | cons a rest =>
    refine ⟨rfl, ?_⟩
    simp only [Bus.update, fits.subscriptions, List.map_map]
    refine congrArg (Bus.mk _ _ _) (List.map_congr_left fun j _ => ?_)
    simp only [Function.comp_apply, List.drop_one]
    split <;> rfl

/-- A queue is asked, and the others see nothing of it. -/
theorem asked (fits : Fits c b past) (lives : i ∈ live past)
    (seen : ∀ j, x.sight? j = if i = j then some .asked else none)
    (same : live (x :: past) = live past) (named : made (x :: past) = made past) :
    Fits c (b.take i).2 (x :: past) := by
  rw [(fits.take lives).2]
  refine ⟨fits.capacity, ?_, named ▸ fits.next, named ▸ fits.once⟩
  rw [same]
  refine List.map_congr_left fun j member => ?_
  rw [queue_cons_live member, seen j]
  by_cases eq : i = j
  · simp [eq, Queue.see]
  · simp [eq, Ne.symm eq]

theorem poll (fits : Fits c b past) (lives : i ∈ live past) :
    (b.poll i).1 = (match (queue c i past).held with
      | a :: _ => .item a
      | [] => if b.handles = 0 then .ended else .pending) ∧ (b.poll i).2 = (b.take i).2 := by
  obtain ⟨answer, rest⟩ := fits.take lives
  have handles : (b.take i).2.handles = b.handles := by rw [rest]
  unfold Bus.poll
  generalize b.take i = taken at answer handles
  obtain ⟨got, after⟩ := taken
  obtain rfl : got = (queue c i past).held.head? := answer
  cases (queue c i past).held with
  | nil =>
    have handles : after.handles = b.handles := handles
    by_cases gone : b.handles = 0 <;> simp [Bus.isOpen, handles, gone]
  | cons a items => exact ⟨rfl, rfl⟩

theorem leave (fits : Fits c b past) : Fits c (b.unsubscribe i) (.left i :: past) := by
  refine ⟨fits.capacity, ?_, fits.next, fits.once⟩
  simp only [Bus.unsubscribe, fits.subscriptions, live, List.filter_map]
  refine List.map_congr_left fun j member => ?_
  rw [queue_cons_live (List.mem_of_mem_filter member)]
  rfl

end Fits

/-- A pump is where the past says, and has a handle of its own until it ends. -/
structure Follows (pumped : Bool) (p : Pump α) (past : List (Deed α)) : Prop where
  handles : p.bus.handles = handles pumped past
  running : p.running = pumping pumped past
  owns : p.running.toNat ≤ p.bus.handles
  source : p.sourceOpen = accepting past
  waiting : accepted past = forwardings past ++ p.waiting

namespace Follows

variable {p : Pump α}

theorem able (follows : Follows pumped p past) (able : p.clients ≠ 0) :
    (pumping pumped past).toNat < Pump.handles pumped past := by
  rw [← follows.handles, ← follows.running]
  unfold clients at able
  omega

/-- What is done to the subscriptions leaves the pump where it was. -/
theorem bus (follows : Follows pumped p past) {b : Bus α} {x : Deed α}
    (same : b.handles = p.bus.handles)
    (aside : Pump.handles pumped (x :: past) = Pump.handles pumped past ∧
      pumping pumped (x :: past) = pumping pumped past ∧ accepting (x :: past) = accepting past ∧
      accepted (x :: past) = accepted past ∧ forwardings (x :: past) = forwardings past) :
    Follows pumped { p with bus := b } (x :: past) := by
  obtain ⟨handles, running, source, came, went⟩ := aside
  refine ⟨?_, running ▸ follows.running, same ▸ follows.owns, source ▸ follows.source, ?_⟩
  · rw [handles, ← follows.handles]
    exact same
  · rw [came, went]
    exact follows.waiting

theorem share (follows : Follows pumped p past) :
    Follows pumped { p with bus := p.bus.share } (.shared :: past) where
  handles := congrArg (· + 1) follows.handles
  running := follows.running
  owns := Nat.le_succ_of_le follows.owns
  source := follows.source
  waiting := follows.waiting

theorem release (follows : Follows pumped p past) (able : p.clients ≠ 0) :
    Follows pumped { p with bus := p.bus.release } (.released :: past) where
  handles := congrArg (· - 1) follows.handles
  running := follows.running
  owns := by
    have few : p.running.toNat ≤ p.bus.handles - 1 := by
      unfold clients at able
      omega
    exact few
  source := follows.source
  waiting := follows.waiting

theorem send (follows : Follows pumped p past) (a : α) :
    (p.send a).1 = accepting past ∧
      Follows pumped (p.send a).2 (.sent a (p.send a).1 :: past) := by
  have source := follows.source
  cases isOpen : p.sourceOpen with
  | false =>
    simp only [Pump.send, isOpen, Bool.false_eq_true, if_false]
    exact ⟨isOpen ▸ source, follows.handles, follows.running, follows.owns, source,
      follows.waiting⟩
  | true =>
    simp only [Pump.send, isOpen, if_true]
    refine ⟨isOpen ▸ source, follows.handles, follows.running, follows.owns, isOpen ▸ source, ?_⟩
    simp only [accepted, forwardings, follows.waiting, List.append_assoc]

/-- The pump publishes the next item of its channel. -/
theorem forward (follows : Follows pumped p past) {a : α} {rest : List α}
    (waiting : p.waiting = a :: rest) :
    forwardings past ++ [a] ++ rest = accepted past ∧
      Follows pumped { p with bus := (p.bus.publish a).2, waiting := rest }
        (.forwarded a :: past) := by
  have next : forwardings past ++ [a] ++ rest = accepted past := by
    rw [follows.waiting, waiting, List.append_assoc, List.singleton_append]
  exact ⟨next, follows.handles, follows.running, follows.owns, follows.source, next.symm⟩

theorem finish (follows : Follows pumped p past) :
    Follows pumped { p with bus := p.bus.release, running := false } (.ended :: past) where
  handles := congrArg (· - 1) follows.handles
  running := rfl
  owns := Nat.zero_le _
  source := follows.source
  waiting := follows.waiting

end Follows

/-- An act that is possible is lawful, and leaves the bus and the pump as the past then says. -/
theorem act?_spec {p p' : Pump α} {act : Act α} {x : Deed α} (fits : Fits c p.bus past)
    (follows : Follows pumped p past) (done : p.act? act = some (x, p')) :
    x.Lawful c pumped past ∧ Fits c p'.bus (x :: past) ∧ Follows pumped p' (x :: past) := by
  cases act with
  | subscribe =>
    obtain ⟨able, ⟨⟩⟩ := Option.ite_none_left_eq_some.mp done
    obtain ⟨unmade, fits⟩ := fits.subscribe
    exact ⟨⟨unmade, follows.able able⟩, fits, follows.bus rfl ⟨rfl, rfl, rfl, rfl, rfl⟩⟩
  | publish a =>
    obtain ⟨able, ⟨⟩⟩ := Option.ite_none_left_eq_some.mp done
    exact ⟨⟨fits.delivered a, follows.able able⟩, fits.publish (fun _ => rfl) rfl rfl,
      follows.bus rfl ⟨rfl, rfl, rfl, rfl, rfl⟩⟩
  | tryReceive i =>
    obtain ⟨there, ⟨⟩⟩ := Option.ite_none_left_eq_some.mp done
    have lives := fits.mem_live.mp there
    have handles : (p.bus.take i).2.handles = p.bus.handles := by rw [(fits.take lives).2]
    exact ⟨⟨lives, (fits.take lives).1⟩, fits.asked lives (fun _ => rfl) rfl rfl,
      follows.bus handles ⟨rfl, rfl, rfl, rfl, rfl⟩⟩
  | poll i =>
    obtain ⟨there, ⟨⟩⟩ := Option.ite_none_left_eq_some.mp done
    have lives := fits.mem_live.mp there
    obtain ⟨answer, after⟩ := fits.poll lives
    rw [follows.handles] at answer
    have handles : (p.bus.poll i).2.handles = p.bus.handles := by rw [after, (fits.take lives).2]
    refine ⟨⟨lives, answer⟩, ?_, follows.bus handles ⟨rfl, rfl, rfl, rfl, rfl⟩⟩
    exact after ▸ fits.asked lives (fun _ => rfl) rfl rfl
  | leave i =>
    obtain ⟨there, ⟨⟩⟩ := Option.ite_none_left_eq_some.mp done
    exact ⟨fits.mem_live.mp there, fits.leave,
      follows.bus rfl ⟨rfl, rfl, rfl, rfl, rfl⟩⟩
  | share =>
    obtain ⟨able, ⟨⟩⟩ := Option.ite_none_left_eq_some.mp done
    exact ⟨follows.able able, fits.unseen (fun _ => rfl) rfl rfl _, follows.share⟩
  | release =>
    obtain ⟨able, ⟨⟩⟩ := Option.ite_none_left_eq_some.mp done
    exact ⟨follows.able able, fits.unseen (fun _ => rfl) rfl rfl _, follows.release able⟩
  | send a =>
    cases done
    obtain ⟨taken, follows⟩ := follows.send a
    refine ⟨taken, ?_, follows⟩
    have same : (p.send a).2.bus = p.bus := by
      unfold Pump.send
      split <;> rfl
    exact same ▸ fits.unseen (fun _ => rfl) rfl rfl _
  | close =>
    cases done
    refine ⟨trivial, fits.unseen (fun _ => rfl) rfl rfl _, ?_⟩
    exact ⟨follows.handles, follows.running, follows.owns, rfl, follows.waiting⟩
  | turn =>
    simp only [act?] at done
    split at done
    · rename_i a rest running waiting
      cases done
      have turned : p.turn = { p with bus := (p.bus.publish a).2, waiting := rest } := by
        simp only [Pump.turn, running, waiting]
      rw [turned]
      obtain ⟨next, follows⟩ := follows.forward waiting
      exact ⟨⟨follows.running ▸ running, rest, next⟩, fits.publish (fun _ => rfl) rfl rfl, follows⟩
    · rename_i running waiting
      obtain ⟨shut, ⟨⟩⟩ := Option.ite_none_left_eq_some.mp done
      have turned : p.turn = { p with bus := p.bus.release, running := false } := by
        simp [Pump.turn, running, waiting, shut]
      rw [turned]
      refine ⟨⟨follows.running ▸ running, follows.source ▸ shut, ?_⟩,
        fits.unseen (fun _ => rfl) rfl rfl _, follows.finish⟩
      simp [follows.waiting, waiting]
    · cases done

/-- What is known of a bus with its past: it is where the past says, each subscription has answered
as its own queue does, and every deed was lawful. -/
structure Faithful (c : Nat) (pumped : Bool) (s : Course α) : Prop where
  fits : Fits c s.pump.bus s.past
  follows : Follows pumped s.pump s.past
  answers : ∀ i, answers i s.past = (queue c i s.past).answers
  lawful : ∀ x before, x :: before <:+ s.past → x.Lawful c pumped before

namespace Faithful

variable {s : Course α}

theorem start (pumped : Bool) (buffer : Nat) :
    Faithful (max buffer 1) pumped (⟨.start pumped buffer, []⟩ : Course α) where
  fits := by
    cases pumped with
    | false => exact .fresh buffer
    | true => exact ⟨rfl, rfl, by simp [made], List.nodup_nil⟩
  follows := by
    cases pumped with
    | false => exact ⟨rfl, rfl, Nat.zero_le _, rfl, rfl⟩
    | true => exact ⟨rfl, rfl, Nat.le_succ 1, rfl, rfl⟩
  answers _ := rfl
  lawful x before ends := by simp at ends

theorem step (faithful : Faithful c pumped s) (act : Act α) :
    Faithful c pumped (s.step act) := by
  unfold Course.step
  split
  · exact faithful
  · rename_i x p done
    obtain ⟨lawful, fits, follows⟩ := act?_spec faithful.fits faithful.follows done
    refine ⟨fits, follows, fun i => answers_eq_cons lawful (faithful.answers i), ?_⟩
    intro y before ends
    rcases List.suffix_cons_iff.mp ends with same | earlier
    · obtain ⟨rfl, rfl⟩ := List.cons.inj same
      exact lawful
    · exact faithful.lawful y before earlier

theorem run (faithful : Faithful c pumped s) (acts : List (Act α)) :
    Faithful c pumped (s.run acts) := by
  induction acts generalizing s with
  | nil => exact faithful
  | cons act acts ih => exact ih (faithful.step act)

end Faithful

/-- Since there is no handle left, a subscription has answered `n` times, with what it held and then
with nothing; and it never said that more may come. -/
structure Drains (c : Nat) (pumped : Bool) (i : Nat) (before past : List (Deed α)) (n : Nat) :
    Prop where
  gone : handles pumped past = 0
  answers : answers i past =
    answers i before ++ (List.range n).map fun k => (queue c i before).held[k]?
  held : i ∈ live past → (queue c i past).held = (queue c i before).held.drop n
  new : ∃ new, past = new ++ before ∧ .polled i .pending ∉ new

namespace Drains

variable {i n : Nat} {before : List (Deed α)} {x : Deed α}

theorem start (gone : handles pumped before = 0) : Drains c pumped i before before 0 where
  gone := gone
  answers := by simp
  held _ := List.drop_zero.symm
  new := ⟨[], rfl, List.not_mem_nil⟩

theorem cons (drains : Drains c pumped i before past n) (lawful : x.Lawful c pumped past)
    (owns : (pumping pumped past).toNat ≤ handles pumped past) :
    ∃ n, Drains c pumped i before (x :: past) n := by
  obtain ⟨gone, unoffered, lives⟩ := lawful.gone owns drains.gone
  have new : ∃ new, x :: past = new ++ before ∧ .polled i .pending ∉ new := by
    obtain ⟨new, rfl, unpending⟩ := drains.new
    refine ⟨x :: new, rfl, fun member => ?_⟩
    rcases List.mem_cons.mp member with rfl | earlier
    · have answer := lawful.2
      rw [drains.gone] at answer
      cases held : (queue c i (new ++ before)).held <;> simp [held] at answer
    · exact unpending earlier
  rcases lawful.answered i with ⟨silent, unasked⟩ | ⟨there, seen, answer⟩
  · refine ⟨n, gone, ?_, fun still => ?_, new⟩
    · rw [answers_cons, silent, drains.answers]
      exact List.append_nil _
    · rw [queue_cons_live (lives i still), ← drains.held (lives i still)]
      cases seen : x.sight? i with
      | none => rfl
      | some s =>
        cases s with
        | offered a => exact absurd seen (unoffered i a)
        | asked => exact absurd seen unasked
  · have held := drains.held there
    refine ⟨n + 1, gone, ?_, fun _ => ?_, new⟩
    · rw [answers_cons, answer, drains.answers, held, List.head?_drop, List.range_succ,
        List.map_append, List.append_assoc]
      rfl
    · rw [queue_cons_live there, seen]
      simp [Queue.see, held]

end Drains

theorem Course.run_concat (s : Course α) (acts : List (Act α)) (act : Act α) :
    s.run (acts ++ [act]) = (s.run acts).step act := by
  simp [Course.run]

/-- When no handle is left, every subscription is drained by whoever asks it. -/
theorem Faithful.drains {s : Course α} (faithful : Faithful c pumped s)
    (gone : handles pumped s.past = 0) (more : List (Act α)) (i : Nat) :
    ∃ n, Drains c pumped i s.past (s.run more).past n := by
  induction more using List.reverseRecOn with
  | nil => exact ⟨0, .start gone⟩
  | append_singleton more act ih =>
    obtain ⟨n, drains⟩ := ih
    have now := faithful.run more
    rw [Course.run_concat]
    unfold Course.step
    split
    · exact ⟨n, drains⟩
    · rename_i x p done
      have owns := now.follows.owns
      rw [now.follows.running, now.follows.handles] at owns
      exact drains.cons (act?_spec now.fits now.follows done).1 owns

/-- A bus refines independent bounded queues: in every course of what is done to it, each
subscription is a queue of its own. So nothing but what is published while it lives and what it is
asked itself has a part in what it answers; and when no handle is left, the pump's included, it
gives what it holds and then the end. -/
theorem run_faithful (buffer : Nat) (pumped : Bool) (acts : List (Act α)) :
    let s := Course.run ⟨start pumped buffer, []⟩ acts
    Faithful (max buffer 1) pumped s ∧ s.pump.bus.count = (live s.past).length ∧
      (∀ pumped' acts', let s' := Course.run ⟨start pumped' buffer, []⟩ acts'
        ∀ i i', sights i s.past = sights i' s'.past →
          answers i s.past = answers i' s'.past ∧
            ∀ items, ⟨i, items⟩ ∈ s.pump.bus.subscriptions →
              ∀ items', ⟨i', items'⟩ ∈ s'.pump.bus.subscriptions → items = items') ∧
      (s.pump.bus.handles = 0 → ∀ more, ∀ r ∈ s.pump.bus.subscriptions, ∃ n,
        Drains (max buffer 1) pumped r.id s.past (s.run more).past n) := by
  intro s
  have faithful : Faithful (max buffer 1) pumped s := (Faithful.start pumped buffer).run acts
  refine ⟨faithful, ?_, ?_, ?_⟩
  · rw [Bus.count, faithful.fits.subscriptions, List.length_map]
  · intro pumped' acts' s' i i' same
    have faithful' : Faithful (max buffer 1) pumped' s' :=
      (Faithful.start pumped' buffer).run acts'
    have queues : queue (max buffer 1) i s.past = queue (max buffer 1) i' s'.past :=
      congrArg (replay _) same
    refine ⟨by rw [faithful.answers, faithful'.answers, queues], ?_⟩
    intro items member items' member'
    rw [faithful.fits.items member, faithful'.fits.items member', queues]
  · intro gone more r _
    exact faithful.drains (faithful.follows.handles.symm.trans gone) more r.id

/-- A subscription that nobody reads holds what came first, and costs another one nothing. -/
example :
    let s := Course.run (⟨start false 2, []⟩ : Course Nat)
      [.subscribe, .subscribe, .publish 0, .poll 2, .publish 1, .poll 2, .publish 2, .poll 2]
    s.pump.bus.subscriptions = [⟨1, [0, 1]⟩, ⟨2, []⟩] ∧
      answers 2 s.past = [some 0, some 1, some 2] := by
  decide

end Pump

end LocalProxy
