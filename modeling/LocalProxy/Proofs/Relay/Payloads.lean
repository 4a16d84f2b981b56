import LocalProxy.Proofs.Relay.Routes

/-! What the flows carry. A flow sends what was queued on it in the order in which it arrived,
each datagram at most once. Main statement: `after_orderly`. -/
namespace LocalProxy.Relay

variable {deeds ds : List Deed} {t : Flow} {f : Flow → Flow}

/-- What a task knows of its flow. What was queued was handled in order, is being sent or waits;
of what was handled, some may not have been sent. -/
structure Flow.Fed (t : Flow) (deeds : List Deed) : Prop where
  source : t.metadata.source = t.key.source
  destination : t.metadata.destination = some t.key.destination
  direct : t.metadata.outbound = .direct
  keyed : ∀ p ∈ only t.serial (queued deeds), p.flowKey? = some t.key
  room : t.queue.length ≤ flowQueue
  line : ∃ handled, (only t.serial (sent deeds)).Sublist handled ∧
    (only t.serial (queued deeds)).map (·.payload) = handled ++ t.held.toList ++ t.queue

namespace Flow.Fed

/-- Deeds that concern other flows. -/
theorem other (fed : t.Fed deeds) (queued : only t.serial (queued ds) = [])
    (sent : only t.serial (sent ds) = []) : t.Fed (deeds ++ ds) := by
  refine { fed with keyed := ?_, line := ?_ }
  · simpa [queued] using fed.keyed
  · simpa [queued, sent] using fed.line

/-- A datagram of its key is queued on it. -/
theorem join (fed : t.Fed deeds) {p : Packet} (keyed : p.flowKey? = some t.key)
    (room : t.queue.length < flowQueue) :
    Flow.Fed { t with queue := t.queue ++ [p.payload] } (deeds ++ [.queued t.serial p]) where
  source := fed.source
  destination := fed.destination
  direct := fed.direct
  keyed q member := by
    rw [queued_append, only_append, List.mem_append] at member
    rcases member with old | new
    · exact fed.keyed q old
    · obtain rfl : q = p := by simpa using new
      exact keyed
  room := by
    rw [List.length_append]
    exact room
  line := by
    obtain ⟨handled, sent, line⟩ := fed.line
    exact ⟨handled, by simpa using sent, by simp [line]⟩

/-- A flow begins with its first datagram in the queue. -/
theorem begin {n : Nat} {key : FlowKey} {p : Packet} (keyed : p.flowKey? = some key)
    (unqueued : only n (queued deeds) = []) (unsent : only n (sent deeds) = []) :
    Flow.Fed ⟨n, key, p.metadata, p.path, [p.payload], none, .opening⟩
      (deeds ++ [.began n key p.path, .queued n p]) := by
  obtain ⟨direct, source, destination⟩ := p.flowKey?_eq_some.mp keyed
  have queue : only n (queued (deeds ++ [.began n key p.path, .queued n p])) = [p] := by
    rw [queued_append, only_append, unqueued]
    exact only_self p
  have silent : only n (sent (deeds ++ [.began n key p.path, .queued n p])) = [] := by
    rw [sent_append, only_append, unsent]
    rfl
  exact {
    source := source
    destination := destination
    direct := direct
    keyed := fun q member => by
      rw [queue, List.mem_singleton] at member
      exact member ▸ keyed
    room := by simp [flowQueue]
    line := ⟨[], silent ▸ .refl _, by rw [queue]; rfl⟩ }

/-- A turn takes the flow on in its line, or changes nothing in it. -/
theorem turn (fed : t.Fed deeds) (turn : Turn t f ds) : (f t).Fed (deeds ++ ds) := by
  obtain ⟨handled, sent, line⟩ := fed.line
  cases turn with
  | answered => exact fed.other rfl rfl
  | staged =>
    rw [List.append_nil]
    exact { fed with }
  | took free waits =>
    rw [List.append_nil]
    refine { fed with room := ?_, line := ⟨handled, sent, ?_⟩ }
    · have room := fed.room
      rw [waits] at room
      exact Nat.le_of_succ_le room
    · simpa [free, waits] using line
  | @sent payload holds =>
    refine { fed with keyed := by simpa using fed.keyed, line := ⟨handled ++ [payload], ?_, ?_⟩ }
    · rw [sent_append, only_append, sent_sent, only_self]
      exact sent.append (.refl _)
    · simpa [holds] using line
  | @lost payload holds =>
    rw [List.append_nil]
    refine { fed with line := ⟨handled ++ [payload], ?_, ?_⟩ }
    · exact sent.trans (List.sublist_append_left _ _)
    · simpa [holds] using line

end Flow.Fed

/-- Each flow has sent what was queued on it, in order. A datagram that came was queued at most
once, if it was one to relay, and all on one flow are of one key. -/
structure Ordered (deeds : List Deed) (came : List Packet) : Prop where
  sent : ∀ n, (only n (sent deeds)).Sublist ((only n (queued deeds)).map (·.payload))
  came : ((queued deeds).map (·.2)).Sublist came
  relayed : ∀ x ∈ queued deeds, x.2.flowKey? ≠ none
  keyed : ∀ n, ∀ p ∈ only n (queued deeds), ∀ q ∈ only n (queued deeds), p.flowKey? = q.flowKey?

namespace Ordered

variable {came : List Packet}

theorem ignore (o : Ordered deeds came) (p : Packet) : Ordered deeds (came ++ [p]) :=
  { o with came := o.came.trans (List.sublist_append_left _ _) }

theorem queue (o : Ordered deeds came) {n : Nat} {p : Packet} {key : FlowKey}
    (new : queued ds = [(n, p)]) (unsent : Relay.sent ds = []) (keyed : p.flowKey? = some key)
    (same : ∀ q ∈ only n (queued deeds), q.flowKey? = some key) :
    Ordered (deeds ++ ds) (came ++ [p]) where
  sent m := by
    rw [sent_append, unsent, List.append_nil, queued_append, only_append, List.map_append]
    exact (o.sent m).trans (List.sublist_append_left _ _)
  came := by
    rw [queued_append, new, List.map_append]
    exact o.came.append (.refl _)
  relayed x member := by
    rw [queued_append, new, List.mem_append] at member
    rcases member with old | latest
    · exact o.relayed x old
    · simp [List.mem_singleton.mp latest, keyed]
  keyed m q one q' other := by
    rw [queued_append, new, only_append, List.mem_append] at one other
    have latest {x : Packet} (member : x ∈ only m [(n, p)]) : n = m ∧ x = p := by
      simpa [mem_only, eq_comm] using member
    rcases one with one | one <;> rcases other with other | other
    · exact o.keyed m q one q' other
    · obtain ⟨rfl, rfl⟩ := latest other
      rw [same q one, keyed]
    · obtain ⟨rfl, rfl⟩ := latest one
      rw [same q' other, keyed]
    · rw [(latest one).2, (latest other).2]

/-- A turn sends nothing, or what its flow has next. -/
theorem turn (o : Ordered deeds came) (fed : t.Fed deeds) (turn : Turn t f ds) :
    Ordered (deeds ++ ds) came := by
  have unqueued : queued (deeds ++ ds) = queued deeds := by
    rw [queued_append, turn.queued_eq_nil, List.append_nil]
  suffices sent : ∀ n, (only n (Relay.sent (deeds ++ ds))).Sublist
      ((only n (queued deeds)).map (·.payload)) by
    constructor <;> rw [unqueued]
    exacts [sent, o.came, o.relayed, o.keyed]
  intro n
  by_cases own : n = t.serial
  · obtain ⟨handled, sent, line⟩ := (fed.turn turn).line
    rw [unqueued] at line
    rw [own, ← turn.serial t, line, List.append_assoc]
    exact sent.trans (List.sublist_append_left _ _)
  · rw [sent_append, only_append, turn.only_sent own, List.append_nil]
    exact o.sent n

end Ordered

namespace Flows

/-- What the flows carry of the datagrams that came. -/
structure Fed (d : Flows) (came : List Packet) : Prop where
  tasks : ∀ t ∈ d.tasks, t.Fed d.deeds
  deeds : Ordered d.deeds came
  below : ∀ x ∈ queued d.deeds, x.1 < d.next

namespace Fed

variable {d d' : Flows} {came : List Packet}

theorem create (statistics : Statistics) : (Flows.create statistics).Fed [] where
  tasks := by simp [Flows.create]
  deeds := ⟨fun _ => .slnil, .slnil, by simp [Flows.create], by simp [Flows.create]⟩
  below := by simp [Flows.create]

theorem congr (fed : d.Fed came) (tasks : d'.tasks = d.tasks) (deeds : d'.deeds = d.deeds)
    (next : d'.next = d.next) : d'.Fed came where
  tasks := by
    rw [tasks, deeds]
    exact fed.tasks
  deeds := deeds ▸ fed.deeds
  below := by
    rw [deeds, next]
    exact fed.below

/-- Nothing is on record of the flow that is the next to begin. -/
theorem unused (fed : d.Fed came) :
    only d.next (queued d.deeds) = [] ∧ only d.next (sent d.deeds) = [] := by
  have unqueued : only d.next (queued d.deeds) = [] :=
    only_eq_nil fun x member => Nat.ne_of_lt (fed.below x member)
  exact ⟨unqueued, List.sublist_nil.mp (by simpa [unqueued] using fed.deeds.sent d.next)⟩

theorem arrival (fed : d.Fed came) (r : d.Routed) {p : Packet} (arrival : d.Arrival p d') :
    d'.Fed (came ++ [p]) := by
  cases arrival with
  | refused | overflowed => exact congr { fed with deeds := fed.deeds.ignore p } rfl rfl rfl
  | @joined key t keyed routed room =>
    obtain ⟨listed, rfl⟩ := r.route?_eq_some.mp routed
    have member := (mem_listed.mp listed).1
    exact {
      tasks := fun u' after => by
        rcases r.mem_update member after with rfl | ⟨old, other⟩
        · exact (fed.tasks t member).join keyed room
        · exact (fed.tasks u' old).other (only_other (Ne.symm other) p) rfl
      deeds := fed.deeds.queue rfl rfl keyed (fed.tasks t member).keyed
      below := fun x queued => by
        rw [noted, queued_append, List.mem_append] at queued
        rcases queued with old | new
        · exact fed.below x old
        · rw [List.mem_singleton.mp new]
          exact r.below t.serial (List.mem_map_of_mem member) }
  | @began key keyed unrouted =>
    obtain ⟨unqueued, unsent⟩ := fed.unused
    exact {
      tasks := fun t member => by
        rcases List.mem_append.mp member with old | new
        · have other := Nat.ne_of_gt (r.below t.serial (List.mem_map_of_mem old))
          exact (fed.tasks t old).other (only_other other p) rfl
        · exact List.mem_singleton.mp new ▸ .begin keyed unqueued unsent
      deeds := fed.deeds.queue rfl rfl keyed (by simp [unqueued])
      below := fun x queued => by
        rw [Flows.begin, queued_append, List.mem_append] at queued
        rcases queued with old | new
        · exact Nat.lt_succ_of_lt (fed.below x old)
        · rw [List.mem_singleton.mp new]
          exact Nat.lt_succ_self _ }

theorem step (fed : d.Fed came) (r : d.Routed) {t : Flow} (member : t ∈ d.tasks)
    (step : d.Step t d') : d'.Fed came := by
  cases step with
  | @turned f ds statistics records turn =>
    exact {
      tasks := fun u' after => by
        rcases r.mem_update member after with rfl | ⟨old, other⟩
        · exact (fed.tasks t member).turn turn
        · exact (fed.tasks u' old).other (by rw [turn.queued_eq_nil, only_nil])
            (turn.only_sent other)
      deeds := fed.deeds.turn (fed.tasks t member) turn
      below := by
        rw [queued_append, turn.queued_eq_nil, List.append_nil]
        exact fed.below }
  | unlisted ended =>
    refine { fed with tasks := fun u' after => ?_ }
    rcases r.mem_update member after with rfl | ⟨old, -⟩
    · exact { fed.tasks t member with }
    · exact fed.tasks u' old
  | dropped removed =>
    exact { fed with tasks := fun u other => fed.tasks u (List.mem_of_mem_filter other) }

end Fed

/-- What holds of the flows, given the datagrams that came. -/
structure Sound (d : Flows) (came : List Packet) : Prop where
  routed : d.Routed
  fed : d.Fed came

namespace Sound

variable {d d' : Flows} {came : List Packet}

theorem create (statistics : Statistics) : (Flows.create statistics).Sound [] :=
  ⟨.create statistics, .create statistics⟩

theorem arrival {p : Packet} (s : d.Sound came) (arrival : d.Arrival p d') :
    d'.Sound (came ++ [p]) :=
  ⟨s.routed.arrival arrival, s.fed.arrival s.routed arrival⟩

theorem step {t : Flow} (s : d.Sound came) (member : t ∈ d.tasks) (step : d.Step t d') :
    d'.Sound came :=
  ⟨s.routed.step member step, s.fed.step s.routed member step⟩

theorem beside (statistics : Statistics) (s : d.Sound came) :
    Sound { d with statistics := statistics } came :=
  ⟨s.routed.congr rfl rfl rfl, s.fed.congr rfl rfl rfl⟩

theorem after (statistics : Statistics) (happenings : List Happening) :
    ((Flows.create statistics).after happenings).Sound (arrivals happenings) :=
  after_induction (create statistics) arrival step beside happenings

end Sound

/-- The flows and their table at any time, given the datagrams that came. -/
structure Orderly (d : Flows) (came : List Packet) : Prop where
  /-- There is an entry for each flow between its insertion and its removal, and no other. -/
  table : d.table = d.listed.map Flow.entry
  /-- A key has one such flow at most, and its entry leads to that flow. -/
  route : ∀ key t, d.route? key = some t ↔ t ∈ d.listed ∧ t.key = key
  entry : ∀ key n, (key, n) ∈ d.table ↔ ∃ t, d.route? key = some t ∧ t.serial = n
  /-- A datagram that arrives replaces no entry. -/
  arrive : ∀ p, ∃ fresh, (d.arrive p).table = d.table ++ fresh
  /-- A flow that has ended removes its own entry, and no other. -/
  unlist : ∀ t ∈ d.tasks, t.stage = .ended → ∃ before after,
    d.table = before ++ t.entry :: after ∧
      (d.move? (.unlist t.serial)).map (·.table) = some (before ++ after)
  room : ∀ t ∈ d.tasks, t.queue.length ≤ flowQueue
  order : Ordered d.deeds came
  refused : ∀ p : Packet, p.metadata.destination = none ∨ p.metadata.specialProxy ≠ none ∧
    p.metadata.specialProxy ≠ some Outbound.directName →
      d.arrive p = { d with records := (d.arrive p).records }
  relayed : ∀ t ∈ d.tasks, t.metadata.destination = some t.key.destination ∧
    (t.metadata.specialProxy = none ∨ t.metadata.specialProxy = some Outbound.directName)
  empty : d.tasks = [] → d.table = []

theorem Sound.orderly {d : Flows} {came : List Packet} (s : d.Sound came) : d.Orderly came where
  table := s.routed.table
  route key t := s.routed.route?_eq_some
  entry key n := by
    rw [s.routed.table, List.mem_map]
    constructor
    · rintro ⟨t, listed, same⟩
      cases same
      exact ⟨t, s.routed.route?_eq_some.mpr ⟨listed, rfl⟩, rfl⟩
    · rintro ⟨t, routed, rfl⟩
      obtain ⟨listed, rfl⟩ := s.routed.route?_eq_some.mp routed
      exact ⟨t, listed, rfl⟩
  arrive p := s.routed.table_of_arrival (d.arrive_arrival p)
  unlist t member ended := by
    obtain ⟨before, after, split, rest⟩ := s.routed.unlist member ended
    refine ⟨before, after, split, ?_⟩
    have found : d.task? t.serial = some t := s.routed.task?_eq_some.mpr ⟨member, rfl⟩
    simp [move?, FlowMove.flow?, found, step?, ended, update, ← rest]
  room t member := (s.fed.tasks t member).room
  order := s.fed.deeds
  refused p rejected := by
    refine (d.arrive_arrival p).eq_of_unkeyed (Packet.flowKey?_eq_none.mpr ?_)
    exact rejected.imp_right fun other =>
      mt Metadata.outbound_eq_direct.mp (not_or.mpr other)
  relayed t member := by
    have fed := s.fed.tasks t member
    exact ⟨fed.destination, Metadata.outbound_eq_direct.mp fed.direct⟩
  empty finished := by
    rw [s.routed.table, listed, finished]
    rfl

/-- Whatever happens, the table is that of the flows, which send what arrived for them in order. -/
theorem after_orderly (statistics : Statistics) (happenings : List Happening) :
    ((Flows.create statistics).after happenings).Orderly (arrivals happenings) :=
  (Sound.after statistics happenings).orderly

end Flows

end LocalProxy.Relay
