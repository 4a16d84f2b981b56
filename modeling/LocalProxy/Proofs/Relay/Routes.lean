import LocalProxy.Proofs.Relay.Turns

/-! The table of the flows. At any time it has one entry for each flow that was begun and not yet
removed, in the order in which they began, and a flow that ends takes its own entry out. -/
namespace LocalProxy.Relay

/-- The table entry of a flow. -/
def Flow.entry (t : Flow) : FlowKey × Nat := (t.key, t.serial)

theorem lookup_entry (ts : List Flow) (key : FlowKey) :
    (ts.map Flow.entry).lookup key = (ts.find? (·.key == key)).map (·.serial) := by
  induction ts with
  | nil => rfl
  | cons t ts ih =>
    by_cases same : key = t.key
    · simp [Flow.entry, same]
    · simp only [List.map_cons, Flow.entry, List.lookup_cons, List.find?_cons,
        beq_eq_false_iff_ne.mpr same, beq_eq_false_iff_ne.mpr (Ne.symm same)]
      exact ih

/-- Where no two items have one mark, a mark finds the item that has it. -/
theorem find?_eq_some_of_nodup {α β : Type} [DecidableEq β] {mark : α → β} {xs : List α}
    (nodup : (xs.map mark).Nodup) {x : α} {m : β} :
    xs.find? (mark · == m) = some x ↔ x ∈ xs ∧ mark x = m := by
  constructor
  · intro found
    exact ⟨List.mem_of_find?_eq_some found, by simpa using List.find?_some found⟩
  · rintro ⟨member, rfl⟩
    cases found : xs.find? (mark · == mark x) with
    | none => simpa using List.find?_eq_none.mp found x member
    | some y =>
      have same : mark y = mark x := by simpa using List.find?_some found
      rw [List.inj_on_of_nodup_map nodup (List.mem_of_find?_eq_some found) member same]

namespace Flows

/-- The flows between their insertion and their removal. -/
def listed (d : Flows) : List Flow := d.tasks.filter (·.stage ≠ .removed)

theorem mem_listed {d : Flows} {t : Flow} : t ∈ d.listed ↔ t ∈ d.tasks ∧ t.stage ≠ .removed := by
  simp [listed]

/-- An update that leaves each task its number. -/
theorem serials_update (d : Flows) (n : Nat) {f : Flow → Flow}
    (same : ∀ u, (f u).serial = u.serial) :
    (d.update n f).tasks.map (·.serial) = d.tasks.map (·.serial) := by
  rw [update, List.map_map]
  refine List.map_congr_left fun u _ => ?_
  simp only [Function.comp_apply]
  split
  · exact same u
  · rfl

theorem listed_removed (d : Flows) (n : Nat) :
    (d.update n fun u => { u with stage := .removed }).listed =
      d.listed.filter (·.serial ≠ n) := by
  simp only [listed, update, List.filter_map, List.filter_filter]
  have others : d.tasks.filter ((fun t => decide (t.stage ≠ .removed)) ∘ fun u =>
      if u.serial = n then { u with stage := .removed } else u) =
      d.tasks.filter fun u => decide (u.serial ≠ n) && decide (u.stage ≠ .removed) := by
    refine List.filter_congr fun u _ => ?_
    by_cases same : u.serial = n <;> simp [same]
  rw [others]
  refine (List.map_congr_left fun u member => ?_).trans (List.map_id _)
  obtain ⟨other, -⟩ : u.serial ≠ n ∧ u.stage ≠ .removed := by
    simpa using (List.mem_filter.mp member).2
  exact if_neg other

/-- The table leads to the flows that are listed, and to each by its own key. -/
structure Routed (d : Flows) : Prop where
  table : d.table = d.listed.map Flow.entry
  keys : (d.table.map (·.1)).Nodup
  serials : (d.tasks.map (·.serial)).Nodup
  below : ∀ n ∈ d.tasks.map (·.serial), n < d.next

namespace Routed

variable {d d' : Flows} {t u : Flow} {key : FlowKey}

theorem create (statistics : Statistics) : (Flows.create statistics).Routed where
  table := rfl
  keys := .nil
  serials := .nil
  below := by simp [Flows.create]

theorem congr (r : d.Routed) (tasks : d'.tasks = d.tasks) (table : d'.table = d.table)
    (next : d'.next = d.next) : d'.Routed where
  table := by rw [table, r.table, listed, listed, tasks]
  keys := table ▸ r.keys
  serials := tasks ▸ r.serials
  below := by
    rw [tasks, next]
    exact r.below

/-- A number names one task. -/
theorem eq_of_serial (r : d.Routed) (one : t ∈ d.tasks) (other : u ∈ d.tasks)
    (same : t.serial = u.serial) : t = u :=
  List.inj_on_of_nodup_map r.serials one other same

theorem listed_keys (r : d.Routed) : (d.listed.map (·.key)).Nodup := by
  simpa [r.table, Function.comp_def, Flow.entry] using r.keys

/-- A key names one flow that is listed. -/
theorem eq_of_key (r : d.Routed) (one : t ∈ d.listed) (other : u ∈ d.listed)
    (same : t.key = u.key) : t = u :=
  List.inj_on_of_nodup_map r.listed_keys one other same

/-- What an update of one task leaves: the task as it became, and the others. -/
theorem mem_update (r : d.Routed) (member : t ∈ d.tasks) {f : Flow → Flow}
    (after : u ∈ (d.update t.serial f).tasks) : u = f t ∨ u ∈ d.tasks ∧ u.serial ≠ t.serial := by
  obtain ⟨before, old, rfl⟩ := List.mem_map.mp after
  split
  next same => exact .inl (congrArg f (r.eq_of_serial old member same))
  next other => exact .inr ⟨old, other⟩

theorem task?_eq_some (r : d.Routed) {n : Nat} :
    d.task? n = some t ↔ t ∈ d.tasks ∧ t.serial = n :=
  find?_eq_some_of_nodup r.serials

/-- A key leads to the flow that is listed under it. -/
theorem route?_eq_find? (r : d.Routed) (key : FlowKey) :
    d.route? key = d.listed.find? (·.key == key) := by
  rw [route?, r.table, lookup_entry]
  cases found : d.listed.find? (·.key == key) with
  | none => rfl
  | some t =>
    have member := (mem_listed.mp (List.mem_of_find?_eq_some found)).1
    exact r.task?_eq_some.mpr ⟨member, rfl⟩

theorem route?_eq_some (r : d.Routed) :
    d.route? key = some t ↔ t ∈ d.listed ∧ t.key = key :=
  r.route?_eq_find? key ▸ find?_eq_some_of_nodup r.listed_keys

theorem route?_eq_none (r : d.Routed) : d.route? key = none ↔ ∀ t ∈ d.listed, t.key ≠ key := by
  rw [r.route?_eq_find?]
  simp

/-- An update that leaves a flow its key, its number and its place in the table. -/
theorem update (r : d.Routed) (n : Nat) {f : Flow → Flow} (kept : ∀ u, (f u).entry = u.entry)
    (place : ∀ u ∈ d.tasks, u.serial = n → ((f u).stage = .removed ↔ u.stage = .removed)) :
    (d.update n f).Routed := by
  have serials := serials_update d n fun u => congrArg Prod.snd (kept u)
  have entries : (d.update n f).listed.map Flow.entry = d.listed.map Flow.entry := by
    rw [listed, listed, Flows.update, List.filter_map, List.map_map]
    have places : d.tasks.filter ((fun t => decide (t.stage ≠ .removed)) ∘ fun u =>
        if u.serial = n then f u else u) = d.tasks.filter (·.stage ≠ .removed) := by
      refine List.filter_congr fun u member => ?_
      by_cases own : u.serial = n
      · simp [own, place u member own]
      · simp [own]
    rw [places]
    refine List.map_congr_left fun u _ => ?_
    simp only [Function.comp_apply]
    split
    · exact kept u
    · rfl
  exact {
    table := r.table.trans entries.symm
    keys := r.keys
    serials := serials ▸ r.serials
    below := serials ▸ r.below }

/-- A turn leaves its flow in the table. -/
theorem turn (r : d.Routed) (member : t ∈ d.tasks) {f : Flow → Flow} {deeds : List Deed}
    (turn : Turn t f deeds) : (d.update t.serial f).Routed := by
  refine r.update t.serial (fun u => Prod.ext (turn.key u) (turn.serial u))
    fun u other same => ?_
  cases r.eq_of_serial other member same
  cases turn with
  | staged listed still => exact iff_of_false still listed
  | answered | took | sent | lost => exact .rfl

theorem begin_table (r : d.Routed) (p : Packet) (unrouted : d.route? key = none) :
    key ∉ d.table.map (·.1) ∧ (d.begin key p).table = d.table ++ [(key, d.next)] := by
  have absent : key ∉ d.table.map (·.1) := by
    rw [r.table, List.map_map]
    intro member
    obtain ⟨t, listed, same⟩ := List.mem_map.mp member
    exact r.route?_eq_none.mp unrouted t listed same
  refine ⟨absent, ?_⟩
  have others : d.table.filter (·.1 ≠ key) = d.table :=
    List.filter_eq_self.mpr fun e member => decide_eq_true fun same =>
      absent (same ▸ List.mem_map_of_mem member)
  rw [Flows.begin, others]

/-- A flow begins under the next number, which no task has yet. -/
theorem begin (r : d.Routed) (p : Packet) (unrouted : d.route? key = none) :
    (d.begin key p).Routed := by
  obtain ⟨absent, table⟩ := r.begin_table p unrouted
  refine ⟨?_, ?_, ?_, ?_⟩
  · rw [table, r.table]
    simp [listed, Flows.begin, Flow.entry]
  · rw [table, List.map_append, List.map_singleton, ← List.concat_eq_append]
    exact r.keys.concat absent
  · rw [Flows.begin, List.map_append, List.map_singleton, ← List.concat_eq_append]
    exact r.serials.concat fun member => Nat.lt_irrefl _ (r.below d.next member)
  · rw [Flows.begin, List.map_append]
    intro n member
    rcases List.mem_append.mp member with old | new
    · exact Nat.lt_succ_of_lt (r.below n old)
    · exact List.mem_singleton.mp new ▸ Nat.lt_succ_self _

/-- A flow that was ended takes its own entry out of the table, and no other. -/
theorem unlist (r : d.Routed) (member : t ∈ d.tasks) (ended : t.stage = .ended) :
    ∃ before after, d.table = before ++ t.entry :: after ∧
      d.table.filter (·.1 ≠ t.key) = before ++ after := by
  have listed : t ∈ d.listed := mem_listed.mpr ⟨member, by simp [ended]⟩
  obtain ⟨before, after, split⟩ :=
    List.append_of_mem (r.table ▸ List.mem_map_of_mem listed : t.entry ∈ d.table)
  refine ⟨before, after, split, ?_⟩
  have keys := r.keys
  rw [split, List.map_append, List.map_cons] at keys
  have others : t.key ∉ (before ++ after).map (·.1) := by
    rw [List.map_append]
    exact (List.nodup_cons.mp (List.nodup_middle.mp keys)).1
  rw [split, List.filter_append, List.filter_cons_of_neg (by simp [Flow.entry]),
    ← List.filter_append]
  refine List.filter_eq_self.mpr fun e other => ?_
  have apart : e.1 ≠ t.key := fun same => others (same ▸ List.mem_map_of_mem other)
  simpa using apart

theorem unlisted (r : d.Routed) (member : t ∈ d.tasks) (ended : t.stage = .ended) :
    ({ d with table := d.table.filter (·.1 ≠ t.key) }.update t.serial
      fun u => { u with stage := .removed }).Routed := by
  have itself : t ∈ d.listed := mem_listed.mpr ⟨member, by simp [ended]⟩
  have others : ∀ u ∈ d.listed, u.key ≠ t.key ↔ u.serial ≠ t.serial := fun u other =>
    not_congr ⟨fun same => by rw [r.eq_of_key other itself same],
      fun same => by rw [r.eq_of_serial (mem_listed.mp other).1 member same]⟩
  have entries : d.table.filter (·.1 ≠ t.key) =
      (d.listed.filter (·.serial ≠ t.serial)).map Flow.entry := by
    rw [r.table, List.filter_map]
    exact congrArg _ (List.filter_congr fun u other => decide_eq_decide.mpr (others u other))
  have serials := serials_update d t.serial (f := fun u => { u with stage := .removed })
    fun _ => rfl
  exact {
    table := entries.trans (congrArg _ (listed_removed d t.serial).symm)
    keys := (List.filter_sublist.map _).nodup r.keys
    serials := serials ▸ r.serials
    below := serials ▸ r.below }

theorem dropped (r : d.Routed) (member : t ∈ d.tasks) (removed : t.stage = .removed) :
    Routed { d with tasks := d.tasks.filter (·.serial ≠ t.serial) } where
  table := by
    rw [r.table, listed, listed, List.filter_filter]
    refine congrArg _ (List.filter_congr fun u other => ?_)
    by_cases same : u.serial = t.serial
    · simp [r.eq_of_serial other member same, removed]
    · simp [same]
  keys := r.keys
  serials := (List.filter_sublist.map _).nodup r.serials
  below n other := r.below n ((List.filter_sublist.map _).subset other)

theorem arrival (r : d.Routed) {p : Packet} (arrival : d.Arrival p d') : d'.Routed := by
  cases arrival with
  | refused | overflowed => exact r.congr rfl rfl rfl
  | joined =>
    refine (r.update _ ?_ ?_).congr rfl rfl rfl
    · exact fun _ => rfl
    · exact fun _ _ _ => .rfl
  | began keyed unrouted => exact r.begin p unrouted

/-- A datagram that arrives replaces no entry. -/
theorem table_of_arrival (r : d.Routed) {p : Packet} (arrival : d.Arrival p d') :
    ∃ fresh, d'.table = d.table ++ fresh := by
  cases arrival with
  | refused | overflowed | joined => exact ⟨[], (List.append_nil _).symm⟩
  | began keyed unrouted => exact ⟨_, (r.begin_table p unrouted).2⟩

theorem step (r : d.Routed) (member : t ∈ d.tasks) (step : d.Step t d') : d'.Routed := by
  cases step with
  | turned statistics records turn => exact (r.turn member turn).congr rfl rfl rfl
  | unlisted ended => exact r.unlisted member ended
  | dropped removed => exact r.dropped member removed

end Routed

end Flows

end LocalProxy.Relay
