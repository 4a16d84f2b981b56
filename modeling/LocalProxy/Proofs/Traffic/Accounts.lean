import LocalProxy.Proofs.Traffic.Deeds

/-! No byte is lost and none is counted twice. The total is what was ever counted, each byte is in
exactly one sample or still pending, and a connection has carried what was counted through its own
guard, all modulo 2^64. Main statement: `run_balanced`. -/
namespace LocalProxy

open Statistics

theorem toInt64_eq_ofNat (n : UInt64) : n.toInt64 = Int64.ofNat n.toNat := by
  rw [← UInt64.toInt64_ofNat', UInt64.ofNat_toNat]

/-- What a counter has to hold, given what was done. -/
structure Counter.Accounts (k : Counter) (way : Direction) (past : List Deed) : Prop where
  total : k.total = Int64.ofNat (Statistics.total way past)
  pending : k.pending = Int64.ofNat (Statistics.total way (unsampled past))
  latest : k.latest = ((samples past).head?.map (·.rate way)).getD 0
  /-- Each sample has the bytes since the one before it. -/
  sampled : ∀ later sample earlier, past = later ++ .ticked sample :: earlier →
    sample.rate way = Int64.ofNat (Statistics.total way (unsampled earlier))
  balance : ((samples past).map (·.rate way)).sum + k.pending = k.total

namespace Counter.Accounts

variable {k : Counter} {way : Direction} {past : List Deed}

theorem zero : Counter.zero.Accounts way [] where
  total := rfl
  pending := rfl
  latest := rfl
  sampled later sample earlier split := by simp at split
  balance := rfl

/-- The latest deed is no sample, or the one that is looked for. -/
theorem sampled_cons (a : k.Accounts way past) {x : Deed}
    (latest : ∀ sample, x = .ticked sample →
      sample.rate way = Int64.ofNat (Statistics.total way (unsampled past))) :
    ∀ later sample earlier, x :: past = later ++ .ticked sample :: earlier →
      sample.rate way = Int64.ofNat (Statistics.total way (unsampled earlier)) := by
  intro later sample earlier split
  cases later with
  | nil =>
    obtain ⟨rfl, rfl⟩ := List.cons.inj split
    exact latest sample rfl
  | cons y later => exact a.sampled later sample earlier (List.cons.inj split).2

/-- A deed that counts nothing in this direction leaves its counter as it is. -/
theorem idle (a : k.Accounts way past) {x : Deed} (nothing : x.amount way = 0)
    (unticked : x.sample? = none) : k.Accounts way (x :: past) where
  total := by rw [total_cons, nothing, Nat.zero_add, a.total]
  pending := by rw [unsampled_cons unticked, total_cons, nothing, Nat.zero_add, a.pending]
  latest := by rw [samples_cons unticked, a.latest]
  sampled := a.sampled_cons fun sample same => by simp [same, Deed.sample?] at unticked
  balance := by rw [samples_cons unticked, a.balance]

theorem add (a : k.Accounts way past) (guard : Nat) (n : UInt64) :
    (k.add n).Accounts way (.added way guard n :: past) where
  total := by
    rw [total_cons, Deed.amount, if_pos rfl, Nat.add_comm, Int64.ofNat_add, ← a.total,
      ← toInt64_eq_ofNat]
    rfl
  pending := by
    rw [unsampled_cons rfl, total_cons, Deed.amount, if_pos rfl, Nat.add_comm, Int64.ofNat_add,
      ← a.pending, ← toInt64_eq_ofNat]
    rfl
  latest := by rw [samples_cons rfl, ← a.latest]; rfl
  sampled := a.sampled_cons nofun
  balance := by
    have sum := a.balance
    rw [samples_cons rfl]
    calc ((samples past).map (·.rate way)).sum + (k.pending + n.toInt64)
        = ((samples past).map (·.rate way)).sum + k.pending + n.toInt64 :=
          (Int64.add_assoc _ _ _).symm
      _ = k.total + n.toInt64 := by rw [sum]

/-- At a tick the pending bytes become the sample. -/
theorem roll (a : k.Accounts way past) {sample : Sample} (rolled : sample.rate way = k.pending) :
    k.roll.Accounts way (.ticked sample :: past) where
  total := a.total.trans (congrArg Int64.ofNat (Nat.zero_add _).symm)
  pending := rfl
  latest := rolled.symm
  sampled := a.sampled_cons fun s same => by
    cases same
    rw [rolled, a.pending]
  balance := by
    rw [samples_ticked, List.map_cons, List.sum_cons, rolled]
    calc k.pending + ((samples past).map (·.rate way)).sum + 0
        = ((samples past).map (·.rate way)).sum + k.pending := by
          rw [Int64.add_zero, Int64.add_comm]
      _ = k.total := a.balance

end Counter.Accounts

namespace Statistics

variable {s s' : Statistics} {past : List Deed}

/-- The guards are numbered as they are given, and each is held at most once. -/
structure Numbered (s : Statistics) (past : List Deed) : Prop where
  given : guards past = (List.range s.nextGuard).reverse
  held : (s.held.map (·.guard)).Nodup
  below : ∀ guard ∈ s.held.map (·.guard), guard < s.nextGuard
  used : ∀ x ∈ past, ∀ guard, x.through guard → guard < s.nextGuard

namespace Numbered

theorem empty : Numbered .empty [] where
  given := rfl
  held := .nil
  below := by simp [Statistics.empty]
  used := by simp

theorem track (n : Numbered s past) (id : Uuid) (metadata : Metadata) (chains : List String)
    (rule start : String) :
    Numbered (s.track id metadata chains rule start).2 (.tracked s.nextGuard id :: past) where
  given := by
    rw [Statistics.track, List.range_succ, List.reverse_append, ← n.given]
    rfl
  held := by
    rw [Statistics.track, List.map_append, List.map_singleton, ← List.concat_eq_append]
    exact n.held.concat fun member => Nat.lt_irrefl _ (n.below s.nextGuard member)
  below guard held := by
    rw [Statistics.track, List.map_append, List.mem_append] at held
    rcases held with held | new
    · exact Nat.lt_succ_of_lt (n.below guard held)
    · exact List.mem_singleton.mp new ▸ Nat.lt_succ_self _
  used x member guard through := by
    rcases List.mem_cons.mp member with rfl | member
    · cases through
    · exact Nat.lt_succ_of_lt (n.used x member guard through)

/-- A deed that gives no guard, and that uses none but a held one. -/
theorem keep (n : Numbered s past) {x : Deed} (ungiven : x.guard? = none)
    (used : ∀ guard, x.through guard → guard ∈ s.held.map (·.guard))
    (guards : (s'.held.map (·.guard)).Sublist (s.held.map (·.guard)))
    (next : s'.nextGuard = s.nextGuard) : Numbered s' (x :: past) where
  given := by
    rw [next, ← n.given]
    simp [Statistics.guards, ungiven]
  held := guards.nodup n.held
  below guard held := next ▸ n.below guard (guards.subset held)
  used y member guard through := by
    rw [next]
    rcases List.mem_cons.mp member with rfl | member
    · exact n.below guard (used guard through)
    · exact n.used y member guard through

end Numbered

/-- The books of statistics, given what was done to them. -/
structure Balanced (s : Statistics) (past : List Deed) : Prop where
  numbered : Numbered s past
  counters : ∀ way, (s.counter way).Accounts way past
  held : ∀ t ∈ s.held, ∀ way, t.carried way = UInt64.ofNat (share way t.guard past)

namespace Balanced

theorem empty : Balanced .empty [] where
  numbered := .empty
  counters way := by cases way <;> exact .zero
  held := by simp [Statistics.empty]

/-- A new connection has carried nothing, as its guard was not used before. -/
theorem track (b : Balanced s past) (id : Uuid) (metadata : Metadata) (chains : List String)
    (rule start : String) :
    Balanced (s.track id metadata chains rule start).2 (.tracked s.nextGuard id :: past) where
  numbered := b.numbered.track id metadata chains rule start
  counters way := by
    have same : (s.track id metadata chains rule start).2.counter way = s.counter way := by
      cases way <;> rfl
    rw [same]
    exact (b.counters way).idle rfl rfl
  held t held way := by
    have unused : ∀ x ∈ past, x.through s.nextGuard = false := fun x member =>
      Bool.eq_false_iff.mpr fun through =>
        absurd (b.numbered.used x member _ through) (Nat.lt_irrefl _)
    rw [share_cons, if_neg (by simp [Deed.through]), Nat.zero_add]
    rcases List.mem_append.mp held with held | new
    · exact b.held t held way
    · rw [List.mem_singleton.mp new, share_unused unused]
      cases way <;> rfl

/-- A deed by which no counter changes. -/
theorem keep (b : Balanced s past) {x : Deed} (ungiven : x.guard? = none)
    (unused : ∀ guard, x.through guard = false) (nothing : ∀ way, x.amount way = 0)
    (unticked : x.sample? = none) (keeps : Keeps s s') : Balanced s' (x :: past) where
  numbered := b.numbered.keep ungiven (fun g through => by simp [unused] at through) keeps.guards
    keeps.next
  counters way := by
    rw [keeps.counter]
    exact (b.counters way).idle (nothing way) unticked
  held t' held way := by
    obtain ⟨t, held, guard, carried⟩ := keeps.carried t' held
    rw [share_cons, unused, if_neg Bool.false_ne_true, Nat.zero_add, ← guard, ← carried]
    exact b.held t held way

theorem add (b : Balanced s past) (way : Direction) {guard : Nat} (n : UInt64)
    (holds : s.tracker? guard ≠ none) :
    Balanced (s.add way guard n) (.added way guard n :: past) where
  numbered := by
    have same : (s.add way guard n).held.map (·.guard) = s.held.map (·.guard) := by
      rw [held_add]
      exact guards_update s guard fun t => t.guard_carry n way
    refine b.numbered.keep rfl (fun g through => ?_) (same ▸ .refl _) (by cases way <;> rfl)
    obtain ⟨t, found⟩ := Option.ne_none_iff_exists'.mp holds
    have its : t.guard = guard := by simpa using List.find?_some found
    rw [← beq_iff_eq.mp through, ← its]
    exact List.mem_map_of_mem (List.mem_of_find?_eq_some found)
  counters w := by
    by_cases same : way = w
    · subst same
      have added : (s.add way guard n).counter way = (s.counter way).add n := by
        cases way <;> rfl
      rw [added]
      exact (b.counters way).add guard n
    · have kept : (s.add way guard n).counter w = s.counter w := by
        cases way <;> cases w <;> first | rfl | exact absurd rfl same
      rw [kept]
      exact (b.counters w).idle (if_neg same) rfl
  held t' held w := by
    rw [held_add] at held
    obtain ⟨t, before, rfl⟩ := List.mem_map.mp held
    have carried := b.held t before w
    rw [share_cons]
    by_cases own : t.guard = guard
    · have through : (Deed.added way guard n).through guard = true := beq_self_eq_true guard
      rw [if_pos own, Tracker.carried_carry, Tracker.guard_carry, carried, own, through, if_pos rfl,
        Nat.add_comm, UInt64.ofNat_add, Deed.amount]
      split
      · rw [UInt64.ofNat_toNat]
      · rfl
    · simpa [own, Ne.symm own, Deed.through] using carried

theorem tick (b : Balanced s past) : Balanced s.tick (.ticked s.tick.now :: past) where
  numbered := b.numbered.keep rfl nofun (.refl _) rfl
  counters way := by
    have rolled : s.tick.counter way = (s.counter way).roll := by cases way <;> rfl
    rw [rolled]
    exact (b.counters way).roll (by cases way <;> rfl)
  held := b.held

/-- Each act keeps the books balanced. -/
theorem act (b : Balanced s past) {act : Act} {x : Deed} (done : s.act? act = some (x, s')) :
    Balanced s' (x :: past) := by
  cases act with
  | track id metadata chains rule start =>
    cases done
    exact b.track id metadata chains rule start
  | add way guard n =>
    simp only [act?, Option.ite_none_left_eq_some, Option.isNone_iff_eq_none] at done
    obtain ⟨holds, ⟨⟩⟩ := done
    exact b.add way n holds
  | drop guard =>
    simp only [act?, Option.ite_none_left_eq_some] at done
    obtain ⟨-, ⟨⟩⟩ := done
    exact b.keep rfl (fun _ => rfl) (fun _ => rfl) rfl (keeps_drop s guard)
  | close id =>
    cases done
    exact b.keep rfl (fun _ => rfl) (fun _ => rfl) rfl (keeps_close s id)
  | closeAll =>
    cases done
    exact b.keep rfl (fun _ => rfl) (fun _ => rfl) rfl (keeps_closeAll s)
  | look =>
    cases done
    exact b.keep rfl (fun _ => rfl) (fun _ => rfl) rfl (.refl s)
  | tick =>
    cases done
    exact b.tick

theorem now (b : Balanced s past) : s.now = (samples past).head?.getD ⟨0, 0⟩ := by
  have up := (b.counters .up).latest
  have down := (b.counters .down).latest
  cases latest : (samples past).head? with
  | none =>
    rw [latest] at up down
    exact congrArg₂ Sample.mk up down
  | some sample =>
    rw [latest] at up down
    exact congrArg₂ Sample.mk up down

end Balanced

theorem Course.step_balanced {c : Course} (b : Balanced c.statistics c.past) (act : Act) :
    Balanced (c.step act).statistics (c.step act).past := by
  unfold step
  cases done : c.statistics.act? act with
  | none => exact b
  | some outcome => exact b.act done

theorem Course.balanced_of_run {c : Course} (b : Balanced c.statistics c.past) (acts : List Act) :
    Balanced (c.run acts).statistics (c.run acts).past := by
  induction acts generalizing c with
  | nil => exact b
  | cons act acts ih => exact ih (step_balanced b act)

theorem Course.step_drop (c : Course) (guard : Nat) :
    (c.step (.drop guard)).statistics = c.statistics.drop guard := by
  cases holds : c.statistics.tracker? guard <;> simp [step, act?, drop, holds]

theorem connections_subset (s : Statistics) : s.connections ⊆ s.held := fun t member => by
  obtain ⟨e, -, found⟩ := List.mem_filterMap.mp member
  exact List.mem_of_find?_eq_some found

/-- Whatever is done, the books balance: the counters hold what was counted, the rate is that of
the last sample, and a listed connection has carried its own share. Dropping a guard, closing
connections and looking at them change no counter, and a tick publishes its sample. -/
theorem run_balanced (acts : List Act) :
    let c := Course.run {} acts
    Balanced c.statistics c.past ∧
      c.statistics.now = (samples c.past).head?.getD ⟨0, 0⟩ ∧
      (∀ t ∈ c.statistics.connections, ∀ way,
        t.carried way = UInt64.ofNat (share way t.guard c.past)) ∧
      (∀ guard, Keeps c.statistics (c.step (.drop guard)).statistics) ∧
      (∀ id, Keeps c.statistics (c.step (.close id)).statistics) ∧
      Keeps c.statistics (c.step .closeAll).statistics ∧
      (c.step .look).statistics = c.statistics ∧
      (c.step .tick).statistics.traffic =
        (c.statistics.traffic.publish (c.step .tick).statistics.now).2 := by
  intro c
  have b : Balanced c.statistics c.past := Course.balanced_of_run (c := {}) .empty acts
  refine ⟨b, b.now, fun t listed => b.held t (connections_subset _ listed), fun guard => ?_,
    fun id => keeps_close _ id, keeps_closeAll _, rfl, rfl⟩
  rw [Course.step_drop]
  exact keeps_drop _ guard

end Statistics

end LocalProxy
