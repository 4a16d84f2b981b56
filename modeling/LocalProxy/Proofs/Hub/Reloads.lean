import LocalProxy.Proofs.Hub.Convergence
import Mathlib.Data.List.Induction

/-! Reloads that overlap. Each reads the configuration file at one time and applies what it read
at another, and the file may be rewritten between. What is applied goes back to an older file
just where a reload is overtaken by one that read the file later. -/
namespace LocalProxy

namespace Reloads

variable {σ : Type}

/-- What a reload has read: the configuration, and which version of the file held it. -/
structure Reading where
  task : Nat
  version : Nat
  config : Config

structure State (σ : Type) where
  hub : Hub σ
  file : Except FileFault Bytes
  version : Nat := 0
  seen : List Reading := []
  waiting : List Reading := []
  applied : List Reading := []

inductive Event
  | rewrite (file : Except FileFault Bytes)
  | read (task : Nat)
  | apply (task : Nat)

/-- A task reads while it has nothing to apply, and applies what it read last. A file that is no
configuration leaves it with nothing to apply. -/
def step (d : Outside σ) (s : State σ) : Event → State σ
  | .rewrite file => { s with file := file, version := s.version + 1 }
  | .read task =>
    if s.waiting.any (·.task = task) then s
    else match s.hub.readConfig { d with configFile := fun _ => s.file } with
      | .error _ => s
      | .ok c => { s with
          seen := s.seen ++ [⟨task, s.version, c⟩]
          waiting := s.waiting ++ [⟨task, s.version, c⟩] }
  | .apply task =>
    match s.waiting.find? (·.task = task) with
    | none => s
    | some r => { s with
        hub := s.hub.apply d.toDrivers r.config
        waiting := s.waiting.filter (·.task ≠ task)
        applied := s.applied ++ [r] }

def run (d : Outside σ) (s : State σ) (events : List Event) : State σ := events.foldl (step d) s

/-- While a reading is applied, an older one waits that is applied after it. -/
def Overtaken (d : Outside σ) (s : State σ) (events : List Event) : Prop :=
  ∃ before between after, ∃ newer ∈ (run d s before).waiting, ∃ older ∈ (run d s before).waiting,
    older.version < newer.version ∧ .apply older.task ∉ between ∧
    events = before ++ .apply newer.task :: between ++ .apply older.task :: after

variable {d : Outside σ} {s : State σ}

@[simp] theorem run_append (first second : List Event) :
    run d s (first ++ second) = run d (run d s first) second := List.foldl_append

@[simp] theorem run_cons (e : Event) (rest : List Event) :
    run d s (e :: rest) = run d (step d s e) rest := rfl

theorem run_concat (events : List Event) (e : Event) :
    run d s (events ++ [e]) = step d (run d s events) e := by
  simp [run]

/-- A reload that nothing comes between is its reading, then its applying. -/
theorem run_reload {task : Nat} (idle : s.waiting = []) :
    (run d s [.read task, .apply task]).hub =
      (s.hub.reload { d with configFile := fun _ => s.file }).2 := by
  cases read : s.hub.readConfig { d with configFile := fun _ => s.file } with
  | error fault => simp [run, step, idle, read, Hub.reload]
  | ok c => simp [run, step, idle, read, Hub.reload]

/-- What a step can do: nothing to the readings, add one, or apply one that waits. -/
inductive Step (d : Outside σ) (s : State σ) : Event → State σ → Prop
  | quiet {e : Event} {file : Except FileFault Bytes} {version : Nat} (later : s.version ≤ version)
      (idle : ∀ r ∈ s.waiting, e ≠ .apply r.task) :
      Step d s e { s with file := file, version := version }
  | read {task : Nat} {c : Config} (idle : ∀ r ∈ s.waiting, r.task ≠ task) :
      Step d s (.read task) { s with
        seen := s.seen ++ [⟨task, s.version, c⟩]
        waiting := s.waiting ++ [⟨task, s.version, c⟩] }
  | apply {r : Reading} (waits : r ∈ s.waiting) :
      Step d s (.apply r.task) { s with
        hub := s.hub.apply d.toDrivers r.config
        waiting := s.waiting.filter (·.task ≠ r.task)
        applied := s.applied ++ [r] }

theorem step_spec (d : Outside σ) (s : State σ) (e : Event) : Step d s e (step d s e) := by
  cases e with
  | rewrite file => exact .quiet (Nat.le_succ _) fun _ _ => by simp
  | read task =>
    simp only [step]
    split
    · exact .quiet (Nat.le_refl _) fun _ _ => by simp
    · rename_i idle
      split
      · exact .quiet (Nat.le_refl _) fun _ _ => by simp
      · exact .read (by simpa using idle)
  | apply task =>
    simp only [step]
    split
    · rename_i idle
      refine .quiet (Nat.le_refl _) fun r waits same => ?_
      obtain rfl := Event.apply.inj same
      simpa using List.find?_eq_none.mp idle r waits
    · rename_i r found
      have same : r.task = task := by simpa using List.find?_some found
      exact same ▸ .apply (List.mem_of_find?_eq_some found)

/-- Tasks wait with one reading each, and every reading waits or was applied. -/
structure Orderly (d : Outside σ) (s : State σ) : Prop where
  once : (s.waiting.map Reading.task).Nodup
  bounded : ∀ r ∈ s.seen, r.version ≤ s.version
  accounted : ∀ r, r ∈ s.seen ↔ r ∈ s.waiting ∨ r ∈ s.applied
  running : ∀ r, s.applied.getLast? = some r → ∃ before : Hub σ,
    s.hub = before.apply d.toDrivers r.config

namespace Orderly

theorem fresh (hub : Hub σ) (file : Except FileFault Bytes) :
    Orderly d { hub := hub, file := file } :=
  ⟨List.nodup_nil, by simp, by simp, by simp⟩

theorem step {e : Event} {s' : State σ} (orderly : Orderly d s) (step : Step d s e s') :
    Orderly d s' := by
  cases step with
  | quiet later _ =>
    exact ⟨orderly.once, fun r seen => Nat.le_trans (orderly.bounded r seen) later,
      orderly.accounted, orderly.running⟩
  | @read task c idle =>
    refine ⟨?_, ?_, ?_, orderly.running⟩
    · rw [List.map_append, List.nodup_append]
      refine ⟨orderly.once, List.nodup_singleton _, ?_⟩
      intro other waits new fresh
      obtain ⟨r, member, rfl⟩ := List.mem_map.mp waits
      rw [List.mem_singleton.mp fresh]
      exact idle r member
    · intro r seen
      rcases List.mem_append.mp seen with old | new
      · exact orderly.bounded r old
      · obtain rfl := List.mem_singleton.mp new
        exact Nat.le_refl _
    · intro r
      simp only [List.mem_append, orderly.accounted]
      exact or_right_comm
  | @apply r waits =>
    refine ⟨orderly.once.sublist (List.filter_sublist.map _), orderly.bounded, ?_, ?_⟩
    · intro other
      have only : other ∈ s.waiting → other.task = r.task → other = r := fun member same =>
        List.inj_on_of_nodup_map orderly.once member waits same
      simp only [orderly.accounted, List.mem_filter, decide_eq_true_eq, List.mem_append,
        List.mem_singleton]
      constructor
      · rintro (member | done)
        · by_cases same : other.task = r.task
          · exact .inr (.inr (only member same))
          · exact .inl ⟨member, same⟩
        · exact .inr (.inl done)
      · rintro (⟨member, _⟩ | done | rfl)
        · exact .inl member
        · exact .inr done
        · exact .inl waits
    · intro last same
      rw [List.getLast?_concat] at same
      exact Option.some.inj same ▸ ⟨s.hub, rfl⟩

theorem run (orderly : Orderly d s) (events : List Event) : Orderly d (run d s events) := by
  induction events generalizing s with
  | nil => exact orderly
  | cons e rest ih => exact ih (orderly.step (step_spec d s e))

/-- A task that waits applies its own reading. -/
theorem apply_waiting (orderly : Orderly d s) {r : Reading} (waits : r ∈ s.waiting) :
    (Reloads.step d s (.apply r.task)).applied = s.applied ++ [r] := by
  have found : s.waiting.find? (·.task = r.task) = some r := by
    cases found : s.waiting.find? (·.task = r.task) with
    | none => simpa using List.find?_eq_none.mp found r waits
    | some other =>
      have same : other.task = r.task := by simpa using List.find?_some found
      rw [List.inj_on_of_nodup_map orderly.once (List.mem_of_find?_eq_some found) waits same]
  simp only [Reloads.step, found]

end Orderly

theorem Step.version_le {e : Event} {s' : State σ} (step : Step d s e s') :
    s.version ≤ s'.version := by
  cases step with
  | quiet later _ => exact later
  | read | apply => exact Nat.le_refl _

/-- A reading that waits in the end waited from the start, or is of a version not older than the
first. -/
theorem waiting_or_newer (rest : List Event) {r : Reading} (waits : r ∈ (run d s rest).waiting) :
    r ∈ s.waiting ∧ .apply r.task ∉ rest ∨ s.version ≤ r.version := by
  induction rest generalizing s with
  | nil => exact .inl ⟨waits, List.not_mem_nil⟩
  | cons e rest ih =>
    have step := step_spec d s e
    rcases ih waits with ⟨member, never⟩ | newer
    · generalize Reloads.step d s e = s' at step member
      cases step with
      | quiet _ idle =>
        refine .inl ⟨member, ?_⟩
        rintro (_ | ⟨_, later⟩)
        · exact idle r member rfl
        · exact never later
      | read idle =>
        rcases List.mem_append.mp member with old | new
        · exact .inl ⟨old, by simpa using never⟩
        · obtain rfl := List.mem_singleton.mp new
          exact .inr (Nat.le_refl _)
      | @apply done _ =>
        obtain ⟨old, differs⟩ := List.mem_filter.mp member
        exact .inl ⟨old, by simpa [never] using differs⟩
    · exact .inr (Nat.le_trans step.version_le newer)

theorem still_waiting (rest : List Event) {r : Reading} (waits : r ∈ s.waiting)
    (never : .apply r.task ∉ rest) : r ∈ (run d s rest).waiting := by
  induction rest generalizing s with
  | nil => exact waits
  | cons e rest ih =>
    obtain ⟨differs, never⟩ := not_or.mp (mt List.mem_cons.mpr never)
    refine ih ?_ never
    have step := step_spec d s e
    generalize Reloads.step d s e = s' at step
    cases step with
    | quiet _ _ => exact waits
    | read _ => exact List.mem_append_left _ waits
    | apply _ => exact List.mem_filter.mpr ⟨waits, by simpa using differs⟩

theorem applied_grows (rest : List Event) : s.applied <+: (run d s rest).applied := by
  induction rest generalizing s with
  | nil => exact List.prefix_refl _
  | cons e rest ih =>
    refine List.IsPrefix.trans ?_ ih
    have step := step_spec d s e
    generalize Reloads.step d s e = s' at step
    cases step with
    | quiet | read => exact List.prefix_refl _
    | apply => exact List.prefix_append _ _

/-- What was applied waited until then. -/
theorem applied_split (events : List Event) {r : Reading} (done : r ∈ (run d s events).applied) :
    r ∈ s.applied ∨ ∃ before rest, events = before ++ .apply r.task :: rest ∧
      r ∈ (run d s before).waiting := by
  induction events generalizing s with
  | nil => exact .inl done
  | cons e rest ih =>
    have step := step_spec d s e
    rcases ih done with member | ⟨before, after, rfl, waits⟩
    · generalize Reloads.step d s e = s' at step member
      cases step with
      | quiet | read => exact .inl member
      | apply waits =>
        rcases List.mem_append.mp member with old | new
        · exact .inl old
        · rw [List.mem_singleton.mp new]
          exact .inr ⟨[], rest, rfl, waits⟩
    · exact .inr ⟨e :: before, after, rfl, waits⟩

/-- A reading that overtakes is applied before the one that it overtakes. -/
theorem not_sorted (orderly : Orderly d s) {events : List Event}
    (overtaken : Overtaken d s events) :
    ¬ (run d s events).applied.Pairwise (fun a b => a.version ≤ b.version) := by
  obtain ⟨before, between, after, newer, waits, older, waits', less, never, rfl⟩ := overtaken
  have differs : Event.apply older.task ≠ .apply newer.task := by
    intro same
    have tasks := Event.apply.inj same
    rw [List.inj_on_of_nodup_map (orderly.run before).once waits' waits tasks] at less
    exact Nat.lt_irrefl _ less
  have first := (orderly.run before).apply_waiting waits
  have waits_on : older ∈ (run d s (before ++ .apply newer.task :: between)).waiting := by
    rw [run_append]
    exact still_waiting _ waits' (by simp [differs, never])
  have last := (orderly.run _).apply_waiting waits_on
  obtain ⟨done, grown⟩ : (run d s before).applied ++ [newer] <+:
      (run d s (before ++ .apply newer.task :: between)).applied := by
    rw [run_append, run_cons, ← first]
    exact applied_grows between
  obtain ⟨rest, all⟩ : (run d s (before ++ .apply newer.task :: between)).applied ++ [older] <+:
      (run d s (before ++ .apply newer.task :: between ++ .apply older.task :: after)).applied := by
    rw [run_append (before ++ _), run_cons, ← last]
    exact applied_grows after
  intro sorted
  rw [← all, ← grown] at sorted
  have ordered := (List.pairwise_append.mp (List.pairwise_append.mp sorted).1).2.2
  exact Nat.not_le_of_lt less (ordered newer (by simp) older (by simp))

/-- Where no reading is overtaken, none is applied after a newer one. -/
theorem sorted_of_not_overtaken (orderly : Orderly d s) (none_yet : s.applied = [])
    {events : List Event} (fair : ¬ Overtaken d s events) :
    (run d s events).applied.Pairwise (fun a b => a.version ≤ b.version) := by
  induction events using List.reverseRecOn with
  | nil => simp [run, none_yet]
  | append_singleton events e ih =>
    have earlier : ¬ Overtaken d s events := by
      rintro ⟨before, between, after, newer, waits, older, waits', less, never, rfl⟩
      exact fair ⟨before, between, after ++ [e], newer, waits, older, waits', less, never,
        by simp⟩
    have sorted := ih earlier
    rw [run_concat]
    have step := step_spec d (run d s events) e
    generalize Reloads.step d (run d s events) e = s' at step
    cases step with
    | quiet | read => exact sorted
    | @apply older waits' =>
      refine List.pairwise_append.mpr ⟨sorted, List.pairwise_singleton _ _, ?_⟩
      intro newer done same here
      rw [List.mem_singleton.mp here]
      by_contra less
      have less := Nat.lt_of_not_le less
      rcases applied_split events done with never | ⟨before, between, rfl, waits⟩
      · simp [none_yet] at never
      rw [run_append] at waits'
      rcases waiting_or_newer _ waits' with ⟨early, unapplied⟩ | late
      · refine fair ⟨before, between, [], newer, waits, older, early, less, ?_, rfl⟩
        exact mt (List.mem_cons_of_mem _) unapplied
      · have known := ((orderly.run before).accounted newer).mpr (.inl waits)
        have bounded := (orderly.run before).bounded newer known
        exact Nat.lt_irrefl _ (Nat.lt_of_lt_of_le less (Nat.le_trans bounded late))

/-- The versions that overlapping reloads apply never go back just if none is overtaken; and then
the hub is in the end as applying the newest version that any of them read has left it. -/
theorem applied_in_order_iff (d : Outside σ) (hub : Hub σ) (file : Except FileFault Bytes)
    (events : List Event) :
    ((run d { hub := hub, file := file } events).applied.Pairwise
        (fun a b => a.version ≤ b.version) ↔ ¬ Overtaken d { hub := hub, file := file } events) ∧
    (¬ Overtaken d { hub := hub, file := file } events →
      (run d { hub := hub, file := file } events).waiting = [] →
      ∀ last, (run d { hub := hub, file := file } events).applied.getLast? = some last →
        (∃ before : Hub σ, (run d { hub := hub, file := file } events).hub =
          before.apply d.toDrivers last.config) ∧
        ∀ r ∈ (run d { hub := hub, file := file } events).seen, r.version ≤ last.version) := by
  have orderly := Orderly.fresh (d := d) hub file
  refine ⟨⟨fun sorted overtaken => not_sorted orderly overtaken sorted,
    sorted_of_not_overtaken orderly rfl⟩, ?_⟩
  intro fair returned last final
  have settled := orderly.run events
  refine ⟨settled.running last final, fun r seen => ?_⟩
  have done : r ∈ (run d { hub := hub, file := file } events).applied := by
    simpa [returned] using (settled.accounted r).mp seen
  have sorted := sorted_of_not_overtaken orderly rfl fair
  obtain ⟨earlier, split⟩ := List.getLast?_eq_some_iff.mp final
  rw [split] at done sorted
  rcases List.mem_append.mp done with old | new
  · exact (List.pairwise_append.mp sorted).2.2 r old last (by simp)
  · exact Nat.le_of_eq (by rw [List.mem_singleton.mp new])

/-- Of two reloads the second reads a newer file and applies it first. The versions go back, and
the older port is what remains. -/
theorem overtaken_reload_goes_back :
    let s := run obliging
      { hub := Hub.create () "config.yaml" {} 1, file := .ok (Text.utf8 "port: 1\n") }
      [.read 1, .rewrite (.ok (Text.utf8 "port: 2\n")), .read 2, .apply 2, .apply 1]
    s.applied.map (·.version) = [1, 0] ∧
      ¬ s.applied.Pairwise (fun a b => a.version ≤ b.version) ∧
      s.waiting.length = 0 ∧ s.hub.general.ports.http = 1 := by
  decide +kernel

end Reloads

end LocalProxy
