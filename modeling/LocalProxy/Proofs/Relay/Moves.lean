import LocalProxy.Proofs.Relay.Copies
import LocalProxy.Proofs.Traffic.Guards
import LocalProxy.Relay.Connection

/-! The moves by which a connection is relayed. Each is a step of the link, and does at most one
thing to the statistics: it counts a chunk that is out, or drops the guard at the end. There are
only so many of them, and one can be made until the relay is over. -/
namespace LocalProxy.Relay

open Statistics (Act share total apart)

/-- The direction as the statistics have it. -/
def Direction.counted : Direction → LocalProxy.Direction
  | up => .up
  | down => .down

theorem Direction.counted_inj {way w : Direction} : way.counted = w.counted ↔ way = w := by
  cases way <;> cases w <;> simp [counted]

theorem count_eq (way : Direction) (s : Statistics) (guard n : Nat) :
    count way s guard n = s.add way.counted guard n.toUInt64 := by
  cases way <;> rfl

namespace Link

/-- How much there is to do until a relay is over. -/
def left (r : Link) : Nat :=
  match r.phase with
  | .replaying ahead _ => ahead.length + 2 + r.up.left + r.down.left
  | .copying => 1 + r.up.left + r.down.left
  | .ended => 0

/-- All that one side has received. -/
def out (r : Link) : Direction → Bytes
  | .up => r.sent
  | .down => r.received

/-- Both copies have come to their end, and have shown it. -/
def Done (r : Link) : Prop :=
  (r.phase = .copying ∨ r.phase = .ended) ∧ ∀ way, (r.side way).status = .finished

theorem side_setSide (r : Link) (way w : Direction) (c : Copy) :
    (r.setSide way c).side w = if way = w then c else r.side w := by
  cases way <;> cases w <;> rfl

@[simp] theorem phase_setSide (r : Link) (way : Direction) (c : Copy) :
    (r.setSide way c).phase = r.phase := by
  cases way <;> rfl

@[simp] theorem guard_setSide (r : Link) (way : Direction) (c : Copy) :
    (r.setSide way c).guard = r.guard := by
  cases way <;> rfl

@[simp] theorem replayed_setSide (r : Link) (way : Direction) (c : Copy) :
    (r.setSide way c).replayed = r.replayed := by
  cases way <;> rfl

/-- What a move makes of a link. -/
inductive Step (r : Link) : Move → Link → Prop
  | replay {ahead : Bytes} {size n : Nat} (phase : r.phase = .replaying ahead size)
      (positive : 0 < n) (there : n ≤ ahead.length) :
      Step r (.replay n)
        { r with phase := .replaying (ahead.drop n) size, replayed := r.replayed ++ ahead.take n }
  | replayFails {ahead : Bytes} {size : Nat} (phase : r.phase = .replaying ahead size)
      (reason : String) : Step r (.replayFails reason) { r with phase := .ended }
  | copy {size : Nat} (phase : r.phase = .replaying [] size) :
      Step r .copy { r with phase := .copying }
  | read {way : Direction} {n : Nat} {c : Copy} (phase : r.phase = .copying)
      (read : (r.side way).read? n = some c) : Step r (.read way n) (r.setSide way c)
  | write {way : Direction} {n size : Nat} {c : Copy} (phase : r.phase = .copying)
      (write : (r.side way).write? n = some (c, size)) : Step r (.write way n) (r.setSide way c)
  | finish {way : Direction} {c : Copy} (phase : r.phase = .copying)
      (finish : (r.side way).finish? = some c) : Step r (.finish way) (r.setSide way c)
  | fail {way : Direction} {c : Copy} (phase : r.phase = .copying)
      (fail : (r.side way).fail? = some c) : Step r (.fail way) (r.setSide way c)
  | close (phase : r.phase = .copying) : Step r .close { r with phase := .ended }
  | settle (phase : r.phase = .copying) (rested : ∀ way, (r.side way).status ≠ .running) :
      Step r .settle { r with phase := .ended }

end Link

/-- What a move does to the statistics: it counts what is out, or drops the guard at the end. -/
def Move.act? (r : Link) : Move → Option Act
  | .copy =>
    match r.phase with
    | .replaying [] size => if size = 0 then none else some (.add .up r.guard size.toUInt64)
    | _ => none
  | .write way n =>
    match (r.side way).write? n with
    | some (_, size) =>
      if size = 0 then none else some (.add way.counted r.guard size.toUInt64)
    | none => none
  | .replayFails _ | .close | .settle => some (.drop r.guard)
  | .replay _ | .read _ _ | .finish _ | .fail _ => none

variable {s s' : State} {m : Move} {r r' : Link}

section Copying

variable {way : Direction} {n : Nat}

theorem move?_read : move? s (.read way n) = some s' ↔ s.relay.phase = .copying ∧
    ∃ c, (s.relay.side way).read? n = some c ∧ s.withSide way c = s' := by
  simp [move?, guard, Option.bind_eq_some_iff]

theorem move?_write : move? s (.write way n) = some s' ↔ s.relay.phase = .copying ∧
    ∃ c size, (s.relay.side way).write? n = some (c, size) ∧
      { s.withSide way c with statistics :=
          if size = 0 then s.statistics else count way s.statistics s.relay.guard size } = s' := by
  simp [move?, guard, Option.bind_eq_some_iff]

theorem move?_finish : move? s (.finish way) = some s' ↔ s.relay.phase = .copying ∧
    ∃ c, (s.relay.side way).finish? = some c ∧ s.withSide way c = s' := by
  simp [move?, guard, Option.bind_eq_some_iff]

theorem move?_fail : move? s (.fail way) = some s' ↔ s.relay.phase = .copying ∧
    ∃ c, (s.relay.side way).fail? = some c ∧ s.withSide way c = s' := by
  simp [move?, guard, Option.bind_eq_some_iff]

end Copying

/-- Every move that is made is a step of the link. -/
theorem move?_step (made : move? s m = some s') : s.relay.Step m s'.relay := by
  cases m with
  | replay n =>
    simp only [move?] at made
    split at made
    · rename_i phase
      split at made
      · rename_i possible
        cases made
        exact .replay phase possible.1 possible.2
      · cases made
    · cases made
  | replayFails reason =>
    simp only [move?] at made
    split at made
    · rename_i phase
      cases made
      exact .replayFails phase reason
    · cases made
  | copy =>
    simp only [move?] at made
    split at made
    · rename_i phase
      cases made
      exact .copy phase
    · cases made
  | read way n =>
    obtain ⟨phase, c, read, rfl⟩ := move?_read.mp made
    exact .read phase read
  | write way n =>
    obtain ⟨phase, c, size, write, rfl⟩ := move?_write.mp made
    exact .write phase write
  | finish way =>
    obtain ⟨phase, c, finish, rfl⟩ := move?_finish.mp made
    exact .finish phase finish
  | fail way =>
    obtain ⟨phase, c, fail, rfl⟩ := move?_fail.mp made
    exact .fail phase fail
  | close =>
    simp only [move?] at made
    split at made
    · rename_i possible
      cases made
      exact .close possible.1
    · cases made
  | settle =>
    simp only [move?] at made
    split at made
    · rename_i possible
      cases made
      refine .settle possible.1 fun way => ?_
      cases way
      · exact possible.2.1
      · exact possible.2.2
    · cases made

/-- A connection is closed only on request. -/
theorem isClosing_of_close (made : move? s .close = some s') :
    s.statistics.isClosing s.relay.guard = true := by
  simp only [move?] at made
  split at made
  · rename_i possible
    exact possible.2
  · cases made

/-- A move does its act and nothing else to the statistics. -/
theorem move?_act {c : Statistics.Course} {id : Uuid} (made : move? s m = some s')
    (same : c.statistics = s.statistics) (name : (s.relay.guard, id) ∈ s.statistics.names) :
    ((m.act? s.relay).elim c c.step).statistics = s'.statistics := by
  have counts : ∀ way size,
      ((if size = 0 then none else some (Act.add way.counted s.relay.guard size.toUInt64)).elim c
          c.step).statistics =
        if size = 0 then s.statistics else count way s.statistics s.relay.guard size := by
    intro way size
    split
    · exact same
    · rw [Option.elim_some, Statistics.Course.step_add (same ▸ name), same, count_eq]
  have drops : (c.step (.drop s.relay.guard)).statistics =
      s.statistics.drop s.relay.guard := by
    rw [Statistics.Course.step_drop, same]
  cases m with
  | replay n =>
    simp only [move?] at made
    split at made
    · split at made <;> cases made
      exact same
    · cases made
  | replayFails reason =>
    simp only [move?] at made
    split at made <;> cases made
    exact drops
  | copy =>
    simp only [move?] at made
    split at made
    · rename_i size phase
      cases made
      simp only [Move.act?, phase]
      exact counts .up size
    · cases made
  | read way n =>
    obtain ⟨-, c', -, rfl⟩ := move?_read.mp made
    exact same
  | write way n =>
    obtain ⟨-, c', size, write, rfl⟩ := move?_write.mp made
    simp only [Move.act?, write]
    exact counts way size
  | finish way =>
    obtain ⟨-, c', -, rfl⟩ := move?_finish.mp made
    exact same
  | fail way =>
    obtain ⟨-, c', -, rfl⟩ := move?_fail.mp made
    exact same
  | close =>
    simp only [move?] at made
    split at made <;> cases made
    exact drops
  | settle =>
    simp only [move?] at made
    split at made <;> cases made
    exact drops

namespace Link

/-- While both directions are copied, a side that has less to do brings the end closer. -/
theorem left_setSide {way : Direction} {c : Copy} (phase : r.phase = .copying)
    (less : c.left < (r.side way).left) : (r.setSide way c).left < r.left := by
  cases way <;>
  · simp only [left, phase_setSide, phase]
    simp only [setSide, side] at less ⊢
    omega

theorem Step.guard (step : r.Step m r') : r'.guard = r.guard := by
  cases step <;> first | rfl | exact guard_setSide ..

theorem Step.going (step : r.Step m r') : r.phase ≠ .ended := by
  cases step <;> simp_all

/-- The guard is dropped just by the step that ends the relay. -/
theorem Step.ended_iff (step : r.Step m r') :
    r'.phase = .ended ↔ m.act? r = some (.drop r.guard) := by
  cases step with
  | replay phase | read phase | finish phase | fail phase => simp [Move.act?, *]
  | copy phase =>
    simp only [Move.act?, phase]
    split <;> simp
  | write phase write =>
    simp only [Move.act?, write, phase_setSide, phase]
    split <;> simp
  | replayFails | close | settle => exact iff_of_true rfl rfl

/-- Every step brings the end closer. -/
theorem Step.left (step : r.Step m r') : r'.left < r.left := by
  cases step with
  | replay phase positive there =>
    simp only [Link.left, phase, List.length_drop]
    omega
  | replayFails phase =>
    simp only [Link.left, phase]
    omega
  | copy phase =>
    simp only [Link.left, phase]
    simp
  | read phase read => exact left_setSide phase (Copy.left_read read)
  | write phase write => exact left_setSide phase (Copy.left_write write)
  | finish phase finish => exact left_setSide phase (Copy.left_finish finish)
  | fail phase fail => exact left_setSide phase (Copy.left_fail fail)
  | close phase | settle phase =>
    simp only [Link.left, phase]
    omega

end Link

/-- The moves of a relay in which nothing fails and nobody asks for an end. -/
def Move.Orderly : Move → Prop
  | .fail _ | .replayFails _ | .close => False
  | .replay _ | .copy | .read _ _ | .write _ _ | .finish _ | .settle => True

theorem possible_of_running (way : Direction) (phase : s.relay.phase = .copying)
    (running : (s.relay.side way).status = .running) :
    ∃ m, m.Orderly ∧ (move? s m).isSome := by
  rcases Copy.possible running with ⟨n, read⟩ | ⟨n, write⟩ | finish
  · obtain ⟨c, read⟩ := Option.isSome_iff_exists.mp read
    exact ⟨.read way n, trivial, Option.isSome_of_mem (move?_read.mpr ⟨phase, c, read, rfl⟩)⟩
  · obtain ⟨⟨c, size⟩, write⟩ := Option.isSome_iff_exists.mp write
    exact ⟨.write way n, trivial,
      Option.isSome_of_mem (move?_write.mpr ⟨phase, c, size, write, rfl⟩)⟩
  · obtain ⟨c, finish⟩ := Option.isSome_iff_exists.mp finish
    exact ⟨.finish way, trivial, Option.isSome_of_mem (move?_finish.mpr ⟨phase, c, finish, rfl⟩)⟩

/-- Until a relay is over, it can go on in an orderly way. -/
theorem possible (s : State) (going : s.relay.phase ≠ .ended) :
    ∃ m, m.Orderly ∧ (move? s m).isSome := by
  cases phase : s.relay.phase with
  | replaying ahead size =>
    cases ahead with
    | nil => exact ⟨.copy, trivial, by simp [move?, phase]⟩
    | cons b rest => exact ⟨.replay 1, trivial, by simp [move?, phase]⟩
  | copying =>
    by_cases up : s.relay.up.status = .running
    · exact possible_of_running .up phase up
    by_cases down : s.relay.down.status = .running
    · exact possible_of_running .down phase down
    · exact ⟨.settle, trivial, by simp [move?, phase, up, down]⟩
  | ended => exact absurd phase going

end LocalProxy.Relay
