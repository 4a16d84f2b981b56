import LocalProxy.Proofs.Relay.Moves
import Mathlib.Data.Nat.ModEq

/-! How far a relay has come: what it has sent ahead, what its two copies have delivered, and what
was counted of it through its guard. Each step takes it further. Main statement:
`Link.Progress.step`. -/
namespace LocalProxy.Relay

open Statistics (Act share)

/-- What a relay is to carry: what the client sent ahead, what it will send, and the answer. -/
structure Payload where
  buffered : Bytes
  unread : Bytes
  response : Bytes

namespace Payload

/-- What goes out before both directions are copied. -/
def early (p : Payload) : Direction → Bytes
  | .up => p.buffered
  | .down => []

/-- What is copied. -/
def stream (p : Payload) : Direction → Bytes
  | .up => p.unread
  | .down => p.response

/-- All that one side is to receive. -/
def whole (p : Payload) (way : Direction) : Bytes := p.early way ++ p.stream way

end Payload

namespace Link

/-- Both directions are copied, and what was counted are the octets sent ahead and whole chunks. -/
structure Copies (p : Payload) (r : Link) (counts : Direction → Nat) : Prop where
  replayed : r.replayed = p.buffered
  carries : ∀ way, (r.side way).Carries (p.stream way)
  counts : ∀ way, counts way = (p.early way).length % 2 ^ 64 + (r.side way).total

/-- Nothing was copied yet, and nothing counted. -/
structure Fresh (p : Payload) (r : Link) (counts : Direction → Nat) : Prop where
  sides : ∀ way, r.side way = .start (p.stream way)
  counts : ∀ way, counts way = 0

/-- How far a relay has come. -/
inductive Progress (p : Payload) (r : Link) (counts : Direction → Nat) : Prop
  | replaying {ahead : Bytes} (phase : r.phase = .replaying ahead p.buffered.length)
      (whole : r.replayed ++ ahead = p.buffered) (fresh : r.Fresh p counts)
  | copying (phase : r.phase = .copying) (copies : r.Copies p counts)
  | stopped (phase : r.phase = .ended) (part : r.replayed <+: p.buffered)
      (fresh : r.Fresh p counts)
  | ended (phase : r.phase = .ended) (copies : r.Copies p counts)

variable {p : Payload} {r r' : Link} {counts counts' : Direction → Nat} {m : Move}

theorem out_eq (r : Link) (way : Direction) :
    r.out way = (match way with | .up => r.replayed | .down => []) ++ (r.side way).delivered := by
  cases way <;> rfl

namespace Copies

theorem out_eq (copies : r.Copies p counts) (way : Direction) :
    r.out way = p.early way ++ (r.side way).delivered := by
  rw [Link.out_eq]
  cases way
  · rw [copies.replayed]
    rfl
  · rfl

theorem out_initial (copies : r.Copies p counts) (way : Direction) : r.out way <+: p.whole way := by
  rw [copies.out_eq, Payload.whole]
  exact (List.prefix_append_right_inj _).mpr (copies.carries way).delivered_initial

theorem counts_le (copies : r.Copies p counts) (way : Direction) :
    counts way ≤ (r.out way).length := by
  rw [copies.counts, copies.out_eq, List.length_append]
  exact Nat.add_le_add (Nat.mod_le _ _) (copies.carries way).total_le

theorem of_finished (copies : r.Copies p counts) (way : Direction)
    (finished : (r.side way).status = .finished) :
    r.out way = p.whole way ∧ counts way ≡ (p.whole way).length [MOD 2 ^ 64] := by
  obtain ⟨delivered, counted⟩ := (copies.carries way).of_finished finished
  refine ⟨by rw [copies.out_eq, delivered, Payload.whole], ?_⟩
  rw [copies.counts, counted, Payload.whole, List.length_append]
  exact (Nat.mod_modEq _ _).add_right _

theorem setSide (copies : r.Copies p counts) {way : Direction} {c : Copy}
    (carries : c.Carries (p.stream way))
    (same : ∀ w, counts' w = counts w + if way = w then c.total - (r.side way).total else 0)
    (more : (r.side way).total ≤ c.total) : (r.setSide way c).Copies p counts' where
  replayed := (replayed_setSide r way c).trans copies.replayed
  carries w := by
    rw [side_setSide]
    split
    · rename_i here
      exact here ▸ carries
    · exact copies.carries w
  counts w := by
    rw [same, copies.counts, side_setSide]
    split
    · rename_i here
      subst here
      omega
    · rfl

end Copies

namespace Progress

theorem of_replaying (progress : r.Progress p counts) {ahead : Bytes} {size : Nat}
    (phase : r.phase = .replaying ahead size) :
    size = p.buffered.length ∧ r.replayed ++ ahead = p.buffered ∧ r.Fresh p counts := by
  cases progress with
  | replaying phase' whole fresh =>
    obtain ⟨rfl, rfl⟩ := Phase.replaying.inj (phase'.symm.trans phase)
    exact ⟨rfl, whole, fresh⟩
  | copying phase' | stopped phase' | ended phase' => cases phase'.symm.trans phase

theorem of_copying (progress : r.Progress p counts) (phase : r.phase = .copying) :
    r.Copies p counts := by
  cases progress with
  | copying _ copies => exact copies
  | replaying phase' | stopped phase' | ended phase' => cases phase'.symm.trans phase

theorem out_initial (progress : r.Progress p counts) (way : Direction) :
    r.out way <+: p.whole way := by
  have early : r.replayed <+: p.buffered → r.Fresh p counts → r.out way <+: p.whole way := by
    intro part fresh
    rw [out_eq, fresh.sides, Payload.whole]
    cases way
    · simpa [Copy.start, Payload.early] using part.trans (List.prefix_append _ _)
    · simp [Copy.start]
  cases progress with
  | replaying _ whole fresh => exact early ⟨_, whole⟩ fresh
  | copying _ copies => exact copies.out_initial way
  | stopped _ part fresh => exact early part fresh
  | ended _ copies => exact copies.out_initial way

/-- No octet is counted before it is out. -/
theorem counts_le (progress : r.Progress p counts) (way : Direction) :
    counts way ≤ (r.out way).length := by
  cases progress with
  | replaying _ _ fresh | stopped _ _ fresh =>
    rw [fresh.counts]
    exact Nat.zero_le _
  | copying _ copies | ended _ copies => exact copies.counts_le way

/-- Once both copies have come to their end, everything is out and counted. -/
theorem of_done (progress : r.Progress p counts) (done : r.Done) (way : Direction) :
    r.out way = p.whole way ∧ counts way ≡ (p.whole way).length [MOD 2 ^ 64] := by
  obtain ⟨phase, finished⟩ := done
  cases progress with
  | replaying replaying => simp [replaying] at phase
  | copying _ copies | ended _ copies => exact copies.of_finished way (finished way)
  | stopped _ _ fresh =>
    have running := finished .up
    rw [fresh.sides] at running
    cases running

end Progress

end Link

section Steps

variable {p : Payload} {r r' : Link} {m : Move} {c : Statistics.Course} {id : Uuid}

/-- What one move makes of the counts of a guard, given what it counts. -/
theorem share_act (name : (r.guard, id) ∈ c.statistics.names) (way w : Direction) (size : Nat) :
    share w.counted r.guard (Option.elim
        (if size = 0 then none else some (Act.add way.counted r.guard size.toUInt64)) c c.step).past =
      share w.counted r.guard c.past + if way = w then size % 2 ^ 64 else 0 := by
  split
  · rename_i nothing
    simp [nothing]
  · simp only [Option.elim_some, Statistics.Course.share_add name, Direction.counted_inj]
    exact Nat.add_comm _ _

theorem share_drop (guard : Nat) (w : Direction) :
    share w.counted guard (c.step (.drop guard)).past = share w.counted guard c.past :=
  c.share_step (by simp) _

/-- Each step takes a relay further, and its act counts what it has to. -/
theorem Link.Progress.step (progress : r.Progress p fun w => share w.counted r.guard c.past)
    (step : r.Step m r') (name : (r.guard, id) ∈ c.statistics.names) :
    r'.Progress p fun w => share w.counted r.guard ((m.act? r).elim c c.step).past := by
  cases step with
  | @replay ahead size n phase positive there =>
    obtain ⟨rfl, whole, fresh⟩ := progress.of_replaying phase
    refine .replaying rfl ?_ ⟨fresh.sides, fresh.counts⟩
    rw [List.append_assoc, List.take_append_drop, whole]
  | @replayFails ahead size phase reason =>
    obtain ⟨-, whole, fresh⟩ := progress.of_replaying phase
    refine .stopped rfl ⟨_, whole⟩ ⟨fresh.sides, fun w => ?_⟩
    exact (share_drop r.guard w).trans (fresh.counts w)
  | @copy size phase =>
    obtain ⟨rfl, whole, fresh⟩ := progress.of_replaying phase
    rw [List.append_nil] at whole
    have sides : ∀ w, Link.side { r with phase := .copying } w = .start (p.stream w) :=
      fun w => (by cases w <;> rfl : _ = r.side w).trans (fresh.sides w)
    refine .copying rfl ⟨whole, fun w => sides w ▸ .start _, fun w => ?_⟩
    rw [sides]
    simp only [Move.act?, phase]
    refine (share_act name .up w _).trans ?_
    rw [fresh.counts, Nat.zero_add]
    cases w <;> rfl
  | @read way n c' phase read =>
    have copies := progress.of_copying phase
    refine .copying ((phase_setSide ..).trans phase) (copies.setSide ?_ (fun w => ?_) ?_)
    · exact (copies.carries way).read read
    · simp [Move.act?, Copy.total_read read]
    · exact Nat.le_of_eq (Copy.total_read read).symm
  | @write way n size c' phase write =>
    have copies := progress.of_copying phase
    have small : size % 2 ^ 64 = size :=
      Nat.mod_eq_of_lt (Nat.lt_of_le_of_lt (Copy.size_le (copies.carries way) write) (by decide))
    refine .copying ((phase_setSide ..).trans phase) (copies.setSide ?_ (fun w => ?_) ?_)
    · exact (copies.carries way).write write
    · simp only [Move.act?, write]
      rw [share_act name, small, Copy.total_write write, Nat.add_sub_cancel_left]
    · exact Copy.total_write write ▸ Nat.le_add_right _ _
  | @finish way c' phase finish =>
    have copies := progress.of_copying phase
    refine .copying ((phase_setSide ..).trans phase) (copies.setSide ?_ (fun w => ?_) ?_)
    · exact (copies.carries way).finish finish
    · simp [Move.act?, Copy.total_finish finish]
    · exact Nat.le_of_eq (Copy.total_finish finish).symm
  | @fail way c' phase fail =>
    have copies := progress.of_copying phase
    refine .copying ((phase_setSide ..).trans phase) (copies.setSide ?_ (fun w => ?_) ?_)
    · exact (copies.carries way).fail fail
    · simp [Move.act?, Copy.total_fail fail]
    · exact Nat.le_of_eq (Copy.total_fail fail).symm
  | close phase | settle phase =>
    have copies := progress.of_copying phase
    refine .ended rfl ⟨copies.replayed, copies.carries, fun w => ?_⟩
    exact (share_drop r.guard w).trans (copies.counts w)

end Steps

end LocalProxy.Relay
