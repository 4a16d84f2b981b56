import LocalProxy.Relay.Copy
import Mathlib.Tactic.Common

/-! One direction of a relayed connection. However its bytes are cut into chunks and writes, they
come out whole and in order, and what is counted are the chunks that are out. -/
namespace LocalProxy.Relay.Copy

/-- How much of the chunk that is held counts as soon as all of it is out. -/
def uncounted (c : Copy) : Nat := if c.held = [] then 0 else c.chunk

/-- What was delivered, is held and is yet to be read makes up what was to be carried. -/
structure Carries (all : Bytes) (c : Copy) : Prop where
  whole : c.delivered ++ c.held ++ c.source = all
  counted : c.total + c.uncounted = c.delivered.length + c.held.length
  held : c.held.length ≤ c.chunk
  chunk : c.chunk ≤ maxChunk
  finished : c.status = .finished → c.held = [] ∧ c.source = []

/-- How much there is to do until a copy is over. An octet is read, and then written. -/
def left (c : Copy) : Nat :=
  if c.status = .running then 2 * c.source.length + c.held.length + 1 else 0

variable {all : Bytes} {c c' : Copy} {n size : Nat}

theorem Carries.start (all : Bytes) : (Copy.start all).Carries all where
  whole := by simp [Copy.start]
  counted := by simp [Copy.start, uncounted]
  held := Nat.le_refl 0
  chunk := Nat.zero_le _
  finished := nofun

theorem read?_eq (read : c.read? n = some c') :
    (c.status = .running ∧ c.held = [] ∧ 0 < n ∧ n ≤ maxChunk ∧ n ≤ c.source.length) ∧
      c' = { c with source := c.source.drop n, held := c.source.take n, chunk := n } := by
  unfold read? at read
  split at read
  · rename_i possible
    obtain ⟨running, empty, positive, small⟩ := possible
    obtain ⟨most, there⟩ := Nat.le_min.mp small
    exact ⟨⟨running, empty, positive, most, there⟩, (Option.some.inj read).symm⟩
  · cases read

theorem write?_eq (write : c.write? n = some (c', size)) :
    (c.status = .running ∧ 0 < n ∧ n ≤ c.held.length) ∧
      c' = { c with
        held := c.held.drop n
        delivered := c.delivered ++ c.held.take n
        total := c.total + size } ∧
      size = if c.held.drop n = [] then c.chunk else 0 := by
  unfold write? at write
  split at write
  · rename_i possible
    refine ⟨possible, ?_⟩
    dsimp only at write
    split at write
    · rename_i out
      obtain ⟨rfl, rfl⟩ := Prod.mk.inj (Option.some.inj write)
      exact ⟨rfl, (if_pos out).symm⟩
    · rename_i more
      obtain ⟨rfl, rfl⟩ := Prod.mk.inj (Option.some.inj write)
      exact ⟨rfl, (if_neg more).symm⟩
  · cases write

theorem finish?_eq (finish : c.finish? = some c') :
    (c.status = .running ∧ c.held = [] ∧ c.source = []) ∧ c' = { c with status := .finished } := by
  unfold finish? at finish
  split at finish
  · rename_i possible
    exact ⟨possible, (Option.some.inj finish).symm⟩
  · cases finish

theorem fail?_eq (fail : c.fail? = some c') :
    c.status = .running ∧ c' = { c with status := .failed } := by
  unfold fail? at fail
  split at fail
  · rename_i possible
    exact ⟨possible, (Option.some.inj fail).symm⟩
  · cases fail

namespace Carries

theorem read (carries : c.Carries all) (read : c.read? n = some c') : c'.Carries all := by
  obtain ⟨⟨running, empty, positive, most, there⟩, rfl⟩ := read?_eq read
  have some_held : c.source.take n ≠ [] := by
    intro none_held
    have size := congrArg List.length none_held
    rw [List.length_take, Nat.min_eq_left there, List.length_nil] at size
    omega
  have counted := carries.counted
  rw [uncounted, if_pos empty, empty] at counted
  refine ⟨?_, ?_, ?_, most, ?_⟩
  · have whole := carries.whole
    rw [empty, List.append_nil] at whole
    rw [List.append_assoc, List.take_append_drop, whole]
  · rw [uncounted, if_neg some_held, List.length_take, Nat.min_eq_left there]
    simpa using counted
  · exact Nat.le_of_eq (List.length_take_of_le there)
  · rw [running]
    nofun

theorem write (carries : c.Carries all) (write : c.write? n = some (c', size)) :
    c'.Carries all := by
  obtain ⟨⟨running, positive, there⟩, rfl, rfl⟩ := write?_eq write
  have some_held : c.held ≠ [] := by
    rintro none_held
    rw [none_held, List.length_nil] at there
    omega
  have counted := carries.counted
  rw [uncounted, if_neg some_held] at counted
  refine ⟨?_, ?_, ?_, carries.chunk, ?_⟩
  · have whole := carries.whole
    rw [List.append_assoc c.delivered, List.take_append_drop, whole]
  · simp only [uncounted, List.length_append, List.length_take, List.length_drop]
    split <;> omega
  · have held := carries.held
    rw [List.length_drop]
    exact Nat.le_trans (Nat.sub_le _ _) held
  · rw [running]
    nofun

theorem finish (carries : c.Carries all) (finish : c.finish? = some c') : c'.Carries all := by
  obtain ⟨⟨_, empty, dry⟩, rfl⟩ := finish?_eq finish
  exact ⟨carries.whole, carries.counted, carries.held, carries.chunk, fun _ => ⟨empty, dry⟩⟩

theorem fail (carries : c.Carries all) (fail : c.fail? = some c') : c'.Carries all := by
  obtain ⟨_, rfl⟩ := fail?_eq fail
  exact ⟨carries.whole, carries.counted, carries.held, carries.chunk, nofun⟩

theorem delivered_initial (carries : c.Carries all) : c.delivered <+: all := by
  rw [← carries.whole, List.append_assoc]
  exact List.prefix_append _ _

/-- No octet is counted that is not out. -/
theorem total_le (carries : c.Carries all) : c.total ≤ c.delivered.length := by
  have counted := carries.counted
  have held := carries.held
  unfold uncounted at counted
  split at counted
  · rename_i empty
    rw [empty, List.length_nil] at counted
    omega
  · omega

/-- A copy that has come to its end has delivered and counted everything. -/
theorem of_finished (carries : c.Carries all) (finished : c.status = .finished) :
    c.delivered = all ∧ c.total = all.length := by
  obtain ⟨empty, dry⟩ := carries.finished finished
  have whole := carries.whole
  have counted := carries.counted
  rw [empty, dry, List.append_nil, List.append_nil] at whole
  rw [uncounted, if_pos empty, empty] at counted
  exact ⟨whole, whole ▸ counted⟩

end Carries

theorem size_le (carries : c.Carries all) (write : c.write? n = some (c', size)) :
    size ≤ maxChunk := by
  obtain ⟨_, _, rfl⟩ := write?_eq write
  split
  · exact carries.chunk
  · exact Nat.zero_le _

theorem status_read (read : c.read? n = some c') : c'.status = c.status := by
  rw [(read?_eq read).2]

theorem status_write (write : c.write? n = some (c', size)) : c'.status = c.status := by
  rw [(write?_eq write).2.1]

theorem status_finish (finish : c.finish? = some c') : c'.status = .finished := by
  rw [(finish?_eq finish).2]

theorem total_read (read : c.read? n = some c') : c'.total = c.total := by
  rw [(read?_eq read).2]

theorem total_write (write : c.write? n = some (c', size)) : c'.total = c.total + size := by
  rw [(write?_eq write).2.1]

theorem total_finish (finish : c.finish? = some c') : c'.total = c.total := by
  rw [(finish?_eq finish).2]

theorem total_fail (fail : c.fail? = some c') : c'.total = c.total := by
  rw [(fail?_eq fail).2]

theorem left_read (read : c.read? n = some c') : c'.left < c.left := by
  obtain ⟨⟨running, empty, positive, _, there⟩, rfl⟩ := read?_eq read
  simp only [left, running, if_true, empty, List.length_nil, List.length_drop, List.length_take]
  omega

theorem left_write (write : c.write? n = some (c', size)) : c'.left < c.left := by
  obtain ⟨⟨running, positive, there⟩, rfl, _⟩ := write?_eq write
  simp only [left, running, if_true, List.length_drop]
  omega

theorem left_finish (finish : c.finish? = some c') : c'.left < c.left := by
  obtain ⟨⟨running, _⟩, rfl⟩ := finish?_eq finish
  simp [left, running]

theorem left_fail (fail : c.fail? = some c') : c'.left < c.left := by
  obtain ⟨running, rfl⟩ := fail?_eq fail
  simp [left, running]

/-- A copy that runs can read on, write on or finish. -/
theorem possible (running : c.status = .running) :
    (∃ n, (c.read? n).isSome) ∨ (∃ n, (c.write? n).isSome) ∨ c.finish?.isSome := by
  by_cases empty : c.held = []
  · by_cases dry : c.source = []
    · exact .inr (.inr (by simp [finish?, running, empty, dry]))
    · have there : 0 < c.source.length := List.length_pos_iff.mpr dry
      have positive : 0 < min maxChunk c.source.length := Nat.lt_min.mpr ⟨by decide, there⟩
      refine .inl ⟨min maxChunk c.source.length, ?_⟩
      rw [read?, if_pos ⟨running, empty, positive, Nat.le_refl _⟩]
      rfl
  · have there : 0 < c.held.length := List.length_pos_iff.mpr empty
    refine .inr (.inl ⟨c.held.length, ?_⟩)
    rw [write?, if_pos ⟨running, there, Nat.le_refl _⟩, if_pos (List.drop_length ..)]
    rfl

end LocalProxy.Relay.Copy
