import LocalProxy.Traffic.Statistics
import Mathlib.Data.List.Nodup

/-! What is done to the traffic statistics, with the outcome of each act, and the sums of bytes
that the past then gives: in all, through one guard, and since the last sample. -/
namespace LocalProxy

/-- The direction in which bytes go. -/
inductive Direction
  | up
  | down
deriving DecidableEq

def Tracker.carried (t : Tracker) : Direction → UInt64
  | .up => t.upload
  | .down => t.download

/-- What becomes of a connection that carries further bytes. -/
def Tracker.carry (t : Tracker) (n : UInt64) : Direction → Tracker
  | .up => { t with upload := t.upload + n }
  | .down => { t with download := t.download + n }

@[simp] theorem Tracker.guard_carry (t : Tracker) (n : UInt64) (way : Direction) :
    (t.carry n way).guard = t.guard := by
  cases way <;> rfl

theorem Tracker.carried_carry (t : Tracker) (n : UInt64) (way w : Direction) :
    (t.carry n way).carried w = t.carried w + if way = w then n else 0 := by
  cases way <;> cases w <;> simp [carry, carried]

def Sample.rate (s : Sample) : Direction → Int64
  | .up => s.up
  | .down => s.down

namespace Statistics

def counter (s : Statistics) : Direction → Counter
  | .up => s.upload
  | .down => s.download

def add (s : Statistics) : Direction → Nat → UInt64 → Statistics
  | .up => s.addUpload
  | .down => s.addDownload

/-- What may be done. -/
inductive Act
  | track (id : Uuid) (metadata : Metadata) (chains : List String) (rule start : String)
  | add (way : Direction) (guard : Nat) (n : UInt64)
  | drop (guard : Nat)
  | close (id : Uuid)
  | closeAll
  | look
  | tick

/-- What was done, with its outcome. -/
inductive Deed
  | tracked (guard : Nat) (id : Uuid)
  | added (way : Direction) (guard : Nat) (n : UInt64)
  | dropped (guard : Nat)
  | closed (id : Uuid) (found : Bool)
  | closedAll (count : Nat)
  | looked
  | ticked (sample : Sample)

/-- One act. Bytes are counted by whoever holds the guard, and nobody drops a guard twice. -/
def act? (s : Statistics) : Act → Option (Deed × Statistics)
  | .track id metadata chains rule start =>
    let (guard, s) := s.track id metadata chains rule start
    some (.tracked guard id, s)
  | .add way guard n =>
    if (s.tracker? guard).isNone then none else some (.added way guard n, s.add way guard n)
  | .drop guard =>
    if (s.tracker? guard).isNone then none else some (.dropped guard, s.drop guard)
  | .close id => some (.closed id (s.close id).1, (s.close id).2)
  | .closeAll => some (.closedAll s.closeAll.1, s.closeAll.2)
  | .look => some (.looked, s)
  | .tick => some (.ticked s.tick.now, s.tick)

/-- Statistics with what was done to them, the latest deed first. -/
structure Course where
  statistics : Statistics := .empty
  past : List Deed := []

def Course.step (c : Course) (act : Act) : Course :=
  match c.statistics.act? act with
  | none => c
  | some (x, s) => ⟨s, x :: c.past⟩

def Course.run (c : Course) (acts : List Act) : Course := acts.foldl step c

namespace Deed

/-- The bytes that were counted in a direction. -/
def amount (way : Direction) : Deed → Nat
  | added w _ n => if w = way then n.toNat else 0
  | _ => 0

/-- Bytes were counted through the guard. -/
def through (guard : Nat) : Deed → Bool
  | added _ g _ => g == guard
  | _ => false

def sample? : Deed → Option Sample
  | ticked s => some s
  | _ => none

/-- The number that a guard got. -/
def guard? : Deed → Option Nat
  | tracked g _ => some g
  | _ => none

end Deed

/-- The bytes that were ever counted in a direction. -/
def total (way : Direction) : List Deed → Nat
  | [] => 0
  | x :: past => x.amount way + total way past

/-- Those among them that were counted through one guard. -/
def share (way : Direction) (guard : Nat) (past : List Deed) : Nat :=
  total way (past.filter (Deed.through guard))

/-- The samples that were taken, the latest first. -/
def samples (past : List Deed) : List Sample := past.filterMap Deed.sample?

/-- What was done since the last sample. -/
def unsampled (past : List Deed) : List Deed := past.takeWhile (·.sample?.isNone)

/-- The guards that were given, the latest first. -/
def guards (past : List Deed) : List Nat := past.filterMap Deed.guard?

section Past

variable {way : Direction} {guard : Nat} {x : Deed} {past : List Deed}

theorem total_cons : total way (x :: past) = x.amount way + total way past := rfl

theorem share_cons :
    share way guard (x :: past) =
      (if x.through guard then x.amount way else 0) + share way guard past := by
  by_cases through : x.through guard <;> simp [share, through, total_cons]

theorem unsampled_cons (idle : x.sample? = none) : unsampled (x :: past) = x :: unsampled past := by
  simp [unsampled, idle]

theorem samples_cons (idle : x.sample? = none) : samples (x :: past) = samples past := by
  simp [samples, idle]

theorem samples_ticked (s : Sample) : samples (.ticked s :: past) = s :: samples past := rfl

/-- Nothing went through a guard that was not used. -/
theorem share_unused (unused : ∀ y ∈ past, y.through guard = false) : share way guard past = 0 := by
  have none : past.filter (Deed.through guard) = [] :=
    List.filter_eq_nil_iff.mpr fun y member => by simp [unused y member]
  simp [share, none, total]

end Past

/-- No counter differs: not one of the whole, and not one of a connection that is still there. No
connection is new. -/
structure Keeps (s s' : Statistics) : Prop where
  counter : ∀ way, s'.counter way = s.counter way
  carried : ∀ t' ∈ s'.held, ∃ t ∈ s.held, t.guard = t'.guard ∧ t.carried = t'.carried
  guards : (s'.held.map (·.guard)).Sublist (s.held.map (·.guard))
  next : s'.nextGuard = s.nextGuard

namespace Keeps

theorem refl (s : Statistics) : Keeps s s :=
  ⟨fun _ => rfl, fun t held => ⟨t, held, rfl, rfl⟩, .refl _, rfl⟩

theorem trans {s s' s'' : Statistics} (first : Keeps s s') (second : Keeps s' s'') :
    Keeps s s'' where
  counter way := (second.counter way).trans (first.counter way)
  carried t'' held := by
    obtain ⟨t', held', guard', carried'⟩ := second.carried t'' held
    obtain ⟨t, held, guard, carried⟩ := first.carried t' held'
    exact ⟨t, held, guard.trans guard', carried.trans carried'⟩
  guards := second.guards.trans first.guards
  next := second.next.trans first.next

end Keeps

variable (s : Statistics)

/-- Where an update leaves a tracker its guard, the guards that are held stay the same. -/
theorem guards_update (guard : Nat) {f : Tracker → Tracker} (same : ∀ t, (f t).guard = t.guard) :
    (s.update guard f).held.map (·.guard) = s.held.map (·.guard) := by
  simp only [update, List.map_map]
  refine List.map_congr_left fun t _ => ?_
  simp only [Function.comp_apply]
  split
  · exact same t
  · rfl

theorem held_add (way : Direction) (guard : Nat) (n : UInt64) :
    (s.add way guard n).held = (s.update guard (·.carry n way)).held := by
  cases way <;> rfl

theorem keeps_signal (guard : Nat) : Keeps s (s.signal guard) where
  counter way := by cases way <;> rfl
  carried t' held := by
    obtain ⟨t, before, rfl⟩ := List.mem_map.mp held
    refine ⟨t, before, ?_⟩
    split
    · exact ⟨rfl, funext fun way => by cases way <;> rfl⟩
    · exact ⟨rfl, rfl⟩
  guards := by
    have same : (s.signal guard).held.map (·.guard) = s.held.map (·.guard) :=
      guards_update s guard fun _ => rfl
    rw [same]
  next := rfl

theorem keeps_drop (guard : Nat) : Keeps s (s.drop guard) := by
  unfold drop
  cases s.tracker? guard with
  | none => exact .refl s
  | some t =>
    exact ⟨fun way => by cases way <;> rfl,
      fun t held => ⟨t, List.mem_of_mem_filter held, rfl, rfl⟩,
      List.filter_sublist.map _, rfl⟩

theorem keeps_close (id : Uuid) : Keeps s (s.close id).2 := by
  unfold close
  cases s.listed.lookup id with
  | none => exact .refl s
  | some guard => exact keeps_signal s guard

theorem keeps_closeAll : Keeps s s.closeAll.2 := by
  suffices all : ∀ (entries : List (Uuid × Nat)) (s : Statistics),
      Keeps s (entries.foldl (fun s e => s.signal e.2) s) from all s.listed s
  intro entries
  induction entries with
  | nil => exact Keeps.refl
  | cons e rest ih => exact fun s => (keeps_signal s e.2).trans (ih _)

end Statistics

end LocalProxy
