import LocalProxy.Proofs.Listening.Reconciliation

/-! What a run of reconciliations means for a single key. One of them settles it, and the others
leave it as it is; so it is settled by the whole. -/
namespace LocalProxy

variable {σ κ ι : Type} {d : Drivers σ} {m mid m' : Manager σ} {first second asked : List Call}

namespace Layer

variable {L : Layer σ κ} {k : κ} {desired : Prop}

/-- A key is left as it is: no call is about it, and its handles are the same. -/
structure Rests (L : Layer σ κ) (k : κ) (m m' : Manager σ) (asked : List Call) : Prop where
  silent : ∀ c ∈ asked, L.part c.slot ≠ some k
  handles : ∀ h, L.part h.slot = some k → (h ∈ m'.handles ↔ h ∈ m.handles)

/-- A key comes to be as it is desired. If it is, it runs where it ran before, by the handles it
had, or where all its listeners were opened now, and one was refused else. If it is not, its
handles are closed. -/
structure Settles (L : Layer σ κ) (k : κ) (desired : Prop) (m m' : Manager σ)
    (asked : List Call) : Prop where
  running : k ∈ L.running m' ↔ desired ∧ (k ∈ L.running m ∨ L.Granted asked k)
  tried : desired → k ∉ L.running m → (L.Denied asked k ↔ ¬ L.Granted asked k)
  kept : desired → k ∈ L.running m → L.Rests k m m' asked
  closed : ¬ desired → ∀ h ∈ m.handles, L.part h.slot = some k →
    ∃ failure, .close h failure ∈ asked

/-- Whatever runs has the listeners it needs, and no others. -/
def Whole (L : Layer σ κ) (m : Manager σ) : Prop :=
  ∀ k ∈ L.running m, ∃ needed, L.needs k = some needed ∧
    ∀ slot, L.part slot = some k → (slot ∈ needed ↔ ∃ h ∈ m.handles, h.slot = slot)

theorem Rests.running (rests : L.Rests k m m' asked) : k ∈ L.running m' ↔ k ∈ L.running m := by
  rw [L.mem_running, L.mem_running]
  exact exists_congr fun h => and_congr_left fun part => rests.handles h part

theorem Rests.trans (left : L.Rests k m mid first) (right : L.Rests k mid m' second) :
    L.Rests k m m' (first ++ second) where
  silent c member := (List.mem_append.mp member).elim (left.silent c) (right.silent c)
  handles h part := (right.handles h part).trans (left.handles h part)

theorem Rests.slots (rests : L.Rests k m m' asked) {slot : Slot} (part : L.part slot = some k) :
    (∃ h ∈ m'.handles, h.slot = slot) ↔ ∃ h ∈ m.handles, h.slot = slot :=
  exists_congr fun h => and_congr_left fun same => rests.handles h (same ▸ part)

theorem Whole.held (whole : L.Whole m) (runs : k ∈ L.running m) {needed : List Slot}
    (needs : L.needs k = some needed) {slot : Slot} (member : slot ∈ needed) :
    ∃ h ∈ m.handles, h.slot = slot := by
  obtain ⟨_, needs', slots⟩ := whole k runs
  obtain rfl := Option.some.inj (needs.symm.trans needs')
  exact (slots slot (L.part_needs needs member)).mp member

/-- What was whole is so while every key rests. -/
theorem Whole.rests (whole : L.Whole m) (rests : ∀ k, L.Rests k m m' asked) : L.Whole m' := by
  intro k runs
  obtain ⟨needed, needs, slots⟩ := whole k ((rests k).running.mp runs)
  exact ⟨needed, needs, fun slot part => (slots slot part).trans ((rests k).slots part).symm⟩

theorem Settles.congr {wish : Prop} (settles : L.Settles k desired m m' asked)
    (same : desired ↔ wish) : L.Settles k wish m m' asked :=
  propext same ▸ settles

/-- Only the kept handles of a manager matter. -/
theorem Settles.of_handles {n n' : Manager σ} (settles : L.Settles k desired m m' asked)
    (before : n.handles = m.handles) (after : n'.handles = m'.handles) :
    L.Settles k desired n n' asked := by
  have same : ∀ {a b : Manager σ}, a.handles = b.handles →
      (k ∈ L.running a ↔ k ∈ L.running b) := by
    intro a b eq
    rw [L.mem_running, L.mem_running, eq]
  refine ⟨?_, ?_, ?_, ?_⟩
  · rw [same after, same before]
    exact settles.running
  · rw [same before]
    exact settles.tried
  · rw [same before]
    intro wish runs
    obtain ⟨silent, handles⟩ := settles.kept wish runs
    exact ⟨silent, by rwa [before, after]⟩
  · rw [before]
    exact settles.closed

variable [DecidableEq κ]

theorem about_silent (silent : ∀ c ∈ asked, L.part c.slot ≠ some k) : L.about k asked = [] :=
  List.filter_eq_nil_iff.mpr fun c member => by simpa using silent c member

/-- A key that is settled after it has rested is settled by both. -/
theorem Settles.after_rest (rests : L.Rests k m mid first)
    (settles : L.Settles k desired mid m' second) :
    L.Settles k desired m m' (first ++ second) := by
  have calls : L.about k (first ++ second) = L.about k second := by
    rw [about_append, about_silent rests.silent, List.nil_append]
  refine ⟨?_, ?_, ?_, ?_⟩
  · rw [settles.running, rests.running, granted_congr calls]
  · intro wish idle
    rw [granted_congr calls, denied_congr calls]
    exact settles.tried wish (mt rests.running.mp idle)
  · intro wish runs
    exact rests.trans (settles.kept wish (rests.running.mpr runs))
  · intro unwanted h held part
    obtain ⟨failure, member⟩ :=
      settles.closed unwanted h ((rests.handles h part).mpr held) part
    exact ⟨failure, List.mem_append_right _ member⟩

/-- A key that rests after it was settled is settled by both. -/
theorem Settles.before_rest (settles : L.Settles k desired m mid first)
    (rests : L.Rests k mid m' second) : L.Settles k desired m m' (first ++ second) := by
  have calls : L.about k (first ++ second) = L.about k first := by
    rw [about_append, about_silent rests.silent, List.append_nil]
  refine ⟨?_, ?_, ?_, ?_⟩
  · rw [rests.running, settles.running, granted_congr calls]
  · intro wish idle
    rw [granted_congr calls, denied_congr calls]
    exact settles.tried wish idle
  · intro wish runs
    exact (settles.kept wish runs).trans rests
  · intro unwanted h held part
    obtain ⟨failure, member⟩ := settles.closed unwanted h held part
    exact ⟨failure, List.mem_append_left _ member⟩

namespace Reconciles

variable {wanted : List κ} {out : Manager σ × Report κ}

/-- A key rests that runs just if it is wanted. -/
theorem rests (run : L.Reconciles d wanted m out asked) (same : k ∈ wanted ↔ k ∈ L.running m) :
    L.Rests k m out.1 asked where
  silent c member part := by
    obtain ⟨k', part', turned⟩ := run.part_asked member
    obtain rfl := Option.some.inj (part.symm.trans part')
    rw [same] at turned
    exact iff_not_self turned
  handles h part := by
    constructor
    · intro member
      rcases run.held_or_new member with ⟨held, _⟩ | ⟨k', desired, idle, part'⟩
      · exact held
      · obtain rfl := Option.some.inj (part.symm.trans part')
        exact absurd (same.mp desired) idle
    · intro held
      have runs := L.mem_running.mpr ⟨h, held, part⟩
      exact run.stay held ((stays_of_part part).mpr (same.mpr runs))

theorem settles (run : L.Reconciles d wanted m out asked) (k : κ) :
    L.Settles k (k ∈ wanted) m out.1 asked where
  running := run.running_iff
  tried := run.denied_iff
  kept desired runs := run.rests (iff_of_true desired runs)
  closed unwanted _ held part := run.closed held part unwanted

/-- A reconciliation leaves no key with half of its listeners. -/
theorem whole (run : L.Reconciles d wanted m out asked) (whole : L.Whole m) : L.Whole out.1 := by
  intro k runs
  by_cases ran : k ∈ L.running m
  · have rests := run.rests (iff_of_true (run.running_iff.mp runs).1 ran)
    obtain ⟨needed, needs, slots⟩ := whole k ran
    exact ⟨needed, needs, fun slot part => (slots slot part).trans (rests.slots part).symm⟩
  · obtain ⟨desired, granted⟩ := run.granted_of_new ran runs
    exact run.opened desired ran granted

/-- The keys of other layers rest. -/
theorem rests_apart {L' : Layer σ ι} {i : ι}
    (apart : ∀ slot k, L'.part slot = some i → L.part slot ≠ some k)
    (run : L.Reconciles d wanted m out asked) : L'.Rests i m out.1 asked where
  silent c member part := by
    obtain ⟨k, part', _⟩ := run.part_asked member
    exact apart c.slot k part part'
  handles h part := by
    constructor
    · intro member
      rcases run.held_or_new member with ⟨held, _⟩ | ⟨k, _, _, part'⟩
      · exact held
      · exact absurd part' (apart h.slot k part)
    · intro held
      exact run.stay held fun k part' => absurd part' (apart h.slot k part)

end Reconciles

end Layer

end LocalProxy
