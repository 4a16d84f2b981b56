import LocalProxy.Proofs.Listening.Layer
import LocalProxy.Proofs.Listening.Plans

/-! A reconciliation of a layer: what runs and is not wanted is closed, then what is wanted and
does not run is opened. What is left running, and which calls it took, follows from that
alone. -/
namespace LocalProxy

variable {σ κ : Type} {d : Drivers σ}

namespace Layer

/-- A handle stays unless it belongs to a key that is not wanted. -/
def Stays (L : Layer σ κ) (wanted : List κ) (h : Handle) : Prop :=
  ∀ k, L.part h.slot = some k → k ∈ wanted

theorem stays_of_part {L : Layer σ κ} {wanted : List κ} {h : Handle} {k : κ}
    (part : L.part h.slot = some k) : L.Stays wanted h ↔ k ∈ wanted := by
  simp [Stays, part]

end Layer

variable [DecidableEq κ]

namespace Layer

/-- The running keys become the wanted ones. Every close comes before the first open. -/
inductive Reconciles (L : Layer σ κ) (d : Drivers σ) (wanted : List κ) (m : Manager σ) :
    Manager σ × Report κ → List Call → Prop
  | intro {mid out : Manager σ × Report κ} {closes opens : List Call} {got : List Handle}
      (closing : L.Closes d (Plan.between (L.running m) wanted).close (m, .empty) mid closes)
      (opening : L.Opens d (Plan.between (L.running m) wanted).create mid out opens got) :
      Reconciles L d wanted m out (closes ++ opens)

namespace Reconciles

variable {L : Layer σ κ} {wanted : List κ} {m : Manager σ} {out : Manager σ × Report κ}
  {asked : List Call} {k : κ} {h : Handle}

section Folds

variable {close create : Manager σ × Report κ → κ → Manager σ × Report κ}
  (close_law : ∀ acc k, Sole acc.1.handles →
    ∃ asked, Manager.Clears d (fun slot => L.part slot = some k) acc.1 (close acc k).1 asked)
  (close_failed : ∀ acc k, (close acc k).2.failed = acc.2.failed)
  (create_law : ∀ acc k, Sole acc.1.handles → k ∉ L.running acc.1 →
    ∃ asked got, L.Attempt d k acc (create acc k) asked got)

include close_law close_failed create_law

/-- A reconciliation by folds is a closing and an opening, with a known state between them. -/
theorem phases_of_foldl (sole : Sole m.handles) (wanted : List κ) :
    let plan := Plan.between (L.running m) wanted
    let mid := plan.close.foldl close (m, .empty)
    ∃ closes opens got, L.Closes d plan.close (m, .empty) mid closes ∧
      L.Opens d plan.create mid (plan.create.foldl create mid) opens got := by
  intro plan mid
  obtain ⟨closes, closing⟩ : ∃ closes, L.Closes d plan.close (m, .empty) mid closes :=
    Closes.of_foldl close_law close_failed sole
  have idle : ∀ k ∈ plan.create, k ∉ L.running mid.1 := fun k listed =>
    closing.idle (Plan.mem_create.mp listed).2
  obtain ⟨opens, got, opening⟩ := Opens.of_foldl create_law (closing.clears.moves.sole sole)
    (Plan.nodup_create _ _) idle
  exact ⟨closes, opens, got, closing, opening⟩

theorem of_foldl (sole : Sole m.handles) (wanted : List κ) :
    ∃ asked, L.Reconciles d wanted m
      ((Plan.between (L.running m) wanted).create.foldl create
        ((Plan.between (L.running m) wanted).close.foldl close (m, .empty))) asked := by
  obtain ⟨_, _, _, closing, opening⟩ :=
    phases_of_foldl close_law close_failed create_law sole wanted
  exact ⟨_, .intro closing opening⟩

end Folds

theorem asks (run : L.Reconciles d wanted m out asked) : m.Asks asked out.1 := by
  obtain ⟨closing, opening⟩ := run
  exact closing.clears.asks.trans opening.asks

theorem moves (run : L.Reconciles d wanted m out asked) :
    Moves d (m.books m.handles) (out.1.books out.1.handles) := by
  obtain ⟨closing, opening⟩ := run
  exact closing.clears.moves.trans opening.moves

theorem consults (run : L.Reconciles d wanted m out asked) : m.Consults d asked out.1 :=
  .of_moves run.asks run.moves

/-- Closing the unwanted keys leaves the handles that stay. -/
theorem mem_closed {mid : Manager σ × Report κ} {closes : List Call}
    (closing : L.Closes d (Plan.between (L.running m) wanted).close (m, .empty) mid closes) :
    h ∈ mid.1.handles ↔ h ∈ m.handles ∧ L.Stays wanted h := by
  rw [closing.clears.handles]
  refine and_congr_right fun held => ?_
  constructor
  · intro kept k part
    by_contra unwanted
    exact kept ⟨k, Plan.mem_close.mpr ⟨L.mem_running.mpr ⟨h, held, part⟩, unwanted⟩, part⟩
  · rintro stays ⟨k, listed, part⟩
    exact (Plan.mem_close.mp listed).2 (stays k part)

theorem stay (run : L.Reconciles d wanted m out asked) (held : h ∈ m.handles)
    (stays : L.Stays wanted h) : h ∈ out.1.handles := by
  obtain ⟨closing, opening⟩ := run
  rw [opening.handles]
  exact List.mem_append_left _ ((mem_closed closing).mpr ⟨held, stays⟩)

/-- What is open afterwards has stayed, or belongs to a key that was opened. -/
theorem held_or_new (run : L.Reconciles d wanted m out asked) (member : h ∈ out.1.handles) :
    h ∈ m.handles ∧ L.Stays wanted h ∨ ∃ k ∈ wanted, k ∉ L.running m ∧ L.part h.slot = some k := by
  obtain ⟨closing, opening⟩ := run
  rw [opening.handles] at member
  rcases List.mem_append.mp member with old | new
  · exact .inl ((mem_closed closing).mp old)
  · obtain ⟨k, listed, part⟩ := opening.part_got new
    obtain ⟨desired, idle⟩ := Plan.mem_create.mp listed
    exact .inr ⟨k, desired, idle, part⟩

/-- Every call is about a key that is to be closed or to be opened. -/
theorem part_asked (run : L.Reconciles d wanted m out asked) {c : Call} (member : c ∈ asked) :
    ∃ k, L.part c.slot = some k ∧ (k ∈ wanted ↔ k ∉ L.running m) := by
  obtain ⟨closing, opening⟩ := run
  rcases List.mem_append.mp member with first | last
  · obtain ⟨h, failure, rfl, k, listed, part⟩ := closing.clears.closes _ first
    obtain ⟨runs, unwanted⟩ := Plan.mem_close.mp listed
    exact ⟨k, part, by simp [runs, unwanted]⟩
  · obtain ⟨k, listed, part⟩ := opening.part_asked last
    obtain ⟨desired, idle⟩ := Plan.mem_create.mp listed
    exact ⟨k, part, by simp [desired, idle]⟩

/-- A handle that stays is the subject of no call. -/
theorem untouched (run : L.Reconciles d wanted m out asked) (held : h ∈ m.handles)
    (stays : L.Stays wanted h) {c : Call} (member : c ∈ asked) : c.slot ≠ h.slot := by
  intro same
  obtain ⟨k, part, turned⟩ := run.part_asked member
  rw [same] at part
  exact turned.mp (stays k part) (L.mem_running.mpr ⟨h, held, part⟩)

/-- A handle that does not stay is closed. -/
theorem closed (run : L.Reconciles d wanted m out asked) (held : h ∈ m.handles)
    (part : L.part h.slot = some k) (unwanted : k ∉ wanted) :
    ∃ failure, .close h failure ∈ asked := by
  obtain ⟨closing, _⟩ := run
  have listed := Plan.mem_close.mpr ⟨L.mem_running.mpr ⟨h, held, part⟩, unwanted⟩
  obtain ⟨failure, member⟩ := closing.clears.all h held ⟨k, listed, part⟩
  exact ⟨failure, List.mem_append_left _ member⟩

/-- Only what keys need that are wanted and do not run is asked for. -/
theorem needs_listen (run : L.Reconciles d wanted m out asked) {network : Network}
    {service : Service} {outcome : Except OpenFault Handle}
    (member : .listen network service outcome ∈ asked) :
    ∃ k ∈ wanted, k ∉ L.running m ∧
      ∃ needed, L.needs k = some needed ∧ (network, service) ∈ needed := by
  obtain ⟨closing, opening⟩ := run
  rcases List.mem_append.mp member with first | last
  · exact absurd first closing.no_listen
  · obtain ⟨k, listed, needed⟩ := opening.needs_listen last
    obtain ⟨desired, idle⟩ := Plan.mem_create.mp listed
    exact ⟨k, desired, idle, needed⟩

/-- A key that is granted has the listeners it needs and no others. -/
theorem opened (run : L.Reconciles d wanted m out asked) (desired : k ∈ wanted)
    (idle : k ∉ L.running m) (granted : L.Granted asked k) :
    ∃ needed, L.needs k = some needed ∧ ∀ slot, L.part slot = some k →
      (slot ∈ needed ↔ ∃ h ∈ out.1.handles, h.slot = slot) := by
  obtain ⟨closing, opening⟩ := run
  obtain ⟨needed, needs, all⟩ := opening.whole (Plan.nodup_create _ _)
    (Plan.mem_create.mpr ⟨desired, idle⟩) (closing.granted_append.mp granted)
  refine ⟨needed, needs, fun slot part => ?_⟩
  rw [all slot part, opening.handles]
  refine exists_congr fun h => and_congr_left fun same => ?_
  rw [List.mem_append]
  refine (or_iff_right fun old => closing.idle idle ?_).symm
  exact L.mem_running.mpr ⟨h, old, same ▸ part⟩

theorem granted_of_new (run : L.Reconciles d wanted m out asked) (idle : k ∉ L.running m)
    (runs : k ∈ L.running out.1) : k ∈ wanted ∧ L.Granted asked k := by
  obtain ⟨closing, opening⟩ := run
  obtain ⟨h, member, part⟩ := L.mem_running.mp runs
  rw [opening.handles] at member
  rcases List.mem_append.mp member with old | new
  · exact absurd (L.mem_running.mpr ⟨h, old, part⟩) (closing.idle idle)
  · obtain ⟨k', listed, part'⟩ := opening.part_got new
    obtain rfl := Option.some.inj (part.symm.trans part')
    refine ⟨(Plan.mem_create.mp listed).1, closing.granted_append.mpr ?_⟩
    exact (opening.granted_iff (Plan.nodup_create _ _) listed).mpr ⟨h, new, part⟩

/-- What runs is what is wanted and ran before, or was opened now. -/
theorem running_iff (run : L.Reconciles d wanted m out asked) :
    k ∈ L.running out.1 ↔ k ∈ wanted ∧ (k ∈ L.running m ∨ L.Granted asked k) := by
  by_cases ran : k ∈ L.running m
  · simp only [ran, true_or, and_true]
    constructor
    · intro runs
      obtain ⟨h, member, part⟩ := L.mem_running.mp runs
      rcases run.held_or_new member with ⟨_, stays⟩ | ⟨k', desired, _, part'⟩
      · exact stays k part
      · rwa [Option.some.inj (part.symm.trans part')]
    · intro desired
      obtain ⟨h, held, part⟩ := L.mem_running.mp ran
      exact L.mem_running.mpr ⟨h, run.stay held ((stays_of_part part).mpr desired), part⟩
  · simp only [ran, false_or]
    refine ⟨run.granted_of_new ran, fun ⟨desired, granted⟩ => ?_⟩
    obtain ⟨needed, needs, all⟩ := run.opened desired ran granted
    cases needed with
    | nil => exact absurd needs (L.needs_some k)
    | cons slot rest =>
      have part := L.part_needs needs List.mem_cons_self
      obtain ⟨h, member, rfl⟩ := (all slot part).mp List.mem_cons_self
      exact L.mem_running.mpr ⟨h, member, part⟩

/-- A key that is wanted and does not run is tried once: granted or else denied. -/
theorem denied_iff (run : L.Reconciles d wanted m out asked) (desired : k ∈ wanted)
    (idle : k ∉ L.running m) : L.Denied asked k ↔ ¬ L.Granted asked k := by
  obtain ⟨closing, opening⟩ := run
  have listed := Plan.mem_create.mpr ⟨desired, idle⟩
  rw [closing.granted_append, closing.denied_append,
    opening.granted_iff (Plan.nodup_create _ _) listed,
    opening.denied_iff (Plan.nodup_create _ _) listed]

/-- The report tells which keys failed. -/
theorem failed_iff (run : L.Reconciles d wanted m out asked) :
    k ∈ out.2.failed.map Prod.fst ↔ k ∈ wanted ∧ k ∉ L.running m ∧ L.Denied asked k := by
  obtain ⟨closing, opening⟩ := run
  rw [closing.denied_append, opening.failed_iff (Plan.nodup_create _ _), closing.failed,
    Plan.mem_create]
  simp [Report.empty, and_assoc]

theorem succeeds (run : L.Reconciles d wanted m out asked)
    (granted : ∀ k ∈ wanted, k ∉ L.running m → L.Granted asked k) :
    (∀ k ∈ wanted, k ∈ L.running out.1) ∧ out.2.failed = [] := by
  constructor
  · intro k desired
    by_cases ran : k ∈ L.running m
    · exact run.running_iff.mpr ⟨desired, .inl ran⟩
    · exact run.running_iff.mpr ⟨desired, .inr (granted k desired ran)⟩
  · refine List.eq_nil_iff_forall_not_mem.mpr fun ⟨k, message⟩ member => ?_
    obtain ⟨desired, idle, denied⟩ := run.failed_iff.mp (List.mem_map_of_mem member)
    exact (run.denied_iff desired idle).mp denied (granted k desired idle)

/-- While listeners are asked for, no handle is open that does not stay. -/
theorem stays_of_split (run : L.Reconciles d wanted m out asked) {before after : List Call}
    {network : Network} {service : Service} {outcome : Except OpenFault Handle}
    (split : asked = before ++ .listen network service outcome :: after)
    (held : h ∈ m.handles) (unclosed : ∀ failure, .close h failure ∉ before) :
    L.Stays wanted h := by
  intro k part
  by_contra unwanted
  obtain ⟨closing, _⟩ := run
  have listed := Plan.mem_close.mpr ⟨L.mem_running.mpr ⟨h, held, part⟩, unwanted⟩
  obtain ⟨failure, member⟩ := closing.clears.all h held ⟨k, listed, part⟩
  rcases List.append_eq_append_iff.mp split with ⟨rest, rfl, _⟩ | ⟨rest, rfl, tail⟩
  · exact unclosed failure (List.mem_append_left _ member)
  · rcases rest with _ | ⟨c, rest⟩
    · exact unclosed failure (by simpa using member)
    · obtain ⟨rfl, _⟩ := List.cons.inj tail
      exact closing.no_listen (List.mem_append_right _ List.mem_cons_self)

end Reconciles

end Layer

end LocalProxy
