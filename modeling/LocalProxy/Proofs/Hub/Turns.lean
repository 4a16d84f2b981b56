import LocalProxy.Hub
import Mathlib.Logic.Relation

/-! Patches that are asked for at the same time. Each waits for its turn, and only then merges into
the settings and goes through its stages; so whatever the order in which they get their turns, they
leave what they would leave one after the other. -/
namespace LocalProxy

namespace Hub

variable {σ : Type}

/-- A hub, the patches that wait for their turn, and what the patch whose turn it is has still to
do. -/
structure Race (σ : Type) where
  hub : Hub σ
  waiting : List GeneralPatch
  turn : Option (Application × List Stage) := none

namespace Race

/-- What may happen next. A turn is given to any of those who wait, and only while nobody has it. -/
inductive Step (d : Drivers σ) : Race σ → Race σ → Prop
  | enter (h : Hub σ) (before after : List GeneralPatch) (p : GeneralPatch) :
      Step d ⟨h, before ++ p :: after, none⟩ ⟨h, before ++ after, some (h.patching p, patchStages)⟩
  | stage (h : Hub σ) (waiting : List GeneralPatch) (a : Application) (stage : Stage)
      (rest : List Stage) :
      Step d ⟨h, waiting, some (a, stage :: rest)⟩
        ⟨(runStage d (h, a) stage).1, waiting, some ((runStage d (h, a) stage).2, rest)⟩
  | leave (h : Hub σ) (waiting : List GeneralPatch) (a : Application) :
      Step d ⟨h, waiting, some (a, [])⟩ ⟨h, waiting, none⟩

abbrev Steps (d : Drivers σ) : Race σ → Race σ → Prop := Relation.ReflTransGen (Step d)

/-- Every patch had its turn. -/
structure Finished (race : Race σ) : Prop where
  waiting : race.waiting = []
  turn : race.turn = none

variable {d : Drivers σ} {race race' : Race σ} {h : Hub σ} {patches : List GeneralPatch}

/-- Some patches are through, in an order, and what the one whose turn it is has still to do will
carry it through as the next. -/
inductive Serial (d : Drivers σ) (h : Hub σ) (patches : List GeneralPatch) : Race σ → Prop
  | between {order waiting : List GeneralPatch} (all : (order ++ waiting).Perm patches) :
      Serial d h patches ⟨order.foldl (patch d) h, waiting, none⟩
  | within {order waiting : List GeneralPatch} {p : GeneralPatch} {now : Hub σ} {a : Application}
      {rest : List Stage} (all : (order ++ p :: waiting).Perm patches)
      (through : (runStages d now a rest).1 = (order.foldl (patch d) h).patch d p) :
      Serial d h patches ⟨now, waiting, some (a, rest)⟩

theorem Serial.step (serial : Serial d h patches race) (step : Step d race race') :
    Serial d h patches race' := by
  cases step with
  | enter now before after p =>
    cases serial with
    | between all =>
      exact .within ((List.perm_middle.symm.append_left _).trans all) rfl
  | stage now waiting a stage rest =>
    cases serial with
    | within all through => exact .within all through
  | leave now waiting a =>
    cases serial with
    | @within order _ p _ _ _ all through =>
      have done : now = (order ++ [p]).foldl (patch d) h := by
        rw [List.foldl_append]
        exact through
      rw [done]
      exact .between (by simpa using all)

theorem Serial.steps (serial : Serial d h patches race) (steps : Steps d race race') :
    Serial d h patches race' := by
  induction steps with
  | refl => exact serial
  | tail _ step ih => exact ih.step step

/-- Patches that had their turns leave what they leave one after the other, in some order. -/
theorem exists_order (steps : Steps d ⟨h, patches, none⟩ race) (finished : race.Finished) :
    ∃ order : List GeneralPatch, order.Perm patches ∧ race.hub = order.foldl (patch d) h := by
  have start : Serial d h patches ⟨[].foldl (patch d) h, patches, none⟩ := .between (.refl patches)
  have serial : Serial d h patches race := start.steps steps
  cases serial with
  | @between order waiting all =>
    obtain rfl : waiting = [] := finished.waiting
    exact ⟨order, by simpa using all, rfl⟩
  | within => cases finished.turn

/-- A turn comes to its end. -/
theorem steps_leave (now : Hub σ) (waiting : List GeneralPatch) (a : Application)
    (rest : List Stage) :
    Steps d ⟨now, waiting, some (a, rest)⟩ ⟨(runStages d now a rest).1, waiting, none⟩ := by
  induction rest generalizing now a with
  | nil => exact .single (.leave now waiting a)
  | cons stage rest ih => exact .head (.stage now waiting a stage rest) (ih _ _)

theorem steps_between (now : Hub σ) (waiting : List GeneralPatch) :
    Steps d ⟨now, waiting, none⟩ ⟨waiting.foldl (patch d) now, [], none⟩ := by
  induction waiting generalizing now with
  | nil => exact .refl
  | cons p rest ih =>
    have turn : Steps d ⟨now, p :: rest, none⟩ ⟨now.patch d p, rest, none⟩ :=
      .head (.enter now [] rest p) (steps_leave now rest (now.patching p) patchStages)
    exact turn.trans (ih _)

/-- Wherever patches have come, they can be carried through. -/
theorem exists_finished (race : Race σ) : ∃ done, Steps d race done ∧ done.Finished := by
  obtain ⟨now, waiting, turn⟩ := race
  cases turn with
  | none => exact ⟨_, steps_between now waiting, rfl, rfl⟩
  | some turn => exact ⟨_, (steps_leave now waiting turn.1 turn.2).trans (steps_between _ waiting),
      rfl, rfl⟩

end Race

end Hub

end LocalProxy
