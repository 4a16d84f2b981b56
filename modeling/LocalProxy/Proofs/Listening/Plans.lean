import LocalProxy.Reconcile
import Mathlib.Data.Finset.Basic
import Mathlib.Data.List.Induction
import Mathlib.Data.List.Sort

/-! What is to be done to come from what runs to what is wanted: the difference of two lists, in
their order, whatever is repeated in them. Main statement: `Plan.between_is_difference`. -/
namespace LocalProxy.Plan

variable {κ : Type} [DecidableEq κ] {running wanted : List κ}

section Firsts

theorem nodup_firsts (seen ks : List κ) : (firsts seen ks).Nodup := by
  induction ks generalizing seen with
  | nil => exact List.nodup_nil
  | cons k ks ih =>
    by_cases old : k ∈ seen
    · simpa [firsts, old] using ih seen
    · simp only [firsts, old, if_false, List.nodup_cons]
      exact ⟨by simp [mem_firsts], ih _⟩

theorem firsts_congr {seen seen' ks : List κ} (same : ∀ k ∈ ks, k ∈ seen ↔ k ∈ seen') :
    firsts seen ks = firsts seen' ks := by
  induction ks generalizing seen seen' with
  | nil => rfl
  | cons k ks ih =>
    obtain ⟨here, later⟩ := List.forall_mem_cons.mp same
    have longer : firsts (k :: seen) ks = firsts (k :: seen') ks :=
      ih fun x member => by rw [List.mem_cons, List.mem_cons, later x member]
    simp only [firsts, here, ih later, longer]

/-- The first mentions are the same whether some entries are dropped before or after. -/
theorem filter_firsts (p : κ → Bool) (seen ks : List κ) :
    (firsts seen ks).filter p = firsts seen (ks.filter p) := by
  induction ks generalizing seen with
  | nil => rfl
  | cons k ks ih =>
    by_cases kept : p k
    · by_cases old : k ∈ seen <;> simp [firsts, old, kept, ih]
    · have dropped : firsts (k :: seen) (ks.filter p) = firsts seen (ks.filter p) := by
        refine firsts_congr fun x member => ?_
        have other : x ≠ k := fun same => kept (same ▸ (List.mem_filter.mp member).2)
        simp [other]
      by_cases old : k ∈ seen <;> simp [firsts, old, kept, ih, dropped]

/-- The first mentions are what is left when repetitions are erased. -/
theorem firsts_eq_eraseDups (seen ks : List κ) :
    firsts seen ks = (ks.filter (· ∉ seen)).eraseDups := by
  induction ks generalizing seen with
  | nil => rfl
  | cons k ks ih =>
    by_cases old : k ∈ seen
    · rw [firsts, if_pos old, ih, List.filter_cons_of_neg (by simpa using old)]
    · rw [firsts, if_neg old, ih, List.filter_cons_of_pos (by simpa using old),
        List.eraseDups_cons, List.filter_filter]
      congr 3
      funext x
      simp [not_or, beq_eq_decide]

theorem nodup_eraseDups (ks : List κ) : ks.eraseDups.Nodup := by
  have firsts := firsts_eq_eraseDups [] ks
  rw [List.filter_eq_self.mpr (by simp)] at firsts
  exact firsts ▸ nodup_firsts [] ks

end Firsts

section Create

theorem nodup_create (running wanted : List κ) : (between running wanted).create.Nodup :=
  (nodup_firsts [] wanted).filter _

/-- What is to be opened depends on the wanted entries alone that do not run. -/
theorem create_eq : (between running wanted).create = firsts [] (wanted.filter (· ∉ running)) :=
  filter_firsts _ _ _

theorem create_eq_eraseDups :
    (between running wanted).create = (wanted.filter (· ∉ running)).eraseDups := by
  simp [create_eq, firsts_eq_eraseDups]

/-- What is wanted last is compared with what runs and with what was wanted before. -/
theorem create_append (running wanted more : List κ) :
    (between running (wanted ++ more)).create =
      (between running wanted).create ++ (between (running ++ wanted) more).create := by
  have fresh : (more.filter (· ∉ running)).removeAll (wanted.filter (· ∉ running)) =
      more.filter (· ∉ running ++ wanted) := by
    rw [List.removeAll, List.filter_filter]
    refine List.filter_congr fun k _ => ?_
    by_cases ran : k ∈ running <;> simp [ran]
  rw [create_eq_eraseDups, List.filter_append, List.eraseDups_append, fresh,
    ← create_eq_eraseDups, ← create_eq_eraseDups]

theorem create_singleton (running : List κ) (k : κ) :
    (between running [k]).create = if k ∈ running then [] else [k] := by
  by_cases ran : k ∈ running <;> simp [between, firsts, ran]

/-- One more wanted entry is to be opened unless it runs or was wanted before. -/
theorem create_concat (running wanted : List κ) (k : κ) :
    (between running (wanted ++ [k])).create =
      (between running wanted).create ++ if k ∈ running ++ wanted then [] else [k] := by
  rw [create_append, create_singleton]

/-- What is to be opened stands in the order in which it is first wanted. -/
theorem create_in_order (running wanted : List κ) :
    (between running wanted).create.Pairwise fun a b => wanted.idxOf a < wanted.idxOf b := by
  -- On the last wanted entry: it changes no earlier place, and comes behind them all.
  induction wanted using List.reverseRecOn with
  | nil => exact List.Pairwise.nil
  | append_singleton wanted k ih =>
    have place : ∀ a ∈ (between running wanted).create,
        (wanted ++ [k]).idxOf a = wanted.idxOf a :=
      fun a listed => List.idxOf_append_of_mem (mem_create.mp listed).1
    have earlier : (between running wanted).create.Pairwise fun a b =>
        (wanted ++ [k]).idxOf a < (wanted ++ [k]).idxOf b :=
      ih.imp_of_mem fun here there below => by rwa [place _ here, place _ there]
    rw [create_concat]
    split
    case isTrue => rwa [List.append_nil]
    case isFalse fresh =>
      refine List.pairwise_append.mpr ⟨earlier, List.pairwise_singleton _ _, ?_⟩
      intro a listed b last
      rw [List.mem_singleton.mp last]
      have bound : wanted.idxOf a < wanted.length :=
        List.idxOf_lt_length_of_mem (mem_create.mp listed).1
      have unmet : k ∉ wanted := fun met => fresh (List.mem_append_right running met)
      rw [place a listed, List.idxOf_append_of_notMem unmet]
      exact Nat.lt_add_right _ bound

end Create

section Close

/-- If all that runs is wanted, nothing is to be closed. -/
theorem close_eq_nil (all : ∀ k ∈ running, k ∈ wanted) : (between running wanted).close = [] :=
  List.filter_eq_nil_iff.mpr fun k runs => by simpa using all k runs

/-- What is not wanted is to be closed as often as it runs. -/
theorem count_close (running wanted : List κ) (k : κ) :
    (between running wanted).close.count k = if k ∈ wanted then 0 else running.count k := by
  split
  case isTrue desired =>
    exact List.count_eq_zero.mpr fun listed => (mem_close.mp listed).2 desired
  case isFalse unwanted => exact List.count_filter (by simpa using unwanted)

end Close

/-- A plan is the difference of two lists, each in its order: what runs and is not wanted, as often
as it runs, and what is wanted and does not run, where it is first wanted. -/
structure Difference (running wanted : List κ) (p : Plan κ) : Prop where
  close_sublist : p.close.Sublist running
  close_count : ∀ k, p.close.count k = if k ∈ wanted then 0 else running.count k
  create_mem : ∀ k, k ∈ p.create ↔ k ∈ wanted ∧ k ∉ running
  create_first : p.create.Pairwise fun a b => wanted.idxOf a < wanted.idxOf b

theorem difference_between (running wanted : List κ) :
    Difference running wanted (between running wanted) where
  close_sublist := List.filter_sublist
  close_count := count_close running wanted
  create_mem _ := mem_create
  create_first := create_in_order running wanted

namespace Difference

variable {p : Plan κ}

theorem close_eq (d : Difference running wanted p) : p.close = (between running wanted).close := by
  have unwanted : p.close.filter (· ∉ wanted) = p.close := by
    refine List.filter_eq_self.mpr fun k listed => ?_
    have often : p.close.count k ≠ 0 := (List.count_pos_iff.mpr listed).ne'
    rw [d.close_count] at often
    simpa using fun desired => often (if_pos desired)
  have sub : p.close.Sublist (between running wanted).close :=
    unwanted ▸ d.close_sublist.filter (· ∉ wanted)
  have perm : p.close.Perm (between running wanted).close :=
    List.perm_iff_count.mpr fun k => (d.close_count k).trans (count_close running wanted k).symm
  exact sub.eq_of_length perm.length_eq

theorem create_eq (d : Difference running wanted p) :
    p.create = (between running wanted).create := by
  have irrefl : Std.Irrefl fun a b : κ => wanted.idxOf a < wanted.idxOf b :=
    ⟨fun _ => Nat.lt_irrefl _⟩
  have antisymm : Std.Antisymm fun a b : κ => wanted.idxOf a < wanted.idxOf b :=
    ⟨fun _ _ below above => absurd above (Nat.lt_asymm below)⟩
  exact d.create_first.eq_of_mem_iff (create_in_order running wanted) fun k =>
    (d.create_mem k).trans mem_create.symm

end Difference

theorem difference_iff {p : Plan κ} : Difference running wanted p ↔ p = between running wanted := by
  constructor
  · exact fun d => congrArg₂ Plan.mk d.close_eq d.create_eq
  · rintro rfl
    exact difference_between running wanted

section Converging

/-- The keys that are left when a plan is carried out. -/
def carriedOut (p : Plan κ) (keys : Finset κ) : Finset κ :=
  (keys \ p.close.toFinset) ∪ p.create.toFinset

theorem carriedOut_between (running wanted : List κ) :
    (between running wanted).carriedOut running.toFinset = wanted.toFinset := by
  ext k
  simp only [carriedOut, Finset.mem_union, Finset.mem_sdiff, List.mem_toFinset, mem_close,
    mem_create]
  grind

omit [DecidableEq κ] in
theorem isEmpty_iff {p : Plan κ} : p.isEmpty = true ↔ p.close = [] ∧ p.create = [] := by
  simp [isEmpty]

omit [DecidableEq κ] in
theorem size_eq_zero_iff {p : Plan κ} : p.size = 0 ↔ p.isEmpty = true := by
  simp [size, isEmpty_iff]

/-- Nothing is to be done just if the same keys run and are wanted. -/
theorem isEmpty_between_iff :
    (between running wanted).isEmpty = true ↔ running.toFinset = wanted.toFinset := by
  rw [isEmpty_iff, List.eq_nil_iff_forall_not_mem, List.eq_nil_iff_forall_not_mem, Finset.ext_iff]
  simp only [mem_close, mem_create, List.mem_toFinset]
  grind

end Converging

/-- The plan between two lists is their difference, and no other plan is: it closes what runs and is
not wanted, in running order and as often as it runs, and creates what is wanted and does not run,
once each, in the order of first mention. Nothing is in both parts, nor is what both lists have in
common in either. Carried out, the plan leaves the wanted keys. After that nothing is to be done,
in whatever order and however often these keys are then listed on either side. -/
theorem between_is_difference (running wanted : List κ) :
    (∀ p, Difference running wanted p ↔ p = between running wanted) ∧
    (between running wanted).create.Nodup ∧
    (between running wanted).close.Disjoint (between running wanted).create ∧
    ((between running wanted).close ++ (between running wanted).create).Disjoint
      (running ∩ wanted) ∧
    (between running wanted).carriedOut running.toFinset = wanted.toFinset ∧
    ∀ after again : List κ,
      after.toFinset = (between running wanted).carriedOut running.toFinset →
      again.toFinset = wanted.toFinset →
      (between after again).isEmpty = true ∧ (between after again).size = 0 := by
  have carried := carriedOut_between running wanted
  refine ⟨fun p => difference_iff, nodup_create running wanted, ?apart, ?common, carried, ?again⟩
  case apart =>
    intro k closed created
    exact (mem_close.mp closed).2 (mem_create.mp created).1
  case common =>
    intro k planned shared
    obtain ⟨runs, desired⟩ := List.mem_inter_iff.mp shared
    rcases List.mem_append.mp planned with closed | created
    · exact (mem_close.mp closed).2 desired
    · exact (mem_create.mp created).2 runs
  case again =>
    intro after again left same
    have converged : (between after again).isEmpty = true :=
      isEmpty_between_iff.mpr (left.trans (carried.trans same.symm))
    exact ⟨converged, size_eq_zero_iff.mpr converged⟩

/-- A key that runs twice is closed twice, one that is wanted twice is created once. -/
example : between [1, 2, 1, 3] [5, 2, 4, 5] = ⟨[1, 1, 3], [5, 4]⟩ := by
  decide

end LocalProxy.Plan
