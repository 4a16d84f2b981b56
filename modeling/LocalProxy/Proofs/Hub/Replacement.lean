import LocalProxy.Proofs.Hub.Isolation
import LocalProxy.Proofs.Listening.Trace

/-! Replacing the explicit inbounds by some others. What is listed then are those others that did
not fail, in the order of type and address; and the report accounts for each of them, and for each
one that was listed before. -/
namespace LocalProxy

namespace InboundSpec

/-- The order of explicit inbounds in a listing: by type, then by address. -/
def Before (a b : InboundSpec) : Prop :=
  a.type.rank < b.type.rank ∨ a.type = b.type ∧ a.bindAddress < b.bindAddress

/-- Of two explicit inbounds that differ, the one that is sorted first comes before the other. -/
theorem before_of_cmp {a b : InboundSpec} (sorted : (cmp a b).isLE) (differ : a ≠ b)
    (same : a.legacy = b.legacy) : a.Before b := by
  obtain ⟨types, later⟩ := Ordering.isLE_then_iff_and.mp sorted
  rcases Nat.lt_or_eq_of_le (Nat.isLE_compare.mp types) with less | equal
  · exact .inl less
  rw [equal, Nat.compare_eq_lt] at later
  obtain ⟨addresses, -⟩ := Ordering.isLE_then_iff_and.mp (later.resolve_left (Nat.lt_irrefl _))
  have type : a.type = b.type := InboundType.rank_inj.mp equal
  have apart : a.bindAddress ≠ b.bindAddress := fun address => differ (by cases a; cases b; simp_all)
  have compared : compare a.bindAddress b.bindAddress =
      compareOfLessAndEq a.bindAddress b.bindAddress := rfl
  rw [compared, compareOfLessAndEq, if_neg apart] at addresses
  refine .inr ⟨type, ?_⟩
  by_contra above
  rw [if_neg above] at addresses
  cases addresses

end InboundSpec

namespace Manager

variable {σ : Type} {d : Drivers σ} {m : Manager σ}

/-- The explicit inbounds are listed in order, each once. -/
theorem explicitInbounds_sorted (m : Manager σ) :
    m.explicitInbounds.Pairwise InboundSpec.Before := by
  have sorted : m.inbounds.Pairwise fun a b => (InboundSpec.cmp a b).isLE ∧ a ≠ b :=
    (InboundSpec.sort_sorted _).and m.nodup_inbounds
  rw [explicitInbounds, List.pairwise_filter]
  refine sorted.imp fun {a b} apart own own' => ?_
  have alike : a.legacy = b.legacy := by simp_all
  exact InboundSpec.before_of_cmp apart.1 apart.2 alike

/-- What is listed may be asked for again, and nothing is done. -/
theorem replaceInbounds_own (m : Manager σ) : m.replaceInbounds d m.explicitInbounds = (m, .empty) := by
  have same : ∀ spec, spec ∈ m.inbounds ↔ spec ∈ m.explicitInbounds ++ m.legacyInbounds := by
    intro spec
    rw [List.mem_append, mem_explicitInbounds, mem_legacyInbounds]
    cases spec.legacy <;> simp
  have plan : Plan.between m.inbounds (m.explicitInbounds ++ m.legacyInbounds) = ⟨[], []⟩ := by
    refine congrArg₂ Plan.mk (Plan.close_eq_nil fun spec => (same spec).mp) ?_
    exact List.eq_nil_iff_forall_not_mem.mpr fun spec new =>
      (Plan.mem_create.mp new).2 ((same spec).mpr (Plan.mem_create.mp new).1)
  rw [replaceInbounds, reconcileInbounds, plan]
  rfl

section Replacing

variable {wanted : List InboundSpec} (explicit : ∀ spec ∈ wanted, spec.legacy = false)
include explicit

/-- What is listed then is what is wanted and did not fail. -/
theorem mem_replaced (sole : Sole m.handles) (spec : InboundSpec) :
    spec ∈ (m.replaceInbounds d wanted).1.explicitInbounds ↔
      spec ∈ wanted ∧ spec ∉ (m.replaceInbounds d wanted).2.failed.map Prod.fst := by
  obtain ⟨asked, run⟩ := reconcileInbounds_reconciles (d := d) sole (wanted ++ m.legacyInbounds)
  have failed : spec ∈ (m.replaceInbounds d wanted).2.failed.map Prod.fst ↔
      spec ∈ wanted ++ m.legacyInbounds ∧ spec ∉ (m.replaceInbounds d wanted).1.inbounds := by
    rw [replaceInbounds, run.failed_eq, Plan.mem_firsts, List.mem_filter, decide_eq_true_eq]
    exact and_iff_left List.not_mem_nil
  rw [mem_explicitInbounds, failed, List.mem_append]
  constructor
  · rintro ⟨runs, own⟩
    have asked_for := List.mem_append.mp (run.running_iff.mp runs).1
    refine ⟨asked_for.resolve_right fun legacy => ?_, fun lost => lost.2 runs⟩
    cases own.symm.trans (mem_legacyInbounds.mp legacy).2
  · rintro ⟨asked_for, kept⟩
    refine ⟨?_, explicit spec asked_for⟩
    by_contra idle
    exact kept ⟨.inl asked_for, idle⟩

omit explicit in
/-- What is closed is what was listed and is not wanted. -/
theorem closed_replaced (m : Manager σ) (wanted : List InboundSpec) :
    (m.replaceInbounds d wanted).2.closed = m.explicitInbounds.filter (· ∉ wanted) := by
  rw [replaceInbounds, reconcileInbounds_closed, Plan.between, explicitInbounds,
    List.filter_filter]
  refine List.filter_congr fun spec runs => ?_
  cases legacy : spec.legacy <;> simp [mem_legacyInbounds, runs, legacy]

/-- What is created or fails is what is wanted and was not listed, each of it once. -/
theorem tried_replaced :
    let report := (m.replaceInbounds d wanted).2
    (report.created ++ report.failed.map Prod.fst).Perm
      (wanted.filter (· ∉ m.explicitInbounds)).eraseDups := by
  intro report
  obtain ⟨answers, traced⟩ := exists_traced d m (wanted ++ m.legacyInbounds)
  have listed : m.missing (wanted ++ m.legacyInbounds) =
      (wanted.filter (· ∉ m.explicitInbounds)).eraseDups := by
    have carried : ∀ spec ∈ m.legacyInbounds, spec ∈ m.inbounds := fun _ => List.mem_of_mem_filter
    rw [missing, Plan.Beside.filter (.inl rfl) carried]
    congr 1
    exact List.filter_congr fun spec asked_for => by
      simp [mem_explicitInbounds, explicit spec asked_for]
  rw [← listed]
  exact traced.tried

end Replacing

end Manager

end LocalProxy
