import LocalProxy.Proofs.Traffic.Listing

/-! The life of one guard among the others. Whoever holds it counts through it and drops it at the
end; what is done elsewhere changes neither what it has counted nor that it is held, and asks it to
close only by its identifier or with all the others. -/
namespace LocalProxy.Statistics

/-- The act asks whatever is listed under the identifier to close. -/
def Act.requests (id : Uuid) : Act → Bool
  | close i => i == id
  | closeAll => true
  | _ => false

/-- What was done without a guard. -/
def apart (guard : Nat) (past : List Deed) : List Deed := past.filter (!·.through guard)

/-- A connection under a guard was not asked to close. -/
def Unasked (s : Statistics) (guard : Nat) : Prop :=
  ∀ t ∈ s.held, t.guard = guard → t.closing = false

variable {s : Statistics} {guard : Nat} {id : Uuid} {way : Direction} {past : List Deed} {act : Act}

/-- What was counted went through the guard or did not. -/
theorem total_eq (way : Direction) (guard : Nat) (past : List Deed) :
    total way past = share way guard past + total way (apart guard past) := by
  induction past with
  | nil => rfl
  | cons x past ih =>
    rw [total_cons, share_cons, ih]
    by_cases through : x.through guard
    · simp [apart, through, Nat.add_assoc]
    · simp only [apart, through, List.filter_cons, Bool.not_false, if_true, total_cons]
      simp only [Bool.false_eq_true, if_false]
      omega

theorem total_append (way : Direction) (late early : List Deed) :
    total way (late ++ early) = total way late + total way early := by
  induction late with
  | nil => exact (Nat.zero_add _).symm
  | cons x late ih => rw [List.cons_append, total_cons, total_cons, ih, Nat.add_assoc]

/-- The next guard was not used yet. -/
theorem Numbered.unused (n : Numbered s past) : ∀ x ∈ past, x.through s.nextGuard = false :=
  fun x member => Bool.eq_false_iff.mpr fun through =>
    absurd (n.used x member _ through) (Nat.lt_irrefl _)

theorem names_functional (n : Numbered s past) {other : Uuid} (first : (guard, id) ∈ s.names)
    (second : (guard, other) ∈ s.names) : id = other := by
  obtain ⟨t, held, same, rfl⟩ := mem_names.mp first
  obtain ⟨u, held', same', rfl⟩ := mem_names.mp second
  rw [List.inj_on_of_nodup_map n.held held held' (same.trans same'.symm)]

theorem Unasked.not_closing (unasked : s.Unasked guard) : s.isClosing guard = false := by
  cases found : s.tracker? guard with
  | none => simp [isClosing, found]
  | some t =>
    have own : t.guard = guard := by simpa using List.find?_some found
    simp [isClosing, found, unasked t (List.mem_of_find?_eq_some found) own]

/-- An update that asks nobody, or somebody else. -/
theorem Unasked.update (unasked : s.Unasked guard) (g : Nat) {f : Tracker → Tracker}
    (same : ∀ t, (f t).guard = t.guard) (quiet : g = guard → ∀ t, (f t).closing = t.closing) :
    (s.update g f).Unasked guard := by
  intro t' held own
  obtain ⟨t, before, rfl⟩ := List.mem_map.mp held
  by_cases here : t.guard = g
  · rw [if_pos here] at own ⊢
    have its : t.guard = guard := (same t).symm.trans own
    rw [quiet (here.symm.trans its)]
    exact unasked t before its
  · rw [if_neg here] at own ⊢
    exact unasked t before own

theorem names_track (s : Statistics) (id : Uuid) (metadata : Metadata) (chains : List String)
    (rule start : String) :
    (s.track id metadata chains rule start).2.names = s.names ++ [(s.nextGuard, id)] := by
  simp [names, track]

theorem mem_names_drop {g : Nat} :
    (guard, id) ∈ (s.drop g).names ↔ (guard, id) ∈ s.names ∧ guard ≠ g := by
  cases found : s.tracker? g with
  | none =>
    simp only [drop, found]
    refine (and_iff_left_of_imp fun name same => ?_).symm
    obtain ⟨t, held, own, -⟩ := mem_names.mp name
    exact absurd (own.trans same) (by simpa using List.find?_eq_none.mp found t held)
  | some t =>
    simp only [drop, found, mem_names, List.mem_filter, decide_eq_true_eq]
    grind

theorem held_drop (s : Statistics) (guard : Nat) : (s.drop guard).held ⊆ s.held := by
  unfold drop
  cases s.tracker? guard with
  | none => exact List.Subset.refl _
  | some t => exact fun _ => List.mem_of_mem_filter

theorem tracker?_of_name (name : (guard, id) ∈ s.names) : s.tracker? guard ≠ none := by
  obtain ⟨t, held, own, -⟩ := mem_names.mp name
  intro none_found
  exact absurd own (by simpa using List.find?_eq_none.mp none_found t held)

namespace Course

variable {c : Course}

/-- A step changes nothing, or is done. -/
theorem step_change (c : Course) (act : Act) :
    c.step act = c ∨ ∃ x s', Change c.statistics act x s' ∧ c.step act = ⟨s', x :: c.past⟩ ∧
      c.statistics.act? act = some (x, s') := by
  cases done : c.statistics.act? act with
  | none => exact .inl (by simp [step, done])
  | some outcome => exact .inr ⟨_, _, act?_change done, by simp [step, done], rfl⟩

theorem past_suffix (c : Course) (act : Act) : c.past <:+ (c.step act).past := by
  rcases c.step_change act with same | ⟨x, s', -, done, -⟩
  · exact same.symm ▸ List.suffix_refl c.past
  · rw [done]
    exact List.suffix_cons _ _

/-- Nothing is counted through a guard but by whoever holds it. -/
theorem share_step (c : Course) (other : ∀ way n, act ≠ .add way guard n) (way : Direction) :
    share way guard (c.step act).past = share way guard c.past := by
  rcases c.step_change act with same | ⟨x, s', -, step, done⟩
  · rw [same]
  · have unused : x.through guard = false := by
      cases act with
      | add w g n =>
        simp only [act?, Option.ite_none_left_eq_some] at done
        obtain ⟨-, ⟨⟩⟩ := done
        exact beq_eq_false_iff_ne.mpr fun same => other w n (same ▸ rfl)
      | drop g =>
        simp only [act?, Option.ite_none_left_eq_some] at done
        obtain ⟨-, ⟨⟩⟩ := done
        rfl
      | track | close | closeAll | look | tick =>
        cases done
        rfl
    rw [step, share_cons, unused]
    exact Nat.zero_add _

theorem step_add (name : (guard, id) ∈ c.statistics.names) (way : Direction) (n : UInt64) :
    c.step (.add way guard n) =
      ⟨c.statistics.add way guard n, .added way guard n :: c.past⟩ := by
  have found := tracker?_of_name name
  simp [step, act?, found]

theorem step_dropped (name : (guard, id) ∈ c.statistics.names) :
    c.step (.drop guard) = ⟨c.statistics.drop guard, .dropped guard :: c.past⟩ := by
  have found := tracker?_of_name name
  simp [step, act?, found]

theorem share_add (name : (guard, id) ∈ c.statistics.names) (way w : Direction) (n : UInt64) :
    share w guard (c.step (.add way guard n)).past =
      (if way = w then n.toNat else 0) + share w guard c.past := by
  rw [step_add name, share_cons, Deed.through, beq_self_eq_true, if_pos rfl, Deed.amount]

/-- A guard is held until it is dropped. -/
theorem name_step (name : (guard, id) ∈ c.statistics.names) (kept : act ≠ .drop guard) :
    (guard, id) ∈ (c.step act).statistics.names := by
  rcases c.step_change act with same | ⟨x, s', change, step, -⟩
  · rwa [same]
  rw [step]
  cases change with
  | tracked =>
    rw [names_track]
    exact List.mem_append_left _ name
  | dropped found => exact mem_names_drop.mpr ⟨name, fun same => kept (same ▸ rfl)⟩
  | none _ same => exact same.names ▸ name

/-- A guard that was given and is not held will not be held again. -/
theorem no_name_step (n : Numbered c.statistics c.past) (given : .tracked guard id ∈ c.past)
    (gone : ∀ i, (guard, i) ∉ c.statistics.names) (act : Act) (i : Uuid) :
    (guard, i) ∉ (c.step act).statistics.names := by
  rcases c.step_change act with same | ⟨x, s', change, step, -⟩
  · rw [same]
    exact gone i
  rw [step]
  cases change with
  | tracked =>
    have below : guard < c.statistics.nextGuard := by
      have member : guard ∈ guards c.past := List.mem_filterMap.mpr ⟨_, given, rfl⟩
      rw [n.given] at member
      simpa using member
    rw [names_track, List.mem_append, List.mem_singleton]
    rintro (old | new)
    · exact gone i old
    · exact Nat.ne_of_lt below (Prod.mk.inj new).1
  | dropped found => exact fun name => gone i (mem_names_drop.mp name).1
  | none _ same => exact same.names ▸ gone i

/-- Once a guard is dropped, nothing is listed under its identifier. -/
theorem unlisted_drop (f : Filed c.statistics c.past)
    (f' : Filed (c.step (.drop guard)).statistics (c.step (.drop guard)).past)
    (n' : Numbered (c.step (.drop guard)).statistics (c.step (.drop guard)).past)
    (name : (guard, id) ∈ c.statistics.names) :
    ∀ t ∈ (c.step (.drop guard)).statistics.connections, t.id ≠ id := by
  intro t listed same
  have stands := ((f'.mem_connections n').mp listed).2
  obtain ⟨u, held, own, named⟩ := mem_names.mp name
  have given : .tracked guard t.id ∈ c.past := by
    rw [same, ← own, ← named]
    exact f.given u held
  rw [step_dropped name, standsFor, if_pos given] at stands
  cases stands

/-- Only a request for its identifier, or for all, asks a connection to close. -/
theorem unasked_step (f : Filed c.statistics c.past) (n : Numbered c.statistics c.past)
    (name : (guard, id) ∈ c.statistics.names) (unasked : c.statistics.Unasked guard)
    (unrequested : act.requests id = false) : (c.step act).statistics.Unasked guard := by
  rcases c.step_change act with same | ⟨x, s', -, step, done⟩
  · rwa [same]
  rw [step]
  cases act with
  | track i metadata chains rule start =>
    cases done
    intro t held own
    rcases List.mem_append.mp held with old | new
    · exact unasked t old own
    · rw [List.mem_singleton.mp new]
  | add w g bytes =>
    simp only [act?, Option.ite_none_left_eq_some] at done
    obtain ⟨-, ⟨⟩⟩ := done
    intro t held own
    rw [held_add] at held
    refine unasked.update g (fun t => t.guard_carry bytes w) (fun _ t => ?_) t held own
    cases w <;> rfl
  | drop g =>
    simp only [act?, Option.ite_none_left_eq_some] at done
    obtain ⟨-, ⟨⟩⟩ := done
    exact fun t held => unasked t (held_drop c.statistics g held)
  | close i =>
    cases done
    rw [f.close_eq]
    cases stands : standsFor i c.past with
    | none => exact unasked
    | some g =>
      -- The connection that is asked has another identifier, so it is another one.
      have other : g ≠ guard := by
        rintro rfl
        have same := names_functional n (f.held i g stands) name
        simp [Act.requests, same] at unrequested
      exact unasked.update g (fun _ => rfl) fun same => absurd same other
  | closeAll => cases unrequested
  | look | tick =>
    cases done
    exact unasked

end Course

end LocalProxy.Statistics
