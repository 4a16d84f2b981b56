import LocalProxy.Proofs.Traffic.Accounts
import Mathlib.Data.List.Induction
import Mathlib.Data.List.Pairwise

/-! Which of the tracked connections are listed and can be closed. An identifier stands for the
guard that was given for it last, and for none once any guard given for it is dropped. A connection
is shown just while its identifier stands for its own guard, so that all of them always are just if
no identifier is given while a guard of it is held. Main statement: `stays_shown_iff`. -/
namespace LocalProxy.Statistics

deriving instance DecidableEq for Deed

/-- The guard that an identifier stands for. -/
def standsFor (id : Uuid) : List Deed → Option Nat
  | [] => none
  | .tracked guard given :: past => if given = id then some guard else standsFor id past
  | .dropped guard :: past => if .tracked guard id ∈ past then none else standsFor id past
  | _ :: past => standsFor id past

/-- A connection has an entry of its own, and closing its identifier signals it and no other. -/
structure Shown (s : Statistics) (t : Tracker) : Prop where
  listed : t ∈ s.connections
  closes : s.close t.id = (true, s.signal t.guard)
  signalled : (s.close t.id).2.isClosing t.guard = true

/-- The guards that are held, each with the identifier it was given for. -/
def names (s : Statistics) : List (Nat × Uuid) := s.held.map fun t => (t.guard, t.id)

variable {s s' : Statistics} {past : List Deed}

theorem mem_names {guard : Nat} {id : Uuid} :
    (guard, id) ∈ s.names ↔ ∃ t ∈ s.held, t.guard = guard ∧ t.id = id := by
  simp [names]

/-- Where an update leaves a tracker its guard and its identifier, no name changes. -/
theorem names_update (s : Statistics) (guard : Nat) {f : Tracker → Tracker}
    (same : ∀ t, (f t).guard = t.guard ∧ (f t).id = t.id) : (s.update guard f).names = s.names := by
  simp only [names, update, List.map_map]
  refine List.map_congr_left fun t _ => ?_
  simp only [Function.comp_apply]
  split
  · rw [(same t).1, (same t).2]
  · rfl

/-- The list is as it was, and so are the names. -/
structure SameNames (s s' : Statistics) : Prop where
  listed : s'.listed = s.listed
  names : s'.names = s.names

namespace SameNames

theorem refl (s : Statistics) : SameNames s s := ⟨rfl, rfl⟩

theorem trans {s'' : Statistics} (first : SameNames s s') (second : SameNames s' s'') :
    SameNames s s'' :=
  ⟨second.listed.trans first.listed, second.names.trans first.names⟩

theorem signal (s : Statistics) (guard : Nat) : SameNames s (s.signal guard) :=
  ⟨rfl, names_update s guard fun _ => ⟨rfl, rfl⟩⟩

theorem add (s : Statistics) (way : Direction) (guard : Nat) (n : UInt64) :
    SameNames s (s.add way guard n) := by
  cases way <;> exact ⟨rfl, names_update s guard fun _ => ⟨rfl, rfl⟩⟩

theorem close (s : Statistics) (id : Uuid) : SameNames s (s.close id).2 := by
  unfold Statistics.close
  cases s.listed.lookup id with
  | none => exact refl s
  | some guard => exact signal s guard

theorem closeAll (s : Statistics) : SameNames s s.closeAll.2 := by
  suffices all : ∀ (entries : List (Uuid × Nat)) (s : Statistics),
      SameNames s (entries.foldl (fun s e => s.signal e.2) s) from all s.listed s
  intro entries
  induction entries with
  | nil => exact refl
  | cons e rest ih => exact fun s => (signal s e.2).trans (ih _)

end SameNames

/-- What an act does to the names and the list: it gives a guard, drops one, or leaves them as they
are. -/
inductive Change (s : Statistics) : Act → Deed → Statistics → Prop
  | tracked (id : Uuid) (metadata : Metadata) (chains : List String) (rule start : String) :
      Change s (.track id metadata chains rule start) (.tracked s.nextGuard id)
        (s.track id metadata chains rule start).2
  | dropped {guard : Nat} {t : Tracker} (found : s.tracker? guard = some t) :
      Change s (.drop guard) (.dropped guard) (s.drop guard)
  | none {act : Act} {x : Deed} {s' : Statistics}
      (idle : ∀ id past, standsFor id (x :: past) = standsFor id past) (same : SameNames s s') :
      Change s act x s'

theorem act?_change {act : Act} {x : Deed} (done : s.act? act = some (x, s')) :
    Change s act x s' := by
  cases act with
  | track id metadata chains rule start =>
    cases done
    exact .tracked id metadata chains rule start
  | add way guard bytes =>
    simp only [act?, Option.ite_none_left_eq_some] at done
    obtain ⟨-, ⟨⟩⟩ := done
    exact .none (fun _ _ => rfl) (.add s way guard bytes)
  | drop guard =>
    simp only [act?, Option.ite_none_left_eq_some, Option.isNone_iff_eq_none] at done
    obtain ⟨holds, ⟨⟩⟩ := done
    obtain ⟨t, found⟩ := Option.ne_none_iff_exists'.mp holds
    exact .dropped found
  | close id =>
    cases done
    exact .none (fun _ _ => rfl) (.close s id)
  | closeAll =>
    cases done
    exact .none (fun _ _ => rfl) (.closeAll s)
  | look =>
    cases done
    exact .none (fun _ _ => rfl) (.refl s)
  | tick =>
    cases done
    exact .none (fun _ _ => rfl) ⟨rfl, rfl⟩

/-- A connection that has its name from before. -/
theorem SameNames.before (same : SameNames s s') {t : Tracker} (held : t ∈ s'.held) :
    ∃ u ∈ s.held, u.guard = t.guard ∧ u.id = t.id :=
  mem_names.mp (same.names ▸ mem_names.mpr ⟨t, held, rfl, rfl⟩)

/-- The guard of a connection finds it. -/
theorem tracker?_guard (once : (s.held.map (·.guard)).Nodup) {t : Tracker} (held : t ∈ s.held) :
    s.tracker? t.guard = some t := by
  cases found : s.tracker? t.guard with
  | none => simpa using List.find?_eq_none.mp found t held
  | some u =>
    have same : u.guard = t.guard := by simpa using List.find?_some found
    rw [List.inj_on_of_nodup_map once (List.mem_of_find?_eq_some found) held same]

theorem isClosing_signal (once : (s.held.map (·.guard)).Nodup) {t : Tracker} (held : t ∈ s.held) :
    (s.signal t.guard).isClosing t.guard = true := by
  have guards : (s.signal t.guard).held.map (·.guard) = s.held.map (·.guard) :=
    guards_update s t.guard fun _ => rfl
  have there : { t with closing := true } ∈ (s.signal t.guard).held :=
    List.mem_map.mpr ⟨t, held, if_pos rfl⟩
  rw [isClosing, tracker?_guard (guards ▸ once) there]
  rfl

/-- No guard is given twice, so each was given for one identifier. -/
theorem Numbered.given_unique (n : Numbered s past) {guard : Nat} {id other : Uuid}
    (first : .tracked guard id ∈ past) (second : .tracked guard other ∈ past) : id = other := by
  have once : (guards past).Nodup := by
    rw [n.given]
    exact List.nodup_reverse.mpr List.nodup_range
  have apart := List.pairwise_filterMap.mp once
  have : Std.Symm fun x y : Deed =>
      ∀ g, x.guard? = some g → ∀ g', y.guard? = some g' → g ≠ g' :=
    ⟨fun _ _ apart g here g' there => (apart g' there g here).symm⟩
  by_contra differ
  exact apart.forall first second (by simpa using differ) guard rfl guard rfl rfl

/-- The entries of the list, given what was done. -/
structure Filed (s : Statistics) (past : List Deed) : Prop where
  entries : ∀ id guard, (id, guard) ∈ s.listed ↔ standsFor id past = some guard
  given : ∀ t ∈ s.held, .tracked t.guard t.id ∈ past
  held : ∀ id guard, standsFor id past = some guard → (guard, id) ∈ s.names

namespace Filed

theorem empty : Filed .empty [] where
  entries := by simp [Statistics.empty, standsFor]
  given := by simp [Statistics.empty]
  held := by simp [standsFor]

theorem track (f : Filed s past) (id : Uuid) (metadata : Metadata) (chains : List String)
    (rule start : String) :
    Filed (s.track id metadata chains rule start).2 (.tracked s.nextGuard id :: past) where
  entries i guard := by
    by_cases same : id = i
    · subst same
      simp [Statistics.track, standsFor, eq_comm]
    · simp [Statistics.track, standsFor, same, Ne.symm same, f.entries]
  given t held := by
    rcases List.mem_append.mp held with held | new
    · exact List.mem_cons_of_mem _ (f.given t held)
    · rw [List.mem_singleton.mp new]
      exact List.mem_cons_self
  held i guard stands := by
    have names : (s.track id metadata chains rule start).2.names =
        s.names ++ [(s.nextGuard, id)] := by
      simp [Statistics.names, Statistics.track]
    rw [names, List.mem_append, List.mem_singleton]
    rw [standsFor] at stands
    split at stands
    · rename_i same
      exact .inr (by rw [← same, Option.some.inj stands])
    · exact .inl (f.held i guard stands)

/-- A guard that is dropped takes the entry of its identifier with it, whosever that is. -/
theorem drop (f : Filed s past) (n : Numbered s past) {guard : Nat} {t : Tracker}
    (found : s.tracker? guard = some t) : Filed (s.drop guard) (.dropped guard :: past) := by
  have there : t ∈ s.held := List.mem_of_find?_eq_some found
  have own : t.guard = guard := by simpa using List.find?_some found
  have dropped : s.drop guard = { s with
      held := s.held.filter (·.guard ≠ guard)
      listed := s.listed.filter (·.1 ≠ t.id) } := by
    simp only [Statistics.drop, found]
  have stands : ∀ i, standsFor i (.dropped guard :: past) =
      if i = t.id then none else standsFor i past := by
    intro i
    have named : .tracked guard i ∈ past ↔ i = t.id := by
      constructor
      · exact fun given => n.given_unique given (own ▸ f.given t there)
      · rintro rfl
        exact own ▸ f.given t there
    simp only [standsFor, named]
  constructor
  case entries =>
    intro i g
    rw [dropped, stands]
    by_cases same : i = t.id <;> simp [same, f.entries]
  case given =>
    intro u held
    rw [dropped] at held
    exact List.mem_cons_of_mem _ (f.given u (List.mem_of_mem_filter held))
  case held =>
    intro i g stood
    rw [stands, Option.ite_none_left_eq_some] at stood
    obtain ⟨u, held, rfl, rfl⟩ := mem_names.mp (f.held i g stood.2)
    -- The guard that is dropped has another identifier, so it is another one.
    have other : u.guard ≠ guard := by
      rintro rfl
      have same := tracker?_guard n.held held
      rw [found] at same
      exact stood.1 (congrArg Tracker.id (Option.some.inj same.symm))
    rw [mem_names, dropped]
    exact ⟨u, List.mem_filter.mpr ⟨held, by simpa using other⟩, rfl, rfl⟩

/-- Each act keeps the list filed. -/
theorem change (f : Filed s past) (n : Numbered s past) {act : Act} {x : Deed}
    (change : Change s act x s') : Filed s' (x :: past) := by
  cases change with
  | tracked id metadata chains rule start => exact f.track id metadata chains rule start
  | dropped found => exact f.drop n found
  | none idle same =>
    constructor
    case entries =>
      intro id guard
      rw [same.listed, idle, f.entries]
    case given =>
      intro t held
      obtain ⟨u, before, guard, id⟩ := same.before held
      rw [← guard, ← id]
      exact List.mem_cons_of_mem _ (f.given u before)
    case held =>
      intro id guard stands
      rw [same.names]
      exact f.held id guard (idle id past ▸ stands)

/-- What closing an identifier finds. -/
theorem lookup (f : Filed s past) (id : Uuid) : s.listed.lookup id = standsFor id past := by
  have found : ∀ guard, s.listed.lookup id = some guard → standsFor id past = some guard := by
    intro guard looked
    obtain ⟨front, rest, split, -⟩ := List.lookup_eq_some_iff.mp looked
    exact (f.entries id guard).mp (split ▸ List.mem_append_right front List.mem_cons_self)
  refine Option.ext fun guard => ⟨found guard, fun stands => ?_⟩
  have entry : (id, guard) ∈ s.listed := (f.entries id guard).mpr stands
  obtain ⟨other, looked⟩ := Option.isSome_iff_exists.mp
    (List.lookup_isSome_iff.mpr ⟨_, entry, beq_self_eq_true id⟩)
  rw [looked, ← found other looked, stands]

/-- A close finds the connection that the identifier stands for, and signals it. -/
theorem close_eq (f : Filed s past) (id : Uuid) : s.close id = match standsFor id past with
    | some guard => (true, s.signal guard)
    | none => (false, s) := by
  unfold close
  cases stands : standsFor id past <;> rw [f.lookup, stands]

theorem mem_connections (f : Filed s past) (n : Numbered s past) {t : Tracker} :
    t ∈ s.connections ↔ t ∈ s.held ∧ standsFor t.id past = some t.guard := by
  constructor
  · intro listed
    obtain ⟨⟨id, guard⟩, entry, found⟩ := List.mem_filterMap.mp listed
    have held : t ∈ s.held := List.mem_of_find?_eq_some found
    have own : t.guard = guard := by simpa using List.find?_some found
    have stands := (f.entries id guard).mp entry
    obtain ⟨u, there, same, named⟩ := mem_names.mp (f.held id guard stands)
    have one : u = t := by
      have looked := tracker?_guard n.held there
      rw [same] at looked
      exact Option.some.inj (looked.symm.trans found)
    rw [← one, named, same]
    exact ⟨there, stands⟩
  · rintro ⟨held, stands⟩
    exact List.mem_filterMap.mpr
      ⟨(t.id, t.guard), (f.entries _ _).mpr stands, tracker?_guard n.held held⟩

/-- A connection is shown while its identifier stands for it. -/
theorem shown_iff (f : Filed s past) (n : Numbered s past) {t : Tracker} (held : t ∈ s.held) :
    Shown s t ↔ standsFor t.id past = some t.guard := by
  constructor
  · intro shown
    exact ((f.mem_connections n).mp shown.listed).2
  · intro stands
    have closed : s.close t.id = (true, s.signal t.guard) := by rw [f.close_eq, stands]
    exact ⟨(f.mem_connections n).mpr ⟨held, stands⟩, closed,
      closed ▸ isClosing_signal n.held held⟩

end Filed

/-- No identifier is given while a guard of it is held. -/
def Unrepeated (acts : List Act) : Prop :=
  ∀ earlier id metadata chains rule start,
    earlier ++ [.track id metadata chains rule start] <+: acts →
    ∀ t ∈ (Course.run {} earlier).statistics.held, t.id ≠ id

/-- Every guard that is held has its identifier to itself. -/
def AllStand (s : Statistics) (past : List Deed) : Prop :=
  ∀ t ∈ s.held, standsFor t.id past = some t.guard

namespace AllStand

theorem drop (stand : AllStand s past) (f : Filed s past) (n : Numbered s past) {guard : Nat}
    {t : Tracker} (found : s.tracker? guard = some t) :
    AllStand (s.drop guard) (.dropped guard :: past) := by
  have there : t ∈ s.held := List.mem_of_find?_eq_some found
  have own : t.guard = guard := by simpa using List.find?_some found
  intro u held
  simp only [Statistics.drop, found, List.mem_filter, decide_eq_true_eq] at held
  obtain ⟨held, other⟩ := held
  have apart : .tracked guard u.id ∉ past := by
    intro given
    have same : t.id = u.id := n.given_unique (own ▸ f.given t there) given
    have one : some t.guard = some u.guard := by rw [← stand t there, ← stand u held, same]
    exact other ((Option.some.inj one).symm.trans own)
  rw [standsFor, if_neg apart]
  exact stand u held

theorem change (stand : AllStand s past) (f : Filed s past) (n : Numbered s past) {act : Act}
    {x : Deed} (change : Change s act x s')
    (fresh : ∀ id metadata chains rule start, act = .track id metadata chains rule start →
      ∀ t ∈ s.held, t.id ≠ id) : AllStand s' (x :: past) := by
  cases change with
  | tracked id metadata chains rule start =>
    intro t held
    rcases List.mem_append.mp held with held | new
    · rw [standsFor, if_neg (fresh id metadata chains rule start rfl t held).symm]
      exact stand t held
    · rw [List.mem_singleton.mp new]
      exact if_pos rfl
  | dropped found => exact stand.drop f n found
  | none idle same =>
    intro t held
    obtain ⟨u, before, guard, id⟩ := same.before held
    rw [idle, ← guard, ← id]
    exact stand u before

end AllStand

theorem Course.run_concat (acts : List Act) (act : Act) :
    Course.run {} (acts ++ [act]) = (Course.run {} acts).step act := by
  simp [Course.run]

theorem Course.filed (acts : List Act) :
    Balanced (Course.run {} acts).statistics (Course.run {} acts).past ∧
      Filed (Course.run {} acts).statistics (Course.run {} acts).past := by
  refine ⟨balanced_of_run (c := {}) .empty acts, ?_⟩
  induction acts using List.reverseRecOn with
  | nil => exact .empty
  | append_singleton acts act ih =>
    rw [run_concat, step]
    cases done : (Course.run {} acts).statistics.act? act with
    | none => exact ih
    | some outcome =>
      exact ih.change (balanced_of_run (c := {}) .empty acts).numbered (act?_change done)

theorem Course.allStand {acts : List Act} (unrepeated : Unrepeated acts) :
    AllStand (Course.run {} acts).statistics (Course.run {} acts).past := by
  induction acts using List.reverseRecOn with
  | nil => simp [AllStand, Course.run, empty]
  | append_singleton acts act ih =>
    have before := ih fun earlier id metadata chains rule start front =>
      unrepeated earlier id metadata chains rule start (front.trans (List.prefix_append _ _))
    have fresh : ∀ id metadata chains rule start, act = .track id metadata chains rule start →
        ∀ t ∈ (Course.run {} acts).statistics.held, t.id ≠ id := by
      rintro id metadata chains rule start rfl
      exact unrepeated acts id metadata chains rule start (List.prefix_refl _)
    obtain ⟨balanced, filed⟩ := Course.filed acts
    rw [run_concat, step]
    cases done : (Course.run {} acts).statistics.act? act with
    | none => exact before
    | some outcome => exact before.change filed balanced.numbered (act?_change done) fresh

/-- An identifier that is given anew no longer stands for the guard that it was given for. -/
theorem not_shown_of_repeated {acts : List Act} {t : Tracker}
    (held : t ∈ (Course.run {} acts).statistics.held) (metadata : Metadata) (chains : List String)
    (rule start : String) :
    let c := Course.run {} (acts ++ [.track t.id metadata chains rule start])
    t ∈ c.statistics.held ∧ ¬ Shown c.statistics t := by
  intro c
  obtain ⟨before, -⟩ := Course.filed acts
  obtain ⟨balanced, filed⟩ := Course.filed (acts ++ [.track t.id metadata chains rule start])
  have run : c = (Course.run {} acts).step (.track t.id metadata chains rule start) :=
    Course.run_concat acts _
  have still : t ∈ c.statistics.held := run ▸ List.mem_append_left _ held
  have stands : standsFor t.id c.past = some (Course.run {} acts).statistics.nextGuard := by
    rw [run]
    exact if_pos rfl
  refine ⟨still, fun shown => ?_⟩
  have own := (filed.shown_iff balanced.numbered still).mp shown
  have below := before.numbered.below t.guard (List.mem_map_of_mem held)
  exact Nat.ne_of_gt below (Option.some.inj (stands.symm.trans own))

/-- Whatever is done, an identifier is listed, and a close finds it, just while it stands for a
guard; and a connection is shown just while its identifier stands for its own guard. All of them
are at all times just if no identifier is given while a guard of it is held. -/
theorem stays_shown_iff (acts : List Act) :
    let c := Course.run {} acts
    (∀ id, ((∃ t ∈ c.statistics.connections, t.id = id) ↔ (standsFor id c.past).isSome) ∧
      (c.statistics.close id).1 = (standsFor id c.past).isSome) ∧
    (∀ t ∈ c.statistics.held,
      Shown c.statistics t ↔ standsFor t.id c.past = some t.guard) ∧
    ((∀ earlier, earlier <+: acts → ∀ t ∈ (Course.run {} earlier).statistics.held,
      Shown (Course.run {} earlier).statistics t) ↔ Unrepeated acts) := by
  intro c
  obtain ⟨balanced, filed⟩ := Course.filed acts
  refine ⟨fun id => ⟨?_, ?_⟩, fun t held => filed.shown_iff balanced.numbered held, ?_, ?_⟩
  · constructor
    · rintro ⟨t, listed, rfl⟩
      exact Option.isSome_of_mem ((filed.mem_connections balanced.numbered).mp listed).2
    · intro stands
      obtain ⟨guard, stands⟩ := Option.isSome_iff_exists.mp stands
      obtain ⟨t, held, rfl, rfl⟩ := mem_names.mp (filed.held id guard stands)
      exact ⟨t, (filed.mem_connections balanced.numbered).mpr ⟨held, stands⟩, rfl⟩
  · rw [filed.close_eq]
    cases standsFor id c.past <;> rfl
  · intro shown earlier id metadata chains rule start front t held repeated
    obtain rfl := repeated
    obtain ⟨still, hidden⟩ := not_shown_of_repeated held metadata chains rule start
    exact hidden (shown _ front t still)
  · intro unrepeated earlier front t held
    obtain ⟨balanced, filed⟩ := Course.filed earlier
    refine (filed.shown_iff balanced.numbered held).mpr (Course.allStand ?_ t held)
    exact fun before id metadata chains rule start within =>
      unrepeated before id metadata chains rule start (within.trans front)

/-- Two connections under one identifier, of which the older one ends. -/
def sharedId : List Act :=
  let m : Metadata := ⟨.tcp, .inbound .socks, .v4 .loopback 50000, none, none⟩
  [.track ⟨1⟩ m [] "" "", .track ⟨1⟩ m [] "" "", .drop 0]

/-- The newer one is still there, but it is neither listed nor can it be closed. -/
theorem older_drop_unlists_newer :
    let s := (Course.run {} sharedId).statistics
    ∃ t ∈ s.held, (∀ u ∈ s.connections, u.id ≠ t.id) ∧ (s.close t.id).1 = false := by
  decide

end LocalProxy.Statistics
