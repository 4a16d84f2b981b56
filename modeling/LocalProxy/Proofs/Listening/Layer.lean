import LocalProxy.Proofs.Listening.Calls

/-! A layer of listeners: keys that each stand for a few slots, and are turned into the wanted
ones by closing, then opening. The inbounds are one layer and the tunnels another. What a
reconciliation of a layer does is said here once for both. -/
namespace LocalProxy

variable {σ κ : Type} {d : Drivers σ}

/-- The keys of one kind of listener. -/
structure Layer (σ κ : Type) where
  /-- The keys that run, as they are listed. -/
  running : Manager σ → List κ
  /-- The key a slot belongs to, if it belongs to the layer. -/
  part : Slot → Option κ
  /-- The slots to open for a key, or nothing where it cannot be opened at all. -/
  needs : κ → Option (List Slot)
  mem_running : ∀ {m k}, k ∈ running m ↔ ∃ h ∈ m.handles, part h.slot = some k
  part_needs : ∀ {k needed slot}, needs k = some needed → slot ∈ needed → part slot = some k
  networks_needs : ∀ {k needed}, needs k = some needed → (needed.map Prod.fst).Nodup
  needs_some : ∀ k, needs k ≠ some []

namespace Layer

variable (L : Layer σ κ)

/-- What opening a key may come to: the calls it makes and the handles it brings. Where a
listener is refused, those opened before it are closed again. -/
inductive Result (k : κ) : List Call → List Handle → Prop
  | opened (got : List Handle) : L.needs k = some (got.map Handle.slot) →
      Result k (got.map Call.granting) got
  | hopeless : L.needs k = none → Result k [] []
  | refused (tried : List Handle) (slot : Slot) (rest : List Slot) (fault : OpenFault)
      (failure : Handle → Option String) :
      L.needs k = some (tried.map Handle.slot ++ slot :: rest) →
      Result k (tried.map Call.granting ++ .listen slot.1 slot.2 (.error fault) ::
        tried.map fun h => .close h (failure h)) []

/-- Every listener a key needs was opened. -/
def Granted (asked : List Call) (k : κ) : Prop :=
  ∃ wanted, L.needs k = some wanted ∧
    ∀ slot ∈ wanted, ∃ h, Call.listen slot.1 slot.2 (.ok h) ∈ asked

/-- A key cannot be opened, or a listener it needs was refused. -/
def Denied (asked : List Call) (k : κ) : Prop :=
  L.needs k = none ∨ ∃ wanted, L.needs k = some wanted ∧
    ∃ slot ∈ wanted, ∃ fault, Call.listen slot.1 slot.2 (.error fault) ∈ asked

variable {L}

namespace Result

variable {k : κ} {asked : List Call} {got : List Handle}

theorem part_got (result : L.Result k asked got) {h : Handle} (member : h ∈ got) :
    L.part h.slot = some k := by
  cases result with
  | opened _ needs => exact L.part_needs needs (List.mem_map_of_mem member)
  | hopeless | refused => cases member

theorem part_asked (result : L.Result k asked got) {c : Call} (member : c ∈ asked) :
    L.part c.slot = some k := by
  cases result with
  | opened _ needs =>
    obtain ⟨h, held, rfl⟩ := List.mem_map.mp member
    exact L.part_needs needs (List.mem_map_of_mem held)
  | hopeless => cases member
  | refused tried slot rest fault failure needs =>
    have tried_part : ∀ h ∈ tried, L.part h.slot = some k := fun h held =>
      L.part_needs needs (List.mem_append_left _ (List.mem_map_of_mem held))
    rcases List.mem_append.mp member with first | last
    · obtain ⟨h, held, rfl⟩ := List.mem_map.mp first
      exact tried_part h held
    · rcases List.mem_cons.mp last with rfl | closing
      · exact L.part_needs needs (by simp)
      · obtain ⟨h, held, rfl⟩ := List.mem_map.mp closing
        exact tried_part h held

/-- Only slots that the key needs are asked for. -/
theorem needs_listen (result : L.Result k asked got) {network : Network} {service : Service}
    {outcome : Except OpenFault Handle} (member : .listen network service outcome ∈ asked) :
    ∃ needed, L.needs k = some needed ∧ (network, service) ∈ needed := by
  have slot_of : ∀ handles : List Handle,
      Call.listen network service outcome ∈ handles.map Call.granting →
        (network, service) ∈ handles.map Handle.slot := by
    intro handles listed
    obtain ⟨h, held, same⟩ := List.mem_map.mp listed
    exact List.mem_map.mpr ⟨h, held, congrArg Call.slot same⟩
  cases result with
  | opened _ needs => exact ⟨_, needs, slot_of _ member⟩
  | hopeless => cases member
  | refused tried slot rest fault failure needs =>
    refine ⟨_, needs, ?_⟩
    rcases List.mem_append.mp member with first | last
    · exact List.mem_append_left _ (slot_of tried first)
    · rcases List.mem_cons.mp last with same | closing
      · have here : (network, service) = slot := congrArg Call.slot same
        simp [here]
      · obtain ⟨_, _, same⟩ := List.mem_map.mp closing
        cases same

theorem needs_got (result : L.Result k asked got) (some_got : got ≠ []) :
    L.needs k = some (got.map Handle.slot) := by
  cases result with
  | opened _ needs => exact needs
  | hopeless | refused => exact absurd rfl some_got

/-- A key is granted just if its opening brought handles. -/
theorem granted_iff (result : L.Result k asked got) : L.Granted asked k ↔ got ≠ [] := by
  cases result with
  | opened _ needs =>
    refine iff_of_true ⟨_, needs, ?_⟩ ?_
    · intro slot member
      obtain ⟨h, held, rfl⟩ := List.mem_map.mp member
      exact ⟨h, List.mem_map_of_mem held⟩
    · rintro rfl
      exact L.needs_some k needs
  | hopeless needs => simp [Granted, needs]
  | refused tried slot rest fault failure needs =>
    refine iff_of_false ?_ (by simp)
    rintro ⟨wanted, same, all⟩
    obtain rfl := Option.some.inj (same.symm.trans needs)
    obtain ⟨h, asked⟩ := all slot (by simp)
    -- The refused slot was not among those that were opened before it.
    have earlier : h ∈ tried ∧ slot.1 = h.network := by
      simp only [List.mem_append, List.mem_cons, List.mem_map, Call.granting] at asked
      grind
    have apart := L.networks_needs needs
    simp only [List.map_append, List.map_map, List.map_cons, List.nodup_append,
      List.mem_map] at apart
    exact apart.2.2 h.network ⟨h, earlier.1, rfl⟩ slot.1 (by simp) earlier.2.symm

/-- A key is denied just if its opening brought nothing. -/
theorem denied_iff (result : L.Result k asked got) : L.Denied asked k ↔ got = [] := by
  cases result with
  | opened _ needs =>
    refine iff_of_false ?_ ?_
    · rintro (never | ⟨_, _, slot, _, fault, refused⟩)
      · simp [never] at needs
      · simp at refused
    · rintro rfl
      exact L.needs_some k needs
  | hopeless needs => exact iff_of_true (.inl needs) rfl
  | refused tried slot rest fault failure needs =>
    exact iff_of_true (.inr ⟨_, needs, slot, by simp, fault, by simp⟩) rfl

end Result

variable (L)

/-- Keys are closed, whatever their handles say to that. -/
structure Closes (d : Drivers σ) (ks : List κ) (acc acc' : Manager σ × Report κ)
    (asked : List Call) : Prop where
  clears : Manager.Clears d (fun slot => ∃ k ∈ ks, L.part slot = some k) acc.1 acc'.1 asked
  failed : acc'.2.failed = acc.2.failed

/-- One key is opened, or fails to be. -/
structure Attempt (d : Drivers σ) (k : κ) (acc acc' : Manager σ × Report κ) (asked : List Call)
    (got : List Handle) : Prop where
  result : L.Result k asked got
  asks : acc.1.Asks asked acc'.1
  handles : acc'.1.handles = acc.1.handles ++ got
  moves : Moves d (acc.1.books acc.1.handles) (acc'.1.books acc'.1.handles)
  failed : acc'.2.failed.map Prod.fst =
    acc.2.failed.map Prod.fst ++ if got = [] then [k] else []

/-- Keys are opened one after the other. -/
inductive Opens (d : Drivers σ) : List κ → Manager σ × Report κ → Manager σ × Report κ →
    List Call → List Handle → Prop
  | nil (acc : Manager σ × Report κ) : Opens d [] acc acc [] []
  | cons {k : κ} {ks : List κ} {acc mid acc' : Manager σ × Report κ} {asked asked' : List Call}
      {got got' : List Handle} (first : L.Attempt d k acc mid asked got)
      (rest : Opens d ks mid acc' asked' got') :
      Opens d (k :: ks) acc acc' (asked ++ asked') (got ++ got')

variable {L} {ks : List κ} {acc acc' : Manager σ × Report κ} {asked : List Call}
  {got : List Handle}

/-- Keys are closed one after the other by whatever closes a single one. -/
theorem Closes.of_foldl {close : Manager σ × Report κ → κ → Manager σ × Report κ}
    (law : ∀ acc k, Sole acc.1.handles →
      ∃ asked, Manager.Clears d (fun slot => L.part slot = some k) acc.1 (close acc k).1 asked)
    (failed : ∀ acc k, (close acc k).2.failed = acc.2.failed) (sole : Sole acc.1.handles) :
    ∃ asked, L.Closes d ks acc (ks.foldl close acc) asked := by
  obtain ⟨asked, clears⟩ := Manager.Clears.of_foldl Prod.fst law sole ks
  refine ⟨asked, clears, ?_⟩
  clear clears sole
  induction ks generalizing acc with
  | nil => rfl
  | cons k ks ih => exact ih.trans (failed acc k)

theorem Closes.no_listen (closes : L.Closes d ks acc acc' asked) {network : Network}
    {service : Service} {outcome : Except OpenFault Handle} :
    .listen network service outcome ∉ asked := by
  intro member
  obtain ⟨_, _, same, _⟩ := closes.clears.closes _ member
  cases same

/-- Closing makes no key run. -/
theorem Closes.idle (closes : L.Closes d ks acc acc' asked) {k : κ} (idle : k ∉ L.running acc.1) :
    k ∉ L.running acc'.1 := by
  intro runs
  obtain ⟨h, member, part⟩ := L.mem_running.mp runs
  exact idle (L.mem_running.mpr ⟨h, ((closes.clears.handles h).mp member).1, part⟩)

theorem Closes.granted_append (closes : L.Closes d ks acc acc' asked) {later : List Call} {k : κ} :
    L.Granted (asked ++ later) k ↔ L.Granted later k := by
  simp [Granted, closes.no_listen]

theorem Closes.denied_append (closes : L.Closes d ks acc acc' asked) {later : List Call} {k : κ} :
    L.Denied (asked ++ later) k ↔ L.Denied later k := by
  simp [Denied, closes.no_listen]

namespace Opens

theorem asks (opens : L.Opens d ks acc acc' asked got) : acc.1.Asks asked acc'.1 := by
  induction opens with
  | nil acc => exact .nothing acc.1
  | cons first _ ih => exact first.asks.trans ih

theorem handles (opens : L.Opens d ks acc acc' asked got) :
    acc'.1.handles = acc.1.handles ++ got := by
  induction opens with
  | nil => simp
  | cons first _ ih => rw [ih, first.handles, List.append_assoc]

theorem moves (opens : L.Opens d ks acc acc' asked got) :
    Moves d (acc.1.books acc.1.handles) (acc'.1.books acc'.1.handles) := by
  induction opens with
  | nil => exact .refl
  | cons first _ ih => exact first.moves.trans ih

theorem consults (opens : L.Opens d ks acc acc' asked got) : acc.1.Consults d asked acc'.1 :=
  .of_moves opens.asks opens.moves

theorem part_asked (opens : L.Opens d ks acc acc' asked got) {c : Call} (member : c ∈ asked) :
    ∃ k ∈ ks, L.part c.slot = some k := by
  induction opens with
  | nil => cases member
  | cons first _ ih =>
    rcases List.mem_append.mp member with now | later
    · exact ⟨_, List.mem_cons_self, first.result.part_asked now⟩
    · obtain ⟨k, listed, part⟩ := ih later
      exact ⟨k, List.mem_cons_of_mem _ listed, part⟩

theorem part_got (opens : L.Opens d ks acc acc' asked got) {h : Handle} (member : h ∈ got) :
    ∃ k ∈ ks, L.part h.slot = some k := by
  induction opens with
  | nil => cases member
  | cons first _ ih =>
    rcases List.mem_append.mp member with now | later
    · exact ⟨_, List.mem_cons_self, first.result.part_got now⟩
    · obtain ⟨k, listed, part⟩ := ih later
      exact ⟨k, List.mem_cons_of_mem _ listed, part⟩

theorem needs_listen (opens : L.Opens d ks acc acc' asked got) {network : Network}
    {service : Service} {outcome : Except OpenFault Handle}
    (member : .listen network service outcome ∈ asked) :
    ∃ k ∈ ks, ∃ needed, L.needs k = some needed ∧ (network, service) ∈ needed := by
  induction opens with
  | nil => cases member
  | cons first _ ih =>
    rcases List.mem_append.mp member with now | later
    · exact ⟨_, List.mem_cons_self, first.result.needs_listen now⟩
    · obtain ⟨k, listed, needed⟩ := ih later
      exact ⟨k, List.mem_cons_of_mem _ listed, needed⟩

/-- Keys that do not run are opened one after the other by whatever opens a single one. -/
theorem of_foldl {create : Manager σ × Report κ → κ → Manager σ × Report κ}
    (law : ∀ acc k, Sole acc.1.handles → k ∉ L.running acc.1 →
      ∃ asked got, L.Attempt d k acc (create acc k) asked got)
    (sole : Sole acc.1.handles) (once : ks.Nodup) (idle : ∀ k ∈ ks, k ∉ L.running acc.1) :
    ∃ asked got, L.Opens d ks acc (ks.foldl create acc) asked got := by
  induction ks generalizing acc with
  | nil => exact ⟨[], [], .nil acc⟩
  | cons k ks ih =>
    obtain ⟨unlisted, once⟩ := List.nodup_cons.mp once
    obtain ⟨asked, got, first⟩ := law acc k sole (idle k List.mem_cons_self)
    have still_idle : ∀ k' ∈ ks, k' ∉ L.running (create acc k).1 := by
      intro k' listed runs
      obtain ⟨h, member, part⟩ := L.mem_running.mp runs
      rw [first.handles] at member
      rcases List.mem_append.mp member with old | new
      · exact idle k' (List.mem_cons_of_mem _ listed) (L.mem_running.mpr ⟨h, old, part⟩)
      · have same := Option.some.inj (part.symm.trans (first.result.part_got new))
        exact unlisted (same ▸ listed)
    obtain ⟨asked', got', rest⟩ := ih (first.moves.sole sole) once still_idle
    exact ⟨_, _, .cons first rest⟩

end Opens

variable [DecidableEq κ]

/-- The calls about one key. -/
def about (L : Layer σ κ) (k : κ) (asked : List Call) : List Call :=
  asked.filter fun c => L.part c.slot = some k

theorem granted_about {k : κ} {asked : List Call} :
    L.Granted (L.about k asked) k ↔ L.Granted asked k := by
  refine exists_congr fun wanted => and_congr_right fun needs => forall₂_congr fun slot member => ?_
  have part := L.part_needs needs member
  exact exists_congr fun h => by simp [about, part]

theorem denied_about {k : κ} {asked : List Call} :
    L.Denied (L.about k asked) k ↔ L.Denied asked k := by
  refine or_congr_right <| exists_congr fun wanted => and_congr_right fun needs =>
    exists_congr fun slot => and_congr_right fun member => ?_
  have part := L.part_needs needs member
  exact exists_congr fun fault => by simp [about, part]

theorem granted_congr {k : κ} {left right : List Call} (same : L.about k left = L.about k right) :
    L.Granted left k ↔ L.Granted right k := by
  rw [← granted_about, same, granted_about]

theorem denied_congr {k : κ} {left right : List Call} (same : L.about k left = L.about k right) :
    L.Denied left k ↔ L.Denied right k := by
  rw [← denied_about, same, denied_about]

theorem about_append {k : κ} {left right : List Call} :
    L.about k (left ++ right) = L.about k left ++ L.about k right := List.filter_append ..

namespace Opens

theorem about_eq_nil (opens : L.Opens d ks acc acc' asked got) {k : κ} (unlisted : k ∉ ks) :
    L.about k asked = [] := by
  simp only [about, List.filter_eq_nil_iff, decide_eq_true_eq]
  intro c member same
  obtain ⟨k', listed, part⟩ := opens.part_asked member
  exact unlisted (Option.some.inj (same.symm.trans part) ▸ listed)

theorem filter_got_eq_nil (opens : L.Opens d ks acc acc' asked got) {k : κ} (unlisted : k ∉ ks) :
    got.filter (fun h => L.part h.slot = some k) = [] := by
  simp only [List.filter_eq_nil_iff, decide_eq_true_eq]
  intro h member same
  obtain ⟨k', listed, part⟩ := opens.part_got member
  exact unlisted (Option.some.inj (same.symm.trans part) ▸ listed)

/-- Of several keys, each has a result of its own. -/
theorem result (opens : L.Opens d ks acc acc' asked got) (once : ks.Nodup) {k : κ}
    (listed : k ∈ ks) :
    L.Result k (L.about k asked) (got.filter fun h => L.part h.slot = some k) := by
  induction opens with
  | nil => cases listed
  | @cons first_key ks _ _ _ asked asked' got got' first rest ih =>
    obtain ⟨unlisted, once⟩ := List.nodup_cons.mp once
    rw [about_append, List.filter_append]
    rcases List.mem_cons.mp listed with rfl | later
    · rw [rest.about_eq_nil unlisted, rest.filter_got_eq_nil unlisted, List.append_nil,
        List.append_nil, about, List.filter_eq_self.mpr, List.filter_eq_self.mpr]
      · exact first.result
      · intro h member
        exact decide_eq_true (first.result.part_got member)
      · intro c member
        exact decide_eq_true (first.result.part_asked member)
    · have other : first_key ≠ k := fun same => unlisted (same ▸ later)
      rw [about, List.filter_eq_nil_iff.mpr, List.filter_eq_nil_iff.mpr]
      · exact ih once later
      · intro h member
        simp [first.result.part_got member, other]
      · intro c member
        simp [first.result.part_asked member, other]

theorem granted_iff (opens : L.Opens d ks acc acc' asked got) (once : ks.Nodup) {k : κ}
    (listed : k ∈ ks) : L.Granted asked k ↔ ∃ h ∈ got, L.part h.slot = some k := by
  rw [← granted_about, (opens.result once listed).granted_iff]
  simp [List.filter_eq_nil_iff]

theorem denied_iff (opens : L.Opens d ks acc acc' asked got) (once : ks.Nodup) {k : κ}
    (listed : k ∈ ks) : L.Denied asked k ↔ ¬ ∃ h ∈ got, L.part h.slot = some k := by
  rw [← denied_about, (opens.result once listed).denied_iff]
  simp [List.filter_eq_nil_iff]

/-- A key that is granted gets the slots it needs and no others. -/
theorem whole (opens : L.Opens d ks acc acc' asked got) (once : ks.Nodup) {k : κ} (listed : k ∈ ks)
    (granted : L.Granted asked k) :
    ∃ needed, L.needs k = some needed ∧
      ∀ slot, L.part slot = some k → (slot ∈ needed ↔ ∃ h ∈ got, h.slot = slot) := by
  have result := opens.result once listed
  refine ⟨_, result.needs_got (result.granted_iff.mp (granted_about.mpr granted)), ?_⟩
  intro slot part
  rw [List.mem_map]
  refine exists_congr fun h => and_congr_left fun same => ?_
  simp [same, part]

/-- The report lists the keys that were denied. -/
theorem failed_iff (opens : L.Opens d ks acc acc' asked got) (once : ks.Nodup) {k : κ} :
    k ∈ acc'.2.failed.map Prod.fst ↔
      k ∈ acc.2.failed.map Prod.fst ∨ k ∈ ks ∧ L.Denied asked k := by
  suffices k ∈ acc'.2.failed.map Prod.fst ↔
      k ∈ acc.2.failed.map Prod.fst ∨ k ∈ ks ∧ ¬ ∃ h ∈ got, L.part h.slot = some k by
    rw [this]
    exact or_congr_right <| and_congr_right fun listed => (opens.denied_iff once listed).symm
  induction opens with
  | nil => simp
  | @cons first_key ks _ _ _ asked asked' got got' first rest ih =>
    obtain ⟨unlisted, once⟩ := List.nodup_cons.mp once
    rw [ih once, first.failed]
    have late : (∃ h ∈ got', L.part h.slot = some first_key) → False := by
      rintro ⟨h, member, part⟩
      obtain ⟨k', listed, part'⟩ := rest.part_got member
      exact unlisted (Option.some.inj (part.symm.trans part') ▸ listed)
    by_cases same : k = first_key
    · subst same
      by_cases none_got : got = []
      · refine iff_of_true (.inl (by simp [none_got])) (.inr ⟨by simp, ?_⟩)
        simpa [none_got] using late
      · obtain ⟨h, member⟩ := List.exists_mem_of_ne_nil got none_got
        have part := first.result.part_got member
        simp only [none_got, if_false, List.append_nil, unlisted, false_and, or_false,
          List.mem_cons, true_and]
        refine (or_iff_left fun never => never ⟨h, by simp [member], part⟩).symm
    · have early : ∀ h ∈ got, L.part h.slot ≠ some k := fun h member part =>
        same (Option.some.inj (part.symm.trans (first.result.part_got member)))
      have only_late : (∃ h ∈ got ++ got', L.part h.slot = some k) ↔
          ∃ h ∈ got', L.part h.slot = some k := by
        refine exists_congr fun h => and_congr_left fun part => ?_
        rw [List.mem_append]
        exact or_iff_right fun now => early h now part
      rw [only_late]
      by_cases none_got : got = []
      · simp [none_got, same]
      · simp [none_got, same]

end Opens

end Layer

end LocalProxy
