import LocalProxy.Proofs.Hub.Runs
import LocalProxy.Proofs.Traffic.Deeds

/-! The subscriptions to the buses of a hub, what each has buffered, and whom they belong to. Taking
one adds its number to those of the bus, giving one up removes its number and no other, and nothing
else that a hub does changes them. -/
namespace LocalProxy

namespace Bus

variable {α : Type}

/-- The numbers of the subscriptions. -/
def ids (b : Bus α) : List Nat := b.subscriptions.map (·.id)

theorem ids_subscribe (b : Bus α) : b.subscribe.2.ids = b.ids ++ [b.nextId] := by
  simp [ids, subscribe]

theorem ids_unsubscribe (b : Bus α) (id : Nat) :
    (b.unsubscribe id).ids = b.ids.filter (· ≠ id) := by
  simp [ids, unsubscribe, List.filter_map, Function.comp_def]

/-- A subscription that is given up leaves the others behind. -/
theorem unsubscribe_subscribe (b : Bus α) (below : ∀ id ∈ b.ids, id < b.nextId) :
    (b.subscribe.2.unsubscribe b.nextId).subscriptions = b.subscriptions := by
  have others : ∀ s ∈ b.subscriptions, s.id ≠ b.nextId := fun s member =>
    Nat.ne_of_lt (below s.id (List.mem_map_of_mem member))
  simpa [subscribe, unsubscribe] using others

theorem ids_publish (b : Bus α) (a : α) : (b.publish a).2.ids = b.ids := by
  simp only [ids, publish, List.map_map]
  refine List.map_congr_left fun s _ => ?_
  simp only [Function.comp_apply, Subscription.offer]
  split <;> rfl

theorem ids_update (b : Bus α) (id : Nat) {f : Subscription α → Subscription α}
    (named : ∀ s, (f s).id = s.id) : (b.update id f).ids = b.ids := by
  simp only [ids, update, List.map_map]
  refine List.map_congr_left fun s _ => ?_
  simp only [Function.comp_apply]
  split
  · exact named s
  · rfl

theorem ids_drain (b : Bus α) (id : Nat) : (b.drain id).2.ids = b.ids :=
  b.ids_update id fun _ => rfl

theorem take_eq (b : Bus α) (id : Nat) :
    b.take id = ((b.find? id).bind (·.items.head?),
      if (b.find? id).any (·.items ≠ []) then b.update id fun s => { s with items := s.items.drop 1 }
      else b) := by
  unfold take
  cases b.find? id with
  | none => rfl
  | some s =>
    obtain ⟨_, items⟩ := s
    cases items <;> rfl

theorem ids_take (b : Bus α) (id : Nat) : (b.take id).2.ids = b.ids := by
  rw [take_eq]
  dsimp only
  split
  · exact b.ids_update id fun _ => rfl
  · rfl

theorem nextId_take (b : Bus α) (id : Nat) : (b.take id).2.nextId = b.nextId := by
  rw [take_eq]
  dsimp only
  split <;> rfl

theorem find?_isSome {b : Bus α} {id : Nat} : (b.find? id).isSome ↔ id ∈ b.ids := by
  simp [find?, ids]

theorem find?_id {b : Bus α} {id : Nat} {s : Subscription α} (found : b.find? id = some s) :
    s.id = id := by
  simpa using List.find?_some found

theorem find?_map (b : Bus α) (id : Nat) {f : Subscription α → Subscription α}
    (named : ∀ s, (f s).id = s.id) :
    (b.subscriptions.map f).find? (·.id == id) = (b.find? id).map f := by
  rw [List.find?_map, find?]
  simp only [Function.comp_def, named]

theorem find?_publish (b : Bus α) (a : α) (id : Nat) :
    (b.publish a).2.find? id = (b.find? id).map (·.offer b.capacity a) :=
  b.find?_map id fun s => by unfold Subscription.offer; split <;> rfl

theorem find?_update_eq (b : Bus α) (id other : Nat) {f : Subscription α → Subscription α}
    (named : ∀ s, (f s).id = s.id) :
    (b.update other f).find? id = (b.find? id).map fun s => if id = other then f s else s := by
  have found := b.find?_map id (f := fun s => if s.id = other then f s else s)
    fun s => by split <;> simp [named]
  refine found.trans ?_
  cases here : b.find? id with
  | none => rfl
  | some s => simp [find?_id here]

theorem find?_update (b : Bus α) (id : Nat) {f : Subscription α → Subscription α}
    (named : ∀ s, (f s).id = s.id) : (b.update id f).find? id = (b.find? id).map f := by
  simp [b.find?_update_eq id id named]

theorem find?_update_other (b : Bus α) {id other : Nat} (apart : other ≠ id)
    {f : Subscription α → Subscription α} (named : ∀ s, (f s).id = s.id) :
    (b.update other f).find? id = b.find? id := by
  simp [b.find?_update_eq id other named, apart.symm]

/-- To take all that is buffered is to take one item and then the others. -/
theorem drain_eq_take (b : Bus α) (id : Nat) :
    b.drain id = ((b.take id).1.toList ++ ((b.take id).2.drain id).1, ((b.take id).2.drain id).2) := by
  have after := b.find?_update id (f := fun s => { s with items := s.items.tail }) fun _ => rfl
  rw [take_eq]
  cases found : b.find? id with
  | none => simp [drain, found]
  | some s =>
    obtain ⟨number, items⟩ := s
    cases items with
    | nil => simp [drain, found]
    | cons a rest =>
      have twice : (b.update id fun s => { s with items := s.items.tail }).update id
          (fun s => { s with items := [] }) = b.update id fun s => { s with items := [] } := by
        simp only [update, List.map_map]
        refine congrArg (Bus.mk _ _ _) (List.map_congr_left fun s _ => ?_)
        by_cases here : s.id = id <;> simp [here]
      simp [drain, found, after, twice]

theorem find?_subscribe (b : Bus α) {id : Nat} (old : id ≠ b.nextId) :
    b.subscribe.2.find? id = b.find? id := by
  simp [subscribe, find?, List.find?_append, old.symm]

theorem find?_subscribe_new (b : Bus α) (fresh : b.nextId ∉ b.ids) :
    b.subscribe.2.find? b.nextId = some ⟨b.nextId, []⟩ := by
  have none : b.find? b.nextId = none := by
    rwa [← find?_isSome, Option.not_isSome_iff_eq_none] at fresh
  rw [find?] at none
  simp [subscribe, find?, List.find?_append, none]

/-- Giving up a subscription brings none about. -/
theorem find?_of_unsubscribe {b : Bus α} {id other : Nat} {s : Subscription α}
    (found : (b.unsubscribe other).find? id = some s) : b.find? id = some s := by
  rw [find?, unsubscribe, List.find?_filter] at found
  have left : id ≠ other := by
    have both := List.find?_some found
    simp only [decide_eq_true_eq, beq_iff_eq] at both
    exact both.2 ▸ both.1
  rw [find?, ← found]
  refine congrArg (b.subscriptions.find? ·) (funext fun s => ?_)
  by_cases here : s.id = id <;> simp [here, left]

end Bus

/-- The buses that can be subscribed to from outside. -/
inductive Channel
  | logs
  | traffic
deriving DecidableEq

def Channel.path : Channel → String
  | logs => "/logs"
  | traffic => "/traffic"

theorem Channel.path_inj {c other : Channel} : c.path = other.path ↔ c = other := by
  cases c <;> cases other <;> decide

namespace Hub

variable {σ : Type}

def subscriberCount (h : Hub σ) : Channel → Nat
  | .logs => h.logs.count
  | .traffic => h.statistics.traffic.count

/-- The subscriptions to a bus of the hub. -/
def subscribers (h : Hub σ) : Channel → List Nat
  | .logs => h.logs.ids
  | .traffic => h.statistics.traffic.ids

def nextSubscriber (h : Hub σ) : Channel → Nat
  | .logs => h.logs.nextId
  | .traffic => h.statistics.traffic.nextId

def subscribe (h : Hub σ) : Channel → Hub σ
  | .logs => { h with logs := h.logs.subscribe.2 }
  | .traffic =>
    { h with statistics := { h.statistics with traffic := h.statistics.traffic.subscribe.2 } }

def unsubscribe (h : Hub σ) (id : Nat) : Channel → Hub σ
  | .logs => { h with logs := h.logs.unsubscribe id }
  | .traffic =>
    { h with statistics := { h.statistics with traffic := h.statistics.traffic.unsubscribe id } }

/-- Takes what a subscription has buffered. -/
def drain (h : Hub σ) (id : Nat) : Channel → Hub σ
  | .logs => { h with logs := (h.logs.drain id).2 }
  | .traffic =>
    { h with statistics := { h.statistics with traffic := (h.statistics.traffic.drain id).2 } }

variable {h h' : Hub σ}

theorem length_subscribers (h : Hub σ) (c : Channel) :
    (h.subscribers c).length = h.subscriberCount c := by
  cases c <;> exact List.length_map _

/-- Nobody has come or gone. Numbers may have been used up. -/
structure Quiet (h h' : Hub σ) : Prop where
  subscribers : ∀ c, h'.subscribers c = h.subscribers c
  next : ∀ c, h.nextSubscriber c ≤ h'.nextSubscriber c

namespace Quiet

variable {α : Type}

theorem refl (h : Hub σ) : Quiet h h := ⟨fun _ => rfl, fun _ => Nat.le_refl _⟩

theorem trans {h'' : Hub σ} (first : Quiet h h') (second : Quiet h' h'') : Quiet h h'' where
  subscribers c := (second.subscribers c).trans (first.subscribers c)
  next c := Nat.le_trans (first.next c) (second.next c)

/-- The buses are as they were. -/
theorem of_same (logs : h'.logs = h.logs)
    (traffic : h'.statistics.traffic = h.statistics.traffic) : Quiet h h' where
  subscribers c := by cases c <;> simp only [Hub.subscribers, logs, traffic]
  next c := by cases c <;> simp only [Hub.nextSubscriber, logs, traffic, Nat.le_refl]

theorem publish (h : Hub σ) (e : LogEvent) :
    Quiet h { h with logs := (h.logs.publish e).2 } where
  subscribers c := by
    cases c with
    | logs => exact h.logs.ids_publish e
    | traffic => rfl
  next c := by cases c <;> exact Nat.le_refl _

/-- Publishing log events. -/
theorem foldl_publish (h : Hub σ) (events : List α) (event : α → LogEvent) :
    Quiet h { h with
      logs := events.foldl (fun logs a => (logs.publish (event a)).2) h.logs } := by
  induction events generalizing h with
  | nil => exact .refl h
  | cons a rest ih => exact (publish h (event a)).trans (ih _)

theorem drain (h : Hub σ) (id : Nat) (c : Channel) : Quiet h (h.drain id c) where
  subscribers c' := by
    cases c <;> cases c' <;>
      simp only [Hub.drain, Hub.subscribers, Bus.ids_drain]
  next c' := by cases c <;> cases c' <;> exact Nat.le_refl _

end Quiet

/-- Nobody has come or gone, and no log event was published or read. -/
structure Still (h h' : Hub σ) : Prop extends Quiet h h' where
  buffered : h'.logs.subscriptions = h.logs.subscriptions

namespace Still

theorem refl (h : Hub σ) : Still h h := ⟨.refl h, rfl⟩

theorem of_same (logs : h'.logs = h.logs)
    (traffic : h'.statistics.traffic = h.statistics.traffic) : Still h h' :=
  ⟨.of_same logs traffic, by rw [logs]⟩

end Still

theorem subscribers_subscribe (h : Hub σ) (c other : Channel) :
    (h.subscribe c).subscribers other =
      h.subscribers other ++ if other = c then [h.nextSubscriber c] else [] := by
  cases c <;> cases other <;>
    simp [subscribe, subscribers, nextSubscriber, Bus.ids_subscribe]

theorem subscribers_unsubscribe (h : Hub σ) (id : Nat) (c other : Channel) :
    (h.unsubscribe id c).subscribers other =
      if other = c then (h.subscribers other).filter (· ≠ id) else h.subscribers other := by
  cases c <;> cases other <;> simp [unsubscribe, subscribers, Bus.ids_unsubscribe]

theorem next_subscribe (h : Hub σ) (c other : Channel) :
    (h.subscribe c).nextSubscriber other =
      h.nextSubscriber other + if other = c then 1 else 0 := by
  cases c <;> cases other <;> simp [subscribe, nextSubscriber, Bus.subscribe]

theorem next_unsubscribe (h : Hub σ) (id : Nat) (c other : Channel) :
    (h.unsubscribe id c).nextSubscriber other = h.nextSubscriber other := by
  cases c <;> cases other <;> rfl

/-- A new subscription changes nothing about an older one. -/
theorem find?_subscribe {id : Nat} (below : id < h.logs.nextId) (c : Channel) :
    (h.subscribe c).logs.find? id = h.logs.find? id := by
  cases c with
  | logs => exact h.logs.find?_subscribe (Nat.ne_of_lt below)
  | traffic => rfl

theorem find?_of_unsubscribe {b : Subscription LogEvent} {id number : Nat} {c : Channel}
    (found : (h.unsubscribe number c).logs.find? id = some b) : h.logs.find? id = some b := by
  cases c with
  | logs => exact Bus.find?_of_unsubscribe found
  | traffic => exact found

/-- Those among some subscriptions that are to one bus. -/
def numbers (c : Channel) (owned : List (Channel × Nat)) : List Nat :=
  (owned.filter (·.1 = c)).map (·.2)

/-- Every subscription has an owner, and every owner one of his own. -/
structure OwnedBy (h : Hub σ) (owned : List (Channel × Nat)) : Prop where
  perm : ∀ c, (h.subscribers c).Perm (numbers c owned)
  nodup : ∀ c, (h.subscribers c).Nodup
  below : ∀ c, ∀ id ∈ h.subscribers c, id < h.nextSubscriber c

namespace OwnedBy

variable {owned : List (Channel × Nat)}

theorem create (outside : σ) (path : String) (overrides : Overrides) (logBuffer : Nat) :
    (Hub.create outside path overrides logBuffer).OwnedBy [] where
  perm c := by cases c <;> exact .nil
  nodup c := by cases c <;> exact .nil
  below c := by cases c <;> exact nofun

theorem quiet (own : h.OwnedBy owned) (quiet : Quiet h h') : h'.OwnedBy owned where
  perm c := quiet.subscribers c ▸ own.perm c
  nodup c := quiet.subscribers c ▸ own.nodup c
  below c id member :=
    Nat.lt_of_lt_of_le (own.below c id (quiet.subscribers c ▸ member)) (quiet.next c)

theorem mem {c : Channel} {id : Nat} (own : h.OwnedBy owned) (member : (c, id) ∈ owned) :
    id ∈ h.subscribers c :=
  (own.perm c).mem_iff.mpr (List.mem_map.mpr ⟨(c, id), by simp [member], rfl⟩)

theorem reorder (own : h.OwnedBy owned) {others : List (Channel × Nat)}
    (perm : owned.Perm others) : h.OwnedBy others where
  perm c := (own.perm c).trans ((perm.filter _).map _)
  nodup := own.nodup
  below := own.below

theorem subscribe (own : h.OwnedBy owned) (c : Channel) :
    (h.subscribe c).OwnedBy ((c, h.nextSubscriber c) :: owned) where
  perm other := by
    rw [subscribers_subscribe]
    by_cases same : other = c
    · subst same
      rw [if_pos rfl]
      refine (List.perm_append_singleton _ _).trans ?_
      simpa [numbers] using own.perm other
    · simpa [numbers, same, Ne.symm same] using own.perm other
  nodup other := by
    rw [subscribers_subscribe]
    by_cases same : other = c
    · subst same
      rw [if_pos rfl, ← List.concat_eq_append]
      exact (own.nodup other).concat fun member => Nat.lt_irrefl _ (own.below other _ member)
    · simpa [same] using own.nodup other
  below other id member := by
    rw [subscribers_subscribe, List.mem_append] at member
    rw [next_subscribe]
    rcases member with before | new
    · exact Nat.lt_add_right _ (own.below other id before)
    · by_cases same : other = c
      · subst same
        simp only [if_true, List.mem_singleton] at new
        simp [new]
      · simp [same] at new

/-- The number of a subscription is taken out of the bus, and no other. -/
theorem unsubscribe {c : Channel} {id : Nat} (own : h.OwnedBy ((c, id) :: owned)) :
    (h.unsubscribe id c).OwnedBy owned where
  perm other := by
    rw [subscribers_unsubscribe]
    by_cases same : other = c
    · subst same
      have perm : (h.subscribers other).Perm (id :: numbers other owned) := by
        simpa [numbers] using own.perm other
      have absent : id ∉ numbers other owned :=
        (List.nodup_cons.mp (perm.nodup_iff.mp (own.nodup other))).1
      rw [if_pos rfl]
      refine (perm.filter _).trans ?_
      rw [List.filter_cons_of_neg (by simp), List.filter_eq_self.mpr]
      intro i member
      simpa using ne_of_mem_of_not_mem member absent
    · simpa [numbers, same, Ne.symm same] using own.perm other
  nodup other := by
    rw [subscribers_unsubscribe]
    split
    · exact (own.nodup other).filter _
    · exact own.nodup other
  below other i member := by
    rw [next_unsubscribe]
    refine own.below other i ?_
    rw [subscribers_unsubscribe] at member
    split at member
    · exact List.mem_of_mem_filter member
    · exact member

end OwnedBy

end Hub

namespace Statistics

variable {s s' : Statistics}

theorem traffic_close (s : Statistics) (id : Uuid) : (s.close id).2.traffic = s.traffic := by
  unfold close
  cases s.listed.lookup id <;> rfl

theorem traffic_closeAll (s : Statistics) : s.closeAll.2.traffic = s.traffic := by
  suffices all : ∀ (entries : List (Uuid × Nat)) (s : Statistics),
      (entries.foldl (fun s e => s.signal e.2) s).traffic = s.traffic from all s.listed s
  intro entries
  induction entries with
  | nil => exact fun _ => rfl
  | cons e rest ih => exact fun s => ih (s.signal e.2)

/-- Only a tick has to do with the bus, and it publishes. -/
theorem act?_subscribers {act : Act} {x : Deed} (done : s.act? act = some (x, s')) :
    s'.traffic.ids = s.traffic.ids ∧ s'.traffic.nextId = s.traffic.nextId := by
  have same : ∀ {s' : Statistics}, s'.traffic = s.traffic →
      s'.traffic.ids = s.traffic.ids ∧ s'.traffic.nextId = s.traffic.nextId := fun same => by
    rw [same]
    exact ⟨rfl, rfl⟩
  cases act with
  | track id metadata chains rule start =>
    cases done
    exact same rfl
  | add way guard bytes =>
    simp only [act?, Option.ite_none_left_eq_some] at done
    obtain ⟨-, ⟨⟩⟩ := done
    cases way <;> exact same rfl
  | drop guard =>
    simp only [act?, Option.ite_none_left_eq_some] at done
    obtain ⟨-, ⟨⟩⟩ := done
    refine same ?_
    unfold drop
    cases s.tracker? guard <;> rfl
  | close id =>
    cases done
    exact same (traffic_close s id)
  | closeAll =>
    cases done
    exact same (traffic_closeAll s)
  | look =>
    cases done
    exact same rfl
  | tick =>
    cases done
    exact ⟨Bus.ids_publish _ _, rfl⟩

end Statistics

namespace Hub

variable {σ : Type}

theorem perform_still (d : Outside σ) (h : Hub σ) (op : Operation) : Still h (h.perform d op) := by
  cases op with
  | apply | patch | updateInbounds => exact .of_same rfl rfl
  | shutdown => exact .of_same rfl (Statistics.traffic_closeAll _)
  | reload file =>
    unfold perform reload
    dsimp only
    split
    · exact .refl h
    · exact .of_same rfl rfl

end Hub

end LocalProxy
