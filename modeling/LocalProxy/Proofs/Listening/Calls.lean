import LocalProxy.Proofs.Listening.Books

/-! What the manager does with single listeners: each asks for some calls, is a run of moves,
and changes the kept handles in a known way. -/
namespace LocalProxy

variable {σ : Type} {d : Drivers σ}

/-- The handle that leaves is the only one of its slot. -/
theorem Sole.filter_slot {before after : List Handle} {h : Handle}
    (sole : Sole (before ++ h :: after)) :
    (before ++ h :: after).filter (fun x => x.slot ≠ h.slot) = before ++ after := by
  rw [List.filter_append, List.filter_cons_of_neg (by simp), ← List.filter_append]
  exact List.filter_eq_self.mpr fun x member => decide_eq_true (sole.remove.2 x member)

namespace Manager

/-- The journal has grown by some calls, and the binding stands. -/
structure Asks (m : Manager σ) (asked : List Call) (m' : Manager σ) : Prop where
  calls : m'.calls = m.calls ++ asked
  binding : m'.binding = m.binding

theorem Asks.trans {m mid m' : Manager σ} {first second : List Call} (left : m.Asks first mid)
    (right : mid.Asks second m') : m.Asks (first ++ second) m' :=
  ⟨by rw [right.calls, left.calls, List.append_assoc], right.binding.trans left.binding⟩

theorem Asks.nothing (m : Manager σ) : m.Asks [] m := ⟨by simp, rfl⟩

theorem Asks.log {m m' : Manager σ} {asked : List Call} (asks : m.Asks asked m') (r : Record) :
    m.Asks asked (m'.log r) := ⟨asks.calls, asks.binding⟩

/-- The journal has grown by some calls, which the outside has answered. -/
structure Consults (d : Drivers σ) (m : Manager σ) (asked : List Call) (m' : Manager σ) :
    Prop where
  asks : m.Asks asked m'
  answered : d.Answered m.outside asked m'.outside

namespace Consults

variable {m mid m' : Manager σ} {first second asked : List Call}

theorem nothing (m : Manager σ) : m.Consults d [] m := ⟨.nothing m, .nothing _⟩

theorem trans (left : m.Consults d first mid) (right : mid.Consults d second m') :
    m.Consults d (first ++ second) m' :=
  ⟨left.asks.trans right.asks, left.answered.append right.answered⟩

theorem log (consults : m.Consults d asked m') (r : Record) : m.Consults d asked (m'.log r) :=
  ⟨consults.asks.log r, consults.answered⟩

/-- Where the journal has grown by some calls and moves led there, these are the calls that were
answered. -/
theorem of_moves {live live' : List Handle} (asks : m.Asks asked m')
    (moves : Moves d (m.books live) (m'.books live')) : m.Consults d asked m' := by
  obtain ⟨told, calls, answered⟩ := moves.answered
  obtain rfl : told = asked := List.append_cancel_left (calls.symm.trans asks.calls)
  exact ⟨asks, answered⟩

end Consults

@[simp] theorem log_handles (m : Manager σ) (r : Record) : (m.log r).handles = m.handles := rfl

@[simp] theorem log_books (m : Manager σ) (r : Record) (live : List Handle) :
    (m.log r).books live = m.books live := rfl

theorem listen_ok {m m' : Manager σ} {network : Network} {service : Service} {h : Handle}
    (answer : m.listen d network service = (.ok h, m')) :
    h.slot = (network, service) ∧ m'.handles = m.handles ∧ m.Asks [.granting h] m' ∧
      ∀ live, (∀ old ∈ live, old.slot ≠ (network, service)) →
        Move d (m.books live) (m'.books (live ++ [h])) := by
  unfold listen at answer
  split at answer
  · rename_i bound outside answered
    obtain ⟨rfl, rfl⟩ := Prod.mk.inj answer |>.imp_left Except.ok.inj
    exact ⟨rfl, rfl, ⟨rfl, rfl⟩, fun live free => .opened free answered⟩
  · cases Prod.mk.inj answer |>.1

theorem listen_error {m m' : Manager σ} {network : Network} {service : Service}
    {fault : OpenFault} (answer : m.listen d network service = (.error fault, m')) :
    m'.handles = m.handles ∧ m.Asks [.listen network service (.error fault)] m' ∧
      ∀ live, (∀ old ∈ live, old.slot ≠ (network, service)) →
        Move d (m.books live) (m'.books live) := by
  unfold listen at answer
  split at answer
  · cases Prod.mk.inj answer |>.1
  · rename_i other outside answered
    obtain ⟨rfl, rfl⟩ := Prod.mk.inj answer |>.imp_left Except.error.inj
    exact ⟨rfl, ⟨rfl, rfl⟩, fun live free => .refused free answered⟩

theorem close_eq {m m' : Manager σ} {h : Handle} {failure : Option String}
    (answer : m.close d h = (failure, m')) :
    m'.handles = m.handles ∧ m.Asks [.close h failure] m' ∧
      ∀ live before after, live = before ++ h :: after →
        Move d (m.books live) (m'.books (before ++ after)) := by
  obtain ⟨rfl, rfl⟩ := Prod.mk.inj answer
  exact ⟨rfl, ⟨rfl, rfl⟩, fun live before after held => .closed held⟩

theorem listen_consults {m m' : Manager σ} {network : Network} {service : Service}
    {outcome : Except OpenFault Handle} (answer : m.listen d network service = (outcome, m')) :
    m.Consults d [.listen network service outcome] m' ∧ m'.handles = m.handles := by
  cases outcome with
  | ok h =>
    obtain ⟨slot, handles, asks, move⟩ := listen_ok answer
    obtain ⟨rfl, rfl⟩ := Prod.mk.inj slot
    exact ⟨.of_moves asks (.single (move [] nofun)), handles⟩
  | error fault =>
    obtain ⟨handles, asks, move⟩ := listen_error answer
    exact ⟨.of_moves asks (.single (move [] nofun)), handles⟩

theorem close_consults {m m' : Manager σ} {h : Handle} {failure : Option String}
    (answer : m.close d h = (failure, m')) :
    m.Consults d [.close h failure] m' ∧ m'.handles = m.handles := by
  obtain ⟨handles, asks, move⟩ := close_eq answer
  exact ⟨.of_moves asks (.single (move [h] [] [] rfl)), handles⟩

/-- Whether a handle has a slot, as it is tested. -/
theorem slot_test (h : Handle) (network : Network) (service : Service) :
    (h.network == network && h.service == service) = decide (h.slot = (network, service)) := by
  rw [Bool.eq_iff_iff]
  simp [Handle.slot]

theorem handle?_some {m : Manager σ} {network : Network} {service : Service} {h : Handle}
    (found : m.handle? network service = some h) :
    h ∈ m.handles ∧ h.slot = (network, service) := by
  refine ⟨List.mem_of_find?_eq_some found, ?_⟩
  simpa only [slot_test, decide_eq_true_eq] using List.find?_some found

theorem handle?_none {m : Manager σ} {network : Network} {service : Service} :
    m.handle? network service = none ↔ ∀ h ∈ m.handles, h.slot ≠ (network, service) := by
  simp [handle?, slot_test]

theorem handle?_iff {m : Manager σ} (sole : Sole m.handles) {network : Network}
    {service : Service} {h : Handle} :
    m.handle? network service = some h ↔ h ∈ m.handles ∧ h.slot = (network, service) := by
  refine ⟨handle?_some, fun ⟨held, same⟩ => ?_⟩
  cases found : m.handle? network service with
  | none => exact absurd same (handle?_none.mp found h held)
  | some other =>
    obtain ⟨member, slot⟩ := handle?_some found
    rw [sole.eq_of_slot member held (slot.trans same.symm)]

/-- The listener of a slot is the same where the slot's handles are. -/
theorem handle?_congr {m m' : Manager σ} (sole : Sole m.handles) (sole' : Sole m'.handles)
    {network : Network} {service : Service}
    (same : ∀ h, h.slot = (network, service) → (h ∈ m'.handles ↔ h ∈ m.handles)) :
    m'.handle? network service = m.handle? network service := by
  ext h
  rw [handle?_iff sole', handle?_iff sole]
  exact and_congr_left (same h)

/-- A handle whose slot is free is kept beside the others. -/
theorem keep_handles {m : Manager σ} {h : Handle} (free : ∀ old ∈ m.handles, old.slot ≠ h.slot) :
    (m.keep h).handles = m.handles ++ [h] := by
  have all : m.handles.filter (fun x => !(x.network == h.network && x.service == h.service)) =
      m.handles := by
    refine List.filter_eq_self.mpr fun old held => ?_
    have apart : old.slot ≠ (h.network, h.service) := free old held
    rw [slot_test, decide_eq_false apart, Bool.not_false]
  rw [keep, all]

@[simp] theorem keep_books (m : Manager σ) (h : Handle) (live : List Handle) :
    (m.keep h).books live = m.books live := rfl

theorem Asks.keep {m m' : Manager σ} {asked : List Call} (asks : m.Asks asked m') (h : Handle) :
    m.Asks asked (m'.keep h) := ⟨asks.calls, asks.binding⟩

/-- The handles of some slots are closed and given up, whatever they say to that. -/
structure Clears (d : Drivers σ) (gone : Slot → Prop) (m m' : Manager σ) (asked : List Call) :
    Prop where
  asks : m.Asks asked m'
  closes : ∀ c ∈ asked, ∃ h failure, c = .close h failure ∧ gone h.slot
  all : ∀ h ∈ m.handles, gone h.slot → ∃ failure, .close h failure ∈ asked
  handles : ∀ h, h ∈ m'.handles ↔ h ∈ m.handles ∧ ¬ gone h.slot
  moves : Moves d (m.books m.handles) (m'.books m'.handles)

namespace Clears

variable {gone later : Slot → Prop} {m mid m' : Manager σ} {asked asked' : List Call}

theorem nothing (m : Manager σ) (vacant : ∀ h ∈ m.handles, ¬ gone h.slot) :
    Clears d gone m m [] where
  asks := .nothing m
  closes := by simp
  all h held out := absurd out (vacant h held)
  handles h := ⟨fun held => ⟨held, vacant h held⟩, And.left⟩
  moves := .refl

theorem trans (left : Clears d gone m mid asked) (right : Clears d later mid m' asked') :
    Clears d (fun slot => gone slot ∨ later slot) m m' (asked ++ asked') where
  asks := left.asks.trans right.asks
  closes c member := by
    rcases List.mem_append.mp member with first | last
    · obtain ⟨h, failure, rfl, out⟩ := left.closes c first
      exact ⟨h, failure, rfl, .inl out⟩
    · obtain ⟨h, failure, rfl, out⟩ := right.closes c last
      exact ⟨h, failure, rfl, .inr out⟩
  all h held out := by
    by_cases first : gone h.slot
    · obtain ⟨failure, member⟩ := left.all h held first
      exact ⟨failure, List.mem_append_left _ member⟩
    · obtain ⟨failure, member⟩ :=
        right.all h ((left.handles h).mpr ⟨held, first⟩) (out.resolve_left first)
      exact ⟨failure, List.mem_append_right _ member⟩
  handles h := by rw [right.handles, left.handles, and_assoc, not_or]
  moves := left.moves.trans right.moves

theorem congr (clears : Clears d gone m m' asked) (same : ∀ slot, gone slot ↔ later slot) :
    Clears d later m m' asked :=
  (funext fun slot => propext (same slot) : gone = later) ▸ clears

theorem consults (clears : Clears d gone m m' asked) : m.Consults d asked m' :=
  .of_moves clears.asks clears.moves

theorem log (clears : Clears d gone m m' asked) (r : Record) : Clears d gone m (m'.log r) asked :=
  ⟨clears.asks.log r, clears.closes, clears.all, clears.handles, clears.moves⟩

theorem handle? (clears : Clears d gone m m' asked) (sole : Sole m.handles) {network : Network}
    {service : Service} (stays : ¬ gone (network, service)) :
    m'.handle? network service = m.handle? network service :=
  handle?_congr sole (clears.moves.sole sole) fun h slot =>
    (clears.handles h).trans (and_iff_left (slot ▸ stays))

/-- Clearing step by step clears what any step clears. -/
theorem of_foldl {τ α : Type} (view : τ → Manager σ) {step : τ → α → τ} {gone : α → Slot → Prop}
    (law : ∀ t a, Sole (view t).handles →
      ∃ asked, Clears d (gone a) (view t) (view (step t a)) asked)
    {t : τ} (sole : Sole (view t).handles) (as : List α) :
    ∃ asked, Clears d (fun slot => ∃ a ∈ as, gone a slot) (view t) (view (as.foldl step t))
      asked := by
  induction as generalizing t with
  | nil => exact ⟨[], .nothing (view t) (by simp)⟩
  | cons a as ih =>
    obtain ⟨asked, first⟩ := law t a sole
    obtain ⟨asked', rest⟩ := ih (first.moves.sole sole)
    exact ⟨asked ++ asked', (first.trans rest).congr (by simp)⟩

end Clears

/-- At most one handle is asked to close, and its slot is given up. -/
theorem release_consults (m : Manager σ) (network : Network) (service : Service) :
    ∃ failure, m.Consults d ((m.handle? network service).toList.map (.close · failure))
        (m.release d network service).2 ∧
      (m.release d network service).2.handles =
        m.handles.filter (·.slot ≠ (network, service)) := by
  unfold release
  cases found : m.handle? network service with
  | none =>
    refine ⟨none, .nothing m, (List.filter_eq_self.mpr fun h held => ?_).symm⟩
    exact decide_eq_true (handle?_none.mp found h held)
  | some h =>
    refine ⟨_, ⟨⟨rfl, rfl⟩, .closed rfl (.nothing _)⟩, ?_⟩
    exact List.filter_congr fun h _ => by simp [slot_test]

theorem release_clears {m m' : Manager σ} (sole : Sole m.handles) {network : Network}
    {service : Service} {failure : Option String}
    (answer : m.release d network service = (failure, m')) :
    ∃ asked, Clears d (· = (network, service)) m m' asked := by
  unfold release at answer
  split at answer
  · rename_i vacant
    obtain ⟨rfl, rfl⟩ := Prod.mk.inj answer
    exact ⟨[], .nothing m (handle?_none.mp vacant)⟩
  · rename_i h found
    obtain ⟨held, slot⟩ := handle?_some found
    obtain ⟨same, asks, move⟩ := close_eq answer
    obtain ⟨before, after, split⟩ := List.append_of_mem held
    have rest : m'.handles = before ++ after := by
      rw [split] at sole
      rw [same, ← sole.filter_slot, ← split, slot]
      simp [slot_test]
    refine ⟨_, ⟨asks.calls, asks.binding⟩, ?_, ?_, ?_, ?_⟩
    · intro c member
      exact ⟨h, failure, List.mem_singleton.mp member, slot⟩
    · intro other member out
      rw [sole.eq_of_slot member held (out.trans slot.symm)]
      exact ⟨failure, List.mem_singleton_self _⟩
    · intro other
      rw [same, List.mem_filter, slot_test]
      simp
    · rw [rest]
      exact .single (move m.handles before after split)

end Manager

end LocalProxy

