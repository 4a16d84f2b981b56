import LocalProxy.Listening.Inbounds
import LocalProxy.Proofs.Listening.Reconciliation

/-! The inbounds are a layer: an inbound is closed on both networks, and opened on those where
its type is served, on all of them or on none. -/
namespace LocalProxy

open Manager

variable {σ : Type} {d : Drivers σ}

def Service.spec? : Service → Option InboundSpec
  | inbound spec => some spec
  | tunnel _ => none

namespace InboundSpec

def slot (s : InboundSpec) (network : Network) : Slot := (network, .inbound s)

/-- The slot to open on a network, where the type is served there. -/
def slotOn (d : Drivers σ) (s : InboundSpec) (network : Network) : List Slot :=
  if d.serves network s.type then [s.slot network] else []

/-- The slots to open, unless the port is no good or the type is served nowhere. -/
def needs (d : Drivers σ) (s : InboundSpec) : Option (List Slot) :=
  if s.port? = none ∨ s.slotOn d .tcp ++ s.slotOn d .udp = [] then none
  else some (s.slotOn d .tcp ++ s.slotOn d .udp)

theorem mem_slotOn {s : InboundSpec} {network : Network} {slot : Slot} :
    slot ∈ s.slotOn d network ↔ d.serves network s.type ∧ slot = s.slot network := by
  by_cases served : d.serves network s.type <;> simp [slotOn, served]

theorem needs_eq {s : InboundSpec} {needed : List Slot} (needs : s.needs d = some needed) :
    s.port? ≠ none ∧ needed ≠ [] ∧ needed = s.slotOn d .tcp ++ s.slotOn d .udp := by
  unfold InboundSpec.needs at needs
  split at needs
  · cases needs
  · rename_i possible
    obtain ⟨port, served⟩ := not_or.mp possible
    obtain rfl := Option.some.inj needs
    exact ⟨port, served, rfl⟩

theorem unserved_iff {s : InboundSpec} :
    (!d.serves .tcp s.type && !d.serves .udp s.type) = true ↔
      s.slotOn d .tcp ++ s.slotOn d .udp = [] := by
  simp [slotOn]

end InboundSpec

namespace Manager

theorem mem_inbounds {m : Manager σ} {spec : InboundSpec} :
    spec ∈ m.inbounds ↔ ∃ h ∈ m.handles, h.service.spec? = some spec := by
  simp only [inbounds, InboundSpec.sort, List.mem_mergeSort, List.mem_eraseDups, List.mem_filterMap]
  rfl

/-- The layer of the inbounds. -/
def inboundLayer (d : Drivers σ) : Layer σ InboundSpec where
  running := inbounds
  part slot := slot.2.spec?
  needs := InboundSpec.needs d
  mem_running := mem_inbounds
  part_needs needs member := by
    obtain ⟨_, _, rfl⟩ := InboundSpec.needs_eq needs
    rcases List.mem_append.mp member with first | last
    · rw [(InboundSpec.mem_slotOn.mp first).2]
      rfl
    · rw [(InboundSpec.mem_slotOn.mp last).2]
      rfl
  networks_needs needs := by
    obtain ⟨_, _, rfl⟩ := InboundSpec.needs_eq needs
    unfold InboundSpec.slotOn
    split <;> split <;> simp [InboundSpec.slot]
  needs_some s needs := (InboundSpec.needs_eq needs).2.1 rfl

/-- Closing an inbound gives up its handle on each network. -/
theorem closeSpec_clears (m : Manager σ) (spec : InboundSpec) (sole : Sole m.handles) :
    ∃ asked, Clears d (fun slot => slot.2.spec? = some spec) m (closeSpec d m spec) asked := by
  have released : ∃ asked, Clears d (fun slot => ∃ network ∈ [Network.tcp, .udp],
      slot = spec.slot network) m (closeSpec d m spec) asked := by
    refine Clears.of_foldl id (fun m network sole => ?_) sole _
    dsimp only [id]
    split
    · rename_i answer
      exact release_clears sole answer
    · rename_i answer
      obtain ⟨asked, clears⟩ := release_clears sole answer
      exact ⟨asked, clears.log _⟩
  obtain ⟨asked, clears⟩ := released
  refine ⟨asked, clears.congr ?_⟩
  rintro ⟨network, service⟩
  cases network <;> cases service <;> simp [InboundSpec.slot, Service.spec?]

theorem closeInbound_law (acc : Manager σ × Report InboundSpec) (spec : InboundSpec)
    (sole : Sole acc.1.handles) :
    ∃ asked, Clears d (fun slot => slot.2.spec? = some spec) acc.1 (closeInbound d acc spec).1
      asked := by
  obtain ⟨asked, clears⟩ := closeSpec_clears (d := d) acc.1 spec sole
  exact ⟨asked, clears.log _⟩

theorem closeInbound_failed (acc : Manager σ × Report InboundSpec) (spec : InboundSpec) :
    (closeInbound d acc spec).2.failed = acc.2.failed := rfl

theorem listenIfServed_ok {m m' : Manager σ} {network : Network} {spec : InboundSpec}
    {got : Option Handle} (answer : listenIfServed d m network spec = (.ok got, m')) :
    got.toList.map Handle.slot = spec.slotOn d network ∧ m'.handles = m.handles ∧
      m.Asks (got.toList.map Call.granting) m' ∧
      ∀ live, (∀ h ∈ live, h.slot ≠ spec.slot network) →
        Moves d (m.books live) (m'.books (live ++ got.toList)) := by
  unfold listenIfServed at answer
  split at answer
  · rename_i served
    split at answer
    · rename_i h _ opened
      obtain ⟨slot, handles, asks, move⟩ := listen_ok opened
      obtain ⟨rfl, rfl⟩ := Prod.mk.inj answer |>.imp_left Except.ok.inj
      refine ⟨by simp [InboundSpec.slotOn, served, slot, InboundSpec.slot], handles, asks, ?_⟩
      exact fun live free => .single (move live free)
    · cases Prod.mk.inj answer |>.1
  · rename_i unserved
    obtain ⟨rfl, rfl⟩ := Prod.mk.inj answer |>.imp_left Except.ok.inj
    refine ⟨by simp [InboundSpec.slotOn, unserved], rfl, .nothing m, fun live _ => ?_⟩
    rw [Option.toList_none, List.append_nil]

theorem listenIfServed_error {m m' : Manager σ} {network : Network} {spec : InboundSpec}
    {fault : OpenFault} (answer : listenIfServed d m network spec = (.error fault, m')) :
    spec.slotOn d network = [spec.slot network] ∧ m'.handles = m.handles ∧
      m.Asks [.listen network (.inbound spec) (.error fault)] m' ∧
      ∀ live, (∀ h ∈ live, h.slot ≠ spec.slot network) →
        Moves d (m.books live) (m'.books live) := by
  unfold listenIfServed at answer
  split at answer
  · rename_i served
    split at answer
    · cases Prod.mk.inj answer |>.1
    · rename_i other _ refused
      obtain ⟨handles, asks, move⟩ := listen_error refused
      obtain ⟨rfl, rfl⟩ := Prod.mk.inj answer |>.imp_left Except.error.inj
      refine ⟨by simp [InboundSpec.slotOn, served], handles, asks, ?_⟩
      exact fun live free => .single (move live free)
  · cases Prod.mk.inj answer |>.1

/-- Rolling back closes what was opened first. -/
theorem rollBack_spec (m : Manager σ) (spec : InboundSpec) (opened : Option Handle) :
    (rollBack d m spec opened).handles = m.handles ∧
      (∃ failure : Handle → Option String,
        m.Asks (opened.toList.map fun h => .close h (failure h)) (rollBack d m spec opened)) ∧
      ∀ live, Moves d (m.books (live ++ opened.toList))
        ((rollBack d m spec opened).books live) := by
  cases opened with
  | none =>
    refine ⟨rfl, ⟨fun _ => none, .nothing m⟩, fun live => ?_⟩
    rw [Option.toList_none, List.append_nil]
    exact .refl
  | some h =>
    have closing : ∀ {failure : Option String} {m' : Manager σ}, m.close d h = (failure, m') →
        m'.handles = m.handles ∧ m.Asks [.close h failure] m' ∧
          ∀ live, Moves d (m.books (live ++ [h])) (m'.books live) := by
      intro failure m' answer
      obtain ⟨handles, asks, move⟩ := close_eq answer
      refine ⟨handles, asks, fun live => ?_⟩
      have last := move (live ++ [h]) live [] rfl
      rw [List.append_nil] at last
      exact .single last
    simp only [rollBack]
    split
    · rename_i answer
      obtain ⟨handles, asks, moves⟩ := closing answer
      exact ⟨handles, ⟨fun _ => none, asks⟩, moves⟩
    · rename_i reason _ answer
      obtain ⟨handles, asks, moves⟩ := closing answer
      exact ⟨handles, ⟨fun _ => some reason, asks.log _⟩, moves⟩

theorem free_slot {live : List Handle} {spec : InboundSpec}
    (free : ∀ h ∈ live, h.service.spec? ≠ some spec) (network : Network) :
    ∀ h ∈ live, h.slot ≠ spec.slot network := by
  intro h held same
  have service : h.service = .inbound spec := congrArg Prod.snd same
  exact free h held (by rw [service]; rfl)

/-- The UDP slot stays free while the TCP listener is open. -/
theorem free_udp {live : List Handle} {spec : InboundSpec} {tcp : Option Handle}
    (free : ∀ h ∈ live, h.service.spec? ≠ some spec)
    (slots : tcp.toList.map Handle.slot = spec.slotOn d .tcp) :
    ∀ h ∈ live ++ tcp.toList, h.slot ≠ spec.slot .udp := by
  intro h member
  rcases List.mem_append.mp member with old | new
  · exact free_slot free .udp h old
  · have listed : h.slot ∈ spec.slotOn d .tcp := slots ▸ List.mem_map_of_mem new
    rw [(InboundSpec.mem_slotOn.mp listed).2]
    simp [InboundSpec.slot]

/-- The listeners of a pair, in the order in which they were opened. -/
def Pair.got (p : Pair) : List Handle := p.tcp.toList ++ p.udp.toList

theorem openSpec_ok {m m' : Manager σ} {spec : InboundSpec} {p : Pair}
    (free : ∀ h ∈ m.handles, h.service.spec? ≠ some spec)
    (answer : openSpec d m spec = (.ok p, m')) :
    spec.needs d = some (p.got.map Handle.slot) ∧ m'.handles = m.handles ∧
      m.Asks (p.got.map Call.granting) m' ∧
      Moves d (m.books m.handles) (m'.books (m.handles ++ p.got)) := by
  unfold openSpec at answer
  split at answer
  · cases Prod.mk.inj answer |>.1
  rename_i port
  split at answer
  · cases Prod.mk.inj answer |>.1
  rename_i supported
  split at answer
  · cases Prod.mk.inj answer |>.1
  rename_i tcp mid first
  split at answer
  · cases Prod.mk.inj answer |>.1
  rename_i udp last second
  obtain ⟨rfl, rfl⟩ := Prod.mk.inj answer |>.imp_left Except.ok.inj
  obtain ⟨slots, handles, asks, moves⟩ := listenIfServed_ok first
  obtain ⟨slots', handles', asks', moves'⟩ := listenIfServed_ok second
  have slots_got :
      (Pair.got ⟨tcp, udp⟩).map Handle.slot = spec.slotOn d .tcp ++ spec.slotOn d .udp := by
    rw [Pair.got, List.map_append, slots, slots']
  refine ⟨?_, handles'.trans handles, ?_, ?_⟩
  · rw [InboundSpec.needs, if_neg, slots_got]
    exact not_or.mpr ⟨port, mt InboundSpec.unserved_iff.mpr supported⟩
  · rw [Pair.got, List.map_append]
    exact asks.trans asks'
  · have all := (moves _ (free_slot free .tcp)).trans (moves' _ (free_udp free slots))
    rwa [List.append_assoc] at all

theorem openSpec_error {m m' : Manager σ} {spec : InboundSpec} {fault : OpenFault}
    (free : ∀ h ∈ m.handles, h.service.spec? ≠ some spec)
    (answer : openSpec d m spec = (.error fault, m')) :
    m'.handles = m.handles ∧ Moves d (m.books m.handles) (m'.books m.handles) ∧
      ∃ asked, (inboundLayer d).Result spec asked [] ∧ m.Asks asked m' := by
  unfold openSpec at answer
  split at answer
  · rename_i port
    obtain ⟨_, rfl⟩ := Prod.mk.inj answer
    exact ⟨rfl, .refl, [], .hopeless (if_pos (.inl port)), .nothing m⟩
  rename_i port
  split at answer
  · rename_i unsupported
    obtain ⟨_, rfl⟩ := Prod.mk.inj answer
    have none_served := InboundSpec.unserved_iff.mp unsupported
    exact ⟨rfl, .refl, [], .hopeless (if_pos (.inr none_served)), .nothing m⟩
  rename_i supported
  have needs : spec.needs d = some (spec.slotOn d .tcp ++ spec.slotOn d .udp) :=
    if_neg (not_or.mpr ⟨port, mt InboundSpec.unserved_iff.mpr supported⟩)
  split at answer
  · rename_i other mid first
    obtain ⟨_, rfl⟩ := Prod.mk.inj answer
    obtain ⟨slots, handles, asks, moves⟩ := listenIfServed_error first
    refine ⟨handles, moves _ (free_slot free .tcp), _, ?_, asks⟩
    rw [slots] at needs
    exact .refused [] (spec.slot .tcp) (spec.slotOn d .udp) other (fun _ => none) needs
  rename_i tcp mid first
  obtain ⟨slots, handles, asks, moves⟩ := listenIfServed_ok first
  split at answer
  · rename_i other last second
    obtain ⟨slots', handles', asks', moves'⟩ := listenIfServed_error second
    obtain ⟨_, rfl⟩ := Prod.mk.inj answer
    obtain ⟨handles'', ⟨failure, asks''⟩, moves''⟩ := rollBack_spec (d := d) last spec tcp
    refine ⟨handles''.trans (handles'.trans handles), ?_, _, ?_, (asks.trans asks').trans asks''⟩
    · have both := (moves _ (free_slot free .tcp)).trans (moves' _ (free_udp free slots))
      exact both.trans (moves'' _)
    · rw [slots', ← slots] at needs
      rw [List.append_assoc]
      exact .refused tcp.toList (spec.slot .udp) [] other failure needs
  · cases Prod.mk.inj answer |>.1

theorem foldl_keep {m : Manager σ} {got : List Handle} (apart : (got.map Handle.slot).Nodup)
    (free : ∀ h ∈ got, ∀ old ∈ m.handles, old.slot ≠ h.slot) :
    (got.foldl keep m).handles = m.handles ++ got ∧
      (∀ live, (got.foldl keep m).books live = m.books live) ∧ m.Asks [] (got.foldl keep m) := by
  induction got generalizing m with
  | nil => exact ⟨by simp, fun _ => rfl, .nothing m⟩
  | cons h rest ih =>
    obtain ⟨new, apart⟩ := List.nodup_cons.mp apart
    have kept := keep_handles (free h List.mem_cons_self)
    have free_rest : ∀ h' ∈ rest, ∀ old ∈ (m.keep h).handles, old.slot ≠ h'.slot := by
      intro h' later old held same
      rw [kept] at held
      rcases List.mem_append.mp held with early | now
      · exact free h' (List.mem_cons_of_mem _ later) old early same
      · rw [List.mem_singleton.mp now] at same
        exact new (same ▸ List.mem_map_of_mem later)
    obtain ⟨handles, books, asks⟩ := ih apart free_rest
    exact ⟨by simp [handles, kept], books, ((Asks.nothing m).keep h).trans asks⟩

/-- What an inbound was given is kept beside the handles of the others. -/
theorem keepPair_spec {m : Manager σ} {spec : InboundSpec} {p : Pair}
    (free : ∀ h ∈ m.handles, h.service.spec? ≠ some spec)
    (needs : spec.needs d = some (p.got.map Handle.slot)) :
    (m.keepPair p).handles = m.handles ++ p.got ∧
      (∀ live, (m.keepPair p).books live = m.books live) ∧ m.Asks [] (m.keepPair p) := by
  refine foldl_keep (.of_map _ ((inboundLayer d).networks_needs needs)) ?_
  intro h member old held same
  have part : h.slot.2.spec? = some spec :=
    (inboundLayer d).part_needs needs (List.mem_map_of_mem member)
  exact free old held (by rw [← part, ← same]; rfl)

theorem createInbound_law (acc : Manager σ × Report InboundSpec) (spec : InboundSpec)
    (sole : Sole acc.1.handles) (idle : spec ∉ acc.1.inbounds) :
    ∃ asked got, (inboundLayer d).Attempt d spec acc (createInbound d acc spec) asked got := by
  obtain ⟨m, report⟩ := acc
  have free : ∀ h ∈ m.handles, h.service.spec? ≠ some spec :=
    fun h held same => idle (mem_inbounds.mpr ⟨h, held, same⟩)
  simp only [createInbound]
  split
  · rename_i p opened answer
    obtain ⟨needs, handles, asks, moves⟩ := openSpec_ok free answer
    obtain ⟨kept, books, nothing⟩ := keepPair_spec (handles ▸ free) needs
    have grown : (opened.keepPair p).handles = m.handles ++ p.got := by rw [kept, handles]
    refine ⟨_, p.got, .opened p.got needs, ?_, grown, ?_, ?_⟩
    · have all := asks.trans nothing
      rw [List.append_nil] at all
      exact all.log _
    · rw [log_books, log_handles, grown, books]
      exact moves
    · have some_got : p.got ≠ [] := by
        intro none_got
        rw [none_got] at needs
        exact (inboundLayer d).needs_some spec needs
      simp [some_got]
  · rename_i fault refused answer
    obtain ⟨handles, moves, asked, result, asks⟩ := openSpec_error free answer
    refine ⟨asked, [], result, asks.log _, by simp [handles], ?_, by simp⟩
    simpa [handles] using moves

theorem reconcileInbounds_reconciles {m : Manager σ} (sole : Sole m.handles)
    (wanted : List InboundSpec) :
    ∃ asked, (inboundLayer d).Reconciles d wanted m (m.reconcileInbounds d wanted) asked :=
  Layer.Reconciles.of_foldl closeInbound_law closeInbound_failed createInbound_law sole wanted

end Manager

end LocalProxy
