import LocalProxy.Proofs.Listening.Dropping
import LocalProxy.Proofs.Listening.Repetition

/-! What a reconciliation of the inbounds asks of the outside, call by call, and what comes of it.
Both are told by what runs, by what is wanted and by what the outside answers. -/
namespace LocalProxy

open Manager

variable {σ : Type} {d : Drivers σ}

theorem InboundType.rank_inj {s t : InboundType} : s.rank = t.rank ↔ s = t := by
  cases s <;> cases t <;> decide

namespace InboundSpec

theorem cmp_eq : cmp = compareLex (compareOn (·.type.rank))
    (compareLex (compareOn (·.bindAddress)) (compareOn (·.legacy.toNat))) := rfl

instance : Std.TransCmp cmp := cmp_eq ▸ inferInstance

theorem eq_of_cmp {a b : InboundSpec} (same : cmp a b = .eq) : a = b := by
  obtain ⟨types, later⟩ := Ordering.then_eq_eq.mp same
  obtain ⟨addresses, origins⟩ := Ordering.then_eq_eq.mp later
  have type := InboundType.rank_inj.mp (Std.LawfulEqCmp.eq_of_compare types)
  have address := Std.LawfulEqCmp.eq_of_compare addresses
  have origin : a.legacy = b.legacy := by
    revert origins
    cases a.legacy <;> cases b.legacy <;> decide
  cases a
  cases b
  simp_all

theorem sort_sorted (specs : List InboundSpec) :
    (sort specs).Pairwise fun a b => (cmp a b).isLE := by
  refine List.pairwise_mergeSort (fun _ _ _ => Std.TransCmp.isLE_trans) (fun a b => ?_) specs
  have swap : cmp a b = (cmp b a).swap := Std.OrientedCmp.eq_swap
  rw [swap]
  cases cmp b a <;> rfl

end InboundSpec

namespace Manager

theorem nodup_inbounds (m : Manager σ) : m.inbounds.Nodup :=
  (List.mergeSort_perm _ _).nodup_iff.mpr (Plan.nodup_eraseDups _)

/-- The inbounds are listed in order, each once. -/
theorem inbounds_sorted (m : Manager σ) :
    m.inbounds.Pairwise fun a b => InboundSpec.cmp a b = .lt := by
  refine ((InboundSpec.sort_sorted _).and m.nodup_inbounds).imp fun {a b} apart => ?_
  cases order : InboundSpec.cmp a b with
  | lt => rfl
  | eq => exact absurd (InboundSpec.eq_of_cmp order) apart.2
  | gt => simp [order] at apart

end Manager

/-- Among the calls for several keys, those about one of them are its own. -/
theorem Layer.about_flatMap {κ : Type} [DecidableEq κ] {L : Layer σ κ} {ks : List κ}
    {calls : κ → List Call} (once : ks.Nodup)
    (part : ∀ k ∈ ks, ∀ c ∈ calls k, L.part c.slot = some k) {k : κ} (listed : k ∈ ks) :
    L.about k (ks.flatMap calls) = calls k := by
  induction ks with
  | nil => cases listed
  | cons first ks ih =>
    obtain ⟨unlisted, once⟩ := List.nodup_cons.mp once
    obtain ⟨part_first, part_rest⟩ := List.forall_mem_cons.mp part
    rw [List.flatMap_cons, about_append]
    rcases List.mem_cons.mp listed with rfl | later
    · have others : L.about k (ks.flatMap calls) = [] := about_silent fun c member same => by
        obtain ⟨other, listed, mine⟩ := List.mem_flatMap.mp member
        exact unlisted (Option.some.inj (same.symm.trans (part_rest other listed c mine)) ▸ listed)
      rw [others, List.append_nil]
      exact List.filter_eq_self.mpr fun c mine => decide_eq_true (part_first c mine)
    · have none_first : L.about k (calls first) = [] := about_silent fun c mine same =>
        unlisted (Option.some.inj (same.symm.trans (part_first c mine)) ▸ later)
      rw [none_first, List.nil_append, ih once part_rest later]

/-- What the outside says about an inbound: to each request for a listener, and to each close. -/
structure Answer where
  listen : Network → Except OpenFault Handle
  close : Network → Option String

namespace InboundSpec

/-- The calls that close a running inbound: its TCP listener and then its UDP listener, as far as
it has them. -/
def closing (m : Manager σ) (a : Answer) (s : InboundSpec) : List Call :=
  [Network.tcp, .udp].flatMap fun network =>
    (m.handle? network (.inbound s)).toList.map (.close · (a.close network))

theorem mem_closing {m : Manager σ} {a : Answer} {s : InboundSpec} {network : Network} {h : Handle}
    (stored : m.handle? network (.inbound s) = some h) :
    .close h (a.close network) ∈ s.closing m a := by
  refine List.mem_flatMap.mpr ⟨network, ?_, ?_⟩
  · cases network <;> simp
  · simp [stored]

/-- The calls that open an inbound. Without a port or a driver there are none, UDP is asked for
only after TCP was granted, and the TCP listener is closed at once if UDP is refused. -/
def opening (d : Drivers σ) (a : Answer) (s : InboundSpec) : List Call :=
  let ask network := Call.listen network (.inbound s) (a.listen network)
  if s.port? = none then []
  else match d.serves .tcp s.type, d.serves .udp s.type with
    | false, false => []
    | true, false => [ask .tcp]
    | false, true => [ask .udp]
    | true, true => ask .tcp :: match a.listen .tcp, a.listen .udp with
      | .error _, _ => []
      | .ok _, .ok _ => [ask .udp]
      | .ok h, .error _ => [ask .udp, .close h (a.close .tcp)]

/-- An inbound is asked for, and its TCP listener is closed if that was granted. -/
theorem mem_opening {a : Answer} {s : InboundSpec} {c : Call} (member : c ∈ s.opening d a) :
    (∃ network, c = .listen network (.inbound s) (a.listen network)) ∨
      ∃ h, c = .close h (a.close .tcp) ∧ .listen .tcp (.inbound s) (.ok h) ∈ s.opening d a := by
  cases port : s.port? <;> cases on_tcp : d.serves .tcp s.type <;>
    cases on_udp : d.serves .udp s.type <;> simp only [opening, port, on_tcp, on_udp] at member ⊢
  all_goals simp only [reduceCtorEq, if_true, if_false, List.not_mem_nil, List.mem_singleton] at member
  · exact .inl ⟨.udp, member⟩
  · exact .inl ⟨.tcp, member⟩
  · rcases List.mem_cons.mp member with same | later
    · exact .inl ⟨.tcp, same⟩
    · cases tcp : a.listen .tcp with
      | error => simp [tcp] at later
      | ok h =>
        cases udp : a.listen .udp with
        | ok => exact .inl ⟨.udp, by simpa [tcp, udp] using later⟩
        | error =>
          rcases (by simpa [tcp, udp] using later :
            c = .listen .udp (.inbound s) (.error _) ∨ c = .close h (a.close .tcp)) with asked | closed
          · exact .inl ⟨.udp, by rw [udp]; exact asked⟩
          · exact .inr ⟨h, closed, by simp⟩

/-- What opening an inbound comes to: its listeners, TCP first, or why it failed. -/
def opened (d : Drivers σ) (a : Answer) (s : InboundSpec) : Except OpenFault (List Handle) :=
  if s.port? = none then .error (.port s.bindAddress)
  else match d.serves .tcp s.type, d.serves .udp s.type with
    | false, false => .error (.unsupported s.type)
    | true, false => (a.listen .tcp).map ([·])
    | false, true => (a.listen .udp).map ([·])
    | true, true => match a.listen .tcp, a.listen .udp with
      | .error fault, _ => .error fault
      | .ok _, .error fault => .error fault
      | .ok tcp, .ok udp => .ok [tcp, udp]

/-- The listeners an inbound is given. -/
def listeners (d : Drivers σ) (a : Answer) (s : InboundSpec) : List Handle :=
  (s.opened d a).toOption.getD []

/-- The entry of a report for an inbound that failed. -/
def failure? (d : Drivers σ) (a : Answer) (s : InboundSpec) : Option (InboundSpec × String) :=
  match s.opened d a with
  | .ok _ => none
  | .error fault => some (s, fault.message)

end InboundSpec

namespace Manager

theorem Consults.keepPair {m m' : Manager σ} {asked : List Call} (consults : m.Consults d asked m')
    (p : Pair) : m.Consults d asked (m'.keepPair p) :=
  List.foldlRecOn _ Manager.keep consults fun _ kept h _ => ⟨kept.asks.keep h, kept.answered⟩

variable {m : Manager σ}

theorem rollBack_consults (m : Manager σ) (spec : InboundSpec) (h : Handle) :
    m.Consults d [.close h (m.close d h).1] (rollBack d m spec (some h)) ∧
      (rollBack d m spec (some h)).handles = m.handles := by
  simp only [rollBack]
  split <;> rename_i answer
  · rw [answer]
    exact close_consults answer
  · rw [answer]
    exact (close_consults answer).imp_left (·.log _)

/-- Where both networks are served, UDP is asked for once TCP was granted, and TCP is given back if
UDP is refused. -/
theorem openSpec_consults_both {spec : InboundSpec} (port : spec.port? ≠ none)
    (on_tcp : d.serves .tcp spec.type = true) (on_udp : d.serves .udp spec.type = true)
    (m : Manager σ) :
    ∃ a : Answer, (openSpec d m spec).1.map Pair.got = spec.opened d a ∧
      m.Consults d (spec.opening d a) (openSpec d m spec).2 ∧
      (openSpec d m spec).2.handles = m.handles := by
  simp only [openSpec, listenIfServed, InboundSpec.opened, InboundSpec.opening, port, on_tcp,
    on_udp]
  cases first : m.listen d .tcp (.inbound spec) with
  | mk outcome mid =>
  obtain ⟨consults, handles⟩ := listen_consults first
  cases outcome with
  | error fault =>
    refine ⟨⟨fun _ => .error fault, fun _ => none⟩, ?_⟩
    simpa [Except.map] using ⟨consults, handles⟩
  | ok tcp =>
    cases second : mid.listen d .udp (.inbound spec) with
    | mk outcome last =>
    obtain ⟨consults', handles'⟩ := listen_consults second
    cases outcome with
    | ok udp =>
      refine ⟨⟨fun network => .ok (if network = .tcp then tcp else udp), fun _ => none⟩, ?_⟩
      simpa [Except.map, Pair.got, second] using ⟨consults.trans consults', handles'.trans handles⟩
    | error fault =>
      obtain ⟨consults'', handles''⟩ := rollBack_consults (d := d) last spec tcp
      refine ⟨⟨fun network => if network = .tcp then .ok tcp else .error fault,
        fun _ => (last.close d tcp).1⟩, ?_⟩
      simpa [Except.map, second] using ⟨(consults.trans consults').trans consults'',
        handles''.trans (handles'.trans handles)⟩

/-- Opening an inbound makes the calls that its answers lead to, and keeps nothing yet. -/
theorem openSpec_consults (m : Manager σ) (spec : InboundSpec) :
    ∃ a : Answer, (openSpec d m spec).1.map Pair.got = spec.opened d a ∧
      m.Consults d (spec.opening d a) (openSpec d m spec).2 ∧
      (openSpec d m spec).2.handles = m.handles := by
  by_cases port : spec.port? = none
  · refine ⟨⟨fun _ => .error (.unsupported spec.type), fun _ => none⟩, ?_⟩
    simp [openSpec, InboundSpec.opened, InboundSpec.opening, port, Except.map, Consults.nothing]
  cases on_tcp : d.serves .tcp spec.type <;> cases on_udp : d.serves .udp spec.type
  case' true.true => exact openSpec_consults_both port on_tcp on_udp m
  all_goals simp only [openSpec, listenIfServed, InboundSpec.opened, InboundSpec.opening, port,
    on_tcp, on_udp]
  case false.false =>
    exact ⟨⟨fun _ => .error (.unsupported spec.type), fun _ => none⟩, by
      simp [Except.map, Consults.nothing]⟩
  case false.true =>
    cases answer : m.listen d .udp (.inbound spec) with
    | mk outcome last =>
    have consults := listen_consults answer
    refine ⟨⟨fun _ => outcome, fun _ => none⟩, ?_⟩
    cases outcome with
    | error => simpa [Except.map, rollBack, answer] using consults
    | ok => simpa [Except.map, Pair.got, answer] using consults
  case true.false =>
    cases answer : m.listen d .tcp (.inbound spec) with
    | mk outcome last =>
    have consults := listen_consults answer
    refine ⟨⟨fun _ => outcome, fun _ => none⟩, ?_⟩
    cases outcome with
    | error => simpa [Except.map] using consults
    | ok => simpa [Except.map, Pair.got] using consults

/-- A lookup does not notice that handles of other slots are gone. -/
theorem handle?_of_filter {m m' : Manager σ} {p : Handle → Bool}
    (handles : m'.handles = m.handles.filter p) {network : Network} {service : Service}
    (stays : ∀ h : Handle, h.slot = (network, service) → p h) :
    m'.handle? network service = m.handle? network service := by
  rw [handle?, handle?, handles, List.find?_filter]
  congr 1
  funext h
  rw [slot_test]
  by_cases same : h.slot = (network, service)
  · simp [same, stays h same]
  · simp [same]

theorem closeOn_consults (m : Manager σ) (spec : InboundSpec) (network : Network) :
    ∃ failure, m.Consults d ((m.handle? network (.inbound spec)).toList.map (.close · failure))
        (closeOn d spec m network) ∧
      (closeOn d spec m network).handles = m.handles.filter (·.slot ≠ spec.slot network) := by
  obtain ⟨failure, consults, handles⟩ := release_consults (d := d) m network (.inbound spec)
  refine ⟨failure, ?_⟩
  unfold closeOn
  split <;> rename_i answer <;> rw [answer] at consults handles
  · exact ⟨consults, handles⟩
  · exact ⟨consults.log _, handles⟩

/-- Closing an inbound makes the calls for it, and gives up its handles. -/
theorem closeSpec_consults (m : Manager σ) (spec : InboundSpec) :
    ∃ a : Answer, m.Consults d (spec.closing m a) (closeSpec d m spec) ∧
      (closeSpec d m spec).handles = m.handles.filter (·.service.spec? ≠ some spec) := by
  set mid := closeOn d spec m .tcp with mid_eq
  have result : closeSpec d m spec = closeOn d spec mid .udp := rfl
  obtain ⟨tcp, first, first_handles⟩ := closeOn_consults (d := d) m spec .tcp
  obtain ⟨udp, second, second_handles⟩ := closeOn_consults (d := d) mid spec .udp
  rw [← mid_eq] at first first_handles
  refine ⟨⟨fun _ => .error (.unsupported spec.type),
    fun network => if network = .tcp then tcp else udp⟩, ?_, ?_⟩
  · have untouched : mid.handle? .udp (.inbound spec) = m.handle? .udp (.inbound spec) :=
      handle?_of_filter first_handles fun h slot => by simp [slot, InboundSpec.slot]
    rw [untouched] at second
    simpa [InboundSpec.closing, result] using first.trans second
  · rw [result, second_handles, first_handles, List.filter_filter]
    refine List.filter_congr fun h _ => ?_
    rcases h with ⟨_, network, service, _⟩
    cases network <;> cases service <;> simp [Handle.slot, InboundSpec.slot, Service.spec?]

/-- Inbounds were opened one after the other, each by the calls that its answers lead to. -/
structure Opened (d : Drivers σ) (answers : InboundSpec → Answer) (specs : List InboundSpec)
    (acc acc' : Manager σ × Report InboundSpec) : Prop where
  consults : acc.1.Consults d (specs.flatMap fun s => s.opening d (answers s)) acc'.1
  handles : acc'.1.handles = acc.1.handles ++ specs.flatMap fun s => s.listeners d (answers s)
  report : acc'.2 = ⟨acc.2.closed,
    acc.2.created ++ specs.filter fun s => (s.opened d (answers s)).isOk,
    acc.2.failed ++ specs.filterMap fun s => s.failure? d (answers s)⟩
  turns : ∀ s ∈ specs, ∃ mid : Manager σ,
    (openSpec d mid s).1.map Pair.got = s.opened d (answers s)
  slots : ∀ s ∈ specs, ∀ got, s.opened d (answers s) = .ok got →
    s.needs d = some (got.map Handle.slot)

theorem createInbound_opened (acc : Manager σ × Report InboundSpec) (spec : InboundSpec)
    (idle : spec ∉ acc.1.inbounds) :
    ∃ a, Opened d (fun _ => a) [spec] acc (createInbound d acc spec) := by
  obtain ⟨m, report⟩ := acc
  obtain ⟨a, outcome, consults, handles⟩ := openSpec_consults (d := d) m spec
  refine ⟨a, ?_⟩
  have turns : ∀ s ∈ [spec], ∃ mid : Manager σ,
      (openSpec d mid s).1.map Pair.got = s.opened d a := by simpa using ⟨m, outcome⟩
  have free : ∀ h ∈ m.handles, h.service.spec? ≠ some spec :=
    fun h held same => idle (mem_inbounds.mpr ⟨h, held, same⟩)
  simp only [createInbound]
  split
  · rename_i p opened answer
    obtain ⟨needs, _⟩ := openSpec_ok free answer
    rw [answer] at outcome consults handles
    have got : spec.opened d a = .ok p.got := outcome.symm
    have kept := (keepPair_spec (m := opened) (handles ▸ free) needs).1
    refine ⟨?_, ?_, ?_, turns, ?_⟩
    · simpa using (consults.keepPair p).log _
    · simpa [kept, InboundSpec.listeners, got, Except.toOption] using handles
    · simp [InboundSpec.failure?, got, Except.isOk, Except.toBool]
    · simpa [got] using needs
  · rename_i fault refused answer
    rw [answer] at outcome consults handles
    have got : spec.opened d a = .error fault := outcome.symm
    refine ⟨?_, ?_, ?_, turns, ?_⟩
    · simpa using consults.log _
    · simpa [InboundSpec.listeners, got, Except.toOption] using handles
    · simp [InboundSpec.failure?, got, Except.isOk, Except.toBool]
    · simp [got]

namespace Opened

variable {answers others : InboundSpec → Answer} {specs later : List InboundSpec}
  {acc mid acc' : Manager σ × Report InboundSpec}

theorem nothing (acc : Manager σ × Report InboundSpec) : Opened d answers [] acc acc :=
  ⟨.nothing acc.1, by simp, by simp, nofun, nofun⟩

theorem append (first : Opened d answers specs acc mid) (rest : Opened d answers later mid acc') :
    Opened d answers (specs ++ later) acc acc' where
  consults := by simpa using first.consults.trans rest.consults
  handles := by rw [rest.handles, first.handles, List.flatMap_append, List.append_assoc]
  report := by rw [rest.report, first.report]; simp
  turns s member := (List.mem_append.mp member).elim (first.turns s) (rest.turns s)
  slots s member := (List.mem_append.mp member).elim (first.slots s) (rest.slots s)

/-- Only what is said about the inbounds that were opened matters. -/
theorem congr (opened : Opened d answers specs acc acc')
    (same : ∀ s ∈ specs, answers s = others s) : Opened d others specs acc acc' := by
  obtain ⟨consults, handles, report, turns, slots⟩ := opened
  refine ⟨?_, ?_, ?_, ?_, ?_⟩
  · rwa [List.flatMap_congr fun s member => by rw [same s member]] at consults
  · rwa [List.flatMap_congr fun s member => by rw [same s member]] at handles
  · rwa [List.filter_congr fun s member => by rw [same s member],
      List.filterMap_congr fun s member => by rw [same s member]] at report
  · exact fun s member => same s member ▸ turns s member
  · exact fun s member => same s member ▸ slots s member

/-- The listeners an inbound was given are its own. -/
theorem part (opened : Opened d answers specs acc acc') {s : InboundSpec} (member : s ∈ specs)
    {h : Handle} (given : h ∈ s.listeners d (answers s)) : h.service.spec? = some s := by
  unfold InboundSpec.listeners at given
  cases outcome : s.opened d (answers s) with
  | error fault => simp [outcome, Except.toOption] at given
  | ok got =>
    rw [outcome] at given
    exact (inboundLayer d).part_needs (opened.slots s member got outcome)
      (List.mem_map_of_mem given)

end Opened

/-- An inbound that fails is given nothing. -/
theorem flatMap_listeners (answers : InboundSpec → Answer) (specs : List InboundSpec) :
    (specs.flatMap fun s => s.listeners d (answers s)) =
      (specs.filter fun s => (s.opened d (answers s)).isOk).flatMap fun s =>
        s.listeners d (answers s) := by
  induction specs with
  | nil => rfl
  | cons s specs ih =>
    cases outcome : s.opened d (answers s) with
    | error => simpa [InboundSpec.listeners, outcome, Except.isOk, Except.toBool, Except.toOption]
        using ih
    | ok => simpa [InboundSpec.listeners, outcome, Except.isOk, Except.toBool] using ih

/-- Inbounds that do not run are opened in their order. -/
theorem foldl_createInbound_opened (specs : List InboundSpec)
    (acc : Manager σ × Report InboundSpec) (once : specs.Nodup)
    (idle : ∀ s ∈ specs, s ∉ acc.1.inbounds) :
    ∃ answers, Opened d answers specs acc (specs.foldl (createInbound d) acc) := by
  induction specs generalizing acc with
  | nil => exact ⟨fun s => ⟨fun _ => .error (.unsupported s.type), fun _ => none⟩, .nothing acc⟩
  | cons spec specs ih =>
    obtain ⟨unlisted, once⟩ := List.nodup_cons.mp once
    obtain ⟨idle_here, idle⟩ := List.forall_mem_cons.mp idle
    obtain ⟨a, first⟩ := createInbound_opened (d := d) acc spec idle_here
    have still_idle : ∀ s ∈ specs, s ∉ (createInbound d acc spec).1.inbounds := by
      intro s listed runs
      obtain ⟨h, held, own⟩ := mem_inbounds.mp runs
      rw [first.handles] at held
      rcases List.mem_append.mp held with old | new
      · exact idle s listed (mem_inbounds.mpr ⟨h, old, own⟩)
      · have given := first.part List.mem_cons_self (by simpa using new)
        exact unlisted (Option.some.inj (given.symm.trans own) ▸ listed)
    obtain ⟨answers, rest⟩ := ih (createInbound d acc spec) once still_idle
    refine ⟨fun s => if s = spec then a else answers s, ?_⟩
    refine (first.congr (by simp)).append (rest.congr fun s listed => (if_neg ?_).symm)
    rintro rfl
    exact unlisted listed

/-- The handles that are left when inbounds are closed. -/
def spared (m : Manager σ) (specs : List InboundSpec) : List Handle :=
  m.handles.filter fun h => ∀ s ∈ specs, h.service.spec? ≠ some s

/-- What is left is found before what was opened. -/
theorem handle?_of_spared {m m' : Manager σ} {specs : List InboundSpec} {got : List Handle}
    (handles : m'.handles = m.spared specs ++ got) {network : Network} {s : InboundSpec}
    {h : Handle} (stays : s ∉ specs) (stored : m.handle? network (.inbound s) = some h) :
    m'.handle? network (.inbound s) = some h := by
  have left : ({ m with handles := m.spared specs } : Manager σ).handle? network (.inbound s) =
      some h := by
    refine (handle?_of_filter rfl fun h' slot => ?_).trans stored
    have service : h'.service = .inbound s := congrArg Prod.snd slot
    simp only [service, Service.spec?, decide_eq_true_eq]
    rintro s' listed ⟨⟩
    exact stays listed
  rw [handle?, handles, List.find?_append, show List.find? _ _ = some h from left, Option.some_or]

/-- Inbounds are closed in their order. -/
theorem foldl_closeInbound_consults (specs : List InboundSpec)
    (acc : Manager σ × Report InboundSpec) (once : specs.Nodup) :
    ∃ answers : InboundSpec → Answer,
      acc.1.Consults d (specs.flatMap fun s => s.closing acc.1 (answers s))
        (specs.foldl (closeInbound d) acc).1 ∧
      (specs.foldl (closeInbound d) acc).1.handles = acc.1.spared specs := by
  induction specs generalizing acc with
  | nil =>
    exact ⟨fun s => ⟨fun _ => .error (.unsupported s.type), fun _ => none⟩, .nothing acc.1,
      by simp [spared]⟩
  | cons spec specs ih =>
    obtain ⟨unlisted, once⟩ := List.nodup_cons.mp once
    obtain ⟨a, first, first_handles⟩ := closeSpec_consults (d := d) acc.1 spec
    obtain ⟨answers, rest, rest_handles⟩ := ih (closeInbound d acc spec) once
    have same : ∀ s ∈ specs, s.closing (closeInbound d acc spec).1 (answers s) =
        s.closing acc.1 (if s = spec then a else answers s) := by
      intro s listed
      have other : s ≠ spec := fun same => unlisted (same ▸ listed)
      have stays : ∀ network, (closeInbound d acc spec).1.handle? network (.inbound s) =
          acc.1.handle? network (.inbound s) := fun network =>
        handle?_of_filter first_handles fun h slot => by
          have service : h.service = .inbound s := congrArg Prod.snd slot
          simpa [service, Service.spec?] using other
      simp only [InboundSpec.closing, stays, if_neg other]
    refine ⟨fun s => if s = spec then a else answers s, ?_, ?_⟩
    · simp only [List.flatMap_cons, if_true, ← List.flatMap_congr same]
      exact (first.log _).trans rest
    · have left : (closeInbound d acc spec).1.handles = acc.1.spared [spec] :=
        first_handles.trans (by simp [spared])
      rw [List.foldl_cons, rest_handles, spared, left, spared, spared, List.filter_filter]
      exact List.filter_congr fun h _ => by simp [Bool.and_comm]

/-- The inbounds that run and are not wanted. -/
def unwanted (m : Manager σ) (wanted : List InboundSpec) : List InboundSpec :=
  m.inbounds.filter (· ∉ wanted)

/-- The inbounds that are wanted and do not run, in the order in which they are first mentioned. -/
def missing (m : Manager σ) (wanted : List InboundSpec) : List InboundSpec :=
  (wanted.filter (· ∉ m.inbounds)).eraseDups

/-- A reconciliation told by what ran, by what was wanted and by the answers of the outside. -/
structure Traced (d : Drivers σ) (answers : InboundSpec → Answer) (wanted : List InboundSpec)
    (m : Manager σ) (out : Manager σ × Report InboundSpec) : Prop where
  consults : m.Consults d
    ((m.unwanted wanted).flatMap (fun s => s.closing m (answers s)) ++
      (m.missing wanted).flatMap fun s => s.opening d (answers s)) out.1
  closed : out.2.closed = m.unwanted wanted
  created : out.2.created = (m.missing wanted).filter fun s => (s.opened d (answers s)).isOk
  failed : out.2.failed = (m.missing wanted).filterMap fun s => s.failure? d (answers s)
  handles : out.1.handles = m.spared out.2.closed ++
    out.2.created.flatMap fun s => s.listeners d (answers s)
  turns : ∀ s ∈ m.missing wanted, ∃ mid : Manager σ,
    (openSpec d mid s).1.map Pair.got = s.opened d (answers s)

/-- The inbounds that were tried are those that were created and those that failed. -/
theorem Traced.tried {answers : InboundSpec → Answer} {wanted : List InboundSpec}
    {out : Manager σ × Report InboundSpec} (traced : Traced d answers wanted m out) :
    (out.2.created ++ out.2.failed.map Prod.fst).Perm (m.missing wanted) := by
  have failed : out.2.failed.map Prod.fst =
      (m.missing wanted).filter fun s => !(s.opened d (answers s)).isOk := by
    rw [traced.failed, List.map_filterMap, ← List.filterMap_eq_filter]
    refine List.filterMap_congr fun s _ => ?_
    cases outcome : s.opened d (answers s) <;>
      simp [InboundSpec.failure?, outcome, Except.isOk, Except.toBool, Option.guard]
  rw [traced.created, failed]
  exact List.filter_append_perm _ _

theorem mem_missing {wanted : List InboundSpec} {s : InboundSpec} :
    s ∈ m.missing wanted ↔ s ∈ wanted ∧ s ∉ m.inbounds := by
  simp [missing]

theorem mem_unwanted {wanted : List InboundSpec} {s : InboundSpec} :
    s ∈ m.unwanted wanted ↔ s ∈ m.inbounds ∧ s ∉ wanted := by
  simp [unwanted]

theorem reconcileInbounds_eq (m : Manager σ) (wanted : List InboundSpec) :
    m.reconcileInbounds d wanted = (m.missing wanted).foldl (createInbound d)
      ((m.unwanted wanted).foldl (closeInbound d) (m, .empty)) := by
  rw [reconcileInbounds, Plan.create_eq_eraseDups]
  rfl

theorem exists_traced (d : Drivers σ) (m : Manager σ) (wanted : List InboundSpec) :
    ∃ answers, Traced d answers wanted m (m.reconcileInbounds d wanted) := by
  rw [reconcileInbounds_eq]
  set mid := (m.unwanted wanted).foldl (closeInbound d) (m, .empty) with mid_eq
  obtain ⟨before, closing, left⟩ := foldl_closeInbound_consults (d := d) (m.unwanted wanted)
    (m, .empty) (m.nodup_inbounds.filter _)
  rw [← mid_eq] at closing left
  have reported : mid.2 = ⟨m.unwanted wanted, [], []⟩ := Layer.foldl_closed (fun _ _ => rfl) _ _
  have idle : ∀ s ∈ m.missing wanted, s ∉ mid.1.inbounds := by
    intro s listed runs
    obtain ⟨h, held, own⟩ := mem_inbounds.mp runs
    rw [left] at held
    exact (mem_missing.mp listed).2 (mem_inbounds.mpr ⟨h, List.mem_of_mem_filter held, own⟩)
  obtain ⟨after, opened⟩ := foldl_createInbound_opened (d := d) (m.missing wanted) mid
    (Plan.nodup_eraseDups _) idle
  let answers s := if s ∈ wanted then after s else before s
  have opened : Opened d answers (m.missing wanted) mid _ := opened.congr fun s listed =>
    (if_pos (mem_missing.mp listed).1).symm
  have closing : m.Consults d
      ((m.unwanted wanted).flatMap fun s => s.closing m (answers s)) mid.1 := by
    have same : ∀ s ∈ m.unwanted wanted, s.closing m (before s) = s.closing m (answers s) :=
      fun s listed => by simp only [answers, if_neg (mem_unwanted.mp listed).2]
    rwa [List.flatMap_congr same] at closing
  have report := opened.report
  rw [reported] at report
  have closed := congrArg Report.closed report
  have created := congrArg Report.created report
  have failed := congrArg Report.failed report
  refine ⟨answers, closing.trans opened.consults, closed, created, failed, ?_, opened.turns⟩
  rw [opened.handles, left, closed, created, List.nil_append, flatMap_listeners]

/-- A reconciliation makes just the calls of its plan, in the order of the plan. What goes is closed
in the order of listing and before the first request for a listener, and each inbound that is
opened is opened by calls of its own, whatever became of those before it. -/
theorem reconciles_as_planned (d : Drivers σ) (m : Manager σ) (wanted : List InboundSpec) :
    let out := m.reconcileInbounds d wanted
    ∃ answers, Traced d answers wanted m out ∧
      out.2.closed.Pairwise (fun a b => InboundSpec.cmp a b = .lt) ∧
      (∀ network s h, m.handle? network (.inbound s) = some h →
        out.1.handle? network (.inbound s) ≠ some h →
          .close h ((answers s).close network) ∈
            (m.unwanted wanted).flatMap fun s => s.closing m (answers s)) ∧
      ∀ s ∈ m.missing wanted,
        (inboundLayer d).about s ((m.missing wanted).flatMap fun s => s.opening d (answers s)) =
          s.opening d (answers s) := by
  intro out
  obtain ⟨answers, traced⟩ := exists_traced d m wanted
  refine ⟨answers, traced, ?_, ?_, ?_⟩
  · rw [traced.closed]
    exact m.inbounds_sorted.filter _
  · intro network s h stored gone
    have goes : s ∈ m.unwanted wanted := by
      by_contra stays
      exact gone (handle?_of_spared traced.handles (traced.closed ▸ stays) stored)
    exact List.mem_flatMap.mpr ⟨s, goes, InboundSpec.mem_closing stored⟩
  · intro s listed
    refine Layer.about_flatMap (Plan.nodup_eraseDups _) (fun s listed c member => ?_) listed
    rcases InboundSpec.mem_opening member with ⟨network, rfl⟩ | ⟨h, rfl, granted⟩
    · rfl
    · have slot := traced.consults.answered.slot_eq
        (List.mem_append_right _ (List.mem_flatMap.mpr ⟨s, listed, granted⟩))
      exact congrArg (fun slot => slot.2.spec?) slot

end Manager

end LocalProxy
