import LocalProxy.Proofs.Listening.Tunnels

/-! Reconciliations that are dropped. A listener is awaited while it is opened and while it is
closed, and the task that awaits it may be dropped there: nothing that was to come after happens,
the listener that was awaited is not kept, and the call may have left the outside in any
state. -/
namespace LocalProxy

/-- A fold is dropped within one of its steps, which leaves something of what those before it came
to. -/
inductive DroppedIn {β α γ : Type} (step : β → α → β) (leaves : β → α → γ → Prop) :
    β → List α → γ → Prop
  | here {b : β} {x : α} {xs : List α} {c : γ} (left : leaves b x c) :
      DroppedIn step leaves b (x :: xs) c
  | later {b : β} {x : α} {xs : List α} {c : γ} (left : DroppedIn step leaves (step b x) xs c) :
      DroppedIn step leaves b (x :: xs) c

namespace DroppedIn

variable {β α γ : Type} {step : β → α → β} {leaves : β → α → γ → Prop} {b : β} {x : α}
  {xs : List α} {c : γ}

theorem cons_iff :
    DroppedIn step leaves b (x :: xs) c ↔
      leaves b x c ∨ DroppedIn step leaves (step b x) xs c := by
  constructor
  · rintro (left | left)
    · exact .inl left
    · exact .inr left
  · rintro (left | left)
    · exact .here left
    · exact .later left

/-- The steps before the one that is dropped were made. -/
theorem iff_split :
    DroppedIn step leaves b xs c ↔
      ∃ before x after, xs = before ++ x :: after ∧ leaves (before.foldl step b) x c := by
  constructor
  · intro dropped
    induction dropped with
    | here left => exact ⟨[], _, _, rfl, left⟩
    | later _ ih =>
      obtain ⟨before, x, after, rfl, left⟩ := ih
      exact ⟨_ :: before, x, after, rfl, left⟩
  · rintro ⟨before, x, after, rfl, left⟩
    induction before generalizing b with
    | nil => exact .here left
    | cons _ before ih => exact .later (ih left)

end DroppedIn

variable {σ κ ι : Type} {d : Drivers σ} {m mid m' left : Manager σ}

namespace Manager

/-- A manager whose call to the outside has left that in some state. -/
def awaiting (m : Manager σ) (outside : σ) : Manager σ := { m with outside := outside }

/-- A manager that has given up the handle of a network and service. -/
def without (m : Manager σ) (network : Network) (service : Service) : Manager σ :=
  { m with handles := m.handles.filter fun x => !(x.network == network && x.service == service) }

/-- A handle is given up before its closing is awaited. -/
inductive ReleaseLeaves (m : Manager σ) (network : Network) (service : Service) :
    Manager σ → Prop
  | closing {h : Handle} (held : m.handle? network service = some h) (outside : σ) :
      ReleaseLeaves m network service ((m.without network service).awaiting outside)

/-- Closes the listener of an inbound on one network. -/
def closeOn (d : Drivers σ) (spec : InboundSpec) (m : Manager σ) (network : Network) :
    Manager σ :=
  match m.release d network (.inbound spec) with
  | (none, m) => m
  | (some reason, m) => m.log (.of .warn "Inbound close failed"
      [spec.logName, ("network", .text network.name), ("error", .text reason)])

theorem closeSpec_eq (m : Manager σ) (spec : InboundSpec) :
    closeSpec d m spec = [Network.tcp, .udp].foldl (closeOn d spec) m := rfl

def CloseLeaves (d : Drivers σ) (m : Manager σ) (spec : InboundSpec) : Manager σ → Prop :=
  DroppedIn (closeOn d spec) (fun m network => m.ReleaseLeaves network (.inbound spec)) m
    [.tcp, .udp]

/-- The listeners of an inbound are kept only once both are there. -/
inductive OpenLeaves (d : Drivers σ) (m : Manager σ) (spec : InboundSpec) : Manager σ → Prop
  | tcp (port : spec.port? ≠ none) (served : d.serves .tcp spec.type) (outside : σ) :
      OpenLeaves d m spec (m.awaiting outside)
  | udp {got : Option Handle} {mid : Manager σ} (port : spec.port? ≠ none)
      (first : listenIfServed d m .tcp spec = (.ok got, mid))
      (served : d.serves .udp spec.type) (outside : σ) :
      OpenLeaves d m spec (mid.awaiting outside)
  | rollingBack {h : Handle} {mid last : Manager σ} {fault : OpenFault} (port : spec.port? ≠ none)
      (first : listenIfServed d m .tcp spec = (.ok (some h), mid))
      (second : listenIfServed d mid .udp spec = (.error fault, last)) (outside : σ) :
      OpenLeaves d m spec (last.awaiting outside)

/-- A reconciliation of the inbounds is dropped while it closes some, or while it opens some. -/
inductive ReconcileLeaves (d : Drivers σ) (m : Manager σ) (wanted : List InboundSpec)
    (left : Manager σ) : Prop
  | closing (dropped : DroppedIn (closeInbound d) (fun acc spec => CloseLeaves d acc.1 spec)
      (m, .empty) (Plan.between m.inbounds wanted).close left)
  | opening (dropped : DroppedIn (createInbound d) (fun acc spec => OpenLeaves d acc.1 spec)
      ((Plan.between m.inbounds wanted).close.foldl (closeInbound d) (m, .empty))
      (Plan.between m.inbounds wanted).create left)

/-- A tunnel is awaited unless its target is none. -/
def OpenTunnelLeaves (m : Manager σ) (e : TunnelEntry) (left : Manager σ) : Prop :=
  (Target.parse e.key.target).isOk ∧ ∃ outside, left = m.awaiting outside

/-- A reconciliation of the tunnels is dropped while it closes some, or while it opens some. -/
inductive TunnelsLeave (d : Drivers σ) (m : Manager σ) (wanted : List TunnelSpec)
    (left : Manager σ) : Prop
  | closing (dropped : DroppedIn (closeTunnel d)
      (fun acc e => acc.1.ReleaseLeaves e.network e.service) (m, .empty)
      (Plan.between m.tunnels (wanted.flatMap TunnelSpec.entries)).close left)
  | opening (dropped : DroppedIn (createTunnel d) (fun acc e => acc.1.OpenTunnelLeaves e)
      ((Plan.between m.tunnels (wanted.flatMap TunnelSpec.entries)).close.foldl (closeTunnel d)
        (m, .empty))
      (Plan.between m.tunnels (wanted.flatMap TunnelSpec.entries)).create left)

/-- Some handles were given up, and nothing else that is kept has changed. -/
structure Shrinks (m m' : Manager σ) : Prop where
  handles : m'.handles.Sublist m.handles
  binding : m'.binding = m.binding

namespace Shrinks

theorem refl (m : Manager σ) : m.Shrinks m := ⟨.refl _, rfl⟩

theorem trans (first : m.Shrinks mid) (second : mid.Shrinks m') : m.Shrinks m' :=
  ⟨second.handles.trans first.handles, second.binding.trans first.binding⟩

theorem log (shrinks : m.Shrinks m') (r : Record) : m.Shrinks (m'.log r) :=
  ⟨shrinks.handles, shrinks.binding⟩

theorem sole (shrinks : m.Shrinks m') (sole : Sole m.handles) : Sole m'.handles :=
  sole.sublist (shrinks.handles.map _)

theorem foldl {τ α : Type} (view : τ → Manager σ) {step : τ → α → τ}
    (law : ∀ t a, (view t).Shrinks (view (step t a))) (t : τ) (as : List α) :
    (view t).Shrinks (view (as.foldl step t)) := by
  induction as generalizing t with
  | nil => exact .refl _
  | cons a as ih => exact (law t a).trans (ih _)

/-- Where every step shrinks a manager, so does a fold of them that is dropped. -/
theorem dropped {τ α : Type} (view : τ → Manager σ) {step : τ → α → τ}
    {leaves : τ → α → Manager σ → Prop} (law : ∀ t a, (view t).Shrinks (view (step t a)))
    (law_left : ∀ t a left, leaves t a left → (view t).Shrinks left) {t : τ} {as : List α}
    (dropped : DroppedIn step leaves t as left) : (view t).Shrinks left := by
  obtain ⟨before, a, after, rfl, last⟩ := DroppedIn.iff_split.mp dropped
  exact (foldl view law t before).trans (law_left _ a left last)

end Shrinks

theorem release_shrinks (m : Manager σ) (network : Network) (service : Service) :
    m.Shrinks (m.release d network service).2 := by
  unfold release
  split
  · exact .refl m
  · exact ⟨List.filter_sublist, rfl⟩

theorem ReleaseLeaves.shrinks {network : Network} {service : Service}
    (leaves : m.ReleaseLeaves network service left) : m.Shrinks left := by
  obtain ⟨_, outside⟩ := leaves
  exact ⟨List.filter_sublist, rfl⟩

theorem closeOn_shrinks (m : Manager σ) (spec : InboundSpec) (network : Network) :
    m.Shrinks (closeOn d spec m network) := by
  have released := release_shrinks (d := d) m network (.inbound spec)
  unfold closeOn
  split <;> rename_i answer <;> rw [answer] at released
  · exact released
  · exact released.log _

theorem CloseLeaves.shrinks {spec : InboundSpec} (leaves : CloseLeaves d m spec left) :
    m.Shrinks left :=
  Shrinks.dropped id (fun m network => closeOn_shrinks m spec network)
    (fun _ _ _ last => last.shrinks) leaves

theorem closeInbound_shrinks (acc : Manager σ × Report InboundSpec) (spec : InboundSpec) :
    acc.1.Shrinks (closeInbound d acc spec).1 := by
  have closed : acc.1.Shrinks (closeSpec d acc.1 spec) := by
    rw [closeSpec_eq]
    exact Shrinks.foldl id (fun m network => closeOn_shrinks m spec network) acc.1 _
  exact closed.log _

theorem closeTunnel_shrinks (acc : Manager σ × Report TunnelEntry) (e : TunnelEntry) :
    acc.1.Shrinks (closeTunnel d acc e).1 := by
  obtain ⟨m, report⟩ := acc
  have released := release_shrinks (d := d) m e.network e.service
  simp only [closeTunnel]
  split <;> rename_i answer <;> rw [answer] at released
  · exact released.log _
  · exact (released.log _).log _

/-- What is opened is not kept yet where the opening is dropped. -/
theorem OpenLeaves.keeps {spec : InboundSpec} (leaves : OpenLeaves d m spec left) :
    left.handles = m.handles ∧ left.binding = m.binding := by
  cases leaves with
  | tcp _ _ outside => exact ⟨rfl, rfl⟩
  | udp _ first _ outside =>
    obtain ⟨_, handles, asks, _⟩ := listenIfServed_ok first
    exact ⟨handles, asks.binding⟩
  | rollingBack _ first second outside =>
    obtain ⟨_, handles, asks, _⟩ := listenIfServed_ok first
    obtain ⟨_, handles', asks', _⟩ := listenIfServed_error second
    exact ⟨handles'.trans handles, asks'.binding.trans asks.binding⟩

theorem OpenLeaves.needs {spec : InboundSpec} (leaves : OpenLeaves d m spec left) :
    spec.needs d ≠ none := by
  have possible : ∀ network, spec.port? ≠ none → spec.slotOn d network ≠ [] →
      spec.needs d ≠ none := by
    intro network port served
    rw [InboundSpec.needs, if_neg]
    · exact Option.some_ne_none _
    · rintro (hopeless | unserved)
      · exact port hopeless
      · obtain ⟨no_tcp, no_udp⟩ := List.append_eq_nil_iff.mp unserved
        cases network
        · exact served no_tcp
        · exact served no_udp
  cases leaves with
  | tcp port served => exact possible .tcp port (by simp [InboundSpec.slotOn, served])
  | udp port _ served => exact possible .udp port (by simp [InboundSpec.slotOn, served])
  | rollingBack port _ second =>
    refine possible .udp port ?_
    rw [(listenIfServed_error second).1]
    exact List.cons_ne_nil _ _

/-- An inbound that may be opened at all is awaited. -/
theorem OpenLeaves.exists_of_needs {spec : InboundSpec} (needs : spec.needs d ≠ none)
    (m : Manager σ) : ∃ left, OpenLeaves d m spec left := by
  obtain ⟨needed, eq⟩ := Option.ne_none_iff_exists'.mp needs
  obtain ⟨port, some_needed, rfl⟩ := InboundSpec.needs_eq eq
  cases tcp : d.serves .tcp spec.type with
  | true => exact ⟨_, .tcp port tcp m.outside⟩
  | false =>
    have udp : d.serves .udp spec.type = true := by
      by_contra unserved
      exact some_needed (by simp [InboundSpec.slotOn, tcp, unserved])
    have first : listenIfServed d m .tcp spec = (.ok none, m) := by simp [listenIfServed, tcp]
    exact ⟨_, .udp port first udp m.outside⟩

theorem OpenTunnelLeaves.keeps {e : TunnelEntry} (leaves : m.OpenTunnelLeaves e left) :
    left.handles = m.handles ∧ left.binding = m.binding := by
  obtain ⟨_, _, rfl⟩ := leaves
  exact ⟨rfl, rfl⟩

theorem OpenTunnelLeaves.needs {e : TunnelEntry} (leaves : m.OpenTunnelLeaves e left) :
    e.needs ≠ none := by
  rw [TunnelEntry.needs, if_pos leaves.1]
  exact Option.some_ne_none _

end Manager

namespace Layer

open Manager

variable {L : Layer σ κ}

/-- Only some keys were opened so far, of those that are to be; each runs if it does so in the
end. -/
structure Begun (L : Layer σ κ) (before : List κ) (m out left : Manager σ) : Prop where
  binding : left.binding = m.binding
  sole : Sole left.handles
  handles : ∀ h ∈ left.handles, h ∈ m.handles ∨ ∃ k ∈ before, L.part h.slot = some k
  running : ∀ k ∈ before, k ∈ L.running left ↔ k ∈ L.running out

/-- Where a reconciliation was dropped, it had only closed some handles so far, or had opened those
keys that come before one that it awaited. -/
inductive Midway (L : Layer σ κ) (create : List κ) (m out left : Manager σ) : Prop
  | closing (shrinks : m.Shrinks left)
  | opening {before after : List κ} {k : κ} (split : create = before ++ k :: after)
      (awaited : L.needs k ≠ none) (begun : L.Begun before m out left)

theorem running_congr (same : left.handles = m.handles) {k : κ} :
    k ∈ L.running left ↔ k ∈ L.running m := by
  rw [L.mem_running, L.mem_running, same]

theorem running_of_shrinks (shrinks : m.Shrinks left) {k : κ} (runs : k ∈ L.running left) :
    k ∈ L.running m := by
  obtain ⟨h, held, part⟩ := L.mem_running.mp runs
  exact L.mem_running.mpr ⟨h, shrinks.handles.subset held, part⟩

/-- The keys that come first are opened as if no others followed. -/
theorem begun_of_foldl {create : Manager σ × Report κ → κ → Manager σ × Report κ}
    (law : ∀ acc k, Sole acc.1.handles → k ∉ L.running acc.1 →
      ∃ asked got, L.Attempt d k acc (create acc k) asked got)
    {acc : Manager σ × Report κ} (sole : Sole acc.1.handles) {before rest : List κ}
    (once : (before ++ rest).Nodup) (idle : ∀ k ∈ before ++ rest, k ∉ L.running acc.1) :
    L.Begun before acc.1 ((before ++ rest).foldl create acc).1 (before.foldl create acc).1 := by
  obtain ⟨once_before, once_rest, apart⟩ := List.nodup_append.mp once
  obtain ⟨asked, got, opens⟩ := Opens.of_foldl law sole once_before
    fun k listed => idle k (List.mem_append_left _ listed)
  have sole_mid := opens.moves.sole sole
  have idle_rest : ∀ k ∈ rest, k ∉ L.running (before.foldl create acc).1 := by
    intro k listed runs
    obtain ⟨h, member, part⟩ := L.mem_running.mp runs
    rcases List.mem_append.mp (opens.handles ▸ member) with old | new
    · exact idle k (List.mem_append_right _ listed) (L.mem_running.mpr ⟨h, old, part⟩)
    · obtain ⟨k', listed', part'⟩ := opens.part_got new
      exact apart k' listed' k listed (Option.some.inj (part'.symm.trans part))
  obtain ⟨asked', got', opens'⟩ := Opens.of_foldl law sole_mid once_rest idle_rest
  refine ⟨opens.asks.binding, sole_mid, fun h member => ?_, fun k listed => ?_⟩
  · rcases List.mem_append.mp (opens.handles ▸ member) with old | new
    · exact .inl old
    · exact .inr (opens.part_got new)
  · rw [List.foldl_append, L.mem_running, L.mem_running, opens'.handles]
    refine exists_congr fun h => and_congr_left fun part => ?_
    rw [List.mem_append]
    refine (or_iff_left fun late => ?_).symm
    obtain ⟨k', listed', part'⟩ := opens'.part_got late
    exact apart k listed k' listed' (Option.some.inj (part.symm.trans part'))

theorem Begun.of_keeps {before : List κ} {out : Manager σ} (begun : L.Begun before m out mid)
    (keeps : left.handles = mid.handles ∧ left.binding = mid.binding) :
    L.Begun before m out left where
  binding := keeps.2.trans begun.binding
  sole := keeps.1 ▸ begun.sole
  handles h member := begun.handles h (keeps.1 ▸ member)
  running k listed := (running_congr keeps.1).trans (begun.running k listed)

/-- A key is opened before another one that is awaited. -/
def Early (L : Layer σ κ) (create : List κ) (k : κ) : Prop :=
  ∃ before next after, create = before ++ next :: after ∧ L.needs next ≠ none ∧ k ∈ before

theorem Early.mem {create : List κ} {k : κ} (early : L.Early create k) : k ∈ create := by
  obtain ⟨before, _, _, rfl, _, listed⟩ := early
  exact List.mem_append_left _ listed

namespace Midway

variable {ks : List κ} {out : Manager σ} {k : κ} {i : ι}

theorem binding (midway : L.Midway ks m out left) : left.binding = m.binding := by
  cases midway with
  | closing shrinks => exact shrinks.binding
  | opening _ _ begun => exact begun.binding

theorem sole (midway : L.Midway ks m out left) (sole : Sole m.handles) : Sole left.handles := by
  cases midway with
  | closing shrinks => exact shrinks.sole sole
  | opening _ _ begun => exact begun.sole

/-- What runs midway ran before, or was opened before what is awaited. -/
theorem running (midway : L.Midway ks m out left) (runs : k ∈ L.running left) :
    k ∈ L.running m ∨ L.Early ks k ∧ k ∈ L.running out := by
  cases midway with
  | closing shrinks => exact .inl (running_of_shrinks shrinks runs)
  | opening split awaited begun =>
    obtain ⟨h, member, part⟩ := L.mem_running.mp runs
    rcases begun.handles h member with old | ⟨k', early, part'⟩
    · exact .inl (L.mem_running.mpr ⟨h, old, part⟩)
    · obtain rfl := Option.some.inj (part.symm.trans part')
      exact .inr ⟨⟨_, _, _, split, awaited, early⟩, (begun.running k early).mp runs⟩

/-- No key of another layer is opened. -/
theorem running_apart (midway : L.Midway ks m out left) (L' : Layer σ ι)
    (apart : ∀ slot k, L'.part slot = some i → L.part slot ≠ some k)
    (runs : i ∈ L'.running left) : i ∈ L'.running m := by
  obtain ⟨h, member, part⟩ := L'.mem_running.mp runs
  refine L'.mem_running.mpr ⟨h, ?_, part⟩
  cases midway with
  | closing shrinks => exact shrinks.handles.subset member
  | opening _ _ begun =>
    refine (begun.handles h member).resolve_right ?_
    rintro ⟨k, _, part'⟩
    exact apart h.slot k part part'

end Midway

variable [DecidableEq κ] {close create : Manager σ × Report κ → κ → Manager σ × Report κ}

/-- What was opened by a reconciliation, up to one of the keys that are to be. -/
theorem begun_of_split
    (close_shrinks : ∀ (acc : Manager σ × Report κ) k, acc.1.Shrinks (close acc k).1)
    (create_law : ∀ acc k, Sole acc.1.handles → k ∉ L.running acc.1 →
      ∃ asked got, L.Attempt d k acc (create acc k) asked got)
    (sole : Sole m.handles) {wanted before rest : List κ}
    (split : (Plan.between (L.running m) wanted).create = before ++ rest) :
    let closed := (Plan.between (L.running m) wanted).close.foldl close (m, Report.empty)
    L.Begun before m ((before ++ rest).foldl create closed).1
      (before.foldl create closed).1 := by
  intro closed
  have shrinks : m.Shrinks closed.1 := Shrinks.foldl Prod.fst close_shrinks (m, .empty) _
  have once : (before ++ rest).Nodup := split ▸ Plan.nodup_create _ _
  have begun := begun_of_foldl create_law (shrinks.sole sole) once fun k listed runs =>
    (Plan.mem_create.mp (split ▸ listed)).2 (running_of_shrinks shrinks runs)
  refine ⟨begun.binding.trans shrinks.binding, begun.sole, fun h member => ?_, begun.running⟩
  exact (begun.handles h member).imp_left fun kept => shrinks.handles.subset kept

theorem Midway.of_opening {openLeaves : Manager σ × Report κ → κ → Manager σ → Prop}
    (close_shrinks : ∀ (acc : Manager σ × Report κ) k, acc.1.Shrinks (close acc k).1)
    (create_law : ∀ acc k, Sole acc.1.handles → k ∉ L.running acc.1 →
      ∃ asked got, L.Attempt d k acc (create acc k) asked got)
    (keeps : ∀ (acc : Manager σ × Report κ) k left, openLeaves acc k left →
      left.handles = acc.1.handles ∧ left.binding = acc.1.binding)
    (needs : ∀ (acc : Manager σ × Report κ) k left, openLeaves acc k left → L.needs k ≠ none)
    (sole : Sole m.handles) {wanted : List κ} :
    let plan := Plan.between (L.running m) wanted
    let closed := plan.close.foldl close (m, Report.empty)
    DroppedIn create openLeaves closed plan.create left →
      L.Midway plan.create m (plan.create.foldl create closed).1 left := by
  intro plan closed dropped
  obtain ⟨before, k, after, split, leaves⟩ := DroppedIn.iff_split.mp dropped
  have begun := begun_of_split close_shrinks create_law sole split
  rw [← split] at begun
  exact .opening split (needs _ k left leaves) (begun.of_keeps (keeps _ k left leaves))

end Layer

namespace Manager

theorem ReconcileLeaves.midway (sole : Sole m.handles) {wanted : List InboundSpec}
    (leaves : ReconcileLeaves d m wanted left) :
    (inboundLayer d).Midway (Plan.between m.inbounds wanted).create m
      (m.reconcileInbounds d wanted).1 left := by
  cases leaves with
  | closing dropped =>
    exact .closing <| Shrinks.dropped Prod.fst closeInbound_shrinks
      (fun _ _ _ last => last.shrinks) dropped
  | opening dropped =>
    exact Layer.Midway.of_opening closeInbound_shrinks createInbound_law
      (fun _ _ _ last => last.keeps) (fun _ _ _ last => last.needs) sole dropped

/-- A reconciliation can be dropped at each inbound that is opened and may be at all, once those
before it are. -/
theorem ReconcileLeaves.exists_of_split (sole : Sole m.handles)
    {wanted before after : List InboundSpec} {spec : InboundSpec}
    (split : (Plan.between m.inbounds wanted).create = before ++ spec :: after)
    (needs : spec.needs d ≠ none) :
    ∃ left, ReconcileLeaves d m wanted left ∧
      (inboundLayer d).Begun before m (m.reconcileInbounds d wanted).1 left := by
  have begun := Layer.begun_of_split (L := inboundLayer d) (closeInbound_shrinks (d := d))
    createInbound_law sole split
  obtain ⟨left, leaves⟩ := OpenLeaves.exists_of_needs needs
    (before.foldl (createInbound d)
      ((Plan.between m.inbounds wanted).close.foldl (closeInbound d) (m, .empty))).1
  refine ⟨left, .opening (DroppedIn.iff_split.mpr ⟨before, spec, after, split, leaves⟩), ?_⟩
  rw [reconcileInbounds, split]
  exact begun.of_keeps leaves.keeps

theorem TunnelsLeave.midway (sole : Sole m.handles) {wanted : List TunnelSpec}
    (leaves : TunnelsLeave d m wanted left) :
    tunnelLayer.Midway (Plan.between m.tunnels (wanted.flatMap TunnelSpec.entries)).create m
      (m.replaceTunnels d wanted).1 left := by
  cases leaves with
  | closing dropped =>
    exact .closing <| Shrinks.dropped Prod.fst closeTunnel_shrinks
      (fun _ _ _ last => last.shrinks) dropped
  | opening dropped =>
    exact Layer.Midway.of_opening closeTunnel_shrinks createTunnel_law
      (fun _ _ _ last => last.keeps) (fun _ _ _ last => last.needs) sole dropped

end Manager

end LocalProxy
