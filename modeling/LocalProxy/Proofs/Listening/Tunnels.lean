import LocalProxy.Listening.Tunnels
import LocalProxy.Proofs.Listening.Inbounds

/-! The tunnels are a layer too, with one slot for each entry. -/
namespace LocalProxy

variable {σ : Type} {d : Drivers σ}

namespace TunnelEntry

def slot (e : TunnelEntry) : Slot := (e.network, e.service)

def ofSlot : Slot → Option TunnelEntry
  | (_, .inbound _) => none
  | (network, .tunnel key) => some ⟨network, key⟩

theorem ofSlot_eq {slot : Slot} {e : TunnelEntry} : ofSlot slot = some e ↔ slot = e.slot := by
  obtain ⟨network, service⟩ := slot
  obtain ⟨network', key⟩ := e
  cases service <;> simp [ofSlot, TunnelEntry.slot, service]

/-- The slot to open, unless the target is no good. -/
def needs (e : TunnelEntry) : Option (List Slot) :=
  if (Target.parse e.key.target).isOk then some [e.slot] else none

theorem needs_eq {e : TunnelEntry} {needed : List Slot} (needs : e.needs = some needed) :
    (Target.parse e.key.target).isOk ∧ needed = [e.slot] := by
  unfold TunnelEntry.needs at needs
  split at needs
  · rename_i good
    exact ⟨good, (Option.some.inj needs).symm⟩
  · cases needs

theorem needs_of_ok {e : TunnelEntry} {target : Target}
    (parsed : Target.parse e.key.target = .ok target) : e.needs = some [e.slot] :=
  if_pos (by rw [parsed]; rfl)

theorem needs_of_error {e : TunnelEntry} {fault : TargetFault}
    (parsed : Target.parse e.key.target = .error fault) : e.needs = none :=
  if_neg (by rw [parsed]; exact Bool.false_ne_true)

end TunnelEntry

namespace Manager

theorem entryOf_eq (h : Handle) : entryOf h = TunnelEntry.ofSlot h.slot := by
  obtain ⟨_, _, service, _⟩ := h
  cases service <;> rfl

theorem mem_tunnels {m : Manager σ} {e : TunnelEntry} :
    e ∈ m.tunnels ↔ ∃ h ∈ m.handles, TunnelEntry.ofSlot h.slot = some e := by
  simp only [tunnels, TunnelEntry.sort, List.mem_mergeSort, List.mem_filterMap, entryOf_eq]

/-- A handle is of an inbound or of a tunnel. -/
theorem handles_eq_nil_iff {m : Manager σ} :
    m.handles = [] ↔ (∀ spec, spec ∉ m.inbounds) ∧ ∀ e, e ∉ m.tunnels := by
  constructor
  · intro empty
    constructor
    · intro spec runs
      obtain ⟨h, held, _⟩ := mem_inbounds.mp runs
      simp [empty] at held
    · intro e runs
      obtain ⟨h, held, _⟩ := mem_tunnels.mp runs
      simp [empty] at held
  · rintro ⟨no_inbound, no_tunnel⟩
    refine List.eq_nil_iff_forall_not_mem.mpr fun h held => ?_
    cases service : h.service with
    | inbound spec =>
      exact no_inbound spec (mem_inbounds.mpr ⟨h, held, congrArg Service.spec? service⟩)
    | tunnel key =>
      refine no_tunnel ⟨h.network, key⟩ (mem_tunnels.mpr ⟨h, held, ?_⟩)
      exact TunnelEntry.ofSlot_eq.mpr (congrArg (Prod.mk h.network) service)

/-- The layer of the tunnels. -/
def tunnelLayer : Layer σ TunnelEntry where
  running := tunnels
  part := TunnelEntry.ofSlot
  needs := TunnelEntry.needs
  mem_running := mem_tunnels
  part_needs needs member := by
    obtain ⟨_, rfl⟩ := TunnelEntry.needs_eq needs
    exact TunnelEntry.ofSlot_eq.mpr (List.mem_singleton.mp member)
  networks_needs needs := by
    obtain ⟨_, rfl⟩ := TunnelEntry.needs_eq needs
    exact List.nodup_singleton _
  needs_some e needs := by cases (TunnelEntry.needs_eq needs).2

/-- No slot is part of both layers. -/
theorem layers_apart {slot : Slot} {spec : InboundSpec} {e : TunnelEntry}
    (part : slot.2.spec? = some spec) : TunnelEntry.ofSlot slot ≠ some e := by
  intro part'
  rw [TunnelEntry.ofSlot_eq.mp part'] at part
  cases part

theorem closeTunnel_law (acc : Manager σ × Report TunnelEntry) (e : TunnelEntry)
    (sole : Sole acc.1.handles) :
    ∃ asked, Clears d (fun slot => TunnelEntry.ofSlot slot = some e) acc.1
      (closeTunnel d acc e).1 asked := by
  obtain ⟨m, report⟩ := acc
  have same : ∀ slot, slot = (e.network, e.service) ↔ TunnelEntry.ofSlot slot = some e :=
    fun slot => TunnelEntry.ofSlot_eq.symm
  simp only [closeTunnel]
  split
  · rename_i answer
    obtain ⟨asked, clears⟩ := release_clears sole answer
    exact ⟨asked, (clears.log _).congr same⟩
  · rename_i answer
    obtain ⟨asked, clears⟩ := release_clears sole answer
    exact ⟨asked, ((clears.log _).log _).congr same⟩

theorem closeTunnel_failed (acc : Manager σ × Report TunnelEntry) (e : TunnelEntry) :
    (closeTunnel d acc e).2.failed = acc.2.failed := rfl

theorem openTunnel_ok {m m' : Manager σ} {e : TunnelEntry} {h : Handle}
    (answer : openTunnel d m e = (.ok h, m')) :
    e.needs = some [e.slot] ∧ m.listen d e.network e.service = (.ok h, m') := by
  unfold openTunnel at answer
  split at answer
  · cases Prod.mk.inj answer |>.1
  · rename_i parsed
    exact ⟨TunnelEntry.needs_of_ok parsed, answer⟩

theorem openTunnel_error {m m' : Manager σ} {e : TunnelEntry} {fault : OpenFault}
    (answer : openTunnel d m e = (.error fault, m')) :
    e.needs = none ∧ m' = m ∨
      e.needs = some [e.slot] ∧ m.listen d e.network e.service = (.error fault, m') := by
  unfold openTunnel at answer
  split at answer
  · rename_i parsed
    exact .inl ⟨TunnelEntry.needs_of_error parsed, (Prod.mk.inj answer).2.symm⟩
  · rename_i parsed
    exact .inr ⟨TunnelEntry.needs_of_ok parsed, answer⟩

theorem createTunnel_law (acc : Manager σ × Report TunnelEntry) (e : TunnelEntry)
    (_ : Sole acc.1.handles) (idle : e ∉ acc.1.tunnels) :
    ∃ asked got, tunnelLayer.Attempt d e acc (createTunnel d acc e) asked got := by
  obtain ⟨m, report⟩ := acc
  have free : ∀ h ∈ m.handles, h.slot ≠ e.slot :=
    fun h held same => idle (mem_tunnels.mpr ⟨h, held, TunnelEntry.ofSlot_eq.mpr same⟩)
  unfold createTunnel
  dsimp only
  split
  · rename_i opened mid answer
    obtain ⟨needs, granted⟩ := openTunnel_ok answer
    obtain ⟨slot, handles, asks, move⟩ := listen_ok granted
    have kept : (mid.keep opened).handles = m.handles ++ [opened] := by
      rw [keep_handles, handles]
      intro old held
      rw [slot]
      exact free old (handles ▸ held)
    have needs_got : e.needs = some ([opened].map Handle.slot) := by
      rw [needs, List.map_singleton, slot]
      rfl
    refine ⟨_, [opened], .opened [opened] needs_got, (asks.keep opened).log _, kept, ?_, ?_⟩
    · rw [log_books, log_handles, keep_books, kept]
      exact .single (move m.handles free)
    · exact (List.append_nil _).symm
  · rename_i fault mid answer
    rcases openTunnel_error answer with ⟨hopeless, rfl⟩ | ⟨needs, refused⟩
    · exact ⟨[], [], .hopeless hopeless, (Asks.nothing mid).log _, (List.append_nil _).symm, .refl,
        List.map_append⟩
    · obtain ⟨handles, asks, move⟩ := listen_error refused
      refine ⟨_, [], .refused [] e.slot [] fault (fun _ => none) needs, asks.log _, ?_, ?_,
        List.map_append⟩
      · rw [log_handles, handles, List.append_nil]
      · rw [log_books, log_handles, handles]
        exact .single (move m.handles free)

theorem replaceTunnels_reconciles {m : Manager σ} (sole : Sole m.handles)
    (wanted : List TunnelSpec) :
    ∃ asked, tunnelLayer.Reconciles d (wanted.flatMap TunnelSpec.entries) m
      (m.replaceTunnels d wanted) asked :=
  Layer.Reconciles.of_foldl closeTunnel_law closeTunnel_failed createTunnel_law sole _

/-- Closing everything gives up every handle. -/
theorem closeAll_spec {m : Manager σ} (sole : Sole m.handles) :
    (m.closeAll d).handles = [] ∧
      Moves d (m.books m.handles) ((m.closeAll d).books (m.closeAll d).handles) := by
  obtain ⟨_, inbounds⟩ := Clears.of_foldl id closeSpec_clears sole m.inbounds
  obtain ⟨_, tunnels⟩ := replaceTunnels_reconciles (d := d) (inbounds.moves.sole sole) []
  refine ⟨handles_eq_nil_iff.mpr ⟨?_, ?_⟩, inbounds.moves.trans tunnels.moves⟩
  · intro spec runs
    obtain ⟨h, member, part⟩ := mem_inbounds.mp runs
    rcases tunnels.held_or_new member with ⟨held, _⟩ | ⟨_, desired, _⟩
    · obtain ⟨before, unlisted⟩ := (inbounds.handles h).mp held
      exact unlisted ⟨spec, mem_inbounds.mpr ⟨h, before, part⟩, part⟩
    · cases desired
  · intro e runs
    cases (tunnels.running_iff.mp runs).1

end Manager

end LocalProxy
