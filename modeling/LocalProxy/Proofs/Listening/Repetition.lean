import LocalProxy.Proofs.Listening.Runs

/-! Reconciling twice. The second time there is nothing to close, and what is left to open is what
failed the first time, whatever the outside said then and says now. -/
namespace LocalProxy

variable {σ κ : Type} [DecidableEq κ] {d : Drivers σ}

namespace Plan

variable {running wanted : List κ}

/-- Some keys are wanted together with others, which are carried over. -/
def Beside (own carried wanted : List κ) : Prop :=
  wanted = own ++ carried ∨ wanted = carried ++ own

omit [DecidableEq κ] in
theorem Beside.mem {own carried : List κ} (beside : Beside own carried wanted) {k : κ} :
    k ∈ wanted ↔ k ∈ own ∨ k ∈ carried := by
  rcases beside with rfl | rfl
  · exact List.mem_append
  · exact List.mem_append.trans or_comm

/-- What is carried over runs, and so there is nothing to do for it. -/
theorem Beside.filter {own carried : List κ} (beside : Beside own carried wanted)
    (ran : ∀ k ∈ carried, k ∈ running) :
    wanted.filter (· ∉ running) = own.filter (· ∉ running) := by
  have none : carried.filter (· ∉ running) = [] :=
    List.filter_eq_nil_iff.mpr fun k listed => by simpa using ran k listed
  rcases beside with rfl | rfl
  · rw [List.filter_append, none, List.append_nil]
  · rw [List.filter_append, none, List.nil_append]

/-- A part of a list without repetitions is what the list has in common with it. -/
theorem eq_filter_of_sublist {part ks : List κ} (sub : part.Sublist ks) (once : ks.Nodup) :
    part = ks.filter (· ∈ part) := by
  have all : part.filter (· ∈ part) = part := List.filter_eq_self.mpr fun k => by simp
  have within : part.Sublist (ks.filter (· ∈ part)) := by
    simpa only [all] using sub.filter (· ∈ part)
  refine within.eq_of_length_le ((once.filter _).length_le_of_subset fun k member => ?_)
  simpa using (List.mem_filter.mp member).2

/-- A part of a list without repetitions keeps what some test says is in it. -/
theorem eq_filter_of_mem {part ks : List κ} (sub : part.Sublist ks) (once : ks.Nodup)
    (p : κ → Bool) (mem : ∀ k ∈ ks, k ∈ part ↔ p k) : part = ks.filter p := by
  refine (eq_filter_of_sublist sub once).trans (List.filter_congr fun k listed => ?_)
  rw [Bool.eq_iff_iff, decide_eq_true_eq]
  exact mem k listed

end Plan

namespace Layer

variable {L : Layer σ κ} {ks wanted : List κ} {m : Manager σ} {acc acc' out : Manager σ × Report κ}
  {asked : List Call} {got : List Handle}

omit [DecidableEq κ] in
/-- Failures are reported in the order of the keys. -/
theorem Opens.failed_sublist (opens : L.Opens d ks acc acc' asked got) :
    ∃ failed, acc'.2.failed.map Prod.fst = acc.2.failed.map Prod.fst ++ failed ∧
      failed.Sublist ks := by
  induction opens with
  | nil => exact ⟨[], (List.append_nil _).symm, .slnil⟩
  | @cons k ks _ _ _ _ _ got _ first _ ih =>
    obtain ⟨failed, reported, sub⟩ := ih
    refine ⟨(if got = [] then [k] else []) ++ failed, ?_, ?_⟩
    · rw [reported, first.failed, List.append_assoc]
    · split
      · exact sub.cons_cons k
      · exact sub.cons k

/-- What failed is what is wanted and does not run, in the order of first mention. -/
theorem Reconciles.failed_eq (run : L.Reconciles d wanted m out asked) :
    out.2.failed.map Prod.fst = Plan.firsts [] (wanted.filter (· ∉ L.running out.1)) := by
  have sub : (out.2.failed.map Prod.fst).Sublist (Plan.between (L.running m) wanted).create := by
    obtain ⟨closing, opening⟩ := run
    obtain ⟨failed, reported, sub⟩ := opening.failed_sublist
    rw [reported, closing.failed]
    exact sub
  have idle : ∀ k ∈ (Plan.between (L.running m) wanted).create,
      k ∈ out.2.failed.map Prod.fst ↔ k ∉ L.running out.1 := by
    intro k listed
    obtain ⟨desired, idle⟩ := Plan.mem_create.mp listed
    rw [run.failed_iff, run.running_iff, run.denied_iff desired idle]
    simp [desired, idle]
  -- The plan leaves out what ran before. That runs still, so it does not count as failed either.
  have stays : ∀ k ∈ wanted, (k ∉ L.running m ∧ k ∉ L.running out.1) ↔ k ∉ L.running out.1 := by
    intro k desired
    simp only [run.running_iff, desired, true_and, not_or]
    tauto
  rw [Plan.eq_filter_of_mem sub (Plan.nodup_create _ _) (· ∉ L.running out.1)
    fun k listed => by simpa using idle k listed,
    Plan.create_eq, Plan.filter_firsts, List.filter_filter]
  congr 1
  refine List.filter_congr fun k desired => ?_
  rw [← Bool.decide_and, decide_eq_decide, and_comm, stays k desired]

/-- Some keys are wanted twice, each time beside what runs of the others. All that runs the second
time is among these; so there is nothing to close, and just what failed is left to be opened. -/
theorem Reconciles.next_plan (run : L.Reconciles d wanted m out asked)
    {own carried running carried' again : List κ} (first : Plan.Beside own carried wanted)
    (second : Plan.Beside own carried' again) (ran : ∀ k ∈ carried, k ∈ L.running m)
    (runs : ∀ k ∈ carried', k ∈ running) (all : ∀ k ∈ running, k ∈ own ∨ k ∈ carried')
    (same : ∀ k ∈ own, k ∈ running ↔ k ∈ L.running out.1) :
    Plan.between running again = ⟨[], out.2.failed.map Prod.fst⟩ := by
  have stayed : ∀ k ∈ carried, k ∈ L.running out.1 := fun k member =>
    run.running_iff.mpr ⟨first.mem.mpr (.inr member), .inl (ran k member)⟩
  have left : again.filter (· ∉ running) = wanted.filter (· ∉ L.running out.1) := by
    rw [first.filter stayed, second.filter runs]
    refine List.filter_congr fun k member => ?_
    rw [decide_eq_decide, same k member]
  have close := Plan.close_eq_nil fun k member => second.mem.mpr (all k member)
  have create : (Plan.between running again).create = out.2.failed.map Prod.fst := by
    rw [Plan.create_eq, left, run.failed_eq]
  exact congrArg₂ Plan.mk close create

/-- Of some keys, each is tried once, in their order, and nothing else is done: no listener that is
open is touched, and none is closed but those that were opened along the way. The calls that this
takes are those that the outside has answered. -/
structure Tries (L : Layer σ κ) (d : Drivers σ)
    (create : Manager σ × Report κ → κ → Manager σ × Report κ)
    (ks : List κ) (m : Manager σ) (out : Manager σ × Report κ) : Prop where
  result : out = ks.foldl create (m, .empty)
  nothing : ks = [] → out = (m, .empty)
  once : ks.Nodup
  closed : out.2.closed = []
  kept : m.handles <+: out.1.handles
  asked : ∃ asked, m.Consults d asked out.1 ∧
    (∀ c ∈ asked, (∃ k ∈ ks, L.part c.slot = some k) ∧ ∀ h ∈ m.handles, c.slot ≠ h.slot) ∧
    ∀ h failure, .close h failure ∈ asked → .granting h ∈ asked

omit [DecidableEq κ] in
theorem Result.granted_of_close {k : κ} (result : L.Result k asked got) {h : Handle}
    {failure : Option String} (member : .close h failure ∈ asked) : .granting h ∈ asked := by
  cases result with
  | opened | hopeless => simp at member
  | refused tried slot rest fault failures needs =>
    have held : h ∈ tried ∧ failures h = failure := by simpa using member
    exact List.mem_append_left _ (List.mem_map_of_mem held.1)

omit [DecidableEq κ] in
theorem Opens.granted_of_close (opens : L.Opens d ks acc acc' asked got) {h : Handle}
    {failure : Option String} (member : .close h failure ∈ asked) : .granting h ∈ asked := by
  induction opens with
  | nil => cases member
  | cons first _ ih =>
    rcases List.mem_append.mp member with now | later
    · exact List.mem_append_left _ (first.result.granted_of_close now)
    · exact List.mem_append_right _ (ih later)

omit [DecidableEq κ] in
/-- What was closed stands in the report while keys are opened. -/
theorem closed_foldl {create : Manager σ × Report κ → κ → Manager σ × Report κ}
    (closed : ∀ acc k, (create acc k).2.closed = acc.2.closed) (ks : List κ)
    (acc : Manager σ × Report κ) : (ks.foldl create acc).2.closed = acc.2.closed := by
  induction ks generalizing acc with
  | nil => rfl
  | cons k ks ih => exact (ih (create acc k)).trans (closed acc k)

omit [DecidableEq κ] in
/-- Keys that are closed are reported in their order. -/
theorem foldl_closed {close : Manager σ × Report κ → κ → Manager σ × Report κ}
    (closed : ∀ acc k, (close acc k).2 = { acc.2 with closed := acc.2.closed ++ [k] })
    (ks : List κ) (acc : Manager σ × Report κ) :
    (ks.foldl close acc).2 = { acc.2 with closed := acc.2.closed ++ ks } := by
  induction ks generalizing acc with
  | nil => simp
  | cons k ks ih =>
    rw [List.foldl_cons, ih, closed]
    simp

/-- Whatever opens a single key tries the keys of a plan that closes nothing. -/
theorem Tries.of_plan {create : Manager σ × Report κ → κ → Manager σ × Report κ}
    (law : ∀ acc k, Sole acc.1.handles → k ∉ L.running acc.1 →
      ∃ asked got, L.Attempt d k acc (create acc k) asked got)
    (closed : ∀ acc k, (create acc k).2.closed = acc.2.closed) (sole : Sole m.handles)
    (plan : Plan.between (L.running m) wanted = ⟨[], ks⟩) :
    L.Tries d create ks m (ks.foldl create (m, .empty)) := by
  have create_eq : (Plan.between (L.running m) wanted).create = ks := congrArg Plan.create plan
  have once : ks.Nodup := create_eq ▸ Plan.nodup_create _ _
  have idle : ∀ k ∈ ks, k ∉ L.running m := fun k listed =>
    (Plan.mem_create.mp (create_eq ▸ listed)).2
  obtain ⟨asked, got, opens⟩ : ∃ asked got,
      L.Opens d ks (m, .empty) (ks.foldl create (m, .empty)) asked got :=
    Opens.of_foldl law sole once idle
  refine ⟨rfl, fun none => by rw [none]; rfl, once, closed_foldl closed _ _,
    ⟨got, opens.handles.symm⟩, asked, opens.consults, fun c member => ?_,
    fun h failure => opens.granted_of_close⟩
  obtain ⟨k, listed, part⟩ := opens.part_asked member
  refine ⟨⟨k, listed, part⟩, fun h held same => idle k listed ?_⟩
  exact L.mem_running.mpr ⟨h, held, same ▸ part⟩

end Layer

namespace Manager

variable {d d' : Drivers σ} {m : Manager σ}

theorem createInbound_closed (acc : Manager σ × Report InboundSpec) (spec : InboundSpec) :
    (createInbound d acc spec).2.closed = acc.2.closed := by
  unfold createInbound
  dsimp only
  split <;> rfl

theorem createTunnel_closed (acc : Manager σ × Report TunnelEntry) (e : TunnelEntry) :
    (createTunnel d acc e).2.closed = acc.2.closed := by
  unfold createTunnel
  dsimp only
  split <;> rfl

theorem reconcileInbounds_tries (sole : Sole m.handles) {wanted specs : List InboundSpec}
    (plan : Plan.between m.inbounds wanted = ⟨[], specs⟩) :
    (inboundLayer d).Tries d (createInbound d) specs m (m.reconcileInbounds d wanted) := by
  have tries := Layer.Tries.of_plan (L := inboundLayer d) createInbound_law createInbound_closed
    sole plan
  rw [reconcileInbounds, plan]
  exact tries

theorem replaceTunnels_tries (sole : Sole m.handles) {wanted : List TunnelSpec}
    {entries : List TunnelEntry}
    (plan : Plan.between m.tunnels (wanted.flatMap TunnelSpec.entries) = ⟨[], entries⟩) :
    tunnelLayer.Tries d (createTunnel d) entries m (m.replaceTunnels d wanted) := by
  have tries := Layer.Tries.of_plan (L := tunnelLayer) (createTunnel_law (d := d))
    createTunnel_closed sole plan
  rw [replaceTunnels, plan]
  exact tries

/-- Asked the same again, with whatever answers from the outside, a manager tries what had failed
and does nothing else. -/
structure Retries (d d' : Drivers σ) (m : Manager σ) : Prop where
  inbounds : ∀ wanted, let first := m.replaceInbounds d wanted
    (inboundLayer d').Tries d' (createInbound d') (first.2.failed.map Prod.fst) first.1
      (first.1.replaceInbounds d' wanted)
  ports : ∀ ports, let first := m.replacePorts d ports
    (inboundLayer d').Tries d' (createInbound d') (first.2.failed.map Prod.fst) first.1
      (first.1.replacePorts d' ports)
  tunnels : ∀ wanted, let first := m.replaceTunnels d wanted
    tunnelLayer.Tries d' (createTunnel d') (first.2.failed.map Prod.fst) first.1
      (first.1.replaceTunnels d' wanted)

/-- The inbounds of the other kind are carried over both times. -/
theorem retries (sole : Sole m.handles) : m.Retries d d' where
  inbounds wanted := by
    intro first
    obtain ⟨asked, run⟩ := reconcileInbounds_reconciles (d := d) sole (wanted ++ m.legacyInbounds)
    refine reconcileInbounds_tries (run.moves.sole sole) (run.next_plan (.inl rfl) (.inl rfl)
      (fun spec => List.mem_of_mem_filter) (fun spec => List.mem_of_mem_filter)
      (fun spec runs => ?_) (fun spec _ => Iff.rfl))
    refine (List.mem_append.mp (run.running_iff.mp runs).1).imp_right fun carried => ?_
    exact List.mem_filter.mpr ⟨runs, (List.mem_filter.mp carried).2⟩
  ports ports := by
    intro first
    obtain ⟨asked, run⟩ := reconcileInbounds_reconciles (d := d) sole
      (m.explicitInbounds ++ ports.toInbounds m.binding.bindHost m.binding.allowLan)
    have binding : first.1.binding = m.binding := run.asks.binding
    rw [replacePorts, binding]
    refine reconcileInbounds_tries (run.moves.sole sole) (run.next_plan (.inr rfl) (.inr rfl)
      (fun spec => List.mem_of_mem_filter) (fun spec => List.mem_of_mem_filter)
      (fun spec runs => ?_) (fun spec _ => Iff.rfl))
    refine (List.mem_append.mp (run.running_iff.mp runs).1).symm.imp_right fun carried => ?_
    exact List.mem_filter.mpr ⟨runs, (List.mem_filter.mp carried).2⟩
  tunnels wanted := by
    intro first
    obtain ⟨asked, run⟩ := replaceTunnels_reconciles (d := d) sole wanted
    have alone : Plan.Beside (wanted.flatMap TunnelSpec.entries) []
        (wanted.flatMap TunnelSpec.entries) := .inr rfl
    exact replaceTunnels_tries (run.moves.sole sole) (run.next_plan alone alone
      nofun nofun (fun e runs => .inl (run.running_iff.mp runs).1) (fun e _ => Iff.rfl))

end Manager

end LocalProxy
