import LocalProxy.Proofs.Listening.Runs
import LocalProxy.Proofs.Listening.Trace
import LocalProxy.Proofs.Net.Hosts

/-! An inbound is bound as a whole or not at all. Whatever a manager was asked to do and whatever
the outside answered, an inbound that runs has a listener wherever its type is served; and one that
could not be opened leaves no listener behind. -/
namespace LocalProxy

open Manager

variable {σ : Type} {d : Drivers σ}

theorem Manager.Whole.run {m : Manager σ} (whole : m.Whole d) (balanced : m.Balanced)
    (operations : List Operation) : (m.run d operations).Whole d := by
  induction operations generalizing m with
  | nil => exact whole
  | cons operation rest ih =>
    exact ih (whole.perform balanced.sole operation) (balanced.perform operation)

namespace InboundSpec

/-- An inbound holds a listener on each network on which its type is served and on no other, and
its address has a port that is not zero. -/
structure FullyBound (d : Drivers σ) (m : Manager σ) (spec : InboundSpec) : Prop where
  stored : ∀ network, (m.handle? network (.inbound spec)).isSome = d.serves network spec.type
  port : ∃ host numeral port, splitHostPort? spec.bindAddress = some (host, numeral) ∧
    Text.port? numeral = some port ∧ port ≠ 0

theorem mem_needs {spec : InboundSpec} {needed : List Slot} (needs : spec.needs d = some needed)
    {network : Network} : spec.slot network ∈ needed ↔ d.serves network spec.type := by
  obtain ⟨-, -, rfl⟩ := needs_eq needs
  rw [List.mem_append, mem_slotOn, mem_slotOn]
  cases network <;> simp [slot]

theorem FullyBound.of_whole {m : Manager σ} (whole : (inboundLayer d).Whole m)
    {spec : InboundSpec} (runs : spec ∈ m.inbounds) : spec.FullyBound d m := by
  obtain ⟨needed, needs, slots⟩ := whole spec runs
  refine ⟨fun network => ?_, ?_⟩
  · have held : (m.handle? network (.inbound spec)).isSome = true ↔
        ∃ h ∈ m.handles, h.slot = spec.slot network := by
      rw [Option.isSome_iff_ne_none, Ne, handle?_none]
      simp [slot]
    exact Bool.eq_iff_iff.mpr (held.trans ((slots (spec.slot network) rfl).symm.trans
      (mem_needs needs)))
  · obtain ⟨port, named⟩ := Option.ne_none_iff_exists'.mp (needs_eq needs).1
    obtain ⟨nonzero, host, numeral, split, value⟩ := listenPort?_eq_some.mp named
    exact ⟨host, numeral, port, split, value, nonzero⟩

/-- Where the opening of an inbound fails, whatever it was granted is closed. -/
theorem closed_of_failed {spec : InboundSpec} {a : Answer} {fault : OpenFault}
    (failed : spec.opened d a = .error fault) {network : Network} {h : Handle}
    (granted : .listen network (.inbound spec) (.ok h) ∈ spec.opening d a) :
    [.listen network (.inbound spec) (.ok h), .close h (a.close .tcp)].Sublist
      (spec.opening d a) := by
  cases port : spec.port? <;> cases on_tcp : d.serves .tcp spec.type <;>
    cases on_udp : d.serves .udp spec.type <;>
    simp only [opening, opened, port, on_tcp, on_udp] at granted failed ⊢
  all_goals simp only [reduceCtorEq, if_true, if_false, List.not_mem_nil, List.mem_singleton,
    Call.listen.injEq] at granted failed
  · simp [← granted.2.2, Except.map] at failed
  · simp [← granted.2.2, Except.map] at failed
  · cases tcp : a.listen .tcp <;> cases udp : a.listen .udp <;> simp_all

end InboundSpec

namespace Manager

/-- An opening that failed: nothing is kept for it, and what the outside granted to it, the outside
was asked to close, whatever it said to that. -/
structure GivesBack (d : Drivers σ) (m : Manager σ) (spec : InboundSpec) (m' : Manager σ) :
    Prop where
  handles : m'.handles = m.handles
  closed : ∃ asked, m.Consults d asked m' ∧ ∀ network h,
    .listen network (.inbound spec) (.ok h) ∈ asked → ∃ failure,
      [.listen network (.inbound spec) (.ok h), .close h failure].Sublist asked

theorem openSpec_gives_back {m : Manager σ} {spec : InboundSpec} {fault : OpenFault}
    (failed : (openSpec d m spec).1 = .error fault) :
    m.GivesBack d spec (openSpec d m spec).2 := by
  obtain ⟨a, outcome, consults, handles⟩ := openSpec_consults (d := d) m spec
  rw [failed] at outcome
  exact ⟨handles, _, consults, fun network h granted =>
    ⟨_, InboundSpec.closed_of_failed outcome.symm granted⟩⟩

/-- For an inbound that is reported as failed, nothing is stored. -/
theorem nothing_stored {m : Manager σ} (sole : Sole m.handles) {wanted : List InboundSpec}
    {spec : InboundSpec} (failed : spec ∈ (m.reconcileInbounds d wanted).2.failed.map Prod.fst)
    (network : Network) :
    (m.reconcileInbounds d wanted).1.handle? network (.inbound spec) = none := by
  obtain ⟨asked, run⟩ := reconcileInbounds_reconciles (d := d) sole wanted
  rw [run.failed_eq, Plan.mem_firsts, List.mem_filter, decide_eq_true_eq] at failed
  refine handle?_none.mpr fun h held same => failed.1.2 (mem_inbounds.mpr ⟨h, held, ?_⟩)
  exact congrArg (fun slot => slot.2.spec?) same

/-- No inbound is ever half bound. In every state that a manager comes to, each inbound that runs
is fully bound, by handles that the outside has granted and was not asked to close since; an opening
that fails gives back what it was granted, and where a reconciliation reports such a failure, nothing
is stored for the inbound. -/
theorem never_half_bound (d : Drivers σ) (outside : σ) (operations : List Operation) :
    let m := ({ outside := outside } : Manager σ).run d operations
    (d.Answered outside m.calls m.outside ∧ m.Accounted ∧
        ∀ spec ∈ m.inbounds, spec.FullyBound d m) ∧
      (∀ (mid : Manager σ) (spec : InboundSpec) (fault : OpenFault),
        (openSpec d mid spec).1 = .error fault → mid.GivesBack d spec (openSpec d mid spec).2) ∧
      ∀ wanted, ∀ spec ∈ (m.reconcileInbounds d wanted).2.failed.map Prod.fst, ∀ network,
        (m.reconcileInbounds d wanted).1.handle? network (.inbound spec) = none := by
  intro m
  have balanced : m.Balanced := (balanced_start outside).run operations
  have whole : m.Whole d := (Whole.of_empty rfl).run (balanced_start outside) operations
  exact ⟨⟨run_start_answered d outside operations, balanced.accounted,
      fun _ runs => .of_whole whole.inbounds runs⟩,
    fun _ _ _ => openSpec_gives_back,
    fun _ _ failed network => nothing_stored balanced.sole failed network⟩

/-- An outside that grants TCP listeners alone and fails to close them. It remembers what it was asked
to close. -/
def stubborn : Drivers (List Handle) where
  serves := servedByDefault
  listen
    | .tcp, _, asked => (.ok default, asked)
    | .udp, service, asked => (.error (.bind .udp service.address "address in use"), asked)
  close h asked := (some "busy", asked ++ [h])

theorem gives_back_stubborn :
    let spec : InboundSpec := ⟨.socks, "127.0.0.1:1080", false⟩
    let m : Manager (List Handle) := { outside := [] }
    (openSpec stubborn m spec).1 = .error (.bind .udp "127.0.0.1:1080" "address in use") ∧
      m.GivesBack stubborn spec (openSpec stubborn m spec).2 ∧
      (openSpec stubborn m spec).2.records = [.of .warn "Failed to roll back tcp listener"
        [spec.logName, ("error", .text "busy")]] ∧
      (openSpec stubborn m spec).2.outside = [⟨0, .tcp, .inbound spec, default⟩] := by
  intro spec m
  have failed : (openSpec stubborn m spec).1 =
      .error (.bind .udp "127.0.0.1:1080" "address in use") := by decide +kernel
  refine ⟨failed, (never_half_bound stubborn [] []).2.1 m spec _ failed, ?_⟩
  decide +kernel

end Manager

end LocalProxy
