import LocalProxy.Proofs.Hub.Operations
import LocalProxy.Server
import Mathlib.Data.List.Induction

/-! Shutting a server down while changes wait for their turn at the hub. The listeners are closed
in one of these turns, and whatever has a turn after that may open listeners again: nothing stays
open just if all that comes later opens nothing. -/
namespace LocalProxy

/-- Two managers have asked for the same calls and keep the same handles. -/
structure Manager.Alike {σ : Type} (m m' : Manager σ) : Prop where
  serial : m'.serial = m.serial
  calls : m'.calls = m.calls
  handles : m'.handles = m.handles

theorem Manager.Balanced.alike {σ : Type} {m m' : Manager σ} (balanced : m.Balanced)
    (alike : m.Alike m') : m'.Balanced := by
  obtain ⟨serial, calls, handles⟩ := alike
  refine ⟨?_, ?_, ?_, ?_⟩ <;> simp only [Manager.books, serial, calls, handles]
  · exact balanced.live
  · exact balanced.sole
  · exact balanced.fresh
  · exact balanced.lawful

namespace Server

variable {σ : Type}

/-- Leaves the control interface although it has not come to its end. -/
def leaveApi (d : Host σ) (s : Server σ) : Server σ :=
  match s.api with
  | none => s
  | some e =>
    let m := s.hub.manager
    { hub := { s.hub with manager := { m with outside := d.closeApi e m.outside } }.log
        (.of .warn "API server did not shut down in time")
      api := none }

theorem stopApi_alike (d : Host σ) (s : Server σ) :
    s.hub.manager.Alike (s.stopApi d).hub.manager := by
  unfold stopApi
  split <;> exact ⟨rfl, rfl, rfl⟩

theorem leaveApi_alike (d : Host σ) (s : Server σ) :
    s.hub.manager.Alike (s.leaveApi d).hub.manager := by
  unfold leaveApi
  split <;> exact ⟨rfl, rfl, rfl⟩

theorem openApi_alike (d : Host σ) (h : Hub σ) (c : Config) :
    h.manager.Alike (openApi d h c).2.manager := by
  unfold openApi
  split
  · exact ⟨rfl, rfl, rfl⟩
  · split
    · exact ⟨rfl, rfl, rfl⟩
    · split <;> exact ⟨rfl, rfl, rfl⟩

/-- The books of a server that has started are balanced. -/
theorem start_balanced {d : Host σ} {h hub : Hub σ} {c : Config} {server : Server σ}
    (before : h.manager.Balanced) (started : start d h c = (.ok server, hub)) :
    server.hub.manager.Balanced := by
  have opened := before.alike (openApi_alike d h c)
  unfold start at started
  split at started
  · cases Prod.mk.inj started |>.1
  · rename_i bound answered
    rw [answered] at opened
    obtain rfl := Except.ok.inj (Prod.mk.inj started).1
    exact (Hub.stable_balanced d.toDrivers).runStages _ opened

end Server

namespace Shutdown

variable {σ : Type}

/-- Who asks for a change: the task that reloads on a hangup, or a request. -/
inductive Caller
  | hangup
  | request (number : Nat)
deriving DecidableEq

/-- What a caller asks for. Inbounds are listed by type and address. -/
inductive Change
  | reload
  | patch (p : GeneralPatch)
  | inbounds (listed : List (InboundType × String))

/-- How far a server is on its way down. -/
inductive Phase
  | serving
  | cancelled
  | unserved
  | closed
  | stopped
deriving DecidableEq

/-- The hub has been shut down. -/
def Phase.isDown : Phase → Bool
  | closed | stopped => true
  | serving | cancelled | unserved => false

/-- An operation at its turn, with the hub it finds. -/
structure Turn (σ : Type) where
  found : Hub σ
  operation : Hub.Operation

/-- `answering` says whether requests come in, and `late` are the turns since the hub was shut
down. -/
structure State (σ : Type) where
  server : Server σ
  file : Except FileFault Bytes
  phase : Phase := .serving
  answering : Bool := server.api.isSome
  waiting : List (Caller × Hub.Operation) := []
  late : List (Turn σ) := []

inductive Event
  | rewrite (file : Except FileFault Bytes)
  | hangup
  | request (number : Nat) (change : Change)
  | turn (caller : Caller)
  | cancel
  | apiEnds
  | apiTimesOut
  | close
  | finish

/-- What a change wants to do at its turn. A reload reads the file before it waits, and has
nothing to do where that is no configuration. -/
def operation? (d : Host σ) (s : State σ) : Change → Option Hub.Operation
  | .reload =>
    (s.server.hub.readConfig { d.toOutside with configFile := fun _ => s.file }).toOption.map .apply
  | .patch p => some (.patch p)
  | .inbounds listed => some (.updateInbounds (listed.map fun (type, address) =>
      ⟨type, address, false⟩))

/-- A caller waits with one change at a time. -/
def wait (d : Host σ) (s : State σ) (caller : Caller) (change : Change) : State σ :=
  if s.waiting.any (·.1 = caller) then s
  else match operation? d s change with
    | none => s
    | some op => { s with waiting := s.waiting ++ [(caller, op)] }

/-- The way down goes phase by phase: the token is cancelled, the control interface ends or is
not waited for any longer, the hub is shut down, and at last the reload task has ended. Until
then hangups are heard. Requests come in until the control interface has ended, and go on where
it was not waited for. -/
def step (d : Host σ) (s : State σ) : Event → State σ
  | .rewrite file => { s with file := file }
  | .hangup => if s.phase = .stopped then s else wait d s .hangup .reload
  | .request number change =>
    if s.answering then wait d s (.request number) change else s
  | .turn caller =>
    match s.waiting.find? (·.1 = caller) with
    | none => s
    | some (_, op) => { s with
        server := { s.server with hub := s.server.hub.perform d.toOutside op }
        waiting := s.waiting.filter (·.1 ≠ caller)
        late := if s.phase.isDown then s.late ++ [⟨s.server.hub, op⟩] else s.late }
  | .cancel => if s.phase = .serving then { s with phase := .cancelled } else s
  | .apiEnds =>
    if s.phase = .cancelled ∧ s.waiting.all (·.1 = .hangup) then
      { s with server := s.server.stopApi d, answering := false, phase := .unserved }
    else s
  | .apiTimesOut =>
    if s.phase = .cancelled then { s with server := s.server.leaveApi d, phase := .unserved }
    else s
  | .close =>
    if s.phase = .unserved then
      { s with
        server := { s.server with hub := s.server.hub.shutdown d.toDrivers }
        phase := .closed }
    else s
  | .finish =>
    if s.phase = .closed ∧ s.waiting.all (·.1 ≠ .hangup) then
      { s with
        server := { s.server with hub := s.server.hub.log (.of .info "Server stopped") }
        phase := .stopped }
    else s

def run (d : Host σ) (s : State σ) (events : List Event) : State σ := events.foldl (step d) s

variable {d : Host σ} {s : State σ}

theorem run_concat (events : List Event) (e : Event) :
    run d s (events ++ [e]) = step d (run d s events) e := by
  simp [run]

/-- The way down that nothing comes between is that of the server. -/
theorem run_stop (server : Server σ) (file : Except FileFault Bytes) :
    (run d { server := server, file := file } [.cancel, .apiEnds, .close, .finish]).server.hub =
      server.stop d := rfl

/-- The calls of a turn. -/
def Turn.asked (d : Host σ) (t : Turn σ) : List Call :=
  (t.found.perform d.toOutside t.operation).manager.calls.drop t.found.manager.calls.length

/-- The calls of a turn are what the outside was asked in it, each with what it answered. -/
def Turn.Answered (d : Host σ) (t : Turn σ) : Prop :=
  d.toDrivers.Answered t.found.manager.outside (t.asked d)
    (t.found.perform d.toOutside t.operation).manager.outside

/-- All that a turn wanted to run was refused, as is so where it wanted nothing. -/
def Turn.Fruitless (d : Host σ) (t : Turn σ) : Prop :=
  (∀ spec ∈ t.operation.wantedInbounds t.found,
    (Manager.inboundLayer d.toDrivers).Denied (t.asked d) spec) ∧
  ∀ e ∈ t.operation.wantedTunnels t.found,
    (Manager.tunnelLayer : Layer σ TunnelEntry).Denied (t.asked d) e

/-- No inbound and no tunnel is open. -/
def State.Vacant (s : State σ) : Prop := s.server.hub.manager.handles = []

theorem Turn.asked_eq {t : Turn σ} {asked : List Call}
    (performed : Hub.Performed d.toDrivers t.operation t.found
      (t.found.perform d.toOutside t.operation) asked) : t.asked d = asked := by
  rw [Turn.asked, performed.calls, List.drop_left]

theorem Turn.answered {t : Turn σ} (sole : Sole t.found.manager.handles)
    (explicit : t.operation.Explicit) : t.Answered d := by
  obtain ⟨asked, performed⟩ := Hub.perform_performed (d := d.toOutside) sole explicit
  rw [Turn.Answered, Turn.asked_eq performed]
  exact performed.answered

/-- A turn that finds nothing open leaves nothing open just if it was fruitless. -/
theorem Turn.vacant_iff {t : Turn σ} (sole : Sole t.found.manager.handles)
    (explicit : t.operation.Explicit) (idle : t.found.manager.handles = []) :
    (t.found.perform d.toOutside t.operation).manager.handles = [] ↔ t.Fruitless d := by
  obtain ⟨asked, performed⟩ := Hub.perform_performed (d := d.toOutside) sole explicit
  obtain ⟨no_inbound, no_tunnel⟩ := Manager.handles_eq_nil_iff.mp idle
  rw [Manager.handles_eq_nil_iff, Turn.Fruitless, Turn.asked_eq performed]
  refine and_congr (forall_congr' fun spec => ?_) (forall_congr' fun e => ?_)
  · exact (performed.inbounds spec).absent_iff (no_inbound spec)
  · exact (performed.tunnels e).absent_iff (no_tunnel e)

theorem operation?_explicit {change : Change} {op : Hub.Operation}
    (asked : operation? d s change = some op) : op.Explicit := by
  cases change with
  | reload =>
    simp only [operation?] at asked
    cases read : s.server.hub.readConfig { d.toOutside with configFile := fun _ => s.file } with
    | error fault => simp [read, Except.toOption] at asked
    | ok c =>
      rw [read] at asked
      obtain rfl := Option.some.inj asked
      exact Config.load_explicit read
  | patch p =>
    obtain rfl := Option.some.inj asked
    trivial
  | inbounds listed =>
    obtain rfl := Option.some.inj asked
    intro spec member
    obtain ⟨_, _, rfl⟩ := List.mem_map.mp member
    rfl

/-- What a step can do: leave the listeners as they are, give an operation its turn, or close
everything. -/
inductive Step (d : Host σ) (s : State σ) : State σ → Prop
  | quiet {s' : State σ} (alike : s.server.hub.manager.Alike s'.server.hub.manager)
      (down : s'.phase.isDown = s.phase.isDown) (late : s'.late = s.late)
      (waiting : ∀ entry ∈ s'.waiting, entry ∈ s.waiting ∨ entry.2.Explicit) : Step d s s'
  | turn {caller : Caller} {op : Hub.Operation} (waits : (caller, op) ∈ s.waiting) :
      Step d s { s with
        server := { s.server with hub := s.server.hub.perform d.toOutside op }
        waiting := s.waiting.filter (·.1 ≠ caller)
        late := if s.phase.isDown then s.late ++ [⟨s.server.hub, op⟩] else s.late }
  | close (serving : s.phase.isDown = false) :
      Step d s { s with
        server := { s.server with hub := s.server.hub.shutdown d.toDrivers }
        phase := .closed }

theorem Step.nothing : Step d s s :=
  .quiet ⟨rfl, rfl, rfl⟩ rfl rfl fun _ => .inl

theorem wait_spec (caller : Caller) (change : Change) : Step d s (wait d s caller change) := by
  unfold wait
  split
  · exact .nothing
  · split
    · exact .nothing
    · rename_i op asked
      refine .quiet ⟨rfl, rfl, rfl⟩ rfl rfl fun entry waits => ?_
      refine (List.mem_append.mp waits).imp_right fun new => ?_
      rw [List.mem_singleton.mp new]
      exact operation?_explicit asked

theorem step_spec (d : Host σ) (s : State σ) (e : Event) : Step d s (step d s e) := by
  cases e with
  | rewrite file => exact .quiet ⟨rfl, rfl, rfl⟩ rfl rfl fun _ => .inl
  | hangup =>
    simp only [step]
    split
    · exact .nothing
    · exact wait_spec _ _
  | request number change =>
    simp only [step]
    split
    · exact wait_spec _ _
    · exact .nothing
  | turn caller =>
    simp only [step]
    split
    · exact .nothing
    · rename_i other op found
      have same : other = caller := by simpa using List.find?_some found
      exact same ▸ .turn (List.mem_of_find?_eq_some found)
  | cancel =>
    simp only [step]
    split
    · rename_i serving
      exact .quiet ⟨rfl, rfl, rfl⟩ (by rw [serving]; rfl) rfl fun _ => .inl
    · exact .nothing
  | apiEnds =>
    simp only [step]
    split
    · rename_i cancelled
      exact .quiet (s.server.stopApi_alike d) (by rw [cancelled.1]; rfl) rfl fun _ => .inl
    · exact .nothing
  | apiTimesOut =>
    simp only [step]
    split
    · rename_i cancelled
      exact .quiet (s.server.leaveApi_alike d) (by rw [cancelled]; rfl) rfl fun _ => .inl
    · exact .nothing
  | close =>
    simp only [step]
    split
    · rename_i unserved
      exact .close (by rw [unserved]; rfl)
    · exact .nothing
  | finish =>
    simp only [step]
    split
    · rename_i closed
      exact .quiet ⟨rfl, rfl, rfl⟩ (by rw [closed.1]; rfl) rfl fun _ => .inl
    · exact .nothing

/-- The books are balanced, and what is open after the hub was shut down was opened since, as the
outside has answered. -/
structure Orderly (d : Host σ) (s : State σ) : Prop where
  balanced : s.server.hub.manager.Balanced
  explicit : ∀ entry ∈ s.waiting, entry.2.Explicit
  early : s.phase.isDown = false → s.late = []
  answered : ∀ t ∈ s.late, t.Answered d
  opened : s.phase.isDown → ∀ h ∈ s.server.hub.manager.handles,
    ∃ t ∈ s.late, Call.granting h ∈ t.asked d

namespace Orderly

theorem step {s' : State σ} (orderly : Orderly d s) (step : Step d s s') : Orderly d s' := by
  cases step with
  | quiet alike down late waiting =>
    refine ⟨orderly.balanced.alike alike, fun entry waits => ?_, ?_, ?_, ?_⟩
    · exact (waiting entry waits).elim (orderly.explicit entry) id
    · rw [down, late]
      exact orderly.early
    · rw [late]
      exact orderly.answered
    · rw [down, late, alike.handles]
      exact orderly.opened
  | @turn caller op waits =>
    have balanced := (Hub.stable_balanced d.toDrivers).hub_perform orderly.balanced op
    refine ⟨balanced, fun entry still => ?_, fun up => ?_, fun t turn => ?_,
      fun down h held => ?_⟩
    · exact orderly.explicit entry (List.mem_of_mem_filter still)
    · simp only [up, Bool.false_eq_true, if_false]
      exact orderly.early up
    · have turn : t ∈ s.late ∨ t = ⟨s.server.hub, op⟩ := by
        cases down : s.phase.isDown <;> simp_all
      rcases turn with earlier | rfl
      · exact orderly.answered t earlier
      · exact Turn.answered orderly.balanced.sole (orderly.explicit _ waits)
    · obtain ⟨asked, performed⟩ := Hub.perform_performed (d := d.toOutside)
        orderly.balanced.sole (orderly.explicit _ waits)
      have down : s.phase.isDown = true := down
      simp only [down, if_true]
      rcases performed.held_or_asked orderly.balanced balanced held with old | new
      · obtain ⟨t, turn, opened⟩ := orderly.opened down h old
        exact ⟨t, List.mem_append_left _ turn, opened⟩
      · refine ⟨⟨s.server.hub, op⟩, by simp, ?_⟩
        rw [Turn.asked_eq performed]
        exact new
  | close serving =>
    refine ⟨?_, orderly.explicit, nofun, orderly.answered, fun _ h held => ?_⟩
    · exact (Hub.stable_balanced d.toDrivers).hub_perform (d := d.toOutside)
        orderly.balanced .shutdown
    · have empty := (Manager.closeAll_spec (d := d.toDrivers) orderly.balanced.sole).1
      exact absurd (empty ▸ held) List.not_mem_nil

theorem run (orderly : Orderly d s) (events : List Event) : Orderly d (run d s events) := by
  induction events using List.reverseRecOn with
  | nil => exact orderly
  | append_singleton events e ih =>
    rw [run_concat]
    exact ih.step (step_spec d _ e)

end Orderly

/-- At no time of a run, once the hub was shut down, is anything open. -/
def StaysVacant (d : Host σ) (s : State σ) (events : List Event) : Prop :=
  ∀ past, past <+: events → (run d s past).phase.isDown → (run d s past).Vacant

theorem staysVacant_nil (serving : s.phase.isDown = false) : StaysVacant d s [] := by
  intro past earlier down
  obtain rfl := List.prefix_nil.mp earlier
  cases serving.symm.trans down

theorem staysVacant_concat {events : List Event} {e : Event} :
    StaysVacant d s (events ++ [e]) ↔ StaysVacant d s events ∧
      ((run d s (events ++ [e])).phase.isDown → (run d s (events ++ [e])).Vacant) := by
  simp only [StaysVacant, List.prefix_concat_iff, or_imp, forall_and, forall_eq, and_comm]

/-- Since the hub was shut down nothing was open at any time just if every turn since then was
fruitless. -/
theorem staysVacant_iff_fruitless (orderly : Orderly d s) (serving : s.phase.isDown = false)
    (events : List Event) :
    StaysVacant d s events ↔ ∀ t ∈ (run d s events).late, t.Fruitless d := by
  induction events using List.reverseRecOn with
  | nil => exact iff_of_true (staysVacant_nil serving) (by simp [run, orderly.early serving])
  | append_singleton events e ih =>
    have now := orderly.run events
    have last : StaysVacant d s events → (run d s events).phase.isDown →
        (run d s events).Vacant := fun all => all events List.prefix_rfl
    rw [ih] at last
    rw [staysVacant_concat, ih, run_concat]
    have step := step_spec d (run d s events) e
    generalize Shutdown.step d (run d s events) e = s' at step
    cases step with
    | quiet alike down late _ =>
      rw [down, late, State.Vacant, alike.handles]
      exact and_iff_left_of_imp last
    | @turn caller op waits =>
      cases down : (run d s events).phase.isDown with
      | false => simp
      | true =>
        simp only [if_true, List.forall_mem_append, List.forall_mem_singleton, forall_const]
        refine and_congr_right fun fruitless => ?_
        exact Turn.vacant_iff (t := ⟨(run d s events).server.hub, op⟩) now.balanced.sole
          (now.explicit _ waits) (last fruitless down)
    | close up =>
      have empty := (Manager.closeAll_spec (d := d.toDrivers) now.balanced.sole).1
      exact and_iff_left_of_imp fun _ _ => empty

/-- Once the hub of a server was shut down, no inbound and no tunnel is open at any time just if
all that the later turns want is refused; and whatever is open was opened in one of them. Both are
told by the calls of these turns, to which the outside has answered; and it answers to all that the
shutting down asks for, whenever that comes. -/
theorem nothing_left_iff {d : Host σ} {outside : σ} {path : String} {overrides : Overrides}
    {logBuffer : Nat} {c : Config} {server : Server σ} {hub : Hub σ}
    (started : Server.start d (Hub.create outside path overrides logBuffer) c = (.ok server, hub))
    (file : Except FileFault Bytes) (events : List Event) :
    (StaysVacant d { server := server, file := file } events ↔
      ∀ t ∈ (run d { server := server, file := file } events).late, t.Fruitless d) ∧
    ((run d { server := server, file := file } events).phase.isDown →
      ∀ h ∈ (run d { server := server, file := file } events).server.hub.manager.handles,
        ∃ t ∈ (run d { server := server, file := file } events).late,
          Call.granting h ∈ t.asked d) ∧
    (∀ t ∈ (run d { server := server, file := file } events).late, t.Answered d) ∧
    Turn.Answered d
      ⟨(run d { server := server, file := file } events).server.hub, .shutdown⟩ := by
  have balanced := Server.start_balanced (Manager.balanced_start outside) started
  have orderly : Orderly d { server := server, file := file } :=
    ⟨balanced, by simp, fun _ => rfl, by simp, nofun⟩
  have now := orderly.run events
  exact ⟨staysVacant_iff_fruitless orderly rfl events, now.opened, now.answered,
    Turn.answered now.balanced.sole trivial⟩

/-- A host that grants every listener, with a control interface that is always bound. -/
def obligingHost : Host Unit :=
  { obliging with
    names := fun _ => none
    openApi := fun e _ => (.ok e, ())
    closeApi := fun _ _ => () }

/-- A server with one port, and no control interface. -/
def portServer : Server Unit where
  hub := ((Hub.create () "config.yaml" {} 1).log
    (.of .info "No API address specified")).apply obliging.toDrivers portConfig
  api := none

theorem portServer_started :
    Server.start obligingHost (Hub.create () "config.yaml" {} 1) portConfig =
      (.ok portServer, portServer.hub) := rfl

theorem nothing_left_iff_port :
    let s : State Unit := { server := portServer, file := .ok (Text.utf8 "port: 7890\n") }
    let events := [Event.hangup, .cancel, .apiEnds, .close, .turn .hangup, .finish]
    Server.start obligingHost (Hub.create () "config.yaml" {} 1) portConfig =
        (.ok portServer, portServer.hub) ∧
      (StaysVacant obligingHost s events ↔
        ∀ t ∈ (run obligingHost s events).late, t.Fruitless obligingHost) ∧
      ((run obligingHost s events).phase.isDown →
        ∀ h ∈ (run obligingHost s events).server.hub.manager.handles,
          ∃ t ∈ (run obligingHost s events).late, Call.granting h ∈ t.asked obligingHost) ∧
      (∀ t ∈ (run obligingHost s events).late, t.Answered obligingHost) ∧
      Turn.Answered obligingHost ⟨(run obligingHost s events).server.hub, .shutdown⟩ :=
  ⟨portServer_started, nothing_left_iff portServer_started _ _⟩

/-- A reload has read the file when the server goes down, and applies it after everything was
closed. The server stops, nothing waits, and the port is open. -/
theorem late_reload_reopens :
    let s := run obligingHost
      { server := portServer, file := .ok (Text.utf8 "port: 7890\n") }
      [.hangup, .cancel, .apiEnds, .close, .turn .hangup, .finish]
    s.phase = .stopped ∧ s.waiting.length = 0 ∧
      s.server.hub.manager.inbounds = [⟨.http, "127.0.0.1:7890", true⟩] := by
  decide +kernel

end Shutdown

end LocalProxy
