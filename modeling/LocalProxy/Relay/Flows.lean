import LocalProxy.Relay.Outbound
import LocalProxy.Relay.Packet
import LocalProxy.Traffic.Statistics

/-! Relaying datagrams. A client's datagrams to one destination are queued onto one flow, a
task with a socket of its own that sends them out and writes answers back. A table leads from
client and destination to the queue of the flow. -/
namespace LocalProxy.Relay

structure FlowKey where
  source : Endpoint
  destination : Target
deriving DecidableEq, Repr

/-- Where the task of a flow is. A flow leaves the table before its queue is dropped. -/
inductive FlowStage
  | opening
  | relaying (guard : Nat)
  | ended
  | removed
deriving DecidableEq, Repr

/-- `held` is the datagram being sent. Answers go back along the path of the datagram that
began the flow. -/
structure Flow where
  serial : Nat
  key : FlowKey
  metadata : Metadata
  path : ReturnPath
  queue : List Bytes
  held : Option Bytes
  stage : FlowStage
deriving DecidableEq, Repr

/-- What was done with datagrams, by the number of the flow. -/
inductive Deed
  | began (flow : Nat) (key : FlowKey) (path : ReturnPath)
  | queued (flow : Nat) (packet : Packet)
  | sent (flow : Nat) (payload : Bytes)
  | answered (flow : Nat) (path : ReturnPath) (datagram : Bytes)
deriving DecidableEq, Repr

/-- `tasks` are the flows that have not finished; a table entry holds the number of the flow
whose queue it leads to. -/
structure Flows where
  next : Nat
  table : List (FlowKey × Nat)
  tasks : List Flow
  statistics : Statistics
  deeds : List Deed
  records : List Record

/-- The most datagrams a flow has waiting. -/
def flowQueue : Nat := 64

inductive FlowEnd
  | idle
  | closed
  | failed (reason : String)
deriving DecidableEq, Repr

/-- What happens to the flows: a datagram arrives, or a task takes one of its steps. -/
inductive FlowMove
  | arrive (packet : Packet)
  | opened (flow : Nat) (id : Uuid) (time : String)
  | notOpened (flow : Nat) (reason : String)
  | take (flow : Nat)
  | sent (flow : Nat)
  | notSent (flow : Nat) (reason : String)
  | answer (flow : Nat) (sender : Endpoint) (payload : Bytes) (fault : Option WriteFault)
  | finish (flow : Nat) (how : FlowEnd)
  | unlist (flow : Nat)
  | drop (flow : Nat)
deriving DecidableEq, Repr

/-- The flow whose task takes the step. -/
def FlowMove.flow? : FlowMove → Option Nat
  | arrive _ => none
  | opened f _ _ | notOpened f _ | take f | sent f | notSent f _ | answer f _ _ _ | finish f _ |
    unlist f | drop f => some f

namespace Flows

def create (statistics : Statistics) : Flows := ⟨0, [], [], statistics, [], []⟩

def log (d : Flows) (severity : Severity) (message : String)
    (fields : List (String × FieldValue)) : Flows :=
  { d with records := d.records ++ [.of severity message fields] }

def task? (d : Flows) (serial : Nat) : Option Flow := d.tasks.find? (·.serial == serial)

def update (d : Flows) (serial : Nat) (f : Flow → Flow) : Flows :=
  { d with tasks := d.tasks.map fun t => if t.serial = serial then f t else t }

def noted (d : Flows) (deed : Deed) : Flows := { d with deeds := d.deeds ++ [deed] }

/-- The flow a table entry leads to, while its queue is there. -/
def route? (d : Flows) (key : FlowKey) : Option Flow := (d.table.lookup key).bind d.task?

def enqueue (d : Flows) (flow : Flow) (p : Packet) : Flows :=
  if flow.queue.length < flowQueue then
    (d.update flow.serial fun t => { t with queue := t.queue ++ [p.payload] }).noted
      (.queued flow.serial p)
  else d.log .debug "UDP flow queue full, datagram dropped"
    [("destination", .text flow.key.destination.text)]

/-- Starts a flow with its first datagram and enters it into the table. -/
def begin (d : Flows) (key : FlowKey) (p : Packet) : Flows :=
  { d with
    next := d.next + 1
    table := d.table.filter (·.1 ≠ key) ++ [(key, d.next)]
    tasks := d.tasks ++ [⟨d.next, key, p.metadata, p.path, [p.payload], none, .opening⟩]
    deeds := d.deeds ++ [.began d.next key p.path, .queued d.next p] }

/-- Puts a datagram onto its flow, starting one if there is none. -/
def arrive (d : Flows) (p : Packet) : Flows :=
  let source := ("source", FieldValue.text p.metadata.source.text)
  match p.metadata.destination with
  | none => d.log .debug "Datagram without destination dropped" [source]
  | some destination =>
    if p.metadata.outbound ≠ .direct then d.log .debug "Datagram rejected" [source]
    else
      let key : FlowKey := ⟨p.metadata.source, destination⟩
      match d.route? key with
      | some flow => d.enqueue flow p
      | none => d.begin key p

def opened (d : Flows) (flow : Flow) (id : Uuid) (time : String) : Flows :=
  let (guard, s) := d.statistics.track id flow.metadata [Outbound.directName] fallbackRule time
  { d with statistics := s }.update flow.serial fun t => { t with stage := .relaying guard }

/-- Stops relaying. The connection is tracked no longer, the entry is still in the table. -/
def stop (d : Flows) (flow : Flow) : Flows :=
  let d := d.update flow.serial fun t => { t with stage := .ended }
  match flow.stage with
  | .relaying guard => { d with statistics := d.statistics.drop guard }
  | _ => d

/-- A task relays when it is between two datagrams. -/
def waiting? (flow : Flow) : Option Nat :=
  match flow.stage, flow.held with
  | .relaying guard, none => some guard
  | _, _ => none

/-- One step of a task, where it can be taken. -/
def step? (d : Flows) (flow : Flow) : FlowMove → Option Flows
  | .opened _ id time => if flow.stage = .opening then some (d.opened flow id time) else none
  | .notOpened _ reason =>
    if flow.stage = .opening then
      some ((d.stop flow).log .warn "UDP flow not opened" [("error", .text reason)])
    else none
  | .take _ =>
    match waiting? flow, flow.queue with
    | some _, p :: rest =>
      some (d.update flow.serial fun t => { t with queue := rest, held := some p })
    | _, _ => none
  | .sent _ =>
    match flow.stage, flow.held with
    | .relaying guard, some p =>
      let d := { d with statistics := d.statistics.addUpload guard p.length.toUInt64 }
      some ((d.update flow.serial fun t => { t with held := none }).noted (.sent flow.serial p))
    | _, _ => none
  | .notSent _ reason =>
    match flow.stage, flow.held with
    | .relaying _, some _ =>
      some ((d.update flow.serial fun t => { t with held := none }).log .debug "UDP send failed"
        [("error", .text reason)])
    | _, _ => none
  | .answer _ sender payload fault =>
    match waiting? flow with
    | none => none
    | some guard =>
      let d := { d with statistics := d.statistics.addDownload guard payload.length.toUInt64 }
      match fault with
      | none =>
        let datagram := flow.path.framing.frame sender payload
        some (d.noted (.answered flow.serial flow.path datagram))
      | some fault =>
        some ((d.stop flow).log .debug "UDP write back failed" [("error", .text fault.message)])
  | .finish _ how =>
    match waiting? flow, how with
    | none, _ => none
    | some _, .idle => some (d.stop flow)
    | some guard, .closed => if d.statistics.isClosing guard then some (d.stop flow) else none
    | some _, .failed reason =>
      some ((d.log .debug "UDP outbound receive failed" [("error", .text reason)]).stop flow)
  | .unlist _ =>
    if flow.stage = .ended then
      some ({ d with table := d.table.filter (·.1 ≠ flow.key) }.update flow.serial
        fun t => { t with stage := .removed })
    else none
  | .drop _ =>
    if flow.stage = .removed then
      some { d with tasks := d.tasks.filter (·.serial ≠ flow.serial) }
    else none
  | .arrive _ => none

def move? (d : Flows) (m : FlowMove) : Option Flows :=
  match m with
  | .arrive p => some (d.arrive p)
  | m => do d.step? (← d.task? (← m.flow?)) m

/-- Makes the moves in order; one that cannot be made changes nothing. -/
def run (d : Flows) (moves : List FlowMove) : Flows :=
  moves.foldl (fun d m => (d.move? m).getD d) d

end Flows

end LocalProxy.Relay
