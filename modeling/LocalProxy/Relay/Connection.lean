import LocalProxy.Handshake.Inbound
import LocalProxy.Relay.Copy
import LocalProxy.Relay.Outbound
import LocalProxy.Traffic.Statistics

/-! Relaying one accepted connection, as single moves. The bytes read ahead go out first; then
the two directions are copied side by side until both are done or the connection is closed. -/
namespace LocalProxy.Relay

inductive Direction
  | up
  | down
deriving DecidableEq, Repr

/-- `replaying` has written all but `ahead` of the `size` octets read ahead. -/
inductive Phase
  | replaying (ahead : Bytes) (size : Nat)
  | copying
  | ended
deriving DecidableEq, Repr

/-- The bytes read ahead are delivered to the remote on the way up. -/
structure Link where
  destination : Target
  guard : Nat
  phase : Phase
  replayed : Bytes
  up : Copy
  down : Copy
deriving DecidableEq, Repr

/-- A link among the statistics it counts into, and its records. -/
structure State where
  relay : Link
  statistics : Statistics
  records : List Record

inductive Move
  | replay (n : Nat)
  | replayFails (reason : String)
  | copy
  | read (way : Direction) (n : Nat)
  | write (way : Direction) (n : Nat)
  | finish (way : Direction)
  | fail (way : Direction)
  | close
  | settle
deriving DecidableEq, Repr

def Link.side (r : Link) : Direction → Copy
  | .up => r.up
  | .down => r.down

def Link.setSide (r : Link) (way : Direction) (c : Copy) : Link :=
  match way with
  | .up => { r with up := c }
  | .down => { r with down := c }

/-- All that the remote has received. -/
def Link.sent (r : Link) : Bytes := r.replayed ++ r.up.delivered

/-- All that the client has received. -/
def Link.received (r : Link) : Bytes := r.down.delivered

def count (way : Direction) (s : Statistics) (guard n : Nat) : Statistics :=
  match way with
  | .up => s.addUpload guard n.toUInt64
  | .down => s.addDownload guard n.toUInt64

namespace State

/-- Ends the relay with a record and drops its guard. -/
def stop (s : State) (record : Record) : State where
  relay := { s.relay with phase := .ended }
  statistics := s.statistics.drop s.relay.guard
  records := s.records ++ [record]

def withSide (s : State) (way : Direction) (c : Copy) : State :=
  { s with relay := s.relay.setSide way c }

end State

def closedRecord (t : Target) : Record :=
  .of .debug "Connection closed by request" [("destination", .text t.text)]

def finishedRecord (t : Target) (up down : Nat) : Record :=
  .of .debug "Connection finished"
    [("destination", .text t.text), ("up", .int up), ("down", .int down)]

def failedRecord (reason : String) : Record :=
  .of .debug "Relay ended with error" [("error", .text reason)]

/-- A move, where it can be made. -/
def move? (s : State) : Move → Option State
  | .replay n =>
    match s.relay.phase with
    | .replaying ahead size =>
      if 0 < n ∧ n ≤ ahead.length then some { s with relay := { s.relay with
        phase := .replaying (ahead.drop n) size
        replayed := s.relay.replayed ++ ahead.take n } }
      else none
    | _ => none
  | .replayFails reason =>
    match s.relay.phase with
    | .replaying _ _ => some (s.stop (failedRecord reason))
    | _ => none
  | .copy =>
    match s.relay.phase with
    | .replaying [] size => some { s with
        relay := { s.relay with phase := .copying }
        statistics :=
          if size = 0 then s.statistics
          else count .up s.statistics s.relay.guard size }
    | _ => none
  | .read way n => do
    guard (s.relay.phase = .copying)
    return s.withSide way (← (s.relay.side way).read? n)
  | .write way n => do
    guard (s.relay.phase = .copying)
    let (c, counted) ← (s.relay.side way).write? n
    return { s.withSide way c with
      statistics :=
        if counted = 0 then s.statistics else count way s.statistics s.relay.guard counted }
  | .finish way => do
    guard (s.relay.phase = .copying)
    return s.withSide way (← (s.relay.side way).finish?)
  | .fail way => do
    guard (s.relay.phase = .copying)
    return s.withSide way (← (s.relay.side way).fail?)
  | .close =>
    if s.relay.phase = .copying ∧ s.statistics.isClosing s.relay.guard then
      some (s.stop (closedRecord s.relay.destination))
    else none
  | .settle =>
    if s.relay.phase = .copying ∧ s.relay.up.status ≠ .running ∧
        s.relay.down.status ≠ .running then
      some (s.stop (finishedRecord s.relay.destination s.relay.up.reported
        s.relay.down.reported))
    else none

/-- Makes the moves in order; one that cannot be made changes nothing. -/
def run (s : State) (moves : List Move) : State := moves.foldl (fun s m => (move? s m).getD s) s

/-- Moves that copy `size` octets one way to their end. -/
def copyMoves (way : Direction) (size : Nat) : List Move :=
  if size = 0 then [.finish way]
  else
    let n := min size Copy.maxChunk
    .read way n :: .write way n :: copyMoves way (size - n)
termination_by size
decreasing_by
  have : Copy.maxChunk = 16384 := rfl
  omega

/-- Moves that carry a relay to its end, one direction after the other. -/
def allMoves (r : Link) : List Move :=
  let replay := match r.phase with
    | .replaying ahead _ => [.replay ahead.length, .copy]
    | _ => []
  replay ++ copyMoves .up r.up.source.length ++ copyMoves .down r.down.source.length ++ [.settle]

/-- Begins to relay a connection whose destination was dialed, to a remote that will send
`response`. -/
def dialed (c : Connection) (destination : Target) (response : Bytes) (id : Uuid) (time : String)
    (s : Statistics) : State :=
  let (guard, s) := s.track id c.metadata [Outbound.directName] fallbackRule time
  ⟨⟨destination, guard, .replaying c.buffered c.buffered.length, [], .start c.unread,
    .start response⟩, s, []⟩

/-- What becomes of an accepted connection. The dial may fail for a reason. -/
inductive Course
  | dropped (record : Record)
  | relaying (state : State)

def course (c : Connection) (dial : Target → Except String Bytes) (id : Uuid) (time : String)
    (s : Statistics) : Course :=
  match c.metadata.verdict with
  | .error record => .dropped record
  | .ok destination =>
    match dial destination with
    | .error reason => .dropped (failedRecord reason)
    | .ok response => .relaying (dialed c destination response id time s)

end LocalProxy.Relay
