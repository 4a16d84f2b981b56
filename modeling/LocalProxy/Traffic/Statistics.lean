import LocalProxy.Events.Bus
import LocalProxy.Traffic.Metadata
import LocalProxy.Traffic.Uuid

/-! Live connections and the bytes they carried. Whoever relays a connection holds a guard for
it; a connection is listed under its identifier until a guard of that identifier is dropped. -/
namespace LocalProxy

/-- The number of events a subscription buffers unless said otherwise. -/
def subscriberBuffer : Nat := 1024

/-- A tracked connection, named by the number of its guard. -/
structure Tracker where
  guard : Nat
  id : Uuid
  metadata : Metadata
  upload : UInt64
  download : UInt64
  start : String
  chains : List String
  rule : String
  closing : Bool
deriving DecidableEq, Repr

/-- Bytes in one direction: since the last sample, in the last sample, and ever. -/
structure Counter where
  pending : Int64
  latest : Int64
  total : Int64
deriving DecidableEq

namespace Counter

def zero : Counter := ⟨0, 0, 0⟩

def add (n : UInt64) (c : Counter) : Counter :=
  { c with pending := c.pending + n.toInt64, total := c.total + n.toInt64 }

def roll (c : Counter) : Counter := ⟨0, c.pending, c.total⟩

end Counter

/-- Bytes per second in both directions. -/
structure Sample where
  up : Int64
  down : Int64
deriving DecidableEq

def Sample.json (s : Sample) : Json := .obj [("up", .int s.up.toInt), ("down", .int s.down.toInt)]

/-- `held` are the trackers whose guard is held, oldest first; `listed` are the identifiers
shown, each with the guard it stands for, in the order of registration. -/
structure Statistics where
  nextGuard : Nat
  held : List Tracker
  listed : List (Uuid × Nat)
  upload : Counter
  download : Counter
  traffic : Bus Sample

namespace Statistics

def empty : Statistics := ⟨0, [], [], .zero, .zero, .create subscriberBuffer⟩

def tracker? (s : Statistics) (guard : Nat) : Option Tracker := s.held.find? (·.guard == guard)

def update (s : Statistics) (guard : Nat) (f : Tracker → Tracker) : Statistics :=
  { s with held := s.held.map fun t => if t.guard = guard then f t else t }

/-- Registers a connection and gives its guard. It takes the place of one with the same
identifier in the list. -/
def track (s : Statistics) (id : Uuid) (metadata : Metadata) (chains : List String)
    (rule start : String) : Nat × Statistics :=
  (s.nextGuard, { s with
    nextGuard := s.nextGuard + 1
    held := s.held ++ [⟨s.nextGuard, id, metadata, 0, 0, start, chains, rule, false⟩]
    listed := s.listed.filter (·.1 ≠ id) ++ [(id, s.nextGuard)] })

/-- Drops a guard and unlists its identifier. -/
def drop (s : Statistics) (guard : Nat) : Statistics :=
  match s.tracker? guard with
  | none => s
  | some t => { s with
      held := s.held.filter (·.guard ≠ guard)
      listed := s.listed.filter (·.1 ≠ t.id) }

def addUpload (s : Statistics) (guard : Nat) (n : UInt64) : Statistics :=
  { s.update guard fun t => { t with upload := t.upload + n } with upload := s.upload.add n }

def addDownload (s : Statistics) (guard : Nat) (n : UInt64) : Statistics :=
  { s.update guard fun t => { t with download := t.download + n } with
    download := s.download.add n }

def signal (s : Statistics) (guard : Nat) : Statistics :=
  s.update guard fun t => { t with closing := true }

/-- Asks the connection listed under an identifier to close, and tells whether there is one. -/
def close (s : Statistics) (id : Uuid) : Bool × Statistics :=
  match s.listed.lookup id with
  | some guard => (true, s.signal guard)
  | none => (false, s)

/-- Asks every listed connection to close, and counts them. -/
def closeAll (s : Statistics) : Nat × Statistics :=
  (s.listed.length, s.listed.foldl (fun s (_, guard) => s.signal guard) s)

def isClosing (s : Statistics) (guard : Nat) : Bool := (s.tracker? guard).any (·.closing)

/-- The listed connections in the order of registration. -/
def connections (s : Statistics) : List Tracker := s.listed.filterMap fun (_, g) => s.tracker? g

def now (s : Statistics) : Sample := ⟨s.upload.latest, s.download.latest⟩

/-- Rolls the counters and publishes what they held as a sample. -/
def tick (s : Statistics) : Statistics :=
  let up := s.upload.roll
  let down := s.download.roll
  { s with
    upload := up
    download := down
    traffic := (s.traffic.publish ⟨up.latest, down.latest⟩).2 }

end Statistics

def Tracker.json (t : Tracker) : Json :=
  .obj [("id", .str t.id.text), ("metadata", t.metadata.json), ("upload", .nat t.upload.toNat),
    ("download", .nat t.download.toNat), ("start", .str t.start),
    ("chains", .arr (t.chains.map .str)), ("rule", .str t.rule)]

/-- The totals and the listed connections. -/
def Statistics.json (s : Statistics) : Json :=
  .obj [("downloadTotal", .int s.download.total.toInt), ("uploadTotal", .int s.upload.total.toInt),
    ("connections", .arr (s.connections.map (·.json)))]

end LocalProxy
