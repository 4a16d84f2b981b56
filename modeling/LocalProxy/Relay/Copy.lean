import LocalProxy.Text.Utf8

/-! Copying one direction of a connection: a chunk is read, written out in one or more writes,
and then counted. -/
namespace LocalProxy.Relay

inductive Status
  | running
  | finished
  | failed
deriving DecidableEq, Repr

/-- `source` is what the sender has yet to be read of, `held` what is read and not yet
written, `chunk` the size of the chunk that `held` is the rest of. A finished copy has shown
the receiver the end. -/
structure Copy where
  source : Bytes
  held : Bytes
  chunk : Nat
  delivered : Bytes
  total : Nat
  status : Status
deriving DecidableEq, Repr

namespace Copy

/-- The most octets of one chunk. -/
def maxChunk : Nat := 16384

def start (source : Bytes) : Copy := ⟨source, [], 0, [], 0, .running⟩

/-- What the counters and the report of a copy say: nothing of one that failed. -/
def reported (c : Copy) : Nat := if c.status = .finished then c.total else 0

/-- Reads a chunk of `n` octets. -/
def read? (n : Nat) (c : Copy) : Option Copy :=
  if c.status = .running ∧ c.held = [] ∧ 0 < n ∧ n ≤ min maxChunk c.source.length then
    some { c with source := c.source.drop n, held := c.source.take n, chunk := n }
  else none

/-- Writes `n` octets. When the chunk is out it is counted; the number is what is counted. -/
def write? (n : Nat) (c : Copy) : Option (Copy × Nat) :=
  if c.status = .running ∧ 0 < n ∧ n ≤ c.held.length then
    let written := { c with held := c.held.drop n, delivered := c.delivered ++ c.held.take n }
    if written.held = [] then some ({ written with total := c.total + c.chunk }, c.chunk)
    else some (written, 0)
  else none

/-- Meets the end of the source and shuts the receiving side. -/
def finish? (c : Copy) : Option Copy :=
  if c.status = .running ∧ c.held = [] ∧ c.source = [] then some { c with status := .finished }
  else none

/-- Meets an error of either side. What was delivered of a chunk stays uncounted. -/
def fail? (c : Copy) : Option Copy :=
  if c.status = .running then some { c with status := .failed } else none

end Copy

end LocalProxy.Relay
