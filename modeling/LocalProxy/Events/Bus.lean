/-! A bus copies each item to every subscription. Each subscription buffers a bounded number
of items and misses those that find no room. -/
namespace LocalProxy

structure Subscription (α : Type) where
  id : Nat
  items : List α
deriving DecidableEq, Repr

/-- `handles` counts the owners that may still publish or subscribe. -/
structure Bus (α : Type) where
  capacity : Nat
  nextId : Nat
  handles : Nat
  subscriptions : List (Subscription α)
deriving DecidableEq, Repr

/-- What one look at a subscription finds. -/
inductive Poll (α : Type)
  | item (a : α)
  | pending
  | ended
deriving DecidableEq, Repr

namespace Subscription

variable {α : Type}

def hasRoom (capacity : Nat) (s : Subscription α) : Bool := s.items.length < capacity

/-- Buffers the item if there is room. -/
def offer (capacity : Nat) (a : α) (s : Subscription α) : Subscription α :=
  if s.hasRoom capacity then { s with items := s.items ++ [a] } else s

def text (s : Subscription α) : String :=
  "Subscription \x7b id: " ++ toString s.id ++ " \x7d"

end Subscription

namespace Bus

variable {α : Type}

/-- A bus with one handle. A subscription holds at least one item. -/
def create (buffer : Nat) : Bus α := ⟨max buffer 1, 1, 1, []⟩

def text (b : Bus α) : String :=
  "Observable \x7b buffer: " ++ toString b.capacity ++ ", .. \x7d"

def isOpen (b : Bus α) : Bool := b.handles ≠ 0

def count (b : Bus α) : Nat := b.subscriptions.length

def find? (b : Bus α) (id : Nat) : Option (Subscription α) := b.subscriptions.find? (·.id == id)

def update (b : Bus α) (id : Nat) (f : Subscription α → Subscription α) : Bus α :=
  { b with subscriptions := b.subscriptions.map fun s => if s.id = id then f s else s }

/-- Gives a new subscription the next number. -/
def subscribe (b : Bus α) : Nat × Bus α :=
  (b.nextId, { b with
    nextId := b.nextId + 1
    subscriptions := b.subscriptions ++ [⟨b.nextId, []⟩] })

def unsubscribe (b : Bus α) (id : Nat) : Bus α :=
  { b with subscriptions := b.subscriptions.filter (·.id ≠ id) }

/-- Offers the item to every subscription and counts those with room. -/
def publish (b : Bus α) (a : α) : Nat × Bus α :=
  ((b.subscriptions.filter (·.hasRoom b.capacity)).length,
    { b with subscriptions := b.subscriptions.map (·.offer b.capacity a) })

/-- Takes the oldest buffered item of a subscription. -/
def take (b : Bus α) (id : Nat) : Option α × Bus α :=
  match b.find? id with
  | some ⟨_, a :: _⟩ => (some a, b.update id fun s => { s with items := s.items.drop 1 })
  | _ => (none, b)

/-- A subscription with nothing buffered waits while the bus is open. -/
def poll (b : Bus α) (id : Nat) : Poll α × Bus α :=
  match b.take id with
  | (some a, b) => (.item a, b)
  | (none, b) => (if b.isOpen then .pending else .ended, b)

/-- Takes all buffered items of a subscription. -/
def drain (b : Bus α) (id : Nat) : List α × Bus α :=
  (((b.find? id).map (·.items)).getD [], b.update id fun s => { s with items := [] })

def share (b : Bus α) : Bus α := { b with handles := b.handles + 1 }

def release (b : Bus α) : Bus α := { b with handles := b.handles - 1 }

end Bus

/-- A bus behind a channel. Its pump holds a handle while the channel may bring more. -/
structure Pump (α : Type) where
  bus : Bus α
  waiting : List α
  sourceOpen : Bool
  running : Bool
deriving DecidableEq, Repr

namespace Pump

variable {α : Type}

def create (buffer : Nat) : Pump α := ⟨(Bus.create buffer).share, [], true, true⟩

/-- Puts an item into the channel, unless that was closed. -/
def send (p : Pump α) (a : α) : Bool × Pump α :=
  if p.sourceOpen then (true, { p with waiting := p.waiting ++ [a] }) else (false, p)

def close (p : Pump α) : Pump α := { p with sourceOpen := false }

/-- One turn of the pump: the next item goes to the bus; a closed and empty channel ends the
pump. -/
def turn (p : Pump α) : Pump α :=
  match p.running, p.waiting with
  | true, a :: rest => { p with bus := (p.bus.publish a).2, waiting := rest }
  | true, [] =>
    if p.sourceOpen then p else { p with bus := p.bus.release, running := false }
  | false, _ => p

/-- Turns until the pump waits or has ended. -/
def settle (p : Pump α) : Pump α := (List.range (p.waiting.length + 1)).foldl (fun p _ => p.turn) p

end Pump

end LocalProxy
