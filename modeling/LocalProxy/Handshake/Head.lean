import LocalProxy.Handshake.Exchange

/-! Reading a request head from bytes that arrive in pieces. A read takes no more than the
buffer has room for, and the buffer doubles when it is full. -/
namespace LocalProxy.Handshake

/-- A head that fills this many octets without ending is refused. -/
def maxHead : Nat := 16384

/-- The length of the text up to its first empty line, with that line. -/
def headEnd? : Bytes → Option Nat
  | [] => none
  | b :: rest =>
    if [13, 10, 13, 10].isPrefixOf (b :: rest) then some 4 else (headEnd? rest).map (· + 1)

def firstRoom : Nat := 1024

/-- The size of a buffer with this many octets in it when it is read into. -/
def bufferSize (filled : Nat) : Nat :=
  if filled < firstRoom then firstRoom else Nat.pow 2 (filled.log2 + 1)

/-- The next read into a buffer with some room, and what has yet to arrive. A read that gives
nothing is the end. -/
def nextRead (room : Nat) : List Bytes → Bytes × List Bytes
  | [] => ([], [])
  | [] :: later => nextRead room later
  | piece :: later =>
    if piece.length ≤ room then (piece, later) else (piece.take room, piece.drop room :: later)

/-- Reads up to the end of a head. Gives the head, what was read past it, and what has yet to
arrive. -/
def readHead (buffer : Bytes) (arriving : List Bytes) :
    Except ProtocolFault (Bytes × Bytes × List Bytes) :=
  match headEnd? buffer with
  | some size => .ok (buffer.take size, buffer.drop size, arriving)
  | none =>
    if maxHead ≤ buffer.length then .error .headTooLarge
    else match nextRead (bufferSize buffer.length - buffer.length) arriving with
      | ([], _) => .error .closedBeforeHead
      | (b :: read, arriving) => readHead (buffer ++ b :: read) arriving
termination_by maxHead - buffer.length
decreasing_by
  simp only [List.length_append, List.length_cons]
  omega

end LocalProxy.Handshake
