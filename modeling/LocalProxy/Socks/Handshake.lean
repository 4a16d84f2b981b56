import LocalProxy.Socks.Address

/-! The handshakes of SOCKS 4, 4a and 5, as a function of the client's bytes. Only connections
without a method of authentication are offered. -/
namespace LocalProxy.Socks

open Handshake

def version4 : UInt8 := 4

def version5 : UInt8 := 5

def noAuthentication : UInt8 := 0

def connectCommand : UInt8 := 1

def associateCommand : UInt8 := 3

/-- The methods a client offers, after the version octet. -/
def readMethods (s : Bytes) : Except HandshakeFault (Bytes × Bytes) := do
  let (count, s) ← octet s
  block count.toNat s

/-- A command and its address. The version comes first and the command is not judged here. -/
def readCommand (s : Bytes) : Except HandshakeFault (UInt8 × Target × Bytes) := do
  let (header, s) ← block 4 s
  match header with
  | [version, command, _, code] =>
    if version ≠ version5 then throw (.protocol (.requestVersion version))
    let (target, s) ← readAddress code s
    return (command, target, s)
  | _ => throw .endInBlock

/-- Tells the client how its command went, and the address of the inbound. -/
def reply5 (code : UInt8) (here : Endpoint) : Bytes :=
  [version5, code, 0] ++ encodeAddress (.address here)

def succeeded : UInt8 := 0

def commandNotSupported : UInt8 := 7

/-- A client that asks for an association holds the connection open and sends its datagrams
elsewhere. -/
def answerCommand (here : Endpoint) (s : Bytes) : Exchange :=
  match readCommand s with
  | .error fault => .drop fault
  | .ok (command, target, rest) =>
    if command = connectCommand then ⟨reply5 succeeded here, .accepted target [] rest⟩
    else if command = associateCommand then ⟨reply5 succeeded here, .finished⟩
    else .refuse (.command command) (reply5 commandNotSupported here)

def serve5 (here : Endpoint) (s : Bytes) : Exchange :=
  match readMethods s with
  | .error fault => .drop fault
  | .ok (methods, s) =>
    if noAuthentication ∈ methods then (answerCommand here s).after [version5, noAuthentication]
    else .refuse .noMethod [version5, 0xFF]

structure ShortRequest where
  command : UInt8
  port : UInt16
  ip : Ipv4
deriving DecidableEq, Repr

/-- The longest field that a NUL ends, in octets. -/
def maxField : Nat := 255

/-- A request up to the end of the user's name, which is not kept. -/
def readShortRequest (s : Bytes) : Except HandshakeFault (ShortRequest × Bytes) := do
  let (command, s) ← octet s
  let (port, s) ← word s
  let (octets, s) ← block 4 s
  let (_, s) ← untilNul maxField s
  match Ipv4.ofOctets? octets with
  | some ip => return (⟨command, port, ip⟩, s)
  | none => throw .endInBlock

/-- The address 0.0.0.x says that a domain follows, unless x is zero. -/
def namesDomain (ip : Ipv4) : Bool := ip.a = 0 && ip.b = 0 && ip.c = 0 && ip.d ≠ 0

def readShortTarget (r : ShortRequest) (s : Bytes) : Except HandshakeFault (Target × Bytes) := do
  if namesDomain r.ip then
    let (name, s) ← untilNul maxField s
    match Text.ofUtf8? name with
    | some host => return (.domain host r.port, s)
    | none => throw (.protocol .hostNotText)
  else return (.address (.v4 r.ip r.port), s)

def reply4 (code : UInt8) : Bytes := [0, code, 0, 0, 0, 0, 0, 0]

def granted : UInt8 := 0x5A

def rejected : UInt8 := 0x5B

def serve4 (s : Bytes) : Exchange :=
  match readShortRequest s with
  | .error fault => .drop fault
  | .ok (request, s) =>
    if request.command ≠ connectCommand then
      .refuse (.shortCommand request.command) (reply4 rejected)
    else match readShortTarget request s with
      | .error fault => .drop fault
      | .ok (target, rest) => ⟨reply4 granted, .accepted target [] rest⟩

/-- The first octet is the version. `here` is the address of the inbound. -/
def serve (here : Endpoint) (s : Bytes) : Exchange :=
  match octet s with
  | .error fault => .drop fault
  | .ok (version, s) =>
    if version = version5 then serve5 here s
    else if version = version4 then serve4 s
    else .refuse (.version version)

end LocalProxy.Socks
