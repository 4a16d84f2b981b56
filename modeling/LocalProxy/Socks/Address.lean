import LocalProxy.Handshake.Reader

/-! Addresses as SOCKS writes them: a type octet, the address, and the port. -/
namespace LocalProxy.Socks

open Handshake

inductive AddressType
  | v4
  | domain
  | v6
deriving DecidableEq, Repr

namespace AddressType

def code : AddressType → UInt8
  | v4 => 1
  | domain => 3
  | v6 => 4

def ofCode? (c : UInt8) : Option AddressType := [v4, domain, v6].find? (·.code == c)

theorem ofCode?_code (t : AddressType) : ofCode? t.code = some t := by cases t <;> rfl

theorem ofCode?_eq_some_iff {code : UInt8} {type : AddressType} :
    ofCode? code = some type ↔ code = type.code := by
  constructor
  · intro known
    have same : (type.code == code) = true :=
      List.find?_some (p := fun t : AddressType => t.code == code) known
    exact (eq_of_beq same).symm
  · rintro rfl
    exact ofCode?_code type

end AddressType

/-- The longest domain an address has room for, in octets. -/
def maxDomain : Nat := 255

def addressType : Target → AddressType
  | .address (.v4 _ _) => .v4
  | .address (.v6 _ _ _) => .v6
  | .domain _ _ => .domain

/-- The address between its type and its port. A longer domain is cut. -/
def addressBody : Target → Bytes
  | .address e => e.ip.octets
  | .domain host _ =>
    let name := (Text.utf8 host).take maxDomain
    name.length.toUInt8 :: name

def encodeAddress (t : Target) : Bytes :=
  (addressType t).code :: addressBody t ++ wordBytes t.port

/-- An address block and a port. -/
def readEndpoint (size : Nat) (ofOctets? : Bytes → Option IpAddress) (s : Bytes) :
    Except HandshakeFault (Target × Bytes) := do
  let (octets, s) ← block size s
  let (port, s) ← word s
  match ofOctets? octets with
  | some ip => return (.address (.ofIp ip port), s)
  | none => throw .endInBlock

/-- A domain after its length, and a port. That the domain is text is looked at last. -/
def readDomain (s : Bytes) : Except HandshakeFault (Target × Bytes) := do
  let (size, s) ← octet s
  let (name, s) ← block size.toNat s
  let (port, s) ← word s
  match Text.ofUtf8? name with
  | some host => return (.domain host port, s)
  | none => throw (.protocol .domainNotText)

/-- What follows the type octet. -/
def readAddress (code : UInt8) (s : Bytes) : Except HandshakeFault (Target × Bytes) :=
  match AddressType.ofCode? code with
  | some .v4 => readEndpoint 4 (fun b => (Ipv4.ofOctets? b).map .v4) s
  | some .v6 => readEndpoint 16 (fun b => (Ipv6.ofOctets? b).map .v6) s
  | some .domain => readDomain s
  | none => .error (.protocol (.addressType code))

end LocalProxy.Socks
