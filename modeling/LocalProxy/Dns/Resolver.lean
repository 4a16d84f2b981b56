import LocalProxy.Dns.Message
import LocalProxy.Net.Endpoint

/-! Asking nameservers one after the other over UDP. What the network does in one attempt is a
script; the first answer that counts ends the exchange. -/
namespace LocalProxy.Dns

inductive ResolveFault
  | recordType (name : String)
  | name (text : String)
  | exchange (reason : String)
  | timeout
deriving DecidableEq, Repr

def ResolveFault.message : ResolveFault → String
  | recordType s => "invalid record type `" ++ s ++ "`"
  | name s => "invalid name `" ++ s ++ "`"
  | exchange reason => "exchange failed: " ++ reason
  | timeout => "query timed out"

/-- The nameservers in order, and the time each of them gets. -/
structure Resolver where
  nameservers : List Endpoint
  timeoutMs : Nat
deriving DecidableEq, Repr

/-- What a waiting socket meets. -/
inductive Arrival
  | datagram (sender : Endpoint) (octets : Bytes)
  | failure (reason : String)
deriving DecidableEq, Repr

/-- What the network does with one attempt: the query could not be sent, or it was and these
things arrive until the time is over. -/
inductive Attempt
  | unsent (reason : String)
  | sent (arrivals : List Arrival)
deriving DecidableEq, Repr

/-- The longest datagram that is taken in whole. -/
def maxResponse : Nat := 4096

/-- Waits for the answer with the query's number. Other senders and other numbers are passed
over; what the server sends must decode. -/
def await (decode : Bytes → Option Message) (server : Endpoint) (id : UInt16) :
    List Arrival → Except ResolveFault Message
  | [] => .error .timeout
  | .failure reason :: _ => .error (.exchange reason)
  | .datagram sender octets :: rest =>
    if sender ≠ server then await decode server id rest
    else match decode (octets.take maxResponse) with
      | none => .error (.exchange "malformed response")
      | some m => if m.id = id then .ok m else await decode server id rest

def Attempt.outcome (decode : Bytes → Option Message) (server : Endpoint) (id : UInt16) :
    Attempt → Except ResolveFault Message
  | unsent reason => .error (.exchange reason)
  | sent arrivals => await decode server id arrivals

/-- Asks the servers in order until one answers. The last failure counts. To contact a server is to
make an attempt, which leaves its traces outside. -/
def exchangeFrom {σ : Type} (decode : Bytes → Option Message)
    (contact : Endpoint → σ → Attempt × σ) (id : UInt16) (last : ResolveFault) :
    List Endpoint → σ → Except ResolveFault Message × σ
  | [], outside => (.error last, outside)
  | server :: rest, outside =>
    let (attempt, outside) := contact server outside
    match attempt.outcome decode server id with
    | .ok m => (.ok m, outside)
    | .error fault => exchangeFrom decode contact id fault rest outside

/-- The servers that fail before one answers, each with its fault, in the order they are asked. -/
def failuresFrom {σ : Type} (decode : Bytes → Option Message)
    (contact : Endpoint → σ → Attempt × σ) (id : UInt16) :
    List Endpoint → σ → List (Endpoint × ResolveFault)
  | [], _ => []
  | server :: rest, outside =>
    let (attempt, outside) := contact server outside
    match attempt.outcome decode server id with
    | .ok _ => []
    | .error fault => (server, fault) :: failuresFrom decode contact id rest outside

/-- Asks the nameservers for the answer to the query of this number. -/
def Resolver.ask {σ : Type} (r : Resolver) (decode : Bytes → Option Message)
    (contact : Endpoint → σ → Attempt × σ) (id : UInt16) (outside : σ) :
    Except ResolveFault Message × σ :=
  exchangeFrom decode contact id (.exchange "no nameserver configured") r.nameservers outside

/-- The answer where the network does the same whenever a server is contacted. -/
def Resolver.exchange (r : Resolver) (network : Endpoint → Attempt) (id : UInt16) :
    Except ResolveFault Message :=
  (r.ask Message.decode? (fun server _ => (network server, ())) id ()).1

/-- The nameservers that fail where the network does the same whenever a server is contacted. -/
def Resolver.failures (r : Resolver) (network : Endpoint → Attempt) (id : UInt16) :
    List (Endpoint × ResolveFault) :=
  failuresFrom Message.decode? (fun server _ => (network server, ())) id r.nameservers ()

/-- The query for a name and a type, of which the type is looked at first. -/
def Query.of (id : UInt16) (name type : String) : Except ResolveFault Query :=
  match RecordType.parse? type with
  | none => .error (.recordType type)
  | some t =>
    match Name.parse? name with
    | none => .error (.name name)
    | some n => .ok ⟨id, n, t⟩

end LocalProxy.Dns
