import LocalProxy.Proofs.Api.Auth

/-! Sessions: clients that send requests to the control interface and read the streams they got,
while the rest of the program goes on. -/
namespace LocalProxy.Api

variable {σ : Type}

/-- How records come to be log events: which of them are shown under a level, and what the clock
says. -/
structure Logging (σ : Type) where
  shows : Level → Record → Bool
  now : σ → String

/-- Publishes what was recorded since there were so many records, as far as it is shown. -/
def Logging.feed (l : Logging σ) (recorded : Nat) (h : Hub σ) : Hub σ :=
  let fresh := (h.manager.records.drop recorded).filter (l.shows h.general.logLevel)
  { h with logs := fresh.foldl (fun logs r =>
      (logs.publish ⟨r.severity.level, r.payload, l.now h.manager.outside⟩).2) h.logs }

/-- A hub, and the streams that its clients hold. -/
structure Session (σ : Type) where
  hub : Hub σ
  held : List Stream := []

namespace Session

/-- What clients do, and what else happens: an operation that a signal asks for, a log event from
another part of the program, and what relays, the clock and the outside change. -/
inductive Event (σ : Type)
  | request (r : Request)
  | read (body : Nat)
  | leave (body : Nat)
  | operation (op : Hub.Operation)
  | publish (e : LogEvent)
  | traffic (change : Statistics → Statistics)
  | outside (change : σ → σ)

/-- What a client gets. -/
inductive Reply
  | answer (response : Response)
  | lines (text : String)
  | none

/-- What happens at once, before records are published. -/
def act (d : Outside σ) (s : Session σ) : Event σ → Reply × Session σ
  | .request r =>
    let (response, hub) := respond d s.hub r
    (.answer response, { hub := hub, held := s.held ++ response.body.stream?.toList })
  | .read body =>
    match s.held[body]? with
    | some stream =>
      let (values, hub) := stream.read s.hub
      (.lines (lineText values), { s with hub := hub })
    | none => (.none, s)
  | .leave body =>
    match s.held[body]? with
    | some stream => (.none, { hub := stream.drop s.hub, held := s.held.eraseIdx body })
    | none => (.none, s)
  | .operation op => (.none, { s with hub := s.hub.perform d op })
  | .publish e => (.none, { s with hub := { s.hub with logs := (s.hub.logs.publish e).2 } })
  | .traffic change =>
    (.none, { s with hub := { s.hub with statistics := change s.hub.statistics } })
  | .outside change =>
    let m := s.hub.manager
    (.none, { s with hub := { s.hub with manager := { m with outside := change m.outside } } })

def step (d : Outside σ) (l : Logging σ) (s : Session σ) (e : Event σ) : Reply × Session σ :=
  let (reply, next) := act d s e
  (reply, { next with hub := l.feed s.hub.manager.records.length next.hub })

def run (d : Outside σ) (l : Logging σ) (s : Session σ) : List (Event σ) → List Reply × Session σ
  | [] => ([], s)
  | e :: rest =>
    let (reply, next) := step d l s e
    let (replies, last) := run d l next rest
    (reply :: replies, last)

end Session

end LocalProxy.Api
