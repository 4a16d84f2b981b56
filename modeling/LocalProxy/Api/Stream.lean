import LocalProxy.Api.Response
import LocalProxy.Hub

/-! Reading and giving up the streams of the control interface. -/
namespace LocalProxy

def LogEvent.json (e : LogEvent) : Json :=
  .obj [("type", .str e.level.name), ("payload", .str e.payload), ("time", .str e.time)]

namespace Api

variable {σ : Type}

/-- The values that a stream has ready, which leave it. Snapshots are ready whenever their
time has come, and so are not among them. -/
def Stream.read (s : Stream) (h : Hub σ) : List Json × Hub σ :=
  match s.feed with
  | .logs =>
    let (events, logs) := h.logs.drain s.subscription
    ((events.filter fun e => s.level.allows e.level).map (·.json), { h with logs := logs })
  | .traffic =>
    let (samples, traffic) := h.statistics.traffic.drain s.subscription
    (samples.map (·.json), { h with statistics := { h.statistics with traffic := traffic } })
  | .connections _ => ([], h)

/-- Takes the first of the values that are ready, if there is one, and shows it if it is to be
shown. -/
def Stream.pull (s : Stream) (h : Hub σ) : List Json × Hub σ :=
  match s.feed with
  | .logs =>
    let (event, logs) := h.logs.take s.subscription
    ((event.toList.filter fun e => s.level.allows e.level).map (·.json), { h with logs := logs })
  | .traffic =>
    let (sample, traffic) := h.statistics.traffic.take s.subscription
    (sample.toList.map (·.json), { h with statistics := { h.statistics with traffic := traffic } })
  | .connections _ => ([], h)

/-- Each value on a line of its own. -/
def lineText (values : List Json) : String := String.join (values.map fun j => j.text ++ "\n")

/-- The client goes away. -/
def Stream.drop (s : Stream) (h : Hub σ) : Hub σ :=
  match s.feed with
  | .logs => { h with logs := h.logs.unsubscribe s.subscription }
  | .traffic =>
    { h with statistics :=
      { h.statistics with traffic := h.statistics.traffic.unsubscribe s.subscription } }
  | .connections _ => h

end Api

end LocalProxy
