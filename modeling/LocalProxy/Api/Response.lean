import LocalProxy.Events.Level
import LocalProxy.Json

/-! Answers of the control interface. -/
namespace LocalProxy.Api

/-- What an open stream carries. -/
inductive Feed
  | logs
  | traffic
  | connections (intervalMs : Nat)
deriving DecidableEq, Repr

/-- A stream that is being read: its feed, and its subscription where the feed is a bus. Log
records reach it from `level` on. -/
structure Stream where
  feed : Feed
  subscription : Nat
  level : Level
deriving DecidableEq, Repr

inductive Body
  | empty
  | json (value : Json)
  | problem (value : Json)
  | text (content : String)
  | lines (stream : Stream)
  | webSocket (stream : Stream)

/-- The stream that a body carries, if it carries one. -/
def Body.stream? : Body → Option Stream
  | lines s | webSocket s => some s
  | empty | json _ | problem _ | text _ => none

/-- An answer. `allow` names the methods of the path; `isPreflight` marks the answer that
names what other origins may send. -/
structure Response where
  status : Nat
  body : Body := .empty
  contentType : Option String := none
  allow : Option String := none
  isPreflight : Bool := false

/-- The reason phrase of a status. -/
def reasonOf : Nat → String
  | 400 => "Bad Request"
  | 401 => "Unauthorized"
  | 404 => "Not Found"
  | 500 => "Internal Server Error"
  | 503 => "Service Unavailable"
  | _ => "Unknown Error"

/-- A failure as clients see it. -/
structure Problem where
  status : Nat
  code : String
  detail : String
deriving DecidableEq, Repr

def Problem.json (p : Problem) : Json :=
  .obj [("type", .str ("https://portico.dev/problems/" ++ p.code)),
    ("title", .str (reasonOf p.status)), ("status", .nat p.status), ("detail", .str p.detail),
    ("code", .str p.code)]

namespace Response

def json (value : Json) : Response :=
  { status := 200, body := .json value, contentType := some "application/json" }

def problem (p : Problem) : Response :=
  { status := p.status, body := .problem p.json, contentType := some "application/problem+json" }

def text (status : Nat) (content : String) : Response :=
  { status := status, body := .text content, contentType := some "text/plain; charset=utf-8" }

def done : Response := { status := 204 }

def lines (s : Stream) : Response :=
  { status := 200, body := .lines s, contentType := some "application/x-ndjson" }

def webSocket (s : Stream) : Response := { status := 101, body := .webSocket s }

/-- The headers of every answer for other origins. -/
def originHeaders (r : Response) : List (String × String) :=
  ("access-control-allow-origin", "*") ::
    if r.isPreflight then
      [("access-control-allow-methods", "GET,PUT,PATCH,DELETE"),
       ("access-control-allow-headers", "content-type,authorization")]
    else []

end Response

end LocalProxy.Api
