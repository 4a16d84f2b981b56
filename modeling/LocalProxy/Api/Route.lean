import LocalProxy.Text

/-! The paths of the control interface and the methods they serve. -/
namespace LocalProxy.Api

inductive Route
  | version
  | configs
  | inbounds
  | rules
  | tunnels
  | logs
  | traffic
  | connections
  | connection (id : String)
  | dnsQuery
deriving DecidableEq, Repr

namespace Route

/-- The route of a path, whose last part may be a connection's identifier. -/
def ofPath? (path : String) : Option Route :=
  match path with
  | "/version" => some version
  | "/configs" => some configs
  | "/inbounds" => some inbounds
  | "/rules" => some rules
  | "/tunnels" => some tunnels
  | "/logs" => some logs
  | "/traffic" => some traffic
  | "/connections" => some connections
  | "/dns/query" => some dnsQuery
  | path =>
    match Text.stripStart "/connections/" path with
    | some id => if id = "" ∨ '/' ∈ id.toList then none else some (connection id)
    | none => none

/-- The methods of a route. What is served for `GET` is served for `HEAD` too. -/
def methods : Route → List String
  | configs => ["GET", "HEAD", "PATCH", "PUT"]
  | inbounds => ["GET", "HEAD", "PUT"]
  | connections => ["GET", "HEAD", "DELETE"]
  | connection _ => ["DELETE"]
  | _ => ["GET", "HEAD"]

def allow (r : Route) : String := ",".intercalate r.methods

end Route

end LocalProxy.Api
