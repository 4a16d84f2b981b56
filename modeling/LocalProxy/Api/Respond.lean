import LocalProxy.Api.Auth
import LocalProxy.Api.Route
import LocalProxy.Api.Stream
import LocalProxy.Options

/-! What the control interface answers to a request, and what the request does to the hub. -/
namespace LocalProxy.Api

/-- An inbound as clients write it; the type is not known to be one. -/
structure InboundBody where
  type : String
  bindAddress : String
deriving DecidableEq, Repr

namespace InboundBody

def members : Json.Fields InboundBody :=
  [("type", fun b s => do
      let (v, s) ← Json.readString s
      return ({ b with type := v }, s)),
   ("bind-address", fun b s => do
      let (v, s) ← Json.readString s
      return ({ b with bindAddress := v }, s))]

def reader : Json.Reader InboundBody :=
  Json.readRecord members ["type", "bind-address"] ⟨"", ""⟩

def ofSpec (s : InboundSpec) : InboundBody := ⟨s.type.name, s.bindAddress⟩

def json (b : InboundBody) : Json :=
  .obj [("type", .str b.type), ("bind-address", .str b.bindAddress)]

/-- The explicit inbound of a body, or the type that is none. -/
def spec (b : InboundBody) : Except String InboundSpec :=
  (InboundType.parse b.type).map fun type => ⟨type, b.bindAddress, false⟩

end InboundBody

def reportJson (r : Report InboundSpec) : Json :=
  .obj [("created", .arr (r.created.map fun s => .str s.label)),
    ("closed", .arr (r.closed.map fun s => .str s.label)),
    ("failed", .arr (r.failed.map fun (s, error) =>
      .obj [("inbound", .str s.label), ("error", .str error)]))]

def ruleJson (r : Rule) : Json :=
  .obj [("type", .str r.type.name), ("payload", .str r.payload), ("proxy", .str r.proxy)]

def tunnelJson (e : TunnelEntry) (bound : Endpoint) : Json :=
  .obj [("network", .str e.network.name), ("address", .str e.key.address),
    ("target", .str e.key.target), ("proxy", .str e.key.proxy), ("bound", .str bound.text)]

def BodyFault.response : BodyFault → Response
  | mediaType => .text 415 "Expected request with `Content-Type: application/json`"
  | tooLarge => .text 413 "length limit exceeded"
  | json .malformed => .text 400 "Failed to parse the request body as JSON"
  | json .mismatch => .text 422 "Failed to deserialize the JSON body into the target type"

def badQuery : Response := .text 400 "Failed to deserialize query string"

def unauthorized : Problem := ⟨401, "unauthorized", "Missing or invalid Authorization token"⟩

variable {σ : Type}

/-- Answers with a stream, over a WebSocket where the request opens one. -/
def openStream (r : Request) (s : Stream) : Response :=
  if r.opensWebSocket then .webSocket s else .lines s

def patchConfigs (d : Drivers σ) (h : Hub σ) (r : Request) : Response × Hub σ :=
  match r.json GeneralPatch.reader with
  | .error fault => (fault.response, h)
  | .ok patch =>
    let h := h.patch d patch
    (.json h.general.json, h)

def reloadConfigs (d : Outside σ) (h : Hub σ) : Response × Hub σ :=
  match h.reload d with
  | (.ok (), h) => (.done, h)
  | (.error fault@(.unreadable _ _), h) =>
    (.problem ⟨500, "reload_failed", fault.message⟩,
      h.log (.of .error "Reload failed" [("error", .text fault.message)]))
  | (.error fault, h) => (.problem ⟨400, "invalid_config", fault.message⟩, h)

def replaceInbounds (d : Drivers σ) (h : Hub σ) (r : Request) : Response × Hub σ :=
  match r.json (Json.readList InboundBody.reader) with
  | .error fault => (fault.response, h)
  | .ok bodies =>
    match bodies.mapM InboundBody.spec with
    | .error name => (.problem ⟨400, "invalid_inbound", InboundType.unknownMessage name⟩, h)
    | .ok specs =>
      let (h, report) := h.updateInbounds d specs
      (.json (reportJson report), h)

/-- Subscribes to the log records from a level on, `info` unless the query says otherwise. -/
def streamLogs (h : Hub σ) (r : Request) : Response × Hub σ :=
  let subscribe := fun (level : Level) =>
    let (id, logs) := h.logs.subscribe
    (openStream r ⟨.logs, id, level⟩, { h with logs := logs })
  match r.parameter "level" with
  | .repeated => (badQuery, h)
  | .absent => subscribe .info
  | .value s =>
    match Level.parse s with
    | .ok level => subscribe level
    | .error name => (.problem ⟨400, "invalid_level", Level.unknownMessage name⟩, h)

def streamTraffic (h : Hub σ) (r : Request) : Response × Hub σ :=
  let (id, traffic) := h.statistics.traffic.subscribe
  (openStream r ⟨.traffic, id, .info⟩,
    { h with statistics := { h.statistics with traffic := traffic } })

/-- The interval of a query in milliseconds: a second if it says none, and at least a tenth of
one. -/
def intervalMs? (r : Request) : Option Nat :=
  match r.parameter "interval" with
  | .absent => some 1000
  | .value s => (Text.natBelow? UInt64.size s.toList).map (max · 100)
  | .repeated => none

/-- A snapshot of the connections, or a stream of them over a WebSocket. -/
def getConnections (h : Hub σ) (r : Request) : Response × Hub σ :=
  match intervalMs? r with
  | none => (badQuery, h)
  | some interval =>
    if r.opensWebSocket then (.webSocket ⟨.connections interval, 0, .info⟩, h)
    else (.json h.statistics.json, h)

def closeConnections (h : Hub σ) : Response × Hub σ :=
  let (count, statistics) := h.statistics.closeAll
  (.done, { h with statistics := statistics }.log
    (.of .info "Closing all connections" [("connections", .int count)]))

/-- The identifier in a path is text, and names a connection that is listed. -/
def closeConnection (h : Hub σ) (part : String) : Response × Hub σ :=
  match Text.ofUtf8? (percentDecode (Text.utf8 part)) with
  | none => (.text 400 "Invalid URL", h)
  | some id =>
    let notFound := Response.problem ⟨404, "connection_not_found", "No connection " ++ id⟩
    match Uuid.parse? id with
    | none => (notFound, h)
    | some uuid =>
      match h.statistics.close uuid with
      | (true, statistics) => (.done, { h with statistics := statistics })
      | (false, _) => (notFound, h)

def resolveFault (h : Hub σ) (fault : Dns.ResolveFault) : Response × Hub σ :=
  match fault with
  | .recordType _ => (.problem ⟨400, "invalid_record_type", fault.message⟩, h)
  | .name _ => (.problem ⟨400, "invalid_name", fault.message⟩, h)
  | _ =>
    (.problem ⟨500, "resolver_failed", "Resolver query failed"⟩,
      h.log (.of .warn "DNS probe failed" [("error", .text fault.message)]))

/-- What is noted of a nameserver that failed. -/
def nameserverFailed (failure : Endpoint × Dns.ResolveFault) : Record :=
  .of .debug "Nameserver failed"
    [("nameserver", .text failure.1.text), ("error", .text failure.2.message)]

/-- The number of a query is for the outside to choose. -/
def probe (d : Outside σ) (h : Hub σ) (resolver : Dns.Resolver) (name type : String) :
    Response × Hub σ :=
  match Dns.Query.of 0 name type with
  | .error fault => resolveFault h fault
  | .ok query =>
    let noted := (d.failures resolver query h.manager.outside).map nameserverFailed
    let (outcome, outside) := d.exchange resolver query h.manager.outside
    let h := { h with manager := { h.manager with
      outside := outside, records := h.manager.records ++ noted } }
    match outcome with
    | .ok message => (.json message.json, h)
    | .error fault => resolveFault h fault

/-- Asks the resolver for the records of a name, addresses unless the query says otherwise. -/
def queryDns (d : Outside σ) (h : Hub σ) (r : Request) : Response × Hub σ :=
  match r.parameter "name", r.parameter "type" with
  | .value _, .repeated => (badQuery, h)
  | .value name, type =>
    match h.resolver with
    | none =>
      (.problem ⟨503, "resolver_unavailable", "DNS resolver is not configured"⟩, h)
    | some resolver =>
      probe d h resolver name (match type with
        | .value t => t
        | _ => "A")
  | _, _ => (badQuery, h)

/-- The answer for a method of a route, if the route serves it. -/
def serve? (d : Outside σ) (h : Hub σ) (r : Request) (route : Route) :
    Option (Response × Hub σ) :=
  let method := if r.method = "HEAD" then "GET" else r.method
  match route, method with
  | .version, "GET" => some (.json (.obj [("version", .str version)]), h)
  | .configs, "GET" => some (.json h.general.json, h)
  | .configs, "PATCH" => some (patchConfigs d.toDrivers h r)
  | .configs, "PUT" => some (reloadConfigs d h)
  | .inbounds, "GET" =>
    some (.json (.arr (h.manager.explicitInbounds.map fun s => (InboundBody.ofSpec s).json)), h)
  | .inbounds, "PUT" => some (replaceInbounds d.toDrivers h r)
  | .rules, "GET" => some (.json (.obj [("rules", .arr (h.rules.map ruleJson))]), h)
  | .tunnels, "GET" =>
    some (.json (.obj [("tunnels",
      .arr (h.manager.tunnelStatus.map fun (e, bound) => tunnelJson e bound))]), h)
  | .logs, "GET" => some (streamLogs h r)
  | .traffic, "GET" => some (streamTraffic h r)
  | .connections, "GET" => some (getConnections h r)
  | .connections, "DELETE" => some (closeConnections h)
  | .connection id, "DELETE" => some (closeConnection h id)
  | .dnsQuery, "GET" => some (queryDns d h r)
  | _, _ => none

/-- An answer without its body. A stream in it is given up. -/
def withoutBody (answer : Response × Hub σ) : Response × Hub σ :=
  let (response, h) := answer
  let h := match response.body with
    | .lines s => s.drop h
    | .webSocket s => s.drop h
    | _ => h
  ({ response with body := .empty }, h)

/-- The answer behind the question of who asks. -/
def answer (d : Outside σ) (h : Hub σ) (r : Request) : Response × Hub σ :=
  let route := Route.ofPath? r.path
  let served := if r.passes h.general.secret then
      match route with
      | none => some ({ status := 404 }, h)
      | some route => serve? d h r route
    else none
  match served with
  | some answer => answer
  | none =>
    let response : Response :=
      if r.passes h.general.secret then { status := 405 } else .problem unauthorized
    let allow := (route.filter fun route => r.method ∉ route.methods).map (·.allow)
    ({ response with allow := allow }, h)

/-- The answer to a request. `OPTIONS` asks what other origins may send, and needs no
secret. -/
def respond (d : Outside σ) (h : Hub σ) (r : Request) : Response × Hub σ :=
  if r.method = "OPTIONS" then
    ({ status := 200, isPreflight := true, allow := (Route.ofPath? r.path).map (·.allow) }, h)
  else if r.method = "HEAD" then withoutBody (answer d h r)
  else answer d h r

end LocalProxy.Api
