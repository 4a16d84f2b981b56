import LocalProxy.Proofs.Api.Sessions
import LocalProxy.Proofs.Hub.Operations

/-! The secret is never told. Hubs that differ in their secret alone answer alike whoever is let
through, and differ in nothing else afterwards. -/
namespace LocalProxy

variable {σ : Type}

namespace Hub

def underSecret (h : Hub σ) (secret : String) : Hub σ :=
  { h with general := { h.general with secret := secret } }

/-- Two hubs are alike in everything but their secret. -/
def UpToSecret (a b : Hub σ) : Prop := ∃ secret, b = a.underSecret secret

namespace UpToSecret

variable {a b : Hub σ}

theorem refl (a : Hub σ) : a.UpToSecret a := ⟨a.general.secret, rfl⟩

theorem mk (a : Hub σ) (secret : String) : a.UpToSecret (a.underSecret secret) := ⟨secret, rfl⟩

theorem perform (d : Outside σ) (alike : a.UpToSecret b) (op : Operation) :
    (a.perform d op).UpToSecret (b.perform d op) := by
  obtain ⟨secret, rfl⟩ := alike
  cases op with
  | apply c => exact refl _
  | patch p => exact mk _ secret
  | updateInbounds specs => exact mk _ secret
  | shutdown => exact mk _ secret
  | reload file =>
    cases loaded : Config.load a.configPath file with
    | error fault =>
      rw [reload_of_error loaded, reload_of_error (h := a.underSecret secret) loaded]
      exact mk a secret
    | ok c =>
      rw [reload_of_ok loaded, reload_of_ok (h := a.underSecret secret) loaded]
      exact refl _

end UpToSecret

end Hub

namespace Api

namespace Request

variable {r : Request}

/-- A request without the headers that say who asks. -/
def anonymous (r : Request) : Request :=
  { r with headers := r.headers.filter (·.1 ≠ "authorization") }

theorem fieldValues_anonymous (r : Request) (name : String) (other : name ≠ "authorization") :
    r.anonymous.fieldValues name = r.fieldValues name := by
  unfold fieldValues anonymous
  rw [List.filterMap_filter]
  refine List.filterMap_congr fun (n, v) _ => ?_
  by_cases same : n = name
  · simp [same, other]
  · simp [same]

theorem wantsWebSocket_anonymous : r.anonymous.wantsWebSocket = r.wantsWebSocket := by
  have connection := fieldValues_anonymous r "connection" (by decide)
  have upgrade := fieldValues_anonymous r "upgrade" (by decide)
  simp only [wantsWebSocket, elements, connection, upgrade]

theorem opensWebSocket_anonymous : r.anonymous.opensWebSocket = r.opensWebSocket := by
  have version := fieldValues_anonymous r "sec-websocket-version" (by decide)
  have key := fieldValues_anonymous r "sec-websocket-key" (by decide)
  simp only [opensWebSocket, wantsWebSocket_anonymous, version, key]
  rfl

theorem json_anonymous {α : Type} (reader : Json.Reader α) :
    r.anonymous.json reader = r.json reader := by
  have type := fieldValues_anonymous r "content-type" (by decide)
  simp only [json, type]
  rfl

end Request

variable {d : Outside σ} {h : Hub σ} {r q : Request} {secret : String}

/-- Who asks has no part in what a route answers and does. -/
theorem serve?_anonymous (route : Route) : serve? d h r.anonymous route = serve? d h r route := by
  have opened : ∀ s, openStream r.anonymous s = openStream r s := fun s => by
    simp only [openStream, Request.opensWebSocket_anonymous]
  have patched : patchConfigs d.toDrivers h r.anonymous = patchConfigs d.toDrivers h r := by
    simp only [patchConfigs, Request.json_anonymous]
  have replaced : replaceInbounds d.toDrivers h r.anonymous = replaceInbounds d.toDrivers h r := by
    simp only [replaceInbounds, Request.json_anonymous]
  have logs : streamLogs h r.anonymous = streamLogs h r := by
    simp only [streamLogs, opened]
    rfl
  have traffic : streamTraffic h r.anonymous = streamTraffic h r := by
    simp only [streamTraffic, opened]
  have connections : getConnections h r.anonymous = getConnections h r := by
    simp only [getConnections, Request.opensWebSocket_anonymous]
    rfl
  unfold serve?
  simp only [patched, replaced, logs, traffic, connections]
  rfl

theorem unguarded_anonymous : unguarded d h r.anonymous = unguarded d h r := by
  simp only [unguarded, serve?_anonymous]
  rfl

/-- Two answers are alike, and so are the hubs they leave, but for their secret. -/
structure Unseen (x y : Response × Hub σ) : Prop where
  response : x.1 = y.1
  hubs : x.2.UpToSecret y.2

theorem Unseen.mk' (response : Response) : Unseen (response, h) (response, h.underSecret secret) :=
  ⟨rfl, .mk h secret⟩

theorem patchConfigs_unseen :
    Unseen (patchConfigs d.toDrivers h r) (patchConfigs d.toDrivers (h.underSecret secret) r) := by
  unfold patchConfigs
  cases r.json GeneralPatch.reader with
  | error fault => exact .mk' _
  | ok p => exact ⟨rfl, .mk _ secret⟩

theorem reloadConfigs_unseen :
    Unseen (reloadConfigs d h) (reloadConfigs d (h.underSecret secret)) := by
  have read : (h.underSecret secret).readConfig d = h.readConfig d := rfl
  unfold reloadConfigs Hub.reload
  rw [read]
  cases h.readConfig d with
  | ok c => exact ⟨rfl, .refl _⟩
  | error fault =>
    cases fault with
    | unreadable path reason => exact ⟨rfl, .mk _ secret⟩
    | emptyFile | unparsable | invalid => exact .mk' _

theorem replaceInbounds_unseen :
    Unseen (replaceInbounds d.toDrivers h r)
      (replaceInbounds d.toDrivers (h.underSecret secret) r) := by
  unfold replaceInbounds
  cases r.json (Json.readList InboundBody.reader) with
  | error fault => exact .mk' _
  | ok bodies =>
    dsimp only
    cases bodies.mapM InboundBody.spec with
    | error name => exact .mk' _
    | ok specs => exact ⟨rfl, .mk _ secret⟩

theorem streamLogs_unseen : Unseen (streamLogs h r) (streamLogs (h.underSecret secret) r) := by
  unfold streamLogs
  cases r.parameter "level" with
  | repeated => exact .mk' _
  | absent => exact ⟨rfl, .mk _ secret⟩
  | value s =>
    dsimp only
    cases Level.parse s with
    | ok level => exact ⟨rfl, .mk _ secret⟩
    | error name => exact .mk' _

theorem getConnections_unseen :
    Unseen (getConnections h r) (getConnections (h.underSecret secret) r) := by
  unfold getConnections
  cases intervalMs? r with
  | none => exact .mk' _
  | some interval =>
    dsimp only
    split <;> exact .mk' _

theorem closeConnection_unseen (part : String) :
    Unseen (closeConnection h part) (closeConnection (h.underSecret secret) part) := by
  unfold closeConnection
  cases Text.ofUtf8? (percentDecode (Text.utf8 part)) with
  | none => exact .mk' _
  | some id =>
    dsimp only
    cases Uuid.parse? id with
    | none => exact .mk' _
    | some uuid =>
      have closed : (h.underSecret secret).statistics.close uuid = h.statistics.close uuid := rfl
      dsimp only
      rw [closed]
      rcases h.statistics.close uuid with ⟨_ | _, statistics⟩
      · exact .mk' _
      · exact ⟨rfl, .mk _ secret⟩

theorem resolveFault_unseen (fault : Dns.ResolveFault) :
    Unseen (resolveFault h fault) (resolveFault (h.underSecret secret) fault) := by
  cases fault <;> exact ⟨rfl, .mk _ secret⟩

theorem probe_unseen (resolver : Dns.Resolver) (name type : String) :
    Unseen (probe d h resolver name type)
      (probe d (h.underSecret secret) resolver name type) := by
  have same : (h.underSecret secret).manager = h.manager := rfl
  unfold probe
  split
  · exact resolveFault_unseen _
  · rw [same]
    rcases d.exchange resolver _ h.manager.outside with ⟨fault | message, outside⟩
    · exact resolveFault_unseen fault
    · exact ⟨rfl, .mk _ secret⟩

theorem queryDns_unseen : Unseen (queryDns d h r) (queryDns d (h.underSecret secret) r) := by
  have installed : (h.underSecret secret).resolver = h.resolver := rfl
  unfold queryDns
  rw [installed]
  split
  · exact .mk' _
  · split
    · exact .mk' _
    · exact probe_unseen _ _ _
  · exact .mk' _

/-- Of each route and method. -/
theorem serve?_unseen (route : Route) :
    Option.Rel Unseen (serve? d h r route) (serve? d (h.underSecret secret) r route) := by
  unfold serve?
  dsimp only
  split <;> constructor
  · exact .mk' _
  · exact .mk' _
  · exact patchConfigs_unseen
  · exact reloadConfigs_unseen
  · exact .mk' _
  · exact replaceInbounds_unseen
  · exact .mk' _
  · exact .mk' _
  · exact streamLogs_unseen
  · exact ⟨rfl, .mk _ secret⟩
  · exact getConnections_unseen
  · exact ⟨rfl, .mk _ secret⟩
  · exact closeConnection_unseen _
  · exact queryDns_unseen

theorem Unseen.getD {x y : Option (Response × Hub σ)} {u v : Response × Hub σ}
    (served : Option.Rel Unseen x y) (unseen : Unseen u v) : Unseen (x.getD u) (y.getD v) := by
  cases served with
  | none => exact unseen
  | some served => exact served

theorem Unseen.withoutBody {x y : Response × Hub σ} (unseen : Unseen x y) :
    Unseen (withoutBody x) (withoutBody y) := by
  obtain ⟨response, after⟩ := x
  obtain ⟨_, _⟩ := y
  obtain ⟨rfl, secret, rfl⟩ := unseen
  obtain ⟨status, body, type, allow, preflight⟩ := response
  cases body with
  | empty | json | problem | text => exact ⟨rfl, .mk _ secret⟩
  | lines s | webSocket s =>
    obtain ⟨feed, subscription, level⟩ := s
    cases feed <;> exact ⟨rfl, .mk _ secret⟩

theorem unguarded_unseen : Unseen (unguarded d h r) (unguarded d (h.underSecret secret) r) := by
  unfold unguarded
  cases Route.ofPath? r.path with
  | none =>
    dsimp only
    split
    · exact (Unseen.mk' _).withoutBody
    · exact .mk' _
  | some route =>
    dsimp only
    split
    · exact (Unseen.getD (serve?_unseen route) (.mk' _)).withoutBody
    · exact .getD (serve?_unseen route) (.mk' _)

/-- The request is let through: it asks what other origins may send, or it may pass. -/
def Request.Admitted (r : Request) (h : Hub σ) : Prop :=
  r.method = "OPTIONS" ∨ r.passes h.general.secret = true

/-- Whoever passes is answered as anyone would be where there is no secret. -/
theorem respond_passed (foreign : r.method ≠ "OPTIONS")
    (known : r.passes h.general.secret = true) :
    respond d h r = unguarded d h r.anonymous := by
  rw [unguarded_anonymous, respond, if_neg foreign, answer_passed known]
  rfl

theorem respond_unseen {a b : Hub σ} (alike : a.UpToSecret b) (same : r.anonymous = q.anonymous)
    (admitted : r.Admitted a) (admitted' : q.Admitted b) :
    Unseen (respond d a r) (respond d b q) := by
  obtain ⟨method, path⟩ : r.anonymous.method = q.anonymous.method ∧
      r.anonymous.path = q.anonymous.path := by rw [same]; exact ⟨rfl, rfl⟩
  change r.method = q.method at method
  change r.path = q.path at path
  by_cases options : r.method = "OPTIONS"
  · rw [respond, respond, if_pos options, if_pos (method ▸ options), path]
    exact ⟨rfl, alike⟩
  · rw [respond_passed options (admitted.resolve_left options),
      respond_passed (method ▸ options) (admitted'.resolve_left (method ▸ options)), same]
    obtain ⟨secret, rfl⟩ := alike
    exact unguarded_unseen

theorem Stream.read_underSecret (s : Stream) :
    s.read (h.underSecret secret) = ((s.read h).1, (s.read h).2.underSecret secret) := by
  obtain ⟨feed, subscription, level⟩ := s
  cases feed <;> rfl

theorem Stream.drop_underSecret (s : Stream) :
    s.drop (h.underSecret secret) = (s.drop h).underSecret secret := by
  obtain ⟨feed, subscription, level⟩ := s
  cases feed <;> rfl

namespace Session

variable {l : Logging σ} {s t : Session σ}

/-- The same happens, but a request may differ in who asks. -/
inductive Event.Alike : Event σ → Event σ → Prop
  | request {r q : Request} (same : r.anonymous = q.anonymous) : Alike (.request r) (.request q)
  | other {e : Event σ} (quiet : ∀ r, e ≠ .request r) : Alike e e

/-- Two sessions are alike in everything but the secret. -/
structure UpToSecret (s t : Session σ) : Prop where
  hub : s.hub.UpToSecret t.hub
  held : s.held = t.held

def Event.Admitted (s : Session σ) : Event σ → Prop
  | .request r => r.Admitted s.hub
  | _ => True

/-- Every request is let through when its turn comes. -/
def Admitted (d : Outside σ) (l : Logging σ) (s : Session σ) : List (Event σ) → Prop
  | [] => True
  | e :: rest => e.Admitted s ∧ (step d l s e).2.Admitted d l rest

/-- What is read and given up, and what else happens, has nothing to do with the secret. -/
theorem act_unseen_same (alike : s.UpToSecret t) (e : Event σ) (quiet : ∀ r, e ≠ .request r) :
    (act d s e).1 = (act d t e).1 ∧ (act d s e).2.UpToSecret (act d t e).2 := by
  obtain ⟨hub, held⟩ := s
  obtain ⟨hub', held'⟩ := t
  obtain ⟨hubs, rfl⟩ := alike
  cases e with
  | request r => exact absurd rfl (quiet r)
  | operation op => exact ⟨rfl, hubs.perform d op, rfl⟩
  | read body =>
    obtain ⟨secret, rfl⟩ := hubs
    cases found : held[body]? with
    | none => simp only [act, found]; exact ⟨trivial, .mk hub secret, rfl⟩
    | some stream =>
      simp only [act, found, Stream.read_underSecret]
      exact ⟨trivial, .mk _ secret, rfl⟩
  | leave body =>
    obtain ⟨secret, rfl⟩ := hubs
    cases found : held[body]? with
    | none => simp only [act, found]; exact ⟨trivial, .mk hub secret, rfl⟩
    | some stream =>
      simp only [act, found, Stream.drop_underSecret]
      exact ⟨trivial, .mk _ secret, rfl⟩
  | publish e | traffic change | outside change =>
    obtain ⟨secret, rfl⟩ := hubs
    exact ⟨rfl, .mk _ secret, rfl⟩

theorem act_unseen (alike : s.UpToSecret t) {e f : Event σ} (same : e.Alike f)
    (admitted : e.Admitted s) (admitted' : f.Admitted t) :
    (act d s e).1 = (act d t f).1 ∧ (act d s e).2.UpToSecret (act d t f).2 := by
  cases same with
  | @request r q same =>
    have unseen := respond_unseen (d := d) alike.hub same admitted admitted'
    refine ⟨congrArg Reply.answer unseen.response, unseen.hubs, ?_⟩
    simp only [act, alike.held, unseen.response]
  | other quiet => exact act_unseen_same alike e quiet

theorem step_unseen (alike : s.UpToSecret t) {e f : Event σ} (same : e.Alike f)
    (admitted : e.Admitted s) (admitted' : f.Admitted t) :
    (step d l s e).1 = (step d l t f).1 ∧ (step d l s e).2.UpToSecret (step d l t f).2 := by
  obtain ⟨replies, hubs, held⟩ := act_unseen (d := d) alike same admitted admitted'
  have recorded : s.hub.manager.records = t.hub.manager.records := by
    obtain ⟨secret, same⟩ := alike.hub
    rw [same]
    rfl
  refine ⟨replies, ?_, held⟩
  obtain ⟨secret, same⟩ := hubs
  simp only [step, recorded, same]
  exact .mk _ secret

/-- Two sessions that differ in the secret alone, and in which the same happens but for who asks, go
alike where every request is let through: each answer, and each line read, is the same in both, and
they end up alike, too. -/
theorem run_unseen (d : Outside σ) (l : Logging σ) {s t : Session σ} (alike : s.UpToSecret t)
    {events others : List (Event σ)} (same : List.Forall₂ Event.Alike events others)
    (admitted : s.Admitted d l events) (admitted' : t.Admitted d l others) :
    (run d l s events).1 = (run d l t others).1 ∧
      (run d l s events).2.UpToSecret (run d l t others).2 := by
  induction same generalizing s t with
  | nil => exact ⟨rfl, alike⟩
  | cons first _ ih =>
    obtain ⟨reply, next⟩ := step_unseen alike first admitted.1 admitted'.1
    obtain ⟨replies, last⟩ := ih next admitted.2 admitted'.2
    exact ⟨congrArg₂ List.cons reply replies, last⟩

end Session

/-- Follows the log records. -/
def logsRequest (headers : List (String × Bytes)) : Request :=
  { versionRequest headers with path := "/logs" }

/-- Closes every connection, of which a record tells. -/
def closeRequest (headers : List (String × Bytes)) : Request :=
  { versionRequest headers with method := "DELETE", path := "/connections" }

theorem run_unseen_logs :
    let l : Logging Unit := ⟨fun _ _ => true, fun _ => ""⟩
    let token := [("authorization", Text.utf8 "Bearer sesame")]
    let guarded : Session Unit := { hub := guardedHub }
    let plain : Session Unit := { hub := guardedHub.underSecret "" }
    let events : List (Session.Event Unit) :=
      [.request (logsRequest token), .request (closeRequest token), .read 0]
    let others : List (Session.Event Unit) :=
      [.request (logsRequest []), .request (closeRequest []), .read 0]
    guarded.UpToSecret plain ∧ List.Forall₂ Session.Event.Alike events others ∧
      guarded.Admitted obliging l events ∧ plain.Admitted obliging l others ∧
      (Session.run obliging l guarded events).1 = (Session.run obliging l plain others).1 ∧
        (Session.run obliging l guarded events).2.UpToSecret
          (Session.run obliging l plain others).2 := by
  intro l token guarded plain events others
  have alike : guarded.UpToSecret plain := ⟨.mk _ _, rfl⟩
  have same : List.Forall₂ Session.Event.Alike events others :=
    .cons (.request (by decide +kernel)) (.cons (.request (by decide +kernel))
      (.cons (.other nofun) .nil))
  have admitted : guarded.Admitted obliging l events :=
    ⟨.inr (by decide +kernel), .inr (by decide +kernel), trivial, trivial⟩
  have admitted' : plain.Admitted obliging l others :=
    ⟨.inr (by decide +kernel), .inr (by decide +kernel), trivial, trivial⟩
  exact ⟨alike, same, admitted, admitted',
    Session.run_unseen obliging l alike same admitted admitted'⟩

end Api

end LocalProxy
