import LocalProxy.Proofs.Api.Refusal
import LocalProxy.Proofs.Api.Sessions
import LocalProxy.Proofs.Hub.Subscribers
import Mathlib.Data.List.Perm.Basic

/-! Who listens to a hub: the clients that hold a stream of the control interface, each with one
subscription of its own, and whoever subscribed directly. No other answer leaves a subscription
behind, and none is lost while its stream is held. Main statement: `subscribers_held`. -/
namespace LocalProxy

theorem perm_eraseIdx {α : Type} {l : List α} {place : Nat} {a : α} (there : l[place]? = some a) :
    l.Perm (a :: l.eraseIdx place) := by
  obtain ⟨within, rfl⟩ := List.getElem?_eq_some_iff.mp there
  exact (List.getElem_cons_eraseIdx_perm within).symm

namespace Api

variable {σ : Type} {d : Outside σ} {h : Hub σ} {r : Request}

open Hub (Quiet Still)

/-- The bus a stream is fed by, and its subscription there. -/
def Stream.subscription? (s : Stream) : Option (Channel × Nat) :=
  match s.feed with
  | .logs => some (.logs, s.subscription)
  | .traffic => some (.traffic, s.subscription)
  | .connections _ => none

def Response.subscription? (response : Response) : Option (Channel × Nat) :=
  response.body.stream?.bind (·.subscription?)

def Route.channel? : Route → Option Channel
  | logs => some .logs
  | traffic => some .traffic
  | _ => none

/-- An answer subscribes the client to the channel that it asked for, or it carries no subscription
and leaves none behind. What is asked for is refused or given. -/
inductive Answered (h : Hub σ) (asked : Channel → Prop) : Response × Hub σ → Prop
  | plain {response : Response} {after : Hub σ} (bare : response.subscription? = none)
      (refused : ∀ c, asked c → 400 ≤ response.status) (still : Still h after) :
      Answered h asked (response, after)
  | stream {response : Response} (c : Channel) (wanted : asked c) (fine : response.status < 400)
      (carries : response.subscription? = some (c, h.nextSubscriber c)) :
      Answered h asked (response, h.subscribe c)

/-- What a route answers that is fed by no bus. -/
structure Plain (h : Hub σ) (answer : Response × Hub σ) : Prop where
  bare : answer.1.subscription? = none
  still : Still h answer.2

namespace Plain

theorem at_once {response : Response} (bare : response.subscription? = none) :
    Plain h (response, h) := ⟨bare, .refl h⟩

theorem of_same {response : Response} {after : Hub σ} (bare : response.subscription? = none)
    (logs : after.logs = h.logs) (traffic : after.statistics.traffic = h.statistics.traffic) :
    Plain h (response, after) := ⟨bare, .of_same logs traffic⟩

theorem patchConfigs : Plain h (patchConfigs d.toDrivers h r) := by
  unfold Api.patchConfigs
  split
  · rename_i fault _
    exact .at_once (by simp [Response.subscription?, fault.closed])
  · exact .of_same rfl rfl rfl

theorem reloadConfigs : Plain h (reloadConfigs d h) := by
  unfold Api.reloadConfigs Hub.reload
  cases h.readConfig d with
  | ok c => exact .of_same rfl rfl rfl
  | error fault =>
    cases fault with
    | unreadable path reason => exact .of_same rfl rfl rfl
    | emptyFile | unparsable | invalid => exact .at_once rfl

theorem replaceInbounds : Plain h (replaceInbounds d.toDrivers h r) := by
  unfold Api.replaceInbounds
  split
  · rename_i fault _
    exact .at_once (by simp [Response.subscription?, fault.closed])
  · split
    · exact .at_once rfl
    · exact .of_same rfl rfl rfl

theorem getConnections : Plain h (getConnections h r) := by
  unfold Api.getConnections
  split
  · exact .at_once rfl
  · split <;> exact .at_once rfl

theorem closeConnections : Plain h (closeConnections h) :=
  .of_same rfl rfl (Statistics.traffic_closeAll _)

theorem closeConnection (part : String) : Plain h (closeConnection h part) := by
  unfold Api.closeConnection
  split
  · exact .at_once rfl
  · dsimp only
    split
    · exact .at_once rfl
    · rename_i id _
      split
      · rename_i closed
        refine .of_same rfl rfl ?_
        rw [← Statistics.traffic_close h.statistics id, closed]
      · exact .at_once rfl

theorem resolveFault (fault : Dns.ResolveFault) : Plain h (resolveFault h fault) := by
  cases fault <;> exact .of_same rfl rfl rfl

theorem queryDns : Plain h (queryDns d h r) := by
  unfold Api.queryDns
  split
  · exact .at_once rfl
  · split
    · exact .at_once rfl
    · unfold probe
      split
      · exact resolveFault _
      · dsimp only
        split
        · exact .of_same rfl rfl rfl
        · rename_i fault _
          cases fault <;> exact .of_same rfl rfl rfl
  · exact .at_once rfl

end Plain

theorem openStream_subscription (s : Stream) :
    (openStream r s).subscription? = s.subscription? := by
  unfold openStream
  split <;> rfl

theorem openStream_fine (s : Stream) : (openStream r s).status < 400 := by
  unfold openStream
  split
  · exact (by decide : 101 < 400)
  · exact (by decide : 200 < 400)

/-- What a route answers that is fed by a bus: the level is looked at before anything else. -/
theorem streamLogs_answered {asked : Channel → Prop} (wanted : asked .logs) :
    Answered h asked (streamLogs h r) := by
  have subscribed : ∀ level, Answered h asked
      (openStream r ⟨.logs, h.logs.nextId, level⟩, h.subscribe .logs) := fun level =>
    .stream .logs wanted (openStream_fine _) (openStream_subscription _)
  unfold streamLogs
  cases r.parameter "level" with
  | repeated => exact .plain rfl (fun _ _ => (by decide : 400 ≤ 400)) (.refl h)
  | absent => exact subscribed .info
  | value s =>
    cases parsed : Level.parse s with
    | ok level =>
      simp only [parsed]
      exact subscribed level
    | error name =>
      simpa only [parsed] using
        Answered.plain rfl (fun _ _ => (by decide : 400 ≤ 400)) (.refl h)

theorem streamTraffic_answered {asked : Channel → Prop} (wanted : asked .traffic) :
    Answered h asked (streamTraffic h r) :=
  .stream .traffic wanted (openStream_fine _) (openStream_subscription _)

theorem serve?_answered {route : Route} {answer : Response × Hub σ}
    (served : serve? d h r route = some answer) :
    Answered h (route.channel? = some ·) answer := by
  have plain : ∀ {answer : Response × Hub σ}, route.channel? = none → Plain h answer →
      Answered h (route.channel? = some ·) answer := fun elsewhere plain =>
    .plain plain.bare (fun c asked => by simp [elsewhere] at asked) plain.still
  unfold serve? at served
  dsimp only at served
  split at served <;> cases served
  · exact plain rfl (.at_once rfl)
  · exact plain rfl (.at_once rfl)
  · exact plain rfl .patchConfigs
  · exact plain rfl .reloadConfigs
  · exact plain rfl (.at_once rfl)
  · exact plain rfl .replaceInbounds
  · exact plain rfl (.at_once rfl)
  · exact plain rfl (.at_once rfl)
  · exact streamLogs_answered rfl
  · exact streamTraffic_answered rfl
  · exact plain rfl .getConnections
  · exact plain rfl .closeConnections
  · exact plain rfl (.closeConnection _)
  · exact plain rfl .queryDns

theorem Route.ofPath?_channel {path : String} {c : Channel} :
    (Route.ofPath? path).bind (·.channel?) = some c ↔ path = c.path := by
  constructor
  · intro fed
    unfold ofPath? at fed
    split at fed <;> try cases fed
    · rfl
    · rfl
    · split at fed
      · split at fed <;> cases fed
      · cases fed
  · rintro rfl
    cases c <;> rfl

/-- A channel is asked for by its path, with or without the body. -/
def Request.AsksFor (r : Request) (c : Channel) : Prop :=
  (r.method = "GET" ∨ r.method = "HEAD") ∧ r.path = c.path

theorem serve?_method {route : Route} {c : Channel} (fed : route.channel? = some c)
    (served : serve? d h r route ≠ none) : r.method = "GET" ∨ r.method = "HEAD" := by
  by_contra other
  obtain ⟨get, head⟩ := not_or.mp other
  cases route <;> simp_all [Route.channel?, serve?]

theorem answer_answered : Answered h r.AsksFor (answer d h r) := by
  by_cases known : r.passes h.general.secret = true
  · rw [answer_passed known]
    cases found : Route.ofPath? r.path with
    | none => exact .plain rfl (fun _ _ => (by decide : 400 ≤ 404)) (.refl h)
    | some route =>
      have path : ∀ c, route.channel? = some c ↔ r.path = c.path := fun c => by
        rw [← Route.ofPath?_channel, found]
        rfl
      dsimp only
      cases served : serve? d h r route with
      | none => exact .plain rfl (fun _ _ => (by decide : 400 ≤ 405)) (.refl h)
      | some answered =>
        rw [Option.getD_some]
        cases serve?_answered served with
        | plain bare refused quiet =>
          exact .plain bare (fun c asked => refused c ((path c).mpr asked.2)) quiet
        | stream c fed fine carries =>
          have method := serve?_method fed (Option.ne_none_iff_exists'.mpr ⟨_, served⟩)
          exact .stream c ⟨method, (path c).mp fed⟩ fine carries
  · rw [answer_refused (Bool.eq_false_iff.mpr known)]
    exact .plain rfl (fun _ _ => (by decide : 400 ≤ 401)) (.refl h)

/-- A stream that is given up takes its subscription with it. -/
theorem drop_eq (response : Response) (h : Hub σ) :
    response.body.stream?.elim h (·.drop h) = match response.subscription? with
      | some (c, id) => h.unsubscribe id c
      | none => h := by
  obtain ⟨_, body, _, _, _⟩ := response
  cases body with
  | lines s | webSocket s => obtain ⟨feed, _, _⟩ := s; cases feed <;> rfl
  | empty | json | problem | text => rfl

theorem withoutBody_eq (response : Response) :
    withoutBody (response, h) = ({ response with body := .empty },
      match response.subscription? with
      | some (c, id) => h.unsubscribe id c
      | none => h) := by
  rw [← drop_eq]
  obtain ⟨_, body, _, _, _⟩ := response
  cases body <;> rfl

/-- A subscription that is given up at once leaves the bus as it was. -/
theorem still_subscribe_unsubscribe (c : Channel)
    (below : ∀ id ∈ h.subscribers c, id < h.nextSubscriber c) :
    Still h ((h.subscribe c).unsubscribe (h.nextSubscriber c) c) where
  subscribers other := by
    rw [Hub.subscribers_unsubscribe, Hub.subscribers_subscribe]
    by_cases same : other = c
    · subst same
      simpa using fun id member => Nat.ne_of_lt (below id member)
    · simp [same]
  next other := by
    rw [Hub.next_unsubscribe, Hub.next_subscribe]
    exact Nat.le_add_right _ _
  buffered := by
    cases c with
    | logs => exact h.logs.unsubscribe_subscribe below
    | traffic => rfl

/-- Without its body an answer leaves no subscription behind. -/
theorem Answered.withoutBody {asked : Channel → Prop} {answer : Response × Hub σ}
    (answered : Answered h asked answer)
    (below : ∀ c, ∀ id ∈ h.subscribers c, id < h.nextSubscriber c) :
    Answered h (fun _ => False) (withoutBody answer) := by
  cases answered with
  | plain bare _ quiet =>
    rw [withoutBody_eq, bare]
    exact .plain rfl (fun _ => False.elim) quiet
  | stream c _ _ carries =>
    rw [withoutBody_eq, carries]
    exact .plain rfl (fun _ => False.elim) (still_subscribe_unsubscribe c (below c))

theorem Answered.congr {asked others : Channel → Prop} {answer : Response × Hub σ}
    (answered : Answered h asked answer) (same : ∀ c, asked c ↔ others c) :
    Answered h others answer := by
  cases answered with
  | plain bare refused quiet =>
    exact .plain bare (fun c wanted => refused c ((same c).mpr wanted)) quiet
  | stream c wanted fine carries => exact .stream c ((same c).mp wanted) fine carries

/-- Only `GET` opens a stream: another method asks for none, and `HEAD` gives it up. -/
theorem respond_answered (below : ∀ c, ∀ id ∈ h.subscribers c, id < h.nextSubscriber c) :
    Answered h (fun c => r.method = "GET" ∧ r.path = c.path) (respond d h r) := by
  unfold respond
  split
  · rename_i preflight
    exact .plain rfl (fun c asked => by simp [asked.1] at preflight) (.refl h)
  split
  · rename_i head
    exact (answer_answered.withoutBody below).congr fun c => by simp [head]
  · rename_i body
    exact answer_answered.congr fun c => and_congr_left' (or_iff_left body)

theorem Logging.feed_quiet (l : Logging σ) (recorded : Nat) (h : Hub σ) :
    Quiet h (l.feed recorded h) := .foldl_publish h _ _

theorem Stream.read_quiet (s : Stream) (h : Hub σ) : Quiet h (s.read h).2 := by
  obtain ⟨feed, id, level⟩ := s
  cases feed with
  | logs => exact .drain h id .logs
  | traffic => exact .drain h id .traffic
  | connections => exact .refl h

/-- An answer that a client holds, and the request for it. -/
structure Holding where
  request : Request
  response : Response

/-- It is a stream of the channel: it was asked for by `GET`, and not refused. -/
def Holding.streams (x : Holding) (c : Channel) : Bool :=
  x.request.method == "GET" && x.request.path == c.path && x.response.status < 400

/-- A hub with those who listen to it: the answers that clients hold, and the subscriptions that
were taken directly. -/
structure Audience (σ : Type) where
  hub : Hub σ
  held : List Holding := []
  direct : List (Channel × Nat) := []

namespace Audience

/-- What clients do, what is done with the buses directly, and what else happens. -/
inductive Event (σ : Type)
  | request (r : Request)
  | read (place : Nat)
  | leave (place : Nat)
  | subscribe (c : Channel)
  | receive (place : Nat)
  | unsubscribe (place : Nat)
  | operation (op : Hub.Operation)
  | publish (e : LogEvent)
  | traffic (act : Statistics.Act)
  | outside (change : σ → σ)

/-- What happens at once, before records are published. -/
def act (d : Outside σ) (s : Audience σ) : Event σ → Audience σ
  | .request r =>
    let (response, hub) := respond d s.hub r
    { s with hub := hub, held := s.held ++ [⟨r, response⟩] }
  | .read place =>
    match s.held[place]?.bind (·.response.body.stream?) with
    | some stream => { s with hub := (stream.read s.hub).2 }
    | none => s
  | .leave place =>
    match s.held[place]? with
    | some x =>
      { s with
        hub := x.response.body.stream?.elim s.hub (·.drop s.hub)
        held := s.held.eraseIdx place }
    | none => s
  | .subscribe c =>
    { s with hub := s.hub.subscribe c, direct := s.direct ++ [(c, s.hub.nextSubscriber c)] }
  | .receive place =>
    match s.direct[place]? with
    | some (c, id) => { s with hub := s.hub.drain id c }
    | none => s
  | .unsubscribe place =>
    match s.direct[place]? with
    | some (c, id) =>
      { s with hub := s.hub.unsubscribe id c, direct := s.direct.eraseIdx place }
    | none => s
  | .operation op => { s with hub := s.hub.perform d op }
  | .publish e => { s with hub := { s.hub with logs := (s.hub.logs.publish e).2 } }
  | .traffic act =>
    match s.hub.statistics.act? act with
    | some (_, statistics) => { s with hub := { s.hub with statistics := statistics } }
    | none => s
  | .outside change =>
    let m := s.hub.manager
    { s with hub := { s.hub with manager := { m with outside := change m.outside } } }

theorem act_request {d : Outside σ} (s : Audience σ) (r : Request) :
    s.act d (.request r) = { s with
      hub := (respond d s.hub r).2
      held := s.held ++ [⟨r, (respond d s.hub r).1⟩] } := rfl

def step (d : Outside σ) (l : Logging σ) (s : Audience σ) (e : Event σ) : Audience σ :=
  let next := act d s e
  { next with hub := l.feed s.hub.manager.records.length next.hub }

def run (d : Outside σ) (l : Logging σ) (s : Audience σ) (events : List (Event σ)) : Audience σ :=
  events.foldl (step d l) s

/-- The subscriptions that belong to somebody: those of the streams that are held, and those that
were taken directly. -/
def owned (s : Audience σ) : List (Channel × Nat) :=
  s.held.filterMap (·.response.subscription?) ++ s.direct

/-- Every subscription of the hub belongs to somebody, and every stream that is held has one. -/
structure Attended (s : Audience σ) : Prop where
  owned : s.hub.OwnedBy s.owned
  streams : ∀ x ∈ s.held, ∀ c,
    x.streams c = true ↔ ∃ id, x.response.subscription? = some (c, id)

namespace Attended

variable {s : Audience σ}

/-- Nobody comes or goes. -/
theorem quiet (a : Attended s) {hub : Hub σ} (quiet : Quiet s.hub hub) :
    Attended { s with hub := hub } := ⟨a.owned.quiet quiet, a.streams⟩

theorem request (a : Attended s) (r : Request) : Attended (s.act d (.request r)) := by
  have answered := respond_answered (d := d) (r := r) a.owned.below
  rw [Audience.act_request]
  generalize respond d s.hub r = answer at answered ⊢
  cases answered with
  | @plain response after bare refused quiet =>
    refine ⟨?_, fun x member c => ?_⟩
    · simpa [Audience.owned, bare] using a.owned.quiet quiet.toQuiet
    · rcases List.mem_append.mp member with before | new
      · exact a.streams x before c
      · obtain rfl := List.mem_singleton.mp new
        simpa [Holding.streams, bare] using fun get path => refused c ⟨get, path⟩
  | @stream response c wanted fine carries =>
    refine ⟨(a.owned.subscribe c).reorder ?_, fun x member other => ?_⟩
    · simp [Audience.owned, carries, List.perm_middle.symm]
    · rcases List.mem_append.mp member with before | new
      · exact a.streams x before other
      · obtain rfl := List.mem_singleton.mp new
        simp [Holding.streams, carries, wanted, fine, Channel.path_inj]

theorem leave (a : Attended s) (place : Nat) : Attended (s.act d (.leave place)) := by
  unfold Audience.act
  dsimp only
  cases there : s.held[place]? with
  | none => exact a
  | some x =>
    refine ⟨?_, fun y member => a.streams y (List.mem_of_mem_eraseIdx member)⟩
    have own := a.owned.reorder (((perm_eraseIdx there).filterMap _).append_right _)
    dsimp only
    rw [drop_eq]
    cases carries : x.response.subscription? with
    | none => simpa [Audience.owned, carries] using own
    | some entry => exact Hub.OwnedBy.unsubscribe (by simpa [Audience.owned, carries] using own)

theorem unsubscribe (a : Attended s) (place : Nat) : Attended (s.act d (.unsubscribe place)) := by
  unfold Audience.act
  dsimp only
  cases there : s.direct[place]? with
  | none => exact a
  | some entry =>
    have own := a.owned.reorder (((perm_eraseIdx there).append_left _).trans List.perm_middle)
    exact ⟨own.unsubscribe, a.streams⟩

theorem act (a : Attended s) (e : Event σ) : Attended (s.act d e) := by
  cases e with
  | request r => exact a.request r
  | read place =>
    unfold Audience.act
    dsimp only
    split
    · exact a.quiet (Stream.read_quiet _ _)
    · exact a
  | leave place => exact a.leave place
  | subscribe c =>
    refine ⟨(a.owned.subscribe c).reorder ?_, a.streams⟩
    have last : (s.act d (.subscribe c)).owned = s.owned ++ [(c, s.hub.nextSubscriber c)] :=
      (List.append_assoc _ _ _).symm
    rw [last]
    exact (List.perm_append_singleton _ _).symm
  | receive place =>
    unfold Audience.act
    dsimp only
    split
    · exact a.quiet (.drain _ _ _)
    · exact a
  | unsubscribe place => exact a.unsubscribe place
  | operation op => exact a.quiet (Hub.perform_still d _ op).toQuiet
  | publish e => exact a.quiet (.publish _ e)
  | traffic act =>
    unfold Audience.act
    dsimp only
    split
    · rename_i done
      obtain ⟨ids, next⟩ := Statistics.act?_subscribers done
      refine a.quiet ⟨fun c => ?_, fun c => ?_⟩
      · cases c
        · rfl
        · exact ids
      · cases c
        · exact Nat.le_refl _
        · exact Nat.le_of_eq next.symm
    · exact a
  | outside change => exact a.quiet (.of_same rfl rfl)

theorem step (a : Attended s) (l : Logging σ) (e : Event σ) : Attended (s.step d l e) :=
  (a.act e).quiet (l.feed_quiet _ _)

theorem run (a : Attended s) (l : Logging σ) (events : List (Event σ)) :
    Attended (s.run d l events) := by
  induction events generalizing s with
  | nil => exact a
  | cons e rest ih => exact ih (a.step l e)

/-- Those who listen are counted by what they hold. -/
theorem subscriberCount (a : Attended s) (c : Channel) :
    s.hub.subscriberCount c = s.held.countP (·.streams c) + s.direct.countP (·.1 = c) := by
  have streams : (s.held.filterMap (·.response.subscription?)).countP (·.1 = c) =
      s.held.countP (·.streams c) := by
    rw [List.countP_filterMap]
    refine List.countP_congr fun x held => ?_
    rw [a.streams x held c]
    cases x.response.subscription? with
    | none => simp
    | some entry => simpa using ⟨fun same => ⟨_, Prod.ext same rfl⟩, fun ⟨id, same⟩ => same ▸ rfl⟩
  rw [← Hub.length_subscribers, (a.owned.perm c).length_eq, Hub.numbers, List.length_map,
    ← List.countP_eq_length_filter, Audience.owned, List.countP_append, streams]

end Attended

/-- Whatever clients ask for, read and leave, and whatever else happens, a bus has just the
subscriptions of the streams that are held and of those who subscribed directly: each of these has
one of its own, so that the bus counts as many of them. A request that opens no stream, as it was
refused or came without `GET`, leaves the subscriptions as they were. -/
theorem subscribers_held (d : Outside σ) (l : Logging σ) (outside : σ) (path : String)
    (overrides : Overrides) (logBuffer : Nat) (events : List (Event σ)) (c : Channel) :
    let s := run d l { hub := .create outside path overrides logBuffer } events
    s.hub.subscriberCount c = s.held.countP (·.streams c) + s.direct.countP (·.1 = c) ∧
      (s.hub.subscribers c).Perm (Hub.numbers c s.owned) ∧ (s.hub.subscribers c).Nodup ∧
      ∀ r, Holding.streams ⟨r, (respond d s.hub r).1⟩ c = false →
        (respond d s.hub r).2.subscribers c = s.hub.subscribers c := by
  intro s
  have start : Attended ({ hub := .create outside path overrides logBuffer } : Audience σ) :=
    ⟨.create outside path overrides logBuffer, fun _ member => absurd member List.not_mem_nil⟩
  have a : Attended s := start.run l events
  refine ⟨a.subscriberCount c, a.owned.perm c, a.owned.nodup c, fun r none => ?_⟩
  have answered := respond_answered (d := d) (r := r) a.owned.below
  generalize respond d s.hub r = answer at answered none
  cases answered with
  | plain _ _ quiet => exact quiet.subscribers c
  | stream other wanted fine _ =>
    have apart : c ≠ other := by
      rintro rfl
      simp [Holding.streams, wanted, fine] at none
    simp [Hub.subscribers_subscribe, apart]

end Audience

end Api

end LocalProxy
