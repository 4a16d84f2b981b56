import LocalProxy.Proofs.Api.Audience
import LocalProxy.Proofs.Json.Roundtrip

/-! What is read from a stream of log events: of the events that found room in its buffer those that
pass the threshold, in their order and each on a line of its own, however reading and publishing are
interleaved. A line holds no line feed and is read back. Main statement: `log_stream_lines`. -/
namespace LocalProxy

open Text

section Lines

/-- The line of an event, without the line feed that ends it. -/
def LogEvent.line (e : LogEvent) : Bytes := utf8 e.json.text

/-- The level and the payload of the event that is on a line. -/
def LogEvent.ofLine? (line : Bytes) : Option (Level × String) :=
  match Json.parse line with
  | .ok j =>
    match j.get "type", j.get "payload" with
    | .str name, .str payload => (Level.parse name).toOption.map (·, payload)
    | _, _ => none
  | .error _ => none

variable (e : LogEvent)

theorem LogEvent.json_eq : e.json =
    .obj ([("type", e.level.name), ("payload", e.payload), ("time", e.time)].map
      fun m => (m.1, .str m.2)) := rfl

theorem LogEvent.ofLine?_line : ofLine? e.line = some (e.level, e.payload) := by
  have parsed : Json.parse e.line = .ok e.json := by
    rw [line, json_eq]
    exact Json.parse_strings _
  have type : e.json.get "type" = .str e.level.name := rfl
  have payload : e.json.get "payload" = .str e.payload := rfl
  simp [ofLine?, parsed, type, payload, Level.parse_name, Except.toOption]

theorem LogEvent.lineFeed_notMem : 0x0A ∉ e.line := by
  intro member
  rw [line, json_eq] at member
  exact absurd (Json.visible_strings _ _ member) (by decide)

theorem lineText_append (values later : List Json) :
    Api.lineText (values ++ later) = Api.lineText values ++ Api.lineText later := by
  simp [Api.lineText, String.join_append]

theorem utf8_lineText (events : List LogEvent) :
    utf8 (Api.lineText (events.map LogEvent.json)) =
      (events.map LogEvent.line).flatMap (· ++ [0x0A]) := by
  have ending : utf8 "\n" = [0x0A] := by decide
  induction events with
  | nil => rfl
  | cons e events ih =>
    rw [List.map_cons, ← List.singleton_append, lineText_append, utf8_append, ih, List.map_cons,
      List.flatMap_cons]
    simp [Api.lineText, utf8_append, ending, LogEvent.line]

/-- Lines that hold no line feed are told apart by those that end them. -/
theorem splitOn_lines (lines : List Bytes) (whole : ∀ line ∈ lines, 0x0A ∉ line) :
    (lines.flatMap (· ++ [0x0A])).splitOn 0x0A = lines ++ [[]] := by
  have joined : lines.flatMap (· ++ [0x0A]) = List.intercalate [0x0A] (lines ++ [[]]) := by
    induction lines with
    | nil => rfl
    | cons line lines ih =>
      have rest : lines ++ [[]] ≠ [] := by simp
      obtain ⟨next, more, split⟩ := List.exists_cons_of_ne_nil rest
      rw [List.flatMap_cons, ih (List.forall_mem_cons.mp whole).2, List.cons_append, split,
        List.intercalate_cons_cons]
  rw [joined]
  refine List.splitOn_intercalate _ ?_ (by simp)
  exact List.forall_mem_append.mpr ⟨whole, by simp⟩

end Lines

namespace Api

open Hub (Quiet)

variable {σ : Type} {d : Outside σ} {h : Hub σ} {r : Request} {stream : Stream} {id : Nat}
  {waiting taken : List LogEvent}

/-- A request for the log events from a level on, each on a line. -/
structure Request.FollowsLogs (r : Request) (secret : String) (level : Level) : Prop where
  method : r.method = "GET"
  path : r.path = "/logs"
  allowed : r.passes secret = true
  lines : r.opensWebSocket = false
  level : r.parameter "level" = .absent ∧ level = .info ∨
    ∃ name, r.parameter "level" = .value name ∧ Level.parse name = .ok level

theorem Request.FollowsLogs.respond {level : Level}
    (follows : r.FollowsLogs h.general.secret level) :
    respond d h r = (.lines ⟨.logs, h.logs.nextId, level⟩, h.subscribe .logs) := by
  obtain ⟨method, path, allowed, lines, asked⟩ := follows
  have route : Route.ofPath? r.path = some .logs := by rw [path]; rfl
  have served : serve? d h r .logs = some (streamLogs h r) := by simp [serve?, method]
  have opened : streamLogs h r = (.lines ⟨.logs, h.logs.nextId, level⟩, h.subscribe .logs) := by
    rcases asked with ⟨absent, rfl⟩ | ⟨name, value, parsed⟩
    · simp [streamLogs, absent, openStream, lines, Bus.subscribe, Hub.subscribe]
    · simp [streamLogs, value, parsed, openStream, lines, Bus.subscribe, Hub.subscribe]
  simp [Api.respond, method, answer_passed allowed, route, served, opened]

/-- The events that pass the threshold of a stream. Nothing passes `silent`. -/
def Stream.shown (s : Stream) (events : List LogEvent) : List LogEvent :=
  events.filter fun e => s.level ≠ .silent ∧ s.level ≤ e.level

theorem Stream.shown_eq (s : Stream) (events : List LogEvent) :
    s.shown events = events.filter fun e => s.level.allows e.level := by
  simp [shown, Level.allows]

/-- What a stream gives is taken off the front of its buffer. -/
def Stream.Draws (s : Stream) (waiting : List LogEvent) (answer : List Json × Hub σ) : Prop :=
  ∃ now later, waiting = now ++ later ∧ answer.1 = (s.shown now).map LogEvent.json ∧
    ∀ b, answer.2.logs.find? s.subscription = some b → b.items = later

/-- A way to take values from a stream. It concerns no other subscription. -/
structure Takes (draw : Stream → Hub σ → List Json × Hub σ) : Prop where
  front : ∀ {stream : Stream} {h : Hub σ} {waiting : List LogEvent}, stream.feed = .logs →
    (∀ b, h.logs.find? stream.subscription = some b → b.items = waiting) →
      stream.Draws waiting (draw stream h)
  quiet : ∀ (stream : Stream) (h : Hub σ), Quiet h (draw stream h).2
  others : ∀ {stream : Stream} {h : Hub σ} {id : Nat},
    stream.subscription? ≠ some (.logs, id) → (draw stream h).2.logs.find? id = h.logs.find? id

/-- A stream can be read to its end. -/
theorem Stream.takes_read : Takes (@Stream.read σ) where
  front := by
    intro stream h waiting logs buffered
    have after := h.logs.find?_update stream.subscription (f := fun s => { s with items := [] })
      fun _ => rfl
    cases found : h.logs.find? stream.subscription with
    | none =>
      refine ⟨[], waiting, rfl, ?_, ?_⟩
      · simp [Stream.read, logs, Bus.drain, found, shown]
      · simp [Stream.read, logs, Bus.drain, after, found]
    | some b =>
      refine ⟨waiting, [], by simp, ?_, ?_⟩
      · simp [Stream.read, logs, Bus.drain, found, buffered b found, shown_eq]
      · simp [Stream.read, logs, Bus.drain, after, found]
  quiet := Stream.read_quiet
  others := by
    intro stream h id other
    obtain ⟨feed, number, level⟩ := stream
    cases feed with
    | logs =>
      have apart : number ≠ id := fun same => other (by rw [same]; rfl)
      exact h.logs.find?_update_other apart fun _ => rfl
    | traffic | connections => rfl

theorem Stream.pull_quiet (s : Stream) (h : Hub σ) : Quiet h (s.pull h).2 where
  subscribers c := by
    obtain ⟨feed, number, level⟩ := s
    cases feed <;> cases c <;> simp only [Stream.pull, Hub.subscribers, Bus.ids_take]
  next c := by
    obtain ⟨feed, number, level⟩ := s
    cases feed <;> cases c <;>
      simp only [Stream.pull, Hub.nextSubscriber, Bus.nextId_take, Nat.le_refl]

/-- To read a stream to its end is to take one value and then to read on. -/
theorem Stream.read_eq_pull (s : Stream) (h : Hub σ) :
    s.read h = ((s.pull h).1 ++ (s.read (s.pull h).2).1, (s.read (s.pull h).2).2) := by
  obtain ⟨feed, number, level⟩ := s
  cases feed with
  | logs => simp [Stream.read, Stream.pull, h.logs.drain_eq_take number]
  | traffic => simp [Stream.read, Stream.pull, h.statistics.traffic.drain_eq_take number]
  | connections => rfl

/-- Its values can be taken one at a time. -/
theorem Stream.takes_pull : Takes (@Stream.pull σ) where
  front := by
    intro stream h waiting logs buffered
    have after := h.logs.find?_update stream.subscription
      (f := fun s => { s with items := s.items.tail }) fun _ => rfl
    cases found : h.logs.find? stream.subscription with
    | none =>
      refine ⟨[], waiting, rfl, ?_, ?_⟩
      · simp [Stream.pull, logs, Bus.take_eq, found, shown]
      · simp [Stream.pull, logs, Bus.take_eq, found]
    | some b =>
      have held := buffered b found
      cases waiting with
      | nil =>
        refine ⟨[], [], rfl, ?_, ?_⟩
        · simp [Stream.pull, logs, Bus.take_eq, found, held, shown]
        · simp [Stream.pull, logs, Bus.take_eq, found, held]
      | cons e rest =>
        refine ⟨[e], rest, rfl, ?_, ?_⟩
        · simp [Stream.pull, logs, Bus.take_eq, found, held, shown_eq]
        · simp [Stream.pull, logs, Bus.take_eq, found, held, after]
  quiet := Stream.pull_quiet
  others := by
    intro stream h id other
    obtain ⟨feed, number, level⟩ := stream
    cases feed with
    | logs =>
      have apart : number ≠ id := fun same => other (by rw [same]; rfl)
      simp only [Stream.pull, Bus.take_eq]
      split
      · exact h.logs.find?_update_other apart fun _ => rfl
      · rfl
    | traffic | connections => rfl

namespace Audience

/-- Whatever may happen to an audience, and that a client takes a single event off a buffer. -/
inductive Turn (σ : Type)
  | event (e : Event σ)
  | pull (place : Nat)

/-- Neither reads from a stream nor publishes a log event. -/
def Event.isAside : Event σ → Bool
  | .read _ | .publish _ => false
  | _ => true

/-- The stream in the answer that a client holds at a place. -/
def stream? (s : Audience σ) (place : Nat) : Option Stream :=
  s.held[place]?.bind (·.response.body.stream?)

def turn (d : Outside σ) (s : Audience σ) : Turn σ → Audience σ
  | .event e => s.act d e
  | .pull place =>
    match s.stream? place with
    | some stream => { s with hub := (stream.pull s.hub).2 }
    | none => s

/-- What a turn publishes, if the buffer of a stream has room for it. -/
def admits (s : Audience σ) (stream : Stream) : Turn σ → List LogEvent
  | .event (.publish e) =>
    if (s.hub.logs.find? stream.subscription).any (·.hasRoom s.hub.logs.capacity) then [e] else []
  | _ => []

/-- The octets that a turn takes from a stream. -/
def brings (s : Audience σ) (stream : Stream) : Turn σ → Bytes
  | .event (.read place) =>
    if s.stream? place = some stream then utf8 (lineText (stream.read s.hub).1) else []
  | .pull place =>
    if s.stream? place = some stream then utf8 (lineText (stream.pull s.hub).1) else []
  | .event _ => []

/-- An audience, and what one of its streams has seen: the events that found room in its buffer, and
the octets that were read from it. -/
structure Watch (σ : Type) where
  audience : Audience σ
  admitted : List LogEvent := []
  octets : Bytes := []

def Watch.turn (d : Outside σ) (stream : Stream) (w : Watch σ) (t : Turn σ) : Watch σ where
  audience := w.audience.turn d t
  admitted := w.admitted ++ w.audience.admits stream t
  octets := w.octets ++ w.audience.brings stream t

variable {s s' : Audience σ} {w : Watch σ}

/-- Nothing is done to a subscription of the log bus, except that it may be given up. -/
structure Elsewhere (id : Nat) (s s' : Audience σ) : Prop where
  next : s.hub.logs.nextId ≤ s'.hub.logs.nextId
  held : ∀ x ∈ s'.held, x.response.subscription? = some (.logs, id) → x ∈ s.held
  direct : (Channel.logs, id) ∈ s'.direct → (Channel.logs, id) ∈ s.direct
  found : ∀ b, s'.hub.logs.find? id = some b → s.hub.logs.find? id = some b

namespace Elsewhere

theorem refl (s : Audience σ) : Elsewhere id s s :=
  ⟨Nat.le_refl _, fun _ member _ => member, fun member => member, fun _ found => found⟩

/-- The clients hold what they held. -/
theorem of_hub {hub : Hub σ} (next : s.hub.logs.nextId ≤ hub.logs.nextId)
    (found : hub.logs.find? id = s.hub.logs.find? id) : Elsewhere id s { s with hub := hub } :=
  ⟨next, fun _ member _ => member, fun member => member, fun _ there => found ▸ there⟩

theorem of_same {hub : Hub σ} (logs : hub.logs = s.hub.logs) :
    Elsewhere id s { s with hub := hub } :=
  of_hub (by rw [logs]) (by rw [logs])

theorem request (a : Attended s) (below : id < s.hub.logs.nextId) (r : Request) :
    Elsewhere id s (s.act d (.request r)) := by
  have answered := respond_answered (d := d) (r := r) a.owned.below
  rw [Audience.act_request]
  generalize respond d s.hub r = answer at answered ⊢
  cases answered with
  | plain bare _ still =>
    refine ⟨still.next .logs, fun x member own => ?_, fun member => member, ?_⟩
    · rcases List.mem_append.mp member with before | new
      · exact before
      · obtain rfl := List.mem_singleton.mp new
        simp [bare] at own
    · simp only [Bus.find?, still.buffered]
      exact fun b found => found
  | stream c _ _ carries =>
    have next := Hub.next_subscribe s.hub c .logs
    refine ⟨Nat.le_trans (Nat.le_add_right _ _) (Nat.le_of_eq next.symm), fun x member own => ?_,
      fun member => member, fun b found => Hub.find?_subscribe below c ▸ found⟩
    rcases List.mem_append.mp member with before | new
    · exact before
    · obtain rfl := List.mem_singleton.mp new
      have same : some (c, s.hub.nextSubscriber c) = some (.logs, id) := carries.symm.trans own
      cases same
      exact absurd below (Nat.lt_irrefl _)

theorem leave (place : Nat) : Elsewhere id s (s.act d (.leave place)) := by
  unfold Audience.act
  dsimp only
  cases s.held[place]? with
  | none => exact .refl s
  | some x =>
    dsimp only
    rw [drop_eq]
    have kept : ∀ y ∈ s.held.eraseIdx place, y ∈ s.held := fun _ => List.mem_of_mem_eraseIdx
    cases x.response.subscription? with
    | none => exact ⟨Nat.le_refl _, fun y member _ => kept y member, fun member => member,
        fun _ found => found⟩
    | some entry =>
      exact ⟨Nat.le_of_eq (Hub.next_unsubscribe s.hub _ _ .logs).symm,
        fun y member _ => kept y member, fun member => member,
        fun _ => Hub.find?_of_unsubscribe⟩

theorem act (a : Attended s) (below : id < s.hub.logs.nextId)
    (apart : (Channel.logs, id) ∉ s.direct) {e : Event σ} (aside : e.isAside = true) :
    Elsewhere id s (s.act d e) := by
  cases e with
  | request r => exact request a below r
  | read | publish => exact absurd aside Bool.false_ne_true
  | leave place => exact leave place
  | subscribe c =>
    refine ⟨?_, fun _ member _ => member, fun member => ?_,
      fun _ found => Hub.find?_subscribe below c ▸ found⟩
    · exact Nat.le_trans (Nat.le_add_right _ _) (Nat.le_of_eq (Hub.next_subscribe s.hub c .logs).symm)
    · rcases List.mem_append.mp member with before | new
      · exact before
      · cases List.mem_singleton.mp new
        exact absurd below (Nat.lt_irrefl _)
  | receive place =>
    unfold Audience.act
    dsimp only
    split
    · rename_i c number there
      have member := List.mem_of_getElem? there
      cases c with
      | logs =>
        have other : number ≠ id := fun same => apart (same ▸ member)
        exact .of_hub (Nat.le_refl _) (s.hub.logs.find?_update_other other fun _ => rfl)
      | traffic => exact .of_same rfl
    · exact .refl s
  | unsubscribe place =>
    unfold Audience.act
    dsimp only
    split
    · exact ⟨Nat.le_of_eq (Hub.next_unsubscribe s.hub _ _ .logs).symm, fun _ member _ => member,
        List.mem_of_mem_eraseIdx, fun _ => Hub.find?_of_unsubscribe⟩
    · exact .refl s
  | operation op =>
    have still := Hub.perform_still d s.hub op
    exact .of_hub (still.next .logs) (by simp only [Bus.find?, still.buffered])
  | traffic act =>
    unfold Audience.act
    dsimp only
    split
    · exact .of_same rfl
    · exact .refl s
  | outside change => exact .of_same rfl

end Elsewhere

/-- How far a stream of log events has come: what was admitted to its buffer is what was taken off
it, of which the part that is shown was read, and what still waits there. -/
structure Followed (stream : Stream) (w : Watch σ) (taken waiting : List LogEvent) : Prop where
  logs : stream.feed = .logs
  attended : Attended w.audience
  below : stream.subscription < w.audience.hub.logs.nextId
  alone : ∀ x ∈ w.audience.held, x.response.subscription? = some (.logs, stream.subscription) →
    x.response.body.stream? = some stream
  apart : (Channel.logs, stream.subscription) ∉ w.audience.direct
  buffered : ∀ b, w.audience.hub.logs.find? stream.subscription = some b → b.items = waiting
  admitted : w.admitted = taken ++ waiting
  octets : w.octets = utf8 (lineText ((stream.shown taken).map LogEvent.json))

theorem Attended.turn (a : Attended s) (t : Turn σ) : Attended (s.turn d t) := by
  cases t with
  | event e => exact a.act e
  | pull place =>
    unfold Audience.turn
    dsimp only
    split
    · exact a.quiet (Stream.pull_quiet _ _)
    · exact a

theorem Attended.turns (a : Attended s) (turns : List (Turn σ)) :
    Attended (turns.foldl (Audience.turn d) s) := by
  induction turns generalizing s with
  | nil => exact a
  | cons t rest ih => exact ih (a.turn t)

namespace Followed

variable {t : Turn σ}

/-- A turn that is about something else. -/
theorem elsewhere (f : Followed stream w taken waiting)
    (else' : Elsewhere stream.subscription w.audience (w.audience.turn d t))
    (admits : w.audience.admits stream t = []) (brings : w.audience.brings stream t = []) :
    Followed stream (w.turn d stream t) taken waiting where
  logs := f.logs
  attended := f.attended.turn t
  below := Nat.lt_of_lt_of_le f.below else'.next
  alone x member own := f.alone x (else'.held x member own) own
  apart member := f.apart (else'.direct member)
  buffered b found := f.buffered b (else'.found b found)
  admitted := by rw [Watch.turn, admits, List.append_nil, f.admitted]
  octets := by rw [Watch.turn, brings, List.append_nil, f.octets]

/-- A turn in which values are taken from the stream. -/
theorem drawn (f : Followed stream w taken waiting) {answer : List Json × Hub σ}
    (draws : stream.Draws waiting answer) (quiet : Quiet w.audience.hub answer.2)
    (turns : w.audience.turn d t = { w.audience with hub := answer.2 })
    (admits : w.audience.admits stream t = [])
    (brings : w.audience.brings stream t = utf8 (lineText answer.1)) :
    ∃ taken waiting, Followed stream (w.turn d stream t) taken waiting := by
  obtain ⟨now, later, rfl, values, left⟩ := draws
  refine ⟨taken ++ now, later, f.logs, f.attended.turn t, ?_, ?_, ?_, ?_, ?_, ?_⟩
  all_goals simp only [Watch.turn, turns]
  · exact Nat.lt_of_lt_of_le f.below (quiet.next .logs)
  · exact f.alone
  · exact f.apart
  · exact left
  · rw [admits, List.append_nil, f.admitted, List.append_assoc]
  · rw [brings, f.octets, values, ← utf8_append, ← lineText_append, ← List.map_append, Stream.shown,
      Stream.shown, ← List.filter_append]
    rfl

/-- An event joins those that wait if there is room for it. -/
theorem publish (f : Followed stream w taken waiting) (e : LogEvent) :
    ∃ waiting, Followed stream (w.turn d stream (.event (.publish e))) taken waiting := by
  have attended := f.attended.turn (d := d) (.event (.publish e))
  have after := w.audience.hub.logs.find?_publish e stream.subscription
  cases found : w.audience.hub.logs.find? stream.subscription with
  | none =>
    -- The stream was given up: what waited is lost, and nothing more is admitted.
    rw [found, Option.map_none] at after
    refine ⟨waiting, f.logs, attended, f.below, f.alone, f.apart, fun b there => ?_, ?_, ?_⟩
    · exact absurd (after.symm.trans there) nofun
    · simp [Watch.turn, admits, found, f.admitted]
    · simp [Watch.turn, brings, f.octets]
  | some b =>
    rw [found, Option.map_some] at after
    have items := f.buffered b found
    by_cases room : b.hasRoom w.audience.hub.logs.capacity
    · refine ⟨waiting ++ [e], f.logs, attended, f.below, f.alone, f.apart, fun b' there => ?_, ?_, ?_⟩
      · obtain rfl := Option.some.inj (after.symm.trans there)
        simp [Subscription.offer, room, items]
      · simp [Watch.turn, admits, found, room, f.admitted]
      · simp [Watch.turn, brings, f.octets]
    · refine ⟨waiting, f.logs, attended, f.below, f.alone, f.apart, fun b' there => ?_, ?_, ?_⟩
      · obtain rfl := Option.some.inj (after.symm.trans there)
        simp [Subscription.offer, room, items]
      · simp [Watch.turn, admits, found, room, f.admitted]
      · simp [Watch.turn, brings, f.octets]

/-- No other stream is fed by the same subscription. -/
theorem subscription?_ne (f : Followed stream w taken waiting) {place : Nat} {other : Stream}
    (there : w.audience.stream? place = some other) (differs : other ≠ stream) :
    other.subscription? ≠ some (.logs, stream.subscription) := by
  intro same
  obtain ⟨x, at_place, carries⟩ := Option.bind_eq_some_iff.mp there
  have own : x.response.subscription? = some (.logs, stream.subscription) := by
    rw [Response.subscription?, carries, Option.bind_some, same]
  have alone := f.alone x (List.mem_of_getElem? at_place) own
  exact differs (Option.some.inj (carries.symm.trans alone))

theorem aside (f : Followed stream w taken waiting) {e : Event σ} (aside : e.isAside = true) :
    Followed stream (w.turn d stream (.event e)) taken waiting := by
  have acts : Elsewhere stream.subscription w.audience (w.audience.turn d (.event e)) :=
    .act f.attended f.below f.apart aside
  cases e with
  | read | publish => exact absurd aside Bool.false_ne_true
  | request | leave | subscribe | receive | unsubscribe | operation | traffic | outside =>
    exact f.elsewhere acts rfl rfl

/-- A turn in which values are taken from the stream at a place, whichever that is. -/
theorem taking (f : Followed stream w taken waiting) {draw : Stream → Hub σ → List Json × Hub σ}
    (takes : Takes draw) (place : Nat)
    (turns : w.audience.turn d t = match w.audience.stream? place with
      | some other => { w.audience with hub := (draw other w.audience.hub).2 }
      | none => w.audience)
    (admits : w.audience.admits stream t = [])
    (brings : w.audience.brings stream t = if w.audience.stream? place = some stream then
      utf8 (lineText (draw stream w.audience.hub).1) else []) :
    ∃ taken waiting, Followed stream (w.turn d stream t) taken waiting := by
  cases there : w.audience.stream? place with
  | none =>
    simp only [there] at turns
    refine ⟨_, _, f.elsewhere ?_ admits (by simp [brings, there])⟩
    rw [turns]
    exact .refl _
  | some other =>
    simp only [there] at turns
    by_cases own : other = stream
    · subst own
      exact f.drawn (takes.front f.logs f.buffered) (takes.quiet _ _) turns admits
        (by simp [brings, there])
    · refine ⟨_, _, f.elsewhere ?_ admits (by simp [brings, there, own])⟩
      rw [turns]
      exact .of_hub ((takes.quiet other _).next .logs) (takes.others (f.subscription?_ne there own))

theorem step (f : Followed stream w taken waiting) (t : Turn σ) :
    ∃ taken waiting, Followed stream (w.turn d stream t) taken waiting := by
  cases t with
  | pull place => exact f.taking Stream.takes_pull place rfl rfl rfl
  | event e =>
    cases e with
    | publish e => exact ⟨taken, f.publish e⟩
    | read place => exact f.taking Stream.takes_read place rfl rfl rfl
    | request | leave | subscribe | receive | unsubscribe | operation | traffic | outside =>
      exact ⟨_, _, f.aside rfl⟩

theorem run (f : Followed stream w taken waiting) (turns : List (Turn σ)) :
    ∃ taken waiting, Followed stream (turns.foldl (Watch.turn d stream) w) taken waiting := by
  induction turns generalizing w taken waiting with
  | nil => exact ⟨taken, waiting, f⟩
  | cons t rest ih =>
    obtain ⟨taken, waiting, next⟩ := f.step t
    exact ih next

/-- A stream starts with an empty buffer, and there is none with its number before. -/
theorem start (a : Attended s) {level : Level}
    (follows : r.FollowsLogs s.hub.general.secret level) :
    Followed ⟨.logs, s.hub.logs.nextId, level⟩ ⟨s.act d (.request r), [], []⟩ [] [] := by
  have acted : s.act d (.request r) = { s with
      hub := s.hub.subscribe .logs
      held := s.held ++ [⟨r, .lines ⟨.logs, s.hub.logs.nextId, level⟩⟩] } := by
    simp [Audience.act, follows.respond]
  have fresh : (Channel.logs, s.hub.logs.nextId) ∉ s.owned := fun member =>
    absurd (a.owned.below .logs _ (a.owned.mem member)) (Nat.lt_irrefl _)
  have unnumbered : s.hub.logs.nextId ∉ s.hub.logs.ids := fun member =>
    absurd (a.owned.below .logs _ member) (Nat.lt_irrefl _)
  -- The number of the stream is new, so that no stream held before can share its buffer.
  refine ⟨rfl, a.request r, ?_, ?_, ?_, ?_, rfl, rfl⟩
  all_goals rw [acted]
  · exact Nat.lt_succ_self _
  · intro x member own
    rcases List.mem_append.mp member with before | new
    · exact absurd (List.mem_append_left _ (List.mem_filterMap.mpr ⟨x, before, own⟩)) fresh
    · obtain rfl := List.mem_singleton.mp new
      rfl
  · exact fun member => fresh (List.mem_append_right _ member)
  · intro b found
    obtain rfl := Option.some.inj ((s.hub.logs.find?_subscribe_new unnumbered).symm.trans found)
    rfl

end Followed

/-- What a client reads from a stream of log events, once some of those that were admitted to its
buffer are taken off it and some still wait: the lines of what was taken, as far as it passes the
threshold, each ended by a line feed, so that level and payload can be told from them. -/
structure Carries (stream : Stream) (w : Watch σ) (taken waiting : List LogEvent) : Prop where
  admitted : w.admitted = taken ++ waiting
  lines : w.octets.splitOn 0x0A = (stream.shown taken).map LogEvent.line ++ [[]]
  decoded : (w.octets.splitOn 0x0A).dropLast.map LogEvent.ofLine? =
    (stream.shown taken).map fun e => some (e.level, e.payload)
  buffered : ∀ place, w.audience.stream? place = some stream →
    w.audience.hub.logs.find? stream.subscription = some ⟨stream.subscription, waiting⟩

theorem Followed.carries (f : Followed stream w taken waiting) :
    Carries stream w taken waiting := by
  have lines : w.octets.splitOn 0x0A = (stream.shown taken).map LogEvent.line ++ [[]] := by
    rw [f.octets, utf8_lineText]
    refine splitOn_lines _ fun line member => ?_
    obtain ⟨e, -, rfl⟩ := List.mem_map.mp member
    exact e.lineFeed_notMem
  refine ⟨f.admitted, lines, ?_, fun place there => ?_⟩
  · rw [lines, List.dropLast_concat, List.map_map]
    refine List.map_congr_left fun e _ => ?_
    rw [Function.comp_apply, e.ofLine?_line]
  · obtain ⟨x, at_place, carries⟩ := Option.bind_eq_some_iff.mp there
    have own : x.response.subscription? = some (.logs, stream.subscription) := by
      rw [Response.subscription?, carries, Option.bind_some, Stream.subscription?, f.logs]
    have owned : (Channel.logs, stream.subscription) ∈ w.audience.owned :=
      List.mem_append_left _ (List.mem_filterMap.mpr ⟨x, List.mem_of_getElem? at_place, own⟩)
    obtain ⟨b, found⟩ := Option.isSome_iff_exists.mp
      (Bus.find?_isSome.mpr (f.attended.owned.mem owned))
    obtain ⟨number, items⟩ := b
    obtain rfl : number = stream.subscription := Bus.find?_id found
    rw [found, ← f.buffered _ found]

/-- After a read to the end nothing waits any more, and all that was admitted is taken. -/
theorem Followed.read (f : Followed stream w taken waiting) {place : Nat}
    (there : w.audience.stream? place = some stream) :
    Followed stream (w.turn d stream (.event (.read place))) w.admitted [] := by
  have acted : w.audience.act d (.read place) =
      { w.audience with hub := (stream.read w.audience.hub).2 } := by
    unfold stream? at there
    simp [act, there]
  obtain ⟨taken', waiting', next⟩ := f.step (d := d) (.event (.read place))
  -- The buffer is still there, and the read has emptied it.
  have still : (w.turn d stream (.event (.read place))).audience.stream? place = some stream := by
    simpa [Watch.turn, turn, acted, stream?] using there
  have found := next.carries.buffered place still
  have emptied : waiting' = [] := by
    have after := w.audience.hub.logs.find?_update stream.subscription
      (f := fun s => { s with items := [] }) fun _ => rfl
    simp only [Watch.turn, turn, acted, Stream.read, f.logs, Bus.drain] at found
    rw [after] at found
    obtain ⟨b, -, same⟩ := Option.map_eq_some_iff.mp found
    exact (congrArg Subscription.items same).symm
  subst emptied
  have admitted : w.admitted = taken' := by
    simpa [Watch.turn, admits] using next.admitted
  exact admitted ▸ next

/-- Whatever went on before a client asks for the log events from a level on, and however reading,
publishing and everything else are interleaved from then on: the octets read so far are lines, one for
each event that passes the level, in the order of publication, of those that found room in the buffer
and do not wait there still; and the lines give back level and payload. Once the stream is read to its
end, nothing waits, and all that found room is on the lines. -/
theorem log_stream_lines (d : Outside σ) (outside : σ) (path : String) (overrides : Overrides)
    (logBuffer : Nat) (past future : List (Turn σ)) {r : Request} {level : Level}
    (follows : r.FollowsLogs (past.foldl (turn d)
      { hub := .create outside path overrides logBuffer }).hub.general.secret level) :
    let before := past.foldl (turn d) { hub := .create outside path overrides logBuffer }
    let stream : Stream := ⟨.logs, before.hub.logs.nextId, level⟩
    let w := future.foldl (Watch.turn d stream) { audience := before.act d (.request r) }
    (respond d before.hub r).1 = .lines stream ∧ (∃ taken waiting, Carries stream w taken waiting) ∧
      ∀ place, w.audience.stream? place = some stream →
        Carries stream (w.turn d stream (.event (.read place))) w.admitted [] := by
  intro before stream w
  have start : Attended ({ hub := .create outside path overrides logBuffer } : Audience σ) :=
    ⟨.create outside path overrides logBuffer, fun _ member => absurd member List.not_mem_nil⟩
  have attended : Attended before := start.turns past
  obtain ⟨taken, waiting, followed⟩ := (Followed.start (d := d) attended follows).run future
  exact ⟨by rw [follows.respond], ⟨taken, waiting, followed.carries⟩,
    fun _ there => (followed.read there).carries⟩

/-- Among the payloads are a line feed, quotes, a control character and a letter beyond ASCII. The
buffer has room for two events. -/
theorem log_stream_lines_odd :
    let r : Request := { versionRequest [] with path := "/logs", query := some "level=warn" }
    let hub : Hub Unit := .create () "config.yaml" {} 2
    let told := fun (level : Level) (payload : String) =>
      (Turn.event (.publish ⟨level, payload, "now"⟩) : Turn Unit)
    let future := [told .warning "a\n\"b\"", told .info "quiet", told .error "missed",
      .pull 0, told .error "\x07é", .event (.read 0)]
    let stream : Stream := ⟨.logs, 1, .warning⟩
    let w := future.foldl (Watch.turn obliging stream)
      { audience := ({ hub := hub } : Audience Unit).act obliging (.request r) }
    r.FollowsLogs hub.general.secret .warning ∧
      (w.octets.splitOn 0x0A).dropLast.map LogEvent.ofLine? =
        [some (.warning, "a\n\"b\""), some (.error, "\x07é")] ∧
      (∃ taken waiting, Carries stream w taken waiting) ∧
      w.admitted.map (·.payload) = ["a\n\"b\"", "quiet", "\x07é"] ∧
      Carries stream (w.turn obliging stream (.event (.read 0))) w.admitted [] := by
  intro r hub told future stream w
  have follows : r.FollowsLogs hub.general.secret .warning :=
    ⟨rfl, rfl, by decide +kernel, by decide +kernel, .inr ⟨"warn", by decide +kernel, rfl⟩⟩
  have carried := (log_stream_lines obliging () "config.yaml" {} 2 [] future follows).2
  exact ⟨follows, by decide +kernel, carried.1, by decide +kernel,
    carried.2 0 (by decide +kernel)⟩

end Audience

end Api

end LocalProxy
