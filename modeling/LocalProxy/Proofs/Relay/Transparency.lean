import LocalProxy.Proofs.Relay.Progress

/-! A relayed connection among others. Whatever the order of its moves, and whatever is done beside
it, both sides receive the beginning of what they are to receive, and all of it where nothing fails
and nobody asks for an end; no octet is counted before it is out; and the connection is listed no
longer than it lasts. Main statement: `relay_transparent`. -/
namespace LocalProxy

theorem Metadata.verdict_eq_ok {m : Metadata} {target : Target} :
    m.verdict = .ok target ↔ m.destination = some target ∧ m.outbound = .direct := by
  cases there : m.destination with
  | none => simp [verdict, there]
  | some t => cases outbound : m.outbound <;> simp [verdict, there, outbound]

namespace Relay

open Statistics (Act share total apart Unasked)

/-- A relay among the statistics, with what was done to these, the latest deed first. -/
structure Scene where
  state : State
  past : List Statistics.Deed

/-- What happens in a scene: the relay makes a move, or the statistics are changed beside it, as by
another relay or by a client of the control interface. -/
inductive Event
  | move (m : Move)
  | beside (act : Act)

/-- What is done beside a relay does not use its guard. -/
def Event.Foreign (guard : Nat) : Event → Prop
  | move _ => True
  | beside act => act ≠ .drop guard ∧ ∀ way n, act ≠ .add way guard n

/-- Nothing fails, and nobody asks the connection to close. -/
def Event.Calm (id : Uuid) : Event → Prop
  | move (.fail _) | move (.replayFails _) => False
  | move _ => True
  | beside act => act.requests id = false

namespace Scene

def course (x : Scene) : Statistics.Course := ⟨x.state.statistics, x.past⟩

/-- An event. A move that cannot be made changes nothing. -/
def step (x : Scene) : Event → Scene
  | .move m =>
    match move? x.state m with
    | none => x
    | some s => ⟨s, ((m.act? x.state.relay).elim x.course x.course.step).past⟩
  | .beside act =>
    ⟨{ x.state with statistics := (x.course.step act).statistics }, (x.course.step act).past⟩

def run (x : Scene) (events : List Event) : Scene := events.foldl step x

/-- The octets that were counted through a guard. -/
def counts (x : Scene) (guard : Nat) (way : Direction) : Nat := share way.counted guard x.past

theorem step_move {x : Scene} {m : Move} {s : State} {id : Uuid} (made : move? x.state m = some s)
    (name : (x.state.relay.guard, id) ∈ x.state.statistics.names) :
    (x.step (.move m)).course = (m.act? x.state.relay).elim x.course x.course.step := by
  have same : x.course.statistics = x.state.statistics := rfl
  have statistics := move?_act made same name
  simp only [step, made, course] at statistics ⊢
  rw [← statistics]

end Scene

/-- What holds of a scene at any time: the statistics are as some acts left them, the relay has come
this far, and its guard is held until it ends, and never after. -/
structure Scene.Sound (p : Payload) (id : Uuid) (guard : Nat) (x : Scene) : Prop where
  lawful : ∃ acts, x.course = Statistics.Course.run {} acts
  own : x.state.relay.guard = guard
  given : .tracked guard id ∈ x.past
  progress : x.state.relay.Progress p (x.counts guard)
  held : x.state.relay.phase ≠ .ended → (guard, id) ∈ x.state.statistics.names
  gone : x.state.relay.phase = .ended → ∀ i, (guard, i) ∉ x.state.statistics.names

namespace Scene.Sound

variable {p : Payload} {id : Uuid} {guard : Nat} {x : Scene}

theorem filed (sound : x.Sound p id guard) :
    Statistics.Balanced x.state.statistics x.past ∧ Statistics.Filed x.state.statistics x.past := by
  obtain ⟨acts, course⟩ := sound.lawful
  have filed := Statistics.Course.filed acts
  rw [← course] at filed
  exact filed

theorem lawful_step (sound : x.Sound p id guard) (act : Act) :
    ∃ acts, x.course.step act = Statistics.Course.run {} acts := by
  obtain ⟨acts, course⟩ := sound.lawful
  exact ⟨acts ++ [act], by rw [Statistics.Course.run_concat, course]⟩

/-- What is done beside a relay leaves it and its counts as they are. -/
theorem beside (sound : x.Sound p id guard) {act : Act} (foreign : (Event.beside act).Foreign guard) :
    (x.step (.beside act)).Sound p id guard where
  lawful := sound.lawful_step act
  own := sound.own
  given := (x.course.past_suffix act).subset sound.given
  progress := by
    have same : (x.step (.beside act)).counts guard = x.counts guard :=
      funext fun way => x.course.share_step foreign.2 _
    rw [same]
    exact sound.progress
  held going := Statistics.Course.name_step (c := x.course) (sound.held going) foreign.1
  gone ended := Statistics.Course.no_name_step (c := x.course) sound.filed.1.numbered sound.given
    (sound.gone ended) act

/-- A move takes a relay further, and drops its guard if it ends it. -/
theorem move (sound : x.Sound p id guard) (m : Move) : (x.step (.move m)).Sound p id guard := by
  cases made : move? x.state m with
  | none => simpa only [Scene.step, made] using sound
  | some s =>
    have step := move?_step made
    obtain rfl := sound.own
    have name := sound.held step.going
    have course := Scene.step_move made name
    have relay : (x.step (.move m)).state.relay = s.relay := by simp [Scene.step, made]
    have past : (x.step (.move m)).past = ((m.act? x.state.relay).elim x.course x.course.step).past :=
      congrArg Statistics.Course.past course
    have statistics : (x.step (.move m)).state.statistics =
        ((m.act? x.state.relay).elim x.course x.course.step).statistics :=
      congrArg Statistics.Course.statistics course
    refine ⟨?_, by rw [relay, step.guard], ?_, ?_, fun going => ?_, fun ended i => ?_⟩
    · rw [course]
      cases m.act? x.state.relay with
      | none => exact sound.lawful
      | some act => exact sound.lawful_step act
    · rw [past]
      cases m.act? x.state.relay with
      | none => exact sound.given
      | some act => exact (x.course.past_suffix act).subset sound.given
    · have progress := sound.progress.step (c := x.course) step name
      rw [← past, ← relay] at progress
      exact progress
    · rw [statistics]
      cases act : m.act? x.state.relay with
      | none => exact name
      | some a =>
        refine Statistics.Course.name_step (c := x.course) name fun drops => going ?_
        rw [relay]
        exact step.ended_iff.mpr (act.trans (congrArg some drops))
    · rw [relay] at ended
      rw [statistics, step.ended_iff.mp ended, Option.elim_some, Statistics.Course.step_drop]
      exact fun name' => (Statistics.mem_names_drop.mp name').2 rfl

theorem event (sound : x.Sound p id guard) {e : Event} (foreign : e.Foreign guard) :
    (x.step e).Sound p id guard := by
  cases e with
  | move m => exact sound.move m
  | beside act => exact sound.beside foreign

theorem run (sound : x.Sound p id guard) {events : List Event}
    (foreign : ∀ e ∈ events, e.Foreign guard) : (x.run events).Sound p id guard := by
  induction events generalizing x with
  | nil => exact sound
  | cons e rest ih =>
    exact ih (sound.event (foreign e List.mem_cons_self))
      fun e' later => foreign e' (List.mem_cons_of_mem _ later)

end Scene.Sound

/-- What holds besides as long as nothing fails and nobody asks for an end. -/
structure Scene.Quiet (guard : Nat) (x : Scene) : Prop where
  unasked : x.state.relay.phase ≠ .ended → x.state.statistics.Unasked guard
  unfailed : ∀ way, (x.state.relay.side way).status ≠ .failed
  done : x.state.relay.phase = .ended → x.state.relay.Done

theorem Move.act?_unrequested {m : Move} {r : Link} {act : Act} (acts : m.act? r = some act)
    (id : Uuid) : act.requests id = false := by
  cases m with
  | copy =>
    simp only [act?] at acts
    split at acts
    · split at acts <;> cases acts
      rfl
    · cases acts
  | write way n =>
    simp only [act?] at acts
    split at acts
    · split at acts <;> cases acts
      rfl
    · cases acts
  | replayFails | close | settle =>
    cases acts
    rfl
  | replay | read | finish | fail => cases acts

/-- In a link where no copy failed, none fails by a step that is calm. -/
theorem Link.Step.unfailed {r r' : Link} {m : Move} {id : Uuid} (step : r.Step m r')
    (unfailed : ∀ way, (r.side way).status ≠ .failed) (calm : (Event.move m).Calm id)
    (way : Direction) : (r'.side way).status ≠ .failed := by
  have set : ∀ w (c : Copy), c.status ≠ .failed → ((r.setSide w c).side way).status ≠ .failed := by
    intro w c fine
    rw [side_setSide]
    split
    · exact fine
    · exact unfailed way
  cases step with
  | @read w n c _ read => exact set w c (Copy.status_read read ▸ unfailed w)
  | @write w n size c _ write => exact set w c (Copy.status_write write ▸ unfailed w)
  | @finish w c _ finish =>
    refine set w c ?_
    rw [Copy.status_finish finish]
    nofun
  | fail => cases calm
  | replay | replayFails | copy | close | settle =>
    have fine := unfailed way
    cases way <;> exact fine

namespace Scene.Quiet

variable {p : Payload} {id : Uuid} {guard : Nat} {x : Scene}

theorem beside (quiet : x.Quiet guard) (sound : x.Sound p id guard) {act : Act}
    (calm : (Event.beside act).Calm id) : (x.step (.beside act)).Quiet guard where
  unasked going := Statistics.Course.unasked_step (c := x.course) sound.filed.2
    sound.filed.1.numbered (sound.held going) (quiet.unasked going) calm
  unfailed := quiet.unfailed
  done := quiet.done

/-- A calm move ends a relay only when both copies have come to their end. -/
theorem move (quiet : x.Quiet guard) (sound : x.Sound p id guard) {m : Move}
    (calm : (Event.move m).Calm id) : (x.step (.move m)).Quiet guard := by
  cases made : move? x.state m with
  | none => simpa only [Scene.step, made] using quiet
  | some s =>
    have step := move?_step made
    obtain rfl := sound.own
    have name := sound.held step.going
    have unasked := quiet.unasked step.going
    have statistics : (x.step (.move m)).state.statistics =
        ((m.act? x.state.relay).elim x.course x.course.step).statistics :=
      congrArg Statistics.Course.statistics (Scene.step_move made name)
    have relay : (x.step (.move m)).state.relay = s.relay := by simp [Scene.step, made]
    refine ⟨fun _ => ?_, fun way => ?_, fun ended => ?_⟩
    · rw [statistics]
      cases acts : m.act? x.state.relay with
      | none => exact unasked
      | some act =>
        exact Statistics.Course.unasked_step (c := x.course) sound.filed.2
          sound.filed.1.numbered name unasked (Move.act?_unrequested acts id)
    · rw [relay]
      exact step.unfailed quiet.unfailed calm way
    · rw [relay] at ended ⊢
      revert ended
      generalize same : s.relay = after at step
      intro ended
      cases step with
      | settle phase rested =>
        refine ⟨.inr rfl, fun way => ?_⟩
        have side : Link.side { x.state.relay with phase := .ended } way = x.state.relay.side way := by
          cases way <;> rfl
        rw [side]
        cases status : (x.state.relay.side way).status with
        | finished => rfl
        | running => exact absurd status (rested way)
        | failed => exact absurd status (quiet.unfailed way)
      | close =>
        have closing := isClosing_of_close made
        rw [unasked.not_closing] at closing
        cases closing
      | replayFails => cases calm
      | replay | copy => cases ended
      | read phase | write phase | finish phase | fail phase =>
        rw [Link.phase_setSide, phase] at ended
        cases ended

theorem event (quiet : x.Quiet guard) (sound : x.Sound p id guard) {e : Event}
    (calm : e.Calm id) : (x.step e).Quiet guard := by
  cases e with
  | move m => exact quiet.move sound calm
  | beside act => exact quiet.beside sound calm

theorem run (quiet : x.Quiet guard) (sound : x.Sound p id guard) {events : List Event}
    (foreign : ∀ e ∈ events, e.Foreign guard) (calm : ∀ e ∈ events, e.Calm id) :
    (x.run events).Quiet guard := by
  induction events generalizing x with
  | nil => exact quiet
  | cons e rest ih =>
    have first := quiet.event sound (calm e List.mem_cons_self)
    exact ih first (sound.event (foreign e List.mem_cons_self))
      (fun e' later => foreign e' (List.mem_cons_of_mem _ later))
      fun e' later => calm e' (List.mem_cons_of_mem _ later)

end Scene.Quiet

/-- A scene in which a connection was just dialed. -/
def Scene.start (before : Statistics.Course) (c : Connection) (destination : Target)
    (response : Bytes) (id : Uuid) (time : String) : Scene :=
  ⟨dialed c destination response id time before.statistics,
    .tracked before.statistics.nextGuard id :: before.past⟩

section Start

variable {acts : List Act} {c : Connection} {destination : Target} {response : Bytes} {id : Uuid}
  {time : String}

theorem Scene.start_sound :
    let before := Statistics.Course.run {} acts
    (Scene.start before c destination response id time).Sound ⟨c.buffered, c.unread, response⟩ id
      before.statistics.nextGuard := by
  intro before
  obtain ⟨balanced, -⟩ := Statistics.Course.filed acts
  refine ⟨⟨acts ++ [.track id c.metadata [Outbound.directName] fallbackRule time], ?_⟩, rfl,
    List.mem_cons_self, .replaying rfl (List.nil_append _) ⟨?_, fun way => ?_⟩, fun _ => ?_, nofun⟩
  · rw [Statistics.Course.run_concat]
    rfl
  · rintro (_ | _) <;> rfl
  · refine Statistics.share_unused fun x member => ?_
    rcases List.mem_cons.mp member with rfl | old
    · rfl
    · exact balanced.numbered.unused x old
  · refine (Statistics.names_track before.statistics id c.metadata [Outbound.directName]
      fallbackRule time).symm ▸ List.mem_append_right _ ?_
    exact List.mem_singleton_self _

theorem Scene.start_quiet :
    let before := Statistics.Course.run {} acts
    (Scene.start before c destination response id time).Quiet before.statistics.nextGuard := by
  intro before
  obtain ⟨balanced, -⟩ := Statistics.Course.filed acts
  refine ⟨fun _ t held own => ?_, ?_, nofun⟩
  · rcases List.mem_append.mp held with old | new
    · have below := balanced.numbered.below t.guard (List.mem_map_of_mem old)
      exact absurd own (Nat.ne_of_lt below)
    · rw [List.mem_singleton.mp new]
  · rintro (_ | _) <;> nofun

end Start

theorem Scene.past_step (x : Scene) (e : Event) : x.past <:+ (x.step e).past := by
  cases e with
  | beside act => exact x.course.past_suffix act
  | move m =>
    simp only [step]
    cases move? x.state m with
    | none => exact List.suffix_refl _
    | some s =>
      cases m.act? x.state.relay with
      | none => exact List.suffix_refl _
      | some act => exact x.course.past_suffix act

theorem Scene.past_run (x : Scene) (events : List Event) : x.past <:+ (x.run events).past := by
  induction events generalizing x with
  | nil => exact List.suffix_refl _
  | cons e rest ih => exact (x.past_step e).trans (ih (x.step e))

/-- What the past of a relay's counters comes from: the counts before, its own, and those beside. -/
theorem Scene.Sound.total_eq {p : Payload} {id : Uuid} {guard : Nat} {x : Scene}
    (sound : x.Sound p id guard) {before : Statistics.Course}
    (balanced : Statistics.Balanced before.statistics before.past)
    (unused : ∀ y ∈ before.past, y.through guard = false) {since : List Statistics.Deed}
    (split : x.past = since ++ .tracked guard id :: before.past) (way : Direction) :
    (x.state.statistics.counter way.counted).total =
      (before.statistics.counter way.counted).total + Int64.ofNat (x.counts guard way) +
        Int64.ofNat (total way.counted (apart guard since)) := by
  have earlier : apart guard (.tracked guard id :: before.past) =
      .tracked guard id :: before.past := by
    refine List.filter_eq_self.mpr fun y member => ?_
    rcases List.mem_cons.mp member with rfl | old
    · rfl
    · simp [unused y old]
  have others : total way.counted (apart guard x.past) =
      total way.counted (apart guard since) + total way.counted before.past := by
    rw [split, apart, List.filter_append, Statistics.total_append]
    refine congrArg₂ _ rfl ((congrArg _ earlier).trans ?_)
    exact Nat.zero_add _
  rw [(sound.filed.1.counters way.counted).total, (balanced.counters way.counted).total,
    Statistics.total_eq _ guard, others, Int64.ofNat_add, Int64.ofNat_add]
  simp only [Scene.counts]
  rw [Int64.add_comm (Int64.ofNat (total way.counted (apart guard since))), ← Int64.add_assoc,
    Int64.add_comm (Int64.ofNat (share way.counted guard x.past))]

/-- What a relay keeps to after some events, with what it is to carry, the identifier of its
connection and the statistics it found. -/
structure Relayed (p : Payload) (id : Uuid) (before : Statistics.Course) (events : List Event)
    (x : Scene) : Prop where
  within : ∀ way, x.state.relay.out way <+: p.whole way
  counted : ∀ way, x.counts before.statistics.nextGuard way ≤ (x.state.relay.out way).length
  /-- While the connection is held, it shows what was counted. -/
  shown : ∀ t ∈ x.state.statistics.held, t.guard = before.statistics.nextGuard →
    ∀ way, t.carried way.counted = UInt64.ofNat (x.counts before.statistics.nextGuard way)
  /-- The totals have grown by what was counted here, and what was counted beside it. -/
  totals : ∃ since, x.past = since ++ .tracked before.statistics.nextGuard id :: before.past ∧
    ∀ way, (x.state.statistics.counter way.counted).total =
      (before.statistics.counter way.counted).total +
        Int64.ofNat (x.counts before.statistics.nextGuard way) +
        Int64.ofNat (total way.counted (apart before.statistics.nextGuard since))
  whole : x.state.relay.Done → ∀ way, x.state.relay.out way = p.whole way ∧
    x.counts before.statistics.nextGuard way ≡ (p.whole way).length [MOD 2 ^ 64]
  orderly : (∀ e ∈ events, e.Calm id) → x.state.relay.phase = .ended → x.state.relay.Done
  held : x.state.relay.phase ≠ .ended →
    (before.statistics.nextGuard, id) ∈ x.state.statistics.names
  unlisted : x.state.relay.phase = .ended →
    ∀ t ∈ x.state.statistics.connections, t.guard ≠ before.statistics.nextGuard
  /-- The move that ends a relay leaves nothing listed under its identifier. -/
  ending : ∀ m s, move? x.state m = some s → s.relay.phase = .ended →
    ∀ t ∈ s.statistics.connections, t.id ≠ id
  /-- A relay goes on until it is over, and each move brings the end closer. -/
  possible : x.state.relay.phase ≠ .ended → ∃ m, m.Orderly ∧ (move? x.state m).isSome
  nearer : ∀ m s, move? x.state m = some s → s.relay.left < x.state.relay.left

/-- A guard that nobody holds is listed for nobody. -/
theorem Scene.Sound.unlisted {p : Payload} {id : Uuid} {guard : Nat} {x : Scene}
    (sound : x.Sound p id guard) (ended : x.state.relay.phase = .ended) :
    ∀ t ∈ x.state.statistics.connections, t.guard ≠ guard := fun t listed own =>
  sound.gone ended t.id
    (Statistics.mem_names.mpr ⟨t, Statistics.connections_subset _ listed, own, rfl⟩)

theorem Scene.Sound.ending {p : Payload} {id : Uuid} {guard : Nat} {x : Scene}
    (sound : x.Sound p id guard) {m : Move} {s : State} (made : move? x.state m = some s)
    (ended : s.relay.phase = .ended) : ∀ t ∈ s.statistics.connections, t.id ≠ id := by
  obtain rfl := sound.own
  have step := move?_step made
  have name := sound.held step.going
  have drops := step.ended_iff.mp ended
  have after := (sound.move m).filed
  rw [← move?_act (c := x.course) made rfl name, drops]
  have course : (x.step (.move m)).course = x.course.step (.drop x.state.relay.guard) := by
    rw [Scene.step_move made name, drops]
    rfl
  rw [show (x.step (.move m)).state.statistics = _ from congrArg Statistics.Course.statistics course,
    show (x.step (.move m)).past = _ from congrArg Statistics.Course.past course] at after
  exact Statistics.Course.unlisted_drop (c := x.course) sound.filed.2 after.2 after.1.numbered name

/-- Whatever has happened to the statistics before, a connection without a destination, or one that
is to leave otherwise than directly, is dropped before anything is dialed or tracked. Any other one
whose destination is reached is relayed, and keeps to `Relayed` whatever happens. -/
theorem relay_transparent (acts : List Act) (c : Connection) (id : Uuid) (time : String) :
    let before := Statistics.Course.run {} acts
    (c.metadata.destination = none ∨ c.metadata.outbound ≠ .direct →
      ∃ record, ∀ dial id time s, course c dial id time s = .dropped record) ∧
    ∀ destination, c.metadata.destination = some destination → c.metadata.outbound = .direct →
      ∀ dial response, dial destination = .ok response →
        ∃ start, course c dial id time before.statistics = .relaying start ∧
          start.relay.destination = destination ∧
          ∀ events, (∀ e ∈ events, e.Foreign before.statistics.nextGuard) →
            Relayed ⟨c.buffered, c.unread, response⟩ id before events
              (Scene.run ⟨start, .tracked before.statistics.nextGuard id :: before.past⟩ events) := by
  intro before
  refine ⟨fun undialed => ?_, fun destination there direct dial response reached => ?_⟩
  · cases verdict : c.metadata.verdict with
    | error record => exact ⟨record, fun dial id time s => by simp [course, verdict]⟩
    | ok destination =>
      obtain ⟨there, direct⟩ := Metadata.verdict_eq_ok.mp verdict
      simp [there, direct] at undialed
  have verdict := Metadata.verdict_eq_ok.mpr ⟨there, direct⟩
  refine ⟨dialed c destination response id time before.statistics,
    by simp [course, verdict, reached], rfl, fun events foreign => ?_⟩
  obtain ⟨balanced, -⟩ := Statistics.Course.filed acts
  have start : (Scene.start before c destination response id time).Sound _ id _ := Scene.start_sound
  have sound := start.run foreign
  obtain ⟨since, split⟩ := (Scene.start before c destination response id time).past_run events
  exact {
    within := sound.progress.out_initial
    counted := sound.progress.counts_le
    shown := fun t held own way => by rw [sound.filed.1.held t held, own]; rfl
    totals := ⟨since, split.symm, sound.total_eq balanced balanced.numbered.unused split.symm⟩
    whole := sound.progress.of_done
    orderly := fun calm => (Scene.start_quiet.run start foreign calm).done
    held := sound.held
    unlisted := sound.unlisted
    ending := fun _ _ => sound.ending
    possible := Relay.possible _
    nearer := fun _ _ made => (move?_step made).left }

/-- One octet came ahead, one comes later, and one comes back, while another client has all the
connections sampled. -/
theorem relay_transparent_octets :
    let remote : Target := .address (.v4 .loopback 40000)
    let c : Connection :=
      ⟨⟨.tcp, .inbound .socks, .v4 .loopback 50000, some remote, none⟩, [71], [72]⟩
    let start := dialed c remote [73] ⟨0⟩ "" .empty
    let events : List Event := [.move (.replay 1), .move .copy, .move (.read .down 1),
      .move (.read .up 1), .beside .tick, .move (.write .up 1), .move (.write .down 1),
      .move (.finish .up), .move (.finish .down), .move .settle]
    let x := Scene.run ⟨start, [.tracked 0 ⟨0⟩]⟩ events
    course c (fun _ => .ok [73]) ⟨0⟩ "" .empty = .relaying start ∧
      x.state.relay.phase = .ended ∧ x.state.relay.out .up = [71, 72] ∧
      x.state.relay.out .down = [73] ∧ x.counts 0 .up ≡ 2 [MOD 2 ^ 64] ∧
      x.counts 0 .down ≡ 1 [MOD 2 ^ 64] ∧ Relayed ⟨[71], [72], [73]⟩ ⟨0⟩ {} events x := by
  intro remote c start events x
  obtain ⟨start', came, -, keeps⟩ :=
    (relay_transparent [] c ⟨0⟩ "").2 remote rfl (by decide) (fun _ => .ok [73]) [73] rfl
  obtain rfl : start = start' := Course.relaying.inj came
  have relayed : Relayed ⟨[71], [72], [73]⟩ ⟨0⟩ {} events x :=
    keeps events (by simp [events, Event.Foreign])
  have ended : x.state.relay.phase = .ended := by decide
  have done := relayed.orderly (by simp [events, Event.Calm, Act.requests]) ended
  obtain ⟨up, upCount⟩ := relayed.whole done .up
  obtain ⟨down, downCount⟩ := relayed.whole done .down
  exact ⟨came, ended, up, down, upCount, downCount, relayed⟩

end Relay

end LocalProxy
