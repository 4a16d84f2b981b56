import LocalProxy.Proofs.Relay.Payloads

/-! The way back. A flow answers along the path of its first datagram, whatever path the later
ones came along. So answers return the way the datagrams came just where client and destination
leave but one path. Main statement: `one_way_iff`. -/
namespace LocalProxy.Relay

/-- The flow began with a datagram that came along the path. -/
def Leads (deeds : List Deed) (n : Nat) (path : ReturnPath) : Prop :=
  ∃ p, (only n (queued deeds)).head? = some p ∧ p.path = path

theorem Leads.append {deeds : List Deed} {n : Nat} {path : ReturnPath} (leads : Leads deeds n path)
    (ds : List Deed) : Leads (deeds ++ ds) n path := by
  obtain ⟨p, first, same⟩ := leads
  exact ⟨p, by simp [first], same⟩

namespace Flows

variable {d d' : Flows} {came : List Packet}

/-- Each flow has the path of its first datagram, and so have its answers. -/
structure Led (d : Flows) : Prop where
  tasks : ∀ t ∈ d.tasks, Leads d.deeds t.serial t.path
  began : ∀ n key path, .began n key path ∈ d.deeds → Leads d.deeds n path
  answered : ∀ n path datagram, .answered n path datagram ∈ d.deeds → Leads d.deeds n path ∧
    ∃ sender payload, datagram = path.framing.frame sender payload

namespace Led

theorem create (statistics : Statistics) : (Flows.create statistics).Led := by
  constructor <;> simp [Flows.create]

/-- Further deeds, which lead where their flow does. -/
theorem more (led : d.Led) (ds : List Deed) (deeds : d'.deeds = d.deeds ++ ds)
    (tasks : ∀ t ∈ d'.tasks, Leads d'.deeds t.serial t.path)
    (began : ∀ n key path, .began n key path ∈ ds → Leads d'.deeds n path)
    (answered : ∀ n path datagram, .answered n path datagram ∈ ds → Leads d'.deeds n path ∧
      ∃ sender payload, datagram = path.framing.frame sender payload) : d'.Led where
  tasks := tasks
  began n key path member := by
    rcases List.mem_append.mp (deeds ▸ member) with old | new
    · exact deeds ▸ (led.began n key path old).append ds
    · exact began n key path new
  answered n path datagram member := by
    rcases List.mem_append.mp (deeds ▸ member) with old | new
    · obtain ⟨leads, framed⟩ := led.answered n path datagram old
      exact ⟨deeds ▸ leads.append ds, framed⟩
    · exact answered n path datagram new

theorem arrival (led : d.Led) (fed : d.Fed came) {p : Packet} (arrival : d.Arrival p d') :
    d'.Led := by
  cases arrival with
  | refused | overflowed => exact ⟨led.tasks, led.began, led.answered⟩
  | @joined key t keyed routed room =>
    refine led.more [.queued t.serial p] rfl (fun u' after => ?_) (by simp) (by simp)
    obtain ⟨u, old, rfl⟩ := List.mem_map.mp after
    split <;> exact (led.tasks u old).append _
  | @began key keyed unrouted =>
    have leads : Leads (d.begin key p).deeds d.next p.path := by
      refine ⟨p, ?_, rfl⟩
      rw [Flows.begin, queued_append, only_append, fed.unused.1]
      exact congrArg List.head? (only_self p)
    refine led.more [.began d.next key p.path, .queued d.next p] rfl (fun t member => ?_) ?_
      (by simp)
    · rcases List.mem_append.mp member with old | new
      · exact (led.tasks t old).append _
      · exact List.mem_singleton.mp new ▸ leads
    · intro n key' path member
      simp only [List.mem_cons, Deed.began.injEq, reduceCtorEq, List.not_mem_nil,
        or_false] at member
      obtain ⟨rfl, -, rfl⟩ := member
      exact leads

theorem step (led : d.Led) {t : Flow} (member : t ∈ d.tasks) (step : d.Step t d') : d'.Led := by
  cases step with
  | @turned f ds statistics records turn =>
    refine led.more ds rfl (fun u' after => ?_) ?_ ?_
    · obtain ⟨u, old, rfl⟩ := List.mem_map.mp after
      have leads := (led.tasks u old).append ds
      split
      · rw [turn.serial, turn.path]
        exact leads
      · exact leads
    · intro n key path new
      cases turn <;> simp at new
    · intro n path datagram new
      cases turn with
      | answered sender payload =>
        simp only [List.mem_singleton, Deed.answered.injEq] at new
        obtain ⟨rfl, rfl, rfl⟩ := new
        exact ⟨(led.tasks t member).append _, sender, payload, rfl⟩
      | staged | took | sent | lost => simp at new
  | unlisted ended =>
    refine { led with tasks := fun u' after => ?_ }
    obtain ⟨u, old, rfl⟩ := List.mem_map.mp after
    split <;> exact led.tasks u old
  | dropped removed =>
    exact { led with tasks := fun u other => led.tasks u (List.mem_of_mem_filter other) }

end Led

/-- The datagrams on a flow came along the path that it writes its answers to, and so the answers
go back along it, in its framing. -/
structure OneWay (d : Flows) : Prop where
  queued : ∀ n key path p, .began n key path ∈ d.deeds → .queued n p ∈ d.deeds → p.path = path
  answered : ∀ n path datagram p, .answered n path datagram ∈ d.deeds → .queued n p ∈ d.deeds →
    path = p.path ∧ ∃ sender payload, datagram = p.path.framing.frame sender payload

/-- Where a flow leads along the path of all its datagrams, it is one-way. -/
theorem Led.one_way (led : d.Led)
    (same : ∀ n, ∀ p ∈ only n (Relay.queued d.deeds), ∀ q ∈ only n (Relay.queued d.deeds),
      p.path = q.path) : d.OneWay where
  queued n key path p began queued := by
    obtain ⟨q, first, rfl⟩ := led.began n key path began
    exact same n p (mem_only.mpr (mem_queued.mpr queued)) q (List.mem_of_head? first)
  answered n path datagram p answered queued := by
    obtain ⟨⟨q, first, rfl⟩, sender, payload, rfl⟩ := led.answered n path datagram answered
    have path := same n q (List.mem_of_head? first) p (mem_only.mpr (mem_queued.mpr queued))
    exact ⟨path, sender, payload, by rw [path]⟩

/-- Two datagrams of one key, one after the other, are queued on one flow, the path of which is
that of the first. -/
theorem deeds_of_two (statistics : Statistics) {p q : Packet} {key : FlowKey}
    (first : p.flowKey? = some key) (second : q.flowKey? = some key) :
    ((Flows.create statistics).after [.move (.arrive p), .move (.arrive q)]).deeds =
      [.began 0 key p.path, .queued 0 p, .queued 0 q] := by
  have begun : (Flows.create statistics).arrive p = (Flows.create statistics).begin key p := by
    rw [arrive_eq first]
    rfl
  have routed : ((Flows.create statistics).begin key p).route? key =
      some ⟨0, key, p.metadata, p.path, [p.payload], none, .opening⟩ := by
    simp [route?, begin, Flows.create, task?]
  have joined : ((Flows.create statistics).begin key p).arrive q =
      ((Flows.create statistics).begin key p).enqueue
        ⟨0, key, p.metadata, p.path, [p.payload], none, .opening⟩ q := by
    rw [arrive_eq second, routed]
  simp only [after, happen, move?, List.foldl_cons, List.foldl_nil, Option.getD_some]
  rw [begun, joined]
  rfl

theorem after_led (statistics : Statistics) (happenings : List Happening) :
    ((Flows.create statistics).after happenings).Led :=
  (after_induction (P := fun d came => d.Sound came ∧ d.Led)
    ⟨.create statistics, .create statistics⟩
    (fun ⟨s, led⟩ arrival => ⟨s.arrival arrival, led.arrival s.fed arrival⟩)
    (fun ⟨s, led⟩ member step => ⟨s.step member step, led.step member step⟩)
    (fun _ ⟨s, led⟩ => ⟨s.beside _, led.tasks, led.began, led.answered⟩) happenings).2

/-- A flow always answers along the path of its first datagram. So with any mix of datagrams, in
any order and whatever else happens, answers go back the way the datagrams came just if no two of
them have the same client and destination and came along different paths. -/
theorem one_way_iff (offered : Packet → Prop) :
    (∀ statistics happenings, ((Flows.create statistics).after happenings).Led) ∧
    ((∀ statistics happenings, (∀ p ∈ arrivals happenings, offered p) →
        ((Flows.create statistics).after happenings).OneWay) ↔
      ∀ p q key, offered p → offered q → p.flowKey? = some key → q.flowKey? = some key →
        p.path = q.path) := by
  refine ⟨after_led, fun one_way p q key came came' first second => ?_,
    fun same statistics happenings came => ?_⟩
  · have deeds := deeds_of_two .empty first second
    have both : ∀ x ∈ arrivals [.move (.arrive p), .move (.arrive q)], offered x := by
      simpa [arrivals, Happening.packet?] using ⟨came, came'⟩
    refine ((one_way .empty _ both).queued 0 key p.path q ?_ ?_).symm <;> simp [deeds]
  · have fed := (Sound.after statistics happenings).fed
    refine (after_led statistics happenings).one_way fun n p one q other => ?_
    obtain ⟨key, keyed⟩ :=
      Option.ne_none_iff_exists'.mp (fed.deeds.relayed (n, p) (mem_only.mp one))
    have arrived {x : Packet} (on : x ∈ only n (Relay.queued _)) : offered x :=
      came x (fed.deeds.came.subset (List.mem_map_of_mem (mem_only.mp on)))
    exact same p q key (arrived one) (arrived other) keyed
      (fed.deeds.keyed n q other p one ▸ keyed)

/-- A client asks one address through an inbound and through a tunnel. What comes of the datagram
to the tunnel goes back from the inbound, in the framing of the inbound. -/
theorem tunnel_answered_as_socks :
    let client : Endpoint := .v4 .loopback 50000
    let remote : Endpoint := .v4 .loopback 40000
    let first : Packet := ⟨⟨.udp, .inbound .socks, client, some (.address remote), none⟩, [97],
      ⟨0, client, .socks⟩⟩
    let second : Packet := .ofTunnel (.address remote) Outbound.directName 1 client [98]
    let d := (Flows.create .empty).run [.arrive first, .opened 0 ⟨0⟩ "", .take 0, .sent 0,
      .arrive second, .take 0, .sent 0, .answer 0 remote [50] none]
    Packet.ofSocks 0 client (Socks.encodeDatagram (.address remote) [97]) = .ok first ∧
      d.deeds = [.began 0 ⟨client, .address remote⟩ first.path, .queued 0 first, .sent 0 [97],
        .queued 0 second, .sent 0 [98],
        .answered 0 ⟨0, client, .socks⟩ (Socks.encodeDatagram (.address remote) [50])] ∧
      second.path = ⟨1, client, .raw⟩ ∧ ¬ d.OneWay := by
  intro client remote first second d
  have deeds : d.deeds = [.began 0 ⟨client, .address remote⟩ first.path, .queued 0 first,
      .sent 0 [97], .queued 0 second, .sent 0 [98],
      .answered 0 ⟨0, client, .socks⟩ (Socks.encodeDatagram (.address remote) [50])] := by
    decide
  refine ⟨by decide, deeds, rfl, fun one_way => ?_⟩
  have same := one_way.queued 0 ⟨client, .address remote⟩ first.path second
    (by simp [deeds]) (by simp [deeds])
  exact absurd same (by decide)

end Flows

end LocalProxy.Relay
