import LocalProxy.Dns.Resolver

/-! What ends the wait for an answer. Each arrival ends it or is passed over, so that two waits
can be compared one arrival at a time: what others put among the arrivals is passed over, except
for what comes under the server's address and does not decode. -/
namespace LocalProxy.Dns

section Verdicts
variable (decode : Bytes → Option Message) (server : Endpoint) (id : UInt16)

/-- How an arrival ends the wait, if it does. -/
def Arrival.verdict? : Arrival → Option (Except ResolveFault Message)
  | .failure reason => some (.error (.exchange reason))
  | .datagram sender octets =>
    if sender ≠ server then none
    else match decode (octets.take maxResponse) with
      | none => some (.error (.exchange "malformed response"))
      | some m => if m.id = id then some (.ok m) else none

/-- A datagram that decodes, and to a message with the query's number. -/
def Carries (octets : Bytes) : Prop :=
  ∃ m, decode (octets.take maxResponse) = some m ∧ m.id = id

/-- A datagram that is not the awaited answer: another sender's, or without the number. -/
def Foreign (sender : Endpoint) (octets : Bytes) : Prop :=
  sender ≠ server ∨ ¬ Carries decode id octets

/-- A datagram under the server's address that does not decode. -/
def Garbled (sender : Endpoint) (octets : Bytes) : Prop :=
  sender = server ∧ decode (octets.take maxResponse) = none

variable {decode server id} {sender : Endpoint} {octets : Bytes}

instance : Decidable (Carries decode id octets) :=
  decidable_of_iff ((decode (octets.take maxResponse)).map Message.id = some id)
    (by simp [Carries])

instance : Decidable (Foreign decode server id sender octets) :=
  inferInstanceAs (Decidable (_ ∨ _))

instance : Decidable (Garbled decode server sender octets) :=
  inferInstanceAs (Decidable (_ ∧ _))

theorem await_cons (a : Arrival) (rest : List Arrival) :
    await decode server id (a :: rest) =
      (a.verdict? decode server id).getD (await decode server id rest) := by
  cases a with
  | failure => rfl
  | datagram sender octets =>
    by_cases own : sender = server
    · cases read : decode (octets.take maxResponse) with
      | none => simp [await, Arrival.verdict?, own, read]
      | some m => by_cases number : m.id = id <;> simp [await, Arrival.verdict?, own, read, number]
    · simp [await, Arrival.verdict?, own]

theorem Garbled.verdict? (garbled : Garbled decode server sender octets) :
    (Arrival.datagram sender octets).verdict? decode server id =
      some (.error (.exchange "malformed response")) := by
  obtain ⟨rfl, undecodable⟩ := garbled
  simp [Arrival.verdict?, undecodable]

theorem Foreign.verdict? (foreign : Foreign decode server id sender octets)
    (whole : ¬ Garbled decode server sender octets) :
    (Arrival.datagram sender octets).verdict? decode server id = none := by
  by_cases own : sender = server
  · cases read : decode (octets.take maxResponse) with
    | none => exact absurd ⟨own, read⟩ whole
    | some m =>
      have number : m.id ≠ id := fun same =>
        foreign.elim (fun other => other own) fun missing => missing ⟨m, read, same⟩
      simp [Arrival.verdict?, read, number]
  · simp [Arrival.verdict?, own]

end Verdicts

/-- An arrival of a wait, or a datagram that somebody else put in its way. -/
inductive Event
  | own (arrival : Arrival)
  | inserted (sender : Endpoint) (octets : Bytes)
deriving DecidableEq, Repr

/-- What the socket meets: it cannot tell the two apart. -/
def Event.arrival : Event → Arrival
  | own a => a
  | inserted sender octets => .datagram sender octets

/-- What it would have met alone. -/
def Event.own? : Event → Option Arrival
  | own a => some a
  | inserted .. => none

/-- The attempt with the inserted datagrams. -/
def disturbed (events : List Event) : Attempt := .sent (events.map Event.arrival)

/-- The attempt without them. -/
def alone (events : List Event) : Attempt := .sent (events.filterMap Event.own?)

section Insertions
variable (decode : Bytes → Option Message) (server : Endpoint) (id : UInt16)

/-- A garbled datagram was inserted before anything that ends the wait by itself. -/
def Noticed : List Event → Prop
  | [] => False
  | .own a :: rest => a.verdict? decode server id = none ∧ Noticed rest
  | .inserted sender octets :: rest => Garbled decode server sender octets ∨ Noticed rest

variable {decode server id} {events : List Event}

theorem Noticed.exists_garbled (noticed : Noticed decode server id events) :
    ∃ sender octets, .inserted sender octets ∈ events ∧ Garbled decode server sender octets := by
  induction events with
  | nil => exact noticed.elim
  | cons event rest ih =>
    cases event with
    | own a =>
      obtain ⟨sender, octets, member, garbled⟩ := ih noticed.2
      exact ⟨sender, octets, .tail _ member, garbled⟩
    | inserted sender octets =>
      obtain garbled | later := noticed
      · exact ⟨sender, octets, .head _, garbled⟩
      · obtain ⟨sender, octets, member, garbled⟩ := ih later
        exact ⟨sender, octets, .tail _ member, garbled⟩

/-- Up to the garbled datagram everything is passed over, unless another garbled one comes
first. -/
theorem Noticed.await_eq (noticed : Noticed decode server id events)
    (foreign : ∀ sender octets, .inserted sender octets ∈ events →
      Foreign decode server id sender octets) :
    await decode server id (events.map Event.arrival) =
      .error (.exchange "malformed response") := by
  induction events with
  | nil => exact noticed.elim
  | cons event rest ih =>
    have foreign_rest := fun sender octets member => foreign sender octets (.tail _ member)
    rw [List.map_cons, await_cons]
    cases event with
    | own a =>
      rw [Event.arrival, noticed.1]
      exact ih noticed.2 foreign_rest
    | inserted sender octets =>
      by_cases garbled : Garbled decode server sender octets
      · rw [Event.arrival, garbled.verdict?, Option.getD_some]
      · rw [Event.arrival, (foreign sender octets (.head _)).verdict? garbled]
        exact ih (noticed.resolve_left garbled) foreign_rest

/-- Both waits go on together up to the arrival that ends both. -/
theorem await_eq_of_not_noticed (unnoticed : ¬ Noticed decode server id events)
    (foreign : ∀ sender octets, .inserted sender octets ∈ events →
      Foreign decode server id sender octets) :
    await decode server id (events.map Event.arrival) =
      await decode server id (events.filterMap Event.own?) := by
  induction events with
  | nil => rfl
  | cons event rest ih =>
    have foreign_rest := fun sender octets member => foreign sender octets (.tail _ member)
    rw [List.map_cons, await_cons]
    cases event with
    | own a =>
      rw [List.filterMap_cons_some (f := Event.own?) rfl, await_cons, Event.arrival]
      cases ends : a.verdict? decode server id with
      | some verdict => rfl
      | none => exact ih (fun later => unnoticed ⟨ends, later⟩) foreign_rest
    | inserted sender octets =>
      have whole : ¬ Garbled decode server sender octets := fun garbled => unnoticed (.inl garbled)
      rw [List.filterMap_cons_none rfl, Event.arrival,
        (foreign sender octets (.head _)).verdict? whole]
      exact ih (fun later => unnoticed (.inr later)) foreign_rest

end Insertions

/-- Whatever is put among the arrivals that is not the awaited answer, the exchange ends as it
would have alone, or as one with a malformed response. The latter is the case when an inserted
datagram under the server's address that does not decode comes before what ends the exchange;
datagrams of other senders and messages with other numbers never change the result. -/
theorem Attempt.undisturbed_iff (decode : Bytes → Option Message) (server : Endpoint)
    (id : UInt16) (events : List Event)
    (foreign : ∀ sender octets, .inserted sender octets ∈ events →
      Foreign decode server id sender octets) :
    ((∀ sender octets, .inserted sender octets ∈ events →
        ¬ Garbled decode server sender octets) →
      (disturbed events).outcome decode server id = (alone events).outcome decode server id) ∧
    (Noticed decode server id events →
      (disturbed events).outcome decode server id =
        .error (.exchange "malformed response")) ∧
    ((disturbed events).outcome decode server id = (alone events).outcome decode server id ↔
      (Noticed decode server id events →
        (alone events).outcome decode server id = .error (.exchange "malformed response"))) := by
  have ends (noticed : Noticed decode server id events) :
      (disturbed events).outcome decode server id = .error (.exchange "malformed response") :=
    noticed.await_eq foreign
  have passes (unnoticed : ¬ Noticed decode server id events) :
      (disturbed events).outcome decode server id = (alone events).outcome decode server id :=
    await_eq_of_not_noticed unnoticed foreign
  refine ⟨fun whole => passes fun noticed => ?_, ends, fun same noticed => ?_, fun already => ?_⟩
  · obtain ⟨sender, octets, member, garbled⟩ := noticed.exists_garbled
    exact whole sender octets member garbled
  · exact same.symm.trans (ends noticed)
  · by_cases noticed : Noticed decode server id events
    · exact (ends noticed).trans (already noticed).symm
    · exact passes noticed

/-- An answer without records to the query of this number. -/
def bareAnswer (number : UInt8) : Bytes := [0, number, 0x81, 0x80, 0, 0, 0, 0, 0, 0, 0, 0]

/-- The right number from another port and another number from the server are passed over. -/
theorem Attempt.undisturbed_iff_strangers :
    let events : List Event := [.inserted (.v4 .loopback 54) (bareAnswer 7),
      .inserted (.v4 .loopback 53) (bareAnswer 8),
      .own (.datagram (.v4 .loopback 53) (bareAnswer 7))]
    (∀ sender octets, .inserted sender octets ∈ events →
      Foreign Message.decode? (.v4 .loopback 53) 7 sender octets ∧
      ¬ Garbled Message.decode? (.v4 .loopback 53) sender octets) ∧
    (disturbed events).outcome Message.decode? (.v4 .loopback 53) 7 =
      .ok ⟨7, 0, false, true, true, false, false, [], [], []⟩ := by
  intro events
  have inserted (sender : Endpoint) (octets : Bytes)
      (member : .inserted sender octets ∈ events) :
      Foreign Message.decode? (.v4 .loopback 53) 7 sender octets ∧
      ¬ Garbled Message.decode? (.v4 .loopback 53) sender octets := by
    simp only [events, List.mem_cons, Event.inserted.injEq, reduceCtorEq, List.not_mem_nil,
      or_false] at member
    obtain ⟨rfl, rfl⟩ | ⟨rfl, rfl⟩ := member <;> decide +kernel
  refine ⟨inserted, ?_⟩
  exact ((Attempt.undisturbed_iff Message.decode? (.v4 .loopback 53) 7 events
    fun sender octets member => (inserted sender octets member).1).1
    fun sender octets member => (inserted sender octets member).2).trans (by rfl)

/-- One octet under the server's address, which holds no number at all, ends an exchange whose
answer is on its way. -/
theorem Attempt.garbled_ends_exchange :
    let events : List Event := [.inserted (.v4 .loopback 53) [0xFF],
      .own (.datagram (.v4 .loopback 53) (bareAnswer 7))]
    Foreign Message.decode? (.v4 .loopback 53) 7 (.v4 .loopback 53) [0xFF] ∧
    (alone events).outcome Message.decode? (.v4 .loopback 53) 7 =
      .ok ⟨7, 0, false, true, true, false, false, [], [], []⟩ ∧
    (disturbed events).outcome Message.decode? (.v4 .loopback 53) 7 =
      .error (.exchange "malformed response") :=
  ⟨by decide +kernel, by rfl, by rfl⟩

end LocalProxy.Dns
