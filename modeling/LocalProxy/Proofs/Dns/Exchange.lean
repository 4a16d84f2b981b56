import LocalProxy.Proofs.Dns.Awaiting

/-! Which nameserver's answer an exchange gives. An attempt is ended by the first arrival that is not
passed over, and the exchange by the first attempt that ends with an answer. Main statement:
`Resolver.first_answer_counts`. -/
namespace LocalProxy.Dns

section Ending
variable (decode : Bytes → Option Message) (server : Endpoint) (id : UInt16)

/-- A datagram that leaves the wait as it is: another sender's, or a message with another number. -/
inductive PassedOver : Arrival → Prop
  | stranger {sender : Endpoint} {octets : Bytes} (other : sender ≠ server) :
      PassedOver (.datagram sender octets)
  | unasked {octets : Bytes} {m : Message} (reads : decode (octets.take maxResponse) = some m)
      (number : m.id ≠ id) : PassedOver (.datagram server octets)

/-- How an attempt ends, told by what reaches it first and is not passed over. -/
inductive Ends : Attempt → Except ResolveFault Message → Prop
  | unsent {reason : String} : Ends (.unsent reason) (.error (.exchange reason))
  | answered {before after : List Arrival} {octets : Bytes} {m : Message}
      (passed : ∀ a ∈ before, PassedOver decode server id a)
      (reads : decode (octets.take maxResponse) = some m) (number : m.id = id) :
      Ends (.sent (before ++ .datagram server octets :: after)) (.ok m)
  | malformed {before after : List Arrival} {octets : Bytes}
      (passed : ∀ a ∈ before, PassedOver decode server id a)
      (unreadable : decode (octets.take maxResponse) = none) :
      Ends (.sent (before ++ .datagram server octets :: after))
        (.error (.exchange "malformed response"))
  | failed {before after : List Arrival} {reason : String}
      (passed : ∀ a ∈ before, PassedOver decode server id a) :
      Ends (.sent (before ++ .failure reason :: after)) (.error (.exchange reason))
  | silent {arrivals : List Arrival} (passed : ∀ a ∈ arrivals, PassedOver decode server id a) :
      Ends (.sent arrivals) (.error .timeout)

variable {decode server id}

theorem PassedOver.verdict? {a : Arrival} (passed : PassedOver decode server id a) :
    a.verdict? decode server id = none := by
  cases passed with
  | stranger other => simp [Arrival.verdict?, other]
  | unasked reads number => simp [Arrival.verdict?, reads, number]

theorem await_passed {before : List Arrival} (passed : ∀ a ∈ before, PassedOver decode server id a)
    (rest : List Arrival) : await decode server id (before ++ rest) = await decode server id rest := by
  induction before with
  | nil => rfl
  | cons a before ih =>
    obtain ⟨here, later⟩ := List.forall_mem_cons.mp passed
    rw [List.cons_append, await_cons, here.verdict?, Option.getD_none, ih later]

/-- What is passed over may come first. -/
theorem Ends.cons {a : Arrival} {arrivals : List Arrival} {result : Except ResolveFault Message}
    (ends : Ends decode server id (.sent arrivals) result) (passed : PassedOver decode server id a) :
    Ends decode server id (.sent (a :: arrivals)) result := by
  cases ends with
  | answered before reads number =>
    exact .answered (List.forall_mem_cons.mpr ⟨passed, before⟩) reads number
  | malformed before unreadable =>
    exact .malformed (List.forall_mem_cons.mpr ⟨passed, before⟩) unreadable
  | failed before => exact .failed (List.forall_mem_cons.mpr ⟨passed, before⟩)
  | silent before => exact .silent (List.forall_mem_cons.mpr ⟨passed, before⟩)

theorem ends_await (arrivals : List Arrival) :
    Ends decode server id (.sent arrivals) (await decode server id arrivals) := by
  have none : ∀ a ∈ ([] : List Arrival), PassedOver decode server id a := by simp
  induction arrivals with
  | nil => exact .silent none
  | cons a rest ih =>
    cases a with
    | failure reason => exact .failed none
    | datagram sender octets =>
      by_cases own : sender = server
      · subst own
        cases reads : decode (octets.take maxResponse) with
        | none =>
          simp only [await, reads, ne_eq, not_true_eq_false, if_false]
          exact .malformed none reads
        | some m =>
          simp only [await, reads, ne_eq, not_true_eq_false, if_false]
          by_cases number : m.id = id
          · rw [if_pos number]
            exact .answered none reads number
          · rw [if_neg number]
            exact ih.cons (.unasked reads number)
      · simp only [await, ne_eq, own, not_false_eq_true, if_true]
        exact ih.cons (.stranger own)

/-- An attempt ends in just one way. -/
theorem outcome_eq_iff {attempt : Attempt} {result : Except ResolveFault Message} :
    attempt.outcome decode server id = result ↔ Ends decode server id attempt result := by
  constructor
  · rintro rfl
    cases attempt with
    | unsent reason => exact .unsent
    | sent arrivals => exact ends_await arrivals
  · intro ends
    cases ends with
    | unsent => rfl
    | answered passed reads number => simp [Attempt.outcome, await_passed passed, await, reads, number]
    | malformed passed unreadable => simp [Attempt.outcome, await_passed passed, await, unreadable]
    | failed passed => simp [Attempt.outcome, await_passed passed, await]
    | silent passed =>
      have waited := await_passed passed []
      rwa [List.append_nil] at waited

end Ending

/-- Something that reaches a port of this machine. -/
structure Delivery where
  port : UInt16
  arrival : Arrival
deriving DecidableEq, Repr

/-- What goes on while one attempt lasts: its query could not be sent, or it was sent from a port of
its own, and this is what reaches the machine's ports until the time is over. -/
inductive Period
  | unsent (reason : String)
  | sent (port : UInt16) (deliveries : List Delivery)
deriving DecidableEq, Repr

/-- What the attempt's own socket sees of it. -/
def Period.attempt : Period → Attempt
  | unsent reason => .unsent reason
  | sent port deliveries => .sent ((deliveries.filter (·.port = port)).map Delivery.arrival)

/-- What a server sends, or a failure of the socket itself. -/
def Arrival.isFrom (server : Endpoint) : Arrival → Bool
  | .failure _ => true
  | .datagram sender _ => sender = server

/-- The period with nothing in it but what is meant for this attempt at this server. -/
def Period.meant (server : Endpoint) : Period → Period
  | unsent reason => unsent reason
  | sent port deliveries =>
    .sent port (deliveries.filter fun d => d.port = port && d.arrival.isFrom server)

/-- A script for the attempts in their order. It is noted which servers are contacted. -/
def contactIn (script : Nat → Period) (server : Endpoint) (contacted : List Endpoint) :
    Attempt × List Endpoint :=
  ((script contacted.length).attempt, contacted ++ [server])

section Asking
variable (decode : Bytes → Option Message) (id : UInt16)

/-- Each of these servers fails when its turn comes. -/
def AllFail (script : Nat → Period) (servers : List Endpoint) : Prop :=
  ∀ k server, servers[k]? = some server →
    ∃ fault, Ends decode server id (script k).attempt (.error fault)

/-- What comes of asking the servers in order, and which of them are contacted for it. -/
inductive Settled (script : Nat → Period) (last : ResolveFault) :
    List Endpoint → Except ResolveFault Message × List Endpoint → Prop
  | nobody : Settled script last [] (.error last, [])
  | answered (before after : List Endpoint) {server : Endpoint} {m : Message}
      (earlier : AllFail decode id script before)
      (answer : Ends decode server id (script before.length).attempt (.ok m)) :
      Settled script last (before ++ server :: after) (.ok m, before ++ [server])
  | failed (before : List Endpoint) {server : Endpoint} {fault : ResolveFault}
      (earlier : AllFail decode id script before)
      (failure : Ends decode server id (script before.length).attempt (.error fault)) :
      Settled script last (before ++ [server]) (.error fault, before ++ [server])

variable {decode id} {script : Nat → Period} {last fault : ResolveFault} {server : Endpoint}
  {servers before rest contacted : List Endpoint}

theorem allFail_nil : AllFail decode id script [] := by
  simp [AllFail]

theorem allFail_cons : AllFail decode id script (server :: rest) ↔
    (∃ fault, Ends decode server id (script 0).attempt (.error fault)) ∧
      AllFail decode id (fun k => script (k + 1)) rest := by
  constructor
  · exact fun all => ⟨all 0 server rfl, fun k other here => all (k + 1) other here⟩
  · rintro ⟨first, others⟩ (_ | k) other here
    · obtain rfl : server = other := by simpa using here
      exact first
    · exact others k other here

/-- One more server in front, which fails. -/
theorem Settled.cons {result : Except ResolveFault Message}
    (settled : Settled decode id (fun k => script (k + 1)) fault rest (result, contacted))
    (failure : Ends decode server id (script 0).attempt (.error fault)) :
    Settled decode id script last (server :: rest) (result, server :: contacted) := by
  cases settled with
  | nobody => exact .failed [] allFail_nil failure
  | answered before after earlier answer =>
    exact .answered (server :: before) after (allFail_cons.mpr ⟨⟨fault, failure⟩, earlier⟩) answer
  | failed before earlier final =>
    exact .failed (server :: before) (allFail_cons.mpr ⟨⟨fault, failure⟩, earlier⟩) final

theorem exchangeFrom_cons (script : Nat → Period) (server : Endpoint) (rest contacted : List Endpoint) :
    exchangeFrom decode (contactIn script) id last (server :: rest) contacted =
      match (script contacted.length).attempt.outcome decode server id with
      | .ok m => (.ok m, contacted ++ [server])
      | .error fault =>
        exchangeFrom decode (contactIn script) id fault rest (contacted ++ [server]) := rfl

/-- Servers that fail are contacted, and the exchange goes on behind them. -/
theorem exchangeFrom_failing (last : ResolveFault) (contacted rest : List Endpoint)
    (failing : AllFail decode id (fun k => script (contacted.length + k)) before) :
    ∃ fault, exchangeFrom decode (contactIn script) id last (before ++ rest) contacted =
      exchangeFrom decode (contactIn script) id fault rest (contacted ++ before) := by
  induction before generalizing last contacted with
  | nil => exact ⟨last, by simp⟩
  | cons server before ih =>
    obtain ⟨⟨fault, failure⟩, others⟩ := allFail_cons.mp failing
    have failed : (script contacted.length).attempt.outcome decode server id = .error fault :=
      outcome_eq_iff.mpr failure
    obtain ⟨final, goesOn⟩ := ih fault (contacted ++ [server])
      (by simpa [Nat.add_assoc, Nat.add_comm 1] using others)
    exact ⟨final, by simpa [exchangeFrom_cons, failed] using goesOn⟩

theorem exchangeFrom_settled (decode : Bytes → Option Message) (id : UInt16)
    (script : Nat → Period) (last : ResolveFault) (servers contacted : List Endpoint) :
    ∃ asked result, exchangeFrom decode (contactIn script) id last servers contacted =
        (result, contacted ++ asked) ∧
      Settled decode id (fun k => script (contacted.length + k)) last servers (result, asked) := by
  -- The script goes on where the servers contacted so far have left it.
  induction servers generalizing last contacted with
  | nil => exact ⟨[], _, by simp [exchangeFrom], .nobody⟩
  | cons server rest ih =>
    have ended := outcome_eq_iff.mp (Eq.refl ((script contacted.length).attempt.outcome decode server id))
    rw [exchangeFrom_cons]
    cases outcome : (script contacted.length).attempt.outcome decode server id with
    | ok m =>
      rw [outcome] at ended
      exact ⟨[server], _, rfl, .answered [] rest allFail_nil ended⟩
    | error fault =>
      rw [outcome] at ended
      obtain ⟨asked, result, goesOn, settled⟩ := ih fault (contacted ++ [server])
      refine ⟨server :: asked, result, by simpa using goesOn, .cons ?_ ended⟩
      simpa [Nat.add_assoc, Nat.add_comm 1] using settled

theorem Settled.exchangeFrom_eq {result : Except ResolveFault Message × List Endpoint}
    (settled : Settled decode id script last servers result) :
    exchangeFrom decode (contactIn script) id last servers [] = result := by
  cases settled with
  | nobody => rfl
  | @answered before after server m earlier answer =>
    obtain ⟨fault, behind⟩ := exchangeFrom_failing last [] (server :: after)
      (by simpa using earlier)
    simp [behind, exchangeFrom_cons, outcome_eq_iff.mpr answer]
  | @failed before server final earlier failure =>
    obtain ⟨fault, behind⟩ := exchangeFrom_failing last [] [server] (by simpa using earlier)
    rw [behind, List.nil_append, exchangeFrom_cons, outcome_eq_iff.mpr failure]
    rfl

/-- There is one way in which the exchange comes out. -/
theorem exchangeFrom_eq_iff {result : Except ResolveFault Message × List Endpoint} :
    exchangeFrom decode (contactIn script) id last servers [] = result ↔
      Settled decode id script last servers result := by
  constructor
  · rintro rfl
    obtain ⟨asked, result, comes, settled⟩ := exchangeFrom_settled decode id script last servers []
    simpa [comes] using settled
  · exact Settled.exchangeFrom_eq

theorem await_isFrom (arrivals : List Arrival) :
    await decode server id (arrivals.filter (·.isFrom server)) = await decode server id arrivals := by
  induction arrivals with
  | nil => rfl
  | cons a rest ih =>
    by_cases own : a.isFrom server
    · rw [List.filter_cons_of_pos own, await_cons, await_cons, ih]
    · have passed : PassedOver decode server id a := by
        cases a with
        | failure => exact absurd rfl own
        | datagram sender octets => exact .stranger (by simpa [Arrival.isFrom] using own)
      rw [List.filter_cons_of_neg own, await_cons, passed.verdict?, Option.getD_none, ih]

/-- What is not meant for the attempt does not change how it ends. -/
theorem Period.outcome_meant (period : Period) :
    (period.meant server).attempt.outcome decode server id =
      period.attempt.outcome decode server id := by
  cases period with
  | unsent => rfl
  | sent port deliveries =>
    have seen : ((Period.sent port deliveries).meant server).attempt =
        .sent (((deliveries.filter (·.port = port)).map Delivery.arrival).filter
          (·.isFrom server)) := by
      simp [Period.meant, Period.attempt, List.filter_map, List.filter_filter, Bool.and_comm]
    rw [seen]
    exact await_isFrom _

theorem exchangeFrom_congr {others : Nat → Period}
    (alike : ∀ k server, servers[k]? = some server →
      (others (contacted.length + k)).meant server = (script (contacted.length + k)).meant server) :
    exchangeFrom decode (contactIn others) id last servers contacted =
      exchangeFrom decode (contactIn script) id last servers contacted := by
  induction servers generalizing last contacted with
  | nil => rfl
  | cons server rest ih =>
    have first : (others contacted.length).attempt.outcome decode server id =
        (script contacted.length).attempt.outcome decode server id := by
      have same : (others contacted.length).meant server = (script contacted.length).meant server :=
        alike 0 server rfl
      rw [← Period.outcome_meant, same, Period.outcome_meant]
    rw [exchangeFrom_cons, exchangeFrom_cons, first]
    cases (script contacted.length).attempt.outcome decode server id with
    | ok m => rfl
    | error fault =>
      refine ih fun k other here => ?_
      simpa [Nat.add_assoc, Nat.add_comm 1] using alike (k + 1) other here

/-- Where the network does the same whenever a server is contacted, so does a script that has its
attempts in the order of the servers. -/
theorem exchangeFrom_network {network : Endpoint → Attempt}
    (scripted : ∀ k server, servers[k]? = some server →
      (script (contacted.length + k)).attempt = network server) :
    (exchangeFrom decode (fun server _ => (network server, ())) id last servers ()).1 =
      (exchangeFrom decode (contactIn script) id last servers contacted).1 := by
  induction servers generalizing last contacted with
  | nil => rfl
  | cons server rest ih =>
    have first : (script contacted.length).attempt = network server := scripted 0 server rfl
    rw [exchangeFrom_cons, first, exchangeFrom]
    dsimp only
    cases (network server).outcome decode server id with
    | ok m => rfl
    | error fault =>
      refine ih fun k other here => ?_
      simpa [Nat.add_assoc, Nat.add_comm 1] using scripted (k + 1) other here

/-- How an exchange comes out, told by the servers that failed in it, each by a fault of its own: the
next one has answered, or there is none and the last fault counts. -/
def ToldBy (decode : Bytes → Option Message) (id : UInt16) (network : Endpoint → Attempt)
    (last : ResolveFault) (servers : List Endpoint) (failed : List (Endpoint × ResolveFault)) :
    Except ResolveFault Message → Prop
  | .ok m => ∃ server after, servers = failed.map Prod.fst ++ server :: after ∧
      (network server).outcome decode server id = .ok m
  | .error fault => servers = failed.map Prod.fst ∧
      fault = (failed.getLast?.map Prod.snd).getD last

theorem exchangeFrom_toldBy (network : Endpoint → Attempt) (last : ResolveFault)
    (servers : List Endpoint) :
    let failed := failuresFrom decode (fun server _ => (network server, ())) id servers ()
    (∀ x ∈ failed, (network x.1).outcome decode x.1 id = .error x.2) ∧
      ToldBy decode id network last servers failed
        (exchangeFrom decode (fun server _ => (network server, ())) id last servers ()).1 := by
  induction servers generalizing last with
  | nil => simp [failuresFrom, exchangeFrom, ToldBy]
  | cons server rest ih =>
    dsimp only at ih ⊢
    rw [exchangeFrom, failuresFrom]
    dsimp only
    cases outcome : (network server).outcome decode server id with
    | ok m => exact ⟨by simp, server, rest, rfl, outcome⟩
    | error fault =>
      obtain ⟨own, told⟩ := ih fault
      refine ⟨List.forall_mem_cons.mpr ⟨outcome, own⟩, ?_⟩
      generalize failuresFrom decode (fun server _ => (network server, ())) id rest () = failed at told
      cases comes : (exchangeFrom decode (fun server _ => (network server, ())) id fault rest ()).1 with
      | ok m =>
        rw [comes] at told
        obtain ⟨next, after, split, answer⟩ := told
        exact ⟨next, after, by rw [split]; rfl, answer⟩
      | error final =>
        rw [comes] at told
        obtain ⟨all, counts⟩ := told
        refine ⟨congrArg (server :: ·) all, counts.trans ?_⟩
        rw [List.getLast?_cons]
        cases failed.getLast? <;> rfl

end Asking

/-- The nameservers that are noted as failed are those that were asked without an answer, each with
its own fault, and the last of these is what a failed exchange reports. -/
theorem Resolver.failures_told (r : Resolver) (network : Endpoint → Attempt) (id : UInt16) :
    (∀ x ∈ r.failures network id,
      (network x.1).outcome Message.decode? x.1 id = .error x.2) ∧
      ToldBy Message.decode? id network (.exchange "no nameserver configured") r.nameservers
        (r.failures network id) (r.exchange network id) :=
  exchangeFrom_toldBy network _ r.nameservers

theorem Resolver.exchange_eq_ask {r : Resolver} {network : Endpoint → Attempt} {id : UInt16}
    {script : Nat → Period} (scripted : ∀ k server, r.nameservers[k]? = some server →
      (script k).attempt = network server) :
    r.exchange network id = (r.ask Message.decode? (contactIn script) id []).1 :=
  exchangeFrom_network (by simpa using scripted)

/-- Whatever goes on while the nameservers are asked, in their order: the exchange gives the answer of
the first of them that does not fail and contacts none behind it, it gives the last failure if all
fail, and nothing that reaches another port or comes from another address makes a difference. -/
theorem Resolver.first_answer_counts (r : Resolver) (decode : Bytes → Option Message) (id : UInt16)
    (script : Nat → Period) :
    (∀ result, r.ask decode (contactIn script) id [] = result ↔
      Settled decode id script (.exchange "no nameserver configured") r.nameservers result) ∧
    ∀ others : Nat → Period,
      (∀ k server, r.nameservers[k]? = some server →
        (others k).meant server = (script k).meant server) →
      r.ask decode (contactIn others) id [] = r.ask decode (contactIn script) id [] :=
  ⟨fun _ => exchangeFrom_eq_iff, fun _ alike => exchangeFrom_congr (by simpa using alike)⟩

end LocalProxy.Dns
