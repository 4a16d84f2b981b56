import LocalProxy.Proofs.Api.Auth

/-! What a request leaves behind that is answered with an error: the hub as it was. Every check
of a request comes before the first thing that is done for it. -/
namespace LocalProxy.Api

variable {σ : Type} {d : Outside σ} {h : Hub σ} {r : Request}

/-- A hub for which nothing was done: records may have been written, and the resolver that is
installed may have asked its nameservers. -/
inductive Spared (d : Outside σ) (h : Hub σ) : Hub σ → Prop
  | logged (records : List Record) :
      Spared d h { h with manager :=
        { h.manager with records := h.manager.records ++ records } }
  | asked (resolver : Dns.Resolver) (query : Dns.Query) (records : List Record)
      (installed : h.resolver = some resolver) :
      Spared d h { h with manager :=
        { h.manager with
          outside := (d.exchange resolver query h.manager.outside).2
          records := h.manager.records ++ records } }

/-- An answer is a good one, or it turns the request down: it opens no stream then, and the hub is
spared. -/
inductive Fair (d : Outside σ) (h : Hub σ) : Response × Hub σ → Prop
  | good {response : Response} {after : Hub σ} (fine : response.status < 400) :
      Fair d h (response, after)
  | refused {response : Response} {after : Hub σ} (closed : response.body.stream? = none)
      (spared : Spared d h after) : Fair d h (response, after)

theorem Spared.nothing : Spared d h h := by
  have logged := Spared.logged (d := d) (h := h) []
  rwa [List.append_nil] at logged

/-- Whoever is turned down at once has done nothing. -/
theorem Fair.at_once {response : Response} (closed : response.body.stream? = none) :
    Fair d h (response, h) := .refused closed .nothing

theorem Fair.spared {answer : Response × Hub σ} (fair : Fair d h answer)
    (bad : 400 ≤ answer.1.status) : Spared d h answer.2 := by
  cases fair with
  | good fine => exact absurd fine (Nat.not_lt.mpr bad)
  | refused _ spared => exact spared

section Statuses

variable {after : Hub σ}

theorem Fair.json (value : Json) : Fair d h (.json value, after) := .good (by decide : 200 < 400)

theorem Fair.done : Fair d h (.done, after) := .good (by decide)

theorem Fair.webSocket (s : Stream) : Fair d h (.webSocket s, after) :=
  .good (by decide : 101 < 400)

theorem Fair.openStream (s : Stream) : Fair d h (openStream r s, after) := by
  unfold Api.openStream
  split
  · exact .webSocket s
  · exact .good (by decide : 200 < 400)

end Statuses

theorem BodyFault.closed (fault : BodyFault) : fault.response.body.stream? = none := by
  rcases fault with _ | _ | fault
  · rfl
  · rfl
  · cases fault <;> rfl

theorem patchConfigs_fair : Fair d h (patchConfigs d.toDrivers h r) := by
  unfold patchConfigs
  split
  · rename_i fault _
    exact .at_once fault.closed
  · exact .json _

/-- A file that is no configuration is found out before anything is applied. -/
theorem reloadConfigs_fair : Fair d h (reloadConfigs d h) := by
  unfold reloadConfigs Hub.reload
  cases h.readConfig d with
  | ok c => exact .done
  | error fault =>
    cases fault with
    | unreadable path reason => exact .refused rfl (.logged _)
    | emptyFile | unparsable | invalid => exact .at_once rfl

/-- One bad type in the list is enough, wherever it stands. -/
theorem replaceInbounds_fair : Fair d h (replaceInbounds d.toDrivers h r) := by
  unfold replaceInbounds
  split
  · rename_i fault _
    exact .at_once fault.closed
  · split
    · exact .at_once rfl
    · exact .json _

theorem streamLogs_fair : Fair d h (streamLogs h r) := by
  unfold streamLogs
  cases r.parameter "level" with
  | repeated => exact .at_once rfl
  | absent => exact .openStream _
  | value s =>
    cases parsed : Level.parse s with
    | ok level => simpa only [parsed] using .openStream _
    | error name => simpa only [parsed] using .at_once rfl

theorem streamTraffic_fair : Fair d h (streamTraffic h r) := .openStream _

theorem getConnections_fair : Fair d h (getConnections h r) := by
  unfold getConnections
  split
  · exact .at_once rfl
  · split
    · exact .webSocket _
    · exact .json _

theorem closeConnection_fair (part : String) : Fair d h (closeConnection h part) := by
  unfold closeConnection
  split
  · exact .at_once rfl
  · dsimp only
    split
    · exact .at_once rfl
    · split
      · exact .done
      · exact .at_once rfl

/-- A query that fails is at most recorded. -/
theorem resolveFault_eq (h : Hub σ) (fault : Dns.ResolveFault) : ∃ response records,
    response.body.stream? = none ∧ resolveFault h fault = (response, { h with manager :=
      { h.manager with records := h.manager.records ++ records } }) := by
  cases fault with
  | recordType | name => exact ⟨_, [], rfl, by rw [List.append_nil]; rfl⟩
  | exchange | timeout => exact ⟨_, _, rfl, rfl⟩

theorem probe_fair {resolver : Dns.Resolver} (installed : h.resolver = some resolver)
    (name type : String) : Fair d h (probe d h resolver name type) := by
  unfold probe
  split
  · rename_i fault _
    obtain ⟨response, records, closed, answered⟩ := resolveFault_eq h fault
    rw [answered]
    exact .refused closed (.logged records)
  · rename_i query _
    dsimp only
    split
    · exact .json _
    · rename_i fault _
      obtain ⟨response, records, closed, answered⟩ := resolveFault_eq
        { h with manager := { h.manager with
          outside := (d.exchange resolver query h.manager.outside).2
          records := h.manager.records ++
            (d.failures resolver query h.manager.outside).map nameserverFailed } } fault
      rw [answered]
      simp only [List.append_assoc]
      exact .refused closed (.asked resolver query _ installed)

theorem queryDns_fair : Fair d h (queryDns d h r) := by
  unfold queryDns
  split
  · exact .at_once rfl
  · split
    · exact .at_once rfl
    · rename_i resolver installed
      exact probe_fair installed _ _
  · exact .at_once rfl

/-- Of each route and method. -/
theorem serve?_fair {route : Route} {answer : Response × Hub σ}
    (served : serve? d h r route = some answer) : Fair d h answer := by
  unfold serve? at served
  dsimp only at served
  split at served <;> cases served
  · exact .json _
  · exact .json _
  · exact patchConfigs_fair
  · exact reloadConfigs_fair
  · exact .json _
  · exact replaceInbounds_fair
  · exact .json _
  · exact .json _
  · exact streamLogs_fair
  · exact streamTraffic_fair
  · exact getConnections_fair
  · exact .done
  · exact closeConnection_fair _
  · exact queryDns_fair

theorem answer_fair : Fair d h (answer d h r) := by
  by_cases known : r.passes h.general.secret = true
  · rw [answer_passed known]
    cases Route.ofPath? r.path with
    | none => exact .at_once rfl
    | some route =>
      dsimp only
      cases served : serve? d h r route with
      | none => exact .at_once rfl
      | some answered => exact serve?_fair served
  · rw [answer_refused (Bool.eq_false_iff.mpr known)]
    exact .at_once rfl

/-- Without its body a refusal still does nothing, as there is no stream in it to give up. -/
theorem Fair.withoutBody {answer : Response × Hub σ} (fair : Fair d h answer) :
    Fair d h (withoutBody answer) := by
  cases fair with
  | good fine => exact .good fine
  | @refused response after closed spared =>
    obtain ⟨_, body, _, _, _⟩ := response
    cases body with
    | lines s | webSocket s => cases closed
    | empty | json | problem | text => exact .refused rfl spared

/-- A request that is answered with an error leaves the hub as it is: listeners, tunnels, settings,
rules, resolver, connections and subscribers, and no listener was opened or closed for it. Only
records may have been written, and nameservers asked that did not give an answer. -/
theorem respond_spares (d : Outside σ) (h : Hub σ) (r : Request)
    (refused : 400 ≤ (respond d h r).1.status) : Spared d h (respond d h r).2 := by
  refine Fair.spared ?_ refused
  unfold respond
  split
  · exact .good (by decide : 200 < 400)
  · split
    · exact answer_fair.withoutBody
    · exact answer_fair

/-- Asks for a list of inbounds of which the last has no known type. -/
def inboundsRequest : Request where
  method := "PUT"
  path := "/inbounds"
  query := none
  headers := [("content-type", Text.utf8 "application/json")]
  body := Text.utf8 (Json.text (.arr
    [InboundBody.json ⟨"http", ":8080"⟩, InboundBody.json ⟨"ftp", ":8021"⟩]))

theorem respond_spares_inbounds :
    let h : Hub Unit := .create () "config.yaml" {} 1
    (respond obliging h inboundsRequest).1.status = 400 ∧
      Spared obliging h (respond obliging h inboundsRequest).2 := by
  intro h
  have status : (respond obliging h inboundsRequest).1.status = 400 := by decide +kernel
  exact ⟨status, respond_spares obliging h inboundsRequest (Nat.le_of_eq status.symm)⟩

end LocalProxy.Api
