import LocalProxy.Api.Respond
import LocalProxy.Proofs.Hub.Convergence
import LocalProxy.Proofs.Text.Blanks

/-! Who is let through by the control interface, said of the headers and the query alone, and
that nobody else learns or changes anything. -/
namespace LocalProxy

namespace Api

namespace Request

variable {r : Request} {token secret : String}

/-- The first `Authorization` header says `Bearer` and the token, which may have blanks around it.
A value that is no text says nothing. -/
def Says (r : Request) (token : String) : Prop :=
  ∃ value ∈ (r.fieldValues "authorization").head?, ∃ text ∈ asciiText? value,
    ∃ rest, Text.trim text = "Bearer " ++ rest ∧ Text.trim rest = token

/-- Some element of the header, whatever the case of its letters, is the word. -/
def Lists (r : Request) (header word : String) : Prop :=
  ∃ value ∈ r.fieldValues header, ∃ text ∈ asciiText? value,
    ∃ element ∈ Text.fields ',' text, Text.sameLetters word (Text.trim element)

/-- Who knows the secret: it is the bearer token, or a WebSocket is asked for without one and the
secret is the only `token` of the query. -/
def Presents (r : Request) (secret : String) : Prop :=
  r.Says secret ∨
    (r.Lists "connection" "upgrade" ∧ r.Lists "upgrade" "websocket") ∧
    (∀ token, r.Says token → token = "") ∧
    (queryPairs r.query).filter (·.1 = "token") = [("token", secret)]

theorem bearerToken?_eq_some :
    r.bearerToken? = some token ↔ r.Says token ∧ token ≠ "" := by
  simp only [bearerToken?, Option.bind_eq_bind, Option.bind_eq_some_iff, Text.stripStart_eq_some,
    Option.ite_none_left_eq_some, Option.some.injEq, Says, Option.mem_def]
  constructor
  · rintro ⟨value, first, text, plain, rest, split, present, trimmed⟩
    exact ⟨⟨value, first, text, plain, rest, split, trimmed⟩, trimmed ▸ present⟩
  · rintro ⟨⟨value, first, text, plain, rest, split, trimmed⟩, present⟩
    exact ⟨value, first, text, plain, rest, split, trimmed ▸ present, trimmed⟩

theorem bearerToken?_eq_none : r.bearerToken? = none ↔ ∀ token, r.Says token → token = "" := by
  rw [Option.eq_none_iff_forall_ne_some]
  refine forall_congr' fun token => ?_
  rw [Ne, bearerToken?_eq_some, not_and_not_right]

theorem wantsWebSocket_iff : r.wantsWebSocket = true ↔
    r.Lists "connection" "upgrade" ∧ r.Lists "upgrade" "websocket" := by
  have lists : ∀ header word, (r.elements header).any (Text.sameLetters word) = true ↔
      r.Lists header word := by
    intro header word
    simp only [elements, Lists, List.any_eq_true, List.mem_flatMap, List.mem_filterMap,
      List.mem_map, Option.mem_def]
    constructor
    · rintro ⟨_, ⟨text, ⟨value, member, plain⟩, element, piece, rfl⟩, same⟩
      exact ⟨value, member, text, plain, element, piece, same⟩
    · rintro ⟨value, member, text, plain, element, piece, same⟩
      exact ⟨_, ⟨text, ⟨value, member, plain⟩, element, piece, rfl⟩, same⟩
  rw [wantsWebSocket, Bool.and_eq_true, lists, lists]

theorem queryToken?_eq_some : r.queryToken? = some token ↔
    (queryPairs r.query).filter (·.1 = "token") = [("token", token)] := by
  unfold queryToken? parameter
  cases named : (queryPairs r.query).filter (·.1 = "token") with
  | nil => simp
  | cons pair others =>
    have name : pair.1 = "token" := by
      have member : pair ∈ (queryPairs r.query).filter (·.1 = "token") := by simp [named]
      simpa using (List.mem_filter.mp member).2
    obtain ⟨_, value⟩ := pair
    obtain rfl := name
    cases others <;> simp

/-- Whoever passes presents the secret, or there is none. -/
theorem passes_iff : r.passes secret = true ↔ secret = "" ∨ r.Presents secret := by
  simp only [passes, Bool.or_eq_true, beq_iff_eq]
  refine or_congr_right' fun present => ?_
  have bearer : r.bearerToken? = some secret ↔ r.Says secret :=
    bearerToken?_eq_some.trans (and_iff_left present)
  rw [token?, Presents, ← wantsWebSocket_iff]
  split
  · rename_i upgrade
    rw [Option.or_eq_some_iff, bearer, bearerToken?_eq_none, queryToken?_eq_some]
    exact or_congr_right (iff_and_self.mpr fun _ => upgrade)
  · rename_i plain
    rw [bearer]
    exact (or_iff_left fun both => plain both.1).symm

end Request

/-- A route that does not serve a request says so, with the methods that it does serve. -/
theorem Route.serve?_none {σ : Type} {d : Outside σ} {h : Hub σ} {r : Request} {route : Route}
    (unserved : serve? d h r route = none) : r.method ∉ route.methods := by
  intro listed
  cases route with
  | version | rules | tunnels | logs | traffic | dnsQuery =>
    rcases List.mem_pair.mp listed with method | method <;> simp [serve?, method] at unserved
  | inbounds | connections =>
    simp only [methods, List.mem_cons, List.not_mem_nil, or_false] at listed
    rcases listed with method | method | method <;> simp [serve?, method] at unserved
  | configs =>
    simp only [methods, List.mem_cons, List.not_mem_nil, or_false] at listed
    rcases listed with method | method | method | method <;> simp [serve?, method] at unserved
  | connection id =>
    simp [serve?, List.mem_singleton.mp listed] at unserved

variable {σ : Type}

/-- The answer to who may not pass: it depends on the request alone. -/
def refusal (r : Request) : Response where
  status := 401
  body := if r.method = "HEAD" then .empty else .problem unauthorized.json
  contentType := some "application/problem+json"
  allow := ((Route.ofPath? r.path).filter fun route => r.method ∉ route.methods).map (·.allow)

/-- What the routes answer and do, whoever asks. -/
def unguarded (d : Outside σ) (h : Hub σ) (r : Request) : Response × Hub σ :=
  let served := match Route.ofPath? r.path with
    | none => ({ status := 404 }, h)
    | some route => (serve? d h r route).getD ({ status := 405, allow := some route.allow }, h)
  if r.method = "HEAD" then withoutBody served else served


variable {d : Outside σ} {h : Hub σ} {r : Request}

theorem answer_refused (stranger : r.passes h.general.secret = false) :
    answer d h r = ({ Response.problem unauthorized with allow := (refusal r).allow }, h) := by
  simp [answer, stranger, refusal]

theorem answer_passed (known : r.passes h.general.secret = true) :
    answer d h r = match Route.ofPath? r.path with
      | none => ({ status := 404 }, h)
      | some route =>
        (serve? d h r route).getD ({ status := 405, allow := some route.allow }, h) := by
  simp only [answer, known, if_true]
  cases Route.ofPath? r.path with
  | none => rfl
  | some route =>
    cases served : serve? d h r route with
    | some answered => simp [served]
    | none => simp [served, Route.serve?_none served]

/-- Under a secret, a request that does not present it is refused, whatever else it says: the answer
is the same in every hub, and the hub stays as it is. Else the secret has no part in the answer and
in what is done. -/
theorem respond_guarded (d : Outside σ) (h : Hub σ) (r : Request) (foreign : r.method ≠ "OPTIONS") :
    (h.general.secret ≠ "" → ¬ r.Presents h.general.secret → respond d h r = (refusal r, h)) ∧
      (h.general.secret = "" ∨ r.Presents h.general.secret → respond d h r = unguarded d h r) := by
  constructor
  · intro secret stranger
    have refused : r.passes h.general.secret = false := by
      rw [← Bool.not_eq_true, Request.passes_iff]
      exact not_or.mpr ⟨secret, stranger⟩
    rw [respond, if_neg foreign, answer_refused refused]
    split <;> simp [withoutBody, refusal, Response.problem, unauthorized, *]
  · intro known
    rw [respond, if_neg foreign, answer_passed (Request.passes_iff.mpr known)]
    rfl

/-- A hub under a secret, and what is asked of it with and without a token. -/
def guardedHub : Hub Unit :=
  { Hub.create () "config.yaml" {} 1 with general := { secret := "sesame" } }

def versionRequest (headers : List (String × Bytes)) : Request where
  method := "GET"
  path := "/version"
  query := none
  headers := headers
  body := []

theorem respond_guarded_version :
    (versionRequest []).method ≠ "OPTIONS" ∧ guardedHub.general.secret ≠ "" ∧
      respond obliging guardedHub (versionRequest []) =
        (refusal (versionRequest []), guardedHub) ∧
      let r := versionRequest [("authorization", Text.utf8 " Bearer sesame ")]
      r.Presents guardedHub.general.secret ∧
        respond obliging guardedHub r = unguarded obliging guardedHub r := by
  have stranger : ¬ (versionRequest []).Presents "sesame" := fun presents =>
    absurd (Request.passes_iff.mpr (.inr presents)) (by decide +kernel)
  have known :
      (versionRequest [("authorization", Text.utf8 " Bearer sesame ")]).Presents "sesame" :=
    (Request.passes_iff.mp (by decide +kernel)).resolve_left (by decide)
  exact ⟨by decide, by decide,
    (respond_guarded obliging guardedHub _ (by decide)).1 (by decide) stranger, known,
    (respond_guarded obliging guardedHub _ (by decide)).2 (.inr known)⟩

end Api

end LocalProxy
