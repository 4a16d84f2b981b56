import LocalProxy.Proofs.Api.Auth
import LocalProxy.Proofs.Text.Blanks

/-! Which secrets a client can say as a bearer token. A secret is kept as it was set, while a token
is read out of a header that has to be ASCII text, and loses the blanks around it. -/
namespace LocalProxy.Api

/-- A secret of ASCII characters without blanks at its ends. -/
def Sayable (secret : String) : Prop :=
  (∀ c ∈ secret.toList, c.toNat < 128) ∧ Text.trim secret = secret

/-- The value of a header that says `Bearer`, one blank, and a secret as it is. -/
def bearerValue (secret : String) : Bytes := Text.utf8 ("Bearer " ++ secret)

namespace Request

/-- The value is that of the first `Authorization` header. -/
def Sends (r : Request) (secret : String) : Prop :=
  (r.fieldValues "authorization").head? = some (bearerValue secret)

instance (r : Request) (secret : String) : Decidable (r.Sends secret) :=
  inferInstanceAs (Decidable (_ = _))

/-- A WebSocket is asked for, and the secret is the only `token` of the query. -/
def Queries (r : Request) (secret : String) : Prop :=
  (r.Lists "connection" "upgrade" ∧ r.Lists "upgrade" "websocket") ∧
    (queryPairs r.query).filter (·.1 = "token") = [("token", secret)]

end Request

section Text

variable {s text : String} {value : Bytes}

/-- The text of a header is ASCII. -/
theorem ascii_of_asciiText? (said : asciiText? value = some text) :
    ∀ c ∈ text.toList, c.toNat < 128 := by
  unfold asciiText? at said
  split at said
  case isFalse => cases said
  case isTrue plain =>
    obtain rfl := Option.some.inj said
    intro c member
    rw [String.toList_ofList] at member
    obtain ⟨b, listed, rfl⟩ := List.mem_map.mp member
    have small : b.toNat < 128 := by
      have here := List.all_eq_true.mp plain b listed
      simp only [Bool.or_eq_true, Bool.and_eq_true, decide_eq_true_eq, beq_iff_eq] at here
      rcases here with ⟨-, less⟩ | rfl
      · exact Nat.lt_trans less (by decide)
      · decide
    rw [Char.ofNat, dif_pos (.inl (Nat.lt_trans small (by decide)))]
    exact small

/-- What a header can hold is its text, if it is ASCII. -/
theorem asciiText?_utf8 (sendable : isFieldValue (Text.utf8 s) = true)
    (ascii : ∀ c ∈ s.toList, c.toNat < 128) : asciiText? (Text.utf8 s) = some s := by
  have octets : Text.utf8 s = s.toList.map fun c => UInt8.ofNat c.toNat := by
    rw [Text.utf8_eq, List.map_eq_flatMap]
    exact List.flatMap_congr fun c member => Text.utf8EncodeChar_ascii (ascii c member)
  have small : ∀ b ∈ Text.utf8 s, b < 128 := by
    rw [octets]
    rintro b member
    obtain ⟨c, listed, rfl⟩ := List.mem_map.mp member
    exact Nat.lt_of_le_of_lt (Nat.mod_le _ _) (ascii c listed)
  have plain : (Text.utf8 s).all fun b => (32 ≤ b && b < 127) || b == 9 := by
    refine List.all_eq_true.mpr fun b member => ?_
    have allowed := List.all_eq_true.mp sendable b member
    have less := small b member
    simp only [Bool.or_eq_true, Bool.and_eq_true, decide_eq_true_eq, beq_iff_eq] at allowed ⊢
    grind
  rw [asciiText?, if_pos plain, octets, List.map_map]
  refine congrArg some ?_
  rw [List.map_congr_left (g := id), List.map_id, String.ofList_toList]
  intro c member
  have bound : c.toNat < 256 := Nat.lt_trans (ascii c member) (by decide)
  simp [Nat.mod_eq_of_lt bound]

/-- A token that is said is sayable, whatever the header is. -/
theorem Request.Says.sayable {r : Request} {token : String} (said : r.Says token) :
    Sayable token := by
  obtain ⟨value, -, text, plain, rest, split, rfl⟩ := said
  refine ⟨fun c member => ?_, Text.trim_trim rest⟩
  have listed : c ∈ (Text.trim text).toList := by
    rw [split, String.toList_append]
    exact List.mem_append_right _ (Text.mem_of_mem_trim member)
  exact ascii_of_asciiText? plain c (Text.mem_of_mem_trim listed)

end Text

section Tokens

variable {r : Request} {secret : String}

/-- A secret that is sayable is what its header says. -/
theorem Request.Sends.said (sends : r.Sends secret) (present : secret ≠ "")
    (sendable : isFieldValue (bearerValue secret) = true) (sayable : Sayable secret) :
    r.Says secret := by
  obtain ⟨ascii, bare⟩ := sayable
  have mark : ∀ c ∈ "Bearer ".toList, c.toNat < 128 := by simp
  have plain : asciiText? (bearerValue secret) = some ("Bearer " ++ secret) := by
    refine asciiText?_utf8 sendable fun c member => ?_
    rw [String.toList_append] at member
    exact (List.mem_append.mp member).elim (mark c) (ascii c)
  refine ⟨_, sends, _, plain, secret, Text.trim_eq_self_iff.mpr ⟨?front, ?back⟩, bare⟩
  case front =>
    rw [String.toList_append]
    rfl
  case back =>
    have some : secret.toList ≠ [] := mt String.toList_eq_nil_iff.mp present
    rw [Text.trimEnd_eq_self_iff, String.toList_append]
    intro _
    rw [List.getLast_append_of_ne_nil _ some]
    exact Text.trimEnd_eq_self_iff.mp (Text.trim_eq_self_iff.mp bare).2 some

/-- Whoever knows a secret that cannot be said has it in the query of a WebSocket. -/
theorem Request.Presents.queries (presents : r.Presents secret) (unsayable : ¬ Sayable secret) :
    r.Queries secret := by
  rcases presents with said | ⟨upgrade, -, token⟩
  · exact absurd said.sayable unsayable
  · exact ⟨upgrade, token⟩

end Tokens

variable {σ : Type} {d : Outside σ} {h : Hub σ}

/-- Under a secret that cannot be said, only a WebSocket is let through. -/
theorem respond_unsayable (locked : h.general.secret ≠ "")
    (unsayable : ¬ Sayable h.general.secret) {r : Request} (foreign : r.method ≠ "OPTIONS")
    (unqueried : ¬ r.Queries h.general.secret) : respond d h r = (refusal r, h) := by
  have refused : r.passes h.general.secret = false := by
    rw [← Bool.not_eq_true, Request.passes_iff, not_or]
    exact ⟨locked, fun presents => unqueried (presents.queries unsayable)⟩
  rw [respond, if_neg foreign, answer_refused refused]
  split <;> simp [withoutBody, refusal, Response.problem, unauthorized, *]

/-- Every request that says the secret as it is gets its answer. -/
def OpensBySaying (d : Outside σ) (h : Hub σ) : Prop :=
  ∀ r : Request, r.method ≠ "OPTIONS" → r.Sends h.general.secret →
    respond d h r = unguarded d h r

theorem opensBySaying_iff (locked : h.general.secret ≠ "")
    (sendable : isFieldValue (bearerValue h.general.secret) = true) :
    OpensBySaying d h ↔ Sayable h.general.secret := by
  constructor
  · intro opens
    by_contra unsayable
    let r := versionRequest [("authorization", bearerValue h.general.secret)]
    have sends : r.Sends h.general.secret := by
      simp [r, versionRequest, Request.Sends, Request.fieldValues]
    have unqueried : ¬ r.Queries h.general.secret := fun queries => by
      simpa [r, versionRequest, queryPairs, Text.pieces] using queries.2
    have foreign : r.method ≠ "OPTIONS" := show "GET" ≠ "OPTIONS" by decide
    have refused := respond_unsayable (d := d) locked unsayable foreign unqueried
    have status : (refusal r).status = (unguarded d h r).1.status := by
      rw [← opens r foreign sends, refused]
    exact absurd status (show ¬ (401 = 200) by decide)
  · intro sayable r foreign sends
    have known : r.passes h.general.secret = true :=
      Request.passes_iff.mpr (.inr (.inl (sends.said locked sendable sayable)))
    rw [respond, if_neg foreign, answer_passed known]
    rfl

/-- A secret is in force as it was set. Where it can be sent after `Bearer`, that lets every request
through just if it is ASCII text without blanks at its ends; and any other secret lets nobody through
but who asks for a WebSocket with the secret in its query. -/
theorem secret_opens_iff (d : Outside σ) (h : Hub σ) :
    (∀ c, (h.apply d.toDrivers c).general.secret =
      h.overrides.secret.getD c.general.secret) ∧
    (h.general.secret ≠ "" →
      (isFieldValue (bearerValue h.general.secret) = true →
        (OpensBySaying d h ↔ Sayable h.general.secret)) ∧
      (¬ Sayable h.general.secret → ∀ r : Request, r.method ≠ "OPTIONS" →
        ¬ r.Queries h.general.secret → respond d h r = (refusal r, h))) :=
  ⟨fun _ => rfl, fun locked => ⟨opensBySaying_iff locked, fun unsayable _ foreign unqueried =>
    respond_unsayable locked unsayable foreign unqueried⟩⟩

/-- A hub that was given a secret by its configuration. -/
def lockedBy (secret : String) : Hub Unit :=
  (Hub.create () "config.yaml" {} 1).apply obliging.toDrivers { general := { secret := secret } }

theorem secret_opens_iff_locked :
    let plain := lockedBy "open sesame"
    let spaced := lockedBy " open"
    let r := versionRequest [("authorization", bearerValue " open")]
    plain.general.secret ≠ "" ∧ isFieldValue (bearerValue plain.general.secret) = true ∧
      (OpensBySaying obliging plain ↔ Sayable plain.general.secret) ∧
      spaced.general.secret ≠ "" ∧ ¬ Sayable spaced.general.secret ∧ r.method ≠ "OPTIONS" ∧
      ¬ r.Queries spaced.general.secret ∧ respond obliging spaced r = (refusal r, spaced) := by
  intro plain spaced r
  have locked : plain.general.secret ≠ "" := by decide
  have locked' : spaced.general.secret ≠ "" := by decide
  have sendable : isFieldValue (bearerValue plain.general.secret) = true := by decide +kernel
  have unsayable : ¬ Sayable spaced.general.secret := fun sayable =>
    absurd sayable.2 (by decide +kernel)
  have unqueried : ¬ r.Queries spaced.general.secret := fun queries =>
    absurd queries.2 (by decide +kernel)
  exact ⟨locked, sendable, ((secret_opens_iff obliging plain).2 locked).1 sendable, locked',
    unsayable, by decide, unqueried,
    ((secret_opens_iff obliging spaced).2 locked').2 unsayable r (by decide) unqueried⟩

/-- A secret is sent as it is, and refused where it is asked for. -/
def SentInVain (secret : String) : Prop :=
  let r := versionRequest [("authorization", bearerValue secret)]
  isFieldValue (bearerValue secret) = true ∧ r.Sends (lockedBy secret).general.secret ∧
    (respond obliging (lockedBy secret) r).1.status = 401 ∧
    (unguarded obliging (lockedBy secret) r).1.status = 200

instance (secret : String) : Decidable (SentInVain secret) :=
  inferInstanceAs (Decidable (_ ∧ _))

theorem sent_secrets_refused : SentInVain " open" ∧ SentInVain "open\t" ∧ SentInVain "öffne" := by
  decide +kernel

end LocalProxy.Api
