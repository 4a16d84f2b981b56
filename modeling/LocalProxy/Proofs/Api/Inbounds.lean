import LocalProxy.Proofs.Api.Auth
import LocalProxy.Proofs.Hub.Replacement
import LocalProxy.Proofs.Json.Roundtrip
import LocalProxy.Proofs.Text.Ports

/-! The inbounds as clients read and write them. What is read can be written back, and then nothing
is done; and whatever is written, what is read next is what was written and did not fail. -/
namespace LocalProxy

theorem InboundType.lower_trim_name (t : InboundType) : Text.lower (Text.trim t.name) = t.name := by
  cases t <;> decide +kernel

theorem InboundType.parse_eq_ok {s : String} {t : InboundType} :
    parse s = .ok t ↔ Text.lower (Text.trim s) = t.name ∨
      t = .socks ∧ Text.lower (Text.trim s) = "socks5" := by
  unfold parse
  generalize Text.lower (Text.trim s) = word
  constructor
  · split <;> rintro ⟨⟩ <;> simp [name]
  · rintro (rfl | ⟨rfl, rfl⟩)
    · cases t <;> rfl
    · rfl

namespace Api

namespace InboundBody

/-- The explicit inbound that a body asks for. `socks5` is another name of `socks`. -/
structure Means (b : InboundBody) (spec : InboundSpec) : Prop where
  type : Text.lower (Text.trim b.type) = spec.type.name ∨
    spec.type = .socks ∧ Text.lower (Text.trim b.type) = "socks5"
  address : spec.bindAddress = b.bindAddress
  explicit : spec.legacy = false

theorem spec_eq_ok {b : InboundBody} {spec : InboundSpec} : b.spec = .ok spec ↔ b.Means spec := by
  obtain ⟨type, address, legacy⟩ := spec
  have typed : b.Means ⟨type, address, legacy⟩ ↔
      InboundType.parse b.type = .ok type ∧ address = b.bindAddress ∧ legacy = false :=
    ⟨fun ⟨named, same, own⟩ => ⟨InboundType.parse_eq_ok.mpr named, same, own⟩,
      fun ⟨parsed, same, own⟩ => ⟨InboundType.parse_eq_ok.mp parsed, same, own⟩⟩
  rw [typed, InboundBody.spec]
  cases InboundType.parse b.type with
  | error name => simp [Except.map]
  | ok t => simp [Except.map, eq_comm]

/-- What is listed for an explicit inbound asks for it. -/
theorem means_ofSpec {spec : InboundSpec} (explicit : spec.legacy = false) :
    (ofSpec spec).Means spec where
  type := .inl spec.type.lower_trim_name
  address := rfl
  explicit := explicit

/-- A body is read back as it is written. -/
theorem takes (b : InboundBody) : Json.Takes reader b (Text.utf8 b.json.text) := by
  let inner := fun later : Bytes =>
    Json.comma true ++ Text.utf8 (Json.quote "type") ++ 0x3A :: (Text.utf8 (Json.quote b.type) ++
      (Json.comma false ++ Text.utf8 (Json.quote "bind-address") ++ 0x3A ::
        (Text.utf8 (Json.quote b.bindAddress) ++ 0x7D :: later)))
  have written : ∀ later, Text.utf8 b.json.text ++ later = 0x7B :: inner later := by
    have marks : Text.utf8 "\x7b" = [0x7B] ∧ Text.utf8 "\x7d" = [0x7D] ∧ Text.utf8 ":" = [0x3A] ∧
        Text.utf8 "," = [0x2C] := by
      decide
    intro later
    simp [json, Json.text, Json.memberTexts, Text.utf8_append, marks, inner, Json.comma]
  refine ⟨⟨0x7B, inner [], (List.append_nil _).symm.trans (written []), rfl, by decide⟩,
    fun later => ?_⟩
  have read : Json.membersFrom members ((inner later).length + 1) true [] ⟨"", ""⟩ (inner later) =
      .ok ((b, ["bind-address", "type"]), later) := by
    obtain ⟨fuel, long⟩ : ∃ fuel, (inner later).length + 1 = fuel + 1 + 1 + 1 := by
      refine ⟨(inner later).length - 2, ?_⟩
      simp only [inner, List.length_append, List.length_cons]
      omega
    have type := (Json.takes_string b.type).takes
    have address := (Json.takes_string b.bindAddress).takes
    rw [long, Json.membersFrom_known ⟨b.type, ""⟩ rfl List.not_mem_nil fun _ => by rw [type]; rfl,
      Json.membersFrom_known b rfl (by decide) fun _ => by rw [address]; rfl,
      Json.membersFrom_close]
  rw [written]
  exact Json.readRecord_members read (by decide)

/-- So are several. -/
theorem takes_all (bodies : List InboundBody) :
    Json.Takes (Json.readList reader) bodies (Text.utf8 (Json.arr (bodies.map json)).text) :=
  Json.takes_list fun b _ => b.takes

/-- Bodies that all mean something mean some inbounds together. -/
theorem exists_specs {bodies : List InboundBody} (known : ∀ b ∈ bodies, ∃ spec, b.Means spec) :
    ∃ specs, bodies.mapM InboundBody.spec = .ok specs ∧
      ∀ spec, spec ∈ specs ↔ ∃ b ∈ bodies, b.Means spec := by
  induction bodies with
  | nil => exact ⟨[], rfl, by simp⟩
  | cons b bodies ih =>
    obtain ⟨⟨first, means⟩, later⟩ := List.forall_mem_cons.mp known
    obtain ⟨specs, read, mem⟩ := ih later
    have one := spec_eq_ok.mpr means
    refine ⟨first :: specs, by rw [List.mapM_cons, one, read]; rfl, fun spec => ?_⟩
    have same : b.Means spec ↔ spec = first := by
      rw [← spec_eq_ok, one, Except.ok.injEq, eq_comm]
    rw [List.mem_cons, mem, List.exists_mem_cons_iff, same]

/-- What is listed means what is listed. -/
theorem mapM_ofSpec {specs : List InboundSpec} (explicit : ∀ spec ∈ specs, spec.legacy = false) :
    (specs.map ofSpec).mapM InboundBody.spec = .ok specs := by
  induction specs with
  | nil => rfl
  | cons spec specs ih =>
    obtain ⟨first, later⟩ := List.forall_mem_cons.mp explicit
    rw [List.map_cons, List.mapM_cons, spec_eq_ok.mpr (means_ofSpec first), ih later]
    rfl

end InboundBody

variable {σ : Type}

/-- What a client reads of the inbounds. -/
def listing (h : Hub σ) : Json :=
  .arr (h.manager.explicitInbounds.map fun spec => (InboundBody.ofSpec spec).json)

namespace Request

/-- The request is for the inbounds, and passes. -/
structure Asks (r : Request) (method : String) (h : Hub σ) : Prop where
  method : r.method = method
  path : Route.ofPath? r.path = some .inbounds
  passes : r.passes h.general.secret = true

/-- The request says that its body is JSON. -/
def DeclaresJson (r : Request) : Prop :=
  ((r.fieldValues "content-type").head?.bind asciiText?).any isJsonType = true

theorem json_ok {α : Type} {r : Request} {reader : Json.Reader α} {a : α}
    (declares : r.DeclaresJson) (small : r.body.length ≤ maxBody)
    (read : Json.readWhole reader r.body = .ok a) : r.json reader = .ok a := by
  unfold DeclaresJson at declares
  simp [json, declares, Nat.not_lt.mpr small, read]

theorem json_tooLarge {α : Type} {r : Request} {reader : Json.Reader α}
    (declares : r.DeclaresJson) (large : maxBody < r.body.length) :
    r.json reader = .error .tooLarge := by
  unfold DeclaresJson at declares
  simp [json, declares, large]

end Request

/-- The inbounds were written by some bodies. -/
structure Written (h : Hub σ) (bodies : List InboundBody) (report : Report InboundSpec)
    (after : Hub σ) : Prop where
  rest : after = { h with manager := after.manager }
  listed : ∀ spec, spec ∈ after.manager.explicitInbounds ↔
    (∃ b ∈ bodies, b.Means spec) ∧ spec ∉ report.failed.map Prod.fst
  sorted : after.manager.explicitInbounds.Pairwise InboundSpec.Before
  closed : ∀ spec, spec ∈ report.closed ↔
    spec ∈ h.manager.explicitInbounds ∧ ¬ ∃ b ∈ bodies, b.Means spec
  tried : ∀ spec, spec ∈ report.created ++ report.failed.map Prod.fst ↔
    (∃ b ∈ bodies, b.Means spec) ∧ spec ∉ h.manager.explicitInbounds
  once : report.closed.Nodup ∧ (report.created ++ report.failed.map Prod.fst).Nodup

variable {d : Outside σ} {h : Hub σ} {get put : Request}

theorem respond_get (asks : get.Asks "GET" h) : respond d h get = (.json (listing h), h) := by
  have foreign : get.method ≠ "OPTIONS" ∧ get.method ≠ "HEAD" := by simp [asks.method]
  rw [respond, if_neg foreign.1, if_neg foreign.2, answer_passed asks.passes, asks.path]
  simp [serve?, asks.method, listing]

theorem respond_put (asks : put.Asks "PUT" h) :
    respond d h put = replaceInbounds d.toDrivers h put := by
  have foreign : put.method ≠ "OPTIONS" ∧ put.method ≠ "HEAD" := by simp [asks.method]
  rw [respond, if_neg foreign.1, if_neg foreign.2, answer_passed asks.passes, asks.path]
  simp [serve?, asks.method]

theorem respond_tooLarge (asks : put.Asks "PUT" h) (declares : put.DeclaresJson)
    (large : maxBody < put.body.length) :
    respond d h put = (BodyFault.tooLarge.response, h) := by
  simp only [respond_put asks, replaceInbounds, put.json_tooLarge declares large]

/-- A listing that is written back is read as it was written. -/
theorem readWhole_listing (h : Hub σ) :
    Json.readWhole (Json.readList InboundBody.reader) (Text.utf8 (listing h).text) =
      .ok (h.manager.explicitInbounds.map InboundBody.ofSpec) := by
  have taken := InboundBody.takes_all (h.manager.explicitInbounds.map InboundBody.ofSpec)
  rw [List.map_map] at taken
  exact Json.readWhole_eq taken

theorem replaceInbounds_listing (declares : put.DeclaresJson) (small : put.body.length ≤ maxBody)
    (back : put.body = Text.utf8 (listing h).text) :
    replaceInbounds d.toDrivers h put = (.json (reportJson .empty), h) := by
  have read := put.json_ok declares small (back ▸ readWhole_listing h)
  have specs := InboundBody.mapM_ofSpec fun spec member =>
    (Manager.mem_explicitInbounds.mp member : spec ∈ h.manager.inbounds ∧ _).2
  simp only [replaceInbounds, read, specs, Hub.updateInbounds, Manager.replaceInbounds_own]

theorem replaceInbounds_written (sole : Sole h.manager.handles) {bodies : List InboundBody}
    (declares : put.DeclaresJson) (small : put.body.length ≤ maxBody)
    (read : Json.readWhole (Json.readList InboundBody.reader) put.body = .ok bodies)
    (known : ∀ b ∈ bodies, ∃ spec, b.Means spec) :
    ∃ report after, replaceInbounds d.toDrivers h put = (.json (reportJson report), after) ∧
      Written h bodies report after := by
  obtain ⟨specs, means, mem⟩ := InboundBody.exists_specs known
  have explicit : ∀ spec ∈ specs, spec.legacy = false := fun spec asked_for => by
    obtain ⟨b, -, meant⟩ := (mem spec).mp asked_for
    exact meant.explicit
  let out := h.manager.replaceInbounds d.toDrivers specs
  have tried := Manager.tried_replaced (d := d.toDrivers) (m := h.manager) explicit
  have closed := Manager.closed_replaced (d := d.toDrivers) h.manager specs
  refine ⟨out.2, { h with manager := out.1 }, ?_, rfl, fun spec => ?_,
    out.1.explicitInbounds_sorted, fun spec => ?_, fun spec => ?_, ?_, ?_⟩
  · simp only [replaceInbounds, put.json_ok declares small read, means, Hub.updateInbounds]
    rfl
  · rw [← mem]
    exact Manager.mem_replaced explicit sole spec
  · rw [closed, List.mem_filter, decide_eq_true_eq, mem]
  · rw [tried.mem_iff, List.mem_eraseDups, List.mem_filter, decide_eq_true_eq, mem]
  · rw [closed]
    exact (h.manager.nodup_inbounds.filter _).filter _
  · exact tried.nodup_iff.mpr (Plan.nodup_eraseDups _)

/-- What clients read of the inbounds can be written back, and then nothing is done, as long as it is
not longer than a body may be. Whatever else they write, if all its types are known, is what they
read next, but for what failed; and the answer accounts for the rest. -/
theorem inbounds_written_back {d : Outside σ} (now : Outside σ) {outside : σ} {h : Hub σ}
    (reachable : Hub.Reachable d outside h) {get put : Request} (reads : get.Asks "GET" h)
    (writes : put.Asks "PUT" h) (declares : put.DeclaresJson) :
    respond now h get = (.json (listing h), h) ∧
      (put.body = Text.utf8 (listing h).text → put.body.length ≤ maxBody →
        respond now h put = (.json (reportJson .empty), h)) ∧
      (∀ bodies, Json.readWhole (Json.readList InboundBody.reader) put.body = .ok bodies →
        put.body.length ≤ maxBody → (∀ b ∈ bodies, ∃ spec, b.Means spec) →
        ∃ report after, respond now h put = (.json (reportJson report), after) ∧
          respond now after get = (.json (listing after), after) ∧
          Written h bodies report after) ∧
      (maxBody < put.body.length → respond now h put = (BodyFault.tooLarge.response, h)) := by
  refine ⟨respond_get reads, fun back small => ?_, fun bodies read small known => ?_,
    respond_tooLarge writes declares⟩
  · exact (respond_put writes).trans (replaceInbounds_listing declares small back)
  · obtain ⟨report, after, answered, written⟩ :=
      replaceInbounds_written (d := now) reachable.balanced.sole declares small read known
    have passes : get.passes after.general.secret = true := by
      rw [written.rest]
      exact reads.passes
    exact ⟨report, after, (respond_put writes).trans answered,
      respond_get ⟨reads.method, reads.path, passes⟩, written⟩

def readInbounds : Request where
  method := "GET"
  path := "/inbounds"
  query := none
  headers := []
  body := []

def writeInbounds (body : Bytes) : Request where
  method := "PUT"
  path := "/inbounds"
  query := none
  headers := [("content-type", Text.utf8 "application/json")]
  body := body

theorem readInbounds_asks (unlocked : h.general.secret = "") : readInbounds.Asks "GET" h :=
  ⟨rfl, rfl, Request.passes_iff.mpr (.inl unlocked)⟩

theorem writeInbounds_asks (unlocked : h.general.secret = "") (body : Bytes) :
    (writeInbounds body).Asks "PUT" h :=
  ⟨rfl, rfl, Request.passes_iff.mpr (.inl unlocked)⟩

theorem writeInbounds_declares (body : Bytes) : (writeInbounds body).DeclaresJson := by
  have typed : (writeInbounds []).DeclaresJson := by
    unfold Request.DeclaresJson
    decide +kernel
  exact typed

/-- A hub that was asked for some inbounds, by an operation. -/
def serving (specs : List InboundSpec) : Hub Unit :=
  Hub.run obliging (.create () "config.yaml" {} 1) [.updateInbounds specs]

theorem serving_reachable (specs : List InboundSpec) : Hub.Reachable obliging () (serving specs) :=
  ⟨"config.yaml", {}, 1, [.updateInbounds specs], rfl⟩

theorem serving_unlocked (specs : List InboundSpec) : (serving specs).general.secret = "" := rfl

/-- A listing is written back; then other inbounds are, one of them by another name and one twice. -/
theorem inbounds_written_back_socks :
    let h := serving [⟨.http, "127.0.0.1:1", false⟩]
    let back := writeInbounds (Text.utf8 (listing h).text)
    let bodies : List InboundBody := [⟨" Socks5", "127.0.0.1:2"⟩, ⟨"http", ""⟩, ⟨"http", ""⟩]
    let put := writeInbounds (Text.utf8 (Json.arr (bodies.map (·.json))).text)
    respond obliging h back = (.json (reportJson .empty), h) ∧
      ∃ report after, respond obliging h put = (.json (reportJson report), after) ∧
        respond obliging after readInbounds = (.json (listing after), after) ∧
        Written h bodies report after := by
  intro h back bodies put
  have reads : readInbounds.Asks "GET" h := readInbounds_asks (serving_unlocked _)
  have first := inbounds_written_back obliging (serving_reachable _) reads
    (writeInbounds_asks (serving_unlocked _) (Text.utf8 (listing h).text)) (writeInbounds_declares _)
  have second := inbounds_written_back obliging (serving_reachable _) reads
    (writeInbounds_asks (serving_unlocked _) (Text.utf8 (Json.arr (bodies.map (·.json))).text))
    (writeInbounds_declares _)
  have read := Json.readWhole_eq (InboundBody.takes_all bodies)
  have known : ∀ b ∈ bodies, ∃ spec, b.Means spec := by
    have socks : InboundBody.spec ⟨" Socks5", "127.0.0.1:2"⟩ = .ok ⟨.socks, "127.0.0.1:2", false⟩ := by
      decide +kernel
    have http : InboundBody.spec ⟨"http", ""⟩ = .ok ⟨.http, "", false⟩ := by decide +kernel
    simp only [bodies, List.forall_mem_cons]
    exact ⟨⟨_, InboundBody.spec_eq_ok.mp socks⟩, ⟨_, InboundBody.spec_eq_ok.mp http⟩,
      ⟨_, InboundBody.spec_eq_ok.mp http⟩, List.forall_mem_nil _⟩
  exact ⟨first.2.1 rfl (by decide +kernel), second.2.2.1 bodies read (by decide +kernel) known⟩

end Api

section Ports

open Text

/-- Any number of zeros may stand before a port. -/
theorem listenPort?_zeros (n : Nat) :
    listenPort? ("127.0.0.1:" ++ String.ofList (List.replicate n '0' ++ ['1'])) = some 1 := by
  have zeros : digitsValue 10 (List.replicate n '0') = 0 := by
    induction n with
    | zero => rfl
    | succ n ih => exact ih
  have value : digitsValue 10 (List.replicate n '0' ++ ['1']) = 1 := by
    rw [digitsValue, List.foldl_append, ← digitsValue, zeros]
    decide
  have digits : (List.replicate n '0' ++ ['1']).all isDigit = true := by
    rw [List.all_append, List.all_replicate]
    split <;> decide
  have below : digitsValue 10 (List.replicate n '0' ++ ['1']) < UInt16.size := by
    rw [value]
    decide
  have parts : ("127.0.0.1:" ++ String.ofList (List.replicate n '0' ++ ['1'])).toList =
      "127.0.0.1".toList ++ ':' :: (List.replicate n '0' ++ ['1']) := by
    simp
  rw [listenPort?, splitHostPort?, parts, splitAtLast_append (by simp)]
  simp [bareHost?, port?, natBelow?_digits (by simp) digits below, value]

end Ports

namespace Api

theorem serving_explicit {address : String} {port : UInt16}
    (named : listenPort? address = some port) :
    (serving [⟨.http, address, false⟩]).manager.explicitInbounds = [⟨.http, address, false⟩] := by
  simp [serving, Hub.run, Hub.perform, Hub.updateInbounds, Hub.create, Manager.replaceInbounds,
    Manager.reconcileInbounds, Manager.legacyInbounds, Manager.inbounds, InboundSpec.sort,
    Plan.between, Plan.firsts, Manager.createInbound, Manager.openSpec, InboundSpec.port?, named,
    obliging, servedByDefault, Manager.listenIfServed, Manager.listen, Manager.keepPair,
    Manager.keep, Manager.log, Manager.explicitInbounds, Manager.specOf, List.eraseDups_cons]

/-- An inbound whose port has some zeros before it. -/
def zeroed (n : Nat) : InboundSpec :=
  ⟨.http, "127.0.0.1:" ++ String.ofList (List.replicate n '0' ++ ['1']), false⟩

/-- The zeros are listed as they were given. -/
theorem lt_length_listing (n : Nat) :
    n < (Text.utf8 (listing (serving [zeroed n])).text).length := by
  have quoted := Json.length_le_quote (zeroed n).bindAddress
  have zeros : n < (zeroed n).bindAddress.toList.length := by
    simp only [zeroed, String.toList_append, String.toList_ofList, List.length_append,
      List.length_replicate, List.length_singleton]
    omega
  have listed : (serving [zeroed n]).manager.explicitInbounds = [zeroed n] :=
    serving_explicit (listenPort?_zeros n)
  simp only [listing, listed, List.map_cons, List.map_nil, InboundBody.json, InboundBody.ofSpec,
    Json.text, Json.itemTexts, Json.memberTexts, Text.utf8_append, Text.utf8_commas,
    List.intercalate_cons_cons, List.intercalate_singleton, List.length_append]
  omega

/-- Blanks may follow a body. -/
theorem readWhole_blanks (bodies : List InboundBody) (n : Nat) :
    Json.readWhole (Json.readList InboundBody.reader)
      (Text.utf8 (Json.arr (bodies.map InboundBody.json)).text ++ List.replicate n 0x20) = .ok bodies :=
  Json.readWhole_append (InboundBody.takes_all bodies) (by simp [Json.skipSpace, Json.isSpace])

theorem lt_length_blanks (bodies : List InboundBody) (n : Nat) :
    n < (Text.utf8 (Json.arr (bodies.map InboundBody.json)).text ++ List.replicate n 0x20).length := by
  obtain ⟨b, rest, written, -⟩ := (InboundBody.takes_all bodies).start
  rw [written, List.length_append, List.length_replicate, List.length_cons]
  omega

/-- Blanks make a body too long, and so do the zeros of an address, which are listed as they were
given. Neither is taken, though each says what could be done. -/
theorem long_inbounds_refused :
    let bodies : List InboundBody := [⟨"socks", "127.0.0.1:2"⟩]
    let h := serving [⟨.http, "127.0.0.1:1", false⟩]
    let put := writeInbounds
      (Text.utf8 (Json.arr (bodies.map (·.json))).text ++ List.replicate maxBody 0x20)
    let long := serving [zeroed maxBody]
    let back := writeInbounds (Text.utf8 (listing long).text)
    (Json.readWhole (Json.readList InboundBody.reader) put.body = .ok bodies ∧
      (∀ b ∈ bodies, ∃ spec, b.Means spec) ∧
      respond obliging h put = (BodyFault.tooLarge.response, h) ∧
      ¬ ∃ report after, respond obliging h put = (.json (reportJson report), after) ∧
        Written h bodies report after) ∧
    respond obliging long readInbounds = (.json (listing long), long) ∧
      respond obliging long back = (BodyFault.tooLarge.response, long) ∧
      respond obliging long back ≠ (.json (reportJson .empty), long) := by
  intro bodies h put long back
  have known : ∀ b ∈ bodies, ∃ spec, b.Means spec := by
    have socks : InboundBody.spec ⟨"socks", "127.0.0.1:2"⟩ = .ok ⟨.socks, "127.0.0.1:2", false⟩ := by
      decide +kernel
    exact List.forall_mem_singleton.mpr ⟨_, InboundBody.spec_eq_ok.mp socks⟩
  have other : ∀ {after after' : Hub Unit} {v : Json},
      (BodyFault.tooLarge.response, after) ≠ (Response.json v, after') := fun same => by
    cases congrArg (·.1.status) same
  have refused : respond obliging h put = (BodyFault.tooLarge.response, h) :=
    respond_tooLarge (writeInbounds_asks (serving_unlocked _) _) (writeInbounds_declares _)
      (lt_length_blanks bodies maxBody)
  have refused' : respond obliging long back = (BodyFault.tooLarge.response, long) :=
    respond_tooLarge (writeInbounds_asks (serving_unlocked _) _) (writeInbounds_declares _)
      (lt_length_listing maxBody)
  refine ⟨⟨readWhole_blanks bodies maxBody, known, refused, ?_⟩,
    respond_get (readInbounds_asks (serving_unlocked _)), refused', ?_⟩
  · rintro ⟨report, after, answered, -⟩
    exact other (refused.symm.trans answered)
  · exact fun same => other (refused'.symm.trans same)

end Api

end LocalProxy
