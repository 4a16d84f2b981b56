import LocalProxy.Proofs.Handshake.Rewriting

/-! What a host learns of the credentials that are meant for the proxy. Their field is not forwarded,
but the lines that continue it are, since each line is looked at on its own. Main statement:
`credentials_pass_iff`. -/
namespace LocalProxy.ProxyRequest

open Text Handshake

/-- Lines with their ends, in octets. -/
def written (ls : List (List Char)) : Bytes := utf8 (.ofList (ls.flatMap (· ++ lineEnd)))

theorem written_append (front back : List (List Char)) :
    written (front ++ back) = written front ++ written back := by
  rw [written, List.flatMap_append, String.ofList_append, utf8_append]
  rfl

theorem written_eq_nil_iff {ls : List (List Char)} : written ls = [] ↔ ls = [] := by
  rw [written, utf8_eq_nil_iff, List.flatMap_eq_nil_iff]
  exact ⟨fun none => List.eq_nil_iff_forall_not_mem.mpr fun l member => by
    simpa [lineEnd] using none l member, by rintro rfl; simp⟩

/-- A field with credentials for the proxy. Lines that begin with a blank continue its value. -/
structure Credentials where
  name : List Char
  value : List Char
  folds : List (List Char)
  spelled : ∃ front word back, name = front ++ word ++ back ∧ (∀ c ∈ front, isBlank c = true) ∧
    (∀ c ∈ back, isBlank c = true) ∧ word.map Char.toLower = "proxy-authorization".toList
  unbroken : Unbroken (name ++ ':' :: value)
  folded : ∀ l ∈ folds, (l.head? = some ' ' ∨ l.head? = some '\t') ∧ Unbroken l

namespace Credentials

/-- The lines of the field. -/
def lines (c : Credentials) : List (List Char) := (c.name ++ ':' :: c.value) :: c.folds

/-- What is forwarded of the lines that continue the field. -/
def passed (c : Credentials) : Bytes := written (c.folds.filter fun l => ¬ ForProxy l)

theorem forProxy (c : Credentials) : ForProxy (c.name ++ ':' :: c.value) := by
  obtain ⟨front, word, back, same, before, after, spelled⟩ := c.spelled
  exact ⟨front, word, back, ':' :: c.value, by rw [same], before, after,
    fun d first => (Option.some.inj first).symm, _, by decide, spelled⟩

theorem lines_unbroken (c : Credentials) : ∀ l ∈ c.lines, Unbroken l :=
  List.forall_mem_cons.mpr ⟨c.unbroken, fun l member => (c.folded l member).2⟩

/-- Of the lines of the field those are kept that continue it and do not speak to the proxy. -/
theorem filter_lines (c : Credentials) :
    (c.lines.filter fun l => l ≠ [] ∧ ¬ ForProxy l) = c.folds.filter fun l => ¬ ForProxy l := by
  rw [lines, List.filter_cons_of_neg (by simp [c.forProxy])]
  refine List.filter_congr fun l member => decide_eq_decide.mpr (and_iff_right ?_)
  rintro rfl
  simpa using (c.folded [] member).1

theorem passed_eq_nil_iff (c : Credentials) : c.passed = [] ↔ ∀ l ∈ c.folds, ForProxy l := by
  rw [passed, written_eq_nil_iff, List.filter_eq_nil_iff]
  simp

end Credentials

variable {head forwarded : Bytes} {target : Target}

namespace Absolute

/-- The head with other fields. -/
def withFields (r : Absolute head) (fields : List (List Char)) : Bytes :=
  utf8 (.ofList (lineEnd.intercalate (r.first :: fields)))

/-- The head with other fields is read as the head was. -/
def replace (r : Absolute head) (fields : List (List Char)) (unbroken : ∀ l ∈ fields, Unbroken l) :
    Absolute (r.withFields fields) :=
  { r with
    fields
    lines := rfl
    unbroken := List.forall_mem_cons.mpr ⟨r.unbroken _ List.mem_cons_self, unbroken⟩ }

/-- The head for the host up to a field with credentials. -/
def untilField (r : Absolute head) (before : List (List Char)) : Bytes :=
  written (r.line :: before.filter fun l => l ≠ [] ∧ ¬ ForProxy l)

/-- The head for the host from the end of such a field on. -/
def fromField (after : List (List Char)) : Bytes :=
  written ((after.filter fun l => l ≠ [] ∧ ¬ ForProxy l) ++ [[]])

theorem forHost_of_fields (r : Absolute head) {before after : List (List Char)} {c : Credentials}
    (fields : r.fields = before ++ c.lines ++ after) :
    utf8 (.ofList r.forHost) = r.untilField before ++ c.passed ++ fromField after := by
  rw [untilField, Credentials.passed, fromField, ← written_append, ← written_append, written, forHost,
    linesForHost, fields, List.filter_append, List.filter_append, c.filter_lines]
  simp

end Absolute

/-- Of the credentials in a request that is forwarded no more than the lines that continue their
field have a bearing on what the host gets. With other credentials the request goes to the same target,
and in the head that it is sent with they make a difference just by these lines. There are none if the
field is not continued. -/
theorem credentials_pass_iff (accepted : parse head = .ok (.forward target forwarded))
    (r : Absolute head) {before after : List (List Char)} {c : Credentials}
    (fields : r.fields = before ++ c.lines ++ after) :
    ∃ start stop, ∀ c' : Credentials,
      parse (r.withFields (before ++ c'.lines ++ after)) =
          .ok (.forward target (start ++ c'.passed ++ stop)) ∧
        (start ++ c'.passed ++ stop = forwarded ↔ c'.passed = c.passed) ∧
        (c'.passed = [] ↔ ∀ l ∈ c'.folds, ForProxy l) := by
  obtain ⟨other, reached, same⟩ := (forward_iff r).mp accepted
  rw [r.forHost_of_fields fields] at same
  refine ⟨r.untilField before, Absolute.fromField after, fun c' => ⟨?_, ?_, c'.passed_eq_nil_iff⟩⟩
  · have unbroken : ∀ l ∈ before ++ c'.lines ++ after, Unbroken l := by
      have kept : ∀ l ∈ before ++ c.lines ++ after, Unbroken l :=
        fields ▸ fun l member => r.unbroken l (List.mem_cons_of_mem _ member)
      simp only [List.forall_mem_append] at kept ⊢
      exact ⟨⟨kept.1.1, c'.lines_unbroken⟩, kept.2⟩
    have whole := (r.replace _ unbroken).forHost_of_fields rfl
    exact (forward_iff (r.replace _ unbroken)).mpr ⟨other, reached, whole.symm⟩
  · rw [same, List.append_left_inj, List.append_right_inj]

/-- A request with credentials on two lines. -/
def foldedHead (secret : String) : Bytes :=
  utf8 ("GET http://example.com/ HTTP/1.1\r\nProxy-Authorization: Basic\r\n " ++ secret ++
    "\r\nHost: example.com\r\n\r\n")

theorem folded_worded : Worded "GET http://example.com/ HTTP/1.1".toList
    ["GET".toList, "http://".toList ++ "example.com".toList ++ "/".toList, "HTTP/1.1".toList] :=
  words_eq_iff.mp (by decide +kernel)

def foldedRequest (secret : String) (free : '\r' ∉ secret.toList) : Absolute (foldedHead secret) where
  first := "GET http://example.com/ HTTP/1.1".toList
  fields := ["Proxy-Authorization: Basic".toList, ' ' :: secret.toList, "Host: example.com".toList,
    [], []]
  method := "GET".toList
  authority := "example.com".toList
  path := "/".toList
  version := "HTTP/1.1".toList
  more := []
  lines := congrArg utf8 (String.toList_inj.mp (by simp [lineEnd, List.intercalate_cons_cons]))
  unbroken := by
    simp only [List.forall_mem_cons]
    exact ⟨unbroken_of_notMem (by decide), unbroken_of_notMem (by decide),
      unbroken_of_notMem (by simpa using free), unbroken_of_notMem (by decide),
      unbroken_of_notMem (by decide), unbroken_of_notMem (by decide),
      List.forall_mem_nil _⟩
  words := folded_worded
  authority_ends := by decide
  path_starts := by rintro c ⟨⟩; rfl

/-- The first line of a value is kept from the host, and the line that continues it is not. -/
theorem folded_credentials_pass :
    parse (foldedHead "c2VjcmV0") = .ok (.forward (.domain "example.com" 80)
      (utf8 "GET / HTTP/1.1\r\n c2VjcmV0\r\nHost: example.com\r\n\r\n")) ∧
    parse (foldedHead "b3RoZXI=") = .ok (.forward (.domain "example.com" 80)
      (utf8 "GET / HTTP/1.1\r\n b3RoZXI=\r\nHost: example.com\r\n\r\n")) := by
  constructor
  · refine (forward_iff (foldedRequest _ (by decide))).mpr ⟨by decide, by decide +kernel, ?_⟩
    decide +kernel
  · refine (forward_iff (foldedRequest _ (by decide))).mpr ⟨by decide, by decide +kernel, ?_⟩
    decide +kernel

/-- The credentials of that request. -/
def foldedCredentials : Credentials where
  name := "Proxy-Authorization".toList
  value := " Basic".toList
  folds := [" c2VjcmV0".toList]
  spelled := ⟨[], "Proxy-Authorization".toList, [], rfl, List.forall_mem_nil _,
    List.forall_mem_nil _, by decide⟩
  unbroken := unbroken_of_notMem (by decide)
  folded := by
    rintro l (_ | ⟨_, ⟨⟩⟩)
    exact ⟨.inl rfl, unbroken_of_notMem (by decide)⟩

/-- The same credentials on one line. -/
def plainCredentials : Credentials where
  name := "proxy-authorization ".toList
  value := " Basic c2VjcmV0".toList
  folds := []
  spelled := ⟨[], "proxy-authorization".toList, [' '], rfl, List.forall_mem_nil _,
    List.forall_mem_singleton.mpr (by decide), by decide⟩
  unbroken := unbroken_of_notMem (by decide)
  folded := List.forall_mem_nil _

theorem credentials_pass_iff_folded : ∃ start stop,
    parse ((foldedRequest "c2VjcmV0" (by decide)).withFields
        ([] ++ plainCredentials.lines ++ ["Host: example.com".toList, [], []])) =
      .ok (.forward (.domain "example.com" 80) (start ++ [] ++ stop)) ∧
    plainCredentials.passed = [] ∧ foldedCredentials.passed ≠ [] := by
  let request := foldedRequest "c2VjcmV0" (by decide)
  have reached : authorityTarget (.ofList request.authority) = .ok (.domain "example.com" 80) := by
    decide +kernel
  have accepted := (forward_iff request).mpr ⟨by decide, reached, rfl⟩
  have fields : request.fields =
      [] ++ foldedCredentials.lines ++ ["Host: example.com".toList, [], []] := rfl
  obtain ⟨start, stop, each⟩ := credentials_pass_iff accepted request fields
  obtain ⟨read, -, none⟩ := each plainCredentials
  have nothing := none.mpr (List.forall_mem_nil _)
  rw [nothing] at read
  refine ⟨start, stop, read, nothing, fun no => ?_⟩
  have hidden := (each foldedCredentials).2.2.mp no
  exact absurd (hidden _ List.mem_cons_self) (by decide +kernel)

end LocalProxy.ProxyRequest
