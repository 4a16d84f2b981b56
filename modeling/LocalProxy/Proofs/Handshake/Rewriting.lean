import LocalProxy.Proofs.Handshake.Framing
import LocalProxy.Proofs.Text.Blanks
import Mathlib.Data.List.TakeDrop

/-! The head that a proxy makes for a host out of a request for an absolute URI. It has the lines of
the original less those that speak to the proxy, and ends where it is meant to: no empty line stands
in it before its end, so that the body follows just where the host looks for it. -/
namespace LocalProxy.ProxyRequest

open Text Handshake

/-- A text is cut before the first occurrence of a character. -/
theorem span_ne_eq {sep : Char} {s before after : List Char} :
    s.span (· ≠ sep) = (before, after) ↔
      s = before ++ after ∧ sep ∉ before ∧ ∀ c, after.head? = some c → c = sep := by
  rw [List.span_eq_takeWhile_dropWhile, Prod.mk.injEq]
  constructor
  · rintro ⟨rfl, rfl⟩
    refine ⟨List.takeWhile_append_dropWhile.symm, fun member => ?_, fun c first => ?_⟩
    · simpa using List.mem_takeWhile_imp member
    · have stopped := List.head?_dropWhile_not (· ≠ sep) s
      rw [first] at stopped
      simpa using stopped
  · rintro ⟨rfl, apart, starts⟩
    have passed : ∀ c ∈ before, decide (c ≠ sep) = true := fun c member =>
      decide_eq_true fun same => apart (same ▸ member)
    rw [List.takeWhile_append_of_pos passed, List.dropWhile_append_of_pos passed]
    cases after with
    | nil => simp
    | cons c after =>
      obtain rfl := starts c rfl
      simp

section Fields

/-- A field that speaks to the proxy alone. Up to its colon, if it has one, stands the name of such a
field in any letter case, with blanks around it. -/
def ForProxy (line : List Char) : Prop :=
  ∃ front name back rest, line = front ++ name ++ back ++ rest ∧
    (∀ c ∈ front, isBlank c = true) ∧ (∀ c ∈ back, isBlank c = true) ∧
    (∀ c, rest.head? = some c → c = ':') ∧
    ∃ field ∈ proxyFields, name.map Char.toLower = field.toList

theorem lower_proxyFields : ∀ field ∈ proxyFields, lower field = field := by decide

/-- What stands in the name of a field for the proxy is no blank and no colon. -/
theorem plain_of_proxyFields {field : String} (listed : field ∈ proxyFields) {c : Char}
    (member : c.toLower ∈ field.toList) : isBlank c = false ∧ c ≠ ':' := by
  by_cases upper : c.val ≥ 'A'.val ∧ c.val ≤ 'Z'.val
  · have range : 65 ≤ c.toNat ∧ c.toNat ≤ 90 := upper
    refine ⟨?_, ?_⟩
    · simp only [isBlank, Bool.or_eq_false_iff, Bool.and_eq_false_iff, decide_eq_false_iff_not,
        beq_eq_false_iff_ne]
      omega
    · rintro rfl
      revert upper
      decide
  · have same : c.toLower = c := dif_neg upper
    rw [same] at member
    have plain : ∀ field ∈ proxyFields, field.toList.all (fun c => !isBlank c && c ≠ ':') := by
      decide
    simpa using List.all_eq_true.mp (plain field listed) c member

theorem isForProxy_iff {line : List Char} : isForProxy line = true ↔ ForProxy line := by
  simp only [isForProxy, List.any_eq_true, sameLetters, beq_iff_eq]
  constructor
  · rintro ⟨field, listed, same⟩
    obtain ⟨whole, -, starts⟩ := span_ne_eq.mp (List.span_eq_takeWhile_dropWhile (p := (· ≠ ':')) line)
    obtain ⟨front, back, padded, before, after⟩ := exists_padded (line.takeWhile (· ≠ ':'))
    refine ⟨front, trimEnd (trimStart (line.takeWhile (· ≠ ':'))), back, line.dropWhile (· ≠ ':'), ?_,
      before, after, starts, field, listed, ?_⟩
    · rw [← padded]
      exact whole
    · rw [← lower_proxyFields field listed, same]
      simp [lower, fieldName, trim]
  · rintro ⟨front, name, back, rest, rfl, before, after, starts, field, listed, same⟩
    have plain : ∀ c ∈ name, isBlank c = false ∧ c ≠ ':' := fun c member =>
      plain_of_proxyFields listed (same ▸ List.mem_map_of_mem member)
    have solid : ∀ c ∈ name, isBlank c = false := fun c member => (plain c member).1
    have blank_colon : isBlank ':' = false := by decide
    have apart : ':' ∉ front ++ name ++ back := by
      simp only [List.mem_append, not_or]
      refine ⟨⟨fun member => ?_, fun member => (plain _ member).2 rfl⟩, fun member => ?_⟩
      · exact absurd (before _ member) (by simp [blank_colon])
      · exact absurd (after _ member) (by simp [blank_colon])
    have cut := span_ne_eq.mpr ⟨rfl, apart, starts⟩
    rw [List.span_eq_takeWhile_dropWhile] at cut
    refine ⟨field, listed, ?_⟩
    rw [fieldName, (Prod.mk.inj cut).1, trim_padded before solid after, lower_proxyFields field listed,
      lower, String.toList_ofList, same, String.ofList_toList]

instance : DecidablePred ForProxy := fun _ => decidable_of_iff _ isForProxy_iff

end Fields

section Uri

variable {authority path uri : List Char}

/-- Of a URI without a path, the path is `/`. -/
theorem absoluteForm?_append (apart : '/' ∉ authority)
    (starts : ∀ c, path.head? = some c → c = '/') :
    absoluteForm? (.ofList ("http://".toList ++ authority ++ path)) =
      some (.ofList authority, .ofList (if path = [] then ['/'] else path)) := by
  have strip : stripStart "http://" (.ofList ("http://".toList ++ authority ++ path)) =
      some (.ofList (authority ++ path)) :=
    stripStart_eq_some.mpr (by simp [← String.toList_inj])
  rw [absoluteForm?, strip, Option.map_some, String.toList_ofList,
    span_ne_eq.mpr ⟨rfl, apart, starts⟩]
  cases path <;> rfl

theorem exists_of_absoluteForm? {parts : String × String}
    (form : absoluteForm? (.ofList uri) = some parts) : ∃ authority path,
      uri = "http://".toList ++ authority ++ path ∧ '/' ∉ authority ∧
        ∀ c, path.head? = some c → c = '/' := by
  obtain ⟨rest, strip, -⟩ := Option.map_eq_some_iff.mp form
  have whole := congrArg String.toList (stripStart_eq_some.mp strip)
  rw [String.toList_ofList, String.toList_append] at whole
  obtain ⟨split, apart, starts⟩ := span_ne_eq.mp
    (List.span_eq_takeWhile_dropWhile (p := (· ≠ '/')) rest.toList)
  exact ⟨_, _, by rw [List.append_assoc, ← split, whole], apart, starts⟩

end Uri

/-- A head read as a request for an absolute URI: by its lines, by the first three words of the first
of them, and by what the second of these names. -/
structure Absolute (head : Bytes) where
  first : List Char
  fields : List (List Char)
  method : List Char
  authority : List Char
  path : List Char
  version : List Char
  more : List (List Char)
  lines : head = utf8 (.ofList (lineEnd.intercalate (first :: fields)))
  unbroken : ∀ l ∈ first :: fields, Unbroken l
  words : Worded first (method :: ("http://".toList ++ authority ++ path) :: version :: more)
  authority_ends : '/' ∉ authority
  path_starts : ∀ c, path.head? = some c → c = '/'

namespace Absolute

variable {head : Bytes}

/-- The request line for the host. -/
def line (r : Absolute head) : List Char :=
  r.method ++ [' '] ++ (if r.path = [] then ['/'] else r.path) ++ [' '] ++ r.version

/-- The lines for the host: the request line, and the fields that hold something and do not speak
to the proxy. -/
def linesForHost (r : Absolute head) : List (List Char) :=
  r.line :: r.fields.filter fun l => l ≠ [] ∧ ¬ ForProxy l

def forHost (r : Absolute head) : List Char :=
  r.linesForHost.flatMap (· ++ lineEnd) ++ lineEnd

theorem headForHost_eq (r : Absolute head) (uri : String) :
    headForHost ⟨.ofList r.method, uri, .ofList r.version⟩
      (.ofList (if r.path = [] then ['/'] else r.path)) r.fields = .ofList r.forHost := by
  have kept : (r.fields.filter fun f => f ≠ [] && !isForProxy f) =
      r.fields.filter fun l => l ≠ [] ∧ ¬ ForProxy l :=
    List.filter_congr fun l _ => by rw [Bool.eq_iff_iff]; simp [← isForProxy_iff]
  rw [headForHost, kept, ← String.toList_inj]
  simp [forHost, linesForHost, line, lineEnd, List.flatMap, Function.comp_def]

/-- The lines for the host all hold something, and none of them is broken. -/
theorem linesForHost_whole (r : Absolute head) : ∀ l ∈ r.linesForHost, l ≠ [] ∧ Unbroken l := by
  have solid := r.words.solid
  simp only [List.forall_mem_cons] at solid
  obtain ⟨⟨filled, method⟩, ⟨-, uri⟩, ⟨-, version⟩, -⟩ := solid
  have blank : isBlank '\r' = true := by decide
  have free : ∀ {s : List Char}, (∀ c ∈ s, isBlank c = false) → '\r' ∉ s := fun solid member =>
    absurd (solid _ member) (by simp [blank])
  refine List.forall_mem_cons.mpr ⟨⟨by simp [line], unbroken_of_notMem ?_⟩, fun l member => ?_⟩
  · have path : '\r' ∉ if r.path = [] then ['/'] else r.path := by
      split
      · simp
      · exact free fun c member => uri c (List.mem_append_right _ member)
    simp [line, free method, free version, path]
  · obtain ⟨listed, kept⟩ := List.mem_filter.mp member
    exact ⟨(of_decide_eq_true kept).1, r.unbroken l (List.mem_cons_of_mem _ listed)⟩

/-- A request that does not ask to connect is forwarded where its authority says, if it says. -/
theorem parse_eq (r : Absolute head) : parse head =
    if sameLetters (.ofList r.method) "CONNECT" then
      match Target.parse (.ofList ("http://".toList ++ r.authority ++ r.path)) with
      | .ok target => .ok (.connect target)
      | .error fault => .error (.target fault)
    else (authorityTarget (.ofList r.authority)).map fun target =>
      .forward target (utf8 (.ofList r.forHost)) := by
  have lines := lines_intercalate (List.cons_ne_nil _ _) r.unbroken
  have words := words_eq_iff.mpr r.words
  have form := absoluteForm?_append r.authority_ends r.path_starts
  rw [parse, ofUtf8?_eq_some_iff.mpr r.lines]
  simp only [ofText, String.toList_ofList, lines, Line.parse?, words, form, r.headForHost_eq]
  generalize authorityTarget (.ofList r.authority) = reached
  cases reached <;> rfl

end Absolute

variable {head forwarded : Bytes} {target : Target}

theorem forward_iff (r : Absolute head) : parse head = .ok (.forward target forwarded) ↔
    sameLetters (.ofList r.method) "CONNECT" = false ∧
      authorityTarget (.ofList r.authority) = .ok target ∧ forwarded = utf8 (.ofList r.forHost) := by
  rw [r.parse_eq]
  cases sameLetters (.ofList r.method) "CONNECT" with
  | true =>
    rw [if_pos rfl]
    split <;> simp
  | false =>
    rw [if_neg Bool.false_ne_true]
    cases authorityTarget (.ofList r.authority) <;> simp [Except.map, eq_comm]

/-- However a head is read that is accepted, what is forwarded is the head for the host. -/
theorem forwarded_eq (accepted : parse head = .ok (.forward target forwarded)) (r : Absolute head) :
    forwarded = utf8 (.ofList r.forHost) :=
  ((forward_iff r).mp accepted).2.2

theorem exists_absolute (accepted : parse head = .ok (.forward target forwarded)) :
    Nonempty (Absolute head) := by
  unfold parse at accepted
  split at accepted
  · cases accepted
  rename_i text decoded
  unfold ofText at accepted
  split at accepted
  · cases accepted
  rename_i first fields lines
  obtain ⟨-, whole, unbroken⟩ := lines_eq_iff.mp lines
  split at accepted
  · cases accepted
  rename_i line parsed
  unfold Line.parse? at parsed
  split at parsed
  · rename_i method uri version more words
    obtain rfl := Option.some.inj parsed
    split at accepted
    · split at accepted <;> cases accepted
    split at accepted
    · cases accepted
    · rename_i form
      obtain ⟨authority, path, rfl, apart, starts⟩ := exists_of_absoluteForm? form
      refine ⟨⟨first, fields, method, authority, path, version, more, ?_, unbroken,
        words_eq_iff.mp words, apart, starts⟩⟩
      rw [ofUtf8?_eq_some_iff.mp decoded, whole, String.ofList_toList]
  · cases parsed

/-- The first empty line of what is forwarded is its last. -/
theorem headEnds_forwarded (accepted : parse head = .ok (.forward target forwarded)) :
    HeadEnds forwarded forwarded.length := by
  obtain ⟨r⟩ := exists_absolute accepted
  rw [forwarded_eq accepted r, Absolute.forHost, utf8_lines]
  refine headEnds_framed (by simp [Absolute.linesForHost]) fun octets member => ?_
  obtain ⟨l, listed, rfl⟩ := List.mem_map.mp member
  obtain ⟨holds, unbroken⟩ := r.linesForHost_whole l listed
  exact ⟨fun none => holds (utf8_eq_nil_iff.mp none), utf8_unbroken unbroken⟩

/-- The head of a request for an absolute URI is rewritten faithfully and framed as it was. -/
theorem rewritten_faithfully (accepted : parse head = .ok (.forward target forwarded)) :
    Nonempty (Absolute head) ∧ (∀ r : Absolute head, forwarded = utf8 (.ofList r.forHost)) ∧
      (∀ body, HeadEnds (forwarded ++ body) forwarded.length) ∧
      ∀ arriving body, arriving.flatten = head ++ body → HeadEnds head head.length →
        head.length ≤ maxHead →
          joined (serveHttp arriving) = ⟨[], .accepted target [] (forwarded ++ body)⟩ := by
  refine ⟨exists_absolute accepted, forwarded_eq accepted, fun body =>
    (headEnds_append (Nat.le_refl _)).mpr (headEnds_forwarded accepted), ?_⟩
  intro arriving body arrives ends within
  have served := serveHttp_served arriving
  rw [arrives] at served
  have head_ends : HeadEnds (head ++ body) head.length :=
    (headEnds_append (Nat.le_refl _)).mpr ends
  have forwards := Served.forwarded (s := head ++ body) head_ends within
    (by rw [List.take_left]; exact accepted)
  rw [List.drop_left] at forwards
  exact served.unique forwards

/-- A head with CR and LF that stand apart, with a field for the proxy, and with a word too many. -/
def strayHead : Bytes := utf8 ("GET  http://example.com:8080/a?b HTTP/1.1 more\r\n" ++
  "Host: example.com\r\n\nstray\r\r\n Proxy-CONNECTION\t: keep-alive\r\nAccept: */*\r\n\r\n")

theorem rewritten_faithfully_stray :
    let forwarded := utf8
      "GET /a?b HTTP/1.1\r\nHost: example.com\r\n\nstray\r\r\nAccept: */*\r\n\r\n"
    let target : Target := .domain "example.com" 8080
    parse strayHead = .ok (.forward target forwarded) ∧
      HeadEnds (forwarded ++ utf8 "body") forwarded.length ∧
      joined (serveHttp [strayHead.take 7, strayHead.drop 7 ++ utf8 "bo", utf8 "dy"]) =
        ⟨[], .accepted target [] (forwarded ++ utf8 "body")⟩ := by
  intro forwarded target
  have accepted : parse strayHead = .ok (.forward target forwarded) := by
    rw [parse, strayHead, ofUtf8?_utf8]
    decide +kernel
  obtain ⟨-, -, ends, served⟩ := rewritten_faithfully accepted
  refine ⟨accepted, ends _, served _ _ ?_ (headEnd?_eq_some_iff.mp (by decide +kernel))
    (by decide +kernel)⟩
  decide +kernel

end LocalProxy.ProxyRequest
