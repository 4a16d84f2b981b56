import LocalProxy.Proofs.Handshake.Rewriting
import LocalProxy.Proofs.Net.Hosts
import Mathlib.Data.List.DropRight

/-! The destination of a request for an absolute URI. It is the host and the port that the authority
names, if it names any. An authority that names none is not refused, unless it is empty, but taken
for a host as a whole. Main statement: `forwarded_as_named`. -/
namespace LocalProxy.ProxyRequest

open Text Handshake

/-- The literal of an IPv6 address, perhaps with a zone behind it. -/
def ZonedLiteral (name : List Char) : Prop :=
  ∃ literal zone ip, name = literal ++ zone ∧ Ipv6.parse? (.ofList literal) = some ip ∧
    (∀ c, zone.head? = some c → c = '%') ∧ ']' ∉ zone ∧ ':' ∉ zone

/-- A host without a port: a name or the literal of an IPv6 address, as it is or in brackets. -/
structure HostAlone (authority name : List Char) : Prop where
  filled : name ≠ []
  unopened : name.head? ≠ some '['
  unclosed : name.getLast? ≠ some ']'
  whole : ':' ∉ name ∨ ZonedLiteral name
  written : authority = name ∨ authority = '[' :: (name ++ [']'])

/-- The host and the port that an authority names. If it names no port, it is the default one. -/
inductive Named : List Char → List Char → UInt16 → Prop
  | hostPort {host name numeral : List Char} {port : UInt16} (written : HostText host name)
      (filled : name ≠ []) (read : Text.port? (.ofList numeral) = some port) :
      Named (host ++ ':' :: numeral) name port
  | host {authority name : List Char} (alone : HostAlone authority name) :
      Named authority name defaultPort

/-- A text without the brackets in front of it and those at its end. -/
def bared (s : List Char) : List Char := (s.dropWhile (· == '[')).rdropWhile (· == ']')

section Brackets

variable {authority host name numeral : List Char}

theorem withoutBrackets_ofList (s : List Char) :
    withoutBrackets (.ofList s) = .ofList (bared s) := by
  rw [withoutBrackets, String.toList_ofList]
  rfl

theorem dropWhile_unopened (unopened : name.head? ≠ some '[') : name.dropWhile (· == '[') = name := by
  cases name with
  | nil => rfl
  | cons c name => exact List.dropWhile_cons_of_neg (by simpa using unopened)

theorem rdropWhile_unclosed (unclosed : name.getLast? ≠ some ']') :
    name.rdropWhile (· == ']') = name := by
  refine List.rdropWhile_eq_self_iff.mpr fun some => ?_
  rw [List.getLast?_eq_some_getLast some] at unclosed
  simpa using unclosed

/-- Neither the brackets nor what they enclose reach across a colon. -/
theorem bared_cut (host numeral : List Char) : bared (host ++ ':' :: numeral) =
    host.dropWhile (· == '[') ++ ':' :: numeral.rdropWhile (· == ']') := by
  have front : (host ++ ':' :: numeral).dropWhile (· == '[') =
      host.dropWhile (· == '[') ++ ':' :: numeral :=
    dropWhile_append_of_ends (by rintro c ⟨⟩; decide) host
  have back : ∀ s : List Char, (s ++ ':' :: numeral).rdropWhile (· == ']') =
      s ++ ':' :: numeral.rdropWhile (· == ']') := by
    intro s
    have ends : Ends ((· == ']') · = true) (':' :: s.reverse) := by rintro c ⟨⟩; decide
    rw [List.rdropWhile, List.reverse_append, List.reverse_cons, List.append_assoc,
      List.singleton_append, dropWhile_append_of_ends ends, List.reverse_append]
    simp [List.rdropWhile]
  rw [bared, front, back]

theorem HostAlone.bared_eq (alone : HostAlone authority name) : bared authority = name := by
  obtain ⟨-, unopened, unclosed, -, rfl | rfl⟩ := alone
  · rw [bared, dropWhile_unopened unopened, rdropWhile_unclosed unclosed]
  · have ends : Ends ((· == '[') · = true) [']'] := by rintro c ⟨⟩; decide
    rw [bared, List.dropWhile_cons_of_pos rfl, dropWhile_append_of_ends ends,
      dropWhile_unopened unopened, List.rdropWhile_concat_pos _ _ _ rfl,
      rdropWhile_unclosed unclosed]

/-- A host alone is no host with a port. -/
theorem HostAlone.no_port (alone : HostAlone authority name) {other : List Char}
    (written : HostText host other) (apart : ':' ∉ numeral) : authority ≠ host ++ ':' :: numeral := by
  intro cut
  obtain free | ⟨literal, zone, ip, rfl, known, -, unclosed, colonless⟩ := alone.whole
  · refine (?_ : ':' ∉ authority) (cut ▸ by simp)
    obtain rfl | rfl := alone.written
    · exact free
    · simpa using free
  · obtain ⟨colons, each⟩ := Ipv6.plain_of_parse? known
    have inside : ']' ∉ literal ++ zone := by
      rw [List.mem_append, not_or]
      exact ⟨fun member => absurd (each _ member) (by decide), unclosed⟩
    obtain bare | brackets := alone.written
    · cases written with
      | plain _ free =>
        -- One colon is too few for an address.
        have count := congrArg (List.count ':') (bare.symm.trans cut)
        simp only [List.count_append, List.count_cons_self, List.count_eq_zero.mpr free,
          List.count_eq_zero.mpr apart, List.count_eq_zero.mpr colonless] at count
        omega
      | bracketed => exact alone.unopened (by rw [← bare, cut]; rfl)
    · cases written with
      | plain unopened _ =>
        have opened := congrArg List.head? (brackets.symm.trans cut)
        cases host with
        | nil => simp at opened
        | cons c host => exact unopened (by simpa using opened.symm)
      | bracketed =>
        obtain rfl | ⟨numeral, c, rfl⟩ := List.eq_nil_or_concat numeral
        · have ends := congrArg List.reverse (brackets.symm.trans cut)
          simp at ends
        · have same : literal ++ zone ++ [']'] = other ++ [']'] ++ ':' :: numeral ++ [c] := by
            simpa using (List.cons.inj (brackets.symm.trans cut)).2
          exact inside ((List.append_inj' same rfl).1 ▸ by simp)

end Brackets

section Target

variable {authority host name numeral : List Char} {t : Target}

/-- The target that a host without a port makes: an address if it is the literal of one. -/
def hostTarget (host : String) : Target :=
  match IpAddress.parse? host with
  | some ip => .address (.ofIp ip defaultPort)
  | none => .domain host defaultPort

theorem hostTarget_port (host : String) : (hostTarget host).port = defaultPort := by
  unfold hostTarget
  split
  next ip _ => cases ip <;> rfl
  next => rfl

theorem denotes_hostTarget (name : List Char) : Denotes name (hostTarget (.ofList name)) := by
  unfold hostTarget
  split
  next ip known =>
    obtain ⟨ip, literal, rfl⟩ | ⟨ip, literal, rfl⟩ := IpAddress.of_parse? known
    · exact .v4 literal defaultPort
    · exact .v6 literal defaultPort
  next => exact .domain name defaultPort

/-- What is cut at a colon into a host and the rest is no address, whatever brackets it loses. -/
theorem parse?_bared_cut (written : HostText host name) (apart : ':' ∉ numeral) :
    IpAddress.parse? (.ofList (bared (host ++ ':' :: numeral))) = none := by
  refine Option.eq_none_iff_forall_ne_some.mpr fun ip known => ?_
  obtain ⟨ip, literal, -⟩ | ⟨ip, literal, -⟩ := IpAddress.of_parse? known
  · have plain := (Ipv4.plain_of_parse? literal).2 ':' (by rw [bared_cut]; simp)
    exact absurd plain (by decide)
  · obtain ⟨colons, each⟩ := Ipv6.plain_of_parse? literal
    rw [bared_cut] at colons each
    cases written with
    | plain _ free =>
      have before : ':' ∉ host.dropWhile (· == '[') := fun member =>
        free ((List.dropWhile_suffix _).subset member)
      have after : ':' ∉ numeral.rdropWhile (· == ']') := fun member =>
        apart ((List.rdropWhile_prefix _ _).subset member)
      rw [List.count_append, List.count_cons_self, List.count_eq_zero.mpr before,
        List.count_eq_zero.mpr after] at colons
      omega
    | bracketed =>
      have ends : Ends ((· == '[') · = true) [']'] := by rintro c ⟨⟩; decide
      rw [List.dropWhile_cons_of_pos rfl, dropWhile_append_of_ends ends] at each
      exact absurd (each ']' (by simp)) (by decide)

/-- Where a request for this authority is forwarded to. -/
structure Sent (authority : List Char) (t : Target) : Prop where
  named : ∀ name port, Named authority name port → Denotes name t ∧ t.port = port
  otherwise : (¬ ∃ name port, Named authority name port) →
    Denotes (bared authority) t ∧ t.port = defaultPort
  misread : ∀ host name numeral, authority = host ++ ':' :: numeral → HostText host name →
    ':' ∉ numeral → Text.port? (.ofList numeral) = none ∨ name = [] →
    t = .domain (.ofList (bared authority)) defaultPort ∧ ':' ∈ bared authority

theorem sent_of_hostPort (given : HostPort authority t) : Sent authority t := by
  cases given with
  | @mk host name numeral _ written filled read denotes =>
    have apart := colon_notMem read
    have known : Named (host ++ ':' :: numeral) name t.port := .hostPort written filled read
    refine ⟨?_, fun none => (none ⟨name, t.port, known⟩).elim, ?_⟩
    · intro name' port' named
      generalize whole : host ++ ':' :: numeral = authority at named
      cases named with
      | hostPort written' _ read' =>
        obtain ⟨rfl, rfl⟩ := written.cut_unique apart written' (colon_notMem read') whole
        exact ⟨denotes, Option.some.inj (read.symm.trans read')⟩
      | host alone => exact (alone.no_port written apart whole.symm).elim
    · intro host' name' numeral' same written' apart' bad
      obtain ⟨rfl, rfl⟩ := written.cut_unique apart written' apart' same
      obtain none | none := bad
      · rw [read] at none
        cases none
      · exact (filled none).elim

/-- What is read as no target is sent on as a whole. -/
theorem sent_bared {fault : TargetFault} (refused : Target.parse (.ofList authority) = .error fault) :
    Sent authority (hostTarget (.ofList (bared authority))) := by
  refine ⟨?_, fun _ => ⟨denotes_hostTarget _, hostTarget_port _⟩, ?_⟩
  · rintro name port (⟨written, filled, read⟩ | alone)
    · obtain ⟨t, parsed⟩ := (HostPort.mk written filled read (.domain name port)).parses
      rw [parsed] at refused
      cases refused
    · rw [alone.bared_eq]
      exact ⟨denotes_hostTarget name, hostTarget_port _⟩
  · rintro host name numeral rfl written apart -
    refine ⟨by rw [hostTarget, parse?_bared_cut written apart], ?_⟩
    rw [bared_cut]
    simp

theorem authorityTarget_of_ok (parsed : Target.parse (.ofList authority) = .ok t)
    (filled : authority ≠ []) : authorityTarget (.ofList authority) = .ok t := by
  rw [authorityTarget, if_neg (by simpa using filled), parsed]

theorem authorityTarget_of_error {fault : TargetFault}
    (refused : Target.parse (.ofList authority) = .error fault) (filled : authority ≠ []) :
    authorityTarget (.ofList authority) = .ok (hostTarget (.ofList (bared authority))) := by
  rw [authorityTarget, if_neg (by simpa using filled), refused, withoutBrackets_ofList, hostTarget]
  dsimp only
  cases IpAddress.parse? (.ofList (bared authority)) <;> rfl

theorem exists_sent (filled : authority ≠ []) :
    ∃ t, authorityTarget (.ofList authority) = .ok t ∧ Sent authority t := by
  cases parsed : Target.parse (.ofList authority) with
  | ok t => exact ⟨t, authorityTarget_of_ok parsed filled, sent_of_hostPort (.of_parse parsed)⟩
  | error fault => exact ⟨_, authorityTarget_of_error parsed filled, sent_bared parsed⟩

end Target

section Requests

/-- A request for an absolute URI is forwarded to the host and the port that its authority names,
if it names them, and otherwise to the default port of what is left of it without brackets. It is
refused for its authority only if that is empty. So the host of an authority whose port is no
number, or is out of range, goes with the port into the name of a domain. -/
theorem forwarded_as_named (head : Bytes) :
    (∀ target forwarded, parse head = .ok (.forward target forwarded) →
      Nonempty (Absolute head) ∧ ∀ r : Absolute head, Sent r.authority target) ∧
    ∀ r : Absolute head, sameLetters (.ofList r.method) "CONNECT" = false →
      (r.authority = [] → parse head = .error .emptyHost) ∧
        (r.authority ≠ [] → ∃ target, parse head = .ok (.forward target (utf8 (.ofList r.forHost)))) := by
  refine ⟨fun target forwarded accepted => ⟨exists_absolute accepted, fun r => ?_⟩,
    fun r other => ⟨fun empty => ?_, fun filled => ?_⟩⟩
  · obtain ⟨-, reached, -⟩ := (forward_iff r).mp accepted
    have filled : r.authority ≠ [] := by
      intro empty
      rw [empty] at reached
      cases reached
    obtain ⟨t, reached', sent⟩ := exists_sent filled
    cases reached.symm.trans reached'
    exact sent
  · rw [r.parse_eq, other, empty]
    rfl
  · obtain ⟨t, reached, -⟩ := exists_sent filled
    exact ⟨t, (forward_iff r).mpr ⟨other, reached, rfl⟩⟩

/-- A port out of range: the request to connect is refused for it, and the request to forward is
taken to the default port of a host with a colon in its name. -/
theorem bad_port_forwarded :
    serveHttp [utf8 "GET http://example.com:99999/ HTTP/1.1\r\n\r\n"] =
      ⟨[], .accepted (.domain "example.com:99999" 80) (utf8 "GET / HTTP/1.1\r\n\r\n") []⟩ ∧
    serveHttp [utf8 "CONNECT example.com:99999 HTTP/1.1\r\n\r\n"] =
      .refuse (.target (.badPort "example.com:99999")) badRequest := by
  constructor <;> decide +kernel

end Requests

end LocalProxy.ProxyRequest
