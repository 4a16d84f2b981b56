import LocalProxy.Proofs.Handshake.Authorities
import LocalProxy.Proofs.Socks.Datagrams
import LocalProxy.Proofs.Socks.Grammar

/-! Targets without a host. The reader of targets makes none, but destinations that do not go through
it may name the empty domain: a SOCKS domain of no octets, and an authority that is nothing but
brackets. Main statement: `hostless_iff`. -/
namespace LocalProxy

open Text Handshake

section Socks

variable {code : UInt8} {port : UInt16} {address front : Bytes}

theorem Socks.address_empty_iff : Socks.Address code (.domain "" port) address ↔
    code = 3 ∧ address = 0 :: wordBytes port := by
  constructor
  · rintro ⟨⟩
    exact ⟨rfl, rfl⟩
  · rintro ⟨rfl, rfl⟩
    exact .domain "" port (by decide)

/-- A handshake of SOCKS 5 or 4a that asks for the empty domain. -/
inductive Socks.AsksForNone (port : UInt16) : Bytes → Prop
  | five {methods : Bytes} {reserved : UInt8} (count : methods.length ≤ 255) (offered : 0 ∈ methods) :
      AsksForNone port
        ([5, methods.length.toUInt8] ++ methods ++ [5, 1, reserved, 3] ++ 0 :: wordBytes port)
  | four {user : Bytes} {x : UInt8} (named : Field 255 user) (marked : x ≠ 0) :
      AsksForNone port ([4, 1] ++ wordBytes port ++ [0, 0, 0, x] ++ user ++ [0, 0])

theorem Socks.connects_empty_iff : Socks.Connects (.domain "" port) front ↔
    Socks.AsksForNone port front := by
  have empty : utf8 "" = [] := by decide
  constructor
  · intro written
    generalize same : Target.domain "" port = target at written
    cases written with
    | five count offered written =>
      subst same
      obtain ⟨rfl, rfl⟩ := Socks.address_empty_iff.mp written
      exact .five count offered
    | four => cases same
    | fourDomain named marked text =>
      cases same
      have asks : Socks.AsksForNone port _ := .four named marked
      simpa [empty] using asks
  · rintro (⟨count, offered⟩ | ⟨named, marked⟩)
    · exact .five count offered (Socks.address_empty_iff.mpr ⟨rfl, rfl⟩)
    · have text : Field 255 (utf8 "") := ⟨by decide, by decide⟩
      have connects : Socks.Connects (.domain "" port) _ := .fourDomain named marked text
      simpa [empty] using connects

theorem Socks.AsksForNone.opensSocks (asks : Socks.AsksForNone port front) (payload : Bytes) :
    Socks.OpensSocks (front ++ payload) := by
  cases asks with
  | five => exact .inr rfl
  | four => exact .inl rfl

end Socks

theorem Target.parse_hostless {s : String} {port : UInt16} :
    Target.parse s ≠ .ok (.domain "" port) := by
  intro read
  rw [← String.ofList_toList (s := s)] at read
  have written := HostPort.of_parse read
  generalize s.toList = text, same : Target.domain "" port = target at written
  obtain ⟨-, filled, -, denotes⟩ := written
  cases denotes with
  | domain name port' =>
    injection same with empty _
    exact filled (by simpa [← String.toList_inj] using empty.symm)
  | v4 | v6 | zoned => cases same

namespace ProxyRequest

variable {authority : List Char} {port : UInt16}

/-- Some brackets, first those that open and then those that close. -/
def Brackets (s : List Char) : Prop :=
  s ≠ [] ∧ ∃ opening closing, s = .replicate opening '[' ++ .replicate closing ']'

theorem bared_eq_nil_iff {s : List Char} : bared s = [] ↔
    ∃ opening closing, s = .replicate opening '[' ++ .replicate closing ']' := by
  rw [bared, List.rdropWhile_eq_nil_iff]
  constructor
  · intro closes
    have opens : ∀ c ∈ s.takeWhile (· == '['), c = '[' := fun c member =>
      eq_of_beq (List.mem_takeWhile_imp (p := (· == '[')) member)
    have closed : ∀ c ∈ s.dropWhile (· == '['), c = ']' := fun c member =>
      eq_of_beq (closes c member)
    refine ⟨(s.takeWhile (· == '[')).length, (s.dropWhile (· == '[')).length, ?_⟩
    rw [← List.eq_replicate_of_mem opens, ← List.eq_replicate_of_mem closed,
      List.takeWhile_append_dropWhile]
  · rintro ⟨opening, closing, rfl⟩ c member
    rw [List.dropWhile_append_of_pos (by simp)] at member
    exact beq_of_eq (List.eq_of_mem_replicate ((List.dropWhile_suffix _).subset member))

theorem authorityTarget_hostless_iff : authorityTarget (.ofList authority) = .ok (.domain "" port) ↔
    Brackets authority ∧ port = defaultPort := by
  rw [Brackets, ← bared_eq_nil_iff]
  by_cases filled : authority = []
  · rw [filled]
    constructor
    · intro same
      cases same
    · rintro ⟨⟨holds, -⟩, -⟩
      exact absurd rfl holds
  cases parsed : Target.parse (.ofList authority) with
  | ok t =>
    rw [authorityTarget_of_ok parsed filled]
    constructor
    · rintro ⟨⟩
      exact absurd parsed Target.parse_hostless
    · rintro ⟨⟨-, none⟩, -⟩
      obtain ⟨-, -, -, -⟩ := HostPort.of_parse parsed
      rw [bared_cut] at none
      simp at none
  | error fault =>
    rw [authorityTarget_of_error parsed filled]
    constructor
    · intro same
      unfold hostTarget at same
      split at same
      next => cases same
      next =>
        injection same with same
        injection same with empty port
        exact ⟨⟨filled, by simpa [← String.toList_inj] using empty⟩, port.symm⟩
    · rintro ⟨⟨-, none⟩, rfl⟩
      rw [none]
      rfl

end ProxyRequest

namespace Handshake

variable {s payload : Bytes} {port : UInt16} {target : Target}

/-- A request for an absolute URI with nothing but brackets for an authority, and all that is
forwarded for it. -/
inductive NamesNone (s : Bytes) : Bytes → Prop
  | mk {size : Nat} (ends : HeadEnds s size) (within : size ≤ maxHead)
      (r : ProxyRequest.Absolute (s.take size))
      (other : sameLetters (.ofList r.method) "CONNECT" = false)
      (brackets : ProxyRequest.Brackets r.authority) :
      NamesNone s (utf8 (.ofList r.forHost) ++ s.drop size)

theorem takes_iff_joined {e : Exchange} :
    Takes e target payload ↔ (joined e).outcome = .accepted target [] payload := by
  constructor
  · rintro ⟨buffered, unread, accepted, rfl⟩
    rw [joined, accepted]
  · intro accepted
    unfold joined at accepted
    split at accepted
    next target' buffered unread same =>
      cases accepted
      exact ⟨buffered, unread, same, rfl⟩
    next other => exact absurd accepted (other _ _ _)

/-- What a client asks to be connected to is read as a target. -/
theorem exists_parsed_of_connect {head : Bytes}
    (asked : ProxyRequest.parse head = .ok (.connect target)) :
    ∃ uri, Target.parse uri = .ok target := by
  unfold ProxyRequest.parse at asked
  split at asked
  · cases asked
  unfold ProxyRequest.ofText at asked
  split at asked
  · cases asked
  split at asked
  · cases asked
  split at asked
  · split at asked
    next parsed =>
      cases asked
      exact ⟨_, parsed⟩
    next => cases asked
  · split at asked
    · cases asked
    · split at asked <;> cases asked

theorem serveHttp_hostless_iff {arriving : List Bytes} :
    Takes (serveHttp arriving) (.domain "" port) payload ↔
      NamesNone arriving.flatten payload ∧ port = ProxyRequest.defaultPort := by
  rw [takes_iff_joined]
  have served := serveHttp_served arriving
  generalize arriving.flatten = s at served
  constructor
  · intro accepted
    generalize joined (serveHttp arriving) = e at served accepted
    cases served with
    | connected ends within asked =>
      cases accepted
      obtain ⟨uri, parsed⟩ := exists_parsed_of_connect asked
      exact absurd parsed Target.parse_hostless
    | forwarded ends within asked =>
      cases accepted
      obtain ⟨r⟩ := ProxyRequest.exists_absolute asked
      obtain ⟨other, reached, rfl⟩ := (ProxyRequest.forward_iff r).mp asked
      obtain ⟨brackets, port⟩ := ProxyRequest.authorityTarget_hostless_iff.mp reached
      exact ⟨.mk ends within r other brackets, port⟩
    | refused | tooLarge | closed => cases accepted
  · rintro ⟨⟨ends, within, r, other, brackets⟩, rfl⟩
    have reached := ProxyRequest.authorityTarget_hostless_iff.mpr ⟨brackets, rfl⟩
    have asked := (ProxyRequest.forward_iff r).mpr ⟨other, reached, rfl⟩
    rw [served.unique (.forwarded ends within asked)]

theorem serveSocks_hostless_iff {here : Endpoint} {arriving : List Bytes} :
    Takes (serveSocks here arriving) (.domain "" port) payload ↔
      ∃ front, Socks.AsksForNone port front ∧ arriving.flatten = front ++ payload := by
  rw [(Socks.serveSocks_speaks here).accepts arriving _ _ trivial]
  simp only [Socks.connects_empty_iff]

theorem serveHttp_nothing {arriving : List Bytes} (nothing : arriving.flatten = []) :
    ¬ Takes (serveHttp arriving) target payload := by
  rw [takes_iff_joined]
  intro accepted
  have served := serveHttp_served arriving
  rw [nothing] at served
  have unended : ∀ {size}, ¬ HeadEnds [] size := fun ends => by
    obtain ⟨before, after, whole, -⟩ := ends.written
    simp [emptyLine] at whole
  generalize joined (serveHttp arriving) = e at served accepted
  cases served with
  | connected ends | forwarded ends => exact unended ends
  | refused | tooLarge | closed => cases accepted

/-- An inbound of both kinds takes what one of them takes. -/
theorem serveMixed_takes_iff {here : Endpoint} {arriving : List Bytes} :
    Takes (serveMixed here arriving) target payload ↔
      Socks.OpensSocks arriving.flatten ∧ Takes (serveSocks here arriving) target payload ∨
        ¬ Socks.OpensSocks arriving.flatten ∧ Takes (serveHttp arriving) target payload := by
  by_cases opens : Socks.OpensSocks arriving.flatten
  · simp only [Socks.serveMixed_eq here opens, opens, true_and, not_true, false_and, or_false]
  · simp only [opens, false_and, not_false_eq_true, true_and, false_or]
    cases whole : arriving.flatten with
    | nil =>
      simp only [serveMixed, whole, serveHttp_nothing whole, iff_false]
      rintro ⟨_, _, accepted, -⟩
      cases accepted
    | cons b rest =>
      have other : ¬ (b = Socks.version4 ∨ b = Socks.version5) := by
        rw [whole] at opens
        rintro (rfl | rfl)
        · exact opens (.inl rfl)
        · exact opens (.inr rfl)
      simp only [serveMixed, whole, if_neg other]

theorem decodeDatagram_hostless_iff {d : Bytes} :
    Socks.decodeDatagram d = .ok (.domain "" port, payload) ↔
      ∃ a b, d = [a, b, 0, 3] ++ 0 :: wordBytes port ++ payload := by
  simp only [Socks.decodeDatagram_eq_ok_iff, Socks.address_empty_iff]
  constructor
  · rintro ⟨a, b, _, _, ⟨rfl, rfl⟩, rfl⟩
    exact ⟨a, b, rfl⟩
  · rintro ⟨a, b, rfl⟩
    exact ⟨a, b, _, _, ⟨rfl, rfl⟩, rfl⟩

/-- The empty domain reaches an inbound in just these ways. An authority that is empty is refused, and
one of brackets alone is not, whose port is the default one. A SOCKS domain of no octets is taken as it
is, in a handshake of version 5 or 4a and in a datagram. A client that asks to be connected to
it by HTTP is refused. -/
theorem hostless_iff (here : Endpoint) (arriving : List Bytes) (port : UInt16) (payload d : Bytes) :
    (Takes (serveHttp arriving) (.domain "" port) payload ↔
      NamesNone arriving.flatten payload ∧ port = ProxyRequest.defaultPort) ∧
    (Takes (serveSocks here arriving) (.domain "" port) payload ↔
      ∃ front, Socks.AsksForNone port front ∧ arriving.flatten = front ++ payload) ∧
    (Takes (serveMixed here arriving) (.domain "" port) payload ↔
      (∃ front, Socks.AsksForNone port front ∧ arriving.flatten = front ++ payload) ∨
        ¬ Socks.OpensSocks arriving.flatten ∧ NamesNone arriving.flatten payload ∧
          port = ProxyRequest.defaultPort) ∧
    (Socks.decodeDatagram d = .ok (.domain "" port, payload) ↔
      ∃ a b, d = [a, b, 0, 3] ++ 0 :: wordBytes port ++ payload) := by
  refine ⟨serveHttp_hostless_iff, serveSocks_hostless_iff, ?_, decodeDatagram_hostless_iff⟩
  rw [serveMixed_takes_iff, serveSocks_hostless_iff, serveHttp_hostless_iff,
    and_iff_right_of_imp]
  rintro ⟨front, asks, whole⟩
  rw [whole]
  exact asks.opensSocks payload

/-- A target without a host is refused where targets are read, and made in the other ways. -/
theorem empty_hosts_taken :
    let here : Endpoint := .v4 ⟨127, 0, 0, 1⟩ 1080
    Target.parse ":80" = .error (.noHost ":80") ∧
    serveHttp [utf8 "GET http:///a HTTP/1.1\r\n\r\n"] = .refuse .emptyHost badRequest ∧
    serveHttp [utf8 "GET http://[]/a HTTP/1.1\r\n\r\n"] =
      ⟨[], .accepted (.domain "" 80) (utf8 "GET /a HTTP/1.1\r\n\r\n") []⟩ ∧
    (serveSocks here [[5, 1, 0, 5, 1, 0, 3, 0, 0, 80]]).outcome = .accepted (.domain "" 80) [] [] ∧
    (serveSocks here [[4, 1, 0, 80, 0, 0, 0, 1, 0, 0]]).outcome = .accepted (.domain "" 80) [] [] ∧
    Socks.decodeDatagram [0, 0, 0, 3, 0, 0, 53, 97] = .ok (.domain "" 53, [97]) := by
  refine ⟨?_, ?_, ?_, ?_, ?_, ?_⟩ <;> decide +kernel

end Handshake

end LocalProxy
