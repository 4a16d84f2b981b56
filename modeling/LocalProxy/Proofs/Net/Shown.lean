import LocalProxy.Proofs.Net.Hosts
import LocalProxy.Proofs.Net.Written

/-! What the text of a target names. An address is read back; so is a domain whose host stands for
itself in front of a port. The host of a domain may be anything that was in brackets, though, and
the text does not have these. Main statement: `shown_read_back_iff`. -/
namespace LocalProxy

open Text

/-- A target whose text names it: the host of a domain is neither an address nor anything that
would have to stand in brackets. -/
def Target.Plain : Target → Prop
  | address _ => True
  | domain host _ =>
    host.toList.head? ≠ some '[' ∧ ':' ∉ host.toList ∧ Ipv4.parse? host = none

/-- What the text of a target is read as. -/
inductive ShownAs : Target → Except TargetFault Target → Prop
  | address (e : Endpoint) : ShownAs (.address e) (.ok (.address e))
  | plain {host : String} {port : UInt16} (plain : Target.Plain (.domain host port)) :
      ShownAs (.domain host port) (.ok (.domain host port))
  | literal {host : String} {ip : Ipv4} (literal : Ipv4.parse? host = some ip) (port : UInt16) :
      ShownAs (.domain host port) (.ok (.address (.v4 ip port)))
  | unwrapped {host : String} {name : List Char} {other : Target}
      (wrapped : host.toList = '[' :: (name ++ [']'])) (denotes : Denotes name other) :
      ShownAs (.domain host other.port) (.ok other)
  | hostless {host : String} (wrapped : host.toList = ['[', ']']) (port : UInt16) :
      ShownAs (.domain host port) (.error (.noHost (Target.domain host port).text))
  | unwritten {host : String} (unwritten : ∀ name, ¬ HostText host.toList name) (port : UInt16) :
      ShownAs (.domain host port) (.error (.notHostPort (Target.domain host port).text))

/-- Where a target is written, its host and its port stand on the two sides of the last colon. -/
theorem HostPort.cut {s host numeral : List Char} {t : Target} (written : HostPort s t)
    (cut : s = host ++ ':' :: numeral) (apart : ':' ∉ numeral) : ∃ name, HostText host name ∧
      name ≠ [] ∧ Text.port? (.ofList numeral) = some t.port ∧ Denotes name t := by
  cases written with
  | @mk host' name numeral' _ written filled port denotes =>
    have last := (splitAtLast_eq_some_iff.mpr ⟨rfl, colon_notMem port⟩).symm.trans
      (splitAtLast_eq_some_iff.mpr ⟨cut, apart⟩)
    cases last
    exact ⟨name, written, filled, port, denotes⟩

/-- A host that needs no brackets denotes an address only if it is the literal of an IPv4
address. -/
theorem Denotes.literal_of_plain {name : List Char} {e : Endpoint} (apart : ':' ∉ name)
    (denotes : Denotes name (.address e)) :
    ∃ ip, Ipv4.parse? (.ofList name) = some ip ∧ e = .v4 ip e.port := by
  have few : ∀ {front : List Char} {ip : Ipv6}, Ipv6.parse? (.ofList front) = some ip →
      ':' ∉ front → False := by
    intro front ip literal apart
    have colons := (Ipv6.plain_of_parse? literal).1
    rw [List.count_eq_zero.mpr apart] at colons
    omega
  cases denotes with
  | v4 literal port => exact ⟨_, literal, rfl⟩
  | v6 literal port => exact (few literal apart).elim
  | zoned literal number port =>
    exact (few literal fun member => apart (List.mem_append_left _ member)).elim

namespace Target

variable {host : String} {name : List Char} {port : UInt16} {e : Endpoint} {t : Target}

theorem toList_text_domain (host : String) (port : UInt16) :
    (domain host port).text.toList = host.toList ++ ':' :: (toString port.toNat).toList := by
  simp [text]

/-- An endpoint that the text of a domain is read as has its host and its port. -/
theorem denotes_of_endpoint (found : Endpoint.parse? (domain host port).text = some e) :
    e.port = port ∧ ∃ name, HostText host.toList name ∧ name ≠ [] ∧ Denotes name (.address e) := by
  have read : parse (.ofList (domain host port).text.toList) = .ok (address e) := by
    rw [String.ofList_toList, parse, found]
  obtain ⟨name, written, filled, value, denotes⟩ := (HostPort.of_parse read).cut
    (toList_text_domain host port) (colon_notMem_decimal port.toNat)
  rw [String.ofList_toList, port?_decimal] at value
  exact ⟨(Option.some.inj value).symm, name, written, filled, denotes⟩

/-- The text of a domain that is no endpoint is a host and a port, if it is anything. -/
theorem parse_text_of_none (none : Endpoint.parse? (domain host port).text = none) :
    parse (domain host port).text = match bareHost? host.toList with
      | .none => .error (.notHostPort (domain host port).text)
      | some name => if name = [] then .error (.noHost (domain host port).text)
        else .ok (domain (.ofList name) port) := by
  have cut : splitAtLast ':' (domain host port).text.toList =
      some (host.toList, (toString port.toNat).toList) :=
    splitAtLast_eq_some_iff.mpr ⟨toList_text_domain host port, colon_notMem_decimal port.toNat⟩
  simp only [parse, none, splitHostPort?, cut, bind, Option.bind_some]
  cases bareHost? host.toList with
  | none => rfl
  | some name =>
    simp only [Option.bind_some, pure, String.ofList_toList, port?_decimal,
      String.ofList_eq_empty_iff]

/-- The literal of an IPv4 address is read as the address. -/
theorem parse_text_literal {ip : Ipv4} (literal : Ipv4.parse? host = some ip) (port : UInt16) :
    Endpoint.parse? (domain host port).text = some (.v4 ip port) := by
  rw [Ipv4.parse?, whole_eq_some] at literal
  rw [Endpoint.parse?, toList_text_domain, Endpoint.readV4_literal literal]
  rfl

theorem shownAs_of_endpoint (found : Endpoint.parse? (domain host port).text = some e) :
    ShownAs (.domain host port) (.ok (.address e)) := by
  obtain ⟨rfl, name, written, -, denotes⟩ := denotes_of_endpoint found
  generalize wrapped : host.toList = front at written
  cases written with
  | plain _ apart =>
    obtain ⟨ip, literal, same⟩ := denotes.literal_of_plain apart
    rw [← wrapped, String.ofList_toList] at literal
    rw [same]
    exact .literal literal e.port
  | bracketed => exact .unwrapped wrapped denotes

theorem shownAs_of_none (filled : host ≠ "")
    (none : Endpoint.parse? (domain host port).text = none) :
    ShownAs (.domain host port) (parse (domain host port).text) := by
  rw [parse_text_of_none none]
  cases bare : bareHost? host.toList with
  | none =>
    refine .unwritten (fun name written => ?_) port
    cases bare.symm.trans (bareHost?_eq_some_iff.mpr written)
  | some name =>
    have written := bareHost?_eq_some_iff.mp bare
    generalize wrapped : host.toList = front at written
    dsimp only
    cases written with
    | plain unopened apart =>
      obtain rfl := String.toList_inj.mp (wrapped.trans String.toList_ofList.symm)
      rw [if_neg (by simpa using filled)]
      refine .plain ⟨by rwa [wrapped], by rwa [wrapped], ?_⟩
      refine Option.eq_none_iff_forall_ne_some.mpr fun ip literal => ?_
      cases none.symm.trans (parse_text_literal literal port)
    | bracketed =>
      split
      next empty => exact .hostless (by rw [wrapped, empty]; rfl) port
      next => exact .unwrapped wrapped (.domain name port)

theorem shownAs_domain (filled : host ≠ "") (port : UInt16) :
    ShownAs (.domain host port) (parse (domain host port).text) := by
  cases found : Endpoint.parse? (domain host port).text with
  | some e =>
    have read : parse (domain host port).text = .ok (address e) := by rw [parse, found]
    rw [read]
    exact shownAs_of_endpoint found
  | none => exact shownAs_of_none filled found

theorem shownAs_of_parse {s : String} (read : parse s = .ok t) : ShownAs t (parse t.text) := by
  cases t with
  | address e =>
    have back : parse (address e).text = .ok (address e) := by
      rw [text, parse, e.parse?_text]
    rw [back]
    exact .address e
  | domain host port =>
    refine shownAs_domain ?_ port
    rw [← s.ofList_toList] at read
    generalize s.toList = s at read
    have written := HostPort.of_parse read
    generalize same : domain host port = t at written
    cases written with
    | mk _ filled _ denotes =>
      cases denotes <;> cases same
      simpa using filled

end Target

namespace ShownAs

variable {t other : Target} {r : Except TargetFault Target}

theorem plain_of_same (shown : ShownAs t (.ok other)) (same : other = t) : t.Plain := by
  cases shown with
  | address e => trivial
  | plain plain => exact plain
  | literal literal port => cases same
  | @unwrapped host name _ wrapped denotes =>
    -- The brackets make the host longer than what it is read as.
    generalize other.port = port at same
    subst same
    cases denotes
    have lengths := congrArg List.length wrapped
    simp at lengths
    omega

theorem same_of_plain (shown : ShownAs t r) (plain : t.Plain) : r = .ok t := by
  cases shown with
  | address e => rfl
  | plain => rfl
  | literal literal port => cases plain.2.2.symm.trans literal
  | unwrapped wrapped denotes => exact absurd (by rw [wrapped]; rfl) plain.1
  | hostless wrapped port => exact absurd (by rw [wrapped]; rfl) plain.1
  | unwritten unwritten port => exact absurd (.plain plain.1 plain.2.1) (unwritten _)

end ShownAs

/-- Whatever text a target was read from, its own text is read as `ShownAs` says; it names the
target again just when this is an address, or a domain whose host is neither an IPv4 literal nor in
need of brackets. -/
theorem shown_read_back_iff {s : String} {t : Target} (read : Target.parse s = .ok t) :
    ShownAs t (Target.parse t.text) ∧ (Target.parse t.text = .ok t ↔ t.Plain) := by
  have shown := Target.shownAs_of_parse read
  refine ⟨shown, fun back => ?_, shown.same_of_plain⟩
  rw [back] at shown
  exact shown.plain_of_same rfl

/-- A zone that is a number is a part of the address. -/
theorem shown_read_back_iff_zoned :
    Target.parse "[fe80::1%7]:80" = .ok (.address (.v6 ⟨0xFE80, 0, 0, 0, 0, 0, 0, 1⟩ 80 7)) ∧
      Target.parse (Target.address (.v6 ⟨0xFE80, 0, 0, 0, 0, 0, 0, 1⟩ 80 7)).text =
        .ok (.address (.v6 ⟨0xFE80, 0, 0, 0, 0, 0, 0, 1⟩ 80 7)) := by
  have read : Target.parse "[fe80::1%7]:80" =
      .ok (.address (.v6 ⟨0xFE80, 0, 0, 0, 0, 0, 0, 1⟩ 80 7)) := by decide +kernel
  exact ⟨read, (shown_read_back_iff read).2.mpr trivial⟩

/-- Hosts out of brackets are shown without them: the text is then refused, or names another
destination. -/
theorem brackets_not_shown :
    Target.parse "[a:b]:1" = .ok (.domain "a:b" 1) ∧
      (Target.domain "a:b" 1).text = "a:b:1" ∧
      Target.parse "a:b:1" = .error (.notHostPort "a:b:1") ∧
      Target.parse "[[::1]]:80" = .ok (.domain "[::1]" 80) ∧
      (Target.domain "[::1]" 80).text = "[::1]:80" ∧
      Target.parse "[::1]:80" = .ok (.address (.v6 ⟨0, 0, 0, 0, 0, 0, 0, 1⟩ 80 0)) := by
  decide +kernel

end LocalProxy
