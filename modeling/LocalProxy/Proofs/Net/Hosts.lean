import LocalProxy.Proofs.Net.Literals

/-! The hosts that `host:port` texts name, and the targets that the parser makes of them. A text is
read as a target just when it is a host and a port, both well written: `HostPort`. -/
namespace LocalProxy

open Text

/-- A host as it stands in front of a port, and the name of the host, which is without brackets. -/
inductive HostText : List Char → List Char → Prop
  | plain {name : List Char} (unopened : name.head? ≠ some '[') (apart : ':' ∉ name) :
      HostText name name
  | bracketed (name : List Char) : HostText ('[' :: (name ++ [']'])) name

/-- The name is that of the target's host: a domain, or an address as a literal writes it. -/
inductive Denotes : List Char → Target → Prop
  | domain (name : List Char) (port : UInt16) : Denotes name (.domain (.ofList name) port)
  | v4 {name : List Char} {ip : Ipv4} (literal : Ipv4.parse? (.ofList name) = some ip)
      (port : UInt16) : Denotes name (.address (.v4 ip port))
  | v6 {name : List Char} {ip : Ipv6} (literal : Ipv6.parse? (.ofList name) = some ip)
      (port : UInt16) : Denotes name (.address (.v6 ip port 0))
  | zoned {name zone : List Char} {ip : Ipv6} {scope : UInt32}
      (literal : Ipv6.parse? (.ofList name) = some ip)
      (number : natBelow? UInt32.size zone = some scope.toNat) (port : UInt16) :
      Denotes (name ++ '%' :: zone) (.address (.v6 ip port scope))

/-- The text is a host and a port, and these are the target's. -/
inductive HostPort : List Char → Target → Prop
  | mk {host name numeral : List Char} {t : Target} (written : HostText host name)
      (filled : name ≠ []) (port : Text.port? (.ofList numeral) = some t.port)
      (denotes : Denotes name t) : HostPort (host ++ ':' :: numeral) t

section Cut

variable {host name numeral : List Char}

theorem bareHost?_eq_some_iff : bareHost? host = some name ↔ HostText host name := by
  constructor
  · intro bare
    unfold bareHost? at bare
    split at bare
    next inner =>
      obtain ⟨closed, same⟩ := Option.ite_none_right_eq_some.mp bare
      obtain ⟨front, rfl⟩ := List.getLast?_eq_some_iff.mp closed
      rw [List.dropLast_concat, Option.some.injEq] at same
      exact same ▸ .bracketed front
    next unopened =>
      obtain ⟨apart, same⟩ := Option.ite_none_left_eq_some.mp bare
      cases same
      refine .plain (fun opened => ?_) apart
      obtain ⟨rest, opens⟩ := List.head?_eq_some_iff.mp opened
      exact unopened rest opens
  · intro written
    cases written with
    | plain unopened apart =>
      unfold bareHost?
      split
      next => exact absurd rfl unopened
      next => exact if_neg apart
    | bracketed => simp [bareHost?]

theorem HostText.unique {other : List Char} (written : HostText host name)
    (written' : HostText host other) : name = other :=
  Option.some.inj ((bareHost?_eq_some_iff.mpr written).symm.trans
    (bareHost?_eq_some_iff.mpr written'))

/-- A text is cut into a host and what follows its colon in one way. -/
theorem HostText.cut_unique {host' name' numeral' : List Char} (written : HostText host name)
    (apart : ':' ∉ numeral) (written' : HostText host' name') (apart' : ':' ∉ numeral')
    (same : host ++ ':' :: numeral = host' ++ ':' :: numeral') :
    name = name' ∧ numeral = numeral' := by
  have cut := (splitAtLast_eq_some_iff.mpr ⟨rfl, apart⟩).symm.trans
    (splitAtLast_eq_some_iff.mpr ⟨same, apart'⟩)
  obtain ⟨rfl, rfl⟩ := Prod.mk.inj (Option.some.inj cut)
  exact ⟨written.unique written', rfl⟩

/-- A port has no colon in it. -/
theorem colon_notMem {port : UInt16} (read : Text.port? (.ofList numeral) = some port) :
    ':' ∉ numeral := by
  obtain ⟨n, value, -⟩ := Option.map_eq_some_iff.mp read
  rw [String.toList_ofList] at value
  intro member
  have plain := (natBelow?_plain value).2 ':' member
  revert plain
  decide

theorem splitHostPort?_eq_some_iff {s : List Char} {host' numeral' : String} :
    splitHostPort? (.ofList s) = some (host', numeral') ↔
      ∃ host name numeral, s = host ++ ':' :: numeral ∧ ':' ∉ numeral ∧ HostText host name ∧
        host' = .ofList name ∧ numeral' = .ofList numeral := by
  simp only [splitHostPort?, String.toList_ofList, bind, Option.bind_eq_some_iff, Prod.exists,
    splitAtLast_eq_some_iff, bareHost?_eq_some_iff, pure, Option.some.injEq, Prod.mk.injEq]
  constructor
  · rintro ⟨host, numeral, ⟨whole, apart⟩, name, written, rfl, rfl⟩
    exact ⟨host, name, numeral, whole, apart, written, rfl, rfl⟩
  · rintro ⟨host, name, numeral, whole, apart, written, rfl, rfl⟩
    exact ⟨host, numeral, ⟨whole, apart⟩, name, written, rfl, rfl⟩

theorem listenPort?_eq_some {address : String} {port : UInt16} :
    listenPort? address = some port ↔ port ≠ 0 ∧ ∃ host numeral,
      splitHostPort? address = some (host, numeral) ∧ Text.port? numeral = some port := by
  simp only [listenPort?, bind, Option.bind_eq_some_iff, Option.filter_eq_some_iff,
    decide_eq_true_eq, Prod.exists]
  constructor
  · rintro ⟨host, numeral, split, named, nonzero⟩
    exact ⟨nonzero, host, numeral, split, named⟩
  · rintro ⟨nonzero, host, numeral, split, named⟩
    exact ⟨host, numeral, split, named, nonzero⟩

end Cut

section Parse

variable {s : List Char} {e : Endpoint} {t : Target}

theorem Ipv4.plain_of_parse? {name : List Char} {ip : Ipv4}
    (literal : Ipv4.parse? (.ofList name) = some ip) :
    name ≠ [] ∧ ∀ c ∈ name, InIpv4 c := by
  rw [Ipv4.parse?, String.toList_ofList, whole_eq_some] at literal
  obtain ⟨front, whole, filled, each⟩ := readIpv4_spec literal
  obtain rfl : name = front := by simpa using whole
  exact ⟨filled, each⟩

/-- An IPv6 address has two colons at least. -/
theorem Ipv6.plain_of_parse? {name : List Char} {ip : Ipv6}
    (literal : Ipv6.parse? (.ofList name) = some ip) :
    2 ≤ name.count ':' ∧ ∀ c ∈ name, InIpv6 c := by
  rw [Ipv6.parse?, String.toList_ofList, whole_eq_some] at literal
  obtain ⟨front, whole, each, colons⟩ := readIpv6_spec literal
  obtain rfl : name = front := by simpa using whole
  exact ⟨colons, each⟩

theorem IpAddress.of_parse? {name : String} {ip : IpAddress} (known : parse? name = some ip) :
    (∃ v4, Ipv4.parse? name = some v4 ∧ ip = .v4 v4) ∨
      ∃ v6, Ipv6.parse? name = some v6 ∧ ip = .v6 v6 := by
  unfold IpAddress.parse? at known
  cases literal : Ipv4.parse? name with
  | some v4 =>
    rw [literal] at known
    exact .inl ⟨v4, rfl, (Option.some.inj known).symm⟩
  | none =>
    rw [literal] at known
    obtain ⟨v6, literal, same⟩ := Option.map_eq_some_iff.mp known
    exact .inr ⟨v6, literal, same.symm⟩

theorem readV4_hostPort (read : whole (Endpoint.readV4 s) = some e) : HostPort s (.address e) := by
  simp only [whole_eq_some, Endpoint.readV4, bind, Option.bind_eq_some_iff, Prod.exists, pure,
    Option.some.injEq, Prod.mk.injEq] at read
  obtain ⟨ip, rest, first, port, _, second, rfl, rfl⟩ := read
  obtain ⟨numeral, rfl, -, value⟩ := Endpoint.readPort_spec second
  obtain ⟨front, rfl, filled, each⟩ := readIpv4_spec first
  have ends : Ends InIpv4 (':' :: (numeral ++ [])) := ends_cons (by decide) _
  have literal : Ipv4.parse? (.ofList front) = some ip := by
    rw [Ipv4.parse?, String.toList_ofList]
    exact alone_of_append (readIpv4_append ends front) first
  have apart : ∀ c, ¬ InIpv4 c → c ∉ front := fun c out member => out (each c member)
  have unopened : front.head? ≠ some '[' := fun opened =>
    apart '[' (by decide) (List.mem_of_mem_head? opened)
  rw [List.append_nil]
  exact .mk (.plain unopened (apart ':' (by decide))) filled value (.v4 literal port)

theorem readV6_hostPort (read : whole (Endpoint.readV6 s) = some e) : HostPort s (.address e) := by
  simp only [whole_eq_some, Endpoint.readV6, bind, Option.bind_eq_some_iff, Prod.exists, pure,
    readChar_eq_some, Option.some.injEq, Prod.mk.injEq] at read
  obtain ⟨_, rfl, ip, rest, first, _, closed, port, _, second, rfl, rfl⟩ := read
  obtain ⟨numeral, rfl, -, value⟩ := Endpoint.readPort_spec second
  obtain ⟨front, rfl, each, colons⟩ := readIpv6_spec first
  have literal : Ends InIpv6 rest → Ipv6.parse? (.ofList front) = some ip := by
    intro ends
    rw [Ipv6.parse?, String.toList_ofList]
    exact alone_of_append (readIpv6_append ends front) first
  have filled : front ≠ [] := by
    rintro rfl
    simp at colons
  rw [List.append_nil] at closed
  cases zone : Endpoint.readScope rest with
  | none =>
    rw [zone] at closed
    obtain rfl : rest = ']' :: ':' :: numeral := closed
    have known := literal (ends_cons (by decide) _)
    have host := HostPort.mk (.bracketed front) filled value (.v6 known port)
    simpa using host
  | some p =>
    obtain ⟨scope, left⟩ := p
    rw [zone] at closed
    obtain rfl : left = ']' :: ':' :: numeral := closed
    obtain ⟨digits, rfl, -, number⟩ := Endpoint.readScope_spec zone
    have known := literal (ends_cons (by decide) _)
    have host := HostPort.mk (t := .address (.v6 ip port scope)) (.bracketed (front ++ '%' :: digits))
      (by simp) value (.zoned known number port)
    simpa using host

theorem HostPort.of_parse (read : Target.parse (.ofList s) = .ok t) : HostPort s t := by
  unfold Target.parse at read
  split at read
  next e found =>
    cases read
    rw [Endpoint.parse?, String.toList_ofList] at found
    cases v4 : whole (Endpoint.readV4 s) with
    | some e' =>
      rw [v4] at found
      cases found
      exact readV4_hostPort v4
    | none =>
      rw [v4] at found
      exact readV6_hostPort found
  next none =>
    split at read
    next => cases read
    next host numeral split =>
      obtain ⟨host, name, numeral, rfl, apart, written, rfl, rfl⟩ :=
        splitHostPort?_eq_some_iff.mp split
      split at read
      next => cases read
      next port value =>
        split at read
        next => cases read
        next named =>
          cases read
          exact .mk written (by simpa using named) value (.domain name port)

/-- A host and a port, both well written, are read. -/
theorem HostPort.parses (written : HostPort s t) : ∃ t', Target.parse (.ofList s) = .ok t' := by
  cases written with
  | @mk host name numeral _ written filled port denotes =>
    have split : splitHostPort? (.ofList (host ++ ':' :: numeral)) =
        some (.ofList name, .ofList numeral) :=
      splitHostPort?_eq_some_iff.mpr ⟨host, name, numeral, rfl, colon_notMem port, written, rfl, rfl⟩
    have named : String.ofList name ≠ "" := by simpa using filled
    unfold Target.parse
    cases Endpoint.parse? (.ofList (host ++ ':' :: numeral)) with
    | some e => exact ⟨_, rfl⟩
    | none => exact ⟨.domain (.ofList name) t.port, by simp only [split, port, if_neg named]⟩

end Parse

end LocalProxy
