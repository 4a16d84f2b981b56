import LocalProxy.Inbound
import LocalProxy.Proofs.Net.Hosts
import LocalProxy.Proofs.Text.Numerals

/-! The addresses that stand for port settings. Whatever is put together from a host and a port is
taken apart into these again, and names the endpoint that is meant. Main statement:
`port_settings_bind`. -/
namespace LocalProxy

open Text

/-- The port set for a type of inbound. -/
def Ports.of (p : Ports) : InboundType → UInt16
  | .http => p.http
  | .socks => p.socks
  | .redir => p.redir
  | .tproxy => p.tproxy
  | .mixed => p.mixed

/-- The IP address that port settings are bound to: the loopback unless the LAN is allowed, and else
the one that the host writes, for which an IPv6 address may stand in brackets. -/
inductive BindsTo : Bool → String → IpAddress → Prop
  | loopback (host : String) : BindsTo false host (.v4 ⟨127, 0, 0, 1⟩)
  | wildcard : BindsTo true "*" (.v4 ⟨0, 0, 0, 0⟩)
  | v4 {host : String} {ip : Ipv4} (literal : Ipv4.parse? host = some ip) :
      BindsTo true host (.v4 ip)
  | v6 {host : String} {ip : Ipv6} (literal : Ipv6.parse? host = some ip) :
      BindsTo true host (.v6 ip)
  | bracketed {name : String} {ip : Ipv6} (literal : Ipv6.parse? name = some ip) :
      BindsTo true ("[" ++ name ++ "]") (.v6 ip)

section Address

variable {host name address : String} {port : UInt16}

/-- A printed port is cut off its host. -/
theorem splitHostPort?_decimal {front : List Char} (written : HostText front name.toList)
    (whole : address.toList = front ++ ':' :: (toString port.toNat).toList) :
    splitHostPort? address = some (name, toString port.toNat) := by
  rw [← address.ofList_toList, splitHostPort?_eq_some_iff]
  exact ⟨front, _, _, whole, colon_notMem_decimal port.toNat, written,
    String.ofList_toList.symm, String.ofList_toList.symm⟩

/-- A host that is not in brackets is put into them if it needs them, and comes out of them. -/
theorem splitHostPort?_legacyBindAddress (named : host ≠ wildcardHost)
    (unopened : host.toList.head? ≠ some '[') (port : UInt16) :
    splitHostPort? (legacyBindAddress host port true) = some (host, toString port.toNat) := by
  rw [legacyBindAddress, if_neg (by decide), if_neg named]
  split
  next needed => exact splitHostPort?_decimal (.bracketed host.toList) (by simp)
  next unneeded =>
    have apart : ':' ∉ host.toList := fun member => unneeded ⟨member, unopened⟩
    exact splitHostPort?_decimal (.plain unopened apart) (by simp)

/-- A host in brackets is left in them. -/
theorem splitHostPort?_bracketed (name : String) (port : UInt16) :
    splitHostPort? (legacyBindAddress ("[" ++ name ++ "]") port true) =
      some (name, toString port.toNat) := by
  have opened : ("[" ++ name ++ "]").toList.head? = some '[' := by simp
  have named : "[" ++ name ++ "]" ≠ wildcardHost := by
    intro same
    rw [same] at opened
    revert opened
    decide
  rw [legacyBindAddress, if_neg (by decide), if_neg named, if_neg (fun needed => needed.2 opened)]
  exact splitHostPort?_decimal (.bracketed name.toList) (by simp)

theorem splitHostPort?_loopback (host : String) (port : UInt16) :
    splitHostPort? (legacyBindAddress host port false) =
      some ("127.0.0.1", toString port.toNat) := by
  rw [legacyBindAddress, if_pos (by decide)]
  exact splitHostPort?_decimal (.plain (by decide) (by decide)) (by simp)

theorem splitHostPort?_wildcard (port : UInt16) :
    splitHostPort? (legacyBindAddress wildcardHost port true) = some ("", toString port.toNat) := by
  rw [legacyBindAddress, if_neg (by decide), if_pos rfl]
  exact splitHostPort?_decimal (.plain (by decide) (by decide)) (by simp)

end Address

section Literals

variable {host : String} {ip : IpAddress}

/-- The host is the literal of an address, and so nothing that stands for another. -/
structure Literal (host : String) (ip : IpAddress) : Prop where
  filled : host ≠ ""
  named : host ≠ wildcardHost
  unopened : host.toList.head? ≠ some '['
  parsed : IpAddress.parse? host = some ip

theorem Literal.mk_of_chars (filled : host.toList ≠ []) (each : ∀ c ∈ host.toList, InIpv6 c)
    (parsed : IpAddress.parse? host = some ip) : Literal host ip where
  filled := by simpa using filled
  named := by
    rintro rfl
    exact absurd (each '*' (by decide)) (by decide)
  unopened := fun opened => absurd (each '[' (List.mem_of_mem_head? opened)) (by decide)
  parsed := parsed

theorem Ipv4.literal {ip : Ipv4} (literal : Ipv4.parse? host = some ip) :
    Literal host (.v4 ip) := by
  have plain := literal
  rw [← host.ofList_toList] at plain
  obtain ⟨filled, each⟩ := Ipv4.plain_of_parse? plain
  refine .mk_of_chars filled (fun c member => (each c member).inIpv6) ?_
  rw [IpAddress.parse?, literal]
  rfl

theorem Ipv6.literal {ip : Ipv6} (literal : Ipv6.parse? host = some ip) :
    Literal host (.v6 ip) := by
  have plain := literal
  rw [← host.ofList_toList] at plain
  obtain ⟨colons, each⟩ := Ipv6.plain_of_parse? plain
  have filled : host.toList ≠ [] := by
    intro none
    rw [none] at colons
    simp at colons
  have other : Ipv4.parse? host = none := by
    refine Option.eq_none_iff_forall_ne_some.mpr fun ip v4 => ?_
    rw [← host.ofList_toList] at v4
    have colon : ':' ∈ host.toList := List.count_pos_iff.mp (by omega)
    exact absurd ((Ipv4.plain_of_parse? v4).2 ':' colon) (by decide)
  refine .mk_of_chars filled each ?_
  rw [IpAddress.parse?, other, literal]
  rfl

end Literals

section Binding

variable {names : String → Option IpAddress} {host address : String} {ip : IpAddress}
  {port : UInt16} {allowLan : Bool} {e : Endpoint}

theorem bindEndpoint_port (named : listenPort? address = some port)
    (bound : bindEndpoint names address = .ok e) : e.port = port := by
  obtain ⟨-, host, numeral, split, value⟩ := listenPort?_eq_some.mp named
  simp only [bindEndpoint, split, value] at bound
  split at bound
  next => cases bound; rfl
  next =>
    split at bound
    next ip _ =>
      cases bound
      cases ip <;> rfl
    next => cases bound

theorem bindEndpoint_literal (split : splitHostPort? address = some (host, toString port.toNat))
    (literal : Literal host ip) : bindEndpoint names address = .ok (.ofIp ip port) := by
  have special : ¬ (host = "" ∨ host = wildcardHost) := not_or.mpr ⟨literal.filled, literal.named⟩
  simp only [bindEndpoint, split, port?_decimal, if_neg special, literal.parsed]
  rfl

/-- The address that stands for a port is cut into this port and a host which names the address that
is bound to. -/
theorem BindsTo.split (binds : BindsTo allowLan host ip) (port : UInt16) : ∃ name,
    splitHostPort? (legacyBindAddress host port allowLan) = some (name, toString port.toNat) ∧
      ∀ names address, splitHostPort? address = some (name, toString port.toNat) →
        bindEndpoint names address = .ok (.ofIp ip port) := by
  have through : ∀ {name ip}, Literal name ip → ∀ names address,
      splitHostPort? address = some (name, toString port.toNat) →
        bindEndpoint names address = .ok (.ofIp ip port) :=
    fun literal names address split => bindEndpoint_literal split literal
  cases binds with
  | loopback =>
    exact ⟨_, splitHostPort?_loopback host port, through (Ipv4.literal (by decide +kernel))⟩
  | wildcard =>
    refine ⟨_, splitHostPort?_wildcard port, fun names address split => ?_⟩
    simp only [bindEndpoint, split, port?_decimal]
    rfl
  | v4 literal =>
    have host := Ipv4.literal literal
    exact ⟨_, splitHostPort?_legacyBindAddress host.named host.unopened port, through host⟩
  | v6 literal =>
    have host := Ipv6.literal literal
    exact ⟨_, splitHostPort?_legacyBindAddress host.named host.unopened port, through host⟩
  | bracketed literal => exact ⟨_, splitHostPort?_bracketed _ port, through (Ipv6.literal literal)⟩

theorem Ports.toInbounds_eq (p : Ports) (host : String) (allowLan : Bool) :
    p.toInbounds host allowLan = (InboundType.all.filter (p.of · ≠ 0)).map fun type =>
      ⟨type, legacyBindAddress host (p.of type) allowLan, true⟩ := by
  have entries : p.entries = InboundType.all.map fun type => (type, p.of type) := rfl
  rw [toInbounds, entries, List.filter_map, List.map_map]
  rfl

theorem Ports.stands_for {p : Ports} {spec : InboundSpec}
    (member : spec ∈ p.toInbounds host allowLan) : spec.legacy = true ∧ p.of spec.type ≠ 0 ∧
      spec.bindAddress = legacyBindAddress host (p.of spec.type) allowLan := by
  rw [p.toInbounds_eq] at member
  obtain ⟨type, set, rfl⟩ := List.mem_map.mp member
  exact ⟨rfl, by simpa using (List.mem_filter.mp set).2, rfl⟩

end Binding

/-- Every port that is set, and no other, asks for one legacy inbound, in a fixed order of the
types. Its address has that port and is bound to the IP address that is meant. Any host out of
brackets is kept as it is in front of the port; and where an address has a port to listen on,
whatever it is bound to has this port. -/
theorem port_settings_bind :
    (∀ (p : Ports) host allowLan, (p.toInbounds host allowLan).map (·.type) =
        [.http, .socks, .redir, .tproxy, .mixed].filter (p.of · ≠ 0) ∧
      ∀ spec ∈ p.toInbounds host allowLan, spec.legacy = true ∧ p.of spec.type ≠ 0 ∧
        spec.bindAddress = legacyBindAddress host (p.of spec.type) allowLan) ∧
    (∀ (p : Ports) host allowLan ip, BindsTo allowLan host ip →
      ∀ spec ∈ p.toInbounds host allowLan, spec.port? = some (p.of spec.type) ∧
        ∀ names, bindEndpoint names spec.bindAddress = .ok (.ofIp ip (p.of spec.type))) ∧
    (∀ host port, host ≠ wildcardHost → host.toList.head? ≠ some '[' →
      splitHostPort? (legacyBindAddress host port true) = some (host, toString port.toNat)) ∧
    ∀ names address port e, listenPort? address = some port →
      bindEndpoint names address = .ok e → e.port = port := by
  refine ⟨fun p host allowLan => ⟨?_, fun spec member => Ports.stands_for member⟩, ?_, ?_, ?_⟩
  · rw [p.toInbounds_eq, List.map_map]
    exact List.map_id _
  · intro p host allowLan ip binds spec member
    obtain ⟨-, set, address⟩ := Ports.stands_for member
    obtain ⟨name, split, bound⟩ := binds.split (p.of spec.type)
    rw [InboundSpec.port?, address]
    exact ⟨listenPort?_eq_some.mpr ⟨set, name, _, split, port?_decimal _⟩,
      fun names => bound names _ split⟩
  · exact fun host port named unopened => splitHostPort?_legacyBindAddress named unopened port
  · exact fun names address port e named bound => bindEndpoint_port named bound

end LocalProxy
