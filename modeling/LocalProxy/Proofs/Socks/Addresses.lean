import LocalProxy.Proofs.Handshake.Reading
import LocalProxy.Socks.Address

/-! Addresses as SOCKS writes them, and that the reader of addresses takes these and no others. -/
namespace LocalProxy.Socks

open Handshake Text

/-- An address from behind its type octet to the end of its port. -/
inductive Address : UInt8 → Target → Bytes → Prop
  | v4 (ip : Ipv4) (port : UInt16) :
      Address 1 (.address (.v4 ip port)) (ip.octets ++ wordBytes port)
  | v6 (ip : Ipv6) (port : UInt16) :
      Address 4 (.address (.v6 ip port 0)) (ip.octets ++ wordBytes port)
  | domain (host : String) (port : UInt16) (fits : (utf8 host).length ≤ 255) :
      Address 3 (.domain host port)
        ((utf8 host).length.toUInt8 :: utf8 host ++ wordBytes port)

theorem length_eq_toNat_iff {s : Bytes} {count : UInt8} :
    s.length = count.toNat ↔ s.length ≤ 255 ∧ count = s.length.toUInt8 := by
  have bound := count.toNat_lt
  constructor
  · intro fits
    exact ⟨by omega, by rw [fits, Nat.toUInt8, UInt8.ofNat_toNat]⟩
  · rintro ⟨fits, rfl⟩
    exact (UInt8.toNat_ofNat_of_lt (Nat.lt_succ_of_le fits)).symm

/-- Octets after their number. -/
theorem counted_reads :
    Reads (fun s => octet s >>= fun p => block p.1.toNat p.2) fun octets front =>
      octets.length ≤ 255 ∧ front = octets.length.toUInt8 :: octets := by
  refine (octet_reads.bind fun count => block_reads count.toNat).congr fun octets front => ?_
  constructor
  · rintro ⟨count, _, _, rfl, ⟨fits, rfl⟩, rfl⟩
    obtain ⟨short, rfl⟩ := length_eq_toNat_iff.mp fits
    exact ⟨short, rfl⟩
  · rintro ⟨fits, rfl⟩
    exact ⟨_, _, octets, rfl, ⟨length_eq_toNat_iff.mpr ⟨fits, rfl⟩, rfl⟩, rfl⟩

theorem readEndpoint_eq (size : Nat) (ofOctets? : Bytes → Option IpAddress) :
    readEndpoint size ofOctets? = fun s => block size s >>= fun p => word p.2 >>= fun q =>
      given (ofOctets? p.1) (fun ip => Target.address (.ofIp ip q.1)) .endInBlock q.2 := by
  funext s
  refine bind_congr ?_
  rintro ⟨octets, s⟩
  refine bind_congr ?_
  rintro ⟨port, s⟩
  cases ofOctets? octets <;> rfl

theorem readEndpoint_reads (size : Nat) (ofOctets? : Bytes → Option IpAddress) :
    Reads (readEndpoint size ofOctets?) fun target front =>
      ∃ octets ip port, octets.length = size ∧ ofOctets? octets = some ip ∧
        target = .address (.ofIp ip port) ∧ front = octets ++ wordBytes port := by
  rw [readEndpoint_eq]
  refine ((block_reads size).bind fun octets => word_reads.bind fun port =>
    .given (ofOctets? octets) (fun ip => Target.address (.ofIp ip port)) _).congr
      fun target front => ?_
  constructor
  · rintro ⟨_, octets, _, ⟨fits, rfl⟩, ⟨port, _, _, rfl, ⟨⟨ip, known, rfl⟩, rfl⟩, rfl⟩, rfl⟩
    exact ⟨octets, ip, port, fits, known, rfl, by rw [List.append_nil]⟩
  · rintro ⟨octets, ip, port, fits, known, rfl, rfl⟩
    exact ⟨octets, _, _, ⟨fits, rfl⟩,
      ⟨port, _, [], rfl, ⟨⟨ip, known, rfl⟩, rfl⟩, rfl⟩, by rw [List.append_nil]⟩

theorem readDomain_eq :
    readDomain = fun s => (octet s >>= fun p => block p.1.toNat p.2) >>= fun p =>
      word p.2 >>= fun q =>
        given (ofUtf8? p.1) (fun host => Target.domain host q.1) (.protocol .domainNotText)
          q.2 := by
  funext s
  rw [bind_assoc]
  refine bind_congr ?_
  rintro ⟨size, s⟩
  refine bind_congr ?_
  rintro ⟨name, s⟩
  refine bind_congr ?_
  rintro ⟨port, s⟩
  cases ofUtf8? name <;> rfl

theorem readDomain_reads : Reads readDomain fun target front =>
    ∃ host port, (utf8 host).length ≤ 255 ∧ target = .domain host port ∧
      front = (utf8 host).length.toUInt8 :: utf8 host ++ wordBytes port := by
  rw [readDomain_eq]
  refine (counted_reads.bind fun name => word_reads.bind fun port =>
    .given (ofUtf8? name) (fun host => Target.domain host port) _).congr fun target front => ?_
  constructor
  · rintro ⟨name, _, _, ⟨fits, rfl⟩, ⟨port, _, _, rfl, ⟨⟨host, text, rfl⟩, rfl⟩, rfl⟩, rfl⟩
    obtain rfl := ofUtf8?_eq_some_iff.mp text
    exact ⟨host, port, fits, rfl, by rw [List.append_nil]⟩
  · rintro ⟨host, port, fits, rfl, rfl⟩
    exact ⟨utf8 host, _, _, ⟨fits, rfl⟩,
      ⟨port, _, [], rfl, ⟨⟨host, ofUtf8?_utf8 host, rfl⟩, rfl⟩, rfl⟩, by rw [List.append_nil]⟩

theorem readAddress_reads (code : UInt8) : Reads (readAddress code) (Address code) := by
  unfold readAddress
  cases known : AddressType.ofCode? code with
  | none =>
    refine (Reads.never (.protocol (.addressType code))).congr fun target front =>
      ⟨False.elim, fun written => ?_⟩
    cases written <;> cases known
  | some type =>
    obtain rfl := AddressType.ofCode?_eq_some_iff.mp known
    cases type with
    | v4 =>
      refine (readEndpoint_reads 4 _).congr fun target front => ?_
      constructor
      · rintro ⟨octets, ip, port, -, found, rfl, rfl⟩
        obtain ⟨ip, written, rfl⟩ := Option.map_eq_some_iff.mp found
        rw [Ipv4.ofOctets?_eq_some_iff.mp written]
        exact .v4 ip port
      · rintro ⟨ip, port⟩
        exact ⟨_, .v4 ip, port, rfl, rfl, rfl, rfl⟩
    | v6 =>
      refine (readEndpoint_reads 16 _).congr fun target front => ?_
      constructor
      · rintro ⟨octets, ip, port, size, found, rfl, rfl⟩
        obtain ⟨ip, written, rfl⟩ := Option.map_eq_some_iff.mp found
        rw [(Ipv6.ofOctets?_eq_some_iff size).mp written]
        exact .v6 ip port
      · rintro ⟨⟩
        exact ⟨_, .v6 _, _, rfl,
          Option.map_eq_some_iff.mpr ⟨_, (Ipv6.ofOctets?_eq_some_iff rfl).mpr rfl, rfl⟩, rfl, rfl⟩
    | domain =>
      refine readDomain_reads.congr fun target front => ?_
      constructor
      · rintro ⟨host, port, fits, rfl, rfl⟩
        exact .domain host port fits
      · rintro ⟨⟩
        exact ⟨_, _, ‹_›, rfl, rfl⟩

end LocalProxy.Socks
