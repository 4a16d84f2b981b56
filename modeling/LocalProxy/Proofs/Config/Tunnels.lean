import LocalProxy.Proofs.Config.Check
import LocalProxy.Proofs.Text.Fields

/-! The two spellings of a tunnel, as a line and as a table: what a line means, and that an accepted
table means the same as its line. Main statement: `TunnelForm.spellings_agree`. -/
namespace LocalProxy

open Text

/-- The name of a network has letters alone, whatever their case, once the blanks around it are
off. -/
theorem Network.letters_of_parse {name : String} {network : Network}
    (parsed : Network.parse name = .ok network) (bare : trim name = name) :
    ∀ c ∈ name.toList, 67 ≤ c.toNat ∧ c.toNat ≤ 117 := by
  have word : lower name = network.name := by
    rw [Network.parse, bare] at parsed
    split at parsed
    · cases parsed
      assumption
    · cases parsed
      assumption
    · cases parsed
  have written : (network.name.toList.all fun c => 99 ≤ c.toNat ∧ c.toNat ≤ 117) = true := by
    cases network <;> decide
  have range : ∀ c ∈ network.name.toList, 99 ≤ c.toNat ∧ c.toNat ≤ 117 := by
    simpa only [List.all_eq_true, decide_eq_true_eq] using written
  intro c member
  have small : c.toLower ∈ (lower name).toList := by
    rw [lower, String.toList_ofList]
    exact List.mem_map_of_mem member
  have between := range c.toLower (word ▸ small)
  rw [toNat_toLower] at between
  grind

namespace TunnelForm

variable {line networks address target proxy : String} {names : List String} {form : TunnelForm}
  {spec : TunnelSpec}

theorem network_eq_ok_iff {name : String} {network : Network} :
    TunnelForm.network name = .ok network ↔ Network.parse name = .ok network := by
  rw [TunnelForm.network]
  cases Network.parse name <;> simp [Except.mapError]

theorem networks_of_mapM {networks : List Network} (parsed : names.mapM network = .ok networks) :
    names.map Network.parse = networks.map .ok := by
  have each := map_of_mapM parsed
  clear parsed
  induction names generalizing networks with
  | nil => simpa using each
  | cons name names ih =>
    cases networks with
    | nil => simp at each
    | cons first networks =>
      obtain ⟨here, later⟩ := List.cons.inj each
      rw [List.map_cons, List.map_cons, network_eq_ok_iff.mp here, ih later]

/-- What a check that succeeds has found. -/
structure Accepted (form : TunnelForm) (spec : TunnelSpec) : Prop where
  spelled : ∃ names, form.split = .ok (names, spec.address, spec.target, spec.proxy) ∧
    names.map Network.parse = spec.networks.map .ok
  networks_some : spec.networks ≠ []
  address_some : spec.address ≠ ""
  target_some : spec.target ≠ ""
  proxy_some : spec.proxy ≠ ""

theorem accepted_of_check (checked : form.check = .ok spec) : Accepted form spec := by
  obtain ⟨⟨names, address, target, proxy⟩, split, checked⟩ := Except.bind_ok checked
  obtain ⟨networks, parsed, checked⟩ := Except.bind_ok checked
  dsimp only at checked
  split at checked
  · cases checked
  · rename_i networks_some
    split at checked
    · cases checked
    · rename_i fields_some
      cases checked
      obtain ⟨address_some, others⟩ := not_or.mp fields_some
      obtain ⟨target_some, proxy_some⟩ := not_or.mp others
      exact ⟨⟨names, split, networks_of_mapM parsed⟩, networks_some, address_some, target_some,
        proxy_some⟩

/-- The line has its fields between the commas, less the blanks around them. -/
theorem split_line (separated : Separated ',' line [networks, address, target, proxy])
    (named : Separated '/' (trim networks) names) :
    (TunnelForm.line line).split =
      (table names (trim address) (trim target) (trim proxy)).split := by
  simp [split, separated.fields, named.fields]

theorem check_line (separated : Separated ',' line [networks, address, target, proxy])
    (named : Separated '/' (trim networks) names) :
    check (.line line) = check (.table names (trim address) (trim target) (trim proxy)) := by
  rw [check, split_line separated named]
  rfl

theorem check_line_of_count (other : line.toList.count ',' ≠ 3) :
    check (.line line) = .error (.tunnelLine line) := by
  have length := (separated_fields ',' line).length
  have refused : (TunnelForm.line line).split = .error (.tunnelLine line) := by
    rw [split]
    split
    · rename_i four
      have same := congrArg List.length four
      rw [List.length_map, length] at same
      simp only [List.length_cons, List.length_nil] at same
      omega
    · rfl
  rw [check, refused]
  rfl

/-- Names of networks with slashes between them are cut at the slashes again, and nowhere else. -/
theorem networks_joined (filled : names ≠ [])
    (named : ∀ name ∈ names, ∃ network, Network.parse name = .ok network)
    (bare : ∀ name ∈ names, trim name = name) :
    IsField ',' ("/".intercalate names) ∧ Separated '/' ("/".intercalate names) names := by
  have letters : ∀ name ∈ names, ∀ c ∈ name.toList, 67 ≤ c.toNat ∧ c.toNat ≤ 117 := by
    intro name member
    obtain ⟨network, parsed⟩ := named name member
    exact Network.letters_of_parse parsed (bare name member)
  have characters : ∀ c ∈ ("/".intercalate names).toList, 47 ≤ c.toNat ∧ c.toNat ≤ 117 := by
    intro c member
    rcases mem_intercalate '/' member with rfl | ⟨name, listed, inside⟩
    · decide
    · have between := letters name listed c inside
      omega
  refine ⟨⟨fun comma => absurd (characters ',' comma).1 (by decide), ?_⟩, filled, rfl, ?_⟩
  · refine trim_of_solid fun c member => ?_
    have between := characters c member
    simp [isBlank]
    omega
  · exact fun name member slash => absurd (letters name member '/' slash).1 (by decide)

/-- An accepted table means the same as the line that joins its texts. -/
theorem check_joined (checked : check (.table names address target proxy) = .ok spec)
    (fields : ∀ s ∈ address :: target :: proxy :: names, IsField ',' s) :
    check (.line (",".intercalate ["/".intercalate names, address, target, proxy])) = .ok spec := by
  obtain ⟨⟨_, ⟨⟩, each⟩, networks_some, -⟩ := accepted_of_check checked
  have filled : names ≠ [] := by
    rintro rfl
    exact networks_some (List.map_eq_nil_iff.mp each.symm)
  have named : ∀ name ∈ names, ∃ network, Network.parse name = .ok network := by
    intro name member
    have listed : Network.parse name ∈ spec.networks.map .ok := each ▸ List.mem_map_of_mem member
    obtain ⟨network, -, same⟩ := List.mem_map.mp listed
    exact ⟨network, same.symm⟩
  simp only [List.forall_mem_cons] at fields
  obtain ⟨address, target, proxy, listed⟩ := fields
  obtain ⟨joined, cut⟩ := networks_joined filled named fun name member => (listed name member).bare
  have separated : Separated ',' (",".intercalate ["/".intercalate names, _, _, _])
      ["/".intercalate names, spec.address, spec.target, spec.proxy] :=
    (separated_of_isField (List.cons_ne_nil _ _) (by simp [joined, address, target, proxy])).1
  rw [check_line separated (joined.bare.symm ▸ cut), address.bare, target.bare, proxy.bare]
  exact checked

/-- A line and a table spell the same tunnels. A line with four fields is accepted or refused as the
table is that has what stands between its commas, less the blanks around it, the first field cut at
its slashes; and a line with more commas or fewer is refused. An accepted table, whose texts hold no
comma and have no blanks around them, means the same as the line that joins them, network by network.
Whatever is accepted has a network, and no field that is empty. -/
theorem spellings_agree :
    (∀ line networks address target proxy names,
      Separated ',' line [networks, address, target, proxy] → Separated '/' (trim networks) names →
      check (.line line) = check (.table names (trim address) (trim target) (trim proxy))) ∧
    (∀ line : String, line.toList.count ',' ≠ 3 →
      check (.line line) = .error (.tunnelLine line)) ∧
    (∀ names address target proxy spec, check (.table names address target proxy) = .ok spec →
      names.map Network.parse = spec.networks.map .ok ∧
      ((∀ s ∈ address :: target :: proxy :: names, ',' ∉ s.toList ∧ trim s = s) →
        check (.line (",".intercalate ["/".intercalate names, address, target, proxy])) =
          .ok spec)) ∧
    (∀ form spec, check form = .ok spec →
      spec.networks ≠ [] ∧ spec.address ≠ "" ∧ spec.target ≠ "" ∧ spec.proxy ≠ "") := by
  refine ⟨?_, ?_, ?_, ?_⟩
  · exact fun line networks address target proxy names separated named => check_line separated named
  · exact fun line other => check_line_of_count other
  · intro names address target proxy spec checked
    obtain ⟨⟨_, ⟨⟩, each⟩, -⟩ := accepted_of_check checked
    exact ⟨each, fun fields => check_joined checked fun s member =>
      ⟨(fields s member).1, (fields s member).2⟩⟩
  · intro form spec checked
    have accepted := accepted_of_check checked
    exact ⟨accepted.networks_some, accepted.address_some, accepted.target_some, accepted.proxy_some⟩

/-- A network may be listed twice, and the blanks around its name stay with it. -/
example : check (.line " tcp/ UDP/tcp , :1,example.com:1 ,DIRECT") =
    .ok ⟨[.tcp, .udp, .tcp], ":1", "example.com:1", "DIRECT"⟩ := by
  decide +kernel

end TunnelForm

end LocalProxy
