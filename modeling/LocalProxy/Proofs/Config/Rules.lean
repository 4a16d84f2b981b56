import LocalProxy.Proofs.Text.Fields
import LocalProxy.Rule

/-! The lines of rules: which of them are rules, what rule each is, and that a rule is read back
from its line. Main statement: `Rule.read_as_written`. -/
namespace LocalProxy

open Text

namespace RuleType

/-- A keyword of the type, whatever the case of its letters. -/
def Named (type : RuleType) (keyword : String) : Prop :=
  ∃ known, (known, type) ∈ keywords ∧ sameLetters known keyword = true

variable {type : RuleType} {s keyword : String}

theorem lookup_keywords : keywords.lookup s = some type ↔ (s, type) ∈ keywords := by
  have found : ∀ entry ∈ keywords, keywords.lookup entry.1 = some entry.2 := by decide
  constructor
  · intro same
    obtain ⟨front, back, split, -⟩ := List.lookup_eq_some_iff.mp same
    rw [split]
    exact List.mem_append_right front List.mem_cons_self
  · exact found (s, type)

/-- The keywords are written in capitals. -/
theorem upper_keyword (listed : (keyword, type) ∈ keywords) : upper keyword = keyword := by
  have capitals : ∀ entry ∈ keywords, upper entry.1 = entry.1 := by decide
  exact capitals (keyword, type) listed

theorem named_iff : Named type s ↔ (upper s, type) ∈ keywords := by
  constructor
  · rintro ⟨known, listed, same⟩
    rw [sameLetters_iff_upper, upper_keyword listed] at same
    rwa [← same]
  · intro listed
    exact ⟨upper s, listed, sameLetters_iff_upper.mpr (upper_keyword listed)⟩

theorem parse_eq_ok_iff : parse s = .ok type ↔ Named type (trim s) := by
  rw [named_iff, ← lookup_keywords, parse]
  cases keywords.lookup (upper (trim s)) <;> simp

/-- The characters of a keyword are neither blanks nor commas. -/
theorem Named.isField (named : Named type keyword) : IsField ',' keyword := by
  have written : (keywords.all fun entry =>
      entry.1.toList.all fun c => 45 ≤ c.toNat ∧ c.toNat ≤ 90) = true := by decide
  have range : ∀ entry ∈ keywords, ∀ c ∈ entry.1.toList, 45 ≤ c.toNat ∧ c.toNat ≤ 90 := by
    simpa only [List.all_eq_true, decide_eq_true_eq] using written
  have between : ∀ c ∈ keyword.toList, 45 ≤ c.toNat ∧ c.toNat ≤ 122 := by
    intro c member
    have large := range (upper keyword, type) (named_iff.mp named) c.toUpper (mem_upper member)
    rw [toNat_toUpper] at large
    grind
  have solid : ∀ c ∈ keyword.toList, isBlank c = false := by
    intro c member
    have inside := between c member
    simp [isBlank]
    omega
  exact ⟨fun comma => absurd (between ',' comma).1 (by decide), trim_of_solid solid⟩

end RuleType

namespace Rule

/-- The rule that fields make up. The last rule of a list has a proxy alone, and what follows that is
passed over. -/
inductive OfFields : List String → Rule → Prop
  | last {keyword proxy : String} {more : List String} (named : RuleType.match.Named keyword)
      (some : proxy ≠ "") : OfFields (keyword :: proxy :: more) ⟨.match, "", proxy, []⟩
  | plain {type : RuleType} {keyword payload proxy : String} {options : List String}
      (named : type.Named keyword) (other : type ≠ .match) (payload_some : payload ≠ "")
      (proxy_some : proxy ≠ "") :
      OfFields (keyword :: payload :: proxy :: options) ⟨type, payload, proxy, options⟩

variable {line : String} {parts : List String} {r : Rule}

theorem parse_eq_ok_iff (separated : Separated ',' line parts) :
    parse line = .ok r ↔ OfFields (parts.map trim) r := by
  have bare := separated.isField
  rw [parse, separated.fields]
  generalize parts.map trim = fields at bare ⊢
  cases fields with
  | nil => exact ⟨nofun, nofun⟩
  | cons keyword rest =>
    have typed : ∀ type, RuleType.parse keyword = .ok type ↔ type.Named keyword := by
      intro type
      rw [RuleType.parse_eq_ok_iff, (bare keyword List.mem_cons_self).bare]
    dsimp only
    constructor
    · intro parsed
      split at parsed
      · cases parsed
      · rename_i proxy more looked
        split at parsed
        · cases parsed
        · rename_i some
          cases parsed
          exact .last ((typed _).mp looked) some
      · rename_i type payload proxy options other looked
        split at parsed
        · cases parsed
        · rename_i some
          cases parsed
          obtain ⟨payload_some, proxy_some⟩ := not_or.mp some
          exact .plain ((typed type).mp looked) other payload_some proxy_some
      · cases parsed
    · rintro (⟨named, some⟩ | ⟨named, other, payload_some, proxy_some⟩)
      · rw [(typed _).mpr named]
        exact if_neg some
      · rw [(typed _).mpr named]
        -- The keyword is looked at first, so the branch is known once the type is.
        cases ‹RuleType› with
        | «match» => exact absurd rfl other
        | _ => exact if_neg (not_or.mpr ⟨payload_some, proxy_some⟩)

/-- The fields of the line of a rule. -/
def written (keyword : String) (r : Rule) : List String :=
  match r.type with
  | .match => [keyword, r.proxy]
  | _ => keyword :: r.payload :: r.proxy :: r.options

theorem line_eq (keyword : String) (r : Rule) :
    r.line keyword = (String.singleton ',').intercalate (r.written keyword) := by
  obtain ⟨type, payload, proxy, options⟩ := r
  cases type <;> rfl

theorem written_plain (other : r.type ≠ .match) (keyword : String) :
    r.written keyword = keyword :: r.payload :: r.proxy :: r.options := by
  obtain ⟨type, payload, proxy, options⟩ := r
  cases type with
  | «match» => exact absurd rfl other
  | _ => rfl

namespace OfFields

variable {fields : List String} {keyword s : String}

theorem mem (made : OfFields fields r) (member : s ∈ r.payload :: r.proxy :: r.options) :
    s = "" ∨ s ∈ fields := by
  cases made with
  | last named some =>
    rcases List.mem_cons.mp member with none | proxy
    · exact .inl none
    · exact .inr (List.mem_cons_of_mem _ (List.mem_cons.mpr (.inl (List.mem_singleton.mp proxy))))
  | plain => exact .inr (List.mem_cons_of_mem _ member)

/-- The fields of its line make up the rule. -/
theorem written (made : OfFields fields r) (named : r.type.Named keyword) :
    OfFields (r.written keyword) r := by
  cases made with
  | last _ some => exact .last named some
  | plain _ other payload_some proxy_some =>
    rw [written_plain other]
    exact .plain named other payload_some proxy_some

end OfFields

theorem mem_written {keyword s : String} (member : s ∈ r.written keyword) :
    s = keyword ∨ s ∈ r.payload :: r.proxy :: r.options := by
  by_cases last : r.type = .match
  · rw [Rule.written, last] at member
    rcases List.mem_cons.mp member with first | proxy
    · exact .inl first
    · exact .inr (List.mem_cons_of_mem _ (List.mem_cons.mpr (.inl (List.mem_singleton.mp proxy))))
  · rw [written_plain last] at member
    exact List.mem_cons.mp member

theorem written_ne_nil (keyword : String) (r : Rule) : r.written keyword ≠ [] := by
  unfold Rule.written
  split <;> exact List.cons_ne_nil _ _

/-- What was read holds no comma and has no blanks around it. -/
theorem isField_of_parse (parsed : parse line = .ok r) :
    ∀ s ∈ r.payload :: r.proxy :: r.options, IsField ',' s := by
  intro s member
  have separated := separated_fields ',' line
  rcases ((parse_eq_ok_iff separated).mp parsed).mem member with rfl | listed
  · exact ⟨List.not_mem_nil, rfl⟩
  · exact separated.isField s listed

theorem parse_line {keyword : String} (parsed : parse line = .ok r)
    (named : r.type.Named keyword) : parse (r.line keyword) = .ok r := by
  have fields : ∀ s ∈ r.written keyword, IsField ',' s := by
    intro s member
    rcases mem_written member with rfl | listed
    · exact named.isField
    · exact isField_of_parse parsed s listed
  obtain ⟨separated, bare⟩ := separated_of_isField (written_ne_nil keyword r) fields
  have made := (parse_eq_ok_iff (separated_fields ',' line)).mp parsed
  rw [line_eq, parse_eq_ok_iff separated, bare]
  exact made.written named

/-- A text is a rule just if its fields make one up: between its commas, and less the blanks around
them, there is first a keyword, in any case, then a payload and a proxy, or the proxy alone for the
last rule of a list, none of them empty. The rule has these fields, and all the others as its
options. It is read back from its line under every keyword of its type, since none of its fields
holds a comma or has blanks around it. -/
theorem read_as_written (line : String) (r : Rule) :
    (parse line = .ok r ↔
      ∃ parts, Separated ',' line parts ∧ OfFields (parts.map trim) r) ∧
    (parse line = .ok r →
      (∀ keyword, r.type.Named keyword → parse (r.line keyword) = .ok r) ∧
      ∀ s ∈ r.payload :: r.proxy :: r.options, ',' ∉ s.toList ∧ trim s = s) := by
  refine ⟨⟨fun parsed => ?_, fun ⟨parts, separated, made⟩ => ?_⟩, fun parsed => ⟨?_, ?_⟩⟩
  · have separated := separated_fields ',' line
    exact ⟨_, separated, (parse_eq_ok_iff separated).mp parsed⟩
  · exact (parse_eq_ok_iff separated).mpr made
  · exact fun keyword named => parse_line parsed named
  · intro s member
    have field := isField_of_parse parsed s member
    exact ⟨field.free, field.bare⟩

/-- Blanks go, an empty option stays, and the other keyword of the type does as well. -/
example : Rule.parse " ip-cidr6 , 10.0.0.0/8,DIRECT ,,no-resolve" =
    .ok ⟨.ipCidr, "10.0.0.0/8", "DIRECT", ["", "no-resolve"]⟩ := by
  decide +kernel

end Rule

end LocalProxy
