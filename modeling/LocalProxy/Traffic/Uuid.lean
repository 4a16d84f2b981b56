import LocalProxy.Text

/-! Connection identifiers of 128 bits. -/
namespace LocalProxy

structure Uuid where
  value : BitVec 128
deriving DecidableEq, Repr, Inhabited

namespace Uuid

def digits (u : Uuid) : List Char :=
  (List.range 32).map fun i => Text.hexDigit ((u.value.toNat / Nat.pow 16 (31 - i)) % 16)

/-- Groups of eight, four, four, four and twelve digits, joined by hyphens. -/
def text (u : Uuid) : String :=
  let d := u.digits
  let group := fun start size => String.ofList ((d.drop start).take size)
  "-".intercalate [group 0 8, group 8 4, group 12 4, group 16 4, group 20 12]

def ofDigits? (d : List Char) : Option Uuid :=
  if d.length = 32 ∧ d.all fun c => (Text.digitValue 16 c).isSome then
    some ⟨BitVec.ofNat 128 (Text.digitsValue 16 d)⟩
  else none

def ofHyphenated? (s : List Char) : Option Uuid :=
  match Text.pieces '-' s with
  | [a, b, c, d, e] =>
    if [a, b, c, d, e].map List.length = [8, 4, 4, 4, 12] then ofDigits? (a ++ b ++ c ++ d ++ e)
    else none
  | _ => none

/-- Reads 32 digits, or five groups joined by hyphens, which may stand in braces or after
`urn:uuid:`. -/
def parse? (s : String) : Option Uuid :=
  match s.toList with
  | '{' :: rest =>
    if rest.getLast? = some '}' then ofHyphenated? rest.dropLast else none
  | cs =>
    match "urn:uuid:".toList.isPrefixOf? cs with
    | some rest => ofHyphenated? rest
    | none => if cs.length = 32 then ofDigits? cs else ofHyphenated? cs

end Uuid

end LocalProxy
