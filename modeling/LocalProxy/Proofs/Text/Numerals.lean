import LocalProxy.Proofs.Text.Ports
import Mathlib.Data.List.Basic

/-! Numbers as they are printed. Their digits are read for the number again, and only the number
zero has a zero in front. -/
namespace LocalProxy.Text

section Digits

variable {base n : Nat}

theorem digitValue_digitChar (small : base ≤ 16) (digit : n < base) :
    digitValue base n.digitChar = some n := by
  have known : ∀ k : Fin 16, digitValue 16 k.val.digitChar = some k.val := by decide
  have value := known ⟨n, Nat.lt_of_lt_of_le digit small⟩
  simp only [digitValue, Option.filter_eq_some_iff] at value ⊢
  exact ⟨value.1, decide_eq_true digit⟩

theorem digitsValue_concat (base : Nat) (ds : List Char) (c : Char) :
    digitsValue base (ds ++ [c]) = digitsValue base ds * base + (digitValue base c).getD 0 := by
  rw [digitsValue, List.foldl_append, ← digitsValue]
  rfl

/-- What a number is printed with are digits of the base, and they write the number. -/
theorem toDigits_spec (large : 1 < base) (small : base ≤ 16) (n : Nat) :
    (∀ c ∈ Nat.toDigits base n, (digitValue base c).isSome = true) ∧
      digitsValue base (Nat.toDigits base n) = n := by
  induction n using Nat.strongRecOn with
  | ind n ih =>
    rw [Nat.toDigits_eq_if large]
    split
    next single =>
      have value := digitValue_digitChar small single
      simp [digitsValue, value]
    next more =>
      obtain ⟨digits, value⟩ := ih (n / base) (Nat.div_lt_self (by omega) large)
      have last := digitValue_digitChar small (Nat.mod_lt n (by omega))
      refine ⟨List.forall_mem_append.mpr ⟨digits, by simp [last]⟩, ?_⟩
      rw [digitsValue_concat, value, last, Option.getD_some, Nat.div_add_mod']

theorem notMem_toDigits (large : 1 < base) (small : base ≤ 16) {c : Char}
    (other : (digitValue base c).isSome = false) (n : Nat) : c ∉ Nat.toDigits base n := by
  intro member
  have digit := (toDigits_spec large small n).1 c member
  rw [other] at digit
  cases digit

/-- Only the number zero is printed with a zero in front. -/
theorem eq_zero_of_toDigits (large : 1 < base)
    (zero : (Nat.toDigits base n).head? = some '0') : n = 0 := by
  induction n using Nat.strongRecOn with
  | ind n ih =>
    rw [Nat.toDigits_eq_if large] at zero
    split at zero
    next single => simpa using zero
    next more =>
      rw [List.head?_append_of_ne_nil _ Nat.toDigits_ne_nil] at zero
      have none := ih (n / base) (Nat.div_lt_self (by omega) large) zero
      have some := Nat.div_pos (Nat.not_lt.mp more) (by omega)
      omega

end Digits

theorem natBelow?_toDigits {bound n : Nat} (below : n < bound) :
    natBelow? bound (Nat.toDigits 10 n) = some n := by
  obtain ⟨digits, value⟩ := toDigits_spec (by decide : 1 < 10) (by decide) n
  have read := natBelow?_digits Nat.toDigits_ne_nil (List.all_eq_true.mpr digits)
    (by rwa [value])
  rwa [value] at read

theorem toList_decimal (n : Nat) : (toString n).toList = Nat.toDigits 10 n := by
  rw [Nat.toString_eq_ofList_toDigits, String.toList_ofList]

theorem colon_notMem_decimal (n : Nat) : ':' ∉ (toString n).toList := by
  rw [toList_decimal]
  exact notMem_toDigits (by decide) (by decide) (by decide) n

/-- A port is read as it is printed. -/
theorem port?_decimal (port : UInt16) : port? (toString port.toNat) = some port := by
  rw [port?, toList_decimal, natBelow?_toDigits port.toNat_lt, Option.map_some, Nat.toUInt16,
    UInt16.ofNat_toNat]

end LocalProxy.Text
