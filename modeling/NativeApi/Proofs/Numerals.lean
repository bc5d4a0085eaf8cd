import Mathlib.Tactic.Use
import NativeApi.Text.Integer

/-!
# Numerals

The digits of a number in a base are read back as the number, as long as it is below the
bound.
-/

namespace NativeApi.Text

variable {base n bound : Nat}

/-! ### Digits -/

theorem digitValue?_digitChar (hbase : base ≤ 16) (h : n < base) :
  digitValue? base n.digitChar = some n
  := by
  have decimal : ∀ n < 10, n.digitChar.isDigit = true ∧ n.digitChar.toNat - '0'.toNat = n := by
    decide
  have beyond : ∀ n < 16, 10 ≤ n → n.digitChar.isDigit = false ∧ n.digitChar.isAlpha = true
      ∧ n.digitChar.toLower.toNat - 'a'.toNat + 10 = n := by
    decide
  by_cases small : n < 10
  · obtain ⟨digit, value⟩ := decimal n small
    simp only [digitValue?, digit, value, h, if_true]
  · obtain ⟨digit, alpha, value⟩ := beyond n (by omega) (by omega)
    simp only [digitValue?, digit, alpha, value, h, if_true, Bool.false_eq_true, if_false]

/-- The digits of a number are those of numbers below the base. -/
theorem exists_digitChar_of_mem_toDigits (hbase : 1 < base) {c : Char}
    (hc : c ∈ base.toDigits n) :
  ∃ d < base, c = d.digitChar
  := by
  induction n using Nat.strongRecOn with
  | ind n ih =>
      rw [Nat.toDigits_eq_if hbase] at hc
      split at hc
      · use n, ‹_›, List.mem_singleton.mp hc
      · rcases List.mem_append.mp hc with hc | hc
        · exact ih (n / base) (Nat.div_lt_self (by omega) hbase) hc
        · use n % base, Nat.mod_lt n (by omega), List.mem_singleton.mp hc

/-! ### Reading digits -/

theorem continueNat?_append {value : Nat} {cs ds : List Char} :
  continueNat? base value (cs ++ ds)
    = (continueNat? base value cs).bind fun next => continueNat? base next ds
  := by
  fun_induction continueNat? base value cs with
  | case1 value => rfl
  | case2 value c cs digit hdigit ih => simp [continueNat?, hdigit, ih]
  | case3 value c cs hdigit => simp [continueNat?, hdigit]

theorem continueNat?_toDigits (hbase : 1 < base) (hbase' : base ≤ 16) :
  continueNat? base 0 (base.toDigits n) = some n
  := by
  induction n using Nat.strongRecOn with
  | ind n ih =>
      rw [Nat.toDigits_eq_if hbase]
      split
      · simp [continueNat?, digitValue?_digitChar hbase' ‹_›]
      · have hdigit := digitValue?_digitChar hbase' (Nat.mod_lt n (show 0 < base by omega))
        rw [continueNat?_append, ih (n / base) (Nat.div_lt_self (by omega) hbase)]
        simp [continueNat?, hdigit, Nat.div_add_mod']

theorem continueNat?_replicate_zero (hbase : 0 < base) (zeros : Nat) :
  continueNat? base 0 (List.replicate zeros '0') = some 0
  := by
  have hzero : digitValue? base '0' = some 0 := if_pos hbase
  induction zeros with
  | zero => rfl
  | succ zeros ih => simp [List.replicate_succ, continueNat?, hzero, ih]

/-- The digits of a number are read as the number if it is below the bound, also with zeros in
front. -/
theorem readNat?_zeros_append_toDigits_eq (hbase : 1 < base) (hbase' : base ≤ 16) (zeros : Nat) :
  readNat? base bound (List.replicate zeros '0' ++ base.toDigits n)
    = if n < bound then some n else none
  := by
  have noPlus : '+' ∉ List.replicate zeros '0' ++ base.toDigits n := by
    rw [List.mem_append]
    rintro (hplus | hplus)
    · cases List.eq_of_mem_replicate hplus
    · obtain ⟨d, hd, hchar⟩ := exists_digitChar_of_mem_toDigits hbase hplus
      have : ∀ d < 16, '+' ≠ d.digitChar := by decide
      exact this d (by omega) hchar
  have skip : skipPlus (List.replicate zeros '0' ++ base.toDigits n)
      = List.replicate zeros '0' ++ base.toDigits n := by
    unfold skipPlus
    split
    · rename_i heq
      simp [heq] at noPlus
    · rfl
  have value : continueNat? base 0 (List.replicate zeros '0' ++ base.toDigits n) = some n := by
    rw [continueNat?_append, continueNat?_replicate_zero (by omega)]
    exact continueNat?_toDigits hbase hbase'
  simp [readNat?, skip, natOfDigits?, Nat.toDigits_ne_nil, value]

theorem readNat?_zeros_append_toDigits (hbase : 1 < base) (hbase' : base ≤ 16) (h : n < bound)
    (zeros : Nat) :
  readNat? base bound (List.replicate zeros '0' ++ base.toDigits n) = some n
  := by
  rw [readNat?_zeros_append_toDigits_eq hbase hbase', if_pos h]

end NativeApi.Text
