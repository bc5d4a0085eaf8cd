import NativeApi.Proofs.Numerals
import NativeApi.Proofs.Words

/-!
# Signed integers in texts

An integer is written in decimal digits, with or without a sign, in the middle of white space.
Main statement: a text is read as a number exactly if it is such a text of the number and the
number is a signed one of 64 bits.
-/

namespace NativeApi.Text

/-! ### Texts of integers -/

/-- Decimal digits of a number, with or without a sign in front. -/
inductive SpellsInteger : List Char → Int → Prop where
  | plain {digits : List Char} : digits ≠ [] → (∀ c ∈ digits, c.isDigit = true) →
      SpellsInteger digits (Nat.ofDigitChars 10 digits 0)
  | plus {digits : List Char} : digits ≠ [] → (∀ c ∈ digits, c.isDigit = true) →
      SpellsInteger ('+' :: digits) (Nat.ofDigitChars 10 digits 0)
  | minus {digits : List Char} : digits ≠ [] → (∀ c ∈ digits, c.isDigit = true) →
      SpellsInteger ('-' :: digits) (-Nat.ofDigitChars 10 digits 0)

/-- A text of a signed number of 64 bits, in the middle of white space. -/
def IsInteger64 (text : String) (n : Int) : Prop :=
  least64 ≤ n ∧ n ≤ greatest64 ∧ ∃ left core right : List Char,
    (∀ c ∈ left ++ right, isBlank c = true) ∧ SpellsInteger core n
      ∧ text.toList = left ++ core ++ right

variable {cs : List Char} {n : Int}

/-! ### White space -/

/-- What is trimmed off a text is white space. -/
theorem exists_append_trimChars (cs : List Char) :
  ∃ left right : List Char,
    (∀ c ∈ left ++ right, isBlank c = true) ∧ cs = left ++ trimChars cs ++ right
  := by
  have blank {ds : List Char} : ∀ c ∈ ds.takeWhile isBlank, isBlank c = true :=
    List.all_eq_true.mp List.all_takeWhile
  use cs.takeWhile isBlank, ((cs.dropWhile isBlank).reverse.takeWhile isBlank).reverse
  constructor
  · intro c hc
    rcases List.mem_append.mp hc with hc | hc
    · exact blank c hc
    · exact blank c (List.mem_reverse.mp hc)
  · rw [trimChars, dropEndWhile, List.append_assoc, ← List.reverse_append,
      List.takeWhile_append_dropWhile, List.reverse_reverse, List.takeWhile_append_dropWhile]

/-- Nothing of an integer is white space. -/
theorem SpellsInteger.not_blank (spells : SpellsInteger cs n) :
  cs ≠ [] ∧ ∀ c ∈ cs, isBlank c = false
  := by
  cases spells with
  | plain hne digit =>
      use hne, fun c hc => isBlank_of_isDigit (digit c hc)
  | plus hne digit =>
      use List.cons_ne_nil _ _
      exact List.forall_mem_cons.mpr ⟨rfl, fun c hc => isBlank_of_isDigit (digit c hc)⟩
  | minus hne digit =>
      use List.cons_ne_nil _ _
      exact List.forall_mem_cons.mpr ⟨rfl, fun c hc => isBlank_of_isDigit (digit c hc)⟩

/-- An integer is what remains of its text when white space is trimmed off. -/
theorem SpellsInteger.trimChars_append {left right : List Char} (spells : SpellsInteger cs n)
    (blank : ∀ c ∈ left ++ right, isBlank c = true) :
  trimChars (left ++ cs ++ right) = cs
  := by
  obtain ⟨hne, solid⟩ := spells.not_blank
  obtain ⟨hleft, hright⟩ := List.forall_mem_append.mp blank
  apply trimChars_append_eq hne hleft hright
  · exact fun c hc => solid c (List.mem_of_mem_head? hc)
  · exact fun c hc => solid c (List.mem_of_mem_getLast? hc)

/-! ### Digits -/

theorem digitValue?_ten (c : Char) :
  digitValue? 10 c = if c.isDigit then some (c.toNat - '0'.toNat) else none
  := by
  unfold digitValue?
  split
  · rename_i hdigit
    have : c.toNat ≤ 57 := by
      simp only [Char.isDigit, Bool.and_eq_true, decide_eq_true_eq] at hdigit
      exact hdigit.2
    have hlt : c.toNat - '0'.toNat < 10 := by
      have : '0'.toNat = 48 := rfl
      omega
    rw [if_pos hlt]
  · split
    · rw [if_neg (by omega)]
    · rw [if_neg (by omega)]

/-- Digits are read as the number that they continue. -/
theorem continueNat?_ten_eq_some_iff {value m : Nat} :
  continueNat? 10 value cs = some m
    ↔ (∀ c ∈ cs, c.isDigit = true) ∧ m = Nat.ofDigitChars 10 cs value
  := by
  induction cs generalizing value with
  | nil =>
      rw [continueNat?, Option.some.injEq, Nat.ofDigitChars_nil,
        and_iff_right (List.forall_mem_nil _), eq_comm]
  | cons c cs ih =>
      rw [continueNat?, digitValue?_ten, List.forall_mem_cons, Nat.ofDigitChars_cons,
        Nat.mul_comm 10]
      by_cases hdigit : c.isDigit = true
      · simp only [hdigit, if_true, ih, true_and]
      · simp only [hdigit, if_false, reduceCtorEq, false_and, Bool.false_eq_true]

theorem natOfDigits?_ten_eq_some_iff {m : Nat} :
  natOfDigits? 10 cs = some m
    ↔ cs ≠ [] ∧ (∀ c ∈ cs, c.isDigit = true) ∧ m = Nat.ofDigitChars 10 cs 0
  := by
  cases cs with
  | nil => simp [natOfDigits?]
  | cons c cs => simp [natOfDigits?, continueNat?_ten_eq_some_iff]

theorem signed64?_eq_some_iff {m : Int} :
  signed64? m = some n ↔ least64 ≤ n ∧ n ≤ greatest64 ∧ n = m
  := by
  unfold signed64?
  split
  · rename_i range
    constructor
    · intro h
      obtain rfl := Option.some.inj h
      use range.1, range.2
    · rintro ⟨-, -, rfl⟩
      rfl
  · rename_i range
    constructor
    · intro h
      cases h
    · rintro ⟨least, greatest, rfl⟩
      exact absurd ⟨least, greatest⟩ range

/-! ### Reading -/

/-- Decimal digits of a number. -/
def AreDigitsOf (digits : List Char) (n : Nat) : Prop :=
  digits ≠ [] ∧ (∀ c ∈ digits, c.isDigit = true) ∧ n = Nat.ofDigitChars 10 digits 0

theorem spellsInteger_minus_iff :
  SpellsInteger ('-' :: cs) n ↔ ∃ m, AreDigitsOf cs m ∧ n = -m
  := by
  constructor
  · intro spells
    cases spells with
    | plain _ digit => cases digit '-' List.mem_cons_self
    | minus hne digit => exact ⟨_, ⟨hne, digit, rfl⟩, rfl⟩
  · rintro ⟨m, ⟨hne, digit, rfl⟩, rfl⟩
    exact .minus hne digit

theorem spellsInteger_plus_iff :
  SpellsInteger ('+' :: cs) n ↔ ∃ m, AreDigitsOf cs m ∧ n = m
  := by
  constructor
  · intro spells
    cases spells with
    | plain _ digit => cases digit '+' List.mem_cons_self
    | plus hne digit => exact ⟨_, ⟨hne, digit, rfl⟩, rfl⟩
  · rintro ⟨m, ⟨hne, digit, rfl⟩, rfl⟩
    exact .plus hne digit

theorem spellsInteger_plain_iff (noMinus : ∀ digits, cs ≠ '-' :: digits)
    (noPlus : ∀ digits, cs ≠ '+' :: digits) :
  SpellsInteger cs n ↔ ∃ m, AreDigitsOf cs m ∧ n = m
  := by
  constructor
  · intro spells
    cases spells with
    | plain hne digit => exact ⟨_, ⟨hne, digit, rfl⟩, rfl⟩
    | plus hne digit => exact absurd rfl (noPlus _)
    | minus hne digit => exact absurd rfl (noMinus _)
  · rintro ⟨m, ⟨hne, digit, rfl⟩, rfl⟩
    exact .plain hne digit

/-- A number of digits is read and given a sign. -/
theorem natOfDigits?_bind_eq_some_iff {f : Nat → Int} :
  ((natOfDigits? 10 cs).bind fun m => signed64? (f m)) = some n
    ↔ least64 ≤ n ∧ n ≤ greatest64 ∧ ∃ m, AreDigitsOf cs m ∧ n = f m
  := by
  simp only [Option.bind_eq_some_iff, natOfDigits?_ten_eq_some_iff, signed64?_eq_some_iff,
    AreDigitsOf]
  constructor
  · rintro ⟨m, digits, least, greatest, hn⟩
    use least, greatest, m, digits
  · rintro ⟨least, greatest, m, digits, hn⟩
    use m, digits, least, greatest

/-- A number is read from its text alone. -/
theorem readInt64?_eq_some_iff :
  readInt64? cs = some n ↔ least64 ≤ n ∧ n ≤ greatest64 ∧ SpellsInteger cs n
  := by
  unfold readInt64?
  split
  · rw [natOfDigits?_bind_eq_some_iff, spellsInteger_minus_iff]
  · rename_i noMinus
    unfold skipPlus
    split
    · rw [natOfDigits?_bind_eq_some_iff, spellsInteger_plus_iff]
    · rename_i noPlus
      rw [natOfDigits?_bind_eq_some_iff, spellsInteger_plain_iff noMinus noPlus]

/-- A text is read as a number exactly if it is one of the number. -/
theorem readInt64?_trimChars_eq_some_iff {text : String} :
  readInt64? (trimChars text.toList) = some n ↔ IsInteger64 text n
  := by
  rw [readInt64?_eq_some_iff, IsInteger64]
  constructor
  · rintro ⟨least, greatest, spells⟩
    obtain ⟨left, right, blank, happend⟩ := exists_append_trimChars text.toList
    use least, greatest, left, trimChars text.toList, right
  · rintro ⟨least, greatest, left, core, right, blank, spells, htext⟩
    rw [htext, spells.trimChars_append blank]
    use least, greatest

end NativeApi.Text
