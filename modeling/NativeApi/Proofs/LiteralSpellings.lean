import NativeApi.Literal
import NativeApi.Proofs.Numerals
import NativeApi.Proofs.Words

/-!
# Spellings of literals

A literal may be written in decimal or in hexadecimal, in either case of letters, negated or
complemented, with a suffix, and in parentheses.  Main statement: whatever the spelling, the
number that it denotes is read back, if it is a signed number of 64 bits.
-/

namespace NativeApi

namespace Literal

/-! ### Spellings -/

/-- Digits of a number: decimal ones, or hexadecimal ones after `0x`, in either case of
letters. -/
def IsNumeral (n : Nat) (digits : List Char) : Prop :=
  digits.map Char.toLower = Nat.toDigits 10 n
    ∨ digits.map Char.toLower = '0' :: 'x' :: Nat.toDigits 16 n

/-- Digits as those of a numeral, with some zeros in front of the number. -/
def IsPaddedNumeral (zeros n : Nat) (digits : List Char) : Prop :=
  digits.map Char.toLower = List.replicate zeros '0' ++ Nat.toDigits 10 n
    ∨ digits.map Char.toLower = '0' :: 'x' :: (List.replicate zeros '0' ++ Nat.toDigits 16 n)

/-- The suffixes of which each asks for 64 bits. -/
def wideSuffixes : List (List Char) := [['l', 'l'], ['u', 'l', 'l']]

/-- The suffixes of which none asks for more than 32 bits. -/
def narrowSuffixes : List (List Char) := [[], ['u']]

/-- The suffixes that a number may have that is not complemented. -/
def suffixes : List (List Char) := narrowSuffixes ++ [['l'], ['u', 'l']] ++ wideSuffixes

/-- A literal without parentheses and the number that it denotes.  The complement is that of
32 bits without a sign, or that of 64 bits with one where the suffix asks for it. -/
inductive Spells : List Char → Int → Prop where
  | plain {n : Nat} {digits suffix : List Char} : IsNumeral n digits →
      suffix.map Char.toLower ∈ suffixes → Spells (digits ++ suffix) n
  | negated {n : Nat} {digits suffix : List Char} : IsNumeral n digits →
      suffix.map Char.toLower ∈ suffixes → Spells ('-' :: (digits ++ suffix)) (-n)
  | narrow {n : Nat} {digits suffix : List Char} : n < Text.bound32 → IsNumeral n digits →
      suffix.map Char.toLower ∈ narrowSuffixes →
      Spells ('~' :: (digits ++ suffix)) (Text.bound32 - 1 - n)
  | wide {n : Nat} {digits suffix : List Char} : n ≤ Text.greatest64 → IsNumeral n digits →
      suffix.map Char.toLower ∈ wideSuffixes → Spells ('~' :: (digits ++ suffix)) (-(n + 1))

/-- A text with the same number of adjacent parentheses on either side of a body, and white
space outside and just inside of them. -/
def Wraps (body text : List Char) : Prop :=
  ∃ (count : Nat) (before left right after : List Char),
    (∀ c ∈ before ++ left ++ right ++ after, Text.isBlank c = true)
      ∧ text = before ++ List.replicate count '(' ++ left ++ body
        ++ right ++ List.replicate count ')' ++ after

/-! ### White space and parentheses -/

/-- A character that is no white space does not come first in blanks and a body that does
not begin with it. -/
theorem ne_of_mem_head? {mark : Char} {left body rest : List Char}
    (hmark : Text.isBlank mark = false) (hleft : ∀ c ∈ left, Text.isBlank c = true)
    (hne : body ≠ []) (hbody : ∀ c ∈ body.head?, c ≠ mark) :
  ∀ c ∈ (left ++ (body ++ rest)).head?, (c == mark) = false
  := by
  intro c hc
  apply beq_false_of_ne
  cases left with
  | nil =>
      obtain ⟨first, body, rfl⟩ := List.exists_cons_of_ne_nil hne
      apply hbody c hc
  | cons blank left =>
      obtain rfl := Option.some.inj hc
      rintro rfl
      rw [hleft _ List.mem_cons_self] at hmark
      cases hmark

/-- Parentheses around a body, with nothing but white space in between, are taken off. -/
theorem dropParentheses_eq {body left right : List Char} (count : Nat)
    (hleft : ∀ c ∈ left, Text.isBlank c = true) (hright : ∀ c ∈ right, Text.isBlank c = true)
    (hne : body ≠ []) (hhead : ∀ c ∈ body.head?, c ≠ '(') (hlast : ∀ c ∈ body.getLast?, c ≠ ')') :
  Text.dropEndWhile (· == ')') ((List.replicate count '(' ++ (left ++ (body ++ right)
      ++ List.replicate count ')')).dropWhile (· == '('))
    = left ++ (body ++ right)
  := by
  rw [Text.dropWhile_append_eq, Text.dropEndWhile_append_eq]
  · simp
  · rw [← List.head?_reverse, List.reverse_append, List.reverse_append, List.append_assoc]
    apply ne_of_mem_head? (by decide) (by simpa using hright) (by simpa using hne)
    rw [List.head?_reverse]
    exact hlast
  · simp
  · rw [List.append_assoc, List.append_assoc]
    apply ne_of_mem_head? (by decide) hleft hne hhead

/-- White space and parentheses around a body are taken off. -/
theorem bare_of_wraps {body text : List Char} (wraps : Wraps body text) (hne : body ≠ [])
    (hhead : ∀ c ∈ body.head?, Text.isBlank c = false ∧ c ≠ '(')
    (hlast : ∀ c ∈ body.getLast?, Text.isBlank c = false ∧ c ≠ ')') :
  bare text = body
  := by
  obtain ⟨count, before, left, right, after, blank, rfl⟩ := wraps
  simp only [List.mem_append, or_imp, forall_and] at blank hhead hlast
  obtain ⟨⟨⟨hbefore, hleft⟩, hright⟩, hafter⟩ := blank
  cases count with
  | zero =>
      -- white space outside and inside is the same
      have outer : Text.trimChars ((before ++ left) ++ body ++ (right ++ after)) = body := by
        apply Text.trimChars_append_eq hne _ _ hhead.1 hlast.1
        · exact List.forall_mem_append.mpr ⟨hbefore, hleft⟩
        · exact List.forall_mem_append.mpr ⟨hright, hafter⟩
      have drop := dropParentheses_eq 0 (List.forall_mem_nil _) (List.forall_mem_nil _) hne
        hhead.2 hlast.2
      have inner := Text.trimChars_append_eq hne (List.forall_mem_nil _) (List.forall_mem_nil _)
        hhead.1 hlast.1
      simp only [List.replicate_zero, List.append_nil, List.nil_append, List.append_assoc]
        at outer drop inner ⊢
      rw [bare, outer, drop, inner]
  | succ count =>
      have inner := Text.trimChars_append_eq hne hleft hright hhead.1 hlast.1
      have drop := dropParentheses_eq (count + 1) hleft hright hne hhead.2 hlast.2
      have first : (List.replicate (count + 1) '(' ++ (left ++ (body ++ right))
          ++ List.replicate (count + 1) ')').head? = some '(' := by
        rfl
      have last : (List.replicate (count + 1) '(' ++ (left ++ (body ++ right))
          ++ List.replicate (count + 1) ')').getLast? = some ')' := by
        simp [List.getLast?_append, List.getLast?_replicate]
      have outer := Text.trimChars_append_eq (List.ne_nil_of_mem (List.mem_of_mem_head? first))
        hbefore hafter (by rw [first]; rintro c ⟨⟩; rfl) (by rw [last]; rintro c ⟨⟩; rfl)
      simp only [List.append_assoc] at outer drop inner ⊢
      rw [bare, outer, drop, inner]

/-! ### Digits and suffixes -/

section

variable {zeros n : Nat} {digits suffix : List Char}

/-- Every suffix is made of letters of suffixes. -/
theorem isSuffixLetter_of_mem_suffixes {s : List Char} (hs : s ∈ suffixes) :
  ∀ c ∈ s, isSuffixLetter c = true
  := by
  have all : suffixes.all (·.all isSuffixLetter) = true := by decide
  exact List.all_eq_true.mp (List.all_eq_true.mp all s hs)

theorem isAlphanum_of_isSuffixLetter {c : Char} (h : isSuffixLetter c = true) :
  c.isAlphanum = true
  := by
  rw [isSuffixLetter, Bool.or_eq_true, beq_iff_eq, beq_iff_eq] at h
  rcases h with rfl | rfl <;> rfl

/-- A numeral is one without zeros in front. -/
theorem IsNumeral.padded (h : IsNumeral n digits) :
  IsPaddedNumeral 0 n digits
  := h

/-- A numeral, in lower case, is made of digits and the mark of hexadecimal ones. -/
theorem IsPaddedNumeral.mem_cases (h : IsPaddedNumeral zeros n digits) {c : Char}
    (hc : c ∈ digits.map Char.toLower) :
  c = 'x' ∨ ∃ d < 16, c = d.digitChar
  := by
  have digit {base : Nat} (hbase : 1 < base) (hbase' : base ≤ 16)
      (hc : c ∈ List.replicate zeros '0' ++ Nat.toDigits base n) : ∃ d < 16, c = d.digitChar := by
    rcases List.mem_append.mp hc with hc | hc
    · exact ⟨0, by decide, List.eq_of_mem_replicate hc⟩
    · obtain ⟨d, hd, hchar⟩ := Text.exists_digitChar_of_mem_toDigits hbase hc
      exact ⟨d, by omega, hchar⟩
  rcases h with h | h
  · rw [h] at hc
    exact .inr (digit (by decide) (by decide) hc)
  · rw [h, List.mem_cons, List.mem_cons] at hc
    rcases hc with rfl | rfl | hc
    · exact .inr ⟨0, by decide, rfl⟩
    · exact .inl rfl
    · exact .inr (digit (by decide) (by decide) hc)

/-- A numeral is made of letters and digits. -/
theorem IsPaddedNumeral.isAlphanum (h : IsPaddedNumeral zeros n digits) :
  ∀ c ∈ digits.map Char.toLower, c.isAlphanum = true
  := by
  have digit : ∀ d < 16, d.digitChar.isAlphanum = true := by decide
  intro c hc
  obtain rfl | ⟨d, hd, rfl⟩ := h.mem_cases hc
  · rfl
  · exact digit d hd

/-- No character of a numeral is a letter of suffixes. -/
theorem IsPaddedNumeral.noSuffixLetter (h : IsPaddedNumeral zeros n digits) :
  ∀ c ∈ digits.map Char.toLower, isSuffixLetter c = false
  := by
  have digit : ∀ d < 16, isSuffixLetter d.digitChar = false := by decide
  intro c hc
  obtain rfl | ⟨d, hd, rfl⟩ := h.mem_cases hc
  · rfl
  · exact digit d hd

/-- The number of a numeral is read if it is one of 64 bits. -/
theorem IsPaddedNumeral.magnitude? (h : IsPaddedNumeral zeros n digits) :
  Literal.magnitude? (digits.map Char.toLower) = if n < Text.bound64 then some n else none
  := by
  rcases h with h | h
  · rw [h, Literal.magnitude?]
    · apply Text.readNat?_zeros_append_toDigits_eq (by decide) (by decide)
    · intro hex hdigits
      have hx : 'x' ∈ List.replicate zeros '0' ++ Nat.toDigits 10 n := by simp [hdigits]
      rcases List.mem_append.mp hx with hx | hx
      · cases List.eq_of_mem_replicate hx
      · cases Nat.isDigit_of_mem_toDigits (by decide) (by decide) hx
  · rw [h]
    apply Text.readNat?_zeros_append_toDigits_eq (by decide) (by decide)

theorem IsPaddedNumeral.ne_nil (h : IsPaddedNumeral zeros n digits) :
  digits ≠ []
  := by
  rintro rfl
  rcases h with h | h
  · apply Nat.toDigits_ne_nil (List.append_eq_nil_iff.mp h.symm).2
  · cases h

/-- A numeral with letters of suffixes is a row of letters and digits. -/
theorem IsPaddedNumeral.isWord (h : IsPaddedNumeral zeros n digits)
    (hsuffix : ∀ c ∈ suffix.map Char.toLower, isSuffixLetter c = true) :
  Text.IsWord (digits ++ suffix)
  := by
  constructor
  · apply List.append_ne_nil_of_left_ne_nil h.ne_nil
  · intro c hc
    apply Text.isAlphanum_of_toLower
    rcases List.mem_append.mp hc with hc | hc
    · apply h.isAlphanum _ (List.mem_map_of_mem hc)
    · apply isAlphanum_of_isSuffixLetter (hsuffix _ (List.mem_map_of_mem hc))

/-- A numeral with a suffix is a row of letters and digits. -/
theorem IsNumeral.isWord (h : IsNumeral n digits) (hsuffix : suffix.map Char.toLower ∈ suffixes) :
  Text.IsWord (digits ++ suffix)
  := h.padded.isWord (isSuffixLetter_of_mem_suffixes hsuffix)

/-- A numeral with a suffix asks for 64 bits if the suffix is one that does. -/
theorem IsNumeral.isSome_stripSuffix? (hsuffix : suffix.map Char.toLower ∈ wideSuffixes) :
  (Text.stripSuffix? ['l', 'l'] ((digits ++ suffix).map Char.toLower)).isSome = true
  := by
  have hwide : ∃ front, suffix.map Char.toLower = front ++ ['l', 'l'] := by
    rcases List.mem_cons.mp hsuffix with hs | hs
    · use [], hs
    · use ['u'], List.mem_singleton.mp hs
  obtain ⟨front, hfront⟩ := hwide
  apply Option.isSome_iff_exists.mpr
  use digits.map Char.toLower ++ front
  rw [Text.stripSuffix?_eq_some_iff, List.map_append, hfront, List.append_assoc]

theorem IsNumeral.stripSuffix?_eq_none (h : IsNumeral n digits)
    (hsuffix : suffix.map Char.toLower ∈ narrowSuffixes) :
  Text.stripSuffix? ['l', 'l'] ((digits ++ suffix).map Char.toLower) = none
  := by
  apply Option.eq_none_iff_forall_ne_some.mpr
  intro front hfront
  rw [Text.stripSuffix?_eq_some_iff, List.map_append] at hfront
  have hlast : (digits.map Char.toLower ++ suffix.map Char.toLower).getLast? = some 'l' := by
    simp [hfront]
  rcases List.mem_cons.mp hsuffix with hs | hs
  · rw [hs, List.append_nil] at hlast
    cases h.padded.noSuffixLetter 'l' (List.mem_of_getLast? hlast)
  · rw [List.mem_singleton.mp hs, List.getLast?_append] at hlast
    cases hlast

/-! ### Reading -/

/-- No sign is found in front of a row of letters and digits. -/
theorem sign_word {mark : Char} (hmark : mark.isAlphanum = false) {word : List Char}
    (hword : Text.IsWord word) :
  sign mark word = (false, word)
  := by
  obtain ⟨c, cs, rfl⟩ := List.exists_cons_of_ne_nil hword.ne_nil
  have hne : c ≠ mark := by
    rintro rfl
    rw [hword.isAlphanum _ List.mem_cons_self] at hmark
    cases hmark
  rw [sign, if_neg hne]

/-- A sign is found in front of a row of letters and digits. -/
theorem sign_cons_word (mark : Char) {word : List Char} (hword : Text.IsWord word) :
  sign mark (mark :: word) = (true, word)
  := by
  have blank := fun c hc => Text.isBlank_of_isAlphanum (hword.isAlphanum c hc)
  have htrim := Text.trimChars_append_eq hword.ne_nil (List.forall_mem_nil _) (List.forall_mem_nil _)
    (fun c hc => blank c (List.mem_of_mem_head? hc))
    (fun c hc => blank c (List.mem_of_mem_getLast? hc))
  rw [List.nil_append, List.append_nil] at htrim
  rw [sign, if_pos rfl, htrim]

/-- Nothing but white space and parentheses is taken off a row of letters and digits with a
sign in front. -/
theorem bare_of_wraps_word {text : String} {word : List Char} (signs : List Char)
    (hsigns : ∀ c ∈ signs.head?, c = '-' ∨ c = '~') (hword : Text.IsWord word)
    (wraps : Wraps (signs ++ word) text.toList) :
  bare text.toList = signs ++ word
  := by
  have solid (c : Char) (hc : c ∈ word) : Text.isBlank c = false ∧ c ≠ '(' ∧ c ≠ ')' := by
    have halphanum := hword.isAlphanum c hc
    use Text.isBlank_of_isAlphanum halphanum
    constructor <;> rintro rfl <;> cases halphanum
  apply bare_of_wraps wraps (List.append_ne_nil_of_right_ne_nil signs hword.ne_nil)
  · intro c hc
    cases signs with
    | nil =>
        obtain ⟨hblank, hopen, -⟩ := solid c (List.mem_of_mem_head? hc)
        use hblank, hopen
    | cons mark signs =>
        obtain rfl := Option.some.inj hc
        rcases hsigns mark rfl with rfl | rfl <;> decide
  · intro c hc
    rw [List.getLast?_append, List.getLast?_eq_some_getLast hword.ne_nil, Option.some_or] at hc
    obtain ⟨hblank, -, hclose⟩ := solid c (Option.some.inj hc ▸ List.getLast_mem hword.ne_nil)
    use hblank, hclose

/-- The literal that a text spells by a numeral with letters of suffixes, after the signs that
are found. -/
theorem IsPaddedNumeral.parse? {text : String} {body : List Char} {negated complemented : Bool}
    (h : IsPaddedNumeral zeros n digits)
    (hsuffix : ∀ c ∈ suffix.map Char.toLower, isSuffixLetter c = true) (signs : List Char)
    (hsigns : ∀ c ∈ signs.head?, c = '-' ∨ c = '~')
    (wraps : Wraps (signs ++ (digits ++ suffix)) text.toList)
    (minus : sign '-' (signs ++ (digits ++ suffix)) = (negated, body))
    (tilde : sign '~' body = (complemented, digits ++ suffix)) :
  Literal.parse? text = (if n < Text.bound64 then some n else none).map fun magnitude =>
    { negated, complemented, magnitude,
      wide := (Text.stripSuffix? ['l', 'l'] ((digits ++ suffix).map Char.toLower)).isSome }
  := by
  have hbare := bare_of_wraps_word signs hsigns (h.isWord hsuffix) wraps
  have hdrop : Text.dropEndWhile isSuffixLetter ((digits ++ suffix).map Char.toLower)
      = digits.map Char.toLower := by
    rw [List.map_append]
    apply Text.dropEndWhile_append_eq hsuffix
    exact fun c hc => h.noSuffixLetter c (List.mem_of_mem_getLast? hc)
  simp only [Literal.parse?, hbare, minus, tilde, hdrop, h.magnitude?]

theorem IsNumeral.parse? {text : String} {body : List Char} {negated complemented : Bool}
    (h : IsNumeral n digits) (hn : n < Text.bound64)
    (hsuffix : suffix.map Char.toLower ∈ suffixes) (signs : List Char)
    (hsigns : ∀ c ∈ signs.head?, c = '-' ∨ c = '~')
    (wraps : Wraps (signs ++ (digits ++ suffix)) text.toList)
    (minus : sign '-' (signs ++ (digits ++ suffix)) = (negated, body))
    (tilde : sign '~' body = (complemented, digits ++ suffix)) :
  Literal.parse? text = some
    { negated, complemented, magnitude := n,
      wide := (Text.stripSuffix? ['l', 'l'] ((digits ++ suffix).map Char.toLower)).isSome }
  := by
  rw [h.padded.parse? (isSuffixLetter_of_mem_suffixes hsuffix) signs hsigns wraps minus tilde,
    if_pos hn, Option.map_some]

end

/-! ### Values -/

theorem value?_plain {n : Nat} {wide : Bool} (h : (n : Int) ≤ Text.greatest64) :
  value? ⟨false, false, wide, n⟩ = some (n : Int)
  := by
  have hword : word64 n = n := by
    rw [word64, Text.bound64]
    apply Int.bmod_eq_of_le
    · omega
    · rw [Text.greatest64] at h
      omega
  simp [value?, unsignedValue, hword]

theorem value?_negated {n : Nat} {wide : Bool} (h : Text.least64 ≤ -(n : Int)) :
  value? ⟨true, false, wide, n⟩ = some (-(n : Int))
  := by
  have hrange : Text.least64 ≤ -(n : Int) ∧ -(n : Int) ≤ Text.greatest64 := by
    use h
    rw [Text.greatest64]
    omega
  simp [value?, Text.signed64?, hrange]

theorem value?_narrow {n : Nat} (h : n < Text.bound32) :
  value? ⟨false, true, false, n⟩ = some (Text.bound32 - 1 - n : Int)
  := by
  have hword : ((Text.bound32 - 1 - n % Text.bound32 : Nat) : Int) = Text.bound32 - 1 - n := by
    rw [Nat.mod_eq_of_lt h]
    omega
  simp [value?, unsignedValue, hword]

theorem value?_wide {n : Nat} (h : (n : Int) ≤ Text.greatest64) :
  value? ⟨false, true, true, n⟩ = some (-(n + 1 : Int))
  := by
  have hword : word64 (Text.bound64 - 1 - n) = -(n + 1 : Int) := by
    rw [Text.greatest64] at h
    rw [word64, Int.bmod_def, Text.bound64]
    omega
  simp [value?, unsignedValue, hword]

/-! ### All literals -/

/-- The number that a text spells, in whatever parentheses, is read back, if it is a signed
number of 64 bits. -/
theorem read?_of_spells {body : List Char} {text : String} {value : Int}
    (spells : Spells body value) (wraps : Wraps body text.toList)
    (least : Text.least64 ≤ value) (greatest : value ≤ Text.greatest64) :
  read? text = some value
  := by
  cases spells with
  | @plain n digits suffix numeral hsuffix =>
      have word := numeral.isWord hsuffix
      have hn : n < Text.bound64 := by
        rw [Text.greatest64] at greatest
        rw [Text.bound64]
        omega
      rw [read?, numeral.parse? hn hsuffix [] (by simp) wraps (sign_word (by decide) word)
        (sign_word (by decide) word)]
      apply value?_plain greatest
  | @negated n digits suffix numeral hsuffix =>
      have word := numeral.isWord hsuffix
      have hn : n < Text.bound64 := by
        rw [Text.least64] at least
        rw [Text.bound64]
        omega
      rw [read?, numeral.parse? hn hsuffix ['-'] (by simp) wraps (sign_cons_word '-' word)
        (sign_word (by decide) word)]
      apply value?_negated least
  | @narrow n digits suffix hn numeral hsuffix =>
      have hsuffix' : suffix.map Char.toLower ∈ suffixes := by simp [suffixes, hsuffix]
      have word := numeral.isWord hsuffix'
      have hbound : n < Text.bound64 := by
        rw [Text.bound32] at hn
        rw [Text.bound64]
        omega
      rw [read?, numeral.parse? hbound hsuffix' ['~'] (by simp) wraps rfl
        (sign_cons_word '~' word), numeral.stripSuffix?_eq_none hsuffix]
      apply value?_narrow hn
  | @wide n digits suffix hn numeral hsuffix =>
      have hsuffix' : suffix.map Char.toLower ∈ suffixes := by simp [suffixes, hsuffix]
      have word := numeral.isWord hsuffix'
      have hbound : n < Text.bound64 := by
        rw [Text.greatest64] at hn
        rw [Text.bound64]
        omega
      rw [read?, numeral.parse? hbound hsuffix' ['~'] (by simp) wraps rfl
        (sign_cons_word '~' word), IsNumeral.isSome_stripSuffix? hsuffix]
      apply value?_wide hn

/-- The least number of 64 bits with a sign is read back from a spelling in hexadecimal. -/
theorem read?_of_spells_least :
  ∃ body, Spells body Text.least64 ∧ Wraps body " (( -0X8000000000000000Ll))".toList
    ∧ read? " (( -0X8000000000000000Ll))" = some Text.least64
  := by
  have numeral : IsNumeral (2 ^ 63) ('0' :: 'X' :: '8' :: List.replicate 15 '0') := by
    right
    decide
  have spells : Spells ('-' :: ('0' :: 'X' :: '8' :: List.replicate 15 '0' ++ ['L', 'l']))
      Text.least64 := .negated numeral (by decide)
  have wraps : Wraps ('-' :: ('0' :: 'X' :: '8' :: List.replicate 15 '0' ++ ['L', 'l']))
      " (( -0X8000000000000000Ll))".toList := by
    use 2, [' '], [' '], [], [], List.all_eq_true.mp (by decide)
    decide
  exact ⟨_, spells, wraps, read?_of_spells spells wraps (by decide) (by decide)⟩

end Literal

end NativeApi
