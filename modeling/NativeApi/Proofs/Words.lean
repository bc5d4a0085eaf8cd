import NativeApi.Text.Affix
import NativeApi.Text.Blank

/-!
# Words and white space

A row of letters and digits is found again in the middle of white space.  Main statement:
`trimChars_append_eq`, which holds of any text that begins and ends with no white space.
-/

namespace NativeApi.Text

/-! ### Words -/

/-- A row of letters and digits. -/
structure IsWord (cs : List Char) : Prop where
  ne_nil : cs ≠ []
  isAlphanum : ∀ c ∈ cs, c.isAlphanum = true

theorem isAlphanum_iff {c : Char} :
  c.isAlphanum = true
    ↔ 65 ≤ c.toNat ∧ c.toNat ≤ 90 ∨ 97 ≤ c.toNat ∧ c.toNat ≤ 122 ∨ 48 ≤ c.toNat ∧ c.toNat ≤ 57
  := by
  have hlower : c.isLower = (decide (97 ≤ c.toNat) && decide (c.toNat ≤ 122)) := rfl
  have hdigit : c.isDigit = (decide (48 ≤ c.toNat) && decide (c.toNat ≤ 57)) := rfl
  have halphanum : c.isAlphanum = (c.isUpper || c.isLower || c.isDigit) := rfl
  rw [halphanum, hlower, hdigit, Bool.or_eq_true, Bool.or_eq_true, isUpper_iff, or_assoc]
  simp only [Bool.and_eq_true, decide_eq_true_eq]

theorem isAlphanum_of_toLower {c : Char} (h : c.toLower.isAlphanum = true) :
  c.isAlphanum = true
  := by
  unfold Char.toLower at h
  split at h
  · rename_i hupper
    exact isAlphanum_iff.mpr (.inl hupper)
  · exact h

/-- No letter or digit is white space. -/
theorem isBlank_of_isAlphanum {c : Char} (h : c.isAlphanum = true) :
  isBlank c = false
  := by
  have := isAlphanum_iff.mp h
  simp only [isBlank, Bool.or_eq_false_iff, Bool.and_eq_false_iff, decide_eq_false_iff_not,
    beq_eq_false_iff_ne]
  omega

theorem isBlank_of_isDigit {c : Char} (h : c.isDigit = true) :
  isBlank c = false
  := isBlank_of_isAlphanum (by simp [Char.isAlphanum, h])

theorem isDigit_of_isBlank {c : Char} (h : isBlank c = true) :
  c.isDigit = false
  := by
  apply Bool.eq_false_iff.mpr
  intro hdigit
  rw [isBlank_of_isDigit hdigit] at h
  cases h

/-! ### Finding a character -/

theorem hasPart_singleton_iff {mark : Char} {cs : List Char} :
  hasPart [mark] cs = true ↔ mark ∈ cs
  := by
  induction cs with
  | nil => simp [hasPart]
  | cons c cs ih => simp [hasPart, ih]

/-! ### Taking characters from either side -/

theorem dropWhile_append_eq {p : Char → Bool} {front core : List Char}
    (hfront : ∀ c ∈ front, p c = true) (hcore : ∀ c ∈ core.head?, p c = false) :
  (front ++ core).dropWhile p = core
  := by
  rw [List.dropWhile_append_of_pos hfront]
  cases core with
  | nil => rfl
  | cons c core => rw [List.dropWhile_cons_of_neg (by simp [hcore c rfl])]

theorem takeWhile_append_eq {p : Char → Bool} {front core : List Char}
    (hfront : ∀ c ∈ front, p c = true) (hcore : ∀ c ∈ core.head?, p c = false) :
  (front ++ core).takeWhile p = front
  := by
  have hsplit := List.takeWhile_append_dropWhile (p := p) (l := front ++ core)
  rw [dropWhile_append_eq hfront hcore] at hsplit
  exact List.append_cancel_right hsplit

theorem dropEndWhile_append_eq {p : Char → Bool} {core back : List Char}
    (hback : ∀ c ∈ back, p c = true) (hcore : ∀ c ∈ core.getLast?, p c = false) :
  dropEndWhile p (core ++ back) = core
  := by
  rw [dropEndWhile, List.reverse_append, dropWhile_append_eq, List.reverse_reverse]
  · simpa using hback
  · simpa using hcore

theorem trimChars_append_eq {front core back : List Char} (hne : core ≠ [])
    (hfront : ∀ c ∈ front, isBlank c = true) (hback : ∀ c ∈ back, isBlank c = true)
    (hhead : ∀ c ∈ core.head?, isBlank c = false) (hlast : ∀ c ∈ core.getLast?, isBlank c = false) :
  trimChars (front ++ core ++ back) = core
  := by
  rw [trimChars, List.append_assoc, dropWhile_append_eq hfront, dropEndWhile_append_eq hback hlast]
  obtain ⟨c, core, rfl⟩ := List.exists_cons_of_ne_nil hne
  exact hhead

end NativeApi.Text
