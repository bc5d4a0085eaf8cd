import NativeApi.Proofs.Outcomes
import NativeApi.Proofs.SignedIntegers
import NativeApi.Registration.Enumerations

/-!
# Values at offsets

A member that an extension adds has its value at an offset in the range of the extension.
Main statement: the value is the exact one or there is none, no two places have the same value,
and an entry gets the value of its place or is malformed.
-/

namespace NativeApi.EnumMember

/-! ### Places -/

/-- The distance from zero of the value at an offset in the range of an extension. -/
def distance (extension offset : Int) : Int :=
  extensionBase + (extension - 1) * extensionRange + offset

/-- A number, or its negative. -/
def directed (negative : Bool) (n : Int) : Int := if negative then -n else n

/-- An offset in the range of an extension. -/
structure IsPlace (extension offset : Int) : Prop where
  one_le : 1 ≤ extension
  nonneg : 0 ≤ offset
  lt : offset < extensionRange

section

variable {extension extension' offset offset' value : Int} {negative negative' : Bool}

theorem add_eq_distance :
  (extension - 1) * extensionRange + extensionBase + offset = distance extension offset
  := by
  rw [distance, Int.add_comm extensionBase]

theorem signed64?_bind_eq_some_iff {α : Type} {n : Int} {f : Int → Option α} {a : α} :
  (Text.signed64? n).bind f = some a ↔ Text.least64 ≤ n ∧ n ≤ Text.greatest64 ∧ f n = some a
  := by
  simp only [Option.bind_eq_some_iff, Text.signed64?_eq_some_iff]
  constructor
  · rintro ⟨m, ⟨least, greatest, rfl⟩, hf⟩
    use least, greatest
  · rintro ⟨least, greatest, hf⟩
    use n, ⟨least, greatest, rfl⟩

/-- The value that is found is the exact one, and its distance from zero is a signed number of
64 bits. -/
theorem eq_of_offsetValue? (h : offsetValue? extension offset negative = some value) :
  value = directed negative (distance extension offset)
    ∧ distance extension offset ≤ Text.greatest64
  := by
  simp only [offsetValue?, bind, signed64?_bind_eq_some_iff, add_eq_distance] at h
  obtain ⟨-, -, -, -, -, -, -, greatest, h⟩ := h
  use ?_, greatest
  cases negative with
  | false => exact (Option.some.inj h).symm
  | true => exact (Text.signed64?_eq_some_iff.mp h).2.2

/-- From the first extension on, the value is found where it is a signed number of 64 bits: no
number on the way to it is larger. -/
theorem offsetValue?_eq (hextension : 1 ≤ extension) (hoffset : 0 ≤ offset) (negative : Bool) :
  offsetValue? extension offset negative
    = if distance extension offset ≤ Text.greatest64 then
        some (directed negative (distance extension offset))
      else none
  := by
  split
  · rename_i hdistance
    have fits {n : Int} (h : 0 ≤ n) (h' : n ≤ distance extension offset) :
        Text.signed64? n = some n := by
      apply Text.signed64?_eq_some_iff.mpr
      rw [Text.least64]
      omega
    have hsum : (extension - 1) * 1000 + 1000000000 + offset = distance extension offset :=
      add_eq_distance
    have before : Text.signed64? (extension - 1) = some (extension - 1) := by
      apply fits <;> omega
    have range : Text.signed64? ((extension - 1) * extensionRange)
        = some ((extension - 1) * extensionRange) := by
      apply fits <;> rw [extensionRange] <;> omega
    have base : Text.signed64? ((extension - 1) * extensionRange + extensionBase)
        = some ((extension - 1) * extensionRange + extensionBase) := by
      apply fits <;> rw [extensionRange, extensionBase] <;> omega
    have all : Text.signed64? (distance extension offset) = some (distance extension offset) := by
      apply fits <;> omega
    simp only [offsetValue?, bind, before, range, base, all, add_eq_distance, Option.bind_some]
    cases negative with
    | false => rfl
    | true =>
        apply Text.signed64?_eq_some_iff.mpr
        rw [Text.greatest64] at hdistance ⊢
        rw [Text.least64, directed, if_pos rfl]
        omega
  · rename_i hdistance
    apply Option.eq_none_iff_forall_ne_some.mpr
    intro value h
    exact hdistance (eq_of_offsetValue? h).2

/-- Places are told apart by their values. -/
theorem eq_of_offsetValue?_eq (place : IsPlace extension offset)
    (place' : IsPlace extension' offset')
    (h : offsetValue? extension offset negative = some value)
    (h' : offsetValue? extension' offset' negative' = some value) :
  extension = extension' ∧ offset = offset' ∧ negative = negative'
  := by
  obtain ⟨hextension, hoffset, hlt⟩ := place
  obtain ⟨hextension', hoffset', hlt'⟩ := place'
  have heq := (eq_of_offsetValue? h).1.symm.trans (eq_of_offsetValue? h').1
  simp only [directed, distance, extensionBase, extensionRange] at heq hlt hlt'
  cases negative <;> cases negative' <;>
    simp only [if_true, if_false, Bool.false_eq_true] at heq
  · use by omega, by omega
  · omega
  · omega
  · use by omega, by omega

end

/-! ### Entries -/

/-- An optional text that is one of a number. -/
def Gives (given : Option String) (n : Int) : Prop :=
  ∃ text, given = some text ∧ Text.IsInteger64 text n

/-- The text of the number of the extension that an entry is placed in: its own one, or that of
its block. -/
def extensionText? (entry : Element) (number : Option String) : Option String :=
  (entry.attribute? "extnumber").or number

/-- Whether an entry has its value on the other side of zero. -/
def isNegative (entry : Element) : Bool := entry.attribute? "dir" == some "-"

/-- The value of the place of an entry, which is given by an offset and the number of an
extension. -/
def IsValueOfPlace (entry : Element) (number : Option String) (value : Int) : Prop :=
  ∃ extension offset, Gives (extensionText? entry number) extension
    ∧ Gives (entry.attribute? "offset") offset
    ∧ offsetValue? extension offset (isNegative entry) = some value

/-- An entry gets the value of its place.  It is malformed exactly if its offset or the number of
its extension is missing or is no number, or there is no value at its place. -/
structure HasValueOfPlace (entry : Element) (number : Option String) (known : Dict Int)
    (owner : String) : Prop where
  value : ∀ value, valueOf entry number known owner = .ok value ↔ IsValueOfPlace entry number value
  malformed : (∃ problem, valueOf entry number known owner = .error (.malformedInput owner problem))
    ↔ (¬ ∃ offset, Gives (entry.attribute? "offset") offset)
      ∨ (¬ ∃ extension, Gives (extensionText? entry number) extension)
      ∨ ∃ extension offset, Gives (extensionText? entry number) extension
        ∧ Gives (entry.attribute? "offset") offset
        ∧ offsetValue? extension offset (isNegative entry) = none

section

variable {entry : Element} {number : Option String} {known : Dict Int} {owner : String}

theorem readInt64?_bind_eq_some_iff {given : Option String} {n : Int} :
  (given.bind fun text => Text.readInt64? (Text.trimChars text.toList)) = some n ↔ Gives given n
  := by
  simp only [Option.bind_eq_some_iff, Text.readInt64?_trimChars_eq_some_iff, Gives]

/-- A text gives one number at most. -/
theorem Gives.unique {given : Option String} {m n : Int} (hm : Gives given m)
    (hn : Gives given n) :
  m = n
  := Option.some.inj
    ((readInt64?_bind_eq_some_iff.mpr hm).symm.trans (readInt64?_bind_eq_some_iff.mpr hn))

/-- A text gives a number if it is read as one. -/
theorem not_gives_of_readInt64? {text : String}
    (h : Text.readInt64? (Text.trimChars text.toList) = none) (n : Int) :
  ¬ Gives (some text) n
  := by
  rw [← readInt64?_bind_eq_some_iff, Option.bind_some, h]
  exact nofun

theorem not_gives_none (n : Int) :
  ¬ Gives none n
  := by
  rintro ⟨text, htext, -⟩
  cases htext

theorem IsValueOfPlace.unique {value value' : Int} (h : IsValueOfPlace entry number value)
    (h' : IsValueOfPlace entry number value') :
  value = value'
  := by
  obtain ⟨extension, offset, hextension, hoffset, hvalue⟩ := h
  obtain ⟨extension', offset', hextension', hoffset', hvalue'⟩ := h'
  rw [hextension.unique hextension', hoffset.unique hoffset', hvalue'] at hvalue
  exact (Option.some.inj hvalue).symm

/-- An entry with an offset has the value of its place, or is malformed where there is none. -/
theorem valueAtOffset_cases {text : String} (raw : String)
    (htext : entry.attribute? "offset" = some text) :
  (∃ value, IsValueOfPlace entry number value
      ∧ valueAtOffset entry number raw text owner = .ok value)
    ∨ (∃ problem, valueAtOffset entry number raw text owner
          = .error (.malformedInput owner problem))
      ∧ ∀ value, ¬ IsValueOfPlace entry number value
  := by
  rw [valueAtOffset]
  cases hoffset : Text.readInt64? (Text.trimChars text.toList) with
  | none =>
      refine .inr ⟨⟨_, rfl⟩, ?_⟩
      rintro value ⟨_, offset, -, gives, -⟩
      rw [htext] at gives
      exact not_gives_of_readInt64? hoffset offset gives
  | some offset =>
      have givesOffset : Gives (entry.attribute? "offset") offset := by
        rw [htext]
        exact readInt64?_bind_eq_some_iff.mp hoffset
      cases hnumber : (entry.attribute? "extnumber").or number with
      | none =>
          refine .inr ⟨⟨_, rfl⟩, ?_⟩
          rintro value ⟨extension, _, gives, -, -⟩
          rw [extensionText?, hnumber] at gives
          exact not_gives_none extension gives
      | some numberText =>
          simp only
          cases hextension : Text.readInt64? (Text.trimChars numberText.toList) with
          | none =>
              refine .inr ⟨⟨_, rfl⟩, ?_⟩
              rintro value ⟨extension, _, gives, -, -⟩
              rw [extensionText?, hnumber] at gives
              exact not_gives_of_readInt64? hextension extension gives
          | some extension =>
              have givesExtension : Gives (extensionText? entry number) extension := by
                rw [extensionText?, hnumber]
                exact readInt64?_bind_eq_some_iff.mp hextension
              simp only
              cases hvalue : offsetValue? extension offset (entry.attribute? "dir" == some "-") with
              | none =>
                  refine .inr ⟨⟨_, rfl⟩, ?_⟩
                  rintro value ⟨extension', offset', givesExtension', givesOffset', hvalue'⟩
                  rw [givesExtension'.unique givesExtension, givesOffset'.unique givesOffset,
                    isNegative, hvalue] at hvalue'
                  cases hvalue'
              | some value =>
                  exact .inl ⟨value, ⟨extension, offset, givesExtension, givesOffset, hvalue⟩, rfl⟩

/-- Where an entry has neither a value of its own nor a bit, nor an alias in place of an offset,
it has the value of its place, or is malformed where there is none. -/
theorem valueOf_cases (hvalue : entry.attribute? "value" = none)
    (hbit : entry.attribute? "bitpos" = none)
    (halias : entry.attribute? "offset" = none → entry.attribute? "alias" = none) :
  (∃ value, IsValueOfPlace entry number value ∧ valueOf entry number known owner = .ok value)
    ∨ (∃ problem, valueOf entry number known owner = .error (.malformedInput owner problem))
      ∧ ∀ value, ¬ IsValueOfPlace entry number value
  := by
  cases hoffset : entry.attribute? "offset" with
  | some text =>
      simp only [valueOf, hvalue, hbit, hoffset]
      apply valueAtOffset_cases _ hoffset
  | none =>
      simp only [valueOf, hvalue, hbit, hoffset, halias hoffset]
      refine .inr ⟨⟨_, rfl⟩, ?_⟩
      rintro value ⟨_, offset, -, gives, -⟩
      rw [hoffset] at gives
      exact not_gives_none offset gives

/-- There is a value of a place exactly if the place is given and has one. -/
theorem not_exists_isValueOfPlace_iff :
  (∀ value, ¬ IsValueOfPlace entry number value)
    ↔ (¬ ∃ offset, Gives (entry.attribute? "offset") offset)
      ∨ (¬ ∃ extension, Gives (extensionText? entry number) extension)
      ∨ ∃ extension offset, Gives (extensionText? entry number) extension
        ∧ Gives (entry.attribute? "offset") offset
        ∧ offsetValue? extension offset (isNegative entry) = none
  := by
  constructor
  · intro h
    by_cases givesOffset : ∃ offset, Gives (entry.attribute? "offset") offset
    · by_cases givesExtension : ∃ extension, Gives (extensionText? entry number) extension
      · obtain ⟨offset, hoffset⟩ := givesOffset
        obtain ⟨extension, hextension⟩ := givesExtension
        refine .inr (.inr ⟨extension, offset, hextension, hoffset, ?_⟩)
        apply Option.eq_none_iff_forall_ne_some.mpr
        intro value hvalue
        exact h value ⟨extension, offset, hextension, hoffset, hvalue⟩
      · exact .inr (.inl givesExtension)
    · exact .inl givesOffset
  · rintro h value ⟨extension, offset, hextension, hoffset, hvalue⟩
    rcases h with h | h | ⟨extension', offset', hextension', hoffset', hnone⟩
    · exact h ⟨offset, hoffset⟩
    · exact h ⟨extension, hextension⟩
    · rw [hextension'.unique hextension, hoffset'.unique hoffset, hvalue] at hnone
      cases hnone

theorem hasValueOfPlace (hvalue : entry.attribute? "value" = none)
    (hbit : entry.attribute? "bitpos" = none)
    (halias : entry.attribute? "offset" = none → entry.attribute? "alias" = none) :
  HasValueOfPlace entry number known owner
  := by
  rcases @valueOf_cases entry number known owner hvalue hbit halias with
    ⟨value, isValue, hok⟩ | ⟨⟨problem, herror⟩, noValue⟩
  · constructor
    · intro value'
      constructor
      · intro h
        obtain rfl := Except.ok.inj (hok.symm.trans h)
        exact isValue
      · intro isValue'
        rw [isValue'.unique isValue, hok]
    · rw [← not_exists_isValueOfPlace_iff, hok]
      constructor
      · rintro ⟨problem, herror⟩
        cases herror
      · intro noValue
        exact absurd isValue (noValue value)
  · constructor
    · intro value'
      constructor
      · intro h
        rw [herror] at h
        cases h
      · intro isValue
        exact absurd isValue (noValue value')
    · rw [← not_exists_isValueOfPlace_iff]
      use fun _ => noValue, fun _ => ⟨problem, herror⟩

/-- The value at an offset is the exact one, or there is none where that is no signed number of
64 bits, and no two places have the same value.  An entry that is given by its offset gets the
value of its place or is malformed. -/
theorem offsetValues_exact (hvalue : entry.attribute? "value" = none)
    (hbit : entry.attribute? "bitpos" = none)
    (halias : entry.attribute? "offset" = none → entry.attribute? "alias" = none) :
  (∀ (extension offset : Int) (negative : Bool), 1 ≤ extension → 0 ≤ offset →
      offsetValue? extension offset negative
        = if distance extension offset ≤ Text.greatest64 then
            some (directed negative (distance extension offset))
          else none)
    ∧ (∀ (extension extension' offset offset' value : Int) (negative negative' : Bool),
      IsPlace extension offset → IsPlace extension' offset' →
      offsetValue? extension offset negative = some value →
      offsetValue? extension' offset' negative' = some value →
      extension = extension' ∧ offset = offset' ∧ negative = negative')
    ∧ HasValueOfPlace entry number known owner
  := by
  refine ⟨?exact, ?apart, ?entry⟩
  case exact =>
    intro extension offset negative hextension hoffset
    exact offsetValue?_eq hextension hoffset negative
  case apart =>
    intro extension extension' offset offset' value negative negative' place place' h h'
    exact eq_of_offsetValue?_eq place place' h h'
  case entry => exact hasValueOfPlace hvalue hbit halias

end

/-- An entry on the other side of zero, in the range of the extension that it belongs to. -/
def negativeEntry : Element :=
  (Element.named "enum").withAttribute "name" "VK_ERROR_LOST" |>.withAttribute "offset" " 3"
    |>.withAttribute "dir" "-"

/-- The entry has a value in the range of the extension of its block. -/
theorem offsetValues_exact_negativeEntry :
  negativeEntry.attribute? "value" = none ∧ negativeEntry.attribute? "bitpos" = none
    ∧ negativeEntry.attribute? "offset" = some " 3"
    ∧ valueOf negativeEntry (some "+42") .empty "Result" = .ok (-1000041003)
  := by
  have hoffset : Gives (negativeEntry.attribute? "offset") 3 := by
    use " 3", by decide, by decide, by decide, [' '], ['3'], [], List.all_eq_true.mp (by decide)
    exact ⟨.plain (by decide) (List.all_eq_true.mp (by decide)), by decide⟩
  have hextension : Gives (extensionText? negativeEntry (some "+42")) 42 := by
    use "+42", by decide, by decide, by decide, [], ['+', '4', '2'], [], List.forall_mem_nil _
    exact ⟨.plus (by decide) (List.all_eq_true.mp (by decide)), by decide⟩
  obtain ⟨exact, -, place⟩ := @offsetValues_exact negativeEntry (some "+42") .empty "Result"
    (by decide) (by decide) (by decide)
  refine ⟨by decide, by decide, by decide, (place.value _).mpr ⟨42, 3, hextension, hoffset, ?_⟩⟩
  rw [exact 42 3 _ (by decide) (by decide)]
  decide

/-- An entry with an alias in place of an offset. -/
def aliasEntry : Element :=
  (Element.named "enum").withAttribute "name" "VK_COLOR_NEW" |>.withAttribute "alias" "VK_COLOR"

/-- The values that the alias is looked up in. -/
def aliasValues : Dict Int := .ofList [("VK_COLOR", 5)]

/-- An entry without an offset is not malformed where its alias has a value. -/
theorem valueOf_aliasEntry :
  aliasEntry.attribute? "value" = none ∧ aliasEntry.attribute? "bitpos" = none
    ∧ aliasEntry.attribute? "offset" = none
    ∧ valueOf aliasEntry none aliasValues "Color" = .ok 5
    ∧ ¬ HasValueOfPlace aliasEntry none aliasValues "Color"
  := by
  have hok : valueOf aliasEntry none aliasValues "Color" = .ok 5 := by decide
  refine ⟨by decide, by decide, by decide, hok, ?_⟩
  intro place
  have noOffset : ¬ ∃ offset, Gives (aliasEntry.attribute? "offset") offset := by
    rintro ⟨offset, gives⟩
    exact not_gives_none offset gives
  obtain ⟨problem, herror⟩ := place.malformed.mpr (.inl noOffset)
  rw [hok] at herror
  cases herror

end NativeApi.EnumMember
