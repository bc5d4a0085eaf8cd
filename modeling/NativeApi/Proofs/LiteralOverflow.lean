import NativeApi.Proofs.LiteralSpellings
import NativeApi.Registration.BasicTypes
import NativeApi.Registration.Enumerations

/-!
# Literals that are too large

A literal without a sign may be larger than every signed number of 64 bits.  Main statement: it
is refused only where it is larger than every number of 64 bits.  Up to there it is read as a
negative number, and that is what members of enumerations and constants get for it.
-/

namespace NativeApi.Literal

/-! ### Literals without a sign -/

/-- A literal with neither sign in front: a numeral, perhaps with zeros in front of the number,
and any row of letters of suffixes in either case. -/
def SpellsUnsigned (n : Nat) (body : List Char) : Prop :=
  ∃ (zeros : Nat) (digits suffix : List Char),
    IsPaddedNumeral zeros n digits ∧ (∀ c ∈ suffix.map Char.toLower, isSuffixLetter c = true)
      ∧ body = digits ++ suffix

/-- The number of a literal without a sign is taken for a signed word if it is one of 64 bits. -/
theorem read?_of_spellsUnsigned {n : Nat} {body : List Char} {text : String}
    (spells : SpellsUnsigned n body) (wraps : Wraps body text.toList) :
  read? text = if n < Text.bound64 then some (word64 n) else none
  := by
  obtain ⟨zeros, digits, suffix, numeral, hsuffix, rfl⟩ := spells
  have word := numeral.isWord hsuffix
  rw [read?, numeral.parse? hsuffix [] (by simp) wraps (sign_word (by decide) word)
    (sign_word (by decide) word)]
  split
  · simp [value?, unsignedValue]
  · simp

theorem word64_eq_self {n : Nat} (h : (n : Int) ≤ Text.greatest64) :
  word64 n = n
  := by
  rw [Text.greatest64] at h
  rw [word64, Int.bmod_def, Text.bound64]
  omega

/-- A number that is too large for a signed word wraps around to a negative one. -/
theorem word64_eq_sub {n : Nat} (h : Text.greatest64 < n) (h' : n < Text.bound64) :
  word64 n = n - Text.bound64
  := by
  rw [Text.greatest64] at h
  rw [Text.bound64] at h'
  rw [word64, Int.bmod_def, Text.bound64]
  omega

/-! ### What members and constants get -/

/-- A text gives a value: it is read as the value, an entry with the text has it, a member that
is contributed with the text has it in its enumeration, and so does a constant. -/
structure GivesValue (text : String) (value : Int) : Prop where
  read : read? text = some value
  member : ∀ (entry : Element) (number : Option String) (known : Dict Int) (owner : String),
    entry.attribute? "value" = some text → EnumMember.valueOf entry number known owner = .ok value
  contributed : ∀ (n : Naming) (r : Registry) (known : Dict Int) (c : Registry.Contribution)
    (id : Nat) (e : Enumeration) (raw name : String),
    c.entry.attribute? "name" = some raw → c.entry.attribute? "value" = some text →
    r.memberTarget c.target = .ok id → (r.get? id).bind Entity.enumeration? = some e →
    n.enumMember raw (r.nameOf id) = .ok name →
    Registry.contribute n (r, known) c = .ok
      (r.modifyKind id fun _ => .enumeration (Registry.addEnumMember ⟨name, raw, value⟩ e),
        known.insertNew raw value)
  constant : ∀ (r : Registry) (entry : Element) (raw : String),
    entry.attribute? "name" = some raw → entry.attribute? "alias" = none →
    entry.attribute? "value" = some text →
    r.registerConstant entry = .ok { r with constants := r.constants.insert raw value }

/-- The complaint about the text of a value. -/
def notAnInteger (text raw owner : String) : Error :=
  .malformedInput owner ("value '" ++ text ++ "' of " ++ raw ++ " is not an integer")

/-- A text is refused: it is not read, an entry with the text is malformed and so is a member
that is contributed with it, and a constant with the text is left out. -/
structure IsRefused (text : String) : Prop where
  read : read? text = none
  member : ∀ (entry : Element) (number : Option String) (known : Dict Int) (owner : String),
    entry.attribute? "value" = some text →
    EnumMember.valueOf entry number known owner
      = .error (notAnInteger text ((entry.attribute? "name").getD "") owner)
  contributed : ∀ (n : Naming) (r : Registry) (known : Dict Int) (c : Registry.Contribution)
    (id : Nat) (raw : String),
    c.entry.attribute? "name" = some raw → c.entry.attribute? "value" = some text →
    r.memberTarget c.target = .ok id →
    Registry.contribute n (r, known) c = .error (notAnInteger text raw (r.nameOf id))
  constant : ∀ (r : Registry) (entry : Element),
    entry.attribute? "alias" = none → entry.attribute? "value" = some text →
    r.registerConstant entry = .ok r

/-- A text gives the value that it is read as. -/
theorem givesValue_of_read? {text : String} {value : Int} (h : read? text = some value) :
  GivesValue text value
  := by
  have member (entry : Element) (number : Option String) (known : Dict Int) (owner : String)
      (htext : entry.attribute? "value" = some text) :
      EnumMember.valueOf entry number known owner = .ok value := by
    simp only [EnumMember.valueOf, htext, h]
  constructor
  · exact h
  · exact member
  · intro n r known c id e raw name hraw htext htarget henum hname
    simp only [Registry.contribute, htarget, hraw, member _ _ _ _ htext, hname, henum, bind,
      Except.bind]
    rfl
  · intro r entry raw hraw halias htext
    simp only [Registry.registerConstant, hraw, halias, htext, Option.bind_some, h]

/-- A text is refused where it is not read. -/
theorem isRefused_of_read? {text : String} (h : read? text = none) :
  IsRefused text
  := by
  have member (entry : Element) (number : Option String) (known : Dict Int) (owner : String)
      (htext : entry.attribute? "value" = some text) :
      EnumMember.valueOf entry number known owner
        = .error (notAnInteger text ((entry.attribute? "name").getD "") owner) := by
    simp only [EnumMember.valueOf, htext, h, notAnInteger]
  constructor
  · exact h
  · exact member
  · intro n r known c id raw hraw htext htarget
    simp only [Registry.contribute, htarget, hraw, member _ _ _ _ htext, bind, Except.bind,
      Option.getD_some]
  · intro r entry halias htext
    simp only [Registry.registerConstant, halias, htext, Option.bind_some, h]
    split <;> rfl

/-! ### All sizes -/

/-- A literal without a sign gives its number if that is a signed one of 64 bits.  A larger
number of 64 bits wraps around to a negative value, and only numbers beyond are refused. -/
theorem outcome_of_spellsUnsigned {n : Nat} {body : List Char} {text : String}
    (spells : SpellsUnsigned n body) (wraps : Wraps body text.toList) :
  ((n : Int) ≤ Text.greatest64 → GivesValue text n)
    ∧ (Text.greatest64 < n → n < Text.bound64 →
      GivesValue text (n - Text.bound64) ∧ (n - Text.bound64 : Int) < 0)
    ∧ (IsRefused text ↔ Text.bound64 ≤ n)
  := by
  have hread := read?_of_spellsUnsigned spells wraps
  refine ⟨fun hn => ?fits, fun hn hn' => ⟨?wraps, by omega⟩, ?refused⟩
  case fits =>
    have hn' : n < Text.bound64 := by
      rw [Text.greatest64] at hn
      rw [Text.bound64]
      omega
    apply givesValue_of_read?
    rw [hread, if_pos hn', word64_eq_self hn]
  case wraps =>
    apply givesValue_of_read?
    rw [hread, if_pos hn', word64_eq_sub hn hn']
  case refused =>
    constructor
    · intro refused
      apply Nat.le_of_not_lt
      intro hn
      rw [refused.read, if_pos hn] at hread
      cases hread
    · intro hn
      apply isRefused_of_read?
      rw [hread, if_neg (Nat.not_lt.mpr hn)]

/-- The largest number of 64 bits, in hexadecimal and with a suffix, is read as minus one. -/
theorem outcome_of_spellsUnsigned_largest :
  ∃ body, SpellsUnsigned (Text.bound64 - 1) body ∧ Wraps body "(0xFFFFffffFFFFffffULL)".toList
    ∧ GivesValue "(0xFFFFffffFFFFffffULL)" (-1)
  := by
  have spells : SpellsUnsigned (Text.bound64 - 1) "0xFFFFffffFFFFffffULL".toList := by
    use 0, "0xFFFFffffFFFFffff".toList, "ULL".toList
    exact ⟨.inr (by decide), List.all_eq_true.mp (by decide), rfl⟩
  have wraps : Wraps "0xFFFFffffFFFFffffULL".toList "(0xFFFFffffFFFFffffULL)".toList := by
    use 1, [], [], [], [], List.forall_mem_nil _
    decide
  obtain ⟨-, wrapped, -⟩ := outcome_of_spellsUnsigned spells wraps
  exact ⟨_, spells, wraps, (wrapped (by decide) (by decide)).1⟩

end NativeApi.Literal
