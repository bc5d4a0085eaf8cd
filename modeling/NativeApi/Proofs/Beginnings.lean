import Mathlib.Data.List.Forall2
import NativeApi.Text.Affix

/-!
# Beginnings of texts

A beginning is taken from a text at the byte where it would end, and the characters before
that are compared without regard to the case of ASCII letters.  Main statement: what is left
is what follows characters that are those of the beginning but for their case, so no
character is ever cut, and nothing is left of a text that is too short or has a character
across the cut.
-/

namespace NativeApi.Text

variable {c d : Char} {cs ds : List Char} {start s rest : String}

/-! ### Case -/

/-- Two characters are the same, or a capital letter of ASCII and its small letter. -/
def SameButForCase (c d : Char) : Prop :=
  c = d ∨ (c.isUpper = true ∧ d.toNat = c.toNat + 32) ∨ (d.isUpper = true ∧ c.toNat = d.toNat + 32)

theorem toLower_eq_iff :
  c.toLower = d.toLower ↔ SameButForCase c d
  := by
  rw [← Char.toNat_inj, toNat_toLower, toNat_toLower, SameButForCase, ← Char.toNat_inj]
  simp only [isUpper_iff]
  -- where both are capital letters or neither is, the numbers have to be the same
  split <;> split <;> omega

theorem equalIgnoringCase_iff_forall₂ :
  equalIgnoringCase cs ds = true ↔ List.Forall₂ SameButForCase cs ds
  := by
  rw [equalIgnoringCase, beq_iff_eq, ← List.forall₂_eq_eq_eq, List.forall₂_map_left_iff,
    List.forall₂_map_right_iff]
  simp only [toLower_eq_iff]

/-! ### Bytes -/

theorem byteCount_toList (s : String) :
  byteCount s.toList = s.utf8ByteSize
  := by
  have ofList (cs : List Char) : (String.ofList cs).utf8ByteSize = byteCount cs := by
    induction cs with
    | nil => rfl
    | cons c cs ih =>
        have hsplit : String.ofList (c :: cs) = String.singleton c ++ String.ofList cs := by
          rw [← String.toList_inj]
          simp
        rw [hsplit, String.utf8ByteSize_append, String.utf8ByteSize_singleton, ih, byteCount_cons]
  rw [← ofList, String.ofList_toList]

/-- What a text is cut behind has as many bytes as the beginning that is taken from it. -/
theorem exists_front_of_afterIgnoringCase? (h : afterIgnoringCase? start s = some rest) :
  ∃ front : String, s = front ++ rest ∧ front.utf8ByteSize = start.utf8ByteSize
  := by
  obtain ⟨front, hs, same⟩ := afterIgnoringCase?_eq_some_iff.mp h
  use front, hs
  rw [← byteCount_toList, ← byteCount_toList]
  apply byteCount_eq_of_equalIgnoringCase same

/-- A part of a text that ends behind the beginning of a character contains it. -/
theorem utf8Size_le_of_append_eq {front back before after : List Char}
    (h : front ++ back = before ++ c :: after) (hbefore : byteCount before < byteCount front) :
  byteCount before + c.utf8Size ≤ byteCount front
  := by
  rcases List.append_eq_append_iff.mp h with ⟨between, rfl, -⟩ | ⟨between, rfl, hback⟩
  · rw [byteCount_append] at hbefore
    omega
  · cases between with
    | nil =>
        rw [List.append_nil] at hbefore
        omega
    | cons d between =>
        obtain ⟨rfl, -⟩ := List.cons.inj hback
        rw [byteCount_append, byteCount_cons]
        omega

/-! ### The main statement -/

/-- What a text is without its beginning, where the case of ASCII letters does not count. -/
structure StripsExactly (start s : String) : Prop where
  /-- What is left follows characters that are those of the beginning but for their case. -/
  some_iff : ∀ rest, afterIgnoringCase? start s = some rest
    ↔ ∃ front : String, s = front ++ rest ∧ List.Forall₂ SameButForCase front.toList start.toList
  /-- The cut is between two characters, behind as many bytes as the beginning has. -/
  cut : ∀ rest, afterIgnoringCase? start s = some rest →
    (⟨start.utf8ByteSize⟩ : String.Pos.Raw).IsValid s
      ∧ s.utf8ByteSize = start.utf8ByteSize + rest.utf8ByteSize
  /-- Nothing is left of a text that has fewer bytes than the beginning. -/
  short : s.utf8ByteSize < start.utf8ByteSize → afterIgnoringCase? start s = none
  /-- Nothing is left of a text if a character of it begins before the cut and ends behind. -/
  across : ∀ (before after : String) (c : Char), s = before ++ String.singleton c ++ after →
    before.utf8ByteSize < start.utf8ByteSize →
    start.utf8ByteSize < before.utf8ByteSize + c.utf8Size → afterIgnoringCase? start s = none

/-- Whatever the beginning and the text, it is taken from the text where that begins with it but
for the case of ASCII letters, and nowhere else. -/
theorem afterIgnoringCase?_exact (start s : String) :
  StripsExactly start s
  := by
  constructor
  · intro rest
    rw [afterIgnoringCase?_eq_some_iff]
    simp only [equalIgnoringCase_iff_forall₂]
  · intro rest h
    obtain ⟨front, rfl, hbytes⟩ := exists_front_of_afterIgnoringCase? h
    rw [String.utf8ByteSize_append, ← hbytes]
    constructor
    · apply String.Pos.Raw.isValid_iff_exists_append.mpr
      use front, rest, rfl
      rfl
    · rfl
  · intro hshort
    apply Option.eq_none_iff_forall_ne_some.mpr
    intro rest h
    obtain ⟨front, rfl, hbytes⟩ := exists_front_of_afterIgnoringCase? h
    rw [String.utf8ByteSize_append] at hshort
    omega
  · intro before after c hs hbefore hafter
    apply Option.eq_none_iff_forall_ne_some.mpr
    intro rest h
    obtain ⟨front, rfl, hbytes⟩ := exists_front_of_afterIgnoringCase? h
    have hchars : front.toList ++ rest.toList = before.toList ++ c :: after.toList := by
      simpa using congrArg String.toList hs
    have hcontains := utf8Size_le_of_append_eq hchars
    simp only [byteCount_toList] at hcontains
    omega

/-- The third byte of the second text is inside of its last character. -/
example :
  afterIgnoringCase? "vk" "VKé" = some "é" ∧ afterIgnoringCase? "vkx" "VKé" = none
  := by decide

end NativeApi.Text
