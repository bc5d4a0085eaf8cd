import Mathlib
import NativeApi.Naming.Basic
import NativeApi.Options.Standard

/-!
# Spellings of names

A canonical name is put together from the spellings of the segments of a raw name.  Main
statement: as long as the fixed spellings differ from their segments in the case of letters
only, so does the canonical name from the raw one, except for the prefix and the underscores,
which it has not.
-/

namespace NativeApi

/-! ### Texts without regard to case -/

namespace Text

/-- Whether a text is made of ASCII characters. -/
def IsAscii (cs : List Char) : Prop := ∀ c ∈ cs, c.toNat < 128

theorem equalIgnoringCase_iff {cs ds : List Char} :
  equalIgnoringCase cs ds = true ↔ cs.map Char.toLower = ds.map Char.toLower
  := beq_iff_eq

/-- Only an underscore has an underscore for its lower case. -/
theorem eq_underscore_of_toLower {c : Char} (h : c.toLower = '_') :
  c = '_'
  := by
  have hupper : ¬ c.isUpper := by
    intro hupper
    have hlower := Char.isLower_toLower_eq_isAlpha c
    rw [h, Char.isAlpha, hupper, Bool.true_or] at hlower
    cases hlower
  rw [← Char.toLower_eq_of_not_isUpper hupper, h]

theorem upper_of_ascii {c : Char} (h : c.toNat < 128) :
  upper c = [c.toUpper]
  := if_pos h

theorem lower_of_ascii {c : Char} (h : c.toNat < 128) :
  lower c = [c.toLower]
  := if_pos h

/-- No sigma is among ASCII characters, so each of them has its lower case by itself. -/
theorem lowercase_of_ascii {cs : List Char} (h : IsAscii cs) :
  lowercase cs = cs.map Char.toLower
  := by
  have after (before : List Char) : lowercaseAfter before cs = cs.map Char.toLower := by
    induction cs generalizing before with
    | nil => rfl
    | cons c cs ih =>
        obtain ⟨hc, hcs⟩ := List.forall_mem_cons.mp h
        have hsigma : c ≠ 'Σ' := by
          rintro rfl
          exact absurd hc (by decide)
        rw [lowercaseAfter, if_neg hsigma, lower_of_ascii hc, ih hcs]
        rfl
  exact after []

/-- What a text keeps is all of its beginning up to the first character that it does not, and
what it keeps of the rest. -/
theorem filter_eq_append (p : Char → Bool) (cs : List Char) :
  cs.filter p = cs.takeWhile p ++ (cs.dropWhile p).filter p
  := by
  have kept : (cs.takeWhile p).filter p = cs.takeWhile p :=
    List.filter_eq_self.mpr (List.all_eq_true.mp List.all_takeWhile)
  conv_lhs => rw [← List.takeWhile_append_dropWhile (p := p) (l := cs)]
  rw [List.filter_append, kept]

/-- The first piece of a text is what precedes the first mark, and the other ones make up the
rest without the marks. -/
theorem splitAt_eq_cons (mark : Char) (cs : List Char) :
  ∃ pieces, splitAt mark cs = cs.takeWhile (· != mark) :: pieces
    ∧ pieces.flatten = (cs.dropWhile (· != mark)).filter (· != mark)
  := by
  induction cs with
  | nil => exact ⟨[], rfl, rfl⟩
  | cons c cs ih =>
      obtain ⟨pieces, hsplit, hflatten⟩ := ih
      by_cases hc : c = mark
      · have hmark : (c != mark) = false := by simp [hc]
        use splitAt mark cs
        rw [splitAt, if_pos hc, List.takeWhile_cons_of_neg (by simp [hmark]),
          List.dropWhile_cons_of_neg (by simp [hmark]), List.filter_cons_of_neg (by simp [hmark])]
        use rfl
        rw [hsplit, List.flatten_cons, hflatten, ← filter_eq_append]
      · have hmark : (c != mark) = true := by simp [hc]
        use pieces
        rw [splitAt, if_neg hc, hsplit, List.takeWhile_cons_of_pos (by simp [hmark]),
          List.dropWhile_cons_of_pos (by simp [hmark])]
        use rfl

end Text

namespace Naming

/-! ### Segments -/

/-- A table of fixed spellings that differ from their segments in the case of letters only. -/
def KeepsLetters (acronyms : Dict String) : Prop :=
  ∀ segment fixed, acronyms.get? segment = some fixed →
    Text.equalIgnoringCase fixed.toList segment.toList = true

/-- The mixed case of a segment differs from it in case only. -/
theorem toLower_mixedCaseAfter (beginsWord wasLower wasDigit : Bool) {segment : List Char}
    (h : Text.IsAscii segment) :
  (mixedCaseAfter beginsWord wasLower wasDigit segment).map Char.toLower
    = segment.map Char.toLower
  := by
  fun_induction mixedCaseAfter beginsWord wasLower wasDigit segment with
  | case1 => rfl
  | case2 beginsWord wasLower wasDigit c cs ih =>
      obtain ⟨hc, hcs⟩ := List.forall_mem_cons.mp h
      rw [List.map_append, ih hcs, Text.upper_of_ascii hc, Text.lower_of_ascii hc]
      split
      · simp
      · split <;> simp

theorem toLower_capitalized {segment : List Char} (h : Text.IsAscii segment) :
  (capitalized segment).map Char.toLower = segment.map Char.toLower
  := by
  cases segment with
  | nil => rfl
  | cons c cs =>
      rw [capitalized, Text.lowercase_of_ascii (List.forall_mem_cons.mp h).2]
      simp

theorem toLower_spelling {acronyms : Dict String} (keeps : KeepsLetters acronyms)
    {segment : List Char} (h : Text.IsAscii segment) :
  (spelling acronyms segment).map Char.toLower = segment.map Char.toLower
  := by
  unfold spelling
  split
  · rename_i fixed hfixed
    have := Text.equalIgnoringCase_iff.mp (keeps _ _ hfixed)
    rwa [String.toList_ofList] at this
  · split
    · exact toLower_capitalized h
    · exact toLower_mixedCaseAfter _ _ _ h

/-! ### Whole names -/

/-- What counts of a raw name: all but the underscores, and without a first segment that is the
global prefix. -/
def letters (n : Naming) (raw : List Char) : List Char :=
  (if Text.equalIgnoringCase (raw.takeWhile (· != '_')) n.globalPrefix.toList then
      raw.dropWhile (· != '_')
    else raw).filter (· != '_')

/-- The segments of a raw name make up what counts of it. -/
theorem flatten_segments (n : Naming) (raw : List Char) :
  (n.segments raw).flatten = n.letters raw
  := by
  obtain ⟨pieces, hsplit, hflatten⟩ := Text.splitAt_eq_cons '_' raw
  rw [segments, hsplit, letters]
  simp only
  by_cases hfirst : Text.equalIgnoringCase (raw.takeWhile (· != '_')) n.globalPrefix.toList = true
  · rw [hfirst, Bool.or_true, if_pos rfl, if_pos rfl, List.flatten_filter_not_isEmpty, hflatten]
  · rw [if_neg hfirst, Bool.eq_false_iff.mpr hfirst, Bool.or_false,
      Text.filter_eq_append]
    split
    · rename_i hempty
      rw [List.flatten_filter_not_isEmpty, hflatten, List.isEmpty_iff.mp hempty, List.nil_append]
    · rw [List.flatten_cons, List.flatten_filter_not_isEmpty, hflatten]

theorem isAscii_of_mem_segments {n : Naming} {raw segment : List Char} (h : Text.IsAscii raw)
    (hsegment : segment ∈ n.segments raw) :
  Text.IsAscii segment
  := by
  intro c hc
  have hletters : c ∈ n.letters raw := by
    rw [← flatten_segments]
    exact List.mem_flatten_of_mem hsegment hc
  apply h
  rw [letters] at hletters
  have hraw := (List.mem_filter.mp hletters).1
  split at hraw
  · exact (List.dropWhile_sublist _).subset hraw
  · exact hraw

/-- A canonical name is what counts of the raw one, but for the case of letters. -/
theorem toLower_translate {n : Naming} (keeps : KeepsLetters n.acronyms) {raw : String}
    (h : Text.IsAscii raw.toList) :
  (n.translate raw).toList.map Char.toLower = (n.letters raw.toList).map Char.toLower
  := by
  rw [translate, String.toList_ofList, ← flatten_segments, List.map_flatMap, List.map_flatten,
    List.flatMap_def]
  congr 1
  apply List.map_congr_left
  intro segment hsegment
  exact toLower_spelling keeps (isAscii_of_mem_segments h hsegment)

/-- No underscore counts, and none comes from another character by the case of letters. -/
theorem not_mem_of_toLower_eq {n : Naming} {raw cs : List Char}
    (h : cs.map Char.toLower = (n.letters raw).map Char.toLower) :
  '_' ∉ cs
  := by
  intro hmem
  have hlower : '_' ∈ (n.letters raw).map Char.toLower := by
    rw [← h]
    exact List.mem_map_of_mem (f := Char.toLower) hmem
  obtain ⟨c, hc, hunderscore⟩ := List.mem_map.mp hlower
  rw [Text.eq_underscore_of_toLower hunderscore, letters, List.mem_filter] at hc
  cases hc.2

/-- The fixed spellings of the standard options differ from their segments in case only. -/
theorem keepsLetters_standard :
  KeepsLetters Options.standard.acronyms
  := by
  have all : Options.standardAcronyms.entries.all
      (fun entry => Text.equalIgnoringCase entry.2.toList entry.1.toList) = true := by decide
  intro segment fixed hfixed
  have mem : (segment, fixed) ∈ Options.standardAcronyms.entries := Dict.get?_eq_some_iff.mp hfixed
  exact List.all_eq_true.mp all _ mem

/-- A canonical name differs in the case of letters only from what counts of an ASCII name, and
has no underscore.  So names of which the canonical ones are the same are the same but for case,
underscores and the prefix. -/
theorem translate_changesCase (n : Naming) (keeps : KeepsLetters n.acronyms) :
  (∀ raw : String, Text.IsAscii raw.toList →
      Text.equalIgnoringCase (n.translate raw).toList (n.letters raw.toList) = true
        ∧ '_' ∉ (n.translate raw).toList)
    ∧ ∀ raw raw' : String, Text.IsAscii raw.toList → Text.IsAscii raw'.toList →
      n.translate raw = n.translate raw' →
      Text.equalIgnoringCase (n.letters raw.toList) (n.letters raw'.toList) = true
  := by
  constructor
  · intro raw h
    have hlower := toLower_translate keeps h
    exact ⟨Text.equalIgnoringCase_iff.mpr hlower, not_mem_of_toLower_eq hlower⟩
  · intro raw raw' h h' heq
    apply Text.equalIgnoringCase_iff.mpr
    rw [← toLower_translate keeps h, heq, toLower_translate keeps h']

/-- The standard spellings of a name with a prefix, an empty segment, digits and an acronym. -/
theorem translate_changesCase_standard :
  KeepsLetters Options.standard.naming.acronyms
    ∧ Text.equalIgnoringCase (Options.standard.naming.translate "vk_2dArray__MACOS").toList
      "2DarraYmacos".toList = true
    ∧ '_' ∉ (Options.standard.naming.translate "vk_2dArray__MACOS").toList
  := by
  have ascii : Text.IsAscii "vk_2dArray__MACOS".toList := by
    have all : "vk_2dArray__MACOS".toList.all (·.toNat < 128) = true := by decide
    intro c hc
    exact of_decide_eq_true (List.all_eq_true.mp all c hc)
  obtain ⟨hcase, hunderscore⟩ :=
    (translate_changesCase Options.standard.naming keepsLetters_standard).1 _ ascii
  refine ⟨keepsLetters_standard, ?_, hunderscore⟩
  rw [Text.equalIgnoringCase_iff] at hcase ⊢
  rw [hcase]
  decide

end Naming

end NativeApi
