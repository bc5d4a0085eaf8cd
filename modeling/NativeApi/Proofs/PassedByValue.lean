import NativeApi.Declarator
import NativeApi.Proofs.Outcomes
import NativeApi.Proofs.Words

/-!
# Declarations without stars

A declaration has a type, a name and, where there are brackets, a length, and its stars are
counted between the type and the name.  Where there is no star in the whole text of an
element, the declaration that it makes is no pointer.
-/

namespace NativeApi

/-! ### Finding a star -/

theorem Text.contains_star_iff {s : String} :
  Text.contains "*" s = true ↔ '*' ∈ s.toList
  := by
  apply hasPart_singleton_iff

namespace Element

theorem mem_runsOf {c : Char} {nodes : List Node} (h : c ∈ (runsOf nodes).toList) :
  ∃ run, .text run ∈ nodes ∧ c ∈ run.toList
  := by
  fun_induction runsOf nodes with
  | case1 => simp at h
  | case2 run nodes ih =>
      rw [String.toList_append, List.mem_append] at h
      rcases h with h | h
      · use run, List.mem_cons_self
      · obtain ⟨other, hmem, hc⟩ := ih h
        use other, List.mem_cons_of_mem _ hmem
  | case3 child nodes ih =>
      obtain ⟨other, hmem, hc⟩ := ih h
      use other, List.mem_cons_of_mem _ hmem

/-- The runs directly among some nodes are part of their whole text. -/
theorem mem_textOf {c : Char} {run : String} {nodes : List Node} (hmem : .text run ∈ nodes)
    (hc : c ∈ run.toList) :
  c ∈ (textOf nodes).toList
  := by
  induction nodes with
  | nil => cases hmem
  | cons node nodes ih =>
      rw [textOf, String.toList_append, List.mem_append]
      rcases List.mem_cons.mp hmem with rfl | hmem
      · exact .inl hc
      · exact .inr (ih hmem)

end Element

namespace Declarator

theorem mem_of_mem_beforeName {node : Node} {nodes : List Node} (h : node ∈ beforeName nodes) :
  node ∈ nodes
  := by
  fun_induction beforeName nodes with
  | case1 => cases h
  | case2 run nodes ih =>
      rcases List.mem_cons.mp h with rfl | h
      · apply List.mem_cons_self
      · apply List.mem_cons_of_mem _ (ih h)
  | case3 => cases h
  | case4 child nodes _ ih =>
      rcases List.mem_cons.mp h with rfl | h
      · apply List.mem_cons_self
      · apply List.mem_cons_of_mem _ (ih h)

theorem mem_of_mem_afterType {node : Node} {nodes : List Node} (h : node ∈ afterType nodes) :
  node ∈ nodes
  := by
  fun_induction afterType nodes with
  | case1 => cases h
  | case2 run nodes ih => apply List.mem_cons_of_mem _ (ih h)
  | case3 child nodes _ => apply List.mem_cons_of_mem _ h
  | case4 child nodes _ ih => apply List.mem_cons_of_mem _ (ih h)

/-- A star that counts stands in the text of the element. -/
theorem star_mem_text {e : Element} (h : 0 < stars e) :
  '*' ∈ e.text.toList
  := by
  obtain ⟨run, hmem, hstar⟩ := Element.mem_runsOf (List.count_pos_iff.mp h)
  obtain ⟨_, _, children⟩ := e
  apply Element.mem_textOf (mem_of_mem_beforeName (mem_of_mem_afterType hmem)) hstar

/-- The length of the inline array that an element declares, if its text has brackets. -/
def declaredLength (e : Element) (owner rawName : String) (constants : Dict Int) :
    Except Error (Option ArrayLength) :=
  if Text.contains "[" e.ownText then (fixedLengthOf e owner rawName constants).map some
  else pure none

/-- An element makes a declaration exactly if it has a type, a name and, where its text has
brackets, a length. -/
theorem parse_eq_ok_iff {e : Element} {owner : String} {constants : Dict Int} {d : Declarator} :
  parse e owner constants = .ok d
    ↔ ∃ rawType rawName fixedLength, e.childText? "type" = some rawType
      ∧ e.childText? "name" = some rawName
      ∧ declaredLength e owner rawName constants = .ok fixedLength
      ∧ d = {
          rawType := Text.trim rawType
          rawName := Text.trim rawName
          isPointer := decide (0 < stars e)
          isConst := decide (0 < stars e) && Text.contains "const" (leadingText e)
          isDoublePointer := decide (2 ≤ stars e)
          fixedLength
          length := e.attribute? "len"
          optional := isOptional e }
  := by
  unfold parse declaredLength
  constructor
  · intro h
    split at h
    · rename_i rawType htype
      split at h
      · rename_i rawName hname
        dsimp only at h
        split at h
        · rename_i hbracket
          obtain ⟨fixedLength, hlength, h⟩ := Outcome.bind_eq_ok_iff.mp h
          obtain rfl := Outcome.pure_eq_ok_iff.mp h
          exact ⟨rawType, rawName, fixedLength, htype, hname, (if_pos hbracket).trans hlength, rfl⟩
        · rename_i hbracket
          obtain rfl := Outcome.pure_eq_ok_iff.mp h
          exact ⟨rawType, rawName, none, htype, hname, if_neg hbracket, rfl⟩
      · cases h
    · cases h
  · rintro ⟨rawType, rawName, fixedLength, htype, hname, hlength, rfl⟩
    rw [htype, hname]
    dsimp only
    split
    · rename_i hbracket
      rw [if_pos hbracket] at hlength
      rw [hlength]
      rfl
    · rename_i hbracket
      rw [if_neg hbracket] at hlength
      obtain rfl := Outcome.pure_eq_ok_iff.mp hlength
      rfl

/-- A declaration is of a pointer where a star counts. -/
theorem isPointer_of_parse {e : Element} {owner : String} {constants : Dict Int}
    {d : Declarator} (h : parse e owner constants = .ok d) :
  d.isPointer = decide (0 < stars e)
  := by
  obtain ⟨_, _, _, -, -, -, rfl⟩ := parse_eq_ok_iff.mp h
  rfl

/-- An element whose text has no star declares no pointer. -/
theorem isPointer_of_no_star {e : Element} {owner : String} {constants : Dict Int}
    {d : Declarator} (h : parse e owner constants = .ok d)
    (noStar : Text.contains "*" e.text = false) :
  d.isPointer = false
  := by
  rw [isPointer_of_parse h]
  apply decide_eq_false
  intro hstars
  have := Text.contains_star_iff.mpr (star_mem_text hstars)
  rw [noStar] at this
  cases this

end Declarator

end NativeApi
