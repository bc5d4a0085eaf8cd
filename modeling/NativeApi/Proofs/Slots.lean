import NativeApi.Options.Standard
import NativeApi.Proofs.DeclaredRoles
import NativeApi.Proofs.PublicIndices

/-!
# Slots of wrappers

A slot is storage of the wrapper's own, so what native code finds in it is nothing that the
caller gave.  Main statement: which parameters of an accepted command get a slot, and under
which condition none of them is an input.
-/

namespace NativeApi

namespace CallShape

variable {kind : ShapeKind} {ps : List Parameter} {p : Parameter}

/-! ### What a signature hides -/

/-- Where roles fit, the raw signature hides what is written. -/
theorem isHidden_raw_iff (fits : p.RoleFits) :
  isHidden .raw p = true ↔ p.isWritten = true
  := by
  constructor
  · apply isWritten_of_isHidden_raw fits.output
  · intro hwritten
    rw [isHidden, Bool.or_eq_true]
    rcases fits.written hwritten with houtput | ⟨array, derivable, hrole⟩
    · exact .inl houtput
    · right
      rw [hrole]
      simp [hwritten]

/-- Where roles fit, the simplified signature hides the derivable counts as well. -/
theorem isHidden_iff (fits : p.RoleFits) :
  isHidden kind p = true
    ↔ p.isWritten = true ∨ kind = .simplified ∧ ∃ array, p.role = .count array true
  := by
  constructor
  · intro hidden
    by_cases hwritten : p.isWritten = true
    · exact .inl hwritten
    · right
      have hraw : ¬isHidden .raw p = true := (isHidden_raw_iff fits).not.mpr hwritten
      cases kind with
      | raw => exact absurd hidden hraw
      | simplified =>
          use rfl
          exact (isDerived_iff.mp ⟨hidden, Bool.eq_false_iff.mpr hraw⟩).1
  · rintro (hwritten | ⟨rfl, array, hrole⟩)
    · have hraw := (isHidden_raw_iff fits).mpr hwritten
      cases kind with
      | raw => exact hraw
      | simplified => exact isHidden_simplified hraw
    · simp [isHidden, hrole]

/-! ### What gets a slot -/

/-- A count that the simplified signature hides, although no input array has it as its
length. -/
structure IsLost (ps : List Parameter) (p : Parameter) : Prop where
  derivable : ∃ array, p.role = .count array true
  uncounted : ∀ q ∈ ps, q.role ≠ .inputArray (.parameter p.rawName)

/-- Where roles fit, the parameters with slots are those that are written, and the counts
that the simplified signature loses. -/
theorem plan_eq_slot_iff (fits : ∀ p ∈ ps, p.RoleFits) (name : String) {i : Nat}
    (h : ps[i]? = some p) :
  (ofParameters kind name ps).plan[i]? = some .slot
    ↔ p.isWritten = true ∨ kind = .simplified ∧ IsLost ps p
  := by
  obtain ⟨index, hmem, hplan⟩ := getElem?_plan h name
  rw [hplan, Option.some.injEq, sourceOf_eq_slot_iff hmem,
    isHidden_iff (fits p (List.mem_of_getElem? h))]
  constructor
  · rintro ⟨hwritten | ⟨hkind, hcount⟩, hwritten' | huncounted⟩
    · exact .inl hwritten
    · exact .inl hwritten
    · exact .inl hwritten'
    · exact .inr ⟨hkind, hcount, huncounted⟩
  · rintro (hwritten | ⟨hkind, hcount, huncounted⟩)
    · exact ⟨.inl hwritten, .inl hwritten⟩
    · exact ⟨.inr ⟨hkind, hcount⟩, .inr huncounted⟩

end CallShape

namespace Classification

open CallShape

variable {s : Setting} {element : Element} {c : Classification}

/-! ### Slots of accepted commands -/

/-- Slots are only for parameters that native code writes, and that are not the length of
an input array. -/
def SlotsAreResults (c : Classification) : Prop :=
  ∀ shape ∈ c.shapes, ∀ (i : Nat) (p : Parameter), c.command.parameters[i]? = some p →
    shape.plan[i]? = some .slot →
    p.isWritten = true ∧ ∀ q ∈ c.command.parameters, q.role ≠ .inputArray (.parameter p.rawName)

/-- No length of an input array is written, and each count that a simplified signature
hides is the length of an input array. -/
structure CountsAreGiven (c : Classification) : Prop where
  read : ∀ p ∈ c.command.parameters, ∀ q ∈ c.command.parameters,
    q.role = .inputArray (.parameter p.rawName) → p.isWritten = false
  counted : (∃ shape ∈ c.shapes, shape.kind = .simplified) →
    ∀ p ∈ c.command.parameters, ¬IsLost c.command.parameters p

/-- The signatures of an accepted command are those of its parameters. -/
theorem eq_ofParameters_of_mem_shapes (h : ofElement s element = .ok (some c))
    {shape : CallShape} (hshape : shape ∈ c.shapes) :
  shape = ofParameters shape.kind shape.publicName c.command.parameters
  := by
  obtain ⟨_, _, command, _, _, _, _, _, rfl⟩ := ofElement_eq_some_iff.mp h
  rcases List.mem_cons.mp hshape with rfl | hshape
  · rfl
  · split at hshape
    · obtain rfl := List.mem_singleton.mp hshape
      rfl
    · cases hshape

theorem getElem?_plan_eq_slot_iff (h : ofElement s element = .ok (some c))
    {shape : CallShape} (hshape : shape ∈ c.shapes) {i : Nat} {p : Parameter}
    (hp : c.command.parameters[i]? = some p) :
  shape.plan[i]? = some .slot
    ↔ p.isWritten = true ∨ shape.kind = .simplified ∧ IsLost c.command.parameters p
  := by
  rw [eq_ofParameters_of_mem_shapes h hshape]
  apply plan_eq_slot_iff (rolesFit_of_ofElement h).fits _ hp

/-- A count that is lost is passed by value, and some array that is declared with it as its
length has become a count itself. -/
theorem isCount_of_isLost (h : ofElement s element = .ok (some c)) {p : Parameter}
    (hp : p ∈ c.command.parameters) (lost : IsLost c.command.parameters p) :
  p.isPointer = false
    ∧ ∃ q ∈ c.command.parameters, q.isPointer = true ∧ q.length = some (.parameter p.rawName)
      ∧ q.role.IsCount
  := by
  obtain ⟨array, hrole⟩ := lost.derivable
  obtain ⟨hpointer, q, hq, hlength, hpointer', hrole⟩ :=
    (rolesFit_of_ofElement h).derivable p hp array hrole
  use hpointer, q, hq, hpointer', hlength
  apply hrole.resolve_left (lost.uncounted q hq)

theorem exists_mem_shapes (h : ofElement s element = .ok (some c)) :
  ∃ shape, shape ∈ c.shapes
  := by
  obtain ⟨_, _, command, _, _, _, _, _, rfl⟩ := ofElement_eq_some_iff.mp h
  exact ⟨_, List.mem_cons_self⟩

theorem countsAreGiven_of_slotsAreResults (h : ofElement s element = .ok (some c))
    (results : SlotsAreResults c) :
  CountsAreGiven c
  := by
  constructor
  · intro p hp q hq hrole
    apply Bool.eq_false_iff.mpr
    intro hwritten
    obtain ⟨shape, hshape⟩ := exists_mem_shapes h
    obtain ⟨i, hi⟩ := List.getElem?_of_mem hp
    have hslot := (getElem?_plan_eq_slot_iff h hshape hi).mpr (.inl hwritten)
    apply (results shape hshape i p hi hslot).2 q hq hrole
  · rintro ⟨shape, hshape, hkind⟩ p hp lost
    obtain ⟨i, hi⟩ := List.getElem?_of_mem hp
    have hslot := (getElem?_plan_eq_slot_iff h hshape hi).mpr (.inr ⟨hkind, lost⟩)
    have hwritten := (results shape hshape i p hi hslot).1
    have hpointer := (isCount_of_isLost h hp lost).1
    rw [Parameter.isWritten, hpointer] at hwritten
    cases hwritten

theorem slotsAreResults_of_countsAreGiven (h : ofElement s element = .ok (some c))
    (given : CountsAreGiven c) :
  SlotsAreResults c
  := by
  intro shape hshape i p hi hslot
  have hp := List.mem_of_getElem? hi
  rcases (getElem?_plan_eq_slot_iff h hshape hi).mp hslot with hwritten | ⟨hkind, lost⟩
  · use hwritten
    intro q hq hrole
    have hread := given.read p hp q hq hrole
    rw [hwritten] at hread
    cases hread
  · exact absurd lost (given.counted ⟨shape, hshape, hkind⟩ p hp)

/-- The slots of an accepted command are for what native code writes, and for the counts
that its simplified signature loses.  So none of them is for an input exactly if the
lengths of its input arrays are not written and no count is lost; a count that is lost is
passed by value, and the length of an array that has become a count itself. -/
theorem slots_of_accepted (h : ofElement s element = .ok (some c)) :
  (∀ shape ∈ c.shapes, ∀ (i : Nat) (p : Parameter), c.command.parameters[i]? = some p →
      (shape.plan[i]? = some .slot
        ↔ p.isWritten = true ∨ shape.kind = .simplified ∧ IsLost c.command.parameters p))
    ∧ (SlotsAreResults c ↔ CountsAreGiven c)
    ∧ ∀ p ∈ c.command.parameters, IsLost c.command.parameters p →
      p.isPointer = false
        ∧ ∃ q ∈ c.command.parameters, q.isPointer = true
          ∧ q.length = some (.parameter p.rawName) ∧ q.role.IsCount
  := by
  refine ⟨?_, ?_, ?_⟩
  · intro shape hshape i p hi
    apply getElem?_plan_eq_slot_iff h hshape hi
  · constructor
    · apply countsAreGiven_of_slotsAreResults h
    · apply slotsAreResults_of_countsAreGiven h
  · intro p hp lost
    apply isCount_of_isLost h hp lost

/-- The standard setting for a document that declares nothing but numbers. -/
def numberSetting : Setting where
  options := .standard
  naming := Options.standard.naming
  registry := {
    entities := [⟨"void", "void", .primitive .void⟩, ⟨"u32", "uint32_t", .primitive .u32⟩]
    rawIds := .ofList [("uint32_t", 1), ("void", 0)]
    constants := .empty
    platforms := [] }
  aliases := ⟨.empty⟩

/-- The declaration of a number, or a pointer to one, with a length if there is one. -/
def numberDeclaration (qualifier stars name : String) (length : Option String) : Element :=
  let plain :=
    (((Element.named "param").withText qualifier).withTextChild "type" "uint32_t").withText stars
      |>.withTextChild "name" name
  match length with
  | some length => plain.withAttribute "len" length
  | none => plain

/-- The declaration of a command that returns nothing, with its parameters. -/
def commandDeclaration (name : String) (ps : List Element) : Element :=
  let proto := ((Element.named "proto").withTextChild "type" "void").withTextChild "name" name
  ps.foldl Element.withChild ((Element.named "command").withChild proto)

/-- A count, an array of its length, and an array of which that array is the length. -/
def chainedLengths : Element :=
  commandDeclaration "vkSubmit" [
    numberDeclaration "" " " "n" none,
    numberDeclaration "const " "* " "pA" (some "n"),
    numberDeclaration "const " "* " "pB" (some "pA")]

/-- The simplified signature of chained lengths has a slot for a count passed by value. -/
theorem slots_of_accepted_chainedLengths :
  ∃ c, ofElement numberSetting chainedLengths = .ok (some c)
    ∧ ((∀ shape ∈ c.shapes, ∀ (i : Nat) (p : Parameter), c.command.parameters[i]? = some p →
          (shape.plan[i]? = some .slot
            ↔ p.isWritten = true ∨ shape.kind = .simplified ∧ IsLost c.command.parameters p))
      ∧ (SlotsAreResults c ↔ CountsAreGiven c)
      ∧ ∀ p ∈ c.command.parameters, IsLost c.command.parameters p →
        p.isPointer = false
          ∧ ∃ q ∈ c.command.parameters, q.isPointer = true
            ∧ q.length = some (.parameter p.rawName) ∧ q.role.IsCount)
    ∧ ¬SlotsAreResults c
  := by
  have evaluated :
      (ofElement numberSetting chainedLengths).toOption.join.any (fun c =>
        c.shapes.any (fun shape => shape.plan[0]? == some .slot)
          && c.command.parameters[0]?.any (fun p => !p.isWritten)) = true := by
    decide +kernel
  obtain ⟨c, hc, h⟩ := Option.any_eq_true _ _ |>.mp evaluated
  rw [Bool.and_eq_true, List.any_eq_true, Option.any_eq_true] at h
  obtain ⟨⟨shape, hshape, hslot⟩, p, hp, hread⟩ := h
  have accepted := Outcome.toOption_join_eq_some_iff.mp hc
  use c, accepted, slots_of_accepted accepted
  intro results
  have hwritten := (results shape hshape 0 p hp (eq_of_beq hslot)).1
  rw [hwritten] at hread
  cases hread

end Classification

end NativeApi
