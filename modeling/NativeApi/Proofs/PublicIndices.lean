import Mathlib.Data.List.Forall2
import Mathlib.Tactic.Use
import NativeApi.Command.CallShape

/-!
# Indices of public parameters

A call shape counts its native parameters and those that the caller gives apart.  What the
caller gives are the parameters that are not hidden, in order, and the index of a
parameter among them is the number of those before it.
-/

namespace NativeApi.CallShape

variable {kind : ShapeKind} {ps : List Parameter} {p : Parameter}

/-- The parameters that the caller gives. -/
def visible (kind : ShapeKind) (ps : List Parameter) : List Parameter :=
  ps.filter fun p => !isHidden kind p

theorem visible_cons_of_hidden (h : isHidden kind p = true) :
  visible kind (p :: ps) = visible kind ps
  := by
  simp [visible, h]

theorem visible_cons_of_not_hidden (h : isHidden kind p = false) :
  visible kind (p :: ps) = p :: visible kind ps
  := by
  simp [visible, h]

theorem parameters_ofParameters (name : String) :
  (ofParameters kind name ps).parameters = (visible kind ps).map publicParameter
  := rfl

theorem plan_ofParameters (kind : ShapeKind) (name : String) (ps : List Parameter) :
  (ofParameters kind name ps).plan
    = (indexed kind 0 ps).map fun q => sourceOf (indexed kind 0 ps) q.1 q.2
  := rfl

/-! ### What the signatures hide -/

/-- Only the simplified signature hides a parameter. -/
def IsDerived (p : Parameter) : Prop :=
  isHidden .simplified p = true ∧ isHidden .raw p = false

theorem isHidden_simplified (h : isHidden .raw p = true) :
  isHidden .simplified p = true
  := by
  cases hrole : p.role <;> simp_all [isHidden, Role.isOutput]

/-- What only the simplified signature hides are derivable counts that are not written. -/
theorem isDerived_iff :
  IsDerived p ↔ (∃ array, p.role = .count array true) ∧ p.isWritten = false
  := by
  cases hrole : p.role with
  | count array derivable => cases derivable <;> simp [IsDerived, isHidden, Role.isOutput, hrole]
  | _ => simp [IsDerived, isHidden, Role.isOutput, hrole]

/-- What the raw signature hides is written, if results are. -/
theorem isWritten_of_isHidden_raw (output : p.role.isOutput = true → p.isWritten = true)
    (hidden : isHidden .raw p = true) :
  p.isWritten = true
  := by
  rw [isHidden, Bool.or_eq_true] at hidden
  rcases hidden with houtput | hcount
  · apply output houtput
  · split at hcount
    · simpa using hcount
    · cases hcount

theorem isHidden_inputArray {length : LengthReference} (h : p.role = .inputArray length) :
  isHidden kind p = false
  := by
  simp [isHidden, Role.isOutput, h]

/-- The visible parameters with a direct length are input arrays. -/
theorem role_of_directLength (hidden : isHidden kind p = false) {count : String}
    (h : p.role.directLength? = some count) :
  p.role = .inputArray (.parameter count)
  := by
  cases hrole : p.role with
  | inputArray length => cases length <;> simp_all [Role.directLength?, Role.length?]
  | rawBuffer _ => simp [isHidden, Role.isOutput, hrole] at hidden
  | outputArray _ => simp [isHidden, Role.isOutput, hrole] at hidden
  | _ => simp [Role.directLength?, Role.length?, hrole] at h

/-! ### Indexed parameters -/

theorem map_fst_indexed (kind : ShapeKind) (next : Nat) (ps : List Parameter) :
  (indexed kind next ps).map Prod.fst = ps
  := by
  fun_induction indexed kind next ps with
  | case1 => rfl
  | case2 next p ps _ ih => rw [List.map_cons, ih]
  | case3 next p ps _ ih => rw [List.map_cons, ih]

theorem exists_mem_indexed (kind : ShapeKind) (next : Nat) (h : p ∈ ps) :
  ∃ index, (p, index) ∈ indexed kind next ps
  := by
  rw [← map_fst_indexed kind next ps] at h
  obtain ⟨⟨p, index⟩, hmem, rfl⟩ := List.mem_map.mp h
  use index

theorem mem_of_mem_indexed {next : Nat} {index : Option Nat}
    (h : (p, index) ∈ indexed kind next ps) :
  p ∈ ps
  := by
  rw [← map_fst_indexed kind next ps]
  apply List.mem_map_of_mem h

/-- The parameters without an index are the hidden ones. -/
theorem isHidden_of_mem_indexed {next : Nat} {index : Option Nat}
    (h : (p, index) ∈ indexed kind next ps) :
  isHidden kind p = index.isNone
  := by
  fun_induction indexed kind next ps with
  | case1 => cases h
  | case2 next q ps hidden ih =>
      rcases List.mem_cons.mp h with heq | h
      · obtain ⟨rfl, rfl⟩ := Prod.mk.inj heq
        exact hidden
      · apply ih h
  | case3 next q ps hidden ih =>
      rcases List.mem_cons.mp h with heq | h
      · obtain ⟨rfl, rfl⟩ := Prod.mk.inj heq
        exact Bool.eq_false_iff.mpr hidden
      · apply ih h

/-- An index leads back to its parameter among those that the caller gives. -/
theorem visible_of_mem_indexed {next index : Nat} (h : (p, some index) ∈ indexed kind next ps) :
  next ≤ index ∧ (visible kind ps)[index - next]? = some p
  := by
  fun_induction indexed kind next ps with
  | case1 => cases h
  | case2 next q ps hidden ih =>
      rw [visible_cons_of_hidden hidden]
      rcases List.mem_cons.mp h with heq | h
      · cases heq
      · apply ih h
  | case3 next q ps hidden ih =>
      rw [visible_cons_of_not_hidden (Bool.eq_false_iff.mpr hidden)]
      rcases List.mem_cons.mp h with heq | h
      · obtain ⟨rfl, hindex⟩ := Prod.mk.inj heq
        obtain rfl := Option.some.inj hindex
        simp
      · obtain ⟨hle, hget⟩ := ih h
        use by omega
        rw [show index - next = index - (next + 1) + 1 by omega]
        exact hget

/-! ### Arrays of a count -/

theorem mem_arraysCountedBy {rawName : String} {index : Nat}
    {indexedPs : List (Parameter × Option Nat)} :
  index ∈ arraysCountedBy rawName indexedPs
    ↔ ∃ q, (q, some index) ∈ indexedPs ∧ q.role.directLength? = some rawName
  := by
  rw [arraysCountedBy, List.mem_filterMap]
  constructor
  · rintro ⟨⟨q, i⟩, hmem, h⟩
    by_cases hq : q.role.directLength? = some rawName
    · simp only [hq, beq_self_eq_true, if_true] at h
      subst h
      use q, hmem
    · simp [hq] at h
  · rintro ⟨q, hmem, hq⟩
    use (q, some index), hmem
    simp [hq]

/-- A count has no arrays that the caller gives exactly if it is the length of no input
array. -/
theorem arraysCountedBy_eq_nil_iff {rawName : String} :
  arraysCountedBy rawName (indexed kind 0 ps) = []
    ↔ ∀ q ∈ ps, q.role ≠ .inputArray (.parameter rawName)
  := by
  rw [List.eq_nil_iff_forall_not_mem]
  constructor
  · intro h q hq hrole
    obtain ⟨index, hmem⟩ := exists_mem_indexed kind 0 hq
    have hindex := isHidden_of_mem_indexed hmem
    rw [isHidden_inputArray hrole] at hindex
    obtain ⟨index, rfl⟩ := Option.isSome_iff_exists.mp (Option.isNone_eq_false_iff.mp hindex.symm)
    apply h index
    apply mem_arraysCountedBy.mpr
    use q, hmem
    rw [hrole]
    rfl
  · intro h index hindex
    obtain ⟨q, hmem, hdirect⟩ := mem_arraysCountedBy.mp hindex
    apply h q (mem_of_mem_indexed hmem)
    apply role_of_directLength (isHidden_of_mem_indexed hmem) hdirect

/-! ### Slots -/

/-- The plan has the source of each parameter at its position. -/
theorem getElem?_plan {i : Nat} (h : ps[i]? = some p) (name : String) :
  ∃ index, (p, index) ∈ indexed kind 0 ps
    ∧ (ofParameters kind name ps).plan[i]? = some (sourceOf (indexed kind 0 ps) p index)
  := by
  rw [← map_fst_indexed kind 0 ps, List.getElem?_map] at h
  obtain ⟨⟨p, index⟩, hget, rfl⟩ := Option.map_eq_some_iff.mp h
  use index, List.mem_of_getElem? hget
  rw [plan_ofParameters, List.getElem?_map, hget]
  rfl

/-- Hidden parameters have a slot if they are written, or if no array counts them. -/
theorem sourceOf_eq_slot_iff {index : Option Nat} (hmem : (p, index) ∈ indexed kind 0 ps) :
  sourceOf (indexed kind 0 ps) p index = .slot
    ↔ isHidden kind p = true
      ∧ (p.isWritten = true ∨ ∀ q ∈ ps, q.role ≠ .inputArray (.parameter p.rawName))
  := by
  rw [isHidden_of_mem_indexed hmem, ← @arraysCountedBy_eq_nil_iff kind]
  unfold sourceOf
  cases index with
  | some index => simp
  | none =>
      cases hwritten : p.isWritten with
      | true => simp
      | false =>
          cases harrays : arraysCountedBy p.rawName (indexed kind 0 ps) with
          | nil => simp
          | cons first siblings => simp

end NativeApi.CallShape
