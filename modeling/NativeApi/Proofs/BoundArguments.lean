import NativeApi.Command.Lowering
import NativeApi.Proofs.Outcomes
import NativeApi.Proofs.PublicIndices

/-!
# Arguments by parameter

Lowering looks arguments up by index.  Here each native parameter is paired with the
argument that the caller gives for it, and `CallShape.Lowers` says which native argument
belongs to such a pair, without indices: `CallShape.lower_eq_ok_iff` says that lowering
succeeds exactly with these.
-/

namespace NativeApi

/-- The number of elements of an argument for a parameter: of an array its items, of a text
its bytes, and none of an argument that may be left out and is. -/
inductive PublicParameter.HasElements (q : PublicParameter) : Json → Nat → Prop where
  | array (items : List Json) : HasElements q (.array items) items.length
  | text (text : String) : HasElements q (.string text) text.utf8ByteSize
  | omitted : q.optional = true → HasElements q .null 0

theorem PublicParameter.HasElements.unique {q : PublicParameter} {a : Json} {n m : Nat}
    (h : q.HasElements a n) (h' : q.HasElements a m) :
  n = m
  := by
  cases h with
  | array items => cases h' with | array _ => rfl
  | text text => cases h' with | text _ => rfl
  | omitted _ => cases h' with | omitted _ => rfl

namespace CallShape

variable {kind : ShapeKind} {name : String} {ps : List Parameter} {p : Parameter}
  {arguments : List Json}

/-- Each parameter with the argument that the caller gives for it, unless it is hidden. -/
def bound (kind : ShapeKind) : List Parameter → List Json → List (Parameter × Option Json)
  | [], _ => []
  | p :: ps, arguments =>
    if isHidden kind p then (p, none) :: bound kind ps arguments
    else (p, arguments.head?) :: bound kind ps arguments.tail

theorem bound_drop (next : Nat) :
  bound kind ps (arguments.drop next)
    = (indexed kind next ps).map fun q => (q.1, q.2.bind fun index => arguments[index]?)
  := by
  fun_induction indexed kind next ps with
  | case1 => rfl
  | case2 next p ps hidden ih =>
      rw [bound, if_pos hidden, ih]
      rfl
  | case3 next p ps hidden ih =>
      rw [bound, if_neg hidden, List.head?_drop, List.tail_drop, ih]
      rfl

/-- The arguments by parameter are those at the indices of the parameters. -/
theorem bound_eq_map :
  bound kind ps arguments
    = (indexed kind 0 ps).map fun q => (q.1, q.2.bind fun index => arguments[index]?)
  := bound_drop 0

theorem map_fst_bound (kind : ShapeKind) (ps : List Parameter) (arguments : List Json) :
  (bound kind ps arguments).map Prod.fst = ps
  := by
  rw [bound_eq_map, List.map_map]
  apply map_fst_indexed

theorem mem_of_mem_bound {a : Option Json} (h : (p, a) ∈ bound kind ps arguments) :
  p ∈ ps
  := by
  rw [← map_fst_bound kind ps arguments]
  apply List.mem_map_of_mem h

/-! ### Elements -/

/-- The number of elements of an argument for a parameter. -/
def elements? (p : Parameter) : Json → Option Nat
  | .array items => some items.length
  | .string text => some text.utf8ByteSize
  | .null => if p.optional && p.isPointer then some 0 else none
  | _ => none

theorem elements?_eq_some_iff {a : Json} {n : Nat} :
  elements? p a = some n ↔ (publicParameter p).HasElements a n
  := by
  constructor
  · intro h
    cases a with
    | array items => exact Option.some.inj h ▸ .array items
    | string text => exact Option.some.inj h ▸ .text text
    | null =>
        obtain ⟨hoptional, hzero⟩ := Option.ite_none_right_eq_some.mp h
        exact Option.some.inj hzero ▸ .omitted hoptional
    | bool _ => cases h
    | number _ => cases h
    | object _ => cases h
  · intro h
    cases h with
    | array items => rfl
    | text text => rfl
    | omitted hoptional => exact if_pos hoptional

theorem argument?_eq_some_iff {s : CallShape} {index : Nat} {q : PublicParameter} {a : Json} :
  s.argument? arguments index = some (q, a)
    ↔ s.parameters[index]? = some q ∧ arguments[index]? = some a
  := by
  rw [argument?]
  cases s.parameters[index]? with
  | none => simp
  | some q' => cases arguments[index]? with
    | none => simp
    | some a' => simp

/-- The public parameter and the argument at the index of a parameter. -/
theorem argument?_of_mem_indexed (name : String)
    (hlength : arguments.length = (visible kind ps).length) {index : Nat}
    (h : (p, some index) ∈ indexed kind 0 ps) :
  ∃ a, arguments[index]? = some a
    ∧ (ofParameters kind name ps).argument? arguments index = some (publicParameter p, a)
  := by
  obtain ⟨-, hget⟩ := visible_of_mem_indexed h
  rw [Nat.sub_zero] at hget
  have hindex : index < arguments.length := by
    rw [hlength]
    apply (List.getElem?_eq_some_iff.mp hget).1
  use arguments[index], List.getElem?_eq_getElem hindex
  rw [argument?, parameters_ofParameters, List.getElem?_map, hget, List.getElem?_eq_getElem hindex]
  rfl

/-- The elements of an argument are counted, or it is refused as no array. -/
theorem elementCount_cases {s : CallShape} {index : Nat} {q : PublicParameter} {a : Json}
    (h : s.argument? arguments index = some (q, a)) :
  (∃ n, q.HasElements a n ∧ s.elementCount arguments index = .ok n)
    ∨ (∀ n, ¬q.HasElements a n)
      ∧ s.elementCount arguments index
        = .error (.refused
          (s.mismatch (q.name ++ " must be an array, got " ++ a.sortedFields.compact)))
  := by
  rw [elementCount, h]
  cases a with
  | array items => exact .inl ⟨items.length, .array items, rfl⟩
  | string text => exact .inl ⟨text.utf8ByteSize, .text text, rfl⟩
  | null =>
      by_cases hoptional : q.optional = true
      · exact .inl ⟨0, .omitted hoptional, by simp [hoptional]⟩
      · right
        constructor
        · rintro n ⟨⟩
          contradiction
        · simp [hoptional]
  | bool _ => exact .inr ⟨nofun, rfl⟩
  | number _ => exact .inr ⟨nofun, rfl⟩
  | object _ => exact .inr ⟨nofun, rfl⟩

theorem elementCount_eq_ok_iff_hasElements {s : CallShape} {index n : Nat} {q : PublicParameter}
    {a : Json} (h : s.argument? arguments index = some (q, a)) :
  s.elementCount arguments index = .ok n ↔ q.HasElements a n
  := by
  rcases elementCount_cases h with ⟨m, hm, hcount⟩ | ⟨hnone, hcount⟩
  · rw [hcount, Except.ok.injEq]
    constructor
    · rintro rfl
      exact hm
    · apply hm.unique
  · rw [hcount]
    constructor
    · intro herror
      cases herror
    · intro hn
      exact absurd hn (hnone n)

theorem elementCount_eq_ok_iff {s : CallShape} {index n : Nat} {a : Json}
    (h : s.argument? arguments index = some (publicParameter p, a)) :
  s.elementCount arguments index = .ok n ↔ elements? p a = some n
  := by
  rw [elementCount_eq_ok_iff_hasElements h, elements?_eq_some_iff]

theorem checkSibling_eq_ok_iff {s : CallShape} {index count sibling : Nat} :
  s.checkSibling arguments index count sibling = .ok ()
    ↔ s.elementCount arguments sibling = .ok count
  := by
  rw [checkSibling, Outcome.bind_eq_ok_iff]
  constructor
  · rintro ⟨other, hother, h⟩
    by_cases heq : other = count
    · rw [hother, heq]
    · simp [heq] at h
  · intro h
    use count, h
    simp [pure, Except.pure]

/-! ### Native arguments -/

/-- The native argument of a parameter with the argument that the caller gives for it,
among all parameters with theirs. -/
inductive Lowers (pairs : List (Parameter × Option Json)) :
    Parameter → Option Json → NativeArgument → Prop where
  | absent {p : Parameter} : (p.optional && p.isPointer) = true →
      Lowers pairs p (some .null) .absent
  | value {p : Parameter} {a : Json} : a ≠ .null → Lowers pairs p (some a) (.value a)
  | written {p : Parameter} : p.isWritten = true → Lowers pairs p none .slot
  | uncounted {p : Parameter} : p.isWritten = false →
      (∀ q a, (q, some a) ∈ pairs → q.role.directLength? ≠ some p.rawName) →
      Lowers pairs p none .slot
  | counted {p : Parameter} {n : Nat} : p.isWritten = false →
      (∃ q a, (q, some a) ∈ pairs ∧ q.role.directLength? = some p.rawName) →
      (∀ q a, (q, some a) ∈ pairs → q.role.directLength? = some p.rawName →
        elements? q a = some n) →
      Lowers pairs p none (.derivedCount n)

/-- What is written and hidden gets a slot. -/
theorem lowers_written_iff {pairs : List (Parameter × Option Json)} {native : NativeArgument}
    (hwritten : p.isWritten = true) :
  Lowers pairs p none native ↔ native = .slot
  := by
  constructor
  · intro h
    cases h with
    | written _ => rfl
    | uncounted _ _ => rfl
    | counted hread _ _ => exact absurd hwritten (Bool.eq_false_iff.mp hread)
  · rintro rfl
    exact .written hwritten

/-- An argument is left out, or passed on as it is, or refused as one that is needed. -/
theorem callerArgument_cases {s : CallShape} {index : Nat} {q : PublicParameter} {a : Json}
    (h : s.argument? arguments index = some (q, a)) :
  a = .null ∧ q.optional = true ∧ s.callerArgument arguments index = .ok .absent
    ∨ a = .null ∧ q.optional = false
      ∧ s.callerArgument arguments index
        = .error (.refused (s.mismatch (q.name ++ " is required")))
    ∨ a ≠ .null ∧ s.callerArgument arguments index = .ok (.value a)
  := by
  rw [callerArgument, h]
  cases a with
  | null => cases hoptional : q.optional <;> simp [hoptional]
  | _ => simp

/-- The argument of a visible parameter is lowered to itself, or left out. -/
theorem callerArgument_eq_ok_iff {s : CallShape} {index : Nat} {a : Json}
    {pairs : List (Parameter × Option Json)} {native : NativeArgument}
    (h : s.argument? arguments index = some (publicParameter p, a)) :
  s.callerArgument arguments index = .ok native ↔ Lowers pairs p (some a) native
  := by
  rcases callerArgument_cases h with
    ⟨rfl, hoptional, hcaller⟩ | ⟨rfl, hoptional, hcaller⟩ | ⟨hnull, hcaller⟩
  · rw [hcaller, Except.ok.injEq]
    constructor
    · rintro rfl
      exact .absent hoptional
    · intro hnative
      cases hnative with
      | absent _ => rfl
      | value hnull => exact absurd rfl hnull
  · rw [hcaller]
    constructor
    · intro hnative
      cases hnative
    · intro hnative
      cases hnative with
      | absent h => exact absurd h (Bool.eq_false_iff.mp hoptional)
      | value hnull => exact absurd rfl hnull
  · rw [hcaller, Except.ok.injEq]
    constructor
    · rintro rfl
      exact .value hnull
    · intro hnative
      cases hnative with
      | absent _ => exact absurd rfl hnull
      | value _ => rfl

/-- The pairs with an argument are those of the parameters with an index. -/
theorem mem_bound_some_iff {a : Json} :
  (p, some a) ∈ bound kind ps arguments
    ↔ ∃ index, (p, some index) ∈ indexed kind 0 ps ∧ arguments[index]? = some a
  := by
  rw [bound_eq_map, List.mem_map]
  constructor
  · rintro ⟨⟨q, index⟩, hmem, h⟩
    simp only [Prod.mk.injEq] at h
    obtain ⟨rfl, h⟩ := h
    obtain ⟨index, rfl, ha⟩ := Option.bind_eq_some_iff.mp h
    use index, hmem, ha
  · rintro ⟨index, hmem, ha⟩
    use (p, some index), hmem
    rw [Option.bind_some, ha]

/-- The hidden parameters have no argument, and the others have one. -/
theorem isHidden_of_mem_bound (hlength : arguments.length = (visible kind ps).length)
    {a : Option Json} (h : (p, a) ∈ bound kind ps arguments) :
  isHidden kind p = a.isNone
  := by
  rw [bound_eq_map, List.mem_map] at h
  obtain ⟨⟨q, index⟩, hmem, h⟩ := h
  simp only [Prod.mk.injEq] at h
  obtain ⟨rfl, rfl⟩ := h
  rw [isHidden_of_mem_indexed hmem]
  cases index with
  | none => rfl
  | some index =>
      obtain ⟨a, ha, -⟩ := argument?_of_mem_indexed "" hlength hmem
      simp [ha]

theorem exists_mem_bound (hlength : arguments.length = (visible kind ps).length)
    (hmem : p ∈ ps) (hidden : isHidden kind p = false) :
  ∃ a, (p, some a) ∈ bound kind ps arguments
  := by
  rw [← map_fst_bound kind ps arguments] at hmem
  obtain ⟨⟨q, a⟩, hpair, rfl⟩ := List.mem_map.mp hmem
  have hsome := isHidden_of_mem_bound hlength hpair
  cases a with
  | none => simp [hidden] at hsome
  | some a => exact ⟨a, hpair⟩

/-- The arrays of a count have a number of elements if and only if their arguments do. -/
theorem elementCount_arraysCountedBy_iff (name rawName : String) (n : Nat)
    (hlength : arguments.length = (visible kind ps).length) :
  (∀ index ∈ arraysCountedBy rawName (indexed kind 0 ps),
      (ofParameters kind name ps).elementCount arguments index = .ok n)
    ↔ ∀ q a, (q, some a) ∈ bound kind ps arguments → q.role.directLength? = some rawName →
      elements? q a = some n
  := by
  constructor
  · intro h q a hmem hq
    obtain ⟨index, hindex, ha⟩ := mem_bound_some_iff.mp hmem
    obtain ⟨a', ha', hargument⟩ := argument?_of_mem_indexed name hlength hindex
    rw [ha] at ha'
    obtain rfl := Option.some.inj ha'
    apply (elementCount_eq_ok_iff hargument).mp
    apply h index (mem_arraysCountedBy.mpr ⟨q, hindex, hq⟩)
  · intro h index hindex
    obtain ⟨q, hmem, hq⟩ := mem_arraysCountedBy.mp hindex
    obtain ⟨a, ha, hargument⟩ := argument?_of_mem_indexed name hlength hmem
    apply (elementCount_eq_ok_iff hargument).mpr
    apply h q a (mem_bound_some_iff.mpr ⟨index, hmem, ha⟩) hq

/-- Counting the elements of an array succeeds with the number of each array of the
count. -/
theorem lowerSource_countOf_eq_ok_iff {s : CallShape} {first : Nat} {siblings : List Nat}
    {native : NativeArgument} :
  s.lowerSource arguments (.countOf first siblings) = .ok native
    ↔ ∃ n, native = .derivedCount n
      ∧ ∀ index ∈ first :: siblings, s.elementCount arguments index = .ok n
  := by
  rw [lowerSource, Outcome.bind_eq_ok_iff]
  apply exists_congr
  intro n
  rw [Outcome.bind_eq_ok_iff, List.forall_mem_cons]
  constructor
  · rintro ⟨hfirst, _, hsiblings, hnative⟩
    obtain rfl := Outcome.pure_eq_ok_iff.mp hnative
    refine ⟨rfl, hfirst, ?_⟩
    intro sibling hsibling
    apply checkSibling_eq_ok_iff.mp (Outcome.forM_eq_ok_iff.mp hsiblings sibling hsibling)
  · rintro ⟨rfl, hfirst, hsiblings⟩
    use hfirst, ()
    constructor
    · apply Outcome.forM_eq_ok_iff.mpr
      intro sibling hsibling
      apply checkSibling_eq_ok_iff.mpr (hsiblings sibling hsibling)
    · rfl

theorem exists_array_iff (rawName : String)
    (hlength : arguments.length = (visible kind ps).length) :
  (∃ q a, (q, some a) ∈ bound kind ps arguments ∧ q.role.directLength? = some rawName)
    ↔ arraysCountedBy rawName (indexed kind 0 ps) ≠ []
  := by
  constructor
  · rintro ⟨q, a, hmem, hq⟩
    obtain ⟨index, hindex, -⟩ := mem_bound_some_iff.mp hmem
    apply List.ne_nil_of_mem (mem_arraysCountedBy.mpr ⟨q, hindex, hq⟩)
  · intro hne
    obtain ⟨index, hindex⟩ := List.exists_mem_of_ne_nil _ hne
    obtain ⟨q, hmem, hq⟩ := mem_arraysCountedBy.mp hindex
    obtain ⟨a, ha, -⟩ := argument?_of_mem_indexed "" hlength hmem
    use q, a, mem_bound_some_iff.mpr ⟨index, hmem, ha⟩

/-- The source of a hidden parameter is lowered as its pair says. -/
theorem lowerSource_hidden_iff (hlength : arguments.length = (visible kind ps).length)
    {native : NativeArgument} :
  (ofParameters kind name ps).lowerSource arguments (sourceOf (indexed kind 0 ps) p none)
      = .ok native
    ↔ Lowers (bound kind ps arguments) p none native
  := by
  rw [sourceOf]
  by_cases hwritten : p.isWritten = true
  · rw [if_pos hwritten, lowers_written_iff hwritten, lowerSource, Except.ok.injEq, eq_comm]
  · rw [if_neg hwritten]
    have hwritten := Bool.eq_false_iff.mpr hwritten
    cases harrays : arraysCountedBy p.rawName (indexed kind 0 ps) with
    | nil =>
        have hnone := (exists_array_iff p.rawName hlength).not.mpr (not_not.mpr harrays)
        constructor
        · intro h
          obtain rfl := Except.ok.inj h
          apply Lowers.uncounted hwritten
          intro q a hmem hq
          apply hnone ⟨q, a, hmem, hq⟩
        · intro h
          cases h with
          | written h => simp [hwritten] at h
          | uncounted _ _ => rfl
          | counted _ harray _ => exact (hnone harray).elim
    | cons first siblings =>
        have hsome := (exists_array_iff p.rawName hlength).mpr (harrays ▸ List.cons_ne_nil first siblings)
        have hall (n : Nat) := elementCount_arraysCountedBy_iff name p.rawName n hlength
        rw [harrays] at hall
        rw [lowerSource_countOf_eq_ok_iff]
        constructor
        · rintro ⟨n, rfl, hcount⟩
          apply Lowers.counted hwritten hsome ((hall n).mp hcount)
        · intro h
          cases h with
          | written h => simp [hwritten] at h
          | uncounted _ hnone =>
              obtain ⟨q, a, hmem, hq⟩ := hsome
              exact (hnone q a hmem hq).elim
          | counted _ _ hcount => exact ⟨_, rfl, (hall _).mpr hcount⟩

/-- Lowering succeeds exactly when there are as many arguments as public parameters and
every parameter has a native argument, and then with these. -/
theorem lower_eq_ok_iff {natives : List NativeArgument} :
  (ofParameters kind name ps).lower arguments = .ok natives
    ↔ arguments.length = (visible kind ps).length
      ∧ List.Forall₂ (fun pair native => Lowers (bound kind ps arguments) pair.1 pair.2 native)
        (bound kind ps arguments) natives
  := by
  rw [lower, Outcome.mapError_eq_ok_iff, attempt, parameters_ofParameters, List.length_map]
  by_cases hlength : arguments.length = (visible kind ps).length
  · have hbound (pairs : List (Parameter × Option Json)) :
        List.Forall₂ (fun pair native => Lowers pairs pair.1 pair.2 native)
            (bound kind ps arguments) natives
          ↔ List.Forall₂ (fun q native =>
              Lowers pairs q.1 (q.2.bind fun index => arguments[index]?) native)
            (indexed kind 0 ps) natives := by
      rw [bound_eq_map, List.forall₂_map_left_iff]
    rw [if_pos hlength, Outcome.mapM_eq_ok_iff, plan_ofParameters, List.forall₂_map_left_iff, hbound,
      and_iff_right hlength]
    apply Outcome.forall₂_congr_of_mem
    rintro ⟨p, index⟩ hmem native
    cases index with
    | none => apply lowerSource_hidden_iff hlength
    | some index =>
        obtain ⟨a, ha, hargument⟩ := argument?_of_mem_indexed name hlength hmem
        rw [Option.bind_some, ha]
        apply callerArgument_eq_ok_iff hargument
  · simp [hlength]

end CallShape

end NativeApi
