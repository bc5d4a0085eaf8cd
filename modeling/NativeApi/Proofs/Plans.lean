import NativeApi.Proofs.BoundArguments

/-!
# Plans of calls

The plan of a call shape names arguments by their indices.  Main statement: for any
parameters the plan has one source for each, it passes every argument of the caller on
exactly once and in order, each to the parameter that it is for, it takes a count from
exactly those arrays that the count belongs to, and it never asks for an argument that there
is not.  The simplified signature shows what the raw one does, without the counts that can be
derived.
-/

namespace NativeApi

/-! ### What a plan says -/

namespace ArgumentSource

/-- The index of the argument that is passed on. -/
def callerIndex? : ArgumentSource → Option Nat
  | caller index => some index
  | _ => none

/-- The indices of all arguments that are looked at. -/
def indices : ArgumentSource → List Nat
  | caller index => [index]
  | countOf first siblings => first :: siblings
  | slot => []

end ArgumentSource

/-- Whether a parameter is a count that native code only reads and that can be derived. -/
def Parameter.isDerivable (p : Parameter) : Bool :=
  !p.isWritten
    && match p.role with
      | .count _ derivable => derivable
      | _ => false

/-- A public parameter has the raw name, the role and the type of a native one. -/
structure PublicParameter.Presents (q : PublicParameter) (p : Parameter) : Prop where
  rawName : q.rawName = p.rawName
  role : q.role = p.role
  declaredType : q.declaredType = p.declaredType

namespace CallShape

/-- The plan of a signature fits its own parameters and some native ones. -/
structure IsWellFormed (s : CallShape) (ps : List Parameter) : Prop where
  length_plan : s.plan.length = ps.length
  /-- The arguments are passed on in order, each exactly once. -/
  passes : s.plan.filterMap ArgumentSource.callerIndex? = List.range s.parameters.length
  presents : ∀ (i index : Nat) (p : Parameter), ps[i]? = some p →
    s.plan[i]? = some (.caller index) → ∃ q, s.parameters[index]? = some q ∧ q.Presents p
  nodup : ∀ first siblings, .countOf first siblings ∈ s.plan → (first :: siblings).Nodup
  /-- A count is taken from all arrays that have it as their length, and from nothing else. -/
  counts : ∀ (i first : Nat) (siblings : List Nat) (p : Parameter), ps[i]? = some p →
    s.plan[i]? = some (.countOf first siblings) → ∀ index, index ∈ first :: siblings
      ↔ ∃ q, s.parameters[index]? = some q ∧ q.role.directLength? = some p.rawName

/-- Why a call is refused: it has not as many arguments as the signature has parameters, one
that may not be left out is, one to count has no elements to count, or two that share a count
have not as many elements. -/
inductive Refuses (s : CallShape) (arguments : List Json) : Error → Prop where
  | number : arguments.length ≠ s.parameters.length →
      Refuses s arguments
        (s.mismatch
          ("expected " ++ toString s.parameters.length ++ " arguments, got "
            ++ toString arguments.length))
  | required {index : Nat} {q : PublicParameter} : .caller index ∈ s.plan →
      s.argument? arguments index = some (q, .null) → q.optional = false →
      Refuses s arguments (s.mismatch (q.name ++ " is required"))
  | uncountable {first index : Nat} {siblings : List Nat} {q : PublicParameter} {a : Json} :
      .countOf first siblings ∈ s.plan → index ∈ first :: siblings →
      s.argument? arguments index = some (q, a) → (∀ n, ¬q.HasElements a n) →
      Refuses s arguments
        (s.mismatch (q.name ++ " must be an array, got " ++ a.sortedFields.compact))
  | unequal {first sibling n m : Nat} {siblings : List Nat} {q q' : PublicParameter}
      {a a' : Json} : .countOf first siblings ∈ s.plan → sibling ∈ siblings →
      s.argument? arguments first = some (q, a) → q.HasElements a n →
      s.argument? arguments sibling = some (q', a') → q'.HasElements a' m → m ≠ n →
      Refuses s arguments
        (s.mismatch
          (q'.name ++ " has " ++ toString m ++ " elements but " ++ q.name ++ " has "
            ++ toString n))

variable {kind : ShapeKind} {name : String} {ps : List Parameter} {p : Parameter} {i index : Nat}
  {source : ArgumentSource} {arguments : List Json}

/-! ### Parameters by index -/

/-- The indices of the parameters that the caller gives count them. -/
theorem filterMap_snd_indexed (kind : ShapeKind) (next : Nat) (ps : List Parameter) :
  (indexed kind next ps).filterMap Prod.snd = List.range' next (visible kind ps).length
  := by
  fun_induction indexed kind next ps with
  | case1 => rfl
  | case2 next p ps hidden ih =>
      rw [visible_cons_of_hidden hidden, ← ih]
      rfl
  | case3 next p ps hidden ih =>
      rw [visible_cons_of_not_hidden (Bool.eq_false_iff.mpr hidden), List.length_cons,
        List.range'_succ, ← ih]
      rfl

/-- A parameter has an index exactly if it is there among those that the caller gives. -/
theorem mem_indexed_iff :
  (p, some index) ∈ indexed kind 0 ps ↔ (visible kind ps)[index]? = some p
  := by
  constructor
  · intro h
    apply (visible_of_mem_indexed h).2
  · intro h
    have hindex : index ∈ (indexed kind 0 ps).filterMap Prod.snd := by
      rw [filterMap_snd_indexed, ← List.range_eq_range', List.mem_range]
      apply (List.getElem?_eq_some_iff.mp h).1
    obtain ⟨⟨q, _⟩, hmem, rfl⟩ := List.mem_filterMap.mp hindex
    have hq := (visible_of_mem_indexed hmem).2
    rw [Nat.sub_zero, h] at hq
    obtain rfl := Option.some.inj hq
    exact hmem

theorem getElem?_parameters_iff {q : PublicParameter} :
  (ofParameters kind name ps).parameters[index]? = some q
    ↔ ∃ p, (p, some index) ∈ indexed kind 0 ps ∧ publicParameter p = q
  := by
  rw [parameters_ofParameters, List.getElem?_map, Option.map_eq_some_iff]
  simp only [mem_indexed_iff]

/-- The simplified signature shows what the raw one does, without derivable counts. -/
theorem visible_simplified (ps : List Parameter) :
  visible .simplified ps = (visible .raw ps).filter fun p => !p.isDerivable
  := by
  rw [visible, visible, List.filter_filter]
  congr 1
  funext p
  cases hrole : p.role with
  | count array derivable =>
      cases hwritten : p.isWritten
      · simp [isHidden, Role.isOutput, Parameter.isDerivable, hrole, hwritten]
      · simp [isHidden, Role.isOutput, Parameter.isDerivable, hrole, hwritten]
  | _ => simp [isHidden, Role.isOutput, Parameter.isDerivable, hrole]

/-! ### Sources by position -/

/-- The arguments that a source passes on are that of its own parameter. -/
theorem callerIndex?_sourceOf (indexedPs : List (Parameter × Option Nat)) (p : Parameter)
    (index : Option Nat) :
  (sourceOf indexedPs p index).callerIndex? = index
  := by
  cases index with
  | some index => rfl
  | none =>
      rw [sourceOf]
      split
      · rfl
      · split
        · rfl
        · rfl

theorem length_plan (kind : ShapeKind) (name : String) (ps : List Parameter) :
  (ofParameters kind name ps).plan.length = ps.length
  := by
  rw [plan_ofParameters, List.length_map, ← List.length_map Prod.fst, map_fst_indexed]

theorem filterMap_callerIndex?_plan (kind : ShapeKind) (name : String) (ps : List Parameter) :
  (ofParameters kind name ps).plan.filterMap ArgumentSource.callerIndex?
    = List.range (ofParameters kind name ps).parameters.length
  := by
  rw [plan_ofParameters, parameters_ofParameters, List.length_map, List.range_eq_range',
    ← filterMap_snd_indexed, List.filterMap_map]
  congr 1
  funext q
  apply callerIndex?_sourceOf

/-- A source of the plan belongs to the parameter at its position. -/
theorem exists_of_getElem?_plan (h : (ofParameters kind name ps).plan[i]? = some source) :
  ∃ p index, ps[i]? = some p ∧ (p, index) ∈ indexed kind 0 ps
    ∧ sourceOf (indexed kind 0 ps) p index = source
  := by
  rw [plan_ofParameters, List.getElem?_map] at h
  obtain ⟨⟨p, index⟩, hget, hsource⟩ := Option.map_eq_some_iff.mp h
  use p, index
  refine ⟨?_, List.mem_of_getElem? hget, hsource⟩
  rw [← map_fst_indexed kind 0 ps, List.getElem?_map, hget]
  rfl

theorem exists_presents (hp : ps[i]? = some p)
    (h : (ofParameters kind name ps).plan[i]? = some (.caller index)) :
  ∃ q, (ofParameters kind name ps).parameters[index]? = some q ∧ q.Presents p
  := by
  obtain ⟨p', index', hp', hmem, hsource⟩ := exists_of_getElem?_plan h
  obtain rfl := Option.some.inj (hp.symm.trans hp')
  have hindex := callerIndex?_sourceOf (indexed kind 0 ps) p index'
  rw [hsource] at hindex
  obtain rfl : some index = index' := hindex
  use publicParameter p, getElem?_parameters_iff.mpr ⟨p, hmem, rfl⟩
  exact ⟨rfl, rfl, rfl⟩

/-! ### Arrays that are counted -/

theorem sublist_arraysCountedBy (rawName : String) (indexedPs : List (Parameter × Option Nat)) :
  (arraysCountedBy rawName indexedPs).Sublist (indexedPs.filterMap Prod.snd)
  := by
  induction indexedPs with
  | nil => apply List.Sublist.refl
  | cons q indexedPs ih =>
      obtain ⟨p, _ | index⟩ := q
      · simpa [arraysCountedBy] using ih
      · by_cases hp : p.role.directLength? = some rawName
        · simpa [arraysCountedBy, hp] using ih
        · simpa [arraysCountedBy, hp] using ih.cons index

/-- No array is counted twice. -/
theorem nodup_arraysCountedBy (kind : ShapeKind) (rawName : String) (ps : List Parameter) :
  (arraysCountedBy rawName (indexed kind 0 ps)).Nodup
  := by
  apply (sublist_arraysCountedBy rawName _).nodup
  rw [filterMap_snd_indexed, ← List.range_eq_range']
  apply List.nodup_range

theorem arraysCountedBy_of_sourceOf {indexedPs : List (Parameter × Option Nat)}
    {index : Option Nat} {first : Nat} {siblings : List Nat}
    (h : sourceOf indexedPs p index = .countOf first siblings) :
  arraysCountedBy p.rawName indexedPs = first :: siblings
  := by
  cases index with
  | some index => cases h
  | none =>
      rw [sourceOf] at h
      split at h
      · cases h
      · split at h
        · rename_i harrays
          obtain ⟨rfl, rfl⟩ := ArgumentSource.countOf.inj h
          exact harrays
        · cases h

theorem mem_arraysCountedBy_iff (name rawName : String) :
  index ∈ arraysCountedBy rawName (indexed kind 0 ps)
    ↔ ∃ q, (ofParameters kind name ps).parameters[index]? = some q
      ∧ q.role.directLength? = some rawName
  := by
  simp only [mem_arraysCountedBy, getElem?_parameters_iff]
  constructor
  · rintro ⟨p, hmem, hp⟩
    exact ⟨publicParameter p, ⟨p, hmem, rfl⟩, hp⟩
  · rintro ⟨_, ⟨p, hmem, rfl⟩, hp⟩
    exact ⟨p, hmem, hp⟩

/-- A count is taken from the arrays that have it as their length. -/
theorem mem_arrays_iff {first : Nat} {siblings : List Nat} (hp : ps[i]? = some p)
    (h : (ofParameters kind name ps).plan[i]? = some (.countOf first siblings)) :
  index ∈ first :: siblings
    ↔ ∃ q, (ofParameters kind name ps).parameters[index]? = some q
      ∧ q.role.directLength? = some p.rawName
  := by
  obtain ⟨p', index', hp', -, hsource⟩ := exists_of_getElem?_plan h
  obtain rfl := Option.some.inj (hp.symm.trans hp')
  rw [← arraysCountedBy_of_sourceOf hsource]
  apply mem_arraysCountedBy_iff

theorem nodup_arrays {first : Nat} {siblings : List Nat}
    (h : .countOf first siblings ∈ (ofParameters kind name ps).plan) :
  (first :: siblings).Nodup
  := by
  obtain ⟨i, hi⟩ := List.getElem?_of_mem h
  obtain ⟨p, _, -, -, hsource⟩ := exists_of_getElem?_plan hi
  rw [← arraysCountedBy_of_sourceOf hsource]
  apply nodup_arraysCountedBy

/-! ### Arguments in range -/

/-- What the plan looks at is the argument for a parameter. -/
theorem exists_parameter_of_mem_indices (hsource : source ∈ (ofParameters kind name ps).plan)
    (hindex : index ∈ source.indices) :
  ∃ q, (ofParameters kind name ps).parameters[index]? = some q
  := by
  obtain ⟨i, hi⟩ := List.getElem?_of_mem hsource
  obtain ⟨p, _, hp, -, -⟩ := exists_of_getElem?_plan hi
  cases source with
  | caller index' =>
      obtain rfl := List.mem_singleton.mp hindex
      obtain ⟨q, hq, -⟩ := exists_presents hp hi
      use q
  | countOf first siblings =>
      obtain ⟨q, hq, -⟩ := (mem_arrays_iff hp hi).mp hindex
      use q
  | slot => cases hindex

/-- With as many arguments as parameters, the plan finds every argument that it looks at. -/
theorem exists_argument?_of_mem_indices
    (hlength : arguments.length = (ofParameters kind name ps).parameters.length)
    (hsource : source ∈ (ofParameters kind name ps).plan) (hindex : index ∈ source.indices) :
  ∃ q a, (ofParameters kind name ps).argument? arguments index = some (q, a)
  := by
  obtain ⟨q, hq⟩ := exists_parameter_of_mem_indices hsource hindex
  have hlt : index < arguments.length := by
    rw [hlength]
    apply (List.getElem?_eq_some_iff.mp hq).1
  use q, arguments[index]
  apply argument?_eq_some_iff.mpr
  use hq, List.getElem?_eq_getElem hlt

/-! ### Refusals -/

section

variable {s : CallShape} {failure : Failure}

theorem nameAt_of_argument? {q : PublicParameter} {a : Json}
    (h : s.argument? arguments index = some (q, a)) :
  s.nameAt index = q.name
  := by
  rw [nameAt, (argument?_eq_some_iff.mp h).1]

/-- An argument is not passed on only where one that is needed is left out. -/
theorem refuses_of_callerArgument (hplan : .caller index ∈ s.plan) {q : PublicParameter}
    {a : Json} (hargument : s.argument? arguments index = some (q, a))
    (h : s.callerArgument arguments index = .error failure) :
  ∃ problem, failure = .refused problem ∧ s.Refuses arguments problem
  := by
  rcases callerArgument_cases hargument with
    ⟨-, -, hcaller⟩ | ⟨rfl, hoptional, hcaller⟩ | ⟨-, hcaller⟩
  · cases hcaller.symm.trans h
  · obtain rfl := Except.error.inj (hcaller.symm.trans h)
    exact ⟨_, rfl, .required hplan hargument hoptional⟩
  · cases hcaller.symm.trans h

section

variable {first : Nat} {siblings : List Nat} (hplan : .countOf first siblings ∈ s.plan)
include hplan

theorem refuses_of_elementCount (hindex : index ∈ first :: siblings) {q : PublicParameter}
    {a : Json} (hargument : s.argument? arguments index = some (q, a))
    (h : s.elementCount arguments index = .error failure) :
  ∃ problem, failure = .refused problem ∧ s.Refuses arguments problem
  := by
  rcases elementCount_cases hargument with ⟨n, -, hcount⟩ | ⟨hnone, hcount⟩
  · cases hcount.symm.trans h
  · obtain rfl := Except.error.inj (hcount.symm.trans h)
    exact ⟨_, rfl, .uncountable hplan hindex hargument hnone⟩

theorem refuses_of_checkSibling {sibling n : Nat} (hsibling : sibling ∈ siblings)
    {q q' : PublicParameter} {a a' : Json} (hfirst : s.argument? arguments first = some (q, a))
    (hn : q.HasElements a n) (hargument : s.argument? arguments sibling = some (q', a'))
    (h : s.checkSibling arguments first n sibling = .error failure) :
  ∃ problem, failure = .refused problem ∧ s.Refuses arguments problem
  := by
  rw [checkSibling] at h
  rcases Outcome.bind_eq_error_iff.mp h with hcount | ⟨m, hcount, h⟩
  · apply refuses_of_elementCount hplan (List.mem_cons_of_mem first hsibling) hargument hcount
  · by_cases heq : m = n
    · simp [heq, pure, Except.pure] at h
    · rw [if_neg heq, nameAt_of_argument? hargument, nameAt_of_argument? hfirst] at h
      obtain rfl := Except.error.inj h
      have hm := (elementCount_eq_ok_iff_hasElements hargument).mp hcount
      exact ⟨_, rfl, .unequal hplan hsibling hfirst hn hargument hm heq⟩

end

/-- A source whose arguments are there fails only for a reason to refuse the call. -/
theorem refuses_of_lowerSource (hplan : source ∈ s.plan)
    (found : ∀ index ∈ source.indices, ∃ q a, s.argument? arguments index = some (q, a))
    (h : s.lowerSource arguments source = .error failure) :
  ∃ problem, failure = .refused problem ∧ s.Refuses arguments problem
  := by
  cases source with
  | caller index =>
      obtain ⟨q, a, hargument⟩ := found index (List.mem_singleton_self index)
      apply refuses_of_callerArgument hplan hargument h
  | countOf first siblings =>
      obtain ⟨q, a, hfirst⟩ := found first List.mem_cons_self
      rw [lowerSource] at h
      rcases Outcome.bind_eq_error_iff.mp h with hcount | ⟨n, hcount, h⟩
      · apply refuses_of_elementCount hplan List.mem_cons_self hfirst hcount
      · rcases Outcome.bind_eq_error_iff.mp h with hsiblings | ⟨_, -, h⟩
        · obtain ⟨sibling, hsibling, hcheck⟩ := Outcome.exists_of_forM_eq_error hsiblings
          obtain ⟨q', a', hargument⟩ := found sibling (List.mem_cons_of_mem first hsibling)
          apply refuses_of_checkSibling hplan hsibling hfirst _ hargument hcheck
          apply (elementCount_eq_ok_iff_hasElements hfirst).mp hcount
        · cases h
  | slot => cases h

end

/-- An attempt at a call fails only for a reason to refuse it, never for an argument that there
is not. -/
theorem refuses_of_attempt {failure : Failure}
    (h : (ofParameters kind name ps).attempt arguments = .error failure) :
  ∃ problem, failure = .refused problem ∧ (ofParameters kind name ps).Refuses arguments problem
  := by
  rw [attempt] at h
  split at h
  · rename_i hlength
    obtain ⟨source, hsource, hfails⟩ := Outcome.exists_of_mapM_eq_error h
    apply refuses_of_lowerSource hsource _ hfails
    intro index hindex
    apply exists_argument?_of_mem_indices hlength hsource hindex
  · rename_i hlength
    obtain rfl := Except.error.inj h
    exact ⟨_, rfl, .number hlength⟩

/-- Lowering fails only for a reason to refuse the call. -/
theorem refuses_of_lower {e : Error} (h : (ofParameters kind name ps).lower arguments = .error e) :
  (ofParameters kind name ps).Refuses arguments e
  := by
  obtain ⟨failure, hattempt, rfl⟩ := Outcome.mapError_eq_error_iff.mp h
  obtain ⟨problem, rfl, refuses⟩ := refuses_of_attempt hattempt
  exact refuses

/-- For any parameters, a signature is well formed; the simplified one shows what the raw one
shows, in the same order, but for the counts that can be derived; and no arguments make
lowering ask for one that there is not. -/
theorem ofParameters_isWellFormed (name : String) (ps : List Parameter) :
  (∀ kind, (ofParameters kind name ps).IsWellFormed ps)
    ∧ (ofParameters .raw name ps).parameters = (visible .raw ps).map publicParameter
    ∧ (ofParameters .simplified name ps).parameters
      = ((visible .raw ps).filter fun p => !p.isDerivable).map publicParameter
    ∧ ∀ kind arguments index, (ofParameters kind name ps).attempt arguments
      ≠ .error (.missing index)
  := by
  refine ⟨?_, rfl, ?_, ?_⟩
  · intro kind
    constructor
    · apply length_plan
    · apply filterMap_callerIndex?_plan
    · intro i index p hp hplan
      apply exists_presents hp hplan
    · intro first siblings hplan
      apply nodup_arrays hplan
    · intro i first siblings p hp hplan index
      apply mem_arrays_iff hp hplan
  · rw [parameters_ofParameters, visible_simplified]
  · intro kind arguments index h
    obtain ⟨problem, heq, -⟩ := refuses_of_attempt h
    cases heq

end CallShape

end NativeApi
