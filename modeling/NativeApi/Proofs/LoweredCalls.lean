import NativeApi.Proofs.Plans

/-!
# Lowered calls

Lowering goes through the plan of a signature, source by source.  Main statement: it succeeds
exactly if there are as many arguments as public parameters, no argument is null that may not
be left out, and arrays that share a count have as many elements as one another; then every
source has given the native argument that it stands for, and whenever it fails, it refuses
the call.
-/

namespace NativeApi.CallShape

variable {kind : ShapeKind} {name : String} {ps : List Parameter} {i : Nat}
  {arguments : List Json} {natives : List NativeArgument} {native : NativeArgument}
  {source : ArgumentSource} {s : CallShape} {index n : Nat}

/-- The argument at an index has a number of elements. -/
def CountsElements (s : CallShape) (arguments : List Json) (index n : Nat) : Prop :=
  ∃ q a, s.parameters[index]? = some q ∧ arguments[index]? = some a ∧ q.HasElements a n

/-- There is an argument for each public parameter, what is null may be left out, and each
count has one number of elements to be taken from all of its arrays. -/
structure Admits (s : CallShape) (arguments : List Json) : Prop where
  length : arguments.length = s.parameters.length
  optional : ∀ (index : Nat) (q : PublicParameter), s.parameters[index]? = some q →
    arguments[index]? = some .null → q.optional = true
  counted : ∀ first siblings, .countOf first siblings ∈ s.plan →
    ∃ n, ∀ index ∈ first :: siblings, s.CountsElements arguments index n

/-- The native argument that a source stands for. -/
inductive Supplies (s : CallShape) (arguments : List Json) :
    ArgumentSource → NativeArgument → Prop where
  | value {index : Nat} {a : Json} : arguments[index]? = some a → a ≠ .null →
      Supplies s arguments (.caller index) (.value a)
  | absent {index : Nat} : arguments[index]? = some .null →
      Supplies s arguments (.caller index) .absent
  | derived {first n : Nat} {siblings : List Nat} :
      (∀ index ∈ first :: siblings, s.CountsElements arguments index n) →
      Supplies s arguments (.countOf first siblings) (.derivedCount n)
  | slot : Supplies s arguments .slot .slot

/-! ### Single sources -/

theorem elementCount_eq_ok_iff_countsElements :
  s.elementCount arguments index = .ok n ↔ s.CountsElements arguments index n
  := by
  cases h : s.argument? arguments index with
  | none =>
      constructor
      · intro hcount
        rw [elementCount, h] at hcount
        cases hcount
      · rintro ⟨q, a, hq, ha, -⟩
        rw [argument?_eq_some_iff.mpr ⟨hq, ha⟩] at h
        cases h
  | some pair =>
      obtain ⟨q, a⟩ := pair
      obtain ⟨hq, ha⟩ := argument?_eq_some_iff.mp h
      rw [elementCount_eq_ok_iff_hasElements h, CountsElements, hq, ha]
      simp

theorem supplies_of_callerArgument (h : s.callerArgument arguments index = .ok native) :
  s.Supplies arguments (.caller index) native
  := by
  cases hargument : s.argument? arguments index with
  | none =>
      rw [callerArgument, hargument] at h
      cases h
  | some pair =>
      obtain ⟨q, a⟩ := pair
      have ha := (argument?_eq_some_iff.mp hargument).2
      rcases callerArgument_cases hargument with
        ⟨rfl, -, hcaller⟩ | ⟨-, -, hcaller⟩ | ⟨hnull, hcaller⟩
      · obtain rfl := Except.ok.inj (hcaller.symm.trans h)
        exact .absent ha
      · cases hcaller.symm.trans h
      · obtain rfl := Except.ok.inj (hcaller.symm.trans h)
        exact .value ha hnull

/-- What a source gives is what it stands for. -/
theorem supplies_of_lowerSource (h : s.lowerSource arguments source = .ok native) :
  s.Supplies arguments source native
  := by
  cases source with
  | caller index => apply supplies_of_callerArgument h
  | countOf first siblings =>
      obtain ⟨n, rfl, hall⟩ := lowerSource_countOf_eq_ok_iff.mp h
      apply Supplies.derived
      intro index hindex
      apply elementCount_eq_ok_iff_countsElements.mp (hall index hindex)
  | slot =>
      obtain rfl := Except.ok.inj h
      exact .slot

/-- An argument is passed on exactly if it is not null or may be left out. -/
theorem exists_callerArgument_iff {q : PublicParameter} {a : Json}
    (h : s.argument? arguments index = some (q, a)) :
  (∃ native, s.callerArgument arguments index = .ok native) ↔ (a = .null → q.optional = true)
  := by
  rcases callerArgument_cases h with
    ⟨-, hoptional, hcaller⟩ | ⟨rfl, hoptional, hcaller⟩ | ⟨hnull, hcaller⟩
  · exact ⟨fun _ _ => hoptional, fun _ => ⟨.absent, hcaller⟩⟩
  · simp [hcaller, hoptional]
  · exact ⟨fun _ ha => absurd ha hnull, fun _ => ⟨.value a, hcaller⟩⟩

/-- The arrays of a count are counted exactly if one number is that of all of them. -/
theorem exists_lowerSource_countOf_iff {first : Nat} {siblings : List Nat} :
  (∃ native, s.lowerSource arguments (.countOf first siblings) = .ok native)
    ↔ ∃ n, ∀ index ∈ first :: siblings, s.CountsElements arguments index n
  := by
  simp only [lowerSource_countOf_eq_ok_iff, elementCount_eq_ok_iff_countsElements]
  constructor
  · rintro ⟨_, n, rfl, hall⟩
    use n
  · rintro ⟨n, hall⟩
    use .derivedCount n, n

/-! ### Whole calls -/

/-- Every argument of the caller is passed on by the plan. -/
theorem caller_mem_plan {q : PublicParameter}
    (h : (ofParameters kind name ps).parameters[index]? = some q) :
  .caller index ∈ (ofParameters kind name ps).plan
  := by
  have hindex : index ∈ List.range (ofParameters kind name ps).parameters.length := by
    apply List.mem_range.mpr
    apply (List.getElem?_eq_some_iff.mp h).1
  rw [← filterMap_callerIndex?_plan, List.mem_filterMap] at hindex
  obtain ⟨source, hsource, hcaller⟩ := hindex
  cases source with
  | caller index' =>
      obtain rfl := Option.some.inj hcaller
      exact hsource
  | countOf first siblings => cases hcaller
  | slot => cases hcaller

/-- Lowering succeeds exactly if the call is one that the signature admits. -/
theorem exists_lower_iff :
  (∃ natives, (ofParameters kind name ps).lower arguments = .ok natives)
    ↔ (ofParameters kind name ps).Admits arguments
  := by
  simp only [lower, Outcome.mapError_eq_ok_iff]
  rw [attempt]
  split
  · rename_i hlength
    rw [Outcome.exists_mapM_eq_ok_iff]
    constructor
    · intro h
      constructor
      · exact hlength
      · intro index q hq hnull
        apply (exists_callerArgument_iff (argument?_eq_some_iff.mpr ⟨hq, hnull⟩)).mp _ rfl
        apply h (.caller index) (caller_mem_plan hq)
      · intro first siblings hplan
        apply exists_lowerSource_countOf_iff.mp (h _ hplan)
    · intro admitted source hplan
      cases source with
      | caller index =>
          obtain ⟨q, a, hargument⟩ :=
            exists_argument?_of_mem_indices hlength hplan (List.mem_singleton_self index)
          obtain ⟨hq, ha⟩ := argument?_eq_some_iff.mp hargument
          apply (exists_callerArgument_iff hargument).mpr
          rintro rfl
          apply admitted.optional index q hq ha
      | countOf first siblings =>
          apply exists_lowerSource_countOf_iff.mpr (admitted.counted first siblings hplan)
      | slot => exact ⟨.slot, rfl⟩
  · rename_i hlength
    constructor
    · rintro ⟨natives, h⟩
      cases h
    · intro admitted
      exact absurd admitted.length hlength

theorem supplies_of_lower (h : s.lower arguments = .ok natives) :
  List.Forall₂ (s.Supplies arguments) s.plan natives
  := by
  rw [lower, Outcome.mapError_eq_ok_iff, attempt] at h
  split at h
  · apply (Outcome.mapM_eq_ok_iff.mp h).imp
    intro source native
    apply supplies_of_lowerSource
  · cases h

/-- A count that is derived is the number of elements of each array that it is the length
of. -/
theorem countsElements_of_derivedCount {p : Parameter} {q : PublicParameter}
    (h : (ofParameters kind name ps).lower arguments = .ok natives) (hp : ps[i]? = some p)
    (hcount : natives[i]? = some (.derivedCount n))
    (hq : (ofParameters kind name ps).parameters[index]? = some q)
    (hlength : q.role.directLength? = some p.rawName) :
  (ofParameters kind name ps).CountsElements arguments index n
  := by
  obtain ⟨source, hsource, hsupplies⟩ :=
    Outcome.exists_of_getElem?_right (supplies_of_lower h) hcount
  cases hsupplies with
  | derived hall =>
      apply hall
      apply (mem_arrays_iff hp hsource).mpr
      use q

theorem ne_null_of_supplies (h : s.Supplies arguments source native) :
  native ≠ .value .null
  := by
  cases h with
  | value _ hnull =>
      intro heq
      exact hnull (NativeArgument.value.inj heq)
  | _ => nofun

theorem Refuses.exists_reason {e : Error} (h : s.Refuses arguments e) :
  ∃ reason, e = .argumentMismatch (s.publicName ++ " (" ++ s.kind.text ++ ")") reason
  := by
  cases h with
  | _ => exact ⟨_, rfl⟩

/-- Lowering succeeds exactly if the signature admits the call.  Then each source has given
the native argument that it stands for, so that a derived count is the number of elements of
all arrays that it is the length of, and no native argument is null as a value.  Whenever it
fails, the call is refused, for its arguments. -/
theorem lower_exact (kind : ShapeKind) (name : String) (ps : List Parameter)
    (arguments : List Json) :
  ((∃ natives, (ofParameters kind name ps).lower arguments = .ok natives)
      ↔ (ofParameters kind name ps).Admits arguments)
    ∧ (∀ natives, (ofParameters kind name ps).lower arguments = .ok natives →
      List.Forall₂ ((ofParameters kind name ps).Supplies arguments)
          (ofParameters kind name ps).plan natives
        ∧ (∀ (i index n : Nat) (p : Parameter) (q : PublicParameter), ps[i]? = some p →
          natives[i]? = some (.derivedCount n) →
          (ofParameters kind name ps).parameters[index]? = some q →
          q.role.directLength? = some p.rawName →
          (ofParameters kind name ps).CountsElements arguments index n)
        ∧ .value .null ∉ natives)
    ∧ ∀ e, (ofParameters kind name ps).lower arguments = .error e →
      (ofParameters kind name ps).Refuses arguments e
        ∧ ∃ reason, e = .argumentMismatch (name ++ " (" ++ kind.text ++ ")") reason
  := by
  refine ⟨exists_lower_iff, ?_, ?_⟩
  · intro natives h
    have supplied := supplies_of_lower h
    refine ⟨supplied, ?_, ?_⟩
    · intro i index n p q hp hcount hq hlength
      apply countsElements_of_derivedCount h hp hcount hq hlength
    · intro hmem
      obtain ⟨source, -, hsource⟩ := Outcome.exists_of_mem_right supplied hmem
      exact ne_null_of_supplies hsource rfl
  · intro e h
    have refused := refuses_of_lower h
    use refused
    apply refused.exists_reason

end NativeApi.CallShape
