import NativeApi.Proofs.BoundArguments

/-!
# Simplified calls

The simplified signature of a command leaves out the counts that can be derived.  Main
statement: a call of it is the call of the raw signature with these counts put in, and
the other way round where the counts of a raw call are those of its arrays.
-/

namespace NativeApi

/-- A native argument as the raw signature passes it, with a derived count as a value. -/
def NativeArgument.explicit : NativeArgument → NativeArgument
  | .derivedCount count => .value (.nat count)
  | native => native

namespace CallShape

variable {kind : ShapeKind} {name : String} {ps : List Parameter} {p : Parameter}
  {arguments : List Json} {natives : List NativeArgument}

theorem nat_inj {n m : Nat} (h : Json.nat n = .nat m) :
  n = m
  := by
  simp only [Json.nat, Json.int, Json.number.injEq, Number.integer.injEq] at h
  apply Int.ofNat.inj h

/-! ### Calls of one signature as calls of the other -/

/-- The arguments for the raw signature: those for the simplified one, and the number that
was derived for each count that only the simplified one hides. -/
def withCounts : List Parameter → List NativeArgument → List Json → List Json
  | p :: ps, native :: natives, arguments =>
    if isHidden .raw p then withCounts ps natives arguments
    else if isHidden .simplified p then
      match native with
      | .derivedCount count => .nat count :: withCounts ps natives arguments
      | _ => withCounts ps natives arguments
    else arguments.take 1 ++ withCounts ps natives arguments.tail
  | _, _, arguments => arguments

/-- The arguments for the simplified signature: those for the raw one, without the counts
that only the simplified one hides. -/
def withoutCounts : List Parameter → List Json → List Json
  | [], arguments => arguments
  | p :: ps, arguments =>
    if isHidden .raw p then withoutCounts ps arguments
    else if isHidden .simplified p then withoutCounts ps arguments.tail
    else arguments.take 1 ++ withoutCounts ps arguments.tail

/-- Each count that only the simplified signature hides is given as the number of elements
of each input array that it is the length of. -/
def CountsAgree (ps : List Parameter) (arguments : List Json) : Prop :=
  ∀ p a, (p, some a) ∈ bound .raw ps arguments → IsDerived p →
    ∀ q b, (q, some b) ∈ bound .raw ps arguments → q.role = .inputArray (.parameter p.rawName) →
      ∃ n, a = .nat n ∧ elements? q b = some n

/-- A pair of the raw signature as one of the simplified one. -/
def hideDerived (pair : Parameter × Option Json) : Parameter × Option Json :=
  (pair.1, if isHidden .simplified pair.1 then none else pair.2)

/-- Without the counts, each parameter keeps its argument unless the simplified signature
hides it. -/
theorem bound_withoutCounts (h : arguments.length = (visible .raw ps).length) :
  bound .simplified ps (withoutCounts ps arguments) = (bound .raw ps arguments).map hideDerived
    ∧ (withoutCounts ps arguments).length = (visible .simplified ps).length
  := by
  induction ps generalizing arguments with
  | nil =>
      cases arguments with
      | nil => exact ⟨rfl, rfl⟩
      | cons _ _ => cases h
  | cons p ps ih =>
      cases hraw : isHidden .raw p with
      | true =>
          have hsimplified := isHidden_simplified hraw
          rw [visible_cons_of_hidden hraw] at h
          obtain ⟨hbound, hlength⟩ := ih h
          rw [visible_cons_of_hidden hsimplified]
          constructor
          · simp [bound, withoutCounts, hraw, hsimplified, hbound, hideDerived]
          · simpa [withoutCounts, hraw] using hlength
      | false =>
          rw [visible_cons_of_not_hidden hraw] at h
          obtain ⟨a, arguments, rfl⟩ := List.exists_cons_of_length_eq_add_one h
          obtain ⟨hbound, hlength⟩ := ih (Nat.succ.inj h)
          cases hsimplified : isHidden .simplified p with
          | true =>
              rw [visible_cons_of_hidden hsimplified]
              constructor
              · simp [bound, withoutCounts, hraw, hsimplified, hbound, hideDerived]
              · simpa [withoutCounts, hraw, hsimplified] using hlength
          | false =>
              rw [visible_cons_of_not_hidden hsimplified]
              constructor
              · simp [bound, withoutCounts, hraw, hsimplified, hbound, hideDerived]
              · simpa [withoutCounts, hraw, hsimplified] using hlength

/-- Each count that only the simplified signature hides is derived. -/
def CountsDerived (ps : List Parameter) (natives : List NativeArgument) : Prop :=
  List.Forall₂ (fun p native => IsDerived p → ∃ n, native = .derivedCount n) ps natives

/-- With the counts put in, leaving them out gives back the arguments, and the counts that
were put in are those that were derived. -/
theorem withoutCounts_withCounts (h : arguments.length = (visible .simplified ps).length)
    (derived : CountsDerived ps natives) :
  withoutCounts ps (withCounts ps natives arguments) = arguments
    ∧ (withCounts ps natives arguments).length = (visible .raw ps).length
    ∧ List.Forall₂
        (fun pair native => IsDerived pair.1 → ∃ n, native = .derivedCount n ∧ pair.2 = some (.nat n))
        (bound .raw ps (withCounts ps natives arguments)) natives
  := by
  induction derived generalizing arguments with
  | nil =>
      cases arguments with
      | nil => exact ⟨rfl, rfl, .nil⟩
      | cons _ _ => cases h
  | @cons p native ps natives hp _ ih =>
      cases hraw : isHidden .raw p with
      | true =>
          rw [visible_cons_of_hidden (isHidden_simplified hraw)] at h
          obtain ⟨hwithout, hlength, hcounts⟩ := ih h
          have hnot : ¬ IsDerived p := by simp [IsDerived, hraw]
          rw [visible_cons_of_hidden hraw]
          refine ⟨?_, ?_, ?_⟩
          · simpa [withoutCounts, withCounts, hraw] using hwithout
          · simpa [withCounts, hraw] using hlength
          · simpa [withCounts, bound, hraw, hnot] using hcounts
      | false =>
          rw [visible_cons_of_not_hidden hraw]
          cases hsimplified : isHidden .simplified p with
          | true =>
              rw [visible_cons_of_hidden hsimplified] at h
              obtain ⟨hwithout, hlength, hcounts⟩ := ih h
              obtain ⟨n, rfl⟩ := hp ⟨hsimplified, hraw⟩
              refine ⟨?_, ?_, ?_⟩
              · simpa [withoutCounts, withCounts, hraw, hsimplified] using hwithout
              · simpa [withCounts, hraw, hsimplified] using hlength
              · simpa [withCounts, bound, hraw, hsimplified] using hcounts
          | false =>
              rw [visible_cons_of_not_hidden hsimplified] at h
              obtain ⟨a, arguments, rfl⟩ := List.exists_cons_of_length_eq_add_one h
              obtain ⟨hwithout, hlength, hcounts⟩ := ih (Nat.succ.inj h)
              have hnot : ¬ IsDerived p := by simp [IsDerived, hsimplified]
              refine ⟨?_, ?_, ?_⟩
              · simpa [withoutCounts, withCounts, hraw, hsimplified] using hwithout
              · simpa [withCounts, hraw, hsimplified] using hlength
              · simpa [withCounts, bound, hraw, hsimplified, hnot] using hcounts

/-! ### One native argument -/

/-- What a command may give a result through is written by it. -/
def OutputsWritten (ps : List Parameter) : Prop :=
  ∀ p ∈ ps, p.role.isOutput = true → p.isWritten = true

/-- Every derivable count that a command does not write is the length of an input array. -/
def DerivedCounted (ps : List Parameter) : Prop :=
  ∀ p ∈ ps, ∀ array, p.role = .count array true → p.isWritten = false →
    ∃ q ∈ ps, q.role = .inputArray (.parameter p.rawName)

theorem DerivedCounted.exists_array (counted : DerivedCounted ps) (hmem : p ∈ ps)
    (derived : IsDerived p) :
  ∃ q ∈ ps, q.role = .inputArray (.parameter p.rawName)
  := by
  obtain ⟨⟨array, hrole⟩, hwritten⟩ := isDerived_iff.mp derived
  apply counted p hmem array hrole hwritten

theorem mem_map_hideDerived {pairs : List (Parameter × Option Json)} {a : Json} :
  (p, some a) ∈ pairs.map hideDerived ↔ (p, some a) ∈ pairs ∧ isHidden .simplified p = false
  := by
  rw [List.mem_map]
  constructor
  · rintro ⟨⟨q, b⟩, hmem, h⟩
    simp only [hideDerived, Prod.mk.injEq] at h
    obtain ⟨rfl, h⟩ := h
    cases hidden : isHidden .simplified q with
    | true => simp [hidden] at h
    | false =>
        simp only [hidden, Bool.false_eq_true, if_false] at h
        use h ▸ hmem
  · rintro ⟨hmem, hidden⟩
    use (p, some a), hmem
    simp [hideDerived, hidden]

/-- A hidden count that is the length of an input array is derived. -/
theorem Lowers.exists_derivedCount {pairs : List (Parameter × Option Json)} {q : Parameter}
    {a : Json} {native : NativeArgument} (hwritten : p.isWritten = false)
    (hq : (q, some a) ∈ pairs) (harray : q.role = .inputArray (.parameter p.rawName))
    (h : Lowers pairs p none native) :
  ∃ n, native = .derivedCount n
  := by
  have hdirect : q.role.directLength? = some p.rawName := by
    rw [harray]
    rfl
  cases h with
  | written h => simp [hwritten] at h
  | uncounted _ hnone => exact (hnone q a hq hdirect).elim
  | counted _ _ _ => exact ⟨_, rfl⟩

/-- What the caller gives is lowered alike whatever the other arguments are. -/
theorem Lowers.of_caller {pairs others : List (Parameter × Option Json)} {a : Json}
    {native : NativeArgument} (h : Lowers pairs p (some a) native) :
  Lowers others p (some a) native ∧ native.explicit = native
  := by
  cases h with
  | absent hoptional => exact ⟨.absent hoptional, rfl⟩
  | value hnull => exact ⟨.value hnull, rfl⟩

/-- What the simplified signature passes, the raw one passes too, with the count as a
value. -/
theorem Lowers.explicit {pairs : List (Parameter × Option Json)} {a : Option Json}
    {native : NativeArgument} (hwritten : isHidden .raw p = true → p.isWritten = true)
    (hidden : isHidden .raw p = a.isNone)
    (hcount : IsDerived p → ∃ n, native = .derivedCount n ∧ a = some (.nat n))
    (h : Lowers (pairs.map hideDerived) p (hideDerived (p, a)).2 native) :
  Lowers pairs p a native.explicit
  := by
  cases hraw : isHidden .raw p with
  | true =>
      obtain rfl := Option.isNone_iff_eq_none.mp (hidden.symm.trans hraw)
      simp only [hideDerived, isHidden_simplified hraw, if_true] at h
      obtain rfl := (lowers_written_iff (hwritten hraw)).mp h
      exact .written (hwritten hraw)
  | false =>
      rw [hraw] at hidden
      obtain ⟨v, rfl⟩ := Option.isSome_iff_exists.mp (Option.isNone_eq_false_iff.mp hidden.symm)
      cases hsimplified : isHidden .simplified p with
      | true =>
          obtain ⟨n, rfl, hv⟩ := hcount ⟨hsimplified, hraw⟩
          obtain rfl := Option.some.inj hv
          apply Lowers.value
          simp [Json.nat, Json.int]
      | false =>
          simp only [hideDerived, hsimplified, Bool.false_eq_true, if_false] at h
          obtain ⟨hlowers, heq⟩ := h.of_caller
          rw [heq]
          exact hlowers

/-- A count that is the number of elements of its arrays is derived from them. -/
theorem CountsAgree.exists_lowers (agree : CountsAgree ps arguments)
    (hlength : arguments.length = (visible .raw ps).length) (counted : DerivedCounted ps)
    {a : Json} (hmem : (p, some a) ∈ bound .raw ps arguments) (derived : IsDerived p) :
  ∃ n, a = .nat n
    ∧ Lowers ((bound .raw ps arguments).map hideDerived) p none (.derivedCount n)
  := by
  obtain ⟨q, hq, harray⟩ := counted.exists_array (mem_of_mem_bound hmem) derived
  obtain ⟨b, hb⟩ := exists_mem_bound hlength hq (isHidden_inputArray harray)
  obtain ⟨n, rfl, hn⟩ := agree p a hmem derived q b hb harray
  use n, rfl
  apply Lowers.counted (isDerived_iff.mp derived).2
  · use q, b, mem_map_hideDerived.mpr ⟨hb, isHidden_inputArray harray⟩
    rw [harray]
    rfl
  · intro q' b' hb' hdirect
    obtain ⟨hb', hvisible⟩ := mem_map_hideDerived.mp hb'
    obtain ⟨m, hm, hcount⟩ :=
      agree p _ hmem derived q' b' hb' (role_of_directLength hvisible hdirect)
    rw [nat_inj hm]
    exact hcount

/-- What the raw signature passes, the simplified one passes too, where a count is the
number of elements of its arrays. -/
theorem Lowers.exists_explicit_eq {a : Option Json} {native : NativeArgument}
    (hlength : arguments.length = (visible .raw ps).length) (outputs : OutputsWritten ps)
    (counted : DerivedCounted ps) (agree : CountsAgree ps arguments)
    (hmem : (p, a) ∈ bound .raw ps arguments)
    (h : Lowers (bound .raw ps arguments) p a native) :
  ∃ native', Lowers ((bound .raw ps arguments).map hideDerived) p (hideDerived (p, a)).2 native'
    ∧ native'.explicit = native
  := by
  have hidden := isHidden_of_mem_bound hlength hmem
  cases hraw : isHidden .raw p with
  | true =>
      obtain rfl := Option.isNone_iff_eq_none.mp (hidden.symm.trans hraw)
      have hwritten := isWritten_of_isHidden_raw (outputs p (mem_of_mem_bound hmem)) hraw
      obtain rfl := (lowers_written_iff hwritten).mp h
      use .slot
      simp only [hideDerived, isHidden_simplified hraw, if_true]
      use .written hwritten
      rfl
  | false =>
      rw [hraw] at hidden
      obtain ⟨v, rfl⟩ := Option.isSome_iff_exists.mp (Option.isNone_eq_false_iff.mp hidden.symm)
      cases hsimplified : isHidden .simplified p with
      | true =>
          obtain ⟨n, rfl, hlowers⟩ := agree.exists_lowers hlength counted hmem ⟨hsimplified, hraw⟩
          use .derivedCount n
          simp only [hideDerived, hsimplified, if_true]
          use hlowers
          cases h with
          | value _ => rfl
      | false =>
          use native
          simp only [hideDerived, hsimplified, Bool.false_eq_true, if_false]
          apply h.of_caller

/-! ### Whole calls -/

/-- A call of the simplified signature derives every count that only this one hides. -/
theorem countsDerived_of_lower (counted : DerivedCounted ps)
    (h : (ofParameters .simplified name ps).lower arguments = .ok natives) :
  CountsDerived ps natives
  := by
  obtain ⟨hlength, hlower⟩ := lower_eq_ok_iff.mp h
  rw [CountsDerived, ← map_fst_bound .simplified ps arguments,
    List.forall₂_map_left_iff]
  apply (Outcome.forall₂_mem_left hlower).imp
  rintro ⟨p, a⟩ native ⟨hmem, hnative⟩ derived
  obtain ⟨q, hq, harray⟩ := counted.exists_array (mem_of_mem_bound hmem) derived
  obtain ⟨b, hb⟩ := exists_mem_bound hlength hq (isHidden_inputArray harray)
  have hidden := isHidden_of_mem_bound hlength hmem
  rw [derived.1] at hidden
  obtain rfl := Option.isNone_iff_eq_none.mp hidden.symm
  apply Lowers.exists_derivedCount (isDerived_iff.mp derived).2 hb harray hnative

theorem lower_withCounts (outputs : OutputsWritten ps) (counted : DerivedCounted ps)
    (h : (ofParameters .simplified name ps).lower arguments = .ok natives) :
  (ofParameters .raw name ps).lower (withCounts ps natives arguments)
    = .ok (natives.map NativeArgument.explicit)
  := by
  obtain ⟨hlength, hlower⟩ := lower_eq_ok_iff.mp h
  obtain ⟨hwithout, hraw, hcounts⟩ :=
    withoutCounts_withCounts hlength (countsDerived_of_lower counted h)
  obtain ⟨hbound, -⟩ := bound_withoutCounts hraw
  rw [hwithout] at hbound
  rw [hbound, List.forall₂_map_left_iff] at hlower
  apply lower_eq_ok_iff.mpr
  use hraw
  rw [List.forall₂_map_right_iff]
  apply (hcounts.mp · (Outcome.forall₂_mem_left hlower))
  rintro ⟨p, a⟩ native hcount ⟨hmem, hnative⟩
  apply hnative.explicit
  · apply isWritten_of_isHidden_raw (outputs p (mem_of_mem_bound hmem))
  · apply isHidden_of_mem_bound hraw hmem
  · apply hcount

theorem lower_withoutCounts (outputs : OutputsWritten ps) (counted : DerivedCounted ps)
    (h : (ofParameters .raw name ps).lower arguments = .ok natives)
    (agree : CountsAgree ps arguments) :
  ∃ natives',
    (ofParameters .simplified name ps).lower (withoutCounts ps arguments) = .ok natives'
      ∧ natives'.map NativeArgument.explicit = natives
  := by
  obtain ⟨hlength, hlower⟩ := lower_eq_ok_iff.mp h
  obtain ⟨hbound, hsimplified⟩ := bound_withoutCounts hlength
  obtain ⟨natives', hlower', hmap⟩ := Outcome.exists_forall₂_map_eq
    (S := fun pair native' => Lowers ((bound .raw ps arguments).map hideDerived) pair.1
      (hideDerived pair).2 native')
    (fun pair hmem native hnative =>
      Lowers.exists_explicit_eq hlength outputs counted agree hmem hnative) hlower
  use natives'
  refine ⟨?_, hmap⟩
  apply lower_eq_ok_iff.mpr
  use hsimplified
  rw [hbound, List.forall₂_map_left_iff]
  exact hlower'

/-- The simplified signature refines the raw one: a call of it is the call of the raw one
with the derived counts put in, and a call of the raw one whose counts are those of its
arrays is the call of the simplified one without them. -/
theorem simplified_refines_raw (name : String) (ps : List Parameter) (outputs : OutputsWritten ps)
    (counted : DerivedCounted ps) :
  (∀ arguments natives,
      (ofParameters .simplified name ps).lower arguments = .ok natives →
      (ofParameters .raw name ps).lower (withCounts ps natives arguments)
        = .ok (natives.map NativeArgument.explicit))
    ∧ ∀ arguments natives,
      (ofParameters .raw name ps).lower arguments = .ok natives → CountsAgree ps arguments →
      ∃ natives',
        (ofParameters .simplified name ps).lower (withoutCounts ps arguments) = .ok natives'
          ∧ natives'.map NativeArgument.explicit = natives
  := by
  constructor
  · intro arguments natives h
    apply lower_withCounts outputs counted h
  · intro arguments natives h agree
    apply lower_withoutCounts outputs counted h agree

/-- A parameter of a type of numbers, or a pointer to such. -/
def numberParameter (rawName : String) (isPointer isConst : Bool) (role : Role) : Parameter where
  name := rawName
  rawName
  declaredType := "u32"
  rawType := "uint32_t"
  isPointer
  isConst
  isDoublePointer := false
  optional := false
  length := none
  fixedLength := none
  treatment := .value
  role

/-- Two arrays that share a count, and an output. -/
def sharedCount : List Parameter := [
  numberParameter "submitCount" false false (.count "pSubmits" true),
  numberParameter "pSubmits" true true (.inputArray (.parameter "submitCount")),
  numberParameter "pWaits" true true (.inputArray (.parameter "submitCount")),
  numberParameter "pResult" true false .output]

theorem simplified_refines_raw_sharedCount :
  OutputsWritten sharedCount ∧ DerivedCounted sharedCount
    ∧ (∀ arguments natives,
        (ofParameters .simplified "Submit" sharedCount).lower arguments = .ok natives →
        (ofParameters .raw "Submit" sharedCount).lower (withCounts sharedCount natives arguments)
          = .ok (natives.map NativeArgument.explicit))
    ∧ ∀ arguments natives,
      (ofParameters .raw "Submit" sharedCount).lower arguments = .ok natives →
      CountsAgree sharedCount arguments →
      ∃ natives',
        (ofParameters .simplified "Submit" sharedCount).lower
            (withoutCounts sharedCount arguments) = .ok natives'
          ∧ natives'.map NativeArgument.explicit = natives
  := by
  have outputs : OutputsWritten sharedCount := by
    simp [OutputsWritten, sharedCount, numberParameter, Role.isOutput, Parameter.isWritten]
  have counted : DerivedCounted sharedCount := by
    simp [DerivedCounted, sharedCount, numberParameter]
  use outputs, counted
  apply simplified_refines_raw "Submit" sharedCount outputs counted

/-- A derivable count that is a pointer to a constant, and the length of no array. -/
def pointedCount : List Parameter := [
  numberParameter "pCount" true true (.count "pData" true)]

/-- It does not do that only the counts passed by value are lengths of input arrays: a
pointer to a constant count without an array is left to a slot by the simplified
signature, and asked for by the raw one. -/
theorem pointedCount_not_refined :
  (pointedCount.map (·.rawName)).Nodup ∧ OutputsWritten pointedCount
    ∧ (∀ p ∈ pointedCount, ∀ array, p.role = .count array true → p.isPointer = false →
        ∃ q ∈ pointedCount, q.role = .inputArray (.parameter p.rawName))
    ∧ (ofParameters .simplified "Submit" pointedCount).lower [] = .ok [.slot]
    ∧ ∀ natives,
        (ofParameters .raw "Submit" pointedCount).lower (withCounts pointedCount [.slot] [])
          ≠ .ok natives
  := by
  refine ⟨by decide, ?_, ?_, rfl, ?_⟩
  · simp [OutputsWritten, pointedCount, numberParameter, Role.isOutput]
  · simp [pointedCount, numberParameter]
  · intro natives h
    have hlength := (lower_eq_ok_iff.mp h).1
    exact absurd hlength (by decide)

end CallShape

end NativeApi
