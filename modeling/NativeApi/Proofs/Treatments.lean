import NativeApi.Command.Parameter
import NativeApi.Proofs.AliasChains
import NativeApi.Proofs.MarshallingAnalysis

/-!
# Treatments and the analysis

How a value of a type crosses over to native code is read off the flags that the analysis of
marshalling sets, by another case analysis than that of the analysis itself.  Main statement:
once the analysis is done, both say the same of composites and of their members.
-/

namespace NativeApi.Registry

variable {r : Registry} {m : Member} {name : String}

/-! ### One member -/

/-- What a name stands for is no alias. -/
theorem isAlias_of_resolve {e : Entity} (h : r.resolve name = .ok e) :
  e.isAlias = false
  := by
  obtain ⟨id, ⟨start, -, hid⟩, he⟩ := resolve_eq_ok_iff.mp h
  obtain ⟨-, e', he', halias⟩ := resolveId_eq_ok_iff.mp hid
  obtain rfl := Option.some.inj (he.symm.trans he')
  exact halias

/-- Values of a type have to be marshalled as the type is treated, unless it is an alias. -/
theorem valueNeedsMarshalling_eq {e : Entity} (h : e.isAlias = false) :
  valueNeedsMarshalling e.kind
    = let t := Treatment.ofKind e.kind
      decide (t = .handle ∨ t = .incomplete ∨ t = .marshalledComposite)
  := by
  cases hkind : e.kind with
  | primitive width => cases hw : width.isValue <;> simp [valueNeedsMarshalling, Treatment.ofKind, hw]
  | handle _ => simp [valueNeedsMarshalling, Treatment.ofKind]
  | enumeration _ => simp [valueNeedsMarshalling, Treatment.ofKind]
  | composite c =>
      cases hc : c.needsMarshalling <;> simp [valueNeedsMarshalling, Treatment.ofKind, hc]
  | aliasOf target => exact (isAlias_eq_false_iff.mp h target hkind).elim

/-- A value or an inline array has to be marshalled as its type is treated, and cannot be
looked at where the type has no treatment. -/
theorem memberNeedsMarshalling_eq (hp : m.isPointer = false)
    (inline : ∀ length, m.arity ≠ .linkedArray length) :
  r.memberNeedsMarshalling m
    = (r.treatmentOf m.declaredType).map fun t =>
      decide (t = .handle ∨ t = .incomplete ∨ t = .marshalledComposite)
  := by
  rw [memberNeedsMarshalling, treatmentOf, hp]
  cases hresolve : r.resolve m.declaredType with
  | error problem => rfl
  | ok e =>
      simp only [Bool.false_eq_true, if_false, Except.map, Except.ok.injEq]
      rw [← valueNeedsMarshalling_eq (isAlias_of_resolve hresolve)]

/-- A member does not have to be marshalled exactly if it is neither a pointer nor an array of
linked length, and its type is treated as part of a flat value. -/
theorem memberNeedsMarshalling_eq_false_iff :
  r.memberNeedsMarshalling m = .ok false
    ↔ m.isPointer = false ∧ (∀ length, m.arity ≠ .linkedArray length)
      ∧ ∃ t, r.treatmentOf m.declaredType = .ok t ∧ (t = .value ∨ t = .flatComposite)
  := by
  cases hp : m.isPointer with
  | true => simp [memberNeedsMarshalling, hp]
  | false =>
      by_cases inline : ∀ length, m.arity ≠ .linkedArray length
      · rw [memberNeedsMarshalling_eq hp inline]
        cases r.treatmentOf m.declaredType with
        | error problem => simp [Except.map]
        | ok t => cases t <;> simp [Except.map, inline]
      · obtain ⟨length, hlength⟩ := not_forall_not.mp inline
        rw [memberNeedsMarshalling, hp, hlength]
        cases r.resolve m.declaredType <;> simp [Except.map]

/-! ### One composite -/

theorem anyNeedsMarshalling_eq_false_iff {members : List Member} :
  r.anyNeedsMarshalling members = .ok false
    ↔ ∀ m ∈ members, r.memberNeedsMarshalling m = .ok false
  := by
  induction members with
  | nil => simp [anyNeedsMarshalling]
  | cons m members ih =>
      rw [anyNeedsMarshalling, Outcome.bind_eq_ok_iff, List.forall_mem_cons, ← ih]
      constructor
      · rintro ⟨needs, hneeds, hrest⟩
        cases needs with
        | true => cases hrest
        | false => exact ⟨hneeds, hrest⟩
      · rintro ⟨hm, hrest⟩
        use false, hm, hrest

/-- Steps lead from a composite to a forced one exactly if it is forced, or contains one from
which steps do. -/
theorem exists_forcedPath_iff {id : Nat} :
  (∃ n, r.ForcedPath n id)
    ↔ r.IsForced id ∨ ∃ other, r.Contains id other ∧ ∃ n, r.ForcedPath n other
  := by
  constructor
  · rintro ⟨n, path⟩
    cases path with
    | here forced => exact .inl forced
    | @step n _ other contains path => exact .inr ⟨other, contains, n, path⟩
  · rintro (forced | ⟨other, contains, n, path⟩)
    · exact ⟨0, .here forced⟩
    · exact ⟨n + 1, .step contains path⟩

/-- The flags that the analysis leaves are those that one more pass would find. -/
theorem Marked.anyNeedsMarshalling_eq {settled : Registry}
    (h : Marked r (fun id => ∃ n, r.ForcedPath n id) settled) (resolves : r.MembersResolve)
    {id : Nat} {c : Composite} (hc : settled.compositeAt? id = some c) :
  settled.anyNeedsMarshalling c.members = .ok c.needsMarshalling
  := by
  obtain ⟨needs, hneeds, needs_iff⟩ := h.compositeNeedsMarshalling_iff resolves id
  rw [← exists_forcedPath_iff, ← h.flag_iff hc, ← Bool.eq_iff_iff] at needs_iff
  rw [compositeNeedsMarshalling, ← compositeAt?, hc, needs_iff] at hneeds
  exact hneeds

theorem treatmentOf_composite {e : Entity} {c : Composite} (he : r.resolve name = .ok e)
    (hkind : e.kind = .composite c) :
  r.treatmentOf name
    = .ok (if c.needsMarshalling then .marshalledComposite else .flatComposite)
  := by
  rw [treatmentOf, he, Except.map, hkind, Treatment.ofKind]

/-! ### All composites -/

/-- The flags of a registry and the treatments of its types say the same. -/
structure AgreesOnLayout (r : Registry) : Prop where
  /-- A composite is flat exactly if it holds nothing but values and inline arrays of types
  that are treated as parts of a flat value. -/
  flat_iff : ∀ name e c, r.resolve name = .ok e → e.kind = .composite c →
    (r.treatmentOf name = .ok .flatComposite
      ↔ ∀ m ∈ c.members, m.isPointer = false ∧ (∀ length, m.arity ≠ .linkedArray length)
        ∧ ∃ t, r.treatmentOf m.declaredType = .ok t ∧ (t = .value ∨ t = .flatComposite))
  /-- Any other composite is marshalled. -/
  marshalled_of_not_flat : ∀ name e c, r.resolve name = .ok e → e.kind = .composite c →
    r.treatmentOf name ≠ .ok .flatComposite → r.treatmentOf name = .ok .marshalledComposite
  /-- A value or an inline array has to be marshalled exactly if its type is a handle, has no
  values, or is a composite that is marshalled. -/
  memberNeedsMarshalling_eq : ∀ m, m.isPointer = false →
    (∀ length, m.arity ≠ .linkedArray length) →
    r.memberNeedsMarshalling m
      = (r.treatmentOf m.declaredType).map fun t =>
        decide (t = .handle ∨ t = .incomplete ∨ t = .marshalledComposite)
  /-- The types of all values and arrays in composites have a treatment. -/
  exists_treatmentOf : ∀ id c, r.compositeAt? id = some c → ∀ m ∈ c.members,
    m.isPointer = false → ∃ t, r.treatmentOf m.declaredType = .ok t

/-- The analysis and the treatments agree, whatever flags were set before. -/
theorem analyze_agreesOnLayout (r : Registry) (resolves : r.MembersResolve) :
  ∃ m settled, r.analyze = (.ok m, settled) ∧ settled.AgreesOnLayout
  := by
  obtain ⟨m, settled, hanalyze, marked⟩ := exists_analyze_marked resolves
  use m, settled, hanalyze
  constructor
  · intro name e c he hkind
    obtain ⟨id, -, hid⟩ := resolve_eq_ok_iff.mp he
    have hc : settled.compositeAt? id = some c := compositeAt?_eq_some_iff.mpr ⟨e, hid, hkind⟩
    have hany := marked.anyNeedsMarshalling_eq resolves hc
    simp only [← memberNeedsMarshalling_eq_false_iff, ← anyNeedsMarshalling_eq_false_iff, hany,
      treatmentOf_composite he hkind]
    cases c.needsMarshalling <;> simp
  · intro name e c he hkind hflat
    rw [treatmentOf_composite he hkind] at hflat ⊢
    cases hneeds : c.needsMarshalling with
    | true => rfl
    | false => simp [hneeds] at hflat
  · intro m hp inline
    apply memberNeedsMarshalling_eq hp inline
  · intro id c hc m hm hp
    obtain ⟨c', hc', hmembers⟩ := compositeAt?_of_unflagged_eq marked.unflagged_eq hc
    obtain ⟨e, he⟩ := (exists_resolve_congr marked.unflagged_eq).mpr
      (resolves id c' hc' m (hmembers ▸ hm) hp)
    use Treatment.ofKind e.kind
    rw [treatmentOf, he, Except.map]

theorem analyze_agreesOnLayout_nestedRegistry :
  nestedRegistry.MembersResolve
    ∧ ∃ m settled, nestedRegistry.analyze = (.ok m, settled) ∧ settled.AgreesOnLayout
  := by
  have resolves : nestedRegistry.MembersResolve := by decide +kernel
  use resolves
  apply analyze_agreesOnLayout nestedRegistry resolves

end NativeApi.Registry
