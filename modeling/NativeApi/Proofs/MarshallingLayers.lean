import NativeApi.Proofs.Containment

/-!
# Layers of the analysis

The analysis of marshalling finds the composites that are not flat layer by layer: pass
`k`, counted from zero, finds those from which at most `k` steps of containment lead to a
forced composite.
-/

namespace NativeApi.Registry

variable {r r' : Registry} {marked : Nat → Prop}

/-- The second registry differs from the first in flags alone, and its flags are set at
the marked positions. -/
structure Marked (r : Registry) (marked : Nat → Prop) (r' : Registry) : Prop where
  unflagged_eq : r'.unflagged = r.unflagged
  flag_iff {id : Nat} {c : Composite} :
    r'.compositeAt? id = some c → (c.needsMarshalling = true ↔ marked id)

/-! ### One member -/

/-- Entities that differ in their flags alone are composites both, or of the same kind. -/
theorem kind_of_unflaggedEntity_eq {e e' : Entity} (h : unflaggedEntity e' = unflaggedEntity e) :
  (∃ c c', e.kind = .composite c ∧ e'.kind = .composite c')
    ∨ (∀ c, e.kind ≠ .composite c) ∧ e'.kind = e.kind
  := by
  have hkind : withFlag false e'.kind = withFlag false e.kind := congrArg Entity.kind h
  cases hk : e.kind with
  | composite c =>
      rw [hk] at hkind
      obtain ⟨c', hc', -⟩ := withFlag_eq_composite_iff.mp hkind
      exact .inl ⟨c, c', rfl, hc'⟩
  | primitive _ => cases hk' : e'.kind <;> simp_all [withFlag]
  | handle _ => cases hk' : e'.kind <;> simp_all [withFlag]
  | enumeration _ => cases hk' : e'.kind <;> simp_all [withFlag]
  | aliasOf _ => cases hk' : e'.kind <;> simp_all [withFlag]

theorem Marked.valueNeedsMarshalling_iff (h : Marked r marked r') {id : Nat} {e e' : Entity}
    (he : r.get? id = some e) (he' : r'.get? id = some e') :
  valueNeedsMarshalling e'.kind = true
    ↔ ((∃ handle, e.kind = .handle handle)
        ∨ e.kind = .primitive .void ∨ e.kind = .primitive .incomplete)
      ∨ (r.compositeAt? id).isSome ∧ marked id
  := by
  obtain ⟨e₀, he₀, heq⟩ := get?_of_unflagged_eq h.unflagged_eq he'
  rw [he] at he₀
  obtain rfl := Option.some.inj he₀
  rcases kind_of_unflaggedEntity_eq heq with ⟨c, c', hc, hc'⟩ | ⟨hne, hkind⟩
  · have hmarked := h.flag_iff (compositeAt?_eq_some_iff.mpr ⟨e', he', hc'⟩)
    have hsome : r.compositeAt? id = some c := compositeAt?_eq_some_iff.mpr ⟨e, he, hc⟩
    simp [hc, hc', hsome, valueNeedsMarshalling, hmarked]
  · have hnone : r.compositeAt? id = none := by
      apply Option.eq_none_iff_forall_ne_some.mpr
      intro c hc
      obtain ⟨e₁, he₁, hk⟩ := compositeAt?_eq_some_iff.mp hc
      rw [he] at he₁
      obtain rfl := Option.some.inj he₁
      apply hne c hk
    rw [hkind, hnone]
    cases hk : e.kind with
    | primitive width => cases width <;> simp [valueNeedsMarshalling, Width.isValue]
    | handle _ => simp [valueNeedsMarshalling]
    | enumeration _ => simp [valueNeedsMarshalling]
    | composite c => exact (hne c hk).elim
    | aliasOf _ => simp [valueNeedsMarshalling]

/-- A member has to be marshalled if it forces that, or holds a marked composite by
value. -/
theorem Marked.memberNeedsMarshalling_iff (h : Marked r marked r') {m : Member}
    (resolves : m.isPointer = false → ∃ e, r.resolve m.declaredType = .ok e) :
  ∃ needs, r'.memberNeedsMarshalling m = .ok needs
    ∧ (needs = true
      ↔ r.ForcesMarshalling m ∨ ∃ other, r.HoldsByValue m other ∧ marked other)
  := by
  rw [memberNeedsMarshalling]
  by_cases hp : m.isPointer = true
  · use true
    simp [hp, ForcesMarshalling]
  · obtain ⟨e, he⟩ := resolves (Bool.eq_false_iff.mpr hp)
    obtain ⟨id, hid, he⟩ := resolve_eq_ok_iff.mp he
    obtain ⟨e', he', -⟩ := get?_of_unflagged_eq h.unflagged_eq.symm he
    have hresolve : r'.resolve m.declaredType = .ok e' :=
      resolve_eq_ok_iff.mpr ⟨id, (standsFor_congr h.unflagged_eq).mpr hid, he'⟩
    have hvalue := h.valueNeedsMarshalling_iff he he'
    have standsFor_iff (other : Nat) : r.StandsFor m.declaredType other ↔ other = id := by
      constructor
      · intro hother
        apply hother.unique hid
      · rintro rfl
        exact hid
    simp only [hp, hresolve, Except.map, ForcesMarshalling, HoldsByValue, standsFor_iff]
    cases m.arity with
    | linkedArray length => simp
    | scalar => simp [hvalue, he]
    | fixedArray length => simp [hvalue, he]

/-! ### One composite -/

theorem Marked.anyNeedsMarshalling_iff (h : Marked r marked r') {members : List Member}
    (resolves : ∀ m ∈ members, m.isPointer = false → ∃ e, r.resolve m.declaredType = .ok e) :
  ∃ needs, r'.anyNeedsMarshalling members = .ok needs
    ∧ (needs = true
      ↔ ∃ m ∈ members, r.ForcesMarshalling m ∨ ∃ other, r.HoldsByValue m other ∧ marked other)
  := by
  induction members with
  | nil =>
      use false, rfl
      simp
  | cons m members ih =>
      obtain ⟨first, hfirst, first_iff⟩ :=
        h.memberNeedsMarshalling_iff (resolves m List.mem_cons_self)
      obtain ⟨rest, hrest, rest_iff⟩ :=
        ih fun m hm => resolves m (List.mem_cons_of_mem _ hm)
      use first || rest
      constructor
      · rw [anyNeedsMarshalling, hfirst]
        cases first with
        | true => rfl
        | false => exact hrest
      · rw [Bool.or_eq_true, first_iff, rest_iff, List.exists_mem_cons_iff]

/-- A composite has to be marshalled if it is forced, or contains a marked one. -/
theorem Marked.compositeNeedsMarshalling_iff (h : Marked r marked r')
    (resolves : r.MembersResolve) (id : Nat) :
  ∃ needs, r'.compositeNeedsMarshalling id = .ok needs
    ∧ (needs = true ↔ r.IsForced id ∨ ∃ other, r.Contains id other ∧ marked other)
  := by
  have hat : (r'.get? id).bind Entity.composite? = r'.compositeAt? id := rfl
  rw [compositeNeedsMarshalling, hat]
  cases hc' : r'.compositeAt? id with
  | none =>
      have hnone : ∀ c, r.compositeAt? id ≠ some c := by
        intro c hc
        obtain ⟨c', hc, -⟩ := compositeAt?_of_unflagged_eq h.unflagged_eq.symm hc
        rw [hc'] at hc
        cases hc
      use false, rfl
      simp [IsForced, Contains, hnone]
  | some c' =>
      obtain ⟨c, hc, hmembers⟩ := compositeAt?_of_unflagged_eq h.unflagged_eq hc'
      obtain ⟨needs, hneeds, needs_iff⟩ := h.anyNeedsMarshalling_iff (resolves id c hc)
      use needs
      constructor
      · rw [← hneeds, ← hmembers]
      · simp only [needs_iff, IsForced, Contains, hc, Option.some.injEq, exists_eq_left']
        grind

/-! ### One pass -/

theorem mem_compositeIds {id : Nat} :
  id ∈ r.compositeIds ↔ (r.compositeAt? id).isSome
  := by
  rw [compositeIds, List.mem_filter, List.mem_range, compositeAt?]
  constructor
  · rintro ⟨-, h⟩
    exact h
  · intro h
    use (List.getElem?_eq_some_iff.mp (Option.some_get (Option.isSome_of_isSome_bind h)).symm).1

/-- A pass over registries that are marked succeeds; what it finds is forced or contains
something marked. -/
theorem Marked.marshallingPass_eq (h : Marked r marked r') (resolves : r.MembersResolve)
    (ids : List Nat) :
  ∃ found : Nat → Bool, r'.marshallingPass ids = .ok (ids.map fun id => (id, found id))
    ∧ ∀ id, found id = true ↔ r.IsForced id ∨ ∃ other, r.Contains id other ∧ marked other
  := by
  choose found hfound found_iff using h.compositeNeedsMarshalling_iff resolves
  use found
  constructor
  · apply Outcome.mapM_eq_ok_map
    intro id _
    rw [hfound]
    rfl
  · exact found_iff

/-- Setting the flags of all composites to what a pass found marks what it found. -/
theorem Marked.setFlags (h : Marked r marked r') {found : Nat → Bool} {marked' : Nat → Prop}
    (found_iff : ∀ id, found id = true ↔ marked' id) :
  Marked r marked' (r'.setFlags (r.compositeIds.map fun id => (id, found id)))
  := by
  constructor
  · rw [unflagged_setFlags, h.unflagged_eq]
  · intro id c hc
    rw [compositeAt?_setFlags, Option.map_eq_some_iff] at hc
    obtain ⟨c', hc', rfl⟩ := hc
    obtain ⟨c₀, hc₀, -⟩ := compositeAt?_of_unflagged_eq h.unflagged_eq hc'
    have hid : id ∈ r.compositeIds := mem_compositeIds.mpr (by simp [hc₀])
    simp [hid, flagged, found_iff]

theorem flatIds_map (ids : List Nat) (found : Nat → Bool) :
  flatIds (ids.map fun id => (id, found id)) = ids.filter fun id => !found id
  := by
  rw [flatIds, List.filter_map, List.map_map]
  apply List.map_id

theorem mem_marshalledNames {ids : List Nat} {found : Nat → Bool} {name : String} :
  name ∈ r.marshalledNames (ids.map fun id => (id, found id))
    ↔ ∃ id ∈ ids, found id = true ∧ r.nameOf id = name
  := by
  simp only [marshalledNames, NameSet.mem_ofList, List.mem_map, List.mem_filter]
  grind

/-! ### All passes -/

/-- The names are those of the composites from which fewer than `k` steps lead to a forced
one. -/
def IsLayer (r : Registry) (k : Nat) (names : NameSet) : Prop :=
  ∀ name, name ∈ names ↔ ∃ id e, r.get? id = some e ∧ e.name = name ∧ r.ForcedBefore k id

/-- What the passes from pass `k` on find, up to the first that finds nothing new. -/
inductive Layers (r : Registry) : Nat → List NameSet → Prop where
  | last {k : Nat} {names : NameSet} : r.IsLayer (k + 1) names →
      (∀ id, r.ForcedBefore (k + 1) id → r.ForcedBefore k id) → Layers r k [names]
  | more {k : Nat} {names : NameSet} {later : List NameSet} : r.IsLayer (k + 1) names →
      (∃ id, r.ForcedDistance id k) → Layers r (k + 1) later → Layers r k (names :: later)

theorem isLayer_marshalledNames (same : r'.unflagged = r.unflagged) {found : Nat → Bool} {k : Nat}
    (found_iff : ∀ id, found id = true ↔ r.ForcedBefore k id) :
  r.IsLayer k (r'.marshalledNames (r.compositeIds.map fun id => (id, found id)))
  := by
  intro name
  rw [mem_marshalledNames]
  constructor
  · rintro ⟨id, hid, hfound, hname⟩
    obtain ⟨c, hc⟩ := Option.isSome_iff_exists.mp (mem_compositeIds.mp hid)
    obtain ⟨e, he, -⟩ := compositeAt?_eq_some_iff.mp hc
    use id, e, he
    constructor
    · rw [← hname, nameOf_congr same, nameOf, he]
    · apply (found_iff id).mp hfound
  · rintro ⟨id, e, he, hname, before⟩
    use id, mem_compositeIds.mpr before.isSome
    constructor
    · apply (found_iff id).mpr before
    · rw [nameOf_congr same, nameOf, he]
      exact hname

/-- A filter that keeps no more than another one keeps fewer items exactly when it drops
one that the other keeps. -/
theorem length_filter_lt_iff {ids : List Nat} {f g : Nat → Bool}
    (mono : ∀ id, f id = true → g id = true) :
  (ids.filter fun id => !g id).length < (ids.filter fun id => !f id).length
    ↔ ∃ id ∈ ids, g id = true ∧ f id = false
  := by
  have hfilter : (ids.filter fun id => !g id)
      = (ids.filter fun id => !f id).filter fun id => !g id := by
    rw [List.filter_filter]
    apply List.filter_congr
    intro id _
    cases hf : f id with
    | false => simp
    | true => simp [mono id hf]
  rw [hfilter, List.length_filter_lt_length_iff_exists]
  simp only [List.mem_filter, Bool.not_eq_true']
  grind

/-- The passes from pass `k` on, where the composites that the passes before it found are
marked. -/
theorem settle_layers (resolves : r.MembersResolve) {k : Nat} {f : Nat → Bool}
    (h : Marked r (r.ForcedBefore k) r') (f_iff : ∀ id, f id = true ↔ r.ForcedBefore k id) :
  ∃ passes settled,
    settle r.compositeIds r' (r.compositeIds.filter fun id => !f id) = (.ok passes, settled)
      ∧ r.Layers k passes ∧ Marked r (fun id => ∃ n, r.ForcedPath n id) settled
  := by
  -- the composites that are still flat get fewer from pass to pass
  induction hlength : (r.compositeIds.filter fun id => !f id).length using Nat.strong_induction_on
    generalizing k f r' with
  | _ length ih =>
      obtain ⟨found, hpass, found_iff⟩ := h.marshallingPass_eq resolves r.compositeIds
      replace found_iff : ∀ id, found id = true ↔ r.ForcedBefore (k + 1) id := by
        intro id
        rw [found_iff, forcedBefore_succ_iff]
      have mono : ∀ id, f id = true → found id = true := by
        intro id hid
        apply (found_iff id).mpr
        apply ((f_iff id).mp hid).mono (Nat.le_succ k)
      have layer := isLayer_marshalledNames h.unflagged_eq found_iff
      rw [settle, hpass]
      simp only [flatIds_map]
      by_cases shrinks : (r.compositeIds.filter fun id => !found id).length
          < (r.compositeIds.filter fun id => !f id).length
      · rw [if_pos shrinks]
        obtain ⟨id, -, hfound, hf⟩ := (length_filter_lt_iff mono).mp shrinks
        have fresh : r.ForcedDistance id k := by
          apply forcedDistance_iff.mpr
          use (found_iff id).mp hfound
          rw [← f_iff, hf]
          exact Bool.false_ne_true
        obtain ⟨later, settled, hsettle, layers, hmarked⟩ :=
          ih _ (hlength ▸ shrinks) (h.setFlags found_iff) found_iff rfl
        rw [hsettle]
        exact ⟨_, settled, rfl, .more layer ⟨id, fresh⟩ layers, hmarked⟩
      · rw [if_neg shrinks]
        have stable : ∀ id, r.ForcedBefore (k + 1) id → r.ForcedBefore k id := by
          intro id before
          by_contra hold
          apply shrinks
          apply (length_filter_lt_iff mono).mpr
          use id, mem_compositeIds.mpr before.isSome, (found_iff id).mpr before
          rw [← f_iff] at hold
          apply Bool.eq_false_iff.mpr hold
        refine ⟨_, _, rfl, .last layer stable, ?_⟩
        apply h.setFlags
        intro id
        rw [found_iff]
        constructor
        · rintro ⟨n, -, path⟩
          use n, path
        · rintro ⟨n, path⟩
          apply (path.before_of_stable stable).mono (Nat.le_succ k)

namespace Layers

theorem isLayer {k j : Nat} {passes : List NameSet} {names : NameSet}
    (layers : r.Layers k passes) (h : passes[j]? = some names) :
  r.IsLayer (k + j + 1) names
  := by
  induction layers generalizing j with
  | last layer _ =>
      obtain ⟨rfl, rfl⟩ : j = 0 ∧ _ = names := by
        cases j with
        | zero => simpa using h
        | succ j => simp at h
      exact layer
  | @more k _ _ layer _ _ ih =>
      cases j with
      | zero =>
          obtain rfl : _ = names := by simpa using h
          exact layer
      | succ j =>
          rw [show k + (j + 1) + 1 = k + 1 + j + 1 by omega]
          apply ih h

/-- All passes but the last find something that is as far away as the pass counts, and
nothing is farther away than the last pass. -/
theorem length_eq {k : Nat} {passes : List NameSet} (layers : r.Layers k passes) :
  ∃ d, passes.length = d + 1 ∧ (∀ j < d, ∃ id, r.ForcedDistance id (k + j))
    ∧ ∀ id, r.ForcedBefore (k + d + 1) id → r.ForcedBefore (k + d) id
  := by
  induction layers with
  | last _ stable =>
      use 0, rfl
      simpa using stable
  | @more k _ _ _ fresh _ ih =>
      obtain ⟨d, hlength, farther, stable⟩ := ih
      use d + 1
      refine ⟨by simp [hlength], ?_, ?_⟩
      · intro j hj
        cases j with
        | zero => exact fresh
        | succ j =>
            rw [show k + (j + 1) = k + 1 + j by omega]
            apply farther j (by omega)
      · rw [show k + (d + 1) = k + 1 + d by omega]
        exact stable

end Layers

end NativeApi.Registry
