import NativeApi.Proofs.MarshallingLayers

/-!
# The analysis of marshalling

Main statement: where the types of members can be resolved, the analysis succeeds, its
passes are the layers of composites by their distance to a forced one, and the flags that
it leaves are the least set that holds all forced composites and all that contain a member
of it.
-/

namespace NativeApi.Registry

variable {r : Registry}

/-- What the analysis of a registry says, and the registry that it leaves. -/
structure IsAnalysis (r : Registry) (m : Marshalling) (settled : Registry) : Prop where
  /-- Pass `k` finds the composites from which at most `k` steps lead to a forced one. -/
  mem_pass_iff : ∀ k names, m.passes[k]? = some names → ∀ name,
    name ∈ names ↔ ∃ id e, r.get? id = some e ∧ e.name = name ∧ ∃ n ≤ k, r.ForcedPath n id
  /-- The flags are set from which any number of steps leads to a forced composite. -/
  flag_iff : ∀ id c, settled.compositeAt? id = some c →
    (c.needsMarshalling = true ↔ ∃ n, r.ForcedPath n id)
  /-- Whatever holds of forced composites, and of all that contain one of which it holds,
  holds where flags are set. -/
  least : ∀ P : Nat → Prop, (∀ id, r.IsForced id → P id) →
    (∀ id other, r.Contains id other → P other → P id) →
    ∀ id c, settled.compositeAt? id = some c → c.needsMarshalling = true → P id
  passCount_of_flat : (∀ id, ¬ r.IsForced id) → m.passCount = 1
  passCount_of_forced : (∃ id, r.IsForced id) →
    ∃ d, IsGreatest {n | ∃ id, r.ForcedDistance id n} d ∧ m.passCount = d + 2
  /-- Nothing but flags changes. -/
  unflagged_eq : settled.unflagged = r.unflagged

/-! ### The number of passes -/

theorem isForced_iff_forcedBefore_one {id : Nat} :
  r.IsForced id ↔ r.ForcedBefore 1 id
  := by
  rw [forcedBefore_succ_iff]
  simp [not_forcedBefore_zero]

theorem Layers.length_of_flat {passes : List NameSet} (layers : r.Layers 0 passes)
    (flat : ∀ id, ¬ r.IsForced id) :
  passes.length = 1
  := by
  obtain ⟨d, hlength, farther, -⟩ := layers.length_eq
  cases d with
  | zero => exact hlength
  | succ d =>
      obtain ⟨id, distance⟩ := farther 0 (Nat.succ_pos d)
      have forced := (forcedDistance_iff.mp distance).1
      apply (flat id (isForced_iff_forcedBefore_one.mpr forced)).elim

theorem Layers.length_of_forced {passes : List NameSet} (layers : r.Layers 0 passes)
    (forced : ∃ id, r.IsForced id) :
  ∃ d, IsGreatest {n | ∃ id, r.ForcedDistance id n} d ∧ passes.length = d + 2
  := by
  obtain ⟨d, hlength, farther, stable⟩ := layers.length_eq
  simp only [Nat.zero_add] at farther stable
  cases d with
  | zero =>
      obtain ⟨id, forced⟩ := forced
      have := stable id (isForced_iff_forcedBefore_one.mp forced)
      apply (not_forcedBefore_zero this).elim
  | succ d =>
      use d
      refine ⟨⟨farther d (Nat.lt_succ_self d), ?_⟩, hlength⟩
      rintro n ⟨id, path, least⟩
      obtain ⟨m, hm, shorter⟩ := path.before_of_stable stable
      have := least shorter
      omega

/-! ### The analysis -/

/-- Clearing all flags marks nothing. -/
theorem marked_setFlags_false (r : Registry) :
  Marked r (r.ForcedBefore 0) (r.setFlags (r.compositeIds.map fun id => (id, false)))
  := by
  have self : Marked r (fun id => ∃ c, r.compositeAt? id = some c ∧ c.needsMarshalling = true) r := by
    constructor
    · rfl
    · intro id c hc
      simp [hc]
  apply self.setFlags
  intro id
  simp [not_forcedBefore_zero]

/-- The analysis sets the flags of the composites from which steps lead to a forced one. -/
theorem exists_analyze_marked (resolves : r.MembersResolve) :
  ∃ m settled, r.analyze = (.ok m, settled) ∧ Marked r (fun id => ∃ n, r.ForcedPath n id) settled
  := by
  obtain ⟨passes, settled, hsettle, -, marked⟩ :=
    settle_layers (f := fun _ => false) resolves (marked_setFlags_false r)
      (fun id => by simp [not_forcedBefore_zero])
  simp only [Bool.not_false, List.filter_true] at hsettle
  use ⟨passes⟩, settled
  constructor
  · rw [analyze]
    simp only [hsettle]
    rfl
  · exact marked

/-- The analysis finds the composites layer by layer, and sets the least flags. -/
theorem analyze_exact (r : Registry) (resolves : r.MembersResolve) :
  ∃ m settled, r.analyze = (.ok m, settled) ∧ r.IsAnalysis m settled
  := by
  obtain ⟨passes, settled, hsettle, layers, marked⟩ :=
    settle_layers (f := fun _ => false) resolves (marked_setFlags_false r)
      (fun id => by simp [not_forcedBefore_zero])
  simp only [Bool.not_false, List.filter_true] at hsettle
  use ⟨passes⟩, settled
  constructor
  · rw [analyze]
    simp only [hsettle]
    rfl
  · constructor
    · intro k names h name
      rw [layers.isLayer h name]
      simp only [ForcedBefore, Nat.zero_add, Nat.lt_add_one_iff]
    · intro id c hc
      apply marked.flag_iff hc
    · intro P forced contains id c hc hflag
      obtain ⟨n, path⟩ := (marked.flag_iff hc).mp hflag
      apply path.of_closed forced contains
    · apply layers.length_of_flat
    · apply layers.length_of_forced
    · apply marked.unflagged_eq

/-- A member that is a value of the type of a name, or an inline array of such values. -/
def inlineMember (type : String) (arity : Arity) : Member where
  name := "value"
  rawName := "value"
  declaredType := type
  rawType := type
  isPointer := false
  isConstPointer := false
  isDoublePointer := false
  optional := false
  arity
  counter := none
  values := none

/-- A composite that holds another one with a handle in it, through an alias, and a
composite that holds itself; the flags of all composites are set. -/
def nestedRegistry : Registry where
  entities :=
    let holding (member : Member) : Entity.Kind :=
      .composite { Composite.shell .struct with members := [member], needsMarshalling := true }
    [⟨"Fence", "Fence", .handle ⟨false, none, []⟩⟩,
      ⟨"Leaf", "Leaf", holding (inlineMember "Fence" .scalar)⟩,
      ⟨"LeafAlias", "LeafAlias", .aliasOf "Leaf"⟩,
      ⟨"Top", "Top", holding (inlineMember "LeafAlias" (.fixedArray (.literal 4)))⟩,
      ⟨"Ring", "Ring", holding (inlineMember "Ring" .scalar)⟩]
  rawIds := .empty
  constants := .empty
  platforms := []

theorem analyze_nestedRegistry :
  nestedRegistry.MembersResolve
    ∧ ∃ m settled, nestedRegistry.analyze = (.ok m, settled)
      ∧ nestedRegistry.IsAnalysis m settled
  := by
  have resolves : nestedRegistry.MembersResolve := by decide +kernel
  use resolves
  apply analyze_exact nestedRegistry resolves

end NativeApi.Registry
