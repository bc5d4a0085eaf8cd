import Mathlib.Order.Bounds.Basic
import NativeApi.Proofs.Flags

/-!
# Containment of composites

A composite contains another one when one of its members holds it by value, directly or
through aliases.  A composite is *forced* when one of its members cannot be part of a
flat value by itself.  `Registry.ForcedPath n id` says that `n` steps of containment lead
from the composite at `id` to a forced one; neither notion looks at flags.
-/

namespace NativeApi.Registry

variable {r : Registry}

/-! ### Forced composites and containment -/

/-- A member cannot be part of a flat value: it is a pointer or an array of linked
length, or its type stands for a handle or for a primitive type without values. -/
def ForcesMarshalling (r : Registry) (m : Member) : Prop :=
  m.isPointer = true
    ∨ (∃ length, m.arity = .linkedArray length)
    ∨ ∃ id e, r.StandsFor m.declaredType id ∧ r.get? id = some e
        ∧ ((∃ handle, e.kind = .handle handle)
          ∨ e.kind = .primitive .void ∨ e.kind = .primitive .incomplete)

/-- The composite at a position has a member that cannot be part of a flat value. -/
def IsForced (r : Registry) (id : Nat) : Prop :=
  ∃ c, r.compositeAt? id = some c ∧ ∃ m ∈ c.members, r.ForcesMarshalling m

/-- A member is a value or an inline array of values of the composite at a position. -/
def HoldsByValue (r : Registry) (m : Member) (other : Nat) : Prop :=
  m.isPointer = false ∧ (∀ length, m.arity ≠ .linkedArray length)
    ∧ r.StandsFor m.declaredType other ∧ (r.compositeAt? other).isSome

/-- The composite at the first position holds the one at the second by value. -/
def Contains (r : Registry) (id other : Nat) : Prop :=
  ∃ c, r.compositeAt? id = some c ∧ ∃ m ∈ c.members, r.HoldsByValue m other

/-- From the composite at a position, the given number of steps of containment lead to a
forced one. -/
inductive ForcedPath (r : Registry) : Nat → Nat → Prop where
  | here {id : Nat} : r.IsForced id → ForcedPath r 0 id
  | step {n id other : Nat} : r.Contains id other → ForcedPath r n other → ForcedPath r (n + 1) id

/-- The composite at a position is as many steps of containment away from a forced one,
and not fewer. -/
def ForcedDistance (r : Registry) (id n : Nat) : Prop := IsLeast {k | r.ForcedPath k id} n

/-- The type of every member that is no pointer can be resolved. -/
def MembersResolve (r : Registry) : Prop :=
  ∀ id c, r.compositeAt? id = some c → ∀ m ∈ c.members, m.isPointer = false →
    ∃ e, r.resolve m.declaredType = .ok e

/-- Whether the type of every member that is no pointer can be resolved. -/
def resolvesMembers (r : Registry) : Bool :=
  r.entities.all fun e =>
    match e.composite? with
    | some c => c.members.all fun m => m.isPointer || (r.resolve m.declaredType).toOption.isSome
    | none => true

theorem resolvesMembers_iff :
  r.resolvesMembers = true ↔ r.MembersResolve
  := by
  rw [resolvesMembers, List.all_eq_true]
  constructor
  · intro h id c hc m hm hp
    obtain ⟨e, he, hk⟩ := compositeAt?_eq_some_iff.mp hc
    have := h e (List.mem_of_getElem? he)
    rw [Entity.composite?_eq_some_iff.mpr hk] at this
    have := List.all_eq_true.mp this m hm
    rw [hp, Bool.false_or] at this
    apply Outcome.isSome_toOption_iff.mp this
  · intro h e he
    cases hc : e.composite? with
    | none => rfl
    | some c =>
        obtain ⟨id, hid⟩ := List.mem_iff_getElem?.mp he
        have hat := compositeAt?_eq_some_iff.mpr ⟨e, hid, Entity.composite?_eq_some_iff.mp hc⟩
        apply List.all_eq_true.mpr
        intro m hm
        cases hp : m.isPointer with
        | true => rfl
        | false => exact Outcome.isSome_toOption_iff.mpr (h id c hat m hm hp)

instance : Decidable r.MembersResolve := decidable_of_iff _ resolvesMembers_iff

/-! ### Paths of bounded length -/

/-- Only composites are on paths. -/
theorem ForcedPath.isSome {n id : Nat} (path : r.ForcedPath n id) :
  (r.compositeAt? id).isSome
  := by
  cases path with
  | here forced =>
      obtain ⟨c, hc, -⟩ := forced
      simp [hc]
  | step contains _ =>
      obtain ⟨c, hc, -⟩ := contains
      simp [hc]

/-- From the composite at a position, fewer than `k` steps of containment lead to a forced
one. -/
def ForcedBefore (r : Registry) (k id : Nat) : Prop := ∃ n < k, r.ForcedPath n id

theorem not_forcedBefore_zero {id : Nat} :
  ¬ r.ForcedBefore 0 id
  := by
  rintro ⟨n, hn, -⟩
  apply Nat.not_lt_zero n hn

theorem ForcedBefore.isSome {k id : Nat} (h : r.ForcedBefore k id) :
  (r.compositeAt? id).isSome
  := by
  obtain ⟨n, -, path⟩ := h
  apply path.isSome

theorem ForcedBefore.mono {k l id : Nat} (h : r.ForcedBefore k id) (hkl : k ≤ l) :
  r.ForcedBefore l id
  := by
  obtain ⟨n, hn, path⟩ := h
  use n, Nat.lt_of_lt_of_le hn hkl

/-- One more step: a composite is forced itself or contains one from which a shorter path
leads on. -/
theorem forcedBefore_succ_iff {k id : Nat} :
  r.ForcedBefore (k + 1) id
    ↔ r.IsForced id ∨ ∃ other, r.Contains id other ∧ r.ForcedBefore k other
  := by
  constructor
  · rintro ⟨n, hn, path⟩
    cases path with
    | here forced => exact .inl forced
    | @step n _ other contains path =>
        right
        use other, contains, n, by omega
  · rintro (forced | ⟨other, contains, n, hn, path⟩)
    · use 0, by omega, .here forced
    · use n + 1, by omega, .step contains path

/-- If paths of at most `k` steps lead no further than those of fewer, longer ones do not
either. -/
theorem ForcedPath.before_of_stable {k n id : Nat}
    (stable : ∀ id, r.ForcedBefore (k + 1) id → r.ForcedBefore k id) (path : r.ForcedPath n id) :
  r.ForcedBefore k id
  := by
  induction path with
  | here forced =>
      apply stable
      apply forcedBefore_succ_iff.mpr (.inl forced)
  | @step n id other contains _ ih =>
      apply stable
      apply forcedBefore_succ_iff.mpr (.inr ⟨other, contains, ih⟩)

/-- What holds of forced composites, and of all that contain one of which it holds, holds
where a path begins. -/
theorem ForcedPath.of_closed {P : Nat → Prop} (forced : ∀ id, r.IsForced id → P id)
    (contains : ∀ id other, r.Contains id other → P other → P id) {n id : Nat}
    (path : r.ForcedPath n id) :
  P id
  := by
  induction path with
  | here h => apply forced _ h
  | step h _ ih => apply contains _ _ h ih

/-! ### Distances -/

/-- A composite that paths of at most `n` steps reach and shorter ones do not is `n` steps
away. -/
theorem forcedDistance_iff {id n : Nat} :
  r.ForcedDistance id n ↔ r.ForcedBefore (n + 1) id ∧ ¬ r.ForcedBefore n id
  := by
  constructor
  · rintro ⟨path, least⟩
    constructor
    · use n, by omega, path
    · rintro ⟨m, hm, shorter⟩
      have := least shorter
      omega
  · rintro ⟨⟨m, hm, path⟩, none⟩
    have least : ∀ l, r.ForcedPath l id → n ≤ l := by
      intro l shorter
      by_contra hl
      apply none
      use l, by omega, shorter
    obtain rfl : m = n := by
      have := least m path
      omega
    exact ⟨path, least⟩

end NativeApi.Registry
