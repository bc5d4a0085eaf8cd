import Mathlib.Data.Finset.Card
import Mathlib.Data.Nat.Find

/-!
# Chains

Where each item has at most one next one, following them from an item on either ends at an
item without a next one, or returns to an item that has been passed.  `Chain.walk` follows
them and remembers what it has not passed yet; the main statements are `walk_eq_some_iff`
and `walk_eq_none_iff`, which say that it finds the end exactly if there is one.  Where only
so many items have a next one, `Path.exists_le` reaches everything in as many steps.
-/

namespace NativeApi.Chain

variable {α : Type} {next : α → Option α}

/-! ### Paths -/

/-- The given number of steps leads from one item to another. -/
inductive Path (next : α → Option α) : Nat → α → α → Prop where
  | here (a : α) : Path next 0 a a
  | step {n : Nat} {a b c : α} : next a = some b → Path next n b c → Path next (n + 1) a c

theorem Path.trans {n m : Nat} {a b c : α} (h : Path next n a b) (h' : Path next m b c) :
  Path next (n + m) a c
  := by
  induction h with
  | here a =>
      rw [Nat.zero_add]
      exact h'
  | @step n a b _ hab _ ih =>
      rw [Nat.add_right_comm]
      apply Path.step hab (ih h')

/-- A path leads through an item after any number of its steps. -/
theorem Path.split {n m : Nat} {a b : α} (h : Path next (n + m) a b) :
  ∃ c, Path next n a c ∧ Path next m c b
  := by
  induction n generalizing a with
  | zero =>
      rw [Nat.zero_add] at h
      use a, .here a
  | succ n ih =>
      rw [Nat.add_right_comm] at h
      cases h with
      | step hstep rest =>
          obtain ⟨c, path, path'⟩ := ih rest
          use c, .step hstep path

/-- A path stays one where no step is lost. -/
theorem Path.mono {next' : α → Option α} (hnext : ∀ a b, next a = some b → next' a = some b)
    {n : Nat} {a b : α} (h : Path next n a b) :
  Path next' n a b
  := by
  induction h with
  | here a => apply Path.here
  | step hab _ ih => apply Path.step (hnext _ _ hab) ih

/-- The given number of steps leads to an item without a next one. -/
def EndsIn (next : α → Option α) (n : Nat) (a b : α) : Prop := Path next n a b ∧ next b = none

/-- The chain from one item on ends at another. -/
def Ends (next : α → Option α) (a b : α) : Prop := ∃ n, EndsIn next n a b

/-- The chain from an item on comes back to an item that it has passed. -/
def Returns (next : α → Option α) (a : α) : Prop :=
  ∃ b n m, Path next n a b ∧ Path next (m + 1) b b

/-- There is one end, and one number of steps to it. -/
theorem EndsIn.unique {n m : Nat} {a b c : α} (h : EndsIn next n a b) (h' : EndsIn next m a c) :
  n = m ∧ b = c
  := by
  obtain ⟨path, hend⟩ := h
  induction path generalizing m with
  | here a =>
      cases h'.1 with
      | here => exact ⟨rfl, rfl⟩
      | step hstep _ => rw [hend] at hstep; cases hstep
  | step hab _ ih =>
      obtain ⟨path', hend'⟩ := h'
      cases path' with
      | here => rw [hend'] at hab; cases hab
      | step hab' rest' =>
          obtain rfl := Option.some.inj (hab.symm.trans hab')
          obtain ⟨rfl, rfl⟩ := ih ⟨rest', hend'⟩ hend
          exact ⟨rfl, rfl⟩

theorem Ends.unique {a b c : α} (h : Ends next a b) (h' : Ends next a c) :
  b = c
  := by
  obtain ⟨n, hn⟩ := h
  obtain ⟨m, hm⟩ := h'
  apply (hn.unique hm).2

theorem Ends.next_eq_none {a b : α} (h : Ends next a b) :
  next b = none
  := by
  obtain ⟨_, _, hend⟩ := h
  exact hend

theorem ends_self {a : α} (h : next a = none) :
  Ends next a a
  := ⟨0, .here a, h⟩

theorem Ends.cons {a b c : α} (hab : next a = some b) (h : Ends next b c) :
  Ends next a c
  := by
  obtain ⟨n, path, hend⟩ := h
  use n + 1, .step hab path

/-- An item on the way has the same end, as many steps closer. -/
theorem EndsIn.of_path {n m : Nat} {a b c : α} (h : EndsIn next m a c) (path : Path next n a b) :
  ∃ k, n + k = m ∧ EndsIn next k b c
  := by
  induction path generalizing m with
  | here a => use m, Nat.zero_add m
  | @step n a b _ hab _ ih =>
      obtain ⟨path', hend⟩ := h
      cases path' with
      | here => rw [hend] at hab; cases hab
      | step hab' rest' =>
          obtain rfl := Option.some.inj (hab.symm.trans hab')
          obtain ⟨k, rfl, hk⟩ := ih ⟨rest', hend⟩
          use k, Nat.add_right_comm n 1 k

/-- A chain that ends does not return. -/
theorem Ends.not_returns {a b : α} (h : Ends next a b) :
  ¬Returns next a
  := by
  rintro ⟨c, n, m, path, loop⟩
  obtain ⟨k, hk⟩ := h
  obtain ⟨i, -, hi⟩ := hk.of_path path
  obtain ⟨j, hij, hj⟩ := hi.of_path loop
  have hsame := (hi.unique hj).1
  omega

/-! ### Short paths -/

section

variable {items : List α} (all : ∀ a, next a ≠ none → a ∈ items)
include all

/-- What a path passes before its end has a next item. -/
theorem Path.exists_mem {n i : Nat} {a b : α} (h : Path next n a b) (hi : i < n) :
  ∃ c ∈ items, Path next i a c ∧ Path next (n - i) c b
  := by
  obtain ⟨k, rfl⟩ : ∃ k, n = i + (k + 1) := ⟨n - i - 1, by omega⟩
  obtain ⟨c, path, path'⟩ := h.split
  rw [Nat.add_sub_cancel_left]
  refine ⟨c, ?_, path, path'⟩
  cases path' with
  | step hstep _ =>
      apply all
      simp [hstep]

/-- Whatever a chain reaches, it reaches in no more steps than there are items with a next
one. -/
theorem Path.exists_le {n : Nat} {a b : α} (h : Path next n a b) :
  ∃ m ≤ items.length, Path next m a b
  := by
  classical
  have : Nonempty α := ⟨a⟩
  have reached : ∃ m, Path next m a b := ⟨n, h⟩
  have shortest := Nat.find_spec reached
  have least (m : Nat) : Path next m a b → Nat.find reached ≤ m := Nat.find_min' reached
  generalize Nat.find reached = k at shortest least
  use k, Nat.le_of_not_lt ?_
  intro hlong
  choose! item hmem hto hfrom using fun i => shortest.exists_mem all (i := i)
  -- a shortest path passes no item twice, so it has no room for more steps
  have distinct (i j : Nat) (hij : i < j) (hj : j < k) : item i ≠ item j := by
    intro heq
    have path := hto i (Nat.lt_trans hij hj)
    rw [heq] at path
    have hle := least _ (path.trans (hfrom j hj))
    omega
  have hcard : items.toFinset.card < (Finset.range k).card := by
    rw [Finset.card_range]
    apply Nat.lt_of_le_of_lt items.toFinset_card_le hlong
  obtain ⟨i, hi, j, hj, hne, heq⟩ := Finset.exists_ne_map_eq_of_card_lt_of_maps_to hcard
    (f := item) (fun i hi => List.mem_toFinset.mpr (hmem i (Finset.mem_range.mp hi)))
  rcases Nat.lt_or_gt_of_ne hne with hij | hij
  · exact distinct i j hij (Finset.mem_range.mp hj) heq
  · exact distinct j i hij (Finset.mem_range.mp hi) heq.symm

end

/-! ### Following a chain -/

variable [DecidableEq α]

/-- Follows a chain from an item, where only the given ones have not been passed yet. -/
def walk (next : α → Option α) (fresh : List α) (a : α) : Option α :=
  match next a with
  | none => some a
  | some b => if a ∈ fresh then walk next (fresh.erase a) b else none
termination_by fresh.length
decreasing_by
  have := List.length_erase_of_mem ‹a ∈ fresh›
  have := List.length_pos_of_mem ‹a ∈ fresh›
  omega

theorem walk_of_none {a : α} (h : next a = none) (fresh : List α) :
  walk next fresh a = some a
  := by
  rw [walk, h]

theorem walk_of_some {a b : α} (h : next a = some b) (fresh : List α) :
  walk next fresh a = if a ∈ fresh then walk next (fresh.erase a) b else none
  := by
  rw [walk, h]

theorem ends_of_walk {fresh : List α} {a b : α} (h : walk next fresh a = some b) :
  Ends next a b
  := by
  fun_induction walk next fresh a with
  | case1 fresh a hend =>
      obtain rfl := Option.some.inj h
      apply ends_self hend
  | case2 fresh a c hac _ ih => apply (ih h).cons hac
  | case3 => cases h

/-- The end is found if all that leads to it in as many steps is fresh. -/
theorem walk_of_endsIn {n : Nat} {a b : α} (h : EndsIn next n a b) {fresh : List α}
    (hfresh : ∀ m c, m < n → EndsIn next (m + 1) c b → c ∈ fresh) :
  walk next fresh a = some b
  := by
  obtain ⟨path, hend⟩ := h
  induction path generalizing fresh with
  | here a => apply walk_of_none hend
  | @step n a c b hac rest ih =>
      have hmem : a ∈ fresh := hfresh n a (Nat.lt_succ_self n) ⟨.step hac rest, hend⟩
      rw [walk_of_some hac, if_pos hmem]
      apply ih _ hend
      intro m d hm hd
      -- an item with fewer steps to go is another one
      have hne : d ≠ a := by
        rintro rfl
        have := (hd.unique ⟨.step hac rest, hend⟩).1
        omega
      apply (List.mem_erase_of_ne hne).mpr
      apply hfresh m d (Nat.lt_succ_of_lt hm) hd

/-- Where the chain is given up, it has come back. -/
theorem returns_of_walk {fresh : List α} {a : α}
    (passed : ∀ c, c ∉ fresh → next c ≠ none → ∃ n, Path next (n + 1) c a)
    (h : walk next fresh a = none) :
  Returns next a
  := by
  fun_induction walk next fresh a with
  | case1 => cases h
  | case2 fresh a b hab _ ih =>
      have later : Returns next b := by
        apply ih _ h
        intro c hc hnext
        by_cases hca : c = a
        · subst hca
          use 0, .step hab (.here b)
        · obtain ⟨n, path⟩ := passed c (fun hmem => hc ((List.mem_erase_of_ne hca).mpr hmem)) hnext
          use n + 1, path.trans (.step hab (.here b))
      obtain ⟨c, n, m, path, loop⟩ := later
      use c, n + 1, m, .step hab path
  | case3 fresh a b hab hpassed =>
      obtain ⟨m, loop⟩ := passed a hpassed (by simp [hab])
      use a, 0, m, .here a

section

variable {fresh : List α} (all : ∀ a, next a ≠ none → a ∈ fresh)
include all

/-- With all items fresh that have a next one, the end is found exactly if there is one. -/
theorem walk_eq_some_iff {a b : α} :
  walk next fresh a = some b ↔ Ends next a b
  := by
  constructor
  · apply ends_of_walk
  · rintro ⟨n, hn⟩
    apply walk_of_endsIn hn
    rintro m c - ⟨path, -⟩
    cases path with
    | step hcd _ =>
        apply all
        simp [hcd]

theorem walk_eq_none_iff {a : α} :
  walk next fresh a = none ↔ Returns next a
  := by
  constructor
  · apply returns_of_walk
    intro c hc hnext
    exact absurd (all c hnext) hc
  · intro hreturns
    cases hwalk : walk next fresh a with
    | none => rfl
    | some b => exact absurd hreturns (ends_of_walk hwalk).not_returns

/-- A chain ends or returns. -/
theorem ends_or_returns (a : α) :
  (∃ b, Ends next a b) ∨ Returns next a
  := by
  cases hwalk : walk next fresh a with
  | some b => exact .inl ⟨b, (walk_eq_some_iff all).mp hwalk⟩
  | none => exact .inr ((walk_eq_none_iff all).mp hwalk)

/-- A chain returns exactly if all that it reaches has a next one. -/
theorem returns_iff {a : α} :
  Returns next a ↔ ∀ n b, Path next n a b → next b ≠ none
  := by
  constructor
  · intro hreturns n b path hend
    exact Ends.not_returns ⟨n, path, hend⟩ hreturns
  · intro h
    rcases ends_or_returns all a with ⟨b, n, path, hend⟩ | hreturns
    · exact absurd hend (h n b path)
    · exact hreturns

end

end NativeApi.Chain
