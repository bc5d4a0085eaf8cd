import Mathlib.Data.List.Forall2

/-!
# Outcomes that succeed

When a computation that may fail succeeds, taken apart along the ways it is put together:
one step after the other, a step for each item of a list with a result, a step for each
item without one, and a step for each item that goes on from the state of the one before.
-/

namespace NativeApi.Outcome

variable {ε α β γ : Type}

/-- A step after another one succeeds exactly when both do. -/
theorem bind_eq_ok_iff {x : Except ε α} {f : α → Except ε β} {b : β} :
  x >>= f = .ok b ↔ ∃ a, x = .ok a ∧ f a = .ok b
  := by
  cases x with
  | error e => simp [bind, Except.bind]
  | ok a => simp [bind, Except.bind]

theorem pure_eq_ok_iff {a b : α} :
  (pure a : Except ε α) = .ok b ↔ a = b
  := by
  simp [pure, Except.pure]

theorem isSome_toOption_iff {x : Except ε α} :
  x.toOption.isSome = true ↔ ∃ a, x = .ok a
  := by
  cases x with
  | error e => simp [Except.toOption]
  | ok a => simp [Except.toOption]

theorem toOption_eq_some_iff {x : Except ε α} {a : α} :
  x.toOption = some a ↔ x = .ok a
  := by
  cases x with
  | error e => simp [Except.toOption]
  | ok a => simp [Except.toOption]

theorem toOption_join_eq_some_iff {x : Except ε (Option α)} {a : α} :
  x.toOption.join = some a ↔ x = .ok (some a)
  := by
  cases x with
  | error e => simp [Except.toOption]
  | ok a => simp [Except.toOption]

/-- Items that are related belong to the first list. -/
theorem forall₂_mem_left {R : α → β → Prop} {as : List α} {bs : List β}
    (h : List.Forall₂ R as bs) :
  List.Forall₂ (fun a b => a ∈ as ∧ R a b) as bs
  := by
  apply (List.forall₂_and_left (p := fun a => a ∈ as) as bs).mpr
  use fun a ha => ha

/-- What belongs to the second list is related to an item of the first. -/
theorem exists_of_mem_right {R : α → β → Prop} {as : List α} {bs : List β}
    (h : List.Forall₂ R as bs) {b : β} (hb : b ∈ bs) :
  ∃ a ∈ as, R a b
  := by
  induction h with
  | nil => cases hb
  | @cons a b' as bs hab _ ih =>
      rcases List.mem_cons.mp hb with rfl | hb
      · use a, List.mem_cons_self
      · obtain ⟨a', ha', hab'⟩ := ih hb
        use a', List.mem_cons_of_mem _ ha'

/-- What is at a position of the second list is related to the item there in the first. -/
theorem exists_of_getElem?_right {R : α → β → Prop} {as : List α} {bs : List β}
    (h : List.Forall₂ R as bs) {i : Nat} {b : β} (hb : bs[i]? = some b) :
  ∃ a, as[i]? = some a ∧ R a b
  := by
  induction h generalizing i with
  | nil => cases hb
  | @cons a b' as bs hab _ ih =>
      cases i with
      | zero =>
          obtain rfl := Option.some.inj hb
          use a, rfl
      | succ i => apply ih hb

/-- Lists are related item by item alike by relations that agree on the items of the
first. -/
theorem forall₂_congr_of_mem {R S : α → β → Prop} {as : List α} {bs : List β}
    (h : ∀ a ∈ as, ∀ b, R a b ↔ S a b) :
  List.Forall₂ R as bs ↔ List.Forall₂ S as bs
  := by
  constructor
  · intro hR
    apply (forall₂_mem_left hR).imp
    rintro a b ⟨ha, hab⟩
    apply (h a ha b).mp hab
  · intro hS
    apply (forall₂_mem_left hS).imp
    rintro a b ⟨ha, hab⟩
    apply (h a ha b).mpr hab

theorem forall₂_trans {R : α → α → Prop} (trans : ∀ a b c, R a b → R b c → R a c)
    {as bs cs : List α} (h : List.Forall₂ R as bs) (h' : List.Forall₂ R bs cs) :
  List.Forall₂ R as cs
  := by
  induction h generalizing cs with
  | nil => exact h'
  | cons hab _ ih =>
      cases h' with
      | cons hbc hrest => exact .cons (trans _ _ _ hab hbc) (ih hrest)

/-- If each related item has a preimage that another relation relates, then so has the
whole list. -/
theorem exists_forall₂_map_eq {R : α → β → Prop} {S : α → γ → Prop} {f : γ → β} {as : List α}
    {bs : List β} (h : ∀ a ∈ as, ∀ b, R a b → ∃ c, S a c ∧ f c = b) (hR : List.Forall₂ R as bs) :
  ∃ cs, List.Forall₂ S as cs ∧ cs.map f = bs
  := by
  induction hR with
  | nil => exact ⟨[], .nil, rfl⟩
  | @cons a b as bs hab _ ih =>
      obtain ⟨c, hac, hc⟩ := h a List.mem_cons_self b hab
      obtain ⟨cs, hcs, hmap⟩ := ih fun a ha => h a (List.mem_cons_of_mem _ ha)
      use c :: cs, .cons hac hcs
      rw [List.map_cons, hc, hmap]

/-- A step for each item succeeds exactly when all do, and then with their results in the
same order. -/
theorem mapM_eq_ok_iff {f : α → Except ε β} {as : List α} {bs : List β} :
  as.mapM f = .ok bs ↔ List.Forall₂ (fun a b => f a = .ok b) as bs
  := by
  induction as generalizing bs with
  | nil =>
      rw [List.mapM_nil, pure_eq_ok_iff, List.forall₂_nil_left_iff, eq_comm]
  | cons a as ih =>
      rw [List.mapM_cons, bind_eq_ok_iff, List.forall₂_cons_left_iff]
      constructor
      · rintro ⟨b, hb, h⟩
        obtain ⟨rest, hrest, h⟩ := bind_eq_ok_iff.mp h
        obtain rfl := pure_eq_ok_iff.mp h
        use b, rest, hb, ih.mp hrest
      · rintro ⟨b, rest, hb, hrest, rfl⟩
        use b, hb
        apply bind_eq_ok_iff.mpr
        use rest, ih.mpr hrest
        rfl

/-- If each step has the result that `g` says, then so do all. -/
theorem mapM_eq_ok_map {f : α → Except ε β} {g : α → β} {as : List α}
    (h : ∀ a ∈ as, f a = .ok (g a)) :
  as.mapM f = .ok (as.map g)
  := by
  apply mapM_eq_ok_iff.mpr
  rw [List.forall₂_map_right_iff, List.forall₂_same]
  apply h

/-- Steps with the same outcome one by one have the same outcome together. -/
theorem mapM_congr_of_forall₂ {f : α → Except ε β} {g : γ → Except ε β} {as : List α}
    {cs : List γ} (h : List.Forall₂ (fun a c => f a = g c) as cs) :
  as.mapM f = cs.mapM g
  := by
  induction h with
  | nil => rfl
  | cons hac _ ih => rw [List.mapM_cons, hac, ih, List.mapM_cons]

/-- The results of all steps are those of the steps. -/
theorem mem_of_mapM_eq_ok {f : α → Except ε β} {as : List α} {bs : List β}
    (h : as.mapM f = .ok bs) {b : β} :
  b ∈ bs ↔ ∃ a ∈ as, f a = .ok b
  := by
  have related := mapM_eq_ok_iff.mp h
  constructor
  · apply exists_of_mem_right related
  · rintro ⟨a, ha, hab⟩
    obtain ⟨b', hb', hab'⟩ := exists_of_mem_right related.flip ha
    obtain rfl := Except.ok.inj (hab'.symm.trans hab)
    exact hb'

/-- There is a result for each item exactly when there is one for all. -/
theorem exists_mapM_eq_ok_iff {f : α → Except ε β} {as : List α} :
  (∃ bs, as.mapM f = .ok bs) ↔ ∀ a ∈ as, ∃ b, f a = .ok b
  := by
  induction as with
  | nil => simp [pure_eq_ok_iff]
  | cons a as ih =>
      rw [List.forall_mem_cons, ← ih]
      constructor
      · rintro ⟨bs, h⟩
        rw [List.mapM_cons] at h
        obtain ⟨b, hb, h⟩ := bind_eq_ok_iff.mp h
        obtain ⟨rest, hrest, -⟩ := bind_eq_ok_iff.mp h
        exact ⟨⟨b, hb⟩, rest, hrest⟩
      · rintro ⟨⟨b, hb⟩, rest, hrest⟩
        use b :: rest
        rw [List.mapM_cons, hb, hrest]
        rfl

theorem forM_eq_ok_iff {f : α → Except ε Unit} {as : List α} :
  as.forM f = .ok () ↔ ∀ a ∈ as, f a = .ok ()
  := by
  induction as with
  | nil => simp [pure, Except.pure]
  | cons a as ih =>
      change f a >>= (fun _ => as.forM f) = .ok () ↔ _
      rw [bind_eq_ok_iff, List.forall_mem_cons, ← ih]
      constructor
      · rintro ⟨_, ha, h⟩
        use ha, h
      · rintro ⟨ha, h⟩
        use (), ha, h

/-! ### Failures -/

/-- A step after another one fails exactly when either does. -/
theorem bind_eq_error_iff {x : Except ε α} {f : α → Except ε β} {e : ε} :
  x >>= f = .error e ↔ x = .error e ∨ ∃ a, x = .ok a ∧ f a = .error e
  := by
  cases x with
  | error e' => simp [bind, Except.bind]
  | ok a => simp [bind, Except.bind]

theorem map_eq_error_iff {x : Except ε α} {f : α → β} {e : ε} :
  x.map f = .error e ↔ x = .error e
  := by
  cases x <;> simp [Except.map]

/-- Another name for failures does not change what succeeds. -/
theorem mapError_eq_ok_iff {ε' : Type} {x : Except ε α} {f : ε → ε'} {a : α} :
  x.mapError f = .ok a ↔ x = .ok a
  := by
  cases x <;> simp [Except.mapError]

theorem mapError_eq_error_iff {ε' : Type} {x : Except ε α} {f : ε → ε'} {e' : ε'} :
  x.mapError f = .error e' ↔ ∃ e, x = .error e ∧ f e = e'
  := by
  cases x <;> simp [Except.mapError]

/-- A step for each item fails as the first of the steps that does. -/
theorem mapM_eq_error_iff {f : α → Except ε β} {as : List α} {e : ε} :
  as.mapM f = .error e
    ↔ ∃ before a after, as = before ++ a :: after
      ∧ (∀ earlier ∈ before, ∀ e', f earlier ≠ .error e') ∧ f a = .error e
  := by
  induction as with
  | nil => simp [pure, Except.pure]
  | cons first as ih =>
      rw [List.mapM_cons, bind_eq_error_iff]
      constructor
      · rintro (hfirst | ⟨b, hfirst, h⟩)
        · use [], first, as, rfl, by simp
        · rcases bind_eq_error_iff.mp h with hrest | ⟨rest, -, h⟩
          · obtain ⟨before, a, after, rfl, hbefore, ha⟩ := ih.mp hrest
            use first :: before, a, after, rfl
            refine ⟨List.forall_mem_cons.mpr ⟨?_, hbefore⟩, ha⟩
            simp [hfirst]
          · cases h
      · rintro ⟨before, a, after, has, hbefore, ha⟩
        cases before with
        | nil =>
            obtain ⟨rfl, -⟩ := List.cons.inj has
            exact .inl ha
        | cons earlier before =>
            obtain ⟨rfl, rfl⟩ := List.cons.inj has
            obtain ⟨hfirst, hbefore⟩ := List.forall_mem_cons.mp hbefore
            right
            cases hb : f first with
            | error e' => exact (hfirst e' hb).elim
            | ok b =>
                use b, rfl
                apply bind_eq_error_iff.mpr
                exact .inl (ih.mpr ⟨before, a, after, rfl, hbefore, ha⟩)

/-- Where a step for each item fails, it is the step of some item that does. -/
theorem exists_of_mapM_eq_error {f : α → Except ε β} {as : List α} {e : ε}
    (h : as.mapM f = .error e) :
  ∃ a ∈ as, f a = .error e
  := by
  obtain ⟨before, a, after, rfl, -, ha⟩ := mapM_eq_error_iff.mp h
  use a, by simp

theorem exists_of_forM_eq_error {f : α → Except ε Unit} {as : List α} {e : ε}
    (h : as.forM f = .error e) :
  ∃ a ∈ as, f a = .error e
  := by
  induction as with
  | nil => cases h
  | cons a as ih =>
      rcases bind_eq_error_iff.mp h with ha | ⟨_, -, hrest⟩
      · use a, List.mem_cons_self
      · obtain ⟨a', ha', hfails⟩ := ih hrest
        use a', List.mem_cons_of_mem a ha'

/-! ### A state that steps go on from -/

section

variable {f : β → α → Except ε β} {R : β → β → Prop}

theorem foldlM_cons_eq_ok_iff {a : α} {as : List α} {b b' : β} :
  (a :: as).foldlM f b = .ok b' ↔ ∃ next, f b a = .ok next ∧ as.foldlM f next = .ok b'
  := by
  rw [List.foldlM_cons, bind_eq_ok_iff]

/-- Where the success of a step depends on its item alone, all steps succeed exactly when
each does. -/
theorem exists_foldlM_eq_ok_iff {P : α → Prop} (step : ∀ b a, (∃ b', f b a = .ok b') ↔ P a)
    {as : List α} {b : β} :
  (∃ b', as.foldlM f b = .ok b') ↔ ∀ a ∈ as, P a
  := by
  induction as generalizing b with
  | nil => simp [pure_eq_ok_iff]
  | cons a as ih =>
      simp only [foldlM_cons_eq_ok_iff, List.forall_mem_cons]
      constructor
      · rintro ⟨b', next, hnext, hrest⟩
        exact ⟨(step b a).mp ⟨next, hnext⟩, ih.mp ⟨b', hrest⟩⟩
      · rintro ⟨ha, has⟩
        obtain ⟨next, hnext⟩ := (step b a).mpr ha
        obtain ⟨b', hrest⟩ := ih.mpr has
        exact ⟨b', next, hnext, hrest⟩

/-- What each step does from its state to the next, all steps together do. -/
theorem foldlM_rel (refl : ∀ b, R b b) (trans : ∀ {a b c}, R a b → R b c → R a c)
    (step : ∀ b a b', f b a = .ok b' → R b b') {as : List α} {b b' : β}
    (h : as.foldlM f b = .ok b') :
  R b b'
  := by
  induction as generalizing b with
  | nil =>
      obtain rfl := pure_eq_ok_iff.mp h
      apply refl
  | cons a as ih =>
      obtain ⟨next, hnext, hrest⟩ := foldlM_cons_eq_ok_iff.mp h
      apply trans (step b a next hnext) (ih hrest)

end

end NativeApi.Outcome
