import Mathlib.Data.Nat.Find
import NativeApi.Proofs.MarshallingAnalysis

/-!
# The first pass of the analysis

The analysis of marshalling looks at the members of each composite in order, up to the first
that forces it, so that flags decide which types are looked up at all.  Main statement: it
fails exactly if it does so in its first pass, where no flag is set, with the error of the
first composite that has a member whose type does not resolve and that is looked at; flags
that are set later only make it look at fewer members.
-/

namespace NativeApi.Registry

variable {r r' : Registry} {m : Member} {id : Nat} {problem : Error}

/-! ### Composites that cannot be looked at -/

/-- A member cannot be looked at: its type, which counts unless it is a pointer, does not
resolve. -/
def FailsAt (r : Registry) (m : Member) (problem : Error) : Prop :=
  m.isPointer = false ∧ r.resolve m.declaredType = .error problem

/-- A member can be looked at, and forces its composite whatever the flags are, so that the
members after it are not looked at. -/
def EndsLook (r : Registry) (m : Member) : Prop :=
  r.ForcesMarshalling m ∧ ∀ problem, ¬r.FailsAt m problem

/-- The composite at a position has a member that cannot be looked at, and no earlier member
makes that unnecessary. -/
def IsBroken (r : Registry) (id : Nat) : Prop :=
  ∃ c before m after, r.compositeAt? id = some c ∧ c.members = before ++ m :: after
    ∧ (∀ earlier ∈ before, ¬r.EndsLook earlier) ∧ ∃ problem, r.FailsAt m problem

/-- The first member of the composite at a position that cannot be looked at has this
problem, and no earlier member makes looking at it unnecessary. -/
def BreaksWith (r : Registry) (id : Nat) (problem : Error) : Prop :=
  ∃ c before m after, r.compositeAt? id = some c ∧ c.members = before ++ m :: after
    ∧ (∀ earlier ∈ before, ¬r.EndsLook earlier ∧ ∀ other, ¬r.FailsAt earlier other)
    ∧ r.FailsAt m problem

theorem BreaksWith.isBroken (h : r.BreaksWith id problem) :
  r.IsBroken id
  := by
  obtain ⟨c, before, m, after, hc, hmembers, hbefore, hm⟩ := h
  exact ⟨c, before, m, after, hc, hmembers, fun earlier he => (hbefore earlier he).1, problem, hm⟩

/-! ### The registries between passes -/

/-- The registry with the flags of its composites cleared, as the analysis starts with it. -/
def cleared (r : Registry) : Registry := r.setFlags (r.compositeIds.map (·, false))

/-- The registries that passes lead to from the one with all flags cleared on. -/
inductive Reaches (r : Registry) : Registry → Prop where
  | start : Reaches r r.cleared
  | pass {r' : Registry} {flags : List (Nat × Bool)} : Reaches r r' →
      r'.marshallingPass r.compositeIds = .ok flags → Reaches r (r'.setFlags flags)

/-- Passes change nothing but flags. -/
theorem Reaches.unflagged_eq (reaches : r.Reaches r') :
  r'.unflagged = r.unflagged
  := by
  induction reaches with
  | start => apply unflagged_setFlags
  | pass _ _ ih => rw [unflagged_setFlags, ih]

theorem marked_cleared (r : Registry) :
  Marked r (fun _ => False) r.cleared
  := by
  have marked := marked_setFlags_false r
  constructor
  · apply marked.unflagged_eq
  · intro id c hc
    rw [marked.flag_iff hc, iff_false]
    apply not_forcedBefore_zero

/-- A registry that differs in flags alone is marked where its flags are set. -/
theorem marked_of_unflagged_eq (same : r'.unflagged = r.unflagged) :
  Marked r (fun id => ∃ c, r'.compositeAt? id = some c ∧ c.needsMarshalling = true) r'
  := by
  constructor
  · exact same
  · intro id c hc
    simp [hc]

/-! ### One member -/

/-- Which members cannot be looked at does not depend on flags. -/
theorem memberNeedsMarshalling_eq_error_iff (same : r'.unflagged = r.unflagged) :
  r'.memberNeedsMarshalling m = .error problem ↔ r.FailsAt m problem
  := by
  rw [FailsAt, ← resolve_eq_error_congr same, memberNeedsMarshalling]
  cases m.isPointer with
  | true => simp
  | false => cases r'.resolve m.declaredType <;> simp [Except.map]

theorem exists_resolve_of_not_failsAt (h : ∀ problem, ¬r.FailsAt m problem)
    (hp : m.isPointer = false) :
  ∃ e, r.resolve m.declaredType = .ok e
  := by
  cases hresolve : r.resolve m.declaredType with
  | ok e => use e
  | error problem => exact (h problem ⟨hp, hresolve⟩).elim

/-- A member that is looked at in vain, under whatever flags, neither fails nor ends the look
with no flags set. -/
theorem not_endsLook_of_memberNeedsMarshalling (same : r'.unflagged = r.unflagged)
    (h : r'.memberNeedsMarshalling m = .ok false) :
  ¬r.EndsLook m ∧ ∀ problem, ¬r.FailsAt m problem
  := by
  have looks : ∀ problem, ¬r.FailsAt m problem := by
    intro problem fails
    rw [(memberNeedsMarshalling_eq_error_iff same).mpr fails] at h
    cases h
  obtain ⟨needs, hneeds, needs_iff⟩ :=
    (marked_of_unflagged_eq same).memberNeedsMarshalling_iff (exists_resolve_of_not_failsAt looks)
  obtain rfl : needs = false := Except.ok.inj (hneeds.symm.trans h)
  use fun ends => Bool.false_ne_true (needs_iff.mpr (.inl ends.1)), looks

/-- With no flags set, a member that neither fails nor ends the look is looked at in vain. -/
theorem Marked.memberNeedsMarshalling_eq_false (h : Marked r (fun _ => False) r')
    (continues : ¬r.EndsLook m) (looks : ∀ problem, ¬r.FailsAt m problem) :
  r'.memberNeedsMarshalling m = .ok false
  := by
  obtain ⟨needs, hneeds, needs_iff⟩ :=
    h.memberNeedsMarshalling_iff (exists_resolve_of_not_failsAt looks)
  have : needs = false := by
    apply Bool.eq_false_iff.mpr
    rw [ne_eq, needs_iff]
    rintro (forces | ⟨_, -, marked⟩)
    · exact continues ⟨forces, looks⟩
    · exact marked
  rw [hneeds, this]

/-! ### One composite -/

/-- The look at some members fails at the first that cannot be looked at, if all before it
are looked at in vain. -/
theorem anyNeedsMarshalling_eq_error_iff {members : List Member} :
  r.anyNeedsMarshalling members = .error problem
    ↔ ∃ before m after, members = before ++ m :: after
      ∧ (∀ earlier ∈ before, r.memberNeedsMarshalling earlier = .ok false)
      ∧ r.memberNeedsMarshalling m = .error problem
  := by
  induction members with
  | nil => simp [anyNeedsMarshalling]
  | cons first members ih =>
      rw [anyNeedsMarshalling, Outcome.bind_eq_error_iff]
      constructor
      · rintro (hfirst | ⟨needs, hfirst, hrest⟩)
        · use [], first, members, rfl, by simp
        · cases needs with
          | true => cases hrest
          | false =>
              obtain ⟨before, m, after, rfl, hbefore, hm⟩ := ih.mp hrest
              use first :: before, m, after, rfl, List.forall_mem_cons.mpr ⟨hfirst, hbefore⟩
      · rintro ⟨before, m, after, hmembers, hbefore, hm⟩
        cases before with
        | nil =>
            obtain ⟨rfl, -⟩ := List.cons.inj hmembers
            exact .inl hm
        | cons earlier before =>
            obtain ⟨rfl, rfl⟩ := List.cons.inj hmembers
            obtain ⟨hfirst, hbefore⟩ := List.forall_mem_cons.mp hbefore
            exact .inr ⟨false, hfirst, ih.mpr ⟨before, m, after, rfl, hbefore, hm⟩⟩

theorem compositeNeedsMarshalling_eq_error_iff :
  r.compositeNeedsMarshalling id = .error problem
    ↔ ∃ c, r.compositeAt? id = some c ∧ r.anyNeedsMarshalling c.members = .error problem
  := by
  rw [compositeNeedsMarshalling, ← compositeAt?]
  cases r.compositeAt? id with
  | none => simp
  | some c => simp

/-- Where the look at a composite fails, under whatever flags, it does so with no flags set
too. -/
theorem breaksWith_of_compositeNeedsMarshalling (same : r'.unflagged = r.unflagged)
    (h : r'.compositeNeedsMarshalling id = .error problem) :
  r.BreaksWith id problem
  := by
  obtain ⟨c', hc', hfails⟩ := compositeNeedsMarshalling_eq_error_iff.mp h
  obtain ⟨c, hc, hmembers⟩ := compositeAt?_of_unflagged_eq same hc'
  obtain ⟨before, m, after, hsplit, hbefore, hm⟩ := anyNeedsMarshalling_eq_error_iff.mp hfails
  refine ⟨c, before, m, after, hc, hmembers.symm.trans hsplit, ?_, ?_⟩
  · intro earlier he
    apply not_endsLook_of_memberNeedsMarshalling same (hbefore earlier he)
  · apply (memberNeedsMarshalling_eq_error_iff same).mp hm

/-- With no flags set, the look at a composite fails exactly if the composite is broken. -/
theorem Marked.compositeNeedsMarshalling_eq_error_iff (h : Marked r (fun _ => False) r') :
  r'.compositeNeedsMarshalling id = .error problem ↔ r.BreaksWith id problem
  := by
  constructor
  · apply breaksWith_of_compositeNeedsMarshalling h.unflagged_eq
  · rintro ⟨c, before, m, after, hc, hsplit, hbefore, hm⟩
    obtain ⟨c', hc', hmembers⟩ := compositeAt?_of_unflagged_eq h.unflagged_eq.symm hc
    apply Registry.compositeNeedsMarshalling_eq_error_iff.mpr
    use c', hc'
    apply anyNeedsMarshalling_eq_error_iff.mpr
    refine ⟨before, m, after, hmembers.symm.trans hsplit, ?_, ?_⟩
    · intro earlier he
      obtain ⟨continues, looks⟩ := hbefore earlier he
      apply h.memberNeedsMarshalling_eq_false continues looks
    · apply (memberNeedsMarshalling_eq_error_iff h.unflagged_eq).mpr hm

/-- A broken composite breaks with the problem of the first member that cannot be looked
at. -/
theorem IsBroken.exists_breaksWith (h : r.IsBroken id) :
  ∃ problem, r.BreaksWith id problem
  := by
  obtain ⟨c, before, m, after, hc, hsplit, continues, problem, hm⟩ := h
  induction hlength : before.length using Nat.strong_induction_on
    generalizing before m after problem with
  | _ length ih =>
      by_cases looks : ∀ earlier ∈ before, ∀ other, ¬r.FailsAt earlier other
      · refine ⟨problem, c, before, m, after, hc, hsplit, ?_, hm⟩
        exact fun earlier he => ⟨continues earlier he, looks earlier he⟩
      · push Not at looks
        obtain ⟨earlier, he, other, hother⟩ := looks
        obtain ⟨front, back, rfl⟩ := List.append_of_mem he
        apply ih front.length _ front earlier (back ++ m :: after) _ _ other hother rfl
        · simp [← hlength]
        · simp [hsplit]
        · exact fun first hfirst => continues first (List.mem_append_left _ hfirst)

/-! ### One pass -/

/-- The composites are at increasing positions. -/
theorem pairwise_compositeIds (r : Registry) :
  r.compositeIds.Pairwise (· < ·)
  := List.pairwise_lt_range.filter _

theorem IsBroken.mem_compositeIds (h : r.IsBroken id) :
  id ∈ r.compositeIds
  := by
  obtain ⟨c, _, _, _, hc, -⟩ := h
  apply Registry.mem_compositeIds.mpr
  rw [hc, Option.isSome_some]

/-- Where a pass fails, under whatever flags, some composite is broken. -/
theorem exists_isBroken_of_marshallingPass (same : r'.unflagged = r.unflagged) {ids : List Nat}
    (h : r'.marshallingPass ids = .error problem) :
  ∃ id, r.IsBroken id
  := by
  obtain ⟨id, -, hid⟩ := Outcome.exists_of_mapM_eq_error h
  use id
  apply (breaksWith_of_compositeNeedsMarshalling same (Outcome.map_eq_error_iff.mp hid)).isBroken

/-- With no flags set, a pass fails with the problem of the first broken composite. -/
theorem Marked.marshallingPass_eq_error_iff (h : Marked r (fun _ => False) r') :
  r'.marshallingPass r.compositeIds = .error problem
    ↔ ∃ id, r.BreaksWith id problem ∧ ∀ other < id, ¬r.IsBroken other
  := by
  rw [marshallingPass, Outcome.mapM_eq_error_iff]
  simp only [ne_eq, Outcome.map_eq_error_iff, h.compositeNeedsMarshalling_eq_error_iff]
  constructor
  · rintro ⟨before, id, after, hsplit, hbefore, hid⟩
    use id, hid
    intro other hother broken
    have hmem := broken.mem_compositeIds
    rw [hsplit, List.mem_append, List.mem_cons] at hmem
    rcases hmem with hmem | rfl | hmem
    · obtain ⟨problem', breaks⟩ := broken.exists_breaksWith
      apply hbefore other hmem problem' breaks
    · apply Nat.lt_irrefl _ hother
    · have increasing := pairwise_compositeIds r
      rw [hsplit, List.pairwise_append, List.pairwise_cons] at increasing
      have := increasing.2.1.1 other hmem
      omega
  · rintro ⟨id, hid, first⟩
    obtain ⟨before, after, hsplit⟩ := List.append_of_mem hid.isBroken.mem_compositeIds
    refine ⟨before, id, after, hsplit, ?_, hid⟩
    intro earlier he problem' breaks
    have increasing := pairwise_compositeIds r
    rw [hsplit, List.pairwise_append] at increasing
    apply first earlier (increasing.2.2 earlier he id List.mem_cons_self) breaks.isBroken

/-- Where something is broken, a pass with no flags set fails. -/
theorem Marked.exists_marshallingPass_eq_error (h : Marked r (fun _ => False) r')
    (broken : ∃ id, r.IsBroken id) :
  ∃ problem, r'.marshallingPass r.compositeIds = .error problem
  := by
  classical
  obtain ⟨problem, breaks⟩ := (Nat.find_spec broken).exists_breaksWith
  use problem
  apply h.marshallingPass_eq_error_iff.mpr
  exact ⟨Nat.find broken, breaks, fun other hother => Nat.find_min broken hother⟩

/-- Where the first pass succeeds, nothing is broken. -/
theorem not_isBroken_of_firstPass {flags : List (Nat × Bool)}
    (h : r.cleared.marshallingPass r.compositeIds = .ok flags) (id : Nat) :
  ¬r.IsBroken id
  := by
  intro broken
  obtain ⟨problem, hproblem⟩ := (marked_cleared r).exists_marshallingPass_eq_error ⟨id, broken⟩
  cases h.symm.trans hproblem

/-- Where nothing is broken, every pass succeeds, under whatever flags. -/
theorem exists_marshallingPass (sound : ∀ id, ¬r.IsBroken id) (same : r'.unflagged = r.unflagged)
    (ids : List Nat) :
  ∃ flags, r'.marshallingPass ids = .ok flags
  := by
  cases hpass : r'.marshallingPass ids with
  | ok flags => use flags
  | error problem =>
      obtain ⟨id, broken⟩ := exists_isBroken_of_marshallingPass same hpass
      apply (sound id broken).elim

/-! ### All passes -/

/-- Where nothing is broken, all passes succeed, from whatever flags on. -/
theorem exists_settle (sound : ∀ id, ¬r.IsBroken id) (same : r'.unflagged = r.unflagged)
    (ids flat : List Nat) :
  ∃ passes settled, settle ids r' flat = (.ok passes, settled)
  := by
  -- what is still flat gets less with every pass that another one follows
  induction hlength : flat.length using Nat.strong_induction_on generalizing flat r' with
  | _ length ih =>
      obtain ⟨flags, hpass⟩ := exists_marshallingPass sound same ids
      rw [settle, hpass]
      by_cases shrinks : (flatIds flags).length < flat.length
      · obtain ⟨later, settled, hsettle⟩ :=
          ih _ (hlength ▸ shrinks) ((unflagged_setFlags r' flags).trans same) (flatIds flags) rfl
        simp only [if_pos shrinks, hsettle]
        exact ⟨_, settled, rfl⟩
      · simp only [if_neg shrinks]
        exact ⟨_, _, rfl⟩

theorem exists_analyze_of_sound (sound : ∀ id, ¬r.IsBroken id) :
  ∃ passes settled, r.analyze = (.ok passes, settled)
  := by
  obtain ⟨passes, settled, hsettle⟩ :=
    exists_settle sound (marked_cleared r).unflagged_eq r.compositeIds r.compositeIds
  use ⟨passes⟩, settled
  rw [cleared] at hsettle
  rw [analyze]
  simp only [hsettle]
  rfl

/-- Where the first pass fails, the analysis ends with its problem, and no flag is set. -/
theorem analyze_of_firstPass (h : r.cleared.marshallingPass r.compositeIds = .error problem) :
  r.analyze = (.error problem, r.cleared)
  := by
  rw [cleared] at h
  rw [analyze]
  simp only [settle, h]
  rfl

/-- The analysis of a registry fails in its first pass or not at all. -/
structure FailsFirst (r : Registry) : Prop where
  /-- It fails exactly if a member cannot be looked at that no earlier one makes unnecessary
  to look at. -/
  fails_iff : (∃ problem settled, r.analyze = (.error problem, settled)) ↔ ∃ id, r.IsBroken id
  /-- The problem is that of the first composite with such a member, and no flag is set. -/
  failure : ∀ problem settled, r.analyze = (.error problem, settled) →
    (∃ id, r.BreaksWith id problem ∧ ∀ other < id, ¬r.IsBroken other)
      ∧ Marked r (fun _ => False) settled
  /-- Once the first pass succeeds, all passes do, and so does the analysis. -/
  passes : (∃ flags, r.cleared.marshallingPass r.compositeIds = .ok flags) →
    (∀ r', r.Reaches r' → ∃ flags, r'.marshallingPass r.compositeIds = .ok flags)
      ∧ ∃ m settled, r.analyze = (.ok m, settled)

/-- The analysis of a registry can fail only in its first pass. -/
theorem analyze_failsFirst (r : Registry) :
  r.FailsFirst
  := by
  have clear := marked_cleared r
  cases hpass : r.cleared.marshallingPass r.compositeIds with
  | error problem =>
      have hfirst := clear.marshallingPass_eq_error_iff.mp hpass
      have hanalyze := analyze_of_firstPass hpass
      constructor
      · obtain ⟨id, breaks, -⟩ := hfirst
        exact iff_of_true ⟨problem, r.cleared, hanalyze⟩ ⟨id, breaks.isBroken⟩
      · intro problem' settled h
        obtain ⟨⟨⟩, rfl⟩ := Prod.mk.inj (hanalyze.symm.trans h)
        exact ⟨hfirst, clear⟩
      · rintro ⟨flags, hflags⟩
        cases hpass.symm.trans hflags
  | ok flags =>
      have sound := not_isBroken_of_firstPass hpass
      obtain ⟨m, settled, hanalyze⟩ := exists_analyze_of_sound sound
      constructor
      · apply iff_of_false
        · rintro ⟨problem, settled', h⟩
          cases hanalyze.symm.trans h
        · rintro ⟨id, broken⟩
          apply sound id broken
      · intro problem settled' h
        cases hanalyze.symm.trans h
      · intro _
        constructor
        · intro r' reaches
          apply exists_marshallingPass sound reaches.unflagged_eq
        · use m, settled

/-- A composite whose only member is a pointer to a type that is not registered. -/
def danglingRegistry : Registry where
  entities :=
    let next : Member := { inlineMember "Missing" .scalar with isPointer := true }
    [⟨"Info", "Info", .composite { Composite.shell .struct with members := [next] }⟩]
  rawIds := .empty
  constants := .empty
  platforms := []

/-- A pointer is not looked at any further, so that its type need not resolve. -/
theorem analyze_danglingRegistry :
  ¬((∃ problem settled, danglingRegistry.analyze = (.error problem, settled))
    ↔ ∃ id c before m after, danglingRegistry.compositeAt? id = some c
      ∧ c.members = before ++ m :: after
      ∧ (∀ earlier ∈ before, ¬danglingRegistry.EndsLook earlier)
      ∧ ∃ problem, danglingRegistry.resolve m.declaredType = .error problem)
  := by
  have firstPass : danglingRegistry.cleared.marshallingPass danglingRegistry.compositeIds
      = .ok [(0, true)] := by
    rfl
  obtain ⟨m, settled, hanalyze⟩ := exists_analyze_of_sound (not_isBroken_of_firstPass firstPass)
  rintro ⟨-, unresolved⟩
  have fails : ∃ problem settled, danglingRegistry.analyze = (.error problem, settled) := by
    apply unresolved
    exact ⟨0, _, [], _, [], rfl, rfl, by simp, _, rfl⟩
  obtain ⟨problem, settled', h⟩ := fails
  cases hanalyze.symm.trans h

end NativeApi.Registry
