import NativeApi.Proofs.FirstPass

/-!
# Passes of the analysis

The analysis of marshalling makes passes as long as the composites that are flat get fewer,
which bounds their number.  Main statement: it is the run that starts with all flags cleared
and makes passes until one changes no flag.  Along such a run flags are set and never cleared,
so that a pass changes a flag exactly if fewer composites are flat after it, and finds all that
the pass before it found.
-/

namespace NativeApi.Registry

variable {r r' : Registry} {m : Member} {id : Nat} {ids : List Nat} {flags : List (Nat × Bool)}
  {needs : Bool}

/-! ### Runs of passes -/

/-- Whether there is a composite at a position with its flag set. -/
def isFlagged (r : Registry) (id : Nat) : Bool := (r.compositeAt? id).any (·.needsMarshalling)

/-- The flag of a composite is not what a pass found. -/
def Changes (r : Registry) (flags : List (Nat × Bool)) : Prop :=
  ∃ flag ∈ flags, r.isFlagged flag.1 ≠ flag.2

/-- Passes from a registry on, up to the first that fails or changes no flag, with what they
found and the registry that they lead to. -/
inductive Settles (ids : List Nat) : Registry → Except Error (List NameSet) → Registry → Prop where
  | fails {r : Registry} {problem : Error} : r.marshallingPass ids = .error problem →
      Settles ids r (.error problem) r
  | last {r : Registry} {flags : List (Nat × Bool)} : r.marshallingPass ids = .ok flags →
      ¬r.Changes flags → Settles ids r (.ok [r.marshalledNames flags]) r
  | more {r settled : Registry} {flags : List (Nat × Bool)} {later : Except Error (List NameSet)} :
      r.marshallingPass ids = .ok flags → r.Changes flags →
      Settles ids (r.setFlags flags) later settled →
      Settles ids r (later.map (r.marshalledNames flags :: ·)) settled

/-- There is one run of passes from a registry on. -/
theorem Settles.unique {passes passes' : Except Error (List NameSet)} {settled settled' : Registry}
    (h : Settles ids r passes settled) (h' : Settles ids r passes' settled') :
  passes = passes' ∧ settled = settled'
  := by
  induction h generalizing passes' settled' with
  | fails hpass =>
      cases h' with
      | fails hpass' =>
          obtain rfl := Except.error.inj (hpass.symm.trans hpass')
          exact ⟨rfl, rfl⟩
      | last hpass' => cases hpass.symm.trans hpass'
      | more hpass' => cases hpass.symm.trans hpass'
  | last hpass same =>
      cases h' with
      | fails hpass' => cases hpass.symm.trans hpass'
      | last hpass' =>
          obtain rfl := Except.ok.inj (hpass.symm.trans hpass')
          exact ⟨rfl, rfl⟩
      | more hpass' changes =>
          obtain rfl := Except.ok.inj (hpass.symm.trans hpass')
          exact absurd changes same
  | more hpass changes _ ih =>
      cases h' with
      | fails hpass' => cases hpass.symm.trans hpass'
      | last hpass' same =>
          obtain rfl := Except.ok.inj (hpass.symm.trans hpass')
          exact absurd changes same
      | more hpass' _ hlater =>
          obtain rfl := Except.ok.inj (hpass.symm.trans hpass')
          obtain ⟨rfl, rfl⟩ := ih hlater
          exact ⟨rfl, rfl⟩

/-! ### More flags -/

theorem isFlagged_iff :
  r.isFlagged id = true ↔ ∃ c, r.compositeAt? id = some c ∧ c.needsMarshalling = true
  := Option.any_eq_true _ _

section

variable (same : r'.unflagged = r.unflagged)
  (rises : ∀ id, r.isFlagged id = true → r'.isFlagged id = true)
include same rises

/-- With more flags set, what had to be marshalled still has to be. -/
theorem memberNeedsMarshalling_mono (h : r.memberNeedsMarshalling m = .ok true)
    (h' : r'.memberNeedsMarshalling m = .ok needs) :
  needs = true
  := by
  have looks : ∀ problem, ¬r.FailsAt m problem := by
    intro problem fails
    cases h.symm.trans ((memberNeedsMarshalling_eq_error_iff rfl).mpr fails)
  have resolves := exists_resolve_of_not_failsAt looks
  obtain ⟨before, hbefore, before_iff⟩ :=
    (marked_of_unflagged_eq (r := r) rfl).memberNeedsMarshalling_iff resolves
  obtain ⟨after, hafter, after_iff⟩ :=
    (marked_of_unflagged_eq same).memberNeedsMarshalling_iff resolves
  obtain rfl := Except.ok.inj (hbefore.symm.trans h)
  obtain rfl := Except.ok.inj (hafter.symm.trans h')
  simp only [← isFlagged_iff] at before_iff after_iff
  apply after_iff.mpr
  apply (before_iff.mp True.intro).imp_right
  rintro ⟨other, holds, flagged⟩
  use other, holds, rises other flagged

theorem anyNeedsMarshalling_mono {members : List Member}
    (h : r.anyNeedsMarshalling members = .ok true)
    (h' : r'.anyNeedsMarshalling members = .ok needs) :
  needs = true
  := by
  induction members with
  | nil => cases h
  | cons m members ih =>
      rw [anyNeedsMarshalling, Outcome.bind_eq_ok_iff] at h h'
      obtain ⟨before, hbefore, h⟩ := h
      obtain ⟨after, hafter, h'⟩ := h'
      cases after with
      | true => exact (Except.ok.inj h').symm
      | false =>
          cases before with
          | true => cases memberNeedsMarshalling_mono same rises hbefore hafter
          | false => apply ih h h'

theorem compositeNeedsMarshalling_mono (h : r.compositeNeedsMarshalling id = .ok true)
    (h' : r'.compositeNeedsMarshalling id = .ok needs) :
  needs = true
  := by
  rw [compositeNeedsMarshalling, ← compositeAt?] at h h'
  cases hc : r.compositeAt? id with
  | none =>
      rw [hc] at h
      cases h
  | some c =>
      obtain ⟨c', hc', hmembers⟩ := compositeAt?_of_unflagged_eq same.symm hc
      rw [hc] at h
      rw [hc'] at h'
      apply anyNeedsMarshalling_mono same rises h
      rw [hmembers]
      exact h'

end

/-! ### One pass -/

/-- A pass that succeeds finds out about each composite. -/
theorem exists_found_of_marshallingPass (h : r.marshallingPass ids = .ok flags) :
  ∃ found : Nat → Bool, flags = ids.map (fun id => (id, found id))
    ∧ ∀ id ∈ ids, r.compositeNeedsMarshalling id = .ok (found id)
  := by
  have looks : ∀ id ∈ ids, r.compositeNeedsMarshalling id
      = .ok ((r.compositeNeedsMarshalling id).toOption.getD false) := by
    intro id hid
    obtain ⟨flag, hflag⟩ := Outcome.exists_mapM_eq_ok_iff.mp ⟨flags, h⟩ id hid
    cases hneeds : r.compositeNeedsMarshalling id with
    | ok needs => rfl
    | error problem =>
        rw [hneeds] at hflag
        cases hflag
  use fun id => (r.compositeNeedsMarshalling id).toOption.getD false
  constructor
  · apply Except.ok.inj (h.symm.trans _)
    apply Outcome.mapM_eq_ok_map
    intro id hid
    rw [looks id hid]
    rfl
  · exact looks

theorem setNeedsMarshalling_eq_self (h : r.isFlagged id = needs) :
  r.setNeedsMarshalling id needs = r
  := by
  have hentities : (r.setNeedsMarshalling id needs).entities = r.entities := by
    apply List.ext_getElem?
    intro other
    simp only [setNeedsMarshalling, modifyKind, List.getElem?_modify]
    split
    · rename_i hid
      rw [← hid]
      cases he : r.entities[id]? with
      | none => rfl
      | some e =>
          obtain ⟨name, rawName, kind⟩ := e
          cases kind with
          | composite c =>
              have hflag : c.needsMarshalling = needs := by
                simpa [isFlagged, compositeAt?, get?, he, Entity.composite?] using h
              simp [withFlag, ← hflag]
          | _ => rfl
    · simp
  obtain ⟨entities, rawIds, constants, platforms⟩ := r
  rw [setNeedsMarshalling, modifyKind] at hentities ⊢
  congr 1

/-- Setting flags that are set already changes nothing. -/
theorem setFlags_eq_self (h : ∀ flag ∈ flags, r.isFlagged flag.1 = flag.2) :
  r.setFlags flags = r
  := by
  induction flags with
  | nil => rfl
  | cons flag flags ih =>
      rw [List.forall_mem_cons] at h
      change (r.setNeedsMarshalling flag.1 flag.2).setFlags flags = r
      rw [setNeedsMarshalling_eq_self h.1, ih h.2]

/-! ### One pass after the other -/

/-- The composites are at the given positions, and a pass finds all of them whose flags are
set. -/
structure IsRising (ids : List Nat) (r : Registry) : Prop where
  composites : ∀ id, id ∈ ids ↔ (r.compositeAt? id).isSome = true
  keeps : ∀ id needs, r.isFlagged id = true → r.compositeNeedsMarshalling id = .ok needs →
    needs = true

namespace IsRising

variable (rising : IsRising ids r) {found : Nat → Bool}
include rising

theorem mem_of_isFlagged (h : r.isFlagged id = true) :
  id ∈ ids
  := by
  obtain ⟨c, hc, -⟩ := isFlagged_iff.mp h
  apply (rising.composites id).mpr
  rw [hc, Option.isSome_some]

/-- After a pass, the flags are what it found. -/
theorem isFlagged_setFlags_iff :
  (r.setFlags (ids.map fun id => (id, found id))).isFlagged id = true
    ↔ id ∈ ids ∧ found id = true
  := by
  rw [isFlagged, compositeAt?_setFlags]
  cases hc : r.compositeAt? id with
  | none =>
      have hid : id ∉ ids := by
        rw [rising.composites, hc]
        exact Bool.false_ne_true
      simp [hid]
  | some c =>
      have hid : id ∈ ids := (rising.composites id).mpr (by rw [hc, Option.isSome_some])
      simp [hid, flagged]

variable (looked : ∀ id ∈ ids, r.compositeNeedsMarshalling id = .ok (found id))
include looked

/-- A pass finds all composites whose flags are set. -/
theorem found_of_isFlagged (h : r.isFlagged id = true) :
  found id = true
  := rising.keeps id (found id) h (looked id (rising.mem_of_isFlagged h))

/-- So does a pass from the registry that it leads to. -/
theorem setFlags :
  IsRising ids (r.setFlags (ids.map fun id => (id, found id)))
  := by
  constructor
  · intro id
    rw [compositeAt?_setFlags, Option.isSome_map]
    apply rising.composites
  · intro id needs h hneeds
    obtain ⟨hid, hfound⟩ := rising.isFlagged_setFlags_iff.mp h
    apply compositeNeedsMarshalling_mono (unflagged_setFlags r _) _ _ hneeds
    · intro other hother
      apply rising.isFlagged_setFlags_iff.mpr
      exact ⟨rising.mem_of_isFlagged hother, rising.found_of_isFlagged looked hother⟩
    · rw [looked id hid, hfound]

/-- A pass finds all that the pass before it found. -/
theorem isSubset_marshalledNames {flags' : List (Nat × Bool)}
    (hpass : (r.setFlags (ids.map fun id => (id, found id))).marshallingPass ids = .ok flags') :
  (r.marshalledNames (ids.map fun id => (id, found id))).isSubset
    ((r.setFlags (ids.map fun id => (id, found id))).marshalledNames flags') = true
  := by
  obtain ⟨found', rfl, looked'⟩ := exists_found_of_marshallingPass hpass
  apply NameSet.isSubset_iff.mpr
  intro name hname
  obtain ⟨id, hid, hfound, rfl⟩ := mem_marshalledNames.mp hname
  apply mem_marshalledNames.mpr
  refine ⟨id, hid, ?_, nameOf_congr (unflagged_setFlags r _) id⟩
  apply (rising.setFlags looked).found_of_isFlagged looked'
  exact rising.isFlagged_setFlags_iff.mpr ⟨hid, hfound⟩

/-- A pass changes a flag exactly if fewer composites are flat after it. -/
theorem length_flatIds_lt_iff :
  (flatIds (ids.map fun id => (id, found id))).length
      < (ids.filter fun id => !r.isFlagged id).length
    ↔ r.Changes (ids.map fun id => (id, found id))
  := by
  rw [flatIds_map, length_filter_lt_iff fun id hid => rising.found_of_isFlagged looked hid,
    Changes]
  constructor
  · rintro ⟨id, hid, hfound, hflag⟩
    use (id, found id), List.mem_map_of_mem hid
    rw [hflag, hfound]
    exact Bool.false_ne_true
  · rintro ⟨_, hmem, hne⟩
    obtain ⟨id, hid, rfl⟩ := List.mem_map.mp hmem
    use id, hid
    cases hflag : r.isFlagged id with
    | true =>
        rw [hflag, rising.found_of_isFlagged looked hflag] at hne
        exact absurd rfl hne
    | false =>
        rw [hflag] at hne
        exact ⟨Bool.eq_true_of_not_eq_false hne.symm, rfl⟩

end IsRising

/-! ### All passes -/

/-- Where passes find what is flagged, to go on while fewer composites are flat is to go on
while a pass changes a flag. -/
theorem IsRising.settles_settle (rising : IsRising ids r) {flat : List Nat}
    (hflat : flat = ids.filter fun id => !r.isFlagged id) :
  Settles ids r (settle ids r flat).1 (settle ids r flat).2
  := by
  -- the composites that are flat get fewer with every pass that another one follows
  induction hlength : flat.length using Nat.strong_induction_on generalizing r flat with
  | _ length ih =>
      rw [settle]
      cases hpass : r.marshallingPass ids with
      | error problem => exact .fails hpass
      | ok flags =>
          obtain ⟨found, rfl, looked⟩ := exists_found_of_marshallingPass hpass
          have fewer := rising.length_flatIds_lt_iff looked
          rw [← hflat, hlength] at fewer
          by_cases changes : r.Changes (ids.map fun id => (id, found id))
          · have shrinks := fewer.mpr changes
            simp only [hlength, if_pos shrinks]
            apply Settles.more hpass changes
            apply ih _ shrinks (rising.setFlags looked) _ rfl
            rw [flatIds_map]
            apply List.filter_congr
            intro id hid
            congr 1
            apply Bool.eq_iff_iff.mpr
            rw [rising.isFlagged_setFlags_iff, and_iff_right hid]
          · simp only [hlength, if_neg (fewer.not.mpr changes)]
            rw [setFlags_eq_self]
            · exact .last hpass changes
            · simpa [Changes] using changes

/-- The first pass of a run is one from the registry that the run starts with. -/
theorem Settles.exists_cons {passes : List NameSet} {settled : Registry}
    (h : Settles ids r (.ok passes) settled) :
  ∃ flags later, r.marshallingPass ids = .ok flags ∧ passes = r.marshalledNames flags :: later
  := by
  generalize houtcome : Except.ok passes = outcome at h
  cases h with
  | fails => cases houtcome
  | last hpass =>
      obtain rfl := Except.ok.inj houtcome
      exact ⟨_, [], hpass, rfl⟩
  | @more _ _ flags later hpass =>
      cases later with
      | error problem => cases houtcome
      | ok later =>
          obtain rfl := Except.ok.inj houtcome
          exact ⟨flags, later, hpass, rfl⟩

/-- Along a run where passes find what is flagged, each pass finds all that the pass before it
found. -/
theorem Settles.isIncreasing {passes : List NameSet} {settled : Registry}
    (h : Settles ids r (.ok passes) settled) (rising : IsRising ids r) :
  Marshalling.isIncreasing passes = true
  := by
  generalize houtcome : Except.ok passes = outcome at h
  induction h generalizing passes with
  | fails => cases houtcome
  | last =>
      obtain rfl := Except.ok.inj houtcome
      rfl
  | @more r settled flags later hpass _ run ih =>
      cases later with
      | error problem => cases houtcome
      | ok later =>
          obtain rfl := Except.ok.inj houtcome
          obtain ⟨found, rfl, looked⟩ := exists_found_of_marshallingPass hpass
          have increasing := ih (rising.setFlags looked) rfl
          obtain ⟨flags', rest, hnext, rfl⟩ := run.exists_cons
          rw [Marshalling.isIncreasing, increasing,
            rising.isSubset_marshalledNames looked hnext, Bool.and_true]

theorem isFlagged_cleared (r : Registry) (id : Nat) :
  r.cleared.isFlagged id = false
  := by
  apply Bool.eq_false_iff.mpr
  intro h
  obtain ⟨c, hc, hflag⟩ := isFlagged_iff.mp h
  exact ((marked_cleared r).flag_iff hc).mp hflag

theorem isRising_cleared (r : Registry) :
  IsRising r.compositeIds r.cleared
  := by
  constructor
  · intro id
    rw [cleared, compositeAt?_setFlags, Option.isSome_map, mem_compositeIds]
  · intro id needs h
    rw [isFlagged_cleared] at h
    cases h

/-- The analysis is the run of passes from cleared flags on, until one fails or changes no
flag. -/
theorem analyze_eq_iff_settles {outcome : Except Error Marshalling} {settled : Registry} :
  r.analyze = (outcome, settled)
    ↔ ∃ passes, Settles r.compositeIds r.cleared passes settled ∧ passes.map .mk = outcome
  := by
  have hflat : r.compositeIds = r.compositeIds.filter fun id => !r.cleared.isFlagged id := by
    simp [isFlagged_cleared]
  have run := (isRising_cleared r).settles_settle hflat
  have hanalyze : r.analyze = ((settle r.compositeIds r.cleared r.compositeIds).1.map .mk,
      (settle r.compositeIds r.cleared r.compositeIds).2) := rfl
  rw [hanalyze, Prod.mk.injEq]
  constructor
  · rintro ⟨houtcome, rfl⟩
    exact ⟨_, run, houtcome⟩
  · rintro ⟨passes, run', houtcome⟩
    obtain ⟨rfl, rfl⟩ := run.unique run'
    exact ⟨houtcome, rfl⟩

/-- Each pass of an analysis finds all that the pass before it found. -/
theorem isMonotone_of_analyze {m : Marshalling} {settled : Registry}
    (h : r.analyze = (.ok m, settled)) :
  m.isMonotone = true
  := by
  obtain ⟨passes, run, houtcome⟩ := analyze_eq_iff_settles.mp h
  cases passes with
  | error problem => cases houtcome
  | ok passes =>
      obtain rfl := Except.ok.inj houtcome
      apply run.isIncreasing (isRising_cleared r)

end NativeApi.Registry
