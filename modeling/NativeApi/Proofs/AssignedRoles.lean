import Mathlib.Data.List.Nodup
import NativeApi.Proofs.Slots

/-!
# Assigned roles

A parameter first has the role that its own declaration gives it, and then takes part in
linking with all other parameters of its command.  Main statement: where raw names are
distinct, linking makes a count of exactly those parameters that are by themselves the length
of an array, but for the bound one; a count belongs to the first of its arrays, and can be
derived if it is no pointer and one of them is given by the caller; all other parameters keep
the role of their declaration.
-/

namespace NativeApi

/-! ### The role of a declaration -/

/-- The role that a declaration gives a parameter of the given length, as it follows from
stars, `const`, the type and the length. -/
inductive Declarator.GivesRole (d : Declarator) (isSelf : Bool) (length : Option LengthReference) :
    Role → Prop where
  | boundSelf (self : isSelf = true) :
    GivesRole d isSelf length .boundSelf
  | text (other : isSelf = false) (text : d.isText = true) (const : d.isConst = true) :
    GivesRole d isSelf length .text
  | rawBuffer (bytes : LengthReference) (other : isSelf = false)
      (pointer : d.isPointer = true) (written : d.isConst = false) (untyped : d.rawType = "void")
      (counted : length = some bytes) :
    GivesRole d isSelf length (.rawBuffer bytes)
  | outputArray (count : LengthReference) (other : isSelf = false)
      (pointer : d.isPointer = true) (written : d.isConst = false) (typed : d.rawType ≠ "void")
      (counted : length = some count) :
    GivesRole d isSelf length (.outputArray count)
  | output (other : isSelf = false) (pointer : d.isPointer = true) (written : d.isConst = false)
      (single : length = none) :
    GivesRole d isSelf length .output
  | inputArray (count : LengthReference) (other : isSelf = false) (noText : d.isText = false)
      (pointer : d.isPointer = true) (const : d.isConst = true) (counted : length = some count) :
    GivesRole d isSelf length (.inputArray count)
  | optionalInput (other : isSelf = false) (noText : d.isText = false)
      (pointer : d.isPointer = true) (const : d.isConst = true) (single : length = none)
      (optional : d.optional = true) :
    GivesRole d isSelf length .optionalInput
  | input (other : isSelf = false) (noText : d.isText = false)
      (pointer : d.isPointer = true) (const : d.isConst = true) (single : length = none)
      (required : d.optional = false) :
    GivesRole d isSelf length .input
  | value (other : isSelf = false) (noPointer : d.isPointer = false) :
    GivesRole d isSelf length .input

/-- The role of an array whose length is the parameter of a raw name by itself. -/
inductive Role.IsArrayOf (name : String) : Role → Prop where
  | rawBuffer : IsArrayOf name (.rawBuffer (.parameter name))
  | inputArray : IsArrayOf name (.inputArray (.parameter name))
  | outputArray : IsArrayOf name (.outputArray (.parameter name))

theorem Role.directLength?_eq_some_iff {role : Role} {name : String} :
  role.directLength? = some name ↔ role.IsArrayOf name
  := by
  constructor
  · intro h
    have hlength := length?_of_directLength? h
    cases role with
    | rawBuffer length =>
        obtain rfl := Option.some.inj hlength
        exact .rawBuffer
    | inputArray count =>
        obtain rfl := Option.some.inj hlength
        exact .inputArray
    | outputArray count =>
        obtain rfl := Option.some.inj hlength
        exact .outputArray
    | boundSelf | input | optionalInput | text | output | count => cases hlength
  · rintro (_ | _ | _) <;> rfl

namespace Parameter

variable {r : Registry} {owner : String} {rawNames : List String} {isSelf : Bool}
  {d : Declarator} {p q : Parameter} {ds : List Declarator} {ps : List Parameter}
  {links : List CountLink} {link : CountLink} {name : String} {length : Option LengthReference}
  {role : Role}

theorem initialRole_of_givesRole (h : d.GivesRole isSelf length role) :
  initialRole d length isSelf = role
  := by
  cases h with
  | boundSelf self => simp [initialRole, self]
  | text other text const => simp [initialRole, other, text, const]
  | rawBuffer bytes other pointer written untyped counted =>
      simp [initialRole, other, pointer, written, untyped, counted]
  | outputArray count other pointer written typed counted =>
      simp [initialRole, other, pointer, written, typed, counted]
  | output other pointer written single =>
      simp [initialRole, other, pointer, written, single]
  | inputArray count other noText pointer const counted =>
      simp [initialRole, other, noText, pointer, const, counted]
  | optionalInput other noText pointer const single optional =>
      simp [initialRole, other, noText, pointer, const, single, optional]
  | input other noText pointer const single required =>
      simp [initialRole, other, noText, pointer, const, single, required]
  | value other noPointer =>
      have noText : d.isText = false := by
        simp [Declarator.isText, noPointer]
      cases length <;> simp [initialRole, other, noText, noPointer]

/-- Every declaration gives a role. -/
theorem exists_givesRole (d : Declarator) (isSelf : Bool) (length : Option LengthReference) :
  ∃ role, d.GivesRole isSelf length role
  := by
  cases isSelf with
  | true => exact ⟨_, .boundSelf rfl⟩
  | false =>
      cases hpointer : d.isPointer with
      | false => exact ⟨_, .value rfl hpointer⟩
      | true =>
          cases hconst : d.isConst with
          | false =>
              cases length with
              | none => exact ⟨_, .output rfl hpointer hconst rfl⟩
              | some l =>
                  by_cases hvoid : d.rawType = "void"
                  · exact ⟨_, .rawBuffer l rfl hpointer hconst hvoid rfl⟩
                  · exact ⟨_, .outputArray l rfl hpointer hconst hvoid rfl⟩
          | true =>
              cases htext : d.isText with
              | true => exact ⟨_, .text rfl htext hconst⟩
              | false =>
                  cases length with
                  | some l => exact ⟨_, .inputArray l rfl htext hpointer hconst rfl⟩
                  | none =>
                      cases hoptional : d.optional with
                      | true => exact ⟨_, .optionalInput rfl htext hpointer hconst rfl hoptional⟩
                      | false => exact ⟨_, .input rfl htext hpointer hconst rfl hoptional⟩

theorem givesRole_initialRole (d : Declarator) (isSelf : Bool) (length : Option LengthReference) :
  d.GivesRole isSelf length (initialRole d length isSelf)
  := by
  obtain ⟨role, h⟩ := exists_givesRole d isSelf length
  rw [initialRole_of_givesRole h]
  exact h

/-! ### All links at once -/

/-- Where raw names are distinct, a link changes the one parameter of its name. -/
theorem linkCount_eq_map (distinct : (ps.map (·.rawName)).Nodup) (link : CountLink) :
  linkCount link ps = ps.map fun p => if p.rawName = link.count then asCount link p else p
  := by
  fun_induction linkCount link ps with
  | case1 => rfl
  | case2 p ps hname =>
      have hrest : ps.map (fun p => if p.rawName = link.count then asCount link p else p) = ps := by
        apply Eq.trans _ (List.map_id ps)
        apply List.map_congr_left
        intro q hq
        rw [if_neg, id_eq]
        intro heq
        apply (List.nodup_cons.mp distinct).1
        apply List.mem_map.mpr ⟨q, hq, heq.trans hname.symm⟩
      rw [List.map_cons, if_pos hname, hrest]
  | case3 p ps hname ih =>
      rw [List.map_cons, if_neg hname, ih (List.nodup_cons.mp distinct).2]

/-- A parameter after all links that name it. -/
def afterLinks (links : List CountLink) (p : Parameter) : Parameter :=
  (links.filter (·.count == p.rawName)).foldl (fun p link => asCount link p) p

/-- Where raw names are distinct, the links change each parameter by itself. -/
theorem foldl_linkCount_eq_map (distinct : (ps.map (·.rawName)).Nodup) (links : List CountLink) :
  links.foldl (fun ps link => linkCount link ps) ps = ps.map (afterLinks links)
  := by
  induction links generalizing ps with
  | nil => exact (List.map_id ps).symm
  | cons link links ih =>
      have hnames : (linkCount link ps).map (·.rawName) = ps.map (·.rawName) := by
        rw [linkCount_eq_map distinct, List.map_map]
        apply List.map_congr_left
        intro p _
        rw [Function.comp_apply]
        split
        · apply (linkedTo_asCount link p).rawName
        · rfl
      rw [List.foldl_cons, ih (hnames ▸ distinct), linkCount_eq_map distinct, List.map_map]
      apply List.map_congr_left
      intro p _
      rw [Function.comp_apply, afterLinks, afterLinks]
      by_cases hname : p.rawName = link.count
      · rw [if_pos hname, (linkedTo_asCount link p).rawName, List.filter_cons_of_pos (by simp [hname])]
        rfl
      · rw [if_neg hname, List.filter_cons_of_neg (by simpa using Ne.symm hname)]

/-! ### What becomes of one parameter -/

/-- The bound parameter is never a count. -/
theorem foldl_asCount_of_boundSelf (h : p.role = .boundSelf) (links : List CountLink) :
  links.foldl (fun p link => asCount link p) p = p
  := by
  induction links with
  | nil => rfl
  | cons link links ih =>
      have hlink : asCount link p = p := by simp only [asCount, h]
      rw [List.foldl_cons, hlink, ih]

/-- A count goes on counting its array, and can be derived if one of its arrays lets it. -/
theorem foldl_asCount_of_count {array : String} {existing : Bool}
    (h : p.role = .count array existing) (links : List CountLink) :
  links.foldl (fun p link => asCount link p) p
    = { p with role := .count array (existing || (links.any (·.isInput) && !p.isPointer)) }
  := by
  induction links generalizing p existing with
  | nil =>
      obtain ⟨⟩ := p
      obtain rfl := h
      simp
  | cons link links ih =>
      have hlink : asCount link p
          = { p with role := .count array (existing || (link.isInput && !p.isPointer)) } := by
        simp only [asCount, h]
      rw [List.foldl_cons, hlink, ih rfl]
      simp only [List.any_cons, Bool.and_or_distrib_right, Bool.or_assoc]

/-- Any other parameter is a count of the first array that has it as its length. -/
theorem foldl_asCount_cons (hself : p.role ≠ .boundSelf) (hcount : ¬p.role.IsCount)
    (link : CountLink) (links : List CountLink) :
  (link :: links).foldl (fun p link => asCount link p) p
    = { p with role := .count link.array ((link :: links).any (·.isInput) && !p.isPointer) }
  := by
  rcases asCount_cases link p with ⟨array, existing, hrole, -⟩ | ⟨hrole, -⟩ | ⟨-, heq⟩
  · exact absurd ⟨array, existing, hrole⟩ hcount
  · exact absurd hrole hself
  · rw [List.foldl_cons, heq, foldl_asCount_of_count rfl]
    simp only [List.any_cons, Bool.and_or_distrib_right]

/-- The links that name a parameter come from the arrays that it is the length of, in
order. -/
theorem filter_countLinks (ps : List Parameter) (name : String) :
  (countLinks ps).filter (·.count == name)
    = (ps.filter (·.role.directLength? == some name)).map fun a =>
        ⟨name, a.rawName, a.role.isInputArray⟩
  := by
  induction ps with
  | nil => rfl
  | cons p ps ih =>
      rw [countLinks] at ih ⊢
      cases hlength : p.role.directLength? with
      | none => simp [hlength, ih]
      | some count =>
          by_cases hname : count = name
          · simp [hlength, hname, ih]
          · simp [hlength, hname, ih]

/-- `q` is what a parameter `p` becomes that is declared among the parameters `ps`. -/
structure IsAssigned (ps : List Parameter) (p q : Parameter) : Prop where
  /-- Nothing but the role may change. -/
  declaration : q = { p with role := q.role }
  /-- The bound parameter stays what it is. -/
  boundSelf : p.role = .boundSelf → q.role = .boundSelf
  /-- Any other one is a count exactly if it is the length of an array by itself. -/
  isCount_iff : p.role ≠ .boundSelf → (q.role.IsCount ↔ ∃ a ∈ ps, a.role.IsArrayOf p.rawName)
  /-- A count is that of the first of its arrays. -/
  first : ∀ array derivable, q.role = .count array derivable →
    ∃ before a after, ps = before ++ a :: after ∧ a.rawName = array
      ∧ a.role.IsArrayOf p.rawName ∧ ∀ b ∈ before, ¬b.role.IsArrayOf p.rawName
  /-- A count can be derived exactly if it is no pointer and the caller gives one of its
  arrays. -/
  derivable_iff : ∀ array derivable, q.role = .count array derivable →
    (derivable = true
      ↔ p.isPointer = false ∧ ∃ a ∈ ps, a.role = .inputArray (.parameter p.rawName))
  /-- What is no count keeps its role. -/
  kept : ¬q.role.IsCount → q.role = p.role

/-- A parameter that linking leaves as it is. -/
theorem isAssigned_self (hcount : ¬p.role.IsCount)
    (h : p.role = .boundSelf ∨ ∀ a ∈ ps, ¬a.role.IsArrayOf p.rawName) :
  IsAssigned ps p p
  := by
  constructor
  · rfl
  · exact id
  · intro hself
    constructor
    · intro h
      exact absurd h hcount
    · rintro ⟨a, ha, harray⟩
      exact absurd harray (h.resolve_left hself a ha)
  · intro array derivable hrole
    exact absurd ⟨array, derivable, hrole⟩ hcount
  · intro array derivable hrole
    exact absurd ⟨array, derivable, hrole⟩ hcount
  · intro _
    rfl

/-- A parameter that is the length of some arrays, of which the first is given. -/
theorem isAssigned_count {a : Parameter} {arrays : List Parameter}
    (hself : p.role ≠ .boundSelf)
    (harrays : ps.filter (·.role.directLength? == some p.rawName) = a :: arrays) :
  IsAssigned ps p { p with
    role := .count a.rawName ((a :: arrays).any (·.role.isInputArray) && !p.isPointer) }
  := by
  obtain ⟨before, after, hps, hbefore, ha, -⟩ := List.filter_eq_cons_iff.mp harrays
  have harray (b : Parameter) : (b.role.directLength? == some p.rawName) = true
      ↔ b.role.IsArrayOf p.rawName := by
    rw [beq_iff_eq, Role.directLength?_eq_some_iff]
  constructor
  · rfl
  · intro h
    exact absurd h hself
  · intro _
    constructor
    · intro _
      use a, hps ▸ List.mem_append_right before List.mem_cons_self
      apply (harray a).mp ha
    · intro _
      exact ⟨_, _, rfl⟩
  · intro array derivable hrole
    obtain ⟨rfl, -⟩ := Role.count.inj hrole
    refine ⟨before, a, after, hps, rfl, (harray a).mp ha, ?_⟩
    intro b hb
    rw [← harray]
    apply hbefore b hb
  · intro array derivable hrole
    obtain ⟨-, rfl⟩ := Role.count.inj hrole
    rw [Bool.and_eq_true, Bool.not_eq_true', and_comm, ← harrays, List.any_filter, List.any_eq_true]
    apply and_congr_right'
    apply exists_congr
    intro b
    apply and_congr_right'
    rw [Bool.and_eq_true, beq_iff_eq, and_comm, Role.isInputArray_and_directLength?_iff]
  · intro h
    exact absurd ⟨_, _, rfl⟩ h

theorem isAssigned_afterLinks (hcount : ¬p.role.IsCount) (ps : List Parameter) :
  IsAssigned ps p (afterLinks (countLinks ps) p)
  := by
  rw [afterLinks, filter_countLinks]
  by_cases hself : p.role = .boundSelf
  · rw [foldl_asCount_of_boundSelf hself]
    apply isAssigned_self hcount (.inl hself)
  · cases harrays : ps.filter (·.role.directLength? == some p.rawName) with
    | nil =>
        apply isAssigned_self hcount
        right
        intro a ha
        rw [← Role.directLength?_eq_some_iff]
        simpa using List.filter_eq_nil_iff.mp harrays a ha
    | cons a arrays =>
        rw [List.map_cons, foldl_asCount_cons hself hcount]
        have hinput : (CountLink.mk p.rawName a.rawName a.role.isInputArray ::
            arrays.map fun a => CountLink.mk p.rawName a.rawName a.role.isInputArray).any (·.isInput)
            = (a :: arrays).any (·.role.isInputArray) := by
          rw [List.any_cons, List.any_map, List.any_cons]
          rfl
        rw [hinput]
        apply isAssigned_count hself harrays

/-- Linking assigns the roles of all parameters. -/
theorem isAssigned_linkCounts (distinct : (ps.map (·.rawName)).Nodup)
    (hcounts : ∀ p ∈ ps, ¬p.role.IsCount) :
  List.Forall₂ (IsAssigned ps) ps (linkCounts ps)
  := by
  rw [linkCounts, foldl_linkCount_eq_map distinct, List.forall₂_map_right_iff, List.forall₂_same]
  intro p hp
  apply isAssigned_afterLinks (hcounts p hp)

/-! ### The parameters of a command -/

/-- What a declaration says of a parameter of its own, beside the type. -/
structure IsDeclared (rawNames : List String) (isSelf : Bool) (d : Declarator) (p : Parameter) :
    Prop where
  rawName : p.rawName = d.rawName
  isPointer : p.isPointer = d.isPointer
  isConst : p.isConst = d.isConst
  length : p.length = d.lengthReference?.map LengthReference.parse
  length_mem : ∀ length, p.length = some length → length.parameterName ∈ rawNames
  role : d.GivesRole isSelf p.length p.role

theorem length_of_lengthOf (h : lengthOf rawNames d owner = .ok length) :
  length = d.lengthReference?.map LengthReference.parse
  := by
  rw [lengthOf] at h
  split at h
  · rename_i hnone
    rw [hnone, ← Except.ok.inj h]
    rfl
  · rename_i text htext
    dsimp only at h
    split at h
    · rw [htext, ← Except.ok.inj h]
      rfl
    · cases h

theorem isDeclared_of_ofDeclarator (h : ofDeclarator r owner rawNames isSelf d = .ok p) :
  IsDeclared rawNames isSelf d p
  := by
  obtain ⟨entity, length, treatment, -, hlength, -, rfl⟩ := ofDeclarator_eq_ok_iff.mp h
  constructor
  · rfl
  · rfl
  · rfl
  · apply length_of_lengthOf hlength
  · rintro l rfl
    apply parameterName_mem_of_lengthOf hlength
  · apply givesRole_initialRole

/-- Each parameter has the role that its declaration gives it, the first of which may be that
of the bound one, unless it is the length of an array by itself. -/
def HaveAssignedRoles (isBound : Bool) (ds : List Declarator) (ps : List Parameter) : Prop :=
  ∃ declared,
    List.Forall₂ (fun d p => IsDeclared (ps.map (·.rawName)) d.2 d.1 p) (withBound isBound ds)
        declared
      ∧ List.Forall₂ (IsAssigned declared) declared ps

/-- Where raw names are distinct, the parameters of a command have exactly the roles that
follow from their declarations and from the arrays that they are the lengths of. -/
theorem roles_of_ofCommand {command : Element} {isBound : Bool}
    (h : ofCommand r command owner isBound = .ok ps) (distinct : (ps.map (·.rawName)).Nodup) :
  ∃ ds, List.Forall₂ (fun e d => Declarator.parse e owner r.constants = .ok d)
      (command.elements "param") ds
    ∧ HaveAssignedRoles isBound ds ps
  := by
  obtain ⟨ds, hds, h⟩ := ofCommand_eq_ok_iff.mp h
  obtain ⟨declared, hdeclared, rfl⟩ := ofDeclarators_eq_ok_iff.mp h
  rw [map_rawName_linkCounts] at distinct
  refine ⟨ds, hds, declared, ?_, ?_⟩
  · rw [map_rawName_linkCounts, map_rawName_ofDeclarator hdeclared]
    apply hdeclared.imp
    intro d p hp
    apply isDeclared_of_ofDeclarator hp
  · apply isAssigned_linkCounts distinct
    intro p hp
    obtain ⟨d, isSelf, hp, -⟩ := exists_ofDeclarator hdeclared hp
    obtain ⟨_, _, _, _, _, _, rfl⟩ := ofDeclarator_eq_ok_iff.mp hp
    apply not_isCount_initialRole

/-- A bound parameter that is the length of an array, a count of an output and an input, and
an array that is the length of another one. -/
def sharedCount : Element :=
  Classification.commandDeclaration "vkSubmit" [
    Classification.numberDeclaration "" " " "queue" none,
    Classification.numberDeclaration "" " " "n" none,
    Classification.numberDeclaration "const " "* " "pQueues" (some "queue"),
    Classification.numberDeclaration "" "* " "pResults" (some "n"),
    Classification.numberDeclaration "const " "* " "pNumbers" (some "n"),
    Classification.numberDeclaration "const " "* " "pDigits" (some "pNumbers")]

/-- The count belongs to the output, which comes first, and can be derived from the input. -/
theorem roles_of_ofCommand_sharedCount :
  ∃ ps, ofCommand Classification.numberSetting.registry sharedCount "vkSubmit" true = .ok ps
    ∧ (ps.map (·.rawName)).Nodup
    ∧ (∃ ds, List.Forall₂ (fun e d => Declarator.parse e "vkSubmit"
            Classification.numberSetting.registry.constants = .ok d)
          (sharedCount.elements "param") ds
        ∧ HaveAssignedRoles true ds ps)
    ∧ ps.map (·.role) = [.boundSelf, .count "pResults" true, .inputArray (.parameter "queue"),
      .outputArray (.parameter "n"), .count "pDigits" false, .inputArray (.parameter "pNumbers")]
  := by
  have evaluated :
      (ofCommand Classification.numberSetting.registry sharedCount "vkSubmit" true).toOption.any
        (fun ps => decide (ps.map (·.rawName)).Nodup
          && ps.map (·.role) == [.boundSelf, .count "pResults" true,
            .inputArray (.parameter "queue"), .outputArray (.parameter "n"),
            .count "pDigits" false, .inputArray (.parameter "pNumbers")]) = true := by
    decide +kernel
  obtain ⟨ps, hps, h⟩ := (Option.any_eq_true _ _).mp evaluated
  rw [Bool.and_eq_true, decide_eq_true_eq] at h
  have made := Outcome.toOption_eq_some_iff.mp hps
  exact ⟨ps, made, h.1, roles_of_ofCommand made h.1, eq_of_beq h.2⟩

end Parameter

end NativeApi
