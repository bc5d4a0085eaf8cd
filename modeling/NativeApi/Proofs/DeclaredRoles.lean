import NativeApi.Command.Classification
import NativeApi.Proofs.Counts
import NativeApi.Proofs.PassedByValue

/-!
# Roles of declared parameters

The role of a parameter of a classified command agrees with how it is declared.  Results
come through pointers that native code writes through, what it writes through is a result
or a count, and a derivable count is no pointer and the length of a declared input array.
-/

namespace NativeApi

namespace Parameter

variable {r : Registry} {owner : String} {rawNames : List String} {isSelf : Bool}
  {d : Declarator} {p q : Parameter} {ds : List Declarator} {ps : List Parameter}

/-! ### One declaration -/

theorem ofDeclarator_eq_ok_iff :
  ofDeclarator r owner rawNames isSelf d = .ok p
    ↔ ∃ entity length treatment, r.resolveRaw d.rawType = .ok entity
        ∧ lengthOf rawNames d owner = .ok length
        ∧ r.treatmentOf entity.name = .ok treatment
        ∧ p = {
            name := Naming.parameterName d.rawName d.isPointer
            rawName := d.rawName
            declaredType := entity.name
            rawType := d.rawType
            isPointer := d.isPointer
            isConst := d.isConst
            isDoublePointer := d.isDoublePointer
            optional := d.optional
            length
            fixedLength := d.fixedLength
            treatment
            role := initialRole d length isSelf }
  := by
  unfold ofDeclarator
  constructor
  · intro h
    split at h
    · rename_i entity hentity
      obtain ⟨length, hlength, h⟩ := Outcome.bind_eq_ok_iff.mp h
      obtain ⟨treatment, htreatment, h⟩ := Outcome.bind_eq_ok_iff.mp h
      obtain rfl := Outcome.pure_eq_ok_iff.mp h
      exact ⟨entity, length, treatment, hentity, hlength, htreatment, rfl⟩
    · cases h
  · rintro ⟨entity, length, treatment, hentity, hlength, htreatment, rfl⟩
    rw [hentity]
    apply Outcome.bind_eq_ok_iff.mpr
    use length, hlength
    apply Outcome.bind_eq_ok_iff.mpr
    use treatment, htreatment
    rfl

theorem not_isCount_initialRole (d : Declarator) (length : Option LengthReference)
    (isSelf : Bool) :
  ¬(initialRole d length isSelf).IsCount
  := by
  rintro ⟨array, derivable, h⟩
  unfold initialRole at h
  repeat' split at h
  all_goals cases h

/-- A declaration is of a result where native code may write, but for the bound one. -/
theorem isOutput_initialRole (d : Declarator) (length : Option LengthReference)
    (isSelf : Bool) :
  (initialRole d length isSelf).isOutput = (!isSelf && (d.isPointer && !d.isConst))
  := by
  unfold initialRole
  cases isSelf with
  | true => rfl
  | false =>
      rw [if_neg Bool.false_ne_true, Bool.not_false, Bool.true_and]
      split
      · rename_i htext
        rw [Bool.and_eq_true] at htext
        rw [htext.2, Bool.not_true, Bool.and_false]
        rfl
      · split
        · rename_i hwritten
          rw [hwritten]
          split
          · split <;> rfl
          · rfl
        · rename_i hread
          rw [Bool.eq_false_iff.mpr hread]
          split
          · split <;> rfl
          · split <;> rfl

theorem length_of_initialRole {length : Option LengthReference} {l : LengthReference}
    (h : (initialRole d length isSelf).length? = some l) :
  length = some l
  := by
  unfold initialRole at h
  repeat' split at h
  all_goals first | exact h | cases h

theorem isPointer_of_initialRole {length : Option LengthReference} {count : LengthReference}
    (h : initialRole d length isSelf = .inputArray count) :
  d.isPointer = true
  := by
  unfold initialRole at h
  repeat' split at h
  all_goals first | assumption | cases h

/-- The role of a parameter agrees with how native code uses it: results are written, and
what is written is a result or a count; input arrays are pointers, and the length of an
array is the declared one. -/
structure RoleFits (p : Parameter) : Prop where
  output : p.role.isOutput = true → p.isWritten = true
  written : p.isWritten = true → p.role.isOutput = true ∨ p.role.IsCount
  inputArray : ∀ count, p.role = .inputArray count → p.isPointer = true
  length : ∀ length, p.role.length? = some length → p.length = some length

/-- The roles that declarations give by themselves fit, if the bound parameter is no
pointer. -/
theorem roleFits_ofDeclarator (hself : isSelf = true → d.isPointer = false)
    (h : ofDeclarator r owner rawNames isSelf d = .ok p) :
  p.RoleFits
  := by
  obtain ⟨entity, length, treatment, _, _, _, rfl⟩ := ofDeclarator_eq_ok_iff.mp h
  constructor
  · intro houtput
    rw [isOutput_initialRole, Bool.and_eq_true] at houtput
    exact houtput.2
  · intro hwritten
    left
    rw [isOutput_initialRole]
    cases isSelf with
    | true => simp [isWritten, hself rfl] at hwritten
    | false => exact hwritten
  · intro count hrole
    apply isPointer_of_initialRole hrole
  · intro l hlength
    apply length_of_initialRole hlength

/-- Linking changes a role that fits for one that fits. -/
theorem RoleFits.linkedTo (h : p.RoleFits) (hpq : p.LinkedTo q) : q.RoleFits := by
  rcases hpq.role with heq | hcount
  · constructor
    · rw [heq, hpq.isWritten]
      exact h.output
    · rw [heq, hpq.isWritten]
      exact h.written
    · rw [heq, hpq.isPointer]
      exact h.inputArray
    · rw [heq, hpq.length]
      exact h.length
  · constructor
    · intro houtput
      obtain ⟨array, derivable, hrole⟩ := hcount
      rw [hrole] at houtput
      cases houtput
    · intro _
      exact .inr hcount
    · intro count hrole
      apply absurd hcount
      rw [hrole]
      exact Role.not_isCount_of_length rfl
    · intro l hl
      exact absurd hcount (Role.not_isCount_of_length hl)

/-! ### The declarations of a command -/

/-- Each declaration with whether it is the bound one. -/
def withBound (isBound : Bool) : List Declarator → List (Declarator × Bool)
  | [] => []
  | first :: rest => (first, isBound) :: rest.map fun d => (d, false)

theorem ofDeclarators_eq_ok_iff {isBound : Bool} :
  ofDeclarators r owner isBound ds = .ok ps
    ↔ ∃ declared,
        List.Forall₂
            (fun d p => ofDeclarator r owner (ds.map (·.rawName)) d.2 d.1 = .ok p)
            (withBound isBound ds) declared
          ∧ linkCounts declared = ps
  := by
  unfold ofDeclarators
  cases ds with
  | nil => 
      rw [Outcome.pure_eq_ok_iff]
      constructor
      · rintro rfl
        use [], .nil
        rfl
      · rintro ⟨declared, h, rfl⟩
        cases h
        rfl
  | cons first rest =>
      rw [Outcome.bind_eq_ok_iff]
      constructor
      · rintro ⟨head, hhead, h⟩
        obtain ⟨tail, htail, h⟩ := Outcome.bind_eq_ok_iff.mp h
        use head :: tail
        use .cons hhead (List.forall₂_map_left_iff.mpr (Outcome.mapM_eq_ok_iff.mp htail))
        apply Outcome.pure_eq_ok_iff.mp h
      · rintro ⟨declared, h, rfl⟩
        obtain ⟨head, tail, hhead, htail, rfl⟩ := List.forall₂_cons_left_iff.mp h
        use head, hhead
        apply Outcome.bind_eq_ok_iff.mpr
        use tail, Outcome.mapM_eq_ok_iff.mpr (List.forall₂_map_left_iff.mp htail)
        rfl

theorem ofCommand_eq_ok_iff {command : Element} {isBound : Bool} :
  ofCommand r command owner isBound = .ok ps
    ↔ ∃ ds,
        List.Forall₂ (fun e d => Declarator.parse e owner r.constants = .ok d)
            (command.elements "param") ds
          ∧ ofDeclarators r owner isBound ds = .ok ps
  := by
  unfold ofCommand
  rw [Outcome.bind_eq_ok_iff]
  constructor
  · rintro ⟨ds, hds, h⟩
    use ds, Outcome.mapM_eq_ok_iff.mp hds, h
  · rintro ⟨ds, hds, h⟩
    use ds, Outcome.mapM_eq_ok_iff.mpr hds, h

theorem parameterName_mem_of_lengthOf {length : LengthReference}
    (h : lengthOf rawNames d owner = .ok (some length)) :
  length.parameterName ∈ rawNames
  := by
  unfold lengthOf at h
  split at h
  · cases h
  · dsimp only at h
    split at h
    · rename_i hmem
      obtain rfl := Option.some.inj (Except.ok.inj h)
      exact List.contains_iff_mem.mp hmem
    · cases h

/-- Parameters have the raw names of their declarations. -/
theorem map_rawName_ofDeclarator {isBound : Bool} {declared : List Parameter}
    (h : List.Forall₂ (fun d p => ofDeclarator r owner rawNames d.2 d.1 = .ok p)
      (withBound isBound ds) declared) :
  declared.map (·.rawName) = ds.map (·.rawName)
  := by
  have hnames : (withBound isBound ds).map (fun d => d.1.rawName) = declared.map (·.rawName) := by
    rw [← List.forall₂_eq_eq_eq, List.forall₂_map_left_iff, List.forall₂_map_right_iff]
    apply h.imp
    intro d p hp
    obtain ⟨_, _, _, _, _, _, rfl⟩ := ofDeclarator_eq_ok_iff.mp hp
    rfl
  rw [← hnames]
  cases ds with
  | nil => rfl
  | cons first rest => simp [withBound]

/-- A parameter of some declarations is made by one of them, which is the bound one only
if it is the first. -/
theorem exists_ofDeclarator {isBound : Bool} {declared : List Parameter}
    (h : List.Forall₂ (fun d p => ofDeclarator r owner rawNames d.2 d.1 = .ok p)
      (withBound isBound ds) declared)
    (hp : p ∈ declared) :
  ∃ d isSelf, ofDeclarator r owner rawNames isSelf d = .ok p
    ∧ (isSelf = true → isBound = true ∧ ds.head? = some d)
  := by
  obtain ⟨⟨d, isSelf⟩, hd, hp⟩ := Outcome.exists_of_mem_right h hp
  use d, isSelf, hp
  intro hself
  cases ds with
  | nil => cases hd
  | cons first rest =>
      rcases List.mem_cons.mp hd with heq | hd
      · obtain ⟨rfl, rfl⟩ := Prod.mk.inj heq
        use hself
        rfl
      · obtain ⟨_, _, heq⟩ := List.mem_map.mp hd
        obtain ⟨rfl, rfl⟩ := Prod.mk.inj heq
        cases hself

/-! ### The parameters of a command -/

/-- What the roles of the parameters of a command have in common. -/
structure RolesFit (ps : List Parameter) : Prop where
  fits : ∀ p ∈ ps, p.RoleFits
  lengths : ∀ p ∈ ps, ∀ length, p.length = some length →
    length.parameterName ∈ ps.map (·.rawName)
  counts : ∀ q ∈ ps, ∀ name, q.role.directLength? = some name → Settled name ps
  derivable : ∀ p ∈ ps, ∀ array, p.role = .count array true →
    p.isPointer = false
      ∧ ∃ q ∈ ps, q.length = some (.parameter p.rawName) ∧ q.isPointer = true
          ∧ (q.role = .inputArray (.parameter p.rawName) ∨ q.role.IsCount)

theorem rolesFit_ofDeclarators {isBound : Bool}
    (hbound : isBound = true → ∀ d, ds.head? = some d → d.isPointer = false)
    (h : ofDeclarators r owner isBound ds = .ok ps) :
  RolesFit ps
  := by
  obtain ⟨declared, hdeclared, rfl⟩ := ofDeclarators_eq_ok_iff.mp h
  have hfits : ∀ p ∈ declared, p.RoleFits := by
    intro p hp
    obtain ⟨d, isSelf, hp, hself⟩ := exists_ofDeclarator hdeclared hp
    apply roleFits_ofDeclarator _ hp
    intro h
    apply hbound (hself h).1 d (hself h).2
  have hcounts : ∀ p ∈ declared, ¬p.role.IsCount := by
    intro p hp
    obtain ⟨d, isSelf, hp, _⟩ := exists_ofDeclarator hdeclared hp
    obtain ⟨_, _, _, _, _, _, rfl⟩ := ofDeclarator_eq_ok_iff.mp hp
    apply not_isCount_initialRole
  constructor
  · intro q hq
    obtain ⟨p, hp, hpq⟩ := exists_linkedTo hq
    apply (hfits p hp).linkedTo hpq
  · intro q hq length hlength
    obtain ⟨p, hp, hpq⟩ := exists_linkedTo hq
    obtain ⟨d, isSelf, hp, _⟩ := exists_ofDeclarator hdeclared hp
    obtain ⟨_, declaredLength, _, _, hlengthOf, _, rfl⟩ := ofDeclarator_eq_ok_iff.mp hp
    obtain rfl : declaredLength = some length := hpq.length.symm.trans hlength
    rw [map_rawName_linkCounts, map_rawName_ofDeclarator hdeclared]
    apply parameterName_mem_of_lengthOf hlengthOf
  · intro q hq name hname
    apply settled_linkCounts hq hname
  · intro p hp array hrole
    obtain ⟨hpointer, q, hq, hinput⟩ := derivable_linkCounts hcounts hp hrole
    obtain ⟨q', hmem, hlinked⟩ := exists_mem_linkCounts hq
    have hfit := hfits q hq
    use hpointer, q', hmem
    rw [hlinked.length, hlinked.isPointer]
    use hfit.length _ (by rw [hinput]; rfl), hfit.inputArray _ hinput
    rw [← hinput]
    exact hlinked.role

end Parameter

namespace Classification

/-! ### The bound parameter -/

/-- The parameter that a command is bound to is no pointer. -/
theorem isPointer_of_boundHandle {r : Registry} {command : Element} {owner : String}
    {ds : List Declarator} (hbound : (boundHandle? r command).isSome = true)
    (hds : List.Forall₂ (fun e d => Declarator.parse e owner r.constants = .ok d)
      (command.elements "param") ds)
    {d : Declarator} (hd : ds.head? = some d) :
  d.isPointer = false
  := by
  obtain ⟨handle, hhandle⟩ := Option.isSome_iff_exists.mp hbound
  obtain ⟨first, hfirst, h⟩ := Option.bind_eq_some_iff.mp hhandle
  obtain ⟨rawType, _, h⟩ := Option.bind_eq_some_iff.mp h
  split at h
  · cases h
  · rename_i noStar
    have hhead : (command.elements "param").head? = some first := by
      rw [Element.head?_elements, hfirst]
    obtain ⟨rest, hrest⟩ := List.head?_eq_some_iff.mp hhead
    obtain ⟨others, rfl⟩ := List.head?_eq_some_iff.mp hd
    rw [hrest] at hds
    apply Declarator.isPointer_of_no_star (List.forall₂_cons.mp hds).1
    apply Bool.eq_false_iff.mpr noStar

/-! ### Accepted commands -/

theorem commandOf_eq_ok_iff {s : Setting} {element proto : Element} {name : String}
    {isBound : Bool} {command : Command} :
  commandOf s element proto name isBound = .ok command
    ↔ ∃ rawReturnType entity parameters, proto.childText? "type" = some rawReturnType
        ∧ s.registry.resolveRaw rawReturnType = .ok entity
        ∧ Parameter.ofCommand s.registry element name isBound = .ok parameters
        ∧ command = {
            name
            returnType := entity.name
            rawReturnType
            parameters
            resultConvention :=
              if rawReturnType = s.options.statusType then .statusCode else .value }
  := by
  unfold commandOf
  constructor
  · intro h
    split at h
    · rename_i rawReturnType htype
      split at h
      · rename_i entity hentity
        obtain ⟨parameters, hparameters, h⟩ := Outcome.bind_eq_ok_iff.mp h
        obtain rfl := Outcome.pure_eq_ok_iff.mp h
        exact ⟨rawReturnType, entity, parameters, htype, hentity, hparameters, rfl⟩
      · cases h
    · cases h
  · rintro ⟨rawReturnType, entity, parameters, htype, hentity, hparameters, rfl⟩
    rw [htype]
    dsimp only
    rw [hentity]
    apply Outcome.bind_eq_ok_iff.mpr
    use parameters, hparameters
    rfl

theorem ofElement_eq_some_iff {s : Setting} {element : Element} {c : Classification} :
  ofElement s element = .ok (some c)
    ↔ ∃ proto name command, element.element? "proto" = some proto
        ∧ proto.childText? "name" = some name
        ∧ s.aliases.isAlias name = false
        ∧ s.options.handwrittenCommands.contains name = false
        ∧ commandOf s element proto name (boundHandle? s.registry element).isSome = .ok command
        ∧ c = ofCommand s (boundHandle? s.registry element) command
  := by
  unfold ofElement
  constructor
  · intro h
    split at h
    · rename_i proto hproto
      split at h
      · rename_i name hname
        split at h
        · cases h
        · rename_i hwrapped
          obtain ⟨command, hcommand, h⟩ := Outcome.bind_eq_ok_iff.mp h
          obtain rfl := Option.some.inj (Outcome.pure_eq_ok_iff.mp h)
          rw [Bool.or_eq_true, not_or, Bool.not_eq_true, Bool.not_eq_true] at hwrapped
          exact ⟨proto, name, command, hproto, hname, hwrapped.1, hwrapped.2, hcommand, rfl⟩
      · cases h
    · split at h
      · split at h
        · cases h
        · cases h
      · cases h
  · rintro ⟨proto, name, command, hproto, hname, halias, hhandwritten, hcommand, rfl⟩
    rw [hproto]
    dsimp only
    rw [hname]
    dsimp only
    rw [halias, hhandwritten, hcommand]
    rfl

/-- The parameters of an accepted command have roles that fit. -/
theorem rolesFit_of_ofElement {s : Setting} {element : Element} {c : Classification}
    (h : ofElement s element = .ok (some c)) :
  Parameter.RolesFit c.command.parameters
  := by
  obtain ⟨proto, name, command, _, _, _, _, hcommand, rfl⟩ := ofElement_eq_some_iff.mp h
  obtain ⟨_, _, parameters, _, _, hparameters, rfl⟩ := commandOf_eq_ok_iff.mp hcommand
  obtain ⟨ds, hds, hparameters⟩ := Parameter.ofCommand_eq_ok_iff.mp hparameters
  apply Parameter.rolesFit_ofDeclarators _ hparameters
  intro hbound d hd
  apply isPointer_of_boundHandle hbound hds hd

end Classification

end NativeApi
