import Mathlib.Data.List.DropRight
import NativeApi.Proofs.Declarations
import NativeApi.Proofs.PassedByValue
import NativeApi.Registration.Composites

/-!
# The declared composites

Composites are registered without members, then their aliases, and then each learns its
members.  Main statements: what the learnt members refer to is there, the counters that a
table gives them included, and this stage leaves the raw names of all declarations of
structures and unions known.
-/

namespace NativeApi

/-! ### Raw names and length paths -/

/-- Trimmed text has no more white space on either side. -/
theorem Text.trim_trim (s : String) :
  Text.trim (Text.trim s) = Text.trim s
  := by
  have hend (cs : List Char) : dropEndWhile isBlank cs = cs.rdropWhile isBlank := rfl
  rw [trim, trim, String.toList_ofList, trimChars, trimChars, hend, hend]
  -- what is left begins as before, since it is a beginning of what was left
  have hbegin : ((s.toList.dropWhile isBlank).rdropWhile isBlank).dropWhile isBlank
      = (s.toList.dropWhile isBlank).rdropWhile isBlank := by
    apply List.dropWhile_eq_self_iff.mpr
    intro hlength
    have hfront := List.rdropWhile_prefix isBlank (l := s.toList.dropWhile isBlank)
    rw [hfront.getElem hlength]
    apply List.dropWhile_eq_self_iff.mp (List.dropWhile_idempotent isBlank _)
  rw [hbegin, List.rdropWhile_idempotent]

namespace LengthReference

/-- A text without arrows and double colons is its own beginning. -/
theorem headChars_eq_self {cs : List Char} (h : (pieces cs).length ≤ 1) :
  headChars cs = cs
  := by
  fun_induction pieces cs with
  | case1 => rfl
  | case2 cs _ => exact absurd (by simpa using h) (pieces_ne_nil cs)
  | case3 cs _ => exact absurd (by simpa using h) (pieces_ne_nil cs)
  | case4 c cs _ _ hnil _ => exact absurd hnil (pieces_ne_nil cs)
  | case5 c cs _ _ piece rest hpieces ih =>
      have htail : headChars cs = cs := by
        apply ih
        rw [hpieces]
        simpa using h
      rw [headChars, htail] <;> assumption

/-- Trimmed text without arrows and double colons is the name that it begins with. -/
theorem head_eq_self {text : String} (htrim : Text.trim text = text)
    (hpieces : (pieces text.toList).length ≤ 1) :
  head text = text
  := by
  rw [head_eq, headChars_eq_self hpieces]
  exact htrim

end LengthReference

/-! ### Members as they are declared -/

/-- A member as it is declared: its type is there, it has no counter, and it holds an array
of linked length only where it is a pointer. -/
structure Member.IsDeclared (r : Registry) (m : Member) : Prop where
  isSome_declaredType : (r.idOf? m.declaredType).isSome = true
  isPointer : ∀ path, m.arity = .linkedArray path → m.isPointer = true
  counter : m.counter = none
  trim_rawName : Text.trim m.rawName = m.rawName

theorem Declarator.trim_rawName {e : Element} {owner : String} {constants : Dict Int}
    {d : Declarator} (h : parse e owner constants = .ok d) :
  Text.trim d.rawName = d.rawName
  := by
  obtain ⟨_, _, _, -, -, -, rfl⟩ := parse_eq_ok_iff.mp h
  apply Text.trim_trim

namespace Registry

variable {counters : Dict String} {r r' : Registry} {o : Options} {n : Naming} {d : Document}
  {type e : Element} {owner name : String} {members members' : List Member} {m : Member}

theorem isPointer_of_arityOf {d : Declarator} {path : String} (h : arityOf d = .linkedArray path) :
  d.isPointer = true
  := by
  rw [arityOf] at h
  split at h
  · cases h
  · split at h
    · split at h
      · assumption
      · cases h
    · cases h

/-- One registry goes on from another, and so do members as they are declared. -/
structure Learns (counters : Dict String) (s s' : Registry × List Member) : Prop where
  grows : Grows counters s.1 s'.1
  declared : (∀ m ∈ s.2, m.IsDeclared s.1) → ∀ m ∈ s'.2, m.IsDeclared s'.1

theorem Learns.trans {s s' s'' : Registry × List Member} (h : Learns counters s s')
    (h' : Learns counters s' s'') :
  Learns counters s s''
  := ⟨h.grows.trans h'.grows, h'.declared ∘ h.declared⟩

theorem addMember_learns {state state' : Registry × List Member}
    (h : addMember o n owner state e = .ok state') :
  Learns counters state state'
  := by
  obtain ⟨r, members⟩ := state
  rw [addMember] at h
  obtain ⟨d, hd, h⟩ := Outcome.bind_eq_ok_iff.mp h
  obtain ⟨⟨next, declaredType⟩, href, h⟩ := Outcome.bind_eq_ok_iff.mp h
  obtain rfl := Outcome.pure_eq_ok_iff.mp h
  have hgrows : Grows counters r next := (reference_builds href).grows
  use hgrows
  intro hmembers m hm
  rcases List.mem_append.mp hm with hm | hm
  · have hdeclared := hmembers m hm
    exact ⟨hgrows.extended.isSome_idOf? hdeclared.isSome_declaredType, hdeclared.isPointer,
      hdeclared.counter, hdeclared.trim_rawName⟩
  · obtain rfl := List.mem_singleton.mp hm
    exact ⟨isSome_idOf?_of_reference href, fun path => isPointer_of_arityOf, rfl, Declarator.trim_rawName hd⟩

theorem checkLengthMembers_eq_ok_iff :
  checkLengthMembers members owner = .ok ()
    ↔ ∀ m ∈ members, ∀ path, m.arity = .linkedArray path →
      ∃ sibling ∈ members, sibling.rawName = LengthReference.head path
  := by
  rw [checkLengthMembers, Outcome.forM_eq_ok_iff]
  apply forall₂_congr
  intro m hm
  cases m.arity with
  | linkedArray path =>
      simp [List.any_eq_true]
  | scalar => simp
  | fixedArray length => simp

/-! ### Counters -/

/-- The raw names of members by their names. -/
def rawNamesOf (members : List Member) : Dict String :=
  .ofList (members.map fun m => (m.name, m.rawName))

theorem exists_mem_of_rawNamesOf {raw : String} (h : (rawNamesOf members).get? name = some raw) :
  ∃ sibling ∈ members, sibling.name = name ∧ sibling.rawName = raw
  := by
  obtain ⟨sibling, hsibling, heq⟩ := List.mem_map.mp (Dict.mem_of_get?_ofList h)
  obtain ⟨rfl, rfl⟩ := Prod.mk.inj heq
  use sibling, hsibling

/-- A table leaves a member as it is, or links a pointer to a sibling, or gives an inline
array its counter. -/
theorem withCounter_cases (counters : Dict String) (members : List Member) (m : Member) :
  withCounter counters (rawNamesOf members) m = m
    ∨ ∃ sibling ∈ members, counters.get? m.name = some sibling.name
      ∧ (m.isPointer = true
          ∧ withCounter counters (rawNamesOf members) m
            = { m with arity := .linkedArray sibling.rawName }
        ∨ withCounter counters (rawNamesOf members) m
            = { m with counter := some sibling.rawName }
          ∧ ∃ length, m.arity = .fixedArray length)
  := by
  rw [withCounter]
  cases hcounter : (counters.get? m.name).bind (rawNamesOf members).get? with
  | none => exact .inl rfl
  | some raw =>
      obtain ⟨counter, hname, hraw⟩ := Option.bind_eq_some_iff.mp hcounter
      obtain ⟨sibling, hsibling, rfl, rfl⟩ := exists_mem_of_rawNamesOf hraw
      cases harity : m.arity with
      | scalar =>
          by_cases hpointer : m.isPointer = true
          · right
            use sibling, hsibling, hname
            use .inl ⟨hpointer, by simp [hpointer]⟩
          · left
            simp [hpointer]
      | fixedArray length =>
          right
          use sibling, hsibling, hname
          use .inr ⟨rfl, length, rfl⟩
      | linkedArray path => exact .inl rfl

theorem rawName_withCounter (counters : Dict String) (members : List Member) (m : Member) :
  (withCounter counters (rawNamesOf members) m).rawName = m.rawName
  := by
  obtain h | ⟨_, _, _, ⟨_, h⟩ | ⟨h, _⟩⟩ := withCounter_cases counters members m <;> rw [h]

theorem name_withCounter (counters : Dict String) (members : List Member) (m : Member) :
  (withCounter counters (rawNamesOf members) m).name = m.name
  := by
  obtain h | ⟨_, _, _, ⟨_, h⟩ | ⟨h, _⟩⟩ := withCounter_cases counters members m <;> rw [h]

/-- A table takes no raw name from the members. -/
theorem exists_rawName_withCounters {raw : String}
    (h : ∃ sibling ∈ members, sibling.rawName = raw) (counters : Dict String) :
  ∃ sibling ∈ withCounters counters members, sibling.rawName = raw
  := by
  obtain ⟨sibling, hsibling, rfl⟩ := h
  use withCounter counters (rawNamesOf members) sibling, List.mem_map_of_mem hsibling
  apply rawName_withCounter

theorem fits_withCounters (declared : ∀ m ∈ members, m.IsDeclared r)
    (linked : ∀ m ∈ members, ∀ path, m.arity = .linkedArray path →
      ∃ sibling ∈ members, sibling.rawName = LengthReference.head path) :
  ∀ m ∈ withCounters counters members, m.Fits counters r (withCounters counters members)
  := by
  intro m hm
  obtain ⟨m, hmem, rfl⟩ := List.mem_map.mp hm
  change Member.Fits _ _ _ (withCounter counters (rawNamesOf members) m)
  have hdeclared := declared m hmem
  obtain heq | ⟨sibling, hsibling, hname, ⟨hpointer, heq⟩ | ⟨heq, length, harity⟩⟩ :=
    withCounter_cases counters members m
  · rw [heq]
    constructor
    · apply hdeclared.isSome_declaredType
    · apply hdeclared.isPointer
    · intro path hpath
      obtain ⟨other, hother, hhead⟩ := exists_rawName_withCounters (linked m hmem path hpath) counters
      use other, hother, .inl hhead
    · intro raw hraw
      rw [hdeclared.counter] at hraw
      cases hraw
  · -- the whole raw name of the sibling is the path
    have htrim := (declared sibling hsibling).trim_rawName
    rw [heq]
    constructor
    · apply hdeclared.isSome_declaredType
    · intro path _
      exact hpointer
    · rintro path ⟨⟩
      use withCounter counters (rawNamesOf members) sibling, List.mem_map_of_mem hsibling
      rw [Member.LeadsTo, rawName_withCounter, name_withCounter]
      by_cases hpieces : 1 < (LengthReference.pieces sibling.rawName.toList).length
      · exact .inr ⟨hname, rfl, hpieces⟩
      · exact .inl (LengthReference.head_eq_self htrim (Nat.le_of_not_lt hpieces)).symm
    · intro raw hraw
      rw [hdeclared.counter] at hraw
      cases hraw
  · rw [heq]
    constructor
    · apply hdeclared.isSome_declaredType
    · apply hdeclared.isPointer
    · intro path hpath
      rw [harity] at hpath
      cases hpath
    · rintro raw ⟨⟩
      apply exists_rawName_withCounters ⟨sibling, hsibling, rfl⟩

/-! ### Composites -/

theorem isSome_idOf?_of_extendedBy (h : r.extendedBy type owner = .ok (some name)) :
  (r.idOf? name).isSome = true
  := by
  rw [extendedBy] at h
  split at h
  · cases h
  · simp only at h
    split at h
    · cases h
    · split at h
      · rename_i hname
        obtain ⟨⟩ := h
        apply isSome_idOf?_canonicalOfRaw? hname
      · cases h

/-- A composite that has learnt its members is still one of the same name. -/
theorem label_describe (e : Entity) (members : List Member) (base structureType : Option String) :
  Entity.label { e with kind := describe members base structureType e.kind } = Entity.label e
  := by
  obtain ⟨name, rawName, kind⟩ := e
  cases kind <;> rfl

theorem learnMembers_grows {declared : Nat × Element} (h : learnMembers o n r declared = .ok r') :
  Grows o.fieldCounters r r'
  := by
  obtain ⟨id, type⟩ := declared
  rw [learnMembers] at h
  obtain ⟨⟨next, members⟩, hmembers, h⟩ := Outcome.bind_eq_ok_iff.mp h
  obtain ⟨_, hchecked, h⟩ := Outcome.bind_eq_ok_iff.mp h
  obtain ⟨base, hbase, h⟩ := Outcome.bind_eq_ok_iff.mp h
  obtain rfl := Outcome.pure_eq_ok_iff.mp h
  have learnt : Learns o.fieldCounters (r, []) (next, members) := by
    apply Outcome.foldlM_rel (R := Learns o.fieldCounters) _ _ _ hmembers
    · intro s
      use .refl s.1, fun h => h
    · apply Learns.trans
    · intro s e s'
      apply addMember_learns
  apply learnt.grows.trans
  apply grows_modifyKind
  · intro e _
    apply label_describe
  · intro e c _ hkind
    have hlinked := checkLengthMembers_eq_ok_iff.mp hchecked
    have hfits : ∀ m ∈ withCounters o.fieldCounters members,
        m.Fits o.fieldCounters next (withCounters o.fieldCounters members) :=
      fits_withCounters (learnt.declared (by simp)) hlinked
    cases he : e.kind with
    | composite c₀ =>
        rw [he] at hkind
        obtain ⟨⟩ := hkind
        constructor
        · exact hfits
        · rintro name rfl
          apply isSome_idOf?_of_extendedBy hbase
    | _ =>
        rw [he] at hkind
        cases hkind

theorem declareComposite_registers {s s' : CompositeDeclarations}
    (h : declareComposite n s type = .ok s') :
  Registers counters
    (fun raw => (compositeKind? type).isSome = true ∧ type.declaredName? = some raw)
    (s.registry, s.aliases) (s'.registry, s'.aliases)
  := by
  rw [declareComposite] at h
  cases hkind : compositeKind? type with
  | none =>
      rw [hkind] at h
      obtain rfl := Except.ok.inj h
      use .refl _, fun _ hdeclared => hdeclared
      simp
  | some kind =>
      simp only [hkind] at h
      cases hraw : type.declaredName? with
      | none =>
          rw [hraw] at h
          cases h
      | some raw =>
          simp only [hraw] at h
          apply Registers.imp _ (fun raw' hraw' => hraw'.2)
          cases halias : type.attribute? "alias" with
          | some target =>
              rw [halias] at h
              obtain rfl := Except.ok.inj h
              apply registers_deferred
          | none =>
              rw [halias] at h
              obtain rfl := Except.ok.inj h
              apply Grows.registers_known
              · apply grows_register
                rintro c ⟨⟩
                exact ⟨rfl, rfl⟩
              · apply isSome_idOfRaw?_register

theorem registerCompositeAlias_registers {names : List String} {declared : DeclaredAlias}
    (h : registerCompositeAlias n names r declared = .ok r') :
  Registers counters (fun raw => declared.rawName = raw) (r, []) (r', [])
  := by
  rw [registerCompositeAlias] at h
  split at h
  · obtain rfl := Except.ok.inj h
    apply registers_alias
  · split at h
    · obtain rfl := Except.ok.inj h
      apply registers_alias
    · cases h

theorem isSome_compositeKind?_iff :
  (compositeKind? type).isSome = true
    ↔ type.attribute? "category" = some "struct" ∨ type.attribute? "category" = some "union"
  := by
  rw [compositeKind?]
  cases type.attribute? "category" with
  | none => simp
  | some category =>
      simp only [Option.some.injEq]
      by_cases hstruct : category = "struct"
      · simp [hstruct]
      · by_cases hunion : category = "union"
        · simp [hunion]
        · simp [hstruct, hunion]

theorem registerComposites_registers (h : registerComposites o n d r = .ok r') :
  Registers o.fieldCounters (fun raw => d.Declares "struct" raw ∨ d.Declares "union" raw)
    (r, []) (r', [])
  := by
  rw [registerComposites] at h
  obtain ⟨s, hdeclared, h⟩ := Outcome.bind_eq_ok_iff.mp h
  obtain ⟨next, haliases, hmembers⟩ := Outcome.bind_eq_ok_iff.mp h
  have composites : Registers o.fieldCounters
      (fun raw => ∃ type ∈ d.types,
        (compositeKind? type).isSome = true ∧ type.declaredName? = some raw)
      (r, []) (s.registry, s.aliases) := by
    apply registers_foldlM (fun s : CompositeDeclarations => (s.registry, s.aliases)) _ hdeclared
    intro s type s'
    apply declareComposite_registers
  have aliased : Registers o.fieldCounters
      (fun raw => ∃ declared ∈ s.aliases, declared.rawName = raw) (s.registry, []) (next, []) := by
    apply registers_foldlM (fun r => (r, [])) _ haliases
    intro r declared r'
    apply registerCompositeAlias_registers
  have learnt : Grows o.fieldCounters next r' := by
    apply grows_foldlM id _ hmembers
    intro r declared r'
    apply learnMembers_grows
  apply ((composites.settle aliased).grow learnt).imp
  rintro raw (⟨type, hmem, hcategory, hraw⟩ | ⟨type, hmem, hcategory, hraw⟩)
  · use type, hmem, isSome_compositeKind?_iff.mpr (.inl hcategory)
  · use type, hmem, isSome_compositeKind?_iff.mpr (.inr hcategory)

end Registry

end NativeApi
