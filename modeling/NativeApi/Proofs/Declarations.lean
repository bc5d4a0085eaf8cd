import NativeApi.Proofs.Growth

/-!
# The declared enumerations and handles

Enumerations and handles are registered where they are declared, and their aliases once
all declarations are.  Main statements: these two stages grow the registry, and leave the
raw names of all declarations of flags, enumerations and handles known.
-/

namespace NativeApi

/-- A type of a category is declared with a raw name. -/
def Document.Declares (d : Document) (category raw : String) : Prop :=
  ∃ type ∈ d.types, type.attribute? "category" = some category ∧ type.declaredName? = some raw

theorem Document.declares_iff {d : Document} {category raw : String} :
  d.Declares category raw ↔ ∃ type ∈ d.typesOf category, type.declaredName? = some raw
  := by
  simp [Declares, typesOf, and_assoc]

namespace Registry

variable {counters : Dict String} {r r' : Registry} {raw : String} {o : Options} {n : Naming}
  {d : Document} {type : Element} {declared : DeclaredAlias} {aliases : List DeclaredAlias}

/-- A declaration that puts off an alias of its raw name. -/
theorem registers_deferred (counters : Dict String) (r : Registry) (aliases : List DeclaredAlias)
    (raw target : String) :
  Registers counters (fun raw' => some raw = some raw') (r, aliases)
    (r, aliases ++ [⟨raw, target⟩])
  := by
  use .refl r, fun declared hdeclared => List.mem_append_left _ hdeclared
  rintro raw' ⟨⟩
  use .inr ⟨_, List.mem_append_right _ (List.mem_singleton_self _), rfl⟩

/-- A declaration that leaves its raw name known. -/
theorem Grows.registers_known (h : Grows counters r r')
    (hknown : (r'.idOfRaw? raw).isSome = true) (aliases : List DeclaredAlias) :
  Registers counters (fun raw' => some raw = some raw') (r, aliases) (r', aliases)
  := by
  use h, fun _ hdeclared => hdeclared
  rintro raw' ⟨⟩
  use .inl hknown

theorem grows_registerEnumeration (r : Registry) (raw name : String) (e : Enumeration) :
  Grows counters r (r.register raw name (.enumeration e)).1
  := by
  apply grows_register
  intro c hc
  cases hc

/-- An alias is known once it is registered. -/
theorem registers_alias (counters : Dict String) (r : Registry) (raw name target : String) :
  Registers counters (fun raw' => raw = raw') (r, [])
    ((r.register raw name (.aliasOf target)).1, [])
  := by
  apply registers_of_known
  · apply grows_register
    intro c hc
    cases hc
  · rintro raw' rfl
    apply isSome_idOfRaw?_register

/-! ### Enumerations -/

theorem declareBitmask_registers {s s' : EnumDeclarations} (h : declareBitmask n s type = .ok s') :
  Registers counters (fun raw => type.declaredName? = some raw) (s.registry, s.aliases)
    (s'.registry, s'.aliases)
  := by
  rw [declareBitmask] at h
  cases hraw : type.declaredName? with
  | none =>
      rw [hraw] at h
      cases h
  | some raw =>
      simp only [hraw] at h
      cases halias : type.attribute? "alias" with
      | some target =>
          rw [halias] at h
          obtain rfl := Except.ok.inj h
          apply registers_deferred
      | none =>
          rw [halias] at h
          have registered : Registers counters (fun raw' => some raw = some raw')
              (s.registry, s.aliases)
              ((s.registry.register raw (n.typeName raw)
                (.enumeration (Enumeration.declared true))).1, s.aliases) := by
            apply (grows_registerEnumeration _ _ _ _).registers_known
            apply isSome_idOfRaw?_register
          simp only at h
          split at h
          · obtain rfl := Except.ok.inj h
            apply registered.grow
            apply grows_addRawName
          · obtain rfl := Except.ok.inj h
            apply registered

theorem declareEnum_registers {s s' : EnumDeclarations} (h : declareEnum n d s type = .ok s') :
  Registers counters (fun raw => type.declaredName? = some raw) (s.registry, s.aliases)
    (s'.registry, s'.aliases)
  := by
  rw [declareEnum] at h
  cases hraw : type.declaredName? with
  | none =>
      rw [hraw] at h
      cases h
  | some raw =>
      simp only [hraw] at h
      cases halias : type.attribute? "alias" with
      | some target =>
          rw [halias] at h
          obtain rfl := Except.ok.inj h
          apply registers_deferred
      | none =>
          rw [halias] at h
          simp only at h
          split at h
          · rename_i hknown
            obtain rfl := Except.ok.inj h
            apply (Grows.refl _).registers_known hknown
          · obtain rfl := Except.ok.inj h
            apply (grows_registerEnumeration _ _ _ _).registers_known
            apply isSome_idOfRaw?_register

theorem registerEnumAlias_registers {names : List String}
    (h : registerEnumAlias n names r declared = .ok r') :
  Registers counters (fun raw => declared.rawName = raw) (r, []) (r', [])
  := by
  have added (id : Nat) : Registers counters (fun raw => declared.rawName = raw) (r, [])
      (r.addRawName declared.rawName id, []) := by
    apply registers_of_known (grows_addRawName r _ _)
    rintro raw rfl
    apply isSome_idOfRaw?_addRawName
  rw [registerEnumAlias] at h
  cases hname : r.idOf? (enumAliasName n declared.rawName) with
  | some id =>
      simp only [hname] at h
      split at h
      · obtain rfl := Except.ok.inj h
        apply added
      · split at h
        · obtain rfl := Except.ok.inj h
          apply added
        · cases h
  | none =>
      simp only [hname] at h
      split at h
      · obtain rfl := Except.ok.inj h
        apply registers_alias
      · split at h
        · obtain rfl := Except.ok.inj h
          apply registers_alias
        · cases h

/-- A contribution changes an enumeration into another one. -/
theorem contribute_grows {state state' : Registry × Dict Int} {c : Contribution}
    (h : contribute n state c = .ok state') :
  Grows counters state.1 state'.1
  := by
  obtain ⟨r, known⟩ := state
  rw [contribute] at h
  obtain ⟨id, -, h⟩ := Outcome.bind_eq_ok_iff.mp h
  simp only at h
  split at h
  · obtain ⟨value, -, h⟩ := Outcome.bind_eq_ok_iff.mp h
    obtain ⟨name, -, h⟩ := Outcome.bind_eq_ok_iff.mp h
    split at h
    · rename_i e henumeration
      obtain rfl := Except.ok.inj h
      obtain ⟨owner, howner, hkind⟩ := Option.bind_eq_some_iff.mp henumeration
      change Grows counters r (r.modifyKind id fun _ => .enumeration (addEnumMember _ e))
      apply grows_modifyKind
      · intro e' he'
        obtain rfl := Option.some.inj (howner.symm.trans he')
        obtain ⟨ownerName, ownerRaw, kind⟩ := owner
        cases kind with
        | enumeration _ => rfl
        | _ => cases hkind
      · rintro e' c - ⟨⟩
    · cases h
  · cases h

theorem registerEnumerations_registers (h : registerEnumerations o n d r = .ok r') :
  Registers counters (fun raw => d.Declares "bitmask" raw ∨ d.Declares "enum" raw) (r, []) (r', [])
  := by
  rw [registerEnumerations] at h
  obtain ⟨s₁, hbitmasks, h⟩ := Outcome.bind_eq_ok_iff.mp h
  obtain ⟨s₂, henums, h⟩ := Outcome.bind_eq_ok_iff.mp h
  obtain ⟨r₃, haliases, h⟩ := Outcome.bind_eq_ok_iff.mp h
  obtain ⟨⟨r₄, known⟩, hmembers, h⟩ := Outcome.bind_eq_ok_iff.mp h
  obtain rfl := Except.ok.inj h
  have bitmasks : Registers counters
      (fun raw => ∃ type ∈ d.typesOf "bitmask", type.declaredName? = some raw) (r, [])
      (s₁.registry, s₁.aliases) := by
    apply registers_foldlM (fun s : EnumDeclarations => (s.registry, s.aliases)) _ hbitmasks
    intro s type s'
    apply declareBitmask_registers
  have enums : Registers counters
      (fun raw => ∃ type ∈ d.typesOf "enum", type.declaredName? = some raw)
      (s₁.registry, s₁.aliases) (s₂.registry, s₂.aliases) := by
    apply registers_foldlM (fun s : EnumDeclarations => (s.registry, s.aliases)) _ henums
    intro s type s'
    apply declareEnum_registers
  have aliased : Registers counters (fun raw => ∃ declared ∈ s₂.aliases, declared.rawName = raw)
      (s₂.registry, []) (r₃, []) := by
    apply registers_foldlM (fun r => (r, [])) _ haliases
    intro r declared r'
    apply registerEnumAlias_registers
  have contributed : Grows counters r₃ r₄ := by
    apply grows_foldlM Prod.fst _ hmembers
    intro s c s'
    apply contribute_grows
  apply (((bitmasks.trans enums).settle aliased).grow contributed).imp
  intro raw hraw
  rw [Document.declares_iff, Document.declares_iff] at hraw
  use hraw

/-! ### Handles -/

theorem registerHandle_registers {state state' : Registry × List DeclaredAlias}
    (h : registerHandle n state type = .ok state') :
  Registers counters (fun raw => type.declaredName? = some raw) state state'
  := by
  obtain ⟨r, aliases⟩ := state
  rw [registerHandle] at h
  cases hraw : type.declaredName? with
  | none =>
      simp only [hraw] at h
      cases h
  | some raw =>
      simp only [hraw] at h
      cases halias : type.attribute? "alias" with
      | some target =>
          rw [halias] at h
          obtain rfl := Except.ok.inj h
          apply registers_deferred
      | none =>
          rw [halias] at h
          simp only at h
          split at h
          · obtain ⟨dispatchable, -, h⟩ := Outcome.bind_eq_ok_iff.mp h
            obtain rfl := Except.ok.inj h
            apply Grows.registers_known
            · apply grows_register
              intro c hc
              cases hc
            · apply isSome_idOfRaw?_register
          · cases h

theorem registerHandleAlias_registers (h : registerHandleAlias n r declared = .ok r') :
  Registers counters (fun raw => declared.rawName = raw) (r, []) (r', [])
  := by
  rw [registerHandleAlias] at h
  split at h
  · obtain rfl := Except.ok.inj h
    apply registers_alias
  · cases h

theorem registerHandles_registers (h : registerHandles n d r = .ok r') :
  Registers counters (d.Declares "handle") (r, []) (r', [])
  := by
  rw [registerHandles] at h
  obtain ⟨⟨next, aliases⟩, hdeclared, h⟩ := Outcome.bind_eq_ok_iff.mp h
  have handles : Registers counters
      (fun raw => ∃ type ∈ d.typesOf "handle", type.declaredName? = some raw) (r, [])
      (next, aliases) := by
    apply registers_foldlM id _ hdeclared
    intro state type state'
    apply registerHandle_registers
  have aliased : Registers counters (fun raw => ∃ declared ∈ aliases, declared.rawName = raw)
      (next, []) (r', []) := by
    apply registers_foldlM (fun r => (r, [])) _ h
    intro r declared r'
    apply registerHandleAlias_registers
  apply (handles.settle aliased).imp
  intro raw hraw
  apply Document.declares_iff.mp hraw

end Registry

end NativeApi
