import NativeApi.Proofs.Extension
import NativeApi.Proofs.Outcomes
import NativeApi.Registration.BasicTypes
import NativeApi.Registration.Composites
import NativeApi.Registration.Enumerations
import NativeApi.Registration.Handles

/-!
# How registries are built

Apart from the members of enumerations and of composites, all stages of registration do the
same few things: they register entities that are new in their kind, and add raw names and
constants.  `Registry.Builds r r'` says that any number of these lead from one registry to
another.  Main statements: what each step of each stage does is to build.
-/

namespace NativeApi

/-- What an entity is when it is registered, unless it is an enumeration: a handle has no
methods yet, and a composite no members and nothing that it extends. -/
inductive Entity.Kind.IsNew : Entity.Kind → Prop where
  | primitive (width : Width) : IsNew (.primitive width)
  | handle (h : Handle) : h.methods = [] → IsNew (.handle h)
  | composite (c : Composite) : c.members = [] → c.base = none → IsNew (.composite c)
  | aliasOf (target : String) : IsNew (.aliasOf target)

namespace Registry

/-- Registrations, more raw names and constants lead from one registry to another. -/
inductive Builds (r : Registry) : Registry → Prop where
  | here : Builds r r
  | register {r' : Registry} (raw name : String) {kind : Entity.Kind} :
    Builds r r' → kind.IsNew → Builds r (r'.register raw name kind).1
  | addRawName {r' : Registry} (raw : String) {id : Nat} :
    Builds r r' → id < r'.size → Builds r (r'.addRawName raw id)
  | withConstants {r' : Registry} (constants : Dict Int) :
    Builds r r' → Builds r { r' with constants }

variable {r r' r'' : Registry} {raw name : String} {o : Options} {n : Naming} {d : Document}
  {type : Element} {declared : DeclaredAlias}

theorem Builds.trans (h : Builds r r') (h' : Builds r' r'') :
  Builds r r''
  := by
  induction h' with
  | here => exact h
  | register raw name _ hkind ih => apply ih.register raw name hkind
  | addRawName raw _ hid ih => apply ih.addRawName raw hid
  | withConstants constants _ ih => apply ih.withConstants

/-- A stage builds if its steps do. -/
theorem builds_foldlM {α σ : Type} (view : σ → Registry) {f : σ → α → Except Error σ}
    (step : ∀ s a s', f s a = .ok s' → Builds (view s) (view s')) {as : List α} {s s' : σ}
    (h : as.foldlM f s = .ok s') :
  Builds (view s) (view s')
  := by
  apply Outcome.foldlM_rel (R := fun s s' => Builds (view s) (view s')) _ _ step h
  · intro s
    apply Builds.here
  · intro a b c
    apply Builds.trans

theorem Builds.alias (h : Builds r r') (raw name target : String) :
  Builds r (r'.register raw name (.aliasOf target)).1
  := h.register raw name (.aliasOf target)

/-! ### Basic types and constants -/

theorem Builds.registerPrimitive (h : Builds r r') (raw name : String) (width : Width) :
  Builds r (r'.registerPrimitive raw name width)
  := h.register raw name (.primitive width)

/-- A registration gives the position of an entity of its canonical name. -/
theorem nameOf_register (r : Registry) (raw name : String) (kind : Entity.Kind) :
  (r.register raw name kind).1.nameOf (r.register raw name kind).2 = name
  := by
  obtain ⟨e, he, hname⟩ := exists_get?_of_idOf? (idOf?_register r raw name kind)
  rw [nameOf, he]
  exact hname

/-- What a reference does to a registry: it is left as it is, or gets a primitive type. -/
theorem referTo_eq (o : Options) (r : Registry) (raw context : String) :
  referTo o raw context r
    = match r.canonicalOfRaw? raw with
      | some name => .ok name r
      | none =>
        match knownPrimitive o raw context with
        | .ok (name, width) => .ok name (r.registerPrimitive raw name width)
        | .error e => .error e r
  := by
  have hget (f : Registry → EStateM Error Registry String) : (get >>= f) r = f r r := rfl
  rw [referTo, hget]
  cases r.canonicalOfRaw? raw with
  | some name => rfl
  | none =>
      cases knownPrimitive o raw context with
      | error e => rfl
      | ok found =>
          obtain ⟨name, width⟩ := found
          have hname := nameOf_register r raw name (.primitive width)
          exact congrArg (EStateM.Result.ok · (r.registerPrimitive raw name width)) hname

theorem reference_eq (o : Options) (r : Registry) (raw context : String) :
  r.reference o raw context
    = match r.canonicalOfRaw? raw with
      | some name => .ok (r, name)
      | none =>
        (knownPrimitive o raw context).map fun (name, width) =>
          (r.registerPrimitive raw name width, name)
  := by
  rw [reference, referTo_eq]
  cases r.canonicalOfRaw? raw with
  | some name => rfl
  | none =>
      cases knownPrimitive o raw context with
      | error e => rfl
      | ok found => rfl

theorem reference_builds {context : String} (h : r.reference o raw context = .ok (r', name)) :
  Builds r r'
  := by
  rw [reference_eq] at h
  cases hname : r.canonicalOfRaw? raw with
  | some known =>
      rw [hname] at h
      obtain ⟨rfl, -⟩ := Prod.mk.inj (Except.ok.inj h)
      apply Builds.here
  | none =>
      rw [hname] at h
      cases hknown : knownPrimitive o raw context with
      | error e =>
          rw [hknown] at h
          cases h
      | ok found =>
          rw [hknown] at h
          obtain ⟨rfl, -⟩ := Prod.mk.inj (Except.ok.inj h)
          apply Builds.here.registerPrimitive

theorem registerForeign_builds (h : r.registerForeign o raw = .ok r') :
  Builds r r'
  := by
  rw [registerForeign] at h
  split at h
  · obtain rfl := Except.ok.inj h
    apply Builds.here
  · split at h
    · cases href : r.reference o raw "platform types" with
      | error e =>
          rw [href] at h
          cases h
      | ok found =>
          rw [href] at h
          obtain rfl := Except.ok.inj h
          apply reference_builds href
    · obtain rfl := Except.ok.inj h
      apply Builds.here.registerPrimitive

theorem registerIncluded_builds (h : registerIncluded o n r type = .ok r') :
  Builds r r'
  := by
  rw [registerIncluded] at h
  split at h
  · obtain rfl := Except.ok.inj h
    apply Builds.here
  · split at h
    · split at h
      · apply registerForeign_builds h
      · obtain rfl := Except.ok.inj h
        apply Builds.here
    · split at h
      · obtain rfl := Except.ok.inj h
        apply Builds.here.registerPrimitive
      · obtain rfl := Except.ok.inj h
        apply Builds.here

theorem registerBasetype_builds (h : registerBasetype o n r type = .ok r') :
  Builds r r'
  := by
  rw [registerBasetype] at h
  split at h
  · split at h
    · obtain rfl := Except.ok.inj h
      apply Builds.here.registerPrimitive
    · obtain ⟨⟨next, target⟩, href, h⟩ := Outcome.bind_eq_ok_iff.mp h
      obtain ⟨e, -, h⟩ := Outcome.bind_eq_ok_iff.mp h
      obtain rfl := Except.ok.inj h
      apply (reference_builds href).registerPrimitive
  · cases h

theorem registerConstant_builds (h : registerConstant r type = .ok r') :
  Builds r r'
  := by
  rw [registerConstant] at h
  split at h
  · obtain rfl := Except.ok.inj h
    apply Builds.here
  · split at h
    · split at h
      · obtain rfl := Except.ok.inj h
        apply Builds.here.withConstants
      · cases h
    · split at h
      · obtain rfl := Except.ok.inj h
        apply Builds.here.withConstants
      · obtain rfl := Except.ok.inj h
        apply Builds.here

theorem builds_registerBuiltins (o : Options) (r : Registry) :
  Builds r (registerBuiltins o r)
  := by
  rw [registerBuiltins]
  apply List.foldlRecOn (motive := Builds r) _ _ .here
  intro s hs entry _
  apply hs.registerPrimitive

theorem builds_registerForeignStructs (o : Options) (r : Registry) :
  Builds r (registerForeignStructs o r)
  := by
  rw [registerForeignStructs]
  apply List.foldlRecOn (motive := Builds r) _ _ .here
  intro s hs entry _
  apply hs.register entry.1 entry.2 (.composite _ rfl rfl)

/-! ### Aliases of enumerations -/

/-- A canonical name leads to an entity. -/
theorem lt_size_of_idOf? {id : Nat} (h : r.idOf? name = some id) :
  id < r.size
  := by
  obtain ⟨e, he, -⟩ := exists_get?_of_idOf? h
  apply (List.getElem?_eq_some_iff.mp he).1

theorem registerEnumAlias_builds {names : List String}
    (h : registerEnumAlias n names r declared = .ok r') :
  Builds r r'
  := by
  rw [registerEnumAlias] at h
  cases hname : r.idOf? (enumAliasName n declared.rawName) with
  | some id =>
      have hid : id < r.size := lt_size_of_idOf? hname
      simp only [hname] at h
      split at h
      · obtain rfl := Except.ok.inj h
        apply Builds.here.addRawName _ hid
      · split at h
        · obtain rfl := Except.ok.inj h
          apply Builds.here.addRawName _ hid
        · cases h
  | none =>
      simp only [hname] at h
      split at h
      · obtain rfl := Except.ok.inj h
        apply Builds.here.alias
      · split at h
        · obtain rfl := Except.ok.inj h
          apply Builds.here.alias
        · cases h

/-! ### Handles -/

theorem registerHandle_builds {state state' : Registry × List DeclaredAlias}
    (h : registerHandle n state type = .ok state') :
  Builds state.1 state'.1
  := by
  obtain ⟨r, aliases⟩ := state
  rw [registerHandle] at h
  simp only at h
  split at h
  · split at h
    · obtain rfl := Except.ok.inj h
      apply Builds.here
    · split at h
      · obtain ⟨dispatchable, -, h⟩ := Outcome.bind_eq_ok_iff.mp h
        obtain rfl := Except.ok.inj h
        apply Builds.here.register _ _ (.handle _ rfl)
      · cases h
  · cases h

theorem registerHandleAlias_builds (h : registerHandleAlias n r declared = .ok r') :
  Builds r r'
  := by
  rw [registerHandleAlias] at h
  split at h
  · obtain rfl := Except.ok.inj h
    apply Builds.here.alias
  · cases h

theorem registerHandles_builds (h : registerHandles n d r = .ok r') :
  Builds r r'
  := by
  rw [registerHandles] at h
  obtain ⟨⟨next, aliases⟩, hdeclared, haliases⟩ := Outcome.bind_eq_ok_iff.mp h
  have handles : Builds r next := by
    apply builds_foldlM Prod.fst _ hdeclared
    intro state type state'
    apply registerHandle_builds
  apply handles.trans
  apply builds_foldlM id _ haliases
  intro r declared r'
  apply registerHandleAlias_builds

/-! ### Composites -/

theorem declareComposite_builds {s s' : CompositeDeclarations}
    (h : declareComposite n s type = .ok s') :
  Builds s.registry s'.registry
  := by
  rw [declareComposite] at h
  split at h
  · obtain rfl := Except.ok.inj h
    apply Builds.here
  · split at h
    · split at h
      · obtain rfl := Except.ok.inj h
        apply Builds.here
      · obtain rfl := Except.ok.inj h
        apply Builds.here.register _ _ (.composite _ rfl rfl)
    · cases h

theorem registerCompositeAlias_builds {names : List String}
    (h : registerCompositeAlias n names r declared = .ok r') :
  Builds r r'
  := by
  rw [registerCompositeAlias] at h
  split at h
  · obtain rfl := Except.ok.inj h
    apply Builds.here.alias
  · split at h
    · obtain rfl := Except.ok.inj h
      apply Builds.here.alias
    · cases h

theorem addMember_builds {owner : String} {state state' : Registry × List Member} {e : Element}
    (h : addMember o n owner state e = .ok state') :
  Builds state.1 state'.1
  := by
  obtain ⟨r, members⟩ := state
  rw [addMember] at h
  obtain ⟨declarator, -, h⟩ := Outcome.bind_eq_ok_iff.mp h
  obtain ⟨⟨next, declaredType⟩, href, h⟩ := Outcome.bind_eq_ok_iff.mp h
  obtain rfl := Except.ok.inj h
  apply reference_builds href

end Registry

end NativeApi
