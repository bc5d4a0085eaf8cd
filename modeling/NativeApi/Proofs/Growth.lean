import NativeApi.LengthReference
import NativeApi.Proofs.BuildSteps

/-!
# The growth of registries

Each stage of registration goes on from the registry of the stage before it.  `Grows` says
what all steps of all stages keep: names go on to stand for what they stand for, and what
composites refer to is there.  `Registers` says what a stage does with some raw names: they
are known after it, or those of aliases that are put off.  Main statements:
`registers_foldlM`, by which a stage registers what its steps do, and what the steps for
basic types and constants do.
-/

namespace NativeApi

/-! ### What composites refer to -/

/-- A length path begins with the raw name of a sibling, or a table links the member to a
sibling whose raw name is the path itself, with an arrow or double colon in it. -/
def Member.LeadsTo (counters : Dict String) (m : Member) (path : String) (sibling : Member) :
    Prop :=
  sibling.rawName = LengthReference.head path
    ∨ counters.get? m.name = some sibling.name ∧ sibling.rawName = path
      ∧ 1 < (LengthReference.pieces path.toList).length

/-- What a member of a composite refers to is there: its type in the registry, and its
length or counter among the members. -/
structure Member.Fits (counters : Dict String) (r : Registry) (members : List Member)
    (m : Member) : Prop where
  isSome_declaredType : (r.idOf? m.declaredType).isSome = true
  isPointer : ∀ path, m.arity = .linkedArray path → m.isPointer = true
  length : ∀ path, m.arity = .linkedArray path →
    ∃ sibling ∈ members, m.LeadsTo counters path sibling
  counter : ∀ raw, m.counter = some raw → ∃ sibling ∈ members, sibling.rawName = raw

/-- What a composite refers to is there. -/
structure Composite.Fits (counters : Dict String) (r : Registry) (c : Composite) : Prop where
  members : ∀ m ∈ c.members, m.Fits counters r c.members
  base : ∀ name, c.base = some name → (r.idOf? name).isSome = true

/-- A composite without members fits everywhere. -/
theorem Composite.fits_of_nil {c : Composite} (hmembers : c.members = []) (hbase : c.base = none)
    (counters : Dict String) (r : Registry) :
  c.Fits counters r
  := by
  constructor
  · intro m hm
    rw [hmembers] at hm
    cases hm
  · intro name hname
    rw [hbase] at hname
    cases hname

namespace Registry

variable {counters : Dict String} {r r' r'' : Registry} {raw name : String} {o : Options}
  {n : Naming} {d : Document} {type : Element}

theorem Extends.fits (h : Extends Entity.label r r') {c : Composite} (hc : c.Fits counters r) :
  c.Fits counters r'
  := by
  constructor
  · intro m hm
    have hfits := hc.members m hm
    exact ⟨h.isSome_idOf? hfits.isSome_declaredType, hfits.isPointer, hfits.length, hfits.counter⟩
  · intro name hname
    apply h.isSome_idOf? (hc.base name hname)

/-- What the composites of a registry refer to is there. -/
def IsFitting (counters : Dict String) (r : Registry) : Prop :=
  ∀ id e c, r.get? id = some e → e.kind = .composite c → c.Fits counters r

/-- One registry goes on from another. -/
structure Grows (counters : Dict String) (r r' : Registry) : Prop where
  extended : Extends Entity.label r r'
  fitting : r.IsFitting counters → r'.IsFitting counters

theorem Grows.refl (r : Registry) :
  Grows counters r r
  := ⟨.refl _ r, id⟩

theorem Grows.trans (h : Grows counters r r') (h' : Grows counters r' r'') :
  Grows counters r r''
  := ⟨h.extended.trans h'.extended, h'.fitting ∘ h.fitting⟩

/-! ### The operations of a registry -/

theorem grows_addRawName (r : Registry) (raw : String) (id : Nat) :
  Grows counters r (r.addRawName raw id)
  := by
  have h := extends_addRawName Entity.label r raw id
  use h
  intro hfits id e c he hkind
  apply h.fits (hfits id e c he hkind)

theorem grows_withEntity (r : Registry) {e : Entity}
    (hkind : ∀ c, e.kind = .composite c → c.members = [] ∧ c.base = none) :
  Grows counters r (r.withEntity e)
  := by
  have h := extends_withEntity Entity.label r e
  use h
  intro hfits id e' c he' hc
  rw [get?, withEntity, List.getElem?_append] at he'
  split at he'
  · apply h.fits (hfits id e' c he' hc)
  · obtain rfl := List.mem_singleton.mp (List.mem_of_getElem? he')
    obtain ⟨hmembers, hbase⟩ := hkind c hc
    apply Composite.fits_of_nil hmembers hbase

theorem grows_register (r : Registry) (raw name : String) {kind : Entity.Kind}
    (hkind : ∀ c, kind = .composite c → c.members = [] ∧ c.base = none) :
  Grows counters r (r.register raw name kind).1
  := by
  rcases register_cases r raw name kind with ⟨id, -, heq⟩ | ⟨-, heq⟩
  · rw [heq]
    apply grows_addRawName
  · rw [heq]
    apply Grows.trans (grows_withEntity (e := ⟨name, raw, kind⟩) r hkind)
    apply grows_addRawName

theorem grows_modifyKind (r : Registry) (id : Nat) {change : Entity.Kind → Entity.Kind}
    (hlabel : ∀ e, r.get? id = some e →
      Entity.label { e with kind := change e.kind } = Entity.label e)
    (hfits : ∀ e c, r.get? id = some e → change e.kind = .composite c → c.Fits counters r) :
  Grows counters r (r.modifyKind id change)
  := by
  have h := extends_modifyKind r id hlabel
  use h
  intro hr other e c he hc
  rw [get?_modifyKind, Option.map_eq_some_iff] at he
  obtain ⟨e₀, he₀, heq⟩ := he
  apply h.fits
  split at heq
  · rename_i hid
    subst hid
    subst heq
    apply hfits e₀ c he₀ hc
  · subst heq
    apply hr other e₀ c he₀ hc

theorem isSome_idOf?_canonicalOfRaw? (h : r.canonicalOfRaw? raw = some name) :
  (r.idOf? name).isSome = true
  := by
  obtain ⟨e, he, rfl⟩ := Option.map_eq_some_iff.mp h
  obtain ⟨id, -, hid⟩ := Option.bind_eq_some_iff.mp he
  apply isSome_idOf?_of_get? hid

/-- The values of constants do not count. -/
theorem grows_withConstants (r : Registry) (constants : Dict Int) :
  Grows counters r { r with constants }
  := by
  have h : Extends Entity.label r { r with constants } := ⟨List.prefix_refl _, fun _ _ h => h, rfl⟩
  use h
  intro hr id e c he hc
  apply h.fits (hr id e c he hc)

theorem Builds.grows (h : Builds r r') :
  Grows counters r r'
  := by
  induction h with
  | here => apply Grows.refl
  | register raw name _ hkind ih =>
      apply ih.trans
      apply grows_register
      rintro c rfl
      cases hkind with
      | composite _ hmembers hbase => exact ⟨hmembers, hbase⟩
  | addRawName raw _ _ ih => apply ih.trans (grows_addRawName _ raw _)
  | withConstants constants _ ih => apply ih.trans (grows_withConstants _ constants)

/-! ### Stages -/

/-- The raw name is known, or is that of an alias that is put off. -/
def KnowsOrDefers (p : Registry × List DeclaredAlias) (raw : String) : Prop :=
  (p.1.idOfRaw? raw).isSome = true ∨ ∃ declared ∈ p.2, declared.rawName = raw

/-- Registration leads from one registry, with some aliases put off, to another, and leaves
the given raw names known or put off. -/
structure Registers (counters : Dict String) (names : String → Prop)
    (p p' : Registry × List DeclaredAlias) : Prop where
  grows : Grows counters p.1 p'.1
  keeps : ∀ declared ∈ p.2, declared ∈ p'.2
  knowsOrDefers : ∀ raw, names raw → KnowsOrDefers p' raw

section

variable {names names' : String → Prop} {p p' p'' : Registry × List DeclaredAlias}

theorem Registers.imp (h : Registers counters names p p') (himp : ∀ raw, names' raw → names raw) :
  Registers counters names' p p'
  := ⟨h.grows, h.keeps, fun raw hraw => h.knowsOrDefers raw (himp raw hraw)⟩

/-- Where aliases are put off no longer, the names are known. -/
theorem Registers.isSome_idOfRaw? (h : Registers counters names p (r, [])) (hraw : names raw) :
  (r.idOfRaw? raw).isSome = true
  := by
  rcases h.knowsOrDefers raw hraw with hknown | ⟨declared, hdeclared, -⟩
  · exact hknown
  · cases hdeclared

theorem registers_of_known (hgrows : Grows counters r r')
    (hknown : ∀ raw, names raw → (r'.idOfRaw? raw).isSome = true) :
  Registers counters names (r, []) (r', [])
  := ⟨hgrows, fun _ h => h, fun raw hraw => .inl (hknown raw hraw)⟩

theorem Grows.registers (h : Grows counters r r') :
  Registers counters (fun _ => False) (r, []) (r', [])
  := registers_of_known h fun _ hraw => hraw.elim

theorem Registers.trans (h : Registers counters names p p')
    (h' : Registers counters names' p' p'') :
  Registers counters (fun raw => names raw ∨ names' raw) p p''
  := by
  use h.grows.trans h'.grows, fun declared hdeclared => h'.keeps _ (h.keeps _ hdeclared)
  rintro raw (hraw | hraw)
  · rcases h.knowsOrDefers raw hraw with hknown | ⟨declared, hdeclared, hname⟩
    · exact .inl (h'.grows.extended.isSome_idOfRaw? hknown)
    · exact .inr ⟨declared, h'.keeps declared hdeclared, hname⟩
  · exact h'.knowsOrDefers raw hraw

/-- What is known stays known. -/
theorem Registers.grow {aliases : List DeclaredAlias}
    (h : Registers counters names p (r, aliases)) (hgrows : Grows counters r r') :
  Registers counters names p (r', aliases)
  := by
  have h' : Registers counters (fun _ => False) (r, aliases) (r', aliases) :=
    ⟨hgrows, fun _ hdeclared => hdeclared, fun _ hraw => hraw.elim⟩
  apply (h.trans h').imp
  intro raw hraw
  use .inl hraw

/-- A stage registers what its steps do. -/
theorem registers_foldlM {α σ : Type} (view : σ → Registry × List DeclaredAlias)
    {f : σ → α → Except Error σ} {declares : α → String → Prop}
    (step : ∀ s a s', f s a = .ok s' → Registers counters (declares a) (view s) (view s'))
    {as : List α} {s s' : σ} (h : as.foldlM f s = .ok s') :
  Registers counters (fun raw => ∃ a ∈ as, declares a raw) (view s) (view s')
  := by
  induction as generalizing s with
  | nil =>
      obtain rfl := Outcome.pure_eq_ok_iff.mp h
      use .refl _, fun _ hdeclared => hdeclared
      simp
  | cons a as ih =>
      obtain ⟨next, hnext, hrest⟩ := Outcome.foldlM_cons_eq_ok_iff.mp h
      -- the rest keeps known or put off what the first step leaves so
      apply ((step s a next hnext).trans (ih hrest)).imp
      intro raw hraw
      rwa [List.exists_mem_cons_iff] at hraw

/-- Once the aliases that were put off are registered, all names are known. -/
theorem Registers.settle {aliases : List DeclaredAlias}
    (h : Registers counters names (r, []) (r', aliases))
    (h' : Registers counters (fun raw => ∃ declared ∈ aliases, declared.rawName = raw)
      (r', []) (r'', [])) :
  Registers counters names (r, []) (r'', [])
  := by
  apply registers_of_known (h.grows.trans h'.grows)
  intro raw hraw
  rcases h.knowsOrDefers raw hraw with hknown | hdeferred
  · apply h'.grows.extended.isSome_idOfRaw? hknown
  · apply h'.isSome_idOfRaw? hdeferred

/-- A stage grows the registry if its steps do. -/
theorem grows_foldlM {α σ : Type} (view : σ → Registry) {f : σ → α → Except Error σ}
    (step : ∀ s a s', f s a = .ok s' → Grows counters (view s) (view s')) {as : List α} {s s' : σ}
    (h : as.foldlM f s = .ok s') :
  Grows counters (view s) (view s')
  := by
  apply Outcome.foldlM_rel (R := fun s s' => Grows counters (view s) (view s')) _ _ _ h
  · intro s
    apply Grows.refl
  · intro a b c hab hbc
    apply hab.trans hbc
  · intro s a s'
    apply step

end

/-! ### Basic types and constants -/

/-- The type that a reference refers to is there. -/
theorem isSome_idOf?_of_reference {context : String}
    (h : r.reference o raw context = .ok (r', name)) :
  (r'.idOf? name).isSome = true
  := by
  rw [reference_eq] at h
  cases hname : r.canonicalOfRaw? raw with
  | some known =>
      rw [hname] at h
      obtain ⟨rfl, rfl⟩ := Prod.mk.inj (Except.ok.inj h)
      apply isSome_idOf?_canonicalOfRaw? hname
  | none =>
      rw [hname] at h
      cases hknown : knownPrimitive o raw context with
      | error e =>
          rw [hknown] at h
          cases h
      | ok found =>
          rw [hknown] at h
          obtain ⟨rfl, rfl⟩ := Prod.mk.inj (Except.ok.inj h)
          rw [registerPrimitive, idOf?_register]
          rfl

/-- The raw name of a pointer to a function is known once it is registered. -/
theorem registerIncluded_registers (h : registerIncluded o n r type = .ok r') :
  Registers counters
    (fun raw => type.attribute? "category" = some "funcpointer" ∧ type.declaredName? = some raw)
    (r, []) (r', [])
  := by
  apply registers_of_known (registerIncluded_builds h).grows
  rintro raw ⟨hcategory, hraw⟩
  rw [registerIncluded, hraw, hcategory] at h
  obtain rfl := Except.ok.inj h
  apply isSome_idOfRaw?_register

theorem registerBasetype_registers (h : registerBasetype o n r type = .ok r') :
  Registers counters (fun raw => type.declaredName? = some raw) (r, []) (r', [])
  := by
  apply registers_of_known (registerBasetype_builds h).grows
  intro raw hraw
  simp only [registerBasetype, hraw] at h
  split at h
  · obtain rfl := Except.ok.inj h
    apply isSome_idOfRaw?_register
  · obtain ⟨⟨next, name⟩, -, h⟩ := Outcome.bind_eq_ok_iff.mp h
    obtain ⟨e, -, h⟩ := Outcome.bind_eq_ok_iff.mp h
    obtain rfl := Except.ok.inj h
    apply isSome_idOfRaw?_register

end Registry

end NativeApi
