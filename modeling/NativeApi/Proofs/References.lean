import NativeApi.Proofs.Descriptions

/-!
# References to types

A raw name is referred to wherever a declaration names a type.  Main statement: a reference
either fails and leaves the registry as it is, or the raw name leads to the canonical name that
is given, at most one entity is new, and all names that were known keep their entities; the same
reference again gives the same name and changes nothing.
-/

namespace NativeApi.Registry

variable {r r' : Registry} {o : Options} {raw name context : String} {e : Error}

/-! ### What a reference does -/

/-- A reference that succeeds finds the canonical name, or registers a primitive type under the
name that a table knows. -/
theorem referTo_eq_ok_cases (h : referTo o raw context r = .ok name r') :
  (r.canonicalOfRaw? raw = some name ∧ r' = r)
    ∨ ∃ width, r.canonicalOfRaw? raw = none ∧ knownPrimitive o raw context = .ok (name, width)
      ∧ r' = r.registerPrimitive raw name width
  := by
  rw [referTo_eq] at h
  cases hraw : r.canonicalOfRaw? raw with
  | some known =>
      rw [hraw] at h
      obtain ⟨rfl, rfl⟩ := EStateM.Result.ok.inj h
      exact .inl ⟨rfl, rfl⟩
  | none =>
      rw [hraw] at h
      cases hknown : knownPrimitive o raw context with
      | error e =>
          rw [hknown] at h
          cases h
      | ok found =>
          rw [hknown] at h
          obtain ⟨rfl, rfl⟩ := EStateM.Result.ok.inj h
          exact .inr ⟨found.2, rfl, rfl, rfl⟩

/-- A raw name that leads somewhere is referred to without any change. -/
theorem referTo_of_canonicalOfRaw? (h : r.canonicalOfRaw? raw = some name) (context : String) :
  referTo o raw context r = .ok name r
  := by
  rw [referTo_eq, h]

theorem eq_of_referTo_eq_error (h : referTo o raw context r = .error e r') :
  r' = r
  := by
  rw [referTo_eq] at h
  split at h
  · cases h
  · split at h
    · cases h
    · exact (EStateM.Result.error.inj h).2.symm

/-- A reference succeeds exactly if the raw name leads somewhere or a table knows it. -/
theorem exists_referTo_eq_ok_iff :
  (∃ r', referTo o raw context r = .ok name r') ↔ r.referredName? o raw = some name
  := by
  rw [referredName?, ← map_fst_knownPrimitive o raw context, referTo_eq]
  cases r.canonicalOfRaw? raw with
  | some known => simp
  | none =>
      cases knownPrimitive o raw context with
      | error e => simp [Except.toOption]
      | ok found => simp [Except.toOption]

/-! ### What a reference keeps -/

/-- The second registry is the first one with at most one more entity, and at most one more raw
name, which is the given one. -/
structure Widens (raw : String) (r r' : Registry) : Prop where
  entities : ∃ new, r'.entities = r.entities ++ new ∧ new.length ≤ 1
  idOf? : ∀ name id, r.idOf? name = some id → r'.idOf? name = some id
  idOfRaw? : ∀ raw id, r.idOfRaw? raw = some id → r'.idOfRaw? raw = some id
  lookup? : ∀ name e, r.lookup? name = some e → r'.lookup? name = some e
  lookupRaw? : ∀ raw e, r.lookupRaw? raw = some e → r'.lookupRaw? raw = some e
  others : ∀ other, other ≠ raw → r'.idOfRaw? other = r.idOfRaw? other
  constants : r'.constants = r.constants
  platforms : r'.platforms = r.platforms

theorem Widens.refl (raw : String) (r : Registry) :
  Widens raw r r
  := by
  constructor
  · use []
    simp
  · intro name id h
    exact h
  · intro raw id h
    exact h
  · intro name e h
    exact h
  · intro raw e h
    exact h
  · intro other _
    rfl
  · rfl
  · rfl

theorem widens_register (r : Registry) (raw name : String) (kind : Entity.Kind) :
  Widens raw r (r.register raw name kind).1
  := by
  have extended := extends_register id r raw name kind
  have labels := extends_register Entity.label r raw name kind
  have kept {id : Nat} {e : Entity} (he : r.get? id = some e) :
      (r.register raw name kind).1.get? id = some e := by
    obtain ⟨e', he', rfl⟩ := extended.get? he
    exact he'
  constructor
  · rcases register_cases r raw name kind with ⟨id, -, heq⟩ | ⟨-, heq⟩
    · use []
      rw [heq]
      simp [addRawName]
    · use [⟨name, raw, kind⟩]
      rw [heq]
      simp [addRawName, withEntity]
  · intro name id
    apply labels.idOf?
  · exact extended.rawIds
  · intro name e he
    obtain ⟨id, hid, hget⟩ := Option.bind_eq_some_iff.mp he
    apply Option.bind_eq_some_iff.mpr ⟨id, labels.idOf? hid, kept hget⟩
  · intro raw e he
    obtain ⟨id, hid, hget⟩ := Option.bind_eq_some_iff.mp he
    apply Option.bind_eq_some_iff.mpr ⟨id, extended.rawIds raw id hid, kept hget⟩
  · intro other hother
    rcases register_cases r raw name kind with ⟨id, -, heq⟩ | ⟨-, heq⟩
    · rw [heq, idOfRaw?_addRawName, if_neg hother, Option.or_none]
    · rw [heq, idOfRaw?_addRawName, if_neg hother, Option.or_none]
      rfl
  · exact constants_registerAll r [⟨name, raw, kind⟩]
  · exact extended.platforms

/-! ### The main statement -/

/-- What is so once a raw name has been referred to. -/
structure IsReferred (o : Options) (raw name : String) (r r' : Registry) : Prop where
  consistent : r'.IsConsistent
  /-- The raw name leads to the canonical name that is given. -/
  canonical : r'.canonicalOfRaw? raw = some name
  /-- An entity has that name. -/
  registered : ∃ e, r'.lookup? name = some e ∧ e.name = name
  widens : Widens raw r r'
  /-- The same reference again gives the same name and changes nothing. -/
  again : ∀ context, referTo o raw context r' = .ok name r'

/-- Where the raw name leads to the canonical name, it has been referred to. -/
theorem isReferred_of_canonicalOfRaw? (consistent : r'.IsConsistent)
    (hraw : r'.canonicalOfRaw? raw = some name) (widens : Widens raw r r') :
  IsReferred o raw name r r'
  := by
  have hsome := isSome_lookup?_iff.mpr (isSome_idOf?_canonicalOfRaw? hraw)
  obtain ⟨e, he⟩ := Option.isSome_iff_exists.mp hsome
  constructor
  · exact consistent
  · exact hraw
  · use e, he, name_of_lookup? he
  · exact widens
  · apply referTo_of_canonicalOfRaw? hraw

/-- In a registry whose names agree with its entities, a reference gives the name that the raw
name refers to, if any.  Then it leaves the raw name leading there and all else that was known as
it was, and otherwise the registry as a whole. -/
theorem referTo_atomic (h : r.IsConsistent) (o : Options) (raw context : String) :
  (∀ name, (∃ r', referTo o raw context r = .ok name r') ↔ r.referredName? o raw = some name)
    ∧ (∀ name r', referTo o raw context r = .ok name r' → IsReferred o raw name r r')
    ∧ ∀ e r', referTo o raw context r = .error e r' → r' = r
  := by
  refine ⟨fun name => exists_referTo_eq_ok_iff, ?_, fun e r' => eq_of_referTo_eq_error⟩
  intro name r' href
  rcases referTo_eq_ok_cases href with ⟨hraw, rfl⟩ | ⟨width, hraw, -, rfl⟩
  · apply isReferred_of_canonicalOfRaw? h hraw (.refl raw r')
  · have hcanonical := canonicalOfRaw?_registerEntity h ⟨name, raw, .primitive width⟩ raw
    rw [hraw, Option.none_or, if_pos rfl] at hcanonical
    apply isReferred_of_canonicalOfRaw? (h.register raw name _) hcanonical
    apply widens_register

/-- A registry with an alias that has the canonical name of a basic type, and leads nowhere. -/
def takenRegistry : Registry := Registry.empty.registerAll [⟨"u32", "VkU32", .aliasOf "Counter"⟩]

/-- The raw name of the basic type comes to lead to the alias, and no entity is new; a basic type
that has no width is refused. -/
theorem referTo_atomic_taken :
  takenRegistry.IsConsistent
    ∧ (∃ r', referTo .standard "uint32_t" "vkWait" takenRegistry = .ok "u32" r'
        ∧ IsReferred .standard "uint32_t" "u32" takenRegistry r'
        ∧ r'.entities = takenRegistry.entities)
    ∧ ∃ e r', referTo .standard "wide_t" "vkWait" takenRegistry = .error e r' ∧ r' = takenRegistry
  := by
  have consistent : takenRegistry.IsConsistent :=
    isConsistent_registerAll ⟨.empty, Arena.isConsistent_empty⟩ _
  refine ⟨consistent, ?_, ?_⟩
  · obtain ⟨names, referred, -⟩ := referTo_atomic consistent .standard "uint32_t" "vkWait"
    obtain ⟨r', href⟩ := (names "u32").mpr (by decide +kernel)
    refine ⟨r', href, referred "u32" r' href, ?_⟩
    rcases referTo_eq_ok_cases href with ⟨-, rfl⟩ | ⟨width, -, -, rfl⟩
    · rfl
    · rfl
  · obtain ⟨names, -, refused⟩ := referTo_atomic consistent .standard "wide_t" "vkWait"
    cases href : referTo .standard "wide_t" "vkWait" takenRegistry with
    | ok name r' =>
        have hname := (names name).mp ⟨r', href⟩
        have hnone : takenRegistry.referredName? .standard "wide_t" = none := by decide +kernel
        rw [hnone] at hname
        cases hname
    | error e r' => exact ⟨e, r', rfl, refused e r' href⟩

end NativeApi.Registry
