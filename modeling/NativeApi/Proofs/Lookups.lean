import NativeApi.Proofs.Formation

/-!
# What names find

A canonical name finds the entity that carries it, and a raw name the canonical name that it
leads to.  Main statements: what names find once some entities are registered, and
`resolve_eq_ok_iff_denotes`, by which a name resolves along the entities that names find.
-/

namespace NativeApi

/-! ### Names and aliases of declarations -/

/-- What the first item gives comes before what the others give. -/
theorem filterMap_cons_eq_append {α β : Type} (f : α → Option β) (a : α) (as : List α) :
  (a :: as).filterMap f = (f a).toList ++ as.filterMap f
  := by
  cases h : f a with
  | none => rw [List.filterMap_cons_none h, Option.toList_none, List.nil_append]
  | some b => rw [List.filterMap_cons_some h, Option.toList_some, List.singleton_append]

namespace Element

variable {e : Element} {raw : String} {a : DeclaredAlias}

/-- The alias that a declaration is. -/
def declaredAlias? (e : Element) : Option DeclaredAlias :=
  (e.attribute? "alias").bind fun target => e.declaredName?.map (⟨·, target⟩)

theorem declaredAlias?_of_ownName? (h : e.ownName? = some raw) :
  e.declaredAlias? = none
  := by
  rw [ownName?] at h
  rw [declaredAlias?]
  split at h
  · cases h
  · rename_i halias
    rw [halias, Option.bind_none]

theorem declaredName?_of_ownName? (h : e.ownName? = some raw) :
  e.declaredName? = some raw
  := by
  rw [ownName?] at h
  split at h
  · cases h
  · exact h

theorem declaredName?_of_declaredAlias? (h : e.declaredAlias? = some a) :
  e.declaredName? = some a.rawName
  := by
  obtain ⟨target, -, h⟩ := Option.bind_eq_some_iff.mp h
  obtain ⟨raw, hraw, rfl⟩ := Option.map_eq_some_iff.mp h
  exact hraw

/-- A declaration with a raw name is its own or an alias. -/
theorem ownName?_or_declaredAlias? (h : e.declaredName? = some raw) :
  e.ownName? = some raw ∨ ∃ target, e.declaredAlias? = some ⟨raw, target⟩
  := by
  rw [ownName?, declaredAlias?, h]
  cases e.attribute? "alias" with
  | none => exact .inl rfl
  | some target => exact .inr ⟨target, rfl⟩

end Element

namespace Registry

variable {r r' : Registry} {raw name target : String} {e e' : Entity} {id : Nat}

/-! ### Entities and the names that find them -/

theorem lookup?_eq_find? (r : Registry) (name : String) :
  r.lookup? name = r.entities.find? (·.name == name)
  := List.find?_eq_bind_findIdx?_getElem?.symm

theorem lookup?_eq_some_iff :
  r.lookup? name = some e ↔ ∃ id, r.idOf? name = some id ∧ r.get? id = some e
  := Option.bind_eq_some_iff

theorem name_of_lookup? (h : r.lookup? name = some e) :
  e.name = name
  := by
  rw [lookup?_eq_find?] at h
  simpa using List.find?_some h

theorem isSome_lookup?_iff :
  (r.lookup? name).isSome = true ↔ (r.idOf? name).isSome = true
  := by
  rw [lookup?_eq_find?, List.find?_isSome, idOf?, List.findIdx?_isSome, List.any_eq_true]

/-- Where canonical names are distinct, each finds the entity that carries it. -/
theorem IsConsistent.lookup?_of_get? (h : r.IsConsistent) (he : r.get? id = some e) :
  r.lookup? e.name = some e
  := by
  apply lookup?_eq_some_iff.mpr
  use id, (idOf?_eq_some_iff h.distinct).mpr ⟨e, he, rfl⟩

/-- A raw name that leads somewhere leads to a canonical name. -/
theorem IsConsistent.isSome_canonicalOfRaw?_iff (h : r.IsConsistent) :
  (r.canonicalOfRaw? raw).isSome = true ↔ (r.idOfRaw? raw).isSome = true
  := by
  rw [canonicalOfRaw?, lookupRaw?, Option.isSome_map]
  cases hraw : r.idOfRaw? raw with
  | none => rfl
  | some id =>
      have hlt : id < r.entities.length := h.lt_size hraw
      have hid : r.get? id = some r.entities[id] := List.getElem?_eq_getElem hlt
      simp [hid]

/-- What a raw name leads to is found by the canonical name that it leads to. -/
theorem IsConsistent.lookup?_of_lookupRaw? (h : r.IsConsistent) (he : r.lookupRaw? raw = some e) :
  r.lookup? e.name = some e
  := by
  obtain ⟨id, -, hid⟩ := Option.bind_eq_some_iff.mp he
  apply h.lookup?_of_get? hid

/-- Among entities of which one has a name of some sort, the first with that name is found. -/
theorem exists_find?_eq_some {es : List Entity} (he : e ∈ es) (sort : Entity → String) :
  ∃ found ∈ es, es.find? (fun e' => sort e' == sort e) = some found ∧ sort found = sort e
  := by
  have hsome : (es.find? fun e' => sort e' == sort e).isSome = true := by
    apply List.find?_isSome.mpr
    use e, he, beq_self_eq_true (sort e)
  obtain ⟨found, hfound⟩ := Option.isSome_iff_exists.mp hsome
  use found, List.mem_of_find?_eq_some hfound, hfound
  simpa using List.find?_some hfound

/-! ### Registration -/

theorem lookupRaw?_withEntity (h : r.IsConsistent) (e : Entity) (raw : String) :
  (r.withEntity e).lookupRaw? raw = r.lookupRaw? raw
  := by
  rw [lookupRaw?, lookupRaw?]
  change (r.idOfRaw? raw).bind (r.withEntity e).get? = _
  cases hraw : r.idOfRaw? raw with
  | none => rfl
  | some id => exact List.getElem?_append_left (h.lt_size hraw)

theorem canonicalOfRaw?_addRawName (h : r.IsConsistent) (he : r.get? id = some e)
    (raw other : String) :
  (r.addRawName raw id).canonicalOfRaw? other
    = (r.canonicalOfRaw? other).or (if raw = other then some e.name else none)
  := by
  have hlookup : (r.addRawName raw id).lookupRaw? other
      = ((r.idOfRaw? other).or (if other = raw then some id else none)).bind r.get? := by
    rw [lookupRaw?, idOfRaw?_addRawName]
    rfl
  have hknown : (r.canonicalOfRaw? other).isSome = true ↔ (r.idOfRaw? other).isSome = true :=
    h.isSome_canonicalOfRaw?_iff
  rw [canonicalOfRaw?, hlookup]
  cases hraw : r.idOfRaw? other with
  | some id' =>
      rw [hraw] at hknown
      obtain ⟨name, hname⟩ := Option.isSome_iff_exists.mp (hknown.mpr rfl)
      rw [hname, Option.some_or, Option.some_or, ← hname, canonicalOfRaw?, lookupRaw?, hraw]
  | none =>
      rw [hraw] at hknown
      have hnone : r.canonicalOfRaw? other = none := by simpa using hknown
      rw [hnone, Option.none_or, Option.none_or]
      by_cases hother : other = raw
      · simp [hother, he]
      · simp [hother, Ne.symm hother]

/-- The registry with an entity under its own names. -/
def registerEntity (r : Registry) (e : Entity) : Registry := (r.register e.rawName e.name e.kind).1

/-- A canonical name finds what it found before, or else the new entity if that carries it. -/
theorem lookup?_registerEntity (r : Registry) (e : Entity) (name : String) :
  (r.registerEntity e).lookup? name
    = (r.lookup? name).or (if e.name = name then some e else none)
  := by
  rcases register_cases r e.rawName e.name e.kind with ⟨id, hid, heq⟩ | ⟨-, heq⟩
  · rw [registerEntity, heq]
    change r.lookup? name = _
    by_cases hname : e.name = name
    · obtain ⟨e', he'⟩ := Option.isSome_iff_exists.mp
        (isSome_lookup?_iff.mpr (Option.isSome_of_eq_some hid))
      rw [← hname, he', Option.some_or]
    · rw [if_neg hname, Option.or_none]
  · rw [registerEntity, heq]
    change (r.withEntity e).lookup? name = _
    rw [lookup?_eq_find?, withEntity, List.find?_append, ← lookup?_eq_find?]
    by_cases hname : e.name = name
    · simp [hname]
    · simp [hname]

/-- A raw name leads where it led before, or else to the new entity if that carries it. -/
theorem canonicalOfRaw?_registerEntity (h : r.IsConsistent) (e : Entity) (raw : String) :
  (r.registerEntity e).canonicalOfRaw? raw
    = (r.canonicalOfRaw? raw).or (if e.rawName = raw then some e.name else none)
  := by
  rcases register_cases r e.rawName e.name e.kind with ⟨id, hid, heq⟩ | ⟨hnew, heq⟩
  · obtain ⟨e', he', hname⟩ := exists_get?_of_idOf? hid
    rw [registerEntity, heq, canonicalOfRaw?_addRawName h he', hname]
  · have hlast : (r.withEntity e).get? r.size = some e := List.getElem?_concat_length
    rw [registerEntity, heq]
    change ((r.withEntity e).addRawName e.rawName r.size).canonicalOfRaw? raw = _
    rw [canonicalOfRaw?_addRawName (h.withEntity e hnew) hlast, canonicalOfRaw?,
      lookupRaw?_withEntity h]
    rfl

theorem isConsistent_registerEntity (h : r.IsConsistent) (e : Entity) :
  (r.registerEntity e).IsConsistent
  := h.register e.rawName e.name e.kind

/-- The registry with some entities under their own names, one after the other. -/
def registerAll (r : Registry) (es : List Entity) : Registry := es.foldl registerEntity r

theorem registerAll_append (r : Registry) (es es' : List Entity) :
  r.registerAll (es ++ es') = (r.registerAll es).registerAll es'
  := List.foldl_append

theorem isConsistent_registerAll (h : r.IsConsistent) (es : List Entity) :
  (r.registerAll es).IsConsistent
  := by
  apply List.foldlRecOn (motive := IsConsistent) es registerEntity h
  intro s hs e _
  apply isConsistent_registerEntity hs

theorem constants_registerAll (r : Registry) (es : List Entity) :
  (r.registerAll es).constants = r.constants
  := by
  apply List.foldlRecOn (motive := fun s : Registry => s.constants = r.constants) es
    registerEntity rfl
  intro s hs e _
  rw [← hs]
  rcases register_cases s e.rawName e.name e.kind with ⟨id, -, heq⟩ | ⟨-, heq⟩
  · rw [registerEntity, heq]
    rfl
  · rw [registerEntity, heq]
    rfl

/-- A canonical name finds what it found before, or else the first new entity that carries
it. -/
theorem lookup?_registerAll (r : Registry) (es : List Entity) (name : String) :
  (r.registerAll es).lookup? name = (r.lookup? name).or (es.find? (·.name == name))
  := by
  induction es generalizing r with
  | nil => simp [registerAll]
  | cons e es ih =>
      change ((r.registerEntity e).registerAll es).lookup? name = _
      rw [ih, lookup?_registerEntity, Option.or_assoc, List.find?_cons]
      by_cases hname : e.name = name
      · simp [hname]
      · simp [hname, beq_false_of_ne hname]

/-- A raw name leads where it led before, or else to the first new entity that carries it. -/
theorem canonicalOfRaw?_registerAll (h : r.IsConsistent) (es : List Entity) (raw : String) :
  (r.registerAll es).canonicalOfRaw? raw
    = (r.canonicalOfRaw? raw).or ((es.find? (·.rawName == raw)).map (·.name))
  := by
  induction es generalizing r with
  | nil => simp [registerAll]
  | cons e es ih =>
      change ((r.registerEntity e).registerAll es).canonicalOfRaw? raw = _
      rw [ih (isConsistent_registerEntity h e), canonicalOfRaw?_registerEntity h, Option.or_assoc,
        List.find?_cons]
      by_cases hraw : e.rawName = raw
      · simp [hraw]
      · simp [hraw, beq_false_of_ne hraw]

theorem isSome_canonicalOfRaw?_registerEntity_iff (h : r.IsConsistent) (e : Entity)
    (raw : String) :
  ((r.registerEntity e).canonicalOfRaw? raw).isSome = true
    ↔ (r.canonicalOfRaw? raw).isSome = true ∨ e.rawName = raw
  := by
  rw [canonicalOfRaw?_registerEntity h, Option.isSome_or, Bool.or_eq_true]
  by_cases hraw : e.rawName = raw
  · simp [hraw]
  · simp [hraw]

theorem isSome_canonicalOfRaw?_registerAll_iff (h : r.IsConsistent) (es : List Entity)
    (raw : String) :
  ((r.registerAll es).canonicalOfRaw? raw).isSome = true
    ↔ (r.canonicalOfRaw? raw).isSome = true ∨ ∃ e ∈ es, e.rawName = raw
  := by
  rw [canonicalOfRaw?_registerAll h, Option.isSome_or, Bool.or_eq_true, Option.isSome_map,
    List.find?_isSome]
  simp

/-- What leads somewhere goes on to lead there when entities are registered. -/
theorem canonicalOfRaw?_registerAll_of_eq_some (h : r.IsConsistent) (es : List Entity)
    (hraw : r.canonicalOfRaw? raw = some name) :
  (r.registerAll es).canonicalOfRaw? raw = some name
  := by
  rw [canonicalOfRaw?_registerAll h, hraw, Option.some_or]

/-- The entity of an alias, given the canonical name of its target. -/
def aliasEntity (n : Naming) (a : DeclaredAlias) (target : String) : Entity :=
  ⟨n.typeName a.rawName, a.rawName, .aliasOf target⟩

/-! ### Changes of what entities are -/

theorem idOf?_modifyKind (r : Registry) (id : Nat) (change : Entity.Kind → Entity.Kind)
    (name : String) :
  (r.modifyKind id change).idOf? name = r.idOf? name
  := by
  have hnames (s : Registry) : s.idOf? name = s.names.findIdx? (· == name) := by
    rw [names, List.findIdx?_map]
    rfl
  rw [hnames, names_modifyKind, ← hnames]

theorem lookup?_modifyKind (r : Registry) (id : Nat) (change : Entity.Kind → Entity.Kind)
    (name : String) :
  (r.modifyKind id change).lookup? name
    = (r.lookup? name).map fun e =>
        if r.idOf? name = some id then { e with kind := change e.kind } else e
  := by
  rw [lookup?, idOf?_modifyKind, lookup?]
  cases hname : r.idOf? name with
  | none => rfl
  | some other =>
      rw [Option.bind_some, get?_modifyKind, Option.bind_some]
      apply Option.map_congr
      intro e _
      simp [eq_comm]

theorem canonicalOfRaw?_modifyKind (r : Registry) (id : Nat)
    (change : Entity.Kind → Entity.Kind) (raw : String) :
  (r.modifyKind id change).canonicalOfRaw? raw = r.canonicalOfRaw? raw
  := by
  rw [canonicalOfRaw?, lookupRaw?, canonicalOfRaw?, lookupRaw?]
  change ((r.idOfRaw? raw).bind (r.modifyKind id change).get?).map (·.name) = _
  cases r.idOfRaw? raw with
  | none => rfl
  | some other =>
      rw [Option.bind_some, get?_modifyKind, Option.map_map, Option.bind_some]
      apply Option.map_congr
      intro e _
      simp only [Function.comp_apply]
      split <;> rfl

/-! ### What names denote -/

/-- A canonical name denotes the entity that carries it, or what the target denotes where
that is an alias. -/
inductive Denotes (r : Registry) : String → Entity → Prop where
  | here {name : String} {e : Entity} :
    r.lookup? name = some e → e.isAlias = false → Denotes r name e
  | step {name target : String} {e e' : Entity} :
    r.lookup? name = some e → e.target? = some target → Denotes r target e' → Denotes r name e'

theorem Denotes.standsFor (h : r.Denotes name e) :
  ∃ id, r.StandsFor name id ∧ r.get? id = some e
  := by
  induction h with
  | here hname halias =>
      obtain ⟨id, hid, he⟩ := lookup?_eq_some_iff.mp hname
      have concrete : r.IsConcrete id := ⟨_, he, halias⟩
      exact ⟨id, ⟨id, hid, concrete.resolveId⟩, he⟩
  | step hname htarget _ ih =>
      obtain ⟨start, hstart, he⟩ := lookup?_eq_some_iff.mp hname
      obtain ⟨id, ⟨next, hnext, hid⟩, hget⟩ := ih
      obtain ⟨hends, concrete⟩ := resolveId_eq_ok_iff.mp hid
      have hstep : r.next? start = some next := by
        rw [next?_of_aliasOf he (Entity.target?_eq_some_iff.mp htarget), hnext]
      exact ⟨id, ⟨start, hstart, resolveId_eq_ok_iff.mpr ⟨hends.cons hstep, concrete⟩⟩, hget⟩

/-- The entity at the end of a path is denoted by every name that leads to its beginning. -/
theorem denotes_of_path {n start : Nat} (path : Chain.Path r.next? n start id)
    (he : r.get? id = some e) (halias : e.isAlias = false) (hname : r.idOf? name = some start) :
  r.Denotes name e
  := by
  induction path generalizing name with
  | here => exact .here (lookup?_eq_some_iff.mpr ⟨_, hname, he⟩) halias
  | step hnext _ ih =>
      obtain ⟨a, ha, htarget⟩ := Option.bind_eq_some_iff.mp hnext
      split at htarget
      · rename_i target hkind
        apply Denotes.step (lookup?_eq_some_iff.mpr ⟨_, hname, ha⟩)
          (Entity.target?_eq_some_iff.mpr hkind)
        apply ih he htarget
      · cases htarget

/-- A name resolves to what it denotes. -/
theorem resolve_eq_ok_iff_denotes :
  r.resolve name = .ok e ↔ r.Denotes name e
  := by
  constructor
  · intro h
    obtain ⟨id, ⟨start, hstart, hid⟩, he⟩ := resolve_eq_ok_iff.mp h
    obtain ⟨⟨n, path, -⟩, e', he', halias⟩ := resolveId_eq_ok_iff.mp hid
    obtain rfl := Option.some.inj (he.symm.trans he')
    apply denotes_of_path path he halias hstart
  · intro h
    apply resolve_eq_ok_iff.mpr h.standsFor

/-- A raw name resolves to what the canonical name that it leads to denotes. -/
theorem IsConsistent.resolveRaw_eq_ok_iff_denotes (h : r.IsConsistent)
    (hname : r.canonicalOfRaw? raw = some name) :
  r.resolveRaw raw = .ok e ↔ r.Denotes name e
  := by
  obtain ⟨e', he', rfl⟩ := Option.map_eq_some_iff.mp hname
  obtain ⟨id, hid, hget⟩ := Option.bind_eq_some_iff.mp he'
  have hname : r.idOf? e'.name = some id := (idOf?_eq_some_iff h.distinct).mpr ⟨e', hget, rfl⟩
  rw [← resolve_eq_ok_iff_denotes, resolveRaw, hid, resolve, hname]

end Registry

end NativeApi
