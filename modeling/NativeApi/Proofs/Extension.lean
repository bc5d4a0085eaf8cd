import NativeApi.Proofs.AliasChains

/-!
# Registries that grow

Registration only adds: entities come at the end, and a raw name keeps the position that it
first led to.  `Registry.Extends view r r'` says so of two registries, where entities are
compared by a view of them.  Where the view shows names and targets of aliases, whatever a
name stands for in the first registry it stands for in the second.
-/

namespace NativeApi

/-- The name that an alias gives. -/
def Entity.target? (e : Entity) : Option String :=
  match e.kind with
  | .aliasOf target => some target
  | _ => none

/-- What resolving names needs to know of an entity. -/
def Entity.label (e : Entity) : String × String × Option String := (e.name, e.rawName, e.target?)

theorem Entity.target?_eq_some_iff {e : Entity} {target : String} :
  e.target? = some target ↔ e.kind = .aliasOf target
  := by
  obtain ⟨name, rawName, kind⟩ := e
  cases kind <;> simp [Entity.target?]

theorem Entity.target?_of_label_eq {e e' : Entity} (h : e'.label = e.label) :
  e'.target? = e.target?
  := by
  apply congrArg (fun label => label.2.2) h

theorem Entity.target?_eq_none_iff {e : Entity} :
  e.target? = none ↔ e.isAlias = false
  := by
  obtain ⟨name, rawName, kind⟩ := e
  cases kind <;> simp [Entity.target?, Entity.isAlias]

namespace Registry

variable {β γ : Type} {view : Entity → β} {r r' r'' : Registry} {raw name : String} {id id' : Nat}
  {kind : Entity.Kind} {change : Entity.Kind → Entity.Kind}

/-! ### What the operations of a registry do -/

theorem idOfRaw?_addRawName (r : Registry) (raw other : String) (id : Nat) :
  (r.addRawName raw id).idOfRaw? other
    = (r.idOfRaw? other).or (if other = raw then some id else none)
  := by
  apply Dict.get?_insertNew

/-- A raw name that is added leads somewhere. -/
theorem isSome_idOfRaw?_addRawName (r : Registry) (raw : String) (id : Nat) :
  ((r.addRawName raw id).idOfRaw? raw).isSome = true
  := by
  rw [idOfRaw?_addRawName, if_pos rfl]
  cases r.idOfRaw? raw with
  | none => rfl
  | some other => rfl

/-- The registry with an entity at the end. -/
def withEntity (r : Registry) (e : Entity) : Registry := { r with entities := r.entities ++ [e] }

/-- Registration either finds the canonical name or adds an entity of that name. -/
theorem register_cases (r : Registry) (raw name : String) (kind : Entity.Kind) :
  (∃ id, r.idOf? name = some id ∧ r.register raw name kind = (r.addRawName raw id, id))
    ∨ (r.idOf? name = none
      ∧ r.register raw name kind
        = ((r.withEntity ⟨name, raw, kind⟩).addRawName raw r.size, r.size))
  := by
  rw [register]
  cases r.idOf? name with
  | none => exact .inr ⟨rfl, rfl⟩
  | some id => exact .inl ⟨id, rfl, rfl⟩

theorem isSome_idOfRaw?_register (r : Registry) (raw name : String) (kind : Entity.Kind) :
  ((r.register raw name kind).1.idOfRaw? raw).isSome = true
  := by
  rcases register_cases r raw name kind with ⟨id, -, heq⟩ | ⟨-, heq⟩
  · rw [heq]
    apply isSome_idOfRaw?_addRawName
  · rw [heq]
    apply isSome_idOfRaw?_addRawName

theorem idOf?_withEntity (r : Registry) (e : Entity) :
  (r.withEntity e).idOf? e.name = some ((r.idOf? e.name).getD r.size)
  := by
  rw [idOf?, idOf?, withEntity, List.findIdx?_append]
  cases r.entities.findIdx? (·.name == e.name) with
  | none => simp [size]
  | some id => rfl

/-- The canonical name of a registration leads to the position that it gives. -/
theorem idOf?_register (r : Registry) (raw name : String) (kind : Entity.Kind) :
  (r.register raw name kind).1.idOf? name = some (r.register raw name kind).2
  := by
  rcases register_cases r raw name kind with ⟨id, hid, heq⟩ | ⟨hnone, heq⟩
  · rw [heq]
    exact hid
  · rw [heq]
    have hlast := idOf?_withEntity r ⟨name, raw, kind⟩
    rw [hnone] at hlast
    exact hlast

/-- The entity whose canonical name leads to a position is there, and of that name. -/
theorem exists_get?_of_idOf? (h : r.idOf? name = some id) :
  ∃ e, r.get? id = some e ∧ e.name = name
  := by
  obtain ⟨hlt, hname, -⟩ := List.findIdx?_eq_some_iff_getElem.mp h
  use r.entities[id], List.getElem?_eq_getElem hlt
  apply eq_of_beq hname

/-- The name of an entity leads somewhere. -/
theorem isSome_idOf?_of_get? {e : Entity} (h : r.get? id = some e) :
  (r.idOf? e.name).isSome = true
  := by
  rw [idOf?, List.findIdx?_isSome, List.any_eq_true]
  use e, List.mem_of_getElem? h
  apply beq_self_eq_true

theorem get?_modifyKind (r : Registry) (id other : Nat) (change : Entity.Kind → Entity.Kind) :
  (r.modifyKind id change).get? other
    = (r.get? other).map fun e => if id = other then { e with kind := change e.kind } else e
  := by
  rw [get?, modifyKind, List.getElem?_modify]
  by_cases h : id = other
  · simp [h, get?]
  · simp [h, get?]

/-! ### Extension -/

/-- The second registry holds what the first one does, as far as a view of entities shows:
the entities of the first are those that come first, raw names lead where they led, and the
platforms are the same. -/
structure Extends (view : Entity → β) (r r' : Registry) : Prop where
  entities : r.entities.map view <+: r'.entities.map view
  rawIds : ∀ raw id, r.idOfRaw? raw = some id → r'.idOfRaw? raw = some id
  platforms : r'.platforms = r.platforms

theorem Extends.refl (view : Entity → β) (r : Registry) :
  Extends view r r
  := by
  constructor
  · apply List.prefix_refl
  · intro raw id h
    exact h
  · rfl

theorem Extends.trans (h : Extends view r r') (h' : Extends view r' r'') :
  Extends view r r''
  := by
  constructor
  · apply h.entities.trans h'.entities
  · intro raw id hid
    apply h'.rawIds _ _ (h.rawIds _ _ hid)
  · rw [h'.platforms, h.platforms]

/-- Registries that extend one another do so in the eyes of a view that shows less. -/
theorem Extends.map (f : β → γ) (h : Extends view r r') :
  Extends (f ∘ view) r r'
  := by
  constructor
  · rw [← List.map_map, ← List.map_map]
    apply h.entities.map
  · apply h.rawIds
  · apply h.platforms

theorem extends_addRawName (view : Entity → β) (r : Registry) (raw : String) (id : Nat) :
  Extends view r (r.addRawName raw id)
  := by
  constructor
  · apply List.prefix_refl
  · intro other id' h
    rw [idOfRaw?_addRawName, h]
    rfl
  · rfl

theorem extends_withEntity (view : Entity → β) (r : Registry) (e : Entity) :
  Extends view r (r.withEntity e)
  := by
  constructor
  · rw [withEntity, List.map_append]
    apply List.prefix_append
  · intro raw id h
    exact h
  · rfl

theorem extends_register (view : Entity → β) (r : Registry) (raw name : String)
    (kind : Entity.Kind) :
  Extends view r (r.register raw name kind).1
  := by
  rcases register_cases r raw name kind with ⟨id, -, heq⟩ | ⟨-, heq⟩
  · rw [heq]
    apply extends_addRawName
  · rw [heq]
    apply (extends_withEntity view r _).trans
    apply extends_addRawName

/-- A change of what an entity is does not show where a view does not show it. -/
theorem map_modifyKind (r : Registry) (id : Nat)
    (hview : ∀ e, r.get? id = some e → view { e with kind := change e.kind } = view e) :
  (r.modifyKind id change).entities.map view = r.entities.map view
  := by
  apply List.ext_getElem?
  intro other
  have hother := get?_modifyKind r id other change
  rw [get?, get?] at hother
  rw [List.getElem?_map, List.getElem?_map, hother, Option.map_map]
  apply Option.map_congr
  intro e he
  by_cases hid : id = other
  · subst hid
    simp only [Function.comp_apply, if_true]
    apply hview e he
  · simp only [Function.comp_apply, if_neg hid]

theorem extends_modifyKind (r : Registry) (id : Nat)
    (hview : ∀ e, r.get? id = some e → view { e with kind := change e.kind } = view e) :
  Extends view r (r.modifyKind id change)
  := by
  constructor
  · simp only [map_modifyKind r id hview, List.prefix_refl]
  · intro raw id h
    exact h
  · rfl

theorem Extends.get? (h : Extends view r r') {e : Entity} (he : r.get? id = some e) :
  ∃ e', r'.get? id = some e' ∧ view e' = view e
  := by
  have hid : (r.entities.map view)[id]? = some (view e) := by
    rw [List.getElem?_map]
    apply congrArg (Option.map view) he
  obtain ⟨hlt, hview⟩ := List.getElem?_eq_some_iff.mp hid
  have hid' := List.prefix_iff_getElem?.mp h.entities id hlt
  rw [hview, List.getElem?_map] at hid'
  obtain ⟨e', he', hview⟩ := Option.map_eq_some_iff.mp hid'
  use e', he', hview

/-! ### Names in a registry that grows -/

section

variable (h : Extends Entity.label r r')
include h

/-- A canonical name keeps its position. -/
theorem Extends.idOf? (hid : r.idOf? name = some id) :
  r'.idOf? name = some id
  := by
  have hlabel (s : Registry) :
      s.idOf? name = (s.entities.map Entity.label).findIdx? fun label => label.1 == name := by
    rw [List.findIdx?_map]
    rfl
  obtain ⟨more, hmore⟩ := h.entities
  rw [hlabel] at hid
  rw [hlabel, ← hmore, List.findIdx?_append, hid]
  rfl

theorem Extends.isSome_idOf? (hname : (r.idOf? name).isSome = true) :
  (r'.idOf? name).isSome = true
  := by
  obtain ⟨id, hid⟩ := Option.isSome_iff_exists.mp hname
  rw [h.idOf? hid]
  rfl

theorem Extends.isSome_idOfRaw? (hraw : (r.idOfRaw? raw).isSome = true) :
  (r'.idOfRaw? raw).isSome = true
  := by
  obtain ⟨id, hid⟩ := Option.isSome_iff_exists.mp hraw
  rw [h.rawIds raw id hid]
  rfl

theorem Extends.next? (hnext : r.next? id = some id') :
  r'.next? id = some id'
  := by
  obtain ⟨e, he, htarget⟩ := Option.bind_eq_some_iff.mp hnext
  obtain ⟨e', he', hlabel⟩ := h.get? he
  split at htarget
  · rename_i target hkind
    have htarget' : e'.target? = some target := by
      rw [Entity.target?_of_label_eq hlabel]
      apply Entity.target?_eq_some_iff.mpr hkind
    rw [next?_of_aliasOf he' (Entity.target?_eq_some_iff.mp htarget')]
    apply h.idOf? htarget
  · cases htarget

theorem Extends.isConcrete (hconcrete : r.IsConcrete id) :
  r'.IsConcrete id
  := by
  obtain ⟨e, he, halias⟩ := hconcrete
  obtain ⟨e', he', hlabel⟩ := h.get? he
  use e', he'
  apply Entity.target?_eq_none_iff.mp
  rw [Entity.target?_of_label_eq hlabel]
  apply Entity.target?_eq_none_iff.mpr halias

/-- What an entity stands for, it goes on to stand for: the chain of aliases that leads
there is still the same, although new entities may have given other aliases a target. -/
theorem Extends.resolveId (hid : r.resolveId id = .ok id') :
  r'.resolveId id = .ok id'
  := by
  obtain ⟨⟨n, path, -⟩, hconcrete⟩ := resolveId_eq_ok_iff.mp hid
  have hconcrete' := h.isConcrete hconcrete
  apply resolveId_eq_ok_iff.mpr
  refine ⟨⟨n, path.mono ?_, hconcrete'.next?_eq_none⟩, hconcrete'⟩
  intro a b
  apply h.next?

end

end Registry

end NativeApi
