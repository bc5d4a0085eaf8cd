import Mathlib.Data.List.Nodup
import NativeApi.Proofs.Extension

/-!
# Registries as arenas

A registry is an arena of entities with two indices into it, one by canonical and one by
raw name.  `Arena` keeps the canonical index along with a registry, and `Arena.Run` is any
sequence of operations.  Main statement: from the empty registry on, the indices and the
arena always agree, and nothing that is there once is ever changed, except for methods of
handles and flags of composites; so what a name stands for, it stands for ever after.
-/

namespace NativeApi

/-! ### Operations -/

/-- What may be done to a registry once it is built. -/
inductive Operation where
  | register (raw name : String) (kind : Entity.Kind)
  | addRawName (raw : String) (id : Nat)
  | bindMethod (id : Nat) (command : String)
  | setNeedsMarshalling (id : Nat) (needs : Bool)
  | analyze

namespace Operation

/-- The registry after an operation. -/
def perform (r : Registry) : Operation → Registry
  | register raw name kind => (r.register raw name kind).1
  | addRawName raw id => r.addRawName raw id
  | bindMethod id command => r.bindMethod id command
  | setNeedsMarshalling id needs => r.setNeedsMarshalling id needs
  | analyze => r.analyze.2

/-- A raw name may be added for a position that registration has given. -/
def IsAllowed (r : Registry) : Operation → Prop
  | addRawName _ id => id < r.size
  | _ => True

/-- The canonical index after an operation: a new name leads to the next position. -/
def updateIndex (r : Registry) (ids : Dict Nat) : Operation → Dict Nat
  | register _ name _ => ids.insertNew name r.size
  | _ => ids

end Operation

/-- The canonical names in the order of registration. -/
def Registry.names (r : Registry) : List String := r.entities.map (·.name)

/-- A registry and the canonical index that its registrations keep. -/
structure Arena where
  registry : Registry
  ids : Dict Nat

namespace Arena

/-- The arena of nothing. -/
def empty : Arena := ⟨.empty, .empty⟩

/-- The arena after an operation. -/
def perform (s : Arena) (op : Operation) : Arena :=
  ⟨op.perform s.registry, op.updateIndex s.registry s.ids⟩

/-- Any number of operations lead from one arena to another. -/
inductive Run (s : Arena) : Arena → Prop where
  | here : Run s s
  | step {t : Arena} (op : Operation) : Run s t → op.IsAllowed t.registry → Run s (t.perform op)

/-- The arena and its indices agree. -/
structure IsConsistent (s : Arena) : Prop where
  distinct : s.registry.names.Nodup
  ids_iff : ∀ name id,
    s.ids.get? name = some id ↔ ∃ e, s.registry.get? id = some e ∧ e.name = name
  rawIds : ∀ raw id, s.registry.idOfRaw? raw = some id → id < s.registry.size

end Arena

/-! ### What stays as it is -/

/-- An entity without the methods of a handle and the flag of a composite. -/
def Entity.outline (e : Entity) : Entity :=
  { e with
    kind :=
      match e.kind with
      | .handle h => .handle { h with methods := [] }
      | .composite c => .composite { c with needsMarshalling := false }
      | kind => kind }

theorem Entity.label_outline (e : Entity) :
  e.outline.label = e.label
  := by
  obtain ⟨name, rawName, kind⟩ := e
  cases kind <;> rfl

namespace Registry

variable {r r' : Registry} {name : String} {id : Nat}

/-- Whatever the first registry knows, the second one knows as well, and no differently. -/
structure IsStable (r r' : Registry) : Prop where
  entities : ∀ id e, r.get? id = some e → ∃ e', r'.get? id = some e' ∧ e'.outline = e.outline
  idOf? : ∀ name id, r.idOf? name = some id → r'.idOf? name = some id
  idOfRaw? : ∀ raw id, r.idOfRaw? raw = some id → r'.idOfRaw? raw = some id
  standsFor : ∀ name id, r.StandsFor name id → r'.StandsFor name id
  rawStandsFor : ∀ raw id, r.RawStandsFor raw id → r'.RawStandsFor raw id

/-- A registry that extends another one is stable over it. -/
theorem Extends.isStable (h : Extends Entity.outline r r') :
  IsStable r r'
  := by
  have hlabel : Extends Entity.label r r' := by
    have heq : Entity.label ∘ Entity.outline = Entity.label := by
      funext e
      apply Entity.label_outline
    rw [← heq]
    apply h.map
  constructor
  · intro id e
    apply h.get?
  · intro name id
    apply hlabel.idOf?
  · apply h.rawIds
  · rintro name id ⟨start, hstart, hid⟩
    use start, hlabel.idOf? hstart, hlabel.resolveId hid
  · rintro raw id ⟨start, hstart, hid⟩
    use start, h.rawIds raw start hstart, hlabel.resolveId hid

/-! ### What single operations change -/

/-- Two registries differ in nothing but methods and flags. -/
structure SameOutline (r r' : Registry) : Prop where
  entities : r'.entities.map Entity.outline = r.entities.map Entity.outline
  rawIds : r'.rawIds = r.rawIds
  platforms : r'.platforms = r.platforms

theorem SameOutline.extends_outline (h : SameOutline r r') :
  Extends Entity.outline r r'
  := by
  constructor
  · simp only [h.entities, List.prefix_refl]
  · intro raw id hid
    rw [idOfRaw?, h.rawIds]
    exact hid
  · exact h.platforms

theorem sameOutline_modifyKind {change : Entity.Kind → Entity.Kind} (r : Registry) (id : Nat)
    (hchange : ∀ e : Entity, Entity.outline { e with kind := change e.kind } = e.outline) :
  SameOutline r (r.modifyKind id change)
  := by
  constructor
  · apply map_modifyKind
    intro e _
    apply hchange e
  · rfl
  · rfl

theorem sameOutline_bindMethod (r : Registry) (id : Nat) (command : String) :
  SameOutline r (r.bindMethod id command)
  := by
  apply sameOutline_modifyKind
  rintro ⟨name, rawName, kind⟩
  cases kind with
  | handle h =>
      simp only [addMethod, Entity.outline]
      split
      · rfl
      · rfl
  | _ => rfl

/-- Registries that differ in flags alone have the same outline. -/
theorem sameOutline_of_unflagged_eq (h : r'.unflagged = r.unflagged) :
  SameOutline r r'
  := by
  have houtline (s : Registry) :
      s.entities.map Entity.outline = s.unflagged.entities.map Entity.outline := by
    rw [unflagged, List.map_map]
    apply List.map_congr_left
    rintro ⟨name, rawName, kind⟩ _
    cases kind <;> rfl
  constructor
  · rw [houtline, h, ← houtline]
  · apply congrArg Registry.rawIds h
  · apply congrArg Registry.platforms h

/-- The passes of the analysis change nothing but flags, however far they get. -/
theorem unflagged_settle (ids : List Nat) (r : Registry) (flat : List Nat) :
  (settle ids r flat).2.unflagged = r.unflagged
  := by
  fun_induction settle ids r flat with
  | case1 r flat e hpass => rfl
  | case2 r flat flags hpass names hless later settled hsettle ih =>
      rw [hsettle] at ih
      rw [ih, unflagged_setFlags]
  | case3 r flat flags hpass names hnot => apply unflagged_setFlags

theorem unflagged_analyze (r : Registry) :
  r.analyze.2.unflagged = r.unflagged
  := by
  rw [analyze]
  apply Eq.trans (unflagged_settle _ _ _)
  apply unflagged_setFlags

/-! ### Names and positions -/

theorem getElem?_names_eq_some_iff :
  r.names[id]? = some name ↔ ∃ e, r.get? id = some e ∧ e.name = name
  := by
  rw [names, List.getElem?_map, Option.map_eq_some_iff]
  rfl

theorem length_names (r : Registry) :
  r.names.length = r.size
  := by
  apply List.length_map

theorem names_withEntity (r : Registry) (e : Entity) :
  (r.withEntity e).names = r.names ++ [e.name]
  := by
  apply List.map_append

theorem size_withEntity (r : Registry) (e : Entity) :
  (r.withEntity e).size = r.size + 1
  := by
  apply List.length_append

/-- Where canonical names are distinct, each leads to the entity that carries it. -/
theorem idOf?_eq_some_iff (distinct : r.names.Nodup) :
  r.idOf? name = some id ↔ ∃ e, r.get? id = some e ∧ e.name = name
  := by
  constructor
  · apply exists_get?_of_idOf?
  · rintro ⟨e, he, rfl⟩
    obtain ⟨other, hother⟩ := Option.isSome_iff_exists.mp (isSome_idOf?_of_get? he)
    have hid : r.names[id]? = some e.name := getElem?_names_eq_some_iff.mpr ⟨e, he, rfl⟩
    have hother' : r.names[other]? = some e.name :=
      getElem?_names_eq_some_iff.mpr (exists_get?_of_idOf? hother)
    obtain ⟨hlt, -⟩ := List.getElem?_eq_some_iff.mp hid
    rw [hother, (List.getElem?_inj hlt distinct).mp (hid.trans hother'.symm)]

theorem idOf?_eq_none_iff :
  r.idOf? name = none ↔ name ∉ r.names
  := by
  rw [idOf?, List.findIdx?_eq_none_iff, names, List.mem_map]
  constructor
  · rintro h ⟨e, he, rfl⟩
    have := h e he
    simp at this
  · intro h e he
    apply beq_false_of_ne
    rintro rfl
    exact h ⟨e, he, rfl⟩

theorem SameOutline.names (h : SameOutline r r') :
  r'.names = r.names
  := by
  have houtline (s : Registry) : s.names = (s.entities.map Entity.outline).map (·.name) := by
    rw [List.map_map]
    rfl
  rw [houtline, h.entities, ← houtline]

theorem extends_perform (r : Registry) (op : Operation) :
  Extends Entity.outline r (op.perform r)
  := by
  cases op with
  | register raw name kind => apply extends_register
  | addRawName raw id => apply extends_addRawName
  | bindMethod id command => apply (sameOutline_bindMethod r id command).extends_outline
  | setNeedsMarshalling id needs =>
      apply (sameOutline_of_unflagged_eq _).extends_outline
      apply unflagged_setNeedsMarshalling
  | analyze =>
      apply (sameOutline_of_unflagged_eq _).extends_outline
      apply unflagged_analyze

end Registry

/-! ### One operation -/

namespace Arena

open Registry

variable {s t : Arena}

theorem isConsistent_empty :
  empty.IsConsistent
  := by
  constructor
  · apply List.nodup_nil
  · intro name id
    simp [empty, Registry.empty, Registry.get?]
  · intro raw id h
    cases h

/-- The canonical index is the one that the registry searches for. -/
theorem IsConsistent.idOf?_eq (h : s.IsConsistent) (name : String) :
  s.registry.idOf? name = s.ids.get? name
  := by
  apply Option.ext
  intro id
  rw [idOf?_eq_some_iff h.distinct, h.ids_iff]

theorem IsConsistent.sameOutline (h : s.IsConsistent) {r : Registry}
    (same : SameOutline s.registry r) :
  IsConsistent ⟨r, s.ids⟩
  := by
  constructor
  · rw [same.names]
    exact h.distinct
  · intro name id
    rw [← getElem?_names_eq_some_iff, same.names, getElem?_names_eq_some_iff]
    apply h.ids_iff
  · intro raw id hid
    rw [← length_names, same.names, length_names]
    apply h.rawIds raw
    rw [idOfRaw?, ← same.rawIds]
    exact hid

theorem IsConsistent.addRawName (h : s.IsConsistent) (raw : String) {id : Nat}
    (hid : id < s.registry.size) :
  IsConsistent ⟨s.registry.addRawName raw id, s.ids⟩
  := by
  constructor
  · exact h.distinct
  · exact h.ids_iff
  · intro other id' hother
    rw [idOfRaw?_addRawName, Option.or_eq_some_iff] at hother
    rcases hother with hother | ⟨-, hother⟩
    · apply h.rawIds other id' hother
    · obtain rfl := Option.some.inj (Option.ite_none_right_eq_some.mp hother).2
      exact hid

/-- An entity of a new name goes to the position that the index gets for it. -/
theorem IsConsistent.withEntity (h : s.IsConsistent) (e : Entity)
    (hnew : s.registry.idOf? e.name = none) :
  IsConsistent ⟨s.registry.withEntity e, s.ids.insertNew e.name s.registry.size⟩
  := by
  constructor
  · rw [names_withEntity]
    apply List.nodup_append.mpr
    refine ⟨h.distinct, List.nodup_singleton e.name, ?_⟩
    rintro name hname other hother rfl
    rw [List.mem_singleton.mp hother] at hname
    exact idOf?_eq_none_iff.mp hnew hname
  · intro name id
    rw [← getElem?_names_eq_some_iff, names_withEntity, Dict.get?_insertNew, Option.or_eq_some_iff,
      ← h.idOf?_eq, idOf?_eq_some_iff h.distinct, ← getElem?_names_eq_some_iff,
      Option.ite_none_right_eq_some, Option.some.injEq]
    by_cases hid : id < s.registry.size
    · rw [List.getElem?_append_left (by rw [length_names]; exact hid)]
      constructor
      · rintro (hname | ⟨-, -, rfl⟩)
        · exact hname
        · exact absurd hid (Nat.lt_irrefl _)
      · exact .inl
    · have hlast : s.registry.names.length ≤ id := by
        rw [length_names]
        exact Nat.le_of_not_lt hid
      rw [List.getElem?_eq_none hlast, List.getElem?_append_right hlast, length_names,
        List.getElem?_singleton, Option.ite_none_right_eq_some, Option.some.injEq]
      constructor
      · rintro (hname | ⟨-, rfl, rfl⟩)
        · cases hname
        · exact ⟨Nat.sub_self _, rfl⟩
      · rintro ⟨hzero, rfl⟩
        exact .inr ⟨hnew, rfl, Nat.le_antisymm (Nat.le_of_not_lt hid) (Nat.le_of_sub_eq_zero hzero)⟩
  · intro raw id hid
    rw [size_withEntity]
    apply Nat.lt_succ_of_lt (h.rawIds raw id hid)

theorem IsConsistent.register (h : s.IsConsistent) (raw name : String) (kind : Entity.Kind) :
  (s.perform (.register raw name kind)).IsConsistent
  := by
  rw [perform, Operation.perform, Operation.updateIndex]
  rcases register_cases s.registry raw name kind with ⟨id, hid, heq⟩ | ⟨hnone, heq⟩
  · have hkept : s.ids.insertNew name s.registry.size = s.ids := by
      apply Dict.ext_get?
      intro other
      rw [Dict.get?_insertNew]
      by_cases hother : other = name
      · rw [hother, ← h.idOf?_eq, hid]
        rfl
      · rw [if_neg hother, Option.or_none]
    rw [heq, hkept]
    apply h.addRawName
    obtain ⟨e, he, -⟩ := exists_get?_of_idOf? hid
    exact (List.getElem?_eq_some_iff.mp he).1
  · rw [heq]
    apply (h.withEntity ⟨name, raw, kind⟩ hnone).addRawName
    apply Nat.lt_of_lt_of_eq (Nat.lt_succ_self _) (size_withEntity s.registry _).symm

/-- Every operation that is allowed keeps the arena and its indices in agreement. -/
theorem IsConsistent.perform (h : s.IsConsistent) (op : Operation)
    (hallowed : op.IsAllowed s.registry) :
  (s.perform op).IsConsistent
  := by
  cases op with
  | register raw name kind => apply h.register
  | addRawName raw id => apply h.addRawName raw hallowed
  | bindMethod id command => apply h.sameOutline (sameOutline_bindMethod s.registry id command)
  | setNeedsMarshalling id needs =>
      apply h.sameOutline
      apply sameOutline_of_unflagged_eq
      apply unflagged_setNeedsMarshalling
  | analyze =>
      apply h.sameOutline
      apply sameOutline_of_unflagged_eq
      apply unflagged_analyze

/-! ### Any number of operations -/

theorem Run.extends_outline (run : Run s t) :
  Extends Entity.outline s.registry t.registry
  := by
  induction run with
  | here => apply Extends.refl
  | step op _ _ ih => apply ih.trans (extends_perform _ op)

theorem Run.isConsistent (run : Run s t) (h : s.IsConsistent) :
  t.IsConsistent
  := by
  induction run with
  | here => exact h
  | step op _ hallowed ih => apply ih.perform op hallowed

/-- In every registry that operations lead to from the empty one, canonical names are
distinct, each of them leads to the entity that carries it, by search and by the index, and
every raw name leads to an entity.  To register a known name again gives its position and
changes no entity.  All that the registry knows, it goes on to know, and no differently. -/
theorem consistent_of_run (run : Run empty s) :
  s.IsConsistent
    ∧ (∀ name, s.registry.idOf? name = s.ids.get? name)
    ∧ (∀ raw name kind id, s.registry.idOf? name = some id →
        (s.registry.register raw name kind).2 = id
          ∧ (s.registry.register raw name kind).1.entities = s.registry.entities)
    ∧ ∀ t, Run s t → s.registry.IsStable t.registry
  := by
  have consistent := run.isConsistent isConsistent_empty
  refine ⟨consistent, consistent.idOf?_eq, ?_, ?_⟩
  · intro raw name kind id hid
    rw [Registry.register, hid]
    exact ⟨rfl, rfl⟩
  · intro t later
    apply later.extends_outline.isStable

/-- An alias without a target yet. -/
def unfinished : Arena := empty.perform (.register "VkFenceKHR" "FenceKhr" (.aliasOf "Fence"))

/-- The target of the alias, which has got a method and one more raw name. -/
def finished : Arena :=
  (((unfinished.perform (.register "VkFence" "Fence" (.handle ⟨false, none, []⟩))).perform
    (.bindMethod 1 "vkWait")).perform (.addRawName "VkFenceOld" 1)).perform .analyze

/-- The alias leads nowhere before its target is registered, and to the target after. -/
theorem consistent_of_run_finished :
  Run empty finished
    ∧ (finished.IsConsistent
      ∧ (∀ name, finished.registry.idOf? name = finished.ids.get? name)
      ∧ (∀ raw name kind id, finished.registry.idOf? name = some id →
          (finished.registry.register raw name kind).2 = id
            ∧ (finished.registry.register raw name kind).1.entities = finished.registry.entities)
      ∧ ∀ t, Run finished t → finished.registry.IsStable t.registry)
    ∧ (unfinished.registry.resolveId 0).toOption = none
    ∧ (finished.registry.resolveId 0).toOption = some 1
  := by
  have run : Run empty finished := by
    apply Run.step .analyze _ trivial
    apply Run.step (.addRawName "VkFenceOld" 1) _ (by change 1 < Registry.size _; decide +kernel)
    apply Run.step (.bindMethod 1 "vkWait") _ trivial
    apply Run.step (.register "VkFence" "Fence" (.handle ⟨false, none, []⟩)) _ trivial
    apply Run.step (.register "VkFenceKHR" "FenceKhr" (.aliasOf "Fence")) .here trivial
  refine ⟨run, consistent_of_run run, ?_, ?_⟩
  · decide +kernel
  · decide +kernel

end Arena

end NativeApi
