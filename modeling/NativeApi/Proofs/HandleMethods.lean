import NativeApi.Proofs.Lookups
import NativeApi.Proofs.ModelCommands

/-!
# The methods of handles

Once the commands of a document are classified, each becomes a method of the handle that it
is bound to, which its classification gives by name.  Main statement: in the model of a
document, the methods of a handle are the commands bound to it, each once and in the order
of the document; every binding names a handle; and nothing but methods differs from the
registry that the analysis of marshalling leaves.
-/

namespace NativeApi

namespace Registry

/-- A handle with its methods replaced. -/
def withMethods (methods : List String) : Entity.Kind → Entity.Kind
  | .handle h => .handle { h with methods }
  | kind => kind

/-- An entity with the methods cleared, if it is a handle. -/
def unboundEntity (e : Entity) : Entity := { e with kind := withMethods [] e.kind }

/-- The registry with the methods of all handles cleared. -/
def unbound (r : Registry) : Registry := { r with entities := r.entities.map unboundEntity }

theorem addMethod_withMethods (command : String) (methods : List String) (kind : Entity.Kind) :
  addMethod command (withMethods methods kind)
    = withMethods (if command ∈ methods then methods else methods ++ [command]) kind
  := by
  cases kind with
  | handle h =>
      simp only [withMethods, addMethod, List.contains_iff_mem]
      split <;> rfl
  | _ => rfl

theorem withMethods_withMethods (methods methods' : List String) (kind : Entity.Kind) :
  withMethods methods (withMethods methods' kind) = withMethods methods kind
  := by
  cases kind <;> rfl

/-- Clearing the methods of handles without methods leaves all entities as they are. -/
theorem IsUnbound.map_unboundEntity {r : Registry} (unbound : r.IsUnbound) :
  r.entities.map unboundEntity = r.entities
  := by
  apply Eq.trans _ (List.map_id _)
  apply List.map_congr_left
  rintro ⟨name, rawName, kind⟩ he
  obtain ⟨id, hid⟩ := List.mem_iff_getElem?.mp he
  cases kind with
  | handle h => rw [unboundEntity, withMethods, ← unbound id _ h hid rfl, id_eq]
  | _ => rfl

/-- The flags of composites have no part in methods. -/
theorem IsUnbound.of_unflagged_eq {r r' : Registry} (unbound : r.IsUnbound)
    (heq : r'.unflagged = r.unflagged) :
  r'.IsUnbound
  := by
  intro id e' h he' hkind
  obtain ⟨e, he, hsame⟩ := get?_of_unflagged_eq heq he'
  apply unbound id e h he
  have hkind' := congrArg Entity.kind hsame
  simp only [unflaggedEntity, hkind, withFlag] at hkind'
  cases hcase : e.kind with
  | handle h' =>
      rw [hcase] at hkind'
      exact hkind'.symm
  | _ =>
      rw [hcase] at hkind'
      cases hkind'

end Registry

/-! ### Classified commands -/

/-- The name that the prototype of a command gives it. -/
def Element.prototypeName? (e : Element) : Option String :=
  (e.element? "proto").bind (·.childText? "name")

namespace Classification

variable {s : Setting} {d : Document} {element : Element} {c : Classification}
  {cs : List Classification} {name : String}

/-- Whether a command is classified where it has a prototype. -/
def Setting.isWrapped (s : Setting) (name : String) : Bool :=
  !(s.aliases.isAlias name || s.options.handwrittenCommands.contains name)

/-- A command is bound to a handle by the name of the handle. -/
theorem exists_handle_of_boundHandle? {r : Registry} (h : boundHandle? r element = some name) :
  ∃ id e handle, r.get? id = some e ∧ e.name = name ∧ e.kind = .handle handle
  := by
  obtain ⟨first, -, h⟩ := Option.bind_eq_some_iff.mp h
  obtain ⟨rawType, -, h⟩ := Option.bind_eq_some_iff.mp h
  split at h
  · cases h
  · obtain ⟨e, he, rfl⟩ := Option.map_eq_some_iff.mp h
    obtain ⟨hresolved, hhandle⟩ := Option.filter_eq_some_iff.mp he
    obtain ⟨id, -, hid⟩ :=
      Registry.resolveRaw_eq_ok_iff.mp (Outcome.toOption_eq_some_iff.mp hresolved)
    obtain ⟨canonical, rawName, kind⟩ := e
    cases kind with
    | handle handle => exact ⟨id, _, handle, hid, rfl, rfl⟩
    | _ => cases hhandle

/-- A declared command has a classification exactly if it has a prototype and is wrapped, and
then one of that name. -/
theorem name_of_ofElement {found : Option Classification}
    (h : ofElement s element = .ok found) :
  found.map (·.command.name) = element.prototypeName?.filter s.isWrapped
  := by
  rw [Element.prototypeName?]
  cases found with
  | some c =>
      obtain ⟨proto, name, command, hproto, hname, halias, hhandwritten, hcommand, rfl⟩ :=
        ofElement_eq_some_iff.mp h
      obtain ⟨_, _, _, _, _, _, rfl⟩ := commandOf_eq_ok_iff.mp hcommand
      have hwrapped : s.isWrapped name = true := by
        rw [Setting.isWrapped, halias, hhandwritten]
        rfl
      rw [hproto, Option.bind_some, hname, Option.filter_some, if_pos hwrapped]
      rfl
  | none =>
      cases hproto : element.element? "proto" with
      | none => rfl
      | some proto =>
          cases hname : proto.childText? "name" with
          | none => rw [Option.bind_some, hname, Option.filter_none, Option.map_none]
          | some name =>
              have hwrapped : s.isWrapped name = false := by
                rw [Setting.isWrapped, Bool.not_eq_false']
                by_contra hnot
                rw [Bool.not_eq_true, Bool.or_eq_false_iff] at hnot
                -- a wrapped command with a prototype is classified
                rw [ofElement_of_prototype hproto hname hnot.1 hnot.2] at h
                cases hcommand : commandOf s element proto name
                    (boundHandle? s.registry element).isSome with
                | error problem =>
                    rw [hcommand] at h
                    cases h
                | ok command =>
                    rw [hcommand] at h
                    cases h
              rw [Option.bind_some, hname, Option.filter_some, hwrapped]
              rfl

/-- The classified commands of a document stand in the order of their prototypes. -/
theorem names_of_ofDocument (h : ofDocument s d = .ok cs) :
  cs.map (·.command.name) = (d.commands.filterMap Element.prototypeName?).filter s.isWrapped
  := by
  obtain ⟨all, hall, h⟩ := Outcome.bind_eq_ok_iff.mp h
  obtain rfl := Outcome.pure_eq_ok_iff.mp h
  have related := Outcome.mapM_eq_ok_iff.mp hall
  have hnames : all.map (Option.map (·.command.name))
      = d.commands.map fun e => e.prototypeName?.filter s.isWrapped := by
    rw [← List.forall₂_eq_eq_eq, List.forall₂_map_left_iff, List.forall₂_map_right_iff]
    apply related.flip.imp
    intro found e hfound
    apply name_of_ofElement hfound
  have hall' := congrArg (List.filterMap id) hnames
  rw [List.filterMap_map, List.filterMap_map] at hall'
  rw [List.map_filterMap, List.filter_filterMap]
  exact hall'

theorem boundHandle_of_ofDocument (h : ofDocument s d = .ok cs) (hc : c ∈ cs)
    (hbound : c.boundHandle = some name) :
  ∃ id e handle, s.registry.get? id = some e ∧ e.name = name ∧ e.kind = .handle handle
  := by
  obtain ⟨e, -, hclassified⟩ := (mem_of_ofDocument h).mp hc
  obtain ⟨proto, raw, command, -, -, -, -, -, rfl⟩ := ofElement_eq_some_iff.mp hclassified
  apply exists_handle_of_boundHandle? hbound

end Classification

namespace Model

open Registry (IsUnbound withMethods unboundEntity)

variable {r : Registry} {o : Options} {d : Document} {m : Model} {c : Classification}
  {commands : List Classification} {name : String}

/-! ### Binding -/

/-- The names of the commands that are bound to a canonical name, each where it comes
first. -/
def methodNames (commands : List Classification) (name : String) : List String :=
  ((commands.filter (·.boundHandle == some name)).map (·.command.name)).eraseDups

/-- One more command is a method of the handle that it is bound to, unless it is one. -/
theorem methodNames_concat (commands : List Classification) (c : Classification) (name : String) :
  methodNames (commands ++ [c]) name
    = if c.boundHandle = some name ∧ c.command.name ∉ methodNames commands name
      then methodNames commands name ++ [c.command.name]
      else methodNames commands name
  := by
  simp only [methodNames, List.filter_append, List.map_append, List.eraseDups_append,
    List.mem_eraseDups]
  by_cases hbound : c.boundHandle = some name
  · by_cases hmem : c.command.name
        ∈ (commands.filter (·.boundHandle == some name)).map (·.command.name)
    · simp [hbound, hmem, List.removeAll]
    · simp [hbound, hmem, List.removeAll, List.eraseDups_cons]
  · simp [hbound, List.removeAll]

/-- An entity with the commands bound to its name as methods, if it is a handle. -/
def boundEntity (commands : List Classification) (e : Entity) : Entity :=
  { e with kind := withMethods (methodNames commands e.name) e.kind }

theorem bindMethods_concat (r : Registry) (commands : List Classification) (c : Classification) :
  bindMethods r (commands ++ [c])
    = match c.boundHandle.bind (bindMethods r commands).idOf? with
      | some id => (bindMethods r commands).bindMethod id c.command.name
      | none => bindMethods r commands
  := by
  rw [bindMethods, List.foldl_concat]
  rfl

/-- One more command is added to the handle that it is bound to. -/
theorem boundEntity_concat (commands : List Classification) (c : Classification) (e : Entity) :
  boundEntity (commands ++ [c]) e
    = if c.boundHandle = some e.name
      then { boundEntity commands e with
        kind := Registry.addMethod c.command.name (boundEntity commands e).kind }
      else boundEntity commands e
  := by
  rw [boundEntity, methodNames_concat, boundEntity, Registry.addMethod_withMethods]
  by_cases hbound : c.boundHandle = some e.name
  · simp [hbound, ite_not]
  · simp [hbound]

/-- A command is bound to the entity at the position of the name that it is bound to. -/
theorem eq_name_iff (distinct : r.names.Nodup) {id : Nat} {e : Entity} (he : r.get? id = some e)
    (bound : Option String) :
  bound = some e.name ↔ bound.bind r.idOf? = some id
  := by
  constructor
  · rintro rfl
    apply (Registry.idOf?_eq_some_iff distinct).mpr ⟨e, he, rfl⟩
  · intro h
    obtain ⟨name, rfl, hid⟩ := Option.bind_eq_some_iff.mp h
    obtain ⟨e', he', rfl⟩ := Registry.exists_get?_of_idOf? hid
    rw [Option.some.inj (he'.symm.trans he)]

/-- Binding gives all handles at once the commands that are bound to them. -/
theorem bindMethods_eq (distinct : r.names.Nodup) (unbound : r.IsUnbound)
    (commands : List Classification) :
  bindMethods r commands = { r with entities := r.entities.map (boundEntity commands) }
  := by
  -- the last command goes to the handle that has its name, if there is one
  induction commands using List.reverseRecOn with
  | nil =>
      have hentities : r.entities.map (boundEntity []) = r.entities := unbound.map_unboundEntity
      rw [hentities]
      rfl
  | append_singleton commands c ih =>
      have hnames (name : String) : (bindMethods r commands).idOf? name = r.idOf? name := by
        rw [ih]
        exact List.findIdx?_map
      rw [bindMethods_concat, funext hnames, ih]
      cases hbound : c.boundHandle.bind r.idOf? with
      | none =>
          have hentities : r.entities.map (boundEntity (commands ++ [c]))
              = r.entities.map (boundEntity commands) := by
            apply List.map_congr_left
            intro e he
            obtain ⟨id, hid⟩ := List.mem_iff_getElem?.mp he
            rw [boundEntity_concat, if_neg]
            rw [eq_name_iff distinct hid, hbound]
            simp
          simp only [hentities]
      | some id =>
          have hentities : (r.entities.map (boundEntity commands)).modify id
              (fun e => { e with kind := Registry.addMethod c.command.name e.kind })
              = r.entities.map (boundEntity (commands ++ [c])) := by
            apply List.ext_getElem?
            intro other
            rw [List.getElem?_modify, List.getElem?_map, List.getElem?_map, Option.map_eq_map,
              Option.map_map]
            apply Option.map_congr
            intro e he
            have hposition : c.boundHandle = some e.name ↔ id = other := by
              rw [eq_name_iff distinct he, hbound, Option.some_inj]
            simp only [boundEntity_concat, Function.comp_apply, hposition]
          simp only [Registry.bindMethod, Registry.modifyKind, hentities]

/-- Bound commands are the methods of the handle at a position. -/
theorem get?_bindMethods (distinct : r.names.Nodup) (unbound : r.IsUnbound)
    (commands : List Classification) (id : Nat) :
  (bindMethods r commands).get? id = (r.get? id).map (boundEntity commands)
  := by
  rw [bindMethods_eq distinct unbound]
  apply List.getElem?_map

theorem lookup?_bindMethods (distinct : r.names.Nodup) (unbound : r.IsUnbound)
    (commands : List Classification) (name : String) :
  (bindMethods r commands).lookup? name = (r.lookup? name).map (boundEntity commands)
  := by
  rw [bindMethods_eq distinct unbound, Registry.lookup?_eq_find?, Registry.lookup?_eq_find?,
    List.find?_map]
  rfl

/-- Clearing methods undoes binding. -/
theorem unbound_bindMethods (distinct : r.names.Nodup) (unbound : r.IsUnbound)
    (commands : List Classification) :
  (bindMethods r commands).unbound = r
  := by
  have hentity (e : Entity) : unboundEntity (boundEntity commands e) = unboundEntity e := by
    rw [unboundEntity, boundEntity, Registry.withMethods_withMethods, unboundEntity]
  rw [bindMethods_eq distinct unbound, Registry.unbound]
  simp only [List.map_map, Function.comp_def, hentity, unbound.map_unboundEntity]

theorem mem_methodNames (hc : c ∈ commands) (hbound : c.boundHandle = some name) :
  c.command.name ∈ methodNames commands name
  := by
  rw [methodNames, List.mem_eraseDups]
  apply List.mem_map_of_mem
  apply List.mem_filter.mpr
  use hc
  simp [hbound]

/-! ### The methods of a model -/

/-- How the methods of a model agree with its commands, where an analysis has left the given
registry. -/
structure BindsMethods (o : Options) (d : Document) (analyzed : Registry) (m : Model) :
    Prop where
  /-- The classified commands stand in the order of their prototypes. -/
  order : m.commands.map (·.command.name)
    = (d.commands.filterMap Element.prototypeName?).filter fun name =>
        !(m.aliases.isAlias name || o.handwrittenCommands.contains name)
  /-- The methods of a handle are the commands that are bound to it, each where it comes
  first. -/
  methods : ∀ id e h, m.registry.get? id = some e → e.kind = .handle h →
    h.methods = ((m.commands.filter (·.boundHandle == some e.name)).map
      (·.command.name)).eraseDups
  /-- A command is bound to the only entity of a name, which is a handle with the command as
  a method. -/
  bound : ∀ c ∈ m.commands, ∀ name, c.boundHandle = some name →
    ∃ e h, m.registry.lookup? name = some e ∧ e.kind = .handle h ∧ c.command.name ∈ h.methods
  distinct : m.registry.names.Nodup
  /-- Nothing but methods differs from what the analysis leaves. -/
  rest : m.registry.unbound = analyzed

/-- In the model of a document, the methods of handles are the commands bound to them. -/
theorem bindsMethods_of_ofDocument (h : ofDocument o d = .ok m) :
  ∃ declared analyzed, Registry.ofDocument o (namingFor o d) d = .ok declared
    ∧ declared.analyze = (.ok m.marshalling, analyzed) ∧ BindsMethods o d analyzed m
  := by
  obtain ⟨declared, analyzed, stages⟩ := ofDocument_eq_ok_iff.mp h
  have hflags : analyzed.unflagged = declared.unflagged := by
    rw [← Registry.unflagged_analyze declared, stages.analysis]
  have distinct : analyzed.names.Nodup := by
    rw [(Registry.sameOutline_of_unflagged_eq hflags).names]
    apply (Registry.isConsistent_of_ofDocument stages.registration).distinct
  have unbound : analyzed.IsUnbound :=
    (Registry.isUnbound_of_ofDocument stages.registration).of_unflagged_eq hflags
  refine ⟨declared, analyzed, stages.registration, stages.analysis, ?_⟩
  constructor
  · apply Classification.names_of_ofDocument stages.commands
  · intro id e h he hkind
    rw [stages.methods, get?_bindMethods distinct unbound] at he
    obtain ⟨e₀, -, rfl⟩ := Option.map_eq_some_iff.mp he
    cases hcase : e₀.kind with
    | handle h₀ =>
        simp only [boundEntity, hcase, withMethods] at hkind
        obtain rfl := Entity.Kind.handle.inj hkind
        rfl
    | _ =>
        simp only [boundEntity, hcase, withMethods] at hkind
        cases hkind
  · intro c hc name hbound
    obtain ⟨id, e, h, he, rfl, hkind⟩ :=
      Classification.boundHandle_of_ofDocument stages.commands hc hbound
    have hfound : analyzed.lookup? e.name = some e := by
      apply Registry.lookup?_eq_some_iff.mpr
      use id, (Registry.idOf?_eq_some_iff distinct).mpr ⟨e, he, rfl⟩
    refine ⟨boundEntity m.commands e, { h with methods := methodNames m.commands e.name },
      ?_, ?_, ?_⟩
    · rw [stages.methods, lookup?_bindMethods distinct unbound, hfound, Option.map_some]
    · rw [boundEntity, hkind, withMethods]
    · apply mem_methodNames hc hbound
  · rw [stages.methods, bindMethods_eq distinct unbound]
    apply Eq.subst (motive := List.Nodup) _ distinct
    rw [Registry.names, Registry.names, List.map_map]
    rfl
  · rw [stages.methods, unbound_bindMethods distinct unbound]

/-- A document with a handle and an alias of it, two commands bound through these, the first
of which is declared twice, and a command that is not bound. -/
def boundDocument : Document where
  root :=
    let types := [
      (Registry.declaration "handle" "VkQueue").withTextChild "type" Handle.dispatchableMacro,
      (Registry.declaration "handle" "VkQueueKHR").withAttribute "alias" "VkQueue"]
    let command (name type : String) : Element :=
      let proto := ((Element.named "proto").withTextChild "type" "void").withTextChild "name" name
      let param := ((Element.named "param").withTextChild "type" type).withTextChild "name" "value"
      ((Element.named "command").withChild proto).withChild param
    let commands := [command "vkWait" "VkQueue", command "vkReset" "VkQueueKHR",
      command "vkWait" "VkQueue", command "vkSet" "float"]
    ((Element.named "registry").withChild
        (types.foldl Element.withChild (Element.named "types"))).withChild
      (commands.foldl Element.withChild (Element.named "commands"))
  name_root := rfl

/-- In the model of that document, the handle has both commands as methods. -/
theorem bindsMethods_of_ofDocument_bound :
  ∃ m, ∃ declared analyzed : Registry,
    ofDocument Options.standard.withoutTargets boundDocument = .ok m
    ∧ declared.analyze = (.ok m.marshalling, analyzed)
    ∧ BindsMethods Options.standard.withoutTargets boundDocument analyzed m
    ∧ m.registry.lookup? "Queue"
      = some ⟨"Queue", "VkQueue", .handle ⟨true, none, ["vkWait", "vkReset"]⟩⟩
  := by
  have evaluated :
      (ofDocument Options.standard.withoutTargets boundDocument).toOption.any (fun m =>
        m.registry.lookup? "Queue"
          == some ⟨"Queue", "VkQueue", .handle ⟨true, none, ["vkWait", "vkReset"]⟩⟩)
        = true := by
    decide +kernel
  obtain ⟨m, hm, h⟩ := (Option.any_eq_true _ _).mp evaluated
  have modelled := Outcome.toOption_eq_some_iff.mp hm
  obtain ⟨declared, analyzed, -, hanalyzed, binds⟩ := bindsMethods_of_ofDocument modelled
  exact ⟨m, declared, analyzed, modelled, hanalyzed, binds, eq_of_beq h⟩

end Model

end NativeApi
