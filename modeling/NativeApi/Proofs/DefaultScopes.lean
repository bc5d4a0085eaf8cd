import NativeApi.Proofs.TargetScopes

/-!
# The default scope

What features and extensions require is collected apart for those that are disabled and for
all others.  Main statement: the default scope exists exactly if no required command leads
into a cycle of aliases, and then it hides exactly what the options deny and what disabled
extensions require while no other block does, whichever aliases it is asked for by.
-/

namespace NativeApi

/-! ### The blocks of a document -/

namespace Document

/-- The features, and the extensions that are not disabled. -/
def enabledBlocks (d : Document) (o : Options) : List Block :=
  d.features ++ d.extensions.filter fun block => !block.isDisabled o.disabledExtensions

/-- The extensions that are disabled. -/
def disabledBlocks (d : Document) (o : Options) : List Block :=
  d.extensions.filter (·.isDisabled o.disabledExtensions)

/-- Every feature and every extension is among the enabled blocks or the disabled ones. -/
theorem mem_enabledBlocks_or_disabledBlocks_iff {d : Document} {o : Options} {block : Block} :
  block ∈ d.enabledBlocks o ∨ block ∈ d.disabledBlocks o
    ↔ block ∈ d.features ∨ block ∈ d.extensions
  := by
  rw [enabledBlocks, disabledBlocks, List.mem_append, List.mem_filter, List.mem_filter]
  cases block.isDisabled o.disabledExtensions with
  | true => simp
  | false => simp

end Document

/-! ### The requirements of many blocks -/

namespace Requirements

open TargetScope (ShowsType ShowsCommand RequiresCycle)

variable {o : Options} {d : Document} {r : Registry} {a : CommandAliases}
  {q q' enabled enabled' disabled disabled' : Requirements} {blocks : List Block} {name : String}

/-- Many blocks can be added unless one of them leads into a cycle. -/
theorem exists_foldlM_add_eq_ok_iff :
  (∃ q', blocks.foldlM (add r a) q = .ok q') ↔ ∀ block ∈ blocks, ¬RequiresCycle a block
  := by
  apply Outcome.exists_foldlM_eq_ok_iff
  intro q block
  rw [exists_add_eq_ok_iff]
  simp only [RequiresCycle, not_exists, not_and]

/-- Many blocks add what each of them requires. -/
theorem mem_of_foldlM_add (h : blocks.foldlM (add r a) q = .ok q') (name : String) :
  (name ∈ q'.types ↔ name ∈ q.types ∨ ∃ block ∈ blocks, ShowsType r block name)
    ∧ (name ∈ q'.commands ↔ name ∈ q.commands ∨ ∃ block ∈ blocks, ShowsCommand a block name)
  := by
  induction blocks generalizing q with
  | nil =>
      obtain rfl := Outcome.pure_eq_ok_iff.mp h
      simp
  | cons block blocks ih =>
      obtain ⟨next, hnext, hrest⟩ := Outcome.foldlM_cons_eq_ok_iff.mp h
      obtain ⟨types, commands⟩ := ih hrest
      rw [types, commands, mem_types_of_add hnext, mem_commands_of_add hnext]
      simp only [List.exists_mem_cons_iff, or_assoc, ShowsType, ShowsCommand, and_self]

/-- Extensions add to the requirements of enabled or of disabled blocks, each as if there
were none of the other kind. -/
theorem foldlM_addExtension_eq_ok_iff :
  blocks.foldlM (addExtension o r a) (enabled, disabled) = .ok (enabled', disabled')
    ↔ (blocks.filter fun block => !block.isDisabled o.disabledExtensions).foldlM (add r a) enabled
        = .ok enabled'
      ∧ (blocks.filter (·.isDisabled o.disabledExtensions)).foldlM (add r a) disabled
        = .ok disabled'
  := by
  induction blocks generalizing enabled disabled with
  | nil => simp [Outcome.pure_eq_ok_iff]
  | cons block blocks ih =>
      cases hblock : block.isDisabled o.disabledExtensions with
      | true =>
          simp only [addExtension, List.filter_cons, hblock, Bool.not_true, Bool.false_eq_true,
            if_true, if_false, Outcome.foldlM_cons_eq_ok_iff, Outcome.bind_eq_ok_iff,
            Outcome.pure_eq_ok_iff]
          constructor
          · rintro ⟨_, ⟨next, hnext, rfl⟩, hrest⟩
            obtain ⟨henabled, hdisabled⟩ := ih.mp hrest
            use henabled, next
          · rintro ⟨henabled, next, hnext, hdisabled⟩
            use (enabled, next), ⟨next, hnext, rfl⟩, ih.mpr ⟨henabled, hdisabled⟩
      | false =>
          simp only [addExtension, List.filter_cons, hblock, Bool.not_false, Bool.false_eq_true,
            if_true, if_false, Outcome.foldlM_cons_eq_ok_iff, Outcome.bind_eq_ok_iff,
            Outcome.pure_eq_ok_iff]
          constructor
          · rintro ⟨_, ⟨next, hnext, rfl⟩, hrest⟩
            obtain ⟨henabled, hdisabled⟩ := ih.mp hrest
            use ⟨next, hnext, henabled⟩
          · rintro ⟨⟨next, hnext, henabled⟩, hdisabled⟩
            use (next, disabled), ⟨next, hnext, rfl⟩, ih.mpr ⟨henabled, hdisabled⟩

/-- The requirements of a document are those of its enabled and of its disabled blocks. -/
theorem ofDocument_eq_ok_iff :
  ofDocument o d r a = .ok (enabled, disabled)
    ↔ (d.enabledBlocks o).foldlM (add r a) empty = .ok enabled
      ∧ (d.disabledBlocks o).foldlM (add r a) empty = .ok disabled
  := by
  rw [ofDocument, Outcome.bind_eq_ok_iff, Document.enabledBlocks, List.foldlM_append,
    Outcome.bind_eq_ok_iff]
  simp only [foldlM_addExtension_eq_ok_iff, Document.disabledBlocks, ← and_assoc,
    exists_and_right]

theorem exists_ofDocument_eq_ok_iff :
  (∃ both, ofDocument o d r a = .ok both)
    ↔ ∀ block, block ∈ d.features ∨ block ∈ d.extensions → ¬RequiresCycle a block
  := by
  simp only [Prod.exists, ofDocument_eq_ok_iff, exists_and_left, exists_and_right,
    exists_foldlM_add_eq_ok_iff, ← Document.mem_enabledBlocks_or_disabledBlocks_iff (o := o),
    or_imp, forall_and]

end Requirements

/-! ### Names on the way of aliases -/

namespace Registry

variable {r : Registry} {id id' : Nat}

/-- The name of the entity at a position leads to that position. -/
def IsNamed (r : Registry) (id : Nat) : Prop := ∃ e, r.get? id = some e ∧ r.idOf? e.name = some id

theorem isNamed_of_idOf? {name : String} (h : r.idOf? name = some id) :
  r.IsNamed id
  := by
  obtain ⟨e, he, rfl⟩ := exists_get?_of_idOf? h
  use e

/-- Aliases are followed by name, so they lead to positions that names lead to. -/
theorem IsNamed.of_path {n : Nat} (h : r.IsNamed id) (path : Chain.Path r.next? n id id') :
  r.IsNamed id'
  := by
  induction path with
  | here id => exact h
  | @step n id next id' hnext _ ih =>
      apply ih
      obtain ⟨e, -, htarget⟩ := Option.bind_eq_some_iff.mp hnext
      split at htarget
      · apply isNamed_of_idOf? htarget
      · cases htarget

/-- What a name resolves to resolves to itself. -/
theorem resolve_name {name : String} {e : Entity} (h : r.resolve name = .ok e) :
  r.resolve e.name = .ok e
  := by
  obtain ⟨id, ⟨start, hstart, hid⟩, he⟩ := resolve_eq_ok_iff.mp h
  obtain ⟨⟨n, path, -⟩, concrete⟩ := resolveId_eq_ok_iff.mp hid
  obtain ⟨e', he', hname⟩ := (isNamed_of_idOf? hstart).of_path path
  obtain rfl := Option.some.inj (he.symm.trans he')
  apply resolve_eq_ok_iff.mpr
  use id, ⟨id, hname, concrete.resolveId⟩

end Registry

/-! ### The default scope -/

namespace DefaultScope

open TargetScope (ShowsType ShowsCommand RequiresCycle)

variable {o : Options} {n : Naming} {d : Document} {r : Registry} {a : CommandAliases}
  {s : DefaultScope} {name : String}

/-- The options deny the entity of a name, or disabled extensions require it and no other
block does. -/
def HidesType (o : Options) (d : Document) (r : Registry) (name : String) : Prop :=
  (∃ denied ∈ o.deniedTypes, (∃ e, r.resolve denied = .ok e ∧ e.name = name) ∨ denied = name)
    ∨ (∃ block ∈ d.disabledBlocks o, ShowsType r block name)
      ∧ ¬∃ block ∈ d.enabledBlocks o, ShowsType r block name

/-- The options disable a command, or disabled extensions require it and no other block
does. -/
def HidesCommand (o : Options) (d : Document) (a : CommandAliases) (command : String) : Prop :=
  (∃ disabled ∈ o.disabledCommands, Chain.Ends a.targets.get? disabled command)
    ∨ (∃ block ∈ d.disabledBlocks o, ShowsCommand a block command)
      ∧ ¬∃ block ∈ d.enabledBlocks o, ShowsCommand a block command

/-- A scope hides exactly what is denied and what only disabled extensions require. -/
structure IsExact (o : Options) (d : Document) (r : Registry) (a : CommandAliases)
    (s : DefaultScope) : Prop where
  /-- Every registered name, that of an alias too, is hidden where its entity is. -/
  isTypeVisible : ∀ name, (r.idOf? name).isSome = true →
    ∃ e, r.resolve name = .ok e
      ∧ ((Scope.default s).isTypeVisible r name = false ↔ HidesType o d r e.name)
  /-- Every command, an alias too, is hidden where the one that it stands for is. -/
  isCommandVisible : ∀ command target, Chain.Ends a.targets.get? command target →
    ((Scope.default s).isCommandVisible a command = false ↔ HidesCommand o d a target)

theorem exists_ofDocument_eq_ok_iff :
  (∃ s, ofDocument o d r a = .ok s)
    ↔ ∀ block, block ∈ d.features ∨ block ∈ d.extensions → ¬RequiresCycle a block
  := by
  rw [← Requirements.exists_ofDocument_eq_ok_iff (o := o) (r := r)]
  simp only [ofDocument, Outcome.bind_eq_ok_iff, Outcome.pure_eq_ok_iff]
  constructor
  · rintro ⟨s, both, hboth, -⟩
    use both
  · rintro ⟨both, hboth⟩
    exact ⟨_, both, hboth, rfl⟩

/-- What a scope hides, by the names of entities and by commands that are no aliases. -/
theorem mem_hidden_of_ofDocument (h : ofDocument o d r a = .ok s) (name : String) :
  (name ∈ s.hiddenTypes
      ↔ (∃ denied ∈ o.deniedTypes, Scope.typeName r denied = name)
        ∨ (∃ block ∈ d.disabledBlocks o, ShowsType r block name)
          ∧ ¬∃ block ∈ d.enabledBlocks o, ShowsType r block name)
    ∧ (name ∈ s.hiddenCommands
      ↔ (∃ disabled ∈ o.disabledCommands, a.resolveOrSelf disabled = name)
        ∨ (∃ block ∈ d.disabledBlocks o, ShowsCommand a block name)
          ∧ ¬∃ block ∈ d.enabledBlocks o, ShowsCommand a block name)
  := by
  obtain ⟨⟨enabled, disabled⟩, hboth, h⟩ := Outcome.bind_eq_ok_iff.mp h
  obtain rfl := Outcome.pure_eq_ok_iff.mp h
  obtain ⟨henabled, hdisabled⟩ := Requirements.ofDocument_eq_ok_iff.mp hboth
  obtain ⟨enabledTypes, enabledCommands⟩ := Requirements.mem_of_foldlM_add henabled name
  obtain ⟨disabledTypes, disabledCommands⟩ := Requirements.mem_of_foldlM_add hdisabled name
  simp [enabledTypes, enabledCommands, disabledTypes, disabledCommands, Requirements.empty]

/-- A denied name goes by that of an entity if it resolves to it, or is its name. -/
theorem typeName_eq_iff {e : Entity} (hname : r.resolve name = .ok e) (denied : String) :
  Scope.typeName r denied = e.name
    ↔ (∃ e', r.resolve denied = .ok e' ∧ e'.name = e.name) ∨ denied = e.name
  := by
  rw [Scope.typeName]
  cases hdenied : r.resolve denied with
  | error problem => simp
  | ok other =>
      simp only [Except.ok.injEq, exists_eq_left', iff_self_or]
      rintro rfl
      rw [Registry.resolve_name hname] at hdenied
      rw [Except.ok.inj hdenied]

/-- In the registry of a document, there is a default scope exactly if no feature or
extension leads into a cycle, and it hides exactly what is denied and what only disabled
extensions require. -/
theorem ofDocument_exact (built : Registry.ofDocument o n d = .ok r) (a : CommandAliases) :
  ((∃ s, ofDocument o d r a = .ok s)
      ↔ ∀ block, block ∈ d.features ∨ block ∈ d.extensions → ¬RequiresCycle a block)
    ∧ ∀ s, ofDocument o d r a = .ok s → s.IsExact o d r a
  := by
  use exists_ofDocument_eq_ok_iff
  intro s hs
  constructor
  · intro name hname
    obtain ⟨e, he, -⟩ := Registry.resolve_of_ofDocument built hname
    use e, he
    rw [Scope.isTypeVisible, Scope.typeName, he, Bool.not_eq_false', NameSet.contains_iff,
      (mem_hidden_of_ofDocument hs e.name).1, HidesType]
    simp only [typeName_eq_iff he]
  · intro command target hends
    have hend := hends.next_eq_none
    rw [Scope.isCommandVisible, (CommandAliases.resolveOrSelf_eq_iff hend).mpr hends,
      Bool.not_eq_false', NameSet.contains_iff, (mem_hidden_of_ofDocument hs target).2,
      HidesCommand]
    simp only [CommandAliases.resolveOrSelf_eq_iff hend]

/-- A document with two handles and two commands, each with an alias.  A feature requires one
handle and one command, and a disabled extension requires all aliases. -/
def retiredDocument : Document where
  root :=
    let named (kind name : String) : Element := (Element.named kind).withAttribute "name" name
    let aliasOf (e : Element) (name : String) : Element := e.withAttribute "alias" name
    let types := [
      (Registry.declaration "handle" "VkFence").withTextChild "type" Handle.dispatchableMacro,
      aliasOf (Registry.declaration "handle" "VkFenceKHR") "VkFence",
      (Registry.declaration "handle" "VkEvent").withTextChild "type" Handle.dispatchableMacro,
      aliasOf (Registry.declaration "handle" "VkEventKHR") "VkEvent"]
    let commands := [
      aliasOf (named "command" "vkWaitKHR") "vkWait",
      aliasOf (named "command" "vkSetKHR") "vkSet"]
    let core := [named "type" "VkFence", named "command" "vkWait"]
    let old := [named "type" "VkFenceKHR", named "type" "VkEventKHR",
      named "command" "vkWaitKHR", named "command" "vkSetKHR"]
    (Element.named "registry")
      |>.withChild (types.foldl Element.withChild (Element.named "types"))
      |>.withChild (commands.foldl Element.withChild (Element.named "commands"))
      |>.withChild ((named "feature" "VK_VERSION_1_0").withChild
          (core.foldl Element.withChild (Element.named "require")))
      |>.withChild ((Element.named "extensions").withChild
          ((named "extension" "VK_KHR_old").withAttribute "supported" "disabled"
            |>.withChild (old.foldl Element.withChild (Element.named "require"))))
  name_root := rfl

/-- Of the aliases that the disabled extension requires, those are hidden whose entity or
command the feature does not require. -/
theorem ofDocument_exact_retired :
  ∃ r s, Registry.ofDocument .standard Options.standard.naming retiredDocument = .ok r
    ∧ ofDocument .standard retiredDocument r (.ofDocument retiredDocument) = .ok s
    ∧ s.IsExact .standard retiredDocument r (.ofDocument retiredDocument)
    ∧ (Scope.default s).isTypeVisible r "FenceKHR" = true
    ∧ (Scope.default s).isTypeVisible r "EventKHR" = false
    ∧ (Scope.default s).isCommandVisible (.ofDocument retiredDocument) "vkWaitKHR" = true
    ∧ (Scope.default s).isCommandVisible (.ofDocument retiredDocument) "vkSetKHR" = false
  := by
  have evaluated :
      (Registry.ofDocument .standard Options.standard.naming retiredDocument).toOption.any (fun r =>
        (ofDocument .standard retiredDocument r (.ofDocument retiredDocument)).toOption.any fun s =>
          (Scope.default s).isTypeVisible r "FenceKHR"
            && !(Scope.default s).isTypeVisible r "EventKHR"
            && (Scope.default s).isCommandVisible (.ofDocument retiredDocument) "vkWaitKHR"
            && !(Scope.default s).isCommandVisible (.ofDocument retiredDocument) "vkSetKHR")
        = true := by
    decide +kernel
  obtain ⟨r, hr, h⟩ := (Option.any_eq_true _ _).mp evaluated
  obtain ⟨s, hs, h⟩ := (Option.any_eq_true _ _).mp h
  have built := Outcome.toOption_eq_some_iff.mp hr
  have made := Outcome.toOption_eq_some_iff.mp hs
  simp only [Bool.and_eq_true, Bool.not_eq_true', and_assoc] at h
  exact ⟨r, s, built, made, (ofDocument_exact built _).2 s made, h⟩

end DefaultScope

end NativeApi
