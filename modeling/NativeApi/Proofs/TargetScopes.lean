import NativeApi.Proofs.ClosedRegistries
import NativeApi.Proofs.Requirements

/-!
# The scopes of targets

The extensions of a target are looked up by name, and what those that are not disabled
require is shown.  Main statement: the scope of a target fails exactly if a name is that of
no extension or a required command leads into a cycle of aliases; if it does not fail, then
it shows exactly what its enabled extensions require, and is protected by exactly the macros
of their platforms, in whatever order and however often the extensions are given.
-/

namespace NativeApi

/-! ### Extensions of a target -/

namespace Document

variable {d : Document} {o : Options} {names names' : List String} {name : String} {block : Block}

/-- Whether the first extension of a name is not disabled. -/
def isEnabled (d : Document) (o : Options) (name : String) : Bool :=
  (d.extension? name).any fun block => !block.isDisabled o.disabledExtensions

/-- A block is the first extension of one of the names, and is not disabled. -/
def Enables (d : Document) (o : Options) (names : List String) (block : Block) : Prop :=
  ∃ name ∈ names, d.extension? name = some block ∧ block.isDisabled o.disabledExtensions = false

/-- The first platform of a name is protected by a macro. -/
def ProtectedBy (d : Document) (platform protect : String) : Prop :=
  ∃ e, d.platforms.find? (·.attribute? "name" == some platform) = some e
    ∧ e.attribute? "protect" = some protect

theorem not_enables_nil (block : Block) :
  ¬d.Enables o [] block
  := by
  rintro ⟨name, hname, -⟩
  cases hname

theorem enables_append_iff :
  d.Enables o (names ++ names') block ↔ d.Enables o names block ∨ d.Enables o names' block
  := by
  simp only [Enables, List.mem_append, or_and_right, exists_or]

theorem enables_singleton_iff :
  d.Enables o [name] block
    ↔ d.extension? name = some block ∧ block.isDisabled o.disabledExtensions = false
  := by
  simp [Enables]

/-- The same names enable the same blocks. -/
theorem enables_congr (h : ∀ name, name ∈ names' ↔ name ∈ names) :
  d.Enables o names' block ↔ d.Enables o names block
  := by
  simp only [Enables, h]

theorem exists_extension?_iff :
  (∃ block, d.extension? name = some block) ↔ ∃ block ∈ d.extensions, block.name = name
  := by
  rw [← Option.isSome_iff_exists, extension?, List.find?_isSome]
  simp only [beq_iff_eq]

end Document

namespace TargetScope

variable {o : Options} {n : Naming} {d : Document} {r : Registry} {a : CommandAliases}
  {s s' s'' : TargetScope} {names names' : List String} {name target : String} {block : Block}

/-- A block requires a type that goes by a name. -/
def ShowsType (r : Registry) (block : Block) (name : String) : Prop :=
  ∃ raw, block.Requires "type" raw ∧ Requirements.GoesBy r raw name

/-- A block requires a command that stands for another one. -/
def ShowsCommand (a : CommandAliases) (block : Block) (command : String) : Prop :=
  ∃ raw, block.Requires "command" raw ∧ Chain.Ends a.targets.get? raw command

/-- A block belongs to a platform that a macro protects. -/
def ShowsProtect (d : Document) (block : Block) (protect : String) : Prop :=
  ∃ platform, block.platform? = some platform ∧ d.ProtectedBy platform protect

/-- A block requires a command whose chain of aliases returns. -/
def RequiresCycle (a : CommandAliases) (block : Block) : Prop :=
  ∃ raw, block.Requires "command" raw ∧ Chain.Returns a.targets.get? raw

/-- The platforms of a registry are found as they are declared. -/
theorem find?_platformsOf (d : Document) (platform : String) :
  (Registry.platformsOf d).find? (·.name == platform)
    = (d.platforms.find? (·.attribute? "name" == some platform)).map fun e =>
        ⟨platform, e.attribute? "protect"⟩
  := by
  rw [Registry.platformsOf]
  induction d.platforms with
  | nil => rfl
  | cons e es ih =>
      rw [List.filterMap_cons, List.find?_cons (a := e)]
      cases hname : e.attribute? "name" with
      | none => simpa [hname] using ih
      | some name =>
          by_cases heq : name = platform
          · simp [heq]
          · have hbeq : (name == platform) = false := beq_false_of_ne heq
            simpa [hbeq] using ih

theorem protectOf_eq_some_iff (hplatforms : r.platforms = Registry.platformsOf d)
    {protect : String} :
  protectOf r block = some protect ↔ ShowsProtect d block protect
  := by
  rw [protectOf, hplatforms, ShowsProtect]
  simp only [Document.ProtectedBy, Option.bind_eq_bind, Option.bind_eq_some_iff, find?_platformsOf,
    Option.map_eq_some_iff]
  grind

/-! ### One extension -/

/-- One more extension is disabled and changes nothing, or is not and adds what it
requires. -/
theorem addExtension_cases (h : addExtension o d r a s name = .ok s') :
  ∃ block, d.extension? name = some block
    ∧ (block.isDisabled o.disabledExtensions = true ∧ s' = s
      ∨ block.isDisabled o.disabledExtensions = false
        ∧ ∃ q, (⟨s.requiredTypes, s.requiredCommands⟩ : Requirements).add r a block = .ok q
          ∧ s' = {
            target := s.target
            extensions := s.extensions ++ [name]
            requiredTypes := q.types
            requiredCommands := q.commands
            protect := s.protect.insertAll (protectOf r block).toList })
  := by
  rw [addExtension] at h
  cases hblock : d.extension? name with
  | none =>
      rw [hblock] at h
      cases h
  | some block =>
      simp only [hblock] at h
      use block, rfl
      split at h
      · rename_i hdisabled
        obtain rfl := Outcome.pure_eq_ok_iff.mp h
        exact .inl ⟨hdisabled, rfl⟩
      · rename_i henabled
        obtain ⟨q, hq, h⟩ := Outcome.bind_eq_ok_iff.mp h
        obtain rfl := Outcome.pure_eq_ok_iff.mp h
        exact .inr ⟨Bool.eq_false_iff.mpr henabled, q, hq, rfl⟩

/-- One more extension can be added if there is one of the name, and it is disabled or leads
into no cycle. -/
theorem exists_addExtension_eq_ok_iff :
  (∃ s', addExtension o d r a s name = .ok s')
    ↔ ∃ block, d.extension? name = some block
      ∧ (block.isDisabled o.disabledExtensions = false → ¬RequiresCycle a block)
  := by
  rw [addExtension]
  cases hblock : d.extension? name with
  | none => simp
  | some block =>
      simp only [Option.some.injEq, exists_eq_left']
      cases hdisabled : block.isDisabled o.disabledExtensions with
      | true => simp [Outcome.pure_eq_ok_iff]
      | false =>
          simp only [Bool.false_eq_true, if_false, forall_const, Outcome.bind_eq_ok_iff,
            Outcome.pure_eq_ok_iff, RequiresCycle, not_exists, not_and]
          constructor
          · rintro ⟨_, q, hq, -⟩
            apply Requirements.exists_add_eq_ok_iff.mp ⟨q, hq⟩
          · intro hcycles
            obtain ⟨q, hq⟩ := Requirements.exists_add_eq_ok_iff.mpr hcycles
            exact ⟨_, q, hq, rfl⟩

/-! ### All extensions -/

/-- The second scope shows what the first one does and what is required by the blocks that
the names enable. -/
structure Adds (o : Options) (d : Document) (r : Registry) (a : CommandAliases)
    (names : List String) (s s' : TargetScope) : Prop where
  target : s'.target = s.target
  extensions : s'.extensions = s.extensions ++ names.filter (d.isEnabled o)
  mem_requiredTypes : ∀ type, type ∈ s'.requiredTypes
    ↔ type ∈ s.requiredTypes ∨ ∃ block, d.Enables o names block ∧ ShowsType r block type
  mem_requiredCommands : ∀ command, command ∈ s'.requiredCommands
    ↔ command ∈ s.requiredCommands
      ∨ ∃ block, d.Enables o names block ∧ ShowsCommand a block command
  mem_protect : ∀ protect, protect ∈ s'.protect
    ↔ protect ∈ s.protect ∨ ∃ block, d.Enables o names block ∧ ShowsProtect d block protect

theorem Adds.refl (s : TargetScope) :
  Adds o d r a [] s s
  := by
  constructor <;> simp [Document.not_enables_nil]

theorem Adds.trans (h : Adds o d r a names s s') (h' : Adds o d r a names' s' s'') :
  Adds o d r a (names ++ names') s s''
  := by
  constructor
  · rw [h'.target, h.target]
  · rw [h'.extensions, h.extensions, List.filter_append, List.append_assoc]
  · intro type
    rw [h'.mem_requiredTypes, h.mem_requiredTypes]
    simp only [Document.enables_append_iff, or_and_right, exists_or, or_assoc]
  · intro command
    rw [h'.mem_requiredCommands, h.mem_requiredCommands]
    simp only [Document.enables_append_iff, or_and_right, exists_or, or_assoc]
  · intro protect
    rw [h'.mem_protect, h.mem_protect]
    simp only [Document.enables_append_iff, or_and_right, exists_or, or_assoc]

section

variable (hplatforms : r.platforms = Registry.platformsOf d)
include hplatforms

theorem adds_addExtension (h : addExtension o d r a s name = .ok s') :
  Adds o d r a [name] s s'
  := by
  obtain ⟨block, hblock, ⟨hdisabled, rfl⟩ | ⟨henabled, q, hq, rfl⟩⟩ := addExtension_cases h
  · constructor <;>
      simp [Document.enables_singleton_iff, Document.isEnabled, hblock, hdisabled]
  · have henables (P : Block → Prop) : (∃ b, d.Enables o [name] b ∧ P b) ↔ P block := by
      simp [Document.enables_singleton_iff, hblock, henabled]
    constructor
    · rfl
    · simp [Document.isEnabled, hblock, henabled]
    · intro type
      rw [henables]
      apply Requirements.mem_types_of_add hq
    · intro command
      rw [henables]
      apply Requirements.mem_commands_of_add hq
    · intro protect
      rw [henables, ← protectOf_eq_some_iff hplatforms, NameSet.mem_insertAll, Option.mem_toList]
      apply or_comm

theorem adds_foldlM (h : names.foldlM (addExtension o d r a) s = .ok s') :
  Adds o d r a names s s'
  := by
  induction names generalizing s with
  | nil =>
      obtain rfl := Outcome.pure_eq_ok_iff.mp h
      apply Adds.refl
  | cons name names ih =>
      obtain ⟨next, hnext, hrest⟩ := Outcome.foldlM_cons_eq_ok_iff.mp h
      apply (adds_addExtension hplatforms hnext).trans (ih hrest)

end

/-- The scope of a target can be made exactly if there is an extension of each name, and no
enabled one leads into a cycle. -/
theorem exists_ofExtensions_eq_ok_iff :
  (∃ s, ofExtensions o d r a target names = .ok s)
    ↔ (∀ name ∈ names, ∃ block ∈ d.extensions, block.name = name)
      ∧ ∀ block, d.Enables o names block → ¬RequiresCycle a block
  := by
  have each : (∃ s, ofExtensions o d r a target names = .ok s)
      ↔ ∀ name ∈ names, ∃ block, d.extension? name = some block
        ∧ (block.isDisabled o.disabledExtensions = false → ¬RequiresCycle a block) := by
    apply Outcome.exists_foldlM_eq_ok_iff
    intro s name
    apply exists_addExtension_eq_ok_iff
  rw [each]
  constructor
  · intro h
    constructor
    · intro name hname
      obtain ⟨block, hblock, -⟩ := h name hname
      apply Document.exists_extension?_iff.mp ⟨block, hblock⟩
    · rintro block ⟨name, hname, hblock, henabled⟩
      obtain ⟨other, hother, hcycle⟩ := h name hname
      obtain rfl := Option.some.inj (hblock.symm.trans hother)
      apply hcycle henabled
  · rintro ⟨hnames, hcycles⟩ name hname
    obtain ⟨block, hblock⟩ := Document.exists_extension?_iff.mpr (hnames name hname)
    use block, hblock
    intro henabled
    apply hcycles block ⟨name, hname, hblock, henabled⟩

/-! ### The scope of a target -/

/-- A scope shows exactly what the enabled extensions of the given names require, and is
protected by exactly the macros of their platforms. -/
structure IsExact (o : Options) (d : Document) (r : Registry) (a : CommandAliases)
    (names : List String) (s : TargetScope) : Prop where
  extensions : s.extensions = names.filter (d.isEnabled o)
  mem_requiredTypes : ∀ type, type ∈ s.requiredTypes
    ↔ ∃ block, d.Enables o names block ∧ ShowsType r block type
  mem_requiredCommands : ∀ command, command ∈ s.requiredCommands
    ↔ ∃ block, d.Enables o names block ∧ ShowsCommand a block command
  mem_protect : ∀ protect, protect ∈ s.protect
    ↔ ∃ block, d.Enables o names block ∧ ShowsProtect d block protect
  /-- Every registered name, that of an alias too, is visible where its entity is shown. -/
  isTypeVisible : ∀ name, (r.idOf? name).isSome = true →
    ∃ e, r.resolve name = .ok e
      ∧ ((Scope.target s).isTypeVisible r name = true ↔ e.name ∈ s.requiredTypes)

theorem isTypeVisible_iff {e : Entity} (h : r.resolve name = .ok e) :
  (Scope.target s).isTypeVisible r name = true ↔ e.name ∈ s.requiredTypes
  := by
  rw [Scope.isTypeVisible, Scope.typeName, h, NameSet.contains_iff]

theorem isExact_of_ofDocument (built : Registry.ofDocument o n d = .ok r)
    (h : ofExtensions o d r a target names = .ok s) :
  s.IsExact o d r a names
  := by
  have adds := adds_foldlM (Registry.platforms_of_ofDocument built) h
  constructor
  · rw [adds.extensions, List.nil_append]
  · intro type
    simp [adds.mem_requiredTypes]
  · intro command
    simp [adds.mem_requiredCommands]
  · intro protect
    simp [adds.mem_protect]
  · intro name hname
    obtain ⟨e, he, -⟩ := Registry.resolve_of_ofDocument built hname
    use e, he
    apply isTypeVisible_iff he

/-- The same names show the same. -/
theorem IsExact.eq (h : s.IsExact o d r a names) (h' : s'.IsExact o d r a names')
    (same : ∀ name, name ∈ names' ↔ name ∈ names) :
  s'.requiredTypes = s.requiredTypes ∧ s'.requiredCommands = s.requiredCommands
    ∧ s'.protect = s.protect
  := by
  refine ⟨NameSet.ext_mem ?_, NameSet.ext_mem ?_, NameSet.ext_mem ?_⟩
  · intro type
    simp only [h.mem_requiredTypes, h'.mem_requiredTypes, Document.enables_congr same]
  · intro command
    simp only [h.mem_requiredCommands, h'.mem_requiredCommands, Document.enables_congr same]
  · intro protect
    simp only [h.mem_protect, h'.mem_protect, Document.enables_congr same]

/-- In the registry of a document, the scope of a target fails exactly if a name is that of
no extension or an enabled extension leads into a cycle; otherwise it is exact, and any list
of the same names has one that shows the same. -/
theorem ofExtensions_exact (built : Registry.ofDocument o n d = .ok r) (a : CommandAliases)
    (target : String) (names : List String) :
  ((∃ e, ofExtensions o d r a target names = .error e)
      ↔ (∃ name ∈ names, ∀ block ∈ d.extensions, block.name ≠ name)
        ∨ ∃ block, d.Enables o names block ∧ RequiresCycle a block)
    ∧ ∀ s, ofExtensions o d r a target names = .ok s →
      s.IsExact o d r a names
        ∧ ∀ names', (∀ name, name ∈ names' ↔ name ∈ names) →
          ∃ s', ofExtensions o d r a target names' = .ok s'
            ∧ s'.requiredTypes = s.requiredTypes ∧ s'.requiredCommands = s.requiredCommands
            ∧ s'.protect = s.protect
  := by
  constructor
  · have fails : (∃ e, ofExtensions o d r a target names = .error e)
        ↔ ¬∃ s, ofExtensions o d r a target names = .ok s := by
      cases ofExtensions o d r a target names <;> simp
    rw [fails, exists_ofExtensions_eq_ok_iff, not_and_or]
    simp only [not_forall, not_exists, not_and, not_not, exists_prop, ne_eq]
  · intro s hs
    have exact := isExact_of_ofDocument built hs
    use exact
    intro names' same
    obtain ⟨hnames, hcycles⟩ := exists_ofExtensions_eq_ok_iff.mp ⟨s, hs⟩
    have succeeds : ∃ s', ofExtensions o d r a target names' = .ok s' := by
      apply exists_ofExtensions_eq_ok_iff.mpr
      constructor
      · intro name hname
        apply hnames name ((same name).mp hname)
      · intro block hblock
        apply hcycles block ((Document.enables_congr same).mp hblock)
    obtain ⟨s', hs'⟩ := succeeds
    use s', hs'
    apply exact.eq (isExact_of_ofDocument built hs') same

/-- A document with a handle, an alias of it, an alias of a command, and two extensions that
require these aliases, of which one belongs to a protected platform and one is disabled. -/
def surfaceDocument : Document where
  root :=
    let named (kind name : String) : Element := (Element.named kind).withAttribute "name" name
    let handle (name : String) : Element :=
      (named "type" name).withAttribute "category" "handle"
    let required := (Element.named "require").withChild (named "type" "VkFenceKHR")
      |>.withChild (named "command" "vkWaitKHR")
    (Element.named "registry")
      |>.withChild ((Element.named "types").withChild
          ((handle "VkFence").withTextChild "type" Handle.dispatchableMacro)
        |>.withChild ((handle "VkFenceKHR").withAttribute "alias" "VkFence"))
      |>.withChild ((Element.named "commands").withChild
          ((named "command" "vkWaitKHR").withAttribute "alias" "vkWait"))
      |>.withChild ((Element.named "extensions").withChild
          ((named "extension" "VK_KHR_surface").withAttribute "platform" "win32"
            |>.withChild required)
        |>.withChild ((named "extension" "VK_KHR_old").withAttribute "supported" "disabled"
            |>.withChild required))
      |>.withChild ((Element.named "platforms").withChild
          ((named "platform" "win32").withAttribute "protect" "USE_WIN32"))
  name_root := rfl

/-- The scope of both extensions shows the handle that the alias stands for, and is the same
in the other order. -/
theorem ofExtensions_exact_surface :
  ∃ r s, Registry.ofDocument .standard Options.standard.naming surfaceDocument = .ok r
    ∧ ofExtensions .standard surfaceDocument r (.ofDocument surfaceDocument) "Windows"
      ["VK_KHR_surface", "VK_KHR_old"] = .ok s
    ∧ s.IsExact .standard surfaceDocument r (.ofDocument surfaceDocument)
      ["VK_KHR_surface", "VK_KHR_old"]
    ∧ "Fence" ∈ s.requiredTypes
    ∧ ∃ s', ofExtensions .standard surfaceDocument r (.ofDocument surfaceDocument) "Windows"
        ["VK_KHR_old", "VK_KHR_surface"] = .ok s'
      ∧ s'.requiredTypes = s.requiredTypes
  := by
  have evaluated :
      (Registry.ofDocument .standard Options.standard.naming surfaceDocument).toOption.any (fun r =>
        (ofExtensions .standard surfaceDocument r (.ofDocument surfaceDocument) "Windows"
          ["VK_KHR_surface", "VK_KHR_old"]).toOption.any fun s =>
            s.requiredTypes.contains "Fence") = true := by
    decide +kernel
  obtain ⟨r, hr, h⟩ := (Option.any_eq_true _ _).mp evaluated
  obtain ⟨s, hs, hfence⟩ := (Option.any_eq_true _ _).mp h
  have built := Outcome.toOption_eq_some_iff.mp hr
  have made := Outcome.toOption_eq_some_iff.mp hs
  have holds := ofExtensions_exact built (.ofDocument surfaceDocument) "Windows"
    ["VK_KHR_surface", "VK_KHR_old"]
  obtain ⟨exact, same⟩ := holds.2 s made
  obtain ⟨s', hs', htypes, -⟩ := same ["VK_KHR_old", "VK_KHR_surface"] (by simp [or_comm])
  exact ⟨r, s, built, made, exact, NameSet.contains_iff.mp hfence, s', hs', htypes⟩

end TargetScope

end NativeApi
