import NativeApi.Model.Basic
import NativeApi.Proofs.DeclaredRoles
import NativeApi.Proofs.DefaultScopes

/-!
# The commands of models

A model is made in stages, and has a classification for every prototype of its document
whose command is no alias and not wrapped by hand.  Main statement: in a model, every alias
that a block requires leads to a command, although maybe not to a declared one, and every
alias finds the classification of the command that it leads to, if there is one; so an alias
is sound exactly if its chain does not return and ends at a command that is declared by a
prototype or wrapped by hand.
-/

namespace NativeApi

/-! ### The stages of a model -/

namespace Model

variable {o : Options} {d : Document} {m : Model}

/-- What the stages give from which a model is put together: the registry of the document,
that registry once it is analyzed, and then the parts of the model. -/
structure Stages (o : Options) (d : Document) (declared analyzed : Registry) (m : Model) :
    Prop where
  registration : Registry.ofDocument o (namingFor o d) d = .ok declared
  analysis : declared.analyze = (.ok m.marshalling, analyzed)
  aliases : m.aliases = .ofDocument d
  defaultScope : DefaultScope.ofDocument o d analyzed m.aliases = .ok m.defaultScope
  scopes : TargetScope.ofTargets o d analyzed m.aliases = .ok m.scopes
  commands : Classification.ofDocument ⟨o, namingFor o d, analyzed, m.aliases⟩ d = .ok m.commands
  methods : m.registry = bindMethods analyzed m.commands
  tables : ∃ stale, o.validateTables m.registry d = .ok stale
  vendorTags : m.vendorTags = (namingFor o d).vendorTags
  handwrittenCommands : m.handwrittenCommands = d.commandNames.filter o.handwrittenCommands.contains
  names : m.names = .ofRegistry m.registry

/-- A document has the model that its stages make. -/
theorem ofDocument_eq_ok_iff :
  ofDocument o d = .ok m ↔ ∃ declared analyzed, Stages o d declared analyzed m
  := by
  simp only [ofDocument, Outcome.bind_eq_ok_iff, Outcome.pure_eq_ok_iff]
  constructor
  · rintro ⟨declared, hdeclared, marshalling, hreport, defaultScope, hdefault, scopes, hscopes,
      commands, hcommands, stale, hstale, rfl⟩
    use declared, declared.analyze.2
    constructor
    · exact hdeclared
    · exact Prod.ext hreport rfl
    · rfl
    · exact hdefault
    · exact hscopes
    · exact hcommands
    · rfl
    · use stale
    · rfl
    · rfl
    · rfl
  · rintro ⟨declared, analyzed, stages⟩
    obtain ⟨registry, vendorTags, defaultScope, scopes, commands, handwritten, aliases, names,
      marshalling⟩ := m
    obtain ⟨hdeclared, hanalyzed, haliases, hdefault, hscopes, hcommands, hmethods, ⟨stale, hstale⟩,
      htags, hhandwritten, hnames⟩ := stages
    dsimp only at *
    subst haliases hmethods htags hhandwritten hnames
    use declared, hdeclared, marshalling
    rw [hanalyzed]
    use rfl, defaultScope, hdefault, scopes, hscopes, commands, hcommands, stale, hstale

/-- A model whose tables have not been checked for stale entries, with a default scope that
is made of the analyzed registry and the aliases in the given way. -/
def draft (scopeOf : Registry → CommandAliases → Except Error DefaultScope) (o : Options)
    (d : Document) : Except Error Model := do
  let naming := namingFor o d
  let declared ← Registry.ofDocument o naming d
  let (report, analyzed) := declared.analyze
  let marshalling ← report
  let aliases := CommandAliases.ofDocument d
  let defaultScope ← scopeOf analyzed aliases
  let scopes ← TargetScope.ofTargets o d analyzed aliases
  let commands ← Classification.ofDocument ⟨o, naming, analyzed, aliases⟩ d
  let registry := bindMethods analyzed commands
  return {
    registry
    vendorTags := naming.vendorTags
    defaultScope
    scopes
    commands
    handwrittenCommands := d.commandNames.filter o.handwrittenCommands.contains
    aliases
    names := .ofRegistry registry
    marshalling }

/-- The tables are checked last, against the registry of the model. -/
theorem ofDocument_eq_draft (o : Options) (d : Document) :
  ofDocument o d = do
    let m ← draft (DefaultScope.ofDocument o d) o d
    let _ ← o.validateTables m.registry d
    return m
  := by
  simp only [ofDocument, draft, bind_assoc, pure_bind]

end Model

/-! ### Prototypes -/

/-- A command is declared by a prototype that gives it a name. -/
def Document.HasPrototype (d : Document) (name : String) : Prop :=
  ∃ e ∈ d.commands, (e.element? "proto").bind (·.childText? "name") = some name

namespace Classification

variable {s : Setting} {d : Document} {element proto : Element} {c : Classification}
  {cs : List Classification} {name : String}

/-- A command with a prototype is classified, unless it is an alias or wrapped by hand. -/
theorem ofElement_of_prototype (hproto : element.element? "proto" = some proto)
    (hname : proto.childText? "name" = some name) (halias : s.aliases.isAlias name = false)
    (hhandwritten : s.options.handwrittenCommands.contains name = false) :
  ofElement s element
    = (commandOf s element proto name (boundHandle? s.registry element).isSome).map fun command =>
        some (ofCommand s (boundHandle? s.registry element) command)
  := by
  simp only [ofElement, hproto, hname, halias, hhandwritten, Bool.or_self, Bool.false_eq_true,
    if_false]
  rfl

theorem mem_of_ofDocument (h : ofDocument s d = .ok cs) :
  c ∈ cs ↔ ∃ e ∈ d.commands, ofElement s e = .ok (some c)
  := by
  obtain ⟨all, hall, h⟩ := Outcome.bind_eq_ok_iff.mp h
  obtain rfl := Outcome.pure_eq_ok_iff.mp h
  rw [List.mem_filterMap, ← Outcome.mem_of_mapM_eq_ok hall]
  simp

/-- The classified commands of a document are those with a prototype that are no aliases and
not wrapped by hand. -/
theorem exists_mem_ofDocument_iff (h : ofDocument s d = .ok cs) :
  (∃ c ∈ cs, c.command.name = name)
    ↔ d.HasPrototype name ∧ s.aliases.isAlias name = false
      ∧ s.options.handwrittenCommands.contains name = false
  := by
  constructor
  · rintro ⟨c, hc, rfl⟩
    obtain ⟨e, he, hclassified⟩ := (mem_of_ofDocument h).mp hc
    obtain ⟨proto, name, command, hproto, hname, halias, hhandwritten, hcommand, rfl⟩ :=
      ofElement_eq_some_iff.mp hclassified
    obtain ⟨_, _, _, _, _, _, rfl⟩ := commandOf_eq_ok_iff.mp hcommand
    refine ⟨⟨e, he, ?_⟩, halias, hhandwritten⟩
    apply Option.bind_eq_some_iff.mpr ⟨proto, hproto, hname⟩
  · rintro ⟨⟨e, he, hprototype⟩, halias, hhandwritten⟩
    obtain ⟨proto, hproto, hname⟩ := Option.bind_eq_some_iff.mp hprototype
    obtain ⟨all, hall, -⟩ := Outcome.bind_eq_ok_iff.mp h
    obtain ⟨found, hfound⟩ := Outcome.exists_mapM_eq_ok_iff.mp ⟨all, hall⟩ e he
    have hclassified := hfound
    rw [ofElement_of_prototype hproto hname halias hhandwritten] at hfound
    cases hcommand : commandOf s e proto name (boundHandle? s.registry e).isSome with
    | error problem =>
        rw [hcommand] at hfound
        cases hfound
    | ok command =>
        rw [hcommand] at hfound
        obtain rfl := Except.ok.inj hfound
        use ofCommand s (boundHandle? s.registry e) command,
          (mem_of_ofDocument h).mpr ⟨e, he, hclassified⟩
        obtain ⟨_, _, _, _, _, _, rfl⟩ := commandOf_eq_ok_iff.mp hcommand
        rfl

end Classification

/-! ### Finding commands through aliases -/

namespace Model

variable {o : Options} {d : Document} {m : Model} {raw target : String}

theorem exists_command?_iff :
  (∃ c, m.command? raw = some c) ↔ ∃ c ∈ m.commands, c.command.name = m.aliases.resolveOrSelf raw
  := by
  rw [← Option.isSome_iff_exists, command?, List.find?_isSome]
  simp only [beq_iff_eq]

theorem name_of_command? {c : Classification} (h : m.command? raw = some c) :
  c.command.name = m.aliases.resolveOrSelf raw
  := by
  rw [command?] at h
  simpa using List.find?_some h

/-- A name that a chain ends at is that of no alias. -/
theorem isAlias_of_ends {a : CommandAliases} (h : Chain.Ends a.targets.get? raw target) :
  a.isAlias target = false
  := by
  apply CommandAliases.isAlias_eq_false_iff.mpr h.next_eq_none

/-- A name whose chain returns is that of an alias. -/
theorem isAlias_of_returns {a : CommandAliases} (h : Chain.Returns a.targets.get? raw) :
  a.isAlias raw = true
  := by
  apply CommandAliases.isAlias_eq_true_iff.mpr
  intro hend
  apply (Chain.ends_self hend).not_returns h

/-- An alias is sound if it leads to a declared command that is no alias, and finds the
classification of that command unless it is wrapped by hand. -/
def IsSoundAlias (o : Options) (d : Document) (m : Model) (raw : String) : Prop :=
  ∃ target, Chain.Ends m.aliases.targets.get? raw target ∧ target ∈ d.commandNames
    ∧ m.aliases.isAlias target = false
    ∧ (o.handwrittenCommands.contains target = true
      ∨ ∃ c, m.command? raw = some c ∧ c.command.name = target)

theorem name_of_ends {c : Classification} (hends : Chain.Ends m.aliases.targets.get? raw target)
    (h : m.command? raw = some c) :
  c.command.name = target
  := by
  rw [name_of_command? h, (CommandAliases.resolveOrSelf_eq_iff hends.next_eq_none).mpr hends]

section

variable {declared analyzed : Registry} (stages : Stages o d declared analyzed m)
include stages

theorem Stages.exists_classification_iff (name : String) :
  (∃ c ∈ m.commands, c.command.name = name)
    ↔ d.HasPrototype name ∧ m.aliases.isAlias name = false
      ∧ o.handwrittenCommands.contains name = false
  := by
  apply Classification.exists_mem_ofDocument_iff stages.commands

theorem Stages.exists_ends_of_requires {block : Block}
    (hblock : block ∈ d.features ∨ block ∈ d.extensions) (hraw : block.Requires "command" raw) :
  ∃ target, Chain.Ends m.aliases.targets.get? raw target
  := by
  have hcycle := DefaultScope.exists_ofDocument_eq_ok_iff.mp ⟨_, stages.defaultScope⟩ block hblock
  have hreturns : ¬Chain.Returns m.aliases.targets.get? raw :=
    fun hreturns => hcycle ⟨raw, hraw, hreturns⟩
  obtain ⟨target, htarget⟩ := CommandAliases.exists_resolve_eq_ok_iff.mpr hreturns
  use target
  apply CommandAliases.resolve_eq_ok_iff.mp htarget

theorem Stages.exists_command?_of_ends_iff (hends : Chain.Ends m.aliases.targets.get? raw target) :
  (∃ c, m.command? raw = some c)
    ↔ d.HasPrototype target ∧ o.handwrittenCommands.contains target = false
  := by
  rw [exists_command?_iff, (CommandAliases.resolveOrSelf_eq_iff hends.next_eq_none).mpr hends,
    stages.exists_classification_iff, isAlias_of_ends hends]
  simp only [true_and]

theorem Stages.command?_of_returns (hreturns : Chain.Returns m.aliases.targets.get? raw) :
  m.command? raw = none
  := by
  apply Option.eq_none_iff_forall_ne_some.mpr
  intro c hc
  have hname := name_of_command? hc
  rw [CommandAliases.resolveOrSelf_of_returns hreturns] at hname
  have halias := ((stages.exists_classification_iff raw).mp
    ⟨c, List.mem_of_find?_eq_some hc, hname⟩).2.1
  rw [isAlias_of_returns hreturns] at halias
  cases halias

/-- The command that an alias leads to is wrapped by hand, or the alias finds it, exactly if
it is wrapped by hand or has a prototype. -/
theorem Stages.finds_iff (hends : Chain.Ends m.aliases.targets.get? raw target) :
  (o.handwrittenCommands.contains target = true
      ∨ ∃ c, m.command? raw = some c ∧ c.command.name = target)
    ↔ d.HasPrototype target ∨ o.handwrittenCommands.contains target = true
  := by
  have found := stages.exists_command?_of_ends_iff hends
  cases hhandwritten : o.handwrittenCommands.contains target with
  | true => simp
  | false =>
      rw [hhandwritten] at found
      simp only [Bool.false_eq_true, false_or, or_false]
      constructor
      · rintro ⟨c, hc, -⟩
        apply (found.mp ⟨c, hc⟩).1
      · intro hprototype
        obtain ⟨c, hc⟩ := found.mpr ⟨hprototype, rfl⟩
        use c, hc, name_of_ends hends hc

theorem Stages.isSoundAlias_iff :
  IsSoundAlias o d m raw
    ↔ ∃ target, Chain.Ends m.aliases.targets.get? raw target ∧ target ∈ d.commandNames
      ∧ (d.HasPrototype target ∨ o.handwrittenCommands.contains target = true)
  := by
  apply exists_congr
  intro target
  apply and_congr_right
  intro hends
  apply and_congr_right
  intro hdeclared
  rw [isAlias_of_ends hends, stages.finds_iff hends]
  simp only [true_and]

end

/-- What the aliases of a model lead to. -/
structure FollowsAliases (o : Options) (d : Document) (m : Model) : Prop where
  /-- No alias that a feature or an extension requires, enabled or not, leads into a cycle. -/
  required : ∀ block, block ∈ d.features ∨ block ∈ d.extensions →
    ∀ raw, block.Requires "command" raw → ∃ target, Chain.Ends m.aliases.targets.get? raw target
  /-- A name finds the classification of the command that it leads to, if that has a
  prototype and is not wrapped by hand. -/
  ends : ∀ raw target, Chain.Ends m.aliases.targets.get? raw target →
    ((∃ c, m.command? raw = some c)
        ↔ d.HasPrototype target ∧ o.handwrittenCommands.contains target = false)
      ∧ ∀ c, m.command? raw = some c → c.command.name = target
  /-- A name that leads into a cycle finds none. -/
  returns : ∀ raw, Chain.Returns m.aliases.targets.get? raw → m.command? raw = none
  /-- An alias is sound exactly if it leads to a command that is declared by its name, and by
  a prototype unless it is wrapped by hand. -/
  sound_iff : ∀ raw, IsSoundAlias o d m raw
    ↔ ∃ target, Chain.Ends m.aliases.targets.get? raw target ∧ target ∈ d.commandNames
      ∧ (d.HasPrototype target ∨ o.handwrittenCommands.contains target = true)

/-- The aliases of the model of a document lead where its tables say, whether or not a
command is declared there. -/
theorem followsAliases_of_ofDocument (h : ofDocument o d = .ok m) :
  FollowsAliases o d m
  := by
  obtain ⟨declared, analyzed, stages⟩ := ofDocument_eq_ok_iff.mp h
  constructor
  · intro block hblock raw hraw
    apply stages.exists_ends_of_requires hblock hraw
  · intro raw target hends
    use stages.exists_command?_of_ends_iff hends
    intro c hc
    apply name_of_ends hends hc
  · intro raw hreturns
    apply stages.command?_of_returns hreturns
  · intro raw
    apply stages.isSoundAlias_iff

/-- A document with a command and three aliases: of that command, of one that is declared
nowhere, and of itself. -/
def looseDocument : Document where
  root :=
    let aliasOf (target name : String) : Element :=
      ((Element.named "command").withAttribute "name" name).withAttribute "alias" target
    let proto := ((Element.named "proto").withTextChild "type" "void")
      |>.withTextChild "name" "vkReset"
    let commands := [(Element.named "command").withChild proto, aliasOf "vkReset" "vkResetKHR",
      aliasOf "vkWait" "vkWaitKHR", aliasOf "vkSetKHR" "vkSetKHR"]
    (Element.named "registry").withChild
      (commands.foldl Element.withChild (Element.named "commands"))
  name_root := rfl

/-- That document has a model, in which only the first alias is sound. -/
theorem followsAliases_of_ofDocument_loose :
  ∃ m, ofDocument Options.standard.withoutTargets looseDocument = .ok m
    ∧ FollowsAliases Options.standard.withoutTargets looseDocument m
    ∧ IsSoundAlias Options.standard.withoutTargets looseDocument m "vkResetKHR"
    ∧ ¬IsSoundAlias Options.standard.withoutTargets looseDocument m "vkWaitKHR"
    ∧ ¬IsSoundAlias Options.standard.withoutTargets looseDocument m "vkSetKHR"
  := by
  have evaluated :
      (ofDocument Options.standard.withoutTargets looseDocument).toOption.isSome = true := by
    decide +kernel
  obtain ⟨m, hm⟩ := Outcome.isSome_toOption_iff.mp evaluated
  have follows := followsAliases_of_ofDocument hm
  obtain ⟨_, _, stages⟩ := ofDocument_eq_ok_iff.mp hm
  -- the ends of the chains, where there are any
  have ends (raw target : String) : Chain.Ends m.aliases.targets.get? raw target
      ↔ ((CommandAliases.ofDocument looseDocument).resolve raw).toOption = some target := by
    rw [stages.aliases, Outcome.toOption_eq_some_iff, CommandAliases.resolve_eq_ok_iff]
  refine ⟨m, hm, follows, ?_, ?_, ?_⟩
  · apply (follows.sound_iff "vkResetKHR").mpr
    refine ⟨"vkReset", (ends _ _).mpr ?_, ?_, .inl ?_⟩
    · decide +kernel
    · decide +kernel
    · rw [Document.HasPrototype]
      decide +kernel
  · rw [follows.sound_iff]
    rintro ⟨target, hends, hdeclared, -⟩
    have hwait : ((CommandAliases.ofDocument looseDocument).resolve "vkWaitKHR").toOption
        = some "vkWait" := by
      decide +kernel
    obtain rfl := Option.some.inj (hwait.symm.trans ((ends _ _).mp hends))
    revert hdeclared
    decide +kernel
  · rw [follows.sound_iff]
    rintro ⟨target, hends, -⟩
    have hset : ((CommandAliases.ofDocument looseDocument).resolve "vkSetKHR").toOption = none := by
      decide +kernel
    rw [ends, hset] at hends
    cases hends

end Model

end NativeApi
