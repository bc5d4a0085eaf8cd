import NativeApi.Proofs.Lookups
import NativeApi.Proofs.ModelCommands

/-!
# Strict tables

Seven tables of the options name types, members, commands and extensions, which a document
may lack.  Main statement: whether tables are strict changes nothing up to the end of an
analysis; the model is then the same, but where an entry matches nothing, strict tables stop
at the first such entry, and the others count all of them.
-/

namespace NativeApi

/-! ### Names in registries -/

namespace Registry

variable {r : Registry} {name : String}

theorem isSome_lookup?_iff_exists_name :
  (r.lookup? name).isSome = true ↔ ∃ e ∈ r.entities, e.name = name
  := by
  rw [Registry.lookup?_eq_find?, List.find?_isSome]
  simp only [beq_iff_eq]

theorem mem_names_enumerations_iff :
  (r.enumerations.map (·.1.name)).contains name = true
    ↔ ∃ e ∈ r.entities, e.enumeration?.isSome ∧ e.name = name
  := by
  rw [List.contains_iff_mem, List.mem_map]
  constructor
  · rintro ⟨⟨e, listed⟩, hmem, rfl⟩
    obtain ⟨he, hfound⟩ := mem_filterMap_pair_iff.mp hmem
    exact ⟨e, he, Option.isSome_of_eq_some hfound, rfl⟩
  · rintro ⟨e, he, hsome, rfl⟩
    obtain ⟨found, hfound⟩ := Option.isSome_iff_exists.mp hsome
    exact ⟨(e, found), mem_filterMap_pair_iff.mpr ⟨he, hfound⟩, rfl⟩

theorem mem_names_members_iff :
  (r.composites.flatMap fun entry => entry.2.members.map (·.name)).contains name = true
    ↔ ∃ entry ∈ r.composites, ∃ m ∈ entry.2.members, m.name = name
  := by
  simp only [List.contains_iff_mem, List.mem_flatMap, List.mem_map]

end Registry

namespace Options

variable {o : Options} {r : Registry} {d : Document} {table entry : String}

/-- The options with tables that are strict, or not. -/
def withStrictTables (o : Options) (strict : Bool) : Options := { o with strictTables := strict }

/-! ### What entries match -/

/-- A table of the options, and what each of its entries is to match. -/
structure CheckedTable where
  name : String
  entries : List String
  Matches : String → Prop
  [decidableMatches : DecidablePred Matches]

attribute [instance] CheckedTable.decidableMatches

/-- A command is public under a name which has lost the beginning of command names, if the
raw name has it. -/
def IsPublicCommand (o : Options) (d : Document) (name : String) : Prop :=
  o.commandPrefix ++ name ∈ d.commandNames
    ∨ name ∈ d.commandNames ∧ ¬o.commandPrefix.toList <+: name.toList

instance : DecidablePred (IsPublicCommand o d) :=
  fun _ => inferInstanceAs (Decidable (_ ∨ _ ∧ ¬_))

/-- The tables whose entries are to match what is registered or declared. -/
def checkedTables (o : Options) (r : Registry) (d : Document) : List CheckedTable := [
  ⟨"denied_types", o.deniedTypes, fun name => ∃ e ∈ r.entities, e.name = name⟩,
  ⟨"member_rewrites", o.memberRewrites.keys,
    fun name => ∃ e ∈ r.entities, e.enumeration?.isSome ∧ e.name = name⟩,
  ⟨"field_counters", o.fieldCounters.keys,
    fun name => ∃ entry ∈ r.composites, ∃ m ∈ entry.2.members, m.name = name⟩,
  ⟨"disabled_commands", o.disabledCommands, (· ∈ d.commandNames)⟩,
  ⟨"handwritten_commands", o.handwrittenCommands, (· ∈ d.commandNames)⟩,
  ⟨"ignored_simplified_commands", o.ignoredSimplifiedCommands, o.IsPublicCommand d⟩,
  ⟨"disabled_extensions", o.disabledExtensions, fun name => ∃ b ∈ d.extensions, b.name = name⟩]

/-- The number of entries, each as often as it stands in its table, that match nothing. -/
def staleCount (o : Options) (r : Registry) (d : Document) : Nat :=
  ((o.checkedTables r d).flatMap fun t => t.entries.filter (¬t.Matches ·)).length

/-- An entry is the first stale one if it matches nothing, and all entries before it in its
table and in the tables before that match. -/
def IsFirstStale (o : Options) (r : Registry) (d : Document) (table entry : String) : Prop :=
  ∃ before t after front back, o.checkedTables r d = before ++ t :: after ∧ t.name = table
    ∧ t.entries = front ++ entry :: back ∧ ¬t.Matches entry
    ∧ (∀ name ∈ front, t.Matches name) ∧ ∀ t' ∈ before, ∀ name ∈ t'.entries, t'.Matches name

/-! ### Stale entries -/

/-- The entries of a table that match nothing, with the name of the table. -/
def CheckedTable.stale (t : CheckedTable) : List (String × String) :=
  (t.entries.filter (¬t.Matches ·)).map (t.name, ·)

theorem unmatched_eq_stale {entries : List String} {isKnown : String → Bool}
    {Matches : String → Prop} [DecidablePred Matches]
    (h : ∀ name, isKnown name = true ↔ Matches name) :
  unmatched table isKnown entries = CheckedTable.stale ⟨table, entries, Matches⟩
  := by
  rw [unmatched, CheckedTable.stale]
  congr 1
  apply List.filter_congr
  intro name _
  rw [decide_not, Bool.not_inj_iff, ← Bool.coe_iff_coe, h, decide_eq_true_eq]

/-- A command has a public name if it adds the beginning of command names to it, or if it is
that name and has no such beginning. -/
theorem publicCommand_eq_iff {raw name : String} :
  o.publicCommand raw = name
    ↔ raw = o.commandPrefix ++ name ∨ raw = name ∧ ¬o.commandPrefix.toList <+: name.toList
  := by
  have begins (rest : List Char) : Text.stripPrefix? o.commandPrefix.toList raw.toList = some rest
      ↔ raw = o.commandPrefix ++ .ofList rest := by
    rw [Text.stripPrefix?_eq_some_iff, ← String.toList_inj, String.toList_append,
      String.toList_ofList]
  rw [publicCommand, Text.after?]
  cases h : Text.stripPrefix? o.commandPrefix.toList raw.toList with
  | some rest =>
      obtain rfl := (begins rest).mp h
      simp only [Option.map_some, Option.getD_some]
      constructor
      · rintro rfl
        exact .inl rfl
      · rintro (hraw | ⟨rfl, hnot⟩)
        · rw [← String.toList_inj, String.toList_append, String.toList_append] at hraw
          apply String.toList_inj.mp (List.append_cancel_left hraw)
        · rw [String.toList_append] at hnot
          exact absurd (List.prefix_append _ _) hnot
  | none =>
      rw [h] at begins
      have hnot (name : String) : raw ≠ o.commandPrefix ++ name := by
        intro hraw
        have hsome := (begins name.toList).mpr (by rw [hraw, String.ofList_toList])
        cases hsome
      simp only [Option.map_none, Option.getD_none, hnot name, false_or, iff_self_and]
      rintro rfl ⟨rest, hrest⟩
      apply hnot (.ofList rest)
      rw [← String.toList_inj, String.toList_append, String.toList_ofList, hrest]

theorem isPublicCommand_iff {name : String} :
  (d.commandNames.map o.publicCommand).contains name = true ↔ o.IsPublicCommand d name
  := by
  simp only [List.contains_iff_mem, List.mem_map, publicCommand_eq_iff, IsPublicCommand]
  constructor
  · rintro ⟨raw, hraw, rfl | ⟨rfl, hnot⟩⟩
    · exact .inl hraw
    · exact .inr ⟨hraw, hnot⟩
  · rintro (hname | ⟨hname, hnot⟩)
    · exact ⟨_, hname, .inl rfl⟩
    · exact ⟨name, hname, .inr ⟨rfl, hnot⟩⟩

/-- The stale entries are those of the checked tables, table by table. -/
theorem staleEntries_eq (o : Options) (r : Registry) (d : Document) :
  o.staleEntries r d = (o.checkedTables r d).flatMap CheckedTable.stale
  := by
  simp only [staleEntries, checkedTables, List.flatMap_cons, List.flatMap_nil, List.append_nil,
    ← List.append_assoc]
  congr 6
  · apply unmatched_eq_stale fun _ => Registry.isSome_lookup?_iff_exists_name
  · apply unmatched_eq_stale fun _ => Registry.mem_names_enumerations_iff
  · apply unmatched_eq_stale fun _ => Registry.mem_names_members_iff
  · apply unmatched_eq_stale fun _ => List.contains_iff_mem
  · apply unmatched_eq_stale fun _ => List.contains_iff_mem
  · apply unmatched_eq_stale fun _ => isPublicCommand_iff
  · apply unmatched_eq_stale
    intro name
    rw [Option.isSome_iff_exists, Document.exists_extension?_iff]

theorem length_staleEntries (o : Options) (r : Registry) (d : Document) :
  (o.staleEntries r d).length = o.staleCount r d
  := by
  rw [staleEntries_eq, staleCount, List.length_flatMap, List.length_flatMap]
  simp only [CheckedTable.stale, List.length_map]

/-- What stands first in a list that is put together from parts, in the first part that is not
empty. -/
theorem flatMap_eq_cons {α β : Type} {f : α → List β} {as : List α} {b : β} {bs : List β}
    (h : as.flatMap f = b :: bs) :
  ∃ before a after rest, as = before ++ a :: after ∧ (∀ a' ∈ before, f a' = []) ∧ f a = b :: rest
  := by
  induction as with
  | nil => cases h
  | cons a as ih =>
      rw [List.flatMap_cons] at h
      cases ha : f a with
      | nil =>
          rw [ha, List.nil_append] at h
          obtain ⟨before, found, after, rest, rfl, hbefore, hfound⟩ := ih h
          refine ⟨a :: before, found, after, rest, rfl, ?_, hfound⟩
          rw [List.forall_mem_cons]
          use ha
      | cons first rest =>
          rw [ha, List.cons_append] at h
          obtain ⟨rfl, -⟩ := List.cons.inj h
          use [], a, as, rest, rfl
          simpa using ha

theorem CheckedTable.stale_eq_nil_iff {t : CheckedTable} :
  t.stale = [] ↔ ∀ name ∈ t.entries, t.Matches name
  := by
  simp [CheckedTable.stale]

theorem isFirstStale_of_staleEntries {rest : List (String × String)}
    (h : o.staleEntries r d = (table, entry) :: rest) :
  o.IsFirstStale r d table entry
  := by
  rw [staleEntries_eq] at h
  obtain ⟨before, t, after, others, htables, hbefore, hstale⟩ := flatMap_eq_cons h
  obtain ⟨name, names, hnames, hname, -⟩ := List.map_eq_cons_iff.mp hstale
  obtain ⟨rfl, rfl⟩ := Prod.mk.inj hname
  obtain ⟨front, back, hentries, hfront, hentry, -⟩ := List.filter_eq_cons_iff.mp hnames
  refine ⟨before, t, after, front, back, htables, rfl, hentries, ?_, ?_, ?_⟩
  · simpa using hentry
  · intro name hname
    simpa using hfront name hname
  · intro t' ht'
    apply CheckedTable.stale_eq_nil_iff.mp (hbefore t' ht')

/-! ### Checking tables -/

theorem validateTables_eq (o : Options) (r : Registry) (d : Document) :
  o.validateTables r d = do
    (o.staleEntries r d).forM fun stale => o.reportStale stale.1 stale.2
    return (o.staleEntries r d).length
  := rfl

theorem staleEntries_withStrictTables (o : Options) (strict : Bool) :
  (o.withStrictTables strict).staleEntries = o.staleEntries
  := rfl

/-- Tables that are not strict are checked by counting. -/
theorem validateTables_lenient (o : Options) (r : Registry) (d : Document) :
  (o.withStrictTables false).validateTables r d = .ok (o.staleCount r d)
  := by
  have accepted : (o.staleEntries r d).forM
      (fun stale => (o.withStrictTables false).reportStale stale.1 stale.2) = .ok () := by
    apply Outcome.forM_eq_ok_iff.mpr
    intro stale _
    rfl
  rw [validateTables_eq, staleEntries_withStrictTables, accepted, length_staleEntries]
  rfl

/-- Strict tables are accepted if nothing is stale. -/
theorem validateTables_strict_of_nil (h : o.staleEntries r d = []) :
  (o.withStrictTables true).validateTables r d = .ok 0
  := by
  rw [validateTables_eq, staleEntries_withStrictTables, h]
  rfl

/-- Strict tables are rejected for the entry that is stale first. -/
theorem validateTables_strict_of_cons {rest : List (String × String)}
    (h : o.staleEntries r d = (table, entry) :: rest) :
  (o.withStrictTables true).validateTables r d = .error (.staleTable table entry)
  := by
  rw [validateTables_eq, staleEntries_withStrictTables, h]
  rfl

end Options

/-! ### What strictness leaves as it is -/

section

variable (o : Options) (strict : Bool)

theorem Registry.ofDocument_withStrictTables :
  ofDocument (o.withStrictTables strict) = ofDocument o
  := by
  have builtins : registerBuiltins (o.withStrictTables strict) = registerBuiltins o := rfl
  have structs : registerForeignStructs (o.withStrictTables strict) = registerForeignStructs o :=
    rfl
  have included : registerIncluded (o.withStrictTables strict) = registerIncluded o := rfl
  have basetypes : registerBasetype (o.withStrictTables strict) = registerBasetype o := rfl
  have enumerations : registerEnumerations (o.withStrictTables strict) = registerEnumerations o :=
    rfl
  have composites : registerComposites (o.withStrictTables strict) = registerComposites o := rfl
  funext n d
  simp only [ofDocument, builtins, structs, included, basetypes, enumerations, composites]

theorem ReturnStrategy.countedPair?_withStrictTables (ps : List Parameter) :
  countedPair? (o.withStrictTables strict) ps = countedPair? o ps
  := by
  induction ps with
  | nil => rfl
  | cons count rest ih =>
      cases rest with
      | nil => rfl
      | cons output rest =>
          rw [countedPair?, ih, countedPair?]
          rfl

theorem ReturnStrategy.ofCommand_withStrictTables :
  ofCommand (o.withStrictTables strict) = ofCommand o
  := by
  have neighbours : ofNeighbours (o.withStrictTables strict) = ofNeighbours o := by
    funext c
    rw [ofNeighbours, countedPair?_withStrictTables, ofNeighbours]
  funext c
  rw [ofCommand, ofOutputs, neighbours, ofCommand, ofOutputs]

theorem Classification.ofDocument_withStrictTables (n : Naming) (r : Registry)
    (a : CommandAliases) :
  ofDocument ⟨o.withStrictTables strict, n, r, a⟩ = ofDocument ⟨o, n, r, a⟩
  := by
  have commands : commandOf ⟨o.withStrictTables strict, n, r, a⟩ = commandOf ⟨o, n, r, a⟩ := rfl
  have classified : ofCommand ⟨o.withStrictTables strict, n, r, a⟩ = ofCommand ⟨o, n, r, a⟩ := by
    funext boundHandle c
    simp only [ofCommand, ReturnStrategy.ofCommand_withStrictTables]
    rfl
  have elements : ofElement ⟨o.withStrictTables strict, n, r, a⟩ = ofElement ⟨o, n, r, a⟩ := by
    funext e
    simp only [ofElement, commands, classified]
    rfl
  funext d
  rw [ofDocument, elements, ofDocument]

/-- Before its tables are checked, a model does not depend on whether they are strict. -/
theorem Model.draft_withStrictTables (d : Document) :
  draft (DefaultScope.ofDocument (o.withStrictTables strict) d) (o.withStrictTables strict) d
    = draft (DefaultScope.ofDocument o d) o d
  := by
  have naming : namingFor (o.withStrictTables strict) d = namingFor o d := rfl
  have defaults : DefaultScope.ofDocument (o.withStrictTables strict) = DefaultScope.ofDocument o :=
    rfl
  have targets : TargetScope.ofTargets (o.withStrictTables strict) = TargetScope.ofTargets o := rfl
  simp only [draft, naming, defaults, targets, Registry.ofDocument_withStrictTables,
    Classification.ofDocument_withStrictTables]
  rfl

end

/-! ### Strict tables and models -/

namespace Model

variable {o : Options} {d : Document} {m : Model}

/-- Without strict tables, a model is a draft of it. -/
theorem ofDocument_lenient (o : Options) (d : Document) :
  ofDocument (o.withStrictTables false) d = draft (DefaultScope.ofDocument o d) o d
  := by
  rw [ofDocument_eq_draft, draft_withStrictTables]
  cases draft (DefaultScope.ofDocument o d) o d with
  | error e => rfl
  | ok m =>
      simp only [bind, Except.bind, Options.validateTables_lenient]
      rfl

/-- With strict tables, a model is one without them that passes their check. -/
theorem ofDocument_strict (o : Options) (d : Document) :
  ofDocument (o.withStrictTables true) d = do
    let m ← ofDocument (o.withStrictTables false) d
    let _ ← (o.withStrictTables true).validateTables m.registry d
    return m
  := by
  rw [ofDocument_lenient, ofDocument_eq_draft, draft_withStrictTables]

/-- Strict tables only turn stale entries into an error.  Lenient ones are counted; what fails
with them fails with strict ones alike, and a model with them is one with strict ones if no
entry is stale in it, while else the first stale entry is the error. -/
theorem ofDocument_strictTables (o : Options) (d : Document) :
  (∀ r, (o.withStrictTables false).validateTables r d = .ok (o.staleCount r d))
    ∧ (∀ e, ofDocument (o.withStrictTables false) d = .error e →
      ofDocument (o.withStrictTables true) d = .error e)
    ∧ ∀ m, ofDocument (o.withStrictTables false) d = .ok m →
      (o.staleCount m.registry d = 0 → ofDocument (o.withStrictTables true) d = .ok m)
      ∧ (o.staleCount m.registry d ≠ 0 → ∃ table entry, o.IsFirstStale m.registry d table entry
        ∧ ofDocument (o.withStrictTables true) d = .error (.staleTable table entry))
  := by
  refine ⟨fun r => Options.validateTables_lenient o r d, ?_, ?_⟩
  · intro e h
    rw [ofDocument_strict, h]
    rfl
  · intro m h
    rw [ofDocument_strict, h, ← Options.length_staleEntries]
    cases hstale : o.staleEntries m.registry d with
    | nil =>
        constructor
        · intro _
          simp only [bind, Except.bind, Options.validateTables_strict_of_nil hstale]
          rfl
        · intro hcount
          cases hcount rfl
    | cons stale rest =>
        constructor
        · intro hcount
          cases hcount
        · intro _
          use stale.1, stale.2, Options.isFirstStale_of_staleEntries hstale
          simp only [bind, Except.bind, Options.validateTables_strict_of_cons hstale]

/-- Tables with five entries, of which two are stale: a command that is disabled twice. -/
def wornOptions : Options :=
  { Options.standard.withoutTargets with
    memberRewrites := .empty
    fieldCounters := .empty
    deniedTypes := ["void"]
    disabledCommands := ["vkReset", "vkWait", "vkWait"]
    handwrittenCommands := []
    ignoredSimplifiedCommands := ["Reset"]
    disabledExtensions := [] }

/-- A document with a command and aliases has a model with these tables, unless they are
strict. -/
theorem ofDocument_strictTables_worn :
  ∃ m, ofDocument (wornOptions.withStrictTables false) looseDocument = .ok m
    ∧ (wornOptions.withStrictTables false).validateTables m.registry looseDocument = .ok 2
    ∧ wornOptions.staleCount m.registry looseDocument = 2
    ∧ ∃ table entry, wornOptions.IsFirstStale m.registry looseDocument table entry
      ∧ ofDocument (wornOptions.withStrictTables true) looseDocument
        = .error (.staleTable table entry)
  := by
  have evaluated :
      (ofDocument (wornOptions.withStrictTables false) looseDocument).toOption.any (fun m =>
        wornOptions.staleCount m.registry looseDocument == 2) = true := by
    decide +kernel
  obtain ⟨m, hm, hcount⟩ := (Option.any_eq_true _ _).mp evaluated
  have lenient := Outcome.toOption_eq_some_iff.mp hm
  have hcount := eq_of_beq hcount
  obtain ⟨counted, -, models⟩ := ofDocument_strictTables wornOptions looseDocument
  refine ⟨m, lenient, ?_, hcount, (models m lenient).2 ?_⟩
  · rw [counted, hcount]
  · rw [hcount]
    decide

end Model

end NativeApi
