import Mathlib.Data.List.Nodup
import NativeApi.Proofs.Slots

/-!
# Return strategies of accepted commands

A return strategy names an output, and mostly the parameter that its length comes from.
Main statement: for an accepted command whose parameters have distinct names, both are
parameters that the signatures treat as the strategy needs it, and what the wrapper returns
is of the type of the output.
-/

namespace NativeApi

/-! ### How a strategy is chosen -/

namespace ReturnStrategy

theorem countedPair?_eq_some {o : Options} {ps : List Parameter} {count output : Parameter}
    (h : countedPair? o ps = some (count, output)) :
  [count, output] <:+: ps ∧ output.role.isOutput = true
  := by
  fun_induction countedPair? o ps with
  | case1 first second rest found =>
      obtain ⟨rfl, rfl⟩ := Prod.mk.inj (Option.some.inj h)
      rw [Bool.and_eq_true] at found
      exact ⟨⟨[], rest, rfl⟩, found.2⟩
  | case2 first second rest _ ih =>
      obtain ⟨adjacent, houtput⟩ := ih h
      exact ⟨adjacent.trans (List.infix_cons List.infix_rfl), houtput⟩
  | case3 => cases h

theorem countedPair?_eq_none {o : Options} {ps : List Parameter} (h : countedPair? o ps = none)
    {count output : Parameter} (adjacent : [count, output] <:+: ps)
    (candidate : count.isCountCandidate o = true) :
  output.role.isOutput = false
  := by
  fun_induction countedPair? o ps with
  | case1 => cases h
  | case2 first second rest rejected ih =>
      rcases List.infix_cons_iff.mp adjacent with here | later
      · obtain ⟨rfl, htail⟩ := List.cons_prefix_cons.mp here
        obtain ⟨rfl, _⟩ := List.cons_prefix_cons.mp htail
        rw [candidate, Bool.true_and] at rejected
        apply Bool.eq_false_iff.mpr rejected
      · apply ih h later
  | case3 ps short =>
      have hlength := adjacent.length_le
      cases ps with
      | nil => cases hlength
      | cons first rest =>
          cases rest with
          | nil => cases Nat.le_of_succ_le_succ hlength
          | cons second rest => exact (short first second rest rfl).elim

/-- Several outputs get the strategy for two neighbours, or none. -/
theorem ofNeighbours_cases (o : Options) (c : Command) :
  ((ofNeighbours o c).1 = .passthrough ∧ countedPair? o c.parameters = none)
    ∨ ∃ count output, [count, output] <:+: c.parameters ∧ output.role.isOutput = true
        ∧ (ofNeighbours o c).1 = ofPair count output
  := by
  unfold ofNeighbours
  split
  · rename_i count output hpair
    obtain ⟨adjacent, houtput⟩ := countedPair?_eq_some hpair
    exact .inr ⟨count, output, adjacent, houtput, rfl⟩
  · rename_i hnone
    exact .inl ⟨rfl, hnone⟩

/-- A strategy is chosen for the only output, or for two neighbours, or there is none. -/
theorem ofCommand_cases (o : Options) (c : Command) :
  ((ofCommand o c).1 = .passthrough
      ∧ (c.synthesizesReturn = true → c.outputs = []
        ∨ countedPair? o c.parameters = none
          ∧ ∀ only, c.outputs = [only] → ofOnlyOutput? c only = none))
    ∨ (∃ only, c.outputs = [only] ∧ ofOnlyOutput? c only = some (ofCommand o c).1)
    ∨ ∃ count output, [count, output] <:+: c.parameters ∧ output.role.isOutput = true
        ∧ (ofCommand o c).1 = ofPair count output
  := by
  unfold ofCommand ofOutputs
  split
  · split
    · rename_i houtputs
      exact .inl ⟨rfl, fun _ => .inl houtputs⟩
    · rename_i only houtputs
      split
      · rename_i strategy hstrategy
        exact .inr (.inl ⟨only, houtputs, hstrategy⟩)
      · rename_i hnone
        rcases ofNeighbours_cases o c with ⟨hpassthrough, hpair⟩ | hpair
        · refine .inl ⟨hpassthrough, fun _ => .inr ⟨hpair, ?_⟩⟩
          intro other hother
          obtain rfl := List.singleton_inj.mp (houtputs.symm.trans hother)
          exact hnone
        · exact .inr (.inr hpair)
    · rename_i hmany
      rcases ofNeighbours_cases o c with ⟨hpassthrough, hpair⟩ | hpair
      · refine .inl ⟨hpassthrough, fun _ => .inr ⟨hpair, ?_⟩⟩
        intro only honly
        exact (hmany only honly).elim
      · exact .inr (.inr hpair)
  · rename_i hnot
    exact .inl ⟨rfl, fun h => absurd h hnot⟩

end ReturnStrategy

/-! ### Parameters by name -/

section

variable {c : Command} {p : Parameter}

theorem Command.mem_of_parameter? {name : String} (h : c.parameter? name = some p) :
  p ∈ c.parameters ∧ p.rawName = name
  := by
  unfold parameter? at h
  use List.mem_of_find?_eq_some h
  have hname := List.find?_some h
  apply eq_of_beq hname

/-- The raw name of a parameter finds one of that name. -/
theorem Command.exists_parameter?_rawName (h : p ∈ c.parameters) :
  ∃ q, c.parameter? p.rawName = some q
  := by
  apply Option.isSome_iff_exists.mp
  apply List.find?_isSome.mpr
  use p, h
  apply beq_self_eq_true

/-- Where raw names are distinct, each parameter is the one of its name. -/
theorem Command.parameter?_rawName (distinct : (c.parameters.map (·.rawName)).Nodup)
    (h : p ∈ c.parameters) :
  c.parameter? p.rawName = some p
  := by
  obtain ⟨q, hq⟩ := exists_parameter?_rawName h
  obtain ⟨hmem, hname⟩ := mem_of_parameter? hq
  rw [hq, List.inj_on_of_nodup_map distinct hmem h hname]

/-- The type of what comes out of an output: a buffer gives bytes. -/
def Parameter.resultType (p : Parameter) : String :=
  match p.role with
  | .rawBuffer _ => "u8"
  | _ => p.declaredType

theorem PublicReturn.elementType_rawName (distinct : (c.parameters.map (·.rawName)).Nodup)
    (h : p ∈ c.parameters) :
  elementType c p.rawName = p.resultType
  := by
  rw [elementType, Command.parameter?_rawName distinct h]
  rfl

end

namespace Classification

open CallShape Parameter

variable {s : Setting} {element : Element} {c : Classification}

/-! ### What a strategy needs -/

/-- A parameter that every signature leaves to a slot. -/
def HasSlots (c : Classification) (p : Parameter) : Prop :=
  ∀ shape ∈ c.shapes, ∀ i : Nat, c.command.parameters[i]? = some p → shape.plan[i]? = some .slot

/-- A parameter that the raw signature asks for. -/
def IsPublic (c : Classification) (p : Parameter) : Prop :=
  ∃ shape, c.shape? .raw = some shape ∧ publicParameter p ∈ shape.parameters

/-- What a classified command has to offer for its strategy: `output` is a result, the
only one where it is returned by itself, and what is returned is of its type; `counter` is
what gives the length of it, from the caller or out of a slot.  Where outputs could be
returned, there is no strategy only if there are none, or several without a counter before
one. -/
inductive StrategyFits (o : Options) (c : Classification) : ReturnStrategy → Prop where
  | passthrough
      (noneFits : c.command.synthesizesReturn = true → c.command.outputs = []
        ∨ 2 ≤ c.command.outputs.length
          ∧ ∀ count output, [count, output] <:+: c.command.parameters →
            count.isCountCandidate o = true → output.role.isOutput = false) :
    StrategyFits o c .passthrough
  | singleValue (output : Parameter) (only : c.command.outputs = [output])
      (role : output.role = .output) (returns : c.returns = .value output.declaredType) :
    StrategyFits o c (.singleValue output.rawName)
  | fillKnownLength (output counter : Parameter) (length : LengthReference)
      (isOutput : output ∈ c.command.parameters ∧ output.role.isOutput = true)
      (declared : counter ∈ c.command.parameters ∧ counter.rawName = length.parameterName)
      (given : length.isDirect = true → counter.isWritten = false ∧ c.IsPublic counter)
      (returns : c.returns = .array output.resultType) :
    StrategyFits o c (.fillKnownLength output.rawName length)
  | queryThenFill (output counter : Parameter)
      (isOutput : output ∈ c.command.parameters ∧ output.role.isOutput = true)
      (written : counter ∈ c.command.parameters ∧ counter.isWritten = true)
      (other : counter.rawName ≠ output.rawName)
      (slots : c.HasSlots output ∧ c.HasSlots counter)
      (returns : c.returns = .array output.resultType) :
    StrategyFits o c (.queryThenFill counter.rawName output.rawName)

/-! ### Slots and arguments -/

/-- What is written gets a slot in every signature. -/
theorem hasSlots_of_isWritten (h : ofElement s element = .ok (some c)) {p : Parameter}
    (hwritten : p.isWritten = true) :
  c.HasSlots p
  := by
  intro shape hshape i hi
  apply (getElem?_plan_eq_slot_iff h hshape hi).mpr (.inl hwritten)

theorem hasSlots_of_isOutput (h : ofElement s element = .ok (some c)) {p : Parameter}
    (hp : p ∈ c.command.parameters ∧ p.role.isOutput = true) :
  c.HasSlots p
  := by
  apply hasSlots_of_isWritten h
  apply ((rolesFit_of_ofElement h).fits p hp.1).output hp.2

/-- What is not written is asked for by the raw signature. -/
theorem isPublic_of_not_isWritten (h : ofElement s element = .ok (some c)) {p : Parameter}
    (hp : p ∈ c.command.parameters) (hread : p.isWritten = false) :
  c.IsPublic p
  := by
  have hvisible : isHidden .raw p = false := by
    apply Bool.eq_false_iff.mpr
    rw [ne_eq, isHidden_raw_iff ((rolesFit_of_ofElement h).fits p hp), hread]
    apply Bool.false_ne_true
  obtain ⟨_, _, command, _, _, _, _, _, rfl⟩ := ofElement_eq_some_iff.mp h
  refine ⟨_, rfl, ?_⟩
  rw [parameters_ofParameters]
  apply List.mem_map_of_mem
  apply List.mem_filter.mpr
  use hp
  rw [hvisible]
  rfl

/-! ### Lengths of outputs -/

/-- The parameter that a declared length begins with is there. -/
theorem exists_counter (h : ofElement s element = .ok (some c)) {p : Parameter}
    (hp : p ∈ c.command.parameters) {length : LengthReference}
    (hlength : p.role.length? = some length) :
  ∃ counter, c.command.parameter? length.parameterName = some counter
  := by
  have fits := rolesFit_of_ofElement h
  have hdeclared := (fits.fits p hp).length length hlength
  obtain ⟨counter, hcounter, hname⟩ := List.mem_map.mp (fits.lengths p hp length hdeclared)
  rw [← hname]
  apply Command.exists_parameter?_rawName hcounter

/-- The length of an array, where it is a parameter by itself, is not the array. -/
theorem rawName_ne_of_directLength (h : ofElement s element = .ok (some c))
    (distinct : (c.command.parameters.map (·.rawName)).Nodup) {p counter : Parameter}
    (hp : p ∈ c.command.parameters) {name : String}
    (hlength : p.role.length? = some (.parameter name))
    (hcounter : c.command.parameter? name = some counter) :
  counter.rawName ≠ p.rawName
  := by
  intro hname
  have hmem := (Command.mem_of_parameter? hcounter).1
  obtain rfl := List.inj_on_of_nodup_map distinct hmem hp hname
  have hdirect : counter.role.directLength? = some name := by rw [Role.directLength?, hlength]
  rcases (rolesFit_of_ofElement h).counts counter hp name hdirect counter hcounter with hcount | hself
  · exact Role.not_isCount_of_length hlength hcount
  · rw [hself] at hlength
    cases hlength

/-! ### Commands with one output -/

theorem isOutput_of_only {only : Parameter} (houtputs : c.command.outputs = [only]) :
  only ∈ c.command.parameters ∧ only.role.isOutput = true
  := by
  apply List.mem_filter.mp
  rw [← Command.outputs, houtputs]
  apply List.mem_singleton_self

/-- An only output has a strategy of its own. -/
theorem ofOnlyOutput?_ne_none (h : ofElement s element = .ok (some c)) {only : Parameter}
    (isOutput : only ∈ c.command.parameters ∧ only.role.isOutput = true) :
  ReturnStrategy.ofOnlyOutput? c.command only ≠ none
  := by
  unfold ReturnStrategy.ofOnlyOutput?
  cases hrole : only.role with
  | output => simp
  | outputArray length | rawBuffer length =>
      obtain ⟨counter, hcounter⟩ := exists_counter h isOutput.1 (by rw [hrole]; rfl)
      simp [hcounter]
  | boundSelf | input | optionalInput | text | inputArray | count =>
      have houtput := isOutput.2
      rw [hrole] at houtput
      cases houtput

theorem outputs_of_ofOnlyOutput?_eq_none (h : ofElement s element = .ok (some c))
    (honly : ∀ only, c.command.outputs = [only] →
      ReturnStrategy.ofOnlyOutput? c.command only = none) :
  c.command.outputs = [] ∨ 2 ≤ c.command.outputs.length
  := by
  cases houtputs : c.command.outputs with
  | nil => exact .inl rfl
  | cons only rest =>
      cases rest with
      | nil => exact absurd (honly only houtputs) (ofOnlyOutput?_ne_none h (isOutput_of_only houtputs))
      | cons _ _ => exact .inr (Nat.le_add_left 2 _)

/-! ### Strategies that fit -/

theorem strategy_eq (h : ofElement s element = .ok (some c)) :
  c.strategy = (ReturnStrategy.ofCommand s.options c.command).1
    ∧ c.returns = .ofStrategy c.command c.strategy
  := by
  obtain ⟨_, _, command, _, _, _, _, _, rfl⟩ := ofElement_eq_some_iff.mp h
  exact ⟨rfl, rfl⟩

/-- The strategy for an only output that has a length fits. -/
theorem strategyFits_of_length (h : ofElement s element = .ok (some c))
    (distinct : (c.command.parameters.map (·.rawName)).Nodup) {only : Parameter}
    (isOutput : only ∈ c.command.parameters ∧ only.role.isOutput = true)
    {length : LengthReference} (hlength : only.role.length? = some length)
    {strategy : ReturnStrategy}
    (hstrategy : ((c.command.parameter? length.parameterName).map fun counter =>
        if length.isDirect && counter.isWritten then
          ReturnStrategy.queryThenFill counter.rawName only.rawName
        else .fillKnownLength only.rawName length) = some strategy)
    (hreturns : c.returns = .ofStrategy c.command strategy) :
  StrategyFits s.options c strategy
  := by
  obtain ⟨counter, hcounter, rfl⟩ := Option.map_eq_some_iff.mp hstrategy
  have declared := Command.mem_of_parameter? hcounter
  have htype := PublicReturn.elementType_rawName distinct isOutput.1
  split at hreturns
  · rename_i hboth
    rw [if_pos hboth]
    obtain ⟨hdirect, hwritten⟩ := Bool.and_eq_true_iff.mp hboth
    apply StrategyFits.queryThenFill only counter isOutput ⟨declared.1, hwritten⟩
    · cases length with
      | field name path => cases hdirect
      | parameter name =>
          apply rawName_ne_of_directLength h distinct isOutput.1 hlength hcounter
    · use hasSlots_of_isOutput h isOutput
      apply hasSlots_of_isWritten h hwritten
    · rw [hreturns, PublicReturn.ofStrategy, htype]
  · rename_i hnot
    rw [if_neg hnot]
    apply StrategyFits.fillKnownLength only counter length isOutput declared
    · intro hdirect
      have hread : counter.isWritten = false := by
        rw [hdirect, Bool.true_and] at hnot
        apply Bool.eq_false_iff.mpr hnot
      use hread
      apply isPublic_of_not_isWritten h declared.1 hread
    · rw [hreturns, PublicReturn.ofStrategy, htype]

/-- The strategy for an only output fits. -/
theorem strategyFits_of_only (h : ofElement s element = .ok (some c))
    (distinct : (c.command.parameters.map (·.rawName)).Nodup) {only : Parameter}
    (houtputs : c.command.outputs = [only]) {strategy : ReturnStrategy}
    (hstrategy : ReturnStrategy.ofOnlyOutput? c.command only = some strategy)
    (hreturns : c.returns = .ofStrategy c.command strategy) :
  StrategyFits s.options c strategy
  := by
  have isOutput := isOutput_of_only houtputs
  unfold ReturnStrategy.ofOnlyOutput? at hstrategy
  split at hstrategy
  · rename_i hrole
    obtain rfl := Option.some.inj hstrategy
    apply StrategyFits.singleValue only houtputs hrole
    rw [hreturns, PublicReturn.ofStrategy, PublicReturn.elementType_rawName distinct isOutput.1,
      resultType, hrole]
  · rename_i length hrole
    apply strategyFits_of_length h distinct isOutput _ hstrategy hreturns
    rw [hrole]
    rfl
  · rename_i length hrole
    apply strategyFits_of_length h distinct isOutput _ hstrategy hreturns
    rw [hrole]
    rfl
  · cases hstrategy

/-- The strategy for two neighbours fits. -/
theorem strategyFits_ofPair (h : ofElement s element = .ok (some c))
    (distinct : (c.command.parameters.map (·.rawName)).Nodup) {count output : Parameter}
    (adjacent : [count, output] <:+: c.command.parameters) (houtput : output.role.isOutput = true)
    (hreturns : c.returns = .ofStrategy c.command (.ofPair count output)) :
  StrategyFits s.options c (.ofPair count output)
  := by
  have hcount : count ∈ c.command.parameters := adjacent.subset List.mem_cons_self
  have isOutput : output ∈ c.command.parameters ∧ output.role.isOutput = true := by
    use adjacent.subset (List.mem_cons_of_mem _ List.mem_cons_self)
  have htype := PublicReturn.elementType_rawName distinct isOutput.1
  unfold ReturnStrategy.ofPair at hreturns ⊢
  split at hreturns
  · rename_i hwritten
    rw [if_pos hwritten]
    apply StrategyFits.queryThenFill output count isOutput ⟨hcount, hwritten⟩
    · have hpair := distinct.sublist (adjacent.sublist.map _)
      simpa using hpair
    · use hasSlots_of_isOutput h isOutput
      apply hasSlots_of_isWritten h hwritten
    · rw [hreturns, PublicReturn.ofStrategy, htype]
  · rename_i hread
    rw [if_neg hread]
    have hread := Bool.eq_false_iff.mpr hread
    apply StrategyFits.fillKnownLength output count _ isOutput ⟨hcount, rfl⟩
    · intro _
      use hread
      apply isPublic_of_not_isWritten h hcount hread
    · rw [hreturns, PublicReturn.ofStrategy, htype]

/-- The strategy of an accepted command whose parameters have distinct names fits. -/
theorem strategy_of_accepted (h : ofElement s element = .ok (some c))
    (distinct : (c.command.parameters.map (·.rawName)).Nodup) :
  StrategyFits s.options c c.strategy
  := by
  obtain ⟨hstrategy, hreturns⟩ := strategy_eq h
  rw [hstrategy] at hreturns ⊢
  rcases ReturnStrategy.ofCommand_cases s.options c.command with
    ⟨heq, noneFits⟩ | ⟨only, houtputs, honly⟩ | ⟨count, output, adjacent, houtput, heq⟩
  · rw [heq]
    apply StrategyFits.passthrough
    intro synthesizes
    rcases noneFits synthesizes with hnil | ⟨hpair, honly⟩
    · exact .inl hnil
    · have several := outputs_of_ofOnlyOutput?_eq_none h honly
      refine several.imp_right fun hlength => ⟨hlength, ?_⟩
      intro count output adjacent candidate
      apply ReturnStrategy.countedPair?_eq_none hpair adjacent candidate
  · apply strategyFits_of_only h distinct houtputs honly hreturns
  · rw [heq] at hreturns ⊢
    apply strategyFits_ofPair h distinct adjacent houtput hreturns

/-- A count that is written, and an array of its length that is written too. -/
def queriedNumbers : Element :=
  commandDeclaration "vkGetNumbers" [
    numberDeclaration "" "* " "pCount" none,
    numberDeclaration "" "* " "pNumbers" (some "pCount")]

theorem strategy_of_accepted_queriedNumbers :
  ∃ c, ofElement numberSetting queriedNumbers = .ok (some c)
    ∧ (c.command.parameters.map (·.rawName)).Nodup
    ∧ c.strategy = .queryThenFill "pCount" "pNumbers"
    ∧ StrategyFits numberSetting.options c c.strategy
  := by
  have evaluated :
      (ofElement numberSetting queriedNumbers).toOption.join.any (fun c =>
        decide ((c.command.parameters.map (·.rawName)).Nodup)
          && c.strategy == .queryThenFill "pCount" "pNumbers") = true := by
    decide +kernel
  obtain ⟨c, hc, h⟩ := Option.any_eq_true _ _ |>.mp evaluated
  obtain ⟨hdistinct, hstrategy⟩ := Bool.and_eq_true_iff.mp h
  have accepted := Outcome.toOption_join_eq_some_iff.mp hc
  have distinct := of_decide_eq_true hdistinct
  use c, accepted, distinct, eq_of_beq hstrategy
  apply strategy_of_accepted accepted distinct

end Classification

end NativeApi
