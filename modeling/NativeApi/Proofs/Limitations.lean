import NativeApi.Proofs.ReturnStrategies

/-!
# Limitations of accepted commands

The outputs of a command are hidden from the caller, so those that its return strategy does
not name are left out.  Main statement: where the native result leaves room for outputs, the
limitations are one note that lists what is left out, in order, and nothing if all outputs
are named; where the native result is a plain value, there is no limitation, whatever the
outputs are.
-/

namespace NativeApi

namespace ReturnStrategy

/-! ### What a strategy leaves out -/

/-- The raw name of the output that becomes what a wrapper returns. -/
def output? : ReturnStrategy → Option String
  | passthrough => none
  | singleValue output => some output
  | fillKnownLength output _ => some output
  | queryThenFill _ output => some output

/-- The outputs of a command that a strategy does not name. -/
def omitted (strategy : ReturnStrategy) (c : Command) : List Parameter :=
  c.outputs.filter fun p => strategy.output? != some p.rawName

/-- The note on outputs that a strategy leaves out, by their names. -/
def note (strategy : ReturnStrategy) (names : String) : String :=
  match strategy with
  | passthrough => "no return synthesis for outputs " ++ names ++ "; left as native out parameters"
  | _ => "outputs " ++ names ++ " are not part of the public return"

/-- The limitations that outputs left out lead to: one note on all of them, if there are
any. -/
def notes (strategy : ReturnStrategy) (left : List Parameter) : List String :=
  if left = [] then []
  else [strategy.note (String.intercalate ", " (left.map (·.rawName)))]

variable {o : Options} {c : Command}

theorem notes_eq_nil_iff {strategy : ReturnStrategy} {left : List Parameter} :
  strategy.notes left = [] ↔ left = []
  := by
  rw [notes]
  split
  · simp [*]
  · simp [*]

theorem omitted_eq_nil_iff {strategy : ReturnStrategy} :
  strategy.omitted c = [] ↔ ∀ p ∈ c.outputs, strategy.output? = some p.rawName
  := by
  simp [omitted]

/-- Without a strategy all outputs are left out. -/
theorem omitted_passthrough (c : Command) :
  passthrough.omitted c = c.outputs
  := by
  apply List.filter_eq_self.mpr
  intro p _
  rfl

/-- The strategy for an only output names it. -/
theorem output?_ofOnlyOutput {only : Parameter} {strategy : ReturnStrategy}
    (h : ofOnlyOutput? c only = some strategy) :
  strategy.output? = some only.rawName
  := by
  unfold ofOnlyOutput? at h
  split at h
  · obtain rfl := Option.some.inj h
    rfl
  · obtain ⟨counter, _, rfl⟩ := Option.map_eq_some_iff.mp h
    split
    · rfl
    · rfl
  · obtain ⟨counter, _, rfl⟩ := Option.map_eq_some_iff.mp h
    split
    · rfl
    · rfl
  · cases h

theorem output?_ofPair (count output : Parameter) :
  (ofPair count output).output? = some output.rawName
  := by
  unfold ofPair
  split
  · rfl
  · rfl

/-! ### What is noted -/

/-- The strategy for two neighbours notes the other outputs. -/
theorem ignoredOutputs_eq (c : Command) (count output : Parameter) :
  ignoredOutputs c.outputs output = (ofPair count output).notes ((ofPair count output).omitted c)
  := by
  have hnote (names : String) :
      (ofPair count output).note names = "outputs " ++ names ++ " are not part of the public return" := by
    unfold ofPair
    split
    · rfl
    · rfl
  have homitted : (ofPair count output).omitted c = c.outputs.filter (·.rawName != output.rawName) := by
    apply List.filter_congr
    intro p _
    rw [output?_ofPair, bne_comm]
    simp [bne, Bool.beq_eq_decide_eq]
  rw [notes, hnote, homitted, ignoredOutputs]
  cases c.outputs.filter (·.rawName != output.rawName) with
  | nil => rfl
  | cons p ps => rfl

/-- Where there are outputs, the choice between neighbours notes what it leaves out. -/
theorem snd_ofNeighbours (o : Options) (houtputs : c.outputs ≠ []) :
  (ofNeighbours o c).2 = (ofNeighbours o c).1.notes ((ofNeighbours o c).1.omitted c)
  := by
  unfold ofNeighbours
  split
  · apply ignoredOutputs_eq
  · rw [omitted_passthrough, notes, if_neg houtputs]
    rfl

/-- Where the native result leaves room for outputs, what is left out is noted. -/
theorem snd_ofCommand (o : Options) (h : c.synthesizesReturn = true) :
  (ofCommand o c).2 = (ofCommand o c).1.notes ((ofCommand o c).1.omitted c)
  := by
  rw [ofCommand, if_pos h, ofOutputs]
  split
  · rename_i hnil
    rw [omitted_passthrough, hnil]
    rfl
  · rename_i only honly
    split
    · rename_i strategy hstrategy
      have hnone : strategy.omitted c = [] := by
        apply omitted_eq_nil_iff.mpr
        rw [honly]
        intro p hp
        obtain rfl := List.mem_singleton.mp hp
        apply output?_ofOnlyOutput hstrategy
      rw [hnone]
      rfl
    · apply snd_ofNeighbours
      rw [honly]
      apply List.cons_ne_nil
  · rename_i hnil _
    apply snd_ofNeighbours o hnil

end ReturnStrategy

namespace Classification

variable {s : Setting} {element : Element} {c : Classification}

/-- If the strategy leaves an output out, then there is a limitation. -/
def TellsOmitted (c : Classification) : Prop :=
  (∃ p ∈ c.command.parameters, p.role.isOutput = true ∧ c.strategy.output? ≠ some p.rawName) →
    c.limitations ≠ []

theorem limitations_eq (h : ofElement s element = .ok (some c)) :
  c.limitations = (ReturnStrategy.ofCommand s.options c.command).2
  := by
  obtain ⟨_, _, command, _, _, _, _, _, rfl⟩ := ofElement_eq_some_iff.mp h
  rfl

/-- Some output is left out exactly if there is one that the strategy does not name. -/
theorem omitted_ne_nil_iff :
  c.strategy.omitted c.command ≠ []
    ↔ ∃ p ∈ c.command.parameters, p.role.isOutput = true ∧ c.strategy.output? ≠ some p.rawName
  := by
  rw [ne_eq, ReturnStrategy.omitted_eq_nil_iff]
  simp [Command.outputs]

/-- All outputs of an accepted command get slots.  Where the native result leaves room for
outputs, the limitations are the note on those that the strategy leaves out.  A command
that returns a plain value leaves out all outputs, and has no limitation; so something is
left out in silence exactly if such a command has an output. -/
theorem limitations_of_accepted (h : ofElement s element = .ok (some c)) :
  (∀ p ∈ c.command.parameters, p.role.isOutput = true → c.HasSlots p)
    ∧ (c.command.synthesizesReturn = true →
        c.limitations = c.strategy.notes (c.strategy.omitted c.command))
    ∧ (c.command.synthesizesReturn = false →
        c.strategy = .passthrough ∧ c.strategy.omitted c.command = c.command.outputs
          ∧ c.limitations = [])
    ∧ (c.TellsOmitted ↔ c.command.synthesizesReturn = true ∨ c.command.outputs = [])
  := by
  have hstrategy := (strategy_eq h).1
  have hnoted (hroom : c.command.synthesizesReturn = true) :
      c.limitations = c.strategy.notes (c.strategy.omitted c.command) := by
    rw [limitations_eq h, hstrategy]
    apply ReturnStrategy.snd_ofCommand s.options hroom
  have hplain (hvalue : c.command.synthesizesReturn = false) :
      c.strategy = .passthrough ∧ c.strategy.omitted c.command = c.command.outputs
        ∧ c.limitations = [] := by
    have hcommand : ReturnStrategy.ofCommand s.options c.command = (.passthrough, []) := by
      rw [ReturnStrategy.ofCommand, hvalue]
      rfl
    rw [limitations_eq h, hstrategy, hcommand]
    exact ⟨rfl, ReturnStrategy.omitted_passthrough c.command, rfl⟩
  refine ⟨fun p hp houtput => hasSlots_of_isOutput h ⟨hp, houtput⟩, hnoted, hplain, ?_⟩
  rw [TellsOmitted, ← omitted_ne_nil_iff]
  cases hroom : c.command.synthesizesReturn with
  | true =>
      rw [hnoted hroom, ne_eq, ne_eq, ReturnStrategy.notes_eq_nil_iff]
      simp
  | false =>
      obtain ⟨-, homitted, hlimitations⟩ := hplain hroom
      rw [homitted, hlimitations]
      simp

/-- A command that returns a number, and gives another one through a pointer. -/
def readNumber : Element :=
  let proto := ((Element.named "proto").withTextChild "type" "uint32_t").withTextChild "name" "vkRead"
  ((Element.named "command").withChild proto).withChild (numberDeclaration "" "* " "pValue" none)

/-- The number that comes through the pointer is left out in silence. -/
theorem limitations_of_accepted_readNumber :
  ∃ c, ofElement numberSetting readNumber = .ok (some c)
    ∧ ((∀ p ∈ c.command.parameters, p.role.isOutput = true → c.HasSlots p)
      ∧ (c.command.synthesizesReturn = true →
          c.limitations = c.strategy.notes (c.strategy.omitted c.command))
      ∧ (c.command.synthesizesReturn = false →
          c.strategy = .passthrough ∧ c.strategy.omitted c.command = c.command.outputs
            ∧ c.limitations = [])
      ∧ (c.TellsOmitted ↔ c.command.synthesizesReturn = true ∨ c.command.outputs = []))
    ∧ ¬c.TellsOmitted
  := by
  have evaluated :
      (ofElement numberSetting readNumber).toOption.join.any (fun c =>
        !c.command.synthesizesReturn && !c.command.outputs.isEmpty) = true := by
    decide +kernel
  obtain ⟨c, hc, h⟩ := Option.any_eq_true _ _ |>.mp evaluated
  have accepted := Outcome.toOption_join_eq_some_iff.mp hc
  have holds := limitations_of_accepted accepted
  use c, accepted, holds
  rw [holds.2.2.2]
  simpa using h

end Classification

end NativeApi
