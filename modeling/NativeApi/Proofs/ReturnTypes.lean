import NativeApi.Proofs.HandleMethods
import NativeApi.Proofs.Limitations

/-!
# The types that wrappers return

A wrapper returns what the native command does, or what comes out of an output, and a buffer
comes out as bytes.  Main statement: in a model, the type that a wrapper returns is found
under its name, unless the wrapper returns bytes: the type of bytes is there only if
something else has brought it there.
-/

namespace NativeApi

/-! ### Types that models find -/

namespace Registry

variable {r r' r'' : Registry}

theorem SameOutline.refl (r : Registry) : SameOutline r r := ⟨rfl, rfl, rfl⟩

theorem SameOutline.trans (h : SameOutline r r') (h' : SameOutline r' r'') :
  SameOutline r r''
  where
  entities := h'.entities.trans h.entities
  rawIds := h'.rawIds.trans h.rawIds
  platforms := h'.platforms.trans h.platforms

/-- What a registry resolves a name to, another one of the same outline resolves it to but
for methods and flags. -/
theorem SameOutline.resolve (h : SameOutline r r') {name : String} {e : Entity}
    (hname : r.resolve name = .ok e) :
  ∃ e', r'.resolve name = .ok e' ∧ e'.name = e.name
  := by
  have stable := h.extends_outline.isStable
  obtain ⟨id, hid, he⟩ := resolve_eq_ok_iff.mp hname
  obtain ⟨e', he', houtline⟩ := stable.entities id e he
  use e', resolve_eq_ok_iff.mpr ⟨id, stable.standsFor name id hid, he'⟩
  apply congrArg Entity.name houtline

end Registry

namespace Model

open Registry (SameOutline)

variable {o : Options} {d : Document} {m : Model} {declared analyzed : Registry} {name : String}

theorem sameOutline_bindMethods (r : Registry) (commands : List Classification) :
  SameOutline r (bindMethods r commands)
  := by
  rw [bindMethods]
  apply List.foldlRecOn (motive := SameOutline r)
  · apply SameOutline.refl
  · intro bound h c _
    split
    · apply h.trans (Registry.sameOutline_bindMethod bound _ _)
    · exact h

theorem Stages.sameOutline_analyzed (stages : Stages o d declared analyzed m) :
  SameOutline declared analyzed
  := by
  apply Registry.sameOutline_of_unflagged_eq
  rw [← Registry.unflagged_analyze declared, stages.analysis]

theorem Stages.sameOutline_registry (stages : Stages o d declared analyzed m) :
  SameOutline analyzed m.registry
  := by
  rw [stages.methods]
  apply sameOutline_bindMethods

/-- A name is found in a model exactly if an entity carries it. -/
theorem exists_typeNamed?_iff (h : ofDocument o d = .ok m) :
  (∃ e, m.typeNamed? name = some e) ↔ ∃ e ∈ m.registry.entities, e.name = name
  := by
  obtain ⟨declared, analyzed, stages⟩ := ofDocument_eq_ok_iff.mp h
  simp only [typeNamed?, Outcome.toOption_eq_some_iff]
  constructor
  · rintro ⟨e, he⟩
    obtain ⟨_, ⟨start, hstart, -⟩, -⟩ := Registry.resolve_eq_ok_iff.mp he
    obtain ⟨e', he', hname⟩ := Registry.exists_get?_of_idOf? hstart
    use e', List.mem_of_getElem? he', hname
  · rintro ⟨e, he, hname⟩
    -- all aliases of the declared types resolve, and those of the model are the same
    have outline := stages.sameOutline_analyzed.trans stages.sameOutline_registry
    have hmem : name ∈ declared.names := by
      rw [← outline.names]
      exact List.mem_map.mpr ⟨e, he, hname⟩
    have hid : (declared.idOf? name).isSome = true := by
      rw [Option.isSome_iff_ne_none, ne_eq, Registry.idOf?_eq_none_iff, not_not]
      exact hmem
    obtain ⟨e', he', -⟩ := Registry.resolve_of_ofDocument stages.registration hid
    obtain ⟨found, hfound, -⟩ := outline.resolve he'
    use found

/-- What a raw name resolves to while commands are classified is found by its name. -/
theorem Stages.typeNamed?_of_resolveRaw (stages : Stages o d declared analyzed m) {raw : String}
    {e : Entity} (h : analyzed.resolveRaw raw = .ok e) :
  ∃ e', m.typeNamed? e.name = some e' ∧ e'.name = e.name
  := by
  have distinct : analyzed.names.Nodup := by
    rw [stages.sameOutline_analyzed.names]
    apply (Registry.isConsistent_of_ofDocument stages.registration).distinct
  obtain ⟨id, ⟨start, -, hid⟩, he⟩ := Registry.resolveRaw_eq_ok_iff.mp h
  have concrete := (Registry.resolveId_eq_ok_iff.mp hid).2
  have hresolve : analyzed.resolve e.name = .ok e := by
    apply Registry.resolve_eq_ok_iff.mpr
    use id, ⟨id, (Registry.idOf?_eq_some_iff distinct).mpr ⟨e, he, rfl⟩, concrete.resolveId⟩
  obtain ⟨e', he', hname⟩ := stages.sameOutline_registry.resolve hresolve
  use e', Outcome.toOption_eq_some_iff.mpr he'

end Model

/-! ### Types of parameters -/

theorem Parameter.resolveRaw_declaredType {r : Registry} {element : Element} {owner : String}
    {isBound : Bool} {ps : List Parameter} {p : Parameter}
    (h : ofCommand r element owner isBound = .ok ps) (hp : p ∈ ps) :
  ∃ e, r.resolveRaw p.rawType = .ok e ∧ e.name = p.declaredType
  := by
  obtain ⟨ds, -, h⟩ := ofCommand_eq_ok_iff.mp h
  obtain ⟨declared, hdeclared, rfl⟩ := ofDeclarators_eq_ok_iff.mp h
  obtain ⟨p₀, hp₀, linked⟩ := exists_linkedTo hp
  obtain ⟨_, _, hmade, -⟩ := exists_ofDeclarator hdeclared hp₀
  obtain ⟨e, _, _, he, -, -, rfl⟩ := ofDeclarator_eq_ok_iff.mp hmade
  rw [linked.declaration]
  use e, he

/-! ### What is returned -/

/-- The type that a wrapper returns, or that of the elements of what it returns. -/
def PublicReturn.type? : PublicReturn → Option String
  | void => none
  | value type => some type
  | array type => some type

/-- The native result is returned, or what comes out of the output that the strategy names. -/
theorem PublicReturn.type?_ofStrategy {c : Command} {strategy : ReturnStrategy} {type : String}
    (h : (ofStrategy c strategy).type? = some type) :
  (strategy.output? = none ∧ type = c.returnType)
    ∨ ∃ output, strategy.output? = some output ∧ type = elementType c output
  := by
  cases strategy with
  | passthrough =>
      rw [ofStrategy] at h
      split at h
      · cases h
      · split at h
        · cases h
        · exact .inl ⟨rfl, (Option.some.inj h).symm⟩
  | singleValue output => exact .inr ⟨output, rfl, (Option.some.inj h).symm⟩
  | fillKnownLength output length => exact .inr ⟨output, rfl, (Option.some.inj h).symm⟩
  | queryThenFill count output => exact .inr ⟨output, rfl, (Option.some.inj h).symm⟩

namespace Classification

variable {s : Setting} {element : Element} {c : Classification} {type output : String}

/-- The output that a wrapper returns is a buffer. -/
def ReturnsBytes (c : Classification) : Prop :=
  ∃ output p length, c.strategy.output? = some output ∧ c.command.parameter? output = some p
    ∧ p.role = .rawBuffer length

/-- A strategy names one of the parameters. -/
theorem exists_parameter?_of_output? (h : ofElement s element = .ok (some c))
    (houtput : c.strategy.output? = some output) :
  ∃ p, c.command.parameter? output = some p
  := by
  rw [(strategy_eq h).1] at houtput
  rcases ReturnStrategy.ofCommand_cases s.options c.command with
    ⟨heq, -⟩ | ⟨only, houtputs, honly⟩ | ⟨count, pair, adjacent, -, heq⟩
  · rw [heq] at houtput
    cases houtput
  · rw [ReturnStrategy.output?_ofOnlyOutput honly] at houtput
    obtain rfl := Option.some.inj houtput
    apply Command.exists_parameter?_rawName (isOutput_of_only houtputs).1
  · rw [heq, ReturnStrategy.output?_ofPair] at houtput
    obtain rfl := Option.some.inj houtput
    apply Command.exists_parameter?_rawName
    apply adjacent.subset (List.mem_cons_of_mem _ List.mem_cons_self)

/-- Where no bytes are returned, the returned type is that of a raw name that resolves. -/
theorem exists_resolveRaw_of_returns (h : ofElement s element = .ok (some c))
    (htype : c.returns.type? = some type) (hbytes : ¬c.ReturnsBytes) :
  ∃ raw e, s.registry.resolveRaw raw = .ok e ∧ e.name = type
  := by
  rw [(strategy_eq h).2] at htype
  obtain ⟨proto, name, command, -, -, -, -, hcommand, hc⟩ := ofElement_eq_some_iff.mp h
  obtain ⟨raw, e, parameters, -, he, hparameters, rfl⟩ := commandOf_eq_ok_iff.mp hcommand
  rcases PublicReturn.type?_ofStrategy htype with ⟨-, rfl⟩ | ⟨output, houtput, rfl⟩
  · use raw, e, he
    rw [hc]
    rfl
  · obtain ⟨p, hp⟩ := exists_parameter?_of_output? h houtput
    have hmem : p ∈ parameters := by
      have hmem := (Command.mem_of_parameter? hp).1
      rwa [hc] at hmem
    have hdeclared : PublicReturn.elementType c.command output = p.declaredType := by
      rw [PublicReturn.elementType, hp]
      dsimp only
      split
      · rename_i length hrole
        exact absurd ⟨output, p, length, houtput, hp, hrole⟩ hbytes
      · rfl
    rw [hdeclared]
    use p.rawType
    apply Parameter.resolveRaw_declaredType hparameters hmem

/-- Bytes have the type that the registry calls `u8`. -/
theorem type_of_returnsBytes (h : ofElement s element = .ok (some c))
    (htype : c.returns.type? = some type) (hbytes : c.ReturnsBytes) :
  type = "u8"
  := by
  obtain ⟨output, p, length, houtput, hp, hrole⟩ := hbytes
  rw [(strategy_eq h).2] at htype
  rcases PublicReturn.type?_ofStrategy htype with ⟨hnone, -⟩ | ⟨output', houtput', rfl⟩
  · rw [hnone] at houtput
    cases houtput
  · rw [houtput] at houtput'
    obtain rfl := Option.some.inj houtput'
    rw [PublicReturn.elementType, hp]
    dsimp only
    rw [hrole]
    rfl

end Classification

/-! ### The return types of a model -/

namespace Model

variable {o : Options} {d : Document} {m : Model}

/-- The types that the wrappers of a model return are found under their names, but for bytes,
which are only found where an entity is called `u8`. -/
theorem returnTypes_of_ofDocument (h : ofDocument o d = .ok m) :
  ∀ c ∈ m.commands, ∀ type, c.returns.type? = some type →
    (¬c.ReturnsBytes → ∃ e, m.typeNamed? type = some e ∧ e.name = type)
      ∧ (c.ReturnsBytes → type = "u8"
        ∧ ((∃ e, m.typeNamed? type = some e) ↔ ∃ e ∈ m.registry.entities, e.name = "u8"))
  := by
  obtain ⟨declared, analyzed, stages⟩ := ofDocument_eq_ok_iff.mp h
  intro c hc type htype
  obtain ⟨element, -, helement⟩ := (Classification.mem_of_ofDocument stages.commands).mp hc
  constructor
  · intro hbytes
    obtain ⟨raw, e, he, rfl⟩ :=
      Classification.exists_resolveRaw_of_returns helement htype hbytes
    apply stages.typeNamed?_of_resolveRaw he
  · intro hbytes
    obtain rfl := Classification.type_of_returnsBytes helement htype hbytes
    use rfl
    apply exists_typeNamed?_iff h

/-- A document with two commands: one gives a size, and the other fills a buffer of it. -/
def bufferDocument : Document where
  root :=
    let included (name : String) : Element :=
      ((Element.named "type").withAttribute "requires" "vk_platform").withAttribute "name" name
    let declared (kind type stars name : String) : Element :=
      (((Element.named kind).withTextChild "type" type).withText stars).withTextChild "name" name
    let commands := [
      (Element.named "command").withChild (declared "proto" "size_t" " " "vkGetSize"),
      (Element.named "command").withChild (declared "proto" "void" " " "vkRead")
        |>.withChild (declared "param" "size_t" " " "dataSize")
        |>.withChild ((declared "param" "void" "* " "pData").withAttribute "len" "dataSize")]
    (Element.named "registry")
      |>.withChild ((Element.named "types").withChild (included "void")
        |>.withChild (included "size_t"))
      |>.withChild (commands.foldl Element.withChild (Element.named "commands"))
  name_root := rfl

/-- The size has a type that is found, and the bytes of the buffer have none. -/
theorem returnTypes_of_ofDocument_buffer :
  ∃ m size read, ofDocument Options.standard.withoutTargets bufferDocument = .ok m
    ∧ m.commands = [size, read]
    ∧ size.returns = .value "usize" ∧ (∃ e, m.typeNamed? "usize" = some e ∧ e.name = "usize")
    ∧ read.returns = .array "u8" ∧ read.ReturnsBytes ∧ m.typeNamed? "u8" = none
  := by
  have evaluated :
      (ofDocument Options.standard.withoutTargets bufferDocument).toOption.any (fun m =>
        m.commands.map (fun c => (c.strategy.output?, c.returns))
            == [(none, .value "usize"), (some "pData", .array "u8")]
          && (m.typeNamed? "u8").isNone) = true := by
    decide +kernel
  obtain ⟨m, hm, h⟩ := (Option.any_eq_true _ _).mp evaluated
  have made := Outcome.toOption_eq_some_iff.mp hm
  have found := returnTypes_of_ofDocument made
  rw [Bool.and_eq_true, beq_iff_eq, Option.isNone_iff_eq_none] at h
  obtain ⟨hcommands, hnone⟩ := h
  obtain ⟨size, rest, hsize, hvalue, hrest⟩ := List.map_eq_cons_iff.mp hcommands
  obtain ⟨read, rfl, harray⟩ := List.map_eq_singleton_iff.mp hrest
  obtain ⟨hpassthrough, hvalue⟩ := Prod.mk.inj hvalue
  obtain ⟨-, harray⟩ := Prod.mk.inj harray
  rw [hsize, List.forall_mem_cons, List.forall_mem_singleton, hvalue, harray] at found
  refine ⟨m, size, read, made, hsize, hvalue, (found.1 _ rfl).1 ?_, harray, ?_, hnone⟩
  · rintro ⟨output, _, _, houtput, -, -⟩
    rw [hpassthrough] at houtput
    cases houtput
  · -- other types than that of bytes would be found
    by_contra hbytes
    obtain ⟨e, he, -⟩ := (found.2 _ rfl).1 hbytes
    rw [hnone] at he
    cases he

end Model

end NativeApi
