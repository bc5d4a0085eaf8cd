import NativeApi.Proofs.ReturnTypes

/-!
# Failing statuses

A command that returns the status type fails with every status but that of success.  Main
statement: in a model no failing status is taken for a success, and where an enumeration has a
member for it, it is reported by the name of such a member, which has that very value.
-/

namespace NativeApi

/-! ### Members by name and by value -/

namespace Enumeration

variable {e : Enumeration} {name : String} {value : Int}

/-- The status of success is the value of the member of a name, or zero if there is none. -/
def IsSuccess (e : Enumeration) (name : String) (status : Int) : Prop :=
  (∃ m ∈ e.members, m.name = name ∧ m.value = status)
    ∨ (∀ m ∈ e.members, m.name ≠ name) ∧ status = 0

/-- A name finds a value only if a member has both. -/
theorem exists_mem_of_valueOf? (h : e.valueOf? name = some value) :
  ∃ m ∈ e.members, m.name = name ∧ m.value = value
  := by
  obtain ⟨m, hm, rfl⟩ := Option.map_eq_some_iff.mp h
  have hname := List.find?_some hm
  use m, List.mem_of_find?_eq_some hm, eq_of_beq hname

theorem valueOf?_eq_none_iff :
  e.valueOf? name = none ↔ ∀ m ∈ e.members, m.name ≠ name
  := by
  rw [valueOf?, Option.map_eq_none_iff, member?, List.find?_eq_none]
  simp only [beq_iff_eq, ne_eq]

/-- The name of a status is that of a member with its value. -/
theorem exists_mem_of_memberOfValue? {m : EnumMember} (h : e.memberOfValue? value = some m) :
  m ∈ e.members ∧ m.value = value
  := by
  have hvalue := List.find?_some h
  use List.mem_of_find?_eq_some h, eq_of_beq hvalue

theorem isSome_memberOfValue?_iff :
  (e.memberOfValue? value).isSome = true ↔ ∃ m ∈ e.members, m.value = value
  := by
  rw [memberOfValue?, List.find?_isSome]
  simp only [beq_iff_eq]

section

variable (distinct : (e.members.map (·.name)).Nodup)
include distinct

/-- Where names are distinct, each finds the value of its member. -/
theorem valueOf?_of_mem {m : EnumMember} (hm : m ∈ e.members) :
  e.valueOf? m.name = some m.value
  := by
  cases hvalue : e.valueOf? m.name with
  | none => exact absurd rfl (valueOf?_eq_none_iff.mp hvalue m hm)
  | some value =>
      obtain ⟨m', hm', hname, rfl⟩ := exists_mem_of_valueOf? hvalue
      rw [List.inj_on_of_nodup_map distinct hm' hm hname]

theorem isSuccess_iff :
  e.IsSuccess name value ↔ value = (e.valueOf? name).getD 0
  := by
  cases hname : e.valueOf? name with
  | none =>
      have hnone := valueOf?_eq_none_iff.mp hname
      rw [Option.getD_none, IsSuccess]
      constructor
      · rintro (⟨m, hm, heq, -⟩ | ⟨-, hzero⟩)
        · exact absurd heq (hnone m hm)
        · exact hzero
      · intro hzero
        exact .inr ⟨hnone, hzero⟩
  | some found =>
      obtain ⟨m, hm, rfl, rfl⟩ := exists_mem_of_valueOf? hname
      rw [Option.getD_some, IsSuccess]
      constructor
      · rintro (⟨m', hm', heq, rfl⟩ | ⟨hnone, -⟩)
        · rw [List.inj_on_of_nodup_map distinct hm' hm heq]
        · exact absurd rfl (hnone m hm)
      · rintro rfl
        exact .inl ⟨m, hm, rfl, rfl⟩

end

end Enumeration

/-! ### Checking a status -/

namespace Classification

variable {c : Classification} {code : Int} {e : Enumeration} {problem : Error}

/-- A status fails exactly if the command returns one and it is not that of success. -/
theorem checkStatus_eq_error_iff :
  c.checkStatus code e = .error problem
    ↔ (c.command.resultConvention = .statusCode ∧ code ≠ (e.valueOf? c.successMember).getD 0)
      ∧ .nativeStatus c.command.name code ((e.memberOfValue? code).map (·.name)) = problem
  := by
  rw [checkStatus]
  cases c.command.resultConvention with
  | value => simp
  | statusCode =>
      simp only [true_and]
      split
      · rename_i hsuccess
        simp [hsuccess]
      · rename_i hfailure
        simp [hfailure]

/-- What a document says of how a classified command returns. -/
theorem returns_of_ofElement {s : Setting} {element : Element}
    (h : ofElement s element = .ok (some c)) :
  (element.element? "proto").bind (·.childText? "name") = some c.command.name
    ∧ (element.element? "proto").bind (·.childText? "type") = some c.command.rawReturnType
    ∧ (c.command.resultConvention = .statusCode
      ↔ c.command.rawReturnType = s.options.statusType)
    ∧ c.successMember = s.options.successMember
  := by
  obtain ⟨proto, name, command, hproto, hname, -, -, hcommand, rfl⟩ := ofElement_eq_some_iff.mp h
  obtain ⟨rawReturnType, _, _, htype, -, -, rfl⟩ := commandOf_eq_ok_iff.mp hcommand
  rw [hproto, Option.bind_some, Option.bind_some]
  refine ⟨hname, htype, ?_, rfl⟩
  simp [ofCommand]

end Classification

/-! ### Enumerations of models -/

/-- An outline shows all of an enumeration. -/
theorem Entity.kind_of_outline_eq {e e' : Entity} (h : e'.outline = e.outline) {en : Enumeration}
    (hkind : e.kind = .enumeration en) :
  e'.kind = .enumeration en
  := by
  obtain ⟨name, rawName, kind⟩ := e
  obtain ⟨name', rawName', kind'⟩ := e'
  obtain rfl : kind = .enumeration en := hkind
  have hkinds := congrArg Entity.kind h
  cases kind' with
  | enumeration en' => exact hkinds
  | _ => cases hkinds

namespace Model

variable {o : Options} {d : Document} {m : Model} {owner : Entity} {e : Enumeration}

/-- No two members of an enumeration of a model have the same name. -/
theorem nodup_names_of_ofDocument (h : ofDocument o d = .ok m)
    (he : (owner, e) ∈ m.registry.enumerations) :
  (e.members.map (·.name)).Nodup
  := by
  obtain ⟨declared, analyzed, stages⟩ := ofDocument_eq_ok_iff.mp h
  -- the members are those that registration has collected
  obtain ⟨_, -, collects, -⟩ := Registry.collects_of_ofDocument stages.registration
  obtain ⟨howner, hkind⟩ := Registry.mem_enumerations_iff.mp he
  have outline := stages.sameOutline_analyzed.trans stages.sameOutline_registry
  have hmem : owner.outline ∈ declared.entities.map Entity.outline := by
    rw [← outline.entities]
    exact List.mem_map_of_mem howner
  obtain ⟨owner', howner', houtline⟩ := List.mem_map.mp hmem
  obtain ⟨id, hid⟩ := List.getElem?_of_mem howner'
  have hkind' := Entity.kind_of_outline_eq houtline hkind
  apply (collects id e (Registry.enumerationAt?_eq_some_iff.mpr ⟨owner', hid, hkind'⟩)).names

/-! ### The main statement -/

/-- How a command of a document takes a status, as an enumeration explains it. -/
structure ReportsStatus (o : Options) (d : Document) (c : Classification) (e : Enumeration)
    (code : Int) : Prop where
  /-- The command and its return type are those of a prototype. -/
  declared : ∃ element ∈ d.commands,
    (element.element? "proto").bind (·.childText? "name") = some c.command.name
      ∧ (element.element? "proto").bind (·.childText? "type") = some c.command.rawReturnType
  /-- The status is an error exactly if the return type is the status type and the status is not
  that of success. -/
  fails_iff : (∃ problem, c.checkStatus code e = .error problem)
    ↔ c.command.rawReturnType = o.statusType ∧ ¬e.IsSuccess o.successMember code
  /-- The error has the status, and the name of a member exactly if one has that value. -/
  reported : ∀ problem, c.checkStatus code e = .error problem → ∃ status,
    problem = .nativeStatus c.command.name code status
      ∧ (status.isSome = true ↔ ∃ m ∈ e.members, m.value = code)
      ∧ ∀ name, status = some name → e.valueOf? name = some code

/-- In a model, every command reports failing statuses by all enumerations, under names that have
the value of the status. -/
theorem reportsStatus_of_ofDocument (h : ofDocument o d = .ok m) {c : Classification}
    (hc : c ∈ m.commands) (he : (owner, e) ∈ m.registry.enumerations) (code : Int) :
  ReportsStatus o d c e code
  := by
  have distinct := nodup_names_of_ofDocument h he
  obtain ⟨declared, analyzed, stages⟩ := ofDocument_eq_ok_iff.mp h
  obtain ⟨element, helement, hclassified⟩ := (Classification.mem_of_ofDocument stages.commands).mp hc
  obtain ⟨hname, htype, hconvention, hsuccess⟩ := Classification.returns_of_ofElement hclassified
  constructor
  · use element, helement, hname
  · simp only [Classification.checkStatus_eq_error_iff, exists_and_left, exists_eq', and_true,
      hconvention, hsuccess, Enumeration.isSuccess_iff distinct, ne_eq]
  · intro problem hproblem
    obtain ⟨-, rfl⟩ := Classification.checkStatus_eq_error_iff.mp hproblem
    refine ⟨_, rfl, ?_, ?_⟩
    · rw [Option.isSome_map, Enumeration.isSome_memberOfValue?_iff]
    · intro name hstatus
      obtain ⟨member, hmember, rfl⟩ := Option.map_eq_some_iff.mp hstatus
      obtain ⟨hmem, rfl⟩ := Enumeration.exists_mem_of_memberOfValue? hmember
      apply Enumeration.valueOf?_of_mem distinct hmem

/-- A document with a command that returns a status, of which two members have the same value. -/
def statusDocument : Document where
  root :=
    let entry (name value : String) : Element :=
      ((Element.named "enum").withAttribute "name" name).withAttribute "value" value
    let proto := ((Element.named "proto").withTextChild "type" "VkResult")
      |>.withTextChild "name" "vkWait"
    let entries := [entry "VK_SUCCESS" "0", entry "VK_NOT_READY" "1", entry "VK_LATE" "1"]
    (Element.named "registry")
      |>.withChild ((Element.named "types").withChild (Registry.declaration "enum" "VkResult"))
      |>.withChild (entries.foldl Element.withChild
          ((Element.named "enums").withAttribute "name" "VkResult"))
      |>.withChild ((Element.named "commands").withChild
          ((Element.named "command").withChild proto))
  name_root := rfl

/-- The status of that value fails and is reported by the name of the first of the two. -/
theorem reportsStatus_of_ofDocument_late :
  ∃ m c owner e, ofDocument Options.standard.withoutTargets statusDocument = .ok m
    ∧ c ∈ m.commands ∧ (owner, e) ∈ m.registry.enumerations
    ∧ ReportsStatus Options.standard.withoutTargets statusDocument c e 1
    ∧ c.checkStatus 1 e = .error (.nativeStatus "vkWait" 1 (some "NotReady"))
    ∧ e.valueOf? "NotReady" = some 1
  := by
  have evaluated :
      (ofDocument Options.standard.withoutTargets statusDocument).toOption.any (fun m =>
        m.commands.any fun c => m.registry.enumerations.any fun entry =>
          decide (c.checkStatus 1 entry.2 = .error (.nativeStatus "vkWait" 1 (some "NotReady"))))
        = true := by
    decide +kernel
  obtain ⟨m, hm, h⟩ := (Option.any_eq_true _ _).mp evaluated
  obtain ⟨c, hc, h⟩ := List.any_eq_true.mp h
  obtain ⟨⟨owner, e⟩, he, h⟩ := List.any_eq_true.mp h
  have made := Outcome.toOption_eq_some_iff.mp hm
  have hchecked := of_decide_eq_true h
  have reports := reportsStatus_of_ofDocument made hc he 1
  obtain ⟨status, hstatus, -, hvalue⟩ := reports.reported _ hchecked
  obtain ⟨-, -, rfl⟩ := Error.nativeStatus.inj hstatus
  exact ⟨m, c, owner, e, made, hc, he, reports, hchecked, hvalue "NotReady" rfl⟩

end Model

end NativeApi
