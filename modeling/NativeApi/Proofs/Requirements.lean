import NativeApi.Proofs.AliasChains
import NativeApi.Scope

/-!
# What blocks require

A block requires types and commands by their raw names.  Main statement: the requirements
of one more block are those that there were, the types that its required types stand for,
and the commands at the ends of the alias chains of its required commands; they fail
exactly if one of these chains returns.
-/

namespace NativeApi

/-- A block has a list of requirements in which an entry of a kind gives a raw name. -/
def Block.Requires (b : Block) (kind raw : String) : Prop :=
  ∃ require ∈ b.requirements, ∃ entry ∈ require.elements kind, entry.attribute? "name" = some raw

theorem Block.mem_requiredNames_iff {b : Block} {kind raw : String} :
  raw ∈ b.requiredNames kind ↔ b.Requires kind raw
  := by
  rw [requiredNames, required, List.mem_filterMap]
  constructor
  · rintro ⟨entry, hentry, hname⟩
    obtain ⟨require, hrequire, hentry⟩ := List.mem_flatMap.mp hentry
    use require, hrequire, entry, hentry
  · rintro ⟨require, hrequire, entry, hentry, hname⟩
    use entry, List.mem_flatMap.mpr ⟨require, hrequire, hentry⟩

/-- A command resolves unless its chain of aliases returns. -/
theorem CommandAliases.exists_resolve_eq_ok_iff {a : CommandAliases} {raw : String} :
  (∃ target, a.resolve raw = .ok target) ↔ ¬Chain.Returns a.targets.get? raw
  := by
  constructor
  · rintro ⟨target, htarget⟩
    apply (resolve_eq_ok_iff.mp htarget).not_returns
  · intro hreturns
    cases hresolve : a.resolve raw with
    | ok target => use target
    | error e => exact absurd (resolve_eq_error_iff.mp hresolve).2 hreturns

namespace Requirements

variable {r : Registry} {a : CommandAliases} {q q' : Requirements} {block : Block}
  {raw name : String}

/-- The name that a required type goes by: that of the entity that it stands for, or its raw
name where it stands for none. -/
def GoesBy (r : Registry) (raw name : String) : Prop :=
  (∃ id e, r.RawStandsFor raw id ∧ r.get? id = some e ∧ e.name = name)
    ∨ (∀ id, ¬r.RawStandsFor raw id) ∧ name = raw

theorem typeName_eq_iff :
  typeName r raw = name ↔ GoesBy r raw name
  := by
  rw [typeName, GoesBy]
  cases hraw : r.resolveRaw raw with
  | ok e =>
      obtain ⟨id, hid, he⟩ := Registry.resolveRaw_eq_ok_iff.mp hraw
      constructor
      · intro hname
        exact .inl ⟨id, e, hid, he, hname⟩
      · rintro (⟨id', e', hid', he', hname⟩ | ⟨hnone, -⟩)
        · have hraw' := Registry.resolveRaw_eq_ok_iff.mpr ⟨id', hid', he'⟩
          obtain rfl := Except.ok.inj (hraw.symm.trans hraw')
          exact hname
        · exact absurd hid (hnone id)
  | error problem =>
      have hnone (id : Nat) : ¬r.RawStandsFor raw id := by
        intro hid
        obtain ⟨e, he⟩ := hid.exists_get?
        rw [Registry.resolveRaw_eq_ok_iff.mpr ⟨id, hid, he⟩] at hraw
        cases hraw
      constructor
      · rintro rfl
        exact .inr ⟨hnone, rfl⟩
      · rintro (⟨id, -, hid, -⟩ | ⟨-, hname⟩)
        · exact absurd hid (hnone id)
        · exact hname.symm

theorem add_eq_ok_iff :
  q.add r a block = .ok q'
    ↔ ∃ commands, (block.requiredNames "command").mapM a.resolve = .ok commands
      ∧ q' = ⟨q.types.insertAll ((block.requiredNames "type").map (typeName r)),
        q.commands.insertAll commands⟩
  := by
  rw [add, Outcome.bind_eq_ok_iff]
  apply exists_congr
  intro commands
  rw [Outcome.pure_eq_ok_iff]
  apply and_congr_right'
  apply eq_comm

/-- One more block adds the names that its required types go by. -/
theorem mem_types_of_add (h : q.add r a block = .ok q') :
  name ∈ q'.types ↔ name ∈ q.types ∨ ∃ raw, block.Requires "type" raw ∧ GoesBy r raw name
  := by
  obtain ⟨commands, -, rfl⟩ := add_eq_ok_iff.mp h
  simp only [NameSet.mem_insertAll, List.mem_map, Block.mem_requiredNames_iff, typeName_eq_iff]
  apply or_comm

/-- One more block adds the commands that its required commands lead to. -/
theorem mem_commands_of_add (h : q.add r a block = .ok q') :
  name ∈ q'.commands
    ↔ name ∈ q.commands
      ∨ ∃ raw, block.Requires "command" raw ∧ Chain.Ends a.targets.get? raw name
  := by
  obtain ⟨commands, hcommands, rfl⟩ := add_eq_ok_iff.mp h
  simp only [NameSet.mem_insertAll, Outcome.mem_of_mapM_eq_ok hcommands,
    Block.mem_requiredNames_iff, CommandAliases.resolve_eq_ok_iff]
  apply or_comm

/-- One more block can be added unless it requires a command whose chain of aliases
returns. -/
theorem exists_add_eq_ok_iff :
  (∃ q', q.add r a block = .ok q')
    ↔ ∀ raw, block.Requires "command" raw → ¬Chain.Returns a.targets.get? raw
  := by
  have hadd : (∃ q', q.add r a block = .ok q')
      ↔ ∃ commands, (block.requiredNames "command").mapM a.resolve = .ok commands := by
    simp only [add_eq_ok_iff]
    constructor
    · rintro ⟨_, commands, hcommands, -⟩
      use commands
    · rintro ⟨commands, hcommands⟩
      exact ⟨_, commands, hcommands, rfl⟩
  rw [hadd, Outcome.exists_mapM_eq_ok_iff]
  simp only [Block.mem_requiredNames_iff, CommandAliases.exists_resolve_eq_ok_iff]

end Requirements

end NativeApi
