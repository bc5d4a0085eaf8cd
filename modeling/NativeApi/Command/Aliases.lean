import NativeApi.Document

/-!
# Command aliases

A command may stand for another one, by name.  Following aliases ends at a name that is no
alias, or comes back to one that has been passed before.
-/

namespace NativeApi

/-- The commands that stand for another one, with its name. -/
structure CommandAliases where
  targets : Dict String

namespace CommandAliases

/-- The command aliases of a document. -/
def ofDocument (d : Document) : CommandAliases := ⟨d.commandAliases⟩

/-- Whether a command stands for another one. -/
def isAlias (a : CommandAliases) (raw : String) : Bool := a.targets.contains raw

/-- Follows aliases from a name, where only the given ones have not been passed yet. -/
def follow (a : CommandAliases) (fresh : List String) (name : String) : Option String :=
  match a.targets.get? name with
  | none => some name
  | some target => if name ∈ fresh then follow a (fresh.erase name) target else none
termination_by fresh.length
decreasing_by
  have := List.length_erase_of_mem ‹name ∈ fresh›
  have := List.length_pos_of_mem ‹name ∈ fresh›
  omega

/-- The command that a name stands for. -/
def resolve (a : CommandAliases) (raw : String) : Except Error String :=
  match a.follow a.targets.keys raw with
  | some target => .ok target
  | none => .error (.aliasCycle raw)

/-- The command that a name stands for, or the name itself where it leads into a cycle. -/
def resolveOrSelf (a : CommandAliases) (raw : String) : String :=
  (a.follow a.targets.keys raw).getD raw

end CommandAliases

end NativeApi
