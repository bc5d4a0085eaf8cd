import NativeApi.Document
import NativeApi.Options.Basic
import NativeApi.Registry.Basic
import NativeApi.Text.Affix

/-!
# Stale table entries

An entry of a table of the options is stale where it matches nothing in the registry and
the document.  Stale entries are counted, or the first one is an error.
-/

namespace NativeApi.Options

/-- The name of a command without the beginning of command names. -/
def publicCommand (o : Options) (raw : String) : String :=
  (Text.after? o.commandPrefix raw).getD raw

/-- The entries of a table that match nothing, with the name of the table. -/
def unmatched (table : String) (isKnown : String → Bool) (entries : List String) :
    List (String × String) :=
  (entries.filter (!isKnown ·)).map (table, ·)

/-- The stale entries of the tables, table by table. -/
def staleEntries (o : Options) (r : Registry) (d : Document) : List (String × String) :=
  let commands := d.commandNames
  let enumerations := r.enumerations.map (·.1.name)
  let members := r.composites.flatMap fun entry => entry.2.members.map (·.name)
  unmatched "denied_types" (fun name => (r.lookup? name).isSome) o.deniedTypes
    ++ unmatched "member_rewrites" enumerations.contains o.memberRewrites.keys
    ++ unmatched "field_counters" members.contains o.fieldCounters.keys
    ++ unmatched "disabled_commands" commands.contains o.disabledCommands
    ++ unmatched "handwritten_commands" commands.contains o.handwrittenCommands
    ++ unmatched "ignored_simplified_commands" (commands.map o.publicCommand).contains
        o.ignoredSimplifiedCommands
    ++ unmatched "disabled_extensions" (fun name => (d.extension? name).isSome)
        o.disabledExtensions

/-- The number of stale entries, or the first one where tables are strict. -/
def validateTables (o : Options) (r : Registry) (d : Document) : Except Error Nat := do
  let stale := o.staleEntries r d
  stale.forM fun (table, entry) => o.reportStale table entry
  return stale.length

end NativeApi.Options
