import NativeApi.Dict
import NativeApi.Error
import NativeApi.Width

/-!
# Options

The rules of naming and the tables of special cases that steer an analysis.
-/

namespace NativeApi

/-- The options of an analysis. -/
structure Options where
  /-- The first segment that is dropped from names. -/
  globalPrefix : String
  /-- The beginning that is dropped from the names of types. -/
  typePrefix : String
  /-- The beginning that is dropped from the names of commands. -/
  commandPrefix : String
  /-- The type of status codes. -/
  statusType : String
  /-- The member of a status enumeration that stands for success. -/
  successMember : String
  /-- The fixed spelling of segments. -/
  acronyms : Dict String
  /-- The widths of the basic types whose names end in `_t`. -/
  basicTypes : Dict Width
  /-- The widths of the types of the language. -/
  builtinTypes : Dict Width
  /-- The widths of platform types. -/
  foreignTypes : Dict Width
  /-- The canonical names of platform structures. -/
  foreignStructs : Dict String
  /-- What is put before enumeration members that would not begin with a letter, by
  enumeration. -/
  memberRewrites : Dict String
  /-- The members that count the elements of array members. -/
  fieldCounters : Dict String
  /-- The types that the default scope hides. -/
  deniedTypes : List String
  /-- The commands that the default scope hides. -/
  disabledCommands : List String
  /-- The commands that are wrapped by hand. -/
  handwrittenCommands : List String
  /-- The extensions that are disabled in addition to those that say so. -/
  disabledExtensions : List String
  /-- The commands without a simplified call shape. -/
  ignoredSimplifiedCommands : List String
  /-- The types that may count elements. -/
  countTypes : List String
  /-- The types that never count elements. -/
  notLengthTypes : List String
  /-- The extensions of each target. -/
  targets : Dict (List String)
  /-- Whether a table entry without a match is an error. -/
  strictTables : Bool

namespace Options

/-- The options without targets. -/
def withoutTargets (o : Options) : Options := { o with targets := .empty }

/-- The options with one target set. -/
def withTarget (o : Options) (name : String) (extensions : List String) : Options :=
  { o with targets := o.targets.insert name extensions }

/-- Whether a type may count elements. -/
def isCountType (o : Options) (raw : String) : Bool :=
  o.countTypes.contains raw && !o.notLengthTypes.contains raw

/-- Accepts a table entry without a match, unless tables are strict. -/
def reportStale (o : Options) (table entry : String) : Except Error Unit :=
  if o.strictTables then .error (.staleTable table entry) else .ok ()

end Options

end NativeApi
