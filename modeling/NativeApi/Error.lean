/-!
# Errors

`Error` lists what can go wrong, `Error.message` words it, and `Error.severity` says how
grave it is.
-/

namespace NativeApi

/-- The causes of failure. -/
inductive Error where
  | malformedInput (context problem : String)
  | unreadable (context : String)
  | unknownReference (kind name context : String)
  | aliasCycle (name : String)
  | unrecognizedConstruct (construct owner : String)
  | unmappedBasicType (name : String)
  | staleTable (table entry : String)
  | argumentMismatch (shape reason : String)
  | serialization (what problem : String)
  | nativeStatus (command : String) (code : Int) (status : Option String)
  deriving DecidableEq, Inhabited

/-- How grave an error is. -/
inductive Severity where
  | fatal
  | recoverable
  | warning
  deriving DecidableEq

namespace Error

/-- The wording of an error. -/
def message : Error → String
  | malformedInput context problem => "Malformed input in " ++ context ++ ": " ++ problem
  | unreadable context => "Malformed input in " ++ context ++ ": unreadable text"
  | unknownReference kind name context =>
    "Unknown " ++ kind ++ " '" ++ name ++ "' referenced from " ++ context
  | aliasCycle name => "Alias cycle detected while resolving '" ++ name ++ "'"
  | unrecognizedConstruct construct owner => "Unrecognized " ++ construct ++ " in " ++ owner
  | unmappedBasicType name => "Mapping for the basic type " ++ name ++ " isn't supported"
  | staleTable table entry => "Stale entry '" ++ entry ++ "' in table " ++ table
  | argumentMismatch shape reason => "Argument mismatch for " ++ shape ++ ": " ++ reason
  | serialization what problem => "Failed to serialize " ++ what ++ ": " ++ problem
  | nativeStatus command code status =>
    command ++ " failed with status " ++ toString code
      ++ match status with
        | some name => " (" ++ name ++ ")"
        | none => ""

/-- A failing status of a native call may be recovered from, a call with unfit arguments
never happened, and every other error ends the run. -/
def severity : Error → Severity
  | nativeStatus .. => .recoverable
  | argumentMismatch .. => .warning
  | _ => .fatal

/-- The status code of a failed native call. -/
def statusCode? : Error → Option Int
  | nativeStatus _ code _ => some code
  | _ => none

end Error

end NativeApi
