import NativeApi.Registration.BasicTypes
import NativeApi.Registration.Composites
import NativeApi.Registration.Enumerations
import NativeApi.Registration.Handles

/-!
# The registry of a document

The declarations of a document are registered by what they depend on: basic types and
constants, enumerations, handles, and then structures and unions.  In the end every alias
has to resolve.
-/

namespace NativeApi.Registry

/-- The registry of a document, or the first error in it. -/
def ofDocument (o : Options) (n : Naming) (d : Document) : Except Error Registry := do
  let r := { empty with platforms := platformsOf d }
  let r := registerForeignStructs o (registerBuiltins o r)
  let r ← d.types.foldlM (registerIncluded o n) r
  let r ← (d.typesOf "basetype").foldlM (registerBasetype o n) r
  let r ← (constantEntries d).foldlM registerConstant r
  let r ← registerEnumerations o n d r
  let r ← registerHandles n d r
  let r ← registerComposites o n d r
  r.checkAliases
  return r

end NativeApi.Registry
