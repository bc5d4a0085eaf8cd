import NativeApi.Element.Basic
import NativeApi.Json.Reader

/-!
# Elements as data trees

An element is written as an object with its name, its attributes and its children, of
which the last two are left out where there are none.  A reader also takes the three in a
row, as an array, and passes over fields of other names.
-/

namespace NativeApi.Element

/-! ### Writing -/

mutual

/-- An element as a tree. -/
def toJson (e : Element) : Json :=
  match e with
  | ⟨name, attributes, children⟩ =>
    .object (("name", .string name)
      :: (if attributes.isEmpty then []
          else [("attributes",
            .object (attributes.entries.map fun entry => (entry.1, .string entry.2)))])
      ++ (if children.isEmpty then [] else [("children", .array (nodesToJson children))]))

/-- A child as a tree. -/
def nodeToJson : Node → Json
  | .text run => .string run
  | .element child => toJson child

/-- Some children as trees. -/
def nodesToJson : List Node → List Json
  | [] => []
  | node :: nodes => nodeToJson node :: nodesToJson nodes

end

/-! ### Reading -/

/-- The attributes that a tree lists. -/
def attributesOfJson? : Json → Option (Dict String)
  | .object fields =>
    (fields.mapM fun field : String × Json => field.2.string?.map (field.1, ·)).map
      Dict.ofList
  | _ => none

/-- The number of fields of a name. -/
def countField (name : String) (fields : List (String × Json)) : Nat :=
  (fields.filter (·.1 == name)).length

/-- Whether none of the three fields of an element stands twice. -/
def hasDistinctFields (fields : List (String × Json)) : Bool :=
  ["name", "attributes", "children"].all fun name => countField name fields ≤ 1

mutual

/-- The element of a tree, if it is one. -/
def ofJson? : Json → Option Element
  | .object fields =>
    if hasDistinctFields fields then
      match nameOf fields, attributesOf fields, childrenOf fields with
      | some name, some attributes, some children => some ⟨name, attributes, children⟩
      | _, _, _ => none
    else none
  | .array [.string name] => some ⟨name, .empty, []⟩
  | .array [.string name, attributes] =>
    (attributesOfJson? attributes).map fun attributes => ⟨name, attributes, []⟩
  | .array [.string name, attributes, .array items] =>
    match attributesOfJson? attributes, nodesOfJson? items with
    | some attributes, some children => some ⟨name, attributes, children⟩
    | _, _ => none
  | _ => none

/-- The name among the fields of an element. -/
def nameOf : List (String × Json) → Option String
  | [] => none
  | (key, value) :: fields => if key = "name" then value.string? else nameOf fields

/-- The attributes among the fields of an element, of which there may be none. -/
def attributesOf : List (String × Json) → Option (Dict String)
  | [] => some .empty
  | (key, value) :: fields =>
    if key = "attributes" then attributesOfJson? value else attributesOf fields

/-- The children among the fields of an element, of which there may be none. -/
def childrenOf : List (String × Json) → Option (List Node)
  | [] => some []
  | (key, value) :: fields =>
    if key = "children" then
      match value with
      | .array items => nodesOfJson? items
      | _ => none
    else childrenOf fields

/-- The children that some trees describe: a string is a run of text. -/
def nodesOfJson? : List Json → Option (List Node)
  | [] => some []
  | .string run :: items => (nodesOfJson? items).map (.text run :: ·)
  | item :: items =>
    match ofJson? item, nodesOfJson? items with
    | some child, some nodes => some (.element child :: nodes)
    | _, _ => none

end

/-- The fields of an element; a text may hold others, which are passed over. -/
def isField (name : String) : Bool := ["name", "attributes", "children"].contains name

/-- The element that a text describes. -/
def read? (text : String) : Option Element :=
  (Json.readIgnoring? (fun name => !isField name) text).bind ofJson?

end NativeApi.Element
