import Mathlib.Tactic.Use
import NativeApi.Element.Json

/-!
# Elements read back

An element is written as an object without fields for attributes or children that it does not
have, while a reader takes these fields in any order, among others, and arrays as well.  Main
statement: every element is read back from the tree that it is written as; so what was read
from any tree can be written and read again.
-/

namespace NativeApi.Element

/-! ### Attributes -/

/-- Attributes are read back, each under its name. -/
theorem attributesOfJson?_ofDict (attributes : Dict String) :
  attributesOfJson? (.ofDict .string attributes) = some attributes
  := by
  have hentries (entries : List (String × String)) :
      (entries.map fun entry => (entry.1, Json.string entry.2)).mapM
        (fun field : String × Json => field.2.string?.map (field.1, ·)) = some entries := by
    induction entries with
    | nil => rfl
    | cons entry entries ih =>
        rw [List.map_cons, List.mapM_cons, ih]
        rfl
  rw [Json.ofDict, attributesOfJson?, hentries, Option.map_some, Dict.ofList_entries]

/-! ### Fields -/

/-- The attributes as a field, which is left out where there are none. -/
def attributesField (e : Element) : Option Json :=
  if e.attributes.isEmpty then none else some (.ofDict .string e.attributes)

/-- The children as a field, which is left out where there are none. -/
def childrenField (e : Element) : Option Json :=
  if e.children.isEmpty then none else some (.array (e.children.map nodeToJson))

/-- The field of a name, and those of attributes and children where they are given. -/
def fieldsOf (name : String) (attributes children : Option Json) : List (String × Json) :=
  ("name", .string name)
    :: (attributes.toList.map fun tree => ("attributes", tree))
    ++ children.toList.map fun tree => ("children", tree)

theorem nodesToJson_eq_map (nodes : List Node) :
  nodesToJson nodes = nodes.map nodeToJson
  := by
  induction nodes with
  | nil => rfl
  | cons node nodes ih => rw [nodesToJson, ih, List.map_cons]

theorem toJson_eq (e : Element) :
  e.toJson = .object (fieldsOf e.name e.attributesField e.childrenField)
  := by
  obtain ⟨name, attributes, children⟩ := e
  rw [toJson, fieldsOf, attributesField, childrenField, nodesToJson_eq_map]
  congr 3
  · split <;> rfl
  · split <;> rfl

section

variable (name : String) (attributes children : Option Json)

theorem hasDistinctFields_fieldsOf :
  hasDistinctFields (fieldsOf name attributes children) = true
  := by
  cases attributes <;> cases children <;> rfl

/-- Attributes that are not given are none. -/
theorem attributesOf_fieldsOf :
  attributesOf (fieldsOf name attributes children)
    = attributes.elim (some .empty) attributesOfJson?
  := by
  cases attributes <;> cases children <;> rfl

/-- Children that are not given are none. -/
theorem childrenOf_fieldsOf (items : Option (List Json)) :
  childrenOf (fieldsOf name attributes (items.map .array)) = items.elim (some []) nodesOfJson?
  := by
  cases attributes <;> cases items <;> rfl

end

/-- An element is read back if its children are. -/
theorem ofJson?_toJson_of_children {e : Element}
    (hchildren : nodesOfJson? (nodesToJson e.children) = some e.children) :
  ofJson? e.toJson = some e
  := by
  have hattributes : e.attributesField.elim (some .empty) attributesOfJson?
      = some e.attributes := by
    rw [attributesField]
    split
    · rename_i hempty
      have hentries : e.attributes.entries = [] := List.isEmpty_iff.mp hempty
      rw [← Dict.ofList_entries e.attributes, hentries]
      rfl
    · apply attributesOfJson?_ofDict
  have hfield : e.childrenField
      = (if e.children.isEmpty then none else some (nodesToJson e.children)).map .array := by
    rw [childrenField, nodesToJson_eq_map]
    split <;> rfl
  rw [toJson_eq, ofJson?, if_pos (hasDistinctFields_fieldsOf _ _ _), attributesOf_fieldsOf,
    hattributes, hfield, childrenOf_fieldsOf]
  obtain ⟨name, attributes, children⟩ := e
  cases children with
  | nil => rfl
  | cons node nodes =>
      simp only [List.isEmpty_cons, Bool.false_eq_true, if_false, Option.elim_some, hchildren]
      rfl

/-! ### Whole trees -/

mutual

/-- An element is read back from the tree that it is written as. -/
theorem ofJson?_toJson : (e : Element) → ofJson? e.toJson = some e
  | ⟨_, _, children⟩ => ofJson?_toJson_of_children (nodesOfJson?_nodesToJson children)

/-- Children are read back in order, runs of text as such and elements as such. -/
theorem nodesOfJson?_nodesToJson :
    (nodes : List Node) → nodesOfJson? (nodesToJson nodes) = some nodes
  | [] => rfl
  | .text run :: nodes => by
    rw [nodesToJson, nodeToJson, nodesOfJson?, nodesOfJson?_nodesToJson nodes]
    rfl
  | .element child :: nodes => by
    have hchild := ofJson?_toJson child
    rw [toJson_eq] at hchild
    -- an object is no string, so it is read as an element
    rw [nodesToJson, nodeToJson, toJson_eq, nodesOfJson?, hchild, nodesOfJson?_nodesToJson nodes]
    rintro run ⟨⟩

end

/-- A tree that holds an element: its name, its attributes and its children, of which the
last two are left out where there are none. -/
structure Holds (tree : Json) (e : Element) : Prop where
  name : tree.field? "name" = some (.string e.name)
  attributes : tree.field? "attributes"
    = if e.attributes.isEmpty then none else some (.ofDict .string e.attributes)
  children : tree.field? "children"
    = if e.children.isEmpty then none else some (.array (e.children.map nodeToJson))

theorem holds_toJson (e : Element) :
  Holds e.toJson e
  := by
  rw [toJson_eq]
  constructor
  · cases e.attributesField <;> cases e.childrenField <;> rfl
  · change _ = e.attributesField
    cases e.attributesField <;> cases e.childrenField <;> rfl
  · change _ = e.childrenField
    cases e.attributesField <;> cases e.childrenField <;> rfl

/-- Every element is read back from the tree that it is written as, and so is an element that
was read from any other tree. -/
theorem reading_undoes_writing :
  (∀ e : Element, Holds e.toJson e ∧ ofJson? e.toJson = some e)
    ∧ ∀ (tree : Json) (e : Element), ofJson? tree = some e → ofJson? e.toJson = ofJson? tree
  := by
  constructor
  · intro e
    use holds_toJson e, ofJson?_toJson e
  · intro tree e htree
    rw [htree, ofJson?_toJson]

/-- An array of a name, of attributes with a repeated one, and of an empty run and an element
with an unknown field. -/
def looseTree : Json :=
  .array [.string "member",
    .object [("optional", .string "false"), ("optional", .string "true")],
    .array [.string "", .object [("children", .array []), ("comment", .null),
      ("name", .string "type")]]]

theorem reading_undoes_writing_looseTree :
  ∃ e, ofJson? looseTree = some e
    ∧ e.children = [.text "", .element (.named "type")]
    ∧ ofJson? e.toJson = ofJson? looseTree
    ∧ e.toJson ≠ looseTree
  := by
  have hread : ofJson? looseTree
      = some ⟨"member", .ofList [("optional", "true")], [.text "", .element (.named "type")]⟩ := rfl
  refine ⟨_, hread, rfl, reading_undoes_writing.2 _ _ hread, ?_⟩
  rw [toJson_eq, looseTree]
  rintro ⟨⟩

end NativeApi.Element
