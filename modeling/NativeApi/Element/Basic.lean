import NativeApi.Dict

/-!
# Attributed trees

The description of an interface is a tree of named elements with attributes, whose
children are elements and runs of text in between.
-/

namespace NativeApi

mutual

/-- A named element with its attributes and its children in order. -/
structure Element where
  name : String
  attributes : Dict String
  children : List Node

/-- A child of an element: a run of text or an element. -/
inductive Node where
  | text (run : String)
  | element (child : Element)

end

namespace Element

/-! ### Building -/

/-- An element without attributes and children. -/
def named (name : String) : Element := ⟨name, .empty, []⟩

/-- The element with an attribute set. -/
def withAttribute (e : Element) (name value : String) : Element :=
  ⟨e.name, e.attributes.insert name value, e.children⟩

/-- The element with one more child at the end. -/
def withNode (e : Element) (node : Node) : Element :=
  ⟨e.name, e.attributes, e.children ++ [node]⟩

/-- The element with one more child element. -/
def withChild (e child : Element) : Element := e.withNode (.element child)

/-- The element with one more run of text. -/
def withText (e : Element) (run : String) : Element := e.withNode (.text run)

/-- The element with one more child element that holds a run of text. -/
def withTextChild (e : Element) (name run : String) : Element :=
  e.withChild ((named name).withText run)

/-! ### Children and attributes -/

/-- The value of an attribute. -/
def attribute? (e : Element) (name : String) : Option String := e.attributes.get? name

/-- The child elements among some nodes. -/
def elementsOf (nodes : List Node) : List Element :=
  nodes.filterMap fun
    | .element child => some child
    | .text _ => none

/-- The child elements in order. -/
def childElements (e : Element) : List Element := elementsOf e.children

/-- The child elements of a name in order. -/
def elements (e : Element) (name : String) : List Element :=
  e.childElements.filter (·.name == name)

/-- The first child element of a name. -/
def element? (e : Element) (name : String) : Option Element :=
  e.childElements.find? (·.name == name)

theorem head?_elements (e : Element) (name : String) :
  (e.elements name).head? = e.element? name
  := List.head?_filter

/-! ### Text -/

/-- The runs of text directly among some nodes, joined. -/
def runsOf : List Node → String
  | [] => ""
  | .text run :: nodes => run ++ runsOf nodes
  | .element _ :: nodes => runsOf nodes

/-- The runs of text directly inside the element, joined. -/
def ownText (e : Element) : String := runsOf e.children

mutual

/-- All runs of text at any depth inside the element, joined. -/
def text (e : Element) : String :=
  match e with
  | ⟨_, _, children⟩ => textOf children

/-- All runs of text at any depth of a child, joined. -/
def nodeText : Node → String
  | .text run => run
  | .element child => text child

/-- All runs of text at any depth of some children, joined. -/
def textOf : List Node → String
  | [] => ""
  | node :: nodes => nodeText node ++ textOf nodes

end

/-- The text of the first child element of a name. -/
def childText? (e : Element) (name : String) : Option String :=
  (e.element? name).map text

/-- The name that a declaration gives itself: its attribute, or else the text of its
child. -/
def declaredName? (e : Element) : Option String :=
  (e.attribute? "name").or (e.childText? "name")

end Element

end NativeApi
