import Mathlib.Logic.Relation
import NativeApi.Proofs.Slots

/-!
# Runs of text

The text between the children of an element may come in any number of runs.  `Cuts` cuts one
run in two, or puts an empty one somewhere, at any depth, and elements are of the same text if
any number of cuts, made and undone, lead from one to the other.  Main statement: such elements
make the same declaration, and such commands have the same classification, or both fail for
the same reason.
-/

namespace NativeApi

namespace Element

/-! ### Cuts -/

/-- Some nodes, and the same with one run of text cut in two or one more empty run. -/
inductive Cuts : List Node → List Node → Prop where
  | run (first second : String) (nodes : List Node) :
    Cuts (.text (first ++ second) :: nodes) (.text first :: .text second :: nodes)
  | empty (nodes : List Node) :
    Cuts nodes (.text "" :: nodes)
  | after (node : Node) {nodes nodes' : List Node} (cuts : Cuts nodes nodes') :
    Cuts (node :: nodes) (node :: nodes')
  | inside (name : String) (attributes : Dict String) (nodes : List Node)
      {children children' : List Node} (cuts : Cuts children children') :
    Cuts (.element ⟨name, attributes, children⟩ :: nodes)
      (.element ⟨name, attributes, children'⟩ :: nodes)

/-- Nodes that any number of cuts, made and undone, lead from one to the other. -/
def SameNodes : List Node → List Node → Prop := Relation.EqvGen Cuts

/-- Elements that any number of cuts, made and undone, lead from one to the other. -/
structure SameText (e e' : Element) : Prop where
  name : e.name = e'.name
  attributes : e.attributes = e'.attributes
  children : SameNodes e.children e'.children

variable {nodes nodes' : List Node} {e e' : Element} {name : String}

theorem SameText.refl (e : Element) : e.SameText e := ⟨rfl, rfl, .refl _⟩

theorem SameText.symm (h : e.SameText e') : e'.SameText e :=
  ⟨h.name.symm, h.attributes.symm, .symm _ _ h.children⟩

theorem SameText.trans {e'' : Element} (h : e.SameText e') (h' : e'.SameText e'') :
  e.SameText e''
  := ⟨h.name.trans h'.name, h.attributes.trans h'.attributes, .trans _ _ _ h.children h'.children⟩

/-- A reader of nodes to which single cuts make no difference is one to which no number of them
does. -/
theorem sameNodes_of_cuts {f : List Node → List Node}
    (step : ∀ nodes nodes', Cuts nodes nodes' → SameNodes (f nodes) (f nodes'))
    (h : SameNodes nodes nodes') :
  SameNodes (f nodes) (f nodes')
  := by
  induction h with
  | rel nodes nodes' cuts => exact step nodes nodes' cuts
  | refl nodes => exact .refl _
  | symm nodes nodes' _ ih => exact .symm _ _ ih
  | trans nodes nodes' nodes'' _ _ ih ih' => exact .trans _ _ _ ih ih'

theorem SameNodes.after (node : Node) (h : SameNodes nodes nodes') :
  SameNodes (node :: nodes) (node :: nodes')
  := by
  apply sameNodes_of_cuts (f := (node :: ·)) _ h
  intro nodes nodes' cuts
  exact .rel _ _ (.after node cuts)

theorem SameNodes.inside (name : String) (attributes : Dict String) (nodes : List Node)
    {children children' : List Node} (h : SameNodes children children') :
  SameNodes (.element ⟨name, attributes, children⟩ :: nodes)
    (.element ⟨name, attributes, children'⟩ :: nodes)
  := by
  apply sameNodes_of_cuts (f := fun children => .element ⟨name, attributes, children⟩ :: nodes)
    _ h
  intro children children' cuts
  exact .rel _ _ (.inside name attributes nodes cuts)

/-! ### What nodes show -/

/-- What readers see of nodes: their text, the runs directly among them, and the elements. -/
structure ShowsSame (nodes nodes' : List Node) : Prop where
  text : textOf nodes = textOf nodes'
  runs : runsOf nodes = runsOf nodes'
  elements : List.Forall₂ SameText (elementsOf nodes) (elementsOf nodes')

theorem ShowsSame.refl (nodes : List Node) : ShowsSame nodes nodes :=
  ⟨rfl, rfl, List.forall₂_same.mpr fun e _ => SameText.refl e⟩

/-- One cut shows nothing. -/
theorem showsSame_of_cuts (h : Cuts nodes nodes') :
  ShowsSame nodes nodes'
  := by
  induction h with
  | run first second nodes =>
      constructor
      · simp only [textOf, nodeText, String.append_assoc]
      · simp only [runsOf, String.append_assoc]
      · exact (ShowsSame.refl nodes).elements
  | empty nodes =>
      constructor
      · rw [textOf, nodeText, String.empty_append]
      · rw [runsOf, String.empty_append]
      · exact (ShowsSame.refl nodes).elements
  | after node _ ih =>
      constructor
      · rw [textOf, textOf, ih.text]
      · cases node with
        | text run => rw [runsOf, runsOf, ih.runs]
        | element child => exact ih.runs
      · cases node with
        | text run => exact ih.elements
        | element child => exact .cons (SameText.refl child) ih.elements
  | inside name attributes nodes cuts ih =>
      constructor
      · simp only [textOf, nodeText, text, ih.text]
      · rfl
      · exact .cons ⟨rfl, rfl, .rel _ _ cuts⟩ (ShowsSame.refl nodes).elements

/-- Any number of cuts, made and undone, show nothing. -/
theorem SameNodes.showsSame (h : SameNodes nodes nodes') :
  ShowsSame nodes nodes'
  := by
  induction h with
  | rel nodes nodes' cuts => exact showsSame_of_cuts cuts
  | refl nodes => exact ShowsSame.refl nodes
  | symm nodes nodes' _ ih =>
      refine ⟨ih.text.symm, ih.runs.symm, ih.elements.flip.imp fun _ _ => SameText.symm⟩
  | trans nodes nodes' nodes'' _ _ ih ih' =>
      use ih.text.trans ih'.text, ih.runs.trans ih'.runs
      apply Outcome.forall₂_trans (R := SameText) _ ih.elements ih'.elements
      intro a b c
      exact SameText.trans

/-! ### Children -/

theorem SameText.text (h : e.SameText e') : e.text = e'.text := by
  obtain ⟨_, _, children⟩ := e
  obtain ⟨_, _, children'⟩ := e'
  exact h.children.showsSame.text

theorem SameText.ownText (h : e.SameText e') : e.ownText = e'.ownText := h.children.showsSame.runs

theorem SameText.attribute? (h : e.SameText e') (name : String) :
  e.attribute? name = e'.attribute? name
  := by
  rw [Element.attribute?, h.attributes]
  rfl

/-- The children of a name are of the same texts. -/
theorem SameText.elements (h : e.SameText e') (name : String) :
  List.Forall₂ SameText (e.elements name) (e'.elements name)
  := by
  apply List.rel_filter _ h.children.showsSame.elements
  intro child child' hchild
  simp only [hchild.name]

/-- There is a first child of a name exactly if there is one in the other, of the same text. -/
theorem SameText.element?_cases (h : e.SameText e') (name : String) :
  (e.element? name = none ∧ e'.element? name = none)
    ∨ ∃ child child', e.element? name = some child ∧ e'.element? name = some child'
      ∧ child.SameText child'
  := by
  have helements := h.elements name
  rw [← head?_elements, ← head?_elements]
  generalize e.elements name = children at helements ⊢
  generalize e'.elements name = children' at helements ⊢
  cases helements with
  | nil => exact .inl ⟨rfl, rfl⟩
  | cons hchild _ => exact .inr ⟨_, _, rfl, rfl, hchild⟩

theorem SameText.childText? (h : e.SameText e') (name : String) :
  e.childText? name = e'.childText? name
  := by
  rw [Element.childText?, Element.childText?]
  rcases h.element?_cases name with ⟨he, he'⟩ | ⟨child, child', he, he', hchild⟩
  · rw [he, he']
  · rw [he, he', Option.map_some, Option.map_some, hchild.text]

end Element

namespace Declarator

open Element (Cuts SameNodes sameNodes_of_cuts)

variable {nodes nodes' : List Node} {e e' : Element}

/-! ### Before the name and after the type -/

/-- A cut stands before the name, or else what stands there stays as it is. -/
theorem sameNodes_beforeName_of_cuts (h : Cuts nodes nodes') :
  SameNodes (beforeName nodes) (beforeName nodes')
  := by
  induction h with
  | run first second nodes =>
      rw [beforeName, beforeName, beforeName]
      exact .rel _ _ (.run first second _)
  | empty nodes =>
      rw [beforeName]
      exact .rel _ _ (.empty _)
  | after node _ ih =>
      cases node with
      | text run => exact ih.after _
      | element child =>
          rw [beforeName, beforeName]
          split
          · exact .refl _
          · exact ih.after _
  | inside name attributes nodes cuts _ =>
      rw [beforeName, beforeName]
      split
      · exact .refl _
      · exact .rel _ _ (.inside name attributes _ cuts)

/-- A cut stands after the type, or else what stands there stays as it is. -/
theorem sameNodes_afterType_of_cuts (h : Cuts nodes nodes') :
  SameNodes (afterType nodes) (afterType nodes')
  := by
  induction h with
  | run first second nodes => exact .refl _
  | empty nodes => exact .refl _
  | after node cuts ih =>
      cases node with
      | text run => exact ih
      | element child =>
          rw [afterType, afterType]
          split
          · exact .rel _ _ cuts
          · exact ih
  | inside name attributes nodes cuts _ => exact .refl _

theorem leadingText_of_sameText (h : e.SameText e') :
  leadingText e = leadingText e'
  := (sameNodes_of_cuts (fun _ _ => sameNodes_beforeName_of_cuts) h.children).showsSame.runs

theorem stars_of_sameText (h : e.SameText e') :
  stars e = stars e'
  := by
  have hbefore := sameNodes_of_cuts (fun _ _ => sameNodes_beforeName_of_cuts) h.children
  have hafter := sameNodes_of_cuts (fun _ _ => sameNodes_afterType_of_cuts) hbefore
  rw [stars, qualifiers, hafter.showsSame.runs, stars, qualifiers]

/-! ### Declarations -/

theorem fixedLengthOf_of_sameText (h : e.SameText e') (owner name : String)
    (constants : Dict Int) :
  fixedLengthOf e owner name constants = fixedLengthOf e' owner name constants
  := by
  rw [fixedLengthOf, h.childText?, h.ownText, fixedLengthOf]

/-- Elements of the same text make the same declaration, or fail alike. -/
theorem parse_of_sameText (h : e.SameText e') (owner : String) (constants : Dict Int) :
  parse e owner constants = parse e' owner constants
  := by
  unfold parse
  simp only [h.name, h.childText?, h.ownText, h.attribute?, stars_of_sameText h,
    leadingText_of_sameText h, fixedLengthOf_of_sameText h, isOptional]

end Declarator

namespace Classification

open Element (SameNodes)

variable {e e' : Element}

/-! ### Commands -/

theorem boundHandle?_of_sameText (h : e.SameText e') (r : Registry) :
  boundHandle? r e = boundHandle? r e'
  := by
  unfold boundHandle?
  rcases h.element?_cases "param" with ⟨he, he'⟩ | ⟨first, first', he, he', hfirst⟩
  · rw [he, he']
  · simp only [he, he', Option.bind_eq_bind, Option.bind_some, hfirst.childText?, hfirst.text]

theorem ofCommand_of_sameText (h : e.SameText e') (r : Registry) (owner : String)
    (isBound : Bool) :
  Parameter.ofCommand r e owner isBound = Parameter.ofCommand r e' owner isBound
  := by
  have hparse : (e.elements "param").mapM (Declarator.parse · owner r.constants)
      = (e'.elements "param").mapM (Declarator.parse · owner r.constants) := by
    apply Outcome.mapM_congr_of_forall₂
    apply (h.elements "param").imp
    intro child child' hchild
    apply Declarator.parse_of_sameText hchild
  rw [Parameter.ofCommand, hparse, Parameter.ofCommand]

theorem commandOf_of_sameText {proto proto' : Element} (hproto : proto.SameText proto')
    (h : e.SameText e') (s : Setting) (name : String) (isBound : Bool) :
  commandOf s e proto name isBound = commandOf s e' proto' name isBound
  := by
  unfold commandOf
  simp only [hproto.childText?, ofCommand_of_sameText h]

/-- Commands of the same text have the same classification, or fail alike. -/
theorem ofElement_of_sameText (h : e.SameText e') (s : Setting) :
  ofElement s e = ofElement s e'
  := by
  unfold ofElement
  rcases h.element?_cases "proto" with ⟨he, he'⟩ | ⟨proto, proto', he, he', hproto⟩
  · simp only [he, he', h.attribute?]
  · simp only [he, he', hproto.childText?, boundHandle?_of_sameText h,
      commandOf_of_sameText hproto h]

/-- Elements of the same text are read alike: as declarations, on behalf of whatever owner, and
as commands, in whatever setting. -/
theorem readsAlike_of_sameText (h : e.SameText e') :
  (∀ owner constants, Declarator.parse e owner constants = Declarator.parse e' owner constants)
    ∧ ∀ s, ofElement s e = ofElement s e'
  := by
  constructor
  · apply Declarator.parse_of_sameText h
  · apply ofElement_of_sameText h

/-- A command with a parameter in whole runs. -/
def wholeRuns : Element :=
  commandDeclaration "vkRead" [numberDeclaration "const " "* " "pValue" none]

/-- The same command with its qualifier and its type cut in two, and an empty run before the
star. -/
def cutRuns : Element :=
  commandDeclaration "vkRead" [
    ⟨"param", .empty, [.text "con", .text "st ",
      .element ⟨"type", .empty, [.text "uint32", .text "_t"]⟩, .text "", .text "* ",
      .element ((Element.named "name").withText "pValue")]⟩]

theorem readsAlike_of_sameText_cutRuns :
  wholeRuns.SameText cutRuns
    ∧ (∀ owner constants,
      Declarator.parse wholeRuns owner constants = Declarator.parse cutRuns owner constants)
    ∧ ∃ c, ofElement numberSetting wholeRuns = .ok (some c)
      ∧ ofElement numberSetting cutRuns = .ok (some c)
      ∧ c.command.parameters.map (fun p => (p.isPointer, p.isConst)) = [(true, true)]
  := by
  have same : wholeRuns.SameText cutRuns := by
    have hqualifier (nodes : List Node) :
        SameNodes (.text "const " :: nodes) (.text "con" :: .text "st " :: nodes) :=
      .rel _ _ (.run "con" "st " nodes)
    have htype (nodes : List Node) :
        SameNodes (.element ⟨"type", .empty, [.text "uint32_t"]⟩ :: nodes)
          (.element ⟨"type", .empty, [.text "uint32", .text "_t"]⟩ :: nodes) :=
      .inside "type" .empty nodes (.rel _ _ (.run "uint32" "_t" []))
    have hempty (nodes : List Node) : SameNodes nodes (.text "" :: nodes) :=
      .rel _ _ (.empty nodes)
    use rfl, rfl
    apply SameNodes.after
    apply SameNodes.inside "param" .empty []
    apply Relation.EqvGen.trans _ _ _ (hqualifier _)
    apply SameNodes.after
    apply SameNodes.after
    apply Relation.EqvGen.trans _ _ _ (htype _)
    apply SameNodes.after
    apply hempty
  have evaluated :
      (ofElement numberSetting wholeRuns).toOption.join.any (fun c =>
        c.command.parameters.map (fun p => (p.isPointer, p.isConst)) == [(true, true)])
        = true := by
    decide +kernel
  obtain ⟨c, hc, h⟩ := (Option.any_eq_true _ _).mp evaluated
  have accepted := Outcome.toOption_join_eq_some_iff.mp hc
  obtain ⟨hparse, hclassified⟩ := readsAlike_of_sameText same
  use same, hparse, c, accepted
  rw [← hclassified]
  use accepted, eq_of_beq h

end Classification

end NativeApi
