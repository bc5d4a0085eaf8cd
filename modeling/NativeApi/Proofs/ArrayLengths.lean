import Mathlib.Algebra.BigOperators.Group.List.Basic
import Mathlib.Algebra.GroupWithZero.Basic
import Mathlib.Algebra.GroupWithZero.Nat
import NativeApi.Declarator
import NativeApi.Proofs.Numerals
import NativeApi.Proofs.Words

/-!
# Lengths of inline arrays

The dimensions of an inline array stand in brackets.  Each is a number in the text or a child
element that names a constant.  Main statement: the length that is kept is the first constant
among the dimensions, alone, and where there is none it is the product of the numbers.
-/

namespace NativeApi

namespace ArrayLength

/-- Whether a length is given by a constant. -/
def isConstant : ArrayLength → Bool
  | literal _ => false
  | constant _ _ => true

/-- The length that is kept of some dimensions. -/
def kept (dims : List ArrayLength) : ArrayLength :=
  (dims.find? isConstant).getD (.literal (dims.map count).prod)

/-- What is kept is the product of all dimensions exactly if the constant, where there is one,
is zero or the product of the others is one. -/
theorem count_kept_eq_iff {dims : List ArrayLength} :
  (kept dims).count = (dims.map count).prod
    ↔ ∀ constant, dims.find? isConstant = some constant →
      constant.count = 0 ∨ ((dims.erase constant).map count).prod = 1
  := by
  cases hfind : dims.find? isConstant with
  | none => simp [kept, hfind, count]
  | some constant =>
      have hperm := (List.perm_cons_erase (List.mem_of_find?_eq_some hfind)).map count
      rw [kept, hfind, Option.getD_some, hperm.prod_eq, List.map_cons, List.prod_cons, eq_comm,
        mul_right_eq_self₀, or_comm]
      simp only [Option.some.injEq, forall_eq']

end ArrayLength

namespace Declarator

/-! ### Dimensions -/

/-- What counts of the inside of a declaration: characters of its text, and the texts of the
elements that name constants. -/
inductive Mark where
  | char (c : Char)
  | constant (text : String)

namespace Mark

/-- The character of a mark that is one. -/
def char? : Mark → Option Char
  | char c => some c
  | constant _ => none

/-- The text of a mark that names a constant. -/
def constant? : Mark → Option String
  | char _ => none
  | constant text => some text

end Mark

/-- The marks of some nodes in order. -/
def marksOf : List Node → List Mark
  | [] => []
  | .text run :: nodes => run.toList.map .char ++ marksOf nodes
  | .element child :: nodes =>
    if child.name = "enum" then .constant child.text :: marksOf nodes else marksOf nodes

/-- A text that names a constant, of which the value is a length. -/
def Names (constants : Dict Int) (text : String) (dim : ArrayLength) : Prop :=
  ∃ value, constants.get? (Text.trim text) = some value ∧ 0 ≤ value
    ∧ dim = .constant (Text.trim text) value.toNat

/-- Marks that spell dimensions: each one stands in brackets, in the middle of white space.
There may be anything but brackets that open and constants in between. -/
inductive Spells (constants : Dict Int) : List Mark → List ArrayLength → Prop where
  | nil : Spells constants [] []
  | skip {c : Char} {marks : List Mark} {dims : List ArrayLength} :
      c ≠ '[' → Spells constants marks dims → Spells constants (.char c :: marks) dims
  | literal {left right : List Char} {zeros n : Nat} {marks : List Mark}
      {dims : List ArrayLength} :
      (∀ c ∈ left ++ right, Text.isBlank c = true) → Spells constants marks dims →
      Spells constants
        (('[' :: (left ++ (List.replicate zeros '0' ++ Nat.toDigits 10 n)
          ++ (right ++ [']']))).map .char ++ marks)
        (.literal n :: dims)
  | constant {left right : List Char} {text : String} {dim : ArrayLength} {marks : List Mark}
      {dims : List ArrayLength} :
      (∀ c ∈ left ++ right, Text.isBlank c = true) → Names constants text dim →
      Spells constants marks dims →
      Spells constants
        (('[' :: left).map .char ++ .constant text :: ((right ++ [']']).map .char ++ marks))
        (dim :: dims)

/-- A declaration with a type and a name, and with dimensions that are numbers of 64 bits, as
their product is. -/
structure Declares (e : Element) (constants : Dict Int) (dims : List ArrayLength) : Prop where
  hasType : (e.childText? "type").isSome = true
  hasName : (e.childText? "name").isSome = true
  spells : Spells constants (marksOf e.children) dims
  ne_nil : dims ≠ []
  fits : ∀ dim ∈ dims, dim.count < Text.bound64
  product_fits : (dims.map ArrayLength.count).prod < Text.bound64

/-! ### Marks -/

theorem filterMap_char?_map_char (cs : List Char) :
  (cs.map Mark.char).filterMap Mark.char? = cs
  := by
  rw [List.filterMap_map]
  exact List.filterMap_some

theorem filterMap_constant?_map_char (cs : List Char) :
  (cs.map Mark.char).filterMap Mark.constant? = []
  := by
  rw [List.filterMap_map]
  exact List.filterMap_none cs

theorem toList_runsOf (nodes : List Node) :
  (Element.runsOf nodes).toList = (marksOf nodes).filterMap Mark.char?
  := by
  fun_induction marksOf nodes with
  | case1 => rfl
  | case2 run nodes ih =>
      rw [Element.runsOf, String.toList_append, List.filterMap_append, filterMap_char?_map_char, ih]
  | case3 child nodes _ ih => rw [Element.runsOf, ih, List.filterMap_cons_none rfl]
  | case4 child nodes _ ih => rw [Element.runsOf, ih]

/-- The first element that names a constant is the first mark that does. -/
theorem childText?_enum (e : Element) :
  e.childText? "enum" = ((marksOf e.children).filterMap Mark.constant?).head?
  := by
  rw [Element.childText?, Element.element?, Element.childElements]
  induction e.children with
  | nil => rfl
  | cons node nodes ih =>
      cases node with
      | text run =>
          rw [marksOf, List.filterMap_append, filterMap_constant?_map_char]
          exact ih
      | element child =>
          rw [marksOf]
          by_cases h : child.name = "enum"
          · simp [Element.elementsOf, h, Mark.constant?]
          · simpa [Element.elementsOf, h] using ih

section

variable {constants : Dict Int} {marks : List Mark} {dims : List ArrayLength}

/-- The constants among the marks are those among the dimensions. -/
theorem Spells.names (spells : Spells constants marks dims) :
  List.Forall₂ (Names constants) (marks.filterMap Mark.constant?)
    (dims.filter ArrayLength.isConstant)
  := by
  induction spells with
  | nil => exact .nil
  | skip _ _ ih => exact ih
  | literal _ _ ih =>
      rw [List.filterMap_append, filterMap_constant?_map_char]
      exact ih
  | @constant left right text dim marks dims _ names _ ih =>
      have hmark : Mark.constant? (.constant text) = some text := rfl
      rw [List.filterMap_append, filterMap_constant?_map_char, List.nil_append,
        List.filterMap_cons_some hmark, List.filterMap_append, filterMap_constant?_map_char,
        List.nil_append]
      obtain ⟨value, hvalue, hpos, rfl⟩ := names
      exact .cons ⟨value, hvalue, hpos, rfl⟩ ih

/-- Where there is a dimension, there is a bracket that opens. -/
theorem Spells.bracket_mem (spells : Spells constants marks dims) (hne : dims ≠ []) :
  '[' ∈ marks.filterMap Mark.char?
  := by
  induction spells with
  | nil => cases hne rfl
  | skip _ _ ih => exact List.mem_cons_of_mem _ (ih hne)
  | literal => exact List.mem_cons_self
  | constant => exact List.mem_cons_self

end

/-! ### Numbers in brackets -/

/-- Text without a bracket that opens is passed over. -/
theorem lengthsIn_append {skipped rest : List Char} (h : '[' ∉ skipped) :
  lengthsIn (skipped ++ rest) = lengthsIn rest
  := by
  induction skipped with
  | nil => rfl
  | cons c skipped ih =>
      rw [List.mem_cons, not_or] at h
      rw [List.cons_append, lengthsIn, if_neg (Ne.symm h.1), ih h.2]

section

variable {left digits right rest : List Char}

/-- The digits of a number, in the middle of white space and before a bracket that closes. -/
theorem lengthDigits?_eq (hleft : ∀ c ∈ left, Text.isBlank c = true)
    (hright : ∀ c ∈ right, Text.isBlank c = true) (hne : digits ≠ [])
    (hdigits : ∀ c ∈ digits, c.isDigit = true) :
  lengthDigits? (left ++ (digits ++ (right ++ ']' :: rest))) = some digits
  := by
  have first : ∀ c ∈ (digits ++ (right ++ ']' :: rest)).head?, Text.isBlank c = false := by
    intro c hc
    rw [List.head?_append_of_ne_nil _ hne] at hc
    apply Text.isBlank_of_isDigit (hdigits c (List.mem_of_mem_head? hc))
  have next : ∀ c ∈ (right ++ ']' :: rest).head?, c.isDigit = false := by
    intro c hc
    cases right with
    | nil =>
        obtain rfl := Option.some.inj hc
        rfl
    | cons blank right =>
        obtain rfl := Option.some.inj hc
        apply Text.isDigit_of_isBlank (hright blank List.mem_cons_self)
  have last : ∀ c ∈ (']' :: rest).head?, Text.isBlank c = false := by
    rintro c ⟨⟩
    decide
  simp only [lengthDigits?, Text.dropWhile_append_eq hleft first,
    Text.takeWhile_append_eq hdigits next, Text.dropWhile_append_eq hdigits next,
    Text.dropWhile_append_eq hright last]
  rw [if_neg (by simpa using hne)]

/-- A number in brackets is found, and the search goes on behind it. -/
theorem lengthsIn_brackets (blank : ∀ c ∈ left ++ right, Text.isBlank c = true)
    (hne : digits ≠ []) (hdigits : ∀ c ∈ digits, c.isDigit = true) :
  lengthsIn ('[' :: (left ++ digits ++ (right ++ [']'])) ++ rest) = digits :: lengthsIn rest
  := by
  rw [List.forall_mem_append] at blank
  obtain ⟨hleft, hright⟩ := blank
  have hskip : '[' ∉ left ++ digits ++ (right ++ [']']) := by
    simp only [List.mem_append, not_or]
    refine ⟨⟨?_, ?_⟩, ?_, by decide⟩
    · intro h
      cases hleft _ h
    · intro h
      cases hdigits _ h
    · intro h
      cases hright _ h
  have hlength : lengthDigits? (left ++ digits ++ (right ++ [']']) ++ rest) = some digits := by
    simpa using lengthDigits?_eq hleft hright hne hdigits
  rw [List.cons_append, lengthsIn, if_pos rfl, hlength, lengthsIn_append hskip]

end

/-- Decimal digits of a number are digits, also with zeros in front. -/
theorem isDigit_of_mem_numeral {zeros n : Nat} {c : Char}
    (hc : c ∈ List.replicate zeros '0' ++ Nat.toDigits 10 n) :
  c.isDigit = true
  := by
  rcases List.mem_append.mp hc with hc | hc
  · rw [List.eq_of_mem_replicate hc]
    rfl
  · exact Nat.isDigit_of_mem_toDigits (by decide) (by decide) hc

/-- Dimensions that are all numbers are read from the text. -/
theorem Spells.dimensions {constants : Dict Int} {marks : List Mark} {dims : List ArrayLength}
    (spells : Spells constants marks dims) (literal : ∀ dim ∈ dims, dim.isConstant = false)
    (fits : ∀ dim ∈ dims, dim.count < Text.bound64) :
  (lengthsIn (marks.filterMap Mark.char?)).filterMap (Text.readNat? 10 Text.bound64)
    = dims.map ArrayLength.count
  := by
  induction spells with
  | nil => rfl
  | @skip c marks dims hc _ ih =>
      have hmark : Mark.char? (.char c) = some c := rfl
      rw [List.filterMap_cons_some hmark, lengthsIn, if_neg hc]
      exact ih literal fits
  | @literal left right zeros n marks dims blank _ ih =>
      rw [List.forall_mem_cons] at literal fits
      have hne : List.replicate zeros '0' ++ Nat.toDigits 10 n ≠ [] :=
        List.append_ne_nil_of_right_ne_nil _ Nat.toDigits_ne_nil
      have hread : Text.readNat? 10 Text.bound64
          (List.replicate zeros '0' ++ Nat.toDigits 10 n) = some n :=
        Text.readNat?_zeros_append_toDigits (by decide) (by decide) fits.1 zeros
      rw [List.filterMap_append, filterMap_char?_map_char,
        lengthsIn_brackets blank hne (fun c => isDigit_of_mem_numeral),
        List.filterMap_cons_some hread, ih literal.2 fits.2, List.map_cons, ArrayLength.count]
  | @constant left right text dim marks dims _ names _ _ =>
      obtain ⟨value, -, -, rfl⟩ := names
      cases literal _ List.mem_cons_self

/-! ### The length that is kept -/

/-- In 64 bits, a product wraps around once. -/
theorem product64_eq_mod (lengths : List Nat) :
  product64 lengths = lengths.prod % Text.bound64
  := by
  induction lengths with
  | nil => rfl
  | cons length lengths ih =>
      rw [product64, List.foldr_cons, ← product64, ih, Nat.mul_mod_mod, List.prod_cons]

section

variable {e : Element} {constants : Dict Int} {dims : List ArrayLength}

/-- A constant in the declaration is the length. -/
theorem fixedLengthOf_of_names {owner text name : String} {dim : ArrayLength}
    (htext : e.childText? "enum" = some text) (names : Names constants text dim) :
  fixedLengthOf e owner name constants = .ok dim
  := by
  obtain ⟨value, hvalue, hpos, rfl⟩ := names
  simp only [fixedLengthOf, htext, hvalue, if_pos hpos]

/-- The length of a declaration is the first constant or else the product. -/
theorem Declares.fixedLengthOf (declares : Declares e constants dims) (owner name : String) :
  Declarator.fixedLengthOf e owner name constants = .ok (.kept dims)
  := by
  have names := declares.spells.names
  rw [ArrayLength.kept, ← List.head?_filter]
  cases hconstants : dims.filter ArrayLength.isConstant with
  | nil =>
      rw [hconstants, List.forall₂_nil_right_iff] at names
      have noConstant : e.childText? "enum" = none := by
        rw [childText?_enum, names, List.head?_nil]
      have literal : ∀ dim ∈ dims, dim.isConstant = false := by
        simpa [List.filter_eq_nil_iff] using hconstants
      have hdims : dimensions e.ownText = dims.map ArrayLength.count := by
        rw [dimensions, Element.ownText, toList_runsOf]
        exact declares.spells.dimensions literal declares.fits
      obtain ⟨dim, later, rfl⟩ := List.exists_cons_of_ne_nil declares.ne_nil
      have hproduct : product64 ((dim :: later).map ArrayLength.count)
          = ((dim :: later).map ArrayLength.count).prod := by
        rw [product64_eq_mod, Nat.mod_eq_of_lt declares.product_fits]
      rw [List.map_cons] at hdims hproduct
      simp only [Declarator.fixedLengthOf, noConstant, hdims, hproduct, List.map_cons,
        List.head?_nil, Option.getD_none]
  | cons dim later =>
      rw [hconstants, List.forall₂_cons_right_iff] at names
      obtain ⟨text, texts, hnames, -, htexts⟩ := names
      rw [List.head?_cons, Option.getD_some]
      apply fixedLengthOf_of_names _ hnames
      rw [childText?_enum, htexts, List.head?_cons]

/-- A declaration of an inline array is accepted, with the length that is kept. -/
theorem Declares.exists_parse (declares : Declares e constants dims) (owner : String) :
  ∃ d, parse e owner constants = .ok d ∧ d.fixedLength = some (.kept dims)
  := by
  obtain ⟨rawType, htype⟩ := Option.isSome_iff_exists.mp declares.hasType
  obtain ⟨rawName, hname⟩ := Option.isSome_iff_exists.mp declares.hasName
  have hbracket : Text.contains "[" e.ownText = true := by
    apply Text.hasPart_singleton_iff.mpr
    rw [Element.ownText, toList_runsOf]
    exact declares.spells.bracket_mem declares.ne_nil
  simp only [parse, htype, hname, hbracket, if_true, declares.fixedLengthOf owner rawName]
  exact ⟨_, rfl, rfl⟩

/-- A declaration of an inline array keeps the first constant among its dimensions, or else
their product.  It is the product of all of them exactly if a constant, where there is one,
is zero or the product of the others is one. -/
theorem fixedLength_of_declares (declares : Declares e constants dims) (owner : String) :
  ∃ d, parse e owner constants = .ok d ∧ d.fixedLength = some (.kept dims)
    ∧ ((ArrayLength.kept dims).count = (dims.map ArrayLength.count).prod
      ↔ ∀ constant, dims.find? ArrayLength.isConstant = some constant →
        constant.count = 0 ∨ ((dims.erase constant).map ArrayLength.count).prod = 1)
  := by
  obtain ⟨d, hparse, hlength⟩ := declares.exists_parse owner
  use d, hparse, hlength
  exact ArrayLength.count_kept_eq_iff

end

/-- A matrix of which one dimension is a number and the other one is a constant. -/
def mixedMatrix : Element :=
  (Element.named "member").withTextChild "type" "float" |>.withText " "
    |>.withTextChild "name" "matrix" |>.withText "[3][" |>.withTextChild "enum" "VK_COUNT"
    |>.withText "]"

/-- A constant for one of its dimensions. -/
def mixedConstants : Dict Int := .ofList [("VK_COUNT", 4)]

/-- The dimensions of the matrix. -/
def mixedDimensions : List ArrayLength := [.literal 3, .constant "VK_COUNT" 4]

/-- The length of the matrix is one of its dimensions and not the product of both. -/
theorem fixedLength_of_declares_mixedMatrix :
  Declares mixedMatrix mixedConstants mixedDimensions
    ∧ (∃ d, parse mixedMatrix "Transform" mixedConstants = .ok d
      ∧ d.fixedLength = some (.constant "VK_COUNT" 4))
    ∧ (mixedDimensions.map ArrayLength.count).prod = 12
  := by
  have names : Names mixedConstants "VK_COUNT" (.constant "VK_COUNT" 4) := by
    use 4
    decide
  have constant := @Spells.constant mixedConstants [] [] _ _ _ _ (List.forall_mem_nil _) names .nil
  have declares : Declares mixedMatrix mixedConstants mixedDimensions :=
    { hasType := by decide
      hasName := by decide
      spells := .skip (by decide) (@Spells.literal _ [] [] 0 3 _ _ (List.forall_mem_nil _) constant)
      ne_nil := by decide
      fits := by decide
      product_fits := by decide }
  obtain ⟨d, hparse, hlength, -⟩ := fixedLength_of_declares declares "Transform"
  exact ⟨declares, ⟨d, hparse, hlength⟩, by decide⟩

end Declarator

end NativeApi
