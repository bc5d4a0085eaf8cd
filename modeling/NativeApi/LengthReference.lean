import NativeApi.Text.Affix
import NativeApi.Text.Blank

/-!
# Length references

The length of an array is given by the name of a parameter or member, or by a path of
names below one, joined by `->` or `::`.  Parameters read it with `LengthReference.parse`,
which turns double colons into arrows and cuts the text at these; members only need
`LengthReference.head`, the name before the first arrow and then before the first double
colon.  `pieces` and `headChars` go through a text once instead, and `parse_eq` and
`head_eq` say that this is the same; `head?_pieces` says that both begin alike.
-/

namespace NativeApi

/-- Where the length of an array comes from. -/
inductive LengthReference where
  | parameter (name : String)
  | field (parameter : String) (path : List String)
  deriving DecidableEq

namespace LengthReference

/-! ### Reading a reference -/

/-- The reference of the texts between the marks; empty pieces of a path do not count. -/
def ofPieces : List (List Char) → LengthReference
  | [] => parameter ""
  | first :: rest =>
    let name := String.ofList (Text.trimChars first)
    match (rest.map Text.trimChars).filter (!·.isEmpty) with
    | [] => parameter name
    | path => field name (path.map .ofList)

/-- The reference that a text spells. -/
def parse (text : String) : LengthReference :=
  ofPieces (Text.splitAtPair '-' '>' (Text.replacePair ':' ':' ['-', '>'] text.toList))

/-- The name that a reference begins with. -/
def parameterName : LengthReference → String
  | parameter name => name
  | field name _ => name

/-- Whether a reference is a name alone. -/
def isDirect : LengthReference → Bool
  | parameter _ => true
  | field .. => false

/-- The name at the beginning of a text. -/
def head (text : String) : String :=
  let beforeArrow := (Text.splitAtPair '-' '>' text.toList).headD []
  let beforeColons := (Text.splitAtPair ':' ':' beforeArrow).headD []
  .ofList (Text.trimChars beforeColons)

/-! ### Reading it once -/

/-- The pieces of a text between the arrows and double colons. -/
def pieces : List Char → List (List Char)
  | [] => [[]]
  | '-' :: '>' :: cs => [] :: pieces cs
  | ':' :: ':' :: cs => [] :: pieces cs
  | c :: cs =>
    match pieces cs with
    | [] => [[c]]
    | piece :: rest => (c :: piece) :: rest

/-- The characters before the first arrow or double colon. -/
def headChars : List Char → List Char
  | [] => []
  | '-' :: '>' :: _ => []
  | ':' :: ':' :: _ => []
  | c :: cs => c :: headChars cs

theorem head?_pieces (cs : List Char) :
  (pieces cs).head? = some (headChars cs)
  := by
  fun_induction pieces cs with
  | case1 => rfl
  | case2 => rfl
  | case3 => rfl
  | case4 c cs h h' none ih => simp [none] at ih
  | case5 c cs h h' piece rest some ih =>
    simp only [some, List.head?_cons, Option.some.injEq] at ih ⊢
    rw [headChars, ih] <;> assumption

theorem pieces_ne_nil (cs : List Char) :
  pieces cs ≠ []
  := by
  intro h
  have := head?_pieces cs
  rw [h] at this
  cases this

/-- What is no mark at the beginning of a text is not the first character of one. -/
theorem not_mark {a b c : Char} {cs : List Char} (h : ∀ cs', c = a → cs = b :: cs' → False) :
  ¬(c = a ∧ cs.head? = some b)
  := by
  rintro ⟨hc, hhead⟩
  obtain ⟨cs', hcs⟩ := List.head?_eq_some_iff.1 hhead
  exact h cs' hc hcs

/-- The replacement brings no `>` to the beginning of a text. -/
theorem head?_replacePair {cs : List Char}
    (h : (Text.replacePair ':' ':' ['-', '>'] cs).head? = some '>') :
  cs.head? = some '>'
  := by
  fun_cases Text.replacePair ':' ':' ['-', '>'] cs with
  | case1 => exact h
  | case2 c => exact h
  | case3 c d cs mark =>
    rw [Text.replacePair, if_pos mark] at h
    cases h
  | case4 c d cs other =>
    rw [Text.replacePair, if_neg other] at h
    exact h

theorem splitAtPair_replacePair (cs : List Char) :
  Text.splitAtPair '-' '>' (Text.replacePair ':' ':' ['-', '>'] cs) = pieces cs
  := by
  fun_induction pieces cs with
  | case1 => rfl
  | case2 cs ih =>
    rw [Text.replacePair_cons (by simp), Text.replacePair_cons (by simp), Text.splitAtPair,
      if_pos ⟨rfl, rfl⟩, ih]
  | case3 cs ih =>
    rw [Text.replacePair, if_pos ⟨rfl, rfl⟩, List.cons_append, List.cons_append,
      List.nil_append, Text.splitAtPair, if_pos ⟨rfl, rfl⟩, ih]
  | case4 c cs _ _ hnil _ => exact absurd hnil (pieces_ne_nil cs)
  | case5 c cs harrow hcolons piece rest hpieces ih =>
    rw [Text.replacePair_cons (not_mark hcolons), Text.splitAtPair_cons, ih, hpieces,
      List.modifyHead_cons]
    rintro ⟨hc, hhead⟩
    exact not_mark harrow ⟨hc, head?_replacePair hhead⟩

/-- Replacing and cutting gives the pieces between the marks. -/
theorem parse_eq (text : String) :
  parse text = ofPieces (pieces text.toList)
  := by
  rw [parse, splitAtPair_replacePair]

theorem headD_splitAtPair (cs : List Char) :
  (Text.splitAtPair ':' ':' ((Text.splitAtPair '-' '>' cs).headD [])).headD [] = headChars cs
  := by
  fun_induction headChars cs with
  | case1 => rfl
  | case2 cs =>
    rw [Text.splitAtPair, if_pos ⟨rfl, rfl⟩]
    rfl
  | case3 cs =>
    rw [Text.headD_splitAtPair_cons (a := '-') (by simp),
      Text.headD_splitAtPair_cons (a := '-') (by simp), Text.splitAtPair, if_pos ⟨rfl, rfl⟩,
      List.headD_cons]
  | case4 c cs harrow hcolons ih =>
    rw [Text.headD_splitAtPair_cons (not_mark harrow), Text.headD_splitAtPair_cons, ih]
    rintro ⟨hc, hhead⟩
    exact not_mark hcolons ⟨hc, Text.head?_of_headD_splitAtPair hhead⟩

/-- Cutting at arrows and then at double colons finds the beginning. -/
theorem head_eq (text : String) :
  head text = .ofList (Text.trimChars (headChars text.toList))
  := by
  rw [head, headD_splitAtPair]

end LengthReference

end NativeApi
