import NativeApi.Command.Parameter
import NativeApi.Proofs.CompositeMembers
import NativeApi.Proofs.Words

/-!
# Paths of length references

A length is referred to by an identifier, or by a path of identifiers that are joined by
arrows and double colons, with white space around each.  Main statement: a reference is read
as the names that its text spells, in their order, and whatever the text, the members of a
composite and the parameters of a command look for the same name among their siblings.
-/

namespace NativeApi.LengthReference

/-! ### Texts of names -/

/-- A row of letters, digits and underscores that does not begin with a digit. -/
structure IsIdentifier (name : String) : Prop where
  begins : ∃ c ∈ name.toList.head?, c.isAlpha = true ∨ c = '_'
  chars : ∀ c ∈ name.toList, c.isAlphanum = true ∨ c = '_'

/-- An identifier with white space on either side, if any. -/
inductive Pads (name : String) : String → Prop where
  | intro {before after : String} :
    IsIdentifier name → (∀ c ∈ before.toList, Text.isBlank c = true) →
    (∀ c ∈ after.toList, Text.isBlank c = true) → Pads name (before ++ name ++ after)

/-- A name, with the path below it, is spelled by a text. -/
inductive Spells : String → List String → String → Prop where
  | name {name text : String} : Pads name text → Spells name [] text
  | path {name piece separator next text : String} {path : List String} :
    Pads name piece → separator = "->" ∨ separator = "::" → Spells next path text →
    Spells name (next :: path) (piece ++ separator ++ text)

/-- The reference of a name with the path below it. -/
def ofNames (name : String) (path : List String) : LengthReference :=
  if path.isEmpty then parameter name else field name path

variable {name text : String} {path : List String} {cs : List Char}

/-! ### Pieces of a text -/

/-- A character that begins no mark belongs to the first piece. -/
theorem pieces_cons {c : Char} (hc : c ≠ '-' ∧ c ≠ ':') (cs : List Char) :
  pieces (c :: cs) = (pieces cs).modifyHead (c :: ·)
  := by
  rw [pieces]
  · obtain ⟨piece, rest, hpieces⟩ := List.exists_cons_of_ne_nil (pieces_ne_nil cs)
    rw [hpieces, List.modifyHead_cons]
  · rintro _ rfl
    exact absurd rfl hc.1
  · rintro _ rfl
    exact absurd rfl hc.2

theorem pieces_append (hcs : ∀ c ∈ cs, c ≠ '-' ∧ c ≠ ':') (rest : List Char) :
  pieces (cs ++ rest) = (pieces rest).modifyHead (cs ++ ·)
  := by
  induction cs with
  | nil =>
      change pieces rest = (pieces rest).modifyHead id
      rw [List.modifyHead_id]
      rfl
  | cons c cs ih =>
      rw [List.forall_mem_cons] at hcs
      rw [List.cons_append, pieces_cons hcs.1, ih hcs.2, List.modifyHead_modifyHead]
      rfl

theorem pieces_eq_self (hcs : ∀ c ∈ cs, c ≠ '-' ∧ c ≠ ':') :
  pieces cs = [cs]
  := by
  have h := pieces_append hcs []
  rw [List.append_nil] at h
  rw [h]
  simp [pieces]

/-- A separator ends a piece. -/
theorem pieces_separator {separator : String} (h : separator = "->" ∨ separator = "::")
    (rest : List Char) :
  pieces (separator.toList ++ rest) = [] :: pieces rest
  := by
  rcases h with rfl | rfl
  · rfl
  · rfl

namespace IsIdentifier

variable (h : IsIdentifier name)
include h

theorem not_blank {c : Char} (hc : c ∈ name.toList) :
  Text.isBlank c = false
  := by
  rcases h.chars c hc with halphanum | rfl
  · apply Text.isBlank_of_isAlphanum halphanum
  · rfl

theorem ne_nil :
  name.toList ≠ []
  := by
  intro hnil
  obtain ⟨c, hc, -⟩ := h.begins
  rw [hnil] at hc
  cases hc

end IsIdentifier

namespace Pads

variable {piece : String} (h : Pads name piece)
include h

theorem chars :
  ∀ c ∈ piece.toList, Text.isBlank c = true ∨ c.isAlphanum = true ∨ c = '_'
  := by
  obtain ⟨hname, hbefore, hafter⟩ := h
  intro c hc
  rw [String.toList_append, String.toList_append, List.mem_append, List.mem_append] at hc
  rcases hc with (hc | hc) | hc
  · exact .inl (hbefore c hc)
  · exact .inr (hname.chars c hc)
  · exact .inl (hafter c hc)

/-- No mark begins inside of a piece. -/
theorem no_mark :
  ∀ c ∈ piece.toList, c ≠ '-' ∧ c ≠ ':'
  := by
  intro c hc
  have hchar := h.chars c hc
  constructor
  · rintro rfl
    exact absurd hchar (by decide)
  · rintro rfl
    exact absurd hchar (by decide)

theorem trimChars :
  Text.trimChars piece.toList = name.toList
  := by
  obtain ⟨hname, hbefore, hafter⟩ := h
  rw [String.toList_append, String.toList_append]
  apply Text.trimChars_append_eq hname.ne_nil hbefore hafter
  · intro c hc
    apply hname.not_blank (List.mem_of_mem_head? hc)
  · intro c hc
    apply hname.not_blank (List.mem_of_mem_getLast? hc)

end Pads

/-- The pieces of a text are the names that it spells, but for white space. -/
theorem Spells.trimmed_pieces (h : Spells name path text) :
  (pieces text.toList).map Text.trimChars = (name :: path).map String.toList
  := by
  induction h with
  | name pads =>
      rw [pieces_eq_self pads.no_mark, List.map_singleton, pads.trimChars, List.map_singleton]
  | path pads hseparator _ ih =>
      rw [String.toList_append, String.toList_append, List.append_assoc,
        pieces_append pads.no_mark, pieces_separator hseparator, List.modifyHead_cons,
        List.append_nil, List.map_cons, pads.trimChars, ih]
      rfl

/-! ### The main statement -/

/-- Pieces that are names but for white space, those of a path not empty, make up the reference of
these names. -/
theorem ofPieces_eq {ps : List (List Char)}
    (hps : ps.map Text.trimChars = (name :: path).map String.toList)
    (hpath : ∀ next ∈ path, next.toList ≠ []) :
  ofPieces ps = ofNames name path
  := by
  cases ps with
  | nil => cases hps
  | cons first rest =>
      obtain ⟨hfirst, hrest⟩ := List.cons.inj hps
      have hkept : (path.map String.toList).filter (!·.isEmpty) = path.map String.toList := by
        apply List.filter_eq_self.mpr
        intro cs hcs
        obtain ⟨next, hnext, rfl⟩ := List.mem_map.mp hcs
        simpa using hpath next hnext
      simp only [ofPieces, hfirst, hrest, hkept, String.ofList_toList]
      cases path with
      | nil => rfl
      | cons next path => simp [ofNames]

/-- The name of the first piece is that of the parameter. -/
theorem parameterName_ofPieces (first : List Char) (rest : List (List Char)) :
  (ofPieces (first :: rest)).parameterName = .ofList (Text.trimChars first)
  := by
  rw [ofPieces]
  split
  · rfl
  · rfl

theorem head_eq_parameterName (text : String) :
  head text = (parse text).parameterName
  := by
  obtain ⟨rest, hpieces⟩ := List.head?_eq_some_iff.mp (head?_pieces text.toList)
  rw [head_eq, parse_eq, hpieces, parameterName_ofPieces]

theorem Pads.identifier {piece : String} (h : Pads name piece) :
  IsIdentifier name
  := by
  obtain ⟨hname, -, -⟩ := h
  exact hname

theorem Spells.identifiers (h : Spells name path text) :
  ∀ next ∈ name :: path, IsIdentifier next
  := by
  induction h with
  | name pads =>
      intro next hnext
      obtain rfl := List.mem_singleton.mp hnext
      apply pads.identifier
  | path pads _ _ ih => apply List.forall_mem_cons.mpr ⟨pads.identifier, ih⟩

/-- The length of a declaration is accepted if the name that it begins with is there. -/
theorem exists_lengthOf_iff {d : Declarator} (hd : d.lengthReference? = some text)
    (rawNames : List String) (owner : String) :
  (∃ length, Parameter.lengthOf rawNames d owner = .ok length)
    ↔ (parse text).parameterName ∈ rawNames
  := by
  simp only [Parameter.lengthOf, hd]
  split
  · rename_i hknown
    simpa using hknown
  · rename_i hunknown
    simpa using hunknown

/-- A reference is read as the names that its text spells.  Whatever the text, the name that the
members of a composite look for is the one that the reference begins with: both members and
parameters are accepted exactly if that is the name of one of them. -/
theorem readsConsistently :
  (∀ name path text, Spells name path text → parse text = ofNames name path)
    ∧ (∀ text, head text = (parse text).parameterName)
    ∧ (∀ members owner, Registry.checkLengthMembers members owner = .ok ()
      ↔ ∀ m ∈ members, ∀ text, m.arity = .linkedArray text →
        ∃ sibling ∈ members, sibling.rawName = (parse text).parameterName)
    ∧ ∀ d text, d.lengthReference? = some text → ∀ rawNames owner,
      (∃ length, Parameter.lengthOf rawNames d owner = .ok length)
        ↔ (parse text).parameterName ∈ rawNames
  := by
  refine ⟨?_, head_eq_parameterName, ?_, ?_⟩
  · intro name path text h
    rw [parse_eq]
    apply ofPieces_eq h.trimmed_pieces
    intro next hnext
    apply (h.identifiers next (List.mem_cons_of_mem name hnext)).ne_nil
  · intro members owner
    rw [Registry.checkLengthMembers_eq_ok_iff]
    simp only [head_eq_parameterName]
  · intro d text hd rawNames owner
    apply exists_lengthOf_iff hd

/-- The path of three names with both separators and some white space. -/
theorem readsConsistently_mixed :
  Spells "pInfo" ["layers", "count"] " pInfo->layers ::count"
    ∧ parse " pInfo->layers ::count" = field "pInfo" ["layers", "count"]
    ∧ head " pInfo->layers ::count" = "pInfo"
  := by
  have hinfo : Pads "pInfo" (" " ++ "pInfo" ++ "") :=
    ⟨⟨⟨'p', rfl, by decide⟩, by simp⟩, by simp [Text.isBlank], by simp⟩
  have hlayers : Pads "layers" ("" ++ "layers" ++ " ") :=
    ⟨⟨⟨'l', rfl, by decide⟩, by simp⟩, by simp, by simp [Text.isBlank]⟩
  have hcount : Pads "count" ("" ++ "count" ++ "") :=
    ⟨⟨⟨'c', rfl, by decide⟩, by simp⟩, by simp, by simp⟩
  have spelled : Spells "pInfo" ["layers", "count"] " pInfo->layers ::count" :=
    .path hinfo (.inl rfl) (.path hlayers (.inr rfl) (.name hcount))
  have hparse := readsConsistently.1 _ _ _ spelled
  refine ⟨spelled, hparse, ?_⟩
  rw [readsConsistently.2.1, hparse]
  rfl

end NativeApi.LengthReference
