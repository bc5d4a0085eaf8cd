import NativeApi.Proofs.CompositeRounds

/-!
# Composites that are declared more than once

The entity of a canonical name is registered by the first declaration of the name, and each
declaration has it learn its own members.  Main statement: where a document declares a
composite once more, the entity keeps its names, its kind and whether it is only returned,
but has the members, the extended structure and the structure type of the last declaration;
so declaring it again changes nothing exactly if the last declarations say the same.
-/

namespace NativeApi.Registry

variable {r r' : Registry} {o : Options} {n : Naming} {d d' : Document} {name : String}
  {pairs front back : List (Entity × Element)} {p : Entity × Element}

/-! ### The last declaration -/

/-- Of the items with a property, one comes last. -/
theorem exists_last {α : Type} {P : α → Prop} {as : List α} (h : ∃ a ∈ as, P a) :
  ∃ front a back, as = front ++ a :: back ∧ P a ∧ ∀ b ∈ back, ¬P b
  := by
  induction as with
  | nil => simp at h
  | cons a as ih =>
      by_cases hlater : ∃ b ∈ as, P b
      · obtain ⟨front, last, back, rfl, hlast, hback⟩ := ih hlater
        exact ⟨a :: front, last, back, rfl, hlast, hback⟩
      · obtain ⟨b, hb, hPb⟩ := h
        rcases List.mem_cons.mp hb with rfl | hb
        · exact ⟨[], b, as, rfl, hPb, fun c hc hPc => hlater ⟨c, hc, hPc⟩⟩
        · exact absurd ⟨b, hb, hPb⟩ hlater

/-- Declarations of other names say nothing. -/
theorem said_of_ne (hother : ∀ p ∈ pairs, p.1.name ≠ name) (o : Options) (n : Naming)
    (r : Registry) (kind : Entity.Kind) :
  said o n r pairs name kind = kind
  := by
  induction pairs generalizing kind with
  | nil => rfl
  | cons p pairs ih =>
      rw [said, List.foldl_cons, if_neg (hother p List.mem_cons_self)]
      apply ih fun q hq => hother q (List.mem_cons_of_mem _ hq)

/-- What counts is the last declaration of a name. -/
theorem said_of_last (hback : ∀ q ∈ back, q.1.name ≠ p.1.name) (o : Options) (n : Naming)
    (r : Registry) (kind : Entity.Kind) :
  said o n r (front ++ p :: back) p.1.name kind
    = (descriptionOf o n r p.1.name p.2).apply kind
  := by
  rw [said, List.foldl_append, List.foldl_cons, if_pos rfl]
  apply (said_of_ne hback o n r _).trans
  apply Description.apply_said

/-- The composite of a name is the entity that the first round leaves, with what the last
declaration of the name says. -/
theorem Learnt.lookup?_of_last (h : Learnt o n (front ++ p :: back) r r')
    (hback : ∀ q ∈ back, q.1.name ≠ p.1.name) {e : Entity} (he : r.lookup? p.1.name = some e) :
  r'.lookup? p.1.name
    = some { e with kind := (descriptionOf o n r' p.1.name p.2).apply e.kind }
  := by
  have congr := descriptionOf_congr h.constants h.referredName?_eq n p.1.name p.2
  rw [h.kept _ e he, said_of_last hback, congr.1]

/-! ### One more declaration -/

/-- The composite of a declaration comes between those before and after it. -/
theorem declaredComposites_append_cons {type : Element} {shell : Entity}
    (hshell : compositeShell? n type = some shell) (before after : List Element) :
  declaredComposites n (before ++ type :: after)
    = declaredComposites n before ++ (shell, type) :: declaredComposites n after
  := by
  simp [declaredComposites, hshell]

/-- Where no declaration gives a name, no declared composite has it. -/
theorem name_ne_of_mem_declaredComposites {types : List Element}
    (hother : ∀ type ∈ types, (compositeShell? n type).map (·.name) ≠ some name)
    (hp : p ∈ declaredComposites n types) :
  p.1.name ≠ name
  := by
  obtain ⟨htype, hshell⟩ := mem_declaredComposites_iff.mp hp
  intro hname
  apply hother p.2 htype
  rw [hshell, Option.map_some, hname]

/-- One more declaration of a composite registers nothing where the name is declared. -/
theorem lookup?_compositeEntities_concat {earlier : Element} {first : Entity}
    {types : List Element} (hearlier : earlier ∈ types)
    (hfirst : compositeShell? n earlier = some first) (hname : first.name = name) (type : Element)
    (r : Registry) :
  (r.registerAll (compositeEntities n r (types ++ [type]))).lookup? name
    = (r.registerAll (compositeEntities n r types)).lookup? name
  := by
  have hmem : first ∈ types.filterMap (compositeShell? n) :=
    List.mem_filterMap.mpr ⟨earlier, hearlier, hfirst⟩
  obtain ⟨found, -, hfound, -⟩ := exists_find?_eq_some hmem (·.name)
  rw [hname] at hfound
  have hround (more : List Entity) :
      (types.filterMap (compositeShell? n) ++ more).find? (·.name == name) = some found := by
    rw [List.find?_append, hfound, Option.some_or]
  rw [lookup?_registerAll, lookup?_registerAll, compositeEntities, compositeEntities,
    List.filterMap_append, List.append_assoc, hround, hround]

theorem Description.apply_eq_iff (described before : Description) (e : Entity) :
  ({ e with kind := described.apply e.kind } : Entity) = { e with kind := before.apply e.kind }
    ↔ ((e.composite?).isSome = true → described = before)
  := by
  obtain ⟨canonical, rawName, kind⟩ := e
  obtain ⟨members, base, structureType⟩ := described
  obtain ⟨members', base', structureType'⟩ := before
  cases kind <;> simp [Description.apply, describe, Entity.composite?]

/-- The last of some declarations that gives a composite a name. -/
structure IsLastDeclaration (n : Naming) (types : List Element) (name : String) (last : Element) :
    Prop where
  declares : (compositeShell? n last).map (·.name) = some name
  comesLast : ∃ before after, types = before ++ last :: after
    ∧ ∀ later ∈ after, (compositeShell? n later).map (·.name) ≠ some name

/-- Of declarations one of which gives a name, one is the last that does. -/
theorem exists_isLastDeclaration {types : List Element} {declared : Element}
    (hdeclared : declared ∈ types)
    (hname : (compositeShell? n declared).map (·.name) = some name) :
  ∃ last, IsLastDeclaration n types name last
  := by
  obtain ⟨before, last, after, hsplit, hlast, hafter⟩ := exists_last
    (P := fun type : Element => (compositeShell? n type).map (·.name) = some name)
    ⟨declared, hdeclared, hname⟩
  exact ⟨last, hlast, before, after, hsplit, hafter⟩

/-- The composite of the last declaration of a name has what that declaration says, in the
registry that both rounds lead to. -/
theorem IsLastDeclaration.lookup? {types : List Element} {last : Element}
    (h : IsLastDeclaration n types name last)
    (learnt : Learnt o n (declaredComposites n types) r r') {e : Entity}
    (he : r.lookup? name = some e) :
  r'.lookup? name = some { e with kind := (descriptionOf o n r' name last).apply e.kind }
  := by
  obtain ⟨shell, hshell, rfl⟩ := Option.map_eq_some_iff.mp h.declares
  obtain ⟨before, after, rfl, hafter⟩ := h.comesLast
  rw [declaredComposites_append_cons hshell] at learnt
  apply learnt.lookup?_of_last (fun q hq => name_ne_of_mem_declaredComposites hafter hq) he

/-- What the composite `e` of a name is in the registry `r` of some declarations, and in the
registry `r'` of the same declarations with one more of the name behind them. -/
structure IsRedeclared (o : Options) (n : Naming) (types : List Element) (again : Element)
    (name : String) (r r' : Registry) (e : Entity) (last : Element) : Prop where
  /-- What counts without the further declaration is the last one before it. -/
  isLast : IsLastDeclaration n types name last
  before : r.lookup? name = some { e with kind := (descriptionOf o n r name last).apply e.kind }
  after : r'.lookup? name = some { e with kind := (descriptionOf o n r' name again).apply e.kind }
  /-- The entity is the same exactly if it is no composite or both declarations say the same. -/
  same_iff : r'.lookup? name = r.lookup? name
    ↔ (e.composite?.isSome = true →
        descriptionOf o n r' name again = descriptionOf o n r name last)

/-- A composite that is declared once more stays the entity it is, with what the last
declaration says of it in place of what the last one before said. -/
theorem lookup?_of_redeclared {earlier type : Element} {first shell : Entity}
    (beside : AgreesBesideTypes d d') (htypes : d'.types = d.types ++ [type])
    (hearlier : earlier ∈ d.types) (hfirst : compositeShell? n earlier = some first)
    (hshell : compositeShell? n type = some shell) (hname : first.name = shell.name)
    (h : ofDocument o n d = .ok r) (h' : ofDocument o n d' = .ok r') :
  ∃ e last, IsRedeclared o n d.types type shell.name r r' e last
  := by
  obtain ⟨handled, hhandled, hcomposites, -⟩ := ofDocument_eq_ok_iff_ofHandles.mp h
  obtain ⟨handled', hhandled', hcomposites', -⟩ := ofDocument_eq_ok_iff_ofHandles.mp h'
  have plain : plainTypes d'.types = plainTypes d.types := by
    rw [htypes, plainTypes, List.filter_append, plainTypes]
    have hkind := (rawName_of_compositeShell? hshell).1
    simp [Option.isSome_iff_ne_none.mp hkind]
  rw [ofHandles_congr beside plain, hhandled] at hhandled'
  obtain rfl := Except.ok.inj hhandled'
  have consistent := isConsistent_of_ofHandles hhandled
  have learnt := registerComposites_learnt consistent hcomposites
  have learnt' := registerComposites_learnt consistent hcomposites'
  -- both documents register the same entity in the first round
  have hround := lookup?_compositeEntities_concat hearlier hfirst hname type handled
  obtain ⟨e, he⟩ := Option.isSome_iff_exists.mp
    (isSome_lookup?_declaredComposites n handled d.types (first, earlier)
      (mem_declaredComposites_iff.mpr ⟨hearlier, hfirst⟩))
  simp only [hname] at he
  rw [he, ← htypes] at hround
  -- and in each, the last declaration of the name is another one
  have hdeclared : (compositeShell? n earlier).map (·.name) = some shell.name := by
    rw [hfirst, Option.map_some, hname]
  obtain ⟨last, hlast⟩ := exists_isLastDeclaration hearlier hdeclared
  have hagain : IsLastDeclaration n d'.types shell.name type := by
    constructor
    · rw [hshell, Option.map_some]
    · use d.types, [], htypes
      apply List.forall_mem_nil
  have hlookup := hlast.lookup? learnt he
  have hlookup' := hagain.lookup? learnt' hround
  use e, last
  constructor
  · exact hlast
  · exact hlookup
  · exact hlookup'
  · rw [hlookup, hlookup', Option.some_inj, Description.apply_eq_iff]

/-- A declaration of a structure of the given name with numbers as members. -/
def numbersDeclaration (raw : String) (members : List String) : Element :=
  (members.map (memberDeclaration "uint32_t" " ")).foldl Element.withChild
    (declaration "struct" raw)

/-- A structure with a width and a height. -/
def areaDeclaration : Element := numbersDeclaration "VkArea" ["width", "height"]

/-- A structure of the same name with a size. -/
def areaRedeclaration : Element := numbersDeclaration "VkArea" ["size"]

/-- A structure that is declared twice has the members of the second declaration. -/
theorem lookup?_of_redeclared_area :
  ∃ r r' e last,
    ofDocument .standard Options.standard.naming (documentOf [areaDeclaration]) = .ok r
    ∧ ofDocument .standard Options.standard.naming
      (documentOf [areaDeclaration, areaRedeclaration]) = .ok r'
    ∧ IsRedeclared .standard Options.standard.naming (documentOf [areaDeclaration]).types
      areaRedeclaration "Area" r r' e last
    ∧ ((r.lookup? "Area").bind Entity.composite?).map (·.members.map (·.name))
      = some ["Width", "Height"]
    ∧ ((r'.lookup? "Area").bind Entity.composite?).map (·.members.map (·.name)) = some ["Size"]
  := by
  have evaluated :
      (ofDocument .standard Options.standard.naming
          (documentOf [areaDeclaration])).toOption.any (fun r =>
        (ofDocument .standard Options.standard.naming
            (documentOf [areaDeclaration, areaRedeclaration])).toOption.any fun r' =>
          ((r.lookup? "Area").bind Entity.composite?).map (·.members.map (·.name))
              == some ["Width", "Height"]
            && ((r'.lookup? "Area").bind Entity.composite?).map (·.members.map (·.name))
              == some ["Size"])
        = true := by
    decide +kernel
  obtain ⟨r, hr, h⟩ := (Option.any_eq_true _ _).mp evaluated
  obtain ⟨r', hr', h⟩ := (Option.any_eq_true _ _).mp h
  rw [Bool.and_eq_true, beq_iff_eq, beq_iff_eq] at h
  have built := Outcome.toOption_eq_some_iff.mp hr
  have built' := Outcome.toOption_eq_some_iff.mp hr'
  have hnamed (type : Element) (hkind : compositeKind? type = some .struct)
      (hraw : type.ownName? = some "VkArea") :
      ∃ e, compositeShell? Options.standard.naming type = some e ∧ e.name = "Area" := by
    have hname : Options.standard.naming.typeName "VkArea" = "Area" := by decide +kernel
    simp [compositeShell?, hkind, hraw, hname]
  obtain ⟨e₁, hfirst, hname₁⟩ := hnamed areaDeclaration (by decide +kernel) (by decide +kernel)
  obtain ⟨e₂, hsecond, hname₂⟩ := hnamed areaRedeclaration (by decide +kernel) (by decide +kernel)
  have beside : AgreesBesideTypes (documentOf [areaDeclaration])
      (documentOf [areaDeclaration, areaRedeclaration]) :=
    ⟨rfl, rfl, rfl, rfl⟩
  obtain ⟨e, last, redeclared⟩ := lookup?_of_redeclared beside rfl
    (List.mem_singleton_self areaDeclaration) hfirst hsecond (hname₁.trans hname₂.symm) built built'
  rw [hname₂] at redeclared
  exact ⟨r, r', e, last, built, built', redeclared, h⟩

end NativeApi.Registry
