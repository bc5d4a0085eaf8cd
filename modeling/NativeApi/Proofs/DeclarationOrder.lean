import Mathlib.Data.List.Pairwise
import NativeApi.Proofs.CompositeRounds

/-!
# The order of composites

Composites are registered before any of them learns its members, so the order of their
declarations should not matter.  Main statement: where the declarations of composites have
different canonical names and extend structures that are registered for their own sake, any
order of them builds exactly if any other does, and raw names then resolve to the same
names and composites.
-/

namespace NativeApi.Registry

variable {r r' : Registry} {o : Options} {n : Naming} {d d' : Document} {raw name : String}
  {e e' : Entity} {type : Element} {types types' : List Element}

/-! ### Entities of declarations -/

/-- The types that are composites or aliases of these. -/
def compositeTypes (types : List Element) : List Element :=
  types.filter fun type => (compositeKind? type).isSome

theorem mem_compositeTypes_iff :
  type ∈ compositeTypes types ↔ type ∈ types ∧ (compositeKind? type).isSome = true
  := List.mem_filter

/-- The entity that a declaration of a composite gives. -/
def compositeEntity? (n : Naming) (r : Registry) (type : Element) : Option Entity :=
  (compositeShell? n type).or ((compositeAlias? type).map (compositeAliasEntity n r))

/-- The canonical name that a declaration gives its type. -/
def declaredCanonical? (n : Naming) (type : Element) : Option String :=
  type.declaredName?.map n.typeName

theorem names_of_compositeEntity? (h : compositeEntity? n r type = some e) :
  (compositeKind? type).isSome = true ∧ type.declaredName? = some e.rawName
    ∧ e.name = n.typeName e.rawName
  := by
  rcases Option.or_eq_some_iff.mp h with hshell | ⟨-, halias⟩
  · obtain ⟨hkind, hown, hname⟩ := rawName_of_compositeShell? hshell
    exact ⟨hkind, Element.declaredName?_of_ownName? hown, hname⟩
  · obtain ⟨a, ha, rfl⟩ := Option.map_eq_some_iff.mp halias
    obtain ⟨hkind, hdeclared⟩ := rawName_of_compositeAlias? ha
    exact ⟨hkind, Element.declaredName?_of_declaredAlias? hdeclared, rfl⟩

/-- A declaration of a composite that has a name gives an entity. -/
theorem exists_compositeEntity? (hkind : (compositeKind? type).isSome = true)
    (hraw : type.declaredName? = some raw) (n : Naming) (r : Registry) :
  ∃ e, compositeEntity? n r type = some e ∧ e.rawName = raw
  := by
  rcases Element.ownName?_or_declaredAlias? hraw with hown | ⟨target, halias⟩
  · obtain ⟨e, hshell, hname⟩ := exists_compositeShell? hkind hown n
    use e
    rw [compositeEntity?, hshell, Option.some_or]
    exact ⟨rfl, hname⟩
  · obtain ⟨kind, hkind⟩ := Option.isSome_iff_exists.mp hkind
    have hown : type.ownName? = none := by
      obtain ⟨target', htarget, -⟩ := Option.bind_eq_some_iff.mp halias
      rw [Element.ownName?, htarget]
    use compositeAliasEntity n r ⟨raw, target⟩
    simp [compositeEntity?, compositeShell?, compositeAlias?, hkind, hown, halias,
      compositeAliasEntity, aliasEntity]

theorem mem_compositeEntities_iff :
  e ∈ compositeEntities n r types
    ↔ ∃ type ∈ compositeTypes types, compositeEntity? n r type = some e
  := by
  simp only [compositeEntities, List.mem_append, List.mem_filterMap, List.mem_map,
    mem_compositeTypes_iff]
  constructor
  · rintro (⟨type, htype, hshell⟩ | ⟨a, ⟨type, htype, halias⟩, rfl⟩)
    · refine ⟨type, ⟨htype, (rawName_of_compositeShell? hshell).1⟩, ?_⟩
      rw [compositeEntity?, hshell, Option.some_or]
    · obtain ⟨hkind, hdeclared⟩ := rawName_of_compositeAlias? halias
      have hshell : compositeShell? n type = none := by
        rw [Option.eq_none_iff_forall_ne_some]
        intro e he
        rw [Element.declaredAlias?_of_ownName? (rawName_of_compositeShell? he).2.1] at hdeclared
        cases hdeclared
      refine ⟨type, ⟨htype, hkind⟩, ?_⟩
      rw [compositeEntity?, hshell, Option.none_or, halias, Option.map_some]
  · rintro ⟨type, ⟨htype, -⟩, h⟩
    rcases Option.or_eq_some_iff.mp h with hshell | ⟨-, halias⟩
    · exact .inl ⟨type, htype, hshell⟩
    · obtain ⟨a, ha, rfl⟩ := Option.map_eq_some_iff.mp halias
      exact .inr ⟨a, ⟨type, htype, ha⟩, rfl⟩

/-- What is registered in the first round comes from the composites alone. -/
theorem declaredComposites_compositeTypes (n : Naming) (types : List Element) :
  declaredComposites n (compositeTypes types) = declaredComposites n types
  := by
  rw [declaredComposites, compositeTypes, List.filterMap_filter, declaredComposites]
  apply List.filterMap_congr
  intro type _
  split
  · rfl
  · rename_i hkind
    rw [Bool.not_eq_true, Option.isSome_eq_false_iff, Option.isNone_iff_eq_none] at hkind
    rw [compositeShell?, hkind]
    rfl

/-! ### Different names -/

/-- The canonical names of the declared composites and their aliases differ. -/
def HaveDistinctNames (n : Naming) (types : List Element) : Prop :=
  ((compositeTypes types).filterMap (declaredCanonical? n)).Nodup

/-- Items with the same result are the same, if results differ. -/
theorem eq_of_nodup_filterMap {α β : Type} {f : α → Option β} {as : List α}
    (distinct : (as.filterMap f).Nodup) {a a' : α} {b : β} (ha : a ∈ as) (ha' : a' ∈ as)
    (hb : f a = some b) (hb' : f a' = some b) :
  a = a'
  := by
  by_contra hne
  have apart := List.pairwise_filterMap.mp distinct
  have symmetric : Std.Symm fun a a' : α => ∀ b, f a = some b → ∀ b', f a' = some b' → b ≠ b' :=
    ⟨fun a a' h b hb b' hb' heq => h b' hb' b hb heq.symm⟩
  exact apart.forall ha ha' hne b hb b hb' rfl

/-- Where names differ, the entities of a name are the same. -/
theorem eq_of_mem_compositeEntities (distinct : HaveDistinctNames n types)
    (he : e ∈ compositeEntities n r types) (he' : e' ∈ compositeEntities n r types)
    (hname : e.name = e'.name) :
  e = e'
  := by
  obtain ⟨type, htype, hentity⟩ := mem_compositeEntities_iff.mp he
  obtain ⟨type', htype', hentity'⟩ := mem_compositeEntities_iff.mp he'
  obtain ⟨-, hraw, hcanonical⟩ := names_of_compositeEntity? hentity
  obtain ⟨-, hraw', hcanonical'⟩ := names_of_compositeEntity? hentity'
  have hsame : type = type' := by
    apply eq_of_nodup_filterMap distinct htype htype' (b := e.name)
    · rw [declaredCanonical?, hraw, Option.map_some, hcanonical]
    · rw [declaredCanonical?, hraw', Option.map_some, hname, hcanonical']
  subst hsame
  apply Option.some.inj (hentity.symm.trans hentity')

/-- What is found does not depend on the order of entities, if those of a name are the
same. -/
theorem find?_eq_of_mem_iff {es es' : List Entity} {sort : Entity → String}
    (hmem : ∀ e, e ∈ es' ↔ e ∈ es)
    (hsame : ∀ e ∈ es, ∀ e' ∈ es, sort e = sort e' → e = e') (key : String) :
  es'.find? (sort · == key) = es.find? (sort · == key)
  := by
  have found {es₁ es₂ : List Entity} (hsub : ∀ e ∈ es₁, e ∈ es₂)
      (hes₂ : ∀ e ∈ es₂, e ∈ es) {e : Entity} (he : es₁.find? (sort · == key) = some e) :
      es₂.find? (sort · == key) = some e := by
    have hkey : sort e = key := by simpa using List.find?_some he
    have hmem₂ := hsub e (List.mem_of_find?_eq_some he)
    obtain ⟨e', hmem', hfound, hsort⟩ := exists_find?_eq_some hmem₂ sort
    rw [hkey] at hfound
    rw [hfound, hsame e' (hes₂ e' hmem') e (hes₂ e hmem₂) hsort]
  apply Option.ext
  intro e
  constructor
  · apply found (fun e he => (hmem e).mp he) (fun e he => he)
  · apply found (fun e he => (hmem e).mpr he) (fun e he => (hmem e).mp he)

/-- Where names differ, so do the names of declared composites. -/
theorem eq_of_mem_declaredComposites (distinct : HaveDistinctNames n types)
    {p q : Entity × Element} (hp : p ∈ declaredComposites n types)
    (hq : q ∈ declaredComposites n types) (hname : p.1.name = q.1.name) :
  p = q
  := by
  have declared {p : Entity × Element} (hp : p ∈ declaredComposites n types) :
      p.2 ∈ compositeTypes types ∧ compositeShell? n p.2 = some p.1
        ∧ declaredCanonical? n p.2 = some p.1.name := by
    obtain ⟨htype, hshell⟩ := mem_declaredComposites_iff.mp hp
    obtain ⟨hkind, hown, hcanonical⟩ := rawName_of_compositeShell? hshell
    refine ⟨mem_compositeTypes_iff.mpr ⟨htype, hkind⟩, hshell, ?_⟩
    rw [declaredCanonical?, Element.declaredName?_of_ownName? hown, Option.map_some, hcanonical]
  obtain ⟨hmem, hshell, hcanonical⟩ := declared hp
  obtain ⟨hmem', hshell', hcanonical'⟩ := declared hq
  rw [← hname] at hcanonical'
  have htype := eq_of_nodup_filterMap distinct hmem hmem' hcanonical hcanonical'
  rw [← htype, hshell] at hshell'
  exact Prod.ext (Option.some.inj hshell') htype

/-! ### Permuted composites -/

/-- Two documents declare the same in the same order, but for the order of composites. -/
structure PermutesComposites (d d' : Document) : Prop where
  beside : AgreesBesideTypes d d'
  plain : plainTypes d'.types = plainTypes d.types
  composites : (compositeTypes d'.types).Perm (compositeTypes d.types)

theorem PermutesComposites.symm (h : PermutesComposites d d') :
  PermutesComposites d' d
  := by
  obtain ⟨⟨hplatforms, hblocks, hfeatures, hextensions⟩, hplain, hcomposites⟩ := h
  exact ⟨⟨hplatforms.symm, hblocks.symm, hfeatures.symm, hextensions.symm⟩, hplain.symm,
    hcomposites.symm⟩

section

variable (distinct : HaveDistinctNames n types)
  (perm : (compositeTypes types').Perm (compositeTypes types))
include distinct perm

omit distinct in
theorem mem_compositeEntities_perm (e : Entity) :
  e ∈ compositeEntities n r types' ↔ e ∈ compositeEntities n r types
  := by
  simp only [mem_compositeEntities_iff, perm.mem_iff]

theorem lookup?_compositeEntities_perm (name : String) :
  (r.registerAll (compositeEntities n r types')).lookup? name
    = (r.registerAll (compositeEntities n r types)).lookup? name
  := by
  rw [lookup?_registerAll, lookup?_registerAll]
  apply congrArg
  apply find?_eq_of_mem_iff (mem_compositeEntities_perm perm)
  intro e he e' he' hname
  apply eq_of_mem_compositeEntities distinct he he' hname

theorem canonicalOfRaw?_compositeEntities_perm (h : r.IsConsistent) (raw : String) :
  (r.registerAll (compositeEntities n r types')).canonicalOfRaw? raw
    = (r.registerAll (compositeEntities n r types)).canonicalOfRaw? raw
  := by
  rw [canonicalOfRaw?_registerAll h, canonicalOfRaw?_registerAll h]
  apply congrArg
  apply congrArg
  apply find?_eq_of_mem_iff (mem_compositeEntities_perm perm)
  intro e he e' he' hraw
  apply eq_of_mem_compositeEntities distinct he he'
  obtain ⟨type, -, hentity⟩ := mem_compositeEntities_iff.mp he
  obtain ⟨type', -, hentity'⟩ := mem_compositeEntities_iff.mp he'
  rw [(names_of_compositeEntity? hentity).2.2, (names_of_compositeEntity? hentity').2.2, hraw]

omit distinct in
theorem declaredComposites_perm (n : Naming) :
  (declaredComposites n types').Perm (declaredComposites n types)
  := by
  rw [← declaredComposites_compositeTypes n types', ← declaredComposites_compositeTypes n types]
  apply perm.filterMap

/-- What declarations say of a name does not depend on their order. -/
theorem said_perm (o : Options) (r : Registry) (name : String) (kind : Entity.Kind) :
  said o n r (declaredComposites n types') name kind
    = said o n r (declaredComposites n types) name kind
  := by
  apply List.Perm.foldl_eq' (declaredComposites_perm perm n)
  intro p hp q hq kind
  have hp := (declaredComposites_perm perm n).mem_iff.mp hp
  have hq := (declaredComposites_perm perm n).mem_iff.mp hq
  by_cases hpName : p.1.name = name
  · by_cases hqName : q.1.name = name
    · rw [eq_of_mem_declaredComposites distinct hp hq (hpName.trans hqName.symm)]
    · simp [hpName, hqName]
  · simp [hpName]

end

/-! ### Registries that agree -/

/-- Raw names lead to the same names, and names that find something in one registry find
something like it in the other. -/
structure Agrees (r r' : Registry) : Prop where
  canonical : ∀ raw, r'.canonicalOfRaw? raw = r.canonicalOfRaw? raw
  lookups : ∀ name e, r.lookup? name = some e →
    ∃ e', r'.lookup? name = some e' ∧ e'.target? = e.target? ∧ e'.composite? = e.composite?

/-- What a name denotes in one registry, it denotes in the other. -/
theorem Agrees.denotes (h : Agrees r r') (hdenotes : r.Denotes name e) :
  ∃ e', r'.Denotes name e' ∧ e'.name = e.name ∧ e'.composite? = e.composite?
  := by
  induction hdenotes with
  | @here name e hname halias =>
      obtain ⟨e', hname', htarget, hcomposite⟩ := h.lookups name e hname
      refine ⟨e', .here hname' ?_, ?_, hcomposite⟩
      · rw [← Entity.target?_eq_none_iff, htarget, Entity.target?_eq_none_iff, halias]
      · rw [name_of_lookup? hname, name_of_lookup? hname']
  | @step name target a e hname htarget _ ih =>
      obtain ⟨a', hname', htarget', -⟩ := h.lookups name a hname
      obtain ⟨e', hdenotes, halike⟩ := ih
      exact ⟨e', .step hname' (htarget'.trans htarget) hdenotes, halike⟩

/-- What a raw name resolves to in one registry, it resolves to in the other. -/
theorem Agrees.resolveRaw (h : Agrees r r') (consistent : r.IsConsistent)
    (consistent' : r'.IsConsistent) (hresolved : r.resolveRaw raw = .ok e) :
  ∃ e', r'.resolveRaw raw = .ok e' ∧ e'.name = e.name ∧ e'.composite? = e.composite?
  := by
  obtain ⟨id, ⟨start, hstart, -⟩, -⟩ := resolveRaw_eq_ok_iff.mp hresolved
  obtain ⟨name, hname⟩ := Option.isSome_iff_exists.mp
    (consistent.isSome_canonicalOfRaw?_iff.mpr (Option.isSome_of_eq_some hstart))
  have hdenotes := (consistent.resolveRaw_eq_ok_iff_denotes hname).mp hresolved
  obtain ⟨e', hdenotes', halike⟩ := h.denotes hdenotes
  rw [← h.canonical] at hname
  exact ⟨e', (consistent'.resolveRaw_eq_ok_iff_denotes hname).mpr hdenotes', halike⟩

/-- The entities that resolve in one registry do so in the other. -/
theorem Agrees.checkAliases (h : Agrees r' r) (h' : Agrees r r') (consistent' : r'.IsConsistent)
    (hchecked : r.checkAliases = .ok ()) :
  r'.checkAliases = .ok ()
  := by
  apply checkAliases_eq_ok_iff.mpr
  intro id e' he'
  obtain ⟨e, hname, -, -⟩ := h.lookups e'.name e' (consistent'.lookup?_of_get? he')
  obtain ⟨start, hstart, he⟩ := lookup?_eq_some_iff.mp hname
  obtain ⟨last, hlast, concrete⟩ := resolveId_of_checkAliases hchecked he
  obtain ⟨resolved, hresolved, -⟩ := resolve_of_resolveId hstart hlast concrete
  obtain ⟨resolved', hdenotes, -⟩ := h'.denotes (resolve_eq_ok_iff_denotes.mp hresolved)
  obtain ⟨last', ⟨start', hstart', hlast'⟩, -⟩ := hdenotes.standsFor
  have hid : r'.idOf? e'.name = some id :=
    (idOf?_eq_some_iff consistent'.distinct).mpr ⟨e', he', rfl⟩
  obtain rfl := Option.some.inj (hid.symm.trans hstart')
  use last'

/-! ### Both orders -/

/-- What declared composites extend is known before them, or declared as a composite. -/
def ExtendsKnown (n : Naming) (types : List Element) (r : Registry) : Prop :=
  ∀ p ∈ declaredComposites n types, ∀ raw, extendedName? p.2 = some raw →
    (r.canonicalOfRaw? raw).isSome = true
      ∨ ∃ other ∈ compositeTypes types, other.declaredName? = some raw

theorem ExtendsKnown.perm (h : ExtendsKnown n types r)
    (perm : (compositeTypes types').Perm (compositeTypes types)) :
  ExtendsKnown n types' r
  := by
  intro p hp raw hraw
  have hp := (declaredComposites_perm perm n).mem_iff.mp hp
  rcases h p hp raw hraw with hknown | ⟨other, hother, hdeclared⟩
  · exact .inl hknown
  · exact .inr ⟨other, perm.mem_iff.mpr hother, hdeclared⟩

/-- What declared composites extend is known after the first round. -/
theorem ExtendsKnown.isSome_canonicalOfRaw? (bases : ExtendsKnown n types r)
    (h : r.IsConsistent) {p : Entity × Element} (hp : p ∈ declaredComposites n types)
    (hraw : extendedName? p.2 = some raw) :
  ((r.registerAll (compositeEntities n r types)).canonicalOfRaw? raw).isSome = true
  := by
  rw [isSome_canonicalOfRaw?_registerAll_iff h]
  rcases bases p hp raw hraw with hknown | ⟨other, hother, hdeclared⟩
  · exact .inl hknown
  · obtain ⟨e, hentity, hname⟩ :=
      exists_compositeEntity? (mem_compositeTypes_iff.mp hother).2 hdeclared n r
    exact .inr ⟨e, mem_compositeEntities_iff.mpr ⟨other, hother, hentity⟩, hname⟩

theorem AreComposites.perm (h : AreComposites types r)
    (perm : (compositeTypes types').Perm (compositeTypes types)) :
  AreComposites types' r
  := by
  constructor
  · intro type htype hkind
    have hmem := perm.mem_iff.mp (mem_compositeTypes_iff.mpr ⟨htype, hkind⟩)
    apply h.named type (mem_compositeTypes_iff.mp hmem).1 hkind
  · intro a ha
    obtain ⟨type, htype, halias⟩ := List.mem_filterMap.mp ha
    have hmem := perm.mem_iff.mp
      (mem_compositeTypes_iff.mpr ⟨htype, (rawName_of_compositeAlias? halias).1⟩)
    have hbefore : a ∈ types.filterMap compositeAlias? :=
      List.mem_filterMap.mpr ⟨type, (mem_compositeTypes_iff.mp hmem).1, halias⟩
    rcases h.targets a hbefore with hknown | ⟨other, hother, hkind, hraw⟩
    · exact .inl hknown
    · have hmem' := perm.mem_iff.mpr (mem_compositeTypes_iff.mpr ⟨hother, hkind⟩)
      exact .inr ⟨other, (mem_compositeTypes_iff.mp hmem').1, hkind, hraw⟩

section

variable {handled : Registry} (h : handled.IsConsistent) (distinct : HaveDistinctNames n d.types)
  (perm : (compositeTypes d'.types).Perm (compositeTypes d.types))
include h distinct perm

/-- What composites refer to does not depend on their order, nor do constants. -/
theorem firstRound_perm :
  (handled.registerAll (compositeEntities n handled d'.types)).constants
      = (handled.registerAll (compositeEntities n handled d.types)).constants
    ∧ ∀ raw, (handled.registerAll (compositeEntities n handled d'.types)).referredName? o raw
      = (handled.registerAll (compositeEntities n handled d.types)).referredName? o raw
  := by
  constructor
  · rw [constants_registerAll, constants_registerAll]
  · intro raw
    rw [referredName?, canonicalOfRaw?_compositeEntities_perm distinct perm h, referredName?]

/-- In another order of composites, raw names lead to the same names. -/
theorem canonicalOfRaw?_registerComposites_perm
    (hrun : registerComposites o n d handled = .ok r)
    (hrun' : registerComposites o n d' handled = .ok r') (raw : String) :
  r'.canonicalOfRaw? raw = r.canonicalOfRaw? raw
  := by
  obtain ⟨hconstants, hreferred⟩ := firstRound_perm (o := o) h distinct perm
  have hall : raw ∈ referredAll (handled.registerAll (compositeEntities n handled d'.types))
        (declaredComposites n d'.types)
      ↔ raw ∈ referredAll (handled.registerAll (compositeEntities n handled d.types))
        (declaredComposites n d.types) := by
    rw [referredAll_congr hconstants]
    apply ((declaredComposites_perm perm n).flatMap_right _).mem_iff
  rw [(registerComposites_learnt h hrun').canonical, (registerComposites_learnt h hrun).canonical,
    hreferred, canonicalOfRaw?_compositeEntities_perm distinct perm h]
  simp only [hall]

/-- In another order, composites learn the same. -/
theorem agrees_of_registerComposites (hrun : registerComposites o n d handled = .ok r)
    (hrun' : registerComposites o n d' handled = .ok r') :
  Agrees r r'
  := by
  have learnt := registerComposites_learnt h hrun
  have learnt' := registerComposites_learnt h hrun'
  obtain ⟨hconstants, hreferred⟩ := firstRound_perm (o := o) h distinct perm
  have hcanonical := canonicalOfRaw?_registerComposites_perm h distinct perm hrun hrun'
  use hcanonical
  intro name e he
  cases hround : (handled.registerAll (compositeEntities n handled d.types)).lookup? name with
  | some e₀ =>
      -- a name of the first round finds what is said of the same entity
      have hround' := (lookup?_compositeEntities_perm distinct perm name).trans hround
      have he' := learnt'.kept name e₀ hround'
      rw [said_perm distinct perm, said_congr hconstants hreferred,
        ← learnt.kept name e₀ hround, he] at he'
      exact ⟨e, he', rfl, rfl⟩
  | none =>
      -- any other name finds a primitive type in both registries
      have primitive {e : Entity} (hwidth : ∃ width, e.kind = .primitive width) :
          e.target? = none ∧ e.composite? = none := by
        obtain ⟨width, hwidth⟩ := hwidth
        simp [Entity.target?, Entity.composite?, hwidth]
      rcases learnt.new name e he with hknown | ⟨hwidth, raw, hraw⟩
      · rw [hround] at hknown
        cases hknown
      · rw [← hcanonical] at hraw
        obtain ⟨e', he', rfl⟩ := Option.map_eq_some_iff.mp hraw
        have hname := learnt'.consistent.lookup?_of_lookupRaw? he'
        rcases learnt'.new e'.name e' hname with hknown | ⟨hwidth', -⟩
        · rw [lookup?_compositeEntities_perm distinct perm, hround] at hknown
          cases hknown
        · obtain ⟨htarget, hcomposite⟩ := primitive hwidth
          obtain ⟨htarget', hcomposite'⟩ := primitive hwidth'
          exact ⟨e', hname, htarget'.trans htarget.symm, hcomposite'.trans hcomposite.symm⟩

/-- In another order, composites are registered if they are in one. -/
theorem exists_registerComposites_perm (bases : ExtendsKnown n d.types handled)
    (hrun : registerComposites o n d handled = .ok r) :
  ∃ r', registerComposites o n d' handled = .ok r'
  := by
  obtain ⟨hcomplete, -⟩ := (registerComposites_eq_ok_iff h).mp hrun
  have learnt := registerComposites_learnt h hrun
  obtain ⟨hconstants, hreferred⟩ := firstRound_perm (o := o) h distinct perm
  have hlearn : ∃ r', (declaredComposites n d'.types).foldlM (learnDeclared o n)
      (handled.registerAll (compositeEntities n handled d'.types)) = .ok r' := by
    apply exists_learnAll (isConsistent_registerAll h _)
    · apply isSome_lookup?_declaredComposites
    · intro p hp
      have congr := descriptionOf_congr hconstants hreferred n p.1.name p.2
      apply congr.2.1.mpr
      apply learnt.described p ((declaredComposites_perm perm n).mem_iff.mp hp)
    · intro p hp raw
      apply (bases.perm perm).isSome_canonicalOfRaw? h hp
  obtain ⟨r', hlearn⟩ := hlearn
  exact ⟨r', (registerComposites_eq_ok_iff h).mpr ⟨hcomplete.perm perm, hlearn⟩⟩

end

/-- What a raw name resolves to: the canonical name, and the composite if it is one. -/
def meaning? (r : Registry) (raw : String) : Option (String × Option Composite) :=
  (r.resolveRaw raw).toOption.map fun e => (e.name, e.composite?)

theorem meaning?_eq_some_iff {found : String × Option Composite} :
  r.meaning? raw = some found ↔ ∃ e, r.resolveRaw raw = .ok e ∧ (e.name, e.composite?) = found
  := by
  simp only [meaning?, Option.map_eq_some_iff, Outcome.toOption_eq_some_iff]

/-- Where two registries agree both ways, raw names mean the same. -/
theorem meaning?_of_agrees (h : Agrees r r') (h' : Agrees r' r) (consistent : r.IsConsistent)
    (consistent' : r'.IsConsistent) (raw : String) :
  r'.meaning? raw = r.meaning? raw
  := by
  apply Option.ext
  intro found
  rw [meaning?_eq_some_iff, meaning?_eq_some_iff]
  constructor
  · rintro ⟨e', hresolved, rfl⟩
    obtain ⟨e, hresolved, hname, hcomposite⟩ := h'.resolveRaw consistent' consistent hresolved
    exact ⟨e, hresolved, by rw [hname, hcomposite]⟩
  · rintro ⟨e, hresolved, rfl⟩
    obtain ⟨e', hresolved, hname, hcomposite⟩ := h.resolveRaw consistent consistent' hresolved
    exact ⟨e', hresolved, by rw [hname, hcomposite]⟩

/-- A document with the composites in another order has a registry that agrees. -/
theorem exists_ofDocument_permuted (permuted : PermutesComposites d d')
    (distinct : HaveDistinctNames n d.types)
    (bases : ∀ handled, ofHandles o n d = .ok handled → ExtendsKnown n d.types handled)
    (h : ofDocument o n d = .ok r) :
  ∃ r', ofDocument o n d' = .ok r' ∧ Agrees r r' ∧ Agrees r' r
  := by
  obtain ⟨handled, hhandled, hcomposites, hchecked⟩ := ofDocument_eq_ok_iff_ofHandles.mp h
  have consistent := isConsistent_of_ofHandles hhandled
  have perm := permuted.composites
  have distinct' : HaveDistinctNames n d'.types := (perm.filterMap _).nodup_iff.mpr distinct
  obtain ⟨r', hcomposites'⟩ := exists_registerComposites_perm consistent distinct perm
    (bases handled hhandled) hcomposites
  have agrees := agrees_of_registerComposites consistent distinct perm hcomposites hcomposites'
  have agrees' :=
    agrees_of_registerComposites consistent distinct' perm.symm hcomposites' hcomposites
  have consistent' := (registerComposites_learnt consistent hcomposites').consistent
  have hchecked' := agrees'.checkAliases agrees consistent' hchecked
  rw [← ofHandles_congr permuted.beside permuted.plain] at hhandled
  exact ⟨r', ofDocument_eq_ok_iff_ofHandles.mpr ⟨handled, hhandled, hcomposites', hchecked'⟩,
    agrees, agrees'⟩

/-- Every declared raw name that is registered for its own sake means something. -/
theorem isSome_meaning?_of_declares (h : ofDocument o n d = .ok r) {category : String}
    (hcategory : category ∈ registeredCategories) (hraw : d.Declares category raw) :
  (r.meaning? raw).isSome = true
  := by
  have consistent := isConsistent_of_ofDocument h
  have closed := isClosed_of_ofDocument h
  obtain ⟨name, hname⟩ := Option.isSome_iff_exists.mp
    (consistent.isSome_canonicalOfRaw?_iff.mpr (closed.declared category hcategory raw hraw))
  obtain ⟨e, he, -⟩ := closed.names name (isSome_idOf?_canonicalOfRaw? hname)
  have hresolved := (consistent.resolveRaw_eq_ok_iff_denotes hname).mpr
    (resolve_eq_ok_iff_denotes.mp he)
  rw [Option.isSome_iff_exists]
  exact ⟨_, meaning?_eq_some_iff.mpr ⟨e, hresolved, rfl⟩⟩

/-- Where the declarations of composites have different canonical names and extend what is
registered for its own sake, their order does not matter: a document builds in one order
exactly if it does in another, and then all raw names mean the same, and those that are
registered for their own sake mean something. -/
theorem ofDocument_permuted (permuted : PermutesComposites d d')
    (distinct : HaveDistinctNames n d.types)
    (bases : ∀ handled, ofHandles o n d = .ok handled → ExtendsKnown n d.types handled) :
  ((∃ r, ofDocument o n d = .ok r) ↔ ∃ r', ofDocument o n d' = .ok r')
    ∧ ∀ r r', ofDocument o n d = .ok r → ofDocument o n d' = .ok r' →
      (∀ raw, r'.meaning? raw = r.meaning? raw)
        ∧ ∀ category ∈ registeredCategories, ∀ raw, d.Declares category raw →
          (r.meaning? raw).isSome = true
  := by
  have perm := permuted.composites
  have distinct' : HaveDistinctNames n d'.types := (perm.filterMap _).nodup_iff.mpr distinct
  have bases' : ∀ handled, ofHandles o n d' = .ok handled → ExtendsKnown n d'.types handled := by
    intro handled hhandled
    rw [ofHandles_congr permuted.beside permuted.plain] at hhandled
    apply (bases handled hhandled).perm perm
  constructor
  · constructor
    · rintro ⟨r, h⟩
      obtain ⟨r', h', -⟩ := exists_ofDocument_permuted permuted distinct bases h
      exact ⟨r', h'⟩
    · rintro ⟨r', h'⟩
      obtain ⟨r, h, -⟩ := exists_ofDocument_permuted permuted.symm distinct' bases' h'
      exact ⟨r, h⟩
  · intro r r' h h'
    obtain ⟨found, hfound, agrees, agrees'⟩ :=
      exists_ofDocument_permuted permuted distinct bases h
    obtain rfl := Except.ok.inj (hfound.symm.trans h')
    constructor
    · apply meaning?_of_agrees agrees agrees' (isConsistent_of_ofDocument h)
        (isConsistent_of_ofDocument hfound)
    · intro category hcategory raw hraw
      apply isSome_meaning?_of_declares h hcategory hraw

/-- A structure, an alias of it, and a structure that extends it and points to it through the
alias. -/
def linkedDeclarations : List Element := [
  (declaration "struct" "VkBase").withChild (memberDeclaration "uint32_t" " " "value"),
  (declaration "struct" "VkBaseKHR").withAttribute "alias" "VkBase",
  ((declaration "struct" "VkNode").withAttribute "structextends" "VkBase").withChild
    (memberDeclaration "VkBaseKHR" "* " "pNext")]

/-- These mean the same in both directions. -/
theorem ofDocument_permuted_linked :
  ∃ r r',
    ofDocument .standard Options.standard.naming (documentOf linkedDeclarations) = .ok r
    ∧ ofDocument .standard Options.standard.naming (documentOf linkedDeclarations.reverse) = .ok r'
    ∧ (∀ raw, r'.meaning? raw = r.meaning? raw)
    ∧ ∃ c, r'.meaning? "VkNode" = some ("Node", some c) ∧ c.base = some "Base"
      ∧ c.members.map (·.declaredType) = ["BaseKHR"]
  := by
  have permuted : PermutesComposites (documentOf linkedDeclarations)
      (documentOf linkedDeclarations.reverse) :=
    ⟨⟨rfl, rfl, rfl, rfl⟩, rfl, List.reverse_perm linkedDeclarations⟩
  have distinct :
      HaveDistinctNames Options.standard.naming (documentOf linkedDeclarations).types := by
    rw [HaveDistinctNames]
    decide +kernel
  have known : (declaredComposites Options.standard.naming
      (documentOf linkedDeclarations).types).all (fun p => (extendedName? p.2).all fun raw =>
        (compositeTypes (documentOf linkedDeclarations).types).any (·.declaredName? == some raw))
      = true := by
    decide +kernel
  have bases : ∀ handled,
      ofHandles .standard Options.standard.naming (documentOf linkedDeclarations) = .ok handled →
      ExtendsKnown Options.standard.naming (documentOf linkedDeclarations).types handled := by
    intro handled _ p hp raw hraw
    have hknown := List.all_eq_true.mp known p hp
    rw [hraw, Option.all_some, List.any_eq_true] at hknown
    obtain ⟨other, hother, hdeclared⟩ := hknown
    exact .inr ⟨other, hother, eq_of_beq hdeclared⟩
  have evaluated :
      (ofDocument .standard Options.standard.naming
          (documentOf linkedDeclarations)).toOption.any (fun r =>
        (r.meaning? "VkNode").any fun found =>
          found.1 == "Node" && found.2.any fun c =>
            c.base == some "Base" && c.members.map (·.declaredType) == ["BaseKHR"])
        = true := by
    decide +kernel
  obtain ⟨r, hr, h⟩ := (Option.any_eq_true _ _).mp evaluated
  obtain ⟨⟨name, composite⟩, hfound, h⟩ := (Option.any_eq_true _ _).mp h
  simp only [Bool.and_eq_true, beq_iff_eq, Option.any_eq_true] at h
  obtain ⟨rfl, c, rfl, hbase, hmembers⟩ := h
  have built := Outcome.toOption_eq_some_iff.mp hr
  obtain ⟨hiff, alike⟩ := ofDocument_permuted permuted distinct bases
  obtain ⟨r', built'⟩ := hiff.mp ⟨r, built⟩
  obtain ⟨same, -⟩ := alike r r' built built'
  exact ⟨r, r', built, built', same, c, (same "VkNode").trans hfound, hbase, hmembers⟩

/-- A type that is registered only where a member has it. -/
def sizeType : Element :=
  (Element.named "type").withAttribute "name" "size_t"

/-- A structure with such a member. -/
def sizedBuffer : Element :=
  (declaration "struct" "VkBuffer").withChild (memberDeclaration "size_t" " " "size")

/-- A structure that extends such a type. -/
def sizeExtension : Element :=
  (declaration "struct" "VkExtended").withAttribute "structextends" "size_t"

/-- The structure with such a member, and then the one that extends its type. -/
def bufferFirst : Document := documentOf [sizeType, sizedBuffer, sizeExtension]

/-- The same structures the other way round. -/
def extensionFirst : Document := documentOf [sizeType, sizeExtension, sizedBuffer]

/-- Where a structure extends a declared type that is registered only where a member has it,
the order matters, although names differ and none is known before.  The raw name of such a
type resolves to nothing where no member has the type. -/
theorem order_of_unregistered_base :
  PermutesComposites bufferFirst extensionFirst
    ∧ HaveDistinctNames Options.standard.naming bufferFirst.types
    ∧ (∀ handled, ofHandles .standard Options.standard.naming bufferFirst = .ok handled →
      ∀ type ∈ compositeTypes bufferFirst.types, ∀ raw, type.declaredName? = some raw →
        handled.canonicalOfRaw? raw = none
          ∧ handled.lookup? (Options.standard.naming.typeName raw) = none)
    ∧ (∀ type ∈ compositeTypes bufferFirst.types, ∀ raw, extendedName? type = some raw →
      ∃ other ∈ bufferFirst.types, other.declaredName? = some raw)
    ∧ (∃ r, ofDocument .standard Options.standard.naming bufferFirst = .ok r)
    ∧ (¬∃ r', ofDocument .standard Options.standard.naming extensionFirst = .ok r')
    ∧ ∃ r, ofDocument .standard Options.standard.naming (documentOf [sizeType]) = .ok r
      ∧ r.meaning? "size_t" = none
  := by
  refine ⟨?_, ?_, ?_, ?_, ?_, ?_, ?_⟩
  · exact ⟨⟨rfl, rfl, rfl, rfl⟩, rfl, List.Perm.swap sizedBuffer sizeExtension []⟩
  · rw [HaveDistinctNames]
    decide +kernel
  · have fresh : (ofHandles .standard Options.standard.naming
        bufferFirst).toOption.all (fun handled =>
        (compositeTypes bufferFirst.types).all fun type => type.declaredName?.all fun raw =>
          (handled.canonicalOfRaw? raw).isNone
            && (handled.lookup? (Options.standard.naming.typeName raw)).isNone)
        = true := by
      decide +kernel
    intro handled hhandled type htype raw hraw
    rw [Outcome.toOption_eq_some_iff.mpr hhandled, Option.all_some, List.all_eq_true] at fresh
    simpa [hraw] using fresh type htype
  · have declared : (compositeTypes bufferFirst.types).all (fun type =>
        (extendedName? type).all fun raw => bufferFirst.types.any (·.declaredName? == some raw))
        = true := by
      decide +kernel
    intro type htype raw hraw
    have hdeclared := List.all_eq_true.mp declared type htype
    rw [hraw, Option.all_some, List.any_eq_true] at hdeclared
    obtain ⟨other, hother, hname⟩ := hdeclared
    exact ⟨other, hother, eq_of_beq hname⟩
  · apply Outcome.isSome_toOption_iff.mp
    decide +kernel
  · rw [← Outcome.isSome_toOption_iff, Bool.not_eq_true]
    decide +kernel
  · have unknown : (ofDocument .standard Options.standard.naming
        (documentOf [sizeType])).toOption.any (fun r => (r.meaning? "size_t").isNone) = true := by
      decide +kernel
    obtain ⟨r, hr, hnone⟩ := (Option.any_eq_true _ _).mp unknown
    exact ⟨r, Outcome.toOption_eq_some_iff.mp hr, Option.isNone_iff_eq_none.mp hnone⟩

end NativeApi.Registry
