import NativeApi.Proofs.Descriptions

/-!
# The two rounds of composites

In the first round the composites and their aliases are registered, and in the second each
composite learns what its declaration says.  Main statements: the registry of the first
round is that of some entities that the declarations give by themselves, and
`registerComposites_eq_ok_iff`, by which the second round starts from it; in the second
round each composite learns what its declarations say, and the last of them counts.
-/

namespace NativeApi.Registry

variable {r r' r'' : Registry} {o : Options} {n : Naming} {d : Document} {raw name : String}
  {e : Entity} {type : Element} {types : List Element} {a : DeclaredAlias}
  {as : List DeclaredAlias}

/-! ### Declarations -/

/-- The composite that a declaration is, without what it says beside the kind, unless it is
an alias. -/
def compositeShell? (n : Naming) (type : Element) : Option Entity :=
  (compositeKind? type).bind fun kind =>
    type.ownName?.map fun raw =>
      ⟨n.typeName raw, raw, .composite { Composite.shell kind with
        returnedOnly := type.attribute? "returnedonly" == some "true" }⟩

/-- The alias that a declaration of a composite is. -/
def compositeAlias? (type : Element) : Option DeclaredAlias :=
  (compositeKind? type).bind fun _ => type.declaredAlias?

/-- The declared composites with their declarations. -/
def declaredComposites (n : Naming) (types : List Element) : List (Entity × Element) :=
  types.filterMap fun type => (compositeShell? n type).map (·, type)

theorem mem_declaredComposites_iff {p : Entity × Element} :
  p ∈ declaredComposites n types ↔ p.2 ∈ types ∧ compositeShell? n p.2 = some p.1
  := by
  obtain ⟨e, type⟩ := p
  constructor
  · intro h
    obtain ⟨type', htype, hpair⟩ := List.mem_filterMap.mp h
    obtain ⟨e', hshell, heq⟩ := Option.map_eq_some_iff.mp hpair
    obtain ⟨rfl, rfl⟩ := Prod.mk.inj heq
    exact ⟨htype, hshell⟩
  · rintro ⟨htype, hshell⟩
    apply List.mem_filterMap.mpr
    use type, htype
    rw [hshell, Option.map_some]

/-- A declaration has a name if it is one of a composite. -/
def NamesComposite (type : Element) : Prop :=
  (compositeKind? type).isSome = true → type.declaredName?.isSome = true

theorem rawName_of_compositeShell? (h : compositeShell? n type = some e) :
  (compositeKind? type).isSome = true ∧ type.ownName? = some e.rawName
    ∧ e.name = n.typeName e.rawName
  := by
  obtain ⟨kind, hkind, h⟩ := Option.bind_eq_some_iff.mp h
  obtain ⟨raw, hraw, rfl⟩ := Option.map_eq_some_iff.mp h
  exact ⟨Option.isSome_of_eq_some hkind, hraw, rfl⟩

theorem exists_compositeShell? (hkind : (compositeKind? type).isSome = true)
    (hraw : type.ownName? = some raw) (n : Naming) :
  ∃ e, compositeShell? n type = some e ∧ e.rawName = raw
  := by
  obtain ⟨kind, hkind⟩ := Option.isSome_iff_exists.mp hkind
  simp [compositeShell?, hkind, hraw]

theorem rawName_of_compositeAlias? (h : compositeAlias? type = some a) :
  (compositeKind? type).isSome = true ∧ type.declaredAlias? = some a
  := by
  obtain ⟨kind, hkind, h⟩ := Option.bind_eq_some_iff.mp h
  exact ⟨Option.isSome_of_eq_some hkind, h⟩

/-- A declaration is registered, or put off, if it has a name where it needs one. -/
theorem declareComposite_eq_ok_iff {s s' : CompositeDeclarations} :
  declareComposite n s type = .ok s'
    ↔ NamesComposite type
      ∧ ⟨s.registry.registerAll (compositeShell? n type).toList,
          s.declared ++ (compositeShell? n type).toList.map fun e =>
            ((s.registry.register e.rawName e.name e.kind).2, type),
          s.aliases ++ (compositeAlias? type).toList⟩ = s'
  := by
  rw [declareComposite, NamesComposite, compositeShell?, compositeAlias?, Element.ownName?,
    Element.declaredAlias?]
  cases compositeKind? type with
  | none => simp [registerAll, pure, Except.pure]
  | some kind =>
      cases type.declaredName? with
      | none => simp
      | some raw =>
          cases type.attribute? "alias" with
          | some target => simp [registerAll, pure, Except.pure]
          | none => simp [registerAll, registerEntity, pure, Except.pure]

/-- The positions of declared composites are those of their canonical names. -/
def ArePositions (r : Registry) (pairs : List (Entity × Element))
    (declared : List (Nat × Element)) : Prop :=
  List.Forall₂ (fun p entry => r.idOf? p.1.name = some entry.1 ∧ entry.2 = p.2) pairs declared

theorem Extends.arePositions (h : Extends Entity.label r r') {pairs : List (Entity × Element)}
    {declared : List (Nat × Element)} (hpositions : ArePositions r pairs declared) :
  ArePositions r' pairs declared
  := by
  apply List.Forall₂.imp _ hpositions
  rintro p entry ⟨hid, htype⟩
  use h.idOf? hid

/-- Declarations lead from one state to another. -/
structure DeclaresAll (n : Naming) (types : List Element) (s s' : CompositeDeclarations) :
    Prop where
  registry : s'.registry = s.registry.registerAll (types.filterMap (compositeShell? n))
  aliases : s'.aliases = s.aliases ++ types.filterMap compositeAlias?
  declared : ∃ more, s'.declared = s.declared ++ more
    ∧ ArePositions s'.registry (declaredComposites n types) more

theorem extends_registerAll (r : Registry) (es : List Entity) :
  Extends Entity.label r (r.registerAll es)
  := by
  apply List.foldlRecOn (motive := Extends Entity.label r) es registerEntity (.refl _ _)
  intro s hs e _
  apply hs.trans
  apply extends_register

theorem DeclaresAll.trans {types' : List Element} {s s' s'' : CompositeDeclarations}
    (h : DeclaresAll n types s s') (h' : DeclaresAll n types' s' s'') :
  DeclaresAll n (types ++ types') s s''
  := by
  constructor
  · rw [h'.registry, h.registry, List.filterMap_append, registerAll_append]
  · rw [h'.aliases, h.aliases, List.filterMap_append, List.append_assoc]
  · obtain ⟨more, hmore, hpositions⟩ := h.declared
    obtain ⟨more', hmore', hpositions'⟩ := h'.declared
    use more ++ more'
    rw [hmore', hmore, List.append_assoc]
    use rfl
    rw [declaredComposites, List.filterMap_append]
    apply List.rel_append _ hpositions'
    apply Extends.arePositions _ hpositions
    rw [h'.registry]
    apply extends_registerAll

theorem declareComposite_declares {s s' : CompositeDeclarations}
    (h : declareComposite n s type = .ok s') :
  DeclaresAll n [type] s s'
  := by
  obtain ⟨-, rfl⟩ := declareComposite_eq_ok_iff.mp h
  constructor
  · rw [filterMap_cons_eq_append, List.filterMap_nil, List.append_nil]
  · rw [filterMap_cons_eq_append, List.filterMap_nil, List.append_nil]
  · refine ⟨_, rfl, ?_⟩
    rw [declaredComposites, filterMap_cons_eq_append, List.filterMap_nil, List.append_nil]
    cases compositeShell? n type with
    | none => exact .nil
    | some e => exact .cons ⟨idOf?_register _ _ _ _, rfl⟩ .nil

/-- Declared composites are registered, and aliases put off, if all composites have names. -/
theorem declareComposites_declares {s s' : CompositeDeclarations}
    (h : types.foldlM (declareComposite n) s = .ok s') :
  DeclaresAll n types s s'
  := by
  induction types generalizing s with
  | nil =>
      obtain rfl := Outcome.pure_eq_ok_iff.mp h
      constructor
      · rfl
      · simp
      · exact ⟨[], (List.append_nil _).symm, .nil⟩
  | cons type types ih =>
      obtain ⟨next, hnext, hrest⟩ := Outcome.foldlM_cons_eq_ok_iff.mp h
      apply (declareComposite_declares hnext).trans (ih hrest)

/-! ### Aliases -/

/-- The alias of a composite, which stands for what its target leads to, or else for what is
going to be registered under it. -/
def compositeAliasEntity (n : Naming) (r : Registry) (a : DeclaredAlias) : Entity :=
  aliasEntity n a ((r.canonicalOfRaw? a.target).getD (n.typeName a.target))

theorem registerCompositeAlias_eq_ok_iff {names : List String} :
  registerCompositeAlias n names r a = .ok r'
    ↔ ((r.canonicalOfRaw? a.target).isSome = true ∨ a.target ∈ names)
      ∧ r.registerEntity (compositeAliasEntity n r a) = r'
  := by
  rw [registerCompositeAlias, compositeAliasEntity]
  cases r.canonicalOfRaw? a.target with
  | some target => simp [bind, Except.bind, pure, Except.pure, registerEntity, aliasEntity]
  | none =>
      by_cases hmem : a.target ∈ names
      · simp [hmem, bind, Except.bind, pure, Except.pure, registerEntity, aliasEntity]
      · simp [hmem, bind, Except.bind]

/-- What aliases stand for does not depend on entities that are registered under their own
canonical names. -/
theorem compositeAliasEntity_registerAll (h : r.IsConsistent) (es : List Entity)
    (hnames : ∀ e ∈ es, e.name = n.typeName e.rawName) (a : DeclaredAlias) :
  compositeAliasEntity n (r.registerAll es) a = compositeAliasEntity n r a
  := by
  rw [compositeAliasEntity, canonicalOfRaw?_registerAll h, compositeAliasEntity]
  cases r.canonicalOfRaw? a.target with
  | some target => rfl
  | none =>
      cases hfound : es.find? (·.rawName == a.target) with
      | none => rfl
      | some e =>
          have hraw : e.rawName = a.target := by simpa using List.find?_some hfound
          rw [Option.none_or, Option.map_some, hnames e (List.mem_of_find?_eq_some hfound), hraw]
          rfl

/-- Aliases are registered if the target of each is known or that of an alias. -/
theorem registerCompositeAliases_eq_ok_iff {names : List String} (h : r.IsConsistent)
    (hnames : ∀ a ∈ as, a.rawName ∈ names) :
  as.foldlM (registerCompositeAlias n names) r = .ok r'
    ↔ (∀ a ∈ as, (r.canonicalOfRaw? a.target).isSome = true ∨ a.target ∈ names)
      ∧ r.registerAll (as.map (compositeAliasEntity n r)) = r'
  := by
  induction as generalizing r with
  | nil => simp [Outcome.pure_eq_ok_iff, registerAll]
  | cons a as ih =>
      have consistent := isConsistent_registerEntity h (compositeAliasEntity n r a)
      have hentity (b : DeclaredAlias) :
          compositeAliasEntity n (r.registerEntity (compositeAliasEntity n r a)) b
            = compositeAliasEntity n r b := by
        refine compositeAliasEntity_registerAll h [compositeAliasEntity n r a] ?_ b
        intro e he
        obtain rfl := List.mem_singleton.mp he
        rfl
      -- a target that the first alias makes known is the name of an alias anyway
      have htarget (b : DeclaredAlias) :
          ((r.registerEntity (compositeAliasEntity n r a)).canonicalOfRaw? b.target).isSome = true
              ∨ b.target ∈ names
            ↔ (r.canonicalOfRaw? b.target).isSome = true ∨ b.target ∈ names := by
        rw [isSome_canonicalOfRaw?_registerEntity_iff h]
        constructor
        · rintro ((hknown | hname) | hmem)
          · exact .inl hknown
          · right
            rw [← hname]
            apply hnames a List.mem_cons_self
          · exact .inr hmem
        · rintro (hknown | hmem)
          · exact .inl (.inl hknown)
          · exact .inr hmem
      simp only [Outcome.foldlM_cons_eq_ok_iff, registerCompositeAlias_eq_ok_iff,
        List.forall_mem_cons]
      constructor
      · rintro ⟨next, ⟨hfirst, rfl⟩, hrest⟩
        obtain ⟨hknown, rfl⟩ :=
          (ih consistent fun b hb => hnames b (List.mem_cons_of_mem _ hb)).mp hrest
        refine ⟨⟨hfirst, fun b hb => (htarget b).mp (hknown b hb)⟩, ?_⟩
        rw [List.map_cons, funext hentity]
        rfl
      · rintro ⟨⟨hfirst, hrest⟩, rfl⟩
        refine ⟨_, ⟨hfirst, rfl⟩, ?_⟩
        apply (ih consistent fun b hb => hnames b (List.mem_cons_of_mem _ hb)).mpr
        refine ⟨fun b hb => (htarget b).mpr (hrest b hb), ?_⟩
        rw [List.map_cons, funext hentity]
        rfl

/-! ### The first round -/

/-- The entities that the declarations of composites give. -/
def compositeEntities (n : Naming) (r : Registry) (types : List Element) : List Entity :=
  types.filterMap (compositeShell? n)
    ++ (types.filterMap compositeAlias?).map (compositeAliasEntity n r)

/-- The declarations of composites have names, and each alias stands for a known type or for
a declared composite. -/
structure AreComposites (types : List Element) (r : Registry) : Prop where
  named : ∀ type ∈ types, NamesComposite type
  targets : ∀ a ∈ types.filterMap compositeAlias?, (r.canonicalOfRaw? a.target).isSome = true
    ∨ ∃ type ∈ types, (compositeKind? type).isSome = true ∧ type.declaredName? = some a.target

/-- A composite of a raw name is registered under it in the first round, or an alias of that
raw name is. -/
theorem exists_compositeEntity_iff (n : Naming) :
  (∃ type ∈ types, (compositeKind? type).isSome = true ∧ type.declaredName? = some raw)
    ↔ (∃ e ∈ types.filterMap (compositeShell? n), e.rawName = raw)
      ∨ raw ∈ (types.filterMap compositeAlias?).map (·.rawName)
  := by
  constructor
  · rintro ⟨type, htype, hkind, hraw⟩
    rcases Element.ownName?_or_declaredAlias? hraw with hown | ⟨target, halias⟩
    · left
      obtain ⟨e, hshell, hname⟩ := exists_compositeShell? hkind hown n
      use e, List.mem_filterMap.mpr ⟨type, htype, hshell⟩
    · right
      obtain ⟨kind, hkind⟩ := Option.isSome_iff_exists.mp hkind
      apply List.mem_map.mpr
      refine ⟨⟨raw, target⟩, List.mem_filterMap.mpr ⟨type, htype, ?_⟩, rfl⟩
      rw [compositeAlias?, hkind, Option.bind_some, halias]
  · rintro (⟨e, he, rfl⟩ | hmem)
    · obtain ⟨type, htype, hshell⟩ := List.mem_filterMap.mp he
      obtain ⟨hkind, hown, -⟩ := rawName_of_compositeShell? hshell
      exact ⟨type, htype, hkind, Element.declaredName?_of_ownName? hown⟩
    · obtain ⟨a, ha, rfl⟩ := List.mem_map.mp hmem
      obtain ⟨type, htype, halias⟩ := List.mem_filterMap.mp ha
      obtain ⟨hkind, hdeclared⟩ := rawName_of_compositeAlias? halias
      exact ⟨type, htype, hkind, Element.declaredName?_of_declaredAlias? hdeclared⟩

/-- The targets of aliases are known once composites are registered, or those of aliases. -/
theorem known_or_mem_iff (h : r.IsConsistent) (n : Naming) :
  ((r.registerAll (types.filterMap (compositeShell? n))).canonicalOfRaw? raw).isSome = true
      ∨ raw ∈ (types.filterMap compositeAlias?).map (·.rawName)
    ↔ (r.canonicalOfRaw? raw).isSome = true
      ∨ ∃ type ∈ types, (compositeKind? type).isSome = true ∧ type.declaredName? = some raw
  := by
  rw [isSome_canonicalOfRaw?_registerAll_iff h, exists_compositeEntity_iff n, or_assoc]

/-! ### The second round -/

/-- The registry once a declared composite has learnt what its declaration says. -/
def learnDeclared (o : Options) (n : Naming) (r : Registry) (p : Entity × Element) :
    Except Error Registry :=
  match r.idOf? p.1.name with
  | some id => learnMembers o n r (id, p.2)
  | none => .ok r

/-- The positions of the first round are those that canonical names lead to. -/
theorem foldlM_learnMembers {pairs : List (Entity × Element)} {declared : List (Nat × Element)}
    (hpositions : ArePositions r pairs declared) :
  declared.foldlM (learnMembers o n) r = pairs.foldlM (learnDeclared o n) r
  := by
  induction pairs generalizing r declared with
  | nil =>
      cases hpositions
      rfl
  | cons p pairs ih =>
      obtain ⟨⟨id, type⟩, rest, ⟨hid, rfl⟩, hrest, rfl⟩ := List.forall₂_cons_left_iff.mp hpositions
      have hlearn : learnDeclared o n r p = learnMembers o n r (id, p.2) := by
        rw [learnDeclared, hid]
      rw [List.foldlM_cons, List.foldlM_cons, hlearn]
      cases hnext : learnMembers o n r (id, p.2) with
      | error problem => rfl
      | ok next => exact ih ((learnMembers_grows hnext).extended.arePositions hrest)

/-- The stage of composites registers the entities that the declarations give, and then each
composite learns what its declaration says. -/
theorem registerComposites_eq_ok_iff (h : r.IsConsistent) :
  registerComposites o n d r = .ok r'
    ↔ AreComposites d.types r
      ∧ (declaredComposites n d.types).foldlM (learnDeclared o n)
          (r.registerAll (compositeEntities n r d.types)) = .ok r'
  := by
  have shells : ∀ e ∈ d.types.filterMap (compositeShell? n), e.name = n.typeName e.rawName := by
    intro e he
    obtain ⟨type, -, hshell⟩ := List.mem_filterMap.mp he
    apply (rawName_of_compositeShell? hshell).2.2
  have hentities :
      ((r.registerAll (d.types.filterMap (compositeShell? n))).registerAll
        ((d.types.filterMap compositeAlias?).map (compositeAliasEntity n
          (r.registerAll (d.types.filterMap (compositeShell? n))))))
        = r.registerAll (compositeEntities n r d.types) := by
    rw [compositeEntities, registerAll_append, funext (compositeAliasEntity_registerAll h _ shells)]
  have settle {s : CompositeDeclarations} {R : Registry}
      (declares : DeclaresAll n d.types ⟨r, [], []⟩ s) :
      s.aliases.foldlM (registerCompositeAlias n (s.aliases.map (·.rawName))) s.registry = .ok R
        ↔ (∀ a ∈ d.types.filterMap compositeAlias?, (r.canonicalOfRaw? a.target).isSome = true
            ∨ ∃ type ∈ d.types, (compositeKind? type).isSome = true
              ∧ type.declaredName? = some a.target)
          ∧ r.registerAll (compositeEntities n r d.types) = R := by
    rw [declares.registry, declares.aliases, List.nil_append,
      registerCompositeAliases_eq_ok_iff (isConsistent_registerAll h _)
        (fun a ha => List.mem_map_of_mem ha), hentities]
    simp only [known_or_mem_iff h]
  have positions {s : CompositeDeclarations} (declares : DeclaresAll n d.types ⟨r, [], []⟩ s) :
      ArePositions (r.registerAll (compositeEntities n r d.types)) (declaredComposites n d.types)
        s.declared := by
    obtain ⟨more, hmore, hpositions⟩ := declares.declared
    rw [hmore, List.nil_append]
    apply Extends.arePositions _ hpositions
    rw [declares.registry, compositeEntities, registerAll_append]
    apply extends_registerAll
  have named_iff : (∃ s, d.types.foldlM (declareComposite n) ⟨r, [], []⟩ = .ok s)
      ↔ ∀ type ∈ d.types, NamesComposite type := by
    apply Outcome.exists_foldlM_eq_ok_iff
    intro s type
    simp [declareComposite_eq_ok_iff]
  simp only [registerComposites, Outcome.bind_eq_ok_iff]
  constructor
  · rintro ⟨s, hdeclared, next, haliases, hlearn⟩
    have declares := declareComposites_declares hdeclared
    obtain ⟨targets, rfl⟩ := (settle declares).mp haliases
    rw [foldlM_learnMembers (positions declares)] at hlearn
    exact ⟨⟨named_iff.mp ⟨s, hdeclared⟩, targets⟩, hlearn⟩
  · rintro ⟨⟨named, targets⟩, hlearn⟩
    obtain ⟨s, hdeclared⟩ := named_iff.mpr named
    have declares := declareComposites_declares hdeclared
    rw [← foldlM_learnMembers (positions declares)] at hlearn
    exact ⟨s, hdeclared, _, (settle declares).mpr ⟨targets, rfl⟩, hlearn⟩

/-! ### What composites learn -/

section

variable {pairs pairs' : List (Entity × Element)} {p : Entity × Element}

/-- The raw names that the members of declared composites refer to. -/
def referredAll (r : Registry) (pairs : List (Entity × Element)) : List String :=
  pairs.flatMap fun p => referredTypes r p.1.name p.2

/-- What declarations make of the entity of a name, one after the other. -/
def said (o : Options) (n : Naming) (r : Registry) (pairs : List (Entity × Element))
    (name : String) (kind : Entity.Kind) : Entity.Kind :=
  pairs.foldl (fun kind p =>
    if p.1.name = name then (descriptionOf o n r name p.2).apply kind else kind) kind

/-- Declared composites have learnt what their declarations say in one registry once it has
become another. -/
structure Learnt (o : Options) (n : Naming) (pairs : List (Entity × Element))
    (r r' : Registry) : Prop extends SettlesNames o (referredAll r pairs) r r' where
  described : ∀ p ∈ pairs, IsDescribed o n r p.1.name p.2
  kept : ∀ name e, r.lookup? name = some e →
    r'.lookup? name = some { e with kind := said o n r pairs name e.kind }
  new : ∀ name e, r'.lookup? name = some e → (r.lookup? name).isSome = true
    ∨ (∃ width, e.kind = .primitive width) ∧ ∃ raw, r'.canonicalOfRaw? raw = some name

theorem Learnt.refl (h : r.IsConsistent) :
  Learnt o n [] r r
  := by
  use .refl h
  · simp
  · intro name e he
    exact he
  · intro name e he
    exact .inl (Option.isSome_of_eq_some he)

/-- Nothing that is said makes anything else of a primitive type. -/
theorem said_primitive (o : Options) (n : Naming) (r : Registry)
    (pairs : List (Entity × Element)) (name : String) (width : Width) :
  said o n r pairs name (.primitive width) = .primitive width
  := by
  induction pairs with
  | nil => rfl
  | cons p pairs ih =>
      rw [said, List.foldl_cons]
      split <;> exact ih

theorem said_congr (hconstants : r'.constants = r.constants)
    (hnames : ∀ raw, r'.referredName? o raw = r.referredName? o raw)
    (pairs : List (Entity × Element)) (name : String) (kind : Entity.Kind) :
  said o n r' pairs name kind = said o n r pairs name kind
  := by
  have hdescription (type : Element) := (descriptionOf_congr hconstants hnames n name type).1
  simp only [said, hdescription]

theorem referredAll_congr (hconstants : r'.constants = r.constants)
    (pairs : List (Entity × Element)) :
  referredAll r' pairs = referredAll r pairs
  := by
  simp only [referredAll, referredTypes, funext (referredType?_congr hconstants _)]

theorem Learnt.trans (h : Learnt o n pairs r r') (h' : Learnt o n pairs' r' r'') :
  Learnt o n (pairs ++ pairs') r r''
  := by
  constructor
  · have names := h.toSettlesNames.trans h'.toSettlesNames
    rw [referredAll_congr h.constants] at names
    rw [referredAll, List.flatMap_append]
    exact names
  · intro p hp
    rcases List.mem_append.mp hp with hp | hp
    · apply h.described p hp
    · have congr := descriptionOf_congr h.constants h.referredName?_eq n p.1.name p.2
      apply congr.2.1.mp (h'.described p hp)
  · intro name e he
    rw [h'.kept name _ (h.kept name e he), said_congr h.constants h.referredName?_eq, said, said,
      said, List.foldl_append]
  · intro name e he
    rcases h'.new name e he with hknown | hnew
    · obtain ⟨e', he'⟩ := Option.isSome_iff_exists.mp hknown
      rcases h.new name e' he' with hknown | ⟨⟨width, hwidth⟩, raw, hraw⟩
      · exact .inl hknown
      · have he' := h'.kept name e' he'
        rw [he] at he'
        obtain rfl := Option.some.inj he'
        refine .inr ⟨⟨width, ?_⟩, raw, h'.canonicalOfRaw?_of_eq_some hraw⟩
        rw [hwidth, said_primitive]
    · exact .inr hnew

/-- What is found goes on to be found. -/
theorem Learnt.isSome_lookup? (h : Learnt o n pairs r r')
    (hknown : (r.lookup? name).isSome = true) :
  (r'.lookup? name).isSome = true
  := by
  obtain ⟨e, he⟩ := Option.isSome_iff_exists.mp hknown
  rw [h.kept _ e he]
  rfl

/-- A declared composite learns what its declaration says. -/
theorem learnDeclared_learnt (h : r.IsConsistent) (hknown : (r.lookup? p.1.name).isSome = true)
    (hlearn : learnDeclared o n r p = .ok r') :
  Learnt o n [p] r r'
  := by
  obtain ⟨id, hid⟩ := Option.isSome_iff_exists.mp (isSome_lookup?_iff.mp hknown)
  obtain ⟨owner, howner, hname⟩ := exists_get?_of_idOf? hid
  rw [learnDeclared, hid] at hlearn
  have hnameOf : r.nameOf id = p.1.name := by
    rw [nameOf, howner]
    exact hname
  obtain ⟨described, next, builds, refers, rfl⟩ := learnMembers_describes h hnameOf hlearn
  have grows : Grows o.fieldCounters r next := builds.grows
  have hposition (name : String) : next.idOf? name = some id ↔ p.1.name = name := by
    constructor
    · intro hname'
      obtain ⟨e, he, rfl⟩ := exists_get?_of_idOf? hname'
      obtain ⟨e', he', hlabel⟩ := grows.extended.get? howner
      obtain rfl := Option.some.inj (he.symm.trans he')
      rw [← hname]
      apply congrArg Prod.fst hlabel.symm
    · rintro rfl
      apply grows.extended.idOf? hid
  constructor
  · constructor
    · apply refers.consistent.modifyKind
    · exact refers.constants
    · intro raw
      rw [canonicalOfRaw?_modifyKind, refers.canonical]
      simp [referredAll]
  · intro q hq
    obtain rfl := List.mem_singleton.mp hq
    exact described
  · intro name e he
    rw [lookup?_modifyKind, refers.kept name e he, Option.map_some]
    simp only [hposition, said, List.foldl_cons, List.foldl_nil]
    by_cases hname' : p.1.name = name
    · simp [hname']
    · simp [hname']
  · intro name e he
    rw [lookup?_modifyKind] at he
    obtain ⟨e', he', rfl⟩ := Option.map_eq_some_iff.mp he
    rcases refers.new name e' he' with hold | ⟨⟨width, hwidth⟩, raw, hraw⟩
    · exact .inl (Option.isSome_of_eq_some hold)
    · by_cases hname' : p.1.name = name
      · left
        rw [← hname']
        exact hknown
      · right
        simp only [hposition, if_neg hname', canonicalOfRaw?_modifyKind]
        exact ⟨⟨width, hwidth⟩, raw, hraw⟩

/-- In the second round, declared composites learn what their declarations say. -/
theorem learnAll_learnt (h : r.IsConsistent)
    (known : ∀ p ∈ pairs, (r.lookup? p.1.name).isSome = true)
    (hlearn : pairs.foldlM (learnDeclared o n) r = .ok r') :
  Learnt o n pairs r r'
  := by
  induction pairs generalizing r with
  | nil =>
      obtain rfl := Outcome.pure_eq_ok_iff.mp hlearn
      apply Learnt.refl h
  | cons p pairs ih =>
      obtain ⟨next, hnext, hrest⟩ := Outcome.foldlM_cons_eq_ok_iff.mp hlearn
      have first := learnDeclared_learnt h (known p List.mem_cons_self) hnext
      apply first.trans (ih first.consistent _ hrest)
      intro q hq
      apply first.isSome_lookup? (known q (List.mem_cons_of_mem _ hq))

/-- A declared composite can learn what its declaration says where it extends a known
structure. -/
theorem exists_learnDeclared (h : r.IsConsistent)
    (described : IsDescribed o n r p.1.name p.2)
    (hbase : ∀ raw, extendedName? p.2 = some raw → (r.canonicalOfRaw? raw).isSome = true) :
  ∃ r', learnDeclared o n r p = .ok r'
  := by
  rw [learnDeclared]
  cases hid : r.idOf? p.1.name with
  | none => exact ⟨r, rfl⟩
  | some id =>
      obtain ⟨owner, howner, hname⟩ := exists_get?_of_idOf? hid
      apply exists_learnMembers h _ described hbase
      rw [nameOf, howner]
      exact hname

/-- The second round succeeds where declarations are in order and extend known structures. -/
theorem exists_learnAll (h : r.IsConsistent)
    (known : ∀ p ∈ pairs, (r.lookup? p.1.name).isSome = true)
    (described : ∀ p ∈ pairs, IsDescribed o n r p.1.name p.2)
    (bases : ∀ p ∈ pairs, ∀ raw, extendedName? p.2 = some raw →
      (r.canonicalOfRaw? raw).isSome = true) :
  ∃ r', pairs.foldlM (learnDeclared o n) r = .ok r'
  := by
  induction pairs generalizing r with
  | nil => exact ⟨r, rfl⟩
  | cons p pairs ih =>
      obtain ⟨next, hnext⟩ := exists_learnDeclared h (described p List.mem_cons_self)
        (bases p List.mem_cons_self)
      have first := learnDeclared_learnt h (known p List.mem_cons_self) hnext
      have rest : ∃ r', pairs.foldlM (learnDeclared o n) next = .ok r' := by
        apply ih first.consistent
        · intro q hq
          apply first.isSome_lookup? (known q (List.mem_cons_of_mem _ hq))
        · intro q hq
          have congr := descriptionOf_congr first.constants first.referredName?_eq n q.1.name q.2
          apply congr.2.1.mpr (described q (List.mem_cons_of_mem _ hq))
        · intro q hq raw hraw
          apply first.isSome_canonicalOfRaw? (bases q (List.mem_cons_of_mem _ hq) raw hraw)
      obtain ⟨r', hrest⟩ := rest
      exact ⟨r', Outcome.foldlM_cons_eq_ok_iff.mpr ⟨next, hnext, hrest⟩⟩

/-- What is said last is all that is said. -/
theorem Description.apply_said (described : Description) (o : Options) (n : Naming) (r : Registry)
    (pairs : List (Entity × Element)) (name : String) (kind : Entity.Kind) :
  described.apply (said o n r pairs name kind) = described.apply kind
  := by
  induction pairs generalizing kind with
  | nil => rfl
  | cons p pairs ih =>
      rw [said, List.foldl_cons]
      apply (ih _).trans
      split
      · apply Description.apply_apply
      · rfl

end

/-- Every declared composite is registered in the first round. -/
theorem isSome_lookup?_declaredComposites (n : Naming) (r : Registry) (types : List Element) :
  ∀ p ∈ declaredComposites n types,
    ((r.registerAll (compositeEntities n r types)).lookup? p.1.name).isSome = true
  := by
  rintro ⟨e, type⟩ hp
  have hmem : e ∈ compositeEntities n r types :=
    List.mem_append_left _ (List.mem_filterMap.mpr ⟨type, mem_declaredComposites_iff.mp hp⟩)
  obtain ⟨found, -, hfound, -⟩ := exists_find?_eq_some hmem (·.name)
  rw [lookup?_registerAll, hfound]
  simp

/-- The stage of composites leaves what the declarations say. -/
theorem registerComposites_learnt (h : r.IsConsistent)
    (hrun : registerComposites o n d r = .ok r') :
  Learnt o n (declaredComposites n d.types) (r.registerAll (compositeEntities n r d.types)) r'
  := by
  obtain ⟨-, hlearn⟩ := (registerComposites_eq_ok_iff h).mp hrun
  apply learnAll_learnt (isConsistent_registerAll h _) _ hlearn
  apply isSome_lookup?_declaredComposites

end NativeApi.Registry
