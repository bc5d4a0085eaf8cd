import NativeApi.Proofs.Lookups

/-!
# Aliases of handles

The handles of a document are registered before their aliases, and each alias looks its
target up when its turn comes.  Main statement: registration succeeds exactly if every
declaration is complete and every alias stands for a type that is known before it, so an
alias has to follow the alias that it stands for; and then every chain of aliases of which
no name is declared twice leads to the handle at its end.
-/

namespace NativeApi

namespace Registry

variable {r r' : Registry} {n : Naming} {d : Document} {type : Element} {e : Entity}
  {types : List Element} {raw : String} {a : DeclaredAlias} {as : List DeclaredAlias}

/-! ### Declarations -/

/-- The handle that a declaration is, unless it is an alias. -/
def handleEntity? (n : Naming) (type : Element) : Option Entity :=
  type.ownName?.bind fun raw =>
    (type.childText? "type").bind fun definition =>
      (Handle.isDispatchable definition (n.typeName raw)).toOption.map fun dispatchable =>
        ⟨n.typeName raw, raw, .handle ⟨dispatchable, parentOf type, []⟩⟩

/-- A declaration is one of a handle or of an alias. -/
def DeclaresHandle (n : Naming) (type : Element) : Prop :=
  (handleEntity? n type).isSome = true ∨ type.declaredAlias?.isSome = true

theorem registerHandle_eq_ok_iff {state : Registry × List DeclaredAlias} :
  registerHandle n (r, as) type = .ok state
    ↔ DeclaresHandle n type
      ∧ state = (r.registerAll (handleEntity? n type).toList, as ++ type.declaredAlias?.toList)
  := by
  rw [registerHandle, DeclaresHandle, handleEntity?, Element.ownName?, Element.declaredAlias?]
  cases hraw : type.declaredName? with
  | none => cases type.attribute? "alias" <;> simp
  | some raw =>
      cases halias : type.attribute? "alias" with
      | some target => simp [registerAll, pure, Except.pure, eq_comm]
      | none =>
          cases hdefinition : type.childText? "type" with
          | none => simp
          | some definition =>
              cases hmacro : Handle.isDispatchable definition (n.typeName raw) with
              | error problem => simp [Except.toOption, bind, Except.bind, hmacro]
              | ok dispatchable =>
                  simp [Except.toOption, bind, Except.bind, hmacro, registerAll, registerEntity,
                    pure, Except.pure, eq_comm]

/-- Declared handles are registered, and aliases put off, if all declarations are complete. -/
theorem registerHandles_declared_iff {state : Registry × List DeclaredAlias} :
  types.foldlM (registerHandle n) (r, as) = .ok state
    ↔ (∀ type ∈ types, DeclaresHandle n type)
      ∧ state = (r.registerAll (types.filterMap (handleEntity? n)),
          as ++ types.filterMap Element.declaredAlias?)
  := by
  induction types generalizing r as with
  | nil =>
      rw [List.foldlM_nil, Outcome.pure_eq_ok_iff]
      simp [registerAll, eq_comm]
  | cons type types ih =>
      rw [filterMap_cons_eq_append, filterMap_cons_eq_append, registerAll_append,
        ← List.append_assoc, List.forall_mem_cons, and_assoc, ← ih, Outcome.foldlM_cons_eq_ok_iff]
      constructor
      · rintro ⟨next, hnext, hrest⟩
        obtain ⟨hcomplete, rfl⟩ := registerHandle_eq_ok_iff.mp hnext
        use hcomplete, hrest
      · rintro ⟨hcomplete, hrest⟩
        exact ⟨_, registerHandle_eq_ok_iff.mpr ⟨hcomplete, rfl⟩, hrest⟩

/-! ### Aliases -/

theorem registerHandleAlias_eq_ok_iff :
  registerHandleAlias n r a = .ok r'
    ↔ ∃ target, r.canonicalOfRaw? a.target = some target
      ∧ r' = r.registerEntity (aliasEntity n a target)
  := by
  rw [registerHandleAlias]
  cases r.canonicalOfRaw? a.target with
  | none => simp
  | some target => simp [registerEntity, aliasEntity, eq_comm]

/-- Each alias stands for a type that is known, or for an alias before it. -/
def InOrder (known : String → Prop) : List DeclaredAlias → Prop
  | [] => True
  | a :: as => known a.target ∧ InOrder (fun raw => known raw ∨ a.rawName = raw) as

/-- Aliases are in order where each stands for a type that is known or for one before it. -/
theorem inOrder_iff {known : String → Prop} :
  InOrder known as
    ↔ ∀ front a back, as = front ++ a :: back →
      known a.target ∨ ∃ b ∈ front, b.rawName = a.target
  := by
  induction as generalizing known with
  | nil => simp [InOrder]
  | cons first as ih =>
      rw [InOrder, ih]
      constructor
      · rintro ⟨hfirst, hrest⟩ front a back heq
        cases front with
        | nil =>
            obtain ⟨rfl, -⟩ := List.cons.inj heq
            exact .inl hfirst
        | cons head front =>
            obtain ⟨rfl, htail⟩ := List.cons.inj heq
            rcases hrest front a back htail with (hknown | hname) | ⟨b, hb, hname⟩
            · exact .inl hknown
            · exact .inr ⟨first, List.mem_cons_self, hname⟩
            · exact .inr ⟨b, List.mem_cons_of_mem _ hb, hname⟩
      · intro h
        constructor
        · simpa using h [] first as rfl
        · intro front a back heq
          rcases h (first :: front) a back (by rw [heq, List.cons_append]) with
            hknown | ⟨b, hb, hname⟩
          · exact .inl (.inl hknown)
          · rcases List.mem_cons.mp hb with rfl | hb
            · exact .inl (.inr hname)
            · exact .inr ⟨b, hb, hname⟩

/-- Aliases are registered if they are in order. -/
theorem exists_registerHandleAliases_iff (h : r.IsConsistent) :
  (∃ r', as.foldlM (registerHandleAlias n) r = .ok r')
    ↔ InOrder (fun raw => (r.canonicalOfRaw? raw).isSome = true) as
  := by
  induction as generalizing r with
  | nil => simp [InOrder, Outcome.pure_eq_ok_iff]
  | cons a as ih =>
      simp only [Outcome.foldlM_cons_eq_ok_iff, registerHandleAlias_eq_ok_iff, InOrder,
        Option.isSome_iff_exists]
      -- what is known after the first alias does not depend on the name of its target
      have known (target : String) :
          (∃ r', as.foldlM (registerHandleAlias n) (r.registerEntity (aliasEntity n a target))
              = .ok r')
            ↔ InOrder (fun raw => (∃ name, r.canonicalOfRaw? raw = some name) ∨ a.rawName = raw)
              as := by
        rw [ih (isConsistent_registerEntity h _)]
        simp only [isSome_canonicalOfRaw?_registerEntity_iff h, Option.isSome_iff_exists]
        rfl
      constructor
      · rintro ⟨r', next, ⟨target, htarget, rfl⟩, hrest⟩
        exact ⟨⟨target, htarget⟩, (known target).mp ⟨r', hrest⟩⟩
      · rintro ⟨⟨target, htarget⟩, hrest⟩
        obtain ⟨r', hrest⟩ := (known target).mpr hrest
        exact ⟨r', _, ⟨target, htarget, rfl⟩, hrest⟩

/-- Registered aliases carry the canonical names of their targets. -/
theorem registerHandleAliases_entities (h : r.IsConsistent)
    (hrun : as.foldlM (registerHandleAlias n) r = .ok r') :
  ∃ es, r' = r.registerAll es
    ∧ List.Forall₂ (fun a e => ∃ target, r'.canonicalOfRaw? a.target = some target
        ∧ e = aliasEntity n a target) as es
  := by
  induction as generalizing r with
  | nil =>
      obtain rfl := Outcome.pure_eq_ok_iff.mp hrun
      exact ⟨[], rfl, .nil⟩
  | cons a as ih =>
      obtain ⟨next, hnext, hrest⟩ := Outcome.foldlM_cons_eq_ok_iff.mp hrun
      obtain ⟨target, htarget, rfl⟩ := registerHandleAlias_eq_ok_iff.mp hnext
      obtain ⟨es, rfl, hes⟩ := ih (isConsistent_registerEntity h _) hrest
      use aliasEntity n a target :: es, rfl
      apply List.Forall₂.cons _ hes
      use target
      constructor
      · apply canonicalOfRaw?_registerAll_of_eq_some h (aliasEntity n a target :: es) htarget
      · rfl

/-! ### All declarations -/

/-- The declarations of handles are complete, and each alias stands for a type of an earlier
stage, for a declared handle or for an alias before it. -/
structure HandlesInOrder (n : Naming) (types : List Element) (r : Registry) : Prop where
  complete : ∀ type ∈ types, DeclaresHandle n type
  inOrder : ∀ front a back, types.filterMap Element.declaredAlias? = front ++ a :: back →
    (r.canonicalOfRaw? a.target).isSome = true
      ∨ (∃ type ∈ types, type.ownName? = some a.target)
      ∨ ∃ b ∈ front, b.rawName = a.target

theorem rawName_of_handleEntity? (h : handleEntity? n type = some e) :
  type.ownName? = some e.rawName ∧ e.name = n.typeName e.rawName
  := by
  obtain ⟨raw, hraw, h⟩ := Option.bind_eq_some_iff.mp h
  obtain ⟨definition, -, h⟩ := Option.bind_eq_some_iff.mp h
  obtain ⟨dispatchable, -, rfl⟩ := Option.map_eq_some_iff.mp h
  exact ⟨hraw, rfl⟩

/-- A complete declaration that is no alias declares a handle of its raw name. -/
theorem DeclaresHandle.exists_entity (h : DeclaresHandle n type) (hraw : type.ownName? = some raw) :
  ∃ e, handleEntity? n type = some e ∧ e.rawName = raw
  := by
  rcases h with h | h
  · obtain ⟨e, he⟩ := Option.isSome_iff_exists.mp h
    use e, he
    apply Option.some.inj ((rawName_of_handleEntity? he).1.symm.trans hraw)
  · rw [Element.declaredAlias?_of_ownName? hraw] at h
    cases h

/-- Handles are registered exactly if their declarations are complete and in order. -/
theorem exists_registerHandles_iff (h : r.IsConsistent) :
  (∃ r', registerHandles n d r = .ok r') ↔ HandlesInOrder n (d.typesOf "handle") r
  := by
  simp only [registerHandles, Outcome.bind_eq_ok_iff, registerHandles_declared_iff,
    List.nil_append]
  constructor
  · rintro ⟨r', state, ⟨complete, rfl⟩, hrun⟩
    use complete
    have ordered := inOrder_iff.mp ((exists_registerHandleAliases_iff
      (isConsistent_registerAll h _)).mp ⟨r', hrun⟩)
    intro front a back heq
    rcases ordered front a back heq with hknown | hbefore
    · rcases (isSome_canonicalOfRaw?_registerAll_iff h _ _).mp hknown with hearlier | ⟨e, he, hraw⟩
      · exact .inl hearlier
      · obtain ⟨type, htype, hentity⟩ := List.mem_filterMap.mp he
        right
        left
        use type, htype
        rw [← hraw]
        apply (rawName_of_handleEntity? hentity).1
    · exact .inr (.inr hbefore)
  · rintro ⟨complete, ordered⟩
    have run : InOrder (fun raw =>
        ((r.registerAll ((d.typesOf "handle").filterMap (handleEntity? n))).canonicalOfRaw?
          raw).isSome = true) ((d.typesOf "handle").filterMap Element.declaredAlias?) := by
      apply inOrder_iff.mpr
      intro front a back heq
      rcases ordered front a back heq with hearlier | ⟨type, htype, hraw⟩ | hbefore
      · exact .inl ((isSome_canonicalOfRaw?_registerAll_iff h _ _).mpr (.inl hearlier))
      · obtain ⟨e, he, hname⟩ := (complete type htype).exists_entity hraw
        left
        apply (isSome_canonicalOfRaw?_registerAll_iff h _ _).mpr
        exact .inr ⟨e, List.mem_filterMap.mpr ⟨type, htype, he⟩, hname⟩
      · exact .inr hbefore
    obtain ⟨r', hrun⟩ := (exists_registerHandleAliases_iff (isConsistent_registerAll h _)).mpr run
    exact ⟨r', _, ⟨complete, rfl⟩, hrun⟩

/-! ### Chains -/

/-- An entity is the handle or the alias that a declaration is, where a registry gives the
target of an alias. -/
inductive IsDeclaredBy (n : Naming) (r : Registry) (type : Element) : Entity → Prop where
  | handle {e : Entity} : handleEntity? n type = some e → IsDeclaredBy n r type e
  | aliasOf {a : DeclaredAlias} {target : String} :
    type.declaredAlias? = some a → r.canonicalOfRaw? a.target = some target →
    IsDeclaredBy n r type (aliasEntity n a target)

theorem IsDeclaredBy.names (h : IsDeclaredBy n r type e) :
  type.declaredName? = some e.rawName ∧ e.name = n.typeName e.rawName
  := by
  cases h with
  | handle hentity =>
      obtain ⟨hraw, hname⟩ := rawName_of_handleEntity? hentity
      use Element.declaredName?_of_ownName? hraw
  | aliasOf halias _ =>
      use Element.declaredName?_of_declaredAlias? halias
      rfl

theorem IsDeclaredBy.unique {e' : Entity} (h : IsDeclaredBy n r type e)
    (h' : IsDeclaredBy n r type e') :
  e = e'
  := by
  cases h with
  | handle hentity =>
      cases h' with
      | handle hentity' => apply Option.some.inj (hentity.symm.trans hentity')
      | aliasOf halias _ =>
          rw [Element.declaredAlias?_of_ownName? (rawName_of_handleEntity? hentity).1] at halias
          cases halias
  | aliasOf halias htarget =>
      cases h' with
      | handle hentity =>
          rw [Element.declaredAlias?_of_ownName? (rawName_of_handleEntity? hentity).1] at halias
          cases halias
      | aliasOf halias' htarget' =>
          obtain rfl := Option.some.inj (halias.symm.trans halias')
          rw [Option.some.inj (htarget.symm.trans htarget')]

/-- The stage of handles registers the entities that its declarations are, and nothing
else. -/
theorem registerHandles_entities (h : r.IsConsistent) (hrun : registerHandles n d r = .ok r') :
  ∃ es, r' = r.registerAll es
    ∧ (∀ e ∈ es, ∃ type ∈ d.typesOf "handle", IsDeclaredBy n r' type e)
    ∧ ∀ type ∈ d.typesOf "handle", ∃ e ∈ es, IsDeclaredBy n r' type e
  := by
  obtain ⟨state, hdeclared, haliases⟩ := Outcome.bind_eq_ok_iff.mp hrun
  obtain ⟨complete, rfl⟩ := registerHandles_declared_iff.mp hdeclared
  obtain ⟨es, heq, hes⟩ := registerHandleAliases_entities (isConsistent_registerAll h _) haliases
  use (d.typesOf "handle").filterMap (handleEntity? n) ++ es
  refine ⟨by rw [heq, registerAll_append], ?_, ?_⟩
  · intro e he
    rcases List.mem_append.mp he with he | he
    · obtain ⟨type, htype, hentity⟩ := List.mem_filterMap.mp he
      exact ⟨type, htype, .handle hentity⟩
    · obtain ⟨a, ha, target, htarget, rfl⟩ := Outcome.exists_of_mem_right hes he
      obtain ⟨type, htype, halias⟩ := List.mem_filterMap.mp ha
      exact ⟨type, htype, .aliasOf halias htarget⟩
  · intro type htype
    rcases complete type htype with hcomplete | hcomplete
    · obtain ⟨e, he⟩ := Option.isSome_iff_exists.mp hcomplete
      exact ⟨e, List.mem_append_left _ (List.mem_filterMap.mpr ⟨type, htype, he⟩), .handle he⟩
    · obtain ⟨a, ha⟩ := Option.isSome_iff_exists.mp hcomplete
      obtain ⟨e, he, target, htarget, rfl⟩ :=
        Outcome.exists_of_mem_right hes.flip (List.mem_filterMap.mpr ⟨type, htype, ha⟩)
      exact ⟨_, List.mem_append_right _ he, .aliasOf ha htarget⟩

/-- No earlier type has the raw name or its canonical name, and no two declarations have the
canonical name. -/
structure IsSingle (n : Naming) (types : List Element) (r : Registry) (raw : String) :
    Prop where
  unknown : r.canonicalOfRaw? raw = none
  unused : r.lookup? (n.typeName raw) = none
  single : ∀ type ∈ types, ∀ type' ∈ types, ∀ raw', type.declaredName? = some raw →
    type'.declaredName? = some raw' → n.typeName raw' = n.typeName raw → type' = type

/-- A raw name is single where the canonical names of all declarations are distinct and it is
that of no earlier type. -/
theorem isSingle_of_nodup
    (distinct : (types.map fun type => type.declaredName?.map n.typeName).Nodup)
    (unknown : r.canonicalOfRaw? raw = none) (unused : r.lookup? (n.typeName raw) = none) :
  IsSingle n types r raw
  := by
  use unknown, unused
  intro type htype type' htype' raw' hraw hraw' hname
  apply List.inj_on_of_nodup_map distinct htype' htype
  rw [hraw, hraw', Option.map_some, Option.map_some, hname]

/-- A declaration of a single raw name is what both of its names lead to. -/
theorem lookup?_of_isSingle (h : r.IsConsistent) (hrun : registerHandles n d r = .ok r')
    (htype : type ∈ d.typesOf "handle") (hraw : type.declaredName? = some raw)
    (single : IsSingle n (d.typesOf "handle") r raw) :
  ∃ e, IsDeclaredBy n r' type e ∧ r'.lookup? (n.typeName raw) = some e
    ∧ r'.canonicalOfRaw? raw = some (n.typeName raw)
  := by
  obtain ⟨es, heq, sound, complete⟩ := registerHandles_entities h hrun
  obtain ⟨e, he, declared⟩ := complete type htype
  obtain ⟨hraw', hname⟩ := declared.names
  obtain rfl := Option.some.inj (hraw.symm.trans hraw')
  refine ⟨e, declared, ?_, ?_⟩
  · rw [heq, lookup?_registerAll, single.unused, Option.none_or]
    -- the first entity of the name is declared by the only declaration that has it
    obtain ⟨found, hmem, hfound, hsame⟩ := exists_find?_eq_some he (·.name)
    obtain ⟨type', htype', declared'⟩ := sound found hmem
    rw [declared'.names.2, hname] at hsame
    obtain rfl := single.single type htype type' htype' found.rawName hraw declared'.names.1 hsame
    rw [← hname, hfound, declared'.unique declared]
  · rw [heq, canonicalOfRaw?_registerAll h, single.unknown, Option.none_or]
    obtain ⟨found, hmem, hfound, hsame⟩ := exists_find?_eq_some he (·.rawName)
    obtain ⟨type', -, declared'⟩ := sound found hmem
    rw [hfound, Option.map_some, declared'.names.2, hsame]

/-- Raw names of which each is declared as an alias of the next one, up to that of a declared
handle. -/
inductive HandleChain (types : List Element) : List String → Element → Prop where
  | handle {type : Element} {raw : String} :
    type ∈ types → type.ownName? = some raw → HandleChain types [raw] type
  | aliasOf {type last : Element} {raw target : String} {raws : List String} :
    type ∈ types → type.declaredAlias? = some ⟨raw, target⟩ →
    HandleChain types (target :: raws) last → HandleChain types (raw :: target :: raws) last

/-- The names of a chain denote the handle at its end. -/
theorem HandleChain.denotes {last : Element} {raws : List String}
    (chain : HandleChain (d.typesOf "handle") raws last) (h : r.IsConsistent)
    (hrun : registerHandles n d r = .ok r')
    (single : ∀ raw ∈ raws, IsSingle n (d.typesOf "handle") r raw) :
  ∃ e, handleEntity? n last = some e ∧ ∀ raw ∈ raws,
    r'.canonicalOfRaw? raw = some (n.typeName raw) ∧ r'.Denotes (n.typeName raw) e
  := by
  induction chain with
  | @handle type raw htype hraw =>
      obtain ⟨e, declared, hname, hcanonical⟩ :=
        lookup?_of_isSingle h hrun htype (Element.declaredName?_of_ownName? hraw)
          (single raw List.mem_cons_self)
      cases declared with
      | handle hentity =>
          have halias : e.isAlias = false := by
            obtain ⟨_, -, hentity⟩ := Option.bind_eq_some_iff.mp hentity
            obtain ⟨_, -, hentity⟩ := Option.bind_eq_some_iff.mp hentity
            obtain ⟨_, -, rfl⟩ := Option.map_eq_some_iff.mp hentity
            rfl
          use e, hentity
          intro raw' hraw'
          obtain rfl := List.mem_singleton.mp hraw'
          use hcanonical, .here hname halias
      | aliasOf halias _ =>
          rw [Element.declaredAlias?_of_ownName? hraw] at halias
          cases halias
  | @aliasOf type last raw target raws htype halias _ ih =>
      obtain ⟨e, hlast, rest⟩ := ih fun raw hraw => single raw (List.mem_cons_of_mem _ hraw)
      obtain ⟨hknown, hdenotes⟩ := rest target List.mem_cons_self
      obtain ⟨a, declared, hname, hcanonical⟩ :=
        lookup?_of_isSingle h hrun htype (Element.declaredName?_of_declaredAlias? halias)
          (single raw List.mem_cons_self)
      have ha : a = aliasEntity n ⟨raw, target⟩ (n.typeName target) :=
        declared.unique (.aliasOf halias hknown)
      rw [ha] at hname
      use e, hlast
      intro raw' hraw'
      rcases List.mem_cons.mp hraw' with rfl | hraw'
      · use hcanonical, .step hname rfl hdenotes
      · apply rest raw' hraw'

/-- The handles of a document are registered exactly if their declarations are complete and
each alias follows the alias that it stands for.  Then both names of every link of a chain
of single names resolve to the handle at its end. -/
theorem registerHandles_chains {o : Options} {basic : Registry}
    (hbasic : ofBasicTypes o n d = .ok basic) (henums : registerEnumerations o n d basic = .ok r) :
  ((∃ r', registerHandles n d r = .ok r') ↔ HandlesInOrder n (d.typesOf "handle") r)
    ∧ ∀ r', registerHandles n d r = .ok r' →
      ∀ raws last, HandleChain (d.typesOf "handle") raws last →
        (∀ raw ∈ raws, IsSingle n (d.typesOf "handle") r raw) →
        ∃ e, handleEntity? n last = some e ∧ ∀ raw ∈ raws,
          r'.resolveRaw raw = .ok e ∧ r'.resolve (n.typeName raw) = .ok e
  := by
  have consistent : r.IsConsistent :=
    ((ofBasicTypes_builds hbasic).forms.trans (registerEnumerations_forms henums)).isConsistent
      (isConsistent_initial d)
  use exists_registerHandles_iff consistent
  intro r' hrun raws last chain single
  obtain ⟨e, hlast, denoted⟩ := chain.denotes consistent hrun single
  have consistent' := (registerHandles_builds hrun).isConsistent consistent
  use e, hlast
  intro raw hraw
  obtain ⟨hcanonical, hdenotes⟩ := denoted raw hraw
  use (consistent'.resolveRaw_eq_ok_iff_denotes hcanonical).mpr hdenotes
  apply resolve_eq_ok_iff_denotes.mpr hdenotes

/-- A document with aliases of handles, and then a handle. -/
def fenceDocument (aliases : List DeclaredAlias) : Document where
  root :=
    let handle (raw : String) : Element :=
      ((Element.named "type").withAttribute "category" "handle").withAttribute "name" raw
    let types := aliases.map (fun a => (handle a.rawName).withAttribute "alias" a.target)
      ++ [(handle "VkFence").withTextChild "type" Handle.dispatchableMacro]
    (Element.named "registry").withChild (types.foldl Element.withChild (Element.named "types"))
  name_root := rfl

/-- An alias of an alias that comes later is not registered. -/
example :
    (registerHandles Options.standard.naming
      (fenceDocument [⟨"VkFenceEXT", "VkFenceKHR"⟩, ⟨"VkFenceKHR", "VkFence"⟩])
      empty).toOption.isNone = true := by
  decide +kernel

/-- The document with the aliases the other way round. -/
def orderedFences : Document :=
  fenceDocument [⟨"VkFenceKHR", "VkFence"⟩, ⟨"VkFenceEXT", "VkFenceKHR"⟩]

/-- The handle of that document. -/
def fenceEntity : Entity := ⟨"Fence", "VkFence", .handle ⟨true, none, []⟩⟩

/-- Where the aliases are declared the other way round, they resolve to the handle. -/
theorem registerHandles_chains_fence :
  ∃ basic r r', ofBasicTypes .standard Options.standard.naming orderedFences = .ok basic
    ∧ registerEnumerations .standard Options.standard.naming orderedFences basic = .ok r
    ∧ registerHandles Options.standard.naming orderedFences r = .ok r'
    ∧ ∀ raw ∈ ["VkFenceEXT", "VkFenceKHR", "VkFence"], r'.resolveRaw raw = .ok fenceEntity
      ∧ r'.resolve (Options.standard.naming.typeName raw) = .ok fenceEntity
  := by
  have evaluated :
      (ofBasicTypes .standard Options.standard.naming orderedFences).toOption.any (fun basic =>
        (registerEnumerations .standard Options.standard.naming orderedFences
            basic).toOption.any fun r =>
          (registerHandles Options.standard.naming orderedFences r).toOption.isSome
            && ["VkFenceEXT", "VkFenceKHR", "VkFence"].all fun raw =>
              r.canonicalOfRaw? raw == none
                && r.lookup? (Options.standard.naming.typeName raw) == none)
        = true := by
    decide +kernel
  have distinct :
      ((orderedFences.typesOf "handle").map fun type =>
        type.declaredName?.map Options.standard.naming.typeName).Nodup := by
    decide +kernel
  obtain ⟨basic, hbasic, h⟩ := (Option.any_eq_true _ _).mp evaluated
  obtain ⟨r, hr, h⟩ := (Option.any_eq_true _ _).mp h
  rw [Bool.and_eq_true, List.all_eq_true] at h
  obtain ⟨r', hr'⟩ := Outcome.isSome_toOption_iff.mp h.1
  have hbasic := Outcome.toOption_eq_some_iff.mp hbasic
  have henums := Outcome.toOption_eq_some_iff.mp hr
  have single : ∀ raw ∈ ["VkFenceEXT", "VkFenceKHR", "VkFence"],
      IsSingle Options.standard.naming (orderedFences.typesOf "handle") r raw := by
    intro raw hraw
    have hnew := h.2 raw hraw
    rw [Bool.and_eq_true, beq_iff_eq, beq_iff_eq] at hnew
    apply isSingle_of_nodup distinct hnew.1 hnew.2
  have chain : ∃ last,
      HandleChain (orderedFences.typesOf "handle") ["VkFenceEXT", "VkFenceKHR", "VkFence"] last
      ∧ handleEntity? Options.standard.naming last = some fenceEntity := by
    use (orderedFences.typesOf "handle")[2]
    constructor
    · apply HandleChain.aliasOf (List.getElem_mem (by decide +kernel : 1 < _))
      · decide +kernel
      · apply HandleChain.aliasOf (List.getElem_mem (by decide +kernel : 0 < _))
        · decide +kernel
        · apply HandleChain.handle (List.getElem_mem _)
          decide +kernel
    · decide +kernel
  obtain ⟨last, chain, hlast⟩ := chain
  obtain ⟨e, he, resolved⟩ :=
    (registerHandles_chains hbasic henums).2 r' hr' _ last chain single
  obtain rfl := Option.some.inj (hlast.symm.trans he)
  exact ⟨basic, r, r', hbasic, henums, hr', resolved⟩

end Registry

end NativeApi
