import NativeApi.Proofs.EnumStages

/-!
# The blocks of enumerations

A declaration of flags names the block that they get their members from, and any other
enumeration gets them from the block of its own raw name, unless that name is known before.
Main statement: once all are declared, every enumeration has no members but the implicit one
of flags, and the blocks stand in the order of the flags and then of the enumerations.
-/

namespace NativeApi

/-! ### Declarations -/

namespace Element

/-- The raw name of a declaration that is no alias. -/
def ownName? (e : Element) : Option String :=
  match e.attribute? "alias" with
  | some _ => none
  | none => e.declaredName?

/-- The name of the block that declared flags get their members from. -/
def bits? (e : Element) : Option String := (e.attribute? "requires").or (e.attribute? "bitvalues")

/-- The raw names that declared flags are known by: their own and that of their block. -/
def flagsNames (e : Element) : List String :=
  match e.ownName? with
  | some raw => raw :: e.bits?.toList
  | none => []

/-- The canonical name of declared flags and the name of their block, if they have one. -/
def flagsBlock? (n : Naming) (e : Element) : Option (String × String) :=
  e.ownName?.bind fun raw => e.bits?.map (n.typeName raw, ·)

end Element

namespace Registry

/-- Whether a declared enumeration is one of flags. -/
def declaresFlags (d : Document) (raw : String) : Bool :=
  (d.enumBlock? raw).bind (·.attribute? "type") == some "bitmask" || isFlagBits raw

/-- The canonical name of a declared enumeration. -/
def enumName (n : Naming) (d : Document) (raw : String) : String :=
  if declaresFlags d raw then n.flagBitsName (n.typeName raw) else n.typeName raw

/-- The first of each raw name that is not known. -/
def firstUnknown (known : String → Bool) (raws : List String) : List String :=
  (raws.filter (!known ·)).eraseDups

/-- Whether a raw name leads somewhere once the flags are declared. -/
def isKnownWithFlags (d : Document) (r : Registry) (raw : String) : Bool :=
  (r.idOfRaw? raw).isSome || ((d.typesOf "bitmask").flatMap Element.flagsNames).contains raw

/-- The canonical names of the enumerations that get members from blocks of their own, each
with the name of the block: the flags in the order of their declarations, and then the
enumerations whose raw names are not known before. -/
def ownBlocks (n : Naming) (d : Document) (r : Registry) : List (String × String) :=
  (d.typesOf "bitmask").filterMap (Element.flagsBlock? n)
    ++ (firstUnknown (isKnownWithFlags d r) ((d.typesOf "enum").filterMap Element.ownName?)).map
        fun raw => (enumName n d raw, raw)

/-! ### Steps of declarations -/

variable {r r' : Registry} {raw name : String} {o : Options} {n : Naming} {d : Document}
  {type : Element} {s s' s'' : EnumDeclarations}

theorem isSome_idOfRaw?_addRawName_iff {other : String} {id : Nat} :
  ((r.addRawName raw id).idOfRaw? other).isSome = true
    ↔ (r.idOfRaw? other).isSome = true ∨ other = raw
  := by
  rw [idOfRaw?_addRawName, Option.isSome_or, Bool.or_eq_true]
  by_cases h : other = raw
  · simp [h]
  · simp [h]

theorem isSome_idOfRaw?_register_iff {other : String} {kind : Entity.Kind} :
  ((r.register raw name kind).1.idOfRaw? other).isSome = true
    ↔ (r.idOfRaw? other).isSome = true ∨ other = raw
  := by
  rcases register_cases r raw name kind with ⟨id, -, heq⟩ | ⟨-, heq⟩
  · rw [heq, isSome_idOfRaw?_addRawName_iff]
  · rw [heq, isSome_idOfRaw?_addRawName_iff]
    rfl

/-- Enumerations have no members but the implicit one of flags. -/
def IsUnfilled (r : Registry) : Prop :=
  ∀ id e, r.enumerationAt? id = some e → e = Enumeration.declared e.isBitmask

theorem IsUnfilled.register (h : r.IsUnfilled) (raw name : String) (isBitmask : Bool) :
  (r.register raw name (.enumeration (Enumeration.declared isBitmask))).1.IsUnfilled
  := by
  intro id e he
  rcases register_cases r raw name (.enumeration (Enumeration.declared isBitmask))
    with ⟨_, -, heq⟩ | ⟨-, heq⟩
  · rw [heq] at he
    apply h id e he
  · rw [heq] at he
    change (r.withEntity _).enumerationAt? id = some e at he
    rw [enumerationAt?_withEntity] at he
    split at he
    · obtain rfl := Option.some.inj he
      rfl
    · apply h id e he

theorem Builds.isUnfilled (h : Builds r r') (unfilled : r.IsUnfilled) :
  r'.IsUnfilled
  := by
  intro id e he
  apply unfilled id e
  rw [← h.enumerationAt?_eq, he]

/-- The positions of sources are those of the canonical names of blocks, and the names of
the blocks are the same. -/
def AreSources (r : Registry) (blocks : List (String × String)) (sources : List (Nat × String)) :
    Prop :=
  List.Forall₂ (fun block source => r.idOf? block.1 = some source.1 ∧ source.2 = block.2) blocks
    sources

theorem Extends.areSources (h : Extends Entity.label r r') {blocks : List (String × String)}
    {sources : List (Nat × String)} (hsources : AreSources r blocks sources) :
  AreSources r' blocks sources
  := by
  apply List.Forall₂.imp _ hsources
  rintro block source ⟨hid, hname⟩
  use h.idOf? hid

/-- Declarations lead from one state to another: they add some blocks, make some raw names
known, and fill no enumeration. -/
structure Declares (blocks : List (String × String)) (names : List String)
    (s s' : EnumDeclarations) : Prop where
  extended : Extends Entity.label s.registry s'.registry
  sources : ∃ more, s'.sources = s.sources ++ more ∧ AreSources s'.registry blocks more
  known : ∀ raw, (s'.registry.idOfRaw? raw).isSome = true
    ↔ (s.registry.idOfRaw? raw).isSome = true ∨ raw ∈ names
  unfilled : s.registry.IsUnfilled → s'.registry.IsUnfilled

/-- A declaration that leaves the registry and the sources as they are. -/
theorem declares_nothing (hregistry : s'.registry = s.registry)
    (hsources : s'.sources = s.sources) :
  Declares [] [] s s'
  := by
  constructor
  · rw [hregistry]
    apply Extends.refl
  · use []
    rw [hsources, List.append_nil]
    exact ⟨rfl, .nil⟩
  · intro raw
    simp [hregistry]
  · rw [hregistry]
    exact id

/-- A declaration whose raw name is known. -/
theorem declares_known (hknown : (s.registry.idOfRaw? raw).isSome = true) :
  Declares [] [raw] s s
  := by
  constructor
  · apply Extends.refl
  · exact ⟨[], (List.append_nil _).symm, .nil⟩
  · intro other
    rw [List.mem_singleton, iff_self_or]
    rintro rfl
    exact hknown
  · exact id

theorem Declares.trans {blocks blocks' : List (String × String)} {names names' : List String}
    (h : Declares blocks names s s') (h' : Declares blocks' names' s' s'') :
  Declares (blocks ++ blocks') (names ++ names') s s''
  := by
  constructor
  · apply h.extended.trans h'.extended
  · obtain ⟨more, hmore, hblocks⟩ := h.sources
    obtain ⟨more', hmore', hblocks'⟩ := h'.sources
    use more ++ more'
    rw [hmore', hmore, List.append_assoc]
    use rfl
    apply List.rel_append (h'.extended.areSources hblocks) hblocks'
  · intro raw
    rw [h'.known, h.known, List.mem_append, or_assoc]
  · exact h'.unfilled ∘ h.unfilled

/-- A declaration of an enumeration, which may get its members from a block. -/
theorem declares_enumeration {isBitmask : Bool} (block : Option String)
    (hregistry : s'.registry
      = (s.registry.register raw name (.enumeration (Enumeration.declared isBitmask))).1)
    (hsources : s'.sources = s.sources
      ++ (block.map ((s.registry.register raw name
          (.enumeration (Enumeration.declared isBitmask))).2, ·)).toList) :
  Declares (block.map (name, ·)).toList [raw] s s'
  := by
  constructor
  · rw [hregistry]
    apply extends_register
  · refine ⟨_, hsources, ?_⟩
    cases block with
    | none => exact .nil
    | some block =>
        rw [hregistry]
        exact .cons ⟨idOf?_register _ _ _ _, rfl⟩ .nil
  · intro other
    rw [hregistry, isSome_idOfRaw?_register_iff, List.mem_singleton]
  · intro unfilled
    rw [hregistry]
    apply unfilled.register

/-- A declaration that makes one more raw name known. -/
theorem Declares.addRawName {blocks : List (String × String)} {names : List String} {id : Nat}
    (h : Declares blocks names s s') (raw : String)
    (hregistry : s''.registry = s'.registry.addRawName raw id)
    (hsources : s''.sources = s'.sources) :
  Declares blocks (names ++ [raw]) s s''
  := by
  have hextends := extends_addRawName Entity.label s'.registry raw id
  rw [← hregistry] at hextends
  constructor
  · apply h.extended.trans hextends
  · obtain ⟨more, hmore, hblocks⟩ := h.sources
    use more
    rw [hsources, hmore]
    use rfl
    apply hextends.areSources hblocks
  · intro other
    rw [hregistry, isSome_idOfRaw?_addRawName_iff, h.known, List.mem_append, List.mem_singleton,
      or_assoc]
  · intro unfilled
    rw [hregistry]
    apply h.unfilled unfilled

theorem declareBitmask_declares (h : declareBitmask n s type = .ok s') :
  Declares (type.flagsBlock? n).toList type.flagsNames s s'
  := by
  rw [declareBitmask] at h
  cases hraw : type.declaredName? with
  | none =>
      rw [hraw] at h
      cases h
  | some raw =>
      simp only [hraw] at h
      cases halias : type.attribute? "alias" with
      | some target =>
          rw [halias] at h
          obtain rfl := Except.ok.inj h
          simp only [Element.flagsBlock?, Element.flagsNames, Element.ownName?, halias,
            Option.bind_none, Option.toList_none]
          exact declares_nothing rfl rfl
      | none =>
          simp only [halias] at h
          simp only [Element.flagsBlock?, Element.flagsNames, Element.ownName?, halias, hraw,
            Option.bind_some]
          cases hbits : type.bits? with
          | some bits =>
              rw [Element.bits?] at hbits
              rw [hbits] at h
              obtain rfl := Except.ok.inj h
              -- the flags, and then the raw name of their block
              have flags : Declares [(n.typeName raw, bits)] [raw] s
                  ⟨(s.registry.register raw (n.typeName raw)
                      (.enumeration (Enumeration.declared true))).1, _, s.aliases⟩ :=
                declares_enumeration (some bits) rfl rfl
              exact flags.addRawName bits rfl rfl
          | none =>
              rw [Element.bits?] at hbits
              rw [hbits] at h
              obtain rfl := Except.ok.inj h
              exact declares_enumeration none rfl (List.append_nil _).symm

/-- An enumeration is declared once, and not where its raw name is known. -/
theorem declareEnum_declares (h : declareEnum n d s type = .ok s') :
  Declares
    ((type.ownName?.toList.filter fun raw => !(s.registry.idOfRaw? raw).isSome).map
      fun raw => (enumName n d raw, raw))
    type.ownName?.toList s s'
  := by
  rw [declareEnum] at h
  cases hraw : type.declaredName? with
  | none =>
      rw [hraw] at h
      cases h
  | some raw =>
      simp only [hraw] at h
      cases halias : type.attribute? "alias" with
      | some target =>
          rw [halias] at h
          obtain rfl := Except.ok.inj h
          simp only [Element.ownName?, halias, Option.toList_none, List.filter_nil, List.map_nil]
          exact declares_nothing rfl rfl
      | none =>
          simp only [halias] at h
          simp only [Element.ownName?, halias, hraw, Option.toList_some]
          split at h
          · rename_i hknown
            obtain rfl := Except.ok.inj h
            simp only [hknown, Bool.not_true, Bool.false_eq_true, not_false_eq_true,
              List.filter_cons_of_neg, List.filter_nil, List.map_nil]
            exact declares_known hknown
          · rename_i hknown
            obtain rfl := Except.ok.inj h
            simp only [hknown, Bool.not_false, List.filter_cons_of_pos, List.filter_nil,
              List.map_cons, List.map_nil]
            exact declares_enumeration (some raw) rfl rfl

/-! ### All declarations -/

theorem bitmasks_declare {types : List Element} (h : types.foldlM (declareBitmask n) s = .ok s') :
  Declares (types.filterMap (Element.flagsBlock? n)) (types.flatMap Element.flagsNames) s s'
  := by
  induction types generalizing s with
  | nil =>
      obtain rfl := Outcome.pure_eq_ok_iff.mp h
      apply declares_nothing rfl rfl
  | cons type types ih =>
      obtain ⟨next, hnext, hrest⟩ := Outcome.foldlM_cons_eq_ok_iff.mp h
      have both := (declareBitmask_declares hnext).trans (ih hrest)
      rw [List.flatMap_cons, List.filterMap_cons]
      cases hblock : type.flagsBlock? n with
      | none =>
          rw [hblock] at both
          exact both
      | some block =>
          rw [hblock] at both
          exact both

/-- Of what remains, an enumeration leaves the first unknown raw names other than its own. -/
theorem firstUnknown_cons (known : String → Bool) (raw : String) (raws : List String) :
  firstUnknown known (raw :: raws)
    = [raw].filter (!known ·) ++ firstUnknown (fun other => known other || other == raw) raws
  := by
  rw [firstUnknown, firstUnknown]
  cases hraw : known raw with
  | true =>
      have hsame (other : String) : (!(known other || other == raw)) = !known other := by
        by_cases h : other = raw
        · simp [h, hraw]
        · simp [h]
      simp [hraw, hsame]
  | false => simp [hraw, List.eraseDups_cons, List.filter_filter, Bool.and_comm]

theorem enums_declare {types : List Element} (h : types.foldlM (declareEnum n d) s = .ok s') :
  Declares
    ((firstUnknown (fun raw => (s.registry.idOfRaw? raw).isSome)
      (types.filterMap Element.ownName?)).map fun raw => (enumName n d raw, raw))
    (types.filterMap Element.ownName?) s s'
  := by
  induction types generalizing s with
  | nil =>
      obtain rfl := Outcome.pure_eq_ok_iff.mp h
      apply declares_nothing rfl rfl
  | cons type types ih =>
      obtain ⟨next, hnext, hrest⟩ := Outcome.foldlM_cons_eq_ok_iff.mp h
      have first := declareEnum_declares hnext
      have both := first.trans (ih hrest)
      have hknown : (fun other => (next.registry.idOfRaw? other).isSome)
          = fun other =>
            (s.registry.idOfRaw? other).isSome || type.ownName?.toList.contains other := by
        funext other
        rw [Bool.eq_iff_iff, first.known, Bool.or_eq_true, List.contains_iff_mem]
      rw [hknown] at both
      rw [List.filterMap_cons]
      cases hraw : type.ownName? with
      | none =>
          simpa [hraw] using both
      | some raw =>
          rw [hraw] at both
          have hcontains (other : String) : (some raw).toList.contains other = (other == raw) := by
            rw [Option.toList_some, List.contains_cons, List.contains_nil, Bool.or_false]
          simp only [hcontains] at both
          rw [firstUnknown_cons, List.map_append]
          exact both

/-- The declarations of a document leave the blocks of flags and then of enumerations as the
sources of members, and no enumeration is filled. -/
theorem declarations_declare {s₁ s₂ : EnumDeclarations}
    (hbitmasks : (d.typesOf "bitmask").foldlM (declareBitmask n) ⟨r, [], []⟩ = .ok s₁)
    (henums : (d.typesOf "enum").foldlM (declareEnum n d) s₁ = .ok s₂) :
  AreSources s₂.registry (ownBlocks n d r) s₂.sources
    ∧ (r.IsUnfilled → s₂.registry.IsUnfilled)
  := by
  have bitmasks := bitmasks_declare hbitmasks
  have enums := enums_declare henums
  have hknown : (fun raw => (s₁.registry.idOfRaw? raw).isSome) = isKnownWithFlags d r := by
    funext raw
    rw [Bool.eq_iff_iff, bitmasks.known, isKnownWithFlags, Bool.or_eq_true, List.contains_iff_mem]
  rw [hknown] at enums
  obtain ⟨sources, hsources, hblocks⟩ := (bitmasks.trans enums).sources
  constructor
  · rw [hsources]
    exact hblocks
  · exact enums.unfilled ∘ bitmasks.unfilled

/-! ### Sources by name -/

/-- The sources of members, by the positions that canonical names lead to. -/
def ownSources (n : Naming) (d : Document) (basic r : Registry) : List (Nat × String) :=
  (ownBlocks n d basic).filterMap fun block => (r.idOf? block.1).map (·, block.2)

theorem eq_filterMap_of_areSources {blocks : List (String × String)} {sources : List (Nat × String)}
    (h : AreSources r blocks sources) :
  sources = blocks.filterMap fun block => (r.idOf? block.1).map (·, block.2)
  := by
  induction h with
  | nil => rfl
  | @cons block source blocks sources hsource _ ih =>
      obtain ⟨id, name⟩ := source
      obtain ⟨hid, rfl⟩ := hsource
      rw [List.filterMap_cons, hid, ← ih]
      rfl

end Registry

end NativeApi
