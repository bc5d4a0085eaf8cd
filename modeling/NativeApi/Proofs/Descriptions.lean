import NativeApi.Proofs.Lookups

/-!
# What declarations say of composites

The declaration of a composite says what its members are, which structure it extends and
which structure type it has.  It refers to other types by raw names, and registers those
that only a table knows when it comes to them.  Main statement: what a composite learns is
what its declaration says in the registry before it, and references leave what any
declaration says as it is.
-/

namespace NativeApi.Registry

variable {r r' r'' : Registry} {o : Options} {n : Naming} {d : Declarator} {raw name : String}
  {e : Entity} {context owner : String} {member type : Element} {raws raws' : List String}

/-! ### References -/

/-- The canonical name under which a table knows a raw name. -/
def knownName? (o : Options) (raw : String) : Option String :=
  (knownPrimitive o raw "").toOption.map (·.1)

/-- The canonical name of the type that a raw name refers to. -/
def referredName? (o : Options) (r : Registry) (raw : String) : Option String :=
  (r.canonicalOfRaw? raw).or (knownName? o raw)

theorem map_fst_knownPrimitive (o : Options) (raw context : String) :
  (knownPrimitive o raw context).toOption.map (·.1) = knownName? o raw
  := by
  rw [knownName?, knownPrimitive, knownPrimitive]
  cases o.builtinTypes.get? raw with
  | some width => rfl
  | none =>
      simp only
      split
      · rfl
      · split
        · rfl
        · cases o.foreignTypes.get? raw <;> rfl

theorem exists_reference_iff (context : String) :
  (∃ result, r.reference o raw context = .ok result) ↔ (r.referredName? o raw).isSome = true
  := by
  rw [referredName?, ← map_fst_knownPrimitive o raw context, reference_eq]
  cases r.canonicalOfRaw? raw with
  | some known => simp
  | none => cases knownPrimitive o raw context <;> simp [Except.toOption, Except.map]

/-- Some raw names lead to the names that they refer to in one registry once it has become
another, and all others where they led before. -/
structure SettlesNames (o : Options) (raws : List String) (r r' : Registry) : Prop where
  consistent : r'.IsConsistent
  constants : r'.constants = r.constants
  canonical : ∀ raw,
    r'.canonicalOfRaw? raw = if raw ∈ raws then r.referredName? o raw else r.canonicalOfRaw? raw

/-- What raw names refer to is the same before and after. -/
theorem SettlesNames.referredName?_eq (h : SettlesNames o raws r r') (raw : String) :
  r'.referredName? o raw = r.referredName? o raw
  := by
  rw [referredName?, h.canonical]
  split
  · rw [referredName?, Option.or_assoc, Option.or_self]
  · rfl

theorem SettlesNames.canonicalOfRaw?_of_eq_some (h : SettlesNames o raws r r')
    (hraw : r.canonicalOfRaw? raw = some name) :
  r'.canonicalOfRaw? raw = some name
  := by
  rw [h.canonical, referredName?, hraw, Option.some_or, ite_self]

theorem SettlesNames.isSome_canonicalOfRaw? (h : SettlesNames o raws r r')
    (hraw : (r.canonicalOfRaw? raw).isSome = true) :
  (r'.canonicalOfRaw? raw).isSome = true
  := by
  obtain ⟨name, hname⟩ := Option.isSome_iff_exists.mp hraw
  rw [h.canonicalOfRaw?_of_eq_some hname]
  rfl

theorem SettlesNames.refl (h : r.IsConsistent) :
  SettlesNames o [] r r
  := by
  use h, rfl
  intro raw
  simp

theorem SettlesNames.trans (h : SettlesNames o raws r r') (h' : SettlesNames o raws' r' r'') :
  SettlesNames o (raws ++ raws') r r''
  := by
  use h'.consistent, h'.constants.trans h.constants
  intro raw
  rw [h'.canonical, h.referredName?_eq, h.canonical]
  simp only [List.mem_append]
  by_cases hfirst : raw ∈ raws
  · simp [hfirst]
  · simp [hfirst]

/-- References to some raw names lead from one registry to another, in which all that is new
is primitive. -/
structure Refers (o : Options) (raws : List String) (r r' : Registry) : Prop extends
    SettlesNames o raws r r' where
  kept : ∀ name e, r.lookup? name = some e → r'.lookup? name = some e
  new : ∀ name e, r'.lookup? name = some e → r.lookup? name = some e
    ∨ (∃ width, e.kind = .primitive width) ∧ ∃ raw, r'.canonicalOfRaw? raw = some name

theorem Refers.refl (h : r.IsConsistent) :
  Refers o [] r r
  := by
  use .refl h
  · intro name e he
    exact he
  · intro name e he
    exact .inl he

theorem Refers.trans (h : Refers o raws r r') (h' : Refers o raws' r' r'') :
  Refers o (raws ++ raws') r r''
  := by
  use h.toSettlesNames.trans h'.toSettlesNames
  · intro name e he
    apply h'.kept name e (h.kept name e he)
  · intro name e he
    rcases h'.new name e he with he | hnew
    · rcases h.new name e he with he | ⟨hprimitive, raw, hraw⟩
      · exact .inl he
      · exact .inr ⟨hprimitive, raw, h'.canonicalOfRaw?_of_eq_some hraw⟩
    · exact .inr hnew

theorem refers_registerEntity (h : r.IsConsistent) (hraw : r.canonicalOfRaw? raw = none)
    (hknown : knownName? o raw = some name) (width : Width) :
  Refers o [raw] r (r.registerEntity ⟨name, raw, .primitive width⟩)
  := by
  have hcanonical := canonicalOfRaw?_registerEntity h ⟨name, raw, .primitive width⟩
  constructor
  · use isConsistent_registerEntity h _, constants_registerAll r [⟨name, raw, .primitive width⟩]
    intro other
    rw [hcanonical, referredName?]
    simp only [List.mem_singleton]
    by_cases hother : other = raw
    · simp [hother, hraw, hknown]
    · simp [hother, Ne.symm hother]
  · intro found e he
    rw [lookup?_registerEntity, he, Option.some_or]
  · intro found e he
    rw [lookup?_registerEntity, Option.or_eq_some_iff] at he
    rcases he with he | ⟨-, he⟩
    · exact .inl he
    · right
      split at he
      · rename_i hname
        obtain rfl := Option.some.inj he
        refine ⟨⟨width, rfl⟩, raw, ?_⟩
        rw [hcanonical, hraw, if_pos rfl, Option.none_or, ← hname]
      · cases he

/-- A reference gives the name that the raw name refers to. -/
theorem reference_refers (h : r.IsConsistent)
    (href : r.reference o raw context = .ok (r', name)) :
  r.referredName? o raw = some name ∧ Refers o [raw] r r'
  := by
  rw [reference_eq] at href
  cases hraw : r.canonicalOfRaw? raw with
  | some known =>
      rw [hraw] at href
      obtain ⟨rfl, rfl⟩ := Prod.mk.inj (Except.ok.inj href)
      have hreferred : r.referredName? o raw = some known := by
        rw [referredName?, hraw, Option.some_or]
      use hreferred
      constructor
      · use h, rfl
        intro other
        by_cases hother : other = raw
        · rw [hother, if_pos (List.mem_singleton_self raw), hreferred, hraw]
        · rw [if_neg (List.mem_singleton.not.mpr hother)]
      · intro name e he
        exact he
      · intro name e he
        exact .inl he
  | none =>
      rw [hraw] at href
      have hname := map_fst_knownPrimitive o raw context
      cases hknown : knownPrimitive o raw context with
      | error problem =>
          rw [hknown] at href
          cases href
      | ok found =>
          rw [hknown] at href hname
          obtain ⟨rfl, rfl⟩ := Prod.mk.inj (Except.ok.inj href)
          constructor
          · rw [referredName?, hraw, Option.none_or, ← hname]
            rfl
          · apply refers_registerEntity h hraw hname.symm

/-! ### Members -/

/-- The member that a declarator is, given the canonical name of its type. -/
def memberOf (n : Naming) (d : Declarator) (declaredType : String) (values : Option String) :
    Member where
  name := n.memberName d.rawName d.isPointer
  rawName := d.rawName
  declaredType := declaredType
  rawType := d.rawType
  isPointer := d.isPointer
  isConstPointer := d.isConst
  isDoublePointer := d.isDoublePointer
  optional := d.optional
  arity := arityOf d
  counter := none
  values := values

/-- The member of an owner that an element declares. -/
def member? (o : Options) (n : Naming) (r : Registry) (owner : String) (e : Element) :
    Option Member :=
  (Declarator.parse e owner r.constants).toOption.bind fun d =>
    (r.referredName? o d.rawType).map fun declaredType =>
      memberOf n d declaredType (e.attribute? "values")

/-- The raw name of the type that a member of an owner refers to. -/
def referredType? (r : Registry) (owner : String) (e : Element) : Option String :=
  (Declarator.parse e owner r.constants).toOption.map (·.rawType)

/-- Where two registries agree on constants and on what raw names refer to, elements declare
the same. -/
theorem member?_congr (hconstants : r'.constants = r.constants)
    (hnames : ∀ raw, r'.referredName? o raw = r.referredName? o raw) (n : Naming) (owner : String)
    (e : Element) :
  member? o n r' owner e = member? o n r owner e
  := by
  rw [member?, member?, hconstants]
  simp only [hnames]

/-- References change nothing about what elements declare. -/
theorem Refers.member?_eq (h : Refers o raws r r') (n : Naming) (owner : String) (e : Element) :
  member? o n r' owner e = member? o n r owner e
  := member?_congr h.constants h.referredName?_eq n owner e

theorem referredType?_congr (hconstants : r'.constants = r.constants) (owner : String)
    (e : Element) :
  referredType? r' owner e = referredType? r owner e
  := by
  rw [referredType?, referredType?, hconstants]

theorem exists_addMember_iff (members : List Member) :
  (∃ result, addMember o n owner (r, members) member = .ok result)
    ↔ (member? o n r owner member).isSome = true
  := by
  rw [member?]
  cases hparse : Declarator.parse member owner r.constants with
  | error problem => simp [addMember, hparse, Except.toOption, bind, Except.bind]
  | ok d =>
      simp only [Except.toOption, Option.bind_some, Option.isSome_map]
      rw [← exists_reference_iff owner]
      constructor
      · rintro ⟨result, h⟩
        obtain ⟨d', hd', h⟩ := Outcome.bind_eq_ok_iff.mp h
        obtain rfl := Except.ok.inj (hparse.symm.trans hd')
        obtain ⟨reference, href, -⟩ := Outcome.bind_eq_ok_iff.mp h
        exact ⟨reference, href⟩
      · rintro ⟨reference, href⟩
        simp [addMember, hparse, href, bind, Except.bind, pure, Except.pure]

/-- One more member is the one that its element declares. -/
theorem addMember_refers (h : r.IsConsistent) {members members' : List Member}
    (hadd : addMember o n owner (r, members) member = .ok (r', members')) :
  members' = members ++ (member? o n r owner member).toList
    ∧ Refers o (referredType? r owner member).toList r r'
  := by
  obtain ⟨d, hd, hadd⟩ := Outcome.bind_eq_ok_iff.mp hadd
  obtain ⟨⟨next, declaredType⟩, href, hadd⟩ := Outcome.bind_eq_ok_iff.mp hadd
  obtain ⟨rfl, rfl⟩ := Prod.mk.inj (Outcome.pure_eq_ok_iff.mp hadd)
  obtain ⟨hname, refers⟩ := reference_refers h href
  constructor
  · rw [member?, hd]
    simp only [Except.toOption, Option.bind_some, hname]
    rfl
  · rw [referredType?, hd]
    exact refers

/-- Members are added exactly if each is declared in the registry before all of them. -/
theorem exists_addMembers_iff (h : r.IsConsistent) (members : List Member)
    {elements : List Element} :
  (∃ result, elements.foldlM (addMember o n owner) (r, members) = .ok result)
    ↔ ∀ e ∈ elements, (member? o n r owner e).isSome = true
  := by
  induction elements generalizing r members with
  | nil => simp [Outcome.pure_eq_ok_iff]
  | cons e elements ih =>
      simp only [Outcome.foldlM_cons_eq_ok_iff, List.forall_mem_cons]
      rw [← exists_addMember_iff members]
      constructor
      · rintro ⟨result, ⟨next, members'⟩, hnext, hrest⟩
        obtain ⟨-, refers⟩ := addMember_refers h hnext
        use ⟨_, hnext⟩
        simp only [← refers.member?_eq]
        apply (ih refers.consistent members').mp ⟨result, hrest⟩
      · rintro ⟨⟨⟨next, members'⟩, hnext⟩, hrest⟩
        obtain ⟨-, refers⟩ := addMember_refers h hnext
        simp only [← refers.member?_eq] at hrest
        obtain ⟨result, hresult⟩ := (ih refers.consistent members').mpr hrest
        exact ⟨result, _, hnext, hresult⟩

/-- Added members are those that are declared in the registry before all of them. -/
theorem addMembers_refers {members members' : List Member} {elements : List Element}
    (h : r.IsConsistent)
    (hadd : elements.foldlM (addMember o n owner) (r, members) = .ok (r', members')) :
  members' = members ++ elements.filterMap (member? o n r owner)
    ∧ Refers o (elements.filterMap (referredType? r owner)) r r'
  := by
  induction elements generalizing r members with
  | nil =>
      obtain ⟨rfl, rfl⟩ := Prod.mk.inj (Outcome.pure_eq_ok_iff.mp hadd)
      constructor
      · simp
      · apply Refers.refl h
  | cons e elements ih =>
      obtain ⟨⟨next, added⟩, hnext, hrest⟩ := Outcome.foldlM_cons_eq_ok_iff.mp hadd
      obtain ⟨rfl, refers⟩ := addMember_refers h hnext
      obtain ⟨hmembers, rest⟩ := ih refers.consistent hrest
      rw [filterMap_cons_eq_append, filterMap_cons_eq_append]
      constructor
      · rw [hmembers, List.append_assoc, funext (refers.member?_eq n owner)]
      · rw [funext (referredType?_congr refers.constants owner)] at rest
        apply refers.trans rest

/-! ### Descriptions -/

/-- What a declaration says of a composite beside its kind. -/
structure Description where
  members : List Member
  base : Option String
  structureType : Option String

/-- What an entity is, with what a declaration says of it if it is a composite. -/
def Description.apply (described : Description) : Entity.Kind → Entity.Kind :=
  describe described.members described.base described.structureType

/-- What is said last of a composite is what is said of it. -/
theorem Description.apply_apply (described before : Description) (kind : Entity.Kind) :
  described.apply (before.apply kind) = described.apply kind
  := by
  cases kind <;> rfl

/-- The raw name of the structure that a declaration extends. -/
def extendedName? (type : Element) : Option String :=
  ((type.attribute? "structextends").map fun entries =>
    String.ofList (Text.trimChars (Text.firstEntry entries.toList))).filter (!·.isEmpty)

theorem extendedBy_eq (r : Registry) (type : Element) (owner : String) :
  r.extendedBy type owner
    = match extendedName? type with
      | none => .ok none
      | some raw =>
        match r.canonicalOfRaw? raw with
        | some name => .ok (some name)
        | none => .error (.unknownReference "structure" raw owner)
  := by
  rw [extendedBy, extendedName?]
  cases type.attribute? "structextends" with
  | none => rfl
  | some entries =>
      simp only [Option.map_some, Option.filter_some]
      cases (String.ofList (Text.trimChars (Text.firstEntry entries.toList))).isEmpty <;> rfl

/-- What a structure extends is known, if it extends anything. -/
theorem extendedBy_eq_ok_iff {base : Option String} :
  r.extendedBy type owner = .ok base
    ↔ (∀ raw, extendedName? type = some raw → (r.canonicalOfRaw? raw).isSome = true)
      ∧ (extendedName? type).bind r.canonicalOfRaw? = base
  := by
  rw [extendedBy_eq]
  cases extendedName? type with
  | none => simp
  | some raw => cases hraw : r.canonicalOfRaw? raw <;> simp [hraw]

/-- The members that a declaration lists, without counters. -/
def listedMembers (o : Options) (n : Naming) (r : Registry) (owner : String) (type : Element) :
    List Member :=
  (type.elements "member").filterMap (member? o n r owner)

/-- What the declaration of an owner says. -/
def descriptionOf (o : Options) (n : Naming) (r : Registry) (owner : String) (type : Element) :
    Description where
  members := withCounters o.fieldCounters (listedMembers o n r owner type)
  base := (extendedName? type).bind (r.referredName? o)
  structureType := structureTypeOf (listedMembers o n r owner type)

/-- The raw names that the members of a declaration refer to. -/
def referredTypes (r : Registry) (owner : String) (type : Element) : List String :=
  (type.elements "member").filterMap (referredType? r owner)

/-- All that a declaration lists is a member, and the members of which lengths speak are
listed. -/
structure IsDescribed (o : Options) (n : Naming) (r : Registry) (owner : String)
    (type : Element) : Prop where
  members : ∀ e ∈ type.elements "member", (member? o n r owner e).isSome = true
  lengths : checkLengthMembers (listedMembers o n r owner type) owner = .ok ()

/-- Where two registries agree on constants and on what raw names refer to, declarations say
the same. -/
theorem descriptionOf_congr (hconstants : r'.constants = r.constants)
    (hnames : ∀ raw, r'.referredName? o raw = r.referredName? o raw) (n : Naming) (owner : String)
    (type : Element) :
  descriptionOf o n r' owner type = descriptionOf o n r owner type
    ∧ (IsDescribed o n r' owner type ↔ IsDescribed o n r owner type)
    ∧ referredTypes r' owner type = referredTypes r owner type
  := by
  have hmember := member?_congr hconstants hnames n owner
  have hlisted : listedMembers o n r' owner type = listedMembers o n r owner type := by
    rw [listedMembers, listedMembers, funext hmember]
  have htypes : referredTypes r' owner type = referredTypes r owner type := by
    simp only [referredTypes, funext (referredType?_congr hconstants owner)]
  refine ⟨?_, ?_, htypes⟩
  · rw [descriptionOf, descriptionOf, hlisted, funext hnames]
  · constructor
    · rintro ⟨hmembers, hlengths⟩
      rw [hlisted] at hlengths
      simp only [hmember] at hmembers
      exact ⟨hmembers, hlengths⟩
    · rintro ⟨hmembers, hlengths⟩
      simp only [← hmember] at hmembers
      rw [← hlisted] at hlengths
      exact ⟨hmembers, hlengths⟩

/-- A composite learns what its declaration says, once its members have been referred to. -/
theorem learnMembers_describes (h : r.IsConsistent) {id : Nat} (hid : r.nameOf id = owner)
    (hlearn : learnMembers o n r (id, type) = .ok r') :
  IsDescribed o n r owner type
    ∧ ∃ next, Builds r next ∧ Refers o (referredTypes r owner type) r next
      ∧ r' = next.modifyKind id (descriptionOf o n r owner type).apply
  := by
  subst hid
  obtain ⟨⟨next, members⟩, hmembers, hlearn⟩ := Outcome.bind_eq_ok_iff.mp hlearn
  obtain ⟨_, hlengths, hlearn⟩ := Outcome.bind_eq_ok_iff.mp hlearn
  obtain ⟨base, hbase, hlearn⟩ := Outcome.bind_eq_ok_iff.mp hlearn
  obtain rfl := Outcome.pure_eq_ok_iff.mp hlearn
  obtain ⟨hlisted, refers⟩ := addMembers_refers h hmembers
  rw [List.nil_append] at hlisted
  obtain ⟨hknown, rfl⟩ := extendedBy_eq_ok_iff.mp hbase
  -- where the base is known, it is what its raw name refers to
  have hreferred : (extendedName? type).bind next.canonicalOfRaw?
      = (extendedName? type).bind (r.referredName? o) := by
    apply Option.bind_congr
    intro raw hraw
    obtain ⟨name, hname⟩ := Option.isSome_iff_exists.mp (hknown raw hraw)
    rw [← refers.referredName?_eq, referredName?, hname, Option.some_or]
  constructor
  · use exists_addMembers_iff h [] |>.mp ⟨_, hmembers⟩
    rw [listedMembers, ← hlisted]
    exact hlengths
  · have builds : Builds r next := by
      apply builds_foldlM Prod.fst _ hmembers
      intro state e state'
      apply addMember_builds
    use next, builds, refers
    rw [Description.apply, descriptionOf, listedMembers, ← hlisted, hreferred]

/-- A composite can learn what its declaration says where it extends a known structure. -/
theorem exists_learnMembers (h : r.IsConsistent) {id : Nat} (hid : r.nameOf id = owner)
    (described : IsDescribed o n r owner type)
    (hbase : ∀ raw, extendedName? type = some raw → (r.canonicalOfRaw? raw).isSome = true) :
  ∃ r', learnMembers o n r (id, type) = .ok r'
  := by
  subst hid
  obtain ⟨⟨next, members⟩, hmembers⟩ :=
    (exists_addMembers_iff h []).mpr described.members
  obtain ⟨hlisted, refers⟩ := addMembers_refers h hmembers
  rw [List.nil_append] at hlisted
  have hlengths := described.lengths
  rw [listedMembers, ← hlisted] at hlengths
  have hknown : ∀ raw, extendedName? type = some raw →
      (next.canonicalOfRaw? raw).isSome = true := by
    intro raw hraw
    apply refers.isSome_canonicalOfRaw? (hbase raw hraw)
  have hextended : next.extendedBy type (r.nameOf id)
      = .ok ((extendedName? type).bind next.canonicalOfRaw?) :=
    extendedBy_eq_ok_iff.mpr ⟨hknown, rfl⟩
  apply Exists.intro
  apply Outcome.bind_eq_ok_iff.mpr
  use (next, members), hmembers
  apply Outcome.bind_eq_ok_iff.mpr
  use (), hlengths
  apply Outcome.bind_eq_ok_iff.mpr
  exact ⟨_, hextended, rfl⟩

end NativeApi.Registry
