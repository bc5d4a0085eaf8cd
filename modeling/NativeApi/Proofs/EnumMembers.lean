import NativeApi.Proofs.EnumSources

/-!
# The members of enumerations

Entries are contributed one after the other.  Each goes to the enumeration that it belongs to
or extends, unless a member of its name is there already.  Main statements:
`hasExactMembers_of_ofDocument`, by which every member apart from the implicit one of flags
is that of the first entry of its name, with the value that the entry has at that point, and
`keepsEntries_of_ofDocument`, by which an entry is lost only where no implicit member takes
its name.
-/

namespace NativeApi

/-! ### Values -/

namespace EnumMember

variable {entry : Element} {number : Option String} {known : Dict Int}

/-- Whose member an entry is shows in errors only. -/
theorem toOption_valueAtOffset (raw text owner owner' : String) :
  (valueAtOffset entry number raw text owner).toOption
    = (valueAtOffset entry number raw text owner').toOption
  := by
  rw [valueAtOffset, valueAtOffset]
  cases Text.readInt64? (Text.trimChars text.toList) with
  | none => rfl
  | some offset =>
      cases (entry.attribute? "extnumber").or number with
      | none => rfl
      | some numberText =>
          simp only
          cases Text.readInt64? (Text.trimChars numberText.toList) with
          | none => rfl
          | some number =>
              simp only
              cases offsetValue? number offset (entry.attribute? "dir" == some "-") with
              | none => rfl
              | some value => rfl

theorem toOption_valueOf (owner owner' : String) :
  (valueOf entry number known owner).toOption = (valueOf entry number known owner').toOption
  := by
  rw [valueOf, valueOf]
  cases entry.attribute? "value" with
  | some text =>
      simp only
      cases Literal.read? text with
      | none => rfl
      | some value => rfl
  | none =>
      cases entry.attribute? "bitpos" with
      | some text =>
          simp only
          cases bitValue? text with
          | none => rfl
          | some value => rfl
      | none =>
          cases entry.attribute? "offset" with
          | some text => apply toOption_valueAtOffset
          | none =>
              cases entry.attribute? "alias" with
              | none => rfl
              | some target =>
                  simp only
                  cases known.get? target with
                  | none => rfl
                  | some value => rfl

end EnumMember

/-- No entry of a block, a feature or an extension has an empty name. -/
def Document.NamesEntries (d : Document) : Prop :=
  (∀ block ∈ d.enumBlocks, ∀ entry ∈ block.elements "enum", entry.attribute? "name" ≠ some "")
    ∧ ∀ block ∈ d.features ++ d.extensions, ∀ entry ∈ block.required "enum",
      entry.attribute? "name" ≠ some ""

namespace Registry

/-! ### Contributions -/

/-- A contribution is for the enumeration at a position, and has a raw name and a canonical
one there. -/
structure Contribution.Calls (n : Naming) (r : Registry) (c : Contribution) (id : Nat)
    (raw name : String) : Prop where
  target : r.memberTarget c.target = .ok id
  rawName : c.entry.attribute? "name" = some raw
  translated : n.enumMember raw (r.nameOf id) = .ok name

/-- A contribution gives a member to the enumeration at a position, where the values of some
raw names are known. -/
structure Contribution.Gives (n : Naming) (r : Registry) (known : Dict Int) (c : Contribution)
    (id : Nat) (m : EnumMember) : Prop where
  calls : c.Calls n r id m.rawName m.name
  value : EnumMember.valueOf c.entry c.blockNumber known (r.nameOf id) = .ok m.value

/-- The known values with that of one more contribution; the first value of a raw name
stays. -/
def Contribution.know (known : Dict Int) (c : Contribution) : Dict Int :=
  match c.entry.attribute? "name", EnumMember.valueOf c.entry c.blockNumber known "" with
  | some raw, .ok value => known.insertNew raw value
  | _, _ => known

/-- The values that are known after some contributions. -/
def knownAfter (cs : List Contribution) : Dict Int := cs.foldl Contribution.know .empty

/-- A member is that of the first contribution of its canonical name, apart from those
without a raw name. -/
def IsFirst (n : Naming) (r : Registry) (cs : List Contribution) (id : Nat) (m : EnumMember) :
    Prop :=
  ∃ before c after, cs = before ++ c :: after ∧ c.Gives n r (knownAfter before) id m
    ∧ ∀ earlier ∈ before, ∀ raw, earlier.Calls n r id raw m.name → raw = ""

variable {n : Naming} {r r' : Registry} {o : Options} {d : Document} {c : Contribution}
  {cs : List Contribution} {known known' : Dict Int} {id : Nat} {raw name : String}
  {m : EnumMember} {e : Enumeration}

theorem knownAfter_concat (cs : List Contribution) (c : Contribution) :
  knownAfter (cs ++ [c]) = Contribution.know (knownAfter cs) c
  := by
  rw [knownAfter, List.foldl_append]
  rfl

theorem Contribution.Gives.know_eq (h : c.Gives n r known id m) :
  Contribution.know known c = known.insertNew m.rawName m.value
  := by
  have hvalue : EnumMember.valueOf c.entry c.blockNumber known "" = .ok m.value := by
    apply Outcome.toOption_eq_some_iff.mp
    rw [EnumMember.toOption_valueOf "" (r.nameOf id), h.value]
    rfl
  rw [Contribution.know, h.calls.rawName, hvalue]

theorem IsFirst.concat (h : IsFirst n r cs id m) (c : Contribution) :
  IsFirst n r (cs ++ [c]) id m
  := by
  obtain ⟨before, first, after, rfl, hrest⟩ := h
  refine ⟨before, first, after ++ [c], ?_, hrest⟩
  rw [List.append_assoc, List.cons_append]

theorem IsFirst.calls (h : IsFirst n r cs id m) :
  ∃ c ∈ cs, c.Calls n r id m.rawName m.name
  := by
  obtain ⟨before, c, after, rfl, hgives, -⟩ := h
  exact ⟨c, List.mem_append_right before List.mem_cons_self, hgives.calls⟩

/-! ### One more member -/

/-- One more member changes nothing where its raw name or its canonical name is taken, and
otherwise comes last. -/
theorem addEnumMember_cases (m : EnumMember) (e : Enumeration) :
  (addEnumMember m e = e
      ∧ ((∃ m' ∈ e.members, m'.rawName = m.rawName) ∨ m.name = EnumMember.implicit.name
        ∨ ∃ m' ∈ e.members, m'.name = m.name))
    ∨ (addEnumMember m e = { e with members := e.members ++ [m] }
      ∧ (∀ m' ∈ e.members, m'.rawName ≠ m.rawName) ∧ m.name ≠ EnumMember.implicit.name
      ∧ ∀ m' ∈ e.members, m'.name ≠ m.name)
  := by
  rw [addEnumMember]
  split
  · rename_i htaken
    left
    use rfl
    simpa [Enumeration.memberOfRaw?, Enumeration.member?, or_assoc] using htaken
  · rename_i htaken
    right
    use rfl
    simpa [Enumeration.memberOfRaw?, Enumeration.member?, and_assoc] using htaken

/-- An enumeration has the members that contributions have given to it so far. -/
structure Collects (n : Naming) (r : Registry) (cs : List Contribution) (id : Nat)
    (e : Enumeration) : Prop where
  names : (e.members.map (·.name)).Nodup
  rawNames : (e.members.map (·.rawName)).Nodup
  members : ∃ rest, e.members = (Enumeration.declared e.isBitmask).members ++ rest
    ∧ ∀ m ∈ rest, m.name ≠ EnumMember.implicit.name ∧ IsFirst n r cs id m
  complete : ∀ c ∈ cs, ∀ raw name, c.Calls n r id raw name → raw ≠ "" →
    name ≠ EnumMember.implicit.name → ∃ m ∈ e.members, m.name = name

theorem mem_declared_iff {isBitmask : Bool} :
  m ∈ (Enumeration.declared isBitmask).members
    ↔ isBitmask = true ∧ m = EnumMember.implicit
  := by
  cases isBitmask <;> simp [Enumeration.declared]

theorem collects_declared (n : Naming) (r : Registry) (id : Nat) (isBitmask : Bool) :
  Collects n r [] id (Enumeration.declared isBitmask)
  := by
  constructor
  · cases isBitmask <;> simp [Enumeration.declared]
  · cases isBitmask <;> simp [Enumeration.declared]
  · exact ⟨[], (List.append_nil _).symm, by simp⟩
  · simp

/-- A member is the implicit one of flags, or that of a contribution. -/
theorem Collects.mem_cases (h : Collects n r cs id e) (hm : m ∈ e.members) :
  (e.isBitmask = true ∧ m = EnumMember.implicit)
    ∨ (m.name ≠ EnumMember.implicit.name ∧ IsFirst n r cs id m)
  := by
  obtain ⟨rest, hmembers, hrest⟩ := h.members
  rw [hmembers, List.mem_append, mem_declared_iff] at hm
  apply hm.imp_right (hrest m)

/-- A raw name has the canonical name that it is given in the enumeration. -/
theorem Collects.name_eq (h : Collects n r cs id e) (hm : m ∈ e.members) (hraw : m.rawName ≠ "")
    (htranslated : n.enumMember m.rawName (r.nameOf id) = .ok name) :
  m.name = name
  := by
  rcases h.mem_cases hm with ⟨-, rfl⟩ | ⟨-, hfirst⟩
  · exact absurd rfl hraw
  · obtain ⟨c, -, hcalls⟩ := hfirst.calls
    apply Except.ok.inj (hcalls.translated.symm.trans htranslated)

/-- A contribution that brings no new name leaves the members as they are. -/
theorem Collects.skip (h : Collects n r cs id e)
    (hskip : ∀ raw name, c.Calls n r id raw name → raw ≠ "" →
      name ≠ EnumMember.implicit.name → ∃ m ∈ e.members, m.name = name) :
  Collects n r (cs ++ [c]) id e
  := by
  use h.names, h.rawNames
  · obtain ⟨rest, hmembers, hrest⟩ := h.members
    use rest, hmembers
    intro m hm
    use (hrest m hm).1
    apply (hrest m hm).2.concat
  · intro c' hc'
    rcases List.mem_append.mp hc' with hc' | hc'
    · apply h.complete c' hc'
    · obtain rfl := List.mem_singleton.mp hc'
      exact hskip

/-- A contribution to another enumeration does not count. -/
theorem Collects.other (h : Collects n r cs id e) {other : Nat}
    (htarget : r.memberTarget c.target = .ok other) (hne : other ≠ id) :
  Collects n r (cs ++ [c]) id e
  := by
  apply h.skip
  intro raw name hcalls
  exact absurd (Except.ok.inj (htarget.symm.trans hcalls.target)) hne

/-- A contribution of new names brings a member. -/
theorem Collects.append (h : Collects n r cs id e) (hgives : c.Gives n r (knownAfter cs) id m)
    (hraw : ∀ m' ∈ e.members, m'.rawName ≠ m.rawName) (hnone : m.name ≠ EnumMember.implicit.name)
    (hname : ∀ m' ∈ e.members, m'.name ≠ m.name) :
  Collects n r (cs ++ [c]) id { e with members := e.members ++ [m] }
  := by
  have hfirst : IsFirst n r (cs ++ [c]) id m := by
    use cs, c, [], rfl, hgives
    intro earlier hearlier raw hcalls
    by_contra hnamed
    obtain ⟨m', hm', heq⟩ := h.complete earlier hearlier raw m.name hcalls hnamed hnone
    exact hname m' hm' heq
  constructor
  · rw [List.map_append, List.nodup_append]
    simpa [h.names] using hname
  · rw [List.map_append, List.nodup_append]
    simpa [h.rawNames] using hraw
  · obtain ⟨rest, hmembers, hrest⟩ := h.members
    use rest ++ [m]
    constructor
    · rw [hmembers, List.append_assoc]
    · intro m' hm'
      rcases List.mem_append.mp hm' with hm' | hm'
      · use (hrest m' hm').1
        apply (hrest m' hm').2.concat
      · obtain rfl := List.mem_singleton.mp hm'
        exact ⟨hnone, hfirst⟩
  · intro c' hc' raw name hcalls hnamed hne
    rcases List.mem_append.mp hc' with hc' | hc'
    · obtain ⟨m', hm', heq⟩ := h.complete c' hc' raw name hcalls hnamed hne
      use m', List.mem_append_left _ hm'
    · obtain rfl := List.mem_singleton.mp hc'
      obtain rfl := Option.some.inj (hgives.calls.rawName.symm.trans hcalls.rawName)
      use m, List.mem_append_right _ (List.mem_singleton_self m)
      apply Except.ok.inj (hgives.calls.translated.symm.trans hcalls.translated)

theorem Collects.add (h : Collects n r cs id e) (hgives : c.Gives n r (knownAfter cs) id m) :
  Collects n r (cs ++ [c]) id (addEnumMember m e)
  := by
  rcases addEnumMember_cases m e with ⟨heq, htaken⟩ | ⟨heq, hraw, hnone, hname⟩
  · rw [heq]
    apply h.skip
    intro raw name hcalls hnamed hne
    obtain rfl := Option.some.inj (hgives.calls.rawName.symm.trans hcalls.rawName)
    obtain rfl := Except.ok.inj (hgives.calls.translated.symm.trans hcalls.translated)
    rcases htaken with ⟨m', hm', hraw⟩ | hnone | hname
    · use m', hm'
      apply h.name_eq hm'
      · rwa [hraw]
      · rw [hraw, hcalls.translated]
    · exact absurd hnone hne
    · exact hname
  · rw [heq]
    apply h.append hgives hraw hnone hname

/-- Which contributions have led to a member of their name. -/
theorem Collects.exists_mem_iff (h : Collects n r cs id e) (hc : c ∈ cs)
    (hcalls : c.Calls n r id raw name) (hraw : raw ≠ "") :
  (∃ m ∈ e.members, m.name = name)
    ↔ e.isBitmask = true ∨ name ≠ EnumMember.implicit.name
  := by
  constructor
  · rintro ⟨m, hm, rfl⟩
    apply (h.mem_cases hm).imp And.left And.left
  · intro hkept
    by_cases hname : name = EnumMember.implicit.name
    · obtain ⟨rest, hmembers, -⟩ := h.members
      use EnumMember.implicit
      rw [hmembers, List.mem_append, mem_declared_iff]
      exact ⟨.inl ⟨hkept.resolve_right (not_not_intro hname), rfl⟩, hname.symm⟩
    · apply h.complete c hc raw name hcalls hraw hname

/-! ### All contributions -/

/-- Whom a member goes to, it goes to in a registry that grows. -/
theorem Extends.memberTarget (h : Extends Entity.label r r') {target : MemberTarget}
    (htarget : r.memberTarget target = .ok id) :
  r'.memberTarget target = .ok id
  := by
  cases target with
  | entity other => exact htarget
  | extended raw block =>
      rw [Registry.memberTarget] at htarget
      cases hid : r.idOfRaw? raw with
      | none =>
          rw [hid] at htarget
          cases htarget
      | some other =>
          rw [hid] at htarget
          rw [Registry.memberTarget, h.rawIds raw other hid]
          apply h.resolveId htarget

theorem Extends.nameOf (h : Extends Entity.label r r') {owner : Entity}
    (howner : r.get? id = some owner) :
  r'.nameOf id = r.nameOf id
  := by
  obtain ⟨owner', howner', hlabel⟩ := h.get? howner
  rw [Registry.nameOf, Registry.nameOf, howner, howner']
  apply congrArg Prod.fst hlabel

theorem Extends.gives (h : Extends Entity.label r r') {owner : Entity}
    (howner : r.get? id = some owner) (hgives : c.Gives n r known id m) :
  c.Gives n r' known id m
  := by
  have hname := h.nameOf howner
  constructor
  · constructor
    · apply h.memberTarget hgives.calls.target
    · apply hgives.calls.rawName
    · rw [hname]
      apply hgives.calls.translated
  · rw [hname]
    apply hgives.value

/-- What a contribution does. -/
theorem contribute_cases (h : contribute n (r, known) c = .ok (r', known')) :
  ∃ id m e, c.Gives n r known id m ∧ r.enumerationAt? id = some e
    ∧ r' = r.modifyKind id (fun _ => .enumeration (addEnumMember m e))
    ∧ known' = Contribution.know known c
  := by
  rw [contribute] at h
  obtain ⟨id, hid, h⟩ := Outcome.bind_eq_ok_iff.mp h
  simp only at h
  split at h
  · rename_i raw hraw
    obtain ⟨value, hvalue, h⟩ := Outcome.bind_eq_ok_iff.mp h
    obtain ⟨name, hname, h⟩ := Outcome.bind_eq_ok_iff.mp h
    have hgives : c.Gives n r known id ⟨name, raw, value⟩ := ⟨⟨hid, hraw, hname⟩, hvalue⟩
    split at h
    · rename_i e he
      obtain ⟨rfl, rfl⟩ := Prod.mk.inj (Except.ok.inj h)
      exact ⟨id, _, e, hgives, he, rfl, hgives.know_eq.symm⟩
    · cases h
  · cases h

/-- The enumerations once one of them is replaced. -/
theorem enumerationAt?_replace (he : r.enumerationAt? id = some e) (e' : Enumeration)
    (other : Nat) :
  (r.modifyKind id fun _ => .enumeration e').enumerationAt? other
    = if id = other then some e' else r.enumerationAt? other
  := by
  rw [enumerationAt?, get?_modifyKind]
  split
  · rename_i hid
    subst hid
    obtain ⟨owner, howner, -⟩ := enumerationAt?_eq_some_iff.mp he
    rw [howner]
    rfl
  · rw [enumerationAt?]
    cases r.get? other <;> rfl

/-- The state after some contributions, as it is seen from a registry that extends it. -/
structure Contributed (n : Naming) (r : Registry) (cs : List Contribution)
    (state : Registry × Dict Int) : Prop where
  extended : Extends Entity.label state.1 r
  known : state.2 = knownAfter cs
  collects : ∀ id e, state.1.enumerationAt? id = some e → Collects n r cs id e
  called : ∀ c ∈ cs, ∃ id raw name, c.Calls n r id raw name
    ∧ (state.1.enumerationAt? id).isSome = true

theorem Contributed.step {state state' : Registry × Dict Int} (h : Contributed n r cs state)
    (hcontribute : contribute n state c = .ok state') (hextends : Extends Entity.label state'.1 r) :
  Contributed n r (cs ++ [c]) state'
  := by
  obtain ⟨s, known⟩ := state
  obtain ⟨s', known'⟩ := state'
  obtain ⟨id, m, e, hgives, he, rfl, rfl⟩ := contribute_cases hcontribute
  obtain ⟨owner, howner, -⟩ := enumerationAt?_eq_some_iff.mp he
  obtain rfl : known = knownAfter cs := h.known
  have hgives := h.extended.gives howner hgives
  constructor
  · exact hextends
  · rw [knownAfter_concat]
  · intro other e' he'
    rw [enumerationAt?_replace he] at he'
    split at he'
    · rename_i hid
      subst hid
      obtain rfl := Option.some.inj he'
      apply (h.collects id e he).add hgives
    · rename_i hid
      apply (h.collects other e' he').other hgives.calls.target hid
  · -- what was an enumeration still is one
    have hkept (other : Nat) (hother : (s.enumerationAt? other).isSome = true) :
        ((s.modifyKind id fun _ => .enumeration (addEnumMember m e)).enumerationAt? other).isSome
          = true := by
      rw [enumerationAt?_replace he]
      split
      · rfl
      · exact hother
    intro c' hc'
    rcases List.mem_append.mp hc' with hc' | hc'
    · obtain ⟨other, raw, name, hcalls, hother⟩ := h.called c' hc'
      exact ⟨other, raw, name, hcalls, hkept other hother⟩
    · obtain rfl := List.mem_singleton.mp hc'
      refine ⟨id, m.rawName, m.name, hgives.calls, hkept id ?_⟩
      rw [he]
      rfl

theorem Contributed.foldlM {state state' : Registry × Dict Int} (h : Contributed n r cs state)
    {more : List Contribution} (hmore : more.foldlM (contribute n) state = .ok state')
    (hextends : Extends Entity.label state'.1 r) :
  Contributed n r (cs ++ more) state'
  := by
  induction more generalizing cs state with
  | nil =>
      obtain rfl := Outcome.pure_eq_ok_iff.mp hmore
      rwa [List.append_nil]
  | cons c more ih =>
      obtain ⟨next, hnext, hrest⟩ := Outcome.foldlM_cons_eq_ok_iff.mp hmore
      have grown : Grows .empty next.1 state'.1 := by
        apply grows_foldlM Prod.fst _ hrest
        intro state c state'
        apply contribute_grows
      rw [← List.singleton_append, ← List.append_assoc]
      apply ih _ hrest
      apply h.step hnext (grown.extended.trans hextends)

/-! ### The enumerations of a document -/

/-- The entries that go to the enumerations of a registry, in the order in which they are
processed: those of the blocks of flags and of other enumerations as these are declared,
then those of features and of enabled extensions. -/
def processed (o : Options) (n : Naming) (d : Document) (basic r : Registry) :
    List Contribution :=
  contributions o d (ownSources n d basic r)

/-- The stage of enumerations processes the entries, as it is seen from a registry that
extends the one that it leads to. -/
theorem contributed_of_registerEnumerations {basic enumerated : Registry}
    (h : registerEnumerations o n d basic = .ok enumerated) (unfilled : basic.IsUnfilled)
    (hextends : Extends Entity.label enumerated r) :
  ∃ known, Contributed n r (processed o n d basic r) (enumerated, known)
  := by
  obtain ⟨s₁, hbitmasks, h⟩ := Outcome.bind_eq_ok_iff.mp h
  obtain ⟨s₂, henums, h⟩ := Outcome.bind_eq_ok_iff.mp h
  obtain ⟨aliased, haliases, h⟩ := Outcome.bind_eq_ok_iff.mp h
  obtain ⟨⟨last, known⟩, hmembers, h⟩ := Outcome.bind_eq_ok_iff.mp h
  obtain rfl := Except.ok.inj h
  obtain ⟨hsources, hunfilled⟩ := declarations_declare hbitmasks henums
  have named : Builds s₂.registry aliased := by
    apply builds_foldlM (fun r => r) _ haliases
    intro r declared r'
    apply registerEnumAlias_builds
  have contributed : Grows o.fieldCounters aliased last := by
    apply grows_foldlM Prod.fst _ hmembers
    intro state c state'
    apply contribute_grows
  have start : Contributed n r [] (aliased, .empty) := by
    use contributed.extended.trans hextends, rfl
    · intro id e he
      rw [named.isUnfilled (hunfilled unfilled) id e he]
      apply collects_declared
    · simp
  have horder : s₂.sources = ownSources n d basic r := by
    apply eq_filterMap_of_areSources
    apply ((named.grows.trans contributed).extended.trans hextends).areSources hsources
  use known
  rw [processed, ← horder]
  apply start.foldlM hmembers hextends

/-- The enumerations of a document have the members of the processed entries. -/
theorem collects_of_ofDocument (h : ofDocument o n d = .ok r) :
  ∃ basic, ofBasicTypes o n d = .ok basic
    ∧ (∀ id e, r.enumerationAt? id = some e → Collects n r (processed o n d basic r) id e)
    ∧ ∀ c ∈ processed o n d basic r, ∃ id raw name e, c.Calls n r id raw name
      ∧ r.enumerationAt? id = some e
  := by
  obtain ⟨basic, enumerated, handled, hbasic, henums, hhandles, hcomposites, -⟩ :=
    ofDocument_eq_ok_iff.mp h
  have unfilled : basic.IsUnfilled := by
    intro id e he
    rw [enumerationAt?_of_ofBasicTypes hbasic] at he
    cases he
  have composites : Grows o.fieldCounters handled r :=
    (registerComposites_registers hcomposites).grows
  have later := (registerHandles_builds hhandles).grows.trans composites
  obtain ⟨known, finish⟩ := contributed_of_registerEnumerations henums unfilled later.extended
  have same (id : Nat) : r.enumerationAt? id = enumerated.enumerationAt? id := by
    rw [enumerationAt?_of_registerComposites hcomposites,
      (registerHandles_builds hhandles).enumerationAt?_eq]
  use basic, hbasic
  constructor
  · intro id e he
    apply finish.collects id e
    rw [← same, he]
  · intro c hc
    obtain ⟨id, raw, name, hcalls, he⟩ := finish.called c hc
    obtain ⟨e, he⟩ := Option.isSome_iff_exists.mp he
    refine ⟨id, raw, name, e, hcalls, ?_⟩
    rw [same, he]

theorem name_ne_of_namesEntries (h : d.NamesEntries) {sources : List (Nat × String)}
    (hc : c ∈ contributions o d sources) :
  c.entry.attribute? "name" ≠ some ""
  := by
  -- what a feature or an extension requires
  have required (block : Block) (hblock : block ∈ d.features ++ d.extensions)
      (hc : c ∈ blockContributions block) : c.entry.attribute? "name" ≠ some "" := by
    obtain ⟨entry, hentry, hc⟩ := List.mem_filterMap.mp hc
    obtain ⟨raw, -, rfl⟩ := Option.map_eq_some_iff.mp hc
    apply h.2 block hblock entry hentry
  rw [contributions, List.mem_append, List.mem_append] at hc
  rcases hc with (hc | hc) | hc
  · obtain ⟨⟨id, name⟩, -, hc⟩ := List.mem_flatMap.mp hc
    simp only at hc
    cases hblock : d.enumBlock? name with
    | none =>
        rw [hblock] at hc
        cases hc
    | some block =>
        rw [hblock] at hc
        obtain ⟨entry, hentry, rfl⟩ := List.mem_map.mp hc
        apply h.1 block (List.mem_of_find?_eq_some hblock) entry hentry
  · obtain ⟨block, hblock, hc⟩ := List.mem_flatMap.mp hc
    apply required block (List.mem_append_left _ hblock) hc
  · obtain ⟨block, hblock, hc⟩ := List.mem_flatMap.mp hc
    apply required block (List.mem_append_right _ (List.mem_filter.mp hblock).1) hc

/-- The members of an enumeration are those of the entries of a list that come first. -/
structure HasExactMembers (n : Naming) (r : Registry) (order : List Contribution) (id : Nat)
    (e : Enumeration) : Prop where
  /-- No two members have the same canonical name. -/
  names : (e.members.map (·.name)).Nodup
  /-- No two members have the same raw name. -/
  rawNames : (e.members.map (·.rawName)).Nodup
  /-- Flags have the implicit member before all others.  No other member has its name, and
  each is that of the first entry for the enumeration that has its canonical name there, with
  the value of this entry where those of the entries before it are known. -/
  members : ∃ others, e.members = (if e.isBitmask then [⟨"None", "", 0⟩] else []) ++ others
    ∧ ∀ m ∈ others, m.name ≠ "None"
      ∧ ∃ before c after, order = before ++ c :: after
        ∧ c.Gives n r (knownAfter before) id m
        ∧ ∀ earlier ∈ before, ∀ raw, ¬earlier.Calls n r id raw m.name

/-- In the registry of a document, every enumeration has the implicit member, if it is one of
flags, and the members of the entries that come first. -/
theorem hasExactMembers_of_ofDocument (h : ofDocument o n d = .ok r) (named : d.NamesEntries) :
  ∃ basic, ofBasicTypes o n d = .ok basic
    ∧ ∀ id owner e, r.get? id = some owner → owner.kind = .enumeration e →
      HasExactMembers n r (processed o n d basic r) id e
  := by
  obtain ⟨basic, hbasic, collects, -⟩ := collects_of_ofDocument h
  use basic, hbasic
  intro id owner e howner hkind
  have members := collects id e (enumerationAt?_eq_some_iff.mpr ⟨owner, howner, hkind⟩)
  obtain ⟨others, hmembers, hothers⟩ := members.members
  use members.names, members.rawNames, others, hmembers
  intro m hm
  obtain ⟨hnone, before, c, after, horder, hgives, hfirst⟩ := hothers m hm
  refine ⟨hnone, before, c, after, horder, hgives, ?_⟩
  intro earlier hearlier raw hcalls
  obtain rfl := hfirst earlier hearlier raw hcalls
  have hmem : earlier ∈ contributions o d (ownSources n d basic r) := by
    change earlier ∈ processed o n d basic r
    rw [horder]
    apply List.mem_append_left _ hearlier
  apply name_ne_of_namesEntries named hmem hcalls.rawName

/-- A document with flags and an enumeration, both of which have an entry whose canonical name
is that of the implicit member.  An extension adds entries to an alias of the enumeration, the
first of which is the last one of its block. -/
def layeredDocument : Document where
  root :=
    let entry (name key value : String) : Element :=
      ((Element.named "enum").withAttribute "name" name).withAttribute key value
    let block (name : String) (entries : List Element) : Element :=
      entries.foldl Element.withChild ((Element.named "enums").withAttribute "name" name)
    let types := [
      (declaration "bitmask" "VkUseFlags").withAttribute "requires" "VkUseFlagBits",
      declaration "enum" "VkUseFlagBits", declaration "enum" "VkLayer",
      (declaration "enum" "VkLayerKHR").withAttribute "alias" "VkLayer"]
    let added := [entry "VK_LAYER_TOP" "value" "5", entry "VK_LAYER_BASE" "alias" "VK_LAYER_TOP",
      entry "VK_LAYER_FAR" "offset" "3"]
    (Element.named "registry")
      |>.withChild (types.foldl Element.withChild (Element.named "types"))
      |>.withChild (block "VkUseFlagBits"
          [entry "VK_USE_NONE" "value" "0", entry "VK_USE_READ_BIT" "bitpos" "1"])
      |>.withChild (block "VkLayer"
          [entry "VK_LAYER_NONE" "value" "0", entry "VK_LAYER_TOP" "value" "1"])
      |>.withChild ((Element.named "extensions").withChild
          (((Element.named "extension").withAttribute "name" "VK_KHR_layer")
            |>.withAttribute "number" "2"
            |>.withChild ((added.map (·.withAttribute "extends" "VkLayerKHR")).foldl
              Element.withChild (Element.named "require"))))
  name_root := rfl

/-- The members of these are exact. -/
theorem hasExactMembers_of_ofDocument_layered :
  ∃ r basic, ofDocument .standard Options.standard.naming layeredDocument = .ok r
    ∧ ofBasicTypes .standard Options.standard.naming layeredDocument = .ok basic
    ∧ ∃ flags layer, HasExactMembers Options.standard.naming r
        (processed .standard Options.standard.naming layeredDocument basic r) flags
        ⟨true, [⟨"None", "", 0⟩, ⟨"Read", "VK_USE_READ_BIT", 2⟩]⟩
      ∧ HasExactMembers Options.standard.naming r
        (processed .standard Options.standard.naming layeredDocument basic r) layer
        ⟨false, [⟨"Top", "VK_LAYER_TOP", 1⟩, ⟨"Base", "VK_LAYER_BASE", 1⟩,
          ⟨"Far", "VK_LAYER_FAR", 1000001003⟩]⟩
  := by
  have evaluated :
      (ofDocument .standard Options.standard.naming layeredDocument).toOption.any (fun r =>
        ((r.idOf? "UseFlags").bind r.enumerationAt?
          == some ⟨true, [⟨"None", "", 0⟩, ⟨"Read", "VK_USE_READ_BIT", 2⟩]⟩)
        && ((r.idOf? "Layer").bind r.enumerationAt?
          == some ⟨false, [⟨"Top", "VK_LAYER_TOP", 1⟩, ⟨"Base", "VK_LAYER_BASE", 1⟩,
            ⟨"Far", "VK_LAYER_FAR", 1000001003⟩]⟩))
        = true := by
    decide +kernel
  have named : layeredDocument.NamesEntries := by
    rw [Document.NamesEntries]
    decide +kernel
  obtain ⟨r, hr, h⟩ := (Option.any_eq_true _ _).mp evaluated
  have built := Outcome.toOption_eq_some_iff.mp hr
  obtain ⟨basic, hbasic, members⟩ := hasExactMembers_of_ofDocument built named
  simp only [Bool.and_eq_true, beq_iff_eq, Option.bind_eq_some_iff, enumerationAt?_eq_some_iff] at h
  obtain ⟨⟨flags, -, _, hflags, hflagsKind⟩, layer, -, _, hlayer, hlayerKind⟩ := h
  refine ⟨r, basic, built, hbasic, flags, layer, ?_, ?_⟩
  · apply members flags _ _ hflags hflagsKind
  · apply members layer _ _ hlayer hlayerKind

/-- In the registry of a document, every processed entry is for an enumeration.  Apart from
entries without a name, it has a member of its canonical name exactly if it is one of flags
or the name is not that of the implicit member. -/
theorem keepsEntries_of_ofDocument (h : ofDocument o n d = .ok r) :
  ∃ basic, ofBasicTypes o n d = .ok basic
    ∧ ∀ c ∈ processed o n d basic r, ∃ id raw name owner e, c.Calls n r id raw name
      ∧ r.get? id = some owner ∧ owner.kind = .enumeration e
      ∧ (raw ≠ "" →
        ((∃ m ∈ e.members, m.name = name) ↔ e.isBitmask = true ∨ name ≠ "None"))
  := by
  obtain ⟨basic, hbasic, collects, called⟩ := collects_of_ofDocument h
  use basic, hbasic
  intro c hc
  obtain ⟨id, raw, name, e, hcalls, he⟩ := called c hc
  obtain ⟨owner, howner, hkind⟩ := enumerationAt?_eq_some_iff.mp he
  refine ⟨id, raw, name, owner, e, hcalls, howner, hkind, ?_⟩
  apply (collects id e he).exists_mem_iff hc hcalls

/-- The entry of the enumeration that has the name of the implicit member is lost, although
the enumeration has no member of that name. -/
theorem keepsEntries_of_ofDocument_layered :
  ∃ r basic, ofDocument .standard Options.standard.naming layeredDocument = .ok r
    ∧ ofBasicTypes .standard Options.standard.naming layeredDocument = .ok basic
    ∧ ∃ c ∈ processed .standard Options.standard.naming layeredDocument basic r,
      ∃ id name owner e, c.Calls Options.standard.naming r id "VK_LAYER_NONE" name
        ∧ r.get? id = some owner ∧ owner.kind = .enumeration e
        ∧ ¬∃ m ∈ e.members, m.name = name
  := by
  have evaluated :
      (ofDocument .standard Options.standard.naming layeredDocument).toOption.any (fun r =>
        (ofBasicTypes .standard Options.standard.naming layeredDocument).toOption.any fun basic =>
          (processed .standard Options.standard.naming layeredDocument basic r).any fun c =>
            c.entry.attribute? "name" == some "VK_LAYER_NONE"
              && (r.memberTarget c.target).toOption.any fun id =>
                (r.enumerationAt? id).any (!·.isBitmask)
                  && (Options.standard.naming.enumMember "VK_LAYER_NONE" (r.nameOf id)).toOption
                    == some "None")
        = true := by
    decide +kernel
  obtain ⟨r, hr, h⟩ := (Option.any_eq_true _ _).mp evaluated
  obtain ⟨basic, hbasic, h⟩ := (Option.any_eq_true _ _).mp h
  obtain ⟨c, hc, h⟩ := List.any_eq_true.mp h
  have built := Outcome.toOption_eq_some_iff.mp hr
  simp only [Bool.and_eq_true, beq_iff_eq, Option.any_eq_true] at h
  obtain ⟨hraw, id, htarget, ⟨e, he, hkind⟩, hname⟩ := h
  obtain ⟨basic', hbasic', kept⟩ := keepsEntries_of_ofDocument built
  obtain rfl := Option.some.inj (hbasic.symm.trans (Outcome.toOption_eq_some_iff.mpr hbasic'))
  obtain ⟨id', raw, name, owner, e', hcalls, howner, hkind', hkept⟩ := kept c hc
  obtain rfl := Option.some.inj (hraw.symm.trans hcalls.rawName)
  obtain rfl := Option.some.inj
    (htarget.symm.trans (Outcome.toOption_eq_some_iff.mpr hcalls.target))
  obtain rfl := Option.some.inj
    (he.symm.trans (enumerationAt?_eq_some_iff.mpr ⟨owner, howner, hkind'⟩))
  obtain rfl := Option.some.inj
    (hname.symm.trans (Outcome.toOption_eq_some_iff.mpr hcalls.translated))
  refine ⟨r, basic, built, hbasic', c, hc, id, "None", owner, e, hcalls, howner, hkind', ?_⟩
  rw [hkept (by decide)]
  simpa using hkind

end Registry

end NativeApi
