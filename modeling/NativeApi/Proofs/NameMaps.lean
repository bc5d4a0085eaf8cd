import NativeApi.NameMap
import NativeApi.Proofs.Arena

/-!
# Raw and canonical names

A name map is searched for raw names in one order and for canonical names in another, and
each of its parts has kept the last of the names that were put into it.  Main statement: where
neither raw nor canonical names are shared, and no canonical name has a dot, both searches find
all names that the registry maps and nothing else, so each undoes the other.
-/

namespace NativeApi

/-! ### Names of a registry -/

namespace Registry

variable {r : Registry} {raw raw' canonical canonical' : String}

/-- A raw name stands for a canonical name: those of an enumeration, those of a member that has
a raw name, which goes by its enumeration, or those of a composite that is not foreign. -/
inductive Maps (r : Registry) : String → String → Prop where
  | enumeration {e : Entity} {n : Enumeration} :
    e ∈ r.entities → e.kind = .enumeration n → Maps r e.rawName e.name
  | member {e : Entity} {n : Enumeration} {m : EnumMember} :
    e ∈ r.entities → e.kind = .enumeration n → m ∈ n.members → m.rawName ≠ "" →
    Maps r m.rawName (e.name ++ "." ++ m.name)
  | composite {e : Entity} {c : Composite} :
    e ∈ r.entities → e.kind = .composite c → c.foreign = false → Maps r e.rawName e.name

/-- The raw names of enumerations, of their members that have one, and of composites that are
not foreign. -/
def mappedRawNames (r : Registry) : List String :=
  r.enumerations.map (·.1.rawName)
    ++ r.enumerations.flatMap (fun entry =>
      (entry.2.members.map (·.rawName)).filter (!·.isEmpty))
    ++ (r.composites.filter (!·.2.foreign)).map (·.1.rawName)

/-- No two names are the same: neither canonical names, nor mapped raw names, nor the names of
members of one enumeration; and no canonical name has a dot, so it is not that of a member,
whose own name may have dots. -/
structure NamesApart (r : Registry) : Prop where
  names : r.names.Nodup
  rawNames : r.mappedRawNames.Nodup
  members : ∀ entry ∈ r.enumerations, (entry.2.members.map (·.name)).Nodup
  undotted : ∀ e ∈ r.entities, '.' ∉ e.name.toList

instance (r : Registry) : Decidable r.NamesApart :=
  decidable_of_iff
    (r.names.Nodup ∧ r.mappedRawNames.Nodup
      ∧ (∀ entry ∈ r.enumerations, (entry.2.members.map (·.name)).Nodup)
      ∧ ∀ e ∈ r.entities, '.' ∉ e.name.toList)
    ⟨fun ⟨names, rawNames, members, undotted⟩ => ⟨names, rawNames, members, undotted⟩,
      fun apart => ⟨apart.names, apart.rawNames, apart.members, apart.undotted⟩⟩

/-! ### Mapped names are listed -/

/-- The names of enumerations, as the map of a registry gets them. -/
def enumerationPairs (r : Registry) : List (String × String) :=
  r.enumerations.map fun entry => (entry.1.rawName, entry.1.name)

/-- The names of members, as the map of a registry gets them. -/
def memberPairs (r : Registry) : List (String × String) :=
  r.enumerations.flatMap NameMap.memberEntries

/-- The names of composites, as the map of a registry gets them. -/
def compositePairs (r : Registry) : List (String × String) :=
  (r.composites.filter (!·.2.foreign)).map fun entry => (entry.1.rawName, entry.1.name)

/-- All names that the map of a registry gets. -/
def namePairs (r : Registry) : List (String × String) :=
  r.enumerationPairs ++ r.memberPairs ++ r.compositePairs

theorem maps_iff_mem_namePairs :
  r.Maps raw canonical ↔ (raw, canonical) ∈ r.namePairs
  := by
  rw [namePairs, List.mem_append, List.mem_append]
  constructor
  · intro h
    cases h with
    | @enumeration e n he hn =>
        left; left
        apply List.mem_map.mpr
        use (e, n), mem_enumerations_iff.mpr ⟨he, hn⟩
    | @member e n m he hn hm hraw =>
        left; right
        apply List.mem_flatMap.mpr
        use (e, n), mem_enumerations_iff.mpr ⟨he, hn⟩
        apply List.mem_map.mpr
        refine ⟨m, List.mem_filter.mpr ⟨hm, ?_⟩, rfl⟩
        simpa using hraw
    | @composite e c he hc hforeign =>
        right
        apply List.mem_map.mpr
        refine ⟨(e, c), List.mem_filter.mpr ⟨mem_composites_iff.mpr ⟨he, hc⟩, ?_⟩, rfl⟩
        simp [hforeign]
  · rintro ((h | h) | h)
    · obtain ⟨⟨e, n⟩, hen, heq⟩ := List.mem_map.mp h
      obtain ⟨he, hn⟩ := mem_enumerations_iff.mp hen
      cases heq
      exact .enumeration he hn
    · obtain ⟨⟨e, n⟩, hen, h⟩ := List.mem_flatMap.mp h
      obtain ⟨he, hn⟩ := mem_enumerations_iff.mp hen
      obtain ⟨m, hm, heq⟩ := List.mem_map.mp h
      obtain ⟨hm, hraw⟩ := List.mem_filter.mp hm
      cases heq
      exact .member he hn hm (by simpa using hraw)
    · obtain ⟨⟨e, c⟩, hec, heq⟩ := List.mem_map.mp h
      obtain ⟨hec, hforeign⟩ := List.mem_filter.mp hec
      obtain ⟨he, hc⟩ := mem_composites_iff.mp hec
      cases heq
      exact .composite he hc (by simpa using hforeign)

theorem map_fst_namePairs (r : Registry) :
  r.namePairs.map (·.1) = r.mappedRawNames
  := by
  have hmembers (entry : Entity × Enumeration) :
      (NameMap.memberEntries entry).map (·.1)
        = (entry.2.members.map (·.rawName)).filter (!·.isEmpty) := by
    rw [NameMap.memberEntries, List.map_map, List.filter_map]
    rfl
  simp only [namePairs, mappedRawNames, List.map_append, enumerationPairs, memberPairs,
    compositePairs, List.map_map, List.map_flatMap, hmembers]
  rfl

theorem mem_mappedRawNames_iff :
  raw ∈ r.mappedRawNames ↔ ∃ canonical, r.Maps raw canonical
  := by
  rw [← map_fst_namePairs, List.mem_map]
  constructor
  · rintro ⟨⟨_, canonical⟩, h, rfl⟩
    use canonical, maps_iff_mem_namePairs.mpr h
  · rintro ⟨canonical, h⟩
    use (raw, canonical), maps_iff_mem_namePairs.mp h

/-! ### Mapped names are not shared -/

/-- A raw name stands for at most one canonical name. -/
theorem NamesApart.canonical_unique (apart : r.NamesApart) (h : r.Maps raw canonical)
    (h' : r.Maps raw canonical') :
  canonical = canonical'
  := by
  have distinct : (r.namePairs.map (·.1)).Nodup := by
    rw [map_fst_namePairs]
    exact apart.rawNames
  have heq := List.inj_on_of_nodup_map distinct (maps_iff_mem_namePairs.mp h)
    (maps_iff_mem_namePairs.mp h') rfl
  apply congrArg Prod.snd heq

/-- An entity is known by its canonical name. -/
theorem NamesApart.eq_of_name_eq (apart : r.NamesApart) {e e' : Entity} (he : e ∈ r.entities)
    (he' : e' ∈ r.entities) (hname : e.name = e'.name) :
  e = e'
  := List.inj_on_of_nodup_map apart.names he he' hname

/-- The name of a member is not that of an entity. -/
theorem NamesApart.name_ne_dotted (apart : r.NamesApart) {e : Entity} (he : e ∈ r.entities)
    (owner name : String) :
  e.name ≠ owner ++ "." ++ name
  := by
  intro heq
  apply apart.undotted e he
  rw [heq]
  simp

/-- Two names that go by an owner without a dot are equal only if both parts are. -/
theorem eq_of_dotted_eq {owner owner' name name' : String} (howner : '.' ∉ owner.toList)
    (howner' : '.' ∉ owner'.toList) (heq : owner ++ "." ++ name = owner' ++ "." ++ name') :
  owner = owner' ∧ name = name'
  := by
  have hfirst {owner : String} (name : String) (h : '.' ∉ owner.toList) :
      (owner ++ "." ++ name).toList.takeWhile (· != '.') = owner.toList := by
    rw [String.append_assoc, String.toList_append, List.takeWhile_append_of_pos]
    · simp
    · rintro c hc
      rw [bne_iff_ne]
      rintro rfl
      exact h hc
  obtain rfl : owner = owner' := by
    apply String.toList_inj.mp
    rw [← hfirst name howner, heq, hfirst name' howner']
  use rfl
  exact (String.append_right_inj _).mp heq

/-- A raw name is that of an entity or that of a member, and so is the canonical name. -/
theorem Maps.owner (h : r.Maps raw canonical) :
  (∃ e ∈ r.entities, raw = e.rawName ∧ canonical = e.name)
    ∨ ∃ entry ∈ r.enumerations, ∃ m ∈ entry.2.members,
      raw = m.rawName ∧ canonical = NameMap.memberName entry.1 m
  := by
  cases h with
  | @enumeration e n he hn => exact .inl ⟨e, he, rfl, rfl⟩
  | @member e n m he hn hm hraw =>
      exact .inr ⟨(e, n), mem_enumerations_iff.mpr ⟨he, hn⟩, m, hm, rfl, rfl⟩
  | @composite e c he hc hforeign => exact .inl ⟨e, he, rfl, rfl⟩

/-- A member is known by the name of its enumeration and its own. -/
theorem NamesApart.member_unique (apart : r.NamesApart) {entry entry' : Entity × Enumeration}
    (hentry : entry ∈ r.enumerations) (hentry' : entry' ∈ r.enumerations) {m m' : EnumMember}
    (hm : m ∈ entry.2.members) (hm' : m' ∈ entry'.2.members)
    (heq : NameMap.memberName entry.1 m = NameMap.memberName entry'.1 m') :
  m = m'
  := by
  obtain ⟨e, n⟩ := entry
  obtain ⟨e', n'⟩ := entry'
  obtain ⟨he, hn⟩ := mem_enumerations_iff.mp hentry
  obtain ⟨he', hn'⟩ := mem_enumerations_iff.mp hentry'
  obtain ⟨howner, hname⟩ := eq_of_dotted_eq (apart.undotted e he) (apart.undotted e' he') heq
  obtain rfl := apart.eq_of_name_eq he he' howner
  obtain rfl : n = n' := Entity.Kind.enumeration.inj (hn.symm.trans hn')
  exact List.inj_on_of_nodup_map (apart.members (e, n) hentry) hm hm' hname

/-- A canonical name has at most one raw name. -/
theorem NamesApart.raw_unique (apart : r.NamesApart) (h : r.Maps raw canonical)
    (h' : r.Maps raw' canonical) :
  raw = raw'
  := by
  rcases h.owner with ⟨e, he, rfl, rfl⟩ | ⟨entry, hentry, m, hm, rfl, rfl⟩
  · rcases h'.owner with ⟨e', he', rfl, heq⟩ | ⟨entry', hentry', m', hm', rfl, heq⟩
    · rw [apart.eq_of_name_eq he he' heq]
    · exact absurd heq (apart.name_ne_dotted he _ _)
  · rcases h'.owner with ⟨e', he', rfl, heq⟩ | ⟨entry', hentry', m', hm', rfl, heq⟩
    · exact absurd heq.symm (apart.name_ne_dotted he' _ _)
    · rw [apart.member_unique hentry hentry' hm hm' heq]

end Registry

/-! ### Both searches -/

namespace NameMap

variable {r : Registry} {m : NameMap} {raw canonical : String}

/-- Both names are an entry of one of the parts. -/
def Lists (m : NameMap) (raw canonical : String) : Prop :=
  m.enumerations.get? raw = some canonical ∨ m.members.get? raw = some canonical
    ∨ m.composites.get? raw = some canonical

theorem lists_of_canonical? (h : m.canonical? raw = some canonical) :
  m.Lists raw canonical
  := by
  rw [canonical?, Option.or_eq_some_iff, Option.or_eq_some_iff] at h
  rcases h with (h | ⟨-, h⟩) | ⟨-, h⟩
  · exact .inl h
  · exact .inr (.inl h)
  · exact .inr (.inr h)

/-- What is searched for a canonical name are the entries of all parts. -/
theorem mem_entries_iff :
  (raw, canonical) ∈ m.enumerations.entries ++ m.composites.entries ++ m.members.entries
    ↔ m.Lists raw canonical
  := by
  rw [List.mem_append, List.mem_append, ← Dict.get?_eq_some_iff, ← Dict.get?_eq_some_iff,
    ← Dict.get?_eq_some_iff, Lists, or_assoc]
  exact or_congr_right or_comm

theorem lists_of_raw? (h : m.raw? canonical = some raw) :
  m.Lists raw canonical
  := by
  obtain ⟨⟨raw', canonical'⟩, hfound, rfl⟩ := Option.map_eq_some_iff.mp h
  obtain rfl : canonical' = canonical := by simpa using List.find?_some hfound
  exact mem_entries_iff.mp (List.mem_of_find?_eq_some hfound)

/-- A listed canonical name is found. -/
theorem exists_raw? (h : m.Lists raw canonical) :
  ∃ raw', m.raw? canonical = some raw'
  := by
  have hsome : ((m.enumerations.entries ++ m.composites.entries ++ m.members.entries).find?
      (·.2 == canonical)).isSome = true := by
    apply List.find?_isSome.mpr
    use (raw, canonical), mem_entries_iff.mpr h, beq_self_eq_true canonical
  obtain ⟨entry, hfound⟩ := Option.isSome_iff_exists.mp hsome
  use entry.1
  rw [raw?, hfound, Option.map_some]

/-- The map of a registry lists nothing but what the registry maps. -/
theorem maps_of_lists (h : (ofRegistry r).Lists raw canonical) :
  r.Maps raw canonical
  := by
  rw [Registry.maps_iff_mem_namePairs, Registry.namePairs, List.mem_append, List.mem_append,
    or_assoc]
  rcases h with h | h | h
  · exact .inl (Dict.mem_of_get?_ofList h)
  · exact .inr (.inl (Dict.mem_of_get?_ofList h))
  · exact .inr (.inr (Dict.mem_of_get?_ofList h))

/-- The raw names that are found in the map of a registry are the mapped ones. -/
theorem isSome_canonical?_iff :
  ((ofRegistry r).canonical? raw).isSome = true ↔ raw ∈ r.mappedRawNames
  := by
  rw [canonical?, Option.isSome_or, Option.isSome_or, Bool.or_eq_true, Bool.or_eq_true,
    ofRegistry, Dict.isSome_get?_ofList_iff, Dict.isSome_get?_ofList_iff,
    Dict.isSome_get?_ofList_iff, ← Registry.map_fst_namePairs, Registry.namePairs,
    List.map_append, List.map_append, List.mem_append, List.mem_append]
  rfl

theorem canonical?_eq_some_iff (apart : r.NamesApart) :
  (ofRegistry r).canonical? raw = some canonical ↔ r.Maps raw canonical
  := by
  constructor
  · intro h
    exact maps_of_lists (lists_of_canonical? h)
  · intro h
    obtain ⟨found, hfound⟩ := Option.isSome_iff_exists.mp
      (isSome_canonical?_iff.mpr (Registry.mem_mappedRawNames_iff.mpr ⟨canonical, h⟩))
    rw [hfound, apart.canonical_unique (maps_of_lists (lists_of_canonical? hfound)) h]

theorem raw?_eq_some_iff (apart : r.NamesApart) :
  (ofRegistry r).raw? canonical = some raw ↔ r.Maps raw canonical
  := by
  constructor
  · intro h
    exact maps_of_lists (lists_of_raw? h)
  · intro h
    obtain ⟨found, hfound⟩ :=
      exists_raw? (lists_of_canonical? ((canonical?_eq_some_iff apart).mpr h))
    rw [hfound, apart.raw_unique (maps_of_lists (lists_of_raw? hfound)) h]

/-- Where names are apart, exactly the mapped raw names have a canonical name, which is the one
that they stand for; and searching a raw name and searching a canonical name are inverse to each
other. -/
theorem searches_inverse (apart : r.NamesApart) :
  (∀ raw, ((ofRegistry r).canonical? raw).isSome = true ↔ raw ∈ r.mappedRawNames)
    ∧ (∀ raw canonical, (ofRegistry r).canonical? raw = some canonical ↔ r.Maps raw canonical)
    ∧ (∀ raw ∈ r.mappedRawNames,
        ((ofRegistry r).canonical? raw).bind (ofRegistry r).raw? = some raw)
    ∧ ∀ canonical raw, (ofRegistry r).raw? canonical = some raw →
        (ofRegistry r).canonical? raw = some canonical
  := by
  refine ⟨fun raw => isSome_canonical?_iff, fun raw canonical => canonical?_eq_some_iff apart,
    ?_, ?_⟩
  · intro raw hraw
    obtain ⟨canonical, h⟩ := Registry.mem_mappedRawNames_iff.mp hraw
    rw [(canonical?_eq_some_iff apart).mpr h, Option.bind_some]
    exact (raw?_eq_some_iff apart).mpr h
  · intro canonical raw h
    exact (canonical?_eq_some_iff apart).mpr ((raw?_eq_some_iff apart).mp h)

/-- Two kinds of flags, each with a member of no raw name and one that both have the name of, a
structure, a foreign one and an alias. -/
def flagTypes : Registry where
  entities := [
    ⟨"AccessFlags", "VkAccessFlags",
      .enumeration ⟨true, [⟨"None", "", 0⟩, ⟨"Read", "VK_ACCESS_READ_BIT", 1⟩]⟩⟩,
    ⟨"FormatFlags", "VkFormatFlags",
      .enumeration ⟨true, [⟨"None", "", 0⟩, ⟨"Read", "VK_FORMAT_READ_BIT", 1⟩]⟩⟩,
    ⟨"Extent2D", "VkExtent2D", .composite (.shell .struct)⟩,
    ⟨"SecurityAttributes", "SECURITY_ATTRIBUTES",
      .composite { Composite.shell .struct with foreign := true }⟩,
    ⟨"FormatFlagsKhr", "VkFormatFlagsKHR", .aliasOf "FormatFlags"⟩]
  rawIds := .empty
  constants := .empty
  platforms := []

theorem searches_inverse_flagTypes :
  flagTypes.NamesApart
    ∧ (ofRegistry flagTypes).canonical? "VK_FORMAT_READ_BIT" = some "FormatFlags.Read"
    ∧ (ofRegistry flagTypes).raw? "FormatFlags.Read" = some "VK_FORMAT_READ_BIT"
    ∧ (ofRegistry flagTypes).canonical? "" = none
    ∧ (ofRegistry flagTypes).canonical? "SECURITY_ATTRIBUTES" = none
  := by
  have apart : flagTypes.NamesApart := by decide +kernel
  obtain ⟨found, maps, there, -⟩ := searches_inverse apart
  have hread : (ofRegistry flagTypes).canonical? "VK_FORMAT_READ_BIT"
      = some "FormatFlags.Read" := by
    apply (maps _ _).mpr
    apply Registry.maps_iff_mem_namePairs.mpr
    decide +kernel
  have hback := there "VK_FORMAT_READ_BIT" (by decide +kernel)
  rw [hread] at hback
  refine ⟨apart, hread, hback, ?_, ?_⟩
  · apply Option.not_isSome_iff_eq_none.mp
    rw [found]
    decide +kernel
  · apply Option.not_isSome_iff_eq_none.mp
    rw [found]
    decide +kernel

end NameMap

end NativeApi
