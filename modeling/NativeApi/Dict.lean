/-!
# Sorted dictionaries and sets of names

A `Dict α` is a finite map from strings to `α` whose entries are listed in the order of
the code points of their keys, each key once.  A `NameSet` is a finite set of strings
listed in the same order.  Both carry their order as a proof, so two of them with the
same content are equal.  The main statements are `Dict.get?_insert`, `Dict.ext_get?`,
`NameSet.mem_insert` and `NameSet.ext_mem`.
-/

namespace NativeApi

/-- Two strings of which neither is before the other are equal. -/
theorem eq_of_not_lt_of_not_lt {a b : String} (h : ¬ a < b) (h' : ¬ b < a) :
  a = b
  := String.le_antisymm (String.not_lt.1 h') (String.not_lt.1 h)

/-- A finite map from strings, listed by increasing key. -/
structure Dict (α : Type) where
  entries : List (String × α)
  sorted : entries.Pairwise (fun a b => a.1 < b.1)

namespace Dict

variable {α β : Type}

/-! ### Insertion into a sorted list of entries -/

/-- The entries with the value at `key` set to `value`. -/
def setEntry (key : String) (value : α) : List (String × α) → List (String × α)
  | [] => [(key, value)]
  | (k, v) :: rest =>
    if key < k then (key, value) :: (k, v) :: rest
    else if k < key then (k, v) :: setEntry key value rest
    else (key, value) :: rest

theorem key_of_mem_setEntry {key : String} {value : α} {entry : String × α}
    {entries : List (String × α)} (h : entry ∈ setEntry key value entries) :
  entry = (key, value) ∨ entry ∈ entries
  := by
  fun_induction setEntry key value entries with
  | case1 => simp_all
  | case2 => simp_all
  | case3 k v rest _ _ ih =>
    rcases List.mem_cons.1 h with h | h
    · exact .inr (h ▸ List.mem_cons_self)
    · exact (ih h).imp_right (List.mem_cons_of_mem _)
  | case4 =>
    rcases List.mem_cons.1 h with h | h
    · exact .inl h
    · exact .inr (List.mem_cons_of_mem _ h)

theorem setEntry_sorted (key : String) (value : α) {entries : List (String × α)}
    (h : entries.Pairwise (fun a b => a.1 < b.1)) :
  (setEntry key value entries).Pairwise (fun a b => a.1 < b.1)
  := by
  fun_induction setEntry key value entries with
  | case1 => simp
  | case2 k v rest before =>
    refine List.pairwise_cons.2 ⟨fun entry mem => ?_, h⟩
    rcases List.mem_cons.1 mem with rfl | mem
    · exact before
    · exact String.lt_trans before (List.rel_of_pairwise_cons h mem)
  | case3 k v rest _ after ih =>
    refine List.pairwise_cons.2 ⟨fun entry mem => ?_, ih h.of_cons⟩
    rcases key_of_mem_setEntry mem with rfl | mem
    · exact after
    · exact List.rel_of_pairwise_cons h mem
  | case4 k v rest before after =>
    obtain rfl : key = k := eq_of_not_lt_of_not_lt before after
    exact List.pairwise_cons.2 ⟨fun entry mem => List.rel_of_pairwise_cons h mem, h.of_cons⟩

theorem lookup_cons_of_ne {key k : String} (h : key ≠ k) (v : α) (rest : List (String × α)) :
  ((k, v) :: rest).lookup key = rest.lookup key
  := by
  rw [List.lookup_cons, beq_false_of_ne h]

theorem lookup_setEntry (key other : String) (value : α) (entries : List (String × α)) :
  (setEntry key value entries).lookup other
    = if other = key then some value else entries.lookup other
  := by
  split
  next h =>
    subst h
    fun_induction setEntry other value entries with
    | case1 => exact List.lookup_cons_self
    | case2 => exact List.lookup_cons_self
    | case3 k v rest before after ih =>
      rw [lookup_cons_of_ne (Ne.symm (String.ne_of_lt after)), ih]
    | case4 => exact List.lookup_cons_self
  next h =>
    fun_induction setEntry key value entries with
    | case1 => exact lookup_cons_of_ne h value []
    | case2 => exact lookup_cons_of_ne h value _
    | case3 k v rest before after ih => rw [List.lookup_cons, List.lookup_cons, ih]
    | case4 k v rest before after =>
      obtain rfl : key = k := eq_of_not_lt_of_not_lt before after
      rw [lookup_cons_of_ne h, lookup_cons_of_ne h]

/-! ### Operations -/

/-- The dictionary with no entry. -/
def empty : Dict α := ⟨[], .nil⟩

instance : EmptyCollection (Dict α) := ⟨empty⟩

instance : Inhabited (Dict α) := ⟨empty⟩

/-- The value at a key, if there is one. -/
def get? (d : Dict α) (key : String) : Option α := d.entries.lookup key

/-- Whether a key has a value. -/
def contains (d : Dict α) (key : String) : Bool := (d.get? key).isSome

/-- The dictionary with the value at `key` set to `value`. -/
def insert (d : Dict α) (key : String) (value : α) : Dict α :=
  ⟨setEntry key value d.entries, setEntry_sorted key value d.sorted⟩

/-- The dictionary with the value at `key` set to `value` unless it already has one. -/
def insertNew (d : Dict α) (key : String) (value : α) : Dict α :=
  if d.contains key then d else d.insert key value

/-- The dictionary of a list of entries, in which a later entry replaces an earlier one. -/
def ofList (entries : List (String × α)) : Dict α :=
  entries.foldl (fun d entry => d.insert entry.1 entry.2) empty

/-- The keys in increasing order. -/
def keys (d : Dict α) : List String := d.entries.map (·.1)

/-- The values in the order of their keys. -/
def values (d : Dict α) : List α := d.entries.map (·.2)

/-- Whether there is no entry. -/
def isEmpty (d : Dict α) : Bool := d.entries.isEmpty

/-! ### Lookup -/

@[simp]
theorem get?_empty (key : String) :
  (empty : Dict α).get? key = none
  := rfl

theorem get?_insert (d : Dict α) (key other : String) (value : α) :
  (d.insert key value).get? other = if other = key then some value else d.get? other
  := lookup_setEntry key other value d.entries

/-- An insertion that keeps what is there changes only a missing key. -/
theorem get?_insertNew (d : Dict α) (key other : String) (value : α) :
  (d.insertNew key value).get? other
    = (d.get? other).or (if other = key then some value else none)
  := by
  unfold insertNew contains
  split
  · by_cases h : other = key
    · subst h
      simp_all [Option.isSome_iff_exists]
      obtain ⟨v, hv⟩ := ‹∃ _, _›
      simp [hv]
    · simp [h]
  · rw [get?_insert]
    by_cases h : other = key
    · subst h
      simp_all
    · simp [h]

/-- A key has a value exactly when an entry with that key and value is listed. -/
theorem get?_eq_some_iff {d : Dict α} {key : String} {value : α} :
  d.get? key = some value ↔ (key, value) ∈ d.entries
  := by
  obtain ⟨entries, sorted⟩ := d
  unfold get?
  induction entries with
  | nil => simp
  | cons head rest ih =>
    obtain ⟨k, v⟩ := head
    have ih := ih sorted.of_cons
    by_cases h : key = k
    · subst h
      have fresh : (key, value) ∉ rest := fun mem =>
        absurd (List.rel_of_pairwise_cons sorted mem) (String.lt_irrefl _)
      simp [fresh, eq_comm]
    · rw [lookup_cons_of_ne h, ih]
      simp [h]

/-- A value that is there after some insertions was inserted or was there before. -/
theorem get?_foldl_insert {d : Dict α} {entries : List (String × α)} {key : String} {value : α}
    (h : (entries.foldl (fun d entry => d.insert entry.1 entry.2) d).get? key = some value) :
  (key, value) ∈ entries ∨ d.get? key = some value
  := by
  induction entries generalizing d with
  | nil => exact .inr h
  | cons entry entries ih =>
    rcases ih h with mem | before
    · exact .inl (List.mem_cons_of_mem _ mem)
    · rw [get?_insert] at before
      split at before
      · next same =>
        obtain rfl := Option.some.inj before
        subst same
        exact .inl List.mem_cons_self
      · exact .inr before

/-- A value in the dictionary of a list of entries is that of one of them. -/
theorem mem_of_get?_ofList {entries : List (String × α)} {key : String} {value : α}
    (h : (ofList entries).get? key = some value) :
  (key, value) ∈ entries
  := by
  rcases get?_foldl_insert h with mem | before
  · exact mem
  · cases before

/-- After some insertions a key has a value exactly if one was inserted or was there before. -/
theorem isSome_get?_foldl_insert {d : Dict α} {entries : List (String × α)} {key : String} :
  ((entries.foldl (fun d entry => d.insert entry.1 entry.2) d).get? key).isSome = true
    ↔ key ∈ entries.map (·.1) ∨ (d.get? key).isSome = true
  := by
  induction entries generalizing d with
  | nil => simp
  | cons entry entries ih =>
    rw [List.foldl_cons, ih, get?_insert, List.map_cons, List.mem_cons]
    by_cases h : key = entry.1
    · simp [h]
    · simp [h]

/-- The dictionary of a list of entries has values at the keys of these. -/
theorem isSome_get?_ofList_iff {entries : List (String × α)} {key : String} :
  ((ofList entries).get? key).isSome = true ↔ key ∈ entries.map (·.1)
  := by
  rw [ofList, isSome_get?_foldl_insert, get?_empty, Option.isSome_none, Bool.false_eq_true,
    or_false]

/-- Two dictionaries with the same value at every key are equal. -/
theorem ext_get? {d d' : Dict α} (h : ∀ key, d.get? key = d'.get? key) :
  d = d'
  := by
  have mem (entry : String × α) : entry ∈ d.entries ↔ entry ∈ d'.entries := by
    obtain ⟨key, value⟩ := entry
    rw [← get?_eq_some_iff, ← get?_eq_some_iff, h]
  obtain ⟨l, hl⟩ := d
  obtain ⟨l', hl'⟩ := d'
  simp only [mk.injEq]
  simp only at mem
  clear h
  induction l generalizing l' with
  | nil =>
    cases l' with
    | nil => rfl
    | cons b l' => exact absurd ((mem b).2 List.mem_cons_self) List.not_mem_nil
  | cons a l ih =>
    cases l' with
    | nil => exact absurd ((mem a).1 List.mem_cons_self) List.not_mem_nil
    | cons b l' =>
      have hab : a = b := by
        rcases List.mem_cons.1 ((mem a).1 List.mem_cons_self) with hab | hab
        · exact hab
        · rcases List.mem_cons.1 ((mem b).2 List.mem_cons_self) with hba | hba
          · exact hba.symm
          · exact absurd (List.rel_of_pairwise_cons hl hba)
              (String.lt_asymm (List.rel_of_pairwise_cons hl' hab))
      subst hab
      have tails (entry : String × α) : entry ∈ l ↔ entry ∈ l' := by
        constructor
        · intro hm
          rcases List.mem_cons.1 ((mem entry).1 (List.mem_cons_of_mem _ hm)) with rfl | hm'
          · exact absurd (List.rel_of_pairwise_cons hl hm) (String.lt_irrefl _)
          · exact hm'
        · intro hm
          rcases List.mem_cons.1 ((mem entry).2 (List.mem_cons_of_mem _ hm)) with rfl | hm'
          · exact absurd (List.rel_of_pairwise_cons hl' hm) (String.lt_irrefl _)
          · exact hm'
      rw [ih hl.of_cons l' hl'.of_cons tails]

/-- A dictionary is that of its entries. -/
theorem ofList_entries (d : Dict α) :
  ofList d.entries = d
  := by
  apply ext_get?
  intro key
  apply Option.ext
  intro value
  constructor
  · intro h
    exact get?_eq_some_iff.2 (mem_of_get?_ofList h)
  · intro h
    have hkey : key ∈ d.entries.map (·.1) := List.mem_map_of_mem (get?_eq_some_iff.1 h)
    obtain ⟨other, hother⟩ := Option.isSome_iff_exists.1 (isSome_get?_ofList_iff.2 hkey)
    have hvalue := get?_eq_some_iff.2 (mem_of_get?_ofList hother)
    rwa [← hvalue.symm.trans h]

end Dict

/-- A finite set of strings, listed in increasing order. -/
structure NameSet where
  toList : List String
  sorted : toList.Pairwise (· < ·)

namespace NameSet

/-! ### Insertion into a sorted list of names -/

/-- The sorted list of names with one more name. -/
def addName (name : String) : List String → List String
  | [] => [name]
  | head :: rest =>
    if name < head then name :: head :: rest
    else if head < name then head :: addName name rest
    else head :: rest

theorem mem_addName {name other : String} {names : List String} :
  other ∈ addName name names ↔ other = name ∨ other ∈ names
  := by
  fun_induction addName name names with
  | case1 => simp
  | case2 => simp
  | case3 head rest _ _ ih => simp only [List.mem_cons, ih]; exact or_left_comm
  | case4 head rest before after =>
    have same : name = head := eq_of_not_lt_of_not_lt before after
    simp [same]

theorem addName_sorted (name : String) {names : List String}
    (h : names.Pairwise (· < ·)) :
  (addName name names).Pairwise (· < ·)
  := by
  fun_induction addName name names with
  | case1 => simp
  | case2 head rest before =>
    refine List.pairwise_cons.2 ⟨fun other mem => ?_, h⟩
    rcases List.mem_cons.1 mem with rfl | mem
    · exact before
    · exact String.lt_trans before (List.rel_of_pairwise_cons h mem)
  | case3 head rest _ after ih =>
    refine List.pairwise_cons.2 ⟨fun other mem => ?_, ih h.of_cons⟩
    rcases mem_addName.1 mem with rfl | mem
    · exact after
    · exact List.rel_of_pairwise_cons h mem
  | case4 => exact h

/-! ### Operations -/

/-- The set with no name. -/
def empty : NameSet := ⟨[], .nil⟩

instance : EmptyCollection NameSet := ⟨empty⟩

instance : Inhabited NameSet := ⟨empty⟩

instance : Membership String NameSet := ⟨fun s name => name ∈ s.toList⟩

instance (name : String) (s : NameSet) : Decidable (name ∈ s) :=
  inferInstanceAs (Decidable (name ∈ s.toList))

/-- Whether the set has a name. -/
def contains (s : NameSet) (name : String) : Bool := s.toList.contains name

/-- The set with one more name. -/
def insert (s : NameSet) (name : String) : NameSet :=
  ⟨addName name s.toList, addName_sorted name s.sorted⟩

/-- The set with every name of a list added. -/
def insertAll (s : NameSet) (names : List String) : NameSet := names.foldl insert s

/-- The set of the names of a list. -/
def ofList (names : List String) : NameSet := empty.insertAll names

/-- The names of `s` that are not in `t`. -/
def diff (s t : NameSet) : NameSet :=
  ⟨s.toList.filter (fun name => !t.contains name), s.sorted.filter _⟩

/-- Whether every name of `s` is in `t`. -/
def isSubset (s t : NameSet) : Bool := s.toList.all t.contains

/-- The number of names. -/
def size (s : NameSet) : Nat := s.toList.length

/-! ### Membership -/

@[simp]
theorem not_mem_empty (name : String) :
  name ∉ empty
  := List.not_mem_nil

@[simp]
theorem contains_iff {s : NameSet} {name : String} :
  s.contains name = true ↔ name ∈ s
  := List.contains_iff_mem

@[simp]
theorem mem_insert {s : NameSet} {name other : String} :
  other ∈ s.insert name ↔ other = name ∨ other ∈ s
  := mem_addName

@[simp]
theorem mem_insertAll {s : NameSet} {names : List String} {other : String} :
  other ∈ s.insertAll names ↔ other ∈ names ∨ other ∈ s
  := by
  induction names generalizing s with
  | nil => simp [insertAll]
  | cons head rest ih =>
    have ih := @ih (s.insert head)
    unfold insertAll at ih ⊢
    rw [List.foldl_cons, ih, mem_insert, List.mem_cons]
    grind

@[simp]
theorem mem_ofList {names : List String} {other : String} :
  other ∈ ofList names ↔ other ∈ names
  := by
  simp [ofList]

@[simp]
theorem mem_diff {s t : NameSet} {name : String} :
  name ∈ s.diff t ↔ name ∈ s ∧ name ∉ t
  := by
  change name ∈ List.filter _ s.toList ↔ _
  rw [List.mem_filter]
  refine and_congr Iff.rfl ?_
  rw [← contains_iff, Bool.not_eq_true, Bool.not_eq_true']

theorem isSubset_iff {s t : NameSet} :
  s.isSubset t = true ↔ ∀ name ∈ s, name ∈ t
  := by
  unfold isSubset
  rw [List.all_eq_true]
  exact forall_congr' fun name => imp_congr Iff.rfl contains_iff

/-- Two sets with the same names are equal. -/
theorem ext_mem {s t : NameSet} (h : ∀ name, name ∈ s ↔ name ∈ t) :
  s = t
  := by
  obtain ⟨l, hl⟩ := s
  obtain ⟨l', hl'⟩ := t
  simp only [mk.injEq]
  change ∀ name, name ∈ l ↔ name ∈ l' at h
  induction l generalizing l' with
  | nil =>
    cases l' with
    | nil => rfl
    | cons b l' => exact absurd ((h b).2 List.mem_cons_self) List.not_mem_nil
  | cons a l ih =>
    cases l' with
    | nil => exact absurd ((h a).1 List.mem_cons_self) List.not_mem_nil
    | cons b l' =>
      have hab : a = b := by
        rcases List.mem_cons.1 ((h a).1 List.mem_cons_self) with hab | hab
        · exact hab
        · rcases List.mem_cons.1 ((h b).2 List.mem_cons_self) with hba | hba
          · exact hba.symm
          · exact absurd (List.rel_of_pairwise_cons hl hba)
              (String.lt_asymm (List.rel_of_pairwise_cons hl' hab))
      subst hab
      refine congrArg (a :: ·) (ih hl.of_cons l' hl'.of_cons fun name => ?_)
      constructor
      · intro hm
        rcases List.mem_cons.1 ((h name).1 (List.mem_cons_of_mem _ hm)) with rfl | hm'
        · exact absurd (List.rel_of_pairwise_cons hl hm) (String.lt_irrefl _)
        · exact hm'
      · intro hm
        rcases List.mem_cons.1 ((h name).2 (List.mem_cons_of_mem _ hm)) with rfl | hm'
        · exact absurd (List.rel_of_pairwise_cons hl' hm) (String.lt_irrefl _)
        · exact hm'

end NameSet

end NativeApi
