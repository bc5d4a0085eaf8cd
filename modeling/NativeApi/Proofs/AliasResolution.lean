import NativeApi.Proofs.Arena

/-!
# What aliases resolve to

A chain of aliases ends at an entity that is no alias, returns to an alias that it has
passed, or breaks off at a name that nothing has.  Main statements: a type resolves to the
end of its chain, or fails with the reason for which its chain has no such end, and all that
is on the way to the end resolves to it as well; the same for commands, where a name that
nothing has is an end.
-/

namespace NativeApi

/-! ### Types -/

namespace Registry

variable {r : Registry} {id id' : Nat} {target owner : String}

/-- The entity at a position is an alias that gives the name of the one at another. -/
def IsAliasOf (r : Registry) (id id' : Nat) : Prop :=
  ∃ e e', r.get? id = some e ∧ r.get? id' = some e' ∧ e.kind = .aliasOf e'.name

/-- The entity at a position is an alias of a name that no entity has. -/
def IsDangling (r : Registry) (id : Nat) (target owner : String) : Prop :=
  ∃ e, r.get? id = some e ∧ e.kind = .aliasOf target ∧ e.name = owner ∧ target ∉ r.names

/-- The aliases from the one at a position on, of the given name, lead back to it. -/
def IsRecurrent (r : Registry) (id : Nat) (name : String) : Prop :=
  ∃ e n, r.get? id = some e ∧ e.name = name ∧ Chain.Path r.next? (n + 1) id id

/-- Why a position does not resolve: its chain leads to an alias that it comes back to, or to
one of a name that no entity has. -/
inductive FailsFrom (r : Registry) (id : Nat) : Error → Prop where
  | recurs {n id' : Nat} {name : String} : Chain.Path r.next? n id id' → r.IsRecurrent id' name →
      FailsFrom r id (.aliasCycle name)
  | dangles {n id' : Nat} {target owner : String} : Chain.Path r.next? n id id' →
      r.IsDangling id' target owner →
      FailsFrom r id (.unknownReference "alias target" target owner)

/-- A position resolves as its chain of aliases says. -/
structure ResolvesExactly (r : Registry) (id : Nat) : Prop where
  ok_iff : ∀ id', r.resolveId id = .ok id'
    ↔ (∃ n, Chain.Path r.next? n id id') ∧ r.IsConcrete id'
  cycle_iff : (∃ name, r.resolveId id = .error (.aliasCycle name)) ↔ Chain.Returns r.next? id
  dangling_iff : ∀ target owner,
    r.resolveId id = .error (.unknownReference "alias target" target owner)
      ↔ ∃ n id', Chain.Path r.next? n id id' ∧ r.IsDangling id' target owner
  /-- There is no other failure, and a cycle is reported for an alias that lies on it. -/
  failsFrom : ∀ problem, r.resolveId id = .error problem → r.FailsFrom id problem
  /-- Whatever the chain reaches, it reaches in no more steps than there are entities. -/
  bounded : ∀ n id', Chain.Path r.next? n id id' → ∃ m ≤ r.size, Chain.Path r.next? m id id'
  /-- What is on the way to the end has the same end, and the end stands for itself. -/
  onTheWay : ∀ id', r.resolveId id = .ok id' → r.resolveId id' = .ok id'
    ∧ ∀ n via, Chain.Path r.next? n id via → r.resolveId via = .ok id'

/-- Where canonical names are distinct, the next entity is the one that an alias is of. -/
theorem next?_eq_some_iff (distinct : r.names.Nodup) :
  r.next? id = some id' ↔ r.IsAliasOf id id'
  := by
  constructor
  · intro h
    obtain ⟨e, he, htarget⟩ := Option.bind_eq_some_iff.mp h
    split at htarget
    · rename_i target hkind
      obtain ⟨e', he', rfl⟩ := exists_get?_of_idOf? htarget
      use e, e'
    · cases htarget
  · rintro ⟨e, e', he, he', hkind⟩
    rw [next?_of_aliasOf he hkind]
    apply (idOf?_eq_some_iff distinct).mpr
    use e'

theorem lt_size_of_next? (h : r.next? id = some id') :
  id < r.size
  := by
  obtain ⟨e, he, -⟩ := Option.bind_eq_some_iff.mp h
  apply (List.getElem?_eq_some_iff.mp he).1

theorem mem_range_of_next?_ne_none (id : Nat) (h : r.next? id ≠ none) :
  id ∈ List.range r.size
  := by
  obtain ⟨id', hid'⟩ := Option.ne_none_iff_exists'.mp h
  apply List.mem_range.mpr (lt_size_of_next? hid')

theorem IsDangling.next?_eq_none (h : r.IsDangling id target owner) :
  r.next? id = none
  := by
  obtain ⟨e, he, hkind, -, hmissing⟩ := h
  rw [next?_of_aliasOf he hkind]
  apply idOf?_eq_none_iff.mpr hmissing

theorem IsDangling.not_isConcrete (h : r.IsDangling id target owner) :
  ¬r.IsConcrete id
  := by
  obtain ⟨e, he, hkind, -, -⟩ := h
  apply not_isConcrete_of_aliasOf he hkind

theorem IsDangling.unique {target' owner' : String} (h : r.IsDangling id target owner)
    (h' : r.IsDangling id target' owner') :
  target = target' ∧ owner = owner'
  := by
  obtain ⟨e, he, hkind, rfl, -⟩ := h
  obtain ⟨e', he', hkind', rfl, -⟩ := h'
  obtain rfl := Option.some.inj (he.symm.trans he')
  use Entity.Kind.aliasOf.inj (hkind.symm.trans hkind')

theorem FailsFrom.cons {problem : Error} (hnext : r.next? id = some id')
    (h : r.FailsFrom id' problem) :
  r.FailsFrom id problem
  := by
  cases h with
  | recurs path recurrent => exact .recurs (.step hnext path) recurrent
  | dangles path dangling => exact .dangles (.step hnext path) dangling

/-- Following aliases fails where it comes back to one that it has passed, or to one of a name
that nothing has. -/
theorem failsFrom_of_follow {fresh : List Nat} {problem : Error} (hid : id < r.size)
    (passed : ∀ c < r.size, c ∉ fresh → ∃ n, Chain.Path r.next? (n + 1) c id)
    (h : r.follow fresh id = .error problem) :
  r.FailsFrom id problem
  := by
  fun_induction follow r fresh id with
  | case1 fresh id hnone =>
      rw [get?, List.getElem?_eq_getElem hid] at hnone
      cases hnone
  | case2 fresh id e he target hkind hfresh next hnext ih =>
      have hstep : r.next? id = some next := by rw [next?_of_aliasOf he hkind, hnext]
      apply FailsFrom.cons hstep (ih _ _ h)
      · obtain ⟨e', he', -⟩ := exists_get?_of_idOf? hnext
        apply (List.getElem?_eq_some_iff.mp he').1
      · intro c hc hpassed
        by_cases heq : c = id
        · subst heq
          use 0, .step hstep (.here next)
        · have hold : c ∉ fresh := fun hmem => hpassed ((List.mem_erase_of_ne heq).mpr hmem)
          obtain ⟨n, path⟩ := passed c hc hold
          use n + 1, path.trans (.step hstep (.here next))
  | case3 fresh id e he target hkind hfresh hnext =>
      obtain rfl := Except.error.inj h
      exact .dangles (.here id) ⟨e, he, hkind, rfl, idOf?_eq_none_iff.mp hnext⟩
  | case4 fresh id e he target hkind hpassed =>
      obtain rfl := Except.error.inj h
      obtain ⟨n, loop⟩ := passed id hid hpassed
      exact .recurs (.here id) ⟨e, n, he, rfl, loop⟩
  | case5 fresh id e he hkind => cases h

theorem failsFrom_of_resolveId {problem : Error} (hid : id < r.size)
    (h : r.resolveId id = .error problem) :
  r.FailsFrom id problem
  := by
  apply failsFrom_of_follow hid _ h
  intro c hc hpassed
  exact absurd (List.mem_range.mpr hc) hpassed

/-! ### Chains with one of three fates -/

theorem resolveId_eq_ok_iff_path :
  r.resolveId id = .ok id' ↔ (∃ n, Chain.Path r.next? n id id') ∧ r.IsConcrete id'
  := by
  rw [resolveId_eq_ok_iff]
  constructor
  · rintro ⟨⟨n, path, -⟩, concrete⟩
    exact ⟨⟨n, path⟩, concrete⟩
  · rintro ⟨⟨n, path⟩, concrete⟩
    exact ⟨⟨n, path, concrete.next?_eq_none⟩, concrete⟩

/-- A chain that breaks off has its end there. -/
theorem IsDangling.ends {n : Nat} (h : r.IsDangling id' target owner)
    (path : Chain.Path r.next? n id id') :
  Chain.Ends r.next? id id'
  := ⟨n, path, h.next?_eq_none⟩

theorem exists_aliasCycle_iff (hid : id < r.size) :
  (∃ name, r.resolveId id = .error (.aliasCycle name)) ↔ Chain.Returns r.next? id
  := by
  constructor
  · rintro ⟨name, h⟩
    cases failsFrom_of_resolveId hid h with
    | @recurs n id' _ path recurrent =>
        obtain ⟨-, m, -, -, loop⟩ := recurrent
        use id', n, m
  · intro hreturns
    cases h : r.resolveId id with
    | ok id' => exact absurd hreturns (resolveId_eq_ok_iff.mp h).1.not_returns
    | error problem =>
        cases failsFrom_of_resolveId hid h with
        | @recurs _ _ name _ _ => use name
        | dangles path dangling => exact absurd hreturns (dangling.ends path).not_returns

theorem resolveId_eq_unknownReference_iff (hid : id < r.size) :
  r.resolveId id = .error (.unknownReference "alias target" target owner)
    ↔ ∃ n id', Chain.Path r.next? n id id' ∧ r.IsDangling id' target owner
  := by
  constructor
  · intro h
    cases failsFrom_of_resolveId hid h with
    | @dangles n id' _ _ path dangling => use n, id'
  · rintro ⟨n, id', path, dangling⟩
    have hends := dangling.ends path
    cases h : r.resolveId id with
    | ok last =>
        obtain ⟨hends', concrete⟩ := resolveId_eq_ok_iff.mp h
        obtain rfl := hends.unique hends'
        exact absurd concrete dangling.not_isConcrete
    | error problem =>
        cases failsFrom_of_resolveId hid h with
        | @recurs m via _ path' recurrent =>
            obtain ⟨-, k, -, -, loop⟩ := recurrent
            exact absurd ⟨via, m, k, path', loop⟩ hends.not_returns
        | dangles path' dangling' =>
            obtain rfl := hends.unique (dangling'.ends path')
            obtain ⟨rfl, rfl⟩ := dangling.unique dangling'
            rfl

/-- An entity on the way to the end of a chain resolves to the same end. -/
theorem resolveId_of_path {n via : Nat} (h : r.resolveId id = .ok id')
    (path : Chain.Path r.next? n id via) :
  r.resolveId via = .ok id'
  := by
  obtain ⟨⟨m, hends⟩, concrete⟩ := resolveId_eq_ok_iff.mp h
  obtain ⟨k, -, hends'⟩ := hends.of_path path
  apply resolveId_eq_ok_iff.mpr
  exact ⟨⟨k, hends'⟩, concrete⟩

theorem resolvesExactly (hid : id < r.size) :
  r.ResolvesExactly id
  := by
  constructor
  · intro id'
    apply resolveId_eq_ok_iff_path
  · apply exists_aliasCycle_iff hid
  · intro target owner
    apply resolveId_eq_unknownReference_iff hid
  · intro problem
    apply failsFrom_of_resolveId hid
  · intro n id' path
    obtain ⟨m, hm, path'⟩ := path.exists_le mem_range_of_next?_ne_none
    rw [List.length_range] at hm
    use m
  · intro id' h
    use (resolveId_eq_ok_iff.mp h).2.resolveId
    intro n via path
    apply resolveId_of_path h path

end Registry

namespace Arena

open Registry

/-- In every registry that operations lead to from the empty one, every position resolves as
its chain of aliases says, where the chain goes from each alias to the one entity whose name
it gives; and all aliases are found to resolve exactly if every entity does. -/
theorem resolveId_exact {s : Arena} (run : Run empty s) :
  (∀ id id', s.registry.next? id = some id' ↔ s.registry.IsAliasOf id id')
    ∧ (∀ id < s.registry.size, s.registry.ResolvesExactly id)
    ∧ (s.registry.checkAliases = .ok ()
      ↔ ∀ id < s.registry.size, ∃ id', s.registry.resolveId id = .ok id')
  := by
  have consistent := run.isConsistent isConsistent_empty
  refine ⟨?_, ?_, ?_⟩
  · intro id id'
    apply next?_eq_some_iff consistent.distinct
  · intro id hid
    apply resolvesExactly hid
  · rw [checkAliases_eq_ok_iff]
    constructor
    · intro h id hid
      apply h id _ (List.getElem?_eq_getElem hid)
    · intro h id e he
      apply h id (List.getElem?_eq_some_iff.mp he).1

/-- The arena with entities that are called the same by their raw and canonical names. -/
def withKinds (s : Arena) (kinds : List (String × Entity.Kind)) : Arena :=
  kinds.foldl (fun s entry => s.perform (.register entry.1 entry.1 entry.2)) s

theorem run_withKinds {s t : Arena} (run : Run s t) (kinds : List (String × Entity.Kind)) :
  Run s (t.withKinds kinds)
  := by
  induction kinds generalizing t with
  | nil => exact run
  | cons entry kinds ih => apply ih (.step (.register entry.1 entry.1 entry.2) run trivial)

/-- A chain of aliases to a handle, one that leads into a cycle, and one that breaks off. -/
def tangled : Arena :=
  empty.withKinds [
    ("Fence", .handle ⟨false, none, []⟩), ("FenceKhr", .aliasOf "Fence"),
    ("FenceExt", .aliasOf "FenceKhr"), ("Queue", .aliasOf "QueueKhr"),
    ("QueueKhr", .aliasOf "QueueExt"), ("QueueExt", .aliasOf "QueueKhr"),
    ("Event", .aliasOf "EventKhr")]

/-- The cycle is reported for the alias at which the chain comes back. -/
theorem resolveId_exact_tangled :
  Run empty tangled
    ∧ ((∀ id id', tangled.registry.next? id = some id' ↔ tangled.registry.IsAliasOf id id')
      ∧ (∀ id < tangled.registry.size, tangled.registry.ResolvesExactly id)
      ∧ (tangled.registry.checkAliases = .ok ()
        ↔ ∀ id < tangled.registry.size, ∃ id', tangled.registry.resolveId id = .ok id'))
    ∧ tangled.registry.resolveId 2 = .ok 0
    ∧ tangled.registry.resolveId 3 = .error (.aliasCycle "QueueKhr")
    ∧ tangled.registry.resolveId 6
      = .error (.unknownReference "alias target" "EventKhr" "Event")
  := by
  have run : Run empty tangled := run_withKinds .here _
  refine ⟨run, resolveId_exact run, ?_, ?_, ?_⟩
  · decide +kernel
  · decide +kernel
  · decide +kernel

end Arena

/-! ### Commands -/

namespace CommandAliases

variable {a : CommandAliases} {raw target : String}

/-- A name resolves as its chain of aliases says. -/
structure ResolvesExactly (a : CommandAliases) (raw : String) : Prop where
  ok_iff : ∀ target, a.resolve raw = .ok target
    ↔ (∃ n, Chain.Path a.targets.get? n raw target) ∧ a.isAlias target = false
  error_iff : ∀ problem, a.resolve raw = .error problem ↔ problem = .aliasCycle raw
    ∧ ∀ n name, Chain.Path a.targets.get? n raw name → a.isAlias name = true
  /-- Whatever the chain reaches, it reaches in no more steps than there are aliases. -/
  bounded : ∀ n name, Chain.Path a.targets.get? n raw name →
    ∃ m ≤ a.targets.keys.length, Chain.Path a.targets.get? m raw name
  /-- What is on the way to the end has the same end, and the end stands for itself. -/
  onTheWay : ∀ target, a.resolve raw = .ok target → a.resolve target = .ok target
    ∧ ∀ n name, Chain.Path a.targets.get? n raw name → a.resolve name = .ok target
  /-- The chains that never leave the table are those that lead into a cycle. -/
  returns_iff : Chain.Returns a.targets.get? raw
    ↔ ∀ n name, Chain.Path a.targets.get? n raw name → a.isAlias name = true
  orSelf : ∀ target, a.resolve raw = .ok target → a.resolveOrSelf raw = target
  orSelf_of_returns : Chain.Returns a.targets.get? raw → a.resolveOrSelf raw = raw

/-- A chain leads into a cycle exactly if it never leaves the table. -/
theorem returns_iff_isAlias :
  Chain.Returns a.targets.get? raw
    ↔ ∀ n name, Chain.Path a.targets.get? n raw name → a.isAlias name = true
  := by
  simp only [isAlias_eq_true_iff]
  apply Chain.returns_iff mem_keys_of_get?_ne_none

/-- A name on the way to the end of a chain resolves to the same end. -/
theorem resolve_of_path {n : Nat} {name : String} (h : a.resolve raw = .ok target)
    (path : Chain.Path a.targets.get? n raw name) :
  a.resolve name = .ok target
  := by
  obtain ⟨m, hends⟩ := resolve_eq_ok_iff.mp h
  obtain ⟨k, -, hends'⟩ := hends.of_path path
  apply resolve_eq_ok_iff.mpr
  use k

/-- Whatever the table of aliases, every name resolves as its chain says: to the end of it,
if there is one, and else not at all, with an error that gives the name itself. -/
theorem resolve_exact (a : CommandAliases) (raw : String) :
  a.ResolvesExactly raw
  := by
  constructor
  · intro target
    rw [resolve_eq_ok_iff, isAlias_eq_false_iff, ← exists_and_right]
    rfl
  · intro problem
    rw [resolve_eq_error_iff, returns_iff_isAlias]
  · intro n name path
    apply path.exists_le mem_keys_of_get?_ne_none
  · intro target h
    have hend := (resolve_eq_ok_iff.mp h).next_eq_none
    use resolve_eq_ok_iff.mpr (Chain.ends_self hend)
    intro n name path
    apply resolve_of_path h path
  · apply returns_iff_isAlias
  · intro target h
    have hends := resolve_eq_ok_iff.mp h
    apply (resolveOrSelf_eq_iff hends.next_eq_none).mpr hends
  · apply resolveOrSelf_of_returns

end CommandAliases

end NativeApi
