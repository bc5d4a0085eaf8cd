import NativeApi.Command.Aliases
import NativeApi.Proofs.Chains
import NativeApi.Proofs.Flags

/-!
# Aliases as chains

Types and commands may stand for others by name, so aliases form chains.  Main statements:
a type resolves to the entity at the end of its chain, if that is no alias, and a command
to the name at the end of its chain; a command does not resolve exactly if its chain
returns.
-/

namespace NativeApi

/-! ### Aliases of types -/

namespace Registry

variable {r : Registry} {id id' : Nat}

/-- The position of the entity whose name the alias at a position gives. -/
def next? (r : Registry) (id : Nat) : Option Nat :=
  (r.get? id).bind fun e =>
    match e.kind with
    | .aliasOf target => r.idOf? target
    | _ => none

/-- There is an entity at a position, and it is no alias. -/
def IsConcrete (r : Registry) (id : Nat) : Prop := ∃ e, r.get? id = some e ∧ e.isAlias = false

theorem next?_of_aliasOf {e : Entity} {target : String} (he : r.get? id = some e)
    (hkind : e.kind = .aliasOf target) :
  r.next? id = r.idOf? target
  := by
  simp [next?, he, hkind]

theorem not_isConcrete_of_aliasOf {e : Entity} {target : String} (he : r.get? id = some e)
    (hkind : e.kind = .aliasOf target) :
  ¬r.IsConcrete id
  := by
  rintro ⟨e', he', halias⟩
  obtain rfl := Option.some.inj (he.symm.trans he')
  simp [Entity.isAlias, hkind] at halias

theorem isAlias_eq_false_iff {e : Entity} :
  e.isAlias = false ↔ ∀ target, e.kind ≠ .aliasOf target
  := by
  obtain ⟨name, rawName, kind⟩ := e
  cases kind <;> simp [Entity.isAlias]

theorem IsConcrete.next?_eq_none (h : r.IsConcrete id) :
  r.next? id = none
  := by
  obtain ⟨⟨name, rawName, kind⟩, he, halias⟩ := h
  rw [next?, he]
  cases kind with
  | aliasOf target => cases halias
  | _ => rfl

/-- Following aliases ends where a walk along them does, unless that is an alias without an
entity to go to. -/
theorem follow_eq_ok_iff {fresh : List Nat} :
  r.follow fresh id = .ok id' ↔ Chain.walk r.next? fresh id = some id' ∧ r.IsConcrete id'
  := by
  fun_induction follow r fresh id with
  | case1 fresh id hnone =>
      have hnext : r.next? id = none := by rw [next?, hnone, Option.bind_none]
      rw [Chain.walk_of_none hnext]
      simp only [Option.some.injEq, reduceCtorEq, false_iff]
      rintro ⟨rfl, e, he, -⟩
      rw [hnone] at he
      cases he
  | case2 fresh id e he target hkind hfresh next hnext ih =>
      have hstep : r.next? id = some next := by rw [next?_of_aliasOf he hkind, hnext]
      rw [ih, Chain.walk_of_some hstep, if_pos hfresh]
  | case3 fresh id e he target hkind hfresh hnext =>
      have hstep : r.next? id = none := by rw [next?_of_aliasOf he hkind, hnext]
      rw [Chain.walk_of_none hstep]
      simp only [Option.some.injEq, reduceCtorEq, false_iff]
      rintro ⟨rfl, concrete⟩
      apply not_isConcrete_of_aliasOf he hkind concrete
  | case4 fresh id e he target hkind hpassed =>
      simp only [reduceCtorEq, false_iff]
      rintro ⟨hwalk, concrete⟩
      cases hnext : r.next? id with
      | none =>
          rw [Chain.walk_of_none hnext] at hwalk
          obtain rfl := Option.some.inj hwalk
          apply not_isConcrete_of_aliasOf he hkind concrete
      | some next =>
          rw [Chain.walk_of_some hnext, if_neg hpassed] at hwalk
          cases hwalk
  | case5 fresh id e he hkind =>
      have concrete : r.IsConcrete id := ⟨e, he, isAlias_eq_false_iff.mpr hkind⟩
      rw [Chain.walk_of_none concrete.next?_eq_none]
      simp only [Except.ok.injEq, Option.some.injEq]
      constructor
      · rintro rfl
        use rfl
      · rintro ⟨rfl, -⟩
        rfl

/-- A type resolves to the end of its chain of aliases, if that is no alias. -/
theorem resolveId_eq_ok_iff :
  r.resolveId id = .ok id' ↔ Chain.Ends r.next? id id' ∧ r.IsConcrete id'
  := by
  rw [resolveId, follow_eq_ok_iff, Chain.walk_eq_some_iff]
  intro other hnext
  obtain ⟨next, hnext⟩ := Option.ne_none_iff_exists'.mp hnext
  obtain ⟨e, he, -⟩ := Option.bind_eq_some_iff.mp hnext
  apply List.mem_range.mpr
  apply (List.getElem?_eq_some_iff.mp he).1

/-- What is no alias stands for itself. -/
theorem IsConcrete.resolveId (h : r.IsConcrete id) :
  r.resolveId id = .ok id
  := by
  apply resolveId_eq_ok_iff.mpr
  use Chain.ends_self h.next?_eq_none

/-- Where all aliases are found to resolve, every entity does. -/
theorem resolveId_of_checkAliases (h : r.checkAliases = .ok ()) {id : Nat} {e : Entity}
    (he : r.get? id = some e) :
  ∃ id', r.resolveId id = .ok id' ∧ r.IsConcrete id'
  := by
  cases halias : e.isAlias with
  | false =>
      have concrete : r.IsConcrete id := ⟨e, he, halias⟩
      use id, concrete.resolveId
  | true =>
      have hmem : id ∈ List.range r.size :=
        List.mem_range.mpr (List.getElem?_eq_some_iff.mp he).1
      have hchecked := Outcome.forM_eq_ok_iff.mp h id hmem
      rw [he] at hchecked
      simp only [halias, if_true] at hchecked
      cases hid : r.resolveId id with
      | error e =>
          rw [hid] at hchecked
          cases hchecked
      | ok id' => exact ⟨id', rfl, (resolveId_eq_ok_iff.mp hid).2⟩

/-- All aliases are found to resolve exactly if every entity does. -/
theorem checkAliases_eq_ok_iff :
  r.checkAliases = .ok () ↔ ∀ id e, r.get? id = some e → ∃ id', r.resolveId id = .ok id'
  := by
  constructor
  · intro h id e he
    obtain ⟨id', hid', -⟩ := resolveId_of_checkAliases h he
    use id'
  · intro h
    apply Outcome.forM_eq_ok_iff.mpr
    intro id _
    cases he : r.get? id with
    | none => rfl
    | some e =>
        obtain ⟨id', hid'⟩ := h id e he
        simp only
        split
        · rw [hid']
          rfl
        · rfl

/-- A raw name stands for the entity at a position. -/
def RawStandsFor (r : Registry) (raw : String) (id : Nat) : Prop :=
  ∃ start, r.idOfRaw? raw = some start ∧ r.resolveId start = .ok id

theorem RawStandsFor.exists_get? {raw : String} (h : r.RawStandsFor raw id) :
  ∃ e, r.get? id = some e
  := by
  obtain ⟨start, -, hid⟩ := h
  obtain ⟨e, he, -⟩ := (resolveId_eq_ok_iff.mp hid).2
  use e

theorem resolveRaw_eq_ok_iff {raw : String} {e : Entity} :
  r.resolveRaw raw = .ok e ↔ ∃ id, r.RawStandsFor raw id ∧ r.get? id = some e
  := by
  rw [resolveRaw]
  cases h : r.idOfRaw? raw with
  | none => simp [RawStandsFor, h]
  | some start => simp [RawStandsFor, h, resolved_eq_ok_iff]

end Registry

/-! ### Aliases of commands -/

namespace CommandAliases

variable {a : CommandAliases} {raw target : String}

theorem follow_eq_walk (a : CommandAliases) (fresh : List String) (name : String) :
  a.follow fresh name = Chain.walk a.targets.get? fresh name
  := by
  fun_induction follow a fresh name with
  | case1 fresh name hnone => rw [Chain.walk_of_none hnone]
  | case2 fresh name target hsome hfresh ih => rw [ih, Chain.walk_of_some hsome, if_pos hfresh]
  | case3 fresh name target hsome hpassed => rw [Chain.walk_of_some hsome, if_neg hpassed]

/-- Every alias is a key. -/
theorem mem_keys_of_get?_ne_none (name : String) (h : a.targets.get? name ≠ none) :
  name ∈ a.targets.keys
  := by
  obtain ⟨target, htarget⟩ := Option.ne_none_iff_exists'.mp h
  apply List.mem_map.mpr
  use (name, target), Dict.get?_eq_some_iff.mp htarget

theorem isAlias_eq_true_iff :
  a.isAlias raw = true ↔ a.targets.get? raw ≠ none
  := Option.isSome_iff_ne_none

theorem isAlias_eq_false_iff :
  a.isAlias raw = false ↔ a.targets.get? raw = none
  := by
  rw [← Bool.not_eq_true, isAlias_eq_true_iff, not_not]

/-- A command resolves to the end of its chain of aliases. -/
theorem resolve_eq_ok_iff :
  a.resolve raw = .ok target ↔ Chain.Ends a.targets.get? raw target
  := by
  rw [← Chain.walk_eq_some_iff mem_keys_of_get?_ne_none, ← follow_eq_walk, resolve]
  cases a.follow a.targets.keys raw with
  | none => simp
  | some end' => simp

/-- A command does not resolve exactly if its chain of aliases returns. -/
theorem resolve_eq_error_iff {e : Error} :
  a.resolve raw = .error e ↔ e = .aliasCycle raw ∧ Chain.Returns a.targets.get? raw
  := by
  rw [← Chain.walk_eq_none_iff mem_keys_of_get?_ne_none, ← follow_eq_walk, resolve]
  cases a.follow a.targets.keys raw with
  | none => simp [eq_comm]
  | some end' => simp

/-- A name that leads into a cycle is left as it is. -/
theorem resolveOrSelf_of_returns (h : Chain.Returns a.targets.get? raw) :
  a.resolveOrSelf raw = raw
  := by
  rw [resolveOrSelf, follow_eq_walk, (Chain.walk_eq_none_iff mem_keys_of_get?_ne_none).mpr h]
  rfl

theorem resolveOrSelf_eq_iff (hend : a.targets.get? target = none) :
  a.resolveOrSelf raw = target ↔ Chain.Ends a.targets.get? raw target
  := by
  rw [resolveOrSelf, follow_eq_walk, ← Chain.walk_eq_some_iff mem_keys_of_get?_ne_none]
  cases hwalk : Chain.walk a.targets.get? a.targets.keys raw with
  | some found => simp
  | none =>
      simp only [Option.getD_none, reduceCtorEq, iff_false]
      rintro rfl
      rw [Chain.walk_of_none hend] at hwalk
      cases hwalk

end CommandAliases

end NativeApi
