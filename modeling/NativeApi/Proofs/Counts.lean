import NativeApi.Command.Parameter
import NativeApi.Proofs.Outcomes

/-!
# Linked counts

Linking goes through the arrays whose lengths are parameters by themselves, one after the
other, and makes the parameter that such a length names a count.  So the roles of
parameters that have been linked are those that their declarations gave them, or roles of
counts.
-/

namespace NativeApi

/-- Whether a role is that of a count. -/
def Role.IsCount (role : Role) : Prop := ∃ array derivable, role = .count array derivable

theorem Role.not_isCount_of_length {role : Role} {length : LengthReference}
    (h : role.length? = some length) :
  ¬role.IsCount
  := by
  rintro ⟨array, derivable, rfl⟩
  cases h

theorem Role.length?_of_directLength? {role : Role} {name : String}
    (h : role.directLength? = some name) :
  role.length? = some (.parameter name)
  := by
  unfold directLength? at h
  split at h
  · rename_i parameter hlength
    obtain rfl := Option.some.inj h
    exact hlength
  · cases h

/-- An input array of a direct length is one whose direct length it is. -/
theorem Role.isInputArray_and_directLength?_iff {role : Role} {name : String} :
  role.isInputArray = true ∧ role.directLength? = some name
    ↔ role = .inputArray (.parameter name)
  := by
  constructor
  · rintro ⟨hinput, hname⟩
    have hlength := length?_of_directLength? hname
    cases role with
    | inputArray count =>
        obtain rfl := Option.some.inj hlength
        rfl
    | boundSelf | input | optionalInput | text | rawBuffer | output | outputArray | count =>
        cases hinput
  · rintro rfl
    exact ⟨rfl, rfl⟩

namespace Parameter

/-! ### What a link changes -/

/-- `p.LinkedTo q` if `q` is what links make of the parameter `p`: the same parameter, or
one that only differs from it in that its role is that of a count. -/
structure LinkedTo (p q : Parameter) : Prop where
  declaration : q = { p with role := q.role }
  role : q.role = p.role ∨ q.role.IsCount

theorem LinkedTo.refl (p : Parameter) : p.LinkedTo p := ⟨rfl, .inl rfl⟩

theorem LinkedTo.trans {p q r : Parameter} (hpq : p.LinkedTo q) (hqr : q.LinkedTo r) :
  p.LinkedTo r
  := by
  constructor
  · rw [hqr.declaration, hpq.declaration]
  · rcases hqr.role with heq | hcount
    · rw [heq]
      apply hpq.role
    · exact .inr hcount

theorem LinkedTo.rawName {p q : Parameter} (h : p.LinkedTo q) : q.rawName = p.rawName := by
  rw [h.declaration]

theorem LinkedTo.isPointer {p q : Parameter} (h : p.LinkedTo q) : q.isPointer = p.isPointer := by
  rw [h.declaration]

theorem LinkedTo.length {p q : Parameter} (h : p.LinkedTo q) : q.length = p.length := by
  rw [h.declaration]

theorem LinkedTo.isWritten {p q : Parameter} (h : p.LinkedTo q) : q.isWritten = p.isWritten := by
  rw [h.declaration]
  rfl

/-- The ways a parameter may become the count of a link: it counts already, it is the
bound one, which stays what it is, or it was something else before. -/
theorem asCount_cases (link : CountLink) (p : Parameter) :
  (∃ array existing, p.role = .count array existing
      ∧ asCount link p = { p with
          role := .count array (existing || (link.isInput && !p.isPointer)) })
    ∨ (p.role = .boundSelf ∧ asCount link p = p)
    ∨ ¬p.role.IsCount
      ∧ asCount link p = { p with role := .count link.array (link.isInput && !p.isPointer) }
  := by
  unfold asCount
  dsimp only
  split
  · rename_i array existing hrole
    exact .inl ⟨array, existing, hrole, rfl⟩
  · rename_i hrole
    exact .inr (.inl ⟨hrole, rfl⟩)
  · rename_i hcount _
    refine .inr (.inr ⟨?_, rfl⟩)
    rintro ⟨array, existing, hrole⟩
    apply hcount array existing hrole

theorem linkedTo_asCount (link : CountLink) (p : Parameter) :
  p.LinkedTo (asCount link p)
  := by
  rcases asCount_cases link p with ⟨array, _, _, heq⟩ | ⟨_, heq⟩ | ⟨_, heq⟩
  · rw [heq]
    exact ⟨rfl, .inr ⟨array, _, rfl⟩⟩
  · rw [heq]
    apply LinkedTo.refl
  · rw [heq]
    exact ⟨rfl, .inr ⟨link.array, _, rfl⟩⟩

/-- A link neither binds a parameter nor makes the bound one anything else. -/
theorem boundSelf_asCount_iff (link : CountLink) (p : Parameter) :
  (asCount link p).role = .boundSelf ↔ p.role = .boundSelf
  := by
  unfold asCount
  dsimp only
  split
  · rename_i array existing hrole
    simp [hrole]
  · exact Iff.rfl
  · rename_i hself
    simpa using hself

/-- The count of a link is a count then, unless it is the bound parameter. -/
theorem isCount_asCount (link : CountLink) (p : Parameter) :
  (asCount link p).role.IsCount ∨ (asCount link p).role = .boundSelf
  := by
  rcases asCount_cases link p with ⟨array, _, _, heq⟩ | ⟨hrole, heq⟩ | ⟨_, heq⟩
  · rw [heq]
    exact .inl ⟨array, _, rfl⟩
  · rw [heq]
    exact .inr hrole
  · rw [heq]
    exact .inl ⟨link.array, _, rfl⟩

/-- A count can be derived because it could be before, or because the link is one of an
input and the count no pointer. -/
theorem derivable_asCount {link : CountLink} {p : Parameter} {array : String}
    (h : (asCount link p).role = .count array true) :
  (∃ array, p.role = .count array true) ∨ link.isInput = true ∧ p.isPointer = false
  := by
  rcases asCount_cases link p with ⟨array, existing, hrole, heq⟩ | ⟨hrole, heq⟩ | ⟨_, heq⟩
  · rw [heq] at h
    obtain ⟨_, hderivable⟩ := Role.count.inj h
    rcases Bool.or_eq_true_iff.mp hderivable with rfl | hnew
    · exact .inl ⟨array, hrole⟩
    · right
      simpa using hnew
  · rw [heq, hrole] at h
    cases h
  · rw [heq] at h
    obtain ⟨_, hderivable⟩ := Role.count.inj h
    right
    simpa using hderivable

/-! ### One link -/

/-- A parameter that a link leaves is one from before, or one that the link names. -/
theorem mem_linkCount {link : CountLink} {ps : List Parameter} {q : Parameter}
    (h : q ∈ linkCount link ps) :
  q ∈ ps ∨ ∃ p ∈ ps, p.rawName = link.count ∧ q = asCount link p
  := by
  fun_induction linkCount link ps with
  | case1 => cases h
  | case2 p ps hname =>
      rcases List.mem_cons.mp h with rfl | h
      · right
        exact ⟨p, List.mem_cons_self, hname, rfl⟩
      · exact .inl (List.mem_cons_of_mem _ h)
  | case3 p ps _ ih =>
      rcases List.mem_cons.mp h with rfl | h
      · exact .inl List.mem_cons_self
      · rcases ih h with h | ⟨r, hr, hname, heq⟩
        · exact .inl (List.mem_cons_of_mem _ h)
        · right
          exact ⟨r, List.mem_cons_of_mem _ hr, hname, heq⟩

/-- The first parameter of a raw name is still the first one after a link. -/
theorem find?_linkCount (link : CountLink) (name : String) (ps : List Parameter) :
  (linkCount link ps).find? (·.rawName == name)
    = (ps.find? (·.rawName == name)).map fun p =>
        if link.count = name then asCount link p else p
  := by
  fun_induction linkCount link ps with
  | case1 => rfl
  | case2 p ps hname =>
      rw [List.find?_cons, List.find?_cons, (linkedTo_asCount link p).rawName, hname]
      by_cases heq : link.count = name
      · simp [heq]
      · simp only [beq_eq_false_iff_ne.mpr heq, if_neg heq, Option.map_id']
  | case3 p ps hname ih =>
      rw [List.find?_cons, List.find?_cons, ih]
      by_cases heq : p.rawName = name
      · have hne : link.count ≠ name := fun h => hname (heq.trans h.symm)
        simp only [heq, beq_self_eq_true, if_neg hne, Option.map_id']
      · simp only [beq_eq_false_iff_ne.mpr heq]

/-! ### All links -/

section

variable {R : Parameter → Parameter → Prop} (trans : ∀ p q r, R p q → R q r → R p r)
  (step : ∀ link p, R p (asCount link p))

include trans step

/-- One more link does to parameters what it does to the one that it makes a count. -/
theorem forall₂_linkCount {link : CountLink} {ps qs : List Parameter}
    (h : List.Forall₂ R ps qs) :
  List.Forall₂ R ps (linkCount link qs)
  := by
  induction h with
  | nil => exact .nil
  | @cons p q ps qs hpq hrest ih =>
      rw [linkCount]
      split
      · exact .cons (trans _ _ _ hpq (step link q)) hrest
      · exact .cons hpq ih

/-- Linking does to each parameter what links do one after the other. -/
theorem forall₂_linkCounts_of (refl : ∀ p, R p p) (ps : List Parameter) :
  List.Forall₂ R ps (linkCounts ps)
  := by
  unfold linkCounts
  apply List.foldlRecOn (motive := fun qs => List.Forall₂ R ps qs)
  · exact List.forall₂_same.mpr fun p _ => refl p
  · intro qs hqs link _
    apply forall₂_linkCount trans step hqs

end

theorem forall₂_linkCounts (ps : List Parameter) :
  List.Forall₂ LinkedTo ps (linkCounts ps)
  := by
  apply forall₂_linkCounts_of (R := LinkedTo)
  · intro p q r
    exact LinkedTo.trans
  · exact linkedTo_asCount
  · exact LinkedTo.refl

/-- Linking neither binds a parameter nor makes the bound one anything else. -/
theorem forall₂_boundSelf_linkCounts (ps : List Parameter) :
  List.Forall₂ (fun p q => p.role = .boundSelf ↔ q.role = .boundSelf) ps (linkCounts ps)
  := by
  apply forall₂_linkCounts_of
  · intro p q r hpq hqr
    exact hpq.trans hqr
  · intro link p
    rw [boundSelf_asCount_iff]
  · intro p
    rfl

/-- The raw names of parameters stay the same. -/
theorem map_rawName_linkCounts (ps : List Parameter) :
  (linkCounts ps).map (·.rawName) = ps.map (·.rawName)
  := by
  rw [← List.forall₂_eq_eq_eq, List.forall₂_map_left_iff, List.forall₂_map_right_iff]
  apply (forall₂_linkCounts ps).flip.imp
  intro q p h
  apply h.rawName

/-- Each linked parameter is what links have made of a declared one. -/
theorem exists_linkedTo {ps : List Parameter} {q : Parameter} (h : q ∈ linkCounts ps) :
  ∃ p ∈ ps, p.LinkedTo q
  := Outcome.exists_of_mem_right (forall₂_linkCounts ps) h

/-- Each declared parameter is there after linking, and only its role may be another. -/
theorem exists_mem_linkCounts {ps : List Parameter} {p : Parameter} (h : p ∈ ps) :
  ∃ q ∈ linkCounts ps, p.LinkedTo q
  := Outcome.exists_of_mem_right (forall₂_linkCounts ps).flip h

/-! ### Arrays and their counts -/

theorem mem_countLinks {ps : List Parameter} {link : CountLink} :
  link ∈ countLinks ps
    ↔ ∃ p ∈ ps, p.role.directLength? = some link.count
        ∧ link.array = p.rawName ∧ link.isInput = p.role.isInputArray
  := by
  obtain ⟨count, array, isInput⟩ := link
  rw [countLinks, List.mem_filterMap]
  constructor
  · rintro ⟨p, hp, h⟩
    obtain ⟨name, hname, heq⟩ := Option.map_eq_some_iff.mp h
    obtain ⟨rfl, rfl, rfl⟩ := CountLink.mk.inj heq
    use p, hp, hname
  · rintro ⟨p, hp, hname, rfl, rfl⟩
    use p, hp
    rw [hname]
    rfl

/-- The first parameter of a raw name, if there is one, is a count or the bound one. -/
def Settled (name : String) (ps : List Parameter) : Prop :=
  ∀ p, ps.find? (·.rawName == name) = some p → p.role.IsCount ∨ p.role = .boundSelf

theorem Settled.linkCount {name : String} {ps : List Parameter} (h : Settled name ps)
    (link : CountLink) :
  Settled name (linkCount link ps)
  := by
  intro q hq
  rw [find?_linkCount] at hq
  obtain ⟨p, hp, rfl⟩ := Option.map_eq_some_iff.mp hq
  split
  · apply isCount_asCount
  · apply h p hp

theorem settled_linkCount (link : CountLink) (ps : List Parameter) :
  Settled link.count (linkCount link ps)
  := by
  intro q hq
  rw [find?_linkCount] at hq
  obtain ⟨p, _, rfl⟩ := Option.map_eq_some_iff.mp hq
  rw [if_pos rfl]
  apply isCount_asCount

theorem settled_foldl {links : List CountLink} {link : CountLink} (h : link ∈ links)
    (ps : List Parameter) :
  Settled link.count (links.foldl (fun ps link => linkCount link ps) ps)
  := by
  induction links generalizing ps with
  | nil => cases h
  | cons first links ih =>
      rw [List.foldl_cons]
      rcases List.mem_cons.mp h with rfl | h
      · apply List.foldlRecOn (motive := Settled link.count)
        · apply settled_linkCount
        · intro qs hqs other _
          apply hqs.linkCount
      · apply ih h

/-- The length of an array, where it is a parameter by itself, is a count or the bound
parameter. -/
theorem settled_linkCounts {ps : List Parameter} {q : Parameter} (hq : q ∈ linkCounts ps)
    {name : String} (h : q.role.directLength? = some name) :
  Settled name (linkCounts ps)
  := by
  obtain ⟨p, hp, hpq⟩ := exists_linkedTo hq
  have hrole : q.role = p.role := by
    apply hpq.role.resolve_right
    apply Role.not_isCount_of_length (Role.length?_of_directLength? h)
  have hlink : CountLink.mk name p.rawName p.role.isInputArray ∈ countLinks ps := by
    apply mem_countLinks.mpr
    use p, hp
    rw [← hrole, h]
    exact ⟨rfl, rfl, rfl⟩
  apply settled_foldl hlink

/-- If a parameter is a derivable count, then it is no pointer, and the count of a link of
an input. -/
def DerivesFrom (links : List CountLink) (p : Parameter) : Prop :=
  ∀ array, p.role = .count array true →
    p.isPointer = false ∧ ∃ link ∈ links, link.isInput = true ∧ link.count = p.rawName

theorem DerivesFrom.asCount {links : List CountLink} {link : CountLink} {p : Parameter}
    (h : DerivesFrom links p) (hlink : link ∈ links) (hname : p.rawName = link.count) :
  DerivesFrom links (asCount link p)
  := by
  intro array hrole
  rw [(linkedTo_asCount link p).isPointer, (linkedTo_asCount link p).rawName]
  rcases derivable_asCount hrole with ⟨array, hrole⟩ | ⟨hinput, hpointer⟩
  · apply h array hrole
  · use hpointer, link, hlink, hinput, hname.symm

theorem derivesFrom_linkCounts {ps : List Parameter} (declared : ∀ p ∈ ps, ¬p.role.IsCount) :
  ∀ q ∈ linkCounts ps, DerivesFrom (countLinks ps) q
  := by
  unfold linkCounts
  apply List.foldlRecOn (motive := fun qs => ∀ q ∈ qs, DerivesFrom (countLinks ps) q)
  · intro q hq array hrole
    exact absurd ⟨array, true, hrole⟩ (declared q hq)
  · intro qs ih link hlink q hq
    rcases mem_linkCount hq with hq | ⟨p, hp, hname, rfl⟩
    · apply ih q hq
    · apply (ih p hp).asCount hlink hname

/-- Where no parameter counts by its declaration, a derivable count is no pointer, and
some input array is declared with it as its length. -/
theorem derivable_linkCounts {ps : List Parameter} (declared : ∀ p ∈ ps, ¬p.role.IsCount)
    {q : Parameter} (hq : q ∈ linkCounts ps) {array : String}
    (h : q.role = .count array true) :
  q.isPointer = false ∧ ∃ p ∈ ps, p.role = .inputArray (.parameter q.rawName)
  := by
  obtain ⟨hpointer, link, hlink, hinput, hcount⟩ := derivesFrom_linkCounts declared q hq array h
  obtain ⟨p, hp, hname, _, heq⟩ := mem_countLinks.mp hlink
  use hpointer, p, hp
  apply Role.isInputArray_and_directLength?_iff.mp
  rw [← heq, hinput, hname, hcount]
  exact ⟨rfl, rfl⟩

end Parameter

end NativeApi
