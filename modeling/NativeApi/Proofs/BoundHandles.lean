import NativeApi.Proofs.Slots

/-!
# Bound handles

A command is bound to the handle that its first parameter is, where that is passed by value.
Whether it is, is asked twice: of the whole text of the declaration, which must not have a star,
and of the stars between type and name, which make a pointer.  Main statement: a command is
bound exactly if the first parameter is a handle, is no pointer, and has no star anywhere in its
text; where stars stand nowhere else than between type and name, the last condition follows
from the second.  A bound command has exactly its first parameter bound, and others have none.
-/

namespace NativeApi

/-- Whether a star in the text of a declaration comes with one that makes a pointer. -/
def Declarator.CountsStars (e : Element) : Prop := '*' ∈ e.text.toList → 0 < stars e

/-- The first of some parameters is passed by value, and its type stands for the handle of the
given name. -/
def Parameter.BeginWith (r : Registry) (handle : String) (ps : List Parameter) : Prop :=
  ∃ p rest e h, ps = p :: rest ∧ p.isPointer = false
    ∧ r.resolveRaw p.rawType = .ok e ∧ e.kind = .handle h ∧ e.name = handle

namespace Registry

theorem handleOfRaw?_eq_some_iff {r : Registry} {raw : String} {e : Entity} :
  r.handleOfRaw? raw = some e ↔ r.resolveRaw raw = .ok e ∧ ∃ h, e.kind = .handle h
  := by
  rw [handleOfRaw?, Option.filter_eq_some_iff, Outcome.toOption_eq_some_iff]
  simp only [Option.isSome_iff_exists, Entity.handle?_eq_some_iff]

end Registry

namespace Parameter

variable {r : Registry} {owner : String} {rawNames : List String} {isBound : Bool} {ds : List Declarator}
  {declared ps : List Parameter} {command : Element}

/-! ### The first parameter -/

theorem boundSelf_initialRole_iff (d : Declarator) (length : Option LengthReference)
    (isSelf : Bool) :
  initialRole d length isSelf = .boundSelf ↔ isSelf = true
  := by
  cases isSelf with
  | true => simp [initialRole]
  | false =>
      simp only [Bool.false_eq_true, iff_false]
      intro h
      unfold initialRole at h
      repeat' split at h
      all_goals contradiction

/-- Of declared parameters exactly the first one is bound, if any is to be. -/
theorem boundSelf_declared_iff
    (h : List.Forall₂ (fun d p => ofDeclarator r owner rawNames d.2 d.1 = .ok p)
      (withBound isBound ds) declared)
    {i : Nat} {p : Parameter} (hp : declared[i]? = some p) :
  p.role = .boundSelf ↔ i = 0 ∧ isBound = true
  := by
  obtain ⟨⟨d, isSelf⟩, hd, hp⟩ := Outcome.exists_of_getElem?_right h hp
  obtain ⟨_, length, _, _, _, _, rfl⟩ := ofDeclarator_eq_ok_iff.mp hp
  rw [boundSelf_initialRole_iff]
  cases ds with
  | nil => cases hd
  | cons first rest =>
      cases i with
      | zero =>
          obtain ⟨rfl, rfl⟩ := Prod.mk.inj (Option.some.inj hd)
          simp
      | succ i =>
          obtain ⟨_, -, heq⟩ := List.mem_map.mp (List.mem_of_getElem? hd)
          obtain ⟨rfl, rfl⟩ := Prod.mk.inj heq
          simp

/-- Of the parameters of a command exactly the first one is bound, if any is to be. -/
theorem boundSelf_ofCommand_iff (h : ofCommand r command owner isBound = .ok ps) {i : Nat}
    {q : Parameter} (hq : ps[i]? = some q) :
  q.role = .boundSelf ↔ i = 0 ∧ isBound = true
  := by
  obtain ⟨ds, -, h⟩ := ofCommand_eq_ok_iff.mp h
  obtain ⟨declared, hdeclared, rfl⟩ := ofDeclarators_eq_ok_iff.mp h
  obtain ⟨p, hp, hpq⟩ := Outcome.exists_of_getElem?_right (forall₂_boundSelf_linkCounts declared) hq
  rw [← hpq]
  exact boundSelf_declared_iff hdeclared hp

/-- The first parameter of a command is as its first declaration says. -/
theorem first_ofCommand (h : ofCommand r command owner isBound = .ok ps) :
  command.element? "param" = none ∧ ps = []
    ∨ ∃ e d p rest, command.element? "param" = some e
      ∧ Declarator.parse e owner r.constants = .ok d ∧ ps = p :: rest
      ∧ p.isPointer = d.isPointer ∧ p.rawType = d.rawType
  := by
  obtain ⟨ds, hds, h⟩ := ofCommand_eq_ok_iff.mp h
  obtain ⟨declared, hdeclared, rfl⟩ := ofDeclarators_eq_ok_iff.mp h
  have hlinked := forall₂_linkCounts declared
  rw [← Element.head?_elements]
  generalize command.elements "param" = es at hds ⊢
  cases hds with
  | nil =>
      cases hdeclared
      exact .inl ⟨rfl, rfl⟩
  | @cons e d es ds he _ =>
      obtain ⟨p, declared, hp, -, rfl⟩ := List.forall₂_cons_left_iff.mp hdeclared
      obtain ⟨q, rest, hpq, -, hqs⟩ := List.forall₂_cons_left_iff.mp hlinked
      obtain ⟨_, _, _, -, -, -, rfl⟩ := ofDeclarator_eq_ok_iff.mp hp
      right
      use e, d, q, rest, rfl, he, hqs, hpq.isPointer
      rw [hpq.declaration]

end Parameter

namespace Classification

variable {s : Setting} {r : Registry} {element : Element} {c : Classification}
  {owner handle : String} {isBound : Bool} {ps : List Parameter}

/-- The declaration of the first parameter of a command has no star in its text. -/
def HasNoStar (element : Element) : Prop :=
  ∀ first, element.element? "param" = some first → '*' ∉ first.text.toList

/-- A command is bound to the handle that its first declaration is of, unless that has a star
in its text. -/
theorem boundHandle?_eq_some_iff :
  boundHandle? r element = some handle
    ↔ ∃ first rawType e h, element.element? "param" = some first
      ∧ first.childText? "type" = some rawType ∧ '*' ∉ first.text.toList
      ∧ r.resolveRaw (Text.trim rawType) = .ok e ∧ e.kind = .handle h ∧ e.name = handle
  := by
  simp only [boundHandle?, Option.bind_eq_bind, Option.bind_eq_some_iff]
  constructor
  · rintro ⟨first, hfirst, rawType, htype, h⟩
    split at h
    · cases h
    · rename_i hstar
      obtain ⟨e, he, hname⟩ := Option.map_eq_some_iff.mp h
      obtain ⟨hresolved, handle, hhandle⟩ := Registry.handleOfRaw?_eq_some_iff.mp he
      rw [Text.contains_star_iff] at hstar
      exact ⟨first, rawType, e, handle, hfirst, htype, hstar, hresolved, hhandle, hname⟩
  · rintro ⟨first, rawType, e, handle, hfirst, htype, hstar, hresolved, hhandle, hname⟩
    use first, hfirst, rawType, htype
    rw [if_neg (Text.contains_star_iff.not.mpr hstar),
      Registry.handleOfRaw?_eq_some_iff.mpr ⟨hresolved, handle, hhandle⟩, Option.map_some, hname]

/-- A command with parameters is bound to the handle that the first one is by value, unless its
declaration has a star in its text. -/
theorem boundHandle?_eq_some_iff_beginWith
    (hps : Parameter.ofCommand r element owner isBound = .ok ps) :
  boundHandle? r element = some handle ↔ Parameter.BeginWith r handle ps ∧ HasNoStar element
  := by
  rw [boundHandle?_eq_some_iff]
  rcases Parameter.first_ofCommand hps with ⟨hnone, rfl⟩
    | ⟨first, d, p, rest, hfirst, hd, rfl, hpointer, htype⟩
  · simp [hnone, Parameter.BeginWith]
  · obtain ⟨rawType, _, _, hrawType, -, -, heq⟩ := Declarator.parse_eq_ok_iff.mp hd
    have htrim : p.rawType = Text.trim rawType := by rw [htype, heq]
    constructor
    · rintro ⟨_, _, e, h, hfirst', hrawType', hstar, hresolved, hhandle, hname⟩
      obtain rfl := Option.some.inj (hfirst.symm.trans hfirst')
      obtain rfl := Option.some.inj (hrawType.symm.trans hrawType')
      have hvalue : p.isPointer = false := by
        rw [hpointer]
        apply Declarator.isPointer_of_no_star hd
        rwa [← Bool.not_eq_true, Text.contains_star_iff]
      rw [← htrim] at hresolved
      use ⟨p, rest, e, h, rfl, hvalue, hresolved, hhandle, hname⟩
      intro other hother
      rwa [← Option.some.inj (hfirst.symm.trans hother)]
    · rintro ⟨⟨_, _, e, h, heq, -, hresolved, hhandle, hname⟩, hstar⟩
      obtain ⟨rfl, rfl⟩ := List.cons.inj heq
      rw [htrim] at hresolved
      exact ⟨first, rawType, e, h, hfirst, hrawType, hstar first hfirst, hresolved, hhandle, hname⟩

/-- Where stars only make pointers, a first parameter that is passed by value has none. -/
theorem hasNoStar_of_beginWith (hps : Parameter.ofCommand r element owner isBound = .ok ps)
    (counts : ∀ first, element.element? "param" = some first → Declarator.CountsStars first)
    (begins : Parameter.BeginWith r handle ps) :
  HasNoStar element
  := by
  intro first hfirst hstar
  obtain ⟨p, rest, _, _, rfl, hvalue, -⟩ := begins
  rcases Parameter.first_ofCommand hps with ⟨-, heq⟩
    | ⟨other, d, _, _, hother, hd, heq, hpointer, -⟩
  · cases heq
  · obtain rfl := Option.some.inj (hfirst.symm.trans hother)
    obtain ⟨rfl, rfl⟩ := List.cons.inj heq
    rw [hpointer, Declarator.isPointer_of_parse hd] at hvalue
    exact of_decide_eq_false hvalue (counts first hfirst hstar)

theorem ofCommand_of_accepted (accepted : ofElement s element = .ok (some c)) :
  c.boundHandle = boundHandle? s.registry element
    ∧ ∃ owner, Parameter.ofCommand s.registry element owner c.boundHandle.isSome
      = .ok c.command.parameters
  := by
  obtain ⟨proto, name, command, -, -, -, -, hcommand, rfl⟩ := ofElement_eq_some_iff.mp accepted
  obtain ⟨_, _, ps, -, -, hps, rfl⟩ := commandOf_eq_ok_iff.mp hcommand
  exact ⟨rfl, name, hps⟩

/-- An accepted command is bound to a handle exactly if its first parameter is that handle by
value and has no star in the text of its declaration; the last is no further condition where
stars only make pointers.  Then the first parameter is the bound one, and no other
parameter ever is. -/
theorem binding_of_accepted (accepted : ofElement s element = .ok (some c)) :
  (∀ handle, c.boundHandle = some handle
      ↔ Parameter.BeginWith s.registry handle c.command.parameters ∧ HasNoStar element)
    ∧ ((∀ first, element.element? "param" = some first → Declarator.CountsStars first) →
        ∀ handle, c.boundHandle = some handle
          ↔ Parameter.BeginWith s.registry handle c.command.parameters)
    ∧ ∀ (i : Nat) (p : Parameter), c.command.parameters[i]? = some p →
        (p.role = .boundSelf ↔ i = 0 ∧ c.boundHandle.isSome = true)
  := by
  obtain ⟨hbound, owner, hps⟩ := ofCommand_of_accepted accepted
  have hbegins (handle : String) : c.boundHandle = some handle
      ↔ Parameter.BeginWith s.registry handle c.command.parameters ∧ HasNoStar element := by
    rw [hbound]
    exact boundHandle?_eq_some_iff_beginWith hps
  refine ⟨hbegins, ?_, ?_⟩
  · intro counts handle
    rw [hbegins]
    apply and_iff_left_of_imp
    exact hasNoStar_of_beginWith hps counts
  · intro i p hp
    exact Parameter.boundSelf_ofCommand_iff hps hp

/-- A setting with a handle and an alias of it. -/
def handleSetting : Setting :=
  { numberSetting with
    registry := {
      entities := [⟨"void", "void", .primitive .void⟩,
        ⟨"Device", "VkDevice", .handle ⟨true, none, []⟩⟩,
        ⟨"DeviceKhr", "VkDeviceKHR", .aliasOf "Device"⟩]
      rawIds := .ofList [("VkDevice", 1), ("VkDeviceKHR", 2), ("void", 0)]
      constants := .empty
      platforms := [] } }

/-- A command whose only parameter is a handle by value, with a star in the comment on it. -/
def starredComment : Element :=
  commandDeclaration "vkResetDevice" [
    ((((Element.named "param").withTextChild "type" "VkDeviceKHR").withText " ").withTextChild
      "name" "device").withTextChild "comment" "the *owning* device"]

/-- A command may take a handle by value first without being bound to it. -/
theorem binding_of_accepted_starredComment :
  ∃ c, ofElement handleSetting starredComment = .ok (some c)
    ∧ ((∀ handle, c.boundHandle = some handle
          ↔ Parameter.BeginWith handleSetting.registry handle c.command.parameters
            ∧ HasNoStar starredComment)
      ∧ ((∀ first, starredComment.element? "param" = some first →
            Declarator.CountsStars first) →
          ∀ handle, c.boundHandle = some handle
            ↔ Parameter.BeginWith handleSetting.registry handle c.command.parameters)
      ∧ ∀ (i : Nat) (p : Parameter), c.command.parameters[i]? = some p →
          (p.role = .boundSelf ↔ i = 0 ∧ c.boundHandle.isSome = true))
    ∧ Parameter.BeginWith handleSetting.registry "Device" c.command.parameters
    ∧ c.boundHandle = none
  := by
  have evaluated :
      (ofElement handleSetting starredComment).toOption.join.any (fun c =>
        c.command.parameters.map (fun p => (p.rawType, p.isPointer)) == [("VkDeviceKHR", false)]
          && c.boundHandle == none) = true := by
    decide +kernel
  have resolved : (handleSetting.registry.resolveRaw "VkDeviceKHR").toOption
      = some ⟨"Device", "VkDevice", .handle ⟨true, none, []⟩⟩ := by
    decide +kernel
  obtain ⟨c, hc, h⟩ := (Option.any_eq_true _ _).mp evaluated
  rw [Bool.and_eq_true] at h
  have accepted := Outcome.toOption_join_eq_some_iff.mp hc
  obtain ⟨p, hp, heq⟩ := List.map_eq_singleton_iff.mp (eq_of_beq h.1)
  obtain ⟨htype, hvalue⟩ := Prod.mk.inj heq
  use c, accepted, binding_of_accepted accepted
  rw [← htype] at resolved
  exact ⟨⟨p, [], _, _, hp, hvalue, Outcome.toOption_eq_some_iff.mp resolved, rfl, rfl⟩,
    eq_of_beq h.2⟩

end Classification

end NativeApi
