import Mathlib.Tactic.Use
import NativeApi.Naming.Basic
import NativeApi.Options.Standard
import NativeApi.Proofs.Outcomes

/-!
# Names of enumeration members

The name of a member loses the beginning and the end that it shares with its enumeration, and
may get another beginning from a table.  Main statement: as long as vendor tags and beginnings
in the table begin with letters, so does every name of a member, and there is none exactly where
what is left of the raw name does not and the table has no beginning.
-/

namespace NativeApi

namespace Naming

/-! ### First characters -/

theorem ne_empty_of_beginsWithLetter {name : String} (h : beginsWithLetter name = true) :
  name ≠ ""
  := by
  rintro rfl
  cases h

/-- A name begins as its first part does, unless that is empty. -/
theorem beginsWithLetter_append {front back : String} (hne : front ≠ "") :
  beginsWithLetter (front ++ back) = beginsWithLetter front
  := by
  rw [beginsWithLetter, beginsWithLetter, String.toList_append]
  cases hfront : front.toList with
  | nil => exact absurd (String.toList_eq_nil_iff.mp hfront) hne
  | cons c cs => rfl

/-- A vendor tag begins in its canonical spelling as it does in the document. -/
theorem beginsWithLetter_vendorTag (name : String) :
  beginsWithLetter (vendorTag name).canonical = beginsWithLetter name
  := by
  rw [vendorTag, beginsWithLetter, beginsWithLetter, String.toList_ofList]
  cases name.toList with
  | nil => rfl
  | cons c cs => rfl

/-- What is left once the shared end is taken off begins as before, or it is a vendor tag where
nothing but that is left. -/
theorem beginsWithLetter_withoutBack {a : Affixes} {name : String}
    (vendors : ∀ vendor, a.vendor = some vendor → beginsWithLetter vendor = true)
    (h : beginsWithLetter name = true) :
  beginsWithLetter (withoutBack a name) = true
  := by
  unfold withoutBack
  split
  · exact h
  · rename_i back hback
    split
    · rename_i front hfront
      obtain rfl := Text.before?_eq_some_iff.mp hfront
      split
      · exact h
      · rename_i hempty
        rwa [beginsWithLetter_append (mt String.isEmpty_iff.mpr hempty)] at h
    · split
      · exact h
      · rename_i vendor hvendor
        split
        · rename_i front hfront
          obtain rfl := Text.before?_eq_some_iff.mp hfront
          by_cases hempty : front = ""
          · rw [hempty, String.empty_append]
            exact vendors vendor hvendor
          · rw [beginsWithLetter_append hempty] at h ⊢
            exact h
        · exact h

/-! ### Learned rules -/

theorem memberRewrites_learnAll (n : Naming) (names : List String) :
  (n.learnAll names).memberRewrites = n.memberRewrites
  := by
  apply List.foldlRecOn (motive := fun m => m.memberRewrites = n.memberRewrites) names learn rfl
  intro m hm name _
  rw [← hm, learn]
  split <;> rfl

/-- Every tag that is learned is spelled by its name. -/
theorem eq_vendorTag_of_mem_learnAll {n : Naming} {names : List String}
    (h : ∀ tag ∈ n.vendorTags, tag = vendorTag tag.name) :
  ∀ tag ∈ (n.learnAll names).vendorTags, tag = vendorTag tag.name
  := by
  apply List.foldlRecOn (motive := fun m => ∀ tag ∈ m.vendorTags, tag = vendorTag tag.name)
    names learn h
  intro m hm name _
  rw [learn]
  split
  · exact hm
  · exact List.forall_mem_append.mpr ⟨hm, List.forall_mem_singleton.mpr rfl⟩

/-! ### Affixes -/

/-- The beginning that the members of an enumeration share: its name without vendor tags, each
of which is taken off its end in turn, and without the word for flags. -/
def ownerFront (n : Naming) (owner : String) : String :=
  let front := n.vendorTags.foldl
    (fun front tag => (Text.before? tag.canonical front).getD front) owner
  (Text.before? "Flags" front).getD front

theorem front_withTag (member : String) (a : Affixes) (tag : VendorTag) :
  (a.withTag member tag).front = (Text.before? tag.canonical a.front).getD a.front
  := by
  unfold Affixes.withTag
  split
  · rename_i front hfront
    rw [hfront, Option.getD_some]
  · rename_i hfront
    rw [hfront, Option.getD_none]
    split <;> rfl

theorem front_affixes (n : Naming) (member owner : String) :
  (n.affixes member owner).front = n.ownerFront owner
  := by
  have tags (a : Affixes) : (n.vendorTags.foldl (Affixes.withTag member) a).front
      = n.vendorTags.foldl (fun front tag => (Text.before? tag.canonical front).getD front)
        a.front := by
    induction n.vendorTags generalizing a with
    | nil => rfl
    | cons tag tags ih => rw [List.foldl_cons, List.foldl_cons, ih, front_withTag]
  rw [affixes, ownerFront, Affixes.withFlags, tags]
  split
  · rename_i front hfront
    rw [hfront, Option.getD_some]
  · rename_i hfront
    rw [hfront, Option.getD_none, tags]

theorem vendor_withFlags (a : Affixes) :
  a.withFlags.vendor = a.vendor
  := by
  unfold Affixes.withFlags
  split <;> rfl

/-- The vendor tag that a member ends in is one of the rules. -/
theorem exists_of_vendor_affixes (n : Naming) (member owner : String) :
  ∀ vendor, (n.affixes member owner).vendor = some vendor →
    ∃ tag ∈ n.vendorTags, tag.canonical = vendor
  := by
  rw [affixes, vendor_withFlags]
  apply List.foldlRecOn (motive := fun a : Affixes =>
    ∀ vendor, a.vendor = some vendor → ∃ tag ∈ n.vendorTags, tag.canonical = vendor)
  · nofun
  · intro a known tag htag
    unfold Affixes.withTag
    split
    · exact known
    · split
      · intro vendor hvendor
        use tag, htag, Option.some.inj hvendor
      · exact known

/-! ### What is left of a raw name -/

/-- What is left of a name once a beginning is taken off, in whatever case, and the whole name
where it does not begin so. -/
inductive IsRest (front : String) : (name rest : String) → Prop where
  | taken {head rest : String} :
      Text.equalIgnoringCase head.toList front.toList = true → IsRest front (head ++ rest) rest
  | whole {name : String} :
      (∀ head rest : String, name = head ++ rest →
        Text.equalIgnoringCase head.toList front.toList = false) → IsRest front name name

/-- There is one rest of a name. -/
theorem isRest_iff {a : Affixes} {name rest : String} :
  IsRest a.front name rest ↔ rest = withoutFront a name
  := by
  rw [withoutFront]
  constructor
  · intro h
    cases h with
    | taken hhead => rw [Text.afterIgnoringCase?_eq_some_iff.mpr ⟨_, rfl, hhead⟩, Option.getD_some]
    | whole hnone =>
        have hafter : Text.afterIgnoringCase? a.front name = none := by
          apply Option.eq_none_iff_forall_ne_some.mpr
          intro rest hrest
          obtain ⟨head, hname, hhead⟩ := Text.afterIgnoringCase?_eq_some_iff.mp hrest
          rw [hnone head rest hname] at hhead
          cases hhead
        rw [hafter, Option.getD_none]
  · rintro rfl
    cases hafter : Text.afterIgnoringCase? a.front name with
    | some rest =>
        obtain ⟨head, rfl, hhead⟩ := Text.afterIgnoringCase?_eq_some_iff.mp hafter
        exact .taken hhead
    | none =>
        apply IsRest.whole
        intro head rest hname
        apply Bool.eq_false_iff.mpr
        intro hhead
        rw [Text.afterIgnoringCase?_eq_some_iff.mpr ⟨head, hname, hhead⟩] at hafter
        cases hafter

/-! ### Members -/

/-- There is no name exactly where what is left of the raw one begins with no letter and the
table has no beginning for the enumeration. -/
theorem enumMember_eq_error_iff (n : Naming) (raw owner : String) (error : Error) :
  n.enumMember raw owner = .error error
    ↔ beginsWithLetter (withoutFront (n.affixes (n.translate raw) owner) (n.translate raw)) = false
      ∧ n.memberRewrites.get? owner = none
      ∧ error = .unrecognizedConstruct ("enum member '" ++ raw ++ "' (stripped to '"
        ++ withoutFront (n.affixes (n.translate raw) owner) (n.translate raw) ++ "')") owner
  := by
  unfold enumMember
  simp only
  split
  · rename_i hletter
    simp [hletter]
  · rename_i hletter
    cases hrewrite : n.memberRewrites.get? owner with
    | some rewrite => simp
    | none => simp [hletter, eq_comm]

/-- Every name begins with a letter as long as vendor tags and the beginnings in the table do. -/
theorem beginsWithLetter_of_enumMember {n : Naming} {raw owner name : String}
    (tags : ∀ tag ∈ n.vendorTags, beginsWithLetter tag.canonical = true)
    (rewrites : ∀ owner rewrite, n.memberRewrites.get? owner = some rewrite →
      beginsWithLetter rewrite = true)
    (h : n.enumMember raw owner = .ok name) :
  beginsWithLetter name = true
  := by
  have vendors : ∀ vendor, (n.affixes (n.translate raw) owner).vendor = some vendor →
      beginsWithLetter vendor = true := by
    intro vendor hvendor
    obtain ⟨tag, htag, rfl⟩ := exists_of_vendor_affixes n _ _ vendor hvendor
    exact tags tag htag
  unfold enumMember at h
  simp only at h
  split at h
  · rename_i hletter
    obtain rfl := Except.ok.inj h
    exact beginsWithLetter_withoutBack vendors hletter
  · split at h
    · rename_i rewrite hrewrite
      obtain rfl := Except.ok.inj h
      apply beginsWithLetter_withoutBack vendors
      have hletter := rewrites owner rewrite hrewrite
      rwa [beginsWithLetter_append (ne_empty_of_beginsWithLetter hletter)]
    · cases h

/-- With vendor tags that begin with letters, and a table of beginnings that do, every name of a
member does and so is not empty.  The rest of the raw name decides, once the beginning that its
enumeration gives is taken off, whether there is a name without the table. -/
theorem enumMember_usable (o : Options) (tagNames : List String)
    (tags : ∀ tag ∈ (o.naming.learnAll tagNames).vendorTags, beginsWithLetter tag.name = true)
    (rewrites : ∀ owner rewrite, o.memberRewrites.get? owner = some rewrite →
      beginsWithLetter rewrite = true)
    (raw owner : String) :
  (∀ name, (o.naming.learnAll tagNames).enumMember raw owner = .ok name →
      name ≠ "" ∧ beginsWithLetter name = true)
    ∧ ∃ rest, (∀ rest', IsRest ((o.naming.learnAll tagNames).ownerFront owner)
          ((o.naming.learnAll tagNames).translate raw) rest' ↔ rest' = rest)
      ∧ ∀ error, (o.naming.learnAll tagNames).enumMember raw owner = .error error
        ↔ beginsWithLetter rest = false ∧ o.memberRewrites.get? owner = none
          ∧ error = .unrecognizedConstruct
            ("enum member '" ++ raw ++ "' (stripped to '" ++ rest ++ "')") owner
  := by
  have htable : (o.naming.learnAll tagNames).memberRewrites = o.memberRewrites :=
    memberRewrites_learnAll _ _
  have hspelled := @eq_vendorTag_of_mem_learnAll o.naming tagNames (List.forall_mem_nil _)
  generalize o.naming.learnAll tagNames = n at *
  constructor
  · intro name h
    have letter : beginsWithLetter name = true := by
      apply beginsWithLetter_of_enumMember _ _ h
      · intro tag htag
        rw [hspelled tag htag, beginsWithLetter_vendorTag]
        exact tags tag htag
      · rw [htable]
        exact rewrites
    use ne_empty_of_beginsWithLetter letter, letter
  · use withoutFront (n.affixes (n.translate raw) owner) (n.translate raw)
    constructor
    · intro rest
      rw [← front_affixes n (n.translate raw) owner]
      exact isRest_iff
    · intro error
      rw [← htable]
      exact enumMember_eq_error_iff n raw owner error

/-- The standard rules with two vendor tags. -/
def taggedRules : Naming := Options.standard.naming.learnAll ["KHR", "EXT"]

/-- Of a flag of another vendor nothing may be left but the tag of the vendor. -/
theorem enumMember_usable_loneTag :
  (∀ tag ∈ taggedRules.vendorTags, beginsWithLetter tag.name = true)
    ∧ (∀ owner rewrite, Options.standard.memberRewrites.get? owner = some rewrite →
      beginsWithLetter rewrite = true)
    ∧ taggedRules.enumMember "VK_QUEUE_BIT_EXT" "QueueFlags" = .ok "Ext"
    ∧ beginsWithLetter "Ext" = true
  := by
  have tags : ∀ tag ∈ taggedRules.vendorTags, beginsWithLetter tag.name = true := by decide
  have rewrites : ∀ owner rewrite, Options.standard.memberRewrites.get? owner = some rewrite →
      beginsWithLetter rewrite = true := by
    have all : Options.standardMemberRewrites.entries.all (beginsWithLetter ·.2) = true := by
      decide
    intro owner rewrite hrewrite
    have mem : (owner, rewrite) ∈ Options.standardMemberRewrites.entries :=
      Dict.get?_eq_some_iff.mp hrewrite
    exact List.all_eq_true.mp all _ mem
  have hok : taggedRules.enumMember "VK_QUEUE_BIT_EXT" "QueueFlags" = .ok "Ext" :=
    Outcome.toOption_eq_some_iff.mp (by decide)
  obtain ⟨usable, -⟩ := enumMember_usable Options.standard ["KHR", "EXT"] tags rewrites
    "VK_QUEUE_BIT_EXT" "QueueFlags"
  exact ⟨tags, rewrites, hok, (usable "Ext" hok).2⟩

end Naming

end NativeApi
