/-
  IdentitySchema/Proofs/Fragment/Linked.lean
  ==========================================
  **Where the attributes of a fragment stand.**  An attribute that was built
  from a fragment stands below the place it was built for, its sub-attributes
  stand below it, and so on down the tree (`Linked`).  Taking many values adds
  no step to a path: an attribute and the attribute of one of its values are
  at the same place, and the characteristics of both say that there are many.

  What holds of one attribute is read off its outline; the tree follows by
  induction over the fragment (`linked_of_ofFragment`).  A tree in good shape
  has no more than two levels (`subAttributes_eq_nil`).
-/
import IdentitySchema.Proofs.Fragment.WellFormed

namespace IdentitySchema

open Report

/-! ### Paths below one another -/

/-- The other path is this one or extends it. -/
def Locator.Covers (path other : Locator) : Prop := path.segments <+: other.segments

theorem Locator.covers_refl (path : Locator) : path.Covers path := List.prefix_refl _

theorem Locator.Covers.trans {p q r : Locator} (hpq : p.Covers q) (hqr : q.Covers r) :
    p.Covers r := List.IsPrefix.trans hpq hqr

theorem Locator.covers_child (path : Locator) (segment : String) :
    path.Covers (path.child segment) := List.prefix_append _ _

/-! ### The outline of a fragment -/

theorem Characteristics.isMultiValued_ofFragment (type : AttributeType) (site : Site)
    (fragment : Json.Members) :
    (Characteristics.ofFragment type site fragment).isMultiValued = declaresMany fragment := by
  unfold Characteristics.ofFragment Characteristics.isMultiValued declaresMany
  dsimp only
  cases fragment.get? "multiValued" with
  | none => rfl
  | some value =>
    cases value with
    | bool flag => cases flag <;> rfl
    | _ => rfl

theorem declaresMany_without (fragment : Json.Members) :
    declaresMany (fragment.without companionProperties) = declaresMany fragment := by
  unfold declaresMany
  rw [Json.Members.get?_without (by decide)]

namespace Outline

variable {asked? : Option String} {site : Site} {fragment : Json.Members} {outline : Outline}

theorem resolveType_of_ofFragment (h : Outline.ofFragment asked? site fragment = .ok outline) :
    resolveType asked? site.parent fragment = .ok outline.type := by
  unfold Outline.ofFragment at h
  split at h
  · cases h
  · rename_i type hresolve
    dsimp only at h
    split at h
    · cases h
      exact hresolve
    · cases h
      exact hresolve

/-- The characteristics of an outline are read off the fragment, without the properties that
describe the parts of each value if there are many. If a type is asked for, there is one. -/
theorem ofFragment_eq_ok (h : Outline.ofFragment asked? site fragment = .ok outline) :
    (asked? = none ∧ declaresMany fragment = true ∧
      outline.cardinality = .many (.ofFragment fragment) ∧
      outline.traits = .ofFragment outline.type { site with inMultiValued := true }
        (fragment.without companionProperties)) ∨
    ((asked? = none → declaresMany fragment = false) ∧ outline.cardinality = .one ∧
      outline.traits = .ofFragment outline.type site fragment) := by
  unfold Outline.ofFragment at h
  split at h
  · cases h
  · dsimp only at h
    split at h
    · rename_i hboth
      obtain ⟨hnone, hmany⟩ := Bool.and_eq_true_iff.mp hboth
      cases h
      exact Or.inl ⟨Option.isNone_iff_eq_none.mp hnone, hmany, rfl, rfl⟩
    · rename_i hnot
      cases h
      refine Or.inr ⟨?_, rfl, rfl⟩
      rintro rfl
      exact Bool.eq_false_of_not_eq_true hnot

theorem path_of_ofFragment (h : Outline.ofFragment asked? site fragment = .ok outline) :
    outline.traits.path = site.parent.child outline.traits.nameLabel := by
  rcases ofFragment_eq_ok h with ⟨-, -, -, htraits⟩ | ⟨-, -, htraits⟩
  · rw [htraits]
    rfl
  · rw [htraits]
    rfl

theorem parentComplex_of_ofFragment (h : Outline.ofFragment asked? site fragment = .ok outline) :
    outline.traits.parentComplex = site.inComplex := by
  rcases ofFragment_eq_ok h with ⟨-, -, -, htraits⟩ | ⟨-, -, htraits⟩
  · rw [htraits]
    rfl
  · rw [htraits]
    rfl

/-- An attribute takes many values exactly when its characteristics say so. -/
theorem isMultiValued_of_ofFragment (h : Outline.ofFragment none site fragment = .ok outline) :
    outline.traits.isMultiValued = outline.cardinality.isMany := by
  rcases ofFragment_eq_ok h with ⟨-, hmany, hcardinality, htraits⟩ | ⟨hone, hcardinality, htraits⟩
  · rw [htraits, hcardinality, Characteristics.isMultiValued_ofFragment, declaresMany_without,
      hmany]
    rfl
  · rw [htraits, hcardinality, Characteristics.isMultiValued_ofFragment, hone rfl]
    rfl

/-- An attribute that was built is a simple one, or has the sub-attributes that were built, all of
them. -/
theorem attribute?_cases {bs : List Attempt} {a : Attribute} (h : outline.attribute? bs = .ok a) :
    (∃ form, outline.simpleForm? = some form ∧
      a = .simple outline.traits outline.cardinality form) ∨
    (outline.simpleForm? = none ∧ ∃ subs : List Attribute, bs = subs.map .ok ∧
      a = .complex outline.traits outline.cardinality subs) := by
  unfold Outline.attribute? at h
  cases hform : outline.simpleForm? with
  | some form =>
    rw [hform] at h
    cases h
    exact Or.inl ⟨form, rfl, rfl⟩
  | none =>
    rw [hform] at h
    by_cases hall : ∀ b ∈ bs, b.Succeeds
    · rw [outline.complex_built hall] at h
      cases h
      exact Or.inr ⟨rfl, _, (Attempt.map_ok_of_succeeds hall).symm, rfl⟩
    · rw [outline.complex_failed hall] at h
      cases h

/-- An attribute that was built has the characteristics of its outline, and each of its
sub-attributes is among the attempts. -/
theorem attribute?_eq_ok {bs : List Attempt} {a : Attribute} (h : outline.attribute? bs = .ok a) :
    a.traits = outline.traits ∧ a.cardinality = outline.cardinality ∧
      ∀ sub ∈ a.subAttributes, (.ok sub : Attempt) ∈ bs := by
  rcases attribute?_cases h with ⟨form, -, rfl⟩ | ⟨-, subs, rfl, rfl⟩
  · exact ⟨rfl, rfl, List.forall_mem_nil _⟩
  · exact ⟨rfl, rfl, fun sub hsub => List.mem_map_of_mem hsub⟩

end Outline

/-! ### Trees of attributes -/

namespace Attribute

variable {asked? : Option String} {site : Site} {fragment : Json.Members} {a : Attribute}

theorem ofFragment_eq_ok (h : ofFragment fragment site asked? = .ok a) :
    ∃ outline, Outline.ofFragment asked? site fragment = .ok outline ∧
      outline.attribute? (ofMembers outline fragment) = .ok a := by
  unfold ofFragment at h
  split at h
  · cases h
  · rename_i outline houtline
    exact ⟨outline, houtline, h⟩

/-- A sub-attribute is built from an entry of the list in the fragment, for the site within. -/
theorem exists_entry_of_mem_subAttributes (h : ofFragment fragment site asked? = .ok a)
    {sub : Attribute} (hsub : sub ∈ a.subAttributes) :
    ∃ entries, fragment.get? "subAttributes" = some (.array entries) ∧
      ∃ members, Json.object members ∈ entries ∧
        ofFragment members ⟨a.path, a.traits.parentMultiValued, true⟩ none = .ok sub := by
  obtain ⟨outline, -, hbuilt⟩ := ofFragment_eq_ok h
  obtain ⟨htraits, -, hsubs⟩ := Outline.attribute?_eq_ok hbuilt
  have hsite : outline.innerSite = ⟨a.path, a.traits.parentMultiValued, true⟩ := by
    rw [path, htraits]
    rfl
  rcases mem_ofMembers (hsubs sub hsub) with
    ⟨entries, hlist, entry, hentry, hsub⟩ | ⟨_, -, -, hfailed⟩
  · rw [hsite] at hsub
    cases entry with
    | object members => exact ⟨entries, hlist, members, hentry, hsub.symm⟩
    | _ => cases hsub
  · cases hfailed

/-- The attribute stands at the site, and everything below it in its place. -/
inductive Linked : Site → Attribute → Prop
  | intro {site : Site} {a : Attribute}
      (hpath : a.path = site.parent.child a.traits.nameLabel)
      (hcomplex : a.traits.parentComplex = site.inComplex)
      (hmany : a.traits.isMultiValued = a.isMultiValued)
      (hsubs : ∀ sub ∈ a.subAttributes,
        Linked ⟨a.path, a.traits.parentMultiValued, true⟩ sub) :
      Linked site a

theorem linked_of_ofFragment (fragment : Json.Members) :
    ∀ (site : Site) (a : Attribute), ofFragment fragment site none = .ok a → Linked site a := by
  induction fragment using Json.Members.fragmentInduction with
  | step fragment ih =>
    intro site a h
    obtain ⟨outline, houtline, hbuilt⟩ := ofFragment_eq_ok h
    obtain ⟨htraits, hcardinality, -⟩ := Outline.attribute?_eq_ok hbuilt
    refine .intro ?_ ?_ ?_ ?_
    · rw [path, htraits]
      exact Outline.path_of_ofFragment houtline
    · rw [htraits]
      exact Outline.parentComplex_of_ofFragment houtline
    · rw [htraits, isMultiValued, hcardinality]
      exact Outline.isMultiValued_of_ofFragment houtline
    · intro sub hsub
      obtain ⟨entries, hlist, members, hentry, hbuilt⟩ := exists_entry_of_mem_subAttributes h hsub
      exact ih entries hlist members hentry _ sub hbuilt

namespace Linked

theorem path_eq (h : Linked site a) : a.path = site.parent.child a.traits.nameLabel := by
  cases h with
  | intro hpath _ _ _ => exact hpath

theorem parentComplex_eq (h : Linked site a) : a.traits.parentComplex = site.inComplex := by
  cases h with
  | intro _ hcomplex _ _ => exact hcomplex

theorem isMultiValued_eq (h : Linked site a) : a.traits.isMultiValued = a.isMultiValued := by
  cases h with
  | intro _ _ hmany _ => exact hmany

theorem sub (h : Linked site a) {sub : Attribute} (hsub : sub ∈ a.subAttributes) :
    Linked ⟨a.path, a.traits.parentMultiValued, true⟩ sub := by
  cases h with
  | intro _ _ _ hsubs => exact hsubs sub hsub

end Linked

/-! ### Trees in good shape -/

theorem shapeReports_eq_nil_iff {attributes : List Attribute} :
    shapeReports attributes = [] ↔ ∀ a ∈ attributes, a.checkShape = .ok () := by
  rw [shapeReports_eq_flatMap, List.flatMap_eq_nil_iff]
  refine forall₂_congr fun a _ => ?_
  rw [found_eq_nil_iff_ok]

/-- The characteristics of an attribute in good shape are those of its type. -/
theorem violations_eq_nil_of_checkShape {a : Attribute} (h : a.checkShape = .ok ()) :
    a.traits.violations a.type = [] := by
  rw [checkShape_eq_ok_iff] at h
  cases a with
  | simple traits cardinality form =>
    rw [listed_checkShape_simple] at h
    unfold SimpleForm.violations at h
    exact (List.append_eq_nil_iff.mp h).1
  | complex traits cardinality subAttributes =>
    rw [listed_checkShape_complex, List.append_eq_nil_iff] at h
    exact (Fragment.complexViolations_eq_nil.mp h.1).2

theorem checkShape_of_mem_subAttributes {a sub : Attribute} (h : a.checkShape = .ok ())
    (hsub : sub ∈ a.subAttributes) : sub.checkShape = .ok () := by
  cases a with
  | simple traits cardinality form => cases hsub
  | complex traits cardinality subAttributes =>
    rw [checkShape_eq_ok_iff, listed_checkShape_complex, List.append_eq_nil_iff] at h
    rw [checkShape_eq_ok_iff]
    exact List.flatMap_eq_nil_iff.mp h.2 sub hsub

/-- An attribute in good shape has a name that its type can have. -/
theorem exists_name_of_checkShape {a : Attribute} (h : a.checkShape = .ok ()) :
    ∃ name, a.traits.name = .valid name ∧
      (name.toList ∈ Name.attributeNames ∨ a.type = .reference ∧ name = "$ref") := by
  have hviolations := violations_eq_nil_of_checkShape h
  simp only [Characteristics.violations, List.append_assoc] at hviolations
  exact Characteristics.nameViolations_eq_nil.mp (List.append_eq_nil_iff.mp hviolations).1

theorem name?_of_checkShape {a : Attribute} (h : a.checkShape = .ok ()) :
    a.name? = some a.traits.nameLabel := by
  obtain ⟨name, hname, -⟩ := exists_name_of_checkShape h
  rw [name?, Characteristics.name?, Characteristics.nameLabel, hname]
  rfl

/-- No attribute in good shape that belongs to a complex one is complex itself. -/
theorem subAttributes_eq_nil {a : Attribute} (h : a.checkShape = .ok ())
    (hcomplex : a.traits.parentComplex = true) : a.subAttributes = [] := by
  cases a with
  | simple traits cardinality form => rfl
  | complex traits cardinality subAttributes =>
    rw [checkShape_eq_ok_iff, listed_checkShape_complex, List.append_eq_nil_iff] at h
    have hfree := (Fragment.complexViolations_eq_nil.mp h.1).1
    have hinside : traits.parentComplex = true := hcomplex
    rw [hinside] at hfree
    cases hfree

end Attribute

end IdentitySchema
