/-
  IdentitySchema/Proofs/Fragment/Causes.lean
  ==========================================
  **Why a fragment is reported.**  A violation that names a path is about one
  fragment, and it can be told from that fragment alone that it is justified:
  its type is none, a characteristic is not what the type allows, a key is
  unknown, or what stands for its sub-attributes are no fragments (`Causes`).

  Of a characteristic this says more than that something is wrong.  What stands
  under its key is at fault by itself: no fragment of the type that has the same
  there is well described, whatever else it says (`AtFault`).

  Whichever pass finds it, the report on a fragment is a group at its path.  In
  the group are violations that the fragment causes and, if it is complex, what
  the attempts at its sub-attributes raise (`Outline.group_of_raises`).
-/
import IdentitySchema.Proofs.Fragment.Linked

namespace IdentitySchema

open Report

/-- The path that a violation names. -/
def SchemaViolation.path? : SchemaViolation → Option Locator
  | .characteristicNotAllowed path _ _ _ => some path
  | .nestedComplex path => some path
  | .unknownProperties _ path _ => some path
  | .unknownAttributeType _ path _ => some path
  | .invalidProperty _ _ _ _ _ => none
  | .unexpectedProperties _ _ => none

/-! ### Causes -/

namespace Fragment

/-- What stands under the key, or that nothing does, is enough for a fragment of the type not to be
well described. -/
def AtFault (type : AttributeType) (fragment : Json.Members) (key : String) : Prop :=
  ∀ other : Json.Members, other.get? key = fragment.get? key → ¬ WellDescribed type other

/-- The text shows what stands under the key; a term of a vocabulary is shown by its name. -/
inductive Shows (fragment : Json.Members) (key : String) : String → Prop
  | absent (hnone : fragment.get? key = none) : Shows fragment key "null"
  | value {value : Json} (hvalue : fragment.get? key = some value) :
      Shows fragment key value.rendered
  | term {value : Json} {term : Uniqueness} (hvalue : fragment.get? key = some value)
      (hspells : Vocabulary.Spells term value) : Shows fragment key term.name

/-- The fragment, standing at the path, is why there is the violation. -/
inductive Causes (fragment : Json.Members) (path : Locator) : SchemaViolation → Prop
  | unknownType {declared : Json} (hdeclared : fragment.get? "type" = some declared)
      (hnone : ∀ type, ¬ DeclaresType fragment type) :
      Causes fragment path
        (.unknownAttributeType declared.rendered path (Vocabulary.names AttributeType))
  | characteristic {type : AttributeType} {key expected actual : String}
      (htype : DeclaresType fragment type) (hfault : AtFault type fragment key)
      (hshows : Shows fragment key actual) :
      Causes fragment path (.characteristicNotAllowed path key expected actual)
  | unknownKeys {type : AttributeType} {keys : List String} (htype : DeclaresType fragment type)
      (hsome : keys ≠ []) (horder : keys.Sublist fragment.keys)
      (hkeys : ∀ key, key ∈ keys ↔ key ∈ fragment.keys ∧
        ¬ KnownKey type (fragment.get? "multiValued" = some (.bool true)) key) :
      Causes fragment path (.unknownProperties (fragmentName fragment) path keys)
  | nested (htype : DeclaresType fragment .complex) (hbelow : 2 < path.segments.length) :
      Causes fragment path (.nestedComplex path)
  | notAList {value : Json} (htype : DeclaresType fragment .complex)
      (hvalue : fragment.get? "subAttributes" = some value)
      (hother : ∀ entries, value ≠ .array entries) :
      Causes fragment path (.characteristicNotAllowed path "subAttributes"
        "a list of attribute definitions" value.rendered)
  | notAFragment {entries : List Json} {entry : Json} (htype : DeclaresType fragment .complex)
      (hlist : fragment.get? "subAttributes" = some (.array entries)) (hentry : entry ∈ entries)
      (hother : ∀ members, entry ≠ .object members) :
      Causes fragment path (.characteristicNotAllowed path "subAttributes"
        "a list of attribute definitions" entry.rendered)

variable {type : AttributeType} {fragment : Json.Members} {path : Locator} {key : String}
  {violation : SchemaViolation}

theorem Causes.path?_eq (h : Causes fragment path violation) : violation.path? = some path := by
  cases h with
  | _ => rfl

/-- What causes a violation is not well formed. -/
theorem Causes.not_wellFormed (h : Causes fragment path violation) {inComplex : Bool}
    (hinside : 2 < path.segments.length → inComplex = true) : ¬ WellFormed inComplex fragment := by
  intro hformed
  cases h with
  | unknownType _ hnone =>
    obtain ⟨type, htype⟩ := hformed.exists_declaresType
    exact hnone type htype
  | characteristic htype hfault _ => exact hfault fragment rfl (hformed.wellDescribed htype)
  | unknownKeys htype hsome _ hkeys =>
    obtain ⟨key, hkey⟩ := List.exists_mem_of_ne_nil _ hsome
    obtain ⟨hthere, hunknown⟩ := (hkeys key).mp hkey
    exact hunknown ((hformed.wellDescribed htype).keys key hthere)
  | nested htype hbelow =>
    obtain ⟨houtside, -, -⟩ := (wellFormed_complex_iff htype).mp hformed
    rw [hinside hbelow] at houtside
    cases houtside
  | notAList htype hvalue hother =>
    obtain ⟨-, -, hsubs⟩ := (wellFormed_complex_iff htype).mp hformed
    rw [hvalue] at hsubs
    rcases hsubs with hnone | ⟨subs, hlist, -⟩
    · cases hnone
    · exact hother _ (Option.some.inj hlist)
  | notAFragment htype hlist hentry hother =>
    obtain ⟨-, -, hsubs⟩ := (wellFormed_complex_iff htype).mp hformed
    rw [hlist] at hsubs
    rcases hsubs with hnone | ⟨subs, hsame, -⟩
    · cases hnone
    · cases hsame
      obtain ⟨members, -, hobject⟩ := List.mem_map.mp hentry
      exact hother members hobject.symm

theorem shows_fragmentName (fragment : Json.Members) :
    Shows fragment "name" (fragmentName fragment) := by
  unfold fragmentName
  split
  · rename_i hname
    exact .value hname
  · rename_i hnone
    exact .absent hnone

/-- A property that may be left out is shown as it is if it does not read as it should. -/
theorem shows_of_invalid {α : Type} {read? : Json → Option α} {absent : α} {raw : Json}
    (h : Declared.optional read? absent (fragment.get? key) = .invalid raw) :
    Shows fragment key raw.rendered := by
  cases hvalue : fragment.get? key with
  | none =>
    rw [hvalue] at h
    cases h
  | some value =>
    rw [hvalue] at h
    obtain ⟨-, rfl⟩ := Declared.ofJson_eq_invalid.mp h
    exact .value hvalue

/-- The name in a path is the same whether the attribute is built or not. -/
theorem label_name_eq_fragmentName (fragment : Json.Members) :
    (Declared.mandatory Json.string? (fragment.get? "name")).label = fragmentName fragment := by
  unfold fragmentName
  cases fragment.get? "name" with
  | none => rfl
  | some value =>
    cases value with
    | _ => rfl

theorem nameLabel_eq_fragmentName {traits : Characteristics}
    (hname : traits.name = Declared.mandatory Json.string? (fragment.get? "name")) :
    traits.nameLabel = fragmentName fragment := by
  rw [Characteristics.nameLabel, hname, label_name_eq_fragmentName]

theorem AtFault.of_mayHave {p : Json → Prop}
    (hfield : ∀ other, WellDescribed type other → other.MayHave key p)
    (hnot : ¬ fragment.MayHave key p) : AtFault type fragment key := by
  intro other hsame hdescribed
  apply hnot
  intro value hvalue
  exact hfield other hdescribed value (hsame.trans hvalue)

theorem AtFault.of_has {p : Json → Prop}
    (hfield : ∀ other, WellDescribed type other → other.Has key p)
    (hnot : ¬ fragment.Has key p) : AtFault type fragment key := by
  intro other hsame hdescribed
  apply hnot
  obtain ⟨value, hvalue, hp⟩ := hfield other hdescribed
  exact ⟨value, hsame.symm.trans hvalue, hp⟩

/-! ### The checks of the characteristics -/

section Checks

variable {traits : Characteristics} (htype : DeclaresType fragment type)

include htype

/-- A property that does not read as it should is at fault. -/
theorem causes_of_mem_unlessValid {α : Type} {read? : Json → Option α} {absent : α}
    {expected : String} {p : Json → Prop}
    (hreads : (∃ value, Declared.optional read? absent (fragment.get? key) = .valid value) ↔
      fragment.MayHave key p)
    (hfield : ∀ other, WellDescribed type other → other.MayHave key p)
    (h : violation ∈ traits.unlessValid key expected
      (Declared.optional read? absent (fragment.get? key))) :
    Causes fragment traits.path violation := by
  cases hdeclared : Declared.optional read? absent (fragment.get? key) with
  | valid value =>
    rw [hdeclared] at h
    cases h
  | invalid raw =>
    have hnot : ¬ fragment.MayHave key p := by
      intro hmay
      obtain ⟨value, hvalid⟩ := hreads.mpr hmay
      rw [hdeclared] at hvalid
      cases hvalid
    rw [hdeclared, Characteristics.unlessValid, List.mem_singleton] at h
    rw [h]
    exact .characteristic htype (.of_mayHave hfield hnot) (shows_of_invalid hdeclared)

theorem causes_of_mem_nameViolations
    (hname : traits.name = Declared.mandatory Json.string? (fragment.get? "name"))
    (h : violation ∈ traits.nameViolations type) : Causes fragment traits.path violation := by
  have hnot : ¬ fragment.Has "name" fun value => ∃ name, value = .string name ∧
      (name.toList ∈ Name.attributeNames ∨ type = .reference ∧ name = "$ref") := by
    intro hhas
    have hvalid := (exists_name_iff ⟨.empty, false, false⟩).mpr hhas
    exact List.ne_nil_of_mem h (Characteristics.nameViolations_eq_nil.mpr (hname ▸ hvalid))
  unfold Characteristics.nameViolations at h
  split at h
  · cases h
  · rw [List.mem_singleton.mp h, nameLabel_eq_fragmentName hname]
    exact .characteristic htype (.of_has (fun _ hother => hother.characterized.name) hnot)
      (shows_fragmentName fragment)

theorem causes_of_mem_caseExactViolations
    (hcase : traits.caseExact = Declared.optional Json.bool? false (fragment.get? "caseExact"))
    (h : violation ∈ traits.caseExactViolations type) : Causes fragment traits.path violation := by
  have hnot : ¬ fragment.MayHave "caseExact" fun value => ∃ flag, value = .bool flag ∧
      (type ∈ [.binary, .boolean, .datetime, .decimal] → flag = false) := by
    intro hmay
    have hvalid := (exists_caseExact_iff ⟨.empty, false, false⟩).mpr hmay
    exact List.ne_nil_of_mem h (Characteristics.caseExactViolations_eq_nil.mpr (hcase ▸ hvalid))
  have hfault : AtFault type fragment "caseExact" :=
    .of_mayHave (fun _ hother => hother.characterized.caseExact) hnot
  unfold Characteristics.caseExactViolations at h
  dsimp only at h
  split at h
  · rename_i flag hflag
    split at h
    · cases h
    · obtain ⟨value, hvalue, -⟩ := Json.Members.exists_get?_of_not_mayHave hnot
      rw [hvalue] at hcase
      have hbool : value = .bool flag :=
        Json.bool?_eq_some.mp (Declared.ofJson_eq_valid.mp (hcase.symm.trans hflag))
      rw [List.mem_singleton.mp h]
      exact .characteristic htype hfault (.value (hbool ▸ hvalue))
  · rename_i raw hraw
    rw [List.mem_singleton.mp h]
    exact .characteristic htype hfault (shows_of_invalid (hcase.symm.trans hraw))

theorem causes_of_mem_uniquenessViolations
    (hunique : traits.uniqueness =
      Declared.optional Vocabulary.read? default (fragment.get? "uniqueness"))
    (h : violation ∈ traits.uniquenessViolations type) : Causes fragment traits.path violation := by
  have hnot : ¬ fragment.MayHave "uniqueness" fun value =>
      ∃ term : Uniqueness, Vocabulary.Spells term value ∧
        (type ∈ [.binary, .boolean, .datetime] → term = .none) := by
    intro hmay
    have hvalid := (exists_uniqueness_iff ⟨.empty, false, false⟩).mpr hmay
    exact List.ne_nil_of_mem h (Characteristics.uniquenessViolations_eq_nil.mpr (hunique ▸ hvalid))
  have hfault : AtFault type fragment "uniqueness" :=
    .of_mayHave (fun _ hother => hother.characterized.uniqueness) hnot
  unfold Characteristics.uniquenessViolations at h
  dsimp only at h
  split at h
  · rename_i term hterm
    split at h
    · cases h
    · obtain ⟨value, hvalue, -⟩ := Json.Members.exists_get?_of_not_mayHave hnot
      rw [hvalue] at hunique
      have hspells : Vocabulary.Spells term value :=
        Vocabulary.read?_eq_some.mp (Declared.ofJson_eq_valid.mp (hunique.symm.trans hterm))
      rw [List.mem_singleton.mp h]
      exact .characteristic htype hfault (.term hvalue hspells)
  · rename_i raw hraw
    rw [List.mem_singleton.mp h]
    exact .characteristic htype hfault (shows_of_invalid (hunique.symm.trans hraw))

theorem causes_of_mem_unknownPropertyViolations
    (hname : traits.name = Declared.mandatory Json.string? (fragment.get? "name"))
    (horder : traits.unknownProperties.Sublist fragment.keys)
    (hkeys : ∀ key, key ∈ traits.unknownProperties ↔ key ∈ fragment.keys ∧
      ¬ KnownKey type (fragment.get? "multiValued" = some (.bool true)) key)
    (h : violation ∈ traits.unknownPropertyViolations) : Causes fragment traits.path violation := by
  have hsome : traits.unknownProperties ≠ [] :=
    mt Characteristics.unknownPropertyViolations_eq_nil.mpr (List.ne_nil_of_mem h)
  unfold Characteristics.unknownPropertyViolations at h
  split at h
  · cases h
  · rw [List.mem_singleton.mp h, nameLabel_eq_fragmentName hname]
    exact .unknownKeys htype hsome horder hkeys

end Checks

end Fragment

/-! ### The outline of a fragment -/

namespace Outline

open Fragment

variable {site : Site} {fragment : Json.Members} {outline : Outline} {report : SchemaError}
  {violation : SchemaViolation}

theorem declaresType_of_ofFragment (h : Outline.ofFragment none site fragment = .ok outline) :
    DeclaresType fragment outline.type :=
  resolveType_eq_ok.mp (resolveType_of_ofFragment h)

/-- A fragment has no outline only because of its type. -/
theorem ofFragment_eq_error (h : Outline.ofFragment none site fragment = .error report) :
    ∃ violation, report = .leaf violation ∧
      Causes fragment (site.parent.child (fragmentName fragment)) violation := by
  have hnone : ∀ type, ¬ DeclaresType fragment type := by
    intro type htype
    obtain ⟨outline, hout⟩ := exists_outline htype site
    rw [hout.read] at h
    cases h
  unfold Outline.ofFragment resolveType at h
  rw [Option.map_none, Option.none_or] at h
  cases hdeclared : fragment.get? "type" with
  | none => exact absurd (Or.inl ⟨hdeclared, rfl⟩) (hnone .string)
  | some declared =>
    rw [hdeclared] at h
    dsimp only at h
    cases hknown : declared.string?.bind (Vocabulary.ofName? (α := AttributeType)) with
    | some type =>
      rw [hknown] at h
      dsimp only at h
      split at h <;> cases h
    | none =>
      rw [hknown] at h
      cases h
      exact ⟨_, rfl, .unknownType hdeclared hnone⟩

/-- Whether there are many values or one, the characteristics of an outline are what the fragment
declares; only its text and the keys that are unknown can differ. -/
theorem traits_eq (h : Outline.ofFragment none site fragment = .ok outline) :
    ∃ inMany, outline.traits =
      { Characteristics.ofFragment outline.type { site with inMultiValued := inMany } fragment with
        definition := outline.traits.definition
        unknownProperties := outline.traits.unknownProperties } := by
  rcases ofFragment_eq_ok h with ⟨-, -, -, htraits⟩ | ⟨-, -, htraits⟩
  · refine ⟨true, ?_⟩
    rw [htraits]
    simp (disch := decide) only [Characteristics.ofFragment, Json.Members.get?_without]
  · refine ⟨site.inMultiValued, ?_⟩
    rw [htraits]

theorem unknownProperties_sublist (h : Outline.ofFragment none site fragment = .ok outline) :
    outline.traits.unknownProperties.Sublist fragment.keys := by
  rcases ofFragment_eq_ok h with ⟨-, -, -, htraits⟩ | ⟨-, -, htraits⟩
  · rw [htraits, Characteristics.ofFragment, Json.Members.keys_without]
    exact List.filter_sublist.trans List.filter_sublist
  · rw [htraits]
    exact List.filter_sublist

theorem mem_unknownProperties (h : Outline.ofFragment none site fragment = .ok outline)
    (key : String) :
    key ∈ outline.traits.unknownProperties ↔ key ∈ fragment.keys ∧
      ¬ KnownKey outline.type (fragment.get? "multiValued" = some (.bool true)) key := by
  rw [knownKey_iff, ← declaresMany_iff]
  rcases ofFragment_eq_ok h with ⟨-, hmany, -, htraits⟩ | ⟨hone, -, htraits⟩
  · rw [htraits, Characteristics.ofFragment, List.mem_filter, Json.Members.mem_keys_without, hmany]
    simp only [Bool.not_eq_true', Bool.or_eq_false_iff, List.contains_eq_mem,
      decide_eq_false_iff_not, true_and]
    tauto
  · rw [htraits, Characteristics.ofFragment, List.mem_filter, hone rfl]
    simp

/-! ### What is wrong with a fragment itself -/

/-- Everything that is wrong with what an outline says, whatever the sub-attributes are. -/
def ownViolations (outline : Outline) : List SchemaViolation :=
  match outline.simpleForm? with
  | some form => form.violations outline.traits
  | none => outline.traits.complexViolations

theorem mem_ownViolations (h : violation ∈ outline.ownViolations) :
    violation ∈ outline.traits.violations outline.type ∨
    (outline.type = .reference ∧ violation ∈ outline.traits.unlessValid "referenceTypes"
      "none or a list of resource kinds" outline.referenceTypes) ∨
    (outline.type = .complex ∧ outline.traits.parentComplex = true ∧
      violation = .nestedComplex outline.traits.path) := by
  unfold ownViolations simpleForm? at h
  cases htype : outline.type with
  | reference =>
    rw [htype] at h
    rcases List.mem_append.mp h with hcommon | htypes
    · exact Or.inl hcommon
    · exact Or.inr (Or.inl ⟨rfl, htypes⟩)
  | complex =>
    rw [htype] at h
    rcases List.mem_append.mp h with hnested | hcommon
    · split at hnested
      · rename_i hinside
        exact Or.inr (Or.inr ⟨rfl, hinside, List.mem_singleton.mp hnested⟩)
      · cases hnested
    · exact Or.inl hcommon
  | _ =>
    rw [htype] at h
    simpa [SimpleForm.violations, SimpleForm.type] using h

theorem causes_of_mem_violations (h : Outline.ofFragment none site fragment = .ok outline)
    (hviolation : violation ∈ outline.traits.violations outline.type) :
    Causes fragment outline.traits.path violation := by
  have htype := declaresType_of_ofFragment h
  have horder := unknownProperties_sublist h
  have hkeys := mem_unknownProperties h
  -- seen as those of the fragment itself, the characteristics can be checked one by one
  obtain ⟨inMany, htraits⟩ := traits_eq h
  generalize outline.traits.definition = definition at htraits
  generalize outline.traits.unknownProperties = unknown at htraits horder hkeys
  rw [htraits] at hviolation ⊢
  simp only [Characteristics.violations, List.mem_append] at hviolation
  rcases hviolation with (((((((((hname | hrequired) | hcanonical) | hcase) | hmutability) |
    hreturned) | hunique) | hresolved) | hdescription) | hmany) | hunknown
  · exact causes_of_mem_nameViolations htype rfl hname
  · exact causes_of_mem_unlessValid htype exists_bool_iff
      (fun _ hother => hother.characterized.required) hrequired
  · exact causes_of_mem_unlessValid htype exists_strings_iff
      (fun _ hother => hother.characterized.canonicalValues) hcanonical
  · exact causes_of_mem_caseExactViolations htype rfl hcase
  · exact causes_of_mem_unlessValid htype exists_term_iff
      (fun _ hother => hother.characterized.mutability) hmutability
  · exact causes_of_mem_unlessValid htype exists_term_iff
      (fun _ hother => hother.characterized.returned) hreturned
  · exact causes_of_mem_uniquenessViolations htype rfl hunique
  · -- without a string for its type the fragment would have no outline
    have hnone := typeViolations_ofFragment { site with inMultiValued := inMany } htype
    exact absurd hnone (List.ne_nil_of_mem hresolved)
  · exact causes_of_mem_unlessValid htype exists_string_iff
      (fun _ hother => hother.characterized.description) hdescription
  · exact causes_of_mem_unlessValid htype exists_bool_iff
      (fun _ hother => hother.characterized.multiValued) hmany
  · exact causes_of_mem_unknownPropertyViolations htype rfl horder hkeys hunknown

/-- The path of an outline is that of its fragment. -/
theorem path_eq (h : Outline.ofFragment none site fragment = .ok outline) :
    outline.traits.path = site.parent.child (fragmentName fragment) := by
  obtain ⟨inMany, htraits⟩ := traits_eq h
  rw [htraits, ← label_name_eq_fragmentName]
  rfl

theorem causes_of_mem_ownViolations (h : Outline.ofFragment none site fragment = .ok outline)
    (hbelow : site.inComplex = true → 2 ≤ site.parent.segments.length)
    (hviolation : violation ∈ outline.ownViolations) :
    Causes fragment outline.traits.path violation := by
  have htype := declaresType_of_ofFragment h
  rcases mem_ownViolations hviolation with hcommon | ⟨hreference, htypes⟩ | ⟨hcomplex, hinside, rfl⟩
  · exact causes_of_mem_violations h hcommon
  · obtain ⟨other, hout⟩ := exists_outline htype site
    have hsame : other = outline := Except.ok.inj (hout.read.symm.trans h)
    rw [← hsame, hout.referenceTypes] at htypes
    rw [← hsame]
    exact causes_of_mem_unlessValid htype exists_strings_iff
      (fun _ hother => hother.referenceTypes hreference) htypes
  · rw [hcomplex] at htype
    refine .nested htype ?_
    have hlength := hbelow ((parentComplex_of_ofFragment h).symm.trans hinside)
    rw [path_eq h, Locator.segments_child, List.length_append, List.length_singleton]
    omega

end Outline

/-! ### The report on a fragment -/

namespace Outline

variable {outline : Outline} {bs : List Attempt} {report : SchemaError}

theorem simpleForm?_eq_none : outline.simpleForm? = none ↔ outline.type = .complex := by
  unfold simpleForm?
  cases outline.type with
  | _ => simp

theorem mem_of_raises_complex (h : Attempt.Raises (outline.complex bs) report) :
    ∃ reports, report = .group outline.traits.path.text reports ∧ ∀ below ∈ reports,
      (∃ violation ∈ outline.traits.complexViolations, below = .leaf violation) ∨
      ∃ b ∈ bs, b.Raises below := by
  by_cases hall : ∀ b ∈ bs, b.Succeeds
  · rw [outline.complex_built hall] at h
    rcases h with hfailed | ⟨a, hbuilt, hshape⟩
    · cases hfailed
    · cases hbuilt
      obtain ⟨-, rfl⟩ := gather_eq_error.mp hshape
      refine ⟨_, rfl, fun below hbelow => ?_⟩
      rcases List.mem_append.mp hbelow with hown | hsub
      · obtain ⟨violation, hviolation, rfl⟩ := List.mem_map.mp hown
        exact Or.inl ⟨violation, hviolation, rfl⟩
      · rw [Attribute.shapeReports_eq_flatMap] at hsub
        obtain ⟨sub, hsub, hfound⟩ := List.mem_flatMap.mp hsub
        obtain ⟨b, hb, hsome⟩ := List.mem_filterMap.mp hsub
        have hbuilt := Attempt.eq_ok_of_toOption hsome
        exact Or.inr ⟨b, hb, Or.inr ⟨sub, hbuilt, mem_found.mp hfound⟩⟩
  · rw [outline.complex_failed hall] at h
    rcases h with hfailed | ⟨a, hbuilt, -⟩
    · cases hfailed
      refine ⟨_, rfl, fun below hbelow => ?_⟩
      rcases List.mem_append.mp hbelow with hown | hsub
      · obtain ⟨violation, hviolation, rfl⟩ := List.mem_map.mp hown
        exact Or.inl ⟨violation, hviolation, rfl⟩
      · obtain ⟨b, hb, hfound⟩ := List.mem_flatMap.mp hsub
        exact Or.inr ⟨b, hb, Or.inl (mem_found.mp hfound)⟩
    · cases hbuilt

/-- Whatever is reported on a fragment with an outline is a group at its path, with what is wrong
with the fragment itself and, if it is complex, what its sub-attributes raise. -/
theorem group_of_raises (h : Attempt.Raises (outline.attribute? bs) report) :
    ∃ reports, report = .group outline.traits.path.text reports ∧ ∀ below ∈ reports,
      (∃ violation ∈ outline.ownViolations, below = .leaf violation) ∨
      (outline.type = .complex ∧ ∃ b ∈ bs, b.Raises below) := by
  unfold Outline.attribute? at h
  unfold ownViolations
  cases hform : outline.simpleForm? with
  | some form =>
    rw [hform] at h
    rcases h with hfailed | ⟨a, hbuilt, hshape⟩
    · cases hfailed
    · cases hbuilt
      obtain ⟨-, rfl⟩ := gather_eq_error.mp hshape
      refine ⟨_, rfl, fun below hbelow => ?_⟩
      obtain ⟨violation, hviolation, rfl⟩ := List.mem_map.mp hbelow
      exact Or.inl ⟨violation, hviolation, rfl⟩
  | none =>
    rw [hform] at h
    obtain ⟨reports, rfl, hreports⟩ := mem_of_raises_complex h
    refine ⟨reports, rfl, fun below hbelow => ?_⟩
    exact (hreports below hbelow).imp_right fun hsub => ⟨simpleForm?_eq_none.mp hform, hsub⟩

end Outline

end IdentitySchema
