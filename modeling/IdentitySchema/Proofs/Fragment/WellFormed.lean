/-
  IdentitySchema/Proofs/Fragment/WellFormed.lean
  ==============================================
  **Which fragments describe an attribute.**  Whether a fragment is accepted
  is decided in two passes, over properties that are read, filtered and
  checked in different places.  `Fragment.WellFormed` says what the outcome
  comes to, in terms of the fragment alone, and `Fragment.accepted_iff` that
  this is what both passes together decide.

  The conditions on a fragment come in three kinds:
    * its characteristics, each of which can be judged by itself
      (`Characterized`);
    * its keys, which depend on the type and on whether the attribute takes
      many values (`KnownKey`);
    * the fragments of its sub-attributes, if it is complex, which must be well
      formed in turn.
  A fragment of many values is read without the keys that describe the parts of
  each value; none of these is the key of a characteristic, so the reading of
  the characteristics is not affected.
-/
import IdentitySchema.Proofs.Fragment.Reports
import IdentitySchema.Proofs.Names
import IdentitySchema.Proofs.Readers
import Mathlib.Tactic.MkIffOfInductiveProp

namespace IdentitySchema

/-! ### Well-formed fragments -/

namespace Fragment

/-- A fragment that leaves out its type is one of a string. -/
def DeclaresType (fragment : Json.Members) (type : AttributeType) : Prop :=
  (fragment.get? "type" = none ∧ type = .string) ∨
    fragment.get? "type" = some (.string type.name)

/-- The characteristics of a fragment of a given type, apart from the type. -/
@[mk_iff] structure Characterized (type : AttributeType) (fragment : Json.Members) : Prop where
  name : fragment.Has "name" fun value => ∃ name, value = .string name ∧
    (name.toList ∈ Name.attributeNames ∨ type = .reference ∧ name = "$ref")
  required : fragment.MayHave "required" Json.IsBool
  canonicalValues : fragment.MayHave "canonicalValues" fun value =>
    value = .null ∨ value.IsStrings
  caseExact : fragment.MayHave "caseExact" fun value => ∃ flag, value = .bool flag ∧
    (type ∈ [.binary, .boolean, .datetime, .decimal] → flag = false)
  mutability : fragment.MayHave "mutability" fun value =>
    ∃ term : Mutability, Vocabulary.Spells term value
  returned : fragment.MayHave "returned" fun value =>
    ∃ term : Returned, Vocabulary.Spells term value
  uniqueness : fragment.MayHave "uniqueness" fun value =>
    ∃ term : Uniqueness, Vocabulary.Spells term value ∧
      (type ∈ [.binary, .boolean, .datetime] → term = .none)
  description : fragment.MayHave "description" fun value => value = .null ∨ value.IsString
  multiValued : fragment.MayHave "multiValued" Json.IsBool

/-- The keys of a fragment of a given type; `many` if it declares many values. -/
def KnownKey (type : AttributeType) (many : Prop) (key : String) : Prop :=
  key ∈ ["name", "id", "type", "description", "required", "canonicalValues", "caseExact",
      "mutability", "returned", "uniqueness", "multiValued"] ∨
    (type = .reference ∧ key = "referenceTypes") ∨
    (type = .complex ∧ key = "subAttributes") ∨
    (many ∧ key ∈ ["primary", "display", "value", "ref"])

/-- Everything about a fragment apart from its sub-attributes. -/
structure WellDescribed (type : AttributeType) (fragment : Json.Members) : Prop where
  declaresType : DeclaresType fragment type
  characterized : Characterized type fragment
  referenceTypes : type = .reference → fragment.MayHave "referenceTypes" fun value =>
    value = .null ∨ value.IsStrings
  keys : ∀ key ∈ fragment.keys,
    KnownKey type (fragment.get? "multiValued" = some (.bool true)) key

/-- The fragments that describe an attribute; `inComplex` if it belongs to a complex one. -/
inductive WellFormed : (inComplex : Bool) → Json.Members → Prop
  | simple {inComplex : Bool} {fragment : Json.Members} (type : AttributeType)
      (hdescribed : WellDescribed type fragment) (hsimple : type ≠ .complex) :
      WellFormed inComplex fragment
  | childless {fragment : Json.Members} (hdescribed : WellDescribed .complex fragment)
      (hnone : fragment.get? "subAttributes" = none) : WellFormed false fragment
  | complex {fragment : Json.Members} (hdescribed : WellDescribed .complex fragment)
      {subs : List Json.Members}
      (hlist : fragment.get? "subAttributes" = some (.array (subs.map .object)))
      (hsubs : ∀ sub ∈ subs, WellFormed true sub) : WellFormed false fragment

end Fragment

/-! ### When a check of the characteristics finds nothing -/

namespace Characteristics

variable {type : AttributeType} {traits : Characteristics}

theorem unlessValid_eq_nil {α : Type} {characteristic expected : String} {d : Declared α} :
    traits.unlessValid characteristic expected d = [] ↔ ∃ value, d = .valid value := by
  cases d with
  | valid value => simp [unlessValid]
  | invalid raw => simp [unlessValid]

theorem hasName_iff :
    traits.hasName type = true ↔ ∃ name, traits.name = .valid name ∧
      (name.toList ∈ Name.attributeNames ∨ type = .reference ∧ name = "$ref") := by
  unfold hasName name?
  cases traits.name with
  | valid name => simp [Declared.valid?, Name.isAttributeName_iff]
  | invalid raw => simp [Declared.valid?]

theorem nameViolations_eq_nil :
    traits.nameViolations type = [] ↔ ∃ name, traits.name = .valid name ∧
      (name.toList ∈ Name.attributeNames ∨ type = .reference ∧ name = "$ref") := by
  rw [← hasName_iff, nameViolations]
  by_cases hname : traits.hasName type = true
  · simp [hname]
  · simp [hname]

theorem caseExactViolations_eq_nil :
    traits.caseExactViolations type = [] ↔ ∃ flag, traits.caseExact = .valid flag ∧
      (type ∈ [.binary, .boolean, .datetime, .decimal] → flag = false) := by
  unfold caseExactViolations
  cases traits.caseExact with
  | valid flag => cases type <;> cases flag <;> simp [AttributeType.acceptedCaseExact]
  | invalid raw => simp

theorem uniquenessViolations_eq_nil :
    traits.uniquenessViolations type = [] ↔ ∃ term, traits.uniqueness = .valid term ∧
      (type ∈ [.binary, .boolean, .datetime] → term = .none) := by
  unfold uniquenessViolations
  cases traits.uniqueness with
  | valid term =>
    cases type <;> cases term <;> simp [AttributeType.acceptedUniqueness, Vocabulary.all]
  | invalid raw => simp

theorem typeViolations_eq_nil :
    traits.typeViolations = [] ↔ ∃ text, traits.type = .valid text := by
  unfold typeViolations
  cases traits.type with
  | valid text => simp
  | invalid raw => simp

theorem unknownPropertyViolations_eq_nil :
    traits.unknownPropertyViolations = [] ↔ traits.unknownProperties = [] := by
  unfold unknownPropertyViolations
  cases traits.unknownProperties with
  | nil => simp
  | cons key rest => simp

end Characteristics

/-! ### The characteristics of a fragment -/

namespace Fragment

open Characteristics

variable {type : AttributeType} {fragment : Json.Members}

section Readings

variable (site : Site)

theorem exists_name_iff :
    (∃ name, (ofFragment type site fragment).name = .valid name ∧
      (name.toList ∈ Name.attributeNames ∨ type = .reference ∧ name = "$ref")) ↔
    fragment.Has "name" fun value => ∃ name, value = .string name ∧
      (name.toList ∈ Name.attributeNames ∨ type = .reference ∧ name = "$ref") := by
  constructor
  · rintro ⟨name, hvalid, hname⟩
    obtain ⟨value, hvalue, hstring⟩ := Declared.mandatory_eq_valid.mp hvalid
    exact ⟨value, hvalue, name, Json.string?_eq_some.mp hstring, hname⟩
  · rintro ⟨value, hvalue, name, hstring, hname⟩
    exact ⟨name,
      Declared.mandatory_eq_valid.mpr ⟨value, hvalue, Json.string?_eq_some.mpr hstring⟩, hname⟩

theorem exists_bool_iff {key : String} :
    (∃ flag, Declared.optional Json.bool? false (fragment.get? key) = .valid flag) ↔
      fragment.MayHave key Json.IsBool :=
  Declared.exists_optional_eq_valid.trans
    (Json.Members.mayHave_congr fun _ => exists_congr fun _ => Json.bool?_eq_some)

theorem exists_strings_iff {key : String} :
    (∃ texts?, Declared.optional (Json.orNull? Json.strings?) none (fragment.get? key) =
      .valid texts?) ↔
    fragment.MayHave key fun value => value = .null ∨ value.IsStrings := by
  refine Declared.exists_optional_eq_valid.trans (Json.Members.mayHave_congr fun value => ?_)
  rw [Json.exists_orNull?_eq_some rfl]
  exact or_congr_right (exists_congr fun _ => Json.strings?_eq_some)

theorem exists_string_iff {key : String} :
    (∃ text?, Declared.optional (Json.orNull? Json.string?) none (fragment.get? key) =
      .valid text?) ↔
    fragment.MayHave key fun value => value = .null ∨ value.IsString := by
  have h := @Declared.exists_text_and_iff (fun _ => True) fragment key trivial
  simp only [and_true] at h
  exact h

theorem exists_term_iff {α : Type} [Vocabulary α] [Vocabulary.Lawful α] {absent : α}
    {key : String} :
    (∃ term, Declared.optional Vocabulary.read? absent (fragment.get? key) = .valid term) ↔
      fragment.MayHave key fun value => ∃ term : α, Vocabulary.Spells term value :=
  Declared.exists_optional_eq_valid.trans
    (Json.Members.mayHave_congr fun _ => exists_congr fun _ => Vocabulary.read?_eq_some)

theorem exists_caseExact_iff :
    (∃ flag, (ofFragment type site fragment).caseExact = .valid flag ∧
      (type ∈ [.binary, .boolean, .datetime, .decimal] → flag = false)) ↔
    fragment.MayHave "caseExact" fun value => ∃ flag, value = .bool flag ∧
      (type ∈ [.binary, .boolean, .datetime, .decimal] → flag = false) := by
  refine (Declared.exists_optional_eq_valid_and fun _ => rfl).trans
    (Json.Members.mayHave_congr fun value => exists_congr fun flag => ?_)
  rw [Json.bool?_eq_some]

theorem exists_uniqueness_iff :
    (∃ term, (ofFragment type site fragment).uniqueness = .valid term ∧
      (type ∈ [.binary, .boolean, .datetime] → term = .none)) ↔
    fragment.MayHave "uniqueness" fun value => ∃ term : Uniqueness, Vocabulary.Spells term value ∧
      (type ∈ [.binary, .boolean, .datetime] → term = .none) := by
  refine (Declared.exists_optional_eq_valid_and fun _ => rfl).trans
    (Json.Members.mayHave_congr fun value => exists_congr fun term => ?_)
  rw [Vocabulary.read?_eq_some]

theorem unknownProperties_eq_nil :
    (ofFragment type site fragment).unknownProperties = [] ↔
      ∀ key ∈ fragment.keys, key ∈ commonProperties ∨ key ∈ type.ownProperties := by
  have hfilter : (ofFragment type site fragment).unknownProperties =
      fragment.keys.filter fun key =>
        !(commonProperties.contains key || type.ownProperties.contains key) := rfl
  rw [hfilter, List.filter_eq_nil_iff]
  refine forall₂_congr fun key _ => ?_
  simp [or_iff_not_imp_left]

/-- The type of a fragment is a string once it is a type. -/
theorem typeViolations_ofFragment (htype : DeclaresType fragment type) :
    (ofFragment type site fragment).typeViolations = [] := by
  rw [typeViolations_eq_nil]
  refine Declared.exists_optional_eq_valid.mpr fun value hvalue => ?_
  rcases htype with ⟨hnone, -⟩ | hsome
  · rw [hnone] at hvalue
    cases hvalue
  · rw [hsome] at hvalue
    cases hvalue
    exact ⟨type.name, rfl⟩

/-- The check of the characteristics finds nothing. -/
theorem violations_ofFragment_eq_nil (htype : DeclaresType fragment type) :
    (ofFragment type site fragment).violations type = [] ↔
      Characterized type fragment ∧
        ∀ key ∈ fragment.keys, key ∈ commonProperties ∨ key ∈ type.ownProperties := by
  let traits := ofFragment type site fragment
  have hrequired : (∃ flag, traits.required = .valid flag) ↔
      fragment.MayHave "required" Json.IsBool := exists_bool_iff
  have hcanonical : (∃ texts?, traits.canonicalValues = .valid texts?) ↔
      fragment.MayHave "canonicalValues" fun value => value = .null ∨ value.IsStrings :=
    exists_strings_iff
  have hmutability : (∃ term, traits.mutability = .valid term) ↔
      fragment.MayHave "mutability" fun value =>
        ∃ term : Mutability, Vocabulary.Spells term value := exists_term_iff
  have hreturned : (∃ term, traits.returned = .valid term) ↔
      fragment.MayHave "returned" fun value =>
        ∃ term : Returned, Vocabulary.Spells term value := exists_term_iff
  have hdescription : (∃ text?, traits.description = .valid text?) ↔
      fragment.MayHave "description" fun value => value = .null ∨ value.IsString :=
    exists_string_iff
  have hmultiValued : (∃ flag, traits.multiValued = .valid flag) ↔
      fragment.MayHave "multiValued" Json.IsBool := exists_bool_iff
  change traits.violations type = [] ↔ _
  simp only [violations, List.append_eq_nil_iff, unlessValid_eq_nil, nameViolations_eq_nil,
    caseExactViolations_eq_nil, uniquenessViolations_eq_nil, unknownPropertyViolations_eq_nil,
    hrequired, hcanonical, hmutability, hreturned, hdescription, hmultiValued]
  simp only [traits, exists_name_iff, exists_caseExact_iff, exists_uniqueness_iff,
    typeViolations_ofFragment site htype, unknownProperties_eq_nil, characterized_iff, and_true,
    and_assoc]

end Readings

/-! ### Keys -/

theorem mem_ownProperties {key : String} :
    key ∈ type.ownProperties ↔
      (type = .reference ∧ key = "referenceTypes") ∨ (type = .complex ∧ key = "subAttributes") := by
  cases type with
  | reference => simp [AttributeType.ownProperties]
  | complex => simp [AttributeType.ownProperties]
  | _ => simp [AttributeType.ownProperties]

theorem knownKey_iff {many : Prop} {key : String} :
    KnownKey type many key ↔
      key ∈ commonProperties ∨ key ∈ type.ownProperties ∨ (many ∧ key ∈ companionProperties) := by
  rw [mem_ownProperties, or_assoc]
  rfl

theorem declaresMany_iff :
    declaresMany fragment = true ↔ fragment.get? "multiValued" = some (.bool true) := by
  unfold declaresMany
  split
  · rename_i flag hflag
    simp [hflag]
  · rename_i hnone
    constructor
    · intro h
      cases h
    · intro h
      exact absurd h (hnone true)

/-- The keys of a fragment of many values are held to the common ones after those that describe
the parts of each value are set aside. -/
theorem forall_knownKey_iff_of_many (hmany : declaresMany fragment = true) :
    (∀ key ∈ fragment.keys, KnownKey type (fragment.get? "multiValued" = some (.bool true)) key) ↔
      ∀ key ∈ (fragment.without companionProperties).keys,
        key ∈ commonProperties ∨ key ∈ type.ownProperties := by
  simp only [Json.Members.mem_keys_without, knownKey_iff, declaresMany_iff.mp hmany, true_and]
  constructor
  · rintro h key ⟨hkey, hother⟩
    rcases h key hkey with hcommon | hown | hcompanion
    · exact Or.inl hcommon
    · exact Or.inr hown
    · exact absurd hcompanion hother
  · intro h key hkey
    by_cases hcompanion : key ∈ companionProperties
    · exact Or.inr (Or.inr hcompanion)
    · rcases h key ⟨hkey, hcompanion⟩ with hcommon | hown
      · exact Or.inl hcommon
      · exact Or.inr (Or.inl hown)

theorem forall_knownKey_iff_of_one (hone : ¬ declaresMany fragment = true) :
    (∀ key ∈ fragment.keys, KnownKey type (fragment.get? "multiValued" = some (.bool true)) key) ↔
      ∀ key ∈ fragment.keys, key ∈ commonProperties ∨ key ∈ type.ownProperties := by
  simp only [knownKey_iff, mt declaresMany_iff.mpr hone, false_and, or_false]

/-- What the outline of a fragment of a given type says. -/
structure Outlines (type : AttributeType) (site : Site) (fragment : Json.Members)
    (outline : Outline) : Prop where
  read : Outline.ofFragment none site fragment = .ok outline
  sameType : outline.type = type
  parentComplex : outline.traits.parentComplex = site.inComplex
  referenceTypes : outline.referenceTypes =
    Declared.optional (Json.orNull? Json.strings?) none (fragment.get? "referenceTypes")
  violations : outline.traits.violations type = [] ↔
    Characterized type fragment ∧
      ∀ key ∈ fragment.keys, KnownKey type (fragment.get? "multiValued" = some (.bool true)) key

theorem characterized_without :
    Characterized type (fragment.without companionProperties) ↔ Characterized type fragment := by
  simp (disch := decide) only [characterized_iff, Json.Members.has_without,
    Json.Members.mayHave_without]

theorem declaresType_without :
    DeclaresType (fragment.without companionProperties) type ↔ DeclaresType fragment type := by
  unfold DeclaresType
  rw [Json.Members.get?_without (by decide)]

theorem resolveType_eq_ok {parent : Locator} :
    resolveType none parent fragment = .ok type ↔ DeclaresType fragment type := by
  unfold resolveType DeclaresType
  rw [Option.map_none, Option.none_or]
  cases fragment.get? "type" with
  | none => simp [default, eq_comm]
  | some declared =>
    cases declared with
    | string text =>
      have hname : Vocabulary.ofName? text = some type ↔ text = type.name :=
        Vocabulary.ofName?_eq_some
      simp only [Json.string?, Option.bind_some, reduceCtorEq, false_and, false_or,
        Option.some.injEq, Json.string.injEq]
      rw [← hname]
      cases (Vocabulary.ofName? text : Option AttributeType) with
      | none => simp
      | some other => simp
    | _ => simp [Json.string?]

theorem exists_outline (htype : DeclaresType fragment type) (site : Site) :
    ∃ outline, Outlines type site fragment outline := by
  have hresolve : resolveType none site.parent fragment = .ok type := resolveType_eq_ok.mpr htype
  by_cases hmany : declaresMany fragment = true
  · have hread : Outline.ofFragment none site fragment = .ok
        ⟨type, .many (.ofFragment fragment),
          .ofFragment type { site with inMultiValued := true }
            (fragment.without companionProperties),
          .optional (Json.orNull? Json.strings?) none (fragment.get? "referenceTypes")⟩ := by
      rw [Outline.ofFragment, hresolve]
      simp only [hmany, Option.isNone_none, Bool.and_self, if_true]
    refine ⟨_, hread, rfl, rfl, rfl, ?_⟩
    rw [violations_ofFragment_eq_nil _ (declaresType_without.mpr htype), characterized_without,
      forall_knownKey_iff_of_many hmany]
  · have hread : Outline.ofFragment none site fragment = .ok
        ⟨type, .one, .ofFragment type site fragment,
          .optional (Json.orNull? Json.strings?) none (fragment.get? "referenceTypes")⟩ := by
      rw [Outline.ofFragment, hresolve]
      simp only [hmany, Option.isNone_none, Bool.and_false, Bool.false_eq_true, if_false]
    refine ⟨_, hread, rfl, rfl, rfl, ?_⟩
    rw [violations_ofFragment_eq_nil site htype, forall_knownKey_iff_of_one hmany]

/-! ### Acceptance -/

theorem DeclaresType.unique {other : AttributeType} (h : DeclaresType fragment type)
    (hother : DeclaresType fragment other) : type = other := by
  have hresolve := (@resolveType_eq_ok type fragment (.root "")).mpr h
  rw [resolveType_eq_ok.mpr hother] at hresolve
  exact (Except.ok.inj hresolve).symm

theorem WellFormed.exists_declaresType {inComplex : Bool} (h : WellFormed inComplex fragment) :
    ∃ type, DeclaresType fragment type := by
  cases h with
  | simple type hdescribed _ => exact ⟨type, hdescribed.declaresType⟩
  | childless hdescribed _ => exact ⟨.complex, hdescribed.declaresType⟩
  | complex hdescribed _ _ => exact ⟨.complex, hdescribed.declaresType⟩

theorem WellFormed.wellDescribed {inComplex : Bool} (h : WellFormed inComplex fragment)
    (htype : DeclaresType fragment type) : WellDescribed type fragment := by
  cases h with
  | simple other hdescribed _ =>
    rw [htype.unique hdescribed.declaresType]
    exact hdescribed
  | childless hdescribed _ =>
    rw [htype.unique hdescribed.declaresType]
    exact hdescribed
  | complex hdescribed _ _ =>
    rw [htype.unique hdescribed.declaresType]
    exact hdescribed

theorem wellFormed_simple_iff {inComplex : Bool} (htype : DeclaresType fragment type)
    (hsimple : type ≠ .complex) :
    WellFormed inComplex fragment ↔ WellDescribed type fragment := by
  constructor
  · intro h
    exact h.wellDescribed htype
  · intro h
    exact .simple type h hsimple

theorem wellFormed_complex_iff {inComplex : Bool} (htype : DeclaresType fragment .complex) :
    WellFormed inComplex fragment ↔
      inComplex = false ∧ WellDescribed .complex fragment ∧
        (fragment.get? "subAttributes" = none ∨ ∃ subs : List Json.Members,
          fragment.get? "subAttributes" = some (.array (subs.map .object)) ∧
            ∀ sub ∈ subs, WellFormed true sub) := by
  constructor
  · intro h
    cases h with
    | simple other hdescribed hsimple =>
      exact absurd (hdescribed.declaresType.unique htype) hsimple
    | childless hdescribed hnone => exact ⟨rfl, hdescribed, Or.inl hnone⟩
    | complex hdescribed hlist hsubs => exact ⟨rfl, hdescribed, Or.inr ⟨_, hlist, hsubs⟩⟩
  · rintro ⟨rfl, hdescribed, hnone | ⟨subs, hlist, hsubs⟩⟩
    · exact .childless hdescribed hnone
    · exact .complex hdescribed hlist hsubs

namespace Outlines

variable {site : Site} {outline : Outline}

theorem wellDescribed_iff (hout : Outlines type site fragment outline)
    (htype : DeclaresType fragment type) :
    WellDescribed type fragment ↔
      outline.traits.violations type = [] ∧
        (type = .reference → ∃ types, outline.referenceTypes = .valid types) := by
  rw [hout.violations, hout.referenceTypes, exists_strings_iff]
  constructor
  · intro h
    exact ⟨⟨h.characterized, h.keys⟩, h.referenceTypes⟩
  · rintro ⟨⟨hcharacterized, hkeys⟩, hreference⟩
    exact ⟨htype, hcharacterized, hreference, hkeys⟩

theorem accepted_simple_iff (hout : Outlines type site fragment outline)
    (hsimple : type ≠ .complex) (bs : List Attempt) :
    Attempt.Accepted (outline.attribute? bs) ↔
      outline.traits.violations type = [] ∧
        (type = .reference → ∃ types, outline.referenceTypes = .valid types) := by
  unfold Outline.attribute? Outline.simpleForm?
  rw [hout.sameType]
  cases type with
  | complex => exact absurd rfl hsimple
  | reference =>
    simp [Attribute.checkShape_eq_ok_iff, Attribute.listed_checkShape_simple,
      SimpleForm.violations, SimpleForm.type, unlessValid_eq_nil]
  | _ =>
    simp [Attribute.checkShape_eq_ok_iff, Attribute.listed_checkShape_simple,
      SimpleForm.violations, SimpleForm.type]

theorem attribute?_complex (hout : Outlines .complex site fragment outline) (bs : List Attempt) :
    outline.attribute? bs = outline.complex bs := by
  unfold Outline.attribute? Outline.simpleForm?
  rw [hout.sameType]

end Outlines

theorem complexViolations_eq_nil {traits : Characteristics} :
    traits.complexViolations = [] ↔
      traits.parentComplex = false ∧ traits.violations .complex = [] := by
  unfold complexViolations
  cases traits.parentComplex with
  | false => simp
  | true => simp

theorem accepted_entry_iff {refuse : Json → SchemaError} {site : Site} {entry : Json} :
    Attempt.Accepted (Attribute.ofEntry refuse none site entry) ↔
      ∃ sub, entry = .object sub ∧ Attempt.Accepted (Attribute.ofFragment sub site none) := by
  cases entry with
  | object sub => simp [Attribute.ofEntry_object]
  | _ => simp [Attribute.ofEntry]

theorem accepted_members_iff {outline : Outline} :
    (∀ b ∈ Attribute.ofMembers outline fragment, Attempt.Accepted b) ↔
      fragment.get? "subAttributes" = none ∨ ∃ subs : List Json.Members,
        fragment.get? "subAttributes" = some (.array (subs.map .object)) ∧
          ∀ sub ∈ subs, Attempt.Accepted (Attribute.ofFragment sub outline.innerSite none) := by
  rw [Attribute.ofMembers_eq_match]
  cases fragment.get? "subAttributes" with
  | none => simp
  | some value =>
    cases value with
    | array entries =>
      simp only [Attribute.ofList, Attribute.ofEntries_eq_map, List.forall_mem_map,
        accepted_entry_iff, Json.forall_mem_object_iff]
      simp
    | _ => simp [Attribute.ofList]

/-- **Acceptance of fragments.** A fragment is built into an attribute in good shape exactly when it
is well formed. -/
theorem accepted_iff (fragment : Json.Members) :
    ∀ site : Site, Attempt.Accepted (Attribute.ofFragment fragment site none) ↔
      WellFormed site.inComplex fragment := by
  induction fragment using Json.Members.fragmentInduction with
  | step fragment ih =>
    intro site
    -- without a type there is no attribute; the type tells whether sub-attributes count
    by_cases htype : ∃ type, DeclaresType fragment type
    · obtain ⟨type, htype⟩ := htype
      obtain ⟨outline, hout⟩ := exists_outline htype site
      rw [Attribute.ofFragment, hout.read]
      dsimp only
      by_cases hcomplex : type = .complex
      · subst hcomplex
        have hsubs : (fragment.get? "subAttributes" = none ∨ ∃ subs : List Json.Members,
            fragment.get? "subAttributes" = some (.array (subs.map .object)) ∧ ∀ sub ∈ subs,
              Attempt.Accepted (Attribute.ofFragment sub outline.innerSite none)) ↔
            (fragment.get? "subAttributes" = none ∨ ∃ subs : List Json.Members,
              fragment.get? "subAttributes" = some (.array (subs.map .object)) ∧
                ∀ sub ∈ subs, WellFormed true sub) := by
          refine or_congr_right (exists_congr fun subs => and_congr_right fun hlist => ?_)
          refine forall₂_congr fun sub hsub => ?_
          exact ih _ hlist sub (List.mem_map_of_mem hsub) outline.innerSite
        rw [hout.attribute?_complex, outline.accepted_complex_iff, complexViolations_eq_nil,
          hout.parentComplex, accepted_members_iff, hsubs, wellFormed_complex_iff htype,
          hout.wellDescribed_iff htype]
        simp only [reduceCtorEq, false_implies, and_true, and_assoc]
      · rw [wellFormed_simple_iff htype hcomplex, hout.accepted_simple_iff hcomplex,
          hout.wellDescribed_iff htype]
    · constructor
      · rintro ⟨a, hbuilt, -⟩
        unfold Attribute.ofFragment Outline.ofFragment at hbuilt
        cases hresolve : resolveType none site.parent fragment with
        | ok type => exact absurd ⟨type, resolveType_eq_ok.mp hresolve⟩ htype
        | error report =>
          rw [hresolve] at hbuilt
          cases hbuilt
      · intro h
        exact absurd h.exists_declaresType htype

end Fragment

end IdentitySchema
