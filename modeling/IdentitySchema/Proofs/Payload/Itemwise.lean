/-
  IdentitySchema/Proofs/Payload/Itemwise.lean
  ===========================================
  **Lists are checked item by item.**  An attribute of many values holds each
  item of a list against itself as the attribute of one value would, and puts
  what is found in the items one after the other.  So a fragment that becomes
  one of many values (`Fragment.Lifts`) describes the lists of the values that
  it described before (`Attribute.many_lifts_single`).

  Only what a violation quotes of the attribute itself differs, that it takes
  many values and its definition (`PayloadViolation.ofMany`).  Sub-attributes
  are quoted as before, and none stands at the path of the attribute
  (`Attribute.Linked.path?_ne_of_mem_listed_lookUp`).
-/
import IdentitySchema.Proofs.Fragment.Lifted
import IdentitySchema.Proofs.Payload.Bags

namespace IdentitySchema

open Report

/-! ### What a violation quotes -/

namespace PayloadViolation

/-- The violation with other things to say about its attribute. -/
def quoting (multiValued : Bool) (definition : Json) : PayloadViolation → PayloadViolation
  | .valueNotFound name path _ found => .valueNotFound name path multiValued found
  | .invalidType path value _ expected reference _ =>
    .invalidType path value multiValued expected reference definition
  | other => other

/-- The violation, if it is about the attribute at `path`, as that of one that takes many values and
has the definition. -/
def ofMany (path : Locator) (definition : Json) (violation : PayloadViolation) : PayloadViolation :=
  if violation.path? = some path then violation.quoting true definition else violation

theorem ofMany_of_path {path : Locator} {violation : PayloadViolation}
    (h : violation.path? = some path) (definition : Json) :
    violation.ofMany path definition = violation.quoting true definition := if_pos h

theorem ofMany_of_ne {path : Locator} {violation : PayloadViolation}
    (h : violation.path? ≠ some path) (definition : Json) :
    violation.ofMany path definition = violation := if_neg h

end PayloadViolation

namespace Attribute

variable {single many : Json.Members} {site : Site}

/-! ### Attributes among many values -/

theorem reportsIn_enclosed {attributes : List Attribute} {payload : Json}
    (h : ∀ a ∈ attributes, a.enclosed.check payload = a.check payload) :
    reportsIn (attributes.map enclosed) payload = reportsIn attributes payload := by
  rw [reportsIn_eq_flatMap, reportsIn_eq_flatMap, List.flatMap_map]
  apply List.flatMap_congr
  intro a ha
  rw [h a ha]

theorem checkOne_enclosed (a : Attribute)
    (h : ∀ sub ∈ a.subAttributes, ∀ payload, sub.enclosed.check payload = sub.check payload) :
    a.enclosed.checkOne = a.checkOne := by
  funext value
  cases a with
  | simple traits cardinality form => cases form <;> rfl
  | complex traits cardinality subAttributes =>
    have hreports : reportsIn (subAttributes.map enclosed) value = reportsIn subAttributes value :=
      reportsIn_enclosed fun sub hsub => h sub hsub value
    rw [enclosed_complex, checkOne, checkOne, hreports]
    rfl

theorem checkIn_enclosed (a : Attribute) : a.enclosed.checkIn = a.checkIn := by
  cases a <;> rfl

/-- No check depends on whether the attribute belongs to the values of one that takes many. -/
theorem check_enclosed (a : Attribute) :
    ∀ payload, a.enclosed.check payload = a.check payload := by
  induction a with
  | simple traits cardinality form =>
    intro payload
    rw [check, check, checkIn_enclosed, checkOne_enclosed _ (List.forall_mem_nil _)]
  | complex traits cardinality subAttributes ih =>
    intro payload
    rw [check, check, checkIn_enclosed, checkOne_enclosed (.complex traits cardinality _) ih]

/-! ### One item -/

/-- A value that an attribute does not take is reported alike, up to what is quoted. -/
theorem mismatch_lifted (traits : Characteristics) (value : Json) (expected reference : String) :
    ((traits.lifted many).mismatch value expected reference).violations =
      (traits.mismatch value expected reference).violations.map
        (.ofMany traits.path (.object (many.without companionProperties))) := by
  unfold Characteristics.mismatch
  rw [violations_leaf, violations_leaf, List.map_singleton, PayloadViolation.ofMany_of_path rfl]
  rfl

theorem listed_check_lifted (form : SimpleForm) (traits : Characteristics) (value : Json) :
    listed (form.check (traits.lifted many) value) =
      (listed (form.check traits value)).map
        (.ofMany traits.path (.object (many.without companionProperties))) := by
  have htakes : form.takes (traits.lifted many) value = form.takes traits value := by
    cases form <;> rfl
  have hwants : form.wants (traits.lifted many) value = form.wants traits value := by
    cases form <;> rfl
  rw [form.check_eq_expect, form.check_eq_expect, htakes, hwants]
  unfold Characteristics.expect
  split
  · rfl
  · exact mismatch_lifted traits value _ _

/-- Nothing that is found in the sub-attributes quotes the attribute itself. -/
theorem map_ofMany_reportsIn {a : Attribute} (h : Linked site a) (item definition : Json) :
    ((reportsIn a.subAttributes item).flatMap violations).map (.ofMany a.path definition) =
      (reportsIn a.subAttributes item).flatMap violations := by
  rw [listed_reportsIn]
  refine (List.map_congr_left ?_).trans (List.map_id _)
  intro violation hviolation
  obtain ⟨sub, hsub, hviolation⟩ := List.mem_flatMap.mp hviolation
  exact PayloadViolation.ofMany_of_ne (h.path?_ne_of_mem_listed_lookUp hsub hviolation) definition

/-- An item of a list is held against the attribute as a single value is. -/
theorem listed_checkOne_lifted {a : Attribute} (h : Linked site a) (item : Json) :
    listed ((a.lifted many).checkOne item) =
      (listed (a.checkOne item)).map
        (.ofMany a.path (.object (many.without companionProperties))) := by
  cases a with
  | simple traits cardinality form => exact listed_check_lifted form traits item
  | complex traits cardinality subAttributes =>
    show listed (checkOne (.complex (traits.lifted many) _ (subAttributes.map enclosed)) item) = _
    unfold checkOne
    split
    -- In an object the sub-attributes report what they did before; a value that is no object is
    -- the only one for which the attribute itself is quoted.
    · rw [listed_gather, listed_gather, reportsIn_enclosed fun sub _ => sub.check_enclosed item]
      exact (map_ofMany_reportsIn h item _).symm
    · exact mismatch_lifted traits item _ _

/-! ### Lists -/

theorem listed_checkValue_lifted {a : Attribute} (h : Linked site a) (hone : a.cardinality = .one)
    {items : List Json} (hpresent : Json.presentItems items ≠ [])
    (hdiffer : ¬ (a.lifted many).Repeats items) :
    listed ((a.lifted many).checkValue (.array items)) =
      (Json.presentItems items).flatMap fun item =>
        (listed (a.checkValue item)).map
          (.ofMany a.path (.object (many.without companionProperties))) := by
  have hmany : (a.lifted many).cardinality = .many (.ofFragment many) := by
    cases a <;> rfl
  rw [listed_checkValue_of_not_repeats hmany hpresent fun hrepeats => hdiffer hrepeats.2]
  unfold itemViolations
  apply List.flatMap_congr
  intro item _
  have hvalue : a.checkValue item = a.checkOne item := by
    unfold checkValue checkAs
    rw [hone]
  rw [checkValue_element, listed_checkOne_lifted h, hvalue]

/-- **Many values are checked as each of them.**  Let a fragment of one value, without the
properties that describe the parts of a value, become one of many values, with any of them. Then
both fail with the same report or both are built, and the shape of both attributes is reported
alike. A list with items that are no placeholders, of which no two signify equal values, has the
violations that the items have as values of the first attribute, in order; but those that are about
the attribute itself quote the fragment of many values. So the list is accepted exactly when every
such item is. -/
theorem many_lifts_single (h : Fragment.Lifts single many) (site : Site) :
    (∀ report, ofFragment many site none = .error report ↔
      ofFragment single site none = .error report) ∧
    ∀ a wrapper, ofFragment single site none = .ok a → ofFragment many site none = .ok wrapper →
      wrapper.checkShape = a.checkShape ∧
      ∀ items, Json.presentItems items ≠ [] → ¬ wrapper.Repeats items →
        listed (wrapper.checkValue (.array items)) =
          (Json.presentItems items).flatMap (fun item =>
            (listed (a.checkValue item)).map
              (.ofMany a.path (.object (many.without companionProperties)))) ∧
        (wrapper.checkValue (.array items) = .ok () ↔
          ∀ item ∈ Json.presentItems items, a.checkValue item = .ok ()) := by
  have hlifted := ofFragment_lifted h site
  refine ⟨?_, ?_⟩
  · intro report
    rw [hlifted]
    cases ofFragment single site none with
    | error other => simp [Except.map]
    | ok a => simp [Except.map]
  · intro a wrapper hbuilt hwrapper
    rw [hlifted, hbuilt] at hwrapper
    cases hwrapper
    refine ⟨checkShape_lifted h hbuilt, ?_⟩
    intro items hpresent hdiffer
    have hlisted := listed_checkValue_lifted (linked_of_ofFragment single site a hbuilt)
      (attribute_of_one h hbuilt).1 hpresent hdiffer
    refine ⟨hlisted, ?_⟩
    rw [checkValue_eq_ok_iff, hlisted, List.flatMap_eq_nil_iff]
    refine forall₂_congr fun item _ => ?_
    rw [List.map_eq_nil_iff, checkValue_eq_ok_iff]

def parcelPart (name type : String) : Json.Members :=
  [("name", .string name), ("type", .string type)]

def parcelParts : Json :=
  .array [.object (parcelPart "value" "string"), .object (parcelPart "weight" "integer")]

/-- The fragment of a parcel, with a value that no two of them share. -/
def parcelFragment : Json.Members :=
  [("multiValued", .bool false), ("name", .string "parcel"), ("subAttributes", parcelParts),
    ("type", .string "complex"), ("uniqueness", .string "server")]

/-- The same for many parcels, each with a label. -/
def parcelsFragment : Json.Members :=
  [("display", .string "label"), ("multiValued", .bool true), ("name", .string "parcel"),
    ("primary", .null), ("subAttributes", parcelParts), ("type", .string "complex"),
    ("uniqueness", .string "server")]

def parcelSite : Site := ⟨.root "urn:depot", false, false⟩

def parcel : Attribute :=
  let inner : Site := ⟨parcelSite.parent.child "parcel", false, true⟩
  .complex (.ofFragment .complex parcelSite parcelFragment) .one
    [.simple (.ofFragment .string inner (parcelPart "value" "string")) .one .string,
      .simple (.ofFragment .integer inner (parcelPart "weight" "integer")) .one .integer]

/-- A parcel, nothing, a parcel whose weight is no number, and no parcel at all. -/
def deliveredParcels : List Json :=
  [.object [("value", .string "a"), ("weight", .number (.integer 3 (by decide)))], .null,
    .object [("value", .string "b"), ("weight", .string "heavy")], .string "letter"]

theorem parcelFragment_lifts : Fragment.Lifts parcelFragment parcelsFragment :=
  ⟨Or.inr rfl, by decide, rfl, rfl⟩

/-- The weight is reported as for a single parcel; the letter with the fragment of many. -/
theorem delivered_parcels_checked_item_by_item :
    Fragment.Lifts parcelFragment parcelsFragment ∧
    ofFragment parcelFragment parcelSite none = .ok parcel ∧
    ofFragment parcelsFragment parcelSite none = .ok (parcel.lifted parcelsFragment) ∧
    Json.presentItems deliveredParcels ≠ [] ∧
    ¬ (parcel.lifted parcelsFragment).Repeats deliveredParcels ∧
    (parcel.lifted parcelsFragment).checkShape = parcel.checkShape ∧
    listed ((parcel.lifted parcelsFragment).checkValue (.array deliveredParcels)) =
      (Json.presentItems deliveredParcels).flatMap (fun item =>
        (listed (parcel.checkValue item)).map
          (.ofMany parcel.path (.object (parcelsFragment.without companionProperties)))) ∧
    (listed ((parcel.lifted parcelsFragment).checkValue (.array deliveredParcels))).map
        PayloadViolation.path? =
      [some (parcel.path.child "weight"), some parcel.path] := by
  have hbuilt : ofFragment parcelFragment parcelSite none = .ok parcel := rfl
  have hwrapper : ofFragment parcelsFragment parcelSite none =
      .ok (parcel.lifted parcelsFragment) := rfl
  have hpresent : Json.presentItems deliveredParcels ≠ [] := by
    simp [Json.presentItems, deliveredParcels, Json.isPlaceholder]
  have hdiffer : ¬ (parcel.lifted parcelsFragment).Repeats deliveredParcels := by
    rw [← distinct_significantValues_iff]
    exact List.pairwise_pair.mpr rfl
  obtain ⟨-, hparcel⟩ := many_lifts_single parcelFragment_lifts parcelSite
  obtain ⟨hshape, hitems⟩ := hparcel parcel _ hbuilt hwrapper
  obtain ⟨hlisted, -⟩ := hitems deliveredParcels hpresent hdiffer
  exact ⟨parcelFragment_lifts, hbuilt, hwrapper, hpresent, hdiffer, hshape, hlisted, rfl⟩

end Attribute

end IdentitySchema
