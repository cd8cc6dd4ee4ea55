/-
  IdentitySchema/Attribute/Fragment.lean
  ======================================
  **From fragments to attributes.**  A schema document describes an attribute
  by an object, its fragment; a complex attribute has the fragments of its
  sub-attributes in a list under `subAttributes`.

  A fragment gives no attribute only if a type in it is not registered or its
  sub-attributes are no list of objects.  All else that is wrong with it is
  left to the check of the attribute's shape, except beneath a complex
  attribute that cannot be built: what is wrong with that one itself is then
  reported along with the sub-attributes that failed.
-/
import IdentitySchema.Attribute.Shape

namespace IdentitySchema

/-- What surrounds an attribute. -/
structure Site where
  parent : Locator
  /-- Does the attribute belong to the values of one that takes many? -/
  inMultiValued : Bool := false
  /-- Does the attribute belong to a complex one? -/
  inComplex : Bool := false

/-! ### Characteristics -/

/-- The properties that every fragment can have. -/
def commonProperties : List String :=
  ["name", "id", "type", "description", "required", "canonicalValues", "caseExact", "mutability",
    "returned", "uniqueness", "multiValued"]

/-- The characteristics that a fragment declares for an attribute of a given type. -/
def Characteristics.ofFragment (type : AttributeType) (site : Site) (fragment : Json.Members) :
    Characteristics :=
  let name := Declared.mandatory Json.string? (fragment.get? "name")
  { name := name
    id? := fragment.get? "id"
    type := Declared.optional Json.string? "string" (fragment.get? "type")
    description := Declared.optional (Json.orNull? Json.string?) none (fragment.get? "description")
    required := Declared.optional Json.bool? false (fragment.get? "required")
    canonicalValues :=
      Declared.optional (Json.orNull? Json.strings?) none (fragment.get? "canonicalValues")
    caseExact := Declared.optional Json.bool? false (fragment.get? "caseExact")
    mutability := Declared.optional Vocabulary.read? default (fragment.get? "mutability")
    returned := Declared.optional Vocabulary.read? default (fragment.get? "returned")
    uniqueness := Declared.optional Vocabulary.read? default (fragment.get? "uniqueness")
    multiValued := Declared.optional Json.bool? false (fragment.get? "multiValued")
    path := site.parent.child name.label
    parentMultiValued := site.inMultiValued
    parentComplex := site.inComplex
    definition := .object fragment
    unknownProperties :=
      fragment.keys.filter fun key =>
        !(commonProperties.contains key || type.ownProperties.contains key) }

/-! ### Types -/

def fragmentName (fragment : Json.Members) : String :=
  match fragment.get? "name" with
  | some name => name.rendered
  | none => "null"

/-- The type of the attribute of a fragment: the one asked for, or else the one that the fragment
declares, or else a string. -/
def resolveType (asked? : Option String) (parent : Locator) (fragment : Json.Members) :
    Except SchemaError AttributeType :=
  let declared? := (asked?.map Json.string).or (fragment.get? "type")
  match declared? with
  | none => .ok default
  | some declared =>
    match declared.string?.bind Vocabulary.ofName? with
    | some type => .ok type
    | none =>
      .error (.leaf (.unknownAttributeType declared.rendered
        (parent.child (fragmentName fragment)) (Vocabulary.names AttributeType)))

/-! ### Cardinality -/

/-- The properties that describe the parts of each of many values. -/
def companionProperties : List String :=
  ["primary", "display", "value", "ref"]

def Companions.ofFragment (fragment : Json.Members) : Companions :=
  ⟨fragment.get? "primary", fragment.get? "display", fragment.get? "value", fragment.get? "ref"⟩

/-- Does a fragment declare that its attribute takes many values? -/
def declaresMany (fragment : Json.Members) : Bool :=
  match fragment.get? "multiValued" with
  | some (.bool flag) => flag
  | _ => false

/-! ### Attributes -/

/-- What a fragment says about its attribute, sub-attributes aside. -/
structure Outline where
  type : AttributeType
  cardinality : Cardinality
  traits : Characteristics
  referenceTypes : Declared (Option (List String))

namespace Outline

/-- Read the outline of a fragment. A type that was asked for is the type of a single value. -/
def ofFragment (asked? : Option String) (site : Site) (fragment : Json.Members) :
    Except SchemaError Outline :=
  match resolveType asked? site.parent fragment with
  | .error report => .error report
  | .ok type =>
    let referenceTypes :=
      Declared.optional (Json.orNull? Json.strings?) none (fragment.get? "referenceTypes")
    if asked?.isNone && declaresMany fragment then
      .ok {
        type := type
        cardinality := .many (.ofFragment fragment)
        traits := .ofFragment type { site with inMultiValued := true }
          (fragment.without companionProperties)
        referenceTypes := referenceTypes }
    else
      .ok {
        type := type
        cardinality := .one
        traits := .ofFragment type site fragment
        referenceTypes := referenceTypes }

/-- What a value looks like, unless it has sub-attributes. -/
def simpleForm? (outline : Outline) : Option SimpleForm :=
  match outline.type with
  | .binary => some .binary
  | .boolean => some .boolean
  | .datetime => some .datetime
  | .decimal => some .decimal
  | .integer => some .integer
  | .string => some .string
  | .reference => some (.reference outline.referenceTypes)
  | .complex => none

def innerSite (outline : Outline) : Site :=
  ⟨outline.traits.path, outline.traits.parentMultiValued, true⟩

def notFragments (outline : Outline) (value : Json) : SchemaError :=
  .leaf (outline.traits.notAllowed "subAttributes" "a list of attribute definitions"
    value.rendered)

/-- The complex attribute with the sub-attributes that were built, if none of them failed. -/
def complex (outline : Outline) (built : List (Except SchemaError Attribute)) :
    Except SchemaError Attribute :=
  let failed := built.flatMap Report.found
  if failed.isEmpty then
    .ok (.complex outline.traits outline.cardinality (built.filterMap Except.toOption))
  else
    .error (.group outline.traits.path.text
      (outline.traits.complexViolations.map .leaf ++ failed))

def attribute? (outline : Outline) (built : List (Except SchemaError Attribute)) :
    Except SchemaError Attribute :=
  match outline.simpleForm? with
  | some form => .ok (.simple outline.traits outline.cardinality form)
  | none => outline.complex built

end Outline

namespace Attribute

mutual

/-- The attribute that an entry of a list of fragments describes; `refuse` reports an entry that is
no fragment at all. -/
def ofEntry (refuse : Json → SchemaError) (asked? : Option String) (site : Site) :
    Json → Except SchemaError Attribute
  | .object fragment =>
    match Outline.ofFragment asked? site fragment with
    | .error report => .error report
    | .ok outline => outline.attribute? (ofMembers outline fragment)
  | other => .error (refuse other)
  termination_by structural entry => entry

/-- What the value under `subAttributes` gives, entry by entry. -/
def ofMembers (outline : Outline) :
    List (String × Json) → List (Except SchemaError Attribute)
  | [] => []
  | (key, value) :: rest =>
    if key = "subAttributes" then ofList outline value else ofMembers outline rest
  termination_by structural members => members

/-- What a list of fragments gives; anything but a list fails. -/
def ofList (outline : Outline) : Json → List (Except SchemaError Attribute)
  | .array entries => ofEntries outline entries
  | other => [.error (outline.notFragments other)]
  termination_by structural value => value

def ofEntries (outline : Outline) : List Json → List (Except SchemaError Attribute)
  | [] => []
  | entry :: rest =>
    ofEntry outline.notFragments none outline.innerSite entry :: ofEntries outline rest
  termination_by structural entries => entries

end

theorem ofEntries_eq_map (outline : Outline) (entries : List Json) :
    ofEntries outline entries
      = entries.map (ofEntry outline.notFragments none outline.innerSite) := by
  induction entries with
  | nil => rfl
  | cons entry rest ih => rw [ofEntries, ih, List.map_cons]

/-- Only the value under `subAttributes` counts; without one there are no sub-attributes. -/
theorem ofMembers_eq_match (outline : Outline) (fragment : Json.Members) :
    ofMembers outline fragment
      = match fragment.get? "subAttributes" with
        | none => []
        | some value => ofList outline value := by
  induction fragment with
  | nil => rfl
  | cons member rest ih =>
    obtain ⟨key, value⟩ := member
    by_cases same : key = "subAttributes"
    · simp [ofMembers, same, Json.Members.get?_cons]
    · simp [ofMembers, same, Json.Members.get?_cons, ih]

/-- The attribute that a fragment describes; a type that is asked for wins over the declared one. -/
def ofFragment (fragment : Json.Members) (site : Site) (asked? : Option String) :
    Except SchemaError Attribute :=
  match Outline.ofFragment asked? site fragment with
  | .error report => .error report
  | .ok outline => outline.attribute? (ofMembers outline fragment)

theorem ofEntry_object (refuse : Json → SchemaError) (asked? : Option String) (site : Site)
    (fragment : Json.Members) :
    ofEntry refuse asked? site (.object fragment) = ofFragment fragment site asked? := rfl

end Attribute

end IdentitySchema
