/-
  IdentitySchema/Schema/Basic.lean
  ================================
  **Schemas.**  A schema document declares an id, a name, a description and a
  list of attributes.  `Schema.Declaration` is what a document declares;
  a `Schema` is a declaration whose shape check finds nothing, so whoever
  holds one can hold payloads against it.

  `Schema.ofDocument` collects what is wrong with a document in three passes:
  building the attributes, checking the shape of what was built, and looking
  for properties nobody knows.  A document is refused with everything that the
  three have found.
-/
import IdentitySchema.Attribute.Check
import IdentitySchema.Attribute.Fragment

namespace IdentitySchema

/-! ### Declarations -/

/-- Which rules a schema is held to. -/
inductive SchemaRole where
  /-- Schemas of resources; name and description can be left out. -/
  | resource
  /-- Schemas of service providers; name and description must be there. -/
  | serviceProvider
  deriving DecidableEq

def schemaReference : String :=
  "https://tools.ietf.org/html/rfc7643#section-7"

def serviceProviderReference : String :=
  "https://tools.ietf.org/html/rfc7643#section-6"

namespace Schema

/-- What a schema document declares. -/
structure Declaration where
  declaredId : Declared String
  externalId? : Option Json
  metadata? : Option Json
  declaredName : Declared (Option String)
  declaredDescription : Declared (Option String)
  attributes : List Attribute
  role : SchemaRole

namespace Declaration

/-- Where reports on the schema are located: at its id, or at what stands in its place. -/
def location (d : Declaration) : String := d.declaredId.label

def invalidProperty (d : Declaration) (property expected actual reference : String) :
    SchemaViolation :=
  .invalidProperty d.location property expected actual reference

/-! ### The shape check -/

/-- The id is a text that is not empty. -/
def idViolations (d : Declaration) : List SchemaViolation :=
  match d.declaredId with
  | .valid id => if id = "" then [d.invalidProperty "id" "not empty" id schemaReference] else []
  | .invalid raw => [d.invalidProperty "id" "a non-empty string" raw.rendered schemaReference]

def nameForm : String :=
  "must be ALPHA * \x7bnameChar\x7d where nameChar = \"$\" / \"-\" / \"_\" / DIGIT / ALPHA"

def nameViolation (d : Declaration) (actual : String) : SchemaViolation :=
  match d.role with
  | .resource => d.invalidProperty "name" ("a valid name - " ++ nameForm) actual schemaReference
  | .serviceProvider =>
    d.invalidProperty "name" ("a service provider name - " ++ nameForm) actual
      serviceProviderReference

/-- The name follows the grammar of the role; a resource schema needs none. -/
def nameViolations (d : Declaration) : List SchemaViolation :=
  match d.declaredName, d.role with
  | .invalid raw, _ => [d.nameViolation raw.rendered]
  | .valid none, .resource => []
  | .valid none, .serviceProvider => [d.nameViolation "null"]
  | .valid (some name), .resource =>
    if Name.isResourceSchemaName name then [] else [d.nameViolation name]
  | .valid (some name), .serviceProvider =>
    if Name.isServiceProviderName name then [] else [d.nameViolation name]

def descriptionViolation (d : Declaration) (actual : String) : SchemaViolation :=
  match d.role with
  | .resource => d.invalidProperty "description" "a string" actual schemaReference
  | .serviceProvider =>
    d.invalidProperty "description"
      "a string - service providers must specify the description" actual serviceProviderReference

/-- The description is a text; a resource schema needs none. -/
def descriptionViolations (d : Declaration) : List SchemaViolation :=
  match d.declaredDescription, d.role with
  | .invalid raw, _ => [d.descriptionViolation raw.rendered]
  | .valid none, .serviceProvider => [d.descriptionViolation "null"]
  | _, _ => []

def shapeReports (d : Declaration) : List SchemaError :=
  (d.idViolations ++ d.nameViolations ++ d.descriptionViolations).map .leaf
    ++ Attribute.shapeReports d.attributes

def checkShape (d : Declaration) : Except SchemaError Unit :=
  Report.gather d.location d.shapeReports

end Declaration

end Schema

/-- A schema in good shape. -/
structure Schema extends Schema.Declaration where
  wellShaped : toDeclaration.shapeReports = []

namespace Schema

/-! ### Parts of a schema -/

def id (s : Schema) : String := s.declaredId.valid?.getD ""

def name? (s : Schema) : Option String := s.declaredName.valid?.join

def description? (s : Schema) : Option String := s.declaredDescription.valid?.join

def attribute? (s : Schema) (name : String) : Option Attribute :=
  s.attributes.find? fun a => a.name? == some name

theorem wellShapedId (s : Schema) : ∃ id, s.declaredId = .valid id ∧ id ≠ "" := by
  have none := (List.append_eq_nil_iff.1 s.wellShaped).1
  have none : s.idViolations = [] := by simp_all
  unfold Declaration.idViolations at none
  split at none
  · rename_i id declared
    exact ⟨id, declared, fun empty => by simp [empty] at none⟩
  · simp at none

theorem id_ne_empty (s : Schema) : s.id ≠ "" := by
  obtain ⟨id, declared, notEmpty⟩ := s.wellShapedId
  simpa [Schema.id, declared, Declared.valid?] using notEmpty

theorem location_eq_id (s : Schema) : s.location = s.id := by
  obtain ⟨id, declared, _⟩ := s.wellShapedId
  simp [Schema.id, Declaration.location, declared, Declared.valid?, Declared.label]

/-! ### Payloads -/

/-- Check a payload against every attribute of a schema. -/
def check (s : Schema) (payload : Json) : Except PayloadError Unit :=
  if payload.isObject then
    Report.gather s.location (Attribute.reportsIn s.attributes payload)
  else
    .error (.leaf (.invalidType (.root s.location) payload.rendered false "object" none .null))

/-! ### From documents to schemas -/

/-- The properties that a schema document can have. -/
def documentProperties : List String :=
  ["id", "externalId", "meta", "name", "description", "attributes"]

/-- The report on something that should be a list of fragments, or a fragment. -/
def notFragments (location : String) (value : Json) : SchemaError :=
  .leaf (.invalidProperty location "attributes" "a list of attribute definitions" value.rendered
    schemaReference)

/-- What the value under `attributes` gives, entry by entry. -/
def buildAttributes (location : String) : Option Json → List (Except SchemaError Attribute)
  | none | some .null => []
  | some (.array entries) =>
    entries.map (Attribute.ofEntry (notFragments location) none { parent := .root location })
  | some other => [.error (notFragments location other)]

/-- What a document declares, with the attributes that were built. -/
def Declaration.ofDocument (role : SchemaRole) (document : Json.Members)
    (built : List (Except SchemaError Attribute)) : Declaration where
  declaredId := Declared.mandatory Json.string? (document.get? "id")
  externalId? := document.get? "externalId"
  metadata? := document.get? "meta"
  declaredName := Declared.optional (Json.orNull? Json.string?) none (document.get? "name")
  declaredDescription :=
    Declared.optional (Json.orNull? Json.string?) none (document.get? "description")
  attributes := built.filterMap Except.toOption
  role := role

/-- The report on the properties of a document that nobody knows. -/
def unexpectedReports (location : String) (document : Json.Members) : List SchemaError :=
  match document.keys.filter fun key => !documentProperties.contains key with
  | [] => []
  | keys => [.leaf (.unexpectedProperties location keys)]

/-- The schema that a document describes, held to the rules of a role. -/
def ofDocument (role : SchemaRole) (document : Json.Members) : Except SchemaError Schema :=
  let location := (Declared.mandatory Json.string? (document.get? "id")).label
  let built := buildAttributes location (document.get? "attributes")
  let declaration := Declaration.ofDocument role document built
  let failed := built.flatMap Report.found
  let unexpected := unexpectedReports location document
  if h : failed = [] ∧ declaration.shapeReports = [] ∧ unexpected = [] then
    .ok ⟨declaration, h.2.1⟩
  else
    .error (.group location (failed ++ declaration.shapeReports ++ unexpected))

/-- The resource schema that a value describes, which must be an object. -/
def ofJson : Json → Except SchemaError Schema
  | .object document => ofDocument .resource document
  | other =>
    .error (.leaf (.invalidProperty "null" "id" "a schema document object" other.rendered
      schemaReference))

end Schema

end IdentitySchema
