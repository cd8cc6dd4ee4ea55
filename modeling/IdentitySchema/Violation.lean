/-
  IdentitySchema/Violation.lean
  =============================
  **What can be wrong.**  Two kinds of violations: those of a schema document
  against the rules for schemas, and those of a payload against a schema.
  Each has one message.
-/
import IdentitySchema.Json.Compact
import IdentitySchema.Locator
import IdentitySchema.Report
import IdentitySchema.Vocabulary

namespace IdentitySchema

/-! ### Schema documents -/

inductive SchemaViolation where
  | invalidProperty (schemaId property expected actual reference : String)
  | characteristicNotAllowed (path : Locator) (characteristic expected actual : String)
  | nestedComplex (path : Locator)
  /-- The fragment of an attribute has properties nobody knows. -/
  | unknownProperties (name : String) (path : Locator) (keys : List String)
  /-- The document has properties nobody knows. -/
  | unexpectedProperties (schemaId : String) (keys : List String)
  | unknownAttributeType (type : String) (path : Locator) (expected : List String)

namespace SchemaViolation

def characteristicsReference : String :=
  "https://tools.ietf.org/html/rfc7643#section-2.1"

def complexReference : String :=
  "https://tools.ietf.org/html/rfc7643#section-2.3.8"

def message : SchemaViolation → String
  | .invalidProperty schemaId property expected actual reference =>
    "Model schema id " ++ schemaId ++ " has property " ++ property
      ++ " which is expected to be " ++ expected ++ " but got \"" ++ actual ++ "\" ("
      ++ reference ++ ")"
  | .characteristicNotAllowed path characteristic expected actual =>
    "Attribute \"" ++ path.text ++ "\" has '" ++ characteristic ++ "' property which must be "
      ++ expected ++ " but got '" ++ actual ++ "' (" ++ characteristicsReference ++ ")"
  | .nestedComplex path =>
    "Attribute \"" ++ path.text ++ "\" must be a simple type sub-attribute but is a complex type "
      ++ "sub-attribute on a complex parent (" ++ complexReference ++ ")"
  | .unknownProperties name path keys =>
    "Unknown properties " ++ Text.quotedList keys ++ " on attribute '" ++ name
      ++ "' (path: '" ++ path.text ++ "')"
  | .unexpectedProperties schemaId keys =>
    "Unexpected properties found on schema '" ++ schemaId ++ "': " ++ Text.quotedList keys
  | .unknownAttributeType type path expected =>
    "Attribute type '" ++ type ++ "' (path: " ++ path.text
      ++ ") is not a valid type - expected one of these: (" ++ ", ".intercalate expected ++ ")"

instance : Worded SchemaViolation where
  message := message
  heading location count :=
    "Invalid SCIM schema " ++ location ++ ": " ++ toString count ++ " aggregated exceptions found:"

end SchemaViolation

abbrev SchemaError := Report SchemaViolation

/-! ### Payloads -/

inductive PayloadViolation where
  | valueNotFound (name : String) (path : Locator) (multiValued : Bool) (found : String)
  /-- A value is not of the type, or none of the values, that its attribute has. -/
  | invalidType (path : Locator) (value : String) (multiValued : Bool) (expected : String)
      (reference : Option String) (definition : Json)
  /-- Values that must be unique are repeated. -/
  | duplicateValue (path : Locator) (values : List String)
  | missingSchemas
  /-- The payload names no core schema, or several. -/
  | coreSchemaCount (schemas : List String)
  | unknownSchemaUri (uri : String)

namespace PayloadViolation

def cardinality (multiValued : Bool) : String :=
  if multiValued then "Multi-value attribute" else "Single-value attribute"

def message : PayloadViolation → String
  | .valueNotFound name path multiValued found =>
    "'" ++ cardinality multiValued ++ ":" ++ name
      ++ "' is required at the following location '" ++ path.text ++ "' but found '" ++ found ++ "'"
  | .invalidType path value multiValued expected reference _ =>
    "'" ++ cardinality multiValued ++ ": '" ++ value ++ "' (at path: " ++ path.text
      ++ ") is expected to be '" ++ expected ++ "'"
      ++ match reference with
        | some link => " (see: " ++ link ++ ")"
        | none => ""
  | .duplicateValue path values =>
    "'Multi-value attribute: '" ++ ", ".intercalate values ++ "' (at path: " ++ path.text
      ++ ") is not unique as required"
  | .missingSchemas => "Response has no specified schema"
  | .coreSchemaCount schemas =>
    "Response must specify exactly one core schema - found [" ++ ", ".intercalate schemas ++ "]"
  | .unknownSchemaUri uri => "Unknown schema URI: " ++ uri

/-- Where in a schema the violated attribute stands. -/
def path? : PayloadViolation → Option Locator
  | .valueNotFound _ path _ _ => some path
  | .invalidType path _ _ _ _ _ => some path
  | .duplicateValue path _ => some path
  | _ => none

instance : Worded PayloadViolation where
  message := message
  heading location count :=
    "Found " ++ toString count ++ " aggregated exceptions at " ++ location ++ ":"

end PayloadViolation

abbrev PayloadError := Report PayloadViolation

/-- Where in a schema the violated attribute stands, if the report is one violation. -/
def Report.path? : PayloadError → Option Locator
  | .leaf violation => violation.path?
  | .group _ _ => none

end IdentitySchema
