/-
  IdentitySchema/Attribute/Shape.lean
  ===================================
  **The shape of an attribute.**  Is what the fragment of an attribute
  declares within what the rules for schemas accept?  Every characteristic is
  checked for itself, and so is every sub-attribute; what is found beneath an
  attribute is gathered under its path.
-/
import IdentitySchema.Attribute.Basic
import IdentitySchema.Name
import IdentitySchema.Violation

namespace IdentitySchema

namespace Characteristics

/-! ### Messages -/

def notAllowed (traits : Characteristics) (characteristic expected actual : String) :
    SchemaViolation :=
  .characteristicNotAllowed traits.path characteristic expected actual

/-- A violation if the declared property does not read as it should. -/
def unlessValid {α : Type} (traits : Characteristics) (characteristic expected : String) :
    Declared α → List SchemaViolation
  | .valid _ => []
  | .invalid raw => [traits.notAllowed characteristic expected raw.rendered]

/-! ### The checks -/

def nameRule : String :=
  "a valid name e.g. must be ALPHA * \x7bnameChar\x7d where nameChar = "
    ++ "\"$\" / \"-\" / \"_\" / DIGIT / ALPHA"

/-- A name follows the grammar of names, or is the `$ref` of a reference. -/
def hasName (type : AttributeType) (traits : Characteristics) : Bool :=
  match traits.name? with
  | some name => Name.isAttributeName name || (type == .reference && name == "$ref")
  | none => false

def nameViolations (type : AttributeType) (traits : Characteristics) : List SchemaViolation :=
  if traits.hasName type then [] else [traits.notAllowed "name" nameRule traits.nameLabel]

def boolName (value : Bool) : String := if value then "true" else "false"

def caseExactViolations (type : AttributeType) (traits : Characteristics) :
    List SchemaViolation :=
  let accepted := type.acceptedCaseExact
  let expected := "\x7b" ++ ", ".intercalate (accepted.map boolName) ++ "\x7d"
  match traits.caseExact with
  | .valid flag =>
    if accepted.contains flag then [] else [traits.notAllowed "caseExact" expected (boolName flag)]
  | .invalid raw => [traits.notAllowed "caseExact" expected raw.rendered]

def uniquenessViolations (type : AttributeType) (traits : Characteristics) :
    List SchemaViolation :=
  let accepted := type.acceptedUniqueness
  let expected := Vocabulary.oneOf accepted
  match traits.uniqueness with
  | .valid uniqueness =>
    if accepted.contains uniqueness then []
    else [traits.notAllowed "uniqueness" expected uniqueness.name]
  | .invalid raw => [traits.notAllowed "uniqueness" expected raw.rendered]

def typeViolations (traits : Characteristics) : List SchemaViolation :=
  match traits.type with
  | .valid _ => []
  | .invalid raw => [traits.notAllowed "type" "a string" raw.kindName]

def unknownPropertyViolations (traits : Characteristics) : List SchemaViolation :=
  if traits.unknownProperties.isEmpty then []
  else [.unknownProperties traits.nameLabel traits.path traits.unknownProperties]

/-- Everything that is wrong with the characteristics of an attribute of a given type. -/
def violations (type : AttributeType) (traits : Characteristics) : List SchemaViolation :=
  traits.nameViolations type
    ++ traits.unlessValid "required" "boolean" traits.required
    ++ traits.unlessValid "canonicalValues" "none or valid list" traits.canonicalValues
    ++ traits.caseExactViolations type
    ++ traits.unlessValid "mutability" (Vocabulary.oneOf (Vocabulary.all (α := Mutability)))
        traits.mutability
    ++ traits.unlessValid "returned" (Vocabulary.oneOf (Vocabulary.all (α := Returned)))
        traits.returned
    ++ traits.uniquenessViolations type
    ++ traits.typeViolations
    ++ traits.unlessValid "description" "a string" traits.description
    ++ traits.unlessValid "multiValued" "boolean" traits.multiValued
    ++ traits.unknownPropertyViolations

/-- Everything that is wrong with a complex attribute itself, its sub-attributes aside. -/
def complexViolations (traits : Characteristics) : List SchemaViolation :=
  (if traits.parentComplex then [.nestedComplex traits.path] else [])
    ++ traits.violations .complex

end Characteristics

def SimpleForm.violations (form : SimpleForm) (traits : Characteristics) : List SchemaViolation :=
  traits.violations form.type
    ++ match form with
      | .reference types =>
        traits.unlessValid "referenceTypes" "none or a list of resource kinds" types
      | _ => []

namespace Attribute

mutual

def checkShape : Attribute → Except SchemaError Unit
  | .simple traits _ form =>
    Report.gather traits.path.text ((form.violations traits).map .leaf)
  | .complex traits _ subAttributes =>
    Report.gather traits.path.text
      (traits.complexViolations.map .leaf ++ shapeReports subAttributes)
  termination_by structural a => a

def shapeReports : List Attribute → List SchemaError
  | [] => []
  | a :: rest => Report.found (checkShape a) ++ shapeReports rest
  termination_by structural attributes => attributes

end

theorem shapeReports_eq_flatMap (attributes : List Attribute) :
    shapeReports attributes = attributes.flatMap fun a => Report.found a.checkShape := by
  induction attributes with
  | nil => rfl
  | cons a rest ih => rw [shapeReports, ih, List.flatMap_cons]

end Attribute

end IdentitySchema
