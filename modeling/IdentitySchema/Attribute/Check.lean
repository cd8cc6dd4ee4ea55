/-
  IdentitySchema/Attribute/Check.lean
  ===================================
  **Payloads against attributes.**  `check` looks an attribute up in a payload
  and `checkValue` holds a value against it.  A value of the right kind is
  followed into its parts: the members of an object under the sub-attributes,
  the items of a list under the attribute of one value.  Everything that is
  wrong beneath an attribute is gathered under its path.
-/
import IdentitySchema.Attribute.Basic
import IdentitySchema.Text.LowerCase
import IdentitySchema.Timestamp
import IdentitySchema.Violation

namespace IdentitySchema

/-! ### Kinds of values -/

namespace Json

/-- An integer; no boolean is one. -/
def isIntegerNumber : Json → Bool
  | .number n => n.isInteger
  | _ => false

/-- Has a text a point with a digit right before it and right after it? The first point counts. -/
def hasPointInside (text : String) : Bool :=
  let whole := text.toList.takeWhile (· != '.')
  match whole.getLast?, (text.toList.dropWhile (· != '.')).drop 1 with
  | some before, after :: _ => before.isDigit && after.isDigit
  | _, _ => false

/-- A real number that is written with a digit on both sides of the point. -/
def isPointedNumber : Json → Bool
  | .number (.real value) => hasPointInside value.text
  | _ => false

/-- An item of a list that stands for no value: null or the object without members. -/
def isPlaceholder : Json → Bool
  | .null => true
  | .object [] => true
  | _ => false

/-- The values that occur more than once, each where it occurs first; `seen` have occurred before. -/
def repeated (seen : List Json) : List Json → List Json
  | [] => []
  | value :: rest =>
    if !seen.any (same value) && rest.any (same value) then value :: repeated (value :: seen) rest
    else repeated (value :: seen) rest

end Json

namespace Characteristics

/-! ### Violations -/

def mismatch (traits : Characteristics) (value : Json) (expected reference : String) :
    PayloadError :=
  .leaf (.invalidType traits.path ("(" ++ value.kindName ++ ")" ++ value.rendered)
    traits.isMultiValued expected (some reference) traits.definition)

/-- A value that is not there is a violation if the attribute is required. `found` is where it was
looked for. -/
def checkAbsent (traits : Characteristics) (found : Json) : Except PayloadError Unit :=
  if traits.isRequired then
    .error (.leaf (.valueNotFound traits.nameLabel traits.path traits.isMultiValued
      found.compact))
  else .ok ()

def expect (traits : Characteristics) (type : AttributeType) (value : Json) (accepted : Bool)
    (expected : String) : Except PayloadError Unit :=
  if accepted then .ok () else .error (traits.mismatch value expected type.definedIn)

/-! ### Strings -/

/-- The form in which a string is compared with the canonical values. -/
def fold (traits : Characteristics) (text : String) : String :=
  if traits.isCaseExact then text else Text.lowerCase text

/-- A string must be one of the canonical values, if there are any. -/
def checkString (traits : Characteristics) (value : Json) : Except PayloadError Unit :=
  match value.string? with
  | none => traits.expect .string value false "type string"
  | some text =>
    match traits.canonicalValues?.getD [] with
    | [] => .ok ()
    | canonical =>
      let allowed := canonical.map traits.fold
      traits.expect .string value (allowed.contains (traits.fold text))
        ("one of " ++ ", ".intercalate allowed)

end Characteristics

def SimpleForm.check (form : SimpleForm) (traits : Characteristics) (value : Json) :
    Except PayloadError Unit :=
  match form with
  | .binary => traits.expect .binary value value.string?.isSome "binary"
  | .boolean => traits.expect .boolean value value.bool?.isSome "boolean"
  | .integer => traits.expect .integer value value.isIntegerNumber "integer"
  | .decimal =>
    traits.expect .decimal value value.isPointedNumber
      "must be a real number with at least one digit to the left and right of the period"
  | .datetime =>
    traits.expect .datetime value (value.string?.any Timestamp.isWritten)
      "datetime with format 2008-01-23T04:56:22Z"
  | .string => traits.checkString value
  | .reference _ => traits.expect .reference value value.string?.isSome "type reference"

namespace Attribute

/-! ### Lists of values -/

def multiValuedReference : String :=
  "https://tools.ietf.org/html/rfc7643#section-2.4"

/-- The part of an item that must be unique: of an object with sub-attributes its `value`, if it has
one, and otherwise the item itself. A null does not count. -/
def significant? (a : Attribute) (item : Json) : Option Json :=
  let part := match a with
    | .complex _ _ _ => item.get? "value"
    | .simple _ _ _ => some item
  part.filter fun value => !value.isNull

/-- The report on values that occur more than once though they must not. -/
def duplicates (a : Attribute) (items : List Json) : List PayloadError :=
  if a.traits.uniqueness.valid?.any Uniqueness.isEnforced then
    match Json.repeated [] (items.filterMap a.significant?) with
    | [] => []
    | values => [.leaf (.duplicateValue a.path (values.map Json.rendered))]
  else []

/-- Check a list of values, of which `checkItem` checks one. -/
def checkList (a : Attribute) (checkItem : Json → Except PayloadError Unit) (value : Json) :
    Except PayloadError Unit :=
  match value with
  | .array entries =>
    match entries.filter fun entry => !entry.isPlaceholder with
    | [] => a.traits.checkAbsent value
    | items =>
      Report.gather a.path.text
        (a.duplicates items ++ items.flatMap fun item => Report.found (checkItem item))
  | _ => .error (a.traits.mismatch value "list" multiValuedReference)

def checkAs (a : Attribute) (checkItem : Json → Except PayloadError Unit) (value : Json) :
    Except PayloadError Unit :=
  match a.cardinality with
  | .one => checkItem value
  | .many _ => a.checkList checkItem value

def checkIn (a : Attribute) (checkItem : Json → Except PayloadError Unit) (payload : Json) :
    Except PayloadError Unit :=
  match a.name?.bind payload.get? with
  | some value => a.checkAs checkItem value
  | none => a.traits.checkAbsent payload

/-! ### Values -/

mutual

/-- Check one value of an attribute, an item if the attribute takes a list. -/
def checkOne : Attribute → Json → Except PayloadError Unit
  | .simple traits _ form, value => form.check traits value
  | .complex traits _ subAttributes, value =>
    if value.isObject then
      Report.gather traits.path.text (reportsIn subAttributes value)
    else .error (traits.mismatch value "complex" AttributeType.complex.definedIn)
  termination_by structural a => a

/-- What the checks of some attributes in a payload report, in order. -/
def reportsIn : List Attribute → Json → List PayloadError
  | [], _ => []
  | a :: rest, payload =>
    Report.found (a.checkIn (fun value => checkOne a value) payload) ++ reportsIn rest payload
  termination_by structural attributes => attributes

end

def checkValue (a : Attribute) (value : Json) : Except PayloadError Unit :=
  a.checkAs a.checkOne value

/-- Check an attribute in a payload. It may be missing unless it is required. -/
def check (a : Attribute) (payload : Json) : Except PayloadError Unit :=
  a.checkIn a.checkOne payload

theorem reportsIn_eq_flatMap (attributes : List Attribute) (payload : Json) :
    reportsIn attributes payload = attributes.flatMap fun a => Report.found (a.check payload) := by
  induction attributes with
  | nil => rfl
  | cons a rest ih => rw [reportsIn, ih, List.flatMap_cons]; rfl

end Attribute

end IdentitySchema
