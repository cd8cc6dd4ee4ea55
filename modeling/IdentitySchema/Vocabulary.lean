/-
  IdentitySchema/Vocabulary.lean
  ==============================
  **The closed vocabularies of a schema document**: the types an attribute can
  have, and what can be said about its mutability, about when it is returned,
  and about its uniqueness.  Each is an enumeration whose terms have a name in
  documents.  In a document a term is written as that name, or as an object
  whose only key is the name and whose value is null.
-/
import IdentitySchema.Json.Compact
import IdentitySchema.Json.Fault

namespace IdentitySchema

/-! ### Vocabularies -/

/-- A finite list of terms, each with its name in schema documents. -/
class Vocabulary (α : Type) where
  all : List α
  name : α → String

namespace Vocabulary

variable {α : Type} [Vocabulary α]

def ofName? (text : String) : Option α :=
  (all (α := α)).find? fun term => name term == text

def names (α : Type) [Vocabulary α] : List String :=
  (all (α := α)).map name

/-- The names of some terms between braces. -/
def oneOf (terms : List α) : String :=
  "\x7b" ++ ", ".intercalate (terms.map name) ++ "\x7d"

/-! ### Reading a term -/

/-- What a value is, for a message that says that something else was expected. -/
def describe : Json → String
  | .null => "null"
  | .bool value => "boolean `" ++ (if value then "true" else "false") ++ "`"
  | .number value =>
    (if value.isInteger then "integer `" else "floating point `") ++ value.text ++ "`"
  | .string value => "string " ++ Text.quoted value
  | .array _ => "sequence"
  | .object _ => "map"

def wrongKind (value : Json) (expected : String) : String :=
  "invalid type: " ++ describe value ++ ", expected " ++ expected

/-- The term with a name that stands in a document. -/
def ofDocumentName (text : String) : Except String α :=
  match ofName? text with
  | some term => .ok term
  | none =>
    .error ("unknown variant `" ++ text ++ "`, expected one of "
      ++ ", ".intercalate ((names α).map fun known => "`" ++ known ++ "`"))

/-- The term that a value stands for, or the message that says why it stands for none. -/
def read : Json → Except String α
  | .string text => ofDocumentName text
  | .object [(key, value)] =>
    match ofDocumentName key with
    | .error message => .error message
    | .ok term => if value.isNull then .ok term else .error (wrongKind value "unit")
  | .object _ => .error "invalid value: map, expected map with a single key"
  | other => .error (wrongKind other "string or map")

def read? (value : Json) : Option α :=
  (read value).toOption

end Vocabulary

/-! ### Mutability, returned, uniqueness -/

/-- Whether and how an attribute can be changed. -/
inductive Mutability where
  | readWrite
  | readOnly
  | immutable
  | writeOnly
  deriving DecidableEq

namespace Mutability

def name : Mutability → String
  | .readWrite => "readWrite"
  | .readOnly => "readOnly"
  | .immutable => "immutable"
  | .writeOnly => "writeOnly"

instance : Vocabulary Mutability := ⟨[.readWrite, .readOnly, .immutable, .writeOnly], name⟩

instance : Inhabited Mutability := ⟨.readWrite⟩

end Mutability

/-- When an attribute is returned. -/
inductive Returned where
  | default
  | always
  | never
  | request
  deriving DecidableEq

namespace Returned

def name : Returned → String
  | .default => "default"
  | .always => "always"
  | .never => "never"
  | .request => "request"

instance : Vocabulary Returned := ⟨[.default, .always, .never, .request], name⟩

instance : Inhabited Returned := ⟨.default⟩

end Returned

/-- How far an attribute's values must be unique. -/
inductive Uniqueness where
  | none
  | server
  | global
  deriving DecidableEq

namespace Uniqueness

def name : Uniqueness → String
  | .none => "none"
  | .server => "server"
  | .global => "global"

instance : Vocabulary Uniqueness := ⟨[.none, .server, .global], name⟩

instance : Inhabited Uniqueness := ⟨.none⟩

/-- Must values be told apart at all? -/
def isEnforced : Uniqueness → Bool
  | .none => false
  | .server | .global => true

end Uniqueness

/-! ### Attribute types -/

/-- The registered types of attributes. -/
inductive AttributeType where
  | binary
  | boolean
  | datetime
  | decimal
  | complex
  | integer
  | reference
  | string
  deriving DecidableEq

namespace AttributeType

def name : AttributeType → String
  | .binary => "binary"
  | .boolean => "boolean"
  | .datetime => "datetime"
  | .decimal => "decimal"
  | .complex => "complex"
  | .integer => "integer"
  | .reference => "reference"
  | .string => "string"

instance : Vocabulary AttributeType :=
  ⟨[.binary, .boolean, .datetime, .decimal, .complex, .integer, .reference, .string], name⟩

/-- An attribute that declares no type holds strings. -/
instance : Inhabited AttributeType := ⟨.string⟩

/-- The section of the standard that defines the type. -/
def definedIn : AttributeType → String
  | .string => "https://tools.ietf.org/html/rfc7643#section-2.3.1"
  | .boolean => "https://tools.ietf.org/html/rfc7643#section-2.3.2"
  | .decimal => "https://tools.ietf.org/html/rfc7643#section-2.3.3"
  | .integer => "https://tools.ietf.org/html/rfc7643#section-2.3.4"
  | .datetime => "https://tools.ietf.org/html/rfc7643#section-2.3.5"
  | .binary => "https://tools.ietf.org/html/rfc7643#section-2.3.6"
  | .reference => "https://tools.ietf.org/html/rfc7643#section-2.3.7"
  | .complex => "https://tools.ietf.org/html/rfc7643#section-2.3.8"

def acceptedCaseExact : AttributeType → List Bool
  | .binary | .boolean | .datetime | .decimal => [false]
  | .complex | .integer | .reference | .string => [true, false]

def acceptedUniqueness : AttributeType → List Uniqueness
  | .binary | .boolean | .datetime => [.none]
  | _ => Vocabulary.all

/-- The properties that only fragments of the type have. -/
def ownProperties : AttributeType → List String
  | .reference => ["referenceTypes"]
  | .complex => ["subAttributes"]
  | _ => []

end AttributeType

end IdentitySchema
