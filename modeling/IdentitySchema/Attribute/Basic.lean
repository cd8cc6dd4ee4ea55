/-
  IdentitySchema/Attribute/Basic.lean
  ===================================
  **Attributes.**  An attribute is described by the characteristics that every
  attribute has, by how many values it takes, and by what a value looks like:
  a simple one, or an object with sub-attributes.

  An attribute that takes many values is the same thing as one that takes one
  of them, apart from its cardinality; so a list of lists cannot be declared.
-/
import IdentitySchema.Declared
import IdentitySchema.Locator
import IdentitySchema.Vocabulary

namespace IdentitySchema

/-! ### Characteristics -/

/-- What every attribute declares, each characteristic as it stands in the fragment of the schema
document, together with the place of the attribute. -/
structure Characteristics where
  name : Declared String
  id? : Option Json
  type : Declared String
  description : Declared (Option String)
  required : Declared Bool
  canonicalValues : Declared (Option (List String))
  caseExact : Declared Bool
  mutability : Declared Mutability
  returned : Declared Returned
  uniqueness : Declared Uniqueness
  multiValued : Declared Bool
  path : Locator
  /-- Does the attribute belong to the values of one that takes many? -/
  parentMultiValued : Bool
  /-- Does the attribute belong to a complex one? -/
  parentComplex : Bool
  definition : Json
  /-- The keys of the fragment that no attribute of its type has. -/
  unknownProperties : List String

namespace Characteristics

def name? (traits : Characteristics) : Option String := traits.name.valid?

/-- The name of the attribute in messages. -/
def nameLabel (traits : Characteristics) : String := traits.name.label

def isRequired (traits : Characteristics) : Bool := traits.required.valid? == some true

def canonicalValues? (traits : Characteristics) : Option (List String) :=
  traits.canonicalValues.valid?.join

def isCaseExact (traits : Characteristics) : Bool := traits.caseExact.valid? == some true

def isMultiValued (traits : Characteristics) : Bool := traits.multiValued.valid? == some true

end Characteristics

/-! ### Attributes -/

/-- What a value looks like when it is no object with sub-attributes. -/
inductive SimpleForm where
  | binary
  | boolean
  | datetime
  | decimal
  | integer
  | string
  | reference (types : Declared (Option (List String)))

def SimpleForm.type : SimpleForm → AttributeType
  | .binary => .binary
  | .boolean => .boolean
  | .datetime => .datetime
  | .decimal => .decimal
  | .integer => .integer
  | .string => .string
  | .reference _ => .reference

/-- What the fragment of an attribute with many values says about the parts of each value. -/
structure Companions where
  primary? : Option Json
  display? : Option Json
  value? : Option Json
  ref? : Option Json

inductive Cardinality where
  | one
  | many (companions : Companions)

def Cardinality.isMany : Cardinality → Bool
  | .one => false
  | .many _ => true

inductive Attribute where
  | simple (traits : Characteristics) (cardinality : Cardinality) (form : SimpleForm)
  | complex (traits : Characteristics) (cardinality : Cardinality)
      (subAttributes : List Attribute)

namespace Attribute

def traits : Attribute → Characteristics
  | .simple traits _ _ => traits
  | .complex traits _ _ => traits

def cardinality : Attribute → Cardinality
  | .simple _ cardinality _ => cardinality
  | .complex _ cardinality _ => cardinality

def type : Attribute → AttributeType
  | .simple _ _ form => form.type
  | .complex _ _ _ => .complex

/-- The attributes of a value, if the attribute is a complex one. -/
def subAttributes : Attribute → List Attribute
  | .simple _ _ _ => []
  | .complex _ _ subAttributes => subAttributes

def name? (a : Attribute) : Option String := a.traits.name?

def path (a : Attribute) : Locator := a.traits.path

def isRequired (a : Attribute) : Bool := a.traits.isRequired

def isMultiValued (a : Attribute) : Bool := a.cardinality.isMany

def subAttribute? (a : Attribute) (name : String) : Option Attribute :=
  a.subAttributes.find? fun sub => sub.name? == some name

end Attribute

end IdentitySchema
