/-
  IdentitySchema/Bundled/Entry.lean
  =================================
  **Fragments of the bundled schemas.**  Most fragments list the same
  properties in the same order; an `Entry` holds those that vary, with the
  most frequent value of each as its default.
-/
import IdentitySchema.Vocabulary

namespace IdentitySchema.Bundled

structure Entry where
  name : String
  type : AttributeType := .string
  multiValued : Bool := false
  description? : Option String := none
  required : Bool := false
  caseExact : Bool := false
  mutability : Mutability := .readWrite
  returned : Returned := .default
  uniqueness : Uniqueness := .none
  /-- Sub-attributes, canonical values, or the kinds of resources that are referred to. -/
  detail : Json.Members := []

def texts (values : List String) : Json :=
  .array (values.map .string)

/-- The fragment with some properties, in the order in which they are listed. -/
def entry (e : Entry) : Json :=
  .object (
    [("name", .string e.name), ("type", .string e.type.name),
      ("multiValued", .bool e.multiValued)]
    ++ (match e.description? with
      | some description => [("description", .string description)]
      | none => [])
    ++ [("required", .bool e.required), ("caseExact", .bool e.caseExact),
      ("mutability", .string e.mutability.name), ("returned", .string e.returned.name),
      ("uniqueness", .string e.uniqueness.name)]
    ++ e.detail)

end IdentitySchema.Bundled
