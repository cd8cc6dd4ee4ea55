/-
  IdentitySchema/Declared.lean
  ============================
  **Properties as a document declares them.**  A property that does not read
  as what it should be is kept as it was written, to be reported when the
  shape of the document is checked.
-/
import IdentitySchema.Json.Compact

namespace IdentitySchema

/-- A property that reads as it should, or the value that stands in its place. -/
inductive Declared (α : Type) where
  | valid (value : α)
  | invalid (raw : Json)

namespace Declared

variable {α : Type}

def ofJson (read? : Json → Option α) (raw : Json) : Declared α :=
  match read? raw with
  | some value => .valid value
  | none => .invalid raw

def optional (read? : Json → Option α) (absent : α) : Option Json → Declared α
  | none => .valid absent
  | some raw => ofJson read? raw

/-- Read a property that must be there; a missing one counts as null. -/
def mandatory (read? : Json → Option α) : Option Json → Declared α
  | none => .invalid .null
  | some raw => ofJson read? raw

def valid? : Declared α → Option α
  | .valid value => some value
  | .invalid _ => none

/-- A declared text, or the rendering of what stands in its place. -/
def label : Declared String → String
  | .valid text => text
  | .invalid raw => raw.rendered

end Declared

/-! ### Readers -/

namespace Json

def bool? : Json → Option Bool
  | .bool value => some value
  | _ => none

/-- A value, or null for none. -/
def orNull? {α : Type} (read? : Json → Option α) : Json → Option (Option α)
  | .null => some none
  | raw => (read? raw).map some

def strings? : Json → Option (List String)
  | .array items => items.mapM string?
  | _ => none

end Json

end IdentitySchema
