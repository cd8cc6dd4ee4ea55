/-
  IdentitySchema/Name.lean
  ========================
  **The grammars of names**: of attributes, of resource schemas, and of the
  schemas of service providers.
-/
import IdentitySchema.Text.Blank
import IdentitySchema.Text.WordChar

namespace IdentitySchema.Name

/-- A character that can stand inside the name of an attribute. -/
def isNameChar (c : Char) : Bool :=
  c == '$' || c == '-' || c == '_' || Text.isWordChar c

/-- A letter and any number of name characters. -/
def isAttributeName (name : String) : Bool :=
  match name.toList with
  | first :: rest => first.isAlpha && rest.all isNameChar
  | [] => false

/-- A letter, any number of letters and white space, and one name character at the end. -/
def isResourceSchemaName (name : String) : Bool :=
  match name.toList with
  | first :: next :: rest =>
    first.isAlpha
      && ((next :: rest).dropLast.all fun c => c.isAlpha || Text.isBlank c)
      && isNameChar ((next :: rest).getLast (List.cons_ne_nil _ _))
  | _ => false

/-- Any number of word characters, and one name character at the end. -/
def isServiceProviderName (name : String) : Bool :=
  match name.toList with
  | first :: rest =>
    ((first :: rest).dropLast.all Text.isWordChar)
      && isNameChar ((first :: rest).getLast (List.cons_ne_nil _ _))
  | [] => false

end IdentitySchema.Name
