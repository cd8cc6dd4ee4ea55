/-
  IdentitySchema/Json/Compact.lean
  ================================
  **Values as text.**  `compact` writes a value without any space; `rendered`
  is the same except that a string stands for itself, without quotes; and
  `indented` writes every item and member on a line of its own.

  In a string only the quote, the backslash and the controls below U+0020 are
  written with an escape.
-/
import IdentitySchema.Json.Basic
import IdentitySchema.Text.Quoted

namespace IdentitySchema.Json

/-! ### Strings -/

/-- A control below U+0020 as `\u` and four hexadecimal digits. -/
def controlEscape (code : Nat) : String :=
  "\\u00" ++ (if code < 0x10 then "0" else "") ++ Text.hexadecimal code

/-- A character as it is written between the quotes. -/
def escapeChar (c : Char) : String :=
  if c = '"' then "\\\""
  else if c = '\\' then "\\\\"
  else if c.toNat = 0x08 then "\\b"
  else if c.toNat = 0x0c then "\\f"
  else if c = '\n' then "\\n"
  else if c = '\r' then "\\r"
  else if c = '\t' then "\\t"
  else if c.toNat < 0x20 then controlEscape c.toNat
  else String.singleton c

/-- A string as a document holds it. -/
def stringText (text : String) : String :=
  "\"" ++ String.join (text.toList.map escapeChar) ++ "\""

/-! ### Without spaces -/

mutual

/-- A value without any space. -/
def compact : Json → String
  | .null => "null"
  | .bool value => if value then "true" else "false"
  | .number value => value.text
  | .string value => stringText value
  | .array items => "[" ++ ",".intercalate (compactItems items) ++ "]"
  | .object members => "\x7b" ++ ",".intercalate (compactMembers members) ++ "\x7d"
  termination_by structural x => x

def compactItems : List Json → List String
  | [] => []
  | item :: rest => compact item :: compactItems rest
  termination_by structural items => items

def compactMembers : List (String × Json) → List String
  | [] => []
  | (key, value) :: rest => (stringText key ++ ":" ++ compact value) :: compactMembers rest
  termination_by structural members => members

end

theorem compactItems_eq_map (items : List Json) : compactItems items = items.map compact := by
  induction items with
  | nil => rfl
  | cons item rest ih => rw [compactItems, ih, List.map_cons]

theorem compactMembers_eq_map (members : List (String × Json)) :
    compactMembers members
      = members.map fun member => stringText member.1 ++ ":" ++ compact member.2 := by
  induction members with
  | nil => rfl
  | cons member rest ih => rw [compactMembers, ih, List.map_cons]

/-- A value inside a message: a string as it is, any other value without spaces. -/
def rendered : Json → String
  | .string value => value
  | other => compact other

/-! ### With indentation -/

/-- Lines between an opening and a closing bracket, each a level further in than the brackets. -/
def block (opening closing indent : String) (lines : List String) : String :=
  if lines.isEmpty then opening ++ closing
  else
    let inner := indent ++ "  "
    opening ++ "\n" ++ ",\n".intercalate (lines.map (inner ++ ·)) ++ "\n" ++ indent ++ closing

mutual

/-- A value with every item and member on a line of its own; `indent` is what the line of the
value starts with. -/
def indentedBelow (indent : String) : Json → String
  | .array items => block "[" "]" indent (indentedItems (indent ++ "  ") items)
  | .object members => block "\x7b" "\x7d" indent (indentedMembers (indent ++ "  ") members)
  | other => compact other
  termination_by structural x => x

def indentedItems (indent : String) : List Json → List String
  | [] => []
  | item :: rest => indentedBelow indent item :: indentedItems indent rest
  termination_by structural items => items

def indentedMembers (indent : String) : List (String × Json) → List String
  | [] => []
  | (key, value) :: rest =>
    (stringText key ++ ": " ++ indentedBelow indent value) :: indentedMembers indent rest
  termination_by structural members => members

end

def indented (value : Json) : String :=
  indentedBelow "" value

end IdentitySchema.Json
