/-
  IdentitySchema/Text/Quoted.lean
  ===============================
  **Quoted texts.**  A text between double quotes, with a backslash before
  quotes and backslashes, short forms for the usual controls, and the code
  point in hexadecimal for every other character that does not show up.
-/
import IdentitySchema.Text.Visible

namespace IdentitySchema.Text

/-- A code point in lower-case hexadecimal, without padding. -/
def hexadecimal (code : Nat) : String :=
  String.ofList (Nat.toDigits 16 code)

/-- A character as it is written between the quotes. -/
def quoteChar (c : Char) : String :=
  if c = '"' then "\\\""
  else if c = '\\' then "\\\\"
  else if c = '\x00' then "\\0"
  else if c = '\t' then "\\t"
  else if c = '\n' then "\\n"
  else if c = '\r' then "\\r"
  else if isVisible c then String.singleton c
  else "\\u\x7b" ++ hexadecimal c.toNat ++ "\x7d"

def quoted (text : String) : String :=
  "\"" ++ String.join (text.toList.map quoteChar) ++ "\""

/-- Quoted texts between square brackets, separated by a comma and a space. -/
def quotedList (texts : List String) : String :=
  "[" ++ ", ".intercalate (texts.map quoted) ++ "]"

end IdentitySchema.Text
