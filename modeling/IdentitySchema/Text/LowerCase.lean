/-
  IdentitySchema/Text/LowerCase.lean
  ==================================
  **Lower-casing of whole texts.**  Every character is replaced by its
  lower-case form on its own, with two exceptions: the capital I with a dot
  above becomes two characters, and the capital sigma becomes the final form
  at the end of a word and the ordinary form elsewhere.
-/
import IdentitySchema.Text.LowerCase.Table

namespace IdentitySchema.Text

/-! ### Single characters -/

/-- The lower-case form of one character away from any context. -/
def lowerChar (c : Char) : List Char :=
  if c.toNat < 0x80 then [c.toLower]
  else if c.toNat = 0x130 then ['i', '\u0307']
  else
    match caseRuns.find? (·.covers c.toNat) with
    | some run => [Char.ofNat (run.lower c.toNat)]
    | none => [c]

/-- Does the character have a case, or is it the upper or lower form of one that has? -/
def isCased (c : Char) : Bool :=
  casedRanges.contains c.toNat

/-- Is the character looked through when the neighbours of a sigma are asked for their case? -/
def isCaseIgnorable (c : Char) : Bool :=
  caseIgnorableRanges.contains c.toNat

/-! ### The capital sigma -/

/-- Is the first character that is not looked through a cased one? -/
def meetsCased (text : List Char) : Bool :=
  match text.dropWhile isCaseIgnorable with
  | c :: _ => isCased c
  | [] => false

/-- A capital sigma ends a word when a cased character comes before it, nearest first in
`before`, and none comes after it. -/
def endsWord (before after : List Char) : Bool :=
  meetsCased before && !meetsCased after

/-! ### Whole texts -/

/-- The lower-case form of a text that follows `before`, nearest character first. -/
def lowerChars (before : List Char) : List Char → List Char
  | [] => []
  | c :: rest =>
    (if c = 'Σ' then [if endsWord before rest then 'ς' else 'σ'] else lowerChar c)
      ++ lowerChars (c :: before) rest

def lowerCase (text : String) : String :=
  String.ofList (lowerChars [] text.toList)

end IdentitySchema.Text
