/-
  IdentitySchema/Json/Fault.lean
  ==============================
  **What can be wrong with a text, and where.**  A fault is told together
  with a line and a column: lines count from one, and the column is the number
  of bytes of that line up to and including the offending one.
-/
import IdentitySchema.FileProblem

namespace IdentitySchema.Json

/-! ### Faults -/

inductive Fault where
  | endInList
  | endInObject
  | endInString
  | endInValue
  | expectedValue
  | expectedWord
  | expectedColon
  | expectedListEnd
  | expectedObjectEnd
  | keyNotString
  | trailingComma
  | trailingCharacters
  | invalidNumber
  | numberOutOfRange
  | invalidEscape
  | invalidCodePoint
  | loneSurrogate
  | unfinishedSurrogate
  | controlCharacter
  | tooDeep
  deriving DecidableEq

namespace Fault

def message : Fault → String
  | .endInList => "EOF while parsing a list"
  | .endInObject => "EOF while parsing an object"
  | .endInString => "EOF while parsing a string"
  | .endInValue => "EOF while parsing a value"
  | .expectedValue => "expected value"
  | .expectedWord => "expected ident"
  | .expectedColon => "expected `:`"
  | .expectedListEnd => "expected `,` or `]`"
  | .expectedObjectEnd => "expected `,` or `\x7d`"
  | .keyNotString => "key must be a string"
  | .trailingComma => "trailing comma"
  | .trailingCharacters => "trailing characters"
  | .invalidNumber => "invalid number"
  | .numberOutOfRange => "number out of range"
  | .invalidEscape => "invalid escape"
  | .invalidCodePoint => "invalid unicode code point"
  | .loneSurrogate => "lone leading surrogate in hex escape"
  | .unfinishedSurrogate => "unexpected end of hex escape"
  | .controlCharacter => "control character (\\u0000-\\u001F) found while parsing a string"
  | .tooDeep => "recursion limit exceeded"

def isEnd : Fault → Bool
  | .endInList | .endInObject | .endInString | .endInValue => true
  | _ => false

end Fault

/-- A fault and the number of bytes up to and including the offending one. A number is found to be
too large only when the byte after it has been looked at, which is then `ahead` of the count. -/
structure Flaw where
  fault : Fault
  reach : Nat
  ahead : Bool := false

/-- Does it take more than so many bytes to find the flaw? -/
def Flaw.isBeyond (flaw : Flaw) (length : Nat) : Bool :=
  flaw.fault.isEnd || length < flaw.reach + flaw.ahead.toNat

/-! ### Positions -/

structure Position where
  line : Nat
  column : Nat

/-- The position after some bytes of a text. -/
def Position.after (bytes : List UInt8) : Position :=
  ⟨1 + bytes.count 10, (bytes.reverse.takeWhile (· != 10)).length⟩

def Position.text (position : Position) : String :=
  " at line " ++ toString position.line ++ " column " ++ toString position.column

/-- Where the bytes of a document come from. A stream has handed out the byte that was looked at
ahead, and so counts it; a text has not. -/
inductive Source where
  | text
  | stream
  deriving DecidableEq

/-- The position of a flaw in a document. -/
def Flaw.position (flaw : Flaw) (source : Source) (bytes : List UInt8) : Position :=
  let reach := if flaw.ahead && source == .stream then flaw.reach + 1 else flaw.reach
  Position.after (bytes.take reach)

/-! ### Errors -/

/-- Why no value was obtained from a document. -/
inductive Error where
  | malformed (fault : Fault) (position : Position)
  /-- The document does not hold what was asked for. -/
  | mismatch (message : String) (position : Option Position)
  | unreadable (problem : FileProblem)

namespace Error

def category : Error → String
  | .malformed fault _ => if fault.isEnd then "Eof" else "Syntax"
  | .mismatch _ _ => "Data"
  | .unreadable _ => "Io"

def message : Error → String
  | .malformed fault position => fault.message ++ position.text
  | .mismatch message position => message ++ (position.map Position.text).getD ""
  | .unreadable problem => problem.message

end Error

end IdentitySchema.Json
