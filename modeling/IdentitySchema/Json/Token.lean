/-
  IdentitySchema/Json/Token.lean
  ==============================
  **The tokens of a text.**  `tokens` goes through the bytes once, one byte at
  a time, and remembers only what it is in the middle of (`Scan`).  Blanks are
  dropped.  Where a token cannot be completed the list ends with a broken one
  that tells why, so that whoever reads the tokens meets the first fault of
  the text in its place.
-/
import IdentitySchema.Json.Basic
import IdentitySchema.Json.Fault
import IdentitySchema.Text.Utf8

namespace IdentitySchema.Json

open IdentitySchema.Decimal

/-! ### Tokens -/

inductive Lexeme where
  | openList
  | closeList
  | openObject
  | closeObject
  | comma
  | colon
  | null
  | bool (value : Bool)
  | number (value : Number)
  | string (value : String)
  /-- No token: the text goes wrong here, inside a string or elsewhere. -/
  | broken (inString : Bool) (flaw : Flaw)

/-- A token and the offsets of its first byte and of the byte after its last. -/
structure Token where
  start : Nat
  stop : Nat
  lexeme : Lexeme

/-! ### Numbers -/

/-- Which part of a number comes next. -/
inductive NumberPart where
  | firstDigit
  | afterZero
  | whole
  | firstDecimal
  | decimals
  | exponentSign
  | firstExponentDigit
  | exponentDigits
  /-- The exponent is too large to matter: the number is zero. -/
  | vanished
  deriving DecidableEq

/-- The part of a number that has been read: the decimal `digits · 10 ^ scale` and an exponent.
The digits are the leading ones, as many as fit into 64 bits; `dropped` is set once one has been
left out of the part that is being read. -/
structure NumberScan where
  start : Nat
  part : NumberPart
  negative : Bool := false
  digits : Nat := 0
  scale : Int := 0
  dropped : Bool := false
  isReal : Bool := false
  exponentNegative : Bool := false
  exponent : Nat := 0

namespace NumberScan

/-- The largest exponent that is kept. -/
def exponentLimit : Nat := 2147483647

/-- The value of a complete number; a real beyond the greatest one is a fault. -/
def value? (n : NumberScan) : Option Number :=
  let asReal (scale : Int) : Option Number :=
    (Binary64.scaled? n.negative n.digits scale).map .real
  if n.part = .vanished then some (.real (.zero n.negative))
  else if n.isReal then
    asReal (n.scale + if n.exponentNegative then -(n.exponent : Int) else n.exponent)
  else if n.negative && n.digits == 0 then some (.real (.zero true))
  else
    let value : Int := if n.negative then -(n.digits : Int) else n.digits
    if h : FitsWord value then some (.integer value h) else asReal 0

/-- The token of a number that ends before the offset `stop`. -/
def finish (n : NumberScan) (stop : Nat) : Token :=
  match n.part with
  | .firstDigit | .firstDecimal | .exponentSign | .firstExponentDigit =>
    ⟨n.start, stop, .broken false ⟨.endInValue, stop, false⟩⟩
  | _ =>
    match n.value? with
    | some value => ⟨n.start, stop, .number value⟩
    | none => ⟨n.start, stop, .broken false ⟨.numberOutOfRange, stop, true⟩⟩

inductive Step where
  | more (n : NumberScan)
  | fault (fault : Fault)
  | ended

/-- The digits with one more, if they still fit into 64 bits. -/
def append? (n : NumberScan) (digit : Nat) : Option Nat :=
  let digits := n.digits * 10 + digit
  if n.dropped = false ∧ digits < Nat.pow 2 64 then some digits else none

/-- Add a digit before the point. One that is left out multiplies by ten, and makes the number a
real one. -/
def addWhole (n : NumberScan) (digit : Nat) : NumberScan :=
  match n.append? digit with
  | some digits => { n with digits := digits }
  | none => { n with dropped := true, isReal := true, scale := n.scale + 1 }

/-- Add a digit after the point. One that is left out changes nothing. -/
def addDecimal (n : NumberScan) (digit : Nat) : NumberScan :=
  match n.append? digit with
  | some digits => { n with digits := digits, scale := n.scale - 1 }
  | none => { n with dropped := true }

/-- Add a digit to the exponent. Once it is beyond the limit, the number is zero or too large. -/
def addExponentDigit (n : NumberScan) (digit : Nat) : Step :=
  let exponent := n.exponent * 10 + digit
  if exponent ≤ exponentLimit then
    .more { n with part := .exponentDigits, exponent := exponent }
  else if n.digits ≠ 0 ∧ n.exponentNegative = false then .fault .numberOutOfRange
  else .more { n with part := .vanished }

/-- After the whole part: a point, an exponent, or the end. -/
def afterWhole (n : NumberScan) (byte : Nat) : Step :=
  if byte = 0x2e then .more { n with part := .firstDecimal, isReal := true, dropped := false }
  else if byte = 0x65 ∨ byte = 0x45 then .more { n with part := .exponentSign, isReal := true }
  else .ended

def step (n : NumberScan) (byte : Nat) : Step :=
  let isDigit : Bool := 0x30 ≤ byte && byte ≤ 0x39
  let digit := byte - 0x30
  match n.part with
  | .firstDigit =>
    if isDigit then
      .more { n.addWhole digit with part := if digit = 0 then .afterZero else .whole }
    else .fault .invalidNumber
  | .afterZero => if isDigit then .fault .invalidNumber else n.afterWhole byte
  | .whole => if isDigit then .more (n.addWhole digit) else n.afterWhole byte
  | .firstDecimal =>
    if isDigit then .more { n.addDecimal digit with part := .decimals }
    else .fault .invalidNumber
  | .decimals =>
    if isDigit then .more (n.addDecimal digit)
    else if byte = 0x65 ∨ byte = 0x45 then .more { n with part := .exponentSign }
    else .ended
  | .exponentSign =>
    if byte = 0x2b then .more { n with part := .firstExponentDigit }
    else if byte = 0x2d then
      .more { n with part := .firstExponentDigit, exponentNegative := true }
    else if isDigit then n.addExponentDigit digit
    else .fault .invalidNumber
  | .firstExponentDigit =>
    if isDigit then n.addExponentDigit digit else .fault .invalidNumber
  | .exponentDigits => if isDigit then n.addExponentDigit digit else .ended
  | .vanished => if isDigit then .more n else .ended

end NumberScan

/-! ### Strings -/

/-- Which part of a string comes next. -/
inductive StringPart where
  | plain
  | escape
  /-- Some more hexadecimal digits after `\u`. `code` is none once one of them was no digit, and
  `high` is the first half of a pair of surrogates if one came before. -/
  | hexadecimal (owed : Nat) (code : Option Nat) (high : Option Nat)
  /-- The backslash of the second half of a pair. -/
  | secondEscape (high : Nat)
  /-- The letter `u` of the second half of a pair. -/
  | secondLetter (high : Nat)

/-- The part of a string that has been read. Bytes that are no UTF-8 are a fault of the string as a
whole, which shows at its closing quote. -/
structure StringScan where
  start : Nat
  part : StringPart := .plain
  /-- The characters so far, last first. -/
  chars : List Char := []
  /-- The bytes so far, an escape counting as those of its character. -/
  size : Nat := 0
  /-- A character that is not complete yet, with the size before its first byte. -/
  pending : Option (Nat × Text.Utf8.Partial) := none
  /-- The size before the first bytes that are no UTF-8. -/
  invalid : Option Nat := none

namespace StringScan

inductive Step where
  | more (s : StringScan)
  | fault (fault : Fault)
  | closed (s : StringScan)

def push (s : StringScan) (c : Char) : StringScan :=
  { s with part := .plain, chars := c :: s.chars, size := s.size + c.utf8Size }

/-- Take note of bytes that are no UTF-8, unless there have been some before. -/
def note (s : StringScan) (before : Nat) : StringScan :=
  { s with pending := none, invalid := s.invalid.or (some before) }

/-- No more bytes of the character that is not complete: it never will be. -/
def settle (s : StringScan) : StringScan :=
  match s.pending with
  | some (before, _) => s.note before
  | none => s

/-- Add a byte of the text itself. -/
def plainByte (s : StringScan) (byte : Nat) : StringScan :=
  let (before, step) := match s.pending with
    | none => (s.size, Text.Utf8.first byte)
    | some (before, read) => (before, Text.Utf8.next read byte)
  let s := { s with size := s.size + 1 }
  match step with
  | .complete c => { s with chars := c :: s.chars, pending := none }
  | .more read => { s with pending := some (before, read) }
  | .invalid => s.note before

/-- The character behind a backslash and one letter. -/
def shortEscape? (byte : Nat) : Option Char :=
  if byte = 0x22 ∨ byte = 0x5c ∨ byte = 0x2f then some (Char.ofNat byte)
  else if byte = 0x62 then some '\x08'
  else if byte = 0x66 then some '\x0c'
  else if byte = 0x6e then some '\n'
  else if byte = 0x72 then some '\r'
  else if byte = 0x74 then some '\t'
  else none

def hexDigit? (byte : Nat) : Option Nat :=
  if 0x30 ≤ byte ∧ byte ≤ 0x39 then some (byte - 0x30)
  else if 0x41 ≤ byte ∧ byte ≤ 0x46 then some (byte - 0x41 + 10)
  else if 0x61 ≤ byte ∧ byte ≤ 0x66 then some (byte - 0x61 + 10)
  else none

def isHigh (code : Nat) : Bool := 0xd800 ≤ code && code ≤ 0xdbff

def isLow (code : Nat) : Bool := 0xdc00 ≤ code && code ≤ 0xdfff

/-- Four hexadecimal digits are complete. -/
def unit (s : StringScan) (code : Option Nat) (high : Option Nat) : Step :=
  match code, high with
  | none, _ => .fault .invalidEscape
  | some code, none =>
    if isLow code then .fault .loneSurrogate
    else if isHigh code then .more { s with part := .secondEscape code }
    else .more (s.push (Char.ofNat code))
  | some code, some high =>
    if isLow code then
      .more (s.push (Char.ofNat (0x10000 + (high - 0xd800) * 0x400 + (code - 0xdc00))))
    else .fault .loneSurrogate

def step (s : StringScan) (byte : Nat) : Step :=
  match s.part with
  | .plain =>
    if byte = 0x22 then .closed s.settle
    else if byte = 0x5c then .more { s.settle with part := .escape }
    else if byte < 0x20 then .fault .controlCharacter
    else .more (s.plainByte byte)
  | .escape =>
    if byte = 0x75 then .more { s with part := .hexadecimal 3 (some 0) none }
    else
      match shortEscape? byte with
      | some c => .more (s.push c)
      | none => .fault .invalidEscape
  | .hexadecimal owed code high =>
    let code := do return (← code) * 0x10 + (← hexDigit? byte)
    match owed with
    | 0 => s.unit code high
    | owed + 1 => .more { s with part := .hexadecimal owed code high }
  | .secondEscape high =>
    if byte = 0x5c then .more { s with part := .secondLetter high } else .fault .unfinishedSurrogate
  | .secondLetter high =>
    if byte = 0x75 then .more { s with part := .hexadecimal 3 (some 0) (some high) }
    else .fault .unfinishedSurrogate

/-- The token of a string whose closing quote is before the offset `stop`. Bytes that are no UTF-8
are placed before that offset by the size of the string from them on. -/
def finish (s : StringScan) (stop : Nat) : Token :=
  match s.invalid with
  | some before =>
    ⟨s.start, stop, .broken true ⟨.invalidCodePoint, stop - (s.size - before), false⟩⟩
  | none => ⟨s.start, stop, .string (String.ofList s.chars.reverse)⟩

end StringScan

/-! ### Going through the bytes -/

/-- What the scanner is in the middle of. -/
inductive Scan where
  | between
  /-- The letters of a word that are still owed. -/
  | word (start : Nat) (letters : List Nat) (lexeme : Lexeme)
  | number (scan : NumberScan)
  | string (scan : StringScan)

/-- What a byte between two tokens leads to. -/
inductive Opening where
  | blank
  | whole (lexeme : Lexeme)
  | part (scan : Scan)

/-- The start of a token at an offset. -/
def opening (offset byte : Nat) : Opening :=
  if byte = 0x20 ∨ byte = 0x0a ∨ byte = 0x0d ∨ byte = 0x09 then .blank
  else if byte = 0x22 then .part (.string { start := offset })
  else if byte = 0x2c then .whole .comma
  else if byte = 0x3a then .whole .colon
  else if byte = 0x7b then .whole .openObject
  else if byte = 0x7d then .whole .closeObject
  else if byte = 0x5b then .whole .openList
  else if byte = 0x5d then .whole .closeList
  else if byte = 0x6e then .part (.word offset [0x75, 0x6c, 0x6c] .null)
  else if byte = 0x74 then .part (.word offset [0x72, 0x75, 0x65] (.bool true))
  else if byte = 0x66 then .part (.word offset [0x61, 0x6c, 0x73, 0x65] (.bool false))
  else if byte = 0x2d then
    .part (.number { start := offset, part := .firstDigit, negative := true })
  else if 0x30 ≤ byte ∧ byte ≤ 0x39 then
    .part (.number
      { start := offset, part := if byte = 0x30 then .afterZero else .whole, digits := byte - 0x30 })
  else .whole (.broken false ⟨.expectedValue, offset + 1, false⟩)

/-- What one byte leads to: the tokens it completes, and what the scanner is in the middle of
afterwards, which is nothing at all once the text has gone wrong. -/
def Scan.step (scan : Scan) (offset byte : Nat) : List Token × Option Scan :=
  let open? : List Token × Option Scan :=
    match opening offset byte with
    | .blank => ([], some .between)
    | .part scan => ([], some scan)
    | .whole (.broken inString flaw) => ([⟨offset, offset + 1, .broken inString flaw⟩], none)
    | .whole lexeme => ([⟨offset, offset + 1, lexeme⟩], some .between)
  let fault (start : Nat) (inString : Bool) (fault : Fault) : List Token × Option Scan :=
    ([⟨start, offset + 1, .broken inString ⟨fault, offset + 1, false⟩⟩], none)
  match scan with
  | .between => open?
  | .word start letters lexeme =>
    match letters with
    | [] => open?
    | letter :: rest =>
      if byte ≠ letter then fault start false .expectedWord
      else if rest.isEmpty then ([⟨start, offset + 1, lexeme⟩], some .between)
      else ([], some (.word start rest lexeme))
  | .number n =>
    match n.step byte with
    | .more n => ([], some (.number n))
    | .fault kind => fault n.start false kind
    | .ended =>
      let token := n.finish offset
      match token.lexeme with
      | .broken _ _ => ([token], none)
      | _ => (token :: open?.1, open?.2)
  | .string s =>
    match s.step byte with
    | .more s => ([], some (.string s))
    | .fault kind => fault s.start true kind
    | .closed s =>
      let token := s.finish (offset + 1)
      match token.lexeme with
      | .broken _ _ => ([token], none)
      | _ => ([token], some .between)

/-- The last token of a text that ends at an offset. -/
def Scan.finish (scan : Scan) (offset : Nat) : List Token :=
  match scan with
  | .between => []
  | .word start _ _ => [⟨start, offset, .broken false ⟨.endInValue, offset, false⟩⟩]
  | .number n => [n.finish offset]
  | .string s => [⟨s.start, offset, .broken true ⟨.endInString, offset, false⟩⟩]

/-- The tokens of the bytes from an offset on. -/
def Scan.run (scan : Scan) (offset : Nat) : List UInt8 → List Token
  | [] => scan.finish offset
  | byte :: rest =>
    match scan.step offset byte.toNat with
    | (tokens, some next) => tokens ++ next.run (offset + 1) rest
    | (tokens, none) => tokens

/-- The tokens of a text. -/
def tokens (bytes : List UInt8) : List Token :=
  Scan.run .between 0 bytes

end IdentitySchema.Json
