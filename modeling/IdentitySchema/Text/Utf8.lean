/-
  IdentitySchema/Text/Utf8.lean
  =============================
  **Decoding UTF-8 one byte at a time.**  Between two characters there is
  nothing to remember; inside a character it is the bits read so far, the
  number of bytes still owed, and the bounds of the next one.  The bounds are
  what keeps out overlong forms, surrogates and values above U+10FFFF.

  `lossy` shows any bytes as a text: what starts a character and does not
  complete it is replaced by one character, and so is a byte that starts none.
-/

namespace IdentitySchema.Text.Utf8

/-- The part of a character that has been read. -/
structure Partial where
  /-- The bits read so far. -/
  code : Nat
  /-- The bytes still owed, at least one. -/
  owed : Nat
  /-- The least value of the next byte. -/
  low : Nat
  /-- The greatest value of the next byte. -/
  high : Nat

inductive Step where
  | complete (c : Char)
  | more (read : Partial)
  | invalid

/-- The step on the first byte of a character. -/
def first (byte : Nat) : Step :=
  if byte ≤ 0x7f then .complete (Char.ofNat byte)
  else if byte < 0xc2 then .invalid
  else if byte ≤ 0xdf then .more ⟨byte - 0xc0, 1, 0x80, 0xbf⟩
  else if byte = 0xe0 then .more ⟨0, 2, 0xa0, 0xbf⟩
  else if byte = 0xed then .more ⟨0xd, 2, 0x80, 0x9f⟩
  else if byte ≤ 0xef then .more ⟨byte - 0xe0, 2, 0x80, 0xbf⟩
  else if byte = 0xf0 then .more ⟨0, 3, 0x90, 0xbf⟩
  else if byte ≤ 0xf3 then .more ⟨byte - 0xf0, 3, 0x80, 0xbf⟩
  else if byte = 0xf4 then .more ⟨4, 3, 0x80, 0x8f⟩
  else .invalid

/-- The step on a later byte of a character. -/
def next (read : Partial) (byte : Nat) : Step :=
  if read.low ≤ byte ∧ byte ≤ read.high then
    let code := read.code * 0x40 + (byte - 0x80)
    if read.owed = 1 then .complete (Char.ofNat code)
    else .more ⟨code, read.owed - 1, 0x80, 0xbf⟩
  else .invalid

/-- The character that stands for bytes that are no UTF-8. -/
def replacement : Char := '\ufffd'

/-- The step on a byte, wherever it stands. A character that it does not go on with is given up, and
the byte is taken for the first of another one. -/
def step : Option Partial → Nat → List Char × Step
  | none, byte => ([], first byte)
  | some read, byte =>
    match next read byte with
    | .invalid => ([replacement], first byte)
    | step => ([], step)

/-- The characters that some bytes go on with. -/
def lossyChars : Option Partial → List UInt8 → List Char
  | none, [] => []
  | some _, [] => [replacement]
  | read?, byte :: rest =>
    let (givenUp, step) := step read? byte.toNat
    givenUp ++ match step with
      | .complete c => c :: lossyChars none rest
      | .more read => lossyChars (some read) rest
      | .invalid => replacement :: lossyChars none rest

/-- The text of some bytes. -/
def lossy (bytes : List UInt8) : String :=
  String.ofList (lossyChars none bytes)

end IdentitySchema.Text.Utf8
