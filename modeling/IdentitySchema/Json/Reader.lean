/-
  IdentitySchema/Json/Reader.lean
  ===============================
  **From tokens to a value.**  The reader takes one token after the other and
  keeps the lists and objects that are still open; at most 127 of them may be
  open at a time.  The first token that does not fit is the fault of the text.

  `leading` reads one value and says where the text goes on after it; `read`
  accepts the text only if nothing but blanks follows.  A stream that breaks
  off is told apart from one that ends (`brokenOff`).
-/
import IdentitySchema.Json.Token

namespace IdentitySchema.Json

/-! ### Open lists and objects -/

/-- A list or an object around the value that is being read. -/
inductive Frame where
  /-- The items before it, last first. -/
  | list (items : List Json)
  /-- The members before it, and its own key. -/
  | member (members : Members) (key : String)

/-- What the reader expects next, inside the frames that are open. -/
inductive Expecting where
  | value
  /-- The first item of a list, or its end. -/
  | firstItem
  /-- An item after a comma. -/
  | nextItem (items : List Json)
  /-- A comma or the end of the list. -/
  | afterItem (items : List Json)
  /-- The first key of an object, or its end. -/
  | firstKey
  /-- A key after a comma. -/
  | nextKey (members : Members)
  | colon (members : Members) (key : String)
  /-- A comma or the end of the object. -/
  | afterMember (members : Members)

/-- What one token leads to. -/
inductive Progress where
  | more (expecting : Expecting) (frames : List Frame)
  | complete (value : Json)

/-- The deepest nesting that is read. -/
def depthLimit : Nat := 127

/-! ### One token -/

def completed (value : Json) : List Frame → Progress
  | [] => .complete value
  | .list items :: frames => .more (.afterItem (value :: items)) frames
  | .member members key :: frames => .more (.afterMember (members.insert key value)) frames

def misfit (fault : Fault) (token : Token) : Flaw :=
  ⟨fault, token.start + 1, false⟩

/-- Open a list or an object inside the frames, if their number allows. -/
def enter (expecting : Expecting) (token : Token) (frames : List Frame) : Except Flaw Progress :=
  if frames.length < depthLimit then .ok (.more expecting frames)
  else .error (misfit .tooDeep token)

/-- A token where a value is expected. -/
def startValue (token : Token) (frames : List Frame) : Except Flaw Progress :=
  match token.lexeme with
  | .openList => enter .firstItem token frames
  | .openObject => enter .firstKey token frames
  | .null => .ok (completed .null frames)
  | .bool value => .ok (completed (.bool value) frames)
  | .number value => .ok (completed (.number value) frames)
  | .string value => .ok (completed (.string value) frames)
  | .broken _ flaw => .error flaw
  | .closeList | .closeObject | .comma | .colon => .error (misfit .expectedValue token)

def Expecting.step (expecting : Expecting) (token : Token) (frames : List Frame) :
    Except Flaw Progress :=
  match expecting, token.lexeme with
  | .value, _ => startValue token frames
  | .firstItem, .closeList => .ok (completed (.array []) frames)
  | .firstItem, _ => startValue token (.list [] :: frames)
  | .nextItem _, .closeList => .error (misfit .trailingComma token)
  | .nextItem items, _ => startValue token (.list items :: frames)
  | .afterItem items, .comma => .ok (.more (.nextItem items) frames)
  | .afterItem items, .closeList => .ok (completed (.array items.reverse) frames)
  | .afterItem _, _ => .error (misfit .expectedListEnd token)
  | .firstKey, .string key => .ok (.more (.colon [] key) frames)
  | .firstKey, .closeObject => .ok (completed (.object []) frames)
  | .firstKey, .broken true flaw => .error flaw
  | .firstKey, _ => .error (misfit .keyNotString token)
  | .nextKey members, .string key => .ok (.more (.colon members key) frames)
  | .nextKey _, .closeObject => .error (misfit .trailingComma token)
  | .nextKey _, .broken true flaw => .error flaw
  | .nextKey _, _ => .error (misfit .keyNotString token)
  | .colon members key, .colon => .ok (.more .value (.member members key :: frames))
  | .colon _ _, _ => .error (misfit .expectedColon token)
  | .afterMember members, .comma => .ok (.more (.nextKey members) frames)
  | .afterMember members, .closeObject => .ok (completed (.object members) frames)
  | .afterMember _, _ => .error (misfit .expectedObjectEnd token)

/-- The fault of a text that ends here. -/
def Expecting.unfinished : Expecting → Fault
  | .value | .nextItem _ | .nextKey _ => .endInValue
  | .firstItem | .afterItem _ => .endInList
  | .firstKey | .colon _ _ | .afterMember _ => .endInObject

/-! ### Whole texts -/

/-- The first value of a text: the offset after its last byte, and that of the next byte that is
not blank, if there is one. -/
structure Leading where
  value : Json
  stop : Nat
  next? : Option Nat

/-- Read on from a token; `length` is where the text ends. -/
def Expecting.run (length : Nat) (expecting : Expecting) (frames : List Frame) :
    List Token → Except Flaw Leading
  | [] => .error ⟨expecting.unfinished, length, false⟩
  | token :: rest =>
    match expecting.step token frames with
    | .error flaw => .error flaw
    | .ok (.more expecting frames) => expecting.run length frames rest
    | .ok (.complete result) => .ok ⟨result, token.stop, rest.head?.map (·.start)⟩

/-- The first value of a text. -/
def leading (bytes : List UInt8) : Except Flaw Leading :=
  Expecting.run bytes.length .value [] (tokens bytes)

/-- Nothing but blanks may follow the first value. -/
def Leading.ended (l : Leading) : Except Flaw Unit :=
  match l.next? with
  | none => .ok ()
  | some offset => .error ⟨.trailingCharacters, offset + 1, false⟩

/-- The value that a text is. -/
def read (bytes : List UInt8) : Except Flaw Json := do
  let l ← leading bytes
  l.ended
  return l.value

def bytesOf (text : String) : List UInt8 :=
  text.toUTF8.data.toList

/-- The value that a document is, with the place of the flaw if it is none. -/
def ofBytes (source : Source) (bytes : List UInt8) : Except Error Json :=
  match read bytes with
  | .ok value => .ok value
  | .error flaw => .error (.malformed flaw.fault (flaw.position source bytes))

/-- Why a stream that breaks off with a problem after some bytes has no value: they have a flaw, or
the byte is missed that does not come. -/
def brokenOff (bytes : List UInt8) (problem : FileProblem) : Error :=
  match read bytes with
  | .ok _ => .unreadable problem
  | .error flaw =>
    if flaw.isBeyond bytes.length then .unreadable problem
    else .malformed flaw.fault (flaw.position .stream bytes)

end IdentitySchema.Json
