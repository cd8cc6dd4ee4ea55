/-
  IdentitySchema/Schema/Reading.lean
  ==================================
  **Schemas from texts.**  A schema document can come as a text, as the bytes
  of a stream, or as something to be decoded into a schema on the spot.  The
  first two read the whole text and then build the schema; decoding builds it
  as soon as the first object is complete and looks at the rest of the text
  only afterwards, so its errors are all errors of the text.

  The stream of a file may not be opened, and may break off.
-/
import IdentitySchema.Failure
import IdentitySchema.FileSystem
import IdentitySchema.Json.Reader
import IdentitySchema.Schema.Basic

namespace IdentitySchema.Schema

/-! ### Reading the whole text first -/

/-- The schema that the bytes of a document describe. -/
def ofSource (source : Json.Source) (bytes : List UInt8) : Except Failure Schema := do
  let value ← Failure.liftJson (Json.ofBytes source bytes)
  Failure.liftSchema (ofJson value)

def ofText (text : String) : Except Failure Schema :=
  ofSource .text (Json.bytesOf text)

/-- The schema that the bytes of a stream describe. -/
def ofStream (bytes : List UInt8) : Except Failure Schema :=
  ofSource .stream bytes

/-- The schema that is read from an open file. -/
def load (stream : Stream) : Except Failure Schema :=
  match stream.problem? with
  | none => ofStream stream.content
  | some problem => .error (.json (Json.brokenOff stream.content problem))

/-- The schema that the file at a path describes. -/
def ofFile (files : FileSystem) (path : FilePath) : Except Failure Schema :=
  match files.openFile path with
  | .error problem => .error (.file problem)
  | .ok stream => load stream

/-! ### Decoding -/

/-- The schema that a value decodes to; `position` is where a value of the wrong kind ends. -/
def decodeAt (position : Option Json.Position) : Json → Except Json.Error Schema
  | .object document =>
    match ofDocument .resource document with
    | .ok schema => .ok schema
    | .error report => .error (.mismatch report.text none)
  | other => .error (.mismatch (Vocabulary.wrongKind other "a map") position)

def decodeJson (value : Json) : Except Json.Error Schema :=
  decodeAt none value

/-- Decode the first value of a text. A list is refused at its opening bracket. -/
def decodeLeading (bytes : List UInt8) : Except Json.Error Schema :=
  let malformed (flaw : Json.Flaw) : Json.Error :=
    .malformed flaw.fault (flaw.position .text bytes)
  match Json.tokens bytes with
  | ⟨start, _, .openList⟩ :: _ => decodeAt (some (.after (bytes.take start))) (.array [])
  | _ =>
    match Json.leading bytes with
    | .error flaw => .error (malformed flaw)
    | .ok l => do
      let schema ← decodeAt (some (.after (bytes.take l.stop))) l.value
      match l.ended with
      | .ok () => .ok schema
      | .error flaw => .error (malformed flaw)

def decodeText (text : String) : Except Json.Error Schema :=
  decodeLeading (Json.bytesOf text)

end IdentitySchema.Schema
