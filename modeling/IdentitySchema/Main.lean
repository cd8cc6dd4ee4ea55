/-
  IdentitySchema/Main.lean
  ========================
  **The program.**  It takes what stands under the first argument from the
  file system, and of a directory also the entries that are named like
  documents; has it inspected, and prints the lines it gets.

  The names of entries come as texts from here, so one that is no UTF-8 is not
  found again.
-/
import IdentitySchema.Inspection

namespace IdentitySchema

/-! ### Problems -/

/-- The problem with a number that the operating system gives it, and its words. Some calls give
the number with a minus. -/
def FileProblem.ofCode (code : UInt32) (words : String) : FileProblem :=
  match min code (-code) with
  | 2 => .notFound
  | 13 => .permissionDenied
  | 20 => .notADirectory
  | 21 => .isADirectory
  | 36 => .nameTooLong
  | _ => .other "Uncategorized" (words ++ " (os error " ++ toString (min code (-code)) ++ ")")

def FileProblem.ofError : IO.Error → FileProblem
  | .otherError code words | .resourceBusy code words | .resourceVanished code words
  | .unsupportedOperation code words | .hardwareFault code words
  | .unsatisfiedConstraints code words | .illegalOperation code words
  | .protocolError code words | .timeExpired code words
  | .alreadyExists _ code words | .interrupted _ code words | .noFileOrDirectory _ code words
  | .invalidArgument _ code words | .permissionDenied _ code words
  | .resourceExhausted _ code words | .inappropriateType _ code words
  | .noSuchThing _ code words => .ofCode code words
  | .unexpectedEof => .other "UnexpectedEof" "unexpected end of file"
  | .userError words => .other "Other" words

/-- What comes of an action that may meet a problem. -/
def attempt {α : Type} (action : IO α) : IO (Except FileProblem α) := do
  match ← action.toBaseIO with
  | .ok value => return .ok value
  | .error error => return .error (.ofError error)

/-! ### Files and directories -/

/-- Read an open file to its end, or as far as it can be read. -/
def readStream (handle : IO.FS.Handle) : IO Stream := do
  let mut content := ByteArray.empty
  repeat
    match ← attempt (handle.read 65536) with
    | .error problem => return ⟨content.data.toList, some problem⟩
    | .ok bytes =>
      if bytes.isEmpty then break
      content := content ++ bytes
  return ⟨content.data.toList, none⟩

def openStream (path : String) : IO (Except FileProblem Stream) := do
  match ← attempt (IO.FS.Handle.mk path .read) with
  | .error problem => return .error problem
  | .ok handle => return .ok (← readStream handle)

/-- The names of the entries of a directory. -/
def listNames (path : String) : IO (Except FileProblem (List FileName)) := do
  match ← attempt (System.mkFilePath [path]).readDir with
  | .error problem => return .error problem
  | .ok entries =>
    return .ok (entries.toList.map fun entry => (FilePath.ofText entry.fileName).bytes)

def readNode (path : String) : IO (Except FileProblem FileNode) := do
  match ← attempt (System.mkFilePath [path]).metadata with
  | .error problem =>
    -- what cannot be found out about cannot be opened either, and that has the words to be printed
    match ← openStream path with
    | .error problem => return .error problem
    | .ok _ => return .error problem
  | .ok metadata =>
    match metadata.type with
    | .file => return .ok (.file (← openStream path))
    | .dir => return .ok (.directory (← listNames path))
    | _ => return .ok (.special (← openStream path))

/-- What `inspect` asks for, given the path that it is to inspect. -/
def readFiles (path : String) : IO FileSystem := do
  let found ← readNode path
  let names := match found with
    | .ok (.directory (.ok names)) => Inspection.documentNames names
    | _ => []
  let entries ← names.mapM fun name => do
    let entry := FilePath.entry path name
    return (entry, ← readNode entry.text)
  return fun asked =>
    match ((FilePath.ofText path, found) :: entries).find? fun entry => entry.1 == asked with
    | some entry => entry.2
    | none => .error .notFound

def printLine : OutputLine → IO Unit
  | .out text => IO.println text
  | .err text => IO.eprintln text

end IdentitySchema

open IdentitySchema in
def main (arguments : List String) : IO UInt32 := do
  let files : FileSystem ← match arguments with
    | [] => pure fun _ => .error .notFound
    | path :: _ => readFiles path
  let transcript := inspect "schema-validator" files arguments
  transcript.lines.forM printLine
  return transcript.exitCode.toUInt32
