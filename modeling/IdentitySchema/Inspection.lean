/-
  IdentitySchema/Inspection.lean
  ==============================
  **The command line.**  `inspect` is given a file or a directory of schema
  documents and tells for each document whether it describes a schema; for a
  directory without a faulty document it goes on to load a registry from it.
  It gives the lines to print, each with the stream it belongs to, and the
  exit code.
-/
import IdentitySchema.Registry.Builder

namespace IdentitySchema

/-! ### What is printed -/

inductive OutputLine where
  | out (text : String)
  | err (text : String)

structure Transcript where
  lines : List OutputLine
  exitCode : Nat

def Transcript.out (t : Transcript) : String :=
  String.join (t.lines.filterMap fun
    | .out text => some (text ++ "\n")
    | .err _ => none)

def Transcript.err (t : Transcript) : String :=
  String.join (t.lines.filterMap fun
    | .out _ => none
    | .err text => some (text ++ "\n"))

namespace Inspection

def usage (program : String) : Transcript where
  lines := [
    .err ("Usage: " ++ program ++ " <schema-file-or-directory>"),
    .err "",
    .err "Examples:",
    .err ("  " ++ program ++ " schemas/User.json"),
    .err ("  " ++ program ++ " ./schemas/")]
  exitCode := 1

/-! ### A single file -/

/-- How many attributes of each type there are, in order of the names of the types. -/
def typeCounts (attributes : List Attribute) : List (String × Nat) :=
  let counts := (Vocabulary.all (α := AttributeType)).map fun type =>
    (type.name, attributes.countP fun a => a.type == type)
  (counts.filter fun count => count.2 != 0).mergeSort fun a b => decide (a.1 ≤ b.1)

def summary (s : Schema) : List String :=
  let required := s.attributes.filter Attribute.isRequired
  let requiredNames := required.filterMap Attribute.name?
  ["",
    "Schema Summary:",
    "  ID: " ++ s.id,
    "  Name: " ++ s.name?.getD "-",
    "  Description: " ++ s.description?.getD "-",
    "  Attributes: " ++ toString s.attributes.length,
    "  Required attributes: " ++ toString required.length,
    "  Multi-valued attributes: " ++ toString (s.attributes.countP Attribute.isMultiValued),
    "  Attribute types:"]
  ++ (typeCounts s.attributes).map (fun (name, count) => "    - " ++ name ++ ": " ++ toString count)
  ++ if requiredNames.isEmpty then []
    else ["  Required attribute names: " ++ ", ".intercalate requiredNames]

def inspectFile (files : FileSystem) (path : String) : Transcript :=
  let opening := OutputLine.out ("Validating schema file: " ++ path)
  match Schema.ofFile files path with
  | .ok s => ⟨opening :: .out "✓ Schema is valid!" :: (summary s).map .out, 0⟩
  | .error failure => ⟨[opening, .err ("❌ Schema validation failed: " ++ failure.message)], 1⟩

/-! ### A directory -/

def title (s : Schema) : String := s.name?.getD "-" ++ " (" ++ s.id ++ ")"

/-- The names of the entries that are named like documents, in order. -/
def documentNames (names : List FileName) : List FileName :=
  (sortedNames names).filter isDocumentName

def inspectEntry (name : FileName) : Except Failure Schema → List OutputLine
  | .ok s =>
    [.out ("\nValidating: " ++ Text.Utf8.lossy name), .out ("  ✓ Valid - " ++ title s)]
  | .error failure =>
    [.out ("\nValidating: " ++ Text.Utf8.lossy name),
      .err ("  ❌ Invalid - " ++ failure.message)]

def inspectRegistry : Except Failure Registry → Transcript
  | .ok r =>
    ⟨[.out "✓ Schema registry loaded successfully",
      .out ("  Total schemas loaded: " ++ toString r.size)]
      ++ r.schemas.map fun s => .out ("    - " ++ title s), 0⟩
  | .error failure => ⟨[.err ("❌ Failed to load schema registry: " ++ failure.message)], 1⟩

def inspectEntries (files : FileSystem) (path : String) (names : List FileName) : Transcript :=
  let results := (documentNames names).map fun name =>
    (name, Schema.ofFile files (FilePath.entry path name))
  let valid := results.countP fun result => result.2.isOk
  let invalid := results.length - valid
  let counts :=
    .out ("Validating schemas in directory: " ++ path)
      :: results.flatMap (fun (name, result) => inspectEntry name result)
      ++ [.out "\nValidation Summary:",
        .out ("  Valid schemas: " ++ toString valid),
        .out ("  Invalid schemas: " ++ toString invalid)]
  if invalid = 0 then
    let registry := inspectRegistry (Registry.ofDirectory files path)
    ⟨counts ++ .out "\nTesting schema registry loading..." :: registry.lines, registry.exitCode⟩
  else ⟨counts, 1⟩

def inspectDirectory (files : FileSystem) (path : String) :
    Except FileProblem (List FileName) → Transcript
  | .ok names => inspectEntries files path names
  | .error problem =>
    ⟨[.out ("Validating schemas in directory: " ++ path),
      .err ("Error reading directory: " ++ problem.message)], 1⟩

end Inspection

/-- Inspect what stands under the first argument; further ones are ignored. -/
def inspect (program : String) (files : FileSystem) : List String → Transcript
  | [] => Inspection.usage program
  | path :: _ =>
    match files path with
    | .ok (.file _) => Inspection.inspectFile files path
    | .ok (.directory listing) => Inspection.inspectDirectory files path listing
    | _ => ⟨[.err ("Error: '" ++ path ++ "' is not a valid file or directory")], 1⟩

end IdentitySchema
