/-
  IdentitySchema/Registry/Builder.lean
  ====================================
  **Building registries.**  A registry is filled from the bundled schemas,
  then from directories in the order in which they were named, then from
  schemas that are given outright; a later source replaces what an earlier one
  put under the same id.

  Of a directory every entry is read that has the extension `json` and that
  the file system shows to be a regular file, in order of the names, whatever
  order the directory lists its entries in.
-/
import IdentitySchema.Bundled
import IdentitySchema.Registry

namespace IdentitySchema

/-! ### Directories of schema documents -/

/-- The names of some entries, in order of their bytes. -/
def sortedNames (names : List FileName) : List FileName :=
  names.mergeSort fun a b => decide (a ≤ b)

/-- Is a file name that of a schema document? -/
def isDocumentName (name : FileName) : Bool :=
  extension? name == some (Json.bytesOf "json")

namespace Registry

/-- Put the schemas of some documents of a directory under their ids, up to the first that fails. -/
def insertDocuments (r : Registry) (files : FileSystem) (directory : FilePath) :
    List FileName → Except Failure Registry
  | [] => .ok r
  | name :: rest =>
    match Schema.ofFile files (directory.entry name) with
    | .ok s => (r.insert s).insertDocuments files directory rest
    | .error source => .error (.schemaLoad (directory.entry name).text source)

/-- The names of the schema documents among the entries of a directory, in order. -/
def documents (files : FileSystem) (directory : FilePath) (names : List FileName) :
    List FileName :=
  (sortedNames names).filter fun name =>
    files.isFile (directory.entry name) && isDocumentName name

/-- Put the schemas of a directory under their ids. -/
def insertDirectory (r : Registry) (files : FileSystem) (path : FilePath) :
    Except Failure Registry :=
  match files.listDirectory path with
  | .error problem => .error (.schemaLoad path.text (.file problem))
  | .ok names => r.insertDocuments files path (documents files path names)

def ofDirectory (files : FileSystem) (path : FilePath) : Except Failure Registry :=
  empty.insertDirectory files path

/-! ### Builders -/

/-- What a registry is to be filled from. -/
structure Builder where
  bundled : Bool := true
  directories : List FilePath := []
  schemas : List Schema := []

namespace Builder

def withBundled (b : Builder) (bundled : Bool) : Builder := { b with bundled := bundled }

def withPath (b : Builder) (path : FilePath) : Builder :=
  { b with directories := b.directories ++ [path] }

/-- Name a directory by a text. -/
def withDirectory (b : Builder) (path : String) : Builder := b.withPath path

def withSchema (b : Builder) (s : Schema) : Builder := { b with schemas := b.schemas ++ [s] }

/-- The bundled schemas that the registry starts with. -/
def initial (b : Builder) : Except Failure Registry :=
  if b.bundled then do
    let core ← Bundled.coreSchemas
    let extension ← Bundled.extensionSchemas
    return ofList (core ++ extension)
  else .ok empty

def build (b : Builder) (files : FileSystem) : Except Failure Registry := do
  let start ← b.initial
  let loaded ← b.directories.foldlM (fun r path => r.insertDirectory files path) start
  return loaded.insertAll b.schemas

end Builder

/-! ### Bundled registries -/

/-- The registry of all bundled schemas of resources. -/
def bundled : Except Failure Registry := ({} : Builder).initial

def core : Except Failure Registry := do
  return ofList (← Bundled.coreSchemas)

def extensions : Except Failure Registry := do
  return ofList (← Bundled.extensionSchemas)

end Registry

end IdentitySchema
