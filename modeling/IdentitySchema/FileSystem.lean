/-
  IdentitySchema/FileSystem.lean
  ==============================
  **Files and directories as a value.**  Whatever reads schema documents from
  a file system is given a function from paths to what stands there: a regular
  file with what comes of opening it, a directory with the names it lists, or
  something else, such as a pipe.  Where not even that can be found out the
  function has a problem in its place.  A tree of files is one such function.

  Paths and names are bytes and need not be UTF-8; they are shown as texts.
-/
import IdentitySchema.FileProblem
import IdentitySchema.Text.Utf8

namespace IdentitySchema

/-! ### Paths -/

/-- The name of an entry of a directory. -/
abbrev FileName := List UInt8

structure FilePath where
  bytes : List UInt8
  deriving DecidableEq

namespace FilePath

def ofText (text : String) : FilePath := ⟨text.toUTF8.data.toList⟩

instance : Coe String FilePath := ⟨ofText⟩

/-- The path as it is shown. -/
def text (path : FilePath) : String := Text.Utf8.lossy path.bytes

/-- The byte between the steps of a path. -/
def separator : UInt8 := 0x2f

def steps (path : FilePath) : List FileName := path.bytes.splitOn separator

/-- The path of an entry of a directory. -/
def entry (directory : FilePath) (name : FileName) : FilePath :=
  if directory.bytes.getLast?.all (· == separator) then ⟨directory.bytes ++ name⟩
  else ⟨directory.bytes ++ separator :: name⟩

end FilePath

/-- What follows the last dot of a file name. A dot at the start of the name does not count. -/
def extension? (name : FileName) : Option (List UInt8) :=
  let reversed := name.reverse
  match reversed.dropWhile (· != 0x2e) with
  | _ :: _ :: _ => some (reversed.takeWhile (· != 0x2e)).reverse
  | _ => none

/-! ### What stands at a path -/

/-- What is read from an open file: some bytes, after which it ends or breaks off. -/
structure Stream where
  content : List UInt8
  problem? : Option FileProblem := none

inductive FileNode where
  /-- A regular file, opened for reading. -/
  | file (opened : Except FileProblem Stream)
  /-- A directory with the names of its entries, in the order in which they are listed. An entry
  that is not given when its turn comes is left out. -/
  | directory (listing : Except FileProblem (List FileName))
  /-- What is neither, opened for reading. -/
  | special (opened : Except FileProblem Stream)

namespace FileNode

def isFile : FileNode → Bool
  | .file _ => true
  | .directory _ | .special _ => false

/-- What comes of opening it; a directory that can be listed can be opened, but not read. -/
def opened : FileNode → Except FileProblem Stream
  | .file opened | .special opened => opened
  | .directory (.ok _) => .ok ⟨[], some .isADirectory⟩
  | .directory (.error problem) => .error problem

def listing : FileNode → Except FileProblem (List FileName)
  | .directory listing => listing
  | .file _ | .special _ => .error .notADirectory

end FileNode

/-- What stands at each path, or why its metadata cannot be read. -/
abbrev FileSystem := FilePath → Except FileProblem FileNode

namespace FileSystem

def openFile (files : FileSystem) (path : FilePath) : Except FileProblem Stream := do
  (← files path).opened

def listDirectory (files : FileSystem) (path : FilePath) : Except FileProblem (List FileName) := do
  (← files path).listing

/-- Does the file system show a regular file at the path? -/
def isFile (files : FileSystem) (path : FilePath) : Bool :=
  match files path with
  | .ok node => node.isFile
  | .error _ => false

end FileSystem

/-! ### Trees of files -/

/-- A file with its bytes, or a directory with its named entries. -/
inductive FileTree where
  | file (content : List UInt8)
  | directory (entries : List (FileName × FileTree))

namespace FileTree

/-- The greatest length of a path, in bytes. -/
def pathLimit : Nat := 4095

/-- The greatest length of a name, in bytes. -/
def nameLimit : Nat := 255

def node : FileTree → FileNode
  | .file content => .file (.ok ⟨content, none⟩)
  | .directory entries => .directory (.ok (entries.map (·.1)))

def child? : FileTree → FileName → Except FileProblem FileTree
  | .file _, _ => .error .notADirectory
  | .directory entries, name =>
    if nameLimit < name.length then .error .nameTooLong
    else
      match entries.find? fun entry => entry.1 == name with
      | some entry => .ok entry.2
      | none => .error .notFound

/-- Follow the steps of a path from `here`; `above` are the directories on the way, nearest first.
Every step, also an empty one at the end of the path, needs a directory to stand in: an empty step
and `.` stay, `..` goes back, any other step enters. -/
def follow (above : List FileTree) (here : FileTree) : List FileName → Except FileProblem FileTree
  | [] => .ok here
  | step :: rest =>
    match here with
    | .file _ => .error .notADirectory
    | .directory _ =>
      if step = [] ∨ step = [0x2e] then follow above here rest
      else if step = [0x2e, 0x2e] then
        match above with
        | [] => follow [] here rest
        | parent :: further => follow further parent rest
      else
        match here.child? step with
        | .ok next => follow (here :: above) next rest
        | .error problem => .error problem

/-- The tree as a file system; the empty path leads to its root. -/
def resolve (root : FileTree) (path : FilePath) : Except FileProblem FileNode :=
  if pathLimit < path.bytes.length then .error .nameTooLong
  else (root.follow [] path.steps).map node

/-- Replace the entry with a given name, or add it. -/
def putEntry (name : FileName) (tree : FileTree) :
    List (FileName × FileTree) → List (FileName × FileTree)
  | [] => [(name, tree)]
  | (other, old) :: rest =>
    if other = name then (name, tree) :: rest else (other, old) :: putEntry name tree rest

/-- Put a tree at the end of some steps, through directories that are made where there are none. -/
def put (tree : FileTree) : List String → FileTree → FileTree
  | [], _ => tree
  | step :: rest, here =>
    let name := (FilePath.ofText step).bytes
    let entries := match here with
      | .directory entries => entries
      | .file _ => []
    let old := ((entries.find? fun entry => entry.1 == name).map (·.2)).getD (.directory [])
    .directory (putEntry name (put tree rest old) entries)

end FileTree

end IdentitySchema
