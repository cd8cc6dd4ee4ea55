/-
  IdentitySchema/FileProblem.lean
  ===============================
  **What a file system refuses.**  A file is not found, not opened or not
  read, and a directory not listed, for one of these reasons.  The common ones
  have names; any other comes with its own words.
-/

namespace IdentitySchema

inductive FileProblem where
  | notFound
  | permissionDenied
  | notADirectory
  | isADirectory
  | nameTooLong
  | other (kind text : String)
  deriving DecidableEq

namespace FileProblem

def kindName : FileProblem → String
  | .notFound => "NotFound"
  | .permissionDenied => "PermissionDenied"
  | .notADirectory => "NotADirectory"
  | .isADirectory => "IsADirectory"
  | .nameTooLong => "InvalidFilename"
  | .other kind _ => kind

def message : FileProblem → String
  | .notFound => "No such file or directory (os error 2)"
  | .permissionDenied => "Permission denied (os error 13)"
  | .notADirectory => "Not a directory (os error 20)"
  | .isADirectory => "Is a directory (os error 21)"
  | .nameTooLong => "File name too long (os error 36)"
  | .other _ text => text

end FileProblem

end IdentitySchema
