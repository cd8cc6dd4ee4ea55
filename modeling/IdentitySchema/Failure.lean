/-
  IdentitySchema/Failure.lean
  ===========================
  **Why something could not be done.**  Reading, building, registering and
  checking fail for different reasons; a failure is one of them, or the
  failure of loading a file because of another one.
-/
import IdentitySchema.Violation

namespace IdentitySchema

inductive Failure where
  | schema (report : SchemaError)
  | payload (report : PayloadError)
  | json (error : Json.Error)
  | file (problem : FileProblem)
  | schemaNotFound (id : String)
  | schemaLoad (path : String) (source : Failure)

namespace Failure

def message : Failure → String
  | .schema report => "Schema error: " ++ report.text
  | .payload report => "Validation error: " ++ report.text
  | .json error => "JSON error: " ++ error.message
  | .file problem => "I/O error: " ++ problem.message
  | .schemaNotFound id => "Schema not found: " ++ id
  | .schemaLoad path source => "Failed to load schema from " ++ path ++ ": " ++ source.message

/-- The messages of the failures behind a failure, from the nearest to the first cause. -/
def causes : Failure → List String
  | .schema report => [report.text]
  | .payload report => [report.text]
  | .json error => [error.message]
  | .file problem => [problem.message]
  | .schemaNotFound _ => []
  | .schemaLoad _ source => source.message :: source.causes

def liftSchema {α : Type} : Except SchemaError α → Except Failure α
  | .ok value => .ok value
  | .error report => .error (.schema report)

def liftPayload {α : Type} : Except PayloadError α → Except Failure α
  | .ok value => .ok value
  | .error report => .error (.payload report)

def liftJson {α : Type} : Except Json.Error α → Except Failure α
  | .ok value => .ok value
  | .error error => .error (.json error)

end Failure

end IdentitySchema
