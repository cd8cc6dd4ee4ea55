/-
  IdentitySchema/Bundled.lean
  ===========================
  **The bundled schemas.**  Four schema documents come with the library: of
  users, of groups, of users in enterprises, and of the configuration of a
  service provider.  They are kept as texts, and read like any other text.
-/
import IdentitySchema.Bundled.EnterpriseUser
import IdentitySchema.Bundled.Group
import IdentitySchema.Bundled.ServiceProvider
import IdentitySchema.Bundled.User
import IdentitySchema.Schema.Reading

namespace IdentitySchema.Bundled

/-! ### The texts -/

def userText : String := userDocument.indented

def groupText : String := groupDocument.indented

def enterpriseUserText : String := enterpriseUserDocument.indented

def serviceProviderText : String := serviceProviderDocument.indented

/-! ### The schemas -/

def coreSchemas : Except Failure (List Schema) := do
  return [← Schema.ofText userText, ← Schema.ofText groupText]

def extensionSchemas : Except Failure (List Schema) := do
  return [← Schema.ofText enterpriseUserText]

/-- The schema of the configuration of a service provider, held to the rules for those. -/
def serviceProviderSchema : Except Failure Schema := do
  match ← Failure.liftJson (Json.ofBytes .text (Json.bytesOf serviceProviderText)) with
  | .object document => Failure.liftSchema (Schema.ofDocument .serviceProvider document)
  | other => .error (.json (.mismatch (Vocabulary.wrongKind other "a map") none))

end IdentitySchema.Bundled
