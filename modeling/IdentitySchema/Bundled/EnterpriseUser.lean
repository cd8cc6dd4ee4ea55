/-
  IdentitySchema/Bundled/EnterpriseUser.lean
  ==========================================
  **The schema that extends users by what enterprises record about them.**
-/
import IdentitySchema.Bundled.Entry

namespace IdentitySchema.Bundled

/-- The schema that extends users by what enterprises record about them. -/
def enterpriseUserDocument : Json :=
  .object [
    ("id", .string "urn:ietf:params:scim:schemas:extension:enterprise:2.0:User"),
    ("name", .string "EnterpriseUser"),
    ("description", .string "Enterprise User"),
    ("attributes", .array [
      entry {
        name := "employeeNumber",
        description? := some (
          "Numeric or alphanumeric identifier assigned to a person, typically based on order "
            ++ "of hire or association with an organization.") },
      entry { name := "costCenter", description? := some "Identifies the name of a cost center." },
      entry {
        name := "organization",
        description? := some "Identifies the name of an organization." },
      entry { name := "division", description? := some "Identifies the name of a division." },
      entry { name := "department", description? := some "Identifies the name of a department." },
      entry {
        name := "manager", type := .complex, description? := some "The User's manager.",
        detail := [("subAttributes", .array [
          entry {
            name := "value",
            description? := some "The id of the SCIM resource representing the User's manager." },
          entry {
            name := "$ref", type := .reference,
            description? := some "The URI of the SCIM resource representing the User's manager.",
            detail := [("referenceTypes", texts ["User"])] },
          entry {
            name := "displayName",
            description? := some "The displayName of the User's manager.",
            mutability := .readOnly }])] }])]

end IdentitySchema.Bundled
