/-
  IdentitySchema/Bundled/ServiceProvider.lean
  ===========================================
  **The schema of the configuration of a service provider.**
-/
import IdentitySchema.Bundled.Entry

namespace IdentitySchema.Bundled

def serviceProviderDocument : Json :=
  .object [
    ("id", .string "urn:ietf:params:scim:schemas:core:2.0:ServiceProviderConfig"),
    ("name", .string "ServiceProviderConfig"),
    ("description", .string "Schema for representing the service provider's configuration"),
    ("attributes", .array [
      entry { name := "documentationUri", type := .reference, mutability := .readOnly },
      entry {
        name := "patch", type := .complex, required := true, mutability := .readOnly,
        detail := [("subAttributes", .array [
          entry {
            name := "supported", type := .boolean, required := true, mutability := .readOnly }])] },
      entry {
        name := "bulk", type := .complex, required := true, mutability := .readOnly,
        detail := [("subAttributes", .array [
          entry {
            name := "supported", type := .boolean, required := true, mutability := .readOnly },
          entry {
            name := "maxOperations", type := .integer, required := true,
            mutability := .readOnly },
          entry {
            name := "maxPayloadSize", type := .integer, required := true,
            mutability := .readOnly }])] },
      entry {
        name := "filter", type := .complex, required := true, mutability := .readOnly,
        detail := [("subAttributes", .array [
          entry {
            name := "supported", type := .boolean, required := true, mutability := .readOnly },
          entry {
            name := "maxResults", type := .integer, required := true,
            mutability := .readOnly }])] },
      entry {
        name := "changePassword", type := .complex, required := true,
        mutability := .readOnly,
        detail := [("subAttributes", .array [
          entry {
            name := "supported", type := .boolean, required := true, mutability := .readOnly }])] },
      entry {
        name := "sort", type := .complex, required := true, mutability := .readOnly,
        detail := [("subAttributes", .array [
          entry {
            name := "supported", type := .boolean, required := true, mutability := .readOnly }])] },
      entry {
        name := "etag", type := .complex, required := true, mutability := .readOnly,
        detail := [("subAttributes", .array [
          entry {
            name := "supported", type := .boolean, required := true, mutability := .readOnly }])] },
      entry {
        name := "authenticationSchemes", type := .complex, multiValued := true,
        required := true, mutability := .readOnly,
        detail := [("subAttributes", .array [
          entry { name := "name", required := true, mutability := .readOnly },
          entry { name := "description", required := true, mutability := .readOnly },
          entry { name := "specUri", type := .reference, mutability := .readOnly },
          entry { name := "documentationUri", type := .reference, mutability := .readOnly },
          entry {
            name := "type", required := true, mutability := .readOnly,
            detail := [("canonicalValues", texts [
                "oauth", "oauth2", "oauthbearertoken", "httpbasic", "httpdigest"])] },
          entry { name := "primary", type := .boolean, mutability := .readOnly }])] }])]

end IdentitySchema.Bundled
