/-
  IdentitySchema/Bundled/Group.lean
  =================================
  **The schema of groups.**
-/
import IdentitySchema.Bundled.Entry

namespace IdentitySchema.Bundled

def groupDocument : Json :=
  .object [
    ("id", .string "urn:ietf:params:scim:schemas:core:2.0:Group"),
    ("name", .string "Group"),
    ("description", .string "Group"),
    ("attributes", .array [
      entry {
        name := "id",
        description? := some (
          "Unique identifier for the SCIM resource as defined by the Service Provider."),
        caseExact := true, mutability := .readOnly, returned := .always,
        uniqueness := .server },
      entry {
        name := "externalId",
        description? := some (
          "A String that is an identifier for the resource as defined by the provisioning "
            ++ "client.") },
      entry {
        name := "meta", type := .complex,
        description? := some "A complex attribute that contains resource metadata.",
        mutability := .readOnly,
        detail := [("subAttributes", .array [
          entry {
            name := "resourceType",
            description? := some "The name of the resource type of the resource.",
            mutability := .readOnly },
          entry {
            name := "created", type := .datetime,
            description? := some "The DateTime the Resource was added to the Service Provider.",
            mutability := .readOnly },
          entry {
            name := "lastModified", type := .datetime,
            description? := some (
              "The most recent DateTime that the details of this resource were updated at "
                ++ "the Service Provider."),
            mutability := .readOnly },
          entry {
            name := "location",
            description? := some "The URI of the resource being returned.",
            mutability := .readOnly },
          entry {
            name := "version",
            description? := some "The version of the resource being returned.",
            mutability := .readOnly }])] },
      entry {
        name := "displayName",
        description? := some "A human-readable name for the Group. REQUIRED." },
      .object [
        ("name", .string "members"),
        ("type", .string "complex"),
        ("multiValued", .bool true),
        ("description", .string "A list of members of the Group."),
        ("required", .bool false),
        ("caseExact", .bool false),
        ("uniqueness", .string "none"),
        ("subAttributes", .array [
          entry {
            name := "value", description? := some "Identifier of the member of this Group.",
            mutability := .immutable },
          .object [
            ("name", .string "$ref"),
            ("type", .string "reference"),
            ("referenceTypes", texts ["User", "Group"]),
            ("multiValued", .bool false),
            ("description", .string (
                "The URI corresponding to a SCIM resource that is a member of this Group.")),
            ("required", .bool false),
            ("caseExact", .bool false),
            ("mutability", .string "immutable"),
            ("returned", .string "default"),
            ("uniqueness", .string "none")],
          .object [
            ("name", .string "type"),
            ("type", .string "string"),
            ("multiValued", .bool false),
            ("description", .string (
                "A label indicating the type of resource, e.g., 'User' or 'Group'.")),
            ("required", .bool false),
            ("caseExact", .bool false),
            ("canonicalValues", texts ["User", "Group"]),
            ("mutability", .string "immutable"),
            ("returned", .string "default"),
            ("uniqueness", .string "none")],
          entry {
            name := "display",
            description? := some (
              "A human-readable name, primarily used for display purposes. READ-ONLY."),
            mutability := .readOnly }]),
        ("mutability", .string "readWrite"),
        ("returned", .string "default")]])]

end IdentitySchema.Bundled
