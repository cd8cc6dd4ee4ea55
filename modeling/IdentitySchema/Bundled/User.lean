/-
  IdentitySchema/Bundled/User.lean
  ================================
  **The schema of users.**
-/
import IdentitySchema.Bundled.Entry

namespace IdentitySchema.Bundled

def userDocument : Json :=
  .object [
    ("id", .string "urn:ietf:params:scim:schemas:core:2.0:User"),
    ("name", .string "User"),
    ("description", .string "User Account"),
    ("attributes", .array [
      entry {
        name := "id", caseExact := true, mutability := .readOnly, returned := .always,
        uniqueness := .server },
      entry { name := "userName", required := true, uniqueness := .server },
      entry { name := "externalId", caseExact := true },
      entry { name := "displayName" },
      entry { name := "nickName" },
      entry { name := "profileUrl", type := .reference },
      entry { name := "title" },
      entry { name := "userType" },
      entry { name := "preferredLanguage" },
      entry { name := "locale" },
      entry { name := "timezone" },
      entry {
        name := "name", type := .complex,
        detail := [("subAttributes", .array [
          entry { name := "formatted" },
          entry { name := "familyName" },
          entry { name := "givenName" },
          entry { name := "middleName" },
          entry { name := "honorificPrefix" },
          entry { name := "honorificSuffix" }])] },
      entry {
        name := "emails", type := .complex, multiValued := true,
        detail := [("subAttributes", .array [
          entry { name := "value" },
          entry {
            name := "type",
            detail := [("canonicalValues", texts ["work", "home", "other"])] },
          entry { name := "primary", type := .boolean },
          entry { name := "display" }])] },
      entry {
        name := "phoneNumbers", type := .complex, multiValued := true,
        detail := [("subAttributes", .array [
          entry { name := "value" },
          entry {
            name := "type",
            detail := [("canonicalValues", texts [
                "work", "home", "mobile", "fax", "pager", "other"])] },
          entry { name := "primary", type := .boolean },
          entry { name := "display" }])] },
      entry {
        name := "addresses", type := .complex, multiValued := true,
        detail := [("subAttributes", .array [
          entry { name := "formatted" },
          entry { name := "streetAddress" },
          entry { name := "locality" },
          entry { name := "region" },
          entry { name := "postalCode" },
          entry { name := "country" },
          entry {
            name := "type",
            detail := [("canonicalValues", texts ["work", "home", "other"])] },
          entry { name := "primary", type := .boolean }])] },
      entry { name := "active", type := .boolean },
      entry {
        name := "password", description? := some "The User's cleartext password.",
        mutability := .writeOnly, returned := .never },
      entry {
        name := "ims", type := .complex, multiValued := true,
        description? := some "Instant messaging addresses for the User.",
        detail := [("subAttributes", .array [
          entry { name := "value", description? := some "Value of the im entry." },
          entry {
            name := "display",
            description? := some "A human-readable name, primarily used for display purposes." },
          entry {
            name := "type",
            description? := some "A label indicating the attribute's function.",
            detail := [("canonicalValues", texts [
                "aim", "gtalk", "icq", "xmpp", "msn", "skype", "qq", "yahoo"])] },
          entry {
            name := "primary", type := .boolean,
            description? := some (
              "A Boolean value indicating the 'primary' or preferred attribute value.") }])] },
      entry {
        name := "photos", type := .complex, multiValued := true,
        description? := some "URLs of photos of the User.",
        detail := [("subAttributes", .array [
          entry {
            name := "value", type := .reference,
            description? := some "URL of a photo of the User." },
          entry {
            name := "display",
            description? := some "A human-readable name, primarily used for display purposes." },
          entry {
            name := "type",
            description? := some "A label indicating the attribute's function.",
            detail := [("canonicalValues", texts ["photo", "thumbnail"])] },
          entry {
            name := "primary", type := .boolean,
            description? := some (
              "A Boolean value indicating the 'primary' or preferred attribute value.") }])] },
      entry {
        name := "groups", type := .complex, multiValued := true,
        description? := some "A list of groups to which the user belongs.",
        mutability := .readOnly,
        detail := [("subAttributes", .array [
          entry {
            name := "value", description? := some "The identifier of the User's group.",
            mutability := .readOnly },
          entry {
            name := "$ref", type := .reference,
            description? := some "The URI of the corresponding 'Group' resource.",
            mutability := .readOnly,
            detail := [("referenceTypes", texts ["User", "Group"])] },
          entry {
            name := "display",
            description? := some "A human-readable name, primarily used for display purposes.",
            mutability := .readOnly },
          entry {
            name := "type",
            description? := some "A label indicating the attribute's function.",
            mutability := .readOnly,
            detail := [("canonicalValues", texts ["direct", "indirect"])] }])] },
      entry {
        name := "entitlements", type := .complex, multiValued := true,
        description? := some (
          "A list of entitlements for the User that represent a thing the User has."),
        detail := [("subAttributes", .array [
          entry { name := "value", description? := some "Value of the entitlement entry." },
          entry {
            name := "display",
            description? := some "A human-readable name, primarily used for display purposes." },
          entry {
            name := "primary", type := .boolean,
            description? := some (
              "A Boolean value indicating the 'primary' or preferred attribute value.") }])] },
      entry {
        name := "roles", type := .complex, multiValued := true,
        description? := some (
          "A list of roles for the User that collectively represent who the User is."),
        detail := [("subAttributes", .array [
          entry { name := "value", description? := some "Value of the role entry." },
          entry {
            name := "display",
            description? := some "A human-readable name, primarily used for display purposes." },
          entry {
            name := "primary", type := .boolean,
            description? := some (
              "A Boolean value indicating the 'primary' or preferred attribute value.") }])] },
      entry {
        name := "x509Certificates", type := .complex, multiValued := true,
        description? := some "A list of certificates issued to the User.",
        detail := [("subAttributes", .array [
          entry {
            name := "value", type := .binary,
            description? := some "The value of an X.509 certificate." },
          entry {
            name := "display",
            description? := some "A human-readable name, primarily used for display purposes." },
          entry {
            name := "primary", type := .boolean,
            description? := some (
              "A Boolean value indicating the 'primary' or preferred attribute value.") }])] },
      entry {
        name := "meta", type := .complex, mutability := .readOnly,
        detail := [("subAttributes", .array [
          entry { name := "resourceType", caseExact := true, mutability := .readOnly },
          entry { name := "created", type := .datetime, mutability := .readOnly },
          entry { name := "lastModified", type := .datetime, mutability := .readOnly },
          entry { name := "location", type := .reference, mutability := .readOnly },
          entry { name := "version", caseExact := true, mutability := .readOnly }])] }])]

end IdentitySchema.Bundled
