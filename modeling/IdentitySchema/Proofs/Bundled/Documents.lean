/-
  IdentitySchema/Proofs/Bundled/Documents.lean
  ============================================
  **The bundled schemas are there.**  The bundled documents are kept as texts,
  and a text is read and built each time its schema is asked for.  Every step
  of that could fail and none does: a document that was written is read back
  in order (`read_indented`), and what is read is well formed.
-/
import IdentitySchema.Bundled
import IdentitySchema.Proofs.Bundled.Entries
import IdentitySchema.Proofs.Document.Constructed
import IdentitySchema.Proofs.Document.WellFormed

namespace IdentitySchema.Bundled

/-! ### Documents -/

/-- The text of a document that is well formed, once it is in order, gives a schema. -/
theorem exists_ofText_indented {members : Json.Members}
    (hplain : (Json.object members).plainWithin Json.depthLimit = true)
    (hformed : Document.WellFormed .resource (Json.arrangedMembers [] members)) :
    ∃ s, Schema.ofText (Json.object members).indented = .ok s ∧
      Schema.ofDocument .resource (Json.arrangedMembers [] members) = .ok s := by
  have haccepted : ∀ contribution ∈
      Schema.contributions .resource (Json.arrangedMembers [] members), contribution = [] := by
    have hnone : ∀ contribution ∈ ([] : List (List SchemaViolation)), contribution = [] :=
      List.forall_mem_nil _
    simp only [Schema.contributions, Schema.headerContributions, List.forall_mem_append,
      List.forall_mem_cons]
    exact ⟨⟨⟨Schema.header_idViolations_eq_nil.mpr hformed.id,
          Schema.header_nameViolations_eq_nil.mpr hformed.name,
          Schema.header_descriptionViolations_eq_nil.mpr hformed.description, hnone⟩,
        Schema.attributeContributions_eq_nil.mpr hformed.attributes⟩,
      Schema.keyContribution_eq_nil.mpr hformed.keys, hnone⟩
  obtain ⟨s, hs⟩ := (Schema.exists_ofDocument_eq_ok_iff _ _).mpr haccepted
  have hread : Json.ofBytes .text (Json.bytesOf (Json.object members).indented) =
      .ok (.object (Json.arrangedMembers [] members)) := by
    rw [Json.ofBytes, Json.read_indented hplain]
    rfl
  refine ⟨s, ?_, hs⟩
  rw [Schema.ofText, Schema.ofSource, hread]
  change Failure.liftSchema (Schema.ofDocument .resource (Json.arrangedMembers [] members)) = .ok s
  rw [hs]
  rfl

/-- The four properties that the bundled documents have. -/
def documentMembers (id name description : String) (attributes : List Json) : Json.Members :=
  [("id", .string id), ("name", .string name), ("description", .string description),
    ("attributes", .array attributes)]

section Header

variable {id name description : String} {attributes : List Json}

theorem get?_documentMembers {key : String} {value : Json}
    (h : (key, value) ∈ documentMembers id name description attributes) :
    (Json.arrangedMembers [] (documentMembers id name description attributes)).get? key =
      some value.arranged := by
  have hnodup : ["id", "name", "description", "attributes"].Nodup := by decide
  exact Json.get?_arrangedMembers_of_mem hnodup h

theorem wellFormed_document (hid : id ≠ "") (hname : Name.isResourceSchemaName name = true)
    (hattributes : ∀ value ∈ attributes, Describes false value) :
    Document.WellFormed .resource
      (Json.arrangedMembers [] (documentMembers id name description attributes)) := by
  have hkeys : ∀ key ∈ ["id", "name", "description", "attributes"],
      key ∈ Schema.documentProperties := by decide
  have hobjects : ∀ item ∈ attributes.map Json.arranged,
      ∃ fragment, item = .object fragment ∧ Fragment.WellFormed false fragment := by
    intro item hitem
    obtain ⟨value, hvalue, rfl⟩ := List.mem_map.mp hitem
    exact hattributes value hvalue
  obtain ⟨fragments, hitems, hformed⟩ := Json.forall_mem_object_iff.mp hobjects
  have hlist : (Json.array attributes).arranged = .array (fragments.map .object) := by
    rw [Json.arranged, Json.arrangedItems_eq_map, hitems]
  exact {
    keys := by
      intro key hkey
      rcases Json.mem_keys_arrangedMembers hkey with hnone | hkey
      · cases hnone
      · exact hkeys key hkey
    id := ⟨_, get?_documentMembers (.head _), id, rfl, hid⟩
    name := Json.Members.mayHave_of_get? (get?_documentMembers (.tail _ (.head _)))
      (.inr ⟨name, rfl, Name.isResourceSchemaName_iff.mp hname⟩)
    description := Json.Members.mayHave_of_get?
      (get?_documentMembers (.tail _ (.tail _ (.head _)))) (.inr ⟨description, rfl⟩)
    attributes := Json.Members.mayHave_of_get?
      (get?_documentMembers (.tail _ (.tail _ (.tail _ (.head _)))))
      (.inr ⟨fragments, hlist, hformed⟩) }

end Header

theorem user_attributes_describe :
    ∃ attributes, userDocument = .object (documentMembers
        "urn:ietf:params:scim:schemas:core:2.0:User" "User" "User Account" attributes) ∧
      ∀ value ∈ attributes, Describes false value := by
  refine ⟨_, rfl, ?_⟩
  -- entry by entry, each by its kind of detail; complex entries leave their sub-attributes
  repeat' first
    | exact List.forall_mem_nil _
    | refine List.forall_mem_cons.mpr ⟨?_, ?_⟩
    | exact entry_describes_simple _ (by decide) (by decide) (.bare rfl)
    | exact entry_describes_simple _ (by decide) (by decide) (.canonicalValues _ rfl)
    | exact entry_describes_simple _ (by decide) (by decide) (.referenceTypes _ rfl rfl)
    | refine entry_describes_complex _ (by decide) rfl rfl ?_

/-- Three fragments of the document of groups list the properties of an entry in another order. -/
theorem group_attributes_describe :
    ∃ attributes, groupDocument = .object (documentMembers
        "urn:ietf:params:scim:schemas:core:2.0:Group" "Group" "Group" attributes) ∧
      ∀ value ∈ attributes, Describes false value := by
  refine ⟨_, rfl, ?_⟩
  refine List.forall_mem_cons.mpr ⟨?id, List.forall_mem_cons.mpr ⟨?externalId,
    List.forall_mem_cons.mpr ⟨?metadata, List.forall_mem_cons.mpr ⟨?displayName,
      List.forall_mem_cons.mpr ⟨?members, ?rest⟩⟩⟩⟩⟩
  case id => exact entry_describes_simple _ (by decide) (by decide) (.bare rfl)
  case externalId => exact entry_describes_simple _ (by decide) (by decide) (.bare rfl)
  case metadata =>
    refine entry_describes_complex _ (by decide) rfl rfl ?_
    repeat' first
      | exact List.forall_mem_nil _
      | refine List.forall_mem_cons.mpr ⟨?_, ?_⟩
      | exact entry_describes_simple _ (by decide) (by decide) (.bare rfl)
  case displayName => exact entry_describes_simple _ (by decide) (by decide) (.bare rfl)
  case members =>
    let group (subs : List Json) : Entry :=
      { name := "members", type := .complex, multiValued := true,
        description? := some "A list of members of the Group.",
        detail := [("subAttributes", .array subs)] }
    let reference : Entry :=
      { name := "$ref", type := .reference,
        description? := some
          "The URI corresponding to a SCIM resource that is a member of this Group.",
        mutability := .immutable, detail := [("referenceTypes", texts ["User", "Group"])] }
    let kind : Entry :=
      { name := "type",
        description? := some "A label indicating the type of resource, e.g., 'User' or 'Group'.",
        mutability := .immutable, detail := [("canonicalValues", texts ["User", "Group"])] }
    refine describes_complex (e := group _)
      (.append_left [_, _, _, _, _, _] (@List.perm_append_comm _ [_, _] [_, _]))
      (by decide) rfl rfl ?_
    refine List.forall_mem_cons.mpr ⟨?value, List.forall_mem_cons.mpr ⟨?reference,
      List.forall_mem_cons.mpr ⟨?kind, List.forall_mem_cons.mpr ⟨?display, ?last⟩⟩⟩⟩
    case value => exact entry_describes_simple _ (by decide) (by decide) (.bare rfl)
    case reference =>
      exact describes_simple (e := reference)
        (.append_left [_, _] (@List.perm_append_comm _ [_] [_, _, _, _, _, _, _]))
        (by decide) (by decide) (.referenceTypes _ rfl rfl)
    case kind =>
      exact describes_simple (e := kind)
        (.append_left [_, _, _, _, _, _] (@List.perm_append_comm _ [_] [_, _, _]))
        (by decide) (by decide) (.canonicalValues _ rfl)
    case display => exact entry_describes_simple _ (by decide) (by decide) (.bare rfl)
    case last => exact List.forall_mem_nil _
  case rest => exact List.forall_mem_nil _

theorem enterpriseUser_attributes_describe :
    ∃ attributes, enterpriseUserDocument = .object (documentMembers
        "urn:ietf:params:scim:schemas:extension:enterprise:2.0:User" "EnterpriseUser"
        "Enterprise User" attributes) ∧
      ∀ value ∈ attributes, Describes false value := by
  refine ⟨_, rfl, ?_⟩
  repeat' first
    | exact List.forall_mem_nil _
    | refine List.forall_mem_cons.mpr ⟨?_, ?_⟩
    | exact entry_describes_simple _ (by decide) (by decide) (.bare rfl)
    | exact entry_describes_simple _ (by decide) (by decide) (.referenceTypes _ rfl rfl)
    | refine entry_describes_complex _ (by decide) rfl rfl ?_

/-! ### Schemas -/

/-- The text of a bundled document gives a schema with the id of the document. -/
theorem exists_ofText_document {document : Json} {id name description : String}
    (hid : id ≠ "") (hname : Name.isResourceSchemaName name = true)
    (hplain : document.plainWithin Json.depthLimit = true)
    (hdocument : ∃ attributes,
      document = .object (documentMembers id name description attributes) ∧
        ∀ value ∈ attributes, Describes false value) :
    ∃ s, Schema.ofText document.indented = .ok s ∧ s.id = id := by
  obtain ⟨attributes, rfl, hattributes⟩ := hdocument
  have hformed := @wellFormed_document id name description attributes hid hname hattributes
  obtain ⟨s, htext, hbuilt⟩ := exists_ofText_indented hplain hformed
  refine ⟨s, htext, ?_⟩
  rw [← Schema.locationOf_eq_id hbuilt, Schema.locationOf, get?_documentMembers (.head _)]
  rfl

/-- The core schemas are those of users and of groups. -/
theorem exists_coreSchemas :
    ∃ user group : Schema, coreSchemas = .ok [user, group] ∧
      user.id = "urn:ietf:params:scim:schemas:core:2.0:User" ∧
      group.id = "urn:ietf:params:scim:schemas:core:2.0:Group" ∧
      user.Constructed ∧ group.Constructed := by
  obtain ⟨user, huser, huserId⟩ := exists_ofText_document (by decide) (by decide) (by decide +kernel)
    user_attributes_describe
  obtain ⟨group, hgroup, hgroupId⟩ := exists_ofText_document (by decide) (by decide)
    (by decide +kernel) group_attributes_describe
  refine ⟨user, group, ?_, huserId, hgroupId, .text huser, .text hgroup⟩
  rw [coreSchemas, userText, groupText, huser, hgroup]
  rfl

/-- The extension is that of users in enterprises. -/
theorem exists_extensionSchemas :
    ∃ enterpriseUser : Schema, extensionSchemas = .ok [enterpriseUser] ∧
      enterpriseUser.id = "urn:ietf:params:scim:schemas:extension:enterprise:2.0:User" ∧
      enterpriseUser.Constructed := by
  obtain ⟨enterpriseUser, htext, hid⟩ := exists_ofText_document (by decide) (by decide)
    (by decide +kernel) enterpriseUser_attributes_describe
  refine ⟨enterpriseUser, ?_, hid, .text htext⟩
  rw [extensionSchemas, enterpriseUserText, htext]
  rfl

end IdentitySchema.Bundled
