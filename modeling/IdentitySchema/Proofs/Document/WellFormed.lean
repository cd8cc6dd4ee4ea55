/-
  IdentitySchema/Proofs/Document/WellFormed.lean
  ==============================================
  **Which documents describe a schema.**  A document is accepted when none of
  its parts contributes a violation, so acceptance is settled part by part:
  the id, the name and the description by the reader of each and by the rules
  of the role, the keys by the list of those that documents have, and the
  attributes by `Fragment.accepted_iff`, each entry for itself.
-/
import IdentitySchema.Proofs.Document.Reports
import IdentitySchema.Proofs.Fragment.WellFormed

namespace IdentitySchema

/-! ### Well-formed documents -/

namespace Document

/-- The name of a resource schema can be left out, that of a service provider cannot. -/
def NameFits (document : Json.Members) : SchemaRole → Prop
  | .resource => document.MayHave "name" fun value =>
      value = .null ∨ ∃ name, value = .string name ∧ name.toList ∈ Name.resourceSchemaNames
  | .serviceProvider => document.Has "name" fun value =>
      ∃ name, value = .string name ∧ name.toList ∈ Name.serviceProviderNames

def DescriptionFits (document : Json.Members) : SchemaRole → Prop
  | .resource => document.MayHave "description" fun value => value = .null ∨ value.IsString
  | .serviceProvider => document.Has "description" Json.IsString

/-- The documents that describe a schema of a role. -/
structure WellFormed (role : SchemaRole) (document : Json.Members) : Prop where
  keys : ∀ key ∈ document.keys,
    key ∈ ["id", "externalId", "meta", "name", "description", "attributes"]
  id : document.Has "id" fun value => ∃ id, value = .string id ∧ id ≠ ""
  name : NameFits document role
  description : DescriptionFits document role
  attributes : document.MayHave "attributes" fun value => value = .null ∨
    ∃ fragments : List Json.Members, value = .array (fragments.map .object) ∧
      ∀ fragment ∈ fragments, Fragment.WellFormed false fragment

end Document

/-! ### When a part contributes nothing -/

namespace Schema

namespace Declaration

variable {d : Declaration}

theorem idViolations_eq_nil : d.idViolations = [] ↔ ∃ id, d.declaredId = .valid id ∧ id ≠ "" := by
  unfold idViolations
  cases d.declaredId with
  | valid id => simp
  | invalid raw => simp

/-- The names, or lack of a name, that the role lets a declaration have. -/
def FitName : SchemaRole → Option String → Prop
  | .resource, name? => ∀ name, name? = some name → name.toList ∈ Name.resourceSchemaNames
  | .serviceProvider, name? => ∃ name, name? = some name ∧ name.toList ∈ Name.serviceProviderNames

theorem nameViolations_eq_nil :
    d.nameViolations = [] ↔ ∃ name?, d.declaredName = .valid name? ∧ FitName d.role name? := by
  unfold nameViolations
  cases d.declaredName with
  | invalid raw => simp
  | valid name? =>
    cases d.role with
    | resource =>
      cases name? with
      | none => simp [FitName]
      | some name => simp [FitName, ← Name.isResourceSchemaName_iff]
    | serviceProvider =>
      cases name? with
      | none => simp [FitName]
      | some name => simp [FitName, ← Name.isServiceProviderName_iff]

def FitDescription : SchemaRole → Option String → Prop
  | .resource, _ => True
  | .serviceProvider, text? => ∃ text, text? = some text

theorem descriptionViolations_eq_nil :
    d.descriptionViolations = [] ↔
      ∃ text?, d.declaredDescription = .valid text? ∧ FitDescription d.role text? := by
  unfold descriptionViolations
  cases d.declaredDescription with
  | invalid raw => simp
  | valid text? =>
    cases d.role with
    | resource => simp [FitDescription]
    | serviceProvider =>
      cases text? with
      | none => simp [FitDescription]
      | some text => simp [FitDescription]

end Declaration

variable {role : SchemaRole} {document : Json.Members}

theorem header_idViolations_eq_nil :
    (header role document).idViolations = [] ↔
      document.Has "id" fun value => ∃ id, value = .string id ∧ id ≠ "" := by
  rw [Declaration.idViolations_eq_nil]
  constructor
  · rintro ⟨id, hvalid, hne⟩
    obtain ⟨value, hvalue, hstring⟩ := Declared.mandatory_eq_valid.mp hvalid
    exact ⟨value, hvalue, id, Json.string?_eq_some.mp hstring, hne⟩
  · rintro ⟨value, hvalue, id, hstring, hne⟩
    exact ⟨id, Declared.mandatory_eq_valid.mpr ⟨value, hvalue, Json.string?_eq_some.mpr hstring⟩,
      hne⟩

theorem header_nameViolations_eq_nil :
    (header role document).nameViolations = [] ↔ Document.NameFits document role := by
  rw [Declaration.nameViolations_eq_nil]
  cases role with
  | resource =>
    have hnone : Declaration.FitName .resource none := by simp [Declaration.FitName]
    refine (Declared.exists_text_and_iff hnone).trans (Json.Members.mayHave_congr fun value => ?_)
    simp [Declaration.FitName]
  | serviceProvider =>
    have hnone : ¬ Declaration.FitName .serviceProvider none := by simp [Declaration.FitName]
    refine (Declared.exists_text_and_iff_of_not hnone).trans
      (Json.Members.has_congr fun value => ?_)
    simp [Declaration.FitName]

theorem header_descriptionViolations_eq_nil :
    (header role document).descriptionViolations = [] ↔
      Document.DescriptionFits document role := by
  rw [Declaration.descriptionViolations_eq_nil]
  cases role with
  | resource =>
    have hnone : Declaration.FitDescription .resource none := trivial
    refine (Declared.exists_text_and_iff hnone).trans (Json.Members.mayHave_congr fun value => ?_)
    simp [Declaration.FitDescription, Json.IsString]
  | serviceProvider =>
    have hnone : ¬ Declaration.FitDescription .serviceProvider none := by
      simp [Declaration.FitDescription]
    refine (Declared.exists_text_and_iff_of_not hnone).trans
      (Json.Members.has_congr fun value => ?_)
    simp [Declaration.FitDescription, Json.IsString]

theorem keyContribution_eq_nil :
    keyContribution document = [] ↔ ∀ key ∈ document.keys, key ∈ documentProperties := by
  have hknown : unknownKeys document = [] ↔ ∀ key ∈ document.keys, key ∈ documentProperties := by
    simp [List.eq_nil_iff_forall_not_mem, mem_unknownKeys]
  rw [← hknown, keyContribution]
  by_cases h : unknownKeys document = []
  · simp [h]
  · simp [h]

theorem reported_entryAttempt_eq_nil {location : String} {entry : Json} :
    (entryAttempt location entry).reported = [] ↔
      ∃ fragment, entry = .object fragment ∧ Fragment.WellFormed false fragment := by
  have hfull : ∀ report, entryAttempt location entry = .error report → report.Full := by
    intro report h
    rw [← ofEntry_eq_entryAttempt] at h
    exact Attribute.full_of_ofEntry (fun _ => .leaf _) h
  rw [Attempt.reported_eq_nil_iff hfull, ← ofEntry_eq_entryAttempt, Fragment.accepted_entry_iff]
  simp only [Fragment.accepted_iff]

theorem attributeContributions_eq_nil :
    (∀ contribution ∈ attributeContributions document, contribution = []) ↔
      document.MayHave "attributes" fun value => value = .null ∨
        ∃ fragments : List Json.Members, value = .array (fragments.map .object) ∧
          ∀ fragment ∈ fragments, Fragment.WellFormed false fragment := by
  unfold attributeContributions Json.Members.MayHave
  cases document.get? "attributes" with
  | none => simp
  | some value =>
    cases value with
    | null => simp
    | array entries =>
      simp only [List.forall_mem_map, reported_entryAttempt_eq_nil, Json.forall_mem_object_iff]
      simp
    | _ => simp

/-- **Acceptance of documents.** A document is built into a schema of a role exactly when it is well
formed for the role. -/
theorem ofDocument_accepts_iff (role : SchemaRole) (document : Json.Members) :
    (∃ s, ofDocument role document = .ok s) ↔ Document.WellFormed role document := by
  rw [exists_ofDocument_eq_ok_iff]
  simp only [contributions, headerContributions, List.forall_mem_append, List.forall_mem_cons,
    header_idViolations_eq_nil, header_nameViolations_eq_nil, header_descriptionViolations_eq_nil,
    attributeContributions_eq_nil, keyContribution_eq_nil]
  constructor
  · rintro ⟨⟨⟨hid, hname, hdescription, -⟩, hattributes⟩, hkeys, -⟩
    exact ⟨hkeys, hid, hname, hdescription, hattributes⟩
  · rintro ⟨hkeys, hid, hname, hdescription, hattributes⟩
    have hnone : ∀ contribution ∈ ([] : List (List SchemaViolation)), contribution = [] :=
      fun _ hmem => absurd hmem List.not_mem_nil
    exact ⟨⟨⟨hid, hname, hdescription, hnone⟩, hattributes⟩, hkeys, hnone⟩

end Schema

end IdentitySchema
