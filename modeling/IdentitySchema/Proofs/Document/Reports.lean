/-
  IdentitySchema/Proofs/Document/Reports.lean
  ===========================================
  **What is reported for a schema document.**  Three passes look at a
  document: the attributes are built, what was built is checked together with
  the id, the name and the description, and the keys are held against those
  that are known.  Seen from the document the order of the passes does not
  matter: each part of it contributes what it is reported with on its own
  (`contributions`), and the report of the document is all of them together,
  in another order.

  The argument is that the passes split the entries of `attributes`.  An entry
  contributes either why it could not be built or what is wrong with the shape
  of what was built, and the first two passes find one of the two each.
-/
import IdentitySchema.Proofs.Fragment.Reports
import IdentitySchema.Schema.Basic

namespace IdentitySchema.Schema

open Report

/-! ### What the parts contribute -/

/-- Where reports on a document are located: at its id, or at what stands in its place. -/
def locationOf (document : Json.Members) : String :=
  (Declared.mandatory Json.string? (document.get? "id")).label

/-- What a document declares beside its attributes. -/
def header (role : SchemaRole) (document : Json.Members) : Declaration :=
  .ofDocument role document []

def headerContributions (role : SchemaRole) (document : Json.Members) :
    List (List SchemaViolation) :=
  [(header role document).idViolations, (header role document).nameViolations,
    (header role document).descriptionViolations]

def notAttributeList (location : String) (value : Json) : SchemaViolation :=
  .invalidProperty location "attributes" "a list of attribute definitions" value.rendered
    schemaReference

/-- The attempt at an entry of the list of attributes. It knows the document only by its
location. -/
def entryAttempt (location : String) : Json → Attempt
  | .object fragment => Attribute.ofFragment fragment ⟨.root location, false, false⟩ none
  | other => .error (.leaf (notAttributeList location other))

def attributeContributions (document : Json.Members) : List (List SchemaViolation) :=
  match document.get? "attributes" with
  | none | some .null => []
  | some (.array entries) =>
    entries.map fun entry => (entryAttempt (locationOf document) entry).reported
  | some other => [[notAttributeList (locationOf document) other]]

/-- The keys that no schema document has, in the order of the document. -/
def unknownKeys (document : Json.Members) : List String :=
  document.keys.filter fun key => !documentProperties.contains key

def keyContribution (document : Json.Members) : List SchemaViolation :=
  if unknownKeys document = [] then []
  else [.unexpectedProperties (locationOf document) (unknownKeys document)]

/-- What every part of a document is reported with on its own. -/
def contributions (role : SchemaRole) (document : Json.Members) : List (List SchemaViolation) :=
  headerContributions role document ++ attributeContributions document ++
    [keyContribution document]

/-! ### What the passes find -/

section Passes

variable (role : SchemaRole) (document : Json.Members)

def attempts : List Attempt := buildAttributes (locationOf document) (document.get? "attributes")

/-- What the three passes report, in their order. -/
def passReports : List SchemaError :=
  (attempts document).flatMap found ++
    (Declaration.ofDocument role document (attempts document)).shapeReports ++
    unexpectedReports (locationOf document) document

theorem listed_ofDocument :
    listed (ofDocument role document) = (passReports role document).flatMap violations := by
  unfold ofDocument
  dsimp only
  split
  · rename_i hpasses
    obtain ⟨hfailed, hshape, hunexpected⟩ := hpasses
    have hnil : passReports role document = [] := by
      unfold passReports
      rw [List.append_eq_nil_iff, List.append_eq_nil_iff]
      exact ⟨⟨hfailed, hshape⟩, hunexpected⟩
    rw [hnil]
    rfl
  · rw [listed_error, violations_group]
    rfl

variable {role document} in
/-- A document is refused with what the passes report, which is something. -/
theorem ofDocument_eq_error {report : SchemaError} (h : ofDocument role document = .error report) :
    report = .group (locationOf document) (passReports role document) ∧
      passReports role document ≠ [] := by
  unfold ofDocument at h
  dsimp only at h
  split at h
  · cases h
  · rename_i hpasses
    cases h
    refine ⟨rfl, fun hnil => hpasses ?_⟩
    unfold passReports at hnil
    rw [List.append_eq_nil_iff, List.append_eq_nil_iff] at hnil
    exact ⟨hnil.1.1, hnil.1.2, hnil.2⟩

/-- The checks of the id, the name and the description do not look at the attributes. -/
theorem shapeReports_eq :
    (Declaration.ofDocument role document (attempts document)).shapeReports =
      (headerContributions role document).flatten.map .leaf ++
        Attribute.shapeReports ((attempts document).filterMap Except.toOption) := by
  rw [headerContributions, List.flatten_cons, List.flatten_cons, List.flatten_singleton,
    ← List.append_assoc]
  rfl

/-- Every attempt is at a fragment in the list of attributes, or says that there is none. -/
theorem mem_attempts {b : Attempt} (h : b ∈ attempts document) :
    (∃ entries fragment, document.get? "attributes" = some (.array entries) ∧
      .object fragment ∈ entries ∧
      b = Attribute.ofFragment fragment ⟨.root (locationOf document), false, false⟩ none) ∨
    ∃ value, b = .error (.leaf (notAttributeList (locationOf document) value)) := by
  unfold attempts buildAttributes at h
  split at h
  · cases h
  · cases h
  · rename_i entries hlist
    obtain ⟨entry, hentry, rfl⟩ := List.mem_map.mp h
    cases entry with
    | object fragment => exact Or.inl ⟨entries, fragment, hlist, hentry, rfl⟩
    | _ => exact Or.inr ⟨_, rfl⟩
  · exact Or.inr ⟨_, List.mem_singleton.mp h⟩

/-- What the passes report is raised by an attempt, or is about the document itself. -/
theorem mem_passReports {report : SchemaError} (h : report ∈ passReports role document) :
    (∃ b ∈ attempts document, b.Raises report) ∨
    (∃ violation ∈ (headerContributions role document).flatten, report = .leaf violation) ∨
    report ∈ unexpectedReports (locationOf document) document := by
  unfold passReports at h
  rw [shapeReports_eq] at h
  rcases List.mem_append.mp h with h | hunexpected
  · rcases List.mem_append.mp h with hfailed | hshape
    · obtain ⟨b, hb, hfound⟩ := List.mem_flatMap.mp hfailed
      exact Or.inl ⟨b, hb, Or.inl (mem_found.mp hfound)⟩
    · rcases List.mem_append.mp hshape with hheader | hattribute
      · obtain ⟨violation, hviolation, rfl⟩ := List.mem_map.mp hheader
        exact Or.inr (Or.inl ⟨violation, hviolation, rfl⟩)
      · rw [Attribute.shapeReports_eq_flatMap] at hattribute
        obtain ⟨a, ha, hfound⟩ := List.mem_flatMap.mp hattribute
        obtain ⟨b, hb, hbuilt⟩ := List.mem_filterMap.mp ha
        exact Or.inl ⟨b, hb, Or.inr ⟨a, Attempt.eq_ok_of_toOption hbuilt, mem_found.mp hfound⟩⟩
  · exact Or.inr (Or.inr hunexpected)

theorem full_of_mem_passReports {report : SchemaError} (h : report ∈ passReports role document) :
    report.Full := by
  rcases mem_passReports role document h with ⟨b, hb, hfailed | ⟨a, -, hshape⟩⟩ | ⟨_, -, rfl⟩ |
    hunexpected
  · rcases mem_attempts document hb with ⟨_, fragment, -, -, rfl⟩ | ⟨_, rfl⟩
    · exact Attribute.full_of_ofFragment fragment _ _ report hfailed
    · cases hfailed
      exact .leaf _
  · exact a.full_of_checkShape report hshape
  · exact .leaf _
  · unfold unexpectedReports at hunexpected
    split at hunexpected
    · cases hunexpected
    · rw [List.mem_singleton.mp hunexpected]
      exact .leaf _

theorem full_of_ofDocument {report : SchemaError} (h : ofDocument role document = .error report) :
    report.Full := by
  obtain ⟨rfl, hne⟩ := ofDocument_eq_error h
  exact .group _ hne fun below hbelow => full_of_mem_passReports role document hbelow

/-! ### The passes and the parts -/

theorem ofEntry_eq_entryAttempt (location : String) (entry : Json) :
    Attribute.ofEntry (notFragments location) none { parent := .root location } entry =
      entryAttempt location entry := by
  cases entry with
  | object fragment => rfl
  | _ => rfl

theorem flatten_attributeContributions :
    (attributeContributions document).flatten =
      (attempts document).flatMap Attempt.reported := by
  unfold attributeContributions attempts
  cases document.get? "attributes" with
  | none => rfl
  | some value =>
    cases value with
    | null => rfl
    | array entries =>
      have hattempt : Attribute.ofEntry (notFragments (locationOf document)) none
          { parent := .root (locationOf document) } = entryAttempt (locationOf document) :=
        funext fun entry => ofEntry_eq_entryAttempt (locationOf document) entry
      rw [buildAttributes, hattempt, List.flatMap_map]
      rfl
    | _ => rfl

theorem flatMap_violations_unexpectedReports :
    (unexpectedReports (locationOf document) document).flatMap violations =
      keyContribution document := by
  unfold unexpectedReports keyContribution
  split
  · rename_i hnil
    have hunknown : unknownKeys document = [] := hnil
    rw [if_pos hunknown]
    rfl
  · rename_i hne
    have hunknown : unknownKeys document ≠ [] := hne
    rw [if_neg hunknown]
    rfl

theorem flatMap_violations_shapeReports :
    (Declaration.ofDocument role document (attempts document)).shapeReports.flatMap violations =
      (headerContributions role document).flatten ++
        (attempts document).flatMap Attempt.misshapen := by
  rw [shapeReports_eq, List.flatMap_append, flatMap_violations_leaf,
    Attribute.flatMap_violations_shapeReports, ← Attempt.flatMap_checkShape_built]

theorem listed_ofDocument_perm :
    (listed (ofDocument role document)).Perm (contributions role document).flatten := by
  have hsplit := Attempt.unbuilt_append_misshapen_perm (attempts document)
  rw [listed_ofDocument]
  unfold passReports contributions
  rw [List.flatMap_append, List.flatMap_append, Attempt.flatMap_violations_failed,
    flatMap_violations_shapeReports, flatMap_violations_unexpectedReports, List.flatten_append,
    List.flatten_append, flatten_attributeContributions, List.flatten_singleton]
  refine List.Perm.append_right _ ?_
  -- the failures come before the header and the misshapen attributes after it
  rw [← List.append_assoc]
  refine (List.perm_append_comm.append_right _).trans ?_
  rw [List.append_assoc]
  exact hsplit.append_left _

theorem exists_ofDocument_eq_ok_iff :
    (∃ s, ofDocument role document = .ok s) ↔
      ∀ contribution ∈ contributions role document, contribution = [] := by
  have hpasses : listed (ofDocument role document) = [] ↔
      ∃ s, ofDocument role document = .ok s :=
    listed_eq_nil fun _ => full_of_ofDocument role document
  rw [← hpasses, ← List.length_eq_zero_iff, (listed_ofDocument_perm role document).length_eq,
    List.length_eq_zero_iff, List.flatten_eq_nil_iff]

theorem exists_ofDocument_eq_error_iff :
    (∃ report, ofDocument role document = .error report) ↔
      ∃ contribution ∈ contributions role document, contribution ≠ [] := by
  have haccepted := not_congr (exists_ofDocument_eq_ok_iff role document)
  push Not at haccepted
  rw [← haccepted]
  cases ofDocument role document with
  | ok s => simp
  | error report => simp

end Passes

/-! ### The parts one by one -/

/-- A check of one property finds nothing, or that the property is invalid. -/
def FaultsOnly (location property : String) (violations : List SchemaViolation) : Prop :=
  violations = [] ∨ ∃ expected actual reference,
    violations = [.invalidProperty location property expected actual reference]

namespace Declaration

variable (d : Declaration)

theorem idViolations_faultsOnly : FaultsOnly d.location "id" d.idViolations := by
  unfold idViolations
  split
  · split
    · exact Or.inr ⟨_, _, _, rfl⟩
    · exact Or.inl rfl
  · exact Or.inr ⟨_, _, _, rfl⟩

theorem nameViolation_faultsOnly (actual : String) :
    FaultsOnly d.location "name" [d.nameViolation actual] := by
  unfold nameViolation
  cases d.role with
  | resource => exact Or.inr ⟨_, _, _, rfl⟩
  | serviceProvider => exact Or.inr ⟨_, _, _, rfl⟩

theorem nameViolations_faultsOnly : FaultsOnly d.location "name" d.nameViolations := by
  unfold nameViolations
  split
  · exact d.nameViolation_faultsOnly _
  · exact Or.inl rfl
  · exact d.nameViolation_faultsOnly _
  · split
    · exact Or.inl rfl
    · exact d.nameViolation_faultsOnly _
  · split
    · exact Or.inl rfl
    · exact d.nameViolation_faultsOnly _

theorem descriptionViolation_faultsOnly (actual : String) :
    FaultsOnly d.location "description" [d.descriptionViolation actual] := by
  unfold descriptionViolation
  cases d.role with
  | resource => exact Or.inr ⟨_, _, _, rfl⟩
  | serviceProvider => exact Or.inr ⟨_, _, _, rfl⟩

theorem descriptionViolations_faultsOnly :
    FaultsOnly d.location "description" d.descriptionViolations := by
  unfold descriptionViolations
  split
  · exact d.descriptionViolation_faultsOnly _
  · exact d.descriptionViolation_faultsOnly _
  · exact Or.inl rfl

end Declaration

/-! ### Unknown keys -/

theorem mem_unknownKeys {document : Json.Members} {key : String} :
    key ∈ unknownKeys document ↔ key ∈ document.keys ∧ key ∉ documentProperties := by
  rw [unknownKeys, List.mem_filter]
  simp

theorem unknownKeys_cons (key : String) (value : Json) (rest : Json.Members) :
    unknownKeys ((key, value) :: rest) =
      if key ∈ documentProperties then unknownKeys rest else key :: unknownKeys rest := by
  unfold unknownKeys Json.Members.keys
  by_cases hkey : key ∈ documentProperties
  · simp [hkey]
  · simp [hkey]

theorem unknownKeys_insert {key : String} (hkey : key ∈ documentProperties) (value : Json)
    (document : Json.Members) :
    unknownKeys (Json.Members.insert key value document) = unknownKeys document := by
  induction document with
  | nil =>
    rw [Json.Members.insert, unknownKeys_cons, if_pos hkey]
  | cons member rest ih =>
    obtain ⟨other, old⟩ := member
    unfold Json.Members.insert
    split
    · rw [unknownKeys_cons, unknownKeys_cons, ih]
    · split
      · rename_i hsame
        rw [hsame, unknownKeys_cons, unknownKeys_cons]
      · rw [unknownKeys_cons, if_pos hkey]

/-! ### Another list of attributes -/

/-- The document with other entries in its list of attributes. -/
def withAttributes (document : Json.Members) (entries : List Json) : Json.Members :=
  Json.Members.insert "attributes" (.array entries) document

section WithAttributes

variable (role : SchemaRole) (document : Json.Members) (entries : List Json)

theorem get?_withAttributes {key : String} (hkey : "attributes" ≠ key) :
    (withAttributes document entries).get? key = document.get? key := by
  rw [withAttributes, Json.Members.get?_insert, if_neg hkey]

theorem locationOf_withAttributes :
    locationOf (withAttributes document entries) = locationOf document := by
  unfold locationOf
  rw [get?_withAttributes document entries (by decide)]

theorem header_withAttributes :
    header role (withAttributes document entries) = header role document := by
  unfold header Declaration.ofDocument
  rw [get?_withAttributes document entries (by decide : "attributes" ≠ "id"),
    get?_withAttributes document entries (by decide : "attributes" ≠ "externalId"),
    get?_withAttributes document entries (by decide : "attributes" ≠ "meta"),
    get?_withAttributes document entries (by decide : "attributes" ≠ "name"),
    get?_withAttributes document entries (by decide : "attributes" ≠ "description")]

theorem keyContribution_withAttributes :
    keyContribution (withAttributes document entries) = keyContribution document := by
  unfold keyContribution
  rw [locationOf_withAttributes, withAttributes, unknownKeys_insert (by decide)]

end WithAttributes

theorem contributions_of_list (role : SchemaRole) {document : Json.Members} {entries : List Json}
    (hlist : document.get? "attributes" = some (.array entries)) :
    contributions role document =
      headerContributions role document ++
        entries.map (fun entry => (entryAttempt (locationOf document) entry).reported) ++
        [keyContribution document] := by
  unfold contributions attributeContributions
  rw [hlist]

theorem contributions_withAttributes (role : SchemaRole) (document : Json.Members)
    (entries : List Json) :
    contributions role (withAttributes document entries) =
      headerContributions role document ++
        entries.map (fun entry => (entryAttempt (locationOf document) entry).reported) ++
        [keyContribution document] := by
  have hlist : (withAttributes document entries).get? "attributes" = some (.array entries) := by
    rw [withAttributes, Json.Members.get?_insert, if_pos rfl]
  rw [contributions_of_list role hlist, headerContributions, header_withAttributes,
    keyContribution_withAttributes, locationOf_withAttributes]
  rfl

theorem listed_withAttributes_perm (role : SchemaRole) {document : Json.Members}
    {entries entries' : List Json}
    (hlist : document.get? "attributes" = some (.array entries)) (hperm : entries.Perm entries') :
    (listed (ofDocument role (withAttributes document entries'))).Perm
      (listed (ofDocument role document)) := by
  have hcontributions : (contributions role (withAttributes document entries')).Perm
      (contributions role document) := by
    rw [contributions_withAttributes, contributions_of_list role hlist]
    exact ((hperm.symm.map _).append_left _).append_right _
  exact (listed_ofDocument_perm role _).trans
    (hcontributions.flatten.trans (listed_ofDocument_perm role _).symm)

/-! ### The report on a document -/

/-- **Every violation of a document, exactly once.** A document is refused exactly when one of its
parts contributes something, and its report lists the contributions, in some order. Of the header,
each property is faulted at most once; an unknown key is named where it stands among the keys. What
the entries of the list of attributes contribute depends on none of the others, and entries that
change places only move their violations. -/
theorem ofDocument_reports_contributions (role : SchemaRole) (document : Json.Members) :
    ((∃ report, ofDocument role document = .error report) ↔
      ∃ contribution ∈ contributions role document, contribution ≠ []) ∧
    (listed (ofDocument role document)).Perm (contributions role document).flatten ∧
    (FaultsOnly (locationOf document) "id" (header role document).idViolations ∧
      FaultsOnly (locationOf document) "name" (header role document).nameViolations ∧
      FaultsOnly (locationOf document) "description"
        (header role document).descriptionViolations) ∧
    ((unknownKeys document).Sublist document.keys ∧
      ∀ key, key ∈ unknownKeys document ↔ key ∈ document.keys ∧ key ∉ documentProperties) ∧
    (∀ entries : List Json, contributions role (withAttributes document entries) =
      headerContributions role document ++
        entries.map (fun entry => (entryAttempt (locationOf document) entry).reported) ++
        [keyContribution document]) ∧
    ∀ entries entries' : List Json, document.get? "attributes" = some (.array entries) →
      entries.Perm entries' →
        (listed (ofDocument role (withAttributes document entries'))).Perm
          (listed (ofDocument role document)) := by
  refine ⟨exists_ofDocument_eq_error_iff role document, listed_ofDocument_perm role document,
    ?_, ?_, contributions_withAttributes role document, ?_⟩
  · exact ⟨(header role document).idViolations_faultsOnly,
      (header role document).nameViolations_faultsOnly,
      (header role document).descriptionViolations_faultsOnly⟩
  · exact ⟨List.filter_sublist, fun key => mem_unknownKeys⟩
  · intro entries entries' hlist hperm
    exact listed_withAttributes_perm role hlist hperm

/-- A document with an attribute that cannot be built beside one that is misshapen. -/
def mixedDocument : Json.Members :=
  [("attributes", .array [.object [("name", .string "street"), ("type", .string "text")],
      .object [("name", .string "1st")]]),
    ("extra", .null), ("id", .string "")]

/-- The mixed document is refused, and so it is with its attributes the other way round. -/
theorem mixed_document_reports_contributions :
    (∃ report, ofDocument .resource mixedDocument = .error report) ∧
      (listed (ofDocument .resource (withAttributes mixedDocument
        [.object [("name", .string "1st")],
          .object [("name", .string "street"), ("type", .string "text")]]))).Perm
        (listed (ofDocument .resource mixedDocument)) := by
  have hall := ofDocument_reports_contributions .resource mixedDocument
  obtain ⟨hfails, -, -, -, -, hmoved⟩ := hall
  constructor
  · refine hfails.mpr ⟨keyContribution mixedDocument, ?_, ?_⟩
    · exact List.mem_append_right _ (List.mem_singleton_self _)
    · have hkeys : unknownKeys mixedDocument = ["extra"] := by decide
      rw [keyContribution, hkeys]
      exact List.cons_ne_nil _ _
  · exact hmoved _ _ rfl (List.Perm.swap _ _ _)

end IdentitySchema.Schema
