/-
  IdentitySchema/Proofs/Document/Places.lean
  ==========================================
  **Schema errors point at the fragment they concern.**  A fragment of a
  document stands at the path of names that leads to it from the document's
  location, one name for each fragment on the way (`FragmentAt`).  The names
  are taken as they are written, so every fragment has such a path, also one
  without a proper name or type.

  That a report keeps to these paths is shown for one fragment first, whichever
  pass finds it and however deep it stands, by induction over the fragment
  (`anchored_of_raises`).  A report on a document is then a group of violations
  of the document's own properties and of reports that are anchored.

  The path of a fragment does not depend on its type (`path_of_retyped`): what
  is reported of a type that is none carries the path that an attribute of any
  other type would have had.
-/
import IdentitySchema.Proofs.Anchors
import IdentitySchema.Proofs.Document.Reports
import IdentitySchema.Proofs.Fragment.Causes

namespace IdentitySchema

open Report

/-- The id of the schema that a violation names. -/
def SchemaViolation.schemaId? : SchemaViolation → Option String
  | .invalidProperty schemaId _ _ _ _ => some schemaId
  | .unexpectedProperties schemaId _ => some schemaId
  | .characteristicNotAllowed _ _ _ _ => none
  | .nestedComplex _ => none
  | .unknownProperties _ _ _ => none
  | .unknownAttributeType _ _ _ => none

theorem SchemaViolation.schemaId?_of_path? {path : Locator} (violation : SchemaViolation)
    (h : violation.path? = some path) : violation.schemaId? = none := by
  cases violation with
  | invalidProperty _ _ _ _ _ => cases h
  | unexpectedProperties _ _ => cases h
  | _ => rfl

/-- The fragment with another type, or with one. -/
def retyped (type : AttributeType) (fragment : Json.Members) : Json.Members :=
  Json.Members.insert "type" (.string type.name) fragment

namespace Schema

/-! ### Where fragments stand -/

/-- A fragment of the document at the path of its name and of those above it. Only complex fragments
have others below them. -/
inductive FragmentAt (document : Json.Members) : Locator → Json.Members → Prop
  | entry {entries : List Json} {fragment : Json.Members}
      (hlist : document.get? "attributes" = some (.array entries))
      (hentry : .object fragment ∈ entries) :
      FragmentAt document ((Locator.root (locationOf document)).child (fragmentName fragment))
        fragment
  | sub {path : Locator} {parent fragment : Json.Members} {entries : List Json}
      (hparent : FragmentAt document path parent) (hcomplex : Fragment.DeclaresType parent .complex)
      (hlist : parent.get? "subAttributes" = some (.array entries))
      (hentry : .object fragment ∈ entries) :
      FragmentAt document (path.child (fragmentName fragment)) fragment

def HasFragment (document : Json.Members) (path : Locator) : Prop :=
  ∃ fragment, FragmentAt document path fragment

/-- The violation names the path, and a fragment there is its cause. -/
def CausedAt (document : Json.Members) (path : Locator) (violation : SchemaViolation) : Prop :=
  violation.path? = some path ∧
    ∃ fragment, FragmentAt document path fragment ∧ Fragment.Causes fragment path violation

variable {document fragment : Json.Members} {path : Locator} {report : SchemaError}
  {violation : SchemaViolation}

theorem FragmentAt.two_le_length (h : FragmentAt document path fragment) :
    2 ≤ path.segments.length := by
  induction h with
  | entry _ _ => simp [Locator.root]
  | sub _ _ _ _ ih =>
    rw [Locator.segments_child, List.length_append]
    omega

theorem FragmentAt.exists_parent (h : FragmentAt document path fragment) :
    ∃ parent : Locator, path = parent.child (fragmentName fragment) := by
  cases h with
  | entry _ _ => exact ⟨_, rfl⟩
  | sub _ _ _ _ => exact ⟨_, rfl⟩

theorem anchored_leaf (hat : FragmentAt document path fragment)
    (hcauses : Fragment.Causes fragment path violation) :
    Anchored (HasFragment document) (CausedAt document) path (.leaf violation) :=
  .leaf path.covers_refl ⟨hcauses.path?_eq, fragment, hat, hcauses⟩

/-! ### What is reported on a fragment -/

theorem anchored_of_raises (document fragment : Json.Members) :
    ∀ site : Site, FragmentAt document (site.parent.child (fragmentName fragment)) fragment →
      (site.inComplex = true → 2 ≤ site.parent.segments.length) →
      ∀ report, Attempt.Raises (Attribute.ofFragment fragment site none) report →
        Anchored (HasFragment document) (CausedAt document)
          (site.parent.child (fragmentName fragment)) report := by
  induction fragment using Json.Members.fragmentInduction with
  | step fragment ih =>
    intro site hat hinside report hraises
    unfold Attribute.ofFragment at hraises
    cases hread : Outline.ofFragment none site fragment with
    | error failed =>
      rw [hread] at hraises
      obtain ⟨violation, rfl, hcauses⟩ := Outline.ofFragment_eq_error hread
      rw [Attempt.raises_error.mp hraises]
      exact anchored_leaf hat hcauses
    | ok outline =>
      rw [hread] at hraises
      have htype := Outline.declaresType_of_ofFragment hread
      obtain ⟨reports, rfl, hreports⟩ := Outline.group_of_raises hraises
      rw [← Outline.path_eq hread] at hat ⊢
      refine .group (Locator.covers_refl _) ⟨fragment, hat⟩ fun below hbelow => ?_
      rcases hreports below hbelow with ⟨violation, hown, rfl⟩ | ⟨hcomplex, b, hb, hraised⟩
      · exact anchored_leaf hat (Outline.causes_of_mem_ownViolations hread hinside hown)
      · rw [hcomplex] at htype
        rcases Attribute.mem_ofMembers hb with
          ⟨entries, hlist, entry, hentry, rfl⟩ | ⟨value, hvalue, hother, rfl⟩
        · cases entry with
          | object sub =>
            have hsub := FragmentAt.sub hat htype hlist hentry
            have hanchored := ih entries hlist sub hentry outline.innerSite hsub
              (fun _ => hat.two_le_length) below hraised
            exact hanchored.mono (Locator.covers_child _ _)
          | _ =>
            rw [Attempt.raises_error.mp hraised]
            exact anchored_leaf hat (.notAFragment htype hlist hentry (by simp))
        · rw [Attempt.raises_error.mp hraised]
          exact anchored_leaf hat (.notAList htype hvalue hother)

/-! ### The path of a type that is none -/

/-- Whatever its type, an attribute that is built from a fragment is at the same path, and built it
is unless it is complex. -/
theorem path_of_retyped (fragment : Json.Members) (site : Site) (type : AttributeType) :
    (∀ a, Attribute.ofFragment (retyped type fragment) site none = .ok a →
      a.path = site.parent.child (fragmentName fragment)) ∧
    (type ≠ .complex → ∃ a, Attribute.ofFragment (retyped type fragment) site none = .ok a) := by
  have htype : Fragment.DeclaresType (retyped type fragment) type := by
    right
    rw [retyped, Json.Members.get?_insert, if_pos rfl]
  have hname : fragmentName (retyped type fragment) = fragmentName fragment := by
    rw [fragmentName, retyped, Json.Members.get?_insert, if_neg (by decide)]
    rfl
  obtain ⟨outline, hout⟩ := Fragment.exists_outline htype site
  rw [Attribute.ofFragment, hout.read]
  refine ⟨fun a hbuilt => ?_, fun hsimple => ?_⟩
  · obtain ⟨htraits, -, -⟩ := Outline.attribute?_eq_ok hbuilt
    rw [Attribute.path, htraits, Outline.path_eq hout.read, hname]
  · dsimp only
    unfold Outline.attribute?
    cases hform : outline.simpleForm? with
    | some form => exact ⟨_, rfl⟩
    | none => exact absurd (hout.sameType.symm.trans (Outline.simpleForm?_eq_none.mp hform)) hsimple

/-! ### The report on a document -/

theorem schemaId?_of_mem_headerContributions {role : SchemaRole}
    (h : violation ∈ (headerContributions role document).flatten) :
    violation.schemaId? = some (locationOf document) := by
  have hfaults : ∀ property violations, FaultsOnly (locationOf document) property violations →
      violation ∈ violations → violation.schemaId? = some (locationOf document) := by
    rintro property violations (rfl | ⟨expected, actual, reference, rfl⟩) hviolation
    · cases hviolation
    · rw [List.mem_singleton.mp hviolation]
      rfl
  obtain ⟨violations, hpart, hviolation⟩ := List.mem_flatten.mp h
  simp only [headerContributions, List.mem_cons, List.not_mem_nil, or_false] at hpart
  rcases hpart with rfl | rfl | rfl
  · exact hfaults _ _ (header role document).idViolations_faultsOnly hviolation
  · exact hfaults _ _ (header role document).nameViolations_faultsOnly hviolation
  · exact hfaults _ _ (header role document).descriptionViolations_faultsOnly hviolation

/-- What the passes over a document report is a violation that names the location, or is anchored
at fragments. -/
theorem anchored_of_mem_passReports {role : SchemaRole} (h : report ∈ passReports role document) :
    (∃ violation, report = .leaf violation ∧
      violation.schemaId? = some (locationOf document)) ∨
    ∃ top, Anchored (HasFragment document) (CausedAt document) top report := by
  rcases mem_passReports role document h with ⟨b, hb, hraises⟩ | ⟨violation, hheader, rfl⟩ |
    hunexpected
  · rcases mem_attempts document hb with ⟨entries, fragment, hlist, hentry, rfl⟩ | ⟨value, rfl⟩
    · have hat : FragmentAt document _ fragment := .entry hlist hentry
      exact Or.inr ⟨_, anchored_of_raises document fragment _ hat (by simp) report hraises⟩
    · rw [Attempt.raises_error.mp hraises]
      exact Or.inl ⟨_, rfl, rfl⟩
  · exact Or.inl ⟨violation, rfl, schemaId?_of_mem_headerContributions hheader⟩
  · unfold unexpectedReports at hunexpected
    split at hunexpected
    · cases hunexpected
    · rw [List.mem_singleton.mp hunexpected]
      exact Or.inl ⟨_, rfl, rfl⟩

/-- The report on a refused document points at what it is about. -/
structure Located (document : Json.Members) (report : SchemaError) : Prop where
  /-- No group is empty. -/
  full : report.Full
  /-- A violation that names a schema names the location of the document. -/
  schemaId : ∀ violation ∈ report.violations, ∀ id,
    violation.schemaId? = some id → id = locationOf document
  /-- Every other violation names the path of a fragment that causes it. -/
  caused : ∀ violation ∈ report.violations, violation.schemaId? = none →
    ∃ path, CausedAt document path violation
  /-- The report is a group at the location of the document; every group inside is at the path of a
  fragment, and so is what the group holds, or further down. -/
  grouped : ∃ reports, report = .group (locationOf document) reports ∧
    ∀ child ∈ reports, ∀ location below, Within (.group location below) child →
      ∃ path, HasFragment document path ∧ location = path.text ∧
        ∀ lower ∈ below, ∀ node, Within node lower →
          ∃ deeper, path.Covers deeper ∧
            node.IsAt (HasFragment document) (CausedAt document) deeper
  /-- A type that is none is reported at the path which an attribute would have that was built at
  the same place from the fragment with another type. -/
  retyped : ∀ name path expected,
    .unknownAttributeType name path expected ∈ report.violations →
      ∃ parent fragment, FragmentAt document path fragment ∧
        path = parent.child (fragmentName fragment) ∧
        ∀ site type, site.parent = parent →
          (∀ a, Attribute.ofFragment (retyped type fragment) site none = .ok a → a.path = path) ∧
          (type ≠ .complex →
            ∃ a, Attribute.ofFragment (retyped type fragment) site none = .ok a)

/-- **Schema errors point at fragments.**  Whenever a document is refused, whatever its role, the
report is located: its groups and violations are at the location of the document or at the paths of
the fragments they are about. -/
theorem ofDocument_points_at_fragments {role : SchemaRole}
    (h : ofDocument role document = .error report) : Located document report := by
  obtain ⟨hreport, -⟩ := ofDocument_eq_error h
  have hviolations : ∀ violation ∈ report.violations,
      violation.schemaId? = some (locationOf document) ∨
        ∃ path, CausedAt document path violation := by
    intro violation hviolation
    rw [hreport, violations_group] at hviolation
    obtain ⟨child, hchild, hviolation⟩ := List.mem_flatMap.mp hviolation
    rcases anchored_of_mem_passReports hchild with ⟨own, rfl, hown⟩ | ⟨top, hanchored⟩
    · rw [violations_leaf, List.mem_singleton] at hviolation
      rw [hviolation]
      exact Or.inl hown
    · exact Or.inr (hanchored.exists_says violation hviolation)
  refine ⟨full_of_ofDocument role document h, ?_, ?_, ⟨_, hreport, ?_⟩, ?_⟩
  · intro violation hviolation id hid
    rcases hviolations violation hviolation with hlocation | ⟨path, hpath, -⟩
    · rw [hlocation] at hid
      exact (Option.some.inj hid).symm
    · rw [violation.schemaId?_of_path? hpath] at hid
      cases hid
  · intro violation hviolation hnone
    rcases hviolations violation hviolation with hlocation | hcaused
    · rw [hlocation] at hnone
      cases hnone
    · exact hcaused
  · intro child hchild location below hgroup
    rcases anchored_of_mem_passReports hchild with ⟨own, rfl, -⟩ | ⟨top, hanchored⟩
    · cases hgroup
    · exact hanchored.of_group_within hgroup
  · intro name path expected hviolation
    rcases hviolations _ hviolation with hlocation | ⟨other, hpath, fragment, hat, -⟩
    · cases hlocation
    · cases hpath
      obtain ⟨parent, hparent⟩ := hat.exists_parent
      refine ⟨parent, fragment, hat, hparent, fun site type hsite => ?_⟩
      rw [hparent, ← hsite]
      exact path_of_retyped fragment site type

/-- A document with many faults: its id is none, and neither is the type of something named `true`;
a complex attribute is inside another and has no list; an entry is no fragment; and one fragment has
no name. -/
def tangledDocument : Json.Members :=
  [("attributes", .array [.object [("multiValued", .bool true), ("name", .string "parts"),
      ("subAttributes", .array [.object [("name", .bool true), ("type", .string "text")],
        .object [("name", .string "inner"), ("subAttributes", .bool false),
          ("type", .string "complex")],
        .null]),
      ("type", .string "complex")],
      .object [("required", .string "yes")]]),
    ("id", .null)]

/-- Each fault of the tangled document is reported where it is. -/
theorem tangled_faults_point_at_fragments :
    ∃ report, ofDocument .resource tangledDocument = .error report ∧
      (report.violations.map fun violation => violation.path?.map Locator.text) =
        [some "null/parts/true", some "null/parts/inner", some "null/parts/inner",
          some "null/parts", none, some "null/null", some "null/null"] ∧
      Located tangledDocument report := by
  have hrefused : ∃ report, ofDocument .resource tangledDocument = .error report ∧
      (report.violations.map fun violation => violation.path?.map Locator.text) =
        [some "null/parts/true", some "null/parts/inner", some "null/parts/inner",
          some "null/parts", none, some "null/null", some "null/null"] := ⟨_, rfl, by decide⟩
  obtain ⟨report, hreport, hpaths⟩ := hrefused
  exact ⟨report, hreport, hpaths, ofDocument_points_at_fragments hreport⟩

end Schema

end IdentitySchema
