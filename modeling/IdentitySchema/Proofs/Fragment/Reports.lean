/-
  IdentitySchema/Proofs/Fragment/Reports.lean
  ===========================================
  **What is reported for a fragment.**  A fragment is faulted in one of two
  passes: its attribute cannot be built, or it is built and the check of its
  shape finds something.  `reported` is what comes out of both; `unbuilt` and
  `misshapen` are the parts of the two passes.

  A complex attribute that cannot be built is reported with what its own shape
  has wrong and with the sub-attributes that failed (`reported_complex_failed`),
  one that is built with everything that is reported for its sub-attributes
  (`reported_complex_built`).  No report has an empty group.
-/
import IdentitySchema.Proofs.Induction
import IdentitySchema.Proofs.Reports
import Mathlib.Data.List.Perm.Basic

namespace IdentitySchema

open Report

/-! ### The two passes -/

/-- An attempt to build an attribute. -/
abbrev Attempt := Except SchemaError Attribute

namespace Attempt

/-- Was the attribute built? -/
def Succeeds (b : Attempt) : Prop := ∃ a, b = .ok a

instance : DecidablePred Succeeds := fun b =>
  match b with
  | .ok a => isTrue ⟨a, rfl⟩
  | .error _ => isFalse fun ⟨_, h⟩ => by cases h

/-- Why the attribute could not be built. -/
def unbuilt (b : Attempt) : List SchemaViolation := listed b

/-- What is wrong with the shape of the attribute that was built. -/
def misshapen : Attempt → List SchemaViolation
  | .ok a => listed a.checkShape
  | .error _ => []

/-- What is reported, whichever pass finds it. -/
def reported : Attempt → List SchemaViolation
  | .ok a => listed a.checkShape
  | .error report => report.violations

@[simp] theorem reported_ok (a : Attribute) : reported (.ok a) = listed a.checkShape := rfl

@[simp] theorem reported_error (report : SchemaError) :
    reported (.error report) = report.violations := rfl

theorem reported_eq_append (b : Attempt) : b.reported = b.unbuilt ++ b.misshapen := by
  cases b with
  | ok a => simp [unbuilt, misshapen]
  | error report => simp [unbuilt, misshapen]

theorem reported_of_succeeds {b : Attempt} (h : b.Succeeds) : b.reported = b.misshapen := by
  obtain ⟨a, rfl⟩ := h
  rfl

/-- The attribute was built and is in good shape. -/
def Accepted (b : Attempt) : Prop := ∃ a, b = .ok a ∧ a.checkShape = .ok ()

theorem Accepted.succeeds {b : Attempt} (h : b.Accepted) : b.Succeeds := by
  obtain ⟨a, hbuilt, -⟩ := h
  exact ⟨a, hbuilt⟩

@[simp] theorem accepted_ok {a : Attribute} : Accepted (.ok a) ↔ a.checkShape = .ok () := by
  simp [Accepted]

@[simp] theorem not_accepted_error {report : SchemaError} : ¬ Accepted (.error report) := by
  simp [Accepted]

/-- The report comes out of one of the two passes. -/
def Raises (b : Attempt) (report : SchemaError) : Prop :=
  b = .error report ∨ ∃ a, b = .ok a ∧ a.checkShape = .error report

@[simp] theorem raises_error {failed report : SchemaError} :
    Raises (.error failed) report ↔ report = failed := by
  simp [Raises, eq_comm]

theorem eq_ok_of_toOption {b : Attempt} {a : Attribute} (h : Except.toOption b = some a) :
    b = .ok a := by
  cases b with
  | ok built =>
    cases h
    rfl
  | error report => cases h

/-! ### Lists of attempts -/

variable {bs : List Attempt}

theorem map_ok_of_succeeds (hall : ∀ b ∈ bs, b.Succeeds) :
    (bs.filterMap Except.toOption).map .ok = bs := by
  induction bs with
  | nil => rfl
  | cons b bs ih =>
    obtain ⟨⟨a, rfl⟩, hrest⟩ := List.forall_mem_cons.mp hall
    have hbuilt : Except.toOption (Except.ok a : Attempt) = some a := rfl
    rw [List.filterMap_cons_some hbuilt, List.map_cons, ih hrest]

theorem flatMap_violations_failed (bs : List Attempt) :
    (bs.flatMap found).flatMap Report.violations = bs.flatMap unbuilt :=
  flatMap_violations_flatMap_found id bs

theorem flatMap_checkShape_built (bs : List Attempt) :
    (bs.filterMap Except.toOption).flatMap (fun a => listed a.checkShape) =
      bs.flatMap misshapen := by
  induction bs with
  | nil => rfl
  | cons b bs ih =>
    cases b with
    | ok a =>
      have hbuilt : Except.toOption (Except.ok a : Attempt) = some a := rfl
      rw [List.filterMap_cons_some hbuilt, List.flatMap_cons, List.flatMap_cons, ih]
      rfl
    | error report =>
      have hfailed : Except.toOption (Except.error report : Attempt) = none := rfl
      rw [List.filterMap_cons_none hfailed, List.flatMap_cons, ih]
      rfl

/-- The two passes together report what is reported for each attempt, in another order. -/
theorem unbuilt_append_misshapen_perm (bs : List Attempt) :
    (bs.flatMap unbuilt ++ bs.flatMap misshapen).Perm (bs.flatMap reported) := by
  have hreported : bs.flatMap reported = bs.flatMap fun b => b.unbuilt ++ b.misshapen :=
    List.flatMap_congr fun b _ => b.reported_eq_append
  rw [hreported]
  exact List.flatMap_append_perm bs unbuilt misshapen

/-- The first pass alone reports as much as both exactly when no attribute that was built is
misshapen. -/
theorem flatMap_unbuilt_eq_reported_iff (bs : List Attempt) :
    bs.flatMap unbuilt = bs.flatMap reported ↔ ∀ b ∈ bs, b.misshapen = [] := by
  have hperm := unbuilt_append_misshapen_perm bs
  constructor
  · intro h
    have hlength := hperm.length_eq
    rw [List.length_append, h] at hlength
    have hnil : bs.flatMap misshapen = [] := List.eq_nil_of_length_eq_zero (by omega)
    exact List.flatMap_eq_nil_iff.mp hnil
  · intro h
    refine List.flatMap_congr fun b hb => ?_
    rw [b.reported_eq_append, h b hb, List.append_nil]

theorem flatMap_found_eq_nil_iff :
    bs.flatMap found = [] ↔ ∀ b ∈ bs, b.Succeeds := by
  rw [List.flatMap_eq_nil_iff]
  exact forall₂_congr fun b _ => found_eq_nil

end Attempt

/-! ### The shape of an attribute -/

namespace Attribute

theorem listed_checkShape_simple (traits : Characteristics) (cardinality : Cardinality)
    (form : SimpleForm) :
    listed (checkShape (.simple traits cardinality form)) = form.violations traits := by
  rw [checkShape, listed_gather, flatMap_violations_leaf]

theorem flatMap_violations_shapeReports (attributes : List Attribute) :
    (shapeReports attributes).flatMap Report.violations =
      attributes.flatMap fun a => listed a.checkShape := by
  rw [shapeReports_eq_flatMap, flatMap_violations_flatMap_found]

theorem listed_checkShape_complex (traits : Characteristics) (cardinality : Cardinality)
    (subAttributes : List Attribute) :
    listed (checkShape (.complex traits cardinality subAttributes)) =
      traits.complexViolations ++ subAttributes.flatMap fun a => listed a.checkShape := by
  rw [checkShape, listed_gather, List.flatMap_append, flatMap_violations_leaf,
    flatMap_violations_shapeReports]

theorem full_of_mem_map_leaf {violations : List SchemaViolation} {report : SchemaError}
    (h : report ∈ violations.map Report.leaf) : report.Full := by
  obtain ⟨violation, -, rfl⟩ := List.mem_map.mp h
  exact .leaf violation

theorem full_of_checkShape (a : Attribute) :
    ∀ report, a.checkShape = .error report → report.Full := by
  induction a with
  | simple traits cardinality form =>
    intro report h
    exact full_of_gather (fun _ => full_of_mem_map_leaf) h
  | complex traits cardinality subAttributes ih =>
    intro report h
    refine full_of_gather ?_ h
    intro below hbelow
    rcases List.mem_append.mp hbelow with hown | hsub
    · exact full_of_mem_map_leaf hown
    · rw [shapeReports_eq_flatMap] at hsub
      obtain ⟨sub, hsub, hfound⟩ := List.mem_flatMap.mp hsub
      exact ih sub hsub below (mem_found.mp hfound)

theorem checkShape_eq_ok_iff (a : Attribute) :
    a.checkShape = .ok () ↔ listed a.checkShape = [] := by
  rw [listed_eq_nil_iff_ok a.full_of_checkShape]

end Attribute

/-! ### Complex attributes -/

namespace Outline

variable (outline : Outline) {bs : List Attempt}

theorem complex_built (hall : ∀ b ∈ bs, b.Succeeds) :
    outline.complex bs =
      .ok (.complex outline.traits outline.cardinality (bs.filterMap Except.toOption)) := by
  have hfound := Attempt.flatMap_found_eq_nil_iff.mpr hall
  simp [Outline.complex, hfound]

theorem complex_failed (hfailed : ¬ ∀ b ∈ bs, b.Succeeds) :
    outline.complex bs =
      .error (.group outline.traits.path.text
        (outline.traits.complexViolations.map .leaf ++ bs.flatMap found)) := by
  have hfound := mt Attempt.flatMap_found_eq_nil_iff.mp hfailed
  simp [Outline.complex, hfound]

theorem reported_complex_built (hall : ∀ b ∈ bs, b.Succeeds) :
    Attempt.reported (outline.complex bs) =
      outline.traits.complexViolations ++ bs.flatMap Attempt.reported := by
  rw [outline.complex_built hall, Attempt.reported_ok, Attribute.listed_checkShape_complex,
    Attempt.flatMap_checkShape_built]
  congr 1
  exact List.flatMap_congr fun b hb => (Attempt.reported_of_succeeds (hall b hb)).symm

/-- If a sub-attribute failed, what is wrong with the shape of the others is not reported. -/
theorem reported_complex_failed (hfailed : ¬ ∀ b ∈ bs, b.Succeeds) :
    Attempt.reported (outline.complex bs) =
      outline.traits.complexViolations ++ bs.flatMap Attempt.unbuilt := by
  rw [outline.complex_failed hfailed, Attempt.reported_error, violations_group,
    List.flatMap_append, flatMap_violations_leaf, Attempt.flatMap_violations_failed]

/-- A complex attribute is accepted if nothing is wrong with itself and all of its sub-attributes
are accepted. -/
theorem accepted_complex_iff :
    Attempt.Accepted (outline.complex bs) ↔
      outline.traits.complexViolations = [] ∧ ∀ b ∈ bs, b.Accepted := by
  by_cases hall : ∀ b ∈ bs, b.Succeeds
  · have hsubs : bs.flatMap Attempt.misshapen = [] ↔ ∀ b ∈ bs, b.Accepted := by
      rw [List.flatMap_eq_nil_iff]
      refine forall₂_congr fun b hb => ?_
      obtain ⟨a, rfl⟩ := hall b hb
      rw [Attempt.accepted_ok, a.checkShape_eq_ok_iff]
      rfl
    rw [outline.complex_built hall, Attempt.accepted_ok, Attribute.checkShape_eq_ok_iff,
      Attribute.listed_checkShape_complex, Attempt.flatMap_checkShape_built,
      List.append_eq_nil_iff, hsubs]
  · rw [outline.complex_failed hall]
    constructor
    · intro h
      exact absurd h Attempt.not_accepted_error
    · rintro ⟨-, haccepted⟩
      exact absurd (fun b hb => (haccepted b hb).succeeds) hall

end Outline

/-! ### No empty groups -/

namespace Attribute

theorem full_of_resolveType {asked? : Option String} {parent : Locator} {fragment : Json.Members}
    {report : SchemaError} (h : resolveType asked? parent fragment = .error report) :
    report.Full := by
  unfold resolveType at h
  dsimp only at h
  split at h
  · cases h
  · split at h
    · cases h
    · cases h
      exact .leaf _

theorem full_of_outline {asked? : Option String} {site : Site} {fragment : Json.Members}
    {report : SchemaError} (h : Outline.ofFragment asked? site fragment = .error report) :
    report.Full := by
  unfold Outline.ofFragment at h
  split at h
  · rename_i hresolve
    cases h
    exact full_of_resolveType hresolve
  · dsimp only at h
    split at h <;> cases h

/-- What a fragment gives for its sub-attributes comes from an entry of their list, or says that
what stands in its place is no list. -/
theorem mem_ofMembers {outline : Outline} {fragment : Json.Members} {b : Attempt}
    (h : b ∈ ofMembers outline fragment) :
    (∃ entries, fragment.get? "subAttributes" = some (.array entries) ∧ ∃ entry ∈ entries,
      b = ofEntry outline.notFragments none outline.innerSite entry) ∨
    ∃ value, fragment.get? "subAttributes" = some value ∧ (∀ entries, value ≠ .array entries) ∧
      b = .error (outline.notFragments value) := by
  rw [ofMembers_eq_match] at h
  cases hvalue : fragment.get? "subAttributes" with
  | none =>
    rw [hvalue] at h
    cases h
  | some value =>
    rw [hvalue] at h
    cases value with
    | array entries =>
      left
      simp only [ofList, ofEntries_eq_map] at h
      obtain ⟨entry, hentry, rfl⟩ := List.mem_map.mp h
      exact ⟨entries, rfl, entry, hentry, rfl⟩
    | _ =>
      right
      exact ⟨_, rfl, by simp, List.mem_singleton.mp h⟩

theorem full_of_complex {outline : Outline} {bs : List Attempt} {report : SchemaError}
    (hbelow : ∀ b ∈ bs, ∀ report, b = .error report → report.Full)
    (h : outline.complex bs = .error report) : report.Full := by
  by_cases hall : ∀ b ∈ bs, b.Succeeds
  · rw [outline.complex_built hall] at h
    cases h
  · rw [outline.complex_failed hall] at h
    cases h
    refine .group _ ?_ ?_
    · intro hnil
      exact hall (Attempt.flatMap_found_eq_nil_iff.mp (List.append_eq_nil_iff.mp hnil).2)
    · intro below hmem
      rcases List.mem_append.mp hmem with hown | hfailed
      · exact full_of_mem_map_leaf hown
      · obtain ⟨b, hb, hfound⟩ := List.mem_flatMap.mp hfailed
        exact hbelow b hb below (mem_found.mp hfound)

theorem full_of_ofFragment (fragment : Json.Members) :
    ∀ (site : Site) (asked? : Option String) (report : SchemaError),
      ofFragment fragment site asked? = .error report → report.Full := by
  induction fragment using Json.Members.fragmentInduction with
  | step fragment ih =>
    intro site asked? report h
    unfold ofFragment at h
    split at h
    · rename_i houtline
      cases h
      exact full_of_outline houtline
    · rename_i outline _
      unfold Outline.attribute? at h
      split at h
      · cases h
      · refine full_of_complex ?_ h
        intro b hb below hfailed
        rcases mem_ofMembers hb with ⟨entries, hlist, entry, hentry, rfl⟩ | ⟨value, -, -, rfl⟩
        · cases entry with
          | object sub => exact ih entries hlist sub hentry _ _ below hfailed
          | _ =>
            cases hfailed
            exact .leaf _
        · cases hfailed
          exact .leaf _

theorem full_of_ofEntry {refuse : Json → SchemaError} {asked? : Option String} {site : Site}
    {entry : Json} {report : SchemaError} (hrefuse : ∀ value, (refuse value).Full)
    (h : ofEntry refuse asked? site entry = .error report) : report.Full := by
  cases entry with
  | object fragment => exact full_of_ofFragment fragment site asked? report h
  | _ =>
    cases h
    exact hrefuse _

end Attribute

theorem Attempt.reported_eq_nil_iff {b : Attempt}
    (hfull : ∀ report, b = .error report → report.Full) :
    b.reported = [] ↔ b.Accepted := by
  cases b with
  | ok a => rw [reported_ok, accepted_ok, a.checkShape_eq_ok_iff]
  | error report =>
    constructor
    · intro h
      exact absurd h (hfull report rfl).violations_ne_nil
    · intro h
      exact absurd h not_accepted_error

end IdentitySchema
