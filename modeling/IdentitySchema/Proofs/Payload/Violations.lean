/-
  IdentitySchema/Proofs/Payload/Violations.lean
  =============================================
  **A payload check reports every violation once and nothing else.**  What a
  reached pair contributes depends on that pair alone (`Reached.violations`):

    * the value is missing and the attribute is required;
    * the value is there but is none that the attribute takes;
    * values of a list are equal although they must be unique.

  `listed_check` is the step: checking a pair lists its own violations and
  then, in order, those of the pairs one step below.  From it `listed_preorder`
  follows by induction, and the check of a schema lists the violations of the
  pairs it reaches, depth first.
-/
import IdentitySchema.Proofs.Payload.Reached
import IdentitySchema.Proofs.Reports
import IdentitySchema.Proofs.Values
import Mathlib.Data.List.Basic

namespace IdentitySchema

open Report

/-! ### Which values an attribute takes -/

/-- A text is allowed if it is canonical, or if there are no canonical values. -/
def Characteristics.allows (traits : Characteristics) (text : String) : Bool :=
  let canonical := traits.canonicalValues?.getD []
  canonical.isEmpty || canonical.any fun value => traits.fold value == traits.fold text

/-- Is the value one that the form takes? -/
def SimpleForm.takes (form : SimpleForm) (traits : Characteristics) (value : Json) : Bool :=
  match form, value with
  | .binary, .string _ => true
  | .boolean, .bool _ => true
  | .datetime, .string text => Timestamp.isWritten text
  | .decimal, .number (.real number) => Json.hasPointInside number.text
  | .integer, .number number => number.isInteger
  | .string, .string text => traits.allows text
  | .reference _, .string _ => true
  | _, _ => false

/-- What the form takes, in words. -/
def SimpleForm.wants (form : SimpleForm) (traits : Characteristics) (value : Json) : String :=
  match form, value with
  | .binary, _ => "binary"
  | .boolean, _ => "boolean"
  | .datetime, _ => "datetime with format 2008-01-23T04:56:22Z"
  | .decimal, _ =>
    "must be a real number with at least one digit to the left and right of the period"
  | .integer, _ => "integer"
  | .string, .string _ =>
    "one of " ++ ", ".intercalate ((traits.canonicalValues?.getD []).map traits.fold)
  | .string, _ => "type string"
  | .reference _, _ => "type reference"

namespace Attribute

/-- Is the value one that the attribute takes, as far as that shows without its parts? -/
def takes (a : Attribute) (value : Json) : Bool :=
  match a, a.cardinality, value with
  | _, .many _, .array _ => true
  | _, .many _, _ => false
  | .simple traits _ form, .one, value => form.takes traits value
  | .complex _ _ _, .one, value => value.isObject

def wants (a : Attribute) (value : Json) : String :=
  match a, a.cardinality with
  | _, .many _ => "list"
  | .simple traits _ form, .one => form.wants traits value
  | .complex _ _ _, .one => "complex"

/-- The section of the standard that says what the attribute takes. -/
def wantedIn (a : Attribute) : String :=
  match a.cardinality with
  | .many _ => multiValuedReference
  | .one => a.type.definedIn

end Attribute

/-! ### What a pair contributes -/

namespace Reached

/-- There is no value, or a list that holds none. -/
def isMissing (r : Reached) : Bool :=
  match r.subject.cardinality, r.value? with
  | _, none => true
  | .many _, some (.array items) => (Json.presentItems items).isEmpty
  | _, _ => false

def missing (r : Reached) : List PayloadViolation :=
  if r.isMissing && r.subject.isRequired then
    [.valueNotFound r.subject.traits.nameLabel r.subject.path r.subject.traits.isMultiValued
      (r.value?.getD r.holder).compact]
  else []

def mistaken (r : Reached) : List PayloadViolation :=
  match r.value? with
  | none => []
  | some value =>
    if r.subject.takes value then []
    else
      [.invalidType r.subject.path ("(" ++ value.kindName ++ ")" ++ value.rendered)
        r.subject.traits.isMultiValued (r.subject.wants value) (some r.subject.wantedIn)
        r.subject.traits.definition]

/-- The values of a list that are held against each other. -/
def comparable (r : Reached) : List Json :=
  match r.subject.cardinality, r.value? with
  | .many _, some (.array items) => (Json.presentItems items).filterMap r.subject.significant?
  | _, _ => []

/-- Must the values of a list differ? -/
def mustDiffer (r : Reached) : Prop :=
  r.subject.traits.uniqueness.valid? = some .server ∨
    r.subject.traits.uniqueness.valid? = some .global

instance (r : Reached) : Decidable r.mustDiffer := by
  unfold mustDiffer; infer_instance

def repeats (r : Reached) : List PayloadViolation :=
  if r.mustDiffer ∧ ¬ Json.Distinct r.comparable then
    [.duplicateValue r.subject.path ((Json.repeated [] r.comparable).map Json.rendered)]
  else []

/-- What a pair contributes to a report by itself. -/
def violations (r : Reached) : List PayloadViolation :=
  r.missing ++ r.mistaken ++ r.repeats

def check (r : Reached) : Except PayloadError Unit :=
  match r.value? with
  | some value => r.subject.checkValue value
  | none => r.subject.traits.checkAbsent r.holder

end Reached

theorem Attribute.check_eq_check_lookUp (a : Attribute) (payload : Json) :
    a.check payload = (a.lookUp payload).check := by
  unfold Attribute.check Attribute.checkIn Attribute.lookUp Reached.check
  cases a.name?.bind payload.get? <;> rfl

/-! ### One value -/

theorem Characteristics.listed_checkAbsent (traits : Characteristics) (found : Json) :
    listed (traits.checkAbsent found) =
      if traits.isRequired then
        [.valueNotFound traits.nameLabel traits.path traits.isMultiValued found.compact]
      else [] := by
  unfold Characteristics.checkAbsent
  cases traits.isRequired <;> simp

theorem Characteristics.checkString_string (traits : Characteristics) (text : String) :
    traits.checkString (.string text) =
      traits.expect .string (.string text) (traits.allows text)
        (SimpleForm.string.wants traits (.string text)) := by
  have hcontains : ∀ canonical : List String,
      (canonical.map traits.fold).contains (traits.fold text) =
        canonical.any fun value => traits.fold value == traits.fold text := by
    intro canonical
    rw [Bool.eq_iff_iff, List.contains_iff_mem]
    simp only [List.mem_map, List.any_eq_true, beq_iff_eq]
  unfold Characteristics.checkString Characteristics.allows SimpleForm.wants
  cases hcanonical : traits.canonicalValues?.getD [] with
  | nil => simp [Json.string?, Characteristics.expect]
  | cons first rest =>
    simp only [Json.string?, hcontains, List.isEmpty_cons, Bool.false_or]

/-- The check of a form accepts what the form takes and reports every other value. -/
theorem SimpleForm.check_eq_expect (form : SimpleForm) (traits : Characteristics) (value : Json) :
    form.check traits value =
      traits.expect form.type value (form.takes traits value) (form.wants traits value) := by
  cases form with
  | string =>
    cases value with
    | string text => exact traits.checkString_string text
    | _ => rfl
  | decimal =>
    cases value with
    | number n => cases n <;> rfl
    | _ => rfl
  | _ => cases value <;> rfl

theorem Characteristics.listed_expect (traits : Characteristics) (type : AttributeType)
    (value : Json) (accepted : Bool) (expected : String) :
    listed (traits.expect type value accepted expected) =
      if accepted then []
      else
        [.invalidType traits.path ("(" ++ value.kindName ++ ")" ++ value.rendered)
          traits.isMultiValued expected (some type.definedIn) traits.definition] := by
  unfold Characteristics.expect
  cases accepted <;> rfl

theorem Characteristics.expect_eq_ok_iff {traits : Characteristics} {type : AttributeType}
    {value : Json} {accepted : Bool} {expected : String} :
    traits.expect type value accepted expected = .ok () ↔ accepted = true := by
  unfold expect
  cases accepted with
  | true => simp
  | false => simp

/-! ### One step -/

theorem Attribute.checkValue_element (a : Attribute) (value : Json) :
    a.element.checkValue value = a.checkOne value := by
  cases a <;> rfl

theorem Attribute.listed_reportsIn (attributes : List Attribute) (payload : Json) :
    (reportsIn attributes payload).flatMap Report.violations =
      attributes.flatMap fun a => listed (a.lookUp payload).check := by
  rw [reportsIn_eq_flatMap, flatMap_violations_flatMap_found]
  simp only [Attribute.check_eq_check_lookUp]

theorem Uniqueness.any_isEnforced (uniqueness : Option Uniqueness) :
    uniqueness.any isEnforced = decide (uniqueness = some .server ∨ uniqueness = some .global) := by
  cases uniqueness with
  | none => rfl
  | some u => cases u <;> rfl

namespace Reached

variable {a : Attribute} {holder value : Json} {items : List Json} {companions : Companions}

theorem violations_one (hone : a.cardinality = .one) :
    violations ⟨a, some value, holder⟩ = mistaken ⟨a, some value, holder⟩ := by
  have hmissing : missing ⟨a, some value, holder⟩ = [] := by
    simp [missing, isMissing, hone]
  have hrepeats : repeats ⟨a, some value, holder⟩ = [] := by
    simp [repeats, comparable, hone, Json.Distinct]
  simp [violations, hmissing, hrepeats]

theorem listed_duplicates (hmany : a.cardinality = .many companions) :
    (a.duplicates (Json.presentItems items)).flatMap Report.violations =
      repeats ⟨a, some (.array items), holder⟩ := by
  have hcomparable : comparable ⟨a, some (.array items), holder⟩ =
      (Json.presentItems items).filterMap a.significant? := by
    simp [comparable, hmany]
  unfold Attribute.duplicates repeats
  rw [hcomparable, Uniqueness.any_isEnforced]
  by_cases hdiffer : mustDiffer ⟨a, some (.array items), holder⟩
  · have henforced : a.traits.uniqueness.valid? = some .server ∨
        a.traits.uniqueness.valid? = some .global := hdiffer
    simp only [henforced, decide_true, if_true, hdiffer, true_and]
    by_cases hdistinct : Json.Distinct ((Json.presentItems items).filterMap a.significant?)
    · simp [Json.repeated_nil_eq_nil.mpr hdistinct, hdistinct]
    · have hne := mt Json.repeated_nil_eq_nil.mp hdistinct
      rw [if_pos hdistinct]
      split
      · rename_i hnil
        exact absurd hnil hne
      · simp [Attribute.path]
  · have henforced : ¬ (a.traits.uniqueness.valid? = some .server ∨
        a.traits.uniqueness.valid? = some .global) := hdiffer
    simp [henforced, hdiffer]

theorem listed_check_array (hmany : a.cardinality = .many companions) :
    listed (check ⟨a, some (.array items), holder⟩) =
      violations ⟨a, some (.array items), holder⟩ ++
        (parts ⟨a, some (.array items), holder⟩).flatMap fun p => listed p.check := by
  have hcheck : check ⟨a, some (.array items), holder⟩ =
      a.checkList a.checkOne (.array items) := by
    simp [check, Attribute.checkValue, Attribute.checkAs, hmany]
  have hmistaken : mistaken ⟨a, some (.array items), holder⟩ = [] := by
    simp [mistaken, Attribute.takes, hmany]
  have hparts : (parts ⟨a, some (.array items), holder⟩).flatMap (fun p => listed p.check) =
      (Json.presentItems items).flatMap fun item => listed (a.checkOne item) := by
    simp only [parts, hmany, List.flatMap_map, check, Attribute.checkValue_element]
  rw [hcheck, hparts, violations, hmistaken, ← listed_duplicates hmany]
  unfold Attribute.checkList
  cases hitems : Json.presentItems items with
  | nil =>
    have hfilter : items.filter (fun item => !item.isPlaceholder) = [] := hitems
    have hduplicates : a.duplicates [] = [] := by simp [Attribute.duplicates, Json.repeated]
    simp only [hfilter, hduplicates, Characteristics.listed_checkAbsent]
    simp [missing, isMissing, hmany, hitems, Attribute.isRequired, Attribute.path]
  | cons first rest =>
    have hfilter : items.filter (fun item => !item.isPlaceholder) = first :: rest := hitems
    have hmissing : missing ⟨a, some (.array items), holder⟩ = [] := by
      simp [missing, isMissing, hmany, hitems]
    simp only [hfilter, listed_gather, hmissing, List.flatMap_append,
      flatMap_violations_flatMap_found, List.nil_append, List.append_nil]

theorem listed_check_one (hone : a.cardinality = .one) :
    listed (check ⟨a, some value, holder⟩) =
      violations ⟨a, some value, holder⟩ ++
        (parts ⟨a, some value, holder⟩).flatMap fun p => listed p.check := by
  have hcheck : check ⟨a, some value, holder⟩ = a.checkOne value := by
    simp [check, Attribute.checkValue, Attribute.checkAs, hone]
  rw [hcheck, violations_one hone]
  cases a with
  | simple traits cardinality form =>
    cases hone
    have hparts : parts ⟨.simple traits .one form, some value, holder⟩ = [] := by
      cases value <;> rfl
    rw [hparts, Attribute.checkOne, form.check_eq_expect, traits.listed_expect]
    simp only [List.flatMap_nil, List.append_nil]
    rfl
  | complex traits cardinality subAttributes =>
    cases hone
    cases value with
    | object members =>
      show listed (gather traits.path.text
        (Attribute.reportsIn subAttributes (.object members))) = _
      rw [listed_gather, Attribute.listed_reportsIn]
      simp only [parts, Attribute.cardinality, Attribute.subAttributes, List.flatMap_map]
      rfl
    | _ => rfl

/-- Checking a pair lists what the pair contributes, and then what the pairs one step below list. -/
theorem listed_check (r : Reached) :
    listed r.check = r.violations ++ r.parts.flatMap fun p => listed p.check := by
  obtain ⟨a, value?, holder⟩ := r
  cases value? with
  | none =>
    have hparts : parts ⟨a, none, holder⟩ = [] := by
      cases hcardinality : a.cardinality <;> simp [parts, hcardinality]
    have hrepeats : repeats ⟨a, none, holder⟩ = [] := by
      cases hcardinality : a.cardinality <;>
        simp [repeats, comparable, hcardinality, Json.Distinct]
    rw [hparts, violations, hrepeats, check, Characteristics.listed_checkAbsent]
    simp [missing, isMissing, mistaken, Attribute.isRequired, Attribute.path]
  | some value =>
    cases hcardinality : a.cardinality with
    | one => exact listed_check_one hcardinality
    | many companions =>
      cases value with
      | array items => exact listed_check_array hcardinality
      | _ =>
        simp [check, Attribute.checkValue, Attribute.checkAs, Attribute.checkList, hcardinality,
          violations, missing, isMissing, mistaken, repeats, comparable, parts, Attribute.takes,
          Attribute.wants, Attribute.wantedIn, Characteristics.mismatch, Attribute.path,
          Json.Distinct]

/-- Checking a pair lists what the pairs below contribute, depth first. -/
theorem listed_preorder (r : Reached) : listed r.check = r.preorder.flatMap violations := by
  induction r using partsInduction with
  | step r ih =>
    rw [listed_check, preorder_eq, List.flatMap_cons, List.flatMap_assoc]
    congr 1
    exact List.flatMap_congr ih

/-! ### No empty groups -/

theorem full_of_expect {traits : Characteristics} {type : AttributeType} {accepted : Bool}
    {expected : String} {report : PayloadError}
    (h : traits.expect type value accepted expected = .error report) : report.Full := by
  cases accepted with
  | true => cases h
  | false =>
    cases h
    exact .leaf _

theorem full_of_checkAbsent {traits : Characteristics} {report : PayloadError}
    (h : traits.checkAbsent holder = .error report) : report.Full := by
  unfold Characteristics.checkAbsent at h
  split at h
  · cases h
    exact .leaf _
  · cases h

theorem full_of_duplicates {report : PayloadError} (h : report ∈ a.duplicates items) :
    report.Full := by
  unfold Attribute.duplicates at h
  split at h
  · split at h
    · cases h
    · rw [List.mem_singleton.mp h]
      exact .leaf _
  · cases h

theorem full_of_check_one (hone : a.cardinality = .one)
    (hparts : ∀ p ∈ parts ⟨a, some value, holder⟩, ∀ report, p.check = .error report → report.Full)
    {report : PayloadError} (h : check ⟨a, some value, holder⟩ = .error report) :
    report.Full := by
  have hcheck : a.checkOne value = .error report := by
    simpa [check, Attribute.checkValue, Attribute.checkAs, hone] using h
  cases a with
  | simple traits cardinality form =>
    rw [Attribute.checkOne, form.check_eq_expect] at hcheck
    exact full_of_expect hcheck
  | complex traits cardinality subAttributes =>
    cases hone
    rw [Attribute.checkOne] at hcheck
    cases value with
    | object members =>
      refine full_of_gather ?_ hcheck
      intro below hbelow
      rw [Attribute.reportsIn_eq_flatMap] at hbelow
      obtain ⟨sub, hsub, hfound⟩ := List.mem_flatMap.mp hbelow
      rw [Attribute.check_eq_check_lookUp, mem_found] at hfound
      exact hparts (sub.lookUp (.object members)) (List.mem_map.mpr ⟨sub, hsub, rfl⟩) below hfound
    | _ =>
      cases hcheck
      exact .leaf _

theorem full_of_check_array (hmany : a.cardinality = .many companions)
    (hparts : ∀ p ∈ parts ⟨a, some (.array items), holder⟩, ∀ report,
      p.check = .error report → report.Full)
    {report : PayloadError} (h : check ⟨a, some (.array items), holder⟩ = .error report) :
    report.Full := by
  have hcheck : a.checkList a.checkOne (.array items) = .error report := by
    simpa [check, Attribute.checkValue, Attribute.checkAs, hmany] using h
  rw [Attribute.checkList] at hcheck
  split at hcheck
  · exact full_of_checkAbsent hcheck
  · refine full_of_gather ?_ hcheck
    intro below hbelow
    rcases List.mem_append.mp hbelow with hduplicate | hbelow
    · exact full_of_duplicates hduplicate
    · obtain ⟨item, hitem, hfound⟩ := List.mem_flatMap.mp hbelow
      have hpart : (⟨a.element, some item, .array items⟩ : Reached) ∈
          parts ⟨a, some (.array items), holder⟩ := by
        simp only [parts, hmany]
        exact List.mem_map.mpr ⟨item, hitem, rfl⟩
      have hitemCheck : a.element.checkValue item = .error below := by
        rw [Attribute.checkValue_element]
        exact mem_found.mp hfound
      exact hparts _ hpart below hitemCheck

theorem full_of_check (r : Reached) : ∀ report, r.check = .error report → report.Full := by
  induction r using partsInduction with
  | step r ih =>
    obtain ⟨a, value?, holder⟩ := r
    intro report h
    cases value? with
    | none => exact full_of_checkAbsent h
    | some value =>
      cases hcardinality : a.cardinality with
      | one => exact full_of_check_one hcardinality ih h
      | many companions =>
        cases value with
        | array items => exact full_of_check_array hcardinality ih h
        | _ =>
          simp only [check, Attribute.checkValue, Attribute.checkAs, hcardinality,
            Attribute.checkList, Except.error.injEq] at h
          subst h
          exact .leaf _

end Reached

/-! ### A whole payload -/

namespace Schema

variable (s : Schema) {payload : Json}

theorem check_of_isObject (hobject : payload.isObject = true) :
    s.check payload = gather s.id (Attribute.reportsIn s.attributes payload) := by
  rw [Schema.check, if_pos hobject, s.location_eq_id]

theorem listed_check (hobject : payload.isObject = true) :
    listed (s.check payload) = (s.reached payload).flatMap Reached.violations := by
  rw [s.check_of_isObject hobject, listed_gather, Attribute.listed_reportsIn, Schema.reached,
    List.flatMap_assoc]
  simp only [Reached.listed_preorder]

theorem full_of_check {report : PayloadError} (h : s.check payload = .error report) :
    report.Full := by
  by_cases hobject : payload.isObject = true
  · rw [s.check_of_isObject hobject] at h
    refine full_of_gather ?_ h
    intro below hbelow
    rw [Attribute.reportsIn_eq_flatMap] at hbelow
    obtain ⟨a, -, hfound⟩ := List.mem_flatMap.mp hbelow
    rw [Attribute.check_eq_check_lookUp, mem_found] at hfound
    exact (a.lookUp payload).full_of_check below hfound
  · rw [Schema.check, if_neg hobject] at h
    cases h
    exact .leaf _

theorem check_eq_ok_iff (hobject : payload.isObject = true) :
    s.check payload = .ok () ↔ ∀ r ∈ s.reached payload, r.violations = [] := by
  rw [← List.flatMap_eq_nil_iff, ← s.listed_check hobject,
    listed_eq_nil_iff_ok fun _ h => s.full_of_check h]

/-- **A payload check reports every violation once and nothing else.**  A payload that is no object
is refused as such.  Of an object the check lists what the reached pairs contribute, depth first,
and it passes exactly when none of them contributes anything. -/
theorem check_lists_reached_violations (s : Schema) (payload : Json) :
    (payload.isObject = false →
      s.check payload =
        .error (.leaf (.invalidType (.root s.id) payload.rendered false "object" none .null))) ∧
    (payload.isObject = true →
      listed (s.check payload) = (s.reached payload).flatMap Reached.violations ∧
      (s.check payload = .ok () ↔
        ∀ r, Reaches s.attributes payload r → r.violations = [])) ∧
    ∀ r, r ∈ s.reached payload ↔ Reaches s.attributes payload r := by
  refine ⟨?_, ?_, fun r => s.mem_reached_iff⟩
  · intro hobject
    rw [Schema.check, hobject, s.location_eq_id]
    rfl
  · intro hobject
    refine ⟨s.listed_check hobject, ?_⟩
    rw [s.check_eq_ok_iff hobject]
    simp only [s.mem_reached_iff]

end Schema

end IdentitySchema
