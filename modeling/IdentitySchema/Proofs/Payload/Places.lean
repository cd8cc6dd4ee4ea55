/-
  IdentitySchema/Proofs/Payload/Places.lean
  =========================================
  **Every violation of a payload points at an attribute of the schema.**  A
  report on an attribute is `Placed` at the path of the attribute: each leaf
  has the path of an attribute at that path or below it and says of it what
  the schema says, and each group is located at the path of an attribute and
  holds only reports that are placed there in turn.

  Each check keeps to the attribute it is given, so the step is one lemma per
  check and the run is an induction over the attribute (`placed_of_checkOne`).
  All that is needed of the schema is that its attributes are linked
  (`Consistent`), which construction gives.
-/
import IdentitySchema.Proofs.Anchors
import IdentitySchema.Proofs.Document.Constructed
import IdentitySchema.Proofs.Payload.Violations

namespace IdentitySchema

open Report

/-! ### What a report points at -/

/-- The violation is about the attribute, and describes it as it is. -/
def PayloadViolation.PointsAt (a : Attribute) : PayloadViolation → Prop
  | .valueNotFound name path multiValued _ =>
    a.path = path ∧ a.isMultiValued = multiValued ∧ a.name? = some name
  | .invalidType path _ multiValued _ _ definition =>
    a.path = path ∧ a.isMultiValued = multiValued ∧ a.traits.definition = definition
  | .duplicateValue path _ => a.path = path ∧ a.isMultiValued = true
  | _ => False

theorem PayloadViolation.PointsAt.path?_eq {a : Attribute} {violation : PayloadViolation}
    (h : violation.PointsAt a) : violation.path? = some a.path := by
  cases violation with
  | valueNotFound name path multiValued found => rw [h.1]; rfl
  | invalidType path value multiValued expected reference definition => rw [h.1]; rfl
  | duplicateValue path values => rw [h.1]; rfl
  | _ => exact h.elim

/-- The report stands at a path: a violation has the path, a group is located at its text and it is
that of one of the attributes `D`. -/
def Report.StandsAt (D : Attribute → Prop) (path : Locator) : PayloadError → Prop
  | .leaf violation => violation.path? = some path
  | .group location _ => ∃ a, D a ∧ a.path = path ∧ location = path.text

/-- Everything in the report is about attributes `D` whose paths are `top` or extend it. -/
inductive Placed (D : Attribute → Prop) : Locator → PayloadError → Prop
  | leaf {top : Locator} {a : Attribute} {violation : PayloadViolation} (ha : D a)
      (habove : top.Covers a.path) (hpoints : violation.PointsAt a) : Placed D top (.leaf violation)
  | group {top : Locator} {a : Attribute} {reports : List PayloadError} (ha : D a)
      (habove : top.Covers a.path) (hbelow : ∀ report ∈ reports, Placed D a.path report) :
      Placed D top (.group a.path.text reports)

/-- Attributes with their sub-attributes, each named and linked to those below it. -/
structure Consistent (D : Attribute → Prop) : Prop where
  name : ∀ a, D a → a.name? = some a.traits.nameLabel
  cardinality : ∀ a, D a → a.traits.isMultiValued = a.isMultiValued
  sub : ∀ a, D a → ∀ sub ∈ a.subAttributes, D sub
  covers : ∀ a, D a → ∀ sub ∈ a.subAttributes, a.path.Covers sub.path

theorem Schema.Constructed.consistent {s : Schema} (hs : s.Constructed) :
    Consistent s.Declares where
  name _ ha := Attribute.name?_of_checkShape ha.checkShape_eq_ok
  cardinality _ ha := ha.isMultiValued_eq hs
  sub _ ha _ hsub := ha.sub hs hsub
  covers _ ha _ hsub := ha.covers_sub hs hsub

/-! ### Reports that are placed -/

namespace Placed

variable {D : Attribute → Prop} {top : Locator} {report : PayloadError}

theorem mono {lower : Locator} (hcovers : top.Covers lower) (h : Placed D lower report) :
    Placed D top report := by
  cases h with
  | leaf ha habove hpoints => exact .leaf ha (hcovers.trans habove) hpoints
  | group ha habove hbelow => exact .group ha (hcovers.trans habove) hbelow

/-- A placed report is anchored at the paths of attributes, its violations at what they point at. -/
theorem anchored (h : Placed D top report) :
    Anchored (fun path => ∃ a, D a ∧ a.path = path)
      (fun path violation => ∃ a, D a ∧ a.path = path ∧ violation.PointsAt a) top report := by
  induction h with
  | leaf ha habove hpoints => exact .leaf habove ⟨_, ha, rfl, hpoints⟩
  | group ha habove _ ih => exact .group habove ⟨_, ha, rfl⟩ ih

theorem exists_pointsAt (h : Placed D top report) :
    ∀ violation ∈ report.violations, ∃ a, D a ∧ violation.PointsAt a := by
  intro violation hviolation
  obtain ⟨_, a, ha, -, hpoints⟩ := h.anchored.exists_says violation hviolation
  exact ⟨a, ha, hpoints⟩

theorem standsAt_of_isAt {path : Locator}
    (h : report.IsAt (fun path => ∃ a, D a ∧ a.path = path)
      (fun path violation => ∃ a, D a ∧ a.path = path ∧ violation.PointsAt a) path) :
    report.StandsAt D path := by
  cases report with
  | leaf violation =>
    obtain ⟨a, -, rfl, hpoints⟩ := h
    exact hpoints.path?_eq
  | group location reports =>
    obtain ⟨⟨a, ha, hpath⟩, hlocation⟩ := h
    exact ⟨a, ha, hpath, hlocation⟩

/-- Below a group, everything stands at the path of the group's attribute or extends it. -/
theorem of_group_within {location : String} {reports : List PayloadError}
    (hnode : Within (.group location reports) report) (h : Placed D top report) :
    ∃ a, D a ∧ location = a.path.text ∧ ∀ child ∈ reports, ∀ node, Within node child →
      ∃ path, node.StandsAt D path ∧ a.path.Covers path := by
  obtain ⟨_, ⟨a, ha, rfl⟩, hlocation, hbelow⟩ := h.anchored.of_group_within hnode
  refine ⟨a, ha, hlocation, fun child hchild node hinside => ?_⟩
  obtain ⟨path, habove, hat⟩ := hbelow child hchild node hinside
  exact ⟨path, standsAt_of_isAt hat, habove⟩

end Placed

/-! ### The checks keep their place -/

namespace Attribute

variable {D : Attribute → Prop} {a : Attribute} {report : PayloadError}

theorem placed_of_gather {reports : List PayloadError} (ha : D a)
    (hbelow : ∀ child ∈ reports, Placed D a.path child)
    (h : gather a.path.text reports = .error report) : Placed D a.path report := by
  obtain ⟨-, rfl⟩ := gather_eq_error.mp h
  exact .group ha a.path.covers_refl hbelow

section Steps

variable (hD : Consistent D) (ha : D a)

include hD ha

theorem placed_mismatch (value : Json) (expected reference : String) :
    Placed D a.path (a.traits.mismatch value expected reference) :=
  .leaf ha a.path.covers_refl ⟨rfl, (hD.cardinality a ha).symm, rfl⟩

theorem placed_of_expect {type : AttributeType} {value : Json} {accepted : Bool} {expected : String}
    (h : a.traits.expect type value accepted expected = .error report) :
    Placed D a.path report := by
  cases accepted with
  | true => cases h
  | false =>
    cases h
    exact placed_mismatch hD ha value expected type.definedIn

theorem placed_of_checkAbsent {found : Json} (h : a.traits.checkAbsent found = .error report) :
    Placed D a.path report := by
  unfold Characteristics.checkAbsent at h
  split at h
  · cases h
    exact .leaf ha a.path.covers_refl ⟨rfl, (hD.cardinality a ha).symm, hD.name a ha⟩
  · cases h

variable {checkItem : Json → Except PayloadError Unit}
  (hitem : ∀ value report, checkItem value = .error report → Placed D a.path report)

include hitem

theorem placed_of_checkList (hmany : a.isMultiValued = true) {value : Json}
    (h : a.checkList checkItem value = .error report) : Placed D a.path report := by
  cases value with
  | array entries =>
    rw [checkList] at h
    split at h
    · exact placed_of_checkAbsent hD ha h
    · refine placed_of_gather ha ?_ h
      intro child hchild
      rcases List.mem_append.mp hchild with hduplicate | hfound
      · unfold duplicates at hduplicate
        split at hduplicate
        · split at hduplicate
          · cases hduplicate
          · rw [List.mem_singleton.mp hduplicate]
            exact .leaf ha a.path.covers_refl ⟨rfl, hmany⟩
        · cases hduplicate
      · obtain ⟨item, -, hfound⟩ := List.mem_flatMap.mp hfound
        exact hitem item child (mem_found.mp hfound)
  | _ =>
    cases h
    exact placed_mismatch hD ha _ _ _

theorem placed_of_checkIn {payload : Json} (h : a.checkIn checkItem payload = .error report) :
    Placed D a.path report := by
  unfold checkIn checkAs at h
  split at h
  · cases hcardinality : a.cardinality with
    | one =>
      rw [hcardinality] at h
      exact hitem _ report h
    | many companions =>
      rw [hcardinality] at h
      have hmany : a.isMultiValued = true := by rw [isMultiValued, hcardinality]; rfl
      exact placed_of_checkList hD ha hitem hmany h
  · exact placed_of_checkAbsent hD ha h

end Steps

/-- Checking a value of an attribute reports on that attribute and what is below it. -/
theorem placed_of_checkOne (hD : Consistent D) (a : Attribute) :
    D a → ∀ value report, a.checkOne value = .error report → Placed D a.path report := by
  induction a with
  | simple traits cardinality form =>
    intro ha value report h
    rw [checkOne, form.check_eq_expect] at h
    exact placed_of_expect hD ha h
  | complex traits cardinality subAttributes ih =>
    intro ha value report h
    rw [checkOne] at h
    split at h
    · refine placed_of_gather ha ?_ h
      intro child hchild
      rw [reportsIn_eq_flatMap] at hchild
      obtain ⟨sub, hsub, hfound⟩ := List.mem_flatMap.mp hchild
      have hdeclared : D sub := hD.sub _ ha sub hsub
      have hplaced : Placed D sub.path child :=
        placed_of_checkIn hD hdeclared (ih sub hsub hdeclared) (mem_found.mp hfound)
      exact hplaced.mono (hD.covers _ ha sub hsub)
    · cases h
      exact placed_mismatch hD ha value _ _

theorem placed_of_check (hD : Consistent D) (ha : D a) {payload : Json}
    (h : a.check payload = .error report) : Placed D a.path report :=
  placed_of_checkIn hD ha (placed_of_checkOne hD a ha) h

end Attribute

/-! ### A whole payload -/

namespace Schema

variable {s : Schema} {payload : Json} {report : PayloadError}

/-- The report on an object is a group at the id of the schema, and what it holds is placed. -/
theorem placed_of_check (hs : s.Constructed) (hobject : payload.isObject = true)
    (h : s.check payload = .error report) :
    ∃ reports, report = .group s.id reports ∧
      ∀ child ∈ reports, ∃ top, Placed s.Declares top child := by
  rw [s.check_of_isObject hobject] at h
  obtain ⟨-, rfl⟩ := gather_eq_error.mp h
  refine ⟨_, rfl, fun child hchild => ?_⟩
  rw [Attribute.reportsIn_eq_flatMap] at hchild
  obtain ⟨a, ha, hfound⟩ := List.mem_flatMap.mp hchild
  exact ⟨a.path,
    Attribute.placed_of_check hs.consistent (Or.inl ha) (mem_found.mp hfound)⟩

theorem check_of_not_isObject (hobject : payload.isObject = false) :
    s.check payload =
      .error (.leaf (.invalidType (.root s.id) payload.rendered false "object" none .null)) := by
  rw [Schema.check, hobject, s.location_eq_id]
  rfl

theorem exists_pointsAt_of_check (hs : s.Constructed) (hobject : payload.isObject = true)
    (h : s.check payload = .error report) :
    ∀ violation ∈ report.violations, ∃ a, s.Declares a ∧ violation.PointsAt a := by
  obtain ⟨reports, rfl, hplaced⟩ := placed_of_check hs hobject h
  intro violation hviolation
  rw [violations_group] at hviolation
  obtain ⟨child, hchild, hviolation⟩ := List.mem_flatMap.mp hviolation
  obtain ⟨_, hplaced⟩ := hplaced child hchild
  exact hplaced.exists_pointsAt violation hviolation

/-- Every violation has a path, which leads from the id of the schema over at most two names. -/
theorem exists_path_of_check (hs : s.Constructed) (h : s.check payload = .error report) :
    ∀ violation ∈ report.violations, ∃ path, violation.path? = some path ∧
      path.segments.head? = some s.id ∧ path.segments.length ≤ 3 := by
  intro violation hviolation
  by_cases hobject : payload.isObject = true
  · obtain ⟨a, ha, hpoints⟩ := exists_pointsAt_of_check hs hobject h violation hviolation
    obtain ⟨names, hsegments, -, hlength⟩ := ha.segments_eq hs
    refine ⟨a.path, hpoints.path?_eq, ?_, ?_⟩
    · rw [hsegments]
      rfl
    · rw [hsegments, List.length_cons]
      omega
  · rw [check_of_not_isObject (by simpa using hobject)] at h
    cases h
    rw [violations_leaf, List.mem_singleton] at hviolation
    rw [hviolation]
    exact ⟨.root s.id, rfl, rfl, by simp [Locator.root]⟩

/-- **Violations point at attributes.**  Whenever a constructed schema refuses a payload, no group
of the report is empty and every violation has a path, from the id of the schema over at most two
names. A payload that is no object is refused with one violation at the id. In the report on an
object, every violation points at an attribute of the schema and describes it as it is, the whole
report is a group at the id, and every other group is located at the path of an attribute, with
nothing inside that stands anywhere but there or below. -/
theorem check_points_at_declared (hs : s.Constructed) (h : s.check payload = .error report) :
    report.Full ∧
    (∀ violation ∈ report.violations, ∃ path, violation.path? = some path ∧
      path.segments.head? = some s.id ∧ path.segments.length ≤ 3) ∧
    (payload.isObject = false →
      ∃ violation, report = .leaf violation ∧ violation.path? = some (.root s.id)) ∧
    (payload.isObject = true →
      (∀ violation ∈ report.violations, ∃ a, s.Declares a ∧ violation.PointsAt a) ∧
      ∃ reports, report = .group s.id reports ∧
        ∀ child ∈ reports, ∀ location below, Within (.group location below) child →
          ∃ a, s.Declares a ∧ location = a.path.text ∧
            ∀ lower ∈ below, ∀ node, Within node lower →
              ∃ path, node.StandsAt s.Declares path ∧ a.path.Covers path) := by
  refine ⟨s.full_of_check h, exists_path_of_check hs h, ?_, ?_⟩
  · intro hobject
    rw [check_of_not_isObject hobject] at h
    cases h
    exact ⟨_, rfl, rfl⟩
  · intro hobject
    refine ⟨exists_pointsAt_of_check hs hobject h, ?_⟩
    obtain ⟨reports, rfl, hplaced⟩ := placed_of_check hs hobject h
    refine ⟨reports, rfl, fun child hchild location below hgroup => ?_⟩
    obtain ⟨_, hplaced⟩ := hplaced child hchild
    exact hplaced.of_group_within hgroup

/-- A schema of widgets: a widget has parts of different values, and a part has a size. -/
def widgetDocument : Json.Members :=
  [("attributes", .array [.object [("multiValued", .bool true), ("name", .string "parts"),
      ("subAttributes", .array [.object [("name", .string "size"), ("type", .string "integer")]]),
      ("type", .string "complex"), ("uniqueness", .string "server")]]),
    ("id", .string "urn:widget")]

def widget : Schema where
  toDeclaration := .ofDocument .resource widgetDocument (attempts widgetDocument)
  wellShaped := by decide

/-- A widget whose two parts have the same value, and one of them a size that is no integer. -/
def widgetPayload : Json :=
  .object [("parts", .array [.object [("size", .string "big"), ("value", .string "left")],
    .object [("value", .string "left")]])]

/-- Both violations of the widget point at attributes of its schema, from inside nested groups. -/
theorem widget_violations_point_at_declared :
    ofDocument .resource widgetDocument = .ok widget ∧
    ∃ report, widget.check widgetPayload = .error report ∧ report.violations.length = 2 ∧
      report.Full ∧
      (∀ violation ∈ report.violations, ∃ a, widget.Declares a ∧ violation.PointsAt a) ∧
      ∃ reports, report = .group "urn:widget" reports ∧
        ∀ child ∈ reports, ∀ location below, Within (.group location below) child →
          ∃ a, widget.Declares a ∧ location = a.path.text ∧
            ∀ lower ∈ below, ∀ node, Within node lower →
              ∃ path, node.StandsAt widget.Declares path ∧ a.path.Covers path := by
  have hbuilt : ofDocument .resource widgetDocument = .ok widget := rfl
  have hrefused : ∃ report, widget.check widgetPayload = .error report ∧
      report.violations.length = 2 := ⟨_, rfl, rfl⟩
  obtain ⟨report, hcheck, hlength⟩ := hrefused
  have hplaces := check_points_at_declared (.document hbuilt) hcheck
  obtain ⟨hfull, -, -, hobject⟩ := hplaces
  obtain ⟨hpoints, hgroups⟩ := hobject rfl
  exact ⟨hbuilt, report, hcheck, hlength, hfull, hpoints, hgroups⟩

end Schema

end IdentitySchema
