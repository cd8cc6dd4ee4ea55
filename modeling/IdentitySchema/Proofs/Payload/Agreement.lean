/-
  IdentitySchema/Proofs/Payload/Agreement.lean
  ============================================
  **What a check takes from a payload.**  A check looks a payload up under the
  names of the attributes of the schema, and an object under a complex
  attribute under the names of its sub-attributes.  Two payloads that look
  alike through these names (`Alike`) get the same verdict and the same
  violations, whatever else they hold (`Schema.check_ignores_unnamed`).

  One text may differ: the report on a value that is not there shows the whole
  object in which it was looked for, and `withoutFound` leaves it out.  It is
  the only place where a report shows more of a payload than a value that both
  payloads share.
-/
import IdentitySchema.Proofs.Payload.Violations

namespace IdentitySchema

open Report

/-- The violation without the text of what was found in place of a value. -/
def PayloadViolation.withoutFound : PayloadViolation → PayloadViolation
  | .valueNotFound name path multiValued _ => .valueNotFound name path multiValued ""
  | other => other

/-! ### Payloads that look alike -/

/-- Through the names of an attribute and of its sub-attributes the payloads look alike: both lack
a value, or have the same one, or both have an object under a complex attribute of one value, and
these look alike to every sub-attribute. -/
inductive Alike : Attribute → Json → Json → Prop
  | missing {a : Attribute} {payload other : Json} (hpayload : (a.lookUp payload).value? = none)
      (hother : (a.lookUp other).value? = none) : Alike a payload other
  | equal {a : Attribute} {payload other value : Json}
      (hpayload : (a.lookUp payload).value? = some value)
      (hother : (a.lookUp other).value? = some value) : Alike a payload other
  | inside {traits : Characteristics} {subAttributes : List Attribute} {payload other : Json}
      {members others : Json.Members}
      (hpayload : ((Attribute.complex traits .one subAttributes).lookUp payload).value? =
        some (.object members))
      (hother : ((Attribute.complex traits .one subAttributes).lookUp other).value? =
        some (.object others))
      (hsubs : ∀ sub ∈ subAttributes, Alike sub (.object members) (.object others)) :
      Alike (.complex traits .one subAttributes) payload other

variable {payload other : Json} {a : Attribute}

/-- Payloads that have the same under the name of an attribute look alike to it. -/
theorem Alike.of_get?_eq
    (h : ∀ name, a.name? = some name → payload.get? name = other.get? name) :
    Alike a payload other := by
  have hlookUp : (a.lookUp payload).value? = (a.lookUp other).value? := by
    unfold Attribute.lookUp
    cases hname : a.name? with
    | none => rfl
    | some name => exact h name hname
  cases hvalue : (a.lookUp other).value? with
  | none => exact .missing (hlookUp.trans hvalue) hvalue
  | some value => exact .equal (hlookUp.trans hvalue) hvalue

/-! ### Reports on them -/

theorem Characteristics.map_withoutFound_checkAbsent (traits : Characteristics)
    (payload other : Json) :
    (listed (traits.checkAbsent payload)).map PayloadViolation.withoutFound =
      (listed (traits.checkAbsent other)).map PayloadViolation.withoutFound := by
  unfold checkAbsent
  split
  · rfl
  · rfl

theorem Attribute.check_of_value {value : Json} (h : (a.lookUp payload).value? = some value) :
    a.check payload = a.checkValue value := by
  rw [Attribute.check_eq_check_lookUp, Reached.check, h]
  rfl

theorem Attribute.check_of_no_value (h : (a.lookUp payload).value? = none) :
    a.check payload = a.traits.checkAbsent payload := by
  rw [Attribute.check_eq_check_lookUp, Reached.check, h]
  rfl

theorem Attribute.map_withoutFound_listed_reportsIn {attributes : List Attribute}
    (h : ∀ a ∈ attributes, (listed (a.check payload)).map PayloadViolation.withoutFound =
      (listed (a.check other)).map PayloadViolation.withoutFound) :
    ((reportsIn attributes payload).flatMap Report.violations).map
        PayloadViolation.withoutFound =
      ((reportsIn attributes other).flatMap Report.violations).map
        PayloadViolation.withoutFound := by
  have hlisted : ∀ value : Json, (reportsIn attributes value).flatMap Report.violations =
      attributes.flatMap fun a => listed (a.check value) := by
    intro value
    rw [reportsIn_eq_flatMap, flatMap_violations_flatMap_found]
  rw [hlisted payload, hlisted other, List.map_flatMap, List.map_flatMap]
  apply List.flatMap_congr
  intro a ha
  exact h a ha

/-- An attribute is checked alike in payloads that look alike to it. -/
theorem Alike.map_withoutFound_listed_check (h : Alike a payload other) :
    (listed (a.check payload)).map PayloadViolation.withoutFound =
      (listed (a.check other)).map PayloadViolation.withoutFound := by
  induction h with
  | missing hpayload hother =>
    rw [Attribute.check_of_no_value hpayload, Attribute.check_of_no_value hother]
    apply Characteristics.map_withoutFound_checkAbsent
  | equal hpayload hother =>
    rw [Attribute.check_of_value hpayload, Attribute.check_of_value hother]
  | @inside traits subAttributes _ _ members others hpayload hother _ ih =>
    rw [Attribute.check_of_value hpayload, Attribute.check_of_value hother]
    -- Both objects pass the test of kind, so only their members are left to compare.
    show (listed (gather traits.path.text (Attribute.reportsIn subAttributes (.object members)))).map
        PayloadViolation.withoutFound =
      (listed (gather traits.path.text (Attribute.reportsIn subAttributes (.object others)))).map
        PayloadViolation.withoutFound
    rw [listed_gather, listed_gather]
    exact Attribute.map_withoutFound_listed_reportsIn ih

namespace Schema

variable {s : Schema}

theorem map_withoutFound_listed_check_of_alike (hpayload : payload.isObject = true)
    (hother : other.isObject = true) (h : ∀ a ∈ s.attributes, Alike a payload other) :
    (listed (s.check payload)).map PayloadViolation.withoutFound =
      (listed (s.check other)).map PayloadViolation.withoutFound := by
  rw [s.check_of_isObject hpayload, s.check_of_isObject hother, listed_gather, listed_gather]
  apply Attribute.map_withoutFound_listed_reportsIn
  intro a ha
  exact (h a ha).map_withoutFound_listed_check

/-- **A check takes nothing else from a payload** than what it has under the names of the
attributes. -/
theorem map_withoutFound_listed_check (hpayload : payload.isObject = true)
    (hother : other.isObject = true)
    (h : ∀ a ∈ s.attributes, ∀ name, a.name? = some name → payload.get? name = other.get? name) :
    (listed (s.check payload)).map PayloadViolation.withoutFound =
      (listed (s.check other)).map PayloadViolation.withoutFound := by
  apply map_withoutFound_listed_check_of_alike hpayload hother
  intro a ha
  exact .of_get?_eq (h a ha)

theorem check_eq_ok_iff_listed : s.check payload = .ok () ↔ listed (s.check payload) = [] := by
  rw [listed_eq_nil_iff_ok fun _ h => s.full_of_check h]

/-- **Data that the schema does not name cannot influence the verdict.** Of two objects that look
alike to every attribute of a schema, both pass or both fail, and the violations are as many and,
one by one, the same in everything but the text of what was found in place of a missing value. -/
theorem check_ignores_unnamed (hpayload : payload.isObject = true)
    (hother : other.isObject = true) (h : ∀ a ∈ s.attributes, Alike a payload other) :
    (s.check payload = .ok () ↔ s.check other = .ok ()) ∧
    (listed (s.check payload)).length = (listed (s.check other)).length ∧
    (listed (s.check payload)).map PayloadViolation.withoutFound =
      (listed (s.check other)).map PayloadViolation.withoutFound := by
  have hmap := map_withoutFound_listed_check_of_alike hpayload hother h
  have hlength : (listed (s.check payload)).length = (listed (s.check other)).length := by
    have hmapped := congrArg List.length hmap
    simpa using hmapped
  refine ⟨?_, hlength, hmap⟩
  rw [check_eq_ok_iff_listed, check_eq_ok_iff_listed, ← List.length_eq_zero_iff, hlength,
    List.length_eq_zero_iff]

/-- A schema of badges: a badge has an owner with a number and a name. -/
def badgeDocument : Json.Members :=
  [("attributes", .array [.object [("name", .string "owner"),
      ("subAttributes", .array [.object [("name", .string "number"), ("type", .string "integer")],
        .object [("name", .string "name"), ("required", .bool true)]]),
      ("type", .string "complex")]]),
    ("id", .string "urn:badge")]

def badge : Schema where
  toDeclaration := .ofDocument .resource badgeDocument
    (buildAttributes "urn:badge" (badgeDocument.get? "attributes"))
  wellShaped := by decide

/-- A badge whose owner has a number that is none and no name, but a note. -/
def notedBadge : Json :=
  .object [("owner", .object [("note", .string "lost"), ("number", .string "seven")])]

/-- The badge without the note of its owner, and with a colour instead. -/
def colouredBadge : Json :=
  .object [("colour", .string "red"), ("owner", .object [("number", .string "seven")])]

theorem badges_alike : ∀ a ∈ badge.attributes, Alike a notedBadge colouredBadge := by
  intro a ha
  rcases List.mem_singleton.mp ha with rfl
  refine .inside rfl rfl ?_
  intro sub hsub
  rcases List.mem_cons.mp hsub with rfl | hsub
  · exact .equal rfl rfl
  · rcases List.mem_singleton.mp hsub with rfl
    exact .missing rfl rfl

/-- Neither the note nor the colour shows in what is said of the two badges, which are refused for
the number and the missing name of the owner. -/
theorem badges_refused_alike :
    (∀ a ∈ badge.attributes, Alike a notedBadge colouredBadge) ∧
    (badge.check notedBadge = .ok () ↔ badge.check colouredBadge = .ok ()) ∧
    (listed (badge.check notedBadge)).length = 2 ∧
    (listed (badge.check colouredBadge)).length = 2 ∧
    (listed (badge.check notedBadge)).map PayloadViolation.withoutFound =
      (listed (badge.check colouredBadge)).map PayloadViolation.withoutFound := by
  obtain ⟨hverdict, hlength, hmap⟩ := check_ignores_unnamed rfl rfl badges_alike
  exact ⟨badges_alike, hverdict, rfl, hlength.symm.trans rfl, hmap⟩

end Schema

end IdentitySchema
