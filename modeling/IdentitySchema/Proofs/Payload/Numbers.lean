/-
  IdentitySchema/Proofs/Payload/Numbers.lean
  ==========================================
  **Numbers and the attributes that take them.**  A number is an integer or a
  real, and the messages name it so.  Attributes of integers take the integers.
  Attributes of decimals go by the text: they take the reals that are written
  with a digit on both sides of a point, which are all but those that a digit
  alone rounds to, with a power of ten that is written out (`1e+16`).  These
  few are named decimals, written without a point, and taken by neither
  (`Json.Number.taken_by_kind`).
-/
import IdentitySchema.Proofs.Decimal.Layout
import IdentitySchema.Proofs.Payload.Violations

namespace IdentitySchema

open Decimal

namespace Json.Number

theorem isInteger_iff {n : Json.Number} :
    n.isInteger = true ↔ ∃ value fits, n = .integer value fits := by
  cases n with
  | integer value fits => exact ⟨fun _ => ⟨value, fits, rfl⟩, fun _ => rfl⟩
  | real x => simp [isInteger]

/-- Of the numbers the attributes of integers take the integers. -/
theorem checkValue_integer_iff (traits : Characteristics) (n : Json.Number) :
    (Attribute.simple traits .one .integer).checkValue (.number n) = .ok () ↔
      n.isInteger = true :=
  Characteristics.expect_eq_ok_iff

/-- Of the numbers the attributes of decimals take the reals that no digit alone rounds to. -/
theorem checkValue_decimal_iff (traits : Characteristics) (n : Json.Number) :
    (Attribute.simple traits .one .decimal).checkValue (.number n) = .ok () ↔
      ∃ x, n = .real x ∧ ¬ x.IsDigitAlone := by
  have haccepted : (Attribute.simple traits .one .decimal).checkValue (.number n) = .ok () ↔
      isPointedNumber (.number n) = true := Characteristics.expect_eq_ok_iff
  rw [haccepted]
  cases n with
  | integer value fits => simp [isPointedNumber]
  | real x =>
    have hpointed : isPointedNumber (.number (.real x)) = hasPointInside x.text := rfl
    rw [hpointed, ← Bool.not_eq_false, Binary64.hasPointInside_text_eq_false_iff]
    simp

theorem kindName_eq_integer_iff (n : Json.Number) :
    (Json.number n).kindName = "integer" ↔ n.isInteger = true := by
  cases n with
  | integer value fits => simp [kindName, isInteger]
  | real x => simp [kindName, isInteger]

theorem kindName_eq_decimal_iff (n : Json.Number) :
    (Json.number n).kindName = "decimal" ↔ ∃ x, n = .real x := by
  cases n with
  | integer value fits => simp [kindName, isInteger]
  | real x => simp [kindName, isInteger]

/-- An attribute of decimals goes by the text. -/
theorem checkValue_decimal_iff_text (traits : Characteristics) (n : Json.Number) :
    (Attribute.simple traits .one .decimal).checkValue (.number n) = .ok () ↔
      (∃ x, n = .real x) ∧ HasInnerPoint n.text := by
  rw [checkValue_decimal_iff]
  constructor
  · rintro ⟨x, rfl, hnot⟩
    exact ⟨⟨x, rfl⟩, (Binary64.hasInnerPoint_text_iff x).mpr hnot⟩
  · rintro ⟨⟨x, rfl⟩, hpoint⟩
    exact ⟨x, rfl, (Binary64.hasInnerPoint_text_iff x).mp hpoint⟩

/-- **Numbers are taken by the type that messages name them by, or by none.**  An attribute of
integers takes a number exactly when it is an integer of 64 bits, with or without sign, and then
the number is named one; every other number is named a decimal. An attribute of decimals takes one
of these exactly when its text has a point with a digit on both sides, which is when it is not a
number that a digit alone rounds to, with a power of ten below -5 or above 15. So no number is taken
by both, and these are the numbers that neither takes; they are written without a point. -/
theorem taken_by_kind (n : Json.Number) (integers decimals : Characteristics) :
    ((Attribute.simple integers .one .integer).checkValue (.number n) = .ok () ↔
      ∃ value fits, n = .integer value fits) ∧
    ((Json.number n).kindName = "integer" ↔ ∃ value fits, n = .integer value fits) ∧
    ((Json.number n).kindName = "decimal" ↔ ∃ x, n = .real x) ∧
    ((Attribute.simple decimals .one .decimal).checkValue (.number n) = .ok () ↔
      ∃ x, n = .real x ∧ ¬ x.IsDigitAlone) ∧
    ((Attribute.simple decimals .one .decimal).checkValue (.number n) = .ok () ↔
      (∃ x, n = .real x) ∧ HasInnerPoint n.text) ∧
    ¬ ((Attribute.simple integers .one .integer).checkValue (.number n) = .ok () ∧
      (Attribute.simple decimals .one .decimal).checkValue (.number n) = .ok ()) ∧
    ((Attribute.simple integers .one .integer).checkValue (.number n) ≠ .ok () ∧
      (Attribute.simple decimals .one .decimal).checkValue (.number n) ≠ .ok () ↔
      ∃ x, n = .real x ∧ x.IsDigitAlone) ∧
    ((∃ x, n = .real x ∧ x.IsDigitAlone) → '.' ∉ n.text.toList) := by
  have htext := checkValue_decimal_iff_text decimals n
  rw [checkValue_decimal_iff] at htext
  rw [ne_eq, ne_eq, checkValue_integer_iff, checkValue_decimal_iff, kindName_eq_integer_iff,
    kindName_eq_decimal_iff, ← isInteger_iff]
  refine ⟨Iff.rfl, Iff.rfl, Iff.rfl, Iff.rfl, htext, ?_, ?_, ?_⟩
  · rintro ⟨hinteger, x, rfl, -⟩
    cases hinteger
  · cases n with
    | integer value fits => simp [isInteger]
    | real x => simp [isInteger]
  · rintro ⟨x, rfl, halone⟩ hpoint
    exact Binary64.no_point_text ((Binary64.isDigitAlone_iff x).mp halone) '.' hpoint rfl

/-- Ten to the sixteenth power. -/
def tenQuadrillion : Binary64 := ⟨false, 5000000000000000, 1, by decide⟩

theorem tenQuadrillion_isDigitAlone : tenQuadrillion.IsDigitAlone := by
  have hcovers : tenQuadrillion.Covers tenQuadrillion.magnitude :=
    Binary64.covers_magnitude (by decide)
  have hmagnitude : tenQuadrillion.magnitude = ((1 : ℕ) : ℚ) * (10 : ℚ) ^ (16 : ℤ) := by
    norm_num [Binary64.magnitude, tenQuadrillion]
  rw [hmagnitude] at hcovers
  exact ⟨rfl, 1, 16, by decide, by decide, .inr (by decide), hcovers⟩

def weightFragment : Json.Members :=
  [("name", .string "weight"), ("type", .string "decimal")]

def weight : Attribute :=
  .simple (.ofFragment .decimal ⟨.root "urn:x", false, false⟩ weightFragment) .one .decimal

def countFragment : Json.Members :=
  [("name", .string "count"), ("type", .string "integer")]

def count : Attribute :=
  .simple (.ofFragment .integer ⟨.root "urn:x", false, false⟩ countFragment) .one .integer

/-- A real that is named a decimal and that neither an attribute of decimals nor one of integers
takes. -/
theorem tenQuadrillion_taken_by_none :
    Attribute.ofFragment weightFragment ⟨.root "urn:x", false, false⟩ none = .ok weight ∧
    Attribute.ofFragment countFragment ⟨.root "urn:x", false, false⟩ none = .ok count ∧
    (Json.number (.real tenQuadrillion)).kindName = "decimal" ∧
    weight.checkValue (.number (.real tenQuadrillion)) ≠ .ok () ∧
    count.checkValue (.number (.real tenQuadrillion)) ≠ .ok () := by
  refine ⟨rfl, rfl, rfl, ?_, ?_⟩
  · rw [weight, ne_eq, checkValue_decimal_iff]
    rintro ⟨x, hx, hnot⟩
    cases hx
    exact hnot tenQuadrillion_isDigitAlone
  · rw [count, ne_eq, checkValue_integer_iff]
    intro h
    cases h

end Json.Number

end IdentitySchema
