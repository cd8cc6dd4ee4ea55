/-
  IdentitySchema/Json/Number.lean
  ===============================
  **The numbers of a document.**  A number written without point and exponent
  is an integer while it fits into 64 bits, signed or unsigned; every other
  number is a binary64 number.  The two kinds are never equal to each other.
-/
import IdentitySchema.Decimal.Layout

namespace IdentitySchema.Json

open IdentitySchema.Decimal

/-- The integers that fit into 64 bits, signed or unsigned. -/
def FitsWord (value : Int) : Prop :=
  -Int.pow 2 63 ≤ value ∧ value < Int.pow 2 64

instance (value : Int) : Decidable (FitsWord value) := by
  unfold FitsWord; infer_instance

inductive Number where
  | integer (value : Int) (fits : FitsWord value)
  | real (value : Binary64)
  deriving DecidableEq

namespace Number

/-- Equality of numbers: integers among themselves, reals among themselves. -/
def same : Number → Number → Bool
  | .integer a _, .integer b _ => a == b
  | .real a, .real b => a.same b
  | _, _ => false

def isInteger : Number → Bool
  | .integer _ _ => true
  | .real _ => false

def text : Number → String
  | .integer value _ => toString value
  | .real value => value.text

end Number

end IdentitySchema.Json
