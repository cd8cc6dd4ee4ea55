/-
  IdentitySchema/Decimal/Binary64.lean
  ====================================
  **Finite binary64 numbers, exactly.**  A number is a sign, a significand
  and a power of two, in the one form the format has for it, so two numbers
  are the same exactly when their fields are (the two zeros apart).

  `Binary64.ofQuotient?` rounds a quotient of natural numbers to the nearest
  number, a tie going to the even significand; products and quotients of
  numbers are rounded by it.  `Binary64.scaled?` is the number that a decimal
  is read as.  All arithmetic is on natural numbers.
-/

namespace IdentitySchema.Decimal

/-! ### The format -/

/-- The pairs of significand and exponent the format has: 53 bits with the leading one, or fewer
at the least exponent. -/
def IsCanonical (significand : Nat) (exponent : Int) : Prop :=
  significand < Nat.pow 2 53 ∧ -1074 ≤ exponent ∧ exponent ≤ 971 ∧
    (Nat.pow 2 52 ≤ significand ∨ exponent = -1074)

instance (significand : Nat) (exponent : Int) : Decidable (IsCanonical significand exponent) := by
  unfold IsCanonical; infer_instance

/-- The number `± significand · 2 ^ exponent`. -/
structure Binary64 where
  negative : Bool
  significand : Nat
  exponent : Int
  canonical : IsCanonical significand exponent
  deriving DecidableEq

namespace Binary64

def zero (negative : Bool) : Binary64 :=
  ⟨negative, 0, -1074, by decide⟩

def isZero (x : Binary64) : Bool :=
  x.significand == 0

/-- Equality of numbers, where the two zeros are one. -/
def same (x y : Binary64) : Bool :=
  x == y || (x.isZero && y.isZero)

/-! ### Rounding -/

/-- The nearest natural number to `num / den`, a tie going to the even one. -/
def roundQuotient (num den : Nat) : Nat :=
  let below := num / den
  let rest := num % den
  if 2 * rest < den then below
  else if den < 2 * rest then below + 1
  else below + below % 2

/-- The greatest `e` with `2 ^ e ≤ num / den`, for positive `num` and `den`. -/
def binaryOrder (num den : Nat) : Int :=
  let estimate : Int := num.log2 - den.log2
  if den * Nat.pow 2 estimate.toNat ≤ num * Nat.pow 2 (-estimate).toNat then estimate
  else estimate - 1

/-- The number nearest to `num / den`, unless that lies above the greatest finite one. -/
def ofQuotient? (negative : Bool) (num den : Nat) : Option Binary64 :=
  if num = 0 then some (zero negative)
  else
    let exponent := max (binaryOrder num den - 52) (-1074)
    let rounded :=
      roundQuotient (num * Nat.pow 2 (-exponent).toNat) (den * Nat.pow 2 exponent.toNat)
    let (significand, exponent) :=
      if rounded = Nat.pow 2 53 then (Nat.pow 2 52, exponent + 1) else (rounded, exponent)
    if h : IsCanonical significand exponent then some ⟨negative, significand, exponent, h⟩ else none

/-! ### Products and quotients -/

/-- The number nearest to a product, unless that lies above the greatest finite one. -/
def mul? (x y : Binary64) : Option Binary64 :=
  let exponent := x.exponent + y.exponent
  ofQuotient? (x.negative != y.negative)
    (x.significand * y.significand * Nat.pow 2 exponent.toNat) (Nat.pow 2 (-exponent).toNat)

/-- The number nearest to a quotient, unless that lies above the greatest finite one. There is none
by zero. -/
def div? (x y : Binary64) : Option Binary64 :=
  if y.isZero then none
  else
    let exponent := x.exponent - y.exponent
    ofQuotient? (x.negative != y.negative) (x.significand * Nat.pow 2 exponent.toNat)
      (y.significand * Nat.pow 2 (-exponent).toNat)

/-! ### Decimals -/

/-- The greatest power of ten that is not above the greatest finite number. -/
def maxPower : Nat := 308

def powerOfTen? (power : Nat) : Option Binary64 :=
  if power ≤ maxPower then ofQuotient? false (Nat.pow 10 power) 1 else none

/-- The number that the decimal `± digits · 10 ^ scale` is read as, for digits of at most 64 bits,
unless that lies above the greatest finite one: the number nearest to the digits, multiplied or
divided by the number nearest to the power of ten. Each step rounds, so the outcome can be a
neighbour of the number nearest to the decimal. A division by a power that is too great is done in
two steps; where they do not suffice nothing is left of the digits. -/
def scaled? (negative : Bool) (digits : Nat) (scale : Int) : Option Binary64 := do
  let x ← ofQuotient? negative digits 1
  if x.isZero then return x
  match scale with
  | .ofNat power => x.mul? (← powerOfTen? power)
  | .negSucc before =>
    let power := before + 1
    if power ≤ maxPower then x.div? (← powerOfTen? power)
    else if power ≤ 2 * maxPower then
      (← x.div? (← powerOfTen? maxPower)).div? (← powerOfTen? (power - maxPower))
    else return zero negative

end Binary64

end IdentitySchema.Decimal
