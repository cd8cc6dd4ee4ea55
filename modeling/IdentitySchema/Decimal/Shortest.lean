/-
  IdentitySchema/Decimal/Shortest.lean
  ====================================
  **The shortest decimal that rounds to a number.**  Among the decimals whose
  nearest binary64 number is a given one, `shortest` takes one with the fewest digits, and of
  those the nearest to the number, a tie going to the even digit.

  The candidates with `n` digits are the two neighbours of the number on the
  grid of that many digits: if any point of the grid rounds to the number,
  one of these two does.
-/
import IdentitySchema.Decimal.Binary64

namespace IdentitySchema.Decimal

/-- The positive decimal `digits · 10 ^ scale`. -/
structure Scaled where
  digits : Nat
  scale : Int

namespace Binary64

/-! ### The interval that rounds to a number

Everything is measured in quarters of the number's last place, so that the halfway points to both
neighbours are whole: the number itself is `4 * significand`. -/

/-- The halfway point to the next number up. -/
def upper (x : Binary64) : Nat :=
  4 * x.significand + 2

/-- The halfway point to the next number down, which is closer at a power of two. -/
def lower (x : Binary64) : Nat :=
  if x.significand = Nat.pow 2 52 ∧ x.exponent ≠ -1074 then 4 * x.significand - 1
  else 4 * x.significand - 2

/-- `num / den` quarters of the last place lie in the interval that rounds to the number. The
halfway points belong to it when the significand is even. -/
def holds (x : Binary64) (num den : Nat) : Bool :=
  if x.significand % 2 = 0 then x.lower * den ≤ num && num ≤ x.upper * den
  else x.lower * den < num && num < x.upper * den

/-! ### The decimal grids -/

/-- The factors `(a, b)` for which one step of the grid `10 ^ scale` is `a / b` quarters of the last
place of the number. -/
def gridStep (x : Binary64) (scale : Int) : Nat × Nat :=
  let quarter := x.exponent - 2
  (Nat.pow 10 scale.toNat * Nat.pow 2 (-quarter).toNat,
    Nat.pow 10 (-scale).toNat * Nat.pow 2 quarter.toNat)

/-- The greatest multiple of `10 ^ scale` that is not above the number. -/
def floorAt (x : Binary64) (scale : Int) : Nat :=
  let (step, unit) := x.gridStep scale
  4 * x.significand * unit / step

/-- The better of the number's two neighbours on the grid `10 ^ scale`, if one rounds to it. -/
def onGrid? (x : Binary64) (scale : Int) : Option Scaled :=
  let (step, unit) := x.gridStep scale
  let below := x.floorAt scale
  let value := 4 * x.significand * unit
  let fromBelow := value - below * step
  let fromAbove := (below + 1) * step - value
  match x.holds (below * step) unit, x.holds ((below + 1) * step) unit with
  | true, true =>
    if fromBelow < fromAbove ∨ (fromBelow = fromAbove ∧ below % 2 = 0) then some ⟨below, scale⟩
    else some ⟨below + 1, scale⟩
  | true, false => some ⟨below, scale⟩
  | false, true => some ⟨below + 1, scale⟩
  | false, false => none

def digitCount (n : Nat) : Nat :=
  (Nat.toDigits 10 n).length

/-- The power of ten of the leading digit of a positive number. -/
def decimalOrder (x : Binary64) : Int :=
  digitCount (x.floorAt (-330)) - 331

/-- The first grid with a decimal that rounds to the number, from one digit to seventeen. -/
def shortest (x : Binary64) : Scaled :=
  let order := x.decimalOrder
  ((List.range 17).findSome? fun (n : Nat) => x.onGrid? (order - n)).getD
    ⟨x.floorAt (order - 16), order - 16⟩

end Binary64

end IdentitySchema.Decimal
