/-
  IdentitySchema/Decimal/Layout.lean
  ==================================
  **How a real number is written.**  The digits are those of the shortest
  decimal that rounds to it.  They are written out around a decimal point when
  the power of ten of the leading digit is between -5 and 15, always with a
  digit on both sides of the point; outside that range the leading digit is
  followed by the others after a point, if there are any, and by the power
  with an explicit sign.
-/
import IdentitySchema.Decimal.Shortest

namespace IdentitySchema.Decimal

/-- A positive decimal as its significant digits, without a zero at the end, and the power of ten
of the first. -/
structure Digits where
  digits : List Char
  order : Int

namespace Digits

def trim (digits : List Char) : List Char :=
  (digits.reverse.dropWhile (· == '0')).reverse

def ofScaled (decimal : Scaled) : Digits :=
  let digits := Nat.toDigits 10 decimal.digits
  ⟨trim digits, decimal.scale + digits.length - 1⟩

/-- Are the digits written out around a point? -/
def isPositional (d : Digits) : Bool :=
  -5 ≤ d.order && d.order ≤ 15

/-- The digits around a point: those up to the units, and the rest. Missing ones are zeros. -/
def positional (d : Digits) : String :=
  let places := (d.order + 1).toNat
  let whole := (d.digits ++ List.replicate (places - d.digits.length) '0').take places
  let fraction := List.replicate (-1 - d.order).toNat '0' ++ d.digits.drop places
  String.ofList (if whole.isEmpty then ['0'] else whole) ++ "."
    ++ String.ofList (if fraction.isEmpty then ['0'] else fraction)

/-- The leading digit, the others after a point, and the power of ten. -/
def scientific (d : Digits) : String :=
  let fraction := d.digits.drop 1
  String.ofList (d.digits.take 1)
    ++ (if fraction.isEmpty then "" else "." ++ String.ofList fraction)
    ++ "e" ++ (if d.order < 0 then "-" else "+") ++ toString d.order.natAbs

def text (d : Digits) : String :=
  if d.isPositional then d.positional else d.scientific

end Digits

def Binary64.text (x : Binary64) : String :=
  (if x.negative then "-" else "")
    ++ (if x.isZero then "0.0" else (Digits.ofScaled x.shortest).text)

end IdentitySchema.Decimal
