/-
  IdentitySchema/Timestamp.lean
  =============================
  **Points in time** as `YYYY-MM-DDThh:mm:ssZ`: a date of the Gregorian
  calendar, carried back before its introduction, and a time of day, where a
  sixtieth second is let through for leap seconds.
-/

namespace IdentitySchema

structure Timestamp where
  year : Nat
  month : Nat
  day : Nat
  hour : Nat
  minute : Nat
  second : Nat
  deriving DecidableEq

namespace Timestamp

/-! ### The calendar -/

/-- Every fourth year has a leap day, but of the full centuries only every fourth. -/
def isLeapYear (year : Nat) : Bool :=
  year % 4 == 0 && (year % 100 != 0 || year % 400 == 0)

def daysInMonth (year month : Nat) : Nat :=
  match month with
  | 2 => if isLeapYear year then 29 else 28
  | 4 | 6 | 9 | 11 => 30
  | _ => 31

/-- Is there such a day, and such a time? -/
def isReal (t : Timestamp) : Bool :=
  (1 ≤ t.month && t.month ≤ 12) && (1 ≤ t.day && t.day ≤ daysInMonth t.year t.month)
    && t.hour ≤ 23 && t.minute ≤ 59 && t.second ≤ 60

/-! ### The written form -/

/-- The value of some decimal digits, or none if one of them is no digit. -/
def number? (digits : List Char) : Option Nat :=
  digits.foldlM (fun value c => if c.isDigit then some (value * 10 + (c.toNat - 48)) else none) 0

def ofText? (text : String) : Option Timestamp :=
  match text.toList with
  | [y₁, y₂, y₃, y₄, '-', m₁, m₂, '-', d₁, d₂, 'T', h₁, h₂, ':', n₁, n₂, ':', s₁, s₂, 'Z'] => do
    return {
      year := ← number? [y₁, y₂, y₃, y₄]
      month := ← number? [m₁, m₂]
      day := ← number? [d₁, d₂]
      hour := ← number? [h₁, h₂]
      minute := ← number? [n₁, n₂]
      second := ← number? [s₁, s₂] }
  | _ => none

/-- Is the text the written form of a point in time? -/
def isWritten (text : String) : Bool :=
  (ofText? text).any isReal

end Timestamp

end IdentitySchema
