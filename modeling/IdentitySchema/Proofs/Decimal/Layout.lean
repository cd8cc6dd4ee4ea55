/-
  IdentitySchema/Proofs/Decimal/Layout.lean
  =========================================
  **Which reals are written with a point inside.**  A positional text has a
  point between two digits always, a text with a power of ten only if there are
  two digits to put it between.  So a text without a point is that of a digit
  alone (`Binary64.pointed_text`, `Binary64.no_point_text`).

  Which numbers these are does not depend on how the digits were found: they
  are the numbers that some digit with a power of ten rounds to, where the
  power is outside the range of the positional texts
  (`Binary64.isDigitAlone_iff`).  If one digit rounds to a number the
  grid of one digit has a point that does, so the shortest decimal has one
  digit too; and it cannot be in the range when the other is not, since numbers
  that are a tenth apart do not round to the same number.
-/
import IdentitySchema.Attribute.Check
import IdentitySchema.Proofs.Decimal.Shortest
import Mathlib.Data.List.TakeWhile

namespace IdentitySchema

open Decimal

/-! ### A point with digits around it -/

/-- The characters have a point between two digits, and before it nothing but a sign and digits. -/
def Pointed (chars : List Char) : Prop :=
  ∃ before b a after, chars = before ++ b :: '.' :: a :: after ∧
    (∀ c ∈ before, c.isDigit = true ∨ c = '-') ∧ b.isDigit = true ∧ a.isDigit = true

/-- Some point of the text has a digit on both sides. -/
def HasInnerPoint (text : String) : Prop :=
  ∃ before b a after, text.toList = before ++ b :: '.' :: a :: after ∧
    b.isDigit = true ∧ a.isDigit = true

theorem Pointed.minus {chars : List Char} (h : Pointed chars) : Pointed ('-' :: chars) := by
  obtain ⟨before, b, a, after, rfl, hbefore, hb, ha⟩ := h
  refine ⟨'-' :: before, b, a, after, rfl, ?_, hb, ha⟩
  intro c hc
  rcases List.mem_cons.mp hc with rfl | hc
  · exact Or.inr rfl
  · exact hbefore c hc

/-- A sign in front of a text takes no point inside away, -/
theorem Pointed.signed {body : String} (negative : Bool) (h : Pointed body.toList) :
    Pointed ((if negative then "-" else "") ++ body).toList := by
  cases negative with
  | false => simpa using h
  | true => simpa using h.minus

/-- and adds none. -/
theorem ne_point_of_mem_signed {body : String} (negative : Bool) (h : ∀ c ∈ body.toList, c ≠ '.') :
    ∀ c ∈ ((if negative then "-" else "") ++ body).toList, c ≠ '.' := by
  intro c hc
  rw [String.toList_append] at hc
  rcases List.mem_append.mp hc with hc | hc
  · cases negative with
    | false => simp at hc
    | true =>
      have hminus : c = '-' := by simpa using hc
      rw [hminus]
      decide
  · exact h c hc

theorem ne_point_of_isDigit {c : Char} (h : c.isDigit = true) : c ≠ '.' := by
  rintro rfl
  cases h

namespace Json

theorem hasPointInside_of_pointed {text : String} (h : Pointed text.toList) :
    hasPointInside text = true := by
  obtain ⟨before, b, a, after, htext, hbefore, hb, ha⟩ := h
  -- The point is the first one, so the walk to it ends right after `b`.
  have hfirst : ∀ c ∈ before ++ [b], (c != '.') = true := by
    intro c hc
    rw [bne_iff_ne]
    rcases List.mem_append.mp hc with hc | hc
    · rcases hbefore c hc with hdigit | rfl
      · exact ne_point_of_isDigit hdigit
      · decide
    · rw [List.mem_singleton.mp hc]
      exact ne_point_of_isDigit hb
  have hsplit : text.toList = (before ++ [b]) ++ '.' :: a :: after := by
    rw [htext]
    simp
  have htake : text.toList.takeWhile (· != '.') = before ++ [b] := by
    rw [hsplit, List.takeWhile_append_of_pos hfirst]
    simp
  have hdrop : text.toList.dropWhile (· != '.') = '.' :: a :: after := by
    rw [hsplit, List.dropWhile_append_of_pos hfirst]
    simp
  unfold hasPointInside
  rw [htake, hdrop]
  simp [hb, ha]

theorem hasPointInside_of_no_point {text : String} (h : ∀ c ∈ text.toList, c ≠ '.') :
    hasPointInside text = false := by
  have hdrop : text.toList.dropWhile (· != '.') = [] := by
    rw [List.dropWhile_eq_nil_iff]
    intro c hc
    rw [bne_iff_ne]
    exact h c hc
  unfold hasPointInside
  rw [hdrop]
  simp

end Json

namespace Decimal

/-! ### The digits of a number -/

theorem digitChar_eq_zero_iff : ∀ n < 10, n.digitChar = '0' ↔ n = 0 := by decide

/-- A digit is between one and nine steps of the grid of its power of ten. -/
theorem digit_bounds {c : ℕ} (hc : 1 ≤ c) (hc' : c ≤ 9) (k : ℤ) :
    (10 : ℚ) ^ k ≤ c * (10 : ℚ) ^ k ∧ c * (10 : ℚ) ^ k ≤ 9 * (10 : ℚ) ^ k := by
  have hpower : (0 : ℚ) < (10 : ℚ) ^ k := by positivity
  have hlow : (1 : ℚ) ≤ c := by exact_mod_cast hc
  have hhigh : (c : ℚ) ≤ 9 := by exact_mod_cast hc'
  constructor
  · nlinarith
  · nlinarith

/-- Only one power of ten is the last not above a number. -/
theorem eq_of_between_powers {r : ℚ} {j k : ℤ} (hj : (10 : ℚ) ^ j ≤ r)
    (hj' : r < (10 : ℚ) ^ (j + 1)) (hk : (10 : ℚ) ^ k ≤ r) (hk' : r < (10 : ℚ) ^ (k + 1)) :
    j = k := by
  have hjk := (zpow_lt_zpow_iff_right₀ (by norm_num : (1 : ℚ) < 10)).mp (hj.trans_lt hk')
  have hkj := (zpow_lt_zpow_iff_right₀ (by norm_num : (1 : ℚ) < 10)).mp (hk.trans_lt hj')
  omega

namespace Digits

theorem trim_append_zero (digits : List Char) : trim (digits ++ ['0']) = trim digits := by
  simp [trim]

theorem trim_append_of_ne {digits : List Char} {c : Char} (h : c ≠ '0') :
    trim (digits ++ [c]) = digits ++ [c] := by
  simp [trim, h]

theorem mem_of_mem_trim {digits : List Char} {c : Char} (h : c ∈ trim digits) : c ∈ digits := by
  unfold trim at h
  rw [List.mem_reverse] at h
  exact List.mem_reverse.mp ((List.dropWhile_sublist _).mem h)

/-- A number of two digits or more is a digit followed by zeros if its last digit is a zero and the
number without it is one. -/
theorem exists_digit_iff_of_ten_le {m : ℕ} (hm : 10 ≤ m) :
    (∃ c t : ℕ, 1 ≤ c ∧ c ≤ 9 ∧ m = c * 10 ^ t) ↔
      m % 10 = 0 ∧ ∃ c t : ℕ, 1 ≤ c ∧ c ≤ 9 ∧ m / 10 = c * 10 ^ t := by
  constructor
  · rintro ⟨c, t, hc, hc', h⟩
    cases t with
    | zero => omega
    | succ t =>
      rw [pow_succ, ← Nat.mul_assoc] at h
      exact ⟨by omega, c, t, hc, hc', by omega⟩
  · rintro ⟨hzero, c, t, hc, hc', h⟩
    refine ⟨c, t + 1, hc, hc', ?_⟩
    rw [pow_succ, ← Nat.mul_assoc, ← h]
    omega

/-- Of the digits of a number without the zeros at its end no more than one is left exactly of a
digit followed by zeros. -/
theorem length_trim_toDigits_le_one_iff {m : ℕ} (hm : m ≠ 0) :
    (trim (Nat.toDigits 10 m)).length ≤ 1 ↔ ∃ c t : ℕ, 1 ≤ c ∧ c ≤ 9 ∧ m = c * 10 ^ t := by
  induction m using Nat.strong_induction_on with
  | _ m ih =>
    rcases Nat.lt_or_ge m 10 with hlt | hge
    · have hdigit : m.digitChar ≠ '0' := mt (digitChar_eq_zero_iff m hlt).mp hm
      rw [Nat.toDigits_of_lt_base hlt, ← List.nil_append [m.digitChar], trim_append_of_ne hdigit]
      constructor
      · intro _
        exact ⟨m, 0, Nat.one_le_iff_ne_zero.mpr hm, by omega, by simp⟩
      · intro _
        simp
    · rw [Nat.toDigits_of_base_le (by decide) hge, exists_digit_iff_of_ten_le hge]
      by_cases hzero : m % 10 = 0
      · have hchar : (m % 10).digitChar = '0' := by
          rw [hzero]
          rfl
        rw [hchar, trim_append_zero, ih _ (by omega) (by omega)]
        exact (and_iff_right hzero).symm
      · have hchar : (m % 10).digitChar ≠ '0' :=
          mt (digitChar_eq_zero_iff _ (Nat.mod_lt _ (by decide))).mp hzero
        have hpos : 0 < (Nat.toDigits 10 (m / 10)).length := Nat.length_toDigits_pos
        rw [trim_append_of_ne hchar, List.length_append, List.length_singleton]
        constructor
        · intro h
          omega
        · rintro ⟨h, -⟩
          exact absurd h hzero

variable {d : Scaled}

theorem isDigit_of_mem_ofScaled {c : Char} (h : c ∈ (ofScaled d).digits) : c.isDigit = true :=
  Nat.isDigit_of_mem_toDigits (by decide) (by decide) (mem_of_mem_trim h)

/-- The order is the power of ten of the leading digit. -/
theorem order_ofScaled_spec (hd : d.digits ≠ 0) :
    (10 : ℚ) ^ (ofScaled d).order ≤ d.value ∧ d.value < (10 : ℚ) ^ ((ofScaled d).order + 1) := by
  have hten : (10 : ℚ) ≠ 0 := by norm_num
  have hscale : (0 : ℚ) < (10 : ℚ) ^ d.scale := by positivity
  have hpos := Binary64.digitCount_pos d.digits
  have horder : (ofScaled d).order = d.scale + Binary64.digitCount d.digits - 1 := rfl
  have hlower : (ofScaled d).order = ((Binary64.digitCount d.digits - 1 : ℕ) : ℤ) + d.scale := by
    omega
  have hupper : (ofScaled d).order + 1 = (Binary64.digitCount d.digits : ℤ) + d.scale := by
    omega
  unfold Scaled.value
  constructor
  · rw [hlower, zpow_add₀ hten, zpow_natCast]
    apply mul_le_mul_of_nonneg_right _ hscale.le
    exact_mod_cast Binary64.pow_digitCount_le hd
  · rw [hupper, zpow_add₀ hten, zpow_natCast]
    apply mul_lt_mul_of_pos_right _ hscale
    exact_mod_cast Binary64.lt_pow_digitCount d.digits

/-- A decimal with one significant digit is this digit with the order as the power of ten. -/
theorem exists_digit_of_length_le_one (hd : d.digits ≠ 0) (hone : (ofScaled d).digits.length ≤ 1) :
    ∃ c : ℕ, 1 ≤ c ∧ c ≤ 9 ∧ d.value = c * (10 : ℚ) ^ (ofScaled d).order := by
  obtain ⟨c, t, hc, hc', hm⟩ := (length_trim_toDigits_le_one_iff hd).mp hone
  have hvalue : d.value = c * (10 : ℚ) ^ ((t : ℤ) + d.scale) := by
    unfold Scaled.value
    rw [hm, zpow_add₀ (by norm_num), zpow_natCast]
    push_cast
    ring
  obtain ⟨hlow, hhigh⟩ := digit_bounds hc hc' ((t : ℤ) + d.scale)
  obtain ⟨horder, horder'⟩ := order_ofScaled_spec hd
  have hpos : (0 : ℚ) < (10 : ℚ) ^ ((t : ℤ) + d.scale) := by positivity
  have hnext : (10 : ℚ) ^ ((t : ℤ) + d.scale + 1) = 10 ^ ((t : ℤ) + d.scale) * 10 :=
    zpow_add_one₀ (by norm_num) _
  have hpower : (ofScaled d).order = (t : ℤ) + d.scale :=
    eq_of_between_powers horder horder' (by linarith) (by linarith)
  rw [hpower]
  exact ⟨c, hc, hc', hvalue⟩

/-! ### Where the point stands -/

/-- A positional text is digits around a point. -/
theorem pointed_positional (d : Digits) (hd : ∀ c ∈ d.digits, c.isDigit = true) :
    Pointed d.positional.toList := by
  -- Both parts are lists of digits, and a zero stands in for one that has none.
  have hfilled : ∀ part : List Char, (∀ c ∈ part, c.isDigit = true) →
      (∀ c ∈ (if part.isEmpty then ['0'] else part), c.isDigit = true) ∧
        (if part.isEmpty then ['0'] else part) ≠ [] := by
    intro part hpart
    cases part with
    | nil => simp
    | cons c rest => exact ⟨hpart, by simp⟩
  have hzeros : ∀ n, ∀ c ∈ List.replicate n '0', c.isDigit = true := by
    intro n c hc
    rw [List.eq_of_mem_replicate hc]
    rfl
  obtain ⟨hwhole, hwholeSome⟩ := hfilled
    ((d.digits ++ List.replicate ((d.order + 1).toNat - d.digits.length) '0').take
      (d.order + 1).toNat) (by
    intro c hc
    rcases List.mem_append.mp (List.mem_of_mem_take hc) with hc | hc
    · exact hd c hc
    · exact hzeros _ c hc)
  obtain ⟨hfraction, hfractionSome⟩ := hfilled
    (List.replicate (-1 - d.order).toNat '0' ++ d.digits.drop (d.order + 1).toNat) (by
    intro c hc
    rcases List.mem_append.mp hc with hc | hc
    · exact hzeros _ c hc
    · exact hd c (List.mem_of_mem_drop hc))
  obtain ⟨a, after, hafter⟩ := List.exists_cons_of_ne_nil hfractionSome
  rcases List.eq_nil_or_concat _ with hnil | ⟨before, b, hbefore⟩
  · exact absurd hnil hwholeSome
  · refine ⟨before, b, a, after, ?_, ?_, ?_, ?_⟩
    · unfold positional
      simp only [String.toList_append, String.toList_ofList, hafter, hbefore]
      simp
    · intro c hc
      exact Or.inl (hwhole c (by rw [hbefore]; simp [hc]))
    · exact hwhole b (by rw [hbefore]; simp)
    · exact hfraction a (by rw [hafter]; simp)

/-- With a power of ten the point stands between the first two digits, if there are two. -/
theorem pointed_scientific (d : Digits) (hd : ∀ c ∈ d.digits, c.isDigit = true)
    (htwo : 2 ≤ d.digits.length) : Pointed d.scientific.toList := by
  match hdigits : d.digits with
  | [] => simp [hdigits] at htwo
  | [_] => simp [hdigits] at htwo
  | b :: a :: rest =>
    rw [hdigits] at hd
    refine ⟨[], b, a, rest ++ ("e" ++ (if d.order < 0 then "-" else "+") ++
      toString d.order.natAbs).toList, ?_, List.forall_mem_nil _, ?_, ?_⟩
    · simp [scientific, hdigits]
    · exact hd b (by simp)
    · exact hd a (by simp)

/-- With a power of ten there is no point after a digit alone. -/
theorem no_point_scientific (d : Digits) (hd : ∀ c ∈ d.digits, c.isDigit = true)
    (hone : d.digits.length ≤ 1) : ∀ c ∈ d.scientific.toList, c ≠ '.' := by
  have hfraction : d.digits.drop 1 = [] := List.drop_eq_nil_of_le hone
  intro c hc
  simp only [scientific, hfraction, String.toList_append, String.toList_ofList, List.mem_append,
    List.isEmpty_nil, if_true] at hc
  rcases hc with (((hc | hc) | hc) | hc) | hc
  · exact ne_point_of_isDigit (hd c (List.mem_of_mem_take hc))
  · cases hc
  · rw [List.mem_singleton.mp hc]
    decide
  · split at hc
    · rw [List.mem_singleton.mp hc]
      decide
    · rw [List.mem_singleton.mp hc]
      decide
  · have hpower : (toString d.order.natAbs).toList = Nat.toDigits 10 d.order.natAbs :=
      String.toList_ofList
    rw [hpower] at hc
    exact ne_point_of_isDigit (Nat.isDigit_of_mem_toDigits (by decide) (by decide) hc)

end Digits

namespace Binary64

/-- The layout of the text has room for a point between two digits. -/
def TakesPoint (x : Binary64) : Prop :=
  x.isZero = true ∨ (Digits.ofScaled x.shortest).isPositional = true ∨
    2 ≤ (Digits.ofScaled x.shortest).digits.length

theorem pointed_text {x : Binary64} (h : x.TakesPoint) : Pointed x.text.toList := by
  have hdigits : ∀ c ∈ (Digits.ofScaled x.shortest).digits, c.isDigit = true :=
    fun _ => Digits.isDigit_of_mem_ofScaled
  apply Pointed.signed
  by_cases hzero : x.isZero = true
  · rw [if_pos hzero]
    exact ⟨[], '0', '0', [], rfl, List.forall_mem_nil _, rfl, rfl⟩
  · rw [if_neg hzero, Digits.text]
    by_cases hpositional : (Digits.ofScaled x.shortest).isPositional = true
    · rw [if_pos hpositional]
      exact Digits.pointed_positional _ hdigits
    · rw [if_neg hpositional]
      exact Digits.pointed_scientific _ hdigits ((h.resolve_left hzero).resolve_left hpositional)

theorem no_point_text {x : Binary64} (h : ¬ x.TakesPoint) : ∀ c ∈ x.text.toList, c ≠ '.' := by
  have hdigits : ∀ c ∈ (Digits.ofScaled x.shortest).digits, c.isDigit = true :=
    fun _ => Digits.isDigit_of_mem_ofScaled
  simp only [TakesPoint, not_or, Nat.not_le] at h
  obtain ⟨hzero, hpositional, hlength⟩ := h
  apply ne_point_of_mem_signed
  rw [if_neg hzero, Digits.text, if_neg hpositional]
  exact Digits.no_point_scientific _ hdigits (Nat.lt_succ_iff.mp hlength)

variable {x : Binary64}

/-! ### Digits alone -/

/-- If a digit alone rounds to a number, a point of the grid of one digit does. -/
theorem exists_covers_at_order (hx : x.significand ≠ 0) {c : ℕ} {k : ℤ} (hc : 1 ≤ c) (hc' : c ≤ 9)
    (h : x.Covers (c * (10 : ℚ) ^ k)) :
    ∃ m : ℕ, x.Covers (m * (10 : ℚ) ^ x.decimalOrder) := by
  obtain ⟨horder, horder'⟩ := decimalOrder_spec hx
  obtain ⟨hlow, hhigh⟩ := digit_bounds hc hc' k
  have hself := covers_magnitude hx
  have hten : (1 : ℚ) ≤ 10 := by norm_num
  rcases lt_trichotomy k x.decimalOrder with hlt | rfl | hgt
  · -- The power of ten below the number lies between the digit and the number.
    refine ⟨1, h.between hself ?_ ?_⟩
    · have hnext : (10 : ℚ) ^ (k + 1) ≤ (10 : ℚ) ^ x.decimalOrder :=
        zpow_le_zpow_right₀ hten (by omega)
      have hpower : (10 : ℚ) ^ (k + 1) = 10 ^ k * 10 := zpow_add_one₀ (by norm_num) k
      have hpos : (0 : ℚ) < (10 : ℚ) ^ k := by positivity
      push_cast
      linarith
    · push_cast
      linarith
  · exact ⟨c, h⟩
  · -- The power of ten above the number does.
    have hpower : (10 : ℚ) ^ (x.decimalOrder + 1) = 10 ^ x.decimalOrder * 10 :=
      zpow_add_one₀ (by norm_num) x.decimalOrder
    have hnext : (10 : ℚ) ^ (x.decimalOrder + 1) ≤ (10 : ℚ) ^ k :=
      zpow_le_zpow_right₀ hten (by omega)
    refine ⟨10, hself.between h ?_ ?_⟩
    · push_cast
      linarith
    · push_cast
      linarith

theorem shortest_digits_ne_zero (hx : x.significand ≠ 0) : x.shortest.digits ≠ 0 := by
  obtain ⟨n, -, hshortest, -⟩ := shortest_spec hx
  obtain ⟨-, -, hdigits⟩ := onGrid?_eq_some hshortest
  have hfloor : 1 ≤ x.floorAt (x.decimalOrder - n) := by
    rw [le_floorAt_iff]
    have hpower : (10 : ℚ) ^ (x.decimalOrder - n) ≤ (10 : ℚ) ^ x.decimalOrder :=
      zpow_le_zpow_right₀ (by norm_num) (by omega)
    have horder := (decimalOrder_spec hx).1
    push_cast
    linarith
  omega

/-- A number that a digit alone rounds to is written with one digit. -/
theorem length_digits_shortest_le_one (hx : x.significand ≠ 0) {c : ℕ} {k : ℤ} (hc : 1 ≤ c)
    (hc' : c ≤ 9) (h : x.Covers (c * (10 : ℚ) ^ k)) :
    (Digits.ofScaled x.shortest).digits.length ≤ 1 := by
  obtain ⟨n, -, hshortest, hcoarser⟩ := shortest_spec hx
  obtain ⟨m, hm⟩ := exists_covers_at_order hx hc hc' h
  have hn : n = 0 := by
    rcases Nat.eq_zero_or_pos n with hzero | hpos
    · exact hzero
    · refine absurd ?_ (hcoarser 0 hpos m)
      simpa using hm
  subst hn
  obtain ⟨-, -, hdigits⟩ := onGrid?_eq_some hshortest
  have hne := shortest_digits_ne_zero hx
  -- The number is less than ten steps of its grid of one digit.
  have hfloor : x.floorAt (x.decimalOrder - (0 : ℕ)) < 10 := by
    rw [← Nat.not_le, le_floorAt_iff, not_le]
    have hpower : (10 : ℚ) ^ (x.decimalOrder + 1) = 10 ^ x.decimalOrder * 10 :=
      zpow_add_one₀ (by norm_num) x.decimalOrder
    have horder := (decimalOrder_spec hx).2
    push_cast
    rw [sub_zero]
    linarith
  show (Digits.trim (Nat.toDigits 10 x.shortest.digits)).length ≤ 1
  rw [Digits.length_trim_toDigits_le_one_iff hne]
  rcases Nat.lt_or_ge x.shortest.digits 10 with hlt | hge
  · exact ⟨x.shortest.digits, 0, by omega, by omega, by simp⟩
  · exact ⟨1, 1, le_rfl, by omega, by omega⟩

/-- Numbers that are a tenth apart and round to the same number are next to nothing. -/
theorem lt_of_covers_apart {r t : ℚ} (hr : x.Covers r) (ht : x.Covers t) (h : 10 * r ≤ 9 * t) :
    t < (10 : ℚ) ^ (-5 : ℤ) := by
  have hquarter := x.quarter_pos
  have hlow := hr.lower_le
  have hhigh := ht.le_upper
  have hbounds : (10 : ℚ) * x.lower ≤ 9 * x.upper := by
    by_contra hgt
    rw [not_le] at hgt
    have hscaled := mul_lt_mul_of_pos_right hgt hquarter
    linarith
  have hnat : 10 * x.lower ≤ 9 * x.upper := by exact_mod_cast hbounds
  have hsmall : x.significand ≤ 9 := by
    unfold lower upper at hnat
    split at hnat <;> omega
  -- So few places has only a number of the least exponent.
  have hexponent : x.exponent = -1074 := by
    rcases x.canonical.2.2.2 with hlarge | hleast
    · rw [Nat.pow_eq] at hlarge
      omega
    · exact hleast
  have hupper : (x.upper : ℚ) ≤ 38 := by
    have hnat : x.upper ≤ 38 := by
      unfold upper
      omega
    exact_mod_cast hnat
  have hplace : x.quarter ≤ (2 : ℚ) ^ (-30 : ℤ) := by
    unfold quarter
    rw [hexponent]
    exact zpow_le_zpow_right₀ (by norm_num) (by norm_num)
  calc t ≤ x.upper * x.quarter := hhigh
    _ ≤ 38 * (2 : ℚ) ^ (-30 : ℤ) := mul_le_mul hupper hplace hquarter.le (by norm_num)
    _ < (10 : ℚ) ^ (-5 : ℤ) := by norm_num

/-- Of two digits that round to a number, both powers of ten are in the range of the positional
texts or none is. -/
theorem mem_range_of_covers {c d : ℕ} {j k : ℤ} (hc : 1 ≤ c) (hc' : c ≤ 9) (hd : 1 ≤ d)
    (hd' : d ≤ 9) (hj : x.Covers (c * (10 : ℚ) ^ j)) (hk : x.Covers (d * (10 : ℚ) ^ k))
    (hleast : -5 ≤ j) (hgreatest : j ≤ 15) : -5 ≤ k ∧ k ≤ 15 := by
  obtain ⟨hlow, hhigh⟩ := digit_bounds hc hc' j
  obtain ⟨hlow', hhigh'⟩ := digit_bounds hd hd' k
  have hten : (1 : ℚ) ≤ 10 := by norm_num
  have hfrom := zpow_le_zpow_right₀ hten hleast
  have hto := zpow_le_zpow_right₀ hten hgreatest
  have hsix : (10 : ℚ) ^ (-6 : ℤ) * 10 = (10 : ℚ) ^ (-5 : ℤ) := by norm_num
  have hsixteen : (10 : ℚ) ^ (16 : ℤ) = (10 : ℚ) ^ (15 : ℤ) * 10 := by norm_num
  -- If `k` is not in the range, a tenth lies between the numbers.
  constructor
  · by_contra hbelow
    have hpower := zpow_le_zpow_right₀ hten (by omega : k ≤ -6)
    have hapart := lt_of_covers_apart hk hj (by linarith)
    linarith
  · by_contra habove
    have hpower := zpow_le_zpow_right₀ hten (by omega : 16 ≤ k)
    have hapart := lt_of_covers_apart hj hk (by linarith)
    have hrange : (10 : ℚ) ^ (-5 : ℤ) ≤ (10 : ℚ) ^ (16 : ℤ) :=
      zpow_le_zpow_right₀ hten (by norm_num)
    linarith

/-- The number is other than zero, and what a digit alone with a power of ten outside the range of
the positional texts rounds to. -/
def IsDigitAlone (x : Binary64) : Prop :=
  x.isZero = false ∧ ∃ (c : ℕ) (k : ℤ), 1 ≤ c ∧ c ≤ 9 ∧ (k < -5 ∨ 15 < k) ∧
    x.Covers (c * (10 : ℚ) ^ k)

/-- **Which reals are written without a point.**  Those that a digit alone rounds to, with a power
of ten that is written out. -/
theorem isDigitAlone_iff (x : Binary64) : x.IsDigitAlone ↔ ¬ x.TakesPoint := by
  unfold IsDigitAlone TakesPoint
  cases hzero : x.isZero with
  | true => simp
  | false =>
    have hx : x.significand ≠ 0 := by
      intro h
      rw [isZero, h] at hzero
      cases hzero
    have hdigits := shortest_digits_ne_zero hx
    obtain ⟨n, -, hshortest, -⟩ := shortest_spec hx
    obtain ⟨-, hcovers, -⟩ := onGrid?_eq_some hshortest
    simp only [Bool.false_eq_true, false_or, not_or, true_and, Digits.isPositional,
      Bool.and_eq_true, decide_eq_true_eq, Nat.not_le]
    constructor
    · rintro ⟨c, k, hc, hc', hk, hdigit⟩
      have hlength := length_digits_shortest_le_one hx hc hc' hdigit
      refine ⟨?_, Nat.lt_succ_iff.mpr hlength⟩
      rintro ⟨hleast, hgreatest⟩
      obtain ⟨c', hone, hnine, hvalue⟩ := Digits.exists_digit_of_length_le_one hdigits hlength
      rw [hvalue] at hcovers
      have hrange := mem_range_of_covers hone hnine hc hc' hcovers hdigit hleast hgreatest
      omega
    · rintro ⟨hrange, hlength⟩
      obtain ⟨c, hc, hc', hvalue⟩ :=
        Digits.exists_digit_of_length_le_one hdigits (Nat.lt_succ_iff.mp hlength)
      rw [hvalue] at hcovers
      exact ⟨c, _, hc, hc', by omega, hcovers⟩

/-- The test for a point inside fails for these, -/
theorem hasPointInside_text_eq_false_iff (x : Binary64) :
    Json.hasPointInside x.text = false ↔ x.IsDigitAlone := by
  rw [isDigitAlone_iff]
  constructor
  · intro habsent htakes
    rw [Json.hasPointInside_of_pointed (pointed_text htakes)] at habsent
    cases habsent
  · intro h
    exact Json.hasPointInside_of_no_point (no_point_text h)

/-- and all others have one. -/
theorem hasInnerPoint_text_iff (x : Binary64) : HasInnerPoint x.text ↔ ¬ x.IsDigitAlone := by
  rw [isDigitAlone_iff, not_not]
  constructor
  · rintro ⟨before, b, a, after, htext, -, -⟩
    by_contra h
    exact no_point_text h '.' (by simp [htext]) rfl
  · intro h
    obtain ⟨before, b, a, after, htext, -, hb, ha⟩ := pointed_text h
    exact ⟨before, b, a, after, htext, hb, ha⟩

end Binary64

end Decimal

end IdentitySchema
