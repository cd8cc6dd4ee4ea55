/-
  IdentitySchema/Proofs/Decimal/Shortest.lean
  ===========================================
  **What a real number is written with rounds to it.**  The writer works on
  natural numbers: it counts steps of a decimal grid in quarters of the last
  place of the number.  Here both sides are read as rational numbers.  A number
  `Covers` the rationals that round to it, those between the halfway points to
  its neighbours, and a point of a grid is held by the number exactly when it
  is covered (`holds_grid_iff`).

  If any point of a grid is covered, a neighbour of the number is, so a grid on
  which nothing is found has no covered point at all.  On the grid of seventeen
  digits something always is found, since its steps are less than the covered
  interval is wide.  So the search ends with a decimal that rounds to the
  number, on the coarsest grid that has one (`shortest_spec`).
-/
import IdentitySchema.Decimal.Shortest
import Mathlib.Algebra.Order.Field.Power
import Mathlib.Data.Rat.Cast.Order
import Mathlib.Tactic.FieldSimp
import Mathlib.Tactic.Linarith
import Mathlib.Tactic.NormNum
import Mathlib.Tactic.Positivity
import Mathlib.Tactic.Ring

namespace IdentitySchema.Decimal

/-! ### Numbers as rationals -/

/-- The decimal as a rational number. -/
def Scaled.value (d : Scaled) : ℚ := d.digits * (10 : ℚ) ^ d.scale

namespace Binary64

/-- A quarter of the last place. -/
def quarter (x : Binary64) : ℚ := (2 : ℚ) ^ (x.exponent - 2)

/-- The number without its sign. -/
def magnitude (x : Binary64) : ℚ := x.significand * (2 : ℚ) ^ x.exponent

/-- The rational number is between the halfway points to both neighbours of the number, or is one
of them if the significand is even: these are the numbers that round to it. -/
def Covers (x : Binary64) (r : ℚ) : Prop :=
  if x.significand % 2 = 0 then x.lower * x.quarter ≤ r ∧ r ≤ x.upper * x.quarter
  else x.lower * x.quarter < r ∧ r < x.upper * x.quarter

variable {x : Binary64}

theorem quarter_pos (x : Binary64) : 0 < x.quarter := by
  unfold quarter
  positivity

theorem magnitude_eq (x : Binary64) : x.magnitude = 4 * x.significand * x.quarter := by
  unfold magnitude quarter
  rw [zpow_sub₀ (by norm_num : (2 : ℚ) ≠ 0)]
  norm_num
  ring

/-- What lies between two covered numbers is covered. -/
theorem Covers.between {r s t : ℚ} (hr : x.Covers r) (ht : x.Covers t) (hrs : r ≤ s)
    (hst : s ≤ t) : x.Covers s := by
  unfold Covers at hr ht ⊢
  split_ifs at hr ht ⊢
  · exact ⟨hr.1.trans hrs, hst.trans ht.2⟩
  · exact ⟨hr.1.trans_le hrs, hst.trans_lt ht.2⟩

theorem Covers.lower_le {r : ℚ} (h : x.Covers r) : x.lower * x.quarter ≤ r := by
  unfold Covers at h
  split_ifs at h
  · exact h.1
  · exact h.1.le

theorem Covers.le_upper {r : ℚ} (h : x.Covers r) : r ≤ x.upper * x.quarter := by
  unfold Covers at h
  split_ifs at h
  · exact h.2
  · exact h.2.le

theorem lower_mul_lt_magnitude (hx : x.significand ≠ 0) : x.lower * x.quarter < x.magnitude := by
  rw [magnitude_eq]
  apply mul_lt_mul_of_pos_right _ x.quarter_pos
  have hnat : x.lower < 4 * x.significand := by
    unfold lower
    split <;> omega
  exact_mod_cast hnat

theorem magnitude_lt_upper_mul (x : Binary64) : x.magnitude < x.upper * x.quarter := by
  rw [magnitude_eq]
  apply mul_lt_mul_of_pos_right _ x.quarter_pos
  have hnat : 4 * x.significand < x.upper := by
    unfold upper
    omega
  exact_mod_cast hnat

/-- A number other than zero covers itself. -/
theorem covers_magnitude (hx : x.significand ≠ 0) : x.Covers x.magnitude := by
  have hlower := lower_mul_lt_magnitude hx
  have hupper := x.magnitude_lt_upper_mul
  unfold Covers
  split_ifs
  · exact ⟨hlower.le, hupper.le⟩
  · exact ⟨hlower, hupper⟩

/-! ### The decimal grids -/

theorem zpow_eq_div (b : ℚ) (k : ℤ) :
    b ^ k = b ^ k.toNat / b ^ (-k).toNat := by
  rcases Int.le_total 0 k with hk | hk
  · obtain ⟨n, rfl⟩ := Int.eq_ofNat_of_zero_le hk
    simp
  · obtain ⟨n, hn⟩ := Int.eq_ofNat_of_zero_le (by omega : 0 ≤ -k)
    have hk : k = -(n : ℤ) := by omega
    subst hk
    simp

theorem step_pos (x : Binary64) (k : ℤ) : 0 < (x.gridStep k).1 := by
  unfold gridStep
  exact Nat.mul_pos (Nat.pow_pos (by decide)) (Nat.pow_pos (by decide))

theorem unit_pos (x : Binary64) (k : ℤ) : 0 < (x.gridStep k).2 := by
  unfold gridStep
  exact Nat.mul_pos (Nat.pow_pos (by decide)) (Nat.pow_pos (by decide))

/-- A step of the grid, counted in quarters of the last place. -/
theorem step_mul_quarter (x : Binary64) (k : ℤ) :
    ((x.gridStep k).1 : ℚ) * x.quarter = (10 : ℚ) ^ k * (x.gridStep k).2 := by
  unfold gridStep quarter
  rw [zpow_eq_div 2, zpow_eq_div 10]
  simp only [Nat.pow_eq]
  push_cast
  field_simp

theorem steps_mul_quarter (x : Binary64) (m : ℕ) (k : ℤ) :
    ((m * (x.gridStep k).1 : ℕ) : ℚ) * x.quarter = m * (10 : ℚ) ^ k * (x.gridStep k).2 := by
  push_cast
  rw [mul_assoc, step_mul_quarter, mul_assoc]

theorem units_mul_quarter (x : Binary64) (bound : ℕ) (k : ℤ) :
    ((bound * (x.gridStep k).2 : ℕ) : ℚ) * x.quarter = bound * x.quarter * (x.gridStep k).2 := by
  push_cast
  ring

/-- Steps of a grid compare with quarters as what they amount to does. -/
theorem steps_le_iff (x : Binary64) (m bound : ℕ) (k : ℤ) :
    m * (x.gridStep k).1 ≤ bound * (x.gridStep k).2 ↔
      m * (10 : ℚ) ^ k ≤ bound * x.quarter := by
  have hunit : (0 : ℚ) < (x.gridStep k).2 := by exact_mod_cast x.unit_pos k
  rw [← Nat.cast_le (α := ℚ), ← mul_le_mul_iff_left₀ x.quarter_pos, steps_mul_quarter,
    units_mul_quarter, mul_le_mul_iff_left₀ hunit]

theorem le_steps_iff (x : Binary64) (m bound : ℕ) (k : ℤ) :
    bound * (x.gridStep k).2 ≤ m * (x.gridStep k).1 ↔
      bound * x.quarter ≤ m * (10 : ℚ) ^ k := by
  have hunit : (0 : ℚ) < (x.gridStep k).2 := by exact_mod_cast x.unit_pos k
  rw [← Nat.cast_le (α := ℚ), ← mul_le_mul_iff_left₀ x.quarter_pos, steps_mul_quarter,
    units_mul_quarter, mul_le_mul_iff_left₀ hunit]

/-- A point of the grid lies in the interval that rounds to a number exactly when the number covers
it. -/
theorem holds_grid_iff (x : Binary64) (m : ℕ) (k : ℤ) :
    x.holds (m * (x.gridStep k).1) (x.gridStep k).2 = true ↔ x.Covers (m * (10 : ℚ) ^ k) := by
  unfold holds Covers
  split
  · rw [Bool.and_eq_true, decide_eq_true_eq, decide_eq_true_eq, steps_le_iff, le_steps_iff]
  · rw [Bool.and_eq_true, decide_eq_true_eq, decide_eq_true_eq, ← Nat.not_le, ← Nat.not_le,
      steps_le_iff, le_steps_iff, not_le, not_le]

theorem le_floorAt_iff (x : Binary64) (m : ℕ) (k : ℤ) :
    m ≤ x.floorAt k ↔ m * (10 : ℚ) ^ k ≤ x.magnitude := by
  have hquotient : x.floorAt k = 4 * x.significand * (x.gridStep k).2 / (x.gridStep k).1 := rfl
  rw [hquotient, Nat.le_div_iff_mul_le (x.step_pos k), steps_le_iff, magnitude_eq]
  push_cast
  rfl

theorem floorAt_mul_le (x : Binary64) (k : ℤ) :
    x.floorAt k * (10 : ℚ) ^ k ≤ x.magnitude :=
  (x.le_floorAt_iff _ k).mp le_rfl

theorem lt_floorAt_succ_mul (x : Binary64) (k : ℤ) :
    x.magnitude < (x.floorAt k + 1 : ℕ) * (10 : ℚ) ^ k := by
  rw [← not_le, ← le_floorAt_iff]
  omega

/-! ### The points of a grid that round to a number -/

/-- What is found on a grid is one of the two neighbours, and rounds to the number. -/
theorem onGrid?_eq_some {k : ℤ} {d : Scaled} (h : x.onGrid? k = some d) :
    d.scale = k ∧ x.Covers d.value ∧
      (d.digits = x.floorAt k ∨ d.digits = x.floorAt k + 1) := by
  unfold onGrid? at h
  simp only at h
  split at h
  · rename_i hbelow habove
    split_ifs at h
    · cases h
      exact ⟨rfl, (x.holds_grid_iff _ k).mp hbelow, Or.inl rfl⟩
    · cases h
      exact ⟨rfl, (x.holds_grid_iff _ k).mp habove, Or.inr rfl⟩
  · rename_i hbelow habove
    cases h
    exact ⟨rfl, (x.holds_grid_iff _ k).mp hbelow, Or.inl rfl⟩
  · rename_i hbelow habove
    cases h
    exact ⟨rfl, (x.holds_grid_iff _ k).mp habove, Or.inr rfl⟩
  · cases h

/-- Nothing is found only where no point of the grid rounds to the number: if one does, so does a
neighbour, which is not further away. -/
theorem not_covers_of_onGrid?_eq_none (hx : x.significand ≠ 0) {k : ℤ}
    (h : x.onGrid? k = none) (m : ℕ) : ¬ x.Covers (m * (10 : ℚ) ^ k) := by
  have hneighbours : x.holds (x.floorAt k * (x.gridStep k).1) (x.gridStep k).2 = false ∧
      x.holds ((x.floorAt k + 1) * (x.gridStep k).1) (x.gridStep k).2 = false := by
    unfold onGrid? at h
    simp only at h
    split at h
    · split_ifs at h
    · cases h
    · cases h
    · rename_i hbelow habove
      exact ⟨hbelow, habove⟩
  obtain ⟨hbelow, habove⟩ := hneighbours
  rw [← Bool.not_eq_true, holds_grid_iff] at hbelow habove
  have hstep : (0 : ℚ) < (10 : ℚ) ^ k := by positivity
  intro hcovers
  rcases Nat.lt_or_ge (x.floorAt k) m with hlt | hle
  · apply habove
    apply (covers_magnitude hx).between hcovers (x.lt_floorAt_succ_mul k).le
    apply mul_le_mul_of_nonneg_right _ hstep.le
    exact_mod_cast hlt
  · apply hbelow
    apply hcovers.between (covers_magnitude hx) _ (x.floorAt_mul_le k)
    apply mul_le_mul_of_nonneg_right _ hstep.le
    exact_mod_cast hle

/-! ### The order of a number -/

theorem magnitude_ge (hx : x.significand ≠ 0) : (2 : ℚ) ^ (-1074 : ℤ) ≤ x.magnitude := by
  have hone : (1 : ℚ) ≤ x.significand := by exact_mod_cast Nat.one_le_iff_ne_zero.mpr hx
  have hexponent : (2 : ℚ) ^ (-1074 : ℤ) ≤ (2 : ℚ) ^ x.exponent :=
    zpow_le_zpow_right₀ (by norm_num) x.canonical.2.1
  calc (2 : ℚ) ^ (-1074 : ℤ) ≤ (2 : ℚ) ^ x.exponent := hexponent
    _ = 1 * (2 : ℚ) ^ x.exponent := (one_mul _).symm
    _ ≤ x.significand * (2 : ℚ) ^ x.exponent := by
      apply mul_le_mul_of_nonneg_right hone
      positivity

theorem floorAt_finest_pos (hx : x.significand ≠ 0) : 1 ≤ x.floorAt (-330) := by
  rw [le_floorAt_iff]
  refine le_trans ?_ (magnitude_ge hx)
  -- `2 ^ 36 ≤ 10 ^ 11`, thirty times over.
  have hpowers : (2 : ℚ) ^ 1074 ≤ (10 : ℚ) ^ 330 :=
    calc (2 : ℚ) ^ 1074 ≤ (2 : ℚ) ^ (36 * 30) := pow_le_pow_right₀ (by norm_num) (by norm_num)
      _ = ((2 : ℚ) ^ 36) ^ 30 := pow_mul _ _ _
      _ ≤ ((10 : ℚ) ^ 11) ^ 30 := pow_le_pow_left₀ (by norm_num) (by norm_num) _
      _ = (10 : ℚ) ^ 330 := (pow_mul _ _ _).symm
  have hinverse := inv_anti₀ (by positivity) hpowers
  rw [Nat.cast_one, one_mul, zpow_neg, zpow_neg]
  exact_mod_cast hinverse

theorem digitCount_le_iff {n k : ℕ} (hk : 0 < k) : digitCount n ≤ k ↔ n < 10 ^ k :=
  Nat.length_toDigits_le_iff (by decide) hk

theorem digitCount_pos (n : ℕ) : 0 < digitCount n := Nat.length_toDigits_pos

theorem pow_digitCount_le {n : ℕ} (hn : n ≠ 0) : 10 ^ (digitCount n - 1) ≤ n := by
  rcases Nat.eq_zero_or_pos (digitCount n - 1) with hzero | hpos
  · rw [hzero]
    omega
  · rw [← Nat.not_lt, ← digitCount_le_iff hpos]
    omega

theorem lt_pow_digitCount (n : ℕ) : n < 10 ^ digitCount n :=
  (digitCount_le_iff (digitCount_pos n)).mp le_rfl

/-- The order of a number is the power of ten of its leading digit. -/
theorem decimalOrder_spec (hx : x.significand ≠ 0) :
    (10 : ℚ) ^ x.decimalOrder ≤ x.magnitude ∧ x.magnitude < (10 : ℚ) ^ (x.decimalOrder + 1) := by
  have hten : (10 : ℚ) ≠ 0 := by norm_num
  have hpos := digitCount_pos (x.floorAt (-330))
  have hfloor : x.floorAt (-330) ≠ 0 := Nat.one_le_iff_ne_zero.mp (floorAt_finest_pos hx)
  have hlow := (x.le_floorAt_iff _ _).mp (pow_digitCount_le hfloor)
  have hhigh := mt (x.le_floorAt_iff (10 ^ digitCount (x.floorAt (-330))) _).mpr
    (Nat.not_le.mpr (lt_pow_digitCount _))
  have hlower : x.decimalOrder = ((digitCount (x.floorAt (-330)) - 1 : ℕ) : ℤ) + -330 := by
    unfold decimalOrder
    omega
  have hupper : x.decimalOrder + 1 = (digitCount (x.floorAt (-330)) : ℤ) + -330 := by
    unfold decimalOrder
    omega
  constructor
  · rw [hlower, zpow_add₀ hten, zpow_natCast]
    exact_mod_cast hlow
  · rw [hupper, zpow_add₀ hten, zpow_natCast, ← not_le]
    exact_mod_cast hhigh

/-! ### The shortest decimal -/

/-- The interval that rounds to a number reaches over three quarters of the last place at least,
and over four unless its lower half is cut short by a change of the exponent. -/
theorem upper_sub_lower (hx : x.significand ≠ 0) :
    (x.upper : ℚ) = x.lower + 4 ∨
      ((x.upper : ℚ) = x.lower + 3 ∧ x.significand = 2 ^ 52) := by
  unfold upper lower
  split_ifs with hshort
  · right
    obtain ⟨hsignificand, -⟩ := hshort
    rw [Nat.pow_eq] at hsignificand
    refine ⟨?_, hsignificand⟩
    rw [hsignificand]
    norm_num
  · left
    have hnat : 4 * x.significand + 2 = (4 * x.significand - 2) + 4 := by omega
    exact_mod_cast hnat

/-- What a number does not cover lies beyond a halfway point. -/
theorem lower_or_upper_of_not_covers {r : ℚ} (h : ¬ x.Covers r) :
    r ≤ x.lower * x.quarter ∨ x.upper * x.quarter ≤ r := by
  unfold Covers at h
  split_ifs at h
  · rcases lt_or_ge r (x.lower * x.quarter) with hr | hr
    · exact Or.inl hr.le
    · exact Or.inr (not_le.mp fun hle => h ⟨hr, hle⟩).le
  · rcases le_or_gt r (x.lower * x.quarter) with hr | hr
    · exact Or.inl hr
    · exact Or.inr (not_lt.mp fun hlt => h ⟨hr, hlt⟩)

/-- If no neighbour on a grid rounds to the number, the interval lies between two points of it. -/
theorem width_le_of_onGrid?_eq_none (hx : x.significand ≠ 0) {k : ℤ} (h : x.onGrid? k = none) :
    x.upper * x.quarter - x.lower * x.quarter ≤ (10 : ℚ) ^ k := by
  have hfloor := x.floorAt_mul_le k
  have hnext := x.lt_floorAt_succ_mul k
  have hlower := lower_mul_lt_magnitude hx
  have hupper := x.magnitude_lt_upper_mul
  have hbelow : x.floorAt k * (10 : ℚ) ^ k ≤ x.lower * x.quarter := by
    rcases lower_or_upper_of_not_covers (not_covers_of_onGrid?_eq_none hx h (x.floorAt k))
      with hle | hge
    · exact hle
    · linarith
  have habove : x.upper * x.quarter ≤ (x.floorAt k + 1 : ℕ) * (10 : ℚ) ^ k := by
    rcases lower_or_upper_of_not_covers (not_covers_of_onGrid?_eq_none hx h (x.floorAt k + 1))
      with hle | hge
    · linarith
    · exact hge
  push_cast at habove
  linarith

/-- On the grid of seventeen digits a neighbour rounds to the number: a step of that grid is less
than the interval is wide. -/
theorem onGrid?_seventeen (hx : x.significand ≠ 0) :
    x.onGrid? (x.decimalOrder - 16) ≠ none := by
  intro hnone
  have hwidth := width_le_of_onGrid?_eq_none hx hnone
  have hstep : (10 : ℚ) ^ (x.decimalOrder - 16) * 10 ^ 16 ≤ x.magnitude := by
    have hscaled : (10 : ℚ) ^ (x.decimalOrder - 16) * 10 ^ 16 = (10 : ℚ) ^ x.decimalOrder := by
      rw [zpow_sub₀ (by norm_num)]
      norm_num
    rw [hscaled]
    exact (decimalOrder_spec hx).1
  have hquarter := x.quarter_pos
  have hsignificand : (x.significand : ℚ) < 2 ^ 53 := by
    have hnat : x.significand < Nat.pow 2 53 := x.canonical.1
    rw [Nat.pow_eq] at hnat
    exact_mod_cast hnat
  rw [magnitude_eq] at hstep
  rcases upper_sub_lower hx with hwide | ⟨hwide, hpower⟩
  · rw [hwide] at hwidth
    nlinarith
  · rw [hwide] at hwidth
    rw [hpower] at hstep
    push_cast at hstep
    nlinarith

/-- What a search through the first numbers finds is found at the first of them that has it. -/
theorem exists_first_of_findSome?_range {α : Type} {f : ℕ → Option α} {count : ℕ} {found : α}
    (h : (List.range count).findSome? f = some found) :
    ∃ n < count, f n = some found ∧ ∀ k < n, f k = none := by
  obtain ⟨before, n, after, hsplit, hn, hbefore⟩ := List.findSome?_eq_some_iff.mp h
  rw [List.range_eq_range'] at hsplit
  obtain ⟨k, -, rfl, hrest⟩ := List.range'_eq_append_iff.mp hsplit
  have hhead : n = k ∧ k < count := by
    cases hcount : count - k with
    | zero =>
      rw [hcount] at hrest
      cases hrest
    | succ left =>
      rw [hcount, List.range'_succ] at hrest
      have hnk : n = 0 + k * 1 := (List.cons.inj hrest).1
      omega
  obtain ⟨rfl, hlt⟩ := hhead
  refine ⟨n, hlt, hn, ?_⟩
  intro k hk
  apply hbefore k
  rw [← List.range_eq_range']
  exact List.mem_range.mpr hk

/-- **The shortest decimal.**  What a number is written with rounds to it, has at most seventeen
digits, and no point of a coarser grid rounds to the number. -/
theorem shortest_spec (hx : x.significand ≠ 0) :
    ∃ n : ℕ, n ≤ 16 ∧ x.onGrid? (x.decimalOrder - n) = some x.shortest ∧
      ∀ coarser : ℕ, coarser < n → ∀ m : ℕ, ¬ x.Covers (m * (10 : ℚ) ^ (x.decimalOrder - coarser)) := by
  have hfound : ((List.range 17).findSome? fun (n : Nat) =>
      x.onGrid? (x.decimalOrder - n)).isSome = true := by
    rw [List.findSome?_isSome_iff]
    refine ⟨16, by simp, ?_⟩
    rw [Option.isSome_iff_ne_none]
    exact onGrid?_seventeen hx
  obtain ⟨d, hd⟩ := Option.isSome_iff_exists.mp hfound
  have hshortest : x.shortest = d := by
    unfold shortest
    simp only [hd, Option.getD_some]
  obtain ⟨n, hn, hgrid, hbefore⟩ := exists_first_of_findSome?_range hd
  refine ⟨n, Nat.lt_succ_iff.mp hn, ?_, ?_⟩
  · rw [hshortest]
    exact hgrid
  · intro coarser hcoarser
    exact not_covers_of_onGrid?_eq_none hx (hbefore coarser hcoarser)

end Binary64

end IdentitySchema.Decimal
