/-
  IdentitySchema/Proofs/Timestamp.lean
  ====================================
  **Which texts are points in time.**  A point in time that occurs in the
  calendar has one written form, its numbers in decimal with zeros in front
  (`Timestamp.text`).  Reading accepts these texts and no others: digits read
  as a number are that number padded to their count (`number?_eq_some_iff`),
  so what is read from a text is written as that text again
  (`ofText?_eq_some_iff`).

  The calendar is stated by a list of the lengths of the months, apart from
  the test that the reader makes (`occurs_iff`).
-/
import IdentitySchema.Proofs.Payload.Violations
import Mathlib.Data.List.Induction
import Mathlib.Tactic.IntervalCases

namespace IdentitySchema

namespace Timestamp

/-! ### The calendar -/

/-- Every fourth year is a leap year, but a full century only if it is a fourth one. -/
def IsLeap (year : Nat) : Prop := 4 ∣ year ∧ (100 ∣ year → 400 ∣ year)

instance (year : Nat) : Decidable (IsLeap year) := by
  unfold IsLeap; infer_instance

/-- The lengths of the months of a year, January first. -/
def monthLengths (year : Nat) : List Nat :=
  [31, if IsLeap year then 29 else 28, 31, 30, 31, 30, 31, 31, 30, 31, 30, 31]

/-- There is such a day in the years 0 to 9999, and such a time of day, leap seconds included. -/
structure Occurs (t : Timestamp) : Prop where
  year : t.year ≤ 9999
  month : 1 ≤ t.month ∧ t.month ≤ 12
  day : ∃ length, (monthLengths t.year)[t.month - 1]? = some length ∧ 1 ≤ t.day ∧ t.day ≤ length
  hour : t.hour ≤ 23
  minute : t.minute ≤ 59
  second : t.second ≤ 60

theorem isLeapYear_iff {year : Nat} : isLeapYear year = true ↔ IsLeap year := by
  simp only [isLeapYear, IsLeap, Bool.and_eq_true, Bool.or_eq_true, bne_iff_ne, beq_iff_eq,
    Nat.dvd_iff_mod_eq_zero]
  tauto

theorem getElem?_monthLengths {year month : Nat} (hmonth : 1 ≤ month ∧ month ≤ 12) :
    (monthLengths year)[month - 1]? = some (daysInMonth year month) := by
  obtain ⟨hlower, hupper⟩ := hmonth
  interval_cases month <;> simp [monthLengths, daysInMonth, isLeapYear_iff]

theorem daysInMonth_le (year month : Nat) : daysInMonth year month ≤ 31 := by
  unfold daysInMonth
  split
  · split <;> omega
  all_goals omega

/-- The test of the reader on numbers of up to four digits is the calendar. -/
theorem occurs_iff {t : Timestamp} : t.Occurs ↔ t.year ≤ 9999 ∧ t.isReal = true := by
  have hreal : t.isReal = true ↔
      ((((1 ≤ t.month ∧ t.month ≤ 12) ∧ (1 ≤ t.day ∧ t.day ≤ daysInMonth t.year t.month)) ∧
        t.hour ≤ 23) ∧ t.minute ≤ 59) ∧ t.second ≤ 60 := by
    simp only [isReal, Bool.and_eq_true, decide_eq_true_eq]
  rw [hreal]
  constructor
  · rintro ⟨hyear, hmonth, ⟨length, hlength, hday⟩, hhour, hminute, hsecond⟩
    rw [getElem?_monthLengths hmonth] at hlength
    cases hlength
    exact ⟨hyear, ⟨⟨⟨hmonth, hday⟩, hhour⟩, hminute⟩, hsecond⟩
  · rintro ⟨hyear, ⟨⟨⟨hmonth, hday⟩, hhour⟩, hminute⟩, hsecond⟩
    exact ⟨hyear, hmonth, ⟨_, getElem?_monthLengths hmonth, hday⟩, hhour, hminute, hsecond⟩

/-! ### Digits -/

/-- The last decimal digits of a number, `width` of them, zeros in front included. -/
def padded : (width number : Nat) → List Char
  | 0, _ => []
  | width + 1, number => padded width (number / 10) ++ [(number % 10).digitChar]

theorem length_padded (width number : Nat) : (padded width number).length = width := by
  induction width generalizing number with
  | zero => rfl
  | succ width ih => rw [padded, List.length_append, ih, List.length_singleton]

theorem isDigit_of_mem_padded {width number : Nat} {c : Char} (h : c ∈ padded width number) :
    c.isDigit = true := by
  induction width generalizing number with
  | zero => cases h
  | succ width ih =>
    rw [padded, List.mem_append, List.mem_singleton] at h
    rcases h with h | rfl
    · exact ih h
    · rw [Nat.isDigit_digitChar]
      exact decide_eq_true (Nat.mod_lt _ (by decide))

theorem number?_append (digits : List Char) (c : Char) :
    number? (digits ++ [c]) = (number? digits).bind fun value =>
      if c.isDigit then some (value * 10 + (c.toNat - 48)) else none := by
  unfold number?
  rw [List.foldlM_append]
  simp

theorem digitChar_of_isDigit {c : Char} (h : c.isDigit = true) :
    c.toNat - 48 < 10 ∧ (c.toNat - 48).digitChar = c := by
  have hbounds : 48 ≤ c.toNat ∧ c.toNat ≤ 57 := Char.isDigit_iff_toNat.mp h
  have hlt : c.toNat - 48 < 10 := by omega
  refine ⟨hlt, Char.toNat_inj.mp ?_⟩
  rw [Nat.toNat_digitChar_of_lt_ten hlt]
  omega

/-- What digits are read as is the number of which they are the padded form. -/
theorem number?_eq_some_iff {digits : List Char} {value : Nat} :
    number? digits = some value ↔
      digits = padded digits.length value ∧ value < 10 ^ digits.length := by
  induction digits using List.reverseRecOn generalizing value with
  | nil =>
    have hnil : number? [] = some 0 := rfl
    rw [hnil, Option.some.injEq]
    constructor
    · rintro rfl
      exact ⟨rfl, by simp⟩
    · rintro ⟨-, hlt⟩
      rw [List.length_nil] at hlt
      omega
  | append_singleton digits c ih =>
    rw [number?_append, List.length_append, List.length_singleton, padded, Nat.pow_succ]
    constructor
    · intro h
      obtain ⟨whole, hwhole, h⟩ := Option.bind_eq_some_iff.mp h
      split at h
      · rename_i hdigit
        cases h
        obtain ⟨hlt, hchar⟩ := digitChar_of_isDigit hdigit
        obtain ⟨hdigits, hbound⟩ := ih.mp hwhole
        have hdiv : (whole * 10 + (c.toNat - 48)) / 10 = whole := by omega
        have hmod : (whole * 10 + (c.toNat - 48)) % 10 = c.toNat - 48 := by omega
        rw [hdiv, hmod, hchar, ← hdigits]
        exact ⟨rfl, by omega⟩
      · cases h
    · rintro ⟨heq, hlt⟩
      obtain ⟨hdigits, hlast⟩ := List.append_inj' heq rfl
      have hwhole : number? digits = some (value / 10) := ih.mpr ⟨hdigits, by omega⟩
      have hmod : value % 10 < 10 := Nat.mod_lt _ (by decide)
      rw [List.singleton_inj.mp hlast, hwhole, Option.bind_some, Nat.isDigit_digitChar,
        Nat.toNat_digitChar_of_lt_ten hmod]
      simp only [hmod, decide_true, if_true, Option.some.injEq]
      omega

theorem number?_padded {width value : Nat} (h : value < 10 ^ width) :
    number? (padded width value) = some value := by
  rw [number?_eq_some_iff, length_padded]
  exact ⟨rfl, h⟩

theorem padded_of_number? {digits : List Char} (width : Nat) {value : Nat}
    (h : number? digits = some value) (hwidth : digits.length = width) :
    padded width value = digits ∧ value < 10 ^ width := by
  obtain ⟨hdigits, hlt⟩ := number?_eq_some_iff.mp h
  rw [hwidth] at hdigits hlt
  exact ⟨hdigits.symm, hlt⟩

/-! ### The written form -/

/-- `YYYY-MM-DDThh:mm:ssZ` -/
def text (t : Timestamp) : String :=
  String.ofList (padded 4 t.year ++ '-' :: padded 2 t.month ++ '-' :: padded 2 t.day
    ++ 'T' :: padded 2 t.hour ++ ':' :: padded 2 t.minute ++ ':' :: padded 2 t.second ++ ['Z'])

/-- The numbers have no more digits than the written form has places. -/
structure Fits (t : Timestamp) : Prop where
  year : t.year < 10000
  month : t.month < 100
  day : t.day < 100
  hour : t.hour < 100
  minute : t.minute < 100
  second : t.second < 100


theorem ofText?_text {t : Timestamp} (h : t.Fits) : ofText? t.text = some t := by
  have hyear : number? (padded 4 t.year) = some t.year := number?_padded h.year
  have hmonth : number? (padded 2 t.month) = some t.month := number?_padded h.month
  have hday : number? (padded 2 t.day) = some t.day := number?_padded h.day
  have hhour : number? (padded 2 t.hour) = some t.hour := number?_padded h.hour
  have hminute : number? (padded 2 t.minute) = some t.minute := number?_padded h.minute
  have hsecond : number? (padded 2 t.second) = some t.second := number?_padded h.second
  -- The pattern of the reader is one of single characters, so the fields are spelt out.
  simp only [padded, List.nil_append, List.cons_append] at hyear hmonth hday hhour hminute hsecond
  simp only [ofText?, text, String.toList_ofList, padded, List.nil_append, List.cons_append,
    hyear, hmonth, hday, hhour, hminute, hsecond]
  rfl

/-- Reading undoes writing, and there is nothing else to read. -/
theorem ofText?_eq_some_iff {text : String} {t : Timestamp} :
    ofText? text = some t ↔ text = t.text ∧ t.Fits := by
  constructor
  · intro h
    unfold ofText? at h
    split at h
    · rename_i htext
      simp only [Option.bind_eq_bind, Option.bind_eq_some_iff] at h
      obtain ⟨year, hyear, month, hmonth, day, hday, hour, hhour, minute, hminute, second, hsecond,
        heq⟩ := h
      obtain ⟨hyear, hyearFits⟩ := padded_of_number? 4 hyear rfl
      obtain ⟨hmonth, hmonthFits⟩ := padded_of_number? 2 hmonth rfl
      obtain ⟨hday, hdayFits⟩ := padded_of_number? 2 hday rfl
      obtain ⟨hhour, hhourFits⟩ := padded_of_number? 2 hhour rfl
      obtain ⟨hminute, hminuteFits⟩ := padded_of_number? 2 hminute rfl
      obtain ⟨hsecond, hsecondFits⟩ := padded_of_number? 2 hsecond rfl
      cases heq
      refine ⟨?_, hyearFits, hmonthFits, hdayFits, hhourFits, hminuteFits, hsecondFits⟩
      rw [← String.ofList_toList (s := text), htext, Timestamp.text, hyear, hmonth, hday, hhour,
        hminute, hsecond]
      rfl
    · cases h
  · rintro ⟨rfl, hfits⟩
    exact ofText?_text hfits

theorem Occurs.fits {t : Timestamp} (h : t.Occurs) : t.Fits := by
  obtain ⟨length, hlength, -, hday⟩ := h.day
  rw [getElem?_monthLengths h.month, Option.some.injEq] at hlength
  have hmonths := daysInMonth_le t.year t.month
  have hyear := h.year
  have hmonth := h.month.2
  have hhour := h.hour
  have hminute := h.minute
  have hsecond := h.second
  exact ⟨by omega, by omega, by omega, by omega, by omega, by omega⟩

/-- A text is read as a point in time exactly when it is the written form of one that occurs. -/
theorem isWritten_iff {text : String} :
    isWritten text = true ↔ ∃ t : Timestamp, t.Occurs ∧ text = t.text := by
  rw [isWritten, Option.any_eq_true]
  constructor
  · rintro ⟨t, hread, hreal⟩
    obtain ⟨htext, hfits⟩ := ofText?_eq_some_iff.mp hread
    exact ⟨t, occurs_iff.mpr ⟨Nat.le_of_lt_succ hfits.year, hreal⟩, htext⟩
  · rintro ⟨t, hoccurs, rfl⟩
    exact ⟨t, ofText?_text hoccurs.fits, (occurs_iff.mp hoccurs).2⟩

/-- No two points in time are written alike. -/
theorem eq_of_text_eq {t u : Timestamp} (ht : t.Occurs) (hu : u.Occurs) (h : t.text = u.text) :
    t = u := by
  have hread := ofText?_text ht.fits
  rw [h, ofText?_text hu.fits] at hread
  exact (Option.some.inj hread).symm

theorem length_text (t : Timestamp) : t.text.length = 20 := by
  rw [text, String.length_ofList]
  simp only [List.length_append, List.length_cons, List.length_nil, length_padded]

theorem isDigit_or_mem_of_mem_text {t : Timestamp} {c : Char} (h : c ∈ t.text.toList) :
    c.isDigit = true ∨ c ∈ ['-', 'T', ':', 'Z'] := by
  simp only [text, String.toList_ofList, List.mem_append, List.mem_cons, List.not_mem_nil,
    or_false] at h ⊢
  have hdigits : ∀ {width number : Nat}, c ∈ padded width number → c.isDigit = true :=
    isDigit_of_mem_padded
  grind

end Timestamp

/-! ### Attributes of points in time -/

/-- **Attributes of points in time take their written forms and no other texts.**  A text is taken
exactly when there is a date of the Gregorian calendar in the years 0 to 9999 and a time of day,
leap seconds included, of which it is the form `YYYY-MM-DDThh:mm:ssZ`. There is only one such point
in time, and the text has twenty characters, none of them anything but a digit of ASCII or one of
the four letters and signs of the form. -/
theorem Attribute.takes_written_timestamps (traits : Characteristics) (text : String) :
    ((Attribute.simple traits .one .datetime).checkValue (.string text) = .ok () ↔
      ∃ t : Timestamp, t.Occurs ∧ text = t.text) ∧
    (∀ t u : Timestamp, t.Occurs → u.Occurs → text = t.text → text = u.text → t = u) ∧
    ((Attribute.simple traits .one .datetime).checkValue (.string text) = .ok () →
      text.length = 20 ∧ ∀ c ∈ text.toList, c.isDigit = true ∨ c ∈ ['-', 'T', ':', 'Z']) := by
  have htakes : (Attribute.simple traits .one .datetime).checkValue (.string text) = .ok () ↔
      ∃ t : Timestamp, t.Occurs ∧ text = t.text := by
    rw [← Timestamp.isWritten_iff]
    exact Characteristics.expect_eq_ok_iff
  refine ⟨htakes, ?_, ?_⟩
  · intro t u ht hu htext hother
    exact Timestamp.eq_of_text_eq ht hu (htext.symm.trans hother)
  · intro h
    obtain ⟨t, -, rfl⟩ := htakes.mp h
    exact ⟨t.length_text, fun c hc => Timestamp.isDigit_or_mem_of_mem_text hc⟩

/-- The leap day of a fourth century is written and read, that of another century is not. -/
example : Timestamp.isWritten "2000-02-29T23:59:60Z" = true ∧
    Timestamp.isWritten "1900-02-29T23:59:60Z" = false := by decide

end IdentitySchema
