/-
  IdentitySchema/Proofs/Text/LowerCase.lean
  =========================================
  **Lower-casing a text a second time changes nothing.**  A character is
  settled (`IsSettled`) if no run of the table covers it and it is not the
  capital I with a dot above.  A settled character is its own lower-case form,
  and every character of a lower-case form is settled: for the runs that is a
  property of the table, which is checked run against run (`caseRuns_passBy`).

  The two exceptions do no harm.  Both characters that the dotted capital I
  becomes are settled, and so are both forms of the small sigma.  The capital
  sigma itself is covered by a run, so a lower-case form has none left whose
  context would have to be looked at.
-/
import IdentitySchema.Text.LowerCase
import Mathlib.Data.Nat.ModEq

namespace IdentitySchema.Text

/-! ### Runs of the table -/

namespace CaseRun

variable {run other : CaseRun} {code : Nat}

theorem covers_iff :
    run.covers code = true ↔
      run.first ≤ code ∧ code ≤ run.last ∧ run.step ∣ code - run.first := by
  simp [covers, and_assoc, Nat.dvd_iff_mod_eq_zero]

/-- No lower-case form of the run is covered by the other one: the forms end before it, or begin
after it, or its steps go past them. -/
def passesBy (run other : CaseRun) : Bool :=
  -- on plain comparisons of numbers the kernel is fast enough for all pairs of runs
  Nat.blt (run.image + (run.last - run.first)) other.first || Nat.blt other.last run.image ||
    ((Nat.beq (run.step % other.step) 0 || Nat.beq run.first run.last) &&
      !Nat.beq (run.image % other.step) (other.first % other.step))

theorem passesBy_iff :
    run.passesBy other = true ↔
      run.image + (run.last - run.first) < other.first ∨ other.last < run.image ∨
        (other.step ∣ run.step ∨ run.first = run.last) ∧
          run.image % other.step ≠ other.first % other.step := by
  simp [passesBy, or_assoc, Nat.dvd_iff_mod_eq_zero, ← Bool.not_eq_true]

theorem covers_lower_of_passesBy (h : run.passesBy other = true) (hcode : run.covers code = true) :
    other.covers (run.lower code) = false := by
  obtain ⟨hfirst, hlast, hstep⟩ := covers_iff.mp hcode
  rw [Bool.eq_false_iff]
  intro hother
  obtain ⟨habove, hbelow, hmeets⟩ := covers_iff.mp hother
  unfold lower at habove hbelow hmeets
  rcases passesBy_iff.mp h with hbefore | hafter | ⟨hsteps, hapart⟩
  · omega
  · omega
  · -- the forms keep their distance from the other run modulo its step
    have hdistance : other.step ∣ code - run.first := by
      rcases hsteps with hsteps | hsingle
      · exact hsteps.trans hstep
      · have hzero : code - run.first = 0 := by omega
        simp [hzero]
    have hmeeting : other.first ≡ run.image + (code - run.first) [MOD other.step] :=
      (Nat.modEq_iff_dvd' habove).mpr hmeets
    have hshift : run.image + (code - run.first) ≡ run.image + 0 [MOD other.step] :=
      (Nat.modEq_zero_iff_dvd.mpr hdistance).add_left run.image
    exact hapart (hmeeting.trans hshift).symm

end CaseRun

/-- The capital I with a dot above, as a run of its own. -/
def dottedRun : CaseRun := ⟨0x130, 0x130, 1, 0x69⟩

theorem caseRuns_passBy :
    (caseRuns.all fun run => (dottedRun :: caseRuns).all run.passesBy) = true := by
  decide +kernel

/-- Below U+0080 only the capital letters have a lower-case form. -/
theorem first_of_mem_caseRuns :
    ∀ run ∈ caseRuns, run.first = 0x41 ∧ run.last = 0x5a ∨ 0x80 ≤ run.first := by
  decide +kernel

/-- No lower-case form is a surrogate or beyond the last character. -/
theorem image_of_mem_caseRuns : ∀ run ∈ caseRuns,
    run.image + (run.last - run.first) < 0xd800 ∨
      0xdfff < run.image ∧ run.image + (run.last - run.first) < 0x110000 := by
  decide +kernel

theorem toNat_ofNat_lower {run : CaseRun} (hrun : run ∈ caseRuns) {code : Nat}
    (hcode : run.covers code = true) : (Char.ofNat (run.lower code)).toNat = run.lower code := by
  obtain ⟨hfirst, hlast, -⟩ := CaseRun.covers_iff.mp hcode
  have himage := image_of_mem_caseRuns run hrun
  have hvalid : (run.lower code).isValidChar := by
    unfold CaseRun.lower Nat.isValidChar
    omega
  rw [Char.ofNat, dif_pos hvalid]
  rfl

/-! ### Capital letters of ASCII -/

theorem isUpper_iff {c : Char} : c.isUpper = true ↔ 0x41 ≤ c.toNat ∧ c.toNat ≤ 0x5a :=
  decide_eq_true_iff

theorem toNat_toLower (c : Char) :
    c.toLower.toNat = if c.isUpper then c.toNat + 0x20 else c.toNat := by
  unfold Char.toLower
  split
  · rename_i hletter
    have hupper : c.isUpper = true := decide_eq_true hletter
    have hlast : c.toNat ≤ 0x5a := (isUpper_iff.mp hupper).2
    have hsum : (c.val + 0x20).toNat = c.toNat + 0x20 := by
      rw [UInt32.toNat_add]
      exact Nat.mod_eq_of_lt (Nat.lt_of_le_of_lt (Nat.add_le_add_right hlast 0x20) (by decide))
    rw [if_pos hupper]
    exact hsum
  · rename_i hletter
    have hupper : ¬ c.isUpper = true := mt of_decide_eq_true hletter
    rw [if_neg hupper]

theorem toLower_eq_self {c : Char} (h : c.isUpper = false) : c.toLower = c := by
  rw [← Char.toNat_inj, toNat_toLower, h]
  rfl

theorem isUpper_toLower (c : Char) : c.toLower.isUpper = false := by
  by_cases hupper : c.isUpper = true
  · have hfirst : 0x41 ≤ c.toNat := (isUpper_iff.mp hupper).1
    rw [Bool.eq_false_iff]
    intro hlower
    have hlast : c.toLower.toNat ≤ 0x5a := (isUpper_iff.mp hlower).2
    rw [toNat_toLower, if_pos hupper] at hlast
    omega
  · rw [Bool.not_eq_true] at hupper
    rw [toLower_eq_self hupper, hupper]

theorem toNat_toLower_lt {c : Char} (h : c.toNat < 0x80) : c.toLower.toNat < 0x80 := by
  rw [toNat_toLower]
  by_cases hupper : c.isUpper = true
  · have hlast : c.toNat ≤ 0x5a := (isUpper_iff.mp hupper).2
    rw [if_pos hupper]
    omega
  · rw [if_neg hupper]
    exact h

/-! ### Settled characters -/

/-- No character that becomes another one in lower case. -/
def IsSettled (c : Char) : Prop := ∀ run ∈ dottedRun :: caseRuns, run.covers c.toNat = false

instance (c : Char) : Decidable (IsSettled c) :=
  inferInstanceAs (Decidable (∀ run ∈ dottedRun :: caseRuns, run.covers c.toNat = false))

theorem isSettled_of_lt {c : Char} (hascii : c.toNat < 0x80) (hupper : c.isUpper = false) :
    IsSettled c := by
  intro run hrun
  rw [Bool.eq_false_iff]
  intro hcovers
  obtain ⟨hfirst, hlast, -⟩ := CaseRun.covers_iff.mp hcovers
  rcases List.mem_cons.mp hrun with rfl | hrun
  · have hdotted : 0x130 ≤ c.toNat := hfirst
    omega
  · rcases first_of_mem_caseRuns run hrun with ⟨hcapitals, hletters⟩ | hbeyond
    · have hcapital : c.isUpper = true := isUpper_iff.mpr ⟨by omega, by omega⟩
      rw [hupper] at hcapital
      cases hcapital
    · omega

/-- A character that is settled is its own lower-case form. -/
theorem lowerChar_of_isSettled {c : Char} (h : IsSettled c) : lowerChar c = [c] := by
  unfold lowerChar
  split
  · rw [toLower_eq_self]
    rw [Bool.eq_false_iff]
    intro hupper
    have hcapitals : ⟨0x41, 0x5a, 1, 0x61⟩ ∈ caseRuns := List.mem_cons_self
    have hcovers : CaseRun.covers ⟨0x41, 0x5a, 1, 0x61⟩ c.toNat = true := by
      obtain ⟨hfirst, hlast⟩ := isUpper_iff.mp hupper
      exact CaseRun.covers_iff.mpr ⟨hfirst, hlast, one_dvd _⟩
    rw [h _ (List.mem_cons_of_mem _ hcapitals)] at hcovers
    cases hcovers
  · split
    · rename_i hdotted
      have hcovers : dottedRun.covers c.toNat = false := h dottedRun List.mem_cons_self
      rw [hdotted] at hcovers
      cases hcovers
    · have hnone : caseRuns.find? (·.covers c.toNat) = none := by
        rw [List.find?_eq_none]
        intro run hrun
        simp [h run (List.mem_cons_of_mem _ hrun)]
      rw [hnone]

/-- The lower-case form of a single character is settled. -/
theorem isSettled_of_mem_lowerChar {c d : Char} (hd : d ∈ lowerChar c) : IsSettled d := by
  unfold lowerChar at hd
  split at hd
  · rename_i hascii
    rw [List.mem_singleton.mp hd]
    exact isSettled_of_lt (toNat_toLower_lt hascii) (isUpper_toLower c)
  · split at hd
    · simp only [List.mem_cons, List.not_mem_nil, or_false] at hd
      rcases hd with rfl | rfl
      · decide +kernel
      · decide +kernel
    · rename_i hdotted
      split at hd
      · rename_i run hfind
        have hrun : run ∈ caseRuns := List.mem_of_find?_eq_some hfind
        have hcovers : run.covers c.toNat = true :=
          List.find?_some (p := fun run : CaseRun => run.covers c.toNat) hfind
        rw [List.mem_singleton.mp hd]
        intro other hother
        rw [toNat_ofNat_lower hrun hcovers]
        have hall := List.all_eq_true.mp caseRuns_passBy run hrun
        exact CaseRun.covers_lower_of_passesBy (List.all_eq_true.mp hall other hother) hcovers
      · rename_i hfind
        rw [List.mem_singleton.mp hd]
        intro run hrun
        rcases List.mem_cons.mp hrun with rfl | hrun
        · rw [Bool.eq_false_iff]
          intro hcovers
          obtain ⟨hfirst, hlast, -⟩ := CaseRun.covers_iff.mp hcovers
          exact hdotted (Nat.le_antisymm hlast hfirst)
        · simpa using List.find?_eq_none.mp hfind run hrun

/-! ### Whole texts -/

theorem lowerChars_of_isSettled {text : List Char} :
    ∀ before, (∀ c ∈ text, IsSettled c) → lowerChars before text = text := by
  induction text with
  | nil =>
    intro before h
    rfl
  | cons c rest ih =>
    intro before h
    have hc : IsSettled c := h c List.mem_cons_self
    have hsigma : c ≠ 'Σ' := by
      rintro rfl
      revert hc
      decide +kernel
    rw [lowerChars, if_neg hsigma, lowerChar_of_isSettled hc,
      ih _ fun d hd => h d (List.mem_cons_of_mem _ hd)]
    rfl

theorem isSettled_of_mem_lowerChars {text : List Char} :
    ∀ before, ∀ d ∈ lowerChars before text, IsSettled d := by
  induction text with
  | nil =>
    intro before d hd
    cases hd
  | cons c rest ih =>
    intro before d hd
    rw [lowerChars, List.mem_append] at hd
    rcases hd with hd | hd
    · by_cases hsigma : c = 'Σ'
      · rw [if_pos hsigma, List.mem_singleton] at hd
        rw [hd]
        by_cases hends : endsWord before rest = true
        · rw [if_pos hends]
          decide +kernel
        · rw [if_neg hends]
          decide +kernel
      · rw [if_neg hsigma] at hd
        exact isSettled_of_mem_lowerChar hd
    · exact ih (c :: before) d hd

/-- **Lower-casing settles a text.** What is in lower case stays as it is, in whatever context. -/
theorem lowerCase_lowerCase (text : String) : lowerCase (lowerCase text) = lowerCase text := by
  have hsettled : ∀ d ∈ (lowerCase text).toList, IsSettled d := by
    intro d hd
    rw [lowerCase, String.toList_ofList] at hd
    exact isSettled_of_mem_lowerChars [] d hd
  rw [lowerCase, lowerChars_of_isSettled [] hsettled, String.ofList_toList]

/-- A sigma at the end of a word takes the final form, and one capital letter becomes two
characters. -/
example : lowerCase "ΣΑΣ İ" = "σας i̇" := by
  decide +kernel

end IdentitySchema.Text
