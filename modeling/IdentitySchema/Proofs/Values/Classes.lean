/-
  IdentitySchema/Proofs/Values/Classes.lean
  =========================================
  **Which values of a list are repeated.**  Equality of values is an
  equivalence, so the values of a list fall into classes; `eraseDupsBy` keeps
  the first value of each.  What `repeated` finds in one walk through the list
  are the first values of the classes with two values or more, in order
  (`repeated_nil_eq_firstOfRepeated`).

  The walk carries the values it has seen.  What is left to be found after
  some of them is decided by the values that equal none of these (`unseen`),
  and this is what the induction is about.
-/
import IdentitySchema.Proofs.Values

namespace IdentitySchema.Json

/-! ### Classes of equal values -/

/-- What holds of a list if it holds of its rest without the values that equal the first holds of
every list. -/
@[elab_as_elim] theorem classInduction {motive : List Json → Prop} (nil : motive [])
    (cons : ∀ first rest, motive (rest.filter fun value => same value first = false) →
      motive (first :: rest)) (values : List Json) : motive values :=
  match values with
  | [] => nil
  | first :: rest =>
    cons first rest (classInduction nil cons (rest.filter fun value => same value first = false))
termination_by values.length
decreasing_by
  have hlength := List.length_filter_le (fun value => decide (same value first = false)) rest
  simp only [List.length_cons]
  omega

theorem mem_of_mem_eraseDupsBy {values : List Json} {value : Json}
    (h : value ∈ values.eraseDupsBy same) : value ∈ values := by
  induction values using classInduction with
  | nil => exact h
  | cons first rest ih =>
    rw [List.eraseDupsBy_cons] at h
    rcases List.mem_cons.mp h with rfl | h
    · exact List.mem_cons_self
    · exact List.mem_cons_of_mem _ (List.mem_filter.mp (ih h)).1

/-- The first values of the classes differ. -/
theorem distinct_eraseDupsBy (values : List Json) : Distinct (values.eraseDupsBy same) := by
  induction values using classInduction with
  | nil => exact .nil
  | cons first rest ih =>
    rw [List.eraseDupsBy_cons]
    refine List.pairwise_cons.mpr ⟨?_, ih⟩
    intro value hvalue
    have hapart := (List.mem_filter.mp (mem_of_mem_eraseDupsBy hvalue)).2
    rw [same_comm]
    exact of_decide_eq_true hapart

/-- Every class has its first value. -/
theorem exists_mem_eraseDupsBy {values : List Json} {value : Json} (h : value ∈ values) :
    ∃ first ∈ values.eraseDupsBy same, same value first = true := by
  induction values using classInduction with
  | nil => cases h
  | cons first rest ih =>
    rw [List.eraseDupsBy_cons]
    cases hsame : same value first with
    | true => exact ⟨first, List.mem_cons_self, hsame⟩
    | false =>
      have hrest : value ∈ rest := by
        rcases List.mem_cons.mp h with rfl | hrest
        · rw [same_refl] at hsame
          cases hsame
        · exact hrest
      obtain ⟨other, hother, heq⟩ := ih (List.mem_filter.mpr ⟨hrest, decide_eq_true hsame⟩)
      exact ⟨other, List.mem_cons_of_mem _ hother, heq⟩

theorem same_congr {x y : Json} (h : same x y = true) (z : Json) : same x z = same y z := by
  rw [Bool.eq_iff_iff]
  constructor
  · intro hxz
    rw [same_comm] at h
    exact same_trans h hxz
  · exact same_trans h

/-- Nothing before the first value of a class equals it. -/
theorem exists_split_of_mem_eraseDupsBy {values : List Json} {value : Json}
    (h : value ∈ values.eraseDupsBy same) :
    ∃ before after, values = before ++ value :: after ∧ ∀ x ∈ before, same x value = false := by
  induction values using classInduction with
  | nil => cases h
  | cons first rest ih =>
    rw [List.eraseDupsBy_cons] at h
    rcases List.mem_cons.mp h with rfl | h
    · exact ⟨[], rest, rfl, List.forall_mem_nil _⟩
    · have hapart : ∀ x, same x first = true → same x value = false := by
        intro x hx
        rw [same_congr hx, same_comm]
        exact of_decide_eq_true (List.mem_filter.mp (mem_of_mem_eraseDupsBy h)).2
      obtain ⟨kept, later, hsplit, hkept⟩ := ih h
      obtain ⟨before, tail, rfl, rfl, htail⟩ := List.filter_eq_append_iff.mp hsplit
      obtain ⟨skipped, after, rfl, hskipped, -, -⟩ := List.filter_eq_cons_iff.mp htail
      refine ⟨first :: before ++ skipped, after, by simp, ?_⟩
      intro x hx
      -- What was filtered out equals `first`, and so does not equal the value.
      rcases List.mem_append.mp hx with hx | hx
      · rcases List.mem_cons.mp hx with rfl | hx
        · exact hapart x (same_refl x)
        · cases hfirst : same x first with
          | false => exact hkept x (List.mem_filter.mpr ⟨hx, decide_eq_true hfirst⟩)
          | true => exact hapart x hfirst
      · exact hapart x (by simpa using hskipped x hx)

/-- The values that equal none of those seen before. -/
def unseen (seen values : List Json) : List Json :=
  values.filter fun value => !seen.any (same value)

theorem unseen_cons_of_seen {seen values : List Json} {first : Json}
    (h : seen.any (same first) = true) : unseen (first :: seen) values = unseen seen values := by
  apply List.filter_congr
  intro value _
  rw [List.any_cons]
  cases hsame : same value first with
  | false => rfl
  | true =>
    have hany : seen.any (same value) = seen.any (same first) :=
      congrArg seen.any (funext (same_congr hsame))
    rw [hany, h]
    rfl

theorem filter_unseen {seen values : List Json} {first : Json} :
    (unseen seen values).filter (fun value => same value first = false) =
      unseen (first :: seen) values := by
  unfold unseen
  rw [List.filter_filter]
  apply List.filter_congr
  intro value _
  rw [List.any_cons]
  cases same value first <;> simp

theorem any_unseen {seen values : List Json} {first : Json}
    (h : seen.any (same first) = false) :
    (unseen seen values).any (same first) = values.any (same first) := by
  rw [Bool.eq_iff_iff, List.any_eq_true, List.any_eq_true]
  constructor
  · rintro ⟨value, hvalue, hsame⟩
    exact ⟨value, (List.mem_filter.mp hvalue).1, hsame⟩
  · rintro ⟨value, hvalue, hsame⟩
    have hany : seen.any (same value) = seen.any (same first) :=
      congrArg seen.any (funext fun z => (same_congr hsame z).symm)
    refine ⟨value, List.mem_filter.mpr ⟨hvalue, ?_⟩, hsame⟩
    rw [hany, h]
    rfl

/-- A value of another class is counted alike with and without the class of `first`. -/
theorem countP_cons_unseen {seen rest : List Json} {first value : Json}
    (hapart : same value first = false) :
    (first :: unseen seen rest).countP (same value) =
      (unseen (first :: seen) rest).countP (same value) := by
  rw [List.countP_cons_of_neg (by simp [hapart]), ← filter_unseen, List.countP_filter]
  apply List.countP_congr
  intro other _
  cases hsame : same value other with
  | false => simp
  | true =>
    have hother : same other first = false := by
      rw [← same_congr hsame]
      exact hapart
    simp [hother]

/-- Among the values that equal none seen before, those found again are the first values of the
classes of two or more. -/
theorem repeated_eq_filter (seen values : List Json) :
    repeated seen values =
      ((unseen seen values).eraseDupsBy same).filter fun value =>
        2 ≤ (unseen seen values).countP (same value) := by
  induction values generalizing seen with
  | nil => rfl
  | cons first rest ih =>
    rw [repeated, ih (first :: seen)]
    cases hseen : seen.any (same first) with
    | true =>
      have hdropped : unseen seen (first :: rest) = unseen seen rest := by
        simp [unseen, hseen]
      simp [hdropped, unseen_cons_of_seen hseen]
    | false =>
      have hkept : unseen seen (first :: rest) = first :: unseen seen rest := by
        simp [unseen, hseen]
      have hfirst : (2 ≤ (first :: unseen seen rest).countP (same first)) ↔
          rest.any (same first) = true := by
        rw [List.countP_cons_of_pos (same_refl first), ← any_unseen hseen, List.any_eq_true,
          ← List.countP_pos_iff]
        omega
      rw [hkept, List.eraseDupsBy_cons, filter_unseen, List.filter_cons]
      have hrest : ((unseen (first :: seen) rest).eraseDupsBy same).filter (fun value =>
            decide (2 ≤ (first :: unseen seen rest).countP (same value))) =
          ((unseen (first :: seen) rest).eraseDupsBy same).filter (fun value =>
            decide (2 ≤ (unseen (first :: seen) rest).countP (same value))) := by
        apply List.filter_congr
        intro value hvalue
        have hapart : same value first = false := by
          rw [← filter_unseen] at hvalue
          exact of_decide_eq_true (List.mem_filter.mp (mem_of_mem_eraseDupsBy hvalue)).2
        rw [countP_cons_unseen hapart]
      rw [hrest]
      simp only [hfirst, Bool.not_false, Bool.true_and, decide_eq_true_eq]

/-! ### Classes of two or more -/

/-- The first value of each class of two or more, in order. -/
def firstOfRepeated (values : List Json) : List Json :=
  (values.eraseDupsBy same).filter fun value => 2 ≤ values.countP (same value)

variable {values : List Json} {value : Json}

theorem repeated_nil_eq_firstOfRepeated (values : List Json) :
    repeated [] values = firstOfRepeated values := by
  have hall : unseen [] values = values := by
    simp [unseen]
  rw [repeated_eq_filter, hall]
  rfl

theorem distinct_firstOfRepeated (values : List Json) : Distinct (firstOfRepeated values) :=
  (distinct_eraseDupsBy values).sublist List.filter_sublist

/-- A class has a value among them exactly when it has two or more. -/
theorem exists_mem_firstOfRepeated_iff (h : value ∈ values) :
    (∃ first ∈ firstOfRepeated values, same value first = true) ↔
      2 ≤ values.countP (same value) := by
  have hcount : ∀ {first : Json}, same value first = true →
      values.countP (same value) = values.countP (same first) := by
    intro first hsame
    exact congrArg values.countP (funext (same_congr hsame))
  constructor
  · rintro ⟨first, hfirst, hsame⟩
    rw [hcount hsame]
    exact of_decide_eq_true (List.mem_filter.mp hfirst).2
  · intro htwo
    obtain ⟨first, hfirst, hsame⟩ := exists_mem_eraseDupsBy h
    rw [hcount hsame] at htwo
    exact ⟨first, List.mem_filter.mpr ⟨hfirst, decide_eq_true htwo⟩, hsame⟩

/-- Nothing before one of them equals it. -/
theorem exists_split_of_mem_firstOfRepeated (h : value ∈ firstOfRepeated values) :
    ∃ before after, values = before ++ value :: after ∧ ∀ x ∈ before, same x value = false :=
  exists_split_of_mem_eraseDupsBy (List.mem_filter.mp h).1

end IdentitySchema.Json
