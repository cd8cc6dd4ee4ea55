/-
  IdentitySchema/Proofs/Payload/Bags.lean
  =======================================
  **Lists of values as bags.**  An attribute of many values takes from a list
  the items that are no placeholders, and their order shows only in the order
  of what is reported.  So lists with the same items are checked alike, and so
  are lists with the same items in another order, up to the order of the
  violations (`Attribute.list_verdict_follows_bag`).

  One violation does show the order: the report on repetition gives for each
  class of equal values the first, and these in order of their occurrence.
  Equal values can be written differently, as the two zeros are, so what two
  such reports have in common are the classes (`Json.SameBag`).
-/
import IdentitySchema.Proofs.Payload.Duplicates
import Mathlib.Data.Multiset.ZeroCons

namespace IdentitySchema

open Report

/-! ### Bags of values -/

namespace Json

/-- The lists have equal values equally often, in any order. -/
def SameBag (xs ys : List Json) : Prop :=
  Multiset.Rel (fun x y => same x y = true) (xs : Multiset Json) (ys : Multiset Json)

theorem distinct_iff_of_perm {xs ys : List Json} (h : xs.Perm ys) : Distinct xs ↔ Distinct ys :=
  h.pairwise_iff fun hxy => (same_comm _ _).trans hxy

/-- Lists of different values are the same bag if each value of one equals a value of the other. -/
theorem sameBag_of_distinct {xs ys : List Json} (hx : Distinct xs) (hy : Distinct ys)
    (hxy : ∀ x ∈ xs, ∃ y ∈ ys, same x y = true) (hyx : ∀ y ∈ ys, ∃ x ∈ xs, same x y = true) :
    SameBag xs ys := by
  induction xs generalizing ys with
  | nil =>
    have hnil : ys = [] := by
      rw [List.eq_nil_iff_forall_not_mem]
      intro y hmem
      obtain ⟨x, hnone, -⟩ := hyx y hmem
      cases hnone
    rw [hnil]
    exact .zero
  | cons x rest ih =>
    obtain ⟨hfirst, hrest⟩ := List.pairwise_cons.mp hx
    obtain ⟨y, hmem, hsame⟩ := hxy x List.mem_cons_self
    obtain ⟨before, after, rfl⟩ := List.append_of_mem hmem
    have hmiddle : (before ++ y :: after).Perm (y :: (before ++ after)) := List.perm_middle
    obtain ⟨hapart, hothers⟩ := List.pairwise_cons.mp ((distinct_iff_of_perm hmiddle).mp hy)
    have hbag : SameBag rest (before ++ after) := by
      apply ih hrest hothers
      · intro z hz
        obtain ⟨w, hw, hzw⟩ := hxy z (List.mem_cons_of_mem _ hz)
        rcases List.mem_cons.mp (hmiddle.mem_iff.mp hw) with rfl | hw
        · have hxz := hfirst z hz
          rw [same_congr hsame, same_comm, hzw] at hxz
          cases hxz
        · exact ⟨w, hw, hzw⟩
      · intro w hw
        obtain ⟨z, hz, hzw⟩ := hyx w (hmiddle.mem_iff.mpr (List.mem_cons_of_mem _ hw))
        rcases List.mem_cons.mp hz with rfl | hz
        · have hyw := hapart w hw
          rw [← same_congr hsame, hzw] at hyw
          cases hyw
        · exact ⟨z, hz, hzw⟩
    unfold SameBag
    rw [Multiset.coe_eq_coe.mpr hmiddle, ← Multiset.cons_coe, ← Multiset.cons_coe]
    exact .cons hsame hbag

/-- The order of a list shows in which values stand for their classes, not in the classes. -/
theorem sameBag_firstOfRepeated {xs ys : List Json} (h : xs.Perm ys) :
    SameBag (firstOfRepeated xs) (firstOfRepeated ys) := by
  have hstep : ∀ {xs ys : List Json}, xs.Perm ys → ∀ x ∈ firstOfRepeated xs,
      ∃ y ∈ firstOfRepeated ys, same x y = true := by
    intro xs ys h x hx
    have hmem : x ∈ xs := by
      obtain ⟨before, after, rfl, -⟩ := exists_split_of_mem_firstOfRepeated hx
      exact List.mem_append_right _ List.mem_cons_self
    have htwo := (exists_mem_firstOfRepeated_iff hmem).mp ⟨x, hx, same_refl x⟩
    rw [h.countP_eq] at htwo
    exact (exists_mem_firstOfRepeated_iff (h.mem_iff.mp hmem)).mpr htwo
  apply sameBag_of_distinct (distinct_firstOfRepeated xs) (distinct_firstOfRepeated ys) (hstep h)
  intro y hy
  obtain ⟨x, hx, hsame⟩ := hstep h.symm y hy
  rw [same_comm] at hsame
  exact ⟨x, hx, hsame⟩

end Json

/-! ### Bags of violations -/

/-- The violations are the same, or both report repetition at the path and show equal values. -/
inductive PayloadViolation.SameUpTo (path : Locator) : PayloadViolation → PayloadViolation → Prop
  | same (violation : PayloadViolation) : SameUpTo path violation violation
  | repetition {values others : List Json} (h : Json.SameBag values others) :
      SameUpTo path (.duplicateValue path (values.map Json.rendered))
        (.duplicateValue path (others.map Json.rendered))

namespace Attribute

variable {a : Attribute} {companions : Companions} {xs ys : List Json}

theorem checkValue_eq_ok_iff {value : Json} :
    a.checkValue value = .ok () ↔ listed (a.checkValue value) = [] := by
  have hfull : ∀ report, a.checkValue value = .error report → report.Full :=
    Reached.full_of_check ⟨a, some value, value⟩
  rw [listed_eq_nil_iff_ok hfull]

/-- Of a list nothing is checked but the items that are no placeholders, if there are any. -/
theorem checkValue_array (hmany : a.cardinality = .many companions)
    (hpresent : Json.presentItems xs ≠ []) :
    a.checkValue (.array xs) =
      gather a.path.text (a.duplicates (Json.presentItems xs) ++
        (Json.presentItems xs).flatMap fun item => found (a.checkOne item)) := by
  unfold checkValue checkAs checkList
  rw [hmany]
  cases hitems : Json.presentItems xs with
  | nil => exact absurd hitems hpresent
  | cons first rest =>
    have hfilter : xs.filter (fun item => !item.isPlaceholder) = first :: rest := hitems
    simp only [hfilter]

theorem checkValue_of_placeholders (hmany : a.cardinality = .many companions)
    (hnone : Json.presentItems xs = []) :
    a.checkValue (.array xs) = a.traits.checkAbsent (.array xs) := by
  unfold checkValue checkAs checkList
  have hfilter : xs.filter (fun item => !item.isPlaceholder) = [] := hnone
  simp only [hmany, hfilter]

/-- What is found in the items is the same in any order. -/
theorem itemViolations_perm (h : (Json.presentItems xs).Perm (Json.presentItems ys)) :
    (a.itemViolations xs).Perm (a.itemViolations ys) :=
  h.flatMap_right _

/-- Lists with the same items in another order report the same, up to the order. -/
theorem listed_checkValue_of_perm (hmany : a.cardinality = .many companions)
    (h : (Json.presentItems xs).Perm (Json.presentItems ys))
    (hpresent : Json.presentItems xs ≠ []) :
    Multiset.Rel (PayloadViolation.SameUpTo a.path)
      (listed (a.checkValue (.array xs)) : Multiset PayloadViolation)
      (listed (a.checkValue (.array ys)) : Multiset PayloadViolation) := by
  have hpresent' : Json.presentItems ys ≠ [] := by
    intro hnil
    rw [hnil] at h
    exact hpresent h.eq_nil
  have hsignificant : (a.significantValues xs).Perm (a.significantValues ys) := h.filterMap _
  have hitems : Multiset.Rel (PayloadViolation.SameUpTo a.path)
      (a.itemViolations xs : Multiset PayloadViolation)
      (a.itemViolations ys : Multiset PayloadViolation) := by
    rw [Multiset.coe_eq_coe.mpr (itemViolations_perm h)]
    exact Multiset.rel_refl_of_refl_on fun violation _ => .same violation
  have hrepeats : a.Repeats xs ↔ a.Repeats ys := by
    have hdistinct := Json.distinct_iff_of_perm hsignificant
    rw [distinct_significantValues_iff, distinct_significantValues_iff] at hdistinct
    exact not_iff_not.mp hdistinct
  by_cases hreported : (a.traits.uniqueness.valid? = some .server ∨
      a.traits.uniqueness.valid? = some .global) ∧ a.Repeats xs
  · obtain ⟨hunique, hfirst⟩ := hreported
    rw [listed_checkValue_of_repeats hmany hpresent hunique hfirst,
      listed_checkValue_of_repeats hmany hpresent' hunique (hrepeats.mp hfirst),
      ← Multiset.cons_coe, ← Multiset.cons_coe]
    exact .cons (.repetition (Json.sameBag_firstOfRepeated hsignificant)) hitems
  · rw [listed_checkValue_of_not_repeats hmany hpresent hreported]
    rw [hrepeats] at hreported
    rw [listed_checkValue_of_not_repeats hmany hpresent' hreported]
    exact hitems

/-- **The verdict on a list follows the bag of its items.**  An attribute of many values gives
lists with the same items apart from placeholders the same result, if there are any such items. If
these are the same in another order, both lists pass or both fail, and the violations are the same
up to their order; only a report on repetition may show the repeated values in another order and by
other values equal to them. Lists of placeholders alone both pass, or, if the attribute is required,
both fail at its path for having no value, and only what was found in its place differs. -/
theorem list_verdict_follows_bag (hmany : a.cardinality = .many companions) (xs ys : List Json) :
    (Json.presentItems xs = Json.presentItems ys → Json.presentItems xs ≠ [] →
      a.checkValue (.array xs) = a.checkValue (.array ys)) ∧
    ((Json.presentItems xs).Perm (Json.presentItems ys) → Json.presentItems xs ≠ [] →
      (a.checkValue (.array xs) = .ok () ↔ a.checkValue (.array ys) = .ok ()) ∧
      Multiset.Rel (PayloadViolation.SameUpTo a.path)
        (listed (a.checkValue (.array xs)) : Multiset PayloadViolation)
        (listed (a.checkValue (.array ys)) : Multiset PayloadViolation)) ∧
    (Json.presentItems xs = [] → Json.presentItems ys = [] →
      (a.isRequired = false ∧
        a.checkValue (.array xs) = .ok () ∧ a.checkValue (.array ys) = .ok ()) ∨
      (a.isRequired = true ∧ ∃ name multiValued,
        a.checkValue (.array xs) =
          .error (.leaf (.valueNotFound name a.path multiValued (Json.array xs).compact)) ∧
        a.checkValue (.array ys) =
          .error (.leaf (.valueNotFound name a.path multiValued (Json.array ys).compact)))) := by
  refine ⟨?_, ?_, ?_⟩
  · intro hitems hpresent
    rw [checkValue_array hmany hpresent]
    rw [hitems] at hpresent ⊢
    rw [checkValue_array hmany hpresent]
  · intro hitems hpresent
    have hviolations := listed_checkValue_of_perm hmany hitems hpresent
    refine ⟨?_, hviolations⟩
    have hcount := Multiset.card_eq_card_of_rel hviolations
    rw [checkValue_eq_ok_iff, checkValue_eq_ok_iff, ← List.length_eq_zero_iff,
      ← List.length_eq_zero_iff]
    simp only [Multiset.coe_card] at hcount
    rw [hcount]
  · intro hxs hys
    rw [checkValue_of_placeholders hmany hxs, checkValue_of_placeholders hmany hys]
    unfold Characteristics.checkAbsent isRequired
    cases hrequired : a.traits.isRequired with
    | false => exact Or.inl ⟨rfl, rfl, rfl⟩
    | true => exact Or.inr ⟨rfl, _, _, rfl, rfl⟩

/-- The repeated marks from the last to the first. -/
theorem perm_repeatedMarks :
    (Json.presentItems repeatedMarks).Perm (Json.presentItems repeatedMarks.reverse) := by
  unfold Json.presentItems
  rw [List.filter_reverse]
  exact (List.reverse_perm _).symm

/-- The report on the marks from the last to the first begins with the other zero, and has the same
three violations. -/
theorem reversed_marks_checked_alike :
    marks.cardinality = .many (.ofFragment marksFragment) ∧
    (Json.presentItems repeatedMarks).Perm (Json.presentItems repeatedMarks.reverse) ∧
    Json.presentItems repeatedMarks ≠ [] ∧
    (listed (marks.checkValue (.array repeatedMarks))).head? =
      some (.duplicateValue marks.path ["good", "0.0"]) ∧
    (listed (marks.checkValue (.array repeatedMarks.reverse))).head? =
      some (.duplicateValue marks.path ["-0.0", "good"]) ∧
    Multiset.Rel (PayloadViolation.SameUpTo marks.path)
      (listed (marks.checkValue (.array repeatedMarks)) : Multiset PayloadViolation)
      (listed (marks.checkValue (.array repeatedMarks.reverse)) : Multiset PayloadViolation) := by
  have hpresent : Json.presentItems repeatedMarks ≠ [] := by
    simp [Json.presentItems, repeatedMarks, Json.isPlaceholder]
  have hmany : marks.cardinality = .many (.ofFragment marksFragment) := rfl
  have hbag := list_verdict_follows_bag hmany repeatedMarks repeatedMarks.reverse
  exact ⟨hmany, perm_repeatedMarks, hpresent, rfl, rfl, (hbag.2.1 perm_repeatedMarks hpresent).2⟩

end Attribute

end IdentitySchema
