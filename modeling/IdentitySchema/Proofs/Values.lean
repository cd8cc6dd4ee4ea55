/-
  IdentitySchema/Proofs/Values.lean
  =================================
  **Equality of values and repetition.**  Equality of values is an equivalence,
  so it does not matter which of two equal items of a list is held against the
  other, and `repeated` finds nothing exactly when the items differ pairwise
  (`repeated_nil_eq_nil`).
-/
import IdentitySchema.Attribute.Check
import IdentitySchema.Proofs.Induction

namespace IdentitySchema

/-! ### Equality -/

theorem Decimal.Binary64.same_comm (x y : Decimal.Binary64) : x.same y = y.same x := by
  have hbeq : (x == y) = (y == x) := by
    rw [Bool.eq_iff_iff, beq_iff_eq, beq_iff_eq]
    exact eq_comm
  unfold Decimal.Binary64.same
  rw [hbeq, Bool.and_comm]

theorem Decimal.Binary64.same_iff {x y : Decimal.Binary64} :
    x.same y = true ↔ x = y ∨ (x.isZero = true ∧ y.isZero = true) := by
  simp [Decimal.Binary64.same]

namespace Json

theorem Number.same_comm (m n : Number) : m.same n = n.same m := by
  cases m with
  | integer a ha =>
    cases n with
    | integer b hb =>
      show (a == b) = (b == a)
      rw [Bool.eq_iff_iff, beq_iff_eq, beq_iff_eq]
      exact eq_comm
    | real y => rfl
  | real x =>
    cases n with
    | integer b hb => rfl
    | real y => exact Decimal.Binary64.same_comm x y

theorem sameItems_comm {xs : List Json} (h : ∀ x ∈ xs, ∀ y, same x y = same y x)
    (ys : List Json) : sameItems xs ys = sameItems ys xs := by
  induction xs generalizing ys with
  | nil => cases ys <;> rfl
  | cons x xs ih =>
    cases ys with
    | nil => rfl
    | cons y ys =>
      have hrest := ih (fun z hz => h z (List.mem_cons_of_mem _ hz)) ys
      simp only [sameItems, h x List.mem_cons_self y, hrest]

theorem sameMembers_comm {ms : Members} (h : ∀ m ∈ ms, ∀ y, same m.2 y = same y m.2)
    (ns : Members) : sameMembers ms ns = sameMembers ns ms := by
  induction ms generalizing ns with
  | nil => cases ns <;> rfl
  | cons m ms ih =>
    obtain ⟨k, x⟩ := m
    cases ns with
    | nil => rfl
    | cons n ns =>
      obtain ⟨l, y⟩ := n
      have hkey : (k == l) = (l == k) := by
        rw [Bool.eq_iff_iff, beq_iff_eq, beq_iff_eq]
        exact eq_comm
      have hvalue : same x y = same y x := h (k, x) List.mem_cons_self y
      have hrest := ih (fun z hz => h z (List.mem_cons_of_mem _ hz)) ns
      simp only [sameMembers, hkey, hvalue, hrest]

/-- Equality of values does not depend on which one comes first. -/
theorem same_comm (x y : Json) : same x y = same y x := by
  induction x generalizing y with
  | null => cases y <;> rfl
  | bool a =>
    cases y with
    | bool b =>
      show (a == b) = (b == a)
      cases a <;> cases b <;> rfl
    | _ => rfl
  | number m =>
    cases y with
    | number n => exact Number.same_comm m n
    | _ => rfl
  | string a =>
    cases y with
    | string b =>
      show (a == b) = (b == a)
      rw [Bool.eq_iff_iff, beq_iff_eq, beq_iff_eq]
      exact eq_comm
    | _ => rfl
  | array xs ih =>
    cases y with
    | array ys => exact sameItems_comm ih ys
    | _ => rfl
  | object ms ih =>
    cases y with
    | object ns => exact sameMembers_comm ih ns
    | _ => rfl

theorem Number.same_refl (n : Number) : n.same n = true := by
  cases n with
  | integer value fits => exact beq_self_eq_true value
  | real value => exact Decimal.Binary64.same_iff.mpr (Or.inl rfl)

theorem Number.same_trans {m n k : Number} (hmn : m.same n = true) (hnk : n.same k = true) :
    m.same k = true := by
  cases m with
  | integer a ha =>
    cases n with
    | integer b hb =>
      have hab : a = b := eq_of_beq hmn
      subst hab
      exact hnk
    | real y => cases hmn
  | real x =>
    cases n with
    | integer b hb => cases hmn
    | real y =>
      cases k with
      | integer c hc => cases hnk
      | real z =>
        have hxy := Decimal.Binary64.same_iff.mp hmn
        have hyz := Decimal.Binary64.same_iff.mp hnk
        apply Decimal.Binary64.same_iff.mpr
        rcases hxy with rfl | ⟨hx, hy⟩
        · exact hyz
        · rcases hyz with rfl | ⟨-, hz⟩
          · exact Or.inr ⟨hx, hy⟩
          · exact Or.inr ⟨hx, hz⟩

theorem sameItems_refl {xs : List Json} (h : ∀ x ∈ xs, same x x = true) :
    sameItems xs xs = true := by
  induction xs with
  | nil => rfl
  | cons x xs ih =>
    rw [sameItems, h x List.mem_cons_self, ih fun z hz => h z (List.mem_cons_of_mem _ hz)]
    rfl

theorem sameMembers_refl {ms : Members} (h : ∀ m ∈ ms, same m.2 m.2 = true) :
    sameMembers ms ms = true := by
  induction ms with
  | nil => rfl
  | cons m ms ih =>
    obtain ⟨k, x⟩ := m
    have hvalue : same x x = true := h (k, x) List.mem_cons_self
    rw [sameMembers, hvalue, ih fun z hz => h z (List.mem_cons_of_mem _ hz), beq_self_eq_true]
    rfl

/-- Every value equals itself. -/
theorem same_refl (x : Json) : same x x = true := by
  induction x with
  | null => rfl
  | bool a => exact beq_self_eq_true a
  | number n => exact n.same_refl
  | string a => exact beq_self_eq_true a
  | array xs ih => exact sameItems_refl ih
  | object ms ih => exact sameMembers_refl ih

theorem sameItems_trans {xs : List Json}
    (h : ∀ x ∈ xs, ∀ y z, same x y = true → same y z = true → same x z = true)
    {ys zs : List Json} (hxy : sameItems xs ys = true) (hyz : sameItems ys zs = true) :
    sameItems xs zs = true := by
  induction xs generalizing ys zs with
  | nil =>
    cases ys with
    | nil => exact hyz
    | cons y ys => cases hxy
  | cons x xs ih =>
    cases ys with
    | nil => cases hxy
    | cons y ys =>
      cases zs with
      | nil => cases hyz
      | cons z zs =>
        simp only [sameItems, Bool.and_eq_true] at hxy hyz ⊢
        constructor
        · exact h x List.mem_cons_self y z hxy.1 hyz.1
        · exact ih (fun w hw => h w (List.mem_cons_of_mem _ hw)) hxy.2 hyz.2

theorem sameMembers_trans {ms : Members}
    (h : ∀ m ∈ ms, ∀ y z, same m.2 y = true → same y z = true → same m.2 z = true)
    {ns ks : Members} (hmn : sameMembers ms ns = true) (hnk : sameMembers ns ks = true) :
    sameMembers ms ks = true := by
  induction ms generalizing ns ks with
  | nil =>
    cases ns with
    | nil => exact hnk
    | cons n ns => cases hmn
  | cons m ms ih =>
    cases ns with
    | nil => cases hmn
    | cons n ns =>
      cases ks with
      | nil => cases hnk
      | cons k ks =>
        simp only [sameMembers, Bool.and_eq_true, beq_iff_eq] at hmn hnk ⊢
        obtain ⟨⟨hkey, hvalue⟩, hrest⟩ := hmn
        obtain ⟨⟨hkey', hvalue'⟩, hrest'⟩ := hnk
        refine ⟨⟨hkey.trans hkey', ?_⟩, ?_⟩
        · exact h m List.mem_cons_self n.2 k.2 hvalue hvalue'
        · exact ih (fun w hw => h w (List.mem_cons_of_mem _ hw)) hrest hrest'

/-- Values that equal the same value equal each other. -/
theorem same_trans {x y z : Json} (hxy : same x y = true) (hyz : same y z = true) :
    same x z = true := by
  induction x generalizing y z with
  | null =>
    cases y with
    | null => exact hyz
    | _ => cases hxy
  | bool a =>
    cases y with
    | bool b =>
      have hab : a = b := eq_of_beq hxy
      subst hab
      exact hyz
    | _ => cases hxy
  | number m =>
    cases y with
    | number n =>
      cases z with
      | number k => exact Number.same_trans hxy hyz
      | _ => cases hyz
    | _ => cases hxy
  | string a =>
    cases y with
    | string b =>
      have hab : a = b := eq_of_beq hxy
      subst hab
      exact hyz
    | _ => cases hxy
  | array xs ih =>
    cases y with
    | array ys =>
      cases z with
      | array zs => exact sameItems_trans (fun x hx _ _ => ih x hx) hxy hyz
      | _ => cases hyz
    | _ => cases hxy
  | object ms ih =>
    cases y with
    | object ns =>
      cases z with
      | object ks => exact sameMembers_trans (fun m hm _ _ => ih m hm) hxy hyz
      | _ => cases hyz
    | _ => cases hxy

/-! ### Repetition -/

/-- No two of the values are equal. -/
def Distinct (values : List Json) : Prop :=
  values.Pairwise fun x y => same x y = false

instance (values : List Json) : Decidable (Distinct values) := by
  unfold Distinct; infer_instance

theorem repeated_eq_nil_of_distinct {values : List Json} (h : Distinct values)
    (seen : List Json) : repeated seen values = [] := by
  induction values generalizing seen with
  | nil => rfl
  | cons value rest ih =>
    obtain ⟨hfirst, hrest⟩ := List.pairwise_cons.mp h
    have hlater : rest.any (same value) = false := by
      rw [List.any_eq_false]
      intro other hother
      rw [hfirst other hother]
      decide
    simp only [repeated, hlater, Bool.and_false, Bool.false_eq_true, if_false]
    exact ih hrest (value :: seen)

/-- If nothing is repeated and no value was seen before, the values differ: the first of two equal
ones would have been found. -/
theorem distinct_of_repeated_eq_nil {seen values : List Json}
    (hnew : ∀ value ∈ values, seen.any (same value) = false)
    (h : repeated seen values = []) : Distinct values := by
  induction values generalizing seen with
  | nil => exact .nil
  | cons value rest ih =>
    have hseen : seen.any (same value) = false := hnew value List.mem_cons_self
    rw [repeated, hseen] at h
    split at h
    · exact absurd h (List.cons_ne_nil _ _)
    · rename_i hlater
      have hfirst : ∀ other ∈ rest, same value other = false := by
        simpa using hlater
      refine List.pairwise_cons.mpr ⟨hfirst, ih ?_ h⟩
      intro other hother
      rw [List.any_cons, same_comm, hfirst other hother, Bool.false_or]
      exact hnew other (List.mem_cons_of_mem _ hother)

theorem repeated_nil_eq_nil {values : List Json} : repeated [] values = [] ↔ Distinct values :=
  ⟨distinct_of_repeated_eq_nil fun _ _ => rfl, fun h => repeated_eq_nil_of_distinct h []⟩

end Json

end IdentitySchema
