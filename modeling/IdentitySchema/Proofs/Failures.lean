/-
  IdentitySchema/Proofs/Failures.lean
  ===================================
  **Computations that can fail.**  A computation in several steps succeeds
  exactly when each step does, and what a step was lifted from is known from
  its success.  If not all items of a list pass, there is a first one that
  does not (`exists_first_not`).

  Where it is known what comes of a good input and of each fault, and there is
  no other input, the outcome tells which it was (`eq_ok_iff_of_outcomes`,
  `eq_error_iff_of_outcomes`).
-/
import IdentitySchema.Failure

namespace IdentitySchema

variable {ε α β : Type}

theorem ok_bind (a : α) (f : α → Except ε β) : Except.ok a >>= f = f a := rfl

theorem error_bind (e : ε) (f : α → Except ε β) : Except.error e >>= f = .error e := rfl

theorem bind_eq_ok {x : Except ε α} {f : α → Except ε β} {b : β} :
    x >>= f = .ok b ↔ ∃ a, x = .ok a ∧ f a = .ok b := by
  cases x with
  | error e =>
    constructor
    · intro h
      cases h
    · rintro ⟨a, h, -⟩
      cases h
  | ok a =>
    constructor
    · intro h
      exact ⟨a, rfl, h⟩
    · rintro ⟨_, hx, h⟩
      cases hx
      exact h

theorem exists_eq_error {x : Except ε α} (h : ¬ ∃ a, x = .ok a) : ∃ e, x = .error e := by
  cases x with
  | error e => exact ⟨e, rfl⟩
  | ok a => exact absurd ⟨a, rfl⟩ h

section Outcomes

variable {x : Except ε α} {a b : α} {e : ε} {good : Prop} {fault : ε → Prop}

theorem eq_ok_iff_of_outcomes (hgood : good → x = .ok a) (hfault : ∀ e, fault e → x = .error e)
    (htotal : good ∨ ∃ e, fault e) : x = .ok b ↔ good ∧ b = a := by
  constructor
  · intro h
    rcases htotal with hholds | ⟨e, he⟩
    · rw [hgood hholds] at h
      exact ⟨hholds, (Except.ok.inj h).symm⟩
    · rw [hfault e he] at h
      cases h
  · rintro ⟨hholds, rfl⟩
    exact hgood hholds

theorem eq_error_iff_of_outcomes (hgood : good → x = .ok a)
    (hfault : ∀ e, fault e → x = .error e) (htotal : good ∨ ∃ e, fault e) :
    x = .error e ↔ fault e := by
  constructor
  · intro h
    rcases htotal with hholds | ⟨other, hother⟩
    · rw [hgood hholds] at h
      cases h
    · rw [hfault other hother] at h
      cases h
      exact hother
  · exact hfault e

end Outcomes

/-- Of a list in which not everything has a property, the first item without it. -/
theorem exists_first_not {p : α → Prop} {xs : List α} (h : ¬ ∀ x ∈ xs, p x) :
    ∃ before x after, xs = before ++ x :: after ∧ (∀ y ∈ before, p y) ∧ ¬ p x := by
  induction xs with
  | nil => exact absurd (List.forall_mem_nil _) h
  | cons first rest ih =>
    by_cases hfirst : p first
    · have hrest : ¬ ∀ x ∈ rest, p x := fun hall =>
        h (List.forall_mem_cons.mpr ⟨hfirst, hall⟩)
      obtain ⟨before, x, after, rfl, hbefore, hx⟩ := ih hrest
      exact ⟨first :: before, x, after, rfl, List.forall_mem_cons.mpr ⟨hfirst, hbefore⟩, hx⟩
    · exact ⟨[], first, rest, rfl, List.forall_mem_nil _, hfirst⟩

namespace Failure

theorem liftJson_eq_ok {x : Except Json.Error α} {a : α} : liftJson x = .ok a ↔ x = .ok a := by
  cases x with
  | ok other => simp [liftJson]
  | error error => simp [liftJson]

theorem liftSchema_eq_ok {x : Except SchemaError α} {a : α} :
    liftSchema x = .ok a ↔ x = .ok a := by
  cases x with
  | ok other => simp [liftSchema]
  | error report => simp [liftSchema]

theorem liftPayload_eq_ok {x : Except PayloadError α} {a : α} :
    liftPayload x = .ok a ↔ x = .ok a := by
  cases x with
  | ok other => simp [liftPayload]
  | error report => simp [liftPayload]

theorem liftPayload_eq_error {x : Except PayloadError α} {failure : Failure} :
    liftPayload x = .error failure ↔ ∃ report, x = .error report ∧ failure = .payload report := by
  cases x with
  | ok other => simp [liftPayload]
  | error report => simp [liftPayload, eq_comm]

end Failure

end IdentitySchema
