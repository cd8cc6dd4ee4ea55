/-
  IdentitySchema/Proofs/Reports.lean
  ==================================
  **What a report amounts to.**  A report is a tree, but what a reader takes
  from it is the list of its violations; `listed` is that list for a check,
  which is empty when the check passes.

  A group without reports has no violations although it is an error.  The
  reports of this library hold no such group (`Full`), so that a check passes
  exactly when it lists nothing (`Full.violations_ne_nil`).
-/
import IdentitySchema.Report

namespace IdentitySchema.Report

variable {α β γ : Type}

/-! ### The violations of a check -/

/-- The violations that a check reports, in order; none if it passes. -/
def listed : Except (Report α) β → List α
  | .ok _ => []
  | .error report => report.violations

@[simp] theorem listed_ok (b : β) : listed (.ok b : Except (Report α) β) = [] := rfl

@[simp] theorem listed_error (report : Report α) :
    listed (.error report : Except (Report α) β) = report.violations := rfl

@[simp] theorem flatMap_violations_leaf (violations : List α) :
    (violations.map leaf).flatMap Report.violations = violations := by
  rw [List.flatMap_map]
  simp

theorem flatMap_violations_found (result : Except (Report α) β) :
    (found result).flatMap violations = listed result := by
  cases result with
  | ok b => rfl
  | error report => simp [found]

theorem listed_gather (location : String) (reports : List (Report α)) :
    listed (gather location reports) = reports.flatMap violations := by
  cases reports with
  | nil => rfl
  | cons report rest => simp [gather]

/-- The reports of a list of checks list what the checks list, one after the other. -/
theorem flatMap_violations_flatMap_found (check : γ → Except (Report α) β) (cs : List γ) :
    (cs.flatMap fun c => found (check c)).flatMap violations
      = cs.flatMap fun c => listed (check c) := by
  rw [List.flatMap_assoc]
  simp only [flatMap_violations_found]

theorem mem_found {result : Except (Report α) β} {report : Report α} :
    report ∈ found result ↔ result = .error report := by
  cases result with
  | ok b => simp [found]
  | error other => simp [found, eq_comm]

theorem found_eq_nil {result : Except (Report α) β} :
    found result = [] ↔ ∃ b, result = .ok b := by
  cases result with
  | ok b => simp [found]
  | error report => simp [found]

theorem found_eq_nil_iff_ok {result : Except (Report α) Unit} :
    found result = [] ↔ result = .ok () :=
  found_eq_nil.trans ⟨fun ⟨_, h⟩ => h, fun h => ⟨(), h⟩⟩

/-! ### Reports inside a report -/

/-- The report is the whole one, or is inside a report of its group. -/
inductive Within (node : Report α) : Report α → Prop
  | whole : Within node node
  | inside {location : String} {reports : List (Report α)} {child : Report α}
      (hchild : child ∈ reports) (hnode : Within node child) :
      Within node (.group location reports)

/-! ### Reports without empty groups -/

/-- No group of the report is empty. -/
inductive Full : Report α → Prop
  | leaf (violation : α) : Full (.leaf violation)
  | group (location : String) {reports : List (Report α)} (hne : reports ≠ [])
      (hbelow : ∀ report ∈ reports, Full report) : Full (.group location reports)

theorem Full.violations_ne_nil {report : Report α} (h : report.Full) :
    report.violations ≠ [] := by
  induction h with
  | leaf violation => simp
  | group location hne hbelow ih =>
    obtain ⟨first, hfirst⟩ := List.exists_mem_of_ne_nil _ hne
    rw [violations_group]
    intro hnil
    exact ih first hfirst (List.flatMap_eq_nil_iff.mp hnil first hfirst)

theorem full_of_gather {location : String} {reports : List (Report α)} {report : Report α}
    (hbelow : ∀ r ∈ reports, r.Full) (h : gather location reports = .error report) :
    report.Full := by
  obtain ⟨hne, rfl⟩ := gather_eq_error.mp h
  exact .group location hne hbelow

/-- A check whose reports have no empty groups passes exactly when it lists nothing. -/
theorem listed_eq_nil {result : Except (Report α) β}
    (hfull : ∀ report, result = .error report → report.Full) :
    listed result = [] ↔ ∃ b, result = .ok b := by
  cases result with
  | ok b => simp
  | error report =>
    constructor
    · intro hnil
      exact absurd hnil (hfull report rfl).violations_ne_nil
    · rintro ⟨b, hb⟩
      cases hb

theorem listed_eq_nil_iff_ok {result : Except (Report α) Unit}
    (hfull : ∀ report, result = .error report → report.Full) :
    listed result = [] ↔ result = .ok () :=
  (listed_eq_nil hfull).trans ⟨fun ⟨_, h⟩ => h, fun h => ⟨(), h⟩⟩

end IdentitySchema.Report
