/-
  IdentitySchema/Report.lean
  ==========================
  **Reports of violations.**  A check does not stop at the first violation: it
  gathers those found beneath one place into a group, and groups into further
  groups.  A report is such a tree.

  Main definitions: `gather`, which makes a group of what was found and passes
  when nothing was; `violations`, the leaves in order; and `text`, where every
  report of a group stands on lines of its own, one tab further in.
-/

namespace IdentitySchema

/-- A violation, or the reports found beneath one location. -/
inductive Report (α : Type) where
  | leaf (violation : α)
  | group (location : String) (reports : List (Report α))

/-- How violations of a kind are put into words: one violation, and the line above a group. -/
class Worded (α : Type) where
  message : α → String
  heading : (location : String) → (count : Nat) → String

namespace Report

variable {α : Type}

/-! ### Gathering -/

/-- A check passes when it found nothing; otherwise what it found is one report. -/
def gather (location : String) (reports : List (Report α)) : Except (Report α) Unit :=
  if reports.isEmpty then .ok () else .error (.group location reports)

theorem gather_eq_ok {location : String} {reports : List (Report α)} :
    gather location reports = .ok () ↔ reports = [] := by
  cases reports <;> simp [gather]

theorem gather_eq_error {location : String} {reports : List (Report α)} {report : Report α} :
    gather location reports = .error report ↔ reports ≠ [] ∧ report = .group location reports := by
  cases reports <;> simp [gather, eq_comm]

def found {β : Type} : Except (Report α) β → List (Report α)
  | .ok _ => []
  | .error report => [report]

/-! ### The violations of a report -/

mutual

/-- Every violation of a report, in order. -/
def violations : Report α → List α
  | .leaf violation => [violation]
  | .group _ reports => violationsOf reports
  termination_by structural r => r

def violationsOf : List (Report α) → List α
  | [] => []
  | report :: rest => violations report ++ violationsOf rest
  termination_by structural rs => rs

end

theorem violationsOf_eq_flatMap (reports : List (Report α)) :
    violationsOf reports = reports.flatMap violations := by
  induction reports with
  | nil => rfl
  | cons report rest ih => rw [violationsOf, ih, List.flatMap_cons]

@[simp] theorem violations_leaf (violation : α) : (leaf violation).violations = [violation] := rfl

@[simp] theorem violations_group (location : String) (reports : List (Report α)) :
    (group location reports).violations = reports.flatMap violations :=
  violationsOf_eq_flatMap reports

/-! ### Reports as text -/

/-- Put a tab after every line break. -/
def indent (text : String) : String :=
  String.ofList (text.toList.flatMap fun c => if c = '\n' then ['\n', '\t'] else [c])

mutual

/-- A report as text: the message of a violation, or the heading of a group and below it every
report of the group, one tab further in. -/
def text [Worded α] : Report α → String
  | .leaf violation => Worded.message violation
  | .group location reports => Worded.heading α location reports.length ++ textBelow reports
  termination_by structural r => r

def textBelow [Worded α] : List (Report α) → String
  | [] => ""
  | report :: rest => "\n\t" ++ indent (text report) ++ textBelow rest
  termination_by structural rs => rs

end

theorem textBelow_eq_join [Worded α] (reports : List (Report α)) :
    textBelow reports = String.join (reports.map fun report => "\n\t" ++ indent report.text) := by
  induction reports with
  | nil => simp [textBelow]
  | cons report rest ih => rw [textBelow, ih, List.map_cons, String.join_cons]

end Report

end IdentitySchema
