/-
  IdentitySchema/Proofs/Anchors.lean
  ==================================
  **Reports that keep to their places.**  A violation can say at which path it
  was found, and a group is located at the text of one.  A report is anchored
  at a path if everything in it is there or further down: what is reported for
  the parts of something stands at that thing's path or extends it, level by
  level.  Which paths there are (`At`) and when a violation is said of one
  (`Says`) is left open here.

  A proof about a check shows that what it reports is anchored, one rule for a
  violation and one for a group.  What follows for the nodes inside a report is
  here (`Anchored.of_group_within`).
-/
import IdentitySchema.Proofs.Fragment.Linked

namespace IdentitySchema.Report

variable {α : Type}

/-- The report is at the path: a violation is said of the path, and a group is located at its
text. -/
def IsAt (At : Locator → Prop) (Says : Locator → α → Prop) (path : Locator) : Report α → Prop
  | .leaf violation => Says path violation
  | .group location _ => At path ∧ location = path.text

/-- Everything in the report is at `top` or further down, and nothing in a group leaves the path of
the group. -/
inductive Anchored (At : Locator → Prop) (Says : Locator → α → Prop) : Locator → Report α → Prop
  | leaf {top path : Locator} {violation : α} (habove : top.Covers path)
      (hsaid : Says path violation) : Anchored At Says top (.leaf violation)
  | group {top path : Locator} {reports : List (Report α)} (habove : top.Covers path)
      (hat : At path) (hbelow : ∀ report ∈ reports, Anchored At Says path report) :
      Anchored At Says top (.group path.text reports)

namespace Anchored

variable {At : Locator → Prop} {Says : Locator → α → Prop} {top : Locator} {report : Report α}

theorem mono {upper : Locator} (hcovers : upper.Covers top) (h : Anchored At Says top report) :
    Anchored At Says upper report := by
  cases h with
  | leaf habove hsaid => exact .leaf (hcovers.trans habove) hsaid
  | group habove hat hbelow => exact .group (hcovers.trans habove) hat hbelow

theorem exists_isAt (h : Anchored At Says top report) :
    ∃ path, top.Covers path ∧ report.IsAt At Says path := by
  cases h with
  | leaf habove hsaid => exact ⟨_, habove, hsaid⟩
  | group habove hat _ => exact ⟨_, habove, hat, rfl⟩

theorem within {node : Report α} (hnode : Within node report) (h : Anchored At Says top report) :
    Anchored At Says top node := by
  induction hnode generalizing top with
  | whole => exact h
  | inside hchild _ ih =>
    cases h with
    | group habove _ hbelow => exact (ih (hbelow _ hchild)).mono habove

theorem exists_says (h : Anchored At Says top report) :
    ∀ violation ∈ report.violations, ∃ path, Says path violation := by
  induction h with
  | leaf _ hsaid =>
    intro violation hviolation
    rw [violations_leaf, List.mem_singleton] at hviolation
    rw [hviolation]
    exact ⟨_, hsaid⟩
  | group _ _ _ ih =>
    intro violation hviolation
    rw [violations_group] at hviolation
    obtain ⟨child, hchild, hviolation⟩ := List.mem_flatMap.mp hviolation
    exact ih child hchild violation hviolation

/-- Inside a group, everything is at the path of the group or further down. -/
theorem of_group_within {location : String} {reports : List (Report α)}
    (hnode : Within (.group location reports) report) (h : Anchored At Says top report) :
    ∃ path, At path ∧ location = path.text ∧ ∀ child ∈ reports, ∀ node, Within node child →
      ∃ lower, path.Covers lower ∧ node.IsAt At Says lower := by
  cases h.within hnode with
  | group _ hat hbelow =>
    refine ⟨_, hat, rfl, fun child hchild node hinside => ?_⟩
    exact ((hbelow child hchild).within hinside).exists_isAt

end Anchored

end IdentitySchema.Report
