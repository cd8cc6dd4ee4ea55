/-
  IdentitySchema/Text/CodeSet.lean
  ================================
  **Sets of code points.**  A character class of the Unicode character
  database is kept as a list of closed ranges of code points; this module
  says when a character lies in such a list.
-/

namespace IdentitySchema.Text

/-- A set of code points, as closed ranges in increasing order. -/
abbrev CodeSet := List (Nat × Nat)

def CodeSet.contains (set : CodeSet) (code : Nat) : Bool :=
  set.any fun range => range.1 ≤ code && code ≤ range.2

theorem CodeSet.contains_iff {set : CodeSet} {code : Nat} :
    set.contains code = true ↔ ∃ range ∈ set, range.1 ≤ code ∧ code ≤ range.2 := by
  simp [CodeSet.contains]

end IdentitySchema.Text
