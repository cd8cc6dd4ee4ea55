/-
  IdentitySchema/Proofs/Names.lean
  ================================
  **The grammars of names as regular languages.**  The grammars are stated
  with concatenation and repetition over classes of characters, and each of
  the three tests of `Name` decides its language.
-/
import IdentitySchema.Name
import Mathlib.Computability.Language

namespace IdentitySchema.Name

open scoped Computability

/-! ### Classes of characters -/

/-- The words of one character from a class. -/
def oneOf (p : Char → Bool) : Language Char := {word | ∃ c, word = [c] ∧ p c = true}

theorem mem_oneOf {p : Char → Bool} {word : List Char} :
    word ∈ oneOf p ↔ ∃ c, word = [c] ∧ p c = true := Iff.rfl

theorem mem_kstar_oneOf {p : Char → Bool} {word : List Char} :
    word ∈ (oneOf p)∗ ↔ ∀ c ∈ word, p c = true := by
  rw [Language.mem_kstar]
  constructor
  · rintro ⟨pieces, rfl, hpieces⟩ c hc
    obtain ⟨piece, hpiece, hc⟩ := List.mem_flatten.mp hc
    obtain ⟨d, rfl, hd⟩ := mem_oneOf.mp (hpieces piece hpiece)
    rw [List.mem_singleton.mp hc]
    exact hd
  · intro h
    refine ⟨word.map fun c => [c], ?_, ?_⟩
    · rw [← List.flatMap_def, List.flatMap_singleton']
    · intro piece hpiece
      obtain ⟨c, hc, rfl⟩ := List.mem_map.mp hpiece
      exact mem_oneOf.mpr ⟨c, rfl, h c hc⟩

theorem mem_oneOf_mul {p : Char → Bool} {l : Language Char} {word : List Char} :
    word ∈ oneOf p * l ↔ ∃ c rest, word = c :: rest ∧ p c = true ∧ rest ∈ l := by
  rw [Language.mem_mul]
  constructor
  · rintro ⟨_, hfirst, rest, hrest, rfl⟩
    obtain ⟨c, rfl, hc⟩ := mem_oneOf.mp hfirst
    exact ⟨c, rest, rfl, hc, hrest⟩
  · rintro ⟨c, rest, rfl, hc, hrest⟩
    exact ⟨[c], mem_oneOf.mpr ⟨c, rfl, hc⟩, rest, hrest, rfl⟩

theorem mem_mul_oneOf {p : Char → Bool} {l : Language Char} {word : List Char} :
    word ∈ l * oneOf p ↔ ∃ start c, word = start ++ [c] ∧ start ∈ l ∧ p c = true := by
  rw [Language.mem_mul]
  constructor
  · rintro ⟨start, hstart, _, hlast, rfl⟩
    obtain ⟨c, rfl, hc⟩ := mem_oneOf.mp hlast
    exact ⟨start, c, rfl, hstart, hc⟩
  · rintro ⟨start, c, rfl, hstart, hc⟩
    exact ⟨start, hstart, [c], mem_oneOf.mpr ⟨c, rfl, hc⟩, rfl⟩

/-! ### The grammars -/

/-- `^[A-Za-z][$\-_\w]*$` -/
def attributeNames : Language Char :=
  oneOf Char.isAlpha * (oneOf isNameChar)∗

/-- `^[A-Za-z][A-Za-z\s]*[$\-_\w]$` -/
def resourceSchemaNames : Language Char :=
  oneOf Char.isAlpha * ((oneOf fun c => c.isAlpha || Text.isBlank c)∗ * oneOf isNameChar)

/-- `^\w*[$\-_\w]$` -/
def serviceProviderNames : Language Char :=
  (oneOf Text.isWordChar)∗ * oneOf isNameChar

theorem isAttributeName_iff {name : String} :
    isAttributeName name = true ↔ name.toList ∈ attributeNames := by
  rw [attributeNames, mem_oneOf_mul, isAttributeName]
  cases name.toList with
  | nil => simp
  | cons first rest => simp [mem_kstar_oneOf]

/-- A word that is not empty ends in one character after its beginning. -/
theorem mem_kstar_mul_oneOf {p q : Char → Bool} {word : List Char} (hne : word ≠ []) :
    word ∈ (oneOf p)∗ * oneOf q ↔
      (∀ c ∈ word.dropLast, p c = true) ∧ q (word.getLast hne) = true := by
  rw [mem_mul_oneOf]
  constructor
  · rintro ⟨start, c, rfl, hstart, hc⟩
    rw [List.dropLast_concat, List.getLast_concat]
    exact ⟨mem_kstar_oneOf.mp hstart, hc⟩
  · rintro ⟨hstart, hlast⟩
    exact ⟨word.dropLast, word.getLast hne, (List.dropLast_append_getLast hne).symm,
      mem_kstar_oneOf.mpr hstart, hlast⟩

theorem not_nil_mem_kstar_mul_oneOf {p q : Char → Bool} :
    ([] : List Char) ∉ (oneOf p)∗ * oneOf q := by
  rw [mem_mul_oneOf]
  rintro ⟨start, c, hnil, -, -⟩
  exact absurd hnil.symm (by simp)

theorem isResourceSchemaName_iff {name : String} :
    isResourceSchemaName name = true ↔ name.toList ∈ resourceSchemaNames := by
  rw [resourceSchemaNames, mem_oneOf_mul, isResourceSchemaName]
  cases name.toList with
  | nil => simp
  | cons first rest =>
    cases rest with
    | nil => simp [not_nil_mem_kstar_mul_oneOf]
    | cons next rest =>
      simp only [List.cons.injEq, exists_eq_left', mem_kstar_mul_oneOf (List.cons_ne_nil next rest),
        Bool.and_eq_true, List.all_eq_true, and_assoc, exists_and_left]

theorem isServiceProviderName_iff {name : String} :
    isServiceProviderName name = true ↔ name.toList ∈ serviceProviderNames := by
  rw [serviceProviderNames, isServiceProviderName]
  cases name.toList with
  | nil => simp [not_nil_mem_kstar_mul_oneOf]
  | cons first rest =>
    simp only [mem_kstar_mul_oneOf (List.cons_ne_nil first rest), Bool.and_eq_true,
      List.all_eq_true]

end IdentitySchema.Name
