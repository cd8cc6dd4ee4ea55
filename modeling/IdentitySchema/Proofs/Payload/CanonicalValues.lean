/-
  IdentitySchema/Proofs/Payload/CanonicalValues.lean
  ==================================================
  **Canonical values are matched exactly, or up to lower-casing.**  A string
  attribute with canonical values takes a text if it is one of them; unless the
  attribute is case-exact, a text that agrees with one of them in lower case
  will do (`takes_exact_iff`, `takes_folded_iff`).

  All that is said of the second way to match follows from lower-casing being
  idempotent (`Text.lowerCase_lowerCase`): the texts fall into classes, and a
  text is as good as its lower-case form, on either side of the comparison.
-/
import IdentitySchema.Proofs.Payload.Violations
import IdentitySchema.Proofs.Text.LowerCase

namespace IdentitySchema

namespace Characteristics

/-- The characteristics with some canonical values, which are matched exactly or up to case. -/
def withCanonical (traits : Characteristics) (canonical : List String) (caseExact : Bool) :
    Characteristics :=
  { traits with canonicalValues := .valid (some canonical), caseExact := .valid caseExact }

/-- A string attribute with these canonical values takes the text for one value. -/
def Takes (traits : Characteristics) (canonical : List String) (caseExact : Bool)
    (text : String) : Prop :=
  ∀ cardinality : Cardinality,
    (Attribute.simple (traits.withCanonical canonical caseExact) cardinality .string).checkOne
      (.string text) = .ok ()

variable {traits : Characteristics} {canonical : List String} {text : String}

theorem takes_iff {caseExact : Bool} :
    traits.Takes canonical caseExact text ↔
      (traits.withCanonical canonical caseExact).allows text = true := by
  have hcheck : ∀ cardinality : Cardinality,
      (Attribute.simple (traits.withCanonical canonical caseExact) cardinality .string).checkOne
          (.string text) = .ok () ↔
        (traits.withCanonical canonical caseExact).allows text = true := by
    intro cardinality
    rw [Attribute.checkOne, SimpleForm.check_eq_expect, expect_eq_ok_iff]
    rfl
  constructor
  · intro h
    exact (hcheck .one).mp (h .one)
  · intro h cardinality
    exact (hcheck cardinality).mpr h

/-- With canonical values, a text is allowed if it is folded to what one of them is folded to. -/
theorem takes_iff_exists {caseExact : Bool} (hsome : canonical ≠ []) :
    traits.Takes canonical caseExact text ↔
      ∃ value ∈ canonical, (traits.withCanonical canonical caseExact).fold value =
        (traits.withCanonical canonical caseExact).fold text := by
  have hcanonical : (traits.withCanonical canonical caseExact).canonicalValues? = some canonical :=
    rfl
  rw [takes_iff, allows, hcanonical]
  simp [hsome]

theorem takes_exact_iff (hsome : canonical ≠ []) :
    traits.Takes canonical true text ↔ text ∈ canonical := by
  have hfold : (traits.withCanonical canonical true).fold = id := rfl
  rw [takes_iff_exists hsome, hfold]
  simp

theorem takes_folded_iff (hsome : canonical ≠ []) :
    traits.Takes canonical false text ↔
      ∃ value ∈ canonical, Text.lowerCase value = Text.lowerCase text := by
  have hfold : (traits.withCanonical canonical false).fold = Text.lowerCase := rfl
  rw [takes_iff_exists hsome, hfold]

theorem takes_folded_congr {other : String} (hsome : canonical ≠ [])
    (h : Text.lowerCase text = Text.lowerCase other) :
    traits.Takes canonical false text ↔ traits.Takes canonical false other := by
  rw [takes_folded_iff hsome, takes_folded_iff hsome, h]

theorem takes_folded_map (hsome : canonical ≠ []) :
    traits.Takes (canonical.map Text.lowerCase) false text ↔ traits.Takes canonical false text := by
  have hmapped : canonical.map Text.lowerCase ≠ [] := mt List.map_eq_nil_iff.mp hsome
  rw [takes_folded_iff hmapped, takes_folded_iff hsome]
  simp [Text.lowerCase_lowerCase]

end Characteristics

/-- **Canonical values up to case.**  Every canonical value is taken, whether the attribute is
case-exact or not. A case-exact attribute takes the canonical values and nothing else, and what it
takes is also taken up to case. Up to case, a text is taken exactly when a canonical value has the
same lower-case form; so it is taken exactly when its lower-case form is, texts with one lower-case
form are taken or refused alike, and it makes no difference if the canonical values are put in
lower case beforehand. -/
theorem Attribute.canonical_values_up_to_case (traits : Characteristics) {canonical : List String}
    (hsome : canonical ≠ []) (text : String) :
    (∀ value ∈ canonical, traits.Takes canonical true value ∧ traits.Takes canonical false value) ∧
    (traits.Takes canonical true text ↔ text ∈ canonical) ∧
    (traits.Takes canonical true text → traits.Takes canonical false text) ∧
    (traits.Takes canonical false text ↔
      ∃ value ∈ canonical, Text.lowerCase value = Text.lowerCase text) ∧
    (traits.Takes canonical false text ↔ traits.Takes canonical false (Text.lowerCase text)) ∧
    (∀ other, Text.lowerCase text = Text.lowerCase other →
      (traits.Takes canonical false text ↔ traits.Takes canonical false other)) ∧
    (traits.Takes (canonical.map Text.lowerCase) false text ↔
      traits.Takes canonical false text) := by
  have hexact : ∀ value, traits.Takes canonical true value ↔ value ∈ canonical := fun value =>
    Characteristics.takes_exact_iff hsome
  have hfolded : ∀ value ∈ canonical, traits.Takes canonical false value := by
    intro value hvalue
    exact (Characteristics.takes_folded_iff hsome).mpr ⟨value, hvalue, rfl⟩
  refine ⟨?_, hexact text, ?_, Characteristics.takes_folded_iff hsome, ?_, ?_,
    Characteristics.takes_folded_map hsome⟩
  · intro value hvalue
    exact ⟨(hexact value).mpr hvalue, hfolded value hvalue⟩
  · intro h
    exact hfolded text ((hexact text).mp h)
  · exact Characteristics.takes_folded_congr hsome (Text.lowerCase_lowerCase text).symm
  · intro other h
    exact Characteristics.takes_folded_congr hsome h

/-- What a street can be called. -/
def streetTitles : List String := ["ΟΔΟΣ", "İstiklal"]

/-- The characteristics of the title of a street. -/
def streetTraits : Characteristics :=
  .ofFragment .string ⟨.root "urn:street", false, false⟩
    [("canonicalValues", .array (streetTitles.map .string)), ("name", .string "title")]

/-- In lower case the word for a street ends with a final sigma, and yet it is taken up to case;
exactly it is not. -/
theorem street_title_taken_up_to_case :
    streetTitles ≠ [] ∧ streetTraits.Takes streetTitles true "ΟΔΟΣ" ∧
      ¬ streetTraits.Takes streetTitles true "οδος" ∧
      streetTraits.Takes streetTitles false "οδος" ∧
      streetTraits.Takes streetTitles false "i̇STIKLAL" := by
  have hsome : streetTitles ≠ [] := List.cons_ne_nil _ _
  have hstreet := Attribute.canonical_values_up_to_case streetTraits hsome "οδος"
  obtain ⟨hcanonical, hexact, -, hfolded, -⟩ := hstreet
  have havenue := Attribute.canonical_values_up_to_case streetTraits hsome "i̇STIKLAL"
  obtain ⟨-, -, -, havenue, -⟩ := havenue
  refine ⟨hsome, (hcanonical _ List.mem_cons_self).1, ?_, ?_, ?_⟩
  · rw [hexact]
    decide
  · exact hfolded.mpr ⟨"ΟΔΟΣ", List.mem_cons_self, by decide +kernel⟩
  · exact havenue.mpr ⟨"İstiklal", List.mem_cons_of_mem _ List.mem_cons_self, by decide +kernel⟩

end IdentitySchema
