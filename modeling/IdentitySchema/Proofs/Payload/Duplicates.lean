/-
  IdentitySchema/Proofs/Payload/Duplicates.lean
  =============================================
  **Values of a list that must differ.**  An attribute of many values can ask
  that they differ.  What is held against each other are not the items but
  what they signify (`Signifies`): an object of a complex attribute signifies
  its member `value`, every other item itself; a null signifies nothing, and
  placeholders are left out.

  A list is reported for repetition exactly when two of its items signify
  equal values (`Repeats`), once and before everything that is said of single
  items.  The report shows the first value of each class of equal ones that
  has two or more (`duplicates_reported`).

  That no item brings up the same report again is a matter of paths: what is
  found in an item is about the attribute of one value, which takes no list,
  or about a sub-attribute, which stands further down (`Linked`).
-/
import IdentitySchema.Proofs.Fragment.Linked
import IdentitySchema.Proofs.Payload.Violations
import IdentitySchema.Proofs.Values.Classes

namespace IdentitySchema

open Report

/-! ### What an item signifies -/

/-- The value is what an item of a list is held against the others by. -/
inductive Attribute.Signifies (a : Attribute) : Json → Json → Prop
  | member {item value : Json} (hcomplex : a.type = .complex)
      (hvalue : item.get? "value" = some value) (hnull : value ≠ .null) : a.Signifies item value
  | itself {item : Json} (hsimple : a.type ≠ .complex) (hnull : item ≠ .null) :
      a.Signifies item item

/-- Two items at different positions, no placeholders, signify equal values. -/
inductive Attribute.Repeats (a : Attribute) (items : List Json) : Prop
  | intro {i j : Nat} {x y v w : Json} (hne : i ≠ j)
      (hx : items[i]? = some x) (hy : items[j]? = some y)
      (hxpresent : x.isPlaceholder = false) (hypresent : y.isPlaceholder = false)
      (hv : a.Signifies x v) (hw : a.Signifies y w) (hsame : Json.same v w = true)

/-- What the items of a list signify, in order. -/
def Attribute.significantValues (a : Attribute) (items : List Json) : List Json :=
  (Json.presentItems items).filterMap a.significant?

/-- What is found in the items of a list, one after the other. -/
def Attribute.itemViolations (a : Attribute) (items : List Json) : List PayloadViolation :=
  (Json.presentItems items).flatMap fun item => listed (a.element.checkValue item)

theorem Json.isNull_eq_false_iff {value : Json} : value.isNull = false ↔ value ≠ .null := by
  cases value with
  | null => simp [Json.isNull]
  | _ => simp [Json.isNull]

theorem SimpleForm.type_ne_complex (form : SimpleForm) : form.type ≠ .complex := by
  cases form <;> simp [SimpleForm.type]

namespace Attribute

variable {a : Attribute} {items : List Json}

theorem significant?_eq_some_iff {item value : Json} :
    a.significant? item = some value ↔ a.Signifies item value := by
  cases a with
  | simple traits cardinality form =>
    have hsimple : (Attribute.simple traits cardinality form).type ≠ .complex :=
      form.type_ne_complex
    simp only [significant?, Option.filter_eq_some_iff, Option.some.injEq, Bool.not_eq_true',
      Json.isNull_eq_false_iff]
    constructor
    · rintro ⟨rfl, hnull⟩
      exact .itself hsimple hnull
    · intro h
      cases h with
      | member hcomplex => exact absurd hcomplex hsimple
      | itself _ hnull => exact ⟨rfl, hnull⟩
  | complex traits cardinality subAttributes =>
    simp only [significant?, Option.filter_eq_some_iff, Bool.not_eq_true',
      Json.isNull_eq_false_iff]
    constructor
    · rintro ⟨hvalue, hnull⟩
      exact .member rfl hvalue hnull
    · intro h
      cases h with
      | member _ hvalue hnull => exact ⟨hvalue, hnull⟩
      | itself hsimple => exact absurd rfl hsimple

/-- The significant values of a list differ unless two items signify equal ones. -/
theorem distinct_significantValues_iff :
    Json.Distinct (a.significantValues items) ↔ ¬ a.Repeats items := by
  unfold Json.Distinct significantValues Json.presentItems
  rw [List.pairwise_filterMap, List.pairwise_filter, List.pairwise_iff_getElem]
  constructor
  · intro hpairs hrepeats
    cases hrepeats with
    | @intro i j x y v w hne hx hy hxpresent hypresent hv hw hsame =>
      obtain ⟨hi, rfl⟩ := List.getElem?_eq_some_iff.mp hx
      obtain ⟨hj, rfl⟩ := List.getElem?_eq_some_iff.mp hy
      have hv := significant?_eq_some_iff.mpr hv
      have hw := significant?_eq_some_iff.mpr hw
      rcases Nat.lt_or_gt_of_ne hne with hlt | hlt
      · have hapart := hpairs i j hi hj hlt (by simp [hxpresent]) (by simp [hypresent]) v hv w hw
        rw [hapart] at hsame
        cases hsame
      · have hapart := hpairs j i hj hi hlt (by simp [hypresent]) (by simp [hxpresent]) w hw v hv
        rw [Json.same_comm, hapart] at hsame
        cases hsame
  · intro hnone i j hi hj hlt hxpresent hypresent v hv w hw
    rw [← Bool.not_eq_true]
    intro hsame
    apply hnone
    exact .intro (Nat.ne_of_lt hlt) (List.getElem?_eq_getElem hi) (List.getElem?_eq_getElem hj)
      (by simpa using hxpresent) (by simpa using hypresent) (significant?_eq_some_iff.mp hv)
      (significant?_eq_some_iff.mp hw) hsame

end Attribute

/-! ### Where the violations of an item stand -/

theorem Reached.path?_of_mem_violations {r : Reached} {violation : PayloadViolation}
    (h : violation ∈ r.violations) : violation.path? = some r.subject.path := by
  simp only [violations, missing, mistaken, repeats, List.mem_append] at h
  rcases h with (h | h) | h
  · split at h
    · rw [List.mem_singleton.mp h]
      rfl
    · cases h
  · split at h
    · cases h
    · split at h
      · cases h
      · rw [List.mem_singleton.mp h]
        rfl
  · split at h
    · rw [List.mem_singleton.mp h]
      rfl
    · cases h

namespace Attribute.Linked

/-- The subject of a pair stands where an attribute of a linked tree does, and has its
sub-attributes. -/
def Holds (r : Reached) : Prop :=
  ∃ site a, Linked site a ∧ r.subject.path = a.path ∧ r.subject.subAttributes = a.subAttributes

theorem holds_lookUp {site : Site} {a : Attribute} (h : Linked site a) (holder : Json) :
    Holds (a.lookUp holder) :=
  ⟨site, a, h, rfl, rfl⟩

theorem holds_of_mem_parts {r p : Reached} (h : Holds r) (hp : p ∈ r.parts) :
    Holds p ∧ r.subject.path.Covers p.subject.path := by
  obtain ⟨site, a, hlinked, hpath, hsubs⟩ := h
  unfold Reached.parts at hp
  split at hp
  · rw [hsubs] at hp
    obtain ⟨sub, hsub, rfl⟩ := List.mem_map.mp hp
    refine ⟨holds_lookUp (hlinked.sub hsub) _, ?_⟩
    show r.subject.path.Covers sub.path
    rw [(hlinked.sub hsub).path_eq, hpath]
    exact a.path.covers_child _
  · obtain ⟨item, -, rfl⟩ := List.mem_map.mp hp
    refine ⟨⟨site, a, hlinked, ?_, ?_⟩, ?_⟩
    · exact (path_element _).trans hpath
    · exact (subAttributes_element _).trans hsubs
    · show r.subject.path.Covers r.subject.element.path
      rw [path_element]
      exact r.subject.path.covers_refl
  · cases hp

/-- What is found below a pair stands at the path of its subject or further down. -/
theorem covers_of_mem_listed_check (r : Reached) (h : Holds r) :
    ∀ violation ∈ listed r.check, ∃ path, violation.path? = some path ∧
      r.subject.path.Covers path := by
  induction r using Reached.partsInduction with
  | step r ih =>
    intro violation hviolation
    rw [Reached.listed_check] at hviolation
    rcases List.mem_append.mp hviolation with hown | hbelow
    · exact ⟨_, Reached.path?_of_mem_violations hown, r.subject.path.covers_refl⟩
    · obtain ⟨p, hp, hviolation⟩ := List.mem_flatMap.mp hbelow
      obtain ⟨hholds, hcovers⟩ := holds_of_mem_parts h hp
      obtain ⟨path, hpath, hbelow⟩ := ih p hp hholds violation hviolation
      exact ⟨path, hpath, hcovers.trans hbelow⟩

/-- What is found in a sub-attribute is not at the path of the attribute itself. -/
theorem path?_ne_of_mem_listed_lookUp {site : Site} {a sub : Attribute} (h : Linked site a)
    (hsub : sub ∈ a.subAttributes) {item : Json} {violation : PayloadViolation}
    (hviolation : violation ∈ listed (sub.lookUp item).check) :
    violation.path? ≠ some a.path := by
  obtain ⟨path, hpath, hcovers⟩ :=
    covers_of_mem_listed_check _ (holds_lookUp (h.sub hsub) item) _ hviolation
  rw [hpath]
  intro hsame
  cases hsame
  have hsubPath : sub.path = a.path.child sub.traits.nameLabel := (h.sub hsub).path_eq
  have hprefix : sub.path.segments <+: a.path.segments := hcovers
  have hlength := hprefix.length_le
  rw [hsubPath, Locator.segments_child, List.length_append, List.length_singleton] at hlength
  omega

/-- One value of an attribute leads on to its sub-attributes only. -/
theorem exists_lookUp_of_mem_parts {a : Attribute} {item holder : Json} {p : Reached}
    (hp : p ∈ Reached.parts ⟨a.element, some item, holder⟩) :
    ∃ sub ∈ a.subAttributes, p = sub.lookUp item := by
  unfold Reached.parts at hp
  split at hp
  · rename_i hvalue
    cases hvalue
    rw [subAttributes_element] at hp
    obtain ⟨sub, hsub, rfl⟩ := List.mem_map.mp hp
    exact ⟨sub, hsub, rfl⟩
  · rename_i hmany _
    rw [cardinality_element] at hmany
    cases hmany
  · cases hp

/-- No item of a list is reported for repetition at the path of the attribute itself. -/
theorem notMem_itemViolations {site : Site} {a : Attribute} (h : Linked site a)
    (items : List Json) (texts : List String) :
    PayloadViolation.duplicateValue a.path texts ∉ a.itemViolations items := by
  intro hmem
  obtain ⟨item, -, hitem⟩ := List.mem_flatMap.mp hmem
  -- Where the item was found does not matter for its check.
  have hlisted : PayloadViolation.duplicateValue a.path texts ∈
      listed (Reached.check ⟨a.element, some item, item⟩) := hitem
  rw [Reached.listed_check] at hlisted
  rcases List.mem_append.mp hlisted with hown | hbelow
  · rw [Reached.violations_one (cardinality_element a)] at hown
    unfold Reached.mistaken at hown
    split at hown
    · cases hown
    · split at hown
      · cases hown
      · cases List.mem_singleton.mp hown
  · obtain ⟨p, hp, hviolation⟩ := List.mem_flatMap.mp hbelow
    obtain ⟨sub, hsub, rfl⟩ := exists_lookUp_of_mem_parts hp
    exact path?_ne_of_mem_listed_lookUp h hsub hviolation rfl

end Attribute.Linked

/-! ### The report on repetition -/

namespace Attribute

variable {a : Attribute} {companions : Companions} {items : List Json}

/-- The report on a list names the repeated values first, if there are any that must differ, and
then goes on with the items. -/
theorem listed_checkValue_array (hmany : a.cardinality = .many companions)
    (hpresent : Json.presentItems items ≠ []) :
    listed (a.checkValue (.array items)) =
      Reached.repeats ⟨a, some (.array items), .null⟩ ++ a.itemViolations items := by
  have hlisted : listed (a.checkValue (.array items)) =
      listed (Reached.check ⟨a, some (.array items), .null⟩) := rfl
  have hmissing : Reached.missing ⟨a, some (.array items), .null⟩ = [] := by
    simp [Reached.missing, Reached.isMissing, hmany, hpresent]
  have hmistaken : Reached.mistaken ⟨a, some (.array items), .null⟩ = [] := by
    simp [Reached.mistaken, takes, hmany]
  have hparts : (Reached.parts ⟨a, some (.array items), .null⟩).flatMap
      (fun p => listed p.check) = a.itemViolations items := by
    simp only [Reached.parts, hmany, List.flatMap_map]
    rfl
  rw [hlisted, Reached.listed_check, hparts, Reached.violations, hmissing, hmistaken]
  rfl

theorem comparable_eq (hmany : a.cardinality = .many companions) (holder : Json) :
    Reached.comparable ⟨a, some (.array items), holder⟩ = a.significantValues items := by
  simp [Reached.comparable, hmany, significantValues]

theorem listed_checkValue_of_repeats (hmany : a.cardinality = .many companions)
    (hpresent : Json.presentItems items ≠ [])
    (hunique : a.traits.uniqueness.valid? = some .server ∨
      a.traits.uniqueness.valid? = some .global) (hrepeats : a.Repeats items) :
    listed (a.checkValue (.array items)) =
      .duplicateValue a.path
        ((Json.firstOfRepeated (a.significantValues items)).map Json.rendered) ::
        a.itemViolations items := by
  have hdiffer : Reached.mustDiffer ⟨a, some (.array items), .null⟩ := hunique
  have hdistinct : ¬ Json.Distinct (a.significantValues items) := fun h =>
    distinct_significantValues_iff.mp h hrepeats
  rw [listed_checkValue_array hmany hpresent, Reached.repeats, comparable_eq hmany,
    if_pos ⟨hdiffer, hdistinct⟩, Json.repeated_nil_eq_firstOfRepeated]
  rfl

theorem listed_checkValue_of_not_repeats (hmany : a.cardinality = .many companions)
    (hpresent : Json.presentItems items ≠ [])
    (h : ¬ ((a.traits.uniqueness.valid? = some .server ∨
      a.traits.uniqueness.valid? = some .global) ∧ a.Repeats items)) :
    listed (a.checkValue (.array items)) = a.itemViolations items := by
  have hnone : ¬ (Reached.mustDiffer ⟨a, some (.array items), .null⟩ ∧
      ¬ Json.Distinct (a.significantValues items)) := by
    rw [distinct_significantValues_iff, not_not]
    exact h
  rw [listed_checkValue_array hmany hpresent, Reached.repeats, comparable_eq hmany, if_neg hnone,
    List.nil_append]

/-- **Repetition is found exactly where it is.**  A list with items that are no placeholders, held
against an attribute of many values that was built from a fragment, is reported for repetition at
the path of the attribute exactly when the attribute asks for values that differ and two items
signify equal ones. The report then comes once, before everything that is said of single items. It
shows the first value of each class of equal values with two or more, in order: no class is shown
twice, none by a later value than its first, and a value that an item signifies equals one of those
shown exactly when it occurs at least twice. -/
theorem duplicates_reported {fragment : Json.Members} {site : Site}
    (hbuilt : ofFragment fragment site none = .ok a) (hmany : a.cardinality = .many companions)
    (hpresent : Json.presentItems items ≠ []) :
    ((∃ texts, .duplicateValue a.path texts ∈ listed (a.checkValue (.array items))) ↔
      (a.traits.uniqueness.valid? = some .server ∨
        a.traits.uniqueness.valid? = some .global) ∧ a.Repeats items) ∧
    ((a.traits.uniqueness.valid? = some .server ∨
        a.traits.uniqueness.valid? = some .global) ∧ a.Repeats items →
      listed (a.checkValue (.array items)) =
        .duplicateValue a.path
          ((Json.firstOfRepeated (a.significantValues items)).map Json.rendered) ::
          a.itemViolations items) ∧
    (∀ texts, .duplicateValue a.path texts ∉ a.itemViolations items) ∧
    Json.Distinct (Json.firstOfRepeated (a.significantValues items)) ∧
    (∀ first ∈ Json.firstOfRepeated (a.significantValues items), ∃ before after,
      a.significantValues items = before ++ first :: after ∧
        ∀ value ∈ before, Json.same value first = false) ∧
    ∀ value ∈ a.significantValues items,
      (∃ first ∈ Json.firstOfRepeated (a.significantValues items),
        Json.same value first = true) ↔
      2 ≤ (a.significantValues items).countP (Json.same value) := by
  have hitems := Linked.notMem_itemViolations (linked_of_ofFragment fragment site a hbuilt) items
  refine ⟨?_, ?_, hitems, Json.distinct_firstOfRepeated _, ?_, ?_⟩
  · constructor
    · rintro ⟨texts, hmem⟩
      by_contra hnone
      rw [listed_checkValue_of_not_repeats hmany hpresent hnone] at hmem
      exact hitems texts hmem
    · rintro ⟨hunique, hrepeats⟩
      rw [listed_checkValue_of_repeats hmany hpresent hunique hrepeats]
      exact ⟨_, List.mem_cons_self⟩
  · rintro ⟨hunique, hrepeats⟩
    exact listed_checkValue_of_repeats hmany hpresent hunique hrepeats
  · intro first hfirst
    exact Json.exists_split_of_mem_firstOfRepeated hfirst
  · intro value hvalue
    exact Json.exists_mem_firstOfRepeated_iff hvalue

/-- The fragment of marks, which are decimals and differ. -/
def marksFragment : Json.Members :=
  [("multiValued", .bool true), ("name", .string "marks"), ("type", .string "decimal"),
    ("uniqueness", .string "server")]

def marks : Attribute :=
  .simple (.ofFragment .decimal ⟨.root "urn:exam", true, false⟩
    (marksFragment.without companionProperties)) (.many (.ofFragment marksFragment)) .decimal

/-- A text twice and, between placeholders, the two zeros. -/
def repeatedMarks : List Json :=
  [.string "good", .number (.real (.zero false)), .null, .string "good", .object [],
    .number (.real (.zero true))]

theorem repeats_repeatedMarks : marks.Repeats repeatedMarks :=
  .intro (i := 1) (j := 5) (by decide) rfl rfl rfl rfl (.itself (by decide) (by simp))
    (.itself (by decide) (by simp)) rfl

/-- The repeated text and the first zero are shown in one violation, before the two violations of
the texts, which are no decimals. -/
theorem marks_reported_for_repetition :
    ofFragment marksFragment ⟨.root "urn:exam", false, false⟩ none = .ok marks ∧
    marks.cardinality = .many (.ofFragment marksFragment) ∧
    Json.presentItems repeatedMarks ≠ [] ∧
    (∃ texts, .duplicateValue marks.path texts ∈
      listed (marks.checkValue (.array repeatedMarks))) ∧
    listed (marks.checkValue (.array repeatedMarks)) =
      .duplicateValue marks.path ["good", "0.0"] :: marks.itemViolations repeatedMarks ∧
    (marks.itemViolations repeatedMarks).length = 2 := by
  have hbuilt : ofFragment marksFragment ⟨.root "urn:exam", false, false⟩ none = .ok marks := rfl
  have hpresent : Json.presentItems repeatedMarks ≠ [] := by
    simp [Json.presentItems, repeatedMarks, Json.isPlaceholder]
  obtain ⟨hreported, hlisted, -⟩ := duplicates_reported hbuilt rfl hpresent
  have hrepeats : (marks.traits.uniqueness.valid? = some .server ∨
      marks.traits.uniqueness.valid? = some .global) ∧ marks.Repeats repeatedMarks :=
    ⟨Or.inl rfl, repeats_repeatedMarks⟩
  refine ⟨hbuilt, rfl, hpresent, hreported.mpr hrepeats, ?_, rfl⟩
  rw [hlisted hrepeats]
  rfl

end Attribute

end IdentitySchema
