/-
  IdentitySchema/Proofs/Document/AttributeNames.lean
  ==================================================
  **Names of attributes and the rule they are held to.**  The message on a bad
  name states the rule: a letter, and then any number of `$`, `-`, `_`, digits
  and letters (`ruledNames`).  What is tested is a wider grammar, which takes
  any word character after the letter, and these range over all of Unicode.

  The two grammars agree on ASCII and nowhere else (`mem_ruledNames_iff`).  So
  an attribute of a constructed schema has a name of the rule, or is the `$ref`
  of a reference, exactly when its name is ASCII
  (`Schema.declared_name_follows_rule_iff`), and there is a schema whose names
  are not (`Schema.ware_breaks_rule`).
-/
import IdentitySchema.Proofs.Document.Constructed

namespace IdentitySchema

/-! ### The rule -/

namespace Name

open scoped Computability

/-- `"$" / "-" / "_" / DIGIT / ALPHA` -/
def isRuledChar (c : Char) : Bool :=
  c == '$' || c == '-' || c == '_' || c.isDigit || c.isAlpha

/-- `ALPHA *(nameChar)` -/
def ruledNames : Language Char :=
  oneOf Char.isAlpha * (oneOf isRuledChar)∗

def IsAscii (word : List Char) : Prop := ∀ c ∈ word, c.toNat < 0x80

-- Written out: what is decided is the word, not every character there is.
instance (word : List Char) : Decidable (IsAscii word) :=
  List.decidableBAll (fun c : Char => c.toNat < 0x80) word

theorem mem_ruledNames {word : List Char} :
    word ∈ ruledNames ↔
      ∃ first rest, word = first :: rest ∧ first.isAlpha = true ∧
        ∀ c ∈ rest, isRuledChar c = true := by
  simp only [ruledNames, mem_oneOf_mul, mem_kstar_oneOf]

theorem mem_attributeNames {word : List Char} :
    word ∈ attributeNames ↔
      ∃ first rest, word = first :: rest ∧ first.isAlpha = true ∧
        ∀ c ∈ rest, isNameChar c = true := by
  simp only [attributeNames, mem_oneOf_mul, mem_kstar_oneOf]

theorem toNat_lt_of_val_le {c last : Char} (h : c.val ≤ last.val) (hlast : last.toNat < 0x80) :
    c.toNat < 0x80 :=
  Nat.lt_of_le_of_lt (UInt32.le_iff_toNat_le.mp h) hlast

theorem toNat_lt_of_isAlpha {c : Char} (h : c.isAlpha = true) : c.toNat < 0x80 := by
  have hcase : (c.isUpper || c.isLower) = true := h
  rcases Bool.or_eq_true_iff.mp hcase with hupper | hlower
  · have hbounds : c.val ≥ 'A'.val ∧ c.val ≤ 'Z'.val := of_decide_eq_true hupper
    exact toNat_lt_of_val_le hbounds.2 (by decide)
  · obtain ⟨-, hlast⟩ := Bool.and_eq_true_iff.mp hlower
    have hbound : c.val ≤ 'z'.val := of_decide_eq_true hlast
    exact toNat_lt_of_val_le hbound (by decide)

theorem toNat_lt_of_isDigit {c : Char} (h : c.isDigit = true) : c.toNat < 0x80 := by
  obtain ⟨-, hlast⟩ := Bool.and_eq_true_iff.mp h
  have hbound : c.val ≤ '9'.val := of_decide_eq_true hlast
  exact toNat_lt_of_val_le hbound (by decide)

/-- The characters of the rule are the name characters of ASCII. -/
theorem isRuledChar_iff {c : Char} :
    isRuledChar c = true ↔ isNameChar c = true ∧ c.toNat < 0x80 := by
  have hword : c.toNat < 0x80 → Text.isWordChar c = (c.isAlphanum || c == '_') := by
    intro hascii
    rw [Text.isWordChar, if_pos hascii]
  constructor
  · intro h
    have hascii : c.toNat < 0x80 := by
      simp only [isRuledChar, Bool.or_eq_true, beq_iff_eq] at h
      rcases h with (((rfl | rfl) | rfl) | hdigit) | halpha
      · decide
      · decide
      · decide
      · exact toNat_lt_of_isDigit hdigit
      · exact toNat_lt_of_isAlpha halpha
    refine ⟨?_, hascii⟩
    rw [isNameChar, hword hascii, Char.isAlphanum]
    simp only [isRuledChar, Bool.or_eq_true] at h ⊢
    tauto
  · rintro ⟨h, hascii⟩
    rw [isNameChar, hword hascii, Char.isAlphanum] at h
    simp only [isRuledChar, Bool.or_eq_true] at h ⊢
    tauto

/-- The rule is the tested grammar within ASCII. -/
theorem mem_ruledNames_iff {word : List Char} :
    word ∈ ruledNames ↔ word ∈ attributeNames ∧ IsAscii word := by
  rw [mem_ruledNames, mem_attributeNames]
  constructor
  · rintro ⟨first, rest, rfl, hfirst, hrest⟩
    refine ⟨⟨first, rest, rfl, hfirst, fun c hc => (isRuledChar_iff.mp (hrest c hc)).1⟩, ?_⟩
    intro c hc
    rcases List.mem_cons.mp hc with rfl | hc
    · exact toNat_lt_of_isAlpha hfirst
    · exact (isRuledChar_iff.mp (hrest c hc)).2
  · rintro ⟨⟨first, rest, rfl, hfirst, hrest⟩, hascii⟩
    refine ⟨first, rest, rfl, hfirst, fun c hc => ?_⟩
    exact isRuledChar_iff.mpr ⟨hrest c hc, hascii c (List.mem_cons_of_mem _ hc)⟩

end Name

/-! ### Names of declared attributes -/

namespace Schema

variable {s : Schema} {a : Attribute}

/-- **Names follow the rule as far as they are ASCII.**  Every attribute of a schema, and every
sub-attribute, has a name that begins with a letter and goes on with name characters, or is the
`$ref` of a reference. The name follows the rule that the message on bad names states, or is that
exception, exactly when all of it is ASCII. -/
theorem declared_name_follows_rule_iff (ha : s.Declares a) :
    ∃ name, a.name? = some name ∧
      (name.toList ∈ Name.attributeNames ∨ a.type = .reference ∧ name = "$ref") ∧
      ((name.toList ∈ Name.ruledNames ∨ a.type = .reference ∧ name = "$ref") ↔
        Name.IsAscii name.toList) := by
  obtain ⟨name, hname, hgrammar⟩ := Attribute.exists_name_of_checkShape ha.checkShape_eq_ok
  refine ⟨name, ?_, hgrammar, ?_⟩
  · rw [Attribute.name?, Characteristics.name?, hname]
    rfl
  · rw [Name.mem_ruledNames_iff]
    constructor
    · rintro (⟨-, hascii⟩ | ⟨-, rfl⟩)
      · exact hascii
      · decide
    · intro hascii
      rcases hgrammar with hgrammar | hreference
      · exact Or.inl ⟨hgrammar, hascii⟩
      · exact Or.inr hreference

/-- A schema of wares: a ware has a size, which is named in German. -/
def wareDocument : Json.Members :=
  [("attributes", .array [.object [("name", .string "größe"), ("type", .string "integer")]]),
    ("id", .string "urn:ware")]

def ware : Schema where
  toDeclaration := .ofDocument .resource wareDocument (attempts wareDocument)
  wellShaped := by decide

theorem ofDocument_wareDocument : ofDocument .resource wareDocument = .ok ware := rfl

def wareSize : Attribute :=
  .simple (.ofFragment .integer ⟨.root "urn:ware", false, false⟩
    [("name", .string "größe"), ("type", .string "integer")]) .one .integer

theorem ware_declares_wareSize : ware.Declares wareSize := Or.inl List.mem_cons_self

/-- The size of a ware has a name that breaks the rule, and yet the schema is built. -/
theorem ware_breaks_rule :
    ∃ s : Schema, s.Constructed ∧ ∃ a, s.Declares a ∧ ∀ name, a.name? = some name →
      ¬ (name.toList ∈ Name.ruledNames ∨ a.type = .reference ∧ name = "$ref") := by
  refine ⟨ware, .document ofDocument_wareDocument, wareSize, ware_declares_wareSize, ?_⟩
  intro name hname hrule
  cases hname
  rcases hrule with hrule | ⟨htype, -⟩
  · have hascii := (Name.mem_ruledNames_iff.mp hrule).2
    revert hascii
    decide
  · cases htype

/-- The name of the size of a ware is in the tested grammar, and the rule fails it for what is not
ASCII. -/
theorem wareSize_follows_tested_grammar :
    ware.Declares wareSize ∧ wareSize.name? = some "größe" ∧
      "größe".toList ∈ Name.attributeNames ∧ "größe".toList ∉ Name.ruledNames := by
  obtain ⟨name, hname, hgrammar, hrule⟩ := declared_name_follows_rule_iff ware_declares_wareSize
  cases hname
  have hnot : ¬ Name.IsAscii "größe".toList := by decide
  refine ⟨ware_declares_wareSize, rfl, ?_, fun h => hnot (hrule.mp (Or.inl h))⟩
  rcases hgrammar with hgrammar | ⟨htype, -⟩
  · exact hgrammar
  · cases htype

end Schema

end IdentitySchema
