/-
  IdentitySchema/Proofs/Readers.lean
  ==================================
  **What the readers of declared properties accept.**  A property that may be
  left out reads as it should exactly when what stands under its key, if
  anything, is a value that its reader takes (`MayHave`); one that must be
  there needs such a value (`Has`).  For each reader there is one lemma that
  says which value it takes and what it makes of it, and none of the proofs
  about documents looks into a reader again.

  A term of a vocabulary has two spellings in documents, its name and an
  object with the name for its only key (`Vocabulary.Spells`).
-/
import IdentitySchema.Declared
import IdentitySchema.Vocabulary
import Mathlib.Data.Option.Basic

namespace IdentitySchema

/-! ### Members -/

namespace Json.Members

/-- What stands under a key, if anything, is as it should be. -/
def MayHave (members : Json.Members) (key : String) (p : Json → Prop) : Prop :=
  ∀ value, members.get? key = some value → p value

/-- Something stands under a key, and it is as it should be. -/
def Has (members : Json.Members) (key : String) (p : Json → Prop) : Prop :=
  ∃ value, members.get? key = some value ∧ p value

theorem get?_singleton (key : String) (value : Json) (other : String) :
    get? [(key, value)] other = if key = other then some value else none := by
  rw [get?_cons]
  rfl

theorem mayHave_of_get? {members : Json.Members} {key : String} {value : Json} {p : Json → Prop}
    (hvalue : members.get? key = some value) (hp : p value) : members.MayHave key p := by
  intro other hother
  rw [hvalue] at hother
  cases hother
  exact hp

theorem mayHave_of_get?_eq_none {members : Json.Members} {key : String} {p : Json → Prop}
    (hnone : members.get? key = none) : members.MayHave key p := by
  intro value hvalue
  rw [hnone] at hvalue
  cases hvalue

theorem get?_without {members : Json.Members} {keys : List String} {key : String}
    (hkey : key ∉ keys) : (members.without keys).get? key = members.get? key := by
  induction members with
  | nil => rfl
  | cons member rest ih =>
    obtain ⟨first, value⟩ := member
    unfold Json.Members.without at ih ⊢
    by_cases hfirst : first ∈ keys
    · have hne : first ≠ key := fun h => hkey (h ▸ hfirst)
      rw [List.filter_cons_of_neg (by simpa using hfirst), ih, get?_cons, if_neg hne]
    · rw [List.filter_cons_of_pos (by simpa using hfirst), get?_cons, get?_cons, ih]

theorem keys_without (members : Json.Members) (keys : List String) :
    (members.without keys).keys = members.keys.filter fun key => !keys.contains key := by
  unfold Json.Members.without Json.Members.keys
  rw [List.filter_map]
  rfl

theorem mem_keys_without {members : Json.Members} {keys : List String} {key : String} :
    key ∈ (members.without keys).keys ↔ key ∈ members.keys ∧ key ∉ keys := by
  rw [keys_without, List.mem_filter]
  simp

/-- Nothing is left out if none of the keys is there. -/
theorem without_eq_self {members : Json.Members} {keys : List String}
    (h : ∀ key ∈ keys, key ∉ members.keys) : members.without keys = members := by
  unfold Json.Members.without
  rw [List.filter_eq_self]
  intro member hmember
  have hnot : member.1 ∉ keys := fun hkey => h _ hkey (List.mem_map_of_mem hmember)
  simpa using hnot

theorem mayHave_without {members : Json.Members} {keys : List String} {key : String}
    {p : Json → Prop} (hkey : key ∉ keys) :
    (members.without keys).MayHave key p ↔ members.MayHave key p := by
  unfold MayHave
  rw [get?_without hkey]

theorem exists_get?_of_not_mayHave {members : Json.Members} {key : String} {p : Json → Prop}
    (h : ¬ members.MayHave key p) : ∃ value, members.get? key = some value ∧ ¬ p value := by
  simpa [MayHave] using h

theorem mayHave_congr {members : Json.Members} {key : String} {p q : Json → Prop}
    (h : ∀ value, p value ↔ q value) : members.MayHave key p ↔ members.MayHave key q :=
  forall₂_congr fun value _ => h value

theorem has_congr {members : Json.Members} {key : String} {p q : Json → Prop}
    (h : ∀ value, p value ↔ q value) : members.Has key p ↔ members.Has key q :=
  exists_congr fun value => and_congr_right fun _ => h value

theorem has_without {members : Json.Members} {keys : List String} {key : String}
    {p : Json → Prop} (hkey : key ∉ keys) :
    (members.without keys).Has key p ↔ members.Has key p := by
  unfold Has
  rw [get?_without hkey]

end Json.Members

/-! ### Readers -/

namespace Json

def IsString (value : Json) : Prop := ∃ text, value = .string text

def IsBool (value : Json) : Prop := ∃ flag, value = .bool flag

def IsStrings (value : Json) : Prop := ∃ texts : List String, value = .array (texts.map .string)

theorem bool?_eq_some {value : Json} {flag : Bool} :
    value.bool? = some flag ↔ value = .bool flag := by
  cases value with
  | bool other => simp [bool?]
  | _ => simp [bool?]

theorem string?_eq_some {value : Json} {text : String} :
    value.string? = some text ↔ value = .string text := by
  cases value with
  | string other => simp [string?]
  | _ => simp [string?]

theorem mapM_string?_eq_some {items : List Json} {texts : List String} :
    items.mapM string? = some texts ↔ items = texts.map .string := by
  induction items generalizing texts with
  | nil => cases texts <;> simp
  | cons item rest ih =>
    rw [List.mapM_cons]
    constructor
    · intro h
      obtain ⟨text, hitem, h⟩ := Option.bind_eq_some_iff.mp h
      obtain ⟨others, hrest, h⟩ := Option.bind_eq_some_iff.mp h
      cases h
      rw [string?_eq_some.mp hitem, ih.mp hrest, List.map_cons]
    · intro h
      cases texts with
      | nil => cases h
      | cons text others =>
        rw [List.map_cons, List.cons.injEq] at h
        rw [string?_eq_some.mpr h.1, ih.mpr h.2]
        rfl

theorem strings?_eq_some {value : Json} {texts : List String} :
    value.strings? = some texts ↔ value = .array (texts.map .string) := by
  cases value with
  | array items => simp [strings?, mapM_string?_eq_some]
  | _ => simp [strings?]

/-- A list of objects with `p`, seen from its items and from what is in the objects. -/
theorem forall_mem_object_iff {items : List Json} {p : Json.Members → Prop} :
    (∀ item ∈ items, ∃ members, item = .object members ∧ p members) ↔
      ∃ objects : List Json.Members, items = objects.map .object ∧
        ∀ members ∈ objects, p members := by
  constructor
  · intro h
    induction items with
    | nil => exact ⟨[], rfl, fun _ hmem => absurd hmem List.not_mem_nil⟩
    | cons item rest ih =>
      obtain ⟨members, rfl, hp⟩ := h item List.mem_cons_self
      obtain ⟨objects, rfl, hrest⟩ := ih fun other hmem => h other (List.mem_cons_of_mem _ hmem)
      exact ⟨members :: objects, rfl, List.forall_mem_cons.mpr ⟨hp, hrest⟩⟩
  · rintro ⟨objects, rfl, hobjects⟩ item hitem
    obtain ⟨members, hmem, rfl⟩ := List.mem_map.mp hitem
    exact ⟨members, rfl, hobjects members hmem⟩

theorem exists_orNull?_eq_some_and {α : Type} {read? : Json → Option α} {value : Json}
    {p : Option α → Prop} (hnull : read? .null = none) :
    (∃ read, orNull? read? value = some read ∧ p read) ↔
      (value = .null ∧ p none) ∨ ∃ a, read? value = some a ∧ p (some a) := by
  cases value with
  | null => simp [orNull?, hnull]
  | _ => simp [orNull?]

theorem exists_orNull?_eq_some {α : Type} {read? : Json → Option α} {value : Json}
    (hnull : read? .null = none) :
    (∃ read, orNull? read? value = some read) ↔ value = .null ∨ ∃ a, read? value = some a := by
  have h := @exists_orNull?_eq_some_and α read? value (fun _ => True) hnull
  simpa only [and_true] using h

end Json

/-! ### Vocabularies -/

namespace Vocabulary

/-- Every term of the vocabulary is found under its name. -/
class Lawful (α : Type) [Vocabulary α] : Prop where
  ofName?_name : ∀ term : α, ofName? (name term) = some term

instance : Lawful Mutability where
  ofName?_name term := by cases term <;> rfl

instance : Lawful Returned where
  ofName?_name term := by cases term <;> rfl

instance : Lawful Uniqueness where
  ofName?_name term := by cases term <;> rfl

instance : Lawful AttributeType where
  ofName?_name term := by cases term <;> rfl

variable {α : Type} [Vocabulary α]

/-- The two spellings of a term: its name, or an object with the name for its only key. -/
def Spells (term : α) (value : Json) : Prop :=
  value = .string (name term) ∨ value = .object [(name term, .null)]

variable [Lawful α] {term : α}

theorem ofName?_eq_some {text : String} : ofName? text = some term ↔ text = name term := by
  constructor
  · intro h
    have hname := List.find?_some h
    exact (beq_iff_eq.mp hname).symm
  · rintro rfl
    exact Lawful.ofName?_name term

theorem name_inj {other : α} : name other = name term ↔ other = term := by
  constructor
  · intro h
    have hother := ofName?_eq_some.mpr h
    rw [Lawful.ofName?_name] at hother
    exact Option.some.inj hother
  · rintro rfl
    rfl

theorem ofDocumentName_eq_ok {text : String} :
    ofDocumentName text = .ok term ↔ text = name term := by
  rw [← ofName?_eq_some, ofDocumentName]
  cases (ofName? text : Option α) with
  | none => simp
  | some other => simp

theorem read_eq_ok {value : Json} : read value = .ok term ↔ Spells term value := by
  unfold Spells
  cases value with
  | string text =>
    rw [read, ofDocumentName_eq_ok]
    simp
  | object members =>
    match members with
    | [] => simp [read]
    | [(key, inner)] =>
      rw [read]
      cases hterm : (ofDocumentName key : Except String α) with
      | error message =>
        have hne : key ≠ name term := by
          intro h
          rw [ofDocumentName_eq_ok.mpr h] at hterm
          cases hterm
        simp [hne]
      | ok other =>
        rw [ofDocumentName_eq_ok.mp hterm]
        cases inner with
        | null => simp [Json.isNull, name_inj]
        | _ => simp [Json.isNull]
    | _ :: _ :: _ => simp [read]
  | _ => simp [read]

theorem read?_eq_some {value : Json} : read? value = some term ↔ Spells term value := by
  rw [← read_eq_ok, read?]
  cases (read value : Except String α) with
  | ok other => simp [Except.toOption]
  | error message => simp [Except.toOption]

end Vocabulary

/-! ### Declared properties -/

namespace Declared

variable {α : Type}

theorem ofJson_eq_valid {read? : Json → Option α} {raw : Json} {value : α} :
    ofJson read? raw = .valid value ↔ read? raw = some value := by
  unfold ofJson
  cases read? raw with
  | none => simp
  | some other => simp

theorem ofJson_eq_invalid {read? : Json → Option α} {raw other : Json} :
    ofJson read? raw = .invalid other ↔ read? raw = none ∧ raw = other := by
  unfold ofJson
  cases read? raw with
  | none => simp
  | some value => simp

theorem mandatory_eq_valid {read? : Json → Option α} {raw? : Option Json} {value : α} :
    mandatory read? raw? = .valid value ↔ ∃ raw, raw? = some raw ∧ read? raw = some value := by
  cases raw? with
  | none => simp [mandatory]
  | some raw => simp [mandatory, ofJson_eq_valid]

/-- A property that may be left out reads as something with `p`, if what it is without an entry has
`p` too. -/
theorem exists_optional_eq_valid_and {read? : Json → Option α} {absent : α} {p : α → Prop}
    {members : Json.Members} {key : String} (habsent : p absent) :
    (∃ value, optional read? absent (members.get? key) = .valid value ∧ p value) ↔
      members.MayHave key fun raw => ∃ value, read? raw = some value ∧ p value := by
  unfold Json.Members.MayHave
  cases members.get? key with
  | none => simp [optional, habsent]
  | some raw => simp [optional, ofJson_eq_valid]

/-- The same when what it is without an entry has not `p`: the property must be there. -/
theorem exists_optional_eq_valid_and_of_not {read? : Json → Option α} {absent : α} {p : α → Prop}
    {members : Json.Members} {key : String} (habsent : ¬ p absent) :
    (∃ value, optional read? absent (members.get? key) = .valid value ∧ p value) ↔
      members.Has key fun raw => ∃ value, read? raw = some value ∧ p value := by
  unfold Json.Members.Has
  cases members.get? key with
  | none => simp [optional, habsent]
  | some raw => simp [optional, ofJson_eq_valid]

theorem exists_optional_eq_valid {read? : Json → Option α} {absent : α} {members : Json.Members}
    {key : String} :
    (∃ value, optional read? absent (members.get? key) = .valid value) ↔
      members.MayHave key fun raw => ∃ value, read? raw = some value := by
  have h := @exists_optional_eq_valid_and α read? absent (fun _ => True) members key trivial
  simpa only [and_true] using h

/-! A text that may be left out can also be null, and both read as no text. -/

theorem exists_text_and_iff {p : Option String → Prop} {members : Json.Members} {key : String}
    (hnone : p none) :
    (∃ text?, optional (Json.orNull? Json.string?) none (members.get? key) = .valid text? ∧
      p text?) ↔
    members.MayHave key fun value =>
      value = .null ∨ ∃ text, value = .string text ∧ p (some text) := by
  refine (exists_optional_eq_valid_and hnone).trans (Json.Members.mayHave_congr fun value => ?_)
  rw [Json.exists_orNull?_eq_some_and rfl]
  simp only [hnone, and_true, Json.string?_eq_some]

theorem exists_text_and_iff_of_not {p : Option String → Prop} {members : Json.Members}
    {key : String} (hnone : ¬ p none) :
    (∃ text?, optional (Json.orNull? Json.string?) none (members.get? key) = .valid text? ∧
      p text?) ↔
    members.Has key fun value => ∃ text, value = .string text ∧ p (some text) := by
  refine (exists_optional_eq_valid_and_of_not hnone).trans
    (Json.Members.has_congr fun value => ?_)
  rw [Json.exists_orNull?_eq_some_and rfl]
  simp only [hnone, and_false, false_or, Json.string?_eq_some]

end Declared

end IdentitySchema
