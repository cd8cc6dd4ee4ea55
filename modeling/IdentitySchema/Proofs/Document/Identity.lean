/-
  IdentitySchema/Proofs/Document/Identity.lean
  ============================================
  **The text of a path identifies the attribute.**  In the text of a path the
  names stand between slashes, and one text can be that of several paths.  Not
  so within a schema: no name that passed the shape check has a slash in it, so
  behind the id, which may have any number of them, the names can be read off
  the text (`Locator.eq_of_text_eq`).

  A schema does not check that its attributes have different names.  Where they
  do, the names of a path lead back to the attribute (`Schema.locate?`), and
  therefore no two attributes have paths of one text.
-/
import IdentitySchema.Proofs.Document.Constructed
import IdentitySchema.Proofs.Document.AttributeNames

namespace IdentitySchema

/-! ### Paths and their texts -/

namespace Locator

/-- The names of the chain below the first can be told apart in the text. -/
def Plain (names : List String) : Prop := ∀ name ∈ names, '/' ∉ name.toList

theorem toList_intercalate_slash (names : List String) :
    ("/".intercalate names).toList = ['/'].intercalate (names.map String.toList) := by
  rw [String.toList_intercalate]
  rfl

/-- Names without a slash are what the text has between its slashes. -/
theorem splitOn_text {names : List String} (hplain : Plain names) (hsome : names ≠ []) :
    ("/".intercalate names).toList.splitOn '/' = names.map String.toList := by
  have hparts : ∀ part ∈ names.map String.toList, '/' ∉ part := by
    intro part hpart
    obtain ⟨name, hname, rfl⟩ := List.mem_map.mp hpart
    exact hplain name hname
  rw [toList_intercalate_slash]
  exact List.splitOn_intercalate '/' hparts (by simpa using hsome)

theorem text_cons {names : List String} (hsome : names ≠ []) (id : String) :
    (Locator.mk (id :: names)).text = id ++ "/" ++ "/".intercalate names := by
  cases names with
  | nil => exact absurd rfl hsome
  | cons name rest => exact String.intercalate_cons_cons

/-- Below one id, a text belongs to one path only. -/
theorem eq_of_text_eq {id : String} {names others : List String} (hnames : Plain names)
    (hothers : Plain others) (hsome : names ≠ []) (hother : others ≠ [])
    (h : (Locator.mk (id :: names)).text = (Locator.mk (id :: others)).text) :
    names = others := by
  rw [text_cons hsome, text_cons hother, String.append_right_inj] at h
  have hsplit : names.map String.toList = others.map String.toList := by
    rw [← splitOn_text hnames hsome, ← splitOn_text hothers hother, h]
  exact List.map_injective_iff.mpr (fun _ _ => String.toList_inj.mp) hsplit

/-- A slash within a name gives two paths one text. -/
example : (Locator.mk ["urn:x", "a/b"]).text = (Locator.mk ["urn:x", "a", "b"]).text := by decide

end Locator

/-! ### Names in good shape -/

namespace Name

theorem slash_notMem_of_mem_attributeNames {word : List Char} (h : word ∈ attributeNames) :
    '/' ∉ word := by
  obtain ⟨first, rest, rfl, hfirst, hrest⟩ := mem_attributeNames.mp h
  intro hslash
  rcases List.mem_cons.mp hslash with rfl | hslash
  · revert hfirst
    decide
  · have hchar : isNameChar '/' = true := hrest '/' hslash
    revert hchar
    decide

end Name

theorem Attribute.slash_notMem_nameLabel {a : Attribute} (h : a.checkShape = .ok ()) :
    '/' ∉ a.traits.nameLabel.toList := by
  obtain ⟨name, hvalid, hname⟩ := exists_name_of_checkShape h
  have hlabel : a.traits.nameLabel = name := by
    rw [Characteristics.nameLabel, hvalid]
    rfl
  rw [hlabel]
  rcases hname with hname | ⟨-, rfl⟩
  · exact Name.slash_notMem_of_mem_attributeNames hname
  · decide

/-! ### Looking a path up -/

/-- In a list of attributes with different names, each is found under its own. -/
theorem Attribute.find?_name?_eq_some {attributes : List Attribute} {a : Attribute} {name : String}
    (hdistinct : (attributes.map Attribute.name?).Nodup) (ha : a ∈ attributes)
    (hname : a.name? = some name) :
    attributes.find? (fun other => other.name? == some name) = some a := by
  induction attributes with
  | nil => cases ha
  | cons other rest ih =>
    rw [List.map_cons, List.nodup_cons] at hdistinct
    obtain ⟨hfirst, hrest⟩ := hdistinct
    rcases List.mem_cons.mp ha with rfl | ha
    · simp [hname]
    · have hne : other.name? ≠ some name := by
        intro hsame
        rw [hsame, ← hname] at hfirst
        exact hfirst (List.mem_map_of_mem ha)
      rw [List.find?_cons_of_neg (by simpa using hne)]
      exact ih hrest ha

namespace Schema

/-- The attribute that the names of a path lead to, from the id over one name or two. -/
def locate? (s : Schema) (path : Locator) : Option Attribute :=
  match path.segments with
  | [_, name] => s.attribute? name
  | [_, name, sub] => (s.attribute? name).bind fun a => a.subAttribute? sub
  | _ => none

/-- The attributes of a schema, each followed by its sub-attributes. -/
def declared (s : Schema) : List Attribute :=
  s.attributes.flatMap fun a => a :: a.subAttributes

/-- Neither two attributes of the schema nor two sub-attributes of one have the same name. -/
structure DistinctNames (s : Schema) : Prop where
  attributes : (s.attributes.map Attribute.name?).Nodup
  subAttributes : ∀ a ∈ s.attributes, (a.subAttributes.map Attribute.name?).Nodup

variable {s : Schema} {a b : Attribute}

theorem mem_declared : a ∈ s.declared ↔ s.Declares a := by
  rw [declared, List.mem_flatMap]
  constructor
  · rintro ⟨parent, hparent, ha⟩
    rcases List.mem_cons.mp ha with rfl | ha
    · exact Or.inl hparent
    · exact Or.inr ⟨parent, hparent, ha⟩
  · rintro (ha | ⟨parent, hparent, ha⟩)
    · exact ⟨a, ha, List.mem_cons_self⟩
    · exact ⟨parent, hparent, List.mem_cons_of_mem _ ha⟩

theorem attribute?_eq_some (hnames : s.DistinctNames) (ha : a ∈ s.attributes) :
    s.attribute? a.traits.nameLabel = some a :=
  Attribute.find?_name?_eq_some hnames.attributes ha
    (Attribute.name?_of_checkShape (checkShape_of_mem_attributes ha))

theorem subAttribute?_eq_some (hnames : s.DistinctNames) (ha : a ∈ s.attributes)
    (hb : b ∈ a.subAttributes) : a.subAttribute? b.traits.nameLabel = some b := by
  have hshape : b.checkShape = .ok () :=
    Attribute.checkShape_of_mem_subAttributes (checkShape_of_mem_attributes ha) hb
  exact Attribute.find?_name?_eq_some (hnames.subAttributes a ha) hb
    (Attribute.name?_of_checkShape hshape)

/-- The names of the path of an attribute lead back to it. -/
theorem locate?_path (hs : s.Constructed) (hnames : s.DistinctNames) (ha : s.Declares a) :
    s.locate? a.path = some a := by
  unfold locate?
  rcases ha with ha | ⟨parent, hparent, ha⟩
  · rw [hs.segments_eq ha]
    exact attribute?_eq_some hnames ha
  · rw [hs.sub_segments_eq hparent ha]
    simp only
    rw [attribute?_eq_some hnames hparent]
    exact subAttribute?_eq_some hnames hparent ha

/-! ### Texts of paths -/

/-- Behind the id, the path of an attribute has only names without a slash. -/
theorem Declares.exists_plain (hs : s.Constructed) (ha : s.Declares a) :
    ∃ names, a.path = ⟨s.id :: names⟩ ∧ names ≠ [] ∧ Locator.Plain names := by
  have hlabel := Attribute.slash_notMem_nameLabel ha.checkShape_eq_ok
  rcases ha with ha | ⟨parent, hparent, ha⟩
  · refine ⟨[a.traits.nameLabel], ?_, List.cons_ne_nil _ _, ?_⟩
    · rw [← hs.segments_eq ha]
    · simpa [Locator.Plain] using hlabel
  · have hparentLabel := Attribute.slash_notMem_nameLabel (checkShape_of_mem_attributes hparent)
    refine ⟨[parent.traits.nameLabel, a.traits.nameLabel], ?_, List.cons_ne_nil _ _, ?_⟩
    · rw [← hs.sub_segments_eq hparent ha]
    · simpa [Locator.Plain] using ⟨hparentLabel, hlabel⟩

theorem path_eq_of_text_eq (hs : s.Constructed) (ha : s.Declares a) (hb : s.Declares b)
    (h : a.path.text = b.path.text) : a.path = b.path := by
  obtain ⟨names, hpath, hsome, hplain⟩ := ha.exists_plain hs
  obtain ⟨others, hother, hsomeOther, hplainOther⟩ := hb.exists_plain hs
  rw [hpath, hother] at h ⊢
  rw [Locator.eq_of_text_eq hplain hplainOther hsome hsomeOther h]

theorem eq_of_path_eq (hs : s.Constructed) (hnames : s.DistinctNames) (ha : s.Declares a)
    (hb : s.Declares b) (h : a.path = b.path) : a = b := by
  have hlocated := locate?_path hs hnames ha
  rw [h, locate?_path hs hnames hb] at hlocated
  exact (Option.some.inj hlocated).symm

/-- An attribute and its sub-attributes have its name right behind the id. -/
theorem name_of_mem_family (hs : s.Constructed) (ha : a ∈ s.attributes)
    (hb : b ∈ a :: a.subAttributes) : b.path.segments[1]? = some a.traits.nameLabel := by
  rcases List.mem_cons.mp hb with rfl | hb
  · rw [hs.segments_eq ha]
    rfl
  · rw [hs.sub_segments_eq ha hb]
    rfl

theorem nodup_declared (hs : s.Constructed) (hnames : s.DistinctNames) : s.declared.Nodup := by
  rw [declared, List.nodup_flatMap]
  constructor
  · intro a ha
    rw [List.nodup_cons]
    refine ⟨?_, List.Nodup.of_map _ (hnames.subAttributes a ha)⟩
    intro hself
    -- no path is longer than itself
    have hlong := hs.sub_segments_eq ha hself
    rw [hs.segments_eq ha] at hlong
    cases hlong
  · have hnodup : s.attributes.Nodup := List.Nodup.of_map _ hnames.attributes
    refine hnodup.pairwise_of_forall_ne fun a ha b hb hne => ?_
    intro c hca hcb
    have hsame := name_of_mem_family hs ha hca
    rw [name_of_mem_family hs hb hcb, Option.some.injEq] at hsame
    have hfound := attribute?_eq_some hnames ha
    rw [← hsame, attribute?_eq_some hnames hb, Option.some.injEq] at hfound
    exact hne hfound.symm

/-- **The text of a path identifies the attribute.** If the attributes of a constructed schema have
different names, and the sub-attributes of each of them too, then no two of all these attributes
have paths of the same text, whatever the id is; and the names of a path, looked up one after the
other, give back the attribute that has it. -/
theorem path_text_identifies (hs : s.Constructed) (hnames : s.DistinctNames) :
    (s.declared.map fun a => a.path.text).Nodup ∧
    (∀ a, s.Declares a → a ∈ s.declared ∧ s.locate? a.path = some a) := by
  constructor
  · refine List.Nodup.map_on ?_ (nodup_declared hs hnames)
    intro a ha b hb htext
    have hpath := path_eq_of_text_eq hs (mem_declared.mp ha) (mem_declared.mp hb) htext
    exact eq_of_path_eq hs hnames (mem_declared.mp ha) (mem_declared.mp hb) hpath
  · intro a ha
    exact ⟨mem_declared.mpr ha, locate?_path hs hnames ha⟩

/-- A schema of libraries: a library has shelves, and each shelf has a label and points at its
books. Its id reads like the path of one of its shelves. -/
def libraryDocument : Json.Members :=
  [("attributes", .array [
      .object [("multiValued", .bool true), ("name", .string "shelf"),
        ("subAttributes", .array [.object [("name", .string "label")],
          .object [("name", .string "$ref"), ("type", .string "reference")]]),
        ("type", .string "complex")],
      .object [("name", .string "label")]]),
    ("id", .string "urn:library/shelf")]

def library : Schema where
  toDeclaration := .ofDocument .resource libraryDocument (attempts libraryDocument)
  wellShaped := by decide

/-- The library, its shelves and what belongs to them have paths of different texts. -/
theorem library_paths_identify :
    ofDocument .resource libraryDocument = .ok library ∧ library.DistinctNames ∧
      (library.declared.map fun a => a.path.text).Nodup ∧
      ∀ a, library.Declares a → a ∈ library.declared ∧ library.locate? a.path = some a := by
  have hbuilt : ofDocument .resource libraryDocument = .ok library := rfl
  have hnames : library.DistinctNames := ⟨by decide, by decide⟩
  exact ⟨hbuilt, hnames, path_text_identifies (.document hbuilt) hnames⟩

end Schema

end IdentitySchema
