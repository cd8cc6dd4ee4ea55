/-
  IdentitySchema/Proofs/Fragment/Trees.lean
  =========================================
  **The trees that fragments are built into.**  Every node of such a tree stands
  below the one above it and is marked for what is above it, at any depth
  (`WellLinked`).

  The attribute of one of many values is built from the same fragment, by
  asking for its type (`ofFragment_of_many`).  That fragment still declares
  many values, but a type that was asked for is the type of one; so there are
  no lists of lists.  What the parts of an attribute are built from is said
  once (`ofFragment_part`), and with it what a node knows of the nodes above it
  is kept from a node to its parts (`Stands.part`).
-/
import IdentitySchema.Proofs.Fragment.Causes
import IdentitySchema.Proofs.Fragment.Nodes

namespace IdentitySchema

open Report

/-! ### One of many values -/

namespace Attribute

/-- The attribute of lists of the values of an attribute. -/
def asList (companions : Companions) : Attribute → Attribute
  | .simple traits _ form => .simple traits (.many companions) form
  | .complex traits _ subAttributes => .complex traits (.many companions) subAttributes

theorem element_asList {a : Attribute} (hone : a.isMultiValued = false) (companions : Companions) :
    (a.asList companions).element = a := by
  cases a with
  | simple traits cardinality form =>
    cases cardinality with
    | one => rfl
    | many old => cases hone
  | complex traits cardinality subAttributes =>
    cases cardinality with
    | one => rfl
    | many old => cases hone

end Attribute

section Building

variable {asked? : Option String} {site : Site} {fragment : Json.Members} {a : Attribute}

namespace Outline

/-- Asking for its type makes a fragment of many values that of one of them. -/
theorem exists_ofFragment_of_many {type : AttributeType} (hmany : declaresMany fragment = true)
    (htype : resolveType none site.parent fragment = .ok type) :
    ∃ one : Outline,
      Outline.ofFragment (some type.name) { site with inMultiValued := true }
        (fragment.without companionProperties) = .ok one ∧
      Outline.ofFragment none site fragment =
        .ok { one with cardinality := .many (.ofFragment fragment) } := by
  have hasked : resolveType (some type.name) site.parent (fragment.without companionProperties) =
      .ok type := by
    have hname : Vocabulary.ofName? type.name = some type := Vocabulary.ofName?_eq_some.mpr rfl
    simp only [resolveType, Option.map_some, Option.some_or, Json.string?, Option.bind_some, hname]
  refine ⟨⟨type, .one, .ofFragment type { site with inMultiValued := true }
    (fragment.without companionProperties),
    .optional (Json.orNull? Json.strings?) none (fragment.get? "referenceTypes")⟩, ?_, ?_⟩
  · rw [Outline.ofFragment, hasked, Json.Members.get?_without (by decide)]
    rfl
  · rw [Outline.ofFragment, htype]
    simp only [hmany, Option.isNone_none, Bool.and_self, if_true]

theorem attribute?_of_many (outline : Outline) (companions : Companions) (bs : List Attempt) :
    { outline with cardinality := .many companions }.attribute? bs =
      (outline.attribute? bs).map (Attribute.asList companions) := by
  have hform : { outline with cardinality := .many companions }.simpleForm? =
      outline.simpleForm? := rfl
  unfold attribute?
  rw [hform]
  cases outline.simpleForm? with
  | some form => rfl
  | none =>
    unfold complex
    dsimp only
    split
    · rfl
    · rfl

theorem type_of_simpleForm? {outline : Outline} {form : SimpleForm}
    (h : outline.simpleForm? = some form) : form.type = outline.type := by
  unfold simpleForm? at h
  cases htype : outline.type with
  | complex =>
    rw [htype] at h
    cases h
  | _ =>
    rw [htype] at h
    cases h
    rfl

theorem type_of_attribute? {outline : Outline} {bs : List Attempt}
    (h : outline.attribute? bs = .ok a) : a.type = outline.type := by
  rcases attribute?_cases h with ⟨form, hform, rfl⟩ | ⟨hnone, subs, -, rfl⟩
  · exact type_of_simpleForm? hform
  · exact (simpleForm?_eq_none.mp hnone).symm

/-- A complex attribute has a sub-attribute from each attempt. -/
theorem attempts_eq_of_attribute? {outline : Outline} {bs : List Attempt}
    (h : outline.attribute? bs = .ok a) (hcomplex : a.isComplex = true) :
    bs = a.subAttributes.map .ok := by
  rcases attribute?_cases h with ⟨form, -, rfl⟩ | ⟨-, subs, rfl, rfl⟩
  · cases hcomplex
  · rfl

end Outline

namespace Attribute

theorem resolveType_of_ofFragment (h : ofFragment fragment site asked? = .ok a) :
    resolveType asked? site.parent fragment = .ok a.type := by
  obtain ⟨outline, houtline, hbuilt⟩ := ofFragment_eq_ok h
  rw [Outline.type_of_attribute? hbuilt]
  exact Outline.resolveType_of_ofFragment houtline

theorem ofMembers_of_many (outline : Outline) (companions : Companions) (fragment : Json.Members) :
    ofMembers { outline with cardinality := .many companions } fragment =
      ofMembers outline (fragment.without companionProperties) := by
  rw [ofMembers_eq_match, ofMembers_eq_match, Json.Members.get?_without (by decide)]
  cases fragment.get? "subAttributes" with
  | none => rfl
  | some value =>
    cases value with
    | array entries =>
      simp only [ofList, ofEntries_eq_map]
      rfl
    | _ => rfl

/-- A fragment of many values is built by building one of them: from what the fragment says about
it, and by asking for the type that the fragment declares. -/
theorem ofFragment_of_many {type : AttributeType} (hmany : declaresMany fragment = true)
    (htype : resolveType none site.parent fragment = .ok type) :
    ofFragment fragment site none =
      (ofFragment (fragment.without companionProperties) { site with inMultiValued := true }
        (some type.name)).map (asList (.ofFragment fragment)) := by
  obtain ⟨one, hone, hlist⟩ := Outline.exists_ofFragment_of_many hmany htype
  rw [ofFragment, ofFragment, hone, hlist]
  dsimp only
  rw [ofMembers_of_many, Outline.attribute?_of_many]

/-! ### What an attribute says by itself -/

/-- What an attribute says of itself, its parts aside, when it was built from a fragment. -/
structure Fits (asked? : Option String) (site : Site) (fragment : Json.Members) (a : Attribute) :
    Prop where
  path : a.path = site.parent.child a.traits.nameLabel
  name : a.traits.nameLabel = fragmentName fragment
  parentComplex : a.traits.parentComplex = site.inComplex
  /-- It takes many values if the fragment declares so, unless the type of one was asked for. -/
  isMultiValued : a.isMultiValued = (asked?.isNone && declaresMany fragment)
  parentMultiValued : a.traits.parentMultiValued = (site.inMultiValued || a.isMultiValued)
  /-- Of many values it keeps what the fragment says about one. -/
  definition : a.traits.definition =
    .object (if a.isMultiValued then fragment.without companionProperties else fragment)

theorem fits_of_ofFragment (h : ofFragment fragment site asked? = .ok a) :
    Fits asked? site fragment a := by
  obtain ⟨outline, houtline, hbuilt⟩ := ofFragment_eq_ok h
  obtain ⟨htraits, hcardinality, -⟩ := Outline.attribute?_eq_ok hbuilt
  have hpath : a.path = site.parent.child a.traits.nameLabel := by
    rw [path, htraits]
    exact Outline.path_of_ofFragment houtline
  have hcomplex : a.traits.parentComplex = site.inComplex := by
    rw [htraits]
    exact Outline.parentComplex_of_ofFragment houtline
  rcases Outline.ofFragment_eq_ok houtline with ⟨hnone, hmany, hlist, hread⟩ | ⟨hone, hlist, hread⟩
  · have hself : a.isMultiValued = true := by
      rw [isMultiValued, hcardinality, hlist]
      rfl
    refine ⟨hpath, ?_, hcomplex, ?_, ?_, ?_⟩
    · have hname : (fragment.without companionProperties).get? "name" = fragment.get? "name" :=
        Json.Members.get?_without (by decide)
      apply Fragment.nameLabel_eq_fragmentName
      rw [htraits, hread, ← hname]
      rfl
    · rw [hself, hnone, hmany]
      rfl
    · rw [hself, htraits, hread, Bool.or_true]
      rfl
    · rw [hself, htraits, hread]
      rfl
  · have hself : a.isMultiValued = false := by
      rw [isMultiValued, hcardinality, hlist]
      rfl
    refine ⟨hpath, ?_, hcomplex, ?_, ?_, ?_⟩
    · apply Fragment.nameLabel_eq_fragmentName
      rw [htraits, hread]
      rfl
    · rw [hself]
      cases asked? with
      | none => rw [hone rfl]; rfl
      | some name => rfl
    · rw [hself, htraits, hread, Bool.or_false]
      rfl
    · rw [hself, htraits, hread]
      rfl

/-- The attribute was built from an entry of a list of sub-attributes. -/
def BuiltFrom (site : Site) (entry : Json) (sub : Attribute) : Prop :=
  ∃ fragment, entry = .object fragment ∧ ofFragment fragment site none = .ok sub ∧
    Fits none site fragment sub

/-- The attributes are built from what stands under `subAttributes`: one from each entry, and in
order. -/
inductive Corresponds (site : Site) (fragment : Json.Members) : List Attribute → Prop
  | absent (hnone : fragment.get? "subAttributes" = none) : Corresponds site fragment []
  | list {entries : List Json} {subs : List Attribute}
      (hlist : fragment.get? "subAttributes" = some (.array entries))
      (heach : List.Forall₂ (BuiltFrom site) entries subs) : Corresponds site fragment subs

theorem corresponds_of_ofFragment (h : ofFragment fragment site asked? = .ok a)
    (hcomplex : a.isComplex = true) :
    Corresponds ⟨a.path, a.traits.parentMultiValued, true⟩ fragment a.subAttributes := by
  obtain ⟨outline, -, hbuilt⟩ := ofFragment_eq_ok h
  obtain ⟨htraits, -, -⟩ := Outline.attribute?_eq_ok hbuilt
  have hsite : outline.innerSite = ⟨a.path, a.traits.parentMultiValued, true⟩ := by
    rw [path, htraits]
    rfl
  have hattempts := Outline.attempts_eq_of_attribute? hbuilt hcomplex
  rw [ofMembers_eq_match] at hattempts
  cases hvalue : fragment.get? "subAttributes" with
  | none =>
    rw [hvalue] at hattempts
    rw [List.map_eq_nil_iff.mp hattempts.symm]
    exact .absent hvalue
  | some value =>
    rw [hvalue] at hattempts
    cases value with
    | array entries =>
      refine .list hvalue ?_
      simp only [ofList, ofEntries_eq_map] at hattempts
      have heach := List.forall₂_eq_eq_eq ▸ hattempts
      rw [List.forall₂_map_left_iff, List.forall₂_map_right_iff, hsite] at heach
      refine heach.imp fun entry sub hentry => ?_
      cases entry with
      | object members => exact ⟨members, rfl, hentry, fits_of_ofFragment hentry⟩
      | _ => cases hentry
    | _ =>
      obtain ⟨sub, -, hfailed⟩ := List.map_eq_singleton_iff.mp hattempts.symm
      cases hfailed

/-! ### What the parts are built from -/

theorem ofFragment_element (h : ofFragment fragment site none = .ok a)
    (hmany : declaresMany fragment = true) :
    ofFragment (fragment.without companionProperties) { site with inMultiValued := true }
      (some a.type.name) = .ok a.element := by
  have hlist := ofFragment_of_many hmany (resolveType_of_ofFragment h)
  rw [h] at hlist
  cases hone : ofFragment (fragment.without companionProperties)
      { site with inMultiValued := true } (some a.type.name) with
  | error report =>
    rw [hone] at hlist
    cases hlist
  | ok one =>
    rw [hone] at hlist
    have hself : a = one.asList (.ofFragment fragment) := Except.ok.inj hlist
    rw [hself, element_asList (fits_of_ofFragment hone).isMultiValued]

/-- All that the builder hands on: of many values, one is built from what the fragment says about
it; within a complex attribute, each sub-attribute from its own fragment. -/
theorem ofFragment_part (h : ofFragment fragment site asked? = .ok a) {part : Attribute}
    (hpart : part ∈ a.parts) :
    (a.isMultiValued = true ∧ asked? = none ∧ declaresMany fragment = true ∧ part = a.element ∧
      ofFragment (fragment.without companionProperties) { site with inMultiValued := true }
        (some a.type.name) = .ok part) ∨
    (a.isMultiValued = false ∧ a.isComplex = true ∧ ∃ members,
      ofFragment members ⟨a.path, a.traits.parentMultiValued, true⟩ none = .ok part) := by
  have hfits := fits_of_ofFragment h
  cases hmany : a.isMultiValued with
  | true =>
    rw [parts_of_many hmany, List.mem_singleton] at hpart
    have hboth := hfits.isMultiValued
    rw [hmany, eq_comm, Bool.and_eq_true_iff, Option.isNone_iff_eq_none] at hboth
    obtain ⟨rfl, hdeclared⟩ := hboth
    refine Or.inl ⟨rfl, rfl, hdeclared, hpart, ?_⟩
    rw [hpart]
    exact ofFragment_element h hdeclared
  | false =>
    rw [parts_of_one hmany] at hpart
    obtain ⟨_, -, members, -, hbuilt⟩ := exists_entry_of_mem_subAttributes h hpart
    exact Or.inr ⟨rfl, isComplex_of_mem_subAttributes hmany hpart, members, hbuilt⟩

/-! ### The tree -/

/-- A node was built for a site that marks what is above the node. -/
structure Stands (root : Attribute) (site : Site) (above : List Attribute) (a : Attribute) :
    Prop where
  root_mem : root ∈ a :: above
  built : ∃ fragment place asked?, ofFragment fragment place asked? = .ok a ∧
    place.inComplex = (site.inComplex || above.any isComplex) ∧
    place.inMultiValued = (site.inMultiValued || above.any isMultiValued)

namespace Stands

variable {root : Attribute} {above : List Attribute}

theorem part (h : Stands root site above a) {part : Attribute} (hpart : part ∈ a.parts) :
    Stands root site (a :: above) part := by
  obtain ⟨fragment, place, asked?, hbuilt, hcomplex, hmany⟩ := h.built
  refine ⟨List.mem_cons_of_mem _ h.root_mem, ?_⟩
  rcases ofFragment_part hbuilt hpart with
    ⟨hlist, -, -, -, helement⟩ | ⟨hone, hobject, members, hsub⟩
  · -- the value of a list is marked as in a list, and for the rest as the list is
    refine ⟨_, _, _, helement, ?_, ?_⟩
    · rw [List.any_cons, isComplex_of_many hlist, Bool.false_or]
      exact hcomplex
    · rw [List.any_cons, hlist, Bool.true_or, Bool.or_true]
  · -- a sub-attribute is marked as in a complex attribute, and for lists as that attribute is
    refine ⟨_, _, _, hsub, ?_, ?_⟩
    · rw [List.any_cons, hobject, Bool.true_or, Bool.or_true]
    · rw [List.any_cons, hone, Bool.false_or, (fits_of_ofFragment hbuilt).parentMultiValued, hone,
        Bool.or_false]
      exact hmany

theorem parentComplex_eq (h : Stands root site above a) :
    a.traits.parentComplex = (site.inComplex || above.any isComplex) := by
  obtain ⟨fragment, place, asked?, hbuilt, hcomplex, -⟩ := h.built
  rw [(fits_of_ofFragment hbuilt).parentComplex, hcomplex]

theorem parentMultiValued_iff (h : Stands root site above a) (hone : a.isMultiValued = false) :
    a.traits.parentMultiValued = true ↔
      (site.inMultiValued = true ∧ root.isMultiValued = false) ∨
        ∃ upper ∈ above, upper.isMultiValued = true := by
  obtain ⟨fragment, place, asked?, hbuilt, -, hmany⟩ := h.built
  rw [(fits_of_ofFragment hbuilt).parentMultiValued, hone, Bool.or_false, hmany,
    Bool.or_eq_true_iff, List.any_eq_true]
  constructor
  · rintro (hsite | habove)
    · cases hroot : root.isMultiValued with
      | false => exact Or.inl ⟨hsite, rfl⟩
      | true =>
        -- the node is no list, so it is not the root but below it
        rcases List.mem_cons.mp h.root_mem with rfl | hmem
        · rw [hone] at hroot
          cases hroot
        · exact Or.inr ⟨root, hmem, hroot⟩
    · exact Or.inr habove
  · rintro (⟨hsite, -⟩ | habove)
    · exact Or.inl hsite
    · exact Or.inr habove

theorem path_part (h : Stands root site above a) {part : Attribute} (hpart : part ∈ a.parts) :
    part.path = if a.isMultiValued then a.path else a.path.child part.traits.nameLabel := by
  obtain ⟨fragment, place, asked?, hbuilt, -, -⟩ := h.built
  rcases ofFragment_part hbuilt hpart with ⟨hlist, -, -, rfl, -⟩ | ⟨hone, -, members, hsub⟩
  · rw [hlist, path_element, if_pos rfl]
  · rw [hone, if_neg Bool.false_ne_true]
    exact (fits_of_ofFragment hsub).path

theorem exists_element (h : Stands root site above a) (hmany : a.isMultiValued = true) :
    ∃ place members, ofFragment members place none = .ok a ∧
      declaresMany (members.without companionProperties) = true ∧
      ofFragment (members.without companionProperties) { place with inMultiValued := true }
        (some a.type.name) = .ok a.element := by
  obtain ⟨fragment, place, asked?, hbuilt, -, -⟩ := h.built
  have hpart : a.element ∈ a.parts := by
    rw [parts_of_many hmany]
    exact List.mem_singleton_self _
  rcases ofFragment_part hbuilt hpart with ⟨-, rfl, hdeclared, -, helement⟩ | ⟨hone, -⟩
  · exact ⟨place, fragment, hbuilt, (declaresMany_without fragment).trans hdeclared, helement⟩
  · rw [hmany] at hone
    cases hone

theorem exists_corresponds (h : Stands root site above a) (hcomplex : a.isComplex = true) :
    ∃ members, a.traits.definition = .object members ∧
      Corresponds ⟨a.path, a.traits.parentMultiValued, true⟩ members a.subAttributes := by
  obtain ⟨fragment, place, asked?, hbuilt, -, -⟩ := h.built
  have hone : a.isMultiValued = false := by
    cases hmany : a.isMultiValued with
    | false => rfl
    | true =>
      rw [isComplex_of_many hmany] at hcomplex
      cases hcomplex
  refine ⟨fragment, ?_, corresponds_of_ofFragment hbuilt hcomplex⟩
  rw [(fits_of_ofFragment hbuilt).definition, hone, if_neg Bool.false_ne_true]

end Stands

/-- The tree that a fragment was built into for a site: every node is linked to its parts and marked
for what is above it. -/
structure WellLinked (asked? : Option String) (site : Site) (fragment : Json.Members)
    (root : Attribute) : Prop where
  fits : Fits asked? site fragment root
  /-- One of many values is no list itself. It is built from a fragment that still declares many
  values, by asking for the type of one. -/
  element : ∀ node ∈ root.nodes, node.self.isMultiValued = true →
    node.self.element.isMultiValued = false ∧ ∃ place members,
      ofFragment members place none = .ok node.self ∧
      declaresMany (members.without companionProperties) = true ∧
      ofFragment (members.without companionProperties) { place with inMultiValued := true }
        (some node.self.type.name) = .ok node.self.element
  /-- One of many values has the path of all; other parts have paths that are longer by their
  names. -/
  path : ∀ node ∈ root.nodes, ∀ part ∈ node.self.parts,
    part.path =
      if node.self.isMultiValued then node.self.path
      else node.self.path.child part.traits.nameLabel
  /-- The site tells whether the root belongs to a complex attribute; below a complex node all nodes
  do. -/
  parentComplex : ∀ node ∈ root.nodes,
    node.self.traits.parentComplex = (site.inComplex || node.above.any isComplex)
  /-- A node of one value belongs to those of one that takes many if there is such a node above it,
  or if the site says so and the root takes one value. -/
  parentMultiValued : ∀ node ∈ root.nodes, node.self.isMultiValued = false →
    (node.self.traits.parentMultiValued = true ↔
      (site.inMultiValued = true ∧ root.isMultiValued = false) ∨
        ∃ upper ∈ node.above, upper.isMultiValued = true)
  /-- The sub-attributes of a complex node are built from the entries of the list in its fragment,
  one by one and in order. -/
  subAttributes : ∀ node ∈ root.nodes, node.self.isComplex = true →
    ∃ members, node.self.traits.definition = .object members ∧
      Corresponds ⟨node.self.path, node.self.traits.parentMultiValued, true⟩ members
        node.self.subAttributes
  /-- The check of the shape reports each complex node with a complex node above it as nested, once
  and at its path, and no other node but the root, if that belongs to a complex attribute. -/
  nested : (listed root.checkShape).filterMap SchemaViolation.nestedPath? =
    (root.nodes.filter fun node =>
      node.self.isComplex && (site.inComplex || node.above.any isComplex)).map
        fun node => node.self.path

/-- **Attribute trees are linked at every depth.**  Whatever the fragment, the site and the type
that is asked for, an attribute that is built is the root of a well-linked tree. -/
theorem ofFragment_links_nodes {root : Attribute} (h : ofFragment fragment site asked? = .ok root) :
    WellLinked asked? site fragment root := by
  have hroot : Stands root site [] root := by
    refine ⟨List.mem_singleton_self _, fragment, site, asked?, h, ?_, ?_⟩
    · rw [List.any_nil, Bool.or_false]
    · rw [List.any_nil, Bool.or_false]
  have hstands : ∀ node ∈ root.nodes, Stands root site node.above node.self :=
    forall_mem_nodesUnder (fun _ _ hnode _ hpart => hnode.part hpart) root [] hroot
  refine ⟨fits_of_ofFragment h, ?_, ?_, ?_, ?_, ?_, ?_⟩
  · intro node hnode hmany
    exact ⟨node.self.isMultiValued_element, (hstands node hnode).exists_element hmany⟩
  · intro node hnode part hpart
    exact (hstands node hnode).path_part hpart
  · intro node hnode
    exact (hstands node hnode).parentComplex_eq
  · intro node hnode hone
    exact (hstands node hnode).parentMultiValued_iff hone
  · intro node hnode hcomplex
    exact (hstands node hnode).exists_corresponds hcomplex
  · rw [nestedPaths_checkShape root []]
    congr 1
    apply List.filter_congr
    intro node hnode
    rw [Node.isNested, (hstands node hnode).parentComplex_eq]

/-- Crates of boxes: in each crate is a list of boxes, which have sub-attributes again. -/
def crateFragment : Json.Members :=
  [("multiValued", .bool true), ("name", .string "crates"), ("primary", .bool true),
    ("subAttributes", .array [
      .object [("multiValued", .bool true), ("name", .string "boxes"),
        ("subAttributes", .array [.object [("name", .string "label")]]),
        ("type", .string "complex")],
      .object [("name", .string "weight"), ("type", .string "decimal")]]),
    ("type", .string "complex")]

/-- The tree of the crates is linked, and the boxes in it are reported as nested. -/
theorem crates_linked_to_boxes :
    ∃ root, ofFragment crateFragment ⟨.root "urn:store", true, false⟩ none = .ok root ∧
      (listed root.checkShape).filterMap SchemaViolation.nestedPath? =
        [⟨["urn:store", "crates", "boxes"]⟩] ∧
      WellLinked none ⟨.root "urn:store", true, false⟩ crateFragment root := by
  have hbuilt : ∃ root, ofFragment crateFragment ⟨.root "urn:store", true, false⟩ none = .ok root ∧
      (listed root.checkShape).filterMap SchemaViolation.nestedPath? =
        [⟨["urn:store", "crates", "boxes"]⟩] := ⟨_, rfl, by decide⟩
  obtain ⟨root, hroot, hnested⟩ := hbuilt
  exact ⟨root, hroot, hnested, ofFragment_links_nodes hroot⟩

end Attribute

end Building

end IdentitySchema
