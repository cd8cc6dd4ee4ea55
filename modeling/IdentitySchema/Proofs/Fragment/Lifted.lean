/-
  IdentitySchema/Proofs/Fragment/Lifted.lean
  ==========================================
  **From one value to many.**  Let a fragment of one value become one of many
  by no more than saying so, with or without the properties that describe the
  parts of each value (`Fragment.Lifts`).  Then it is built exactly when the
  first one is, with the same report otherwise, and the attribute is that of
  the first fragment, lifted to lists (`Attribute.ofFragment_lifted`); the
  shape of both is reported alike (`Attribute.checkShape_lifted`).

  Below the attribute, the characteristics of every sub-attribute now say that
  it belongs to the values of one that takes many (`Attribute.enclosed`).  This
  is all that a site with this mark does to a tree (`ofFragment_enclosed`), and
  nothing that is reported depends on it.
-/
import IdentitySchema.Proofs.Fragment.Linked

namespace IdentitySchema

open Report

/-! ### Attributes among many values -/

/-- The characteristics of an attribute that belongs to the values of one that takes many. -/
def Characteristics.enclosed (traits : Characteristics) : Characteristics :=
  { traits with parentMultiValued := true }

namespace Attribute

mutual

/-- The attribute as one that belongs to the values of one that takes many, with everything below
it. -/
def enclosed : Attribute → Attribute
  | .simple traits cardinality form => .simple traits.enclosed cardinality form
  | .complex traits cardinality subAttributes =>
    .complex traits.enclosed cardinality (enclosedAll subAttributes)
  termination_by structural a => a

def enclosedAll : List Attribute → List Attribute
  | [] => []
  | a :: rest => enclosed a :: enclosedAll rest
  termination_by structural attributes => attributes

end

theorem enclosedAll_eq_map (attributes : List Attribute) :
    enclosedAll attributes = attributes.map enclosed := by
  induction attributes with
  | nil => rfl
  | cons a rest ih => rw [enclosedAll, ih, List.map_cons]

theorem enclosed_complex (traits : Characteristics) (cardinality : Cardinality)
    (subAttributes : List Attribute) :
    enclosed (.complex traits cardinality subAttributes) =
      .complex traits.enclosed cardinality (subAttributes.map enclosed) := by
  rw [enclosed, enclosedAll_eq_map]

/-- The attribute with other characteristics, for other numbers of values, and its sub-attributes as
ones that belong to the values of one that takes many. -/
def recast (traits : Characteristics) (cardinality : Cardinality) : Attribute → Attribute
  | .simple _ _ form => .simple traits cardinality form
  | .complex _ _ subAttributes => .complex traits cardinality (subAttributes.map enclosed)

theorem enclosed_eq_recast (a : Attribute) :
    a.enclosed = a.recast a.traits.enclosed a.cardinality := by
  cases a with
  | simple traits cardinality form => rfl
  | complex traits cardinality subAttributes => exact enclosed_complex _ _ _

end Attribute

/-! ### Their shape -/

/-- Nothing that is said about the shape of an attribute differs between the characteristics. -/
structure Characteristics.ShapedAlike (traits other : Characteristics) : Prop where
  path : other.path = traits.path
  parentComplex : other.parentComplex = traits.parentComplex
  violations : ∀ type, other.violations type = traits.violations type

theorem Characteristics.shapedAlike_enclosed (traits : Characteristics) :
    traits.ShapedAlike traits.enclosed :=
  ⟨rfl, rfl, fun _ => rfl⟩

namespace Characteristics.ShapedAlike

variable {traits other : Characteristics}

theorem complexViolations_eq (h : traits.ShapedAlike other) :
    other.complexViolations = traits.complexViolations := by
  rw [complexViolations, complexViolations, h.path, h.parentComplex, h.violations]

theorem formViolations_eq (h : traits.ShapedAlike other) (form : SimpleForm) :
    form.violations other = form.violations traits := by
  unfold SimpleForm.violations Characteristics.unlessValid Characteristics.notAllowed
  rw [h.path, h.violations]

end Characteristics.ShapedAlike

namespace Attribute

theorem shapeReports_enclosed {attributes : List Attribute}
    (h : ∀ a ∈ attributes, a.enclosed.checkShape = a.checkShape) :
    shapeReports (attributes.map enclosed) = shapeReports attributes := by
  rw [shapeReports_eq_flatMap, shapeReports_eq_flatMap, List.flatMap_map]
  apply List.flatMap_congr
  intro a ha
  rw [h a ha]

theorem checkShape_recast_of (a : Attribute) {traits : Characteristics}
    (h : a.traits.ShapedAlike traits) (cardinality : Cardinality)
    (hsubs : ∀ sub ∈ a.subAttributes, sub.enclosed.checkShape = sub.checkShape) :
    (a.recast traits cardinality).checkShape = a.checkShape := by
  cases a with
  | simple old oldCardinality form =>
    have hpath : traits.path = old.path := h.path
    rw [recast, checkShape, checkShape, h.formViolations_eq, hpath]
    rfl
  | complex old oldCardinality subAttributes =>
    have hpath : traits.path = old.path := h.path
    have hreports : shapeReports (subAttributes.map enclosed) = shapeReports subAttributes :=
      shapeReports_enclosed hsubs
    rw [recast, checkShape, checkShape, h.complexViolations_eq, hpath, hreports]
    rfl

theorem checkShape_enclosed (a : Attribute) : a.enclosed.checkShape = a.checkShape := by
  induction a with
  | simple traits cardinality form =>
    rw [enclosed_eq_recast]
    exact checkShape_recast_of _ (Characteristics.shapedAlike_enclosed _) _ (List.forall_mem_nil _)
  | complex traits cardinality subAttributes ih =>
    rw [enclosed_eq_recast]
    exact checkShape_recast_of _ (Characteristics.shapedAlike_enclosed _) _ ih

theorem checkShape_recast {a : Attribute} {traits : Characteristics}
    (h : a.traits.ShapedAlike traits) (cardinality : Cardinality) :
    (a.recast traits cardinality).checkShape = a.checkShape :=
  checkShape_recast_of a h cardinality fun sub _ => sub.checkShape_enclosed

end Attribute

/-! ### Building them -/

section Building

variable {outline other : Outline} {bs : List Attempt}

theorem flatMap_found_map (f : Attribute → Attribute) (bs : List Attempt) :
    (bs.map (Except.map f)).flatMap found = bs.flatMap found := by
  rw [List.flatMap_map]
  apply List.flatMap_congr
  intro b _
  cases b with
  | ok a => rfl
  | error report => rfl

theorem filterMap_toOption_map (f : Attribute → Attribute) (bs : List Attempt) :
    (bs.map (Except.map f)).filterMap Except.toOption =
      (bs.filterMap Except.toOption).map f := by
  rw [List.filterMap_map, List.map_filterMap]
  apply List.filterMap_congr
  intro b _
  cases b with
  | ok a => rfl
  | error report => rfl

/-- Outlines of one shape build the same attribute, recast, or fail with the same report. -/
theorem Outline.attribute?_recast (htype : other.type = outline.type)
    (hreference : other.referenceTypes = outline.referenceTypes)
    (hshape : outline.traits.ShapedAlike other.traits) :
    other.attribute? (bs.map (Except.map Attribute.enclosed)) =
      (outline.attribute? bs).map fun a => a.recast other.traits other.cardinality := by
  have hform : other.simpleForm? = outline.simpleForm? := by
    rw [simpleForm?, simpleForm?, htype, hreference]
  unfold attribute?
  rw [hform]
  cases outline.simpleForm? with
  | some form => rfl
  | none =>
    simp only [complex, flatMap_found_map, filterMap_toOption_map, hshape.path,
      hshape.complexViolations_eq]
    split
    · rfl
    · rfl

/-- The outline of an attribute that belongs to the values of one that takes many. -/
def Outline.enclosed (outline : Outline) : Outline :=
  { outline with traits := outline.traits.enclosed }

theorem Outline.ofFragment_enclosed (site : Site) (fragment : Json.Members) :
    Outline.ofFragment none { site with inMultiValued := true } fragment =
      (Outline.ofFragment none site fragment).map enclosed := by
  unfold Outline.ofFragment
  cases resolveType none site.parent fragment with
  | error report => rfl
  | ok type => cases declaresMany fragment <;> rfl

namespace Attribute

/-- Sub-attributes of fragments with the same list are built alike, if each entry is. -/
theorem ofMembers_enclosed {fragment others : Json.Members}
    (hpath : other.traits.path = outline.traits.path)
    (hmark : other.traits.parentMultiValued = true)
    (hlist : others.get? "subAttributes" = fragment.get? "subAttributes")
    (hsubs : ∀ entries, fragment.get? "subAttributes" = some (.array entries) →
      ∀ sub, Json.object sub ∈ entries → ∀ site : Site,
        ofFragment sub { site with inMultiValued := true } none =
          (ofFragment sub site none).map enclosed) :
    ofMembers other others = (ofMembers outline fragment).map (Except.map enclosed) := by
  have hrefuse : other.notFragments = outline.notFragments := by
    funext value
    unfold Outline.notFragments Characteristics.notAllowed
    rw [hpath]
  have hsite : other.innerSite = { outline.innerSite with inMultiValued := true } := by
    unfold Outline.innerSite
    rw [hpath, hmark]
  rw [ofMembers_eq_match, ofMembers_eq_match, hlist]
  cases hvalue : fragment.get? "subAttributes" with
  | none => rfl
  | some value =>
    cases value with
    | array entries =>
      simp only [ofList, ofEntries_eq_map, List.map_map]
      apply List.map_congr_left
      intro entry hentry
      rw [hrefuse, hsite]
      cases entry with
      | object sub => exact hsubs entries hvalue sub hentry outline.innerSite
      | _ => rfl
    | _ =>
      simp only [ofList, hrefuse]
      rfl

/-- A site among many values marks the whole tree that is built there, and does nothing else. -/
theorem ofFragment_enclosed (fragment : Json.Members) : ∀ site : Site,
    ofFragment fragment { site with inMultiValued := true } none =
      (ofFragment fragment site none).map enclosed := by
  -- Over the fragment and for every site: a sub-attribute is built one step further down.
  induction fragment using Json.Members.fragmentInduction with
  | step fragment ih =>
    intro site
    rw [ofFragment, ofFragment, Outline.ofFragment_enclosed]
    cases houtline : Outline.ofFragment none site fragment with
    | error report => rfl
    | ok outline =>
      have hmembers : ofMembers outline.enclosed fragment =
          (ofMembers outline fragment).map (Except.map enclosed) :=
        ofMembers_enclosed rfl rfl rfl ih
      have hbuild : outline.enclosed.attribute?
            ((ofMembers outline fragment).map (Except.map enclosed)) =
          (outline.attribute? (ofMembers outline fragment)).map fun a =>
            a.recast outline.traits.enclosed outline.cardinality :=
        Outline.attribute?_recast rfl rfl outline.traits.shapedAlike_enclosed
      show outline.enclosed.attribute? (ofMembers outline.enclosed fragment) =
        (outline.attribute? (ofMembers outline fragment)).map enclosed
      rw [hmembers, hbuild]
      cases hbuilt : outline.attribute? (ofMembers outline fragment) with
      | error report => rfl
      | ok a =>
        obtain ⟨htraits, hcardinality, -⟩ := Outline.attribute?_eq_ok hbuilt
        simp only [Except.map, a.enclosed_eq_recast, htraits, hcardinality]

end Attribute

end Building

/-! ### Fragments of many values -/

/-- The fragment of one value and that of many differ only in that, and in the properties that
describe the parts of each value, which the first one does not have. -/
structure Fragment.Lifts (single many : Json.Members) : Prop where
  notMany : single.get? "multiValued" = none ∨ single.get? "multiValued" = some (.bool false)
  noCompanions : ∀ key ∈ companionProperties, key ∉ single.keys
  isMany : many.get? "multiValued" = some (.bool true)
  others : many.without ("multiValued" :: companionProperties) =
    single.without ("multiValued" :: companionProperties)

/-- The characteristics as a fragment of many values declares them. -/
def Characteristics.lifted (many : Json.Members) (traits : Characteristics) : Characteristics :=
  { traits with
    multiValued := .valid true
    parentMultiValued := true
    definition := .object (many.without companionProperties) }

/-- The outline of an attribute of lists of the values of another one. -/
def Outline.lifted (many : Json.Members) (outline : Outline) : Outline :=
  { outline with
    cardinality := .many (.ofFragment many)
    traits := outline.traits.lifted many }

/-- The attribute of lists of the values of an attribute. -/
def Attribute.lifted (many : Json.Members) (a : Attribute) : Attribute :=
  a.recast (a.traits.lifted many) (.many (.ofFragment many))

theorem Characteristics.shapedAlike_lifted {traits : Characteristics} {flag : Bool}
    (hflag : traits.multiValued = .valid flag) (many : Json.Members) :
    traits.ShapedAlike (traits.lifted many) := by
  refine ⟨rfl, rfl, fun type => ?_⟩
  have hold : traits.unlessValid "multiValued" "boolean" traits.multiValued = [] := by
    rw [hflag]
    rfl
  unfold violations
  rw [hold]
  rfl

namespace Fragment.Lifts

variable {single many : Json.Members} {site : Site}

theorem get?_eq (h : Lifts single many) {key : String}
    (hkey : key ∉ "multiValued" :: companionProperties) : many.get? key = single.get? key := by
  rw [← Json.Members.get?_without hkey, h.others, Json.Members.get?_without hkey]

theorem declaresMany_many (h : Lifts single many) : declaresMany many = true :=
  Fragment.declaresMany_iff.mpr h.isMany

theorem declaresMany_single (h : Lifts single many) : declaresMany single = false := by
  unfold declaresMany
  rcases h.notMany with hnone | hfalse
  · rw [hnone]
  · rw [hfalse]

/-- That there are many values is a known property. -/
theorem unknown_keys_without (members : Json.Members) (type : AttributeType) :
    (members.without ("multiValued" :: companionProperties)).keys.filter
        (fun key => !(commonProperties.contains key || type.ownProperties.contains key)) =
      (members.without companionProperties).keys.filter
        fun key => !(commonProperties.contains key || type.ownProperties.contains key) := by
  rw [Json.Members.keys_without, Json.Members.keys_without, List.filter_filter,
    List.filter_filter]
  apply List.filter_congr
  intro key _
  by_cases hkey : key = "multiValued"
  · subst hkey
    simp [commonProperties]
  · simp [hkey]

theorem traits_eq (h : Lifts single many) (type : AttributeType) :
    Characteristics.ofFragment type { site with inMultiValued := true }
        (many.without companionProperties) =
      (Characteristics.ofFragment type site single).lifted many := by
  have hsame : single.without companionProperties = single :=
    Json.Members.without_eq_self h.noCompanions
  have hunknown := unknown_keys_without many type
  rw [h.others, unknown_keys_without, hsame] at hunknown
  unfold Characteristics.ofFragment Characteristics.lifted
  simp (disch := decide) only [Json.Members.get?_without, h.get?_eq, h.isMany, ← hunknown]
  rfl

/-- What the fragment of many values says about one of them is what the other fragment says. -/
theorem outline_eq (h : Lifts single many) (site : Site) :
    Outline.ofFragment none site many =
      (Outline.ofFragment none site single).map (Outline.lifted many) := by
  have hresolve : resolveType none site.parent many = resolveType none site.parent single := by
    unfold resolveType fragmentName
    rw [h.get?_eq (by decide), h.get?_eq (by decide)]
  unfold Outline.ofFragment
  rw [hresolve, h.declaresMany_many, h.declaresMany_single, h.get?_eq (by decide)]
  cases resolveType none site.parent single with
  | error report => rfl
  | ok type =>
    simp only [Option.isNone_none, Bool.and_true, Bool.and_false, if_true, Bool.false_eq_true,
      if_false, h.traits_eq]
    rfl

/-- The first fragment says that there is one value, and this is read without fault. -/
theorem outline_of_one (h : Lifts single many) {outline : Outline}
    (houtline : Outline.ofFragment none site single = .ok outline) :
    outline.cardinality = .one ∧ outline.traits.multiValued = .valid false := by
  rcases Outline.ofFragment_eq_ok houtline with ⟨-, hmany, -, -⟩ | ⟨-, hone, htraits⟩
  · rw [h.declaresMany_single] at hmany
    cases hmany
  · refine ⟨hone, ?_⟩
    rw [htraits]
    show Declared.optional Json.bool? false (single.get? "multiValued") = .valid false
    rcases h.notMany with hnone | hfalse
    · rw [hnone]
      rfl
    · rw [hfalse]
      rfl

end Fragment.Lifts

namespace Attribute

variable {single many : Json.Members} {site : Site}

/-- The fragment of many values builds the attribute of the other one, lifted to lists, or fails
with the same report. -/
theorem ofFragment_lifted (h : Fragment.Lifts single many) (site : Site) :
    ofFragment many site none = (ofFragment single site none).map (lifted many) := by
  rw [ofFragment, ofFragment, h.outline_eq]
  cases houtline : Outline.ofFragment none site single with
  | error report => rfl
  | ok outline =>
    have hmembers : ofMembers (outline.lifted many) many =
        (ofMembers outline single).map (Except.map enclosed) :=
      ofMembers_enclosed rfl rfl (h.get?_eq (by decide)) fun _ _ sub _ site =>
        ofFragment_enclosed sub site
    have hshape : outline.traits.ShapedAlike (outline.traits.lifted many) :=
      Characteristics.shapedAlike_lifted (h.outline_of_one houtline).2 many
    have hbuild : (outline.lifted many).attribute?
          ((ofMembers outline single).map (Except.map enclosed)) =
        (outline.attribute? (ofMembers outline single)).map fun a =>
          a.recast (outline.traits.lifted many) (.many (.ofFragment many)) :=
      Outline.attribute?_recast rfl rfl hshape
    show (outline.lifted many).attribute? (ofMembers (outline.lifted many) many) =
      (outline.attribute? (ofMembers outline single)).map (lifted many)
    rw [hmembers, hbuild]
    cases hbuilt : outline.attribute? (ofMembers outline single) with
    | error report => rfl
    | ok a =>
      obtain ⟨htraits, -, -⟩ := Outline.attribute?_eq_ok hbuilt
      simp only [Except.map, lifted, htraits]

theorem attribute_of_one (h : Fragment.Lifts single many) {a : Attribute}
    (hbuilt : ofFragment single site none = .ok a) :
    a.cardinality = .one ∧ a.traits.multiValued = .valid false := by
  obtain ⟨outline, houtline, hattribute⟩ := ofFragment_eq_ok hbuilt
  obtain ⟨htraits, hcardinality, -⟩ := Outline.attribute?_eq_ok hattribute
  rw [htraits, hcardinality]
  exact h.outline_of_one houtline

/-- The shape of the lifted attribute is reported as that of the attribute itself. -/
theorem checkShape_lifted (h : Fragment.Lifts single many) {a : Attribute}
    (hbuilt : ofFragment single site none = .ok a) :
    (a.lifted many).checkShape = a.checkShape :=
  checkShape_recast (Characteristics.shapedAlike_lifted (attribute_of_one h hbuilt).2 many) _

end Attribute

end IdentitySchema
