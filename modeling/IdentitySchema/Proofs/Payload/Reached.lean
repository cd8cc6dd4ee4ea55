/-
  IdentitySchema/Proofs/Payload/Reached.lean
  ==========================================
  **What a payload is asked.**  Holding a payload to a schema reaches pairs of
  an attribute and what the payload has for it: first the attributes of the
  schema, each with its member of the payload; then, from an object under a
  complex attribute, the sub-attributes with the members of that object, and
  from a list under an attribute with many values, the attribute of one value
  with each item that is no placeholder.

  `parts` is one such step and `preorder` lists everything below a pair, depth
  first.  `Reaches` says the same without an order (`mem_reached_iff`).
-/
import IdentitySchema.Schema.Basic

namespace IdentitySchema

namespace Attribute

/-- The attribute of one value of an attribute. -/
def element : Attribute → Attribute
  | .simple traits _ form => .simple traits .one form
  | .complex traits _ subAttributes => .complex traits .one subAttributes

theorem path_element (a : Attribute) : a.element.path = a.path := by
  cases a <;> rfl

theorem subAttributes_element (a : Attribute) : a.element.subAttributes = a.subAttributes := by
  cases a <;> rfl

theorem cardinality_element (a : Attribute) : a.element.cardinality = .one := by
  cases a <;> rfl

end Attribute

/-! ### Pairs -/

/-- An attribute with the value that is there for it, if there is one, and what the value was
looked for in. -/
structure Reached where
  subject : Attribute
  value? : Option Json
  holder : Json

/-- The attribute with its member of a value. -/
def Attribute.lookUp (a : Attribute) (holder : Json) : Reached where
  subject := a
  value? := a.name?.bind holder.get?
  holder := holder

/-- The items of a list that stand for values. -/
def Json.presentItems (items : List Json) : List Json :=
  items.filter fun item => !item.isPlaceholder

namespace Reached

/-- The pairs one step below a pair. -/
def parts (r : Reached) : List Reached :=
  match r.subject.cardinality, r.value? with
  | .one, some (.object members) =>
    r.subject.subAttributes.map fun sub => sub.lookUp (.object members)
  | .many _, some (.array items) =>
    (Json.presentItems items).map fun item => ⟨r.subject.element, some item, .array items⟩
  | _, _ => []

/-! ### The depth-first list -/

theorem sizeOf_element_lt {a : Attribute} {companions : Companions}
    (h : a.cardinality = .many companions) : sizeOf a.element < sizeOf a := by
  cases a with
  | simple traits cardinality form =>
    cases h
    cases companions
    simp only [Attribute.element, Attribute.simple.sizeOf_spec, Cardinality.one.sizeOf_spec,
      Cardinality.many.sizeOf_spec, Companions.mk.sizeOf_spec]
    omega
  | complex traits cardinality subAttributes =>
    cases h
    cases companions
    simp only [Attribute.element, Attribute.complex.sizeOf_spec, Cardinality.one.sizeOf_spec,
      Cardinality.many.sizeOf_spec, Companions.mk.sizeOf_spec]
    omega

theorem sizeOf_subAttribute_lt {a sub : Attribute} (h : sub ∈ a.subAttributes) :
    sizeOf sub < sizeOf a := by
  cases a with
  | simple traits cardinality form => cases h
  | complex traits cardinality subAttributes =>
    have hlt := List.sizeOf_lt_of_mem h
    simp only [Attribute.subAttributes] at hlt
    simp only [Attribute.complex.sizeOf_spec]
    omega

theorem sizeOf_subject_lt {r p : Reached} (h : p ∈ r.parts) :
    sizeOf p.subject < sizeOf r.subject := by
  unfold parts at h
  split at h
  · obtain ⟨sub, hsub, rfl⟩ := List.mem_map.mp h
    exact sizeOf_subAttribute_lt hsub
  · rename_i hcardinality _
    obtain ⟨item, -, rfl⟩ := List.mem_map.mp h
    exact sizeOf_element_lt hcardinality
  · cases h

/-- A pair and everything below it, depth first. -/
def preorder (r : Reached) : List Reached :=
  r :: r.parts.attach.flatMap fun p => preorder p.1
termination_by sizeOf r.subject
decreasing_by exact sizeOf_subject_lt p.2

theorem preorder_eq (r : Reached) : r.preorder = r :: r.parts.flatMap preorder := by
  have hattach : r.parts.attach.flatMap (fun p => preorder p.1) = r.parts.flatMap preorder := by
    rw [← List.flatMap_map, List.attach_map_subtype_val]
  rw [preorder, hattach]

/-- What holds of a pair if it holds of the pairs one step below holds of every pair. -/
@[elab_as_elim] theorem partsInduction {motive : Reached → Prop}
    (step : ∀ r : Reached, (∀ p ∈ r.parts, motive p) → motive r) (r : Reached) : motive r :=
  step r fun p _ => partsInduction step p
termination_by sizeOf r.subject
decreasing_by exact sizeOf_subject_lt ‹_›

theorem mem_preorder_self (r : Reached) : r ∈ r.preorder := by
  rw [preorder_eq]
  exact List.mem_cons_self

theorem mem_preorder_of_mem_parts {r p q : Reached} (hp : p ∈ r.preorder) (hq : q ∈ p.parts) :
    q ∈ r.preorder := by
  induction r using partsInduction with
  | step r ih =>
    rw [preorder_eq] at hp ⊢
    refine List.mem_cons_of_mem _ (List.mem_flatMap.mpr ?_)
    rcases List.mem_cons.mp hp with rfl | hbelow
    · exact ⟨q, hq, mem_preorder_self q⟩
    · obtain ⟨first, hfirst, hp⟩ := List.mem_flatMap.mp hbelow
      exact ⟨first, hfirst, ih first hfirst hp⟩

end Reached

/-! ### What is reached -/

/-- The pairs that holding a payload to some attributes reaches. -/
inductive Reaches (attributes : List Attribute) (payload : Json) : Reached → Prop
  | top {a : Attribute} (ha : a ∈ attributes) : Reaches attributes payload (a.lookUp payload)
  | part {r p : Reached} (hr : Reaches attributes payload r) (hp : p ∈ r.parts) :
      Reaches attributes payload p

/-- The pairs that holding a payload to a schema reaches, depth first. -/
def Schema.reached (s : Schema) (payload : Json) : List Reached :=
  s.attributes.flatMap fun a => (a.lookUp payload).preorder

theorem Reaches.of_mem_preorder {attributes : List Attribute} {payload : Json} {r p : Reached}
    (hr : Reaches attributes payload r) (hp : p ∈ r.preorder) : Reaches attributes payload p := by
  induction r using Reached.partsInduction with
  | step r ih =>
    rw [Reached.preorder_eq] at hp
    rcases List.mem_cons.mp hp with rfl | hbelow
    · exact hr
    · obtain ⟨first, hfirst, hp⟩ := List.mem_flatMap.mp hbelow
      exact ih first hfirst (hr.part hfirst) hp

theorem Schema.mem_reached_iff {s : Schema} {payload : Json} {r : Reached} :
    r ∈ s.reached payload ↔ Reaches s.attributes payload r := by
  constructor
  · intro h
    obtain ⟨a, ha, hr⟩ := List.mem_flatMap.mp h
    exact (Reaches.top ha).of_mem_preorder hr
  · intro h
    induction h with
    | top ha =>
      exact List.mem_flatMap.mpr ⟨_, ha, Reached.mem_preorder_self _⟩
    | part hr hp ih =>
      obtain ⟨a, ha, hr⟩ := List.mem_flatMap.mp ih
      exact List.mem_flatMap.mpr ⟨a, ha, Reached.mem_preorder_of_mem_parts hr hp⟩

end IdentitySchema
