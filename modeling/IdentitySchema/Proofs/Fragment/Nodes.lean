/-
  IdentitySchema/Proofs/Fragment/Nodes.lean
  =========================================
  **The nodes of an attribute.**  An attribute is a tree.  One that takes many
  values is a node with one part, the attribute of one of these values; the
  parts of a complex attribute of one value are its sub-attributes.  `nodes`
  lists the tree depth first, each node with those above it.

  What every node hands down to its parts holds of all nodes
  (`forall_mem_nodesUnder`).  The check of the shape goes through the same tree:
  what it reports as nested are just the complex nodes that are marked as
  belonging to a complex attribute (`nestedPaths_checkShape`).
-/
import IdentitySchema.Proofs.Fragment.Reports
import IdentitySchema.Proofs.Payload.Reached

namespace IdentitySchema

open Report

/-! ### Nodes -/

namespace Attribute

/-- Does the attribute take one object with sub-attributes? -/
def isComplex : Attribute → Bool
  | .complex _ .one _ => true
  | _ => false

/-- The nodes right below an attribute: that of one of its values if it takes many, and otherwise
its sub-attributes. -/
def parts (a : Attribute) : List Attribute :=
  match a.cardinality with
  | .one => a.subAttributes
  | .many _ => [a.element]

theorem parts_of_many {a : Attribute} (h : a.isMultiValued = true) : a.parts = [a.element] := by
  unfold isMultiValued at h
  unfold parts
  cases hcardinality : a.cardinality with
  | one =>
    rw [hcardinality] at h
    cases h
  | many companions => rfl

theorem parts_of_one {a : Attribute} (h : a.isMultiValued = false) : a.parts = a.subAttributes := by
  unfold isMultiValued at h
  unfold parts
  cases hcardinality : a.cardinality with
  | one => rfl
  | many companions =>
    rw [hcardinality] at h
    cases h

theorem isMultiValued_element (a : Attribute) : a.element.isMultiValued = false := by
  rw [isMultiValued, cardinality_element]
  rfl

theorem isComplex_of_many {a : Attribute} (h : a.isMultiValued = true) : a.isComplex = false := by
  unfold isComplex
  split
  · cases h
  · rfl

/-- Only a complex attribute of one value has more parts than one of its values. -/
theorem isComplex_of_mem_subAttributes {a sub : Attribute} (hone : a.isMultiValued = false)
    (hsub : sub ∈ a.subAttributes) : a.isComplex = true := by
  cases a with
  | simple traits cardinality form => cases hsub
  | complex traits cardinality subAttributes =>
    cases cardinality with
    | one => rfl
    | many companions => cases hone

theorem sizeOf_part_lt {a part : Attribute} (h : part ∈ a.parts) : sizeOf part < sizeOf a := by
  unfold parts at h
  split at h
  · exact Reached.sizeOf_subAttribute_lt h
  · rename_i hmany
    rw [List.mem_singleton.mp h]
    exact Reached.sizeOf_element_lt hmany

/-- What holds of an attribute if it holds of its parts holds of every attribute. -/
@[elab_as_elim] theorem partsInduction {motive : Attribute → Prop}
    (step : ∀ a : Attribute, (∀ part ∈ a.parts, motive part) → motive a) (a : Attribute) :
    motive a :=
  step a fun part _ => partsInduction step part
termination_by sizeOf a
decreasing_by exact sizeOf_part_lt ‹_›

/-- A node of a tree of attributes, with the nodes above it, the nearest first. -/
structure Node where
  above : List Attribute
  self : Attribute

/-- An attribute and all nodes below it, depth first, if some nodes are above the attribute. -/
def nodesUnder (above : List Attribute) (a : Attribute) : List Node :=
  ⟨above, a⟩ :: a.parts.attach.flatMap fun part => nodesUnder (a :: above) part.1
termination_by sizeOf a
decreasing_by exact sizeOf_part_lt part.2

theorem nodesUnder_eq (above : List Attribute) (a : Attribute) :
    nodesUnder above a = ⟨above, a⟩ :: a.parts.flatMap (nodesUnder (a :: above)) := by
  have hattach : a.parts.attach.flatMap (fun part => nodesUnder (a :: above) part.1) =
      a.parts.flatMap (nodesUnder (a :: above)) := by
    rw [← List.flatMap_map, List.attach_map_subtype_val]
  rw [nodesUnder, hattach]

/-- The nodes of the tree of an attribute. -/
def nodes (a : Attribute) : List Node := nodesUnder [] a

/-- What every node hands down to its parts holds throughout the tree. -/
theorem forall_mem_nodesUnder {P : List Attribute → Attribute → Prop}
    (hpart : ∀ above a, P above a → ∀ part ∈ a.parts, P (a :: above) part) (a : Attribute) :
    ∀ above, P above a → ∀ node ∈ nodesUnder above a, P node.above node.self := by
  induction a using partsInduction with
  | step a ih =>
    intro above h node hnode
    rw [nodesUnder_eq] at hnode
    rcases List.mem_cons.mp hnode with rfl | hbelow
    · exact h
    · obtain ⟨part, hmem, hnode⟩ := List.mem_flatMap.mp hbelow
      exact ih part hmem (a :: above) (hpart above a h part hmem) node hnode

end Attribute

/-! ### Nested complex attributes -/

/-- The path of a complex attribute that belongs to another one. -/
def SchemaViolation.nestedPath? : SchemaViolation → Option Locator
  | .nestedComplex path => some path
  | _ => none

namespace Characteristics

variable {traits : Characteristics} {type : AttributeType} {violation : SchemaViolation}

theorem nestedPath?_of_mem_unlessValid {α : Type} {key expected : String} {declared : Declared α}
    (h : violation ∈ traits.unlessValid key expected declared) : violation.nestedPath? = none := by
  cases declared with
  | valid value => cases h
  | invalid raw =>
    rw [List.mem_singleton.mp h]
    rfl

/-- No characteristic by itself makes an attribute a nested one. -/
theorem nestedPath?_of_mem_violations (h : violation ∈ traits.violations type) :
    violation.nestedPath? = none := by
  simp only [violations, List.mem_append] at h
  rcases h with (((((((((hname | hrequired) | hcanonical) | hcase) | hmutability) |
    hreturned) | hunique) | htype) | hdescription) | hmany) | hunknown
  · rw [List.mem_singleton.mp (List.mem_ite_nil_left.mp hname).2]
    rfl
  · exact nestedPath?_of_mem_unlessValid hrequired
  · exact nestedPath?_of_mem_unlessValid hcanonical
  · unfold caseExactViolations at hcase
    dsimp only at hcase
    split at hcase
    · rw [List.mem_singleton.mp (List.mem_ite_nil_left.mp hcase).2]
      rfl
    · rw [List.mem_singleton.mp hcase]
      rfl
  · exact nestedPath?_of_mem_unlessValid hmutability
  · exact nestedPath?_of_mem_unlessValid hreturned
  · unfold uniquenessViolations at hunique
    dsimp only at hunique
    split at hunique
    · rw [List.mem_singleton.mp (List.mem_ite_nil_left.mp hunique).2]
      rfl
    · rw [List.mem_singleton.mp hunique]
      rfl
  · unfold typeViolations at htype
    split at htype
    · cases htype
    · rw [List.mem_singleton.mp htype]
      rfl
  · exact nestedPath?_of_mem_unlessValid hdescription
  · exact nestedPath?_of_mem_unlessValid hmany
  · rw [List.mem_singleton.mp (List.mem_ite_nil_left.mp hunknown).2]
    rfl

theorem nestedPaths_complexViolations (traits : Characteristics) :
    traits.complexViolations.filterMap SchemaViolation.nestedPath? =
      if traits.parentComplex then [traits.path] else [] := by
  have hnone : (traits.violations .complex).filterMap SchemaViolation.nestedPath? = [] :=
    List.filterMap_eq_nil_iff.mpr fun _ h => nestedPath?_of_mem_violations h
  rw [complexViolations, List.filterMap_append, hnone, List.append_nil]
  split
  · rfl
  · rfl

end Characteristics

theorem SimpleForm.nestedPaths_violations (form : SimpleForm) (traits : Characteristics) :
    (form.violations traits).filterMap SchemaViolation.nestedPath? = [] := by
  rw [List.filterMap_eq_nil_iff]
  intro violation h
  rcases List.mem_append.mp h with hcommon | hown
  · exact Characteristics.nestedPath?_of_mem_violations hcommon
  · cases form with
    | reference types => exact Characteristics.nestedPath?_of_mem_unlessValid hown
    | _ => cases hown

namespace Attribute

theorem checkShape_element (a : Attribute) : a.element.checkShape = a.checkShape := by
  cases a <;> rfl

/-- Is the node a complex attribute that is marked as belonging to one? -/
def Node.isNested (node : Node) : Bool := node.self.isComplex && node.self.traits.parentComplex

/-- The check of the shape reports each nested node once, at its path, and in order. -/
theorem nestedPaths_checkShape (a : Attribute) : ∀ above,
    (listed a.checkShape).filterMap SchemaViolation.nestedPath? =
      ((nodesUnder above a).filter Node.isNested).map fun node => node.self.path := by
  induction a using partsInduction with
  | step a ih =>
    intro above
    rw [nodesUnder_eq]
    cases hmany : a.isMultiValued with
    | true =>
      have hparts := parts_of_many hmany
      -- the check does not see the list around a value: only the value can be reported
      have hhead : Node.isNested ⟨above, a⟩ = false := by
        rw [Node.isNested, isComplex_of_many hmany]
        rfl
      rw [List.filter_cons_of_neg (by rw [hhead]; exact Bool.false_ne_true), hparts,
        List.flatMap_singleton, ← checkShape_element]
      exact ih a.element (by rw [hparts]; exact List.mem_singleton_self _) (a :: above)
    | false =>
      rw [parts_of_one hmany] at ih ⊢
      cases a with
      | simple traits cardinality form =>
        rw [listed_checkShape_simple, form.nestedPaths_violations]
        rfl
      | complex traits cardinality subAttributes =>
        cases cardinality with
        | many companions => cases hmany
        | one =>
          have hbelow : ∀ upper, (subAttributes.flatMap fun sub =>
                (listed sub.checkShape).filterMap SchemaViolation.nestedPath?) =
              ((subAttributes.flatMap (nodesUnder upper)).filter Node.isNested).map
                fun node => node.self.path := by
            intro upper
            rw [List.filter_flatMap, List.map_flatMap]
            exact List.flatMap_congr fun sub hsub => ih sub hsub upper
          have hhead : Node.isNested ⟨above, .complex traits .one subAttributes⟩ =
              traits.parentComplex := rfl
          rw [listed_checkShape_complex, List.filterMap_append, List.filterMap_flatMap,
            hbelow (.complex traits .one subAttributes :: above),
            traits.nestedPaths_complexViolations, List.filter_cons, hhead]
          cases traits.parentComplex with
          | true => rfl
          | false => rfl

end Attribute

end IdentitySchema
