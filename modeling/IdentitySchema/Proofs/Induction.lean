/-
  IdentitySchema/Proofs/Induction.lean
  ====================================
  **Induction over values, fragments and attributes.**  All three are trees
  whose branches are kept in lists.  Each principle gives the hypothesis for
  every branch at once, so that no proof has to treat lists of branches apart.
-/
import IdentitySchema.Attribute.Fragment

namespace IdentitySchema

/-! ### Values -/

/-- What holds of a value if it holds of its items, or of the values of its members, holds of
every value. -/
@[elab_as_elim, induction_eliminator] theorem Json.induction {motive : Json → Prop}
    (null : motive .null)
    (bool : ∀ value, motive (.bool value))
    (number : ∀ value, motive (.number value))
    (string : ∀ value, motive (.string value))
    (array : ∀ items, (∀ item ∈ items, motive item) → motive (.array items))
    (object : ∀ members, (∀ member ∈ members, motive member.2) → motive (.object members))
    (value : Json) : motive value :=
  @Json.rec motive (fun items => ∀ item ∈ items, motive item)
    (fun members => ∀ member ∈ members, motive member.2) (fun member => motive member.2)
    null bool number string array object
    (fun _ h => absurd h List.not_mem_nil)
    (fun _ _ hhead htail => List.forall_mem_cons.mpr ⟨hhead, htail⟩)
    (fun _ h => absurd h List.not_mem_nil)
    (fun _ _ hhead htail => List.forall_mem_cons.mpr ⟨hhead, htail⟩)
    (fun _ _ h => h)
    value

/-! ### Fragments -/

/-- A value is smaller than the object that holds it. -/
theorem Json.Members.sizeOf_get?_lt {members : Json.Members} {key : String} {value : Json}
    (h : members.get? key = some value) : sizeOf value < sizeOf members := by
  induction members with
  | nil => simp [Json.Members.get?] at h
  | cons member rest ih =>
    obtain ⟨first, old⟩ := member
    rw [Json.Members.get?_cons] at h
    split at h
    · cases h
      simp only [List.cons.sizeOf_spec, Prod.mk.sizeOf_spec]
      omega
    · have hrest := ih h
      simp only [List.cons.sizeOf_spec]
      omega

/-- What holds of a fragment if it holds of the fragments of its sub-attributes holds of every
fragment. -/
@[elab_as_elim] theorem Json.Members.fragmentInduction {motive : Json.Members → Prop}
    (step : ∀ fragment : Json.Members,
      (∀ entries, fragment.get? "subAttributes" = some (.array entries) →
        ∀ sub, Json.object sub ∈ entries → motive sub) → motive fragment)
    (fragment : Json.Members) : motive fragment :=
  step fragment fun entries hentries sub hsub =>
    have hlist : sizeOf (Json.array entries) < sizeOf fragment := sizeOf_get?_lt hentries
    have hentry : sizeOf (Json.object sub) < sizeOf entries := List.sizeOf_lt_of_mem hsub
    have hsize : sizeOf sub < sizeOf fragment := by
      simp only [Json.array.sizeOf_spec, Json.object.sizeOf_spec] at hlist hentry
      omega
    fragmentInduction step sub
termination_by sizeOf fragment

/-! ### Attributes -/

/-- What holds of an attribute if it holds of its sub-attributes holds of every attribute. -/
@[elab_as_elim, induction_eliminator] theorem Attribute.induction {motive : Attribute → Prop}
    (simple : ∀ traits cardinality form, motive (.simple traits cardinality form))
    (complex : ∀ traits cardinality subAttributes, (∀ sub ∈ subAttributes, motive sub) →
      motive (.complex traits cardinality subAttributes))
    (a : Attribute) : motive a :=
  @Attribute.rec motive (fun subAttributes => ∀ sub ∈ subAttributes, motive sub)
    simple complex
    (fun _ h => absurd h List.not_mem_nil)
    (fun _ _ hhead htail => List.forall_mem_cons.mpr ⟨hhead, htail⟩)
    a

end IdentitySchema
