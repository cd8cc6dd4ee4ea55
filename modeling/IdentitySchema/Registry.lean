/-
  IdentitySchema/Registry.lean
  ============================
  **Registries of schemas.**  A registry holds schemas by their ids, at most
  one under each id, in increasing order.  `insert` puts a schema under its id
  and replaces the one that was there.
-/
import IdentitySchema.Failure
import IdentitySchema.Schema.Basic

namespace IdentitySchema

/-! ### Lists in order of ids -/

/-- Put a schema in its place among schemas in order of their ids. -/
def insertById (s : Schema) : List Schema → List Schema
  | [] => [s]
  | other :: rest =>
    if other.id < s.id then other :: insertById s rest
    else if other.id = s.id then s :: rest
    else s :: other :: rest

/-- The schema whose place `insertById` gives to another one, if there is one. -/
def replacedById (s : Schema) : List Schema → Option Schema
  | [] => none
  | other :: rest =>
    if other.id < s.id then replacedById s rest
    else if other.id = s.id then some other
    else none

theorem mem_insertById {s t : Schema} {schemas : List Schema} (h : t ∈ insertById s schemas) :
    t = s ∨ t ∈ schemas := by
  induction schemas with
  | nil => simpa [insertById] using h
  | cons other rest ih =>
    unfold insertById at h
    split at h
    · rcases List.mem_cons.1 h with rfl | h
      · exact .inr (List.mem_cons_self)
      · rcases ih h with rfl | h
        · exact .inl rfl
        · exact .inr (List.mem_cons_of_mem _ h)
    · split at h
      · rcases List.mem_cons.1 h with rfl | h
        · exact .inl rfl
        · exact .inr (List.mem_cons_of_mem _ h)
      · exact List.mem_cons.1 h

theorem pairwise_insertById {s : Schema} {schemas : List Schema}
    (h : schemas.Pairwise (·.id < ·.id)) : (insertById s schemas).Pairwise (·.id < ·.id) := by
  induction schemas with
  | nil => simp [insertById]
  | cons other rest ih =>
    have ⟨before, ordered⟩ := List.pairwise_cons.1 h
    unfold insertById
    split
    · rename_i less
      refine List.pairwise_cons.2 ⟨fun t member => ?_, ih ordered⟩
      rcases mem_insertById member with rfl | member
      · exact less
      · exact before t member
    · split
      · rename_i same
        exact List.pairwise_cons.2 ⟨fun t member => same ▸ before t member, ordered⟩
      · rename_i notLess notSame
        have greater : s.id < other.id := Decidable.byContradiction fun notGreater =>
          notSame (String.le_antisymm (String.not_lt.1 notGreater) (String.not_lt.1 notLess))
        refine List.pairwise_cons.2 ⟨fun t member => ?_, h⟩
        rcases List.mem_cons.1 member with rfl | member
        · exact greater
        · exact String.lt_trans greater (before t member)

/-! ### Registries -/

/-- Schemas in strictly increasing order of their ids. -/
structure Registry where
  schemas : List Schema
  ordered : schemas.Pairwise (·.id < ·.id)

namespace Registry

def empty : Registry := ⟨[], .nil⟩

def insert (r : Registry) (s : Schema) : Registry :=
  ⟨insertById s r.schemas, pairwise_insertById r.ordered⟩

/-- Put a schema under its id; what comes first is the one that it replaces. -/
def add (r : Registry) (s : Schema) : Option Schema × Registry :=
  (replacedById s r.schemas, r.insert s)

/-- Put some schemas under their ids, one after the other. -/
def insertAll (r : Registry) (schemas : List Schema) : Registry :=
  schemas.foldl insert r

/-- The registry of some schemas, of which the last of each id counts. -/
def ofList (schemas : List Schema) : Registry :=
  empty.insertAll schemas

def get? (r : Registry) (id : String) : Option Schema :=
  r.schemas.find? fun s => s.id == id

/-- The schema under an id, which must be there. -/
def require (r : Registry) (id : String) : Except Failure Schema :=
  match r.get? id with
  | some s => .ok s
  | none => .error (.schemaNotFound id)

def contains (r : Registry) (id : String) : Bool := (r.get? id).isSome

def size (r : Registry) : Nat := r.schemas.length

def isEmpty (r : Registry) : Bool := r.schemas.isEmpty

end Registry

end IdentitySchema
