/-
  IdentitySchema/Json/Basic.lean
  ==============================
  **JSON values.**  An object is the list of its members; the reader keeps
  them in increasing order of their keys and each key once (`Sorted`), and
  nothing here depends on more than the order the list has.

  Main definitions: look-up of a member, the name of a value's kind, and
  `same`, the equality under which integers and reals are apart and the two
  zeros are one.
-/
import IdentitySchema.Json.Number

namespace IdentitySchema

inductive Json where
  | null
  | bool (value : Bool)
  | number (value : Json.Number)
  | string (value : String)
  | array (items : List Json)
  | object (members : List (String × Json))

namespace Json

instance : Inhabited Json := ⟨.null⟩

abbrev Members := List (String × Json)

/-! ### Members -/

/-- The value under a key, the first if there are several. -/
def Members.get? (members : Members) (key : String) : Option Json :=
  (members.find? fun member => member.1 == key).map (·.2)

def Members.keys (members : Members) : List String :=
  members.map (·.1)

/-- Put a value under a key, in its place among keys in increasing order. A value already there is
replaced. -/
def Members.insert (key : String) (value : Json) : Members → Members
  | [] => [(key, value)]
  | (other, old) :: rest =>
    if other < key then (other, old) :: Members.insert key value rest
    else if other = key then (key, value) :: rest
    else (key, value) :: (other, old) :: rest

/-- The members without those under one of `keys`. -/
def Members.without (members : Members) (keys : List String) : Members :=
  members.filter fun member => !keys.contains member.1

theorem Members.get?_cons (key : String) (value : Json) (rest : Members) (other : String) :
    Members.get? ((key, value) :: rest) other
      = if key = other then some value else Members.get? rest other := by
  by_cases same : key = other <;> simp [Members.get?, same]

/-- What is put under a key is found there, and nothing changes under the other keys. -/
theorem Members.get?_insert (key : String) (value : Json) (members : Members) (other : String) :
    Members.get? (Members.insert key value members) other
      = if key = other then some value else Members.get? members other := by
  induction members with
  | nil => simp [Members.insert, Members.get?_cons]
  | cons member rest ih =>
    obtain ⟨first, old⟩ := member
    unfold Members.insert
    split
    · rename_i less
      by_cases same : first = other
      · subst same
        have apart : key ≠ first := fun e => String.lt_irrefl _ (e ▸ less)
        simp [Members.get?_cons, apart]
      · simp [Members.get?_cons, same, ih]
    · split
      · rename_i equal
        by_cases same : key = other <;> simp [Members.get?_cons, equal, same]
      · simp [Members.get?_cons]

theorem Members.mem_keys_insert {key : String} {value : Json} {members : Members}
    {other : String} (h : other ∈ Members.keys (Members.insert key value members)) :
    other = key ∨ other ∈ Members.keys members := by
  induction members with
  | nil => simpa [Members.insert, Members.keys] using h
  | cons member rest ih =>
    obtain ⟨first, old⟩ := member
    unfold Members.insert at h
    split at h
    · simp only [Members.keys, List.map_cons, List.mem_cons] at h ih ⊢
      rcases h with rfl | h
      · exact .inr (.inl rfl)
      · rcases ih h with rfl | h
        · exact .inl rfl
        · exact .inr (.inr h)
    · split at h <;>
        simp only [Members.keys, List.map_cons, List.mem_cons] at h ⊢ <;> grind

theorem Members.mem_insert {key : String} {value : Json} {members : Members}
    {member : String × Json} (h : member ∈ Members.insert key value members) :
    member = (key, value) ∨ member ∈ members := by
  induction members with
  | nil => simpa [Members.insert] using h
  | cons first rest ih =>
    unfold Members.insert at h
    split at h
    · rcases List.mem_cons.1 h with rfl | h
      · exact .inr List.mem_cons_self
      · exact (ih h).imp_right (List.mem_cons_of_mem _)
    · split at h
      · exact (List.mem_cons.1 h).imp_right (List.mem_cons_of_mem _)
      · exact List.mem_cons.1 h

/-- Keys in strictly increasing order stay so. -/
theorem Members.pairwise_keys_insert {key : String} {value : Json} {members : Members}
    (h : (Members.keys members).Pairwise (· < ·)) :
    (Members.keys (Members.insert key value members)).Pairwise (· < ·) := by
  induction members with
  | nil => simp [Members.insert, Members.keys]
  | cons member rest ih =>
    obtain ⟨first, old⟩ := member
    have ⟨before, ordered⟩ := List.pairwise_cons.1 h
    unfold Members.insert
    split
    · rename_i less
      refine List.pairwise_cons.2 ⟨fun other found => ?_, ih ordered⟩
      rcases Members.mem_keys_insert found with rfl | found
      · exact less
      · exact before other found
    · split
      · rename_i equal
        exact List.pairwise_cons.2 ⟨fun other found => equal ▸ before other found, ordered⟩
      · rename_i notLess notEqual
        have greater : key < first := Decidable.byContradiction fun notGreater =>
          notEqual (String.le_antisymm (String.not_lt.1 notGreater) (String.not_lt.1 notLess))
        refine List.pairwise_cons.2 ⟨fun other found => ?_, h⟩
        rcases List.mem_cons.1 found with rfl | found
        · exact greater
        · exact String.lt_trans greater (before other found)

/-- The value under a key of an object; other values have none. -/
def get? : Json → String → Option Json
  | .object members, key => Members.get? members key
  | _, _ => none

/-! ### Kinds -/

def kindName : Json → String
  | .null => "null"
  | .bool _ => "boolean"
  | .number n => if n.isInteger then "integer" else "decimal"
  | .string _ => "string"
  | .array _ => "array"
  | .object _ => "object"

def isNull : Json → Bool
  | .null => true
  | _ => false

def isObject : Json → Bool
  | .object _ => true
  | _ => false

def string? : Json → Option String
  | .string text => some text
  | _ => none

/-! ### Equality -/

mutual

/-- Equality of values, member by member and item by item. -/
def same : Json → Json → Bool
  | .null, .null => true
  | .bool a, .bool b => a == b
  | .number a, .number b => a.same b
  | .string a, .string b => a == b
  | .array xs, .array ys => sameItems xs ys
  | .object ms, .object ns => sameMembers ms ns
  | _, _ => false
  termination_by structural x => x

def sameItems : List Json → List Json → Bool
  | [], [] => true
  | x :: xs, y :: ys => same x y && sameItems xs ys
  | _, _ => false
  termination_by structural xs => xs

def sameMembers : List (String × Json) → List (String × Json) → Bool
  | [], [] => true
  | (k, x) :: ms, (l, y) :: ns => k == l && same x y && sameMembers ms ns
  | _, _ => false
  termination_by structural ms => ms

end

/-! ### The form the reader gives -/

mutual

/-- Every object in the value has its keys in strictly increasing order. -/
def Sorted : Json → Prop
  | .array items => SortedItems items
  | .object members => (Members.keys members).Pairwise (· < ·) ∧ SortedMembers members
  | _ => True
  termination_by structural x => x

def SortedItems : List Json → Prop
  | [] => True
  | item :: rest => Sorted item ∧ SortedItems rest
  termination_by structural items => items

def SortedMembers : List (String × Json) → Prop
  | [] => True
  | (_, value) :: rest => Sorted value ∧ SortedMembers rest
  termination_by structural members => members

end

theorem sortedItems_iff {items : List Json} : SortedItems items ↔ ∀ item ∈ items, Sorted item := by
  induction items with
  | nil => simp [SortedItems]
  | cons item rest ih => simp [SortedItems, ih]

theorem sortedMembers_iff {members : Members} :
    SortedMembers members ↔ ∀ member ∈ members, Sorted member.2 := by
  induction members with
  | nil => simp [SortedMembers]
  | cons member rest ih => simp [SortedMembers, ih]

end Json

end IdentitySchema
