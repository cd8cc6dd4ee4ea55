/-
  IdentitySchema/Proofs/Registry.lean
  ===================================
  **What a registry holds.**  A registry is a finite map from ids to schemas:
  putting in a schema changes what is found under its id and nothing else
  (`get?_insert`), and of several schemas with one id the last one is found
  (`get?_ofList`).  It lists each schema that it holds once, in the order of
  the ids (`mem_schemas_iff`).
-/
import IdentitySchema.Registry
import Mathlib.Data.List.Nodup
import Mathlib.Data.String.Basic

namespace IdentitySchema.Registry

variable {r : Registry} {s : Schema} {id : String}

/-! ### Looking up -/

theorem id_of_get? (h : r.get? id = some s) : s.id = id := by
  have hfound := List.find?_some h
  exact beq_iff_eq.mp hfound

theorem mem_of_get? (h : r.get? id = some s) : s ∈ r.schemas :=
  List.mem_of_find?_eq_some h

theorem find?_eq_some_of_mem {schemas : List Schema} (hordered : schemas.Pairwise (·.id < ·.id))
    (hs : s ∈ schemas) : schemas.find? (·.id == s.id) = some s := by
  induction schemas with
  | nil => cases hs
  | cons other rest ih =>
    obtain ⟨hbefore, hrest⟩ := List.pairwise_cons.mp hordered
    rcases List.mem_cons.mp hs with rfl | hs
    · simp
    · have hne : other.id ≠ s.id := fun hid => String.lt_irrefl _ (hid ▸ hbefore s hs)
      rw [List.find?_cons_of_neg (by simpa using hne)]
      exact ih hrest hs

/-- What a registry lists is what it holds. -/
theorem mem_schemas_iff : s ∈ r.schemas ↔ r.get? s.id = some s :=
  ⟨find?_eq_some_of_mem r.ordered, mem_of_get?⟩

theorem nodup_schemas (r : Registry) : r.schemas.Nodup := by
  refine r.ordered.imp ?_
  rintro s other hless rfl
  exact String.lt_irrefl _ hless

theorem contains_iff : r.contains id = true ↔ ∃ s, r.get? id = some s := by
  rw [contains, Option.isSome_iff_exists]

theorem contains_eq_false_iff : r.contains id = false ↔ r.get? id = none := by
  rw [contains, Option.isSome_eq_false_iff, Option.isNone_iff_eq_none]

theorem get?_empty (id : String) : empty.get? id = none := rfl

/-! ### Putting in -/

theorem find?_insertById (s : Schema) (schemas : List Schema) (id : String) :
    (insertById s schemas).find? (·.id == id) =
      if s.id = id then some s else schemas.find? (·.id == id) := by
  induction schemas with
  | nil => by_cases hid : s.id = id <;> simp [insertById, hid]
  | cons other rest ih =>
    unfold insertById
    split
    · rename_i hless
      by_cases hother : other.id = id
      · have hne : s.id ≠ id := fun hid => String.lt_irrefl _ (hid ▸ hother ▸ hless)
        simp [hother, hne]
      · simp [hother, ih]
    · split
      · rename_i hsame
        by_cases hid : s.id = id
        · simp [hid]
        · simp [hid, hsame]
      · by_cases hid : s.id = id
        · simp [hid]
        · simp [hid]

/-- What is put in is found under its id, and nothing changes under the other ids. -/
theorem get?_insert (r : Registry) (s : Schema) (id : String) :
    (r.insert s).get? id = if s.id = id then some s else r.get? id :=
  find?_insertById s r.schemas id

/-- In a list in order, nothing from an id on has a smaller id. -/
theorem find?_eq_none_of_lt {other : Schema} {rest : List Schema}
    (hordered : (other :: rest).Pairwise (·.id < ·.id)) (hless : id < other.id) :
    (other :: rest).find? (·.id == id) = none := by
  rw [List.find?_eq_none]
  intro later hlater hid
  have hid : later.id = id := by simpa using hid
  rcases List.mem_cons.mp hlater with rfl | hlater
  · exact String.lt_irrefl _ (hid ▸ hless)
  · have hbefore := (List.pairwise_cons.mp hordered).1 later hlater
    exact String.lt_irrefl _ (String.lt_trans (hid ▸ hbefore) hless)

/-- The schema that is replaced is the one that is found under the id. -/
theorem replacedById_eq_find? {schemas : List Schema}
    (hordered : schemas.Pairwise (·.id < ·.id)) :
    replacedById s schemas = schemas.find? (·.id == s.id) := by
  induction schemas with
  | nil => rfl
  | cons other rest ih =>
    unfold replacedById
    split
    · rename_i hless
      have hne : other.id ≠ s.id := fun hid => String.lt_irrefl _ (hid ▸ hless)
      rw [List.find?_cons_of_neg (by simpa using hne)]
      exact ih (List.pairwise_cons.mp hordered).2
    · rename_i hnotLess
      split
      · rename_i hid
        rw [List.find?_cons_of_pos (by simpa using hid)]
      · rename_i hne
        have hgreater := lt_of_le_of_ne (String.not_lt.mp hnotLess) (Ne.symm hne)
        rw [find?_eq_none_of_lt hordered hgreater]

/-- A list grows by one exactly when no schema is replaced. -/
theorem length_insertById (s : Schema) (schemas : List Schema) :
    (insertById s schemas).length =
      schemas.length + if replacedById s schemas = none then 1 else 0 := by
  induction schemas with
  | nil => rfl
  | cons other rest ih =>
    unfold insertById replacedById
    split
    · rw [List.length_cons, List.length_cons, ih]
      omega
    · split
      · simp
      · simp

theorem add_fst (r : Registry) (s : Schema) : (r.add s).1 = r.get? s.id :=
  replacedById_eq_find? r.ordered

theorem size_add (r : Registry) (s : Schema) :
    (r.add s).2.size = r.size + if (r.add s).1 = none then 1 else 0 :=
  length_insertById s r.schemas

/-! ### Putting in several schemas -/

/-- The last of some schemas with an id. -/
def latest? (schemas : List Schema) (id : String) : Option Schema :=
  schemas.reverse.find? (·.id == id)

theorem latest?_append (before after : List Schema) (id : String) :
    latest? (before ++ after) id = (latest? after id).or (latest? before id) := by
  rw [latest?, List.reverse_append, List.find?_append]
  rfl

theorem latest?_singleton (s : Schema) (id : String) :
    latest? [s] id = if s.id = id then some s else none := by
  by_cases hid : s.id = id <;> simp [latest?, hid]

theorem latest?_eq_some_iff {schemas : List Schema} :
    latest? schemas id = some s ↔
      s.id = id ∧ ∃ before after, schemas = before ++ s :: after ∧ ∀ t ∈ after, t.id ≠ id := by
  rw [latest?, List.find?_eq_some_iff_append, beq_iff_eq]
  refine and_congr_right fun _ => ?_
  constructor
  · rintro ⟨after, before, hsplit, hafter⟩
    refine ⟨before.reverse, after.reverse, ?_, ?_⟩
    · rw [← List.reverse_inj, hsplit]
      simp
    · intro t ht
      simpa using hafter t (List.mem_reverse.mp ht)
  · rintro ⟨before, after, rfl, hafter⟩
    refine ⟨after.reverse, before.reverse, by simp, ?_⟩
    intro t ht
    simpa using hafter t (List.mem_reverse.mp ht)

theorem latest?_eq_none_iff {schemas : List Schema} :
    latest? schemas id = none ↔ ∀ s ∈ schemas, s.id ≠ id := by
  simp [latest?, List.find?_eq_none]

/-- Of several schemas with one id, the last one that was put in is found. -/
theorem get?_insertAll (r : Registry) (schemas : List Schema) (id : String) :
    (r.insertAll schemas).get? id = (latest? schemas id).or (r.get? id) := by
  induction schemas generalizing r with
  | nil => rfl
  | cons s rest ih =>
    have hstep : r.insertAll (s :: rest) = (r.insert s).insertAll rest := rfl
    rw [hstep, ih, get?_insert, ← List.singleton_append, latest?_append, latest?_singleton,
      Option.or_assoc]
    by_cases hid : s.id = id <;> simp [hid]

theorem get?_ofList (schemas : List Schema) (id : String) :
    (ofList schemas).get? id = latest? schemas id := by
  rw [ofList, get?_insertAll, get?_empty, Option.or_none]

theorem insertAll_append (r : Registry) (before after : List Schema) :
    r.insertAll (before ++ after) = (r.insertAll before).insertAll after :=
  List.foldl_append

theorem insertAll_ofList (before after : List Schema) :
    (ofList before).insertAll after = ofList (before ++ after) :=
  (insertAll_append _ _ _).symm

theorem mem_of_get?_ofList {schemas : List Schema} (h : (ofList schemas).get? id = some s) :
    s ∈ schemas := by
  rw [get?_ofList] at h
  obtain ⟨-, before, after, rfl, -⟩ := latest?_eq_some_iff.mp h
  exact List.mem_append_right _ List.mem_cons_self

theorem contains_ofList {schemas : List Schema} :
    (ofList schemas).contains id = (schemas.map Schema.id).contains id := by
  rw [Bool.eq_iff_iff, contains, get?_ofList, latest?, List.find?_isSome, List.contains_iff_mem]
  simp only [List.mem_reverse, List.mem_map, beq_iff_eq]

/-- Of schemas with different ids, each is found under its own. -/
theorem get?_ofList_of_mem {schemas : List Schema} (hnodup : (schemas.map Schema.id).Nodup)
    (hs : s ∈ schemas) : (ofList schemas).get? s.id = some s := by
  have hcontains : (ofList schemas).contains s.id = true := by
    rw [contains_ofList, List.contains_iff_mem]
    exact List.mem_map_of_mem hs
  obtain ⟨found, hfound⟩ := contains_iff.mp hcontains
  have hsame := List.inj_on_of_nodup_map hnodup (mem_of_get?_ofList hfound) hs (id_of_get? hfound)
  rw [hfound, hsame]

theorem get?_insertAll_of_forall_ne {schemas : List Schema} (h : ∀ s ∈ schemas, s.id ≠ id) :
    (r.insertAll schemas).get? id = r.get? id := by
  rw [get?_insertAll, latest?_eq_none_iff.mpr h, Option.none_or]

end IdentitySchema.Registry
