/-
  IdentitySchema/Proofs/Registry/Runs.lean
  ========================================
  **Registries over whole runs.**  A registry is made in one of several ways,
  and schemas are added to it one after the other.  Whatever was done, it
  holds under each id the schema that was put in last, and lists what it holds
  once, in the order of the ids (`run_reflects`).

  The invariant is that a registry is that of the list of the schemas that
  went into it (`History.Filled`); every way of making one starts such a list,
  and an addition makes it longer.
-/
import IdentitySchema.Proofs.ByteOrder
import IdentitySchema.Proofs.Registry.Builds

namespace IdentitySchema.Registry

variable {r : Registry} {s : Schema} {id : String}

/-! ### What a registry answers -/

/-- What a registry answers into which some schemas were put, one after the other. -/
structure Reflects (r : Registry) (added : List Schema) : Prop where
  /-- Each schema stands under its own id, which is not empty. -/
  id_of_get? : ∀ id s, r.get? id = some s → s.id = id ∧ id ≠ ""
  contains_iff : ∀ id, r.contains id = true ↔ ∃ s, r.get? id = some s
  require_eq_ok : ∀ id s, r.require id = .ok s ↔ r.get? id = some s
  require_eq_error : ∀ id failure,
    r.require id = .error failure ↔ r.get? id = none ∧ failure = .schemaNotFound id
  /-- Under each id stands the last schema with that id. -/
  get?_eq_latest? : ∀ id, r.get? id = latest? added id
  mem_schemas : ∀ s, s ∈ r.schemas ↔ ∃ id, r.get? id = some s
  nodup_schemas : r.schemas.Nodup
  /-- The list is in the order of the bytes of the ids. -/
  pairwise_schemas : r.schemas.Pairwise fun a b => Json.bytesOf a.id < Json.bytesOf b.id
  size_eq : r.size = r.schemas.length
  /-- An addition gives back the schema that it replaces. -/
  add_returns : ∀ s, (r.add s).1 = r.get? s.id
  size_add : ∀ s, (r.add s).2.size = r.size + if r.get? s.id = none then 1 else 0
  /-- An addition changes what stands under one id only. -/
  get?_add : ∀ s id, (r.add s).2.get? id = if s.id = id then some s else r.get? id

theorem require_eq_ok : r.require id = .ok s ↔ r.get? id = some s := by
  unfold require
  cases r.get? id with
  | none => simp
  | some found => simp

theorem require_eq_error {failure : Failure} :
    r.require id = .error failure ↔ r.get? id = none ∧ failure = .schemaNotFound id := by
  unfold require
  cases r.get? id with
  | none => simp [eq_comm]
  | some found => simp

theorem pairwise_bytes (r : Registry) :
    r.schemas.Pairwise fun a b => Json.bytesOf a.id < Json.bytesOf b.id :=
  r.ordered.imp Json.bytesOf_lt_iff.mpr

theorem reflects_ofList (added : List Schema) : (ofList added).Reflects added where
  id_of_get? id s h := ⟨Registry.id_of_get? h, Registry.id_of_get? h ▸ s.id_ne_empty⟩
  contains_iff _ := Registry.contains_iff
  require_eq_ok _ _ := Registry.require_eq_ok
  require_eq_error _ _ := Registry.require_eq_error
  get?_eq_latest? := get?_ofList added
  mem_schemas s := ⟨fun h => ⟨s.id, mem_schemas_iff.mp h⟩, fun ⟨_, h⟩ => mem_of_get? h⟩
  nodup_schemas := Registry.nodup_schemas _
  pairwise_schemas := pairwise_bytes _
  size_eq := rfl
  add_returns := add_fst _
  size_add s := by rw [Registry.size_add, add_fst]
  get?_add := get?_insert _

/-! ### Runs -/

/-- A way to make a registry. -/
inductive Construction where
  | empty
  | bundled
  | core
  | extensions
  | directory (files : FileSystem) (path : FilePath)
  | build (b : Builder) (files : FileSystem)

namespace Construction

def registry : Construction → Except Failure Registry
  | .empty => .ok Registry.empty
  | .bundled => Registry.bundled
  | .core => Registry.core
  | .extensions => Registry.extensions
  | .directory files path => ofDirectory files path
  | .build b files => b.build files

/-- The schemas that are put in, in order. -/
def schemas : Construction → List Schema
  | .empty => []
  | .bundled => Bundled.core ++ Bundled.extension
  | .core => Bundled.core
  | .extensions => Bundled.extension
  | .directory files path => schemasIn files path
  | .build b files => b.sources files

/-- However a registry is made, it is that of the schemas that are put in. -/
theorem eq_ofList_of_registry {c : Construction} (h : c.registry = .ok r) :
    r = ofList c.schemas := by
  cases c with
  | empty => exact (Except.ok.inj h).symm
  | bundled =>
    have hinitial : Registry.bundled = .ok (ofList (Bundled.core ++ Bundled.extension)) :=
      Builder.initial_eq {}
    rw [registry, hinitial] at h
    exact (Except.ok.inj h).symm
  | core =>
    rw [registry, Registry.core, Bundled.coreSchemas_eq] at h
    exact (Except.ok.inj h).symm
  | extensions =>
    rw [registry, Registry.extensions, Bundled.extensionSchemas_eq] at h
    exact (Except.ok.inj h).symm
  | directory files path => exact (insertDirectory_eq_ok_iff.mp h).2
  | build b files => exact (Builder.build_eq_ok_iff.mp h).2

end Construction

/-- A step of a run: a registry is made in place of the one before, or a schema is added. -/
inductive Step where
  | make (c : Construction)
  | add (s : Schema)

/-- A registry, and the schemas that were put into it since it was made, in order. -/
structure History where
  registry : Registry
  added : List Schema

namespace History

variable {h : History}

/-- A registry that cannot be made leaves the one before in its place. -/
def next (h : History) : Step → History
  | .make c =>
    match c.registry with
    | .ok r => ⟨r, c.schemas⟩
    | .error _ => h
  | .add s => ⟨(h.registry.add s).2, h.added ++ [s]⟩

/-- The registry is that of the schemas that were put in. -/
def Filled (h : History) : Prop :=
  h.registry = ofList h.added

theorem Filled.next (hfilled : h.Filled) (step : Step) : (h.next step).Filled := by
  cases step with
  | make c =>
    cases hmade : c.registry with
    | ok r =>
      have hnext : h.next (.make c) = ⟨r, c.schemas⟩ := by
        simp only [History.next, hmade]
      rw [hnext]
      exact Construction.eq_ofList_of_registry hmade
    | error failure =>
      have hnext : h.next (.make c) = h := by
        simp only [History.next, hmade]
      rw [hnext]
      exact hfilled
  | add s =>
    have hadded : (h.registry.add s).2 = h.registry.insertAll [s] := rfl
    rw [Filled, History.next, hadded, hfilled, insertAll_ofList]

theorem Filled.foldl_next (hfilled : h.Filled) (steps : List Step) :
    (steps.foldl History.next h).Filled := by
  induction steps generalizing h with
  | nil => exact hfilled
  | cons step rest ih => exact ih (hfilled.next step)

end History

/-- What comes of some steps, which begin with an empty registry. -/
def run (steps : List Step) : History :=
  steps.foldl History.next ⟨empty, []⟩

theorem filled_run (steps : List Step) : (run steps).Filled := by
  have hstart : History.Filled ⟨empty, []⟩ := rfl
  exact hstart.foldl_next steps

/-- **After any run a registry reflects what was put into it.**  Each schema stands under its own
id; what is found, what is required and what is contained agree; the last schema with an id is the
one that is held; and what is listed is what is held, in the order of the ids. -/
theorem run_reflects (steps : List Step) : (run steps).registry.Reflects (run steps).added := by
  rw [filled_run steps]
  exact reflects_ofList _

end IdentitySchema.Registry
