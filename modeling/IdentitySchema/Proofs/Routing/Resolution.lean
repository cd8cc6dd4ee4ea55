/-
  IdentitySchema/Proofs/Routing/Resolution.lean
  =============================================
  **How a payload is routed to its schemas.**  `Resolution` says what comes
  out for every payload, in the order in which the outcomes are decided:

    * there is no list of names, or an empty one;
    * some entry of the list names no schema, and the first such one counts;
    * the entries that name core schemas are none or several;
    * there is one core schema, and the other entries name the extensions.

  The four exclude each other, and `ofPayload` decides between them in one
  pass over the list (`ofPayload_eq_iff`).
-/
import IdentitySchema.Proofs.Document.Reports
import IdentitySchema.Proofs.Failures
import IdentitySchema.Proofs.Registry
import IdentitySchema.Routing
import Mathlib.Data.List.Basic

namespace IdentitySchema.Routed

/-! ### Outcomes -/

/-- One of the registries has a schema with the id. -/
def Registered (core extensions : Registry) (uri : String) : Prop :=
  core.contains uri = true ∨ extensions.contains uri = true

/-- The entry is the id of a registered schema. -/
def NamesSchema (core extensions : Registry) (entry : Json) : Prop :=
  ∃ uri, entry = .string uri ∧ Registered core extensions uri

/-- What comes out for a payload, with a registry of core schemas and one of extensions. -/
inductive Resolution (payload : Json) (core extensions : Registry) :
    Except PayloadError Routed → Prop
  | missing
      (hnone : ¬ ∃ (members : Json.Members) (entries : List Json), payload = .object members ∧
        members.get? "schemas" = some (.array entries) ∧ entries ≠ []) :
      Resolution payload core extensions (.error (.leaf .missingSchemas))
  | unknown {before after : List Json} {entry : Json}
      (hlist : payload.get? "schemas" = some (.array (before ++ entry :: after)))
      (hbefore : ∀ earlier ∈ before, NamesSchema core extensions earlier)
      (hentry : ¬ NamesSchema core extensions entry) :
      Resolution payload core extensions (.error (.leaf (.unknownSchemaUri entry.rendered)))
  | miscounted {uris : List String}
      (hlist : payload.get? "schemas" = some (.array (uris.map .string))) (hne : uris ≠ [])
      (hall : ∀ uri ∈ uris, Registered core extensions uri)
      (hcores : (uris.filter core.contains).length ≠ 1) :
      Resolution payload core extensions
        (.error (.leaf (.coreSchemaCount (uris.filter core.contains))))
  | routed {uris : List String} {uri : String} {s : Schema} {others : List Schema}
      (hlist : payload.get? "schemas" = some (.array (uris.map .string)))
      (hall : ∀ uri ∈ uris, Registered core extensions uri)
      (hcore : uris.filter core.contains = [uri]) (hs : core.get? uri = some s)
      (hothers : (uris.filter fun other => !core.contains other).map extensions.get? =
        others.map some) :
      Resolution payload core extensions (.ok ⟨payload, s, others⟩)

/-! ### The entries of the list -/

theorem declared_of_list {payload : Json} {entries : List Json}
    (hlist : payload.get? "schemas" = some (.array entries)) : declared payload = entries := by
  rw [declared, hlist]

theorem list_of_declared {payload : Json} {entries : List Json}
    (h : declared payload = entries) (hne : entries ≠ []) :
    payload.get? "schemas" = some (.array entries) := by
  unfold declared at h
  split at h
  · rename_i list hlist
    rw [hlist, h]
  · exact absurd h.symm hne

theorem declared_eq_nil_iff {payload : Json} :
    declared payload = [] ↔
      ¬ ∃ (members : Json.Members) (entries : List Json), payload = .object members ∧
        members.get? "schemas" = some (.array entries) ∧ entries ≠ [] := by
  constructor
  · rintro hnil ⟨members, entries, rfl, hlist, hne⟩
    have hdeclared : declared (.object members) = entries := declared_of_list hlist
    exact hne (hdeclared.symm.trans hnil)
  · intro hnone
    by_contra hne
    have hlist := list_of_declared rfl hne
    cases payload with
    | object members => exact hnone ⟨members, _, rfl, hlist, hne⟩
    | _ => cases hlist

variable {core extensions : Registry}

/-- An entry resolves exactly when it names a schema, and is reported otherwise. -/
theorem resolve_eq_error_of_not {entry : Json} (h : ¬ NamesSchema core extensions entry) :
    Route.resolve core extensions entry = .error (.leaf (.unknownSchemaUri entry.rendered)) := by
  cases entry with
  | string uri =>
    have hunregistered : ¬ Registered core extensions uri := fun huri => h ⟨uri, rfl, huri⟩
    unfold Registered at hunregistered
    rw [not_or, Bool.not_eq_true, Bool.not_eq_true, Registry.contains_eq_false_iff,
      Registry.contains_eq_false_iff] at hunregistered
    rw [Route.resolve, hunregistered.1, hunregistered.2]
    rfl
  | _ => rfl

theorem exists_resolve_eq_ok {entry : Json} (h : NamesSchema core extensions entry) :
    ∃ route, Route.resolve core extensions entry = .ok route := by
  obtain ⟨uri, rfl, huri⟩ := h
  rw [Route.resolve]
  cases hcore : core.get? uri with
  | some s => exact ⟨_, rfl⟩
  | none =>
    have hextension : extensions.contains uri = true := by
      refine huri.resolve_left ?_
      rw [Bool.not_eq_true, Registry.contains_eq_false_iff]
      exact hcore
    obtain ⟨s, hs⟩ := Registry.contains_iff.mp hextension
    rw [hs]
    exact ⟨_, rfl⟩

/-- The first entry that names no schema ends the resolution. -/
theorem mapM_resolve_eq_error {before after : List Json} {entry : Json}
    (hbefore : ∀ earlier ∈ before, NamesSchema core extensions earlier)
    (hentry : ¬ NamesSchema core extensions entry) :
    (before ++ entry :: after).mapM (Route.resolve core extensions) =
      .error (.leaf (.unknownSchemaUri entry.rendered)) := by
  induction before with
  | nil =>
    rw [List.nil_append, List.mapM_cons, resolve_eq_error_of_not hentry]
    rfl
  | cons first rest ih =>
    obtain ⟨route, hroute⟩ := exists_resolve_eq_ok (hbefore first List.mem_cons_self)
    rw [List.cons_append, List.mapM_cons, hroute,
      ih fun earlier hearlier => hbefore earlier (List.mem_cons_of_mem _ hearlier)]
    rfl

/-- If all entries name schemas, the routes lead to the core schemas under the names of the core
registry and to the extensions under the others. -/
theorem exists_mapM_resolve_eq_ok {uris : List String}
    (hall : ∀ uri ∈ uris, Registered core extensions uri) :
    ∃ routes, (uris.map Json.string).mapM (Route.resolve core extensions) = .ok routes ∧
      (routes.filterMap Route.core?).map some = (uris.filter core.contains).map core.get? ∧
      (routes.filterMap Route.extension?).map some =
        (uris.filter fun uri => !core.contains uri).map extensions.get? := by
  induction uris with
  | nil => exact ⟨[], rfl, rfl, rfl⟩
  | cons uri rest ih =>
    obtain ⟨routes, hroutes, hcores, hextensions⟩ :=
      ih fun other hother => hall other (List.mem_cons_of_mem _ hother)
    rw [List.map_cons, List.mapM_cons, hroutes]
    cases hcore : core.get? uri with
    | some s =>
      have hcontains : core.contains uri = true := Registry.contains_iff.mpr ⟨s, hcore⟩
      refine ⟨.core s :: routes, ?_, ?_, ?_⟩
      · rw [Route.resolve, hcore]
        rfl
      · rw [List.filter_cons_of_pos hcontains, List.map_cons, hcore, ← hcores]
        rfl
      · rw [List.filter_cons_of_neg (by simp [hcontains]), ← hextensions]
        rfl
    | none =>
      have hcontains : core.contains uri = false := Registry.contains_eq_false_iff.mpr hcore
      obtain ⟨s, hs⟩ := Registry.contains_iff.mp
        ((hall uri List.mem_cons_self).resolve_left (by simp [hcontains]))
      refine ⟨.extension s :: routes, ?_, ?_, ?_⟩
      · rw [Route.resolve, hcore, hs]
        rfl
      · rw [List.filter_cons_of_neg (by simp [hcontains]), ← hcores]
        rfl
      · rw [List.filter_cons_of_pos (by simp [hcontains]), List.map_cons, hs, ← hextensions]
        rfl

/-- What a registry has under some ids has these ids. -/
theorem map_id_of_map_get? {r : Registry} {uris : List String} {schemas : List Schema}
    (h : uris.map r.get? = schemas.map some) : schemas.map Schema.id = uris := by
  induction uris generalizing schemas with
  | nil =>
    rw [List.map_nil] at h
    rw [List.map_eq_nil_iff.mp h.symm]
    rfl
  | cons uri rest ih =>
    cases schemas with
    | nil => cases h
    | cons s others =>
      rw [List.map_cons, List.map_cons, List.cons.injEq] at h
      rw [List.map_cons, Registry.id_of_get? h.1, ih h.2]

/-! ### The outcome -/

section Outcome

variable {payload : Json} {result : Except PayloadError Routed}

theorem ofPayload_of_declared {entries : List Json}
    (hdeclared : declared payload = entries) (hne : entries ≠ []) :
    ofPayload payload core extensions =
      match entries.mapM (Route.resolve core extensions) with
      | .error report => .error report
      | .ok routes =>
        match routes.filterMap Route.core? with
        | [s] => .ok ⟨payload, s, routes.filterMap Route.extension?⟩
        | several => .error (.leaf (.coreSchemaCount (several.map Schema.id))) := by
  unfold ofPayload
  rw [hdeclared]
  cases entries with
  | nil => exact absurd rfl hne
  | cons entry rest => rfl

theorem Resolution.ofPayload_eq (h : Resolution payload core extensions result) :
    ofPayload payload core extensions = result := by
  cases h with
  | missing hnone =>
    rw [ofPayload, declared_eq_nil_iff.mpr hnone]
  | unknown hlist hbefore hentry =>
    rw [ofPayload_of_declared (declared_of_list hlist) (by simp),
      mapM_resolve_eq_error hbefore hentry]
  | @miscounted uris hlist hne hall hcores =>
    obtain ⟨routes, hroutes, hfound, -⟩ := exists_mapM_resolve_eq_ok hall
    have hids := map_id_of_map_get? hfound.symm
    rw [ofPayload_of_declared (declared_of_list hlist) (by simpa using hne), hroutes, ← hids]
    dsimp only
    split
    · rename_i s hone
      rw [← hids, hone] at hcores
      exact absurd rfl hcores
    · rfl
  | @routed uris uri s others hlist hall hcore hs hothers =>
    obtain ⟨routes, hroutes, hfound, hrest⟩ := exists_mapM_resolve_eq_ok hall
    have hne : uris ≠ [] := by
      rintro rfl
      cases hcore
    have hone : routes.filterMap Route.core? = [s] := by
      rw [hcore, List.map_singleton, hs] at hfound
      exact (List.map_inj_right fun _ _ => Option.some.inj).mp hfound
    have hextensions : routes.filterMap Route.extension? = others := by
      rw [hothers] at hrest
      exact (List.map_inj_right fun _ _ => Option.some.inj).mp hrest
    rw [ofPayload_of_declared (declared_of_list hlist) (by simpa using hne), hroutes]
    dsimp only
    rw [hone, hextensions]

theorem exists_uris_of_forall {entries : List Json}
    (hall : ∀ entry ∈ entries, NamesSchema core extensions entry) :
    ∃ uris : List String, entries = uris.map .string ∧
      ∀ uri ∈ uris, Registered core extensions uri := by
  induction entries with
  | nil => exact ⟨[], rfl, List.forall_mem_nil _⟩
  | cons entry rest ih =>
    obtain ⟨uri, rfl, huri⟩ := hall entry List.mem_cons_self
    obtain ⟨uris, rfl, huris⟩ := ih fun other hother => hall other (List.mem_cons_of_mem _ hother)
    exact ⟨uri :: uris, rfl, List.forall_mem_cons.mpr ⟨huri, huris⟩⟩

theorem exists_resolution (payload : Json) (core extensions : Registry) :
    ∃ result, Resolution payload core extensions result := by
  cases hdeclared : declared payload with
  | nil => exact ⟨_, .missing (declared_eq_nil_iff.mp hdeclared)⟩
  | cons first rest =>
    have hlist := list_of_declared hdeclared (List.cons_ne_nil _ _)
    by_cases hall : ∀ entry ∈ first :: rest, NamesSchema core extensions entry
    · obtain ⟨uris, huris, hregistered⟩ := exists_uris_of_forall hall
      rw [huris] at hlist
      have hne : uris ≠ [] := by
        rintro rfl
        cases huris
      by_cases hcores : (uris.filter core.contains).length = 1
      · obtain ⟨uri, huri⟩ := List.length_eq_one_iff.mp hcores
        have hcontains : core.contains uri = true :=
          List.of_mem_filter (huri ▸ List.mem_singleton_self uri)
        obtain ⟨s, hs⟩ := Registry.contains_iff.mp hcontains
        obtain ⟨routes, -, -, hothers⟩ := exists_mapM_resolve_eq_ok hregistered
        exact ⟨_, .routed hlist hregistered huri hs hothers.symm⟩
      · exact ⟨_, .miscounted hlist hne hregistered hcores⟩
    · obtain ⟨before, entry, after, hsplit, hbefore, hentry⟩ := exists_first_not hall
      rw [hsplit] at hlist
      exact ⟨_, .unknown hlist hbefore hentry⟩

/-- The resolution of a payload is what comes out, and nothing else is. -/
theorem ofPayload_eq_iff :
    ofPayload payload core extensions = result ↔ Resolution payload core extensions result := by
  constructor
  · rintro rfl
    obtain ⟨result, hresult⟩ := exists_resolution payload core extensions
    rw [hresult.ofPayload_eq]
    exact hresult
  · exact Resolution.ofPayload_eq

/-! ### Shadowed extensions -/

theorem resolve_insertAll {more : List Schema}
    (hmore : ∀ s ∈ more, core.contains s.id = true) (entry : Json) :
    Route.resolve core (extensions.insertAll more) entry = Route.resolve core extensions entry := by
  cases entry with
  | string uri =>
    cases hcore : core.get? uri with
    | some s => rw [Route.resolve, Route.resolve, hcore]
    | none =>
      have hother : ∀ s ∈ more, s.id ≠ uri := by
        intro s hs hid
        have hcontains := hmore s hs
        rw [hid, Registry.contains_iff, hcore] at hcontains
        obtain ⟨_, hsome⟩ := hcontains
        cases hsome
      rw [Route.resolve, Route.resolve, Registry.get?_insertAll_of_forall_ne hother]
  | _ => rfl

theorem ofPayload_insertAll {more : List Schema}
    (hmore : ∀ s ∈ more, core.contains s.id = true) :
    ofPayload payload core (extensions.insertAll more) = ofPayload payload core extensions := by
  have hresolve : Route.resolve core (extensions.insertAll more) = Route.resolve core extensions :=
    funext (resolve_insertAll hmore)
  unfold ofPayload
  rw [hresolve]

theorem contains_eq_false_of_ofPayload {r : Routed} (h : ofPayload payload core extensions = .ok r) :
    ∀ s ∈ r.extensions, core.contains s.id = false := by
  intro s hs
  cases ofPayload_eq_iff.mp h with
  | routed hlist hall hcore hget hothers =>
    have hid := List.mem_map_of_mem (f := Schema.id) hs
    rw [map_id_of_map_get? hothers] at hid
    simpa using List.of_mem_filter hid

/-- **A payload is routed to exactly the schemas that it names.**  What comes out for a payload is
its resolution. No extension of a routed payload has the id of a core schema, and extensions with
such ids change nothing. -/
theorem ofPayload_resolves_declared (payload : Json) (core extensions : Registry) :
    (∀ result, ofPayload payload core extensions = result ↔
      Resolution payload core extensions result) ∧
    (∀ r, ofPayload payload core extensions = .ok r →
      ∀ s ∈ r.extensions, core.contains s.id = false) ∧
    (∀ more : List Schema, (∀ s ∈ more, core.contains s.id = true) →
      ofPayload payload core (extensions.insertAll more) = ofPayload payload core extensions) :=
  ⟨fun _ => ofPayload_eq_iff, fun _ => contains_eq_false_of_ofPayload,
    fun _ => ofPayload_insertAll⟩

/-- A schema of devices, which says nothing but its id. -/
def device : Schema where
  toDeclaration := .ofDocument .resource [("id", .string "urn:device")] []
  wellShaped := by decide

def batteryDocument : Json.Members :=
  [("attributes", .array [.object [("name", .string "charge"), ("required", .bool true),
      ("type", .string "integer")]]),
    ("id", .string "urn:battery")]

/-- A schema of batteries, which have a charge. -/
def battery : Schema where
  toDeclaration := .ofDocument .resource batteryDocument (Schema.attempts batteryDocument)
  wellShaped := by decide

/-- A device with a battery that is named first. -/
def devicePayload : Json :=
  .object [("schemas", .array [.string "urn:battery", .string "urn:device"])]

/-- The device stays the core schema when it is an extension too. -/
theorem device_resolved_as_core :
    (∀ s ∈ [device], (Registry.ofList [device]).contains s.id = true) ∧
    ofPayload devicePayload (.ofList [device]) ((Registry.ofList [battery]).insertAll [device]) =
      .ok ⟨devicePayload, device, [battery]⟩ := by
  have hshadowed : ∀ s ∈ [device], (Registry.ofList [device]).contains s.id = true := by
    intro s hs
    rw [List.mem_singleton.mp hs]
    rfl
  obtain ⟨-, -, hunchanged⟩ :=
    ofPayload_resolves_declared devicePayload (.ofList [device]) (.ofList [battery])
  exact ⟨hshadowed, (hunchanged [device] hshadowed).trans rfl⟩

end Outcome

end IdentitySchema.Routed
