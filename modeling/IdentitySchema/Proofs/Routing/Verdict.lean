/-
  IdentitySchema/Proofs/Routing/Verdict.lean
  ==========================================
  **The verdict on a payload.**  `checkPayload` reads the bundled schemas,
  routes the payload and holds it to what it names.  Since the bundled schemas
  are there (`Bundled.exists_coreSchemas`), nothing is left to fail but the
  payload itself (`checkPayload_verdict`): it passes exactly when its list
  names one core schema beside extensions and each of its schemas is satisfied
  (`Satisfied`), and otherwise the report is about the payload.
-/
import IdentitySchema.Proofs.Bundled.Documents
import IdentitySchema.Proofs.Payload.Places
import IdentitySchema.Proofs.Routing.Repetition

namespace IdentitySchema

open Report

/-! ### The core registry -/

/-- The ids of the bundled core schemas. -/
def coreIds : List String :=
  ["urn:ietf:params:scim:schemas:core:2.0:User", "urn:ietf:params:scim:schemas:core:2.0:Group"]

/-- The bundled core schemas. -/
structure Cores (user group : Schema) : Prop where
  bundled : Bundled.coreSchemas = .ok [user, group]
  ids : [user.id, group.id] = coreIds
  constructed : ∀ s ∈ [user, group], s.Constructed

theorem exists_cores : ∃ user group, Cores user group := by
  obtain ⟨user, group, hbundled, huser, hgroup, huserBuilt, hgroupBuilt⟩ :=
    Bundled.exists_coreSchemas
  refine ⟨user, group, hbundled, ?_, ?_⟩
  · rw [huser, hgroup, coreIds]
  · intro s hs
    rcases List.mem_cons.mp hs with rfl | hs
    · exact huserBuilt
    · rw [List.mem_singleton.mp hs]
      exact hgroupBuilt

namespace Cores

variable {user group : Schema} {extensions : Registry} {payload : Json}

theorem registry_eq (h : Cores user group) : Registry.core = .ok (.ofList [user, group]) := by
  rw [Registry.core, h.bundled]
  rfl

theorem contains_eq (h : Cores user group) :
    (Registry.ofList [user, group]).contains = coreIds.contains := by
  funext uri
  rw [Registry.contains_ofList, ← h.ids]
  rfl

/-! ### Steps of a check -/

theorem checkPayload_eq (h : Cores user group) (payload : Json) (extensions : Registry) :
    checkPayload payload extensions =
      Failure.liftPayload (Routed.ofPayload payload (.ofList [user, group]) extensions) >>=
        fun routed => Failure.liftPayload routed.check := by
  rw [checkPayload, h.registry_eq]
  rfl

theorem checkPayload_eq_ok_iff (h : Cores user group) :
    checkPayload payload extensions = .ok () ↔
      ∃ r, Routed.ofPayload payload (.ofList [user, group]) extensions = .ok r ∧
        r.check = .ok () := by
  rw [h.checkPayload_eq, bind_eq_ok]
  simp only [Failure.liftPayload_eq_ok]

theorem checkPayload_of_routed (h : Cores user group) {r : Routed}
    (hrouted : Routed.ofPayload payload (.ofList [user, group]) extensions = .ok r) :
    checkPayload payload extensions = Failure.liftPayload r.check := by
  rw [h.checkPayload_eq, hrouted]
  rfl

/-- A failure is always about the payload. -/
theorem exists_report_of_error (h : Cores user group) {failure : Failure}
    (herror : checkPayload payload extensions = .error failure) :
    ∃ report, failure = .payload report := by
  rw [h.checkPayload_eq] at herror
  cases hrouted : Routed.ofPayload payload (.ofList [user, group]) extensions with
  | error report =>
    rw [hrouted] at herror
    cases herror
    exact ⟨report, rfl⟩
  | ok r =>
    rw [hrouted] at herror
    obtain ⟨report, -, hreport⟩ := Failure.liftPayload_eq_error.mp herror
    exact ⟨report, hreport⟩

end Cores

theorem Routed.check_eq_ok_iff (r : Routed) :
    r.check = .ok () ↔
      (∀ s ∈ r.extensions, s.check (r.part s) = .ok ()) ∧ r.core.check r.payload = .ok () := by
  rw [Routed.check, gather_eq_ok, List.append_eq_nil_iff, List.flatMap_eq_nil_iff,
    found_eq_nil_iff_ok]
  simp only [found_eq_nil_iff_ok]

/-! ### What a payload must satisfy -/

/-- The payload names exactly one core schema and otherwise extensions, and it satisfies all of
them: the core schema as a whole, each extension by its member under the id of the extension, or
by the empty object if it has no such member. -/
def Satisfied (user group : Schema) (extensions : Registry) (payload : Json) : Prop :=
  ∃ uris : List String, payload.get? "schemas" = some (.array (uris.map .string)) ∧ uris ≠ [] ∧
    (∀ uri ∈ uris, uri ∈ coreIds ∨ extensions.contains uri = true) ∧
    ∃ core, uris.filter coreIds.contains = [core] ∧
      (∃ s ∈ [user, group], s.id = core ∧ s.check payload = .ok ()) ∧
      ∀ uri ∈ uris, uri ∉ coreIds → ∀ s, extensions.get? uri = some s →
        s.check ((payload.get? uri).getD (.object [])) = .ok ()

namespace Cores

variable {user group : Schema} {extensions : Registry} {payload : Json}

theorem get?_id (h : Cores user group) {s : Schema} (hs : s ∈ [user, group]) :
    (Registry.ofList [user, group]).get? s.id = some s := by
  refine Registry.get?_ofList_of_mem ?_ hs
  have hids : [user, group].map Schema.id = coreIds := h.ids
  rw [hids]
  decide

theorem registered_iff (h : Cores user group) {uri : String} :
    Routed.Registered (.ofList [user, group]) extensions uri ↔
      uri ∈ coreIds ∨ extensions.contains uri = true := by
  rw [Routed.Registered, h.contains_eq, List.contains_iff_mem]

theorem exists_routed_of_satisfied (h : Cores user group)
    (hsatisfied : Satisfied user group extensions payload) :
    ∃ r, Routed.ofPayload payload (.ofList [user, group]) extensions = .ok r ∧
      r.check = .ok () := by
  obtain ⟨uris, hlist, -, hall, core, hcore, ⟨s, hs, hid, hcheck⟩, hothers⟩ := hsatisfied
  have hregistered : ∀ uri ∈ uris, Routed.Registered (.ofList [user, group]) extensions uri :=
    fun uri huri => h.registered_iff.mpr (hall uri huri)
  obtain ⟨routes, -, -, hextensions⟩ := Routed.exists_mapM_resolve_eq_ok hregistered
  have hone : uris.filter (Registry.ofList [user, group]).contains = [core] := by
    rw [h.contains_eq]
    exact hcore
  have hget : (Registry.ofList [user, group]).get? core = some s := hid ▸ h.get?_id hs
  have hrouted :=
    (Routed.Resolution.routed hlist hregistered hone hget hextensions.symm).ofPayload_eq
  refine ⟨_, hrouted, (Routed.check_eq_ok_iff _).mpr ⟨?_, hcheck⟩⟩
  intro other hother
  have hnamed : other.id ∈ Routed.extensionNames payload (.ofList [user, group]) := by
    rw [← Routed.map_id_extensions hrouted]
    exact List.mem_map_of_mem hother
  rw [Routed.extensionNames_of_list hlist, h.contains_eq, List.mem_filter] at hnamed
  obtain ⟨hlisted, hnotCore⟩ := hnamed
  exact hothers other.id hlisted (by simpa using hnotCore) other
    (Routed.get?_id_of_mem_extensions hrouted hother)

theorem satisfied_of_routed (h : Cores user group) {r : Routed}
    (hrouted : Routed.ofPayload payload (.ofList [user, group]) extensions = .ok r)
    (hcheck : r.check = .ok ()) : Satisfied user group extensions payload := by
  have hpassed := (Routed.check_eq_ok_iff r).mp hcheck
  cases Routed.ofPayload_eq_iff.mp hrouted with
  | @routed uris core s others hlist hall hcore hget hothers =>
    obtain ⟨hextensions, hwhole⟩ := hpassed
    rw [h.contains_eq] at hcore hothers
    refine ⟨uris, hlist, ?_, fun uri huri => h.registered_iff.mp (hall uri huri), core, hcore,
      ⟨s, Registry.mem_of_get?_ofList hget, Registry.id_of_get? hget, hwhole⟩, ?_⟩
    · rintro rfl
      cases hcore
    · intro uri huri hnotCore other hother
      have hnamed : uri ∈ uris.filter fun uri => !coreIds.contains uri :=
        List.mem_filter.mpr ⟨huri, by simpa using hnotCore⟩
      have hfound := List.mem_map_of_mem (f := extensions.get?) hnamed
      rw [hothers, hother] at hfound
      obtain ⟨same, hsame, hsome⟩ := List.mem_map.mp hfound
      cases hsome
      have hpart := hextensions other hsame
      rw [Routed.part, Registry.id_of_get? hother] at hpart
      exact hpart

theorem checkPayload_eq_ok_iff_satisfied (h : Cores user group) :
    checkPayload payload extensions = .ok () ↔ Satisfied user group extensions payload := by
  rw [h.checkPayload_eq_ok_iff]
  constructor
  · rintro ⟨r, hrouted, hcheck⟩
    exact h.satisfied_of_routed hrouted hcheck
  · exact h.exists_routed_of_satisfied

/-! ### What is reported -/

theorem violations_of_routed (h : Cores user group) {r : Routed} {report : PayloadError}
    (hrouted : Routed.ofPayload payload (.ofList [user, group]) extensions = .ok r)
    (herror : checkPayload payload extensions = .error (.payload report)) :
    report.violations =
      (r.extensions.flatMap fun s =>
        listed (s.check ((payload.get? s.id).getD (.object [])))) ++
        listed (r.core.check payload) := by
  rw [h.checkPayload_of_routed hrouted] at herror
  obtain ⟨other, hcheck, hreport⟩ := Failure.liftPayload_eq_error.mp herror
  cases hreport
  have hpayload := Routed.payload_of_ofPayload hrouted
  subst hpayload
  have hlisted := r.listed_check
  rw [hcheck] at hlisted
  exact hlisted

theorem exists_path_of_listed {s : Schema} {part : Json} (hs : s.Constructed)
    {violation : PayloadViolation} (hviolation : violation ∈ listed (s.check part)) :
    ∃ path, violation.path? = some path ∧ path.segments.head? = some s.id := by
  cases hcheck : s.check part with
  | ok passed =>
    rw [hcheck] at hviolation
    cases hviolation
  | error report =>
    rw [hcheck] at hviolation
    obtain ⟨path, hpath, hhead, -⟩ := Schema.exists_path_of_check hs hcheck violation hviolation
    exact ⟨path, hpath, hhead⟩

theorem exists_path_of_routed (h : Cores user group) {r : Routed} {report : PayloadError}
    (hrouted : Routed.ofPayload payload (.ofList [user, group]) extensions = .ok r)
    (hextensions : ∀ s ∈ extensions.schemas, s.Constructed)
    (herror : checkPayload payload extensions = .error (.payload report)) :
    ∀ violation ∈ report.violations, ∃ path, violation.path? = some path ∧
      ∃ s ∈ r.extensions ++ [r.core], path.segments.head? = some s.id := by
  intro violation hviolation
  rw [h.violations_of_routed hrouted herror, List.mem_append] at hviolation
  rcases hviolation with hviolation | hviolation
  · obtain ⟨s, hs, hviolation⟩ := List.mem_flatMap.mp hviolation
    have hbuilt := hextensions s
      (Registry.mem_of_get? (Routed.get?_id_of_mem_extensions hrouted hs))
    obtain ⟨path, hpath, hhead⟩ := exists_path_of_listed hbuilt hviolation
    exact ⟨path, hpath, s, List.mem_append_left _ hs, hhead⟩
  · have hbuilt : r.core.Constructed := by
      cases Routed.ofPayload_eq_iff.mp hrouted with
      | routed hlist hall hcore hget hothers =>
        exact h.constructed _ (Registry.mem_of_get?_ofList hget)
    obtain ⟨path, hpath, hhead⟩ := exists_path_of_listed hbuilt hviolation
    exact ⟨path, hpath, r.core, List.mem_append_right _ (List.mem_singleton_self _), hhead⟩

end Cores

/-- **The verdict on a payload.**  The bundled core schemas are those of users and groups. With any
extensions, a payload passes exactly when it satisfies what it names; otherwise the failure is a
report on the payload. If what it names could be resolved, the violations are those of each
extension in turn, by its part of the payload, and then those of the core schema; and each of them
has a path from the id of one of these schemas. -/
theorem checkPayload_verdict :
    ∃ user group : Schema, Bundled.coreSchemas = .ok [user, group] ∧
      [user.id, group.id] = coreIds ∧
      ∀ (payload : Json) (extensions : Registry),
        (checkPayload payload extensions = .ok () ↔ Satisfied user group extensions payload) ∧
        (∀ failure, checkPayload payload extensions = .error failure →
          ∃ report, failure = .payload report) ∧
        ∀ r report, Routed.ofPayload payload (.ofList [user, group]) extensions = .ok r →
          checkPayload payload extensions = .error (.payload report) →
          r.extensions.map some =
            (Routed.extensionNames payload (.ofList [user, group])).map extensions.get? ∧
          report.violations =
            (r.extensions.flatMap fun s =>
              listed (s.check ((payload.get? s.id).getD (.object [])))) ++
              listed (r.core.check payload) ∧
          ((∀ s ∈ extensions.schemas, s.Constructed) →
            ∀ violation ∈ report.violations, ∃ path, violation.path? = some path ∧
              ∃ s ∈ r.extensions ++ [r.core], path.segments.head? = some s.id) := by
  obtain ⟨user, group, h⟩ := exists_cores
  refine ⟨user, group, h.bundled, h.ids, fun payload extensions => ⟨?_, ?_, ?_⟩⟩
  · exact h.checkPayload_eq_ok_iff_satisfied
  · exact fun failure herror => h.exists_report_of_error herror
  · intro r report hrouted herror
    exact ⟨(Routed.map_get?_extensionNames hrouted).symm, h.violations_of_routed hrouted herror,
      fun hextensions => h.exists_path_of_routed hrouted hextensions herror⟩

/-- A user with a battery, about which it says nothing. -/
def poweredPayload : Json :=
  .object [("schemas", .array [.string "urn:ietf:params:scim:schemas:core:2.0:User",
    .string "urn:battery"])]

theorem exists_routed_poweredPayload {user group : Schema} (hids : [user.id, group.id] = coreIds) :
    ∃ r, Routed.ofPayload poweredPayload (.ofList [user, group]) (.ofList [Routed.battery]) =
      .ok r := by
  let names := ["urn:ietf:params:scim:schemas:core:2.0:User", "urn:battery"]
  have hcontains : (Registry.ofList [user, group]).contains = coreIds.contains := by
    funext uri
    rw [Registry.contains_ofList, ← hids]
    rfl
  have huser : (Registry.ofList [user, group]).contains
      "urn:ietf:params:scim:schemas:core:2.0:User" = true := by
    rw [hcontains]
    rfl
  have hall : ∀ uri ∈ names,
      Routed.Registered (.ofList [user, group]) (.ofList [Routed.battery]) uri :=
    List.forall_mem_cons.mpr ⟨.inl huser, List.forall_mem_singleton.mpr (.inr rfl)⟩
  have hcore : names.filter (Registry.ofList [user, group]).contains =
      ["urn:ietf:params:scim:schemas:core:2.0:User"] := by
    rw [hcontains]
    rfl
  have hothers : (names.filter fun uri => !(Registry.ofList [user, group]).contains uri).map
      (Registry.ofList [Routed.battery]).get? = [Routed.battery].map some := by
    rw [hcontains]
    rfl
  obtain ⟨s, hs⟩ := Registry.contains_iff.mp huser
  exact ⟨_, (Routed.Resolution.routed rfl hall hcore hs hothers).ofPayload_eq⟩

theorem not_satisfied_poweredPayload {user group : Schema} :
    ¬ Satisfied user group (.ofList [Routed.battery]) poweredPayload := by
  rintro ⟨uris, hlist, -, -, core, -, -, hothers⟩
  have hentries : [Json.string "urn:ietf:params:scim:schemas:core:2.0:User",
      .string "urn:battery"] = uris.map .string := Json.array.inj (Option.some.inj hlist)
  have hmem : Json.string "urn:battery" ∈ uris.map .string := by
    rw [← hentries]
    exact .tail _ (.head _)
  obtain ⟨uri, huri, hsame⟩ := List.mem_map.mp hmem
  cases hsame
  have hpassed := hothers "urn:battery" huri (by decide) Routed.battery rfl
  have hrefused : ∃ report, Routed.battery.check (.object []) = .error report := ⟨_, rfl⟩
  obtain ⟨report, hreport⟩ := hrefused
  cases hpassed.symm.trans hreport

/-- The powered user is refused, and what is reported starts at the user schema or the battery. -/
theorem powered_user_refused :
    (∀ s ∈ (Registry.ofList [Routed.battery]).schemas, s.Constructed) ∧
    ∃ user group : Schema, Bundled.coreSchemas = .ok [user, group] ∧ ∃ r report,
      Routed.ofPayload poweredPayload (.ofList [user, group]) (.ofList [Routed.battery]) = .ok r ∧
      checkPayload poweredPayload (.ofList [Routed.battery]) = .error (.payload report) ∧
      ∀ violation ∈ report.violations, ∃ path, violation.path? = some path ∧
        ∃ s ∈ r.extensions ++ [r.core], path.segments.head? = some s.id := by
  have hconstructed : ∀ s ∈ (Registry.ofList [Routed.battery]).schemas, s.Constructed := by
    have hbuilt : Schema.ofDocument .resource Routed.batteryDocument = .ok Routed.battery := rfl
    exact List.forall_mem_singleton.mpr (.document hbuilt)
  obtain ⟨user, group, hbundled, hids, hall⟩ := checkPayload_verdict
  obtain ⟨hpasses, hfails, hreported⟩ := hall poweredPayload (.ofList [Routed.battery])
  obtain ⟨r, hrouted⟩ := exists_routed_poweredPayload hids
  refine ⟨hconstructed, user, group, hbundled, r, ?_⟩
  cases hchecked : checkPayload poweredPayload (.ofList [Routed.battery]) with
  | ok passed => exact absurd (hpasses.mp hchecked) not_satisfied_poweredPayload
  | error failure =>
    obtain ⟨report, rfl⟩ := hfails failure hchecked
    obtain ⟨-, -, hpaths⟩ := hreported r report hrouted hchecked
    exact ⟨report, hrouted, rfl, hpaths hconstructed⟩

end IdentitySchema
