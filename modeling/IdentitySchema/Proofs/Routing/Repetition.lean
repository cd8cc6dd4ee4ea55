/-
  IdentitySchema/Proofs/Routing/Repetition.lean
  =============================================
  **Extensions that are named several times.**  Each name of a payload's list
  is followed by itself.  A routed payload therefore has an extension as often
  as its id is listed, and its check goes over the part of the payload under
  that id as often (`extensions_follow_names`).
-/
import IdentitySchema.Proofs.Routing.Resolution
import IdentitySchema.Proofs.Reports
import Mathlib.Data.List.Nodup

namespace IdentitySchema.Routed

open Report

/-- The names in the list of a payload that are not those of core schemas, in order and with
repetitions. -/
def extensionNames (payload : Json) (core : Registry) : List String :=
  ((declared payload).filterMap Json.string?).filter fun uri => !core.contains uri

variable {payload : Json} {core extensions : Registry} {r : Routed}

theorem filterMap_string?_map (uris : List String) :
    (uris.map Json.string).filterMap Json.string? = uris := by
  rw [List.filterMap_map]
  exact List.filterMap_some

theorem extensionNames_of_list {uris : List String}
    (hlist : payload.get? "schemas" = some (.array (uris.map .string))) :
    extensionNames payload core = uris.filter fun uri => !core.contains uri := by
  rw [extensionNames, declared_of_list hlist, filterMap_string?_map]

theorem payload_of_ofPayload (h : ofPayload payload core extensions = .ok r) :
    r.payload = payload := by
  cases ofPayload_eq_iff.mp h with
  | routed => rfl

theorem map_get?_extensionNames (h : ofPayload payload core extensions = .ok r) :
    (extensionNames payload core).map extensions.get? = r.extensions.map some := by
  cases ofPayload_eq_iff.mp h with
  | routed hlist hall hcore hget hothers =>
    rw [extensionNames_of_list hlist]
    exact hothers

theorem map_id_extensions (h : ofPayload payload core extensions = .ok r) :
    r.extensions.map Schema.id = extensionNames payload core :=
  map_id_of_map_get? (map_get?_extensionNames h)

theorem get?_id_of_mem_extensions (h : ofPayload payload core extensions = .ok r) {s : Schema}
    (hs : s ∈ r.extensions) : extensions.get? s.id = some s := by
  have hfound := List.mem_map_of_mem (f := some) hs
  rw [← map_get?_extensionNames h] at hfound
  obtain ⟨uri, -, huri⟩ := List.mem_map.mp hfound
  rw [Registry.id_of_get? huri]
  exact huri

/-- The extensions with the id of a schema are copies of it, one for each time it is named. -/
theorem filter_extensions (h : ofPayload payload core extensions = .ok r) {s : Schema}
    (hs : s ∈ r.extensions) :
    r.extensions.filter (·.id == s.id) =
      List.replicate ((extensionNames payload core).count s.id) s := by
  refine List.eq_replicate_iff.mpr ⟨?_, ?_⟩
  · rw [← map_id_extensions h, List.count, List.countP_map, List.countP_eq_length_filter]
    rfl
  · intro other hother
    obtain ⟨hmem, hid⟩ := List.mem_filter.mp hother
    have hget := get?_id_of_mem_extensions h hmem
    rw [beq_iff_eq.mp hid, get?_id_of_mem_extensions h hs] at hget
    exact (Option.some.inj hget).symm

theorem nodup_extensions_iff (h : ofPayload payload core extensions = .ok r) :
    r.extensions.Nodup ↔ (extensionNames payload core).Nodup := by
  rw [← map_id_extensions h]
  constructor
  · intro hnodup
    refine List.Nodup.map_on (fun s hs other hother hid => ?_) hnodup
    have hget := get?_id_of_mem_extensions h hs
    rw [hid, get?_id_of_mem_extensions h hother] at hget
    exact (Option.some.inj hget).symm
  · exact List.Nodup.of_map _

theorem listed_check (r : Routed) :
    listed r.check =
      (r.extensions.flatMap fun s => listed (s.check (r.part s))) ++
        listed (r.core.check r.payload) := by
  rw [Routed.check, listed_gather, List.flatMap_append, flatMap_violations_flatMap_found,
    flatMap_violations_found]

/-- **An extension counts as often as it is named.**  The extensions of a routed payload are what
the registry has under the names of the list, one for each time a name is listed. None is repeated
exactly when no name is. The check lists the violations of each extension as often as the
extension is there, and those of the core schema at the end. -/
theorem extensions_follow_names (h : ofPayload payload core extensions = .ok r) :
    (extensionNames payload core).map extensions.get? = r.extensions.map some ∧
    (∀ s ∈ r.extensions, r.extensions.filter (·.id == s.id) =
      List.replicate ((extensionNames payload core).count s.id) s) ∧
    (r.extensions.Nodup ↔ (extensionNames payload core).Nodup) ∧
    listed r.check =
      (r.extensions.flatMap fun s =>
        listed (s.check ((payload.get? s.id).getD (.object [])))) ++
        listed (r.core.check payload) := by
  refine ⟨map_get?_extensionNames h, fun _ => filter_extensions h, nodup_extensions_iff h, ?_⟩
  have hpayload := payload_of_ofPayload h
  subst hpayload
  exact r.listed_check

/-- A device that names its battery twice, and says nothing about it. -/
def doublePayload : Json :=
  .object [("schemas",
    .array [.string "urn:device", .string "urn:battery", .string "urn:battery"])]

/-- The battery named twice is checked twice, and its missing charge is reported twice. -/
theorem doubled_battery_reported_twice :
    ∃ r violation, ofPayload doublePayload (.ofList [device]) (.ofList [battery]) = .ok r ∧
      r.extensions = [battery, battery] ∧ listed r.check = [violation, violation] :=
  ⟨_, _, rfl, rfl, rfl⟩

/-- The battery named twice is there twice, and its section is checked each time. -/
theorem doubled_battery_follows_names :
    ∃ r, ofPayload doublePayload (.ofList [device]) (.ofList [battery]) = .ok r ∧
      battery ∈ r.extensions ∧
      r.extensions.filter (·.id == battery.id) = List.replicate 2 battery ∧
      ¬ r.extensions.Nodup ∧
      listed r.check =
        (r.extensions.flatMap fun s =>
          listed (s.check ((doublePayload.get? s.id).getD (.object [])))) ++
          listed (r.core.check doublePayload) := by
  have hrouted : ofPayload doublePayload (.ofList [device]) (.ofList [battery]) =
      .ok ⟨doublePayload, device, [battery, battery]⟩ := rfl
  obtain ⟨-, hcopies, hnodup, hlisted⟩ := extensions_follow_names hrouted
  have hnames : extensionNames doublePayload (.ofList [device]) = ["urn:battery", "urn:battery"] :=
    rfl
  refine ⟨_, hrouted, List.mem_cons_self, ?_, ?_, hlisted⟩
  · rw [hcopies battery List.mem_cons_self, hnames]
    rfl
  · rw [hnodup, hnames]
    simp

end IdentitySchema.Routed
