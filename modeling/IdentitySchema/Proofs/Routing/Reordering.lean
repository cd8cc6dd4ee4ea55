/-
  IdentitySchema/Proofs/Routing/Reordering.lean
  =============================================
  **The order of the names does not matter.**  Two payloads that differ only
  in the order of the names in their lists are routed to the same core schema
  and to the same extensions, these in another order, or they are refused for
  the same kind of reason (`Resolution.reordered`).

  The checks then list the same violations in another order.  Order could
  still show where the list itself is looked at: in an extension or an
  attribute of the core schema that is called `schemas`, which
  `ofPayload_reordered` leaves out, and in the text of the whole payload that
  goes with a missing value, which `withoutFound` leaves out.
-/
import IdentitySchema.Proofs.Payload.Agreement
import IdentitySchema.Proofs.Routing.Repetition

namespace IdentitySchema.Routed

open Report

/-- The payloads have the same members, but for the order of the entries of their lists. -/
structure Reordered (payload other : Json) : Prop where
  lists : ∃ entries others : List Json, payload.get? "schemas" = some (.array entries) ∧
    other.get? "schemas" = some (.array others) ∧ entries.Perm others
  members : ∀ key, key ≠ "schemas" → payload.get? key = other.get? key

/-- The same outcome of routing, but for the order of schemas and for which entry of a list is
named as unknown. -/
inductive SameUpToOrder : Except PayloadError Routed → Except PayloadError Routed → Prop
  | missing : SameUpToOrder (.error (.leaf .missingSchemas)) (.error (.leaf .missingSchemas))
  | unknown (uri other : String) :
      SameUpToOrder (.error (.leaf (.unknownSchemaUri uri)))
        (.error (.leaf (.unknownSchemaUri other)))
  | miscounted {ids others : List String} (h : ids.Perm others) :
      SameUpToOrder (.error (.leaf (.coreSchemaCount ids)))
        (.error (.leaf (.coreSchemaCount others)))
  | routed {r other : Routed} (hcore : r.core = other.core)
      (hextensions : r.extensions.Perm other.extensions) : SameUpToOrder (.ok r) (.ok other)

variable {payload other : Json} {core extensions : Registry}

/-! ### Outcomes -/

theorem isObject_of_get? {key : String} {value : Json} (h : payload.get? key = some value) :
    payload.isObject = true := by
  cases payload with
  | object members => rfl
  | _ => cases h

theorem perm_of_map_string_perm {uris others : List String}
    (h : (uris.map Json.string).Perm (others.map Json.string)) : uris.Perm others := by
  have hback := h.filterMap Json.string?
  rwa [filterMap_string?_map, filterMap_string?_map] at hback

/-- If the entries of one list all name schemas, so do those of the other. -/
theorem exists_names_of_perm {uris : List String} {others : List Json}
    (hperm : (uris.map Json.string).Perm others)
    (hall : ∀ uri ∈ uris, Registered core extensions uri) :
    ∃ names : List String, others = names.map Json.string ∧ uris.Perm names ∧
      ∀ name ∈ names, Registered core extensions name := by
  have hnames : ∀ entry ∈ others, NamesSchema core extensions entry := by
    intro entry hentry
    obtain ⟨uri, huri, rfl⟩ := List.mem_map.mp (hperm.mem_iff.mpr hentry)
    exact ⟨uri, rfl, hall uri huri⟩
  obtain ⟨names, rfl, hregistered⟩ := exists_uris_of_forall hnames
  exact ⟨names, rfl, perm_of_map_string_perm hperm, hregistered⟩

theorem perm_of_map_get? {r : Registry} {uris names : List String} {schemas others : List Schema}
    (hperm : uris.Perm names) (hschemas : uris.map r.get? = schemas.map some)
    (hothers : names.map r.get? = others.map some) : schemas.Perm others := by
  have hsome : (schemas.map some).Perm (others.map some) := by
    rw [← hschemas, ← hothers]
    exact hperm.map r.get?
  have hback := hsome.filterMap id
  rwa [List.filterMap_map, List.filterMap_map, Function.id_comp, List.filterMap_some,
    List.filterMap_some] at hback

/-- Each outcome for a payload has one for the reordered payload that is the same up to order. -/
theorem Resolution.reordered (h : Reordered payload other) {result : Except PayloadError Routed}
    (hresult : Resolution payload core extensions result) :
    ∃ otherResult, Resolution other core extensions otherResult ∧
      SameUpToOrder result otherResult := by
  obtain ⟨entries, others, hentries, hothers, hperm⟩ := h.lists
  cases hresult with
  | missing hnone =>
    have hnil : entries = [] := by
      rw [← declared_of_list hentries]
      exact declared_eq_nil_iff.mpr hnone
    subst hnil
    have hdeclared : declared other = [] := by
      rw [declared_of_list hothers]
      exact hperm.symm.eq_nil
    exact ⟨_, .missing (declared_eq_nil_iff.mp hdeclared), .missing⟩
  | @unknown before after entry hlist hbefore hentry =>
    rw [hlist, Option.some.injEq, Json.array.injEq] at hentries
    have hmem : entry ∈ others := by
      rw [← hperm.mem_iff, ← hentries]
      simp
    have hsome : ¬ ∀ entry ∈ others, NamesSchema core extensions entry := by
      intro hall
      exact hentry (hall entry hmem)
    obtain ⟨earlier, first, later, rfl, hearlier, hfirst⟩ := exists_first_not hsome
    exact ⟨_, .unknown hothers hearlier hfirst, .unknown _ _⟩
  | @miscounted uris hlist hne hall hcores =>
    rw [hlist, Option.some.injEq, Json.array.injEq] at hentries
    subst hentries
    obtain ⟨names, rfl, hnames, hregistered⟩ := exists_names_of_perm hperm hall
    have hfilter := hnames.filter core.contains
    have hne' : names ≠ [] := by
      rintro rfl
      exact hne hnames.eq_nil
    have hcores' : (names.filter core.contains).length ≠ 1 := by
      rw [← hfilter.length_eq]
      exact hcores
    exact ⟨_, .miscounted hothers hne' hregistered hcores', .miscounted hfilter⟩
  | @routed uris uri s schemas hlist hall hcore hs hschemas =>
    rw [hlist, Option.some.injEq, Json.array.injEq] at hentries
    subst hentries
    obtain ⟨names, rfl, hnames, hregistered⟩ := exists_names_of_perm hperm hall
    have hcore' : names.filter core.contains = [uri] := by
      have hfilter := hnames.filter core.contains
      rw [hcore] at hfilter
      exact hfilter.symm.eq_singleton
    obtain ⟨routes, -, -, hroutes⟩ := exists_mapM_resolve_eq_ok hregistered
    have hextensions := perm_of_map_get?
      (hnames.filter fun name => !core.contains name) hschemas hroutes.symm
    exact ⟨_, .routed hothers hregistered hcore' hs hroutes.symm, .routed rfl hextensions⟩

theorem sameUpToOrder_ofPayload (h : Reordered payload other) (core extensions : Registry) :
    SameUpToOrder (ofPayload payload core extensions) (ofPayload other core extensions) := by
  obtain ⟨result, hresult⟩ := exists_resolution payload core extensions
  obtain ⟨otherResult, hother, hsame⟩ := hresult.reordered h
  rw [hresult.ofPayload_eq, hother.ofPayload_eq]
  exact hsame

/-! ### Checks -/

theorem full_of_check {r : Routed} {report : PayloadError} (h : r.check = .error report) :
    report.Full := by
  refine full_of_gather ?_ h
  intro below hbelow
  rcases List.mem_append.mp hbelow with hbelow | hbelow
  · obtain ⟨s, -, hfound⟩ := List.mem_flatMap.mp hbelow
    exact s.full_of_check (mem_found.mp hfound)
  · exact r.core.full_of_check (mem_found.mp hbelow)

theorem listed_check_eq_nil {r : Routed} : listed r.check = [] ↔ r.check = .ok () :=
  listed_eq_nil_iff_ok fun _ => full_of_check

theorem perm_listed_check {r routed : Routed} (h : Reordered r.payload routed.payload)
    (hcore : r.core = routed.core) (hextensions : r.extensions.Perm routed.extensions)
    (hids : ∀ s ∈ r.extensions, s.id ≠ "schemas")
    (hnames : ∀ a ∈ r.core.attributes, a.name? ≠ some "schemas") :
    ((listed r.check).map PayloadViolation.withoutFound).Perm
      ((listed routed.check).map PayloadViolation.withoutFound) := by
  have hparts : (r.extensions.flatMap fun s => listed (s.check (r.part s))) =
      r.extensions.flatMap fun s => listed (s.check (routed.part s)) := by
    apply List.flatMap_congr
    intro s hs
    have hpart : r.part s = routed.part s := by
      rw [part, part, h.members s.id (hids s hs)]
    rw [hpart]
  have hwhole : (listed (r.core.check r.payload)).map PayloadViolation.withoutFound =
      (listed (routed.core.check routed.payload)).map PayloadViolation.withoutFound := by
    obtain ⟨entries, others, hentries, hothers, -⟩ := h.lists
    rw [← hcore]
    apply Schema.map_withoutFound_listed_check (isObject_of_get? hentries)
      (isObject_of_get? hothers)
    intro a ha name hname
    apply h.members
    rintro rfl
    exact hnames a ha hname
  rw [r.listed_check, routed.listed_check, List.map_append, List.map_append, hparts, hwhole]
  exact ((hextensions.flatMap_right _).map _).append_right _

/-- **The order of the names does not matter.**  Reordered payloads are routed alike, up to order.
If both are routed, no extension is called `schemas` and no attribute of the core schema is, then
one passes exactly when the other does, and both checks list the same violations up to order and
to what was found in place of missing values. -/
theorem ofPayload_reordered (h : Reordered payload other) (core extensions : Registry) :
    SameUpToOrder (ofPayload payload core extensions) (ofPayload other core extensions) ∧
    ∀ r routed, ofPayload payload core extensions = .ok r →
      ofPayload other core extensions = .ok routed →
      (∀ s ∈ r.extensions, s.id ≠ "schemas") →
      (∀ a ∈ r.core.attributes, a.name? ≠ some "schemas") →
      (r.check = .ok () ↔ routed.check = .ok ()) ∧
        ((listed r.check).map PayloadViolation.withoutFound).Perm
          ((listed routed.check).map PayloadViolation.withoutFound) := by
  have hsame := sameUpToOrder_ofPayload h core extensions
  refine ⟨hsame, ?_⟩
  intro r routed hr hrouted hids hnames
  rw [hr, hrouted] at hsame
  cases hsame with
  | routed hcore hextensions =>
    have hpayloads : Reordered r.payload routed.payload := by
      rw [payload_of_ofPayload hr, payload_of_ofPayload hrouted]
      exact h
    have hperm := perm_listed_check hpayloads hcore hextensions hids hnames
    refine ⟨?_, hperm⟩
    rw [← listed_check_eq_nil, ← listed_check_eq_nil]
    have hlength := hperm.length_eq
    rw [List.length_map, List.length_map] at hlength
    rw [← List.length_eq_zero_iff, hlength, List.length_eq_zero_iff]

def phoneDocument : Json.Members :=
  [("attributes", .array [.object [("name", .string "number"), ("required", .bool true)]]),
    ("id", .string "urn:phone")]

/-- A schema of phones, which have a number. -/
def phone : Schema where
  toDeclaration := .ofDocument .resource phoneDocument (Schema.attempts phoneDocument)
  wellShaped := by decide

/-- A phone that names a battery and a device as its extensions. -/
def phonePayload : Json :=
  .object [("schemas",
    .array [.string "urn:phone", .string "urn:battery", .string "urn:device"])]

/-- The same phone, which names the device first. -/
def reorderedPhonePayload : Json :=
  .object [("schemas",
    .array [.string "urn:device", .string "urn:phone", .string "urn:battery"])]

theorem reordered_phonePayload : Reordered phonePayload reorderedPhonePayload := by
  constructor
  · exact ⟨_, _, rfl, rfl, @List.perm_append_comm _ [_, _] [_]⟩
  · intro key hkey
    have hother : "schemas" ≠ key := Ne.symm hkey
    simp [phonePayload, reorderedPhonePayload, Json.get?, Json.Members.get?_cons, hother]

/-- A phone without a number is reported on alike, whichever extension it names first, although
the text of the payload in the reports is not the same. -/
theorem reordered_phone_checked_alike :
    Reordered phonePayload reorderedPhonePayload ∧ ∃ r routed,
      ofPayload phonePayload (.ofList [phone]) (.ofList [battery, device]) = .ok r ∧
      ofPayload reorderedPhonePayload (.ofList [phone]) (.ofList [battery, device]) =
        .ok routed ∧
      r.extensions = [battery, device] ∧ routed.extensions = [device, battery] ∧
      (∀ s ∈ r.extensions, s.id ≠ "schemas") ∧
      (∀ a ∈ r.core.attributes, a.name? ≠ some "schemas") ∧
      (r.check = .ok () ↔ routed.check = .ok ()) ∧
      ((listed r.check).map PayloadViolation.withoutFound).Perm
        ((listed routed.check).map PayloadViolation.withoutFound) ∧
      (listed r.check).length = 2 := by
  have hids : ∀ s ∈ [battery, device], s.id ≠ "schemas" := by decide
  have hnames : ∀ a ∈ phone.attributes, a.name? ≠ some "schemas" := by decide
  obtain ⟨-, hchecked⟩ :=
    ofPayload_reordered reordered_phonePayload (.ofList [phone]) (.ofList [battery, device])
  obtain ⟨hverdict, hperm⟩ := hchecked _ _ rfl rfl hids hnames
  exact ⟨reordered_phonePayload, _, _, rfl, rfl, rfl, rfl, hids, hnames, hverdict, hperm, rfl⟩

end IdentitySchema.Routed
