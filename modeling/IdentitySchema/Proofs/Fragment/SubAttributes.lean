/-
  IdentitySchema/Proofs/Fragment/SubAttributes.lean
  =================================================
  **What is reported for the sub-attributes of a complex attribute.**  Every
  entry of the list under `subAttributes` is an attempt of its own.  If all
  succeed, the report has everything that is reported for each entry; if one
  fails, it has only what kept entries from being built, and the shapes of the
  other sub-attributes go unreported.  So each entry is reported as it would
  be on its own exactly when no entry fails or no other one is misshapen
  (`complex_reports_each_entry_iff`).
-/
import IdentitySchema.Proofs.Fragment.Reports

namespace IdentitySchema

open Report

/-! ### The attempts at the entries -/

/-- The attempt at an entry of the list of sub-attributes that a complex fragment has: its attribute
stands below that of the fragment, in a complex one. -/
def subAttempt (fragment : Json.Members) (site : Site) (entry : Json) : Attempt :=
  let traits := Characteristics.ofFragment .complex site fragment
  Attribute.ofEntry
    (fun value => .leaf (traits.notAllowed "subAttributes" "a list of attribute definitions"
      value.rendered))
    none { parent := traits.path, inMultiValued := site.inMultiValued, inComplex := true } entry

theorem Attribute.ofMembers_of_array {outline : Outline} {members fragment : Json.Members}
    {entries : List Json} {site : Site}
    (htraits : outline.traits = .ofFragment .complex site fragment)
    (hlist : members.get? "subAttributes" = some (.array entries)) :
    Attribute.ofMembers outline members = entries.map (subAttempt fragment site) := by
  have hattempt :
      Attribute.ofEntry outline.notFragments none outline.innerSite = subAttempt fragment site := by
    funext entry
    unfold Outline.notFragments Outline.innerSite
    rw [htraits]
    rfl
  rw [Attribute.ofMembers_eq_match, hlist, ← hattempt]
  exact Attribute.ofEntries_eq_map outline entries

/-- A fragment that declares one complex value is built from the attempts at its entries. -/
theorem Attribute.ofFragment_complex {fragment : Json.Members} {entries : List Json} (site : Site)
    (htype : fragment.get? "type" = some (.string "complex"))
    (hsingle : declaresMany fragment = false)
    (hlist : fragment.get? "subAttributes" = some (.array entries)) :
    ∃ outline : Outline, outline.traits = .ofFragment .complex site fragment ∧
      Attribute.ofFragment fragment site none =
        outline.complex (entries.map (subAttempt fragment site)) := by
  have hresolve : resolveType none site.parent fragment = .ok .complex := by
    rw [resolveType, htype]
    rfl
  refine ⟨⟨.complex, .one, .ofFragment .complex site fragment,
    Declared.optional (Json.orNull? Json.strings?) none (fragment.get? "referenceTypes")⟩, rfl, ?_⟩
  rw [Attribute.ofFragment, Outline.ofFragment, hresolve]
  simp only [hsingle, Bool.and_false, Bool.false_eq_true, if_false]
  rw [Attribute.ofMembers_of_array rfl hlist]
  rfl

/-! ### Entries among their siblings -/

section Siblings

variable {fragment : Json.Members} {site : Site} {entries : List Json}

theorem forall_misshapen_eq_nil_iff :
    (∀ b ∈ entries.map (subAttempt fragment site), b.misshapen = []) ↔
      ∀ entry ∈ entries, ∀ a, subAttempt fragment site entry = .ok a → a.checkShape = .ok () := by
  rw [List.forall_mem_map]
  refine forall₂_congr fun entry _ => ?_
  cases hentry : subAttempt fragment site entry with
  | ok a => simp [Attempt.misshapen, a.checkShape_eq_ok_iff]
  | error report => simp [Attempt.misshapen]

/-- **Siblings of a failure.** A complex fragment is reported with what its own shape has wrong and
then, if all entries of its list were built, with what each entry is reported with on its own, but
otherwise only with the failures. So every entry is reported as on its own exactly when no entry
fails or no other one is misshapen. -/
theorem complex_reports_each_entry_iff
    (htype : fragment.get? "type" = some (.string "complex"))
    (hsingle : declaresMany fragment = false)
    (hlist : fragment.get? "subAttributes" = some (.array entries)) :
    (Attempt.reported (Attribute.ofFragment fragment site none) =
      (Characteristics.ofFragment .complex site fragment).complexViolations ++
        if ∀ entry ∈ entries, (subAttempt fragment site entry).Succeeds then
          entries.flatMap fun entry => (subAttempt fragment site entry).reported
        else
          entries.flatMap fun entry => (subAttempt fragment site entry).unbuilt) ∧
    (Attempt.reported (Attribute.ofFragment fragment site none) =
        (Characteristics.ofFragment .complex site fragment).complexViolations ++
          entries.flatMap (fun entry => (subAttempt fragment site entry).reported) ↔
      (∀ entry ∈ entries, (subAttempt fragment site entry).Succeeds) ∨
        ∀ entry ∈ entries, ∀ a,
          subAttempt fragment site entry = .ok a → a.checkShape = .ok ()) := by
  obtain ⟨outline, htraits, hbuild⟩ := Attribute.ofFragment_complex site htype hsingle hlist
  by_cases hall : ∀ entry ∈ entries, (subAttempt fragment site entry).Succeeds
  · have hreport := outline.reported_complex_built (List.forall_mem_map.mpr hall)
    rw [← hbuild, htraits, List.flatMap_map] at hreport
    rw [if_pos hall]
    exact ⟨hreport, iff_of_true hreport (Or.inl hall)⟩
  · have hreport := outline.reported_complex_failed (mt List.forall_mem_map.mp hall)
    rw [← hbuild, htraits, List.flatMap_map] at hreport
    have hsame := Attempt.flatMap_unbuilt_eq_reported_iff (entries.map (subAttempt fragment site))
    rw [List.flatMap_map, List.flatMap_map, forall_misshapen_eq_nil_iff] at hsame
    rw [if_neg hall, or_iff_right hall]
    refine ⟨hreport, ?_⟩
    rw [hreport, List.append_cancel_left_eq, hsame]

end Siblings

/-- The sub-attributes of an address: one of a type that is not registered, and one whose name is
none. -/
def brokenAddressEntries : List Json :=
  [.object [("name", .string "street"), ("type", .string "text")],
    .object [("name", .string "1st")]]

def brokenAddress : Json.Members :=
  [("name", .string "address"), ("subAttributes", .array brokenAddressEntries),
    ("type", .string "complex")]

def addressSite : Site := { parent := .root "urn:x" }

/-- Of the broken address only the sub-attribute that cannot be built is reported. -/
theorem broken_address_reports_unknown_type :
    (∃ entry ∈ brokenAddressEntries, ¬ (subAttempt brokenAddress addressSite entry).Succeeds) ∧
      Attempt.reported (Attribute.ofFragment brokenAddress addressSite none) =
        (Characteristics.ofFragment .complex addressSite brokenAddress).complexViolations ++
          brokenAddressEntries.flatMap fun entry =>
            (subAttempt brokenAddress addressSite entry).unbuilt := by
  have hfails :
      ¬ ∀ entry ∈ brokenAddressEntries, (subAttempt brokenAddress addressSite entry).Succeeds := by
    decide
  have hreport :=
    (@complex_reports_each_entry_iff brokenAddress addressSite brokenAddressEntries rfl rfl rfl).1
  rw [if_neg hfails] at hreport
  refine ⟨?_, hreport⟩
  push Not at hfails
  exact hfails

/-- The name that is none would be reported if it stood alone, but beside the unknown type it is
not. -/
theorem broken_address_hides_bad_name :
    Attempt.reported (Attribute.ofFragment brokenAddress addressSite none) ≠
      (Characteristics.ofFragment .complex addressSite brokenAddress).complexViolations ++
        brokenAddressEntries.flatMap fun entry =>
          (subAttempt brokenAddress addressSite entry).reported := by
  intro heq
  have hlength := congrArg List.length heq
  revert hlength
  decide

end IdentitySchema
