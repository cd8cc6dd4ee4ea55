/-
  IdentitySchema/Proofs/Bundled/Entries.lean
  ==========================================
  **Fragments that entries stand for.**  Nearly all fragments of the bundled
  documents list the same properties, most of them in the same order.  What is
  found in such a fragment once it has been read does not depend on the order
  (`says_of_perm`), so that its being well formed depends on the entry alone:
  on its properties (`Entry.Sound`) and on its detail.
-/
import IdentitySchema.Bundled.Entry
import IdentitySchema.Proofs.Fragment.WellFormed
import IdentitySchema.Proofs.Json.Writing

namespace IdentitySchema.Bundled

theorem arranged_texts (values : List String) : (texts values).arranged = texts values := by
  rw [texts, Json.arranged, Json.arrangedItems_eq_map, List.map_map]
  rfl

/-! ### What entries say -/

/-- The keys that every entry has, apart from those of its detail. -/
def entryKeys : List String :=
  ["name", "type", "multiValued", "description", "required", "caseExact", "mutability",
    "returned", "uniqueness"]

/-- The keys that the entries of the documents have in their details. -/
def detailKeys : List String := ["canonicalValues", "referenceTypes", "subAttributes"]

/-- The fragment has what the entry lists, and nothing else. -/
structure Says (fragment : Json.Members) (e : Entry) : Prop where
  name : fragment.get? "name" = some (.string e.name)
  type : fragment.get? "type" = some (.string e.type.name)
  multiValued : fragment.get? "multiValued" = some (.bool e.multiValued)
  description : fragment.get? "description" = e.description?.map .string
  required : fragment.get? "required" = some (.bool e.required)
  caseExact : fragment.get? "caseExact" = some (.bool e.caseExact)
  mutability : fragment.get? "mutability" = some (.string e.mutability.name)
  returned : fragment.get? "returned" = some (.string e.returned.name)
  uniqueness : fragment.get? "uniqueness" = some (.string e.uniqueness.name)
  detail : ∀ key ∈ detailKeys,
    fragment.get? key = (Json.Members.get? e.detail key).map Json.arranged
  keys : ∀ key ∈ fragment.keys, key ∈ entryKeys ∨ key ∈ Json.Members.keys e.detail

/-- The properties of an entry do not contradict each other. -/
def Entry.Sound (e : Entry) : Prop :=
  (Name.isAttributeName e.name = true ∨ e.type = .reference ∧ e.name = "$ref") ∧
    (e.type ∈ [.binary, .boolean, .datetime, .decimal] → e.caseExact = false) ∧
    (e.type ∈ [.binary, .boolean, .datetime] → e.uniqueness = .none)

instance (e : Entry) : Decidable e.Sound :=
  inferInstanceAs (Decidable (_ ∧ _ ∧ _))

/-- What an entry of no complex type has beside what all entries have. -/
inductive Entry.SimpleDetail (e : Entry) : Prop
  | bare (hdetail : e.detail = [])
  | canonicalValues (values : List String)
      (hdetail : e.detail = [("canonicalValues", texts values)])
  | referenceTypes (values : List String) (htype : e.type = .reference)
      (hdetail : e.detail = [("referenceTypes", texts values)])

namespace Says

variable {fragment : Json.Members} {e : Entry}

theorem characterized (h : Says fragment e) (hsound : e.Sound)
    (hcanonical : fragment.MayHave "canonicalValues" fun value => value = .null ∨ value.IsStrings) :
    Fragment.Characterized e.type fragment := by
  obtain ⟨hname, hcaseExact, huniqueness⟩ := hsound
  rw [Name.isAttributeName_iff] at hname
  have hdescription : fragment.MayHave "description" fun value => value = .null ∨ value.IsString := by
    have hfound := h.description
    cases hdescribed : e.description? with
    | none =>
      rw [hdescribed] at hfound
      exact Json.Members.mayHave_of_get?_eq_none hfound
    | some text =>
      rw [hdescribed] at hfound
      exact Json.Members.mayHave_of_get? hfound (.inr ⟨text, rfl⟩)
  exact {
    name := ⟨_, h.name, e.name, rfl, hname⟩
    required := Json.Members.mayHave_of_get? h.required ⟨_, rfl⟩
    canonicalValues := hcanonical
    caseExact := Json.Members.mayHave_of_get? h.caseExact ⟨_, rfl, hcaseExact⟩
    mutability := Json.Members.mayHave_of_get? h.mutability ⟨e.mutability, .inl rfl⟩
    returned := Json.Members.mayHave_of_get? h.returned ⟨e.returned, .inl rfl⟩
    uniqueness := Json.Members.mayHave_of_get? h.uniqueness ⟨e.uniqueness, .inl rfl, huniqueness⟩
    description := hdescription
    multiValued := Json.Members.mayHave_of_get? h.multiValued ⟨_, rfl⟩ }

/-- The keys that all entries have are known whatever the type. -/
theorem knownKey {type : AttributeType} {many : Prop} (h : Says fragment e)
    (hdetail : ∀ key ∈ Json.Members.keys e.detail, Fragment.KnownKey type many key) :
    ∀ key ∈ fragment.keys, Fragment.KnownKey type many key := by
  have hknown : ∀ key ∈ entryKeys, key ∈ commonProperties := by decide
  intro key hkey
  rcases h.keys key hkey with hcommon | hdetailed
  · exact .inl (hknown key hcommon)
  · exact hdetail key hdetailed

theorem wellFormed_simple {inComplex : Bool} (h : Says fragment e) (hsound : e.Sound)
    (hsimple : e.type ≠ .complex) (hdetail : e.SimpleDetail) :
    Fragment.WellFormed inComplex fragment := by
  have hcanonical := h.detail "canonicalValues" (by decide)
  have hreference := h.detail "referenceTypes" (by decide)
  -- which of the two lists is there depends on the detail, and so do the keys
  have hdescribed : fragment.MayHave "canonicalValues" (fun value => value = .null ∨
        value.IsStrings) ∧
      fragment.MayHave "referenceTypes" (fun value => value = .null ∨ value.IsStrings) ∧
      ∀ key ∈ Json.Members.keys e.detail,
        Fragment.KnownKey e.type (fragment.get? "multiValued" = some (.bool true)) key := by
    cases hdetail with
    | bare hdetail =>
      rw [hdetail] at hcanonical hreference ⊢
      exact ⟨Json.Members.mayHave_of_get?_eq_none hcanonical,
        Json.Members.mayHave_of_get?_eq_none hreference, List.forall_mem_nil _⟩
    | canonicalValues values hdetail =>
      rw [hdetail, Json.Members.get?_singleton, if_pos rfl, Option.map_some,
        arranged_texts] at hcanonical
      rw [hdetail, Json.Members.get?_singleton, if_neg (by decide)] at hreference
      refine ⟨Json.Members.mayHave_of_get? hcanonical (.inr ⟨values, rfl⟩),
        Json.Members.mayHave_of_get?_eq_none hreference, fun key hkey => .inl ?_⟩
      rw [hdetail] at hkey
      have hkey : key = "canonicalValues" := List.mem_singleton.mp hkey
      rw [hkey]
      decide
    | referenceTypes values htype hdetail =>
      rw [hdetail, Json.Members.get?_singleton, if_neg (by decide)] at hcanonical
      rw [hdetail, Json.Members.get?_singleton, if_pos rfl, Option.map_some,
        arranged_texts] at hreference
      refine ⟨Json.Members.mayHave_of_get?_eq_none hcanonical,
        Json.Members.mayHave_of_get? hreference (.inr ⟨values, rfl⟩),
        fun key hkey => .inr (.inl ⟨htype, ?_⟩)⟩
      rw [hdetail] at hkey
      exact List.mem_singleton.mp hkey
  obtain ⟨hcanonicalValues, hreferenceTypes, hkeys⟩ := hdescribed
  exact .simple e.type
    { declaresType := .inr h.type
      characterized := h.characterized hsound hcanonicalValues
      referenceTypes := fun _ => hreferenceTypes
      keys := h.knownKey hkeys } hsimple

end Says

/-- The value is a fragment that describes an attribute, once its members are in order. -/
def Describes (inComplex : Bool) (value : Json) : Prop :=
  ∃ fragment, value.arranged = .object fragment ∧ Fragment.WellFormed inComplex fragment

theorem Says.wellFormed_complex {fragment : Json.Members} {e : Entry} {subs : List Json}
    (h : Says fragment e) (hsound : e.Sound) (htype : e.type = .complex)
    (hdetail : e.detail = [("subAttributes", .array subs)])
    (hsubs : ∀ sub ∈ subs, Describes true sub) : Fragment.WellFormed false fragment := by
  have hcanonical := h.detail "canonicalValues" (by decide)
  have hlist := h.detail "subAttributes" (by decide)
  rw [hdetail, Json.Members.get?_singleton, if_neg (by decide)] at hcanonical
  rw [hdetail, Json.Members.get?_singleton, if_pos rfl, Option.map_some, Json.arranged,
    Json.arrangedItems_eq_map] at hlist
  have hobjects : ∀ item ∈ subs.map Json.arranged,
      ∃ sub, item = .object sub ∧ Fragment.WellFormed true sub := by
    intro item hitem
    obtain ⟨sub, hsub, rfl⟩ := List.mem_map.mp hitem
    exact hsubs sub hsub
  obtain ⟨objects, hitems, hformed⟩ := Json.forall_mem_object_iff.mp hobjects
  rw [hitems] at hlist
  have hcharacterized := h.characterized hsound (Json.Members.mayHave_of_get?_eq_none hcanonical)
  have hdescribed : Fragment.WellDescribed e.type fragment :=
    { declaresType := .inr h.type
      characterized := hcharacterized
      referenceTypes := by
        rw [htype]
        intro hreference
        cases hreference
      keys := by
        refine h.knownKey fun key hkey => .inr (.inr (.inl ⟨htype, ?_⟩))
        rw [hdetail] at hkey
        exact List.mem_singleton.mp hkey }
  rw [htype] at hdescribed
  exact .complex hdescribed hlist hformed

namespace Entry

def first (e : Entry) : Json.Members :=
  [("name", .string e.name), ("type", .string e.type.name), ("multiValued", .bool e.multiValued)]

def described (e : Entry) : Json.Members :=
  match e.description? with
  | some description => [("description", .string description)]
  | none => []

def later (e : Entry) : Json.Members :=
  [("required", .bool e.required), ("caseExact", .bool e.caseExact),
    ("mutability", .string e.mutability.name), ("returned", .string e.returned.name),
    ("uniqueness", .string e.uniqueness.name)]

/-- What an entry lists, in the order of most fragments. -/
def members (e : Entry) : Json.Members :=
  e.first ++ e.described ++ e.later ++ e.detail

end Entry

theorem entry_eq_object (e : Entry) : entry e = .object e.members := rfl

/-- The detail is left out, or is one member under one of its keys. -/
def Entry.OneDetail (e : Entry) : Prop :=
  e.detail = [] ∨ ∃ key ∈ detailKeys, ∃ value, e.detail = [(key, value)]

namespace Entry

variable {e : Entry} {key : String}

theorem mem_keys_described (h : key ∈ e.described.keys) : key = "description" := by
  unfold described at h
  split at h
  · exact List.mem_singleton.mp h
  · cases h

theorem mem_keys_members :
    key ∈ e.members.keys ↔ key ∈ ["name", "type", "multiValued"] ∨ key ∈ e.described.keys ∨
      key ∈ ["required", "caseExact", "mutability", "returned", "uniqueness"] ∨
        key ∈ Json.Members.keys e.detail := by
  unfold members Json.Members.keys
  rw [List.map_append, List.map_append, List.map_append, List.mem_append, List.mem_append,
    List.mem_append, or_assoc, or_assoc]
  rfl

theorem keys_of_mem_keys_members (h : key ∈ e.members.keys) :
    key ∈ entryKeys ∨ key ∈ Json.Members.keys e.detail := by
  have hfirst : ∀ key ∈ ["name", "type", "multiValued"], key ∈ entryKeys := by decide
  have hlater : ∀ key ∈ ["required", "caseExact", "mutability", "returned", "uniqueness"],
      key ∈ entryKeys := by decide
  rcases mem_keys_members.mp h with h | h | h | h
  · exact .inl (hfirst key h)
  · rw [mem_keys_described h]
    exact .inl (by decide)
  · exact .inl (hlater key h)
  · exact .inr h

theorem OneDetail.notMem_entryKeys (hdetail : e.OneDetail)
    (h : key ∈ Json.Members.keys e.detail) : key ∉ entryKeys := by
  have hapart : ∀ key ∈ detailKeys, key ∉ entryKeys := by decide
  rcases hdetail with hdetail | ⟨other, hother, value, hdetail⟩
  · rw [hdetail] at h
    cases h
  · rw [hdetail] at h
    rw [List.mem_singleton.mp h]
    exact hapart other hother

theorem OneDetail.nodup_keys (hdetail : e.OneDetail) : e.members.keys.Nodup := by
  obtain ⟨name, type, multiValued, description?, required, caseExact, mutability, returned,
    uniqueness, detail⟩ := e
  simp only [OneDetail, detailKeys, List.mem_cons, List.not_mem_nil, or_false] at hdetail
  cases description? with
  | none =>
    rcases hdetail with rfl | ⟨key, rfl | rfl | rfl, value, rfl⟩ <;>
      simp [members, first, described, later, Json.Members.keys]
  | some description =>
    rcases hdetail with rfl | ⟨key, rfl | rfl | rfl, value, rfl⟩ <;>
      simp [members, first, described, later, Json.Members.keys]

end Entry

section Order

variable {members : Json.Members} {e : Entry} {key : String} {value : Json}

theorem get?_of_mem (hperm : members.Perm e.members) (hdetail : e.OneDetail)
    (h : (key, value) ∈ e.members) :
    (Json.arrangedMembers [] members).get? key = some value.arranged := by
  have hnodup : members.keys.Nodup := (hperm.map _).nodup_iff.mpr hdetail.nodup_keys
  exact Json.get?_arrangedMembers_of_mem hnodup (hperm.mem_iff.mpr h)

theorem get?_of_notMem (hperm : members.Perm e.members) (h : key ∉ e.members.keys) :
    (Json.arrangedMembers [] members).get? key = none :=
  Json.get?_arrangedMembers_of_notMem fun hkey => h ((hperm.map _).mem_iff.mp hkey)

theorem get?_description (hperm : members.Perm e.members) (hdetail : e.OneDetail) :
    (Json.arrangedMembers [] members).get? "description" = e.description?.map .string := by
  cases hdescription : e.description? with
  | none =>
    have hempty : e.described = [] := by
      rw [Entry.described, hdescription]
    refine get?_of_notMem hperm fun hkey => ?_
    rw [Entry.mem_keys_members, hempty] at hkey
    rcases hkey with h | h | h | h
    · revert h
      decide
    · cases h
    · revert h
      decide
    · exact hdetail.notMem_entryKeys h (by decide)
  | some text =>
    have hdescribed : ("description", .string text) ∈ e.described := by
      rw [Entry.described, hdescription]
      exact List.mem_cons_self
    exact get?_of_mem hperm hdetail
      (List.mem_append_left _ (List.mem_append_left _ (List.mem_append_right _ hdescribed)))

theorem get?_detail (hperm : members.Perm e.members) (hdetail : e.OneDetail)
    (hkey : key ∈ detailKeys) :
    (Json.arrangedMembers [] members).get? key =
      (Json.Members.get? e.detail key).map Json.arranged := by
  have hcommon : ∀ key ∈ detailKeys, key ∉ entryKeys := by decide
  have habsent : key ∉ Json.Members.keys e.detail →
      (Json.arrangedMembers [] members).get? key = none := by
    refine fun hother => get?_of_notMem hperm fun h => ?_
    exact (Entry.keys_of_mem_keys_members h).elim (hcommon key hkey) hother
  have hdetail' := hdetail
  rcases hdetail' with hbare | ⟨other, -, value, hone⟩
  · rw [hbare] at habsent ⊢
    exact habsent List.not_mem_nil
  · rw [hone] at habsent ⊢
    rw [Json.Members.get?_singleton]
    by_cases hsame : other = key
    · have hmem : (key, value) ∈ e.members := by
        refine List.mem_append_right _ ?_
        rw [hone, hsame]
        exact List.mem_singleton_self _
      rw [if_pos hsame]
      exact get?_of_mem hperm hdetail hmem
    · rw [if_neg hsame]
      exact habsent fun h => hsame (List.mem_singleton.mp h).symm

/-- A fragment with the members of an entry, in whatever order, says what the entry does. -/
theorem says_of_perm (hperm : members.Perm e.members) (hdetail : e.OneDetail) :
    Says (Json.arrangedMembers [] members) e := by
  have hfirst : ∀ {key value}, (key, value) ∈ e.first →
      (Json.arrangedMembers [] members).get? key = some value.arranged := fun h =>
    get?_of_mem hperm hdetail
      (List.mem_append_left _ (List.mem_append_left _ (List.mem_append_left _ h)))
  have hlater : ∀ {key value}, (key, value) ∈ e.later →
      (Json.arrangedMembers [] members).get? key = some value.arranged := fun h =>
    get?_of_mem hperm hdetail (List.mem_append_left _ (List.mem_append_right _ h))
  exact {
    name := hfirst (.head _)
    type := hfirst (.tail _ (.head _))
    multiValued := hfirst (.tail _ (.tail _ (.head _)))
    description := get?_description hperm hdetail
    required := hlater (.head _)
    caseExact := hlater (.tail _ (.head _))
    mutability := hlater (.tail _ (.tail _ (.head _)))
    returned := hlater (.tail _ (.tail _ (.tail _ (.head _))))
    uniqueness := hlater (.tail _ (.tail _ (.tail _ (.tail _ (.head _)))))
    detail := fun _ hkey => get?_detail hperm hdetail hkey
    keys := by
      intro key hkey
      rcases Json.mem_keys_arrangedMembers hkey with h | h
      · cases h
      · exact Entry.keys_of_mem_keys_members ((hperm.map _).mem_iff.mp h) }

end Order

/-! ### Which fragments describe attributes -/

section Describes

variable {members : Json.Members} {e : Entry}

theorem describes_simple {inComplex : Bool} (hperm : members.Perm e.members) (hsound : e.Sound)
    (hsimple : e.type ≠ .complex) (hdetail : e.SimpleDetail) :
    Describes inComplex (.object members) := by
  have hone : e.OneDetail := by
    cases hdetail with
    | bare hdetail => exact .inl hdetail
    | canonicalValues values hdetail => exact .inr ⟨_, by decide, _, hdetail⟩
    | referenceTypes values htype hdetail => exact .inr ⟨_, by decide, _, hdetail⟩
  exact ⟨_, rfl, (says_of_perm hperm hone).wellFormed_simple hsound hsimple hdetail⟩

theorem describes_complex {subs : List Json} (hperm : members.Perm e.members) (hsound : e.Sound)
    (htype : e.type = .complex) (hdetail : e.detail = [("subAttributes", .array subs)])
    (hsubs : ∀ sub ∈ subs, Describes true sub) : Describes false (.object members) := by
  have hone : e.OneDetail := .inr ⟨_, by decide, _, hdetail⟩
  exact ⟨_, rfl, (says_of_perm hperm hone).wellFormed_complex hsound htype hdetail hsubs⟩

end Describes

/-- An entry that is not complex describes an attribute. -/
theorem entry_describes_simple {inComplex : Bool} (e : Entry) (hsound : e.Sound)
    (hsimple : e.type ≠ .complex) (hdetail : e.SimpleDetail) : Describes inComplex (entry e) := by
  rw [entry_eq_object]
  exact describes_simple (.refl _) hsound hsimple hdetail

theorem entry_describes_complex {subs : List Json} (e : Entry) (hsound : e.Sound)
    (htype : e.type = .complex) (hdetail : e.detail = [("subAttributes", .array subs)])
    (hsubs : ∀ sub ∈ subs, Describes true sub) : Describes false (entry e) := by
  rw [entry_eq_object]
  exact describes_complex (.refl _) hsound htype hdetail hsubs

end IdentitySchema.Bundled
