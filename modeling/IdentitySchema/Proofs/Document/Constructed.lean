/-
  IdentitySchema/Proofs/Document/Constructed.lean
  ===============================================
  **Schemas that were constructed.**  A schema comes from a document, from a
  value, from a text or a stream, or is decoded; in the end it is always a
  document that was built (`Constructed.exists_document`).

  So the attributes of such a schema stand below its id, and the whole tree is
  linked.  Since the schema is in good shape too, the tree has two levels: the
  attributes of the schema and their sub-attributes (`Declares`).  What is said
  here of declared attributes is all that the proofs about payloads know about
  construction.
-/
import IdentitySchema.Proofs.Document.Reports
import IdentitySchema.Proofs.Failures
import IdentitySchema.Proofs.Fragment.Linked
import IdentitySchema.Schema.Reading

namespace IdentitySchema.Schema

open Report

/-! ### Constructors -/

/-- The schema is the result of a constructor. -/
inductive Constructed (s : Schema) : Prop
  | document {role : SchemaRole} {document : Json.Members}
      (h : ofDocument role document = .ok s) : Constructed s
  | value {value : Json} (h : ofJson value = .ok s) : Constructed s
  | text {text : String} (h : ofText text = .ok s) : Constructed s
  | stream {bytes : List UInt8} (h : ofStream bytes = .ok s) : Constructed s
  | decodedValue {value : Json} (h : decodeJson value = .ok s) : Constructed s
  | decodedText {text : String} (h : decodeText text = .ok s) : Constructed s

variable {s : Schema}

theorem ofJson_eq_ok {value : Json} (h : ofJson value = .ok s) :
    ∃ document, value = .object document ∧ ofDocument .resource document = .ok s := by
  cases value with
  | object document => exact ⟨document, rfl, h⟩
  | _ => cases h

theorem ofSource_eq_ok {source : Json.Source} {bytes : List UInt8}
    (h : ofSource source bytes = .ok s) :
    ∃ document, Json.ofBytes source bytes = .ok (.object document) ∧
      ofDocument .resource document = .ok s := by
  obtain ⟨value, hvalue, hschema⟩ := bind_eq_ok.mp h
  obtain ⟨document, rfl, hdocument⟩ := ofJson_eq_ok (Failure.liftSchema_eq_ok.mp hschema)
  exact ⟨document, Failure.liftJson_eq_ok.mp hvalue, hdocument⟩

theorem decodeAt_eq_ok {position : Option Json.Position} {value : Json}
    (h : decodeAt position value = .ok s) :
    ∃ document, value = .object document ∧ ofDocument .resource document = .ok s := by
  cases value with
  | object document =>
    rw [decodeAt] at h
    cases hbuilt : ofDocument .resource document with
    | ok schema =>
      rw [hbuilt] at h
      cases h
      exact ⟨document, rfl, hbuilt⟩
    | error report =>
      rw [hbuilt] at h
      cases h
  | _ => cases h

theorem decodeText_eq_ok {text : String} (h : decodeText text = .ok s) :
    ∃ document, ofDocument .resource document = .ok s := by
  unfold decodeText decodeLeading at h
  dsimp only at h
  split at h
  · obtain ⟨document, hlist, -⟩ := decodeAt_eq_ok h
    cases hlist
  · split at h
    · cases h
    · obtain ⟨schema, hschema, h⟩ := bind_eq_ok.mp h
      split at h
      · cases h
        obtain ⟨document, -, hdocument⟩ := decodeAt_eq_ok hschema
        exact ⟨document, hdocument⟩
      · cases h

/-- Behind every constructed schema is a document that was built. -/
theorem Constructed.exists_document (h : s.Constructed) :
    ∃ role document, ofDocument role document = .ok s := by
  cases h with
  | document h => exact ⟨_, _, h⟩
  | value h =>
    obtain ⟨document, -, hdocument⟩ := ofJson_eq_ok h
    exact ⟨_, document, hdocument⟩
  | text h =>
    obtain ⟨document, -, hdocument⟩ := ofSource_eq_ok h
    exact ⟨_, document, hdocument⟩
  | stream h =>
    obtain ⟨document, -, hdocument⟩ := ofSource_eq_ok h
    exact ⟨_, document, hdocument⟩
  | decodedValue h =>
    obtain ⟨document, -, hdocument⟩ := decodeAt_eq_ok h
    exact ⟨_, document, hdocument⟩
  | decodedText h =>
    obtain ⟨document, hdocument⟩ := decodeText_eq_ok h
    exact ⟨_, document, hdocument⟩

/-! ### What a document is built into -/

theorem ofDocument_eq_ok {role : SchemaRole} {document : Json.Members}
    (h : ofDocument role document = .ok s) :
    s.toDeclaration = .ofDocument role document (attempts document) := by
  unfold ofDocument at h
  dsimp only at h
  split at h
  · cases h
    rfl
  · cases h

theorem locationOf_eq_id {role : SchemaRole} {document : Json.Members}
    (h : ofDocument role document = .ok s) : locationOf document = s.id := by
  rw [← s.location_eq_id, ofDocument_eq_ok h]
  rfl

theorem checkShape_of_mem_attributes {a : Attribute} (ha : a ∈ s.attributes) :
    a.checkShape = .ok () := by
  have hshape := (List.append_eq_nil_iff.mp s.wellShaped).2
  exact Attribute.shapeReports_eq_nil_iff.mp hshape a ha

/-- The attributes of a constructed schema stand right below its id. -/
theorem Constructed.linked (hs : s.Constructed) {a : Attribute} (ha : a ∈ s.attributes) :
    Attribute.Linked ⟨.root s.id, false, false⟩ a := by
  obtain ⟨role, document, hdocument⟩ := hs.exists_document
  have hattributes : s.attributes = (attempts document).filterMap Except.toOption := by
    rw [ofDocument_eq_ok hdocument]
    rfl
  rw [hattributes] at ha
  obtain ⟨b, hb, hbuilt⟩ := List.mem_filterMap.mp ha
  rw [Attempt.eq_ok_of_toOption hbuilt] at hb
  rcases mem_attempts document hb with ⟨_, fragment, -, -, hattempt⟩ | ⟨_, hfailed⟩
  · rw [locationOf_eq_id hdocument] at hattempt
    exact Attribute.linked_of_ofFragment fragment _ a hattempt.symm
  · cases hfailed

theorem Constructed.segments_eq (hs : s.Constructed) {a : Attribute} (ha : a ∈ s.attributes) :
    a.path.segments = [s.id, a.traits.nameLabel] := by
  rw [(hs.linked ha).path_eq]
  rfl

theorem Constructed.sub_segments_eq (hs : s.Constructed) {a sub : Attribute}
    (ha : a ∈ s.attributes) (hsub : sub ∈ a.subAttributes) :
    sub.path.segments = [s.id, a.traits.nameLabel, sub.traits.nameLabel] := by
  rw [((hs.linked ha).sub hsub).path_eq, (hs.linked ha).path_eq]
  rfl

/-! ### Declared attributes -/

/-- The attributes of a schema, and their sub-attributes. -/
def Declares (s : Schema) (a : Attribute) : Prop :=
  a ∈ s.attributes ∨ ∃ parent ∈ s.attributes, a ∈ parent.subAttributes

namespace Declares

variable {a : Attribute}

theorem checkShape_eq_ok (ha : s.Declares a) : a.checkShape = .ok () := by
  rcases ha with ha | ⟨parent, hparent, ha⟩
  · exact checkShape_of_mem_attributes ha
  · exact Attribute.checkShape_of_mem_subAttributes (checkShape_of_mem_attributes hparent) ha

theorem exists_linked (hs : s.Constructed) (ha : s.Declares a) : ∃ site, Attribute.Linked site a := by
  rcases ha with ha | ⟨parent, hparent, ha⟩
  · exact ⟨_, hs.linked ha⟩
  · exact ⟨_, (hs.linked hparent).sub ha⟩

theorem isMultiValued_eq (hs : s.Constructed) (ha : s.Declares a) :
    a.traits.isMultiValued = a.isMultiValued := by
  obtain ⟨_, hlinked⟩ := ha.exists_linked hs
  exact hlinked.isMultiValued_eq

/-- The sub-attributes of a declared attribute are declared: below a sub-attribute there are
none. -/
theorem sub (hs : s.Constructed) (ha : s.Declares a) {sub : Attribute}
    (hsub : sub ∈ a.subAttributes) : s.Declares sub := by
  rcases ha with hattribute | ⟨parent, hparent, hinner⟩
  · exact Or.inr ⟨a, hattribute, hsub⟩
  · have hcomplex : a.traits.parentComplex = true :=
      ((hs.linked hparent).sub hinner).parentComplex_eq
    have hshape : a.checkShape = .ok () := checkShape_eq_ok (Or.inr ⟨parent, hparent, hinner⟩)
    rw [Attribute.subAttributes_eq_nil hshape hcomplex] at hsub
    cases hsub

theorem covers_sub (hs : s.Constructed) (ha : s.Declares a) {sub : Attribute}
    (hsub : sub ∈ a.subAttributes) : a.path.Covers sub.path := by
  obtain ⟨_, hlinked⟩ := ha.exists_linked hs
  rw [(hlinked.sub hsub).path_eq]
  exact a.path.covers_child _

/-- The path of a declared attribute leads from the id of the schema over one or two names. -/
theorem segments_eq (hs : s.Constructed) (ha : s.Declares a) :
    ∃ names : List String, a.path.segments = s.id :: names ∧ 1 ≤ names.length ∧
      names.length ≤ 2 := by
  rcases ha with ha | ⟨parent, hparent, ha⟩
  · exact ⟨[a.traits.nameLabel], hs.segments_eq ha, by simp, by simp⟩
  · exact ⟨[parent.traits.nameLabel, a.traits.nameLabel], hs.sub_segments_eq hparent ha,
      by simp, by simp⟩

end Declares

end IdentitySchema.Schema
