/-
  IdentitySchema/Proofs/Document/Texts.lean
  =========================================
  **All ways from a text to a schema agree.**  Two of them read the whole text
  and then build the schema from its value, one of these from a stream; the
  third builds it as soon as the first value is complete, refuses a list before
  its items are read, and looks at the rest of the text afterwards.  On every
  text they come to the same end (`constructors_agree`): a schema if the text
  is a document that is built into one, the report of the refused document if
  it is a document that is not, and an error of the text if it is none.

  What a text denotes comes from the grammar, so only the decoding has cases to
  be gone through: a text that opens a list, one without a first value, and one
  that goes on after it.

  A stream that breaks off is no text, and never gives a schema
  (`load_brokenOff`).
-/
import IdentitySchema.Proofs.Document.Constructed
import IdentitySchema.Proofs.Json.Grammar
import IdentitySchema.Proofs.Json.Streams

namespace IdentitySchema.Schema

open Json (IsDocument)

variable {text : String} {value : Json} {schema : Schema} {report : SchemaError}

/-! ### Reading the whole text first -/

theorem ofSource_of_isDocument (source : Json.Source) (h : IsDocument text value) :
    ofSource source (Json.bytesOf text) = Failure.liftSchema (ofJson value) := by
  have hread : Json.read (Json.bytesOf text) = .ok value := Json.read_eq_ok_iff.mpr h
  rw [ofSource, Json.ofBytes, hread]
  rfl

theorem ofSource_of_not_isDocument (source : Json.Source) (h : ¬ ∃ value, IsDocument text value) :
    ∃ error, ofSource source (Json.bytesOf text) = .error (.json error) := by
  rw [ofSource, Json.ofBytes]
  cases hread : Json.read (Json.bytesOf text) with
  | ok value => exact absurd ⟨value, Json.read_eq_ok_iff.mp hread⟩ h
  | error flaw => exact ⟨_, rfl⟩

/-- **A stream that breaks off gives no schema**: it fails with its problem, or as every document
does that starts with its bytes. -/
theorem load_brokenOff (bytes : List UInt8) (problem : FileProblem) :
    ∃ failure, load ⟨bytes, some problem⟩ = .error failure ∧
      (failure = .json (.unreadable problem) ∨
        ∀ more, load ⟨bytes ++ more, none⟩ = .error failure) := by
  refine ⟨.json (Json.brokenOff bytes problem), rfl, ?_⟩
  rcases Json.brokenOff_cases bytes problem with hproblem | hflaw
  · exact .inl (congrArg Failure.json hproblem)
  · right
    intro more
    have hload : load ⟨bytes ++ more, none⟩ = ofSource .stream (bytes ++ more) := rfl
    rw [hload, ofSource, hflaw more]
    rfl

/-! ### Decoding -/

theorem decodeAt_of_accepted {position : Option Json.Position} (h : ofJson value = .ok schema) :
    decodeAt position value = .ok schema := by
  obtain ⟨document, rfl, hdocument⟩ := ofJson_eq_ok h
  rw [decodeAt, hdocument]

/-- What is refused is refused with an error of its data, that of a document with the text of the
report. -/
theorem decodeAt_of_refused (position : Option Json.Position) (h : ofJson value = .error report) :
    ∃ error, decodeAt position value = .error error ∧ error.category = "Data" ∧
      (value.isObject = true → error.message = report.text) := by
  cases value with
  | object document =>
    have hdocument : ofDocument .resource document = .error report := h
    refine ⟨.mismatch report.text none, ?_, rfl, fun _ => ?_⟩
    · rw [decodeAt, hdocument]
    · exact String.append_empty
  | _ => exact ⟨_, rfl, rfl, fun hobject => by cases hobject⟩

/-- A document is decoded as its value is. -/
theorem decodeText_of_isDocument (h : IsDocument text value) :
    ∃ position, decodeText text = decodeAt position value := by
  unfold decodeText decodeLeading
  dsimp only
  split
  · rename_i htokens
    rw [IsDocument, htokens] at h
    -- The items have not been looked at, and all lists are refused alike.
    obtain ⟨items, rfl⟩ := h.exists_array
    exact ⟨_, rfl⟩
  · obtain ⟨stop, hleading⟩ := Json.exists_leading_of_denotes (List.append_nil _).symm h
    rw [hleading]
    refine ⟨some (.after ((Json.bytesOf text).take stop)), ?_⟩
    cases hdecoded : decodeAt (some (.after ((Json.bytesOf text).take stop))) value with
    | ok schema =>
      dsimp only
      rw [hdecoded]
      rfl
    | error error =>
      dsimp only
      rw [hdecoded]
      rfl

theorem decodeText_of_not_isDocument (h : ¬ ∃ value, IsDocument text value) :
    ∃ error, decodeText text = .error error := by
  unfold decodeText decodeLeading
  dsimp only
  split
  · exact ⟨_, rfl⟩
  · cases hleading : Json.leading (Json.bytesOf text) with
    | error flaw => exact ⟨_, rfl⟩
    | ok l =>
      dsimp only
      cases hdecoded : decodeAt (some (.after ((Json.bytesOf text).take l.stop))) l.value with
      | error error => exact ⟨_, rfl⟩
      | ok schema =>
        -- The schema is there, but the text goes on, else it would be a document.
        cases hended : l.ended with
        | error flaw => exact ⟨_, by rw [ok_bind]⟩
        | ok _ =>
          have hread : Json.read (Json.bytesOf text) = .ok l.value := by
            rw [Json.read, hleading, ok_bind, hended]
            rfl
          exact absurd ⟨l.value, Json.read_eq_ok_iff.mp hread⟩ h

/-! ### Agreement -/

/-- If what a way comes to is known for documents that are accepted, for those that are refused and
for other texts, its schemas are those of the documents. -/
theorem eq_ok_iff_isDocument {ε : Type} {outcome : Except ε Schema}
    (haccepted : ∀ value schema, IsDocument text value → ofJson value = .ok schema →
      outcome = .ok schema)
    (hrefused : ∀ value report, IsDocument text value → ofJson value = .error report →
      ∃ error, outcome = .error error)
    (hnone : (¬ ∃ value, IsDocument text value) → ∃ error, outcome = .error error) :
    outcome = .ok schema ↔ ∃ document, IsDocument text (.object document) ∧
      ofDocument .resource document = .ok schema := by
  constructor
  · intro h
    by_cases hdocument : ∃ value, IsDocument text value
    · obtain ⟨value, hvalue⟩ := hdocument
      cases hbuilt : ofJson value with
      | ok built =>
        rw [haccepted value built hvalue hbuilt] at h
        cases h
        obtain ⟨document, rfl, hschema⟩ := ofJson_eq_ok hbuilt
        exact ⟨document, hvalue, hschema⟩
      | error report =>
        obtain ⟨error, herror⟩ := hrefused value report hvalue hbuilt
        rw [herror] at h
        cases h
    · obtain ⟨error, herror⟩ := hnone hdocument
      rw [herror] at h
      cases h
  · rintro ⟨document, hdocument, hschema⟩
    exact haccepted (.object document) schema hdocument hschema

theorem ofSource_eq_ok_iff {source : Json.Source} :
    ofSource source (Json.bytesOf text) = .ok schema ↔
      ∃ document, IsDocument text (.object document) ∧
        ofDocument .resource document = .ok schema := by
  refine eq_ok_iff_isDocument ?_ ?_ ?_
  · intro value schema hvalue hbuilt
    rw [ofSource_of_isDocument source hvalue, hbuilt]
    rfl
  · intro value report hvalue hbuilt
    rw [ofSource_of_isDocument source hvalue, hbuilt]
    exact ⟨_, rfl⟩
  · intro hnone
    obtain ⟨error, herror⟩ := ofSource_of_not_isDocument source hnone
    exact ⟨.json error, herror⟩

theorem decodeText_eq_ok_iff :
    decodeText text = .ok schema ↔ ∃ document, IsDocument text (.object document) ∧
      ofDocument .resource document = .ok schema := by
  refine eq_ok_iff_isDocument ?_ ?_ decodeText_of_not_isDocument
  · intro value schema hvalue hbuilt
    obtain ⟨position, hdecoded⟩ := decodeText_of_isDocument hvalue
    rw [hdecoded, decodeAt_of_accepted hbuilt]
  · intro value report hvalue hbuilt
    obtain ⟨position, hdecoded⟩ := decodeText_of_isDocument hvalue
    obtain ⟨error, herror, -⟩ := decodeAt_of_refused position hbuilt
    exact ⟨error, hdecoded.trans herror⟩

/-- **The constructors agree on every text.**

  * Each gives a schema exactly if the text is a document that is an object out of which the schema
    is built.
  * For a document with another value, or one that cannot be built, the two that read the text first
    give the report of its value, and decoding gives an error of the data, with the text of the
    report if the value is an object.
  * For a text that is no document, the first two give an error of the text and decoding gives an
    error.
  * A text that goes on after a document is none, however acceptable the document. -/
theorem constructors_agree (text : String) :
    (∀ schema,
      (ofText text = .ok schema ↔ ∃ document, IsDocument text (.object document) ∧
        ofDocument .resource document = .ok schema) ∧
      (ofStream (Json.bytesOf text) = .ok schema ↔
        ∃ document, IsDocument text (.object document) ∧
          ofDocument .resource document = .ok schema) ∧
      (decodeText text = .ok schema ↔ ∃ document, IsDocument text (.object document) ∧
        ofDocument .resource document = .ok schema)) ∧
    (∀ value report, IsDocument text value → ofJson value = .error report →
      ofText text = .error (.schema report) ∧
      ofStream (Json.bytesOf text) = .error (.schema report) ∧
      ∃ error, decodeText text = .error error ∧ error.category = "Data" ∧
        (value.isObject = true → error.message = report.text)) ∧
    ((¬ ∃ value, IsDocument text value) →
      (∃ error, ofText text = .error (.json error)) ∧
      (∃ error, ofStream (Json.bytesOf text) = .error (.json error)) ∧
      ∃ error, decodeText text = .error error) ∧
    (∀ first rest value, Json.tokens (Json.bytesOf text) = first ++ rest → rest ≠ [] →
      Json.Denotes 0 (first.map (·.lexeme)) value → ¬ ∃ whole, IsDocument text whole) := by
  refine ⟨fun schema => ⟨ofSource_eq_ok_iff, ofSource_eq_ok_iff, decodeText_eq_ok_iff⟩, ?_, ?_, ?_⟩
  · intro value report hvalue hrefused
    have hsource : ∀ source, ofSource source (Json.bytesOf text) = .error (.schema report) := by
      intro source
      rw [ofSource_of_isDocument source hvalue, hrefused]
      rfl
    obtain ⟨position, hdecoded⟩ := decodeText_of_isDocument hvalue
    obtain ⟨error, herror, hcategory, hmessage⟩ := decodeAt_of_refused position hrefused
    exact ⟨hsource .text, hsource .stream, error, hdecoded.trans herror, hcategory, hmessage⟩
  · intro hnone
    exact ⟨ofSource_of_not_isDocument .text hnone, ofSource_of_not_isDocument .stream hnone,
      decodeText_of_not_isDocument hnone⟩
  · intro first rest value htokens hrest hdenotes
    exact Json.not_isDocument_of_prefix htokens hrest hdenotes

end IdentitySchema.Schema
