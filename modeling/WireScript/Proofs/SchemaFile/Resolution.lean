import Mathlib.Data.List.Nodup
import WireScript.Kind.Reader
import WireScript.Proofs.Artifact.Module
import WireScript.Proofs.Outcome
import WireScript.Proofs.Schema.FirstFault
import WireScript.Proofs.SchemaFile.Documentation

/-! # Resolution of schema files

What the messages of a schema file mean, entry by entry, and which of its fields is
blamed when one of them means nothing.
-/

namespace WireScript

namespace SchemaFile

/-- What a field means. Blanks at the ends of its type are no part of it. -/
structure FieldMeans (names : Names) (entry : FieldEntry) (field : Field) : Prop where
  name : field.name = entry.name
  kind : Kind.read names (Text.trim entry.type) = .ok field.kind
  description : field.description = Text.collapse entry.type
  compatible : field.compatible = entry.compatible

/-- What a message means. -/
structure MessageMeans (names : Names) (entry : MessageEntry) (message : Message) : Prop where
  id : message.id = entry.id
  name : message.name = entry.name
  fields : List.Forall₂ (FieldMeans names) entry.fields message.fields

section Meaning

variable {names : Names}

/-- A field is resolved by reading its type. -/
theorem resolveField_eq (names : Names) (message : String) (entry : FieldEntry) :
    resolveField names message entry =
      match Kind.parse names (Text.trim entry.type) with
      | .ok kind => .ok ⟨entry.name, Text.collapse entry.type, kind, entry.compatible⟩
      | .error issue =>
          .error (.invalidKind (.ofField message entry.name
            (.inText issue (Text.trim entry.type)))) := by
  have hdescription := Text.collapse_trim entry.type
  cases hkind : Kind.parse names (Text.trim entry.type) with
  | ok kind =>
      simp only [resolveField, hkind, Field.describedAs, Field.ofKind, hdescription]
  | error issue => simp only [resolveField, hkind]

theorem resolveField_ok_iff {message : String} {entry : FieldEntry} {field : Field} :
    resolveField names message entry = .ok field ↔ FieldMeans names entry field := by
  rw [resolveField_eq]
  cases hparse : Kind.parse names (Text.trim entry.type) with
  | error issue =>
      refine ⟨nofun, fun hmeans => ?_⟩
      have hkind := hmeans.kind
      rw [Kind.read, hparse] at hkind
      cases hkind
  | ok kind =>
      constructor
      · intro hfield
        obtain rfl := Except.ok.inj hfield
        exact ⟨rfl, by rw [Kind.read, hparse], rfl, rfl⟩
      · rintro ⟨hname, hkind, hdescription, hcompatible⟩
        rw [Kind.read, hparse] at hkind
        obtain rfl := Except.ok.inj hkind
        simp only [← hname, ← hdescription, ← hcompatible]

theorem resolveMessage_ok_iff {entry : MessageEntry} {message : Message} :
    resolveMessage names entry = .ok message ↔ MessageMeans names entry message := by
  simp only [resolveMessage, bind_ok_iff, mapM_ok_iff, resolveField_ok_iff]
  constructor
  · rintro ⟨fields, hfields, hmessage⟩
    obtain rfl := Except.ok.inj hmessage
    exact ⟨rfl, rfl, hfields⟩
  · obtain ⟨id, name, fields⟩ := message
    rintro ⟨rfl, rfl, hfields⟩
    exact ⟨fields, hfields, rfl⟩

/-- Whether the type of a field can be read. -/
def Readable (names : Names) (entry : FieldEntry) : Prop :=
  ∃ kind, Kind.read names (Text.trim entry.type) = .ok kind

instance (entry : FieldEntry) : Decidable (Readable names entry) :=
  decidable_of_iff ((Kind.read names (Text.trim entry.type)).isOk = true) (by
    unfold Readable
    cases Kind.read names (Text.trim entry.type) <;> simp [Except.isOk, Except.toBool])

theorem resolveField_succeeds_iff (message : String) {entry : FieldEntry} :
    (∃ field, resolveField names message entry = .ok field) ↔ Readable names entry := by
  constructor
  · rintro ⟨field, hfield⟩
    exact ⟨field.kind, (resolveField_ok_iff.mp hfield).kind⟩
  · rintro ⟨kind, hkind⟩
    exact ⟨⟨entry.name, Text.collapse entry.type, kind, entry.compatible⟩,
      resolveField_ok_iff.mpr ⟨rfl, hkind, rfl, rfl⟩⟩

theorem resolveMessage_succeeds_iff {entry : MessageEntry} :
    (∃ message, resolveMessage names entry = .ok message) ↔
      ∀ field ∈ entry.fields, Readable names field := by
  rw [resolveMessage, last_succeeds_iff, mapM_succeeds_iff]
  simp only [resolveField_succeeds_iff]

end Meaning

section Resolve

variable {file : SchemaFile}

/-- The fields of a message, each with the message. -/
def placesOf (entry : MessageEntry) : List (MessageEntry × FieldEntry) :=
  entry.fields.map (Prod.mk entry)

/-- The fields of a file from first to last, each with its message. -/
def places (file : SchemaFile) : List (MessageEntry × FieldEntry) :=
  file.messages.flatMap placesOf

/-- The fault of a file names the first field whose type cannot be read, and says what
is said of the type alone. -/
structure Blames (file : SchemaFile) (names : Names) (fault : Fault)
    (earlier : List (MessageEntry × FieldEntry)) (place : MessageEntry × FieldEntry)
    (cause : Fault) : Prop where
  first : IsFirst (fun _ other => ¬ Readable names other.2) file.places earlier place
  refused : Kind.read names (Text.trim place.2.type) = .error cause
  fault : ∃ issue, fault = .invalidKind issue ∧
    issue.message = place.1.name ++ "." ++ place.2.name ++ ": " ++ cause.message

/-- What a file means: its messages in order, and the document of each. -/
structure Resolves (file : SchemaFile) (names : Names) (resolved : ResolvedSchema) : Prop where
  messages : List.Forall₂ (MessageMeans names) file.messages resolved.schema.messages
  documented : (file.messages.map MessageEntry.id).Nodup → ∀ entry ∈ file.messages,
    Describes (entry.title.getD "") entry.fields (resolved.documentation.document entry.id)
  undocumented : ∀ id, (∀ entry ∈ file.messages, entry.id ≠ id) →
    resolved.documentation.document id = .empty

theorem resolve_succeeds_iff :
    (∃ resolved, file.resolve = .ok resolved) ↔
      ∀ entry ∈ file.messages, ∀ field ∈ entry.fields, Readable file.names field := by
  rw [resolve, last_succeeds_iff, mapM_succeeds_iff]
  simp only [resolveMessage_succeeds_iff]

theorem resolves_of_ok {resolved : ResolvedSchema} (hresolve : file.resolve = .ok resolved) :
    Resolves file file.names resolved := by
  obtain ⟨messages, hmessages, hresolved⟩ := bind_ok_iff.mp hresolve
  obtain rfl := Except.ok.inj hresolved
  constructor
  case messages => simpa only [mapM_ok_iff, resolveMessage_ok_iff] using hmessages
  case documented =>
    intro hids entry hentry
    rw [documentation_document hids hentry]
    exact documentOf_describes entry
  case undocumented => exact fun id hid => documentation_document_of_ne hid

end Resolve

end SchemaFile

end WireScript
