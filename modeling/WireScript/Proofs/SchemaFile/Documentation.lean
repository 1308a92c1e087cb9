import Mathlib.Data.List.Induction
import WireScript.SchemaFile

/-! # Documentation in schema files

The document of a message holds the last comment given for each of its fields, and a
schema file documents a message as its own entry says.
-/

namespace WireScript

theorem Document.isEmpty_iff {document : Document} :
    document.isEmpty = true ↔ document = .empty := by
  obtain ⟨title, comments⟩ := document
  simp [isEmpty, empty]

namespace Documentation

theorem lookup_filter_ne {id other : ProtocolId} (hother : other ≠ id)
    (entries : List (ProtocolId × Document)) :
    (entries.filter (fun entry => entry.1 != id)).lookup other = entries.lookup other := by
  induction entries with
  | nil => rfl
  | cons entry entries ih =>
      by_cases hentry : entry.1 = id
      · have hdropped : other ≠ entry.1 := fun heq => hother (heq.trans hentry)
        rw [List.filter_cons_of_neg (by simp [hentry]), ih, List.lookup_cons,
          beq_false_of_ne hdropped]
      · rw [List.filter_cons_of_pos (by simp [hentry]), List.lookup_cons, List.lookup_cons, ih]

/-- Setting the document of a message leaves those of the others alone. -/
theorem document_insert (documentation : Documentation) (id other : ProtocolId)
    (document : Document) :
    (documentation.insert id document).document other =
      if other = id then document else documentation.document other := by
  simp only [Documentation.document, insert, List.lookup_cons]
  split
  next hsame => rw [if_pos (beq_iff_eq.mp hsame), Option.getD_some]
  next hother =>
    have hne : other ≠ id := fun heq => by simp [heq] at hother
    rw [if_neg hne, lookup_filter_ne hne]

end Documentation

namespace SchemaFile

/-- The last comment given for a field name. -/
def LastDoc (fields : List FieldEntry) (name text : String) : Prop :=
  ∃ before field after, fields = before ++ field :: after ∧ field.name = name ∧
    field.doc = some text ∧ ∀ other ∈ after, other.name = name → other.doc = none

/-- A document with the given title and the comments of some fields. -/
structure Describes (title : String) (fields : List FieldEntry) (document : Document) :
    Prop where
  title : document.title = title
  distinct : (document.comments.map Prod.fst).Nodup
  comments : ∀ name text, (name, text) ∈ document.comments ↔ LastDoc fields name text

/-- Add the comment of a field, if it has one. -/
def addComment (document : Document) (field : FieldEntry) : Document :=
  match field.doc with
  | some text => document.comment field.name text
  | none => document

theorem documentOf_eq (entry : MessageEntry) :
    documentOf entry = entry.fields.foldl addComment ⟨entry.title.getD "", []⟩ :=
  rfl

/-- A field behind others has the last comment for its name, unless it has none. -/
theorem lastDoc_concat {fields : List FieldEntry} {field : FieldEntry} {name text : String} :
    LastDoc (fields ++ [field]) name text ↔
      field.name = name ∧ field.doc = some text ∨
        (field.name = name → field.doc = none) ∧ LastDoc fields name text := by
  constructor
  · rintro ⟨before, found, after, hfields, hname, hdoc, hlast⟩
    rcases List.eq_nil_or_concat after with rfl | ⟨after, other, rfl⟩
    · obtain ⟨-, hsame⟩ := List.append_inj' hfields rfl
      obtain rfl := (List.cons.inj hsame).1
      exact .inl ⟨hname, hdoc⟩
    · right
      rw [List.concat_eq_append] at hfields hlast
      rw [← List.cons_append, ← List.append_assoc] at hfields
      obtain ⟨rfl, hsame⟩ := List.append_inj' hfields rfl
      obtain rfl := (List.cons.inj hsame).1
      refine ⟨hlast field (by simp), before, found, after, rfl, hname, hdoc, ?_⟩
      exact fun other hother => hlast other (List.mem_append_left _ hother)
  · rintro (⟨hname, hdoc⟩ | ⟨hnone, before, found, after, rfl, hname, hdoc, hlast⟩)
    · exact ⟨fields, field, [], rfl, hname, hdoc, by simp⟩
    · refine ⟨before, found, after ++ [field], by simp, hname, hdoc, ?_⟩
      rw [List.forall_mem_append, List.forall_mem_singleton]
      exact ⟨hlast, hnone⟩

/-- A comment takes the place of those given before it for the same field. -/
theorem describes_comment {title text : String} {fields : List FieldEntry} {document : Document}
    (hdocument : Describes title fields document) {field : FieldEntry}
    (hdoc : field.doc = some text) :
    Describes title (fields ++ [field]) (document.comment field.name text) where
  title := hdocument.title
  distinct := by
    rw [Document.comment, List.map_cons, List.nodup_cons]
    constructor
    · intro hmem
      obtain ⟨comment, hcomment, hname⟩ := List.mem_map.mp hmem
      have hother := (List.mem_filter.mp hcomment).2
      rw [hname, bne_self_eq_false] at hother
      cases hother
    · exact (List.filter_sublist.map Prod.fst).nodup hdocument.distinct
  comments name other := by
    rw [lastDoc_concat, ← hdocument.comments, Document.comment, List.mem_cons, List.mem_filter]
    by_cases hname : field.name = name
    · simp [hname, hdoc, eq_comm]
    · simp [hname, Ne.symm hname]

/-- The document of a message has its title and the comments of its fields. -/
theorem documentOf_describes (entry : MessageEntry) :
    Describes (entry.title.getD "") entry.fields (documentOf entry) := by
  rw [documentOf_eq]
  induction entry.fields using List.reverseRecOn with
  | nil =>
      refine ⟨rfl, List.nodup_nil, fun name text => ?_⟩
      simp [LastDoc]
  | append_singleton fields field ih =>
      rw [List.foldl_append, List.foldl_cons, List.foldl_nil, addComment]
      split
      next text hdoc => exact describes_comment ih hdoc
      next hnone =>
        refine ⟨ih.title, ih.distinct, fun name text => ?_⟩
        rw [lastDoc_concat, ← ih.comments]
        simp [hnone]

/-- Add the document of a message, if it says something. -/
def addDocument (documentation : Documentation) (entry : MessageEntry) : Documentation :=
  if (documentOf entry).isEmpty then documentation
  else documentation.insert entry.id (documentOf entry)

theorem documentation_eq (file : SchemaFile) :
    file.documentation = file.messages.foldl addDocument .empty :=
  rfl

section Fold

variable {documentation : Documentation} {entries : List MessageEntry}

theorem addDocument_of_ne {entry : MessageEntry} {id : ProtocolId} (hid : entry.id ≠ id) :
    (addDocument documentation entry).document id = documentation.document id := by
  unfold addDocument
  split
  next => rfl
  next => rw [Documentation.document_insert, if_neg (Ne.symm hid)]

/-- A message without anything to say keeps the empty document. -/
theorem addDocument_self {entry : MessageEntry}
    (hnone : documentation.document entry.id = .empty) :
    (addDocument documentation entry).document entry.id = documentOf entry := by
  unfold addDocument
  split
  next hempty => rw [hnone, Document.isEmpty_iff.mp hempty]
  next => rw [Documentation.document_insert, if_pos rfl]

theorem foldl_addDocument_of_ne {id : ProtocolId} (hid : ∀ entry ∈ entries, entry.id ≠ id) :
    (entries.foldl addDocument documentation).document id = documentation.document id := by
  induction entries generalizing documentation with
  | nil => rfl
  | cons entry rest ih =>
      obtain ⟨hentry, hrest⟩ := List.forall_mem_cons.mp hid
      rw [List.foldl_cons, ih hrest, addDocument_of_ne hentry]

theorem foldl_addDocument (hids : (entries.map MessageEntry.id).Nodup)
    (hnone : ∀ entry ∈ entries, documentation.document entry.id = .empty) {entry : MessageEntry}
    (hentry : entry ∈ entries) :
    (entries.foldl addDocument documentation).document entry.id = documentOf entry := by
  induction entries generalizing documentation with
  | nil => cases hentry
  | cons first rest ih =>
      rw [List.map_cons, List.nodup_cons] at hids
      have hfirst : ∀ other ∈ rest, first.id ≠ other.id := fun other hother heq =>
        hids.1 (heq ▸ List.mem_map_of_mem hother)
      rw [List.foldl_cons]
      rcases List.mem_cons.mp hentry with rfl | hrest
      · rw [foldl_addDocument_of_ne fun other hother => (hfirst other hother).symm,
          addDocument_self (hnone entry List.mem_cons_self)]
      · refine ih hids.2 (fun other hother => ?_) hrest
        rw [addDocument_of_ne (hfirst other hother)]
        exact hnone other (List.mem_cons_of_mem _ hother)

end Fold

/-- Messages with different numbers have the documents of their own entries. -/
theorem documentation_document {file : SchemaFile}
    (hids : (file.messages.map MessageEntry.id).Nodup) {entry : MessageEntry}
    (hentry : entry ∈ file.messages) :
    file.documentation.document entry.id = documentOf entry := by
  rw [documentation_eq]
  exact foldl_addDocument hids (fun _ _ => rfl) hentry

theorem documentation_document_of_ne {file : SchemaFile} {id : ProtocolId}
    (hid : ∀ entry ∈ file.messages, entry.id ≠ id) :
    file.documentation.document id = .empty := by
  rw [documentation_eq, foldl_addDocument_of_ne hid]
  rfl

end SchemaFile

end WireScript
