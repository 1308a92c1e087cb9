import WireScript.Kind
import WireScript.Text.Blank

/-! # Documentation

Titles of messages and comments on their fields. Documentation is optional
everywhere: a message without an entry has the empty document.
-/

namespace WireScript

/-- The title of a message and the comments on its fields, by field name. -/
structure Document where
  title : String
  comments : List (String × String)

namespace Document

/-- The document that says nothing. -/
def empty : Document := ⟨"", []⟩

/-- Set the comment on a field. A later comment replaces an earlier one. -/
def comment (document : Document) (field text : String) : Document :=
  { document with
    comments := (field, text) :: document.comments.filter (fun entry => entry.1 != field) }

/-- The comment on a field, unless it is blank. -/
def field? (document : Document) (field : String) : Option String :=
  (document.comments.lookup field).filter (fun text => !Text.isBlankText text)

/-- Whether a document has neither a title nor a comment. -/
def isEmpty (document : Document) : Bool :=
  document.title.isEmpty && document.comments.isEmpty

end Document

/-- Documents of messages by their number. -/
structure Documentation where
  entries : List (ProtocolId × Document)

namespace Documentation

/-- No documents. -/
def empty : Documentation := ⟨[]⟩

/-- Set the document of a message. A later document replaces an earlier one. -/
def insert (documentation : Documentation) (id : ProtocolId) (document : Document) :
    Documentation :=
  ⟨(id, document) :: documentation.entries.filter (fun entry => entry.1 != id)⟩

/-- The document of a message. -/
def document (documentation : Documentation) (id : ProtocolId) : Document :=
  (documentation.entries.lookup id).getD .empty

/-- The number of messages with a document. -/
def size (documentation : Documentation) : Nat := documentation.entries.length

end Documentation

end WireScript
