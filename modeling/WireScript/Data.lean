import WireScript.Kind

/-! # Structured data

What the readers of configuration and schema files make of a text, and how
records are taken from it. The formats share everything but three points: JSON
has a null, it refuses surplus members of a record given as a list, and the two
have different values for a choice without content.
-/

namespace WireScript

/-- A value of a data format. `other` is a value that no setting accepts, such as
a date, and `unrepresentable` a number beyond all bounds; a text or a member name
that is not Unicode is `none`. -/
inductive Data where
  | null
  | boolean (value : Bool)
  | number (value : Int)
  | text (value : Option String)
  | list (items : List Data)
  | record (members : List (Option String × Data))
  | other
  | unrepresentable

/-- How a data format deviates from the common rules. -/
structure Dialect where
  /-- Whether a value stands for a choice without content. -/
  isUnit : Data → Bool
  /-- Whether a list may have more members than the record it stands for. -/
  allowsSurplus : Bool

namespace Data

/-- A text. -/
def text? : Data → Option String
  | .text value => value
  | _ => none

/-- A truth value. -/
def boolean? : Data → Option Bool
  | .boolean value => some value
  | _ => none

/-- A whole number between zero and a largest one. -/
def natural? (largest : Nat) : Data → Option Nat
  | .number value => if 0 ≤ value && value ≤ largest then some value.toNat else none
  | _ => none

/-- The number of a message. -/
def protocolId? (data : Data) : Option ProtocolId :=
  (data.natural? 65535).map UInt16.ofNat

/-- A list whose members are all accepted. -/
def list? {α : Type} (member? : Data → Option α) : Data → Option (List α)
  | .list items => items.mapM member?
  | _ => none

/-- The member with a name, if there is one; nothing when there are several. -/
def member? (members : List (Option String × Data)) (name : String) : Option (Option Data) :=
  match members.filter (fun entry => entry.1 == some name) with
  | [] => some none
  | [(_, data)] => some (some data)
  | _ => none

mutual

/-- Whether a value can be passed over: reading through it meets no number that
cannot be represented. -/
def isReadable : Data → Bool
  | .list items => areReadable items
  | .record members => areReadableMembers members
  | .unrepresentable => false
  | _ => true

/-- Whether all values of a list can be passed over. -/
def areReadable : List Data → Bool
  | [] => true
  | data :: rest => data.isReadable && areReadable rest

/-- Whether the values of all members can be passed over. -/
def areReadableMembers : List (Option String × Data) → Bool
  | [] => true
  | (_, data) :: rest => data.isReadable && areReadableMembers rest

end

/-- Whether a member may stand in a record: its name is Unicode and, if the name
is not one of `names`, its value can be passed over. -/
def isAdmitted (names : List String) : Option String × Data → Bool
  | (none, _) => false
  | (some name, data) => names.contains name || data.isReadable

/-- The members of a record in the order of `names`, each with its value if it
has one. Unknown members are read and ignored. A list gives the members in order,
and surplus ones are not even read. -/
def members? (dialect : Dialect) (names : List String) : Data → Option (List (Option Data))
  | .record members =>
      if members.all (isAdmitted names) then names.mapM (member? members) else none
  | .list items =>
      if items.length ≤ names.length || dialect.allowsSurplus then
        some ((items.map some ++ names.map (fun _ => none)).take names.length)
      else none
  | _ => none

/-- A member that may be missing. -/
def optional {α : Type} (read? : Data → Option α) (fallback : α) : Option Data → Option α
  | none => some fallback
  | some data => read? data

/-- A member that must be there. -/
def required {α : Type} (read? : Data → Option α) : Option Data → Option α
  | none => none
  | some data => read? data

end Data

end WireScript
