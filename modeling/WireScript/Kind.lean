import WireScript.Text.Decimal

/-! # Value kinds

The closed set of shapes a field takes on the wire. A kind is a tree of
collections and maps over scalars and references to messages; nothing bounds its
depth, so the two measures of a kind are computed with a list of pending work and
type expressions are written in one pass. The equations of `text` give them part
by part.
-/

namespace WireScript

/-- The number by which a message is known on the wire. -/
abbrev ProtocolId := UInt16

/-- Values that one call of the buffer writes. -/
inductive Scalar where
  | bool | byte | short | int | long | float | double | char | string
  deriving DecidableEq

/-- Sequences of values of one kind. Arrays and lists differ in name only. -/
inductive Collection where
  | array | list | set
  deriving DecidableEq

/-- The kind of a value. A nested message is referred to by its number. -/
inductive Kind where
  | scalar (scalar : Scalar)
  | sequence (collection : Collection) (element : Kind)
  | map (key value : Kind)
  | message (id : ProtocolId)
  deriving DecidableEq

/-- The outermost shape of a kind, by which the code for it is chosen. -/
inductive Tag where
  | scalar (scalar : Scalar)
  | sequence (collection : Collection)
  | map
  | message
  deriving DecidableEq

/-- The word for a scalar in a type expression. -/
def Scalar.name : Scalar → String
  | .bool => "bool"
  | .byte => "byte"
  | .short => "short"
  | .int => "int"
  | .long => "long"
  | .float => "float"
  | .double => "double"
  | .char => "char"
  | .string => "string"

/-- The word for a collection in a type expression. -/
def Collection.name : Collection → String
  | .array => "array"
  | .list => "list"
  | .set => "set"

/-- All scalars, integral ones first. -/
def Scalar.all : List Scalar :=
  [.bool, .byte, .short, .int, .long, .float, .double, .char, .string]

/-- All collections. -/
def Collection.all : List Collection := [.array, .list, .set]

namespace Tag

/-- The word for a tag in a type expression. -/
def name : Tag → String
  | .scalar s => s.name
  | .sequence collection => collection.name
  | .map => "map"
  | .message => "message"

/-- All tags: scalars, collections, maps, messages. -/
def all : List Tag :=
  Scalar.all.map .scalar ++ Collection.all.map .sequence ++ [.map, .message]

theorem mem_all (tag : Tag) : tag ∈ all := by
  cases tag with
  | scalar s => cases s <;> decide
  | sequence c => cases c <;> decide
  | map => decide
  | message => decide

/-- The tag a word stands for. Three scalars have a second spelling. -/
def ofWord? (word : String) : Option Tag :=
  if word = "boolean" then some (.scalar .bool)
  else if word = "integer" then some (.scalar .int)
  else if word = "character" then some (.scalar .char)
  else all.find? (fun tag => tag.name = word)

end Tag

namespace Kind

/-- The outermost shape. -/
def tag : Kind → Tag
  | .scalar s => .scalar s
  | .sequence collection _ => .sequence collection
  | .map _ _ => .map
  | .message _ => .message

/-- The kinds directly inside, the key of a map before its value. -/
def children : Kind → List Kind
  | .scalar _ => []
  | .sequence _ element => [element]
  | .map key value => [key, value]
  | .message _ => []

/-- Whether a kind is a level of nesting. -/
def isComposite : Kind → Bool
  | .sequence _ _ => true
  | .map _ _ => true
  | _ => false

/-- Write the type expression of a kind behind what is written already, so that
deep kinds are written without copying their parts. -/
def spell (written : String) : Kind → String
  | .scalar s => written ++ s.name
  | .sequence collection element =>
      element.spell (written ++ collection.name ++ "<") ++ ">"
  | .map key value => value.spell (key.spell (written ++ "map<") ++ ", ") ++ ">"
  | .message id => written ++ "message<" ++ Text.decimal id.toNat ++ ">"

/-- The type expression of a kind. -/
def text (kind : Kind) : String := kind.spell ""

theorem spell_append (kind : Kind) (before written : String) :
    kind.spell (before ++ written) = before ++ kind.spell written := by
  induction kind generalizing written with
  | scalar s => simp [spell, String.append_assoc]
  | sequence collection element ih => simp [spell, ih, String.append_assoc]
  | map key value ihKey ihValue => simp [spell, ihKey, ihValue, String.append_assoc]
  | message id => simp [spell, String.append_assoc]

theorem spell_eq (kind : Kind) (written : String) :
    kind.spell written = written ++ kind.text := by
  simpa [text] using kind.spell_append written ""

theorem text_scalar (s : Scalar) : (scalar s).text = s.name := by
  simp [text, spell]

theorem text_sequence (collection : Collection) (element : Kind) :
    (sequence collection element).text = collection.name ++ "<" ++ element.text ++ ">" := by
  rw [text, spell, spell_eq, String.empty_append]

theorem text_map (key value : Kind) :
    (map key value).text = "map<" ++ key.text ++ ", " ++ value.text ++ ">" := by
  rw [text, spell, spell_eq, spell_eq, String.empty_append]

theorem text_message (id : ProtocolId) :
    (message id).text = "message<" ++ Text.decimal id.toNat ++ ">" := by
  simp [text, spell]

/-- The number of nodes, which bounds every walk over a kind. -/
def size : Kind → Nat
  | .scalar _ => 1
  | .sequence _ element => element.size + 1
  | .map key value => key.size + value.size + 1
  | .message _ => 1

/-- The deepest level found among kinds still to be visited, each with the
number of levels around it, and the deepest level seen before. -/
def deepest (seen : Nat) : List (Kind × Nat) → Nat
  | [] => seen
  | (.scalar _, _) :: pending => deepest seen pending
  | (.sequence _ element, level) :: pending =>
      deepest (max seen (level + 1)) ((element, level + 1) :: pending)
  | (.map key value, level) :: pending =>
      deepest (max seen (level + 1)) ((key, level + 1) :: (value, level + 1) :: pending)
  | (.message _, _) :: pending => deepest seen pending
termination_by pending => pending.foldr (fun entry total => entry.1.size + total) 0
decreasing_by all_goals simp [size] <;> omega

/-- The number of composite levels around the innermost scalar: `int` has none,
`map<string, list<int>>` has two. -/
def depth (kind : Kind) : Nat := deepest 0 [(kind, 0)]

/-- The messages referred to by kinds still to be visited, from left to right. -/
def references : List Kind → List ProtocolId
  | [] => []
  | .scalar _ :: pending => references pending
  | .sequence _ element :: pending => references (element :: pending)
  | .map key value :: pending => references (key :: value :: pending)
  | .message id :: pending => id :: references pending
termination_by pending => pending.foldr (fun kind total => kind.size + total) 0
decreasing_by all_goals simp [size] <;> omega

/-- The messages a kind refers to, from left to right, repetitions kept. -/
def nestedIds (kind : Kind) : List ProtocolId := references [kind]

end Kind

end WireScript
