import WireScript.Fault

/-! # Templates

Text with positional markers. Markers are filled from left to right, values are
inserted as they are, and a template takes exactly as many values as it has
markers.
-/

namespace WireScript

/-- Literal text around markers: the text before the first marker, then the text
after each one. -/
structure Template where
  name : String
  head : String
  tail : List String
  deriving DecidableEq

namespace Template

/-- The mark a value replaces. -/
def marker : String := "\x7b\x7d"

/-- Put a character in front of the first segment. -/
def extend (c : Char) (segments : List Char × List (List Char)) :
    List Char × List (List Char) :=
  (c :: segments.1, segments.2)

/-- The segments of a text between its markers, found from left to right. -/
def segments : List Char → List Char × List (List Char)
  | [] => ([], [])
  | '\x7b' :: '\x7d' :: rest =>
      let (head, tail) := segments rest
      ([], head :: tail)
  | c :: rest => extend c (segments rest)

/-- The template with a text. -/
def ofText (name text : String) : Template :=
  let (head, tail) := segments text.toList
  ⟨name, String.ofList head, tail.map String.ofList⟩

/-- The text of a template, with its markers. -/
def text (template : Template) : String :=
  marker.intercalate (template.head :: template.tail)

/-- The number of markers. -/
def placeholders (template : Template) : Nat := template.tail.length

/-- Accept a number of values only if it is the number of markers. -/
def checkArity (template : Template) (actual : Nat) : Except Fault Unit :=
  if template.placeholders = actual then .ok ()
  else .error (.placeholderMismatch template.name template.placeholders actual)

/-- The text with the markers replaced by the values, in order. -/
def fill (template : Template) (values : List String) : String :=
  String.join (template.head :: List.zipWith (· ++ ·) values template.tail)

/-- Fill a template with exactly as many values as it has markers. -/
def render (template : Template) (values : List String) : Except Fault String := do
  template.checkArity values.length
  return template.fill values

end Template

end WireScript
