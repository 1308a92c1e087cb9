import WireScript.Text.Blank

/-! # Comments

Free text as line comments. Every line that is not blank becomes one comment, so
marks for block comments inside the text open nothing.
-/

namespace WireScript.Comment

/-- One trimmed line as a comment. A line that is a comment already is kept. -/
def ofLine (line : List Char) : String :=
  if "//".toList.isPrefixOf line then String.ofList line
  else "// " ++ String.ofList line

/-- The comments for a text, line by line. Blank lines give none. -/
def lines (text : String) : List String :=
  let trimmed := (Text.lines text.toList).map (Text.strip Text.isBlank)
  (trimmed.filter (fun line => !line.isEmpty)).map ofLine

end WireScript.Comment
