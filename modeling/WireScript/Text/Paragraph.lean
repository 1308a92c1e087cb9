/-! # Paragraphs

Long constant texts are written line by line.
-/

namespace WireScript.Text

/-- The text of some lines, every one of them ended. -/
def paragraph (lines : List String) : String :=
  String.join (lines.map (fun line => line ++ "\n"))

end WireScript.Text
