/-! # Fragments

Lines of source text with the depth they were produced at. A line records its
indentation relative to its fragment, so a fragment moves to another depth or
into another fragment without touching its lines' text.
-/

namespace WireScript

/-- A line and the levels it is indented beyond its fragment. -/
structure Line where
  indent : Nat
  text : String
  deriving DecidableEq

/-- Lines produced at one depth. -/
structure Fragment where
  depth : Nat
  lines : List Line
  deriving DecidableEq

namespace Fragment

/-- The fragment without lines. -/
def empty (depth : Nat) : Fragment := ⟨depth, []⟩

/-- Add a line `levels` deeper than the fragment. -/
def indented (fragment : Fragment) (levels : Nat) (text : String) : Fragment :=
  { fragment with lines := fragment.lines ++ [⟨levels, text⟩] }

/-- Add a line at the fragment's own depth. -/
def line (fragment : Fragment) (text : String) : Fragment :=
  fragment.indented 0 text

/-- A line moved some levels to the right. -/
def shift (levels : Nat) (line : Line) : Line :=
  { line with indent := line.indent + levels }

/-- Add the lines of another fragment where they stand. One produced at a lesser
depth moves to the depth of this fragment. -/
def append (fragment other : Fragment) : Fragment :=
  { fragment with
    lines := fragment.lines ++ other.lines.map (shift (other.depth - fragment.depth)) }

/-- Move a fragment to another depth. -/
def reindent (fragment : Fragment) (depth : Nat) : Fragment :=
  { fragment with depth := depth }

/-- The text of one indentation level. -/
def indentation : String := "    "

/-- A line as it stands below `depth` levels. An empty line has no indentation. -/
def renderLine (depth : Nat) (line : Line) : String :=
  if line.text.isEmpty then "\n"
  else String.join (List.replicate (depth + line.indent) indentation) ++ line.text ++ "\n"

/-- The text of a fragment, every line ended. -/
def render (fragment : Fragment) : String :=
  String.join (fragment.lines.map (renderLine fragment.depth))

/-- The lines without indentation. -/
def statements (fragment : Fragment) : List String :=
  fragment.lines.map Line.text

end Fragment

end WireScript
