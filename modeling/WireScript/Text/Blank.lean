import WireScript.Text.Split

/-! # Blank characters

White space as Unicode defines it, and the three uses the generator makes of it:
trimming a text, asking whether it is blank, and collapsing the runs between its
words.
-/

namespace WireScript.Text

/-- The characters with the property White_Space. -/
def isBlank (c : Char) : Bool :=
  let n := c.toNat
  (9 ≤ n && n ≤ 13) || n == 0x20 || n == 0x85 || n == 0xA0 || n == 0x1680 ||
    (0x2000 ≤ n && n ≤ 0x200A) || n == 0x2028 || n == 0x2029 || n == 0x202F ||
    n == 0x205F || n == 0x3000

/-- Remove the characters satisfying `drop` from both ends. -/
def strip (drop : Char → Bool) (text : List Char) : List Char :=
  ((text.dropWhile drop).reverse.dropWhile drop).reverse

/-- A text without the blank characters at its ends. -/
def trim (text : String) : String :=
  String.ofList (strip isBlank text.toList)

/-- Whether a text has no character that is not blank. -/
def isBlankText (text : String) : Bool :=
  text.toList.all isBlank

/-- The maximal runs of characters that are not blank. -/
def words (text : List Char) : List (List Char) :=
  (split isBlank text).filter (fun word => !word.isEmpty)

/-- The words of a text with one space between neighbours. -/
def collapse (text : String) : String :=
  " ".intercalate ((words text.toList).map String.ofList)

end WireScript.Text
