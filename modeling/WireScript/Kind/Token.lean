import WireScript.Text.Blank
import WireScript.Text.Letter

/-! # Tokens of type expressions

A type expression is a run of words, angle brackets and commas. Blank characters
separate words and are otherwise passed over.
-/

namespace WireScript

/-- A piece of a type expression. -/
inductive Token where
  | word (text : String)
  | opening
  | closing
  | comma
  deriving DecidableEq

namespace Token

/-- The mark for a token that is one fixed character. -/
def ofMark? : Char → Option Token
  | '<' => some .opening
  | '>' => some .closing
  | ',' => some .comma
  | _ => none

theorem length_dropWhile_le (p : Char → Bool) (text : List Char) :
    (text.dropWhile p).length ≤ text.length :=
  (List.dropWhile_sublist p).length_le

/-- The tokens of a text, or the first character that belongs to none. A word is
as long as it can be. -/
def scan : List Char → Except Char (List Token)
  | [] => .ok []
  | c :: rest =>
      match ofMark? c with
      | some mark => (scan rest).map (mark :: ·)
      | none =>
          if Text.isBlank c then scan rest
          else if Text.isWordChar c then
            let word := String.ofList (c :: rest.takeWhile Text.isWordChar)
            (scan (rest.dropWhile Text.isWordChar)).map (.word word :: ·)
          else .error c
termination_by text => text.length
decreasing_by
  · simp
  · simp
  · exact Nat.lt_succ_of_le (length_dropWhile_le _ rest)

end Token

end WireScript
