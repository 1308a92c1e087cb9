/-! # Splitting text at separators

Texts are taken apart as lists of characters. `split` keeps empty pieces, so the
pieces joined by their separators are the text again.
-/

namespace WireScript.Text

/-- Put a character in front of the first piece. -/
def extendFirst (c : Char) : List (List Char) → List (List Char)
  | [] => [[c]]
  | piece :: pieces => (c :: piece) :: pieces

/-- The pieces between the characters that satisfy `separates`. Pieces may be
empty, and there is one more of them than there are separators. -/
def split (separates : Char → Bool) : List Char → List (List Char)
  | [] => [[]]
  | c :: rest =>
      if separates c then [] :: split separates rest
      else extendFirst c (split separates rest)

theorem extendFirst_ne_nil (c : Char) (pieces : List (List Char)) :
    extendFirst c pieces ≠ [] := by
  cases pieces <;> simp [extendFirst]

theorem split_ne_nil (separates : Char → Bool) (text : List Char) :
    split separates text ≠ [] := by
  cases text with
  | nil => simp [split]
  | cons c rest =>
      unfold split
      split
      · simp
      · exact extendFirst_ne_nil c _

theorem extendFirst_eq_modifyHead {c : Char} {pieces : List (List Char)} (hne : pieces ≠ []) :
    extendFirst c pieces = pieces.modifyHead (c :: ·) := by
  cases pieces with
  | nil => exact absurd rfl hne
  | cons piece pieces => rfl

theorem split_eq_splitOnP (separates : Char → Bool) (text : List Char) :
    split separates text = text.splitOnP separates := by
  induction text with
  | nil => rw [split, List.splitOnP_nil]
  | cons c rest ih =>
      rw [split, List.splitOnP_cons_eq_if_modifyHead, ← ih,
        extendFirst_eq_modifyHead (split_ne_nil separates rest)]

/-- A separator parts the pieces before it from those behind it. -/
theorem split_append_cons {separates : Char → Bool} {c : Char} (hc : separates c = true)
    (before after : List Char) :
    split separates (before ++ c :: after) =
      split separates before ++ split separates after := by
  simp only [split_eq_splitOnP]
  exact List.splitOnP_append_cons before after hc

theorem split_eq_singleton {separates : Char → Bool} {text : List Char}
    (htext : ∀ c ∈ text, separates c = false) : split separates text = [text] := by
  rw [split_eq_splitOnP, List.splitOnP_eq_singleton htext]

/-- Lines end at a line feed; the text after the last one is a line as well,
even when it is empty. -/
def lines (text : List Char) : List (List Char) :=
  split (· == '\n') text

end WireScript.Text
