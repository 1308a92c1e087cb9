import WireScript.Proofs.Artifact.Documentation

/-! # Characters next to each other

Whether one character stands right before another in a text is known from the parts of
the text and the seams between them. Parts that are cut off, put together again or set
around a text without either of the two characters leave the answer as it was.
-/

namespace WireScript

namespace Text

/-- Whether one character stands right before another somewhere in a text. -/
def Adjacent (a b : Char) (text : List Char) : Prop := [a, b] <:+: text

instance (a b : Char) (text : List Char) : Decidable (Adjacent a b text) :=
  inferInstanceAs (Decidable ([a, b] <:+: text))

variable {a b c : Char} {first second text : List Char}

theorem not_adjacent_nil : ¬ Adjacent a b [] := by simp [Adjacent]

theorem adjacent_cons_iff :
    Adjacent a b (c :: text) ↔ c = a ∧ text.head? = some b ∨ Adjacent a b text := by
  have hhead : [b] <+: text ↔ text.head? = some b := by
    cases text <;> simp [eq_comm]
  rw [Adjacent, List.infix_cons_iff, List.cons_prefix_cons, hhead, eq_comm (a := a)]
  rfl

/-- Two characters are next to each other in one of two parts, or at their seam. -/
theorem adjacent_append_iff :
    Adjacent a b (first ++ second) ↔ Adjacent a b first ∨ Adjacent a b second ∨
      first.getLast? = some a ∧ second.head? = some b := by
  induction first with
  | nil => simp [not_adjacent_nil]
  | cons c first ih =>
      rw [List.cons_append, adjacent_cons_iff, adjacent_cons_iff, ih]
      cases first with
      | nil => simp [not_adjacent_nil, or_comm]
      | cons d first => simp [List.getLast?_cons_cons, or_assoc]

theorem left_mem_of_adjacent (h : Adjacent a b text) : a ∈ text :=
  h.subset List.mem_cons_self

theorem right_mem_of_adjacent (h : Adjacent a b text) : b ∈ text :=
  h.subset (List.mem_cons_of_mem _ List.mem_cons_self)

/-- A text in front that the first character is not in. -/
theorem adjacent_append_iff_right (ha : a ∉ first) :
    Adjacent a b (first ++ second) ↔ Adjacent a b second := by
  have hfirst : ¬ Adjacent a b first := fun h => ha (left_mem_of_adjacent h)
  have hseam : first.getLast? ≠ some a := fun h => ha (List.mem_of_getLast? h)
  simp [adjacent_append_iff, hfirst, hseam]

/-- A text behind that the second character is not in. -/
theorem adjacent_append_iff_left (hb : b ∉ second) :
    Adjacent a b (first ++ second) ↔ Adjacent a b first := by
  have hsecond : ¬ Adjacent a b second := fun h => hb (right_mem_of_adjacent h)
  have hseam : second.head? ≠ some b := fun h => hb (List.mem_of_head? h)
  simp [adjacent_append_iff, hsecond, hseam]

theorem adjacent_reverse_iff : Adjacent a b text.reverse ↔ Adjacent b a text := by
  rw [Adjacent, ← List.reverse_infix, List.reverse_reverse]
  rfl

/-- Parts none of which begins with the second character. -/
theorem adjacent_flatMap_iff {α : Type} {items : List α} {part : α → List Char}
    (hstarts : ∀ item ∈ items, (part item).head? ≠ some b) :
    Adjacent a b (items.flatMap part) ↔ ∃ item ∈ items, Adjacent a b (part item) := by
  induction items with
  | nil => simp [not_adjacent_nil]
  | cons item items ih =>
      obtain ⟨-, hrest⟩ := List.forall_mem_cons.mp hstarts
      have hseam : (items.flatMap part).head? ≠ some b := by
        intro hhead
        rw [List.head?_flatMap] at hhead
        obtain ⟨other, hother, hstart⟩ := List.exists_of_findSome?_eq_some hhead
        exact hrest other hother hstart
      rw [List.flatMap_cons, adjacent_append_iff, ih hrest]
      simp [hseam]

/-- What is dropped in front has neither of the two characters. -/
theorem adjacent_dropWhile_iff {drop : Char → Bool} (ha : drop a = false) :
    Adjacent a b (text.dropWhile drop) ↔ Adjacent a b text := by
  conv_rhs => rw [← List.takeWhile_append_dropWhile (p := drop) (l := text)]
  rw [adjacent_append_iff_right]
  intro hmem
  rw [List.mem_takeWhile_imp hmem] at ha
  cases ha

theorem adjacent_strip_iff {drop : Char → Bool} (ha : drop a = false) (hb : drop b = false) :
    Adjacent a b (strip drop text) ↔ Adjacent a b text := by
  rw [strip, adjacent_reverse_iff, adjacent_dropWhile_iff hb, adjacent_reverse_iff,
    adjacent_dropWhile_iff ha]

theorem head?_split {separates : Char → Bool} (hb : separates b = false) {piece : List Char}
    {pieces : List (List Char)} (hsplit : split separates text = piece :: pieces) :
    piece.head? = some b ↔ text.head? = some b := by
  cases text with
  | nil =>
      rw [split, List.cons.injEq] at hsplit
      rw [← hsplit.1]
  | cons c text =>
      rw [split] at hsplit
      split at hsplit
      next hc =>
        rw [List.cons.injEq] at hsplit
        have hne : c ≠ b := by
          rintro rfl
          rw [hc] at hb
          cases hb
        simp [← hsplit.1, hne]
      next =>
        obtain ⟨other, others, hpieces⟩ := List.exists_cons_of_ne_nil (split_ne_nil separates text)
        rw [hpieces, extendFirst, List.cons.injEq] at hsplit
        simp [← hsplit.1]

/-- Separators that are neither of the two characters part no two of them. -/
theorem adjacent_split_iff {separates : Char → Bool} (ha : separates a = false)
    (hb : separates b = false) :
    (∃ piece ∈ split separates text, Adjacent a b piece) ↔ Adjacent a b text := by
  induction text with
  | nil => simp [split, not_adjacent_nil]
  | cons c text ih =>
      rw [split, adjacent_cons_iff, ← ih]
      split
      next hc =>
        have hne : c ≠ a := by
          rintro rfl
          rw [hc] at ha
          cases ha
        simp [not_adjacent_nil, hne]
      next =>
        obtain ⟨piece, pieces, hpieces⟩ := List.exists_cons_of_ne_nil (split_ne_nil separates text)
        rw [hpieces, extendFirst, ← head?_split hb hpieces]
        simp only [List.mem_cons, exists_eq_or_imp, adjacent_cons_iff, or_assoc]

/-- Texts with a character between them that is neither of the two. -/
theorem adjacent_intercalate_iff (ha : a ≠ c) (hb : b ≠ c) {texts : List (List Char)} :
    Adjacent a b ([c].intercalate texts) ↔ ∃ text ∈ texts, Adjacent a b text := by
  induction texts with
  | nil => simp [not_adjacent_nil]
  | cons text texts ih =>
      cases texts with
      | nil => simp
      | cons next texts =>
          rw [List.intercalate_cons_cons, adjacent_append_iff, ih,
            adjacent_append_iff_left (by simp [hb])]
          simp [Ne.symm ha]

/-- Collapsing a text takes blanks away and puts spaces in their place. -/
theorem adjacent_collapse_iff (ha : isBlank a = false) (hb : isBlank b = false) (text : String) :
    Adjacent a b (collapse text).toList ↔ Adjacent a b text.toList := by
  have hspace {d : Char} (hd : isBlank d = false) : d ≠ ' ' := by
    rintro rfl
    cases hd
  have hword (piece : List Char) : (!piece.isEmpty) = true ∧ Adjacent a b piece ↔
      Adjacent a b piece := by
    cases piece <;> simp [not_adjacent_nil]
  have hchars : String.toList ∘ String.ofList = id := funext fun _ => String.toList_ofList
  have hseparator : " ".toList = [' '] := rfl
  rw [collapse, String.toList_intercalate, List.map_map, hchars, List.map_id, hseparator,
    adjacent_intercalate_iff (hspace ha) (hspace hb), words, ← adjacent_split_iff ha hb]
  simp only [List.mem_filter, and_assoc, hword]

theorem toList_paragraph (lines : List String) :
    (paragraph lines).toList = lines.flatMap (fun line => line.toList ++ ['\n']) := by
  rw [paragraph, String.toList_join, List.flatMap_map]
  simp only [String.toList_append]
  rfl

/-- Line feeds that are neither of the two characters keep lines apart. -/
theorem adjacent_paragraph_iff (ha : a ≠ '\n') (hb : b ≠ '\n') {lines : List String} :
    Adjacent a b (paragraph lines).toList ↔ ∃ line ∈ lines, Adjacent a b line.toList := by
  rw [toList_paragraph]
  induction lines with
  | nil => simp [not_adjacent_nil]
  | cons line lines ih =>
      rw [List.flatMap_cons, adjacent_append_iff, ih, adjacent_append_iff_left (by simpa using hb)]
      simp [ha.symm]

theorem getLast?_paragraph {lines : List String} (hlines : lines ≠ []) :
    (paragraph lines).toList.getLast? = some '\n' := by
  obtain ⟨front, last, rfl⟩ := (List.eq_nil_or_concat' lines).resolve_left hlines
  rw [toList_paragraph, List.flatMap_append, List.getLast?_append]
  simp

end Text

end WireScript
