import WireScript.Fragment.Comment

/-! # Modules without comments

What a text of a module says apart from its comments: its lines, each up to the
first comment in it, blank ones left out. Lines end where the language of the
module ends them, which is not only at a line feed. What follows such an end
inside a comment is code like any other.
-/

namespace WireScript

/-- What has no separator in it belongs to the first piece. -/
theorem Text.split_append_of_plain {separates : Char → Bool} {before : List Char}
    (hbefore : ∀ c ∈ before, separates c = false) (text : List Char) :
    split separates (before ++ text) = (split separates text).modifyHead (before ++ ·) := by
  induction before with
  | nil =>
      change split separates text = (split separates text).modifyHead id
      rw [List.modifyHead_id, id]
  | cons c before ih =>
      obtain ⟨hc, hrest⟩ := List.forall_mem_cons.mp hbefore
      rw [List.cons_append, split, hc, ih hrest, if_neg Bool.false_ne_true,
        extendFirst_eq_modifyHead]
      · simp [List.modifyHead_modifyHead, Function.comp_def]
      · rw [ne_eq, List.modifyHead_eq_nil_iff]
        exact split_ne_nil separates text

/-- What has no separator in it belongs to the last piece before it. -/
theorem Text.split_append_last (separates : Char → Bool) (before : List Char) :
    ∃ pieces last, ∀ text, (∀ c ∈ text, separates c = false) →
      split separates (before ++ text) = pieces ++ [last ++ text] := by
  induction before with
  | nil => exact ⟨[], [], fun text htext => split_eq_singleton htext⟩
  | cons c before ih =>
      obtain ⟨pieces, last, hsplit⟩ := ih
      by_cases hc : separates c = true
      · refine ⟨[] :: pieces, last, ?_⟩
        intro text htext
        rw [List.cons_append, split, if_pos hc, hsplit text htext, List.cons_append]
      · cases pieces with
        | nil =>
            refine ⟨[], c :: last, ?_⟩
            intro text htext
            rw [List.cons_append, split, if_neg hc, hsplit text htext]
            rfl
        | cons piece pieces =>
            refine ⟨(c :: piece) :: pieces, last, ?_⟩
            intro text htext
            rw [List.cons_append, split, if_neg hc, hsplit text htext]
            rfl

namespace Listing

/-- Whether a character ends a line of a module: a line feed, a carriage return,
or one of the two separators of lines and of paragraphs. -/
def endsLine (c : Char) : Bool := c == '\n' || c == '\r' || c == '\u2028' || c == '\u2029'

/-- Whether a text begins with the mark of a comment. -/
def isComment (text : List Char) : Bool := "//".toList.isPrefixOf text

/-- A line up to the first comment in it. -/
def beforeComment : List Char → List Char
  | [] => []
  | c :: rest => if isComment (c :: rest) then [] else c :: beforeComment rest

/-- The lines that say something, of those given with their comments. -/
def spoken (lines : List (List Char)) : List (List Char) :=
  (lines.map beforeComment).filter (fun line => !line.all Text.isBlank)

/-- The lines of a text without their comments, blank ones left out. -/
def uncommented (text : List Char) : List (List Char) :=
  spoken (Text.split endsLine text)

theorem isComment_cons (c : Char) (rest : List Char) :
    isComment (c :: rest) = (c == '/' && rest.head? == some '/') := by
  cases rest with
  | nil => simp [isComment, List.isPrefixOf]
  | cons d rest =>
      simp only [isComment, List.head?_cons, Option.some_beq_some]
      rw [BEq.comm, BEq.comm (a := d)]
      simp [List.isPrefixOf]

/-- The text of a comment does not matter to what stands before it. -/
theorem beforeComment_append_comment (line rest : List Char) :
    beforeComment (line ++ '/' :: '/' :: rest) = beforeComment (line ++ ['/', '/']) := by
  induction line with
  | nil => rfl
  | cons c line ih =>
      rw [List.cons_append, List.cons_append, beforeComment, beforeComment, isComment_cons,
        isComment_cons, ih, List.head?_append, List.head?_append]
      rfl

theorem beforeComment_indented (indent : Nat) :
    beforeComment (List.replicate indent ' ' ++ ['/', '/']) = List.replicate indent ' ' := by
  induction indent with
  | zero => rfl
  | succ indent ih =>
      rw [List.replicate_succ, List.cons_append, beforeComment, isComment_cons, ih]
      rfl

theorem spoken_append (first second : List (List Char)) :
    spoken (first ++ second) = spoken first ++ spoken second := by
  simp [spoken]

/-- An end of a line parts what is said before it from what is said behind. -/
theorem uncommented_append_cons {c : Char} (hc : endsLine c = true) (before after : List Char) :
    uncommented (before ++ c :: after) = uncommented before ++ uncommented after := by
  rw [uncommented, Text.split_append_cons hc, spoken_append]
  rfl

theorem uncommented_lines (lines : List (List Char)) (rest : List Char) :
    uncommented (lines.flatMap (· ++ ['\n']) ++ rest) =
      lines.flatMap uncommented ++ uncommented rest := by
  induction lines with
  | nil => rfl
  | cons line lines ih =>
      rw [List.flatMap_cons, List.flatMap_cons, List.append_assoc, List.append_assoc,
        List.singleton_append, uncommented_append_cons (by decide), ih, List.append_assoc]

/-- A comment says only what follows behind the end of its line, however far it is
indented. -/
theorem uncommented_comment (indent : Nat) (rest : List Char) :
    uncommented (List.replicate indent ' ' ++ '/' :: '/' :: rest) =
      spoken (Text.split endsLine rest).tail := by
  have hplain : ∀ c ∈ List.replicate indent ' ' ++ ['/', '/'], endsLine c = false := by
    intro c hc
    simp only [List.mem_append, List.mem_replicate, List.mem_cons, List.not_mem_nil] at hc
    rcases hc with ⟨-, rfl⟩ | rfl | rfl | hc
    · decide
    · decide
    · decide
    · exact hc.elim
  obtain ⟨first, others, hpieces⟩ := List.exists_cons_of_ne_nil (Text.split_ne_nil endsLine rest)
  have hsplit := Text.split_append_of_plain hplain rest
  rw [List.append_assoc, hpieces] at hsplit
  simp only [List.cons_append, List.nil_append, List.modifyHead_cons, List.append_assoc] at hsplit
  rw [uncommented, hsplit, hpieces]
  simp [spoken, beforeComment_append_comment, beforeComment_indented, Text.isBlank]

/-- A comment behind some code is not part of what is said. -/
theorem uncommented_append_comment {rest : List Char} (hrest : ∀ c ∈ rest, endsLine c = false)
    (code : List Char) :
    uncommented (code ++ '/' :: '/' :: rest) = uncommented (code ++ ['/', '/']) := by
  obtain ⟨pieces, last, hsplit⟩ := Text.split_append_last endsLine code
  have hmark : ∀ c ∈ ['/', '/'], endsLine c = false := by simp [endsLine]
  have htext : ∀ c ∈ '/' :: '/' :: rest, endsLine c = false :=
    List.forall_mem_append.mpr ⟨hmark, hrest⟩
  rw [uncommented, uncommented, hsplit _ htext, hsplit _ hmark, spoken_append, spoken_append]
  simp [spoken, beforeComment_append_comment]

end Listing

end WireScript
