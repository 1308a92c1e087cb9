import WireScript.Proofs.Template
import WireScript.Proofs.Text.Adjacent

/-! # Seams of artifacts

Two characters are next to each other in an artifact only where they are in one of the
texts it is made from: the seams between the segments of a template and its values,
between the lines of a block and between a comment and its mark join no two of them.
-/

namespace WireScript

open Text

variable {a b : Char}

namespace Template

theorem fill_cons (name head segment value : String) (tail values : List String) :
    fill ⟨name, head, segment :: tail⟩ (value :: values) =
      head ++ (value ++ fill ⟨name, segment, tail⟩ values) := by
  rw [fill, fill, List.zipWith_cons_cons, String.join_cons, String.join_cons, String.join_cons,
    String.append_assoc]

/-- A template without two characters next to each other, that puts no value right in
front of the second of them. -/
def KeepsApart (a b : Char) (template : Template) : Prop :=
  (∀ segment ∈ template.head :: template.tail, ¬ Adjacent a b segment.toList) ∧
    ∀ segment ∈ template.tail, segment.toList.head?.any (· != b) = true

instance (a b : Char) : DecidablePred (KeepsApart a b) := fun template =>
  inferInstanceAs (Decidable ((∀ segment ∈ template.head :: template.tail, _) ∧ _))

/-- What such a template is filled with is all that can have the two characters, unless a
value begins with the second of them right behind the first. -/
theorem KeepsApart.fill_iff {template : Template} (hapart : template.KeepsApart a b)
    {values : List String} (hvalues : template.placeholders = values.length)
    (hseams : ∀ seam ∈ (template.head :: template.tail).zip values,
      seam.1.toList.getLast? ≠ some a ∨ seam.2.toList.head? ≠ some b) :
    Adjacent a b (template.fill values).toList ↔
      ∃ value ∈ values, Adjacent a b value.toList := by
  obtain ⟨name, head, tail⟩ := template
  induction tail generalizing head values with
  | nil =>
      obtain rfl := List.length_eq_zero_iff.mp hvalues.symm
      simpa [fill] using hapart.1 head List.mem_cons_self
  | cons segment tail ih =>
      obtain ⟨value, values, rfl⟩ := List.exists_cons_of_length_eq_add_one hvalues.symm
      obtain ⟨hclean, hstarts⟩ := hapart
      obtain ⟨hhead, hclean⟩ := List.forall_mem_cons.mp hclean
      obtain ⟨hsegment, hstarts⟩ := List.forall_mem_cons.mp hstarts
      rw [List.zip_cons_cons, List.forall_mem_cons] at hseams
      obtain ⟨hbefore, hseams⟩ := hseams
      obtain ⟨c, hc, hne⟩ := (Option.any_eq_true _ _).mp hsegment
      have hbehind : (fill ⟨name, segment, tail⟩ values).toList.head? ≠ some b := by
        rw [fill, String.join_cons, String.toList_append, List.head?_append, hc]
        simpa using hne
      have hrest := ih segment ⟨hclean, hstarts⟩ (Nat.succ.inj hvalues) hseams
      rw [fill_cons, String.toList_append, String.toList_append, adjacent_append_iff,
        adjacent_append_iff, hrest]
      -- behind an empty value the seam is that of two segments
      have hseam : ¬ (head.toList.getLast? = some a ∧
          (value.toList ++ (fill ⟨name, segment, tail⟩ values).toList).head? = some b) := by
        rw [List.head?_append, Option.or_eq_some_iff]
        rintro ⟨hlast, hfirst | ⟨-, hfirst⟩⟩
        · exact hbefore.elim (· hlast) (· hfirst)
        · exact hbehind hfirst
      simp only [hseam, hhead, hbehind, false_or, or_false, and_false, List.mem_cons,
        exists_eq_or_imp]

theorem KeepsApart.render_iff {template : Template} (hapart : template.KeepsApart a b)
    {values : List String} {text : String} (htext : template.render values = .ok text)
    (hseams : ∀ seam ∈ (template.head :: template.tail).zip values,
      seam.1.toList.getLast? ≠ some a ∨ seam.2.toList.head? ≠ some b) :
    Adjacent a b text.toList ↔ ∃ value ∈ values, Adjacent a b value.toList := by
  by_cases hvalues : template.placeholders = values.length
  · rw [render_eq_ok hvalues, Except.ok.injEq] at htext
    rw [← htext, hapart.fill_iff hvalues hseams]
  · rw [render_eq_error hvalues] at htext
    cases htext

/-- A filled template ends like its last segment. -/
theorem getLast?_render {template : Template} {values : List String} {text : String}
    (htext : template.render values = .ok text) {last : String}
    (hlast : template.tail.getLast? = some last) {c : Char}
    (hc : last.toList.getLast? = some c) : text.toList.getLast? = some c := by
  by_cases hvalues : template.placeholders = values.length
  · rw [render_eq_ok hvalues, Except.ok.injEq] at htext
    subst htext
    obtain ⟨name, head, tail⟩ := template
    induction tail generalizing head values with
    | nil => cases hlast
    | cons segment tail ih =>
        obtain ⟨value, values, rfl⟩ := List.exists_cons_of_length_eq_add_one hvalues.symm
        have hrest : (fill ⟨name, segment, tail⟩ values).toList.getLast? = some c := by
          cases tail with
          | nil =>
              obtain rfl := List.length_eq_zero_iff.mp (Nat.succ.inj hvalues).symm
              obtain rfl : segment = last := by simpa using hlast
              simpa [fill] using hc
          | cons next tail => exact ih segment hlast (Nat.succ.inj hvalues)
        rw [fill_cons]
        simp only [String.toList_append, List.getLast?_append, hrest, Option.some_or]
  · rw [render_eq_error hvalues] at htext
    cases htext

end Template

namespace Comment

/-- The mark of a comment adds no seam. -/
theorem adjacent_ofLine_iff (ha : a ∉ ['/', ' ']) (line : List Char) :
    Adjacent a b (ofLine line).toList ↔ Adjacent a b line := by
  unfold ofLine
  split
  next => rw [String.toList_ofList]
  next =>
    have hmark : a ∉ "// ".toList := by simpa using ha
    rw [String.toList_append, adjacent_append_iff_right hmark, String.toList_ofList]

/-- The comments for a text say what the text says. -/
theorem adjacent_lines_iff (ha : isBlank a = false) (hb : isBlank b = false)
    (hmark : a ≠ '/') (text : String) :
    (∃ comment ∈ lines text, Adjacent a b comment.toList) ↔ Adjacent a b text.toList := by
  have hfeed {c : Char} (hc : isBlank c = false) : (c == '\n') = false := by
    rw [beq_eq_false_iff_ne]
    rintro rfl
    cases hc
  have hspace : a ≠ ' ' := by
    rintro rfl
    cases ha
  rw [← @adjacent_split_iff a b text.toList (· == '\n') (hfeed ha) (hfeed hb)]
  constructor
  · rintro ⟨comment, hcomment, hadjacent⟩
    obtain ⟨line, hline, -, rfl⟩ := mem_lines_iff.mp hcomment
    rw [adjacent_ofLine_iff (by simp [hmark, hspace]), adjacent_strip_iff ha hb] at hadjacent
    exact ⟨line, hline, hadjacent⟩
  · rintro ⟨line, hline, hadjacent⟩
    rw [← adjacent_strip_iff ha hb] at hadjacent
    refine ⟨_, mem_lines_iff.mpr ⟨line, hline, ?_, rfl⟩, ?_⟩
    · intro hnone
      rw [hnone] at hadjacent
      exact not_adjacent_nil hadjacent
    · exact (adjacent_ofLine_iff (by simp [hmark, hspace]) _).mpr hadjacent

/-- Comments begin with their mark, so one below another adds no seam. -/
theorem adjacent_titleText_iff (hb : b ≠ '/') (hfeed : b ≠ '\n') (title : String) :
    Adjacent a b (TemplateSet.titleText title).toList ↔
      ∃ comment ∈ lines title, Adjacent a b comment.toList := by
  have hline (comment : String) :
      Adjacent a b (comment ++ "\n").toList ↔ Adjacent a b comment.toList := by
    rw [String.toList_append]
    exact adjacent_append_iff_left (by simpa using hfeed)
  rw [TemplateSet.titleText, String.toList_join, List.flatMap_map, adjacent_flatMap_iff]
  · simp only [hline]
  · intro comment hcomment
    obtain ⟨line, -, -, rfl⟩ := mem_lines_iff.mp hcomment
    obtain ⟨rest, hrest, -⟩ := toList_ofLine (strip isBlank line)
    rw [String.toList_append, hrest]
    simpa using hb.symm

end Comment

namespace Fragment

/-- Lines of an indented block begin with spaces, so one below another adds no seam. -/
theorem adjacent_render_iff {fragment : Fragment} (hdepth : 0 < fragment.depth) (ha : a ≠ ' ')
    (hb : b ∉ ['\n', ' ']) :
    Adjacent a b fragment.render.toList ↔
      ∃ line ∈ fragment.lines, Adjacent a b line.text.toList := by
  obtain ⟨hfeed, hspace⟩ : '\n' ≠ b ∧ ' ' ≠ b := by simpa [eq_comm] using hb
  have hspaces (levels : Nat) : a ∉ List.replicate levels ' ' := by
    simp [List.mem_replicate, ha]
  have hline (line : Line) : Adjacent a b (renderLine fragment.depth line).toList ↔
      Adjacent a b line.text.toList := by
    by_cases hsome : line.text.toList = []
    · simp [renderLine, String.toList_eq_nil_iff.mp hsome, adjacent_cons_iff, not_adjacent_nil]
    · rw [toList_renderLine hsome, adjacent_append_iff_left (by simpa using hfeed.symm),
        adjacent_append_iff_right (hspaces _)]
  rw [toList_render, adjacent_flatMap_iff]
  · simp only [hline]
  · intro line _ hhead
    by_cases hsome : line.text.toList = []
    · simp [renderLine, String.toList_eq_nil_iff.mp hsome, hfeed] at hhead
    · obtain ⟨levels, hlevels⟩ : ∃ levels, 4 * (fragment.depth + line.indent) = levels + 1 :=
        Nat.exists_eq_add_one.mpr (by omega)
      rw [toList_renderLine hsome, hlevels, List.replicate_succ] at hhead
      simp [hspace] at hhead

/-- A block that is trimmed says what it said. -/
theorem adjacent_trim_render_iff {fragment : Fragment} (hdepth : 0 < fragment.depth)
    (ha : isBlank a = false) (hb : isBlank b = false) :
    Adjacent a b (trim fragment.render).toList ↔
      ∃ line ∈ fragment.lines, Adjacent a b line.text.toList := by
  have hvisible {c d : Char} (hc : isBlank c = false) (hd : isBlank d = true) : c ≠ d := by
    rintro rfl
    rw [hc] at hd
    cases hd
  rw [trim, String.toList_ofList, adjacent_strip_iff ha hb,
    adjacent_render_iff hdepth (hvisible ha rfl)]
  simp [hvisible hb (d := '\n') rfl, hvisible hb (d := ' ') rfl]

end Fragment

end WireScript
