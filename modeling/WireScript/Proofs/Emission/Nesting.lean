import WireScript.Proofs.Artifact.Documentation
import WireScript.Proofs.Artifact.Module
import WireScript.Proofs.Emission.Words
import WireScript.Proofs.Kind.Division

/-! # Nested lines

A text read from left to right: the braces that are open where a line starts say how
far the line is indented. All of this is about characters. A text is built up from
its end, one rendered line at a time, by what each line does to the braces.
-/

namespace WireScript

namespace Listing

/-- The number of opening braces in a text. -/
def openings (text : List Char) : Nat := text.count '\x7b'

/-- The number of closing braces in a text. -/
def closings (text : List Char) : Nat := text.count '\x7d'

/-- A line starts behind a text that is empty or ends a line. -/
def StartsLine (before : List Char) : Prop := before = [] ∨ before.getLast? = some '\n'

/-- A line of a text, with everything that stands before it. -/
structure HasLine (text before line : List Char) : Prop where
  starts : StartsLine before
  whole : '\n' ∉ line
  placed : ∃ after, text = before ++ (line ++ '\n' :: after)

/-- A line is indented by a number of levels, less one if it starts with a closing
brace. -/
def Indented (levels : Nat) (line : List Char) : Prop :=
  ∃ count first rest, line = List.replicate (4 * count) ' ' ++ first :: rest ∧
    Text.isBlank first = false ∧ levels = count + if first = '\x7d' then 1 else 0

/-- A text whose lines are indented by its braces. There are `opened` braces open in
front of it and `after` behind it, it closes none that is not open, and its lines are
`margin` levels further in than their braces say. -/
structure Nested (margin opened : Nat) (text : List Char) (after : Nat) : Prop where
  closes : ∀ before, before <+: text → closings before ≤ opened + openings before
  balance : opened + openings text = after + closings text
  ended : StartsLine text
  aligned : ∀ before line, HasLine text before line →
    ∃ depth, opened + openings before = depth + closings before ∧ Indented (margin + depth) line

theorem openings_append (first second : List Char) :
    openings (first ++ second) = openings first + openings second :=
  List.count_append

theorem closings_append (first second : List Char) :
    closings (first ++ second) = closings first + closings second :=
  List.count_append

section Lines

variable {first line before rest front behind : List Char}

theorem StartsLine.append (first : List Char) (hrest : StartsLine rest) :
    StartsLine (first ++ '\n' :: rest) := by
  right
  rcases hrest with rfl | hlast
  · exact List.getLast?_concat
  · rw [List.append_cons]
    simp only [List.getLast?_append, hlast, Option.some_or]

/-- A line feed is the first one of a text or stands behind the first one. -/
theorem newline_cases (hfirst : '\n' ∉ first)
    (htext : first ++ '\n' :: rest = front ++ '\n' :: behind) :
    front = first ∧ rest = behind ∨
      ∃ middle, front = first ++ '\n' :: middle ∧ rest = middle ++ '\n' :: behind := by
  rcases List.append_eq_append_iff.mp htext with ⟨more, rfl, hmore⟩ | ⟨more, rfl, hmore⟩
  · rcases List.cons_eq_append_iff.mp hmore with ⟨rfl, hrest⟩ | ⟨middle, rfl, hrest⟩
    · exact .inl ⟨List.append_nil _, (List.cons.inj hrest).2.symm⟩
    · exact .inr ⟨middle, rfl, hrest⟩
  · rcases List.cons_eq_append_iff.mp hmore with ⟨rfl, hbehind⟩ | ⟨middle, rfl, -⟩
    · exact .inl ⟨(List.append_nil _).symm, (List.cons.inj hbehind).2⟩
    · exact absurd (List.mem_append_right front List.mem_cons_self) hfirst

/-- The lines of a text are its first line and those of the rest. -/
theorem HasLine.cases (hfirst : '\n' ∉ first)
    (hline : HasLine (first ++ '\n' :: rest) before line) :
    before = [] ∧ line = first ∨
      ∃ others, before = first ++ '\n' :: others ∧ HasLine rest others line := by
  obtain ⟨hstarts, hwhole, after, hplaced⟩ := hline
  rcases hstarts with rfl | hlast
  · left
    refine ⟨rfl, ?_⟩
    rcases newline_cases hfirst hplaced with ⟨hfront, -⟩ | ⟨middle, rfl, -⟩
    · exact hfront
    · exact absurd (List.mem_append_right first List.mem_cons_self) hwhole
  · right
    obtain ⟨front, rfl⟩ := List.getLast?_eq_some_iff.mp hlast
    rw [List.append_assoc, List.singleton_append] at hplaced
    rcases newline_cases hfirst hplaced with ⟨rfl, hrest⟩ | ⟨middle, rfl, hrest⟩
    · exact ⟨[], rfl, .inl rfl, hwhole, after, hrest⟩
    · refine ⟨middle ++ ['\n'], by simp, .inr List.getLast?_concat, hwhole, after, ?_⟩
      rw [hrest, List.append_assoc]
      rfl

end Lines

theorem openings_newline (first rest : List Char) :
    openings (first ++ '\n' :: rest) = openings first + openings rest := by
  simp [openings]

theorem closings_newline (first rest : List Char) :
    closings (first ++ '\n' :: rest) = closings first + closings rest := by
  simp [closings]

namespace Nested

variable {margin opened between after : Nat} {first rest : List Char}

theorem nil : Nested margin opened [] opened where
  closes before hbefore := by
    rw [List.prefix_nil.mp hbefore]
    exact Nat.zero_le _
  balance := rfl
  ended := .inl rfl
  aligned before line hline := by
    obtain ⟨after, hplaced⟩ := hline.placed
    simp at hplaced

/-- A line in front of a text. The braces open behind the line are those open in front
of the text. -/
theorem cons (hwhole : '\n' ∉ first) (hindented : Indented (margin + opened) first)
    (hcloses : closings first ≤ opened)
    (hbetween : opened + openings first = between + closings first)
    (hrest : Nested margin between rest after) :
    Nested margin opened (first ++ '\n' :: rest) after where
  closes before hbefore := by
    rcases List.prefix_or_prefix_of_prefix hbefore (List.prefix_append first _) with
      hpart | ⟨behind, rfl⟩
    · have hcount : closings before ≤ closings first := hpart.sublist.count_le _
      omega
    · rw [List.prefix_append_right_inj, List.prefix_cons_iff] at hbefore
      rcases hbefore with rfl | ⟨others, rfl, hothers⟩
      · rw [List.append_nil]
        omega
      · have hopen := hrest.closes others hothers
        rw [openings_newline, closings_newline]
        omega
  balance := by
    have hbalance := hrest.balance
    rw [openings_newline, closings_newline]
    omega
  ended := hrest.ended.append first
  aligned before line hline := by
    rcases hline.cases hwhole with ⟨rfl, rfl⟩ | ⟨others, rfl, hothers⟩
    · exact ⟨opened, rfl, hindented⟩
    · obtain ⟨depth, hdepth, hline⟩ := hrest.aligned others line hothers
      refine ⟨depth, ?_, hline⟩
      rw [openings_newline, closings_newline]
      omega

end Nested

/-- What a line does to the braces around it: it closes one where it starts, or opens
one, or both. -/
structure Turns (text : String) (closing opening : Bool) : Prop where
  whole : '\n' ∉ text.toList
  starts : ∃ first rest, text.toList = first :: rest ∧ Text.isBlank first = false ∧
    (first = '\x7d' ↔ closing = true)
  closed : closings text.toList = closing.toNat
  opened : openings text.toList = opening.toNat

/-- A rendered line in front of a text. -/
theorem Turns.nested {text : String} {closing opening : Bool} (hturns : Turns text closing opening)
    {margin level after : Nat} {rest : List Char}
    (hrest : Nested margin (level + opening.toNat) rest after) :
    Nested margin (level + closing.toNat)
      ((Fragment.renderLine margin ⟨level, text⟩).toList ++ rest) after := by
  obtain ⟨c, others, hlist, hvisible, hcloses⟩ := hturns.starts
  have hsome : text.toList ≠ [] := by
    rw [hlist]
    exact List.cons_ne_nil c others
  have hrender : (Fragment.renderLine margin ⟨level, text⟩).toList ++ rest =
      (List.replicate (4 * (margin + level)) ' ' ++ text.toList) ++ '\n' :: rest := by
    rw [@Fragment.toList_renderLine ⟨level, text⟩ hsome, List.append_assoc _ ['\n']]
    rfl
  have hopened : openings (List.replicate (4 * (margin + level)) ' ' ++ text.toList) =
      opening.toNat := by
    rw [openings_append, hturns.opened]
    simp [openings, List.count_replicate]
  have hclosed : closings (List.replicate (4 * (margin + level)) ' ' ++ text.toList) =
      closing.toNat := by
    rw [closings_append, hturns.closed]
    simp [closings, List.count_replicate]
  have hbrace : closing.toNat = if c = '\x7d' then 1 else 0 := by
    by_cases hclosing : closing = true
    · rw [if_pos (hcloses.mpr hclosing), hclosing]
      rfl
    · rw [if_neg fun heq => hclosing (hcloses.mp heq), Bool.eq_false_iff.mpr hclosing]
      rfl
  rw [hrender]
  refine Nested.cons ?_ ?_ ?_ ?_ hrest
  · simp [hturns.whole]
  · exact ⟨margin + level, c, others, by rw [hlist], hvisible, by rw [hbrace, Nat.add_assoc]⟩
  · omega
  · omega

/-- Whether a text has neither braces nor line feeds. -/
def plain (text : String) : Bool :=
  text.toList.all (fun c => !(['\n', '\x7b', '\x7d'].contains c))

/-- Whether a text starts with a character that is neither blank nor a brace. -/
def startsPlain (text : String) : Bool :=
  text.toList.head?.any (fun c => !Text.isBlank c && c != '\x7d')

section Plain

variable {text : String}

theorem plain_append (first second : String) :
    plain (first ++ second) = (plain first && plain second) := by
  rw [plain, String.toList_append, List.all_append]
  rfl

theorem plain_intercalate {values : List String} (hvalues : ∀ value ∈ values, plain value = true) :
    plain (", ".intercalate values) = true := by
  rw [plain, List.all_eq_true]
  intro c hc
  rcases Text.mem_intercalate hc with hseparator | ⟨value, hvalue, hmem⟩
  · exact List.all_eq_true.mp (by decide : plain ", " = true) c hseparator
  · exact List.all_eq_true.mp (hvalues value hvalue) c hmem

theorem notMem_of_plain (hplain : plain text = true) {c : Char}
    (hc : c ∈ ['\n', '\x7b', '\x7d']) : c ∉ text.toList := by
  intro hmem
  have hnone := List.all_eq_true.mp hplain c hmem
  rw [List.contains_iff_mem.mpr hc] at hnone
  cases hnone

theorem plain_of_isWord (hword : IsWord text) : plain text = true := by
  have hsigns : ['\n', '\x7b', '\x7d'].all (fun c => !inWord c) = true := by decide
  rw [plain, List.all_eq_true]
  intro c hc
  rw [Bool.not_eq_true', Bool.eq_false_iff]
  intro hmem
  have hnone := List.all_eq_true.mp hsigns c (List.contains_iff_mem.mp hmem)
  rw [Bool.not_eq_true'] at hnone
  exact hword.notMem hnone hc

theorem startsPlain_of_isWord (hword : IsWord text) (rest : String) :
    startsPlain (text ++ rest) = true := by
  obtain ⟨c, others, hlist⟩ := List.exists_cons_of_ne_nil hword.nonempty
  have hc : inWord c = true := List.all_eq_true.mp hword.inWord c (hlist ▸ List.mem_cons_self)
  have hblank : Text.isBlank c = false := by
    rw [Bool.eq_false_iff]
    intro hblank
    have hcodes : ∀ code ∈ Text.blankCodes, inWord (Char.ofNat code) = false := by decide +kernel
    have hnone := hcodes c.toNat (Text.toNat_mem_blankCodes hblank)
    rw [Char.ofNat_toNat, hc] at hnone
    cases hnone
  have hbrace : c ≠ '\x7d' := by
    rintro rfl
    cases hc
  simp [startsPlain, hlist, hblank, hbrace]

end Plain

namespace Turns

variable {text : String}

/-- A line without braces. -/
theorem statement (hplain : plain text = true) (hstarts : startsPlain text = true) :
    Turns text false false := by
  obtain ⟨c, hhead, hc⟩ := (Option.any_eq_true _ _).mp hstarts
  rw [Bool.and_eq_true, Bool.not_eq_true', bne_iff_ne] at hc
  obtain ⟨others, hlist⟩ := List.head?_eq_some_iff.mp hhead
  constructor
  case whole => exact notMem_of_plain hplain (by decide)
  case starts => exact ⟨c, others, hlist, hc.1, by simp [hc.2]⟩
  case closed => exact List.count_eq_zero.mpr (notMem_of_plain hplain (by decide))
  case opened => exact List.count_eq_zero.mpr (notMem_of_plain hplain (by decide))

/-- A line that ends with an opening brace. -/
theorem opening (last : String) (hplain : plain (text ++ last) = true)
    (hstarts : startsPlain (text ++ last) = true) :
    Turns (text ++ (last ++ "\x7b")) false true := by
  have hturns := statement hplain hstarts
  obtain ⟨c, others, hlist, hblank, hbrace⟩ := hturns.starts
  rw [← String.append_assoc]
  constructor
  case whole =>
    rw [String.toList_append, List.mem_append, not_or]
    exact ⟨hturns.whole, by decide⟩
  case starts =>
    refine ⟨c, others ++ ['\x7b'], ?_, hblank, hbrace⟩
    rw [String.toList_append, hlist]
    rfl
  case closed =>
    rw [String.toList_append, closings_append, hturns.closed]
    rfl
  case opened =>
    rw [String.toList_append, openings_append, hturns.opened]
    rfl

theorem brace : Turns "\x7d" true false where
  whole := by decide
  starts := ⟨'\x7d', [], rfl, by decide, by decide⟩
  closed := rfl
  opened := rfl

theorem bracket : Turns "\x7d);" true false where
  whole := by decide
  starts := ⟨'\x7d', [')', ';'], rfl, by decide, by decide⟩
  closed := rfl
  opened := rfl

theorem otherwise : Turns "\x7d else \x7b" true true where
  whole := by decide
  starts := ⟨'\x7d', " else \x7b".toList, rfl, by decide, by decide⟩
  closed := rfl
  opened := rfl

end Turns

end Listing

end WireScript
