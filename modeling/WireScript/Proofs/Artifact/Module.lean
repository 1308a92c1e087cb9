import Mathlib.Data.List.DropRight
import WireScript.Proofs.Generator.Stages

/-! # Texts of message modules

The module of a message by the embedded template, as one text around its three
blocks. A block is trimmed and then indented by the template: all it loses is
what follows its last visible character.
-/

namespace WireScript

namespace TemplateSet

/-- The text of a module in front of its constructor block. -/
def beforeConstructor (name parameters : String) : String :=
  "const " ++ name ++ " = function(" ++ parameters ++ ") \x7b\n    "

/-- The text of a module behind its constructor block. -/
def behindConstructor (name : String) (id : ProtocolId) (write read : Fragment) : String :=
  "\n\x7d;\n\n" ++ name ++ ".prototype.protocolId = function() \x7b\n    return " ++
    Text.decimal id.toNat ++ ";\n\x7d;\n\n" ++ name ++
    Text.paragraph [
      ".write = function(buffer, packet) \x7b",
      "    if (buffer.writePacketFlag(packet)) \x7b",
      "        return;",
      "    \x7d"] ++ "    " ++ Text.trim write.render ++ "\n\x7d;\n\n" ++ name ++
    Text.paragraph [
      ".read = function(buffer) \x7b",
      "    if (!buffer.readBoolean()) \x7b",
      "        return null;",
      "    \x7d"] ++ "    const packet = new " ++ name ++ "();\n    " ++
    Text.trim read.render ++ "\n    return packet;\n\x7d;\n\nexport default " ++ name ++ ";\n"

theorem renderMessage_embedded (name : String) (id : ProtocolId) (title : String)
    (blocks : Blocks) :
    embedded.renderMessage name id title blocks =
      .ok (titleText title ++ beforeConstructor name blocks.parameters ++
        Text.trim blocks.constructor.render ++
          behindConstructor name id blocks.write blocks.read) := by
  have harity : Template.embeddedMessage.placeholders = 12 := rfl
  rw [renderMessage, embedded, Template.render_eq_ok harity]
  refine congrArg Except.ok ?_
  rw [Template.fill]
  simp only [Template.embeddedMessage, List.zipWith_cons_cons, List.zipWith_nil_left]
  simp only [String.join_cons, String.join_nil]
  unfold behindConstructor beforeConstructor
  simp only [String.append_assoc, String.append_empty, String.empty_append]

theorem toList_behindConstructor (name : String) (id : ProtocolId) (write read : Fragment) :
    ∃ rest, (behindConstructor name id write read).toList = '\n' :: rest := by
  apply List.head?_eq_some_iff.mp
  unfold behindConstructor
  simp only [String.toList_append, List.append_assoc]
  rfl

end TemplateSet

namespace Text

theorem strip_eq_rdropWhile (drop : Char → Bool) (text : List Char) :
    strip drop text = (text.dropWhile drop).rdropWhile drop :=
  rfl

/-- Only what follows a character that is kept can be dropped. -/
theorem rdropWhile_append_cons {drop : Char → Bool} {c : Char} (hkeep : drop c = false)
    (before behind : List Char) :
    (before ++ c :: behind).rdropWhile drop = before ++ c :: behind.rdropWhile drop := by
  have hstop : (c :: before.reverse).dropWhile drop = c :: before.reverse :=
    List.dropWhile_cons_of_neg (by rw [hkeep]; exact Bool.false_ne_true)
  simp only [List.rdropWhile, List.reverse_append, List.reverse_cons, List.append_assoc,
    List.singleton_append, List.dropWhile_append, hstop]
  split
  next hnone =>
    rw [List.isEmpty_iff.mp hnone]
    simp
  next => simp

theorem rdropWhile_append {drop : Char → Bool} (before : List Char) {text : List Char} {c : Char}
    (hc : c ∈ text) (hkeep : drop c = false) :
    (before ++ text).rdropWhile drop = before ++ text.rdropWhile drop := by
  obtain ⟨first, second, rfl⟩ := List.append_of_mem hc
  rw [← List.append_assoc, rdropWhile_append_cons hkeep, rdropWhile_append_cons hkeep,
    List.append_assoc]

/-- An indented text that is trimmed and indented again loses the blanks at its
end only. -/
theorem indent_strip {indent : List Char} (hindent : ∀ c ∈ indent, isBlank c = true)
    {first : Char} (hfirst : isBlank first = false) (rest : List Char) :
    indent ++ strip isBlank (indent ++ first :: rest) =
      (indent ++ first :: rest).rdropWhile isBlank := by
  rw [strip_eq_rdropWhile, List.dropWhile_append_of_pos hindent, List.dropWhile_cons_of_neg,
    rdropWhile_append indent List.mem_cons_self hfirst]
  rw [hfirst]
  exact Bool.false_ne_true

theorem words_cons_of_blank {c : Char} (hc : isBlank c = true) (text : List Char) :
    words (c :: text) = words text := by
  simp [words, split, hc]

theorem words_concat_of_blank {c : Char} (hc : isBlank c = true) (text : List Char) :
    words (text ++ [c]) = words text := by
  simp [words, split_append_cons hc, split]

theorem words_dropWhile (text : List Char) : words (text.dropWhile isBlank) = words text := by
  induction text with
  | nil => rfl
  | cons c text ih =>
      by_cases hc : isBlank c = true
      · rw [List.dropWhile_cons_of_pos hc, ih, words_cons_of_blank hc]
      · rw [List.dropWhile_cons_of_neg hc]

theorem words_rdropWhile (text : List Char) : words (text.rdropWhile isBlank) = words text := by
  induction text using List.reverseRecOn with
  | nil => rfl
  | append_singleton text c ih =>
      by_cases hc : isBlank c = true
      · rw [List.rdropWhile_concat_pos _ _ _ hc, ih, words_concat_of_blank hc]
      · rw [List.rdropWhile_concat_neg _ _ _ hc]

/-- The blanks at the ends of a text are not shown when it is collapsed. -/
theorem collapse_trim (text : String) : collapse (trim text) = collapse text := by
  rw [collapse, trim, String.toList_ofList, strip_eq_rdropWhile, words_rdropWhile,
    words_dropWhile]
  rfl

end Text

namespace Fragment

theorem toList_render (fragment : Fragment) :
    fragment.render.toList =
      fragment.lines.flatMap (fun line => (renderLine fragment.depth line).toList) := by
  rw [render, String.toList_join, List.flatMap_map]

theorem toList_renderLine {line : Line} (hsome : line.text.toList ≠ []) (depth : Nat) :
    (renderLine depth line).toList =
      List.replicate (4 * (depth + line.indent)) ' ' ++ line.text.toList ++ ['\n'] := by
  have hempty : line.text.isEmpty = false := by
    rw [String.isEmpty_eq_false_iff, ne_eq, ← String.toList_eq_nil_iff]
    exact hsome
  have hindent (levels : Nat) :
      (String.join (List.replicate levels indentation)).toList =
        List.replicate (4 * levels) ' ' := by
    rw [String.toList_join]
    induction levels with
    | zero => rfl
    | succ levels ih =>
        rw [List.replicate_succ, List.flatMap_cons, ih, Nat.mul_succ, Nat.add_comm,
          List.replicate_add]
        rfl
  simp [renderLine, hempty, hindent]

/-- A line of the body as it stands in a module. -/
theorem toList_renderLine_body {text : String} (hsome : text.toList ≠ []) :
    (renderLine 1 ⟨0, text⟩).toList = List.replicate 4 ' ' ++ text.toList ++ ['\n'] :=
  toList_renderLine hsome 1

/-- Whether the first of some lines stands at the depth of its fragment and begins with
a character that is not blank. -/
def Begins (lines : List Line) : Prop :=
  ∃ line, lines.head? = some line ∧ line.indent = 0 ∧
    ∃ c, line.text.toList.head? = some c ∧ Text.isBlank c = false

theorem Begins.append {first : List Line} (hfirst : Begins first) (second : List Line) :
    Begins (first ++ second) := by
  obtain ⟨line, hhead, hline⟩ := hfirst
  exact ⟨line, by rw [List.head?_append, hhead, Option.some_or], hline⟩

/-- A block as it stands in a module: trimmed and indented again it loses the blanks at
its end only. -/
theorem indent_trim {fragment : Fragment} (hbegins : Begins fragment.lines) :
    List.replicate (4 * fragment.depth) ' ' ++ (Text.trim fragment.render).toList =
      fragment.render.toList.rdropWhile Text.isBlank := by
  obtain ⟨line, hhead, hindent, c, hc, hkeep⟩ := hbegins
  obtain ⟨others, hlines⟩ := List.head?_eq_some_iff.mp hhead
  obtain ⟨chars, hchars⟩ := List.head?_eq_some_iff.mp hc
  obtain ⟨rest, hrest⟩ : ∃ rest,
      fragment.render.toList = List.replicate (4 * fragment.depth) ' ' ++ c :: rest := by
    rw [toList_render, hlines, List.flatMap_cons, toList_renderLine (by simp [hchars]), hindent,
      hchars]
    exact ⟨_, by simp only [List.append_assoc, List.cons_append]; rfl⟩
  have hblank : ∀ c ∈ List.replicate (4 * fragment.depth) ' ', Text.isBlank c = true := fun c hc =>
    List.eq_of_mem_replicate hc ▸ rfl
  rw [Text.trim, String.toList_ofList, hrest, Text.indent_strip hblank hkeep]

/-- Lines at one depth as they stand in a module. -/
theorem indent_trim_render {fragment : Fragment} {front : List String} {last : String}
    (hdepth : fragment.depth = 1) (hlines : fragment.lines = (front ++ [last]).map (Line.mk 0))
    (hvisible : ∀ text ∈ front ++ [last],
      ∃ c, text.toList.head? = some c ∧ Text.isBlank c = false) :
    List.replicate 4 ' ' ++ (Text.trim fragment.render).toList =
      (front.map (Line.mk 0)).flatMap (fun line => (renderLine 1 line).toList) ++
        (renderLine 1 ⟨0, last⟩).toList.rdropWhile Text.isBlank := by
  have hbegins : Begins fragment.lines := by
    obtain ⟨first, others, hcons⟩ := List.exists_cons_of_ne_nil
      (List.append_ne_nil_of_right_ne_nil front (List.cons_ne_nil last []))
    exact ⟨⟨0, first⟩, by rw [hlines, hcons]; rfl, rfl, hvisible first (hcons ▸ List.mem_cons_self)⟩
  obtain ⟨d, hd, hend⟩ := hvisible last (by simp)
  have hmem : d ∈ (renderLine 1 ⟨0, last⟩).toList := by
    have hlast := List.mem_of_mem_head? hd
    rw [toList_renderLine_body (List.ne_nil_of_mem hlast)]
    simp [hlast]
  have htrim := indent_trim hbegins
  rw [toList_render, hlines, hdepth, List.map_append, List.flatMap_append, List.map_singleton,
    List.flatMap_singleton, Text.rdropWhile_append _ hmem hend] at htrim
  exact htrim

end Fragment

end WireScript
