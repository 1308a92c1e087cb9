import WireScript.Proofs.Artifact.Documentation
import WireScript.Proofs.Emission.Listing

/-! # Blocks in modules

The message template indents the first line of a block and ends its last line itself, and
a block is trimmed before it is put there. What is cut off is what the template puts back,
unless the block has no line or its last line ends in a blank.
-/

namespace WireScript

namespace Text

/-- Whether a text ends in a character that is not blank. -/
def endsVisible (text : String) : Bool := text.toList.getLast?.any (fun c => !isBlank c)

theorem isBlankText_iff {text : String} :
    isBlankText text = true ↔ text.toList.rdropWhile isBlank = [] := by
  rw [isBlankText, List.all_eq_true, List.rdropWhile_eq_nil_iff]

/-- What is left of a text without the blanks at its end ends in a visible character. -/
theorem rdropWhile_eq_concat {text : List Char} (hsome : text.rdropWhile isBlank ≠ []) :
    ∃ front c, text.rdropWhile isBlank = front ++ [c] ∧ isBlank c = false := by
  obtain ⟨front, c, hfront⟩ := (List.eq_nil_or_concat' _).resolve_left hsome
  have hlast := List.rdropWhile_last_not isBlank text hsome
  simp only [hfront, List.getLast_concat, Bool.not_eq_true] at hlast
  exact ⟨front, c, hfront, hlast⟩

/-- A collapsed text ends in the last visible character of the text. -/
theorem getLast?_collapse (text : String) :
    (collapse text).toList.getLast? = (text.toList.rdropWhile isBlank).getLast? := by
  rw [collapse, ← words_rdropWhile]
  by_cases hnone : text.toList.rdropWhile isBlank = []
  · rw [hnone]
    rfl
  · obtain ⟨front, c, hfront, hc⟩ := rdropWhile_eq_concat hnone
    obtain ⟨pieces, piece, hsplit⟩ := split_append_last isBlank front
    rw [hfront, words, hsplit [c] (by simpa using hc), List.filter_append, List.map_append]
    generalize (pieces.filter fun word => !word.isEmpty).map String.ofList = before
    by_cases hbefore : before = []
    · simp [hbefore]
    · simp [String.intercalate_append_of_ne_nil hbefore, List.getLast?_cons]

end Text

namespace Fragment

/-- A block as the template puts it into a module. -/
def spliced (block : Fragment) : String := "    " ++ Text.trim block.render ++ "\n"

theorem Begins.ne_nil {lines : List Line} (hbegins : Begins lines) : lines ≠ [] := by
  rintro rfl
  obtain ⟨line, hhead, -⟩ := hbegins
  cases hhead

/-- A block is put as it is exactly when its last line does not end in a blank. -/
theorem spliced_eq_render_iff {block : Fragment} {front : List Line} {last : Line}
    (hdepth : block.depth = 1) (hbegins : Begins block.lines)
    (hlines : block.lines = front ++ [last]) (hsome : last.text.toList ≠ []) :
    block.spliced = block.render ↔ Text.endsVisible last.text = true := by
  have htrim := indent_trim hbegins
  obtain ⟨before, hrender⟩ : ∃ before,
      block.render.toList = before ++ last.text.toList ++ ['\n'] := by
    rw [toList_render, hlines, List.flatMap_append, List.flatMap_singleton,
      toList_renderLine hsome, ← List.append_assoc, ← List.append_assoc]
    exact ⟨_, rfl⟩
  have hspliced : block.spliced.toList =
      (before ++ last.text.toList).rdropWhile Text.isBlank ++ ['\n'] := by
    rw [hrender, List.rdropWhile_concat_pos _ _ _ (by decide), hdepth] at htrim
    rw [← htrim, spliced, String.toList_append, String.toList_append]
    rfl
  rw [← String.toList_inj, hspliced, hrender, List.append_cancel_right_eq]
  obtain ⟨chars, c, hlast⟩ := (List.eq_nil_or_concat' last.text.toList).resolve_left hsome
  rw [Text.endsVisible, hlast, List.getLast?_concat, ← List.append_assoc,
    List.rdropWhile_eq_self_iff]
  simp

end Fragment

namespace TemplateSet

/-- The text of a module around the texts of its three blocks. -/
def moduleText (name : String) (id : ProtocolId) (title parameters : String)
    (constructor write read : String) : String :=
  titleText title ++ "const " ++ name ++ " = function(" ++ parameters ++ ") \x7b\n" ++
    constructor ++ "\x7d;\n\n" ++ name ++ ".prototype.protocolId = function() \x7b\n    return " ++
    Text.decimal id.toNat ++ ";\n\x7d;\n\n" ++ name ++
    Text.paragraph [
      ".write = function(buffer, packet) \x7b",
      "    if (buffer.writePacketFlag(packet)) \x7b",
      "        return;",
      "    \x7d"] ++ write ++ "\x7d;\n\n" ++ name ++
    Text.paragraph [
      ".read = function(buffer) \x7b",
      "    if (!buffer.readBoolean()) \x7b",
      "        return null;",
      "    \x7d"] ++ "    const packet = new " ++ name ++ "();\n" ++ read ++
    "    return packet;\n\x7d;\n\nexport default " ++ name ++ ";\n"

theorem renderMessage_eq_moduleText (name : String) (id : ProtocolId) (title : String)
    (blocks : Blocks) :
    embedded.renderMessage name id title blocks =
      .ok (moduleText name id title blocks.parameters blocks.constructor.spliced
        blocks.write.spliced blocks.read.spliced) := by
  have hopen : ") \x7b\n    " = ") \x7b\n" ++ "    " := by decide
  have hclose : "\n\x7d;\n\n" = "\n" ++ "\x7d;\n\n" := by decide
  have hnew : "();\n    " = "();\n" ++ "    " := by decide
  have hreturn : "\n    return packet;\n\x7d;\n\nexport default " =
    "\n" ++ "    return packet;\n\x7d;\n\nexport default " := by decide
  rw [renderMessage_embedded]
  unfold beforeConstructor behindConstructor moduleText Fragment.spliced
  rw [hopen, hclose, hnew, hreturn]
  simp only [String.append_assoc]

end TemplateSet

namespace Code

theorem endsVisible_getLast?_cons {line : Line} {lines : List Line}
    (hline : Text.endsVisible line.text = true)
    (hlines : ∀ last ∈ lines.getLast?, Text.endsVisible last.text = true) :
    ∀ last ∈ (line :: lines).getLast?, Text.endsVisible last.text = true := by
  intro last hlast
  cases lines with
  | nil => exact Option.some.inj hlast ▸ hline
  | cons next lines =>
      rw [List.getLast?_cons_cons] at hlast
      exact hlines last hlast

/-- Code ends with a semicolon or a closing brace. -/
theorem endsVisible_getLast? (code : Code) (level : Nat) :
    ∀ line ∈ (code.lines level).getLast?, Text.endsVisible line.text = true := by
  induction code generalizing level with
  | done => simp [lines]
  | step statement rest ih =>
      have hstatement : Text.endsVisible statement.text = true := by
        rw [Text.endsVisible, Listing.getLast?_text]
        decide
      exact endsVisible_getLast?_cons hstatement (ih level)
  | block head body rest _ ih =>
      have hclosing : Text.endsVisible head.closing = true := by
        cases head <;> simp only [Head.closing] <;> decide
      rw [lines, List.getLast?_append_of_ne_nil _ (List.cons_ne_nil _ _)]
      exact endsVisible_getLast?_cons hclosing (ih level)
  | ifNull source absent present rest _ _ ih =>
      have hbrace : Text.endsVisible "\x7d" = true := by decide
      rw [lines, List.getLast?_append_of_ne_nil _ (List.cons_ne_nil _ _)]
      exact endsVisible_getLast?_cons hbrace (ih level)

/-- Code that begins with a visible character is put into a module as it is. -/
theorem spliced_fragment {code : Code} (hbegins : Fragment.Begins (code.lines 0)) :
    (code.fragment Blocks.bodyDepth).spliced = (code.fragment Blocks.bodyDepth).render := by
  obtain ⟨front, last, hlines⟩ := (List.eq_nil_or_concat' _).resolve_left hbegins.ne_nil
  have hvisible := code.endsVisible_getLast? 0 last (by rw [hlines, List.getLast?_concat]; rfl)
  have hsome : last.text.toList ≠ [] := by
    intro hnil
    simp [Text.endsVisible, hnil] at hvisible
  exact (Fragment.spliced_eq_render_iff rfl hbegins hlines hsome).mpr hvisible

end Code

open Fragment (Begins)

/-- Code begins as its first line does. -/
theorem Code.begins_step {statement : Statement} {c : Char}
    (hc : statement.text.toList.head? = some c) (hkeep : Text.isBlank c = false) (rest : Code) :
    Begins ((Code.step statement rest).lines 0) :=
  ⟨⟨0, statement.text⟩, rfl, rfl, c, hc, hkeep⟩

theorem Code.begins_ifNull (source : String) (absent present rest : Code) :
    Begins ((Code.ifNull source absent present rest).lines 0) :=
  ⟨⟨0, "if (" ++ source ++ " == null) \x7b"⟩, rfl, rfl, 'i', by simp, by decide⟩

theorem Kind.begins_writing (kind : Kind) (source : String) (next : Nat) :
    Begins ((kind.writing source next).lines 0) := by
  cases kind with
  | scalar s => exact @Code.begins_step _ 'b' (by simp [Statement.text.eq_def]) (by decide) _
  | message id => exact @Code.begins_step _ 'b' (by simp [Statement.text.eq_def]) (by decide) _
  | sequence collection element => exact Code.begins_ifNull source _ _ _
  | map key value => exact Code.begins_ifNull source _ _ _

theorem Kind.begins_reading (kind : Kind) (next : Nat) :
    Begins ((kind.reading next).lines 0) := by
  cases kind with
  | scalar s => exact @Code.begins_step _ 'c' (by simp [Statement.text.eq_def]) (by decide) _
  | message id => exact @Code.begins_step _ 'c' (by simp [Statement.text.eq_def]) (by decide) _
  | sequence collection element =>
      exact @Code.begins_step _ 'c' (by simp [Statement.text.eq_def]) (by decide) _
  | map key value => exact @Code.begins_step _ 'c' (by simp [Statement.text.eq_def]) (by decide) _

namespace Blocks

theorem begins_fieldReading (next : Nat) (field : Field) :
    Begins ((fieldReading next field).lines 0) := by
  unfold fieldReading guard
  split
  · exact ⟨_, rfl, rfl, 'i', by simp [Head.opening.eq_def], by decide⟩
  · rw [Code.done_append, Code.lines_append]
    exact (field.kind.begins_reading next).append _

/-- A block begins as the code for its first field does. -/
theorem begins_inOrder {code : Nat → Field → Code} {names : Field → Nat} {fields : List Field}
    (hfields : fields ≠ []) (hbegins : ∀ next field, Begins ((code next field).lines 0))
    (next : Nat) : Begins ((inOrder code names next fields).lines 0) := by
  obtain ⟨field, rest, rfl⟩ := List.exists_cons_of_ne_nil hfields
  rw [inOrder, Code.lines_append]
  exact (hbegins next field).append _

theorem begins_constructorBlock (document : Document) {fields : List Field}
    (hfields : fields ≠ []) : Begins (constructorBlock fields document).lines := by
  obtain ⟨field, rest, rfl⟩ := List.exists_cons_of_ne_nil hfields
  obtain ⟨line, others, hlines⟩ := List.exists_cons_of_ne_nil
    (constructorLines_eq document field ▸ List.append_ne_nil_of_right_ne_nil _ (by simp) :
      constructorLines document field ≠ [])
  have hline := head_of_mem_constructorLines (hlines ▸ List.mem_cons_self)
  refine ⟨⟨0, line⟩, ?_, rfl, hline⟩
  rw [constructorBlock, List.flatMap_cons, hlines]
  rfl

theorem endsVisible_assignment_iff (field : Field) :
    Text.endsVisible (assignment field) = true ↔
      Text.isBlankText field.description = false := by
  rw [← Bool.not_eq_true, Text.isBlankText_iff, Text.endsVisible, assignment,
    String.toList_append, List.getLast?_append, Text.getLast?_collapse]
  by_cases hnone : field.description.toList.rdropWhile Text.isBlank = []
  · -- nothing but the space in front of the description is left at the end
    rw [hnone, List.getLast?_nil, Option.none_or, String.toList_append, List.getLast?_append]
    simp [Text.isBlank]
  · obtain ⟨front, c, hfront, hc⟩ := Text.rdropWhile_eq_concat hnone
    simp [hfront, hc]

/-- The constructor is put into a module as it is exactly when the last field is
described. -/
theorem spliced_constructorBlock_iff (document : Document) (front : List Field) (last : Field) :
    (constructorBlock (front ++ [last]) document).spliced =
        (constructorBlock (front ++ [last]) document).render ↔
      Text.isBlankText last.description = false := by
  obtain ⟨before, hbefore⟩ := flatMap_constructorLines_concat document front last
  have hlines : (constructorBlock (front ++ [last]) document).lines =
      before.map (Line.mk 0) ++ [⟨0, assignment last⟩] := by
    rw [constructorBlock, hbefore, List.map_append, List.map_singleton]
  have hbegins := begins_constructorBlock document
    (List.append_ne_nil_of_right_ne_nil front (List.cons_ne_nil last []))
  rw [Fragment.spliced_eq_render_iff rfl hbegins hlines (by simp [assignment]),
    endsVisible_assignment_iff]

theorem spliced_writing {fields : List Field} (hfields : fields ≠ []) (next : Nat) :
    ((writing next fields).fragment bodyDepth).spliced =
      ((writing next fields).fragment bodyDepth).render :=
  Code.spliced_fragment
    (begins_inOrder hfields (fun next field => field.kind.begins_writing _ next) next)

theorem spliced_reading {fields : List Field} (hfields : fields ≠ []) (next : Nat) :
    ((reading next fields).fragment bodyDepth).spliced =
      ((reading next fields).fragment bodyDepth).render :=
  Code.spliced_fragment (begins_inOrder hfields begins_fieldReading next)

end Blocks

namespace TemplateSet

/-- The module of a message holds its three blocks as they are rendered, not a character
of them lost and none added, whatever the kinds of the fields and the comments on them,
provided that the message has a field and every field is described. -/
theorem renderMessage_verbatim {message : Message} {context : Context}
    (hfields : message.fields ≠ [])
    (hdescribed : ∀ field ∈ message.fields, Text.isBlankText field.description = false)
    (hdepth : ∀ field ∈ message.fields, field.kind.depth ≤ context.limit)
    (document : Document) (title : String) :
    ∃ blocks, (Blocks.ofMessage Table.full message document context).1 = .ok blocks ∧
      embedded.renderMessage message.name message.id title blocks =
        .ok (moduleText message.name message.id title blocks.parameters
          blocks.constructor.render blocks.write.render blocks.read.render) := by
  refine ⟨_, Blocks.ofMessage_full_ok_iff.mpr ⟨hdepth, rfl⟩, ?_⟩
  have hconstructor : (Blocks.plain message document).constructor.spliced =
      (Blocks.plain message document).constructor.render := by
    obtain ⟨front, last, hlast⟩ := (List.eq_nil_or_concat' message.fields).resolve_left hfields
    have hlastDescribed := hdescribed last (by simp [hlast])
    rw [Blocks.plain, hlast]
    exact (Blocks.spliced_constructorBlock_iff document front last).mpr hlastDescribed
  have hwrite : (Blocks.plain message document).write.spliced =
      (Blocks.plain message document).write.render := Blocks.spliced_writing hfields _
  have hread : (Blocks.plain message document).read.spliced =
      (Blocks.plain message document).read.render := Blocks.spliced_reading hfields _
  rw [renderMessage_eq_moduleText, hconstructor, hwrite, hread]

/-- A compatible map of lists first, comments with blanks around them, and a description of
several words last. -/
theorem renderMessage_verbatim_nested :
    let message : Message := ⟨4, "Guild",
      [⟨"ranks", "map<string, list<int>>",
          .map (.scalar .string) (.sequence .list (.scalar .int)), true⟩,
        ⟨"owner", " Player\n(owner) ", .message 12, false⟩]⟩
    let document : Document :=
      ⟨"\n A guild. \n", [("ranks", "\u3000by name \n\n"), ("owner", "// \t")]⟩
    (∀ field ∈ message.fields, Text.isBlankText field.description = false) ∧
      ∃ blocks,
        (Blocks.ofMessage Table.full message document (.ofLimit 32)).1 = .ok blocks ∧
          embedded.renderMessage message.name message.id document.title blocks =
            .ok (moduleText "Guild" 4 "\n A guild. \n" blocks.parameters
              blocks.constructor.render blocks.write.render blocks.read.render) := by
  intro message document
  have hdescribed : ∀ field ∈ message.fields, Text.isBlankText field.description = false := by
    decide +kernel
  have hdepth : ∀ field ∈ message.fields, field.kind.depth ≤ (Context.ofLimit 32).limit := by
    decide +kernel
  exact ⟨hdescribed, renderMessage_verbatim (List.cons_ne_nil _ _) hdescribed hdepth document
    document.title⟩

end TemplateSet

end WireScript
