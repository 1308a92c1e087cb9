import WireScript.Proofs.Artifact.Module
import WireScript.Proofs.Artifact.Uncommented
import WireScript.Proofs.Emission.Words

/-! # Lines of artifacts

An artifact as its lines. Texts joined at a line feed have the lines of both, so
the lines of a module are found piece by piece: whatever its blocks and its
documentation are, one of them begins the definition of the message and one
exports it.
-/

namespace WireScript

namespace Listing

/-- The lines of a text. -/
def ofText (text : String) : List String := (Text.lines text.toList).map String.ofList

theorem ofText_append (first second : String) :
    ofText (first ++ "\n" ++ second) = ofText first ++ ofText second := by
  have htext : (first ++ "\n" ++ second).toList = first.toList ++ '\n' :: second.toList := by
    simp
  rw [ofText, htext, Text.lines, Text.split_append_cons (by rfl), List.map_append]
  rfl

theorem ofText_eq_singleton {line : String} (hline : '\n' ∉ line.toList) :
    ofText line = [line] := by
  have hsplit : Text.lines line.toList = [line.toList] := by
    apply Text.split_eq_singleton
    intro c hc
    exact beq_false_of_ne (fun heq => hline (heq ▸ hc))
  rw [ofText, hsplit, List.map_singleton, String.ofList_toList]

/-- What stands at the start of a text begins a line of it. -/
theorem exists_begins {start : String} (hstart : '\n' ∉ start.toList) (rest : String) :
    ∃ line ∈ ofText (start ++ rest), begins start line = true := by
  have hplain : ∀ c ∈ start.toList, (c == '\n') = false := fun c hc =>
    beq_false_of_ne (fun heq => hstart (heq ▸ hc))
  obtain ⟨first, others, hpieces⟩ :=
    List.exists_cons_of_ne_nil (Text.split_ne_nil (· == '\n') rest.toList)
  have hlines : ofText (start ++ rest) =
      String.ofList (start.toList ++ first) :: others.map String.ofList := by
    rw [ofText, Text.lines, String.toList_append, Text.split_append_of_plain hplain, hpieces]
    rfl
  refine ⟨String.ofList (start.toList ++ first), by simp [hlines], ?_⟩
  rw [begins, String.toList_ofList, List.isPrefixOf_iff_prefix]
  exact List.prefix_append _ _

end Listing

open Listing

theorem Text.paragraph_cons (line : String) (lines : List String) :
    paragraph (line :: lines) = line ++ "\n" ++ paragraph lines := by
  simp [paragraph]

theorem Listing.ofText_paragraph {lines : List String}
    (hlines : ∀ line ∈ lines, '\n' ∉ line.toList) :
    ofText (Text.paragraph lines) = lines ++ [""] := by
  induction lines with
  | nil => rfl
  | cons line lines ih =>
      obtain ⟨hline, hrest⟩ := List.forall_mem_cons.mp hlines
      rw [Text.paragraph_cons, ofText_append, ofText_eq_singleton hline, ih hrest]
      rfl

theorem Listing.mem_ofText_paragraph_append {line : String} {rest : String}
    (hline : line ∈ ofText rest) (lines : List String) :
    line ∈ ofText (Text.paragraph lines ++ rest) := by
  induction lines with
  | nil => simpa [Text.paragraph] using hline
  | cons first lines ih =>
      rw [Text.paragraph_cons, String.append_assoc, ofText_append]
      exact List.mem_append_right _ ih

namespace TemplateSet

/-- The start of the line that defines a message. -/
def definitionStart (name : String) : String := "const " ++ name ++ " = function("

/-- The line that exports a message. -/
def exportStatement (name : String) : String := "export default " ++ name ++ ";"

theorem exportStatement_eq (name : String) :
    exportStatement name = "export default " ++ name ++ ";" :=
  rfl

theorem mem_ofText_export {name : String} (hname : '\n' ∉ name.toList) (front : String) :
    exportStatement name ∈
      ofText (front ++ "\n    return packet;\n\x7d;\n\nexport default " ++ name ++ ";\n") := by
  have htext : front ++ "\n    return packet;\n\x7d;\n\nexport default " ++ name ++ ";\n" =
      front ++ "\n    return packet;\n\x7d;\n" ++ "\n" ++
        (exportStatement name ++ "\n" ++ "") := by
    apply String.toList_inj.mp
    simp [exportStatement_eq]
  have hline : '\n' ∉ (exportStatement name).toList := by simp [exportStatement_eq, hname]
  rw [htext, ofText_append, ofText_append, ofText_eq_singleton hline]
  simp

/-- The module of a message defines and exports it. -/
theorem renderMessage_lines {name text title : String} {id : ProtocolId} {blocks : Blocks}
    (hword : IsWord name)
    (htext : embedded.renderMessage name id title blocks = .ok text) :
    (∃ line ∈ ofText text, begins (definitionStart name) line = true) ∧
      exportStatement name ∈ ofText text := by
  have hname := hword.notMem (c := '\n') (by decide)
  rw [renderMessage_embedded] at htext
  obtain rfl := Except.ok.inj htext
  have hbefore : beforeConstructor name blocks.parameters =
      definitionStart name ++ (blocks.parameters ++ ") \x7b\n    ") := String.append_assoc
  have hstart : '\n' ∉ (definitionStart name).toList := by simp [definitionStart, hname]
  constructor
  · obtain ⟨line, hline, hbegins⟩ := exists_begins hstart (blocks.parameters ++ ") \x7b\n    " ++
      (Text.trim blocks.constructor.render ++ behindConstructor name id blocks.write blocks.read))
    refine ⟨line, ?_, hbegins⟩
    have hmem := mem_ofText_paragraph_append hline (Comment.lines title)
    rw [hbefore]
    simp only [String.append_assoc] at hmem ⊢
    exact hmem
  · obtain ⟨front, hfront⟩ : ∃ front, behindConstructor name id blocks.write blocks.read =
        front ++ "\n    return packet;\n\x7d;\n\nexport default " ++ name ++ ";\n" := ⟨_, rfl⟩
    have hmem := mem_ofText_export hname (titleText title ++ beforeConstructor name
      blocks.parameters ++ Text.trim blocks.constructor.render ++ front)
    rw [hfront]
    simp only [String.append_assoc] at hmem ⊢
    exact hmem

end TemplateSet

end WireScript
