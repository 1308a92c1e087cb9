import Mathlib.Algebra.BigOperators.Group.List.Basic
import WireScript.Proofs.Artifact.Module
import WireScript.Proofs.Artifact.Uncommented

/-! # Documentation in modules

A document adds comments to the module of a message, and what the module says
apart from comments is the same as without it, provided that its texts end a line
of the module only where they are parted into comments.
-/

namespace WireScript

open Listing

namespace Text

theorem of_mem_split {separates : Char → Bool} {text piece : List Char}
    (hpiece : piece ∈ split separates text) {c : Char} (hc : c ∈ piece) :
    separates c = false := by
  induction text generalizing piece with
  | nil =>
      rw [split, List.mem_singleton] at hpiece
      rw [hpiece] at hc
      cases hc
  | cons first rest ih =>
      rw [split] at hpiece
      split at hpiece
      next hseparates =>
        rcases List.mem_cons.mp hpiece with rfl | hrest
        · cases hc
        · exact ih hrest hc
      next hplain =>
        obtain ⟨head, others, hpieces⟩ := List.exists_cons_of_ne_nil (split_ne_nil separates rest)
        rw [hpieces] at hpiece ih
        rcases List.mem_cons.mp hpiece with rfl | hothers
        · rcases List.mem_cons.mp hc with rfl | hhead
          · exact Bool.not_eq_true _ ▸ hplain
          · exact ih List.mem_cons_self hhead
        · exact ih (List.mem_cons_of_mem _ hothers) hc

theorem mem_of_mem_strip {drop : Char → Bool} {text : List Char} {c : Char}
    (hc : c ∈ strip drop text) : c ∈ text := by
  rw [strip, List.mem_reverse] at hc
  have hreverse := (List.dropWhile_sublist drop).mem hc
  exact (List.dropWhile_sublist drop).mem (List.mem_reverse.mp hreverse)

theorem isBlank_of_endsLine {c : Char} (hc : endsLine c = true) : isBlank c = true := by
  simp only [endsLine, Bool.or_eq_true, beq_iff_eq] at hc
  rcases hc with ((rfl | rfl) | rfl) | rfl <;> decide

theorem mem_intercalate {separator : String} {texts : List String} {c : Char}
    (hc : c ∈ (separator.intercalate texts).toList) :
    c ∈ separator.toList ∨ ∃ text ∈ texts, c ∈ text.toList := by
  induction texts with
  | nil => cases hc
  | cons text rest ih =>
      cases rest with
      | nil =>
          rw [String.intercalate_singleton] at hc
          exact .inr ⟨text, List.mem_cons_self, hc⟩
      | cons next rest =>
          rw [String.intercalate_cons_cons] at hc
          simp only [String.toList_append, List.mem_append] at hc
          rcases hc with (htext | hseparator) | hrest
          · exact .inr ⟨text, List.mem_cons_self, htext⟩
          · exact .inl hseparator
          · refine (ih hrest).imp_right ?_
            rintro ⟨other, hother, hmem⟩
            exact ⟨other, List.mem_cons_of_mem _ hother, hmem⟩

/-- A collapsed text is on one line. -/
theorem endsLine_collapse {text : String} {c : Char} (hc : c ∈ (collapse text).toList) :
    endsLine c = false := by
  rcases mem_intercalate hc with hspace | ⟨word, hword, hmem⟩
  · obtain rfl : c = ' ' := by simpa using hspace
    decide
  · obtain ⟨chars, hchars, rfl⟩ := List.mem_map.mp hword
    rw [String.toList_ofList] at hmem
    have hvisible := of_mem_split (List.mem_filter.mp hchars).1 hmem
    rw [Bool.eq_false_iff]
    intro hends
    rw [isBlank_of_endsLine hends] at hvisible
    cases hvisible

end Text

namespace Comment

/-- A text whose lines, the blanks around them aside, have no character that ends
a line of a module. -/
def IsPlain (text : String) : Prop :=
  ∀ line ∈ Text.lines text.toList, ∀ c ∈ Text.strip Text.isBlank line, endsLine c = false

instance : DecidablePred IsPlain := fun text =>
  decidable_of_iff ((Text.lines text.toList).all fun line =>
    (Text.strip Text.isBlank line).all fun c => !endsLine c) (by simp [IsPlain])

/-- What the comments for a text say that is not part of a comment. -/
def exposed (text : String) : List (List Char) :=
  (lines text).flatMap (fun comment => uncommented comment.toList)

theorem mem_lines_iff {text comment : String} :
    comment ∈ lines text ↔ ∃ line ∈ Text.lines text.toList,
      Text.strip Text.isBlank line ≠ [] ∧ ofLine (Text.strip Text.isBlank line) = comment := by
  simp [lines, and_assoc]

/-- A comment begins with the mark of one, and ends a line where the text does. -/
theorem toList_ofLine (line : List Char) :
    ∃ rest, (ofLine line).toList = '/' :: '/' :: rest ∧
      ((∀ c ∈ rest, endsLine c = false) ↔ ∀ c ∈ line, endsLine c = false) := by
  unfold ofLine
  split
  next hcomment =>
    obtain ⟨rest, rfl⟩ := List.isPrefixOf_iff_prefix.mp hcomment
    have hmark : ∀ c ∈ "//".toList, endsLine c = false := by simp [endsLine]
    refine ⟨rest, by simp, ?_⟩
    rw [List.forall_mem_append]
    exact (and_iff_right hmark).symm
  next =>
    refine ⟨' ' :: line, by simp, ?_⟩
    rw [List.forall_mem_cons]
    exact and_iff_right (by decide)

/-- A comment is on one line as far as line feeds go. -/
theorem lineFeed_notMem {text comment : String} (hcomment : comment ∈ lines text) :
    '\n' ∉ comment.toList := by
  obtain ⟨line, hline, -, rfl⟩ := mem_lines_iff.mp hcomment
  intro hmem
  have hstrip : '\n' ∈ Text.strip Text.isBlank line := by
    unfold ofLine at hmem
    split at hmem
    · simpa using hmem
    · simpa using hmem
  have hsplit := Text.of_mem_split hline (Text.mem_of_mem_strip hstrip)
  cases hsplit

/-- Every comment of a text begins with the mark of one. -/
theorem isComment_of_mem_lines {text comment : String} (hcomment : comment ∈ lines text) :
    isComment comment.toList = true := by
  obtain ⟨line, -, -, rfl⟩ := mem_lines_iff.mp hcomment
  obtain ⟨rest, hrest, -⟩ := toList_ofLine (Text.strip Text.isBlank line)
  rw [hrest]
  rfl

/-- The comments for a text end lines of a module exactly when the text does. -/
theorem isPlain_iff {text : String} :
    IsPlain text ↔ ∀ comment ∈ lines text, ∀ c ∈ comment.toList, endsLine c = false := by
  have hmark (rest : List Char) : (∀ c ∈ '/' :: '/' :: rest, endsLine c = false) ↔
      ∀ c ∈ rest, endsLine c = false := by
    simp [endsLine]
  constructor
  · intro hplain comment hcomment
    obtain ⟨line, hline, -, rfl⟩ := mem_lines_iff.mp hcomment
    obtain ⟨rest, hrest, hends⟩ := toList_ofLine (Text.strip Text.isBlank line)
    rw [hrest, hmark, hends]
    exact hplain line hline
  · intro hcomments line hline
    by_cases hblank : Text.strip Text.isBlank line = []
    · simp [hblank]
    · obtain ⟨rest, hrest, hends⟩ := toList_ofLine (Text.strip Text.isBlank line)
      have hcomment := hcomments _ (mem_lines_iff.mpr ⟨line, hline, hblank, rfl⟩)
      rwa [hrest, hmark, hends] at hcomment

theorem exposed_of_isPlain {text : String} (hplain : IsPlain text) : exposed text = [] := by
  rw [exposed, List.flatMap_eq_nil_iff]
  intro comment hcomment
  have hends := isPlain_iff.mp hplain comment hcomment
  obtain ⟨line, -, -, rfl⟩ := mem_lines_iff.mp hcomment
  obtain ⟨rest, hrest, -⟩ := toList_ofLine (Text.strip Text.isBlank line)
  rw [hrest] at hends ⊢
  rw [uncommented, Text.split_eq_singleton hends]
  rfl

end Comment

/-- The texts a document has for some fields: its title, and the comments on them. -/
def Document.texts (document : Document) (fields : List Field) : List String :=
  document.title :: fields.filterMap (fun field => document.field? field.name)

namespace Blocks

/-- The line of the constructor that sets a field. -/
def assignment (field : Field) : String :=
  "this." ++ field.name ++ " = " ++ field.name ++ "; // " ++ Text.collapse field.description

/-- The comments on a field. -/
def fieldComments (document : Document) (field : Field) : List String :=
  match document.field? field.name with
  | some text => Comment.lines text
  | none => []

theorem constructorLines_eq (document : Document) (field : Field) :
    constructorLines document field = fieldComments document field ++ [assignment field] :=
  rfl

theorem toList_of_mem_fieldComments {document : Document} {field : Field} {comment : String}
    (hcomment : comment ∈ fieldComments document field) :
    ∃ rest, comment.toList = '/' :: '/' :: rest := by
  unfold fieldComments at hcomment
  split at hcomment
  next text htext =>
    obtain ⟨line, -, -, rfl⟩ := Comment.mem_lines_iff.mp hcomment
    obtain ⟨rest, hrest, -⟩ := Comment.toList_ofLine (Text.strip Text.isBlank line)
    exact ⟨rest, hrest⟩
  next => cases hcomment

/-- Every line of the constructor begins with a visible character. -/
theorem head_of_mem_constructorLines {document : Document} {field : Field} {line : String}
    (hline : line ∈ constructorLines document field) :
    ∃ c, line.toList.head? = some c ∧ Text.isBlank c = false := by
  rw [constructorLines_eq, List.mem_append, List.mem_singleton] at hline
  rcases hline with hcomment | rfl
  · obtain ⟨rest, hrest⟩ := toList_of_mem_fieldComments hcomment
    exact ⟨'/', by rw [hrest]; rfl, by decide⟩
  · exact ⟨'t', by simp [assignment], by decide⟩

/-- The constructor ends with the assignment of the last field. -/
theorem flatMap_constructorLines_concat (document : Document) (front : List Field)
    (last : Field) :
    ∃ before, (front ++ [last]).flatMap (constructorLines document) =
      before ++ [assignment last] := by
  rw [List.flatMap_append, List.flatMap_singleton, constructorLines_eq, ← List.append_assoc]
  exact ⟨_, rfl⟩

/-- What the comments on a field say that is not part of a comment. -/
def exposedOn (document : Document) (field : Field) : List (List Char) :=
  (fieldComments document field).flatMap (fun comment => uncommented comment.toList)

/-- An assignment as it stands in a module. -/
def indentedAssignment (field : Field) : List Char :=
  List.replicate 4 ' ' ++ (assignment field).toList

theorem indentedAssignment_eq (field : Field) :
    ∃ code description, indentedAssignment field = code ++ '/' :: '/' :: ' ' :: description ∧
      ∀ c ∈ description, endsLine c = false := by
  refine ⟨List.replicate 4 ' ' ++ ("this." ++ field.name ++ " = " ++ field.name ++ "; ").toList,
    (Text.collapse field.description).toList, ?_, fun c hc => Text.endsLine_collapse hc⟩
  simp [indentedAssignment, assignment]

theorem uncommented_renderLines {texts : List String} (hsome : ∀ text ∈ texts, text.toList ≠ [])
    (rest : List Char) :
    uncommented ((texts.map (Line.mk 0)).flatMap
        (fun line => (Fragment.renderLine 1 line).toList) ++ rest) =
      texts.flatMap (fun text => uncommented (List.replicate 4 ' ' ++ text.toList)) ++
        uncommented rest := by
  have hlines : (texts.map (Line.mk 0)).flatMap (fun line => (Fragment.renderLine 1 line).toList) =
      (texts.map (fun text => List.replicate 4 ' ' ++ text.toList)).flatMap (· ++ ['\n']) := by
    rw [List.flatMap_map, List.flatMap_map]
    exact List.flatMap_congr fun text htext => Fragment.toList_renderLine_body (hsome text htext)
  rw [hlines, uncommented_lines, List.flatMap_map]

/-- Indentation makes no difference to what comments say. -/
theorem uncommented_fieldComments (document : Document) (field : Field) :
    (fieldComments document field).flatMap
        (fun comment => uncommented (List.replicate 4 ' ' ++ comment.toList)) =
      exposedOn document field := by
  refine List.flatMap_congr fun comment hcomment => ?_
  obtain ⟨rest, hrest⟩ := toList_of_mem_fieldComments hcomment
  rw [hrest, uncommented_comment]
  exact (uncommented_comment 0 rest).symm

theorem uncommented_constructorLines (document : Document) (fields : List Field) :
    (fields.flatMap (constructorLines document)).flatMap
        (fun line => uncommented (List.replicate 4 ' ' ++ line.toList)) =
      fields.flatMap (fun field =>
        exposedOn document field ++ uncommented (indentedAssignment field)) := by
  rw [List.flatMap_assoc]
  refine List.flatMap_congr fun field _ => ?_
  rw [constructorLines_eq, List.flatMap_append, uncommented_fieldComments, List.flatMap_singleton]
  rfl

/-- What is cut off at the end of the constructor block is the end of a comment. -/
theorem uncommented_last (field : Field) (rest : List Char) :
    uncommented ((Fragment.renderLine 1 ⟨0, assignment field⟩).toList.rdropWhile Text.isBlank ++
        '\n' :: rest) =
      uncommented (indentedAssignment field) ++ uncommented rest := by
  obtain ⟨code, description, hline, hends⟩ := indentedAssignment_eq field
  have hsome : (assignment field).toList ≠ [] := by simp [assignment]
  have hrender : (Fragment.renderLine 1 ⟨0, assignment field⟩).toList =
      code ++ ['/'] ++ '/' :: (' ' :: description ++ ['\n']) := by
    rw [Fragment.toList_renderLine_body hsome, ← indentedAssignment, hline]
    simp only [List.append_assoc, List.cons_append, List.nil_append]
  have hcut : ∀ c ∈ (' ' :: description ++ ['\n']).rdropWhile Text.isBlank,
      endsLine c = false := by
    rw [List.rdropWhile_concat_pos _ _ _ (by decide)]
    intro c hc
    rcases List.mem_cons.mp ((List.rdropWhile_prefix _ _).subset hc) with rfl | hmem
    · decide
    · exact hends c hmem
  have hplain : ∀ c ∈ ' ' :: description, endsLine c = false :=
    List.forall_mem_cons.mpr ⟨by decide, hends⟩
  rw [uncommented_append_cons (by decide), hrender, Text.rdropWhile_append_cons (by decide),
    List.append_assoc, List.singleton_append, uncommented_append_comment hcut, hline,
    uncommented_append_comment hplain]

theorem uncommented_constructorBlock (document : Document) (fields : List Field)
    (rest : List Char) :
    uncommented (List.replicate 4 ' ' ++
        (Text.trim (constructorBlock fields document).render).toList ++ '\n' :: rest) =
      fields.flatMap (fun field =>
        exposedOn document field ++ uncommented (indentedAssignment field)) ++
        uncommented rest := by
  rcases List.eq_nil_or_concat' fields with rfl | ⟨front, last, rfl⟩
  · have hrender : (constructorBlock [] document).render = "" := rfl
    have hnone : (Text.trim "").toList = [] := by decide
    rw [hrender, hnone, uncommented_append_cons (by decide), List.flatMap_nil]
    rfl
  · obtain ⟨before, hbefore⟩ := flatMap_constructorLines_concat document front last
    have hvisible : ∀ line ∈ before ++ [assignment last],
        ∃ c, line.toList.head? = some c ∧ Text.isBlank c = false := by
      intro line hline
      rw [← hbefore] at hline
      obtain ⟨field, -, hmem⟩ := List.mem_flatMap.mp hline
      exact head_of_mem_constructorLines hmem
    have hlines : (constructorBlock (front ++ [last]) document).lines =
        (before ++ [assignment last]).map (Line.mk 0) := by
      rw [constructorBlock, hbefore]
    have hsome : ∀ text ∈ before, text.toList ≠ [] := by
      intro text htext hnil
      obtain ⟨c, hc, -⟩ := hvisible text (List.mem_append_left _ htext)
      rw [hnil] at hc
      cases hc
    rw [Fragment.indent_trim_render rfl hlines hvisible, List.append_assoc,
      uncommented_renderLines hsome, uncommented_last, ← uncommented_constructorLines, hbefore,
      List.flatMap_append, List.flatMap_singleton, List.append_assoc]
    rfl

theorem exposed_texts_iff {document : Document} {fields : List Field} :
    (∀ text ∈ document.texts fields, Comment.exposed text = []) ↔
      Comment.exposed document.title = [] ∧ ∀ field ∈ fields, exposedOn document field = [] := by
  have hfield (field : Field) : exposedOn document field = [] ↔
      ∀ text, document.field? field.name = some text → Comment.exposed text = [] := by
    unfold exposedOn fieldComments
    cases document.field? field.name with
    | none => simp
    | some text => simp [Comment.exposed]
  simp only [Document.texts, List.forall_mem_cons, List.mem_filterMap, hfield]
  refine and_congr_right fun _ => ?_
  constructor
  · intro htexts field hmem text htext
    exact htexts text ⟨field, hmem, htext⟩
  · rintro hfields text ⟨field, hmem, htext⟩
    exact hfields field hmem text htext

/-- What the module of a message says with a document, piece by piece. -/
def said (message : Message) (document : Document) : List (List Char) :=
  Comment.exposed document.title ++
    uncommented ("const " ++ message.name ++ " = function(" ++ parameterList message.fields ++
      ") \x7b").toList ++
    message.fields.flatMap (fun field =>
      exposedOn document field ++ uncommented (indentedAssignment field)) ++
    uncommented (TemplateSet.behindConstructor message.name message.id
      (plain message .empty).write (plain message .empty).read).toList

theorem uncommented_module (message : Message) (document : Document) :
    ∃ contents, TemplateSet.embedded.renderMessage message.name message.id document.title
        (plain message document) = .ok contents ∧
      uncommented contents.toList = said message document := by
  refine ⟨_, TemplateSet.renderMessage_embedded _ _ _ _, ?_⟩
  -- Neither block of statements depends on the document.
  have hwrite : (plain message document).write = (plain message .empty).write := rfl
  have hread : (plain message document).read = (plain message .empty).read := rfl
  obtain ⟨rest, hrest⟩ := TemplateSet.toList_behindConstructor message.name message.id
    (plain message .empty).write (plain message .empty).read
  have htitle : (TemplateSet.titleText document.title).toList =
      ((Comment.lines document.title).map String.toList).flatMap (· ++ ['\n']) := by
    rw [TemplateSet.titleText, String.toList_join, List.flatMap_map, List.flatMap_map]
    exact List.flatMap_congr fun line _ => String.toList_append
  have hbefore : (TemplateSet.beforeConstructor message.name
      (plain message document).parameters).toList =
      ("const " ++ message.name ++ " = function(" ++ parameterList message.fields ++
        ") \x7b").toList ++ '\n' :: List.replicate 4 ' ' := by
    simp [TemplateSet.beforeConstructor, plain]
  unfold said
  generalize "const " ++ message.name ++ " = function(" ++ parameterList message.fields ++
    ") \x7b" = head at hbefore ⊢
  have hbehind : uncommented ('\n' :: rest) = uncommented rest :=
    uncommented_append_cons (by decide) [] rest
  have hblock := uncommented_constructorBlock document message.fields rest
  simp only [String.toList_append, htitle, hbefore, hwrite, hread, hrest, List.append_assoc,
    List.cons_append]
  simp only [List.append_assoc] at hblock
  rw [uncommented_lines, uncommented_append_cons (by decide), hbehind, List.flatMap_map, ← hblock]
  rfl

theorem exposed_texts_empty (fields : List Field) :
    ∀ text ∈ Document.empty.texts fields, Comment.exposed text = [] := by
  rw [exposed_texts_iff]
  exact ⟨by decide, fun _ _ => rfl⟩

/-- A document says something exactly when one of its texts does. -/
theorem said_eq_iff {message : Message} {document : Document} :
    said message document = said message .empty ↔
      ∀ text ∈ document.texts message.fields, Comment.exposed text = [] := by
  obtain ⟨htitleEmpty, hfieldsEmpty⟩ := exposed_texts_iff.mp (exposed_texts_empty message.fields)
  have hplain : message.fields.flatMap (fun field =>
        exposedOn .empty field ++ uncommented (indentedAssignment field)) =
      message.fields.flatMap (fun field => uncommented (indentedAssignment field)) :=
    List.flatMap_congr fun field hfield => by rw [hfieldsEmpty field hfield, List.nil_append]
  rw [exposed_texts_iff]
  constructor
  · intro hsame
    have hlength := congrArg List.length hsame
    rw [said, said, htitleEmpty, hplain] at hlength
    simp only [List.length_append, List.length_flatMap, List.sum_map_add, List.length_nil]
      at hlength
    have htitle : (Comment.exposed document.title).length = 0 := by omega
    have hfields : (message.fields.flatMap (exposedOn document)).length = 0 := by
      rw [List.length_flatMap]
      omega
    exact ⟨List.length_eq_zero_iff.mp htitle,
      List.flatMap_eq_nil_iff.mp (List.length_eq_zero_iff.mp hfields)⟩
  · intro hnone
    obtain ⟨htitle, hfields⟩ := hnone
    have hassign : message.fields.flatMap (fun field =>
          exposedOn document field ++ uncommented (indentedAssignment field)) =
        message.fields.flatMap (fun field => uncommented (indentedAssignment field)) :=
      List.flatMap_congr fun field hfield => by rw [hfields field hfield, List.nil_append]
    rw [said, said, htitle, htitleEmpty, hassign, hplain]

end Blocks

namespace Run

/-- The module of a message says the same apart from comments whatever its document
is, unless a text of the document ends a line of the module inside of a comment. It
then says more than without a document exactly when what follows is not a comment
again. -/
theorem uncommented_messageModule {run : Run} (hembedded : run.templates = .embedded)
    {message : Message} {limit : Nat}
    (hdepth : ∀ field ∈ message.fields, field.kind.depth ≤ limit) :
    ∃ contents : Document → String,
      (∀ document, run.messageModule limit message document =
        .ok ⟨Layout.messagePath (run.grouping.directory message.id) message.name,
          contents document⟩) ∧
      (∀ first second : Document,
        (∀ text ∈ first.texts message.fields, Comment.IsPlain text) →
        (∀ text ∈ second.texts message.fields, Comment.IsPlain text) →
        uncommented (contents first).toList = uncommented (contents second).toList) ∧
      (∀ document : Document,
        uncommented (contents document).toList = uncommented (contents .empty).toList ↔
          ∀ text ∈ document.texts message.fields, Comment.exposed text = []) ∧
      ∀ text, (∀ comment ∈ Comment.lines text,
          isComment comment.toList = true ∧ '\n' ∉ comment.toList) ∧
        (Comment.IsPlain text ↔
          ∀ comment ∈ Comment.lines text, ∀ c ∈ comment.toList, endsLine c = false) := by
  choose contents hrender hcode using fun document => Blocks.uncommented_module message document
  have hmodule (document : Document) := messageModule_eq_ok_iff.mpr
    ⟨_, _, Blocks.ofMessage_full_ok_iff.mpr ⟨hdepth, rfl⟩,
      hembedded ▸ hrender document, rfl⟩
  have hsilent (document : Document)
      (hplain : ∀ text ∈ document.texts message.fields, Comment.IsPlain text) :
      Blocks.said message document = Blocks.said message .empty :=
    Blocks.said_eq_iff.mpr fun text htext => Comment.exposed_of_isPlain (hplain text htext)
  refine ⟨contents, hmodule, ?_, ?_, ?_⟩
  · intro first second hfirst hsecond
    rw [hcode, hcode, hsilent first hfirst, hsilent second hsecond]
  · intro document
    rw [hcode, hcode, Blocks.said_eq_iff]
  · intro text
    exact ⟨fun comment hcomment => ⟨Comment.isComment_of_mem_lines hcomment,
      Comment.lineFeed_notMem hcomment⟩,
      Comment.isPlain_iff⟩

/-- Texts with marks of block comments, blank lines and both kinds of line ends. -/
theorem uncommented_messageModule_documented :
    let run : Run := ⟨Config.default.outputRoot, .embedded, .flat, []⟩
    let message : Message := ⟨3, "Chat", [.ofKind "text" (.scalar .string),
      .ofKind "tags" (.sequence .set (.scalar .int))]⟩
    let document : Document := ⟨"/* Said\r\n\r\n   by a player", [("text", "// as typed\n*/"),
      ("tags", "return;")]⟩
    (∀ text ∈ document.texts message.fields, Comment.IsPlain text) ∧
      ∃ documented plain, run.messageModule 32 message document = .ok documented ∧
        run.messageModule 32 message .empty = .ok plain ∧
        uncommented documented.contents.toList = uncommented plain.contents.toList := by
  intro run message document
  have hdepth : ∀ field ∈ message.fields, field.kind.depth ≤ 32 := by decide +kernel
  have hplain : ∀ text ∈ document.texts message.fields, Comment.IsPlain text := by decide +kernel
  obtain ⟨contents, hmodule, hsame, -, -⟩ := @uncommented_messageModule run rfl message 32 hdepth
  exact ⟨hplain, _, _, hmodule document, hmodule .empty,
    hsame document .empty hplain (by decide +kernel)⟩

/-- A separator of lines inside of a title ends its comment, and what follows is
code of the module. -/
theorem messageModule_exposes_title :
    let run : Run := ⟨Config.default.outputRoot, .embedded, .flat, []⟩
    let message : Message := ⟨1, "Ping", []⟩
    let document : Document := ⟨"first\u2028second();", []⟩
    Comment.lines document.title = ["// first\u2028second();"] ∧
      ∃ documented plain, run.messageModule 32 message document = .ok documented ∧
        run.messageModule 32 message .empty = .ok plain ∧
        uncommented documented.contents.toList =
          "second();".toList :: uncommented plain.contents.toList := by
  intro run message document
  have hexposed : Comment.exposed document.title = ["second();".toList] := by decide +kernel
  have hdepth : ∀ field ∈ message.fields, field.kind.depth ≤ 32 := by decide
  obtain ⟨contents, hrender, hcode⟩ := Blocks.uncommented_module message document
  obtain ⟨plain, hrender', hcode'⟩ := Blocks.uncommented_module message .empty
  let path := Layout.messagePath (run.grouping.directory message.id) message.name
  refine ⟨by decide +kernel, ⟨path, contents⟩, ⟨path, plain⟩, ?_, ?_, ?_⟩
  · exact messageModule_eq_ok_iff.mpr
      ⟨_, _, Blocks.ofMessage_full_ok_iff.mpr ⟨hdepth, rfl⟩, hrender, rfl⟩
  · exact messageModule_eq_ok_iff.mpr
      ⟨_, _, Blocks.ofMessage_full_ok_iff.mpr ⟨hdepth, rfl⟩, hrender', rfl⟩
  · rw [hcode, hcode', Blocks.said, hexposed]
    rfl

end Run

end WireScript
