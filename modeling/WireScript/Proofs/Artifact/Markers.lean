import WireScript.Proofs.Artifact.Seams
import WireScript.Proofs.Emission.Indentation
import WireScript.Proofs.Generator.References

/-! # Markers in artifacts

The embedded templates have no marker left once they are filled, and the code that is put
into them has none: a line closes a block before it opens the next one. What remains are
the free texts of a message, each of which is shown with its markers, if it has any.
-/

namespace WireScript

open Listing Template Text

theorem Template.isMarked_iff {text : List Char} :
    IsMarked text ↔ Adjacent '\x7b' '\x7d' text :=
  Iff.rfl

namespace Listing

theorem not_isMarked_of_plain {text : String} (hplain : plain text = true) :
    ¬ IsMarked text.toList := fun hmarked =>
  notMem_of_plain hplain (by decide) (left_mem_of_adjacent hmarked)

/-- A line that closes a block and opens another one does so in this order. -/
theorem Turns.not_isMarked {text : String} {closing opening : Bool}
    (hturns : Turns text closing opening) : ¬ IsMarked text.toList := by
  obtain ⟨first, rest, htext, -, hfirst⟩ := hturns.starts
  have hclosed := hturns.closed
  rw [htext, closings, List.count_cons] at hclosed
  have hrest : '\x7d' ∉ rest := by
    rw [← List.count_eq_zero]
    by_cases hclosing : closing = true
    · rw [hfirst.mpr hclosing, hclosing] at hclosed
      simpa using hclosed
    · rw [Bool.eq_false_iff.mpr hclosing] at hclosed
      simpa using (Nat.add_eq_zero_iff.mp hclosed).1
  rw [htext, isMarked_cons_iff]
  rintro (⟨-, hhead⟩ | hmarked)
  · exact hrest (List.mem_of_head? hhead)
  · exact hrest (right_mem_of_adjacent hmarked)

end Listing

namespace Code

/-- Every line of code put together from words turns the braces around it. -/
theorem turns_of_mem_lines {code : Code} (hpieces : ∀ piece ∈ code.pieces, IsWord piece)
    {level : Nat} {line : Line} (hline : line ∈ code.lines level) :
    ∃ closing opening, Turns line.text closing opening := by
  induction code generalizing level with
  | done => cases hline
  | step statement rest ih =>
      rw [pieces, List.forall_mem_append] at hpieces
      rcases List.mem_cons.mp hline with rfl | hrest
      · exact ⟨_, _, Statement.turns hpieces.1⟩
      · exact ih hpieces.2 hrest
  | block head body rest ihBody ihRest =>
      simp only [pieces, List.forall_mem_append] at hpieces
      obtain ⟨hhead, hbody, hrest⟩ := hpieces
      simp only [lines, List.cons_append, List.mem_cons, List.mem_append] at hline
      rcases hline with rfl | hline | rfl | hline
      · exact ⟨_, _, Head.opening_turns hhead⟩
      · exact ihBody hbody hline
      · exact ⟨_, _, head.closing_turns⟩
      · exact ihRest hrest hline
  | ifNull source absent present rest ihAbsent ihPresent ihRest =>
      simp only [pieces, List.forall_mem_append, List.forall_mem_cons] at hpieces
      obtain ⟨hsource, habsent, hpresent, hrest⟩ := hpieces
      simp only [lines, List.cons_append, List.mem_cons, List.mem_append] at hline
      rcases hline with rfl | (hline | rfl | hline) | rfl | hline
      · exact ⟨_, _, .ifNull hsource⟩
      · exact ihAbsent habsent hline
      · exact ⟨_, _, .otherwise⟩
      · exact ihPresent hpresent hline
      · exact ⟨_, _, .brace⟩
      · exact ihRest hrest hline

/-- Code put together from words has no marker. -/
theorem not_isMarked_block {code : Code} (hpieces : ∀ piece ∈ code.pieces, IsWord piece) :
    ¬ IsMarked (trim (code.fragment Blocks.bodyDepth).render).toList := by
  rw [isMarked_iff, Fragment.adjacent_trim_render_iff Nat.one_pos (by decide) (by decide)]
  rintro ⟨line, hline, hmarked⟩
  obtain ⟨closing, opening, hturns⟩ := turns_of_mem_lines hpieces hline
  exact hturns.not_isMarked hmarked

end Code

namespace Comment

theorem isMarked_lines_iff (text : String) :
    (∃ comment ∈ lines text, IsMarked comment.toList) ↔ IsMarked text.toList :=
  adjacent_lines_iff (by decide) (by decide) (by decide) text

end Comment

namespace Blocks

/-- The texts a module shows of some fields: the comments on them and their types. -/
def fieldTexts (document : Document) (fields : List Field) : List String :=
  fields.filterMap (fun field => document.field? field.name) ++ fields.map Field.description

theorem notMem_parameterList {c : Char} (hword : inWord c = false) (hc : c ∉ ", ".toList)
    {fields : List Field} (hnames : ∀ field ∈ fields, Name.isIdentifier field.name = true) :
    c ∉ (parameterList fields).toList := by
  intro hmem
  rcases mem_intercalate hmem with hmem | ⟨name, hname, hmem⟩
  · exact hc hmem
  · obtain ⟨field, hfield, rfl⟩ := List.mem_map.mp hname
    exact (IsWord.of_isIdentifier (hnames field hfield)).notMem hword hmem

theorem isMarked_assignment_iff {field : Field} (hname : Name.isIdentifier field.name = true) :
    IsMarked (assignment field).toList ↔ IsMarked field.description.toList := by
  have hfront : '\x7b' ∉ ("this." ++ field.name ++ " = " ++ field.name ++ "; // ").toList := by
    simp [(IsWord.of_isIdentifier hname).notMem (c := '\x7b') (by decide)]
  rw [isMarked_iff, assignment, String.toList_append, adjacent_append_iff_right hfront,
    adjacent_collapse_iff (by decide) (by decide)]
  rfl

theorem isMarked_constructorLines_iff {document : Document} {field : Field}
    (hname : Name.isIdentifier field.name = true) :
    (∃ line ∈ constructorLines document field, IsMarked line.toList) ↔
      (∃ text ∈ document.field? field.name, IsMarked text.toList) ∨
        IsMarked field.description.toList := by
  have hcomments : (∃ comment ∈ fieldComments document field, IsMarked comment.toList) ↔
      ∃ text ∈ document.field? field.name, IsMarked text.toList := by
    unfold fieldComments
    cases document.field? field.name with
    | none => simp
    | some text => simpa using Comment.isMarked_lines_iff text
  rw [← isMarked_assignment_iff hname, ← hcomments, constructorLines_eq]
  simp only [List.mem_append, List.mem_singleton, or_and_right, exists_or, exists_eq_left]

/-- The constructor shows the comments on the fields and their types as they are. -/
theorem isMarked_constructorBlock_iff {document : Document} {fields : List Field}
    (hnames : ∀ field ∈ fields, Name.isIdentifier field.name = true) :
    IsMarked (trim (constructorBlock fields document).render).toList ↔
      ∃ text ∈ fieldTexts document fields, IsMarked text.toList := by
  rw [isMarked_iff, Fragment.adjacent_trim_render_iff Nat.one_pos (by decide) (by decide)]
  have hlines : (∃ line ∈ (constructorBlock fields document).lines, IsMarked line.text.toList) ↔
      ∃ field ∈ fields, ∃ line ∈ constructorLines document field, IsMarked line.toList := by
    constructor
    · rintro ⟨line, hline, hmarked⟩
      obtain ⟨text, htext, rfl⟩ := List.mem_map.mp hline
      obtain ⟨field, hfield, htext⟩ := List.mem_flatMap.mp htext
      exact ⟨field, hfield, text, htext, hmarked⟩
    · rintro ⟨field, hfield, text, htext, hmarked⟩
      exact ⟨⟨0, text⟩, List.mem_map_of_mem (List.mem_flatMap_of_mem hfield htext), hmarked⟩
  have hfields : (∃ field ∈ fields, ∃ line ∈ constructorLines document field,
      IsMarked line.toList) ↔ ∃ field ∈ fields,
        (∃ text ∈ document.field? field.name, IsMarked text.toList) ∨
          IsMarked field.description.toList :=
    exists_congr fun field => and_congr_right fun hfield =>
      isMarked_constructorLines_iff (hnames field hfield)
  refine hlines.trans (hfields.trans ?_)
  simp only [fieldTexts, List.mem_append, List.mem_filterMap, List.mem_map, Option.mem_def]
  grind

end Blocks

namespace Template

/-- No value of an embedded template is put right behind an opening brace. -/
theorem getLast?_ne_of_embedded {template : Template}
    (hembedded : template = embeddedMessage ∨ template = embeddedRegistry) :
    ∀ segment ∈ template.head :: template.tail, segment.toList.getLast? ≠ some '\x7b' := by
  rcases hembedded with rfl | rfl
  · decide +kernel
  · simp only [embeddedRegistry, List.forall_mem_cons]
    refine ⟨by decide, by decide +kernel, ?_, List.forall_mem_nil _⟩
    rw [getLast?_paragraph (List.cons_ne_nil _ _)]
    decide

theorem keepsApart_embedded {template : Template}
    (hembedded : template = embeddedMessage ∨ template = embeddedRegistry) :
    template.KeepsApart '\x7b' '\x7d' := by
  rcases hembedded with rfl | rfl
  · decide +kernel
  · simp only [KeepsApart, embeddedRegistry, List.forall_mem_cons]
    refine ⟨⟨by decide, by decide +kernel, ?_, List.forall_mem_nil _⟩, by decide +kernel, ?_,
      List.forall_mem_nil _⟩
    · rw [adjacent_paragraph_iff (by decide) (by decide)]
      decide +kernel
    · rw [toList_paragraph]
      rfl

/-- What an embedded template is filled with is all that can have a marker. -/
theorem isMarked_render_iff {template : Template}
    (hembedded : template = embeddedMessage ∨ template = embeddedRegistry) {values : List String}
    {text : String} (htext : template.render values = .ok text) :
    IsMarked text.toList ↔ ∃ value ∈ values, IsMarked value.toList :=
  (keepsApart_embedded hembedded).render_iff htext fun _ hseam =>
    .inl (getLast?_ne_of_embedded hembedded _ (List.of_mem_zip hseam).1)

end Template

namespace TemplateSet

/-- The module of a message has a marker where its title, a comment on one of its fields or
the type of one has it, and nowhere else. -/
theorem isMarked_renderMessage_iff {message : Message} {document : Document}
    (hname : Name.isIdentifier message.name = true)
    (hnames : ∀ field ∈ message.fields, Name.isIdentifier field.name = true) {text : String}
    (htext : embedded.renderMessage message.name message.id document.title
      (Blocks.plain message document) = .ok text) :
    IsMarked text.toList ↔
      ∃ shown ∈ document.title :: Blocks.fieldTexts document message.fields,
        IsMarked shown.toList := by
  have hword : ¬ IsMarked message.name.toList :=
    not_isMarked_of_plain (plain_of_isWord (.of_isIdentifier hname))
  have hid : ¬ IsMarked (Text.decimal message.id.toNat).toList :=
    not_isMarked_of_plain (plain_of_isWord (.decimal _))
  have hparameters : ¬ IsMarked (Blocks.plain message document).parameters.toList :=
    fun hmarked => Blocks.notMem_parameterList (by decide) (by decide) hnames
      (left_mem_of_adjacent hmarked)
  have hwrite : ¬ IsMarked (trim (Blocks.plain message document).write.render).toList :=
    Code.not_isMarked_block (Blocks.words_writing hnames _)
  have hread : ¬ IsMarked (trim (Blocks.plain message document).read.render).toList :=
    Code.not_isMarked_block (Blocks.words_reading hnames _)
  have htitle : IsMarked (titleText document.title).toList ↔ IsMarked document.title.toList :=
    (Comment.adjacent_titleText_iff (by decide) (by decide) _).trans
      (Comment.isMarked_lines_iff _)
  have hconstructor : IsMarked (trim (Blocks.plain message document).constructor.render).toList ↔
      ∃ shown ∈ Blocks.fieldTexts document message.fields, IsMarked shown.toList :=
    Blocks.isMarked_constructorBlock_iff hnames
  refine (isMarked_render_iff (.inl rfl) htext).trans ?_
  simp only [List.mem_cons, List.not_mem_nil, exists_eq_or_imp, exists_eq_left,
    htitle, hword, hid, hparameters, hconstructor, hwrite, hread, false_or, or_false]

/-- A character that is in no name, number or directory, nor in the words around them, is
not in what the registry is filled with. -/
theorem notMem_registryValues {c : Char} (hword : inWord c = false)
    (hc : c ∉ "\nimport from './.js';protocols.set(, );".toList) {entries : List RegistryEntry}
    (hnames : ∀ entry ∈ entries, c ∉ entry.name.toList)
    (hdirectories : ∀ entry ∈ entries, c ∉ entry.directory.toList) :
    ∀ value ∈ ["\n".intercalate (entries.map RegistryEntry.importStatement),
      "\n".intercalate (entries.map RegistryEntry.registration)], c ∉ value.toList := by
  have hjoined {statement : RegistryEntry → String}
      (hstatement : ∀ entry ∈ entries, c ∉ (statement entry).toList) :
      c ∉ ("\n".intercalate (entries.map statement)).toList := by
    intro hmem
    rcases mem_intercalate hmem with hfeed | ⟨line, hline, hmem⟩
    · exact hc (List.mem_cons.mpr (.inl (List.mem_singleton.mp hfeed)))
    · obtain ⟨entry, hentry, rfl⟩ := List.mem_map.mp hline
      exact hstatement entry hentry hmem
  rw [List.forall_mem_cons, List.forall_mem_singleton]
  simp only [String.reduceToList, List.mem_cons, List.not_mem_nil, not_or] at hc
  refine ⟨hjoined fun entry hentry => ?_, hjoined fun entry hentry => ?_⟩
  · unfold RegistryEntry.importStatement
    split <;> simp [hnames entry hentry, hdirectories entry hentry, hc]
  · have hid : c ∉ (Text.decimal entry.id.toNat).toList := (IsWord.decimal _).notMem hword
    unfold RegistryEntry.registration
    generalize Text.decimal entry.id.toNat = number at hid ⊢
    simp [hnames entry hentry, hid, hc]

/-- The registry has no marker when the names and directories of the messages have no
braces. -/
theorem not_isMarked_renderRegistry {entries : List RegistryEntry}
    (hnames : ∀ entry ∈ entries, '\x7b' ∉ entry.name.toList)
    (hdirectories : ∀ entry ∈ entries, '\x7b' ∉ entry.directory.toList) {text : String}
    (htext : embedded.renderRegistry entries = .ok text) : ¬ IsMarked text.toList := by
  intro hmarked
  obtain ⟨value, hvalue, hmarked⟩ := (isMarked_render_iff (.inr rfl) htext).mp hmarked
  exact notMem_registryValues (by decide) (by decide) hnames hdirectories value hvalue
    (left_mem_of_adjacent hmarked)

end TemplateSet

end WireScript
