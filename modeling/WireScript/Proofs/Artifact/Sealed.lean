import WireScript.Proofs.Artifact.Import
import WireScript.Proofs.Artifact.Markers
import WireScript.Proofs.Artifact.Records

/-! # Sealed artifacts

The embedded templates end a line, and put no free text at the start of one: a title is
behind the mark of its comment, a comment on a field behind the indentation of its block.
So no line of the registry or of a module begins with a zero, whatever the texts are.
-/

namespace WireScript

open Artifact Listing Template Text

theorem Listing.IsWord.zero_notMem {text : String} (hword : IsWord text) :
    '\x00' ∉ text.toList :=
  hword.notMem (by decide)

namespace Text

theorem not_adjacent_of_notMem {a b : Char} {text : List Char} (hb : b ∉ text) :
    ¬ Adjacent a b text :=
  fun hadjacent => hb (right_mem_of_adjacent hadjacent)

/-- A text without a zero byte has no zero. -/
theorem zero_notMem_of_toByteArray {text : String} (hbytes : 0 ∉ text.toByteArray.data.toList) :
    '\x00' ∉ text.toList := by
  have hzero : bytes ['\x00'] = [0] := by decide +kernel
  intro hmem
  obtain ⟨first, rest, htext⟩ := List.append_of_mem hmem
  apply hbytes
  rw [← String.utf8Encode_toList, ← bytes_eq, htext, List.append_cons, bytes_append, bytes_append,
    hzero]
  simp

end Text

/-- A line of a block has a space in front or nothing behind it. -/
theorem Fragment.not_adjacent_trim_render {fragment : Fragment} (hdepth : 0 < fragment.depth)
    (hwhole : ∀ line ∈ fragment.lines, '\n' ∉ line.text.toList) :
    ¬ Adjacent '\n' '\x00' (trim fragment.render).toList := by
  intro hadjacent
  rw [trim, String.toList_ofList] at hadjacent
  obtain ⟨line, hline, hadjacent⟩ := (adjacent_render_iff hdepth (by decide) (by decide)).mp
    (hadjacent.trans (strip_isInfix isBlank fragment.render.toList))
  exact hwhole line hline (left_mem_of_adjacent hadjacent)

namespace Template

/-- What an embedded template is filled with seals it, if no line of it begins with a zero,
nor the value itself behind a segment that ends a line. -/
theorem isSealed_render {template : Template}
    (hembedded : template = embeddedMessage ∨ template = embeddedRegistry) {values : List String}
    {text : String} (htext : template.render values = .ok text)
    (hvalues : ∀ value ∈ values, ¬ Adjacent '\n' '\x00' value.toList)
    (hseams : ∀ seam ∈ (template.head :: template.tail).zip values,
      seam.1.toList.getLast? ≠ some '\n' ∨ '\x00' ∉ seam.2.toList) : IsSealed text := by
  have hzero : ∀ segment ∈ template.head :: template.tail, '\x00' ∉ segment.toList := by
    intro segment hsegment
    apply zero_notMem_of_toByteArray
    revert segment
    rcases hembedded with rfl | rfl <;> decide +kernel
  have hsome : ∀ segment ∈ template.tail, segment.toList ≠ [] := by
    simp only [ne_eq, String.toList_eq_nil_iff]
    rcases hembedded with rfl | rfl <;> decide +kernel
  have hends : ∃ last, template.tail.getLast? = some last ∧ last.toList.getLast? = some '\n' := by
    rcases hembedded with rfl | rfl
    · exact ⟨";\n", rfl, rfl⟩
    · exact ⟨_, rfl, getLast?_paragraph (List.cons_ne_nil _ _)⟩
  have hapart : template.KeepsApart '\n' '\x00' := by
    refine ⟨fun segment hsegment => not_adjacent_of_notMem (hzero segment hsegment), ?_⟩
    intro segment hsegment
    obtain ⟨c, rest, hlist⟩ := List.exists_cons_of_ne_nil (hsome segment hsegment)
    have hc := hzero segment (List.mem_cons_of_mem _ hsegment)
    rw [hlist, List.mem_cons, not_or] at hc
    rw [hlist, List.head?_cons, Option.any_some, bne_iff_ne]
    exact Ne.symm hc.1
  obtain ⟨last, hlast, hfeed⟩ := hends
  refine ⟨getLast?_render htext hlast hfeed, ?_⟩
  rw [hapart.render_iff htext fun seam hseam =>
    (hseams seam hseam).imp_right fun hnone hhead => hnone (List.mem_of_head? hhead)]
  rintro ⟨value, hvalue, hadjacent⟩
  exact hvalues value hvalue hadjacent

end Template

namespace Code

/-- Code put together from words has whole lines. -/
theorem whole_of_mem_lines {code : Code}
    (hpieces : ∀ piece ∈ code.pieces, IsWord piece) {level : Nat} :
    ∀ line ∈ code.lines level, '\n' ∉ line.text.toList := by
  intro line hline
  obtain ⟨_, _, hturns⟩ := turns_of_mem_lines hpieces hline
  exact hturns.whole

end Code

namespace Blocks

theorem whole_of_mem_constructorBlock {document : Document} {fields : List Field}
    (hnames : ∀ field ∈ fields, Name.isIdentifier field.name = true) :
    ∀ line ∈ (constructorBlock fields document).lines, '\n' ∉ line.text.toList := by
  rw [constructorBlock, List.forall_mem_map]
  intro line hline hfeed
  obtain ⟨field, hfield, hline⟩ := List.mem_flatMap.mp hline
  rw [constructorLines_eq, List.mem_append, List.mem_singleton] at hline
  rcases hline with hcomment | rfl
  · unfold fieldComments at hcomment
    split at hcomment
    next => exact Comment.lineFeed_notMem hcomment hfeed
    next => cases hcomment
  · have hname := (IsWord.of_isIdentifier (hnames field hfield)).notMem (c := '\n') (by decide)
    have hdescription : '\n' ∉ (Text.collapse field.description).toList := by
      intro hmem
      cases endsLine_collapse hmem
    simp [assignment, hname, hdescription] at hfeed

end Blocks

namespace TemplateSet

/-- The module of a message is sealed, whatever texts it shows. -/
theorem isSealed_renderMessage {message : Message} {document : Document}
    (hname : Name.isIdentifier message.name = true)
    (hnames : ∀ field ∈ message.fields, Name.isIdentifier field.name = true) {text : String}
    (htext : embedded.renderMessage message.name message.id document.title
      (Blocks.plain message document) = .ok text) : IsSealed text := by
  have hword := (IsWord.of_isIdentifier hname).zero_notMem
  have hid := (IsWord.decimal message.id.toNat).zero_notMem
  have hparameters : '\x00' ∉ (Blocks.plain message document).parameters.toList :=
    Blocks.notMem_parameterList (by decide) (by decide) hnames
  have htitle : ¬ Adjacent '\n' '\x00' (titleText document.title).toList := by
    rw [Comment.adjacent_titleText_iff (by decide) (by decide)]
    rintro ⟨comment, hcomment, hadjacent⟩
    exact Comment.lineFeed_notMem hcomment (left_mem_of_adjacent hadjacent)
  have hconstructor :
      ¬ Adjacent '\n' '\x00' (trim (Blocks.plain message document).constructor.render).toList :=
    Fragment.not_adjacent_trim_render Nat.one_pos (Blocks.whole_of_mem_constructorBlock hnames)
  have hwrite :
      ¬ Adjacent '\n' '\x00' (trim (Blocks.plain message document).write.render).toList :=
    Fragment.not_adjacent_trim_render Nat.one_pos
      (Code.whole_of_mem_lines (Blocks.words_writing hnames _))
  have hread :
      ¬ Adjacent '\n' '\x00' (trim (Blocks.plain message document).read.render).toList :=
    Fragment.not_adjacent_trim_render Nat.one_pos
      (Code.whole_of_mem_lines (Blocks.words_reading hnames _))
  have hplain {text : String} (hzero : '\x00' ∉ text.toList) :
      ¬ Adjacent '\n' '\x00' text.toList := not_adjacent_of_notMem hzero
  refine isSealed_render (.inl rfl) htext ?_ ?_
  · simp only [List.forall_mem_cons]
    exact ⟨htitle, hplain hword, hplain hparameters, hconstructor, hplain hword, hplain hid,
      hplain hword, hwrite, hplain hword, hplain hword, hread, hplain hword, List.forall_mem_nil _⟩
  · -- the segments in front of free texts end in blanks
    simp only [embeddedMessage, List.zip_cons_cons, List.forall_mem_cons]
    exact ⟨.inl (by decide), .inr hword, .inr hparameters, .inl (by decide), .inr hword, .inr hid,
      .inr hword, .inl (by decide +kernel), .inr hword, .inr hword, .inl (by decide), .inr hword,
      List.forall_mem_nil _⟩

/-- The registry is sealed when the names and directories of the messages have no zero. -/
theorem isSealed_renderRegistry {entries : List RegistryEntry}
    (hnames : ∀ entry ∈ entries, '\x00' ∉ entry.name.toList)
    (hdirectories : ∀ entry ∈ entries, '\x00' ∉ entry.directory.toList) {text : String}
    (htext : embedded.renderRegistry entries = .ok text) : IsSealed text := by
  have hvalues := notMem_registryValues (c := '\x00') (by decide) (by decide) hnames hdirectories
  exact isSealed_render (.inr rfl) htext
    (fun value hvalue => not_adjacent_of_notMem (hvalues value hvalue))
    (fun seam hseam => .inr (hvalues seam.2 (List.of_mem_zip hseam).2))

end TemplateSet

end WireScript
