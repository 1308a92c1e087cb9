import WireScript.Proofs.Emission.Full

/-! # Listings

The text of a block as its reader sees it: lines in order, indentation aside. A
line that begins with a closing brace ends the innermost open block, and one that
ends with an opening brace starts a block. Nothing here refers to the tree the
lines were laid out from, except that the lines of a tree are its `texts`.
-/

namespace WireScript

namespace Statement

-- A statement that introduces a name is a constant with a value behind it.

theorem text_read (name method : String) :
    (read name method).text = "const " ++ name ++ " = " ++ ("buffer." ++ method ++ "();") := by
  simp only [text.eq_def, String.append_assoc]
  rfl

theorem text_readMessage (name : String) (id : ProtocolId) :
    (readMessage name id).text =
      "const " ++ name ++ " = " ++ ("buffer.readPacket(" ++ Text.decimal id.toNat ++ ");") := by
  simp only [text.eq_def, String.append_assoc]
  rfl

theorem text_create (name : String) (container : Container) :
    (create name container).text = "const " ++ name ++ " = " ++ (container.fresh ++ ";") := by
  simp only [text.eq_def, String.append_assoc]

end Statement

/-- The loop over what is written begins with it. -/
theorem Head.opening_each (source : String) (parameters : List String) :
    (each source parameters).opening =
      source ++ (".forEach(" ++ parameterText parameters ++ " => \x7b") := by
  simp only [opening.eq_def, String.append_assoc]

namespace Code

/-- The lines of code from top to bottom, without indentation. -/
def texts : Code → List String
  | .done => []
  | .step statement rest => statement.text :: rest.texts
  | .block head body rest => head.opening :: (body.texts ++ head.closing :: rest.texts)
  | .ifNull source absent present rest =>
      ("if (" ++ source ++ " == null) \x7b") ::
        (absent.texts ++ "\x7d else \x7b" :: (present.texts ++ "\x7d" :: rest.texts))

theorem map_text_lines (code : Code) (level : Nat) :
    (code.lines level).map Line.text = code.texts := by
  induction code generalizing level with
  | done => rfl
  | step statement rest ih => simp [lines, texts, ih]
  | block head body rest ihBody ihRest => simp [lines, texts, ihBody, ihRest]
  | ifNull source absent present rest ihAbsent ihPresent ihRest =>
      simp [lines, texts, ihAbsent, ihPresent, ihRest]

/-- Depth moves the lines of a fragment and leaves their text alone. -/
theorem statements_fragment (code : Code) (depth : Nat) :
    (code.fragment depth).statements = code.texts :=
  code.map_text_lines 0

theorem texts_append (first second : Code) :
    (first ++ second).texts = first.texts ++ second.texts := by
  rw [← map_text_lines _ 0, lines_append, List.map_append, map_text_lines, map_text_lines]

theorem texts_one (statement : Statement) : (one statement).texts = [statement.text] := by
  simp [one, texts]

theorem texts_guard (field : Field) :
    (Blocks.guard field).texts =
      if field.compatible then ["if (!buffer.isReadable()) \x7b", "return packet;", "\x7d"]
      else [] := by
  unfold Blocks.guard
  split <;> rfl

theorem texts_writeContainer (source measure : String) (parameters : List String) (body : Code) :
    (Strategy.writeContainer source measure parameters body).texts =
      ("if (" ++ source ++ " == null) \x7b") :: "buffer.writeInt(0);" :: "\x7d else \x7b" ::
        (Statement.writeCount source measure).text :: (Head.each source parameters).opening ::
          (body.texts ++ ["\x7d);", "\x7d"]) := by
  simp only [Strategy.writeContainer, texts, texts_one, Statement.text.eq_def, Head.closing,
    List.nil_append, List.cons_append, List.append_assoc]

theorem texts_readContainer (name size index : String) (container : Container) (body : Code) :
    (Strategy.readContainer (.one (.create name container)) size index body).texts =
      (Statement.create name container).text :: (Statement.read size "readInt").text ::
        (Head.positive size).opening :: (Head.count index size).opening ::
          (body.texts ++ ["\x7d", "\x7d"]) := by
  simp only [Strategy.readContainer, texts_append, texts_one, texts, Head.closing,
    List.nil_append, List.cons_append, List.append_assoc]

end Code

namespace Listing

/-- Whether a line begins with a text. -/
def begins (start text : String) : Bool := start.toList.isPrefixOf text.toList

/-- Whether a line ends with a text. -/
def ends (final text : String) : Bool := final.toList.isSuffixOf text.toList

/-- Whether a line closes a block. -/
def closes (text : String) : Bool := begins "\x7d" text

/-- Whether a line opens a block. -/
def opens (text : String) : Bool := ends "\x7b" text

/-- Whether the block a line opens is the body of a loop: of a counting loop, or
of an arrow function applied to each element. -/
def loops (text : String) : Bool := begins "for (" text || ends " => \x7b" text

/-- A line begins with no text that begins with another character. -/
theorem begins_eq_false {start text : String} {c : Char} (htext : text.toList.head? = some c)
    (hstart : start.toList.head?.any (· != c) = true) : begins start text = false := by
  obtain ⟨rest, hrest⟩ := List.head?_eq_some_iff.mp htext
  cases hlist : start.toList with
  | nil => simp [hlist] at hstart
  | cons first others =>
      rw [hlist, List.head?_cons, Option.any_some, bne_iff_ne] at hstart
      simp [begins, hrest, hlist, List.isPrefixOf, hstart]

theorem ends_eq_false {final text : String} {c : Char} (htext : text.toList.getLast? = some c)
    (hfinal : final.toList.getLast?.any (· != c) = true) : ends final text = false := by
  obtain ⟨before, hbefore⟩ := List.getLast?_eq_some_iff.mp htext
  rw [ends, Bool.eq_false_iff]
  intro hends
  obtain ⟨front, hfront⟩ := List.isSuffixOf_iff_suffix.mp hends
  obtain ⟨last, hlast, hother⟩ := (Option.any_eq_true _ _).mp hfinal
  obtain ⟨others, hothers⟩ := List.getLast?_eq_some_iff.mp hlast
  rw [hbefore, hothers, ← List.append_assoc] at hfront
  have hsame := (List.append_inj' hfront rfl).2
  rw [List.cons.inj hsame |>.1] at hother
  simp at hother

theorem getLast?_text (statement : Statement) : statement.text.toList.getLast? = some ';' := by
  cases statement <;> simp [Statement.text.eq_def, List.getLast?_append, List.getLast?_cons]

/-- Statements end with a semicolon, so they open no block. -/
theorem opens_text (statement : Statement) : opens statement.text = false :=
  ends_eq_false (getLast?_text statement) (by decide)

theorem loops_positive (size : String) : loops (Head.positive size).opening = false := by
  simp [loops, begins, ends, Head.opening.eq_def, List.isPrefixOf, List.isSuffixOf]

theorem loops_count (index size : String) : loops (Head.count index size).opening = true := by
  simp [loops, begins, ends, Head.opening.eq_def, List.isPrefixOf, List.isSuffixOf]

/-- What a write block writes: a field of the packet or an entry of a container. -/
inductive IsSource : String → Prop where
  | field (name : String) : IsSource ("packet." ++ name)
  | entry {stem : String} (hstem : stem ∈ ["element", "key", "value"]) (number : Nat) :
      IsSource (Name.temporary stem number)

theorem IsSource.head {source : String} (hsource : IsSource source) :
    ∃ first rest, source.toList = first :: rest ∧ first ∈ ['p', 'e', 'k', 'v'] := by
  cases hsource with
  | field name => exact ⟨'p', _, by simp; rfl, by decide⟩
  | entry hstem number =>
      simp only [List.mem_cons, List.not_mem_nil, or_false] at hstem
      rcases hstem with rfl | rfl | rfl
      · exact ⟨'e', _, by simp [Name.temporary]; rfl, by decide⟩
      · exact ⟨'k', _, by simp [Name.temporary]; rfl, by decide⟩
      · exact ⟨'v', _, by simp [Name.temporary]; rfl, by decide⟩

/-- A line that begins with a source is no constant, no loop and no call. -/
theorem IsSource.not_begins {source start : String} (hsource : IsSource source)
    (hstart : start.toList.head?.any (fun c => !(['p', 'e', 'k', 'v'].contains c)) = true)
    (text : String) : begins start (source ++ text) = false := by
  obtain ⟨first, rest, hfirst, hmem⟩ := hsource.head
  apply begins_eq_false (c := first)
  · simp [hfirst]
  · obtain ⟨c, hc, hother⟩ := (Option.any_eq_true _ _).mp hstart
    rw [hc, Option.any_some, bne_iff_ne]
    rintro rfl
    rw [List.contains_iff_mem.mpr hmem] at hother
    cases hother

end Listing

end WireScript
