import WireScript.Proofs.Emission.Nesting
import WireScript.Proofs.Emission.Splicing

/-! # Indentation of blocks

The lines of code are indented by the braces around them, whatever the code is, as
long as the texts it is put together from are words. Those of the blocks of a message
are: the names of its fields, of temporaries and of the methods of the buffer.
-/

namespace WireScript

open Listing

namespace Statement

/-- The texts a statement is put together from. -/
def pieces : Statement → List String
  | .write method source => [method, source]
  | .writeMessage source _ => [source]
  | .writeCount source measure => [source, measure]
  | .writeZero => []
  | .read name method => [name, method]
  | .readMessage name _ => [name]
  | .create name _ => [name]
  | .insert _ name values => name :: values
  | .assign field value => [field, value]
  | .leave => []

theorem plain_text {statement : Statement}
    (hpieces : ∀ piece ∈ statement.pieces, plain piece = true) : plain statement.text = true := by
  have hdecimal (number : Nat) : plain (Text.decimal number) = true :=
    plain_of_isWord (.decimal number)
  have hfresh (container : Container) : plain container.fresh = true := by
    cases container <;> decide
  have hmethod (container : Container) : plain container.method = true := by
    cases container <;> decide
  cases statement with
  | insert container name values =>
      obtain ⟨hname, hvalues⟩ := List.forall_mem_cons.mp hpieces
      simp +decide [text.eq_def, plain_append, hname, hmethod, plain_intercalate hvalues]
  | _ => simp_all +decide [pieces, text.eq_def, plain_append]

theorem turns {statement : Statement} (hpieces : ∀ piece ∈ statement.pieces, IsWord piece) :
    Turns statement.text false false := by
  apply Turns.statement (plain_text fun piece hpiece => plain_of_isWord (hpieces piece hpiece))
  cases statement with
  | insert container name values =>
      have hname : IsWord name := hpieces name List.mem_cons_self
      simp only [text.eq_def, String.append_assoc]
      exact startsPlain_of_isWord hname _
  | _ => simp +decide [startsPlain, text.eq_def]

end Statement

namespace Head

/-- The texts the line that opens a block is put together from. -/
def pieces : Head → List String
  | .each source parameters => source :: parameters
  | .positive size => [size]
  | .count index size => [index, size]
  | .exhausted => []

theorem plain_parameterText {parameters : List String}
    (hparameters : ∀ parameter ∈ parameters, plain parameter = true) :
    plain (parameterText parameters) = true := by
  unfold parameterText
  split
  next parameter => exact hparameters parameter List.mem_cons_self
  next => simp +decide [plain_append, plain_intercalate hparameters]

theorem opening_turns {head : Head} (hpieces : ∀ piece ∈ head.pieces, IsWord piece) :
    Turns head.opening false true := by
  have hplain : ∀ piece ∈ head.pieces, plain piece = true := fun piece hpiece =>
    plain_of_isWord (hpieces piece hpiece)
  cases head with
  | each source parameters =>
      obtain ⟨hsource, hparameters⟩ := List.forall_mem_cons.mp hplain
      apply Turns.opening " => "
      · simp +decide [plain_append, hsource, plain_parameterText hparameters]
      · simp only [String.append_assoc]
        exact startsPlain_of_isWord (hpieces source List.mem_cons_self) _
  | positive size =>
      apply Turns.opening " > 0) "
      · simp +decide [plain_append, hplain size List.mem_cons_self]
      · simp +decide [startsPlain]
  | count index size =>
      simp only [pieces, List.forall_mem_cons] at hplain
      apply Turns.opening "++) "
      · simp +decide [plain_append, hplain.1, hplain.2.1]
      · simp +decide [startsPlain]
  | exhausted => exact @Turns.opening "" "if (!buffer.isReadable()) " (by decide) (by decide)

theorem closing_turns (head : Head) : Turns head.closing true false := by
  cases head with
  | each source parameters => exact .bracket
  | _ => exact .brace

end Head

/-- A branch on a missing value opens a block. -/
theorem Listing.Turns.ifNull {source : String} (hsource : IsWord source) :
    Turns ("if (" ++ source ++ " == null) \x7b") false true := by
  apply Turns.opening " == null) "
  · simp +decide [plain_append, plain_of_isWord hsource]
  · simp +decide [startsPlain]

namespace Code

/-- The texts code is put together from. -/
def pieces : Code → List String
  | .done => []
  | .step statement rest => statement.pieces ++ rest.pieces
  | .block head body rest => head.pieces ++ (body.pieces ++ rest.pieces)
  | .ifNull source absent present rest =>
      source :: (absent.pieces ++ (present.pieces ++ rest.pieces))

/-- Code put together from words, laid out in front of a text. -/
theorem nested_lines {code : Code} (hpieces : ∀ piece ∈ code.pieces, IsWord piece)
    {margin level after : Nat} {rest : List Char} (hrest : Nested margin level rest after) :
    Nested margin level ((code.lines level).flatMap
      (fun line => (Fragment.renderLine margin line).toList) ++ rest) after := by
  induction code generalizing level rest with
  | done => exact hrest
  | step statement next ih =>
      rw [pieces, List.forall_mem_append] at hpieces
      obtain ⟨hstatement, hnext⟩ := hpieces
      rw [lines, List.flatMap_cons, List.append_assoc]
      exact (Statement.turns hstatement).nested (ih hnext hrest)
  | block head body next ihBody ihNext =>
      simp only [pieces, List.forall_mem_append] at hpieces
      obtain ⟨hhead, hbody, hnext⟩ := hpieces
      simp only [lines, List.flatMap_cons, List.flatMap_append, List.append_assoc]
      have hclosing := head.closing_turns.nested (ihNext hnext hrest)
      exact (Head.opening_turns hhead).nested (ihBody hbody hclosing)
  | ifNull source absent present next ihAbsent ihPresent ihNext =>
      simp only [pieces, List.forall_mem_append, List.forall_mem_cons] at hpieces
      obtain ⟨hsource, habsent, hpresent, hnext⟩ := hpieces
      simp only [lines, List.flatMap_cons, List.flatMap_append, List.append_assoc]
      have hclosing := Turns.brace.nested (ihNext hnext hrest)
      have helse := Turns.otherwise.nested (ihPresent hpresent hclosing)
      exact (Turns.ifNull hsource).nested (ihAbsent habsent helse)

theorem nested_fragment {code : Code} (hpieces : ∀ piece ∈ code.pieces, IsWord piece)
    (depth : Nat) : Nested depth 0 (code.fragment depth).render.toList 0 := by
  have hnested := @nested_lines code hpieces depth 0 0 [] .nil
  rw [List.append_nil] at hnested
  rw [Fragment.toList_render]
  exact hnested

theorem pieces_append (first second : Code) :
    (first ++ second).pieces = first.pieces ++ second.pieces := by
  induction first with
  | done => rfl
  | step statement rest ih =>
      change statement.pieces ++ (rest ++ second).pieces = _
      rw [ih, pieces, List.append_assoc]
  | block head body rest _ ih =>
      change head.pieces ++ (body.pieces ++ (rest ++ second).pieces) = _
      simp only [ih, pieces, List.append_assoc]
  | ifNull source absent present rest _ _ ih =>
      change source :: (absent.pieces ++ (present.pieces ++ (rest ++ second).pieces)) = _
      simp only [ih, pieces, List.append_assoc, List.cons_append]

theorem pieces_one (statement : Statement) : (one statement).pieces = statement.pieces :=
  List.append_nil _

section Container

variable {source measure name size index : String} {parameters : List String} {body : Code}

theorem words_writeContainer (hsource : IsWord source) (hmeasure : IsWord measure)
    (hparameters : ∀ parameter ∈ parameters, IsWord parameter)
    (hbody : ∀ piece ∈ body.pieces, IsWord piece) :
    ∀ piece ∈ (Strategy.writeContainer source measure parameters body).pieces, IsWord piece := by
  simp only [Strategy.writeContainer, pieces, pieces_one, Statement.pieces, Head.pieces,
    List.forall_mem_append, List.forall_mem_cons]
  simpa [hsource, hmeasure] using ⟨hparameters, hbody⟩

theorem words_readContainer {container : Container} (hname : IsWord name) (hsize : IsWord size)
    (hindex : IsWord index) (hbody : ∀ piece ∈ body.pieces, IsWord piece) :
    ∀ piece ∈ (Strategy.readContainer (.one (.create name container)) size index body).pieces,
      IsWord piece := by
  have hread : IsWord "readInt" := .readMethod .int
  simp only [Strategy.readContainer, pieces, pieces_append, pieces_one, Statement.pieces,
    Head.pieces, List.forall_mem_append, List.forall_mem_cons]
  simpa [hname, hsize, hindex, hread] using hbody

end Container

end Code

namespace Kind

theorem words_writing (kind : Kind) {source : String} (hsource : IsWord source) (next : Nat) :
    ∀ piece ∈ (kind.writing source next).pieces, IsWord piece := by
  induction kind generalizing source next with
  | scalar s =>
      have hmethod : IsWord ("write" ++ s.methodName) := .writeMethod s
      simp [writing, Code.pieces_one, Statement.pieces, hmethod, hsource]
  | message id => simp [writing, Code.pieces_one, Statement.pieces, hsource]
  | sequence collection element ih =>
      have hname : IsWord (Name.temporary "element" next) := .temporary _ (by decide) next
      refine Code.words_writeContainer hsource (.measure collection) ?_ (ih hname _)
      simpa using hname
  | map key value ihKey ihValue =>
      have hkey : IsWord (Name.temporary "key" next) := .temporary _ (by decide) next
      have hvalue : IsWord (Name.temporary "value" (next + 1)) :=
        .temporary _ (by decide) (next + 1)
      refine Code.words_writeContainer hsource (.measure .set) ?_ ?_
      · simpa using ⟨hvalue, hkey⟩
      · rw [Code.pieces_append, List.forall_mem_append]
        exact ⟨ihKey hkey _, ihValue hvalue _⟩

theorem words_reading (kind : Kind) (next : Nat) :
    ∀ piece ∈ (kind.reading next).pieces, IsWord piece := by
  have hresult (number : Nat) : IsWord (Name.temporary "result" number) :=
    .temporary _ (by decide) number
  have hsize (number : Nat) : IsWord (Name.temporary "size" number) :=
    .temporary _ (by decide) number
  have hindex (number : Nat) : IsWord (Name.temporary "index" number) :=
    .temporary _ (by decide) number
  induction kind generalizing next with
  | scalar s =>
      have hmethod : IsWord ("read" ++ s.methodName) := .readMethod s
      simp [reading, Code.pieces_one, Statement.pieces, hmethod, hresult]
  | message id => simp [reading, Code.pieces_one, Statement.pieces, hresult]
  | sequence collection element ih =>
      apply Code.words_readContainer (hresult _) (hsize _) (hindex _)
      rw [Code.pieces_append, Code.pieces_one, List.forall_mem_append]
      refine ⟨ih _, ?_⟩
      simp [Statement.pieces, hresult]
  | map key value ihKey ihValue =>
      apply Code.words_readContainer (hresult _) (hsize _) (hindex _)
      simp only [Code.pieces_append, Code.pieces_one, List.forall_mem_append]
      refine ⟨⟨ihKey _, ihValue _⟩, ?_⟩
      simp [Statement.pieces, hresult]

end Kind

namespace Blocks

theorem words_guard (field : Field) : ∀ piece ∈ (guard field).pieces, IsWord piece := by
  unfold guard
  split
  next => simp [Code.pieces, Code.pieces_one, Head.pieces, Statement.pieces]
  next => simp [Code.pieces]

theorem words_fieldWriting {field : Field} (hname : IsWord field.name) (next : Nat) :
    ∀ piece ∈ (fieldWriting next field).pieces, IsWord piece :=
  field.kind.words_writing hname.packet next

theorem words_fieldReading {field : Field} (hname : IsWord field.name) (next : Nat) :
    ∀ piece ∈ (fieldReading next field).pieces, IsWord piece := by
  have hresult : IsWord (Name.temporary "result" next) := .temporary _ (by decide) next
  simp only [fieldReading, Code.pieces_append, Code.pieces_one, List.forall_mem_append]
  refine ⟨⟨words_guard field, field.kind.words_reading next⟩, ?_⟩
  simp [Statement.pieces, hname, hresult]

section InOrder

variable {emit : Field → Emit Code} {code : Nat → Field → Code} {names : Field → Nat}
variable {fields : List Field}

theorem words_inOrder
    (hcode : ∀ field ∈ fields, ∀ next, ∀ piece ∈ (code next field).pieces, IsWord piece)
    (next : Nat) : ∀ piece ∈ (inOrder code names next fields).pieces, IsWord piece := by
  induction fields generalizing next with
  | nil => simp [inOrder, Code.pieces]
  | cons field fields ih =>
      obtain ⟨hfield, hfields⟩ := List.forall_mem_cons.mp hcode
      rw [inOrder, Code.pieces_append, List.forall_mem_append]
      exact ⟨hfield next, ih hfields _⟩

theorem words_writing (hnames : ∀ field ∈ fields, Name.isIdentifier field.name = true)
    (next : Nat) : ∀ piece ∈ (writing next fields).pieces, IsWord piece :=
  words_inOrder (fun field hfield => words_fieldWriting (.of_isIdentifier (hnames field hfield)))
    next

theorem words_reading (hnames : ∀ field ∈ fields, Name.isIdentifier field.name = true)
    (next : Nat) : ∀ piece ∈ (reading next fields).pieces, IsWord piece :=
  words_inOrder (fun field hfield => words_fieldReading (.of_isIdentifier (hnames field hfield)))
    next

theorem fragment_ok_iff (hemit : EmitsWithinLimit emit code names) {context : Context}
    {block : Fragment} :
    (((Code.fragment · bodyDepth) <$> eachField emit fields) context).1 = .ok block ↔
      (∀ field ∈ fields, field.kind.depth ≤ context.limit) ∧
        block = (inOrder code names context.next fields).fragment bodyDepth := by
  rw [Emit.map_apply, ← nestingFault?_eq_none_iff context.message]
  cases hfault : fields.findSome? (Layout.fieldNestingFault? context.limit context.message) with
  | some fault =>
      rw [eachField_error hemit hfault]
      simp [Except.map]
  | none =>
      rw [eachField_ok hemit hfault]
      simp [Except.map, eq_comm]

end InOrder

/-- A block there is exactly when no field nests deeper than a limit, with its lines
indented by its braces and one level for the body of the function. -/
structure LaidOut (fields : List Field) (limit : Nat) (outcome : Except Fault Fragment) :
    Prop where
  emitted : (∃ block, outcome = .ok block) ↔ ∀ field ∈ fields, field.kind.depth ≤ limit
  nested : ∀ block, outcome = .ok block → Nested 1 0 block.render.toList 0

section LaidOut

variable {fields : List Field} {limit : Nat} {outcome : Except Fault Fragment} {code : Code}

theorem LaidOut.of_ok_iff (hpieces : ∀ piece ∈ code.pieces, IsWord piece)
    (hok : ∀ block, outcome = .ok block ↔
      (∀ field ∈ fields, field.kind.depth ≤ limit) ∧ block = code.fragment bodyDepth) :
    LaidOut fields limit outcome where
  emitted := by
    constructor
    · rintro ⟨block, hblock⟩
      exact ((hok block).mp hblock).1
    · intro hdepth
      exact ⟨_, (hok _).mpr ⟨hdepth, rfl⟩⟩
  nested block hblock := by
    obtain ⟨-, rfl⟩ := (hok block).mp hblock
    exact Code.nested_fragment hpieces bodyDepth

/-- The same block among others. -/
theorem LaidOut.of_blocks {blocks : Blocks} {result : Except Fault Blocks}
    (pick : Blocks → Fragment) (hpick : pick blocks = code.fragment bodyDepth)
    (hpieces : ∀ piece ∈ code.pieces, IsWord piece)
    (hok : ∀ found, result = .ok found ↔
      (∀ field ∈ fields, field.kind.depth ≤ limit) ∧ found = blocks) :
    LaidOut fields limit (result.map pick) := by
  refine .of_ok_iff hpieces fun block => ?_
  have hmap : result.map pick = .ok block ↔ ∃ found, result = .ok found ∧ pick found = block := by
    cases result <;> simp [Except.map]
  rw [hmap]
  constructor
  · rintro ⟨found, hfound, rfl⟩
    obtain ⟨hdepth, rfl⟩ := (hok found).mp hfound
    exact ⟨hdepth, hpick⟩
  · rintro ⟨hdepth, rfl⟩
    exact ⟨blocks, (hok blocks).mpr ⟨hdepth, rfl⟩, hpick⟩

end LaidOut

/-- The blocks of a message are indented by their braces, whether its fields are
written and read one by one or as those of a message. -/
theorem laidOut {fields : List Field}
    (hnames : ∀ field ∈ fields, Name.isIdentifier field.name = true) (context : Context) :
    LaidOut fields context.limit (writeBlock Table.full fields context).1 ∧
      LaidOut fields context.limit (readBlock Table.full fields context).1 ∧
      ∀ id name document,
        LaidOut fields context.limit
          ((ofMessage Table.full ⟨id, name, fields⟩ document context).1.map Blocks.write) ∧
        LaidOut fields context.limit
          ((ofMessage Table.full ⟨id, name, fields⟩ document context).1.map Blocks.read) := by
  have hwrite := words_writing hnames
  have hread := words_reading hnames
  refine ⟨?_, ?_, fun id name document => ⟨?_, ?_⟩⟩
  · rw [writeBlock_eq]
    exact .of_ok_iff (hwrite _) fun block => fragment_ok_iff writeField_full
  · rw [readBlock_eq]
    exact .of_ok_iff (hread _) fun block => fragment_ok_iff readField_full
  · exact .of_blocks write rfl (hwrite _) fun found => ofMessage_full_ok_iff
  · exact .of_blocks read rfl (hread _) fun found => ofMessage_full_ok_iff

/-- A map of lists beside a guarded set of packets. -/
theorem laidOut_mapOfLists :
    let fields : List Field :=
      [⟨"scores", "", .map (.scalar .string) (.sequence .list (.scalar .int)), false⟩,
        ⟨"friends", "", .sequence .set (.message 12), true⟩]
    ∃ write read, (writeBlock Table.full fields (.ofLimit 32)).1 = .ok write ∧
      (readBlock Table.full fields (.ofLimit 32)).1 = .ok read ∧
      Nested 1 0 write.render.toList 0 ∧ Nested 1 0 read.render.toList 0 := by
  intro fields
  have hnames : ∀ field ∈ fields, Name.isIdentifier field.name = true := by decide
  have hdepth : ∀ field ∈ fields, field.kind.depth ≤ (Context.ofLimit 32).limit := by
    decide +kernel
  obtain ⟨hwrites, hreads, -⟩ := laidOut hnames (.ofLimit 32)
  obtain ⟨write, hwrite⟩ := hwrites.emitted.mpr hdepth
  obtain ⟨read, hread⟩ := hreads.emitted.mpr hdepth
  exact ⟨write, read, hwrite, hread, hwrites.nested write hwrite, hreads.nested read hread⟩

end Blocks

end WireScript
