import WireScript.Proofs.Emission.Words

/-! # Names of a line

Lines of a listing take part in scoping through the names they introduce, the
words that stand before the introduction takes effect and those behind it. Each
line of write and read code is given its names here, together with the blocks it
closes and opens, and nothing later looks at its text again.
-/

namespace WireScript

/-- The words of the expression for an empty container. -/
def Container.freshWords : Container → List String
  | .array => []
  | .set => ["new", "Set"]
  | .map => ["new", "Map"]

namespace Listing

/-- The words of a line. Those in `before` are evaluated where the line stands,
those in `after` within the block it opens, if any; `introduced` are the names it
declares. -/
structure Names where
  before : List String
  introduced : List String
  after : List String
  deriving DecidableEq

/-- The names of a line. A constant is declared behind its keyword, a counter
behind the head of its loop, and a line that ends with an arrow declares the
parameters of its function. -/
def names (text : String) : Names :=
  let all := words text
  if begins "const " text then ⟨all.take 1, (all.drop 1).take 1, all.drop 2⟩
  else if begins "for (let " text then ⟨all.take 2, (all.drop 2).take 1, all.drop 3⟩
  else if ends " => \x7b" text then ⟨all.take 1, all.drop 1, []⟩
  else ⟨all, [], []⟩

/-- What a line does to blocks and names. -/
structure HasShape (text : String) (closing opening : Bool) (found : Names) : Prop where
  closes : closes text = closing
  opens : opens text = opening
  names : names text = found

theorem words_intercalate {values : List String} (hvalues : ∀ value ∈ values, IsWord value) :
    words (", ".intercalate values) = values := by
  induction values with
  | nil => rfl
  | cons value rest ih =>
      have hvalue := hvalues value List.mem_cons_self
      have hrest := ih (fun other hother => hvalues other (List.mem_cons_of_mem _ hother))
      cases rest with
      | nil => rw [String.intercalate_singleton, hvalue.words_eq]
      | cons next rest =>
          rw [String.intercalate_cons_cons,
            words_append (by simp +decide [parts]),
            words_append (by simp +decide [parts]), hvalue.words_eq, hrest]
          rfl

/-- A line that declares nothing. -/
theorem hasShape_plain {text : String} {closing opening : Bool} {found : List String}
    (hcloses : closes text = closing) (hopens : opens text = opening)
    (hconst : begins "const " text = false) (hcount : begins "for (let " text = false)
    (hfunction : ends " => \x7b" text = false) (hwords : words text = found) :
    HasShape text closing opening ⟨found, [], []⟩ := by
  refine ⟨hcloses, hopens, ?_⟩
  simp [names, hconst, hcount, hfunction, hwords]

/-- A statement whose first character is not that of a declaration. -/
theorem hasShape_statement (statement : Statement) {c : Char} {found : List String}
    (hhead : statement.text.toList.head? = some c) (hc : c ∉ ['\x7d', 'c', 'f'])
    (hwords : words statement.text = found) :
    HasShape statement.text false false ⟨found, [], []⟩ := by
  simp only [List.mem_cons, List.not_mem_nil, or_false, not_or] at hc
  obtain ⟨hbrace, hconst, hfor⟩ := hc
  apply hasShape_plain
  · exact begins_eq_false hhead (by simp [Ne.symm hbrace])
  · exact opens_text statement
  · exact begins_eq_false hhead (by simp [Ne.symm hconst])
  · exact begins_eq_false hhead (by simp [Ne.symm hfor])
  · exact ends_eq_false (getLast?_text statement) (by decide)
  · exact hwords

/-- A statement that declares a constant. -/
theorem hasShape_constant (statement : Statement) {name value : String} {found : List String}
    (htext : statement.text = "const " ++ name ++ " = " ++ value) (hname : IsWord name)
    (hvalue : words value = found) :
    HasShape statement.text false false ⟨["const"], [name], found⟩ := by
  have hall : words statement.text = "const" :: name :: found := by
    rw [htext]
    iterate 3 rw [words_append (by simp +decide [parts, List.getLast?_cons])]
    rw [hname.words_eq, hvalue]
    rfl
  refine ⟨?_, opens_text statement, ?_⟩
  · simp [htext, closes, begins, List.isPrefixOf]
  · have hconst : begins "const " statement.text = true := by
      simp [htext, begins, List.isPrefixOf]
    simp [names, hconst, hall]

section Read

theorem hasShape_read {name : String} (hname : IsWord name) {method : String}
    (hmethod : IsWord method) :
    HasShape (Statement.read name method).text false false
      ⟨["const"], [name], ["buffer." ++ method]⟩ := by
  apply hasShape_constant _ (Statement.text_read name method) hname
  rw [words_append (by simp +decide [parts, List.getLast?_cons]), hmethod.buffer.words_eq]
  rfl

theorem hasShape_readMessage {name : String} (hname : IsWord name) (id : ProtocolId) :
    HasShape (Statement.readMessage name id).text false false
      ⟨["const"], [name], ["buffer.readPacket", Text.decimal id.toNat]⟩ := by
  apply hasShape_constant _ (Statement.text_readMessage name id) hname
  iterate 2 rw [words_append (by simp +decide [parts, List.getLast?_cons])]
  rw [(IsWord.decimal _).words_eq]
  rfl

theorem hasShape_create {name : String} (hname : IsWord name) (container : Container) :
    HasShape (Statement.create name container).text false false
      ⟨["const"], [name], container.freshWords⟩ := by
  apply hasShape_constant _ (Statement.text_create name container) hname
  cases container <;> decide

theorem hasShape_positive {size : String} (hsize : IsWord size) :
    HasShape (Head.positive size).opening false true ⟨["if", size, "0"], [], []⟩ := by
  apply hasShape_plain
  · simp [Head.opening.eq_def, closes, begins, List.isPrefixOf]
  · simp [Head.opening.eq_def, opens, ends, List.isSuffixOf, List.isPrefixOf]
  · simp [Head.opening.eq_def, begins, List.isPrefixOf]
  · simp [Head.opening.eq_def, begins, List.isPrefixOf]
  · simp [Head.opening.eq_def, ends, List.isSuffixOf, List.isPrefixOf]
  · change words ("if (" ++ size ++ " > 0) \x7b") = _
    rw [words_append (by simp +decide [parts, List.getLast?_cons]),
      words_append (by simp +decide [parts, List.getLast?_cons]), hsize.words_eq]
    rfl

theorem hasShape_count {index size : String} (hindex : IsWord index) (hsize : IsWord size) :
    HasShape (Head.count index size).opening false true
      ⟨["for", "let"], [index], ["0", index, size, index]⟩ := by
  have hall : words (Head.count index size).opening =
      ["for", "let", index, "0", index, size, index] := by
    change words ("for (let " ++ index ++ " = 0; " ++ index ++ " < " ++ size ++ "; " ++ index ++
      "++) \x7b") = _
    -- the line has nine pieces, and no word reaches from one into the next
    iterate 8 rw [words_append (by simp +decide [parts, List.getLast?_cons])]
    rw [hindex.words_eq, hsize.words_eq]
    rfl
  refine ⟨?_, ?_, ?_⟩
  · simp [Head.opening.eq_def, closes, begins, List.isPrefixOf]
  · simp [Head.opening.eq_def, opens, ends, List.isSuffixOf, List.isPrefixOf]
  · have hconst : begins "const " (Head.count index size).opening = false := by
      simp [Head.opening.eq_def, begins, List.isPrefixOf]
    have hcount : begins "for (let " (Head.count index size).opening = true := by
      simp [Head.opening.eq_def, begins, List.isPrefixOf]
    simp [names, hconst, hcount, hall]

theorem hasShape_insert (number : Nat) (container : Container) {values : List String}
    (hvalues : ∀ value ∈ values, IsWord value) :
    HasShape (Statement.insert container (Name.temporary "result" number) values).text false false
      ⟨(Name.temporary "result" number ++ "." ++ container.method) :: values, [], []⟩ := by
  apply hasShape_statement _ (c := 'r')
  · simp [Statement.text.eq_def, Name.temporary]
  · decide
  · have hname : IsWord (Name.temporary "result" number) :=
      IsWord.temporary _ (by decide) number
    have hmethod : container.method.toList.all inWord = true := by
      cases container <;> decide
    have hcall : IsWord (Name.temporary "result" number ++ "." ++ container.method) :=
      (hname.append (by decide)).append hmethod
    have htext : (Statement.insert container (Name.temporary "result" number) values).text =
        Name.temporary "result" number ++ "." ++ container.method ++ "(" ++
          ", ".intercalate values ++ ");" := by
      simp only [Statement.text.eq_def]
    rw [htext]
    iterate 3 rw [words_append (by simp +decide [parts, List.getLast?_cons])]
    rw [hcall.words_eq, words_intercalate hvalues]
    simp [show words "(" = [] by decide, show words ");" = [] by decide]

theorem hasShape_assign {field value : String} (hfield : IsWord field) (hvalue : IsWord value) :
    HasShape (Statement.assign field value).text false false
      ⟨["packet." ++ field, value], [], []⟩ := by
  apply hasShape_statement _ (c := 'p')
  · simp [Statement.text.eq_def]
  · decide
  · have hpath : IsWord ("packet." ++ field) := hfield.packet
    have htext : (Statement.assign field value).text =
        "packet." ++ field ++ " = " ++ value ++ ";" := by
      simp only [Statement.text.eq_def]
    rw [htext]
    iterate 3 rw [words_append (by simp +decide [parts, List.getLast?_cons])]
    rw [hpath.words_eq, hvalue.words_eq]
    rfl

theorem hasShape_brace : HasShape "\x7d" true false ⟨[], [], []⟩ := by
  constructor <;> decide

theorem hasShape_exhausted :
    HasShape "if (!buffer.isReadable()) \x7b" false true
      ⟨["if", "buffer.isReadable"], [], []⟩ := by
  constructor <;> decide

theorem hasShape_leave :
    HasShape "return packet;" false false ⟨["return", "packet"], [], []⟩ := by
  constructor <;> decide

end Read

section Write

variable {source : String}

theorem hasShape_ifNull (hword : IsWord source) :
    HasShape ("if (" ++ source ++ " == null) \x7b") false true
      ⟨["if", source, "null"], [], []⟩ := by
  apply hasShape_plain
  · simp [closes, begins, List.isPrefixOf]
  · simp [opens, ends, List.isSuffixOf, List.isPrefixOf]
  · simp [begins, List.isPrefixOf]
  · simp [begins, List.isPrefixOf]
  · simp [ends, List.isSuffixOf, List.isPrefixOf]
  · iterate 2 rw [words_append (by simp +decide [parts, List.getLast?_cons])]
    rw [hword.words_eq]
    rfl

theorem hasShape_zero :
    HasShape "buffer.writeInt(0);" false false ⟨["buffer.writeInt", "0"], [], []⟩ := by
  constructor <;> decide

theorem hasShape_else : HasShape "\x7d else \x7b" true true ⟨["else"], [], []⟩ := by
  constructor <;> decide

theorem hasShape_bracket : HasShape "\x7d);" true false ⟨[], [], []⟩ := by
  constructor <;> decide

theorem hasShape_write (hword : IsWord source) {method : String} (hmethod : IsWord method) :
    HasShape (Statement.write method source).text false false
      ⟨["buffer." ++ method, source], [], []⟩ := by
  apply hasShape_statement _ (c := 'b')
  · simp [Statement.text.eq_def]
  · decide
  · have hcall : IsWord ("buffer." ++ method) := hmethod.buffer
    have htext : (Statement.write method source).text =
        "buffer." ++ method ++ "(" ++ source ++ ");" := by
      simp only [Statement.text.eq_def]
    rw [htext]
    iterate 3 rw [words_append (by simp +decide [parts, List.getLast?_cons])]
    rw [hcall.words_eq, hword.words_eq]
    rfl

theorem hasShape_writeMessage (hword : IsWord source) (id : ProtocolId) :
    HasShape (Statement.writeMessage source id).text false false
      ⟨["buffer.writePacket", source, Text.decimal id.toNat], [], []⟩ := by
  apply hasShape_statement _ (c := 'b')
  · simp [Statement.text.eq_def]
  · decide
  · have htext : (Statement.writeMessage source id).text =
        "buffer.writePacket(" ++ source ++ ", " ++ Text.decimal id.toNat ++ ");" := by
      simp only [Statement.text.eq_def]
    rw [htext]
    iterate 4 rw [words_append (by simp +decide [parts, List.getLast?_cons])]
    rw [hword.words_eq, (IsWord.decimal _).words_eq]
    rfl

theorem hasShape_writeCount (hword : IsWord source) {measure : String}
    (hmeasure : IsWord measure) :
    HasShape (Statement.writeCount source measure).text false false
      ⟨["buffer.writeInt", source ++ "." ++ measure], [], []⟩ := by
  apply hasShape_statement _ (c := 'b')
  · simp [Statement.text.eq_def]
  · decide
  · have hpath : IsWord (source ++ "." ++ measure) :=
      (hword.append (by decide)).append hmeasure.inWord
    have htext : (Statement.writeCount source measure).text =
        "buffer.writeInt(" ++ (source ++ "." ++ measure) ++ ");" := by
      simp only [Statement.text.eq_def, String.append_assoc]
    rw [htext]
    iterate 2 rw [words_append (by simp +decide [parts, List.getLast?_cons])]
    rw [hpath.words_eq]
    rfl

theorem words_parameterText {parameters : List String}
    (hparameters : ∀ parameter ∈ parameters, IsWord parameter) :
    words (Head.parameterText parameters) = parameters := by
  unfold Head.parameterText
  split
  next parameter => exact (hparameters parameter (by simp)).words_eq
  next =>
    iterate 2 rw [words_append (by simp +decide [parts, List.getLast?_cons])]
    rw [words_intercalate hparameters]
    simp [show words "(" = [] by decide, show words ")" = [] by decide]

theorem hasShape_each (hsource : IsSource source) (hword : IsWord source)
    {parameters : List String} (hparameters : ∀ parameter ∈ parameters, IsWord parameter) :
    HasShape (Head.each source parameters).opening false true
      ⟨[source ++ ".forEach"], parameters, []⟩ := by
  have htext : (Head.each source parameters).opening =
      source ++ ".forEach" ++ ("(" ++ Head.parameterText parameters ++ " => \x7b") := by
    simp only [Head.opening.eq_def, String.append_assoc]
    rfl
  have hbegins (start : String)
      (hstart : start.toList.head?.any (fun c => !(['p', 'e', 'k', 'v'].contains c)) = true) :
      begins start (Head.each source parameters).opening = false := by
    rw [Head.opening_each]
    exact hsource.not_begins hstart _
  have hall : words (Head.each source parameters).opening =
      (source ++ ".forEach") :: parameters := by
    have hcall : IsWord (source ++ ".forEach") := hword.append (by decide)
    rw [htext, words_append (by simp +decide [parts, List.getLast?_cons]),
      hcall.words_eq]
    iterate 2 rw [words_append (by simp +decide [parts, List.getLast?_cons])]
    rw [words_parameterText hparameters]
    simp [show words "(" = [] by decide, show words " => \x7b" = [] by decide]
  have hends : ends " => \x7b" (Head.each source parameters).opening = true := by
    simp [ends, Head.opening.eq_def, List.isSuffixOf, List.isPrefixOf]
  refine ⟨hbegins _ (by decide), ?_, ?_⟩
  · simp [Head.opening.eq_def, opens, ends, List.isSuffixOf, List.isPrefixOf]
  · simp [names, hbegins, hends, hall]

end Write

end Listing

end WireScript
