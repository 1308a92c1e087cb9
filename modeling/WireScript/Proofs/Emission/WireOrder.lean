import WireScript.Proofs.Emission.Listing

/-! # The order of values on the wire

A write block and a read block of one message must call the buffer in the same
order, or every value after the first difference is misread. Here the calls are
found in the text of the blocks, with the number of loops around each, and both
blocks are shown to list `Kind.wire` of the fields.
-/

namespace WireScript

/-- A value that crosses the buffer: what the method's name says after its verb,
and the number of the message for a packet. -/
structure WireCall where
  value : String
  id : String
  deriving DecidableEq

namespace Listing

/-- The last run of digits of a text. -/
def lastNumber (text : List Char) : String :=
  String.ofList ((text.reverse.dropWhile (!·.isDigit)).takeWhile Char.isDigit).reverse

/-- The expression a line evaluates: what a constant is set to, or the line. -/
def expression (text : String) : List Char :=
  if begins "const " text then (text.toList.dropWhile (· != '=')).drop 2 else text.toList

/-- The call of the buffer in a line whose method starts with a verb. The zero
that stands for a missing container is left out. -/
def call? (verb text : String) : Option WireCall :=
  let start := ("buffer." ++ verb).toList
  if text != "buffer.writeInt(0);" && start.isPrefixOf (expression text) then
    let rest := (expression text).drop start.length
    let value := String.ofList (rest.takeWhile (· != '('))
    some ⟨value, if value = "Packet" then lastNumber rest else ""⟩
  else none

/-- The calls in a listing, each with the number of loops around it. `opened`
says of every open block, innermost first, whether it is the body of a loop. -/
def calls (verb : String) : List Bool → List String → List (WireCall × Nat)
  | _, [] => []
  | opened, text :: rest =>
      let outer := if closes text then opened.tail else opened
      let inner := if opens text then loops text :: outer else outer
      ((call? verb text).map (·, outer.count true)).toList ++ calls verb inner rest

end Listing

/-- The values of a kind on the wire within some loops: a size before the
elements of a container, a key before its value. -/
def Kind.wire (around : Nat) : Kind → List (WireCall × Nat)
  | .scalar s => [(⟨s.methodName, ""⟩, around)]
  | .sequence _ element => (⟨"Int", ""⟩, around) :: element.wire (around + 1)
  | .map key value => (⟨"Int", ""⟩, around) :: (key.wire (around + 1) ++ value.wire (around + 1))
  | .message id => [(⟨"Packet", Text.decimal id.toNat⟩, around)]

namespace Listing

variable {verb : String} {opened : List Bool} {text : String} {rest : List String}

theorem calls_statement (statement : Statement) (hcloses : closes statement.text = false) :
    calls verb opened (statement.text :: rest) =
      ((call? verb statement.text).map (·, opened.count true)).toList ++
        calls verb opened rest := by
  simp [calls, hcloses, opens_text]

theorem calls_opening (hcloses : closes text = false) (hopens : opens text = true)
    (hcall : call? verb text = none) :
    calls verb opened (text :: rest) = calls verb (loops text :: opened) rest := by
  simp [calls, hcloses, hopens, hcall]

theorem calls_closing (hcloses : closes text = true) (hopens : opens text = false)
    (hcall : call? verb text = none) :
    calls verb opened (text :: rest) = calls verb opened.tail rest := by
  simp [calls, hcloses, hopens, hcall]

theorem lastNumber_eq (before : List Char) (mark : Char) {digits after : List Char}
    (hmark : mark.isDigit = false) (hdigits : ∀ c ∈ digits, c.isDigit = true)
    (hsome : digits ≠ []) (hafter : after.all (!·.isDigit) = true) :
    lastNumber (before ++ mark :: (digits ++ after)) = String.ofList digits := by
  have hskip : (after.reverse ++ (digits.reverse ++ mark :: before.reverse)).dropWhile
      (!·.isDigit) = digits.reverse ++ mark :: before.reverse := by
    rw [List.dropWhile_append_of_pos (by simpa using hafter)]
    cases hrev : digits.reverse with
    | nil => exact absurd (List.reverse_eq_nil_iff.mp hrev) hsome
    | cons c rest =>
        have hc : c.isDigit = true := hdigits c (by
          rw [← List.mem_reverse, hrev]; exact List.mem_cons_self)
        simp [hc]
  have htake : (digits.reverse ++ mark :: before.reverse).takeWhile Char.isDigit =
      digits.reverse := by
    rw [List.takeWhile_append_of_pos (by simpa using hdigits)]
    simp [hmark]
  simp [lastNumber, hskip, htake]

/-- The number of a call is read back from between a mark and the end of the
arguments. -/
theorem lastNumber_decimal (before : List Char) (mark : Char) (number : Nat)
    (hmark : mark.isDigit = false) :
    lastNumber (before ++ mark :: ((Text.decimal number).toList ++ [')', ';'])) =
      Text.decimal number := by
  rw [lastNumber_eq before mark hmark (fun c hc => Text.isDigit_of_mem_decimal hc)
    (Text.decimal_ne_nil _) (by decide), String.ofList_toList]

/-- A line whose expression is a call of the buffer. -/
theorem call?_eq (verb : String) (value args : List Char)
    (hexpression : expression text = ("buffer." ++ verb).toList ++ (value ++ '(' :: args))
    (hvalue : value.all (· != '(') = true) (hzero : text ≠ "buffer.writeInt(0);") :
    call? verb text = some ⟨String.ofList value,
      if String.ofList value = "Packet" then lastNumber (value ++ '(' :: args) else ""⟩ := by
  have htake : (value ++ '(' :: args).takeWhile (· != '(') = value := by
    rw [List.takeWhile_append_of_pos (List.all_eq_true.mp hvalue)]
    simp
  have hbegins : ("buffer." ++ verb).toList.isPrefixOf
      (("buffer." ++ verb).toList ++ (value ++ '(' :: args)) = true := by
    simp
  simp only [call?, hexpression, hbegins, List.drop_left, htake, bne_iff_ne.mpr hzero,
    Bool.and_self, if_true]

/-- The call for a scalar has no number. -/
theorem call?_scalar (s : Scalar) (args : List Char)
    (hexpression : expression text =
      ("buffer." ++ verb).toList ++ (s.methodName.toList ++ '(' :: args))
    (hzero : text ≠ "buffer.writeInt(0);") : call? verb text = some ⟨s.methodName, ""⟩ := by
  have hname : s.methodName.toList.all (· != '(') = true := by cases s <;> decide
  have hpacket : s.methodName ≠ "Packet" := by cases s <;> decide
  rw [call?_eq verb _ args hexpression hname hzero, String.ofList_toList, if_neg hpacket]

theorem call?_eq_none (hconst : begins "const " text = false)
    (hbuffer : begins ("buffer." ++ verb) text = false) : call? verb text = none := by
  have hexpression : expression text = text.toList := by
    rw [expression, hconst]
    rfl
  rw [begins] at hbuffer
  simp only [call?, hexpression, hbuffer, Bool.and_false]
  rfl

theorem calls_brace : calls verb opened ("\x7d" :: rest) = calls verb opened.tail rest := by
  rw [calls_closing]
  · decide
  · decide
  · simp [call?, expression, begins, List.isPrefixOf]

theorem calls_bracket : calls verb opened ("\x7d);" :: rest) = calls verb opened.tail rest := by
  rw [calls_closing]
  · decide
  · decide
  · simp [call?, expression, begins, List.isPrefixOf]

section Write

variable {source : String}

theorem calls_write (hsource : IsSource source) (s : Scalar) :
    calls "write" opened ((Statement.write ("write" ++ s.methodName) source).text :: rest) =
      (⟨s.methodName, ""⟩, opened.count true) :: calls "write" opened rest := by
  obtain ⟨first, tail, hfirst, hmem⟩ := hsource.head
  have hdigit : first ≠ '0' := fun heq => absurd (heq ▸ hmem) (by decide)
  have hzero : (Statement.write ("write" ++ s.methodName) source).text ≠
      "buffer.writeInt(0);" := by
    intro heq
    have hlist := congrArg String.toList heq
    cases s <;> simp [Statement.text.eq_def, Scalar.methodName, hfirst, hdigit] at hlist
  have hexpression : expression (Statement.write ("write" ++ s.methodName) source).text =
      ("buffer." ++ "write").toList ++
        (s.methodName.toList ++ '(' :: (source.toList ++ [')', ';'])) := by
    simp [Statement.text.eq_def, expression, begins, List.isPrefixOf]
  rw [calls_statement, call?_scalar s _ hexpression hzero]
  · rfl
  · simp [Statement.text.eq_def, closes, begins, List.isPrefixOf]

theorem calls_writeMessage (id : ProtocolId) :
    calls "write" opened ((Statement.writeMessage source id).text :: rest) =
      (⟨"Packet", Text.decimal id.toNat⟩, opened.count true) :: calls "write" opened rest := by
  have hzero : (Statement.writeMessage source id).text ≠ "buffer.writeInt(0);" := by
    intro heq
    simpa [Statement.text.eq_def] using congrArg String.toList heq
  have hcall := call?_eq "write" "Packet".toList
    (source.toList ++ ',' :: ' ' :: ((Text.decimal id.toNat).toList ++ [')', ';']))
    (by simp [Statement.text.eq_def, expression, begins, List.isPrefixOf])
    (by decide) hzero
  have hid := lastNumber_decimal ("Packet(".toList ++ source.toList ++ [',']) ' ' id.toNat
    (by decide)
  rw [calls_statement]
  · simp only [List.append_assoc, List.cons_append, List.nil_append] at hid
    simpa [hcall] using hid
  · simp [Statement.text.eq_def, closes, begins, List.isPrefixOf]

theorem calls_writeCount (hsource : IsSource source) (measure : String) :
    calls "write" opened ((Statement.writeCount source measure).text :: rest) =
      (⟨"Int", ""⟩, opened.count true) :: calls "write" opened rest := by
  obtain ⟨first, tail, hfirst, hmem⟩ := hsource.head
  have hdigit : first ≠ '0' := fun heq => absurd (heq ▸ hmem) (by decide)
  have hzero : (Statement.writeCount source measure).text ≠ "buffer.writeInt(0);" := by
    intro heq
    have hlist := congrArg String.toList heq
    simp [Statement.text.eq_def, hfirst, hdigit] at hlist
  have hcall := call?_eq "write" "Int".toList
    (source.toList ++ '.' :: (measure.toList ++ [')', ';']))
    (by simp [Statement.text.eq_def, expression, begins, List.isPrefixOf])
    (by decide) hzero
  rw [calls_statement]
  · simp [hcall]
  · simp [Statement.text.eq_def, closes, begins, List.isPrefixOf]

theorem calls_each (hsource : IsSource source) (parameters : List String) :
    calls "write" opened ((Head.each source parameters).opening :: rest) =
      calls "write" (true :: opened) rest := by
  rw [calls_opening]
  · simp [loops, ends, Head.opening.eq_def, List.isSuffixOf, List.isPrefixOf]
  · rw [Head.opening_each]
    exact hsource.not_begins (by decide) _
  · simp [opens, ends, Head.opening.eq_def, List.isSuffixOf, List.isPrefixOf]
  · rw [Head.opening_each]
    exact call?_eq_none (hsource.not_begins (by decide) _) (hsource.not_begins (by decide) _)

theorem calls_ifNull :
    calls verb opened (("if (" ++ source ++ " == null) \x7b") :: rest) =
      calls verb (false :: opened) rest := by
  rw [calls_opening]
  · simp [loops, begins, ends, List.isPrefixOf, List.isSuffixOf]
  · simp [closes, begins, List.isPrefixOf]
  · simp [opens, ends, List.isPrefixOf, List.isSuffixOf]
  · simp [call?, expression, begins, List.isPrefixOf]

theorem calls_absent :
    calls verb (false :: opened) ("buffer.writeInt(0);" :: "\x7d else \x7b" :: rest) =
      calls verb (false :: opened) rest := by
  have hzero : call? verb "buffer.writeInt(0);" = none := by simp [call?]
  have helse : call? verb "\x7d else \x7b" = none := by
    simp [call?, expression, begins, List.isPrefixOf]
  have hloops : loops "\x7d else \x7b" = false := by decide
  have hcloses : closes "\x7d else \x7b" = true := by decide
  have hopens : opens "\x7d else \x7b" = true := by decide
  rw [show "buffer.writeInt(0);" = Statement.text .writeZero by rfl] at hzero ⊢
  rw [calls_statement _ (by decide), hzero]
  simp [calls, hcloses, hopens, hloops, helse]

/-- Writing a container calls the buffer for its size, and then within one more
loop for its entries. -/
theorem calls_writeContainer (hsource : IsSource source) (measure : String)
    (parameters : List String) (body : Code) :
    calls "write" opened
      ((Strategy.writeContainer source measure parameters body).texts ++ rest) =
      (⟨"Int", ""⟩, opened.count true) :: calls "write" (true :: false :: opened)
        (body.texts ++ "\x7d);" :: "\x7d" :: rest) := by
  rw [Code.texts_writeContainer]
  simp only [List.cons_append, List.append_assoc, List.nil_append]
  rw [calls_ifNull, calls_absent, calls_writeCount hsource, calls_each hsource]
  simp

/-- The calls of code that writes a kind, whatever stands around and behind it. -/
theorem calls_writing (kind : Kind) (hsource : IsSource source) (next : Nat) :
    calls "write" opened ((kind.writing source next).texts ++ rest) =
      kind.wire (opened.count true) ++ calls "write" opened rest := by
  induction kind generalizing source next opened rest with
  | scalar s =>
      rw [Kind.writing, Code.texts_one, List.singleton_append, calls_write hsource]
      rfl
  | message id =>
      rw [Kind.writing, Code.texts_one, List.singleton_append, calls_writeMessage]
      rfl
  | sequence collection element ih =>
      rw [Kind.writing, calls_writeContainer hsource, ih (.entry (by decide) _), calls_bracket,
        calls_brace]
      simp [Kind.wire]
  | map key value ihKey ihValue =>
      rw [Kind.writing, calls_writeContainer hsource, Code.texts_append, List.append_assoc,
        ihKey (.entry (by decide) _), ihValue (.entry (by decide) _), calls_bracket, calls_brace]
      simp [Kind.wire]

end Write

section Read

/-- What a constant is set to follows the first equals sign of its line. -/
theorem expression_constant {stem : String} (hstem : '=' ∉ stem.toList) (number : Nat)
    (value : String) :
    expression ("const " ++ Name.temporary stem number ++ " = " ++ value) = value.toList := by
  have hname : ∀ c ∈ (Name.temporary stem number).toList, (c != '=') = true := by
    intro c hc
    rcases Name.mem_temporary hc with hmem | hdigit
    · exact bne_iff_ne.mpr (fun heq => hstem (heq ▸ hmem))
    · exact bne_iff_ne.mpr (fun heq => by rw [heq] at hdigit; cases hdigit)
  have hbegins : begins "const " ("const " ++ Name.temporary stem number ++ " = " ++ value) =
      true := by
    simp [begins, List.isPrefixOf]
  have hdrop : ((Name.temporary stem number).toList ++ ' ' :: '=' :: ' ' :: value.toList).dropWhile
      (· != '=') = '=' :: ' ' :: value.toList := by
    rw [List.dropWhile_append_of_pos hname]
    simp
  rw [expression, hbegins]
  simp [hdrop]

theorem calls_read {stem : String} (hstem : '=' ∉ stem.toList) (number : Nat) (s : Scalar) :
    calls "read" opened
      ((Statement.read (Name.temporary stem number) ("read" ++ s.methodName)).text :: rest) =
      (⟨s.methodName, ""⟩, opened.count true) :: calls "read" opened rest := by
  have hzero : (Statement.read (Name.temporary stem number) ("read" ++ s.methodName)).text ≠
      "buffer.writeInt(0);" := by
    intro heq
    simpa [Statement.text.eq_def] using congrArg String.toList heq
  have hexpression : expression
      (Statement.read (Name.temporary stem number) ("read" ++ s.methodName)).text =
        ("buffer." ++ "read").toList ++ (s.methodName.toList ++ '(' :: [')', ';']) := by
    rw [Statement.text_read, expression_constant hstem]
    simp
  rw [calls_statement, call?_scalar s _ hexpression hzero]
  · rfl
  · simp [Statement.text_read, closes, begins, List.isPrefixOf]

theorem calls_readMessage (number : Nat) (id : ProtocolId) :
    calls "read" opened
      ((Statement.readMessage (Name.temporary "result" number) id).text :: rest) =
      (⟨"Packet", Text.decimal id.toNat⟩, opened.count true) :: calls "read" opened rest := by
  have hzero : (Statement.readMessage (Name.temporary "result" number) id).text ≠
      "buffer.writeInt(0);" := by
    intro heq
    simpa [Statement.text.eq_def] using congrArg String.toList heq
  have hcall := call?_eq "read" "Packet".toList ((Text.decimal id.toNat).toList ++ [')', ';'])
    (by rw [Statement.text_readMessage, expression_constant (by decide)]; simp) (by decide) hzero
  have hid := lastNumber_decimal "Packet".toList '(' id.toNat (by decide)
  rw [calls_statement]
  · simpa [hcall] using hid
  · simp [Statement.text_readMessage, closes, begins, List.isPrefixOf]

theorem calls_create (number : Nat) (container : Container) :
    calls "read" opened
      ((Statement.create (Name.temporary "result" number) container).text :: rest) =
      calls "read" opened rest := by
  have hcall : call? "read" (Statement.create (Name.temporary "result" number) container).text =
      none := by
    simp only [call?, Statement.text_create,
      expression_constant (show '=' ∉ "result".toList by decide)]
    cases container <;> simp [Container.fresh, List.isPrefixOf]
  rw [calls_statement, hcall]
  · rfl
  · simp [Statement.text_create, closes, begins, List.isPrefixOf]

theorem calls_insert (container : Container) (number : Nat) (values : List String) :
    calls "read" opened
      ((Statement.insert container (Name.temporary "result" number) values).text :: rest) =
      calls "read" opened rest := by
  rw [calls_statement, call?_eq_none]
  · rfl
  all_goals simp [Statement.text.eq_def, Name.temporary, closes, begins, List.isPrefixOf]

theorem calls_assign (field value : String) :
    calls "read" opened ((Statement.assign field value).text :: rest) =
      calls "read" opened rest := by
  rw [calls_statement, call?_eq_none]
  · rfl
  all_goals simp [Statement.text.eq_def, closes, begins, List.isPrefixOf]

theorem calls_positive (size : String) :
    calls "read" opened ((Head.positive size).opening :: rest) =
      calls "read" (false :: opened) rest := by
  rw [calls_opening, loops_positive]
  · simp [Head.opening.eq_def, closes, begins, List.isPrefixOf]
  · simp [Head.opening.eq_def, opens, ends, List.isSuffixOf, List.isPrefixOf]
  · exact call?_eq_none (by simp [Head.opening.eq_def, begins, List.isPrefixOf])
      (by simp [Head.opening.eq_def, begins, List.isPrefixOf])

theorem calls_count (index size : String) :
    calls "read" opened ((Head.count index size).opening :: rest) =
      calls "read" (true :: opened) rest := by
  rw [calls_opening, loops_count]
  · simp [Head.opening.eq_def, closes, begins, List.isPrefixOf]
  · simp [Head.opening.eq_def, opens, ends, List.isSuffixOf, List.isPrefixOf]
  · exact call?_eq_none (by simp [Head.opening.eq_def, begins, List.isPrefixOf])
      (by simp [Head.opening.eq_def, begins, List.isPrefixOf])

theorem calls_guard (field : Field) :
    calls "read" opened ((Blocks.guard field).texts ++ rest) = calls "read" opened rest := by
  rw [Code.texts_guard]
  split
  next =>
    simp only [List.cons_append, List.nil_append]
    rw [calls_opening (by decide) (by decide) (call?_eq_none (by decide) (by decide)),
      show "return packet;" = Statement.text .leave by rfl, calls_statement _ (by decide),
      call?_eq_none (by decide) (by decide), calls_brace]
    rfl
  next => rfl

/-- Reading a container calls the buffer for its size, and then within one more
loop for its entries. -/
theorem calls_readContainer (number : Nat) (container : Container) (body : Code) :
    calls "read" opened
      ((Strategy.readContainer (.one (.create (Name.temporary "result" number) container))
        (Name.temporary "size" (number + 1)) (Name.temporary "index" (number + 2)) body).texts ++
          rest) =
      (⟨"Int", ""⟩, opened.count true) :: calls "read" (true :: false :: opened)
        (body.texts ++ "\x7d" :: "\x7d" :: rest) := by
  rw [Code.texts_readContainer]
  simp only [List.cons_append, List.append_assoc, List.nil_append]
  rw [calls_create]
  have hsize : '=' ∉ "size".toList := by decide
  refine (calls_read hsize (number + 1) .int).trans ?_
  rw [calls_positive, calls_count]
  rfl

/-- The calls of code that reads a kind, whatever stands around and behind it. -/
theorem calls_reading (kind : Kind) (next : Nat) :
    calls "read" opened ((kind.reading next).texts ++ rest) =
      kind.wire (opened.count true) ++ calls "read" opened rest := by
  induction kind generalizing next opened rest with
  | scalar s =>
      rw [Kind.reading, Code.texts_one, List.singleton_append, calls_read (by decide)]
      rfl
  | message id =>
      rw [Kind.reading, Code.texts_one, List.singleton_append, calls_readMessage]
      rfl
  | sequence collection element ih =>
      rw [Kind.reading, calls_readContainer, Code.texts_append, List.append_assoc, ih,
        Code.texts_one, List.singleton_append, calls_insert, calls_brace, calls_brace]
      simp [Kind.wire]
  | map key value ihKey ihValue =>
      rw [Kind.reading, calls_readContainer, Code.texts_append, Code.texts_append,
        List.append_assoc, List.append_assoc, ihKey, ihValue, Code.texts_one,
        List.singleton_append, calls_insert, calls_brace, calls_brace]
      simp [Kind.wire]

end Read

theorem calls_writeBlock (fields : List Field) (next : Nat) :
    calls "write" [] (Blocks.writing next fields).texts =
      fields.flatMap (fun field => field.kind.wire 0) := by
  induction fields generalizing next with
  | nil => rfl
  | cons field fields ih =>
      rw [Blocks.writing, Blocks.inOrder, Code.texts_append, Blocks.fieldWriting,
        calls_writing _ (.field _), List.flatMap_cons]
      exact congrArg _ (ih _)

theorem calls_readBlock (fields : List Field) (next : Nat) :
    calls "read" [] (Blocks.reading next fields).texts =
      fields.flatMap (fun field => field.kind.wire 0) := by
  induction fields generalizing next with
  | nil => rfl
  | cons field fields ih =>
      rw [Blocks.reading, Blocks.inOrder, Code.texts_append, Blocks.fieldReading,
        Code.texts_append, Code.texts_append, List.append_assoc, List.append_assoc, calls_guard,
        calls_reading, Code.texts_one, List.singleton_append, calls_assign, List.flatMap_cons]
      exact congrArg _ (ih _)

end Listing

/-- The write block and the read block of a message call the buffer for the same
values in the same order, each within as many loops, whatever the kinds of the
fields. -/
theorem Blocks.writeCalls_eq_readCalls {message : Message} {document : Document}
    {context : Context} {blocks : Blocks}
    (hblocks : (ofMessage Table.full message document context).1 = .ok blocks) :
    Listing.calls "write" [] blocks.write.statements =
        Listing.calls "read" [] blocks.read.statements ∧
      Listing.calls "write" [] blocks.write.statements =
        message.fields.flatMap (fun field => field.kind.wire 0) := by
  obtain ⟨_, rfl⟩ := ofMessage_full_ok_iff.mp hblocks
  simp only [plain, Code.statements_fragment, Listing.calls_writeBlock, Listing.calls_readBlock,
    and_self]

/-- A map of lists beside a set of packets. -/
theorem Blocks.writeCalls_eq_readCalls_nested :
    let message : Message := ⟨7, "Player",
      [⟨"scores", "", .map (.scalar .string) (.sequence .list (.scalar .int)), false⟩,
        ⟨"friends", "", .sequence .set (.message 12), true⟩]⟩
    ∃ blocks, (ofMessage Table.full message .empty (.ofLimit 32)).1 = .ok blocks ∧
      Listing.calls "write" [] blocks.write.statements =
        Listing.calls "read" [] blocks.read.statements ∧
      Listing.calls "read" [] blocks.read.statements =
        [(⟨"Int", ""⟩, 0), (⟨"String", ""⟩, 1), (⟨"Int", ""⟩, 1), (⟨"Int", ""⟩, 2),
          (⟨"Int", ""⟩, 0), (⟨"Packet", "12"⟩, 1)] := by
  intro message
  have hblocks : (ofMessage Table.full message .empty (.ofLimit 32)).1 =
      .ok (plain message .empty) :=
    ofMessage_full_ok_iff.mpr ⟨by decide +kernel, rfl⟩
  have hcalls := writeCalls_eq_readCalls hblocks
  refine ⟨plain message .empty, hblocks, hcalls.1, hcalls.1.symm.trans (hcalls.2.trans ?_)⟩
  decide

end WireScript
