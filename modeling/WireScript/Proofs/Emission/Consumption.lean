import WireScript.Proofs.Emission.Names

/-! # Consumption of results

Read code keeps every value it reads or builds under a name, and hands it on
once: an entry to the container of the loop around it, the value of a field to
the packet. A listing is scanned with the results of every open block that still
wait for this, and a block is closed only when none of them is left.
-/

namespace WireScript.Listing

/-- Whether a word is the name of a result. -/
def isResult (word : String) : Bool := Name.isNumberedStem word.toList "result".toList

/-- The results a line introduces. -/
def results (text : String) : List String := (names text).introduced.filter isResult

/-- The results a line mentions as words of their own, from left to right. The
receiver of a call is no word of its own. -/
def consumed (text : String) : List String :=
  ((names text).before ++ (names text).after).filter isResult

/-- Whether a line builds an empty container. -/
def builds (text : String) : Bool :=
  (names text).introduced.any (fun name => ["[]", "new Set()", "new Map()"].any (fun value =>
    text == "const " ++ name ++ " = " ++ value ++ ";"))

/-- An open block of read code: the container its entries go to, for the body of
a loop; the container built last, if nothing was read since; and the results that
wait to be consumed. -/
structure Frame where
  fills : Option String
  built : Option String
  waiting : List String
  deriving DecidableEq

namespace Frame

/-- The frame of a listing that has not begun. -/
def empty : Frame := ⟨none, none, []⟩

/-- The frame of a block opened in this one. A loop fills the container built
last; in another block the loop may still follow. -/
def opened (frame : Frame) (loop : Bool) : Frame :=
  if loop then ⟨frame.built, none, []⟩ else ⟨none, frame.built, []⟩

/-- The frame behind a line that introduces a result. -/
def introduce (frame : Frame) (result : String) (container : Bool) : Frame :=
  { frame with
    built := if container then some result else none
    waiting := frame.waiting ++ [result] }

end Frame

/-- The lines that add values to a container. A map takes a key and its value. -/
def insertions (container : String) : List String → List String
  | [value] => [container ++ ".push(" ++ value ++ ");", container ++ ".add(" ++ value ++ ");"]
  | [key, value] => [container ++ ".set(" ++ key ++ ", " ++ value ++ ");"]
  | _ => []

/-- Take the results that wait in a block: within a loop into the container it
fills, and outside every block into the next field. The fields left to be
assigned are returned. -/
def take? (fields : List String) (frame : Frame) (outer : List Frame) (text : String) :
    Option (List String) :=
  match outer, frame.fills, frame.waiting, fields with
  | [], _, [value], field :: rest =>
      if text = "packet." ++ field ++ " = " ++ value ++ ";" then some rest else none
  | _ :: _, some container, waiting, fields =>
      if text ∈ insertions container waiting then some fields else none
  | _, _, _, _ => none

/-- Pass a line of read code, given the fields still to be assigned and the open
blocks. A line introduces one result, or consumes exactly those that wait, in
their order, or has nothing to do with results. -/
def settle : List String × List Frame → String → Option (List String × List Frame)
  | (_, []), _ => none
  | (fields, frame :: outer), text =>
      match closes text, opens text, results text, consumed text with
      | true, false, [], [] => if frame.waiting = [] then some (fields, outer) else none
      | false, true, [], [] => some (fields, frame.opened (loops text) :: frame :: outer)
      | false, false, [], [] => some (fields, frame :: outer)
      | false, false, [result], [] =>
          some (fields, frame.introduce result (builds text) :: outer)
      | false, false, [], values =>
          if values = frame.waiting then
            (take? fields frame outer text).map (·, { frame with waiting := [] } :: outer)
          else none
      | _, _, _, _ => none

/-- Whether read code assigns some fields in order, and every result it
introduces is consumed in the block it is introduced in. -/
def Settled (fields : List String) (lines : List String) : Prop :=
  ∃ built, lines.foldlM settle (fields, [.empty]) = some ([], [⟨none, built, []⟩])

/-- The results that wait in open blocks. -/
def waiting (frames : List Frame) : List String := frames.flatMap Frame.waiting

/-- A line adds to the waiting results what it introduces and takes what it
consumes. -/
theorem settle_perm {fields rest : List String} {frames after : List Frame} {text : String}
    (hsettle : settle (fields, frames) text = some (rest, after)) :
    (consumed text ++ waiting after).Perm (waiting frames ++ results text) := by
  cases frames with
  | nil => cases hsettle
  | cons frame outer =>
      simp only [settle] at hsettle
      split at hsettle
      -- a block is closed, and nothing waits in it
      next hresults hconsumed =>
        split at hsettle
        next hwaiting =>
          obtain ⟨rfl, rfl⟩ := Prod.mk.inj (Option.some.inj hsettle)
          simp [hresults, hconsumed, waiting, hwaiting]
        next => cases hsettle
      -- a block is opened, and nothing waits in it yet
      next hresults hconsumed =>
        obtain ⟨rfl, rfl⟩ := Prod.mk.inj (Option.some.inj hsettle)
        have hopened : (frame.opened (loops text)).waiting = [] := by
          unfold Frame.opened
          split <;> rfl
        simp [hresults, hconsumed, waiting, hopened]
      next hresults hconsumed =>
        obtain ⟨rfl, rfl⟩ := Prod.mk.inj (Option.some.inj hsettle)
        simp [hresults, hconsumed]
      -- a result joins those that wait in the innermost block
      next result hresults hconsumed =>
        obtain ⟨rfl, rfl⟩ := Prod.mk.inj (Option.some.inj hsettle)
        rw [hresults, hconsumed]
        simp only [waiting, Frame.introduce, List.flatMap_cons, List.nil_append, List.append_assoc]
        exact List.perm_append_comm.append_left _
      -- all that waits in the innermost block is consumed
      next values hresults hconsumed =>
        split at hsettle
        next hvalues =>
          obtain ⟨remaining, -, hfinal⟩ := Option.map_eq_some_iff.mp hsettle
          obtain ⟨rfl, rfl⟩ := Prod.mk.inj hfinal
          simp [hresults, hvalues, waiting]
        next => cases hsettle
      next => cases hsettle

/-- A listing that is scanned consumes what waited before it and what it
introduces, apart from what still waits behind it. -/
theorem foldlM_settle_perm {lines fields rest : List String} {frames after : List Frame}
    (hlines : lines.foldlM settle (fields, frames) = some (rest, after)) :
    (lines.flatMap consumed ++ waiting after).Perm (waiting frames ++ lines.flatMap results) := by
  induction lines generalizing fields frames with
  | nil =>
      obtain ⟨rfl, rfl⟩ := Prod.mk.inj (Option.some.inj hlines)
      simp
  | cons text lines ih =>
      rw [List.foldlM_cons] at hlines
      obtain ⟨⟨others, middle⟩, hline, hlines⟩ := Option.bind_eq_some_iff.mp hlines
      have hfirst := settle_perm hline
      have hothers := ih hlines
      rw [List.flatMap_cons, List.flatMap_cons, List.append_assoc]
      refine (hothers.append_left _).trans ?_
      rw [← List.append_assoc, ← List.append_assoc]
      exact hfirst.append_right _

/-- In settled read code every result is consumed as often as it is introduced. -/
theorem Settled.perm {fields lines : List String} (hlines : Settled fields lines) :
    (lines.flatMap consumed).Perm (lines.flatMap results) := by
  obtain ⟨built, hscan⟩ := hlines
  simpa [waiting, Frame.empty] using foldlM_settle_perm hscan

theorem isResult_temporary (number : Nat) : isResult (Name.temporary "result" number) = true :=
  Name.isNumberedStem_temporary "result" number

theorem isWord_isResult (number : Nat) :
    IsWord (Name.temporary "result" number) ∧
      isResult (Name.temporary "result" number) = true :=
  ⟨IsWord.temporary _ (by decide) number, isResult_temporary number⟩

theorem isResult_of_head {word : String} {c : Char} (hhead : word.toList.head? = some c)
    (hc : c ≠ 'r') : isResult word = false := by
  obtain ⟨rest, hlist⟩ := List.head?_eq_some_iff.mp hhead
  simp [isResult, Name.isNumberedStem, hlist, List.isPrefixOf, hc.symm]

theorem isResult_of_member {word : String} (hdot : '.' ∈ word.toList) :
    isResult word = false := by
  rw [Bool.eq_false_iff]
  intro hresult
  obtain ⟨hbegins, hdigits⟩ := Bool.and_eq_true_iff.mp hresult
  obtain ⟨digits, hword⟩ := List.isPrefixOf_iff_prefix.mp hbegins
  rw [← hword, List.drop_left, Bool.and_eq_true_iff, List.all_eq_true] at hdigits
  rw [← hword, List.mem_append] at hdot
  rcases hdot with hstem | hdigit
  · exact absurd hstem (by decide)
  · exact absurd (hdigits.2 _ hdigit) (by decide)

theorem isResult_decimal (number : Nat) : isResult (Text.decimal number) = false := by
  obtain ⟨digit, rest, hlist⟩ := List.exists_cons_of_ne_nil (Text.decimal_ne_nil number)
  have hdigit : digit.isDigit = true :=
    Text.isDigit_of_mem_decimal (hlist ▸ List.mem_cons_self)
  refine isResult_of_head (c := digit) (by rw [hlist]; rfl) ?_
  rintro rfl
  cases hdigit

section Lines

variable {fields rest : List String} {frame : Frame} {outer : List Frame} {text : String}
variable {before introduced after : List String}

theorem results_eq {closing opening : Bool}
    (hshape : HasShape text closing opening ⟨before, introduced, after⟩) :
    results text = introduced.filter isResult := by
  rw [results, hshape.names]

theorem consumed_eq {closing opening : Bool}
    (hshape : HasShape text closing opening ⟨before, introduced, after⟩) :
    consumed text = (before ++ after).filter isResult := by
  rw [consumed, hshape.names]

theorem settle_line {state next : List String × List Frame}
    (hline : settle state text = some next) :
    (text :: rest).foldlM settle state = rest.foldlM settle next := by
  rw [List.foldlM_cons, hline]
  rfl

/-- A line without results is passed over. -/
theorem settle_plain (hshape : HasShape text false false ⟨before, introduced, after⟩)
    (hintroduced : introduced.filter isResult = [])
    (hused : (before ++ after).filter isResult = []) :
    (text :: rest).foldlM settle (fields, frame :: outer) =
      rest.foldlM settle (fields, frame :: outer) := by
  apply settle_line
  simp only [settle, hshape.closes, hshape.opens, results_eq hshape, consumed_eq hshape,
    hintroduced, hused]

/-- A line that introduces a result leaves it waiting. -/
theorem settle_constant {name : String}
    (hshape : HasShape text false false ⟨["const"], [name], after⟩) (hname : isResult name = true)
    (hafter : after.filter isResult = []) :
    (text :: rest).foldlM settle (fields, frame :: outer) =
      rest.foldlM settle (fields, frame.introduce name (builds text) :: outer) := by
  have hconst : (["const"] ++ after).filter isResult = [] := by
    rw [List.filter_append, hafter]
    rfl
  have hresults : [name].filter isResult = [name] := by
    simp [hname]
  apply settle_line
  simp only [settle, hshape.closes, hshape.opens, results_eq hshape, consumed_eq hshape, hconst,
    hresults]

theorem settle_opening (hshape : HasShape text false true ⟨before, introduced, after⟩)
    (hintroduced : introduced.filter isResult = [])
    (hused : (before ++ after).filter isResult = []) :
    (text :: rest).foldlM settle (fields, frame :: outer) =
      rest.foldlM settle (fields, frame.opened (loops text) :: frame :: outer) := by
  apply settle_line
  simp only [settle, hshape.closes, hshape.opens, results_eq hshape, consumed_eq hshape,
    hintroduced, hused]

theorem settle_brace {fills built : Option String} :
    ("\x7d" :: rest).foldlM settle (fields, ⟨fills, built, []⟩ :: frame :: outer) =
      rest.foldlM settle (fields, frame :: outer) := by
  apply settle_line
  simp only [settle, hasShape_brace.closes, hasShape_brace.opens, results_eq hasShape_brace,
    consumed_eq hasShape_brace]
  rfl

/-- A line that takes the waiting results to their place. -/
theorem settle_take {found remaining : List String}
    (hshape : HasShape text false false ⟨found, [], []⟩)
    (hfound : found.filter isResult = frame.waiting) (hwaiting : frame.waiting ≠ [])
    (htake : take? fields frame outer text = some remaining) :
    (text :: rest).foldlM settle (fields, frame :: outer) =
      rest.foldlM settle (remaining, { frame with waiting := [] } :: outer) := by
  have hconsumed : consumed text = frame.waiting := by
    rw [consumed_eq hshape, List.append_nil, hfound]
  apply settle_line
  cases hlist : frame.waiting with
  | nil => exact absurd hlist hwaiting
  | cons first others =>
      simp only [settle, hshape.closes, hshape.opens, results_eq hshape, hconsumed, hlist, htake]
      simp

end Lines

section Read

variable {fields rest : List String} {frame : Frame} {outer : List Frame}

theorem settle_create (container : Container) (number : Nat) :
    ((Statement.create (Name.temporary "result" number) container).text :: rest).foldlM settle
        (fields, frame :: outer) =
      rest.foldlM settle
        (fields, frame.introduce (Name.temporary "result" number) true :: outer) := by
  have hshape := hasShape_create (IsWord.temporary "result" (by decide) number) container
  have hbuilds : builds (Statement.create (Name.temporary "result" number) container).text =
      true := by
    rw [builds, hshape.names]
    cases container <;> simp [Statement.text.eq_def, Container.fresh]
  have hafter : container.freshWords.filter isResult = [] := by cases container <;> decide
  rw [settle_constant hshape (isResult_temporary number) hafter, hbuilds]

theorem settle_read (number : Nat) (s : Scalar) :
    ((Statement.read (Name.temporary "result" number) ("read" ++ s.methodName)).text ::
        rest).foldlM settle (fields, frame :: outer) =
      rest.foldlM settle
        (fields, frame.introduce (Name.temporary "result" number) false :: outer) := by
  have hmethod : IsWord ("read" ++ s.methodName) := .readMethod s
  have hshape := hasShape_read (IsWord.temporary "result" (by decide) number) hmethod
  have hbuilds : builds (Statement.read (Name.temporary "result" number)
      ("read" ++ s.methodName)).text = false := by
    rw [builds, hshape.names]
    simp [Statement.text.eq_def, ← String.toList_inj]
  have hafter : ["buffer." ++ ("read" ++ s.methodName)].filter isResult = [] := by
    simp [isResult_of_head (c := 'b')]
  rw [settle_constant hshape (isResult_temporary number) hafter, hbuilds]

theorem settle_readMessage (number : Nat) (id : ProtocolId) :
    ((Statement.readMessage (Name.temporary "result" number) id).text :: rest).foldlM settle
        (fields, frame :: outer) =
      rest.foldlM settle
        (fields, frame.introduce (Name.temporary "result" number) false :: outer) := by
  have hshape := hasShape_readMessage (IsWord.temporary "result" (by decide) number) id
  have hbuilds : builds (Statement.readMessage (Name.temporary "result" number) id).text =
      false := by
    rw [builds, hshape.names]
    simp [Statement.text.eq_def, ← String.toList_inj]
  have hafter : ["buffer.readPacket", Text.decimal id.toNat].filter isResult = [] := by
    simp +decide [isResult_decimal]
  rw [settle_constant hshape (isResult_temporary number) hafter, hbuilds]

/-- Reading a container introduces it, and then reads the entries in a loop that
fills it. -/
theorem settle_readContainer (container : Container) (number : Nat) (body : Code) :
    ((Strategy.readContainer (.one (.create (Name.temporary "result" number) container))
        (Name.temporary "size" (number + 1)) (Name.temporary "index" (number + 2)) body).texts ++
          rest).foldlM settle (fields, frame :: outer) =
      (body.texts ++ "\x7d" :: "\x7d" :: rest).foldlM settle
        (fields, ⟨some (Name.temporary "result" number), none, []⟩ ::
          ⟨none, some (Name.temporary "result" number), []⟩ ::
            frame.introduce (Name.temporary "result" number) true :: outer) := by
  have hsize := IsWord.temporary "size" (by decide) (number + 1)
  have hindex := IsWord.temporary "index" (by decide) (number + 2)
  have hsizeResult : isResult (Name.temporary "size" (number + 1)) = false :=
    isResult_of_head (c := 's') (by simp [Name.temporary]) (by decide)
  have hindexResult : isResult (Name.temporary "index" (number + 2)) = false :=
    isResult_of_head (c := 'i') (by simp [Name.temporary]) (by decide)
  rw [Code.texts_readContainer]
  simp only [List.cons_append, List.append_assoc, List.nil_append]
  rw [settle_create, settle_plain (hasShape_read hsize (by constructor <;> decide)),
    settle_opening (hasShape_positive hsize), settle_opening (hasShape_count hindex hsize),
    loops_positive, loops_count]
  · rfl
  · simp [hindexResult]
  · simp +decide [hsizeResult, hindexResult]
  · rfl
  · simp +decide [hsizeResult]
  · simp [hsizeResult]
  · simp +decide

/-- Adding the waiting results to the container of the loop consumes them. -/
theorem settle_insert {container : Container} {number : Nat} {built : Option String}
    {values : List String} (hvalues : ∀ value ∈ values, IsWord value ∧ isResult value = true)
    (hinsert : (Statement.insert container (Name.temporary "result" number) values).text ∈
      insertions (Name.temporary "result" number) values) :
    ((Statement.insert container (Name.temporary "result" number) values).text :: rest).foldlM
        settle (fields, ⟨some (Name.temporary "result" number), built, values⟩ :: frame :: outer) =
      rest.foldlM settle
        (fields, ⟨some (Name.temporary "result" number), built, []⟩ :: frame :: outer) := by
  have hshape := hasShape_insert number container (fun value h => (hvalues value h).1)
  refine settle_take hshape ?_ ?_ ?_
  · have hcall : isResult (Name.temporary "result" number ++ "." ++ container.method) = false :=
      isResult_of_member (by simp)
    rw [List.filter_cons_of_neg (by simp [hcall]), List.filter_eq_self]
    exact fun value h => (hvalues value h).2
  · rintro rfl
    cases hinsert
  · simp only [take?, hinsert, if_true]

theorem settle_assign {field : String} (hfield : IsWord field) {number : Nat}
    {fills built : Option String} :
    ((Statement.assign field (Name.temporary "result" number)).text :: rest).foldlM settle
        (field :: fields, [⟨fills, built, [Name.temporary "result" number]⟩]) =
      rest.foldlM settle (fields, [⟨fills, built, []⟩]) := by
  have hvalue := IsWord.temporary "result" (by decide) number
  refine settle_take (hasShape_assign hfield hvalue) ?_ (by simp) ?_
  · have hpath : isResult ("packet." ++ field) = false :=
      isResult_of_head (c := 'p') (by simp) (by decide)
    simp [hpath, isResult_temporary]
  · simp [take?, Statement.text.eq_def]

theorem settle_guard (field : Field) :
    ((Blocks.guard field).texts ++ rest).foldlM settle (fields, frame :: outer) =
      rest.foldlM settle (fields, frame :: outer) := by
  rw [Code.texts_guard]
  split
  next =>
    simp only [List.cons_append, List.nil_append]
    rw [settle_opening hasShape_exhausted (by decide) (by decide),
      settle_plain hasShape_leave (by decide) (by decide),
      show loops "if (!buffer.isReadable()) \x7b" = false by decide]
    exact settle_brace
  next => rfl

/-- Code that reads a kind introduces one result that waits behind it; those of
the entries are consumed on the way. -/
theorem settle_reading (kind : Kind) (next : Nat) :
    ((kind.reading next).texts ++ rest).foldlM settle (fields, frame :: outer) =
      rest.foldlM settle
        (fields, frame.introduce (Name.temporary "result" next) kind.isComposite :: outer) := by
  induction kind generalizing next frame outer rest with
  | scalar s =>
      rw [Kind.reading, Code.texts_one, List.singleton_append, settle_read]
      rfl
  | message id =>
      rw [Kind.reading, Code.texts_one, List.singleton_append, settle_readMessage]
      rfl
  | sequence collection element ih =>
      have hinsert : (Statement.insert collection.container (Name.temporary "result" next)
          [Name.temporary "result" (next + 3)]).text ∈
            insertions (Name.temporary "result" next) [Name.temporary "result" (next + 3)] := by
        cases collection <;>
          simp [insertions, Statement.text.eq_def, Collection.container, Container.method,
            ← String.toList_inj]
      rw [Kind.reading, settle_readContainer, Code.texts_append, List.append_assoc, ih,
        Code.texts_one, List.singleton_append]
      simp only [Frame.introduce, List.nil_append]
      rw [settle_insert (by simp [isWord_isResult]) hinsert, settle_brace,
        settle_brace]
      rfl
  | map key value ihKey ihValue =>
      have hinsert : (Statement.insert .map (Name.temporary "result" next)
          [Name.temporary "result" (next + 3),
            Name.temporary "result" (next + (3 + key.readNames))]).text ∈
              insertions (Name.temporary "result" next) [Name.temporary "result" (next + 3),
                Name.temporary "result" (next + (3 + key.readNames))] := by
        simp [insertions, Statement.text.eq_def, Container.method, ← String.toList_inj]
      -- the key waits while the value is read, so both are inserted together
      rw [Kind.reading, settle_readContainer, Code.texts_append, Code.texts_append,
        List.append_assoc, List.append_assoc, ihKey, ihValue, Code.texts_one,
        List.singleton_append]
      simp only [Frame.introduce, List.nil_append, List.singleton_append]
      rw [settle_insert (by simp [isWord_isResult]) hinsert, settle_brace, settle_brace]
      rfl

end Read

section Blocks

theorem settle_readBlock {fields : List Field} (hfields : ∀ field ∈ fields, IsWord field.name)
    (next : Nat) (built : Option String) :
    ∃ last, (Blocks.reading next fields).texts.foldlM settle
        (fields.map Field.name, [⟨none, built, []⟩]) = some ([], [⟨none, last, []⟩]) := by
  induction fields generalizing next built with
  | nil => exact ⟨built, rfl⟩
  | cons field fields ih =>
      obtain ⟨hfield, hrest⟩ := List.forall_mem_cons.mp hfields
      rw [Blocks.reading, Blocks.inOrder, Code.texts_append, Blocks.fieldReading,
        Code.texts_append, Code.texts_append, List.append_assoc, List.append_assoc, settle_guard,
        settle_reading, Code.texts_one, List.singleton_append]
      simp only [Frame.introduce, List.nil_append, List.map_cons]
      rw [settle_assign hfield]
      exact ih hrest _ _

/-- The read block of a message assigns its fields in order and leaves no result
behind. -/
theorem settled_readBlock {fields : List Field} (hfields : ∀ field ∈ fields, IsWord field.name)
    (next : Nat) : Settled (fields.map Field.name) (Blocks.reading next fields).texts :=
  settle_readBlock hfields next none

end Blocks

end WireScript.Listing
