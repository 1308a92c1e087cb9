import WireScript.Emission.Blocks
import WireScript.Layout
import WireScript.Schema.Name

/-! # Emission by the full table

With a strategy for every tag, emission of a kind cannot fail and depends on the
context through the number of the next temporary only. `Kind.writing` and
`Kind.reading` give the code by recursion on the kind; a message adds nothing but
its nesting check, so its blocks are known outright.
-/

namespace WireScript

namespace Name

/-- The name of the temporary with a number. -/
def temporary (stem : String) (number : Nat) : String := stem ++ Text.decimal number

theorem mem_temporary {stem : String} {number : Nat} {c : Char}
    (hc : c ∈ (temporary stem number).toList) : c ∈ stem.toList ∨ c.isDigit = true := by
  rw [temporary, String.toList_append, List.mem_append] at hc
  exact hc.imp_right Text.isDigit_of_mem_decimal

theorem isNumberedStem_temporary (stem : String) (number : Nat) :
    isNumberedStem (temporary stem number).toList stem.toList = true := by
  have hdigits : (Text.decimal number).toList.all Char.isDigit = true := by
    rw [List.all_eq_true]
    intro c hc
    exact Text.isDigit_of_mem_decimal hc
  have hnonempty : (Text.decimal number).toList.isEmpty = false := by
    rw [List.isEmpty_eq_false_iff]
    exact Text.decimal_ne_nil number
  simp only [isNumberedStem, temporary, String.toList_append, List.drop_left, hdigits, hnonempty]
  simp

/-- Messages may not have the name of a temporary made from one of the stems. -/
theorem isTemporary_temporary (stem : String) (hstem : stem ∈ temporaryStems) (number : Nat) :
    isTemporary (temporary stem number) = true := by
  rw [isTemporary, List.any_eq_true]
  exact ⟨stem, hstem, isNumberedStem_temporary stem number⟩

/-- Temporaries begin like their stems. -/
theorem isTemporary_eq_false {name : String} {c : Char} (hhead : name.toList.head? = some c)
    (hc : c ∉ ['r', 's', 'i', 'e', 'k', 'v']) : isTemporary name = false := by
  obtain ⟨rest, hlist⟩ := List.head?_eq_some_iff.mp hhead
  rw [isTemporary, List.any_eq_false]
  intro stem hstem hnumbered
  have hinitial : stem.toList.head? = some c := by
    have hbegins := (Bool.and_eq_true_iff.mp hnumbered).1
    rw [hlist, List.isPrefixOf_iff_prefix] at hbegins
    obtain ⟨after, hafter⟩ := hbegins
    cases hstemList : stem.toList with
    | nil =>
        have hnonempty : ∀ stem ∈ temporaryStems, stem.toList ≠ [] := by decide
        exact absurd hstemList (hnonempty stem hstem)
    | cons first others =>
        rw [hstemList] at hafter
        exact congrArg some (List.cons.inj hafter).1
  have hinitials : ∀ stem ∈ temporaryStems,
      stem.toList.head?.any (fun c => ['r', 's', 'i', 'e', 'k', 'v'].contains c) = true := by
    decide
  have hmem := hinitials stem hstem
  rw [hinitial, Option.any_some, List.contains_iff_mem] at hmem
  exact hc hmem

end Name

/-- The context after `count` more temporaries. -/
def Context.advance (context : Context) (count : Nat) : Context :=
  { context with next := context.next + count }

theorem Context.advance_advance (context : Context) (first second : Nat) :
    (context.advance first).advance second = context.advance (first + second) := by
  simp [advance, Nat.add_assoc]

namespace Emit

variable {α β : Type}

theorem bind_of_ok {first : Emit α} {next : α → Emit β} {context after : Context} {value : α}
    (hfirst : first context = (.ok value, after)) :
    (first >>= next) context = next value after := by
  change (match first context with | (result, after) => ExceptT.bindCont next result after) = _
  rw [hfirst]
  rfl

theorem bind_of_error {first : Emit α} {next : α → Emit β} {context after : Context}
    {fault : Fault} (hfirst : first context = (.error fault, after)) :
    (first >>= next) context = (.error fault, after) := by
  change (match first context with | (result, after) => ExceptT.bindCont next result after) = _
  rw [hfirst]
  rfl

theorem fresh_eq (stem : String) (context : Context) :
    Emit.fresh stem context = (.ok (Name.temporary stem context.next), context.advance 1) := rfl

end Emit

theorem Strategy.declare_eq (container : Container) (context : Context) :
    Strategy.declare container context =
      (.ok (Name.temporary "result" context.next,
        .one (.create (Name.temporary "result" context.next) container)), context.advance 1) := rfl

namespace Kind

/-- The number of temporaries in code that writes a kind. -/
def writeNames : Kind → Nat
  | .scalar _ => 0
  | .sequence _ element => 1 + element.writeNames
  | .map key value => 2 + key.writeNames + value.writeNames
  | .message _ => 0

/-- The number of temporaries in code that reads a kind. -/
def readNames : Kind → Nat
  | .scalar _ => 1
  | .sequence _ element => 3 + element.readNames
  | .map key value => 3 + key.readNames + value.readNames
  | .message _ => 1

/-- Code that writes the value of an expression, its temporaries numbered from
`next`. -/
def writing (source : String) (next : Nat) : Kind → Code
  | .scalar s => .one (.write ("write" ++ s.methodName) source)
  | .sequence collection element =>
      let name := Name.temporary "element" next
      Strategy.writeContainer source collection.measure [name] (element.writing name (next + 1))
  | .map key value =>
      let keyName := Name.temporary "key" next
      let valueName := Name.temporary "value" (next + 1)
      Strategy.writeContainer source "size" [valueName, keyName]
        (key.writing keyName (next + 2) ++
          value.writing valueName (next + (2 + key.writeNames)))
  | .message id => .one (.writeMessage source id)

/-- Code that reads a value into the result numbered `next`, the other
temporaries numbered after it. -/
def reading (next : Nat) : Kind → Code
  | .scalar s => .one (.read (Name.temporary "result" next) ("read" ++ s.methodName))
  | .sequence collection element =>
      let name := Name.temporary "result" next
      Strategy.readContainer (.one (.create name collection.container))
        (Name.temporary "size" (next + 1)) (Name.temporary "index" (next + 2))
        (element.reading (next + 3) ++
          .one (.insert collection.container name [Name.temporary "result" (next + 3)]))
  | .map key value =>
      let name := Name.temporary "result" next
      let second := next + (3 + key.readNames)
      Strategy.readContainer (.one (.create name .map))
        (Name.temporary "size" (next + 1)) (Name.temporary "index" (next + 2))
        (key.reading (next + 3) ++ value.reading second ++
          .one (.insert .map name
            [Name.temporary "result" (next + 3), Name.temporary "result" second]))
  | .message id => .one (.readMessage (Name.temporary "result" next) id)

end Kind

/-- Writing code for any kind is emitted without a fault, whatever the context. -/
theorem Table.full_write (kind : Kind) (source : String) (context : Context) :
    Table.full.write kind source context =
      (.ok (kind.writing source context.next), context.advance kind.writeNames) := by
  induction kind generalizing source context with
  | scalar s => rfl
  | message id => rfl
  | sequence collection element ih =>
      change Strategy.write Table.full (.sequence collection) (.sequence collection element)
        source context = _
      simp only [Strategy.write]
      rw [Emit.bind_of_ok (Emit.fresh_eq _ _)]
      -- looking up the inner strategy and using it is emission by the table again
      change (Table.full.write element _ >>= _) _ = _
      rw [Emit.bind_of_ok (ih _ _), Context.advance_advance]
      rfl
  | map key value ihKey ihValue =>
      change Strategy.write Table.full .entries (.map key value) source context = _
      simp only [Strategy.write]
      rw [Emit.bind_of_ok (Emit.fresh_eq _ _), Emit.bind_of_ok (Emit.fresh_eq _ _)]
      change (Table.full.write key _ >>= _) _ = _
      rw [Emit.bind_of_ok (ihKey _ _)]
      change (Table.full.write value _ >>= _) _ = _
      rw [Emit.bind_of_ok (ihValue _ _)]
      simp only [Context.advance_advance]
      rfl

/-- Reading code for any kind is emitted without a fault; the value is in the
first temporary it takes. -/
theorem Table.full_read (kind : Kind) (context : Context) :
    Table.full.read kind context =
      (.ok ⟨kind.reading context.next, Name.temporary "result" context.next⟩,
        context.advance kind.readNames) := by
  induction kind generalizing context with
  | scalar s => rfl
  | message id => rfl
  | sequence collection element ih =>
      change Strategy.read Table.full (.sequence collection) (.sequence collection element)
        context = _
      simp only [Strategy.read]
      rw [Emit.bind_of_ok (Strategy.declare_eq _ _), Emit.bind_of_ok (Emit.fresh_eq _ _),
        Emit.bind_of_ok (Emit.fresh_eq _ _)]
      change (Table.full.read element >>= _) _ = _
      rw [Emit.bind_of_ok (ih _)]
      simp only [Context.advance_advance]
      rfl
  | map key value ihKey ihValue =>
      change Strategy.read Table.full .entries (.map key value) context = _
      simp only [Strategy.read]
      rw [Emit.bind_of_ok (Strategy.declare_eq _ _), Emit.bind_of_ok (Emit.fresh_eq _ _),
        Emit.bind_of_ok (Emit.fresh_eq _ _)]
      change (Table.full.read key >>= _) _ = _
      rw [Emit.bind_of_ok (ihKey _)]
      change (Table.full.read value >>= _) _ = _
      rw [Emit.bind_of_ok (ihValue _)]
      simp only [Context.advance_advance]
      rfl

namespace Blocks

/-- Code for every field in order, the temporaries of one numbered after those
of the fields before it. -/
def inOrder (code : Nat → Field → Code) (names : Field → Nat) (next : Nat) : List Field → Code
  | [] => .done
  | field :: rest => code next field ++ inOrder code names (next + names field) rest

/-- The number of temporaries in code for every field. -/
def totalNames (names : Field → Nat) (fields : List Field) : Nat :=
  fields.foldr (fun field total => names field + total) 0

theorem totalNames_cons (names : Field → Nat) (field : Field) (rest : List Field) :
    totalNames names (field :: rest) = names field + totalNames names rest :=
  rfl

/-- Code that writes a field of the packet. -/
def fieldWriting (next : Nat) (field : Field) : Code :=
  field.kind.writing ("packet." ++ field.name) next

/-- Code that reads a field of the packet. -/
def fieldReading (next : Nat) (field : Field) : Code :=
  guard field ++ field.kind.reading next ++
    .one (.assign field.name (Name.temporary "result" next))

/-- The number of temporaries in a write block. -/
def writeNames : List Field → Nat := totalNames (fun field => field.kind.writeNames)

/-- Code that writes every field, its temporaries numbered from `next`. -/
def writing : Nat → List Field → Code :=
  inOrder fieldWriting (fun field => field.kind.writeNames)

/-- Code that reads every field, its temporaries numbered from `next`. -/
def reading : Nat → List Field → Code :=
  inOrder fieldReading (fun field => field.kind.readNames)

/-- The blocks of a message that nests no deeper than allowed. -/
def plain (message : Message) (document : Document) : Blocks where
  parameters := parameterList message.fields
  constructor := constructorBlock message.fields document
  write := (writing 0 message.fields).fragment bodyDepth
  read := (reading (writeNames message.fields) message.fields).fragment bodyDepth

/-- Emission of a field that can fail by its nesting check only. -/
def EmitsWithinLimit (emit : Field → Emit Code) (code : Nat → Field → Code)
    (names : Field → Nat) : Prop :=
  ∀ field context, emit field context =
    match Layout.fieldNestingFault? context.limit context.message field with
    | some fault => (.error fault, context)
    | none => (.ok (code context.next field), context.advance (names field))

theorem checkNesting_eq (field : Field) (context : Context) :
    checkNesting field context =
      match Layout.fieldNestingFault? context.limit context.message field with
      | some fault => (.error fault, context)
      | none => (.ok (), context) := by
  have hread : (get : Emit Context) context = (.ok context, context) := rfl
  by_cases hdeep : field.kind.depth > context.limit
  · rw [Layout.fieldNestingFault?, if_pos hdeep, checkNesting]
    refine (Emit.bind_of_ok hread).trans ?_
    rw [if_pos hdeep]
    rfl
  · rw [Layout.fieldNestingFault?, if_neg hdeep, checkNesting]
    refine (Emit.bind_of_ok hread).trans ?_
    rw [if_neg hdeep]
    rfl

/-- Behind the nesting check of a field nothing can fail. -/
theorem EmitsWithinLimit.of_check {emit emitCode : Field → Emit Code}
    {code : Nat → Field → Code} {names : Field → Nat}
    (hemit : ∀ field, emit field = (do
      checkNesting field
      emitCode field))
    (hcode : ∀ field context, emitCode field context =
      (.ok (code context.next field), context.advance (names field))) :
    EmitsWithinLimit emit code names := by
  intro field context
  have hcheck := checkNesting_eq field context
  rw [hemit]
  cases hfault : Layout.fieldNestingFault? context.limit context.message field with
  | some fault =>
      rw [hfault] at hcheck
      exact Emit.bind_of_error hcheck
  | none =>
      rw [hfault] at hcheck
      exact (Emit.bind_of_ok hcheck).trans (hcode field context)

theorem writeField_full : EmitsWithinLimit (writeField Table.full) fieldWriting
    (fun field => field.kind.writeNames) :=
  .of_check (fun _ => rfl) fun _ _ => Table.full_write _ _ _

theorem readField_full : EmitsWithinLimit (readField Table.full) fieldReading
    (fun field => field.kind.readNames) :=
  .of_check (fun _ => rfl) fun _ _ => Emit.bind_of_ok (Table.full_read _ _)

section EachField

variable {emit : Field → Emit Code} {code : Nat → Field → Code} {names : Field → Nat}
variable {fields : List Field} {context : Context}

/-- A block stops at the first field that nests too deep. -/
theorem eachField_error {fault : Fault} (hemit : EmitsWithinLimit emit code names)
    (hfault : fields.findSome? (Layout.fieldNestingFault? context.limit context.message) =
      some fault) :
    (eachField emit fields context).1 = .error fault := by
  induction fields generalizing context with
  | nil => simp at hfault
  | cons field rest ih =>
      have hfield := hemit field context
      rw [List.findSome?_cons] at hfault
      split at hfault
      next found hfound =>
        obtain rfl := Option.some.inj hfault
        rw [hfound] at hfield
        exact congrArg Prod.fst (Emit.bind_of_error hfield)
      next hnone =>
        rw [hnone] at hfield
        have hrest : (eachField emit rest (context.advance (names field))).1 =
            .error fault := ih hfault
        rw [eachField, Emit.bind_of_ok hfield]
        exact congrArg Prod.fst (Emit.bind_of_error (Prod.ext hrest rfl))

theorem eachField_ok (hemit : EmitsWithinLimit emit code names)
    (hfields : fields.findSome? (Layout.fieldNestingFault? context.limit context.message) =
      none) :
    eachField emit fields context =
      (.ok (inOrder code names context.next fields),
        context.advance (totalNames names fields)) := by
  induction fields generalizing context with
  | nil => rfl
  | cons field rest ih =>
      rw [List.findSome?_cons] at hfields
      split at hfields
      next => cases hfields
      next hnone =>
        have hfield := hemit field context
        rw [hnone] at hfield
        have hrest := @ih (context.advance (names field)) hfields
        rw [eachField, Emit.bind_of_ok hfield]
        refine (Emit.bind_of_ok hrest).trans ?_
        rw [Context.advance_advance, ← totalNames_cons]
        rfl

end EachField

/-- A message is emitted unless one of its fields nests too deep, and what the
context held before makes no difference. -/
theorem ofMessage_full (message : Message) (document : Document) (context : Context) :
    (ofMessage Table.full message document context).1 =
      match message.fields.findSome? (Layout.fieldNestingFault? context.limit message.name) with
      | some fault => .error fault
      | none => .ok (plain message document) := by
  have hbegin : (modify (fun context => context.begin message.name) : Emit Unit) context =
      (.ok (), context.begin message.name) := rfl
  rw [ofMessage, Emit.bind_of_ok hbegin]
  split
  next fault hfault =>
    have hwrite : (writeCode Table.full message.fields (context.begin message.name)).1 =
        .error fault := eachField_error writeField_full hfault
    exact congrArg Prod.fst (Emit.bind_of_error (Prod.ext hwrite rfl))
  next hnone =>
    have hwrite := @eachField_ok _ _ _ _ (context.begin message.name) writeField_full hnone
    have hread := @eachField_ok _ _ _ _
      ((context.begin message.name).advance (writeNames message.fields)) readField_full hnone
    refine congrArg Prod.fst ((Emit.bind_of_ok hwrite).trans (Emit.bind_of_ok hread)) |>.trans ?_
    simp only [plain, Context.advance, Context.begin, Nat.zero_add]
    rfl

theorem nestingFault?_eq_none_iff {fields : List Field} {limit : Nat} (name : String) :
    fields.findSome? (Layout.fieldNestingFault? limit name) = none ↔
      ∀ field ∈ fields, field.kind.depth ≤ limit := by
  simp [List.findSome?_eq_none_iff, Layout.fieldNestingFault?]

/-- Blocks are emitted exactly when every field is within the limit. -/
theorem ofMessage_full_ok_iff {message : Message} {document : Document} {context : Context}
    {blocks : Blocks} :
    (ofMessage Table.full message document context).1 = .ok blocks ↔
      (∀ field ∈ message.fields, field.kind.depth ≤ context.limit) ∧
        blocks = plain message document := by
  rw [ofMessage_full, ← nestingFault?_eq_none_iff message.name]
  cases message.fields.findSome? (Layout.fieldNestingFault? context.limit message.name) with
  | some fault => simp
  | none => simp [eq_comm]

end Blocks

end WireScript
