import Mathlib.Data.List.Forall2
import WireScript.Proofs.Emission.Listing

/-! # The order of fields

Both blocks of a message go through its fields in declaration order. The lines for
a field are what the table emits for its kind, and in a read block the guard of a
compatible field before them and the assignment of the field behind them. No line
the table emits can be taken for a guard or for an assignment.
-/

namespace WireScript

namespace Blocks

/-- The lines before a compatible field. -/
def guardLines : List Line :=
  [⟨0, "if (!buffer.isReadable()) \x7b"⟩, ⟨1, "return packet;"⟩, ⟨0, "\x7d"⟩]

/-- The line that sets a field to the value of an expression. -/
def assignmentLine (field : Field) (value : String) : Line :=
  ⟨0, "packet." ++ field.name ++ " = " ++ value ++ ";"⟩

/-- Lines that read fields one after another, each with the numbers that the fields
before it left. -/
inductive Reads : Context → List Field → List Line → Context → Prop where
  | nil (context : Context) : Reads context [] [] context
  | cons {context between after : Context} {field : Field} {fields : List Field}
      {entry : ReadCode} {lines : List Line}
      (hentry : Table.full.read field.kind context = (.ok entry, between))
      (hrest : Reads between fields lines after) :
      Reads context (field :: fields)
        ((if field.compatible then guardLines else []) ++
          (entry.code.lines 0 ++ assignmentLine field entry.value :: lines)) after

/-- Lines that write fields one after another. -/
inductive Writes : Context → List Field → List Line → Context → Prop where
  | nil (context : Context) : Writes context [] [] context
  | cons {context between after : Context} {field : Field} {fields : List Field}
      {code : Code} {lines : List Line}
      (hcode : Table.full.write field.kind ("packet." ++ field.name) context =
        (.ok code, between))
      (hrest : Writes between fields lines after) :
      Writes context (field :: fields) (code.lines 0 ++ lines) after

theorem guard_lines (field : Field) :
    (guard field).lines 0 = if field.compatible then guardLines else [] := by
  unfold guard
  split <;> rfl

theorem reads_reading (fields : List Field) (context : Context) :
    Reads context fields ((reading context.next fields).lines 0)
      (context.advance (totalNames (fun field => field.kind.readNames) fields)) := by
  induction fields generalizing context with
  | nil => exact .nil context
  | cons field fields ih =>
      -- the rest is numbered on from the last temporary of this field
      have hrest := ih (context.advance field.kind.readNames)
      rw [Context.advance_advance] at hrest
      have hlines : (reading context.next (field :: fields)).lines 0 =
          (if field.compatible then guardLines else []) ++
            ((field.kind.reading context.next).lines 0 ++
              assignmentLine field (Name.temporary "result" context.next) ::
                (reading (context.next + field.kind.readNames) fields).lines 0) := by
        rw [reading, inOrder, fieldReading, ← guard_lines]
        simp only [Code.lines_append, List.append_assoc]
        rfl
      rw [hlines, totalNames_cons]
      exact .cons (Table.full_read _ _) hrest

theorem writes_writing (fields : List Field) (context : Context) :
    Writes context fields ((writing context.next fields).lines 0)
      (context.advance (totalNames (fun field => field.kind.writeNames) fields)) := by
  induction fields generalizing context with
  | nil => exact .nil context
  | cons field fields ih =>
      have hrest := ih (context.advance field.kind.writeNames)
      rw [Context.advance_advance] at hrest
      rw [writing, inOrder, fieldWriting, Code.lines_append, totalNames_cons]
      exact .cons (Table.full_write _ _ _) hrest

end Blocks

namespace Listing

/-- Whether a line looks like one of a guard, the brace that closes it aside. -/
def isGuard (text : String) : Bool := begins "if (!" text || begins "return" text

/-- The lines that set a field of the packet, each with whether there was a guard
since the one before. -/
def assignments : Bool → List String → List (Bool × String)
  | _, [] => []
  | guarded, text :: rest =>
      if begins "packet." text then (guarded, text) :: assignments false rest
      else assignments (guarded || isGuard text) rest

/-- Whether a line is neither an assignment nor part of a guard. -/
def isInner (text : String) : Bool := !begins "packet." text && !isGuard text

theorem isGuard_of_head {text : String} {c : Char} (htext : text.toList.head? = some c)
    (hc : ['i', 'r'].all (· != c) = true) : isGuard text = false := by
  simp only [List.all_cons, List.all_nil, Bool.and_true, Bool.and_eq_true] at hc
  rw [isGuard, begins_eq_false htext (by simpa using hc.1),
    begins_eq_false htext (by simpa using hc.2)]
  rfl

theorem isInner_of_head {text : String} {c : Char} (htext : text.toList.head? = some c)
    (hc : ['p', 'i', 'r'].all (· != c) = true) : isInner text = true := by
  rw [List.all_cons, Bool.and_eq_true] at hc
  rw [isInner, begins_eq_false htext (by simpa using hc.1), isGuard_of_head htext hc.2]
  rfl

theorem isInner_positive (number : Nat) :
    isInner (Head.positive (Name.temporary "size" number)).opening = true := by
  simp [isInner, isGuard, begins, Head.opening.eq_def, Name.temporary, List.isPrefixOf]

theorem isInner_insert (container : Container) (number : Nat) (values : List String) :
    isInner (Statement.insert container (Name.temporary "result" number) values).text = true := by
  simp [isInner, isGuard, begins, Statement.text.eq_def, Name.temporary, List.isPrefixOf]

theorem all_isInner_readContainer (container : Container) (name index : String) (number : Nat)
    {body : Code} (hbody : body.texts.all isInner = true) :
    (Strategy.readContainer (.one (.create name container)) (Name.temporary "size" number) index
      body).texts.all isInner = true := by
  have hcreate : isInner (Statement.create name container).text = true :=
    isInner_of_head (c := 'c') (by simp [Statement.text.eq_def]) (by decide)
  have hsize : isInner (Statement.read (Name.temporary "size" number) "readInt").text = true :=
    isInner_of_head (c := 'c') (by simp [Statement.text.eq_def]) (by decide)
  have hcount : isInner (Head.count index (Name.temporary "size" number)).opening = true :=
    isInner_of_head (c := 'f') (by simp [Head.opening.eq_def]) (by decide)
  have hbrace : isInner "\x7d" = true := by decide
  rw [Code.texts_readContainer]
  simp only [List.all_cons, List.all_append, List.all_nil, hcreate, hsize, hcount, hbody, hbrace,
    isInner_positive, Bool.and_self]

/-- Nothing that reads a value looks like a guard or an assignment of a field. -/
theorem all_isInner_reading (kind : Kind) (next : Nat) :
    (kind.reading next).texts.all isInner = true := by
  induction kind generalizing next with
  | scalar s =>
      rw [Kind.reading, Code.texts_one, List.all_cons, List.all_nil, Bool.and_true]
      exact isInner_of_head (c := 'c') (by simp [Statement.text.eq_def]) (by decide)
  | message id =>
      rw [Kind.reading, Code.texts_one, List.all_cons, List.all_nil, Bool.and_true]
      exact isInner_of_head (c := 'c') (by simp [Statement.text.eq_def]) (by decide)
  | sequence collection element ih =>
      apply all_isInner_readContainer
      simp only [Code.texts_append, Code.texts_one, List.all_append, List.all_cons, List.all_nil,
        ih, isInner_insert, Bool.and_self]
  | map key value ihKey ihValue =>
      apply all_isInner_readContainer
      simp only [Code.texts_append, Code.texts_one, List.all_append, List.all_cons, List.all_nil,
        ihKey, ihValue, isInner_insert, Bool.and_self]

section Write

variable {source : String}

theorem isGuard_ifNull (hsource : IsSource source) :
    isGuard ("if (" ++ source ++ " == null) \x7b") = false := by
  obtain ⟨first, rest, hfirst, hmem⟩ := hsource.head
  have hother : '!' ≠ first := fun heq => absurd (heq ▸ hmem) (by decide)
  simp [isGuard, begins, hfirst, hother, List.isPrefixOf]

theorem isGuard_each (hsource : IsSource source) (parameters : List String) :
    isGuard (Head.each source parameters).opening = false := by
  rw [Head.opening_each, isGuard, hsource.not_begins (by decide), hsource.not_begins (by decide)]
  rfl

theorem all_not_isGuard_writeContainer (hsource : IsSource source) (measure : String)
    (parameters : List String) {body : Code}
    (hbody : body.texts.all (fun text => !isGuard text) = true) :
    (Strategy.writeContainer source measure parameters body).texts.all
      (fun text => !isGuard text) = true := by
  have hzero : isGuard "buffer.writeInt(0);" = false := by decide
  have helse : isGuard "\x7d else \x7b" = false := by decide
  have hcount : isGuard (Statement.writeCount source measure).text = false :=
    isGuard_of_head (c := 'b') (by simp [Statement.text.eq_def]) (by decide)
  have hbracket : isGuard "\x7d);" = false := by decide
  have hbrace : isGuard "\x7d" = false := by decide
  rw [Code.texts_writeContainer]
  simp only [List.all_cons, List.all_append, List.all_nil, isGuard_ifNull hsource, hzero, helse,
    hcount, isGuard_each hsource, hbody, hbracket, hbrace, Bool.not_false, Bool.and_self]

/-- Nothing that writes a value looks like a guard. -/
theorem all_not_isGuard_writing (kind : Kind) (hsource : IsSource source) (next : Nat) :
    (kind.writing source next).texts.all (fun text => !isGuard text) = true := by
  induction kind generalizing source next with
  | scalar s =>
      rw [Kind.writing, Code.texts_one, List.all_cons, List.all_nil, Bool.and_true,
        isGuard_of_head (c := 'b') (by simp [Statement.text.eq_def]) (by decide)]
      rfl
  | message id =>
      rw [Kind.writing, Code.texts_one, List.all_cons, List.all_nil, Bool.and_true,
        isGuard_of_head (c := 'b') (by simp [Statement.text.eq_def]) (by decide)]
      rfl
  | sequence collection element ih =>
      exact all_not_isGuard_writeContainer hsource _ _ (ih (.entry (by decide) _) _)
  | map key value ihKey ihValue =>
      apply all_not_isGuard_writeContainer hsource
      rw [Code.texts_append, List.all_append, ihKey (.entry (by decide) _),
        ihValue (.entry (by decide) _)]
      rfl

end Write

section Block

variable {guarded : Bool} {rest : List String}

theorem assignments_inner {texts : List String} (htexts : texts.all isInner = true) :
    assignments guarded (texts ++ rest) = assignments guarded rest := by
  induction texts with
  | nil => rfl
  | cons text texts ih =>
      rw [List.all_cons, Bool.and_eq_true] at htexts
      obtain ⟨htext, htexts⟩ := htexts
      simp only [isInner, Bool.and_eq_true, Bool.not_eq_true'] at htext
      rw [List.cons_append, assignments, htext.1, htext.2, Bool.or_false]
      exact ih htexts

theorem assignments_guard (field : Field) :
    assignments false ((Blocks.guard field).texts ++ rest) =
      assignments field.compatible rest := by
  rw [Code.texts_guard]
  split
  next hcompatible =>
    rw [hcompatible]
    rfl
  next hplain =>
    rw [Bool.not_eq_true] at hplain
    rw [hplain]
    rfl

theorem assignments_assign (field value : String) :
    assignments guarded ((Statement.assign field value).text :: rest) =
      (guarded, "packet." ++ field ++ " = " ++ value ++ ";") :: assignments false rest := by
  have hbegins : begins "packet." (Statement.assign field value).text = true := by
    simp [begins, Statement.text.eq_def, List.isPrefixOf]
  rw [assignments, hbegins]
  rfl

/-- The lines that look like a guard. -/
theorem filter_isGuard_inner {texts : List String} (htexts : texts.all isInner = true) :
    texts.filter isGuard = [] := by
  rw [List.filter_eq_nil_iff]
  intro text htext
  have hinner := List.all_eq_true.mp htexts text htext
  simp only [isInner, Bool.and_eq_true, Bool.not_eq_true'] at hinner
  exact Bool.not_eq_true _ ▸ hinner.2

theorem filter_isGuard_guard (field : Field) :
    (Blocks.guard field).texts.filter isGuard =
      if field.compatible then ["if (!buffer.isReadable()) \x7b", "return packet;"] else [] := by
  rw [Code.texts_guard]
  split <;> rfl

/-- What a line looks like that sets a field, and whether there is a guard before it. -/
def Assigns (field : Field) (found : Bool × String) : Prop :=
  found.1 = field.compatible ∧ ∃ value, found.2 = "packet." ++ field.name ++ " = " ++ value ++ ";"

theorem assignments_readBlock (fields : List Field) (next : Nat) :
    List.Forall₂ Assigns fields (assignments false (Blocks.reading next fields).texts) := by
  induction fields generalizing next with
  | nil => exact .nil
  | cons field fields ih =>
      rw [Blocks.reading, Blocks.inOrder, Code.texts_append, Blocks.fieldReading,
        Code.texts_append, Code.texts_append, List.append_assoc, List.append_assoc,
        assignments_guard, assignments_inner (all_isInner_reading _ _), Code.texts_one,
        List.singleton_append, assignments_assign]
      exact .cons ⟨rfl, _, rfl⟩ (ih _)

theorem filter_isGuard_readBlock (fields : List Field) (next : Nat) :
    (Blocks.reading next fields).texts.filter isGuard =
      (fields.filter Field.compatible).flatMap
        (fun _ => ["if (!buffer.isReadable()) \x7b", "return packet;"]) := by
  induction fields generalizing next with
  | nil => rfl
  | cons field fields ih =>
      have hassign (value : String) : isGuard (Statement.assign field.name value).text = false :=
        isGuard_of_head (c := 'p') (by simp [Statement.text.eq_def]) (by decide)
      have hrest : (Blocks.inOrder Blocks.fieldReading (fun field => field.kind.readNames)
          (next + field.kind.readNames) fields).texts.filter isGuard = _ := ih _
      rw [Blocks.reading, Blocks.inOrder, Code.texts_append, Blocks.fieldReading,
        Code.texts_append, Code.texts_append, Code.texts_one]
      simp only [List.filter_append, filter_isGuard_guard,
        filter_isGuard_inner (all_isInner_reading _ _), List.filter_cons, hassign, hrest,
        List.append_nil]
      cases field.compatible <;> rfl

theorem all_not_isGuard_writeBlock (fields : List Field) (next : Nat) :
    (Blocks.writing next fields).texts.all (fun text => !isGuard text) = true := by
  induction fields generalizing next with
  | nil => rfl
  | cons field fields ih =>
      rw [Blocks.writing, Blocks.inOrder, Code.texts_append, List.all_append, Blocks.fieldWriting,
        all_not_isGuard_writing _ (.field _)]
      exact ih _

end Block

end Listing

namespace Blocks

open Listing

/-- A block that reads the fields of a message in declaration order. Its text gives
back for each field whether it is compatible. -/
structure ReadsInOrder (fields : List Field) (context after : Context) (block : Fragment) :
    Prop where
  depth : block.depth = bodyDepth
  lines : Reads context fields block.lines after
  assignments : List.Forall₂ Assigns fields (assignments false block.statements)
  guards : block.statements.filter isGuard = (fields.filter Field.compatible).flatMap
    (fun _ => ["if (!buffer.isReadable()) \x7b", "return packet;"])

/-- A block that writes the fields of a message in declaration order, compatible or
not. -/
structure WritesInOrder (fields : List Field) (context after : Context) (block : Fragment) :
    Prop where
  depth : block.depth = bodyDepth
  lines : Writes context fields block.lines after
  unguarded : ∀ text ∈ block.statements, isGuard text = false

theorem readsInOrder_reading (fields : List Field) (context : Context) :
    ReadsInOrder fields context
      (context.advance (totalNames (fun field => field.kind.readNames) fields))
      ((reading context.next fields).fragment bodyDepth) where
  depth := rfl
  lines := reads_reading fields context
  assignments := by
    rw [Code.statements_fragment]
    exact assignments_readBlock _ _
  guards := by
    rw [Code.statements_fragment]
    exact filter_isGuard_readBlock _ _

theorem writesInOrder_writing (fields : List Field) (context : Context) :
    WritesInOrder fields context
      (context.advance (totalNames (fun field => field.kind.writeNames) fields))
      ((writing context.next fields).fragment bodyDepth) where
  depth := rfl
  lines := writes_writing fields context
  unguarded := by
    rw [Code.statements_fragment]
    intro text htext
    simpa using List.all_eq_true.mp (all_not_isGuard_writeBlock fields context.next) text htext

/-- Within the limit both blocks of a message are emitted, from any context, and
each has the lines for every field in declaration order. The guard stands before
the compatible fields of the read block and nowhere else. -/
theorem ofMessage_inDeclarationOrder {fields : List Field} {context : Context}
    (hdepth : ∀ field ∈ fields, field.kind.depth ≤ context.limit) :
    (∃ code after, writeCode Table.full fields context = (.ok code, after) ∧
      WritesInOrder fields context after (code.fragment bodyDepth)) ∧
    (∃ code after, readCode Table.full fields context = (.ok code, after) ∧
      ReadsInOrder fields context after (code.fragment bodyDepth)) ∧
    ∀ id name document, ∃ blocks between after,
      ofMessage Table.full ⟨id, name, fields⟩ document context = (.ok blocks, after) ∧
      WritesInOrder fields (context.begin name) between blocks.write ∧
      ReadsInOrder fields between after blocks.read := by
  have hwrite (context' : Context) (hlimit : context'.limit = context.limit) :=
    @eachField_ok _ _ _ fields context' writeField_full
      ((nestingFault?_eq_none_iff _).mpr (hlimit ▸ hdepth))
  have hread (context' : Context) (hlimit : context'.limit = context.limit) :=
    @eachField_ok _ _ _ fields context' readField_full
      ((nestingFault?_eq_none_iff _).mpr (hlimit ▸ hdepth))
  refine ⟨⟨_, _, hwrite context rfl, writesInOrder_writing _ _⟩,
    ⟨_, _, hread context rfl, readsInOrder_reading _ _⟩, ?_⟩
  intro id name document
  have hbegin : (modify (fun context => context.begin name) : Emit Unit) context =
      (.ok (), context.begin name) := rfl
  let between := (context.begin name).advance
    (totalNames (fun field => field.kind.writeNames) fields)
  refine ⟨⟨parameterList fields, constructorBlock fields document,
      (writing (context.begin name).next fields).fragment bodyDepth,
      (reading between.next fields).fragment bodyDepth⟩, between, _, ?_,
    writesInOrder_writing _ _, readsInOrder_reading _ _⟩
  rw [ofMessage, Emit.bind_of_ok hbegin]
  refine (Emit.bind_of_ok (hwrite (context.begin name) rfl)).trans ?_
  exact Emit.bind_of_ok (hread between rfl)

/-- A compatible set between a plain map and a compatible packet. -/
theorem ofMessage_inDeclarationOrder_mixed :
    let fields : List Field :=
      [⟨"scores", "", .map (.scalar .string) (.sequence .list (.scalar .int)), false⟩,
        ⟨"tags", "", .sequence .set (.scalar .string), true⟩, ⟨"owner", "", .message 12, true⟩]
    (∀ field ∈ fields, field.kind.depth ≤ 32) ∧
      ∃ code after, readCode Table.full fields (.ofLimit 32) = (.ok code, after) ∧
        Reads (.ofLimit 32) fields (code.lines 0) after ∧
        code.texts.filter isGuard = ["if (!buffer.isReadable()) \x7b", "return packet;",
          "if (!buffer.isReadable()) \x7b", "return packet;"] := by
  intro fields
  have hdepth : ∀ field ∈ fields, field.kind.depth ≤ (Context.ofLimit 32).limit := by
    decide +kernel
  obtain ⟨-, ⟨code, after, hcode, horder⟩, -⟩ := ofMessage_inDeclarationOrder hdepth
  refine ⟨hdepth, code, after, hcode, horder.lines, ?_⟩
  rw [← Code.statements_fragment code bodyDepth]
  exact horder.guards

end Blocks

end WireScript
