import WireScript.Proofs.Emission.Full

/-! # Spliced lines

Lines are made at a depth and spliced into the lines around them, entries of a
container two levels deeper than the container. Whatever the table, these are the
lines of the tree for the same value, laid out at that depth; so the depth shows in
nothing but the place of the fragment as a whole.
-/

namespace WireScript

namespace Code

/-- Code some levels further in has the same lines, each moved by as many levels. -/
theorem lines_add (code : Code) (level more : Nat) :
    code.lines (level + more) = (code.lines level).map (Fragment.shift more) := by
  induction code generalizing level with
  | done => rfl
  | step statement rest ih => simp [lines, Fragment.shift, ih]
  | block head body rest ihBody ihRest =>
      simp [lines, Fragment.shift, ihRest, ← ihBody, Nat.add_right_comm]
  | ifNull source absent present rest ihAbsent ihPresent ihRest =>
      simp [lines, Fragment.shift, ihRest, ← ihAbsent, ← ihPresent, Nat.add_right_comm]

end Code

namespace Fragment

variable {front : Fragment} {depth : Nat}

/-- Code laid out below a fragment keeps its lines where they are. -/
theorem append_fragment (hdepth : front.depth = depth) (code : Code) (levels : Nat) :
    front.append (code.fragment (depth + levels)) =
      ⟨depth, front.lines ++ code.lines levels⟩ := by
  have hlines := code.lines_add 0 levels
  rw [Nat.zero_add] at hlines
  simp [append, Code.fragment, hdepth, hlines]

theorem append_fragment_append (hdepth : front.depth = depth) (first second : Code)
    (levels : Nat) :
    (front.append (first.fragment (depth + levels))).append (second.fragment (depth + levels)) =
      front.append ((first ++ second).fragment (depth + levels)) := by
  rw [append_fragment hdepth, append_fragment rfl, append_fragment hdepth, Code.lines_append,
    List.append_assoc]

end Fragment

/-- The lines that read a value, laid out at a depth, and the value. -/
def ReadCode.linesAt (entry : ReadCode) (depth : Nat) : Fragment × String :=
  (entry.code.fragment depth, entry.value)

namespace Strategy

section Container

variable {source measure name size index : String} {parameters : List String}
variable {container : Container} {depth : Nat}

theorem beginWrite_depth : (beginWrite source measure parameters depth).depth = depth := rfl

theorem beginRead_depth : (beginRead
    ((Fragment.empty depth).line (Statement.create name container).text) size index).depth =
      depth := rfl

/-- A written container around its entries. -/
theorem endWrite_beginWrite (body : Code) :
    endWrite ((beginWrite source measure parameters depth).append (body.fragment (depth + 2))) =
      (writeContainer source measure parameters body).fragment depth := by
  rw [Fragment.append_fragment beginWrite_depth]
  simp [endWrite, beginWrite, writeContainer, Code.fragment, Code.lines, Code.one, Head.closing,
    Fragment.line, Fragment.indented, Fragment.empty]

/-- A read container around its entries, each inserted behind its lines. -/
theorem endRead_beginRead (body : Code) (insertion : Statement) :
    endRead ((beginRead ((Fragment.empty depth).line (Statement.create name container).text)
        size index).append (body.fragment (depth + 2))) insertion =
      (readContainer (.one (.create name container)) size index
        (body ++ .one insertion)).fragment depth := by
  rw [Fragment.append_fragment beginRead_depth]
  simp [endRead, beginRead, readContainer, Code.fragment, Code.lines, Code.lines_append, Code.one,
    Head.closing, Fragment.line, Fragment.indented, Fragment.empty]

end Container

/-- The lines made at a depth are those of the tree, with the same names taken and
the same fault, if any. -/
theorem writeAt_eq (table : Table) (strategy : Strategy) (kind : Kind) (source : String)
    (depth : Nat) :
    strategy.writeAt table kind source depth =
      (Code.fragment · depth) <$> strategy.write table kind source := by
  induction kind generalizing strategy source depth with
  | scalar s => cases strategy <;> rfl
  | message id => cases strategy <;> rfl
  | sequence collection element ih =>
      cases strategy with
      | scalar writer reader => rfl
      | sequence collection =>
          simp only [writeAt, write, map_bind, map_pure, ih, bind_map_left, endWrite_beginWrite]
      | entries => rfl
      | nested => rfl
  | map key value ihKey ihValue =>
      cases strategy with
      | scalar writer reader => rfl
      | sequence collection => rfl
      | entries =>
          simp only [writeAt, write, map_bind, map_pure, ihKey, ihValue, bind_map_left,
            Fragment.append_fragment_append beginWrite_depth, endWrite_beginWrite]
      | nested => rfl

theorem readAt_eq (table : Table) (strategy : Strategy) (kind : Kind) (depth : Nat) :
    strategy.readAt table kind depth =
      (ReadCode.linesAt · depth) <$> strategy.read table kind := by
  induction kind generalizing strategy depth with
  | scalar s => cases strategy <;> rfl
  | message id => cases strategy <;> rfl
  | sequence collection element ih =>
      cases strategy with
      | scalar writer reader => rfl
      | sequence collection =>
          simp only [readAt, read, declareAt, declare, ReadCode.linesAt, map_bind, map_pure, ih,
            bind_map_left, bind_assoc, pure_bind, endRead_beginRead]
      | entries => rfl
      | nested => rfl
  | map key value ihKey ihValue =>
      cases strategy with
      | scalar writer reader => rfl
      | sequence collection => rfl
      | entries =>
          simp only [readAt, read, declareAt, declare, ReadCode.linesAt, map_bind, map_pure, ihKey,
            ihValue, bind_map_left, bind_assoc, pure_bind,
            Fragment.append_fragment_append beginRead_depth, endRead_beginRead]
      | nested => rfl

end Strategy

theorem Emit.map_apply {α β : Type} (f : α → β) (action : Emit α) (context : Context) :
    (f <$> action) context = ((action context).1.map f, (action context).2) := by
  rcases haction : action context with ⟨result, after⟩
  cases result with
  | ok value => exact bind_of_ok haction
  | error fault => exact bind_of_error haction

namespace Table

theorem writeAt_eq (table : Table) (kind : Kind) (source : String) (depth : Nat) :
    table.writeAt kind source depth = (Code.fragment · depth) <$> table.write kind source := by
  simp only [writeAt, write, map_bind, Strategy.writeAt_eq]

theorem readAt_eq (table : Table) (kind : Kind) (depth : Nat) :
    table.readAt kind depth = (ReadCode.linesAt · depth) <$> table.read kind := by
  simp only [readAt, read, map_bind, Strategy.readAt_eq]

/-- What is emitted at one depth is what is emitted at another, moved there as a whole:
the same lines and the same value or the same fault, and the same context behind it. -/
theorem emission_reindent (table : Table) (kind : Kind) (source : String) (context : Context)
    (depth depth' : Nat) :
    table.writeAt kind source depth' context =
        ((table.writeAt kind source depth context).1.map (Fragment.reindent · depth'),
          (table.writeAt kind source depth context).2) ∧
      table.readAt kind depth' context =
        ((table.readAt kind depth context).1.map (fun read => (read.1.reindent depth', read.2)),
          (table.readAt kind depth context).2) := by
  constructor
  · rw [writeAt_eq, writeAt_eq, Emit.map_apply, Emit.map_apply]
    cases (table.write kind source context).1 with
    | ok code => rfl
    | error fault => rfl
  · rw [readAt_eq, readAt_eq, Emit.map_apply, Emit.map_apply]
    cases (table.read kind context).1 with
    | ok entry => rfl
    | error fault => rfl

end Table

namespace Blocks

/-- Code for a field that is spliced behind a block, whatever the block holds. -/
def Splices (onto : Fragment → Field → Emit Fragment) (emit : Field → Emit Code) : Prop :=
  ∀ lines field, onto ⟨bodyDepth, lines⟩ field =
    (fun code => ⟨bodyDepth, lines ++ code.lines 0⟩) <$> emit field

theorem append_fragment (lines : List Line) (code : Code) :
    (Fragment.mk bodyDepth lines).append (code.fragment bodyDepth) =
      ⟨bodyDepth, lines ++ code.lines 0⟩ :=
  Fragment.append_fragment rfl code 0

theorem writeOnto_splices (table : Table) : Splices (writeOnto table) (writeField table) := by
  intro lines field
  simp only [writeOnto, writeField, Table.writeAt_eq, map_bind, bind_map_left, append_fragment]
  simp only [bind_pure_comp]

theorem guardOnto_eq (lines : List Line) (field : Field) :
    guardOnto ⟨bodyDepth, lines⟩ field = ⟨bodyDepth, lines ++ (guard field).lines 0⟩ := by
  unfold guardOnto guard
  split
  next => simp [Fragment.line, Fragment.indented, Code.lines, Code.one, Head.closing]
  next => simp [Code.lines]

theorem readOnto_splices (table : Table) : Splices (readOnto table) (readField table) := by
  intro lines field
  have hassign (lines : List Line) (statement : Statement) :
      (Fragment.mk bodyDepth lines).line statement.text =
        ⟨bodyDepth, lines ++ (Code.one statement).lines 0⟩ := rfl
  simp only [readOnto, readField, Table.readAt_eq, ReadCode.linesAt, map_bind, bind_map_left,
    guardOnto_eq, append_fragment, hassign, map_pure, Code.lines_append, List.append_assoc]

/-- Splicing field by field gives the lines of the code for every field. -/
theorem foldlM_onto {onto : Fragment → Field → Emit Fragment} {emit : Field → Emit Code}
    (honto : Splices onto emit) (fields : List Field) (lines : List Line) :
    fields.foldlM onto ⟨bodyDepth, lines⟩ =
      (fun code => ⟨bodyDepth, lines ++ code.lines 0⟩) <$> eachField emit fields := by
  induction fields generalizing lines with
  | nil => simp [eachField, Code.lines]
  | cons field rest ih =>
      rw [List.foldlM_cons, honto, eachField]
      simp only [bind_map_left, ih, map_bind, map_pure]
      simp only [bind_pure_comp, ← Code.lines_append, List.append_assoc]

/-- The lines that write every field are those of the tree that does. -/
theorem writeBlock_eq (table : Table) (fields : List Field) :
    writeBlock table fields = (Code.fragment · bodyDepth) <$> writeCode table fields := by
  rw [writeBlock, Fragment.empty, foldlM_onto (writeOnto_splices table)]
  rfl

/-- The lines that read every field are those of the tree that does. -/
theorem readBlock_eq (table : Table) (fields : List Field) :
    readBlock table fields = (Code.fragment · bodyDepth) <$> readCode table fields := by
  rw [readBlock, Fragment.empty, foldlM_onto (readOnto_splices table)]
  rfl

end Blocks

end WireScript
