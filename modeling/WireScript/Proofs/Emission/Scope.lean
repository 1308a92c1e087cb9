import Mathlib.Data.List.TakeWhile
import WireScript.Proofs.Emission.Names

/-! # Scoping of temporaries

A listing is scanned with the names declared in every open block. A line passes
when the temporaries it mentions are declared by then in a block still open, so a
listing that is scanned to its end uses no temporary early or outside its block.
-/

namespace WireScript

/-- The names that code reading a kind declares in the block it stands in. -/
def Kind.declared (next : Nat) : Kind → List String
  | .sequence _ _ | .map _ _ => [Name.temporary "size" (next + 1), Name.temporary "result" next]
  | .scalar _ | .message _ => [Name.temporary "result" next]

theorem Kind.result_mem_declared (kind : Kind) (next : Nat) :
    Name.temporary "result" next ∈ kind.declared next := by
  cases kind <;> simp [declared]

namespace Listing

/-- Whether a word may stand where some blocks are open: it starts from a name
declared in one of them, or from no temporary at all. -/
def visible (scopes : List (List String)) (word : String) : Bool :=
  !Name.isTemporary (root word) || scopes.flatten.contains (root word)

/-- Declare names in the innermost block. -/
def declare (introduced : List String) : List (List String) → List (List String)
  | [] => [introduced]
  | scope :: outer => (introduced ++ scope) :: outer

/-- The blocks open behind a line, with the names declared in each. -/
def following (closing opening : Bool) (introduced : List String)
    (scopes : List (List String)) : List (List String) :=
  let outer := if closing then scopes.tail else scopes
  if opening then introduced :: outer else declare introduced outer

/-- Pass a line that mentions visible temporaries only. -/
def enter (scopes : List (List String)) (text : String) : Option (List (List String)) :=
  let found := names text
  let outer := if closes text then scopes.tail else scopes
  let inner := following (closes text) (opens text) found.introduced scopes
  if found.before.all (visible outer) && found.after.all (visible inner) then some inner
  else none

/-- Whether every temporary of a listing is declared earlier, in a block that is
open where it is mentioned. -/
def Scoped (lines : List String) : Prop := (lines.foldlM enter [[]]).isSome = true

section Visible

variable {scopes : List (List String)}

/-- Members behind a word leave its variable as it is. -/
theorem root_append_member {word rest : String} (hrest : rest.toList.head? = some '.') :
    root (word ++ rest) = root word := by
  obtain ⟨members, hmembers⟩ := List.head?_eq_some_iff.mp hrest
  have hscan (name : List Char) : (name ++ '.' :: members).takeWhile (· != '.') =
      name.takeWhile (· != '.') := by
    induction name with
    | nil => rfl
    | cons c name ih => simp only [List.cons_append, List.takeWhile_cons, ih]
  rw [root, String.toList_append, hmembers, hscan]
  rfl

theorem root_temporary {stem : String} (hstem : '.' ∉ stem.toList) (number : Nat) :
    root (Name.temporary stem number) = Name.temporary stem number := by
  have hall : ∀ c ∈ (Name.temporary stem number).toList, (c != '.') = true := by
    intro c hc
    rw [bne_iff_ne]
    rintro rfl
    rcases Name.mem_temporary hc with hmem | hdigit
    · exact hstem hmem
    · cases hdigit
  rw [root, List.takeWhile_eq_self_iff.mpr hall, String.ofList_toList]

theorem visible_of_plain {word : String} (hplain : Name.isTemporary (root word) = false) :
    visible scopes word = true := by
  rw [visible, hplain]
  rfl

theorem visible_of_mem {word : String} (hmem : root word ∈ scopes.flatten) :
    visible scopes word = true := by
  rw [visible, List.contains_iff_mem.mpr hmem, Bool.or_true]

/-- A word that begins like no temporary may stand anywhere. -/
theorem visible_of_head {word : String} {c : Char} (hhead : word.toList.head? = some c)
    (hc : c ∉ ['.', 'r', 's', 'i', 'e', 'k', 'v']) : visible scopes word = true := by
  apply visible_of_plain
  obtain ⟨rest, hlist⟩ := List.head?_eq_some_iff.mp hhead
  rw [List.mem_cons, not_or] at hc
  apply Name.isTemporary_eq_false (c := c)
  · simp [root, hlist, hc.1]
  · exact hc.2

theorem visible_decimal (number : Nat) : visible scopes (Text.decimal number) = true := by
  obtain ⟨digit, rest, hlist⟩ := List.exists_cons_of_ne_nil (Text.decimal_ne_nil number)
  have hdigit : digit.isDigit = true :=
    Text.isDigit_of_mem_decimal (hlist ▸ List.mem_cons_self)
  refine visible_of_head (c := digit) (by rw [hlist]; rfl) ?_
  intro hmem
  have hinitials : ['.', 'r', 's', 'i', 'e', 'k', 'v'].all (!·.isDigit) = true := by decide
  have hnone := List.all_eq_true.mp hinitials digit hmem
  rw [hdigit] at hnone
  cases hnone

theorem visible_buffer (method : String) : visible scopes ("buffer." ++ method) = true :=
  visible_of_head (c := 'b') (by simp) (by decide)

theorem visible_packet (field : String) : visible scopes ("packet." ++ field) = true :=
  visible_of_head (c := 'p') (by simp) (by decide)

theorem visible_temporary {stem : String} (hstem : stem ∈ Name.temporaryStems) {number : Nat}
    (hmem : Name.temporary stem number ∈ scopes.flatten) :
    visible scopes (Name.temporary stem number) = true := by
  have hstems : ∀ stem ∈ Name.temporaryStems, '.' ∉ stem.toList := by decide
  apply visible_of_mem
  rwa [root_temporary (hstems stem hstem)]

theorem visible_append_member {word : String} (rest : String) (hrest : rest.toList.head? = some '.')
    (hword : visible scopes word = true) : visible scopes (word ++ rest) = true := by
  rw [visible, root_append_member hrest]
  exact hword

theorem visible_inner (scope : List String) {word : String}
    (hword : visible scopes word = true) : visible (scope :: scopes) word = true := by
  unfold visible at hword ⊢
  rcases Bool.or_eq_true_iff.mp hword with hplain | hmem
  · rw [hplain, Bool.true_or]
  · rw [List.contains_iff_mem] at hmem
    rw [Bool.or_eq_true_iff, List.contains_iff_mem, List.flatten_cons]
    exact .inr (List.mem_append_right scope hmem)

end Visible

section Lines

variable {text : String} {rest : List String} {before introduced after : List String}
variable {scope : List String} {scopes : List (List String)}

/-- A line with visible words is passed. -/
theorem enter_line {closing opening : Bool}
    (hshape : HasShape text closing opening ⟨before, introduced, after⟩)
    (hbefore : before.all (visible (if closing then scopes.tail else scopes)) = true)
    (hafter : after.all (visible (following closing opening introduced scopes)) = true) :
    (text :: rest).foldlM enter scopes =
      rest.foldlM enter (following closing opening introduced scopes) := by
  have henter : enter scopes text = some (following closing opening introduced scopes) := by
    simp only [enter, hshape.closes, hshape.opens, hshape.names, hbefore, hafter, Bool.and_self,
      if_true]
  rw [List.foldlM_cons, henter]
  rfl

theorem enter_statement (hshape : HasShape text false false ⟨before, [], []⟩)
    (hbefore : before.all (visible (scope :: scopes)) = true) :
    (text :: rest).foldlM enter (scope :: scopes) = rest.foldlM enter (scope :: scopes) :=
  enter_line hshape hbefore rfl

theorem enter_constant {name : String}
    (hshape : HasShape text false false ⟨["const"], [name], after⟩)
    (hafter : after.all (visible ((name :: scope) :: scopes)) = true) :
    (text :: rest).foldlM enter (scope :: scopes) =
      rest.foldlM enter ((name :: scope) :: scopes) := by
  refine enter_line hshape ?_ hafter
  rw [List.all_cons, visible_of_plain (by decide)]
  rfl

theorem enter_opening (hshape : HasShape text false true ⟨before, introduced, after⟩)
    (hbefore : before.all (visible scopes) = true)
    (hafter : after.all (visible (introduced :: scopes)) = true) :
    (text :: rest).foldlM enter scopes = rest.foldlM enter (introduced :: scopes) :=
  enter_line hshape hbefore hafter

theorem enter_closing {inner : List String} (hshape : HasShape text true false ⟨[], [], []⟩) :
    (text :: rest).foldlM enter (inner :: scope :: scopes) =
      rest.foldlM enter (scope :: scopes) :=
  enter_line hshape rfl rfl

theorem enter_else {inner : List String} :
    ("\x7d else \x7b" :: rest).foldlM enter (inner :: scopes) =
      rest.foldlM enter ([] :: scopes) := by
  refine enter_line hasShape_else ?_ rfl
  rw [List.all_cons, visible_of_plain (by decide)]
  rfl

end Lines

section Write

variable {source : String} {rest scope : List String} {scopes : List (List String)}

/-- Writing a container leaves the blocks around it as they are, when the code
for its entries does so among the parameters. -/
theorem enter_writeContainer (hsource : IsSource source) (hword : IsWord source)
    (hvisible : visible (scope :: scopes) source = true) {measure : String}
    (hmeasure : IsWord measure) {parameters : List String}
    (hparameters : ∀ parameter ∈ parameters, IsWord parameter) (body : Code) :
    ((Strategy.writeContainer source measure parameters body).texts ++ rest).foldlM enter
        (scope :: scopes) =
      (body.texts ++ "\x7d);" :: "\x7d" :: rest).foldlM enter
        (parameters :: [] :: scope :: scopes) := by
  have hinner := visible_inner [] hvisible
  rw [Code.texts_writeContainer]
  simp only [List.cons_append, List.append_assoc, List.nil_append]
  rw [enter_opening (hasShape_ifNull hword), enter_statement hasShape_zero, enter_else,
    enter_statement (hasShape_writeCount hword hmeasure),
    enter_opening (hasShape_each hsource hword hparameters)]
  · simp [visible_append_member ".forEach" (by decide) hinner]
  · rfl
  · have hcount := visible_append_member ("." ++ measure) (by simp) hinner
    rw [← String.append_assoc] at hcount
    simp +decide [visible_of_plain, hcount]
  · simp +decide [visible_of_plain]
  · simp +decide [visible_of_plain, hvisible]
  · rfl

/-- Code that writes a visible value is passed, and leaves the blocks around it
as they are. -/
theorem enter_writing (kind : Kind) (hsource : IsSource source) (hword : IsWord source)
    (hvisible : visible (scope :: scopes) source = true) (next : Nat) :
    ((kind.writing source next).texts ++ rest).foldlM enter (scope :: scopes) =
      rest.foldlM enter (scope :: scopes) := by
  induction kind generalizing source next scope scopes rest with
  | scalar s =>
      have hmethod : IsWord ("write" ++ s.methodName) := .writeMethod s
      rw [Kind.writing, Code.texts_one, List.singleton_append,
        enter_statement (hasShape_write hword hmethod)]
      simp [visible_buffer, hvisible]
  | message id =>
      rw [Kind.writing, Code.texts_one, List.singleton_append,
        enter_statement (hasShape_writeMessage hword id)]
      simp +decide [visible_of_plain, hvisible, visible_decimal]
  | sequence collection element ih =>
      have hmeasure : IsWord collection.measure := .measure collection
      have hname : IsWord (Name.temporary "element" next) :=
        IsWord.temporary _ (by decide) next
      rw [Kind.writing, enter_writeContainer hsource hword hvisible hmeasure (by simpa using hname),
        ih (.entry (by decide) _) hname, enter_closing hasShape_bracket,
        enter_closing hasShape_brace]
      exact visible_temporary (by decide) (by simp)
  | map key value ihKey ihValue =>
      have hkey : IsWord (Name.temporary "key" next) :=
        IsWord.temporary _ (by decide) next
      have hvalue : IsWord (Name.temporary "value" (next + 1)) :=
        IsWord.temporary _ (by decide) (next + 1)
      rw [Kind.writing, enter_writeContainer hsource hword hvisible (by constructor <;> decide)
        (by simp [hkey, hvalue]), Code.texts_append, List.append_assoc,
        ihKey (.entry (by decide) _) hkey, ihValue (.entry (by decide) _) hvalue,
        enter_closing hasShape_bracket, enter_closing hasShape_brace]
      · exact visible_temporary (by decide) (by simp)
      · exact visible_temporary (by decide) (by simp)

end Write

section Read

variable {rest scope : List String} {scopes : List (List String)}

/-- Reading a container declares it and its size, and then reads the entries in
the body of a loop. -/
theorem enter_readContainer (container : Container) (number : Nat) (body : Code) :
    ((Strategy.readContainer (.one (.create (Name.temporary "result" number) container))
        (Name.temporary "size" (number + 1)) (Name.temporary "index" (number + 2)) body).texts ++
          rest).foldlM enter (scope :: scopes) =
      (body.texts ++ "\x7d" :: "\x7d" :: rest).foldlM enter
        ([Name.temporary "index" (number + 2)] :: [] ::
          (Name.temporary "size" (number + 1) :: Name.temporary "result" number :: scope) ::
            scopes) := by
  have hname : IsWord (Name.temporary "result" number) :=
    IsWord.temporary _ (by decide) number
  have hsize : IsWord (Name.temporary "size" (number + 1)) :=
    IsWord.temporary _ (by decide) (number + 1)
  have hindex : IsWord (Name.temporary "index" (number + 2)) :=
    IsWord.temporary _ (by decide) (number + 2)
  have hvisible (inner : List (List String)) : visible (inner ++
      (Name.temporary "size" (number + 1) :: Name.temporary "result" number :: scope) :: scopes)
        (Name.temporary "size" (number + 1)) = true :=
    visible_temporary (by decide) (by simp)
  have hcounter (outer : List (List String)) :
      visible ([Name.temporary "index" (number + 2)] :: outer)
        (Name.temporary "index" (number + 2)) = true :=
    visible_temporary (by decide) (by simp)
  rw [Code.texts_readContainer]
  simp only [List.cons_append, List.append_assoc, List.nil_append]
  rw [enter_constant (hasShape_create hname container),
    enter_constant (hasShape_read hsize (by constructor <;> decide)),
    enter_opening (hasShape_positive hsize), enter_opening (hasShape_count hindex hsize)]
  · simp +decide [visible_of_plain]
  · simpa +decide [visible_of_plain, hcounter] using hvisible [[_], []]
  · simpa +decide [visible_of_plain] using hvisible []
  · rfl
  · rw [List.all_cons, visible_buffer]
    rfl
  · cases container <;> simp +decide [Container.freshWords, visible_of_plain]

theorem enter_guard (field : Field) :
    ((Blocks.guard field).texts ++ rest).foldlM enter (scope :: scopes) =
      rest.foldlM enter (scope :: scopes) := by
  rw [Code.texts_guard]
  split
  next =>
    simp only [List.cons_append, List.nil_append]
    rw [enter_opening hasShape_exhausted, enter_statement hasShape_leave,
      enter_closing hasShape_brace]
    · simp +decide [visible_of_plain]
    · simp +decide [visible_of_plain]
    · rfl
  next => rfl

theorem enter_insert (container : Container) (number : Nat) {values : List String}
    (hname : Name.temporary "result" number ∈ (scope :: scopes).flatten)
    (hvalues : ∀ value ∈ values, IsWord value ∧ visible (scope :: scopes) value = true) :
    ((Statement.insert container (Name.temporary "result" number) values).text :: rest).foldlM
        enter (scope :: scopes) =
      rest.foldlM enter (scope :: scopes) := by
  apply enter_statement (hasShape_insert number container (fun value h => (hvalues value h).1))
  have hcall := visible_append_member ("." ++ container.method) (by simp)
    (visible_temporary (by decide) hname)
  rw [← String.append_assoc] at hcall
  rw [List.all_cons, hcall, Bool.true_and, List.all_eq_true]
  exact fun value h => (hvalues value h).2

/-- Code that reads a kind is passed, and declares its result in the block it
stands in. -/
theorem enter_reading (kind : Kind) (next : Nat) :
    ((kind.reading next).texts ++ rest).foldlM enter (scope :: scopes) =
      rest.foldlM enter ((kind.declared next ++ scope) :: scopes) := by
  induction kind generalizing next scope scopes rest with
  | scalar s =>
      have hmethod : IsWord ("read" ++ s.methodName) := .readMethod s
      rw [Kind.reading, Code.texts_one, List.singleton_append,
        enter_constant (hasShape_read (IsWord.temporary _ (by decide) next) hmethod)]
      · rfl
      · rw [List.all_cons, visible_buffer]
        rfl
  | message id =>
      rw [Kind.reading, Code.texts_one, List.singleton_append,
        enter_constant (hasShape_readMessage (IsWord.temporary _ (by decide) next) id)]
      · rfl
      · simp +decide [visible_of_plain, visible_decimal]
  | sequence collection element ih =>
      rw [Kind.reading, enter_readContainer, Code.texts_append, List.append_assoc, ih,
        Code.texts_one, List.singleton_append, enter_insert, enter_closing hasShape_brace,
        enter_closing hasShape_brace]
      · rfl
      · simp
      · intro value hvalue
        obtain rfl := List.mem_singleton.mp hvalue
        refine ⟨IsWord.temporary _ (by decide) _, visible_temporary (by decide) ?_⟩
        simp [element.result_mem_declared]
  | map key value ihKey ihValue =>
      rw [Kind.reading, enter_readContainer, Code.texts_append, Code.texts_append,
        List.append_assoc, List.append_assoc, ihKey, ihValue, Code.texts_one,
        List.singleton_append, enter_insert, enter_closing hasShape_brace,
        enter_closing hasShape_brace]
      · rfl
      · simp
      · -- key and value are declared in the body of the loop, the map around it
        intro entry hentry
        simp only [List.mem_cons, List.not_mem_nil, or_false] at hentry
        rcases hentry with rfl | rfl
        · refine ⟨IsWord.temporary _ (by decide) _, visible_temporary (by decide) ?_⟩
          simp [key.result_mem_declared]
        · refine ⟨IsWord.temporary _ (by decide) _, visible_temporary (by decide) ?_⟩
          simp [value.result_mem_declared]

theorem enter_assign {field : String} (hfield : IsWord field) {number : Nat}
    (hvalue : Name.temporary "result" number ∈ (scope :: scopes).flatten) :
    ((Statement.assign field (Name.temporary "result" number)).text :: rest).foldlM enter
        (scope :: scopes) =
      rest.foldlM enter (scope :: scopes) := by
  apply enter_statement (hasShape_assign hfield (IsWord.temporary _ (by decide) number))
  simp [visible_packet, visible_temporary (by decide) hvalue]

end Read

section Blocks

variable {fields : List Field} {scope : List String} {scopes : List (List String)}

theorem enter_writeBlock (hfields : ∀ field ∈ fields, IsWord field.name) (next : Nat) :
    (Blocks.writing next fields).texts.foldlM enter (scope :: scopes) =
      some (scope :: scopes) := by
  induction fields generalizing next with
  | nil => rfl
  | cons field fields ih =>
      obtain ⟨hfield, hrest⟩ := List.forall_mem_cons.mp hfields
      have hword : IsWord ("packet." ++ field.name) := hfield.packet
      rw [Blocks.writing, Blocks.inOrder, Code.texts_append, Blocks.fieldWriting,
        enter_writing _ (.field _) hword (visible_packet _)]
      exact ih hrest _

theorem enter_readBlock (hfields : ∀ field ∈ fields, IsWord field.name) (next : Nat) :
    ∃ declared, (Blocks.reading next fields).texts.foldlM enter (scope :: scopes) =
      some (declared :: scopes) := by
  induction fields generalizing next scope with
  | nil => exact ⟨scope, rfl⟩
  | cons field fields ih =>
      obtain ⟨hfield, hrest⟩ := List.forall_mem_cons.mp hfields
      rw [Blocks.reading, Blocks.inOrder, Code.texts_append, Blocks.fieldReading,
        Code.texts_append, Code.texts_append, List.append_assoc, List.append_assoc, enter_guard,
        enter_reading, Code.texts_one, List.singleton_append, enter_assign hfield]
      · exact ih hrest _
      · simp [field.kind.result_mem_declared]

end Blocks

end Listing

end WireScript
