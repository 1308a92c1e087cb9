import Mathlib.Data.List.Nodup
import WireScript.Proofs.Emission.Names

/-! # Numbering of temporaries

Temporaries are told apart by their numbers. The names a piece of code introduces
carry the numbers of one interval, each of them once, and code emitted later
carries on where the interval ends; so no name is introduced twice.
-/

namespace WireScript

/-- The number at the end of a name. -/
def Name.number (name : String) : Nat :=
  Nat.ofDigitChars 10 (name.toList.reverse.takeWhile Char.isDigit).reverse 0

theorem Name.number_temporary (stem : String) (hstem : stem ∈ Name.temporaryStems)
    (number : Nat) : Name.number (Name.temporary stem number) = number := by
  have hstems : ∀ stem ∈ Name.temporaryStems,
      stem.toList.reverse.takeWhile Char.isDigit = [] := by
    decide
  have hdigits : ∀ c ∈ (Text.decimal number).toList.reverse, c.isDigit = true := by
    intro c hc
    exact Text.isDigit_of_mem_decimal (List.mem_reverse.mp hc)
  rw [Name.number, temporary, String.toList_append, List.reverse_append,
    List.takeWhile_append_of_pos hdigits, hstems stem hstem, List.append_nil,
    List.reverse_reverse, Text.ofDigitChars_decimal]

namespace Listing

/-- The names the lines of a listing introduce, from top to bottom. -/
def introductions (lines : List String) : List String :=
  lines.flatMap (fun text => (names text).introduced)

theorem introductions_cons {text : String} {closing opening : Bool}
    {before introduced after : List String}
    (hshape : HasShape text closing opening ⟨before, introduced, after⟩) (rest : List String) :
    introductions (text :: rest) = introduced ++ introductions rest := by
  rw [introductions, List.flatMap_cons, hshape.names]
  rfl

theorem introductions_append (first second : List String) :
    introductions (first ++ second) = introductions first ++ introductions second :=
  List.flatMap_append

/-- The names a listing introduces are temporaries, and their numbers are the
`count` numbers from `next` on. -/
structure Numbered (lines : List String) (next count : Nat) : Prop where
  isTemporary : ∀ name ∈ introductions lines, Name.isTemporary name = true
  numbers : ((introductions lines).map Name.number).Perm (List.range' next count)

namespace Numbered

theorem nodup {lines : List String} {next count : Nat} (hlines : Numbered lines next count) :
    (introductions lines).Nodup :=
  List.Nodup.of_map Name.number (hlines.numbers.nodup_iff.mpr List.nodup_range')

/-- Code that carries on with the next number. -/
theorem append {first second : List String} {next before after : Nat}
    (hfirst : Numbered first next before) (hsecond : Numbered second (next + before) after) :
    Numbered (first ++ second) next (before + after) := by
  constructor
  · intro name hname
    rw [introductions_append, List.mem_append] at hname
    exact hname.elim (hfirst.isTemporary name) (hsecond.isTemporary name)
  · rw [introductions_append, List.map_append, ← List.range'_append_1]
    exact hfirst.numbers.append hsecond.numbers

/-- A line that introduces nothing takes no number. -/
theorem plain {text : String} {closing opening : Bool} {found : List String}
    (hshape : HasShape text closing opening ⟨found, [], []⟩) (next : Nat) :
    Numbered [text] next 0 := by
  have hline := introductions_cons hshape []
  constructor <;> rw [hline] <;> simp [introductions]

/-- Code that introduces temporaries of its own around other code. -/
theorem around (own : List String) {lines inner : List String} {next count : Nat}
    (hlines : introductions lines = own ++ introductions inner)
    (hown : ∀ name ∈ own, Name.isTemporary name = true)
    (hnumbers : (own.map Name.number).Perm (List.range' next own.length))
    (hinner : Numbered inner (next + own.length) count) :
    Numbered lines next (own.length + count) := by
  constructor
  · intro name hname
    rw [hlines, List.mem_append] at hname
    exact hname.elim (hown name) (hinner.isTemporary name)
  · rw [hlines, List.map_append, ← List.range'_append_1]
    exact hnumbers.append hinner.numbers

end Numbered

section Write

variable {source : String}

theorem introductions_writeContainer (hsource : IsSource source) (hword : IsWord source)
    {measure : String} (hmeasure : IsWord measure) {parameters : List String}
    (hparameters : ∀ parameter ∈ parameters, IsWord parameter) (body : Code) :
    introductions (Strategy.writeContainer source measure parameters body).texts =
      parameters ++ introductions body.texts := by
  rw [Code.texts_writeContainer, introductions_cons (hasShape_ifNull hword),
    introductions_cons hasShape_zero, introductions_cons hasShape_else,
    introductions_cons (hasShape_writeCount hword hmeasure),
    introductions_cons (hasShape_each hsource hword hparameters), introductions_append,
    introductions_cons hasShape_bracket, introductions_cons hasShape_brace]
  simp [introductions]

theorem numbered_writing (kind : Kind) (hsource : IsSource source) (hword : IsWord source)
    (next : Nat) : Numbered (kind.writing source next).texts next kind.writeNames := by
  induction kind generalizing source next with
  | scalar s =>
      have hmethod : IsWord ("write" ++ s.methodName) := .writeMethod s
      rw [Kind.writing, Code.texts_one]
      exact .plain (hasShape_write hword hmethod) next
  | message id =>
      rw [Kind.writing, Code.texts_one]
      exact .plain (hasShape_writeMessage hword id) next
  | sequence collection element ih =>
      have hmeasure : IsWord collection.measure := .measure collection
      have hname := IsWord.temporary "element" (by decide) next
      rw [Kind.writing]
      refine Numbered.around [_] (introductions_writeContainer hsource hword hmeasure
        (by simpa using hname) _) ?_ ?_ (ih (.entry (by decide) _) hname _)
      · simp [Name.isTemporary_temporary "element" (by decide)]
      · simp [Name.number_temporary "element" (by decide)]
  | map key value ihKey ihValue =>
      have hkey := IsWord.temporary "key" (by decide) next
      have hvalue := IsWord.temporary "value" (by decide) (next + 1)
      rw [Kind.writing, Kind.writeNames, Nat.add_assoc]
      refine Numbered.around [_, _] (introductions_writeContainer hsource hword
        (by constructor <;> decide) (by simp [hkey, hvalue]) _) ?_ ?_ ?_
      · simp [Name.isTemporary_temporary "key" (by decide),
          Name.isTemporary_temporary "value" (by decide)]
      · -- the parameters stand in the other order than their numbers
        simp only [List.map_cons, List.map_nil, Name.number_temporary "key" (by decide),
          Name.number_temporary "value" (by decide)]
        exact List.Perm.swap _ _ _
      · rw [Code.texts_append]
        refine (ihKey (.entry (by decide) _) hkey _).append ?_
        rw [Nat.add_assoc]
        exact ihValue (.entry (by decide) _) hvalue _

end Write

section Read

theorem introductions_readContainer (container : Container) (number : Nat) (body : Code) :
    introductions (Strategy.readContainer (.one (.create (Name.temporary "result" number)
      container)) (Name.temporary "size" (number + 1)) (Name.temporary "index" (number + 2))
        body).texts =
      [Name.temporary "result" number, Name.temporary "size" (number + 1),
        Name.temporary "index" (number + 2)] ++ introductions body.texts := by
  have hname := IsWord.temporary "result" (by decide) number
  have hsize := IsWord.temporary "size" (by decide) (number + 1)
  have hindex := IsWord.temporary "index" (by decide) (number + 2)
  rw [Code.texts_readContainer, introductions_cons (hasShape_create hname container),
    introductions_cons (hasShape_read hsize (by constructor <;> decide)),
    introductions_cons (hasShape_positive hsize), introductions_cons (hasShape_count hindex hsize),
    introductions_append, introductions_cons hasShape_brace, introductions_cons hasShape_brace]
  simp [introductions]

/-- Reading a container introduces three temporaries around those of its
entries. -/
theorem Numbered.readContainer {container : Container} {number count : Nat} {body : Code}
    (hbody : Numbered body.texts (number + 3) count) :
    Numbered (Strategy.readContainer (.one (.create (Name.temporary "result" number)
      container)) (Name.temporary "size" (number + 1)) (Name.temporary "index" (number + 2))
        body).texts number (3 + count) := by
  refine around [_, _, _] (introductions_readContainer container number body) ?_ ?_ hbody
  · simp [Name.isTemporary_temporary "result" (by decide),
      Name.isTemporary_temporary "size" (by decide),
      Name.isTemporary_temporary "index" (by decide)]
  · simp only [List.map_cons, List.map_nil, Name.number_temporary "result" (by decide),
      Name.number_temporary "size" (by decide),
      Name.number_temporary "index" (by decide)]
    exact List.Perm.refl _

/-- The constant a value is read into takes one number. -/
theorem Numbered.constant {text : String} {found : List String} {next : Nat}
    (hshape : HasShape text false false ⟨["const"], [Name.temporary "result" next], found⟩) :
    Numbered [text] next 1 := by
  have hline := introductions_cons hshape []
  constructor
  · rw [hline]
    simp [introductions, Name.isTemporary_temporary "result" (by decide)]
  · rw [hline]
    simp [introductions, Name.number_temporary "result" (by decide)]

theorem numbered_reading (kind : Kind) (next : Nat) :
    Numbered (kind.reading next).texts next kind.readNames := by
  induction kind generalizing next with
  | scalar s =>
      have hmethod : IsWord ("read" ++ s.methodName) := .readMethod s
      rw [Kind.reading, Code.texts_one]
      exact .constant (hasShape_read (IsWord.temporary _ (by decide) next) hmethod)
  | message id =>
      rw [Kind.reading, Code.texts_one]
      exact .constant (hasShape_readMessage (IsWord.temporary _ (by decide) next) id)
  | sequence collection element ih =>
      have hvalue := IsWord.temporary "result" (by decide) (next + 3)
      rw [Kind.reading, Kind.readNames]
      apply Numbered.readContainer
      rw [Code.texts_append, Code.texts_one]
      exact (ih _).append (.plain (hasShape_insert next _ (by simpa using hvalue)) _)
  | map key value ihKey ihValue =>
      have hkey := IsWord.temporary "result" (by decide) (next + 3)
      have hvalue := IsWord.temporary "result" (by decide) (next + (3 + key.readNames))
      rw [Kind.reading, Kind.readNames, Nat.add_assoc]
      apply Numbered.readContainer
      rw [Code.texts_append, Code.texts_append, Code.texts_one, List.append_assoc]
      refine (ihKey _).append ?_
      rw [Nat.add_assoc]
      exact (ihValue _).append (.plain (hasShape_insert next _ (by simp [hkey, hvalue])) _)

end Read

section Blocks

theorem numbered_guard (field : Field) (next : Nat) :
    Numbered (Blocks.guard field).texts next 0 := by
  rw [Code.texts_guard]
  split
  next =>
    exact (Numbered.plain hasShape_exhausted next).append
      ((Numbered.plain hasShape_leave _).append (.plain hasShape_brace _))
  next => exact ⟨by simp [introductions], by simp [introductions]⟩

/-- When the code for each field takes an interval of numbers, the block of all
fields takes the intervals one after another. -/
theorem numbered_inOrder {code : Nat → Field → Code} {names : Field → Nat} {fields : List Field}
    (hcode : ∀ field ∈ fields, ∀ next, Numbered (code next field).texts next (names field))
    (next : Nat) :
    Numbered (Blocks.inOrder code names next fields).texts next
      (Blocks.totalNames names fields) := by
  induction fields generalizing next with
  | nil =>
      exact ⟨by simp [Blocks.inOrder, Code.texts, introductions],
        by simp [Blocks.inOrder, Code.texts, introductions, Blocks.totalNames]⟩
  | cons field fields ih =>
      obtain ⟨hfield, hrest⟩ := List.forall_mem_cons.mp hcode
      rw [Blocks.inOrder, Code.texts_append, Blocks.totalNames_cons]
      exact (hfield next).append (ih hrest _)

theorem numbered_writeBlock {fields : List Field} (hfields : ∀ field ∈ fields, IsWord field.name)
    (next : Nat) :
    Numbered (Blocks.writing next fields).texts next (Blocks.writeNames fields) := by
  apply numbered_inOrder
  intro field hfield next
  have hword : IsWord ("packet." ++ field.name) := (hfields field hfield).packet
  exact numbered_writing field.kind (.field _) hword next

theorem numbered_readBlock {fields : List Field} (hfields : ∀ field ∈ fields, IsWord field.name)
    (next : Nat) :
    Numbered (Blocks.reading next fields).texts next
      (Blocks.totalNames (fun field => field.kind.readNames) fields) := by
  apply numbered_inOrder
  intro field hfield next
  have hassign := hasShape_assign (hfields field hfield)
    (IsWord.temporary "result" (by decide) next)
  rw [Blocks.fieldReading, Code.texts_append, Code.texts_append, Code.texts_one]
  have hguarded := (numbered_guard field next).append (numbered_reading field.kind _)
  rw [Nat.zero_add] at hguarded
  exact hguarded.append (.plain hassign _)

end Blocks

end Listing

end WireScript
