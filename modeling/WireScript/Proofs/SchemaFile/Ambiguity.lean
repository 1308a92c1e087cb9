import WireScript.Proofs.Kind.RoundTrip
import WireScript.Proofs.Schema.WellFormed
import WireScript.Proofs.SchemaFile.Resolution

/-! # Messages called like built-in kinds

A type that uses a word both for a built-in kind and for a message is refused, and
with it the file. Where no type uses the word, the name of the message stands in
nobody's way: types are read as if it were not there, and the rules for the names of
messages allow it.
-/

namespace WireScript

/-- The names of messages that are not called like a built-in kind. -/
def Names.unambiguous (names : Names) : Names := fun word =>
  if word ∈ Tag.builtInWords then none else names word

namespace Kind

variable {names : Names} {text word : String}

/-- A word that stands in a type expression. -/
def Uses (text word : String) : Prop :=
  ∃ tokens, Token.Divides text.toList tokens ∧ .word word ∈ tokens

theorem builtIn_not_isNumeral {value : Nat} (hword : word ∈ Tag.builtInWords) :
    ¬ Text.IsNumeral word.toList value := by
  have hletters : ∀ word ∈ Tag.builtInWords, word.toList.all Char.isDigit = false := by decide
  intro hnumeral
  have hdigits := List.all_eq_true.mpr hnumeral.2.1
  rw [hletters word hword] at hdigits
  cases hdigits

/-- No word of a derivation stands both for a built-in kind and for a message. -/
theorem Derivation.eq_none_of_builtIn {depth : Nat} {tokens : List Token} {kind : Kind}
    (derivation : Derivation names depth tokens kind) (hmem : .word word ∈ tokens)
    (hword : word ∈ Tag.builtInWords) : names word = none := by
  induction derivation with
  | scalar _ _ hfree =>
      obtain rfl : word = _ := by simpa using hmem
      exact hfree
  | sequence _ hfree _ ih =>
      simp only [List.mem_cons, List.mem_append, Token.word.injEq, reduceCtorEq, false_or,
        List.not_mem_nil, or_false] at hmem
      rcases hmem with rfl | hinner
      · exact hfree
      · exact ih hinner
  | map _ hfree _ _ ihLeft ihRight =>
      simp only [List.mem_cons, List.mem_append, Token.word.injEq, reduceCtorEq, false_or,
        List.not_mem_nil, or_false] at hmem
      rcases hmem with rfl | hleft | hright
      · exact hfree
      · exact ihLeft hleft
      · exact ihRight hright
  | message _ hfree hdigits =>
      simp only [List.mem_cons, Token.word.injEq, reduceCtorEq, false_or, List.not_mem_nil,
        or_false] at hmem
      rcases hmem with rfl | rfl
      · exact hfree
      · exact absurd hdigits (builtIn_not_isNumeral hword)
  | reference _ hnot _ =>
      obtain rfl : word = _ := by simpa using hmem
      exact absurd hword hnot

/-- A derivation looks up the words in it and no others. -/
theorem Derivation.congr {names' : Names} {depth : Nat} {tokens : List Token} {kind : Kind}
    (derivation : Derivation names depth tokens kind)
    (hsame : ∀ word, .word word ∈ tokens → names' word = names word) :
    Nonempty (Derivation names' depth tokens kind) := by
  induction derivation with
  | scalar hdepth hword hfree =>
      exact ⟨.scalar hdepth hword ((hsame _ (by simp)).trans hfree)⟩
  | sequence hdepth hfree _ ih =>
      obtain ⟨inner⟩ := ih fun word hmem => hsame word (by simp [hmem])
      exact ⟨.sequence hdepth ((hsame _ (by simp)).trans hfree) inner⟩
  | map hdepth hfree _ _ ihLeft ihRight =>
      obtain ⟨left⟩ := ihLeft fun word hmem => hsame word (by simp [hmem])
      obtain ⟨right⟩ := ihRight fun word hmem => hsame word (by simp [hmem])
      exact ⟨.map hdepth ((hsame _ (by simp)).trans hfree) left right⟩
  | message hdepth hfree hdigits =>
      exact ⟨.message hdepth ((hsame _ (by simp)).trans hfree) hdigits⟩
  | reference hdepth hword hid =>
      exact ⟨.reference hdepth hword ((hsame _ (by simp)).trans hid)⟩

/-- A type is read as if no message were called like a built-in kind, unless it uses
such a name. -/
theorem read_ok_iff_unambiguous {kind : Kind} :
    read names text = .ok kind ↔ read names.unambiguous text = .ok kind ∧
      ∀ word ∈ Tag.builtInWords, Uses text word → names word = none := by
  rw [(read_eq_ok_iff names text).1, (read_eq_ok_iff names.unambiguous text).1]
  constructor
  · rintro ⟨⟨tokens, kind, hdivides, derivation⟩, rfl⟩
    have hnone : ∀ word ∈ Tag.builtInWords, .word word ∈ tokens → names word = none :=
      fun word hword hmem => derivation.eq_none_of_builtIn hmem hword
    obtain ⟨plain⟩ : Nonempty (Derivation names.unambiguous 0 tokens kind) := by
      refine derivation.congr fun word hmem => ?_
      unfold Names.unambiguous
      split
      next hword => exact (hnone word hword hmem).symm
      next => rfl
    refine ⟨⟨⟨tokens, kind, hdivides, plain⟩, rfl⟩, ?_⟩
    rintro word hword ⟨tokens', hdivides', hmem⟩
    obtain rfl := hdivides.unique hdivides'
    exact hnone word hword hmem
  · rintro ⟨⟨⟨tokens, kind, hdivides, plain⟩, rfl⟩, hnone⟩
    obtain ⟨derivation⟩ : Nonempty (Derivation names 0 tokens kind) := by
      refine plain.congr fun word hmem => ?_
      unfold Names.unambiguous
      split
      next hword => exact hnone word hword ⟨tokens, hdivides, hmem⟩
      next => rfl
    exact ⟨⟨tokens, kind, hdivides, derivation⟩, rfl⟩

end Kind

namespace SchemaFile

variable {file : SchemaFile} {entry : MessageEntry} {word : String}

/-- A word that stands in the type of some field of a file. -/
def Uses (file : SchemaFile) (word : String) : Prop :=
  ∃ entry ∈ file.messages, ∃ field ∈ entry.fields, Kind.Uses (Text.trim field.type) word

/-- A file that can be resolved to a valid schema. -/
def Accepted (file : SchemaFile) : Prop :=
  ∃ resolved, file.resolve = .ok resolved ∧ resolved.schema.validate = .ok ()

instance : DecidablePred Accepted := fun file =>
  decidable_of_iff ((do (← file.resolve).schema.validate).isOk = true) (by
    unfold Accepted
    cases hresolve : file.resolve with
    | error fault => simp [bind, Except.bind, Except.isOk, Except.toBool]
    | ok resolved =>
        cases hvalid : resolved.schema.validate <;>
          simp [bind, Except.bind, Except.isOk, Except.toBool, hvalid])

theorem names_eq_none_iff :
    file.names word = none ↔ ∀ entry ∈ file.messages, entry.name ≠ word := by
  simp [names]

theorem accepted_iff :
    file.Accepted ↔ ∃ messages,
      List.Forall₂ (MessageMeans file.names) file.messages messages ∧
        (Schema.mk messages).WellFormed := by
  simp only [Accepted, resolve, bind_ok_iff, mapM_ok_iff, resolveMessage_ok_iff,
    Schema.validate_eq_ok_iff_wellFormed]
  constructor
  · rintro ⟨resolved, ⟨messages, hmessages, hresolved⟩, hwell⟩
    obtain rfl := Except.ok.inj hresolved
    exact ⟨messages, hmessages, hwell⟩
  · rintro ⟨messages, hmessages, hwell⟩
    exact ⟨⟨⟨messages⟩, file.documentation⟩, ⟨messages, hmessages, rfl⟩, hwell⟩

section Meaning

variable {names : Names}

/-- No built-in word in the type of a field names a message. -/
def Unambiguous (names : Names) (entry : FieldEntry) : Prop :=
  ∀ word ∈ Tag.builtInWords, Kind.Uses (Text.trim entry.type) word → names word = none

theorem fieldMeans_iff_unambiguous {entry : FieldEntry} {field : Field} :
    FieldMeans names entry field ↔
      Unambiguous names entry ∧ FieldMeans names.unambiguous entry field := by
  constructor
  · rintro ⟨hname, hkind, hdescription, hcompatible⟩
    obtain ⟨hplain, hnone⟩ := Kind.read_ok_iff_unambiguous.mp hkind
    exact ⟨hnone, hname, hplain, hdescription, hcompatible⟩
  · rintro ⟨hnone, hname, hplain, hdescription, hcompatible⟩
    exact ⟨hname, Kind.read_ok_iff_unambiguous.mpr ⟨hplain, hnone⟩, hdescription, hcompatible⟩

theorem messageMeans_iff_unambiguous {message : Message} :
    MessageMeans names entry message ↔
      (∀ field ∈ entry.fields, Unambiguous names field) ∧
        MessageMeans names.unambiguous entry message := by
  have hfields : List.Forall₂ (FieldMeans names) entry.fields message.fields ↔
      (∀ field ∈ entry.fields, Unambiguous names field) ∧
        List.Forall₂ (FieldMeans names.unambiguous) entry.fields message.fields := by
    simp only [← List.forall₂_and_left, ← fieldMeans_iff_unambiguous]
  constructor
  · rintro ⟨hid, hname, hmeans⟩
    obtain ⟨hnone, hplain⟩ := hfields.mp hmeans
    exact ⟨hnone, hid, hname, hplain⟩
  · rintro ⟨hnone, hid, hname, hplain⟩
    exact ⟨hid, hname, hfields.mpr ⟨hnone, hplain⟩⟩

theorem forall₂_means_iff_unambiguous {entries : List MessageEntry} {messages : List Message} :
    List.Forall₂ (MessageMeans names) entries messages ↔
      (∀ entry ∈ entries, ∀ field ∈ entry.fields, Unambiguous names field) ∧
        List.Forall₂ (MessageMeans names.unambiguous) entries messages := by
  simp only [← List.forall₂_and_left, ← messageMeans_iff_unambiguous]

/-- No type of a file is ambiguous exactly when those messages that are called like a
built-in kind are not referred to by their names. -/
theorem forall_unambiguous_iff :
    (∀ entry ∈ file.messages, ∀ field ∈ entry.fields, Unambiguous file.names field) ↔
      ∀ entry ∈ file.messages, entry.name ∈ Tag.builtInWords → ¬ file.Uses entry.name := by
  constructor
  · rintro hnone entry hentry hword ⟨other, hother, field, hfield, huses⟩
    exact names_eq_none_iff.mp (hnone other hother field hfield _ hword huses) entry hentry rfl
  · intro hunused other hother field hfield word hword huses
    refine names_eq_none_iff.mpr fun entry hentry hname => ?_
    obtain rfl := hname
    exact hunused entry hentry hword ⟨other, hother, field, hfield, huses⟩

end Meaning

/-- A file with a message called like a built-in kind is refused when some type uses
the word. It is accepted when no type uses such a name, and it would be accepted if
types could not use them at all: no rule for the names of messages forbids them. -/
theorem accepted_iff_of_builtIn (hentry : entry ∈ file.messages)
    (hname : entry.name ∈ Tag.builtInWords) :
    (file.Uses entry.name → ∃ fault, file.resolve = .error fault) ∧
      (file.Accepted ↔
        (∀ other ∈ file.messages, other.name ∈ Tag.builtInWords → ¬ file.Uses other.name) ∧
          ∃ messages,
            List.Forall₂ (MessageMeans file.names.unambiguous) file.messages messages ∧
              (Schema.mk messages).WellFormed) ∧
      Name.IsIdentifier entry.name ∧ entry.name ∉ Name.reserved ∧
        ¬ Name.IsNumbered entry.name := by
  refine ⟨?_, ?_, ?_⟩
  · intro huses
    cases hresolve : file.resolve with
    | error fault => exact ⟨fault, rfl⟩
    | ok resolved =>
        obtain ⟨hnone, -⟩ := forall₂_means_iff_unambiguous.mp (resolves_of_ok hresolve).messages
        exact absurd huses (forall_unambiguous_iff.mp hnone entry hentry hname)
  · simp only [accepted_iff, @forall₂_means_iff_unambiguous file.names, and_assoc,
      exists_and_left, forall_unambiguous_iff]
  · have hallowed : ∀ word ∈ Tag.builtInWords, Name.isIdentifier word = true ∧
        word ∉ Name.reserved ∧ Name.isTemporary word = false := by
      decide
    obtain ⟨hidentifier, hreserved, htemporary⟩ := hallowed entry.name hname
    refine ⟨Name.isIdentifier_iff.mp hidentifier, hreserved, ?_⟩
    rw [← Name.isTemporary_iff, htemporary]
    exact Bool.false_ne_true

/-- A list of numbers beside a message called like lists. -/
theorem accepted_iff_of_builtIn_list :
    let list : MessageEntry := ⟨3, "list", none, [⟨"length", "int", none, false⟩]⟩
    let page : MessageEntry := ⟨4, "Page", none, [⟨"rows", "list<int>", none, false⟩]⟩
    let file : SchemaFile := ⟨[list, page]⟩
    (∃ fault, file.resolve = .error fault) ∧ ¬ file.Accepted := by
  intro list page file
  have hentry : list ∈ file.messages := List.mem_cons_self
  have hname : list.name ∈ Tag.builtInWords := by decide
  obtain ⟨hrefused, haccepted, -⟩ := accepted_iff_of_builtIn hentry hname
  have huses : file.Uses list.name := by
    refine ⟨page, by simp [file], _, List.mem_cons_self, ?_⟩
    exact ⟨_, Kind.divides_text (.sequence .list (.scalar .int)), List.mem_cons_self⟩
  exact ⟨hrefused huses, fun hfile => (haccepted.mp hfile).1 list hentry hname huses⟩

/-- A message called like a built-in kind that no type uses. -/
theorem accepted_builtInName :
    let file : SchemaFile := ⟨[⟨1, "int", none, [⟨"level", "long", none, false⟩]⟩]⟩
    (∃ entry ∈ file.messages, entry.name ∈ Tag.builtInWords) ∧ file.Accepted := by
  intro file
  exact ⟨⟨_, List.mem_cons_self, by decide⟩, by decide +kernel⟩

end SchemaFile

end WireScript
