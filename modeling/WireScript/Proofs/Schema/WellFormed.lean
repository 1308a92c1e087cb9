import WireScript.Proofs.Emission.References
import WireScript.Proofs.Schema.Validity

/-! # Well-formed schemas

What a schema has to satisfy, stated without regard to how it is checked: the names
and numbers of its messages, the names of their fields, and the messages their kinds
refer to. Validation accepts exactly the schemas that satisfy it.
-/

namespace WireScript

namespace Name

/-- An ASCII letter, `_` or `$`, and behind it these or digits. -/
def IsIdentifier (name : String) : Prop :=
  ∃ first rest, name.toList = first :: rest ∧
    (first.isAlpha = true ∨ first = '_' ∨ first = '$') ∧
    ∀ c ∈ rest, c.isAlphanum = true ∨ c = '_' ∨ c = '$'

/-- A stem of temporaries with one or more ASCII digits behind it. -/
def IsNumbered (name : String) : Prop :=
  ∃ stem ∈ ["result", "size", "index", "element", "key", "value"], ∃ digits,
    digits ≠ [] ∧ (∀ c ∈ digits, c.isDigit = true) ∧ name.toList = stem.toList ++ digits

theorem isIdentifier_iff {name : String} : isIdentifier name = true ↔ IsIdentifier name := by
  unfold isIdentifier IsIdentifier
  cases name.toList with
  | nil => simp
  | cons first rest =>
      simp [startsIdentifier, continuesIdentifier, or_assoc]

theorem isNumberedStem_iff {name stem : List Char} :
    isNumberedStem name stem = true ↔
      ∃ digits, digits ≠ [] ∧ (∀ c ∈ digits, c.isDigit = true) ∧ name = stem ++ digits := by
  unfold isNumberedStem
  rw [Bool.and_eq_true, List.isPrefixOf_iff_prefix]
  constructor
  · rintro ⟨⟨digits, rfl⟩, hdigits⟩
    rw [List.drop_left, Bool.and_eq_true, Bool.not_eq_true', List.isEmpty_eq_false_iff,
      List.all_eq_true] at hdigits
    exact ⟨digits, hdigits.1, hdigits.2, rfl⟩
  · rintro ⟨digits, hne, hdigits, rfl⟩
    rw [List.drop_left, Bool.and_eq_true, Bool.not_eq_true', List.isEmpty_eq_false_iff,
      List.all_eq_true]
    exact ⟨List.prefix_append stem digits, hne, hdigits⟩

theorem isTemporary_iff {name : String} : isTemporary name = true ↔ IsNumbered name := by
  simp only [isTemporary, List.any_eq_true, isNumberedStem_iff]
  rfl

theorem isReserved_iff {name : String} : isReserved name = true ↔ name ∈ reserved := by
  rw [isReserved, List.contains_iff_mem]

end Name

namespace Kind

/-- A message a kind refers to, itself or in a kind inside it. -/
inductive RefersTo (id : ProtocolId) : Kind → Prop where
  | message : RefersTo id (.message id)
  | element {c : Collection} {element : Kind} (helement : RefersTo id element) :
      RefersTo id (.sequence c element)
  | key {key value : Kind} (hkey : RefersTo id key) : RefersTo id (.map key value)
  | value {key value : Kind} (hvalue : RefersTo id value) : RefersTo id (.map key value)

theorem mem_nestedIds_iff {id : ProtocolId} {kind : Kind} :
    id ∈ kind.nestedIds ↔ kind.RefersTo id := by
  induction kind with
  | scalar s =>
      rw [nestedIds_scalar]
      exact iff_of_false List.not_mem_nil (by rintro ⟨⟩)
  | sequence c element ih =>
      rw [nestedIds_sequence, ih]
      constructor
      · exact .element
      · rintro ⟨⟩
        assumption
  | map key value ihKey ihValue =>
      rw [nestedIds_map, List.mem_append, ihKey, ihValue]
      constructor
      · rintro (hkey | hvalue)
        · exact .key hkey
        · exact .value hvalue
      · rintro (⟨⟩ | ⟨⟩)
        · left; assumption
        · right; assumption
  | message other =>
      rw [nestedIds_message, List.mem_singleton]
      constructor
      · rintro rfl
        exact .message
      · rintro ⟨⟩
        rfl

end Kind

/-- A schema the generated code can be trusted with. -/
structure Schema.WellFormed (schema : Schema) : Prop where
  ids_le : ∀ message ∈ schema.messages, message.id ≤ 32767
  ids_nodup : (schema.messages.map Message.id).Nodup
  names_nodup : (schema.messages.map Message.name).Nodup
  identifiers : ∀ message ∈ schema.messages, Name.IsIdentifier message.name
  unreserved : ∀ message ∈ schema.messages, message.name ∉ Name.reserved
  unnumbered : ∀ message ∈ schema.messages, ¬ Name.IsNumbered message.name
  fieldIdentifiers : ∀ message ∈ schema.messages, ∀ field ∈ message.fields,
    Name.IsIdentifier field.name
  fieldUnreserved : ∀ message ∈ schema.messages, ∀ field ∈ message.fields,
    field.name ∉ Name.reserved
  fields_nodup : ∀ message ∈ schema.messages, (message.fields.map Field.name).Nodup
  references : ∀ message ∈ schema.messages, ∀ field ∈ message.fields, ∀ id,
    field.kind.RefersTo id → ∃ target ∈ schema.messages, target.id = id

section Splits

variable {α β : Type}

/-- Items have an aspect apart when each has it apart from those before it. -/
theorem nodup_map_iff_splits {items : List α} {aspect : α → β} :
    (items.map aspect).Nodup ↔ ∀ earlier item later, items = earlier ++ item :: later →
      ∀ other ∈ earlier, aspect other ≠ aspect item := by
  refine ⟨?_, nodup_map_of_splits⟩
  rintro hnodup earlier item later rfl other hother hsame
  rw [List.map_append, List.map_cons] at hnodup
  exact (List.nodup_append.mp hnodup).2.2 _ (List.mem_map_of_mem hother) _ List.mem_cons_self hsame

theorem forall_mem_iff_splits (items : List α) {p : α → Prop} :
    (∀ item ∈ items, p item) ↔ ∀ earlier item later, items = earlier ++ item :: later → p item := by
  constructor
  · rintro hall earlier item later rfl
    exact hall item (by simp)
  · intro hsplits item hitem
    obtain ⟨earlier, later, hitems⟩ := List.append_of_mem hitem
    exact hsplits earlier item later hitems

end Splits

theorem Field.firstFault_eq_none_iff {message : String} {fields : List Field} :
    firstFault (Field.fault? message) [] fields = none ↔
      (∀ field ∈ fields, Name.IsIdentifier field.name) ∧
        (∀ field ∈ fields, field.name ∉ Name.reserved) ∧ (fields.map Field.name).Nodup := by
  rw [WireScript.firstFault_eq_none_iff, nodup_map_iff_splits]
  simp only [forall_mem_iff_splits fields, List.nil_append, Field.fault?_eq_none_iff,
    Name.isIdentifier_iff, ← Bool.not_eq_true, Name.isReserved_iff, forall_and]

/-- Messages without a fault where they stand. -/
theorem Message.firstFault_eq_none_iff {messages : List Message} :
    firstFault Message.fault? [] messages = none ↔
      (∀ message ∈ messages, message.id ≤ 32767) ∧ (messages.map Message.id).Nodup ∧
        (messages.map Message.name).Nodup ∧
        (∀ message ∈ messages, Name.IsIdentifier message.name) ∧
        (∀ message ∈ messages, message.name ∉ Name.reserved) ∧
        (∀ message ∈ messages, ¬ Name.IsNumbered message.name) ∧
        ∀ message ∈ messages,
          (∀ field ∈ message.fields, Name.IsIdentifier field.name) ∧
            (∀ field ∈ message.fields, field.name ∉ Name.reserved) ∧
            (message.fields.map Field.name).Nodup := by
  rw [WireScript.firstFault_eq_none_iff, nodup_map_iff_splits, nodup_map_iff_splits]
  simp only [forall_mem_iff_splits messages, List.nil_append, Message.fault?_eq_none_iff,
    Message.sound_iff, Field.firstFault_eq_none_iff, Name.isIdentifier_iff, ← Bool.not_eq_true,
    Name.isReserved_iff, Name.isTemporary_iff, forall_and]
  rfl

theorem Message.referenceFault?_eq_none_iff {schema : Schema} {message : Message} :
    message.referenceFault? schema.declares = none ↔
      ∀ field ∈ message.fields, ∀ id, field.kind.RefersTo id →
        ∃ target ∈ schema.messages, target.id = id := by
  have hdeclares (id : ProtocolId) :
      schema.declares id = true ↔ ∃ target ∈ schema.messages, target.id = id := by
    simp [Schema.declares]
  have hfield (field : Field) :
      field.referenceFault? schema.declares message.name = none ↔
        ∀ id, field.kind.RefersTo id → ∃ target ∈ schema.messages, target.id = id := by
    simp [Field.referenceFault?, Kind.mem_nestedIds_iff, hdeclares]
  rw [referenceFault?, List.findSome?_eq_none_iff]
  simp only [hfield]

/-- Validation accepts the well-formed schemas and no others. -/
theorem Schema.validate_eq_ok_iff_wellFormed (schema : Schema) :
    schema.validate = .ok () ↔ schema.WellFormed := by
  rw [validate_eq_ok_iff, Message.firstFault_eq_none_iff, List.findSome?_eq_none_iff]
  simp only [Message.referenceFault?_eq_none_iff]
  constructor
  · rintro ⟨⟨hids, hidsNodup, hnamesNodup, hidentifiers, hunreserved, hunnumbered, hfields⟩,
      hreferences⟩
    exact {
      ids_le := hids
      ids_nodup := hidsNodup
      names_nodup := hnamesNodup
      identifiers := hidentifiers
      unreserved := hunreserved
      unnumbered := hunnumbered
      fieldIdentifiers := fun message hmessage => (hfields message hmessage).1
      fieldUnreserved := fun message hmessage => (hfields message hmessage).2.1
      fields_nodup := fun message hmessage => (hfields message hmessage).2.2
      references := hreferences }
  · intro hwell
    refine ⟨⟨hwell.ids_le, hwell.ids_nodup, hwell.names_nodup, hwell.identifiers,
      hwell.unreserved, hwell.unnumbered, ?_⟩, hwell.references⟩
    intro message hmessage
    exact ⟨hwell.fieldIdentifiers message hmessage, hwell.fieldUnreserved message hmessage,
      hwell.fields_nodup message hmessage⟩

end WireScript
