import Mathlib.Tactic.MkIffOfInductiveProp
import WireScript.Schema.Validation

/-! # Valid schemas

What an accepted schema is known to satisfy, message by message and field by
field. Validation judges every item given those before it, so each fact is
stated at a position of the list.
-/

namespace WireScript

theorem firstFault_eq_none_iff {α : Type} {judge : List α → α → Option Fault}
    {before items : List α} :
    firstFault judge before items = none ↔
      ∀ earlier item later, items = earlier ++ item :: later →
        judge (before ++ earlier) item = none := by
  induction items generalizing before with
  | nil => simp [firstFault]
  | cons first rest ih =>
      rw [firstFault]
      cases hfirst : judge before first with
      | some fault =>
          refine iff_of_false (by simp) ?_
          intro hall
          have hnone := hall [] first rest rfl
          rw [List.append_nil, hfirst] at hnone
          cases hnone
      | none =>
          simp only [ih]
          constructor
          · intro hrest earlier item later hitems
            cases earlier with
            | nil =>
                obtain ⟨rfl, rfl⟩ := List.cons.inj hitems
                rwa [List.append_nil]
            | cons head earlier =>
                obtain ⟨rfl, rfl⟩ := List.cons.inj hitems
                simpa using hrest earlier item later rfl
          · intro hall earlier item later hitems
            simpa using hall (first :: earlier) item later (by rw [hitems]; rfl)

theorem Field.fault?_eq_none_iff {message : String} {before : List Field} {field : Field} :
    field.fault? message before = none ↔
      Name.isIdentifier field.name = true ∧ Name.isReserved field.name = false ∧
        ∀ other ∈ before, other.name ≠ field.name := by
  unfold fault?
  cases Name.isIdentifier field.name <;> cases Name.isReserved field.name <;> simp

namespace Message

/-- What is asked of a message that stands behind the given ones. -/
@[mk_iff]
structure Sound (before : List Message) (message : Message) : Prop where
  id_le : message.id ≤ maxProtocolId
  id_ne : ∀ other ∈ before, other.id ≠ message.id
  name_ne : ∀ other ∈ before, other.name ≠ message.name
  isIdentifier : Name.isIdentifier message.name = true
  isReserved : Name.isReserved message.name = false
  isTemporary : Name.isTemporary message.name = false
  fields : firstFault (Field.fault? message.name) [] message.fields = none

theorem fault?_eq_none_iff {before : List Message} {message : Message} :
    message.fault? before = none ↔ message.Sound before := by
  rw [sound_iff, fault?]
  by_cases hid : message.id > maxProtocolId
  · rw [if_pos hid]
    simp [UInt16.not_le.mpr hid]
  · rw [if_neg hid]
    have hle : message.id ≤ maxProtocolId := UInt16.not_lt.mp hid
    cases hfind : before.find? (fun other => other.id == message.id) with
    | some other =>
        have hmem := List.mem_of_find?_eq_some hfind
        have heq := List.find?_some hfind
        simp only [beq_iff_eq] at heq
        refine iff_of_false (by simp) ?_
        intro hall
        exact hall.2.1 other hmem heq
    | none =>
        have hids : ∀ other ∈ before, other.id ≠ message.id := by
          simpa using List.find?_eq_none.mp hfind
        have hany : (before.any (fun other => other.name == message.name) = false) ↔
            ∀ other ∈ before, other.name ≠ message.name := by
          simp
        rw [← hany, and_iff_right hle, and_iff_right hids]
        cases before.any (fun other => other.name == message.name) <;>
          cases Name.isIdentifier message.name <;> cases Name.isReserved message.name <;>
          cases Name.isTemporary message.name <;> simp

end Message

/-- Items that differ in some respect from those before them have it apart. -/
theorem nodup_map_of_splits {α β : Type} {aspect : α → β} {items : List α}
    (hitems : ∀ earlier item later, items = earlier ++ item :: later →
      ∀ other ∈ earlier, aspect other ≠ aspect item) :
    (items.map aspect).Nodup := by
  induction items with
  | nil => exact List.nodup_nil
  | cons first rest ih =>
      rw [List.map_cons, List.nodup_cons, List.mem_map]
      constructor
      · rintro ⟨item, hitem, hsame⟩
        obtain ⟨earlier, later, rfl⟩ := List.append_of_mem hitem
        exact hitems (first :: earlier) item later rfl first List.mem_cons_self hsame.symm
      · apply ih
        rintro earlier item later rfl other hother
        exact hitems (first :: earlier) item later rfl other (List.mem_cons_of_mem _ hother)

namespace Schema

theorem validate_eq_ok_iff {schema : Schema} :
    schema.validate = .ok () ↔
      firstFault Message.fault? [] schema.messages = none ∧
        schema.messages.findSome? (Message.referenceFault? schema.declares) = none := by
  rw [validate, fault?]
  cases firstFault Message.fault? [] schema.messages with
  | some fault => simp
  | none =>
      cases schema.messages.findSome? (Message.referenceFault? schema.declares) <;> simp

/-- A message of a valid schema is sound behind the messages it follows. -/
theorem sound_of_split {schema : Schema} (hvalid : schema.validate = .ok ())
    {earlier later : List Message} {message : Message}
    (hsplit : schema.messages = earlier ++ message :: later) : message.Sound earlier := by
  have hmessages := firstFault_eq_none_iff.mp (validate_eq_ok_iff.mp hvalid).1
  exact Message.fault?_eq_none_iff.mp (hmessages earlier message later hsplit)

theorem exists_sound_of_mem {schema : Schema} (hvalid : schema.validate = .ok ())
    {message : Message} (hmessage : message ∈ schema.messages) :
    ∃ before, message.Sound before := by
  obtain ⟨earlier, later, hsplit⟩ := List.append_of_mem hmessage
  exact ⟨earlier, sound_of_split hvalid hsplit⟩

theorem isIdentifier_of_valid {schema : Schema} (hvalid : schema.validate = .ok ())
    {message : Message} (hmessage : message ∈ schema.messages) :
    Name.isIdentifier message.name = true := by
  obtain ⟨before, hsound⟩ := exists_sound_of_mem hvalid hmessage
  exact hsound.isIdentifier

theorem isTemporary_of_valid {schema : Schema} (hvalid : schema.validate = .ok ())
    {message : Message} (hmessage : message ∈ schema.messages) :
    Name.isTemporary message.name = false := by
  obtain ⟨before, hsound⟩ := exists_sound_of_mem hvalid hmessage
  exact hsound.isTemporary

theorem field_isIdentifier_of_valid {schema : Schema} (hvalid : schema.validate = .ok ())
    {message : Message} (hmessage : message ∈ schema.messages) {field : Field}
    (hfield : field ∈ message.fields) : Name.isIdentifier field.name = true := by
  obtain ⟨before, hsound⟩ := exists_sound_of_mem hvalid hmessage
  obtain ⟨earlier, later, hsplit⟩ := List.append_of_mem hfield
  have hfault := firstFault_eq_none_iff.mp hsound.fields earlier field later hsplit
  exact (Field.fault?_eq_none_iff.mp hfault).1

theorem id_le_of_valid {schema : Schema} (hvalid : schema.validate = .ok ())
    {message : Message} (hmessage : message ∈ schema.messages) : message.id ≤ maxProtocolId := by
  obtain ⟨before, hsound⟩ := exists_sound_of_mem hvalid hmessage
  exact hsound.id_le

theorem nodup_ids_of_valid {schema : Schema} (hvalid : schema.validate = .ok ()) :
    (schema.messages.map Message.id).Nodup := by
  apply nodup_map_of_splits
  intro earlier message later hsplit
  exact (sound_of_split hvalid hsplit).id_ne

theorem nodup_names_of_valid {schema : Schema} (hvalid : schema.validate = .ok ()) :
    (schema.messages.map Message.name).Nodup := by
  apply nodup_map_of_splits
  intro earlier message later hsplit
  exact (sound_of_split hvalid hsplit).name_ne

/-- A valid schema is closed under references. -/
theorem exists_of_nestedId {schema : Schema} (hvalid : schema.validate = .ok ())
    {message : Message} (hmessage : message ∈ schema.messages) {field : Field}
    (hfield : field ∈ message.fields) {id : ProtocolId} (hid : id ∈ field.kind.nestedIds) :
    ∃ target ∈ schema.messages, target.id = id := by
  have hmessages := List.findSome?_eq_none_iff.mp (validate_eq_ok_iff.mp hvalid).2
  have hnone := List.findSome?_eq_none_iff.mp (hmessages message hmessage) field hfield
  rw [Field.referenceFault?, Option.map_eq_none_iff, List.find?_eq_none] at hnone
  have hdeclared : schema.declares id = true := by simpa using hnone id hid
  obtain ⟨target, htarget, hsame⟩ := List.any_eq_true.mp hdeclared
  exact ⟨target, htarget, by simpa using hsame⟩

end Schema

end WireScript
