import Mathlib.Data.List.Nodup
import WireScript.Proofs.Schema.FirstFault

/-! # The rules of a schema

The rules a schema has to obey as a list, in the order they are judged. Validation goes
through the messages once before it looks at any reference, and what it reports is the
fault of the first rule that does not hold, whatever other rules are broken behind it.
-/

namespace WireScript

/-- Something that has to hold, and the fault that is reported when it does not. -/
structure Rule where
  holds : Prop
  fault : Fault

/-- The fault of the first rule that does not hold. -/
def FirstBroken (rules : List Rule) (fault : Fault) : Prop :=
  ∃ kept rule, IsFirst (fun _ rule => ¬ rule.holds) rules kept rule ∧ rule.fault = fault

/-- The rules for the items of a list, each given the items before it. -/
def inTurn {α : Type} (rules : List α → α → List Rule) : List α → List α → List Rule
  | _, [] => []
  | before, item :: rest => rules before item ++ inTurn rules (before ++ [item]) rest

/-- The rules for a field, given the fields before it. -/
def Field.rules (message : String) (before : List Field) (field : Field) : List Rule :=
  [⟨Name.IsIdentifier field.name, .config (.fieldNotIdentifier message field.name)⟩,
    ⟨field.name ∉ Name.reserved, .config (.fieldReserved message field.name)⟩,
    ⟨∀ other ∈ before, other.name ≠ field.name, .config (.duplicateField message field.name)⟩]

namespace Message

/-- The rule that a message has another number than one before it. -/
def idRule (message other : Message) : Rule :=
  ⟨other.id ≠ message.id, .duplicateId message.id other.name message.name⟩

/-- The rules for a message apart from its references, given the messages before it. -/
def rules (before : List Message) (message : Message) : List Rule :=
  ⟨message.id ≤ 32767, .idOutOfRange message.id⟩ :: before.map message.idRule ++
    ⟨∀ other ∈ before, other.name ≠ message.name, .duplicateName message.name⟩ ::
    ⟨Name.IsIdentifier message.name, .config (.messageNotIdentifier message.name)⟩ ::
    ⟨message.name ∉ Name.reserved ∧ ¬ Name.IsNumbered message.name,
      .config (.messageReserved message.name)⟩ ::
    inTurn (Field.rules message.name) [] message.fields

/-- A message that breaks one of its rules where it stands. -/
def Breaks (before : List Message) (message : Message) : Prop :=
  ∃ rule ∈ message.rules before, ¬ rule.holds

end Message

namespace Schema

/-- A number that no message of a schema has. -/
def IsUnknown (schema : Schema) (id : ProtocolId) : Prop :=
  ∀ message ∈ schema.messages, message.id ≠ id

/-- A field that refers to a message there is not. -/
def Dangles (schema : Schema) (field : Field) : Prop :=
  ∃ id ∈ field.kind.mentioned, schema.IsUnknown id

/-- The fault a schema is refused for. References are blamed only when every message obeys
its rules. -/
inductive Blames (schema : Schema) : Fault → Prop where
  | message {earlier : List Message} {message : Message} {fault : Fault}
      (hfirst : IsFirst Message.Breaks schema.messages earlier message)
      (hrule : FirstBroken (message.rules earlier) fault) : Blames schema fault
  | reference {messages : List Message} {message : Message} {fields : List Field} {field : Field}
      {ids : List ProtocolId} {id : ProtocolId}
      (hrules : ∀ earlier other later, schema.messages = earlier ++ other :: later →
        ¬ other.Breaks earlier)
      (hmessage : IsFirst (fun _ other => ∃ field ∈ other.fields, schema.Dangles field)
        schema.messages messages message)
      (hfield : IsFirst (fun _ => schema.Dangles) message.fields fields field)
      (hid : IsFirst (fun _ => schema.IsUnknown) field.kind.mentioned ids id) :
      Blames schema (.unknownNested message.name field.name id)

end Schema

/-- Rules that are judged in order, and what is found: the fault of the first that does
not hold, or nothing. -/
inductive Judged : List Rule → Option Fault → Prop where
  | done : Judged [] none
  | broken {rule : Rule} (hbroken : ¬ rule.holds) (rest : List Rule) :
      Judged (rule :: rest) (some rule.fault)
  | kept {rule : Rule} {rest : List Rule} {found : Option Fault} (hkept : rule.holds)
      (hrest : Judged rest found) : Judged (rule :: rest) found

namespace Judged

variable {rules first second : List Rule} {found : Option Fault} {fault : Fault}

/-- A rule is judged by a test that tells whether it is broken. -/
theorem test {p : Prop} [Decidable p] {rule : Rule} (htest : p ↔ ¬ rule.holds)
    (hrest : Judged rules found) :
    Judged (rule :: rules) (if p then some rule.fault else found) := by
  split
  next hp => exact .broken (htest.mp hp) rules
  next hp => exact .kept (not_not.mp fun hbroken => hp (htest.mpr hbroken)) hrest

theorem append (hfirst : Judged first none) (hsecond : Judged second found) :
    Judged (first ++ second) found := by
  induction first with
  | nil => exact hsecond
  | cons rule rest ih =>
      cases hfirst with
      | kept hkept hrest => exact .kept hkept (ih hrest)

theorem append_some (hfirst : Judged first (some fault)) (second : List Rule) :
    Judged (first ++ second) (some fault) := by
  induction first with
  | nil => cases hfirst
  | cons rule rest ih =>
      cases hfirst with
      | broken hbroken => exact .broken hbroken _
      | kept hkept hrest => exact .kept hkept (ih hrest)

theorem none_iff : Judged rules none ↔ ∀ rule ∈ rules, rule.holds := by
  induction rules with
  | nil => exact iff_of_true .done (List.forall_mem_nil _)
  | cons rule rest ih =>
      rw [List.forall_mem_cons, ← ih]
      constructor
      · intro hjudged
        cases hjudged with
        | kept hkept hrest => exact ⟨hkept, hrest⟩
      · exact fun hboth => .kept hboth.1 hboth.2

theorem some_iff : Judged rules (some fault) ↔ FirstBroken rules fault := by
  simp only [FirstBroken, isFirst_iff]
  constructor
  · intro hjudged
    induction rules with
    | nil => cases hjudged
    | cons rule rest ih =>
        cases hjudged with
        | broken hbroken => exact ⟨[], rule, ⟨⟨rest, rfl⟩, hbroken, List.forall_mem_nil _⟩, rfl⟩
        | kept hkept hrest =>
            obtain ⟨kept, other, ⟨⟨later, rfl⟩, hbroken, hall⟩, hfault⟩ := ih hrest
            exact ⟨rule :: kept, other, ⟨⟨later, rfl⟩, hbroken,
              List.forall_mem_cons.mpr ⟨not_not_intro hkept, hall⟩⟩, hfault⟩
  · rintro ⟨kept, rule, ⟨⟨later, rfl⟩, hbroken, hall⟩, rfl⟩
    refine append (none_iff.mpr ?_) (.broken hbroken later)
    exact fun other hother => not_not.mp (hall other hother)

/-- Rules have one finding. -/
theorem eq_of_judged {found' : Option Fault} (hjudged : Judged rules found)
    (hjudged' : Judged rules found') : found = found' := by
  induction hjudged with
  | done => cases hjudged'; rfl
  | broken hbroken rest =>
      cases hjudged' with
      | broken => rfl
      | kept hkept => exact absurd hkept hbroken
  | kept hkept hrest ih =>
      cases hjudged' with
      | broken hbroken => exact absurd hkept hbroken
      | kept _ hrest' => exact ih hrest'

theorem eq_some_iff (hjudged : Judged rules found) :
    found = some fault ↔ FirstBroken rules fault := by
  rw [← some_iff]
  constructor
  · rintro rfl
    exact hjudged
  · exact fun hsome => hjudged.eq_of_judged hsome

theorem eq_none_iff (hjudged : Judged rules found) :
    found = none ↔ ∀ rule ∈ rules, rule.holds := by
  rw [← none_iff]
  constructor
  · rintro rfl
    exact hjudged
  · exact fun hnone => hjudged.eq_of_judged hnone

/-- A list judged item by item is judged by the rules of its items in turn. -/
theorem inTurn {α : Type} {rules : List α → α → List Rule} {judge : List α → α → Option Fault}
    (hjudge : ∀ before item, Judged (rules before item) (judge before item))
    (before items : List α) :
    Judged (WireScript.inTurn rules before items) (firstFault judge before items) := by
  induction items generalizing before with
  | nil => exact .done
  | cons item rest ih =>
      have hitem := hjudge before item
      rw [WireScript.inTurn, firstFault]
      split
      next found hfound =>
        rw [hfound] at hitem
        exact hitem.append_some _
      next hnone =>
        rw [hnone] at hitem
        exact hitem.append (ih _)

end Judged

theorem Name.not_isIdentifier_iff {name : String} :
    (!isIdentifier name) = true ↔ ¬ IsIdentifier name := by
  rw [Bool.not_eq_true', ← Bool.not_eq_true, isIdentifier_iff]

/-- The rules of a field are judged in their order. -/
theorem Field.judged (message : String) (before : List Field) (field : Field) :
    Judged (field.rules message before) (field.fault? message before) := by
  have hreserved : Name.isReserved field.name = true ↔ ¬ field.name ∉ Name.reserved := by
    rw [not_not, Name.isReserved_iff]
  have hduplicate : before.any (fun other => other.name == field.name) = true ↔
      ¬ ∀ other ∈ before, other.name ≠ field.name := by
    simp
  unfold rules fault?
  exact .test Name.not_isIdentifier_iff (.test hreserved (.test hduplicate .done))

namespace Message

theorem judged_ids (message : Message) (before : List Message) :
    Judged (before.map message.idRule)
      ((before.find? (fun other => other.id == message.id)).map
        (fun other => .duplicateId message.id other.name message.name)) := by
  induction before with
  | nil => exact .done
  | cons other rest ih =>
      rw [List.map_cons, List.find?_cons]
      by_cases hsame : other.id = message.id
      · rw [beq_iff_eq.mpr hsame]
        exact .broken (not_not_intro hsame) _
      · rw [beq_false_of_ne hsame]
        exact .kept hsame ih

/-- The rules of a message are judged in their order. -/
theorem judged (before : List Message) (message : Message) :
    Judged (message.rules before) (message.fault? before) := by
  have hid : message.id > maxProtocolId ↔ ¬ message.id ≤ 32767 := UInt16.not_le.symm
  have hname : before.any (fun other => other.name == message.name) = true ↔
      ¬ ∀ other ∈ before, other.name ≠ message.name := by
    simp
  have hused : (Name.isReserved message.name || Name.isTemporary message.name) = true ↔
      ¬ (message.name ∉ Name.reserved ∧ ¬ Name.IsNumbered message.name) := by
    rw [Bool.or_eq_true, Name.isReserved_iff, Name.isTemporary_iff]
    tauto
  have hids := message.judged_ids before
  unfold rules fault?
  refine .test hid ?_
  cases hfind : before.find? (fun other => other.id == message.id) with
  | some other =>
      rw [hfind] at hids
      exact hids.append_some _
  | none =>
      rw [hfind] at hids
      refine hids.append (.test hname (.test Name.not_isIdentifier_iff (.test hused ?_)))
      exact .inTurn (Field.judged message.name) [] message.fields

theorem fault?_ne_none_iff {before : List Message} {message : Message} :
    message.fault? before ≠ none ↔ message.Breaks before := by
  rw [Ne, (message.judged before).eq_none_iff, Breaks]
  push Not
  rfl

end Message

section References

variable {schema : Schema} {fault : Fault}

theorem Schema.not_declares_iff {id : ProtocolId} :
    (!schema.declares id) = true ↔ schema.IsUnknown id := by
  simp [declares, IsUnknown]

theorem Field.referenceFault?_eq_some_iff {message : String} {field : Field} :
    field.referenceFault? schema.declares message = some fault ↔
      ∃ ids id, IsFirst (fun _ => schema.IsUnknown) field.kind.mentioned ids id ∧
        .unknownNested message field.name id = fault := by
  rw [referenceFault?, Option.map_eq_some_iff, field.kind.nestedIds_eq_mentioned]
  simp only [isFirst_iff, ← Schema.not_declares_iff, List.find?_eq_some_iff_append]
  constructor
  · rintro ⟨id, ⟨hunknown, ids, later, hmentioned, hknown⟩, hfault⟩
    exact ⟨ids, id, ⟨⟨later, hmentioned⟩, hunknown, by simpa using hknown⟩, hfault⟩
  · rintro ⟨ids, id, ⟨⟨later, hmentioned⟩, hunknown, hknown⟩, hfault⟩
    exact ⟨id, ⟨hunknown, ids, later, hmentioned, by simpa using hknown⟩, hfault⟩

theorem Field.referenceFault?_ne_none_iff {message : String} {field : Field} :
    field.referenceFault? schema.declares message ≠ none ↔ schema.Dangles field := by
  rw [referenceFault?, field.kind.nestedIds_eq_mentioned, Ne, Option.map_eq_none_iff,
    List.find?_eq_none]
  push Not
  simp only [Schema.not_declares_iff, Schema.Dangles]

theorem Message.referenceFault?_ne_none_iff {message : Message} :
    message.referenceFault? schema.declares ≠ none ↔
      ∃ field ∈ message.fields, schema.Dangles field := by
  rw [referenceFault?, Ne, List.findSome?_eq_none_iff]
  push Not
  simp only [Field.referenceFault?_ne_none_iff]

/-- The reference that is reported is the first one of the first field of the first message. -/
theorem Schema.referenceFault_eq_some_iff :
    schema.messages.findSome? (Message.referenceFault? schema.declares) = some fault ↔
      ∃ messages message fields field ids id,
        IsFirst (fun _ other => ∃ field ∈ other.fields, schema.Dangles field)
            schema.messages messages message ∧
          IsFirst (fun _ => schema.Dangles) message.fields fields field ∧
          IsFirst (fun _ => schema.IsUnknown) field.kind.mentioned ids id ∧
          .unknownNested message.name field.name id = fault := by
  simp only [findSome?_eq_some_iff_isFirst, Message.referenceFault?_ne_none_iff]
  simp only [Message.referenceFault?, findSome?_eq_some_iff_isFirst,
    Field.referenceFault?_ne_none_iff, Field.referenceFault?_eq_some_iff]
  constructor
  · rintro ⟨messages, message, hmessage, fields, field, hfield, ids, id, hid, hfault⟩
    exact ⟨messages, message, fields, field, ids, id, hmessage, hfield, hid, hfault⟩
  · rintro ⟨messages, message, fields, field, ids, id, hmessage, hfield, hid, hfault⟩
    exact ⟨messages, message, hmessage, fields, field, hfield, ids, id, hid, hfault⟩

end References

theorem exists_of_mem_inTurn {α : Type} {rules : List α → α → List Rule} {before items : List α}
    {rule : Rule} (hrule : rule ∈ inTurn rules before items) :
    ∃ earlier item, rule ∈ rules earlier item := by
  induction items generalizing before with
  | nil => cases hrule
  | cons item rest ih =>
      rcases List.mem_append.mp hrule with hitem | hrest
      · exact ⟨before, item, hitem⟩
      · exact ih hrest

namespace Message

variable {before : List Message} {message : Message} {rule : Rule}

/-- Apart from numbers that are given twice, no rule of a message blames two messages. -/
theorem fault_of_mem_rules (hrule : rule ∈ message.rules before) :
    rule ∈ before.map message.idRule ∨ rule.fault = .idOutOfRange message.id ∨
      rule.fault = .duplicateName message.name ∨ ∃ issue, rule.fault = .config issue := by
  simp only [rules, List.cons_append, List.mem_cons, List.mem_append] at hrule
  rcases hrule with rfl | hid | rfl | rfl | rfl | hfield
  · exact .inr (.inl rfl)
  · exact .inl hid
  · exact .inr (.inr (.inl rfl))
  · exact .inr (.inr (.inr ⟨_, rfl⟩))
  · exact .inr (.inr (.inr ⟨_, rfl⟩))
  · obtain ⟨earlier, field, hmem⟩ := exists_of_mem_inTurn hfield
    simp only [Field.rules, List.mem_cons, List.not_mem_nil, or_false] at hmem
    rcases hmem with rfl | rfl | rfl <;> exact .inr (.inr (.inr ⟨_, rfl⟩))

/-- Messages that obey their rules have numbers of their own. -/
theorem nodup_ids_of_kept {messages : List Message}
    (hkept : ∀ before other after, messages = before ++ other :: after → ¬ other.Breaks before) :
    (messages.map Message.id).Nodup := by
  apply nodup_map_of_splits
  intro front other back hmessages another hanother hsame
  refine hkept front other back hmessages ⟨other.idRule another, ?_, not_not_intro hsame⟩
  exact List.mem_cons_of_mem _ (List.mem_append_left _ (List.mem_map_of_mem hanother))

end Message

namespace Schema

variable {schema : Schema}

theorem validate_eq_error_iff_blames {fault : Fault} :
    schema.validate = .error fault ↔ schema.Blames fault := by
  have hvalidate : schema.validate = .error fault ↔
      firstFault Message.fault? [] schema.messages = some fault ∨
        firstFault Message.fault? [] schema.messages = none ∧
          schema.messages.findSome? (Message.referenceFault? schema.declares) = some fault := by
    rw [validate, fault?]
    cases firstFault Message.fault? [] schema.messages with
    | some found => simp
    | none =>
        cases schema.messages.findSome? (Message.referenceFault? schema.declares) <;> simp
  have hnone : firstFault Message.fault? [] schema.messages = none ↔
      ∀ earlier other later, schema.messages = earlier ++ other :: later →
        ¬ other.Breaks earlier := by
    simp only [firstFault_eq_none_iff, List.nil_append, ← Message.fault?_ne_none_iff, not_not]
  rw [hvalidate, hnone, firstFault_eq_some_iff, referenceFault_eq_some_iff]
  simp only [Message.fault?_ne_none_iff, (Message.judged _ _).eq_some_iff]
  constructor
  · rintro (⟨earlier, message, hfirst, hrule⟩ | ⟨hrules, hreference⟩)
    · exact .message hfirst hrule
    · obtain ⟨messages, message, fields, field, ids, id, hmessage, hfield, hid, rfl⟩ := hreference
      exact .reference hrules hmessage hfield hid
  · intro hblames
    cases hblames with
    | message hfirst hrule => exact .inl ⟨_, _, hfirst, hrule⟩
    | reference hrules hmessage hfield hid =>
        exact .inr ⟨hrules, _, _, _, _, _, _, hmessage, hfield, hid, rfl⟩

/-- A number that is given twice is blamed on the one message before that has it. -/
theorem Blames.duplicateId {id : ProtocolId} {first second : String}
    (hblames : schema.Blames (.duplicateId id first second)) :
    ∃ front other back message,
      IsFirst Message.Breaks schema.messages (front ++ other :: back) message ∧
        other.id = id ∧ message.id = id ∧ other.name = first ∧ message.name = second ∧
        ∀ another ∈ front ++ back, another.id ≠ id := by
  cases hblames with
  | message hfirst hrule =>
      rename_i earlier message
      obtain ⟨kept, rule, hbroken, hfault⟩ := hrule
      rcases Message.fault_of_mem_rules hbroken.mem with hid | hother
      · obtain ⟨other, hother, rfl⟩ := List.mem_map.mp hid
        obtain ⟨rfl, rfl, rfl⟩ := Fault.duplicateId.inj hfault
        have hsame : other.id = message.id := not_not.mp hbroken.broken
        obtain ⟨front, back, rfl⟩ := List.append_of_mem hother
        refine ⟨front, other, back, message, hfirst, hsame, rfl, rfl, rfl, ?_⟩
        have hnodup := Message.nodup_ids_of_kept hfirst.kept
        rw [List.map_append, List.map_cons, List.nodup_middle, List.nodup_cons,
          ← List.map_append, hsame] at hnodup
        exact fun another hanother heq => hnodup.1 (heq ▸ List.mem_map_of_mem hanother)
      · simp [hfault] at hother

/-- A reference is blamed only when every message obeys its rules. -/
theorem Blames.unknownNested {message field : String} {id : ProtocolId}
    (hblames : schema.Blames (.unknownNested message field id)) :
    ∀ earlier other later, schema.messages = earlier ++ other :: later →
      ¬ other.Breaks earlier := by
  cases hblames with
  | reference hrules => exact hrules
  | message hfirst hrule =>
      obtain ⟨kept, rule, hbroken, hfault⟩ := hrule
      rcases Message.fault_of_mem_rules hbroken.mem with hid | hother
      · obtain ⟨other, -, rfl⟩ := List.mem_map.mp hid
        cases hfault
      · simp [hfault] at hother

/-- Validation refuses a schema for the first rule it breaks: that of the first message to
break one where it stands, or, when no message does, for the first reference to a message
there is not. Of two messages with one number the second is at fault, and no third message
before it has the number. -/
theorem validate_blames_first (schema : Schema) :
    (∀ fault, schema.validate = .error fault ↔ schema.Blames fault) ∧
      (∀ id first second, schema.validate = .error (.duplicateId id first second) →
        ∃ front other back message,
          IsFirst Message.Breaks schema.messages (front ++ other :: back) message ∧
            other.id = id ∧ message.id = id ∧ other.name = first ∧ message.name = second ∧
            ∀ another ∈ front ++ back, another.id ≠ id) ∧
      ∀ message field id, schema.validate = .error (.unknownNested message field id) →
        ∀ earlier other later, schema.messages = earlier ++ other :: later →
          ¬ other.Breaks earlier :=
  ⟨fun _ => validate_eq_error_iff_blames,
    fun _ _ _ herror => (validate_eq_error_iff_blames.mp herror).duplicateId,
    fun _ _ _ herror => (validate_eq_error_iff_blames.mp herror).unknownNested⟩

/-- A message that breaks three rules, behind one that breaks another: the first to be
judged is reported. -/
theorem validate_blames_first_repeated :
    let schema : Schema := ⟨[⟨7, "Ping", []⟩, ⟨7, "Ping", [.ofKind "class" (.message 9)]⟩,
      ⟨40000, "result0", []⟩]⟩
    schema.validate = .error (.duplicateId 7 "Ping" "Ping") ∧
      schema.Blames (.duplicateId 7 "Ping" "Ping") ∧
      ∃ front other back message,
        IsFirst Message.Breaks schema.messages (front ++ other :: back) message ∧
          other.id = 7 ∧ message.id = 7 ∧ other.name = "Ping" ∧ message.name = "Ping" ∧
          ∀ another ∈ front ++ back, another.id ≠ 7 := by
  intro schema
  have herror : schema.validate = .error (.duplicateId 7 "Ping" "Ping") := by rfl
  obtain ⟨hblames, hduplicate, -⟩ := validate_blames_first schema
  exact ⟨herror, (hblames _).mp herror, hduplicate 7 "Ping" "Ping" herror⟩

end Schema

end WireScript
