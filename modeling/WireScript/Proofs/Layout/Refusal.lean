import WireScript.Proofs.Layout
import WireScript.Proofs.Schema.FirstFault

/-! # Exact plans

When a schema can be laid out, how it is laid out, and what is blamed when it cannot: an
invalid schema before anything else, then the first field that nests too deep, then the
first message whose path is taken.
-/

namespace WireScript.Layout

variable (directory : ProtocolId → String)

/-- The path of a message under a choice of directories. -/
def pathOf (message : Message) : String := messagePath (directory message.id) message.name

/-- A message whose path is, in lower case, that of a reserved file or of a message before
it. -/
def IsTaken (before : List Message) (message : Message) : Prop :=
  Text.lowercase (pathOf directory message) ∈ reservedPaths.map Text.lowercase ∨
    ∃ other ∈ before,
      Text.lowercase (pathOf directory other) = Text.lowercase (pathOf directory message)

instance (before : List Message) (message : Message) :
    Decidable (IsTaken directory before message) :=
  inferInstanceAs (Decidable (_ ∨ _))

/-- The fault of a message whose path is taken. -/
def takenFault? (before : List Message) (message : Message) : Option Fault :=
  if IsTaken directory before message then some (.pathCollision (pathOf directory message))
  else none

variable {directory}

/-- The paths taken so far are the reserved ones and those of the messages before, so the
search for a collision judges every message given those before it. -/
theorem collision?_eq_firstFault {claimed : List String} {before messages : List Message}
    (hclaimed : ∀ small, small ∈ claimed ↔ small ∈ reservedPaths.map Text.lowercase ∨
      ∃ other ∈ before, Text.lowercase (pathOf directory other) = small) :
    collision? claimed (messages.map (pathOf directory)) =
      firstFault (takenFault? directory) before messages := by
  induction messages generalizing claimed before with
  | nil => rfl
  | cons message rest ih =>
      rw [List.map_cons, collision?, firstFault, takenFault?]
      by_cases htaken : IsTaken directory before message
      · have hcontains : claimed.contains (Text.lowercase (pathOf directory message)) = true :=
          List.contains_iff_mem.mpr ((hclaimed _).mpr htaken)
        rw [if_pos hcontains, if_pos htaken]
      · have hfresh : ¬ claimed.contains (Text.lowercase (pathOf directory message)) = true :=
          fun hcontains => htaken ((hclaimed _).mp (List.contains_iff_mem.mp hcontains))
        rw [if_neg hfresh, if_neg htaken]
        apply ih
        intro small
        rw [List.mem_cons, hclaimed]
        simp only [List.mem_append, List.mem_singleton, or_and_right, exists_or, exists_eq_left]
        rw [or_comm, or_assoc, eq_comm]

theorem takenFault?_ne_none_iff {before : List Message} {message : Message} :
    takenFault? directory before message ≠ none ↔ IsTaken directory before message := by
  simp [takenFault?]

theorem collision?_eq_some_iff {schema : Schema} {fault : Fault} :
    collision? (reservedPaths.map Text.lowercase) (messagePaths directory schema) = some fault ↔
      ∃ messages message, IsFirst (IsTaken directory) schema.messages messages message ∧
        .pathCollision (pathOf directory message) = fault := by
  have hsearch : collision? (reservedPaths.map Text.lowercase) (messagePaths directory schema) =
      firstFault (takenFault? directory) [] schema.messages :=
    collision?_eq_firstFault (by simp)
  rw [hsearch, firstFault_eq_some_iff]
  simp only [takenFault?_ne_none_iff]
  refine exists_congr fun messages => exists_congr fun message => and_congr_right fun hfirst => ?_
  rw [takenFault?, if_pos hfirst.broken, Option.some_inj]

/-- The field that is reported is the first one too deep of the first message with one. -/
theorem nestingFault?_eq_some_iff {limit : Nat} {schema : Schema} {fault : Fault} :
    nestingFault? limit schema = some fault ↔
      ∃ messages message fields field,
        IsFirst (fun _ other => ∃ field ∈ other.fields, limit < field.kind.depth)
            schema.messages messages message ∧
          IsFirst (fun _ other => limit < other.kind.depth) message.fields fields field ∧
          .nestingTooDeep (message.name ++ "." ++ field.name) limit = fault := by
  have hfield (message : String) (field : Field) :
      fieldNestingFault? limit message field ≠ none ↔ limit < field.kind.depth := by
    simp [fieldNestingFault?]
  have hmessage (message : Message) :
      message.fields.findSome? (fieldNestingFault? limit message.name) ≠ none ↔
        ∃ field ∈ message.fields, limit < field.kind.depth := by
    rw [Ne, List.findSome?_eq_none_iff]
    push Not
    simp only [hfield]
  rw [nestingFault?, findSome?_eq_some_iff_isFirst]
  simp only [hmessage, findSome?_eq_some_iff_isFirst, hfield]
  constructor
  · rintro ⟨messages, message, hfirst, fields, field, hdeep, hfault⟩
    rw [fieldNestingFault?, if_pos hdeep.broken] at hfault
    exact ⟨messages, message, fields, field, hfirst, hdeep, Option.some.inj hfault⟩
  · rintro ⟨messages, message, fields, field, hfirst, hdeep, rfl⟩
    refine ⟨messages, message, hfirst, fields, field, hdeep, ?_⟩
    rw [fieldNestingFault?, if_pos hdeep.broken]

/-- What a plan is refused for, in the order of its judgements. -/
theorem plan_eq_error_iff {limit : Nat} {schema : Schema} {fault : Fault} :
    plan directory limit schema = .error fault ↔
      schema.validate = .error fault ∨ schema.validate = .ok () ∧
        (nestingFault? limit schema = some fault ∨ nestingFault? limit schema = none ∧
          collision? (reservedPaths.map Text.lowercase) (messagePaths directory schema) =
            some fault) := by
  rw [plan_eq, judged_error_iff]
  cases nestingFault? limit schema with
  | some found => simp
  | none =>
      cases collision? (reservedPaths.map Text.lowercase) (messagePaths directory schema) <;> simp

end WireScript.Layout
