import WireScript.Proofs.Generator.Carrying
import WireScript.Proofs.Layout.Refusal

/-! # Depth in plans and in emission

The nesting limit is enforced twice: a plan looks at the fields as they are declared, and
emission looks at each field before it makes code for it, with the message taken from its
context. Both find the same first field, so a schema that nests too deep is refused with the
fault emission would stop at, and one that has a plan is emitted whole.
-/

namespace WireScript

namespace Blocks

/-- What comes of emitting messages one after another, a single context being carried from
each to the next, whether its emission failed or not. -/
def outcomes (table : Table) (document : Message → Document) :
    Context → List Message → List (Except Fault Blocks)
  | _, [] => []
  | context, message :: rest =>
      let emitted := ofMessage table message (document message) context
      emitted.1 :: outcomes table document emitted.2 rest

/-- The fault of the first field of a message that nests too deep. -/
def nestingFault? (limit : Nat) (message : Message) : Option Fault :=
  message.fields.findSome? (Layout.fieldNestingFault? limit message.name)

/-- What the full table makes of a message: its nesting alone decides whether there are
blocks. -/
def outcome (limit : Nat) (document : Message → Document) (message : Message) :
    Except Fault Blocks :=
  match nestingFault? limit message with
  | some fault => .error fault
  | none => .ok (plain message (document message))

variable {limit : Nat} {document : Message → Document} {message : Message} {fault : Fault}

theorem outcome_eq_ok (hnone : nestingFault? limit message = none) :
    outcome limit document message = .ok (plain message (document message)) := by
  rw [outcome, hnone]

theorem outcome_eq_error_iff :
    outcome limit document message = .error fault ↔ nestingFault? limit message = some fault := by
  rw [outcome]
  cases nestingFault? limit message with
  | some found => simp
  | none => simp

theorem exists_outcome_eq_ok_iff :
    (∃ blocks, outcome limit document message = .ok blocks) ↔
      nestingFault? limit message = none := by
  rw [outcome]
  cases nestingFault? limit message with
  | some found => simp
  | none => simp

/-- A failed emission leaves the limit as it is, so no message can tell what came of those
before it. -/
theorem outcomes_full (document : Message → Document) (context : Context)
    (messages : List Message) :
    outcomes Table.full document context messages =
      messages.map (outcome context.limit document) := by
  induction messages generalizing context with
  | nil => rfl
  | cons message rest ih =>
      have hlimit := ofMessage_keepsLimit message (document message) context
      rw [outcomes, ih, hlimit, ofMessage_full]
      rfl

/-- The messages in front of the first one that nests too deep are emitted, and that one
is not. -/
theorem outcomes_eq_iff {context : Context} {messages : List Message} :
    (∃ (emitted : List Blocks) (later : List (Except Fault Blocks)),
        outcomes Table.full document context messages =
          emitted.map .ok ++ .error fault :: later) ↔
      messages.findSome? (nestingFault? context.limit) = some fault := by
  rw [outcomes_full, List.findSome?_eq_some_iff]
  constructor
  · rintro ⟨emitted, later, houtcomes⟩
    obtain ⟨earlier, behind, rfl, hearlier, hbehind⟩ := List.map_eq_append_iff.mp houtcomes
    obtain ⟨message, rest, rfl, hmessage, -⟩ := List.map_eq_cons_iff.mp hbehind
    refine ⟨earlier, message, rest, rfl, outcome_eq_error_iff.mp hmessage, ?_⟩
    intro other hother
    rw [Option.eq_none_iff_forall_ne_some]
    intro found hfound
    have hmem : Except.error found ∈ emitted.map Except.ok :=
      hearlier ▸ List.mem_map.mpr ⟨other, hother, outcome_eq_error_iff.mpr hfound⟩
    simp at hmem
  · rintro ⟨earlier, message, rest, rfl, hmessage, hearlier⟩
    refine ⟨earlier.map (fun other => plain other (document other)),
      rest.map (outcome context.limit document), ?_⟩
    have hemitted : earlier.map (outcome context.limit document) =
        (earlier.map (fun other => plain other (document other))).map .ok := by
      rw [List.map_map]
      exact List.map_congr_left fun other hother => outcome_eq_ok (hearlier other hother)
    rw [List.map_append, List.map_cons, hemitted, outcome_eq_error_iff.mpr hmessage]

end Blocks

namespace Layout

variable {directory : ProtocolId → String} {schema : Schema}

/-- A valid schema is refused for its nesting when the search for a field that nests too
deep finds one; whether paths collide is asked later. -/
theorem plan_eq_tooDeep_iff {limit : Nat} (hvalid : schema.validate = .ok ()) {field : String}
    {levels : Nat} :
    plan directory limit schema = .error (.nestingTooDeep field levels) ↔
      nestingFault? limit schema = some (.nestingTooDeep field levels) := by
  rw [plan_eq_error_iff, hvalid, collision?_eq_some_iff]
  simp

/-- For a valid schema, a plan is refused because of the nesting exactly when the emission of
one of its messages, in their order and from any context with the same limit, fails because
of it. Then the plan is refused with the fault of the first emission that fails, and all
emissions before it succeed. Where no paths collide, there is a plan exactly when all messages
are emitted. -/
theorem plan_agrees_outcomes (directory : ProtocolId → String) {schema : Schema}
    (hvalid : schema.validate = .ok ()) (document : Message → Document) (context : Context) :
    let planned := plan directory context.limit schema
    let outcomes := Blocks.outcomes Table.full document context schema.messages
    ((∃ field limit, planned = .error (.nestingTooDeep field limit)) ↔
        ∃ field limit, .error (.nestingTooDeep field limit) ∈ outcomes) ∧
      (∀ field limit, planned = .error (.nestingTooDeep field limit) ↔
        ∃ (emitted : List Blocks) (later : List (Except Fault Blocks)),
          outcomes = emitted.map .ok ++ .error (.nestingTooDeep field limit) :: later) ∧
      (collision? (reservedPaths.map Text.lowercase) (messagePaths directory schema) = none →
        ((∃ paths, planned = .ok paths) ↔
          ∀ outcome ∈ outcomes, ∃ blocks, outcome = .ok blocks)) := by
  intro planned outcomes
  have hfirst (field : String) (limit : Nat) :
      planned = .error (.nestingTooDeep field limit) ↔
        ∃ (emitted : List Blocks) (later : List (Except Fault Blocks)),
          outcomes = emitted.map .ok ++ .error (.nestingTooDeep field limit) :: later :=
    (plan_eq_tooDeep_iff hvalid).trans Blocks.outcomes_eq_iff.symm
  have hnone : (∀ outcome ∈ outcomes, ∃ blocks, outcome = .ok blocks) ↔
      nestingFault? context.limit schema = none := by
    simp only [outcomes, Blocks.outcomes_full, List.forall_mem_map,
      Blocks.exists_outcome_eq_ok_iff]
    exact List.findSome?_eq_none_iff.symm
  refine ⟨⟨?_, ?_⟩, hfirst, ?_⟩
  · rintro ⟨field, limit, hplanned⟩
    obtain ⟨emitted, later, houtcomes⟩ := (hfirst field limit).mp hplanned
    refine ⟨field, limit, ?_⟩
    rw [houtcomes]
    exact List.mem_append_right _ List.mem_cons_self
  · rintro ⟨field, limit, hfailed⟩
    cases hsearch : nestingFault? context.limit schema with
    | none =>
        obtain ⟨blocks, hblocks⟩ := hnone.mpr hsearch _ hfailed
        cases hblocks
    | some found =>
        obtain ⟨_, message, _, deep, _, _, rfl⟩ := nestingFault?_eq_some_iff.mp hsearch
        exact ⟨_, _, (plan_eq_tooDeep_iff hvalid).mpr hsearch⟩
  · intro hapart
    rw [hnone, nestingFault?_eq_none_iff]
    constructor
    · rintro ⟨paths, hplanned⟩
      exact (plan_eq_ok_iff.mp hplanned).2.1
    · intro hdepth
      exact ⟨_, plan_eq_ok_iff.mpr ⟨hvalid, hdepth, hapart, rfl⟩⟩

/-- Two messages nest too deep. The plan is refused for the second field of the one that comes
first, behind a message that is emitted. -/
theorem plan_agrees_outcomes_twoDeep :
    let rows : Field := .ofKind "rows" (.sequence .list (.sequence .list (.scalar .int)))
    let schema : Schema := ⟨[⟨1, "Flat", [.ofKind "level" (.scalar .int)]⟩,
      ⟨2, "Deep", [.ofKind "marks" (.sequence .set (.scalar .int)), rows]⟩, ⟨3, "Later", [rows]⟩]⟩
    let outcomes := Blocks.outcomes Table.full (fun _ => .empty) (.ofLimit 1) schema.messages
    schema.validate = .ok () ∧
      collision? (reservedPaths.map Text.lowercase) (messagePaths (fun _ => "") schema) = none ∧
      plan (fun _ => "") 1 schema = .error (.nestingTooDeep "Deep.rows" 1) ∧
      (∃ (emitted : List Blocks) (later : List (Except Fault Blocks)),
        outcomes = emitted.map .ok ++ .error (.nestingTooDeep "Deep.rows" 1) :: later) ∧
      ¬ ∀ outcome ∈ outcomes, ∃ blocks, outcome = .ok blocks := by
  intro rows schema outcomes
  have hvalid : schema.validate = .ok () :=
    Schema.validate_eq_ok_iff.mpr ⟨by decide +kernel, by decide +kernel⟩
  have hapart : collision? (reservedPaths.map Text.lowercase)
      (messagePaths (fun _ => "") schema) = none := by
    rw [collision?_eq_none_iff]
    decide +kernel
  have hplanned : plan (fun _ => "") 1 schema = .error (.nestingTooDeep "Deep.rows" 1) :=
    (plan_eq_tooDeep_iff hvalid).mpr (by cbv)
  obtain ⟨-, hfirst, hemitted⟩ :=
    plan_agrees_outcomes (fun _ => "") hvalid (fun _ => .empty) (.ofLimit 1)
  refine ⟨hvalid, hapart, hplanned, (hfirst "Deep.rows" 1).mp hplanned, ?_⟩
  intro hall
  obtain ⟨paths, hpaths⟩ := (hemitted hapart).mpr hall
  have hboth := hplanned.symm.trans hpaths
  cases hboth

end Layout

end WireScript
