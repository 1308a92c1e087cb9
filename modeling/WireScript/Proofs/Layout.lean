import WireScript.Proofs.Emission.Full
import WireScript.Proofs.Outcome
import WireScript.Proofs.Schema.Validity

/-! # Plans

What an accepted plan is known to satisfy. A plan lists a path for every message
in schema order, and no two of the paths, nor one of them and the path of another
artifact, are equal even in lower case.
-/

namespace WireScript.Layout

theorem collision?_eq_none_iff {claimed paths : List String} :
    collision? claimed paths = none ↔
      (paths.map Text.lowercase).Nodup ∧
        ∀ path ∈ paths, Text.lowercase path ∉ claimed := by
  induction paths generalizing claimed with
  | nil => simp [collision?]
  | cons path rest ih =>
      rw [collision?]
      by_cases hclaimed : claimed.contains (Text.lowercase path) = true
      · rw [if_pos hclaimed]
        refine iff_of_false (by simp) ?_
        intro hboth
        obtain ⟨-, hfresh⟩ := hboth
        exact hfresh path List.mem_cons_self (List.contains_iff_mem.mp hclaimed)
      · rw [if_neg hclaimed, ih]
        rw [List.contains_iff_mem] at hclaimed
        simp only [List.map_cons, List.nodup_cons, List.mem_map, List.mem_cons, not_or,
          forall_eq_or_imp, not_exists, not_and]
        constructor
        · intro hboth
          obtain ⟨hnodup, hrest⟩ := hboth
          exact ⟨⟨fun other hother => (hrest other hother).1, hnodup⟩, hclaimed,
            fun other hother => (hrest other hother).2⟩
        · intro hboth
          obtain ⟨⟨hfirst, hnodup⟩, -, hrest⟩ := hboth
          exact ⟨hnodup, fun other hother => ⟨hfirst other hother, hrest other hother⟩⟩

/-- The path of every message of a schema. -/
def messagePaths (directory : ProtocolId → String) (schema : Schema) : List String :=
  schema.messages.map (fun message => messagePath (directory message.id) message.name)

theorem nestingFault?_eq_none_iff {limit : Nat} {schema : Schema} :
    nestingFault? limit schema = none ↔
      ∀ message ∈ schema.messages, ∀ field ∈ message.fields, field.kind.depth ≤ limit := by
  simp [nestingFault?, fieldNestingFault?]

/-- A plan is made by three judgements, in this order. -/
theorem plan_eq (directory : ProtocolId → String) (limit : Nat) (schema : Schema) :
    plan directory limit schema = (do
      schema.validate
      match nestingFault? limit schema with
      | some fault => .error fault
      | none =>
          match collision? (reservedPaths.map Text.lowercase) (messagePaths directory schema) with
          | some fault => .error fault
          | none => .ok (messagePaths directory schema)) := by
  rw [plan]
  refine congrArg _ (funext fun _ => ?_)
  cases nestingFault? limit schema with
  | some fault => rfl
  | none =>
      unfold messagePaths
      generalize schema.messages.map (fun message =>
        messagePath (directory message.id) message.name) = planned
      dsimp only
      cases collision? (reservedPaths.map Text.lowercase) planned <;> rfl

/-- A plan is made exactly for a valid schema within the nesting limit whose
paths do not collide. -/
theorem plan_eq_ok_iff {directory : ProtocolId → String} {limit : Nat} {schema : Schema}
    {paths : List String} :
    plan directory limit schema = .ok paths ↔
      schema.validate = .ok () ∧
        (∀ message ∈ schema.messages, ∀ field ∈ message.fields, field.kind.depth ≤ limit) ∧
        collision? (reservedPaths.map Text.lowercase) (messagePaths directory schema) = none ∧
        paths = messagePaths directory schema := by
  rw [← nestingFault?_eq_none_iff, plan_eq, judged_ok_iff]
  cases nestingFault? limit schema with
  | some fault => simp
  | none =>
      cases collision? (reservedPaths.map Text.lowercase) (messagePaths directory schema) with
      | some fault => simp
      | none => simp [eq_comm]

end WireScript.Layout
