import WireScript.Proofs.Generator.Idleness

/-! # One context for a whole run

The generator gives every message a context of its own. A run can as well carry one
context from message to message, with the counter and the name that the emissions before
left in it, whether they failed or not. Every message begins anew, so both are the same
run.
-/

namespace WireScript

/-- Emission that leaves the nesting limit as it is, however it ends. -/
def Emit.KeepsLimit {α : Type} (emit : Emit α) : Prop :=
  ∀ context, (emit context).2.limit = context.limit

namespace Emit.KeepsLimit

variable {α β : Type}

theorem bind {first : Emit β} {next : β → Emit α} (hfirst : KeepsLimit first)
    (hnext : ∀ value, KeepsLimit (next value)) : KeepsLimit (first >>= next) := by
  intro context
  have hbetween := hfirst context
  rcases hexec : first context with ⟨result, between⟩
  rw [hexec] at hbetween
  cases result with
  | ok value =>
      rw [Emit.bind_of_ok hexec]
      exact (hnext value between).trans hbetween
  | error fault =>
      rw [Emit.bind_of_error hexec]
      exact hbetween

theorem pure (value : α) : KeepsLimit (Pure.pure value) := fun _ => rfl

theorem begin (name : String) :
    KeepsLimit (modify (fun context => context.begin name)) :=
  fun _ => rfl

end Emit.KeepsLimit

namespace Blocks

theorem EmitsWithinLimit.keepsLimit {emit : Field → Emit Code} {code : Nat → Field → Code}
    {names : Field → Nat} (hemit : EmitsWithinLimit emit code names) (field : Field) :
    (emit field).KeepsLimit := by
  intro context
  rw [hemit field context]
  split <;> rfl

theorem eachField_keepsLimit {emit : Field → Emit Code} (hemit : ∀ field, (emit field).KeepsLimit)
    (fields : List Field) : (eachField emit fields).KeepsLimit := by
  induction fields with
  | nil => exact .pure Code.done
  | cons field rest ih => exact (hemit field).bind fun _ => ih.bind fun _ => .pure _

/-- A message leaves the limit for the ones behind it. -/
theorem ofMessage_keepsLimit (message : Message) (document : Document) :
    (ofMessage Table.full message document).KeepsLimit :=
  (Emit.KeepsLimit.begin message.name).bind fun _ =>
    (eachField_keepsLimit writeField_full.keepsLimit message.fields).bind fun _ =>
      (eachField_keepsLimit readField_full.keepsLimit message.fields).bind fun _ => .pure _

/-- Of the context a message is emitted from only the limit counts. -/
theorem ofMessage_congr (message : Message) (document : Document) {first second : Context}
    (hlimit : first.limit = second.limit) :
    (ofMessage Table.full message document first).1 =
      (ofMessage Table.full message document second).1 := by
  rw [ofMessage_full, ofMessage_full, hlimit]

end Blocks

namespace Run

/-- The module of a message emitted from a context, and the context its emission leaves,
whether it fails or not. -/
def moduleFrom (run : Run) (context : Context) (message : Message) (document : Document) :
    Except Fault Artifact × Context :=
  let emitted := Blocks.ofMessage Table.full message document context
  let artifact := do
    let blocks ← emitted.1
    let text ← run.templates.renderMessage message.name message.id document.title blocks
    return ⟨Layout.messagePath (run.grouping.directory message.id) message.name, text⟩
  (artifact, emitted.2)

/-- What the messages before left in the context makes no difference. -/
theorem moduleFrom_fst (run : Run) (context : Context) (message : Message)
    (document : Document) :
    (run.moduleFrom context message document).1 =
      run.messageModule context.limit message document := by
  have hblocks : (Blocks.ofMessage Table.full message document context).1 =
      (Blocks.ofMessage Table.full message document (.ofLimit context.limit)).1 :=
    Blocks.ofMessage_congr message document rfl
  simp only [moduleFrom, messageModule, hblocks]

theorem moduleFrom_limit (run : Run) (context : Context) (message : Message)
    (document : Document) :
    (run.moduleFrom context message document).2.limit = context.limit :=
  Blocks.ofMessage_keepsLimit message document context

end Run

namespace Generator

variable {m : Type → Type} [Monad m] [FileStore m]

/-- Write the modules of messages in order, carrying the context from each to the
next. -/
def generateMessagesFrom (documentation : Documentation) : Context → List Message → Step m Unit
  | _, [] => return ()
  | context, message :: rest => do
      let run ← currentRun
      let module := run.moduleFrom context message (documentation.document message.id)
      write (← check module.1)
      generateMessagesFrom documentation module.2 rest

/-- A whole run that carries one context, with the limit of its settings, through all of
its messages. -/
def runAllFrom (context : Context) (schema : Schema) (documentation : Documentation) :
    Step m Report := do
  init
  generateRegistry schema
  let limit := (← get).config.nestingLimit
  generateMessagesFrom documentation { context with limit := limit } schema.messages
  finish

/-- Plan, and then run from start to end with one context. -/
def generateFrom (context : Context) (schema : Schema) (documentation : Documentation) :
    Step m Report := do
  let config := (← get).config
  check config.validate
  let grouping ← check config.grouping.build
  let _ ← check (Layout.plan grouping.directory config.nestingLimit schema)
  tryCatch (runAllFrom context schema documentation) (fun fault => do
    clear
    throw fault)

section Carrying

variable {σ : Type} [FileStore (StateM σ)]

/-- Message by message, a carried context and one for every message write the same. -/
theorem execOn_generateMessagesFrom (documentation : Documentation) (context : Context)
    (messages : List Message) (generator : Generator) (files : σ)
    (hlimit : context.limit = generator.config.nestingLimit) :
    execOn (generateMessagesFrom documentation context messages) generator files =
      execOn (generateMessages documentation messages) generator files := by
  induction messages generalizing context generator files with
  | nil => rfl
  | cons message rest ih =>
      rw [generateMessagesFrom, generateMessages, generateMessage, bind_assoc]
      refine execOn_bind_congr ?_
      intro run started files' hrun
      have hstarted : started.config = generator.config :=
        (KeepsConfig.currentRun generator files).of_ok hrun
      dsimp only
      rw [Run.moduleFrom_fst, hlimit, ← hstarted, bind_assoc, execOn_get_bind, bind_assoc]
      refine execOn_bind_congr ?_
      intro artifact checked files' hchecked
      refine execOn_bind_congr ?_
      intro _ written files' hwritten
      have hconfig : written.config = generator.config :=
        ((KeepsConfig.write artifact checked _).of_ok hwritten).trans
          (((KeepsConfig.check _ started _).of_ok hchecked).trans hstarted)
      exact ih _ written files' (by rw [Run.moduleFrom_limit, hlimit, hconfig])

theorem runAllFrom_eq (context : Context) (schema : Schema) (documentation : Documentation) :
    (runAllFrom context schema documentation : Step (StateM σ) Report) =
      runAll schema documentation := by
  funext generator files
  change execOn (runAllFrom context schema documentation) generator files =
    execOn (runAll schema documentation) generator files
  refine execOn_bind_congr ?_
  intro _ started files' _
  refine execOn_bind_congr ?_
  intro _ registered files' _
  rw [execOn_get_bind, execOn_bind, execOn_bind, execOn_generateMessagesFrom _ _ _ _ _ rfl]

/-- A call that carries one context through its messages is a call of `generate`,
whatever was in the context before. -/
theorem generateFrom_eq (context : Context) (schema : Schema) (documentation : Documentation) :
    (generateFrom context schema documentation : Step (StateM σ) Report) =
      generate schema documentation := by
  rw [generateFrom, runAllFrom_eq]
  rfl

end Carrying

end Generator

end WireScript
