import WireScript.Proofs.Generator.Idleness
import WireScript.SchemaFile.Reader

/-! # Blame

Everything that is judged before a run blames the configuration or the schema when it
is refused, and never the files. This goes for the settings, for the text of a schema
file, and for every rule the schema in it has to obey.
-/

namespace WireScript

/-- A judgement that blames the configuration or the schema when it refuses
something. -/
def BlamesConfiguration {α : Type} (result : Except Fault α) : Prop :=
  ∀ fault, result = .error fault → fault.isConfiguration = true

namespace BlamesConfiguration

variable {α β : Type}

theorem ok (value : α) : BlamesConfiguration (.ok value) := by
  rintro fault ⟨⟩

theorem error {fault : Fault} (hfault : fault.isConfiguration = true) :
    BlamesConfiguration (.error fault : Except Fault α) := by
  rintro _ ⟨⟩
  exact hfault

theorem bind {first : Except Fault β} {next : β → Except Fault α}
    (hfirst : BlamesConfiguration first) (hnext : ∀ value, BlamesConfiguration (next value)) :
    BlamesConfiguration (first >>= next) := by
  cases first with
  | ok value => exact hnext value
  | error fault => exact error (hfirst fault rfl)

theorem mapM {judge : β → Except Fault α} (hjudge : ∀ item, BlamesConfiguration (judge item))
    (items : List β) : BlamesConfiguration (items.mapM judge) := by
  induction items with
  | nil => exact ok []
  | cons item rest ih =>
      rw [List.mapM_cons]
      exact (hjudge item).bind fun _ => ih.bind fun _ => ok _

end BlamesConfiguration

theorem firstFault_isConfiguration {α : Type} {judge : List α → α → Option Fault}
    (hjudge : ∀ before item fault, judge before item = some fault → fault.isConfiguration = true)
    {before items : List α} {fault : Fault} (hfirst : firstFault judge before items = some fault) :
    fault.isConfiguration = true := by
  induction items generalizing before with
  | nil => cases hfirst
  | cons item rest ih =>
      rw [firstFault] at hfirst
      split at hfirst
      next hfault =>
        obtain rfl := Option.some.inj hfirst
        exact hjudge before item _ hfault
      next => exact ih hfirst

theorem Field.isConfiguration_of_fault? {message : String} {before : List Field} {field : Field}
    {fault : Fault} (hfault : field.fault? message before = some fault) :
    fault.isConfiguration = true := by
  unfold fault? at hfault
  repeat' split at hfault
  all_goals
    cases hfault
    try rfl

theorem Message.isConfiguration_of_fault? {before : List Message} {message : Message}
    {fault : Fault} (hfault : message.fault? before = some fault) :
    fault.isConfiguration = true := by
  unfold fault? at hfault
  repeat' split at hfault
  -- the last rule is that of the fields, all others name their fault
  all_goals first
    | exact firstFault_isConfiguration (fun _ _ _ => Field.isConfiguration_of_fault?) hfault
    | cases hfault; rfl

namespace Schema

variable {schema : Schema} {fault : Fault}

theorem isConfiguration_of_reference
    (hfault : schema.messages.findSome? (Message.referenceFault? schema.declares) = some fault) :
    fault.isConfiguration = true := by
  obtain ⟨message, -, hmessage⟩ := List.exists_of_findSome?_eq_some hfault
  obtain ⟨field, -, hfield⟩ := List.exists_of_findSome?_eq_some hmessage
  obtain ⟨id, -, rfl⟩ := Option.map_eq_some_iff.mp hfield
  rfl

theorem validate_blames (schema : Schema) : BlamesConfiguration schema.validate := by
  unfold validate
  split
  next found hfound =>
    refine .error ?_
    unfold fault? at hfound
    split at hfound
    next hfirst =>
      obtain rfl := Option.some.inj hfound
      exact firstFault_isConfiguration (fun _ _ _ => Message.isConfiguration_of_fault?) hfirst
    next => exact isConfiguration_of_reference hfound
  next => exact .ok ()

end Schema

namespace Layout

theorem isConfiguration_of_nesting {limit : Nat} {schema : Schema} {fault : Fault}
    (hfault : nestingFault? limit schema = some fault) : fault.isConfiguration = true := by
  obtain ⟨message, -, hmessage⟩ := List.exists_of_findSome?_eq_some hfault
  obtain ⟨field, -, hfield⟩ := List.exists_of_findSome?_eq_some hmessage
  unfold fieldNestingFault? at hfield
  split at hfield
  next =>
    obtain rfl := Option.some.inj hfield
    rfl
  next => cases hfield

theorem isConfiguration_of_collision {claimed paths : List String} {fault : Fault}
    (hfault : collision? claimed paths = some fault) : fault.isConfiguration = true := by
  induction paths generalizing claimed with
  | nil => cases hfault
  | cons path rest ih =>
      rw [collision?] at hfault
      split at hfault
      next =>
        obtain rfl := Option.some.inj hfault
        rfl
      next => exact ih hfault

theorem plan_blames (directory : ProtocolId → String) (limit : Nat) (schema : Schema) :
    BlamesConfiguration (plan directory limit schema) := by
  refine schema.validate_blames.bind fun _ => ?_
  split
  next hnesting => exact .error (isConfiguration_of_nesting hnesting)
  next =>
    dsimp only
    split
    next hcollision => exact .error (isConfiguration_of_collision hcollision)
    next => exact .ok _

end Layout

theorem Config.validate_blames (config : Config) : BlamesConfiguration config.validate := by
  unfold validate
  split
  next => exact .error rfl
  next => exact .ok ()

theorem GroupingPolicy.build_blames (policy : GroupingPolicy) :
    BlamesConfiguration policy.build := by
  cases policy with
  | flat => exact .ok _
  | bucket size =>
      simp only [build, Grouping.ofBucketSize]
      split
      next => exact .ok _
      next => exact .error rfl

theorem Generator.planned_blames (config : Config) (schema : Schema) :
    BlamesConfiguration (planned config schema) :=
  config.validate_blames.bind fun _ => config.grouping.build_blames.bind fun grouping =>
    Layout.plan_blames grouping.directory config.nestingLimit schema

namespace SchemaFile

theorem resolveField_blames (names : Names) (message : String) (entry : FieldEntry) :
    BlamesConfiguration (resolveField names message entry) := by
  unfold resolveField
  dsimp only
  split
  next => exact .error rfl
  next => exact .ok _

theorem resolveMessage_blames (names : Names) (entry : MessageEntry) :
    BlamesConfiguration (resolveMessage names entry) :=
  (BlamesConfiguration.mapM (resolveField_blames names entry.name) entry.fields).bind
    fun _ => .ok _

theorem resolve_blames (file : SchemaFile) : BlamesConfiguration file.resolve :=
  (BlamesConfiguration.mapM (resolveMessage_blames file.names) file.messages).bind fun _ => .ok _

theorem ofToml_blames (text : String) : BlamesConfiguration (ofToml text) := by
  unfold ofToml
  split
  next => exact .ok _
  next => exact .error rfl

end SchemaFile

/-- The meaning of the text of a schema file. -/
def ResolvedSchema.ofToml (text : String) : Except Fault ResolvedSchema :=
  (SchemaFile.ofToml text).bind SchemaFile.resolve

theorem ResolvedSchema.ofToml_blames (text : String) : BlamesConfiguration (ofToml text) :=
  (SchemaFile.ofToml_blames text).bind SchemaFile.resolve_blames

end WireScript
