import WireScript.Proofs.Generator.Stages

/-! # Invariants of steps

A condition on the generator and its files that a step keeps, whether it comes to its end
or stops with a fault. The steps a run is made of keep what the operations on files keep
that they are made of. One such condition is that the settings stay as they are, which
holds of every step.
-/

namespace WireScript.Generator

variable {σ α β : Type}

/-- A step that keeps a condition on the generator and its files, however it ends. -/
def Preserves (invariant : Generator → σ → Prop) (step : Step (StateM σ) α) : Prop :=
  ∀ generator files, invariant generator files →
    Ensures step (fun _ => invariant) (fun _ => invariant) generator files

namespace Preserves

variable {invariant : Generator → σ → Prop}

theorem bind {first : Step (StateM σ) β} {next : β → Step (StateM σ) α}
    (hfirst : Preserves invariant first) (hnext : ∀ value, Preserves invariant (next value)) :
    Preserves invariant (first >>= next) := by
  intro generator files hinvariant
  rw [ensures_bind]
  exact (hfirst generator files hinvariant).imp hnext

theorem pure (value : α) : Preserves invariant (Pure.pure value : Step (StateM σ) α) :=
  fun _ _ hinvariant => hinvariant

theorem get : Preserves invariant (MonadState.get : Step (StateM σ) Generator) :=
  fun _ _ hinvariant => hinvariant

/-- A file operation that keeps the condition for the generator it is done for. -/
theorem atPath {path : Path} {action : StateM σ (Except FileError Unit)}
    (haction : ∀ generator files, invariant generator files →
      invariant generator (action files).2) :
    Preserves invariant (atPath path action) := by
  intro generator files hinvariant
  have hafter := haction generator files hinvariant
  rw [ensures_atPath]
  constructor
  · intro files' hfiles'
    rwa [hfiles'] at hafter
  · intro _ files' hfiles'
    rwa [hfiles'] at hafter

theorem currentRun : Preserves invariant (Generator.currentRun : Step (StateM σ) Run) := by
  intro generator files hinvariant
  unfold Ensures
  cases hrun : generator.run with
  | none => rwa [execOn_currentRun_of_none hrun]
  | some run => rwa [execOn_currentRun_of_some hrun]

theorem check (result : Except Fault α) :
    Preserves invariant (Generator.check result : Step (StateM σ) α) :=
  fun _ _ hinvariant => (ensures_check result).mpr ⟨fun _ _ => hinvariant, fun _ _ => hinvariant⟩

variable [FileStore (StateM σ)]

theorem writeAll {artifacts : List Artifact}
    (hwrite : ∀ artifact ∈ artifacts,
      Preserves invariant (Generator.write artifact : Step (StateM σ) Unit)) :
    Preserves invariant (Generator.writeAll artifacts : Step (StateM σ) Unit) := by
  induction artifacts with
  | nil => exact .pure ()
  | cons artifact rest ih =>
      obtain ⟨hfirst, hrest⟩ := List.forall_mem_cons.mp hwrite
      exact hfirst.bind fun _ => ih hrest

/-- What is kept when the directory of an artifact is made and the artifact stored. -/
theorem write {artifact : Artifact}
    (hcreate : ∀ parent, Preserves invariant
      (Generator.atPath parent (FileStore.createAll parent) : Step (StateM σ) Unit))
    (hstore : ∀ run, Preserves invariant (store run artifact : Step (StateM σ) Unit)) :
    Preserves invariant (Generator.write artifact : Step (StateM σ) Unit) := by
  rw [write_eq]
  refine currentRun.bind fun run => ?_
  cases (run.outputRoot.join artifact.path).parent? with
  | some parent => exact (hcreate parent).bind fun _ => hstore run
  | none => exact hstore run

/-- What the writes of the support files and of a registry keep. -/
theorem generateRegistry {schema : Schema}
    (hsupport : ∀ artifact ∈ Artifact.support,
      Preserves invariant (Generator.write artifact : Step (StateM σ) Unit))
    (hregistry : ∀ text,
      Preserves invariant (Generator.write ⟨Artifact.registryPath, text⟩ : Step (StateM σ) Unit)) :
    Preserves invariant (Generator.generateRegistry schema : Step (StateM σ) Unit) := by
  refine currentRun.bind fun run => (writeAll hsupport).bind fun _ => ?_
  intro generator files hinvariant
  rw [ensures_bind, ensures_check]
  refine ⟨?_, fun _ _ => hinvariant⟩
  intro registry hrendered
  obtain ⟨text, -, rfl⟩ := Run.registry_eq_ok_iff.mp hrendered
  exact hregistry text generator files hinvariant

theorem generateMessages {messages : List Message} {documentation : Documentation}
    (hmessage : ∀ message ∈ messages,
      Preserves invariant (generateMessage message documentation : Step (StateM σ) Unit)) :
    Preserves invariant
      (Generator.generateMessages documentation messages : Step (StateM σ) Unit) := by
  induction messages with
  | nil => exact .pure ()
  | cons message rest ih =>
      obtain ⟨hfirst, hrest⟩ := List.forall_mem_cons.mp hmessage
      exact hfirst.bind fun _ => ih hrest

end Preserves

/-- A step that leaves the settings of the generator alone, however it ends. -/
def KeepsConfig (step : Step (StateM σ) α) : Prop :=
  ∀ generator files, Ensures step (fun _ generator' _ => generator'.config = generator.config)
    (fun _ generator' _ => generator'.config = generator.config) generator files

theorem keepsConfig_iff {step : Step (StateM σ) α} :
    KeepsConfig step ↔ ∀ config, Preserves (fun generator _ => generator.config = config) step := by
  constructor
  · rintro hkeeps _ generator files rfl
    exact hkeeps generator files
  · intro hpreserves generator files
    exact hpreserves _ generator files rfl

namespace KeepsConfig

theorem bind {first : Step (StateM σ) β} {next : β → Step (StateM σ) α}
    (hfirst : KeepsConfig first) (hnext : ∀ value, KeepsConfig (next value)) :
    KeepsConfig (first >>= next) :=
  keepsConfig_iff.mpr fun config => (keepsConfig_iff.mp hfirst config).bind fun value =>
    keepsConfig_iff.mp (hnext value) config

theorem pure (value : α) : KeepsConfig (Pure.pure value : Step (StateM σ) α) := fun _ _ => rfl

theorem get : KeepsConfig (MonadState.get : Step (StateM σ) Generator) := fun _ _ => rfl

theorem check (result : Except Fault α) : KeepsConfig (check result : Step (StateM σ) α) :=
  keepsConfig_iff.mpr fun _ => .check result

theorem files (action : StateM σ α) : KeepsConfig (Generator.files action) := fun _ _ => rfl

theorem atPath (path : Path) (action : StateM σ (Except FileError Unit)) :
    KeepsConfig (atPath path action) :=
  keepsConfig_iff.mpr fun _ => .atPath fun _ _ hconfig => hconfig

theorem setRun (change : Generator → Option Run) :
    KeepsConfig (modify (fun generator => { generator with run := change generator }) :
      Step (StateM σ) Unit) :=
  fun _ _ => rfl

theorem currentRun : KeepsConfig (currentRun : Step (StateM σ) Run) :=
  keepsConfig_iff.mpr fun _ => .currentRun

variable [FileStore (StateM σ)]

theorem templates (config : Config) :
    KeepsConfig (templates config : Step (StateM σ) TemplateSet) := by
  unfold Generator.templates
  cases config.templateDirectory with
  | none => exact pure _
  | some directory => exact (files _).bind check

theorem resetDirectory (path : Path) :
    KeepsConfig (resetDirectory path : Step (StateM σ) Unit) := by
  refine (files _).bind ?_
  intro present
  cases present with
  | true => exact (atPath _ _).bind (fun _ => atPath _ _)
  | false => exact atPath _ _

theorem init : KeepsConfig (init : Step (StateM σ) Unit) :=
  get.bind fun generator => (check _).bind fun _ => (templates generator.config).bind fun _ =>
    (check _).bind fun _ => (check _).bind fun _ => (resetDirectory _).bind fun _ => setRun _

theorem store (run : Run) (artifact : Artifact) :
    KeepsConfig (store run artifact : Step (StateM σ) Unit) :=
  (atPath _ _).bind fun _ => setRun _

theorem write (artifact : Artifact) : KeepsConfig (write artifact : Step (StateM σ) Unit) :=
  keepsConfig_iff.mpr fun config => .write (fun _ => keepsConfig_iff.mp (atPath _ _) config)
    fun run => keepsConfig_iff.mp (store run artifact) config

theorem generateRegistry (schema : Schema) :
    KeepsConfig (generateRegistry schema : Step (StateM σ) Unit) :=
  keepsConfig_iff.mpr fun config => .generateRegistry
    (fun artifact _ => keepsConfig_iff.mp (write artifact) config)
    fun _ => keepsConfig_iff.mp (write _) config

theorem generateMessage (message : Message) (documentation : Documentation) :
    KeepsConfig (generateMessage message documentation : Step (StateM σ) Unit) :=
  currentRun.bind fun _ => get.bind fun _ => (check _).bind write

theorem generateMessages (documentation : Documentation) (messages : List Message) :
    KeepsConfig (generateMessages documentation messages : Step (StateM σ) Unit) :=
  keepsConfig_iff.mpr fun config => .generateMessages fun message _ =>
    keepsConfig_iff.mp (generateMessage message documentation) config

omit [FileStore (StateM σ)] in
theorem finish : KeepsConfig (finish : Step (StateM σ) Report) :=
  currentRun.bind fun _ => (setRun _).bind fun _ => pure _

theorem runAll (schema : Schema) (documentation : Documentation) :
    KeepsConfig (runAll schema documentation : Step (StateM σ) Report) :=
  init.bind fun _ => (generateRegistry schema).bind fun _ =>
    (generateMessages documentation schema.messages).bind fun _ => finish

end KeepsConfig

end WireScript.Generator
