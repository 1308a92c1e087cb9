import WireScript.Proofs.Generator.Idleness
import WireScript.Proofs.Generator.Placement
import WireScript.Proofs.Storage.Confinement

/-! # Frame of a run

A call of `generate` changes nothing outside of its output root, except that it makes
directories missing on the way there. This holds wherever the call stops, and for
files of any kind whose operations reach no further than the path they are given.
-/

namespace WireScript.Generator

variable {σ : Type}

/-- A generator in a run below `root`, whose files are outside of `root` as they were
at first. -/
structure RunsBelow (view : σ → FileTree) (root : Path) (policy : GroupingPolicy)
    (before : FileTree) (generator : Generator) (files : σ) : Prop where
  running : ∃ run, generator.run = some run ∧ run.outputRoot = root ∧
    policy.build = .ok run.grouping
  spares : before.SparesOutside root (view files)

section Steps

variable [FileStore (StateM σ)] {view : σ → FileTree} (hconfined : FileStore.Confined view)
variable {root : Path} (hroot : root.EndsInName) {policy : GroupingPolicy} {before : FileTree}

include hconfined

/-- Templates are read without a change to the files. -/
theorem ensures_templates_view (config : Config) (generator : Generator) (files : σ) :
    Ensures (templates config)
      (fun _ generator' files' => generator' = generator ∧ view files' = view files)
      (fun _ _ files' => view files' = view files) generator files := by
  unfold templates
  cases config.templateDirectory with
  | none => exact ⟨rfl, rfl⟩
  | some directory =>
      have hload := TemplateSet.load_view hconfined.readText directory files
      rw [ensures_bind, ensures_files, ensures_check]
      exact ⟨fun _ _ => ⟨rfl, hload⟩, fun _ _ => hload⟩

include hroot

theorem RunsBelow.createAll {generator : Generator} {files : σ} {names : List String}
    (hnames : ∀ name ∈ names, IsName name)
    (hruns : RunsBelow view root policy before generator files) :
    RunsBelow view root policy before generator
      ((FileStore.createAll (root.below names) : StateM σ (Except FileError Unit)) files).2 :=
  ⟨hruns.running, hruns.spares.trans (.of_created hroot hnames (hconfined.createAll _ _))⟩

theorem RunsBelow.writeText {generator : Generator} {files : σ} {names : List String}
    (hnames : ∀ name ∈ names, IsName name) (text : String)
    (hruns : RunsBelow view root policy before generator files) :
    RunsBelow view root policy before generator
      ((FileStore.writeText (root.below names) text : StateM σ (Except FileError Unit))
        files).2 :=
  ⟨hruns.running, hruns.spares.trans (.of_changed hroot hnames (hconfined.writeText _ _ _))⟩

/-- The output root is deleted with everything below it, and made again. -/
theorem preserves_resetDirectory :
    Preserves (fun _ files => before.SparesOutside root (view files))
      (resetDirectory root : Step (StateM σ) Unit) := by
  have hcreate : Preserves (fun _ files => before.SparesOutside root (view files))
      (atPath root (FileStore.createAll root) : Step (StateM σ) Unit) :=
    .atPath fun _ files hspares =>
      hspares.trans (.of_created hroot (List.forall_mem_nil _) (hconfined.createAll root files))
  have hremove : Preserves (fun _ files => before.SparesOutside root (view files))
      (atPath root (FileStore.removeAll root) : Step (StateM σ) Unit) :=
    .atPath fun _ files hspares =>
      hspares.trans (.of_changed hroot (List.forall_mem_nil _) (hconfined.removeAll root files))
  refine Preserves.bind ?_ ?_
  · intro generator files hspares
    rw [ensures_files, hconfined.isPresent]
    exact hspares
  · intro present
    cases present with
    | true => exact hremove.bind fun _ => hcreate
    | false => exact hcreate

/-- A placed artifact is written below the output root. -/
theorem preserves_write {artifact : Artifact} (hplaced : artifact.IsPlaced) :
    Preserves (RunsBelow view root policy before) (write artifact : Step (StateM σ) Unit) := by
  intro generator files hruns
  obtain ⟨run, hrun, rfl, hbuild⟩ := hruns.running
  obtain ⟨names, above, last, hnames, habove, -, -, hjoin, hparent⟩ := hplaced.exists_below hroot
  rw [hjoin] at hparent
  have hstore : Preserves (RunsBelow view run.outputRoot policy before)
      (store run artifact : Step (StateM σ) Unit) := by
    refine Preserves.bind (.atPath ?_) fun _ _ _ hruns => ⟨⟨_, rfl, rfl, hbuild⟩, hruns.spares⟩
    intro _ _
    rw [hjoin]
    exact RunsBelow.writeText hconfined hroot hnames artifact.contents
  rw [write_eq, ensures_bind, ensures_currentRun hrun]
  simp only [hjoin, hparent]
  exact ((Preserves.atPath fun _ _ => RunsBelow.createAll hconfined hroot habove).bind
    fun _ => hstore) generator files hruns

theorem preserves_generateRegistry (schema : Schema) :
    Preserves (RunsBelow view root policy before)
      (generateRegistry schema : Step (StateM σ) Unit) :=
  Preserves.generateRegistry
    (fun _ hartifact => preserves_write hconfined hroot (Artifact.isPlaced_support hartifact))
    (fun text => preserves_write hconfined hroot (Artifact.isPlaced_registry text))

theorem preserves_generateMessage {message : Message}
    (hname : Name.isIdentifier message.name = true) (documentation : Documentation) :
    Preserves (RunsBelow view root policy before)
      (generateMessage message documentation : Step (StateM σ) Unit) := by
  intro generator files hruns
  obtain ⟨run, hrun, -, hbuild⟩ := hruns.running
  rw [generateMessage, ensures_bind, ensures_currentRun hrun, ensures_bind, ensures_get,
    ensures_bind, ensures_check]
  refine ⟨?_, fun _ _ => hruns⟩
  intro artifact hmodule
  obtain ⟨blocks, text, -, -, rfl⟩ := Run.messageModule_eq_ok_iff.mp hmodule
  have hplaced : Artifact.IsPlaced
      ⟨Layout.messagePath (run.grouping.directory message.id) message.name, text⟩ :=
    Artifact.isPlaced_module hname (GroupingPolicy.directory_eq hbuild message.id)
  exact preserves_write hconfined hroot hplaced generator files hruns

theorem preserves_generateMessages {messages : List Message}
    (hnames : ∀ message ∈ messages, Name.isIdentifier message.name = true)
    (documentation : Documentation) :
    Preserves (RunsBelow view root policy before)
      (generateMessages documentation messages : Step (StateM σ) Unit) :=
  .generateMessages fun message hmessage =>
    preserves_generateMessage hconfined hroot (hnames message hmessage) documentation

end Steps

section Runs

variable [FileStore (StateM σ)] {view : σ → FileTree} (hconfined : FileStore.Confined view)
variable {generator : Generator} {files : σ}

include hconfined

/-- The start of a run deletes what is at the output root and below it. -/
theorem ensures_init (hroot : generator.config.outputRoot.EndsInName) :
    Ensures init
      (fun _ => RunsBelow view generator.config.outputRoot generator.config.grouping (view files))
      (fun _ _ files' => (view files).SparesOutside generator.config.outputRoot (view files'))
      generator files := by
  have hrefl : (view files).SparesOutside generator.config.outputRoot (view files) := .refl _ _
  rw [init, ensures_bind, ensures_get, ensures_bind, ensures_check]
  refine ⟨?_, fun _ _ => hrefl⟩
  intro _ _
  rw [ensures_bind]
  refine (ensures_templates_view hconfined generator.config generator files).mono ?_ ?_
  · rintro templates _ files' ⟨rfl, hview⟩
    rw [ensures_bind, ensures_check, ← hview]
    rw [← hview] at hrefl
    refine ⟨?_, fun _ _ => hrefl⟩
    intro _ _
    rw [ensures_bind, ensures_check]
    refine ⟨?_, fun _ _ => hrefl⟩
    intro grouping hbuild
    rw [ensures_bind]
    refine (preserves_resetDirectory hconfined hroot _ files' hrefl).imp ?_
    intro _ _ _ hspares
    exact ⟨⟨_, rfl, rfl, hbuild⟩, hspares⟩
  · intro _ _ _ hview
    rwa [hview]

/-- A run spares what is outside of its output root, whether it comes to its end or
stops with a fault. -/
theorem ensures_runAll_spares (hroot : generator.config.outputRoot.EndsInName) {schema : Schema}
    (hnames : ∀ message ∈ schema.messages, Name.isIdentifier message.name = true)
    (documentation : Documentation) :
    Ensures (runAll schema documentation)
      (fun _ _ files' => (view files).SparesOutside generator.config.outputRoot (view files'))
      (fun _ _ files' => (view files).SparesOutside generator.config.outputRoot (view files'))
      generator files := by
  rw [runAll, ensures_bind]
  refine (ensures_init hconfined hroot).imp ?_
  intro _ started files' hstarted
  rw [ensures_bind]
  refine (preserves_generateRegistry hconfined hroot schema started files' hstarted).mono ?_
    (fun _ _ _ hruns => hruns.spares)
  intro _ registered files' hregistered
  rw [ensures_bind]
  refine (preserves_generateMessages hconfined hroot hnames documentation registered files'
    hregistered).mono ?_ (fun _ _ _ hruns => hruns.spares)
  intro _ written files' hwritten
  obtain ⟨run, hrun, -⟩ := hwritten.running
  unfold Ensures
  rw [execOn_finish hrun]
  exact hwritten.spares

end Runs

/-- A call of `generate` leaves every file and directory that is not at its output root
or below it as it was, wherever the call stops. At most it makes directories that were
missing on the way to the output root. This holds of a file tree, and of files of any
kind that are confined. -/
theorem generate_spares (schema : Schema) (documentation : Documentation)
    (generator : Generator) :
    (∀ tree : FileTree, tree.SparesOutside generator.config.outputRoot
      (exec (generate schema documentation) generator tree).2) ∧
    ∀ (σ : Type) [FileStore (StateM σ)] (view : σ → FileTree), FileStore.Confined view →
      ∀ files : σ, (view files).SparesOutside generator.config.outputRoot
        (view (execOn (generate schema documentation) generator files).2) := by
  have hspares (σ : Type) [FileStore (StateM σ)] (view : σ → FileTree)
      (hconfined : FileStore.Confined view) (files : σ) :
      (view files).SparesOutside generator.config.outputRoot
        (view (execOn (generate schema documentation) generator files).2) := by
    have hgenerate : Ensures (generate schema documentation)
        (fun _ _ files' => (view files).SparesOutside generator.config.outputRoot (view files'))
        (fun _ _ files' => (view files).SparesOutside generator.config.outputRoot (view files'))
        generator files := by
      refine ensures_generate_planned.mpr ⟨fun _ _ => .refl _ _, ?_⟩
      intro paths hplanned
      obtain ⟨hconfig, grouping, -, hplan⟩ := planned_eq_ok_iff.mp hplanned
      have hroot := Config.endsInName_outputRoot (Config.validate_eq_ok_iff.mp hconfig)
      have hschema := (Layout.plan_eq_ok_iff.mp hplan).1
      exact ensures_runAll_spares hconfined hroot
        (fun _ => Schema.isIdentifier_of_valid hschema) documentation
    exact hgenerate.files_left
  exact ⟨hspares FileTree (fun tree => tree) FileTree.confined, hspares⟩

/-- A run that is refused its fourth change has deleted the older output by then. What
is beside the output root is untouched. -/
theorem generate_spares_refused :
    let single : Schema := ⟨[⟨1, "First", [.ofKind "level" (.scalar .int)]⟩]⟩
    let tree : FileTree := ⟨[(["notes.txt"], .file "kept".toUTF8), (["jsProtocol"], .directory),
      (["jsProtocol", "Old.js"], .file "old".toUTF8)], []⟩
    let after := execOn (generate single .empty) (ofConfig .default) (⟨tree, 3⟩ : MeteredTree)
    after.1.1.isOk = false ∧
      after.2.tree.lookup ["jsProtocol", "Old.js"] = none ∧
      tree.SparesOutside Config.default.outputRoot after.2.tree ∧
      after.2.tree.lookup ["notes.txt"] = some (.file "kept".toUTF8) := by
  intro single tree after
  have hruns : after.1.1.isOk = false ∧
      after.2.tree.lookup ["jsProtocol", "Old.js"] = none := by
    decide +kernel
  have hspares : tree.SparesOutside Config.default.outputRoot after.2.tree :=
    (generate_spares single .empty (ofConfig .default)).2 MeteredTree MeteredTree.tree
      MeteredTree.confined ⟨tree, 3⟩
  have hbeside : ¬ Config.default.outputRoot.location tree.origin <+: ["notes.txt"] := by
    decide +kernel
  exact ⟨hruns.1, hruns.2, hspares, hspares.kept hbeside (by decide +kernel)⟩

end WireScript.Generator
