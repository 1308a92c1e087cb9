import Mathlib.Data.List.Forall2
import WireScript.Proofs.Generator.Execution
import WireScript.Proofs.Layout
import WireScript.Proofs.Template

/-! # Stages of a run

`Generator.generate` judges everything it was given before it changes a file.
`ready` is that judgement as a function of the settings, the schema and the tree,
and `produce` is what a run does after it: from there on the templates, the
emission of every message and the state of the generator give no cause to stop.
-/

namespace WireScript

namespace TemplateSet

section Load

variable {σ β : Type} [FileStore (StateM σ)] {view : σ → β}

theorem loadTemplate_view
    (hread : ∀ path files,
      view ((FileStore.readText path : StateM σ (Except FileError String)) files).2 = view files)
    (directory : Path) (file : String) (files : σ) :
    view ((loadTemplate directory file : StateM σ (Except Fault Template)) files).2 =
      view files := by
  have hfile := hread (directory.join file) files
  simp only [loadTemplate, bind, StateT.bind]
  rcases hresult : (FileStore.readText (directory.join file) :
    StateM σ (Except FileError String)) files with ⟨result, after⟩
  rw [hresult] at hfile
  cases result <;> exact hfile

/-- What reading a file leaves alone is left alone when templates are read. -/
theorem load_view
    (hread : ∀ path files,
      view ((FileStore.readText path : StateM σ (Except FileError String)) files).2 = view files)
    (directory : Path) (files : σ) :
    view ((load directory : StateM σ (Except Fault TemplateSet)) files).2 = view files := by
  have hmessage := loadTemplate_view hread directory Template.messageFile files
  simp only [load, bind, StateT.bind]
  rcases hfirst : (loadTemplate directory Template.messageFile :
    StateM σ (Except Fault Template)) files with ⟨message, between⟩
  rw [hfirst] at hmessage
  cases message with
  | error fault => exact hmessage
  | ok message =>
      have hregistry := loadTemplate_view hread directory Template.registryFile between
      rcases hsecond : (loadTemplate directory Template.registryFile :
        StateM σ (Except Fault Template)) between with ⟨registry, after⟩
      rw [hsecond] at hregistry
      simp only [StateT.bind, hsecond]
      cases registry <;> exact hregistry.trans hmessage

end Load

/-- Templates are read without a change to the files. -/
theorem load_snd (directory : Path) (tree : FileTree) :
    ((load directory : StateM FileTree (Except Fault TemplateSet)) tree).2 = tree :=
  @load_view FileTree FileTree _ (fun tree => tree) (fun _ _ => rfl) directory tree

theorem verify_eq_ok_iff {set : TemplateSet} :
    set.verify = .ok () ↔
      set.message.placeholders = messageArity ∧ set.registry.placeholders = registryArity := by
  unfold verify Template.checkArity
  by_cases hmessage : set.message.placeholders = messageArity
  · rw [if_pos hmessage]
    by_cases hregistry : set.registry.placeholders = registryArity
    · rw [if_pos hregistry]
      exact iff_of_true rfl ⟨hmessage, hregistry⟩
    · rw [if_neg hregistry]
      exact iff_of_false (by rintro ⟨⟩) (fun hboth => hregistry hboth.2)
  · rw [if_neg hmessage]
    exact iff_of_false (by rintro ⟨⟩) (fun hboth => hmessage hboth.1)

/-- A verified set takes the values for the registry. -/
theorem renderRegistry_eq_ok {set : TemplateSet} (hverify : set.verify = .ok ())
    (entries : List RegistryEntry) : ∃ text, set.renderRegistry entries = .ok text :=
  ⟨_, Template.render_eq_ok (verify_eq_ok_iff.mp hverify).2⟩

/-- A verified set takes the values for any message. -/
theorem renderMessage_eq_ok {set : TemplateSet} (hverify : set.verify = .ok ()) (name : String)
    (id : ProtocolId) (title : String) (blocks : Blocks) :
    ∃ text, set.renderMessage name id title blocks = .ok text :=
  ⟨_, Template.render_eq_ok (verify_eq_ok_iff.mp hverify).1⟩

end TemplateSet

theorem Config.validate_eq_ok_iff {config : Config} :
    config.validate = .ok () ↔ config.issue? = none := by
  unfold validate
  cases config.issue? <;> simp

/-- The templates of a configuration, read from a tree. -/
def Config.loadTemplates (config : Config) (tree : FileTree) : Except Fault TemplateSet :=
  match config.templateDirectory with
  | none => .ok .embedded
  | some directory =>
      ((TemplateSet.load directory : StateM FileTree (Except Fault TemplateSet)) tree).1

namespace Generator

/-- What is judged before a run is started: the settings, the grouping and the
plan of the outputs. -/
def planned (config : Config) (schema : Schema) : Except Fault (List String) := do
  config.validate
  let grouping ← config.grouping.build
  Layout.plan grouping.directory config.nestingLimit schema

theorem planned_eq_ok_iff {config : Config} {schema : Schema} {paths : List String} :
    planned config schema = .ok paths ↔
      config.validate = .ok () ∧ ∃ grouping, config.grouping.build = .ok grouping ∧
        Layout.plan grouping.directory config.nestingLimit schema = .ok paths := by
  rw [planned, judged_ok_iff, bind_ok_iff]

section Planning

variable {σ : Type} [FileStore (StateM σ)] {schema : Schema} {documentation : Documentation}

theorem generate_eq (schema : Schema) (documentation : Documentation) :
    (generate schema documentation : Step (StateM σ) Report) = (do
      let _ ← check (planned (← get).config schema)
      tryCatch (runAll schema documentation) (fun fault => do
        clear
        throw fault)) := by
  simp only [generate, planned, check_bind, bind_assoc]

/-- Planning comes before the run, and only a fault of the run gives it up. -/
theorem ensures_generate_planned {generator : Generator} {files : σ}
    {done : Report → Generator → σ → Prop} {failed : Fault → Generator → σ → Prop} :
    Ensures (generate schema documentation) done failed generator files ↔
      (∀ fault, planned generator.config schema = .error fault → failed fault generator files) ∧
        ∀ paths, planned generator.config schema = .ok paths →
          Ensures (runAll schema documentation) done (fun fault generator' files' =>
            failed fault { generator' with run := none } files') generator files := by
  rw [generate_eq, ensures_bind, ensures_get, ensures_bind, ensures_check, and_comm]
  simp only [ensures_clearing]

end Planning

/-- The judgement of settings, schema and templates, with what it finds out for
the run. -/
def ready (config : Config) (schema : Schema) (tree : FileTree) :
    Except Fault (TemplateSet × Grouping) := do
  config.validate
  let grouping ← config.grouping.build
  let _ ← Layout.plan grouping.directory config.nestingLimit schema
  let templates ← config.loadTemplates tree
  templates.verify
  return (templates, grouping)

/-- What a run does from the deletion of the old output on. -/
def produce (templates : TemplateSet) (grouping : Grouping) (schema : Schema)
    (documentation : Documentation) : TreeStep Report := do
  let config := (← get).config
  resetDirectory config.outputRoot
  modify (fun generator =>
    { generator with run := some ⟨config.outputRoot, templates, grouping, []⟩ })
  generateRegistry schema
  generateMessages documentation schema.messages
  finish

section Ready

variable {schema : Schema} {documentation : Documentation} {generator : Generator}
variable {tree : FileTree} {done : Report → Generator → FileTree → Prop}
variable {failed : Fault → FileTree → Prop}

theorem ensures_templates {done : TemplateSet → Generator → FileTree → Prop} (config : Config) :
    Ensures (templates config) done (fun fault _ tree => failed fault tree) generator tree ↔
      (∀ set, config.loadTemplates tree = .ok set → done set generator tree) ∧
        ∀ fault, config.loadTemplates tree = .error fault → failed fault tree := by
  unfold templates Config.loadTemplates
  cases config.templateDirectory with
  | none => simp [ensures_pure]
  | some directory =>
      simp only [ensures_bind, ensures_files, ensures_check, TemplateSet.load_snd]

/-- A run judges its settings again and its templates, and then produces. -/
theorem ensures_runAll {grouping : Grouping} (hconfig : generator.config.validate = .ok ())
    (hgrouping : generator.config.grouping.build = .ok grouping) :
    Ensures (runAll schema documentation) done (fun fault _ tree => failed fault tree)
        generator tree ↔
      (∀ fault, generator.config.loadTemplates tree = .error fault → failed fault tree) ∧
        ∀ templates, generator.config.loadTemplates tree = .ok templates →
          (∀ fault, templates.verify = .error fault → failed fault tree) ∧
            (templates.verify = .ok () →
              Ensures (produce templates grouping schema documentation) done
                (fun fault _ tree => failed fault tree) generator tree) := by
  simp only [runAll, init, produce, ensures_bind, ensures_get, ensures_check, ensures_templates,
    hconfig, hgrouping]
  constructor
  · intro hdone
    obtain ⟨hjudged, -⟩ := hdone
    obtain ⟨hloaded, hfault⟩ := hjudged () trivial
    refine ⟨hfault, ?_⟩
    intro templates htemplates
    obtain ⟨hverified, hmismatch⟩ := hloaded templates htemplates
    exact ⟨hmismatch, fun hverify => (hverified () hverify).1 grouping rfl⟩
  · intro hdone
    obtain ⟨hfault, hloaded⟩ := hdone
    refine ⟨?_, by rintro fault ⟨⟩⟩
    intro _ _
    refine ⟨?_, hfault⟩
    intro templates htemplates
    obtain ⟨hmismatch, hverified⟩ := hloaded templates htemplates
    refine ⟨?_, hmismatch⟩
    intro _ hverify
    refine ⟨?_, by rintro fault ⟨⟩⟩
    rintro _ ⟨⟩
    exact hverified hverify

theorem ready_eq (config : Config) (schema : Schema) (tree : FileTree) :
    ready config schema tree = (do
      let _ ← planned config schema
      let grouping ← config.grouping.build
      let templates ← config.loadTemplates tree
      templates.verify
      return (templates, grouping)) := by
  unfold ready planned
  cases config.validate with
  | error fault => rfl
  | ok valid =>
      cases config.grouping.build with
      | error fault => rfl
      | ok grouping => simp only [bind, Except.bind]

/-- A run changes no file until everything has been judged. -/
theorem ensures_generate :
    Ensures (generate schema documentation) done (fun fault _ tree => failed fault tree)
        generator tree ↔
      (∀ fault, ready generator.config schema tree = .error fault → failed fault tree) ∧
        ∀ templates grouping, ready generator.config schema tree = .ok (templates, grouping) →
          Ensures (produce templates grouping schema documentation) done
            (fun fault _ tree => failed fault tree) generator tree := by
  rw [ensures_generate_planned, ready_eq]
  cases hplanned : planned generator.config schema with
  | error fault => simp [bind, Except.bind]
  | ok paths =>
      obtain ⟨hconfig, grouping, hgrouping, -⟩ := planned_eq_ok_iff.mp hplanned
      rw [ensures_runAll hconfig hgrouping, hgrouping]
      cases generator.config.loadTemplates tree with
      | error fault => simp [bind, Except.bind]
      | ok templates =>
          cases hverify : templates.verify <;>
            simp [bind, Except.bind, pure, Except.pure, hverify]

theorem ready_eq_ok_iff {config : Config} {templates : TemplateSet} {grouping : Grouping} :
    ready config schema tree = .ok (templates, grouping) ↔
      config.validate = .ok () ∧ config.grouping.build = .ok grouping ∧
        (∃ paths, Layout.plan grouping.directory config.nestingLimit schema = .ok paths) ∧
        config.loadTemplates tree = .ok templates ∧ templates.verify = .ok () := by
  simp only [ready, bind_ok_iff]
  constructor
  · rintro ⟨_, hconfig, _, hgrouping, paths, hplan, _, htemplates, _, hverify, ⟨⟩⟩
    exact ⟨hconfig, hgrouping, ⟨paths, hplan⟩, htemplates, hverify⟩
  · rintro ⟨hconfig, hgrouping, ⟨paths, hplan⟩, htemplates, hverify⟩
    exact ⟨(), hconfig, grouping, hgrouping, paths, hplan, templates, htemplates, (), hverify, rfl⟩

/-- A run by the embedded templates, once it has been judged. -/
theorem ready_embedded {config : Config} {templates : TemplateSet} {grouping : Grouping}
    (hembedded : config.templateDirectory = none)
    (hready : ready config schema tree = .ok (templates, grouping)) :
    templates = .embedded ∧ config.grouping.build = .ok grouping ∧ schema.validate = .ok () := by
  obtain ⟨-, hgrouping, ⟨paths, hplan⟩, htemplates, -⟩ := ready_eq_ok_iff.mp hready
  rw [Config.loadTemplates, hembedded] at htemplates
  exact ⟨(Except.ok.inj htemplates).symm, hgrouping, (Layout.plan_eq_ok_iff.mp hplan).1⟩

end Ready

end Generator

/-- A failure of an operation on files that is not the loading of a template. -/
def Fault.IsFile (fault : Fault) : Prop := ∃ path error, fault = .io path error

namespace Run

variable {run : Run}

theorem registry_eq_ok_iff {schema : Schema} {artifact : Artifact} :
    run.registry schema = .ok artifact ↔
      ∃ text, run.templates.renderRegistry (schema.messages.map run.registryEntry) = .ok text ∧
        artifact = ⟨Artifact.registryPath, text⟩ := by
  rw [registry, bind_ok_iff]
  constructor
  · rintro ⟨text, htext, ⟨⟩⟩
    exact ⟨text, htext, rfl⟩
  · rintro ⟨text, htext, rfl⟩
    exact ⟨text, htext, rfl⟩

/-- The module of a message is the text its blocks are rendered to. -/
theorem messageModule_eq_ok_iff {limit : Nat} {message : Message} {document : Document}
    {artifact : Artifact} :
    run.messageModule limit message document = .ok artifact ↔
      ∃ blocks text,
        (Blocks.ofMessage Table.full message document (.ofLimit limit)).1 = .ok blocks ∧
          run.templates.renderMessage message.name message.id document.title blocks = .ok text ∧
          artifact = ⟨Layout.messagePath (run.grouping.directory message.id) message.name,
            text⟩ := by
  simp only [messageModule, bind_ok_iff]
  constructor
  · rintro ⟨blocks, hblocks, text, htext, ⟨⟩⟩
    exact ⟨blocks, text, hblocks, htext, rfl⟩
  · rintro ⟨blocks, text, hblocks, htext, rfl⟩
    exact ⟨blocks, hblocks, text, htext, rfl⟩

/-- With verified templates every message within the limit has a module. -/
theorem exists_messageModule (hverify : run.templates.verify = .ok ()) {limit : Nat}
    {message : Message} (hdepth : ∀ field ∈ message.fields, field.kind.depth ≤ limit)
    (document : Document) :
    ∃ artifact, run.messageModule limit message document = .ok artifact := by
  obtain ⟨text, htext⟩ := TemplateSet.renderMessage_eq_ok hverify message.name message.id
    document.title (Blocks.plain message document)
  exact ⟨_, messageModule_eq_ok_iff.mpr
    ⟨_, text, Blocks.ofMessage_full_ok_iff.mpr ⟨hdepth, rfl⟩, htext, rfl⟩⟩

end Run

namespace FileTree

/-- A directory is reset: removed if it is there, and created. -/
def ResetTo (tree : FileTree) (root : Path) (after : FileTree) : Prop :=
  ∃ between,
    (if tree.isPresent root then tree.removeAll root = (.ok (), between) else between = tree) ∧
      between.createAll root = (.ok (), after)

/-- An artifact is stored below a root, in a directory that is created for it. -/
def StoresTo (tree : FileTree) (root : Path) (artifact : Artifact) (after : FileTree) : Prop :=
  ∃ between,
    (match (root.join artifact.path).parent? with
      | some parent => tree.createAll parent = (.ok (), between)
      | none => between = tree) ∧
      between.writeText (root.join artifact.path) artifact.contents = (.ok (), after)

/-- Artifacts are stored one after another. -/
inductive StoresAllTo (root : Path) : FileTree → List Artifact → FileTree → Prop where
  | nil (tree : FileTree) : StoresAllTo root tree [] tree
  | cons {tree between after : FileTree} {artifact : Artifact} {rest : List Artifact}
      (hfirst : tree.StoresTo root artifact between)
      (hrest : StoresAllTo root between rest after) :
      StoresAllTo root tree (artifact :: rest) after

theorem StoresAllTo.append {root : Path} {tree between after : FileTree}
    {first second : List Artifact} (hfirst : StoresAllTo root tree first between)
    (hsecond : StoresAllTo root between second after) :
    StoresAllTo root tree (first ++ second) after := by
  induction hfirst with
  | nil => exact hsecond
  | cons hartifact _ ih => exact .cons hartifact (ih hsecond)

end FileTree

namespace Generator

/-- The generator after its run has written some more artifacts. -/
def recording (generator : Generator) (run : Run) (artifacts : List Artifact) : Generator :=
  { generator with run := some { run with written := run.written ++ artifacts } }

theorem run_recording (generator : Generator) (run : Run) (artifacts : List Artifact) :
    (generator.recording run artifacts).run =
      some { run with written := run.written ++ artifacts } :=
  rfl

section Produce

variable {generator : Generator} {tree : FileTree} {run : Run}

theorem ensures_resetDirectory (root : Path) :
    Ensures (resetDirectory root)
      (fun _ generator' tree' => generator' = generator ∧ tree.ResetTo root tree')
      (fun fault _ _ => fault.IsFile) generator tree := by
  have hcreate (between : FileTree)
      (hbetween : if tree.isPresent root then tree.removeAll root = (.ok (), between)
        else between = tree) :
      Ensures (atPath root (FileStore.createAll root))
        (fun _ generator' tree' => generator' = generator ∧ tree.ResetTo root tree')
        (fun fault _ _ => fault.IsFile) generator between := by
    rw [ensures_atPath]
    refine ⟨?_, fun error _ _ => ⟨root, error, rfl⟩⟩
    intro after hafter
    exact ⟨rfl, between, hbetween, hafter⟩
  unfold resetDirectory
  rw [ensures_bind, ensures_files]
  by_cases hpresent : tree.isPresent root = true
  · change Ensures (if tree.isPresent root = true then _ else _) _ _ _ tree
    rw [if_pos hpresent, ensures_bind, ensures_atPath]
    refine ⟨?_, fun error _ _ => ⟨root, error, rfl⟩⟩
    intro between hbetween
    exact hcreate between (by rw [if_pos hpresent]; exact hbetween)
  · change Ensures (if tree.isPresent root = true then _ else _) _ _ _ tree
    rw [if_neg hpresent]
    exact hcreate tree (by rw [if_neg hpresent])

/-- A write stores its artifact and records it, or stops at the files. -/
theorem ensures_write (hrun : generator.run = some run) (artifact : Artifact) :
    Ensures (write artifact)
      (fun _ generator' tree' => generator' = generator.recording run [artifact] ∧
        tree.StoresTo run.outputRoot artifact tree')
      (fun fault _ _ => fault.IsFile) generator tree := by
  have hstore (between : FileTree)
      (hbetween : match (run.outputRoot.join artifact.path).parent? with
        | some parent => tree.createAll parent = (.ok (), between)
        | none => between = tree) :
      Ensures (store run artifact)
        (fun _ generator' tree' => generator' = generator.recording run [artifact] ∧
          tree.StoresTo run.outputRoot artifact tree')
        (fun fault _ _ => fault.IsFile) generator between := by
    rw [store, ensures_bind, ensures_atPath]
    refine ⟨?_, fun error _ _ => ⟨_, error, rfl⟩⟩
    intro after hafter
    rw [ensures_modify]
    exact ⟨rfl, between, hbetween, hafter⟩
  rw [write_eq, ensures_bind, ensures_currentRun hrun]
  cases hparent : (run.outputRoot.join artifact.path).parent? with
  | some parent =>
      rw [ensures_bind, ensures_atPath]
      refine ⟨?_, fun error _ _ => ⟨parent, error, rfl⟩⟩
      intro between hbetween
      exact hstore between (by rw [hparent]; exact hbetween)
  | none => exact hstore tree (by rw [hparent])

theorem ensures_writeAll (hrun : generator.run = some run) (artifacts : List Artifact) :
    Ensures (writeAll artifacts)
      (fun _ generator' tree' => generator' = generator.recording run artifacts ∧
        FileTree.StoresAllTo run.outputRoot tree artifacts tree')
      (fun fault _ _ => fault.IsFile) generator tree := by
  induction artifacts generalizing generator run tree with
  | nil =>
      rw [writeAll, ensures_pure]
      refine ⟨?_, .nil tree⟩
      rw [recording, List.append_nil, ← hrun]
  | cons artifact rest ih =>
      rw [writeAll, ensures_bind]
      refine (ensures_write hrun artifact).imp ?_
      intro _ generator' between hdone
      obtain ⟨rfl, hartifact⟩ := hdone
      refine (ih (run_recording generator run [artifact])).imp ?_
      intro _ generator' after hdone
      obtain ⟨rfl, hrest⟩ := hdone
      refine ⟨?_, .cons hartifact hrest⟩
      simp [recording]

theorem ensures_generateRegistry (hrun : generator.run = some run)
    (hverify : run.templates.verify = .ok ()) (schema : Schema) :
    Ensures (generateRegistry schema)
      (fun _ generator' tree' => ∃ registry, run.registry schema = .ok registry ∧
        generator' = generator.recording run (Artifact.support ++ [registry]) ∧
        FileTree.StoresAllTo run.outputRoot tree (Artifact.support ++ [registry]) tree')
      (fun fault _ _ => fault.IsFile) generator tree := by
  rw [generateRegistry, ensures_bind, ensures_currentRun hrun, ensures_bind]
  refine (ensures_writeAll hrun _).imp ?_
  intro _ generator' between hdone
  obtain ⟨rfl, hsupport⟩ := hdone
  obtain ⟨text, htext⟩ := TemplateSet.renderRegistry_eq_ok hverify
    (schema.messages.map run.registryEntry)
  have hregistry : run.registry schema = .ok ⟨Artifact.registryPath, text⟩ :=
    Run.registry_eq_ok_iff.mpr ⟨text, htext, rfl⟩
  rw [ensures_bind, ensures_check, hregistry]
  refine ⟨?_, by rintro fault ⟨⟩⟩
  rintro registry ⟨⟩
  refine (ensures_write (run_recording generator run Artifact.support) _).imp ?_
  intro _ generator' after hdone
  obtain ⟨rfl, hafter⟩ := hdone
  refine ⟨_, rfl, ?_, hsupport.append (.cons hafter (.nil _))⟩
  simp [recording]

/-- The message modules of a run, in the order of the messages. -/
theorem ensures_generateMessages {messages : List Message} (hrun : generator.run = some run)
    (hverify : run.templates.verify = .ok ())
    (hdepth : ∀ message ∈ messages, ∀ field ∈ message.fields,
      field.kind.depth ≤ generator.config.nestingLimit) (documentation : Documentation) :
    Ensures (generateMessages documentation messages)
      (fun _ generator' tree' => ∃ modules,
        List.Forall₂ (fun message artifact => run.messageModule generator.config.nestingLimit
          message (documentation.document message.id) = .ok artifact) messages modules ∧
        generator' = generator.recording run modules ∧
        FileTree.StoresAllTo run.outputRoot tree modules tree')
      (fun fault _ _ => fault.IsFile) generator tree := by
  induction messages generalizing generator run tree with
  | nil =>
      rw [generateMessages, ensures_pure]
      refine ⟨[], .nil, ?_, .nil tree⟩
      rw [recording, List.append_nil, ← hrun]
  | cons message messages ih =>
      obtain ⟨hfirst, hrest⟩ := List.forall_mem_cons.mp hdepth
      obtain ⟨artifact, hartifact⟩ := run.exists_messageModule hverify hfirst
        (documentation.document message.id)
      rw [generateMessages, ensures_bind, generateMessage, ensures_bind, ensures_currentRun hrun,
        ensures_bind, ensures_get, ensures_bind, ensures_check, hartifact]
      refine ⟨?_, by rintro fault ⟨⟩⟩
      rintro _ ⟨⟩
      refine (ensures_write hrun artifact).imp ?_
      intro _ generator' between hdone
      obtain ⟨rfl, hstored⟩ := hdone
      refine (ih (run_recording generator run [artifact]) hverify hrest).imp ?_
      intro _ generator' after hdone
      obtain ⟨modules, hmodules, rfl, hafter⟩ := hdone
      refine ⟨artifact :: modules, .cons hartifact hmodules, ?_, .cons hstored hafter⟩
      simp [recording]

/-- The artifacts of a whole run: the support files, the registry, and the module
of every message in schema order. -/
def IsOutput (run : Run) (limit : Nat) (schema : Schema) (documentation : Documentation)
    (artifacts : List Artifact) : Prop :=
  ∃ registry modules, artifacts = Artifact.support ++ registry :: modules ∧
    run.registry schema = .ok registry ∧
    List.Forall₂ (fun message artifact => run.messageModule limit message
      (documentation.document message.id) = .ok artifact) schema.messages modules

/-- What a run did from the deletion of the old output to its end: it reset the
output root, stored its artifacts there, and reported them. -/
def Produced (config : Config) (templates : TemplateSet) (grouping : Grouping) (schema : Schema)
    (documentation : Documentation) (tree : FileTree) (report : Report) (tree' : FileTree) :
    Prop :=
  ∃ artifacts cleared,
    IsOutput ⟨config.outputRoot, templates, grouping, []⟩ config.nestingLimit schema
      documentation artifacts ∧
    report = Run.report ⟨config.outputRoot, templates, grouping, artifacts⟩ ∧
    tree.ResetTo config.outputRoot cleared ∧
    FileTree.StoresAllTo config.outputRoot cleared artifacts tree'

/-- When everything has been judged, production stops at the files or not at all,
whatever tree it starts from. -/
theorem ensures_produce {templates : TemplateSet} {grouping : Grouping} {schema : Schema}
    {judged : FileTree}
    (hready : ready generator.config schema judged = .ok (templates, grouping))
    (documentation : Documentation) :
    Ensures (produce templates grouping schema documentation)
      (fun report _ tree' =>
        Produced generator.config templates grouping schema documentation tree report tree')
      (fun fault _ _ => fault.IsFile) generator tree := by
  obtain ⟨-, -, ⟨paths, hplan⟩, -, hverify⟩ := ready_eq_ok_iff.mp hready
  have hdepth := (Layout.plan_eq_ok_iff.mp hplan).2.1
  let run : Run := ⟨generator.config.outputRoot, templates, grouping, []⟩
  rw [produce, ensures_bind, ensures_get, ensures_bind]
  refine (ensures_resetDirectory run.outputRoot).imp ?_
  intro _ generator' cleared hdone
  obtain ⟨rfl, hcleared⟩ := hdone
  rw [ensures_bind, ensures_modify, ensures_bind]
  have hrun : Generator.run ⟨generator'.config, some run⟩ = some run := rfl
  refine (ensures_generateRegistry hrun hverify schema).imp ?_
  intro _ generator'' between hdone
  obtain ⟨registry, hregistry, rfl, hbetween⟩ := hdone
  rw [ensures_bind]
  have hrecorded := run_recording ⟨generator'.config, some run⟩ run
    (Artifact.support ++ [registry])
  refine (ensures_generateMessages hrecorded hverify hdepth documentation).imp ?_
  intro _ generator'' after hdone
  obtain ⟨modules, hmodules, rfl, hafter⟩ := hdone
  rw [finish, ensures_bind, ensures_currentRun rfl, clear, ensures_bind, ensures_modify,
    ensures_pure]
  refine ⟨Artifact.support ++ registry :: modules, cleared, ⟨registry, modules, rfl, hregistry,
    hmodules⟩, ?_, hcleared, ?_⟩
  · simp [run]
  · have hall := hbetween.append hafter
    rwa [List.append_assoc, List.singleton_append] at hall

end Produce

end Generator

end WireScript
