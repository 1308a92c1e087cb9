import WireScript.CommandLine.Command
import WireScript.Proofs.Blame
import WireScript.Proofs.Regrouping

/-! # Agreement of the commands

`check` accepts a schema file exactly when `generate` finds no error of configuration
in it. What it accepts can be generated under every grouping a configuration can ask
for, and with any nesting limit that is not below the usual one.
-/

namespace WireScript

/-- Every policy but that of empty buckets stands for a grouping. -/
theorem GroupingPolicy.exists_build {policy : GroupingPolicy} (hpolicy : policy ≠ .bucket 0) :
    ∃ grouping, policy.build = .ok grouping := by
  cases policy with
  | flat => exact ⟨_, rfl⟩
  | bucket size =>
      have hsize : size ≠ 0 := by
        rintro rfl
        exact hpolicy rfl
      exact ⟨.buckets size hsize, by rw [build, Grouping.ofBucketSize, dif_pos hsize]⟩

theorem Config.validate_default : Config.default.validate = .ok () :=
  validate_eq_ok_iff.mpr (by decide +kernel)

namespace Generator

/-- The default configuration plans what `check` plans. -/
theorem planned_default_iff {schema : Schema} {paths : List String} :
    planned .default schema = .ok paths ↔
      Layout.plan Grouping.flat.directory Config.default.nestingLimit schema = .ok paths := by
  rw [planned_eq_ok_iff]
  constructor
  · rintro ⟨-, _, ⟨⟩, hplan⟩
    exact hplan
  · intro hplan
    exact ⟨Config.validate_default, .flat, rfl, hplan⟩

variable {schema : Schema} {documentation : Documentation} {generator : Generator}
variable {tree : FileTree}

/-- With the embedded templates and a plan for its outputs a call stops at the files
only. -/
theorem isFile_of_planned (htemplates : generator.config.templateDirectory = none)
    {paths : List String} (hplanned : planned generator.config schema = .ok paths) {fault : Fault}
    (hfault : (exec (generate schema documentation) generator tree).1.1 = .error fault) :
    fault.IsFile := by
  obtain ⟨hconfig, grouping, hbuild, hplan⟩ := planned_eq_ok_iff.mp hplanned
  have hloaded : generator.config.loadTemplates tree = .ok .embedded := by
    rw [Config.loadTemplates, htemplates]
  have hready : ready generator.config schema tree = .ok (.embedded, grouping) :=
    ready_eq_ok_iff.mpr ⟨hconfig, hbuild, ⟨paths, hplan⟩, hloaded, by rfl⟩
  have hgenerate : Ensures (generate schema documentation) (fun _ _ _ => True)
      (fun fault _ _ => fault.IsFile) generator tree := by
    refine ensures_generate.mpr ⟨?_, ?_⟩
    · intro other hother
      rw [hready] at hother
      cases hother
    · intro templates grouping' hready'
      exact (ensures_produce hready' documentation).mono (fun _ _ _ _ => trivial)
        (fun _ _ _ hfile => hfile)
  rcases hexec : exec (generate schema documentation) generator tree with
    ⟨⟨result, generator'⟩, tree'⟩
  rw [hexec] at hfault
  obtain rfl : result = .error fault := hfault
  exact hgenerate.of_error hexec

/-- With the embedded templates a call blames the configuration or the schema exactly
when it has no plan for its outputs. -/
theorem generate_isConfiguration_iff (htemplates : generator.config.templateDirectory = none) :
    (∃ fault, (exec (generate schema documentation) generator tree).1.1 = .error fault ∧
        fault.isConfiguration = true) ↔
      ¬ ∃ paths, planned generator.config schema = .ok paths := by
  constructor
  · rintro ⟨fault, hfault, hconfiguration⟩ ⟨paths, hplanned⟩
    obtain ⟨path, error, rfl⟩ := isFile_of_planned htemplates hplanned hfault
    cases hconfiguration
  · intro hunplanned
    cases hplanned : planned generator.config schema with
    | ok paths => exact absurd ⟨paths, hplanned⟩ hunplanned
    | error fault =>
        rw [exec_generate_of_planned_error hplanned]
        exact ⟨fault, rfl, planned_blames _ _ fault hplanned⟩

end Generator

namespace CommandLine

variable {α β : Type}

/-- Whether a command failed by an error of the configuration, the templates or the
schema. -/
def IsConfigurationError (result : Except Failure α) : Prop :=
  ∃ context fault, result = .error (.ofFault context fault) ∧ fault.isConfiguration = true

/-- A failure tells errors of configuration from those of the file system, which have a
second cause. -/
theorem isConfigurationError_iff {context : String} {fault : Fault} :
    IsConfigurationError (.error (.ofFault context fault) : Except Failure α) ↔
      fault.isConfiguration = true := by
  have hcauses (context : String) (fault : Fault) :
      (Failure.ofFault context fault).causes.length = 1 ↔ fault.isConfiguration = true := by
    cases hfile : fault.fileError? <;>
      simp [Failure.ofFault, Fault.isConfiguration, Fault.isIo, hfile]
  constructor
  · rintro ⟨other, cause, hsame, hconfiguration⟩
    rw [← hcauses context, Except.error.inj hsame, hcauses]
    exact hconfiguration
  · intro hconfiguration
    exact ⟨context, fault, rfl, hconfiguration⟩

/-- Carry out a command with a tree of files. -/
def attempt (command : Attempt (StateM FileTree) α) (tree : FileTree) :
    Except Failure α × FileTree :=
  command.run tree

theorem attempt_bind (first : Attempt (StateM FileTree) β)
    (next : β → Attempt (StateM FileTree) α) (tree : FileTree) :
    attempt (first >>= next) tree =
      match attempt first tree with
      | (.ok value, tree) => attempt (next value) tree
      | (.error failure, tree) => (.error failure, tree) := by
  change (match attempt first tree with
    | (result, tree) => ExceptT.bindCont next result tree) = _
  rcases attempt first tree with ⟨result, tree'⟩
  cases result <;> rfl

theorem attempt_pure (value : α) (tree : FileTree) :
    attempt (pure value) tree = (.ok value, tree) :=
  rfl

theorem attempt_lift (action : StateM FileTree α) (tree : FileTree) :
    attempt action tree = (.ok (action tree).1, (action tree).2) :=
  rfl

theorem attempt_within (context : String) (result : Except Fault α) (tree : FileTree) :
    attempt (within context result) tree = (result.mapError (Failure.ofFault context), tree) := by
  cases result <;> rfl

/-- A readable schema file is given its meaning, and no file is changed. -/
theorem attempt_loadSchema {path text : String} {tree : FileTree}
    (htext : tree.readText ⟨path⟩ = .ok text) :
    attempt (loadSchema path) tree =
      ((ResolvedSchema.ofToml text).mapError
        (Failure.ofFault ("Failed to load schema: " ++ path)), tree) := by
  have hload : (SchemaFile.load ⟨path⟩ : StateM FileTree (Except Fault SchemaFile)) tree =
      (SchemaFile.ofToml text, tree) := by
    simp only [SchemaFile.load, bind, StateT.bind, FileStore.readText, htext]
    rfl
  rw [loadSchema, attempt_bind, attempt_lift, hload]
  exact attempt_within _ _ _

/-- `check` accepts the texts with a meaning that can be planned flat. -/
theorem check_isOk_iff {path text : String} {tree : FileTree}
    (htext : tree.readText ⟨path⟩ = .ok text) :
    (attempt (check path) tree).1.isOk = true ↔
      ∃ resolved paths, ResolvedSchema.ofToml text = .ok resolved ∧
        Layout.plan Grouping.flat.directory Config.default.nestingLimit resolved.schema =
          .ok paths := by
  rw [check, attempt_bind, attempt_loadSchema htext]
  cases ResolvedSchema.ofToml text with
  | error fault => simp [Except.mapError, Except.isOk, Except.toBool]
  | ok resolved =>
      simp only [Except.mapError, attempt_bind, attempt_within]
      cases hplan : Layout.plan Grouping.flat.directory Config.default.nestingLimit
          resolved.schema with
      | error fault => simp [Except.isOk, Except.toBool, hplan]
      | ok paths => simp [attempt_pure, Except.isOk, Except.toBool, hplan]

/-- What is done last with a configuration: it is judged. -/
def accept (config : Config) : Attempt (StateM FileTree) Config := do
  within "Invalid generation config" config.validate
  return config

/-- A command that leaves all files as they are. -/
def ReadsOnly (command : Attempt (StateM FileTree) α) : Prop :=
  ∀ tree, (attempt command tree).2 = tree

namespace ReadsOnly

theorem bind {first : Attempt (StateM FileTree) β} {next : β → Attempt (StateM FileTree) α}
    (hfirst : ReadsOnly first) (hnext : ∀ value, ReadsOnly (next value)) :
    ReadsOnly (first >>= next) := by
  intro tree
  have hbetween := hfirst tree
  rw [attempt_bind]
  rcases hattempt : attempt first tree with ⟨result, between⟩
  rw [hattempt] at hbetween
  obtain rfl : between = tree := hbetween
  cases result with
  | ok value => exact hnext value between
  | error failure => rfl

theorem pure (value : α) : ReadsOnly (Pure.pure value) := fun _ => rfl

theorem within (context : String) (result : Except Fault α) :
    ReadsOnly (within context result) := by
  intro tree
  rw [attempt_within]

theorem readText (path : Path) :
    ReadsOnly (FileStore.readText path : StateM FileTree (Except FileError String)) :=
  fun _ => rfl

theorem configFile (path : Option String) : ReadsOnly (configFile path) := by
  cases path with
  | none => exact pure _
  | some path =>
      refine (readText ⟨path⟩).bind ?_
      intro read
      cases read with
      | error error => exact fun _ => rfl
      | ok text => exact within _ _

theorem accept (config : Config) : ReadsOnly (accept config) :=
  (within _ _).bind fun _ => pure config

theorem buildConfig (options : GenerateOptions) : ReadsOnly (buildConfig options) := by
  refine (configFile options.config).bind ?_
  intro config
  dsimp only
  split
  next => exact (within _ _).bind fun _ => (pure _).bind fun _ => accept _
  next => exact (pure _).bind fun _ => accept _

end ReadsOnly

/-- The result of a sequence is that of its last step, wherever that starts. -/
theorem exists_of_attempt_bind {first : Attempt (StateM FileTree) β}
    {next : β → Attempt (StateM FileTree) α} {tree : FileTree} {value : α}
    (hattempt : (attempt (first >>= next) tree).1 = .ok value) :
    ∃ between tree', (attempt (next between) tree').1 = .ok value := by
  rw [attempt_bind] at hattempt
  rcases hfirst : attempt first tree with ⟨result, tree'⟩
  rw [hfirst] at hattempt
  cases result with
  | ok between => exact ⟨between, tree', hattempt⟩
  | error failure => cases hattempt

theorem validate_of_accept {candidate config : Config} {tree : FileTree}
    (haccept : (attempt (accept candidate) tree).1 = .ok config) : config.validate = .ok () := by
  rw [accept, attempt_bind, attempt_within] at haccept
  cases hvalidate : candidate.validate with
  | error fault =>
      rw [hvalidate] at haccept
      cases haccept
  | ok valid =>
      rw [hvalidate] at haccept
      cases haccept
      exact hvalidate

/-- A configuration that was built has been accepted. -/
theorem validate_of_buildConfig {options : GenerateOptions} {config : Config} {tree : FileTree}
    (hbuild : (attempt (buildConfig options) tree).1 = .ok config) :
    config.validate = .ok () := by
  obtain ⟨file, tree', hbuild⟩ := exists_of_attempt_bind hbuild
  dsimp only at hbuild
  split at hbuild
  next =>
    obtain ⟨policy, tree', hbuild⟩ := exists_of_attempt_bind hbuild
    obtain ⟨grouped, tree', hbuild⟩ := exists_of_attempt_bind hbuild
    exact validate_of_accept hbuild
  next =>
    obtain ⟨grouped, tree', hbuild⟩ := exists_of_attempt_bind hbuild
    exact validate_of_accept hbuild

/-- When its configuration is built and its schema file is readable, `generate` fails by
an error of configuration exactly when the text means nothing or cannot be planned. -/
theorem generate_isConfigurationError_iff {options : GenerateOptions} {config : Config}
    {text : String} {tree : FileTree}
    (hbuild : (attempt (buildConfig options) tree).1 = .ok config)
    (htemplates : config.templateDirectory = none)
    (htext : tree.readText ⟨options.schema⟩ = .ok text) :
    IsConfigurationError (attempt (generate options) tree).1 ↔
      ¬ ∃ resolved paths, ResolvedSchema.ofToml text = .ok resolved ∧
        Generator.planned config resolved.schema = .ok paths := by
  have hconfig : attempt (buildConfig options) tree = (.ok config, tree) :=
    Prod.ext hbuild (ReadsOnly.buildConfig options tree)
  rw [generate, attempt_bind, hconfig]
  simp only [attempt_bind, attempt_loadSchema htext]
  cases hmeaning : ResolvedSchema.ofToml text with
  | error fault =>
      refine iff_of_true ?_ (by simp)
      exact isConfigurationError_iff.mpr (ResolvedSchema.ofToml_blames text fault hmeaning)
  | ok resolved =>
      have hrun : (∃ fault,
          (Generator.exec (Generator.generate resolved.schema resolved.documentation)
            (.ofConfig config) tree).1.1 = .error fault ∧ fault.isConfiguration = true) ↔
          ¬ ∃ paths, Generator.planned config resolved.schema = .ok paths :=
        Generator.generate_isConfiguration_iff htemplates
      have hplanned : (∃ other paths, (.ok resolved : Except Fault ResolvedSchema) = .ok other ∧
          Generator.planned config other.schema = .ok paths) ↔
          ∃ paths, Generator.planned config resolved.schema = .ok paths := by
        simp
      rw [hplanned, ← hrun]
      simp only [Except.mapError, attempt_lift, attempt_within]
      rcases hexec : Generator.exec (Generator.generate resolved.schema resolved.documentation)
        (.ofConfig config) tree with ⟨⟨result, generator'⟩, tree'⟩
      have hresult : (Generator.generate resolved.schema resolved.documentation :
          Generator.TreeStep Report).run.run (.ofConfig config) tree =
            ((result, generator'), tree') := hexec
      rw [hresult]
      cases result with
      | ok report => exact iff_of_false (by rintro ⟨_, _, ⟨⟩, -⟩) (by rintro ⟨_, ⟨⟩, -⟩)
      | error fault =>
          refine isConfigurationError_iff.trans ⟨fun hfault => ⟨fault, rfl, hfault⟩, ?_⟩
          rintro ⟨_, ⟨⟩, hfault⟩
          exact hfault

/-- Without options the configuration is the default one. -/
theorem buildConfig_default (path : String) (tree : FileTree) :
    (attempt (buildConfig ⟨path, none, none, none, none⟩) tree).1 = .ok Config.default := by
  have hfile : attempt (configFile none) tree = (.ok Config.default, tree) := rfl
  simp only [buildConfig, attempt_bind, hfile, attempt_pure, attempt_within,
    Config.validate_default]
  rfl

/-- `check` accepts a schema file exactly when `generate` with nothing else said does not
fail by an error of configuration. What it accepts has a plan under every grouping a
configuration can ask for and every nesting limit from 32 on, and `generate` with the
embedded templates never fails by an error of configuration there. -/
theorem check_agrees {path text : String} {tree : FileTree}
    (htext : tree.readText ⟨path⟩ = .ok text) :
    ((attempt (check path) tree).1.isOk = true ↔
      ¬ IsConfigurationError (attempt (generate ⟨path, none, none, none, none⟩) tree).1) ∧
    ((attempt (check path) tree).1.isOk = true →
      ∃ resolved, ResolvedSchema.ofToml text = .ok resolved ∧
        (∀ (policy : GroupingPolicy) limit, policy ≠ .bucket 0 → 32 ≤ limit →
          ∃ grouping paths, policy.build = .ok grouping ∧
            Layout.plan grouping.directory limit resolved.schema = .ok paths) ∧
        ∀ options config tree', options.schema = path → tree'.readText ⟨path⟩ = .ok text →
          (attempt (buildConfig options) tree').1 = .ok config →
          config.grouping ≠ .bucket 0 → 32 ≤ config.nestingLimit →
          config.templateDirectory = none →
          ¬ IsConfigurationError (attempt (generate options) tree').1) := by
  constructor
  · rw [check_isOk_iff htext,
      generate_isConfigurationError_iff (buildConfig_default path tree) rfl htext, not_not]
    simp only [Generator.planned_default_iff]
  · intro haccepted
    obtain ⟨resolved, paths, hmeaning, hplan⟩ := (check_isOk_iff htext).mp haccepted
    have hregrouped (policy : GroupingPolicy) (limit : Nat) (hpolicy : policy ≠ .bucket 0)
        (hlimit : 32 ≤ limit) : ∃ grouping paths, policy.build = .ok grouping ∧
          Layout.plan grouping.directory limit resolved.schema = .ok paths := by
      obtain ⟨grouping, hbuild⟩ := GroupingPolicy.exists_build hpolicy
      exact ⟨grouping, _, hbuild, Layout.plan_of_flat hplan hlimit hbuild⟩
    refine ⟨resolved, hmeaning, hregrouped, ?_⟩
    rintro options config tree' rfl htext' hbuild hgrouping hlimit htemplates
    rw [generate_isConfigurationError_iff hbuild htemplates htext', not_not]
    obtain ⟨grouping, paths, hpolicy, hplan⟩ := hregrouped config.grouping _ hgrouping hlimit
    exact ⟨resolved, paths, hmeaning, Generator.planned_eq_ok_iff.mpr
      ⟨validate_of_buildConfig hbuild, grouping, hpolicy, hplan⟩⟩

/-- A file that is accepted can be generated in buckets as well. One with two names that
differ in case only is refused by both commands. -/
theorem check_agrees_twoFiles :
    let ping := "[[messages]]\nid = 1\nname = \"Ping\"\n"
    let accepted := ping ++ "[[messages]]\nid = 12\nname = \"Pong\"\n"
    let refused := ping ++ "[[messages]]\nid = 12\nname = \"PING\"\n"
    let tree : FileTree := ⟨[(["accepted.toml"], .file accepted.toUTF8),
      (["refused.toml"], .file refused.toUTF8)], []⟩
    (∃ resolved grouping paths, ResolvedSchema.ofToml accepted = .ok resolved ∧
      (GroupingPolicy.bucket 10).build = .ok grouping ∧
      Layout.plan grouping.directory 64 resolved.schema = .ok paths) ∧
    IsConfigurationError (attempt (generate ⟨"refused.toml", none, none, none, none⟩) tree).1 := by
  intro ping accepted refused tree
  constructor
  · have hcheck : (attempt (check "accepted.toml") tree).1.isOk = true := by decide +kernel
    have htext : tree.readText ⟨"accepted.toml"⟩ = .ok accepted := by decide +kernel
    obtain ⟨resolved, hmeaning, hplans, -⟩ := (check_agrees htext).2 hcheck
    obtain ⟨grouping, paths, hbuild, hplan⟩ :=
      hplans (.bucket 10) 64 (by decide) (by decide)
    exact ⟨resolved, grouping, paths, hmeaning, hbuild, hplan⟩
  · have hcheck : (attempt (check "refused.toml") tree).1.isOk = false := by decide +kernel
    have htext : tree.readText ⟨"refused.toml"⟩ = .ok refused := by decide +kernel
    by_contra hfine
    rw [(check_agrees htext).1.mpr hfine] at hcheck
    cases hcheck

end CommandLine

end WireScript
