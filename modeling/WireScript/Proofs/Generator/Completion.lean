import WireScript.Proofs.Artifact.Records
import WireScript.Proofs.Generator.Accounting
import WireScript.Proofs.Generator.Frame
import WireScript.Proofs.Generator.References

/-! # Completed runs

A run is completed by the call that ends it, behind any calls that wrote for it while
others may have changed the files, or as a whole. What it wrote is read off the files: the
texts they were given in its calls, or those they hold when the whole run has ended.
-/

namespace WireScript

/-- A file is written where its path leads, so its path has no zero. -/
theorem FileTree.zero_notMem_of_writeText {tree after : FileTree} {path : Path} {text : String}
    (hwrite : tree.writeText path text = (.ok (), after)) : '\x00' ∉ path.text.toList := by
  intro hzero
  have herror : textError? path = some .nulInPath := by
    rw [textError?, if_pos (List.contains_iff_mem.mpr hzero)]
  unfold writeText locate at hwrite
  rw [herror] at hwrite
  split at hwrite
  next => cases hwrite
  next location hlocate =>
    split at hlocate
    next => cases hlocate
    next => cases hlocate

theorem Path.mem_text_join {c : Char} {child : String} (hc : c ∈ child.toList)
    (directory : Path) : c ∈ (directory.join child).text.toList := by
  unfold join
  split <;> simp [hc]

theorem FileTree.StoresAllTo.zero_notMem {root : Path} {tree after : FileTree}
    {artifacts : List Artifact} (hstores : StoresAllTo root tree artifacts after) :
    ∀ artifact ∈ artifacts, '\x00' ∉ artifact.path.toList := by
  induction hstores with
  | nil => simp
  | cons hfirst _ ih =>
      obtain ⟨between, -, hwrite⟩ := hfirst
      rw [List.forall_mem_cons]
      exact ⟨fun hzero => zero_notMem_of_writeText hwrite (Path.mem_text_join hzero root), ih⟩

/-- Artifacts are known from their paths and their contents. -/
theorem Artifact.eq_of_map {first second : List Artifact}
    (hpaths : first.map Artifact.path = second.map Artifact.path)
    (hcontents : first.map Artifact.contents = second.map Artifact.contents) : first = second := by
  have hmake (artifacts : List Artifact) :
      List.zipWith Artifact.mk (artifacts.map Artifact.path) (artifacts.map Artifact.contents) =
        artifacts := by
    rw [List.zipWith_map, List.zipWith_self, List.map_id']
  rw [← hmake first, hpaths, hcontents, hmake]

/-- Artifacts a tree holds are known from their paths: one file cannot have two contents. -/
theorem Artifact.eq_of_includes {report : Report} {tree : FileTree} {location : Location}
    {first second : List Artifact} (hpaths : first.map Artifact.path = second.map Artifact.path)
    (hfirst : ∀ artifact ∈ first, report.Includes tree location artifact)
    (hsecond : ∀ artifact ∈ second, report.Includes tree location artifact) : first = second := by
  induction first generalizing second with
  | nil => exact (List.map_eq_nil_iff.mp hpaths.symm).symm
  | cons artifact first ih =>
      obtain ⟨other, rest, rfl, hpath, hrest⟩ := List.map_eq_cons_iff.mp hpaths.symm
      obtain ⟨hincluded, hothers⟩ := List.forall_mem_cons.mp hfirst
      obtain ⟨hincluded', hothers'⟩ := List.forall_mem_cons.mp hsecond
      have hplace : other.location = artifact.location := by
        rw [Artifact.location, hpath, ← Artifact.location]
      have hstored := hincluded'.stored
      rw [hplace, hincluded.stored, Option.some.injEq, Entry.file.injEq] at hstored
      obtain rfl : artifact = other := by
        cases artifact
        cases other
        exact congrArg₂ mk hpath.symm (String.toByteArray_inj.mp hstored)
      rw [ih hrest.symm hothers hothers']

namespace Generator

section Files

variable {σ : Type} [FileStore (StateM σ)] {keeps : σ → Prop}
variable (hcreate : ∀ path files, keeps files →
  keeps ((FileStore.createAll path : StateM σ (Except FileError Unit)) files).2)
variable (hwrite : ∀ path text files, keeps files →
  keeps ((FileStore.writeText path text : StateM σ (Except FileError Unit)) files).2)

include hcreate hwrite

/-- What the operations on files keep is kept by a write. -/
theorem preserves_files_write (artifact : Artifact) :
    Preserves (fun _ => keeps) (write artifact : Step (StateM σ) Unit) :=
  .write (fun parent => .atPath fun _ => hcreate parent) fun _ =>
    (Preserves.atPath fun _ => hwrite _ artifact.contents).bind fun _ _ _ hkeeps => hkeeps

theorem preserves_files_generateRegistry (schema : Schema) :
    Preserves (fun _ => keeps) (generateRegistry schema : Step (StateM σ) Unit) :=
  Preserves.generateRegistry (fun artifact _ => preserves_files_write hcreate hwrite artifact)
    (fun _ => preserves_files_write hcreate hwrite _)

theorem preserves_files_generateMessage (message : Message) (documentation : Documentation) :
    Preserves (fun _ => keeps)
      (generateMessage message documentation : Step (StateM σ) Unit) := by
  exact Preserves.currentRun.bind fun _ => Preserves.get.bind fun _ => (Preserves.check _).bind
    fun _ => preserves_files_write hcreate hwrite _

end Files

/-- A recorded tree has been given no path with a zero. -/
def Accepts (recorder : Recorder FileTree) : Prop :=
  ∀ write ∈ recorder.writes, '\x00' ∉ write.1.text.toList

theorem accepts_writeText (path : Path) (text : String) (recorder : Recorder FileTree)
    (haccepts : Accepts recorder) :
    Accepts ((FileStore.writeText path text :
      StateM (Recorder FileTree) (Except FileError Unit)) recorder).2 := by
  change Accepts (Recorder.noting path text (FileStore.writeText path text) recorder).2
  unfold Recorder.noting
  split
  next files hwrite =>
    rw [Accepts, List.forall_mem_append, List.forall_mem_singleton]
    exact ⟨haccepts, FileTree.zero_notMem_of_writeText hwrite⟩
  next => exact haccepts

namespace Action

theorem accepts_step {action : Action} (hwrites : action.writes) :
    Preserves (fun _ => Accepts) (action.step : Step (StateM (Recorder FileTree)) _) := by
  have hcreate (path : Path) (recorder : Recorder FileTree) (haccepts : Accepts recorder) :
      Accepts ((FileStore.createAll path :
        StateM (Recorder FileTree) (Except FileError Unit)) recorder).2 :=
    haccepts
  cases action with
  | registry schema =>
      exact (preserves_files_generateRegistry hcreate accepts_writeText schema).bind
        fun _ => .pure none
  | message definition documentation =>
      exact (preserves_files_generateMessage hcreate accepts_writeText definition
        documentation).bind fun _ => .pure none
  | init | finish | clear => cases hwrites

/-- A call that writes for a run adds to it what it wrote, and starts or ends none. -/
theorem writes_moves {action : Action} (hwrites : action.writes) {generator after : Generator}
    {run : Run} (hrun : generator.run = some run) {result : Except Fault (Option Report)}
    {added : List (Path × String)}
    (hmoves : Moves generator (.of generator action result added) after) :
    ∃ stored, after.run = some { run with written := run.written ++ stored } ∧
      added = stored.map run.placed := by
  have hneither := Call.of_writes hwrites generator result added
  cases hmoves with
  | starts _ _ hstarts => exact absurd hstarts hneither.1
  | ends _ hends => exact absurd hends hneither.2
  | idles _ _ hadded => exact ⟨[], by rw [List.append_nil]; exact hrun, hadded⟩
  | stores hrun' _ _ hadded =>
      obtain rfl := Option.some.inj (hrun.symm.trans hrun')
      exact ⟨_, rfl, hadded⟩

end Action

/-- A run that has been started, and the texts the files were given for it. Others may
change the files between two calls, and a call may stop with a fault. -/
inductive Underway : Generator → List (Path × String) → Prop where
  | init {generator started : Generator} {tree : FileTree} {files : Recorder FileTree}
      (hexec : execOn Generator.init generator ⟨tree, []⟩ = ((.ok (), started), files)) :
      Underway started files.writes
  | call {generator after : Generator} {writes : List (Path × String)} {tree : FileTree}
      {files : Recorder FileTree} {action : Action} {result : Except Fault (Option Report)}
      (hunderway : Underway generator writes) (hwrites : action.writes)
      (hexec : execOn action.step generator ⟨tree, writes⟩ = ((result, after), files)) :
      Underway after files.writes

/-- The run of the generator lists what the files were given, and they accepted it. -/
theorem Underway.accounts {generator : Generator} {writes : List (Path × String)}
    (hunderway : Underway generator writes) :
    ∃ run, generator.run = some run ∧ writes = run.written.map run.placed ∧
      ∀ artifact ∈ run.written, '\x00' ∉ artifact.path.toList := by
  suffices hrun : ∃ run, generator.run = some run ∧ writes = run.written.map run.placed ∧
      ∀ write ∈ writes, '\x00' ∉ write.1.text.toList by
    obtain ⟨run, hrun, rfl, haccepts⟩ := hrun
    refine ⟨run, hrun, rfl, fun artifact hartifact hzero => ?_⟩
    exact haccepts _ (List.mem_map_of_mem hartifact) (Path.mem_text_join hzero run.outputRoot)
  induction hunderway with
  | @init generator started tree files hexec =>
      obtain ⟨_, _, tree', added, -, hrecorded, hdone⟩ := @mirrors_init _ _ generator tree []
      obtain ⟨hafter, rfl⟩ := Prod.mk.inj (hexec.symm.trans hrecorded)
      obtain ⟨rfl, rfl⟩ := Prod.mk.inj hafter
      obtain ⟨rfl, templates, grouping, rfl⟩ := hdone
      exact ⟨_, rfl, rfl, by simp⟩
  | @call generator after writes tree files action result _ hwrites hexec ih =>
      obtain ⟨run, hrun, rfl, haccepts⟩ := ih
      have hleft := (Action.accepts_step hwrites generator ⟨tree, _⟩ haccepts).files_left
      rw [hexec] at hleft
      obtain ⟨_, _, tree', added, -, hrecorded, hdone⟩ := mirrored action generator tree
        (run.written.map run.placed)
      obtain ⟨hafter, rfl⟩ := Prod.mk.inj (hexec.symm.trans hrecorded)
      obtain ⟨rfl, rfl⟩ := Prod.mk.inj hafter
      have hmoves : Moves generator (.of generator action result added) after := by
        cases result <;> exact hdone
      obtain ⟨stored, hafter, rfl⟩ := Action.writes_moves hwrites hrun hmoves
      exact ⟨_, hafter, by rw [List.map_append]; rfl, hleft⟩

/-- A whole run of some settings that ended with a report, and the artifacts it left in the
files, in the order of the report. -/
def Generates (config : Config) (schema : Schema) (documentation : Documentation)
    (report : Report) (artifacts : List Artifact) : Prop :=
  ∃ generator generator' tree tree', generator.config = config ∧
    exec (generate schema documentation) generator tree = ((.ok report, generator'), tree') ∧
    report.files = artifacts.map Artifact.path ∧
    ∀ artifact ∈ artifacts,
      report.Includes tree' (config.outputRoot.location tree.origin) artifact

/-- A run that ended with a report, call by call or as a whole, and the artifacts it wrote:
their paths as reported, and their contents as the files have seen them. -/
inductive Completes (report : Report) (artifacts : List Artifact) : Prop where
  | finish {generator after : Generator} {writes : List (Path × String)} {tree : FileTree}
      {files : Recorder FileTree} (hunderway : Underway generator writes)
      (hexec : execOn Generator.finish generator ⟨tree, writes⟩ = ((.ok report, after), files))
      (hfiles : report.files = artifacts.map Artifact.path)
      (hwrites : writes = artifacts.map (fun artifact =>
        (report.outputRoot.join artifact.path, artifact.contents)))
  | generate {config : Config} {schema : Schema} {documentation : Documentation}
      (hgenerates : Generates config schema documentation report artifacts)

variable {config : Config} {schema : Schema} {documentation : Documentation} {report : Report}
variable {artifacts : List Artifact}

/-- A whole run that ended left artifacts. -/
theorem exists_generates {generator generator' : Generator} {tree tree' : FileTree}
    (hexec : exec (generate schema documentation) generator tree =
      ((.ok report, generator'), tree')) :
    ∃ artifacts, Generates generator.config schema documentation report artifacts := by
  obtain ⟨templates, grouping, artifacts, -, -, -, rfl, -, -, hfilled⟩ := filled_of_ok hexec
  exact ⟨artifacts, generator, generator', tree, tree', rfl, hexec, rfl,
    fun artifact hartifact => hfilled.includes templates grouping hartifact⟩

/-- The end of a run that is underway is granted, and it wrote artifacts. -/
theorem Underway.exists_completes {generator : Generator} {writes : List (Path × String)}
    (hunderway : Underway generator writes) (tree : FileTree) :
    ∃ report artifacts, (execOn finish generator (⟨tree, writes⟩ : Recorder FileTree)).1.1 =
        .ok report ∧ Completes report artifacts := by
  obtain ⟨run, hrun, hwrites, -⟩ := hunderway.accounts
  have hexec := execOn_finish hrun (⟨tree, writes⟩ : Recorder FileTree)
  exact ⟨run.report, run.written, by rw [hexec], .finish hunderway hexec rfl hwrites⟩

/-- The artifacts a whole run left are its output. -/
theorem Generates.isOutput (hgenerates : Generates config schema documentation report artifacts) :
    ∃ tree templates grouping, ready config schema tree = .ok (templates, grouping) ∧
      IsOutput ⟨config.outputRoot, templates, grouping, []⟩ config.nestingLimit schema
        documentation artifacts ∧
      report = Run.report ⟨config.outputRoot, templates, grouping, artifacts⟩ := by
  obtain ⟨generator, generator', tree, tree', rfl, hexec, hfiles, hincludes⟩ := hgenerates
  obtain ⟨templates, grouping, output, -, hready, houtput, rfl, -, -, hfilled⟩ :=
    filled_of_ok hexec
  obtain rfl := Artifact.eq_of_includes hfiles
    (fun _ houtput => hfilled.includes templates grouping houtput) hincludes
  exact ⟨tree, templates, grouping, hready, houtput, rfl⟩

/-- A run has one output. -/
theorem IsOutput.unique {run : Run} {limit : Nat} {first second : List Artifact}
    (hfirst : IsOutput run limit schema documentation first)
    (hsecond : IsOutput run limit schema documentation second) : first = second := by
  obtain ⟨registry, modules, rfl, hregistry, hmodules⟩ := hfirst
  obtain ⟨registry', modules', rfl, hregistry', hmodules'⟩ := hsecond
  have hunique : Relator.RightUnique (fun (message : Message) artifact =>
      run.messageModule limit message (documentation.document message.id) = .ok artifact) :=
    fun _ _ _ hmodule hmodule' => Except.ok.inj (hmodule.symm.trans hmodule')
  rw [Except.ok.inj (hregistry.symm.trans hregistry'), hunique.forall₂ hmodules hmodules']

/-- A whole run that ended left the output that its templates and its grouping give. -/
theorem Generates.of_isOutput {generator generator' : Generator} {tree tree' : FileTree}
    {templates : TemplateSet} {grouping : Grouping}
    (hexec : exec (generate schema documentation) generator tree =
      ((.ok report, generator'), tree'))
    (htemplates : generator.config.loadTemplates tree = .ok templates)
    (hgrouping : generator.config.grouping.build = .ok grouping)
    (houtput : IsOutput ⟨generator.config.outputRoot, templates, grouping, []⟩
      generator.config.nestingLimit schema documentation artifacts) :
    Generates generator.config schema documentation report artifacts := by
  obtain ⟨templates', grouping', output, -, hready, houtput', rfl, -, -, hfilled⟩ :=
    filled_of_ok hexec
  obtain ⟨-, hgrouping', -, htemplates', -⟩ := ready_eq_ok_iff.mp hready
  obtain rfl := Except.ok.inj (htemplates.symm.trans htemplates')
  obtain rfl := Except.ok.inj (hgrouping.symm.trans hgrouping')
  obtain rfl := houtput.unique houtput'
  exact ⟨generator, generator', tree, tree', rfl, hexec, rfl,
    fun artifact hartifact => hfilled.includes templates grouping hartifact⟩

theorem Generates.zero_notMem
    (hgenerates : Generates config schema documentation report artifacts) :
    ∀ artifact ∈ artifacts, '\x00' ∉ artifact.path.toList := by
  obtain ⟨generator, generator', tree, tree', rfl, hexec, hfiles, -⟩ := hgenerates
  obtain ⟨templates, grouping, -, output, cleared, -, rfl, -, hstores⟩ := produced_of_ok hexec
  have hpaths : output.map Artifact.path = artifacts.map Artifact.path := hfiles
  have houtput := hstores.zero_notMem
  rw [← List.forall_mem_map (P := fun path : String => '\x00' ∉ path.toList), hpaths,
    List.forall_mem_map] at houtput
  exact houtput

/-- A report digests what the run wrote, none of whose paths has a zero. -/
theorem Completes.digests (hcompletes : Completes report artifacts) :
    report.files = artifacts.map Artifact.path ∧
      report.digest = Digest.sha256 (Artifact.records artifacts) ∧
      ∀ artifact ∈ artifacts, '\x00' ∉ artifact.path.toList := by
  cases hcompletes with
  | finish hunderway hexec hfiles hwrites =>
      obtain ⟨run, hrun, rfl, hzero⟩ := hunderway.accounts
      rw [execOn_finish hrun] at hexec
      cases hexec
      have hpaths : run.written.map Artifact.path = artifacts.map Artifact.path := hfiles
      have hcontents : run.written.map Artifact.contents = artifacts.map Artifact.contents := by
        have hsame := congrArg (List.map Prod.snd) hwrites
        rwa [List.map_map, List.map_map] at hsame
      obtain rfl := Artifact.eq_of_map hpaths hcontents
      exact ⟨rfl, rfl, hzero⟩
  | generate hgenerates =>
      have hzero := hgenerates.zero_notMem
      obtain ⟨_, _, _, -, -, rfl⟩ := hgenerates.isOutput
      exact ⟨rfl, rfl, hzero⟩

end Generator

end WireScript
