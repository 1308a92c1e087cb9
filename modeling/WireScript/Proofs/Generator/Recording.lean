import WireScript.Proofs.Generator.Stages

/-! # Recorded writes

Files of any kind can be made to keep every text that is written to them. A step
does on such files what it does on the plain ones, so the record shows what the
step wrote without asking the generator. Each step has one lemma here: what it
does to the generator, and what it adds to the record, when it ends and when it
stops.
-/

namespace WireScript

/-- Files of some kind, and every text written to them with its path, in order. -/
structure Recorder (σ : Type) where
  files : σ
  writes : List (Path × String)

namespace Recorder

variable {σ α β : Type}

/-- Do something with the files that is not recorded. -/
def aside (action : StateM σ α) : StateM (Recorder σ) α := fun recorder =>
  let after := action recorder.files
  (after.1, { recorder with files := after.2 })

/-- Write a text, and record it once it has been written. -/
def noting (path : Path) (text : String) (action : StateM σ (Except FileError Unit)) :
    StateM (Recorder σ) (Except FileError Unit) := fun recorder =>
  match action recorder.files with
  | (.ok (), files) => (.ok (), ⟨files, recorder.writes ++ [(path, text)]⟩)
  | (.error error, files) => (.error error, ⟨files, recorder.writes⟩)

instance [FileStore (StateM σ)] : FileStore (StateM (Recorder σ)) where
  readText path := aside (FileStore.readText path)
  isPresent path := aside (FileStore.isPresent path)
  createAll path := aside (FileStore.createAll path)
  removeAll path := aside (FileStore.removeAll path)
  writeText path text := noting path text (FileStore.writeText path text)

theorem aside_bind (first : StateM σ α) (next : α → StateM σ β) :
    aside (first >>= next) = aside first >>= fun value => aside (next value) :=
  rfl

variable [FileStore (StateM σ)]

theorem loadTemplate_eq_aside (directory : Path) (file : String) :
    (TemplateSet.loadTemplate directory file : StateM (Recorder σ) (Except Fault Template)) =
      aside (TemplateSet.loadTemplate directory file) := by
  unfold TemplateSet.loadTemplate
  rw [aside_bind]
  apply bind_congr
  intro text
  cases text <;> rfl

/-- Templates are read without a text being written. -/
theorem load_eq_aside (directory : Path) :
    (TemplateSet.load directory : StateM (Recorder σ) (Except Fault TemplateSet)) =
      aside (TemplateSet.load directory) := by
  unfold TemplateSet.load
  rw [aside_bind, loadTemplate_eq_aside]
  apply bind_congr
  intro message
  cases message with
  | error fault => rfl
  | ok message =>
      rw [aside_bind, loadTemplate_eq_aside]
      apply bind_congr
      intro registry
      cases registry <;> rfl

end Recorder

/-- The place and the text an artifact of a run is written with. -/
def Run.placed (run : Run) (artifact : Artifact) : Path × String :=
  (run.outputRoot.join artifact.path, artifact.contents)

namespace Generator

variable {σ α β : Type}

/-- A step on recorded files and the same step on plain ones: they give one result
and leave one generator and the same files, and what is added to the record is as
`done` or as `failed` says. -/
def Mirrors (recorded : Step (StateM (Recorder σ)) α) (plain : Step (StateM σ) α)
    (done : α → Generator → List (Path × String) → Prop)
    (failed : Fault → Generator → List (Path × String) → Prop) (generator : Generator) : Prop :=
  ∀ files writes, ∃ result generator' files' added,
    execOn plain generator files = ((result, generator'), files') ∧
    execOn recorded generator ⟨files, writes⟩ =
      ((result, generator'), ⟨files', writes ++ added⟩) ∧
    match result with
    | .ok value => done value generator' added
    | .error fault => failed fault generator' added

section Rules

variable {recorded : Step (StateM (Recorder σ)) α} {plain : Step (StateM σ) α}
variable {done done' : α → Generator → List (Path × String) → Prop}
variable {failed failed' : Fault → Generator → List (Path × String) → Prop}
variable {generator : Generator}

theorem Mirrors.mono (hstep : Mirrors recorded plain done failed generator)
    (hdone : ∀ value after added, done value after added → done' value after added)
    (hfailed : ∀ fault after added, failed fault after added → failed' fault after added) :
    Mirrors recorded plain done' failed' generator := by
  intro files writes
  obtain ⟨result, after, files', added, hplain, hrecorded, hresult⟩ := hstep files writes
  refine ⟨result, after, files', added, hplain, hrecorded, ?_⟩
  cases result with
  | ok value => exact hdone value after added hresult
  | error fault => exact hfailed fault after added hresult

/-- A step that leaves all files alone adds nothing to the record. -/
theorem mirrors_of_exec {result : Except Fault α} {after : Generator}
    (hresult : match result with
      | .ok value => done value after []
      | .error fault => failed fault after [])
    (hplain : ∀ files, execOn plain generator files = ((result, after), files))
    (hrecorded : ∀ recorder, execOn recorded generator recorder = ((result, after), recorder)) :
    Mirrors recorded plain done failed generator := by
  intro files writes
  refine ⟨result, after, files, [], hplain files, ?_, hresult⟩
  rw [List.append_nil]
  exact hrecorded ⟨files, writes⟩

theorem mirrors_pure {value : α} (hdone : done value generator []) :
    Mirrors (pure value : Step (StateM (Recorder σ)) α) (pure value) done failed generator :=
  mirrors_of_exec hdone (fun _ => rfl) (fun _ => rfl)

theorem mirrors_throw {fault : Fault} (hfailed : failed fault generator []) :
    Mirrors (throw fault : Step (StateM (Recorder σ)) α) (throw fault) done failed generator :=
  mirrors_of_exec hfailed (fun _ => rfl) (fun _ => rfl)

theorem mirrors_get {done : Generator → Generator → List (Path × String) → Prop}
    (hdone : done generator generator []) :
    Mirrors (get : Step (StateM (Recorder σ)) Generator) get done failed generator :=
  mirrors_of_exec hdone (fun _ => rfl) (fun _ => rfl)

theorem mirrors_modify {done : Unit → Generator → List (Path × String) → Prop}
    {change : Generator → Generator} (hdone : done () (change generator) []) :
    Mirrors (modify change : Step (StateM (Recorder σ)) Unit) (modify change) done failed
      generator :=
  mirrors_of_exec hdone (fun _ => rfl) (fun _ => rfl)

theorem mirrors_currentRun {done : Run → Generator → List (Path × String) → Prop} {run : Run}
    (hrun : generator.run = some run) (hdone : done run generator []) :
    Mirrors (currentRun : Step (StateM (Recorder σ)) Run) currentRun done failed generator :=
  mirrors_of_exec hdone (execOn_currentRun_of_some hrun) (execOn_currentRun_of_some hrun)

/-- A judgement is the same for all files. -/
theorem mirrors_check {result : Except Fault α}
    (hdone : ∀ value, result = .ok value → done value generator [])
    (hfailed : ∀ fault, result = .error fault → failed fault generator []) :
    Mirrors (check result : Step (StateM (Recorder σ)) α) (check result) done failed
      generator := by
  cases result with
  | ok value => exact mirrors_pure (hdone value rfl)
  | error fault => exact mirrors_throw (hfailed fault rfl)

/-- What a sequence adds to the record is what its first step adds, and then the
second. -/
theorem mirrors_bind {first : Step (StateM (Recorder σ)) β} {first' : Step (StateM σ) β}
    {next : β → Step (StateM (Recorder σ)) α} {next' : β → Step (StateM σ) α}
    (hfirst : Mirrors first first'
      (fun value between before => Mirrors (next value) (next' value)
        (fun value after added => done value after (before ++ added))
        (fun fault after added => failed fault after (before ++ added)) between)
      failed generator) :
    Mirrors (first >>= next) (first' >>= next') done failed generator := by
  intro files writes
  obtain ⟨result, between, files', before, hplain, hrecorded, hresult⟩ := hfirst files writes
  cases result with
  | error fault =>
      refine ⟨.error fault, between, files', before, ?_, ?_, hresult⟩
      · rw [execOn_bind, hplain]
      · rw [execOn_bind, hrecorded]
  | ok value =>
      obtain ⟨result, after, files'', added, hplain', hrecorded', hresult'⟩ :=
        hresult files' (writes ++ before)
      refine ⟨result, after, files'', before ++ added, ?_, ?_, ?_⟩
      · rw [execOn_bind, hplain]
        exact hplain'
      · rw [execOn_bind, hrecorded, ← List.append_assoc]
        exact hrecorded'
      · cases result with
        | ok value => exact hresult'
        | error fault => exact hresult'

/-- A value made of the result of a step adds nothing more. -/
theorem mirrors_map {first : Step (StateM (Recorder σ)) β} {first' : Step (StateM σ) β}
    {value : β → α} (hfirst : Mirrors first first' (fun result => done (value result)) failed
      generator) :
    Mirrors (do let result ← first; return value result)
      (do let result ← first'; return value result) done failed generator := by
  apply mirrors_bind
  refine hfirst.mono ?_ (fun _ _ _ hfailed => hfailed)
  intro result between before hdone
  apply mirrors_pure
  rw [List.append_nil]
  exact hdone

/-- What is done aside adds nothing to the record. -/
theorem mirrors_aside {action : StateM σ α} (hdone : ∀ value, done value generator []) :
    Mirrors (files (Recorder.aside action)) (files action) done failed generator := by
  intro files writes
  refine ⟨.ok (action files).1, generator, (action files).2, [], rfl, ?_, hdone _⟩
  rw [List.append_nil]
  rfl

variable {path : Path}

theorem mirrors_atPath {done : Unit → Generator → List (Path × String) → Prop}
    {recorded : StateM (Recorder σ) (Except FileError Unit)}
    {plain : StateM σ (Except FileError Unit)}
    (hfiles : Mirrors (files recorded) (files plain)
      (fun result after added =>
        match result with
        | .ok () => done () after added
        | .error error => failed (.io path error) after added)
      failed generator) :
    Mirrors (atPath path recorded) (atPath path plain) done failed generator := by
  apply mirrors_bind
  refine hfiles.mono ?_ (fun _ _ _ hfailed => hfailed)
  intro result after added hresult
  rw [← List.append_nil added] at hresult
  cases result with
  | ok value => exact mirrors_pure hresult
  | error error => exact mirrors_throw hresult

theorem mirrors_atPath_aside {done : Unit → Generator → List (Path × String) → Prop}
    {action : StateM σ (Except FileError Unit)} (hdone : done () generator [])
    (hfailed : ∀ error, failed (.io path error) generator []) :
    Mirrors (atPath path (Recorder.aside action)) (atPath path action) done failed
      generator := by
  apply mirrors_atPath
  apply mirrors_aside
  intro result
  cases result with
  | ok value => exact hdone
  | error error => exact hfailed error

/-- A text that was written is in the record, one that was not is not. -/
theorem mirrors_atPath_noting {done : Unit → Generator → List (Path × String) → Prop}
    {text : String} {action : StateM σ (Except FileError Unit)}
    (hdone : done () generator [(path, text)])
    (hfailed : ∀ error, failed (.io path error) generator []) :
    Mirrors (atPath path (Recorder.noting path text action)) (atPath path action) done failed
      generator := by
  apply mirrors_atPath
  intro files writes
  rcases haction : action files with ⟨result, files'⟩
  have hplain : execOn (Generator.files action) generator files =
      ((.ok (action files).1, generator), (action files).2) := rfl
  have hrecorded : execOn (Generator.files (Recorder.noting path text action)) generator
      ⟨files, writes⟩ = ((.ok (Recorder.noting path text action ⟨files, writes⟩).1, generator),
        (Recorder.noting path text action ⟨files, writes⟩).2) := rfl
  rw [haction] at hplain
  cases result with
  | ok value =>
      refine ⟨_, _, _, [(path, text)], hplain, ?_, hdone⟩
      rw [hrecorded, Recorder.noting, haction]
  | error error =>
      refine ⟨_, _, _, [], hplain, ?_, hfailed error⟩
      rw [hrecorded, Recorder.noting, haction, List.append_nil]

end Rules

section Steps

variable [FileStore (StateM σ)] {generator : Generator} {run : Run}

theorem mirrors_templates (config : Config) :
    Mirrors (templates config : Step (StateM (Recorder σ)) TemplateSet) (templates config)
      (fun _ after added => after = generator ∧ added = [])
      (fun _ after added => after = generator ∧ added = []) generator := by
  unfold templates
  cases config.templateDirectory with
  | none => exact mirrors_pure ⟨rfl, rfl⟩
  | some directory =>
      dsimp only
      rw [Recorder.load_eq_aside]
      apply mirrors_bind
      apply mirrors_aside
      intro loaded
      exact mirrors_check (fun _ _ => ⟨rfl, rfl⟩) (fun _ _ => ⟨rfl, rfl⟩)

theorem mirrors_resetDirectory (path : Path) :
    Mirrors (resetDirectory path : Step (StateM (Recorder σ)) Unit) (resetDirectory path)
      (fun _ after added => after = generator ∧ added = [])
      (fun _ after added => after = generator ∧ added = []) generator := by
  have hcreate : Mirrors
      (atPath path (FileStore.createAll path) : Step (StateM (Recorder σ)) Unit)
      (atPath path (FileStore.createAll path))
      (fun _ after added => after = generator ∧ added = [])
      (fun _ after added => after = generator ∧ added = []) generator :=
    mirrors_atPath_aside ⟨rfl, rfl⟩ (fun _ => ⟨rfl, rfl⟩)
  unfold resetDirectory
  apply mirrors_bind
  apply mirrors_aside
  intro present
  cases present with
  | false => exact hcreate
  | true =>
      apply mirrors_bind
      exact mirrors_atPath_aside hcreate (fun _ => ⟨rfl, rfl⟩)

/-- A started run has written nothing, and one that did not start leaves the
generator as it was. -/
theorem mirrors_init :
    Mirrors (init : Step (StateM (Recorder σ)) Unit) init
      (fun _ after added => added = [] ∧ ∃ templates grouping,
        after = { generator with
          run := some ⟨generator.config.outputRoot, templates, grouping, []⟩ })
      (fun _ after added => after = generator ∧ added = []) generator := by
  unfold init
  apply mirrors_bind
  apply mirrors_get
  apply mirrors_bind
  refine mirrors_check (fun _ _ => ?_) (fun _ _ => ⟨rfl, rfl⟩)
  apply mirrors_bind
  refine (mirrors_templates generator.config).mono ?_ (fun _ _ _ hfailed => hfailed)
  rintro templates _ _ ⟨rfl, rfl⟩
  apply mirrors_bind
  refine mirrors_check (fun _ _ => ?_) (fun _ _ => ⟨rfl, rfl⟩)
  apply mirrors_bind
  refine mirrors_check (fun grouping _ => ?_) (fun _ _ => ⟨rfl, rfl⟩)
  apply mirrors_bind
  refine (mirrors_resetDirectory _).mono ?_ (fun _ _ _ hfailed => hfailed)
  rintro _ _ _ ⟨rfl, rfl⟩
  exact mirrors_modify ⟨rfl, templates, grouping, rfl⟩

/-- A write records its artifact in the run and its text in the files, or neither. -/
theorem mirrors_write (hrun : generator.run = some run) (artifact : Artifact) :
    Mirrors (write artifact : Step (StateM (Recorder σ)) Unit) (write artifact)
      (fun _ after added =>
        after = generator.recording run [artifact] ∧ added = [run.placed artifact])
      (fun _ after added => after = generator ∧ added = []) generator := by
  have hstore : Mirrors (store run artifact : Step (StateM (Recorder σ)) Unit)
      (store run artifact)
      (fun _ after added =>
        after = generator.recording run [artifact] ∧ added = [run.placed artifact])
      (fun _ after added => after = generator ∧ added = []) generator := by
    apply mirrors_bind
    exact mirrors_atPath_noting (mirrors_modify ⟨rfl, rfl⟩) (fun _ => ⟨rfl, rfl⟩)
  rw [write_eq, write_eq]
  apply mirrors_bind
  apply mirrors_currentRun hrun
  cases (run.outputRoot.join artifact.path).parent? with
  | none => exact hstore
  | some parent =>
      apply mirrors_bind
      exact mirrors_atPath_aside hstore (fun _ => ⟨rfl, rfl⟩)

/-- Some artifacts from the first one on have been written, and are recorded in the
run and in the files alike. -/
def StoresPrefix (generator : Generator) (run : Run) (artifacts : List Artifact)
    (after : Generator) (added : List (Path × String)) : Prop :=
  ∃ stored, stored <+: artifacts ∧ after = generator.recording run stored ∧
    added = stored.map run.placed

theorem recording_nil (hrun : generator.run = some run) :
    generator.recording run [] = generator := by
  rw [recording, List.append_nil, ← hrun]

theorem recording_recording (first second : List Artifact) :
    (generator.recording run first).recording
      { run with written := run.written ++ first } second =
        generator.recording run (first ++ second) := by
  simp only [recording, List.append_assoc]

theorem StoresPrefix.nil (hrun : generator.run = some run) (artifacts : List Artifact) :
    StoresPrefix generator run artifacts generator [] :=
  ⟨[], artifacts.nil_prefix, (recording_nil hrun).symm, rfl⟩

/-- Artifacts written before come first. -/
theorem StoresPrefix.behind {first rest : List Artifact} {after : Generator}
    {added : List (Path × String)}
    (hrest : StoresPrefix (generator.recording run first)
      { run with written := run.written ++ first } rest after added) :
    StoresPrefix generator run (first ++ rest) after (first.map run.placed ++ added) := by
  obtain ⟨stored, hprefix, rfl, rfl⟩ := hrest
  refine ⟨first ++ stored, (List.prefix_append_right_inj first).mpr hprefix,
    recording_recording first stored, ?_⟩
  rw [List.map_append]
  rfl

theorem mirrors_writeAll (hrun : generator.run = some run) (artifacts : List Artifact) :
    Mirrors (writeAll artifacts : Step (StateM (Recorder σ)) Unit) (writeAll artifacts)
      (fun _ after added =>
        after = generator.recording run artifacts ∧ added = artifacts.map run.placed)
      (fun _ after added => StoresPrefix generator run artifacts after added) generator := by
  induction artifacts generalizing generator run with
  | nil => exact mirrors_pure ⟨(recording_nil hrun).symm, rfl⟩
  | cons artifact rest ih =>
      unfold writeAll
      apply mirrors_bind
      refine (mirrors_write hrun artifact).mono ?_ ?_
      · rintro _ between before ⟨rfl, rfl⟩
        refine (ih (run_recording generator run [artifact])).mono ?_ ?_
        · rintro _ after added ⟨rfl, rfl⟩
          exact ⟨recording_recording [artifact] rest, rfl⟩
        · intro _ after added hrest
          exact hrest.behind
      · rintro _ after added ⟨rfl, rfl⟩
        exact .nil hrun _

/-- The support files and the registry are written in order, up to the first that
cannot be. -/
theorem mirrors_generateRegistry (hrun : generator.run = some run) (schema : Schema) :
    let artifacts := Artifact.support ++ (run.registry schema).toOption.toList
    Mirrors (generateRegistry schema : Step (StateM (Recorder σ)) Unit) (generateRegistry schema)
      (fun _ after added => StoresPrefix generator run artifacts after added)
      (fun _ after added => StoresPrefix generator run artifacts after added) generator := by
  intro artifacts
  unfold generateRegistry
  apply mirrors_bind
  apply mirrors_currentRun hrun
  apply mirrors_bind
  refine (mirrors_writeAll hrun Artifact.support).mono ?_ ?_
  · rintro _ between before ⟨rfl, rfl⟩
    have hrecorded := run_recording generator run Artifact.support
    apply mirrors_bind
    refine mirrors_check (fun registry hregistry => ?_) (fun fault hfault => ?_)
    · refine (mirrors_write hrecorded registry).mono ?_ ?_
      · rintro _ after added ⟨rfl, rfl⟩
        refine StoresPrefix.behind ⟨[registry], ?_, rfl, rfl⟩
        rw [hregistry]
        exact List.prefix_refl _
      · rintro _ after added ⟨rfl, rfl⟩
        exact StoresPrefix.behind (.nil hrecorded _)
    · exact StoresPrefix.behind (.nil hrecorded _)
  · rintro _ after added ⟨stored, hprefix, rfl, rfl⟩
    exact ⟨stored, hprefix.trans (List.prefix_append _ _), rfl, rfl⟩

theorem mirrors_generateMessage (hrun : generator.run = some run) (message : Message)
    (documentation : Documentation) :
    let artifacts := (run.messageModule generator.config.nestingLimit message
      (documentation.document message.id)).toOption.toList
    Mirrors (generateMessage message documentation : Step (StateM (Recorder σ)) Unit)
      (generateMessage message documentation)
      (fun _ after added => StoresPrefix generator run artifacts after added)
      (fun _ after added => StoresPrefix generator run artifacts after added) generator := by
  intro artifacts
  unfold generateMessage
  apply mirrors_bind
  apply mirrors_currentRun hrun
  apply mirrors_bind
  apply mirrors_get
  apply mirrors_bind
  refine mirrors_check (fun artifact hartifact => ?_) (fun fault hfault => ?_)
  · refine (mirrors_write hrun artifact).mono ?_ ?_
    · rintro _ after added ⟨rfl, rfl⟩
      refine ⟨[artifact], ?_, rfl, rfl⟩
      simp only [artifacts, hartifact]
      exact List.prefix_refl _
    · rintro _ after added ⟨rfl, rfl⟩
      exact .nil hrun _
  · exact .nil hrun _

end Steps

end Generator

end WireScript
