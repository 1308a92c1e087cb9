import WireScript.Generator
import WireScript.Storage.FileTree

/-! # Execution of steps

The steps of a generator over files held as a state are functions of the generator
and the files. What they do is stated by two conditions, one for a step that comes to
its end and one for a step that stops with a fault; each operation the generator is
written with has one rule for them, whatever kind of files it works on.
-/

namespace WireScript.Generator

variable {σ α β : Type}

/-- Run a step over files of any kind: its result, and the generator and the files
it leaves behind. -/
def execOn (step : Step (StateM σ) α) (generator : Generator) (files : σ) :
    (Except Fault α × Generator) × σ :=
  ((step.run).run generator).run files

theorem execOn_bind (first : Step (StateM σ) β) (next : β → Step (StateM σ) α)
    (generator : Generator) (files : σ) :
    execOn (first >>= next) generator files =
      match execOn first generator files with
      | ((.ok value, generator), files) => execOn (next value) generator files
      | ((.error fault, generator), files) => ((.error fault, generator), files) := by
  change (match execOn first generator files with
    | ((result, generator), files) => ExceptT.bindCont next result generator files) = _
  rcases execOn first generator files with ⟨⟨result, generator'⟩, files'⟩
  cases result <;> rfl

/-- A sequence stops where its first step does. -/
theorem execOn_bind_of_error {first : Step (StateM σ) β} {next : β → Step (StateM σ) α}
    {generator : Generator} {files : σ} {fault : Fault}
    (hfirst : execOn first generator files = ((.error fault, generator), files)) :
    execOn (first >>= next) generator files = ((.error fault, generator), files) := by
  rw [execOn_bind, hfirst]

theorem execOn_get_bind (next : Generator → Step (StateM σ) α) (generator : Generator)
    (files : σ) : execOn (get >>= next) generator files = execOn (next generator) generator files :=
  rfl

/-- Sequences agree that go on in the same way from where their first step ends. -/
theorem execOn_bind_congr {first : Step (StateM σ) β} {next next' : β → Step (StateM σ) α}
    {generator : Generator} {files : σ}
    (hnext : ∀ value generator' files',
      execOn first generator files = ((.ok value, generator'), files') →
        execOn (next value) generator' files' = execOn (next' value) generator' files') :
    execOn (first >>= next) generator files = execOn (first >>= next') generator files := by
  rw [execOn_bind, execOn_bind]
  rcases hfirst : execOn first generator files with ⟨⟨result, generator'⟩, files'⟩
  cases result with
  | ok value => exact hnext value generator' files' hfirst
  | error fault => rfl

section Runs

variable {generator : Generator}

theorem execOn_currentRun_of_some {run : Run} (hrun : generator.run = some run) (files : σ) :
    execOn currentRun generator files = ((.ok run, generator), files) := by
  rcases generator with ⟨config, current⟩
  obtain rfl : current = some run := hrun
  rfl

theorem execOn_currentRun_of_none (hrun : generator.run = none) (files : σ) :
    execOn currentRun generator files = ((.error .notInitialized, generator), files) := by
  rcases generator with ⟨config, current⟩
  obtain rfl : current = none := hrun
  rfl

/-- The end of a run reports it and gives it up. -/
theorem execOn_finish {run : Run} (hrun : generator.run = some run) (files : σ) :
    execOn finish generator files = ((.ok run.report, { generator with run := none }), files) := by
  rw [finish, execOn_bind, execOn_currentRun_of_some hrun]
  rfl

end Runs

/-- A step of a generator whose files are a tree. -/
abbrev TreeStep (α : Type) := Step (StateM FileTree) α

/-- Run a step: its result, and the generator and the tree it leaves behind. -/
def exec (step : TreeStep α) (generator : Generator) (tree : FileTree) :
    (Except Fault α × Generator) × FileTree :=
  ((step.run).run generator).run tree

theorem exec_eq_execOn (step : TreeStep α) : exec step = execOn step := rfl

/-- A step that does not stop leaves a value, a generator, and a tree. -/
theorem exists_of_isOk {step : TreeStep α} {generator : Generator} {tree : FileTree}
    (hends : (exec step generator tree).1.1.isOk = true) :
    ∃ value after left, exec step generator tree = ((.ok value, after), left) := by
  rcases hexec : exec step generator tree with ⟨⟨result, after⟩, left⟩
  rw [hexec] at hends
  cases result with
  | error fault => cases hends
  | ok value => exact ⟨value, after, left, rfl⟩

section Write

variable {m : Type → Type} [Monad m] [FileStore m]

/-- The part of a write behind the making of a directory: the artifact is stored for a run
and recorded in it. -/
def store (run : Run) (artifact : Artifact) : Step m Unit := do
  atPath (run.outputRoot.join artifact.path)
    (FileStore.writeText (run.outputRoot.join artifact.path) artifact.contents)
  modify (fun generator =>
    { generator with run := some { run with written := run.written ++ [artifact] } })

theorem write_eq (artifact : Artifact) :
    (write artifact : Step m Unit) = (do
      let run ← currentRun
      match (run.outputRoot.join artifact.path).parent? with
      | some parent => do
          atPath parent (FileStore.createAll parent)
          store run artifact
      | none => store run artifact) := by
  unfold write
  refine congrArg _ (funext fun run => ?_)
  dsimp only
  cases (run.outputRoot.join artifact.path).parent? <;> rfl

end Write

/-- Whether a step, from where it starts, ends as `done` or stops as `failed`
says. -/
def Ensures (step : Step (StateM σ) α) (done : α → Generator → σ → Prop)
    (failed : Fault → Generator → σ → Prop) (generator : Generator) (files : σ) : Prop :=
  match execOn step generator files with
  | ((.ok value, generator), files) => done value generator files
  | ((.error fault, generator), files) => failed fault generator files

section Rules

variable {done : α → Generator → σ → Prop} {failed : Fault → Generator → σ → Prop}
variable {generator : Generator} {files : σ}

theorem Ensures.of_ok {step : Step (StateM σ) α}
    (hstep : Ensures step done failed generator files) {value : α} {generator' : Generator}
    {files' : σ}
    (hexec : execOn step generator files = ((.ok value, generator'), files')) :
    done value generator' files' := by
  unfold Ensures at hstep
  rwa [hexec] at hstep

theorem Ensures.of_error {step : Step (StateM σ) α}
    (hstep : Ensures step done failed generator files) {fault : Fault} {generator' : Generator}
    {files' : σ}
    (hexec : execOn step generator files = ((.error fault, generator'), files')) :
    failed fault generator' files' := by
  unfold Ensures at hstep
  rwa [hexec] at hstep

/-- Weaker conditions hold as well. -/
theorem Ensures.mono {step : Step (StateM σ) α} {done' : α → Generator → σ → Prop}
    {failed' : Fault → Generator → σ → Prop}
    (hstep : Ensures step done failed generator files)
    (hdone : ∀ value generator files, done value generator files → done' value generator files)
    (hfailed : ∀ fault generator files, failed fault generator files →
      failed' fault generator files) :
    Ensures step done' failed' generator files := by
  unfold Ensures at hstep ⊢
  split at hstep
  next value generator' files' hexec => exact hdone value generator' files' hstep
  next fault generator' files' hexec => exact hfailed fault generator' files' hstep

theorem Ensures.imp {step : Step (StateM σ) α} {done' : α → Generator → σ → Prop}
    (hstep : Ensures step done failed generator files)
    (hdone : ∀ value generator files, done value generator files → done' value generator files) :
    Ensures step done' failed generator files :=
  hstep.mono hdone (fun _ _ _ hfailed => hfailed)

theorem Ensures.and {step : Step (StateM σ) α} {done' : α → Generator → σ → Prop}
    {failed' : Fault → Generator → σ → Prop}
    (hfirst : Ensures step done failed generator files)
    (hsecond : Ensures step done' failed' generator files) :
    Ensures step
      (fun value generator files => done value generator files ∧ done' value generator files)
      (fun fault generator files => failed fault generator files ∧ failed' fault generator files)
      generator files := by
  unfold Ensures at hfirst hsecond ⊢
  generalize execOn step generator files = after at hfirst hsecond ⊢
  rcases after with ⟨⟨result, generator'⟩, files'⟩
  cases result <;> exact ⟨hfirst, hsecond⟩

/-- What a step ensures of its result and of what it leaves behind, both at its end and at
a fault, holds however it ends. -/
theorem Ensures.outcome {step : Step (StateM σ) α}
    (holds : Except Fault α → Generator → σ → Prop)
    (hstep : Ensures step (fun value => holds (.ok value)) (fun fault => holds (.error fault))
      generator files) :
    holds (execOn step generator files).1.1 (execOn step generator files).1.2
      (execOn step generator files).2 := by
  unfold Ensures at hstep
  generalize execOn step generator files = after at hstep ⊢
  rcases after with ⟨⟨result, generator'⟩, files'⟩
  cases result <;> exact hstep

theorem Ensures.files_left {step : Step (StateM σ) α} {left : σ → Prop}
    (hstep : Ensures step (fun _ _ files => left files) (fun _ _ files => left files)
      generator files) :
    left (execOn step generator files).2 :=
  hstep.outcome fun _ _ => left

theorem ensures_pure (value : α) :
    Ensures (pure value) done failed generator files ↔ done value generator files :=
  Iff.rfl

theorem ensures_throw (fault : Fault) :
    Ensures (throw fault) done failed generator files ↔ failed fault generator files :=
  Iff.rfl

/-- A sequence ends as its second step does from where the first one ended. -/
theorem ensures_bind {first : Step (StateM σ) β} {next : β → Step (StateM σ) α} :
    Ensures (first >>= next) done failed =
      Ensures first (fun value => Ensures (next value) done failed) failed := by
  funext generator files
  unfold Ensures
  rw [execOn_bind]
  rcases execOn first generator files with ⟨⟨result, generator'⟩, files'⟩
  cases result <;> rfl

/-- What a sequence ends with is up to its last step. -/
theorem Ensures.of_last {first : Step (StateM σ) β} {last : β → Step (StateM σ) α}
    (hlast : ∀ value generator files,
      Ensures (last value) done (fun _ _ _ => True) generator files) :
    Ensures (first >>= last) done (fun _ _ _ => True) generator files := by
  rw [ensures_bind]
  unfold Ensures
  split
  next value generator' files' hexec => exact hlast value generator' files'
  next => trivial

theorem ensures_get {done : Generator → Generator → σ → Prop} :
    Ensures (get : Step (StateM σ) Generator) done failed generator files ↔
      done generator generator files :=
  Iff.rfl

theorem ensures_modify {done : Unit → Generator → σ → Prop}
    (change : Generator → Generator) :
    Ensures (modify change : Step (StateM σ) Unit) done failed generator files ↔
      done () (change generator) files :=
  Iff.rfl

/-- What is judged in steps can be judged at once. -/
theorem check_bind (first : Except Fault β) (next : β → Except Fault α) :
    (check (first >>= next) : Step (StateM σ) α) =
      check first >>= fun value => check (next value) := by
  cases first <;> rfl

/-- A judgement changes nothing. -/
theorem ensures_check (result : Except Fault α) :
    Ensures (check result : Step (StateM σ) α) done failed generator files ↔
      (∀ value, result = .ok value → done value generator files) ∧
        ∀ fault, result = .error fault → failed fault generator files := by
  cases result with
  | ok value => simp [check, ensures_pure]
  | error fault => simp [check, ensures_throw]

theorem ensures_files (action : StateM σ α) :
    Ensures (Generator.files action) done failed generator files ↔
      done (action files).1 generator (action files).2 :=
  Iff.rfl

/-- A file operation stops a step by its own failure only. -/
theorem ensures_atPath {done : Unit → Generator → σ → Prop} (path : Path)
    (action : StateM σ (Except FileError Unit)) :
    Ensures (atPath path action) done failed generator files ↔
      (∀ files', action files = (.ok (), files') → done () generator files') ∧
        ∀ error files', action files = (.error error, files') →
          failed (.io path error) generator files' := by
  rw [atPath, ensures_bind, ensures_files]
  rcases haction : action files with ⟨result, files'⟩
  cases result with
  | ok value =>
      constructor
      · intro hdone
        refine ⟨?_, ?_⟩
        · rintro files'' ⟨⟩
          exact hdone
        · rintro error files'' ⟨⟩
      · intro hboth
        obtain ⟨hdone, -⟩ := hboth
        exact hdone files' rfl
  | error error =>
      constructor
      · intro hfailed
        refine ⟨?_, ?_⟩
        · rintro files'' ⟨⟩
        · rintro error files'' ⟨⟩
          exact hfailed
      · intro hboth
        obtain ⟨-, hfailed⟩ := hboth
        exact hfailed error files' rfl

theorem ensures_currentRun {done : Run → Generator → σ → Prop} {run : Run}
    (hrun : generator.run = some run) :
    Ensures (currentRun : Step (StateM σ) Run) done failed generator files ↔
      done run generator files := by
  rw [currentRun, ensures_bind, ensures_get, hrun, ensures_pure]

/-- A handler that raises the fault again changes the generator only. -/
theorem ensures_clearing {step : Step (StateM σ) α} :
    Ensures (tryCatch step (fun fault => do clear; throw fault)) done failed generator files ↔
      Ensures step done (fun fault generator files =>
        failed fault { generator with run := none } files) generator files := by
  have hexec : execOn (tryCatch step (fun fault => do clear; throw fault)) generator files =
      match execOn step generator files with
      | ((.ok value, generator), files) => ((.ok value, generator), files)
      | ((.error fault, generator), files) =>
          ((.error fault, { generator with run := none }), files) := by
    rcases hstep : execOn step generator files with ⟨⟨result, generator'⟩, files'⟩
    change step generator files = _ at hstep
    simp only [execOn, tryCatch, tryCatchThe, MonadExceptOf.tryCatch, ExceptT.tryCatch, ExceptT.run,
      ExceptT.mk, StateT.run, bind, StateT.bind, hstep]
    cases result <;> rfl
  unfold Ensures
  rw [hexec]
  rcases execOn step generator files with ⟨⟨result, generator'⟩, files'⟩
  cases result <;> rfl

end Rules

end WireScript.Generator
