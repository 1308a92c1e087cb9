import WireScript.Proofs.Generator.Output
import WireScript.Proofs.Generator.Recording

/-! # Accounting of runs

A session calls the steps of one generator in any order, over files of any kind
and with any of the calls failing. The end of a run is granted exactly when a run
is open, and its report lists what was written since the run was started, as the
files have seen it.
-/

namespace WireScript.Generator

/-- A step that can be called by itself. -/
inductive Action where
  | init
  | registry (schema : Schema)
  | message (message : Message) (documentation : Documentation)
  | finish
  | clear

namespace Action

/-- What an action does. Only the end of a run has a report to give. -/
def step {m : Type → Type} [Monad m] [FileStore m] : Action → Step m (Option Report)
  | init => do
      Generator.init
      return none
  | registry schema => do
      generateRegistry schema
      return none
  | message definition documentation => do
      generateMessage definition documentation
      return none
  | finish => do
      let report ← Generator.finish
      return some report
  | clear => do
      Generator.clear
      return none

/-- Whether an action asks for a run. -/
def needsRun : Action → Bool
  | init | clear => false
  | registry _ | message _ _ | finish => true

/-- Whether an action writes for the run it finds. -/
def writes : Action → Bool
  | registry _ | message _ _ => true
  | init | finish | clear => false

theorem needsRun_of_writes {action : Action} (hwrites : action.writes) : action.needsRun := by
  cases action with
  | registry _ | message _ _ => rfl
  | init | finish | clear => cases hwrites

/-- The artifacts an action is to write, in order. -/
def artifacts (action : Action) (generator : Generator) : List Artifact :=
  match action, generator.run with
  | registry schema, some run => Artifact.support ++ (run.registry schema).toOption.toList
  | message definition documentation, some run =>
      (run.messageModule generator.config.nestingLimit definition
        (documentation.document definition.id)).toOption.toList
  | _, _ => []

theorem artifacts_registry {generator : Generator} {run : Run} (hrun : generator.run = some run)
    (schema : Schema) :
    (registry schema).artifacts generator =
      Artifact.support ++ (run.registry schema).toOption.toList := by
  simp only [artifacts, hrun]

theorem artifacts_message {generator : Generator} {run : Run} (hrun : generator.run = some run)
    (definition : Message) (documentation : Documentation) :
    (message definition documentation).artifacts generator =
      (run.messageModule generator.config.nestingLimit definition
        (documentation.document definition.id)).toOption.toList := by
  simp only [artifacts, hrun]

end Action

/-- A call of an action: how it ended, the artifacts it was to write, and the texts
that were written in it, as the files have seen them. -/
structure Call where
  action : Action
  result : Except Fault (Option Report)
  artifacts : List Artifact
  writes : List (Path × String)

namespace Call

/-- The call of an action on a generator that ended and wrote as told. -/
def of (generator : Generator) (action : Action) (result : Except Fault (Option Report))
    (writes : List (Path × String)) : Call where
  action := action
  result := result
  artifacts := action.artifacts generator
  writes := writes

/-- The artifacts whose texts were written. -/
def stored (call : Call) : List Artifact := call.artifacts.take call.writes.length

theorem stored_eq_nil {call : Call} (hwrites : call.writes = []) : call.stored = [] := by
  rw [stored, hwrites, List.length_nil, List.take_zero]

/-- Whether a call started a run. -/
def starts (call : Call) : Bool :=
  match call.action, call.result with
  | .init, .ok _ => true
  | _, _ => false

/-- Whether a call ended a run or gave it up. -/
def ends (call : Call) : Bool :=
  match call.action, call.result with
  | .clear, _ => true
  | .finish, .ok _ => true
  | _, _ => false

/-- A call that writes for a run neither starts one nor ends one. -/
theorem of_writes {action : Action} (hwrites : action.writes) (generator : Generator)
    (result : Except Fault (Option Report)) (added : List (Path × String)) :
    ¬ (of generator action result added).starts ∧ ¬ (of generator action result added).ends := by
  cases action with
  | registry _ | message _ _ => exact ⟨Bool.false_ne_true, Bool.false_ne_true⟩
  | init | finish | clear => cases hwrites

end Call

/-- Some call started a run, and none behind it ended one or gave it up. -/
def IsOpen (calls : List Call) : Prop :=
  ∃ before start since, calls = before ++ start :: since ∧ start.starts ∧
    ∀ call ∈ since, ¬ call.ends

/-- The calls behind the last one that started a run, which is still open. -/
def IsCurrent (calls since : List Call) : Prop :=
  ∃ before start, calls = before ++ start :: since ∧ start.starts ∧
    ∀ call ∈ since, ¬ call.starts ∧ ¬ call.ends

theorem IsCurrent.isOpen {calls since : List Call} (hcurrent : IsCurrent calls since) :
    IsOpen calls := by
  obtain ⟨before, start, hcalls, hstarts, hsince⟩ := hcurrent
  exact ⟨before, start, since, hcalls, hstarts, fun call hcall => (hsince call hcall).2⟩

theorem IsCurrent.of_starts (calls : List Call) {call : Call} (hstarts : call.starts) :
    IsCurrent (calls ++ [call]) [] :=
  ⟨calls, call, rfl, hstarts, by simp⟩

theorem IsCurrent.snoc {calls since : List Call} {call : Call} (hcurrent : IsCurrent calls since)
    (hstarts : ¬ call.starts) (hends : ¬ call.ends) :
    IsCurrent (calls ++ [call]) (since ++ [call]) := by
  obtain ⟨before, start, rfl, hstart, hsince⟩ := hcurrent
  refine ⟨before, start, by simp, hstart, ?_⟩
  intro later hlater
  rcases List.mem_append.mp hlater with hlater | hlater
  · exact hsince later hlater
  · obtain rfl : later = call := List.mem_singleton.mp hlater
    exact ⟨hstarts, hends⟩

theorem not_isOpen_nil : ¬ IsOpen [] := by
  rintro ⟨before, start, since, hcalls, -⟩
  simp at hcalls

/-- A run that is open after a call was started by it, or was open before and not
ended by it. -/
theorem IsOpen.of_snoc {calls : List Call} {call : Call} (hopen : IsOpen (calls ++ [call])) :
    call.starts ∨ ¬ call.ends ∧ IsOpen calls := by
  obtain ⟨before, start, since, hcalls, hstarts, hsince⟩ := hopen
  rcases List.eq_nil_or_concat since with rfl | ⟨earlier, last, rfl⟩
  · obtain ⟨-, hcall⟩ := List.append_inj' hcalls rfl
    obtain rfl : call = start := by simpa using hcall
    exact .inl hstarts
  · rw [List.concat_eq_append, ← List.cons_append, ← List.append_assoc] at hcalls
    obtain ⟨rfl, hcall⟩ := List.append_inj' hcalls rfl
    obtain rfl : call = last := by simpa using hcall
    refine .inr ⟨hsince call (by simp), before, start, earlier, rfl, hstarts, ?_⟩
    intro later hlater
    exact hsince later (by simp [hlater])

/-- What a call does to a generator. -/
inductive Moves (generator : Generator) (call : Call) : Generator → Prop where
  | starts (templates : TemplateSet) (grouping : Grouping) (hstarts : call.starts) :
      Moves generator call
        { generator with run := some ⟨generator.config.outputRoot, templates, grouping, []⟩ }
  | ends (hstarts : ¬ call.starts) (hends : call.ends) :
      Moves generator call { generator with run := none }
  | idles (hstarts : ¬ call.starts) (hends : ¬ call.ends) (hwrites : call.writes = []) :
      Moves generator call generator
  | stores {run : Run} (hrun : generator.run = some run) (hstarts : ¬ call.starts)
      (hends : ¬ call.ends) (hwrites : call.writes = call.stored.map run.placed) :
      Moves generator call (generator.recording run call.stored)

/-- Artifacts that were written up to some point are those the writes are of. -/
theorem Moves.of_storesPrefix {generator after : Generator} {run : Run} {call : Call}
    (hrun : generator.run = some run) (hstarts : ¬ call.starts) (hends : ¬ call.ends)
    (hstores : StoresPrefix generator run call.artifacts after call.writes) :
    Moves generator call after := by
  obtain ⟨stored, hprefix, rfl, hwrites⟩ := hstores
  have hstored : call.stored = stored := by
    rw [Call.stored, hwrites, List.length_map]
    exact (List.prefix_iff_eq_take.mp hprefix).symm
  rw [← hstored] at hwrites ⊢
  exact .stores hrun hstarts hends hwrites

section Steps

variable {σ : Type} [FileStore (StateM σ)]

/-- A step without a run changes nothing. -/
theorem execOn_step_of_none {generator : Generator} (hrun : generator.run = none)
    {action : Action} (hneeds : action.needsRun) (files : σ) :
    execOn action.step generator files = ((.error .notInitialized, generator), files) := by
  have hcurrent := execOn_currentRun_of_none hrun files
  cases action with
  | init => cases hneeds
  | clear => cases hneeds
  | registry schema => exact execOn_bind_of_error (execOn_bind_of_error hcurrent)
  | message definition documentation =>
      exact execOn_bind_of_error (execOn_bind_of_error hcurrent)
  | finish => exact execOn_bind_of_error (execOn_bind_of_error hcurrent)

/-- An action that moves the generator, and writes to recorded files what it writes to
plain ones. -/
def Mirrored (σ : Type) [FileStore (StateM σ)] (action : Action) (generator : Generator) : Prop :=
  Mirrors (action.step : Step (StateM (Recorder σ)) (Option Report)) action.step
    (fun report after added => Moves generator (.of generator action (.ok report) added) after)
    (fun fault after added => Moves generator (.of generator action (.error fault) added) after)
    generator

theorem mirrored_of_none {generator : Generator} (hrun : generator.run = none)
    {action : Action} (hneeds : action.needsRun) : Mirrored σ action generator := by
  refine mirrors_of_exec ?_ (execOn_step_of_none hrun hneeds) (execOn_step_of_none hrun hneeds)
  apply Moves.idles
  · cases action <;> simp [Call.of, Call.starts]
  · cases action with
    | clear => cases hneeds
    | _ => simp [Call.of, Call.ends]
  · rfl

/-- An action that writes its artifacts up to some point. -/
theorem mirrored_of_writes {generator : Generator} {action : Action} (hwrites : action.writes)
    (hstores : ∀ run, generator.run = some run →
      Mirrors (action.step : Step (StateM (Recorder σ)) (Option Report)) action.step
        (fun _ after added =>
          StoresPrefix generator run (action.artifacts generator) after added)
        (fun _ after added =>
          StoresPrefix generator run (action.artifacts generator) after added) generator) :
    Mirrored σ action generator := by
  rcases hrun : generator.run with _ | run
  · exact mirrored_of_none hrun (Action.needsRun_of_writes hwrites)
  · refine (hstores run hrun).mono ?_ ?_
    all_goals
      intro _ _ added hprefix
      obtain ⟨hstarts, hends⟩ := Call.of_writes hwrites generator _ added
      exact .of_storesPrefix hrun hstarts hends hprefix

/-- Every action moves the generator in one of the four ways. -/
theorem mirrored (action : Action) (generator : Generator) : Mirrored σ action generator := by
  cases action with
  | init =>
      apply mirrors_map
      refine mirrors_init.mono ?_ ?_
      · rintro _ _ _ ⟨rfl, templates, grouping, rfl⟩
        exact .starts templates grouping rfl
      · rintro _ _ _ ⟨rfl, rfl⟩
        exact .idles Bool.false_ne_true Bool.false_ne_true rfl
  | registry schema =>
      apply mirrored_of_writes rfl
      intro run hrun
      rw [Action.artifacts_registry hrun]
      exact mirrors_map (mirrors_generateRegistry hrun schema)
  | message definition documentation =>
      apply mirrored_of_writes rfl
      intro run hrun
      rw [Action.artifacts_message hrun]
      exact mirrors_map (mirrors_generateMessage hrun definition documentation)
  | finish =>
      rcases hrun : generator.run with _ | run
      · exact mirrored_of_none hrun rfl
      · apply mirrors_map
        refine mirrors_of_exec ?_ (execOn_finish hrun) (execOn_finish hrun)
        exact .ends Bool.false_ne_true rfl
  | clear =>
      apply mirrors_map
      exact mirrors_modify (.ends Bool.false_ne_true rfl)

end Steps

/-- A generator with its files, and the calls made so far. -/
structure Session (σ : Type) where
  generator : Generator
  files : σ
  calls : List Call

namespace Session

variable {σ : Type}

/-- A generator that was just made. -/
def start (config : Config) (files : σ) : Session σ := ⟨ofConfig config, files, []⟩

/-- A run is the one the calls left open, and lists as written what the files have
seen since its start. -/
def Accounts (config : Config) (calls : List Call) (run : Run) : Prop :=
  ∃ since, IsCurrent calls since ∧ run.outputRoot = config.outputRoot ∧
    run.written = since.flatMap Call.stored ∧
    since.flatMap Call.writes = run.written.map run.placed

theorem Accounts.snoc {config : Config} {calls : List Call} {run : Run}
    (haccounts : Accounts config calls run) {call : Call} (hstarts : ¬ call.starts)
    (hends : ¬ call.ends) (hwrites : call.writes = call.stored.map run.placed) :
    Accounts config (calls ++ [call]) { run with written := run.written ++ call.stored } := by
  obtain ⟨since, hsince, hroot, hwritten, hseen⟩ := haccounts
  refine ⟨since ++ [call], hsince.snoc hstarts hends, hroot, ?_, ?_⟩
  · simp [hwritten]
  · rw [List.flatMap_append, List.flatMap_singleton, hseen, hwrites, ← List.map_append]
    rfl

/-- The calls of a session account for the run of its generator. -/
structure IsSound (config : Config) (session : Session σ) : Prop where
  config_eq : session.generator.config = config
  not_isOpen : session.generator.run = none → ¬ IsOpen session.calls
  accounts : ∀ run, session.generator.run = some run → Accounts config session.calls run

theorem isSound_start (config : Config) (files : σ) : (start config files).IsSound config where
  config_eq := rfl
  not_isOpen := fun _ => not_isOpen_nil
  accounts := by
    intro run hrun
    cases hrun

theorem IsSound.of_moves {config : Config} {session : Session σ} (hsound : session.IsSound config)
    {call : Call} {after : Generator} (hmoves : Moves session.generator call after) (files : σ) :
    IsSound config ⟨after, files, session.calls ++ [call]⟩ := by
  obtain ⟨hconfig, hclosed, haccounts⟩ := hsound
  cases hmoves with
  | starts templates grouping hstarts =>
      refine ⟨hconfig, by rintro ⟨⟩, ?_⟩
      rintro run ⟨⟩
      exact ⟨[], .of_starts _ hstarts, by rw [hconfig], rfl, rfl⟩
  | ends hstarts hends =>
      refine ⟨hconfig, ?_, by rintro run ⟨⟩⟩
      intro _ hopen
      rcases hopen.of_snoc with hstarts' | ⟨hends', -⟩
      · exact hstarts hstarts'
      · exact hends' hends
  | idles hstarts hends hwrites =>
      refine ⟨hconfig, ?_, ?_⟩
      · intro hrun hopen
        rcases hopen.of_snoc with hstarts' | ⟨-, hopen⟩
        · exact hstarts hstarts'
        · exact hclosed hrun hopen
      · intro run hrun
        have hstored : call.stored = [] := Call.stored_eq_nil hwrites
        have hlater := (haccounts run hrun).snoc hstarts hends (by rw [hwrites, hstored]; rfl)
        rwa [hstored, List.append_nil] at hlater
  | stores hrun hstarts hends hwrites =>
      refine ⟨hconfig, by rintro ⟨⟩, ?_⟩
      rintro run ⟨⟩
      exact (haccounts _ hrun).snoc hstarts hends hwrites

/-- There is a run exactly when the calls left one open. -/
theorem IsSound.run_eq_none_iff {config : Config} {session : Session σ}
    (hsound : session.IsSound config) :
    session.generator.run = none ↔ ¬ IsOpen session.calls := by
  constructor
  · exact hsound.not_isOpen
  · intro hclosed
    rcases hrun : session.generator.run with _ | run
    · rfl
    · obtain ⟨since, hsince, -⟩ := hsound.accounts run hrun
      exact absurd hsince.isOpen hclosed

variable [FileStore (StateM σ)]

/-- Call an action. What was written in it is what the same step leaves in a
record of the files. -/
def perform (session : Session σ) (action : Action) : Session σ :=
  let after := execOn action.step session.generator session.files
  let recorded := execOn action.step session.generator (⟨session.files, []⟩ : Recorder σ)
  ⟨after.1.2, after.2,
    session.calls ++ [.of session.generator action after.1.1 recorded.2.writes]⟩

/-- Call actions in order, whether or not one of them fails. -/
def performAll (session : Session σ) (actions : List Action) : Session σ :=
  actions.foldl perform session

theorem IsSound.perform {config : Config} {session : Session σ} (hsound : session.IsSound config)
    (action : Action) : (session.perform action).IsSound config := by
  obtain ⟨result, after, files, added, hplain, hrecorded, hresult⟩ :=
    mirrored action session.generator session.files []
  have hmoves : Moves session.generator (.of session.generator action result added) after := by
    cases result with
    | ok report => exact hresult
    | error fault => exact hresult
  unfold Session.perform
  rw [hplain, hrecorded]
  exact hsound.of_moves hmoves files

theorem IsSound.performAll {config : Config} {session : Session σ}
    (hsound : session.IsSound config) (actions : List Action) :
    (session.performAll actions).IsSound config := by
  induction actions generalizing session with
  | nil => exact hsound
  | cons action actions ih => exact ih (hsound.perform action)

/-- After any calls, the end of a run is granted exactly when a run is open. Its
report then lists what was written since the last start of a run, in order, as the
files have seen it, and digests it. Without a run no step of one changes anything. -/
theorem finish_accounts (config : Config) (files : σ) (actions : List Action) :
    let session := (start config files).performAll actions
    let result := (execOn Generator.finish session.generator session.files).1.1
    ((∃ report, result = .ok report) ↔ IsOpen session.calls) ∧
      (∀ report, result = .ok report → ∃ since, IsCurrent session.calls since ∧
        let stored := since.flatMap Call.stored
        since.flatMap Call.writes =
            stored.map (fun artifact =>
              (config.outputRoot.join artifact.path, artifact.contents)) ∧
          report.outputRoot = config.outputRoot ∧
          report.files = stored.map Artifact.path ∧
          report.digest = Digest.sha256 (stored.flatMap (fun artifact =>
            artifact.path.toUTF8.toList ++ [0] ++ artifact.contents.toUTF8.toList ++ [0]))) ∧
      (session.generator.run = none ↔ ¬ IsOpen session.calls) ∧
      ∀ generator : Generator, generator.run = none → ∀ action : Action, action.needsRun →
        ∀ files : σ,
          execOn action.step generator files = ((.error .notInitialized, generator), files) := by
  intro session result
  have hsound : session.IsSound config := (isSound_start config files).performAll actions
  have hrefused (hrun : session.generator.run = none) : result = .error .notInitialized := by
    unfold result Generator.finish
    rw [execOn_bind_of_error (execOn_currentRun_of_none hrun session.files)]
  have hgranted {run : Run} (hrun : session.generator.run = some run) :
      result = .ok run.report := by
    unfold result
    rw [execOn_finish hrun]
  refine ⟨?_, ?_, hsound.run_eq_none_iff, fun generator hrun action hneeds files =>
    execOn_step_of_none hrun hneeds files⟩
  · constructor
    · rintro ⟨report, hreport⟩
      by_contra hclosed
      rw [hrefused (hsound.run_eq_none_iff.mpr hclosed)] at hreport
      cases hreport
    · intro hopen
      rcases hrun : session.generator.run with _ | run
      · exact absurd hopen (hsound.not_isOpen hrun)
      · exact ⟨run.report, hgranted hrun⟩
  · intro report hreport
    rcases hrun : session.generator.run with _ | run
    · rw [hrefused hrun] at hreport
      cases hreport
    · rw [hgranted hrun] at hreport
      obtain rfl := Except.ok.inj hreport
      obtain ⟨since, hsince, hroot, hwritten, hseen⟩ := hsound.accounts run hrun
      refine ⟨since, hsince, ?_⟩
      intro stored
      refine ⟨?_, hroot, ?_, ?_⟩
      · rw [hseen, hwritten]
        unfold Run.placed
        rw [hroot]
      · rw [Run.report, hwritten]
      · rw [Run.report, hwritten, Artifact.records_eq]

end Session

end WireScript.Generator
