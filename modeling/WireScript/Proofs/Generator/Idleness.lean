import WireScript.Proofs.Generator.Invariants

/-! # Idle generators

A generator without a run refuses every step of one. A call of `generate` leaves
no run behind, however it ends, once it has planned its outputs. A call that fails
while planning changes nothing at all, so a run started before it goes on.
-/

namespace WireScript.Generator

/-- A generator that has no run. It names no output root, and no step of a run
changes it or a file. -/
structure IsIdle (generator : Generator) : Prop where
  outputRoot : generator.outputRoot? = none
  generateRegistry : ∀ schema tree, exec (generateRegistry schema) generator tree =
    ((.error .notInitialized, generator), tree)
  generateMessage : ∀ message documentation tree,
    exec (generateMessage message documentation) generator tree =
      ((.error .notInitialized, generator), tree)
  finish : ∀ tree, exec finish generator tree = ((.error .notInitialized, generator), tree)

/-- Every step of a run asks for the run first. -/
theorem isIdle_iff {generator : Generator} : IsIdle generator ↔ generator.run = none := by
  constructor
  · intro hidle
    exact Option.map_eq_none_iff.mp hidle.outputRoot
  · intro hrun
    exact {
      outputRoot := by rw [outputRoot?, hrun, Option.map_none]
      generateRegistry := fun _ tree =>
        execOn_bind_of_error (execOn_currentRun_of_none hrun tree)
      generateMessage := fun _ _ tree =>
        execOn_bind_of_error (execOn_currentRun_of_none hrun tree)
      finish := fun tree => execOn_bind_of_error (execOn_currentRun_of_none hrun tree) }

section Generate

variable {schema : Schema} {documentation : Documentation} {generator : Generator}

/-- A run that comes to its end is over, and no run changes the settings. -/
theorem ensures_runAll_over {σ : Type} [FileStore (StateM σ)] {files : σ} :
    Ensures (runAll schema documentation)
      (fun _ generator' _ => generator' = { generator with run := none })
      (fun _ generator' _ => generator'.config = generator.config) generator files := by
  have hfinish : ∀ generator files, Ensures (finish : Step (StateM σ) Report)
      (fun _ generator' _ => generator'.run = none) (fun _ _ _ => True) generator files :=
    fun _ _ => Ensures.of_last fun _ _ _ => rfl
  have hover : Ensures (runAll schema documentation)
      (fun _ generator' _ => generator'.run = none) (fun _ _ _ => True) generator files :=
    Ensures.of_last fun _ _ _ => Ensures.of_last fun _ _ _ => Ensures.of_last fun _ => hfinish
  refine (hover.and (KeepsConfig.runAll schema documentation generator files)).mono ?_ ?_
  · rintro _ ⟨config, run⟩ _ ⟨hrun, hconfig⟩
    obtain rfl : config = generator.config := hconfig
    obtain rfl : run = none := hrun
    rfl
  · intro _ _ _ hboth
    exact hboth.2

/-- A call that fails while planning changes neither the generator nor a file. -/
theorem exec_generate_of_planned_error {fault : Fault}
    (hplanned : planned generator.config schema = .error fault)
    (documentation : Documentation) (tree : FileTree) :
    exec (generate schema documentation) generator tree = ((.error fault, generator), tree) := by
  have hgenerate : Ensures (generate schema documentation)
      (fun _ _ _ => False)
      (fun fault' generator' tree' => fault' = fault ∧ generator' = generator ∧ tree' = tree)
      generator tree := by
    refine ensures_generate_planned.mpr ⟨?_, ?_⟩
    · intro fault' hfault'
      rw [hplanned] at hfault'
      exact ⟨(Except.error.inj hfault').symm, rfl, rfl⟩
    · intro paths hpaths
      rw [hplanned] at hpaths
      cases hpaths
  rcases hexec : exec (generate schema documentation) generator tree with
    ⟨⟨result, generator'⟩, tree'⟩
  cases result with
  | ok report => exact (hgenerate.of_ok hexec).elim
  | error fault' =>
      obtain ⟨rfl, rfl, rfl⟩ := hgenerate.of_error hexec
      rfl

/-- Once its outputs are planned, a call leaves the generator with its settings
and without a run. -/
theorem generator_of_planned_ok {paths : List String}
    (hplanned : planned generator.config schema = .ok paths) (documentation : Documentation)
    (tree : FileTree) :
    (exec (generate schema documentation) generator tree).1.2 =
      { generator with run := none } := by
  have hgenerate : Ensures (generate schema documentation)
      (fun _ generator' _ => generator' = { generator with run := none })
      (fun _ generator' _ => generator' = { generator with run := none }) generator tree := by
    refine ensures_generate_planned.mpr ⟨?_, ?_⟩
    · intro fault hfault
      rw [hplanned] at hfault
      cases hfault
    · intro _ _
      refine ensures_runAll_over.mono (fun _ _ _ hdone => hdone) ?_
      intro _ generator' _ hconfig
      rw [hconfig]
  exact hgenerate.outcome fun _ generator' _ => generator' = { generator with run := none }

/-- A call of `generate` leaves the generator idle, however it ends, unless it
fails while planning; then it changes nothing, and a run started before goes on. -/
theorem isIdle_generate_iff (schema : Schema) (documentation : Documentation)
    (generator : Generator) (tree : FileTree) :
    let after := exec (generate schema documentation) generator tree
    (IsIdle after.1.2 ↔
        IsIdle generator ∨ ∃ paths, planned generator.config schema = .ok paths) ∧
      (∀ report, after.1.1 = .ok report → IsIdle after.1.2) ∧
      (∀ fault, planned generator.config schema = .error fault →
        after = ((.error fault, generator), tree)) ∧
      after.1.2.config = generator.config := by
  intro after
  cases hplanned : planned generator.config schema with
  | error fault =>
      have hafter : after = ((.error fault, generator), tree) :=
        exec_generate_of_planned_error hplanned documentation tree
      simp [hafter]
  | ok paths =>
      have hleft : after.1.2 = { generator with run := none } :=
        generator_of_planned_ok hplanned documentation tree
      have hidle : IsIdle after.1.2 := isIdle_iff.mpr (by rw [hleft])
      exact ⟨iff_of_true hidle (.inr ⟨paths, rfl⟩), fun _ _ => hidle, by rintro _ ⟨⟩,
        by rw [hleft]⟩

/-- A started run goes on when a later call is refused for the name of a message,
and can still be finished. -/
theorem generate_refused_keepsRun :
    let reserved : Schema := ⟨[⟨1, "class", []⟩]⟩
    ∃ started tree fault report idle,
      exec init (ofConfig .default) ⟨[], []⟩ = ((.ok (), started), tree) ∧
        exec (generate reserved .empty) started tree = ((.error fault, started), tree) ∧
        ¬ IsIdle started ∧ exec finish started tree = ((.ok report, idle), tree) := by
  intro reserved
  let started : Generator := ⟨.default, some ⟨Config.default.outputRoot, .embedded, .flat, []⟩⟩
  have hstarted : exec init (ofConfig .default) ⟨[], []⟩ =
      ((.ok (), started), (exec init (ofConfig .default) ⟨[], []⟩).2) := by
    rfl
  have hrefused : (planned started.config reserved).isOk = false := by decide +kernel
  cases hplanned : planned started.config reserved with
  | ok paths =>
      rw [hplanned] at hrefused
      cases hrefused
  | error fault =>
      refine ⟨started, _, fault, _, _, hstarted, exec_generate_of_planned_error hplanned _ _, ?_,
        rfl⟩
      intro hidle
      cases isIdle_iff.mp hidle

end Generate

end WireScript.Generator
