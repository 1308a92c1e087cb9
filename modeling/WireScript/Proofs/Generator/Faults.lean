import WireScript.Proofs.Generator.Stages

/-! # Faults of a run

A fault that blames the settings, the templates or the schema leaves every file
as it was: it is found before the old output is deleted. Once deletion has begun
only the files themselves can stop a run.
-/

namespace WireScript

theorem Fault.isFile_iff {fault : Fault} :
    fault.IsFile ↔
      ¬ (fault.isConfiguration = true ∨ ∃ path error, fault = .templateLoad path error) := by
  cases fault <;> simp [IsFile, isConfiguration, isIo, fileError?]

namespace Generator

variable {schema : Schema} {generator : Generator} {tree : FileTree}
variable {templates : TemplateSet} {grouping : Grouping}

/-- When everything has been judged, a run is its production, apart from the
generator it leaves behind. -/
theorem exec_generate_of_ready
    (hready : ready generator.config schema tree = .ok (templates, grouping))
    (documentation : Documentation) :
    let produced := exec (produce templates grouping schema documentation) generator tree
    (exec (generate schema documentation) generator tree).1.1 = produced.1.1 ∧
      (exec (generate schema documentation) generator tree).2 = produced.2 := by
  intro produced
  have hgenerate : Ensures (generate schema documentation)
      (fun report _ tree' => .ok report = produced.1.1 ∧ tree' = produced.2)
      (fun fault _ tree' => .error fault = produced.1.1 ∧ tree' = produced.2) generator tree := by
    refine ensures_generate.mpr ⟨?_, ?_⟩
    · intro fault hfault
      rw [hready] at hfault
      cases hfault
    · intro templates' grouping' hready'
      rw [hready] at hready'
      cases hready'
      unfold Ensures
      split
      next report generator' tree' hexec => simp [produced, exec_eq_execOn, hexec]
      next fault generator' tree' hexec => simp [produced, exec_eq_execOn, hexec]
  exact hgenerate.outcome fun result _ tree' => result = produced.1.1 ∧ tree' = produced.2

/-- A fault of the configuration, of the schema or of a template leaves all files
unchanged. When these have been judged the rest of the run, from the deletion of
the old output on and from whatever tree it starts, stops at the files only. -/
theorem generate_error (schema : Schema) (documentation : Documentation) (generator : Generator)
    (tree : FileTree) :
    (∀ fault generator' tree',
      exec (generate schema documentation) generator tree = ((.error fault, generator'), tree') →
      (fault.isConfiguration = true ∨ ∃ path error, fault = .templateLoad path error) →
      tree' = tree) ∧
    ∀ templates grouping, ready generator.config schema tree = .ok (templates, grouping) →
      ((exec (generate schema documentation) generator tree).1.1 =
          (exec (produce templates grouping schema documentation) generator tree).1.1 ∧
        (exec (generate schema documentation) generator tree).2 =
          (exec (produce templates grouping schema documentation) generator tree).2) ∧
      ∀ later fault generator' tree',
        exec (produce templates grouping schema documentation) generator later =
          ((.error fault, generator'), tree') → ∃ path error, fault = .io path error := by
  refine ⟨?_, ?_⟩
  · intro fault generator' tree' hexec hconfiguration
    have hgenerate : Ensures (generate schema documentation) (fun _ _ _ => True)
        (fun fault _ tree' => fault.IsFile ∨ tree' = tree) generator tree := by
      refine ensures_generate.mpr ⟨fun _ _ => .inr rfl, ?_⟩
      intro templates grouping hready
      exact (ensures_produce hready documentation).mono (fun _ _ _ _ => trivial)
        (fun _ _ _ hfile => .inl hfile)
    rcases hgenerate.of_error hexec with hfile | htree
    · exact absurd hconfiguration (Fault.isFile_iff.mp hfile)
    · exact htree
  · intro templates grouping hready
    refine ⟨exec_generate_of_ready hready documentation, ?_⟩
    intro later fault generator' tree' hexec
    exact (ensures_produce hready documentation).of_error hexec

/-- Two messages with one number, where there is older output; and a plain file
where the output root of a valid schema should be. -/
theorem generate_error_keepsOutput :
    let config := Config.default
    let older : FileTree := ⟨[(["jsProtocol"], .directory),
      (["jsProtocol", "Old.js"], .file "old".toUTF8)], []⟩
    let blocked : FileTree := ⟨[(["jsProtocol"], .file "old".toUTF8)], []⟩
    let twice : Schema := ⟨[⟨1, "First", []⟩, ⟨1, "Second", []⟩]⟩
    let single : Schema := ⟨[⟨1, "First", []⟩]⟩
    (∃ fault generator',
      exec (generate twice .empty) (ofConfig config) older = ((.error fault, generator'), older) ∧
        fault.isConfiguration = true) ∧
      ∃ path error generator' tree',
        exec (generate single .empty) (ofConfig config) blocked =
          ((.error (.io path error), generator'), tree') := by
  intro config older blocked twice single
  refine ⟨?_, ?_⟩
  · have hblames : (match (exec (generate twice .empty) (ofConfig config) older).1.1 with
        | .ok _ => false
        | .error fault => fault.isConfiguration) = true := by
      decide +kernel
    rcases hexec : exec (generate twice .empty) (ofConfig config) older with
      ⟨⟨result, generator'⟩, tree'⟩
    rw [hexec] at hblames
    cases result with
    | ok report => cases hblames
    | error fault =>
        obtain rfl := (generate_error twice .empty (ofConfig config) older).1 fault generator'
          tree' hexec (.inl hblames)
        exact ⟨fault, generator', rfl, hblames⟩
  · have hready : ready config single blocked = .ok (.embedded, .flat) :=
      ready_eq_ok_iff.mpr ⟨Config.validate_eq_ok_iff.mpr (by decide +kernel), rfl,
        ⟨_, Layout.plan_eq_ok_iff.mpr ⟨Schema.validate_eq_ok_iff.mpr ⟨by decide +kernel,
          by decide +kernel⟩, by decide +kernel, by decide +kernel, rfl⟩⟩, rfl, by rfl⟩
    have hstops : (exec (generate single .empty) (ofConfig config) blocked).1.1.isOk = false := by
      decide +kernel
    obtain ⟨⟨hresult, htree⟩, hfile⟩ :=
      (generate_error single .empty (ofConfig config) blocked).2 _ _ hready
    rcases hexec : exec (generate single .empty) (ofConfig config) blocked with
      ⟨⟨result, generator'⟩, tree'⟩
    rcases hproduce : exec (produce .embedded .flat single .empty) (ofConfig config) blocked with
      ⟨⟨produced, after⟩, left⟩
    rw [hexec, hproduce] at hresult
    rw [hexec] at hstops
    obtain rfl : result = produced := hresult
    cases result with
    | ok report => cases hstops
    | error fault =>
        obtain ⟨path, error, rfl⟩ := hfile blocked fault after left hproduce
        exact ⟨path, error, generator', tree', rfl⟩

end Generator

end WireScript
