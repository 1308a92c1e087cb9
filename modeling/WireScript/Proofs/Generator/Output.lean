import WireScript.Proofs.Generator.Exactness

/-! # Output of a run

What is in the files after a run that came to its end: the support files, the
registry and the module of every message, each at its planned path and with the
text it is rendered to. The report lists them in this order and digests them.
-/

namespace WireScript

/-- What is digested of some files: path, zero byte, contents, zero byte, in order. -/
theorem Artifact.records_eq (artifacts : List Artifact) :
    records artifacts = artifacts.flatMap (fun artifact =>
      artifact.path.toUTF8.toList ++ [0] ++ artifact.contents.toUTF8.toList ++ [0]) := by
  unfold records
  congr 1
  funext artifact
  rw [record, ended, ended, ← List.append_assoc]

namespace Generator

variable {schema : Schema} {documentation : Documentation} {generator generator' : Generator}
variable {tree tree' : FileTree} {report : Report}

/-- A run that came to its end was judged, and produced what it reports. -/
theorem produced_of_ok
    (hexec : exec (generate schema documentation) generator tree =
      ((.ok report, generator'), tree')) :
    ∃ templates grouping, ready generator.config schema tree = .ok (templates, grouping) ∧
      Produced generator.config templates grouping schema documentation tree report tree' := by
  have hgenerate : Ensures (generate schema documentation)
      (fun report _ tree' =>
        ∃ templates grouping, ready generator.config schema tree = .ok (templates, grouping) ∧
          Produced generator.config templates grouping schema documentation tree report tree')
      (fun _ _ _ => True) generator tree := by
    refine ensures_generate.mpr ⟨fun _ _ => trivial, ?_⟩
    intro templates grouping hready
    refine (ensures_produce hready documentation).mono ?_ (fun _ _ _ _ => trivial)
    intro report _ tree' hproduced
    exact ⟨templates, grouping, hready, hproduced⟩
  exact hgenerate.of_ok hexec

/-- A run that came to its end filled the output root with what it reports. -/
theorem filled_of_ok
    (hexec : exec (generate schema documentation) generator tree =
      ((.ok report, generator'), tree')) :
    let config := generator.config
    ∃ templates grouping artifacts cleared,
      ready config schema tree = .ok (templates, grouping) ∧
      IsOutput ⟨config.outputRoot, templates, grouping, []⟩ config.nestingLimit schema
        documentation artifacts ∧
      report = Run.report ⟨config.outputRoot, templates, grouping, artifacts⟩ ∧
      (artifacts.map Artifact.path).Nodup ∧
      tree.ResetTo config.outputRoot cleared ∧
      FileTree.Filled (tree.clearedAt config.outputRoot) config.outputRoot artifacts tree' := by
  intro config
  obtain ⟨templates, grouping, hready, artifacts, cleared, houtput, hreport, hreset, hstores⟩ :=
    produced_of_ok hexec
  obtain ⟨hconfig, hgrouping, ⟨paths, hplan⟩, -, -⟩ := ready_eq_ok_iff.mp hready
  obtain ⟨hschema, -, hcollision, -⟩ := Layout.plan_eq_ok_iff.mp hplan
  have hroot := Config.endsInName_outputRoot (Config.validate_eq_ok_iff.mp hconfig)
  have hplaced := houtput.isPlaced hschema hgrouping
  have hnodup : (artifacts.map Artifact.path).Nodup := by
    rw [houtput.map_path]
    exact Layout.nodup_paths hcollision
  refine ⟨templates, grouping, artifacts, cleared, hready, houtput, hreport, hnodup, hreset, ?_⟩
  -- the writes meet a cleared root, and no two of them the same place
  have hempty := FileTree.Filled.of_creates hreset.creates
  exact hempty.storeAll hroot hstores hplaced (Artifact.nodup_location hplaced hnodup)

/-- A run that ends well leaves the support files, the registry and the module of
every message at their planned paths, and reports exactly these. Below the output
root there is nothing else exactly when the root was cleared, as it always is for
a path without `..` behind its first step. -/
theorem generate_ok
    (hexec : exec (generate schema documentation) generator tree =
      ((.ok report, generator'), tree')) :
    let config := generator.config
    let location := config.outputRoot.location tree.origin
    ∃ templates grouping paths registry modules,
      config.loadTemplates tree = .ok templates ∧
      config.grouping.build = .ok grouping ∧
      Layout.plan grouping.directory config.nestingLimit schema = .ok paths ∧
      templates.renderRegistry (schema.messages.map (fun message =>
        ⟨message.id, message.name, grouping.directory message.id⟩)) = .ok registry ∧
      List.Forall₂ (fun message text =>
        let document := documentation.document message.id
        ∃ blocks,
          (Blocks.ofMessage Table.full message document (.ofLimit config.nestingLimit)).1 =
            .ok blocks ∧
          templates.renderMessage message.name message.id document.title blocks = .ok text)
        schema.messages modules ∧
      let artifacts := Artifact.support ++
        ⟨Artifact.registryPath, registry⟩ :: List.zipWith Artifact.mk paths modules
      report.outputRoot = config.outputRoot ∧
      report.files = Artifact.support.map Artifact.path ++ Artifact.registryPath :: paths ∧
      artifacts.map Artifact.path = report.files ∧
      report.files.Nodup ∧
      report.digest = Digest.sha256 (artifacts.flatMap (fun artifact =>
        artifact.path.toUTF8.toList ++ [0] ++ artifact.contents.toUTF8.toList ++ [0])) ∧
      tree'.Holds location artifacts ∧
      (tree'.HoldsExactly location artifacts ↔ tree.Clears config.outputRoot artifacts) ∧
      (tree.Closed → tree.lookup tree.origin = some .directory →
        .up ∉ config.outputRoot.components.tail → tree.Clears config.outputRoot artifacts) := by
  intro config location
  obtain ⟨templates, grouping, artifacts, cleared, hready, houtput, rfl, hnodup, hreset,
    hfilled⟩ := filled_of_ok hexec
  obtain ⟨hconfig, hgrouping, ⟨paths, hplan⟩, htemplates, -⟩ := ready_eq_ok_iff.mp hready
  obtain ⟨-, -, -, hpaths⟩ := Layout.plan_eq_ok_iff.mp hplan
  have hroot := Config.endsInName_outputRoot (Config.validate_eq_ok_iff.mp hconfig)
  obtain ⟨registry, modules, rfl, hregistry, hmodules⟩ := houtput
  obtain ⟨text, htext, rfl⟩ := Run.registry_eq_ok_iff.mp hregistry
  -- what was planned and what was written go back to the same messages
  have hplanned : paths = modules.map Artifact.path :=
    hpaths.trans (IsOutput.map_path_modules hmodules).symm
  have hzip : List.zipWith Artifact.mk paths (modules.map Artifact.contents) = modules := by
    rw [hplanned, List.zipWith_map, List.zipWith_self]
    exact List.map_id' modules
  refine ⟨templates, grouping, paths, text, modules.map Artifact.contents, htemplates, hgrouping,
    hplan, htext, ?_, ?_⟩
  · rw [List.forall₂_map_right_iff]
    refine hmodules.imp ?_
    intro message artifact hartifact
    obtain ⟨blocks, text, hblocks, htext, rfl⟩ := Run.messageModule_eq_ok_iff.mp hartifact
    exact ⟨blocks, hblocks, htext⟩
  · rw [hzip]
    refine ⟨rfl, ?_, rfl, hnodup, ?_, ?_, hfilled.holdsExactly_iff, ?_⟩
    · rw [hplanned]
      exact List.map_append
    · exact congrArg Digest.sha256 (Artifact.records_eq _)
    · have hholds := hfilled.holds
      rwa [FileTree.clearedAt_origin] at hholds
    · intro hclosed horigin hup
      exact hreset.clears hroot hclosed horigin hup _

/-- Output of an older schema is replaced. -/
theorem generate_ok_replacesOutput :
    let older : FileTree := ⟨[(["jsProtocol"], .directory),
      (["jsProtocol", "Old.js"], .file "old".toUTF8)], []⟩
    let single : Schema := ⟨[⟨1, "First", [.ofKind "level" (.scalar .int)]⟩]⟩
    ∃ report generator' tree' artifacts,
      exec (generate single .empty) (ofConfig .default) older =
          ((.ok report, generator'), tree') ∧
        artifacts.map Artifact.path = report.files ∧
        tree'.HoldsExactly ["jsProtocol"] artifacts := by
  intro older single
  obtain ⟨report, generator', tree', hexec⟩ := exists_of_isOk
    (show (exec (generate single .empty) (ofConfig .default) older).1.1.isOk = true by
      decide +kernel)
  have hclosed : older.Closed := FileTree.closed_of_entries (by decide +kernel)
  have hlocation : Config.default.outputRoot.location older.origin = ["jsProtocol"] := by
    decide +kernel
  obtain ⟨templates, grouping, paths, registry, modules, -, -, -, -, -, -, -, hpaths, -, -, -,
    hexact, hclears⟩ := generate_ok hexec
  refine ⟨report, generator', tree', _, hexec, hpaths, ?_⟩
  rw [← hlocation]
  exact hexact.mpr (hclears hclosed rfl (by decide +kernel))

/-- The way `a/../b` is lost while there is no `a`, though `b` is there. Older output
in `b` is not found then, and stays among the new once `a` is made. -/
theorem generate_ok_keepsStale :
    let config : Config := { Config.default with protocolPath := ⟨"a/../b"⟩ }
    let older : FileTree := ⟨[(["b"], .directory), (["b", "jsProtocol"], .directory),
      (["b", "jsProtocol", "Old.js"], .file "old".toUTF8)], []⟩
    let single : Schema := ⟨[⟨1, "First", [.ofKind "level" (.scalar .int)]⟩]⟩
    ∃ report generator' tree',
      exec (generate single .empty) (ofConfig config) older = ((.ok report, generator'), tree') ∧
        "Old.js" ∉ report.files ∧
        tree'.lookup (config.outputRoot.location older.origin ++ ["Old.js"]) =
          some (.file "old".toUTF8) ∧
        ∀ artifacts, artifacts.map Artifact.path = report.files →
          ¬ tree'.HoldsExactly (config.outputRoot.location older.origin) artifacts := by
  intro config older single
  have hruns : (exec (generate single .empty) (ofConfig config) older).1.1.toOption.map
          Report.files =
        some ["buffer/ByteBuffer.js", "buffer/longbits.js", "ProtocolManager.js", "First.js"] ∧
      (exec (generate single .empty) (ofConfig config) older).2.lookup
        (config.outputRoot.location older.origin ++ ["Old.js"]) = some (.file "old".toUTF8) := by
    decide +kernel
  obtain ⟨hends, hstale⟩ := hruns
  rcases hexec : exec (generate single .empty) (ofConfig config) older with
    ⟨⟨result, generator'⟩, tree'⟩
  rw [hexec] at hends hstale
  cases result with
  | error fault => cases hends
  | ok report =>
      have hfiles := Option.some.inj hends
      refine ⟨report, generator', tree', rfl, ?_, hstale, ?_⟩
      · rw [hfiles]
        decide
      · intro artifacts hpaths hexact
        have hother : ∀ path ∈ report.files,
            ¬ ["Old.js"] <+: (Path.pieces path.toList).map String.ofList := by
          rw [hfiles]
          decide +kernel
        obtain ⟨artifact, hmem, hbegins⟩ := hexact.exists_artifact (by simp) hstale
        have hreported : artifact.path ∈ report.files := hpaths ▸ List.mem_map_of_mem hmem
        exact hother artifact.path hreported hbegins

end Generator

end WireScript
