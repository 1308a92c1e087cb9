import WireScript.Proofs.Artifact.Sealed
import WireScript.Proofs.Generator.Completion
import WireScript.Proofs.Generator.Markers

/-! # Digests of runs

A run is told from others by the bytes its report digests, unless a zero in the contents
of one of its files passes for the end of the file. The embedded templates leave no such
file, whatever the messages and their documents are; templates read from a directory can.
-/

namespace WireScript

theorem eq_ok_of_toOption {ε α : Type} {result : Except ε α} {value : α}
    (hvalue : result.toOption = some value) : result = .ok value := by
  cases result with
  | error fault => cases hvalue
  | ok other => exact congrArg _ (Option.some.inj hvalue)

namespace Run

variable {run : Run} {artifact : Artifact}

/-- The registry of a valid schema is sealed. -/
theorem isSealed_registry {policy : GroupingPolicy} {schema : Schema}
    (hembedded : run.templates = .embedded) (hbuild : policy.build = .ok run.grouping)
    (hvalid : schema.validate = .ok ()) (hregistry : run.registry schema = .ok artifact) :
    Artifact.IsSealed artifact.contents := by
  obtain ⟨text, htext, rfl⟩ := registry_eq_ok_iff.mp hregistry
  rw [hembedded] at htext
  obtain ⟨hnames, hdirectories⟩ := notMem_registryEntry hbuild hvalid (c := '\x00') rfl
  exact TemplateSet.isSealed_renderRegistry hnames hdirectories htext

/-- The module of a message of a valid schema is sealed. -/
theorem isSealed_messageModule {limit : Nat} {schema : Schema} {message : Message}
    {document : Document} (hembedded : run.templates = .embedded)
    (hvalid : schema.validate = .ok ()) (hmessage : message ∈ schema.messages)
    (hmodule : run.messageModule limit message document = .ok artifact) :
    Artifact.IsSealed artifact.contents := by
  obtain ⟨blocks, text, hblocks, htext, rfl⟩ := messageModule_eq_ok_iff.mp hmodule
  obtain ⟨-, rfl⟩ := Blocks.ofMessage_full_ok_iff.mp hblocks
  rw [hembedded] at htext
  exact TemplateSet.isSealed_renderMessage (Schema.isIdentifier_of_valid hvalid hmessage)
    (fun field hfield => Schema.field_isIdentifier_of_valid hvalid hmessage hfield) htext

end Run

namespace Generator

variable {config : Config} {schema : Schema} {documentation : Documentation}
variable {report report' : Report} {first second artifacts : List Artifact}

/-- What a whole run by the embedded templates writes behind the support files is sealed. -/
theorem Generates.isSealed (hembedded : config.templateDirectory = none)
    (hgenerates : Generates config schema documentation report artifacts) :
    ∃ rest, artifacts = Artifact.support ++ rest ∧
      ∀ artifact ∈ rest, Artifact.IsSealed artifact.contents := by
  obtain ⟨tree, templates, grouping, hready, houtput, -⟩ := hgenerates.isOutput
  obtain ⟨rfl, hgrouping, hvalid⟩ := ready_embedded hembedded hready
  obtain ⟨registry, modules, rfl, hregistry, hmodules⟩ := houtput
  refine ⟨registry :: modules, rfl, ?_⟩
  have hsealed : ∀ artifact ∈ modules, Artifact.IsSealed artifact.contents := by
    intro artifact hartifact
    obtain ⟨message, hmessage, hmodule⟩ := exists_of_mem_forall₂ hmodules hartifact
    exact Run.isSealed_messageModule rfl hvalid hmessage hmodule
  rw [List.forall_mem_cons]
  exact ⟨Run.isSealed_registry rfl hgrouping hvalid hregistry, hsealed⟩

/-- The bytes that two completed runs digest are the same exactly when the runs wrote the
same files in the same order, or go apart at the contents of a file that hold a zero in
one of them, behind which they are read as further files. So runs whose contents have no
zero are known from their bytes, and so are whole runs by the embedded templates, whatever
their schemas, documents and settings. -/
theorem records_determine (hfirst : Completes report first) (hsecond : Completes report' second) :
    (report.digest = Digest.sha256 (Artifact.records first) ∧
      report'.digest = Digest.sha256 (Artifact.records second)) ∧
    (Artifact.records first = Artifact.records second ↔
      first = second ∨ Artifact.Reframes first second ∨ Artifact.Reframes second first) ∧
    ((∀ artifact ∈ first ++ second, '\x00' ∉ artifact.contents.toList) →
      (Artifact.records first = Artifact.records second ↔ first = second)) ∧
    ∀ config config' schema schema' documentation documentation',
      Generates config schema documentation report first →
      Generates config' schema' documentation' report' second →
      config.templateDirectory = none → config'.templateDirectory = none →
        (Artifact.records first = Artifact.records second ↔ first = second) := by
  obtain ⟨-, hdigest, hpaths⟩ := hfirst.digests
  obtain ⟨-, hdigest', hpaths'⟩ := hsecond.digests
  refine ⟨⟨hdigest, hdigest'⟩, Artifact.records_eq_iff hpaths hpaths', fun hzero => ?_, ?_⟩
  · obtain ⟨hzero, hzero'⟩ := List.forall_mem_append.mp hzero
    exact Artifact.records_inj_of_notMem hpaths hpaths' hzero hzero'
  · intro config config' schema schema' documentation documentation' hgenerates hgenerates'
      hembedded hembedded'
    -- the support files in front are the same
    obtain ⟨rest, rfl, hsealed⟩ := hgenerates.isSealed hembedded
    obtain ⟨rest', rfl, hsealed'⟩ := hgenerates'.isSealed hembedded'
    rw [Artifact.records_append, Artifact.records_append, List.append_cancel_left_eq,
      List.append_cancel_left_eq]
    exact Artifact.records_inj_of_isSealed (List.forall_mem_append.mp hpaths).2
      (List.forall_mem_append.mp hpaths').2 hsealed hsealed'

/-- A title that names a file between zeros does not pass for one. -/
theorem records_determine_titled :
    let config : Config := { Config.default with grouping := .bucket 10 }
    let single : Schema := ⟨[⟨1, "Ping", []⟩]⟩
    let both : Schema := ⟨[⟨1, "Ping", []⟩, ⟨2, "Pong", []⟩]⟩
    let titled : Documentation := Documentation.empty.insert 1 ⟨"\x00Pong.js\x00", []⟩
    ∃ report report' first second,
      Generates .default single titled report first ∧ Generates config both .empty report' second ∧
        Artifact.records first ≠ Artifact.records second := by
  intro config single both titled
  obtain ⟨report, after, left, hexec⟩ := exists_of_isOk
    (show (exec (generate single titled) (ofConfig .default) ⟨[], []⟩).1.1.isOk = true by
      decide +kernel)
  obtain ⟨report', after', left', hexec'⟩ := exists_of_isOk
    (show (exec (generate both .empty) (ofConfig config) ⟨[], []⟩).1.1.isOk = true by
      decide +kernel)
  obtain ⟨first, hfirst⟩ := exists_generates hexec
  obtain ⟨second, hsecond⟩ := exists_generates hexec'
  refine ⟨report, report', first, second, hfirst, hsecond, fun hrecords => ?_⟩
  obtain ⟨-, -, -, hembedded⟩ := records_determine (.generate hfirst) (.generate hsecond)
  obtain rfl := (hembedded _ _ _ _ _ _ hfirst hsecond rfl rfl).mp hrecords
  obtain ⟨_, _, _, -, houtput, -⟩ := hfirst.isOutput
  obtain ⟨_, _, _, -, houtput', -⟩ := hsecond.isOutput
  have hlength := congrArg List.length (houtput.map_path.symm.trans houtput'.map_path)
  simp [Layout.messagePaths, single, both] at hlength

/-- A message template can end its module with a zero and go on with the path and the module
of another message. A run by it and one that writes both modules digest the same bytes. -/
theorem records_repeat :
    let config : Config := { Config.default with templateDirectory := some ⟨"templates"⟩ }
    let plain : TemplateSet := ⟨⟨Template.messageFile, "", List.replicate 12 ""⟩,
      ⟨Template.registryFile, "", ["", ""]⟩⟩
    let crafted : TemplateSet :=
      ⟨⟨Template.messageFile, "", List.replicate 11 "" ++ ["\x00B.js\x00BB2BBBB"]⟩,
        ⟨Template.registryFile, "", ["\nimport B from './B.js';", "\nprotocols.set(2, B);"]⟩⟩
    let tree (set : TemplateSet) : FileTree := ⟨[(["templates"], .directory),
      (["templates", Template.messageFile], .file set.message.text.toUTF8),
      (["templates", Template.registryFile], .file set.registry.text.toUTF8)], []⟩
    let single : Schema := ⟨[⟨1, "A", []⟩]⟩
    let both : Schema := ⟨[⟨1, "A", []⟩, ⟨2, "B", []⟩]⟩
    ∃ report report' after after' left left' first second,
      exec (generate single .empty) (ofConfig config) (tree crafted) =
          ((.ok report, after), left) ∧
        exec (generate both .empty) (ofConfig config) (tree plain) =
          ((.ok report', after'), left') ∧
        Completes report first ∧ Completes report' second ∧
        Artifact.records first = Artifact.records second ∧ report.digest = report'.digest ∧
        first ≠ second := by
  intro config plain crafted tree single both
  let registry : Artifact := ⟨Artifact.registryPath, "import A from './A.js';\n" ++
    "import B from './B.js';protocols.set(1, A);\nprotocols.set(2, B);"⟩
  have hcrafted : config.loadTemplates (tree crafted) = .ok crafted :=
    eq_ok_of_toOption (by decide +kernel)
  have hplain : config.loadTemplates (tree plain) = .ok plain :=
    eq_ok_of_toOption (by decide +kernel)
  obtain ⟨report, after, left, hexec⟩ := exists_of_isOk
    (show (exec (generate single .empty) (ofConfig config) (tree crafted)).1.1.isOk = true by
      decide +kernel)
  obtain ⟨report', after', left', hexec'⟩ := exists_of_isOk
    (show (exec (generate both .empty) (ofConfig config) (tree plain)).1.1.isOk = true by
      decide +kernel)
  have hfirst := Generates.of_isOutput hexec hcrafted rfl
    ⟨registry, [⟨"A.js", "AA1AAAA\x00B.js\x00BB2BBBB"⟩], rfl,
      eq_ok_of_toOption (by decide +kernel),
      .cons (eq_ok_of_toOption (by decide +kernel)) .nil⟩
  have hsecond := Generates.of_isOutput hexec' hplain rfl
    ⟨registry, [⟨"A.js", "AA1AAAA"⟩, ⟨"B.js", "BB2BBBB"⟩], rfl,
      eq_ok_of_toOption (by decide +kernel),
      .cons (eq_ok_of_toOption (by decide +kernel))
        (.cons (eq_ok_of_toOption (by decide +kernel)) .nil)⟩
  obtain ⟨-, hdigest, -⟩ := (Completes.generate hfirst).digests
  obtain ⟨-, hdigest', -⟩ := (Completes.generate hsecond).digests
  have hrecords : Artifact.records
        (Artifact.support ++ registry :: [⟨"A.js", "AA1AAAA\x00B.js\x00BB2BBBB"⟩]) =
      Artifact.records
        (Artifact.support ++ registry :: [⟨"A.js", "AA1AAAA"⟩, ⟨"B.js", "BB2BBBB"⟩]) := by
    rw [Artifact.records_append, Artifact.records_append, List.append_cancel_left_eq]
    decide +kernel
  exact ⟨report, report', after, after', left, left', _, _, hexec, hexec', .generate hfirst,
    .generate hsecond, hrecords, by rw [hdigest, hdigest', hrecords], by simp⟩

end Generator

end WireScript
