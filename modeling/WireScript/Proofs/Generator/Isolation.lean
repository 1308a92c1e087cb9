import WireScript.Proofs.Generator.Carrying
import WireScript.Proofs.Generator.References

/-! # Isolation of messages

The module of a message depends on the message, on what its document says of it, and on
the message template. Nothing else of a run has a part in it, neither the other messages
nor the settings, the files from before, or what the generator did until then.
-/

namespace WireScript

/-- Documents that say the same of a message. -/
structure Document.AgreeOn (message : Message) (first second : Document) : Prop where
  title : first.title = second.title
  comments : ∀ field ∈ message.fields, first.field? field.name = second.field? field.name

theorem Blocks.plain_congr {message : Message} {first second : Document}
    (hagree : Document.AgreeOn message first second) :
    plain message first = plain message second := by
  have hlines : message.fields.flatMap (constructorLines first) =
      message.fields.flatMap (constructorLines second) := by
    refine List.flatMap_congr ?_
    intro field hfield
    rw [constructorLines, constructorLines, hagree.comments field hfield]
  rw [plain, plain, constructorBlock, constructorBlock, hlines]

theorem TemplateSet.renderMessage_congr {first second : TemplateSet}
    (htemplate : first.message = second.message) (name : String) (id : ProtocolId)
    (title : String) (blocks : Blocks) :
    first.renderMessage name id title blocks = second.renderMessage name id title blocks := by
  rw [renderMessage, renderMessage, htemplate]

/-- Modules of one message have one text when its documents agree and the templates are
the same, whatever the runs they belong to. -/
theorem Run.contents_eq {run run' : Run} {limit limit' : Nat} {message : Message}
    {document document' : Document} {artifact artifact' : Artifact}
    (hmodule : run.messageModule limit message document = .ok artifact)
    (hmodule' : run'.messageModule limit' message document' = .ok artifact')
    (htemplate : run.templates.message = run'.templates.message)
    (hagree : Document.AgreeOn message document document') :
    artifact.contents = artifact'.contents := by
  obtain ⟨blocks, text, hblocks, htext, rfl⟩ := messageModule_eq_ok_iff.mp hmodule
  obtain ⟨blocks', text', hblocks', htext', rfl⟩ := messageModule_eq_ok_iff.mp hmodule'
  obtain ⟨-, rfl⟩ := Blocks.ofMessage_full_ok_iff.mp hblocks
  obtain ⟨-, rfl⟩ := Blocks.ofMessage_full_ok_iff.mp hblocks'
  rw [TemplateSet.renderMessage_congr htemplate, hagree.title, Blocks.plain_congr hagree] at htext
  exact Except.ok.inj (htext.symm.trans htext')

namespace Generator

variable {schema schema' : Schema} {documentation documentation' : Documentation}
variable {generator generator' after after' : Generator} {tree tree' left left' : FileTree}
variable {report report' : Report} {message : Message}

/-- A run that ends well includes the module of each message at its path. -/
theorem exists_module_of_ok
    (hexec : exec (generate schema documentation) generator tree = ((.ok report, after), left))
    (hmessage : message ∈ schema.messages) :
    let config := generator.config
    ∃ templates grouping contents, config.loadTemplates tree = .ok templates ∧
      config.grouping.build = .ok grouping ∧
      Run.messageModule ⟨config.outputRoot, templates, grouping, []⟩ config.nestingLimit message
          (documentation.document message.id) =
        .ok ⟨Layout.messagePath (grouping.directory message.id) message.name, contents⟩ ∧
      report.Includes left (config.outputRoot.location tree.origin)
        ⟨Layout.messagePath (grouping.directory message.id) message.name, contents⟩ := by
  obtain ⟨templates, grouping, artifacts, -, hready, houtput, rfl, -, -, hfilled⟩ :=
    filled_of_ok hexec
  obtain ⟨-, hgrouping, -, htemplates, -⟩ := ready_eq_ok_iff.mp hready
  obtain ⟨artifact, hartifact, hmodule⟩ := houtput.exists_module hmessage
  obtain ⟨-, text, -, -, rfl⟩ := Run.messageModule_eq_ok_iff.mp hmodule
  exact ⟨templates, grouping, text, htemplates, hgrouping, hmodule,
    hfilled.includes _ _ hartifact⟩

/-- Two runs that end well give a message the same module when both know it, their
documents agree on it, and their message templates are the same. Each run is the same as
one that carries a context through its messages, whatever was in the context before. -/
theorem generate_isolated
    (hfirst : exec (generate schema documentation) generator tree = ((.ok report, after), left))
    (hsecond : exec (generate schema' documentation') generator' tree' =
      ((.ok report', after'), left'))
    (htemplate : (generator.config.loadTemplates tree).map TemplateSet.message =
      (generator'.config.loadTemplates tree').map TemplateSet.message)
    (hmessage : message ∈ schema.messages) (hmessage' : message ∈ schema'.messages)
    (hagree : Document.AgreeOn message (documentation.document message.id)
      (documentation'.document message.id)) :
    (∀ context : Context,
      exec (generateFrom context schema documentation) generator tree =
          ((.ok report, after), left) ∧
        exec (generateFrom context schema' documentation') generator' tree' =
          ((.ok report', after'), left')) ∧
      ∃ grouping grouping' contents,
        generator.config.grouping.build = .ok grouping ∧
        generator'.config.grouping.build = .ok grouping' ∧
        report.Includes left (generator.config.outputRoot.location tree.origin)
          ⟨Layout.messagePath (grouping.directory message.id) message.name, contents⟩ ∧
        report'.Includes left' (generator'.config.outputRoot.location tree'.origin)
          ⟨Layout.messagePath (grouping'.directory message.id) message.name, contents⟩ := by
  refine ⟨fun context => ?_, ?_⟩
  · rw [generateFrom_eq, generateFrom_eq]
    exact ⟨hfirst, hsecond⟩
  · obtain ⟨templates, grouping, contents, htemplates, hbuild, hmodule, hincludes⟩ :=
      exists_module_of_ok hfirst hmessage
    obtain ⟨templates', grouping', contents', htemplates', hbuild', hmodule', hincludes'⟩ :=
      exists_module_of_ok hsecond hmessage'
    rw [htemplates, htemplates'] at htemplate
    have hcontents : contents = contents' :=
      Run.contents_eq hmodule hmodule' (Except.ok.inj htemplate) hagree
    exact ⟨grouping, grouping', contents, hbuild, hbuild', hincludes, hcontents ▸ hincludes'⟩

/-- A message alone in a fresh tree, and behind another one that refers to it, in another
directory, over an older output, from a generator with a run of its own. -/
theorem generate_isolated_regrouped :
    let message : Message := ⟨1, "First", [.ofKind "level" (.scalar .int)]⟩
    let other : Message := ⟨25, "Second", [.ofKind "firsts" (.sequence .list (.message 1))]⟩
    let config : Config :=
      { Config.default with outputName := "packets", grouping := .bucket 10, nestingLimit := 40 }
    let generator : Generator := ⟨config, some ⟨⟨"old"⟩, .embedded, .flat, []⟩⟩
    let tree : FileTree :=
      ⟨[(["packets"], .directory), (["packets", "First.js"], .file ⟨#[1]⟩)], []⟩
    let documentation := Documentation.empty.insert 25 (Document.empty.comment "firsts" "Others.")
    ∃ report report' after after' left left' contents,
      exec (generate ⟨[message]⟩ .empty) (ofConfig .default) ⟨[], []⟩ =
          ((.ok report, after), left) ∧
        exec (generate ⟨[other, message]⟩ documentation) generator tree =
          ((.ok report', after'), left') ∧
        report.Includes left ["jsProtocol"] ⟨"First.js", contents⟩ ∧
        report'.Includes left' ["packets"] ⟨"p0/First.js", contents⟩ := by
  intro message other config generator tree documentation
  obtain ⟨report, after, left, hfirst⟩ := exists_of_isOk
    (show (exec (generate ⟨[message]⟩ .empty) (ofConfig .default) ⟨[], []⟩).1.1.isOk = true by
      decide +kernel)
  obtain ⟨report', after', left', hsecond⟩ := exists_of_isOk
    (show (exec (generate ⟨[other, message]⟩ documentation) generator tree).1.1.isOk = true by
      decide +kernel)
  have hlocation : Config.default.outputRoot.location [] = ["jsProtocol"] := by decide +kernel
  have hlocation' : config.outputRoot.location [] = ["packets"] := by decide +kernel
  have hpath : Layout.messagePath ((Grouping.buckets 10 (by decide)).directory 1) "First" =
      "p0/First.js" := by
    decide +kernel
  have hagree : Document.AgreeOn message (Documentation.empty.document message.id)
      (documentation.document message.id) :=
    ⟨by decide, by decide⟩
  obtain ⟨-, grouping, grouping', contents, hbuild, hbuild', hincludes, hincludes'⟩ :=
    generate_isolated hfirst hsecond rfl (by simp) (by simp) hagree
  obtain rfl := Except.ok.inj hbuild
  obtain rfl := Except.ok.inj hbuild'
  exact ⟨report, report', after, after', left, left', contents, hfirst, hsecond,
    hlocation ▸ hincludes, hlocation' ▸ hpath ▸ hincludes'⟩

end Generator

end WireScript
