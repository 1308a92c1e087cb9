import WireScript.Proofs.Artifact.Registry
import WireScript.Proofs.Emission.References
import WireScript.Proofs.Generator.Output

/-! # References between modules

The modules of a run find each other through the registry. A packet is read and
written by its number, the registry has one message for every such number, and
imports it from the file that holds its module. Validation, emission, rendering and
placement each see one side of this, and agree because all of them go back to the
messages of the schema.
-/

namespace WireScript

open Listing RegistryEntry

namespace RegistryEntry

theorem isBlankText_bucket (number : Nat) :
    Text.isBlankText ("p" ++ Text.decimal number) = false := by
  simp [Text.isBlankText, Text.isBlank]

/-- The registry imports a message from where its module is written. -/
theorem path_eq_messagePath (id : ProtocolId) (name : String) {directory : String}
    (hdirectory : directory = "" ∨ ∃ number, directory = "p" ++ Text.decimal number) :
    path ⟨id, name, directory⟩ = Layout.messagePath directory name := by
  have hextension : ".js" = "." ++ Layout.extension := rfl
  have hfile : name ++ ".js" = name ++ "." ++ Layout.extension := by
    rw [hextension, String.append_assoc]
  rcases hdirectory with rfl | ⟨number, rfl⟩
  · exact hfile
  · rw [Layout.messagePath_bucket, path, isBlankText_bucket, ← hfile]
    exact String.append_assoc

/-- The directories of a grouping that a configuration can ask for are on one line. -/
theorem notMem_directory {directory : String}
    (hdirectory : directory = "" ∨ ∃ number, directory = "p" ++ Text.decimal number) :
    '\n' ∉ directory.toList := by
  rcases hdirectory with rfl | ⟨number, rfl⟩
  · simp
  · simp [notMem_decimal]

end RegistryEntry

/-- A file that a run reports and that is in the tree it leaves. -/
structure Report.Includes (report : Report) (tree : FileTree) (location : Location)
    (artifact : Artifact) : Prop where
  reported : artifact.path ∈ report.files
  stored : tree.lookup (location ++ artifact.location) = some (.file artifact.contents.toUTF8)

/-- A run reports what it fills its output root with. -/
theorem FileTree.Filled.includes {tree tree' : FileTree} {root : Path} {artifacts : List Artifact}
    (hfilled : Filled (tree.clearedAt root) root artifacts tree') (templates : TemplateSet)
    (grouping : Grouping) {artifact : Artifact} (hartifact : artifact ∈ artifacts) :
    (Run.report ⟨root, templates, grouping, artifacts⟩).Includes tree' (root.location tree.origin)
      artifact := by
  have hstored := hfilled.files artifact hartifact
  rw [clearedAt_origin] at hstored
  exact ⟨List.mem_map_of_mem hartifact, hstored⟩

namespace Run

/-- The registry of a valid schema has an entry for every message, and registers
nothing else. -/
theorem registry_of_valid {run : Run} {policy : GroupingPolicy} {schema : Schema}
    (hembedded : run.templates = .embedded) (hbuild : policy.build = .ok run.grouping)
    (hvalid : schema.validate = .ok ()) :
    ∃ registry, run.registry schema = .ok registry ∧ registry.path = Artifact.registryPath ∧
      (∀ message ∈ schema.messages,
        RegistersOnce (ofText registry.contents) (Text.decimal message.id.toNat) message.name ∧
          ImportsOnce (ofText registry.contents) message.name
            (Layout.messagePath (run.grouping.directory message.id) message.name)) ∧
      ∀ line ∈ ofText registry.contents, begins "protocols.set(" line = true →
        ∃ message ∈ schema.messages, line = (run.registryEntry message).registration := by
  have hplain : ∀ entry ∈ schema.messages.map run.registryEntry, entry.IsPlain := by
    intro entry hentry
    obtain ⟨message, hmessage, rfl⟩ := List.mem_map.mp hentry
    exact ⟨IsWord.of_isIdentifier (Schema.isIdentifier_of_valid hvalid hmessage),
      notMem_directory (GroupingPolicy.directory_eq hbuild message.id)⟩
  have hids : ((schema.messages.map run.registryEntry).map RegistryEntry.id).Nodup := by
    rw [List.map_map]
    exact Schema.nodup_ids_of_valid hvalid
  have hnames : ((schema.messages.map run.registryEntry).map RegistryEntry.name).Nodup := by
    rw [List.map_map]
    exact Schema.nodup_names_of_valid hvalid
  obtain ⟨text, htext, hentries, hlines⟩ :=
    TemplateSet.registry_of_entries hplain hids hnames
  refine ⟨⟨Artifact.registryPath, text⟩,
    registry_eq_ok_iff.mpr ⟨text, hembedded ▸ htext, rfl⟩, rfl, ?_, ?_⟩
  · intro message hmessage
    obtain ⟨hregisters, himports⟩ := hentries _ (List.mem_map_of_mem hmessage)
    refine ⟨hregisters, ?_⟩
    rwa [registryEntry, path_eq_messagePath _ _ (GroupingPolicy.directory_eq hbuild message.id)]
      at himports
  · intro line hline hbegins
    obtain ⟨entry, hentry, rfl⟩ := hlines line hline hbegins
    obtain ⟨message, hmessage, rfl⟩ := List.mem_map.mp hentry
    exact ⟨message, hmessage, rfl⟩

end Run

/-- Every packet a valid schema's code reads or writes is a message of it. -/
theorem Blocks.exists_of_mem_packets {schema : Schema} (hvalid : schema.validate = .ok ())
    {message : Message} (hmessage : message ∈ schema.messages) {document : Document}
    {context : Context} {blocks : Blocks}
    (hblocks : (ofMessage Table.full message document context).1 = .ok blocks) {id : String}
    (hid : id ∈ packets "write" blocks.write ++ packets "read" blocks.read) :
    ∃ target ∈ schema.messages, id = Text.decimal target.id.toNat := by
  obtain ⟨-, rfl⟩ := ofMessage_full_ok_iff.mp hblocks
  obtain ⟨hwrite, hread⟩ := packets_plain message document
  rw [hwrite, hread, List.mem_append, or_self, Field.referenceTexts, List.mem_flatMap] at hid
  obtain ⟨field, hfield, hnested⟩ := hid
  obtain ⟨number, hnumber, rfl⟩ := List.mem_map.mp hnested
  obtain ⟨target, htarget, rfl⟩ := Schema.exists_of_nestedId hvalid hmessage hfield hnumber
  exact ⟨target, htarget, rfl⟩

namespace Generator

variable {schema : Schema} {documentation : Documentation} {generator generator' : Generator}
variable {tree tree' : FileTree} {report : Report}

theorem IsOutput.exists_module {run : Run} {limit : Nat} {artifacts : List Artifact}
    (houtput : IsOutput run limit schema documentation artifacts) {message : Message}
    (hmessage : message ∈ schema.messages) :
    ∃ artifact ∈ artifacts,
      run.messageModule limit message (documentation.document message.id) = .ok artifact := by
  obtain ⟨registry, modules, rfl, -, hmodules⟩ := houtput
  obtain ⟨artifact, hartifact, hmodule⟩ := exists_of_mem_forall₂ hmodules.flip hmessage
  exact ⟨artifact, by simp [hartifact], hmodule⟩

/-- Every packet a run's code reads or writes is registered once, and every
registered name is imported once, from the file of the run that defines and exports
it. -/
theorem generate_resolves (hembedded : generator.config.templateDirectory = none)
    (hexec : exec (generate schema documentation) generator tree =
      ((.ok report, generator'), tree')) :
    let config := generator.config
    let location := config.outputRoot.location tree.origin
    ∃ registry, registry.path = Artifact.registryPath ∧
      report.Includes tree' location registry ∧
      (∀ message ∈ schema.messages, ∃ blocks artifact,
        (Blocks.ofMessage Table.full message (documentation.document message.id)
          (.ofLimit config.nestingLimit)).1 = .ok blocks ∧
        TemplateSet.embedded.renderMessage message.name message.id
          (documentation.document message.id).title blocks = .ok artifact.contents ∧
        report.Includes tree' location artifact ∧
        ∀ id ∈ packets "write" blocks.write ++ packets "read" blocks.read, ∃ number name,
          id = Text.decimal number ∧ number ≤ 32767 ∧
            RegistersOnce (ofText registry.contents) id name) ∧
      ∀ line ∈ ofText registry.contents, begins "protocols.set(" line = true →
        ∃ number name artifact,
          line = "protocols.set(" ++ Text.decimal number ++ ", " ++ name ++ ");" ∧
          ImportsOnce (ofText registry.contents) name artifact.path ∧
          report.Includes tree' location artifact ∧
          (∃ start ∈ ofText artifact.contents,
            begins ("const " ++ name ++ " = function(") start = true) ∧
          "export default " ++ name ++ ";" ∈ ofText artifact.contents := by
  intro config location
  obtain ⟨templates, grouping, artifacts, -, hready, houtput, rfl, -, -, hfilled⟩ :=
    filled_of_ok hexec
  obtain ⟨rfl, hgrouping, hvalid⟩ := ready_embedded hembedded hready
  let run : Run := ⟨config.outputRoot, .embedded, grouping, []⟩
  obtain ⟨registry, hregistry, hpath, hentries, hlines⟩ :=
    @Run.registry_of_valid run _ _ rfl hgrouping hvalid
  -- the registry that was written is the one made from the messages
  have hwritten : registry ∈ artifacts := by
    obtain ⟨registry', modules, rfl, hsame, -⟩ := houtput
    rw [Except.ok.inj (hregistry.symm.trans hsame)]
    simp
  refine ⟨registry, hpath, hfilled.includes _ _ hwritten, ?_, ?_⟩
  · intro message hmessage
    obtain ⟨artifact, hartifact, hmodule⟩ := houtput.exists_module hmessage
    obtain ⟨blocks, text, hblocks, htext, rfl⟩ := Run.messageModule_eq_ok_iff.mp hmodule
    refine ⟨blocks, _, hblocks, htext, hfilled.includes _ _ hartifact, ?_⟩
    -- a number in the code is a reference of a field, and so a message of the schema
    intro id hid
    obtain ⟨target, htarget, rfl⟩ := Blocks.exists_of_mem_packets hvalid hmessage hblocks hid
    exact ⟨target.id.toNat, target.name, rfl,
      UInt16.le_iff_toNat_le.mp (Schema.id_le_of_valid hvalid htarget),
      (hentries target htarget).1⟩
  · intro line hline hbegins
    obtain ⟨message, hmessage, rfl⟩ := hlines line hline hbegins
    obtain ⟨artifact, hartifact, hmodule⟩ := houtput.exists_module hmessage
    obtain ⟨blocks, text, -, htext, hartifactPath⟩ := Run.messageModule_eq_ok_iff.mp hmodule
    have himports := (hentries message hmessage).2
    obtain ⟨hdefines, hexports⟩ := TemplateSet.renderMessage_lines
      (IsWord.of_isIdentifier (Schema.isIdentifier_of_valid hvalid hmessage)) htext
    refine ⟨message.id.toNat, message.name, artifact, rfl, ?_, hfilled.includes _ _ hartifact, ?_⟩
    · rw [hartifactPath]
      exact himports
    · rw [hartifactPath]
      exact ⟨hdefines, hexports⟩

/-- Two messages in different directories that refer to each other. -/
theorem generate_resolves_mutual :
    let config : Config := { Config.default with grouping := .bucket 10 }
    let schema : Schema := ⟨[⟨3, "Party", [.ofKind "members" (.sequence .list (.message 12))]⟩,
      ⟨12, "Player", [.ofKind "party" (.message 3)]⟩]⟩
    ∃ report generator' tree' registry,
      exec (generate schema .empty) (ofConfig config) ⟨[], []⟩ = ((.ok report, generator'), tree') ∧
        report.Includes tree' ["jsProtocol"] registry ∧
        ∃ name, RegistersOnce (ofText registry.contents) "12" name := by
  intro config schema
  obtain ⟨report, generator', tree', hexec⟩ := exists_of_isOk
    (show (exec (generate schema .empty) (ofConfig config) ⟨[], []⟩).1.1.isOk = true by
      decide +kernel)
  have hlocation : config.outputRoot.location [] = ["jsProtocol"] := by decide +kernel
  obtain ⟨registry, -, hregistry, hmessages, -⟩ := generate_resolves rfl hexec
  obtain ⟨blocks, artifact, hblocks, -, -, hpackets⟩ := hmessages _ List.mem_cons_self
  obtain ⟨-, rfl⟩ := Blocks.ofMessage_full_ok_iff.mp hblocks
  have hmember : "12" ∈ Field.referenceTexts
      [.ofKind "members" (.sequence .list (.message 12))] := by
    decide +kernel
  rw [(Blocks.packets_plain _ _).1] at hpackets
  obtain ⟨number, name, -, -, hregisters⟩ := hpackets "12" (List.mem_append_left _ hmember)
  exact ⟨report, generator', tree', registry, hexec, hlocation ▸ hregistry, name, hregisters⟩

end Generator

end WireScript
