import WireScript.Proofs.Artifact.Markers

/-! # Runs without leftover markers

A run by the embedded templates leaves a marker in the module of a message exactly when a
text the module shows has one. The registry shows no free text and never has any.
-/

namespace WireScript

open Template

/-- Items are judged alike on both sides of a list of pairs. -/
theorem forall_mem_iff_of_forall₂ {α β : Type} {p : α → Prop} {q : β → Prop} {items : List α}
    {others : List β} (hpairs : List.Forall₂ (fun item other => p item ↔ q other) items others) :
    (∀ item ∈ items, p item) ↔ ∀ other ∈ others, q other := by
  induction hpairs with
  | nil => simp
  | cons hpair _ ih => rw [List.forall_mem_cons, List.forall_mem_cons, hpair, ih]

namespace Run

variable {run : Run} {artifact : Artifact}

/-- The registry of a valid schema is given words only. -/
theorem notMem_registryEntry {policy : GroupingPolicy} {schema : Schema}
    (hbuild : policy.build = .ok run.grouping) (hvalid : schema.validate = .ok ()) {c : Char}
    (hc : Listing.inWord c = false) :
    (∀ entry ∈ schema.messages.map run.registryEntry, c ∉ entry.name.toList) ∧
      ∀ entry ∈ schema.messages.map run.registryEntry, c ∉ entry.directory.toList := by
  rw [List.forall_mem_map, List.forall_mem_map]
  constructor <;> intro message hmessage
  · have hword := Listing.IsWord.of_isIdentifier (Schema.isIdentifier_of_valid hvalid hmessage)
    exact hword.notMem hc
  · have hp : c ∉ "p".toList := fun hmem => by
      obtain rfl := List.mem_singleton.mp hmem
      cases hc
    rcases GroupingPolicy.directory_eq hbuild message.id with hdirectory | ⟨number, hdirectory⟩
    · simp [registryEntry, hdirectory]
    · have hnumber := (Listing.IsWord.decimal number).notMem hc
      rw [registryEntry, hdirectory, String.toList_append, List.mem_append, not_or]
      exact ⟨hp, hnumber⟩

/-- The registry of a valid schema has no marker. -/
theorem not_isMarked_registry {policy : GroupingPolicy} {schema : Schema}
    (hembedded : run.templates = .embedded) (hbuild : policy.build = .ok run.grouping)
    (hvalid : schema.validate = .ok ()) (hregistry : run.registry schema = .ok artifact) :
    ¬ IsMarked artifact.contents.toList := by
  obtain ⟨text, htext, rfl⟩ := registry_eq_ok_iff.mp hregistry
  rw [hembedded] at htext
  obtain ⟨hnames, hdirectories⟩ := notMem_registryEntry hbuild hvalid (c := '\x7b') rfl
  exact TemplateSet.not_isMarked_renderRegistry hnames hdirectories htext

/-- The module of a message of a valid schema has the markers of the texts it shows. -/
theorem isMarked_messageModule_iff {limit : Nat} {schema : Schema} {message : Message}
    {document : Document} (hembedded : run.templates = .embedded)
    (hvalid : schema.validate = .ok ()) (hmessage : message ∈ schema.messages)
    (hmodule : run.messageModule limit message document = .ok artifact) :
    IsMarked artifact.contents.toList ↔
      ∃ shown ∈ document.title :: Blocks.fieldTexts document message.fields,
        IsMarked shown.toList := by
  obtain ⟨blocks, text, hblocks, htext, rfl⟩ := messageModule_eq_ok_iff.mp hmodule
  obtain ⟨-, rfl⟩ := Blocks.ofMessage_full_ok_iff.mp hblocks
  rw [hembedded] at htext
  exact TemplateSet.isMarked_renderMessage_iff (Schema.isIdentifier_of_valid hvalid hmessage)
    (fun field hfield => Schema.field_isIdentifier_of_valid hvalid hmessage hfield) htext

end Run

namespace Generator

variable {schema : Schema} {documentation : Documentation} {generator generator' : Generator}
variable {tree tree' : FileTree} {report : Report}

/-- A run by the embedded templates leaves no marker in the registry, and in the module of
a message only those of its title, the comments on its fields and their types. -/
theorem generate_unmarked (hembedded : generator.config.templateDirectory = none)
    (hexec : exec (generate schema documentation) generator tree =
      ((.ok report, generator'), tree')) :
    let location := generator.config.outputRoot.location tree.origin
    ∃ grouping registry modules,
      generator.config.grouping.build = .ok grouping ∧ registry.path = Artifact.registryPath ∧
      report.files = (Artifact.support ++ registry :: modules).map Artifact.path ∧
      (∀ artifact ∈ registry :: modules, report.Includes tree' location artifact) ∧
      ¬ IsMarked registry.contents.toList ∧
      List.Forall₂ (fun message artifact =>
        artifact.path = Layout.messagePath (grouping.directory message.id) message.name ∧
        (IsMarked artifact.contents.toList ↔
          let document := documentation.document message.id
          ∃ shown ∈ document.title :: Blocks.fieldTexts document message.fields,
            IsMarked shown.toList)) schema.messages modules ∧
      ((∀ message ∈ schema.messages,
        let document := documentation.document message.id
        ∀ shown ∈ document.title :: Blocks.fieldTexts document message.fields,
          ¬ IsMarked shown.toList) ↔
        ∀ artifact ∈ registry :: modules, ¬ IsMarked artifact.contents.toList) := by
  intro location
  obtain ⟨templates, grouping, artifacts, -, hready, houtput, rfl, -, -, hfilled⟩ :=
    filled_of_ok hexec
  obtain ⟨rfl, hgrouping, hvalid⟩ := ready_embedded hembedded hready
  obtain ⟨registry, modules, rfl, hregistry, hmodules⟩ := houtput
  have hclean := Run.not_isMarked_registry rfl hgrouping hvalid hregistry
  obtain ⟨_, -, hregistryIs⟩ := Run.registry_eq_ok_iff.mp hregistry
  have hmembers := (List.forall₂_and_left _ _).mpr ⟨fun _ => id, hmodules⟩
  refine ⟨grouping, registry, modules, hgrouping, hregistryIs ▸ rfl, rfl, ?_, hclean, ?_, ?_⟩
  · intro artifact hartifact
    exact hfilled.includes _ _ (List.mem_append_right _ hartifact)
  · refine hmembers.imp fun message artifact hmember => ?_
    obtain ⟨hmessage, hmodule⟩ := hmember
    constructor
    · obtain ⟨_, _, -, -, rfl⟩ := Run.messageModule_eq_ok_iff.mp hmodule
      rfl
    · exact Run.isMarked_messageModule_iff rfl hvalid hmessage hmodule
  · rw [List.forall_mem_cons, and_iff_right hclean]
    refine forall_mem_iff_of_forall₂ (hmembers.imp fun message artifact hmember => ?_)
    obtain ⟨hmessage, hmodule⟩ := hmember
    rw [Run.isMarked_messageModule_iff rfl hvalid hmessage hmodule]
    simp

/-- Texts that have both braces, with a blank or the end of a line between them. -/
theorem generate_unmarked_braces :
    let config : Config := { Config.default with grouping := .bucket 10 }
    let schema : Schema := ⟨[⟨3, "Party", [⟨"members", "list<\x7b \x7d>",
      .sequence .list (.message 12), false⟩]⟩, ⟨12, "Player", []⟩]⟩
    let document : Document := ⟨"\x7b\n\x7d", [("members", "(\x7b\t\x7d)")]⟩
    ∃ report generator' tree' registry modules,
      exec (generate schema (Documentation.empty.insert 3 document)) (ofConfig config) ⟨[], []⟩ =
          ((.ok report, generator'), tree') ∧
        report.files = (Artifact.support ++ registry :: modules).map Artifact.path ∧
        ∀ artifact ∈ registry :: modules, ¬ IsMarked artifact.contents.toList := by
  intro config schema document
  obtain ⟨report, generator', tree', hexec⟩ := exists_of_isOk
    (show (exec (generate schema (Documentation.empty.insert 3 document)) (ofConfig config)
      ⟨[], []⟩).1.1.isOk = true by decide +kernel)
  obtain ⟨_, registry, modules, -, -, hfiles, -, -, -, hiff⟩ := generate_unmarked rfl hexec
  refine ⟨report, generator', tree', registry, modules, hexec, hfiles, hiff.mp ?_⟩
  have hshown : ∀ message ∈ schema.messages,
      ∀ shown ∈ ((Documentation.empty.insert 3 document).document message.id).title ::
        Blocks.fieldTexts ((Documentation.empty.insert 3 document).document message.id)
          message.fields, ¬ Text.Adjacent '\x7b' '\x7d' shown.toList := by
    decide +kernel
  exact hshown

end Generator

end WireScript
