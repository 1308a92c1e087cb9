import WireScript.Proofs.Emission.Consumption
import WireScript.Proofs.Emission.Numbering
import WireScript.Proofs.Emission.Scope
import WireScript.Proofs.Schema.Validity

/-! # Hygiene of generated code

The temporaries of a message's blocks are distinct, stand where they are in
scope, hand every value on once, and meet no name that the generated modules have
another use for. Validation keeps the names of temporaries from messages, so this
holds of every message of a valid schema that nests no deeper than allowed.
-/

namespace WireScript

open Listing

/-- What the write and read blocks of a message keep to in their temporaries. -/
structure Hygienic (schema : Schema) (message : Message) (write read : List String) : Prop where
  /-- No name is introduced twice, not even by one block each. -/
  introducedOnce : (introductions (write ++ read)).Nodup
  /-- Temporaries are written about only behind their introduction, in its block. -/
  scopedWrite : Scoped write
  scopedRead : Scoped read
  /-- Results go to the container of the loop around, or to their own field. -/
  settled : Settled (message.fields.map Field.name) read
  consumedOnce : ∀ result ∈ read.flatMap results, (read.flatMap consumed).count result = 1
  temporary : ∀ name ∈ introductions (write ++ read), Name.isTemporary name = true
  notMessage : ∀ name ∈ introductions (write ++ read), ∀ other ∈ schema.messages,
    name ≠ other.name
  notReserved : ∀ name ∈ introductions (write ++ read), name ∉ Name.reserved

theorem Name.isTemporary_of_mem_reserved {name : String} (hname : name ∈ reserved) :
    isTemporary name = false := by
  have hnames : ∀ name ∈ reserved, isTemporary name = false := by decide +kernel
  exact hnames name hname

namespace Listing

theorem results_sublist (lines : List String) :
    (lines.flatMap results).Sublist (introductions lines) := by
  induction lines with
  | nil => exact List.Sublist.refl _
  | cons text lines ih =>
      rw [List.flatMap_cons, introductions, List.flatMap_cons]
      exact List.filter_sublist.append ih

/-- A result introduced once in settled code is consumed once. -/
theorem Settled.count_consumed {fields lines : List String} (hlines : Settled fields lines)
    (hnodup : (introductions lines).Nodup) {result : String}
    (hresult : result ∈ lines.flatMap results) : (lines.flatMap consumed).count result = 1 := by
  rw [hlines.perm.count_eq]
  have hresults := (results_sublist lines).nodup hnodup
  exact List.count_eq_one_of_mem hresults hresult

end Listing

namespace Blocks

/-- The blocks of every message of a valid schema are hygienic. -/
theorem ofMessage_hygienic {schema : Schema} (hvalid : schema.validate = .ok ())
    {message : Message} (hmessage : message ∈ schema.messages) {context : Context}
    (hdepth : ∀ field ∈ message.fields, field.kind.depth ≤ context.limit) (document : Document) :
    ∃ blocks, (ofMessage Table.full message document context).1 = .ok blocks ∧
      Hygienic schema message blocks.write.statements blocks.read.statements := by
  have hfields : ∀ field ∈ message.fields, IsWord field.name := fun field hfield =>
    IsWord.of_isIdentifier (Schema.field_isIdentifier_of_valid hvalid hmessage hfield)
  refine ⟨plain message document, ofMessage_full_ok_iff.mpr ⟨hdepth, rfl⟩, ?_⟩
  simp only [plain, Code.statements_fragment]
  have hread := numbered_readBlock hfields (writeNames message.fields)
  have hboth := (numbered_writeBlock hfields 0).append (by rw [Nat.zero_add]; exact hread)
  have hsettled := settled_readBlock hfields (writeNames message.fields)
  constructor
  case introducedOnce => exact hboth.nodup
  case scopedWrite =>
    rw [Scoped, enter_writeBlock hfields]
    rfl
  case scopedRead =>
    have hscan : ∃ declared, (reading (writeNames message.fields) message.fields).texts.foldlM
        enter [[]] = some [declared] := enter_readBlock hfields _
    obtain ⟨declared, hscan⟩ := hscan
    rw [Scoped, hscan]
    rfl
  case settled => exact hsettled
  case consumedOnce => exact fun result hresult => hsettled.count_consumed hread.nodup hresult
  case temporary => exact hboth.isTemporary
  case notMessage =>
    rintro name hname other hother rfl
    have htemporary := hboth.isTemporary _ hname
    rw [Schema.isTemporary_of_valid hvalid hother] at htemporary
    cases htemporary
  case notReserved =>
    intro name hname hreserved
    have htemporary := hboth.isTemporary _ hname
    rw [Name.isTemporary_of_mem_reserved hreserved] at htemporary
    cases htemporary

/-- A map of lists beside a set of packets, all of one schema. -/
theorem ofMessage_hygienic_nested :
    let player : Message := ⟨7, "Player",
      [⟨"scores", "", .map (.scalar .string) (.sequence .list (.scalar .int)), false⟩,
        ⟨"friends", "", .sequence .set (.message 12), true⟩]⟩
    let friend : Message := ⟨12, "Friend", [⟨"name", "", .scalar .string, false⟩]⟩
    ∃ blocks, (ofMessage Table.full player .empty (.ofLimit 32)).1 = .ok blocks ∧
      Hygienic ⟨[player, friend]⟩ player blocks.write.statements blocks.read.statements := by
  intro player friend
  have hvalid : Schema.validate ⟨[player, friend]⟩ = .ok () :=
    Schema.validate_eq_ok_iff.mpr ⟨by decide +kernel, by decide +kernel⟩
  exact ofMessage_hygienic hvalid List.mem_cons_self (by decide +kernel) .empty

end Blocks

end WireScript
