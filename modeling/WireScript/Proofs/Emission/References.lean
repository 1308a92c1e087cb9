import Mathlib.Data.List.Basic
import WireScript.Proofs.Emission.WireOrder
import WireScript.Proofs.Kind.Mention

/-! # References between messages

A kind refers to messages by their numbers, and the code for it passes the same
numbers to the buffer, in the same order. So what validation finds out about the
references of a kind holds of every packet a block writes or reads.
-/

namespace WireScript

namespace Listing

/-- The number a call passes to the buffer, if it is for a packet. -/
def packet? (call : WireCall × Nat) : Option String :=
  if call.1.value = "Packet" then some call.1.id else none

/-- The numbers of the packets that a block writes or reads, in order. -/
def packets (verb : String) (block : Fragment) : List String :=
  (calls verb [] block.statements).filterMap packet?

end Listing

open Listing

/-- The packets of a kind are its references. -/
theorem Kind.packets_wire (kind : Kind) (around : Nat) :
    (kind.wire around).filterMap packet? =
      kind.nestedIds.map (fun id => Text.decimal id.toNat) := by
  have hsize (around : Nat) : packet? (⟨"Int", ""⟩, around) = none := rfl
  induction kind generalizing around with
  | scalar s =>
      have hscalar : packet? (⟨s.methodName, ""⟩, around) = none := by cases s <;> rfl
      rw [wire, nestedIds_scalar, List.filterMap_cons_none hscalar]
      rfl
  | message id => rw [wire, nestedIds_message]; rfl
  | sequence collection element ih =>
      rw [wire, nestedIds_sequence, List.filterMap_cons_none (hsize around), ih]
  | map key value ihKey ihValue =>
      rw [wire, nestedIds_map, List.filterMap_cons_none (hsize around), List.filterMap_append,
        ihKey, ihValue, List.map_append]

/-- The references of fields, as their numbers stand in the code. -/
def Field.referenceTexts (fields : List Field) : List String :=
  fields.flatMap (fun field => field.kind.nestedIds.map (fun id => Text.decimal id.toNat))

/-- Both blocks of a message pass the numbers its fields refer to. -/
theorem Blocks.packets_plain (message : Message) (document : Document) :
    packets "write" (plain message document).write = Field.referenceTexts message.fields ∧
      packets "read" (plain message document).read = Field.referenceTexts message.fields := by
  have hfields : (message.fields.flatMap (fun field => field.kind.wire 0)).filterMap packet? =
      Field.referenceTexts message.fields := by
    rw [List.filterMap_flatMap, Field.referenceTexts]
    exact List.flatMap_congr fun field _ => field.kind.packets_wire 0
  unfold packets plain
  rw [Code.statements_fragment, Code.statements_fragment, calls_writeBlock, calls_readBlock]
  exact ⟨hfields, hfields⟩

end WireScript
