import FiveStage.Proofs.Assembly.Encoding
import FiveStage.Proofs.Assembly.Listing
import FiveStage.Proofs.Isa.Decoding

/-!
# Listings of assembled words

Whatever a source text looks like, the words that it assembles to can be printed and assembled
again: none of them is shown as unknown, and their listing has the records of the source text.
-/

namespace FiveStage.Assembly

open Text

variable {labels : LabelTable} {index : Nat} {lines : List SourceLine} {is : List Instruction}
  {source : List Char} {records : List InstructionRecord}

theorem fits_of_instructionsFrom (read : instructionsFrom labels index lines = .ok is) :
    ∀ i ∈ is, i.Fits := by
  intro i mem
  obtain ⟨k, inside⟩ := List.mem_iff_getElem?.1 mem
  obtain ⟨-, each⟩ := instructionOf_of_instructionsFrom read
  obtain ⟨line, -, meant⟩ := each k i inside
  obtain ⟨s, -, means⟩ := instructionOf_eq_ok_iff.1 meant
  exact fits_of_means means

theorem holds_of_fits (fits : ∀ i ∈ is, i.Fits) :
    List.Forall₂ Word.Holds (is.map Instruction.encode) (is.map Instruction.unsigned) := by
  rw [List.forall₂_map_left_iff, List.forall₂_map_right_iff, List.forall₂_same]
  exact fun i mem => Instruction.holds_encode (fits i mem)

theorem map_word_mapIdx (is : List Instruction) :
    (is.mapIdx fun k i => (⟨Program.addressOf k, i.encode⟩ : InstructionRecord)).map (·.word) =
      is.map Instruction.encode := by
  apply List.ext_getElem?
  intro k
  rw [List.getElem?_map, List.getElem?_mapIdx, List.getElem?_map, Option.map_map]
  rfl

theorem mapIdx_unsigned (is : List Instruction) :
    (is.map Instruction.unsigned).mapIdx (fun k i =>
      (⟨Program.addressOf k, i.encode⟩ : InstructionRecord)) =
      is.mapIdx fun k i => ⟨Program.addressOf k, i.encode⟩ := by
  apply List.ext_getElem?
  intro k
  rw [List.getElem?_mapIdx, List.getElem?_mapIdx, List.getElem?_map, Option.map_map]
  simp only [Function.comp_def, Instruction.encode_unsigned]

/-- No word of an accepted source text is shown as unknown, and the listing of its words assembles
to the same records, address by address and word by word. -/
theorem relisting_restores (accepted : assemble source = .ok records) :
    (∀ record ∈ records, ¬IsUnknown record.word.disassemble) ∧
      ∀ relisted, IsListing relisted (records.map (·.word)) → assemble relisted = .ok records := by
  obtain ⟨is, listed, rfl⟩ := assemble_eq_ok_iff.1 accepted
  obtain ⟨labels, -, read⟩ := instructions_eq_ok_iff.1 listed
  have fits := fits_of_instructionsFrom read
  have holds := holds_of_fits fits
  refine ⟨fun record mem => ?_, fun relisted shape => ?_⟩
  · obtain ⟨k, inside, rfl⟩ := List.mem_mapIdx.1 mem
    have held := Instruction.holds_encode (fits _ (List.getElem_mem inside))
    rw [isUnknown_disassemble_iff, ← Instruction.ofWord?_eq_none_iff,
      Instruction.ofWord?_eq_some_iff.2 held]
    simp
  · rw [map_word_mapIdx] at shape
    have reread := (instructions_of_isListing shape).trans (instructionsFrom_printedLines holds 0 1)
    rw [← mapIdx_unsigned]
    exact assemble_eq_ok_iff.2 ⟨_, reread, rfl⟩

def shorthand : List Char :=
  "top: LUI T0, -1 ; ones\n li fp, 0x7F\nsrai x8, s0, 63\n\n j top".toList

theorem shorthand_relisted :
    ∃ records, assemble shorthand = .ok records ∧
      records.map (·.word) = [0xFFFFF2B7, 0x07F00413, 0x43F45413, 0xFF5FF06F] ∧
      assemble (listing (records.map (·.word))) = .ok records := by
  have accepted : assemble shorthand =
      .ok [⟨0, 0xFFFFF2B7⟩, ⟨4, 0x07F00413⟩, ⟨8, 0x43F45413⟩, ⟨12, 0xFF5FF06F⟩] := by
    decide +kernel
  exact ⟨_, accepted, rfl, (relisting_restores accepted).2 _ (isListing_listing _)⟩

end FiveStage.Assembly
