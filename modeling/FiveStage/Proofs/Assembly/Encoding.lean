import FiveStage.Proofs.Assembly.Meaning
import FiveStage.Proofs.Assembly.Placement
import FiveStage.Proofs.Isa.Encoded

/-!
# What the assembler encodes

An accepted source text has one record for each of its instruction lines, and the word of the
record has just the fields and the immediate of the instruction that the line means.
-/

namespace FiveStage.Assembly

open Text

variable {place : List Char → Nat → Prop} {index : Nat} {s : Statement} {i : Instruction}

/-! ## What is written fits -/

theorem fits_of_isAddress {text : List Char} {offset : Int} {base : Register}
    (h : IsAddress text offset base) : -2048 ≤ offset ∧ offset ≤ 2047 := by
  obtain ⟨_, _, -, -, ⟨-, rfl⟩ | ⟨-, fits⟩⟩ := h
  · decide
  · exact fits

theorem fits_of_leads {range : Range} {text : List Char} {offset : Int}
    (h : Leads place index range text offset) :
    range.low ≤ offset ∧ offset ≤ range.high ∧ offset % 2 = 0 := by
  rcases h with ⟨-, -, reaches, fits⟩ | ⟨-, ⟨-, fits⟩, even⟩
  · exact ⟨fits.1, fits.2, by omega⟩
  · exact ⟨fits.1, fits.2, even⟩

theorem fits_of_means (h : Means place index s i) : i.Fits := by
  cases h with
  | register => trivial
  | immediate _ _ third | jalrInThree _ _ third => exact third.2
  | shift _ _ third => exact Int.ofNat_lt.1 (Int.lt_of_le_sub_one third.2.2)
  | load _ second | store _ second | jalr _ second => exact fits_of_isAddress second
  | branch _ _ third => exact fits_of_leads third
  | upper _ second | li _ second => exact second.2
  | jal _ second => exact fits_of_leads second
  | jalInOne first | j first => exact fits_of_leads first
  | jalrInOne | jr | ret | nop | mv => exact ⟨by decide, by decide⟩

/-! ## Line by line -/

theorem instructionsFrom_cons_eq_ok_iff {labels : LabelTable} {line : SourceLine}
    {rest : List SourceLine} {instructions : List Instruction} :
    instructionsFrom labels index (line :: rest) = .ok instructions ↔
      ∃ i others, instructionOf ⟨labels, index⟩ line.body = .ok i ∧
        instructionsFrom labels (index + 1) rest = .ok others ∧ instructions = i :: others := by
  rw [instructionsFrom]
  cases instructionOf ⟨labels, index⟩ line.body with
  | error problem => simp
  | ok i => cases instructionsFrom labels (index + 1) rest <;> simp [eq_comm]

theorem instructionOf_of_instructionsFrom {labels : LabelTable} {lines : List SourceLine}
    {instructions : List Instruction}
    (h : instructionsFrom labels index lines = .ok instructions) :
    instructions.length = lines.length ∧
      ∀ (k : Nat) (i : Instruction), instructions[k]? = some i →
        ∃ line, lines[k]? = some line ∧ instructionOf ⟨labels, index + k⟩ line.body = .ok i := by
  induction lines generalizing index instructions with
  | nil =>
      cases h
      simp
  | cons line rest ih =>
      obtain ⟨first, others, read, remaining, rfl⟩ := instructionsFrom_cons_eq_ok_iff.1 h
      obtain ⟨length, later⟩ := ih remaining
      refine ⟨congrArg (· + 1) length, fun k i found => ?_⟩
      cases k with
      | zero =>
          obtain rfl : first = i := by simpa using found
          exact ⟨line, rfl, read⟩
      | succ k =>
          obtain ⟨other, there, read⟩ := later k i found
          exact ⟨other, there, by rwa [Nat.add_assoc, Nat.add_comm 1 k] at read⟩

def instructionLines (source : List Char) : List SourceLine :=
  (sourceLines source).filter SourceLine.hasInstruction

theorem length_instructionLines_le (source : List Char) :
    (instructionLines source).length ≤ (lines source).length := by
  have length : (sourceLines source).length = (lines source).length := List.length_mapIdx
  exact length ▸ List.length_filter_le ..

theorem instructions_eq_ok_iff {source : List Char} {instructions : List Instruction} :
    Assembly.instructions source = .ok instructions ↔
      ∃ labels, LabelTable.ofLines (sourceLines source) = .ok labels ∧
        instructionsFrom labels 0 (instructionLines source) = .ok instructions := by
  simp only [Assembly.instructions, instructionLines]
  cases LabelTable.ofLines (sourceLines source) <;> simp

theorem assemble_eq_ok_iff {source : List Char} {records : List InstructionRecord} :
    assemble source = .ok records ↔
      ∃ instructions, Assembly.instructions source = .ok instructions ∧
        records = instructions.mapIdx fun k i => ⟨Program.addressOf k, i.encode⟩ := by
  unfold assemble
  cases Assembly.instructions source <;> simp [Except.map, eq_comm]

/-- Record `k` has the address `4 * k`, and its word encodes what the line `k` of those with an
instruction means, where a label stands for the instruction behind it. -/
structure Encodes (records : List InstructionRecord) (source : List Char) : Prop where
  length_eq : records.length = (instructionLines source).length
  addr_eq {k : Nat} {record : InstructionRecord} (found : records[k]? = some record) :
    record.addr.toNat = 4 * k
  encodes {k : Nat} {record : InstructionRecord} (found : records[k]? = some record) :
    ∃ line s i, (instructionLines source)[k]? = some line ∧ Spelled line.body s ∧
      Means (Stands (sourceLines source)) k s i ∧ i.EncodedBy record.word

theorem encodes_of_assemble {source : List Char} {records : List InstructionRecord}
    (short : (lines source).length ≤ 2 ^ 60) (accepted : assemble source = .ok records) :
    Encodes records source := by
  obtain ⟨instructions, listed, rfl⟩ := assemble_eq_ok_iff.1 accepted
  obtain ⟨labels, placed, read⟩ := instructions_eq_ok_iff.1 listed
  obtain ⟨length, each⟩ := instructionOf_of_instructionsFrom read
  have few : instructions.length ≤ (lines source).length :=
    length ▸ length_instructionLines_le source
  refine ⟨by simpa using length, fun {k record} found => ?_, fun {k record} found => ?_⟩
  · obtain ⟨i, there, rfl⟩ := Option.map_eq_some_iff.1 (List.getElem?_mapIdx .. ▸ found)
    have inside : k < instructions.length := (List.getElem?_eq_some_iff.1 there).1
    rw [Program.addressOf, BitVec.toNat_ofNat, instructionSize]
    omega
  · obtain ⟨i, there, rfl⟩ := Option.map_eq_some_iff.1 (List.getElem?_mapIdx .. ▸ found)
    obtain ⟨line, stands, meant⟩ := each k i there
    obtain ⟨s, spelled, means⟩ := instructionOf_eq_ok_iff.1 meant
    rw [LabelTable.places_ofLines placed, Nat.zero_add] at means
    exact ⟨line, s, i, stands, spelled, means, Instruction.encodedBy_encode (fits_of_means means)⟩

def countdown : List Char :=
  "loop: addi t0, t0, -1 # count down\n\n bne T0, x0, loop\nend: stop: ret".toList

theorem countdown_encoded :
    ∃ records, assemble countdown = .ok records ∧
      records.map (·.word) = [0xFFF28293, 0xFE029EE3, 0x00008067] ∧ Encodes records countdown := by
  have accepted : assemble countdown =
      .ok [⟨0, 0xFFF28293⟩, ⟨4, 0xFE029EE3⟩, ⟨8, 0x00008067⟩] := by decide +kernel
  exact ⟨_, accepted, rfl, encodes_of_assemble (by decide +kernel) accepted⟩

end FiveStage.Assembly
