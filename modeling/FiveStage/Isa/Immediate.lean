import FiveStage.Isa.Opcode
import FiveStage.Isa.Word

/-!
# Immediates

Each format scatters its literal operand over the word in its own way.  Extraction puts the
pieces back in order and extends the sign to 64 bits.
-/

namespace FiveStage

inductive ImmediateFormat where
  | i
  | s
  | b
  | u
  | j
  deriving DecidableEq, Repr

namespace ImmediateFormat

/-- Branch and jump offsets are even, so their lowest bit is not stored. -/
def extract (format : ImmediateFormat) (w : Word) : Doubleword :=
  match format with
  | i => (w.extractLsb' 20 12).signExtend 64
  | s => (w.extractLsb' 25 7 ++ w.extractLsb' 7 5).signExtend 64
  | b =>
      (w.extractLsb' 31 1 ++ w.extractLsb' 7 1 ++ w.extractLsb' 25 6 ++ w.extractLsb' 8 4 ++
        0#1).signExtend 64
  | u => (w.extractLsb' 12 20 ++ 0#12).signExtend 64
  | j =>
      (w.extractLsb' 31 1 ++ w.extractLsb' 12 8 ++ w.extractLsb' 20 1 ++ w.extractLsb' 21 10 ++
        0#1).signExtend 64

end ImmediateFormat

def Opcode.immediateFormat? : Opcode → Option ImmediateFormat
  | .opImm | .load | .jalr | .system => some .i
  | .store => some .s
  | .branch => some .b
  | .lui | .auipc => some .u
  | .jal => some .j
  | .op => none

/-- The format that a seven-bit code selects; codes of no category carry no immediate. -/
def immediateFormatOf? (code : Nat) : Option ImmediateFormat :=
  (Opcode.ofCode? code).bind Opcode.immediateFormat?

def Word.immediate (w : Word) : Doubleword :=
  match immediateFormatOf? w.opcode with
  | some format => format.extract w
  | none => 0

theorem Word.immediate_of_format {w : Word} {format : ImmediateFormat}
    (h : immediateFormatOf? w.opcode = some format) : w.immediate = format.extract w := by
  simp [Word.immediate, h]

theorem Word.immediate_of_category {w : Word} {o : Opcode} {format : ImmediateFormat}
    (h : Opcode.ofCode? w.opcode = some o) (carries : o.immediateFormat? = some format) :
    w.immediate = format.extract w :=
  immediate_of_format (by simp [immediateFormatOf?, h, carries])

end FiveStage
