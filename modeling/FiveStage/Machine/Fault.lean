import FiveStage.Isa.Word
import FiveStage.Text.Numeral

/-!
# Faults

The reasons for which a core stops before the end of its program.  An unknown opcode is not one
of them: it passes through without effect.
-/

namespace FiveStage

inductive Fault where
  | fetchOutOfBounds (pc : Doubleword)
  | fetchMisaligned (pc : Doubleword)
  | accessOutOfRange (addr : Doubleword) (width : Nat)
  deriving DecidableEq, Repr

def Fault.message : Fault → String
  | fetchOutOfBounds pc => s!"instruction fetch out of bounds at pc {Text.hex pc.toNat}"
  | fetchMisaligned pc => s!"misaligned instruction fetch at pc {Text.hex pc.toNat}"
  | accessOutOfRange addr width =>
      s!"data access of {width} bytes at {Text.hex addr.toNat} is outside data memory"

end FiveStage
