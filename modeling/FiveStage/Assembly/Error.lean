/-!
# Assembly errors

What can be wrong with a line of assembler text.
-/

namespace FiveStage.Assembly

/-- A range of integers with both ends included. -/
structure Range where
  low : Int
  high : Int
  deriving DecidableEq, Repr

def Range.contains (r : Range) (value : Int) : Bool := r.low ≤ value && value ≤ r.high

theorem Range.contains_iff {r : Range} {value : Int} :
    r.contains value = true ↔ r.low ≤ value ∧ value ≤ r.high := by
  simp [Range.contains]

inductive Problem where
  | duplicateLabel (label : String)
  | unparsable (text : String)
  | operandCount (mnemonic : String) (expected found : Nat)
  | missingOperand (position : Nat)
  | notRegister (operand : String)
  | notInteger (operand : String)
  | immediateOutOfRange (value : Int) (range : Range)
  | undefinedLabel (operand : String)
  | targetOutOfRange (operand : String)
  | oddTarget (offset : Int)
  | notAddress (operand : String)
  | badOffset (offset : String)
  | unknownInstruction (mnemonic : String)
  deriving DecidableEq, Repr

def Problem.message : Problem → String
  | duplicateLabel label => s!"label `{label}` defined twice"
  | unparsable text => s!"cannot parse `{text}`"
  | operandCount mnemonic expected found =>
      s!"`{mnemonic}` takes {expected} operand(s), found {found}"
  | missingOperand position => s!"missing operand {position}"
  | notRegister operand => s!"`{operand}` is not a register"
  | notInteger operand => s!"`{operand}` is not an integer"
  | immediateOutOfRange value range =>
      s!"immediate {value} out of range [{range.low}, {range.high}]"
  | undefinedLabel operand => s!"undefined label `{operand}`"
  | targetOutOfRange operand => s!"target `{operand}` is out of range"
  | oddTarget offset => s!"target offset {offset} is odd"
  | notAddress operand => s!"`{operand}` is not of the form offset(reg)"
  | badOffset offset => s!"bad offset `{offset}`"
  | unknownInstruction mnemonic => s!"unknown instruction `{mnemonic}`"

/-- A problem and the line that it is on, counting from 1. -/
structure Error where
  line : Nat
  problem : Problem
  deriving DecidableEq, Repr

def Error.message (e : Error) : String := s!"line {e.line}: {e.problem.message}"

end FiveStage.Assembly
