import FiveStage.Datapath.Control
import FiveStage.Isa.Word

/-!
# Arithmetic unit

`AluOp.eval` is the function of the unit on 64-bit operands.  `aluOp?` chooses the operation from
the class that the control signals carry and the function codes of the word.
-/

namespace FiveStage

inductive AluOp where
  | add
  | sub
  | sll
  | slt
  | sltu
  | xor
  | srl
  | sra
  | or
  | and
  deriving DecidableEq, Repr

inductive AluPart where
  | adder
  | logic
  | shifter
  deriving DecidableEq, Repr

namespace AluOp

def flag (condition : Bool) : Doubleword := if condition then 1 else 0

/-- Only the low six bits of a shift amount count. -/
def shiftAmount (b : Doubleword) : Nat := b.toNat % 64

def eval (op : AluOp) (a b : Doubleword) : Doubleword :=
  match op with
  | add => a + b
  | sub => a - b
  | sll => a <<< shiftAmount b
  | slt => flag (a.slt b)
  | sltu => flag (a.ult b)
  | xor => a ^^^ b
  | srl => a >>> shiftAmount b
  | sra => a.sshiftRight (shiftAmount b)
  | or => a ||| b
  | and => a &&& b

def part : AluOp → AluPart
  | add | sub => .adder
  | slt | sltu | xor | or | and => .logic
  | sll | srl | sra => .shifter

/-- The output of one part of the unit, which is 0 for the operations of the other parts. -/
def evalIn (p : AluPart) (op : AluOp) (a b : Doubleword) : Doubleword :=
  if op.part = p then op.eval a b else 0

end AluOp

/-- The operations of register-immediate instructions; bit 5 of `funct7` marks `srai`. -/
def immediateAluOp (funct3 funct7 : Nat) : AluOp :=
  match funct3 with
  | 0 => .add
  | 1 => .sll
  | 2 => .slt
  | 3 => .sltu
  | 4 => .xor
  | 5 => if funct7.testBit 5 then .sra else .srl
  | 6 => .or
  | _ => .and

def registerAluOp? (funct3 funct7 : Nat) : Option AluOp :=
  match funct3, funct7 with
  | 0, 0x00 => some .add
  | 0, 0x20 => some .sub
  | 1, 0x00 => some .sll
  | 2, 0x00 => some .slt
  | 3, 0x00 => some .sltu
  | 4, 0x00 => some .xor
  | 5, 0x00 => some .srl
  | 5, 0x20 => some .sra
  | 6, 0x00 => some .or
  | 7, 0x00 => some .and
  | _, _ => none

/-- The operation for a class and function codes.  Addresses and jump targets are sums, and a
branch subtracts so that equal operands give zero. -/
def aluOp? (aluClass : AluClass) (funct3 funct7 : Nat) : Option AluOp :=
  match aluClass with
  | .address => some .add
  | .branch => some .sub
  | .immediate => some (immediateAluOp funct3 funct7)
  | .register => registerAluOp? funct3 funct7

end FiveStage
