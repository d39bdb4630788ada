import FiveStage.Isa.Opcode

/-!
# Control signals

Decode looks an opcode up once and sends the resulting bundle of signals down the pipeline with
the instruction.  An opcode without a bundle of its own gets the bubble, which enables nothing.
-/

namespace FiveStage

inductive AluClass where
  | address
  | immediate
  | branch
  | register
  deriving DecidableEq, Repr

inductive FirstOperand where
  | reg1
  | pc
  | zero
  deriving DecidableEq, Repr

inductive SecondOperand where
  | reg2
  | imm
  deriving DecidableEq, Repr

structure Control where
  regWrite : Bool := false
  memRead : Bool := false
  memWrite : Bool := false
  branch : Bool := false
  jump : Bool := false
  memToReg : Bool := false
  aluClass : AluClass := .address
  first : FirstOperand := .reg1
  second : SecondOperand := .reg2
  deriving DecidableEq, Repr

namespace Control

def bubble : Control := {}

def isBubble (c : Control) : Bool :=
  !(c.regWrite || c.memRead || c.memWrite || c.branch || c.jump)

def isControlFlow (c : Control) : Bool := c.branch || c.jump

end Control

namespace Opcode

def control : Opcode → Control
  | op => { regWrite := true, aluClass := .register }
  | load => { regWrite := true, memRead := true, memToReg := true, second := .imm }
  | store => { memWrite := true, second := .imm }
  | branch => { branch := true, aluClass := .branch }
  | opImm => { regWrite := true, aluClass := .immediate, second := .imm }
  | lui => { regWrite := true, first := .zero, second := .imm }
  | auipc => { regWrite := true, first := .pc, second := .imm }
  | jal => { regWrite := true, jump := true, first := .pc, second := .imm }
  | jalr => { regWrite := true, jump := true, second := .imm }
  | system => Control.bubble

def executable : List Opcode := [op, load, store, branch, opImm, lui, auipc, jal, jalr]

theorem control_isBubble_iff {o : Opcode} : o.control.isBubble = true ↔ o ∉ executable := by
  cases o <;> decide

end Opcode

def controlTable : List (Nat × Control) := Opcode.executable.map fun o => (o.code, o.control)

namespace Control

def ofCode (code : Nat) : Control :=
  match Opcode.ofCode? code with
  | some o => o.control
  | none => bubble

def isKnown (code : Nat) : Bool := controlTable.any (·.1 = code)

theorem ofCode_code (o : Opcode) : ofCode o.code = o.control := by cases o <;> rfl

theorem isKnown_iff {code : Nat} :
    isKnown code = true ↔ ∃ o ∈ Opcode.executable, o.code = code := by
  simp [isKnown, controlTable]

theorem ofCode_isBubble_iff {code : Nat} :
    (ofCode code).isBubble = true ↔ isKnown code = false := by
  rw [← Bool.not_eq_true, isKnown_iff]
  constructor
  · rintro bubble ⟨o, mem, rfl⟩
    rw [ofCode_code, Opcode.control_isBubble_iff] at bubble
    exact bubble mem
  · intro unknown
    unfold ofCode
    split
    next o found =>
      rw [Opcode.control_isBubble_iff]
      exact fun mem => unknown ⟨o, mem, Opcode.code_of_ofCode? found⟩
    next => rfl

end Control

end FiveStage
