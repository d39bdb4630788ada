/-!
# Operations

The operations of each instruction category, their assembler names, and the function codes that
tell the members of a category apart.
-/

namespace FiveStage

inductive RegisterOp where
  | add
  | sub
  | sll
  | slt
  | sltu
  | xor
  | srl
  | sra
  | or
  | and
  deriving DecidableEq, Repr

inductive ImmediateOp where
  | addi
  | slti
  | sltiu
  | xori
  | ori
  | andi
  deriving DecidableEq, Repr

inductive ShiftOp where
  | slli
  | srli
  | srai
  deriving DecidableEq, Repr

inductive LoadOp where
  | lb
  | lh
  | lw
  | ld
  | lbu
  | lhu
  | lwu
  deriving DecidableEq, Repr

inductive StoreOp where
  | sb
  | sh
  | sw
  | sd
  deriving DecidableEq, Repr

inductive BranchOp where
  | beq
  | bne
  | blt
  | bge
  | bltu
  | bgeu
  deriving DecidableEq, Repr

inductive UpperOp where
  | lui
  | auipc
  deriving DecidableEq, Repr

namespace RegisterOp

def all : List RegisterOp := [add, sub, sll, slt, sltu, xor, srl, sra, or, and]

def mnemonic : RegisterOp → String
  | add => "add"
  | sub => "sub"
  | sll => "sll"
  | slt => "slt"
  | sltu => "sltu"
  | xor => "xor"
  | srl => "srl"
  | sra => "sra"
  | or => "or"
  | and => "and"

def funct3 : RegisterOp → Nat
  | add | sub => 0
  | sll => 1
  | slt => 2
  | sltu => 3
  | xor => 4
  | srl | sra => 5
  | or => 6
  | and => 7

def funct7 : RegisterOp → Nat
  | sub | sra => 0x20
  | _ => 0

def ofFunct? (funct3 funct7 : Nat) : Option RegisterOp :=
  all.find? fun op => op.funct3 = funct3 ∧ op.funct7 = funct7

theorem ofFunct?_funct (op : RegisterOp) : ofFunct? op.funct3 op.funct7 = some op := by
  cases op <;> rfl

theorem funct_of_ofFunct? {funct3 funct7 : Nat} {op : RegisterOp}
    (h : ofFunct? funct3 funct7 = some op) : op.funct3 = funct3 ∧ op.funct7 = funct7 := by
  simpa using List.find?_some h

end RegisterOp

namespace ImmediateOp

def all : List ImmediateOp := [addi, slti, sltiu, xori, ori, andi]

def mnemonic : ImmediateOp → String
  | addi => "addi"
  | slti => "slti"
  | sltiu => "sltiu"
  | xori => "xori"
  | ori => "ori"
  | andi => "andi"

def funct3 : ImmediateOp → Nat
  | addi => 0
  | slti => 2
  | sltiu => 3
  | xori => 4
  | ori => 6
  | andi => 7

def ofFunct3? (funct3 : Nat) : Option ImmediateOp := all.find? (·.funct3 = funct3)

theorem ofFunct3?_funct3 (op : ImmediateOp) : ofFunct3? op.funct3 = some op := by
  cases op <;> rfl

theorem funct3_of_ofFunct3? {funct3 : Nat} {op : ImmediateOp} (h : ofFunct3? funct3 = some op) :
    op.funct3 = funct3 := by
  simpa using List.find?_some h

end ImmediateOp

namespace ShiftOp

def all : List ShiftOp := [slli, srli, srai]

def mnemonic : ShiftOp → String
  | slli => "slli"
  | srli => "srli"
  | srai => "srai"

def funct3 : ShiftOp → Nat
  | slli => 1
  | srli | srai => 5

/-- The bits of the immediate above the shift amount; bit 10 asks for an arithmetic shift. -/
def highBits : ShiftOp → Nat
  | srai => 0x400
  | _ => 0

/-- Of the bits above the shift amount only the one that asks for an arithmetic shift counts. -/
def ofFunct? (funct3 funct7 : Nat) : Option ShiftOp :=
  match funct3 with
  | 1 => some slli
  | 5 => some (if funct7.testBit 5 then srai else srli)
  | _ => none

end ShiftOp

namespace LoadOp

def all : List LoadOp := [lb, lh, lw, ld, lbu, lhu, lwu]

def mnemonic : LoadOp → String
  | lb => "lb"
  | lh => "lh"
  | lw => "lw"
  | ld => "ld"
  | lbu => "lbu"
  | lhu => "lhu"
  | lwu => "lwu"

def funct3 : LoadOp → Nat
  | lb => 0
  | lh => 1
  | lw => 2
  | ld => 3
  | lbu => 4
  | lhu => 5
  | lwu => 6

def ofFunct3? (funct3 : Nat) : Option LoadOp := all.find? (·.funct3 = funct3)

theorem ofFunct3?_funct3 (op : LoadOp) : ofFunct3? op.funct3 = some op := by cases op <;> rfl

theorem funct3_of_ofFunct3? {funct3 : Nat} {op : LoadOp} (h : ofFunct3? funct3 = some op) :
    op.funct3 = funct3 := by
  simpa using List.find?_some h

end LoadOp

namespace StoreOp

def all : List StoreOp := [sb, sh, sw, sd]

def mnemonic : StoreOp → String
  | sb => "sb"
  | sh => "sh"
  | sw => "sw"
  | sd => "sd"

def funct3 : StoreOp → Nat
  | sb => 0
  | sh => 1
  | sw => 2
  | sd => 3

def ofFunct3? (funct3 : Nat) : Option StoreOp := all.find? (·.funct3 = funct3)

theorem ofFunct3?_funct3 (op : StoreOp) : ofFunct3? op.funct3 = some op := by cases op <;> rfl

theorem funct3_of_ofFunct3? {funct3 : Nat} {op : StoreOp} (h : ofFunct3? funct3 = some op) :
    op.funct3 = funct3 := by
  simpa using List.find?_some h

end StoreOp

namespace BranchOp

def all : List BranchOp := [beq, bne, blt, bge, bltu, bgeu]

def mnemonic : BranchOp → String
  | beq => "beq"
  | bne => "bne"
  | blt => "blt"
  | bge => "bge"
  | bltu => "bltu"
  | bgeu => "bgeu"

def funct3 : BranchOp → Nat
  | beq => 0
  | bne => 1
  | blt => 4
  | bge => 5
  | bltu => 6
  | bgeu => 7

def ofFunct3? (funct3 : Nat) : Option BranchOp := all.find? (·.funct3 = funct3)

theorem ofFunct3?_funct3 (op : BranchOp) : ofFunct3? op.funct3 = some op := by
  cases op <;> rfl

theorem funct3_of_ofFunct3? {funct3 : Nat} {op : BranchOp} (h : ofFunct3? funct3 = some op) :
    op.funct3 = funct3 := by
  simpa using List.find?_some h

end BranchOp

namespace UpperOp

def all : List UpperOp := [lui, auipc]

def mnemonic : UpperOp → String
  | lui => "lui"
  | auipc => "auipc"

end UpperOp

end FiveStage
