/-!
# Major opcodes

The instruction categories of the integer base set, and the seven-bit codes that select them.
-/

namespace FiveStage

inductive Opcode where
  | load
  | opImm
  | auipc
  | store
  | op
  | lui
  | branch
  | jalr
  | jal
  | system
  deriving DecidableEq, Repr

namespace Opcode

def code : Opcode → Nat
  | load => 0x03
  | opImm => 0x13
  | auipc => 0x17
  | store => 0x23
  | op => 0x33
  | lui => 0x37
  | branch => 0x63
  | jalr => 0x67
  | jal => 0x6F
  | system => 0x73

def ofCode? : Nat → Option Opcode
  | 0x03 => some load
  | 0x13 => some opImm
  | 0x17 => some auipc
  | 0x23 => some store
  | 0x33 => some op
  | 0x37 => some lui
  | 0x63 => some branch
  | 0x67 => some jalr
  | 0x6F => some jal
  | 0x73 => some system
  | _ => none

theorem ofCode?_code (o : Opcode) : ofCode? o.code = some o := by cases o <;> rfl

theorem code_of_ofCode? {n : Nat} {o : Opcode} (h : ofCode? n = some o) : o.code = n := by
  unfold ofCode? at h
  split at h <;> first | (cases h; rfl) | cases h

theorem ofCode?_eq_some_iff {n : Nat} {o : Opcode} : ofCode? n = some o ↔ o.code = n :=
  ⟨code_of_ofCode?, fun h => h ▸ ofCode?_code o⟩

end Opcode

end FiveStage
