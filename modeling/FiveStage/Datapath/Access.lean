import FiveStage.Isa.Word

/-!
# Access to data memory

How many bytes a load or store transfers, and how a loaded value fills a register.
-/

namespace FiveStage

structure Access where
  width : Nat
  signed : Bool
  deriving DecidableEq, Repr

namespace Access

def load? (funct3 : Nat) : Option Access :=
  match funct3 with
  | 0 => some ⟨1, true⟩
  | 1 => some ⟨2, true⟩
  | 2 => some ⟨4, true⟩
  | 3 => some ⟨8, true⟩
  | 4 => some ⟨1, false⟩
  | 5 => some ⟨2, false⟩
  | 6 => some ⟨4, false⟩
  | _ => none

def store? (funct3 : Nat) : Option Access :=
  match funct3 with
  | 0 => some ⟨1, false⟩
  | 1 => some ⟨2, false⟩
  | 2 => some ⟨4, false⟩
  | 3 => some ⟨8, false⟩
  | _ => none

/-- Extends a value of `width` bytes to a register.  A memory read leaves the bits above those
bytes clear, so an unsigned access takes the value as it is. -/
def extend (access : Access) (raw : Doubleword) : Doubleword :=
  let unused := 64 - 8 * access.width
  if access.signed then (raw <<< unused).sshiftRight unused else raw

end Access

end FiveStage
