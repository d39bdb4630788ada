import FiveStage.Isa.Register
import FiveStage.Isa.Word

/-!
# Register file

Register 0 always reads as zero.  Indices of no register also read as zero, and writing to
either is without effect.
-/

namespace FiveStage

structure RegisterWrite where
  rd : Nat
  value : Doubleword
  deriving DecidableEq, Repr

structure RegisterFile where
  cells : Vector Doubleword registerCount
  deriving DecidableEq, Repr

namespace RegisterFile

def empty : RegisterFile := ⟨Vector.replicate registerCount 0⟩

def read (rf : RegisterFile) (index : Nat) : Doubleword :=
  if index = 0 then 0 else (rf.cells[index]?).getD 0

def write (rf : RegisterFile) (index : Nat) (value : Doubleword) : RegisterFile :=
  if index = 0 then rf else ⟨rf.cells.setIfInBounds index value⟩

def toList (rf : RegisterFile) : List Doubleword := (List.range registerCount).map rf.read

def apply (rf : RegisterFile) : Option RegisterWrite → RegisterFile
  | some w => rf.write w.rd w.value
  | none => rf

@[simp] theorem read_zero (rf : RegisterFile) : rf.read 0 = 0 := rfl

@[simp] theorem read_empty (index : Nat) : empty.read index = 0 := by
  simp only [read, empty]
  split
  · rfl
  · by_cases h : index < registerCount <;> simp [h]

theorem read_write_self {rf : RegisterFile} {index : Nat} {value : Doubleword}
    (pos : index ≠ 0) (bound : index < registerCount) :
    (rf.write index value).read index = value := by
  simp [read, write, pos, bound]

theorem read_write_of_ne {rf : RegisterFile} {i j : Nat} {value : Doubleword} (h : i ≠ j) :
    (rf.write i value).read j = rf.read j := by
  by_cases hi : i = 0
  · simp [write, hi]
  · by_cases hj : j = 0
    · simp [hj]
    · simp [read, write, hi, hj, Vector.getElem?_setIfInBounds_ne h]

end RegisterFile

end FiveStage
