import FiveStage.Machine.Fault

/-!
# Data memory

A row of bytes at the addresses from 0 up.  Values are stored with their lowest byte first.  An
access that is not wholly inside the memory faults and changes nothing.
-/

namespace FiveStage

abbrev Byte := BitVec 8

def littleEndian (bytes : Array Byte) (start : Nat) : Nat → Nat
  | 0 => 0
  | width + 1 => (bytes[start]?.getD 0).toNat + 256 * littleEndian bytes (start + 1) width

def putLittleEndian (bytes : Array Byte) (start : Nat) : Nat → Nat → Array Byte
  | 0, _ => bytes
  | width + 1, value =>
      putLittleEndian (bytes.setIfInBounds start (BitVec.ofNat 8 value)) (start + 1) width
        (value / 256)

structure DataMemory where
  bytes : Array Byte
  deriving DecidableEq, Repr

namespace DataMemory

def zeroed (size : Nat) : DataMemory := ⟨Array.replicate size 0⟩

/-- The most bytes that there can be in one piece. -/
def maxSize : Nat := 0x7FFFFFFFFFFFFFFF

def ofSize? (size : Nat) : Option DataMemory :=
  if size ≤ maxSize then some (zeroed size) else none

def size (m : DataMemory) : Nat := m.bytes.size

def byteAt (m : DataMemory) (addr : Nat) : Byte := m.bytes[addr]?.getD 0

def maxWidth : Nat := 8

/-- Addresses do not wrap round: the sum is that of natural numbers. -/
def Covers (m : DataMemory) (addr : Doubleword) (width : Nat) : Prop :=
  width ≤ maxWidth ∧ addr.toNat + width ≤ m.size

instance (m : DataMemory) (addr : Doubleword) (width : Nat) : Decidable (m.Covers addr width) :=
  inferInstanceAs (Decidable (_ ∧ _))

def check (m : DataMemory) (addr : Doubleword) (width : Nat) : Except Fault Unit :=
  if m.Covers addr width then .ok () else .error (.accessOutOfRange addr width)

def read (m : DataMemory) (addr : Doubleword) (width : Nat) : Except Fault Doubleword :=
  if m.Covers addr width then .ok (BitVec.ofNat 64 (littleEndian m.bytes addr.toNat width))
  else .error (.accessOutOfRange addr width)

def write (m : DataMemory) (addr : Doubleword) (width : Nat) (value : Doubleword) :
    Except Fault DataMemory :=
  if m.Covers addr width then .ok ⟨putLittleEndian m.bytes addr.toNat width value.toNat⟩
  else .error (.accessOutOfRange addr width)

/-- The bytes from `start` up to but without `stop`, if these are bounds inside the memory. -/
def slice? (m : DataMemory) (start stop : Nat) : Option (List Byte) :=
  if start ≤ stop ∧ stop ≤ m.size then some (m.bytes.extract start stop).toList else none

theorem size_putLittleEndian (bytes : Array Byte) (start width value : Nat) :
    (putLittleEndian bytes start width value).size = bytes.size := by
  induction width generalizing bytes start value with
  | zero => rfl
  | succ width ih => simp [putLittleEndian, ih]

theorem check_eq_ok_iff {m : DataMemory} {addr : Doubleword} {width : Nat} :
    m.check addr width = .ok () ↔ m.Covers addr width := by
  unfold check
  split <;> simp_all

theorem size_of_write {m m' : DataMemory} {addr : Doubleword} {width : Nat} {value : Doubleword}
    (h : m.write addr width value = .ok m') : m'.size = m.size := by
  unfold write at h
  split at h
  · cases h
    exact size_putLittleEndian ..
  · cases h

theorem exists_write_of_check {m : DataMemory} {addr : Doubleword} {width : Nat}
    (h : m.check addr width = .ok ()) (value : Doubleword) :
    ∃ m', m.write addr width value = .ok m' := by
  simp [write, check_eq_ok_iff.1 h]

end DataMemory

end FiveStage
