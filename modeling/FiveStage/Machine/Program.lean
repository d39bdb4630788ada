import FiveStage.Machine.Fault

/-!
# Programs

A program is a non-empty row of instruction words, one every four bytes from address 0 on.  It
can be given as words alone or as words with their addresses, which then have to be the right
ones.
-/

namespace FiveStage

structure InstructionRecord where
  addr : Doubleword
  word : Word
  deriving DecidableEq, Repr

inductive ProgramError where
  | empty
  | notContiguous (index : Nat) (expected found : Doubleword)
  deriving DecidableEq, Repr

def ProgramError.message : ProgramError → String
  | empty => "program is empty"
  | notContiguous index expected found =>
      s!"instruction {index} is at {Text.hex found.toNat}, expected {Text.hex expected.toNat}"

structure Program where
  words : Array Word
  words_size_pos : 0 < words.size
  deriving DecidableEq, Repr

namespace Program

def addressOf (index : Nat) : Doubleword := BitVec.ofNat 64 (instructionSize * index)

/-- The first record that is not in its place, counting positions from `index`. -/
def misplaced? (index : Nat) : List InstructionRecord → Option ProgramError
  | [] => none
  | r :: rest =>
      if r.addr = addressOf index then misplaced? (index + 1) rest
      else some (.notContiguous index (addressOf index) r.addr)

def ofWords (words : List Word) : Except ProgramError Program :=
  if h : 0 < words.length then .ok ⟨words.toArray, by simpa using h⟩ else .error .empty

def ofRecords (records : List InstructionRecord) : Except ProgramError Program :=
  match misplaced? 0 records with
  | some error => .error error
  | none => ofWords (records.map (·.word))

def size (p : Program) : Nat := p.words.size

def isEmpty (p : Program) : Bool := p.size == 0

def records (p : Program) : List InstructionRecord :=
  p.words.toList.mapIdx fun index word => ⟨addressOf index, word⟩

def endPc (p : Program) : Doubleword := addressOf p.size

def wordAt? (p : Program) (pc : Doubleword) : Option Word :=
  if pc.toNat % instructionSize = 0 then p.words[pc.toNat / instructionSize]? else none

/-- The word to be executed at an address, and nothing at the very end of the program.  Alignment
is looked at first. -/
def fetchWord (p : Program) (pc : Doubleword) : Except Fault (Option Word) :=
  if pc.toNat % instructionSize ≠ 0 then .error (.fetchMisaligned pc)
  else if pc = p.endPc then .ok none
  else
    match p.wordAt? pc with
    | some word => .ok (some word)
    | none => .error (.fetchOutOfBounds pc)

theorem length_records (p : Program) : p.records.length = p.size := by simp [records, size]

theorem misplaced?_eq_none_iff {index : Nat} {records : List InstructionRecord} :
    misplaced? index records = none ↔
      ∀ (i : Nat) (h : i < records.length), records[i].addr = addressOf (index + i) := by
  induction records generalizing index with
  | nil => simp [misplaced?]
  | cons r rest ih =>
      unfold misplaced?
      split
      next here =>
        rw [ih]
        constructor
        · intro tail i h
          cases i with
          | zero => simpa using here
          | succ i =>
              have := tail i (by simpa using h)
              simpa [Nat.add_assoc, Nat.add_comm 1 i] using this
        · intro all i h
          have := all (i + 1) (by simpa using h)
          simpa [Nat.add_assoc, Nat.add_comm 1 i] using this
      next away =>
        simp only [reduceCtorEq, false_iff]
        intro all
        exact away (all 0 (by simp))

end Program

end FiveStage
