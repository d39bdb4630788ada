import FiveStage.Machine.Program
import Mathlib.Algebra.Group.Nat.Defs

/-!
# Fetching from a program

As long as a program is short enough for its addresses not to wrap round, fetch serves every
aligned address up to the end of the program, and the address behind a served one is again in that
range.  This is what keeps a speculative fetch from faulting.
-/

namespace FiveStage.Program

variable {p : Program} {pc : Doubleword} {word : Word}

def InRange (p : Program) (pc : Doubleword) : Prop :=
  pc.toNat % instructionSize = 0 ∧ pc.toNat ≤ instructionSize * p.size

theorem toNat_addressOf {index : Nat} (small : index < 2 ^ 62) :
    (addressOf index).toNat = instructionSize * index := by
  simp only [addressOf, BitVec.toNat_ofNat, instructionSize]
  omega

theorem toNat_endPc (small : p.size < 2 ^ 60) : p.endPc.toNat = instructionSize * p.size :=
  toNat_addressOf (by omega)

theorem endPc_aligned (p : Program) : p.endPc.toNat % instructionSize = 0 := by
  simp only [endPc, addressOf, BitVec.toNat_ofNat, instructionSize]
  omega

theorem fetchWord_eq_none_iff : p.fetchWord pc = .ok none ↔ pc = p.endPc := by
  constructor
  · intro h
    unfold fetchWord at h
    split at h
    · cases h
    · split at h
      · assumption
      · split at h <;> cases h
  · rintro rfl
    simp [fetchWord, p.endPc_aligned]

theorem wordAt?_eq_none_iff :
    p.wordAt? pc = none ↔
      (pc.toNat % instructionSize = 0 → p.size ≤ pc.toNat / instructionSize) := by
  unfold wordAt? size
  split <;> simp [*]

theorem wordAt?_of_fetchWord (h : p.fetchWord pc = .ok (some word)) : p.wordAt? pc = some word := by
  unfold fetchWord at h
  split at h
  · cases h
  · split at h
    · cases h
    · split at h
      next found =>
        cases h
        exact found
      · cases h

theorem lt_of_wordAt? (h : p.wordAt? pc = some word) :
    pc.toNat % instructionSize = 0 ∧ pc.toNat + instructionSize ≤ instructionSize * p.size := by
  unfold wordAt? at h
  split at h
  next aligned =>
    obtain ⟨bound, -⟩ := Array.getElem?_eq_some_iff.1 h
    refine ⟨aligned, ?_⟩
    simp only [size, instructionSize] at *
    omega
  · cases h

theorem fetchWord_eq_some_iff (small : p.size < 2 ^ 60) :
    p.fetchWord pc = .ok (some word) ↔ p.wordAt? pc = some word := by
  refine ⟨wordAt?_of_fetchWord, fun h => ?_⟩
  obtain ⟨aligned, bound⟩ := lt_of_wordAt? h
  have notEnd : pc ≠ p.endPc := by
    rintro rfl
    rw [toNat_endPc small] at bound
    simp only [instructionSize] at bound
    omega
  simp [fetchWord, aligned, notEnd, h]

theorem fetchWord_of_inRange (small : p.size < 2 ^ 60) (range : p.InRange pc) :
    ∃ found, p.fetchWord pc = .ok found := by
  obtain ⟨aligned, bound⟩ := range
  by_cases atEnd : pc = p.endPc
  · exact ⟨none, fetchWord_eq_none_iff.2 atEnd⟩
  · have inside : pc.toNat / instructionSize < p.words.size := by
      have : pc.toNat ≠ instructionSize * p.size := by
        rw [← toNat_endPc small]
        exact fun same => atEnd (BitVec.eq_of_toNat_eq same)
      simp only [size, instructionSize] at *
      omega
    have found : p.wordAt? pc = some p.words[pc.toNat / instructionSize] := by
      simp [wordAt?, aligned, inside]
    exact ⟨_, (fetchWord_eq_some_iff small).2 found⟩

theorem inRange_endPc (small : p.size < 2 ^ 60) : p.InRange p.endPc :=
  ⟨p.endPc_aligned, Nat.le_of_eq (toNat_endPc small)⟩

theorem toNat_next (small : p.size < 2 ^ 60) (h : p.wordAt? pc = some word) :
    (pc + BitVec.ofNat 64 instructionSize).toNat = pc.toNat + instructionSize := by
  obtain ⟨-, bound⟩ := lt_of_wordAt? h
  simp only [BitVec.toNat_add, BitVec.toNat_ofNat, instructionSize] at *
  omega

theorem inRange_next (small : p.size < 2 ^ 60) (h : p.fetchWord pc = .ok (some word)) :
    p.InRange (pc + BitVec.ofNat 64 instructionSize) := by
  have found := wordAt?_of_fetchWord h
  obtain ⟨aligned, bound⟩ := lt_of_wordAt? found
  unfold InRange
  rw [toNat_next small found]
  simp only [instructionSize] at *
  omega

def fetchFault (pc : Doubleword) : Fault :=
  if pc.toNat % instructionSize ≠ 0 then .fetchMisaligned pc else .fetchOutOfBounds pc

theorem fetchWord_of_not_inRange (small : p.size < 2 ^ 60) (astray : ¬p.InRange pc) :
    p.fetchWord pc = .error (fetchFault pc) := by
  have notEnd : pc ≠ p.endPc := by
    rintro rfl
    exact astray (inRange_endPc small)
  unfold fetchWord fetchFault
  rw [if_neg notEnd]
  split
  · rfl
  next aligned =>
    cases found : p.wordAt? pc with
    | none => rfl
    | some word =>
        obtain ⟨aligned, bound⟩ := lt_of_wordAt? found
        exact absurd ⟨aligned, by omega⟩ astray

theorem fetchWord_zero (small : p.size < 2 ^ 60) : ∃ word, p.fetchWord 0 = .ok (some word) := by
  have nonempty := p.words_size_pos
  have found : p.wordAt? 0 = some p.words[0] := by simp [wordAt?, nonempty]
  exact ⟨_, (fetchWord_eq_some_iff small).2 found⟩

end FiveStage.Program
