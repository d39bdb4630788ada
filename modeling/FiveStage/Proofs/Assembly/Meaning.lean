import FiveStage.Assembly.Assembler
import FiveStage.Proofs.Assembly.Operands
import Mathlib

/-!
# Statements

`Spelled` says how a text spells a mnemonic and its operands, and `Means` lists the documented
forms of each mnemonic with the instructions that they stand for.  The assembler reads a text as an
instruction just when the text spells a statement that means it.
-/

namespace FiveStage.Assembly

open Text

def Lists (text : List Char) (operands : List (List Char)) : Prop :=
  trim text = [] ∧ operands = [] ∨
    trim text ≠ [] ∧ ∃ pieces, pieces ≠ [] ∧ (∀ piece ∈ pieces, ',' ∉ piece) ∧
      [','].intercalate pieces = trim text ∧ operands = pieces.map trim

structure Spelled (text : List Char) (s : Statement) : Prop where
  shape : ∃ letter name rest, text = letter :: (name ++ rest) ∧ letter.isAlpha = true ∧
    (∀ c ∈ name, c.isAlpha = true ∨ c = '.') ∧ (∀ c ∈ rest.head?, isBlank c = true) ∧
    s.mnemonic = String.ofList (lowerCase (letter :: name)) ∧ Lists rest s.operands

theorem lists_iff {text : List Char} {operands : List (List Char)} :
    Lists text operands ↔ operandsOf text = operands := by
  unfold Lists operandsOf
  by_cases empty : trim text = []
  · simp only [empty, true_and, ne_eq, not_true_eq_false, false_and, or_false, if_true]
    exact eq_comm
  · simp only [empty, false_and, false_or, ne_eq, not_false_eq_true, true_and, if_false]
    constructor
    · rintro ⟨pieces, some, clean, joined, rfl⟩
      rw [splitOn_eq_iff.2 ⟨some, clean, joined⟩]
    · rintro rfl
      obtain ⟨some, clean, joined⟩ := splitOn_eq_iff.1 (rfl : (trim text).splitOn ',' = _)
      exact ⟨_, some, clean, joined, rfl⟩

theorem continues_of_isBlank {c : Char} (h : isBlank c = true) :
    (c.isAlpha || c == '.') = false := by
  simp only [isBlank, Bool.or_eq_true, Bool.and_eq_true, decide_eq_true_eq, beq_iff_eq] at h
  simp [Char.isAlpha, Char.isUpper, Char.isLower, UInt32.le_iff_toNat_le, ← Char.toNat_inj]
  omega

theorem parse?_eq_some_iff {text : List Char} {s : Statement} :
    Statement.parse? text = some s ↔ Spelled text s := by
  constructor
  · intro h
    unfold Statement.parse? at h
    split at h
    · cases h
    next letter tail =>
      dsimp only at h
      split at h
      next starts =>
        refine ⟨letter, tail.takeWhile fun c => c.isAlpha || c == '.',
          tail.dropWhile fun c => c.isAlpha || c == '.', ?_⟩
        rw [List.takeWhile_append_dropWhile]
        refine ⟨rfl, starts, fun c mem => by simpa using all_of_mem_takeWhile c mem, ?_⟩
        split at h
        next ends =>
          cases h
          exact ⟨by simp [ends], rfl, lists_iff.2 rfl⟩
        next c rest ends =>
          split at h
          next blank =>
            cases h
            exact ⟨by simp [ends, blank], rfl, lists_iff.2 rfl⟩
          · cases h
      · cases h
  · rintro ⟨letter, name, rest, rfl, starts, continues, blank, mnemonic, operands⟩
    have go : ∀ c ∈ name, (c.isAlpha || c == '.') = true := by simpa using continues
    have stop : ∀ c ∈ rest.head?, (c.isAlpha || c == '.') = false := fun c mem =>
      continues_of_isBlank (blank c mem)
    have parsed : s = ⟨String.ofList (lowerCase (letter :: name)), operandsOf rest⟩ := by
      rw [← mnemonic, lists_iff.1 operands]
    simp only [Statement.parse?, starts, if_true, takeWhile_append_of_stop go stop,
      dropWhile_append_of_stop go stop]
    cases rest with
    | nil => rw [parsed]
    | cons c rest => simp [blank c rfl, parsed]

/-- The forms of each mnemonic.  `place` relates a label to the number of instructions before it,
and `index` is the number of those before the statement.  The last eight are short forms of the
ones before. -/
inductive Means (place : List Char → Nat → Prop) (index : Nat) : Statement → Instruction → Prop
  | register {op a b c rd rs1 rs2} (first : Register.parse? a = some rd)
      (second : Register.parse? b = some rs1) (third : Register.parse? c = some rs2) :
      Means place index ⟨op.mnemonic, [a, b, c]⟩ (.register op rd rs1 rs2)
  | immediate {op a b c rd rs1 value} (first : Register.parse? a = some rd)
      (second : Register.parse? b = some rs1) (third : immediateRange.Reads c value) :
      Means place index ⟨op.mnemonic, [a, b, c]⟩ (.immediate op rd rs1 value)
  | shift {op a b c rd rs1} {amount : Nat} (first : Register.parse? a = some rd)
      (second : Register.parse? b = some rs1) (third : shiftRange.Reads c amount) :
      Means place index ⟨op.mnemonic, [a, b, c]⟩ (.shift op rd rs1 amount)
  | load {op a b rd base offset} (first : Register.parse? a = some rd)
      (second : IsAddress b offset base) :
      Means place index ⟨op.mnemonic, [a, b]⟩ (.load op rd base offset)
  | store {op a b source base offset} (first : Register.parse? a = some source)
      (second : IsAddress b offset base) :
      Means place index ⟨op.mnemonic, [a, b]⟩ (.store op source base offset)
  | branch {op a b c rs1 rs2 offset} (first : Register.parse? a = some rs1)
      (second : Register.parse? b = some rs2) (third : Leads place index branchRange c offset) :
      Means place index ⟨op.mnemonic, [a, b, c]⟩ (.branch op rs1 rs2 offset)
  | upper {op a b rd value} (first : Register.parse? a = some rd)
      (second : upperRange.Reads b value) :
      Means place index ⟨op.mnemonic, [a, b]⟩ (.upper op rd value)
  | jal {a b rd offset} (first : Register.parse? a = some rd)
      (second : Leads place index jumpRange b offset) :
      Means place index ⟨"jal", [a, b]⟩ (.jal rd offset)
  | jalr {a b rd base offset} (first : Register.parse? a = some rd)
      (second : IsAddress b offset base) :
      Means place index ⟨"jalr", [a, b]⟩ (.jalr rd base offset)
  | jalrInThree {a b c rd base offset} (first : Register.parse? a = some rd)
      (second : Register.parse? b = some base) (third : immediateRange.Reads c offset) :
      Means place index ⟨"jalr", [a, b, c]⟩ (.jalr rd base offset)
  | jalInOne {a offset} (first : Leads place index jumpRange a offset) :
      Means place index ⟨"jal", [a]⟩ (.jal Register.ra offset)
  | jalrInOne {a base} (first : Register.parse? a = some base) :
      Means place index ⟨"jalr", [a]⟩ (.jalr Register.ra base 0)
  | j {a offset} (first : Leads place index jumpRange a offset) :
      Means place index ⟨"j", [a]⟩ (.jal Register.zero offset)
  | jr {a base} (first : Register.parse? a = some base) :
      Means place index ⟨"jr", [a]⟩ (.jalr Register.zero base 0)
  | ret : Means place index ⟨"ret", []⟩ (.jalr Register.zero Register.ra 0)
  | nop : Means place index ⟨"nop", []⟩ (.immediate .addi Register.zero Register.zero 0)
  | mv {a b rd source} (first : Register.parse? a = some rd)
      (second : Register.parse? b = some source) :
      Means place index ⟨"mv", [a, b]⟩ (.immediate .addi rd source 0)
  | li {a b rd value} (first : Register.parse? a = some rd)
      (second : immediateRange.Reads b value) :
      Means place index ⟨"li", [a, b]⟩ (.immediate .addi rd Register.zero value)

namespace Mnemonic

def spelling : Mnemonic → String
  | register op => op.mnemonic
  | immediate op => op.mnemonic
  | shift op => op.mnemonic
  | load op => op.mnemonic
  | store op => op.mnemonic
  | branch op => op.mnemonic
  | upper op => op.mnemonic
  | jal => "jal"
  | jalr => "jalr"
  | j => "j"
  | jr => "jr"
  | ret => "ret"
  | nop => "nop"
  | mv => "mv"
  | li => "li"

theorem ofString?_spelling (m : Mnemonic) : ofString? m.spelling = some m := by
  cases m with
  | register op | immediate op | shift op | load op | store op | branch op | upper op =>
      cases op <;> rfl
  | _ => rfl

theorem spelling_of_mem_table : ∀ entry ∈ table, entry.2.spelling = entry.1 := by decide

theorem ofString?_eq_some_iff {text : String} {m : Mnemonic} :
    ofString? text = some m ↔ m.spelling = text := by
  constructor
  · intro h
    obtain ⟨entry, found, rfl⟩ := Option.map_eq_some_iff.1 h
    rw [spelling_of_mem_table entry (List.mem_of_find?_eq_some found)]
    simpa using List.find?_some found
  · rintro rfl
    exact ofString?_spelling m

end Mnemonic

variable {context : Context} {s : Statement} {i : Instruction} {operands : List (List Char)}

theorem means_of_toJalr (h : Statement.toJalr ⟨"jalr", operands⟩ = .ok i) :
    Means context.labels.Places context.index ⟨"jalr", operands⟩ i := by
  unfold Statement.toJalr at h
  split at h
  next count =>
    obtain ⟨a, rfl⟩ := List.length_eq_one_iff.1 count
    simp at h
    obtain ⟨base, first, rfl⟩ := h
    exact .jalrInOne first
  next count =>
    obtain ⟨a, b, rfl⟩ := List.length_eq_two.1 count
    simp at h
    obtain ⟨offset, base, second, rd, first, rfl⟩ := h
    exact .jalr first second
  next =>
    simp at h
    obtain ⟨count, rd, first, base, second, offset, third, rfl⟩ := h
    obtain ⟨a, b, c, rfl⟩ := List.length_eq_three.1 count
    exact .jalrInThree (by simpa using first) (by simpa using second) (by simpa using third)

theorem means_of_toInstruction {m : Mnemonic}
    (h : Statement.toInstruction ⟨m.spelling, operands⟩ context m = .ok i) :
    Means context.labels.Places context.index ⟨m.spelling, operands⟩ i := by
  cases m with
  | register op =>
      simp [Statement.toInstruction] at h
      obtain ⟨count, rd, first, rs1, second, rs2, third, rfl⟩ := h
      obtain ⟨a, b, c, rfl⟩ := List.length_eq_three.1 count
      exact .register (by simpa using first) (by simpa using second) (by simpa using third)
  | immediate op =>
      simp [Statement.toInstruction] at h
      obtain ⟨count, value, third, rd, first, rs1, second, rfl⟩ := h
      obtain ⟨a, b, c, rfl⟩ := List.length_eq_three.1 count
      exact .immediate (by simpa using first) (by simpa using second) (by simpa using third)
  | shift op =>
      simp [Statement.toInstruction] at h
      obtain ⟨count, amount, third, rd, first, rs1, second, rfl⟩ := h
      obtain ⟨a, b, c, rfl⟩ := List.length_eq_three.1 count
      have third : shiftRange.Reads c amount := by simpa using third
      have natural : (amount.toNat : Int) = amount := Int.toNat_of_nonneg third.2.1
      exact .shift (by simpa using first) (by simpa using second) (natural ▸ third)
  | load op =>
      simp [Statement.toInstruction] at h
      obtain ⟨count, offset, base, second, rd, first, rfl⟩ := h
      obtain ⟨a, b, rfl⟩ := List.length_eq_two.1 count
      exact .load (by simpa using first) (by simpa using second)
  | store op =>
      simp [Statement.toInstruction] at h
      obtain ⟨count, offset, base, second, source, first, rfl⟩ := h
      obtain ⟨a, b, rfl⟩ := List.length_eq_two.1 count
      exact .store (by simpa using first) (by simpa using second)
  | branch op =>
      simp [Statement.toInstruction] at h
      obtain ⟨count, offset, third, rs1, first, rs2, second, rfl⟩ := h
      obtain ⟨a, b, c, rfl⟩ := List.length_eq_three.1 count
      exact .branch (by simpa using first) (by simpa using second) (by simpa using third)
  | upper op =>
      simp [Statement.toInstruction] at h
      obtain ⟨count, rd, first, value, second, rfl⟩ := h
      obtain ⟨a, b, rfl⟩ := List.length_eq_two.1 count
      exact .upper (by simpa using first) (by simpa using second)
  | jal =>
      simp only [Statement.toInstruction] at h
      split at h
      next count =>
        obtain ⟨a, rfl⟩ := List.length_eq_one_iff.1 count
        simp at h
        obtain ⟨offset, first, rfl⟩ := h
        exact .jalInOne first
      next =>
        simp at h
        obtain ⟨count, rd, first, offset, second, rfl⟩ := h
        obtain ⟨a, b, rfl⟩ := List.length_eq_two.1 count
        exact .jal (by simpa using first) (by simpa using second)
  | jalr => exact means_of_toJalr h
  | j =>
      simp [Statement.toInstruction] at h
      obtain ⟨count, offset, first, rfl⟩ := h
      obtain ⟨a, rfl⟩ := List.length_eq_one_iff.1 count
      exact .j (by simpa using first)
  | jr =>
      simp [Statement.toInstruction] at h
      obtain ⟨count, base, first, rfl⟩ := h
      obtain ⟨a, rfl⟩ := List.length_eq_one_iff.1 count
      exact .jr (by simpa using first)
  | ret =>
      simp [Statement.toInstruction] at h
      obtain ⟨rfl, rfl⟩ := h
      exact .ret
  | nop =>
      simp [Statement.toInstruction] at h
      obtain ⟨rfl, rfl⟩ := h
      exact .nop
  | mv =>
      simp [Statement.toInstruction] at h
      obtain ⟨count, rd, first, source, second, rfl⟩ := h
      obtain ⟨a, b, rfl⟩ := List.length_eq_two.1 count
      exact .mv (by simpa using first) (by simpa using second)
  | li =>
      simp [Statement.toInstruction] at h
      obtain ⟨count, rd, first, value, second, rfl⟩ := h
      obtain ⟨a, b, rfl⟩ := List.length_eq_two.1 count
      exact .li (by simpa using first) (by simpa using second)

theorem toInstruction_of_means (h : Means context.labels.Places context.index s i) :
    ∃ m : Mnemonic, m.spelling = s.mnemonic ∧ s.toInstruction context m = .ok i := by
  cases h with
  | @register op _ _ _ _ _ _ first second third =>
      exact ⟨.register op, rfl, by simp [Statement.toInstruction, first, second, third]⟩
  | @immediate op _ _ _ _ _ _ first second third =>
      exact ⟨.immediate op, rfl, by simp [Statement.toInstruction, first, second, third]⟩
  | @shift op _ _ _ _ _ amount first second third =>
      refine ⟨.shift op, rfl, ?_⟩
      simp [Statement.toInstruction, first, second]
      exact ⟨amount, third, rfl⟩
  | @load op _ _ _ _ _ first second =>
      exact ⟨.load op, rfl, by simp [Statement.toInstruction, first, second]⟩
  | @store op _ _ _ _ _ first second =>
      exact ⟨.store op, rfl, by simp [Statement.toInstruction, first, second]⟩
  | @branch op _ _ _ _ _ _ first second third =>
      exact ⟨.branch op, rfl, by simp [Statement.toInstruction, first, second, third]⟩
  | @upper op _ _ _ _ first second =>
      exact ⟨.upper op, rfl, by simp [Statement.toInstruction, first, second]⟩
  | jal first second => exact ⟨.jal, rfl, by simp [Statement.toInstruction, first, second]⟩
  | jalr first second =>
      exact ⟨.jalr, rfl, by simp [Statement.toInstruction, Statement.toJalr, first, second]⟩
  | jalrInThree first second third =>
      exact ⟨.jalr, rfl, by simp [Statement.toInstruction, Statement.toJalr, first, second, third]⟩
  | jalInOne first => exact ⟨.jal, rfl, by simp [Statement.toInstruction, first]⟩
  | jalrInOne first =>
      exact ⟨.jalr, rfl, by simp [Statement.toInstruction, Statement.toJalr, first]⟩
  | j first => exact ⟨.j, rfl, by simp [Statement.toInstruction, first]⟩
  | jr first => exact ⟨.jr, rfl, by simp [Statement.toInstruction, first]⟩
  | ret => exact ⟨.ret, rfl, by simp [Statement.toInstruction]⟩
  | nop => exact ⟨.nop, rfl, by simp [Statement.toInstruction]⟩
  | mv first second => exact ⟨.mv, rfl, by simp [Statement.toInstruction, first, second]⟩
  | li first second => exact ⟨.li, rfl, by simp [Statement.toInstruction, first, second]⟩

theorem instructionOf_eq_ok_iff {text : List Char} :
    instructionOf context text = .ok i ↔
      ∃ s, Spelled text s ∧ Means context.labels.Places context.index s i := by
  unfold instructionOf
  constructor
  · intro h
    split at h
    · cases h
    next s parsed =>
      split at h
      · cases h
      next m found =>
        obtain ⟨mnemonic, operands⟩ := s
        obtain rfl : m.spelling = mnemonic := Mnemonic.ofString?_eq_some_iff.1 found
        exact ⟨_, parse?_eq_some_iff.1 parsed, means_of_toInstruction h⟩
  · rintro ⟨s, spelled, means⟩
    obtain ⟨m, spelling, read⟩ := toInstruction_of_means means
    rw [parse?_eq_some_iff.2 spelled]
    simp only [Mnemonic.ofString?_eq_some_iff.2 spelling, read]

end FiveStage.Assembly
