import FiveStage.Text.Document
import FiveStage.Text.Numeral
import Mathlib.Tactic.Common

/-!
# Text read back

Splitting undoes joining, and a written numeral has the value that it was written for.
-/

namespace FiveStage.Text

/-! ## Pieces -/

theorem notMem_of_mem_splitOn {separator : Char} {text piece : List Char}
    (h : piece ∈ text.splitOn separator) : separator ∉ piece := by
  induction text generalizing piece with
  | nil => simp_all
  | cons c rest ih =>
      rw [List.splitOn_cons_eq_if_modifyHead] at h
      split at h
      · rcases List.mem_cons.1 h with rfl | later
        · simp
        · exact ih later
      next other =>
        have distinct : c ≠ separator := by simpa using other
        cases pieces : rest.splitOn separator with
        | nil => exact absurd pieces (List.splitOn_ne_nil separator rest)
        | cons first others =>
            rw [pieces, List.modifyHead_cons] at h
            rcases List.mem_cons.1 h with rfl | later
            · simpa [distinct.symm] using ih (pieces ▸ List.mem_cons_self ..)
            · exact ih (pieces ▸ List.mem_cons_of_mem _ later)

theorem splitOn_eq_iff {separator : Char} {text : List Char} {pieces : List (List Char)} :
    text.splitOn separator = pieces ↔
      pieces ≠ [] ∧ (∀ piece ∈ pieces, separator ∉ piece) ∧
        [separator].intercalate pieces = text := by
  constructor
  · rintro rfl
    exact ⟨List.splitOn_ne_nil separator text, fun piece => notMem_of_mem_splitOn,
      List.intercalate_splitOn separator⟩
  · rintro ⟨some, clean, rfl⟩
    exact List.splitOn_intercalate separator clean some

theorem mem_intercalate {separator : List Char} {pieces : List (List Char)} {c : Char}
    (h : c ∈ separator.intercalate pieces) : c ∈ separator ∨ ∃ piece ∈ pieces, c ∈ piece := by
  induction pieces with
  | nil => cases h
  | cons piece rest ih =>
      cases rest with
      | nil =>
          rw [List.intercalate_singleton] at h
          exact .inr ⟨piece, List.mem_singleton_self piece, h⟩
      | cons next rest =>
          rw [List.intercalate_cons_cons, List.append_assoc, List.mem_append, List.mem_append] at h
          rcases h with front | between | behind
          · exact .inr ⟨piece, List.mem_cons_self .., front⟩
          · exact .inl between
          · exact (ih behind).imp_right fun ⟨other, mem, inside⟩ =>
              ⟨other, List.mem_cons_of_mem _ mem, inside⟩

theorem lines_flatMap {texts : List (List Char)} (clean : ∀ text ∈ texts, '\n' ∉ text) :
    lines (texts.flatMap fun text => text ++ ['\n']) = texts ++ [[]] := by
  induction texts with
  | nil => rfl
  | cons text rest ih =>
      have tail := ih fun other mem => clean other (List.mem_cons_of_mem text mem)
      rw [List.flatMap_cons, List.append_assoc, List.singleton_append, lines,
        List.splitOn_append_cons_self_of_not_mem (clean text (List.mem_cons_self ..)), ← lines,
        tail, List.cons_append]

/-! ## Numerals -/

theorem digitValue?_digitChar : ∀ d < 16, digitValue? d.digitChar = some d := by decide

theorem digitChar_isAlphanum : ∀ d < 16, d.digitChar.isAlphanum = true := by decide

theorem foldlM_toDigits {base : Nat} (low : 1 < base) (high : base ≤ 16) (n : Nat) :
    (Nat.toDigits base n).foldlM (appendDigit? base) 0 = some n := by
  induction n using Nat.base_induction base low with
  | single d lt =>
      simp [Nat.toDigits_of_lt_base lt, appendDigit?, digitValue?_digitChar d (by omega), lt]
  | digit n d lt pos ih =>
      rw [← Nat.toDigits_append_toDigits low pos lt, List.foldlM_append, ih,
        Nat.toDigits_of_lt_base lt]
      simp [appendDigit?, digitValue?_digitChar d (by omega), lt]

theorem natural?_toDigits (base : Nat) (low : 1 < base) (high : base ≤ 16) (n : Nat) :
    natural? base (Nat.toDigits base n) = some n := by
  cases digits : Nat.toDigits base n with
  | nil => exact absurd digits Nat.toDigits_ne_nil
  | cons c rest => rw [natural?, ← digits, foldlM_toDigits low high n]

theorem isAlphanum_of_mem_toDigits (base : Nat) (low : 1 < base) (high : base ≤ 16) {n : Nat}
    {c : Char} (h : c ∈ Nat.toDigits base n) : c.isAlphanum = true := by
  induction n using Nat.base_induction base low with
  | single d lt =>
      rw [Nat.toDigits_of_lt_base lt, List.mem_singleton] at h
      exact h ▸ digitChar_isAlphanum d (by omega)
  | digit n d lt pos ih =>
      rw [← Nat.toDigits_append_toDigits low pos lt, List.mem_append,
        Nat.toDigits_of_lt_base lt, List.mem_singleton] at h
      rcases h with front | rfl
      · exact ih front
      · exact digitChar_isAlphanum d (by omega)

end FiveStage.Text
