import FiveStage.Proofs.Assembly.Encoding
import FiveStage.Proofs.Isa.Canonical

/-!
# Printed instructions

A printed instruction is a mnemonic, a blank, and operands with a comma and a blank between them.
Read as a statement it has just this mnemonic and these operands.
-/

namespace FiveStage.Assembly

open Text

def isPlain (c : Char) : Bool := c.isAlphanum || c == '-' || c == '(' || c == ')'

theorem isBlank_of_isPlain {c : Char} (h : isPlain c = true) : isBlank c = false := by
  simp [isPlain, Char.isAlphanum, Char.isAlpha, Char.isUpper, Char.isLower, Char.isDigit,
    UInt32.le_iff_toNat_le, ← Char.toNat_inj] at h
  simp [isBlank]
  omega

def IsPlainText (text : List Char) : Prop := text ≠ [] ∧ ∀ c ∈ text, isPlain c = true

instance (text : List Char) : Decidable (IsPlainText text) :=
  decidable_of_iff (text ≠ [] ∧ text.all isPlain = true) (and_congr_right' List.all_eq_true)

structure IsTight (text : List Char) : Prop where
  ne_nil : text ≠ []
  first : ∀ c ∈ text.head?, isBlank c = false
  last : ∀ c ∈ text.getLast?, isBlank c = false

namespace IsTight

theorem of_isPlain {text : List Char} (plain : IsPlainText text) : IsTight text :=
  ⟨plain.1, fun c mem => isBlank_of_isPlain (plain.2 c (List.mem_of_mem_head? mem)),
    fun c mem => isBlank_of_isPlain (plain.2 c (List.mem_of_mem_getLast? mem))⟩

theorem append {front back : List Char} (h : IsTight front) (h' : IsTight back)
    (middle : List Char) : IsTight (front ++ (middle ++ back)) where
  ne_nil := by simp [h.ne_nil]
  first := by
    intro c mem
    rw [List.head?_append_of_ne_nil _ h.ne_nil] at mem
    exact h.first c mem
  last := by
    intro c mem
    have some : middle ++ back ≠ [] := by simp [h'.ne_nil]
    rw [List.getLast?_append_of_ne_nil _ some, List.getLast?_append_of_ne_nil _ h'.ne_nil] at mem
    exact h'.last c mem

theorem intercalate {pieces : List (List Char)} (separator : List Char) (some : pieces ≠ [])
    (tight : ∀ piece ∈ pieces, IsTight piece) : IsTight (separator.intercalate pieces) := by
  induction pieces with
  | nil => exact absurd rfl some
  | cons piece rest ih =>
      cases rest with
      | nil =>
          rw [List.intercalate_singleton]
          exact tight piece (List.mem_singleton_self piece)
      | cons next rest =>
          rw [List.intercalate_cons_cons, List.append_assoc]
          exact (tight piece (List.mem_cons_self ..)).append
            (ih (List.cons_ne_nil _ _) fun other mem => tight other (List.mem_cons_of_mem _ mem))
            separator

theorem trim_eq {text : List Char} (h : IsTight text) : trim text = text :=
  trim_eq_self h.first h.last

end IsTight

/-! ## Statements in print -/

namespace Statement

def print (s : Statement) : List Char :=
  s.mnemonic.toList ++ ' ' :: [',', ' '].intercalate s.operands

structure IsPlain (s : Statement) : Prop where
  named : s.mnemonic.toList ≠ []
  lower : ∀ c ∈ s.mnemonic.toList, c.isLower = true
  operands : s.operands ≠ []
  operand : ∀ text ∈ s.operands, IsPlainText text

end Statement

theorem takeWhile_print {s : Statement} (plain : s.IsPlain) :
    s.print.takeWhile Char.isLower = s.mnemonic.toList :=
  takeWhile_append_of_stop plain.lower (by simp [Char.isLower])

theorem intercalate_comma (first : List Char) (rest : List (List Char)) :
    [','].intercalate (first :: rest.map (' ' :: ·)) =
      [',', ' '].intercalate (first :: rest) := by
  induction rest generalizing first with
  | nil => simp
  | cons next rest ih =>
      rw [List.map_cons, List.intercalate_cons_cons, List.intercalate_cons_cons, ← ih]
      cases rest <;> simp

theorem trim_blank_cons {text : List Char} (tight : IsTight text) : trim (' ' :: text) = text :=
  tight.trim_eq

theorem lists_intercalate {operands : List (List Char)} (some : operands ≠ [])
    (plain : ∀ text ∈ operands, IsPlainText text) :
    Lists (' ' :: [',', ' '].intercalate operands) operands := by
  have tight : ∀ text ∈ operands, IsTight text := fun text mem => .of_isPlain (plain text mem)
  have clean : ∀ text ∈ operands, ',' ∉ text := fun text mem comma => by
    simpa [isPlain] using (plain text mem).2 ',' comma
  have joined := IsTight.intercalate [',', ' '] some tight
  have trimmed := trim_blank_cons joined
  cases operands with
  | nil => exact absurd rfl some
  | cons first rest =>
      refine .inr ⟨by rw [trimmed]; exact joined.ne_nil, first :: rest.map (' ' :: ·),
        List.cons_ne_nil _ _, by simpa using clean, by rw [trimmed, intercalate_comma], ?_⟩
      have others : (rest.map (' ' :: ·)).map trim = rest := by
        rw [List.map_map]
        exact (List.map_congr_left fun text mem =>
          trim_blank_cons (tight text (List.mem_cons_of_mem _ mem))).trans (List.map_id rest)
      rw [List.map_cons, others, (tight first (List.mem_cons_self ..)).trim_eq]

theorem toLower_of_isLower {c : Char} (h : c.isLower = true) : c.toLower = c := by
  simp only [Char.isLower, Bool.and_eq_true, decide_eq_true_eq] at h
  have low : 97 ≤ c.val.toNat := UInt32.le_iff_toNat_le.1 h.1
  rw [Char.toLower, dif_neg]
  rintro ⟨-, upper⟩
  have high : c.val.toNat ≤ 90 := UInt32.le_iff_toNat_le.1 upper
  omega

theorem spelled_print {s : Statement} (plain : s.IsPlain) : Spelled s.print s := by
  cases letters : s.mnemonic.toList with
  | nil => exact absurd letters plain.named
  | cons letter name =>
      have lower : ∀ c ∈ letter :: name, c.isLower = true := letters ▸ plain.lower
      have kept : lowerCase (letter :: name) = letter :: name :=
        (List.map_congr_left fun c mem => toLower_of_isLower (lower c mem)).trans (List.map_id _)
      have alpha : ∀ c ∈ letter :: name, c.isAlpha = true := fun c mem => by
        simp [Char.isAlpha, lower c mem]
      refine ⟨letter, name, ' ' :: [',', ' '].intercalate s.operands, ?_,
        alpha letter (List.mem_cons_self ..),
        fun c mem => .inl (alpha c (List.mem_cons_of_mem _ mem)), by simp [isBlank], ?_,
        lists_intercalate plain.operands plain.operand⟩
      · rw [Statement.print, letters, List.cons_append]
      · rw [kept, ← letters, String.ofList_toList]

/-! ## Operands in print -/

theorem isPlainText_toDigits (base : Nat) (low : 1 < base) (high : base ≤ 16) (n : Nat) :
    IsPlainText (Nat.toDigits base n) :=
  ⟨Nat.toDigits_ne_nil, fun c mem => by
    simp [isPlain, isAlphanum_of_mem_toDigits base low high mem]⟩

theorem toList_toString_nat (n : Nat) : (toString n).toList = Nat.toDigits 10 n := by
  rw [Nat.toString_eq_repr, Nat.toList_repr]

theorem toList_toString_int (value : Int) :
    (toString value).toList =
      if 0 ≤ value then Nat.toDigits 10 value.toNat else '-' :: Nat.toDigits 10 (-value).toNat := by
  rw [Int.toString_eq_repr, Int.repr_eq_if]
  split
  · rw [Nat.toList_repr]
  · rw [String.toList_append, Nat.toList_repr]
    rfl

theorem isPlainText_toString_nat (n : Nat) : IsPlainText (toString n).toList := by
  rw [toList_toString_nat]
  exact isPlainText_toDigits 10 (by decide) (by decide) n

theorem isPlainText_toString_int (value : Int) : IsPlainText (toString value).toList := by
  rw [toList_toString_int]
  split
  · exact isPlainText_toDigits 10 (by decide) (by decide) _
  · refine ⟨List.cons_ne_nil _ _, ?_⟩
    have digits := isPlainText_toDigits 10 (by decide) (by decide) (-value).toNat
    simpa [isPlain] using digits.2

theorem toList_hex (n : Nat) : (hex n).toList = '0' :: 'x' :: Nat.toDigits 16 n := by
  have some : 0 < (Nat.toDigits 16 n).length := Nat.length_toDigits_pos
  simp [hex, paddedDigits, List.leftpad]
  omega

theorem isPlainText_hex (n : Nat) : IsPlainText (hex n).toList := by
  have digits := isPlainText_toDigits 16 (by decide) (by decide) n
  rw [toList_hex]
  exact ⟨List.cons_ne_nil _ _, by simpa [isPlain] using digits.2⟩

theorem isPlainText_hex32 (n : Nat) : IsPlainText (hex32 n).toList := by
  have digits := isPlainText_toDigits 16 (by decide) (by decide) n
  refine ⟨by simp [hex32], fun c mem => ?_⟩
  simp only [hex32, paddedDigits, List.leftpad, String.toList_ofList, List.mem_cons,
    List.mem_append, List.mem_replicate] at mem
  rcases mem with rfl | rfl | ⟨-, rfl⟩ | digit
  · decide
  · decide
  · decide
  · exact digits.2 c digit

theorem isPlainText_name : ∀ r : Register, IsPlainText r.name.toList := by decide

/-! ## Numbers read back -/

theorem isDigit_of_mem_toDigits {n : Nat} {c : Char} (h : c ∈ Nat.toDigits 10 n) :
    c.isDigit = true :=
  Nat.isDigit_of_mem_toDigits (by decide) (by decide) h

theorem magnitude?_toDigits {n : Nat} (fits : n < signedLimit) :
    magnitude? (Nat.toDigits 10 n) = some n := by
  unfold magnitude?
  split
  next digits shape =>
    have letter : 'x' ∈ Nat.toDigits 10 n := by simp [shape]
    cases isDigit_of_mem_toDigits letter
  next digits shape =>
    have letter : 'X' ∈ Nat.toDigits 10 n := by simp [shape]
    cases isDigit_of_mem_toDigits letter
  next => simp [natural?_toDigits 10 (by decide) (by decide), fits]

theorem magnitude?_hex {n : Nat} (fits : n < signedLimit) :
    magnitude? (hex n).toList = some n := by
  rw [toList_hex]
  simp [magnitude?, natural?_toDigits 16 (by decide) (by decide), fits]

theorem integer?_toDigits {n : Nat} (fits : n < signedLimit) :
    integer? (Nat.toDigits 10 n) = some (n : Int) := by
  have plain := isPlainText_toDigits 10 (by decide) (by decide) n
  rw [integer?, (IsTight.of_isPlain plain).trim_eq]
  split
  next digits shape =>
    have sign : '-' ∈ Nat.toDigits 10 n := by simp [shape]
    cases isDigit_of_mem_toDigits sign
  next digits shape =>
    have sign : '+' ∈ Nat.toDigits 10 n := by simp [shape]
    cases isDigit_of_mem_toDigits sign
  next => simp [magnitude?_toDigits fits]

theorem integer?_toString {value : Int} (fits : value.natAbs < signedLimit) :
    integer? (toString value).toList = some value := by
  have plain := isPlainText_toString_int value
  by_cases sign : 0 ≤ value
  · rw [toList_toString_int, if_pos sign, integer?_toDigits (by omega)]
    exact congrArg some (Int.toNat_of_nonneg sign)
  · have trimmed := (IsTight.of_isPlain plain).trim_eq
    rw [toList_toString_int, if_neg sign] at trimmed ⊢
    have back : -((-value).toNat : Int) = value := by omega
    rw [integer?, trimmed]
    simpa [magnitude?_toDigits (show (-value).toNat < signedLimit by omega)] using back

theorem integer?_hex {n : Nat} (fits : n < signedLimit) :
    integer? (hex n).toList = some (n : Int) := by
  have plain := isPlainText_hex n
  have read := magnitude?_hex fits
  have trimmed := (IsTight.of_isPlain plain).trim_eq
  rw [toList_hex] at trimmed read ⊢
  rw [integer?, trimmed]
  simp [read]

theorem parse?_name : ∀ r : Register, Register.parse? r.name.toList = some r := by decide +kernel

/-! ## Instructions as statements -/

def addressText (offset : Int) (base : Register) : List Char :=
  (toString offset).toList ++ '(' :: (base.name.toList ++ [')'])

theorem isPlainText_addressText (offset : Int) (base : Register) :
    IsPlainText (addressText offset base) := by
  have front := isPlainText_toString_int offset
  have inside := isPlainText_name base
  refine ⟨by simp [addressText], fun c mem => ?_⟩
  simp only [addressText, List.mem_append, List.mem_cons, List.mem_nil_iff, or_false] at mem
  rcases mem with digit | rfl | letter | rfl
  · exact front.2 c digit
  · decide
  · exact inside.2 c letter
  · decide

theorem isParenthesis_of_mem_toString {value : Int} {c : Char} (h : c ∈ (toString value).toList) :
    isParenthesis c = false := by
  have digit_or_sign : c.isDigit = true ∨ c = '-' := by
    rw [toList_toString_int] at h
    split at h
    · exact .inl (isDigit_of_mem_toDigits h)
    · exact (List.mem_cons.1 h).symm.imp_left isDigit_of_mem_toDigits
  rw [← Bool.not_eq_true, isParenthesis, Bool.or_eq_true, beq_iff_eq, beq_iff_eq]
  rintro (rfl | rfl) <;> simp at digit_or_sign

theorem isParenthesis_name (r : Register) : ∀ c ∈ r.name.toList, isParenthesis c = false := by
  have none : r.name.toList.any isParenthesis = false := by
    revert r
    decide
  simpa using none

theorem isAddress_addressText {offset : Int} (base : Register)
    (fits : -2048 ≤ offset ∧ offset ≤ 2047) :
    IsAddress (addressText offset base) offset base := by
  have front := isPlainText_toString_int offset
  have inside := isPlainText_name base
  refine ⟨(toString offset).toList, base.name.toList, ⟨⟨(toString offset).toList, [], [], ?_, ?_,
    fun c => isParenthesis_of_mem_toString, by simp⟩, inside.1, fun c mem => ?_⟩, parse?_name base,
    .inr ⟨integer?_toString ?_, fits⟩⟩
  · simp [addressText]
  · rw [(IsTight.of_isPlain front).trim_eq]
  · exact ⟨isParenthesis_name base c mem, isBlank_of_isPlain (inside.2 c mem)⟩
  · rw [signedLimit]
    omega

end FiveStage.Assembly

namespace FiveStage

open Assembly

def Instruction.statement : Instruction → Statement
  | register op rd rs1 rs2 =>
      ⟨op.mnemonic, [rd.name.toList, rs1.name.toList, rs2.name.toList]⟩
  | immediate op rd rs1 value =>
      ⟨op.mnemonic, [rd.name.toList, rs1.name.toList, (toString value).toList]⟩
  | shift op rd rs1 amount =>
      ⟨op.mnemonic, [rd.name.toList, rs1.name.toList, (toString amount).toList]⟩
  | load op rd base offset => ⟨op.mnemonic, [rd.name.toList, addressText offset base]⟩
  | store op source base offset => ⟨op.mnemonic, [source.name.toList, addressText offset base]⟩
  | branch op rs1 rs2 offset =>
      ⟨op.mnemonic, [rs1.name.toList, rs2.name.toList, (toString offset).toList]⟩
  | upper op rd value =>
      ⟨op.mnemonic, [rd.name.toList, (Text.hex (BitVec.ofInt 20 value).toNat).toList]⟩
  | jal rd offset => ⟨"jal", [rd.name.toList, (toString offset).toList]⟩
  | jalr rd base offset => ⟨"jalr", [rd.name.toList, addressText offset base]⟩

def Word.statement (w : Word) : Statement :=
  match Instruction.ofWord? w with
  | some i => i.statement
  | none => ⟨"unknown", ['(' :: ((Text.hex32 w.toNat).toList ++ [')'])]⟩

theorem Instruction.toList_render (i : Instruction) : i.render.toList = i.statement.print := by
  cases i <;> simp [render, statement, Statement.print, addressText, List.intercalate, toString]

theorem Word.toList_disassemble (w : Word) : w.disassemble.toList = w.statement.print := by
  unfold disassemble statement
  cases Instruction.ofWord? w with
  | some i => exact i.toList_render
  | none => simp [Statement.print, List.intercalate, toString]

def Instruction.mnemonic : Instruction → Mnemonic
  | register op .. => .register op
  | immediate op .. => .immediate op
  | shift op .. => .shift op
  | load op .. => .load op
  | store op .. => .store op
  | branch op .. => .branch op
  | upper op .. => .upper op
  | jal .. => .jal
  | jalr .. => .jalr

theorem Instruction.spelling_mnemonic (i : Instruction) :
    i.mnemonic.spelling = i.statement.mnemonic := by
  cases i <;> rfl

theorem Assembly.Mnemonic.lower_spelling (m : Mnemonic) :
    m.spelling.toList ≠ [] ∧ ∀ c ∈ m.spelling.toList, c.isLower = true := by
  rw [← List.all_eq_true]
  cases m with
  | register op | immediate op | shift op | load op | store op | branch op | upper op =>
      cases op <;> decide
  | _ => decide

theorem Instruction.isPlain_statement (i : Instruction) : i.statement.IsPlain := by
  have lower := i.mnemonic.lower_spelling
  rw [i.spelling_mnemonic] at lower
  refine ⟨lower.1, lower.2, by cases i <;> simp [statement], ?_⟩
  cases i <;>
    simp only [statement, List.forall_mem_cons, List.not_mem_nil, false_imp_iff, implies_true,
      isPlainText_name, isPlainText_toString_nat, isPlainText_toString_int,
      isPlainText_addressText, isPlainText_hex, and_self]

theorem Word.isPlain_statement (w : Word) : w.statement.IsPlain := by
  unfold statement
  cases Instruction.ofWord? w with
  | some i => exact i.isPlain_statement
  | none =>
      refine ⟨show "unknown".toList ≠ [] by decide,
        List.all_eq_true.1 (show "unknown".toList.all Char.isLower = true by decide),
        List.cons_ne_nil _ _, ?_⟩
      rintro _ (_ | ⟨_, ⟨⟩⟩)
      refine ⟨List.cons_ne_nil _ _, fun c mem => ?_⟩
      simp only [List.mem_cons, List.mem_append, List.not_mem_nil, or_false] at mem
      rcases mem with rfl | digit | rfl
      · decide
      · exact (isPlainText_hex32 w.toNat).2 c digit
      · decide

theorem Assembly.Range.reads_toString {range : Range} {value : Int}
    (within : -1048576 ≤ range.low ∧ range.high ≤ 1048575)
    (fits : range.low ≤ value ∧ value ≤ range.high) :
    range.Reads (toString value).toList value :=
  ⟨integer?_toString (by rw [Text.signedLimit]; omega), fits⟩

theorem Word.means_statement {w : Word} {i : Instruction} (holds : w.Holds i) (index : Nat) :
    Means (fun _ _ => False) index i.statement i := by
  have fits := Instruction.fits_of_holds holds
  cases holds with
  | register => exact .register (parse?_name _) (parse?_name _) (parse?_name _)
  | immediate =>
      exact .immediate (parse?_name _) (parse?_name _) (Range.reads_toString (by decide) fits)
  | shift =>
      refine .shift (parse?_name _) (parse?_name _) ⟨?_, by simp [shiftRange], ?_⟩
      · rw [toList_toString_nat, integer?_toDigits (Nat.lt_trans w.shiftAmount_lt (by decide))]
      · exact Int.le_sub_one_of_lt (Int.ofNat_lt.2 w.shiftAmount_lt)
  | load => exact .load (parse?_name _) (isAddress_addressText _ fits)
  | store => exact .store (parse?_name _) (isAddress_addressText _ fits)
  | branch =>
      exact .branch (parse?_name _) (parse?_name _)
        (.number (fun _ => id) (Range.reads_toString (by decide) ⟨fits.1, fits.2.1⟩) fits.2.2)
  | upper =>
      have small : w.upperValue < 1048576 := (w.extractLsb' 12 20).isLt
      have printed : (BitVec.ofInt 20 w.upperValue).toNat = w.upperValue := by
        rw [BitVec.ofInt_natCast, BitVec.toNat_ofNat, Nat.mod_eq_of_lt small]
      refine .upper (parse?_name _) ⟨?_, fits⟩
      rw [printed, integer?_hex (Nat.lt_trans small (by decide))]
  | jal =>
      exact .jal (parse?_name _)
        (.number (fun _ => id) (Range.reads_toString (by decide) ⟨fits.1, fits.2.1⟩) fits.2.2)
  | jalr => exact .jalr (parse?_name _) (isAddress_addressText _ fits)

end FiveStage
