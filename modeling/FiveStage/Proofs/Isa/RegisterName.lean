import FiveStage.Isa.Register
import Mathlib.Tactic.Common

/-!
# How registers are written

A register is written as `x` and its number, or by a name of the calling convention, in any case
and with blanks around it.  Reading takes these spellings and one more: a plus sign may stand in
front of the number.
-/

namespace FiveStage

namespace Text

def IsDecimal (digits : List Char) (n : Nat) : Prop :=
  digits ≠ [] ∧ (∀ c ∈ digits, c.isDigit = true) ∧ Nat.ofDigitChars 10 digits 0 = n

theorem appendDigit?_ten (value : Nat) (c : Char) :
    appendDigit? 10 value c =
      if c.isDigit then some (10 * value + (c.toNat - '0'.toNat)) else none := by
  have decimal : c.isDigit = true ↔ '0' ≤ c ∧ c ≤ '9' := by
    simp only [Char.isDigit, Bool.and_eq_true, decide_eq_true_eq]
    exact Iff.rfl
  by_cases digit : '0' ≤ c ∧ c ≤ '9'
  · have small : c.toNat ≤ '9'.toNat := digit.2
    have below : c.toNat - '0'.toNat < 10 := by
      have nine : '9'.toNat = 57 := rfl
      have zero : '0'.toNat = 48 := rfl
      omega
    simp only [appendDigit?, digitValue?, if_pos digit, if_pos below, if_pos (decimal.2 digit)]
  · rw [if_neg (decimal.not.2 digit)]
    simp only [appendDigit?, digitValue?, if_neg digit]
    split_ifs <;> simp

theorem foldlM_appendDigit?_eq_some_iff {text : List Char} {value n : Nat} :
    text.foldlM (appendDigit? 10) value = some n ↔
      (∀ c ∈ text, c.isDigit = true) ∧ Nat.ofDigitChars 10 text value = n := by
  induction text generalizing value with
  | nil => simp
  | cons c rest ih =>
      rw [List.foldlM_cons, appendDigit?_ten, Nat.ofDigitChars_cons]
      cases digit : c.isDigit with
      | true => simp [digit, ih]
      | false => simp [digit]

theorem natural?_eq_some_iff {text : List Char} {n : Nat} :
    natural? 10 text = some n ↔ IsDecimal text n := by
  cases text with
  | nil => simp [natural?, IsDecimal]
  | cons c rest =>
      rw [natural?, foldlM_appendDigit?_eq_some_iff, IsDecimal]
      simp

theorem count?_eq_some_iff {text : List Char} {n : Nat} :
    count? text = some n ↔
      (IsDecimal text n ∨ ∃ digits, text = '+' :: digits ∧ IsDecimal digits n) ∧
        n < unsignedLimit := by
  have plus : ¬∀ c ∈ '+' :: text.tail, c.isDigit = true := by
    intro all
    exact absurd (all '+' List.mem_cons_self) (by decide)
  unfold count?
  rw [Option.filter_eq_some_iff, decide_eq_true_eq]
  refine and_congr_left fun _ => ?_
  split
  next digits =>
    rw [natural?_eq_some_iff]
    constructor
    · exact fun read => .inr ⟨digits, rfl, read⟩
    · rintro (whole | ⟨_, ⟨⟩, read⟩)
      · exact absurd whole.2.1 plus
      · exact read
  next unsigned =>
    rw [natural?_eq_some_iff]
    constructor
    · exact .inl
    · rintro (read | ⟨digits, rfl, -⟩)
      · exact read
      · exact absurd rfl (unsigned digits)

end Text

namespace Register

open Text

inductive Spells : List Char → Register → Prop where
  | number {digits : List Char} {r : Register} (decimal : IsDecimal digits r.val) :
      Spells ('x' :: digits) r
  | convention {name : String} {r : Register} (named : names[r.val]? = some name) :
      Spells name.toList r
  | framePointer : Spells ['f', 'p'] 8

theorem ofName?_name : ∀ r : Register, ofName? r.name.toList = some r := by decide +kernel

theorem head?_names : ∀ name ∈ names, name.toList.head? ≠ some 'x' := by decide +kernel

theorem ofIndex?_eq_some_iff {index : Nat} {r : Register} :
    ofIndex? index = some r ↔ index = r.val := by
  constructor
  · intro h
    unfold ofIndex? at h
    split at h
    · cases h
      rfl
    · cases h
  · rintro rfl
    exact ofIndex?_val r

theorem ofName?_eq_some_iff {text : List Char} {r : Register} :
    ofName? text = some r ↔
      (∃ name, names[r.val]? = some name ∧ name.toList = text) ∨ text = ['f', 'p'] ∧ r = 8 := by
  constructor
  · intro h
    unfold ofName? at h
    split at h
    next pointer => exact .inr ⟨pointer, (Option.some.inj h).symm⟩
    next =>
      obtain ⟨index, found, here⟩ := Option.bind_eq_some_iff.1 h
      obtain rfl := ofIndex?_eq_some_iff.1 here
      obtain ⟨inside, same, -⟩ := List.findIdx?_eq_some_iff_getElem.1 found
      exact .inl ⟨_, List.getElem?_eq_getElem inside, of_decide_eq_true same⟩
  · rintro (⟨name, named, rfl⟩ | ⟨rfl, rfl⟩)
    · have own : r.name = name := by simp [Register.name, nameOf, named]
      exact own ▸ ofName?_name r
    · rfl

theorem ofName?_x (text : List Char) : ofName? ('x' :: text) = none := by
  rw [Option.eq_none_iff_forall_ne_some]
  intro r h
  rcases ofName?_eq_some_iff.1 h with ⟨name, named, same⟩ | ⟨other, -⟩
  · exact head?_names name (List.mem_of_getElem? named) (by rw [same]; rfl)
  · simp at other

theorem spells_iff_of_not_x {text : List Char} {r : Register}
    (other : ∀ digits, text ≠ 'x' :: digits) : Spells text r ↔ ofName? text = some r := by
  rw [ofName?_eq_some_iff]
  constructor
  · intro spelled
    cases spelled with
    | number => exact absurd rfl (other _)
    | convention named => exact .inl ⟨_, named, rfl⟩
    | framePointer => exact .inr ⟨rfl, rfl⟩
  · rintro (⟨name, named, rfl⟩ | ⟨rfl, rfl⟩)
    · exact .convention named
    · exact .framePointer

theorem spells_x_iff {text : List Char} {r : Register} :
    Spells ('x' :: text) r ↔ IsDecimal text r.val := by
  constructor
  · intro spelled
    generalize whole : 'x' :: text = spelling at spelled
    cases spelled with
    | number decimal =>
        obtain ⟨-, rfl⟩ := List.cons.inj whole
        exact decimal
    | convention named =>
        exact absurd (by rw [← whole]; rfl) (head?_names _ (List.mem_of_getElem? named))
    | framePointer => simp at whole
  · exact .number

/-- Reading accepts the spellings of a register and, in front of its number, a plus sign. -/
theorem parse?_iff_spells_or_signed (text : List Char) (r : Register) :
    parse? text = some r ↔
      Spells (lowerCase (trim text)) r ∨
        ∃ digits, lowerCase (trim text) = 'x' :: '+' :: digits ∧ IsDecimal digits r.val := by
  have small : r.val < unsignedLimit := Nat.lt_trans r.isLt (by decide)
  unfold parse?
  generalize lowerCase (trim text) = spelling
  simp only
  split
  next number =>
    calc
      _ ↔ count? number = some r.val := by
        cases count? number with
        | none => simp [ofName?_x]
        | some index => simp [ofIndex?_eq_some_iff]
      _ ↔ IsDecimal number r.val ∨ ∃ digits, number = '+' :: digits ∧ IsDecimal digits r.val := by
        rw [count?_eq_some_iff, and_iff_left small]
      _ ↔ _ := by simp [spells_x_iff]
  next other =>
    rw [spells_iff_of_not_x other]
    constructor
    · exact .inl
    · rintro (named | ⟨digits, rfl, -⟩)
      · exact named
      · exact absurd rfl (other _)

theorem not_only_spellings_read :
    ¬∀ (text : List Char) (r : Register),
      parse? text = some r ↔ Spells (lowerCase (trim text)) r := by
  intro only
  have read : parse? ['x', '+', '5'] = some 5 := by decide +kernel
  obtain ⟨-, digits, -⟩ := spells_x_iff.1 ((only _ _).1 read)
  exact absurd (digits '+' List.mem_cons_self) (by decide)

end Register

end FiveStage
