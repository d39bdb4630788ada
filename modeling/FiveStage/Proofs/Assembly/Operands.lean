import FiveStage.Assembly.Statement
import FiveStage.Proofs.Text.RoundTrip

/-!
# Operands

What it takes for an operand to be a number within a range, an address or a target, and that each
reader accepts just these texts.
-/

namespace FiveStage

@[simp] theorem bind_eq_ok_iff {ε α β : Type} {x : Except ε α} {f : α → Except ε β} {b : β} :
    (x >>= f) = .ok b ↔ ∃ a, x = .ok a ∧ f a = .ok b := by
  cases x <;> simp [bind, Except.bind]

@[simp] theorem map_eq_ok_iff {ε α β : Type} {x : Except ε α} {f : α → β} {b : β} :
    f <$> x = .ok b ↔ ∃ a, x = .ok a ∧ f a = b := by
  cases x <;> simp [Functor.map, Except.map]

namespace Assembly

open Text

def Range.Reads (range : Range) (text : List Char) (value : Int) : Prop :=
  integer? text = some value ∧ range.low ≤ value ∧ value ≤ range.high

/-- The parts of `offset(base)`.  Blanks may stand before and behind either of them. -/
structure AddressParts (text offset base : List Char) : Prop where
  shape : ∃ front gap gap', text = front ++ '(' :: (gap ++ base ++ gap' ++ [')']) ∧
    offset = trim front ∧ (∀ c ∈ front, isParenthesis c = false) ∧
    ∀ c ∈ gap ++ gap', isBlank c = true
  named : base ≠ []
  solid : ∀ c ∈ base, isParenthesis c = false ∧ isBlank c = false

def IsAddress (text : List Char) (offset : Int) (base : Register) : Prop :=
  ∃ front inside, AddressParts text front inside ∧ Register.parse? inside = some base ∧
    (front = [] ∧ offset = 0 ∨ immediateRange.Reads front offset)

def LabelTable.Places (table : LabelTable) (label : List Char) (index : Nat) : Prop :=
  table.find? label = some index

/-- A label at a distance, or the distance itself.  `place` relates a label to the number of
instructions before it, and `index` is the number of those before the one that refers to it. -/
inductive Leads (place : List Char → Nat → Prop) (index : Nat) (range : Range)
    (text : List Char) (offset : Int) : Prop
  | label {target : Nat} (named : text ≠ []) (placed : place text target)
      (reaches : 4 * (index : Int) + offset = 4 * target)
      (fits : range.low ≤ offset ∧ offset ≤ range.high)
  | number (unplaced : ∀ target, ¬place text target) (written : range.Reads text offset)
      (even : offset % 2 = 0)

/-! ## Empty text -/

theorem integer?_nil : integer? [] = none := by decide

theorem parse?_nil : Register.parse? [] = none := by decide

/-! ## The parts of an address -/

theorem takeWhile_append_of_stop {p : Char → Bool} {front rest : List Char}
    (go : ∀ c ∈ front, p c = true) (stop : ∀ c ∈ rest.head?, p c = false) :
    (front ++ rest).takeWhile p = front := by
  rw [List.takeWhile_append_of_pos go]
  cases rest with
  | nil => simp
  | cons c rest => simp [stop c rfl]

theorem dropWhile_append_of_stop {p : Char → Bool} {front rest : List Char}
    (go : ∀ c ∈ front, p c = true) (stop : ∀ c ∈ rest.head?, p c = false) :
    (front ++ rest).dropWhile p = rest := by
  rw [List.dropWhile_append_of_pos go]
  cases rest with
  | nil => rfl
  | cons c rest => simp [stop c rfl]

theorem all_of_mem_takeWhile {p : Char → Bool} {text : List Char} :
    ∀ c ∈ text.takeWhile p, p c = true := by
  intro c h
  exact (List.all_eq_true.1 List.all_takeWhile) c h

theorem splitAddress?_eq_some_iff {text offset base : List Char} :
    splitAddress? text = some (offset, base) ↔ AddressParts text offset base := by
  constructor
  · intro h
    unfold splitAddress? at h
    split at h
    next inner opened =>
      dsimp only at h
      split at h
      · cases h
      next named =>
        split at h
        next closed =>
          cases h
          refine ⟨⟨_, inner.takeWhile isBlank,
            ((trimLeft inner).dropWhile fun c => !isParenthesis c && !isBlank c).takeWhile isBlank,
            ?_, rfl, ?_, ?_⟩, named, ?_⟩
          · rw [trimLeft] at closed
            rw [List.append_assoc, List.append_assoc, ← closed,
              List.takeWhile_append_dropWhile, List.takeWhile_append_dropWhile, trimLeft,
              List.takeWhile_append_dropWhile, ← opened, List.takeWhile_append_dropWhile]
          · intro c mem
            simpa using all_of_mem_takeWhile c mem
          · intro c mem
            rcases List.mem_append.1 mem with front | behind
            · exact all_of_mem_takeWhile c front
            · exact all_of_mem_takeWhile c behind
          · intro c mem
            simpa using all_of_mem_takeWhile c mem
        · cases h
    · cases h
  · rintro ⟨⟨front, gap, gap', rfl, rfl, outside, blank⟩, named, solid⟩
    obtain ⟨blankFront, blankBehind⟩ := List.forall_mem_append.1 blank
    have baseStarts : ∀ c ∈ (base ++ (gap' ++ [')'])).head?, isBlank c = false := by
      cases base with
      | nil => exact absurd rfl named
      | cons c rest => simpa using (solid c (List.mem_cons_self ..)).2
    have baseEnds : ∀ c ∈ (gap' ++ [')']).head?, (!isParenthesis c && !isBlank c) = false := by
      cases gap' with
      | nil => simp [isParenthesis]
      | cons c rest => simpa using fun _ => blankBehind c (List.mem_cons_self ..)
    have closes : ∀ c ∈ [')'].head?, isBlank c = false := by
      rintro _ ⟨⟩
      rfl
    have outside : ∀ c ∈ front, (!isParenthesis c) = true := by simpa using outside
    have solid : ∀ c ∈ base, (!isParenthesis c && !isBlank c) = true := by simpa using solid
    simp only [List.append_assoc, splitAddress?, trimLeft]
    rw [dropWhile_append_of_stop outside (by simp [isParenthesis]),
      takeWhile_append_of_stop outside (by simp [isParenthesis])]
    simp only [dropWhile_append_of_stop blankFront baseStarts,
      takeWhile_append_of_stop solid baseEnds, dropWhile_append_of_stop solid baseEnds,
      dropWhile_append_of_stop blankBehind closes, named, if_false]

/-! ## Readers -/

namespace Statement

variable {s : Statement} {k : Nat}

@[simp] theorem requireOperands_eq_ok_iff {n : Nat} {u : Unit} :
    s.requireOperands n = .ok u ↔ s.operands.length = n := by
  unfold requireOperands
  split <;> simp_all

theorem operand_eq_ok_iff {text : List Char} :
    s.operand k = .ok text ↔ s.operands[k]? = some text ∧ text ≠ [] := by
  unfold operand
  split
  next c rest found =>
    simp only [found, Option.some.injEq, Except.ok.injEq]
    exact ⟨fun same => ⟨same, same ▸ List.cons_ne_nil c rest⟩, And.left⟩
  next other =>
    simp only [reduceCtorEq, false_iff, not_and, not_not]
    intro found
    cases text with
    | nil => rfl
    | cons c rest => exact absurd found (other c rest)

theorem registerOf_eq_ok_iff {text : List Char} {r : Register} :
    registerOf text = .ok r ↔ Register.parse? text = some r := by
  unfold registerOf
  split <;> simp_all

@[simp] theorem register_eq_ok_iff {r : Register} :
    s.register k = .ok r ↔
      ∃ text, s.operands[k]? = some text ∧ Register.parse? text = some r := by
  simp only [register, bind_eq_ok_iff, operand_eq_ok_iff, registerOf_eq_ok_iff]
  constructor
  · rintro ⟨text, ⟨found, -⟩, parsed⟩
    exact ⟨text, found, parsed⟩
  · rintro ⟨text, found, parsed⟩
    refine ⟨text, ⟨found, ?_⟩, parsed⟩
    rintro rfl
    simp [parse?_nil] at parsed

@[simp] theorem immediate_eq_ok_iff {range : Range} {value : Int} :
    s.immediate k range = .ok value ↔
      ∃ text, s.operands[k]? = some text ∧ range.Reads text value := by
  simp only [immediate, bind_eq_ok_iff, operand_eq_ok_iff]
  constructor
  · rintro ⟨text, ⟨found, -⟩, h⟩
    split at h
    · cases h
    next parsed =>
      split at h
      next inside =>
        cases h
        exact ⟨text, found, parsed, Range.contains_iff.1 inside⟩
      · cases h
  · rintro ⟨text, found, parsed, inside⟩
    refine ⟨text, ⟨found, ?_⟩, ?_⟩
    · rintro rfl
      simp [integer?_nil] at parsed
    · simp [parsed, Range.contains_iff.2 inside]

theorem offsetTo_eq_ok_iff {context : Context} {range : Range} {offset : Int}
    {text : List Char} (found : s.operands[k]? = some text) (named : text ≠ []) :
    s.offsetTo context k range = .ok offset ↔
      (∃ target, context.labels.find? text = some target ∧
        offset = 4 * (target : Int) - 4 * (context.index : Int)) ∨
      context.labels.find? text = none ∧ range.Reads text offset := by
  have operand : s.operand k = .ok text := operand_eq_ok_iff.2 ⟨found, named⟩
  have number : s.immediate k range = .ok offset ↔ range.Reads text offset := by
    rw [immediate_eq_ok_iff, found]
    simp
  simp only [offsetTo, operand, bind, Except.bind]
  cases placed : context.labels.find? text with
  | some target => simp [eq_comm]
  | none =>
      cases parsed : integer? text with
      | some value => simp [number]
      | none => simp [Range.Reads, parsed]

@[simp] theorem target_eq_ok_iff {context : Context} {range : Range} {offset : Int} :
    s.target context k range = .ok offset ↔
      ∃ text, s.operands[k]? = some text ∧
        Leads context.labels.Places context.index range text offset := by
  simp only [target, bind_eq_ok_iff, operand_eq_ok_iff]
  constructor
  · rintro ⟨text, ⟨found, named⟩, distance, reached, h⟩
    split at h
    · cases h
    next inside =>
      split at h
      · cases h
      next even =>
        cases h
        have fits := Range.contains_iff.1 (by simpa using inside)
        refine ⟨text, found, ?_⟩
        rcases (offsetTo_eq_ok_iff found named).1 reached with
          ⟨target, placed, rfl⟩ | ⟨unplaced, written⟩
        · exact .label named placed (by omega) fits
        · exact .number (by simp [LabelTable.Places, unplaced]) written (by omega)
  · rintro ⟨text, found, leads⟩
    have named : text ≠ [] := by
      rintro rfl
      rcases leads with ⟨named, -⟩ | ⟨-, ⟨parsed, -⟩⟩
      · exact named rfl
      · simp [integer?_nil] at parsed
    have reached : s.offsetTo context k range = .ok offset := by
      rw [offsetTo_eq_ok_iff found named]
      rcases leads with ⟨-, placed, reaches, -⟩ | ⟨unplaced, written⟩
      · exact .inl ⟨_, placed, by omega⟩
      · exact .inr ⟨Option.eq_none_iff_forall_ne_some.2 unplaced, written⟩
    have inside : range.contains offset = true := by
      rw [Range.contains_iff]
      rcases leads with ⟨-, -, -, fits⟩ | ⟨-, written⟩
      · exact fits
      · exact written.2
    have even : offset % 2 = 0 := by
      rcases leads with ⟨-, -, reaches, -⟩ | ⟨-, -, even⟩
      · omega
      · exact even
    exact ⟨text, ⟨found, named⟩, offset, reached, by simp [inside, even]⟩

theorem offsetOf_eq_ok_iff {text : List Char} {offset : Int} :
    offsetOf text = .ok offset ↔ text = [] ∧ offset = 0 ∨ immediateRange.Reads text offset := by
  unfold offsetOf
  by_cases empty : text = []
  · simp [empty, Range.Reads, integer?_nil, eq_comm]
  · rw [if_neg empty]
    cases parsed : integer? text with
    | none => simp [Range.Reads, parsed, empty]
    | some value =>
        by_cases inside : immediateRange.contains value = true
        · have fits := Range.contains_iff.1 inside
          simp only [Option.filter_some, inside, if_true, Except.ok.injEq, Range.Reads, parsed,
            Option.some.injEq, empty, false_and, false_or]
          exact ⟨fun same => ⟨same, same ▸ fits⟩, And.left⟩
        · have outside := mt Range.contains_iff.2 inside
          simp only [Option.filter_some, inside, Range.Reads, parsed, Option.some.injEq, empty,
            false_and, false_or]
          refine ⟨nofun, ?_⟩
          rintro ⟨rfl, fits⟩
          exact absurd fits outside

@[simp] theorem address_eq_ok_iff {offset : Int} {base : Register} :
    s.address k = .ok (offset, base) ↔
      ∃ text, s.operands[k]? = some text ∧ IsAddress text offset base := by
  simp only [address, bind_eq_ok_iff, operand_eq_ok_iff]
  constructor
  · rintro ⟨text, ⟨found, -⟩, h⟩
    split at h
    · cases h
    next front inside parts =>
      simp only [bind_eq_ok_iff, registerOf_eq_ok_iff, offsetOf_eq_ok_iff] at h
      obtain ⟨r, parsed, value, written, rest⟩ := h
      cases rest
      exact ⟨text, found, front, inside, splitAddress?_eq_some_iff.1 parts, parsed, written⟩
  · rintro ⟨text, found, front, inside, parts, parsed, written⟩
    refine ⟨text, ⟨found, ?_⟩, ?_⟩
    · rintro rfl
      obtain ⟨_, _, _, shape, -⟩ := parts.shape
      simp at shape
    · rw [splitAddress?_eq_some_iff.2 parts]
      simp only [bind_eq_ok_iff, registerOf_eq_ok_iff, offsetOf_eq_ok_iff]
      exact ⟨base, parsed, offset, written, rfl⟩

end Statement

end Assembly

end FiveStage
