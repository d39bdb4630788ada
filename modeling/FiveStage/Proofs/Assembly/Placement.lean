import FiveStage.Proofs.Assembly.Operands

/-!
# Where labels stand

A label stands at the number of instruction lines before its own line.  The table that the first
pass builds says just this, since a second line with the same label is refused.
-/

namespace FiveStage.Assembly

/-- A label is on a line that `index` instruction lines come before. -/
def Stands (lines : List SourceLine) (label : List Char) (index : Nat) : Prop :=
  ∃ before line after, lines = before ++ line :: after ∧ label ∈ line.labels ∧
    index = before.countP SourceLine.hasInstruction

theorem not_stands_nil {label : List Char} {index : Nat} : ¬Stands [] label index := by
  rintro ⟨before, line, after, shape, -⟩
  simp at shape

theorem stands_cons_iff {line : SourceLine} {rest : List SourceLine} {label : List Char}
    {index : Nat} :
    Stands (line :: rest) label index ↔
      label ∈ line.labels ∧ index = 0 ∨
        ∃ later, Stands rest label later ∧
          index = later + if line.hasInstruction then 1 else 0 := by
  constructor
  · rintro ⟨before, other, after, shape, mem, rfl⟩
    cases before with
    | nil =>
        obtain ⟨rfl, rfl⟩ := List.cons.inj shape
        exact .inl ⟨mem, rfl⟩
    | cons first before =>
        obtain ⟨rfl, rfl⟩ := List.cons.inj shape
        exact .inr ⟨_, ⟨before, other, after, rfl, mem, rfl⟩, List.countP_cons ..⟩
  · rintro (⟨mem, rfl⟩ | ⟨later, ⟨before, other, after, rfl, mem, rfl⟩, rfl⟩)
    · exact ⟨[], line, rest, rfl, mem, rfl⟩
    · exact ⟨line :: before, other, after, rfl, mem, (List.countP_cons ..).symm⟩

namespace LabelTable

variable {table next : LabelTable} {label other : List Char} {index n : Nat}

theorem places_of_define (h : table.define label index = .ok next) :
    next.Places other n ↔ table.Places other n ∨ other = label ∧ n = index := by
  have fresh : table.find? label = none := by
    unfold define at h
    split at h
    · cases h
    · assumption
  unfold Places
  by_cases same : label = other
  · subst same
    simp [find?_of_define h, fresh, eq_comm]
  · simp [find?_of_define_ne h same, Ne.symm same]

theorem places_of_defineAll {labels : List (List Char)}
    (h : table.defineAll labels index = .ok next) :
    next.Places other n ↔ table.Places other n ∨ other ∈ labels ∧ n = index := by
  induction labels generalizing table with
  | nil =>
      cases h
      simp
  | cons label rest ih =>
      obtain ⟨between, defined, remaining⟩ := bind_eq_ok_iff.1 h
      rw [ih remaining, places_of_define defined, List.mem_cons, or_and_right, or_assoc]

theorem places_of_place {lines : List SourceLine} (h : table.place index lines = .ok next) :
    next.Places other n ↔
      table.Places other n ∨ ∃ later, Stands lines other later ∧ n = index + later := by
  induction lines generalizing table index with
  | nil =>
      cases h
      simp [not_stands_nil]
  | cons line rest ih =>
      unfold place at h
      split at h
      · cases h
      next between defined =>
        have start : (if line.hasInstruction then index + 1 else index) =
            index + if line.hasInstruction then 1 else 0 := by
          split <;> rfl
        rw [ih h, places_of_defineAll defined, or_assoc, start]
        refine or_congr_right ⟨?_, ?_⟩
        · rintro (⟨mem, rfl⟩ | ⟨later, stands, rfl⟩)
          · exact ⟨0, stands_cons_iff.2 (.inl ⟨mem, rfl⟩), rfl⟩
          · exact ⟨_, stands_cons_iff.2 (.inr ⟨later, stands, rfl⟩), by omega⟩
        · rintro ⟨_, stands, rfl⟩
          rcases stands_cons_iff.1 stands with ⟨mem, rfl⟩ | ⟨later, behind, rfl⟩
          · exact .inl ⟨mem, rfl⟩
          · exact .inr ⟨later, behind, by omega⟩

theorem places_ofLines {lines : List SourceLine} (h : ofLines lines = .ok table) :
    table.Places = Stands lines := by
  funext label index
  refine propext ((places_of_place h).trans ?_)
  simp [Places, find?_empty]

end LabelTable

end FiveStage.Assembly
