import FiveStage.Assembly.Source
import FiveStage.Pipeline.Core
import FiveStage.Proofs.Assembly.Encoding
import FiveStage.Proofs.Machine.Fetch

/-!
# Loading a program

Records, words and source text are three ways to give a program.  Whichever is taken, a program is
accepted with just its records, and a core finds each word at the address of its record and nothing
anywhere else.
-/

namespace FiveStage.Program

variable {p : Program} {records : List InstructionRecord} {words : List Word} {index : Nat}

/-! ## Records in their places -/

def InPlace (records : List InstructionRecord) : Prop :=
  ∀ (i : Nat) (h : i < records.length), records[i].addr.toNat = instructionSize * i

def TellsMisplaced (records : List InstructionRecord) (error : ProgramError) : Prop :=
  ∃ before r after, records = before ++ r :: after ∧ InPlace before ∧
    r.addr.toNat ≠ instructionSize * before.length ∧
    error = .notContiguous before.length (addressOf before.length) r.addr

theorem inPlace_iff_misplaced? (small : records.length < 2 ^ 62) :
    InPlace records ↔ misplaced? 0 records = none := by
  rw [misplaced?_eq_none_iff]
  refine forall₂_congr fun i inside => ?_
  rw [Nat.zero_add, ← toNat_addressOf (by omega : i < 2 ^ 62)]
  exact BitVec.toNat_inj

theorem misplaced?_eq_some_iff {error : ProgramError} :
    misplaced? index records = some error ↔
      ∃ before r after, records = before ++ r :: after ∧ misplaced? index before = none ∧
        r.addr ≠ addressOf (index + before.length) ∧
        error = .notContiguous (index + before.length) (addressOf (index + before.length))
          r.addr := by
  induction records generalizing index with
  | nil => simp [misplaced?]
  | cons first rest ih =>
      have shift (before : List InstructionRecord) :
          index + (first :: before).length = index + 1 + before.length := by
        rw [List.length_cons]
        omega
      unfold misplaced?
      split
      next here =>
        rw [ih]
        constructor
        · rintro ⟨before, r, after, rfl, placed, away, rfl⟩
          refine ⟨first :: before, r, after, rfl, by simpa [misplaced?, here] using placed, ?_, ?_⟩
          · rwa [shift]
          · rw [shift]
        · rintro ⟨before, r, after, parts, placed, away, rfl⟩
          cases before with
          | nil =>
              cases parts
              exact absurd here away
          | cons _ before =>
              cases parts
              rw [shift] at away ⊢
              exact ⟨before, r, after, rfl, by simpa [misplaced?, here] using placed, away, rfl⟩
      next away =>
        constructor
        · intro told
          cases told
          exact ⟨[], first, rest, rfl, rfl, away, rfl⟩
        · rintro ⟨before, r, after, parts, placed, -, rfl⟩
          cases before with
          | nil =>
              cases parts
              rfl
          | cons _ before =>
              cases parts
              simp [away] at placed

theorem tellsMisplaced_iff {error : ProgramError} (small : records.length < 2 ^ 62) :
    TellsMisplaced records error ↔ misplaced? 0 records = some error := by
  rw [misplaced?_eq_some_iff]
  refine exists_congr fun before => exists_congr fun r => exists_congr fun after =>
    and_congr_right ?_
  rintro rfl
  have fewer : before.length < 2 ^ 62 := by
    rw [List.length_append] at small
    omega
  rw [inPlace_iff_misplaced? fewer, Nat.zero_add, ← toNat_addressOf fewer, Ne, BitVec.toNat_inj]

/-! ## What is accepted -/

theorem ofWords_eq_ok_iff : ofWords words = .ok p ↔ p.words.toList = words := by
  unfold ofWords
  split
  next nonempty =>
    constructor
    · intro built
      cases built
      rfl
    · rintro rfl
      rfl
  next none =>
    refine iff_of_false nofun fun same => none ?_
    rw [← same, Array.length_toList]
    exact p.words_size_pos

theorem ofWords_eq_error_iff {error : ProgramError} :
    ofWords words = .error error ↔ words = [] ∧ error = .empty := by
  unfold ofWords
  split
  next nonempty => exact iff_of_false nofun fun h => by simp [h.1] at nonempty
  next none =>
    obtain rfl : words = [] := List.eq_nil_of_length_eq_zero (by omega)
    simp [eq_comm]

theorem map_word_records : p.records.map (·.word) = p.words.toList :=
  List.ext_getElem (by simp [Program.records]) fun i _ _ => by simp [Program.records]

theorem misplaced?_records : misplaced? 0 p.records = none := by
  rw [misplaced?_eq_none_iff]
  simp [Program.records]

theorem eq_records_of_misplaced? (placed : misplaced? 0 records = none)
    (same : p.words.toList = records.map (·.word)) : p.records = records := by
  rw [misplaced?_eq_none_iff] at placed
  rw [Program.records, same]
  refine List.ext_getElem (by simp) fun i _ inside => ?_
  have here := placed i inside
  rw [Nat.zero_add] at here
  simp [← here]

theorem ofRecords_eq_ok_iff : ofRecords records = .ok p ↔ p.records = records := by
  unfold ofRecords
  constructor
  · intro built
    split at built
    next => cases built
    next placed => exact eq_records_of_misplaced? placed (ofWords_eq_ok_iff.1 built)
  · rintro rfl
    rw [misplaced?_records, map_word_records]
    exact ofWords_eq_ok_iff.2 rfl

theorem ofRecords_eq_error_iff {error : ProgramError} :
    ofRecords records = .error error ↔
      records = [] ∧ error = .empty ∨ misplaced? 0 records = some error := by
  unfold ofRecords
  split
  next found =>
    rw [found, Except.error.injEq, Option.some.injEq]
    refine ⟨.inr, Or.rec ?_ id⟩
    rintro ⟨rfl, -⟩
    cases found
  next placed => simp [ofWords_eq_error_iff, placed]

theorem exists_ofRecords_iff : (∃ p, ofRecords records = .ok p) ↔
    records ≠ [] ∧ misplaced? 0 records = none := by
  constructor
  · rintro ⟨p, built⟩
    rw [ofRecords_eq_ok_iff] at built
    subst built
    refine ⟨List.ne_nil_of_length_pos ?_, misplaced?_records⟩
    rw [length_records]
    exact p.words_size_pos
  · rintro ⟨nonempty, placed⟩
    cases built : ofRecords records with
    | ok p => exact ⟨p, rfl⟩
    | error =>
        rcases ofRecords_eq_error_iff.1 built with ⟨none, -⟩ | away
        · exact absurd none nonempty
        · simp [placed] at away

structure LoadsRecords (records : List InstructionRecord) : Prop where
  accepted : (∃ p, ofRecords records = .ok p) ↔ records ≠ [] ∧ InPlace records
  kept {p : Program} : ofRecords records = .ok p ↔ p.records = records
  refused {error : ProgramError} : ofRecords records = .error error ↔
    records = [] ∧ error = .empty ∨ TellsMisplaced records error

theorem loadsRecords (small : records.length < 2 ^ 62) : LoadsRecords records where
  accepted := by rw [exists_ofRecords_iff, inPlace_iff_misplaced? small]
  kept := ofRecords_eq_ok_iff
  refused {error} := by rw [ofRecords_eq_error_iff, tellsMisplaced_iff small]

structure LoadsWords (words : List Word) : Prop where
  accepted : (∃ p, ofWords words = .ok p) ↔ words ≠ []
  kept {p : Program} : ofWords words = .ok p →
    p.records = words.mapIdx fun index word => ⟨addressOf index, word⟩
  refused {error : ProgramError} : ofWords words = .error error ↔ words = [] ∧ error = .empty

theorem loadsWords (words : List Word) : LoadsWords words where
  accepted := by
    constructor
    · rintro ⟨p, built⟩ rfl
      cases built
    · intro nonempty
      have room : 0 < words.length := List.length_pos_iff.2 nonempty
      exact ⟨_, dif_pos room⟩
  kept built := by rw [Program.records, ofWords_eq_ok_iff.1 built]
  refused := ofWords_eq_error_iff

/-! ## Source text -/

theorem ofSource_eq_ok_iff {source : String} :
    ofSource source = .ok p ↔ Assembly.assemble source.toList = .ok p.records := by
  unfold ofSource
  cases assembled : Assembly.assemble source.toList with
  | error => simp
  | ok records =>
      rw [Except.ok.injEq, eq_comm (a := records), ← ofRecords_eq_ok_iff]
      cases built : ofRecords records <;> simp [built]

theorem misplaced?_of_assemble {source : List Char} (h : Assembly.assemble source = .ok records) :
    misplaced? 0 records = none := by
  obtain ⟨instructions, -, rfl⟩ := Assembly.assemble_eq_ok_iff.1 h
  rw [misplaced?_eq_none_iff]
  simp

theorem length_of_assemble {source : List Char} (h : Assembly.assemble source = .ok records) :
    records.length = (Assembly.instructionLines source).length := by
  obtain ⟨instructions, listed, rfl⟩ := Assembly.assemble_eq_ok_iff.1 h
  obtain ⟨labels, -, read⟩ := Assembly.instructions_eq_ok_iff.1 listed
  rw [List.length_mapIdx]
  exact (Assembly.instructionOf_of_instructionsFrom read).1

theorem ofSource_eq_error_program_iff {source : String} {error : ProgramError} :
    ofSource source = .error (.program error) ↔
      Assembly.assemble source.toList = .ok [] ∧ error = .empty := by
  unfold ofSource
  cases assembled : Assembly.assemble source.toList with
  | error => simp
  | ok records =>
      have told : ofRecords records = .error error ↔ records = [] ∧ error = .empty := by
        rw [ofRecords_eq_error_iff, misplaced?_of_assemble assembled]
        simp
      rw [Except.ok.injEq, ← told]
      cases built : ofRecords records <;> simp [built]

structure LoadsSource (source : String) : Prop where
  kept {p : Program} : ofSource source = .ok p ↔ Assembly.assemble source.toList = .ok p.records
  contiguous {index : Nat} {expected found : Doubleword} :
    ofSource source ≠ .error (.program (.notContiguous index expected found))
  empty : ofSource source = .error (.program .empty) ↔
    (∃ records, Assembly.assemble source.toList = .ok records) ∧
      Assembly.instructionLines source.toList = []

theorem loadsSource (source : String) : LoadsSource source where
  kept := ofSource_eq_ok_iff
  contiguous {index expected found} told := by
    cases (ofSource_eq_error_program_iff.1 told).2
  empty := by
    rw [ofSource_eq_error_program_iff, and_iff_left rfl]
    constructor
    · intro assembled
      exact ⟨⟨[], assembled⟩, List.eq_nil_of_length_eq_zero (length_of_assemble assembled).symm⟩
    · rintro ⟨⟨records, assembled⟩, none⟩
      obtain rfl : records = [] := by
        rw [← List.length_eq_zero_iff, length_of_assemble assembled, none, List.length_nil]
      exact assembled

/-! ## What a core finds -/

theorem wordAt?_eq_some_iff {pc : Doubleword} {word : Word} (small : p.size < 2 ^ 62) :
    p.wordAt? pc = some word ↔ ⟨pc, word⟩ ∈ p.records := by
  unfold wordAt?
  simp only [records, List.mem_mapIdx, Array.length_toList, InstructionRecord.mk.injEq]
  constructor
  · intro found
    split at found
    next aligned =>
      obtain ⟨inside, here⟩ := Array.getElem?_eq_some_iff.1 found
      refine ⟨pc.toNat / instructionSize, inside, BitVec.eq_of_toNat_eq ?_, by simpa using here⟩
      rw [toNat_addressOf (lt_trans inside small)]
      simp only [instructionSize] at *
      omega
    next => cases found
  · rintro ⟨i, inside, rfl, rfl⟩
    have address := toNat_addressOf (lt_trans inside small)
    rw [address, if_pos (Nat.mul_mod_right ..), Nat.mul_div_cancel_left i (by decide)]
    simp [inside]

structure LaidOut (p : Program) : Prop where
  served (dataSize : Nat) {pc : Doubleword} {word : Word} :
    (Core.boot p dataSize).program.wordAt? pc = some word ↔
      ∃ r ∈ p.records, r.addr = pc ∧ r.word = word
  bare (dataSize : Nat) {pc : Doubleword} :
    (Core.boot p dataSize).program.wordAt? pc = none ↔
      pc.toNat % instructionSize ≠ 0 ∨ instructionSize * p.records.length ≤ pc.toNat
  ends (dataSize : Nat) :
    (Core.boot p dataSize).endPc.toNat = instructionSize * p.records.length

theorem laidOut (small : p.records.length < 2 ^ 62) : p.LaidOut where
  served dataSize {pc word} := by
    rw [length_records] at small
    change p.wordAt? pc = some word ↔ _
    rw [wordAt?_eq_some_iff small]
    constructor
    · exact fun there => ⟨_, there, rfl, rfl⟩
    · rintro ⟨r, there, rfl, rfl⟩
      exact there
  bare dataSize {pc} := by
    change p.wordAt? pc = none ↔ _
    rw [wordAt?_eq_none_iff, length_records]
    simp only [instructionSize]
    omega
  ends dataSize := by
    rw [length_records] at small ⊢
    exact toNat_addressOf small

/-- From `2 ^ 62` records on, addresses of eight bytes wrap round and meet again. -/
theorem loading_keeps_records :
    (∀ records : List InstructionRecord, records.length < 2 ^ 62 → LoadsRecords records) ∧
    (∀ words : List Word, LoadsWords words) ∧
    (∀ source : String, LoadsSource source) ∧
    ∀ p : Program, p.records.length < 2 ^ 62 → p.LaidOut :=
  ⟨fun _ => loadsRecords, loadsWords, loadsSource, fun _ => laidOut⟩

theorem loading_of_small_programs :
    ofRecords [⟨0, 0x13⟩, ⟨8, 0x13⟩, ⟨4, 0x13⟩] = .error (.notContiguous 1 4 8) ∧
    ofSource "# nothing\n" = .error (.program .empty) ∧
    ∃ p, ofSource "nop\nret" = .ok p ∧ p.records = [⟨0, 0x13⟩, ⟨4, 0x8067⟩] ∧
      p.wordAt? 4 = some 0x8067 ∧ p.wordAt? 2 = none ∧ p.wordAt? (-4) = none ∧
      p.endPc.toNat = 8 := by
  obtain ⟨rows, -, sources, laid⟩ := loading_keeps_records
  let p : Program := ⟨#[0x13, 0x8067], by decide⟩
  have two : p.records = [⟨0, 0x13⟩, ⟨4, 0x8067⟩] := rfl
  have core : p.LaidOut := laid p (by rw [two]; decide)
  refine ⟨?_, ?_, p, ?_, two, ?_, ?_, ?_, ?_⟩
  · refine (rows _ (by decide)).refused.2 (.inr ⟨[⟨0, 0x13⟩], ⟨8, 0x13⟩, [⟨4, 0x13⟩], rfl, ?_⟩)
    unfold InPlace
    decide
  · exact (sources _).empty.2 ⟨⟨[], by decide +kernel⟩, by decide +kernel⟩
  · rw [(sources _).kept, two]
    decide +kernel
  · exact (core.served 0).2 ⟨⟨4, 0x8067⟩, by simp [two], rfl, rfl⟩
  · exact (core.bare 0).2 (by decide)
  · exact (core.bare 0).2 (by rw [two]; decide)
  · exact (core.ends 0).trans (by rw [two]; decide)

end FiveStage.Program
