import FiveStage.Proofs.Assembly.Printing

/-!
# Listings

A listing has the text of one word on each line.  It assembles to the words that it was printed
from, unless one of them is outside the supported subset, and then its line is to blame.
-/

namespace FiveStage.Assembly

open Text

/-! ## Lines of printed statements -/

theorem notMem_print {s : Statement} (plain : s.IsPlain) {c : Char}
    (foreign : isPlain c = false ∧ c ≠ ' ' ∧ c ≠ ',') : c ∉ s.print := by
  intro mem
  rw [Statement.print, List.mem_append, List.mem_cons] at mem
  rcases mem with letter | blank | operand
  · have lower := plain.lower c letter
    simp [isPlain, Char.isAlphanum, Char.isAlpha, lower] at foreign
  · exact foreign.2.1 blank
  · rcases mem_intercalate operand with comma | ⟨text, inside, mem⟩
    · simp [foreign] at comma
    · simp [(plain.operand text inside).2 c mem] at foreign

theorem isTight_print {s : Statement} (plain : s.IsPlain) : IsTight s.print := by
  have letters : IsPlainText s.mnemonic.toList :=
    ⟨plain.named, fun c mem => by
      simp [isPlain, Char.isAlphanum, Char.isAlpha, plain.lower c mem]⟩
  have operands := IsTight.intercalate [',', ' '] plain.operands fun text mem =>
    .of_isPlain (plain.operand text mem)
  exact (IsTight.of_isPlain letters).append operands [' ']

theorem splitLabel?_eq_none {text : List Char} (h : ':' ∉ text) : splitLabel? text = none := by
  unfold splitLabel?
  split
  · rfl
  next c rest =>
    split
    · split
      next after colon =>
        have mem : ':' ∈ trimLeft (rest.dropWhile continuesLabel) := by simp [colon]
        have inside := (List.dropWhile_sublist _).subset ((List.dropWhile_sublist _).subset mem)
        exact absurd (List.mem_cons_of_mem c inside) h
      · rfl
    · rfl

theorem ofText_print {s : Statement} (plain : s.IsPlain) (number : Nat) :
    SourceLine.ofText number s.print = ⟨number, [], s.print⟩ := by
  have uncommented : ∀ c ∈ s.print, startsComment c = false := by
    intro c mem
    rw [← Bool.not_eq_true, startsComment, Bool.or_eq_true, beq_iff_eq, beq_iff_eq]
    rintro (rfl | rfl) <;> exact notMem_print plain (by decide) mem
  have kept : stripComment s.print = s.print :=
    List.takeWhile_eq_self_iff.2 fun c mem => by simp [uncommented c mem]
  have unlabelled : splitLabel? s.print = none :=
    splitLabel?_eq_none (notMem_print plain (by decide))
  have whole : splitLabels s.print = ([], s.print) := by
    unfold splitLabels
    split
    · rfl
    next found =>
      rw [unlabelled] at found
      cases found
  rw [SourceLine.ofText, kept, (isTight_print plain).trim_eq, whole]

theorem ofText_nil (number : Nat) : SourceLine.ofText number [] = ⟨number, [], []⟩ := by
  have whole : splitLabels [] = ([], []) := by
    unfold splitLabels
    rfl
  rw [SourceLine.ofText, show trim (stripComment []) = [] from rfl, whole]

/-! ## Listings -/

/-- The printed words, one on each line, with nothing but empty lines behind them. -/
def IsListing (source : List Char) (words : List Word) : Prop :=
  ∃ blank, lines source = words.map (fun w => w.disassemble.toList) ++ List.replicate blank []

def listing (words : List Word) : List Char :=
  words.flatMap fun w => w.disassemble.toList ++ ['\n']

theorem isListing_listing (words : List Word) : IsListing (listing words) words := by
  have clean : ∀ text ∈ words.map (fun w => w.disassemble.toList), '\n' ∉ text := by
    intro text mem
    obtain ⟨w, -, rfl⟩ := List.mem_map.1 mem
    rw [w.toList_disassemble]
    exact notMem_print w.isPlain_statement (by decide)
  have joined := lines_flatMap clean
  rw [List.flatMap_map] at joined
  exact ⟨1, joined⟩

def printedLines (number : Nat) : List Word → List SourceLine
  | [] => []
  | w :: rest => ⟨number, [], w.statement.print⟩ :: printedLines (number + 1) rest

theorem hasInstruction_print (s : Statement) (number : Nat) :
    (SourceLine.mk number [] s.print).hasInstruction = true := by
  simp [SourceLine.hasInstruction, Statement.print]

theorem filter_ofText (words : List Word) (blank number : Nat) :
    ((words.map (fun w : Word => w.disassemble.toList) ++ List.replicate blank []).mapIdx
        fun k text => SourceLine.ofText (k + number) text).filter SourceLine.hasInstruction =
      printedLines number words := by
  -- The number of the first line varies: each printed line moves the others down by one.
  induction words generalizing number with
  | nil =>
      rw [List.map_nil, List.nil_append, printedLines, List.filter_eq_nil_iff]
      intro line mem
      obtain ⟨k, inside, rfl⟩ := List.mem_mapIdx.1 mem
      rw [List.getElem_replicate, ofText_nil]
      simp [SourceLine.hasInstruction]
  | cons w rest ih =>
      have later := ih (number + 1)
      simp only [← Nat.add_assoc, Nat.add_right_comm _ number 1] at later
      rw [List.map_cons, List.cons_append, List.mapIdx_cons, w.toList_disassemble,
        ofText_print w.isPlain_statement, Nat.zero_add,
        List.filter_cons_of_pos (hasInstruction_print ..), later, printedLines]

section

variable {source : List Char} {words : List Word}

theorem instructionLines_of_isListing (h : IsListing source words) :
    instructionLines source = printedLines 1 words := by
  obtain ⟨blank, shape⟩ := h
  rw [instructionLines, sourceLines, shape, filter_ofText]

theorem labels_of_isListing (h : IsListing source words) :
    ∀ line ∈ sourceLines source, line.labels = [] := by
  obtain ⟨blank, shape⟩ := h
  intro line mem
  obtain ⟨k, inside, rfl⟩ := List.mem_mapIdx.1 mem
  have text : (lines source)[k] ∈
      words.map (fun w => w.disassemble.toList) ++ List.replicate blank [] :=
    shape ▸ List.getElem_mem inside
  rcases List.mem_append.1 text with printed | empty
  · obtain ⟨w, -, print⟩ := List.mem_map.1 printed
    rw [← print, w.toList_disassemble, ofText_print w.isPlain_statement]
  · rw [List.eq_of_mem_replicate empty, ofText_nil]

end

theorem place_of_unlabelled {lines : List SourceLine} (h : ∀ line ∈ lines, line.labels = [])
    (table : LabelTable) (index : Nat) : table.place index lines = .ok table := by
  induction lines generalizing index with
  | nil => rfl
  | cons line rest ih =>
      have defined : table.defineAll line.labels index = .ok table := by
        rw [h line (List.mem_cons_self ..)]
        rfl
      simp only [LabelTable.place, defined]
      exact ih (fun other mem => h other (List.mem_cons_of_mem line mem)) _

theorem instructions_of_isListing {source : List Char} {words : List Word}
    (h : IsListing source words) :
    instructions source = instructionsFrom .empty 0 (printedLines 1 words) := by
  have placed : LabelTable.ofLines (sourceLines source) = .ok .empty :=
    place_of_unlabelled (labels_of_isListing h) .empty 0
  rw [instructions]
  simp only [placed]
  rw [← instructionLines_of_isListing h, instructionLines]

theorem instructionOf_print {w : Word} {i : Instruction} (holds : w.Holds i) (index : Nat) :
    instructionOf ⟨.empty, index⟩ w.statement.print = .ok i := by
  have statement : w.statement = i.statement := by
    rw [Word.statement, Instruction.ofWord?_eq_some_iff.2 holds]
  have nowhere : LabelTable.empty.Places = fun _ _ => False := by
    funext label index
    simp [LabelTable.Places, LabelTable.find?_empty]
  refine instructionOf_eq_ok_iff.2 ⟨w.statement, spelled_print w.isPlain_statement, ?_⟩
  rw [statement, nowhere]
  exact Word.means_statement holds index

theorem instructionOf_unsupported {w : Word} (h : w.Unsupported) (context : Context) :
    instructionOf context w.statement.print = .error (.unknownInstruction "unknown") := by
  have mnemonic : w.statement.mnemonic = "unknown" := by
    rw [Word.statement, Instruction.ofWord?_eq_none_iff.2 h]
  have parsed := parse?_eq_some_iff.2 (spelled_print w.isPlain_statement)
  have unnamed : Mnemonic.ofString? "unknown" = none := by decide
  simp only [instructionOf, parsed, mnemonic, unnamed]

theorem exists_holds {words : List Word} (h : ∀ w ∈ words, ¬w.Unsupported) :
    ∃ is, List.Forall₂ Word.Holds words is := by
  induction words with
  | nil => exact ⟨[], .nil⟩
  | cons w rest ih =>
      obtain ⟨is, held⟩ := ih fun other mem => h other (List.mem_cons_of_mem w mem)
      cases found : Instruction.ofWord? w with
      | none => exact absurd (Instruction.ofWord?_eq_none_iff.1 found) (h w (List.mem_cons_self ..))
      | some i => exact ⟨i :: is, .cons (Instruction.ofWord?_eq_some_iff.1 found) held⟩

theorem instructionsFrom_printedLines {words : List Word} {is : List Instruction}
    (holds : List.Forall₂ Word.Holds words is) (index number : Nat) :
    instructionsFrom .empty index (printedLines number words) = .ok is := by
  induction holds generalizing index number with
  | nil => rfl
  | cons first _ ih =>
      exact instructionsFrom_cons_eq_ok_iff.2
        ⟨_, _, instructionOf_print first index, ih (index + 1) (number + 1), rfl⟩

theorem instructionsFrom_unsupported {front : List Word} {is : List Instruction} {w : Word}
    (holds : List.Forall₂ Word.Holds front is) (h : w.Unsupported) (back : List Word)
    (index number : Nat) :
    instructionsFrom .empty index (printedLines number (front ++ w :: back)) =
      .error ⟨number + front.length, .unknownInstruction "unknown"⟩ := by
  induction holds generalizing index number with
  | nil =>
      simp only [List.nil_append, printedLines, instructionsFrom, instructionOf_unsupported h]
      rfl
  | @cons _ _ front is first _ ih =>
      simp only [List.cons_append, printedLines, instructionsFrom, instructionOf_print first, ih,
        List.length_cons]
      congr 2
      omega

/-! ## The round trip -/

/-- The text of a word that is shown as unknown, whatever stands for its value. -/
def IsUnknown (text : String) : Prop := ∃ value : String, text = s!"unknown ({value})"

theorem isUnknown_disassemble_iff {w : Word} : IsUnknown w.disassemble ↔ w.Unsupported := by
  rw [← Instruction.ofWord?_eq_none_iff]
  constructor
  · rintro ⟨value, text⟩
    cases found : Instruction.ofWord? w with
    | none => rfl
    | some i =>
        have letters : i.mnemonic.spelling.toList = "unknown".toList := by
          rw [i.spelling_mnemonic, ← takeWhile_print i.isPlain_statement, ← i.toList_render]
          have rendered : i.render = s!"unknown ({value})" := by
            rw [← text, Word.disassemble, found]
          rw [rendered]
          simp [toString, Char.isLower]
        have unnamed : Mnemonic.ofString? "unknown" = none := by decide
        rw [← String.toList_inj.1 letters, Mnemonic.ofString?_spelling] at unnamed
        cases unnamed
  · intro h
    exact ⟨Text.hex32 w.toNat, by rw [Word.disassemble, h]⟩

/-- Records of the same words, in order and without gaps, but for stray bits. -/
structure Restores (records : List InstructionRecord) (words : List Word) : Prop where
  length_eq : records.length = words.length
  addr_eq {k : Nat} {record : InstructionRecord} (found : records[k]? = some record) :
    record.addr = BitVec.ofNat 64 (4 * k)
  word_eq {k : Nat} {record : InstructionRecord} {w : Word} (found : records[k]? = some record)
    (there : words[k]? = some w) (clean : ¬w.HasStrayBits) : record.word = w
  cleaned {k : Nat} {record : InstructionRecord} {w : Word} (found : records[k]? = some record)
    (there : words[k]? = some w) (stray : w.HasStrayBits) : record.word.IsCleaned w

theorem restores_of_holds {words : List Word} {is : List Instruction}
    (holds : List.Forall₂ Word.Holds words is) :
    Restores (is.mapIdx fun k i => ⟨Program.addressOf k, i.encode⟩) words := by
  have at_each {k : Nat} {record : InstructionRecord}
      (found : (is.mapIdx fun k i => (⟨Program.addressOf k, i.encode⟩ : InstructionRecord))[k]? =
        some record) : ∃ i, is[k]? = some i ∧ ⟨Program.addressOf k, i.encode⟩ = record := by
    rw [List.getElem?_mapIdx] at found
    exact Option.map_eq_some_iff.1 found
  have held {k : Nat} {w : Word} {i : Instruction} (there : words[k]? = some w)
      (found : is[k]? = some i) : w.Holds i := by
    obtain ⟨inWords, rfl⟩ := List.getElem?_eq_some_iff.1 there
    obtain ⟨inIs, rfl⟩ := List.getElem?_eq_some_iff.1 found
    exact holds.get inWords inIs
  refine ⟨?_, ?_, ?_, ?_⟩
  · rw [List.length_mapIdx, holds.length_eq]
  · intro k record found
    obtain ⟨i, -, rfl⟩ := at_each found
    rfl
  · intro k record w found there clean
    obtain ⟨i, inside, rfl⟩ := at_each found
    exact Instruction.encode_of_holds (held there inside) clean
  · intro k record w found there stray
    obtain ⟨i, inside, rfl⟩ := at_each found
    exact Instruction.isCleaned_of_holds (held there inside) stray

/-- Words are shown as unknown just when they are unsupported.  Listings of the others assemble to
the same words again, and the first unknown word of a listing is rejected at its line. -/
theorem listing_reassembles :
    (∀ w : Word, IsUnknown w.disassemble ↔ w.Unsupported) ∧
      ∀ source words, IsListing source words →
        ((∀ w ∈ words, ¬IsUnknown w.disassemble) →
          ∃ records, assemble source = .ok records ∧ Restores records words) ∧
        ∀ front w back, words = front ++ w :: back →
          (∀ v ∈ front, ¬IsUnknown v.disassemble) → IsUnknown w.disassemble →
          assemble source = .error ⟨front.length + 1, .unknownInstruction "unknown"⟩ := by
  refine ⟨fun w => isUnknown_disassemble_iff, fun source words listing => ⟨fun known => ?_, ?_⟩⟩
  · simp only [isUnknown_disassemble_iff] at known
    obtain ⟨is, holds⟩ := exists_holds known
    have read := (instructions_of_isListing listing).trans (instructionsFrom_printedLines holds 0 1)
    exact ⟨_, assemble_eq_ok_iff.2 ⟨is, read, rfl⟩, restores_of_holds holds⟩
  · rintro front w back rfl known unknown
    simp only [isUnknown_disassemble_iff] at known unknown
    obtain ⟨is, holds⟩ := exists_holds known
    have read := (instructions_of_isListing listing).trans
      (instructionsFrom_unsupported holds unknown back 0 1)
    rw [assemble, read, Nat.add_comm]
    rfl

theorem sampleListing_restored :
    (∃ records, assemble (listing [0xFFF28293, 0x80129293, 0xFF9FF06F]) = .ok records ∧
      records.map (·.word) = [0xFFF28293, 0x00129293, 0xFF9FF06F] ∧
      Restores records [0xFFF28293, 0x80129293, 0xFF9FF06F]) ∧
    assemble (listing [0xFF9FF06F, 0x00000073]) =
      .error ⟨2, .unknownInstruction "unknown"⟩ := by
  obtain ⟨unknown_iff, assembles⟩ := listing_reassembles
  constructor
  · obtain ⟨records, accepted, restores⟩ :=
      (assembles _ [0xFFF28293, 0x80129293, 0xFF9FF06F] (isListing_listing _)).1 (by
        simp only [unknown_iff, List.forall_mem_cons, List.not_mem_nil, false_imp_iff, implies_true]
        decide +kernel)
    have computed : assemble (listing [0xFFF28293, 0x80129293, 0xFF9FF06F]) =
        .ok [⟨0, 0xFFF28293⟩, ⟨4, 0x00129293⟩, ⟨8, 0xFF9FF06F⟩] := by decide +kernel
    obtain rfl := Except.ok.inj (accepted.symm.trans computed)
    exact ⟨_, accepted, rfl, restores⟩
  · refine (assembles _ [0xFF9FF06F, 0x00000073] (isListing_listing _)).2
      [0xFF9FF06F] 0x00000073 [] rfl ?_ ?_
    · simp only [unknown_iff, List.forall_mem_singleton]
      decide +kernel
    · rw [unknown_iff]
      decide +kernel

end FiveStage.Assembly
