import FiveStage.Proofs.Assembly.Listing

/-!
# Lines that do not count

A line without labels and instruction changes nothing but the numbers of the lines behind it.  So a
filler line may be put in anywhere, and a comment behind any line: the records are the same, and of
an error only the number of its line may change.
-/

namespace FiveStage.Assembly

open Text

/-! ## Renumbering -/

def Error.renumber (f : Nat → Nat) (e : Error) : Error := { e with line := f e.line }

namespace SourceLine

def renumber (f : Nat → Nat) (line : SourceLine) : SourceLine :=
  { line with number := f line.number }

def matters (line : SourceLine) : Bool := !line.labels.isEmpty || line.hasInstruction

theorem ofText_congr {text other : List Char}
    (same : trim (stripComment text) = trim (stripComment other)) (number : Nat) :
    ofText number text = ofText number other := by
  simp only [ofText, same]

theorem renumber_ofText (f : Nat → Nat) (number : Nat) (text : List Char) :
    (ofText number text).renumber f = ofText (f number) text := rfl

end SourceLine

/-! ## Both passes -/

def instructionsOfLines (lines : List SourceLine) : Except Error (List Instruction) :=
  match LabelTable.ofLines lines with
  | .error error => .error error
  | .ok labels => instructionsFrom labels 0 (lines.filter SourceLine.hasInstruction)

theorem instructions_eq (source : List Char) :
    Assembly.instructions source = instructionsOfLines (sourceLines source) := rfl

theorem LabelTable.place_renumber (f : Nat → Nat) (table : LabelTable) (index : Nat)
    (lines : List SourceLine) :
    table.place index (lines.map (·.renumber f)) =
      (table.place index lines).mapError (·.renumber f) := by
  induction lines generalizing table index with
  | nil => rfl
  | cons line rest ih =>
      simp only [List.map_cons, place]
      have labels : (line.renumber f).labels = line.labels := rfl
      rw [labels]
      cases table.defineAll line.labels index with
      | error problem => rfl
      | ok table => exact ih table _

theorem LabelTable.place_filter (table : LabelTable) (index : Nat) (lines : List SourceLine) :
    table.place index (lines.filter SourceLine.matters) = table.place index lines := by
  induction lines generalizing table index with
  | nil => rfl
  | cons line rest ih =>
      cases matters : line.matters with
      | true =>
          simp only [List.filter_cons, matters, if_true, place]
          cases table.defineAll line.labels index with
          | error problem => rfl
          | ok table => exact ih table _
      | false =>
          have empty : line.labels = [] ∧ line.hasInstruction = false := by
            simpa [SourceLine.matters] using matters
          have skipped : table.place index (line :: rest) = table.place index rest := by
            simp only [place, empty, defineAll, List.foldlM_nil]
            rfl
          rw [skipped, ← ih, List.filter_cons_of_neg (by simp [matters])]

theorem instructionsFrom_renumber (f : Nat → Nat) (labels : LabelTable) (index : Nat)
    (lines : List SourceLine) :
    instructionsFrom labels index (lines.map (·.renumber f)) =
      (instructionsFrom labels index lines).mapError (·.renumber f) := by
  induction lines generalizing index with
  | nil => rfl
  | cons line rest ih =>
      simp only [List.map_cons, instructionsFrom, ih]
      have body : (line.renumber f).body = line.body := rfl
      rw [body]
      cases instructionOf ⟨labels, index⟩ line.body with
      | error problem => rfl
      | ok i => cases instructionsFrom labels (index + 1) rest <;> rfl

theorem instructionsOfLines_renumber (f : Nat → Nat) (lines : List SourceLine) :
    instructionsOfLines (lines.map (·.renumber f)) =
      (instructionsOfLines lines).mapError (·.renumber f) := by
  simp only [instructionsOfLines, LabelTable.ofLines, LabelTable.place_renumber]
  cases LabelTable.empty.place 0 lines with
  | error error => rfl
  | ok labels =>
      have kept : (SourceLine.hasInstruction ∘ (·.renumber f)) = SourceLine.hasInstruction := rfl
      simp only [Except.mapError, List.filter_map, kept, instructionsFrom_renumber]

theorem instructionsOfLines_filter (lines : List SourceLine) :
    instructionsOfLines (lines.filter SourceLine.matters) = instructionsOfLines lines := by
  have kept : (lines.filter SourceLine.matters).filter SourceLine.hasInstruction =
      lines.filter SourceLine.hasInstruction := by
    rw [List.filter_filter]
    refine List.filter_congr fun line _ => ?_
    cases has : line.hasInstruction <;> simp [SourceLine.matters, has]
  rw [instructionsOfLines, LabelTable.ofLines, LabelTable.place_filter, kept]
  rfl

/-! ## Lines of a source text -/

def sourceOf (texts : List (List Char)) : List Char := ['\n'].intercalate texts

def numbered (number : Nat) : List (List Char) → List SourceLine
  | [] => []
  | text :: rest => SourceLine.ofText number text :: numbered (number + 1) rest

theorem numbered_append (number : Nat) (front back : List (List Char)) :
    numbered number (front ++ back) =
      numbered number front ++ numbered (number + front.length) back := by
  induction front generalizing number with
  | nil => rfl
  | cons text rest ih =>
      simp only [List.cons_append, numbered, ih, List.length_cons, Nat.add_assoc,
        Nat.add_comm 1 rest.length]

theorem mapIdx_ofText (number : Nat) (texts : List (List Char)) :
    (texts.mapIdx fun k text => SourceLine.ofText (k + number) text) = numbered number texts := by
  induction texts generalizing number with
  | nil => rfl
  | cons text rest ih =>
      have later := ih (number + 1)
      simp only [← Nat.add_assoc, Nat.add_right_comm _ number 1] at later
      rw [List.mapIdx_cons, numbered, Nat.zero_add]
      exact congrArg (SourceLine.ofText number text :: ·) later

theorem filter_sourceLines {texts : List (List Char)} (clean : ∀ text ∈ texts, '\n' ∉ text) :
    (sourceLines (sourceOf texts)).filter SourceLine.matters =
      (numbered 1 texts).filter SourceLine.matters := by
  cases texts with
  | nil =>
      have blank : sourceLines (sourceOf []) = [SourceLine.ofText 1 []] := rfl
      rw [blank, ofText_nil]
      rfl
  | cons text rest =>
      have same : lines (sourceOf (text :: rest)) = text :: rest :=
        splitOn_eq_iff.2 ⟨List.cons_ne_nil text rest, clean, rfl⟩
      rw [sourceLines, same, mapIdx_ofText]

theorem instructions_sourceOf {texts : List (List Char)} (clean : ∀ text ∈ texts, '\n' ∉ text) :
    Assembly.instructions (sourceOf texts) =
      instructionsOfLines ((numbered 1 texts).filter SourceLine.matters) := by
  rw [instructions_eq, ← instructionsOfLines_filter, filter_sourceLines clean]

/-! ## Fillers -/

/-- Blanks, and perhaps a comment behind them. -/
def IsFiller (text : List Char) : Prop :=
  ∃ blanks comment, text = blanks ++ comment ∧ (∀ c ∈ blanks, isBlank c = true) ∧
    ∀ c ∈ comment.head?, startsComment c = true

/-- The number of a line once another one is put in behind the first `count`. -/
def pushedDown (count number : Nat) : Nat := if count < number then number + 1 else number

theorem startsComment_of_isBlank {c : Char} (h : isBlank c = true) : startsComment c = false := by
  rw [← Bool.not_eq_true, startsComment, Bool.or_eq_true, beq_iff_eq, beq_iff_eq]
  rintro (rfl | rfl) <;> exact absurd h (by decide)

theorem stripComment_of_isFiller {text : List Char} (h : IsFiller text) :
    ∀ c ∈ stripComment text, isBlank c = true := by
  obtain ⟨blanks, comment, rfl, blank, mark⟩ := h
  have kept : stripComment (blanks ++ comment) = blanks :=
    takeWhile_append_of_stop (fun c mem => by simp [startsComment_of_isBlank (blank c mem)])
      fun c first => by simp [mark c first]
  rwa [kept]

theorem matters_of_isFiller {text : List Char} (h : IsFiller text) (number : Nat) :
    (SourceLine.ofText number text).matters = false := by
  have void : trim (stripComment text) = trim (stripComment []) :=
    trim_of_blank (stripComment_of_isFiller h)
  rw [SourceLine.ofText_congr void, ofText_nil]
  rfl

theorem numbered_pushedDown_of_le {count number : Nat} {texts : List (List Char)}
    (front : number + texts.length ≤ count + 1) :
    (numbered number texts).map (·.renumber (pushedDown count)) = numbered number texts := by
  induction texts generalizing number with
  | nil => rfl
  | cons text rest ih =>
      rw [List.length_cons] at front
      have stays : pushedDown count number = number := if_neg (by omega)
      rw [numbered, List.map_cons, SourceLine.renumber_ofText, stays, ih (by omega)]

theorem numbered_pushedDown_of_lt {count number : Nat} (behind : count < number)
    (texts : List (List Char)) :
    (numbered number texts).map (·.renumber (pushedDown count)) = numbered (number + 1) texts := by
  induction texts generalizing number with
  | nil => rfl
  | cons text rest ih =>
      have moves : pushedDown count number = number + 1 := if_pos behind
      rw [numbered, List.map_cons, SourceLine.renumber_ofText, moves, ih (by omega), numbered]

theorem filter_numbered_filler {before after : List (List Char)} {filler : List Char}
    (h : IsFiller filler) :
    (numbered 1 (before ++ filler :: after)).filter SourceLine.matters =
      ((numbered 1 (before ++ after)).filter SourceLine.matters).map
        (·.renumber (pushedDown before.length)) := by
  calc
    _ = (numbered 1 before ++ numbered (1 + before.length + 1) after).filter
          SourceLine.matters := by
      simp [numbered_append, numbered, matters_of_isFiller h]
    _ = ((numbered 1 (before ++ after)).map
          (·.renumber (pushedDown before.length))).filter SourceLine.matters := by
      rw [numbered_append, List.map_append, numbered_pushedDown_of_le (by omega),
        numbered_pushedDown_of_lt (by omega)]
    _ = _ := List.filter_map ..

theorem assemble_of_instructions {source other : List Char} {f : Error → Error}
    (h : Assembly.instructions source = (Assembly.instructions other).mapError f) :
    assemble source = (assemble other).mapError f := by
  rw [assemble, assemble, h]
  cases Assembly.instructions other <;> rfl

theorem clean_insert {before after : List (List Char)} {text : List Char}
    (clean : ∀ other ∈ before ++ after, '\n' ∉ other) (short : '\n' ∉ text) :
    ∀ other ∈ before ++ text :: after, '\n' ∉ other := by
  intro other mem
  rcases List.mem_append.1 mem with front | mem
  · exact clean other (List.mem_append_left _ front)
  · rcases List.mem_cons.1 mem with rfl | back
    · exact short
    · exact clean other (List.mem_append_right _ back)

theorem assemble_filler {before after : List (List Char)} {filler : List Char}
    (clean : ∀ text ∈ before ++ after, '\n' ∉ text) (short : '\n' ∉ filler)
    (h : IsFiller filler) :
    assemble (sourceOf (before ++ filler :: after)) =
      (assemble (sourceOf (before ++ after))).mapError
        (·.renumber (pushedDown before.length)) := by
  have cleaner := clean_insert clean short
  refine assemble_of_instructions ?_
  rw [instructions_sourceOf cleaner, filter_numbered_filler h, instructionsOfLines_renumber,
    instructions_sourceOf clean]

/-! ## Comments behind a line -/

theorem trim_append_blank (text : List Char) {c : Char} (h : isBlank c = true) :
    trim (text ++ [c]) = trim text := by
  unfold trim trimLeft
  rw [List.dropWhile_append]
  split
  next nothing =>
    rw [List.isEmpty_iff.1 nothing]
    simp [h]
  next => simp [trimRight, h]

theorem trim_stripComment_append (line comment : List Char) {mark : Char}
    (h : startsComment mark = true) :
    trim (stripComment (line ++ ' ' :: mark :: comment)) = trim (stripComment line) := by
  have gap : (' ' :: mark :: comment).takeWhile (fun c => !startsComment c) = [' '] := by
    have blank : startsComment ' ' = false := by decide
    simp [h, blank]
  unfold stripComment
  rw [List.takeWhile_append, gap]
  split
  next whole =>
    have uncommented := (List.takeWhile_prefix _).eq_of_length whole
    rw [trim_append_blank line (by decide), uncommented]
  next => rfl

theorem assemble_comment {before after : List (List Char)} {line comment : List Char}
    {mark : Char} (clean : ∀ text ∈ before ++ after, '\n' ∉ text) (short : '\n' ∉ line)
    (short' : '\n' ∉ comment) (h : startsComment mark = true) :
    assemble (sourceOf (before ++ (line ++ ' ' :: mark :: comment) :: after)) =
      assemble (sourceOf (before ++ line :: after)) := by
  have longer : '\n' ∉ line ++ ' ' :: mark :: comment := by
    have other : mark ≠ '\n' := by
      rintro rfl
      exact absurd h (by decide)
    simp [short, short', Ne.symm other]
  have same : numbered 1 (before ++ (line ++ ' ' :: mark :: comment) :: after) =
      numbered 1 (before ++ line :: after) := by
    rw [numbered_append, numbered_append, numbered, numbered,
      SourceLine.ofText_congr (trim_stripComment_append line comment h)]
  rw [assemble, assemble, instructions_sourceOf (clean_insert clean longer), same,
    instructions_sourceOf (clean_insert clean short)]

/-- A filler line changes nothing but the number of the line of an error, which is one more if the
filler is put in there or before, and a comment behind a line changes nothing at all. -/
theorem fillers_do_not_matter (before after : List (List Char))
    (clean : ∀ text ∈ before ++ after, '\n' ∉ text) :
    (∀ filler, '\n' ∉ filler → IsFiller filler →
      assemble (sourceOf (before ++ filler :: after)) =
        (assemble (sourceOf (before ++ after))).mapError fun e =>
          { e with line := if before.length < e.line then e.line + 1 else e.line }) ∧
    ∀ line mark comment, '\n' ∉ line → '\n' ∉ comment → startsComment mark = true →
      assemble (sourceOf (before ++ (line ++ ' ' :: mark :: comment) :: after)) =
        assemble (sourceOf (before ++ line :: after)) :=
  ⟨fun _ short h => assemble_filler clean short h,
    fun _ _ _ short short' h => assemble_comment clean short short' h⟩

theorem commented_jump :
    let before := ["j end".toList]
    let after := ["end: foo".toList]
    let filler := "\t ; not yet".toList
    (∀ text ∈ before ++ after, '\n' ∉ text) ∧ '\n' ∉ filler ∧ IsFiller filler ∧
      assemble (sourceOf (before ++ after)) = .error ⟨2, .unknownInstruction "foo"⟩ ∧
      assemble (sourceOf (before ++ filler :: after)) = .error ⟨3, .unknownInstruction "foo"⟩ ∧
      assemble (sourceOf ("j end #; on".toList :: after)) =
        .error ⟨2, .unknownInstruction "foo"⟩ := by
  intro before after filler
  have clean : ∀ text ∈ before ++ after, '\n' ∉ text := by decide +kernel
  have cleanLast : ∀ text ∈ [] ++ after, '\n' ∉ text := by decide +kernel
  have short : '\n' ∉ filler := by decide +kernel
  have isFiller : IsFiller filler :=
    ⟨['\t', ' '], "; not yet".toList, by decide +kernel, by simp [isBlank], by simp [startsComment]⟩
  have failed : assemble (sourceOf (before ++ after)) = .error ⟨2, .unknownInstruction "foo"⟩ := by
    decide +kernel
  refine ⟨clean, short, isFiller, failed, ?_, ?_⟩
  · rw [(fillers_do_not_matter before after clean).1 filler short isFiller, failed]
    rfl
  · have longer := (fillers_do_not_matter [] after cleanLast).2 "j end".toList '#' "; on".toList
      (by decide +kernel) (by decide +kernel) (by decide)
    have text : "j end".toList ++ ' ' :: '#' :: "; on".toList = "j end #; on".toList := by
      decide +kernel
    rw [text] at longer
    exact longer.trans failed

end FiveStage.Assembly
