import FiveStage.Proofs.Pipeline.Bypass

/-!
# What the latches hold

After any number of ticks each latch that is not empty holds a word of the program with the address
of that word, and what it carries of the fields and signals is what the word says.  The program
counter is right behind the word in decode, and can be fetched from.  Only behind a transfer of
control to some other place it cannot; then the pipeline is empty but for that transfer, and the
next fetch stops the core.
-/

namespace FiveStage

variable {p : Program}

theorem Program.fetch_eq_ok_iff {pc : Doubleword} {got : Fetched} :
    p.fetch pc = .ok got ↔
      (pc = p.endPc ∧ got = ⟨{}, pc⟩) ∨
        ∃ word, p.fetchWord pc = .ok (some word) ∧
          got = ⟨{ pc, word, valid := true }, pc + BitVec.ofNat 64 instructionSize⟩ := by
  rw [← fetchWord_eq_none_iff, fetch]
  cases p.fetchWord pc with
  | error fault => simp [Except.map]
  | ok answer => cases answer <;> simp [Except.map, eq_comm]

theorem Program.fetch_of_not_inRange {pc : Doubleword} (small : p.size < 2 ^ 60)
    (astray : ¬p.InRange pc) : p.fetch pc = .error (fetchFault pc) := by
  rw [fetch, fetchWord_of_not_inRange small astray]
  rfl

/-! ## Words in latches -/

structure IdEx.Holds (latch : IdEx) (p : Program) : Prop extends latch.FollowsWord where
  found : p.wordAt? latch.pc = some latch.word
  rd : latch.rd = latch.word.rd
  funct3 : latch.funct3 = latch.word.funct3
  funct7 : latch.funct7 = latch.word.funct7
  imm : latch.imm = latch.word.immediate

structure ExMem.Holds (latch : ExMem) (p : Program) : Prop where
  found : p.wordAt? latch.pc = some latch.word
  rd : latch.rd = latch.word.rd
  funct3 : latch.funct3 = latch.word.funct3
  control : latch.control = Control.ofCode latch.word.opcode

structure MemWb.Holds (latch : MemWb) (p : Program) : Prop where
  found : p.wordAt? latch.pc = some latch.word
  rd : latch.rd = latch.word.rd
  control : latch.control = Control.ofCode latch.word.opcode

theorem IfId.holds_decode {latch : IfId} {rf : RegisterFile} {write : Option RegisterWrite}
    (held : latch.isEmpty = false → p.wordAt? latch.pc = some latch.word)
    (busy : (latch.decode rf write).isEmpty = false) : (latch.decode rf write).Holds p := by
  have follows := IdEx.followsWord_decode latch rf write
  unfold decode at busy follows ⊢
  split at busy
  next valid =>
    rw [if_pos valid] at follows ⊢
    exact
      { follows with
        found := held (by simp [isEmpty, valid])
        rd := rfl
        funct3 := rfl
        funct7 := rfl
        imm := rfl }
  · cases busy

theorem IdEx.holds_execute {latch : IdEx} {fwd : Forwarding} {exMem : ExMem} {memWb : MemWb}
    (held : latch.isEmpty = false → latch.Holds p)
    (busy : (latch.execute fwd exMem memWb).isEmpty = false) :
    (latch.execute fwd exMem memWb).Holds p := by
  rw [isEmpty_execute] at busy
  obtain ⟨⟨-, -, control⟩, found, rd, funct3, -, -⟩ := held busy
  rw [execute, if_neg (by simp [busy])]
  exact ⟨found, rd, funct3, control⟩

theorem ExMem.holds_access {latch : ExMem} {memory : DataMemory} {access : AccessResult}
    (accessed : latch.access memory = .ok access) (held : latch.isEmpty = false → latch.Holds p)
    (busy : access.latch.isEmpty = false) : access.latch.Holds p := by
  rw [isEmpty_of_access accessed] at busy
  obtain ⟨_, _, -, -, rfl⟩ := (access_eq_ok_iff busy).1 accessed
  obtain ⟨found, rd, -, control⟩ := held busy
  exact ⟨found, rd, control⟩

namespace Core

variable {c next : Core} {fetched : Option Fetched} {access : AccessResult} {fault : Fault}

/-! ## Where the core fetches -/

/-- Control has been sent where nothing can be fetched: all behind the transfer is thrown away, and
the fetch stops the core. -/
structure Astray (c : Core) : Prop where
  ifId : c.ifId.isEmpty = true
  idEx : c.idEx.isEmpty = true
  exMem : c.exMem.isEmpty = true
  memWb : c.memWb.control.isControlFlow = true
  stops : c.fault = some (Program.fetchFault c.pc) ∨
    c.isFinished = false ∧ c.tick.1 = .halted (Program.fetchFault c.pc)

structure Coherent (p : Program) (c : Core) : Prop where
  program : c.program = p
  ifId : c.ifId.isEmpty = false → p.wordAt? c.ifId.pc = some c.ifId.word
  idEx : c.idEx.isEmpty = false → c.idEx.Holds p
  exMem : c.exMem.isEmpty = false → c.exMem.Holds p
  memWb : c.memWb.isEmpty = false → c.memWb.Holds p
  follows : c.ifId.isEmpty = false → c.pc.toNat = c.ifId.pc.toNat + instructionSize
  pc : p.InRange c.pc ∨ c.Astray

theorem busy_of_stalls (stalls : c.stalls = true) :
    c.ifId.isEmpty = false ∧ c.idEx.isEmpty = false := by
  simp only [Core.stalls, loadUseHazard, Bool.and_eq_true] at stalls
  obtain ⟨⟨⟨valid, reads⟩, -⟩, -⟩ := stalls
  exact ⟨by simp [IfId.isEmpty, valid], by simp [IdEx.isEmpty, Control.isBubble, reads]⟩

theorem astray_of_turn (small : p.size < 2 ^ 60) (program : c.program = p)
    (running : c.isFinished = false) (ifId : c.ifId.isEmpty = true) (idEx : c.idEx.isEmpty = true)
    (exMem : c.exMem.isEmpty = true) (memWb : c.memWb.control.isControlFlow = true)
    (away : ¬p.InRange c.pc) : c.Astray := by
  have moves : c.stalls = false := by
    cases stalls : c.stalls with
    | false => rfl
    | true => simp [(busy_of_stalls stalls).1] at ifId
  have failed : c.program.fetch c.pc = .error (Program.fetchFault c.pc) :=
    program ▸ Program.fetch_of_not_inRange small away
  exact ⟨ifId, idEx, exMem, memWb,
    .inr ⟨running, (tick_eq_halted_iff running).2 (.fetch moves failed)⟩⟩

namespace Coherent

theorem step (small : p.size < 2 ^ 60) (h : Coherent p c) (running : c.isFinished = false)
    (commits : c.Commits next fetched access) : Coherent p next := by
  have program : next.program = p := commits.program.trans h.program
  have memWb : next.memWb.isEmpty = false → next.memWb.Holds p := by
    rw [commits.memWb]
    exact ExMem.holds_access commits.access_eq h.exMem
  have executed : c.executed.isEmpty = false → c.executed.Holds p :=
    IdEx.holds_execute h.idEx
  cases commits.front with
  | turn target redirect pc ifId idEx exMem =>
      have transfers : next.memWb.control.isControlFlow = true := by
        rw [commits.memWb]
        exact ExMem.isControlFlow_of_redirect commits.access_eq redirect
      have running' : next.isFinished = false := by
        rw [isFinished, commits.fault, commits.complete]
        exact running
      have noIfId : next.ifId.isEmpty = true := by rw [ifId, IfId.isEmpty_empty]
      have noIdEx : next.idEx.isEmpty = true := by rw [idEx, IdEx.isEmpty_empty]
      have noExMem : next.exMem.isEmpty = true := by rw [exMem, ExMem.isEmpty_empty]
      exact
        { program
          ifId := by simp [noIfId]
          idEx := by simp [noIdEx]
          exMem := by simp [noExMem]
          memWb
          follows := by simp [noIfId]
          pc := Classical.or_iff_not_imp_left.2
            (astray_of_turn small program running' noIfId noIdEx noExMem transfers) }
  | wait redirect stalls pc ifId idEx exMem =>
      have busy := (busy_of_stalls stalls).1
      have range : p.InRange c.pc := h.pc.resolve_right fun astray => by
        simp [astray.ifId] at busy
      have noIdEx : next.idEx.isEmpty = true := by rw [idEx, IdEx.isEmpty_empty]
      exact
        { program
          ifId := by rw [ifId]; exact h.ifId
          idEx := by simp [noIdEx]
          exMem := by rw [exMem]; exact executed
          memWb
          follows := by rw [ifId, pc]; exact h.follows
          pc := .inl (pc ▸ range) }
  | flow got redirect stalls fetched_eq fetch pc ifId idEx exMem =>
      rw [h.program, Program.fetch_eq_ok_iff] at fetch
      have decoded : next.idEx.isEmpty = false → next.idEx.Holds p := by
        rw [idEx]
        exact IfId.holds_decode h.ifId
      rcases fetch with ⟨atEnd, rfl⟩ | ⟨word, found, rfl⟩
      · have noIfId : next.ifId.isEmpty = true := by rw [ifId, IfId.isEmpty_empty]
        exact
          { program
            ifId := by simp [noIfId]
            idEx := decoded
            exMem := by rw [exMem]; exact executed
            memWb
            follows := by simp [noIfId]
            pc := .inl (by rw [pc, atEnd]; exact Program.inRange_endPc small) }
      · have there := Program.wordAt?_of_fetchWord found
        exact
          { program
            ifId := fun _ => by rw [ifId]; exact there
            idEx := decoded
            exMem := by rw [exMem]; exact executed
            memWb
            follows := fun _ => by rw [pc, ifId]; exact Program.toNat_next small there
            pc := .inl (by rw [pc]; exact Program.inRange_next small found) }

/-- The end of the program can be fetched from, so no core completes astray. -/
theorem settle (small : p.size < 2 ^ 60) (h : Coherent p next) : Coherent p next.settle.2 := by
  unfold Core.settle
  split
  next atEnd =>
    obtain ⟨program, ifId, idEx, exMem, memWb, follows, -⟩ := h
    have here : next.pc = p.endPc := by
      rw [(atEnd_eq_true_iff.1 atEnd).1, endPc, program]
    exact ⟨program, ifId, idEx, exMem, memWb, follows,
      .inl (here ▸ Program.inRange_endPc small)⟩
  · exact h

theorem halt (h : Coherent p c) (running : c.isFinished = false)
    (failed : c.evaluate = .error fault) : Coherent p (c.halt fault) := by
  obtain ⟨program, ifId, idEx, exMem, memWb, follows, pc⟩ := h
  refine ⟨program, ifId, idEx, exMem, memWb, follows, pc.imp_right fun astray => ?_⟩
  obtain ⟨sound, going⟩ := isFinished_eq_false_iff.1 running
  obtain ⟨ifId, idEx, exMem, memWb, stopped | ⟨-, stops⟩⟩ := astray
  · rw [sound] at stopped
    cases stopped
  · rw [tick_of_error sound going failed] at stops
    cases stops
    exact ⟨ifId, idEx, exMem, memWb, .inl rfl⟩

theorem ticks (small : p.size < 2 ^ 60) (h : Coherent p c) (n : Nat) :
    Coherent p (Core.ticks n c) :=
  kept_by_ticks (fun running coherent commits => (coherent.step small running commits).settle small)
    (fun running coherent failed => coherent.halt running failed) h n

end Coherent

end Core

namespace Simulator

variable {config : Config} {sim : Simulator}

theorem coherent_create (created : create p config = .ok sim) : sim.core.Coherent p := by
  rw [create_core created]
  exact
    { program := rfl
      ifId := fun busy => by cases busy
      idEx := fun busy => by cases busy
      exMem := fun busy => by cases busy
      memWb := fun busy => by cases busy
      follows := fun busy => by cases busy
      pc := .inl ⟨rfl, Nat.zero_le _⟩ }

/-- After any number of ticks the latches hold words of the program at the addresses of these words,
with the fields and signals of these words, and the program counter is where fetch can go on or
stops the core at once. -/
theorem latches_follow_program (small : p.size < 2 ^ 60) (created : create p config = .ok sim)
    (n : Nat) : (Core.ticks n sim.core).Coherent p :=
  (coherent_create created).ticks small n

def misstep : Program := ⟨#[0x00600067, 0x00002083], by decide⟩

def misstepSim : Simulator := { core := Core.boot misstep 16, maxCycles := none }

theorem misstep_goes_astray :
    misstep.size < 2 ^ 60 ∧ create misstep { dataSize := 16 } = .ok misstepSim ∧
      (Core.ticks 3 misstepSim.core).exMem.Holds misstep ∧
      (Core.ticks 4 misstepSim.core).Astray ∧
      (Core.ticks 4 misstepSim.core).tick.1 = .halted (.fetchMisaligned 6) := by
  have small : misstep.size < 2 ^ 60 := by decide
  have created : create misstep { dataSize := 16 } = .ok misstepSim := by decide
  have away : ¬misstep.InRange (Core.ticks 4 misstepSim.core).pc := by
    rintro ⟨aligned, -⟩
    exact absurd aligned (by decide)
  exact ⟨small, created, (latches_follow_program small created 3).exMem (by decide),
    (latches_follow_program small created 4).pc.resolve_left away, by decide⟩

end Simulator

end FiveStage
