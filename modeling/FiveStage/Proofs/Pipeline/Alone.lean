import FiveStage.Proofs.Machine.Run
import FiveStage.Proofs.Pipeline.Operands

/-!
# An instruction alone

The latches that a word leaves behind when it has the pipeline for itself, in a state of the
sequential machine.  They show exactly what the sequential machine does with the word: the stages
and the machine agree on the operands, the result, the store and the transfer of control.
-/

namespace FiveStage

theorem Control.exists_ofCode (code : Nat) : ∃ o : Opcode, Control.ofCode code = o.control := by
  unfold ofCode
  cases Opcode.ofCode? code with
  | some o => exact ⟨o, rfl⟩
  | none => exact ⟨.system, rfl⟩

theorem Control.ofCode_signals (code : Nat) :
    let c := Control.ofCode code
    c.memToReg = c.memRead ∧ (c.memRead = true → c.regWrite = true ∧ c.jump = false ∧
      c.branch = false) ∧ (c.memWrite = true → c.jump = false) ∧
      (c.jump = true → c.branch = false) := by
  obtain ⟨o, h⟩ := exists_ofCode code
  rw [h]
  cases o <;> decide

def Execution.retirement (e : Execution) : Retirement :=
  { pc := e.pc, word := e.word, control := Control.ofCode e.word.opcode, write := e.write }

def Execution.isKnown (e : Execution) : Bool := Control.isKnown e.word.opcode

namespace MachineState

variable {s next : MachineState} {word : Word} {execution : Execution}

/-! ## The latches -/

def idEx (s : MachineState) (word : Word) : IdEx :=
  IfId.decode { pc := s.pc, word, valid := true } s.registers none

def exMem (s : MachineState) (word : Word) : ExMem := (s.idEx word).execute {} {} {}

def access (s : MachineState) (word : Word) : Except Fault AccessResult :=
  (s.exMem word).access s.memory

theorem idEx_control : (s.idEx word).control = Control.ofCode word.opcode := rfl

theorem exMem_of_bubble (h : (Control.ofCode word.opcode).isBubble = true) :
    s.exMem word = {} := by
  simp [exMem, IdEx.execute, IdEx.isEmpty, idEx_control, h]

def operands (s : MachineState) (word : Word) : Operands :=
  ⟨s.registers.read word.rs1, s.registers.read word.rs2⟩

theorem exMem_of_busy (h : (Control.ofCode word.opcode).isBubble = false) :
    s.exMem word =
      { pc := s.pc
        word
        rd := word.rd
        funct3 := word.funct3
        alu := (s.idEx word).outcome (s.operands word)
        zero := s.calculated word == 0
        storeData := s.registers.read word.rs2
        taken := s.taken word
        target := (s.idEx word).target (s.operands word)
        control := Control.ofCode word.opcode } := by
  have taken : (s.idEx word).taken (s.operands word) = s.taken word := by
    simp [IdEx.taken, MachineState.taken, idEx, IfId.decode, operands]
  rw [← taken, exMem, IdEx.execute, IdEx.isEmpty, idEx_control, h]
  rfl

theorem exMem_rd_lt (s : MachineState) (word : Word) : (s.exMem word).rd < registerCount := by
  cases h : (Control.ofCode word.opcode).isBubble with
  | true => simp [exMem_of_bubble h]
  | false =>
      rw [exMem_of_busy h]
      exact word.rd_lt

/-! ## Agreement with the sequential machine -/

theorem redirect?_exMem (h : (Control.ofCode word.opcode).isBubble = false) :
    (s.exMem word).redirect? = if s.taken word then some (s.nextPc word) else none := by
  rw [exMem_of_busy h]
  obtain ⟨-, -, -, noBranch⟩ := Control.ofCode_signals word.opcode
  unfold ExMem.redirect? nextPc
  cases taken : s.taken word with
  | false => simp
  | true =>
      have flow : (Control.ofCode word.opcode).isControlFlow = true := by
        simp only [MachineState.taken, Bool.or_eq_true, Bool.and_eq_true] at taken
        simp only [Control.isControlFlow, Bool.or_eq_true]
        exact taken.symm.imp_left And.left
      simp only [flow, and_self, if_true, Option.some.injEq]
      unfold IdEx.target target
      rw [idEx_control]
      cases jump : (Control.ofCode word.opcode).jump with
      | true => simp only [noBranch jump, if_true]; rfl
      | false =>
          have branch : (Control.ofCode word.opcode).branch = true := by
            simpa [Control.isControlFlow, jump] using flow
          simp only [branch, if_true]
          rfl

theorem alu_exMem (h : (Control.ofCode word.opcode).isBubble = false) :
    (s.exMem word).alu =
      if (Control.ofCode word.opcode).jump then s.pc + BitVec.ofNat 64 instructionSize
      else s.calculated word := by
  rw [exMem_of_busy h]
  rfl

theorem load_exMem (h : (Control.ofCode word.opcode).isBubble = false) :
    (s.exMem word).load s.memory = s.loaded word := by
  obtain ⟨-, reads, -⟩ := Control.ofCode_signals word.opcode
  unfold ExMem.load loaded
  rw [alu_exMem h, exMem_of_busy h]
  cases memRead : (Control.ofCode word.opcode).memRead with
  | true =>
      simp only [(reads memRead).2.1]
      cases Access.load? word.funct3 <;> rfl
  | false => rfl

theorem stage_exMem (h : (Control.ofCode word.opcode).isBubble = false) :
    (do s.memory.apply (← (s.exMem word).stage s.memory)) = s.stored word := by
  obtain ⟨-, -, writes, -⟩ := Control.ofCode_signals word.opcode
  unfold ExMem.stage stored
  rw [alu_exMem h, exMem_of_busy h]
  cases memWrite : (Control.ofCode word.opcode).memWrite with
  | true =>
      simp only [writes memWrite]
      cases Access.store? word.funct3 with
      | some found =>
          by_cases covers : s.memory.Covers (s.calculated word) found.width <;>
            simp [DataMemory.check, DataMemory.write, DataMemory.apply, covers, bind, Except.bind,
              Except.map]
      | none => rfl
  | false => rfl

theorem isKnown_eq (word : Word) :
    Control.isKnown word.opcode = !(Control.ofCode word.opcode).isBubble := by
  cases bubble : (Control.ofCode word.opcode).isBubble with
  | true => exact Control.ofCode_isBubble_iff.1 bubble
  | false =>
      rw [Bool.not_false, ← Bool.not_eq_false, ← Control.ofCode_isBubble_iff, bubble]
      exact Bool.false_ne_true

theorem execute_of_bubble (h : (Control.ofCode word.opcode).isBubble = true) :
    s.execute word =
      .ok (⟨s.pc, word, none, false⟩,
        { s with pc := s.pc + BitVec.ofNat 64 instructionSize }) := by
  simp [Control.isBubble] at h
  obtain ⟨⟨⟨⟨regWrite, memRead⟩, memWrite⟩, branch⟩, jump⟩ := h
  simp [execute, loaded, stored, write, MachineState.taken, nextPc, regWrite, memRead, memWrite,
    branch, jump, RegisterFile.apply]

theorem access_of_execute (h : s.execute word = .ok (execution, next)) :
    ∃ result, s.access word = .ok result ∧ s.memory.apply result.store = .ok next.memory ∧
      result.redirect = (if execution.taken then some next.pc else none) ∧
      result.latch.retire? = (if execution.isKnown then some execution.retirement else none) := by
  cases bubble : (Control.ofCode word.opcode).isBubble with
  | true =>
      rw [execute_of_bubble bubble] at h
      cases h
      refine ⟨{}, by rw [access, exMem_of_bubble bubble]; rfl, rfl, rfl, ?_⟩
      simp only [Execution.isKnown, isKnown_eq, bubble]
      rfl
  | false =>
      obtain ⟨loadData, memory, load, store, rfl, rfl⟩ := execute_eq_ok_iff.1 h
      rw [← load_exMem bubble] at load
      rw [← stage_exMem bubble] at store
      cases staged : (s.exMem word).stage s.memory with
      | error fault => simp [staged, bind, Except.bind] at store
      | ok pending =>
          have written : s.memory.apply pending = .ok memory := by
            simpa [staged, bind, Except.bind] using store
          have busy : (s.exMem word).isEmpty = false := by
            rw [exMem_of_busy bubble]
            exact bubble
          refine ⟨_, (ExMem.access_eq_ok_iff busy).2 ⟨loadData, pending, load, staged, rfl⟩,
            written, redirect?_exMem bubble, ?_⟩
          rw [exMem_of_busy bubble]
          simp only [MemWb.retire?, MemWb.isEmpty, Execution.isKnown, isKnown_eq, bubble]
          rfl

theorem access_of_fault {fault : Fault} (h : s.execute word = .error fault) :
    s.access word = .error fault := by
  cases bubble : (Control.ofCode word.opcode).isBubble with
  | true =>
      rw [execute_of_bubble bubble] at h
      cases h
  | false =>
      unfold execute at h
      rw [← load_exMem bubble, ← stage_exMem bubble] at h
      have busy : (s.exMem word).isEmpty = false := by
        rw [exMem_of_busy bubble]
        exact bubble
      unfold access ExMem.access
      rw [if_neg (by simp [busy])]
      cases load : (s.exMem word).load s.memory with
      | error failed => simpa [load] using h
      | ok loadData =>
          cases stage : (s.exMem word).stage s.memory with
          | error failed => simpa [load, stage, bind, Except.bind] using h
          | ok pending =>
              obtain ⟨memory, written⟩ := ExMem.exists_apply_of_stage stage
              simp [load, stage, written, bind, Except.bind] at h

theorem execute_of_access {result : AccessResult} (h : s.access word = .ok result) :
    ∃ execution next, s.execute word = .ok (execution, next) ∧
      s.memory.apply result.store = .ok next.memory ∧
      result.redirect = (if execution.taken then some next.pc else none) ∧
      result.latch.retire? = (if execution.isKnown then some execution.retirement else none) := by
  cases done : s.execute word with
  | ok pair =>
      obtain ⟨result', accessed, parts⟩ := access_of_execute done
      rw [h] at accessed
      cases accessed
      exact ⟨pair.1, pair.2, rfl, parts⟩
  | error fault =>
      rw [access_of_fault done] at h
      cases h

/-! ## Register writes -/

theorem write_of_execute (h : s.execute word = .ok (execution, next)) :
    ∃ loadData, s.loaded word = .ok loadData ∧ execution.write = s.write word loadData := by
  obtain ⟨loadData, memory, load, -, rfl, -⟩ := execute_eq_ok_iff.1 h
  exact ⟨loadData, load, rfl⟩

theorem write_of_bubble (h : (Control.ofCode word.opcode).isBubble = true)
    (loadData : Doubleword) : s.write word loadData = none := by
  simp [write, Control.regWrite_of_isBubble h]

theorem write?_of_execute {latch : MemWb} (done : s.execute word = .ok (execution, next))
    (retire : latch.retire? = if execution.isKnown then some execution.retirement else none) :
    latch.write? = execution.write := by
  rw [← MemWb.retire?_bind_write, retire]
  cases known : execution.isKnown with
  | true => rfl
  | false =>
      obtain ⟨loadData, -, written⟩ := write_of_execute done
      have bubble : (Control.ofCode word.opcode).isBubble = true := by
        simpa [Execution.isKnown, (execution_of_execute done).2.1, isKnown_eq] using known
      rw [written, write_of_bubble bubble]
      rfl

theorem access_rd_lt {result : AccessResult} (h : s.access word = .ok result) :
    result.latch.rd < registerCount := by
  cases busy : (s.exMem word).isEmpty with
  | true =>
      have idle : s.access word = .ok {} := by simp [access, ExMem.access, busy]
      rw [idle] at h
      cases h
      decide
  | false =>
      obtain ⟨_, _, -, -, rfl⟩ := (ExMem.access_eq_ok_iff busy).1 h
      exact s.exMem_rd_lt word

theorem read_apply_exMem_write? {rf : RegisterFile} {index : Nat}
    (done : s.execute word = .ok (execution, next))
    (noUse : (s.exMem word).control.memRead = true → (s.exMem word).rd ≠ 0 →
      (s.exMem word).rd ≠ index) :
    (rf.apply (s.exMem word).write?).read index = (rf.apply execution.write).read index := by
  obtain ⟨loadData, -, written⟩ := write_of_execute done
  rw [written]
  cases bubble : (Control.ofCode word.opcode).isBubble with
  | true =>
      rw [exMem_of_bubble bubble, write_of_bubble bubble]
      rfl
  | false =>
      obtain ⟨loads, -⟩ := Control.ofCode_signals word.opcode
      rw [ExMem.write?, alu_exMem bubble]
      rw [exMem_of_busy bubble] at noUse ⊢
      simp only [MachineState.write]
      rw [RegisterFile.read_apply_ite word.rd_lt, RegisterFile.read_apply_ite word.rd_lt, loads]
      cases memRead : (Control.ofCode word.opcode).memRead with
      | false => rfl
      | true =>
          have away : ¬(index ≠ 0 ∧ (Control.ofCode word.opcode).regWrite = true ∧
              word.rd = index) := by
            rintro ⟨pos, -, rfl⟩
            exact noUse memRead pos rfl
          rw [if_neg away, if_neg away]

end MachineState

/-! ## Operands in the pipeline -/

theorem IdEx.execute_eq_alone {s : MachineState} {latch : IfId} {rf : RegisterFile}
    {exMem : ExMem} {memWb : MemWb} (valid : latch.valid = true) (pc : latch.pc = s.pc)
    (younger : exMem.rd < registerCount) (older : memWb.rd < registerCount)
    (rs1 : ((rf.apply memWb.write?).apply exMem.write?).read latch.word.rs1 =
      s.registers.read latch.word.rs1)
    (rs2 : ((rf.apply memWb.write?).apply exMem.write?).read latch.word.rs2 =
      s.registers.read latch.word.rs2) :
    (latch.decode rf none).execute (Forwarding.select (latch.decode rf none) exMem memWb) exMem
      memWb = s.exMem latch.word := by
  have decoded : latch.decode rf none =
      { s.idEx latch.word with
        value1 := rf.read latch.word.rs1
        value2 := rf.read latch.word.rs2 } := by
    simp only [IfId.decode, valid, if_true, MachineState.idEx, pc]
    rfl
  rw [decoded]
  cases bubble : (Control.ofCode latch.word.opcode).isBubble with
  | true =>
      rw [MachineState.exMem_of_bubble bubble]
      simp [IdEx.execute, IdEx.isEmpty, MachineState.idEx_control, bubble]
  | false =>
      have operands : (Forwarding.select
          { s.idEx latch.word with
            value1 := rf.read latch.word.rs1
            value2 := rf.read latch.word.rs2 } exMem memWb).operands
          { s.idEx latch.word with
            value1 := rf.read latch.word.rs1
            value2 := rf.read latch.word.rs2 } exMem memWb = s.operands latch.word := by
        simp only [Forwarding.select, IdEx.isEmpty, MachineState.idEx_control, bubble,
          Forwarding.operands, MachineState.operands]
        rw [← rs1, ← rs2, ← ForwardSource.value_select younger older,
          ← ForwardSource.value_select younger older]
        rfl
      rw [MachineState.exMem, IdEx.execute, IdEx.execute, operands]
      rfl

theorem IdEx.execute_feedsNoUse {idEx : IdEx} {ifId : IfId} {fwd : Forwarding} {exMem : ExMem}
    {memWb : MemWb} {rf : RegisterFile} {write : Option RegisterWrite}
    (through : loadUseHazard idEx ifId = false) :
    (idEx.execute fwd exMem memWb).FeedsNoUse (ifId.decode rf write) := by
  intro memRead pos
  unfold IdEx.execute at memRead pos ⊢
  split at memRead
  · cases memRead
  next busy =>
    rw [if_neg busy] at pos ⊢
    unfold IfId.decode
    cases valid : ifId.valid with
    | false => exact ⟨pos, pos⟩
    | true =>
        simp only [loadUseHazard, valid, Bool.and_eq_false_iff, Bool.or_eq_false_iff] at through
        simp_all

end FiveStage
