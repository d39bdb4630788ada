import FiveStage.Proofs.Machine.Memory
import FiveStage.Proofs.Simulator.Setup
import Mathlib.Data.List.Induction

/-!
# Before the first cycle

A configuration is valid if each of its settings is.  Then, if there is room for its memory, a
simulator is set up, and its registers and its memory hold what was asked for: of several preloads
in one place the last one counts, and nothing else is there.
-/

namespace FiveStage

structure Config.IsValid (c : Config) : Prop where
  dataSize : 0 < c.dataSize
  memory : ∀ q ∈ c.memoryPreloads, q.width ∈ [1, 2, 4, 8] ∧ q.addr.toNat + q.width ≤ c.dataSize
  registers : ∀ q ∈ c.registerPreloads, q.index < 32
  maxCycles : c.maxCycles ≠ some 0

theorem RegisterPreload.problem?_eq_none_iff {q : RegisterPreload} :
    q.problem? = none ↔ q.index < registerCount := by
  unfold problem?
  split <;> simp_all

theorem Config.isValid_iff {c : Config} : c.IsValid ↔ c.validate = .ok () := by
  rw [validate_eq_ok_iff, problem?_eq_none_iff]
  simp only [List.findSome?_eq_none_iff, MemoryPreload.problem?_eq_none_iff,
    RegisterPreload.problem?_eq_none_iff]
  constructor
  · rintro ⟨dataSize, memory, registers, maxCycles⟩
    exact ⟨Nat.ne_of_gt dataSize, memory, registers, maxCycles⟩
  · rintro ⟨dataSize, memory, registers, maxCycles⟩
    exact ⟨Nat.pos_of_ne_zero dataSize, memory, registers, maxCycles⟩

/-! ## Registers -/

namespace RegisterFile

theorem preload_concat (rf : RegisterFile) (preloads : List RegisterPreload)
    (q : RegisterPreload) :
    rf.preload (preloads ++ [q]) = (rf.preload preloads).write q.index q.value :=
  List.foldl_concat ..

theorem read_preload {preloads : List RegisterPreload}
    (known : ∀ q ∈ preloads, q.index < registerCount) (rf : RegisterFile) {index : Nat}
    (pos : index ≠ 0) :
    (rf.preload preloads).read index =
      ((preloads.reverse.find? (·.index = index)).map (·.value)).getD (rf.read index) := by
  -- From the back: the last preload decides, unless it is of another register.
  induction preloads using List.reverseRecOn with
  | nil => rfl
  | append_singleton front q ih =>
      rw [preload_concat, List.reverse_concat, List.find?_cons]
      by_cases same : q.index = index
      · have bound := known q List.mem_concat_self
        subst same
        simp [read_write_self pos bound]
      · rw [read_write_of_ne same, ih fun r mem => known r (List.mem_append_left _ mem)]
        simp [same]

end RegisterFile

/-! ## Memory -/

namespace MemoryPreload

def reaches (q : MemoryPreload) (addr : Nat) : Bool := addr ∈ DataMemory.addresses q.addr q.width

def byteFor (q : MemoryPreload) (addr : Nat) : Byte :=
  q.value.extractLsb' (8 * (addr - q.addr.toNat)) 8

end MemoryPreload

namespace DataMemory

variable {m next : DataMemory}

theorem write_eq_ok_iff {addr value : Doubleword} {width : Nat} :
    m.write addr width value = .ok next ↔
      m.Covers addr width ∧ next = m.written addr width value := by
  by_cases covers : m.Covers addr width
  · simp [write_of_covers covers, covers, eq_comm]
  · simp [write, covers]

theorem preload_concat_eq_ok_iff {preloads : List MemoryPreload} {q : MemoryPreload} :
    m.preload (preloads ++ [q]) = .ok next ↔
      ∃ before, m.preload preloads = .ok before ∧
        before.write q.addr q.width q.value = .ok next := by
  unfold preload
  rw [List.foldlM_append]
  cases preloads.foldlM (fun m q => m.write q.addr q.width q.value) m with
  | error fault => simp [bind, Except.bind]
  | ok before =>
      cases wrote : before.write q.addr q.width q.value <;>
        simp [bind, Except.bind, pure, Except.pure, wrote]

theorem size_preload {preloads : List MemoryPreload} (loaded : m.preload preloads = .ok next) :
    next.size = m.size := by
  induction preloads using List.reverseRecOn generalizing next with
  | nil =>
      cases loaded
      rfl
  | append_singleton front q ih =>
      obtain ⟨before, placed, wrote⟩ := preload_concat_eq_ok_iff.1 loaded
      rw [size_of_write wrote, ih placed]

theorem byteAt_preload {preloads : List MemoryPreload} (loaded : m.preload preloads = .ok next)
    (addr : Nat) :
    next.byteAt addr =
      ((preloads.reverse.find? (·.reaches addr)).map (·.byteFor addr)).getD (m.byteAt addr) := by
  induction preloads using List.reverseRecOn generalizing next with
  | nil =>
      cases loaded
      rfl
  | append_singleton front q ih =>
      obtain ⟨before, placed, wrote⟩ := preload_concat_eq_ok_iff.1 loaded
      obtain ⟨covers, rfl⟩ := write_eq_ok_iff.1 wrote
      rw [byteAt_written covers, ih placed, List.reverse_concat, List.find?_cons]
      by_cases here : addr ∈ addresses q.addr q.width
      · simp [here, MemoryPreload.reaches, MemoryPreload.byteFor]
      · simp [here, MemoryPreload.reaches]

@[simp] theorem byteAt_zeroed (size addr : Nat) : (zeroed size).byteAt addr = 0 := by
  unfold byteAt zeroed
  by_cases inside : addr < size <;> simp [inside]

end DataMemory

namespace Simulator

variable {p : Program} {config : Config} {s : Simulator}

/-- What a simulator holds before its first cycle.  A preload of register 0 is without effect. -/
structure IsSetUp (p : Program) (config : Config) (s : Simulator) : Prop where
  boot : s.core =
    { Core.boot p config.dataSize with registers := s.core.registers, memory := s.core.memory }
  clock : s.core.clock = 0
  pc : s.core.pc = 0
  latches : s.core.ifId = {} ∧ s.core.idEx = {} ∧ s.core.exMem = {} ∧ s.core.memWb = {}
  zero : s.core.registers.read 0 = 0
  register : ∀ index ≠ 0, s.core.registers.read index =
    ((config.registerPreloads.reverse.find? (·.index = index)).map (·.value)).getD 0
  size : s.core.memory.size = config.dataSize
  byte : ∀ addr, s.core.memory.byteAt addr =
    ((config.memoryPreloads.reverse.find? (·.reaches addr)).map (·.byteFor addr)).getD 0
  limit : s.maxCycles = config.maxCycles

theorem isSetUp_of_create (created : create p config = .ok s) : IsSetUp p config s := by
  obtain ⟨valid, -, memory, loaded, rfl⟩ := create_eq_ok_iff.1 created
  have known := (Config.isValid_iff.2 valid).registers
  exact
    { boot := rfl
      clock := rfl
      pc := rfl
      latches := ⟨rfl, rfl, rfl, rfl⟩
      zero := rfl
      register := fun index pos => by
        rw [RegisterFile.read_preload known _ pos, RegisterFile.read_empty]
      size := by rw [DataMemory.size_preload loaded, DataMemory.size_zeroed]
      byte := fun addr => by rw [DataMemory.byteAt_preload loaded, DataMemory.byteAt_zeroed]
      limit := rfl }

theorem create_eq_error_iff {error : SetupError} :
    create p config = .error error ↔
      (∃ setting, config.validate = .error setting ∧ error = .invalid setting) ∨
        config.validate = .ok () ∧ DataMemory.maxSize < config.dataSize ∧
          error = .capacity := by
  cases valid : config.validate with
  | error setting => simp [create, valid, eq_comm]
  | ok =>
      by_cases fits : config.dataSize ≤ DataMemory.maxSize
      · obtain ⟨s, created⟩ := exists_create p valid fits
        simp [created, fits]
      · rw [Nat.not_le] at fits
        simp [create, valid, Core.boot?_eq_none_iff.2 fits, fits, eq_comm]

/-- A configuration that is refused is refused with the error of its first wrong setting, and no
preload of a valid one fails when it is made.  Valid configurations can ask for more memory than
there can be in one piece, and these crash. -/
theorem create_iff_valid_and_fits (p : Program) (config : Config) :
    (config.validate = .ok () ↔ config.IsValid) ∧
    (∀ error, create p config = .error error ↔
      (∃ setting, config.validate = .error setting ∧ error = .invalid setting ∧
        error.message = setting.message) ∨
      config.validate = .ok () ∧ DataMemory.maxSize < config.dataSize ∧ error = .capacity) ∧
    (config.validate = .ok () → config.dataSize ≤ DataMemory.maxSize →
      ∃ s, create p config = .ok s ∧ IsSetUp p config s) := by
  refine ⟨Config.isValid_iff.symm, fun error => ?_, fun valid fits => ?_⟩
  · rw [create_eq_error_iff]
    refine or_congr_left ⟨?_, ?_⟩
    · rintro ⟨setting, invalid, rfl⟩
      exact ⟨setting, invalid, rfl, rfl⟩
    · rintro ⟨setting, invalid, same, -⟩
      exact ⟨setting, invalid, same⟩
  · obtain ⟨s, created⟩ := exists_create p valid fits
    exact ⟨s, created, isSetUp_of_create created⟩

def overlapping : Config :=
  { dataSize := 8
    memoryPreloads := [⟨0, 0x8877665544332211, 8⟩, ⟨4, 0xDDCCBBAA, 4⟩, ⟨3, 0xF00F, 2⟩]
    registerPreloads := [⟨0, 9⟩, ⟨31, 1⟩, ⟨31, 2⟩]
    maxCycles := some 1 }

theorem overlapping_isSetUp :
    let p : Program := ⟨#[0x00000013], by decide⟩
    overlapping.validate = .ok () ∧ overlapping.dataSize ≤ DataMemory.maxSize ∧
      ∃ s, create p overlapping = .ok s ∧ IsSetUp p overlapping s ∧
        s.core.registers.read 31 = 2 ∧
        (List.range 8).map s.core.memory.byteAt =
          [0x11, 0x22, 0x33, 0x0F, 0xF0, 0xBB, 0xCC, 0xDD] := by
  intro p
  have valid : overlapping.validate = .ok () := by decide
  have fits : overlapping.dataSize ≤ DataMemory.maxSize := by decide
  obtain ⟨s, created, setUp⟩ := (create_iff_valid_and_fits p overlapping).2.2 valid fits
  refine ⟨valid, fits, s, created, setUp, ?_, ?_⟩
  · rw [setUp.register 31 (by decide)]
    decide
  · rw [funext setUp.byte]
    decide

theorem not_every_valid_created :
    ¬∀ (p : Program) (config : Config),
      (∃ s, create p config = .ok s) ↔ config.validate = .ok () := by
  intro claimed
  have valid : ({ dataSize := 2 ^ 63 } : Config).validate = .ok () := by decide
  obtain ⟨s, created⟩ := (claimed ⟨#[0x00000013], by decide⟩ _).2 valid
  have fits := (create_eq_ok_iff.1 created).2.1
  exact absurd fits (by decide)

end Simulator

end FiveStage
