import FiveStage.Proofs.Machine.Units
import Mathlib.Algebra.BigOperators.Intervals
import Mathlib.Algebra.BigOperators.Ring.Finset
import Mathlib.Order.Interval.Finset.Nat
import Mathlib.Tactic.Ring

/-!
# Data memory, byte by byte

What an access does to memory, said of its bytes alone.  `accesses_bounded` says when an access is
served, what it then reads or leaves behind, that a refused one changes nothing, and that accesses
which share no address do not notice each other.
-/

namespace FiveStage

/-! ## Rows of bytes -/

theorem littleEndian_eq_sum (bytes : Array Byte) (start width : Nat) :
    littleEndian bytes start width =
      ∑ j ∈ Finset.range width, (bytes[start + j]?.getD 0).toNat * 256 ^ j := by
  induction width generalizing start with
  | zero => rfl
  | succ width ih =>
      rw [littleEndian, ih, Finset.sum_range_succ', Finset.mul_sum, Nat.add_comm]
      congr 1
      · refine Finset.sum_congr rfl fun j _ => ?_
        rw [Nat.pow_succ, Nat.add_assoc, Nat.add_comm 1 j]
        ring
      · simp

theorem getElem?_putLittleEndian {bytes : Array Byte} {start width : Nat}
    (inside : start + width ≤ bytes.size) (value a : Nat) :
    (putLittleEndian bytes start width value)[a]?.getD 0 =
      if start ≤ a ∧ a < start + width then BitVec.ofNat 8 (value / 256 ^ (a - start))
      else bytes[a]?.getD 0 := by
  induction width generalizing bytes start value with
  | zero =>
      rw [putLittleEndian, if_neg (by omega)]
  | succ width ih =>
      rw [putLittleEndian, ih (by rw [Array.size_setIfInBounds]; omega)]
      rcases Nat.lt_trichotomy a start with before | rfl | behind
      · rw [if_neg (by omega), if_neg (by omega), Array.getElem?_setIfInBounds_ne (by omega)]
      · rw [if_neg (by omega), if_pos (by omega),
          Array.getElem?_setIfInBounds_self_of_lt (by omega)]
        simp
      · by_cases reached : a < start + 1 + width
        · obtain ⟨j, rfl⟩ : ∃ j, a = start + 1 + j := ⟨a - (start + 1), by omega⟩
          have here : start + 1 + j - start = j + 1 := by omega
          rw [if_pos (by omega), if_pos (by omega), here, Nat.add_sub_cancel_left,
            Nat.div_div_eq_div_mul, Nat.pow_succ']
        · rw [if_neg (by omega), if_neg (by omega), Array.getElem?_setIfInBounds_ne (by omega)]

theorem toNat_extractLsb'_byte (value : Doubleword) (j : Nat) :
    (value.extractLsb' (8 * j) 8).toNat = value.toNat / 256 ^ j % 256 := by
  rw [BitVec.extractLsb'_toNat, Nat.shiftRight_eq_div_pow, Nat.pow_mul]

theorem sum_bytes (value : Doubleword) (width : Nat) :
    ∑ j ∈ Finset.range width, (value.extractLsb' (8 * j) 8).toNat * 256 ^ j =
      value.toNat % 256 ^ width := by
  induction width with
  | zero => simp [Nat.mod_one]
  | succ width ih =>
      rw [Finset.sum_range_succ, ih, toNat_extractLsb'_byte, Nat.mod_pow_succ, Nat.mul_comm]

theorem Access.extend_low (access : Access) (pos : 0 < access.width) (narrow : access.width ≤ 8)
    (value : Doubleword) :
    access.extend (BitVec.ofNat 64 (value.toNat % 256 ^ access.width)) =
      if access.signed then (value.setWidth (8 * access.width)).signExtend 64
      else (value.setWidth (8 * access.width)).setWidth 64 := by
  have low : BitVec.ofNat 64 (value.toNat % 256 ^ access.width) =
      (value.setWidth (8 * access.width)).setWidth 64 := by
    apply BitVec.eq_of_toNat_eq
    rw [BitVec.toNat_setWidth, BitVec.toNat_setWidth, BitVec.toNat_ofNat, Nat.pow_mul]
  unfold extend
  cases access.signed with
  | true =>
      rw [if_pos rfl, if_pos rfl, sshiftRight_shiftLeft _ (by omega) (by omega), low,
        BitVec.setWidth_setWidth_of_le _ (by omega), BitVec.setWidth_eq]
  | false => rw [if_neg Bool.false_ne_true, if_neg Bool.false_ne_true, low]

namespace DataMemory

variable {m m' : DataMemory} {addr other : Doubleword} {width otherWidth : Nat}

def addresses (addr : Doubleword) (width : Nat) : Finset Nat :=
  Finset.Ico addr.toNat (addr.toNat + width)

def written (m : DataMemory) (addr : Doubleword) (width : Nat) (value : Doubleword) :
    DataMemory :=
  match m.write addr width value with
  | .ok next => next
  | .error _ => m

theorem ext_byteAt (size : m.size = m'.size) (bytes : ∀ a, m.byteAt a = m'.byteAt a) : m = m' := by
  cases m with
  | mk row =>
      cases m' with
      | mk row' =>
          congr 1
          refine Array.ext size fun a inside inside' => ?_
          simpa [byteAt, inside, inside'] using bytes a

theorem littleEndian_eq_sum_byteAt (m : DataMemory) (start width : Nat) :
    littleEndian m.bytes start width =
      ∑ j ∈ Finset.range width, (m.byteAt (start + j)).toNat * 256 ^ j :=
  littleEndian_eq_sum ..

/-! ## Writes -/

theorem write_of_covers (covers : m.Covers addr width) (value : Doubleword) :
    m.write addr width value = .ok (m.written addr width value) := by
  simp [written, write, covers]

theorem written_of_not_covers (outside : ¬m.Covers addr width) (value : Doubleword) :
    m.written addr width value = m := by
  simp [written, write, outside]

@[simp] theorem size_written (m : DataMemory) (addr : Doubleword) (width : Nat)
    (value : Doubleword) : (m.written addr width value).size = m.size := by
  by_cases covers : m.Covers addr width
  · exact size_of_write (write_of_covers covers value)
  · rw [written_of_not_covers covers]

theorem covers_written (m : DataMemory) (addr other : Doubleword) (width otherWidth : Nat)
    (value : Doubleword) :
    (m.written addr width value).Covers other otherWidth ↔ m.Covers other otherWidth := by
  rw [Covers, Covers, size_written]

theorem byteAt_written (covers : m.Covers addr width) (value : Doubleword) (a : Nat) :
    (m.written addr width value).byteAt a =
      if a ∈ addresses addr width then value.extractLsb' (8 * (a - addr.toNat)) 8
      else m.byteAt a := by
  have same : m.written addr width value =
      ⟨putLittleEndian m.bytes addr.toNat width value.toNat⟩ := by
    simp [written, write, covers]
  rw [same, byteAt, getElem?_putLittleEndian covers.2, addresses]
  simp only [Finset.mem_Ico]
  split
  · apply BitVec.eq_of_toNat_eq
    rw [toNat_extractLsb'_byte, BitVec.toNat_ofNat]
  · rfl

theorem byteAt_written_of_notMem {a : Nat} (away : a ∉ addresses addr width)
    (value : Doubleword) : (m.written addr width value).byteAt a = m.byteAt a := by
  by_cases covers : m.Covers addr width
  · rw [byteAt_written covers, if_neg away]
  · rw [written_of_not_covers covers]

/-! ## Reads -/

theorem read_of_covers (covers : m.Covers addr width) :
    m.read addr width = .ok (BitVec.ofNat 64
      (∑ j ∈ Finset.range width, (m.byteAt (addr.toNat + j)).toNat * 256 ^ j)) := by
  rw [read, if_pos covers, littleEndian_eq_sum_byteAt]

theorem toNat_read (covers : m.Covers addr width) :
    ∃ loaded, m.read addr width = .ok loaded ∧
      loaded.toNat = ∑ j ∈ Finset.range width, (m.byteAt (addr.toNat + j)).toNat * 256 ^ j := by
  refine ⟨_, read_of_covers covers, ?_⟩
  have bound := littleEndian_lt m.bytes addr.toNat width
  have fits : 256 ^ width ≤ 256 ^ 8 := Nat.pow_le_pow_right (by decide) covers.1
  rw [← littleEndian_eq_sum_byteAt, BitVec.toNat_ofNat]
  exact Nat.mod_eq_of_lt (by omega)

theorem read_congr (size : m.size = m'.size)
    (bytes : ∀ a ∈ addresses addr width, m.byteAt a = m'.byteAt a) :
    m.read addr width = m'.read addr width := by
  have alike : m.Covers addr width ↔ m'.Covers addr width := by rw [Covers, Covers, size]
  by_cases covers : m.Covers addr width
  · rw [read_of_covers covers, read_of_covers (alike.1 covers)]
    congr 2
    refine Finset.sum_congr rfl fun j reached => ?_
    have inside : addr.toNat + j ∈ addresses addr width := by
      simp only [Finset.mem_range] at reached
      simp only [addresses, Finset.mem_Ico]
      omega
    rw [bytes _ inside]
  · rw [read, read, if_neg covers, if_neg (alike.not.1 covers)]

theorem read_written_self (covers : m.Covers addr width) (value : Doubleword) :
    (m.written addr width value).read addr width =
      .ok (BitVec.ofNat 64 (value.toNat % 256 ^ width)) := by
  rw [read_of_covers ((covers_written ..).2 covers), ← sum_bytes]
  congr 2
  refine Finset.sum_congr rfl fun j reached => ?_
  have inside : addr.toNat + j ∈ addresses addr width := by
    simp only [Finset.mem_range] at reached
    simp only [addresses, Finset.mem_Ico]
    omega
  rw [byteAt_written covers, if_pos inside, Nat.add_sub_cancel_left]

/-! ## Accesses that share no address -/

variable (apart : Disjoint (addresses addr width) (addresses other otherWidth))

include apart in
theorem read_written_of_disjoint (value : Doubleword) :
    (m.written addr width value).read other otherWidth = m.read other otherWidth :=
  read_congr (size_written ..) fun _ reached =>
    byteAt_written_of_notMem (Finset.disjoint_right.1 apart reached) value

include apart in
theorem written_comm (value otherValue : Doubleword) :
    (m.written addr width value).written other otherWidth otherValue =
      (m.written other otherWidth otherValue).written addr width value := by
  by_cases covers : m.Covers addr width
  · by_cases covers' : m.Covers other otherWidth
    · refine ext_byteAt (by simp only [size_written]) fun a => ?_
      rw [byteAt_written ((covers_written ..).2 covers'),
        byteAt_written ((covers_written ..).2 covers), byteAt_written covers,
        byteAt_written covers']
      by_cases reached : a ∈ addresses addr width
      · rw [if_pos reached, if_pos reached, if_neg (Finset.disjoint_left.1 apart reached)]
      · rw [if_neg reached, if_neg reached]
    · rw [written_of_not_covers covers', written_of_not_covers ((covers_written ..).not.2 covers')]
  · rw [written_of_not_covers covers, written_of_not_covers ((covers_written ..).not.2 covers)]

/-! ## What an access does -/

structure Served (m : DataMemory) (addr : Doubleword) (width : Nat) (value : Doubleword) :
    Prop where
  check : m.check addr width = .ok ()
  read : ∃ loaded, m.read addr width = .ok loaded ∧
    loaded.toNat = ∑ j ∈ Finset.range width, (m.byteAt (addr.toNat + j)).toNat * 256 ^ j
  write : m.write addr width value = .ok (m.written addr width value)
  size : (m.written addr width value).size = m.size
  bytes : ∀ a, (m.written addr width value).byteAt a =
    if a ∈ addresses addr width then value.extractLsb' (8 * (a - addr.toNat)) 8 else m.byteAt a
  readBack : ∃ loaded, (m.written addr width value).read addr width = .ok loaded ∧
    loaded.toNat = value.toNat % 256 ^ width ∧
    ∀ signed : Bool, width ∈ [1, 2, 4, 8] →
      Access.extend ⟨width, signed⟩ loaded =
        if signed then (value.setWidth (8 * width)).signExtend 64
        else (value.setWidth (8 * width)).setWidth 64

structure Refused (m : DataMemory) (addr : Doubleword) (width : Nat) (value : Doubleword) :
    Prop where
  check : m.check addr width = .error (.accessOutOfRange addr width)
  read : m.read addr width = .error (.accessOutOfRange addr width)
  write : m.write addr width value = .error (.accessOutOfRange addr width)
  unchanged : m.written addr width value = m

theorem served_of_covers (covers : m.Covers addr width) (value : Doubleword) :
    Served m addr width value where
  check := check_eq_ok_iff.2 covers
  read := toNat_read covers
  write := write_of_covers covers value
  size := size_written ..
  bytes := byteAt_written covers value
  readBack := by
    refine ⟨_, read_written_self covers value, ?_, fun signed supported => ?_⟩
    · have bound := value.isLt
      have low := Nat.mod_le value.toNat (256 ^ width)
      rw [BitVec.toNat_ofNat, Nat.mod_eq_of_lt (by omega)]
    · simp only [List.mem_cons, List.not_mem_nil, or_false] at supported
      exact Access.extend_low ⟨width, signed⟩ (by simp only; omega) (by simp only; omega) value

theorem refused_of_not_covers (outside : ¬m.Covers addr width) (value : Doubleword) :
    Refused m addr width value where
  check := if_neg outside
  read := if_neg outside
  write := if_neg outside
  unchanged := written_of_not_covers outside value

/-- Check, read and write serve just the accesses of at most eight bytes that end inside the memory,
where the end of an access is a natural number and does not wrap round.  Of two accesses that
share no address neither changes what the other reads, and their writes may change places. -/
theorem accesses_bounded (m : DataMemory) (addr : Doubleword) (width : Nat) (value : Doubleword) :
    (width ≤ 8 ∧ addr.toNat + width ≤ m.size → Served m addr width value) ∧
    (¬(width ≤ 8 ∧ addr.toNat + width ≤ m.size) → Refused m addr width value) ∧
    ∀ (other : Doubleword) (otherWidth : Nat) (otherValue : Doubleword),
      Disjoint (addresses addr width) (addresses other otherWidth) →
        (m.written addr width value).read other otherWidth = m.read other otherWidth ∧
        (m.written addr width value).written other otherWidth otherValue =
          (m.written other otherWidth otherValue).written addr width value :=
  ⟨fun inside => served_of_covers inside value, fun outside => refused_of_not_covers outside value,
    fun _ _ otherValue apart =>
      ⟨read_written_of_disjoint apart value, written_comm apart value otherValue⟩⟩

theorem twelve_bytes_bounded :
    let m := zeroed 12
    (4 ≤ 8 ∧ (6 : Doubleword).toNat + 4 ≤ m.size) ∧ Served m 6 4 0x8182838485868788 ∧
      ¬(8 ≤ 8 ∧ (0xFFFFFFFFFFFFFFFC : Doubleword).toNat + 8 ≤ m.size) ∧
      Refused m 0xFFFFFFFFFFFFFFFC 8 0x8182838485868788 ∧
      Disjoint (addresses 6 4) (addresses 10 2) ∧
      (m.written 6 4 0x8182838485868788).read 10 2 = m.read 10 2 := by
  intro m
  have inside : 4 ≤ 8 ∧ (6 : Doubleword).toNat + 4 ≤ m.size := by decide
  have outside : ¬(8 ≤ 8 ∧ (0xFFFFFFFFFFFFFFFC : Doubleword).toNat + 8 ≤ m.size) := by decide
  have apart : Disjoint (addresses 6 4) (addresses 10 2) := by decide
  exact ⟨inside, (accesses_bounded m 6 4 _).1 inside, outside,
    (accesses_bounded m 0xFFFFFFFFFFFFFFFC 8 _).2.1 outside, apart,
    ((accesses_bounded m 6 4 _).2.2 10 2 0 apart).1⟩

end DataMemory

end FiveStage
