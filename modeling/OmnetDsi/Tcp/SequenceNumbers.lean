import Mathlib.Algebra.Order.Ring.Nat

/-!
# Sequence numbers

TCP numbers the bytes of a stream modulo `2 ^ 32` and compares two numbers by
their distance: `seqLess` and its kin look at the difference as a signed
number.  A byte at a `position` of the stream has the number `number start
position`, and the comparisons of two numbers are those of the positions as
long as these lie within `2 ^ 31` of one another.
-/

namespace OmnetDsi.Tcp.SequenceNumbers

/-- A `uint32`. -/
abbrev SeqNo := BitVec 32

def seqLess (a b : SeqNo) : Bool :=
  a != b && decide ((b - a).toNat < 2 ^ 31)

def seqLE (a b : SeqNo) : Bool :=
  decide ((b - a).toNat < 2 ^ 31)

def seqGreater (a b : SeqNo) : Bool :=
  a != b && decide ((a - b).toNat < 2 ^ 31)

def seqGE (a b : SeqNo) : Bool :=
  decide ((a - b).toNat < 2 ^ 31)

theorem seqGreater_eq_seqLess (a b : SeqNo) : seqGreater a b = seqLess b a := by
  rw [seqGreater, seqLess, bne_comm]

theorem seqGE_eq_seqLE (a b : SeqNo) : seqGE a b = seqLE b a :=
  rfl

theorem not_seqGE (ordered : seqLE a b = true) (differ : a ≠ b) : ¬seqGE a b = true := by
  rw [seqLE, decide_eq_true_iff, BitVec.toNat_sub] at ordered
  rw [seqGE, decide_eq_true_iff, BitVec.toNat_sub]
  have apart : a.toNat ≠ b.toNat := fun same => differ (BitVec.eq_of_toNat_eq same)
  omega

/-- One past a number is the only one that is past it and not past that. -/
theorem eq_add_one (after : ¬seqLE a b = true)
    (before : ¬seqGreater a (b + 1) = true) : a = b + 1 := by
  by_contra differ
  have apart : a.toNat ≠ (b + 1).toNat := fun same => differ (BitVec.eq_of_toNat_eq same)
  have far : ¬(a - (b + 1)).toNat < 2 ^ 31 := fun near =>
    before (Bool.and_eq_true_iff.mpr ⟨bne_iff_ne.mpr differ, decide_eq_true near⟩)
  have next : (b + 1).toNat = (b.toNat + 1) % 2 ^ 32 := by
    rfl
  rw [seqLE, decide_eq_true_iff, BitVec.toNat_sub] at after
  rw [BitVec.toNat_sub, next] at far
  omega

/-! ## The numbers of a stream -/

/-- The number of the byte at a position of a stream. -/
def number (start : SeqNo) (position : Nat) : SeqNo :=
  start + BitVec.ofNat 32 position

section Numbers

variable (start : SeqNo)

@[simp]
theorem number_zero : number start 0 = start := by
  simp [number]

theorem number_add (position length : Nat) :
    number start position + BitVec.ofNat 32 length = number start (position + length) := by
  rw [number, number, BitVec.add_assoc, ← BitVec.ofNat_add]

/-- Every number is that of the position at its distance from another. -/
theorem number_add_distance (position : Nat) (other : SeqNo) :
    number start (position + (other - number start position).toNat) = other := by
  rw [← number_add, BitVec.ofNat_toNat, BitVec.setWidth_eq, BitVec.add_comm, BitVec.sub_add_cancel]

variable {start}

theorem toNat_number_sub :
    (number start second - number start first).toNat =
      (second % 2 ^ 32 + (2 ^ 32 - first % 2 ^ 32)) % 2 ^ 32 := by
  simp only [number, BitVec.toNat_sub, BitVec.toNat_add, BitVec.toNat_ofNat]
  omega

theorem distance (ordered : first ≤ second) (near : second < first + 2 ^ 32) :
    (number start second - number start first).toNat = second - first := by
  rw [toNat_number_sub]
  omega

theorem number_inj (ordered : first ≤ second) (near : second < first + 2 ^ 32) :
    number start first = number start second ↔ first = second := by
  constructor
  · intro same
    have apart : (number start second - number start first).toNat = second - first :=
      distance ordered near
    rw [same, BitVec.sub_self, BitVec.toNat_zero] at apart
    omega
  · rintro rfl
    rfl

theorem seqLE_number (behind : first ≤ second + 2 ^ 31) (ahead : second < first + 2 ^ 31) :
    seqLE (number start first) (number start second) = true ↔ first ≤ second := by
  rw [seqLE, decide_eq_true_iff, toNat_number_sub]
  omega

theorem seqLess_number (behind : first ≤ second + 2 ^ 31) (ahead : second < first + 2 ^ 31) :
    seqLess (number start first) (number start second) = true ↔ first < second := by
  have le : seqLE (number start first) (number start second) = true ↔ first ≤ second :=
    seqLE_number behind ahead
  rw [seqLE] at le
  rw [seqLess, Bool.and_eq_true, le, bne_iff_ne, ne_eq]
  constructor
  · rintro ⟨differ, ordered⟩
    refine lt_of_le_of_ne ordered ?_
    rintro rfl
    exact differ rfl
  · intro ordered
    refine ⟨fun same => ordered.ne ?_, ordered.le⟩
    exact (number_inj ordered.le (by omega)).mp same

theorem seqGE_number (behind : second ≤ first + 2 ^ 31) (ahead : first < second + 2 ^ 31) :
    seqGE (number start first) (number start second) = true ↔ second ≤ first := by
  exact seqLE_number behind ahead

/-- A number between two others is that of a position between theirs. -/
theorem exists_between (ordered : first ≤ last) (near : last < first + 2 ^ 31)
    (after : ¬seqGE (number start first) other = true)
    (before : seqLE other (number start last) = true) :
    ∃ position, other = number start position ∧ first < position ∧ position ≤ last := by
  have number_other := number_add_distance start first other
  rw [← number_other, seqGE, decide_eq_true_iff, toNat_number_sub] at after
  rw [← number_other, seqLE, decide_eq_true_iff, toNat_number_sub] at before
  exact ⟨first + (other - number _ _).toNat, number_other.symm, by omega, by omega⟩

/-! ### Below the wrap -/

theorem toNat_number (unwrapped : start.toNat + position < 2 ^ 32) :
    (number start position).toNat = start.toNat + position := by
  rw [number, BitVec.toNat_add, BitVec.toNat_ofNat]
  omega

section

variable (firstUnwrapped : start.toNat + first < 2 ^ 32)
    (secondUnwrapped : start.toNat + second < 2 ^ 32)
include firstUnwrapped secondUnwrapped

theorem number_lt : number start first < number start second ↔ first < second := by
  rw [BitVec.lt_def, toNat_number firstUnwrapped, toNat_number secondUnwrapped]
  omega

theorem number_eq : number start first = number start second ↔ first = second := by
  rw [← BitVec.toNat_inj, toNat_number firstUnwrapped, toNat_number secondUnwrapped]
  omega

end

end Numbers

end OmnetDsi.Tcp.SequenceNumbers
