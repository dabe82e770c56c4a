import Mathlib.Tactic.Common

/-!
# Checksums from a table

A checksum of four bytes that a table of 256 words updates byte by byte, the
low byte first.  When the high bytes of the table's words all differ, a state
can be traced back through the bytes that led to it; so two messages that
differ in at most four bytes in a row, and nowhere else, have different
checksums.
-/

namespace OmnetDsi.Library.TableChecksums

open BitVec

variable (table : BitVec 8 → BitVec 32)

/-- The word of the table that a byte leads to. -/
def index (res : BitVec 32) (byte : BitVec 8) : BitVec 8 :=
  res.setWidth 8 ^^^ byte

def update (res : BitVec 32) (byte : BitVec 8) : BitVec 32 :=
  res >>> 8 ^^^ table (index res byte)

def updateAll (res : BitVec 32) (bytes : List (BitVec 8)) : BitVec 32 :=
  bytes.foldl (update table) res

/-- The words of the table that the bytes lead to. -/
def indices : BitVec 32 → List (BitVec 8) → List (BitVec 8)
  | _, [] => []
  | res, byte :: rest => index res byte :: indices (update table res byte) rest

/-- So many of the high bytes agree. -/
def Agree (count : Nat) (res other : BitVec 32) : Prop :=
  res >>> (32 - 8 * count) = other >>> (32 - 8 * count)

variable {table}

theorem updateAll_append (res : BitVec 32) (first second : List (BitVec 8)) :
    updateAll table res (first ++ second) = updateAll table (updateAll table res first) second :=
  List.foldl_append

/-- The high byte of a state is that of the table's word. -/
theorem high_update (res : BitVec 32) (byte : BitVec 8) :
    update table res byte >>> 24 = table (index res byte) >>> 24 := by
  rw [update, ushiftRight_xor_distrib, ← shiftRight_add]
  have gone : res >>> (8 + 24) = 0#32 := by
    apply eq_of_toNat_eq
    rw [toNat_ushiftRight, Nat.shiftRight_eq_div_pow]
    exact Nat.div_eq_of_lt res.isLt
  rw [gone, zero_xor]

theorem Agree.high (agree : Agree (count + 1) res other) : res >>> 24 = other >>> 24 := by
  unfold Agree at agree
  by_cases small : count < 4
  · have split : 24 = 32 - 8 * (count + 1) + 8 * count := by omega
    rw [split, shiftRight_add, shiftRight_add, agree]
  · have all : 32 - 8 * (count + 1) = 0 := by omega
    rw [all, ushiftRight_zero, ushiftRight_zero] at agree
    rw [agree]

section Invertible

variable (distinct : Function.Injective fun i => table i >>> 24)

include distinct

/-- One byte is traced back. -/
theorem Agree.back (small : count < 4)
    (agree : Agree (count + 1) (update table res byte) (update table other otherByte)) :
    index res byte = index other otherByte ∧ Agree count res other := by
  have same : index res byte = index other otherByte := by
    apply distinct
    have high := agree.high
    rwa [high_update, high_update] at high
  refine ⟨same, ?_⟩
  unfold Agree update at agree
  rw [same, ushiftRight_xor_distrib, ushiftRight_xor_distrib,
    xor_left_inj, ← shiftRight_add, ← shiftRight_add] at agree
  have shift : 8 + (32 - 8 * (count + 1)) = 32 - 8 * count := by omega
  rwa [shift] at agree

theorem update_injective
    (same : update table res byte = update table other byte) : res = other := by
  have agree : Agree 4 (update table res byte) (update table other byte) := by
    rw [Agree, same]
  obtain ⟨low, high⟩ := Agree.back distinct (by decide) agree
  have bytes := (xor_left_inj _).mp low
  apply eq_of_getLsbD_eq
  intro i _
  by_cases first : i < 8
  · have bit := congrArg (·.getLsbD i) bytes
    simpa [first] using bit
  · have bit := congrArg (·.getLsbD (i - 8)) high
    have position : 8 + (i - 8) = i := by omega
    simpa [position] using bit

theorem updateAll_injective
    (same : updateAll table res bytes = updateAll table other bytes) : res = other := by
  induction bytes generalizing res other with
  | nil => exact same
  | cons _ _ induction => exact update_injective distinct (induction same)

/-- At most four bytes are traced back. -/
theorem indices_eq (small : count ≤ 4) (length : bytes.length = others.length)
    (enough : bytes.length ≤ count)
    (agree : Agree count (updateAll table res bytes) (updateAll table other others)) :
    indices table res bytes = indices table other others ∧
      Agree (count - bytes.length) res other := by
  induction bytes generalizing others res other with
  | nil =>
    rw [List.eq_nil_of_length_eq_zero length.symm] at agree ⊢
    exact ⟨rfl, agree⟩
  | cons _ rest induction =>
    cases others with
    | nil => cases length
    | cons _ _ =>
      rw [List.length_cons] at enough
      obtain ⟨following, still⟩ := induction (Nat.succ.inj length) (by omega) agree
      have count_eq : count - rest.length = count - (rest.length + 1) + 1 := by omega
      rw [count_eq] at still
      obtain ⟨here, before⟩ := Agree.back distinct (by omega) still
      rw [indices, here, following]
      exact ⟨rfl, before⟩

omit distinct

theorem indices_injective
    (same : indices table res bytes = indices table res others) : bytes = others := by
  induction bytes generalizing res others with
  | nil =>
    cases others with
    | nil => rfl
    | cons _ _ => cases same
  | cons _ _ induction =>
    cases others with
    | nil => cases same
    | cons _ _ =>
      obtain ⟨here, following⟩ := List.cons.inj same
      have equal := (xor_right_inj _).mp here
      rw [equal] at following ⊢
      rw [induction following]

include distinct

/-- A message is known by its checksum but for at most four bytes. -/
theorem window_injective (length : bytes.length = others.length) (few : bytes.length ≤ 4)
    (same : updateAll table res (before ++ (bytes ++ after)) =
      updateAll table res (before ++ (others ++ after))) :
    bytes = others := by
  rw [updateAll_append, updateAll_append, updateAll_append, updateAll_append] at same
  have middle := updateAll_injective distinct same
  have agree : Agree 4 (updateAll table (updateAll table res before) bytes)
      (updateAll table (updateAll table res before) others) := by
    rw [Agree, middle]
  exact indices_injective (indices_eq distinct (Nat.le_refl 4) length few agree).1

end Invertible

/-! ## Numbers that all differ -/

/-- No number of the list is marked or occurs before. -/
def unmarked : Nat → List Nat → Bool
  | _, [] => true
  | marks, number :: rest => !marks.testBit number && unmarked (marks ||| 1 <<< number) rest

theorem testBit_mark (marks number i : Nat) :
    (marks ||| 1 <<< number).testBit i = (marks.testBit i || decide (number = i)) := by
  rw [Nat.testBit_or, Nat.one_shiftLeft, Nat.testBit_two_pow]

theorem nodup_of_unmarked (fresh : unmarked marks numbers = true) :
    numbers.Nodup ∧ ∀ number ∈ numbers, marks.testBit number = false := by
  induction numbers generalizing marks with
  | nil => exact ⟨.nil, fun number member => nomatch member⟩
  | cons _ _ induction =>
    rw [unmarked, Bool.and_eq_true, Bool.not_eq_true'] at fresh
    obtain ⟨nodup, others⟩ := induction fresh.2
    constructor
    · refine List.nodup_cons.mpr ⟨fun again => ?_, nodup⟩
      have marked := others _ again
      rw [testBit_mark, decide_eq_true rfl, Bool.or_true] at marked
      cases marked
    · intro _ member
      rcases List.mem_cons.mp member with rfl | later
      · exact fresh.1
      · have clear := others _ later
        rw [testBit_mark] at clear
        exact (Bool.or_eq_false_iff.mp clear).1

end OmnetDsi.Library.TableChecksums
