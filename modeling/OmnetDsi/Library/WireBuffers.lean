import Mathlib.Algebra.Order.Ring.Int

/-!
# Buffers that packets are written to

A buffer holds a byte at every offset.  Numbers of two and four bytes are
written in network order.  `place` puts what was written through a pointer
into the buffer that the pointer points into.
-/

namespace OmnetDsi.Library.WireBuffers

abbrev Byte := BitVec 8

abbrev Buffer := Nat → Byte

def put (buf : Buffer) (offset : Nat) (byte : Byte) : Buffer :=
  Function.update buf offset byte

/-- A number of two bytes, in network order. -/
def put16 (buf : Buffer) (offset : Nat) (value : BitVec 16) : Buffer :=
  put (put buf offset (value.extractLsb' 8 8)) (offset + 1) (value.extractLsb' 0 8)

def get16 (buf : Buffer) (offset : Nat) : BitVec 16 :=
  buf offset ++ buf (offset + 1)

/-- A number of two bytes as the host has it, the low byte first. -/
def putHost16 (buf : Buffer) (offset : Nat) (value : BitVec 16) : Buffer :=
  put (put buf offset (value.extractLsb' 0 8)) (offset + 1) (value.extractLsb' 8 8)

def getHost16 (buf : Buffer) (offset : Nat) : BitVec 16 :=
  buf (offset + 1) ++ buf offset

/-- A number of four bytes, in network order. -/
def put32 (buf : Buffer) (offset : Nat) (value : BitVec 32) : Buffer :=
  put16 (put16 buf offset (value.extractLsb' 16 16)) (offset + 2) (value.extractLsb' 0 16)

def get32 (buf : Buffer) (offset : Nat) : BitVec 32 :=
  get16 buf offset ++ get16 buf (offset + 2)

/-- The buffer behind a pointer into the buffer. -/
def behind (buf : Buffer) (offset : Nat) : Buffer :=
  fun i => buf (offset + i)

/-- What was written behind the pointer is part of the buffer. -/
def place (buf : Buffer) (offset : Nat) (inner : Buffer) : Buffer :=
  fun i => if i < offset then buf i else inner (i - offset)

section Bytes

variable (buf : Buffer)

@[simp]
theorem put_same (offset : Nat) (byte : Byte) : put buf offset byte offset = byte :=
  Function.update_self _ _ _

theorem put_other (other : i ≠ offset) (byte : Byte) : put buf offset byte i = buf i :=
  Function.update_of_ne other _ _

theorem append_extract16 (value : BitVec 16) :
    value.extractLsb' 8 8 ++ value.extractLsb' 0 8 = value := by
  apply BitVec.eq_of_getLsbD_eq
  intro i _
  rw [BitVec.getLsbD_append, BitVec.getLsbD_extractLsb', BitVec.getLsbD_extractLsb']
  by_cases low : i < 8
  · simp [low]
  · have high : i - 8 < 8 := by omega
    have same : 8 + (i - 8) = i := by omega
    simp [low, high, same]

theorem append_extract32 (value : BitVec 32) :
    value.extractLsb' 16 16 ++ value.extractLsb' 0 16 = value := by
  apply BitVec.eq_of_getLsbD_eq
  intro i _
  rw [BitVec.getLsbD_append, BitVec.getLsbD_extractLsb', BitVec.getLsbD_extractLsb']
  by_cases low : i < 16
  · simp [low]
  · have high : i - 16 < 16 := by omega
    have same : 16 + (i - 16) = i := by omega
    simp [low, high, same]

theorem put16_other (first : i ≠ offset) (second : i ≠ offset + 1) (value : BitVec 16) :
    put16 buf offset value i = buf i := by
  rw [put16, put_other _ second, put_other _ first]

theorem putHost16_other (first : i ≠ offset) (second : i ≠ offset + 1) (value : BitVec 16) :
    putHost16 buf offset value i = buf i := by
  rw [putHost16, put_other _ second, put_other _ first]

theorem put32_other (outside : i < offset ∨ offset + 4 ≤ i)
    (value : BitVec 32) : put32 buf offset value i = buf i := by
  rw [put32, put16_other _ (by omega) (by omega), put16_other _ (by omega) (by omega)]

@[simp]
theorem get16_put16 (offset : Nat) (value : BitVec 16) :
    get16 (put16 buf offset value) offset = value := by
  have different : offset ≠ offset + 1 := by omega
  rw [get16, put16, put_same, put_other _ different, put_same]
  exact append_extract16 _

/-- A number does not change when something else is written. -/
theorem get16_congr {offset : Nat} (first : buf offset = other offset)
    (second : buf (offset + 1) = other (offset + 1)) : get16 buf offset = get16 other offset := by
  unfold get16
  rw [first, second]

@[simp]
theorem get32_put32 (offset : Nat) (value : BitVec 32) :
    get32 (put32 buf offset value) offset = value := by
  rw [get32, put32, get16_put16]
  have high : get16
      (put16 (put16 buf offset (value.extractLsb' 16 16)) (offset + 2)
        (value.extractLsb' 0 16)) offset =
      get16 (put16 buf offset (value.extractLsb' 16 16)) offset := by
    apply get16_congr
    all_goals exact put16_other _ (by omega) (by omega) _
  rw [high, get16_put16]
  exact append_extract32 _

theorem place_before (before : i < offset) (inner : Buffer) : place buf offset inner i = buf i :=
  if_pos before

@[simp]
theorem behind_place (offset : Nat) (inner : Buffer) :
    behind (place buf offset inner) offset = inner := by
  funext i
  rw [behind, place, if_neg (by omega), Nat.add_sub_cancel_left]

/-- What is written before the pointer cannot be seen behind it. -/
theorem behind_put16 (before : offset + 1 < start)
    (value : BitVec 16) : behind (put16 buf offset value) start = behind buf start := by
  funext i
  exact put16_other _ (by omega) (by omega) _

end Bytes

/-! ## Numbers that fit -/

theorem toNat_ofInt_eq_iff (width : Nat) (value : Int) :
    ((BitVec.ofInt width value).toNat : Int) = value ↔
      0 ≤ value ∧ value < ((2 ^ width : Nat) : Int) := by
  rw [BitVec.toNat_ofInt, Int.toNat_of_nonneg
    (Int.emod_nonneg _ (by exact_mod_cast (Nat.two_pow_pos width).ne'))]
  have positive : (0 : Int) < ((2 ^ width : Nat) : Int) := by exact_mod_cast Nat.two_pow_pos width
  constructor
  · intro same
    constructor
    · rw [← same]
      exact Int.emod_nonneg _ positive.ne'
    · rw [← same]
      exact Int.emod_lt_of_pos _ positive
  · rintro ⟨lower, upper⟩
    exact Int.emod_eq_of_lt lower upper

end OmnetDsi.Library.WireBuffers
