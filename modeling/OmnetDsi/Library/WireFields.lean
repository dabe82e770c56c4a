import OmnetDsi.Library.WireBuffers
import Mathlib.Data.List.Pairwise

/-!
# Fields of a structure in a buffer

A structure that is written through a pointer is a list of fields, each some
bytes at some offset, which are written one after the other.  When the fields
lie apart, every one of them can be read back, and what is written elsewhere
afterwards does not change that.
-/

namespace OmnetDsi.Library.WireFields

open Library.WireBuffers

/-- A number of two bytes, in network order. -/
def be16 (value : BitVec 16) : List Byte :=
  [value.extractLsb' 8 8, value.extractLsb' 0 8]

/-- A number of four bytes, in network order. -/
def be32 (value : BitVec 32) : List Byte :=
  be16 (value.extractLsb' 16 16) ++ be16 (value.extractLsb' 0 16)

@[simp]
theorem length_be16 (value : BitVec 16) : (be16 value).length = 2 := rfl

@[simp]
theorem length_be32 (value : BitVec 32) : (be32 value).length = 4 := rfl

/-- So many bytes from the offset on. -/
def bytesFrom (buf : Buffer) : Nat → Nat → List Byte
  | _, 0 => []
  | offset, count + 1 => buf offset :: bytesFrom buf (offset + 1) count

theorem bytesFrom_succ (buf : Buffer) (offset count : Nat) :
    bytesFrom buf offset (count + 1) = buf offset :: bytesFrom buf (offset + 1) count := rfl

def putBytes (buf : Buffer) : Nat → List Byte → Buffer
  | _, [] => buf
  | offset, byte :: rest => putBytes (put buf offset byte) (offset + 1) rest

/-! ## Reading -/

section Reading

@[simp]
theorem length_bytesFrom (offset count : Nat) : (bytesFrom buf offset count).length = count := by
  induction count generalizing offset with
  | zero => rfl
  | succ _ induction =>
    rw [bytesFrom, List.length_cons, induction]

theorem bytesFrom_add (offset first second : Nat) :
    bytesFrom buf offset (first + second) =
      bytesFrom buf offset first ++ bytesFrom buf (offset + first) second := by
  induction first generalizing offset with
  | zero =>
    rw [Nat.zero_add, Nat.add_zero]
    rfl
  | succ _ induction =>
    rw [Nat.succ_add, bytesFrom_succ, bytesFrom_succ, induction,
      List.cons_append, Nat.add_assoc, Nat.add_comm 1]

theorem bytesFrom_congr (agree : ∀ i, offset ≤ i → i < offset + count → buf i = other i) :
    bytesFrom buf offset count = bytesFrom other offset count := by
  induction count generalizing offset with
  | zero => rfl
  | succ _ induction =>
    unfold bytesFrom
    rw [agree _ le_rfl (by omega), induction fun i lower upper => agree i (by omega) (by omega)]

/-- The bytes are in the buffer at the offset. -/
def Has (buf : Buffer) (offset : Nat) (bytes : List Byte) : Prop :=
  bytesFrom buf offset bytes.length = bytes

theorem has_append :
    Has buf offset (first ++ second) ↔
      Has buf offset first ∧ Has buf (offset + first.length) second := by
  rw [Has, List.length_append, bytesFrom_add]
  constructor
  · intro same
    exact List.append_inj same (length_bytesFrom _ _)
  · rintro ⟨left, right⟩
    rw [left, right]

theorem has_cons :
    Has buf offset (byte :: rest) ↔ buf offset = byte ∧ Has buf (offset + 1) rest := by
  unfold Has
  rw [List.length_cons, bytesFrom_succ, List.cons.injEq]

theorem Has.byte {byte : Byte} (has : Has buf offset [byte]) : buf offset = byte :=
  (has_cons.mp has).1

theorem Has.get16 (has : Has buf offset (be16 value)) : get16 buf offset = value := by
  obtain ⟨high, rest⟩ := has_cons.mp has
  rw [WireBuffers.get16, high, rest.byte]
  exact append_extract16 _

theorem Has.get32 (has : Has buf offset (be32 value)) : get32 buf offset = value := by
  obtain ⟨high, low⟩ := has_append.mp has
  rw [length_be16] at low
  rw [WireBuffers.get32, high.get16, Has.get16 low]
  exact append_extract32 _

/-- Four bytes are those of their number. -/
theorem has_get32 (offset : Nat) : Has buf offset (be32 (get32 buf offset)) := by
  unfold be32 be16 WireBuffers.get32 WireBuffers.get16
  rw [BitVec.extractLsb'_append_eq_left, BitVec.extractLsb'_append_eq_right,
    BitVec.extractLsb'_append_eq_left, BitVec.extractLsb'_append_eq_right,
    BitVec.extractLsb'_append_eq_left, BitVec.extractLsb'_append_eq_right]
  rfl

theorem Has.congr (has : Has buf offset bytes)
    (agree : ∀ i, offset ≤ i → i < offset + bytes.length → other i = buf i) :
    Has other offset bytes :=
  (bytesFrom_congr agree).trans has

end Reading

/-! ## Writing -/

section Writing

theorem putBytes_other
    (outside : i < offset ∨ offset + bytes.length ≤ i) : putBytes buf offset bytes i = buf i := by
  induction bytes generalizing buf offset with
  | nil => rfl
  | cons _ _ induction =>
    rw [List.length_cons] at outside
    rw [putBytes, induction (by omega), put_other _ (by omega)]

theorem has_putBytes (offset : Nat) (bytes : List Byte) :
    Has (putBytes buf offset bytes) offset bytes := by
  induction bytes generalizing buf offset with
  | nil => rfl
  | cons _ _ induction =>
    refine has_cons.mpr ⟨?_, induction _⟩
    rw [putBytes, putBytes_other (.inl (Nat.lt_succ_self _)), put_same]

/-- Some bytes at an offset of a structure. -/
structure Field where
  offset : Nat
  bytes : List Byte

/-- The end of the field. -/
def Field.stop (field : Field) : Nat := field.offset + field.bytes.length

/-- The fields have no byte in common. -/
def Apart (field other : Field) : Prop :=
  field.stop ≤ other.offset ∨ other.stop ≤ field.offset

/-- The fields end within so many bytes. -/
def Within (size : Nat) (fields : List Field) : Prop :=
  ∀ field ∈ fields, field.stop ≤ size

/-- The fields of the structure that starts there, in the order given. -/
def putFields (buf : Buffer) (start : Nat) (fields : List Field) : Buffer :=
  fields.foldl (fun buf field => putBytes buf (start + field.offset) field.bytes) buf

theorem putFields_other
    (outside : ∀ field ∈ fields, i < start + field.offset ∨ start + field.stop ≤ i) :
    putFields buf start fields i = buf i := by
  induction fields generalizing buf with
  | nil => rfl
  | cons field rest induction =>
    have here := outside _ List.mem_cons_self
    rw [Field.stop, ← Nat.add_assoc] at here
    change putFields (putBytes buf (start + field.offset) field.bytes) start rest i = buf i
    rw [induction fun other member => outside _ (List.mem_cons_of_mem _ member)]
    exact putBytes_other here

/-- Nothing is written before the structure. -/
theorem putFields_before (before : i < start)
    (fields : List Field) : putFields buf start fields i = buf i :=
  putFields_other fun _ _ => .inl (by omega)

theorem has_putFields (apart : fields.Pairwise Apart) :
    ∀ field ∈ fields, Has (putFields buf start fields) (start + field.offset) field.bytes := by
  induction fields generalizing buf with
  | nil => exact fun field member => nomatch member
  | cons _ rest induction =>
    obtain ⟨first, others⟩ := List.pairwise_cons.mp apart
    intro chosen member
    rcases List.mem_cons.mp member with rfl | later
    · have written : Has (putBytes buf (start + chosen.offset) chosen.bytes)
          (start + chosen.offset) chosen.bytes := has_putBytes _ _
      refine written.congr ?_
      intro i _ _
      change putFields (putBytes buf (start + chosen.offset) chosen.bytes) start rest i = _
      refine putFields_other fun other there => ?_
      have away := first _ there
      unfold Apart Field.stop at away
      unfold Field.stop
      omega
    · exact induction others _ later

end Writing

end OmnetDsi.Library.WireFields
