import OmnetDsi.HeaderSerializers.IPSerializer

/-!
# What the Internet checksum guards

A receiver takes the checksum of a whole message and expects 0.  The
serializers of ICMP and UDP take it over what the buffer had in its place, so
that this succeeds only if it had nothing there, or only ones.
-/

namespace OmnetDsi.HeaderSerializers.InternetChecksum

open HeaderSerializers.IPSerializer Library.WireBuffers

/-! ## The sum -/

def Verifies (message : Buffer × Nat) : Prop :=
  checksum message.1 message.2 = 0

/-- The sum without any carry. -/
def total (buf : Buffer) : (offset count : Nat) → Nat
  | offset, count + 2 => (getHost16 buf offset).toNat + total buf (offset + 2) count
  | offset, 1 => (buf offset).toNat
  | _, 0 => 0

/-- Numbers of which both or none are 0, with one remainder. -/
def Alike (left right : Nat) : Prop :=
  left % 65535 = right % 65535 ∧ (left = 0 ↔ right = 0)

theorem foldCarries_alike (sum : Nat) : foldCarries sum < 65536 ∧ Alike (foldCarries sum) sum := by
  unfold Alike
  fun_induction foldCarries sum <;> omega

theorem sumWords_alike (buf : Buffer) (offset count sum : Nat) :
    Alike (sumWords buf offset count sum) (sum + total buf offset count) := by
  unfold Alike
  fun_induction sumWords buf offset count sum with
  | case1 offset count sum _ induction =>
    rw [total]
    split_ifs at induction ⊢ <;> omega
  | case2 => exact ⟨rfl, .rfl⟩
  | case3 => exact ⟨rfl, .rfl⟩

theorem checksum_alike (buf : Buffer) (count : Nat) :
    ∃ sum, (checksum buf count).toNat = 65535 - sum ∧ sum < 65536 ∧
      Alike sum (total buf 0 count) := by
  rcases foldCarries_alike (sumWords buf 0 count 0) with ⟨small, folded⟩
  have summed := sumWords_alike buf 0 count 0
  refine ⟨_, ?_, small, ?_⟩
  · rw [checksum, BitVec.toNat_not, BitVec.toNat_ofNat, Nat.mod_eq_of_lt small]
  · unfold Alike at *
    omega

theorem verifies_iff (message : Buffer × Nat) :
    Verifies message ↔
      total message.1 0 message.2 % 65535 = 0 ∧ total message.1 0 message.2 ≠ 0 := by
  rcases checksum_alike message.1 message.2 with ⟨sum, value, small, same, zero⟩
  rw [Verifies, ← BitVec.toNat_inj, value]
  change _ = 0 ↔ _
  omega

theorem getHost16_putHost16 (buf : Buffer) (offset : Nat) (value : BitVec 16) :
    getHost16 (putHost16 buf offset value) offset = value := by
  rw [getHost16, putHost16, put_same, put_other _ (Nat.ne_of_lt (Nat.lt_succ_self _)), put_same]
  exact append_extract16 value

theorem total_congr (same : ∀ i, offset ≤ i → buf i = other i) (count : Nat) :
    total buf offset count = total other offset count := by
  fun_induction total buf offset count with
  | case1 offset count induction =>
    rw [total, getHost16, getHost16, same _ le_rfl, same _ (Nat.le_succ _),
      induction fun i later => same i (by omega)]
  | case2 offset => exact congrArg BitVec.toNat (same offset le_rfl)
  | case3 => rfl

theorem total_putHost16 (buf : Buffer) (steps : Nat) (value : BitVec 16)
    (inside : 2 * steps + 2 ≤ count) (start : Nat) :
    total (putHost16 buf (start + 2 * steps) value) start count +
      (getHost16 buf (start + 2 * steps)).toNat = total buf start count + value.toNat := by
  induction steps generalizing start count with
  | zero =>
    rcases Nat.exists_eq_add_of_le' inside with ⟨rest, rfl⟩
    have behind : total (putHost16 buf start value) (start + 2) rest = total buf (start + 2) rest :=
      total_congr (fun i later => putHost16_other _ (by omega) (by omega) _) _
    simp only [Nat.mul_zero, Nat.add_zero, total, getHost16_putHost16, behind]
    omega
  | succ steps induction =>
    rcases Nat.exists_eq_add_of_le' (show 2 ≤ count by omega) with ⟨rest, rfl⟩
    have before : getHost16 (putHost16 buf (start + 2 * (steps + 1)) value) start =
        getHost16 buf start := by
      rw [getHost16, getHost16, putHost16_other _ (by omega) (by omega),
        putHost16_other _ (by omega) (by omega)]
    have later := @induction rest (by omega) (start + 2)
    rw [show start + 2 + 2 * steps = start + 2 * (steps + 1) by omega] at later
    rw [total, total, before]
    omega

/-! ## The messages -/

/--
What a checksum does for a message when the buffer had `old` in its place:
whether it verifies, and that every change of a word is noticed, but for one
between zeros and ones.
-/
structure Guards (old : BitVec 16) (written : Buffer × Nat) : Prop where
  verifies : Verifies written ↔ (old = 0 ∨ old = 0xFFFF) ∧ total written.1 0 written.2 ≠ 0
  detects : Verifies written → ∀ offset value, 2 ∣ offset → offset + 2 ≤ written.2 →
    Verifies (putHost16 written.1 offset value, written.2) →
      value = getHost16 written.1 offset ∨
        value.toNat % 0xFFFF = 0 ∧ (getHost16 written.1 offset).toNat % 0xFFFF = 0

theorem guards (buf : Buffer) (field : Nat) (even : 2 ∣ field) (inside : field + 2 ≤ count) :
    Guards (getHost16 buf field) (putHost16 buf field (checksum buf count), count) := by
  constructor
  · rcases even with ⟨steps, rfl⟩
    rcases checksum_alike buf count with ⟨sum, value, small, same, zero⟩
    have placed := total_putHost16 buf steps (checksum buf count) inside 0
    rw [Nat.zero_add] at placed
    rw [verifies_iff, ← BitVec.toNat_inj, ← BitVec.toNat_inj]
    have range := (getHost16 buf (2 * steps)).isLt
    change _ ↔ (_ = 0 ∨ _ = 65535) ∧ _
    dsimp only
    omega
  · rintro verified _ value ⟨steps, rfl⟩ inside changed
    have placed := total_putHost16 (putHost16 buf field (checksum buf count)) steps value inside 0
    rw [Nat.zero_add] at placed
    rw [verifies_iff] at verified changed
    have range := value.isLt
    have old := (getHost16 (putHost16 buf field (checksum buf count)) (2 * steps)).isLt
    rw [← BitVec.toNat_inj]
    dsimp only at *
    omega

theorem putData_other (buf : Buffer) (datalen : Nat) (data : Nat → Byte)
    (before : i < ICMP_MINLEN) :
    putData buf datalen data i = buf i := by
  unfold putData
  induction datalen with
  | zero => rfl
  | succ datalen induction =>
    rw [List.range_succ, List.foldl_append, List.foldl_cons, List.foldl_nil,
      put_other _ (by omega), induction]

/-- No serializer writes to the place of the checksum before. -/
theorem messages_guarded (pkt : ICMPMessage) (udp : UDPPacket) (buf : Buffer) :
    Guards (getHost16 buf 2) (ICMPSerializer.serialize pkt buf) ∧
      Guards (getHost16 buf 6) (UDPSerializer.serialize udp buf) := by
  constructor
  · have other (written : Buffer) (datalen : Nat) (data : Nat → Byte) :
        getHost16 (putData written datalen data) 2 = getHost16 written 2 := by
      rw [getHost16, getHost16, putData_other _ _ _ (by decide), putData_other _ _ _ (by decide)]
    have same : getHost16 buf 2 = getHost16 (ICMPSerializer.body pkt buf).1 2 := by
      rcases pkt with ⟨_ | _, _, _, _⟩
      all_goals
        dsimp only [ICMPSerializer.body]
        rw [other]
        simp [getHost16, putEcho, put16, put_other]
    rw [same]
    refine guards _ _ (by decide) ?_
    rcases pkt with ⟨_ | _, _, _, _⟩
    all_goals exact Nat.le_add_right_of_le (by decide)
  · have header (first second third : BitVec 16) :
        getHost16 buf 6 = getHost16 (put16 (put16 (put16 buf 0 first) 2 second) 4 third) 6 := by
      simp [getHost16, put16, put_other]
    rw [header]
    refine guards _ _ (by decide) ?_
    have length : udp.byteLength = 8 + udp.payloadLength := rfl
    omega

end OmnetDsi.HeaderSerializers.InternetChecksum
