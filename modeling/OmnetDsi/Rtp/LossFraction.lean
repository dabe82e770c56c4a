import OmnetDsi.Rtp.SequenceTracking

/-!
# The fraction of packets lost

A report gives the packets lost in an interval as a fraction with eight bits.
The number lost is shifted in 32 bits before it is divided, so that it must
stay below `2 ^ 23`.
-/

namespace OmnetDsi.Rtp.LossFraction

open Library.Transition Rtp.SequenceTracking

inductive Event where
  | packet (sequenceNumber : BitVec 16)
  | nextInterval

inductive Step : RTPReceiverInfo → Event → RTPReceiverInfo → Prop where
  | packet (receiver : RTPReceiverInfo) (sequenceNumber : BitVec 16) :
      Step receiver (.packet sequenceNumber) (processRTPPacket receiver sequenceNumber)
  | nextInterval (receiver : RTPReceiverInfo) : Step receiver .nextInterval (nextInterval receiver)

section Report

variable (receiver : RTPReceiverInfo)

/-- `packetsExpectedInInterval` -/
def expected : BitVec 32 :=
  (receptionReport receiver).packetsExpectedInInterval

/-- `packetsLostInInterval` -/
def lost : BitVec 32 :=
  (receptionReport receiver).packetsLostInInterval

/-- `packetsReceivedInInterval` -/
def received : BitVec 32 :=
  receiver.packetsReceived - receiver.packetsReceivedPrior

/-- The division of `receptionReport`, whose result is stored in eight bits. -/
def fractionLost : BitVec 8 :=
  if (lost receiver).toInt > 0 then ((lost receiver <<< 8).sdiv (expected receiver)).setWidth 8
  else 0

/-- What a report says about losses is right, and grows with them. -/
structure ReportsLoss (others : RTPReceiverInfo → Prop) : Prop where
  divisor : (lost receiver).toInt > 0 → (expected receiver).toInt > 0
  nothing : (lost receiver).toInt ≤ 0 → fractionLost receiver = 0
  some : (lost receiver).toInt > 0 → (expected receiver).toInt ≤ 256 * (lost receiver).toInt →
    fractionLost receiver > 0
  fraction : (lost receiver).toInt > 0 →
    (fractionLost receiver).toNat = 256 * (lost receiver).toNat / (expected receiver).toNat
  monotone : ∀ other, others other → expected other = expected receiver →
    (lost receiver).toInt ≤ (lost other).toInt → fractionLost receiver ≤ fractionLost other

/-- The interval is short enough for the counts and for the shift. -/
def InRange : Prop :=
  (expected receiver).toNat < 2 ^ 23 ∧ (received receiver).toNat < 2 ^ 31
deriving Decidable

/-- Without a packet none is expected. -/
def Started : Prop :=
  (received receiver).toNat ≤ 2 ^ 31 ∧ (received receiver = 0 → expected receiver = 0)

end Report

theorem expected_nextInterval : expected (nextInterval receiver) = 0 := by
  simp [expected, receptionReport, nextInterval, BitVec.add_comm]

theorem received_packet (sequenceNumber : BitVec 16) :
    received (processRTPPacket receiver sequenceNumber) = received receiver + 1 := by
  dsimp only [received, processRTPPacket, noteSequenceNumber]
  split_ifs <;> bv_omega

theorem started_step (inRange : InRange receiver)
    (taken : Step receiver event next) : Started next := by
  cases taken with
  | packet _ =>
    have short := inRange.2
    rw [Started, received_packet]
    refine ⟨by bv_omega, fun none => ?_⟩
    exact absurd none (by bv_omega)
  | nextInterval =>
    have nothing : received (nextInterval receiver) = 0 := BitVec.sub_self _
    exact ⟨by simp [nothing], fun _ => expected_nextInterval⟩

theorem fractionLost_eq (started : Started receiver) (inRange : InRange receiver)
    (some : (lost receiver).toInt > 0) :
    0 < (lost receiver).toNat ∧ (lost receiver).toNat < (expected receiver).toNat ∧
      (fractionLost receiver).toNat = 256 * (lost receiver).toNat / (expected receiver).toNat := by
  have difference : lost receiver = expected receiver - received receiver := rfl
  rcases started with ⟨_, none⟩
  rcases inRange with ⟨_, _⟩
  have apart : 0 < (lost receiver).toNat ∧ (lost receiver).toNat < (expected receiver).toNat := by
    rw [BitVec.toInt_eq_toNat_cond] at some
    split_ifs at some <;> bv_omega
  have shifted : (lost receiver <<< 8).toNat = 256 * (lost receiver).toNat := by
    rw [BitVec.toNat_shiftLeft, Nat.shiftLeft_eq]
    omega
  have divided : (lost receiver <<< 8).sdiv (expected receiver) =
      (lost receiver <<< 8).udiv (expected receiver) := by
    have left : (lost receiver <<< 8).msb = false := by
      rw [BitVec.msb_eq_false_iff_two_mul_lt]
      omega
    have right : (expected receiver).msb = false := by
      rw [BitVec.msb_eq_false_iff_two_mul_lt]
      omega
    rw [BitVec.sdiv_eq, left, right]
  refine ⟨apart.1, apart.2, ?_⟩
  rw [fractionLost, if_pos some, divided, BitVec.toNat_setWidth, BitVec.udiv_eq,
    BitVec.toNat_udiv, shifted]
  refine Nat.mod_eq_of_lt ((Nat.div_lt_iff_lt_mul (by omega)).mpr ?_)
  omega

theorem toInt_of_pos {count : BitVec 32} (positive : count.toInt > 0) :
    count.toInt = count.toNat := by
  rw [BitVec.toInt_eq_toNat_cond] at positive ⊢
  split_ifs at positive ⊢ <;> omega

/-- In runs of short intervals reports are right about losses. -/
theorem run_reportsLoss {last : RTPReceiverInfo} {events : List Event}
    (run : Run (guardedStep (fun receiver _ => InRange receiver) Step) {} events last)
    (inRange : InRange last) :
    ReportsLoss last fun other =>
      InRange other ∧ ∃ otherEvents,
        Run (guardedStep (fun receiver _ => InRange receiver) Step) {} otherEvents other := by
  have started {other : RTPReceiverInfo} {otherEvents : List Event}
      (run : Run (guardedStep (fun receiver _ => InRange receiver) Step) {} otherEvents other) :
      Started other :=
    run.guarded (fun _ _ _ _ inRange taken => started_step inRange taken) ⟨by decide, by decide⟩
  have right := @fractionLost_eq _ (started run) inRange
  constructor
  · intro some
    have short := inRange.1
    rw [BitVec.toInt_eq_toNat_cond, if_pos (by omega)]
    omega
  · intro none
    exact if_neg none.not_gt
  · intro some enough
    obtain ⟨_, _, fraction⟩ := right some
    have short := inRange.1
    rw [toInt_of_pos some, BitVec.toInt_eq_toNat_cond, if_pos (by omega)] at enough
    rw [gt_iff_lt, BitVec.lt_def, fraction]
    exact Nat.div_pos (by omega) (by omega)
  · exact fun some => (right some).2.2
  · rintro other ⟨otherInRange, _, otherRun⟩ same more
    by_cases some : (lost last).toInt > 0
    · have otherSome : (lost other).toInt > 0 := some.trans_le more
      have otherRight := fractionLost_eq (started otherRun) otherInRange otherSome
      rw [toInt_of_pos some, toInt_of_pos otherSome] at more
      rw [BitVec.le_def, (right some).2.2, otherRight.2.2, same]
      exact Nat.div_le_div_right (by omega)
    · rw [fractionLost, if_neg some]
      exact BitVec.le_def.mpr (Nat.zero_le _)

/-! ## Runs on given packets -/

theorem run_packets (receiver : RTPReceiverInfo) (numbers : List (BitVec 16)) :
    Run Step receiver (numbers.map .packet) (numbers.foldl processRTPPacket receiver) := by
  induction numbers generalizing receiver with
  | nil => exact .idle _
  | cons number _ induction => exact .next (.packet _ _) (induction _)

/-- Five packets are expected behind the base, and four have come in all. -/
def fourOfFive : RTPReceiverInfo :=
  [0, 1, 3, 5].foldl processRTPPacket {}

theorem fourOfFive_reportsLoss : ReportsLoss fourOfFive fun _ => False := by
  have run : Run (guardedStep (fun receiver _ => InRange receiver) Step) {}
      [.packet 0, .packet 1, .packet 3, .packet 5] fourOfFive :=
    .next ⟨by decide, .packet _ _⟩
      (.next ⟨by decide, .packet _ _⟩
        (.next ⟨by decide, .packet _ _⟩ (.next ⟨by decide, .packet _ _⟩ (.idle _))))
  have reports := run_reportsLoss run (by decide)
  exact { reports with monotone := nofun }

/-- Three packets in each of 256 cycles. -/
def sparseNumbers : List (BitVec 16) :=
  0 :: (List.replicate 256 [0x8000, 0xFFF0, 0]).flatten ++ [770]

def sparse : RTPReceiverInfo :=
  sparseNumbers.foldl processRTPPacket {}

/-- A receiver that has seen some cycles, and then number 0. -/
def wrapped (cycles packets : Nat) : RTPReceiverInfo where
  sequenceNumberCycles := BitVec.ofNat 32 (cycles * 0x10000)
  packetsReceived := BitVec.ofNat 32 (packets + 1)

theorem processRTPPacket_later (receiver : RTPReceiverInfo) (sequenceNumber : BitVec 16)
    (later : receiver.packetsReceived ≠ 0) :
    processRTPPacket receiver sequenceNumber =
      noteSequenceNumber { receiver with packetsReceived := receiver.packetsReceived + 1 }
        sequenceNumber := by
  have notFirst : receiver.packetsReceived + 1 ≠ 1 := by bv_omega
  exact if_neg notFirst

theorem foldl_cycle (cycles : Nat) (few : packets < 1000) :
    [0x8000, 0xFFF0, 0].foldl processRTPPacket (wrapped cycles packets) =
      wrapped (cycles + 1) (packets + 3) := by
  have next : BitVec.ofNat 32 (cycles * 0x10000) + 0x10000 =
      BitVec.ofNat 32 ((cycles + 1) * 0x10000) := by
    bv_omega
  have more : BitVec.ofNat 32 (packets + 1) + 1 + 1 + 1 = BitVec.ofNat 32 (packets + 3 + 1) := by
    bv_omega
  rw [wrapped, wrapped, ← next, ← more, List.foldl_cons, processRTPPacket_later _ _ (by bv_omega),
    List.foldl_cons,
    processRTPPacket_later _ _ (by change BitVec.ofNat 32 (packets + 1) + 1 ≠ 0; bv_omega),
    List.foldl_cons,
    processRTPPacket_later _ _ (by change BitVec.ofNat 32 (packets + 1) + 1 + 1 ≠ 0; bv_omega)]
  rfl

theorem foldl_sparse (cycles : Nat) (few : cycles < 300) :
    (0 :: (List.replicate cycles [0x8000, 0xFFF0, 0]).flatten).foldl processRTPPacket {} =
      wrapped cycles (3 * cycles) := by
  induction cycles with
  | zero => rfl
  | succ cycles induction =>
    rw [List.replicate_succ', List.flatten_append, ← List.cons_append, List.foldl_append,
      induction (by omega)]
    exact foldl_cycle _ (by omega)

theorem sparse_eq : sparse = processRTPPacket (wrapped 256 768) 770 := by
  rw [sparse, sparseNumbers, List.foldl_append, foldl_sparse 256 (by decide)]
  rfl

/-- Nearly all packets are lost, but none are reported. -/
theorem sparse_nothing_lost :
    (∃ events, Run Step {} events sparse) ∧ (lost sparse).toInt = 2 ^ 24 ∧
      (expected sparse).toInt = 2 ^ 24 + 770 ∧ fractionLost sparse = 0 ∧
        ¬ReportsLoss sparse fun _ => False := by
  have lost : (lost sparse).toInt = 2 ^ 24 := by
    rw [sparse_eq]
    decide
  have expected : (expected sparse).toInt = 2 ^ 24 + 770 := by
    rw [sparse_eq]
    decide
  have nothing : fractionLost sparse = 0 := by
    rw [sparse_eq]
    decide
  refine ⟨⟨_, run_packets _ _⟩, lost, expected, nothing, fun reports => ?_⟩
  have some := reports.some (by omega) (by omega)
  rw [nothing] at some
  exact absurd some (by decide)

end OmnetDsi.Rtp.LossFraction
