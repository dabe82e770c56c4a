import OmnetDsi.Library.Transition
import Mathlib.Data.Int.ModEq

/-!
# The highest sequence number of an RTP source

A receiver counts the wraps of the 16-bit sequence numbers of a source.  It
takes a number below `0x10` for a wrap only after one above `0xFFEF`, and the
converse for a late packet.  The first packet sets the base, but not the
highest sequence number, which stays zero.

The numbers in a run are extended: the one of the first packet is below
`0x10000`, and each wrap adds `0x10000`.  `Follows` is the exact condition
under which a packet keeps the receiver in step with them.
-/

namespace OmnetDsi.Rtp.SequenceTracking

open BitVec (ofInt toNat_add)
open Library.Transition

/-! ## The receiver -/

/-- The fields that have to do with sequence numbers. -/
structure RTPReceiverInfo where
  sequenceNumberBase : BitVec 16 := 0
  highestSequenceNumber : BitVec 16 := 0
  highestSequenceNumberPrior : BitVec 32 := 0
  sequenceNumberCycles : BitVec 32 := 0
  packetsReceived : BitVec 32 := 0
  packetsReceivedPrior : BitVec 32 := 0

/-- The number of a packet after the first one is compared with the highest. -/
def noteSequenceNumber (receiver : RTPReceiverInfo)
    (sequenceNumber : BitVec 16) : RTPReceiverInfo :=
  if sequenceNumber > receiver.highestSequenceNumber then
    -- it may be a late packet from before the wrap
    if ¬(sequenceNumber > 0xFFEF ∧ receiver.highestSequenceNumber < 0x10) then
      { receiver with highestSequenceNumber := sequenceNumber }
    else receiver
  else if sequenceNumber < 0x10 ∧ receiver.highestSequenceNumber > 0xFFEF then
    { receiver with
      sequenceNumberCycles := receiver.sequenceNumberCycles + 0x10000
      highestSequenceNumber := sequenceNumber }
  else receiver

def processRTPPacket (receiver : RTPReceiverInfo) (sequenceNumber : BitVec 16) : RTPReceiverInfo :=
  let receiver := { receiver with packetsReceived := receiver.packetsReceived + 1 }
  if receiver.packetsReceived = 1 then { receiver with sequenceNumberBase := sequenceNumber }
  else noteSequenceNumber receiver sequenceNumber

/-- The expected-packet count of `receptionReport`. -/
def packetsExpected (receiver : RTPReceiverInfo) : BitVec 64 :=
  receiver.sequenceNumberCycles.setWidth 64 + receiver.highestSequenceNumber.setWidth 64 -
    receiver.sequenceNumberBase.setWidth 64 + 1

/-- The numbers of a report that are about packets. -/
structure ReceptionReport where
  packetsLostCumulative : BitVec 64
  sequenceNumber : BitVec 32
  packetsExpectedInInterval : BitVec 32
  packetsLostInInterval : BitVec 32

def receptionReport (receiver : RTPReceiverInfo) : ReceptionReport :=
  let sequenceNumber := receiver.sequenceNumberCycles + receiver.highestSequenceNumber.setWidth 32
  let expected := sequenceNumber - receiver.highestSequenceNumberPrior
  let received := receiver.packetsReceived - receiver.packetsReceivedPrior
  { packetsLostCumulative :=
      packetsExpected receiver - receiver.packetsReceived.setWidth 64
    sequenceNumber
    packetsExpectedInInterval := expected
    packetsLostInInterval := expected - received }

def nextInterval (receiver : RTPReceiverInfo) : RTPReceiverInfo :=
  { receiver with
    highestSequenceNumberPrior :=
      receiver.highestSequenceNumber.setWidth 32 + receiver.sequenceNumberCycles
    packetsReceivedPrior := receiver.packetsReceived }

/-! ## Runs -/

/-- A packet with its extended sequence number, or the end of an interval. -/
inductive Event where
  | packet (number : Int)
  | nextInterval

/-- The receiver, with the extended numbers of the packets received. -/
structure Source where
  receiver : RTPReceiverInfo
  received : List Int

def start : Source where
  receiver := {}
  received := []

def advance (source : Source) : Event → Source
  | .packet number =>
    { receiver :=
        processRTPPacket source.receiver (ofInt 16 number)
      received := source.received ++ [number] }
  | .nextInterval => { source with receiver := nextInterval source.receiver }

/-- The highest of the extended numbers. -/
def highest : List Int → Int
  | [] => 0
  | first :: rest => rest.foldl max first

theorem highest_append (nonempty : received ≠ []) (number : Int) :
    highest (received ++ [number]) = max (highest received) number := by
  cases received with
  | nil => exact absurd rfl nonempty
  | cons _ _ =>
    simp only [highest, List.cons_append, List.foldl_append, List.foldl_cons, List.foldl_nil]

/-- The first packet is in cycle 0; others are late by less than 16. -/
def Arrives (received : List Int) (number : Int) : Prop :=
  if received = [] then 0 ≤ number ∧ number < 0x10000 else highest received - 16 < number

instance (received : List Int) (number : Int) : Decidable (Arrives received number) :=
  inferInstanceAs (Decidable (ite _ _ _))

inductive Step : Source → Event → Source → Prop where
  | packet {source : Source} {number : Int} (arrives : Arrives source.received number) :
      Step source (.packet number) (advance source (.packet number))
  | nextInterval (source : Source) : Step source .nextInterval (advance source .nextInterval)

theorem step_deterministic : Deterministic Step := by
  intro _ _ _ _ first second
  cases first with
  | packet =>
    cases second with
    | packet => rfl
  | nextInterval =>
    cases second with
    | nextInterval => rfl

/-- The receiver agrees with the packets, if there have been any. -/
def Tracks (source : Source) : Prop :=
  source.received ≠ [] →
    (source.receiver.sequenceNumberCycles.toNat : Int) +
          source.receiver.highestSequenceNumber.toNat =
        highest source.received ∧
      (packetsExpected source.receiver).toInt =
        highest source.received - source.received.headD 0 + 1

/-- A packet after the first keeps the receiver in step. -/
def Follows (received : List Int) (number : Int) : Prop :=
  if received.length % 0x100000000 = 0 then
    -- the count of packets has wrapped, so it is taken for the first one
    number ≤ highest received ∧ number % 0x10000 = received.headD 0
  else
    number ≤ highest received ∨
      number / 0x10000 = highest received / 0x10000 ∧
        ¬(0xFFEF < number % 0x10000 ∧ highest received % 0x10000 < 0x10) ∨
      number < 0x100000000 ∧ number / 0x10000 = highest received / 0x10000 + 1 ∧
        number % 0x10000 < 0x10 ∧ 0xFFEF < highest received % 0x10000

/-- The packet finds the receiver in a state in which it is counted right. -/
def Admits (source : Source) : Event → Prop
  | .packet number =>
    if source.received = [] then number = 0 else Follows source.received number
  | .nextInterval => True

/-! ## One step -/

/-- What holds of the counters in every run. -/
structure Sound (source : Source) : Prop where
  cycles : source.receiver.sequenceNumberCycles.toNat % 0x10000 = 0
  count : source.receiver.packetsReceived.toNat = source.received.length % 0x100000000
  fresh :
    source.received = [] →
      source.receiver.sequenceNumberCycles = 0 ∧ source.receiver.highestSequenceNumber = 0
  first : ∀ number ∈ source.received.head?, 0 ≤ number ∧ number < 0x10000

theorem packetsExpected_toInt (receiver : RTPReceiverInfo) :
    (packetsExpected receiver).toInt =
      receiver.sequenceNumberCycles.toNat + receiver.highestSequenceNumber.toNat -
        receiver.sequenceNumberBase.toNat + 1 := by
  have cycles := receiver.sequenceNumberCycles.isLt
  have highest := receiver.highestSequenceNumber.isLt
  have base := receiver.sequenceNumberBase.isLt
  have one : (1 : BitVec 64).toNat = 1 := rfl
  rw [packetsExpected, BitVec.toInt_eq_toNat_cond, toNat_add, BitVec.toNat_sub, toNat_add, one,
    BitVec.toNat_setWidth_of_le (by decide), BitVec.toNat_setWidth_of_le (by decide),
    BitVec.toNat_setWidth_of_le (by decide)]
  generalize receiver.sequenceNumberCycles.toNat = c at *
  generalize receiver.highestSequenceNumber.toNat = h at *
  have sum : (c + h) % 2 ^ 64 = c + h := Nat.mod_eq_of_lt (by omega)
  rw [sum]
  split_ifs
  all_goals omega

theorem toNat_raw (number : Int) : ((ofInt 16 number).toNat : Int) = number % 0x10000 := by
  rw [BitVec.toNat_ofInt]
  omega

theorem note_others (receiver : RTPReceiverInfo) (sequenceNumber : BitVec 16) :
    (noteSequenceNumber receiver sequenceNumber).packetsReceived = receiver.packetsReceived ∧
      (noteSequenceNumber receiver sequenceNumber).sequenceNumberBase =
        receiver.sequenceNumberBase := by
  unfold noteSequenceNumber
  split_ifs
  all_goals exact ⟨rfl, rfl⟩

variable {receiver : RTPReceiverInfo}

theorem note_cycles (cycles : receiver.sequenceNumberCycles.toNat % 0x10000 = 0)
    (sequenceNumber : BitVec 16) :
    (noteSequenceNumber receiver sequenceNumber).sequenceNumberCycles.toNat % 0x10000 = 0 := by
  unfold noteSequenceNumber
  split_ifs
  · exact cycles
  · exact cycles
  · have cycle : (0x10000 : BitVec 32).toNat = 0x10000 := rfl
    rw [toNat_add, cycle]
    omega
  · exact cycles

theorem note_exact (cycles : receiver.sequenceNumberCycles.toNat % 0x10000 = 0)
    (agrees :
      (receiver.sequenceNumberCycles.toNat : Int) + receiver.highestSequenceNumber.toNat = top)
    (late : top - 16 < number) :
    (((noteSequenceNumber receiver (ofInt 16 number)).sequenceNumberCycles.toNat : Int) +
          (noteSequenceNumber receiver (ofInt 16 number)).highestSequenceNumber.toNat =
        max top number) ↔
      number ≤ top ∨
        number / 0x10000 = top / 0x10000 ∧ ¬(0xFFEF < number % 0x10000 ∧ top % 0x10000 < 0x10) ∨
        number < 0x100000000 ∧ number / 0x10000 = top / 0x10000 + 1 ∧
          number % 0x10000 < 0x10 ∧ 0xFFEF < top % 0x10000 := by
  have raw := toNat_raw number
  have low : (0x10 : BitVec 16).toNat = 0x10 := rfl
  have high : (0xFFEF : BitVec 16).toNat = 0xFFEF := rfl
  have cycle : (0x10000 : BitVec 32).toNat = 0x10000 := rfl
  simp only [noteSequenceNumber, gt_iff_lt, BitVec.lt_def, low, high]
  split_ifs
  · omega
  · dsimp only
    omega
  · dsimp only
    rw [toNat_add, cycle]
    omega
  · omega

theorem tracks_iff (nonempty : source.received ≠ []) :
    Tracks source ↔
      (source.receiver.sequenceNumberCycles.toNat : Int) +
            source.receiver.highestSequenceNumber.toNat =
          highest source.received ∧
        (source.receiver.sequenceNumberBase.toNat : Int) = source.received.headD 0 := by
  rw [Tracks, packetsExpected_toInt]
  constructor
  · intro tracks
    have both := tracks nonempty
    omega
  · omega

theorem processRTPPacket_first (count : receiver.packetsReceived = 0) (sequenceNumber : BitVec 16) :
    processRTPPacket receiver sequenceNumber =
      { receiver with
        packetsReceived := 1
        sequenceNumberBase := sequenceNumber } := by
  simp [processRTPPacket, count]

theorem processRTPPacket_later (count : receiver.packetsReceived ≠ 0) (sequenceNumber : BitVec 16) :
    processRTPPacket receiver sequenceNumber =
      noteSequenceNumber { receiver with packetsReceived := receiver.packetsReceived + 1 }
        sequenceNumber := by
  have later : receiver.packetsReceived + 1 ≠ 1 := by
    intro same
    apply count
    simpa using same
  rw [processRTPPacket, if_neg later]

theorem Sound.step {event : Event}
    (sound : Sound source) (taken : Step source event next) : Sound next := by
  cases taken with
  | nextInterval => exact ⟨sound.cycles, sound.count, sound.fresh, sound.first⟩
  | @packet number arrives =>
    have counted :
        (source.receiver.packetsReceived + 1).toNat =
          (source.received.length + 1) % 0x100000000 := by
      have one : (1 : BitVec 32).toNat = 1 := rfl
      rw [toNat_add, one, sound.count]
      omega
    have length : (source.received ++ [number]).length = source.received.length + 1 := by simp
    have first : ∀ other ∈ (source.received ++ [number]).head?, 0 ≤ other ∧ other < 0x10000 := by
      cases received : source.received with
      | nil =>
        intro _ same
        cases same
        rwa [Arrives, if_pos received] at arrives
      | cons _ _ =>
        intro _ same
        apply sound.first
        rwa [received]
    by_cases count : source.receiver.packetsReceived = 0
    · refine ⟨?_, ?_, ?_, first⟩
      · rw [advance, processRTPPacket_first count]
        exact sound.cycles
      · rw [advance, processRTPPacket_first count, length, ← counted, count]
        rfl
      · intro empty
        exact absurd empty (List.append_ne_nil_of_right_ne_nil _ nofun)
    · have cycles :=
        @note_cycles { source.receiver with packetsReceived := source.receiver.packetsReceived + 1 }
          sound.cycles (ofInt 16 number)
      refine ⟨?_, ?_, ?_, first⟩
      · rwa [advance, processRTPPacket_later count]
      · rwa [advance, processRTPPacket_later count, (note_others _ _).1, length]
      · intro empty
        exact absurd empty (List.append_ne_nil_of_right_ne_nil _ nofun)

theorem tracks_step (sound : Sound source) (tracks : Tracks source)
    (taken : Step source event next) : Tracks next ↔ Admits source event := by
  cases taken with
  | nextInterval => exact ⟨fun _ => trivial, fun _ => tracks⟩
  | @packet number arrives =>
    have nonempty : source.received ++ [number] ≠ [] := List.append_ne_nil_of_right_ne_nil _ nofun
    rw [tracks_iff nonempty]
    unfold Admits
    split_ifs with empty
    · have fresh := sound.fresh empty
      have none : source.receiver.packetsReceived = 0 := by
        apply BitVec.eq_of_toNat_eq
        rw [sound.count, empty]
        rfl
      have raw := toNat_raw number
      have zero : (0 : BitVec 32).toNat = 0 := rfl
      have nought : (0 : BitVec 16).toNat = 0 := rfl
      simp only [advance, processRTPPacket_first none, fresh.1, fresh.2,
        empty, List.nil_append, highest, List.foldl_nil, List.headD_cons, zero, nought]
      omega
    · rw [Arrives, if_neg empty] at arrives
      have head : (source.received ++ [number]).headD 0 = source.received.headD 0 := by
        cases received : source.received with
        | nil => exact absurd received empty
        | cons _ _ => rfl
      have before := (tracks_iff empty).mp tracks
      have joined : (advance source (.packet number)).received = source.received ++ [number] := rfl
      rw [joined, highest_append empty, head]
      unfold Follows
      split_ifs with wrapped
      · have none : source.receiver.packetsReceived = 0 := by
          apply BitVec.eq_of_toNat_eq
          rw [sound.count, wrapped]
          rfl
        have raw := toNat_raw number
        simp only [advance, processRTPPacket_first none]
        omega
      · have some : source.receiver.packetsReceived ≠ 0 := by
          intro none
          have count := sound.count
          rw [none] at count
          exact wrapped count.symm
        have exact :=
          @note_exact
            { source.receiver with packetsReceived := source.receiver.packetsReceived + 1 }
            _ _ sound.cycles before.1 arrives
        simp only [advance, processRTPPacket_later some]
        rw [(note_others _ _).2, exact]
        exact and_iff_left before.2

/-! ## Whole runs -/

theorem sound_start : Sound start :=
  ⟨rfl, rfl, fun _ => ⟨rfl, rfl⟩, nofun⟩

/--
The receiver agrees with the extended numbers throughout a run exactly when
the first number is zero and every other packet follows the ones before it.
-/
theorem sequence_tracking {events : List Event} {last : Source} (run : Run Step start events last) :
    (∀ before after middle,
        events = before ++ after → Run Step start before middle → Tracks middle) ↔
      ∀ before event after middle,
        events = before ++ event :: after → Run Step start before middle → Admits middle event := by
  have exact :=
    Run.invariant_iff_guard step_deterministic _ (fun source => Sound _ ∧ Tracks _)
      (fun source event next holds taken =>
        ⟨fun after => (tracks_step holds.1 holds.2 taken).mp after.2,
          fun admitted => ⟨holds.1.step taken, (tracks_step holds.1 holds.2 taken).mpr admitted⟩⟩)
      run ⟨sound_start, fun none => absurd rfl none⟩
  rw [← exact]
  constructor
  · intro tracks _ _ middle split prefixRun
    have sound : Sound middle :=
      prefixRun.invariant (fun _ _ _ holds taken => holds.step taken) sound_start
    exact ⟨sound, tracks _ _ _ split prefixRun⟩
  · intro holds _ _ _ split prefixRun
    exact (holds _ _ _ split prefixRun).2

/-- Two packets after which the highest number has wrapped. -/
theorem sequence_tracking_small :
    (∀ before after middle,
        [Event.packet 0, .nextInterval, .packet 0] = before ++ after →
          Run Step start before middle → Tracks middle) ↔
      ∀ before event after middle,
        [Event.packet 0, .nextInterval, .packet 0] = before ++ event :: after →
          Run Step start before middle → Admits middle event :=
  sequence_tracking
    (.next (.packet (by decide)) (.next (.nextInterval _) (.next (.packet (by decide)) (.idle _))))

/-- The receiver does not note the number of the first packet. -/
theorem first_not_noted : ¬∀ events last, Run Step start events last → Tracks last := by
  intro tracks
  have run : Run Step start [.packet 7] (advance start (.packet 7)) :=
    .next (.packet (by decide)) (.idle _)
  have agreed := (tracks _ _ run (by decide)).1
  exact absurd agreed (by decide)

end OmnetDsi.Rtp.SequenceTracking
