import OmnetDsi.Tcp.VirtualDataRcvQueue

/-!
# The bytes passed up to the application

The lengths of the messages that a `TCPVirtualDataRcvQueue` passes up,
against `rcv_nxt`.  Segments may overlap what waits in the queue, as long as
all bytes lie in half of the sequence numbers from the first byte that has not
been passed up.

After every extraction the lengths add up to the distance of `rcv_nxt` from its
initial value.  An extraction fails if the first region, whose ends are
compared as plain numbers, has wrapped.
-/

namespace OmnetDsi.Tcp.ExtractedBytes

open Library.IntervalLists Library.Transition Tcp.SequenceNumbers
open OmnetDsi.Tcp.VirtualDataRcvQueue (TCPVirtualDataRcvQueue Event Kept
  insertBytesFromSegment_near extractTo_queueOf queueOf advanced region)

/-! ## Runs -/

/-- A queue, and the total length of the messages passed up. -/
structure Account where
  queue : TCPVirtualDataRcvQueue
  passedUp : Nat := 0

def Account.initial (startSeq : SeqNo) : Account where
  queue := .init startSeq

/-- An extraction up to `rcv_nxt` that passes the assertions. -/
def Step (account : Account) : Event → Account → Prop
  | .insert sequenceNo payloadLength, after =>
    after = { account with queue := account.queue.insertBytesFromSegment sequenceNo payloadLength }
  | .extract, after =>
    ∃ numBytes queue,
      account.queue.extractBytesUpTo account.queue.rcv_nxt = .ok (numBytes, queue) ∧
        after = { queue, passedUp := account.passedUp + numBytes.getD 0 }

/--
A segment has bytes, and they end less than `2 ^ 31` after the first byte that
has not been passed up.
-/
def InWindow (start : SeqNo) (account : Account) : Event → Prop
  | .insert sequenceNo payloadLength =>
    0 < payloadLength ∧ (sequenceNo - number start account.passedUp).toNat + payloadLength < 2 ^ 31
  | .extract => True

/-- The next extraction fails no assertion, and the lengths add up after it. -/
def AddsUp (start : SeqNo) (account : Account) : Prop :=
  ∃ after, Step account .extract after ∧
    BitVec.ofNat 32 after.passedUp = after.queue.rcv_nxt - start

/-- The first region, if there is one, does not end beyond the last number. -/
def Unwrapped (account : Account) : Prop :=
  ∀ first ∈ account.queue.regionList.head?, first.begins < first.ends

/-! ## What the steps keep -/

/-- The intervals of the stream that wait in the queue. -/
structure Account.Waits (start : SeqNo) (account : Account)
    (received : Set Nat) (next : Nat) (intervals : List (HalfOpen Nat)) : Prop where
  queue : account.queue = queueOf start next intervals
  kept : Kept received account.passedUp next intervals
  close : ∀ interval ∈ intervals, interval.upper < account.passedUp + 2 ^ 31

section Keeping

variable {account after : Account} {received : Set Nat}
variable {next : Nat} {intervals : List (HalfOpen Nat)}

namespace Account.Waits

section

variable (waits : account.Waits start received next intervals)
include waits

theorem next_lt : next < account.passedUp + 2 ^ 31 := by
  by_contra far
  cases intervals with
  | nil =>
    have inside : account.passedUp ∈ received \ Set.Iio account.passedUp :=
      ⟨waits.kept.received_of_lt (by omega), Set.notMem_Iio.mpr le_rfl⟩
    rwa [← waits.kept.covers, covered_nil] at inside
  | cons _ _ =>
    have close := waits.close _ List.mem_cons_self
    have ends := (waits.kept.first_waits (by omega)).2
    omega

theorem insert (inWindow : InWindow start account (.insert sequenceNo payloadLength))
    (taken : Step account (.insert sequenceNo payloadLength) after) :
    ∃ received next intervals, after.Waits start received next intervals := by
  rcases inWindow with ⟨_, _⟩
  have sequence := number_add_distance start account.passedUp sequenceNo
  obtain ⟨position, here⟩ :
      ∃ position,
        account.passedUp + (sequenceNo - number start account.passedUp).toNat = position :=
    ⟨_, rfl⟩
  rw [here] at sequence
  let segment : HalfOpen Nat := ⟨position, position + payloadLength, by omega⟩
  have old : account.passedUp ≤ segment.lower := by
    change account.passedUp ≤ position
    omega
  have ends : segment.upper < account.passedUp + 2 ^ 31 := by
    change position + payloadLength < account.passedUp + 2 ^ 31
    omega
  have length : segment.upper - segment.lower = payloadLength := Nat.add_sub_cancel_left _ _
  have low := waits.kept.extracted_le
  have inserted :=
    @insertBytesFromSegment_near _ _ _ _ start waits.kept _ low
      (fun interval among => (waits.kept.extracted_le_lower among).trans interval.nonempty.le)
      (fun interval among => (waits.close _ among).le) _ old old ends.le
      (fun interval among _ => by
        have bound := waits.kept.extracted_le_lower among
        omega)
      (.inl waits.next_lt)
  rw [length, show segment.lower = position from rfl, sequence, ← waits.queue] at inserted
  rw [taken]
  refine ⟨_, _, _, inserted, waits.kept.insertAt old (by omega), ?_⟩
  exact forall_mem_merge (fun interval => interval.upper < account.passedUp + 2 ^ 31)
    (fun _ _ left right => max_lt left right) ends waits.close

theorem extracts (unwrapped : Unwrapped account) :
    ∃ numBytes,
      account.queue.extractBytesUpTo account.queue.rcv_nxt =
          .ok (numBytes, queueOf start next (dropBelow next intervals)) ∧
        numBytes.getD 0 = next - account.passedUp := by
  have old := waits.kept.extracted_le
  have recent := waits.next_lt
  rw [Unwrapped, waits.queue] at unwrapped
  have all := extractTo_queueOf waits.kept old le_rfl (by omega) (by omega) unwrapped
  rw [waits.queue]
  refine ⟨_, congrArg _ all, ?_⟩
  split_ifs with nothing
  · exact nothing.symm
  · rfl

end

theorem unwrapped_of_extract (taken : Step account .extract after) : Unwrapped account := by
  rcases taken with ⟨_, _, extracted, _⟩
  intro _ isFirst
  cases regions : account.queue.regionList with
  | nil =>
    rw [regions] at isFirst
    cases isFirst
  | cons _ _ =>
    rw [regions] at isFirst
    cases isFirst
    by_contra wrapped
    have asserts : ∃ failure, account.queue.extractTo account.queue.rcv_nxt = .error failure := by
      rw [TCPVirtualDataRcvQueue.extractTo, regions]
      dsimp only
      rw [if_neg wrapped]
      split_ifs
      all_goals exact ⟨_, rfl⟩
    rcases asserts with ⟨_, asserts⟩
    rw [TCPVirtualDataRcvQueue.extractBytesUpTo, asserts] at extracted
    cases extracted

theorem extract (waits : account.Waits start received next intervals)
    (taken : Step account .extract after) :
    after.passedUp = next ∧ after.Waits start received next (dropBelow next intervals) := by
  rcases waits.extracts (unwrapped_of_extract taken) with ⟨numBytes, extracted, _⟩
  rcases taken with ⟨_, _, passed, rfl⟩
  rw [extracted] at passed
  cases passed
  have old := waits.kept.extracted_le
  have total : account.passedUp + numBytes.getD 0 = next := by omega
  refine ⟨total, rfl, ?_, ?_⟩
  · rw [total]
    exact waits.kept.extract old le_rfl
  · intro _ among
    rcases upper_of_mem_dropBelow among with ⟨_, beforeAmong, same⟩
    have close := waits.close _ beforeAmong
    rw [← same]
    exact close.trans_le (Nat.add_le_add_right (Nat.le_add_right _ _) _)

theorem addsUp_iff (waits : account.Waits start received next intervals) :
    AddsUp start account ↔ Unwrapped account := by
  constructor
  · rintro ⟨_, taken, _⟩
    exact unwrapped_of_extract taken
  · intro unwrapped
    rcases waits.extracts unwrapped with ⟨numBytes, extracted, _⟩
    have taken :
        Step account .extract
          { queue := queueOf start next (dropBelow next intervals)
            passedUp := account.passedUp + numBytes.getD 0 } :=
      ⟨numBytes, _, extracted, rfl⟩
    rcases waits.extract taken with ⟨total, left⟩
    refine ⟨_, taken, ?_⟩
    rw [total, left.queue]
    change BitVec.ofNat 32 next = start + BitVec.ofNat 32 next - start
    rw [BitVec.add_comm, BitVec.add_sub_cancel]

end Account.Waits

theorem waits_initial (start : SeqNo) : (Account.initial start).Waits start ∅ 0 [] where
  queue := by
    rw [queueOf, number_zero]
    rfl
  kept := {
    separated := separated_nil
    covers := by simp
    missing := by simp [IsLeast]
    extracted_le := le_rfl
    within := by simp }
  close := by simp

theorem waits_run
    (run : Run (guardedStep (InWindow start) Step) (Account.initial start) events account) :
    ∃ received next intervals, account.Waits start received next intervals := by
  have preserved :
      ∀ account event after,
        (∃ received next intervals, Account.Waits start account received next intervals) →
          guardedStep (InWindow start) Step account event after →
            ∃ received next intervals, Account.Waits start after received next intervals := by
    rintro _ event _ ⟨_, _, _, waits⟩ taken
    cases event with
    | insert _ _ => exact waits.insert taken.1 taken.2
    | extract => exact ⟨_, _, _, (waits.extract taken.2).2⟩
  exact run.invariant preserved ⟨_, _, _, waits_initial _⟩

end Keeping

/--
In every state of a run the next extraction passes the assertions, with lengths
that add up to the distance of `rcv_nxt`, if and only if the first region has
not wrapped.
-/
theorem extraction_addsUp_iff {start : SeqNo} {events : List Event} {account : Account}
    (run : Run (guardedStep (InWindow start) Step) (Account.initial start) events account) :
    AddsUp start account ↔ Unwrapped account := by
  rcases waits_run run with ⟨_, _, _, waits⟩
  exact waits.addsUp_iff

theorem extraction_addsUp_iff_one_segment :
    AddsUp 1000
        { queue :=
            (TCPVirtualDataRcvQueue.init 1000).insertBytesFromSegment 1000 10 }
      ↔ Unwrapped
        { queue :=
            (TCPVirtualDataRcvQueue.init 1000).insertBytesFromSegment 1000 10 } :=
  @extraction_addsUp_iff 1000 [.insert 1000 10] _ (.next ⟨⟨by decide, by decide⟩, rfl⟩ (.idle _))

/-- Thirty-two bytes before and after the last number are not passed up. -/
theorem wrapped_bytes_kept :
    ¬ ∀ (start : SeqNo) (events : List Event) (account : Account),
        Run (guardedStep (InWindow start) Step) (Account.initial start) events account →
          AddsUp start account := by
  intro always
  rcases always 0xFFFFFFF0 [.insert 0xFFFFFFF0 32] _
      (.next ⟨⟨by decide, by decide⟩, rfl⟩ (.idle _)) with
    ⟨after, taken, _⟩
  have unwrapped := Account.Waits.unwrapped_of_extract taken ⟨0xFFFFFFF0, 0x10⟩ (by decide)
  exact absurd unwrapped (by decide)

end OmnetDsi.Tcp.ExtractedBytes
