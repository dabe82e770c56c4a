import OmnetDsi.Library.SortedMaps
import OmnetDsi.Tcp.VirtualDataRcvQueue

/-!
# The queues that carry messages

A `TCPMsgBasedSendQueue` keeps the messages of the application with the
sequence number that follows their last byte, and a segment carries the
messages that end in it.  A `TCPMsgBasedRcvQueue` collects them in a map that
is ordered by these numbers and passes a message up when the bytes before its
end have arrived.

Any segment created so far may arrive, any number of times and in any order.
While the stream stays below the sequence number `2 ^ 32` the application
receives the messages that end at or before `rcv_nxt`, in order.
-/

namespace OmnetDsi.Tcp.MsgBasedQueues

open OmnetDsi.Library.IntervalLists (HalfOpen merge)
open Library.SortedMaps Library.Transition Tcp.SequenceNumbers Tcp.VirtualDataRcvQueue List

/-! ## The queues -/

structure TCPPayloadMessage (Msg : Type) where
  endSequenceNo : SeqNo
  msg : Msg
deriving DecidableEq

structure TCPSegment (Msg : Type) where
  sequenceNo : SeqNo
  payloadLength : Nat
  payloadList : List (TCPPayloadMessage Msg)
deriving DecidableEq

structure TCPMsgBasedSendQueue (Msg : Type) where
  begins : SeqNo
  ends : SeqNo
  payloadQueue : List (TCPPayloadMessage Msg) := []

structure TCPMsgBasedRcvQueue (Msg : Type) extends TCPVirtualDataRcvQueue where
  /-- The `std::map` from end numbers to messages, in its order. -/
  payloadList : List (SeqNo × Msg) := []
deriving DecidableEq

inductive Failure where
  | segmentInBuffer
  | discardInBuffer
  | receiveQueue (assertion : Assertion)
deriving DecidableEq

variable {Msg : Type}

namespace TCPMsgBasedSendQueue

def init (startSeq : SeqNo) : TCPMsgBasedSendQueue Msg where
  begins := startSeq
  ends := startSeq

def enqueueAppData (queue : TCPMsgBasedSendQueue Msg) (msg : Msg)
    (byteLength : Nat) : TCPMsgBasedSendQueue Msg :=
  let ends := queue.ends + BitVec.ofNat 32 byteLength
  { queue with
    ends
    payloadQueue := queue.payloadQueue ++ [⟨ends, msg⟩] }

def createSegmentWithBytes (queue : TCPMsgBasedSendQueue Msg) (fromSeq : SeqNo)
    (numBytes : Nat) : Except Failure (TCPSegment Msg) :=
  let toSeq := fromSeq + BitVec.ofNat 32 numBytes
  if seqLE queue.begins fromSeq && seqLE toSeq queue.ends then
    .ok {
      sequenceNo := fromSeq
      payloadLength := numBytes
      payloadList :=
        (queue.payloadQueue.dropWhile fun i => seqLE i.endSequenceNo fromSeq).takeWhile
          fun i => seqLE i.endSequenceNo toSeq }
  else .error .segmentInBuffer

def discardUpTo (queue : TCPMsgBasedSendQueue Msg) (seqNum : SeqNo) :
    Except Failure (TCPMsgBasedSendQueue Msg) :=
  if seqLE queue.begins seqNum && seqLE seqNum queue.ends then
    .ok { queue with
      begins := seqNum
      payloadQueue := queue.payloadQueue.dropWhile fun i => seqLE i.endSequenceNo seqNum }
  else .error .discardInBuffer

end TCPMsgBasedSendQueue

namespace TCPMsgBasedRcvQueue

def init (startSeq : SeqNo) : TCPMsgBasedRcvQueue Msg where
  toTCPVirtualDataRcvQueue := .init startSeq

def insertBytesFromSegment (queue : TCPMsgBasedRcvQueue Msg)
    (tcpseg : TCPSegment Msg) : TCPMsgBasedRcvQueue Msg where
  toTCPVirtualDataRcvQueue :=
    queue.toTCPVirtualDataRcvQueue.insertBytesFromSegment tcpseg.sequenceNo tcpseg.payloadLength
  payloadList :=
    tcpseg.payloadList.foldl
      (fun payloadList payload => insertNew payload.endSequenceNo payload.msg payloadList)
      queue.payloadList

def extractBytesUpTo (queue : TCPMsgBasedRcvQueue Msg) (seq : SeqNo) :
    Except Failure (Option Msg × TCPMsgBasedRcvQueue Msg) :=
  match queue.toTCPVirtualDataRcvQueue.extractTo seq with
  | .error assertion => .error (.receiveQueue assertion)
  | .ok (_, extracted) =>
    match queue.payloadList with
    | [] => .ok (none, ⟨extracted, []⟩)
    | (endSeqNo, msg) :: rest =>
      if seqGreater endSeqNo seq then .ok (none, ⟨extracted, (endSeqNo, msg) :: rest⟩)
      else .ok (some msg, ⟨extracted, rest⟩)

theorem extractBytesUpTo_shrinks {queue : TCPMsgBasedRcvQueue Msg}
    (passed : queue.extractBytesUpTo seq = .ok (some msg, extracted)) :
    extracted.payloadList.length < queue.payloadList.length := by
  unfold extractBytesUpTo at passed
  split at passed
  · cases passed
  · split at passed
    · cases passed
    · split_ifs at passed with beyond
      · cases passed
      · cases passed
        simp [*]

/-- The loop that forwards data to the application. -/
def forwardData (queue : TCPMsgBasedRcvQueue Msg) (seq : SeqNo) :
    Except Failure (List Msg × TCPMsgBasedRcvQueue Msg) :=
  match _passed : queue.extractBytesUpTo seq with
  | .error failure => .error failure
  | .ok (none, extracted) => .ok ([], extracted)
  | .ok (some msg, extracted) =>
    (forwardData extracted seq).map fun (msgs, queue) => (msg :: msgs, queue)
termination_by queue.payloadList.length
decreasing_by exact extractBytesUpTo_shrinks _passed

/-- `isSegmentAcceptable`, with the receive window of the connection. -/
def isSegmentAcceptable (rcv_wnd : SeqNo) (queue : TCPMsgBasedRcvQueue Msg)
    (tcpseg : TCPSegment Msg) : Bool :=
  seqGE tcpseg.sequenceNo queue.rcv_nxt &&
    seqLE (tcpseg.sequenceNo + BitVec.ofNat 32 tcpseg.payloadLength) (queue.rcv_nxt + rcv_wnd)

/-- The text of an acceptable segment is inserted and what is in order passed. -/
def processSegmentText (queue : TCPMsgBasedRcvQueue Msg) (tcpseg : TCPSegment Msg) :
    Except Failure (List Msg × TCPMsgBasedRcvQueue Msg) :=
  if tcpseg.payloadLength > 0 then
    let inserted := queue.insertBytesFromSegment tcpseg
    if queue.rcv_nxt = inserted.rcv_nxt then .ok ([], inserted)
    else inserted.forwardData inserted.rcv_nxt
  else .ok ([], queue)

end TCPMsgBasedRcvQueue

/-! ## The stream between the queues -/

/-- The two queues, what has been sent and what has come of it. -/
structure World (Msg : Type) where
  sendQueue : TCPMsgBasedSendQueue Msg
  receiveQueue : TCPMsgBasedRcvQueue Msg
  /-- The messages with the position after their last byte. -/
  enqueued : List (Nat × Msg) := []
  length : Nat := 0
  acked : Nat := 0
  /-- The segments created so far with the position of their first byte. -/
  created : List (Nat × TCPSegment Msg) := []
  /-- The positions of the bytes in the accepted segments. -/
  arrived : Set Nat := ∅
  passedUp : List Msg := []

inductive Event (Msg : Type) where
  | send (msg : Msg) (byteLength : Nat)
  | create (position numBytes : Nat)
  | ack (position : Nat)
  | arrive (position : Nat) (tcpseg : TCPSegment Msg)

namespace World

def initial (start : SeqNo) : World Msg where
  sendQueue := .init start
  receiveQueue := .init start

/-- The first position that has not arrived. -/
noncomputable def missing (world : World Msg) : Nat :=
  sInf world.arrivedᶜ

end World

section Running

variable (start rcv_wnd : SeqNo)

inductive Step : World Msg → Event Msg → World Msg → Prop where
  | send {world : World Msg} {msg : Msg} {byteLength : Nat} :
      Step world (.send msg byteLength)
        { world with
          sendQueue := world.sendQueue.enqueueAppData msg byteLength
          enqueued := world.enqueued ++ [(world.length + byteLength, msg)]
          length := world.length + byteLength }
  | create {world : World Msg} {position numBytes : Nat} {tcpseg : TCPSegment Msg}
      (created :
        world.sendQueue.createSegmentWithBytes (number start position) numBytes = .ok tcpseg) :
      Step world (.create position numBytes)
        { world with created := world.created ++ [(position, tcpseg)] }
  | ack {world : World Msg} {position : Nat} {sendQueue : TCPMsgBasedSendQueue Msg}
      (discarded : world.sendQueue.discardUpTo (number start position) = .ok sendQueue) :
      Step world (.ack position) { world with sendQueue, acked := position }
  | accept {world : World Msg} {position : Nat} {tcpseg : TCPSegment Msg}
      {msgs : List Msg} {receiveQueue : TCPMsgBasedRcvQueue Msg}
      (created : (position, tcpseg) ∈ world.created)
      (acceptable : world.receiveQueue.isSegmentAcceptable rcv_wnd tcpseg = true)
      (processed : world.receiveQueue.processSegmentText tcpseg = .ok (msgs, receiveQueue)) :
      Step world (.arrive position tcpseg)
        { world with
          receiveQueue
          arrived := world.arrived ∪ Set.Ico position (position + tcpseg.payloadLength)
          passedUp := world.passedUp ++ msgs }
  | refuse {world : World Msg} {position : Nat} {tcpseg : TCPSegment Msg}
      (created : (position, tcpseg) ∈ world.created)
      (unacceptable : world.receiveQueue.isSegmentAcceptable rcv_wnd tcpseg = false) :
      Step world (.arrive position tcpseg) world

end Running

/-- Segments are cut from the bytes in the buffer, and acks are for received bytes. -/
def Genuine (world : World Msg) : Event Msg → Prop
  | .send _ _ => True
  | .create position numBytes => world.acked ≤ position ∧ position + numBytes ≤ world.length
  | .ack position => world.acked ≤ position ∧ position ≤ world.missing
  | .arrive position tcpseg => (position, tcpseg) ∈ world.created

/--
A message has bytes, the buffer spans less than half of the sequence numbers,
the stream does not reach the number `2 ^ 32`, and no segment arrives so late
that its number looks new.
-/
def Numbered (start : SeqNo) (world : World Msg) : Event Msg → Prop
  | .send _ byteLength =>
    0 < byteLength ∧
      world.length - world.acked + byteLength < 2 ^ 31 ∧
        start.toNat + world.length + byteLength < 2 ^ 32
  | .create _ _ => True
  | .ack _ => True
  | .arrive position _ => world.missing ≤ position + 2 ^ 31

/-! ## The sender -/

def payload (start : SeqNo) (entry : Nat × Msg) : TCPPayloadMessage Msg where
  endSequenceNo := number start entry.1
  msg := entry.2

/-- The messages that end after one position and not after another. -/
def between (low high : Nat) (enqueued : List (Nat × Msg)) : List (Nat × Msg) :=
  enqueued.filter fun entry => decide (low < entry.1 ∧ entry.1 ≤ high)

/-- A segment that has been cut from the stream at a position. -/
structure Cut (start : SeqNo) (enqueued : List (Nat × Msg))
    (length position : Nat) (tcpseg : TCPSegment Msg) : Prop where
  sequenceNo : tcpseg.sequenceNo = number start position
  within : position + tcpseg.payloadLength ≤ length
  payloads :
    tcpseg.payloadList =
      (between position (position + tcpseg.payloadLength) enqueued).map (payload start)

structure Sends (start : SeqNo) (world : World Msg) : Prop where
  begins : world.sendQueue.begins = number start world.acked
  ends : world.sendQueue.ends = number start world.length
  acked_le : world.acked ≤ world.length
  span : world.length < world.acked + 2 ^ 31
  unwrapped : start.toNat + world.length < 2 ^ 32
  sorted : Sorted world.enqueued
  placed : ∀ entry ∈ world.enqueued, entry.1 ≤ world.length
  payloads :
    world.sendQueue.payloadQueue =
      (between world.acked world.length world.enqueued).map (payload start)
  created : ∀ cut ∈ world.created, Cut start world.enqueued world.length cut.1 cut.2

variable {enqueued : List (Nat × Msg)} {position : Nat}

section Sending

/-- A message that ends beyond the stream so far is in no part of it. -/
theorem between_snoc (beyond : high < last) (enqueued : List (Nat × Msg)) (msg : Msg) :
    between low high (enqueued ++ [(last, msg)]) = between low high enqueued := by
  have outside : ¬ (low < last ∧ last ≤ high) := by omega
  have none : between low high [(last, msg)] = [] :=
    filter_cons_of_neg fun kept => outside (of_decide_eq_true kept)
  rw [between, filter_append]
  exact (congrArg _ none).trans (append_nil _)

theorem between_append
    (inside : low < last ∧ last ≤ high) (enqueued : List (Nat × Msg)) (msg : Msg) :
    between low high (enqueued ++ [(last, msg)]) = between low high enqueued ++ [(last, msg)] := by
  have all : between low high [(last, msg)] = [(last, msg)] :=
    filter_cons_of_pos (decide_eq_true inside)
  rw [between, filter_append]
  exact congrArg _ all

section

variable (sorted : Sorted enqueued) (ordered : low ≤ bound)
    (inside : bound ≤ high) (near : high < low + 2 ^ 31)
include sorted ordered inside near

theorem span_between :
    ((between low high enqueued).map (payload start)).takeWhile
          (fun i => seqLE i.endSequenceNo (number start bound)) =
        (between low bound enqueued).map (payload start) ∧
      ((between low high enqueued).map (payload start)).dropWhile
          (fun i => seqLE i.endSequenceNo (number start bound)) =
        (between bound high enqueued).map (payload start) := by
  have spans := @Sorted.span_eq_filter Nat Msg _ (between low high enqueued) (sorted.filter _) bound
    ((fun i => seqLE i.endSequenceNo (number start bound)) ∘ payload start) fun entry among => by
      have place := of_decide_eq_true (mem_filter.mp among).2
      exact seqLE_number (by omega) (by omega)
  rw [takeWhile_map, dropWhile_map, spans.1, spans.2, between, filter_filter, filter_filter,
    between, between]
  constructor
  all_goals
    congr 2
    ext entry
    rw [← Bool.decide_and]
    exact decide_eq_decide.mpr (by omega)

end

namespace Sends

theorem initial (start : SeqNo) : Sends start (World.initial start : World Msg) where
  begins := (number_zero start).symm
  ends := (number_zero start).symm
  acked_le := le_rfl
  span := by change 0 < 0 + 2 ^ 31; omega
  unwrapped := start.isLt
  sorted := Pairwise.nil
  placed := by simp [World.initial]
  payloads := rfl
  created := by simp [World.initial]

theorem send (sends : Sends start world) (msg : Msg)
    (numbered : Numbered start world (.send msg byteLength)) :
    Sends start
      { world with
        sendQueue := world.sendQueue.enqueueAppData msg byteLength
        enqueued := world.enqueued ++ [(world.length + byteLength, msg)]
        length := world.length + byteLength } := by
  rcases numbered with ⟨_, span, unwrapped⟩
  have bound := sends.acked_le
  have ends :
      world.sendQueue.ends + BitVec.ofNat 32 byteLength =
        number start (world.length + byteLength) := by
    rw [sends.ends, number_add]
  have grown :
      between world.acked (world.length + byteLength) world.enqueued =
        between world.acked world.length world.enqueued := by
    refine filter_congr fun entry among => ?_
    have place := sends.placed _ among
    exact decide_eq_decide.mpr (by omega)
  exact {
    begins := sends.begins
    ends
    acked_le := by change world.acked ≤ world.length + byteLength; omega
    span := by
      change world.length + byteLength < world.acked + 2 ^ 31
      omega
    unwrapped := by
      change start.toNat + (world.length + byteLength) < 2 ^ 32
      omega
    sorted := by
      refine pairwise_append.mpr ⟨sends.sorted, pairwise_singleton _ _, ?_⟩
      intro _ among _ same
      rw [mem_singleton.mp same]
      have place := sends.placed _ among
      omega
    placed := by
      intro entry among
      change entry.1 ≤ world.length + byteLength
      rcases mem_append.mp among with before | last
      · have place := sends.placed _ before
        omega
      · rw [mem_singleton.mp last]
    payloads := by
      change world.sendQueue.payloadQueue ++ [⟨_, msg⟩] =
        (between world.acked (world.length + byteLength)
          (world.enqueued ++ [(world.length + byteLength, msg)])).map (payload start)
      rw [between_append ⟨by omega, le_rfl⟩, grown, map_append, sends.payloads, ends]
      rfl
    created := by
      intro _ among
      have before := sends.created _ among
      have within := before.within
      exact {
        sequenceNo := before.sequenceNo
        within := by
          change _ ≤ world.length + byteLength
          omega
        payloads := by
          rw [before.payloads]
          exact congrArg _ (between_snoc (by omega) _ _).symm } }

theorem create (sends : Sends start world) (genuine : Genuine world (.create position numBytes)) :
    ∃ tcpseg,
      world.sendQueue.createSegmentWithBytes (number start position) numBytes = .ok tcpseg ∧
        Cut start world.enqueued world.length position tcpseg := by
  rcases genuine with ⟨above, within⟩
  have span := sends.span
  have ends :
      number start position + BitVec.ofNat 32 numBytes = number start (position + numBytes) :=
    number_add _ _ _
  have inBuffer :
      (seqLE world.sendQueue.begins (number start position) &&
        seqLE (number start position + BitVec.ofNat 32 numBytes) world.sendQueue.ends) = true := by
    rw [ends, sends.begins, sends.ends, Bool.and_eq_true,
      seqLE_number (by omega) (by omega), seqLE_number (by omega) (by omega)]
    exact ⟨above, within⟩
  rw [TCPMsgBasedSendQueue.createSegmentWithBytes, if_pos inBuffer]
  refine ⟨_, rfl, rfl, within, ?_⟩
  rw [ends, sends.payloads, (span_between sends.sorted above (by omega) (by omega)).2,
    (span_between sends.sorted (by omega) (by omega) (by omega)).1]

theorem ack (sends : Sends start world)
    (above : world.acked ≤ position) (within : position ≤ world.length) :
    ∃ sendQueue,
      world.sendQueue.discardUpTo (number start position) = .ok sendQueue ∧
        Sends start { world with sendQueue, acked := position } := by
  have span := sends.span
  have inBuffer :
      (seqLE world.sendQueue.begins (number start position) &&
        seqLE (number start position) world.sendQueue.ends) = true := by
    rw [sends.begins, sends.ends, Bool.and_eq_true,
      seqLE_number (by omega) (by omega), seqLE_number (by omega) (by omega)]
    exact ⟨above, within⟩
  rw [TCPMsgBasedSendQueue.discardUpTo, if_pos inBuffer]
  refine ⟨_, rfl, ?_⟩
  exact {
    begins := rfl
    ends := sends.ends
    acked_le := within
    span := by change world.length < position + 2 ^ 31; omega
    unwrapped := sends.unwrapped
    sorted := sends.sorted
    placed := sends.placed
    payloads := by
      rw [sends.payloads, (span_between sends.sorted above within span).2]
    created := sends.created }

end Sends

end Sending

/-! ## The receiver -/

/-- The entry of the map for a message. -/
def keyed (start : SeqNo) (entry : Nat × Msg) : SeqNo × Msg :=
  (number start entry.1, entry.2)

/--
The receiver has passed up the messages that end at or before `next` and keeps
those whose last byte has arrived beyond it.
-/
structure Receives (start : SeqNo) (world : World Msg)
    (intervals : List (HalfOpen Nat)) (pending : List (Nat × Msg)) (next : Nat) : Prop where
  queue : world.receiveQueue = ⟨queueOf start next intervals, pending.map (keyed start)⟩
  kept : Kept world.arrived next next intervals
  acked_le : world.acked ≤ next
  arrived_lt : ∀ position ∈ world.arrived, position < world.length
  sorted : Sorted pending
  pending :
    ∀ entry, entry ∈ pending ↔ entry ∈ world.enqueued ∧ next < entry.1 ∧ entry.1 - 1 ∈ world.arrived
  passedUp :
    world.passedUp = (world.enqueued.filter fun entry => decide (entry.1 ≤ next)).map Prod.snd

section Receiving

variable {start : SeqNo}

namespace TCPMsgBasedRcvQueue

variable {queue : TCPMsgBasedRcvQueue Msg}

theorem forwardData_none (passed : queue.extractBytesUpTo seq = .ok (none, extracted)) :
    queue.forwardData seq = .ok ([], extracted) := by
  rw [forwardData]
  split
  all_goals simp_all

theorem forwardData_error {failure : Failure}
    (failed : queue.extractBytesUpTo seq = .error failure) :
    queue.forwardData seq = .error failure := by
  rw [forwardData]
  split
  all_goals simp_all

theorem forwardData_some (passed : queue.extractBytesUpTo seq = .ok (some msg, extracted)) :
    queue.forwardData seq =
      (extracted.forwardData seq).map fun (msgs, queue) => (msg :: msgs, queue) := by
  rw [forwardData]
  split
  all_goals simp_all

end TCPMsgBasedRcvQueue
variable {next : Nat}
variable {intervals : List (HalfOpen Nat)}

section

variable (kept : Kept arrived extracted next intervals) (close : next ≤ extracted + 2 ^ 31)
    (unwrapped : ∀ position ∈ arrived, start.toNat + position + 1 < 2 ^ 32)
include kept close unwrapped

/-- The bytes that have arrived in order are extracted without a failure. -/
theorem extractTo_next :
    (queueOf start next intervals).extractTo (number start next) =
      .ok (next - extracted,
        queueOf start next (Library.IntervalLists.dropBelow next intervals)) := by
  refine extractTo_queueOf kept kept.extracted_le le_rfl close (by omega) ?_
  intro _ head
  rcases intervals with _ | ⟨interval, rest⟩
  · cases head
  · cases head
    have shape := interval.nonempty
    have last : interval.upper - 1 ∈ arrived := by
      have inside : interval.upper - 1 ∈ Library.IntervalLists.covered (interval :: rest) :=
        ⟨interval, mem_cons_self, by omega, by omega⟩
      rw [kept.covers] at inside
      exact inside.1
    have bound := unwrapped _ last
    exact (number_lt (by omega) (by omega)).mpr shape

theorem forwardData_queueOf {pending : List (Nat × Msg)}
    (near : ∀ entry ∈ pending, entry.1 < next + 2 ^ 31 ∧ next ≤ entry.1 + 2 ^ 31) :
    ∃ remaining,
      TCPMsgBasedRcvQueue.forwardData ⟨queueOf start next intervals, pending.map (keyed start)⟩
          (number start next) =
        .ok
          ((pending.takeWhile fun entry => decide (entry.1 ≤ next)).map Prod.snd,
            ⟨queueOf start next remaining,
              (pending.dropWhile fun entry => decide (entry.1 ≤ next)).map (keyed start)⟩) ∧
        Kept arrived next next remaining := by
  have extracts := extractTo_next kept close unwrapped
  have after := kept.extract kept.extracted_le le_rfl
  induction pending generalizing extracted intervals with
  | nil =>
    refine ⟨_, TCPMsgBasedRcvQueue.forwardData_none ?_, after⟩
    rw [TCPMsgBasedRcvQueue.extractBytesUpTo, extracts]
    rfl
  | cons first rest induction =>
    rw [forall_mem_cons] at near
    have beyond :
        seqGreater (number start first.1) (number start next) = true ↔ next < first.1 := by
      rw [seqGreater_eq_seqLess]
      exact seqLess_number (by omega) (by omega)
    by_cases early : first.1 ≤ next
    · rcases induction after (by omega) near.2 (extractTo_next after (by omega) unwrapped)
          (after.extract le_rfl le_rfl) with
        ⟨remaining, forwards, keeps⟩
      refine ⟨remaining, ?_, keeps⟩
      have passed :
          TCPMsgBasedRcvQueue.extractBytesUpTo
              ⟨queueOf start next intervals, (first :: rest).map (keyed start)⟩
              (number start next) =
            .ok (some first.2,
              ⟨queueOf start next (Library.IntervalLists.dropBelow next intervals),
                rest.map (keyed start)⟩) := by
        rw [TCPMsgBasedRcvQueue.extractBytesUpTo, extracts]
        exact if_neg fun test => (beyond.mp test).not_ge early
      rw [TCPMsgBasedRcvQueue.forwardData_some passed, forwards,
        takeWhile_cons_of_pos (by simpa using early), dropWhile_cons_of_pos (by simpa using early)]
      rfl
    · refine ⟨_, ?_, after⟩
      rw [takeWhile_cons_of_neg (by simpa using early),
        dropWhile_cons_of_neg (by simpa using early)]
      refine TCPMsgBasedRcvQueue.forwardData_none ?_
      rw [TCPMsgBasedRcvQueue.extractBytesUpTo, extracts]
      exact if_pos (beyond.mpr (not_le.mp early))

end

namespace Receives

variable {world : World Msg}
variable {pending : List (Nat × Msg)}

theorem initial (start : SeqNo) : Receives start (World.initial start : World Msg) [] [] 0 where
  queue := by
    rw [queueOf, number_zero]
    rfl
  kept := (holds_initial start).kept
  acked_le := le_rfl
  arrived_lt := by simp [World.initial]
  sorted := Pairwise.nil
  pending := by simp [World.initial]
  passedUp := rfl

section

variable (receives : Receives start world intervals pending next)
include receives

theorem missing_eq : world.missing = next :=
  receives.kept.missing.csInf_eq

theorem next_le : next ≤ world.length := by
  by_contra beyond
  have inside := receives.kept.received_of_lt (not_le.mp beyond)
  exact lt_irrefl _ (receives.arrived_lt _ inside)

theorem send (msg : Msg) (filled : 0 < byteLength) :
    Receives start
      { world with
        sendQueue := world.sendQueue.enqueueAppData msg byteLength
        enqueued := world.enqueued ++ [(world.length + byteLength, msg)]
        length := world.length + byteLength }
      intervals pending next := by
  have reached := receives.next_le
  exact {
    queue := receives.queue
    kept := receives.kept
    acked_le := receives.acked_le
    arrived_lt := fun position among =>
      (receives.arrived_lt _ among).trans_le (Nat.le_add_right _ _)
    sorted := receives.sorted
    pending := by
      intro _
      rw [receives.pending, mem_append, mem_singleton]
      constructor
      · rintro ⟨among, rest⟩
        exact ⟨.inl among, rest⟩
      · rintro ⟨among | rfl, beyond, inside⟩
        · exact ⟨among, beyond, inside⟩
        · have bound := receives.arrived_lt _ inside
          omega
    passedUp := by
      have later : ¬ world.length + byteLength ≤ next := by omega
      have none :
          ([(world.length + byteLength, msg)].filter fun entry => decide (entry.1 ≤ next)) = [] :=
        filter_cons_of_neg fun kept => later (of_decide_eq_true kept)
      rw [receives.passedUp, filter_append, none, append_nil] }

end

theorem insertPayloads (enqueuedSorted : Sorted enqueued)
    (unwrapped : ∀ entry ∈ enqueued, start.toNat + entry.1 < 2 ^ 32)
    {added : List (Nat × Msg)} (addedAmong : ∀ entry ∈ added, entry ∈ enqueued)
    (sorted : Sorted pending) (pendingAmong : ∀ entry ∈ pending, entry ∈ enqueued) :
    ∃ joined,
      (added.map (payload start)).foldl
          (fun payloadList payload => insertNew payload.endSequenceNo payload.msg payloadList)
          (pending.map (keyed start)) =
        joined.map (keyed start) ∧
        Sorted joined ∧ ∀ entry, entry ∈ joined ↔ entry ∈ pending ∨ entry ∈ added := by
  induction added generalizing pending with
  | nil => exact ⟨pending, rfl, sorted, by simp⟩
  | cons first _ induction =>
    rw [forall_mem_cons] at addedAmong
    have placed := unwrapped _ addedAmong.1
    have renamed :
        insertNew (number start first.1) first.2 (pending.map (keyed start)) =
          (insertNew first.1 first.2 pending).map (keyed start) := by
      refine insertNew_map _ first.1 first.2 ?_
      intro _ among
      have other := unwrapped _ (pendingAmong _ among)
      exact ⟨number_lt placed other, number_eq placed other⟩
    have members :
        ∀ entry, entry ∈ insertNew first.1 first.2 pending ↔ entry = first ∨ entry ∈ pending := by
      intro _
      refine mem_insertNew fun other among same => ?_
      exact enqueuedSorted.eq_of_key_eq (pendingAmong _ among) addedAmong.1 same
    have among : ∀ entry ∈ insertNew first.1 first.2 pending, entry ∈ enqueued := by
      intro _ inside
      rcases (members _).mp inside with rfl | before
      · exact addedAmong.1
      · exact pendingAmong _ before
    rcases induction addedAmong.2 (sorted.insertNew first.1 first.2)
        among with ⟨joined, folds, joinedSorted, joins⟩
    refine ⟨joined, ?_, joinedSorted, fun entry => ?_⟩
    · rw [map_cons, foldl_cons, ← folds]
      exact congrArg (fun entries => foldl _ entries _) renamed
    · rw [joins, members, mem_cons]
      tauto

/-- What the receiver has once a segment has been inserted. -/
structure Joined (start : SeqNo) (world : World Msg) (arrived : Set Nat)
    (intervals : List (HalfOpen Nat)) (joined : List (Nat × Msg)) (before next : Nat) : Prop where
  kept : Kept arrived before next intervals
  arrived_lt : ∀ position ∈ arrived, position < world.length
  sorted : Sorted joined
  joined :
    ∀ entry, entry ∈ joined ↔ entry ∈ world.enqueued ∧ before < entry.1 ∧ entry.1 - 1 ∈ arrived

theorem insert (sends : Sends start world) (receives : Receives start world intervals pending next)
    (cut : Cut start world.enqueued world.length position tcpseg)
    (above : next ≤ position) (filled : 0 < tcpseg.payloadLength) :
    ∃ intervals joined after,
      world.receiveQueue.insertBytesFromSegment tcpseg =
          ⟨queueOf start after intervals, joined.map (keyed start)⟩ ∧
        Joined start world (world.arrived ∪ Set.Ico position (position + tcpseg.payloadLength))
          intervals joined next after := by
  have span := sends.span
  have acked := receives.acked_le
  have within := cut.within
  let segment : HalfOpen Nat := ⟨position, position + tcpseg.payloadLength, by omega⟩
  have segmentAbove : next ≤ segment.lower := above
  have segmentWithin : segment.upper ≤ next + 2 ^ 31 := by
    change position + tcpseg.payloadLength ≤ next + 2 ^ 31
    omega
  have length : segment.upper - segment.lower = tcpseg.payloadLength := Nat.add_sub_cancel_left _ _
  have inserted :
      (queueOf start next intervals).insertBytesFromSegment
          (number start segment.lower) (segment.upper - segment.lower) =
        queueOf start (advanced next (merge segment intervals)) (merge segment intervals) :=
    insertBytesFromSegment_queueOf receives.kept segmentAbove segmentWithin
      fun waiting => absurd waiting (lt_irrefl _)
  rw [length] at inserted
  have addedAmong :
      ∀ entry ∈ between position (position + tcpseg.payloadLength) world.enqueued,
        entry ∈ world.enqueued :=
    fun entry among => (mem_filter.mp among).1
  have pendingAmong : ∀ entry ∈ pending, entry ∈ world.enqueued :=
    fun entry among => ((receives.pending _).mp among).1
  have unwrapped : ∀ entry ∈ world.enqueued, start.toNat + entry.1 < 2 ^ 32 := by
    intro _ among
    have place := sends.placed _ among
    have bound := sends.unwrapped
    omega
  rcases insertPayloads sends.sorted unwrapped addedAmong receives.sorted
      pendingAmong with ⟨joined, folds, joinedSorted, joins⟩
  refine ⟨_, joined, _, ?_, receives.kept.insert segmentAbove segmentWithin,
    ?_, joinedSorted, fun entry => ?_⟩
  · rw [TCPMsgBasedRcvQueue.insertBytesFromSegment, receives.queue,
      cut.sequenceNo, cut.payloads, folds]
    exact congrArg (fun queue => TCPMsgBasedRcvQueue.mk queue _) inserted
  · rintro place (before | new)
    · exact receives.arrived_lt _ before
    · exact new.2.trans_le within
  · rw [joins, receives.pending, between, mem_filter, decide_eq_true_iff]
    constructor
    · rintro (⟨among, beyond, inside⟩ | ⟨among, later, inside⟩)
      · exact ⟨among, beyond, .inl inside⟩
      · exact ⟨among, by omega, .inr ⟨by omega, by omega⟩⟩
    · rintro ⟨among, beyond, inside | ⟨_, inside⟩⟩
      · exact .inl ⟨among, beyond, inside⟩
      · exact .inr ⟨among, by omega, by omega⟩

variable {joined : List (Nat × Msg)}

theorem Joined.next_le
    (joins : Joined start world arrived intervals joined before next) : next ≤ world.length := by
  by_contra beyond
  have inside := joins.kept.received_of_lt (not_le.mp beyond)
  exact lt_irrefl _ (joins.arrived_lt _ inside)

theorem keep (receives : Receives start world intervals pending next)
    (joins : Joined start world arrived inserted joined next next) :
    Receives start
      { world with
        receiveQueue := ⟨queueOf start next inserted, joined.map (keyed start)⟩
        arrived
        passedUp := world.passedUp ++ [] }
      inserted joined next where
  queue := rfl
  kept := joins.kept
  acked_le := receives.acked_le
  arrived_lt := joins.arrived_lt
  sorted := joins.sorted
  pending := joins.joined
  passedUp := (append_nil _).trans receives.passedUp

/-- A segment that continues the stream lets messages be passed up. -/
theorem forward (sends : Sends start world) (receives : Receives start world intervals pending next)
    {after : Nat} (joins : Joined start world arrived inserted joined next after) :
    ∃ msgs receiveQueue,
      TCPMsgBasedRcvQueue.forwardData ⟨queueOf start after inserted, joined.map (keyed start)⟩
          (number start after) = .ok (msgs, receiveQueue) ∧
        ∃ intervals pending next,
          Receives start
            { world with
              receiveQueue
              arrived
              passedUp := world.passedUp ++ msgs }
            intervals pending next := by
  have ordered := joins.kept.extracted_le
  have reached := joins.next_le
  have bound := sends.unwrapped
  have span := sends.span
  have acked := receives.acked_le
  have unwrapped : ∀ position ∈ arrived, start.toNat + position + 1 < 2 ^ 32 := by
    intro _ among
    have place := joins.arrived_lt _ among
    omega
  have near : ∀ entry ∈ joined, entry.1 < after + 2 ^ 31 ∧ after ≤ entry.1 + 2 ^ 31 := by
    intro _ among
    have parts := (joins.joined _).mp among
    have place := sends.placed _ parts.1
    omega
  rcases forwardData_queueOf joins.kept (by omega) unwrapped near with ⟨remaining, forwards, keeps⟩
  have taken :
      (joined.takeWhile fun entry => decide (entry.1 ≤ after)) =
        world.enqueued.filter fun entry => decide (next < entry.1 ∧ entry.1 ≤ after) := by
    rw [(joins.sorted.span_eq_filter fun _ _ => decide_eq_true_iff).1]
    refine (joins.sorted.filter _).eq_of_mem_iff (sends.sorted.filter _) ?_
    intro _
    rw [mem_filter, mem_filter, joins.joined, decide_eq_true_iff, decide_eq_true_iff]
    constructor
    · rintro ⟨⟨among, beyond, _⟩, early⟩
      exact ⟨among, beyond, early⟩
    · rintro ⟨among, beyond, early⟩
      exact ⟨⟨among, beyond, keeps.received_of_lt (by omega)⟩, early⟩
  have left :
      (joined.dropWhile fun entry => decide (entry.1 ≤ after)) =
        joined.filter fun entry => decide (after < entry.1) :=
    (joins.sorted.span_eq_filter fun _ _ => decide_eq_true_iff).2
  rw [taken, left] at forwards
  refine ⟨_, _, forwards, remaining, joined.filter fun entry => decide (after < entry.1), after, ?_⟩
  exact {
    queue := rfl
    kept := keeps
    acked_le := acked.trans ordered
    arrived_lt := joins.arrived_lt
    sorted := joins.sorted.filter _
    pending := by
      intro _
      rw [mem_filter, joins.joined, decide_eq_true_iff]
      constructor
      · rintro ⟨⟨among, _, inside⟩, beyond⟩
        exact ⟨among, beyond, inside⟩
      · rintro ⟨among, beyond, inside⟩
        exact ⟨⟨among, ordered.trans_lt beyond, inside⟩, beyond⟩
    passedUp := by
      rw [receives.passedUp, ← map_append, sends.sorted.filter_le_append ordered] }

/-- An acceptable segment that is not too late starts at or after `next`. -/
theorem above_of_acceptable
    (receives : Receives start world intervals pending next) (sends : Sends start world)
    (cut : Cut start world.enqueued world.length position tcpseg)
    (recent : world.missing ≤ position + 2 ^ 31)
    (acceptable : world.receiveQueue.isSegmentAcceptable rcv_wnd tcpseg = true) :
    next ≤ position := by
  have starts := (Bool.and_eq_true _ _).mp acceptable |>.1
  have within := cut.within
  have span := sends.span
  have acked := receives.acked_le
  rw [receives.missing_eq] at recent
  rw [cut.sequenceNo, receives.queue] at starts
  exact (seqGE_number recent (by omega)).mp starts

theorem accept (sends : Sends start world) (receives : Receives start world intervals pending next)
    (cut : Cut start world.enqueued world.length position tcpseg) (above : next ≤ position) :
    ∃ msgs receiveQueue,
      world.receiveQueue.processSegmentText tcpseg = .ok (msgs, receiveQueue) ∧
        ∃ intervals pending next,
          Receives start
            { world with
              receiveQueue
              arrived := world.arrived ∪ Set.Ico position (position + tcpseg.payloadLength)
              passedUp := world.passedUp ++ msgs }
            intervals pending next := by
  rw [TCPMsgBasedRcvQueue.processSegmentText]
  by_cases filled : 0 < tcpseg.payloadLength
  · rcases receives.insert sends cut above filled with ⟨_, _, after, inserts, joins⟩
    have ordered := joins.kept.extracted_le
    have reached := joins.next_le
    have bound := sends.unwrapped
    have same : world.receiveQueue.rcv_nxt = number start after ↔ next = after := by
      rw [receives.queue]
      exact number_eq (by omega) (by omega)
    rw [if_pos filled, inserts]
    by_cases gap : next = after
    · subst gap
      exact ⟨_, _, if_pos (same.mpr rfl), _, _, _, receives.keep joins⟩
    · rcases receives.forward sends joins with ⟨msgs, receiveQueue, forwards, following⟩
      refine ⟨msgs, receiveQueue, ?_, following⟩
      exact (if_neg fun equal => gap (same.mp equal)).trans forwards
  · have nothing : tcpseg.payloadLength = 0 := by omega
    rw [if_neg filled, nothing, Nat.add_zero, Set.Ico_self, Set.union_empty]
    refine ⟨_, _, rfl, intervals, pending, next, ?_⟩
    rwa [append_nil]

end Receives

/-! ## Every run -/

/-- The sender and the receiver agree on the stream. -/
def Agrees (start : SeqNo) (world : World Msg) : Prop :=
  Sends start world ∧ ∃ intervals pending next, Receives start world intervals pending next

namespace Agrees

variable {rcv_wnd : SeqNo}
variable {world after : World Msg}
variable {event : Event Msg}

theorem initial (start : SeqNo) : Agrees start (World.initial start : World Msg) :=
  ⟨.initial _, _, _, _, .initial _⟩

section

variable (agrees : Agrees start world) (genuine : Genuine world event)
    (numbered : Numbered start world event)
include agrees genuine numbered

theorem step (taken : Step start rcv_wnd world event after) : Agrees start after := by
  rcases agrees with ⟨sends, intervals, pending, next, receives⟩
  cases taken with
  | send => exact ⟨sends.send _ numbered, intervals, pending, next, receives.send _ numbered.1⟩
  | create created =>
    rcases sends.create genuine with ⟨_, creates, cut⟩
    rw [created] at creates
    cases creates
    have cuts := sends.created
    refine ⟨{ sends with created := ?_ }, intervals, pending, next, { receives with }⟩
    intro _ among
    rcases mem_append.mp among with before | last
    · exact cuts _ before
    · rwa [mem_singleton.mp last]
  | ack discarded =>
    rcases genuine with ⟨above, within⟩
    rw [receives.missing_eq] at within
    rcases sends.ack above (within.trans receives.next_le) with ⟨_, discards, following⟩
    rw [discarded] at discards
    cases discards
    exact ⟨following, intervals, pending, next, { receives with acked_le := within }⟩
  | accept created acceptable processed =>
    have cut := sends.created _ created
    have above := receives.above_of_acceptable sends cut numbered acceptable
    rcases receives.accept sends cut above with
      ⟨msgs, receiveQueue, processes, intervals, pending, next, following⟩
    rw [processed] at processes
    cases processes
    exact ⟨{ sends with }, intervals, pending, next, following⟩
  | refuse _ _ => exact ⟨sends, intervals, pending, next, receives⟩

theorem progress : ∃ after, Step start rcv_wnd world event after := by
  rcases agrees with ⟨sends, _, _, _, receives⟩
  cases event with
  | send _ _ => exact ⟨_, .send⟩
  | create _ _ =>
    rcases sends.create genuine with ⟨tcpseg, creates, _⟩
    exact ⟨_, .create creates⟩
  | ack _ =>
    rcases genuine with ⟨above, within⟩
    rw [receives.missing_eq] at within
    rcases sends.ack above (within.trans receives.next_le) with ⟨_, discards, _⟩
    exact ⟨_, .ack discards⟩
  | arrive _ tcpseg =>
    have cut := sends.created _ genuine
    cases acceptable : world.receiveQueue.isSegmentAcceptable rcv_wnd tcpseg with
    | false => exact ⟨_, .refuse genuine acceptable⟩
    | true =>
      have above := receives.above_of_acceptable sends cut numbered acceptable
      rcases receives.accept sends cut above with ⟨_, _, processes, _⟩
      exact ⟨_, .accept genuine acceptable processes⟩

end

end Agrees

/-- What the application has received of the messages enqueued. -/
structure Delivered (world : World Msg) : Prop where
  inOrder : world.passedUp <+: world.enqueued.map Prod.snd
  complete :
    (∀ position < world.length, position ∈ world.arrived) →
      world.passedUp = world.enqueued.map Prod.snd

theorem Agrees.delivered (agrees : Agrees start world) : Delivered world := by
  rcases agrees with ⟨sends, _, _, next, receives⟩
  refine ⟨?_, fun all => ?_⟩
  · rw [receives.passedUp]
    exact (sends.sorted.filter_le_prefix _).map Prod.snd
  · have reached : world.length ≤ next := by
      by_contra short
      exact receives.kept.missing.1 (all _ (not_le.mp short))
    rw [receives.passedUp]
    refine congrArg _ (filter_eq_self.mpr fun entry among => ?_)
    exact decide_eq_true ((sends.placed _ among).trans reached)

/--
While the stream stays below the number `2 ^ 32` and its messages have bytes,
the application receives them in order, each once.
-/
theorem messages_in_order (start rcv_wnd : SeqNo) {world : World Msg} {events : List (Event Msg)}
    (run :
      Run
        (guardedStep (fun world event => Genuine world event ∧ Numbered start world event)
          (Step start rcv_wnd))
        (World.initial start) events world) :
    Delivered world ∧
      ∀ event, Genuine world event → Numbered start world event →
        ∃ after, Step start rcv_wnd world event after := by
  have preserved :
      ∀ (world : World Msg) (event : Event Msg) (after : World Msg),
        Agrees start world →
          guardedStep (fun world event => Genuine world event ∧ Numbered start world event)
            (Step start rcv_wnd) world event after → Agrees start after :=
    fun world event after agrees taken => agrees.step taken.1.1 taken.1.2 taken.2
  have agrees := run.invariant preserved (.initial _)
  exact ⟨agrees.delivered, fun event => agrees.progress⟩

theorem processSegmentText_one_message :
    (TCPMsgBasedRcvQueue.init 100).processSegmentText ⟨100, 5, [⟨105, 7⟩]⟩ =
      .ok ([7], ⟨⟨105, []⟩, []⟩) := by
  have first :
      TCPMsgBasedRcvQueue.extractBytesUpTo ⟨⟨105, [⟨100, 105⟩]⟩, [(105, 7)]⟩ 105 =
        .ok (some 7, ⟨⟨105, []⟩, []⟩) := by
    decide
  have rest :
      TCPMsgBasedRcvQueue.extractBytesUpTo ⟨⟨105, []⟩, []⟩ 105 =
        .ok ((none : Option Nat), ⟨⟨105, []⟩, []⟩) := by
    decide
  change TCPMsgBasedRcvQueue.forwardData ⟨⟨105, [⟨100, 105⟩]⟩, [(105, 7)]⟩ 105 = _
  rw [TCPMsgBasedRcvQueue.forwardData_some first, TCPMsgBasedRcvQueue.forwardData_none rest]
  rfl

/-- A message of five bytes is sent, cut into one segment and received. -/
theorem messages_in_order_one_message :
    ∃ world : World Nat,
      Run
          (guardedStep (fun world event => Genuine world event ∧ Numbered 100 world event)
            (Step 100 16384))
          (World.initial 100)
          [.send 7 5, .create 0 5, .arrive 0 ⟨100, 5, [⟨105, 7⟩]⟩] world ∧
        Delivered world ∧
          ∀ event, Genuine world event → Numbered 100 world event →
            ∃ after, Step 100 16384 world event after := by
  have recent : sInf (∅ : Set Nat)ᶜ ≤ 0 + 2 ^ 31 := by simp
  have run :
      Run
        (guardedStep (fun world event => Genuine world event ∧ Numbered 100 world event)
          (Step 100 16384))
        (World.initial 100)
        [.send 7 5, .create 0 5, .arrive 0 ⟨100, 5, [⟨105, 7⟩]⟩] _ :=
    .next ⟨⟨trivial, by decide, by decide, by decide⟩, .send⟩
      (.next ⟨⟨⟨by decide, by decide⟩, trivial⟩, .create (by decide)⟩
        (.next ⟨⟨mem_cons_self, recent⟩,
          .accept mem_cons_self (by decide) processSegmentText_one_message⟩ (.idle _)))
  exact ⟨_, run, messages_in_order 100 16384 run⟩

/--
A message without bytes is carried by no segment, so the message after it is
the first that the application receives; and a message whose bytes reach the
number `2 ^ 32` makes an assertion fail when its segment arrives.
-/
theorem empty_message_lost_wrapped_message_asserts :
    (¬ ∀ (start rcv_wnd : SeqNo) (world : World Nat) (events : List (Event Nat)),
        Run (guardedStep Genuine (Step start rcv_wnd)) (World.initial start) events world →
          Delivered world) ∧
      ¬ ∀ (start rcv_wnd : SeqNo) (world : World Nat) (events : List (Event Nat)),
        Run (guardedStep Genuine (Step start rcv_wnd)) (World.initial start) events world →
          ∀ position tcpseg, (position, tcpseg) ∈ world.created →
            ∃ after, Step start rcv_wnd world (.arrive position tcpseg) after := by
  constructor
  · intro always
    have run :
        Run (guardedStep Genuine (Step 100 16384)) (World.initial 100)
          [.send 1 0, .send 7 5, .create 0 5, .arrive 0 ⟨100, 5, [⟨105, 7⟩]⟩] _ :=
      .next ⟨trivial, .send⟩
        (.next ⟨trivial, .send⟩
          (.next ⟨⟨by decide, by decide⟩, .create (by decide)⟩
            (.next ⟨mem_cons_self,
              .accept mem_cons_self (by decide) processSegmentText_one_message⟩ (.idle _))))
    have inOrder : [7] <+: [1, 7] := (always _ _ _ _ run).inOrder
    exact absurd inOrder (by decide)
  · intro always
    have created :
        (TCPMsgBasedSendQueue.enqueueAppData (.init 0xFFFFFFF0) 7
            32).createSegmentWithBytes (number 0xFFFFFFF0 0) 32 =
          .ok ⟨0xFFFFFFF0, 32, [⟨0x10, 7⟩]⟩ := by
      decide
    have run :
        Run (guardedStep Genuine (Step 0xFFFFFFF0 16384))
          (World.initial 0xFFFFFFF0) [.send 7 32, .create 0 32] _ :=
      .next ⟨trivial, .send⟩ (.next ⟨⟨by decide, by decide⟩, .create created⟩ (.idle _))
    have asserts :
        TCPMsgBasedRcvQueue.extractBytesUpTo ⟨⟨0x10, [⟨0xFFFFFFF0, 0x10⟩]⟩, [(0x10, 7)]⟩ 0x10 =
          .error (.receiveQueue .noEmptyRegion) := by
      decide
    rcases always _ _ _ _ run 0 _ mem_cons_self with ⟨_, arrives⟩
    cases arrives with
    | accept _ _ processed =>
      have failed := TCPMsgBasedRcvQueue.forwardData_error asserts
      exact absurd (failed.symm.trans processed) (by simp)
    | refuse _ unacceptable => exact absurd unacceptable (by decide)

end Receiving

end OmnetDsi.Tcp.MsgBasedQueues
