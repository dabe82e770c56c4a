import OmnetDsi.Library.Fallible
import OmnetDsi.Library.Transition
import OmnetDsi.Tcp.SequenceNumbers

/-!
# The send side of a connection

The bytes that the application has given to a connection and the peer has not
acknowledged lie in the send queue.  `sendData` sends new ones from `snd_max`,
`retransmitOneSegment` and `retransmitData` send old ones again from
`snd_una`, and an acknowledgement moves `snd_una` and the start of the queue.
The FIN takes a sequence number after the last byte, which is not in the
queue.

The numbers are those of positions in the stream (`Shows`), and the functions
are described by what they do to the positions.  As long as nothing is sent
after `CLOSE` and a single retransmitted segment does not run into the FIN,
every request to the queue stays inside it.
-/

namespace OmnetDsi.Tcp.Sending

open Nat (le_add_right le_succ zero_le)
open Library.Fallible Library.Transition Tcp.SequenceNumbers

/-! ## The send queue -/

/-- The assertions of the send side, and a loop that never ends. -/
inductive Failure where
  | createSegmentWithBytes
  | discardUpTo
  | sendSegment
  | sendData
  | retransmitOneSegment
  | retransmitData
  | processAckInEstabEtc
  | endless

/-- What the send side decides about a segment that goes to IP. -/
structure SentSegment where
  sequenceNo : SeqNo
  payloadLength : Nat
  finBit : Bool := false
deriving DecidableEq

structure TCPVirtualDataSendQueue where
  begins : SeqNo
  ends : SeqNo
deriving DecidableEq

namespace TCPVirtualDataSendQueue

def init (startSeq : SeqNo) : TCPVirtualDataSendQueue where
  begins := startSeq
  ends := startSeq

def enqueueAppData (queue : TCPVirtualDataSendQueue) (byteLength : Nat) : TCPVirtualDataSendQueue :=
  { queue with ends := queue.ends + BitVec.ofNat 32 byteLength }

def getBufferEndSeq (queue : TCPVirtualDataSendQueue) : SeqNo :=
  queue.ends

def getBytesAvailable (queue : TCPVirtualDataSendQueue) (fromSeq : SeqNo) : Nat :=
  if seqLess fromSeq queue.getBufferEndSeq then (queue.getBufferEndSeq - fromSeq).toNat else 0

def createSegmentWithBytes (queue : TCPVirtualDataSendQueue) (fromSeq : SeqNo)
    (numBytes : Nat) : Except Failure SentSegment :=
  if seqLE queue.begins fromSeq && seqLE (fromSeq + BitVec.ofNat 32 numBytes) queue.ends then
    .ok { sequenceNo := fromSeq, payloadLength := numBytes }
  else .error .createSegmentWithBytes

def discardUpTo (queue : TCPVirtualDataSendQueue) (seqNum : SeqNo) :
    Except Failure TCPVirtualDataSendQueue :=
  if seqLE queue.begins seqNum && seqLE seqNum queue.ends then .ok { queue with begins := seqNum }
  else .error .discardUpTo

end TCPVirtualDataSendQueue

/-! ## Sending and retransmitting -/

/-- The state variables of sending, the queue and the segments sent. -/
structure SendSide where
  snd_mss : Nat
  snd_una : SeqNo
  snd_nxt : SeqNo
  snd_max : SeqNo
  snd_wnd : Nat
  snd_wl1 : SeqNo
  snd_wl2 : SeqNo
  dupacks : Nat := 0
  send_fin : Bool := false
  snd_fin_seq : SeqNo := 0
  fin_ack_rcvd : Bool := false
  sendQueue : TCPVirtualDataSendQueue
  sent : List SentSegment := []
deriving DecidableEq

/-- The fields of an arriving segment that its acknowledgement needs. -/
structure Acknowledgement where
  sequenceNo : SeqNo
  ackNo : SeqNo
  window : Nat
  payloadLength : Nat

/-- What an acknowledgement is. -/
inductive AckKind where
  | duplicate
  | old
  | inWindow
  | notYetSent

/-- What a flavour of the algorithm does when it is notified. -/
inductive Response where
  | nothing
  | sendData (fullSegmentsOnly : Bool) (congestionWindow : Int)
  | retransmitOneSegment
  | retransmitData

namespace SendSide

def sendFin (side : SendSide) : SendSide :=
  { side with
    sent := side.sent ++
      [{ sequenceNo := side.snd_nxt, payloadLength := 0, finBit := true }] }

def sendSegment (side : SendSide) (bytes : Nat) : Except Failure SendSide := do
  let tcpseg ← side.sendQueue.createSegmentWithBytes side.snd_nxt bytes
  if bytes = tcpseg.payloadLength then
    let snd_nxt := side.snd_nxt + BitVec.ofNat 32 bytes
    if side.send_fin ∧ snd_nxt = side.snd_fin_seq then
      .ok { side with
        snd_nxt := side.snd_fin_seq + 1
        sent := side.sent ++ [{ tcpseg with finBit := true }] }
    else .ok { side with snd_nxt, sent := side.sent ++ [tcpseg] }
  else .error .sendSegment

/-- The segments of `bytesToSend` bytes; the last one has to be full. -/
def sendSegments (side : SendSide) (bytesToSend : Nat) : Except Failure SendSide :=
  if bytesToSend ≤ side.snd_mss then side.sendSegment bytesToSend
  else if side.snd_mss = 0 then .error .endless
  else
    -- `while (bytesToSend >= snd_mss)`
    forLoop (fun _ side => side.sendSegment side.snd_mss) (bytesToSend / side.snd_mss) side

/-- The number of bytes that the windows allow to send. -/
def effectiveWindow (side : SendSide) (congestionWindow : Int) : Int :=
  let maxWindow : Int := side.snd_wnd
  let maxWindow :=
    if 0 ≤ congestionWindow ∧ maxWindow > congestionWindow then congestionWindow else maxWindow
  maxWindow - (side.snd_nxt - side.snd_una).toNat

/-- Whether something was sent, and the state that leaves. -/
def sendData (side : SendSide) (fullSegmentsOnly : Bool)
    (congestionWindow : Int) : Except Failure (Bool × SendSide) :=
  let side := { side with snd_nxt := side.snd_max }
  let buffered := side.sendQueue.getBytesAvailable side.snd_nxt
  let effectiveWin := side.effectiveWindow congestionWindow
  let bytesToSend := min effectiveWin.toNat buffered
  if buffered = 0 then .ok (false, side)
  else if effectiveWin ≤ 0 then .ok (false, side)
  else if fullSegmentsOnly ∧ bytesToSend < side.snd_mss then .ok (false, side)
  else if 0 < bytesToSend then do
    let side ← side.sendSegments bytesToSend
    .ok (true, { side with snd_max := side.snd_nxt })
  else .error .sendData

def retransmitOneSegment (side : SendSide) : Except Failure SendSide :=
  let side := { side with snd_nxt := side.snd_una }
  let bytes := min side.snd_mss (side.snd_max - side.snd_nxt).toNat
  if bytes ≠ 0 then side.sendSegment bytes else .error .retransmitOneSegment

/--
The loop of `retransmitData`.  A round that sends no byte and not the FIN
repeats itself, and any other takes a byte off `bytesToSend`; so the loop
ends within `fuel = bytesToSend` rounds or not at all.
-/
def retransmitRest : (fuel bytesToSend : Nat) → SendSide → Except Failure SendSide
  | _, 0, side => .ok side
  | 0, _ + 1, _ => .error .endless
  | fuel + 1, bytesToSend + 1, side => do
      let bytes := min (bytesToSend + 1) side.snd_mss
      let bytes := min bytes (side.sendQueue.getBytesAvailable side.snd_nxt)
      let side ← side.sendSegment bytes
      if side.send_fin ∧ side.snd_nxt = side.snd_fin_seq + 1 then .ok side
      else retransmitRest fuel (bytesToSend + 1 - bytes) side

def retransmitData (side : SendSide) : Except Failure SendSide :=
  let side := { side with snd_nxt := side.snd_una }
  let bytesToSend := (side.snd_max - side.snd_nxt).toNat
  if bytesToSend ≠ 0 then retransmitRest bytesToSend bytesToSend side else .error .retransmitData

def respond (side : SendSide) : Response → Except Failure SendSide
  | .nothing => .ok side
  | .sendData fullSegmentsOnly congestionWindow => do
      let (_, side) ← side.sendData fullSegmentsOnly congestionWindow
      .ok side
  | .retransmitOneSegment => side.retransmitOneSegment
  | .retransmitData => side.retransmitData

/-! ## Commands and acknowledgements -/

/-- `process_SEND` in `ESTABLISHED` and `CLOSE_WAIT`. -/
def process_SEND (side : SendSide) (byteLength : Nat)
    (sendCommandInvoked : Response) : Except Failure SendSide :=
  { side with sendQueue := side.sendQueue.enqueueAppData byteLength }.respond sendCommandInvoked

/-- Whether the FIN went out at once, and the state that leaves. -/
def process_CLOSE (side : SendSide) : Bool × SendSide :=
  let bufferEnd := side.sendQueue.getBufferEndSeq
  if side.snd_max = bufferEnd then
    let side := { side with snd_nxt := side.snd_max }.sendFin
    (true, { side with
      snd_nxt := side.snd_nxt + 1
      snd_max := side.snd_nxt + 1
      send_fin := true
      snd_fin_seq := bufferEnd })
  else (false, { side with send_fin := true, snd_fin_seq := bufferEnd })

def updatesWindow (side : SendSide) (tcpseg : Acknowledgement) : Bool :=
  seqLess side.snd_wl1 tcpseg.sequenceNo ||
    (side.snd_wl1 == tcpseg.sequenceNo && seqLE side.snd_wl2 tcpseg.ackNo)

def updateWindow (side : SendSide) (tcpseg : Acknowledgement) : SendSide :=
  if side.updatesWindow tcpseg then
    { side with snd_wnd := tcpseg.window, snd_wl1 := tcpseg.sequenceNo, snd_wl2 := tcpseg.ackNo }
  else side

/-- `snd_una` moves up to the acknowledged number, and `snd_nxt` with it. -/
def advanceUna (side : SendSide) (ackNo : SeqNo) : SendSide :=
  { side with
    snd_una := ackNo
    snd_nxt := if seqLess side.snd_nxt ackNo then ackNo else side.snd_nxt }

/-- The part of `processAckInEstabEtc` before the algorithm is notified. -/
def acknowledge (side : SendSide) (tcpseg : Acknowledgement) :
    Except Failure (AckKind × SendSide) :=
  if seqGE side.snd_una tcpseg.ackNo then
    if side.snd_una = tcpseg.ackNo ∧ tcpseg.payloadLength = 0 ∧ side.snd_una ≠ side.snd_max then
      .ok (.duplicate, { side with dupacks := side.dupacks + 1 })
    else .ok (.old, { side with dupacks := 0 })
  else if seqLE tcpseg.ackNo side.snd_max then do
    let side := side.advanceUna tcpseg.ackNo
    let finAcked := side.send_fin ∧ tcpseg.ackNo = side.snd_fin_seq + 1
    let discardUpToSeq := if finAcked then side.snd_una - 1 else side.snd_una
    let sendQueue ← side.sendQueue.discardUpTo discardUpToSeq
    let side :=
      { side with
        fin_ack_rcvd := side.fin_ack_rcvd || decide finAcked
        sendQueue }
    .ok (.inWindow, side.updateWindow tcpseg)
  else if seqGreater tcpseg.ackNo side.snd_max then .ok (.notYetSent, side)
  else .error .processAckInEstabEtc

/-- The result is `false` when the segment is to be dropped. -/
def processAckInEstabEtc (side : SendSide) (tcpseg : Acknowledgement)
    (receivedDuplicateAck receivedDataAck : Response) : Except Failure (Bool × SendSide) := do
  let (kind, side) ← side.acknowledge tcpseg
  match kind with
  | .duplicate => do
      let side ← side.respond receivedDuplicateAck
      .ok (true, side)
  | .old => .ok (true, side)
  | .inWindow => do
      let side ← side.respond receivedDataAck
      .ok (true, { side with dupacks := 0 })
  | .notYetSent => .ok (false, { side with dupacks := 0 })

/-! ## Histories -/

inductive Event where
  | send (byteLength : Nat) (sendCommandInvoked : Response)
  | close
  | segment (tcpseg : Acknowledgement) (receivedDuplicateAck receivedDataAck : Response)
  | timeout (processRexmitTimer : Response)

def serve (side : SendSide) : Event → Except Failure SendSide
  | .send byteLength sendCommandInvoked => side.process_SEND byteLength sendCommandInvoked
  | .close => .ok side.process_CLOSE.2
  | .segment tcpseg receivedDuplicateAck receivedDataAck => do
      let (_, side) ← side.processAckInEstabEtc tcpseg receivedDuplicateAck receivedDataAck
      .ok side
  | .timeout processRexmitTimer => side.respond processRexmitTimer

def step (side : SendSide) (event : Event) (next : SendSide) : Prop :=
  side.serve event = .ok next

/-! ## What sending changes -/

section Frames

variable {side : SendSide}

theorem sendSegment_frame (success : side.sendSegment bytes = .ok next) :
    ∃ snd_nxt sent, next = { side with snd_nxt, sent } := by
  rcases bind_eq_ok.mp success with ⟨_, _, rest⟩
  dsimp only at rest
  split_ifs at rest
  all_goals
    cases rest
    exact ⟨_, _, rfl⟩

theorem sendSegments_frame (success : side.sendSegments bytesToSend = .ok next) :
    ∃ snd_nxt sent, next = { side with snd_nxt, sent } := by
  unfold sendSegments at success
  split_ifs at success
  · exact sendSegment_frame success
  · refine forLoop_invariant (fun _ state => ∃ snd_nxt sent, state = { side with snd_nxt, sent })
      ?_ ⟨side.snd_nxt, side.sent, rfl⟩ success
    rintro _ _ _ _ ⟨_, _, rfl⟩ served
    rcases sendSegment_frame served with ⟨snd_nxt, sent, rfl⟩
    exact ⟨snd_nxt, sent, rfl⟩

theorem sendData_frame {some : Bool}
    (success : side.sendData fullSegmentsOnly congestionWindow = .ok (some, next)) :
    ∃ snd_nxt snd_max sent,
      next = { side with snd_nxt, snd_max, sent } ∧ (some = false → snd_max = side.snd_max) := by
  unfold sendData at success
  simp only at success
  split_ifs at success
  · cases success
    exact ⟨_, _, _, rfl, fun _ => rfl⟩
  · cases success
    exact ⟨_, _, _, rfl, fun _ => rfl⟩
  · cases success
    exact ⟨_, _, _, rfl, fun _ => rfl⟩
  · rcases bind_eq_ok.mp success with ⟨_, sent, rest⟩
    rcases sendSegments_frame sent with ⟨_, _, rfl⟩
    cases rest
    exact ⟨_, _, _, rfl, nofun⟩

theorem retransmitOneSegment_frame (success : side.retransmitOneSegment = .ok next) :
    ∃ snd_nxt sent, next = { side with snd_nxt, sent } := by
  unfold retransmitOneSegment at success
  simp only at success
  split_ifs at success
  rcases sendSegment_frame success with ⟨snd_nxt, sent, rfl⟩
  exact ⟨snd_nxt, sent, rfl⟩

theorem retransmitRest_frame (success : retransmitRest fuel bytesToSend side = .ok next) :
    ∃ snd_nxt sent, next = { side with snd_nxt, sent } := by
  induction fuel generalizing side bytesToSend with
  | zero =>
    cases bytesToSend with
    | zero =>
      cases success
      exact ⟨_, _, rfl⟩
    | succ _ => cases success
  | succ _ induction =>
    cases bytesToSend with
    | zero =>
      cases success
      exact ⟨_, _, rfl⟩
    | succ _ =>
      rcases bind_eq_ok.mp success with ⟨_, sent, rest⟩
      rcases sendSegment_frame sent with ⟨_, _, rfl⟩
      split_ifs at rest
      · cases rest
        exact ⟨_, _, rfl⟩
      · rcases induction rest with ⟨_, _, rfl⟩
        exact ⟨_, _, rfl⟩

theorem retransmitData_frame (success : side.retransmitData = .ok next) :
    ∃ snd_nxt sent, next = { side with snd_nxt, sent } := by
  unfold retransmitData at success
  simp only at success
  split_ifs at success
  rcases retransmitRest_frame success with ⟨snd_nxt, sent, rfl⟩
  exact ⟨snd_nxt, sent, rfl⟩

theorem updateWindow_eq (side : SendSide) (tcpseg : Acknowledgement) :
    ∃ snd_wnd snd_wl1 snd_wl2,
      side.updateWindow tcpseg = { side with snd_wnd, snd_wl1, snd_wl2 } := by
  unfold SendSide.updateWindow
  split_ifs
  all_goals exact ⟨_, _, _, rfl⟩

/-- What the acknowledgement leaves alone. -/
structure Acknowledges (tcpseg : Acknowledgement) (kind : AckKind)
    (side next : SendSide) : Prop where
  snd_max : next.snd_max = side.snd_max
  send_fin : next.send_fin = side.send_fin
  snd_fin_seq : next.snd_fin_seq = side.snd_fin_seq
  fin_ack_rcvd :
    next.fin_ack_rcvd = true →
      side.fin_ack_rcvd = true ∨ side.send_fin = true ∧ tcpseg.ackNo = side.snd_fin_seq + 1
  snd_una : kind ≠ .inWindow → next.snd_una = side.snd_una
  unacked : kind = .notYetSent → next.fin_ack_rcvd = side.fin_ack_rcvd

theorem acknowledge_frame (success : side.acknowledge tcpseg = .ok (kind, next)) :
    Acknowledges tcpseg kind side next := by
  unfold acknowledge at success
  split_ifs at success
  · cases success
    exact ⟨rfl, rfl, rfl, .inl, fun _ => rfl, fun _ => rfl⟩
  · cases success
    exact ⟨rfl, rfl, rfl, .inl, fun _ => rfl, fun _ => rfl⟩
  · rcases bind_eq_ok.mp success with ⟨_, _, rest⟩
    cases rest
    rcases updateWindow_eq _ _ with ⟨_, _, _, same⟩
    rw [same]
    refine ⟨rfl, rfl, rfl, fun acked => ?_, fun other => absurd rfl other, nofun⟩
    rcases Bool.or_eq_true_iff.mp acked with before | now
    · exact .inl before
    · exact .inr (of_decide_eq_true now)
  · cases success
    exact ⟨rfl, rfl, rfl, .inl, fun _ => rfl, fun _ => rfl⟩

end Frames

/-! ## What is to hold -/

/-- The FIN has been sent. -/
def FinSent (side : SendSide) : Prop :=
  side.send_fin = true ∧ side.snd_max = side.snd_fin_seq + 1

instance (side : SendSide) : Decidable side.FinSent :=
  inferInstanceAs (Decidable (_ ∧ _))

/-- The numbers of the send side are in order. -/
structure Ordered (side : SendSide) : Prop where
  una_le_nxt : seqLE side.snd_una side.snd_nxt = true
  nxt_le_max : seqLE side.snd_nxt side.snd_max = true
  max_le_end :
    seqLE side.snd_max side.sendQueue.getBufferEndSeq = true ∨
      side.FinSent ∧ side.snd_max = side.sendQueue.getBufferEndSeq + 1
  fin_seq : side.send_fin = true → side.snd_fin_seq = side.sendQueue.getBufferEndSeq

/--
The connection has just become synchronized: nothing but the SYN, and perhaps
the FIN of an early `CLOSE`, has been sent, the SYN may still be
unacknowledged, and data may wait in the queue.
-/
structure Synchronized (side : SendSide) : Prop where
  mss_pos : 0 < side.snd_mss
  una : side.snd_una = side.sendQueue.begins ∨ side.snd_una + 1 = side.sendQueue.begins
  nxt : side.snd_nxt = side.snd_max
  unsent :
    side.snd_max = side.sendQueue.begins ∧
        (side.send_fin = true → side.sendQueue.begins ≠ side.sendQueue.ends) ∨
      side.FinSent ∧ side.sendQueue.begins = side.sendQueue.ends
  fin_seq : side.send_fin = true → side.snd_fin_seq = side.sendQueue.ends
  room : (side.sendQueue.ends - side.sendQueue.begins).toNat + 2 < 2 ^ 31

/--
The bytes that `retransmitOneSegment` asks for lie in the queue: the SYN has
been acknowledged, and a FIN that has been sent is not within the first
segment.
-/
def FirstSegmentInQueue (side : SendSide) (snd_una : SeqNo) : Prop :=
  snd_una + 1 ≠ side.sendQueue.begins ∧
    (side.FinSent → side.snd_mss < (side.snd_max - snd_una).toNat)

instance (side : SendSide) (snd_una : SeqNo) : Decidable (side.FirstSegmentInQueue snd_una) :=
  inferInstanceAs (Decidable (_ ∧ _))

/-- The response may be given when `snd_una` has the given value. -/
def Admits (side : SendSide) (snd_una : SeqNo) : Response → Prop
  | .retransmitOneSegment => side.FirstSegmentInQueue snd_una
  | .retransmitData => snd_una + 1 ≠ side.sendQueue.begins
  | _ => True

/--
Nothing is sent after `CLOSE`, the numbers from `snd_una` to the FIN span
less than half of all numbers, and the responses ask for bytes that the queue
has.
-/
def Guard (side : SendSide) : Event → Prop
  | .send byteLength sendCommandInvoked =>
    side.send_fin = false ∧
      (side.sendQueue.getBufferEndSeq - side.snd_una).toNat + byteLength < 2 ^ 31 ∧
      side.Admits side.snd_una sendCommandInvoked
  | .close =>
    side.send_fin = true ∨ (side.sendQueue.getBufferEndSeq - side.snd_una).toNat + 1 < 2 ^ 31
  | .segment tcpseg receivedDuplicateAck receivedDataAck =>
    (side.snd_una = tcpseg.ackNo → side.Admits side.snd_una receivedDuplicateAck) ∧
      (seqLess side.snd_una tcpseg.ackNo = true →
        seqLE tcpseg.ackNo side.snd_max = true → side.Admits tcpseg.ackNo receivedDataAck)
  | .timeout processRexmitTimer => side.Admits side.snd_una processRexmitTimer

/-- An assertion of the four functions, or a loop that never ends. -/
def Broken : Failure → Prop
  | .retransmitOneSegment => False
  | .retransmitData => False
  | .processAckInEstabEtc => False
  | _ => True

/-! ## Positions -/

/-- The positions whose numbers the send side keeps. -/
structure Positions where
  begins : Nat
  ends : Nat
  una : Nat
  max : Nat

/--
The send side shows the numbers of these positions.  The first byte in the
queue is the one that is not acknowledged, unless that is the SYN or
everything and the FIN has been.
-/
structure Shows (start : SeqNo) (side : SendSide) (place : Positions) : Prop where
  mss_pos : 0 < side.snd_mss
  begins : side.sendQueue.begins = number start place.begins
  ends : side.sendQueue.ends = number start place.ends
  una : side.snd_una = number start place.una
  max : side.snd_max = number start place.max
  begins_le_una : place.begins ≤ place.una + 1
  begins_le_max : place.begins ≤ place.max
  begins_le_ends : place.begins ≤ place.ends
  una_le_begins : place.una ≤ place.begins ∨ place.begins = place.ends
  una_le_max : place.una ≤ place.max
  max_le_ends : place.max ≤ place.ends ∨ place.max = place.ends + 1 ∧ side.send_fin = true
  max_ne_ends : side.send_fin = true → place.max ≠ place.ends
  fin_seq : side.send_fin = true → side.snd_fin_seq = number start place.ends
  room : place.ends < place.una + 2 ^ 31
  finRoom : side.send_fin = true → place.ends + 1 < place.una + 2 ^ 31

/-- Where `snd_nxt` is after the data up to a position: past the FIN. -/
def past (side : SendSide) (place : Positions) (position : Nat) : Nat :=
  if side.send_fin = true ∧ position = place.ends then position + 1 else position

/-- The queue has the bytes between two positions, and the FIN goes after them. -/
structure Buffers (start : SeqNo) (side : SendSide) (place : Positions) : Prop where
  begins : side.sendQueue.begins = number start place.begins
  ends : side.sendQueue.ends = number start place.ends
  ends_near : place.ends < place.begins + 2 ^ 31
  fin_seq : side.send_fin = true → side.snd_fin_seq = number start place.ends

/-- The segment of some bytes; the FIN goes with the last one before it. -/
def segmentAt (side : SendSide) (start : SeqNo) (place : Positions)
    (position bytes : Nat) : SentSegment where
  sequenceNo := number start position
  payloadLength := bytes
  finBit := decide (side.send_fin = true ∧ position + bytes = place.ends)

/-- The side after some segments of one length from a position. -/
def afterSegments (side : SendSide) (start : SeqNo) (place : Positions)
    (position count length : Nat) : SendSide :=
  { side with
    snd_nxt := number start (side.past place (position + count * length))
    sent :=
      side.sent ++
        (List.range count).map fun index =>
          side.segmentAt start place (position + index * length) length }

/-- The send side shows positions, and `snd_nxt` is between two of them. -/
def Placed (start : SeqNo) (side : SendSide) : Prop :=
  ∃ place nxt, Shows start side place ∧
    side.snd_nxt = number start nxt ∧ place.una ≤ nxt ∧ nxt ≤ place.max

section Showing

variable {side : SendSide}

theorem le_past (position : Nat) : position ≤ side.past place position := by
  unfold past
  split_ifs
  · exact le_succ _
  · exact le_rfl

theorem past_of_lt (data : position < place.ends) : side.past place position = position :=
  if_neg fun last => data.ne last.2

namespace Buffers

section

variable (buffers : Buffers start side place)
include buffers

theorem inQueue (low : place.begins ≤ position) (high : position ≤ place.ends) :
    seqLE side.sendQueue.begins (number start position) = true ∧
      seqLE (number start position) side.sendQueue.ends = true := by
  have near := buffers.ends_near
  rw [buffers.begins, buffers.ends]
  exact ⟨(seqLE_number (by omega) (by omega)).mpr low,
    (seqLE_number (by omega) (by omega)).mpr high⟩

/-- The queue has the bytes from a position on that are not past its end. -/
theorem createSegmentWithBytes_eq (low : place.begins ≤ position)
    (high : position + bytes ≤ place.ends) :
    side.sendQueue.createSegmentWithBytes (number start position) bytes =
      .ok { sequenceNo := number start position
            payloadLength := bytes } := by
  have first := buffers.inQueue low ((le_add_right _ _).trans high)
  have last := buffers.inQueue (low.trans (le_add_right _ _)) high
  rw [TCPVirtualDataSendQueue.createSegmentWithBytes, number_add, first.1, last.2]
  rfl

theorem getBytesAvailable_eq (low : place.begins ≤ position) (high : position ≤ place.ends + 1) :
    side.sendQueue.getBytesAvailable (number start position) = place.ends - position := by
  have near := buffers.ends_near
  have before :
      seqLess (number start position) (number start place.ends) = true ↔ position < place.ends :=
    seqLess_number (by omega) (by omega)
  rw [TCPVirtualDataSendQueue.getBytesAvailable,
    TCPVirtualDataSendQueue.getBufferEndSeq, buffers.ends]
  by_cases data : position < place.ends
  · rw [if_pos (before.mpr data), distance data.le (by omega)]
  · rw [if_neg fun test => data (before.mp test)]
    omega

theorem number_past (last : side.send_fin = true ∧ position = place.ends) :
    number start (side.past place position) = side.snd_fin_seq + 1 := by
  rw [past, if_pos last, last.2, buffers.fin_seq last.1]
  exact (number_add _ place.ends 1).symm

/-- Sending bytes that the queue has succeeds, and takes the FIN along. -/
theorem sendSegment_eq (from_position : side.snd_nxt = number start position)
    (low : place.begins ≤ position) (high : position + bytes ≤ place.ends) :
    side.sendSegment bytes =
      .ok { side with
        snd_nxt := number start (side.past place (position + bytes))
        sent := side.sent ++ [side.segmentAt start place position bytes] } := by
  have near := buffers.ends_near
  have created := buffers.createSegmentWithBytes_eq low high
  rw [← from_position] at created
  have reaches :
      side.send_fin = true ∧ side.snd_nxt + BitVec.ofNat 32 bytes = side.snd_fin_seq ↔
        side.send_fin = true ∧ position + bytes = place.ends := by
    apply and_congr_right
    intro closing
    rw [from_position, number_add, buffers.fin_seq closing]
    exact number_inj high (by omega)
  simp only [sendSegment, created, bind, Except.bind, if_true, reaches]
  by_cases last : side.send_fin = true ∧ position + bytes = place.ends
  · rw [if_pos last, buffers.number_past last, segmentAt, decide_eq_true last, from_position]
  · have after :
        number start (side.past place (position + bytes)) =
          side.snd_nxt + BitVec.ofNat 32 bytes := by
      rw [past, if_neg last, from_position, number_add]
    rw [if_neg last, after, segmentAt, decide_eq_false last, from_position]

theorem afterSegment_eq (low : place.begins ≤ position)
    (high : position + (count + 1) * length ≤ place.ends) (some : 0 < length) :
    (side.afterSegments start place position count length).sendSegment length =
      .ok (side.afterSegments start place position (count + 1) length) := by
  rw [Nat.succ_mul, ← Nat.add_assoc] at high
  have here : position + count * length < place.ends := by omega
  have from_position :
      (side.afterSegments start place position count length).snd_nxt =
        number start (position + count * length) := by
    rw [afterSegments, past_of_lt here]
  have same : Buffers start (side.afterSegments start place position count length) place :=
    { buffers with }
  rw [same.sendSegment_eq from_position (low.trans (le_add_right _ _)) high]
  simp only [afterSegments, List.range_succ, List.map_append, List.map_cons, List.map_nil,
    ← List.append_assoc, Nat.succ_mul, ← Nat.add_assoc]
  rfl

/-- The segments of `sendSegments` are equally long and lie in the queue. -/
theorem sendSegments_eq (mss_pos : 0 < side.snd_mss)
    (from_position : side.snd_nxt = number start position)
    (low : place.begins ≤ position) (high : position + bytesToSend ≤ place.ends)
    (some : 0 < bytesToSend) (is_length : length = min bytesToSend side.snd_mss) :
    side.sendSegments bytesToSend =
      .ok (side.afterSegments start place position (bytesToSend / length) length) := by
  have initial : side = side.afterSegments start place position 0 length := by
    rw [afterSegments, Nat.zero_mul, Nat.add_zero, past_of_lt (by omega), ← from_position,
      List.range_zero, List.map_nil, List.append_nil]
  have length_pos : 0 < length := by omega
  have within : bytesToSend / length * length ≤ bytesToSend := Nat.div_mul_le_self _ _
  have advances (c : Nat) (early : c < bytesToSend / length) :
      (side.afterSegments start place position c length).sendSegment length =
        .ok (side.afterSegments start place position (c + 1) length) := by
    have further : (c + 1) * length ≤ bytesToSend := (Nat.mul_le_mul_right _ early).trans within
    exact buffers.afterSegment_eq low (by omega) length_pos
  unfold sendSegments
  by_cases single : bytesToSend ≤ side.snd_mss
  · rw [min_eq_left single] at is_length
    subst is_length
    have first := advances 0 (Nat.div_pos le_rfl some)
    rw [← initial] at first
    rw [if_pos single, first, Nat.div_self some]
  · rw [min_eq_right (not_le.mp single).le] at is_length
    subst is_length
    have loops :
        ∀ c < bytesToSend / side.snd_mss, ∀ state,
          state = side.afterSegments start place position c side.snd_mss →
            ∃ next, state.sendSegment state.snd_mss = .ok next ∧
              next = side.afterSegments start place position (c + 1) side.snd_mss := by
      rintro c early _ rfl
      exact ⟨_, advances c early, rfl⟩
    rcases forLoop_total _ loops initial with ⟨_, success, rfl⟩
    rw [if_neg single, if_neg mss_pos.ne', success]

end

end Buffers

namespace Shows

section

variable (shows : Shows start side place)
include shows

theorem resent (snd_nxt : SeqNo)
    (sent : List SentSegment) : Shows start { side with snd_nxt, sent } place :=
  { shows with }

theorem ends_near : place.ends < place.begins + 2 ^ 31 := by
  have room := shows.room
  rcases shows.una_le_begins with _ | _
  all_goals omega

theorem max_near : place.max < place.una + 2 ^ 31 := by
  have room := shows.room
  rcases shows.max_le_ends with _ | ⟨_, closing⟩
  · omega
  · have finRoom := shows.finRoom closing
    omega

theorem buffers : Buffers start side place :=
  { shows with ends_near := shows.ends_near }

theorem discardUpTo_eq (low : place.begins ≤ position) (high : position ≤ place.ends) :
    side.sendQueue.discardUpTo (number start position) =
      .ok { side.sendQueue with begins := number start position } := by
  have inside := shows.buffers.inQueue low high
  rw [TCPVirtualDataSendQueue.discardUpTo, inside.1, inside.2]
  rfl

theorem past_le_max (sent : position ≤ place.max) : side.past place position ≤ place.max := by
  unfold past
  split_ifs with last
  · have apart := shows.max_ne_ends last.1
    omega
  · exact sent

theorem sentUpTo
    (low : place.max ≤ reached) (high : reached ≤ place.ends) (sent : List SentSegment) :
    Shows start
      { side with
        snd_nxt := number start (side.past place reached)
        snd_max := number start (side.past place reached)
        sent }
      { place with max := side.past place reached } := by
  have later : reached ≤ side.past place reached := le_past _
  refine { shows with
    max := rfl
    begins_le_max := (shows.begins_le_max.trans low).trans later
    una_le_max := (shows.una_le_max.trans low).trans later
    max_le_ends := ?_
    max_ne_ends := ?_ }
  · unfold past
    split_ifs with last
    · exact .inr ⟨congrArg _ last.2, last.1⟩
    · exact .inl high
  · intro closing
    change side.past place reached ≠ place.ends
    unfold past
    split_ifs with last
    · omega
    · intro same
      exact last ⟨closing, same⟩

theorem sendSegments_yields (from_max : side.snd_nxt = side.snd_max) (some : 0 < bytesToSend)
    (inside : place.max + bytesToSend ≤ place.ends) :
    Yields Broken (fun next => Placed start { next with snd_max := next.snd_nxt })
      (side.sendSegments bytesToSend) := by
  rw [shows.max] at from_max
  have success :=
    shows.buffers.sendSegments_eq shows.mss_pos from_max shows.begins_le_max inside some rfl
  have within := Nat.div_mul_le_self bytesToSend (min bytesToSend side.snd_mss)
  have ahead := shows.sentUpTo (le_add_right _ _) ((Nat.add_le_add_left within _).trans inside)
  exact .of_eq_ok success ⟨_, _, ahead _, rfl, (ahead []).una_le_max, le_rfl⟩

end

end Shows

theorem Placed.undup (placed : Placed start side) (dupacks : Nat) :
    Placed start { side with dupacks } := by
  rcases placed with ⟨place, nxt, shows, rest⟩
  exact ⟨place, nxt, { shows with }, rest⟩

theorem Placed.sendData_yields (placed : Placed start side)
    (fullSegmentsOnly : Bool) (congestionWindow : Int) :
    Yields Broken (fun result => Placed start result.2)
      (side.sendData fullSegmentsOnly congestionWindow) := by
  rcases placed with ⟨place, _, shows, _, _, _⟩
  have unsent : Placed start { side with snd_nxt := side.snd_max } :=
    ⟨place, place.max, shows.resent _ _, shows.max, shows.una_le_max, le_rfl⟩
  have bound : place.max ≤ place.ends + 1 := by
    rcases shows.max_le_ends with data | finSent
    · exact data.trans (le_succ _)
    · exact finSent.1.le
  have buffered := shows.buffers.getBytesAvailable_eq shows.begins_le_max bound
  rw [← shows.max] at buffered
  simp only [sendData, buffered]
  split_ifs with empty closed short some
  · exact .ok unsent
  · exact .ok unsent
  · exact .ok unsent
  · have inside :
        place.max + min ({ side with snd_nxt := side.snd_max }
            |>.effectiveWindow congestionWindow).toNat
          (place.ends - place.max) ≤ place.ends := by
      omega
    exact ((shows.resent _ _).sendSegments_yields rfl some inside).bind fun next sent => .ok sent
  · omega

/-! ### Retransmission -/

section

variable (shows : Shows start side place)
include shows

theorem Shows.begins_le (acked : number start position + 1 ≠ side.sendQueue.begins)
    (low : place.begins ≤ position + 1) : place.begins ≤ position := by
  refine Nat.le_of_lt_succ (lt_of_le_of_ne low ?_)
  intro same
  apply acked
  rw [shows.begins, same]
  exact number_add _ _ 1

theorem Shows.finSent (beyond : place.ends < place.max) : side.FinSent := by
  rcases shows.max_le_ends with _ | ⟨finSent, closing⟩
  · omega
  · refine ⟨closing, ?_⟩
    rw [shows.max, finSent, shows.fin_seq closing]
    exact (number_add _ place.ends 1).symm

theorem Shows.unacked : (side.snd_max - side.snd_una).toNat = place.max - place.una := by
  have near := shows.max_near
  rw [shows.max, shows.una]
  exact distance shows.una_le_max (by omega)

theorem Shows.retransmitOneSegment_yields (admits : side.FirstSegmentInQueue side.snd_una) :
    Yields Broken (Placed start) side.retransmitOneSegment := by
  have acked : place.begins ≤ place.una := by
    have apart := admits.1
    rw [shows.una] at apart
    exact shows.begins_le apart shows.begins_le_una
  have low := shows.una_le_max
  simp only [SendSide.retransmitOneSegment, shows.unacked]
  split_ifs with unsent
  · have inside : place.una + min side.snd_mss (place.max - place.una) ≤ place.ends := by
      by_cases finSent : place.ends < place.max
      · have short := admits.2 (shows.finSent finSent)
        rw [shows.unacked] at short
        have bound := shows.max_le_ends
        omega
      · omega
    have success :=
      (shows.resent side.snd_una side.sent).buffers.sendSegment_eq shows.una acked inside
    refine .of_eq_ok success ⟨place, _, shows.resent _ _, rfl, ?_, ?_⟩
    · exact (le_add_right _ _).trans (le_past _)
    · exact (shows.resent _ _).past_le_max (by omega)
  · exact .error id

theorem Shows.retransmitRest_eq (from_position : side.snd_nxt = number start position)
    (low : place.begins ≤ position) (rest : position + bytesToSend = place.max)
    (enough : bytesToSend ≤ fuel) :
    ∃ reached sent, position ≤ reached ∧ reached ≤ place.max ∧
      retransmitRest fuel bytesToSend side =
        .ok { side with snd_nxt := number start reached, sent } := by
  induction fuel generalizing side bytesToSend position with
  | zero =>
    rw [Nat.le_zero.mp enough] at rest ⊢
    refine ⟨position, side.sent, le_rfl, rest.le, ?_⟩
    rw [retransmitRest, ← from_position]
  | succ _ induction =>
    cases bytesToSend with
    | zero =>
      refine ⟨position, side.sent, le_rfl, rest.le, ?_⟩
      rw [retransmitRest, ← from_position]
    | succ bytesToSend =>
      have bound := shows.max_le_ends
      have mss_pos := shows.mss_pos
      have near := shows.ends_near
      have available := shows.buffers.getBytesAvailable_eq low (by omega)
      rw [← from_position] at available
      simp only [retransmitRest, available]
      generalize short : min (min (bytesToSend + 1) side.snd_mss) (place.ends - position) = bytes
      have inside : position + bytes ≤ place.ends := by omega
      have sentBefore : position + bytes ≤ place.max := by omega
      have success := shows.buffers.sendSegment_eq from_position low inside
      generalize side.sent ++ [_] = sent at success
      simp only [success, bind, Except.bind]
      by_cases last : side.send_fin = true ∧ position + bytes = place.ends
      · -- the FIN has gone out
        refine ⟨side.past _ _, sent, (le_add_right _ _).trans (le_past _),
          shows.past_le_max sentBefore, ?_⟩
        rw [if_pos ⟨last.1, shows.buffers.number_past last⟩]
      · have continues :
            ¬(side.send_fin = true ∧ number start (position + bytes) = side.snd_fin_seq + 1) := by
          rintro ⟨closing, same⟩
          rw [shows.fin_seq closing] at same
          have reached : position + bytes = place.ends + 1 :=
            (number_inj (by omega) (by omega)).mp (same.trans (number_add _ place.ends 1))
          omega
        have some : 0 < bytes := by
          by_contra none
          have nothing : position + bytes = place.ends := by omega
          have closing : side.send_fin = true := by
            rcases bound with _ | finSent
            · omega
            · exact finSent.2
          exact last ⟨closing, nothing⟩
        have here : side.past place (position + bytes) = position + bytes := if_neg last
        rw [here, if_neg continues]
        have sentHere := shows.resent (number start (position + bytes)) sent
        have remaining : position + bytes + (bytesToSend + 1 - bytes) = place.max := by omega
        rcases induction sentHere rfl
          (low.trans (le_add_right position bytes)) remaining (by omega) with
          ⟨reached, sent, after, before, ends⟩
        exact ⟨reached, sent, by omega, before, ends⟩

theorem Shows.retransmitData_yields (acked : side.snd_una + 1 ≠ side.sendQueue.begins) :
    Yields Broken (Placed start) side.retransmitData := by
  rw [shows.una] at acked
  have low := shows.begins_le acked shows.begins_le_una
  have all : place.una + (place.max - place.una) = place.max := Nat.add_sub_cancel' shows.una_le_max
  simp only [SendSide.retransmitData, shows.unacked]
  split_ifs with unsent
  · rcases (shows.resent side.snd_una side.sent).retransmitRest_eq shows.una low all le_rfl with
      ⟨reached, sent, after, before, success⟩
    exact .of_eq_ok success ⟨place, reached, shows.resent _ _, rfl, after, before⟩
  · exact .error id

end

theorem Placed.respond_yields (placed : Placed start side)
    (admits : side.Admits side.snd_una response) :
    Yields Broken (Placed start) (side.respond response) := by
  rcases placed with ⟨place, nxt, shows, rest⟩
  have placed : Placed start side := ⟨place, nxt, shows, rest⟩
  cases response with
  | nothing => exact .ok placed
  | sendData _ _ => exact (placed.sendData_yields _ _).bind fun result sent => .ok sent
  | retransmitOneSegment => exact shows.retransmitOneSegment_yields admits
  | retransmitData => exact shows.retransmitData_yields admits

/-! ### Commands -/

theorem Placed.process_SEND_yields (placed : Placed start side)
    (guard : side.Guard (.send byteLength response)) :
    Yields Broken (Placed start) (side.process_SEND byteLength response) := by
  rcases placed with ⟨place, nxt, shows, is_nxt, low, high⟩
  rcases guard with ⟨opened, room, admits⟩
  have unclosed : ¬side.send_fin = true := by
    rw [opened]
    exact Bool.false_ne_true
  have data : place.max ≤ place.ends := by
    rcases shows.max_le_ends with data | finSent
    · exact data
    · exact absurd finSent.2 unclosed
  have below := shows.una_le_max
  have near := shows.room
  have queued : side.sendQueue.getBufferEndSeq = number start place.ends := shows.ends
  rw [queued, shows.una, distance (by omega) (by omega)] at room
  have grown :
      Shows start { side with sendQueue := side.sendQueue.enqueueAppData byteLength }
        { place with ends := place.ends + byteLength } :=
    { shows with
      ends := by
        change side.sendQueue.ends + BitVec.ofNat 32 byteLength = _
        rw [shows.ends, number_add]
      begins_le_ends := shows.begins_le_ends.trans (le_add_right _ _)
      una_le_begins := by
        rcases shows.una_le_begins with low | _
        · exact .inl low
        · left
          change place.una ≤ place.begins
          omega
      max_le_ends := .inl (data.trans (le_add_right _ _))
      max_ne_ends := fun closing => absurd closing unclosed
      fin_seq := fun closing => absurd closing unclosed
      room := by
        change place.ends + byteLength < place.una + 2 ^ 31
        omega
      finRoom := fun closing => absurd closing unclosed }
  exact Placed.respond_yields ⟨_, nxt, grown, is_nxt, low, high⟩ admits

theorem Shows.max_eq_end (shows : Shows start side place) :
    side.snd_max = side.sendQueue.getBufferEndSeq ↔ place.max = place.ends := by
  have low := shows.una_le_max
  have near := shows.room
  have queued : side.sendQueue.getBufferEndSeq = number start place.ends := shows.ends
  rw [shows.max, queued]
  rcases shows.max_le_ends with data | ⟨_, _⟩
  · exact number_inj data (by omega)
  · rw [eq_comm, eq_comm (a := place.max)]
    exact number_inj (by omega) (by omega)

theorem Placed.process_CLOSE (placed : Placed start side)
    (guard : side.Guard .close) : Placed start side.process_CLOSE.2 := by
  rcases placed with ⟨place, nxt, shows, is_nxt, low, high⟩
  have near := shows.room
  have queued : side.sendQueue.getBufferEndSeq = number start place.ends := shows.ends
  have finRoom (data : place.max ≤ place.ends) : place.ends + 1 < place.una + 2 ^ 31 := by
    rcases guard with closing | room
    · exact shows.finRoom closing
    · rw [queued, shows.una, distance (by omega) (by omega)] at room
      omega
  unfold SendSide.process_CLOSE
  by_cases last : place.max = place.ends
  · rw [if_pos (shows.max_eq_end.mpr last)]
    have advanced : side.snd_max + 1 = number start (place.ends + 1) := by
      rw [shows.max, last]
      exact number_add _ place.ends 1
    refine ⟨{ place with max := place.ends + 1 }, place.ends + 1, ?_, advanced, ?_, le_rfl⟩
    · exact { shows with
        max := advanced
        begins_le_max := shows.begins_le_ends.trans (le_succ _)
        una_le_max := by
          change place.una ≤ place.ends + 1
          omega
        max_le_ends := .inr ⟨rfl, rfl⟩
        max_ne_ends := fun _ => Nat.succ_ne_self place.ends
        fin_seq := fun _ => queued
        finRoom := fun _ => finRoom last.le }
    · change place.una ≤ place.ends + 1
      omega
  · rw [if_neg fun test => last (shows.max_eq_end.mp test)]
    refine ⟨place, nxt, ?_, is_nxt, low, high⟩
    exact { shows with
      max_le_ends := shows.max_le_ends.imp_right fun finSent => ⟨finSent.1, rfl⟩
      max_ne_ends := fun _ => last
      fin_seq := fun _ => queued
      finRoom := fun _ => by
        rcases shows.max_le_ends with data | finSent
        · exact finRoom data
        · exact shows.finRoom finSent.2 }

/-! ### Acknowledgements -/

theorem Shows.updateWindow (shows : Shows start side place) (tcpseg : Acknowledgement) :
    Shows start (side.updateWindow tcpseg) place := by
  unfold SendSide.updateWindow
  split_ifs
  · exact { shows with }
  · exact shows

theorem Shows.acked (shows : Shows start side place)
    (above : place.una < position) (sent : position ≤ place.max) :
    ∃ kept,
      side.sendQueue.discardUpTo
          (if side.send_fin = true ∧ number start position = side.snd_fin_seq + 1 then
            number start position - 1
          else number start position) =
        .ok { side.sendQueue with begins := number start kept } ∧
      kept ≤ position ∧ kept ≤ place.ends ∧ (position ≤ kept ∨ kept = place.ends) := by
  have low := shows.begins_le_una
  have near := shows.room
  have bound := shows.max_le_ends
  have finAcked :
      side.send_fin = true ∧ number start position = side.snd_fin_seq + 1 ↔
        side.send_fin = true ∧ position = place.ends + 1 := by
    apply and_congr_right
    intro closing
    have after : number start place.ends + 1 = number start (place.ends + 1) :=
      number_add _ place.ends 1
    rw [shows.fin_seq closing, after]
    exact number_inj (by omega) (by omega)
  simp only [finAcked]
  split_ifs with all
  · refine ⟨place.ends, ?_, by omega, le_rfl, .inr rfl⟩
    have before : number start position - 1 = number start place.ends := by
      rw [all.2, ← number_add]
      exact BitVec.add_sub_cancel _ _
    rw [before]
    exact shows.discardUpTo_eq shows.begins_le_ends le_rfl
  · have inside : position ≤ place.ends := by
      rcases bound with _ | finSent
      · omega
      · have apart : ¬position = place.ends + 1 := fun same => all ⟨finSent.2, same⟩
        omega
    exact ⟨position, shows.discardUpTo_eq (by omega) inside, le_rfl, inside, .inl le_rfl⟩

/-- What the response asks for is there after the acknowledgement too. -/
theorem Shows.admits (shows : Shows start side place)
    (acked : place.begins ≤ place.una) {before : SendSide}
    (mss : side.snd_mss = before.snd_mss) (max : side.snd_max = before.snd_max)
    (finSent : side.FinSent → before.FinSent) (admits : before.Admits side.snd_una response) :
    side.Admits side.snd_una response := by
  have behind := shows.una_le_begins
  have sent := shows.una_le_max
  have bound := shows.max_le_ends
  have unacked : side.snd_una + 1 ≠ side.sendQueue.begins := by
    rw [shows.una, shows.begins]
    intro same
    have after := (number_add _ place.una 1).symm.trans same
    have back := (number_inj (acked.trans (le_succ _)) (by omega)).mp after.symm
    omega
  cases response with
  | nothing => trivial
  | sendData => trivial
  | retransmitOneSegment =>
    refine ⟨unacked, fun sent => ?_⟩
    rw [mss, max]
    exact admits.2 (finSent sent)
  | retransmitData => exact unacked

/-- The state in which the algorithm is told about the acknowledgement. -/
structure Told (start : SeqNo) (before : SendSide) (tcpseg : Acknowledgement)
    (kind : AckKind) (side : SendSide) : Prop where
  placed : Placed start side
  duplicate :
    kind = .duplicate →
      before.snd_una = tcpseg.ackNo ∧
        ∀ response, before.Admits before.snd_una response → side.Admits side.snd_una response
  inWindow :
    kind = .inWindow →
      seqLess before.snd_una tcpseg.ackNo = true ∧ seqLE tcpseg.ackNo before.snd_max = true ∧
        ∀ response, before.Admits tcpseg.ackNo response → side.Admits side.snd_una response

theorem told_inWindow
    (shows : Shows start next place) (acked : place.begins ≤ place.una) (sent : nxt ≤ place.max)
    (low : place.una ≤ nxt)
    (is_nxt : next.snd_nxt = number start nxt) (is_una : tcpseg.ackNo = number start place.una)
    (after : seqLess side.snd_una tcpseg.ackNo = true)
    (before : seqLE tcpseg.ackNo side.snd_max = true)
    (mss : next.snd_mss = side.snd_mss) (max : next.snd_max = side.snd_max)
    (finSent : next.FinSent → side.FinSent) :
    Told start side tcpseg .inWindow (next.updateWindow tcpseg) := by
  have updated := shows.updateWindow tcpseg
  rcases next.updateWindow_eq _ with ⟨_, _, _, same⟩
  rw [same] at updated ⊢
  exact
    { placed := ⟨place, nxt, updated, is_nxt, low, sent⟩
      duplicate := fun kind => nomatch kind
      inWindow := fun _ => ⟨after, before, fun response admits =>
        updated.admits acked mss max finSent (by rwa [is_una, ← shows.una] at admits)⟩ }

theorem advanceUna_snd_nxt (is_nxt : side.snd_nxt = number start nxt)
    (behind : nxt ≤ position + 2 ^ 31) (ahead : position < nxt + 2 ^ 31) :
    (side.advanceUna (number start position)).snd_nxt = number start (max nxt position) := by
  have jumps : seqLess side.snd_nxt (number start position) = true ↔ nxt < position := by
    rw [is_nxt]
    exact seqLess_number behind ahead
  unfold SendSide.advanceUna
  by_cases passed : nxt < position
  · rw [if_pos (jumps.mpr passed), max_eq_right passed.le]
  · rwa [if_neg fun test => passed (jumps.mp test), max_eq_left (not_lt.mp passed)]

theorem Placed.acknowledge_yields (placed : Placed start side) (tcpseg : Acknowledgement) :
    Yields Broken (fun result => Told start side tcpseg result.1 result.2)
      (side.acknowledge tcpseg) := by
  rcases placed with ⟨place, nxt, shows, is_nxt, low, high⟩
  unfold SendSide.acknowledge
  split_ifs with behind duplicate window above
  · exact .ok
      { placed := ⟨place, nxt, { shows with }, is_nxt, low, high⟩
        duplicate := fun _ => ⟨duplicate.1, fun response admits => by
          cases response with
          | _ => exact admits⟩
        inWindow := fun kind => nomatch kind }
  · exact .ok
      { placed := ⟨place, nxt, { shows with }, is_nxt, low, high⟩
        duplicate := fun kind => nomatch kind
        inWindow := fun kind => nomatch kind }
  · have upTo := window
    rw [shows.una] at behind
    rw [shows.max] at window
    rcases exists_between shows.una_le_max shows.max_near behind window with
      ⟨position, is_position, after, sent⟩
    rcases shows.acked after sent with ⟨kept, discards, kept_le, keptInside, rest⟩
    have bound := shows.max_near
    have later : seqLess side.snd_una tcpseg.ackNo = true := by
      rw [shows.una, is_position]
      exact (seqLess_number (by omega) (by omega)).mpr after
    have acknowledged (fin_ack_rcvd : Bool) :
        Shows start
          { side.advanceUna (number start position) with
            fin_ack_rcvd
            sendQueue :=
              { side.sendQueue with begins := number start kept } }
          { place with begins := kept, una := position } :=
      { shows with
        begins := rfl
        una := rfl
        begins_le_una := kept_le.trans (le_succ _)
        begins_le_max := kept_le.trans sent
        begins_le_ends := keptInside
        una_le_begins := rest
        una_le_max := sent
        room := shows.room.trans (Nat.add_lt_add_right after _)
        finRoom := fun closing => (shows.finRoom closing).trans (Nat.add_lt_add_right after _) }
    rw [is_position]
    refine (Yields.of_eq_ok discards rfl).bind ?_
    rintro _ rfl
    refine .ok (told_inWindow (acknowledged _) kept_le (max_le high sent)
      (le_max_right nxt position) (advanceUna_snd_nxt is_nxt ?_ ?_)
      is_position later upTo rfl rfl id)
    all_goals omega
  · exact .ok
      { placed := ⟨place, nxt, shows, is_nxt, low, high⟩
        duplicate := fun kind => nomatch kind
        inWindow := fun kind => nomatch kind }
  · exact .error id

theorem Placed.processAckInEstabEtc_yields (placed : Placed start side)
    (guard : side.Guard (.segment tcpseg receivedDuplicateAck receivedDataAck)) :
    Yields Broken (fun result => Placed start result.2)
      (side.processAckInEstabEtc tcpseg receivedDuplicateAck receivedDataAck) := by
  refine (placed.acknowledge_yields _).bind ?_
  rintro ⟨kind, _⟩ told
  have here := told.placed
  cases kind with
  | duplicate =>
    rcases told.duplicate rfl with ⟨same, admits⟩
    exact (here.respond_yields (admits _ (guard.1 same))).bind fun state placed => .ok placed
  | old => exact .ok here
  | inWindow =>
    rcases told.inWindow rfl with ⟨after, before, admits⟩
    exact (here.respond_yields (admits _ (guard.2 after before))).bind
      fun state placed => .ok (placed.undup 0)
  | notYetSent => exact .ok (here.undup 0)

/-! ## Histories of the send side -/

theorem Placed.serve_yields (placed : Placed start side)
    (guard : side.Guard event) : Yields Broken (Placed start) (side.serve event) := by
  cases event with
  | send _ _ => exact placed.process_SEND_yields guard
  | close => exact .ok (placed.process_CLOSE guard)
  | segment _ _ _ =>
    exact (placed.processAckInEstabEtc_yields guard).bind fun result placed => .ok placed
  | timeout _ => exact placed.respond_yields guard

theorem Placed.ordered (placed : Placed start side) : side.Ordered := by
  rcases placed with ⟨place, _, shows, is_nxt, low, high⟩
  have near := shows.max_near
  have room := shows.room
  constructor
  · rw [shows.una, is_nxt]
    exact (seqLE_number (by omega) (by omega)).mpr low
  · rw [is_nxt, shows.max]
    exact (seqLE_number (by omega) (by omega)).mpr high
  · rcases shows.max_le_ends with data | ⟨finSent, closing⟩
    · left
      rw [shows.max, TCPVirtualDataSendQueue.getBufferEndSeq, shows.ends]
      exact (seqLE_number (by omega) (by omega)).mpr data
    · refine .inr ⟨shows.finSent (by omega), ?_⟩
      rw [shows.max, TCPVirtualDataSendQueue.getBufferEndSeq, shows.ends, finSent]
      exact (number_add _ place.ends 1).symm
  · intro closing
    rw [shows.fin_seq closing, TCPVirtualDataSendQueue.getBufferEndSeq, shows.ends]

theorem Synchronized.placed (synchronized : Synchronized side) : Placed side.snd_una side := by
  generalize waiting : (side.sendQueue.ends - side.sendQueue.begins).toNat = data
  have room := synchronized.room
  have syn : ∃ syn ≤ 1, side.sendQueue.begins = number side.snd_una syn := by
    rcases synchronized.una with acked | unacked
    · exact ⟨0, zero_le 1, by rw [number_zero, acked]⟩
    · refine ⟨1, le_rfl, ?_⟩
      rw [← unacked]
      rfl
  rcases syn with ⟨syn, syn_le, begins⟩
  have ends : side.sendQueue.ends = number side.snd_una (syn + data) := by
    rw [← number_add_distance side.snd_una _ side.sendQueue.ends, ← begins, waiting]
  have nothing : side.sendQueue.begins = side.sendQueue.ends ↔ data = 0 := by
    rw [begins, ends, number_inj (le_add_right _ _) (by omega)]
    omega
  have shows (max : Nat) (is_max : side.snd_max = number side.snd_una max)
      (sent : max = syn ∧ (side.send_fin = true → data ≠ 0) ∨
        max = syn + 1 ∧ data = 0 ∧ side.send_fin = true) :
      Shows side.snd_una side ⟨syn, syn + data, 0, max⟩ :=
    { mss_pos := synchronized.mss_pos
      begins
      ends
      una := (number_zero side.snd_una).symm
      max := is_max
      begins_le_una := syn_le
      begins_le_max := by
        change syn ≤ max
        omega
      begins_le_ends := le_add_right _ _
      una_le_begins := .inl (zero_le _)
      una_le_max := zero_le _
      max_le_ends := by
        rcases sent with ⟨is_syn, _⟩ | ⟨after, none, closing⟩
        · exact .inl (is_syn.trans_le (le_add_right _ _))
        · refine .inr ⟨?_, closing⟩
          change max = syn + data + 1
          omega
      max_ne_ends := fun closing => by
        change max ≠ syn + data
        rcases sent with ⟨_, waits⟩ | ⟨after, none, _⟩
        · have some := waits closing
          omega
        · omega
      fin_seq := fun closing => (synchronized.fin_seq closing).trans ends
      room := by
        change syn + data < 0 + 2 ^ 31
        omega
      finRoom := fun _ => by
        change syn + data + 1 < 0 + 2 ^ 31
        omega }
  rcases synchronized.unsent with ⟨is_max, waits⟩ | ⟨finSent, empty⟩
  · have at_syn : side.snd_max = number side.snd_una syn := is_max.trans begins
    refine ⟨_, syn, shows _ at_syn (.inl ⟨rfl, fun closing => ?_⟩),
      synchronized.nxt.trans at_syn, zero_le _, le_rfl⟩
    exact fun none => waits closing (nothing.mpr none)
  · have none := nothing.mp empty
    have after : side.snd_max = number side.snd_una (syn + 1) := by
      rw [finSent.2, synchronized.fin_seq finSent.1, ← empty, begins]
      exact number_add side.snd_una _ 1
    exact ⟨_, syn + 1, shows _ after (.inr ⟨rfl, none, finSent.1⟩),
      synchronized.nxt.trans after, zero_le _, le_rfl⟩

theorem Synchronized.placed_of_run
    (synchronized : Synchronized first) (run : Run (guardedStep Guard step) first events side) :
    Placed first.snd_una side := by
  refine run.guarded ?_ synchronized.placed
  intro _ _ _ placed guard served
  exact (placed.serve_yields guard).2 _ served

end Showing

/--
In every run in which nothing is sent after `CLOSE`, the numbers span less
than half of all numbers, and the responses ask for bytes that the queue has,
the numbers are in order in every state, and in none does an event make an
assertion of the four functions fail.
-/
theorem send_side_safe {first side : SendSide} {events : List Event}
    (synchronized : Synchronized first) (run : Run (guardedStep Guard step) first events side) :
    side.Ordered ∧ ∀ event, side.Guard event → Avoids Broken (side.serve event) := by
  have placed := synchronized.placed_of_run run
  exact ⟨placed.ordered, fun event guard => (placed.serve_yields guard).1⟩

/-- Established with an empty queue and a window for 1000 bytes. -/
def justEstablished : SendSide where
  snd_mss := 536
  snd_una := 1
  snd_nxt := 1
  snd_max := 1
  snd_wnd := 1000
  snd_wl1 := 0
  snd_wl2 := 0
  sendQueue := .init 1

theorem justEstablished_synchronized : Synchronized justEstablished where
  mss_pos := by decide
  una := .inl rfl
  nxt := rfl
  unsent := .inl ⟨rfl, nofun⟩
  fin_seq := nofun
  room := by decide

def withoutLimit : Response :=
  .sendData false (-1)

theorem send_side_safe_retransmits_fin :
    ∃ side,
      Run (guardedStep Guard step) justEstablished
          [.send 1000 withoutLimit, .timeout .retransmitOneSegment,
            .segment ⟨0, 537, 1000, 0⟩ .nothing withoutLimit, .close,
            .timeout .retransmitData] side ∧
        side.Ordered ∧
        Avoids Broken (side.serve (.timeout .retransmitData)) := by
  have run :
      ∃ side,
        Run (guardedStep Guard step) justEstablished
          [.send 1000 withoutLimit, .timeout .retransmitOneSegment,
            .segment ⟨0, 537, 1000, 0⟩ .nothing withoutLimit, .close,
            .timeout .retransmitData] side ∧
          side.Guard (.timeout .retransmitData) := by
    refine ⟨_, .next ⟨⟨rfl, by decide, trivial⟩, rfl⟩
      (.next ⟨?_, rfl⟩
        (.next ⟨⟨fun _ => trivial, fun _ _ => trivial⟩, rfl⟩
          (.next ⟨.inr ?_, rfl⟩ (.next ⟨?_, rfl⟩ (.idle _))))), ?_⟩
    · exact ⟨by decide, by decide⟩
    · decide
    · exact show _ ≠ _ by decide
    · exact show _ ≠ _ by decide
  rcases run with ⟨side, run, admits⟩
  have safe := send_side_safe justEstablished_synchronized run
  exact ⟨side, run, safe.1, safe.2 _ admits⟩

/--
With the FIN in flight, the first segment to be retransmitted includes the
number of the FIN, and the queue is asked for a byte that it does not have.
What is sent after a deferred `CLOSE` moves the end of the queue away from
the number of the FIN.
-/
theorem retransmission_asks_for_fin :
    Synchronized justEstablished ∧
      (∃ side,
        Run step justEstablished [.send 10 withoutLimit, .close] side ∧
          side.serve (.timeout .retransmitOneSegment) = .error .createSegmentWithBytes) ∧
      ∃ side,
        Run step justEstablished [.send 2000 withoutLimit, .close, .send 5 .nothing] side ∧
          ¬side.Ordered := by
  refine ⟨justEstablished_synchronized, ?_, ?_⟩
  · exact ⟨_, .next rfl (.next rfl (.idle _)), rfl⟩
  · refine ⟨_, .next rfl (.next rfl (.next rfl (.idle _))), ?_⟩
    intro ordered
    exact absurd (ordered.fin_seq rfl) (by decide)

end SendSide

end OmnetDsi.Tcp.Sending
