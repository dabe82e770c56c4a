import OmnetDsi.Tcp.Sending
import OmnetDsi.Tcp.StateMachine
import OmnetDsi.Tcp.VirtualDataRcvQueue

/-!
# A connection

A `TCPConnection` processes commands of the application, arriving segments and
timers.  Each of them ends with an event code, on which
`performStateTransition` acts.  The segments follow the steps of RFC 793:
sequence number, RST, SYN, ACK field, text, FIN.

The congestion control is that of an algorithm derived from `TCPBaseAlg`:
when it is notified, it handles the REXMIT timer as `TCPBaseAlg` does and
sends or retransmits as it likes, which is what `Choices` stand for.  The
simulation time is not modelled: a timer that is scheduled may expire, and
the initial sequence number is chosen with the event that needs it.
-/

namespace OmnetDsi.Tcp.Connection

open Library.Fallible Tcp.SequenceNumbers Tcp.Sending Tcp.StateMachine Tcp.VirtualDataRcvQueue

/-! ## The state of a connection -/

structure TCPSegment where
  sequenceNo : SeqNo
  ackNo : SeqNo := 0
  payloadLength : Nat := 0
  window : Nat := 0
  synBit : Bool := false
  ackBit : Bool := false
  rstBit : Bool := false
  finBit : Bool := false

def TCPSegment.acknowledgement (tcpseg : TCPSegment) : Acknowledgement where
  sequenceNo := tcpseg.sequenceNo
  ackNo := tcpseg.ackNo
  window := tcpseg.window
  payloadLength := tcpseg.payloadLength

/-- The timers that are scheduled somewhere. -/
inductive Timer where
  | the2MSL
  | connEstab
  | finWait2
  | synRexmit
  | rexmit
  | delayedAck
deriving DecidableEq

/-- What the application is told. -/
inductive Indication where
  | data (byteLength : Nat)
  | established
  | peerClosed
  | closed
  | connectionRefused
  | connectionReset
  | timedOut
  | status
deriving DecidableEq

/-- What stops the simulation. -/
inductive Failure where
  | sending (failure : Sending.Failure)
  | receiving (assertion : Assertion)
  | alreadyScheduled (timer : Timer)
  | oppError
  | unexpectedState
  | endless

structure ReceiveSide where
  rcv_nxt : SeqNo := 0
  rcv_wnd : SeqNo
  fin_rcvd : Bool := false
  rcv_fin_seq : SeqNo := 0
  receiveQueue : TCPVirtualDataRcvQueue := .init 0

/-- Of the remote socket only whether it is specified is kept. -/
structure TCPConnection where
  fsm : TcpState := .init
  active : Bool := false
  fork : Bool := false
  remoteSpecified : Bool := false
  iss : SeqNo := 0
  irs : SeqNo := 0
  snd : SendSide
  rcv : ReceiveSide
  scheduled : Timer → Bool := fun _ => false
  syn_rexmit_count : Nat := 0
  rexmit_count : Nat := 0
  delayed_acks_enabled : Bool
  toApp : List Indication := []

/-- What the algorithm does on a duplicate acknowledgement. -/
inductive DuplicateAckAction where
  | nothing
  | fastRetransmit
  | sendData

/-- The arguments of `sendData`, and how the algorithm retransmits. -/
structure Choices where
  fullSegmentsOnly : Bool := false
  congestionWindow : Int := -1
  duplicateAck : DuplicateAckAction := .nothing
  retransmitsAll : Bool := false

def MAX_SYN_REXMIT_COUNT : Nat := 12

def MAX_REXMIT_COUNT : Nat := 12

namespace TCPConnection

/-- A connection as it is constructed, with its parameters. -/
def create (mss : Nat) (advertisedWindow : SeqNo)
    (delayed_acks_enabled : Bool) : TCPConnection where
  snd :=
    { snd_mss := mss
      snd_una := 0
      snd_nxt := 0
      snd_max := 0
      snd_wnd := 0
      snd_wl1 := 0
      snd_wl2 := 0
      sendQueue := .init 0 }
  rcv := { rcv_wnd := advertisedWindow }
  delayed_acks_enabled

/-! ## Timers and indications -/

def setScheduled (conn : TCPConnection) (timer : Timer) (pending : Bool) : TCPConnection :=
  { conn with scheduled := Function.update conn.scheduled timer pending }

@[simp]
theorem setScheduled_self (conn : TCPConnection) (timer : Timer) (pending : Bool) :
    (conn.setScheduled timer pending).scheduled timer = pending :=
  Function.update_self ..

theorem setScheduled_of_ne {conn : TCPConnection} (differ : other ≠ timer) (pending : Bool) :
    (conn.setScheduled timer pending).scheduled other = conn.scheduled other :=
  Function.update_of_ne differ ..

def scheduleTimeout (conn : TCPConnection) (timer : Timer) : Except Failure TCPConnection :=
  if conn.scheduled timer then .error (.alreadyScheduled timer)
  else .ok (conn.setScheduled timer true)

def cancelEvent (conn : TCPConnection) (timer : Timer) : TCPConnection :=
  conn.setScheduled timer false

def sendIndicationToApp (conn : TCPConnection) (indication : Indication) : TCPConnection :=
  { conn with toApp := conn.toApp ++ [indication] }

def startSynRexmitTimer (conn : TCPConnection) : Except Failure TCPConnection :=
  ({ conn with syn_rexmit_count := 0 }.cancelEvent .synRexmit)
    |>.scheduleTimeout .synRexmit

def startRexmitTimer (conn : TCPConnection) : Except Failure TCPConnection :=
  { conn with rexmit_count := 0 }.scheduleTimeout .rexmit

/-! ## Sending -/

/-- `TCPBaseAlg::ackSent`, after every segment with an ACK. -/
def ackSent (conn : TCPConnection) : TCPConnection :=
  conn.cancelEvent .delayedAck

def sendAck (conn : TCPConnection) : TCPConnection :=
  conn.ackSent

def selectInitialSeqNum (conn : TCPConnection) (iss : SeqNo) : TCPConnection :=
  { conn with
    iss
    snd :=
      { conn.snd with
        snd_una := iss
        snd_nxt := iss
        snd_max := iss
        sendQueue := .init (iss + 1) } }

def sendSynAck (conn : TCPConnection) : TCPConnection :=
  { conn with
    snd :=
      { conn.snd with snd_nxt := conn.iss + 1, snd_max := conn.iss + 1 } }

def sendSyn (conn : TCPConnection) : Except Failure TCPConnection :=
  if conn.remoteSpecified then
    .ok { conn with
      snd :=
        { conn.snd with
          snd_nxt := conn.iss + 1
          snd_max := conn.iss + 1 } }
  else .error .oppError

/-- `TCPBaseAlg::dataSent`. -/
def dataSent (conn : TCPConnection) : Except Failure TCPConnection :=
  if conn.scheduled .rexmit then .ok conn else conn.startRexmitTimer

def sendData (conn : TCPConnection) (choices : Choices) :
    Except Failure (Bool × TCPConnection) := do
  let (sent, snd) ←
    (conn.snd.sendData choices.fullSegmentsOnly choices.congestionWindow).mapError .sending
  let conn := { conn with snd }
  if sent then
    let conn ← conn.ackSent.dataSent
    .ok (true, conn)
  else .ok (false, conn)

def retransmitOneSegment (conn : TCPConnection) : Except Failure TCPConnection := do
  let snd ← conn.snd.retransmitOneSegment.mapError .sending
  .ok { conn with snd }.ackSent

def retransmitData (conn : TCPConnection) : Except Failure TCPConnection := do
  let snd ← conn.snd.retransmitData.mapError .sending
  .ok { conn with snd }

/-! ## The algorithm -/

/-- Only the side that opened actively completes the setup with an ACK. -/
def established (conn : TCPConnection) (choices : Choices) (active : Bool) :
    Except Failure TCPConnection :=
  if active then do
    let (sent, conn) ← conn.sendData choices
    .ok (if sent then conn else conn.sendAck)
  else .ok conn

def receivedDataAck (conn : TCPConnection) (choices : Choices) : Except Failure TCPConnection := do
  let conn ← (if conn.snd.snd_una = conn.snd.snd_max then .ok (conn.cancelEvent .rexmit)
    else (conn.cancelEvent .rexmit).startRexmitTimer)
  let (_, conn) ← conn.sendData choices
  .ok conn

def receivedDuplicateAck (conn : TCPConnection) (choices : Choices) :
    Except Failure TCPConnection :=
  match choices.duplicateAck with
  | .nothing => .ok conn
  | .fastRetransmit => do
      let conn ← conn.retransmitOneSegment
      (conn.cancelEvent .rexmit).startRexmitTimer
  | .sendData => do
      let (_, conn) ← conn.sendData choices
      .ok conn

def receiveSeqChanged (conn : TCPConnection) : Except Failure TCPConnection :=
  if conn.delayed_acks_enabled then
    if conn.scheduled .delayedAck then .ok conn else conn.scheduleTimeout .delayedAck
  else .ok conn.sendAck

def processRexmitTimer (conn : TCPConnection) (choices : Choices) :
    Except Failure (TCPEventCode × TCPConnection) :=
  let conn := { conn with rexmit_count := conn.rexmit_count + 1 }
  if conn.rexmit_count > MAX_REXMIT_COUNT then .ok (.abort, conn.sendIndicationToApp .timedOut)
  else do
    let conn ← conn.scheduleTimeout .rexmit
    let conn ← (if choices.retransmitsAll then conn.retransmitData
      else conn.retransmitOneSegment)
    .ok (.ignore, conn)

/-! ## Commands -/

def process_OPEN_ACTIVE (conn : TCPConnection) (remoteSpecified : Bool)
    (iss : SeqNo) : Except Failure (TCPEventCode × TCPConnection) :=
  if conn.fsm = .init then do
    let conn := { conn with active := true, remoteSpecified }
    let conn ← (conn.selectInitialSeqNum iss).sendSyn
    let conn ← conn.startSynRexmitTimer
    let conn ← conn.scheduleTimeout .connEstab
    .ok (.openActive, conn)
  else .error .oppError

def process_OPEN_PASSIVE (conn : TCPConnection) (fork : Bool) :
    Except Failure (TCPEventCode × TCPConnection) :=
  if conn.fsm = .init then .ok (.openPassive, { conn with active := false, fork })
  else .error .oppError

def enqueueAppData (conn : TCPConnection) (byteLength : Nat) : TCPConnection :=
  { conn with
    snd :=
      { conn.snd with
        sendQueue := conn.snd.sendQueue.enqueueAppData byteLength } }

/-- `SEND` turns the passive open into an active one. -/
def openAndQueue (conn : TCPConnection) (byteLength : Nat) (iss : SeqNo) :
    Except Failure (TCPEventCode × TCPConnection) := do
  let conn := { conn with active := true }
  let conn ← (conn.selectInitialSeqNum iss).sendSyn
  let conn ← conn.startSynRexmitTimer
  let conn ← conn.scheduleTimeout .connEstab
  .ok (.send, conn.enqueueAppData byteLength)

def process_SEND (conn : TCPConnection) (byteLength : Nat) (iss : SeqNo)
    (choices : Choices) : Except Failure (TCPEventCode × TCPConnection) :=
  match conn.fsm with
  | .listen => conn.openAndQueue byteLength iss
  | .synRcvd | .synSent => .ok (.send, conn.enqueueAppData byteLength)
  | .established | .closeWait => do
      let (_, conn) ← (conn.enqueueAppData byteLength).sendData choices
      .ok (.send, conn)
  | _ => .error .oppError

/-- The FIN is sent right away, or sending it is deferred. -/
def sendOrDeferFin (conn : TCPConnection) : TCPEventCode × TCPConnection :=
  let (finSent, snd) := conn.snd.process_CLOSE
  let conn := { conn with snd }
  if finSent then (.close, conn.ackSent) else (.ignore, conn)

def process_CLOSE (conn : TCPConnection) : Except Failure (TCPEventCode × TCPConnection) :=
  match conn.fsm with
  | .listen | .synSent => .ok (.close, conn)
  | .synRcvd | .established | .closeWait => .ok conn.sendOrDeferFin
  | _ => .error .oppError

def process_ABORT (conn : TCPConnection) : Except Failure (TCPEventCode × TCPConnection) :=
  if conn.fsm = .init then .error .oppError else .ok (.abort, conn)

def process_STATUS (conn : TCPConnection) : Except Failure (TCPEventCode × TCPConnection) :=
  if conn.fsm = .init then .error .oppError else .ok (.status, conn.sendIndicationToApp .status)

/-! ## Segments in LISTEN and SYN_SENT -/

/-- The number of the peer's SYN starts the receive side. -/
def receiveSyn (conn : TCPConnection) (tcpseg : TCPSegment) : TCPConnection :=
  { conn with
    irs := tcpseg.sequenceNo
    rcv :=
      { conn.rcv with
        rcv_nxt := tcpseg.sequenceNo + 1
        receiveQueue := .init (tcpseg.sequenceNo + 1) } }

/-- The text of a segment with a SYN is kept, and `rcv_nxt` stays. -/
def keepText (conn : TCPConnection) (tcpseg : TCPSegment) : TCPConnection :=
  if 0 < tcpseg.payloadLength then
    { conn with
      rcv :=
        { conn.rcv with
          receiveQueue :=
            conn.rcv.receiveQueue.insertBytesFromSegment tcpseg.sequenceNo tcpseg.payloadLength } }
  else conn

def takeSndWnd (conn : TCPConnection) (tcpseg : TCPSegment) (snd_wl2 : SeqNo) : TCPConnection :=
  { conn with
    snd :=
      { conn.snd with
        snd_wnd := tcpseg.window
        snd_wl1 := tcpseg.sequenceNo
        snd_wl2 } }

def processSegmentInListen (conn : TCPConnection) (tcpseg : TCPSegment)
    (iss : SeqNo) : Except Failure (TCPEventCode × TCPConnection) :=
  if tcpseg.rstBit then .ok (.ignore, conn)
  else if tcpseg.ackBit then .ok (.ignore, conn)
  else if tcpseg.synBit then do
    let conn := { conn with remoteSpecified := true }
    let conn := (conn.receiveSyn tcpseg).selectInitialSeqNum iss
    let conn := (conn.takeSndWnd tcpseg iss).sendSynAck
    let conn ← conn.startSynRexmitTimer
    let conn ← (if conn.scheduled .connEstab then .ok conn
      else conn.scheduleTimeout .connEstab)
    .ok (.rcvSyn, conn.keepText tcpseg)
  else .ok (.ignore, conn)

/-- `snd_una` moves over the SYN, and the window is picked up. -/
def acceptSynAck (conn : TCPConnection) (tcpseg : TCPSegment) : Except Failure TCPConnection := do
  let sendQueue ← (conn.snd.sendQueue.discardUpTo tcpseg.ackNo).mapError .sending
  let snd := { conn.snd with snd_una := tcpseg.ackNo, sendQueue }
  .ok ({ conn with snd }.takeSndWnd tcpseg tcpseg.ackNo)

/-- Our SYN has been acknowledged; `rcv_nxt` moves over the text. -/
def establishActively (conn : TCPConnection) (tcpseg : TCPSegment)
    (choices : Choices) : Except Failure (TCPEventCode × TCPConnection) := do
  let conn := conn.keepText tcpseg
  let rcv := { conn.rcv with rcv_nxt := conn.rcv.receiveQueue.rcv_nxt }
  let conn ← { conn with rcv }.established choices true
  .ok (.rcvSynAck, conn.sendIndicationToApp .established)

/-- Both sides have opened actively. -/
def answerSyn (conn : TCPConnection) (tcpseg : TCPSegment) :
    Except Failure (TCPEventCode × TCPConnection) := do
  let conn ← conn.sendSynAck.startSynRexmitTimer
  .ok (.rcvSyn, conn.keepText tcpseg)

def processSyn (conn : TCPConnection) (tcpseg : TCPSegment)
    (choices : Choices) : Except Failure (TCPEventCode × TCPConnection) := do
  let conn := conn.receiveSyn tcpseg
  let conn ← (if tcpseg.ackBit then conn.acceptSynAck tcpseg else .ok conn)
  let conn := { conn with remoteSpecified := true }
  if seqGreater conn.snd.snd_una conn.iss then conn.establishActively tcpseg choices
  else conn.answerSyn tcpseg

def processSegmentInSynSent (conn : TCPConnection) (tcpseg : TCPSegment)
    (choices : Choices) : Except Failure (TCPEventCode × TCPConnection) :=
  if tcpseg.ackBit ∧ (seqLE tcpseg.ackNo conn.iss ∨ seqGreater tcpseg.ackNo conn.snd.snd_nxt) then
    .ok (.ignore, conn)
  else if tcpseg.rstBit then
    if tcpseg.ackBit then .ok (.rcvRst, conn.sendIndicationToApp .connectionReset)
    else .ok (.ignore, conn)
  else if tcpseg.synBit then conn.processSyn tcpseg choices
  else .ok (.ignore, conn)

/-! ## Segments in the other states -/

def isSegmentAcceptable (conn : TCPConnection) (tcpseg : TCPSegment) : Bool :=
  seqGE tcpseg.sequenceNo conn.rcv.rcv_nxt &&
    seqLE (tcpseg.sequenceNo + BitVec.ofNat 32 tcpseg.payloadLength)
      (conn.rcv.rcv_nxt + conn.rcv.rcv_wnd)

def processRstInSynReceived (conn : TCPConnection) :
    Except Failure (TCPEventCode × TCPConnection) := do
  let sendQueue ←
    (conn.snd.sendQueue.discardUpTo conn.snd.sendQueue.getBufferEndSeq).mapError .sending
  let conn := { conn with snd := { conn.snd with sendQueue } }
  .ok (.rcvRst, if conn.active then conn.sendIndicationToApp .connectionRefused else conn)

/-- The RST bit is set. -/
def processRst (conn : TCPConnection) : Except Failure (TCPEventCode × TCPConnection) :=
  match conn.fsm with
  | .synRcvd => conn.processRstInSynReceived
  | .established | .finWait1 | .finWait2 | .closeWait =>
    .ok (.rcvRst, conn.sendIndicationToApp .connectionReset)
  | .closing | .lastAck => .ok (.rcvRst, conn.sendIndicationToApp .closed)
  | .timeWait => .ok (.rcvRst, conn)
  | _ => .error .unexpectedState

/-- The result is `false` when the segment is to be dropped. -/
def processAckInEstabEtc (conn : TCPConnection) (tcpseg : TCPSegment)
    (choices : Choices) : Except Failure (Bool × TCPConnection) := do
  let (kind, snd) ← (conn.snd.acknowledge tcpseg.acknowledgement).mapError .sending
  let conn := { conn with snd }
  match kind with
  | .duplicate => do
      let conn ← conn.receivedDuplicateAck choices
      .ok (true, conn)
  | .old => .ok (true, conn)
  | .inWindow => do
      let conn ← conn.receivedDataAck choices
      .ok (true, { conn with snd := { conn.snd with dupacks := 0 } })
  | .notYetSent =>
    let conn := conn.sendAck
    .ok (false, { conn with snd := { conn.snd with dupacks := 0 } })

/-- A step that returns from the function, or goes on with an event. -/
inductive Flow where
  | returns (event : TCPEventCode)
  | continues (event : TCPEventCode)

/-- The states in which `processAckInEstabEtc` is called. -/
def TransfersAcks : TcpState → Bool
  | .synRcvd | .established | .finWait1 | .finWait2 => true
  | .closeWait | .closing => true
  | _ => false

/-- The states in which the text of a segment is processed. -/
def TransfersText : TcpState → Bool
  | .synRcvd | .established | .finWait1 | .finWait2 => true
  | _ => false

/-- The ACK field completes the setup in SYN_RCVD. -/
def completeSetup (conn : TCPConnection) (tcpseg : TCPSegment)
    (choices : Choices) : Except Failure (Flow × TCPConnection) :=
  if conn.fsm = .synRcvd then
    if seqLE conn.snd.snd_una tcpseg.ackNo ∧ seqLE tcpseg.ackNo conn.snd.snd_nxt then do
      let conn ← conn.established choices false
      .ok (.continues .rcvAck, conn.sendIndicationToApp .established)
    else .ok (.returns .ignore, conn)
  else .ok (.continues .ignore, conn)

/-- What the ACK of our FIN means in the state. -/
def processFinAck (conn : TCPConnection) (tcpseg : TCPSegment)
    (event : TCPEventCode) : Except Failure (Flow × TCPConnection) :=
  match conn.fsm with
  | .finWait1 => .ok (.continues (if conn.snd.fin_ack_rcvd then .rcvAck else event), conn)
  | .closing =>
    if conn.snd.fin_ack_rcvd then do
      let conn ← conn.scheduleTimeout .the2MSL
      .ok (.continues .rcvAck, conn.sendIndicationToApp .closed)
    else .ok (.continues event, conn)
  | .lastAck =>
    if conn.snd.send_fin ∧ tcpseg.ackNo = conn.snd.snd_fin_seq + 1 then
      .ok (.returns .rcvAck, conn.sendIndicationToApp .closed)
    else .ok (.continues event, conn)
  | .timeWait => do
      let conn ← (conn.sendAck.cancelEvent .the2MSL).scheduleTimeout .the2MSL
      .ok (.continues event, conn)
  | _ => .ok (.continues event, conn)

/-- The fifth step: check the ACK field. -/
def processAckField (conn : TCPConnection) (tcpseg : TCPSegment)
    (choices : Choices) (event : TCPEventCode) : Except Failure (Flow × TCPConnection) := do
  let (ok, conn) ← (if TransfersAcks conn.fsm then conn.processAckInEstabEtc tcpseg choices
    else .ok (true, conn))
  if ok then conn.processFinAck tcpseg event else .ok (.returns .ignore, conn)

/-- `while ((msg=receiveQueue->extractBytesUpTo(state->rcv_nxt))!=NULL)` -/
def passUp : (fuel : Nat) → TCPConnection → Except Failure TCPConnection
  | 0, _ => .error .endless
  | fuel + 1, conn => do
      let (msg, receiveQueue) ←
        (conn.rcv.receiveQueue.extractBytesUpTo conn.rcv.rcv_nxt).mapError .receiving
      let conn := { conn with rcv := { conn.rcv with receiveQueue } }
      match msg with
      | none => .ok conn
      | some byteLength => passUp fuel (conn.sendIndicationToApp (.data byteLength))

/-- The FIN that came before the last text is now in sequence. -/
def reachStoredFin (conn : TCPConnection) : TCPConnection :=
  if conn.rcv.fin_rcvd ∧ conn.rcv.rcv_nxt = conn.rcv.rcv_fin_seq then
    { conn with
      rcv :=
        { conn.rcv with
          rcv_nxt := conn.rcv.rcv_fin_seq + 1 } }.sendIndicationToApp
      .peerClosed
  else conn

/--
The seventh step: process the segment text.  Every round of the loop takes a
region off the receive queue or shortens the first one, and the loop ends
with the round after that.
-/
def processText (conn : TCPConnection) (tcpseg : TCPSegment) : Except Failure TCPConnection :=
  if TransfersText conn.fsm ∧ 0 < tcpseg.payloadLength then do
    let old_rcv_nxt := conn.rcv.rcv_nxt
    let receiveQueue :=
      conn.rcv.receiveQueue.insertBytesFromSegment tcpseg.sequenceNo tcpseg.payloadLength
    let rcv := { conn.rcv with receiveQueue, rcv_nxt := receiveQueue.rcv_nxt }
    let conn := { conn with rcv }
    if old_rcv_nxt = conn.rcv.rcv_nxt then .ok conn.sendAck
    else
      let conn ← passUp (receiveQueue.regionList.length + 2) conn
      .ok conn.reachStoredFin
  else .ok conn

/-- The FIN is taken in sequence, or its number is stored. -/
def receiveFin (conn : TCPConnection) (tcpseg : TCPSegment) : TCPConnection :=
  let fin_seq := tcpseg.sequenceNo + BitVec.ofNat 32 tcpseg.payloadLength
  if conn.rcv.rcv_nxt = fin_seq then
    { conn with
      rcv :=
        { conn.rcv with
          rcv_nxt := conn.rcv.rcv_nxt + 1 } }.sendIndicationToApp
      .peerClosed
  else { conn with rcv := { conn.rcv with fin_rcvd := true, rcv_fin_seq := fin_seq } }

/-- The time-wait timer starts, and the user is told. -/
def startTimeWait (conn : TCPConnection) : Except Failure TCPConnection := do
  let conn ← (conn.cancelEvent .finWait2).scheduleTimeout .the2MSL
  .ok (conn.sendIndicationToApp .closed)

/-- The eighth step: check the FIN bit. -/
def processFin (conn : TCPConnection) (tcpseg : TCPSegment)
    (event : TCPEventCode) : Except Failure (TCPEventCode × TCPConnection) :=
  if tcpseg.finBit then
    let conn := conn.receiveFin tcpseg
    match conn.fsm with
    | .finWait1 =>
      if conn.snd.fin_ack_rcvd then do
        let conn ← conn.startTimeWait
        .ok (.rcvFinAck, conn)
      else .ok (.rcvFin, conn)
    | .finWait2 => do
        let conn ← conn.startTimeWait
        .ok (.rcvFin, conn)
    | .timeWait => do
        let conn ← (conn.cancelEvent .the2MSL).scheduleTimeout .the2MSL
        .ok (.rcvFin, conn)
    | _ => .ok (.rcvFin, conn)
  else .ok (event, conn)

/-- A deferred `CLOSE` is simulated once the FIN has been sent. -/
def deferredClose (conn : TCPConnection) (old_snd_nxt : SeqNo)
    (event : TCPEventCode) : TCPEventCode :=
  let finOut := conn.snd.send_fin ∧ conn.snd.snd_nxt = conn.snd.snd_fin_seq + 1
  if (conn.fsm = .established ∨ conn.fsm = .synRcvd) ∧ finOut then .close
  else if conn.fsm = .closeWait ∧ finOut ∧ old_snd_nxt ≠ conn.snd.snd_nxt then .close
  else event

/-- The steps from the text on. -/
def processTextAndFin (conn : TCPConnection) (tcpseg : TCPSegment)
    (event : TCPEventCode) : Except Failure (TCPEventCode × TCPConnection) := do
  let old_rcv_nxt := conn.rcv.rcv_nxt
  let conn ← conn.processText tcpseg
  let (event, conn) ← conn.processFin tcpseg event
  if old_rcv_nxt ≠ conn.rcv.rcv_nxt then
    let conn ← conn.receiveSeqChanged
    .ok (event, conn)
  else .ok (event, conn)

/-- The steps from the ACK field on. -/
def processAckTextAndFin (conn : TCPConnection) (tcpseg : TCPSegment)
    (choices : Choices) : Except Failure (TCPEventCode × TCPConnection) := do
  let (flow, conn) ← conn.completeSetup tcpseg choices
  match flow with
  | .returns event => .ok (event, conn)
  | .continues event => do
      let old_snd_nxt := conn.snd.snd_nxt
      let (flow, conn) ← conn.processAckField tcpseg choices event
      match flow with
      | .returns event => .ok (event, conn)
      | .continues event => do
          let (event, conn) ← conn.processTextAndFin tcpseg event
          .ok (conn.deferredClose old_snd_nxt event, conn)

def processSegment1stThru8th (conn : TCPConnection) (tcpseg : TCPSegment)
    (choices : Choices) : Except Failure (TCPEventCode × TCPConnection) :=
  if conn.isSegmentAcceptable tcpseg then
    if tcpseg.rstBit then conn.processRst
    else if tcpseg.synBit then .ok (.rcvUnexpSyn, conn.sendIndicationToApp .connectionReset)
    else if tcpseg.ackBit then conn.processAckTextAndFin tcpseg choices
    else .ok (.ignore, conn)
  else if tcpseg.rstBit then .ok (.ignore, conn)
  else .ok (.ignore, conn.sendAck)

def process_RCV_SEGMENT (conn : TCPConnection) (tcpseg : TCPSegment)
    (iss : SeqNo) (choices : Choices) : Except Failure (TCPEventCode × TCPConnection) :=
  match conn.fsm with
  | .init => .error .unexpectedState
  | .listen => conn.processSegmentInListen tcpseg iss
  | .synSent => conn.processSegmentInSynSent tcpseg choices
  | _ => conn.processSegment1stThru8th tcpseg choices

/-! ## Timeouts -/

def process_TIMEOUT_2MSL (conn : TCPConnection) : Except Failure (TCPEventCode × TCPConnection) :=
  if conn.fsm = .timeWait then .ok (.timeout2MSL, conn) else .error .oppError

def process_TIMEOUT_CONN_ESTAB (conn : TCPConnection) :
    Except Failure (TCPEventCode × TCPConnection) :=
  if conn.fsm = .synRcvd ∨ conn.fsm = .synSent then
    .ok (.timeoutConnEstab, if conn.active then conn.sendIndicationToApp .timedOut else conn)
  else .error .oppError

def process_TIMEOUT_FIN_WAIT_2 (conn : TCPConnection) :
    Except Failure (TCPEventCode × TCPConnection) :=
  if conn.fsm = .finWait2 then .ok (.timeoutFinWait2, conn.sendIndicationToApp .closed)
  else .error .oppError

/-- What is needed is sent again. -/
def sendSynAgain (conn : TCPConnection) : Except Failure TCPConnection :=
  match conn.fsm with
  | .synSent => conn.sendSyn
  | .synRcvd => .ok conn.sendSynAck
  | _ => .error .oppError

def process_TIMEOUT_SYN_REXMIT (conn : TCPConnection) :
    Except Failure (TCPEventCode × TCPConnection) :=
  let conn := { conn with syn_rexmit_count := conn.syn_rexmit_count + 1 }
  if conn.syn_rexmit_count > MAX_SYN_REXMIT_COUNT then .ok (.abort, conn)
  else do
    let conn ← conn.sendSynAgain
    let conn ← conn.scheduleTimeout .synRexmit
    .ok (.ignore, conn)

/--
The timer has expired and is no longer scheduled.  There is no algorithm
before the connection is opened.
-/
def processTimer (conn : TCPConnection) (choices : Choices) :
    Timer → Except Failure (TCPEventCode × TCPConnection)
  | .the2MSL => (conn.cancelEvent .the2MSL).process_TIMEOUT_2MSL
  | .connEstab => (conn.cancelEvent .connEstab).process_TIMEOUT_CONN_ESTAB
  | .finWait2 => (conn.cancelEvent .finWait2).process_TIMEOUT_FIN_WAIT_2
  | .synRexmit => (conn.cancelEvent .synRexmit).process_TIMEOUT_SYN_REXMIT
  | .rexmit =>
    if conn.fsm = .init then .error .unexpectedState
    else (conn.cancelEvent .rexmit).processRexmitTimer choices
  | .delayedAck =>
    if conn.fsm = .init then .error .unexpectedState
    else .ok (.ignore, (conn.cancelEvent .delayedAck).sendAck)

/-! ## Events -/

inductive Event where
  | openActive (remoteSpecified : Bool) (iss : SeqNo)
  | openPassive (fork : Bool)
  | send (byteLength : Nat) (iss : SeqNo) (choices : Choices)
  | close
  | abort
  | status
  | segment (tcpseg : TCPSegment) (iss : SeqNo) (choices : Choices)
  | timeout (timer : Timer) (choices : Choices)

/-- The processing of an event, with the event code that it ends with. -/
def process (conn : TCPConnection) : Event → Except Failure (TCPEventCode × TCPConnection)
  | .openActive remoteSpecified iss => conn.process_OPEN_ACTIVE remoteSpecified iss
  | .openPassive fork => conn.process_OPEN_PASSIVE fork
  | .send byteLength iss choices => conn.process_SEND byteLength iss choices
  | .close => conn.process_CLOSE
  | .abort => conn.process_ABORT
  | .status => conn.process_STATUS
  | .segment tcpseg iss choices => conn.process_RCV_SEGMENT tcpseg iss choices
  | .timeout timer choices => conn.processTimer choices timer

/-- The timers that a state no longer needs are cancelled. -/
def stateEntered (conn : TCPConnection) : TcpState → TCPConnection
  | .init | .synSent | .synRcvd => conn
  | .closed => { conn with scheduled := fun _ => false }
  | _ => (conn.cancelEvent .connEstab).cancelEvent .synRexmit

def performStateTransition (conn : TCPConnection) (event : TCPEventCode) : TCPConnection :=
  let fsm := StateMachine.performStateTransition conn.active conn.fsm event
  if fsm = conn.fsm then conn else { conn with fsm }.stateEntered fsm

/-- A connection that is not closed can serve the event. -/
def Enabled (conn : TCPConnection) : Event → Prop
  | .timeout timer _ => conn.fsm ≠ .closed ∧ conn.scheduled timer = true
  | _ => conn.fsm ≠ .closed

def step (conn : TCPConnection) (event : Event) (next : TCPConnection) : Prop :=
  conn.Enabled event ∧
    ∃ code processed,
      conn.process event = .ok (code, processed) ∧ next = processed.performStateTransition code

/-! ## Entering a state -/

section Entering

variable {conn : TCPConnection}

theorem scheduled_of_cancelEvent (running : (conn.cancelEvent timer).scheduled other = true) :
    other ≠ timer ∧ conn.scheduled other = true := by
  by_cases same : other = timer
  · rw [same, cancelEvent, setScheduled_self] at running
    cases running
  · rw [cancelEvent, setScheduled_of_ne same] at running
    exact ⟨same, running⟩

theorem scheduled_of_stateEntered
    (running : (conn.stateEntered state).scheduled timer = true) : conn.scheduled timer = true := by
  cases state with
  | init | synSent | synRcvd => exact running
  | closed => cases running
  | _ => exact (scheduled_of_cancelEvent (scheduled_of_cancelEvent running).2).2

theorem not_scheduled_of_closed : ¬(conn.stateEntered .closed).scheduled timer = true :=
  nofun

/-- The timers of the setup run in the two states of the setup at most. -/
theorem setup_of_stateEntered (setup : timer = .connEstab ∨ timer = .synRexmit)
    (running : (conn.stateEntered state).scheduled timer = true) :
    state = .init ∨ state = .synSent ∨ state = .synRcvd := by
  cases state with
  | init => exact .inl rfl
  | synSent => exact .inr (.inl rfl)
  | synRcvd => exact .inr (.inr rfl)
  | closed => cases running
  | _ =>
    have second := scheduled_of_cancelEvent running
    have first := scheduled_of_cancelEvent second.2
    exact absurd setup (not_or.mpr ⟨first.1, second.1⟩)

theorem stateEntered_eq (conn : TCPConnection) (state : TcpState) :
    conn.stateEntered state = { conn with scheduled := (conn.stateEntered state).scheduled } := by
  cases state with
  | _ => rfl

end Entering

/-! ## What the algorithm leaves alone -/

/-- A timer is scheduled that is already scheduled. -/
def Rescheduled : Failure → Prop
  | .alreadyScheduled _ => True
  | _ => False

/-- What has not been acknowledged will be retransmitted. -/
def Pending (conn : TCPConnection) : Prop :=
  conn.snd.snd_una ≠ conn.snd.snd_max → conn.scheduled .rexmit = true

/--
Only the send side and the timers of the algorithm change.  The FIN may be
found to be acknowledged when `acked` holds.
-/
structure Leaves (acked : Prop) (conn next : TCPConnection) : Prop where
  fsm : next.fsm = conn.fsm
  active : next.active = conn.active
  rcv : next.rcv = conn.rcv
  toApp : next.toApp = conn.toApp
  send_fin : next.snd.send_fin = conn.snd.send_fin
  snd_fin_seq : next.snd.snd_fin_seq = conn.snd.snd_fin_seq
  fin_ack_rcvd : next.snd.fin_ack_rcvd = true → conn.snd.fin_ack_rcvd = true ∨ acked
  others :
    ∀ timer, timer ≠ .rexmit → timer ≠ .delayedAck → next.scheduled timer = conn.scheduled timer

/-- The same, and what is pending stays so. -/
structure Transmits (acked : Prop) (conn next : TCPConnection) : Prop where
  leaves : Leaves acked conn next
  pending : conn.Pending → next.Pending

theorem scheduleTimeout_eq {conn : TCPConnection} (idle : conn.scheduled timer = false) :
    conn.scheduleTimeout timer = .ok (conn.setScheduled timer true) := by
  rw [scheduleTimeout, idle]
  rfl

section Transmitting

theorem Leaves.refl (conn : TCPConnection) : Leaves acked conn conn where
  fsm := rfl
  active := rfl
  rcv := rfl
  toApp := rfl
  send_fin := rfl
  snd_fin_seq := rfl
  fin_ack_rcvd := .inl
  others := fun _ _ _ => rfl

theorem Leaves.trans (first : Leaves acked conn middle) (second : Leaves acked middle last) :
    Leaves acked conn last where
  fsm := second.fsm.trans first.fsm
  active := second.active.trans first.active
  rcv := second.rcv.trans first.rcv
  toApp := second.toApp.trans first.toApp
  send_fin := second.send_fin.trans first.send_fin
  snd_fin_seq := second.snd_fin_seq.trans first.snd_fin_seq
  fin_ack_rcvd := fun found => (second.fin_ack_rcvd found).elim first.fin_ack_rcvd .inr
  others := fun timer not_rexmit not_delayed =>
    (second.others timer not_rexmit not_delayed).trans (first.others timer not_rexmit not_delayed)

theorem Leaves.setScheduled (algorithms : timer = .rexmit ∨ timer = .delayedAck) (pending : Bool) :
    Leaves acked conn (conn.setScheduled timer pending) :=
  { Leaves.refl _ with
    others := fun other not_rexmit not_delayed => by
      refine setScheduled_of_ne ?_ _
      rintro rfl
      exact algorithms.elim not_rexmit not_delayed }

theorem Transmits.refl (conn : TCPConnection) : Transmits acked conn conn :=
  ⟨.refl _, id⟩

theorem Transmits.trans (first : Transmits acked conn middle)
    (second : Transmits acked middle last) : Transmits acked conn last :=
  ⟨first.leaves.trans second.leaves, fun waits => second.pending (first.pending waits)⟩

theorem ackSent_transmits : Transmits acked conn conn.ackSent :=
  ⟨.setScheduled (.inr rfl) _, fun waits unacked =>
    (setScheduled_of_ne (by decide) _).trans (waits unacked)⟩

theorem startRexmitTimer_yields (acked : Prop) (idle : conn.scheduled .rexmit = false) :
    Yields Rescheduled (fun next => Leaves acked conn next ∧ next.Pending)
      conn.startRexmitTimer := by
  have fresh : Leaves acked conn { conn with rexmit_count := 0 } := { Leaves.refl _ with }
  exact .of_eq_ok (scheduleTimeout_eq idle)
    ⟨fresh.trans (.setScheduled (.inl rfl) _), fun _ => setScheduled_self ..⟩

theorem dataSent_yields (acked : Prop) :
    Yields Rescheduled (fun next => Leaves acked conn next ∧ next.Pending) conn.dataSent := by
  unfold dataSent
  split_ifs with running
  · exact .ok ⟨.refl _, fun _ => running⟩
  · exact startRexmitTimer_yields _ (Bool.eq_false_of_not_eq_true running)

theorem sendData_yields (acked : Prop) (choices : Choices) :
    Yields Rescheduled (fun result => Transmits acked conn result.2) (conn.sendData choices) := by
  have sends :
      Yields Rescheduled
        (fun result => ∃ snd_nxt snd_max sent,
          result.2 = { conn.snd with snd_nxt, snd_max, sent } ∧
            (result.1 = false → snd_max = conn.snd.snd_max))
        ((conn.snd.sendData choices.fullSegmentsOnly
          choices.congestionWindow).mapError Failure.sending) :=
    .mapError (fun _ => id) fun _ success => SendSide.sendData_frame success
  refine sends.bind ?_
  rintro ⟨some, snd⟩ ⟨snd_nxt, snd_max, sent, rfl, unchanged⟩
  have leaves :
      Leaves acked conn
        { conn with
          snd := { conn.snd with snd_nxt, snd_max, sent } } :=
    { Leaves.refl _ with }
  cases some with
  | false =>
    refine .ok ⟨leaves, fun waits unacked => waits ?_⟩
    rwa [← unchanged rfl]
  | true =>
    refine (dataSent_yields acked).bind ?_
    rintro _ ⟨started, pending⟩
    exact .ok ⟨(leaves.trans ackSent_transmits.leaves).trans started, fun _ => pending⟩

theorem retransmitOneSegment_yields (acked : Prop) :
    Yields Rescheduled (Transmits acked conn) conn.retransmitOneSegment := by
  have sends :
      Yields Rescheduled (fun next => ∃ snd_nxt sent, next = { conn.snd with snd_nxt, sent })
        (conn.snd.retransmitOneSegment.mapError Failure.sending) :=
    .mapError (fun _ => id) fun _ success => SendSide.retransmitOneSegment_frame success
  refine sends.bind ?_
  rintro snd ⟨snd_nxt, sent, rfl⟩
  have transmits : Transmits acked conn { conn with snd := { conn.snd with snd_nxt, sent } } :=
    ⟨{ Leaves.refl _ with }, id⟩
  exact .ok (transmits.trans ackSent_transmits)

theorem retransmitData_yields (acked : Prop) :
    Yields Rescheduled (Transmits acked conn) conn.retransmitData := by
  have sends :
      Yields Rescheduled (fun next => ∃ snd_nxt sent, next = { conn.snd with snd_nxt, sent })
        (conn.snd.retransmitData.mapError Failure.sending) :=
    .mapError (fun _ => id) fun _ success => SendSide.retransmitData_frame success
  refine sends.bind ?_
  rintro _ ⟨_, _, rfl⟩
  exact .ok ⟨{ Leaves.refl _ with }, id⟩

theorem receivedDuplicateAck_yields (acked : Prop) (choices : Choices) :
    Yields Rescheduled (Transmits acked conn) (conn.receivedDuplicateAck choices) := by
  unfold receivedDuplicateAck
  cases choices.duplicateAck with
  | nothing => exact .ok (.refl _)
  | fastRetransmit =>
    refine (retransmitOneSegment_yields acked).bind ?_
    intro middle transmits
    have cancelled := setScheduled_self middle .rexmit false
    refine (startRexmitTimer_yields acked cancelled).mono ?_
    rintro _ ⟨started, pending⟩
    have leaves := transmits.leaves.trans (.setScheduled (.inl rfl) false)
    exact ⟨leaves.trans started, fun _ => pending⟩
  | sendData => exact (sendData_yields _ _).bind fun result transmits => .ok transmits

theorem receivedDataAck_yields (acked : Prop) (choices : Choices) :
    Yields Rescheduled (fun next => Leaves acked conn next ∧ next.Pending)
      (conn.receivedDataAck choices) := by
  have cancelled : Leaves acked conn (conn.cancelEvent .rexmit) := .setScheduled (.inl rfl) _
  have restarted :
      Yields Rescheduled (fun next => Leaves acked conn next ∧ next.Pending)
        (if conn.snd.snd_una = conn.snd.snd_max then .ok (conn.cancelEvent .rexmit)
        else
          (conn.cancelEvent .rexmit).startRexmitTimer) := by
    split_ifs with all
    · exact .ok ⟨cancelled, fun unacked => absurd all unacked⟩
    · refine (startRexmitTimer_yields acked (setScheduled_self ..)).mono ?_
      rintro _ ⟨started, pending⟩
      exact ⟨cancelled.trans started, pending⟩
  refine restarted.bind ?_
  rintro _ ⟨leaves, pending⟩
  refine (sendData_yields acked _).bind ?_
  intro _ transmits
  exact .ok ⟨leaves.trans transmits.leaves, transmits.pending pending⟩

theorem established_yields (acked : Prop) (choices : Choices) (active : Bool) :
    Yields Rescheduled (Transmits acked conn) (conn.established choices active) := by
  unfold established
  split_ifs
  · refine (sendData_yields acked _).bind ?_
    rintro ⟨sent, _⟩ transmits
    cases sent with
    | true => exact .ok transmits
    | false => exact .ok (transmits.trans ackSent_transmits)
  · exact .ok (.refl _)

/-- The segment acknowledges our FIN. -/
def AcksFin (conn : TCPConnection) (tcpseg : TCPSegment) : Prop :=
  conn.snd.send_fin = true ∧ tcpseg.ackNo = conn.snd.snd_fin_seq + 1

theorem acknowledge_leaves {snd : SendSide}
    (acknowledges : SendSide.Acknowledges tcpseg.acknowledgement kind conn.snd snd) :
    Leaves (conn.AcksFin tcpseg) conn { conn with snd } where
  fsm := rfl
  active := rfl
  rcv := rfl
  toApp := rfl
  send_fin := acknowledges.send_fin
  snd_fin_seq := acknowledges.snd_fin_seq
  fin_ack_rcvd := acknowledges.fin_ack_rcvd
  others := fun _ _ _ => rfl

theorem processAckInEstabEtc_yields (tcpseg : TCPSegment) (choices : Choices) :
    Yields Rescheduled
      (fun result => Transmits (conn.AcksFin tcpseg) conn result.2 ∧
        (result.1 = false → result.2.snd.fin_ack_rcvd = conn.snd.fin_ack_rcvd))
      (conn.processAckInEstabEtc tcpseg choices) := by
  have acknowledged :
      Yields Rescheduled
        (fun result => SendSide.Acknowledges tcpseg.acknowledgement result.1 conn.snd result.2)
        ((conn.snd.acknowledge tcpseg.acknowledgement).mapError Failure.sending) :=
    .mapError (fun _ => id) fun _ success => SendSide.acknowledge_frame success
  refine acknowledged.bind ?_
  rintro ⟨kind, snd⟩ acknowledges
  have leaves := acknowledge_leaves acknowledges
  have waits (other : kind ≠ .inWindow) : conn.Pending → { conn with snd }.Pending := by
    intro pending _
    apply pending
    rwa [← acknowledges.snd_una other, ← acknowledges.snd_max]
  cases kind with
  | duplicate =>
    refine (receivedDuplicateAck_yields (conn.AcksFin tcpseg) _).bind ?_
    intro _ transmits
    exact .ok ⟨Transmits.trans ⟨leaves, waits nofun⟩ transmits, nofun⟩
  | old => exact .ok ⟨⟨leaves, waits nofun⟩, nofun⟩
  | inWindow =>
    refine (receivedDataAck_yields (conn.AcksFin tcpseg) _).bind ?_
    rintro next ⟨rest, pending⟩
    have reset :
        Leaves (conn.AcksFin tcpseg) next { next with snd := { next.snd with dupacks := 0 } } :=
      { Leaves.refl _ with }
    exact .ok ⟨⟨(leaves.trans rest).trans reset, fun _ => pending⟩, nofun⟩
  | notYetSent =>
    have answered := Transmits.trans ⟨leaves, waits nofun⟩ ackSent_transmits
    have reset (next : TCPConnection) :
        Transmits (conn.AcksFin tcpseg) next { next with snd := { next.snd with dupacks := 0 } } :=
      ⟨{ Leaves.refl _ with }, id⟩
    exact .ok ⟨answered.trans (reset _), fun _ => acknowledges.unacked rfl⟩

end Transmitting

/-! ## What the setup leaves alone -/

/-- Only the numbers of the SYN and the timers of the setup change. -/
structure SetsUp (conn next : TCPConnection) : Prop where
  fsm : next.fsm = conn.fsm
  active : next.active = conn.active
  rcv : next.rcv = conn.rcv
  toApp : next.toApp = conn.toApp
  fin_ack_rcvd : next.snd.fin_ack_rcvd = conn.snd.fin_ack_rcvd
  others :
    ∀ timer, timer ≠ .connEstab → timer ≠ .synRexmit → next.scheduled timer = conn.scheduled timer

section SettingUp

theorem SetsUp.refl (conn : TCPConnection) : SetsUp conn conn where
  fsm := rfl
  active := rfl
  rcv := rfl
  toApp := rfl
  fin_ack_rcvd := rfl
  others := fun _ _ _ => rfl

theorem SetsUp.trans (first : SetsUp conn middle)
    (second : SetsUp middle last) : SetsUp conn last where
  fsm := second.fsm.trans first.fsm
  active := second.active.trans first.active
  rcv := second.rcv.trans first.rcv
  toApp := second.toApp.trans first.toApp
  fin_ack_rcvd := second.fin_ack_rcvd.trans first.fin_ack_rcvd
  others := fun timer not_connEstab not_synRexmit =>
    (second.others timer not_connEstab not_synRexmit).trans
      (first.others timer not_connEstab not_synRexmit)

theorem SetsUp.setScheduled (setup : timer = .connEstab ∨ timer = .synRexmit) (pending : Bool) :
    SetsUp conn (conn.setScheduled timer pending) :=
  { SetsUp.refl _ with
    others := fun other not_connEstab not_synRexmit => by
      refine setScheduled_of_ne ?_ _
      rintro rfl
      exact setup.elim not_connEstab not_synRexmit }

theorem sendSyn_yields (conn : TCPConnection) :
    Yields Rescheduled (fun next => SetsUp conn next ∧ next.scheduled = conn.scheduled)
      conn.sendSyn := by
  unfold sendSyn
  split_ifs
  · exact .ok ⟨{ SetsUp.refl _ with }, rfl⟩
  · exact .error id

theorem sendSynAck_setsUp (conn : TCPConnection) : SetsUp conn conn.sendSynAck :=
  { SetsUp.refl _ with }

theorem startSynRexmitTimer_yields (conn : TCPConnection) :
    Yields Rescheduled
      (fun next => SetsUp conn next ∧ next.scheduled .connEstab = conn.scheduled .connEstab)
      conn.startSynRexmitTimer := by
  have reset : SetsUp conn { conn with syn_rexmit_count := 0 } := { SetsUp.refl _ with }
  refine .of_eq_ok (scheduleTimeout_eq (setScheduled_self ..)) ⟨?_, ?_⟩
  · exact (reset.trans (.setScheduled (.inr rfl) _)).trans (.setScheduled (.inr rfl) _)
  · exact (setScheduled_of_ne (by decide) _).trans (setScheduled_of_ne (by decide) _)

theorem acceptSynAck_yields (tcpseg : TCPSegment) :
    Yields Rescheduled (SetsUp conn) (conn.acceptSynAck tcpseg) := by
  have discarded :
      Yields Rescheduled (fun _ => True)
        ((conn.snd.sendQueue.discardUpTo tcpseg.ackNo).mapError Failure.sending) :=
    .mapError (fun _ => id) fun _ _ => trivial
  exact discarded.bind fun sendQueue _ => .ok { SetsUp.refl _ with }

theorem startSetup_yields
    {rest : TCPConnection → Except Failure Result} (idle : conn.scheduled .connEstab = false)
    (after : ∀ next, SetsUp conn next → Yields Rescheduled property (rest next)) :
    Yields Rescheduled property
      (do
        let next ← conn.startSynRexmitTimer
        let next ← next.scheduleTimeout .connEstab
        rest next) := by
  refine (startSynRexmitTimer_yields _).bind ?_
  rintro _ ⟨first, same⟩
  rw [scheduleTimeout_eq (same.trans idle)]
  exact after _ (first.trans (.setScheduled (.inl rfl) _))

end SettingUp

/-! ## What the text and the FIN of the peer leave alone -/

/--
Only the receive side, the timer of delayed acknowledgements and what the
application is told change, and the application is not told `closed`.
-/
structure Delivers (conn next : TCPConnection) : Prop where
  fsm : next.fsm = conn.fsm
  active : next.active = conn.active
  snd : next.snd = conn.snd
  others : ∀ timer, timer ≠ .delayedAck → next.scheduled timer = conn.scheduled timer
  closed : next.toApp.count .closed = conn.toApp.count .closed

section Delivering

theorem Delivers.refl (conn : TCPConnection) : Delivers conn conn where
  fsm := rfl
  active := rfl
  snd := rfl
  others := fun _ _ => rfl
  closed := rfl

theorem Delivers.trans (first : Delivers conn middle) (second : Delivers middle last) :
    Delivers conn last where
  fsm := second.fsm.trans first.fsm
  active := second.active.trans first.active
  snd := second.snd.trans first.snd
  others := fun timer other => (second.others timer other).trans (first.others timer other)
  closed := second.closed.trans first.closed

theorem Delivers.receive (conn : TCPConnection) (rcv : ReceiveSide) :
    Delivers conn { conn with rcv } where
  fsm := rfl
  active := rfl
  snd := rfl
  others := fun _ _ => rfl
  closed := rfl

theorem Delivers.delayedAck (conn : TCPConnection) (pending : Bool) :
    Delivers conn (conn.setScheduled .delayedAck pending) where
  fsm := rfl
  active := rfl
  snd := rfl
  others := fun _ other => setScheduled_of_ne other pending
  closed := rfl

theorem Delivers.indicate (conn : TCPConnection) (indication : Indication)
    (other : indication ≠ .closed) : Delivers conn (conn.sendIndicationToApp indication) where
  fsm := rfl
  active := rfl
  snd := rfl
  others := fun _ _ => rfl
  closed := by
    change (conn.toApp ++ [indication]).count .closed = _
    rw [List.count_append, List.count_singleton, if_neg]
    · rfl
    · simpa using other

theorem keepText_delivers (tcpseg : TCPSegment) : Delivers conn (conn.keepText tcpseg) := by
  unfold keepText
  split_ifs
  · exact .receive _ _
  · exact .refl _

theorem receiveSyn_delivers (tcpseg : TCPSegment) : Delivers conn (conn.receiveSyn tcpseg) where
  fsm := rfl
  active := rfl
  snd := rfl
  others := fun _ _ => rfl
  closed := rfl

theorem passUp_yields (fuel : Nat) (conn : TCPConnection) :
    Yields Rescheduled (Delivers conn) (passUp fuel conn) := by
  induction fuel generalizing conn with
  | zero => exact .error id
  | succ _ induction =>
    have extracted :
        Yields Rescheduled (fun _ => True)
          ((conn.rcv.receiveQueue.extractBytesUpTo conn.rcv.rcv_nxt).mapError Failure.receiving) :=
      .mapError (fun _ => id) fun _ _ => trivial
    refine extracted.bind ?_
    rintro ⟨msg, receiveQueue⟩ _
    have taken := Delivers.receive conn { conn.rcv with receiveQueue }
    cases msg with
    | none => exact .ok taken
    | some _ =>
      refine (induction _).mono fun next rest => ?_
      exact (taken.trans (.indicate _ (.data _) nofun)).trans rest

theorem reachStoredFin_delivers : Delivers conn conn.reachStoredFin := by
  unfold reachStoredFin
  split_ifs
  · exact (Delivers.receive _ _).trans (.indicate _ .peerClosed nofun)
  · exact .refl _

theorem processText_yields (tcpseg : TCPSegment) :
    Yields Rescheduled (Delivers conn) (conn.processText tcpseg) := by
  dsimp only [processText]
  split_ifs
  · exact .ok ((Delivers.receive _ _).trans (.delayedAck _ _))
  · refine (passUp_yields _ _).bind fun next rest => .ok ?_
    exact ((Delivers.receive _ _).trans rest).trans reachStoredFin_delivers
  · exact .ok (.refl _)

theorem receiveFin_delivers (tcpseg : TCPSegment) : Delivers conn (conn.receiveFin tcpseg) := by
  dsimp only [receiveFin]
  split_ifs
  · exact (Delivers.receive _ _).trans (.indicate _ .peerClosed nofun)
  · exact .receive _ _

theorem receiveSeqChanged_yields : Yields Rescheduled (Delivers conn) conn.receiveSeqChanged := by
  unfold receiveSeqChanged
  split_ifs with delayed running
  · exact .ok (.refl _)
  · have idle := Bool.eq_false_of_not_eq_true running
    exact .of_eq_ok (scheduleTimeout_eq idle) (.delayedAck _ _)
  · exact .ok (.delayedAck _ _)

end Delivering

end TCPConnection

end OmnetDsi.Tcp.Connection
