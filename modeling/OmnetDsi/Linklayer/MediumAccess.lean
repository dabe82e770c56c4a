import OmnetDsi.Arp.Resolution
import OmnetDsi.Library.Transition

/-!
# The Ethernet MAC

The MAC after autoconfiguration: six transmit states, three receive states and
six timers.  Frames that are received go up or are dropped, and nothing of the
MAC depends on that; PAUSE frames stop the transmitter.

The ledger is the history of the frames that were handed down, put on the
wire, jammed, and removed from the queue.
-/

namespace OmnetDsi.Linklayer.MediumAccess

open OmnetDsi.Arp.Resolution (MACAddress)
open Library.Transition

/-! ## State -/

def MAX_ETHERNET_FRAME : Nat := 1518

def GIGABIT_MIN_FRAME_WITH_EXT : Nat := 512

def GIGABIT_MAX_BURST_BYTES : Nat := 8192

def PREAMBLE_BYTES : Nat := 7

def SFD_BYTES : Nat := 1

def PAUSE_BITTIME : Nat := 512

def MAX_ATTEMPTS : Nat := 16

def BACKOFF_RANGE_LIMIT : Nat := 10

/-- What autoconfiguration and the parameters fix. -/
structure Parameters where
  address : MACAddress
  txQueueLimit : Nat
  duplexMode : Bool
  carrierExtension : Bool
  frameBursting : Bool
  /-- There is an external queue module. -/
  queueModule : Bool
  bitTime : Int
  slotTime : Int
  interFrameGap : Int
  jamDuration : Int
  shortestFrameDuration : Int

inductive TransmitState where
  | TX_IDLE_STATE
  | WAIT_IFG_STATE
  | TRANSMITTING_STATE
  | JAMMING_STATE
  | BACKOFF_STATE
  | PAUSE_STATE
deriving DecidableEq

inductive ReceiveState where
  | RX_IDLE_STATE
  | RECEIVING_STATE
  | RX_COLLISION_STATE
deriving DecidableEq

inductive Timer where
  | endTxMsg
  | endIFGMsg
  | endPauseMsg
  | endJammingMsg
  | endRxMsg
  | endBackoffMsg
deriving DecidableEq

/--
A frame, which is a PAUSE frame when it has a pause time.  The MAC numbers
the frames from above in the order in which they arrive.
-/
structure EtherFrame where
  id : Nat := 0
  dest : MACAddress
  byteLength : Nat
  pauseTime : Option Int := none

/-- What arrives on the cable. -/
inductive Signal where
  | frame (frame : EtherFrame)
  | jam (byteLength : Nat)

/-- A frame that left the queue, and the frame that was last on the wire. -/
structure Removal where
  frame : EtherFrame
  wire : Option Nat
  discarded : Bool

structure Ledger where
  accepted : List EtherFrame := []
  transmitted : List Nat := []
  collided : List Nat := []
  removed : List Removal := []

structure EtherMAC where
  now : Int
  transmitState : TransmitState
  receiveState : ReceiveState
  txQueue : List EtherFrame
  pauseUnitsRequested : Int := 0
  backoffs : Nat := 0
  numConcurrentTransmissions : Int := 0
  frameBeingReceived : Option EtherFrame := none
  framesSentInBurst : Nat := 0
  bytesSentInBurst : Nat := 0
  timers : Timer → Option Int
  /-- Packets asked of the queue module that have not arrived. -/
  requested : Nat
  ledger : Ledger

/-- The errors that stop the simulation. -/
inductive Failure where
  | alreadyScheduled (timer : Timer)
  | localDestination
  | frameTooLong
  | txQueueLimit
  | propagationTime
  | strayJamWhileTransmitting
  | strayJam
  | frameBeingReceived
  | numConcurrentTransmissions
  | notInWaitIFG
  | noFrameToTransmit
  | endOfTransmission
  | frameNotFound
  | notInBackoff
  | backoffBufferEmpty
  | notInJamming
  | notInPause
  | inconsistentState
  | nullPointer

variable (par : Parameters)

namespace EtherMAC

def scheduleAt (mac : EtherMAC) (time : Int) (timer : Timer) : Except Failure EtherMAC :=
  match mac.timers timer with
  | some _ => .error (.alreadyScheduled timer)
  | none => .ok { mac with timers := Function.update mac.timers timer (some time) }

def cancelEvent (mac : EtherMAC) (timer : Timer) : EtherMAC :=
  { mac with timers := Function.update mac.timers timer none }

/-! ## Sending -/

def scheduleEndIFGPeriod (mac : EtherMAC) : Except Failure EtherMAC := do
  let mac ← mac.scheduleAt (mac.now + par.interFrameGap) .endIFGMsg
  .ok { mac with transmitState := .WAIT_IFG_STATE }

def scheduleEndTxPeriod (mac : EtherMAC) (byteLength : Nat) : Except Failure EtherMAC := do
  let mac ← mac.scheduleAt (mac.now + 8 * byteLength * par.bitTime) .endTxMsg
  .ok { mac with transmitState := .TRANSMITTING_STATE }

def scheduleEndPausePeriod (mac : EtherMAC) (pauseUnits : Int) : Except Failure EtherMAC := do
  let pausePeriod := pauseUnits * PAUSE_BITTIME * par.bitTime
  let mac ← mac.scheduleAt (mac.now + pausePeriod) .endPauseMsg
  .ok { mac with transmitState := .PAUSE_STATE }

/-- What goes idle asks the queue module for a packet. -/
def goIdle (mac : EtherMAC) : EtherMAC :=
  { mac with
    transmitState := .TX_IDLE_STATE
    requested := if par.queueModule then mac.requested + 1 else mac.requested }

def beginSendFrames (mac : EtherMAC) : Except Failure EtherMAC :=
  if !mac.txQueue.isEmpty then mac.scheduleEndIFGPeriod par else .ok (mac.goIdle par)

/-- The frame that was put on the wire last. -/
def wire (mac : EtherMAC) : Option Nat :=
  mac.ledger.transmitted.getLast?

def recordCollision (mac : EtherMAC) : EtherMAC :=
  { mac with
    ledger :=
      { mac.ledger with
        collided := mac.ledger.collided ++ mac.wire.toList } }

def sendJamSignal (mac : EtherMAC) : Except Failure EtherMAC := do
  let mac ← mac.recordCollision.scheduleAt (mac.now + par.jamDuration) .endJammingMsg
  .ok { mac with transmitState := .JAMMING_STATE }

/-- The copy of a frame goes out, and counts for the burst. -/
def putOnWire (mac : EtherMAC) (origFrame : EtherFrame) : EtherMAC :=
  let byteLength := origFrame.byteLength + PREAMBLE_BYTES + SFD_BYTES
  { mac with
    bytesSentInBurst := if par.frameBursting then byteLength else mac.bytesSentInBurst
    framesSentInBurst :=
      if par.frameBursting then mac.framesSentInBurst + 1 else mac.framesSentInBurst
    ledger :=
      { mac.ledger with
        transmitted := mac.ledger.transmitted ++ [origFrame.id] } }

/-- A reception that was going on is lost. -/
def collideReception (mac : EtherMAC) : EtherMAC :=
  { mac with
    receiveState := .RX_COLLISION_STATE
    frameBeingReceived :=
      if mac.receiveState = .RECEIVING_STATE then none else mac.frameBeingReceived }

def startFrameTransmission (mac : EtherMAC) : Except Failure EtherMAC :=
  match mac.txQueue with
  | [] => .error .nullPointer
  | origFrame :: _ =>
    let mac := mac.putOnWire par origFrame
    if !par.duplexMode && mac.receiveState != .RX_IDLE_STATE then do
      let mac ← mac.sendJamSignal par
      .ok mac.collideReception
    else mac.scheduleEndTxPeriod par (origFrame.byteLength + PREAMBLE_BYTES + SFD_BYTES)

/-- The front frame with carrier extension, at the start of a burst. -/
def prepareFront (mac : EtherMAC) (frame : EtherFrame) (rest : List EtherFrame) : EtherMAC :=
  let frame :=
    if par.carrierExtension && decide (frame.byteLength < GIGABIT_MIN_FRAME_WITH_EXT) then
      { frame with byteLength := GIGABIT_MIN_FRAME_WITH_EXT }
    else frame
  { mac with
    txQueue := frame :: rest
    framesSentInBurst := if par.frameBursting then 0 else mac.framesSentInBurst
    bytesSentInBurst := if par.frameBursting then 0 else mac.bytesSentInBurst }

def handleEndIFGPeriod (mac : EtherMAC) : Except Failure EtherMAC :=
  if mac.transmitState ≠ .WAIT_IFG_STATE then .error .notInWaitIFG
  else
    match mac.txQueue with
    | [] => .error .noFrameToTransmit
    | frame :: rest => (mac.prepareFront par frame rest).startFrameTransmission par

/-- The front frame leaves the queue. -/
def removeFront (mac : EtherMAC) (frame : EtherFrame) (rest : List EtherFrame)
    (discarded : Bool) : EtherMAC :=
  { mac with
    txQueue := rest
    backoffs := 0
    ledger :=
      { mac.ledger with
        removed := mac.ledger.removed ++
          [{ frame, wire := mac.wire, discarded }] } }

/-- What follows a transmission when no pause is due. -/
def sendNext (mac : EtherMAC) : Except Failure EtherMAC :=
  if par.frameBursting && !mac.txQueue.isEmpty &&
      decide (mac.bytesSentInBurst < GIGABIT_MAX_BURST_BYTES) then
    mac.startFrameTransmission par
  else mac.beginSendFrames par

/-- `checkAndScheduleEndPausePeriod`, and what follows it. -/
def afterTransmission (mac : EtherMAC) : Except Failure EtherMAC :=
  if mac.pauseUnitsRequested > 0 then do
    let mac ← mac.scheduleEndPausePeriod par mac.pauseUnitsRequested
    .ok { mac with pauseUnitsRequested := 0 }
  else mac.sendNext par

def handleEndTxPeriod (mac : EtherMAC) : Except Failure EtherMAC :=
  if mac.transmitState ≠ .TRANSMITTING_STATE ∨
      (par.duplexMode = false ∧ mac.receiveState ≠ .RX_IDLE_STATE) then
    .error .endOfTransmission
  else
    match mac.txQueue with
    | [] => .error .frameNotFound
    | frame :: rest => (mac.removeFront frame rest false).afterTransmission par

def handleEndPausePeriod (mac : EtherMAC) : Except Failure EtherMAC :=
  if mac.transmitState ≠ .PAUSE_STATE then .error .notInPause else mac.beginSendFrames par

/-! ## Collisions -/

/-- The range that the slot number is drawn from. -/
def backoffRange (backoffs : Nat) : Nat :=
  if backoffs ≥ BACKOFF_RANGE_LIMIT then 1024 else 2 ^ backoffs

def handleRetransmission (mac : EtherMAC) (slotNumber : Nat) : Except Failure EtherMAC :=
  if mac.backoffs + 1 > MAX_ATTEMPTS then
    match mac.txQueue with
    | [] => .error .nullPointer
    | frame :: rest => .ok { mac.removeFront frame rest true with transmitState := .TX_IDLE_STATE }
  else do
    let mac ← mac.scheduleAt (mac.now + slotNumber * par.slotTime) .endBackoffMsg
    .ok { mac with backoffs := mac.backoffs + 1, transmitState := .BACKOFF_STATE }

def handleEndJammingPeriod (mac : EtherMAC) (slotNumber : Nat) : Except Failure EtherMAC :=
  if mac.transmitState ≠ .JAMMING_STATE then .error .notInJamming
  else mac.handleRetransmission par slotNumber

def handleEndBackoffPeriod (mac : EtherMAC) : Except Failure EtherMAC :=
  if mac.transmitState ≠ .BACKOFF_STATE then .error .notInBackoff
  else if mac.txQueue.isEmpty then .error .backoffBufferEmpty
  else if mac.receiveState = .RX_IDLE_STATE then mac.scheduleEndIFGPeriod par
  else .ok { mac with transmitState := .TX_IDLE_STATE }

/-! ## Receiving -/

def processPauseCommand (mac : EtherMAC) (pauseUnits : Int) : Except Failure EtherMAC :=
  if mac.transmitState = .TX_IDLE_STATE then
    if pauseUnits > 0 then mac.scheduleEndPausePeriod par pauseUnits else .ok mac
  else if mac.transmitState = .PAUSE_STATE then
    let mac := mac.cancelEvent .endPauseMsg
    if pauseUnits > 0 then mac.scheduleEndPausePeriod par pauseUnits else .ok mac
  else .ok { mac with pauseUnitsRequested := pauseUnits }

/-- A data frame goes up, or is dropped. -/
def frameReceptionComplete (mac : EtherMAC) (frame : EtherFrame) : Except Failure EtherMAC :=
  match frame.pauseTime with
  | some pauseUnits => mac.processPauseCommand par pauseUnits
  | none => .ok mac

def scheduleEndRxPeriod (mac : EtherMAC) (byteLength : Nat) : Except Failure EtherMAC := do
  let mac ← mac.scheduleAt (mac.now + 8 * byteLength * par.bitTime) .endRxMsg
  .ok { mac with receiveState := .RECEIVING_STATE }

/-- The end of a reception, which lets a waiting frame go. -/
def receiverIdle (mac : EtherMAC) : Except Failure EtherMAC :=
  let mac := { mac with receiveState := .RX_IDLE_STATE, numConcurrentTransmissions := 0 }
  if mac.transmitState = .TX_IDLE_STATE ∧ mac.txQueue ≠ [] then mac.scheduleEndIFGPeriod par
  else .ok mac

/-- The frame that is complete is taken away. -/
def takeReceived (mac : EtherMAC) : Except Failure EtherMAC :=
  match mac.frameBeingReceived with
  | none => .error .nullPointer
  | some frame => { mac with frameBeingReceived := none }.frameReceptionComplete par frame

def handleEndRxPeriod (mac : EtherMAC) : Except Failure EtherMAC :=
  if mac.receiveState = .RECEIVING_STATE then do
    let mac ← mac.takeReceived par
    mac.receiverIdle par
  else mac.receiverIdle par

/-- A frame arrives while the MAC transmits in half duplex. -/
def interruptTransmission (mac : EtherMAC) (endRxTime : Int) : Except Failure EtherMAC := do
  let mac ← (mac.cancelEvent .endTxMsg).sendJamSignal par
  let mac :=
    { mac with
      receiveState := .RX_COLLISION_STATE
      numConcurrentTransmissions := mac.numConcurrentTransmissions + 1 }
  mac.scheduleAt (max endRxTime (mac.now + par.jamDuration)) .endRxMsg

def beginReception (mac : EtherMAC) (frame : EtherFrame) : Except Failure EtherMAC :=
  { mac with frameBeingReceived := some frame }.scheduleEndRxPeriod par frame.byteLength

/-- A frame that follows right on the one being received. -/
def backToBack (mac : EtherMAC) (frame : EtherFrame) : Except Failure EtherMAC := do
  let mac ← (mac.cancelEvent .endRxMsg).takeReceived par
  mac.beginReception par frame

/-- The timer of the reception is set again. -/
def rescheduleEndRx (mac : EtherMAC) (endRxTime : Int) : Except Failure EtherMAC :=
  (mac.cancelEvent .endRxMsg).scheduleAt endRxTime .endRxMsg

def overlappingJam (mac : EtherMAC) (endRxTime : Int) : Except Failure EtherMAC :=
  if mac.numConcurrentTransmissions ≤ 0 then .error .numConcurrentTransmissions
  else
    let mac := { mac with numConcurrentTransmissions := mac.numConcurrentTransmissions - 1 }
    if mac.numConcurrentTransmissions = 0 then do
      let mac ← mac.rescheduleEndRx endRxTime
      .ok mac.collideReception
    else .ok mac.collideReception

def overlappingFrame (mac : EtherMAC) (endRxTime : Int) : Except Failure EtherMAC :=
  match mac.timers .endRxMsg with
  | none => .error .nullPointer
  | some arrivalTime =>
    let mac := { mac with numConcurrentTransmissions := mac.numConcurrentTransmissions + 1 }
    if arrivalTime < endRxTime then do
      let mac ← mac.rescheduleEndRx endRxTime
      .ok mac.collideReception
    else .ok mac.collideReception

/-- The reception ends within a bit time, or is over already. -/
def endsNow (mac : EtherMAC) : Bool :=
  (mac.timers .endRxMsg).any fun arrivalTime => arrivalTime - mac.now < par.bitTime

/-- A signal that arrives while something is received. -/
def overlap (mac : EtherMAC) (endRxTime : Int) : Signal → Except Failure EtherMAC
  | .jam _ => mac.overlappingJam endRxTime
  | .frame frame =>
    if mac.receiveState = .RECEIVING_STATE ∧ mac.endsNow par then mac.backToBack par frame
    else mac.overlappingFrame endRxTime

def bitLength : Signal → Nat
  | .frame frame => 8 * frame.byteLength
  | .jam byteLength => 8 * byteLength

/-- A signal that arrives while the receiver is idle. -/
def firstSignal (mac : EtherMAC) : Signal → Except Failure EtherMAC
  | .jam _ => .error .strayJam
  | .frame frame =>
    if mac.frameBeingReceived.isSome then .error .frameBeingReceived
    else
      { mac with
        numConcurrentTransmissions := mac.numConcurrentTransmissions + 1 }.beginReception par frame

/-- A signal that arrives while the MAC transmits in half duplex. -/
def interrupt (mac : EtherMAC) (endRxTime : Int) : Signal → Except Failure EtherMAC
  | .jam _ => .error .strayJamWhileTransmitting
  | .frame _ => mac.interruptTransmission par endRxTime

def processMsgFromNetwork (mac : EtherMAC) (signal : Signal)
    (sendingTime : Int) : Except Failure EtherMAC :=
  if par.duplexMode = false ∧ mac.now - sendingTime ≥ par.shortestFrameDuration then
    .error .propagationTime
  else
    let endRxTime := mac.now + bitLength signal * par.bitTime
    if par.duplexMode = false ∧ mac.transmitState = .TRANSMITTING_STATE then
      mac.interrupt par endRxTime signal
    else if mac.receiveState = .RX_IDLE_STATE then mac.firstSignal par signal
    else mac.overlap par endRxTime signal

/-! ## The upper layer -/

/-- A PAUSE frame goes before all others. -/
def insertFrame (txQueue : List EtherFrame) (frame : EtherFrame) : List EtherFrame :=
  if frame.pauseTime.isSome then frame :: txQueue else txQueue ++ [frame]

/-- The frame is in the queue; from the queue module it was asked for. -/
def acceptFrame (mac : EtherMAC) (frame : EtherFrame) : EtherMAC :=
  let frame := { frame with id := mac.ledger.accepted.length }
  { mac with
    txQueue := insertFrame mac.txQueue frame
    requested := if par.queueModule then mac.requested - 1 else mac.requested
    ledger :=
      { mac.ledger with accepted := mac.ledger.accepted ++ [frame] } }

def processFrameFromUpperLayer (mac : EtherMAC) (frame : EtherFrame) : Except Failure EtherMAC :=
  if frame.dest = par.address then .error .localDestination
  else if frame.byteLength > MAX_ETHERNET_FRAME then .error .frameTooLong
  else if frame.pauseTime = none ∧ par.txQueueLimit ≠ 0 ∧ mac.txQueue.length > par.txQueueLimit then
    .error .txQueueLimit
  else
    let mac := mac.acceptFrame par frame
    if (par.duplexMode || mac.receiveState == .RX_IDLE_STATE) &&
        mac.transmitState == .TX_IDLE_STATE then
      mac.scheduleEndIFGPeriod par
    else .ok mac

end EtherMAC

/-! ## Runs -/

inductive Message where
  | upperLayerIn (frame : EtherFrame)
  | phys (signal : Signal) (sendingTime : Int)
  | ENDIFG
  | ENDTRANSMISSION
  | ENDRECEPTION
  | ENDBACKOFF
  /-- With the number that is drawn for the backoff. -/
  | ENDJAMMING (slotNumber : Nat)
  | ENDPAUSE

/-- A message and the time it arrives. -/
structure Event where
  time : Int
  msg : Message

/-- The timer that a self-message is. -/
def Message.timer : Message → Option Timer
  | .upperLayerIn _ => none
  | .phys _ _ => none
  | .ENDIFG => some .endIFGMsg
  | .ENDTRANSMISSION => some .endTxMsg
  | .ENDRECEPTION => some .endRxMsg
  | .ENDBACKOFF => some .endBackoffMsg
  | .ENDJAMMING _ => some .endJammingMsg
  | .ENDPAUSE => some .endPauseMsg

/-- The time has come, and a timer that has expired is not scheduled. -/
def EtherMAC.arrive (mac : EtherMAC) (event : Event) : EtherMAC :=
  match event.msg.timer with
  | some timer => { mac.cancelEvent timer with now := event.time }
  | none => { mac with now := event.time }

def dispatch (mac : EtherMAC) : Message → Except Failure EtherMAC
  | .upperLayerIn frame => mac.processFrameFromUpperLayer par frame
  | .phys signal sendingTime => mac.processMsgFromNetwork par signal sendingTime
  | .ENDIFG => mac.handleEndIFGPeriod par
  | .ENDTRANSMISSION => mac.handleEndTxPeriod par
  | .ENDRECEPTION => mac.handleEndRxPeriod par
  | .ENDBACKOFF => mac.handleEndBackoffPeriod par
  | .ENDJAMMING slotNumber => mac.handleEndJammingPeriod par slotNumber
  | .ENDPAUSE => mac.handleEndPausePeriod par

def handleMessage (mac : EtherMAC) (event : Event) : Except Failure EtherMAC :=
  if par.duplexMode = false ∧ mac.transmitState = .TRANSMITTING_STATE ∧
      mac.receiveState ≠ .RX_IDLE_STATE then
    .error .inconsistentState
  else dispatch par (mac.arrive event) event.msg

/-- What has to be true of the message besides its time. -/
def Sent (mac : EtherMAC) : Message → Prop
  | .upperLayerIn _ => par.queueModule = true → 0 < mac.requested
  | .ENDJAMMING slotNumber => slotNumber < EtherMAC.backoffRange (mac.backoffs + 1)
  | _ => True

/--
No scheduled timer is passed over, a self-message arrives when its timer is
due, and the queue module sends what it was asked for.
-/
structure Enabled (mac : EtherMAC) (event : Event) : Prop where
  time : mac.now ≤ event.time
  due : ∀ timer arrivalTime, mac.timers timer = some arrivalTime → event.time ≤ arrivalTime
  timer : ∀ timer, event.msg.timer = some timer → mac.timers timer = some event.time
  sent : Sent par mac event.msg

def Step (mac : EtherMAC) (event : Event) (next : EtherMAC) : Prop :=
  Enabled par mac event ∧ handleMessage par mac event = .ok next

/-- Autoconfiguration is over, with some frames that arrived meanwhile. -/
inductive Start : EtherMAC → Prop where
  | idle (now : Int) :
      Start
        { now
          transmitState := .TX_IDLE_STATE
          receiveState := .RX_IDLE_STATE
          txQueue := []
          timers := fun _ => none
          requested := if par.queueModule then 1 else 0
          ledger := {} }
  | waiting (now : Int) {queued : List EtherFrame} (some : queued ≠ [])
      (numbered : queued.map EtherFrame.id = List.range queued.length) (requested : Nat) :
      Start
        { now
          transmitState := .WAIT_IFG_STATE
          receiveState := .RX_IDLE_STATE
          txQueue := queued
          timers := Function.update (fun _ => none) .endIFGMsg
            (Option.some (now + par.interFrameGap))
          requested
          ledger := { accepted := queued } }

instance decidableSent (mac : EtherMAC) : (msg : Message) → Decidable (Sent par mac msg)
  | .upperLayerIn _ => inferInstanceAs (Decidable (par.queueModule = true → 0 < mac.requested))
  | .ENDJAMMING slotNumber =>
    inferInstanceAs (Decidable (slotNumber < EtherMAC.backoffRange (mac.backoffs + 1)))
  | .phys _ _ => inferInstanceAs (Decidable True)
  | .ENDIFG => inferInstanceAs (Decidable True)
  | .ENDTRANSMISSION => inferInstanceAs (Decidable True)
  | .ENDRECEPTION => inferInstanceAs (Decidable True)
  | .ENDBACKOFF => inferInstanceAs (Decidable True)
  | .ENDPAUSE => inferInstanceAs (Decidable True)

/-- `Enabled`, in a form that can be evaluated. -/
def enabled (mac : EtherMAC) (event : Event) : Bool :=
  decide (mac.now ≤ event.time) &&
    [Timer.endTxMsg, .endIFGMsg, .endPauseMsg, .endJammingMsg, .endRxMsg,
      .endBackoffMsg].all (fun timer => (mac.timers timer).all (event.time ≤ ·)) &&
    event.msg.timer.all (fun timer => mac.timers timer == some event.time) &&
    decide (Sent par mac event.msg)

theorem enabled_iff : enabled par mac event = true ↔ Enabled par mac event := by
  rw [enabled, Bool.and_eq_true, Bool.and_eq_true, Bool.and_eq_true, decide_eq_true_iff,
    decide_eq_true_iff, Option.all_eq_true, List.all_eq_true]
  simp only [Option.all_eq_true, decide_eq_true_eq, beq_iff_eq]
  constructor
  · rintro ⟨⟨⟨time, due⟩, timer⟩, sent⟩
    refine ⟨time, fun timer arrivalTime => due _ ?_ _, timer, sent⟩
    cases timer <;> decide
  · rintro ⟨time, due, timer, sent⟩
    exact ⟨⟨⟨time, fun timer _ arrivalTime => due _ _⟩, timer⟩, sent⟩

/-- The state after some events, when each of them can happen. -/
def replay : EtherMAC → List Event → Option EtherMAC
  | mac, [] => some mac
  | mac, event :: rest =>
    if enabled par mac event then
      match handleMessage par mac event with
      | .ok next => replay next rest
      | .error _ => none
    else none

theorem run_of_replay
    (replayed : replay par first events = some last) : Run (Step par) first events last := by
  induction events generalizing first with
  | nil =>
    cases replayed
    exact .idle _
  | cons _ _ induction =>
    unfold replay at replayed
    split at replayed
    case isTrue admitted =>
      split at replayed
      case h_1 next handled =>
        exact .next ⟨(enabled_iff _).mp admitted, handled⟩ (induction replayed)
      case h_2 => cases replayed
    case isFalse => cases replayed

theorem step_deterministic : Deterministic (Step par) := by
  rintro _ _ _ _ ⟨_, one⟩ ⟨_, other⟩
  rw [one] at other
  cases other
  rfl

/-! ## A MAC at rest -/

def cable : Parameters where
  address := ⟨1⟩
  txQueueLimit := 0
  duplexMode := true
  carrierExtension := false
  frameBursting := false
  queueModule := false
  bitTime := 1
  slotTime := 512
  interFrameGap := 96
  jamDuration := 64
  shortestFrameDuration := 576

def atRest : EtherMAC where
  now := 0
  transmitState := .TX_IDLE_STATE
  receiveState := .RX_IDLE_STATE
  txQueue := []
  timers := fun _ => none
  requested := 0
  ledger := {}

theorem atRest_start : Start cable atRest := .idle 0

end OmnetDsi.Linklayer.MediumAccess
