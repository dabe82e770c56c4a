import OmnetDsi.Sctp.ReceiveStreams

/-!
# The receive buffer of an SCTP association

`queuedRcvBytes` counts the bytes that the receive streams hold.  It is
adjusted where chunks arrive, move between queues, are pushed to the
application or thrown away to make room.

An arriving chunk counts with the length of its message, but the queues count
`len`, which has 16 bits for a number of bits.  `Admits` says when the two
agree and the chunk is stored if it is counted.
-/

namespace OmnetDsi.Sctp.ReceiveBuffer

open BitVec (ofNat ofNat_add toNat_ofNat toNat_setWidth toNat_sub)
open Library.ShiftedArrays Library.Transition Sctp.GapLists Sctp.ReceiveStreams SCTPQueue

/-! ## Chunks and state -/

/-- A DATA chunk; the bit length and `dataLen` are those of its message. -/
structure SCTPDataChunk where
  tsn : Tsn
  sid : BitVec 16
  ssn : BitVec 16
  uBit : Bool
  dataLen : BitVec 32
  bitLength : Nat
  userData : Nat

def SCTP_DATA_CHUNK_LENGTH : Nat := 16

def SCTP_SACK_CHUNK_LENGTH : Nat := 16

/-- The bit length of the chunk with its message. -/
def SCTPDataChunk.getBitLength (dataChunk : SCTPDataChunk) : Nat :=
  SCTP_DATA_CHUNK_LENGTH * 8 + dataChunk.bitLength

def SCTPDataChunk.payloadLength (dataChunk : SCTPDataChunk) : BitVec 32 :=
  ofNat 32 (dataChunk.getBitLength / 8) - ofNat 32 SCTP_DATA_CHUNK_LENGTH

def makeVarFromMsg (dataChunk : SCTPDataChunk) : SCTPDataVariables where
  ordered := !dataChunk.uBit
  len := (dataChunk.dataLen * 8).setWidth 16
  tsn := dataChunk.tsn
  sid := dataChunk.sid
  ssn := dataChunk.ssn
  userData := dataChunk.userData

inductive SCTPEventCode where
  | IGNORE
  | DUP_RECEIVED
  | SEND
  | DELIVERED

/-- What an association receives with. -/
structure SCTPAssociation where
  gaps : SCTPStateVariables
  localRwnd : BitVec 64
  queuedRcvBytes : BitVec 64
  highestTsnStored : Tsn
  lastTsnAck : Tsn
  messagesToPush : BitVec 32
  pushMessagesLeft : Int
  nextRSid : Nat
  swsLimit : BitVec 32
  swsAvoidanceInvoked : Bool
  assocPmtu : BitVec 32
  pmtu : BitVec 32
  receiveStreams : List SCTPReceiveStream

namespace SCTPAssociation

def create (initPeerTsn : Tsn) (localRwnd : BitVec 64)
    (messagesToPush swsLimit assocPmtu pmtu : BitVec 32)
    (inboundStreams : Nat) : SCTPAssociation where
  gaps := .create initPeerTsn
  localRwnd
  queuedRcvBytes := 0
  highestTsnStored := 0
  lastTsnAck := 0
  messagesToPush
  pushMessagesLeft := 0
  nextRSid := 0
  swsLimit
  swsAvoidanceInvoked := false
  assocPmtu
  pmtu
  receiveStreams := List.replicate inboundStreams {}

/-- `(int32)(localRwnd - queuedRcvBytes)` -/
def window (assoc : SCTPAssociation) : Int :=
  ((assoc.localRwnd - assoc.queuedRcvBytes).setWidth 32).toInt

def getQueuedBytes (assoc : SCTPAssociation) : BitVec 32 :=
  assoc.receiveStreams.foldl
    (fun qb stream =>
      qb + getNumBytes stream.orderedQ + getNumBytes stream.unorderedQ +
        getNumBytes stream.deliveryQ)
    0

/-! ## SACKs -/

/-- How many duplicates fit in a SACK. -/
def reportedDuplicates (assoc : SCTPAssociation) : BitVec 32 :=
  let numGaps := ofNat 32 assoc.gaps.numGaps
  let numDups := ofNat 32 assoc.gaps.dupList.length
  let chunkLength := ofNat 32 SCTP_SACK_CHUNK_LENGTH
  let sackLength := (chunkLength + numGaps * 4 + numDups * 4).setWidth 16
  if sackLength.setWidth 32 > assoc.pmtu - 32 then
    if chunkLength + numGaps * 4 > assoc.pmtu - 32 then 0
    else (assoc.pmtu - 32 - chunkLength - numGaps * 4) / 4
  else numDups

/-- The advertised window. -/
def arwnd (assoc : SCTPAssociation) : BitVec 32 :=
  let free := assoc.localRwnd - assoc.queuedRcvBytes
  if assoc.window ≤ 0 then 0
  else if free < assoc.swsLimit.setWidth 64 ∨ assoc.swsAvoidanceInvoked then 1
  else free.setWidth 32

/-- What making a SACK leaves behind. -/
def createSack (assoc : SCTPAssociation) : SCTPAssociation :=
  let free := assoc.localRwnd - assoc.queuedRcvBytes
  let avoided :=
    (assoc.window ≤ 0 ∨ free < assoc.swsLimit.setWidth 64 ∨ assoc.swsAvoidanceInvoked) ∧
      assoc.swsLimit > 0
  { assoc with
    swsAvoidanceInvoked := assoc.swsAvoidanceInvoked || avoided
    gaps :=
      if assoc.reportedDuplicates > 0 then { assoc.gaps with dupList := [] } else assoc.gaps }

/-! ## Gap lists -/

/-- A gap loses a TSN, or it is split. -/
def shrinkGap (gaps : SCTPStateVariables) (removedTsn : Tsn)
    (numgaps i : Nat) : SCTPStateVariables :=
  if gaps.gapStopList i = removedTsn then
    { gaps with gapStopList := Function.update gaps.gapStopList i (gaps.gapStopList i - 1) }
  else if gaps.gapStartList i = removedTsn then
    { gaps with gapStartList := Function.update gaps.gapStartList i (gaps.gapStartList i + 1) }
  else
    { gaps with
      gapStopList := Function.update (shiftUp gaps.gapStopList i numgaps) i (removedTsn - 1)
      gapStartList := Function.update (shiftUp gaps.gapStartList i numgaps) (i + 1) (removedTsn + 1)
      numGaps := gaps.numGaps + 1 }

/-- A gap of one TSN is removed. -/
def dropGap (gaps : SCTPStateVariables) (numgaps i : Nat) : SCTPStateVariables :=
  { gaps with
    gapStopList := Function.update (shiftDown gaps.gapStopList (numgaps - i) i) (numgaps - 1) 0
    gapStartList := Function.update (shiftDown gaps.gapStartList (numgaps - i) i) (numgaps - 1) 0
    numGaps := gaps.numGaps - 1 }

/-- The loop from the last gap down, with `lastTsnAck`. -/
def removeFromGaps (removedTsn : Tsn) (numgaps : Nat) :
    Nat → SCTPStateVariables × Tsn → SCTPStateVariables × Tsn
  | 0, current => current
  | i + 1, (gaps, lastTsnAck) =>
    removeFromGaps removedTsn numgaps i
      (if tsnBetween (gaps.gapStartList i) removedTsn (gaps.gapStopList i) then
        let gapsize := gaps.gapStopList i - gaps.gapStartList i + 1
        if gapsize.toInt > 1 then (shrinkGap gaps removedTsn numgaps i, lastTsnAck)
        else
          let dropped := dropGap gaps numgaps i
          (dropped,
            if dropped.numGaps = 0 ∧ removedTsn = lastTsnAck + 1 then removedTsn else lastTsnAck)
      else (gaps, lastTsnAck))

def removeFromGapList (assoc : SCTPAssociation) (removedTsn : Tsn) : SCTPAssociation :=
  let removed :=
    removeFromGaps removedTsn assoc.gaps.numGaps assoc.gaps.numGaps (assoc.gaps, assoc.lastTsnAck)
  { assoc with
    gaps :=
      { removed.1 with
        highestTsnReceived :=
          if removed.1.numGaps > 0 then removed.1.gapStopList (removed.1.numGaps - 1)
          else removed.1.cTsnAck }
    lastTsnAck := removed.2 }

/-- With a full window only the cumulative TSN may be advanced. -/
def updateGapList (assoc : SCTPAssociation) (receivedTsn : Tsn) : SCTPAssociation × Bool :=
  if assoc.window ≤ 0 ∧ receivedTsn ≠ assoc.gaps.cTsnAck + 1 then (assoc, false)
  else
    ({ assoc with
      highestTsnStored :=
        if tsnGt receivedTsn assoc.highestTsnStored then receivedTsn else assoc.highestTsnStored
      gaps := assoc.gaps.updateGapList receivedTsn }, true)

/-! ## Making room -/

/-- `getExpectedStreamSeqNum` is converted to an `uint16`. -/
def ssnGt (ssn1 ssn2 : BitVec 16) : Bool :=
  0 < (ssn1 - ssn2).toInt

/-- The chunk with the TSN in the delivery queue, and the stream without. -/
def throwDelivered (high : Tsn) (stream : SCTPReceiveStream) :
    Option (SCTPDataVariables × SCTPReceiveStream) :=
  (getVar stream.deliveryQ high).map fun datVar =>
    (datVar, { stream with deliveryQ := (deleteMsg stream.deliveryQ high).1 })

/-- The chunk with the TSN, and the stream without it. -/
def throwAway (uBit : Bool) (high : Tsn) (stream : SCTPReceiveStream) :
    Option (SCTPDataVariables × SCTPReceiveStream) :=
  if uBit then
    match getVar stream.unorderedQ high with
    | some datVar =>
      some (datVar, { stream with unorderedQ := (deleteMsg stream.unorderedQ high).1 })
    | none => throwDelivered high stream
  else
    match getVar stream.orderedQ high with
    | some datVar =>
      some (datVar, { stream with orderedQ := (deleteMsg stream.orderedQ high).1 })
    | none => throwDelivered high stream

/-- A discarded chunk is expected again. -/
def expectAgain (stream : SCTPReceiveStream) (datVar : SCTPDataVariables) : SCTPReceiveStream :=
  if ssnGt (BitVec.ofInt 16 stream.expectedStreamSeqNum) datVar.ssn then
    { stream with expectedStreamSeqNum := datVar.ssn.toNat }
  else stream

/-- The first stream that has the chunk, and the streams without it. -/
def findChunk (uBit : Bool) (high : Tsn) :
    List SCTPReceiveStream → Option (SCTPDataVariables × List SCTPReceiveStream)
  | [] => none
  | stream :: rest =>
    match throwAway uBit high stream with
    | some (datVar, without) => some (datVar, expectAgain without datVar :: rest)
    | none => (findChunk uBit high rest).map fun result => (result.1, stream :: result.2)

/--
The chunk with the TSN `high` is thrown away.  Its removal from the gap list
sets `highestTsnReceived` whatever it was.
-/
def discarded (assoc : SCTPAssociation) (tsn high : Tsn)
    (datVar : SCTPDataVariables) (without : List SCTPReceiveStream) : SCTPAssociation :=
  let fewer :=
    { assoc with
      receiveStreams := without
      queuedRcvBytes := assoc.queuedRcvBytes - ofNat 64 datVar.bytes }
  let removed := fewer.removeFromGapList high
  { removed with
    gaps :=
      { removed.gaps with
        highestTsnReceived :=
          if tsn > removed.gaps.highestTsnReceived then tsn else removed.gaps.highestTsnReceived } }

/-- The round through the streams, and the chunk that it throws away. -/
def throwHigh (assoc : SCTPAssociation) (tsn high : Tsn) (uBit : Bool) :
    SCTPAssociation × Option SCTPDataVariables :=
  match findChunk uBit high assoc.receiveStreams with
  | some (datVar, without) => (assoc.discarded tsn high datVar without, some datVar)
  | none => (assoc, none)

/--
The loop of `makeRoomForTsn`.  It may run for ever where no TSN is below the
one that arrived; then no result has enough steps.
-/
def makeRoomFrom (tsn : Tsn) (length : BitVec 32) (uBit : Bool) :
    Nat → Tsn → BitVec 32 → SCTPAssociation → Option (SCTPAssociation × Bool)
  | 0, _, _, _ => none
  | steps + 1, high, sum, assoc =>
    if sum < length ∧ assoc.gaps.highestTsnReceived > assoc.lastTsnAck then
      if assoc.receiveStreams ≠ [] ∧ tsn > high then some (assoc, false)
      else
        let thrown := assoc.throwHigh tsn high uBit
        let more :=
          match thrown.2 with
          | some datVar => sum + datVar.len.setWidth 32
          | none => sum
        let lower := if thrown.2.isSome then high - 1 else high
        let lowest := if more = sum then lower - 1 else lower
        let stored := { thrown.1 with highestTsnStored := lowest }
        if tsn > stored.gaps.highestTsnReceived then some (stored, false)
        else makeRoomFrom tsn length uBit steps lowest more stored
    else some (assoc, true)

def makeRoomForTsn (steps : Nat) (assoc : SCTPAssociation) (tsn : Tsn)
    (length : BitVec 32) (uBit : Bool) : Option (SCTPAssociation × Bool) :=
  makeRoomFrom tsn length uBit steps assoc.highestTsnStored 0 assoc

/-! ## Arrivals -/

/-- The stream with the number, and the counter, after its loop. -/
def putInDeliveryQ (assoc : SCTPAssociation) (sid : Nat) : SCTPAssociation :=
  match assoc.receiveStreams[sid]? with
  | none => assoc
  | some stream =>
    let moved := stream.putInDeliveryQ assoc.queuedRcvBytes
    { assoc with receiveStreams := assoc.receiveStreams.set sid moved.1, queuedRcvBytes := moved.2 }

/-- The stream that a chunk was given to. -/
def storeIn (assoc : SCTPAssociation) (sid : Nat) (stream : SCTPReceiveStream) : SCTPAssociation :=
  { assoc with
    receiveStreams := assoc.receiveStreams.set sid stream
    gaps := { assoc.gaps with newChunkReceived := false } }

def count (assoc : SCTPAssociation) (payloadLength : BitVec 32) : SCTPAssociation :=
  { assoc with queuedRcvBytes := assoc.queuedRcvBytes + payloadLength.setWidth 64 }

/-- A new chunk is given to its stream; there has to be one. -/
def takeIn (assoc : SCTPAssociation) (dataChunk : SCTPDataChunk) :
    Option (SCTPAssociation × SCTPEventCode) :=
  let sid := dataChunk.sid.toNat
  match assoc.receiveStreams[sid]? with
  | none => none
  | some stream =>
    let enqueued := stream.enqueueNewDataChunk (makeVarFromMsg dataChunk)
    let stored := assoc.storeIn sid enqueued.1
    if enqueued.2 > 0 then
      some ((stored.count dataChunk.payloadLength).putInDeliveryQ sid, .DELIVERED)
    else some (stored, .SEND)

/-- A new highest TSN. -/
def newHighest (assoc : SCTPAssociation) (tsn : Tsn) : SCTPAssociation × Bool :=
  let higher :=
    { assoc with highestTsnStored := tsn, gaps := { assoc.gaps with highestTsnReceived := tsn } }
  let updated :=
    if tsn = assoc.gaps.initPeerTsn then
      ({ higher with gaps := { higher.gaps with cTsnAck := tsn } }, false)
    else higher.updateGapList tsn
  ({ updated.1 with gaps := { updated.1.gaps with newChunkReceived := true } }, updated.2)

/-- The cumulative TSN is advanced when the gap list was updated. -/
def advanceCtsna (updated : SCTPAssociation × Bool) : SCTPAssociation :=
  if updated.2 then { updated.1 with gaps := updated.1.gaps.advanceCtsna } else updated.1

/-- What follows the update of the gap list. -/
def finish (updated : SCTPAssociation × Bool) (dataChunk : SCTPDataChunk) :
    Option (SCTPAssociation × SCTPEventCode) :=
  let advanced := advanceCtsna updated
  if advanced.gaps.newChunkReceived then advanced.takeIn dataChunk else some (advanced, .SEND)

def addDuplicate (assoc : SCTPAssociation) (tsn : Tsn) : SCTPAssociation :=
  { assoc with gaps := assoc.gaps.addDuplicate tsn }

/-- The part of `processDataArrived` after the window was looked at. -/
def classify (assoc : SCTPAssociation) (dataChunk : SCTPDataChunk) :
    Option (SCTPAssociation × SCTPEventCode) :=
  if tsnGt dataChunk.tsn assoc.gaps.highestTsnReceived then
    finish (assoc.newHighest dataChunk.tsn) dataChunk
  else if assoc.gaps.tsnIsDuplicate dataChunk.tsn then
    some (assoc.addDuplicate dataChunk.tsn, .IGNORE)
  else finish (assoc.updateGapList dataChunk.tsn) dataChunk

def processDataArrived (steps : Nat) (assoc : SCTPAssociation)
    (dataChunk : SCTPDataChunk) : Option (SCTPAssociation × SCTPEventCode) :=
  let tsn := dataChunk.tsn
  let received := { assoc with gaps := assoc.gaps.receive }
  if received.gaps.stopReceiving then some (received, .IGNORE)
  else if tsnLe tsn received.gaps.cTsnAck then some (received.addDuplicate tsn, .DUP_RECEIVED)
  else if received.window ≤ 0 then
    if tsnGt tsn received.gaps.highestTsnReceived then some (received, .IGNORE)
    else if !received.gaps.tsnIsDuplicate tsn && tsn < received.highestTsnStored then
      match received.makeRoomForTsn steps tsn
          (ofNat 32 (dataChunk.getBitLength - SCTP_DATA_CHUNK_LENGTH * 8)) dataChunk.uBit with
      | none => none
      | some (room, true) => room.classify dataChunk
      | some (room, false) => some (room, .IGNORE)
    else received.classify dataChunk
  else received.classify dataChunk

/-! ## Pushing to the application -/

/-- A SACK is sent when the window has opened by one MTU. -/
def openWindow (assoc : SCTPAssociation) : SCTPAssociation :=
  if assoc.swsAvoidanceInvoked ∧ assoc.window ≥ assoc.swsLimit.toInt ∧
      assoc.window ≤ (assoc.swsLimit + assoc.assocPmtu).toInt then
    ({ assoc with swsAvoidanceInvoked := false }).createSack
  else assoc

/-- The first chunk of the delivery queue of a stream is pushed. -/
def pushChunk (assoc : SCTPAssociation) (sid : Nat)
    (stream : SCTPReceiveStream) (chunk : SCTPDataVariables) (rest : SCTPQueue) : SCTPAssociation :=
  { assoc with
    receiveStreams := assoc.receiveStreams.set sid { stream with deliveryQ := rest }
    pushMessagesLeft :=
      if assoc.pushMessagesLeft > 0 then assoc.pushMessagesLeft - 1 else assoc.pushMessagesLeft
    queuedRcvBytes := assoc.queuedRcvBytes - ofNat 64 chunk.bytes }

/-- The inner loop over a delivery queue; the chunks are those pushed. -/
def pushStream (restrict : Bool) (sid : Nat) :
    Nat → SCTPAssociation × List SCTPDataVariables → SCTPAssociation × List SCTPDataVariables
  | 0, current => current
  | steps + 1, (assoc, pushed) =>
    match assoc.receiveStreams[sid]? with
    | none => (assoc, pushed)
    | some stream =>
      match extractMessage stream.deliveryQ with
      | none => (assoc, pushed)
      | some (chunk, rest) =>
        if !restrict || assoc.pushMessagesLeft > 0 then
          pushStream restrict sid steps
            ((assoc.pushChunk sid stream chunk rest).openWindow, pushed ++ [chunk])
        else (assoc, pushed)

/-- One round of the outer loop; the queue bounds the inner one. -/
def pushRound (restrict : Bool) (current : SCTPAssociation × List SCTPDataVariables) (sid : Nat) :
    SCTPAssociation × List SCTPDataVariables :=
  match current.1.receiveStreams[sid]? with
  | none => current
  | some stream => pushStream restrict sid stream.deliveryQ.length current

/-- The streams in the order of the outer loop. -/
def roundTrip (nextRSid inboundStreams : Nat) : List Nat :=
  (List.range inboundStreams).map fun count => (nextRSid + count) % inboundStreams

def pushUlp (assoc : SCTPAssociation) : SCTPAssociation × List SCTPDataVariables :=
  let inboundStreams := assoc.receiveStreams.length
  let put := (List.range inboundStreams).foldl putInDeliveryQ assoc
  let left :=
    if put.pushMessagesLeft ≤ 0 then { put with pushMessagesLeft := put.messagesToPush.toInt }
    else put
  let pushed :=
    (roundTrip left.nextRSid inboundStreams).foldl
      (pushRound (left.pushMessagesLeft > 0)) (left, [])
  ({ pushed.1 with nextRSid := (pushed.1.nextRSid + 1) % inboundStreams }, pushed.2)

end SCTPAssociation

/-! ## Runs -/

inductive Event where
  | dataArrived (dataChunk : SCTPDataChunk)
  | pushUlp
  | sackSent
  /-- The sending side of the association learns of an acknowledgement. -/
  | sackArrived (tsna : Tsn)
  | stopReceiving

open SCTPAssociation in
def step (assoc : SCTPAssociation) : Event → SCTPAssociation → Prop
  | .dataArrived dataChunk, next =>
    ∃ steps event, processDataArrived steps assoc dataChunk = some (next, event)
  | .pushUlp, next => next = (pushUlp assoc).1
  | .sackSent, next => next = createSack assoc
  | .sackArrived tsna, next => next = { assoc with lastTsnAck := tsna }
  | .stopReceiving, next =>
    next = { assoc with gaps := { assoc.gaps with stopReceiving := true } }

/-! ## The bytes that are held -/

/-- All bytes in the receive streams. -/
def SCTPAssociation.heldBytes (assoc : SCTPAssociation) : Nat :=
  (assoc.receiveStreams.map SCTPReceiveStream.heldBytes).sum

/-- The counter is right, and the queues are tidy. -/
structure Accounted (assoc : SCTPAssociation) : Prop where
  tidy : ∀ stream ∈ assoc.receiveStreams, Tidy stream
  counter : assoc.queuedRcvBytes = ofNat 64 assoc.heldBytes

/-- An operation that stores nothing new keeps the counter right. -/
structure Shrinks (before after : SCTPAssociation) : Prop where
  accounted : Accounted after
  localRwnd : after.localRwnd = before.localRwnd
  fewer : after.heldBytes ≤ before.heldBytes
  holds :
    ∀ (sid : Nat) (stream : SCTPReceiveStream),
      after.receiveStreams[sid]? = some stream →
        ∃ earlier,
          before.receiveStreams[sid]? = some earlier ∧
            ∀ tsn, stream.holds tsn = true → earlier.holds tsn = true

theorem sum_set {streams : List SCTPReceiveStream} (stands : streams[sid]? = some stream)
    (other : SCTPReceiveStream) :
    ((streams.set sid other).map SCTPReceiveStream.heldBytes).sum + stream.heldBytes =
      (streams.map SCTPReceiveStream.heldBytes).sum + other.heldBytes := by
  induction streams generalizing sid with
  | nil => simp at stands
  | cons _ _ hypothesis =>
    cases sid with
    | zero =>
      cases stands
      simp only [List.set_cons_zero, List.map_cons, List.sum_cons]
      omega
    | succ _ =>
      have tail := hypothesis (by simpa using stands)
      simp only [List.set_cons_succ, List.map_cons, List.sum_cons]
      omega

theorem ofNat_sub_of_add (sum : total = rest + bytes) :
    ofNat 64 total - ofNat 64 bytes = ofNat 64 rest := by
  rw [sum, ofNat_add, BitVec.add_sub_cancel]

theorem Accounted.congr (accounted : Accounted assoc)
    (streams : next.receiveStreams = assoc.receiveStreams)
    (counter : next.queuedRcvBytes = assoc.queuedRcvBytes) : Accounted next where
  tidy := streams ▸ accounted.tidy
  counter := by
    rw [counter, accounted.counter, SCTPAssociation.heldBytes, SCTPAssociation.heldBytes, streams]

namespace Shrinks

theorem refl (accounted : Accounted before) : Shrinks before before where
  accounted
  localRwnd := rfl
  fewer := le_rfl
  holds _ stream stands := ⟨stream, stands, fun _ held => held⟩

theorem trans (first : Shrinks before middle) (second : Shrinks middle after) :
    Shrinks before after where
  accounted := second.accounted
  localRwnd := second.localRwnd.trans first.localRwnd
  fewer := second.fewer.trans first.fewer
  holds sid stream stands := by
    rcases second.holds _ _ stands with ⟨_, here, later⟩
    rcases first.holds _ _ here with ⟨earliest, there, sooner⟩
    exact ⟨earliest, there, fun tsn held => sooner _ (later _ held)⟩

theorem aside (accounted : Accounted before)
    (streams : after.receiveStreams = before.receiveStreams)
    (counter : after.queuedRcvBytes = before.queuedRcvBytes)
    (localRwnd : after.localRwnd = before.localRwnd) : Shrinks before after where
  accounted := accounted.congr streams counter
  localRwnd
  fewer := by rw [SCTPAssociation.heldBytes, SCTPAssociation.heldBytes, streams]
  holds sid stream stands := ⟨stream, streams ▸ stands, fun _ held => held⟩

/-- Chunks leave one stream, and the counter goes down by their bytes. -/
theorem replace (accounted : Accounted before) (bytes : Nat)
    (stands : before.receiveStreams[sid]? = some stream) (tidy : Tidy next)
    (holds : ∀ tsn, next.holds tsn = true → stream.holds tsn = true)
    (amount : stream.heldBytes = next.heldBytes + bytes)
    (streams : after.receiveStreams = before.receiveStreams.set sid next)
    (counter : after.queuedRcvBytes = before.queuedRcvBytes - ofNat 64 bytes)
    (localRwnd : after.localRwnd = before.localRwnd) : Shrinks before after := by
  have sum := sum_set stands next
  have total : before.heldBytes = after.heldBytes + bytes := by
    rw [SCTPAssociation.heldBytes, SCTPAssociation.heldBytes, streams]
    omega
  refine
    { accounted :=
        { tidy := ?_, counter := ?_ }
      localRwnd
      fewer := by omega
      holds := ?_ }
  · intro _ member
    rw [streams] at member
    rcases List.mem_or_eq_of_mem_set member with old | rfl
    · exact accounted.tidy _ old
    · exact tidy
  · rw [counter, accounted.counter]
    exact ofNat_sub_of_add total
  · intro _ other there
    rw [streams, List.getElem?_set] at there
    split_ifs at there with same inside
    · cases there
      exact ⟨stream, same ▸ stands, holds⟩
    · exact ⟨other, there, fun _ held => held⟩

end Shrinks

/-! ## Operations that store nothing new -/

open SCTPAssociation

theorem putInDeliveryQ_shrinks (accounted : Accounted assoc) (sid : Nat) :
    Shrinks assoc (assoc.putInDeliveryQ sid) := by
  unfold SCTPAssociation.putInDeliveryQ
  split
  · exact .refl accounted
  · case _ stream stands =>
      have tidy := accounted.tidy _ (List.mem_of_getElem? stands)
      rcases tidy.putInDeliveryQFrom stream.orderedQ.length
        assoc.queuedRcvBytes with ⟨next, amount, counter, holds⟩
      refine .replace accounted 0 stands next holds amount.symm rfl ?_ rfl
      rwa [BitVec.sub_zero]

theorem deleteMsg_sublist (queue : SCTPQueue) (tsn : Tsn) : (deleteMsg queue tsn).1.Sublist queue :=
  List.eraseP_sublist

/-- What is left of a stream when a chunk is taken out of it. -/
structure Left (stream without : SCTPReceiveStream) (datVar : SCTPDataVariables) : Prop where
  tidy : Tidy without
  holds : ∀ tsn, without.holds tsn = true → stream.holds tsn = true
  amount : stream.heldBytes = without.heldBytes + datVar.bytes

theorem throwDelivered_left (found : throwDelivered high stream = some (datVar, without))
    (tidy : Tidy stream) : Left stream without datVar := by
  rcases Option.map_eq_some_iff.mp found with ⟨_, stands, same⟩
  cases same
  have amount := (getVar_some stands).2
  rcases tidy.sublist { stream with deliveryQ := (deleteMsg stream.deliveryQ _).1 }
    (List.Sublist.refl _) (deleteMsg_sublist _ _) with ⟨still, holds⟩
  refine ⟨still, holds, ?_⟩
  dsimp only [SCTPReceiveStream.heldBytes]
  omega

theorem throwAway_left (found : throwAway uBit high stream = some (datVar, without))
    (tidy : Tidy stream) : Left stream without datVar := by
  unfold throwAway at found
  split_ifs at found with unordered
  · split at found
    · case _ chunk stands =>
        cases found
        have amount := (getVar_some stands).2
        rcases tidy.sublist { stream with unorderedQ := (deleteMsg stream.unorderedQ _).1 }
          (List.Sublist.refl _) (List.Sublist.refl _) with ⟨still, holds⟩
        refine ⟨still, holds, ?_⟩
        dsimp only [SCTPReceiveStream.heldBytes]
        omega
    · exact throwDelivered_left found tidy
  · split at found
    · case _ chunk stands =>
        cases found
        have amount := (getVar_some stands).2
        rcases tidy.sublist { stream with orderedQ := (deleteMsg stream.orderedQ _).1 }
          (deleteMsg_sublist _ _) (List.Sublist.refl _) with ⟨still, holds⟩
        refine ⟨still, holds, ?_⟩
        dsimp only [SCTPReceiveStream.heldBytes]
        omega
    · exact throwDelivered_left found tidy

theorem Left.expectAgain (left : Left stream without datVar) :
    Left stream (expectAgain without datVar) datVar := by
  unfold SCTPAssociation.expectAgain
  split_ifs
  · exact ⟨⟨left.tidy.keys, left.tidy.sorted, left.tidy.apart⟩, left.holds, left.amount⟩
  · exact left

theorem findChunk_left {without : List SCTPReceiveStream}
    (found : findChunk uBit high streams = some (datVar, without))
    (tidy : ∀ stream ∈ streams, Tidy stream) :
    ∃ (sid : Nat) (stream next : SCTPReceiveStream),
      streams[sid]? = some stream ∧ without = streams.set sid next ∧ Left stream next datVar := by
  induction streams generalizing without with
  | nil => cases found
  | cons first _ hypothesis =>
    unfold findChunk at found
    split at found
    · case _ chunk next here =>
        cases found
        have left := throwAway_left here (tidy _ (by simp))
        exact ⟨0, first, _, rfl, rfl, left.expectAgain⟩
    · rcases Option.map_eq_some_iff.mp found with ⟨_, later, same⟩
      cases same
      rcases hypothesis later fun stream member =>
        tidy _ (List.mem_cons_of_mem _ member)
        with ⟨sid, stream, next, stands, equal, left⟩
      refine ⟨sid + 1, stream, next, stands, ?_, left⟩
      rw [equal]
      rfl

theorem discarded_shrinks (accounted : Accounted assoc) (tsn : Tsn)
    {without : List SCTPReceiveStream}
    (found : findChunk uBit high assoc.receiveStreams = some (datVar, without)) :
    Shrinks assoc (assoc.discarded tsn high datVar without) := by
  rcases findChunk_left found accounted.tidy with ⟨_, _, _, stands, equal, left⟩
  exact .replace accounted datVar.bytes stands left.tidy left.holds left.amount equal rfl rfl

theorem throwHigh_shrinks (accounted : Accounted assoc) (tsn high : Tsn) (uBit : Bool) :
    Shrinks assoc (assoc.throwHigh tsn high uBit).1 := by
  unfold throwHigh
  split
  · case _ found => exact discarded_shrinks accounted _ found
  · exact .refl accounted

theorem makeRoomFrom_shrinks (accounted : Accounted assoc)
    (done : makeRoomFrom tsn length uBit steps high sum assoc = some (last, made)) :
    Shrinks assoc last := by
  induction steps generalizing assoc high sum with
  | zero => cases done
  | succ _ hypothesis =>
    have next : ∀ lowest, Shrinks assoc
        { (assoc.throwHigh tsn high uBit).1 with
          highestTsnStored := lowest } := by
      intro _
      have less := throwHigh_shrinks accounted tsn high uBit
      exact less.trans (.aside less.accounted rfl rfl rfl)
    rw [makeRoomFrom] at done
    split at done
    · split at done
      · cases done
        exact .refl accounted
      · dsimp only at done
        split at done
        · cases done
          exact next _
        · exact (next _).trans (hypothesis (next _).accounted done)
    · cases done
      exact .refl accounted

theorem createSack_aside (accounted : Accounted assoc) : Shrinks assoc assoc.createSack :=
  .aside accounted rfl rfl rfl

theorem openWindow_shrinks (accounted : Accounted assoc) : Shrinks assoc assoc.openWindow := by
  unfold openWindow
  split_ifs
  · exact .aside accounted rfl rfl rfl
  · exact .refl accounted

theorem extracted_left (extracted : extractMessage stream.deliveryQ = some (chunk, rest))
    (tidy : Tidy stream) : Left stream { stream with deliveryQ := rest } chunk := by
  cases queue : stream.deliveryQ with
  | nil =>
    rw [queue] at extracted
    cases extracted
  | cons _ _ =>
    rw [queue] at extracted
    cases extracted
    have part : rest.Sublist stream.deliveryQ := by
      rw [queue]
      exact List.sublist_cons_self _ _
    rcases tidy.sublist { stream with deliveryQ := rest }
      (List.Sublist.refl _) part with ⟨still, holds⟩
    refine ⟨still, holds, ?_⟩
    dsimp only [SCTPReceiveStream.heldBytes]
    rw [queue, held_cons]
    omega

theorem pushStream_shrinks (restrict : Bool) (sid steps : Nat) (accounted : Accounted current.1) :
    Shrinks current.1 (pushStream restrict sid steps current).1 := by
  induction steps generalizing current with
  | zero => exact .refl accounted
  | succ _ hypothesis =>
    rcases current with ⟨assoc, pushed⟩
    unfold pushStream
    split
    · exact .refl accounted
    · case _ stream stands =>
        split
        · exact .refl accounted
        · case _ chunk rest extracted =>
            split
            · have left := extracted_left extracted (accounted.tidy _ (List.mem_of_getElem? stands))
              have fewer : Shrinks assoc (assoc.pushChunk sid stream chunk rest) :=
                .replace accounted chunk.bytes stands left.tidy left.holds left.amount rfl rfl rfl
              have opened := openWindow_shrinks fewer.accounted
              have later := @hypothesis
                ((assoc.pushChunk _ _ _ _).openWindow, pushed ++ [chunk]) opened.accounted
              exact fewer.trans (opened.trans later)
            · exact .refl accounted

theorem pushRound_shrinks (restrict : Bool) (sid : Nat) (accounted : Accounted current.1) :
    Shrinks current.1 (pushRound restrict current sid).1 := by
  unfold pushRound
  split
  · exact .refl accounted
  · exact pushStream_shrinks _ _ _ accounted

theorem foldl_shrinks {State Item : Type} (assocOf : State → SCTPAssociation)
    (operation : State → Item → State)
    (shrinks :
      ∀ state item,
        Accounted (assocOf state) → Shrinks (assocOf state) (assocOf (operation state item)))
    (items : List Item)
    (state : State)
    (accounted : Accounted (assocOf state)) :
    Shrinks (assocOf state) (assocOf (items.foldl operation state)) := by
  induction items generalizing state with
  | nil => exact .refl accounted
  | cons item _ hypothesis =>
    have first := shrinks _ item accounted
    exact first.trans (hypothesis _ first.accounted)

theorem pushUlp_shrinks (accounted : Accounted assoc) : Shrinks assoc assoc.pushUlp.1 := by
  have put := foldl_shrinks id _ (fun _ sid still => putInDeliveryQ_shrinks still sid)
    (List.range assoc.receiveStreams.length) _ accounted
  have rounds : ∀ left : SCTPAssociation,
      Shrinks assoc left →
        Shrinks assoc
          ((roundTrip left.nextRSid assoc.receiveStreams.length).foldl
            (pushRound (left.pushMessagesLeft > 0)) (left, [])).1 := by
    intro left less
    exact less.trans
      (foldl_shrinks Prod.fst _
        (fun _ sid still => pushRound_shrinks _ _ still) _ (left, []) less.accounted)
  dsimp only [pushUlp]
  refine .trans (rounds _ ?_) (.aside (rounds _ ?_).accounted rfl rfl rfl)
  all_goals
    split_ifs
    · exact put.trans (.aside put.accounted rfl rfl rfl)
    · exact put

/-! ## Arrivals -/

/-- The association sees that the chunk is not to be stored. -/
def Recognised (assoc : SCTPAssociation) (tsn : Tsn) : Prop :=
  let received := { assoc with gaps := assoc.gaps.receive }
  assoc.gaps.stopReceiving = true ∨ tsnLe tsn assoc.gaps.cTsnAck = true ∨
    tsnGt tsn received.gaps.highestTsnReceived = true ∧ assoc.window ≤ 0 ∨
    tsnGt tsn received.gaps.highestTsnReceived = false ∧ assoc.gaps.tsnIsDuplicate tsn = true

/-- No chunk with the TSN is in the stream that the chunk is for. -/
def Fresh (assoc : SCTPAssociation) (dataChunk : SCTPDataChunk) : Prop :=
  ∀ stream,
    assoc.receiveStreams[dataChunk.sid.toNat]? = some stream → stream.holds dataChunk.tsn = false

/-- The length of the message is the one that the queues count. -/
def LengthsAgree (dataChunk : SCTPDataChunk) : Prop :=
  dataChunk.payloadLength.setWidth 64 = ofNat 64 (makeVarFromMsg dataChunk).bytes

theorem lengthsAgree_iff (dataChunk : SCTPDataChunk) :
    LengthsAgree dataChunk ↔ dataChunk.bitLength / 8 % 2 ^ 32 = dataChunk.dataLen.toNat % 8192 := by
  have bytes : (makeVarFromMsg dataChunk).bytes = dataChunk.dataLen.toNat % 8192 := by
    unfold SCTPDataVariables.bytes makeVarFromMsg
    have eight : (8 : BitVec 32).toNat = 8 := rfl
    rw [toNat_setWidth, BitVec.toNat_mul, eight]
    omega
  have payload :
      (dataChunk.payloadLength.setWidth 64).toNat = dataChunk.bitLength / 8 % 2 ^ 32 := by
    rw [SCTPDataChunk.payloadLength, SCTPDataChunk.getBitLength, SCTP_DATA_CHUNK_LENGTH,
      toNat_setWidth, toNat_sub, toNat_ofNat, toNat_ofNat]
    omega
  rw [LengthsAgree, ← BitVec.toNat_inj, payload, bytes, toNat_ofNat]
  omega

/-- An arrival keeps the counter right, and stores at most the chunk. -/
structure Grows (bytes : Nat) (before after : SCTPAssociation) : Prop where
  accounted : Accounted after
  localRwnd : after.localRwnd = before.localRwnd
  most : after.heldBytes ≤ before.heldBytes + bytes

namespace Grows

theorem shrunk (shrinks : Shrinks before after) : Grows bytes before after where
  accounted := shrinks.accounted
  localRwnd := shrinks.localRwnd
  most := shrinks.fewer.trans (Nat.le_add_right ..)

theorem behind (first : Shrinks before middle)
    (second : Grows bytes middle after) : Grows bytes before after where
  accounted := second.accounted
  localRwnd := second.localRwnd.trans first.localRwnd
  most := second.most.trans (Nat.add_le_add_right first.fewer bytes)

theorem ahead (first : Grows bytes before middle)
    (second : Shrinks middle after) : Grows bytes before after where
  accounted := second.accounted
  localRwnd := second.localRwnd.trans first.localRwnd
  most := second.fewer.trans first.most

end Grows

theorem Fresh.shrunk (fresh : Fresh before dataChunk)
    (shrinks : Shrinks before after) : Fresh after dataChunk := by
  intro _ stands
  rcases shrinks.holds _ _ stands with ⟨_, here, less⟩
  by_contra held
  have still := less dataChunk.tsn (by simpa using held)
  rw [fresh _ here] at still
  cases still

theorem storeIn_grows (accounted : Accounted assoc)
    (stands : assoc.receiveStreams[sid]? = some stream) (tidy : Tidy next)
    (amount : next.heldBytes = stream.heldBytes + bytes)
    (agree : payloadLength.setWidth 64 = ofNat 64 bytes) :
    Grows bytes assoc ((assoc.storeIn sid next).count payloadLength) := by
  have sum := sum_set stands next
  have total :
      ((assoc.storeIn sid next).count payloadLength).heldBytes = assoc.heldBytes + bytes := by
    dsimp only [SCTPAssociation.heldBytes, count, storeIn]
    omega
  refine
    { accounted :=
        { tidy := ?_, counter := ?_ }
      localRwnd := rfl
      most := total.le }
  · intro _ member
    rcases List.mem_or_eq_of_mem_set member with old | rfl
    · exact accounted.tidy _ old
    · exact tidy
  · rw [total, ofNat_add, ← agree, ← accounted.counter]
    rfl

/-- A chunk that is new to its stream is stored when it is counted. -/
theorem takeIn_grows (accounted : Accounted assoc)
    (fresh : Fresh assoc dataChunk) (agree : LengthsAgree dataChunk)
    (taken : assoc.takeIn dataChunk = some (next, event)) :
    Grows (makeVarFromMsg dataChunk).bytes assoc next := by
  dsimp only [takeIn] at taken
  split at taken
  · cases taken
  · case _ stream stands =>
      have tidy := accounted.tidy _ (List.mem_of_getElem? stands)
      rcases @Tidy.enqueueNewDataChunk _ (makeVarFromMsg _)
        tidy (fresh _ stands) with ⟨still, amount, stored⟩
      rw [if_pos stored] at taken
      cases taken
      have grown := storeIn_grows accounted stands still amount agree
      exact grown.ahead (putInDeliveryQ_shrinks grown.accounted _)

theorem finish_grows (shrinks : Shrinks assoc updated.1)
    (fresh : Fresh assoc dataChunk) (agree : LengthsAgree dataChunk)
    (finished : finish updated dataChunk = some (next, event)) :
    Grows (makeVarFromMsg dataChunk).bytes assoc next := by
  have advanced : Shrinks assoc (advanceCtsna updated) := by
    unfold SCTPAssociation.advanceCtsna
    split_ifs
    · exact shrinks.trans (.aside shrinks.accounted rfl rfl rfl)
    · exact shrinks
  dsimp only [finish] at finished
  split at finished
  · exact .behind advanced (takeIn_grows advanced.accounted (fresh.shrunk advanced) agree finished)
  · cases finished
    exact .shrunk advanced

theorem updateGapList_shrinks (accounted : Accounted assoc) (tsn : Tsn) :
    Shrinks assoc (assoc.updateGapList tsn).1 := by
  unfold SCTPAssociation.updateGapList
  split
  · exact .refl accounted
  · exact .aside accounted rfl rfl rfl

theorem newHighest_shrinks (accounted : Accounted assoc) (tsn : Tsn) :
    Shrinks assoc (assoc.newHighest tsn).1 := by
  have higher : Shrinks assoc
      { assoc with
        highestTsnStored := tsn
        gaps := { assoc.gaps with highestTsnReceived := tsn } } :=
    .aside accounted rfl rfl rfl
  have updated := updateGapList_shrinks higher.accounted tsn
  unfold SCTPAssociation.newHighest
  split
  · exact .aside accounted rfl rfl rfl
  · exact higher.trans (updated.trans (.aside updated.accounted rfl rfl rfl))

theorem classify_grows (accounted : Accounted assoc)
    (fresh :
      tsnGt dataChunk.tsn assoc.gaps.highestTsnReceived = true ∨
          assoc.gaps.tsnIsDuplicate dataChunk.tsn = false →
        Fresh assoc dataChunk)
    (agree : LengthsAgree dataChunk)
    (classified : assoc.classify dataChunk = some (next, event)) :
    Grows (makeVarFromMsg dataChunk).bytes assoc next := by
  unfold classify at classified
  split_ifs at classified with higher duplicate
  · exact finish_grows (newHighest_shrinks accounted _) (fresh (.inl higher)) agree classified
  · cases classified
    exact .shrunk (.aside accounted rfl rfl rfl)
  · exact finish_grows (updateGapList_shrinks accounted _)
      (fresh (.inr (by simpa using duplicate))) agree classified

/-- Only a chunk that the association recognises may be held already. -/
theorem processDataArrived_grows
    (accounted : Accounted assoc) (known : Recognised assoc dataChunk.tsn ∨ Fresh assoc dataChunk)
    (agree : LengthsAgree dataChunk)
    (processed : assoc.processDataArrived steps dataChunk = some (next, event)) :
    Grows (makeVarFromMsg dataChunk).bytes assoc next := by
  have received : Shrinks assoc { assoc with gaps := assoc.gaps.receive } :=
    .aside accounted rfl rfl rfl
  dsimp only [SCTPAssociation.processDataArrived] at processed
  split_ifs at processed with stopped old full higher room
  · cases processed
    exact .shrunk received
  · cases processed
    exact .shrunk (.aside accounted rfl rfl rfl)
  · cases processed
    exact .shrunk received
  · have unseen : Fresh assoc dataChunk := by
      refine known.resolve_left ?_
      rintro (stops | before | ⟨above, -⟩ | ⟨-, seen⟩)
      · exact stopped stops
      · exact old before
      · exact higher above
      · have different := (Bool.and_eq_true_iff.mp room).1
        change (!assoc.gaps.tsnIsDuplicate dataChunk.tsn) = true at different
        rw [seen] at different
        cases different
    split at processed
    · cases processed
    · case _ room made =>
        have less := received.trans (makeRoomFrom_shrinks received.accounted made)
        exact .behind less
          (classify_grows less.accounted (fun _ => unseen.shrunk less) agree processed)
    · case _ room made =>
        cases processed
        exact .shrunk (received.trans (makeRoomFrom_shrinks received.accounted made))
  · refine .behind received (classify_grows received.accounted ?_ agree processed)
    intro new
    refine Fresh.shrunk (known.resolve_left ?_) received
    rintro (stops | before | ⟨above, -⟩ | ⟨-, seen⟩)
    · exact stopped stops
    · exact old before
    · exact higher above
    · rcases new with above | different
      · exact higher above
      · exact Bool.noConfusion (seen.symm.trans different)
  · refine .behind received (classify_grows received.accounted ?_ agree processed)
    intro new
    refine Fresh.shrunk (known.resolve_left ?_) received
    rintro (stops | before | ⟨-, closed⟩ | ⟨below, seen⟩)
    · exact stopped stops
    · exact old before
    · exact full closed
    · rcases new with above | different
      · exact Bool.noConfusion (above.symm.trans below)
      · exact Bool.noConfusion (seen.symm.trans different)

/-! ## Runs that keep account -/

/-- The counter is right, and what overshoots is a negative window. -/
structure Balanced (assoc : SCTPAssociation) : Prop where
  accounted : Accounted assoc
  bounded : assoc.heldBytes ≤ assoc.localRwnd.toNat + 2 ^ 31

/--
A chunk whose lengths agree and whose TSN is new to its stream arrives, unless
the association sees that it is old.
-/
def Admits (assoc : SCTPAssociation) : Event → Prop
  | .dataArrived dataChunk =>
    LengthsAgree dataChunk ∧ (Recognised assoc dataChunk.tsn ∨ Fresh assoc dataChunk) ∧
      assoc.heldBytes + (makeVarFromMsg dataChunk).bytes ≤ assoc.localRwnd.toNat + 2 ^ 31
  | _ => True

theorem Balanced.shrunk
    (balanced : Balanced assoc) (shrinks : Shrinks assoc next) : Balanced next where
  accounted := shrinks.accounted
  bounded := by
    rw [shrinks.localRwnd]
    exact shrinks.fewer.trans balanced.bounded

theorem balanced_step (assoc : SCTPAssociation) (event : Event)
    (next : SCTPAssociation) (balanced : Balanced assoc)
    (admits : Admits assoc event) (stepped : step assoc event next) : Balanced next := by
  cases event with
  | dataArrived _ =>
    rcases stepped with ⟨_, _, processed⟩
    rcases admits with ⟨agree, known, room⟩
    have grows := processDataArrived_grows balanced.accounted known agree processed
    refine ⟨grows.accounted, ?_⟩
    rw [grows.localRwnd]
    exact grows.most.trans room
  | pushUlp =>
    cases stepped
    exact balanced.shrunk (pushUlp_shrinks balanced.accounted)
  | sackSent =>
    cases stepped
    exact balanced.shrunk (createSack_aside balanced.accounted)
  | sackArrived _ =>
    cases stepped
    exact balanced.shrunk (.aside balanced.accounted rfl rfl rfl)
  | stopReceiving =>
    cases stepped
    exact balanced.shrunk (.aside balanced.accounted rfl rfl rfl)

theorem tidy_empty : Tidy {} where
  keys _ member := by cases member
  sorted := List.Pairwise.nil
  apart _ member := by cases member

theorem balanced_create (initPeerTsn : Tsn) (localRwnd : BitVec 64)
    (messagesToPush swsLimit assocPmtu pmtu : BitVec 32) (inboundStreams : Nat) :
    Balanced
      (.create initPeerTsn localRwnd messagesToPush swsLimit assocPmtu pmtu inboundStreams) := by
  have empty : SCTPAssociation.heldBytes
      (.create initPeerTsn localRwnd messagesToPush swsLimit assocPmtu pmtu
        inboundStreams) = 0 := by
    rw [SCTPAssociation.heldBytes, SCTPAssociation.create, List.map_replicate, List.sum_replicate]
    exact Nat.mul_zero _
  refine ⟨⟨?_, ?_⟩, ?_⟩
  · intro _ member
    rw [List.eq_of_mem_replicate member]
    exact tidy_empty
  · rw [empty]
    rfl
  · rw [empty]
    exact Nat.zero_le _

theorem getQueuedBytes_held (assoc : SCTPAssociation) :
    assoc.getQueuedBytes = ofNat 32 assoc.heldBytes := by
  have summed : ∀ (streams : List SCTPReceiveStream) (qb : BitVec 32),
      streams.foldl
          (fun qb stream =>
            qb + getNumBytes stream.orderedQ + getNumBytes stream.unorderedQ +
              getNumBytes stream.deliveryQ)
          qb =
        qb + ofNat 32 (streams.map SCTPReceiveStream.heldBytes).sum := by
    intro streams
    induction streams with
    | nil => simp
    | cons _ _ hypothesis =>
      intro _
      rw [List.foldl_cons, hypothesis, List.map_cons, List.sum_cons,
        SCTPReceiveStream.heldBytes, getNumBytes_held, getNumBytes_held, getNumBytes_held]
      simp only [ofNat_add, BitVec.add_assoc]
  rw [getQueuedBytes, summed]
  exact BitVec.zero_add _

theorem window_nonpos (balanced : Balanced assoc)
    (full : assoc.localRwnd.toNat ≤ assoc.heldBytes) : assoc.window ≤ 0 := by
  have bounded := balanced.bounded
  have counter := balanced.accounted.counter
  rw [window, counter]
  generalize assoc.heldBytes = bytes at full bounded
  generalize assoc.localRwnd = localRwnd at full bounded
  have low :
      ((localRwnd - ofNat 64 bytes).setWidth 32).toNat =
        (2 ^ 64 - bytes % 2 ^ 64 + localRwnd.toNat) % 2 ^ 64 % 2 ^ 32 := by
    rw [toNat_setWidth, toNat_sub, toNat_ofNat]
  rw [BitVec.toInt_eq_toNat_cond]
  split_ifs <;> omega

theorem free_toNat (accounted : Accounted assoc) (free : assoc.heldBytes < assoc.localRwnd.toNat) :
    (assoc.localRwnd - assoc.queuedRcvBytes).toNat = assoc.localRwnd.toNat - assoc.heldBytes := by
  rw [accounted.counter, toNat_sub, toNat_ofNat]
  omega

theorem arwnd_le (balanced : Balanced assoc) :
    assoc.arwnd.toNat ≤ assoc.localRwnd.toNat - assoc.heldBytes := by
  dsimp only [arwnd]
  split_ifs with closed avoided
  · exact Nat.zero_le _
  · have free : assoc.heldBytes < assoc.localRwnd.toNat := by
      by_contra full
      exact closed (window_nonpos balanced (Nat.le_of_not_lt full))
    exact Nat.sub_pos_of_lt free
  · have free : assoc.heldBytes < assoc.localRwnd.toNat := by
      by_contra full
      exact closed (window_nonpos balanced (Nat.le_of_not_lt full))
    rw [toNat_setWidth, free_toNat balanced.accounted free]
    exact Nat.mod_le _ _

/--
In every run of admitted events the counter is what the streams hold, which
is what `getQueuedBytes` adds up, and no more is advertised than is free.
-/
theorem receive_buffer_run {initPeerTsn : Tsn} {localRwnd : BitVec 64}
    {messagesToPush swsLimit assocPmtu pmtu : BitVec 32} {inboundStreams : Nat}
    {events : List Event} {assoc : SCTPAssociation}
    (run :
      Run (guardedStep Admits step)
        (.create initPeerTsn localRwnd messagesToPush swsLimit assocPmtu pmtu inboundStreams)
        events assoc) :
    assoc.queuedRcvBytes = ofNat 64 assoc.heldBytes ∧
      assoc.getQueuedBytes = assoc.queuedRcvBytes.setWidth 32 ∧
      assoc.arwnd.toNat ≤ assoc.localRwnd.toNat - assoc.heldBytes := by
  have balanced : Balanced assoc := run.guarded balanced_step (balanced_create _ _ _ _ _ _ _)
  have counter := balanced.accounted.counter
  refine ⟨counter, ?_, arwnd_le balanced⟩
  rw [getQueuedBytes_held, counter]
  apply BitVec.eq_of_toNat_eq
  rw [toNat_setWidth, toNat_ofNat, toNat_ofNat]
  omega

/-- One stream, a buffer of 65535 bytes, and the first TSN is 1. -/
def opened : SCTPAssociation :=
  .create 1 65535 0 3000 1500 1500 1

/-- The first chunk of stream 0, in order, with so many bytes. -/
def firstChunk (bytes : Nat) : SCTPDataChunk where
  tsn := 1
  sid := 0
  ssn := 0
  uBit := false
  dataLen := ofNat 32 bytes
  bitLength := bytes * 8
  userData := 0

theorem receive_buffer_run_small :
    ∃ assoc events,
      Run (guardedStep Admits step) opened events assoc ∧ assoc.queuedRcvBytes = 100 ∧
        assoc.queuedRcvBytes = ofNat 64 assoc.heldBytes ∧
        assoc.getQueuedBytes = assoc.queuedRcvBytes.setWidth 32 ∧
        assoc.arwnd.toNat ≤ assoc.localRwnd.toNat - assoc.heldBytes := by
  have admits : Admits opened (.dataArrived (firstChunk 100)) := by
    refine ⟨(lengthsAgree_iff _).mpr (by decide), .inr ?_, by decide⟩
    intro _ stands
    cases stands
    rfl
  have run : Run (guardedStep Admits step) opened [.dataArrived (firstChunk 100)]
      ((opened.processDataArrived 1 (firstChunk 100)).get rfl).1 :=
    .next ⟨admits, 1, .DELIVERED, rfl⟩ (.idle _)
  exact ⟨_, _, run, rfl, receive_buffer_run run⟩

/-- The 65536 bits of 8192 bytes are no bits in `len`. -/
theorem eight_kibibytes_uncounted :
    ∃ assoc events,
      Run step opened events assoc ∧ assoc.queuedRcvBytes = 8192 ∧ assoc.getQueuedBytes = 0 := by
  have run : Run step opened [.dataArrived (firstChunk 8192)]
      ((opened.processDataArrived 1 (firstChunk 8192)).get rfl).1 :=
    .next ⟨1, .DELIVERED, rfl⟩ (.idle _)
  exact ⟨_, _, run, rfl, rfl⟩

end OmnetDsi.Sctp.ReceiveBuffer
