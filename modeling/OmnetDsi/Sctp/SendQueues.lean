import OmnetDsi.Contract.Endpoints
import OmnetDsi.Library.SharedObjects
import OmnetDsi.Library.SortedMaps
import OmnetDsi.Sctp.GapLists

/-!
# The queues of an SCTP sender

A chunk that was sent stays in the retransmission queue until it is
acknowledged, and is put in the transmission queue as well when it has to be
sent again.  Both queues point to the same chunks.

Windows, Nagle's algorithm and the boundaries of packets decide how many
chunks `sendAll` adds and how much room each of them has; these are given to
it as `rounds`.  Undefined behaviour, such as the use of a missing entry of a
map, has no result.
-/

namespace OmnetDsi.Sctp.SendQueues

open Function
open Contract.Endpoints Library.SortedMaps
open OmnetDsi.Sctp.GapLists (Tsn tsnLe tsnGt)

/-! ## Chunks and state -/

/-- The length is in bits. -/
structure SCTPDataVariables where
  tsn : Tsn := 0
  len : BitVec 16 := 0
  booksize : BitVec 32 := 0
  gapReports : BitVec 32 := 0
  hasBeenAcked : Bool := false
  hasBeenRemoved : Bool := false
  hasBeenAbandoned : Bool := false
  hasBeenFastRetransmitted : Bool := false
  countsAsOutstanding : Bool := false
  lastDestination : IPvXAddress := .unspecified
  initialDestination : IPvXAddress := .unspecified
  nextDestination : IPvXAddress := .unspecified
  numberOfTransmissions : BitVec 32 := 0
  numberOfRetransmissions : BitVec 32 := 0

def SCTP_DATA_CHUNK_LENGTH : Nat := 16

def ADD_PADDING (x : Nat) : Nat :=
  (x + 3) / 4 * 4

/-- The room that the chunk takes in a packet. -/
def SCTPDataVariables.room (chunk : SCTPDataVariables) : Nat :=
  ADD_PADDING (chunk.len.toNat / 8 + SCTP_DATA_CHUNK_LENGTH)

/-- The chunk as it looks for its next destination after a timeout. -/
def SCTPDataVariables.again (chunk : SCTPDataVariables) : SCTPDataVariables :=
  { chunk with hasBeenFastRetransmitted := false, gapReports := 0 }

/-- A pointer to a chunk. -/
abbrev Pointer : Type := Nat

abbrev SCTPQueue : Type := List (Nat × Pointer)

/-- A message that waits in a stream; the length is that of its content. -/
structure SCTPDataMsg where
  bitLength : Nat
  booksize : BitVec 32

structure SCTPSendStream where
  unorderedStreamQ : List SCTPDataMsg := []
  streamQ : List SCTPDataMsg := []

/-- A gap is given by its first and its last TSN. -/
structure SCTPSackChunk where
  cumTsnAck : Tsn
  gaps : List (Tsn × Tsn)

structure SCTPPathVariables where
  activePath : Bool
  confirmed : Bool

structure SCTPAssociation where
  chunks : Pointer → SCTPDataVariables
  /-- The next pointer that `new` returns. -/
  unused : Pointer
  retransmissionQ : SCTPQueue
  transmissionQ : SCTPQueue
  outstandingBytes : IPvXAddress → BitVec 32
  roomTransQ : IPvXAddress → BitVec 32
  bookedTransQ : IPvXAddress → BitVec 32
  sendStreams : Nat → SCTPSendStream
  sctpPathMap : List (IPvXAddress × SCTPPathVariables)
  primaryPathIndex : IPvXAddress
  remoteAddr : IPvXAddress
  nextTSN : Tsn
  lastTsnAck : Tsn
  highestTsnAcked : Tsn
  numGapReports : BitVec 32

namespace SCTPQueue

def find (queue : SCTPQueue) (tsn : Tsn) : Option Pointer :=
  (List.find? (fun entry => entry.1 = tsn.toNat) queue).map Prod.snd

def erase (queue : SCTPQueue) (tsn : Tsn) : SCTPQueue :=
  List.eraseP (fun entry => entry.1 = tsn.toNat) queue

end SCTPQueue

namespace SCTPAssociation

def create (sctpPathMap : List (IPvXAddress × SCTPPathVariables))
    (primaryPathIndex remoteAddr : IPvXAddress) (initTsn : Tsn)
    (numGapReports : BitVec 32) : SCTPAssociation where
  chunks _ := {}
  unused := 0
  retransmissionQ := []
  transmissionQ := []
  outstandingBytes _ := 0
  roomTransQ _ := 0
  bookedTransQ _ := 0
  sendStreams _ := {}
  sctpPathMap
  primaryPathIndex
  remoteAddr
  nextTSN := initTsn
  lastTsnAck := 0
  highestTsnAcked := 0
  numGapReports

/-! ## Parts of the operations -/

def setChunk (assoc : SCTPAssociation) (pointer : Pointer)
    (chunk : SCTPDataVariables) : SCTPAssociation :=
  { assoc with chunks := update assoc.chunks pointer chunk }

/-- A chunk that counts as outstanding on its last path no longer does. -/
def discount (assoc : SCTPAssociation) (pointer : Pointer) : SCTPAssociation :=
  let chunk := assoc.chunks pointer
  if chunk.countsAsOutstanding then
    { assoc.setChunk pointer { chunk with countsAsOutstanding := false } with
      outstandingBytes :=
        update assoc.outstandingBytes chunk.lastDestination
          (assoc.outstandingBytes chunk.lastDestination - chunk.booksize) }
  else assoc

/-- The counters of the transmission queue for the next path of a chunk. -/
def addRoom (assoc : SCTPAssociation) (chunk : SCTPDataVariables) : SCTPAssociation :=
  { assoc with
    roomTransQ :=
      update assoc.roomTransQ chunk.nextDestination
        (assoc.roomTransQ chunk.nextDestination + BitVec.ofNat 32 chunk.room)
    bookedTransQ :=
      update assoc.bookedTransQ chunk.nextDestination
        (assoc.bookedTransQ chunk.nextDestination + chunk.booksize) }

def subtractRoom (assoc : SCTPAssociation) (chunk : SCTPDataVariables) : SCTPAssociation :=
  { assoc with
    roomTransQ :=
      update assoc.roomTransQ chunk.nextDestination
        (assoc.roomTransQ chunk.nextDestination - BitVec.ofNat 32 chunk.room)
    bookedTransQ :=
      update assoc.bookedTransQ chunk.nextDestination
        (assoc.bookedTransQ chunk.nextDestination - chunk.booksize) }

/-- The chunk is removed from the transmission queue if it is there. -/
def removeMsg (assoc : SCTPAssociation) (pointer : Pointer) : SCTPAssociation :=
  let chunk := assoc.chunks pointer
  if (assoc.transmissionQ.find chunk.tsn).isSome then
    subtractRoom { assoc with transmissionQ := assoc.transmissionQ.erase chunk.tsn } chunk
  else assoc

/-! ## Paths -/

/-- The loop of `getNextDestination` stops at the path. -/
def stopsAt (last : IPvXAddress) (entry : IPvXAddress × SCTPPathVariables) : Bool :=
  !(entry.1 ≠ last && !entry.2.activePath || !entry.2.confirmed)

/-- The paths behind the last one, then those before it, then itself. -/
def nextPath (assoc : SCTPAssociation) (last : IPvXAddress) : Option IPvXAddress :=
  let before := assoc.sctpPathMap.takeWhile fun entry => entry.1 ≠ last
  match assoc.sctpPathMap.dropWhile fun entry => entry.1 ≠ last with
  | [] => none
  | here :: after => ((after ++ before ++ [here]).find? (stopsAt last)).map Prod.fst

/-- Without a path at which the loop stops it does not end. -/
def getNextDestination (assoc : SCTPAssociation) (chk : SCTPDataVariables) : Option IPvXAddress :=
  if chk.numberOfTransmissions = 0 then
    some (if chk.initialDestination = .unspecified then assoc.primaryPathIndex
      else chk.initialDestination)
  else if chk.hasBeenFastRetransmitted then some chk.lastDestination
  else assoc.nextPath chk.lastDestination

/-! ## Sending -/

/--
The first chunk for the path that fits.  One that has been acknowledged is
erased, and the loop then uses the erased iterator.
-/
def getOutboundDataChunk (assoc : SCTPAssociation) (pid : IPvXAddress)
    (bytes : Int) : Option (SCTPAssociation × Option Pointer) :=
  match assoc.transmissionQ.find? fun entry =>
      (assoc.chunks entry.2).nextDestination = pid &&
        decide (((assoc.chunks entry.2).room : Int) ≤ bytes) with
  | none => some (assoc, none)
  | some entry =>
    let chunk := assoc.chunks entry.2
    if chunk.hasBeenAcked then none
    else
      some
        (subtractRoom
          { assoc with transmissionQ := assoc.transmissionQ.eraseP fun other => other.1 = entry.1 }
          chunk, some entry.2)

/-- The stream is the one that `ssGetNextSid` chose. -/
def dequeueOutboundDataMsg (assoc : SCTPAssociation) (nextStream : Nat)
    (bytes : Int) : Option (SCTPDataMsg × SCTPAssociation) :=
  let stream := assoc.sendStreams nextStream
  let without := fun rest => { assoc with sendStreams := update assoc.sendStreams nextStream rest }
  match stream.unorderedStreamQ, stream.streamQ with
  | datMsg :: rest, _ => some (datMsg, without { stream with unorderedStreamQ := rest })
  | [], datMsg :: rest =>
    let back := (datMsg :: rest).getLast (List.cons_ne_nil _ _)
    let b := ADD_PADDING (back.bitLength / 8 + SCTP_DATA_CHUNK_LENGTH)
    if (b : Int) ≤ bytes then some (datMsg, without { stream with streamQ := rest }) else none
  | [], [] => none

/-- The chunk of a message, at a new pointer. -/
def makeChunk (assoc : SCTPAssociation) (datMsg : SCTPDataMsg) : SCTPAssociation :=
  { assoc.setChunk assoc.unused
      { len := BitVec.ofNat 16 datMsg.bitLength
        booksize := datMsg.booksize
        initialDestination := assoc.primaryPathIndex } with
    unused := assoc.unused + 1 }

/-- A chunk from the transmission queue is outstanding again. -/
def countAgain (assoc : SCTPAssociation) (pointer : Pointer) : SCTPAssociation :=
  let chunk := assoc.chunks pointer
  { assoc.setChunk pointer
      { chunk with
        numberOfRetransmissions := chunk.numberOfRetransmissions + 1
        countsAsOutstanding := true
        hasBeenRemoved := false } with
    outstandingBytes :=
      update assoc.outstandingBytes chunk.nextDestination
        (assoc.outstandingBytes chunk.nextDestination + chunk.booksize) }

/-- A chunk without a TSN gets the next one. -/
def assignTsn (assoc : SCTPAssociation) (pointer : Pointer) : SCTPAssociation :=
  let chunk := assoc.chunks pointer
  if chunk.tsn = 0 then
    { assoc.setChunk pointer { chunk with tsn := assoc.nextTSN } with nextTSN := assoc.nextTSN + 1 }
  else assoc

/-- A chunk sent for the first time; `pathVar` is the path of `newDpi`. -/
def storeFirst (assoc : SCTPAssociation) (pointer : Pointer)
    (newDpi : IPvXAddress) : SCTPAssociation :=
  let chunk := assoc.chunks pointer
  let named := assoc.setChunk pointer { chunk with lastDestination := assoc.primaryPathIndex }
  if (assoc.retransmissionQ.find chunk.tsn).isSome then named
  else
    { named.setChunk pointer
        { named.chunks pointer with hasBeenAcked := false } with
      retransmissionQ := insertNew chunk.tsn.toNat pointer assoc.retransmissionQ
      outstandingBytes :=
        update assoc.outstandingBytes newDpi (assoc.outstandingBytes newDpi + chunk.booksize) }

/-- The chunk is added to the packet. -/
def addChunk (assoc : SCTPAssociation) (pointer : Pointer)
    (newDpi : IPvXAddress) : SCTPAssociation :=
  let numbered := assoc.assignTsn pointer
  let counted :=
    numbered.setChunk pointer
      { numbered.chunks pointer with countsAsOutstanding := true, hasBeenRemoved := false }
  let stored :=
    if (counted.chunks pointer).numberOfTransmissions = 0 then counted.storeFirst pointer newDpi
    else counted
  let chunk := stored.chunks pointer
  stored.setChunk pointer
    { chunk with
      numberOfTransmissions := chunk.numberOfTransmissions + 1
      gapReports := 0
      hasBeenFastRetransmitted := false
      lastDestination := newDpi }

/-- The room left in the packet, and the stream that is next. -/
structure Round where
  bytes : Int
  nextStream : Option Nat

/-- One iteration of the loop of `sendAll`, with the variable `dpi`. -/
def sendRound (pd newDpi : IPvXAddress) (current : SCTPAssociation × IPvXAddress) (round : Round) :
    Option (SCTPAssociation × IPvXAddress) :=
  let assoc := current.1
  let dpi := current.2
  if assoc.roomTransQ pd > 0 then
    match assoc.getOutboundDataChunk dpi round.bytes with
    | none => none
    | some (without, some pointer) =>
      some ((without.countAgain pointer).addChunk pointer newDpi, dpi)
    | some (without, none) => some (without, dpi)
  else if dpi = assoc.primaryPathIndex then
    match round.nextStream.bind fun nextStream =>
        assoc.dequeueOutboundDataMsg nextStream round.bytes with
    | none => some (assoc, dpi)
    | some (datMsg, without) =>
      some ((without.makeChunk datMsg).addChunk without.unused newDpi, without.primaryPathIndex)
  else some (assoc, dpi)

/-- The path of a call of `sendAll`. -/
def pd (assoc : SCTPAssociation) (pathId : IPvXAddress) : IPvXAddress :=
  if pathId = .unspecified then assoc.primaryPathIndex else pathId

/-- The path that the chunks are said to be sent to. -/
def newDpi (assoc : SCTPAssociation) (pathId : IPvXAddress) : IPvXAddress :=
  if assoc.roomTransQ (assoc.pd pathId) > 0 then assoc.pd pathId else assoc.primaryPathIndex

/-- With a SACK the packet goes to where the last one came from. -/
def dpi (assoc : SCTPAssociation) (pathId : IPvXAddress) (bundled : Bool) : IPvXAddress :=
  if bundled then assoc.remoteAddr else assoc.newDpi pathId

def sendAll (assoc : SCTPAssociation) (pathId : IPvXAddress) (bundled : Bool)
    (rounds : List Round) : Option SCTPAssociation :=
  (rounds.foldlM (sendRound (assoc.pd pathId) (assoc.newDpi pathId))
    (assoc, assoc.dpi pathId bundled)).map Prod.fst

/-! ## Timeouts -/

/-- The chunk was sent to the path that has timed out. -/
def timedOut (path : IPvXAddress) (chunk : SCTPDataVariables) : Bool :=
  (!chunk.hasBeenAcked && chunk.countsAsOutstanding || chunk.hasBeenRemoved) &&
    chunk.lastDestination = path

/-- The statements that follow the first count of the booked bytes. -/
def bookTwice (assoc : SCTPAssociation) (pointer : Pointer) : SCTPAssociation :=
  let chunk := assoc.chunks pointer
  let first := assoc.discount pointer
  { first with
    bookedTransQ :=
      update first.bookedTransQ chunk.nextDestination
        (first.bookedTransQ chunk.nextDestination + chunk.booksize) }
    |>.discount pointer

/-- The body of the loop over the retransmission queue. -/
def requeue (path : IPvXAddress) (assoc : SCTPAssociation)
    (entry : Nat × Pointer) : Option SCTPAssociation :=
  let pointer := entry.2
  let chunk := assoc.chunks pointer
  if timedOut path chunk then
    (assoc.getNextDestination chunk.again).map fun nextDestination =>
      let marked := { chunk.again with nextDestination }
      let named := assoc.setChunk pointer marked
      if (assoc.transmissionQ.find chunk.tsn).isSome then named
      else
        (addRoom
          { named with transmissionQ := insertNew chunk.tsn.toNat pointer assoc.transmissionQ }
          marked).bookTwice pointer
  else some assoc

/-- The calls of `sendAll` at the end are steps of their own. -/
def process_TIMEOUT_RTX (assoc : SCTPAssociation) (path : IPvXAddress) : Option SCTPAssociation :=
  assoc.retransmissionQ.foldlM (requeue path) assoc

/-! ## Acknowledgements -/

def tsnGe (tsn1 tsn2 : Tsn) : Bool :=
  0 ≤ (tsn1 - tsn2).toInt

def tsnLt (tsn1 tsn2 : Tsn) : Bool :=
  (tsn1 - tsn2).toInt < 0

/-- A loop over TSNs that ends after at most so many steps. -/
def walk {State : Type} (goesOn : Tsn → Bool) (following : Tsn → Tsn)
    (body : Tsn → State → Option State) : Nat → Tsn → State → Option State
  | 0, _, _ => none
  | steps + 1, tsn, state =>
    if goesOn tsn then (body tsn state).bind (walk goesOn following body steps (following tsn))
    else some state

/-- A chunk of the retransmission queue is acknowledged for good. -/
def acknowledge (assoc : SCTPAssociation) (pointer : Pointer) : SCTPAssociation :=
  let chunk := assoc.chunks pointer
  if !chunk.hasBeenAcked && chunk.countsAsOutstanding then
    (assoc.setChunk pointer { chunk with hasBeenAcked := true }).discount pointer
  else assoc

/-- The loop takes a chunk out of the queue in each of its steps. -/
def dequeueAckedFrom (tsna : Tsn) : Nat → SCTPAssociation → Option SCTPAssociation
  | 0, assoc => some assoc
  | steps + 1, assoc =>
    match assoc.retransmissionQ with
    | [] => some assoc
    | first :: _ =>
      let tsn := (assoc.chunks first.2).tsn
      if tsnGe tsna tsn then
        let removed := assoc.removeMsg first.2
        match removed.retransmissionQ.find tsn with
        | none => none
        | some pointer =>
          dequeueAckedFrom tsna steps
            ({ removed with retransmissionQ := removed.retransmissionQ.erase tsn }.acknowledge
              pointer)
      else some assoc

def dequeueAckedChunks (assoc : SCTPAssociation) (tsna : Tsn) : Option SCTPAssociation :=
  dequeueAckedFrom tsna assoc.retransmissionQ.length assoc

/-- A chunk that was acknowledged has been removed by the receiver. -/
def renege (assoc : SCTPAssociation) (pointer : Pointer) : SCTPAssociation :=
  assoc.setChunk pointer { assoc.chunks pointer with hasBeenRemoved := true, gapReports := 1 }

def unack (assoc : SCTPAssociation) (pointer : Pointer) : SCTPAssociation :=
  assoc.setChunk pointer { assoc.chunks pointer with hasBeenAcked := false }

def isAcked (assoc : SCTPAssociation) (pointer : Pointer) : Bool :=
  (assoc.chunks pointer).hasBeenAcked

/-- No gaps, but a TSN above `tsna` was acknowledged before. -/
def renegeAbove (tsna i : Tsn) (assoc : SCTPAssociation) : Option SCTPAssociation :=
  match assoc.retransmissionQ.find i with
  | none => some assoc
  | some pointer =>
    if assoc.isAcked pointer then
      let unacked := assoc.unack pointer
      if (unacked.chunks pointer).countsAsOutstanding then some unacked
      else if i > tsna + 1 then
        (unacked.retransmissionQ.find (i - 1)).map fun lower =>
          { unacked with highestTsnAcked := if unacked.isAcked lower then i - 1 else tsna }.renege
            pointer
      else some ({ unacked with highestTsnAcked := tsna }.renege pointer)
    else some assoc

/-- The highest gap ends below a TSN that was acknowledged before. -/
def renegeBehind (i : Tsn) (assoc : SCTPAssociation) : Option SCTPAssociation :=
  match assoc.retransmissionQ.find i with
  | none => some assoc
  | some pointer =>
    if assoc.isAcked pointer then
      let unacked := (assoc.unack pointer).discount pointer
      let lowered :=
        match unacked.retransmissionQ.find (i - 1) with
        | none => unacked
        | some lower =>
          { unacked with
            highestTsnAcked := if unacked.isAcked lower then i - 1 else unacked.highestTsnAcked }
      some (lowered.renege pointer)
    else some assoc

/-- A TSN of a gap, with the variable `hiAcked`. -/
def gapAck (pos : Tsn) (current : SCTPAssociation × Tsn) : Option (SCTPAssociation × Tsn) :=
  let assoc := current.1
  match assoc.retransmissionQ.find pos with
  | none => some current
  | some pointer =>
    let datVar := assoc.chunks pointer
    if !datVar.hasBeenAcked && !datVar.hasBeenAbandoned && !datVar.hasBeenRemoved then
      let acked :=
        (((assoc.setChunk pointer
          { datVar with hasBeenAcked := true }).discount pointer).removeMsg pointer)
      some (acked.setChunk pointer { acked.chunks pointer with gapReports := 0 },
        if datVar.tsn > current.2 then datVar.tsn else current.2)
    else some current

/-- The chunk is put in the transmission queue for the first fast RTX. -/
def fastRetransmit (assoc : SCTPAssociation) (pointer : Pointer) : Option SCTPAssociation :=
  let chunk := assoc.chunks pointer
  if (assoc.transmissionQ.find chunk.tsn).isSome then some assoc
  else
    let marked := { chunk with hasBeenFastRetransmitted := true }
    (assoc.getNextDestination marked).map fun pid =>
      let named := (assoc.setChunk pointer { marked with nextDestination := pid }).discount pointer
      addRoom { named with transmissionQ := insertNew chunk.tsn.toNat pointer named.transmissionQ }
        (named.chunks pointer)

/-- A TSN that the SACK does not report. -/
def betweenGaps (hiAcked i : Tsn) (assoc : SCTPAssociation) : Option SCTPAssociation :=
  match assoc.retransmissionQ.find i with
  | none => some assoc
  | some pointer =>
    let chunk := assoc.chunks pointer
    if chunk.hasBeenAcked then some (((assoc.unack pointer).discount pointer).renege pointer)
    else if hiAcked > chunk.tsn then
      let reported := assoc.setChunk pointer { chunk with gapReports := chunk.gapReports + 1 }
      if chunk.gapReports + 1 ≥ assoc.numGapReports ∧ chunk.hasBeenFastRetransmitted = false ∧
          chunk.numberOfRetransmissions = 0 then
        reported.fastRetransmit pointer
      else some reported
    else some (assoc.setChunk pointer { chunk with hasBeenFastRetransmitted := false })

def unackTsn (i : Tsn) (assoc : SCTPAssociation) : Option SCTPAssociation :=
  match assoc.retransmissionQ.find i with
  | none => some assoc
  | some pointer => some (assoc.unack pointer)

/-- The loops over the TSNs of all gaps. -/
def gapAcks (steps : Nat) (gaps : List (Tsn × Tsn))
    (current : SCTPAssociation × Tsn) : Option (SCTPAssociation × Tsn) :=
  gaps.foldlM (fun current gap => walk (fun pos => pos ≤ gap.2) (· + 1) gapAck steps gap.1 current)
    current

/-- The loops over the TSNs between the gaps, with the variable `lo`. -/
def betweenAll (steps : Nat) (hiAcked : Tsn) (gaps : List (Tsn × Tsn))
    (current : SCTPAssociation × Tsn) : Option (SCTPAssociation × Tsn) :=
  gaps.foldlM
    (fun current gap =>
      (walk (fun i => i ≤ gap.1 - 1) (· + 1) (betweenGaps hiAcked) steps
        (current.2 + 1) current.1).map fun assoc => (assoc, gap.2))
    current

/-- The part for a SACK without gaps. -/
def withoutGaps (steps : Nat) (assoc : SCTPAssociation) (tsna : Tsn) : Option SCTPAssociation :=
  if tsnLt tsna assoc.highestTsnAcked then
    walk (fun i => i ≥ tsna + 1) (· - 1) (renegeAbove tsna) steps assoc.highestTsnAcked assoc
  else some assoc

/-- The TSNs above the last gap, which ends at `stop`, before the others. -/
def renegeAll (steps : Nat) (assoc : SCTPAssociation) (stop : Tsn) : Option SCTPAssociation :=
  if tsnLt stop assoc.highestTsnAcked then
    walk (fun i => i ≥ stop + 1) (· - 1) renegeBehind steps assoc.highestTsnAcked assoc
  else some assoc

/-- The TSNs above the last gap, after the others. -/
def unackAll (steps : Nat) (assoc : SCTPAssociation) (stop : Tsn) : Option SCTPAssociation :=
  let highest := { assoc with highestTsnAcked := stop }
  if stop < assoc.nextTSN - 1 then
    walk (fun i => i < assoc.nextTSN) (· + 1) unackTsn steps (stop + 1) highest
  else some highest

/-- The part for a SACK with gaps. -/
def withGaps (steps : Nat) (assoc : SCTPAssociation) (tsna : Tsn)
    (gaps : List (Tsn × Tsn)) (stop : Tsn) : Option SCTPAssociation :=
  (assoc.renegeAll steps stop).bind fun reneged =>
    (gapAcks steps gaps (reneged, tsna)).bind fun acked =>
      (betweenAll steps acked.2 gaps (acked.1, tsna)).bind fun between =>
        between.1.unackAll steps stop

/-- The cumulative TSN is advanced. -/
def cumulativeAck (assoc : SCTPAssociation) (tsna : Tsn) : Option SCTPAssociation :=
  (assoc.dequeueAckedChunks tsna).map fun dequeued => { dequeued with lastTsnAck := tsna }

def reportGaps (steps : Nat) (sackChunk : SCTPSackChunk)
    (assoc : SCTPAssociation) : Option SCTPAssociation :=
  match sackChunk.gaps.getLast? with
  | none => assoc.withoutGaps steps sackChunk.cumTsnAck
  | some last =>
    if assoc.retransmissionQ.isEmpty then some assoc
    else assoc.withGaps steps sackChunk.cumTsnAck sackChunk.gaps last.2

def processSackArrived (steps : Nat) (assoc : SCTPAssociation)
    (sackChunk : SCTPSackChunk) : Option SCTPAssociation :=
  let tsna := sackChunk.cumTsnAck
  if tsnGt tsna assoc.lastTsnAck then (assoc.cumulativeAck tsna).bind (reportGaps steps sackChunk)
  else if tsnLt tsna assoc.lastTsnAck then some assoc
  else reportGaps steps sackChunk assoc

/-- A SHUTDOWN chunk; the TSNs are compared as numbers. -/
def processShutdownArrived (assoc : SCTPAssociation) (cumTsnAck : Tsn) : Option SCTPAssociation :=
  if cumTsnAck > assoc.lastTsnAck then assoc.cumulativeAck cumTsnAck else some assoc

end SCTPAssociation

/-! ## Runs -/

inductive Event where
  /-- A message is put in the queue of a stream. -/
  | messageQueued (sid : Nat) (ordered : Bool) (datMsg : SCTPDataMsg)
  | sendAll (pathId : IPvXAddress) (bundled : Bool) (rounds : List SCTPAssociation.Round)
  | sackArrived (sackChunk : SCTPSackChunk)
  | shutdownArrived (cumTsnAck : Tsn)
  | timeoutRtx (path : IPvXAddress)
  /-- The state of the paths, and the address that a packet came from. -/
  | pathsChange (sctpPathMap : List (IPvXAddress × SCTPPathVariables))
      (primaryPathIndex remoteAddr : IPvXAddress)
  /-- Fast recovery and the receiving side set these. -/
  | tsnsChange (lastTsnAck highestTsnAcked : Tsn)

def queueMessage (assoc : SCTPAssociation) (sid : Nat) (ordered : Bool)
    (datMsg : SCTPDataMsg) : SCTPAssociation :=
  let stream := assoc.sendStreams sid
  { assoc with
    sendStreams :=
      update assoc.sendStreams sid
        (if ordered then { stream with streamQ := stream.streamQ ++ [datMsg] }
        else
          { stream with
            unorderedStreamQ := stream.unorderedStreamQ ++ [datMsg] }) }

def step (assoc : SCTPAssociation) : Event → SCTPAssociation → Prop
  | .messageQueued sid ordered datMsg, next =>
    next = queueMessage assoc sid ordered datMsg
  | .sendAll pathId bundled rounds, next => assoc.sendAll pathId bundled rounds = some next
  | .sackArrived sackChunk, next => ∃ steps, assoc.processSackArrived steps sackChunk = some next
  | .shutdownArrived cumTsnAck, next => assoc.processShutdownArrived cumTsnAck = some next
  | .timeoutRtx path, next => assoc.process_TIMEOUT_RTX path = some next
  | .pathsChange sctpPathMap primaryPathIndex remoteAddr, next =>
    next =
      { assoc with
        sctpPathMap
        primaryPathIndex
        remoteAddr }
  | .tsnsChange lastTsnAck highestTsnAcked, next =>
    next = { assoc with lastTsnAck, highestTsnAcked }

end OmnetDsi.Sctp.SendQueues
