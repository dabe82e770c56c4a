import OmnetDsi.Ospf.LSAIdentity
import OmnetDsi.Ospf.ReliableFlooding

/-!
# Database exchange

Two neighbours tell each other the headers of their LSAs.  Both begin with
initial packets.  The router with the smaller ID answers as the slave; the
other one then polls as the master, and each poll and each response carries
the next headers of a summary that the sender made when it left
`ExchangeStart`.  The packets of each direction travel in order, and none is
lost; a router drops those that were sent with a larger MTU than its own.

`Phase` says which packets can be on their way and which headers they carry.
It holds in every run, so that no packet is out of sequence and the headers
that a router has received, those under way and those that its neighbour still
has to send are always the neighbour's summary.
-/

namespace OmnetDsi.Ospf.DatabaseExchange

open List
open Library.Transition Ospf.LSAHeaders Ospf.NeighborLists
open OmnetDsi.Ospf.LSAIdentity (IsSummary)
open OmnetDsi.Ospf.ReliableFlooding (OSPFInterfaceType)
open OmnetDsi.Ospf.ShortestPathTree (MAX_AGE)

/-! ## Databases -/

/-- The vector of the LSAs of a kind, whose map has them under their indices. -/
structure LSATable {Key : Type} (index : OSPFLSAHeader → Key) (kind : LSAType → Bool) where
  lsas : List OSPFLSAHeader
  kinds : ∀ lsa ∈ lsas, kind lsa.lsType = true
  distinct : (lsas.map index).Nodup

def LSATable.find {Key : Type} [DecidableEq Key] {index : OSPFLSAHeader → Key}
    {kind : LSAType → Bool} (table : LSATable index kind) (key : Key) : Option OSPFLSAHeader :=
  table.lsas.find? fun lsa => index lsa = key

/-- The database of an area, with the AS-external LSAs of the router. -/
structure Database where
  routerLSAs : LSATable OSPFLSAHeader.linkStateID (· == .routerLSAType)
  networkLSAs : LSATable OSPFLSAHeader.linkStateID (· == .networkLSAType)
  summaryLSAs : LSATable OSPFLSAHeader.lsaKey IsSummary
  asExternalLSAs : LSATable OSPFLSAHeader.lsaKey (· == .asExternalLSAType)

def FindLSA (database : Database) (lsaType : LSAType) (lsaKey : LSAKeyType) :
    Option OSPFLSAHeader :=
  match lsaType with
  | .routerLSAType => database.routerLSAs.find lsaKey.linkStateID
  | .networkLSAType => database.networkLSAs.find lsaKey.linkStateID
  | .summaryLSA_NetworksType | .summaryLSA_ASBoundaryRoutersType => database.summaryLSAs.find lsaKey
  | .asExternalLSAType => database.asExternalLSAs.find lsaKey

/-- The database has no copy of the LSA, or an older one. -/
def lacks (database : Database) (lsaHeader : OSPFLSAHeader) : Bool :=
  match FindLSA database lsaHeader.lsType lsaHeader.lsaKey with
  | none => true
  | some lsaInDatabase => operatorLess lsaInDatabase lsaHeader

/-! ## Packets -/

def IPV4_HEADER_LENGTH : Nat := 60

def IPV4_DATAGRAM_LENGTH : Nat := 65536

def OSPF_HEADER_LENGTH : Nat := 24

def OSPF_LSA_HEADER_LENGTH : Nat := 20

def OSPF_DD_HEADER_LENGTH : Nat := 8

def OSPF_REQUEST_LENGTH : Nat := 12

/-- The one option that is ever set. -/
structure OSPFOptions where
  e_ExternalRoutingCapability : Bool
deriving DecidableEq

structure OSPFDDOptions where
  i_Init : Bool
  m_More : Bool
  ms_MasterSlave : Bool
deriving DecidableEq

structure OSPFDatabaseDescriptionPacket where
  interfaceMTU : BitVec 16
  options : OSPFOptions
  ddOptions : OSPFDDOptions
  ddSequenceNumber : BitVec 64
  lsaHeaders : List OSPFLSAHeader

/-- Two packets with the same one are taken for the same packet. -/
structure DDPacketID where
  ddOptions : OSPFDDOptions
  options : OSPFOptions
  sequenceNumber : BitVec 64
deriving DecidableEq

def OSPFDatabaseDescriptionPacket.packetID
    (ddPacket : OSPFDatabaseDescriptionPacket) : DDPacketID where
  ddOptions := ddPacket.ddOptions
  options := ddPacket.options
  sequenceNumber := ddPacket.ddSequenceNumber

structure LSARequest where
  lsType : LSAType
  linkStateID : Nat
  advertisingRouter : Nat

/--
The loop that fills a packet: the items that are included, and those that
remain.
-/
def fillPacket {Item : Type} (maxPacketSize itemLength : Nat) :
    Nat → List Item → List Item × List Item
  | _, [] => ([], [])
  | packetSize, item :: rest =>
    if packetSize + itemLength ≤ maxPacketSize then
      let filled := fillPacket maxPacketSize itemLength (packetSize + itemLength) rest
      (item :: filled.1, filled.2)
    else ([], item :: rest)

theorem fillPacket_append (maxPacketSize itemLength packetSize : Nat) (items : List Item) :
    (fillPacket maxPacketSize itemLength packetSize items).1 ++
        (fillPacket maxPacketSize itemLength packetSize items).2 =
      items := by
  induction items generalizing packetSize with
  | nil => rfl
  | cons _ _ induction =>
    unfold fillPacket
    split_ifs with room
    · rw [cons_append, induction]
    · rfl

/-! ## Neighbours -/

/-- The states from `ExchangeStart` on. -/
inductive NeighborStateType where
  | exchangeStartState
  | exchangeState
  | loadingState
  | fullState
deriving DecidableEq

/-- The events of an exchange. -/
inductive NeighborEventType where
  | negotiationDone
  | exchangeDone
  | loadingDone
  | sequenceNumberMismatch
  | ddRetransmissionTimer
deriving DecidableEq

inductive DatabaseExchangeRelationshipType where
  | master
  | slave
deriving DecidableEq

structure Neighbor where
  state : NeighborStateType
  databaseExchangeRelationship : DatabaseExchangeRelationshipType
  ddSequenceNumber : BitVec 64
  neighborOptions : OSPFOptions
  lastReceivedDDPacket : DDPacketID
  lastTransmittedDDPacket : Option OSPFDatabaseDescriptionPacket
  databaseSummaryList : List OSPFLSAHeader
  linkStateRequestList : List OSPFLSAHeader
  /-- The timer is scheduled. -/
  ddRetransmissionTimer : Bool
  requestRetransmissionTimerActive : Bool

/-- The interface to the neighbour, with what its router and area know. -/
structure Interface where
  routerID : Nat
  neighborID : Nat
  interfaceType : OSPFInterfaceType
  mtu : BitVec 16
  externalRoutingCapability : Bool

/-- The MTU that is put into packets. -/
def Interface.interfaceMTU (intf : Interface) : BitVec 16 :=
  if intf.interfaceType ≠ .virtual then intf.mtu else 0

def Interface.options (intf : Interface) : OSPFOptions where
  e_ExternalRoutingCapability := intf.externalRoutingCapability

/-- The size up to which a packet is filled whose headers have this length. -/
def Interface.maxPacketSize (intf : Interface) (minimum : Nat) : Nat :=
  if minimum > intf.mtu.toNat then IPV4_DATAGRAM_LENGTH else intf.mtu.toNat

/--
A router with its one neighbour.  `channel` has the DD packets on their way to
the neighbour, `requests` the link state request packets.  The last three
fields record the events that were signalled, the database summary when it was
made, and the headers received, each with the database at the time.
-/
structure Router extends Neighbor where
  database : Database
  channel : List OSPFDatabaseDescriptionPacket
  requests : List (List LSARequest)
  signalled : List NeighborEventType
  summary : Option (List OSPFLSAHeader)
  processed : List (OSPFLSAHeader × Database)

/-! ## Sending -/

/-- A DD packet of the router. -/
def composePacket (intf : Interface) (ddOptions : OSPFDDOptions)
    (ddSequenceNumber : BitVec 64) (lsaHeaders : List OSPFLSAHeader) :
    OSPFDatabaseDescriptionPacket where
  interfaceMTU := intf.interfaceMTU
  options := intf.options
  ddOptions
  ddSequenceNumber
  lsaHeaders

/-- The headers that fit into a packet, and the others. -/
def fillHeaders (intf : Interface) (databaseSummaryList : List OSPFLSAHeader) :
    List OSPFLSAHeader × List OSPFLSAHeader :=
  let headerLength := IPV4_HEADER_LENGTH + OSPF_HEADER_LENGTH + OSPF_DD_HEADER_LENGTH
  fillPacket (intf.maxPacketSize (headerLength + OSPF_LSA_HEADER_LENGTH))
    OSPF_LSA_HEADER_LENGTH headerLength databaseSummaryList

def sendPacket (router : Router) (ddPacket : OSPFDatabaseDescriptionPacket) : Router :=
  { router with channel := router.channel ++ [ddPacket], lastTransmittedDDPacket := some ddPacket }

def SendDatabaseDescriptionPacket (intf : Interface) (router : Router) (init : Bool) : Router :=
  if init then
    let ddOptions : OSPFDDOptions := { i_Init := true, m_More := true, ms_MasterSlave := true }
    sendPacket router (composePacket intf ddOptions router.ddSequenceNumber [])
  else
    let filled := fillHeaders intf router.databaseSummaryList
    let ddOptions : OSPFDDOptions :=
      { i_Init := false
        m_More := !filled.2.isEmpty
        ms_MasterSlave := router.databaseExchangeRelationship = .master }
    sendPacket { router with databaseSummaryList := filled.2 }
      (composePacket intf ddOptions router.ddSequenceNumber filled.1)

/-- `false` if there is nothing to send again. -/
def RetransmitDatabaseDescriptionPacket (router : Router) : Router × Bool :=
  match router.lastTransmittedDDPacket with
  | some ddPacket => ({ router with channel := router.channel ++ [ddPacket] }, true)
  | none => (router, false)

def SendLinkStateRequestPacket (intf : Interface) (router : Router) : Router :=
  let headerLength := IPV4_HEADER_LENGTH + OSPF_HEADER_LENGTH
  let filled :=
    fillPacket (intf.maxPacketSize (headerLength + OSPF_REQUEST_LENGTH))
      OSPF_REQUEST_LENGTH headerLength router.linkStateRequestList
  let packet := filled.1.map fun requestHeader =>
    { lsType := requestHeader.lsType
      linkStateID := requestHeader.linkStateID
      advertisingRouter := requestHeader.advertisingRouter : LSARequest }
  { router with requests := router.requests ++ [packet] }

/-- Requests are sent unless the timer shows that some have been sent. -/
def requestLSAs (intf : Interface) (router : Router) : Router :=
  if router.linkStateRequestList ≠ [] ∧ ¬router.requestRetransmissionTimerActive then
    { SendLinkStateRequestPacket intf router with requestRetransmissionTimerActive := true }
  else router

/-! ## Events -/

/-- The headers of a database that are told to the neighbour. -/
def summaryOf (intf : Interface) (database : Database) : List OSPFLSAHeader :=
  let young := filter fun lsa : OSPFLSAHeader => lsa.lsAge < MAX_AGE
  young database.routerLSAs.lsas ++ young database.networkLSAs.lsas ++
    young database.summaryLSAs.lsas ++
    if intf.interfaceType ≠ .virtual ∧ intf.externalRoutingCapability then
      young database.asExternalLSAs.lsas
    else []

def CreateDatabaseSummary (intf : Interface) (router : Router) : Router :=
  let databaseSummaryList := router.databaseSummaryList ++ summaryOf intf router.database
  { router with databaseSummaryList, summary := some databaseSummaryList }

def Reset (router : Router) : Router :=
  { router with
    databaseSummaryList := []
    linkStateRequestList := []
    ddRetransmissionTimer := false
    requestRetransmissionTimerActive := false
    lastTransmittedDDPacket := none }

def IncrementDDSequenceNumber (router : Router) : Router :=
  { router with ddSequenceNumber := router.ddSequenceNumber + 1 }

def DeleteLastSentDDPacket (router : Router) : Router :=
  { router with lastTransmittedDDPacket := none }

/-- The state reacts to an event. -/
def react (intf : Interface) (router : Router) : NeighborEventType → Router
  | .ddRetransmissionTimer =>
    match router.state with
    | .exchangeStartState =>
      { (RetransmitDatabaseDescriptionPacket router).1 with ddRetransmissionTimer := true }
    | .exchangeState => router
    | .loadingState | .fullState => DeleteLastSentDDPacket router
  | .negotiationDone =>
    match router.state with
    | .exchangeStartState =>
      { SendDatabaseDescriptionPacket intf
          (CreateDatabaseSummary intf router) false with
        ddRetransmissionTimer := false
        state := .exchangeState }
    | _ => router
  | .sequenceNumberMismatch =>
    match router.state with
    | .exchangeStartState => router
    | _ =>
      { SendDatabaseDescriptionPacket intf
          (IncrementDDSequenceNumber (Reset router)) true with
        ddRetransmissionTimer := true
        state := .exchangeStartState }
  | .exchangeDone =>
    match router.state with
    | .exchangeState =>
      if router.linkStateRequestList = [] then
        { router with
          ddRetransmissionTimer := true
          requestRetransmissionTimerActive := false
          state := .fullState }
      else { router with ddRetransmissionTimer := true, state := .loadingState }
    | _ => router
  | .loadingDone =>
    match router.state with
    | .loadingState =>
      { router with requestRetransmissionTimerActive := false, state := .fullState }
    | _ => router

def ProcessEvent (intf : Interface) (router : Router) (event : NeighborEventType) : Router :=
  react intf { router with signalled := router.signalled ++ [event] } event

/-- `RemoveFromRequestList` of a neighbour: loading may be done. -/
def removeRequest (intf : Interface) (router : Router) (lsaKey : LSAKeyType) : Router :=
  let list := RemoveFromRequestList router.linkStateRequestList lsaKey
  let removed := { router with linkStateRequestList := list }
  if router.state = .loadingState ∧ list = [] then ProcessEvent intf removed .loadingDone
  else removed

/-! ## Receiving -/

/-- The header is requested if the database lacks the LSA. -/
def processHeader (router : Router) (currentHeader : OSPFLSAHeader) : Router :=
  { router with
    linkStateRequestList :=
      if lacks router.database currentHeader then
        AddToRequestList router.linkStateRequestList currentHeader
      else router.linkStateRequestList
    processed := router.processed ++ [(currentHeader, router.database)] }

/-- The header is of no type that the area has. -/
def erroneous (intf : Interface) (header : OSPFLSAHeader) : Bool :=
  header.lsType = .asExternalLSAType && !intf.externalRoutingCapability

def processHeaders (intf : Interface) (router : Router) : List OSPFLSAHeader → Router × Bool
  | [] => (router, true)
  | currentHeader :: rest =>
    if erroneous intf currentHeader then (ProcessEvent intf router .sequenceNumberMismatch, false)
    else processHeaders intf (processHeader router currentHeader) rest

/-- What follows the headers for the master. -/
def continueAsMaster (intf : Interface) (router : Router)
    (ddPacket : OSPFDatabaseDescriptionPacket) (inExchangeStart : Bool) : Router :=
  let router := IncrementDDSequenceNumber router
  if router.databaseSummaryList = [] ∧ ¬ddPacket.ddOptions.m_More then
    ProcessEvent intf router .exchangeDone
  else if ¬inExchangeStart then SendDatabaseDescriptionPacket intf router false
  else router

/-- What follows the headers for the slave. -/
def continueAsSlave (intf : Interface) (router : Router)
    (ddPacket : OSPFDatabaseDescriptionPacket) (inExchangeStart : Bool) : Router :=
  let router := { router with ddSequenceNumber := ddPacket.ddSequenceNumber }
  let router := if ¬inExchangeStart then SendDatabaseDescriptionPacket intf router false else router
  if ¬ddPacket.ddOptions.m_More ∧ router.databaseSummaryList = [] then
    ProcessEvent intf router .exchangeDone
  else router

def ProcessDDPacket (intf : Interface) (router : Router)
    (ddPacket : OSPFDatabaseDescriptionPacket) (inExchangeStart : Bool) : Router × Bool :=
  match processHeaders intf router ddPacket.lsaHeaders with
  | (router, false) => (router, false)
  | (router, true) =>
    match router.databaseExchangeRelationship with
    | .master => (continueAsMaster intf router ddPacket inExchangeStart, true)
    | .slave => (continueAsSlave intf router ddPacket inExchangeStart, true)

/-- The relationship is negotiated, and the packet is the first one. -/
def negotiate (intf : Interface) (router : Router)
    (ddPacket : OSPFDatabaseDescriptionPacket) : Router :=
  match ProcessDDPacket intf router ddPacket true with
  | (router, false) => router
  | (router, true) => requestLSAs intf (ProcessEvent intf router .negotiationDone)

def becomeSlave (router : Router) (ddPacket : OSPFDatabaseDescriptionPacket) : Router :=
  { router with
    neighborOptions := ddPacket.options
    databaseExchangeRelationship := .slave
    ddSequenceNumber := ddPacket.ddSequenceNumber
    lastReceivedDDPacket := ddPacket.packetID }

def becomeMaster (router : Router) (ddPacket : OSPFDatabaseDescriptionPacket) : Router :=
  { router with
    neighborOptions := ddPacket.options
    databaseExchangeRelationship := .master
    lastReceivedDDPacket := ddPacket.packetID }

def processInExchangeStart (intf : Interface) (router : Router)
    (ddPacket : OSPFDatabaseDescriptionPacket) : Router :=
  let ddOptions := ddPacket.ddOptions
  if ddOptions.i_Init then
    if ddOptions.m_More ∧ ddOptions.ms_MasterSlave ∧ ddPacket.lsaHeaders = [] then
      if intf.neighborID > intf.routerID then negotiate intf (becomeSlave router ddPacket) ddPacket
      else SendDatabaseDescriptionPacket intf router true
    else router
  else if ¬ddOptions.ms_MasterSlave ∧ ddPacket.ddSequenceNumber = router.ddSequenceNumber ∧
      intf.neighborID < intf.routerID then
    negotiate intf (becomeMaster router ddPacket) ddPacket
  else router

/-- The packet does not belong to the exchange. -/
def misplaced (router : Router) (packetID : DDPacketID) : Bool :=
  packetID.ddOptions.ms_MasterSlave && router.databaseExchangeRelationship ≠ .slave ||
    !packetID.ddOptions.ms_MasterSlave && router.databaseExchangeRelationship ≠ .master ||
    packetID.ddOptions.i_Init || packetID.options ≠ router.lastReceivedDDPacket.options

/-- The packet is the next one. -/
def inSequence (router : Router) (packetID : DDPacketID) : Bool :=
  match router.databaseExchangeRelationship with
  | .master => packetID.sequenceNumber = router.ddSequenceNumber
  | .slave => packetID.sequenceNumber = router.ddSequenceNumber + 1

def processInExchange (intf : Interface) (router : Router)
    (ddPacket : OSPFDatabaseDescriptionPacket) : Router :=
  let packetID := ddPacket.packetID
  if packetID ≠ router.lastReceivedDDPacket then
    if misplaced router packetID then ProcessEvent intf router .sequenceNumberMismatch
    else if inSequence router packetID then
      match ProcessDDPacket intf
          { router with lastReceivedDDPacket := packetID } ddPacket false with
      | (router, false) => router
      | (router, true) => requestLSAs intf router
    else ProcessEvent intf router .sequenceNumberMismatch
  else
    match router.databaseExchangeRelationship with
    | .slave => (RetransmitDatabaseDescriptionPacket router).1
    | .master => router

/-- In the states `Loading` and `Full`. -/
def processAfterExchange (intf : Interface) (router : Router)
    (ddPacket : OSPFDatabaseDescriptionPacket) : Router :=
  if ddPacket.packetID ≠ router.lastReceivedDDPacket ∨ ddPacket.ddOptions.i_Init then
    ProcessEvent intf router .sequenceNumberMismatch
  else
    match router.databaseExchangeRelationship with
    | .slave =>
      match RetransmitDatabaseDescriptionPacket router with
      | (router, true) => router
      | (router, false) => ProcessEvent intf router .sequenceNumberMismatch
    | .master => router

def ProcessPacket (intf : Interface) (router : Router)
    (ddPacket : OSPFDatabaseDescriptionPacket) : Router :=
  if ddPacket.interfaceMTU ≤ intf.mtu then
    match router.state with
    | .exchangeStartState => processInExchangeStart intf router ddPacket
    | .exchangeState => processInExchange intf router ddPacket
    | .loadingState | .fullState => processAfterExchange intf router ddPacket
  else router

/-! ## Runs -/

inductive Side where
  | lower
  | higher

/-- Two neighbours, of which the one with the smaller ID is called the lower. -/
structure Link where
  lower : Interface
  higher : Interface
  ordered : lower.routerID < higher.routerID
  lowerID : higher.neighborID = lower.routerID
  higherID : lower.neighborID = higher.routerID
  /-- Hello packets with another capability are ignored. -/
  capability : lower.externalRoutingCapability = higher.externalRoutingCapability

structure Exchange where
  lower : Router
  higher : Router

def Exchange.router (exchange : Exchange) : Side → Router
  | .lower => exchange.lower
  | .higher => exchange.higher

def Side.other : Side → Side
  | .lower => .higher
  | .higher => .lower

/-- What happens at one router apart from DD packets. -/
inductive LocalEvent where
  | ddRetransmissionTimer
  /-- The database changes, by flooding or by age. -/
  | install (database : Database)
  /-- A copy of an LSA on the request list has been received. -/
  | update (lsaKey : LSAKeyType)

inductive Event where
  | deliver (side : Side)
  | locally (side : Side) (event : LocalEvent)

inductive LocalStep (intf : Interface) : Router → LocalEvent → Router → Prop where
  | ddRetransmissionTimer {router : Router} (scheduled : router.ddRetransmissionTimer = true) :
      LocalStep intf router .ddRetransmissionTimer
        (ProcessEvent intf { router with ddRetransmissionTimer := false } .ddRetransmissionTimer)
  | install (router : Router) (database : Database) :
      LocalStep intf router (.install database) { router with database }
  | update (router : Router) (lsaKey : LSAKeyType) :
      LocalStep intf router (.update lsaKey) (removeRequest intf router lsaKey)

/-- The first packet of a channel is delivered. -/
inductive Step (link : Link) : Exchange → Event → Exchange → Prop where
  | deliverToLower {lower higher : Router} {ddPacket : OSPFDatabaseDescriptionPacket}
      {rest : List OSPFDatabaseDescriptionPacket} (first : higher.channel = ddPacket :: rest) :
      Step link ⟨lower, higher⟩ (.deliver .lower)
        ⟨ProcessPacket link.lower lower ddPacket, { higher with channel := rest }⟩
  | deliverToHigher {lower higher : Router} {ddPacket : OSPFDatabaseDescriptionPacket}
      {rest : List OSPFDatabaseDescriptionPacket} (first : lower.channel = ddPacket :: rest) :
      Step link ⟨lower, higher⟩ (.deliver .higher)
        ⟨{ lower with channel := rest }, ProcessPacket link.higher higher ddPacket⟩
  | atLower {lower higher next : Router} {event : LocalEvent}
      (taken : LocalStep link.lower lower event next) :
      Step link ⟨lower, higher⟩ (.locally .lower event) ⟨next, higher⟩
  | atHigher {lower higher next : Router} {event : LocalEvent}
      (taken : LocalStep link.higher higher event next) :
      Step link ⟨lower, higher⟩ (.locally .higher event) ⟨lower, next⟩

/-! ## What the exchange depends on -/

/-- The exchange does not tell `Full` from `Loading`. -/
def settled : NeighborStateType → NeighborStateType
  | .fullState => .loadingState
  | state => state

/-- A router as far as the exchange goes. -/
structure View where
  state : NeighborStateType
  relationship : DatabaseExchangeRelationshipType
  ddSequenceNumber : BitVec 64
  lastReceived : DDPacketID
  /-- No longer needed when the exchange is done. -/
  lastTransmitted : Option OSPFDatabaseDescriptionPacket
  list : List OSPFLSAHeader
  channel : List OSPFDatabaseDescriptionPacket
  summary : Option (List OSPFLSAHeader)
  received : List OSPFLSAHeader
  mismatched : Bool
  done : Bool

def Router.view (router : Router) : View where
  state := settled router.state
  relationship := router.databaseExchangeRelationship
  ddSequenceNumber := router.ddSequenceNumber
  lastReceived := router.lastReceivedDDPacket
  lastTransmitted :=
    match router.state with
    | .exchangeStartState | .exchangeState => router.lastTransmittedDDPacket
    | .loadingState | .fullState => none
  list := router.databaseSummaryList
  channel := router.channel
  summary := router.summary
  received := router.processed.map Prod.fst
  mismatched := router.signalled.contains .sequenceNumberMismatch
  done := router.signalled.contains .exchangeDone

/-- The packet with which a router begins. -/
def initialPacket (intf : Interface) (ddSequenceNumber : BitVec 64) :
    OSPFDatabaseDescriptionPacket :=
  composePacket intf ⟨true, true, true⟩ ddSequenceNumber []

/-- A later packet, after which some headers of the summary remain. -/
def message (intf : Interface) (relationship : DatabaseExchangeRelationshipType)
    (ddSequenceNumber : BitVec 64) (headers remaining : List OSPFLSAHeader) :
    OSPFDatabaseDescriptionPacket :=
  composePacket intf ⟨false, !remaining.isEmpty, relationship = .master⟩ ddSequenceNumber headers

/-- The sender of the message has done its part with it. -/
def View.send (view : View) (ddPacket : OSPFDatabaseDescriptionPacket)
    (remaining : List OSPFLSAHeader) : View :=
  { view with
    list := remaining
    channel := view.channel ++ [ddPacket]
    lastTransmitted := some ddPacket }

section Processing

variable {intf other : Interface} {router : Router}

theorem view_send (early : router.state = .exchangeStartState ∨ router.state = .exchangeState) :
    ∃ headers remaining, headers ++ remaining = router.databaseSummaryList ∧
      (SendDatabaseDescriptionPacket intf router false).view =
        router.view.send
          (message intf router.databaseExchangeRelationship
            router.ddSequenceNumber headers remaining)
          remaining := by
  refine ⟨(fillHeaders _ router.databaseSummaryList).1,
    (fillHeaders intf router.databaseSummaryList).2, fillPacket_append .., ?_⟩
  rcases early with state | state
  all_goals
    simp [SendDatabaseDescriptionPacket, sendPacket, Router.view, View.send, message, state]

theorem view_requestLSAs : (requestLSAs intf router).view = router.view := by
  unfold requestLSAs
  split_ifs
  all_goals rfl

/-- No header is of a type that the area does not have. -/
def Admissible (intf : Interface) (headers : List OSPFLSAHeader) : Prop :=
  ∀ header ∈ headers, erroneous intf header = false

/-- The router when it has processed these headers. -/
def takeHeaders (router : Router) (headers : List OSPFLSAHeader) : Router :=
  { router with
    linkStateRequestList := router.linkStateRequestList ++ headers.filter (lacks router.database)
    processed := router.processed ++ headers.map fun header => (header, router.database) }

theorem processHeaders_eq (admissible : Admissible intf headers) :
    processHeaders intf router headers = (takeHeaders router headers, true) := by
  induction headers generalizing router with
  | nil => simp [processHeaders, takeHeaders]
  | cons header rest induction =>
    have tail : Admissible intf rest := fun other member => admissible _ (mem_cons_of_mem _ member)
    rw [processHeaders, admissible _ (mem_cons_self ..), if_neg Bool.false_ne_true, induction tail]
    by_cases lacking : lacks router.database header = true
    · simp [processHeader, takeHeaders, AddToRequestList, lacking]
    · simp [processHeader, takeHeaders, lacking]

theorem view_takeHeaders :
    (takeHeaders router headers).view =
      { router.view with received := router.view.received ++ headers } := by
  simp only [takeHeaders, Router.view, map_append, map_map, Function.comp_def, map_id']

theorem admissible_summaryOf (database : Database) : Admissible intf (summaryOf intf database) := by
  intro header member
  have known : header.lsType ≠ .asExternalLSAType ∨ intf.externalRoutingCapability = true := by
    simp only [summaryOf, mem_append, mem_filter] at member
    rcases member with ((listed | listed) | listed) | listed
    · have kind := database.routerLSAs.kinds _ listed.1
      left
      intro external
      rw [external] at kind
      cases kind
    · have kind := database.networkLSAs.kinds _ listed.1
      left
      intro external
      rw [external] at kind
      cases kind
    · have kind := database.summaryLSAs.kinds _ listed.1
      left
      intro external
      rw [external] at kind
      cases kind
    · right
      split_ifs at listed with capable
      · exact capable.2
      · cases listed
  rcases known with other | capable
  · simp [erroneous, other]
  · simp [erroneous, capable]

theorem state_of_view (early : state = .exchangeStartState ∨ state = .exchangeState)
    (seen : router.view.state = state) : router.state = state := by
  have same : settled router.state = state := seen
  rcases early with rfl | rfl
  all_goals
    revert same
    cases router.state with
    | _ => simp [settled]

theorem view_negotiationDone (state : router.view.state = .exchangeStartState)
    (list : router.view.list = []) :
    ∃ headers remaining, Admissible intf (headers ++ remaining) ∧
      (ProcessEvent intf router .negotiationDone).view =
        View.send
          { router.view with state := .exchangeState, summary := some (headers ++ remaining) }
          (message intf router.view.relationship router.view.ddSequenceNumber headers remaining)
          remaining := by
  have whole :=
    fillPacket_append
      (intf.maxPacketSize (IPV4_HEADER_LENGTH + OSPF_HEADER_LENGTH +
        OSPF_DD_HEADER_LENGTH + OSPF_LSA_HEADER_LENGTH))
      OSPF_LSA_HEADER_LENGTH
      (IPV4_HEADER_LENGTH + OSPF_HEADER_LENGTH + OSPF_DD_HEADER_LENGTH)
      (summaryOf intf router.database)
  have early := state_of_view (.inl rfl) state
  have empty : router.databaseSummaryList = [] := list
  refine ⟨(fillHeaders intf (summaryOf intf router.database)).1,
    (fillHeaders intf (summaryOf intf router.database)).2, ?_, ?_⟩
  · rw [fillHeaders, whole]
    exact admissible_summaryOf router.database
  · rw [fillHeaders, whole]
    simp [ProcessEvent, react, early, CreateDatabaseSummary, empty,
      SendDatabaseDescriptionPacket, sendPacket, Router.view, View.send,
      message, settled, fillHeaders]

/-- The lower router becomes the slave and sends its first headers. -/
theorem view_answer (smaller : intf.routerID < intf.neighborID)
    (accepted : other.interfaceMTU ≤ intf.mtu)
    (state : router.view.state = .exchangeStartState) (list : router.view.list = []) :
    ∃ headers remaining, Admissible intf (headers ++ remaining) ∧
      (ProcessPacket intf router (initialPacket other ddSequenceNumber)).view =
        View.send
          { router.view with
            state := .exchangeState
            relationship := .slave
            ddSequenceNumber
            lastReceived := (initialPacket other ddSequenceNumber).packetID
            summary := some (headers ++ remaining) }
          (message intf .slave ddSequenceNumber headers remaining)
          remaining := by
  have early := state_of_view (.inl rfl) state
  have processed :
      ProcessPacket intf router (initialPacket other ddSequenceNumber) =
        requestLSAs intf
          (ProcessEvent intf (becomeSlave router (initialPacket other ddSequenceNumber))
            .negotiationDone) := by
    simp [ProcessPacket, initialPacket, composePacket, accepted, early,
      processInExchangeStart, smaller, negotiate, ProcessDDPacket,
      processHeaders, becomeSlave, continueAsSlave]
  rw [processed, view_requestLSAs]
  exact @view_negotiationDone _ _ state list

/-- The higher router answers an initial packet with one of its own. -/
theorem view_begin (larger : intf.neighborID < intf.routerID)
    (accepted : other.interfaceMTU ≤ intf.mtu) (state : router.view.state = .exchangeStartState) :
    (ProcessPacket intf router (initialPacket other ddSequenceNumber)).view =
      router.view.send (initialPacket intf router.view.ddSequenceNumber) router.view.list := by
  have early := state_of_view (.inl rfl) state
  simp [ProcessPacket, initialPacket, composePacket, accepted, early,
    processInExchangeStart, larger.not_gt, SendDatabaseDescriptionPacket,
    sendPacket, Router.view, View.send]

theorem view_continueInExchangeStart
    (state : router.view.state = .exchangeStartState) (list : router.view.list = []) :
    (continueAsMaster intf router ddPacket true).view =
      { router.view with
        ddSequenceNumber := router.ddSequenceNumber + 1
        done := router.view.done || !ddPacket.ddOptions.m_More } := by
  have early := state_of_view (.inl rfl) state
  have empty : router.databaseSummaryList = [] := list
  cases more : ddPacket.ddOptions.m_More with
  | false =>
    simp [continueAsMaster, IncrementDDSequenceNumber, empty, more,
      ProcessEvent, react, early, Router.view]
  | true => simp [continueAsMaster, IncrementDDSequenceNumber, empty, more, Router.view]

/-- The higher router becomes the master and sends its first headers. -/
theorem view_open {headers remaining : List OSPFLSAHeader}
    (larger : intf.neighborID < intf.routerID) (accepted : other.interfaceMTU ≤ intf.mtu)
    (state : router.view.state = .exchangeStartState)
    (list : router.view.list = []) (admissible : Admissible intf headers) :
    ∃ own left, Admissible intf (own ++ left) ∧
      (ProcessPacket intf router
          (message other .slave router.view.ddSequenceNumber headers remaining)).view =
        View.send
          { router.view with
            state := .exchangeState
            relationship := .master
            ddSequenceNumber := router.view.ddSequenceNumber + 1
            lastReceived :=
              (message other .slave router.view.ddSequenceNumber headers remaining).packetID
            summary := some (own ++ left)
            received := router.view.received ++ headers
            done := router.view.done || remaining.isEmpty }
          (message intf .master (router.view.ddSequenceNumber + 1) own left)
          left := by
  let packet := message other .slave router.ddSequenceNumber headers remaining
  let taken := takeHeaders (becomeMaster router packet) headers
  have early := state_of_view (.inl rfl) state
  have processed :
      ProcessPacket intf router packet =
        requestLSAs intf
          (ProcessEvent intf (continueAsMaster intf taken packet true) .negotiationDone) := by
    simp [ProcessPacket, packet, message, composePacket, accepted, early,
      processInExchangeStart, larger, negotiate, ProcessDDPacket,
      processHeaders_eq admissible, taken, takeHeaders, becomeMaster]
  have continued :
      (continueAsMaster intf taken packet true).view =
        { taken.view with
          ddSequenceNumber := taken.ddSequenceNumber + 1
          done := taken.view.done || !packet.ddOptions.m_More } :=
    view_continueInExchangeStart state list
  have seen :
      taken.view =
        { (becomeMaster router packet).view with
          received := router.view.received ++ headers } :=
    view_takeHeaders
  have negotiated :=
    @view_negotiationDone intf _
      (by rw [continued, seen]; exact state) (by rw [continued, seen]; exact list)
  rw [continued, seen] at negotiated
  rcases negotiated with ⟨own, left, known, sent⟩
  refine ⟨own, left, known, ?_⟩
  change (ProcessPacket intf router packet).view = _
  rw [processed, view_requestLSAs, sent]
  simp [packet, message, composePacket, taken, takeHeaders, becomeMaster, Router.view, View.send]

theorem view_repeat {packet sent : OSPFDatabaseDescriptionPacket}
    (accepted : packet.interfaceMTU ≤ intf.mtu) (state : router.view.state = .exchangeState)
    (slave : router.view.relationship = .slave) (again : packet.packetID = router.view.lastReceived)
    (last : router.view.lastTransmitted = some sent) :
    (ProcessPacket intf router packet).view =
      { router.view with channel := router.view.channel ++ [sent] } := by
  have early := state_of_view (.inr rfl) state
  have relationship : router.databaseExchangeRelationship = .slave := slave
  have same : packet.packetID = router.lastReceivedDDPacket := again
  have transmitted : router.lastTransmittedDDPacket = some sent := by
    rw [← last]
    simp [Router.view, early]
  simp [ProcessPacket, accepted, early, processInExchange, same, relationship,
    RetransmitDatabaseDescriptionPacket, transmitted, Router.view]

theorem processPacket_ignored (accepted : packet.interfaceMTU ≤ intf.mtu)
    (state : router.view.state = .exchangeState) (master : router.view.relationship = .master)
    (again : packet.packetID = router.view.lastReceived) :
    ProcessPacket intf router packet = router := by
  have early := state_of_view (.inr rfl) state
  have relationship : router.databaseExchangeRelationship = .master := master
  have same : packet.packetID = router.lastReceivedDDPacket := again
  simp [ProcessPacket, accepted, early, processInExchange, same, relationship]

/-- The router when it has noted a packet and processed its headers. -/
def accept (router : Router) (packet : OSPFDatabaseDescriptionPacket) : Router :=
  takeHeaders { router with lastReceivedDDPacket := packet.packetID } packet.lsaHeaders

theorem view_accept {packet : OSPFDatabaseDescriptionPacket} :
    (accept router packet).view =
      { router.view with
        lastReceived := packet.packetID
        received := router.view.received ++ packet.lsaHeaders } :=
  view_takeHeaders

/-- The next message of the peer is noted, and the router goes on in its role. -/
theorem processPacket_next
    (accepted : other.interfaceMTU ≤ intf.mtu) (state : router.view.state = .exchangeState)
    (relationship : router.view.relationship = role) (peer : sender ≠ role)
    (fresh : router.view.lastReceived.sequenceNumber ≠ number)
    (sequence : number = router.view.ddSequenceNumber + if role = .slave then 1 else 0)
    (options : router.view.lastReceived.options = other.options)
    (admissible : Admissible intf headers) :
    let packet := message other sender number headers remaining
    ProcessPacket intf router packet =
      requestLSAs intf
        (if role = .slave then continueAsSlave intf (accept router packet) packet false
        else continueAsMaster intf (accept router packet) packet false) := by
  intro packet
  have early := state_of_view (.inr rfl) state
  have inRole : router.databaseExchangeRelationship = role := relationship
  have fits : packet.interfaceMTU ≤ intf.mtu := accepted
  have unseen : packet.packetID ≠ router.lastReceivedDDPacket := fun same =>
    fresh (congrArg DDPacketID.sequenceNumber same).symm
  have agreed : router.lastReceivedDDPacket.options = other.options := options
  have admitted : Admissible intf packet.lsaHeaders := admissible
  have placed : misplaced router packet.packetID = false := by
    cases role <;> cases sender <;>
      simp_all [misplaced, packet, message, composePacket, OSPFDatabaseDescriptionPacket.packetID]
  have next : inSequence router packet.packetID = true := by
    cases role <;>
      simp [inSequence, inRole, packet, message, composePacket, sequence,
        OSPFDatabaseDescriptionPacket.packetID, Router.view]
  cases role <;>
    simp [ProcessPacket, fits, early, processInExchange, unseen, placed, next,
      ProcessDDPacket, processHeaders_eq admitted, inRole, accept, takeHeaders]

/-- The exchange is done for the router. -/
def View.complete (view : View) : View :=
  { view with state := .loadingState, lastTransmitted := none, done := true }

theorem view_exchangeDone (state : router.state = .exchangeState) :
    (ProcessEvent intf router .exchangeDone).view = router.view.complete := by
  by_cases empty : router.linkStateRequestList = []
  all_goals simp [ProcessEvent, react, state, empty, Router.view, View.complete, settled]

theorem view_continueAsSlave {packet : OSPFDatabaseDescriptionPacket}
    (state : router.view.state = .exchangeState) :
    ∃ own left, own ++ left = router.view.list ∧
      (continueAsSlave intf router packet false).view =
        let responded :=
          View.send { router.view with ddSequenceNumber := packet.ddSequenceNumber }
            (message intf router.view.relationship packet.ddSequenceNumber own left) left
        if packet.ddOptions.m_More = false ∧ left = [] then responded.complete
        else
          responded := by
  have early := state_of_view (.inr rfl) state
  let counted := { router with ddSequenceNumber := packet.ddSequenceNumber }
  rcases @view_send _ counted (.inr early) with ⟨own, left, whole, sent⟩
  refine ⟨own, left, whole, ?_⟩
  have remaining : (SendDatabaseDescriptionPacket intf counted false).databaseSummaryList = left :=
    congrArg View.list sent
  have stays : (SendDatabaseDescriptionPacket intf counted false).state = .exchangeState :=
    state_of_view (.inr rfl) (by exact state)
  have continued :
      continueAsSlave intf router packet false =
        if packet.ddOptions.m_More = false ∧ left = [] then
          ProcessEvent intf (SendDatabaseDescriptionPacket intf counted false) .exchangeDone
        else
          SendDatabaseDescriptionPacket intf counted false := by
    rw [← remaining]
    simp [continueAsSlave, counted]
  rw [continued]
  split_ifs
  · rw [view_exchangeDone stays, sent]
    rfl
  · exact sent

theorem view_continueAsMaster {packet : OSPFDatabaseDescriptionPacket}
    (state : router.view.state = .exchangeState) (master : router.view.relationship = .master) :
    if packet.ddOptions.m_More = false ∧ router.view.list = [] then
      (continueAsMaster intf router packet false).view =
        View.complete { router.view with ddSequenceNumber := router.view.ddSequenceNumber + 1 }
    else
      ∃ own left, own ++ left = router.view.list ∧
        (continueAsMaster intf router packet false).view =
          View.send { router.view with ddSequenceNumber := router.view.ddSequenceNumber + 1 }
            (message intf .master (router.view.ddSequenceNumber + 1) own left) left := by
  have early := state_of_view (.inr rfl) state
  split_ifs with last
  · have continued :
        continueAsMaster intf router packet false =
          ProcessEvent intf (IncrementDDSequenceNumber router) .exchangeDone := by
      have empty : router.databaseSummaryList = [] := last.2
      simp [continueAsMaster, last.1, empty, IncrementDDSequenceNumber]
    rw [continued]
    exact @view_exchangeDone _ _ early
  · have continued :
        continueAsMaster intf router packet false =
          SendDatabaseDescriptionPacket intf (IncrementDDSequenceNumber router) false := by
      have more : ¬(router.databaseSummaryList = [] ∧ packet.ddOptions.m_More = false) :=
        fun both => last both.symm
      simp [continueAsMaster, IncrementDDSequenceNumber, more]
    have relationship : (IncrementDDSequenceNumber router).databaseExchangeRelationship = .master :=
      master
    have sent := @view_send intf (IncrementDDSequenceNumber _) (.inr early)
    rw [relationship] at sent
    rwa [continued]

theorem add_one_ne (number : BitVec 64) : number + 1 ≠ number := by
  simp

theorem view_respond {headers remaining : List OSPFLSAHeader}
    (accepted : other.interfaceMTU ≤ intf.mtu) (state : router.view.state = .exchangeState)
    (slave : router.view.relationship = .slave)
    (last : router.view.lastReceived.sequenceNumber = router.view.ddSequenceNumber)
    (options : router.view.lastReceived.options = other.options)
    (admissible : Admissible intf headers) :
    ∃ own left, own ++ left = router.view.list ∧
      (ProcessPacket intf router
          (message other .master (router.view.ddSequenceNumber + 1) headers remaining)).view =
        let responded :=
          View.send
            { router.view with
              ddSequenceNumber := router.view.ddSequenceNumber + 1
              lastReceived :=
                (message other .master (router.view.ddSequenceNumber + 1)
                  headers remaining).packetID
              received := router.view.received ++ headers }
            (message intf .slave (router.view.ddSequenceNumber + 1) own left)
            left
        if remaining = [] ∧ left = [] then responded.complete
        else responded := by
  let packet := message other .master (router.view.ddSequenceNumber + 1) headers remaining
  have processed :
      ProcessPacket intf router packet =
        requestLSAs intf (continueAsSlave intf (accept router packet) packet false) :=
    processPacket_next accepted state slave nofun (last ▸ (add_one_ne _).symm) rfl
      options admissible
  have seen := @view_accept router packet
  rcases @view_continueAsSlave _ (accept _ packet) _
    (by exact state) with ⟨own, left, whole, continued⟩
  rw [seen] at whole continued
  refine ⟨own, left, whole, ?_⟩
  have finished : (packet.ddOptions.m_More = false ∧ left = []) ↔ (remaining = [] ∧ left = []) := by
    simp [packet, message, composePacket]
  rw [processed, view_requestLSAs, continued]
  simp only [finished, slave]
  rfl

theorem view_proceed {headers remaining : List OSPFLSAHeader}
    (accepted : other.interfaceMTU ≤ intf.mtu) (state : router.view.state = .exchangeState)
    (master : router.view.relationship = .master)
    (last : router.view.lastReceived.sequenceNumber + 1 = router.view.ddSequenceNumber)
    (options : router.view.lastReceived.options = other.options)
    (admissible : Admissible intf headers) :
    let packet := message other .slave router.view.ddSequenceNumber headers remaining
    let counted : View :=
      { router.view with
        ddSequenceNumber := router.view.ddSequenceNumber + 1
        lastReceived := packet.packetID
        received := router.view.received ++ headers }
    if remaining = [] ∧ router.view.list = [] then
      (ProcessPacket intf router packet).view = counted.complete
    else
      ∃ own left, own ++ left = router.view.list ∧
        (ProcessPacket intf router packet).view =
          View.send counted (message intf .master (router.view.ddSequenceNumber + 1) own left)
            left := by
  intro packet _
  have fresh : router.view.lastReceived.sequenceNumber ≠ router.view.ddSequenceNumber := by
    rw [← last]
    exact (add_one_ne _).symm
  have processed :
      ProcessPacket intf router packet =
        requestLSAs intf (continueAsMaster intf (accept router packet) packet false) :=
    processPacket_next accepted state master nofun fresh (BitVec.add_zero _).symm options admissible
  have seen := @view_accept router packet
  have continued :=
    @view_continueAsMaster intf (accept _ packet) packet (by exact state) (by exact master)
  rw [seen] at continued
  have finished :
      (packet.ddOptions.m_More = false ∧ router.view.list = []) ↔
        (remaining = [] ∧ router.view.list = []) := by
    simp [packet, message, composePacket]
  simp only [finished] at continued
  rwa [processed, view_requestLSAs]

theorem view_local {next : Router} (taken : LocalStep intf router event next) :
    next.view = router.view ∨
      router.view.state = .exchangeStartState ∧
        ∃ sent, router.view.lastTransmitted = some sent ∧
          next.view = { router.view with channel := router.view.channel ++ [sent] } := by
  cases taken with
  | ddRetransmissionTimer _ =>
    cases state : router.state with
    | exchangeStartState =>
      cases last : router.lastTransmittedDDPacket with
      | none =>
        left
        simp [ProcessEvent, react, state, last, Router.view, RetransmitDatabaseDescriptionPacket]
      | some _ =>
        simp [ProcessEvent, react, state, last, Router.view, settled,
          RetransmitDatabaseDescriptionPacket]
    | exchangeState =>
      left
      simp [ProcessEvent, react, state, Router.view]
    | loadingState =>
      left
      simp [ProcessEvent, react, state, Router.view, DeleteLastSentDDPacket]
    | fullState =>
      left
      simp [ProcessEvent, react, state, Router.view, DeleteLastSentDDPacket]
  | install _ =>
    left
    rfl
  | update _ =>
    left
    dsimp only [removeRequest]
    split_ifs with emptied
    · simp [ProcessEvent, react, emptied.1, Router.view, settled]
    · rfl

theorem processPacket_dropped (larger : ¬packet.interfaceMTU ≤ intf.mtu) :
    ProcessPacket intf router packet = router :=
  if_neg larger

end Processing

/-! ## The phases of an exchange -/

/-- The router has sent nothing but its initial packet. -/
structure Negotiating (intf : Interface) (view : View) : Prop where
  state : view.state = .exchangeStartState
  list : view.list = []
  received : view.received = []
  last : view.lastTransmitted = some (initialPacket intf view.ddSequenceNumber)
  quiet : view.mismatched = false
  going : view.done = false

/-- The packet is taken for one that has been received. -/
structure Copy (intf : Interface) (packetID : DDPacketID)
    (packet : OSPFDatabaseDescriptionPacket) : Prop where
  same : packet.packetID = packetID
  mtu : packet.interfaceMTU = intf.interfaceMTU

section Phases

variable (link : Link) (lower higher : View)

structure Starting : Prop where
  lowerSide : Negotiating link.lower lower
  higherSide : Negotiating link.higher higher
  lowerChannel : ∀ packet ∈ lower.channel, packet = initialPacket link.lower lower.ddSequenceNumber
  higherChannel :
    ∀ packet ∈ higher.channel, packet = initialPacket link.higher higher.ddSequenceNumber

/-- The lower router has become the slave. -/
structure Answered : Prop where
  higherSide : Negotiating link.higher higher
  higherChannel :
    ∀ packet ∈ higher.channel, packet = initialPacket link.higher higher.ddSequenceNumber
  heard : link.higher.interfaceMTU ≤ link.lower.mtu
  state : lower.state = .exchangeState
  slave : lower.relationship = .slave
  sequence : lower.ddSequenceNumber = higher.ddSequenceNumber
  lastReceived : lower.lastReceived = (initialPacket link.higher higher.ddSequenceNumber).packetID
  received : lower.received = []
  quiet : lower.mismatched = false
  going : lower.done = false
  answer :
    ∃ headers initial echoes,
      lower.channel = initial ++ echoes ∧
        (∀ packet ∈ initial, ∃ ddSequenceNumber,
          packet = initialPacket link.lower ddSequenceNumber) ∧
        (∀ packet ∈ echoes,
          packet = message link.lower .slave lower.ddSequenceNumber headers lower.list) ∧
        lower.lastTransmitted =
          some (message link.lower .slave lower.ddSequenceNumber headers lower.list) ∧
        lower.summary = some (headers ++ lower.list) ∧
        Admissible link.lower (headers ++ lower.list)

/-- What holds from the first poll on until the master is done. -/
structure Conversing : Prop where
  heard : link.higher.interfaceMTU ≤ link.lower.mtu
  heardBack : link.lower.interfaceMTU ≤ link.higher.mtu
  slave : lower.relationship = .slave
  master : higher.relationship = .master
  polling : higher.state = .exchangeState
  lowerLast : lower.lastReceived.sequenceNumber = lower.ddSequenceNumber
  lowerOptions : lower.lastReceived.options = link.higher.options
  higherLast : higher.lastReceived.sequenceNumber + 1 = higher.ddSequenceNumber
  higherOptions : higher.lastReceived.options = link.lower.options
  lowerTypes : ∀ headers, lower.summary = some headers → Admissible link.lower headers
  higherTypes : ∀ headers, higher.summary = some headers → Admissible link.higher headers
  lowerQuiet : lower.mismatched = false
  higherQuiet : higher.mismatched = false

/-- A poll is on its way, behind packets that the slave has received. -/
structure Polling : Prop extends Conversing link lower higher where
  state : lower.state = .exchangeState
  going : lower.done = false
  sequence : higher.ddSequenceNumber = lower.ddSequenceNumber + 1
  lowerChannel : ∀ packet ∈ lower.channel, Copy link.lower higher.lastReceived packet
  last : ∃ sent, lower.lastTransmitted = some sent ∧ Copy link.lower higher.lastReceived sent
  lowerSummary : lower.summary = some (higher.received ++ lower.list)
  done : higher.done = true → lower.list = []
  poll :
    ∃ headers copies,
      higher.channel =
          copies ++ [message link.higher .master higher.ddSequenceNumber headers higher.list] ∧
        (∀ packet ∈ copies, Copy link.higher lower.lastReceived packet) ∧
        higher.summary = some (lower.received ++ headers ++ higher.list)

/-- A response is on its way, behind packets that the master has received. -/
structure Responding : Prop extends Conversing link lower higher where
  sequence : higher.ddSequenceNumber = lower.ddSequenceNumber
  higherChannel : higher.channel = []
  higherSummary : higher.summary = some (lower.received ++ higher.list)
  progress :
    lower.state = .exchangeState ∧ lower.done = false ∧ ¬(higher.list = [] ∧ lower.list = []) ∨
      lower.state = .loadingState ∧ higher.list = [] ∧ lower.list = []
  response :
    ∃ headers copies,
      lower.channel =
          copies ++ [message link.lower .slave lower.ddSequenceNumber headers lower.list] ∧
        (∀ packet ∈ copies, Copy link.lower higher.lastReceived packet) ∧
        (lower.state = .exchangeState →
          lower.lastTransmitted =
            some (message link.lower .slave lower.ddSequenceNumber headers lower.list)) ∧
        lower.summary = some (higher.received ++ headers ++ lower.list) ∧
        (higher.done = true → headers = [] ∧ lower.list = [])

structure Finished : Prop where
  lowerState : lower.state = .loadingState
  higherState : higher.state = .loadingState
  lowerChannel : lower.channel = []
  higherChannel : higher.channel = []
  lowerSummary : lower.summary = some higher.received
  higherSummary : higher.summary = some lower.received
  lowerQuiet : lower.mismatched = false
  higherQuiet : higher.mismatched = false

inductive Phase : Prop where
  | starting (phase : Starting link lower higher)
  | answered (phase : Answered link lower higher)
  | polling (phase : Polling link lower higher)
  | responding (phase : Responding link lower higher)
  | finished (phase : Finished lower higher)

end Phases

/-- A side has received the summary of the other one when it is done. -/
structure Agreed (lower higher : View) : Prop where
  lowerQuiet : lower.mismatched = false
  higherQuiet : higher.mismatched = false
  lowerDone : lower.done = true → higher.summary = some lower.received
  higherDone : higher.done = true → lower.summary = some higher.received

section Steps

variable {link : Link}

theorem Phase.agreed (phase : Phase link lower higher) : Agreed lower higher := by
  cases phase with
  | starting phase =>
    refine ⟨phase.lowerSide.quiet, phase.higherSide.quiet, ?_, ?_⟩
    · intro done
      rw [phase.lowerSide.going] at done
      cases done
    · intro done
      rw [phase.higherSide.going] at done
      cases done
  | answered phase =>
    refine ⟨phase.quiet, phase.higherSide.quiet, ?_, ?_⟩
    · intro done
      rw [phase.going] at done
      cases done
    · intro done
      rw [phase.higherSide.going] at done
      cases done
  | polling phase =>
    refine ⟨phase.lowerQuiet, phase.higherQuiet, ?_, ?_⟩
    · intro done
      rw [phase.going] at done
      cases done
    · intro done
      rw [phase.lowerSummary, phase.done done, append_nil]
  | responding phase =>
    refine ⟨phase.lowerQuiet, phase.higherQuiet, ?_, ?_⟩
    · intro done
      rcases phase.progress with ⟨_, going, _⟩ | ⟨_, empty, _⟩
      · rw [going] at done
        cases done
      · rw [phase.higherSummary, empty, append_nil]
    · intro done
      rcases phase.response with ⟨_, _, _, _, _, summary, said⟩
      rcases said done with ⟨rfl, empty⟩
      rw [summary, empty, append_nil, append_nil]
  | finished phase =>
    exact ⟨phase.lowerQuiet, phase.higherQuiet,
      fun _ => phase.higherSummary, fun _ => phase.lowerSummary⟩

theorem admissible_iff : Admissible link.lower headers ↔ Admissible link.higher headers := by
  unfold Admissible erroneous
  rw [link.capability]

theorem Admissible.append_iff :
    Admissible intf (left ++ right) ↔ Admissible intf left ∧ Admissible intf right :=
  forall_mem_append

section ToLower

variable {higher : Router}

theorem Starting.deliverToLower (phase : Starting link lower.view higher.view)
    (first : higher.view.channel = packet :: rest) :
    Phase link (ProcessPacket link.lower lower packet).view
      { higher.view with channel := rest } := by
  have same := phase.higherChannel packet (by simp [first])
  have others : ∀ other ∈ rest, other = initialPacket link.higher higher.view.ddSequenceNumber :=
    fun other member => phase.higherChannel _ (by simp [first, member])
  by_cases heard : link.higher.interfaceMTU ≤ link.lower.mtu
  · have smaller : link.lower.routerID < link.lower.neighborID := by
      rw [link.higherID]
      exact link.ordered
    rcases @view_answer link.lower link.higher _
      higher.view.ddSequenceNumber smaller heard phase.lowerSide.state
      phase.lowerSide.list with ⟨headers, remaining, known, answered⟩
    rw [same, answered]
    refine .answered
      { higherSide := { phase.higherSide with }
        higherChannel := others
        heard
        state := rfl
        slave := rfl
        sequence := rfl
        lastReceived := rfl
        received := phase.lowerSide.received
        quiet := phase.lowerSide.quiet
        going := phase.lowerSide.going
        answer := ?_ }
    refine ⟨headers, lower.view.channel, [_], rfl, ?_, ?_, rfl, rfl, known⟩
    · intro _ member
      exact ⟨_, phase.lowerChannel _ member⟩
    · intro _ member
      exact mem_singleton.mp member
  · rw [processPacket_dropped (by rw [same]; exact heard)]
    exact .starting
      { lowerSide := phase.lowerSide
        higherSide := { phase.higherSide with }
        lowerChannel := phase.lowerChannel
        higherChannel := others }

theorem Answered.deliverToLower (phase : Answered link lower.view higher.view)
    (first : higher.view.channel = packet :: rest) :
    Phase link (ProcessPacket link.lower lower packet).view
      { higher.view with channel := rest } := by
  have same := phase.higherChannel packet (by simp [first])
  have others : ∀ other ∈ rest, other = initialPacket link.higher higher.view.ddSequenceNumber :=
    fun other member => phase.higherChannel _ (by simp [first, member])
  rcases phase.answer with ⟨headers, initial, echoes, channel, begun, echoed, last, summary, known⟩
  have repeated :=
    @view_repeat link.lower _ packet _ (by rw [same]; exact phase.heard)
      phase.state phase.slave (by rw [same]; exact phase.lastReceived.symm) last
  let answer := message link.lower .slave lower.view.ddSequenceNumber headers lower.view.list
  rw [repeated]
  refine .answered
    { phase with higherSide := { phase.higherSide with }, higherChannel := others, answer := ?_ }
  refine ⟨headers, initial, echoes ++ [answer], ?_, begun, ?_, last, summary, known⟩
  · rw [channel, append_assoc]
  · intro _ member
    rcases mem_append.mp member with earlier | new
    · exact echoed _ earlier
    · exact mem_singleton.mp new

theorem Polling.deliverToLower (phase : Polling link lower.view higher.view)
    (first : higher.view.channel = packet :: rest) :
    Phase link (ProcessPacket link.lower lower packet).view
      { higher.view with channel := rest } := by
  rcases phase.poll with ⟨headers, copies, channel, copied, summary⟩
  rw [channel] at first
  cases copies with
  | cons _ others =>
    rw [cons_append, cons.injEq] at first
    rcases first with ⟨rfl, rfl⟩
    have known := copied _ (mem_cons_self ..)
    rcases phase.last with ⟨sent, last, again⟩
    rw [view_repeat (by rw [known.mtu]; exact phase.heard) phase.state phase.slave known.same last]
    refine .polling
      { phase with
        lowerChannel := ?_
        last := ⟨sent, last, again⟩
        poll := ⟨headers, others, rfl, ?_, summary⟩ }
    · intro _ member
      rcases mem_append.mp member with earlier | new
      · exact phase.lowerChannel _ earlier
      · rwa [mem_singleton.mp new]
    · intro _ member
      exact copied _ (mem_cons_of_mem _ member)
  | nil =>
    rcases first with ⟨rfl, rfl⟩
    have types := phase.higherTypes _ summary
    have admissible : Admissible link.lower headers :=
      admissible_iff.mpr (Admissible.append_iff.mp (Admissible.append_iff.mp types).1).2
    rcases @view_respond link.lower link.higher _ _
      higher.view.list phase.heard phase.state phase.slave phase.lowerLast
      phase.lowerOptions admissible with ⟨own, left, whole, responded⟩
    rw [phase.sequence, responded]
    have lowerSummary : lower.view.summary = some (higher.view.received ++ own ++ left) := by
      rw [phase.lowerSummary, ← whole, append_assoc]
    have said : higher.view.done = true → own = [] ∧ left = [] := by
      intro done
      rw [phase.done done] at whole
      exact append_eq_nil_iff.mp whole
    split_ifs with finished
    · exact .responding
        { phase with
          sequence := phase.sequence
          lowerLast := rfl
          lowerOptions := rfl
          higherChannel := rfl
          higherSummary := summary
          progress := .inr ⟨rfl, finished⟩
          response :=
            ⟨own, lower.view.channel, rfl, phase.lowerChannel, nofun, lowerSummary, said⟩ }
    · exact .responding
        { phase with
          sequence := phase.sequence
          lowerLast := rfl
          lowerOptions := rfl
          higherChannel := rfl
          higherSummary := summary
          progress := .inl ⟨phase.state, phase.going, finished⟩
          response :=
            ⟨own, lower.view.channel, rfl, phase.lowerChannel, fun _ => rfl, lowerSummary, said⟩ }

theorem Phase.deliverToLower (phase : Phase link lower.view higher.view)
    (first : higher.view.channel = packet :: rest) :
    Phase link (ProcessPacket link.lower lower packet).view
      { higher.view with channel := rest } := by
  cases phase with
  | starting phase => exact phase.deliverToLower first
  | answered phase => exact phase.deliverToLower first
  | polling phase => exact phase.deliverToLower first
  | responding phase =>
    rw [phase.higherChannel] at first
    cases first
  | finished phase =>
    rw [phase.higherChannel] at first
    cases first

end ToLower

section ToHigher

variable {lower : Router}

theorem Link.larger (link : Link) : link.higher.neighborID < link.higher.routerID := by
  rw [link.lowerID]
  exact link.ordered

theorem Negotiating.deliver_initial {router : Router}
    {ddSequenceNumber : BitVec 64} (side : Negotiating intf router.view)
    (larger : intf.neighborID < intf.routerID)
    (begun : ∀ packet ∈ router.view.channel,
      packet = initialPacket intf router.view.ddSequenceNumber) :
    let processed := (ProcessPacket intf router (initialPacket other ddSequenceNumber)).view
    Negotiating intf processed ∧ processed.ddSequenceNumber = router.view.ddSequenceNumber ∧
      ∀ packet ∈ processed.channel, packet = initialPacket intf router.view.ddSequenceNumber := by
  intro processed
  by_cases heard : other.interfaceMTU ≤ intf.mtu
  · have answered : processed = _ := @view_begin _ _ _ _ larger heard side.state
    rw [answered]
    refine ⟨{ side with last := rfl }, rfl, ?_⟩
    intro _ member
    rcases mem_append.mp member with earlier | new
    · exact begun _ earlier
    · exact mem_singleton.mp new
  · have dropped : processed = router.view := congrArg Router.view (processPacket_dropped heard)
    rw [dropped]
    exact ⟨side, rfl, begun⟩

theorem Starting.deliverToHigher (phase : Starting link lower.view higher.view)
    (first : lower.view.channel = packet :: rest) :
    Phase link { lower.view with channel := rest }
      (ProcessPacket link.higher higher packet).view := by
  have same := phase.lowerChannel packet (by simp [first])
  have others : ∀ other ∈ rest, other = initialPacket link.lower lower.view.ddSequenceNumber :=
    fun other member => phase.lowerChannel _ (by simp [first, member])
  rcases @Negotiating.deliver_initial link.higher link.lower _
    lower.view.ddSequenceNumber phase.higherSide link.larger
    phase.higherChannel with ⟨side, sequence, begun⟩
  rw [same]
  refine .starting
    { lowerSide := { phase.lowerSide with }
      higherSide := side
      lowerChannel := others
      higherChannel := ?_ }
  rwa [sequence]

theorem Answered.opened (phase : Answered link lower.view higher.view)
    (heardBack : link.lower.interfaceMTU ≤ link.higher.mtu)
    (echoed : ∀ packet ∈ rest,
      packet = message link.lower .slave lower.view.ddSequenceNumber headers lower.view.list)
    (last : lower.view.lastTransmitted =
      some (message link.lower .slave lower.view.ddSequenceNumber headers lower.view.list))
    (summary : lower.view.summary = some (headers ++ lower.view.list))
    (known : Admissible link.lower (headers ++ lower.view.list)) :
    Polling link { lower.view with channel := rest }
      (ProcessPacket link.higher higher
        (message link.lower .slave lower.view.ddSequenceNumber headers lower.view.list)).view := by
  have admissible : Admissible link.higher headers :=
    admissible_iff.mp (Admissible.append_iff.mp known).1
  rcases @view_open link.higher link.lower _ _ lower.view.list
    link.larger heardBack phase.higherSide.state phase.higherSide.list
    admissible with ⟨own, left, types, opened⟩
  have copy :
      Copy link.lower
        (message link.lower .slave higher.view.ddSequenceNumber headers lower.view.list).packetID
        (message link.lower .slave higher.view.ddSequenceNumber headers lower.view.list) :=
    ⟨rfl, rfl⟩
  rw [phase.sequence] at echoed last ⊢
  rw [opened]
  exact
    { heard := phase.heard
      heardBack
      slave := phase.slave
      master := rfl
      polling := rfl
      lowerLast := by
        rw [phase.lastReceived]
        exact phase.sequence.symm
      lowerOptions := by
        rw [phase.lastReceived]
        rfl
      higherLast := rfl
      higherOptions := rfl
      lowerTypes := by
        intro _ same
        rwa [← Option.some.inj (summary.symm.trans same)]
      higherTypes := by
        intro _ same
        rwa [← Option.some.inj same]
      lowerQuiet := phase.quiet
      higherQuiet := phase.higherSide.quiet
      state := phase.state
      going := phase.going
      sequence := by
        rw [phase.sequence]
        rfl
      lowerChannel := by
        intro _ member
        rwa [echoed _ member]
      last := ⟨_, last, copy⟩
      lowerSummary := by
        rwa [phase.higherSide.received, nil_append]
      done := by
        intro done
        rw [phase.higherSide.going, Bool.false_or] at done
        exact isEmpty_iff.mp done
      poll := by
        refine ⟨own, higher.view.channel, rfl, ?_, ?_⟩
        · intro _ member
          rw [phase.higherChannel _ member, phase.lastReceived]
          exact ⟨rfl, rfl⟩
        · change some (own ++ left) = some (lower.view.received ++ own ++ left)
          rw [phase.received, nil_append] }

theorem Answered.deliverToHigher (phase : Answered link lower.view higher.view)
    (first : lower.view.channel = packet :: rest) :
    Phase link { lower.view with channel := rest }
      (ProcessPacket link.higher higher packet).view := by
  rcases phase.answer with ⟨headers, initial, echoes, channel, begun, echoed, last, summary, known⟩
  rw [channel] at first
  cases initial with
  | cons _ others =>
    rw [cons_append, cons.injEq] at first
    rcases first with ⟨rfl, rfl⟩
    rcases begun _ (mem_cons_self ..) with ⟨_, rfl⟩
    rcases @Negotiating.deliver_initial link.higher link.lower _
      _ phase.higherSide link.larger phase.higherChannel with
      ⟨side, sequence, answered⟩
    refine .answered
      { phase with
        higherSide := side
        higherChannel := ?_
        sequence := ?_
        lastReceived := ?_
        answer := ?_ }
    · rwa [sequence]
    · rw [sequence]
      exact phase.sequence
    · rw [sequence]
      exact phase.lastReceived
    · refine ⟨headers, others, echoes, rfl, ?_, echoed, last, summary, known⟩
      intro _ member
      exact begun _ (mem_cons_of_mem _ member)
  | nil =>
    subst first
    have same := echoed _ (mem_cons_self ..)
    have others : ∀ other ∈ rest,
        other = message link.lower .slave lower.view.ddSequenceNumber headers lower.view.list :=
      fun other member => echoed _ (mem_cons_of_mem _ member)
    by_cases heardBack : link.lower.interfaceMTU ≤ link.higher.mtu
    · rw [same]
      exact .polling (phase.opened heardBack others last summary known)
    · rw [processPacket_dropped (by rw [same]; exact heardBack)]
      exact .answered
        { phase with answer := ⟨headers, [], rest, rfl, nofun, others, last, summary, known⟩ }

theorem Polling.deliverToHigher (phase : Polling link lower.view higher.view)
    (first : lower.view.channel = packet :: rest) :
    Phase link { lower.view with channel := rest }
      (ProcessPacket link.higher higher packet).view := by
  have copy := phase.lowerChannel packet (by simp [first])
  rw [processPacket_ignored (by rw [copy.mtu]; exact phase.heardBack)
    phase.polling phase.master copy.same]
  refine .polling { phase with lowerChannel := ?_ }
  intro _ member
  exact phase.lowerChannel _ (by simp [first, member])

theorem Responding.deliverToHigher (phase : Responding link lower.view higher.view)
    (first : lower.view.channel = packet :: rest) :
    Phase link { lower.view with channel := rest }
      (ProcessPacket link.higher higher packet).view := by
  rcases phase.response with ⟨headers, copies, channel, copied, last, summary, said⟩
  rw [channel] at first
  cases copies with
  | cons _ others =>
    rw [cons_append, cons.injEq] at first
    rcases first with ⟨rfl, rfl⟩
    have known := copied _ (mem_cons_self ..)
    rw [processPacket_ignored (by rw [known.mtu]; exact phase.heardBack)
      phase.polling phase.master known.same]
    refine .responding { phase with response := ⟨headers, others, rfl, ?_, last, summary, said⟩ }
    intro _ member
    exact copied _ (mem_cons_of_mem _ member)
  | nil =>
    rcases first with ⟨rfl, rfl⟩
    have types := admissible_iff.mp (phase.lowerTypes _ summary)
    have admissible : Admissible link.higher headers :=
      (Admissible.append_iff.mp (Admissible.append_iff.mp types).1).2
    have proceeded :=
      @view_proceed link.higher link.lower _ _ lower.view.list
        phase.heardBack phase.polling phase.master phase.higherLast phase.higherOptions admissible
    rw [← phase.sequence]
    split_ifs at proceeded with ended
    · rw [proceeded]
      rcases phase.progress with ⟨_, _, further⟩ | ⟨settled, _, _⟩
      · exact absurd ended.symm further
      · exact .finished
          { lowerState := settled
            higherState := rfl
            lowerChannel := rfl
            higherChannel := phase.higherChannel
            lowerSummary := by
              change lower.view.summary = some (higher.view.received ++ headers)
              rw [summary, ended.1, append_nil]
            higherSummary := by
              change higher.view.summary = some lower.view.received
              rw [phase.higherSummary, ended.2, append_nil]
            lowerQuiet := phase.lowerQuiet
            higherQuiet := phase.higherQuiet }
    · rcases proceeded with ⟨own, left, whole, polled⟩
      rw [polled]
      rcases phase.progress with ⟨state, going, _⟩ | ⟨_, empty⟩
      · refine .polling
          { phase with
            state
            going
            sequence := ?_
            higherLast := rfl
            higherOptions := rfl
            lowerChannel := nofun
            last := ⟨_, last state, ?_⟩
            lowerSummary := summary
            done := fun done => (said done).2
            poll := ?_ }
        · change higher.view.ddSequenceNumber + 1 = _
          rw [phase.sequence]
        · rw [← phase.sequence]
          exact ⟨rfl, rfl⟩
        · refine ⟨own, [], ?_, nofun, ?_⟩
          · change higher.view.channel ++ [_] = _
            rw [phase.higherChannel]
            rfl
          · change higher.view.summary = some (lower.view.received ++ own ++ left)
            rw [phase.higherSummary, ← whole, append_assoc]
      · exact absurd empty.symm ended

theorem Phase.deliverToHigher (phase : Phase link lower.view higher.view)
    (first : lower.view.channel = packet :: rest) :
    Phase link { lower.view with channel := rest }
      (ProcessPacket link.higher higher packet).view := by
  cases phase with
  | starting phase => exact phase.deliverToHigher first
  | answered phase => exact phase.deliverToHigher first
  | polling phase => exact phase.deliverToHigher first
  | responding phase => exact phase.deliverToHigher first
  | finished phase =>
    rw [phase.lowerChannel] at first
    cases first

end ToHigher

/-- The timer of a router that negotiates sends its initial packet again. -/
theorem Negotiating.repeats (side : Negotiating intf view) (last : view.lastTransmitted = some sent)
    (begun : ∀ packet ∈ view.channel, packet = initialPacket intf view.ddSequenceNumber) :
    ∀ packet ∈ view.channel ++ [sent], packet = initialPacket intf view.ddSequenceNumber := by
  intro _ member
  rcases mem_append.mp member with earlier | new
  · exact begun _ earlier
  · rw [mem_singleton.mp new]
    exact Option.some.inj (last.symm.trans side.last)

theorem Phase.repeatLower (phase : Phase link lower higher)
    (state : lower.state = .exchangeStartState) (last : lower.lastTransmitted = some sent) :
    Phase link { lower with channel := lower.channel ++ [sent] } higher := by
  cases phase with
  | starting phase =>
    exact .starting
      { phase with
        lowerSide := { phase.lowerSide with }
        lowerChannel := phase.lowerSide.repeats last phase.lowerChannel }
  | answered phase =>
    rw [phase.state] at state
    cases state
  | polling phase =>
    rw [phase.state] at state
    cases state
  | responding phase =>
    rcases phase.progress with ⟨exchange, _⟩ | ⟨loading, _⟩
    · rw [exchange] at state
      cases state
    · rw [loading] at state
      cases state
  | finished phase =>
    rw [phase.lowerState] at state
    cases state

theorem Phase.repeatHigher (phase : Phase link lower higher)
    (state : higher.state = .exchangeStartState) (last : higher.lastTransmitted = some sent) :
    Phase link lower { higher with channel := higher.channel ++ [sent] } := by
  cases phase with
  | starting phase =>
    exact .starting
      { phase with
        higherSide := { phase.higherSide with }
        higherChannel := phase.higherSide.repeats last phase.higherChannel }
  | answered phase =>
    exact .answered
      { phase with
        higherSide := { phase.higherSide with }
        higherChannel := phase.higherSide.repeats last phase.higherChannel }
  | polling phase =>
    rw [phase.polling] at state
    cases state
  | responding phase =>
    rw [phase.polling] at state
    cases state
  | finished phase =>
    rw [phase.higherState] at state
    cases state

theorem Phase.step {next : Exchange} {event : Event}
    (phase : Phase link exchange.lower.view exchange.higher.view)
    (taken : Step link exchange event next) : Phase link next.lower.view next.higher.view := by
  cases taken with
  | deliverToLower first => exact phase.deliverToLower first
  | deliverToHigher first => exact phase.deliverToHigher first
  | atLower taken =>
    rcases view_local taken with same | ⟨state, _, last, repeated⟩
    · rwa [same]
    · rw [repeated]
      exact phase.repeatLower state last
  | atHigher taken =>
    rcases view_local taken with same | ⟨state, _, last, repeated⟩
    · rwa [same]
    · rw [repeated]
      exact phase.repeatHigher state last

end Steps

/-! ## What is requested -/

/-- The same headers are processed and requested. -/
structure Kept (before after : Router) : Prop where
  database : after.database = before.database
  processed : after.processed = before.processed
  list : after.linkStateRequestList = before.linkStateRequestList

theorem Kept.trans {after : Router} (left : Kept before between)
    (right : Kept between after) : Kept before after where
  database := right.database.trans left.database
  processed := right.processed.trans left.processed
  list := right.list.trans left.list

/-- Headers are processed, and those of LSAs that are lacking are requested. -/
def Grown (before after : Router) : Prop :=
  ∃ headers, Kept (takeHeaders before headers) after

variable {after : Router}

theorem Kept.grown (kept : Kept before after) : Grown before after := by
  refine ⟨[], ?_⟩
  have same : takeHeaders before [] = before := by simp [takeHeaders]
  rwa [same]

/-- A mismatch has been signalled, or the requests have grown. -/
def Sound (before after : Router) : Prop :=
  .sequenceNumberMismatch ∈ after.signalled ∨ Grown before after

section Growth

variable {intf : Interface} {router : Router}

theorem kept_send (init : Bool) : Kept router (SendDatabaseDescriptionPacket intf router init) := by
  cases init with
  | false => exact ⟨rfl, rfl, rfl⟩
  | true => exact ⟨rfl, rfl, rfl⟩

theorem kept_retransmit : Kept router (RetransmitDatabaseDescriptionPacket router).1 := by
  unfold RetransmitDatabaseDescriptionPacket
  split
  all_goals exact ⟨rfl, rfl, rfl⟩

theorem kept_requestLSAs : Kept router (requestLSAs intf router) := by
  unfold requestLSAs
  split_ifs
  all_goals exact ⟨rfl, rfl, rfl⟩

theorem kept_processEvent (other : event ≠ .sequenceNumberMismatch) :
    Kept router (ProcessEvent intf router event) := by
  cases event with
  | negotiationDone =>
    rw [ProcessEvent, react]
    split
    all_goals exact ⟨rfl, rfl, rfl⟩
  | exchangeDone =>
    rw [ProcessEvent, react]
    split
    · split_ifs
      · exact ⟨rfl, rfl, rfl⟩
      · exact ⟨rfl, rfl, rfl⟩
    · exact ⟨rfl, rfl, rfl⟩
  | loadingDone =>
    rw [ProcessEvent, react]
    split
    all_goals exact ⟨rfl, rfl, rfl⟩
  | sequenceNumberMismatch => exact absurd rfl other
  | ddRetransmissionTimer =>
    rw [ProcessEvent, react]
    split
    · have sent :=
        @kept_retransmit { router with signalled := router.signalled ++ [.ddRetransmissionTimer] }
      exact ⟨sent.database, sent.processed, sent.list⟩
    · exact ⟨rfl, rfl, rfl⟩
    · exact ⟨rfl, rfl, rfl⟩
    · exact ⟨rfl, rfl, rfl⟩

theorem mismatch_signalled :
    .sequenceNumberMismatch ∈ (ProcessEvent intf router .sequenceNumberMismatch).signalled := by
  rw [ProcessEvent, react]
  split
  all_goals exact mem_append_right _ (mem_singleton.mpr rfl)

theorem processHeaders_cases (headers : List OSPFLSAHeader) :
    processHeaders intf router headers = (takeHeaders router headers, true) ∨
      ∃ failed, processHeaders intf router headers = (failed, false) ∧
        .sequenceNumberMismatch ∈ failed.signalled := by
  by_cases admissible : Admissible intf headers
  · exact .inl (processHeaders_eq admissible)
  · right
    induction headers generalizing router with
    | nil => exact absurd nofun admissible
    | cons _ _ induction =>
      rw [processHeaders]
      split_ifs with bad
      · exact ⟨_, rfl, mismatch_signalled⟩
      · apply induction
        intro tail
        apply admissible
        intro _ member
        rcases mem_cons.mp member with rfl | later
        · exact Bool.eq_false_iff.mpr bad
        · exact tail _ later

theorem kept_continueAsMaster (inExchangeStart : Bool) :
    Kept router (continueAsMaster intf router packet inExchangeStart) := by
  have counted : Kept router (IncrementDDSequenceNumber router) := ⟨rfl, rfl, rfl⟩
  cases inExchangeStart with
  | false =>
    dsimp only [continueAsMaster]
    rw [if_pos Bool.false_ne_true]
    split_ifs
    · exact counted.trans (kept_processEvent nofun)
    · exact counted.trans (kept_send _)
  | true =>
    dsimp only [continueAsMaster]
    rw [if_neg (not_not_intro rfl)]
    split_ifs
    · exact counted.trans (kept_processEvent nofun)
    · exact counted

theorem kept_continueAsSlave (inExchangeStart : Bool) :
    Kept router (continueAsSlave intf router packet inExchangeStart) := by
  have counted : Kept router { router with ddSequenceNumber := packet.ddSequenceNumber } :=
    ⟨rfl, rfl, rfl⟩
  cases inExchangeStart with
  | false =>
    have sent := counted.trans (@kept_send intf _ false)
    dsimp only [continueAsSlave]
    rw [if_pos Bool.false_ne_true]
    split_ifs
    · exact sent.trans (kept_processEvent nofun)
    · exact sent
  | true =>
    dsimp only [continueAsSlave]
    rw [if_neg (not_not_intro rfl)]
    split_ifs
    · exact counted.trans (kept_processEvent nofun)
    · exact counted

theorem sound_processDDPacket (packet : OSPFDatabaseDescriptionPacket) (inExchangeStart : Bool) :
    ∃ next success,
      ProcessDDPacket intf router packet inExchangeStart = (next, success) ∧
        (success = false → .sequenceNumberMismatch ∈ next.signalled) ∧
        (success = true → Grown router next) := by
  unfold ProcessDDPacket
  rcases @processHeaders_cases _ _ packet.lsaHeaders with taken | ⟨failed, same, signalled⟩
  · rw [taken]
    dsimp only
    split
    · exact ⟨_, true, rfl, nofun, fun _ => ⟨_, kept_continueAsMaster _⟩⟩
    · exact ⟨_, true, rfl, nofun, fun _ => ⟨_, kept_continueAsSlave _⟩⟩
  · rw [same]
    exact ⟨failed, false, rfl, fun _ => signalled, nofun⟩

theorem sound_negotiate (packet : OSPFDatabaseDescriptionPacket) :
    Sound router (negotiate intf router packet) := by
  unfold negotiate
  rcases @sound_processDDPacket _ _ _ _ with ⟨next, success, same, failed, grown⟩
  rw [same]
  cases success with
  | false => exact .inl (failed rfl)
  | true =>
    rcases grown rfl with ⟨headers, kept⟩
    have negotiated : Kept next (ProcessEvent intf next .negotiationDone) := kept_processEvent nofun
    exact .inr ⟨headers, (kept.trans negotiated).trans kept_requestLSAs⟩

theorem sound_processInExchange (packet : OSPFDatabaseDescriptionPacket) :
    Sound router (processInExchange intf router packet) := by
  dsimp only [processInExchange]
  split_ifs
  · exact .inl mismatch_signalled
  · rcases @sound_processDDPacket _ { router with lastReceivedDDPacket := packet.packetID } _ _ with
      ⟨next, success, same, failed, grown⟩
    rw [same]
    cases success with
    | false => exact .inl (failed rfl)
    | true =>
      rcases grown rfl with ⟨headers, kept⟩
      have requested := kept.trans (@kept_requestLSAs intf _)
      exact .inr ⟨headers, requested.database, requested.processed, requested.list⟩
  · exact .inl mismatch_signalled
  · split
    · exact .inr kept_retransmit.grown
    · exact .inr (Kept.grown ⟨rfl, rfl, rfl⟩)

theorem sound_processAfterExchange (packet : OSPFDatabaseDescriptionPacket) :
    Sound router (processAfterExchange intf router packet) := by
  unfold processAfterExchange
  split_ifs
  · exact .inl mismatch_signalled
  · split
    · have sent := @kept_retransmit router
      split
      · next same =>
          rw [same] at sent
          exact .inr sent.grown
      · exact .inl mismatch_signalled
    · exact .inr (Kept.grown ⟨rfl, rfl, rfl⟩)

theorem sound_processInExchangeStart (packet : OSPFDatabaseDescriptionPacket) :
    Sound router (processInExchangeStart intf router packet) := by
  have unchanged : Sound router router := .inr (Kept.grown ⟨rfl, rfl, rfl⟩)
  dsimp only [processInExchangeStart]
  split_ifs
  · rcases @sound_negotiate _ _ _ with signalled | ⟨headers, kept⟩
    · exact .inl signalled
    · exact .inr ⟨headers, kept.database, kept.processed, kept.list⟩
  · exact .inr (kept_send _).grown
  · exact unchanged
  · rcases @sound_negotiate _ _ _ with signalled | ⟨headers, kept⟩
    · exact .inl signalled
    · exact .inr ⟨headers, kept.database, kept.processed, kept.list⟩
  · exact unchanged

theorem sound_processPacket (packet : OSPFDatabaseDescriptionPacket) :
    Sound router (ProcessPacket intf router packet) := by
  unfold ProcessPacket
  split_ifs
  · split
    · exact sound_processInExchangeStart _
    · exact sound_processInExchange _
    · exact sound_processAfterExchange _
    · exact sound_processAfterExchange _
  · exact .inr (Kept.grown ⟨rfl, rfl, rfl⟩)

end Growth

section Requests

/--
The LSA has been received after its header was processed, which removed it
from the request list.
-/
def Updated (link : Link) (first : Exchange) (past : List Event) (side : Side)
    (header : OSPFLSAHeader) (database : Database) : Prop :=
  ∃ before after middle,
    past = before ++ .locally side (.update header.lsaKey) :: after ∧
      Run (Step link) first before middle ∧ (header, database) ∈ (middle.router side).processed

/-- What was lacking when its header was processed is being requested. -/
def Requested (link : Link) (first : Exchange) (past : List Event)
    (side : Side) (router : Router) : Prop :=
  ∀ header database,
    (header, database) ∈ router.processed → lacks database header = true →
      header ∈ router.linkStateRequestList ∨ Updated link first past side header database

theorem Updated.later (updated : Updated link first past side header database) (event : Event) :
    Updated link first (past ++ [event]) side header database := by
  rcases updated with ⟨before, after, middle, split, run, member⟩
  refine ⟨before, after ++ [event], middle, ?_, run, member⟩
  rw [split, append_assoc, cons_append]

theorem Requested.grown (requested : Requested link first past side before)
    (grown : Grown before after) (event : Event) :
    Requested link first (past ++ [event]) side after := by
  rcases grown with ⟨_, kept⟩
  intro _ _ member lacking
  rw [kept.processed] at member
  rw [kept.list]
  rcases mem_append.mp member with earlier | new
  · rcases requested _ _ earlier lacking with listed | updated
    · exact .inl (mem_append_left _ listed)
    · exact .inr (updated.later _)
  · rcases mem_map.mp new with ⟨_, included, same⟩
    cases same
    exact .inl (mem_append_right _ (mem_filter.mpr ⟨included, lacking⟩))

theorem Requested.removed (lsaKey : LSAKeyType)
    (requested : Requested link first past side (state.router side))
    (run : Run (Step link) first past state) :
    Requested link first (past ++ [.locally side (.update lsaKey)]) side
      (removeRequest intf (state.router side) lsaKey) := by
  let router := state.router side
  have kept :
      (removeRequest intf router lsaKey).processed = router.processed ∧
        (removeRequest intf router lsaKey).linkStateRequestList =
          RemoveFromRequestList router.linkStateRequestList lsaKey := by
    dsimp only [removeRequest]
    split_ifs
    · have done :=
        @kept_processEvent intf
          { router with
            linkStateRequestList := RemoveFromRequestList router.linkStateRequestList lsaKey }
          .loadingDone nofun
      exact ⟨done.processed, done.list⟩
    · exact ⟨rfl, rfl⟩
  intro header _ member lacking
  rw [kept.1] at member
  rw [kept.2]
  rcases requested _ _ member lacking with listed | updated
  · by_cases same : header.lsaKey = lsaKey
    · subst same
      exact .inr ⟨past, [], state, rfl, run, member⟩
    · left
      exact mem_filter.mpr ⟨listed, decide_eq_true same⟩
  · exact .inr (updated.later _)

theorem Requested.locally {next : Router}
    (requested : Requested link first past side (state.router side))
    (run : Run (Step link) first past state)
    (taken : LocalStep intf (state.router side) event next) :
    Requested link first (past ++ [.locally side event]) side next := by
  cases taken with
  | ddRetransmissionTimer _ =>
    have kept :=
      @kept_processEvent intf { state.router side with ddRetransmissionTimer := false }
        .ddRetransmissionTimer nofun
    exact requested.grown (Kept.grown ⟨kept.database, kept.processed, kept.list⟩) _
  | install _ =>
    intro _ _ member lacking
    rcases requested _ _ member lacking with listed | updated
    · exact .inl listed
    · exact .inr (updated.later _)
  | update _ => exact requested.removed _ run

end Requests

/-! ## Whole exchanges -/

/-- The router has entered `ExchangeStart` and sent its initial packet. -/
structure Start (intf : Interface) (router : Router) : Prop where
  state : router.state = .exchangeStartState
  list : router.databaseSummaryList = []
  last : router.lastTransmittedDDPacket = some (initialPacket intf router.ddSequenceNumber)
  channel : ∀ packet ∈ router.channel, packet = initialPacket intf router.ddSequenceNumber
  signalled : router.signalled = []
  processed : router.processed = []

theorem Start.negotiating (start : Start intf router) : Negotiating intf router.view := by
  refine ⟨?_, start.list, ?_, ?_, ?_, ?_⟩
  · simp [Router.view, start.state, settled]
  · simp [Router.view, start.processed]
  · simp [Router.view, start.state, start.last]
  · simp [Router.view, start.signalled]
  · simp [Router.view, start.signalled]

/-- What holds in a run after the events so far. -/
structure Sofar (link : Link) (first : Exchange) (past : List Event) (state : Exchange) : Prop where
  run : Run (Step link) first past state
  phase : Phase link state.lower.view state.higher.view
  requested : ∀ side, Requested link first past side (state.router side)

theorem not_mismatched {router : Router} (quiet : router.view.mismatched = false) :
    .sequenceNumberMismatch ∉ router.signalled := by
  intro member
  have signalled : router.view.mismatched = true := contains_iff_mem.mpr member
  rw [quiet] at signalled
  cases signalled

theorem Sound.requested (sound : Sound before after) (quiet : after.view.mismatched = false)
    (requested : Requested link first past side before) (event : Event) :
    Requested link first (past ++ [event]) side after := by
  rcases sound with signalled | grown
  · exact absurd signalled (not_mismatched quiet)
  · exact requested.grown grown _

theorem Sofar.step {next : Exchange} {past : List Event} {event : Event}
    (sofar : Sofar link first past state)
    (taken : Step link state event next) : Sofar link first (past ++ [event]) next := by
  have phase := sofar.phase.step taken
  refine ⟨sofar.run.snoc taken, phase, ?_⟩
  have lower := sofar.requested .lower
  have higher := sofar.requested .higher
  have run := sofar.run
  cases taken with
  | deliverToLower _ =>
    intro side
    cases side with
    | lower => exact (sound_processPacket _).requested phase.agreed.lowerQuiet lower _
    | higher => exact higher.grown (Kept.grown ⟨rfl, rfl, rfl⟩) _
  | deliverToHigher _ =>
    intro side
    cases side with
    | lower => exact lower.grown (Kept.grown ⟨rfl, rfl, rfl⟩) _
    | higher => exact (sound_processPacket _).requested phase.agreed.higherQuiet higher _
  | atLower taken =>
    intro side
    cases side with
    | lower => exact lower.locally run taken
    | higher => exact higher.grown (Kept.grown ⟨rfl, rfl, rfl⟩) _
  | atHigher taken =>
    intro side
    cases side with
    | lower => exact lower.grown (Kept.grown ⟨rfl, rfl, rfl⟩) _
    | higher => exact higher.locally run taken

/--
No side ever finds a packet out of sequence.  A side that signals
`exchangeDone` has received the summary of the other one, and requests what
its database lacked when it processed the headers, as long as it has not
received it.
-/
theorem database_exchange (link : Link) {first last : Exchange}
    {events : List Event} (lower : Start link.lower first.lower)
    (higher : Start link.higher first.higher)
    (run : Run (Step link) first events last) (side : Side) :
    .sequenceNumberMismatch ∉ (last.router side).signalled ∧
      (.exchangeDone ∈ (last.router side).signalled →
        (last.router side.other).summary = some ((last.router side).processed.map Prod.fst) ∧
          ∀ header database,
            (header, database) ∈ (last.router side).processed →
              lacks database header = true →
                header ∈ (last.router side).linkStateRequestList ∨
                  Updated link first events side header database) := by
  have initial : Sofar link first [] first := by
    refine ⟨.idle _, .starting ?_, ?_⟩
    · exact
        { lowerSide := lower.negotiating
          higherSide := higher.negotiating
          lowerChannel := lower.channel
          higherChannel := higher.channel }
    · intro side _ _ member
      cases side with
      | lower =>
        rw [Exchange.router, lower.processed] at member
        cases member
      | higher =>
        rw [Exchange.router, higher.processed] at member
        cases member
  have sofar := run.historyInvariant _ [] (fun _ _ _ _ sofar taken => sofar.step taken) initial
  have agreed := sofar.phase.agreed
  cases side with
  | lower =>
    refine ⟨not_mismatched agreed.lowerQuiet, ?_⟩
    intro done
    exact ⟨agreed.lowerDone (contains_iff_mem.mpr done), sofar.requested .lower⟩
  | higher =>
    refine ⟨not_mismatched agreed.higherQuiet, ?_⟩
    intro done
    exact ⟨agreed.higherDone (contains_iff_mem.mpr done), sofar.requested .higher⟩

section SmallExchange

/-- The first packet for a side is delivered, if there is one. -/
def deliver (link : Link) (exchange : Exchange) : Side → Exchange
  | .lower =>
    match exchange.higher.channel with
    | [] => exchange
    | packet :: rest =>
      ⟨ProcessPacket link.lower exchange.lower packet, { exchange.higher with channel := rest }⟩
  | .higher =>
    match exchange.lower.channel with
    | [] => exchange
    | packet :: rest =>
      ⟨{ exchange.lower with channel := rest }, ProcessPacket link.higher exchange.higher packet⟩

theorem step_deliver (link : Link) (exchange : Exchange) (side : Side)
    (waiting : (exchange.router side.other).channel ≠ []) :
    Step link exchange (.deliver side) (deliver link exchange side) := by
  cases side with
  | lower =>
    cases channel : exchange.higher.channel with
    | nil => exact absurd channel waiting
    | cons _ _ =>
      rw [deliver, channel]
      exact .deliverToLower channel
  | higher =>
    cases channel : exchange.lower.channel with
    | nil => exact absurd channel waiting
    | cons _ _ =>
      rw [deliver, channel]
      exact .deliverToHigher channel

def smallLink : Link where
  lower :=
    { routerID := 1
      neighborID := 2
      interfaceType := .pointToPoint
      mtu := 1500
      externalRoutingCapability := true }
  higher :=
    { routerID := 2
      neighborID := 1
      interfaceType := .pointToPoint
      mtu := 1500
      externalRoutingCapability := true }
  ordered := by decide
  lowerID := rfl
  higherID := rfl
  capability := rfl

def noLSAs {Key : Type} (index : OSPFLSAHeader → Key) (kind : LSAType → Bool) :
    LSATable index kind where
  lsas := []
  kinds := nofun
  distinct := nodup_nil

/-- One router LSA. -/
def smallDatabase (routerID : Nat) : Database where
  routerLSAs :=
    { lsas := [{ linkStateID := routerID, advertisingRouter := routerID }]
      kinds := by
        intro lsa member
        rw [mem_singleton.mp member]
        rfl
      distinct := nodup_singleton _ }
  networkLSAs := noLSAs _ _
  summaryLSAs := noLSAs _ _
  asExternalLSAs := noLSAs _ _

def smallRouter (intf : Interface) (number : BitVec 64) : Router where
  state := .exchangeStartState
  databaseExchangeRelationship := .master
  ddSequenceNumber := number
  neighborOptions := intf.options
  lastReceivedDDPacket := (initialPacket intf 0).packetID
  lastTransmittedDDPacket := some (initialPacket intf number)
  databaseSummaryList := []
  linkStateRequestList := []
  ddRetransmissionTimer := true
  requestRetransmissionTimerActive := false
  database := smallDatabase intf.routerID
  channel := [initialPacket intf number]
  requests := []
  signalled := []
  summary := none
  processed := []

theorem smallRouter_start (intf : Interface) (number : BitVec 64) :
    Start intf (smallRouter intf number) where
  state := rfl
  list := rfl
  last := rfl
  channel := by
    intro _ member
    exact mem_singleton.mp member
  signalled := rfl
  processed := rfl

def smallStart : Exchange where
  lower := smallRouter smallLink.lower 7
  higher := smallRouter smallLink.higher 9

def answeredOnce : Exchange := deliver smallLink smallStart .lower

def begunAgain : Exchange := deliver smallLink answeredOnce .higher

def polled : Exchange := deliver smallLink begunAgain .higher

def answeredTwice : Exchange := deliver smallLink polled .lower

def responded : Exchange := deliver smallLink answeredTwice .lower

theorem database_exchange_small :
    .sequenceNumberMismatch ∉ responded.lower.signalled ∧
      responded.higher.summary = some (responded.lower.processed.map Prod.fst) := by
  have run :
      Run (Step smallLink) smallStart
        [.deliver .lower, .deliver .higher, .deliver .higher, .deliver .lower, .deliver .lower]
        responded :=
    .next (step_deliver _ _ .lower (by decide))
      (.next (step_deliver _ _ .higher (by decide))
        (.next (step_deliver _ _ .higher (by decide))
          (.next (step_deliver _ _ .lower (by decide))
            (.next (step_deliver _ _ .lower (by decide)) (.idle _)))))
  have exchanged := database_exchange _ (smallRouter_start _ _) (smallRouter_start _ _) run .lower
  exact ⟨exchanged.1, (exchanged.2 (by decide)).1⟩

end SmallExchange

end OmnetDsi.Ospf.DatabaseExchange
