import OmnetDsi.Ipv6.HopLimits
import OmnetDsi.Library.RecordPools

/-!
# IPv6 Neighbour Discovery

The module with its neighbour cache, its timers, and the tables that it shares
with the IPv6 module.  Entries and timer messages are records with addresses
in memory: a timer points to an entry, and an entry to its timers, and either
may be gone when the pointer is followed.

Every event of a run is handled at the time of the clock.  The clock does not
pass a timer, and a timer goes off when the clock has come to it.
-/

namespace OmnetDsi.Ipv6.NeighbourDiscovery

open OmnetDsi.Arp.Resolution (MACAddress unspecifiedAddress)
open Contract.IPv6Addresses
open OmnetDsi.Ipv6.HopLimits (ReachabilityState Scope getScope isMulticast isLinkLocal)
open OmnetDsi.Ipv6.RoutingTables (IPv6Route RouteSort RoutingTable6
  RoutingError addDefaultRoute addOrUpdateOnLinkPrefix removeOnLinkPrefix doLongestPrefixMatch)
open Library

/-! ## Entries and timers -/

structure Key where
  address : IPv6Address
  interfaceID : Int
deriving DecidableEq

/-- `IPv6Address::compare`, with the words in their order. -/
def compare (a b : IPv6Address) : Int :=
  if a.d0 < b.d0 then -1
  else if b.d0 < a.d0 then 1
  else if a.d1 < b.d1 then -1
  else if b.d1 < a.d1 then 1
  else if a.d2 < b.d2 then -1
  else if b.d2 < a.d2 then 1
  else if a.d3 < b.d3 then -1
  else if b.d3 < a.d3 then 1
  else 0

def Key.less (a b : Key) : Bool :=
  if a.interfaceID = b.interfaceID then compare a.address b.address < 0
  else a.interfaceID < b.interfaceID

/--
A datagram on one of its passes through the module.  Its number says how many
datagrams were accepted before it.
-/
structure IPv6Datagram where
  number : Nat
  srcAddress : IPv6Address
  destAddress : IPv6Address

/-- An entry of the cache, with the address of its node in the map. -/
structure Neighbour where
  node : Nat
  nceKey : Key
  macAddress : MACAddress := unspecifiedAddress
  isRouter : Bool
  isDefaultRouter : Bool
  reachabilityState : ReachabilityState
  reachabilityExpires : Int := 0
  numProbesSent : BitVec 16 := 0
  nudTimeoutEvent : Option Nat := none
  numOfARNSSent : BitVec 32 := 0
  arTimer : Option Nat := none
  pendingPackets : List IPv6Datagram := []
  nsSrcAddr : IPv6Address := {}
  routerExpiryTime : Int

/-- A timer message; it has a time of arrival while it is scheduled. -/
structure Timer where
  pointer : Nat
  contextPointer : Nat
  arrivalTime : Option Int
deriving DecidableEq

def Timer.isScheduled (timer : Timer) : Bool :=
  timer.arrivalTime.isSome

/-- A queued datagram that is sent back, and the address found for it. -/
structure SentBack where
  number : Nat
  macAddress : MACAddress
deriving DecidableEq

/-- A datagram that is reported, after this many solicitations. -/
structure Unreachable where
  number : Nat
  interfaceID : Int
  solicitations : BitVec 32

/--
The entries and the timers of the two kinds, and what became of the datagrams
that were accepted.  Messages that do not exist any more are in no list.
-/
structure Memory where
  neighbourMap : List Neighbour := []
  nodes : Nat := 0
  nudTimers : List Timer := []
  arTimers : List Timer := []
  messages : Nat := 0
  accepted : List Nat := []
  sentBack : List SentBack := []
  unreachable : List Unreachable := []

inductive TimerKind where
  | MK_NUD_TIMEOUT
  | MK_AR_TIMEOUT
deriving DecidableEq

inductive Failure where
  | nullPointer
  /-- A timer points to an entry that was removed. -/
  | erasedEntry (kind : TimerKind)
  /-- A message is used after it was deleted. -/
  | deletedMessage (kind : TimerKind)
  /-- A message is deleted that is still scheduled. -/
  | deletesScheduled (kind : TimerKind)
  /-- `cancelEvent` is called without a message. -/
  | cancelsNull
  /-- A loop goes on from an element that it has removed. -/
  | erasedIterator
  | unknownNeighbourState
  /-- Unreachability detection starts from another state. -/
  | notStale
  | assertion
  | duplicateAddress
  /-- No such timer is due, or the clock would pass a timer. -/
  | notDue
  | routing (error : RoutingError)
deriving DecidableEq

/-! ## Timers -/

def findTimer (pointer : Nat) (timers : List Timer) : Option Timer :=
  RecordPools.find Timer.pointer pointer timers

def putTimer (timer : Timer) (timers : List Timer) : List Timer :=
  RecordPools.put Timer.pointer timer timers

def dropTimer (pointer : Nat) (timers : List Timer) : List Timer :=
  RecordPools.discard Timer.pointer pointer timers

def scheduleAt (time : Int) (timer : Timer) (timers : List Timer) : List Timer :=
  putTimer { timer with arrivalTime := some time } timers

/-- Nothing happens to a message that is not scheduled. -/
def cancelEvent (kind : TimerKind) (msg : Option Nat) (timers : List Timer) :
    Except Failure (List Timer) :=
  match msg with
  | none => .error .cancelsNull
  | some pointer =>
    match findTimer pointer timers with
    | none => .error (.deletedMessage kind)
    | some timer => .ok (putTimer { timer with arrivalTime := none } timers)

/-- `delete`, which leaves a null pointer alone. -/
def deleteMessage (kind : TimerKind) (msg : Option Nat) (timers : List Timer) :
    Except Failure (List Timer) :=
  match msg with
  | none => .ok timers
  | some pointer =>
    match findTimer pointer timers with
    | none => .error (.deletedMessage kind)
    | some timer =>
      if timer.isScheduled then .error (.deletesScheduled kind) else .ok (dropTimer pointer timers)

/-! ## The neighbour cache -/

def lookup (memory : Memory) (address : IPv6Address) (interfaceID : Int) : Option Neighbour :=
  memory.neighbourMap.find? fun nce => nce.nceKey = ⟨address, interfaceID⟩

/-- The entry that a pointer leads to. -/
def findEntry (memory : Memory) (node : Nat) : Option Neighbour :=
  RecordPools.find Neighbour.node node memory.neighbourMap

/-- Assignments to the fields of an entry. -/
def store (memory : Memory) (nce : Neighbour) : Memory :=
  { memory with neighbourMap := RecordPools.put Neighbour.node nce memory.neighbourMap }

/-- A new node goes to its place in the order of the keys. -/
def insert (memory : Memory) (nce : Neighbour) : Memory :=
  { memory with
    neighbourMap := memory.neighbourMap.orderedInsert (fun a b => a.nceKey.less b.nceKey = true) nce
    nodes := memory.nodes + 1 }

/-- The four functions that add an entry differ in these values. -/
def add (memory : Memory) (address : IPv6Address) (interfaceID : Int)
    (macAddress : MACAddress) (isRouter : Bool)
    (reachabilityState : ReachabilityState) (routerExpiryTime : Int) :
    Except Failure (Memory × Neighbour) :=
  match lookup memory address interfaceID with
  | some _ => .error .assertion
  | none =>
    let nbor : Neighbour :=
      { node := memory.nodes
        nceKey := ⟨address, interfaceID⟩
        macAddress
        isRouter
        isDefaultRouter := isRouter
        reachabilityState
        routerExpiryTime }
    .ok (insert memory nbor, nbor)

def addNeighbour (memory : Memory) (address : IPv6Address)
    (interfaceID : Int) : Except Failure (Memory × Neighbour) :=
  add memory address interfaceID unspecifiedAddress false .INCOMPLETE 0

def addNeighbourWithAddress (memory : Memory) (address : IPv6Address)
    (interfaceID : Int) (macAddress : MACAddress) : Except Failure (Memory × Neighbour) :=
  add memory address interfaceID macAddress false .STALE 0

def addRouter (memory : Memory) (address : IPv6Address) (interfaceID : Int)
    (expiryTime : Int) : Except Failure (Memory × Neighbour) :=
  add memory address interfaceID unspecifiedAddress true .INCOMPLETE expiryTime

def addRouterWithAddress (memory : Memory) (address : IPv6Address)
    (interfaceID : Int) (macAddress : MACAddress) (expiryTime : Int) :
    Except Failure (Memory × Neighbour) :=
  add memory address interfaceID macAddress true .STALE expiryTime

/-- The entry goes with its timer for unreachability detection. -/
def remove (memory : Memory) (address : IPv6Address) (interfaceID : Int) : Except Failure Memory :=
  match lookup memory address interfaceID with
  | none => .error .assertion
  | some nce =>
    match deleteMessage .MK_NUD_TIMEOUT nce.nudTimeoutEvent memory.nudTimers with
    | .error failure => .error failure
    | .ok nudTimers =>
      .ok { memory with
        neighbourMap := RecordPools.discard Neighbour.node nce.node memory.neighbourMap
        nudTimers }

/-! ## The module and the tables of the node -/

structure AddressData where
  address : IPv6Address
  tentative : Bool

/-- What the handlers read of an interface; durations are in clock ticks. -/
structure InterfaceData where
  macAddress : MACAddress
  advSendAdvertisements : Bool := false
  maxMulticastSolicit : BitVec 32 := 3
  maxUnicastSolicit : BitVec 32 := 3
  reachableTime : Nat
  retransTimer : Nat
  delayFirstProbeTime : Nat

/-- The constants of a node; the interfaces that others name exist. -/
structure Node where
  isRouter : Bool
  ipv6Data : Int → InterfaceData
  /-- A second, in clock ticks. -/
  second : Nat
  order : RouteSort

/-- The addresses of an interface, and the one that is preferred. -/
structure Assigned where
  addresses : List AddressData := []
  preferredAddr : IPv6Address := {}

def Assigned.hasAddress (assigned : Assigned) (addr : IPv6Address) : Bool :=
  assigned.addresses.any fun data => data.address = addr

def Assigned.isTentativeAddress (assigned : Assigned) (addr : IPv6Address) : Bool :=
  match assigned.addresses.find? fun data => data.address = addr with
  | none => false
  | some data => data.tentative

/-- A next hop that was determined for a datagram. -/
structure NextHop where
  destAddress : IPv6Address
  address : IPv6Address
  interfaceId : Int
deriving DecidableEq

inductive NDMessage where
  | neighbourSolicitation (target dest src : IPv6Address)
      (sourceLinkLayerAddress : MACAddress) (interfaceId : Int)
  | neighbourAdvertisement (target dest src : IPv6Address) (targetLinkLayerAddress : MACAddress)
      (routerFlag solicitedFlag overrideFlag : Bool) (interfaceId : Int)

/-- The lists at the end say what was determined and sent so far. -/
structure IPv6NeighbourDiscovery where
  simTime : Int
  memory : Memory := {}
  rt6 : RoutingTable6
  destCache : IPv6Address → Option (IPv6Address × Int) := fun _ => none
  assigned : Int → Assigned := fun _ => {}
  nextHops : List NextHop := []
  noRoute : List IPv6Address := []
  sent : List NDMessage := []

structure ControlInfo where
  srcAddr : IPv6Address
  destAddr : IPv6Address
  hopLimit : BitVec 16
  protocolICMPv6 : Bool
  interfaceId : Int

structure IPv6NeighbourSolicitation where
  targetAddress : IPv6Address
  sourceLinkLayerAddress : MACAddress

structure IPv6NeighbourAdvertisement where
  routerFlag : Bool
  solicitedFlag : Bool
  overrideFlag : Bool
  targetAddress : IPv6Address
  targetLinkLayerAddress : MACAddress

/-- Lifetimes are in seconds. -/
structure IPv6NDPrefixInformation where
  prefixLength : PrefixLength
  onlinkFlag : Bool
  validLifetime : BitVec 32
  address : IPv6Address
deriving DecidableEq

/--
The hop limit and the times that an advertisement also has go to variables of
the host that no handler reads.
-/
structure IPv6RouterAdvertisement where
  routerLifetime : BitVec 16
  sourceLinkLayerAddress : MACAddress
  prefixInformation : List IPv6NDPrefixInformation

/-! ## Solicitations and advertisements that are sent -/

def SOLICITED_NODE_PREFIX : IPv6Address where
  d0 := 0xFF020000
  d1 := 0
  d2 := 1
  d3 := 0xFF000000

theorem solicited_node_length : 104 < 129 := by
  decide

/-- The length that the callers give with the prefix. -/
def solicitedNodeLength : PrefixLength :=
  ⟨104, solicited_node_length⟩

def ALL_NODES_2 : IPv6Address where
  d0 := 0xFF020000
  d1 := 0
  d2 := 0
  d3 := 1

def formSolicitedNodeMulticastAddress (address : IPv6Address) : IPv6Address :=
  { SOLICITED_NODE_PREFIX with d3 := 0xFF000000 ||| (0x00FFFFFF &&& address.d3) }

def createAndSendNSPacket (node : Node) (nd : IPv6NeighbourDiscovery)
    (nsTargetAddr dgDestAddr dgSrcAddr : IPv6Address) (interfaceId : Int) :
    IPv6NeighbourDiscovery :=
  let sourceLinkLayerAddress :=
    if dgDestAddr.matches SOLICITED_NODE_PREFIX solicitedNodeLength && !dgSrcAddr.isUnspecified then
      (node.ipv6Data interfaceId).macAddress
    else unspecifiedAddress
  { nd with
    sent := nd.sent ++
      [.neighbourSolicitation nsTargetAddr dgDestAddr dgSrcAddr
        sourceLinkLayerAddress interfaceId] }

def sendSolicitedNA (node : Node) (nd : IPv6NeighbourDiscovery)
    (ns : IPv6NeighbourSolicitation) (nsCtrlInfo : ControlInfo) : IPv6NeighbourDiscovery :=
  let interfaceId := nsCtrlInfo.interfaceId
  let naDestAddr := if nsCtrlInfo.srcAddr.isUnspecified then ALL_NODES_2 else nsCtrlInfo.srcAddr
  { nd with
    sent := nd.sent ++
      [.neighbourAdvertisement ns.targetAddress naDestAddr (nd.assigned interfaceId).preferredAddr
        (node.ipv6Data interfaceId).macAddress node.isRouter (!nsCtrlInfo.srcAddr.isUnspecified)
        (!ns.sourceLinkLayerAddress.isUnspecified) interfaceId] }

/-! ## Unreachability detection -/

def initiateNeighbourUnreachabilityDetection (node : Node) (now : Int)
    (memory : Memory) (nce : Neighbour) : Except Failure Memory :=
  if nce.reachabilityState ≠ .STALE then .error .notStale
  else
    let delay := (node.ipv6Data nce.nceKey.interfaceID).delayFirstProbeTime
    let msg : Timer :=
      { pointer := memory.messages, contextPointer := nce.node, arrivalTime := some (now + delay) }
    let entered := store memory { nce with
      reachabilityState := .DELAY
      nudTimeoutEvent := some msg.pointer }
    .ok { entered with nudTimers := entered.nudTimers ++ [msg], messages := entered.messages + 1 }

def resolveNeighbour (node : Node) (now : Int) (memory : Memory)
    (nextHop : IPv6Address) (interfaceId : Int) : Except Failure (Memory × MACAddress) :=
  match lookup memory nextHop interfaceId with
  | none => .ok (memory, unspecifiedAddress)
  | some nce =>
    if nce.reachabilityState = .INCOMPLETE then .ok (memory, unspecifiedAddress)
    else if nce.reachabilityState = .STALE then
      (initiateNeighbourUnreachabilityDetection node now memory nce).map
        fun memory => (memory, nce.macAddress)
    else if nce.reachabilityState = .REACHABLE && now > nce.reachabilityExpires then
      let stale := { nce with reachabilityState := .STALE }
      (initiateNeighbourUnreachabilityDetection node now
        (store memory stale) stale).map fun memory => (memory, nce.macAddress)
    else .ok (memory, nce.macAddress)

/-- The entry is not looked at before its timer is read. -/
def reachabilityConfirmed (memory : Memory) (neighbour : IPv6Address)
    (interfaceId : Int) : Except Failure Memory :=
  match lookup memory neighbour interfaceId with
  | none => .error .nullPointer
  | some nce =>
    match nce.nudTimeoutEvent with
    | none => .ok memory
    | some msg => do
        let nudTimers ← cancelEvent .MK_NUD_TIMEOUT (some msg) memory.nudTimers
        let nudTimers ← deleteMessage .MK_NUD_TIMEOUT (some msg) nudTimers
        .ok { memory with nudTimers }

/-- In the state `DELAY` the timer starts the probes. -/
def startProbes (nce : Neighbour) : Neighbour :=
  if nce.reachabilityState = .DELAY then
    { nce with reachabilityState := .PROBE, numProbesSent := 0 }
  else nce

def maxProbesSent (node : Node) (nce : Neighbour) : Bool :=
  nce.numProbesSent.toInt = (node.ipv6Data nce.nceKey.interfaceID).maxUnicastSolicit.toInt

def processNUDTimeout (node : Node) (nd : IPv6NeighbourDiscovery)
    (timeoutMsg : Timer) : Except Failure IPv6NeighbourDiscovery :=
  match findEntry nd.memory timeoutMsg.contextPointer with
  | none => .error (.erasedEntry .MK_NUD_TIMEOUT)
  | some entry =>
    let nce := startProbes entry
    let memory := store nd.memory nce
    let interfaceID := nce.nceKey.interfaceID
    if maxProbesSent node nce then
      (remove memory nce.nceKey.address interfaceID).map fun memory => { nd with memory }
    else
      let probed := store memory { nce with numProbesSent := nce.numProbesSent + 1 }
      let retransTimer := (node.ipv6Data interfaceID).retransTimer
      .ok (createAndSendNSPacket node
        { nd with
          memory := { probed with
            nudTimers := scheduleAt (nd.simTime + retransTimer) timeoutMsg probed.nudTimers } }
        nce.nceKey.address nce.nceKey.address
        (nd.assigned interfaceID).preferredAddr interfaceID)

/-! ## Next hops -/

def isReachable (nce : Neighbour) : Bool :=
  nce.reachabilityState = .REACHABLE || nce.reachabilityState = .STALE ||
    nce.reachabilityState = .DELAY

def routerExpired (now : Int) (nce : Neighbour) : Bool :=
  nce.isDefaultRouter && now > nce.routerExpiryTime

/--
The scan of the entries.  An expired router is removed, and then the loop
increments its iterator, which stands on the entry that is gone.
-/
def selectFrom (now : Int) (memory : Memory) : List Neighbour → Except Failure (IPv6Address × Int)
  | [] => .ok ({}, -1)
  | nce :: rest =>
    if routerExpired now nce then
      match remove memory nce.nceKey.address nce.nceKey.interfaceID with
      | .error failure => .error failure
      | .ok _ => .error .erasedIterator
    else if isReachable nce then .ok (nce.nceKey.address, nce.nceKey.interfaceID)
    else selectFrom now memory rest

def selectDefaultRouter (now : Int) (memory : Memory) : Except Failure (IPv6Address × Int) :=
  selectFrom now memory memory.neighbourMap

def updateDestCache (nd : IPv6NeighbourDiscovery)
    (dest nextHopAddr : IPv6Address) (interfaceId : Int) : IPv6NeighbourDiscovery :=
  { nd with destCache := Function.update nd.destCache dest (some (nextHopAddr, interfaceId)) }

/-- The next hop on a route to a destination. -/
def hopOn (route : IPv6Route) (destAddr : IPv6Address) : IPv6Address :=
  if route.nextHop.isUnspecified then destAddr else route.nextHop

def doLookup (nd : IPv6NeighbourDiscovery) (destAddr : IPv6Address) :
    Except Failure (IPv6NeighbourDiscovery × Option IPv6Route) :=
  match doLongestPrefixMatch nd.simTime destAddr nd.rt6 with
  | .error error => .error (.routing error)
  | .ok (rt6, route) => .ok ({ nd with rt6 }, route)

/-- The interface is -1 when there is no route and no router. -/
def determineNextHop (nd : IPv6NeighbourDiscovery) (destAddr : IPv6Address) :
    Except Failure (IPv6NeighbourDiscovery × IPv6Address × Int) :=
  match doLookup nd destAddr with
  | .error failure => .error failure
  | .ok (nd, some route) =>
    let nextHopAddr := hopOn route destAddr
    .ok (updateDestCache nd destAddr nextHopAddr route.interfaceId, nextHopAddr, route.interfaceId)
  | .ok (nd, none) =>
    match selectDefaultRouter nd.simTime nd.memory with
    | .error failure => .error failure
    | .ok (nextHopAddr, outIfID) =>
      .ok (updateDestCache nd destAddr nextHopAddr outIfID, nextHopAddr, outIfID)

/-! ## Address resolution -/

def initiateAddressResolution (node : Node) (nd : IPv6NeighbourDiscovery)
    (dgSrcAddr : IPv6Address) (nce : Neighbour) :
    Except Failure (IPv6NeighbourDiscovery × Neighbour) :=
  let ifID := nce.nceKey.interfaceID
  let neighbourAddr := nce.nceKey.address
  let assigned := nd.assigned ifID
  let nsSrcAddr := if assigned.hasAddress dgSrcAddr then dgSrcAddr else assigned.preferredAddr
  if ifID = -1 then .error .assertion
  else
    let msg : Timer :=
      { pointer := nd.memory.messages
        contextPointer := nce.node
        arrivalTime := some (nd.simTime + (node.ipv6Data ifID).retransTimer) }
    let nce := { nce with
      reachabilityState := .INCOMPLETE
      numOfARNSSent := 1
      nsSrcAddr
      arTimer := some msg.pointer }
    let entered := store nd.memory nce
    .ok (createAndSendNSPacket node
      { nd with
        memory := { entered with
          arTimers := entered.arTimers ++ [msg]
          messages := entered.messages + 1 } }
      neighbourAddr (formSolicitedNodeMulticastAddress neighbourAddr)
      nsSrcAddr ifID, nce)

/-- The datagram is accepted and waits for the address of the neighbour. -/
def queuePacket (memory : Memory) (nce : Neighbour) (msg : IPv6Datagram) : Memory :=
  let queued := store memory { nce with pendingPackets := nce.pendingPackets ++ [msg] }
  { queued with accepted := queued.accepted ++ [msg.number] }

def resolveAndQueue (node : Node) (nd : IPv6NeighbourDiscovery)
    (nce : Neighbour) (msg : IPv6Datagram) : Except Failure IPv6NeighbourDiscovery :=
  (initiateAddressResolution node nd msg.srcAddress nce).map
    fun started => { started.1 with memory := queuePacket started.1.memory started.2 msg }

/-- The part of `processIPv6Datagram` behind the look-up of the entry. -/
def sendToNeighbour (node : Node) (nd : IPv6NeighbourDiscovery)
    (nce : Neighbour) (msg : IPv6Datagram) : Except Failure IPv6NeighbourDiscovery :=
  if nce.reachabilityState = .INCOMPLETE then
    .ok { nd with memory := queuePacket nd.memory nce msg }
  else if nce.macAddress.isUnspecified then resolveAndQueue node nd nce msg
  else
    match nce.reachabilityState with
    | .STALE =>
      (initiateNeighbourUnreachabilityDetection node nd.simTime nd.memory
        nce).map fun memory => { nd with memory }
    | .REACHABLE => .ok nd
    | .DELAY => .ok nd
    | _ => .error .unknownNeighbourState

def sendToNextHop (node : Node) (nd : IPv6NeighbourDiscovery)
    (msg : IPv6Datagram) (nextHopAddr : IPv6Address) (nextHopIfID : Int) :
    Except Failure IPv6NeighbourDiscovery :=
  match lookup nd.memory nextHopAddr nextHopIfID with
  | none =>
    match addNeighbour nd.memory nextHopAddr nextHopIfID with
    | .error failure => .error failure
    | .ok (memory, nce) => resolveAndQueue node { nd with memory } nce msg
  | some nce => sendToNeighbour node nd nce msg

def noteNextHop (nd : IPv6NeighbourDiscovery)
    (destAddress address : IPv6Address) (interfaceId : Int) : IPv6NeighbourDiscovery :=
  { nd with nextHops := nd.nextHops ++ [⟨destAddress, address, interfaceId⟩] }

def processIPv6Datagram (node : Node) (nd : IPv6NeighbourDiscovery)
    (srcAddress destAddress : IPv6Address) : Except Failure IPv6NeighbourDiscovery :=
  let number := nd.memory.accepted.length
  let msg : IPv6Datagram := ⟨number, srcAddress, destAddress⟩
  match determineNextHop nd destAddress with
  | .error failure => .error failure
  | .ok (nd, nextHopAddr, nextHopIfID) =>
    if nextHopIfID = -1 then .ok { nd with noRoute := nd.noRoute ++ [destAddress] }
    else
      sendToNextHop node (noteNextHop nd destAddress nextHopAddr nextHopIfID)
        msg nextHopAddr nextHopIfID

/-- All queued datagrams are reported, and the entry is removed. -/
def dropQueuedPacketsAwaitingAR (memory : Memory) (nce : Neighbour) : Except Failure Memory :=
  let interfaceID := nce.nceKey.interfaceID
  let reports := nce.pendingPackets.map fun msg =>
    (⟨msg.number, interfaceID, nce.numOfARNSSent⟩ : Unreachable)
  remove { memory with unreachable := memory.unreachable ++ reports } nce.nceKey.address interfaceID

def processARTimeout (node : Node) (nd : IPv6NeighbourDiscovery)
    (arTimeoutMsg : Timer) : Except Failure IPv6NeighbourDiscovery :=
  match findEntry nd.memory arTimeoutMsg.contextPointer with
  | none => .error (.erasedEntry .MK_AR_TIMEOUT)
  | some nce =>
    let nsTargetAddr := nce.nceKey.address
    let interfaceID := nce.nceKey.interfaceID
    let ie := node.ipv6Data interfaceID
    if nce.numOfARNSSent < ie.maxMulticastSolicit then
      let counted := store nd.memory { nce with numOfARNSSent := nce.numOfARNSSent + 1 }
      .ok (createAndSendNSPacket node
        { nd with
          memory := { counted with
            arTimers := scheduleAt (nd.simTime + ie.retransTimer) arTimeoutMsg counted.arTimers } }
        nsTargetAddr (formSolicitedNodeMulticastAddress nsTargetAddr)
        nce.nsSrcAddr interfaceID)
    else do
      let memory ← dropQueuedPacketsAwaitingAR nd.memory nce
      let arTimers ← deleteMessage .MK_AR_TIMEOUT (some arTimeoutMsg.pointer) memory.arTimers
      .ok { nd with memory := { memory with arTimers } }

/-! ## Neighbour solicitations -/

def validateNSPacket (ns : IPv6NeighbourSolicitation) (nsCtrlInfo : ControlInfo) : Bool :=
  nsCtrlInfo.hopLimit = 255 && !isMulticast ns.targetAddress &&
    (!nsCtrlInfo.srcAddr.isUnspecified ||
      nsCtrlInfo.destAddr.matches SOLICITED_NODE_PREFIX solicitedNodeLength &&
        ns.sourceLinkLayerAddress.isUnspecified)

def processNSWithSpecifiedSrcAddr (node : Node) (nd : IPv6NeighbourDiscovery)
    (ns : IPv6NeighbourSolicitation) (nsCtrlInfo : ControlInfo) :
    Except Failure IPv6NeighbourDiscovery :=
  let nsMacAddr := ns.sourceLinkLayerAddress
  let ifID := nsCtrlInfo.interfaceId
  match lookup nd.memory nsCtrlInfo.srcAddr ifID with
  | none =>
    match addNeighbourWithAddress nd.memory nsCtrlInfo.srcAddr ifID nsMacAddr with
    | .error failure => .error failure
    | .ok (memory, _) => .ok (sendSolicitedNA node { nd with memory } ns nsCtrlInfo)
  | some entry =>
    let memory :=
      if entry.macAddress ≠ nsMacAddr && !nsMacAddr.isUnspecified then
        store nd.memory { entry with macAddress := nsMacAddr, reachabilityState := .STALE }
      else nd.memory
    .ok (sendSolicitedNA node { nd with memory } ns nsCtrlInfo)

/-- Without braces, the error comes in both cases of the first branch. -/
def processNSForTentativeAddress (nd : IPv6NeighbourDiscovery)
    (nsCtrlInfo : ControlInfo) : Except Failure IPv6NeighbourDiscovery :=
  if nsCtrlInfo.srcAddr.isUnspecified then .error .duplicateAddress
  else if isMulticast nsCtrlInfo.srcAddr then .error .assertion
  else .ok nd

def processNSPacket (node : Node) (nd : IPv6NeighbourDiscovery)
    (ns : IPv6NeighbourSolicitation) (nsCtrlInfo : ControlInfo) :
    Except Failure IPv6NeighbourDiscovery :=
  let assigned := nd.assigned nsCtrlInfo.interfaceId
  if !validateNSPacket ns nsCtrlInfo || !assigned.hasAddress ns.targetAddress then .ok nd
  else if assigned.isTentativeAddress ns.targetAddress then
    processNSForTentativeAddress nd nsCtrlInfo
  else if nsCtrlInfo.srcAddr.isUnspecified then .ok (sendSolicitedNA node nd ns nsCtrlInfo)
  else processNSWithSpecifiedSrcAddr node nd ns nsCtrlInfo

/-! ## Neighbour advertisements -/

def validateNAPacket (na : IPv6NeighbourAdvertisement) (naCtrlInfo : ControlInfo) : Bool :=
  naCtrlInfo.hopLimit = 255 && !isMulticast na.targetAddress &&
    (!isMulticast naCtrlInfo.destAddr || !na.solicitedFlag)

/-- The entry as the advertisement of its address leaves it. -/
def resolvedEntry (node : Node) (now : Int) (na : IPv6NeighbourAdvertisement)
    (nce : Neighbour) : Neighbour :=
  let reachableTime := (node.ipv6Data nce.nceKey.interfaceID).reachableTime
  let addressed := { nce with macAddress := na.targetLinkLayerAddress }
  let confirmed :=
    if na.solicitedFlag then
      { addressed with reachabilityState := .REACHABLE, reachabilityExpires := now + reachableTime }
    else { addressed with reachabilityState := .STALE }
  { confirmed with isRouter := na.routerFlag }

def sendQueuedPacketsToIPv6Module (memory : Memory) (nce : Neighbour) : Memory :=
  let sent := nce.pendingPackets.map fun msg => (⟨msg.number, nce.macAddress⟩ : SentBack)
  let emptied := store memory { nce with pendingPackets := [] }
  { emptied with sentBack := emptied.sentBack ++ sent }

def processNAForIncompleteNCEState (node : Node) (now : Int) (memory : Memory)
    (na : IPv6NeighbourAdvertisement) (nce : Neighbour) : Except Failure Memory :=
  if na.targetLinkLayerAddress.isUnspecified then .ok memory
  else
    let memory := sendQueuedPacketsToIPv6Module memory (resolvedEntry node now na nce)
    (cancelEvent .MK_AR_TIMEOUT nce.arTimer memory.arTimers).map
      fun arTimers => { memory with arTimers }

/-- The solicited flag confirms the reachability of the neighbour. -/
def confirmEntry (node : Node) (now : Int) (memory : Memory)
    (nce : Neighbour) : Except Failure (Memory × Neighbour) :=
  let reachable := { nce with reachabilityState := .REACHABLE }
  match nce.nudTimeoutEvent with
  | none => .ok (memory, reachable)
  | some msg => do
      let nudTimers ← cancelEvent .MK_NUD_TIMEOUT (some msg) memory.nudTimers
      let nudTimers ← deleteMessage .MK_NUD_TIMEOUT (some msg) nudTimers
      let reachableTime := (node.ipv6Data nce.nceKey.interfaceID).reachableTime
      .ok ({ memory with nudTimers }, { reachable with reachabilityExpires := now + reachableTime })

def processNAForOtherNCEStates (node : Node) (now : Int) (memory : Memory)
    (na : IPv6NeighbourAdvertisement) (nce : Neighbour) : Except Failure Memory :=
  let naMacAddr := na.targetLinkLayerAddress
  if !na.overrideFlag && naMacAddr ≠ nce.macAddress && !naMacAddr.isUnspecified then
    if nce.reachabilityState = .REACHABLE then
      .ok (store memory { nce with reachabilityState := .STALE })
    else .ok memory
  else
    let addressed :=
      if !naMacAddr.isUnspecified && naMacAddr ≠ nce.macAddress then
        { nce with macAddress := naMacAddr }
      else nce
    if na.solicitedFlag then
      (confirmEntry node now memory addressed).map fun confirmed =>
        store confirmed.1 { confirmed.2 with isRouter := na.routerFlag }
    else
      let unsolicited :=
        if naMacAddr ≠ addressed.macAddress then { addressed with reachabilityState := .STALE }
        else addressed
      .ok (store memory { unsolicited with isRouter := na.routerFlag })

def processNAPacket (node : Node) (nd : IPv6NeighbourDiscovery)
    (na : IPv6NeighbourAdvertisement) (naCtrlInfo : ControlInfo) :
    Except Failure IPv6NeighbourDiscovery :=
  let ifID := naCtrlInfo.interfaceId
  if !validateNAPacket na naCtrlInfo then .ok nd
  else if (nd.assigned ifID).isTentativeAddress na.targetAddress then .error .duplicateAddress
  else
    match lookup nd.memory na.targetAddress ifID with
    | none => .ok nd
    | some nce =>
      let processed :=
        if nce.reachabilityState = .INCOMPLETE then
          processNAForIncompleteNCEState node nd.simTime nd.memory na nce
        else processNAForOtherNCEStates node nd.simTime nd.memory na nce
      processed.map fun memory => { nd with memory }

/-! ## Router advertisements -/

def validateRAPacket (raCtrlInfo : ControlInfo) : Bool :=
  isLinkLocal raCtrlInfo.srcAddr && raCtrlInfo.hopLimit = 255 && raCtrlInfo.protocolICMPv6

def isPrefixPresent (table : RoutingTable6) (address : IPv6Address) : Bool :=
  table.routeList.any fun route => address.matches route.destPrefix (Fin.last 128)

/-- The loop leaves the later options out after one that is not on-link. -/
def processRAPrefixInfo (node : Node) (now : Int) (interfaceId : Int) :
    List IPv6NDPrefixInformation → RoutingTable6 → RoutingTable6
  | [], table => table
  | prefixInfo :: rest, table =>
    let address := prefixInfo.address
    let prefixLength := prefixInfo.prefixLength
    let validLifetime := prefixInfo.validLifetime.toNat * node.second
    if !prefixInfo.onlinkFlag then table
    else if isLinkLocal address then table
    else if !isPrefixPresent table address then
      if validLifetime ≠ 0 then
        processRAPrefixInfo node now interfaceId rest
          (addOrUpdateOnLinkPrefix node.order table address prefixLength
            interfaceId (now + validLifetime))
      else processRAPrefixInfo node now interfaceId rest table
    else if validLifetime = 0 then removeOnLinkPrefix table address prefixLength
    else
      processRAPrefixInfo node now interfaceId rest
        (addOrUpdateOnLinkPrefix node.order table address prefixLength
          interfaceId (now + validLifetime))

def purgeDestCacheEntriesToNeighbour (destCache : IPv6Address → Option (IPv6Address × Int))
    (nextHopAddr : IPv6Address) (interfaceId : Int) : IPv6Address → Option (IPv6Address × Int) :=
  fun dest => if destCache dest = some (nextHopAddr, interfaceId) then none else destCache dest

def timeoutDefaultRouter (nd : IPv6NeighbourDiscovery) (addr : IPv6Address)
    (interfaceID : Int) : Except Failure IPv6NeighbourDiscovery :=
  (remove nd.memory addr interfaceID).map fun memory =>
    { nd with
      memory
      destCache := purgeDestCacheEntriesToNeighbour nd.destCache addr interfaceID }

/-- The advertisement comes from an address without an entry. -/
def enterAdvertiser (node : Node) (nd : IPv6NeighbourDiscovery)
    (ra : IPv6RouterAdvertisement) (raSrcAddr : IPv6Address) (ifID : Int) :
    Except Failure IPv6NeighbourDiscovery :=
  let macAddress := ra.sourceLinkLayerAddress
  let expiryTime := nd.simTime + ra.routerLifetime.toNat * node.second
  if ra.routerLifetime ≠ 0 then
    if macAddress.isUnspecified then
      (addRouter nd.memory raSrcAddr ifID expiryTime).map fun added => { nd with memory := added.1 }
    else
      (addRouterWithAddress nd.memory raSrcAddr ifID macAddress expiryTime).map
        fun added =>
          { nd with
            memory := added.1
            rt6 := addDefaultRoute node.order nd.rt6 raSrcAddr ifID expiryTime }
  else
    let added :=
      if macAddress.isUnspecified then addNeighbour nd.memory raSrcAddr ifID
      else addNeighbourWithAddress nd.memory raSrcAddr ifID macAddress
    added.map fun added => { nd with memory := store added.1 { added.2 with isRouter := true } }

/-- The entry of a neighbour that advertises itself again. -/
def advertisedEntry (node : Node) (now : Int) (ra : IPv6RouterAdvertisement)
    (neighbour : Neighbour) : Neighbour :=
  let macAddress :=
    if !ra.sourceLinkLayerAddress.isUnspecified &&
        neighbour.macAddress ≠ ra.sourceLinkLayerAddress then
      ra.sourceLinkLayerAddress
    else neighbour.macAddress
  { neighbour with
    isRouter := true
    macAddress
    routerExpiryTime := now + ra.routerLifetime.toNat * node.second }

/-- The entries and the default route, without the prefixes. -/
def updateRouter (node : Node) (nd : IPv6NeighbourDiscovery)
    (ra : IPv6RouterAdvertisement) (raSrcAddr : IPv6Address) (ifID : Int) :
    Except Failure IPv6NeighbourDiscovery :=
  match lookup nd.memory raSrcAddr ifID with
  | none => enterAdvertiser node nd ra raSrcAddr ifID
  | some neighbour =>
    let updated :=
      { nd with memory := store nd.memory (advertisedEntry node nd.simTime ra neighbour) }
    if ra.routerLifetime = 0 then timeoutDefaultRouter updated raSrcAddr ifID else .ok updated

def processRAForRouterUpdates (node : Node) (nd : IPv6NeighbourDiscovery)
    (ra : IPv6RouterAdvertisement) (raCtrlInfo : ControlInfo) :
    Except Failure IPv6NeighbourDiscovery :=
  let ifID := raCtrlInfo.interfaceId
  (updateRouter node nd ra raCtrlInfo.srcAddr ifID).map fun nd =>
    { nd with rt6 := processRAPrefixInfo node nd.simTime ifID ra.prefixInformation nd.rt6 }

/-- An interface that advertises itself takes no advertisements. -/
def takesAdvertisement (node : Node) (raCtrlInfo : ControlInfo) : Bool :=
  !(node.ipv6Data raCtrlInfo.interfaceId).advSendAdvertisements && validateRAPacket raCtrlInfo

def processRAPacket (node : Node) (nd : IPv6NeighbourDiscovery)
    (ra : IPv6RouterAdvertisement) (raCtrlInfo : ControlInfo) :
    Except Failure IPv6NeighbourDiscovery :=
  if takesAdvertisement node raCtrlInfo then processRAForRouterUpdates node nd ra raCtrlInfo
  else .ok nd

/-! ## Datagrams in the IPv6 module -/

def resolveFor (node : Node) (nd : IPv6NeighbourDiscovery)
    (nextHop : IPv6Address) (interfaceId : Int) : Except Failure IPv6NeighbourDiscovery :=
  (resolveNeighbour node nd.simTime nd.memory nextHop interfaceId).map
    fun resolved => { nd with memory := resolved.1 }

/--
The end of `IPv6::routePacket`.  A datagram without a route, or whose next hop
has no address, comes to this module with an event of its own.
-/
def routePacket (node : Node) (nd : IPv6NeighbourDiscovery)
    (destAddress : IPv6Address) : Except Failure IPv6NeighbourDiscovery :=
  let cached := (nd.destCache destAddress).getD ({}, -1)
  if cached.2 ≠ -1 then
    if cached.1.isUnspecified then .error .assertion
    else resolveFor node (noteNextHop nd destAddress cached.1 cached.2) cached.1 cached.2
  else
    match doLookup nd destAddress with
    | .error failure => .error failure
    | .ok (nd, none) => .ok nd
    | .ok (nd, some route) =>
      let nextHop := hopOn route destAddress
      let interfaceId := route.interfaceId
      if nextHop.isUnspecified then .error .assertion
      else
        resolveFor node
          (noteNextHop (updateDestCache nd destAddress nextHop interfaceId)
            destAddress nextHop interfaceId)
          nextHop interfaceId

/-! ## Runs -/

inductive Event where
  | elapse (duration : Nat)
  | assignAddresses (interfaceId : Int) (assigned : Assigned)
  | nudTimeout (msg : Nat)
  | arTimeout (msg : Nat)
  | routePacket (destAddress : IPv6Address)
  | resolveNeighbour (nextHop : IPv6Address) (interfaceId : Int)
  | reachabilityConfirmed (neighbour : IPv6Address) (interfaceId : Int)
  | datagram (srcAddress destAddress : IPv6Address)
  | solicitation (ns : IPv6NeighbourSolicitation) (nsCtrlInfo : ControlInfo)
  | advertisement (na : IPv6NeighbourAdvertisement) (naCtrlInfo : ControlInfo)
  | routerAdvertisement (ra : IPv6RouterAdvertisement) (raCtrlInfo : ControlInfo)

/-- No timer is due before this time. -/
def quietUntil (time : Int) (timers : List Timer) : Bool :=
  timers.all fun timer =>
    match timer.arrivalTime with
    | none => true
    | some arrival => time ≤ arrival

/-- The message that goes off now. -/
def due (now : Int) (msg : Nat) (timers : List Timer) : Option Timer :=
  (findTimer msg timers).filter fun timer => timer.arrivalTime = some now

/-- The timer is not scheduled any more when it is handled. -/
def delivered (timer : Timer) : Timer :=
  { timer with arrivalTime := none }

def handleNUDTimeout (node : Node) (nd : IPv6NeighbourDiscovery) (msg : Nat) :
    Except Failure IPv6NeighbourDiscovery :=
  match due nd.simTime msg nd.memory.nudTimers with
  | none => .error .notDue
  | some timer =>
    let nudTimers := putTimer (delivered timer) nd.memory.nudTimers
    processNUDTimeout node { nd with memory := { nd.memory with nudTimers } } (delivered timer)

def handleARTimeout (node : Node) (nd : IPv6NeighbourDiscovery) (msg : Nat) :
    Except Failure IPv6NeighbourDiscovery :=
  match due nd.simTime msg nd.memory.arTimers with
  | none => .error .notDue
  | some timer =>
    let arTimers := putTimer (delivered timer) nd.memory.arTimers
    processARTimeout node { nd with memory := { nd.memory with arTimers } } (delivered timer)

def elapse (nd : IPv6NeighbourDiscovery) (duration : Nat) : Except Failure IPv6NeighbourDiscovery :=
  let time := nd.simTime + duration
  if quietUntil time nd.memory.nudTimers && quietUntil time nd.memory.arTimers then
    .ok { nd with simTime := time }
  else .error .notDue

def handle (node : Node) (nd : IPv6NeighbourDiscovery) :
    Event → Except Failure IPv6NeighbourDiscovery
  | .elapse duration => elapse nd duration
  | .assignAddresses interfaceId assigned =>
    .ok { nd with assigned := Function.update nd.assigned interfaceId assigned }
  | .nudTimeout msg => handleNUDTimeout node nd msg
  | .arTimeout msg => handleARTimeout node nd msg
  | .routePacket destAddress => routePacket node nd destAddress
  | .resolveNeighbour nextHop interfaceId => resolveFor node nd nextHop interfaceId
  | .reachabilityConfirmed neighbour interfaceId =>
    (reachabilityConfirmed nd.memory neighbour interfaceId).map fun memory => { nd with memory }
  | .datagram srcAddress destAddress => processIPv6Datagram node nd srcAddress destAddress
  | .solicitation ns nsCtrlInfo => processNSPacket node nd ns nsCtrlInfo
  | .advertisement na naCtrlInfo => processNAPacket node nd na naCtrlInfo
  | .routerAdvertisement ra raCtrlInfo => processRAPacket node nd ra raCtrlInfo

def Step (node : Node) (nd : IPv6NeighbourDiscovery) (event : Event)
    (next : IPv6NeighbourDiscovery) : Prop :=
  handle node nd event = .ok next

/-- The module after its initialization, with the routes of the node. -/
def start (now : Int) (rt6 : RoutingTable6) : IPv6NeighbourDiscovery where
  simTime := now
  rt6

end OmnetDsi.Ipv6.NeighbourDiscovery
