import OmnetDsi.Arp.Resolution
import OmnetDsi.Ipv6.RoutingTables

/-!
# Hop limits of unicast datagrams

One datagram on its way through a node.  The IPv6 module hands it to
Neighbour Discovery when a host has no route or when the next hop has no
link-layer address yet, and gets it back through the gate `ndIn`, where it is
taken for one that arrived from the network.

The tables of the node change by what the datagram causes, and arbitrarily
between two steps (`reconfigure`).
-/

namespace OmnetDsi.Ipv6.HopLimits

open OmnetDsi.Arp.Resolution (MACAddress broadcastAddress unspecifiedAddress)
open Contract.IPv6Addresses
open OmnetDsi.Ipv6.RoutingTables (IPv6Route)
open Library.Transition

/-! ## Datagrams and nodes -/

inductive Scope where
  | UNSPECIFIED
  | LOOPBACK
  | MULTICAST
  | LINK
  | SITE
  | GLOBAL
deriving DecidableEq

def getScope (address : IPv6Address) : Scope :=
  if address.d0 &&& 0xFFC00000 = 0xFE800000 then .LINK
  else if address.d0 &&& 0xFFC00000 = 0xFEC00000 then .SITE
  else if address.d0 &&& 0xFF000000 = 0xFF000000 then .MULTICAST
  else if address.d0 = 0 ∧ address.d1 = 0 ∧ address.d2 = 0 then
    if address.d3 = 0 then .UNSPECIFIED
    else if address.d3 = 1 then .LOOPBACK
    else .GLOBAL
  else .GLOBAL

def isMulticast (address : IPv6Address) : Bool :=
  getScope address = .MULTICAST

def isLoopback (address : IPv6Address) : Bool :=
  getScope address = .LOOPBACK

def isLinkLocal (address : IPv6Address) : Bool :=
  getScope address = .LINK

/-- The fields that routing reads; the hop limit is a `short`. -/
structure IPv6Datagram where
  srcAddress : IPv6Address
  destAddress : IPv6Address
  hopLimit : BitVec 16
  hasBitError : Bool := false

structure IPv6ControlInfo where
  srcAddr : IPv6Address
  destAddr : IPv6Address
  hopLimit : BitVec 16
  interfaceId : Int

inductive ReachabilityState where
  | INCOMPLETE
  | REACHABLE
  | STALE
  | DELAY
  | PROBE
deriving DecidableEq

structure Neighbour where
  macAddress : MACAddress
  reachabilityState : ReachabilityState
  reachabilityExpires : Int

structure InterfaceEntry where
  networkLayerGateIndex : Nat
  preferredAddress : IPv6Address

/-- What the datagram meets: the tables of the node, as functions. -/
structure Node where
  isRouter : Bool
  isLocalAddress : IPv6Address → Bool
  getInterfaceById : Int → Option InterfaceEntry
  hasInterfaceWithAddress : IPv6Address → Bool
  destCache : IPv6Address → Option (IPv6Address × Int)
  doLongestPrefixMatch : IPv6Address → Option IPv6Route
  neighbourCache : IPv6Address → Int → Option Neighbour
  /-- The interface is -1 when no router is known. -/
  selectDefaultRouter : IPv6Address × Int

/-- Why a datagram is not sent on. -/
inductive Drop where
  | bitError
  | forwardingOff
  | notForwarded
  | unroutable
  | timeExceeded
  | noRouteToDest
  | addressUnreachable

/-- Where the datagram is. -/
inductive Place where
  /-- Encapsulated, with the interface that the upper layer asked for. -/
  | fromHL (destIE : Option InterfaceEntry)
  | queueIn
  | ndIn
  | neighbourDiscovery
  | pendingPackets
  | queueOut (gate : Nat) (macAddr : MACAddress)
  | localDelivery
  | dropped (drop : Drop)

inductive Failure where
  /-- An assertion fails. -/
  | assertion
  | wrongSourceAddress
  | unknownNeighbourState
  /-- Multicast datagrams take another way, which is left out. -/
  | multicast
  /-- The datagram is not where the event takes place. -/
  | notThere

/-! ## Routing -/

def lookupDestCache (node : Node) (dest : IPv6Address) : IPv6Address × Int :=
  (node.destCache dest).getD ({}, -1)

def updateDestCache (node : Node) (dest nextHopAddr : IPv6Address) (interfaceId : Int) : Node :=
  { node with
    destCache := fun address =>
      if address = dest then some (nextHopAddr, interfaceId) else node.destCache address }

def updateNeighbour (node : Node) (address : IPv6Address) (interfaceId : Int)
    (nce : Neighbour) : Node :=
  { node with
    neighbourCache := fun other otherId =>
      if other = address ∧ otherId = interfaceId then some nce
      else node.neighbourCache other otherId }

def initiateNeighbourUnreachabilityDetection (node : Node)
    (address : IPv6Address) (interfaceId : Int) (nce : Neighbour) : Node :=
  updateNeighbour node address interfaceId { nce with reachabilityState := .DELAY }

def resolveNeighbour (node : Node) (now : Int) (nextHop : IPv6Address)
    (interfaceId : Int) : Node × MACAddress :=
  match node.neighbourCache nextHop interfaceId with
  | none => (node, unspecifiedAddress)
  | some nce =>
    match nce.reachabilityState with
    | .INCOMPLETE => (node, unspecifiedAddress)
    | .STALE =>
      (initiateNeighbourUnreachabilityDetection node nextHop interfaceId nce, nce.macAddress)
    | .REACHABLE =>
      if now > nce.reachabilityExpires then
        (initiateNeighbourUnreachabilityDetection node nextHop interfaceId nce, nce.macAddress)
      else (node, nce.macAddress)
    | .DELAY => (node, nce.macAddress)
    | .PROBE => (node, nce.macAddress)

/-- Next hop and interface, from the destination cache or from a route. -/
def chooseNextHop (node : Node) (destAddress : IPv6Address) : Option (Node × IPv6Address × Int) :=
  let cached := lookupDestCache node destAddress
  if cached.2 ≠ -1 then some (node, cached.1, cached.2)
  else
    match node.doLongestPrefixMatch destAddress with
    | none => none
    | some route =>
      let nextHop := if route.nextHop.isUnspecified then destAddress else route.nextHop
      some (updateDestCache node destAddress nextHop route.interfaceId, nextHop, route.interfaceId)

def sendDatagramToOutput (datagram : IPv6Datagram) (ie : InterfaceEntry)
    (macAddr : MACAddress) : Place :=
  if datagram.hopLimit.toInt ≤ 0 then .dropped .timeExceeded
  else .queueOut ie.networkLayerGateIndex macAddr

/-- The end of `routePacket`, from the link-layer address on. -/
def sendToNeighbour (node : Node) (datagram : IPv6Datagram)
    (ie : InterfaceEntry) (macAddr : MACAddress) : Except Failure (Node × IPv6Datagram × Place) :=
  if macAddr.isUnspecified then .ok (node, datagram, .neighbourDiscovery)
  else if !datagram.srcAddress.isUnspecified then
    .ok (node, datagram, sendDatagramToOutput datagram ie macAddr)
  else if ie.preferredAddress.isUnspecified then .error .assertion
  else
    .ok (node, { datagram with srcAddress := ie.preferredAddress },
      sendDatagramToOutput datagram ie macAddr)

/-- The part of `routePacket` behind the rules for forwarding. -/
def routeToNextHop (node : Node) (now : Int) (datagram : IPv6Datagram) :
    Except Failure (Node × IPv6Datagram × Place) :=
  match chooseNextHop node datagram.destAddress with
  | none =>
    if node.isRouter then .ok (node, datagram, .dropped .unroutable)
    else .ok (node, datagram, .neighbourDiscovery)
  | some (node, nextHop, interfaceId) =>
    match node.getInterfaceById interfaceId with
    | none => .error .assertion
    | some ie =>
      if nextHop.isUnspecified then .error .assertion
      else
        let resolved := resolveNeighbour node now nextHop interfaceId
        sendToNeighbour resolved.1 datagram ie resolved.2

/-- The flag `ndIn` is for datagrams that arrived on that gate. -/
def routePacket (node : Node) (now : Int) (datagram : IPv6Datagram)
    (fromHL ndIn : Bool) : Except Failure (Node × IPv6Datagram × Place) :=
  let destAddress := datagram.destAddress
  if node.isLocalAddress destAddress then
    let delivered :=
      if datagram.srcAddress.isUnspecified then { datagram with srcAddress := destAddress }
      else datagram
    .ok (node, delivered, .localDelivery)
  else if fromHL then routeToNextHop node now datagram
  else if !node.isRouter && !ndIn then .ok (node, datagram, .dropped .forwardingOff)
  else if isLinkLocal destAddress || isLoopback destAddress then
    .ok (node, datagram, .dropped .notForwarded)
  else routeToNextHop node now { datagram with hopLimit := datagram.hopLimit - 1 }

def handleDatagramFromNetwork (node : Node) (now : Int) (datagram : IPv6Datagram) (ndIn : Bool) :
    Except Failure (Node × IPv6Datagram × Place) :=
  if datagram.hasBitError then .ok (node, datagram, .dropped .bitError)
  else if !isMulticast datagram.destAddress then routePacket node now datagram false ndIn
  else .error .multicast

def fragmentAndRoute (node : Node) (now : Int) (datagram : IPv6Datagram)
    (destIE : Option InterfaceEntry) : Except Failure (Node × IPv6Datagram × Place) :=
  match destIE with
  | some ie => .ok (node, datagram, sendDatagramToOutput datagram ie broadcastAddress)
  | none =>
    if !isMulticast datagram.destAddress then routePacket node now datagram true false
    else .error .multicast

def encapsulate (node : Node) (controlInfo : IPv6ControlInfo) :
    Except Failure (IPv6Datagram × Option InterfaceEntry) :=
  if !controlInfo.srcAddr.isUnspecified && !node.hasInterfaceWithAddress controlInfo.srcAddr then
    .error .wrongSourceAddress
  else
    .ok ({
        srcAddress := controlInfo.srcAddr
        destAddress := controlInfo.destAddr
        hopLimit := if controlInfo.hopLimit.toInt > 0 then controlInfo.hopLimit else 32 },
      node.getInterfaceById controlInfo.interfaceId)

/-! ## Neighbour Discovery -/

/-- The result is stored in the destination cache in any case. -/
def determineNextHop (node : Node) (destAddr : IPv6Address) : Node × IPv6Address × Int :=
  let chosen :=
    match node.doLongestPrefixMatch destAddr with
    | some route =>
      if route.nextHop.isUnspecified then (destAddr, route.interfaceId)
      else (route.nextHop, route.interfaceId)
    | none => node.selectDefaultRouter
  (updateDestCache node destAddr chosen.1 chosen.2, chosen)

def processIPv6Datagram (node : Node) (datagram : IPv6Datagram) : Except Failure (Node × Place) :=
  let determined := determineNextHop node datagram.destAddress
  let node := determined.1
  let nextHopAddr := determined.2.1
  let nextHopIfID := determined.2.2
  if nextHopIfID = -1 then .ok (node, .dropped .noRouteToDest)
  else
    match node.neighbourCache nextHopAddr nextHopIfID with
    | none =>
      .ok (updateNeighbour node nextHopAddr nextHopIfID
        { macAddress := unspecifiedAddress
          reachabilityState := .INCOMPLETE
          reachabilityExpires := 0 }, .pendingPackets)
    | some nce =>
      if nce.reachabilityState = .INCOMPLETE then .ok (node, .pendingPackets)
      else if nce.macAddress.isUnspecified then .ok (node, .pendingPackets)
      else
        match nce.reachabilityState with
        | .STALE =>
          .ok (initiateNeighbourUnreachabilityDetection node nextHopAddr nextHopIfID nce, .ndIn)
        | .REACHABLE => .ok (node, .ndIn)
        | .DELAY => .ok (node, .ndIn)
        | _ => .error .unknownNeighbourState

/-! ## The way of a datagram -/

inductive Origin where
  | upperLayer
  | network
deriving DecidableEq

/-- The hop limit that the datagram started with is kept. -/
structure State where
  node : Node
  datagram : IPv6Datagram
  place : Place
  origin : Origin
  initial : BitVec 16

inductive Event where
  /-- The IPv6 module serves the datagram. -/
  | endService (now : Int)
  | processIPv6Datagram
  | sendQueuedPacketsToIPv6Module
  | dropQueuedPacketsAwaitingAR
  | reconfigure (node : Node)

/-- The result of the IPv6 module. -/
def State.routed (state : State)
    (result : Except Failure (Node × IPv6Datagram × Place)) : Except Failure State :=
  match result with
  | .error failure => .error failure
  | .ok (node, datagram, place) =>
    .ok { state with node, datagram, place }

def serve (state : State) : Event → Except Failure State
  | .endService now =>
    match state.place with
    | .fromHL destIE => state.routed (fragmentAndRoute state.node now state.datagram destIE)
    | .queueIn => state.routed (handleDatagramFromNetwork state.node now state.datagram false)
    | .ndIn => state.routed (handleDatagramFromNetwork state.node now state.datagram true)
    | _ => .error .notThere
  | .processIPv6Datagram =>
    match state.place with
    | .neighbourDiscovery =>
      match processIPv6Datagram state.node state.datagram with
      | .error failure => .error failure
      | .ok (node, place) => .ok { state with node, place }
    | _ => .error .notThere
  | .sendQueuedPacketsToIPv6Module =>
    match state.place with
    | .pendingPackets => .ok { state with place := .ndIn }
    | _ => .error .notThere
  | .dropQueuedPacketsAwaitingAR =>
    match state.place with
    | .pendingPackets => .ok { state with place := .dropped .addressUnreachable }
    | _ => .error .notThere
  | .reconfigure node => .ok { state with node }

def Step (state : State) (event : Event) (next : State) : Prop :=
  serve state event = .ok next

/-- A unicast datagram of an upper layer, or one from the network. -/
inductive Start : State → Prop where
  | upperLayer {node : Node} {controlInfo : IPv6ControlInfo}
      {datagram : IPv6Datagram} {destIE : Option InterfaceEntry}
      (unicast : isMulticast controlInfo.destAddr = false)
      (encapsulated : encapsulate node controlInfo = .ok (datagram, destIE)) :
      Start
        { node
          datagram
          place := .fromHL destIE
          origin := .upperLayer
          initial := datagram.hopLimit }
  | network (node : Node) {datagram : IPv6Datagram}
      (unicast : isMulticast datagram.destAddress = false) :
      Start
        { node
          datagram
          place := .queueIn
          origin := .network
          initial := datagram.hopLimit }

/-- The node has taken the datagram up for sending it on. -/
def TakenUp : Place → Prop
  | .fromHL _ => False
  | .queueIn => False
  | .localDelivery => False
  | .dropped .bitError => False
  | .dropped .forwardingOff => False
  | .dropped .notForwarded => False
  | _ => True

/--
A datagram of the node keeps its hop limit and is not dropped by the rules
for forwarding; one from the network loses one hop.
-/
structure Counted (state : State) : Prop where
  originated : state.origin = .upperLayer →
    state.datagram.hopLimit = state.initial ∧ state.place ≠ .dropped .forwardingOff ∧
      state.place ≠ .dropped .notForwarded
  forwarded : state.origin = .network → TakenUp state.place →
    state.datagram.hopLimit = state.initial - 1

/-- A datagram that comes back from Neighbour Discovery is for the node. -/
def ReturnedIsLocal (state : State) : Event → Prop
  | .endService _ =>
    match state.place with
    | .ndIn => state.node.isLocalAddress state.datagram.destAddress = true
    | _ => True
  | _ => True

/-! ## What routing leaves alone -/

/-- The result of routing a datagram that is taken up. -/
structure Routed (before after : IPv6Datagram) (place : Place) : Prop where
  hopLimit : after.hopLimit = before.hopLimit
  destAddress : after.destAddress = before.destAddress
  hasBitError : after.hasBitError = before.hasBitError
  takenUp : TakenUp place
  elsewhere : place ≠ .ndIn ∧ place ≠ .pendingPackets

theorem sendDatagramToOutput_spec (datagram : IPv6Datagram)
    (ie : InterfaceEntry) (macAddr : MACAddress) :
    TakenUp (sendDatagramToOutput datagram ie macAddr) ∧
      sendDatagramToOutput datagram ie macAddr ≠ .ndIn ∧
      sendDatagramToOutput datagram ie macAddr ≠ .pendingPackets := by
  unfold sendDatagramToOutput
  split
  all_goals exact ⟨trivial, nofun, nofun⟩

variable {place : Place}

theorem sendToNeighbour_spec
    (sent : sendToNeighbour node datagram ie macAddr = .ok (next, after, place)) :
    Routed datagram after place := by
  have output := sendDatagramToOutput_spec datagram ie macAddr
  unfold sendToNeighbour at sent
  split at sent
  · cases sent
    exact ⟨rfl, rfl, rfl, trivial, nofun, nofun⟩
  · split at sent
    · cases sent
      exact ⟨rfl, rfl, rfl, output.1, output.2⟩
    · split at sent
      · cases sent
      · cases sent
        exact ⟨rfl, rfl, rfl, output.1, output.2⟩

theorem routeToNextHop_spec (routed : routeToNextHop node now datagram = .ok (next, after, place)) :
    Routed datagram after place := by
  unfold routeToNextHop at routed
  split at routed
  · split at routed
    · cases routed
      exact ⟨rfl, rfl, rfl, trivial, nofun, nofun⟩
    · cases routed
      exact ⟨rfl, rfl, rfl, trivial, nofun, nofun⟩
  · split at routed
    · cases routed
    · split at routed
      · cases routed
      · exact sendToNeighbour_spec routed

/-- The ways through `routePacket`. -/
inductive Way (node : Node) (datagram : IPv6Datagram) (fromHL ndIn : Bool)
    (after : IPv6Datagram) (place : Place) : Prop where
  | delivered (here : node.isLocalAddress datagram.destAddress = true)
      (hopLimit : after.hopLimit = datagram.hopLimit) (there : place = .localDelivery)
  | originated (away : node.isLocalAddress datagram.destAddress = false)
      (upper : fromHL = true) (routed : Routed datagram after place)
  | off (away : node.isLocalAddress datagram.destAddress = false)
      (lower : fromHL = false) (gate : ndIn = false) (same : after = datagram)
      (there : place = .dropped .forwardingOff)
  | narrow (away : node.isLocalAddress datagram.destAddress = false) (lower : fromHL = false)
      (scope : (isLinkLocal datagram.destAddress || isLoopback datagram.destAddress) = true)
      (same : after = datagram) (there : place = .dropped .notForwarded)
  | forwarded (away : node.isLocalAddress datagram.destAddress = false) (lower : fromHL = false)
      (scope : (isLinkLocal datagram.destAddress || isLoopback datagram.destAddress) = false)
      (routed : Routed { datagram with hopLimit := datagram.hopLimit - 1 } after place)

theorem routePacket_way
    (routed : routePacket node now datagram fromHL ndIn = .ok (next, after, place)) :
    Way node datagram fromHL ndIn after place := by
  dsimp only [routePacket] at routed
  split at routed
  case isTrue here =>
    cases routed
    refine .delivered here ?_ rfl
    split
    all_goals rfl
  case isFalse away =>
    have remote := Bool.eq_false_iff.mpr away
    split at routed
    case isTrue upper => exact .originated remote upper (routeToNextHop_spec routed)
    case isFalse lower =>
      have below := Bool.eq_false_iff.mpr lower
      split at routed
      case isTrue off =>
        cases routed
        rw [Bool.and_eq_true, Bool.not_eq_true', Bool.not_eq_true'] at off
        exact .off remote below off.2 rfl rfl
      case isFalse =>
        split at routed
        case isTrue narrow =>
          cases routed
          exact .narrow remote below narrow rfl rfl
        case isFalse wide =>
          exact .forwarded remote below (Bool.eq_false_iff.mpr wide)
            (routeToNextHop_spec routed)

/-! ## Steps -/

/-- What the place of a datagram tells about it, after every step. -/
structure Placed (state : State) : Prop where
  fromHL : ∀ destIE, state.place = .fromHL destIE →
    state.origin = .upperLayer ∧ state.datagram.hasBitError = false
  queueIn : state.place = .queueIn →
    state.origin = .network ∧ state.datagram.hopLimit = state.initial
  clean : TakenUp state.place → state.datagram.hasBitError = false
  wide : TakenUp state.place → state.origin = .network →
    (isLinkLocal state.datagram.destAddress || isLoopback state.datagram.destAddress) = false

theorem TakenUp.not_ruled_out (taken : TakenUp place) :
    place ≠ .dropped .forwardingOff ∧ place ≠ .dropped .notForwarded := by
  constructor
  all_goals
    rintro rfl
    exact taken

variable {state : State}

theorem Placed.move (placed : Placed state)
    (here : TakenUp state.place) (node : Node) (there : TakenUp place) :
    Placed { state with node, place } where
  fromHL := by
    intro _ same
    dsimp only at same
    rw [same] at there
    exact there.elim
  queueIn := by
    intro same
    dsimp only at same
    rw [same] at there
    exact there.elim
  clean := fun _ => placed.clean here
  wide := fun _ => placed.wide here

theorem Counted.move (counted : Counted state)
    (here : TakenUp state.place) (node : Node) (there : TakenUp place) :
    Counted { state with node, place } where
  originated := fun upper => ⟨(counted.originated upper).1, there.not_ruled_out⟩
  forwarded := fun network _ => counted.forwarded network here

theorem Placed.routed (clean : after.hasBitError = false)
    (wide : state.origin = .network →
      (isLinkLocal after.destAddress || isLoopback after.destAddress) = false)
    (taken : TakenUp place) :
    Placed { state with node, datagram := after, place } where
  fromHL := by
    intro _ same
    dsimp only at same
    rw [same] at taken
    exact taken.elim
  queueIn := by
    intro same
    dsimp only at same
    rw [same] at taken
    exact taken.elim
  clean := fun _ => clean
  wide := fun _ => wide

theorem Placed.left {node : Node} {after : IPv6Datagram}
    (notTaken : ¬TakenUp place) (notFirst : ∀ destIE, place ≠ .fromHL destIE)
    (notQueued : place ≠ .queueIn) : Placed { state with node, datagram := after, place } where
  fromHL := fun destIE same => absurd same (notFirst destIE)
  queueIn := fun same => absurd same notQueued
  clean := fun taken => absurd taken notTaken
  wide := fun taken => absurd taken notTaken

theorem sub_one_ne (hopLimit : BitVec 16) : hopLimit - 1 ≠ hopLimit := by
  bv_omega

theorem processIPv6Datagram_spec
    (processed : processIPv6Datagram node datagram = .ok (next, place)) : TakenUp place := by
  dsimp only [processIPv6Datagram] at processed
  split at processed
  · cases processed
    trivial
  · split at processed
    · cases processed
      trivial
    · split at processed
      · cases processed
        trivial
      · split at processed
        · cases processed
          trivial
        · split at processed
          · cases processed
            trivial
          · cases processed
            trivial
          · cases processed
            trivial
          · cases processed

section

theorem originated_pass
    (upper : state.origin = .upperLayer) (clean : state.datagram.hasBitError = false)
    (way : Way state.node state.datagram true false after place) :
    let next := { state with node, datagram := after, place }
    Placed next ∧ (Counted state → Counted next) := by
  have notNetwork : state.origin ≠ .network := by
    rw [upper]
    nofun
  cases way with
  | delivered _ hopLimit there =>
    subst there
    refine ⟨.left id nofun nofun, fun counted => ⟨?_, ?_⟩⟩
    · intro _
      exact ⟨hopLimit.trans (counted.originated upper).1, nofun, nofun⟩
    · exact fun network => absurd network notNetwork
  | originated _ _ routed =>
    refine ⟨.routed ?_ ?_ routed.takenUp, fun counted => ⟨?_, ?_⟩⟩
    · rw [routed.hasBitError, clean]
    · exact fun network => absurd network notNetwork
    · intro _
      exact ⟨routed.hopLimit.trans (counted.originated upper).1, routed.takenUp.not_ruled_out⟩
    · exact fun network => absurd network notNetwork
  | off _ lower => cases lower
  | narrow _ lower => cases lower
  | forwarded _ lower => cases lower

theorem network_pass
    (network : state.origin = .network) (full : state.datagram.hopLimit = state.initial)
    (clean : state.datagram.hasBitError = false)
    (way : Way state.node state.datagram false false after place) :
    let next := { state with node, datagram := after, place }
    Placed next ∧ Counted next := by
  have notUpper : state.origin ≠ .upperLayer := by
    rw [network]
    nofun
  cases way with
  | delivered _ _ there =>
    subst there
    refine ⟨.left id nofun nofun, ?_, ?_⟩
    · exact fun upper => absurd upper notUpper
    · exact fun _ taken => taken.elim
  | originated _ upper => cases upper
  | off _ _ _ _ there =>
    subst there
    refine ⟨.left id nofun nofun, ?_, ?_⟩
    · exact fun upper => absurd upper notUpper
    · exact fun _ taken => taken.elim
  | narrow _ _ _ _ there =>
    subst there
    refine ⟨.left id nofun nofun, ?_, ?_⟩
    · exact fun upper => absurd upper notUpper
    · exact fun _ taken => taken.elim
  | forwarded _ _ scope routed =>
    refine ⟨.routed ?_ ?_ routed.takenUp, ?_, ?_⟩
    · rw [routed.hasBitError, clean]
    · intro _
      rwa [routed.destAddress]
    · exact fun upper => absurd upper notUpper
    · intro _ _
      rw [routed.hopLimit, full]

/-- A later pass keeps the count exactly when the datagram is for the node. -/
theorem returned_pass (returned : state.place = .ndIn) (placed : Placed state)
    (way : Way state.node state.datagram false true after place) :
    let next := { state with node, datagram := after, place }
    Placed next ∧ (Counted state → (Counted next ↔
      state.node.isLocalAddress state.datagram.destAddress = true)) := by
  have taken : TakenUp state.place := by
    rw [returned]
    trivial
  cases way with
  | delivered here hopLimit there =>
    subst there
    refine ⟨.left id nofun nofun, fun counted => ⟨fun _ => here, fun _ => ⟨?_, ?_⟩⟩⟩
    · intro upper
      exact ⟨hopLimit.trans (counted.originated upper).1, nofun, nofun⟩
    · exact fun _ taken => taken.elim
  | originated _ upper => cases upper
  | off _ _ gate => cases gate
  | narrow away _ scope _ there =>
    subst there
    refine ⟨.left id nofun nofun, fun _ => ⟨?_, ?_⟩⟩
    · intro next
      cases origin : state.origin with
      | upperLayer => exact absurd rfl (next.originated origin).2.2
      | network =>
        rw [placed.wide taken origin] at scope
        cases scope
    · intro here
      rw [away] at here
      cases here
  | forwarded away _ scope routed =>
    refine ⟨.routed ?_ ?_ routed.takenUp, fun counted => ⟨?_, ?_⟩⟩
    · rw [routed.hasBitError]
      exact placed.clean taken
    · intro _
      rwa [routed.destAddress]
    · intro next
      cases origin : state.origin with
      | upperLayer =>
        have now := (next.originated origin).1
        have before := (counted.originated origin).1
        rw [routed.hopLimit, ← before] at now
        exact absurd now (sub_one_ne _)
      | network =>
        have now := next.forwarded origin routed.takenUp
        have before := counted.forwarded origin taken
        rw [routed.hopLimit, before] at now
        exact absurd now (sub_one_ne _)
    · intro here
      rw [away] at here
      cases here

end

theorem handleDatagramFromNetwork_cases
    (handled : handleDatagramFromNetwork node now datagram ndIn = .ok (next, after, place)) :
    (datagram.hasBitError = true ∧ after = datagram ∧ place = .dropped .bitError) ∨
      (datagram.hasBitError = false ∧ Way node datagram false ndIn after place) := by
  unfold handleDatagramFromNetwork at handled
  split at handled
  case isTrue damaged =>
    cases handled
    exact .inl ⟨damaged, rfl, rfl⟩
  case isFalse sound =>
    split at handled
    · exact .inr ⟨Bool.eq_false_iff.mpr sound, routePacket_way handled⟩
    · cases handled

section

theorem routed_eq_ok
    (routed : state.routed result = .ok next) :
    ∃ node after place, result = .ok (node, after, place) ∧
      next = { state with node, datagram := after, place } := by
  cases result with
  | error _ => cases routed
  | ok parts =>
    cases routed
    exact ⟨parts.1, parts.2.1, parts.2.2, rfl, rfl⟩

theorem fromHL_step (here : state.place = .fromHL destIE) (placed : Placed state)
    (routed : state.routed (fragmentAndRoute state.node now state.datagram destIE) = .ok next) :
    Placed next ∧ (Counted state → Counted next) := by
  rcases placed.fromHL _ here with ⟨upper, clean⟩
  rcases routed_eq_ok routed with ⟨_, _, _, result, rfl⟩
  have notNetwork : state.origin ≠ .network := by
    rw [upper]
    nofun
  unfold fragmentAndRoute at result
  split at result
  case h_1 ie =>
    cases result
    have output := (sendDatagramToOutput_spec state.datagram ie broadcastAddress).1
    refine ⟨.routed clean ?_ output, fun counted => ⟨?_, ?_⟩⟩
    · exact fun network => absurd network notNetwork
    · intro _
      exact ⟨(counted.originated upper).1, output.not_ruled_out⟩
    · exact fun network => absurd network notNetwork
  case h_2 =>
    split at result
    · exact originated_pass upper clean (routePacket_way result)
    · cases result

theorem queueIn_step (here : state.place = .queueIn) (placed : Placed state)
    (routed : state.routed
      (handleDatagramFromNetwork state.node now state.datagram false) = .ok next) :
    Placed next ∧ Counted next := by
  rcases placed.queueIn here with ⟨network, full⟩
  rcases routed_eq_ok routed with ⟨_, _, _, result, rfl⟩
  rcases handleDatagramFromNetwork_cases result with ⟨_, rfl, rfl⟩ | ⟨clean, way⟩
  · have notUpper : state.origin ≠ .upperLayer := by
      rw [network]
      nofun
    refine ⟨.left id nofun nofun, ?_, ?_⟩
    · exact fun upper => absurd upper notUpper
    · exact fun _ taken => taken.elim
  · exact network_pass network full clean way

theorem ndIn_step (here : state.place = .ndIn) (placed : Placed state)
    (routed : state.routed
      (handleDatagramFromNetwork state.node now state.datagram true) = .ok next) :
    Placed next ∧ (Counted state → (Counted next ↔
      state.node.isLocalAddress state.datagram.destAddress = true)) := by
  rcases routed_eq_ok routed with ⟨_, _, _, result, rfl⟩
  have clean : state.datagram.hasBitError = false := by
    apply placed.clean
    rw [here]
    trivial
  rcases handleDatagramFromNetwork_cases result with ⟨damaged, _⟩ | ⟨_, way⟩
  · rw [clean] at damaged
    cases damaged
  · exact returned_pass here placed way

end

/-- A step from Neighbour Discovery or its queue, or a change of tables. -/
theorem move_step (placed : Placed state) (node : Node)
    (here : TakenUp state.place) (there : TakenUp place) :
    Placed { state with node, place } ∧ (Counted state → Counted { state with node, place }) :=
  ⟨placed.move here _ there, fun counted => counted.move here _ there⟩

/-- The count goes on exactly when a returned datagram is for the node. -/
theorem step_iff {next : State} (placed : Placed state)
    (taken : Step state event next) :
    Placed next ∧ (Counted state → (Counted next ↔ ReturnedIsLocal state event)) := by
  have free : ReturnedIsLocal state event →
      Placed next ∧ (Counted state → Counted next) →
        Placed next ∧ (Counted state → (Counted next ↔ ReturnedIsLocal state event)) :=
    fun guard both => ⟨both.1, fun counted => ⟨fun _ => guard, fun _ => both.2 counted⟩⟩
  unfold Step serve at taken
  cases event with
  | endService _ =>
    dsimp only at taken
    unfold ReturnedIsLocal at free ⊢
    split at taken
    case h_1 destIE here =>
      rw [here] at free ⊢
      exact free trivial (fromHL_step here placed taken)
    case h_2 here =>
      rw [here] at free ⊢
      have step := queueIn_step here placed taken
      exact free trivial ⟨step.1, fun _ => step.2⟩
    case h_3 here =>
      rw [here]
      exact ndIn_step here placed taken
    case h_4 => cases taken
  | processIPv6Datagram =>
    apply free trivial
    dsimp only at taken
    split at taken
    case h_1 here =>
      split at taken
      case h_1 => cases taken
      case h_2 node place processed =>
        cases taken
        apply move_step placed _ ?_ (processIPv6Datagram_spec processed)
        rw [here]
        trivial
    case h_2 => cases taken
  | sendQueuedPacketsToIPv6Module =>
    apply free trivial
    dsimp only at taken
    split at taken
    case h_1 here =>
      cases taken
      apply move_step placed state.node
      · rw [here]
        trivial
      · trivial
    case h_2 => cases taken
  | dropQueuedPacketsAwaitingAR =>
    apply free trivial
    dsimp only at taken
    split at taken
    case h_1 here =>
      cases taken
      apply move_step placed state.node
      · rw [here]
        trivial
      · trivial
    case h_2 => cases taken
  | reconfigure _ =>
    apply free trivial
    cases taken
    exact ⟨⟨placed.fromHL, placed.queueIn, placed.clean, placed.wide⟩,
      fun counted => ⟨counted.originated, counted.forwarded⟩⟩

theorem step_deterministic : Deterministic Step := by
  intro _ _ _ _ one other
  unfold Step at one other
  rw [one] at other
  cases other
  rfl

theorem start_placed (start : Start state) : Placed state := by
  cases start with
  | upperLayer _ encapsulated =>
    refine ⟨fun _ _ => ⟨rfl, ?_⟩, nofun, fun taken => taken.elim, fun taken => taken.elim⟩
    unfold encapsulate at encapsulated
    split at encapsulated
    · cases encapsulated
    · cases encapsulated
      rfl
  | network _ _ =>
    exact ⟨nofun, fun _ => ⟨rfl, rfl⟩, fun taken => taken.elim, fun taken => taken.elim⟩

theorem start_counted (start : Start state) : Counted state := by
  cases start with
  | upperLayer _ _ => exact ⟨fun _ => ⟨rfl, nofun, nofun⟩, nofun⟩
  | network _ _ => exact ⟨nofun, fun _ taken => taken.elim⟩

theorem run_placed
    (start : Start first) (run : Run Step first events last) : Placed last := by
  apply run.invariant ?_ (start_placed start)
  intro _ _ _ placed taken
  exact (step_iff placed taken).1

/-! ## The whole way -/

/--
Along the whole way of a unicast datagram through a node, its hop limit is
counted right and no rule for forwarding drops a datagram of the node,
exactly when every datagram that comes back from Neighbour Discovery turns
out to be for the node itself.
-/
theorem hop_limit_along_way {first last : State} {events : List Event}
    (start : Start first) (run : Run Step first events last) :
    (∀ before after middle,
        events = before ++ after → Run Step first before middle → Counted middle) ↔
      ∀ before event after middle,
        events = before ++ event :: after →
          Run Step first before middle → ReturnedIsLocal middle event := by
  rw [← run.invariant_iff_guard step_deterministic _
    (fun state => Placed state ∧ Counted state) ?_ ⟨start_placed start, start_counted start⟩]
  · constructor
    · intro counted _ _ _ parts taken
      exact ⟨run_placed start taken, counted _ _ _ parts taken⟩
    · intro good _ _ _ parts taken
      exact (good _ _ _ parts taken).2
  · rintro _ _ _ ⟨placed, counted⟩ taken
    have step := step_iff placed taken
    constructor
    · exact fun good => (step.2 counted).mp good.2
    · exact fun guard => ⟨step.1, (step.2 counted).mpr guard⟩

theorem sixtyFour_lt : 64 < 129 := by decide

/-- A host with a route to its link, and with the neighbours given. -/
def exampleNode (neighbours : IPv6Address → Int → Option Neighbour) : Node where
  isRouter := false
  isLocalAddress := fun address => address = { d0 := 0x20010000, d3 := 1 }
  getInterfaceById := fun id => if id = 101 then some ⟨0, { d0 := 0x20010000, d3 := 1 }⟩ else none
  hasInterfaceWithAddress := fun address => address = { d0 := 0x20010000, d3 := 1 }
  destCache := fun _ => none
  doLongestPrefixMatch := fun _ =>
    some
      { pointer := 0
        destPrefix := { d0 := 0x20010000 }
        prefixLength := ⟨64, sixtyFour_lt⟩
        src := .STATIC
        interfaceId := 101 }
  neighbourCache := neighbours
  selectDefaultRouter := ({}, -1)

/-- What an upper layer asks for, with the hop limit left open. -/
def exampleControl : IPv6ControlInfo where
  srcAddr := { d0 := 0x20010000, d3 := 1 }
  destAddr := { d0 := 0x20010000, d3 := 2 }
  hopLimit := 0
  interfaceId := -1

def exampleDatagram : IPv6Datagram where
  srcAddress := { d0 := 0x20010000, d3 := 1 }
  destAddress := { d0 := 0x20010000, d3 := 2 }
  hopLimit := 32

def exampleFirst : State where
  node := exampleNode fun _ _ => none
  datagram := exampleDatagram
  place := .fromHL none
  origin := .upperLayer
  initial := 32

theorem exampleFirst_start : Start exampleFirst :=
  @Start.upperLayer (exampleNode fun _ _ => none) exampleControl _ _ (by decide) rfl

/-- The neighbour answers, and the datagram comes back. -/
def exampleEvents : List Event :=
  [.endService 0, .processIPv6Datagram,
    .reconfigure (exampleNode fun _ _ => some ⟨⟨7⟩, .REACHABLE, 30⟩),
    .sendQueuedPacketsToIPv6Module, .endService 1]

/-- The datagram of the host loses a hop before it leaves. -/
theorem counted_twice :
    ¬∀ first events last, Start first → Run Step first events last → Counted last := by
  intro claim
  have sent : Library.Fallible.succeedsWith (exampleEvents.foldlM serve exampleFirst)
      (fun state => state.datagram.hopLimit == 31 &&
        state.origin == .upperLayer && state.initial == 32) = true := by
    decide
  rcases Library.Fallible.succeedsWith_iff.mp sent with ⟨_, served, facts⟩
  simp only [Bool.and_eq_true, beq_iff_eq] at facts
  have counted := claim _ _ _ exampleFirst_start (.of_foldlM served)
  have kept := (counted.originated facts.1.2).1
  rw [facts.1.1, facts.2] at kept
  cases kept

/-- A neighbour that is known already: nothing comes back. -/
theorem hop_limit_along_way_small :
    ∃ last, Run Step exampleFirst
        [.reconfigure (exampleNode fun _ _ => some ⟨⟨7⟩, .REACHABLE, 30⟩), .endService 0] last ∧
      ((∀ before after middle,
          [Event.reconfigure (exampleNode fun _ _ => some ⟨⟨7⟩, .REACHABLE, 30⟩),
            .endService 0] = before ++ after →
            Run Step exampleFirst before middle → Counted middle) ↔
        ∀ before event after middle,
          [Event.reconfigure (exampleNode fun _ _ => some ⟨⟨7⟩, .REACHABLE, 30⟩),
            .endService 0] = before ++ event :: after →
            Run Step exampleFirst before middle → ReturnedIsLocal middle event) := by
  refine ⟨_, .next rfl (.next rfl (.idle _)), ?_⟩
  exact hop_limit_along_way exampleFirst_start (.next rfl (.next rfl (.idle _)))

end OmnetDsi.Ipv6.HopLimits
