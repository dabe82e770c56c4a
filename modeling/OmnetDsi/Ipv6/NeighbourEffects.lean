import OmnetDsi.Ipv6.NeighbourDiscovery

/-!
# What the handlers do to entries and timers

`Effect` lists what an event can do to the memory of the module, each case
with the entry that it concerns and the condition under which it comes about.
`step_effect` says that there is nothing else, and every later result about
the memory goes by these cases.
-/

namespace OmnetDsi.Ipv6.NeighbourEffects

open NeighbourEffects
open OmnetDsi.Arp.Resolution (MACAddress unspecifiedAddress)
open Contract.IPv6Addresses Ipv6.NeighbourDiscovery Library Library.Fallible
open OmnetDsi.Library.RecordPools (Distinct)

/-! ## Which entry an event concerns -/

/-- The solicitation has a source and a target that is this node. -/
def Solicits (nd : IPv6NeighbourDiscovery) (ns : IPv6NeighbourSolicitation)
    (nsCtrlInfo : ControlInfo) : Prop :=
  let assigned := nd.assigned nsCtrlInfo.interfaceId
  validateNSPacket ns nsCtrlInfo = true ∧ assigned.hasAddress ns.targetAddress = true ∧
    assigned.isTentativeAddress ns.targetAddress = false ∧ nsCtrlInfo.srcAddr.isUnspecified = false

/-- The advertisement is about this entry. -/
def Advertises (nd : IPv6NeighbourDiscovery) (na : IPv6NeighbourAdvertisement)
    (naCtrlInfo : ControlInfo) (nce : Neighbour) : Prop :=
  validateNAPacket na naCtrlInfo = true ∧
    (nd.assigned naCtrlInfo.interfaceId).isTentativeAddress na.targetAddress = false ∧
    lookup nd.memory na.targetAddress naCtrlInfo.interfaceId = some nce

/-- The event makes the entry stale, whatever its state. -/
def Stales (nd : IPv6NeighbourDiscovery) (nce : Neighbour) : Event → Prop
  | .solicitation ns nsCtrlInfo =>
    Solicits nd ns nsCtrlInfo ∧
      lookup nd.memory nsCtrlInfo.srcAddr nsCtrlInfo.interfaceId = some nce ∧
      nce.macAddress ≠ ns.sourceLinkLayerAddress ∧ ns.sourceLinkLayerAddress.isUnspecified = false
  | .advertisement na naCtrlInfo =>
    Advertises nd na naCtrlInfo nce ∧ nce.reachabilityState ≠ .INCOMPLETE ∧
      na.solicitedFlag = false ∧ na.targetLinkLayerAddress.isUnspecified = true ∧
      nce.macAddress.isUnspecified = false
  | _ => False

/-- The advertisement does not contradict the address of the entry. -/
def Agrees (na : IPv6NeighbourAdvertisement) (nce : Neighbour) : Prop :=
  na.overrideFlag = true ∨ na.targetLinkLayerAddress = nce.macAddress ∨
    na.targetLinkLayerAddress.isUnspecified = true

/-- The event confirms that the neighbour can be reached. -/
def Confirms (nd : IPv6NeighbourDiscovery) (nce : Neighbour) : Event → Prop
  | .reachabilityConfirmed neighbour interfaceId =>
    lookup nd.memory neighbour interfaceId = some nce
  | .advertisement na naCtrlInfo =>
    Advertises nd na naCtrlInfo nce ∧ nce.reachabilityState ≠ .INCOMPLETE ∧
      na.solicitedFlag = true ∧ Agrees na nce
  | _ => False

/-- The neighbour says that it is no default router. -/
def Dismisses (node : Node) (nd : IPv6NeighbourDiscovery) (nce : Neighbour) : Event → Prop
  | .routerAdvertisement ra raCtrlInfo =>
    takesAdvertisement node raCtrlInfo = true ∧ ra.routerLifetime = 0 ∧
      lookup nd.memory raCtrlInfo.srcAddr raCtrlInfo.interfaceId = some nce
  | _ => False

/-- The entry is the one for the next hop of the datagram. -/
def Reaches (nd : IPv6NeighbourDiscovery) (nce : Neighbour) : Event → Prop
  | .datagram _ destAddress =>
    ∃ last nextHopAddr nextHopIfID,
      determineNextHop nd destAddress = .ok (last, nextHopAddr, nextHopIfID) ∧
        nextHopIfID ≠ -1 ∧ lookup nd.memory nextHopAddr nextHopIfID = some nce
  | _ => False

/-- The entry at which the scan for a default router ends. -/
def scanEnd (now : Int) (entries : List Neighbour) : Option Neighbour :=
  entries.find? fun nce => routerExpired now nce || isReachable nce

/-- A router is looked for, and the scan ends at the entry. -/
def Scans (nd : IPv6NeighbourDiscovery) (nce : Neighbour) : Event → Prop
  | .datagram _ destAddress =>
    (∃ looked, doLookup nd destAddress = .ok (looked, none)) ∧
      scanEnd nd.simTime nd.memory.neighbourMap = some nce
  | _ => False

/-- The advertisement of a default router makes an entry for it. -/
def Introduces (node : Node) (key : Key) : Event → Prop
  | .routerAdvertisement ra raCtrlInfo =>
    takesAdvertisement node raCtrlInfo = true ∧ ra.routerLifetime ≠ 0 ∧
      key = ⟨raCtrlInfo.srcAddr, raCtrlInfo.interfaceId⟩
  | _ => False

/-! ## Effects -/

/-- An entry that was made, without timers and datagrams. -/
structure Blank (memory : Memory) (nbor : Neighbour) : Prop where
  node : nbor.node = memory.nodes
  absent : ∀ nce ∈ memory.neighbourMap, nce.nceKey ≠ nbor.nceKey
  nudTimeoutEvent : nbor.nudTimeoutEvent = none
  numProbesSent : nbor.numProbesSent = 0
  arTimer : nbor.arTimer = none
  pendingPackets : nbor.pendingPackets = []
  state : nbor.reachabilityState = .INCOMPLETE ∨ nbor.reachabilityState = .STALE

/-- The memory with other values of an entry. -/
def storing (memory : Memory) (nce : Neighbour) : Memory :=
  { memory with neighbourMap := RecordPools.put Neighbour.node nce memory.neighbourMap }

/-- The memory with a timer for unreachability detection. -/
def detecting (memory : Memory) (nce : Neighbour) (time : Int) : Memory :=
  { storing memory { nce with
      reachabilityState := .DELAY
      nudTimeoutEvent := some memory.messages } with
    nudTimers := memory.nudTimers ++ [⟨memory.messages, nce.node, some time⟩]
    messages := memory.messages + 1 }

/-- The entry while its address is looked for, with one more datagram. -/
def awaiting (memory : Memory) (nce : Neighbour) (nsSrcAddr : IPv6Address)
    (msg : IPv6Datagram) : Neighbour :=
  { nce with
    reachabilityState := .INCOMPLETE
    numOfARNSSent := 1
    nsSrcAddr
    arTimer := some memory.messages
    pendingPackets := nce.pendingPackets ++ [msg] }

/-- The memory with a timer for address resolution. -/
def resolving (memory : Memory) (nce : Neighbour)
    (neighbourMap : List Neighbour) (nodes : Nat) (msg : IPv6Datagram) (time : Int) : Memory :=
  { memory with
    neighbourMap
    nodes
    arTimers := memory.arTimers ++ [⟨memory.messages, nce.node, some time⟩]
    messages := memory.messages + 1
    accepted := memory.accepted ++ [msg.number] }

/-- The memory without an entry. -/
def without (memory : Memory) (nce : Neighbour) (nudTimers : List Timer) : Memory :=
  { memory with
    neighbourMap := RecordPools.discard Neighbour.node nce.node memory.neighbourMap
    nudTimers }

inductive Effect (node : Node) (nd : IPv6NeighbourDiscovery) (event : Event) : Memory → Prop where
  | quiet : Effect node nd event nd.memory
  | detected (nce : Neighbour) (time : Int) (listed : nce ∈ nd.memory.neighbourMap)
      (known : nce.reachabilityState = .STALE ∨ nce.reachabilityState = .REACHABLE) :
      Effect node nd event (detecting nd.memory nce time)
  | unresolved (nbor : Neighbour) (nsSrcAddr : IPv6Address)
      (msg : IPv6Datagram) (time : Int) (neighbourMap : List Neighbour)
      (blank : Blank nd.memory nbor) (ordinary : nbor.isDefaultRouter = false)
      (number : msg.number = nd.memory.accepted.length)
      (entered : neighbourMap.Perm
        (awaiting nd.memory nbor nsSrcAddr msg :: nd.memory.neighbourMap)) :
      Effect node nd event (resolving nd.memory nbor neighbourMap (nd.memory.nodes + 1) msg time)
  | queued (nce : Neighbour) (msg : IPv6Datagram) (reached : Reaches nd nce event)
      (incomplete : nce.reachabilityState = .INCOMPLETE)
      (number : msg.number = nd.memory.accepted.length) :
      Effect node nd event
        { storing nd.memory { nce with
            pendingPackets := nce.pendingPackets ++ [msg] } with
          accepted := nd.memory.accepted ++ [msg.number] }
  | readdressed (nce : Neighbour) (nsSrcAddr : IPv6Address)
      (msg : IPv6Datagram) (time : Int) (reached : Reaches nd nce event)
      (complete : nce.reachabilityState ≠ .INCOMPLETE)
      (unaddressed : nce.macAddress.isUnspecified = true)
      (number : msg.number = nd.memory.accepted.length) :
      Effect node nd event
        (resolving nd.memory nce
          (RecordPools.put Neighbour.node
            (awaiting nd.memory nce nsSrcAddr msg) nd.memory.neighbourMap)
          nd.memory.nodes msg time)
  | staled (nce : Neighbour) (macAddress : MACAddress) (isRouter : Bool)
      (listed : nce ∈ nd.memory.neighbourMap)
      (cause : nce.reachabilityState = .REACHABLE ∨ Stales nd nce event) :
      Effect node nd event
        (storing nd.memory { nce with
          macAddress
          isRouter
          reachabilityState := .STALE })
  | touched (nce : Neighbour) (macAddress : MACAddress) (isRouter : Bool)
      (routerExpiryTime : Int) (listed : nce ∈ nd.memory.neighbourMap) :
      Effect node nd event
        (storing nd.memory { nce with
          macAddress
          isRouter
          routerExpiryTime })
  | reconfirmed (nce : Neighbour) (macAddress : MACAddress) (isRouter : Bool)
      (confirms : Confirms nd nce event) (complete : nce.reachabilityState ≠ .INCOMPLETE)
      (untimed : nce.nudTimeoutEvent = none) :
      Effect node nd event
        (storing nd.memory { nce with
          macAddress
          isRouter
          reachabilityState := .REACHABLE })
  | hinted (nce : Neighbour) (pointer : Nat) (confirms : Confirms nd nce event)
      (timed : nce.nudTimeoutEvent = some pointer) :
      Effect node nd event { nd.memory with nudTimers := dropTimer pointer nd.memory.nudTimers }
  | confirmed (nce : Neighbour) (pointer : Nat) (macAddress : MACAddress)
      (isRouter : Bool) (reachabilityExpires : Int) (confirms : Confirms nd nce event)
      (complete : nce.reachabilityState ≠ .INCOMPLETE)
      (timed : nce.nudTimeoutEvent = some pointer) :
      Effect node nd event
        { storing nd.memory { nce with
            macAddress
            isRouter
            reachabilityState := .REACHABLE
            reachabilityExpires } with
          nudTimers := dropTimer pointer nd.memory.nudTimers }
  | resolved (nce : Neighbour) (timer : Timer) (macAddress : MACAddress)
      (isRouter : Bool) (reachabilityState : HopLimits.ReachabilityState)
      (reachabilityExpires : Int) (listed : nce ∈ nd.memory.neighbourMap)
      (incomplete : nce.reachabilityState = .INCOMPLETE)
      (state : reachabilityState = .REACHABLE ∨ reachabilityState = .STALE)
      (addressed : macAddress.isUnspecified = false) (existing : timer ∈ nd.memory.arTimers)
      (timed : nce.arTimer = some timer.pointer) :
      Effect node nd event
        { storing nd.memory { nce with
            macAddress
            isRouter
            reachabilityState
            reachabilityExpires
            pendingPackets := [] } with
          arTimers := putTimer (delivered timer) nd.memory.arTimers
          sentBack := nd.memory.sentBack ++
            nce.pendingPackets.map fun msg => ⟨msg.number, macAddress⟩ }
  | entered (nbor : Neighbour) (neighbourMap : List Neighbour) (blank : Blank nd.memory nbor)
      (introduced : nbor.isDefaultRouter = true → Introduces node nbor.nceKey event)
      (added : neighbourMap.Perm (nbor :: nd.memory.neighbourMap)) :
      Effect node nd event { nd.memory with neighbourMap, nodes := nd.memory.nodes + 1 }
  | timedOut (nce : Neighbour) (nudTimers : List Timer) (dismisses : Dismisses node nd nce event)
      (deleted : deleteMessage .MK_NUD_TIMEOUT nce.nudTimeoutEvent nd.memory.nudTimers =
        .ok nudTimers) :
      Effect node nd event (without nd.memory nce nudTimers)
  | probed (timer : Timer) (nce : Neighbour) (time : Int) (sent : event = .nudTimeout timer.pointer)
      (existing : timer ∈ nd.memory.nudTimers) (scheduled : timer.arrivalTime = some nd.simTime)
      (listed : nce ∈ nd.memory.neighbourMap) (context : nce.node = timer.contextPointer)
      (more : maxProbesSent node (startProbes nce) = false) :
      Effect node nd event
        { storing nd.memory { startProbes nce with
            numProbesSent := (startProbes nce).numProbesSent + 1 } with
          nudTimers := scheduleAt time timer nd.memory.nudTimers }
  | givenUp (timer : Timer) (nce : Neighbour) (nudTimers : List Timer)
      (sent : event = .nudTimeout timer.pointer) (existing : timer ∈ nd.memory.nudTimers)
      (scheduled : timer.arrivalTime = some nd.simTime) (listed : nce ∈ nd.memory.neighbourMap)
      (context : nce.node = timer.contextPointer)
      (most : maxProbesSent node (startProbes nce) = true)
      (deleted : deleteMessage .MK_NUD_TIMEOUT nce.nudTimeoutEvent
          (putTimer (delivered timer) nd.memory.nudTimers) =
        .ok nudTimers) :
      Effect node nd event (without nd.memory nce nudTimers)
  | solicitedAgain (timer : Timer) (nce : Neighbour) (time : Int)
      (sent : event = .arTimeout timer.pointer) (existing : timer ∈ nd.memory.arTimers)
      (scheduled : timer.arrivalTime = some nd.simTime) (listed : nce ∈ nd.memory.neighbourMap)
      (context : nce.node = timer.contextPointer) :
      Effect node nd event
        { storing nd.memory { nce with
            numOfARNSSent := nce.numOfARNSSent + 1 } with
          arTimers := scheduleAt time timer nd.memory.arTimers }
  | failed (timer : Timer) (nce : Neighbour) (nudTimers : List Timer)
      (sent : event = .arTimeout timer.pointer) (existing : timer ∈ nd.memory.arTimers)
      (scheduled : timer.arrivalTime = some nd.simTime) (listed : nce ∈ nd.memory.neighbourMap)
      (context : nce.node = timer.contextPointer)
      (most : ¬nce.numOfARNSSent < (node.ipv6Data nce.nceKey.interfaceID).maxMulticastSolicit)
      (deleted : deleteMessage .MK_NUD_TIMEOUT nce.nudTimeoutEvent nd.memory.nudTimers =
        .ok nudTimers) :
      Effect node nd event
        { without nd.memory nce nudTimers with
          arTimers := dropTimer timer.pointer nd.memory.arTimers
          unreachable := nd.memory.unreachable ++
            nce.pendingPackets.map fun msg =>
              ⟨msg.number, nce.nceKey.interfaceID, nce.numOfARNSSent⟩ }

/-! ## The records in their pools -/

/-- Messages with addresses of their own, below the next one. -/
structure Numbered (timers : List Timer) (messages : Nat) : Prop where
  distinct : Distinct Timer.pointer timers
  below : ∀ timer ∈ timers, timer.pointer < messages

/-- Entries with nodes and keys of their own. -/
structure Keyed (neighbourMap : List Neighbour) (nodes : Nat) : Prop where
  distinct : Distinct Neighbour.node neighbourMap
  keys : Distinct Neighbour.nceKey neighbourMap
  below : ∀ nce ∈ neighbourMap, nce.node < nodes

/-- Records have addresses of their own, and new ones get new addresses. -/
structure Placed (memory : Memory) : Prop where
  entries : Keyed memory.neighbourMap memory.nodes
  nudTimers : Numbered memory.nudTimers memory.messages
  arTimers : Numbered memory.arTimers memory.messages

section

theorem mem_of_lookup (found : lookup memory address interfaceID = some nce) :
    nce ∈ memory.neighbourMap ∧ nce.nceKey = ⟨address, interfaceID⟩ := by
  refine ⟨List.mem_of_find?_eq_some found, ?_⟩
  simpa using List.find?_some found

theorem lookup_eq_none :
    lookup memory address interfaceID = none ↔
      ∀ nce ∈ memory.neighbourMap, nce.nceKey ≠ ⟨address, interfaceID⟩ := by
  simp [lookup]

end

theorem Placed.lookup (placed : Placed memory) (listed : nce ∈ memory.neighbourMap) :
    NeighbourDiscovery.lookup memory nce.nceKey.address nce.nceKey.interfaceID = some nce :=
  placed.entries.keys.find_eq listed

theorem deleteMessage_eq_ok :
    deleteMessage kind msg timers = .ok next ↔
      msg = none ∧ next = timers ∨
        ∃ pointer timer, msg = some pointer ∧ findTimer pointer timers = some timer ∧
          timer.isScheduled = false ∧ next = dropTimer pointer timers := by
  unfold deleteMessage
  cases msg with
  | none =>
    constructor
    · intro done
      cases done
      exact .inl ⟨rfl, rfl⟩
    · rintro (⟨-, rfl⟩ | ⟨pointer, timer, same, -⟩)
      · rfl
      · cases same
  | some pointer =>
    dsimp only
    constructor
    · intro done
      split at done
      · cases done
      · case _ timer found =>
          split_ifs at done with scheduled
          cases done
          exact .inr ⟨pointer, timer, rfl, found, by simpa using scheduled, rfl⟩
    · rintro (⟨same, -⟩ | ⟨other, timer, same, found, free, rfl⟩)
      · cases same
      · cases same
        rw [found]
        dsimp only
        rw [if_neg (by simp [free])]

theorem cancel_delete (cancel : cancelEvent kind (some pointer) timers = .ok cancelled)
    (delete : deleteMessage kind (some pointer) cancelled = .ok next) :
    next = dropTimer pointer timers := by
  dsimp only [cancelEvent] at cancel
  split at cancel
  · cases cancel
  · case _ timer found =>
      cases cancel
      rcases deleteMessage_eq_ok.mp delete with ⟨same, -⟩ | ⟨_, -, same, -, -, rfl⟩
      · cases same
      · cases same
        exact RecordPools.discard_put (RecordPools.mem_of_find found).2

section Pools

variable {memory : Memory} {nce : Neighbour}

theorem Keyed.put (keyed : Keyed neighbourMap nodes)
    (listed : old ∈ neighbourMap) (sameNode : nce.node = old.node)
    (sameKey : nce.nceKey = old.nceKey) :
    Keyed (RecordPools.put Neighbour.node nce neighbourMap) nodes where
  distinct := keyed.distinct.put nce
  keys := by
    have same : (RecordPools.put Neighbour.node nce neighbourMap).map
        Neighbour.nceKey = neighbourMap.map Neighbour.nceKey := by
      apply RecordPools.map_put
      intro _ member here
      have one := keyed.distinct.eq listed member (sameNode.symm.trans here.symm)
      rw [sameKey, one]
    rw [Distinct, same]
    exact keyed.keys
  below := by
    intro _ member
    rcases RecordPools.mem_put.mp member with ⟨kept, -⟩ | ⟨rfl, -⟩
    · exact keyed.below _ kept
    · rw [sameNode]
      exact keyed.below _ listed

theorem Placed.storing (placed : Placed memory) {old : Neighbour}
    (listed : old ∈ memory.neighbourMap) (sameNode : nce.node = old.node)
    (sameKey : nce.nceKey = old.nceKey) : Placed (storing memory nce) :=
  { placed with entries := placed.entries.put listed sameNode sameKey }

theorem mem_storing (listed : old ∈ memory.neighbourMap)
    (same : nce.node = old.node) : nce ∈ (storing memory nce).neighbourMap :=
  RecordPools.mem_put.mpr (.inr ⟨rfl, old, listed, same.symm⟩)

theorem storing_store (same : later.node = nce.node) :
    storing (store memory nce) later = storing memory later := by
  unfold storing store
  rw [RecordPools.put_put same]

theorem without_storing (same : other.node = nce.node) (nudTimers : List Timer) :
    without (storing memory nce) other nudTimers = without memory other nudTimers := by
  unfold without storing
  rw [RecordPools.discard_put same.symm]

theorem remove_eq_ok (placed : Placed memory) (listed : nce ∈ memory.neighbourMap)
    (done : remove memory nce.nceKey.address nce.nceKey.interfaceID = .ok next) :
    ∃ nudTimers,
      deleteMessage .MK_NUD_TIMEOUT nce.nudTimeoutEvent memory.nudTimers = .ok nudTimers ∧
        next = without memory nce nudTimers := by
  rw [remove, placed.lookup listed] at done
  dsimp only at done
  split at done
  · cases done
  · case _ nudTimers deleted =>
      cases done
      exact ⟨nudTimers, deleted, rfl⟩

end Pools

/-! ## The effect of each handler -/

section Handlers

variable {nd : IPv6NeighbourDiscovery}

theorem initiate_detecting
    (done : initiateNeighbourUnreachabilityDetection node now memory nce = .ok next) :
    nce.reachabilityState = .STALE ∧ ∃ time, next = detecting memory nce time := by
  unfold initiateNeighbourUnreachabilityDetection at done
  split_ifs at done with other
  cases done
  exact ⟨by simpa using other, _, rfl⟩

theorem detecting_storing (state : HopLimits.ReachabilityState) (time : Int) :
    detecting (store memory { nce with reachabilityState := state })
        { nce with reachabilityState := state } time =
      detecting memory nce time := by
  rw [detecting, storing_store]
  all_goals rfl

theorem resolveNeighbour_effect
    (done : resolveNeighbour node now nd.memory nextHop interfaceId = .ok (next, macAddress)) :
    Effect node nd event next := by
  unfold resolveNeighbour at done
  split at done
  · cases done
    exact .quiet
  · case _ nce found =>
      have listed := (mem_of_lookup found).1
      split_ifs at done with incomplete stale expired
      · cases done
        exact .quiet
      · rcases map_eq_ok.mp done with ⟨_, started, same⟩
        cases same
        rcases initiate_detecting started with ⟨known, time, rfl⟩
        exact .detected _ _ listed (.inl known)
      · rcases map_eq_ok.mp done with ⟨_, started, same⟩
        cases same
        rcases initiate_detecting started with ⟨-, _, rfl⟩
        rw [detecting_storing]
        simp only [Bool.and_eq_true, decide_eq_true_eq] at expired
        exact .detected _ _ listed (.inr expired.1)
      · cases done
        exact .quiet

theorem resolveFor_effect (done : resolveFor node first nextHop interfaceId = .ok last)
    (same : first.memory = nd.memory) : Effect node nd event last.memory := by
  rcases map_eq_ok.mp done with ⟨⟨_, _⟩, resolved, rfl⟩
  rw [same] at resolved
  exact resolveNeighbour_effect resolved

theorem doLookup_memory (done : doLookup first dest = .ok (last, route)) :
    last.memory = first.memory ∧ last.simTime = first.simTime := by
  unfold doLookup at done
  split at done
  · cases done
  · cases done
    exact ⟨rfl, rfl⟩

theorem routePacket_effect
    (done : routePacket node nd dest = .ok next) : Effect node nd event next.memory := by
  dsimp only [routePacket] at done
  split_ifs at done with cached unspecified
  · exact resolveFor_effect done rfl
  · split at done
    · cases done
    · case _ looked =>
        cases done
        rw [(doLookup_memory looked).1]
        exact .quiet
    · case _ looked =>
        have same := (doLookup_memory looked).1
        split_ifs at done
        exact resolveFor_effect done same

theorem determineNextHop_memory
    (done : determineNextHop first dest = .ok (last, nextHopAddr, nextHopIfID)) :
    last.memory = first.memory ∧ last.simTime = first.simTime := by
  unfold determineNextHop doLookup at done
  split at done
  · cases done
  · case _ looked =>
      split at looked
      · cases looked
      · cases looked
        cases done
        exact ⟨rfl, rfl⟩
  · case _ looked =>
      split at looked
      · cases looked
      · cases looked
        split at done
        · cases done
        · cases done
          exact ⟨rfl, rfl⟩

theorem reachabilityConfirmed_effect
    (done : reachabilityConfirmed nd.memory neighbour interfaceId = .ok next) :
    Effect node nd (.reachabilityConfirmed neighbour interfaceId) next := by
  unfold reachabilityConfirmed at done
  split at done
  · cases done
  · case _ nce found =>
      split at done
      · cases done
        exact .quiet
      · case _ pointer timed =>
          rcases bind_eq_ok.mp done with ⟨_, cancel, rest⟩
          rcases bind_eq_ok.mp rest with ⟨_, delete, last⟩
          cases last
          rw [cancel_delete cancel delete]
          exact .hinted _ _ found timed

/-! ### Timeouts -/

theorem due_eq_some (found : due now msg timers = some timer) :
    timer ∈ timers ∧ timer.pointer = msg ∧ timer.arrivalTime = some now := by
  rcases Option.filter_eq_some_iff.mp found with ⟨known, now⟩
  have placed := RecordPools.mem_of_find known
  exact ⟨placed.1, placed.2, by simpa using now⟩

theorem startProbes_node (nce : Neighbour) : (startProbes nce).node = nce.node := by
  unfold startProbes
  split_ifs <;> rfl

theorem startProbes_nceKey (nce : Neighbour) : (startProbes nce).nceKey = nce.nceKey := by
  unfold startProbes
  split_ifs <;> rfl

theorem startProbes_nudTimeoutEvent (nce : Neighbour) :
    (startProbes nce).nudTimeoutEvent = nce.nudTimeoutEvent := by
  unfold startProbes
  split_ifs <;> rfl

/-- The time of a message that is delivered does not matter any more. -/
theorem scheduleAt_delivered (time : Int) (timer : Timer) (timers : List Timer) :
    scheduleAt time (delivered timer) (putTimer (delivered timer) timers) =
      scheduleAt time timer timers := by
  unfold scheduleAt putTimer
  rw [RecordPools.put_put]
  all_goals rfl

theorem Numbered.put (numbered : Numbered timers messages) (timer : Timer) :
    Numbered (putTimer timer timers) messages where
  distinct := numbered.distinct.put timer
  below := by
    intro _ member
    rcases RecordPools.mem_put.mp member with ⟨kept, -⟩ | ⟨rfl, _, kept, same⟩
    · exact numbered.below _ kept
    · rw [← same]
      exact numbered.below _ kept

/-- The memory while a message of the first kind is handled. -/
def nudDelivered (memory : Memory) (timer : Timer) : Memory :=
  { memory with nudTimers := putTimer (delivered timer) memory.nudTimers }

theorem Placed.nudDelivered (placed : Placed memory)
    (timer : Timer) : Placed (nudDelivered memory timer) :=
  { placed with nudTimers := placed.nudTimers.put _ }

/-- The probe that follows, or the end of the entry. -/
def NUDOutcome (node : Node) (memory : Memory) (timeoutMsg : Timer)
    (nce : Neighbour) (next : Memory) : Prop :=
  maxProbesSent node (startProbes nce) = true ∧
      (∃ nudTimers,
        deleteMessage .MK_NUD_TIMEOUT nce.nudTimeoutEvent memory.nudTimers =
          .ok nudTimers ∧ next = without memory nce nudTimers) ∨
    maxProbesSent node (startProbes nce) = false ∧
      ∃ time, next =
        { storing memory { startProbes nce with
            numProbesSent := (startProbes nce).numProbesSent + 1 } with
          nudTimers := scheduleAt time timeoutMsg memory.nudTimers }

theorem processNUDTimeout_outcome (placed : Placed first.memory)
    (done : processNUDTimeout node first timeoutMsg = .ok last) :
    ∃ nce ∈ first.memory.neighbourMap,
      nce.node = timeoutMsg.contextPointer ∧
        NUDOutcome node first.memory timeoutMsg nce last.memory := by
  unfold processNUDTimeout at done
  split at done
  · cases done
  · case _ nce entry =>
      have known := RecordPools.mem_of_find entry
      refine ⟨nce, known.1, known.2, ?_⟩
      dsimp only at done
      split_ifs at done with most
      · rcases map_eq_ok.mp done with ⟨_, removed, rfl⟩
        have stored := placed.storing known.1 (startProbes_node _) (startProbes_nceKey _)
        have within := mem_storing known.1 (startProbes_node _)
        rcases remove_eq_ok stored within removed with ⟨nudTimers, deleted, rfl⟩
        rw [startProbes_nudTimeoutEvent] at deleted
        refine .inl ⟨most, nudTimers, deleted, ?_⟩
        rw [without_storing rfl]
        unfold without
        rw [startProbes_node]
      · cases done
        have merged := @storing_store first.memory (startProbes _)
          { startProbes nce with numProbesSent := (startProbes nce).numProbesSent + 1 } rfl
        refine .inr ⟨by simpa using most, first.simTime +
          (node.ipv6Data (startProbes nce).nceKey.interfaceID).retransTimer, ?_⟩
        rw [← merged]
        rfl

theorem handleNUDTimeout_effect (placed : Placed nd.memory)
    (done : handleNUDTimeout node nd msg = .ok next) :
    Effect node nd (.nudTimeout msg) next.memory := by
  unfold handleNUDTimeout at done
  split at done
  · cases done
  · case _ timer found =>
      rcases due_eq_some found with ⟨existing, rfl, scheduled⟩
      rcases processNUDTimeout_outcome (placed.nudDelivered _) done with
        ⟨nce, listed, context, outcome⟩
      rcases outcome with ⟨most, _, deleted, same⟩ | ⟨more, time, same⟩
      · rw [same]
        exact .givenUp _ _ _ rfl existing scheduled listed context most deleted
      · have again := scheduleAt_delivered time timer nd.memory.nudTimers
        rw [same, again]
        exact .probed _ _ _ rfl existing scheduled listed context more

/-- The memory while a message of the second kind is handled. -/
def arDelivered (memory : Memory) (timer : Timer) : Memory :=
  { memory with arTimers := putTimer (delivered timer) memory.arTimers }

theorem Placed.arDelivered (placed : Placed memory)
    (timer : Timer) : Placed (arDelivered memory timer) :=
  { placed with arTimers := placed.arTimers.put _ }

/-- What the reports about the queued datagrams say. -/
def reports (nce : Neighbour) : List Unreachable :=
  nce.pendingPackets.map fun msg => ⟨msg.number, nce.nceKey.interfaceID, nce.numOfARNSSent⟩

theorem Placed.reporting (placed : Placed memory)
    (unreachable : List Unreachable) : Placed { memory with unreachable } :=
  { placed with }

theorem dropQueuedPackets_eq_ok (placed : Placed memory) (listed : nce ∈ memory.neighbourMap)
    (done : dropQueuedPacketsAwaitingAR memory nce = .ok next) :
    ∃ nudTimers,
      deleteMessage .MK_NUD_TIMEOUT nce.nudTimeoutEvent memory.nudTimers = .ok nudTimers ∧
        next = { without memory nce nudTimers with
          unreachable := memory.unreachable ++ reports nce } := by
  have reported := placed.reporting (memory.unreachable ++ reports nce)
  rcases remove_eq_ok reported listed done with ⟨nudTimers, deleted, rfl⟩
  exact ⟨nudTimers, deleted, rfl⟩

/-- The solicitation that follows, or the end of the entry. -/
def AROutcome (node : Node) (memory : Memory) (arTimeoutMsg : Timer)
    (nce : Neighbour) (next : Memory) : Prop :=
  (∃ time, next =
      { storing memory { nce with
          numOfARNSSent := nce.numOfARNSSent + 1 } with
        arTimers := scheduleAt time arTimeoutMsg memory.arTimers }) ∨
    ¬nce.numOfARNSSent < (node.ipv6Data nce.nceKey.interfaceID).maxMulticastSolicit ∧
      ∃ nudTimers arTimers,
        deleteMessage .MK_NUD_TIMEOUT nce.nudTimeoutEvent memory.nudTimers = .ok nudTimers ∧
          deleteMessage .MK_AR_TIMEOUT (some arTimeoutMsg.pointer) memory.arTimers = .ok arTimers ∧
          next = { without memory nce nudTimers with
            arTimers
            unreachable := memory.unreachable ++ reports nce }

theorem processARTimeout_outcome (placed : Placed first.memory)
    (done : processARTimeout node first arTimeoutMsg = .ok last) :
    ∃ nce ∈ first.memory.neighbourMap,
      nce.node = arTimeoutMsg.contextPointer ∧
        AROutcome node first.memory arTimeoutMsg nce last.memory := by
  unfold processARTimeout at done
  split at done
  · cases done
  · case _ nce entry =>
      have known := RecordPools.mem_of_find entry
      refine ⟨nce, known.1, known.2, ?_⟩
      dsimp only at done
      split_ifs at done with more
      · cases done
        exact .inl ⟨_, rfl⟩
      · rcases bind_eq_ok.mp done with ⟨_, dropped, rest⟩
        rcases bind_eq_ok.mp rest with ⟨arTimers, deletedOwn, final⟩
        cases final
        rcases dropQueuedPackets_eq_ok placed known.1 dropped with ⟨nudTimers, deleted, rfl⟩
        exact .inr ⟨more, nudTimers, arTimers, deleted, deletedOwn, rfl⟩

theorem handleARTimeout_effect (placed : Placed nd.memory)
    (done : handleARTimeout node nd msg = .ok next) :
    Effect node nd (.arTimeout msg) next.memory := by
  unfold handleARTimeout at done
  split at done
  · cases done
  · case _ timer found =>
      rcases due_eq_some found with ⟨existing, rfl, scheduled⟩
      rcases processARTimeout_outcome (placed.arDelivered _) done with
        ⟨nce, listed, context, outcome⟩
      rcases outcome with ⟨time, same⟩ | ⟨most, _, arTimers, deleted, deletedOwn, same⟩
      · have again := scheduleAt_delivered time timer nd.memory.arTimers
        rw [same, again]
        exact .solicitedAgain _ _ _ rfl existing scheduled listed context
      · have own : arTimers = dropTimer timer.pointer nd.memory.arTimers := by
          rcases deleteMessage_eq_ok.mp deletedOwn with ⟨none, -⟩ | ⟨_, -, known, -, -, rfl⟩
          · cases none
          · cases known
            exact RecordPools.discard_put rfl
        rw [same, own]
        exact .failed _ _ _ rfl existing scheduled listed context most deleted

/-! ### Datagrams -/

theorem initiateAddressResolution_eq_ok
    (done : initiateAddressResolution node first dgSrcAddr nce = .ok started) :
    ∃ nsSrcAddr time,
      started.2 = { nce with
        reachabilityState := .INCOMPLETE
        numOfARNSSent := 1
        nsSrcAddr
        arTimer := some first.memory.messages } ∧
      started.1.memory = { storing first.memory started.2 with
        arTimers := first.memory.arTimers ++ [⟨first.memory.messages, nce.node, some time⟩]
        messages := first.memory.messages + 1 } := by
  dsimp only [initiateAddressResolution] at done
  split_ifs at done
  all_goals
    cases done
    exact ⟨_, _, rfl, rfl⟩

section

theorem resolveAndQueue_eq_ok (done : resolveAndQueue node first nce msg = .ok last) :
    ∃ nsSrcAddr time,
      last.memory = resolving first.memory nce
        (RecordPools.put Neighbour.node
          (awaiting first.memory nce nsSrcAddr msg) first.memory.neighbourMap)
        first.memory.nodes msg time := by
  rcases map_eq_ok.mp done with ⟨_, initiated, rfl⟩
  rcases initiateAddressResolution_eq_ok initiated with ⟨nsSrcAddr, time, entry, memory⟩
  refine ⟨nsSrcAddr, time, ?_⟩
  unfold queuePacket
  rw [memory, entry, store, storing, resolving, RecordPools.put_put]
  all_goals rfl

theorem sendToNeighbour_effect (done : sendToNeighbour node first nce msg = .ok last)
    (same : first.memory = nd.memory) (reached : Reaches nd nce event)
    (listed : nce ∈ nd.memory.neighbourMap) (number : msg.number = nd.memory.accepted.length) :
    Effect node nd event last.memory := by
  unfold sendToNeighbour at done
  split_ifs at done with incomplete unaddressed
  · cases done
    rw [same]
    exact .queued _ _ reached incomplete number
  · rcases resolveAndQueue_eq_ok done with ⟨_, time, memory⟩
    rw [memory, same]
    exact .readdressed _ _ _ _ reached incomplete unaddressed number
  · split at done
    · rcases map_eq_ok.mp done with ⟨_, started, rfl⟩
      rcases initiate_detecting started with ⟨stale, _, rfl⟩
      rw [same]
      exact .detected _ _ listed (.inl stale)
    · cases done
      rw [same]
      exact .quiet
    · cases done
      rw [same]
      exact .quiet
    · cases done

end

theorem add_eq_ok (state : reachabilityState = .INCOMPLETE ∨ reachabilityState = .STALE)
    (done : add memory address interfaceID macAddress isRouter
      reachabilityState routerExpiryTime = .ok added) :
    Blank memory added.2 ∧ added.2.nceKey = ⟨address, interfaceID⟩ ∧
      added.2.isDefaultRouter = isRouter ∧ added.1 = insert memory added.2 := by
  unfold add at done
  split at done
  · cases done
  · case _ unknown =>
      cases done
      refine ⟨⟨rfl, ?_, rfl, rfl, rfl, rfl, state⟩, rfl, rfl, rfl⟩
      exact lookup_eq_none.mp unknown

theorem insert_perm (memory : Memory) (nbor : Neighbour) :
    (insert memory nbor).neighbourMap.Perm (nbor :: memory.neighbourMap) :=
  List.perm_orderedInsert _ _ memory.neighbourMap

theorem Placed.fresh (placed : Placed memory) {nbor : Neighbour} (blank : Blank memory nbor) :
    ∀ nce ∈ memory.neighbourMap, nce.node ≠ nbor.node := by
  intro _ listed
  rw [blank.node]
  exact (placed.entries.below _ listed).ne

theorem processIPv6Datagram_effect (placed : Placed nd.memory)
    (done : processIPv6Datagram node nd srcAddress destAddress = .ok next) :
    Effect node nd (.datagram srcAddress destAddress) next.memory := by
  dsimp only [processIPv6Datagram] at done
  split at done
  · cases done
  · case _ last nextHopAddr nextHopIfID determined =>
      have same : last.memory = nd.memory := (determineNextHop_memory determined).1
      split_ifs at done with noHop
      · cases done
        rw [same]
        exact .quiet
      · unfold sendToNextHop at done
        split at done
        · split at done
          · cases done
          · case _ memory nce added =>
              have fresh := add_eq_ok (.inl rfl) added
              rcases resolveAndQueue_eq_ok done with ⟨_, _, result⟩
              have blank : Blank nd.memory nce := by
                rw [← same]
                exact fresh.1
              have whole : memory = insert nd.memory nce := by
                rw [← same]
                exact fresh.2.2.2
              rw [result]
              subst whole
              refine .unresolved _ _ _ _ _ blank fresh.2.2.1 rfl
                (RecordPools.put_added (insert_perm nd.memory _) rfl ?_)
              intro _ listed
              exact placed.fresh blank _ listed
        · case _ nce found =>
            have known : lookup nd.memory nextHopAddr nextHopIfID = some nce := by
              rwa [← same]
            refine sendToNeighbour_effect done same ?_ (mem_of_lookup known).1 rfl
            exact ⟨last, nextHopAddr, nextHopIfID, determined, noHop, known⟩

/-! ### Solicitations and advertisements -/

theorem processNSPacket_effect (done : processNSPacket node nd ns nsCtrlInfo = .ok next) :
    Effect node nd (.solicitation ns nsCtrlInfo) next.memory := by
  dsimp only [processNSPacket] at done
  split_ifs at done with refused tentative anonymous
  · cases done
    exact .quiet
  · unfold processNSForTentativeAddress at done
    split_ifs at done
    cases done
    exact .quiet
  · cases done
    exact .quiet
  · have accepted : Solicits nd ns nsCtrlInfo := by
      simp only [Bool.or_eq_true, Bool.not_eq_true', not_or, Bool.not_eq_false] at refused
      exact ⟨refused.1, refused.2, by simpa using tentative, by simpa using anonymous⟩
    dsimp only [processNSWithSpecifiedSrcAddr] at done
    split at done
    · split at done
      · cases done
      · case _ memory nbor added =>
          cases done
          have fresh := add_eq_ok (.inr rfl) added
          have whole : memory = insert nd.memory nbor := fresh.2.2.2
          subst whole
          refine .entered _ _ fresh.1 ?_ (insert_perm nd.memory _)
          intro router
          rw [fresh.2.2.1] at router
          cases router
    · case _ nce found =>
        cases done
        have listed := (mem_of_lookup found).1
        dsimp only [sendSolicitedNA]
        split_ifs with other
        · simp only [Bool.and_eq_true, decide_eq_true_eq, Bool.not_eq_true'] at other
          exact .staled _ ns.sourceLinkLayerAddress nce.isRouter listed
            (.inr ⟨accepted, found, other.1, other.2⟩)
        · exact .quiet

theorem processNAForIncomplete_effect
    (listed : nce ∈ nd.memory.neighbourMap) (incomplete : nce.reachabilityState = .INCOMPLETE)
    (done : processNAForIncompleteNCEState node now nd.memory na nce = .ok next) :
    Effect node nd event next := by
  unfold processNAForIncompleteNCEState at done
  split_ifs at done with anonymous
  · cases done
    exact .quiet
  · have addressed : na.targetLinkLayerAddress.isUnspecified = false := by simpa using anonymous
    rcases map_eq_ok.mp done with ⟨_, cancel, rfl⟩
    unfold cancelEvent at cancel
    split at cancel
    · cases cancel
    · case _ pointer timed =>
        split at cancel
        · cases cancel
        · case _ timer found =>
            cases cancel
            have known := RecordPools.mem_of_find found
            rw [← known.2] at timed
            dsimp only [resolvedEntry]
            split_ifs with solicited
            · exact .resolved nce _ na.targetLinkLayerAddress
                na.routerFlag .REACHABLE _ listed incomplete (.inl rfl) addressed known.1 timed
            · exact .resolved nce _ na.targetLinkLayerAddress
                na.routerFlag .STALE nce.reachabilityExpires listed
                incomplete (.inr rfl) addressed known.1 timed

theorem confirmEntry_effect (confirms : Confirms nd nce event)
    (complete : nce.reachabilityState ≠ .INCOMPLETE) (isRouter : Bool)
    (done : confirmEntry node now nd.memory { nce with macAddress } = .ok confirmed) :
    Effect node nd event (store confirmed.1 { confirmed.2 with isRouter }) := by
  dsimp only [confirmEntry] at done
  split at done
  · case _ untimed =>
      cases done
      exact .reconfirmed nce _ _ confirms complete untimed
  · case _ pointer timed =>
      rcases bind_eq_ok.mp done with ⟨_, cancel, rest⟩
      rcases bind_eq_ok.mp rest with ⟨_, delete, last⟩
      cases last
      rw [cancel_delete cancel delete]
      exact .confirmed nce _ _ _ _ confirms complete timed

/-- The entry with the address that the advertisement gives, if any. -/
def addressedBy (na : IPv6NeighbourAdvertisement) (nce : Neighbour) : MACAddress :=
  if !na.targetLinkLayerAddress.isUnspecified && na.targetLinkLayerAddress ≠ nce.macAddress then
    na.targetLinkLayerAddress
  else nce.macAddress

theorem addressed_eq (na : IPv6NeighbourAdvertisement) (nce : Neighbour) :
    (if !na.targetLinkLayerAddress.isUnspecified && na.targetLinkLayerAddress ≠ nce.macAddress then
      { nce with macAddress := na.targetLinkLayerAddress }
    else nce) = { nce with macAddress := addressedBy na nce } := by
  unfold addressedBy
  split_ifs <;> rfl

theorem eq_of_unspecified {right : MACAddress} (leftNone : left.isUnspecified = true)
    (rightNone : right.isUnspecified = true) : left = right := by
  simp only [MACAddress.isUnspecified, beq_iff_eq] at leftNone rightNone
  cases left
  cases right
  simp_all

/-- Only the lack of an address differs from the one that was entered. -/
theorem differs_addressedBy (differs : na.targetLinkLayerAddress ≠ addressedBy na nce) :
    na.targetLinkLayerAddress.isUnspecified = true ∧ nce.macAddress.isUnspecified = false := by
  unfold addressedBy at differs
  split_ifs at differs with given
  · exact absurd rfl differs
  · have none : na.targetLinkLayerAddress.isUnspecified = true := by
      by_contra specified
      exact given (by simp [specified, differs])
    refine ⟨none, ?_⟩
    by_contra specified
    exact differs (eq_of_unspecified none (by simpa using specified))

theorem agrees_of_not_contradicts
    (contradicts : ¬(!na.overrideFlag && decide (na.targetLinkLayerAddress ≠ nce.macAddress) &&
      !na.targetLinkLayerAddress.isUnspecified) = true) :
    Agrees na nce := by
  unfold Agrees
  by_contra disagrees
  simp only [not_or] at disagrees
  exact contradicts (by simp [disagrees.1, disagrees.2.1, disagrees.2.2])

theorem processNAForOther_effect
    (about : Advertises nd na naCtrlInfo nce) (complete : nce.reachabilityState ≠ .INCOMPLETE)
    (done : processNAForOtherNCEStates node now nd.memory na nce = .ok next) :
    Effect node nd (.advertisement na naCtrlInfo) next := by
  have listed := (mem_of_lookup about.2.2).1
  dsimp only [processNAForOtherNCEStates] at done
  rw [addressed_eq] at done
  split_ifs at done with contradicts reachable solicited differs
  · cases done
    exact .staled _ nce.macAddress nce.isRouter listed (.inl reachable)
  · cases done
    exact .quiet
  · rcases map_eq_ok.mp done with ⟨_, entry, rfl⟩
    have agrees := agrees_of_not_contradicts contradicts
    have confirms : Confirms nd nce (.advertisement na naCtrlInfo) :=
      ⟨about, complete, solicited, agrees⟩
    exact confirmEntry_effect confirms complete na.routerFlag entry
  · cases done
    have given := differs_addressedBy differs
    exact .staled nce _ na.routerFlag listed
      (.inr ⟨about, complete, by simpa using solicited, given.1, given.2⟩)
  · cases done
    exact .touched nce _ na.routerFlag nce.routerExpiryTime listed

theorem processNAPacket_effect (done : processNAPacket node nd na naCtrlInfo = .ok next) :
    Effect node nd (.advertisement na naCtrlInfo) next.memory := by
  dsimp only [processNAPacket] at done
  split_ifs at done with refused tentative
  · cases done
    exact .quiet
  · split at done
    · cases done
      exact .quiet
    · case _ nce found =>
        have about : Advertises nd na naCtrlInfo nce :=
          ⟨by simpa using refused, by simpa using tentative, found⟩
        rcases map_eq_ok.mp done with ⟨_, processed, rfl⟩
        split_ifs at processed with incomplete
        · exact processNAForIncomplete_effect (mem_of_lookup found).1 incomplete processed
        · exact processNAForOther_effect about incomplete processed

/-! ### Router advertisements -/

section

variable (placed : Placed nd.memory)
include placed

theorem enterOrdinary_effect (blank : Blank nd.memory nbor)
    (ordinary : nbor.isDefaultRouter = false) (whole : memory = insert nd.memory nbor) :
    Effect node nd event (store memory { nbor with isRouter := true }) := by
  have replaced : (RecordPools.put Neighbour.node
      { nbor with isRouter := true } (insert nd.memory nbor).neighbourMap).Perm
      ({ nbor with isRouter := true } :: nd.memory.neighbourMap) := by
    refine RecordPools.put_added (insert_perm nd.memory _) rfl ?_
    intro _ listed
    exact placed.fresh blank _ listed
  rw [whole]
  refine .entered { nbor with isRouter := true } _ { blank with } ?_ replaced
  intro router
  rw [ordinary] at router
  cases router

theorem enterAdvertiser_effect (taken : takesAdvertisement node raCtrlInfo = true)
    (done : enterAdvertiser node nd ra raCtrlInfo.srcAddr raCtrlInfo.interfaceId = .ok next) :
    Effect node nd (.routerAdvertisement ra raCtrlInfo) next.memory := by
  dsimp only [enterAdvertiser] at done
  split_ifs at done with lasting anonymous anonymous
  · rcases map_eq_ok.mp done with ⟨added, new, rfl⟩
    rcases add_eq_ok (.inl rfl) new with ⟨blank, key, -, whole⟩
    rw [whole]
    exact .entered added.2 _ blank (fun _ => ⟨taken, lasting, key⟩) (insert_perm nd.memory added.2)
  · rcases map_eq_ok.mp done with ⟨added, new, rfl⟩
    rcases add_eq_ok (.inr rfl) new with ⟨blank, key, -, whole⟩
    rw [whole]
    exact .entered added.2 _ blank (fun _ => ⟨taken, lasting, key⟩) (insert_perm nd.memory added.2)
  · rcases map_eq_ok.mp done with ⟨_, new, rfl⟩
    rcases add_eq_ok (.inl rfl) new with ⟨blank, -, ordinary, whole⟩
    exact enterOrdinary_effect placed blank ordinary whole
  · rcases map_eq_ok.mp done with ⟨_, new, rfl⟩
    rcases add_eq_ok (.inr rfl) new with ⟨blank, -, ordinary, whole⟩
    exact enterOrdinary_effect placed blank ordinary whole

theorem updateRouter_effect (taken : takesAdvertisement node raCtrlInfo = true)
    (done : updateRouter node nd ra raCtrlInfo.srcAddr raCtrlInfo.interfaceId = .ok next) :
    Effect node nd (.routerAdvertisement ra raCtrlInfo) next.memory := by
  unfold updateRouter at done
  split at done
  · exact enterAdvertiser_effect placed taken done
  · case _ nce found =>
      have known := mem_of_lookup found
      split_ifs at done with ends
      · rcases map_eq_ok.mp done with ⟨memory, removed, rfl⟩
        have stored := @Placed.storing nd.memory
          (advertisedEntry node nd.simTime ra _) placed _ known.1 rfl rfl
        have within := @mem_storing nd.memory (advertisedEntry node nd.simTime ra _) _ known.1 rfl
        have same : (advertisedEntry node nd.simTime ra nce).nceKey =
            ⟨raCtrlInfo.srcAddr, raCtrlInfo.interfaceId⟩ := known.2
        have own : remove (storing nd.memory (advertisedEntry node nd.simTime ra nce))
            (advertisedEntry node nd.simTime ra nce).nceKey.address
            (advertisedEntry node nd.simTime ra nce).nceKey.interfaceID = .ok memory := by
          rwa [same]
        rcases remove_eq_ok stored within own with ⟨nudTimers, deleted, rfl⟩
        rw [without_storing rfl]
        exact .timedOut nce nudTimers ⟨taken, ends, found⟩ deleted
      · cases done
        exact .touched nce _ true _ known.1

theorem processRAPacket_effect (done : processRAPacket node nd ra raCtrlInfo = .ok next) :
    Effect node nd (.routerAdvertisement ra raCtrlInfo) next.memory := by
  unfold processRAPacket at done
  split_ifs at done with taken
  · rcases map_eq_ok.mp done with ⟨_, inner, rfl⟩
    have effect := updateRouter_effect placed taken inner
    exact effect
  · cases done
    exact .quiet

theorem step_effect (step : Step node nd event next) : Effect node nd event next.memory := by
  cases event with
  | elapse _ =>
    dsimp only [Step, handle, elapse] at step
    split_ifs at step
    cases step
    exact .quiet
  | assignAddresses _ _ =>
    cases step
    exact .quiet
  | nudTimeout _ => exact handleNUDTimeout_effect placed step
  | arTimeout _ => exact handleARTimeout_effect placed step
  | routePacket _ => exact routePacket_effect step
  | resolveNeighbour _ _ => exact resolveFor_effect step rfl
  | reachabilityConfirmed _ _ =>
    rcases map_eq_ok.mp step with ⟨_, confirmed, rfl⟩
    exact reachabilityConfirmed_effect confirmed
  | datagram _ _ => exact processIPv6Datagram_effect placed step
  | solicitation _ _ => exact processNSPacket_effect step
  | advertisement _ _ => exact processNAPacket_effect step
  | routerAdvertisement _ _ => exact processRAPacket_effect placed step

end

end Handlers

/-! ## The records stay in their pools -/

section Concerned

theorem Reaches.listed (reached : Reaches nd nce event) : nce ∈ nd.memory.neighbourMap := by
  cases event with
  | datagram _ _ =>
    rcases reached with ⟨_, _, _, -, -, found⟩
    exact (mem_of_lookup found).1
  | _ => exact reached.elim

theorem Scans.listed (scans : Scans nd nce event) : nce ∈ nd.memory.neighbourMap := by
  cases event with
  | datagram _ _ => exact List.mem_of_find?_eq_some scans.2
  | _ => exact scans.elim

theorem Stales.listed (stales : Stales nd nce event) : nce ∈ nd.memory.neighbourMap := by
  cases event with
  | solicitation _ _ => exact (mem_of_lookup stales.2.1).1
  | advertisement _ _ => exact (mem_of_lookup stales.1.2.2).1
  | _ => exact stales.elim

theorem Confirms.listed (confirms : Confirms nd nce event) : nce ∈ nd.memory.neighbourMap := by
  cases event with
  | reachabilityConfirmed _ _ => exact (mem_of_lookup confirms).1
  | advertisement _ _ => exact (mem_of_lookup confirms.1.2.2).1
  | _ => exact confirms.elim

theorem Dismisses.listed (dismisses : Dismisses node nd nce event) :
    nce ∈ nd.memory.neighbourMap := by
  cases event with
  | routerAdvertisement _ _ => exact (mem_of_lookup dismisses.2.2).1
  | _ => exact dismisses.elim

end Concerned

section Preserved

section

variable (numbered : Numbered timers messages)
include numbered

theorem Numbered.drop (pointer : Nat) : Numbered (dropTimer pointer timers) messages where
  distinct := numbered.distinct.discard pointer
  below _ member := numbered.below _ (RecordPools.mem_discard.mp member).1

theorem Numbered.later : Numbered timers (messages + 1) where
  distinct := numbered.distinct
  below timer member := Nat.lt_succ_of_lt (numbered.below timer member)

theorem Numbered.added (contextPointer : Nat) (arrivalTime : Option Int) :
    Numbered (timers ++ [⟨messages, contextPointer, arrivalTime⟩]) (messages + 1) := by
  have parted : (⟨messages, contextPointer, arrivalTime⟩ :: timers).Perm
      (timers ++ [(⟨messages, contextPointer, arrivalTime⟩ : Timer)]) :=
    (List.perm_append_singleton _ _).symm
  constructor
  · refine Distinct.perm (Distinct.cons numbered.distinct ?_) parted
    intro _ member
    exact (numbered.below _ member).ne
  · intro _ member
    rcases List.mem_append.mp member with old | new
    · exact Nat.lt_succ_of_lt (numbered.below _ old)
    · cases List.mem_singleton.mp new
      exact Nat.lt_succ_self _

theorem Numbered.deleted
    (deleted : deleteMessage kind msg timers = .ok rest) : Numbered rest messages := by
  rcases deleteMessage_eq_ok.mp deleted with ⟨-, rfl⟩ | ⟨_, -, -, -, -, rfl⟩
  · exact numbered
  · exact numbered.drop _

end

theorem Keyed.discard (keyed : Keyed neighbourMap nodes) (node : Nat) :
    Keyed (RecordPools.discard Neighbour.node node neighbourMap) nodes where
  distinct := keyed.distinct.discard node
  keys := (List.filter_sublist.map Neighbour.nceKey).nodup keyed.keys
  below _ member := keyed.below _ (RecordPools.mem_discard.mp member).1

theorem Keyed.added (keyed : Keyed neighbourMap nodes)
    (node : nbor.node = nodes) (absent : ∀ nce ∈ neighbourMap, nce.nceKey ≠ nbor.nceKey)
    (added : all.Perm (nbor :: neighbourMap)) : Keyed all (nodes + 1) where
  distinct := by
    refine Distinct.perm (Distinct.cons keyed.distinct ?_) added.symm
    intro _ member
    rw [node]
    exact (keyed.below _ member).ne
  keys := (Distinct.cons keyed.keys absent).perm added.symm
  below := by
    intro _ member
    rcases List.mem_cons.mp (added.mem_iff.mp member) with rfl | old
    · rw [node]
      exact Nat.lt_succ_self _
    · exact Nat.lt_succ_of_lt (keyed.below _ old)

end Preserved

theorem Placed.effect (placed : Placed nd.memory)
    (effect : Effect node nd event next) : Placed next := by
  cases effect with
  | quiet => exact placed
  | detected _ _ listed _ =>
    exact {
      entries := placed.entries.put listed rfl rfl
      nudTimers := placed.nudTimers.added _ _
      arTimers := placed.arTimers.later }
  | unresolved _ _ _ _ _ blank _ _ entered =>
    exact {
      entries := by
        refine placed.entries.added ?_ ?_ entered
        · exact blank.node
        · exact blank.absent
      nudTimers := placed.nudTimers.later
      arTimers := placed.arTimers.added _ _ }
  | queued _ _ reached _ _ =>
    exact { placed with entries := placed.entries.put reached.listed rfl rfl }
  | readdressed _ _ _ _ reached _ _ _ =>
    exact {
      entries := placed.entries.put reached.listed rfl rfl
      nudTimers := placed.nudTimers.later
      arTimers := placed.arTimers.added _ _ }
  | staled _ _ _ listed _ => exact placed.storing listed rfl rfl
  | touched _ _ _ _ listed => exact placed.storing listed rfl rfl
  | reconfirmed _ _ _ confirms _ _ => exact placed.storing confirms.listed rfl rfl
  | hinted _ _ _ _ => exact { placed with nudTimers := placed.nudTimers.drop _ }
  | confirmed _ pointer _ _ _ confirms _ _ =>
    exact {
      entries := placed.entries.put confirms.listed rfl rfl
      nudTimers := placed.nudTimers.drop pointer
      arTimers := placed.arTimers }
  | resolved nce timer macAddress isRouter reachabilityState
      reachabilityExpires listed incomplete state addressed existing timed =>
      exact {
        entries := placed.entries.put listed rfl rfl
        nudTimers := placed.nudTimers
        arTimers := placed.arTimers.put _ }
  | entered _ _ blank _ added =>
    exact { placed with entries := placed.entries.added blank.node blank.absent added }
  | timedOut nce nudTimers _ deleted =>
    exact {
      entries := placed.entries.discard nce.node
      nudTimers := placed.nudTimers.deleted deleted
      arTimers := placed.arTimers }
  | probed _ nce _ _ _ _ listed _ _ =>
    exact {
      entries := placed.entries.put listed (startProbes_node nce) (startProbes_nceKey nce)
      nudTimers := placed.nudTimers.put _
      arTimers := placed.arTimers }
  | givenUp _ nce nudTimers _ _ _ _ _ _ deleted =>
    exact {
      entries := placed.entries.discard nce.node
      nudTimers := (placed.nudTimers.put _).deleted deleted
      arTimers := placed.arTimers }
  | solicitedAgain _ _ _ _ _ _ listed _ =>
    exact {
      entries := placed.entries.put listed rfl rfl
      nudTimers := placed.nudTimers
      arTimers := placed.arTimers.put _ }
  | failed _ nce nudTimers _ _ _ _ _ _ deleted =>
    exact {
      entries := placed.entries.discard nce.node
      nudTimers := placed.nudTimers.deleted deleted
      arTimers := placed.arTimers.drop _ }

end OmnetDsi.Ipv6.NeighbourEffects
