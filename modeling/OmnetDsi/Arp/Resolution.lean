import Mathlib.Data.List.Nodup
import OmnetDsi.Contract.Addresses
import OmnetDsi.Library.Fallible

/-!
# Address resolution

The `ARP` module for packets that leave through broadcast interfaces: the
cache of addresses, the queue of the packets that wait for a resolution, and
the timers of the requests.

An entry of the cache has one timer exactly while its resolution is pending
(`TimersAgree`), and the entries share out the pending queue by the next hop
of the packets (`QueueAgrees`).
-/

namespace OmnetDsi.Arp.Resolution

open Contract.Addresses Function List

/-! ## Addresses, interfaces and packets -/

structure MACAddress where
  address : BitVec 48
deriving DecidableEq

def MACAddress.isUnspecified (mac : MACAddress) : Bool :=
  mac.address == 0

def unspecifiedAddress : MACAddress :=
  ⟨0⟩

def broadcastAddress : MACAddress :=
  ⟨0xFFFFFFFFFFFF#48⟩

/-- A broadcast interface. -/
structure InterfaceEntry where
  interfaceId : Nat
  networkLayerGateIndex : Nat
  macAddress : MACAddress
  ipAddress : IPAddress

inductive ARPOpcode where
  | ARP_REQUEST
  | ARP_REPLY
  | ARP_RARP_REQUEST
  | ARP_RARP_REPLY
  | other (opcode : Int)

structure ARPPacket where
  opcode : ARPOpcode
  srcMACAddress : MACAddress := unspecifiedAddress
  destMACAddress : MACAddress := unspecifiedAddress
  srcIPAddress : IPAddress := UNSPECIFIED_ADDRESS
  destIPAddress : IPAddress := UNSPECIFIED_ADDRESS

/--
A packet from the higher layer, numbered by its arrival, with the address
that is looked up for it.
-/
structure Packet where
  number : Nat
  nextHopAddr : IPAddress
deriving DecidableEq

/-- A scheduled timeout; its context pointer is the entry for an address. -/
structure Timer where
  pointer : Nat
  context : IPAddress
  arrival : Int

structure ARPCacheEntry where
  ie : InterfaceEntry
  pending : Bool := false
  macAddress : MACAddress := unspecifiedAddress
  lastUpdate : Int := 0
  numRetries : Int := 0
  timer : Option Nat := none
  pendingPackets : List Packet := []

/-- What has happened, for the packets from the higher layer. -/
inductive Record where
  | sent (packet : Packet) (gate : Nat) (dest : MACAddress)
  | multicast (packet : Packet) (gate : Nat)
  | arp (packet : ARPPacket) (gate : Nat) (dest : MACAddress)
  | learned (address : IPAddress) (mac : MACAddress)
  | dropped (packet : Packet) (numRetries : Int)

structure Parameters where
  retryTimeout : Int
  retryCount : Int
  cacheTimeout : Int
  doProxyARP : Bool

/--
The state, with the unicast packets that have been accepted and the log of
what has happened, the latest first.
-/
structure State where
  arpCache : IPAddress → Option ARPCacheEntry := fun _ => none
  pendingQueue : List Packet := []
  scheduled : List Timer := []
  timers : Nat := 0
  arrived : Nat := 0
  accepted : List Packet := []
  log : List Record := []

inductive ARPError where
  | notAnIPDatagram
  | ownMACAddressUnset
  | ownIPAddressUnset
  | sourceMACAddressEmpty
  | sourceIPAddressEmpty
  | danglingTimer
  | RARPRequest
  | RARPReply
  | unsupportedOpcode (opcode : Int)

/-! ## Requests -/

def sendARPRequest (state : State) (ie : InterfaceEntry)
    (ipAddress : IPAddress) : Except ARPError State :=
  if ie.macAddress.isUnspecified then .error .ownMACAddressUnset
  else if ie.ipAddress.isUnspecified then .error .ownIPAddressUnset
  else
    let arp : ARPPacket :=
      { opcode := .ARP_REQUEST
        srcMACAddress := ie.macAddress
        srcIPAddress := ie.ipAddress
        destIPAddress := ipAddress }
    .ok { state with log := .arp arp ie.networkLayerGateIndex broadcastAddress :: state.log }

def initiateARPResolution (parameters : Parameters) (now : Int) (state : State)
    (nextHopAddr : IPAddress) (entry : ARPCacheEntry) : Except ARPError State := do
  let state ← sendARPRequest state entry.ie nextHopAddr
  let started : ARPCacheEntry :=
    { entry with pending := true, numRetries := 0, lastUpdate := 0, timer := some state.timers }
  return { state with
    arpCache := update state.arpCache nextHopAddr (some started)
    scheduled := ⟨state.timers, nextHopAddr, now + parameters.retryTimeout⟩ :: state.scheduled
    timers := state.timers + 1 }

/-! ## Packets from the higher layer -/

structure Outbound where
  nextHopAddr : IPAddress
  destAddress : Option IPAddress
  ie : InterfaceEntry

/-- The address to look up; without a next hop it is the destination. -/
def lookupAddress (msg : Outbound) : Except ARPError IPAddress :=
  if !msg.nextHopAddr.isUnspecified then .ok msg.nextHopAddr
  else
    match msg.destAddress with
    | some destAddress => .ok destAddress
    | none => .error .notAnIPDatagram

/-- The packet waits in the queue, and with the entry for its next hop. -/
def queueUp (state : State) (packet : Packet) : State :=
  { state with
    arpCache := update state.arpCache packet.nextHopAddr
      ((state.arpCache packet.nextHopAddr).map fun entry =>
        { entry with pendingPackets := entry.pendingPackets ++ [packet] })
    pendingQueue := state.pendingQueue ++ [packet] }

def resolve (parameters : Parameters) (now : Int) (state : State)
    (ie : InterfaceEntry) (packet : Packet) : Except ARPError State :=
  match state.arpCache packet.nextHopAddr with
  | none => do
      let state ← initiateARPResolution parameters now state packet.nextHopAddr { ie }
      return queueUp state packet
  | some entry =>
    if entry.pending then .ok (queueUp state packet)
    else if entry.lastUpdate + parameters.cacheTimeout < now then do
      -- stale entry; the routing table may have changed
      let state ← initiateARPResolution parameters now state packet.nextHopAddr { entry with ie }
      return queueUp state packet
    else
      .ok { state with log := .sent packet ie.networkLayerGateIndex entry.macAddress :: state.log }

def processOutboundPacket (parameters : Parameters) (now : Int) (state : State)
    (msg : Outbound) : Except ARPError State := do
  let nextHopAddr ← lookupAddress msg
  let packet : Packet := ⟨state.arrived, nextHopAddr⟩
  let state := { state with arrived := state.arrived + 1 }
  if nextHopAddr.isMulticast then
    return { state with log := .multicast packet msg.ie.networkLayerGateIndex :: state.log }
  else resolve parameters now { state with accepted := packet :: state.accepted } msg.ie packet

/-! ## Timeouts -/

/-- The packets leave the queue one by one. -/
def drain (record : Packet → Record) (state : State) : List Packet → State
  | [] => state
  | packet :: rest =>
    drain record
      { state with
        pendingQueue := state.pendingQueue.erase packet
        log := record packet :: state.log }
      rest

def requestTimedOut (parameters : Parameters) (now : Int) (state : State)
    (selfmsg : Timer) : Except ARPError State :=
  let others := state.scheduled.filter fun timer => timer.pointer ≠ selfmsg.pointer
  match state.arpCache selfmsg.context with
  | none => .error .danglingTimer
  | some entry =>
    let numRetries := entry.numRetries + 1
    if numRetries < parameters.retryCount then do
      let state ← sendARPRequest state entry.ie selfmsg.context
      return { state with
        arpCache := update state.arpCache selfmsg.context (some { entry with numRetries })
        scheduled :=
          { selfmsg with arrival := now + parameters.retryTimeout } :: others }
    else
      .ok (drain (fun packet => .dropped packet numRetries)
        { state with arpCache := update state.arpCache selfmsg.context none, scheduled := others }
        entry.pendingPackets)

/-! ## ARP packets -/

def addressRecognized (parameters : Parameters) (isLocalAddress : Bool)
    (interfaceForDestAddr : Option Nat) (ie : InterfaceEntry) : Bool :=
  if isLocalAddress then true
  else if !parameters.doProxyARP then false
  else
    match interfaceForDestAddr with
    | none => false
    | some rtie => rtie != ie.interfaceId

/-- The entry is the one for the address, or a new one. -/
def updateARPCache (now : Int) (state : State) (address : IPAddress)
    (entry : ARPCacheEntry) (macAddress : MACAddress) : State :=
  let scheduled :=
    if entry.pending then state.scheduled.filter fun timer => some timer.pointer ≠ entry.timer
    else state.scheduled
  let idle : ARPCacheEntry :=
    if entry.pending then { entry with pending := false, timer := none, numRetries := 0 } else entry
  let updated : ARPCacheEntry := { idle with macAddress, lastUpdate := now, pendingPackets := [] }
  drain (fun packet => .sent packet entry.ie.networkLayerGateIndex macAddress)
    { state with
      arpCache := update state.arpCache address (some updated)
      scheduled
      log := .learned address macAddress :: state.log }
    entry.pendingPackets

/-- An ARP packet, and what the routing table says of its destination. -/
structure Inbound where
  arp : ARPPacket
  ie : InterfaceEntry
  isLocalAddress : Bool
  interfaceForDestAddr : Option Nat

def sendARPReply (state : State) (msg : Inbound) : State :=
  let reply : ARPPacket :=
    { opcode := .ARP_REPLY
      srcMACAddress := msg.ie.macAddress
      destMACAddress := msg.arp.srcMACAddress
      srcIPAddress := msg.arp.destIPAddress
      destIPAddress := msg.arp.srcIPAddress }
  { state with log := .arp reply msg.ie.networkLayerGateIndex msg.arp.srcMACAddress :: state.log }

def processARPPacket (parameters : Parameters) (now : Int) (state : State)
    (msg : Inbound) : Except ARPError State :=
  let srcMACAddress := msg.arp.srcMACAddress
  let srcIPAddress := msg.arp.srcIPAddress
  if srcMACAddress.isUnspecified then .error .sourceMACAddressEmpty
  else if srcIPAddress.isUnspecified then .error .sourceIPAddressEmpty
  else
    let known := state.arpCache srcIPAddress
    let merged :=
      match known with
      | some entry => updateARPCache now state srcIPAddress entry srcMACAddress
      | none => state
    if addressRecognized parameters msg.isLocalAddress msg.interfaceForDestAddr msg.ie then
      let added :=
        match known with
        | some _ => merged
        | none => updateARPCache now merged srcIPAddress { ie := msg.ie } srcMACAddress
      match msg.arp.opcode with
      | .ARP_REQUEST => .ok (sendARPReply added msg)
      | .ARP_REPLY => .ok added
      | .ARP_RARP_REQUEST => .error .RARPRequest
      | .ARP_RARP_REPLY => .error .RARPReply
      | .other opcode => .error (.unsupportedOpcode opcode)
    else .ok merged

/-! ## One timer for a pending entry -/

abbrev Cache :=
  IPAddress → Option ARPCacheEntry

/-- The timers are those of the pending entries, one each. -/
structure TimersAgree (arpCache : Cache) (scheduled : List Timer) (timers : Nat) : Prop where
  owns : ∀ address entry, arpCache address = some entry →
    entry.pending = true →
      ∃ timer ∈ scheduled, timer.context = address ∧ entry.timer = some timer.pointer
  owned : ∀ timer ∈ scheduled, ∃ entry,
    arpCache timer.context = some entry ∧ entry.pending = true ∧ entry.timer = some timer.pointer
  distinct : (scheduled.map Timer.pointer).Nodup
  past : ∀ timer ∈ scheduled, timer.pointer < timers

variable {entry : ARPCacheEntry}

namespace TimersAgree

theorem start : TimersAgree (fun _ => none) [] 0 where
  owns := by
    intro _ _ found
    cases found
  owned := by
    intro _ _
    contradiction
  distinct := nodup_nil
  past := by
    intro _ _
    contradiction

section

variable (agree : TimersAgree arpCache scheduled timers)
include agree

theorem pointer_iff (found : arpCache address = some entry) (pending : entry.pending = true)
    (member : timer ∈ scheduled) : entry.timer = some timer.pointer ↔ timer.context = address := by
  constructor
  · intro same
    rcases agree.owns _ _ found pending with ⟨_, ownMember, context, ownPointer⟩
    rw [ownPointer] at same
    have pointers := Option.some.inj same
    rw [← context]
    exact congrArg Timer.context (inj_on_of_nodup_map agree.distinct member ownMember pointers.symm)
  · rintro rfl
    rcases agree.owned _ member with ⟨_, otherFound, _, pointer⟩
    rw [found] at otherFound
    cases otherFound
    exact pointer

theorem absent_of_idle (idle : ∀ entry, arpCache address = some entry → entry.pending = false) :
    ∀ timer ∈ scheduled, timer.context ≠ address := by
  rintro _ member rfl
  rcases agree.owned _ member with ⟨_, found, pending, _⟩
  rw [idle _ found] at pending
  contradiction

theorem keep (found : arpCache address = some entry)
    (pending : changed.pending = entry.pending) (timer : changed.timer = entry.timer) :
    TimersAgree (update arpCache address (some changed)) scheduled timers where
  owns := by
    intro other _ hit isPending
    by_cases same : other = address
    · subst same
      rw [update_self] at hit
      cases hit
      rw [timer]
      exact agree.owns _ _ found (pending ▸ isPending)
    · rw [update_of_ne same] at hit
      exact agree.owns _ _ hit isPending
  owned := by
    intro alarm member
    rcases agree.owned _ member with ⟨held, hit, isPending, pointer⟩
    by_cases same : alarm.context = address
    · rw [same, found] at hit
      cases hit
      rw [same, update_self]
      exact ⟨changed, rfl, pending.trans isPending, timer.trans pointer⟩
    · rw [update_of_ne same]
      exact ⟨held, hit, isPending, pointer⟩
  distinct := agree.distinct
  past := agree.past

/-- The timer of an address is cancelled, and its entry is not pending. -/
theorem cancel (address : IPAddress) (changed : Option ARPCacheEntry)
    (idle : ∀ entry, changed = some entry → entry.pending = false) :
    TimersAgree (update arpCache address changed)
      (scheduled.filter fun timer => timer.context ≠ address) timers where
  owns := by
    intro other _ hit isPending
    by_cases same : other = address
    · subst same
      rw [update_self] at hit
      rw [idle _ hit] at isPending
      contradiction
    · rw [update_of_ne same] at hit
      rcases agree.owns _ _ hit isPending with ⟨timer, member, rfl, pointer⟩
      refine ⟨timer, ?_, rfl, pointer⟩
      exact mem_filter.mpr ⟨member, decide_eq_true same⟩
  owned := by
    intro _ member
    rw [mem_filter, decide_eq_true_eq] at member
    rw [update_of_ne member.2]
    exact agree.owned _ member.1
  distinct := agree.distinct.sublist (filter_sublist.map _)
  past := by
    intro _ member
    exact agree.past _ (mem_of_mem_filter member)

theorem schedule (timer : Timer) (entry : ARPCacheEntry)
    (free : ∀ other ∈ scheduled, other.context ≠ timer.context)
    (fresh : ∀ other ∈ scheduled, other.pointer ≠ timer.pointer)
    (old : timers ≤ later) (new : timer.pointer < later)
    (pending : entry.pending = true) (pointer : entry.timer = some timer.pointer) :
    TimersAgree (update arpCache timer.context (some entry)) (timer :: scheduled) later where
  owns := by
    intro address _ hit isPending
    by_cases same : address = timer.context
    · subst same
      rw [update_self] at hit
      cases hit
      exact ⟨timer, mem_cons_self, rfl, pointer⟩
    · rw [update_of_ne same] at hit
      rcases agree.owns _ _ hit isPending with ⟨other, member, context, own⟩
      exact ⟨other, mem_cons_of_mem _ member, context, own⟩
  owned := by
    intro _ member
    rcases mem_cons.mp member with rfl | before
    · rw [update_self]
      exact ⟨entry, rfl, pending, pointer⟩
    · rw [update_of_ne (free _ before)]
      exact agree.owned _ before
  distinct := by
    rw [map_cons, nodup_cons]
    refine ⟨?_, agree.distinct⟩
    intro member
    rcases mem_map.mp member with ⟨_, before, same⟩
    exact fresh _ before same
  past := by
    intro _ member
    rcases mem_cons.mp member with rfl | before
    · exact new
    · exact (agree.past _ before).trans_le old

/-- The timer of a pending entry, by its pointer and by its address. -/
theorem filter_pointer (found : arpCache address = some entry) (pending : entry.pending = true) :
    (scheduled.filter fun timer => some timer.pointer ≠ entry.timer) =
      scheduled.filter fun timer => timer.context ≠ address := by
  apply filter_congr
  intro _ member
  rw [decide_eq_decide, not_iff_not, ← agree.pointer_iff found pending member]
  exact eq_comm

end

end TimersAgree

/-! ## The pending queue, shared out -/

def waiting : Option ARPCacheEntry → List Packet
  | none => []
  | some entry => entry.pendingPackets

/-- The entries hold the packets of the queue for their address, in order. -/
structure QueueAgrees (arpCache : Cache) (pendingQueue : List Packet) : Prop where
  packets : ∀ address,
    waiting (arpCache address) = pendingQueue.filter fun packet => packet.nextHopAddr = address
  idle : ∀ address entry, arpCache address = some entry →
    entry.pending = false → entry.pendingPackets = []

namespace QueueAgrees

variable {arpCache : Cache} {pendingQueue : List Packet}

theorem start : QueueAgrees (fun _ => none) [] where
  packets _ := rfl
  idle := by
    intro _ _ found
    cases found

section

variable (agree : QueueAgrees arpCache pendingQueue)
include agree

theorem keep (packets : changed.pendingPackets = waiting (arpCache address))
    (pending : changed.pending = true) :
    QueueAgrees (update arpCache address (some changed)) pendingQueue where
  packets := by
    intro other
    by_cases same : other = address
    · subst same
      rwa [update_self, ← agree.packets]
    · rw [update_of_ne same]
      exact agree.packets _
  idle := by
    intro other _ hit isIdle
    by_cases same : other = address
    · subst same
      rw [update_self] at hit
      cases hit
      rw [pending] at isIdle
      contradiction
    · rw [update_of_ne same] at hit
      exact agree.idle _ _ hit isIdle

theorem push (found : arpCache packet.nextHopAddr = some entry) (pending : entry.pending = true) :
    QueueAgrees
      (update arpCache packet.nextHopAddr
        (some { entry with pendingPackets := entry.pendingPackets ++ [packet] }))
      (pendingQueue ++ [packet]) where
  packets := by
    intro address
    rw [filter_append, ← agree.packets]
    by_cases same : address = packet.nextHopAddr
    · subst same
      rw [update_self, found, filter_cons_of_pos (by simp), filter_nil]
      rfl
    · rw [update_of_ne same, filter_cons_of_neg (by simpa using Ne.symm same),
        filter_nil, append_nil]
  idle := by
    intro address _ hit isIdle
    by_cases same : address = packet.nextHopAddr
    · subst same
      rw [update_self] at hit
      cases hit
      rw [pending] at isIdle
      contradiction
    · rw [update_of_ne same] at hit
      exact agree.idle _ _ hit isIdle

theorem clear (address : IPAddress) (empty : waiting changed = []) :
    QueueAgrees (update arpCache address changed)
      (pendingQueue.filter fun packet => packet.nextHopAddr ≠ address) where
  packets := by
    intro other
    rw [filter_filter]
    by_cases same : other = address
    · subst same
      rw [update_self, empty]
      symm
      rw [filter_eq_nil_iff]
      intro _ _
      simp
    · rw [update_of_ne same, agree.packets]
      apply filter_congr
      intro packet _
      by_cases here : packet.nextHopAddr = other
      · simp [here, same]
      · simp [here]
  idle := by
    intro other _ hit isIdle
    by_cases same : other = address
    · subst same
      rw [update_self] at hit
      rwa [hit] at empty
    · rw [update_of_ne same] at hit
      exact agree.idle _ _ hit isIdle

end

end QueueAgrees

/-! ## Draining -/

/-- What draining leaves: fewer packets in the queue, and a longer log. -/
theorem drain_eq (record : Packet → Record) (state : State) (packets : List Packet) :
    drain record state packets =
      { state with
        pendingQueue := state.pendingQueue.diff packets
        log := (packets.map record).reverse ++ state.log } := by
  induction packets generalizing state with
  | nil => rfl
  | cons _ _ induction =>
    rw [drain, induction]
    simp [diff_cons]

theorem diff_filter {pendingQueue : List Packet}
    (distinct : pendingQueue.Nodup) (address : IPAddress) :
    pendingQueue.diff (pendingQueue.filter fun packet => packet.nextHopAddr = address) =
      pendingQueue.filter fun packet => packet.nextHopAddr ≠ address := by
  rw [distinct.sdiff_eq_filter]
  apply filter_congr
  intro _ member
  rw [decide_eq_decide, mem_filter, decide_eq_true_eq, not_and]
  exact ⟨fun outside => outside member, fun other _ => other⟩

end OmnetDsi.Arp.Resolution
