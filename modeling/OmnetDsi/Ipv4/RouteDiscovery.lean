import OmnetDsi.Autorouting.UpDownPaths
import OmnetDsi.Ipv4.DataForwarding
import OmnetDsi.Ipv4.Datagrams
import OmnetDsi.Library.Branching

/-!
# Route discovery

An edge switch that routes the first packet of a flow creates a probe for the
destination's edge switch.  Where `rt` has no route, a probe is copied to
every route of `rt1`; the last edge switch turns it around, and from there on
the recorded routers lead it back.  At the switch it came from, its record
route option is handed to `fill_routes_in_delay_load_matrix`.

The copies of a probe do not disturb each other, so a discovery is a system of
branching tokens: `Stage` says how far a copy has come, and what is served in
the network is what is served there, in any order of the copies.  The result
is one call for each shortest path to the other edge switch.
-/

namespace OmnetDsi.Ipv4.RouteDiscovery

open Library.BinaryFloat Library.Transition Contract.Addresses Ipv4.RoutingTables Ipv4.Datagrams
open Ipv4.DataForwarding Autorouting.FatTrees Autorouting.NetworkConfigurator
open Autorouting.ExtractedTopology Autorouting.AddressPlan Autorouting.ConfiguredTables
open Autorouting.StandardTree Autorouting.UpDownPaths

/-! ## Creating a probe -/

/-- What can end the simulation on the way of a probe. -/
inductive IPError where
  | wrongSourceAddress
  | nullRoute
  | recordRouteExhausted
  /-- No probe: another branch of the IP module is responsible. -/
  | otherPacket

structure IPControlInfo where
  srcAddr : IPAddress := UNSPECIFIED_ADDRESS
  destAddr : IPAddress := UNSPECIFIED_ADDRESS
  srcPort : Int := 0
  destPort : Int := 0
  flowId : Int := 0
  packetId : Int := 0
  load : Datum := .finite 0
  num_packets_for_this_path : Int := 0
  protocol : Int := 0
  timeToLive : Int := 0

def getInterfaceByAddress (node : IPNode) (addr : IPAddress) : Option InterfaceEntry :=
  if addr.isUnspecified then none else node.interfaces.find? fun ie => ie.ipAddress == addr

/-- The two hop limits of the network layer are the same. -/
def encapsulate (node : IPNode) (controlInfo : IPControlInfo) : Except IPError IPDatagram :=
  let routerId := node.rt.routerId
  let unspecified := controlInfo.srcAddr.isUnspecified
  if !unspecified && (getInterfaceByAddress node controlInfo.srcAddr).isNone then
    .error .wrongSourceAddress
  else
    .ok
      { srcAddress := if unspecified then routerId else controlInfo.srcAddr
        destAddress := controlInfo.destAddr
        load := controlInfo.load
        num_packets_for_this_path := controlInfo.num_packets_for_this_path
        destPort := controlInfo.destPort
        srcPort := controlInfo.srcPort
        transportProtocol := controlInfo.protocol
        timeToLive :=
          if controlInfo.timeToLive > 0 then controlInfo.timeToLive
          else if controlInfo.destAddr.isLinkLocalMulticast then 1
          else defaultTimeToLive
        flowId := controlInfo.flowId
        packetId := controlInfo.packetId
        recordRoute := ({} : IPRecordRouteOption).record routerId }

/-- The edge switch of a host has the same pod and switch id. -/
def edgeOf (host : IPAddress) : IPAddress :=
  .set (host.getDByte 0) 1 (host.getDByte 2) 0

def send_probe_packet (node : IPNode) (dest_host src_edge : IPAddress)
    (src_host_indx dest_host_indx : Int) : Except IPError IPDatagram :=
  encapsulate node
    { packetId := 0
      flowId := -1
      srcPort := src_host_indx
      destPort := dest_host_indx
      destAddr := edgeOf dest_host
      srcAddr := src_edge
      protocol := 1
      load := .finite 0
      num_packets_for_this_path := -1 }

theorem edgeOf_host (tree : FatTree h) (small : h ≤ 7) (pod : Fin (2 * h)) (position slot : Fin h) :
    edgeOf (address tree (.host pod position slot)) = address tree (.edge pod position) := by
  have octets := getDByte_address tree small (.host pod position slot)
  rw [edgeOf, octets.1, octets.2.2.1]
  rfl

theorem encapsulate_own (small : h ≤ 7)
    (configured : Configured tree path unset nodes) {node : Node h}
    (source : controlInfo.srcAddr = address tree node)
    (multicast : controlInfo.destAddr.isMulticast = false) (unset : controlInfo.timeToLive = 0) :
    encapsulate (nodes (tree.index node)) controlInfo =
      .ok
        { srcAddress := controlInfo.srcAddr
          destAddress := controlInfo.destAddr
          load := controlInfo.load
          num_packets_for_this_path := controlInfo.num_packets_for_this_path
          destPort := controlInfo.destPort
          srcPort := controlInfo.srcPort
          transportProtocol := controlInfo.protocol
          timeToLive := defaultTimeToLive
          flowId := controlInfo.flowId
          packetId := controlInfo.packetId
          recordRoute :=
            ({} : IPRecordRouteOption).record (address tree node) } := by
  have specified := isUnspecified_address tree small node
  have unicast := isLinkLocalMulticast_eq_false multicast
  rcases configured.owned _ with ⟨_, present, own⟩
  have owned :
      (getInterfaceByAddress (nodes (tree.index node)) (address tree node)).isNone = false := by
    rw [getInterfaceByAddress, if_neg (by simp [specified]), ← Bool.not_eq_true,
      Option.isNone_iff_eq_none, List.find?_eq_none]
    intro absent
    exact absent _ present (by simp [own])
  simp only [encapsulate, configured.routerId, source, specified, owned, unicast, unset]
  rfl

/-! ## The probe branch of `routePacket` -/

/-- A call of `fill_routes_in_delay_load_matrix`. -/
structure FillCall where
  dest_indx : Int
  aggrg_address : IPAddress
  core_address : IPAddress
  aggrg_address_downward : IPAddress
  edge_address_downward : IPAddress
  num_intrfce : Int
  src_host_indx : Int
  dest_host_indx : Int

inductive ProbeAction where
  | send (copies : List (IPRoute × IPDatagram))
  | fill (call : FillCall)

/-- `getNumInterfaces() - 2` leaves out the loopback and the controller. -/
def num_interface_for_this_node (topo : Topology) (i : Nat) : Int :=
  topo.getNumInterfaces i - 2

/--
The loop that sends a copy on every route of `rt1` but the last.  It ends at
the last route and nowhere else.
-/
def fanOut (rt1 : RoutingTable) : Nat → Nat → Except IPError (List IPRoute × Nat)
  | 0, counter => .ok ([], counter)
  | remaining + 1, counter =>
    match rt1.getRoute counter with
    | none => .error .nullRoute
    | some probe_route => do
        let (rest, last) ← fanOut rt1 remaining (counter + 1)
        return (probe_route :: rest, last)

/-- One copy for each route of `rt1`, and the counter afterwards. -/
def uplinkCopies (rt1 : RoutingTable) (counter_for_interface_table : Nat) :
    Except IPError (List IPRoute × Nat) := do
  let numRoutes := rt1.getNumRoutes
  if numRoutes ≤ counter_for_interface_table then .error .nullRoute
  else
    let (copies, last) ←
      fanOut rt1 (numRoutes - 1 - counter_for_interface_table) counter_for_interface_table
    match rt1.getRoute last with
    | none => .error .nullRoute
    | some probe_route =>
      return (copies ++ [probe_route], if last + 1 = numRoutes then 0 else last + 1)

/--
The search for the route to a recorded router, first in `rt` and then in
`rt1`.  The last route that was looked at is left when none fits.
-/
def recordedRoute (node : IPNode) (ipa : IPAddress) : Option IPRoute :=
  let routes := node.rt.routes ++ node.rt.multicastRoutes
  let routes1 := node.rt1.routes ++ node.rt1.multicastRoutes
  match routes.find? fun probe_route => ipa.equals probe_route.host with
  | some probe_route => some probe_route
  | none =>
    match routes1.find? fun probe_route => ipa.equals probe_route.host with
    | some probe_route => some probe_route
    | none => routes1.getLast? <|> routes.getLast?

/-- The way to the destination: down on one route or up on all. -/
def forwardProbe (node : IPNode) (counter_for_interface_table : Nat)
    (datagram : IPDatagram) : Except IPError (IPNode × Nat × ProbeAction) :=
  let (probe_route, rt) := node.rt.findBestMatchingRoute datagram.destAddress
  let node := { node with rt }
  match probe_route with
  | some probe_route => .ok (node, counter_for_interface_table, .send [(probe_route, datagram)])
  | none => do
      let (copies, counter) ← uplinkCopies node.rt1 counter_for_interface_table
      return (node, counter, .send (copies.map (·, datagram)))

/-- The way back: to the router recorded before this one. -/
def reverseProbe (num_interface : Int) (node : IPNode)
    (counter_for_interface_table : Nat) (datagram : IPDatagram) :
    Except IPError (IPNode × Nat × ProbeAction) :=
  let r := datagram.recordRoute
  match r.indexOf node.rt.routerId with
  | none => .error .recordRouteExhausted
  | some (k + 1) =>
    match r.getRecordAddress k with
    | none => .error .recordRouteExhausted
    | some ipa =>
      match recordedRoute node ipa with
      | none => .error .nullRoute
      | some probe_route => .ok (node, counter_for_interface_table, .send [(probe_route, datagram)])
  | some 0 =>
    match r.getRecordAddress 2, r.getRecordAddress 3,
        r.getRecordAddress 4, r.getRecordAddress 5 with
    | some aggregate_address, some core_address,
        some aggregate_address_downward, some edge_address_downward =>
        .ok (node, counter_for_interface_table,
          .fill
            { dest_indx :=
                if datagram.flowId ≠ -1 then datagram.flowId
                else
                  relative_destination_edge_index num_interface
                    datagram.srcAddress datagram.destAddress
              aggrg_address := aggregate_address
              core_address
              aggrg_address_downward := aggregate_address_downward
              edge_address_downward
              num_intrfce := num_interface
              src_host_indx := datagram.srcPort
              dest_host_indx := datagram.destPort })
    | _, _, _, _ => .error .recordRouteExhausted

/-- `routePacket` for a probe. -/
def routeProbe (num_interface : Int) (node : IPNode)
    (counter_for_interface_table : Nat) (datagram : IPDatagram) :
    Except IPError (IPNode × Nat × ProbeAction) :=
  let here := datagram.destAddress.equals node.rt.routerId
  if !here && datagram.packetId == 0 then forwardProbe node counter_for_interface_table datagram
  else if here || datagram.packetId == 1 then
    reverseProbe num_interface node counter_for_interface_table { datagram with packetId := 1 }
  else .ok (node, counter_for_interface_table, .send [])

/-! ## The network -/

/-- A probe, where it arrives, and the nodes that have served it. -/
structure Packet where
  node : Nat
  datagram : IPDatagram
  trail : List Nat

/-- A call of `fill_routes_in_delay_load_matrix` and the probe's way. -/
structure Reply where
  node : Nat
  call : FillCall
  trail : List Nat

structure Network where
  nodes : IPNodes
  counter_for_interface_table : Nat → Nat
  inFlight : List Packet
  replies : List Reply

/-- The router id is recorded and the hop counter is decremented. -/
def prerouted (routerId : IPAddress) (datagram : IPDatagram) : IPDatagram :=
  { datagram with
    recordRoute := datagram.recordRoute.record routerId
    timeToLive := datagram.timeToLive - 1 }

/-- The datagram arrives at the other end of the link, if it is sent. -/
def sendDatagramToOutput (topo : Topology) (i : Nat) (trail : List Nat)
    (copy : IPRoute × IPDatagram) : Option Packet :=
  if copy.2.timeToLive ≤ 0 then none
  else (remoteNode topo i copy.1).map fun next => ⟨next, copy.2, trail⟩

/-- What a node makes of a packet. -/
structure Served where
  node : IPNode
  counter_for_interface_table : Nat
  sent : List Packet
  replies : List Reply

/-- `handlePacketFromNetwork` for a probe without bit errors. -/
def handlePacketFromNetwork (topo : Topology) (node : IPNode)
    (counter_for_interface_table : Nat) (packet : Packet) : Except IPError Served :=
  let datagram := prerouted node.rt.routerId packet.datagram
  let trail := packet.trail ++ [packet.node]
  if datagram.destAddress.isMulticast || datagram.transportProtocol != 1 ||
      datagram.num_packets_for_this_path != -1 then
    .error .otherPacket
  else do
    let (node, counter, action) ←
      routeProbe (num_interface_for_this_node topo packet.node) node
        counter_for_interface_table datagram
    match action with
    | .send copies =>
      return ⟨node, counter, copies.filterMap (sendDatagramToOutput topo packet.node trail), []⟩
    | .fill call => return ⟨node, counter, [], [⟨packet.node, call, trail⟩]⟩

/-- Some packet in flight is served by the node it has reached. -/
inductive Step (topo : Topology) : Network → Packet → Network → Prop where
  | serve (nodes : IPNodes) (counter : Nat → Nat) (before after : List Packet)
      (packet : Packet) (replies : List Reply) {served : Served}
      (success :
        handlePacketFromNetwork topo (nodes packet.node)
          (counter packet.node) packet = .ok served) :
      Step topo ⟨nodes, counter, before ++ packet :: after, replies⟩ packet
        ⟨Function.update nodes packet.node served.node,
          Function.update counter packet.node served.counter_for_interface_table,
          before ++ after ++ served.sent, replies ++ served.replies⟩

/-- A probe has been put into the queue of node `i`. -/
def started (nodes : IPNodes) (i : Nat) (probe : IPDatagram) : Network where
  nodes
  counter_for_interface_table := fun _ => 0
  inFlight := [⟨i, probe, []⟩]
  replies := []

end OmnetDsi.Ipv4.RouteDiscovery
