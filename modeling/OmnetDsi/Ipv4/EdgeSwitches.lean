import OmnetDsi.Ipv4.FutureCounts
import OmnetDsi.Ipv4.LoadRequests
import OmnetDsi.Ipv4.LoadShares
import Mathlib.Data.List.ProdSigma

/-!
# Edge switches

An edge switch keeps one table for each flow in `delay_load_matrix` and
serves what arrives: data packets towards other edge switches, replies of
probes, answers to load requests and link failures.

A data packet is routed by hash until the queue holds many packets of its
flow.  Then the loads are asked for, and when all routes and all loads are
there, the packets are shared out and the flow is routed dynamically: by the
route of least delay among those that have packets left.

A subscript outside the allocated array is a `Fault`, and so is the use of a
local variable that has not been set.
-/

namespace OmnetDsi.Ipv4.EdgeSwitches

open Contract.Addresses Library.BinaryFloat Library.Fallible Library.Transition Ipv4.RoutingTables
open Ipv4.Datagrams Ipv4.RouteDiscovery Ipv4.DelayLoadMatrix Ipv4.LoadRequests Ipv4.LoadShares
open Ipv4.FutureCounts Autorouting.NetworkConfigurator Plane

/-! ## The array of tables -/

/-- The first three subscripts: destination edge, source and host. -/
abbrev Subscript :=
  Nat × Nat × Nat

structure Matrix where
  edges : Nat
  hosts : Nat
  plane : Subscript → Plane

namespace Matrix

/-- The loops over the first three dimensions. -/
def subscripts (edges hosts : Nat) : List Subscript :=
  List.range edges ×ˢ (List.range hosts ×ˢ List.range hosts)

def locate (matrix : Matrix) (dest_indx src_host_indx dest_host_indx : Int) :
    Except Fault Subscript :=
  if (0 ≤ dest_indx ∧ dest_indx < matrix.edges) ∧
      (0 ≤ src_host_indx ∧ src_host_indx < matrix.hosts) ∧
        0 ≤ dest_host_indx ∧ dest_host_indx < matrix.hosts then
    .ok (dest_indx.toNat, src_host_indx.toNat, dest_host_indx.toNat)
  else .error .outOfBounds

def put (matrix : Matrix) (k : Subscript) (plane : Plane) : Matrix :=
  { matrix with plane := Function.update matrix.plane k plane }

@[simp]
theorem plane_put_self (matrix : Matrix) (k : Subscript) (plane : Plane) :
    (matrix.put k plane).plane k = plane :=
  Function.update_self ..

theorem plane_put_of_ne (matrix : Matrix) (plane : Plane)
    (other : j ≠ k) : (matrix.put k plane).plane j = matrix.plane j :=
  Function.update_of_ne other ..

end Matrix

/-- The allocation at the first packet of an edge switch. -/
def allocateMatrix (num_intrfce : Int)
    (unset : Subscript → Nat → Nat → Datum) : Except Fault Matrix :=
  let edges := (num_intrfce * 2).toNat
  let hosts := (num_intrfce.tdiv 2).toNat
  let rows := num_intrfce.toNat
  match updateAll (fun k _ => initialise rows (unset k))
      (Matrix.subscripts edges hosts) fun k => ⟨rows, unset k⟩ with
  | .ok plane => .ok ⟨edges, hosts, plane⟩
  | .error fault => .error fault

structure EdgeSwitch where
  node : IPNode
  delay_load_matrix : Matrix
  numForwarded_per_host : Int → Int → Nat

/-- `getNumInterfaces() - 2` leaves out the loopback and the controller. -/
def num_interface (node : IPNode) : Int :=
  (node.interfaces.length : Int) - 2

/-! ## The flow of a packet -/

structure Flow where
  relative_destination_edge_index : Int
  src_host_indx : Int
  dest_host_indx : Int
  relative_destination_host_index : Int
  num_routes : Int
  num_packets : Int

/-- What `routePacket` computes from the addresses. -/
def flowOf (num_interface : Int) (datagram : IPDatagram) : Flow :=
  let srcAddr := datagram.srcAddress
  let destAddr := datagram.destAddress
  let edge_index := Datagrams.relative_destination_edge_index num_interface srcAddr destAddr
  { relative_destination_edge_index := edge_index
    src_host_indx := (srcAddr.getDByte 3 : Int) - 1
    dest_host_indx := (destAddr.getDByte 3 : Int) - 1
    relative_destination_host_index :=
      edge_index * num_interface.tdiv 2 + destAddr.getDByte 3 - srcAddr.getDByte 3
    num_routes := num_routes_for_this_packet num_interface srcAddr destAddr
    num_packets := num_packets_obtained_for_load_estimation num_interface srcAddr destAddr }

/-- The packets in the queue with the same addresses and ports. -/
def count_pkt_in_queue (queue : List IPDatagram) (datagram : IPDatagram) : Nat :=
  queue.countP fun itrtr =>
    itrtr.destAddress.getInt == datagram.destAddress.getInt &&
      itrtr.srcAddress.getInt == datagram.srcAddress.getInt &&
      itrtr.destPort == datagram.destPort && itrtr.srcPort == datagram.srcPort

/-- `PERCENTAGE_OF_PACKET * MAX_QUEUE_SIZE`. -/
def packetThreshold : Nat :=
  100

/-! ## The selection of a route -/

structure Choice where
  min_delay : Datum := .finite 9999
  path_to_be_taken : Option Nat := none

def compareRoute (plane : Plane) (counter : Nat) (choice : Choice) : Except Fault Choice := do
  let delay ← plane.read counter 1
  let count ← plane.read counter 6
  if lt delay choice.min_delay && lt (.finite 0) count then return ⟨delay, some counter⟩
  else return choice

def selectRoute (plane : Plane) (num_routes : Int) : Except Fault Choice :=
  forLoop (compareRoute plane) num_routes.toNat {}

/-- How a data packet is forwarded. -/
inductive Forwarding where
  /-- The route of `rt1` is given by the hash of addresses and ports. -/
  | hash
  /-- The route of `rt1` is the one to the aggregate switch of a row. -/
  | dynamic (path_to_be_taken : Nat) (aggregate core : IPAddress) (re : Option IPRoute)

/-- The row of a packet that is routed dynamically. -/
def Forwarding.path : Forwarding → Option Nat
  | .hash => none
  | .dynamic path_to_be_taken _ _ _ => some path_to_be_taken

/-- The selected route is taken, and its count is decremented. -/
def forwardDynamic (node : IPNode) (num_routes : Int) (plane : Plane) :
    Except Fault (Plane × Forwarding) := do
  let choice ← selectRoute plane num_routes
  match choice.path_to_be_taken with
  | none => .error .indeterminate
  | some path_to_be_taken =>
    let aggregate ← plane.read path_to_be_taken 2
    let core ← plane.read path_to_be_taken 3
    let plane ← decrementCount plane path_to_be_taken
    let ipad := toAddress aggregate
    let routes1 := node.rt1.routes ++ node.rt1.multicastRoutes
    return (plane,
      .dynamic path_to_be_taken ipad (toAddress core)
        (routes1.find? fun rty => ipad.equals rty.host))

/-! ## A data packet -/

/-- The start time of all routes of the flow. -/
def startDelays (simTime : Datum) (num_routes : Int) (plane : Plane) : Except Fault Plane :=
  forLoop (fun c plane => plane.write c 1 (convert binary32 simTime)) num_routes.toNat plane

/-- The first packet of a host towards another one sends a probe. -/
def startFlow (node : IPNode) (first : Bool) (flow : Flow)
    (datagram : IPDatagram) (simTime : Datum) (plane : Plane) :
    Except SendFault (Plane × List IPDatagram) :=
  if first then do
    let probe ←
      (send_probe_packet node datagram.destAddress node.rt.routerId
        flow.src_host_indx flow.dest_host_indx).mapError .encapsulation
    let plane ← (startDelays simTime flow.num_routes plane).mapError .plane
    return (plane, [probe])
  else .ok (plane, [])

/-- When all routes are there, the loads are asked for, once. -/
def requestLoads (node : IPNode) (flow : Flow) (datagram : IPDatagram)
    (plane : Plane) : Except SendFault (Plane × List IPDatagram) := do
  let received ← (plane.read 2 0).mapError .plane
  let found ← (plane.read 1 0).mapError .plane
  if eq received (toFloat (-1)) && eq found (toFloat flow.num_routes) then
    let request ←
      (send_load_estimation_packet node datagram.srcAddress datagram.destAddress flow.src_host_indx
        flow.dest_host_indx).mapError .encapsulation
    let plane ← (plane.write 2 0 (toFloat 0)).mapError .plane
    return (plane, [request])
  else return (plane, [])

/-- All routes and all loads are there, and the flow is routed by hash. -/
def isComplete (flow : Flow) (plane : Plane) : Bool :=
  eq (plane.cell 1 0) (toFloat flow.num_routes) &&
    eq (plane.cell 2 0) (toFloat flow.num_packets) && eq (plane.cell 0 0) (toFloat 0)

/-- The packets are shared out and the switches are told. -/
def completeFlow (node : IPNode) (flow : Flow) (datagram : IPDatagram)
    (plane : Plane) : Except SendFault (Plane × List IPDatagram) :=
  if isComplete flow plane then do
    let plane ← (fill_delay_load_matrix plane).mapError .plane
    let counts ←
      send_future_packet_count node plane datagram.srcAddress
        datagram.destAddress flow.num_routes.toNat
    let plane ← (plane.write 0 0 (toFloat 1)).mapError .plane
    return (plane, counts)
  else .ok (plane, [])

/-- Some route or some load is missing. -/
def isMissing (flow : Flow) (plane : Plane) : Bool :=
  lt (plane.cell 1 0) (toFloat flow.num_routes) || lt (plane.cell 2 0) (toFloat flow.num_packets)

/-- What has been done for a packet before a route is selected. -/
structure Prepared where
  plane : Plane
  /-- The packet is routed dynamically. -/
  dynamic : Bool
  /-- The probes, requests and future counts that are sent. -/
  control : List IPDatagram

/-- Below the threshold nothing but the hash is used. -/
def isBelowThreshold (queue : List IPDatagram) (datagram : IPDatagram) (plane : Plane) : Bool :=
  eq (plane.cell 0 0) (toFloat 0) && decide (count_pkt_in_queue queue datagram < packetThreshold)

/-- The branch of `routePacket` for edge switches, before the selection. -/
def prepare (node : IPNode) (first : Bool) (flow : Flow)
    (datagram : IPDatagram) (queue : List IPDatagram) (simTime : Datum)
    (plane : Plane) : Except SendFault Prepared := do
  let (plane, probes) ← startFlow node first flow datagram simTime plane
  let _ ← (plane.read 0 0).mapError .plane
  if isBelowThreshold queue datagram plane then return ⟨plane, false, probes⟩
  else
    let (plane, requests) ← requestLoads node flow datagram plane
    let (plane, counts) ← completeFlow node flow datagram plane
    return ⟨plane, !isMissing flow plane, probes ++ requests ++ counts⟩

/-- The outcome for the table of the flow. -/
structure Routed where
  plane : Plane
  forwarding : Forwarding
  control : List IPDatagram

/-- The branch of `routePacket` for edge switches where `rt` has no route. -/
def routeFlow (node : IPNode) (first : Bool) (flow : Flow)
    (datagram : IPDatagram) (queue : List IPDatagram) (simTime : Datum)
    (plane : Plane) : Except SendFault Routed := do
  let prepared ← prepare node first flow datagram queue simTime plane
  if prepared.dynamic then
    let (plane, forwarding) ← (forwardDynamic node flow.num_routes prepared.plane).mapError .plane
    return ⟨plane, forwarding, prepared.control⟩
  else return ⟨prepared.plane, .hash, prepared.control⟩

/-! ## The answer to a load request -/

/-- Columns `d`, `d + 1`, ... of row `c` are searched for the switch. -/
def recordLoad (switch : Nat) (load : Datum) (plane : Plane) (c : Nat) :
    Nat → Nat → Except Fault Plane
  | 0, _ => .ok plane
  | remaining + 1, d => do
      let address ← plane.read c d
      let known ← plane.read c 7
      if eq address (toFloat switch) && le known load then plane.write c 7 load
      else recordLoad switch load plane c remaining (d + 1)

/-- The part of `route_load_packet` for the source of the request. -/
def recordLoads (switch : Nat) (load : Datum) (num_routes : Int)
    (plane : Plane) : Except Fault Plane := do
  let plane ← forLoop (fun c plane => recordLoad switch load plane c 3 2) num_routes.toNat plane
  let received ← plane.read 2 0
  plane.write 2 0 (add binary32 received (.finite 1))

/-- The destination that the request was sent for. -/
def oldDestination (datagram : IPDatagram) : IPAddress where
  addr := .ofNat 32 datagram.output_port_to_core_switch

/-- The routes that are compared with an answer. -/
def answeredRoutes (num_intrfce : Int) (datagram : IPDatagram) : Int :=
  if (oldDestination datagram).getDByte 0 ≠ datagram.srcAddress.getDByte 0
  then num_intrfce
  else num_intrfce.tdiv 2

/-! ## Serving what arrives -/

inductive Arrival where
  /-- A data packet that `rt` has no route for. -/
  | data (datagram : IPDatagram) (queue : List IPDatagram) (simTime : Datum)
  /-- The reply of a probe, as the probe branch hands it on. -/
  | probeReply (call : FillCall) (simTime : Datum)
  /-- The answer to one of the switch's own load requests. -/
  | loadReply (datagram : IPDatagram)
  | linkFailure (datagram : IPDatagram)

/-- The switch after an arrival. -/
structure Outcome where
  switch : EdgeSwitch
  /-- What becomes of a data packet, and the packets sent because of it. -/
  forwarding : Option Forwarding := none
  control : List IPDatagram := []

namespace EdgeSwitch

def withPlane (switch : EdgeSwitch) (k : Subscript) (plane : Plane) : EdgeSwitch :=
  { switch with delay_load_matrix := switch.delay_load_matrix.put k plane }

/-- One more packet of the flow. -/
def forwarded (switch : EdgeSwitch) (flow : Flow) : EdgeSwitch :=
  { switch with
    numForwarded_per_host := fun source dest =>
      if source = flow.src_host_indx ∧ dest = flow.relative_destination_host_index then
        switch.numForwarded_per_host source dest + 1
      else switch.numForwarded_per_host source dest }

/-- Nothing has been sent yet in this flow. -/
def isFirst (switch : EdgeSwitch) (flow : Flow) : Bool :=
  switch.numForwarded_per_host flow.src_host_indx flow.relative_destination_host_index == 0

def locateFlow (switch : EdgeSwitch) (flow : Flow) : Except Fault Subscript :=
  switch.delay_load_matrix.locate flow.relative_destination_edge_index
    flow.src_host_indx flow.dest_host_indx

def serveData (switch : EdgeSwitch) (datagram : IPDatagram)
    (queue : List IPDatagram) (simTime : Datum) : Except SendFault Outcome := do
  let flow := flowOf (num_interface switch.node) datagram
  let k ← (switch.locateFlow flow).mapError .plane
  let routed ←
    routeFlow switch.node (switch.isFirst flow) flow datagram queue simTime
      (switch.delay_load_matrix.plane k)
  return {
    switch := (switch.withPlane k routed.plane).forwarded flow
    forwarding := some routed.forwarding
    control := routed.control }

def serveProbeReply (switch : EdgeSwitch) (call : FillCall) (simTime : Datum) :
    Except Fault Outcome := do
  let matrix := switch.delay_load_matrix
  let k ← matrix.locate call.dest_indx call.src_host_indx call.dest_host_indx
  let plane ← fill_routes_in_delay_load_matrix simTime call (matrix.plane k)
  return { switch := switch.withPlane k plane }

def serveLoadReply (switch : EdgeSwitch) (datagram : IPDatagram) : Except Fault Outcome := do
  let matrix := switch.delay_load_matrix
  let num_intrfce := num_interface switch.node
  let edge_index :=
    Datagrams.relative_destination_edge_index num_intrfce
      datagram.srcAddress (oldDestination datagram)
  let k ← matrix.locate edge_index datagram.srcPort datagram.destPort
  let plane ←
    recordLoads datagram.destAddress.getInt datagram.load
      (answeredRoutes num_intrfce datagram) (matrix.plane k)
  return { switch := switch.withPlane k plane }

/-- `route_link_failure_packet` at an edge switch. -/
def serveLinkFailure (switch : EdgeSwitch) (datagram : IPDatagram) : Except Fault Outcome :=
  let matrix := switch.delay_load_matrix
  if switch.node.rt.routerId = datagram.srcAddress then do
    let plane ←
      updateAll (fun _ plane => withdrawRoutes datagram.destAddress.getInt plane)
        (Matrix.subscripts matrix.edges matrix.hosts) matrix.plane
    return { switch :=
      { switch with delay_load_matrix := { matrix with plane } } }
  else .ok { switch }

def serve (switch : EdgeSwitch) : Arrival → Except SendFault Outcome
  | .data datagram queue simTime => switch.serveData datagram queue simTime
  | .probeReply call simTime => (switch.serveProbeReply call simTime).mapError .plane
  | .loadReply datagram => (switch.serveLoadReply datagram).mapError .plane
  | .linkFailure datagram => (switch.serveLinkFailure datagram).mapError .plane

/-- The switch after its first packet has made it allocate the array. -/
def started (node : IPNode) (matrix : Matrix) : EdgeSwitch where
  node
  delay_load_matrix := matrix
  numForwarded_per_host _ _ := 0

end EdgeSwitch

/-- An arrival is served without a fault. -/
def Step (switch : EdgeSwitch) (arrival : Arrival) (next : EdgeSwitch) : Prop :=
  ∃ served, switch.serve arrival = .ok served ∧ served.switch = next

/-! ## What the selection finds -/

section Selecting

/-- Packets may still be sent along the route of a row. -/
def HasPackets (plane : Plane) (row : Nat) : Prop :=
  lt (.finite 0) (plane.cell row 6) = true

/-- What the loop variables say about the first rows. -/
structure Chosen (plane : Plane) (c : Nat) (choice : Choice) : Prop where
  unset : choice.path_to_be_taken = none → choice.min_delay = .finite 9999
  taken : ∀ row ∈ choice.path_to_be_taken,
    row < c ∧ HasPackets plane row ∧
      plane.cell row 1 = choice.min_delay ∧ lt choice.min_delay (.finite 9999) = true
  least : ∀ row < c, HasPackets plane row → lt (plane.cell row 1) choice.min_delay = false

theorem chosen_start (plane : Plane) : Chosen plane 0 {} := by
  constructor
  · intro _
    rfl
  · intro _ member
    cases member
  · intro _ impossible
    exact absurd impossible (Nat.not_lt_zero _)

theorem Chosen.below (chosen : Chosen plane c choice)
    (faster : lt delay choice.min_delay = true) : lt delay (.finite 9999) = true := by
  cases path : choice.path_to_be_taken with
  | none => rwa [chosen.unset path] at faster
  | some _ => exact lt_transitive faster (chosen.taken _ path).2.2.2

theorem compareRoute_chosen (chosen : Chosen plane c choice)
    (success : compareRoute plane c choice = .ok after) : Chosen plane (c + 1) after := by
  rcases bind_eq_ok.mp success with ⟨_, readDelay, later⟩
  rcases bind_eq_ok.mp later with ⟨_, readCount, later⟩
  rcases read_eq_ok.mp readDelay with ⟨_, rfl⟩
  rcases read_eq_ok.mp readCount with ⟨_, rfl⟩
  split_ifs at later with better
  · cases later
    rw [Bool.and_eq_true] at better
    constructor
    · intro impossible
      cases impossible
    · intro _ member
      cases member
      exact ⟨Nat.lt_succ_self c, better.2, rfl, chosen.below better.1⟩
    · intro _ before packets
      rw [← Bool.not_eq_true]
      intro faster
      rcases Nat.lt_succ_iff_lt_or_eq.mp before with earlier | rfl
      · have slower := chosen.least _ earlier packets
        rw [lt_transitive faster better.1] at slower
        cases slower
      · rw [lt_self] at faster
        cases faster
  · cases later
    constructor
    · exact chosen.unset
    · intro _ member
      rcases chosen.taken _ member with ⟨early, rest⟩
      exact ⟨Nat.lt_succ_of_lt early, rest⟩
    · intro _ before packets
      rcases Nat.lt_succ_iff_lt_or_eq.mp before with earlier | rfl
      · exact chosen.least _ earlier packets
      · rw [← Bool.not_eq_true]
        intro faster
        exact better (Bool.and_eq_true _ _ ▸ ⟨faster, packets⟩)

theorem selectRoute_chosen (success : selectRoute plane num_routes = .ok choice) :
    num_routes.toNat ≤ plane.rows ∧ Chosen plane num_routes.toNat choice := by
  refine forLoop_invariant (fun c choice => c ≤ plane.rows ∧ Chosen _ c choice)
    ?_ ⟨Nat.zero_le _, chosen_start _⟩ success
  intro _ _ _ _ holds step
  refine ⟨?_, compareRoute_chosen holds.2 step⟩
  rcases bind_eq_ok.mp step with ⟨_, read, _⟩
  exact (read_eq_ok.mp read).1.1

theorem selectRoute_total (inside : num_routes.toNat ≤ plane.rows) :
    ∃ choice, selectRoute plane num_routes = .ok choice := by
  have advances (c : Nat) (early : c < num_routes.toNat) (state : Choice)
      (_ : True) : ∃ after, compareRoute plane c state = .ok after ∧ True := by
    have row : c < plane.rows := early.trans_le inside
    rw [compareRoute, read_ok row (by decide), read_ok row (by decide)]
    simp only [bind, Except.bind]
    split_ifs
    all_goals exact ⟨_, rfl, trivial⟩
  rcases forLoop_total (fun _ _ => True) advances trivial with ⟨choice, success, _⟩
  exact ⟨choice, success⟩

theorem forwardDynamic_eq_ok :
    forwardDynamic node num_routes plane = .ok (next, forwarding) ↔
      ∃ choice path,
        selectRoute plane num_routes = .ok choice ∧
          choice.path_to_be_taken = some path ∧ path < plane.rows ∧ decremented plane path = next ∧
          Forwarding.dynamic path (toAddress (plane.cell path 2)) (toAddress (plane.cell path 3))
              ((node.rt1.routes ++ node.rt1.multicastRoutes).find?
                fun rty => (toAddress (plane.cell path 2)).equals rty.host) =
            forwarding := by
  rw [forwardDynamic, bind_eq_ok]
  apply exists_congr
  intro choice
  cases chosen : choice.path_to_be_taken with
  | none => simp
  | some path =>
    simp only [bind_eq_ok, read_eq_ok, decrementCount_eq_ok,
      pure, Except.pure, Except.ok.injEq, Prod.mk.injEq, Option.some.injEq]
    constructor
    · rintro ⟨selected, _, ⟨inside, rfl⟩, _, ⟨_, rfl⟩, _, ⟨_, rfl⟩, rfl, rfl⟩
      exact ⟨path, selected, rfl, inside.1, rfl, rfl⟩
    · rintro ⟨_, selected, rfl, inside, rfl, rfl⟩
      exact ⟨selected, _, ⟨⟨inside, by decide⟩, rfl⟩, _,
        ⟨⟨inside, by decide⟩, rfl⟩, _, ⟨inside, rfl⟩, rfl, rfl⟩

/-- A dynamically forwarded packet takes a route that has packets left. -/
theorem forwardDynamic_spec
    (success : forwardDynamic node num_routes plane = .ok (next, forwarding)) :
    ∃ path aggregate core re,
      forwarding = .dynamic path aggregate core re ∧
        path < num_routes.toNat ∧ HasPackets plane path ∧ next = decremented plane path := by
  rcases forwardDynamic_eq_ok.mp success with ⟨_, path, selected, chosen, _, rfl, rfl⟩
  have taken := (selectRoute_chosen selected).2.taken _ chosen
  exact ⟨path, _, _, _, rfl, taken.1, taken.2.1, rfl⟩

end Selecting

/-! ## What happens to the table of a data packet -/

section Preparing

/-- Only start times have changed. -/
structure Restarted (plane next : Plane) : Prop where
  rows : next.rows = plane.rows
  elsewhere : ∀ row col, col ≠ 1 → next.cell row col = plane.cell row col

theorem startFlow_restarted
    (success : startFlow node first flow datagram simTime plane = .ok (next, sent)) :
    Restarted plane next := by
  unfold startFlow at success
  split_ifs at success
  · rcases bind_eq_ok.mp success with ⟨_, _, later⟩
    rcases bind_eq_ok.mp later with ⟨_, loop, same⟩
    cases same
    rw [mapError_eq_ok] at loop
    refine forLoop_invariant (fun _ state => Restarted _ state) ?_ ?_ loop
    · intro _ _ _ _ holds step
      rcases write_eq_ok.mp step with ⟨_, rfl⟩
      refine ⟨holds.rows, ?_⟩
      intro _ _ other
      rw [cell_set, if_neg (fun both => other both.2)]
      exact holds.elsewhere _ _ other
    · exact ⟨rfl, fun _ _ _ => rfl⟩
  · cases success
    exact ⟨rfl, fun _ _ _ => rfl⟩

theorem requestLoads_spec (success : requestLoads node flow datagram plane = .ok (next, sent)) :
    next = plane ∨
      (plane.cell 2 0 = toFloat (-1) ∧ eq (plane.cell 1 0) (toFloat flow.num_routes) = true ∧
        next = plane.set 2 0 (toFloat 0)) := by
  rcases bind_eq_ok.mp success with ⟨_, readReceived, later⟩
  rcases bind_eq_ok.mp later with ⟨_, readFound, later⟩
  rw [mapError_eq_ok] at readReceived readFound
  rcases read_eq_ok.mp readReceived with ⟨_, rfl⟩
  rcases read_eq_ok.mp readFound with ⟨_, rfl⟩
  split_ifs at later with asking
  · rcases bind_eq_ok.mp later with ⟨_, _, later⟩
    rcases bind_eq_ok.mp later with ⟨_, write, same⟩
    cases same
    rw [mapError_eq_ok] at write
    rcases write_eq_ok.mp write with ⟨_, rfl⟩
    rw [Bool.and_eq_true] at asking
    right
    exact ⟨eq_withdrawnCount.mp asking.1, asking.2, rfl⟩
  · cases later
    exact .inl rfl

theorem completeFlow_spec (success : completeFlow node flow datagram plane = .ok (next, sent)) :
    (isComplete flow plane = false ∧ next = plane) ∨
      (isComplete flow plane = true ∧ ∃ filled,
        fill_delay_load_matrix plane = .ok filled ∧
          send_future_packet_count node filled datagram.srcAddress
              datagram.destAddress flow.num_routes.toNat = .ok sent ∧
          next = filled.set 0 0 (toFloat 1)) := by
  unfold completeFlow at success
  split_ifs at success with complete
  · rcases bind_eq_ok.mp success with ⟨filled, fill, later⟩
    rcases bind_eq_ok.mp later with ⟨_, counting, later⟩
    rcases bind_eq_ok.mp later with ⟨_, write, same⟩
    cases same
    rw [mapError_eq_ok] at fill write
    rcases write_eq_ok.mp write with ⟨_, rfl⟩
    exact .inr ⟨complete, filled, fill, counting, rfl⟩
  · cases success
    exact .inl ⟨Bool.not_eq_true _ ▸ complete, rfl⟩

/-- The stages that a packet above the threshold goes through. -/
structure Stages (node : IPNode) (first : Bool) (flow : Flow)
    (datagram : IPDatagram) (simTime : Datum) (plane : Plane) (prepared : Prepared) where
  started : Plane
  probes : List IPDatagram
  requested : Plane
  requests : List IPDatagram
  counts : List IPDatagram
  starting : startFlow node first flow datagram simTime plane = .ok (started, probes)
  requesting : requestLoads node flow datagram started = .ok (requested, requests)
  completing : completeFlow node flow datagram requested = .ok (prepared.plane, counts)
  dynamic : prepared.dynamic = !isMissing flow prepared.plane
  control : prepared.control = probes ++ requests ++ counts

theorem prepare_cases
    (success : prepare node first flow datagram queue simTime plane = .ok prepared) :
    (∃ started probes,
        startFlow node first flow datagram simTime plane = .ok (started, probes) ∧
          isBelowThreshold queue datagram started = true ∧ prepared = ⟨started, false, probes⟩) ∨
      ∃ stages : Stages node first flow datagram simTime plane prepared,
        isBelowThreshold queue datagram stages.started = false := by
  rcases bind_eq_ok.mp success with ⟨⟨started, probes⟩, starting, later⟩
  rcases bind_eq_ok.mp later with ⟨_, _, later⟩
  split_ifs at later with below
  · cases later
    exact .inl ⟨started, probes, starting, below, rfl⟩
  · rcases bind_eq_ok.mp later with ⟨⟨requested, requests⟩, asking, later⟩
    rcases bind_eq_ok.mp later with ⟨⟨_, counts⟩, filling, same⟩
    cases same
    right
    exact ⟨⟨started, probes, requested, requests, counts, starting, asking,
      filling, rfl, rfl⟩, Bool.not_eq_true _ ▸ below⟩

theorem routeFlow_cases
    (success : routeFlow node first flow datagram queue simTime plane = .ok routed) :
    ∃ prepared,
      prepare node first flow datagram queue simTime plane = .ok prepared ∧
        routed.control = prepared.control ∧
        ((prepared.dynamic = false ∧ routed.plane = prepared.plane ∧ routed.forwarding = .hash) ∨
          (prepared.dynamic = true ∧
            forwardDynamic node flow.num_routes prepared.plane =
              .ok (routed.plane, routed.forwarding))) := by
  rcases bind_eq_ok.mp success with ⟨prepared, preparing, later⟩
  refine ⟨prepared, preparing, ?_⟩
  split_ifs at later with dynamic
  · rcases bind_eq_ok.mp later with ⟨⟨_, _⟩, taken, same⟩
    cases same
    rw [mapError_eq_ok] at taken
    exact ⟨rfl, .inr ⟨dynamic, taken⟩⟩
  · cases later
    exact ⟨rfl, .inl ⟨Bool.not_eq_true _ ▸ dynamic, rfl, rfl⟩⟩

end Preparing

/-! ## What an answer changes -/

section Answering

theorem recordLoad_spec (success : recordLoad switch load plane c remaining d = .ok next) :
    (next = plane.set c 7 load ∧ le (plane.cell c 7) load = true ∧
        ∃ col, d ≤ col ∧ col < d + remaining ∧ eq (plane.cell c col) (toFloat switch) = true) ∨
      (next = plane ∧
        ∀ col, d ≤ col → col < d + remaining →
          eq (plane.cell c col) (toFloat switch) = true → le (plane.cell c 7) load = false) := by
  induction remaining generalizing d with
  | zero =>
    cases success
    right
    refine ⟨rfl, ?_⟩
    omega
  | succ _ induction =>
    rcases bind_eq_ok.mp success with ⟨_, readAddress, later⟩
    rcases bind_eq_ok.mp later with ⟨_, readKnown, later⟩
    rcases read_eq_ok.mp readAddress with ⟨_, rfl⟩
    rcases read_eq_ok.mp readKnown with ⟨_, rfl⟩
    split_ifs at later with raised
    · rw [Bool.and_eq_true] at raised
      rcases write_eq_ok.mp later with ⟨_, rfl⟩
      left
      exact ⟨rfl, raised.2, d, le_rfl, by omega, raised.1⟩
    · rcases induction later with ⟨rfl, lower, col, low, _, same⟩ | rest
      · left
        exact ⟨rfl, lower, col, by omega, by omega, same⟩
      · right
        refine ⟨rest.1, ?_⟩
        intro _ low _ same
        rcases eq_or_lt_of_le low with rfl | later
        · rw [← Bool.not_eq_true]
          intro lower
          exact raised (Bool.and_eq_true _ _ ▸ ⟨same, lower⟩)
        · exact rest.2 _ later (by omega) same

/-- Only loads and the number of answers have changed. -/
structure Answered (plane next : Plane) : Prop where
  rows : next.rows = plane.rows
  elsewhere : ∀ row col, col ≠ 7 → ¬(row = 2 ∧ col = 0) → next.cell row col = plane.cell row col

theorem recordLoads_answered
    (success : recordLoads switch load num_routes plane = .ok next) : Answered plane next := by
  rcases bind_eq_ok.mp success with ⟨recorded, loop, later⟩
  rcases bind_eq_ok.mp later with ⟨_, _, write⟩
  rcases write_eq_ok.mp write with ⟨_, rfl⟩
  have same :
      recorded.rows = plane.rows ∧
        ∀ row col, col ≠ 7 → recorded.cell row col = plane.cell row col := by
    refine forLoop_invariant
      (fun _ state =>
        state.rows = plane.rows ∧ ∀ row col, col ≠ 7 → state.cell row col = plane.cell row col)
      ?_ ⟨rfl, fun _ _ _ => rfl⟩ loop
    intro _ _ _ _ holds step
    rcases recordLoad_spec step with ⟨rfl, _⟩ | ⟨rfl, _⟩
    · refine ⟨holds.1, ?_⟩
      intro _ _ other
      rw [cell_set, if_neg (fun both => other both.2)]
      exact holds.2 _ _ other
    · exact holds
  refine ⟨same.1, ?_⟩
  intro _ _ other elsewhere
  rw [cell_set, if_neg elsewhere]
  exact same.2 _ _ other

end Answering

/-! ## What an arrival does to the array -/

section Serving

variable {switch : EdgeSwitch}

/-- A subscript inside the allocated dimensions. -/
def Matrix.Inside (matrix : Matrix) (k : Subscript) : Prop :=
  k.1 < matrix.edges ∧ k.2.1 < matrix.hosts ∧ k.2.2 < matrix.hosts

theorem mem_subscripts :
    k ∈ Matrix.subscripts edges hosts ↔ k.1 < edges ∧ k.2.1 < hosts ∧ k.2.2 < hosts := by
  rcases k with ⟨_, _, _⟩
  simp [Matrix.subscripts]

theorem subscripts_nodup (edges hosts : Nat) : (Matrix.subscripts edges hosts).Nodup := by
  apply List.Nodup.product List.nodup_range
  exact List.Nodup.product List.nodup_range List.nodup_range

theorem four_rows {rows : Nat} (success : initialise rows unset = .ok plane) : 4 ≤ rows := by
  simp [initialise, initialValues, bind_eq_ok, write_eq_ok, columns] at success
  omega

theorem allocateMatrix_spec (success : allocateMatrix num_intrfce unset = .ok matrix) :
    matrix.edges = (num_intrfce * 2).toNat ∧ matrix.hosts = (num_intrfce.tdiv 2).toNat ∧
      ∀ k, matrix.Inside k → initialise num_intrfce.toNat (unset k) = .ok (matrix.plane k) := by
  dsimp only [allocateMatrix] at success
  cases updated : updateAll (fun k _ => initialise num_intrfce.toNat (unset k))
      (Matrix.subscripts (num_intrfce * 2).toNat (num_intrfce.tdiv 2).toNat)
      (fun k => ⟨num_intrfce.toNat, unset k⟩) with
  | error _ =>
    rw [updated] at success
    cases success
  | ok _ =>
    rw [updated] at success
    cases success
    refine ⟨rfl, rfl, ?_⟩
    intro k inside
    exact (updateAll_eq_ok (subscripts_nodup _ _) updated).1 k (mem_subscripts.mpr inside)

theorem locate_eq_ok {matrix : Matrix} :
    matrix.locate dest source host = .ok k ↔
      matrix.Inside k ∧ dest = k.1 ∧ source = k.2.1 ∧ host = k.2.2 := by
  rcases k with ⟨_, _, _⟩
  unfold Matrix.locate Matrix.Inside
  split_ifs with inside
  · simp only [Except.ok.injEq, Prod.mk.injEq]
    omega
  · simp only [false_iff]
    omega

theorem serveData_eq_ok :
    switch.serveData datagram queue simTime = .ok served ↔
      ∃ k routed,
        switch.locateFlow (flowOf (num_interface switch.node) datagram) = .ok k ∧
          routeFlow switch.node (switch.isFirst (flowOf (num_interface switch.node) datagram))
              (flowOf (num_interface switch.node) datagram) datagram queue
              simTime (switch.delay_load_matrix.plane k) = .ok routed ∧
          { switch := (switch.withPlane k routed.plane).forwarded
              (flowOf (num_interface switch.node) datagram)
            forwarding := some routed.forwarding
            control := routed.control } = served := by
  rw [EdgeSwitch.serveData, bind_eq_ok]
  apply exists_congr
  intro _
  rw [mapError_eq_ok, bind_eq_ok]
  simp only [pure, Except.pure, Except.ok.injEq]
  constructor
  · rintro ⟨located, routed, routing, same⟩
    exact ⟨routed, located, routing, same⟩
  · rintro ⟨routed, located, routing, same⟩
    exact ⟨located, routed, routing, same⟩

theorem serveProbeReply_eq_ok :
    switch.serveProbeReply call simTime = .ok served ↔
      ∃ k plane,
        switch.delay_load_matrix.locate call.dest_indx call.src_host_indx
            call.dest_host_indx = .ok k ∧
          fill_routes_in_delay_load_matrix simTime call
              (switch.delay_load_matrix.plane k) = .ok plane ∧
          { switch := switch.withPlane k plane } = served := by
  rw [EdgeSwitch.serveProbeReply, bind_eq_ok]
  apply exists_congr
  intro _
  rw [bind_eq_ok]
  simp only [pure, Except.pure, Except.ok.injEq]
  constructor
  · rintro ⟨located, plane, filled, same⟩
    exact ⟨plane, located, filled, same⟩
  · rintro ⟨plane, located, filled, same⟩
    exact ⟨located, plane, filled, same⟩

/-- The relative edge index for which a request was sent. -/
def answeredIndex (node : IPNode) (datagram : IPDatagram) : Int :=
  Datagrams.relative_destination_edge_index (num_interface node)
    datagram.srcAddress (oldDestination datagram)

theorem serveLoadReply_eq_ok :
    switch.serveLoadReply datagram = .ok served ↔
      ∃ k plane,
        switch.delay_load_matrix.locate (answeredIndex switch.node datagram) datagram.srcPort
            datagram.destPort = .ok k ∧
          recordLoads datagram.destAddress.getInt datagram.load
              (answeredRoutes (num_interface switch.node) datagram)
              (switch.delay_load_matrix.plane k) = .ok plane ∧
          { switch := switch.withPlane k plane } = served := by
  rw [EdgeSwitch.serveLoadReply, bind_eq_ok]
  apply exists_congr
  intro _
  rw [bind_eq_ok]
  simp only [pure, Except.pure, Except.ok.injEq]
  constructor
  · rintro ⟨located, plane, recorded, same⟩
    exact ⟨plane, located, recorded, same⟩
  · rintro ⟨plane, located, recorded, same⟩
    exact ⟨located, plane, recorded, same⟩

theorem serveLinkFailure_spec (success : switch.serveLinkFailure datagram = .ok served) :
    (switch.node.rt.routerId ≠ datagram.srcAddress ∧ served = { switch }) ∨
      (switch.node.rt.routerId = datagram.srcAddress ∧
        ∃ plane : Subscript → Plane,
          (∀ k, switch.delay_load_matrix.Inside k →
            withdrawRoutes datagram.destAddress.getInt
              (switch.delay_load_matrix.plane k) = .ok (plane k)) ∧
          served = { switch :=
            { switch with
              delay_load_matrix :=
                { switch.delay_load_matrix with plane } } }) := by
  unfold EdgeSwitch.serveLinkFailure at success
  split_ifs at success with own
  · rcases bind_eq_ok.mp success with ⟨plane, updated, same⟩
    cases same
    right
    refine ⟨own, plane, ?_, rfl⟩
    intro k inside
    exact (updateAll_eq_ok (subscripts_nodup _ _) updated).1 k (mem_subscripts.mpr inside)
  · cases success
    exact .inl ⟨own, rfl⟩

/-- The array after an arrival, with the operation on the tables. -/
structure Kept (switch next : EdgeSwitch) : Prop where
  node : next.node = switch.node
  edges : next.delay_load_matrix.edges = switch.delay_load_matrix.edges
  hosts : next.delay_load_matrix.hosts = switch.delay_load_matrix.hosts

theorem Kept.inside (kept : Kept switch next) :
    next.delay_load_matrix.Inside k ↔ switch.delay_load_matrix.Inside k := by
  unfold Matrix.Inside
  rw [kept.edges, kept.hosts]

theorem serve_kept (success : switch.serve arrival = .ok served) : Kept switch served.switch := by
  cases arrival with
  | data _ _ _ =>
    rcases serveData_eq_ok.mp success with ⟨_, _, _, _, rfl⟩
    exact ⟨rfl, rfl, rfl⟩
  | probeReply _ _ =>
    rcases serveProbeReply_eq_ok.mp (mapError_eq_ok.mp success) with ⟨_, _, _, _, rfl⟩
    exact ⟨rfl, rfl, rfl⟩
  | loadReply _ =>
    rcases serveLoadReply_eq_ok.mp (mapError_eq_ok.mp success) with ⟨_, _, _, _, rfl⟩
    exact ⟨rfl, rfl, rfl⟩
  | linkFailure _ =>
    rcases serveLinkFailure_spec (mapError_eq_ok.mp success) with ⟨_, rfl⟩ | ⟨_, _, _, rfl⟩
    all_goals exact ⟨rfl, rfl, rfl⟩

end Serving

/-! ## Runs -/

/-- The arrivals are served one after the other. -/
def serveAll (switch : EdgeSwitch) (arrivals : List Arrival) : Except SendFault EdgeSwitch :=
  arrivals.foldlM (fun switch arrival => Outcome.switch <$> switch.serve arrival) switch

theorem run_of_serveAll (success : serveAll switch arrivals = .ok next) :
    Run Step switch arrivals next := by
  apply (Run.of_foldlM success).mono
  intro _ _ _ step
  exact map_eq_ok.mp step

theorem run_kept (run : Run Step switch arrivals next) : Kept switch next := by
  induction run with
  | idle _ => exact ⟨rfl, rfl, rfl⟩
  | next head _ induction =>
    rcases head with ⟨_, success, rfl⟩
    have kept := serve_kept success
    exact ⟨induction.node.trans kept.node,
      induction.edges.trans kept.edges, induction.hosts.trans kept.hosts⟩

/-! ## A switch of four ports -/

def sampleEdge : IPAddress :=
  .set 10 1 13 0

def sampleAggregate (above : Int) : IPAddress :=
  .set 10 2 (5 + above) 0

/-- An edge switch with two aggregate switches above it. -/
def sampleNode : IPNode where
  interfaces := List.replicate 6 ⟨false, sampleEdge, ALLONES_ADDRESS⟩
  rt := { routerId := sampleEdge }
  rt1 :=
    { routerId := sampleEdge
      routes :=
        [{ host := sampleAggregate 0 }, { host := sampleAggregate 1 }] }

/-- A packet to a host at the other edge switch of the pod. -/
def sampleData : IPDatagram where
  srcAddress := .set 10 0 13 1
  destAddress := .set 10 0 14 1
  transportProtocol := 17

/-- A packet that finds a hundred others of its flow in the queue. -/
def sampleBusy : Arrival :=
  .data sampleData (List.replicate 100 sampleData) (.finite 2)

/-- The probe's reply for the route over one of the aggregate switches. -/
def sampleReply (above : Int) : FillCall where
  dest_indx := 1
  aggrg_address := sampleAggregate above
  core_address := .set 10 1 14 0
  aggrg_address_downward := sampleAggregate above
  edge_address_downward := sampleEdge
  num_intrfce := 4
  src_host_indx := 0
  dest_host_indx := 0

/-- An aggregate switch answers with the load one. -/
def sampleAnswer (above : Int) : IPDatagram where
  srcAddress := sampleEdge
  destAddress := sampleAggregate above
  load := .finite 1
  output_port_to_core_switch := (IPAddress.set 10 1 14 0).getInt
  transportProtocol := 46

/-- Both routes are found and both loads are answered. -/
def sampleArrivals : List Arrival :=
  [.data sampleData [] (.finite 0), .probeReply (sampleReply 0) (.finite 1),
    .probeReply (sampleReply 1) (.finite 1), sampleBusy,
    .loadReply (sampleAnswer 0), .loadReply (sampleAnswer 1)]

def sampleUnset : Subscript → Nat → Nat → Datum :=
  fun _ _ _ => .nan

/-- A test of the switch after its array and some arrivals. -/
def sampleTest (arrivals : List Arrival) (test : EdgeSwitch → Bool) : Bool :=
  succeedsWith (allocateMatrix (num_interface sampleNode) sampleUnset)
    fun matrix => succeedsWith (serveAll (.started sampleNode matrix) arrivals) test

theorem sampleTest_run (passed : sampleTest arrivals test = true) :
    ∃ matrix switch,
      allocateMatrix (num_interface sampleNode) sampleUnset = .ok matrix ∧
        Run Step (.started sampleNode matrix) arrivals switch ∧ test switch = true := by
  rcases succeedsWith_iff.mp passed with ⟨matrix, allocation, later⟩
  rcases succeedsWith_iff.mp later with ⟨switch, success, tested⟩
  exact ⟨matrix, switch, allocation, run_of_serveAll success, tested⟩

end OmnetDsi.Ipv4.EdgeSwitches
