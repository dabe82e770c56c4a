import OmnetDsi.Ipv4.RouteDiscovery

/-!
# The copies of a probe

A copy of a probe in a configured fat tree is determined by the nodes that
have served it and the node it arrives at (`Discovery.copyAt`).  The lemmas
say what a node makes of a copy: down on the one matching route
(`serves_down`), up on all routes of `rt1` (`serves_up`), back to the node
recorded before (`serves_back`), and at the source edge switch a reply
(`serves_home`).
-/

namespace OmnetDsi.Ipv4.ProbeCopies

open Contract.Addresses Ipv4.RoutingTables Ipv4.Datagrams Ipv4.DataForwarding Ipv4.RouteDiscovery
open Autorouting.FatTrees Autorouting.NetworkConfigurator Autorouting.ExtractedTopology
open Autorouting.AddressPlan Autorouting.ConfiguredTables Autorouting.UpDownPaths List

/-! ## Routes of one node -/

theorem neighboursIn_edge_eq (pod : Fin (2 * h)) (position : Fin h) :
    neighboursIn (.edge pod position) .rt1 = (finRange h).map (.aggregate pod) := by
  simp [neighboursIn, neighbours, filter_append, filter_map, Function.comp_def, kind]

theorem neighboursIn_aggregate_eq (pod : Fin (2 * h)) (position : Fin h) :
    neighboursIn (.aggregate pod position) .rt1 = (finRange h).map (.core position) := by
  simp [neighboursIn, neighbours, filter_append, filter_map, Function.comp_def, kind]

section Node

variable {tree : FatTree h}

theorem allRoutes_eq (configured : Configured tree path unset nodes) (switch : own.isHost = false) :
    (nodes (tree.index own)).rt.routes ++ (nodes (tree.index own)).rt.multicastRoutes =
      tableRoutes tree path unset own .rt ∧
    (nodes (tree.index own)).rt1.routes ++ (nodes (tree.index own)).rt1.multicastRoutes =
      tableRoutes tree path unset own .rt1 := by
  rw [(configured.multicast _).1, (configured.multicast _).2,
    configured.rt, configured.rt1, rtRoutes, rt1Routes]
  simp [switch]

/-- A route of a table whose host is the address of a node leads there. -/
theorem find_leads (small : h ≤ 7) (positive : 0 < h) (paths : ShortestPaths tree.topo path)
    (found :
      (tableRoutes tree path unset own table).find?
        (fun route => (address tree target).equals route.host) = some e) :
    remoteNode tree.topo (tree.index own) e = some (tree.index target) := by
  have host := find?_some found
  rw [equals_iff] at host
  rcases (mem_tableRoutes positive).mp (mem_of_find?_eq_some found)
    with ⟨neighbour, linked, netmask, link, _, direct, rfl⟩
  have same : target = neighbour := address_injective _ small host
  subst same
  exact remoteNode_routeTo paths linked direct _

theorem recordedRoute_leads (small : h ≤ 7) (positive : 0 < h)
    (paths : ShortestPaths tree.topo path) (configured : Configured tree path unset nodes)
    (switch : own.isHost = false) (linked : target ∈ neighbours own)
    (routed : (kind own target).isSome) :
    ∃ e, recordedRoute (nodes (tree.index own)) (address tree target) = some e ∧
      remoteNode tree.topo (tree.index own) e = some (tree.index target) := by
  dsimp only [recordedRoute]
  rw [(allRoutes_eq configured switch).1, (allRoutes_eq configured switch).2]
  rcases Option.isSome_iff_exists.mp routed with ⟨⟨table, netmask⟩, role⟩
  rcases paths.direct _ _ (tree.index_mem_links.mpr linked) with ⟨link, direct, _⟩
  have member : routeTo tree target netmask link ∈ tableRoutes tree path unset own table :=
    (mem_tableRoutes positive).mpr ⟨target, linked, netmask, link, role, direct, rfl⟩
  have present :
      ((tableRoutes tree path unset own table).find?
        fun route => (address tree target).equals route.host).isSome := by
    rw [find?_isSome]
    exact ⟨_, member, (equals_iff _ _).mpr rfl⟩
  cases first : (tableRoutes tree path unset own .rt).find?
      fun route => (address tree target).equals route.host with
  | some e => exact ⟨e, rfl, find_leads small positive paths first⟩
  | none =>
    cases table with
    | rt => rw [first] at present; contradiction
    | rt1 =>
      rcases Option.isSome_iff_exists.mp present with ⟨e, second⟩
      rw [second]
      exact ⟨e, rfl, find_leads small positive paths second⟩

/-! ## The loop over the uplinks -/

theorem fanOut_eq (inside : counter + remaining ≤ rt1.getNumRoutes) :
    fanOut rt1 remaining counter =
      .ok (((rt1.routes ++ rt1.multicastRoutes).drop counter).take
        remaining, counter + remaining) := by
  induction remaining generalizing counter with
  | zero => simp [fanOut]
  | succ _ induction =>
    have present : counter < (rt1.routes ++ rt1.multicastRoutes).length := by
      rw [length_append]
      unfold RoutingTable.getNumRoutes at inside
      omega
    have rest := @induction (counter + 1) (by omega)
    rw [fanOut, RoutingTable.getRoute, getElem?_eq_getElem, rest, drop_eq_getElem_cons present,
      take_succ_cons, Nat.add_right_comm _ 1]
    rfl

/-- A probe goes out on every route of `rt1`, and the counter is reset. -/
theorem uplinkCopies_eq (uplinked : 0 < rt1.getNumRoutes) :
    uplinkCopies rt1 0 = .ok (rt1.routes ++ rt1.multicastRoutes, 0) := by
  have count : (rt1.routes ++ rt1.multicastRoutes).length = rt1.getNumRoutes := by
    rw [length_append]
    rfl
  have last : rt1.getNumRoutes - 1 < (rt1.routes ++ rt1.multicastRoutes).length := by omega
  have found : rt1.getRoute (0 + (rt1.getNumRoutes - 1 - 0)) =
      some (rt1.routes ++ rt1.multicastRoutes)[rt1.getNumRoutes - 1] := by
    rw [Nat.sub_zero, Nat.zero_add, RoutingTable.getRoute, getElem?_eq_getElem]
  rw [uplinkCopies, if_neg (by omega), fanOut_eq (by omega)]
  dsimp only [bind, Except.bind]
  rw [found]
  dsimp only
  rw [Nat.sub_zero, Nat.zero_add, if_pos (by omega), drop_zero,
    take_concat_get', take_of_length_le (by omega)]
  rfl

end Node

/-! ## The copies of a probe -/

/-- A flow between hosts of two edge switches. -/
structure Discovery (h : Nat) where
  sourcePod : Fin (2 * h)
  sourceEdge : Fin h
  destPod : Fin (2 * h)
  destEdge : Fin h
  src_host_indx : Int
  dest_host_indx : Int
  different : Node.edge sourcePod sourceEdge ≠ .edge destPod destEdge

namespace Discovery

variable (discovery : Discovery h) (tree : FatTree h)

def source : Node h :=
  .edge discovery.sourcePod discovery.sourceEdge

def dest : Node h :=
  .edge discovery.destPod discovery.destEdge

/-- The datagram after the nodes `visited` have served it. -/
def datagramAfter (visited : List (Node h)) : IPDatagram where
  srcAddress := address tree discovery.source
  destAddress := address tree discovery.dest
  num_packets_for_this_path := -1
  destPort := discovery.dest_host_indx
  srcPort := discovery.src_host_indx
  transportProtocol := 1
  timeToLive := defaultTimeToLive - visited.length
  flowId := -1
  packetId := if discovery.dest ∈ visited then 1 else 0
  recordRoute := recorded ((discovery.source :: visited).map (address tree))

/-- The copy that has visited some nodes and arrives at another. -/
def copyAt (visited : List (Node h)) (node : Node h) : Packet where
  node := tree.index node
  datagram := discovery.datagramAfter tree visited
  trail := visited.map tree.index

/-- The way along a route to its end and back. -/
def walk (route : List (Node h)) : List (Node h) :=
  route ++ route.reverse.tail

/-- The address recorded `k` nodes after the source edge switch. -/
def recordedAddress (route : List (Node h)) (k : Nat) : IPAddress :=
  ((walk route).map (address tree)).getD k UNSPECIFIED_ADDRESS

/-- The reply for one route. -/
def reply (route : List (Node h)) : Reply where
  node := tree.index discovery.source
  call :=
    { dest_indx :=
        relative_destination_edge_index (2 * h : Nat)
          (address tree discovery.source) (address tree discovery.dest)
      aggrg_address := recordedAddress tree route 1
      core_address := recordedAddress tree route 2
      aggrg_address_downward := recordedAddress tree route 3
      edge_address_downward := recordedAddress tree route 4
      num_intrfce := (2 * h : Nat)
      src_host_indx := discovery.src_host_indx
      dest_host_indx := discovery.dest_host_indx }
  trail := (walk route).map tree.index

/-- The shortest paths between the two edge switches. -/
def routes : List (List (Node h)) :=
  Autorouting.UpDownPaths.routes discovery.sourcePod discovery.sourceEdge
    discovery.destPod discovery.destEdge

def routesVia (above : Fin h) : List (List (Node h)) :=
  Autorouting.UpDownPaths.routesVia discovery.sourcePod discovery.sourceEdge
    discovery.destPod discovery.destEdge above

section Serving

variable {discovery : Discovery h} {tree : FatTree h}

/-- A node serves a packet; the network stays configured. -/
def Serves (tree : FatTree h) (path : Nat → Nat → Option Nat)
    (unset : Indeterminate) (nodes : IPNodes) (packet : Packet)
    (sent : List Packet) (replies : List Reply) : Prop :=
  ∃ node,
    handlePacketFromNetwork tree.topo (nodes packet.node) 0 packet = .ok ⟨node, 0, sent, replies⟩ ∧
    Configured tree path unset (Function.update nodes packet.node node)

/-! ## What a node makes of a copy -/

theorem prerouted_datagramAfter (visited : List (Node h)) (node : Node h) :
    prerouted (address tree node) (discovery.datagramAfter tree visited) =
      { discovery.datagramAfter tree (visited ++ [node]) with
        packetId := if discovery.dest ∈ visited then 1 else 0 } := by
  simp only [prerouted, datagramAfter, record_recorded]
  congr 1
  · simp
    omega
  · simp

theorem prerouted_elsewhere (elsewhere : node ≠ discovery.dest) :
    prerouted (address tree node) (discovery.datagramAfter tree visited) =
      discovery.datagramAfter tree (visited ++ [node]) := by
  rw [prerouted_datagramAfter]
  simp [datagramAfter, elsewhere.symm]

theorem num_interface_eq (tree : FatTree h) (pod : Fin (2 * h)) (position : Fin h) :
    num_interface_for_this_node tree.topo (tree.index (.edge pod position)) = (2 * h : Nat) := by
  have links := tree.links_length (.edge pod position)
  simp [num_interface_for_this_node, Topology.getNumInterfaces, links, neighbours]
  omega

theorem handlePacketFromNetwork_eq (small : h ≤ 7)
    (configured : Configured tree path unset nodes) (visited : List (Node h)) (node : Node h) :
    handlePacketFromNetwork tree.topo (nodes (tree.index node)) 0
        (discovery.copyAt tree visited node) =
      (do
        let (next, counter, action) ←
          routeProbe (num_interface_for_this_node tree.topo (tree.index node))
            (nodes (tree.index node)) 0
            (prerouted (address tree node) (discovery.datagramAfter tree visited))
        match action with
        | .send copies =>
          return ⟨next, counter,
            copies.filterMap
              (sendDatagramToOutput tree.topo (tree.index node)
                ((visited ++ [node]).map tree.index)), []⟩
        | .fill call =>
          return ⟨next, counter, [],
            [⟨tree.index node, call, (visited ++ [node]).map tree.index⟩]⟩) := by
  have unicast := isMulticast_address tree small discovery.dest
  have trail :
      (visited ++ [node]).map tree.index = visited.map tree.index ++ [tree.index node] := by
    rw [map_append, map_singleton]
  rw [trail]
  simp only [handlePacketFromNetwork, copyAt, configured.routerId]
  exact if_neg (by simp [prerouted, datagramAfter, unicast])

theorem sendDatagramToOutput_eq (short : visited.length < 31) (e : IPRoute) :
    sendDatagramToOutput tree.topo (tree.index node) ((visited ++ [node]).map tree.index)
        (e, discovery.datagramAfter tree (visited ++ [node])) =
      (remoteNode tree.topo (tree.index node) e).map fun next =>
        ⟨next, discovery.datagramAfter tree (visited ++ [node]),
          (visited ++ [node]).map tree.index⟩ := by
  rw [sendDatagramToOutput, if_neg]
  simp [datagramAfter, defaultTimeToLive]
  omega

theorem routeProbe_forward (small : h ≤ 7)
    (configured : Configured tree path unset nodes) (switch : node.isHost = false)
    (elsewhere : node ≠ discovery.dest) (onward : discovery.dest ∉ visited) (num_interface : Int) :
    routeProbe num_interface (nodes (tree.index node)) 0
        (discovery.datagramAfter tree (visited ++ [node])) =
      let next :=
        { nodes (tree.index node) with
          rt := ((nodes (tree.index node)).rt.findBestMatchingRoute
            (address tree discovery.dest)).2 }
      match RoutingTable.bestRoute (tableRoutes tree path unset node .rt)
          (address tree discovery.dest) with
      | some e => .ok (next, 0, .send [(e, discovery.datagramAfter tree (visited ++ [node]))])
      | none => do
          let (copies, counter) ← uplinkCopies next.rt1 0
          return (next, counter, .send (copies.map
            (·, discovery.datagramAfter tree (visited ++ [node])))) := by
  have forward : discovery.dest ∉ visited ++ [node] := by simp [onward, elsewhere.symm]
  have foreign : (address tree discovery.dest).equals (address tree node) = false := by
    rw [← Bool.not_eq_true, equals_iff, (address_injective _ small).eq_iff]
    exact elsewhere.symm
  rw [← lookup_eq configured switch]
  simp only [routeProbe, datagramAfter, configured.routerId, foreign, forward, if_false]
  exact if_pos (by rfl)

theorem serves_down {next : Node h} (small : h ≤ 7) (configured : Configured tree path unset nodes)
    (switch : node.isHost = false)
    (elsewhere : node ≠ discovery.dest) (onward : discovery.dest ∉ visited)
    (short : visited.length < 31)
    (best :
      RoutingTable.bestRoute (tableRoutes tree path unset node .rt)
        (address tree discovery.dest) = some e)
    (leads : remoteNode tree.topo (tree.index node) e = some (tree.index next)) :
    Serves tree path unset nodes (discovery.copyAt tree visited node)
      [discovery.copyAt tree (visited ++ [node]) next] [] := by
  refine ⟨_, ?_, configured_lookup configured _ (address tree discovery.dest)⟩
  show handlePacketFromNetwork tree.topo (nodes (tree.index node)) 0 _ = _
  rw [handlePacketFromNetwork_eq small configured, prerouted_elsewhere elsewhere,
    routeProbe_forward small configured switch elsewhere onward, best]
  show Except.ok (Served.mk _ _ ([_].filterMap _) _) = _
  rw [filterMap_cons, sendDatagramToOutput_eq short, leads]
  rfl

theorem serves_up (small : h ≤ 7) (positive : 0 < h) (paths : ShortestPaths tree.topo path)
    (configured : Configured tree path unset nodes)
    (above : neighboursIn node .rt1 = (finRange h).map up)
    (uplinked : (node.isEdge || node.isAggregate) = true)
    (elsewhere : node ≠ discovery.dest) (onward : discovery.dest ∉ visited)
    (short : visited.length < 31)
    (nowhere :
      RoutingTable.bestRoute (tableRoutes tree path unset node .rt)
        (address tree discovery.dest) = none) :
    ∃ order : List (Fin h), order.Perm (finRange h) ∧
      Serves tree path unset nodes (discovery.copyAt tree visited node)
        (order.map fun k => discovery.copyAt tree (visited ++ [node]) (up k)) [] := by
  have switch := switch_of_uplinked uplinked
  -- the nodes above, in the order of the routes
  have leading :
      Relation.Comp (· = map (fun k => some (tree.index (up k))) ·) Perm
        ((tableRoutes tree path unset node .rt1).map (remoteNode tree.topo (tree.index node)))
        (finRange h) := by
    have perm :
        ((tableRoutes tree path unset node .rt1).map (remoteNode tree.topo (tree.index node))).Perm
          ((neighboursIn node .rt1).map fun up => some (tree.index up)) :=
      remoteNodes_perm positive paths _ .rt1
    rw [above, map_map] at perm
    rwa [eq_map_comp_perm]
  rcases leading with ⟨order, leads, perm⟩
  refine ⟨order, perm, _, ?_, configured_lookup configured _ (address tree discovery.dest)⟩
  show handlePacketFromNetwork tree.topo (nodes (tree.index node)) 0 _ = _
  rw [handlePacketFromNetwork_eq small configured, prerouted_elsewhere elsewhere,
    routeProbe_forward small configured switch elsewhere onward, nowhere]
  dsimp only
  rw [uplinkCopies_eq (rt1_getNumRoutes_pos positive paths configured
    uplinked), (allRoutes_eq configured switch).2]
  show Except.ok (Served.mk _ _ ((map _ _).filterMap _) _) = _
  congr 2
  rw [filterMap_map]
  simp only [Function.comp_def, sendDatagramToOutput_eq short]
  calc
    (tableRoutes tree path unset node .rt1).filterMap (fun e =>
        (remoteNode tree.topo (tree.index node) e).map _) =
      ((tableRoutes tree path unset node .rt1).map
        (remoteNode tree.topo (tree.index node))).filterMap
          (Option.map fun next =>
            ⟨next, discovery.datagramAfter tree (visited ++ [node]),
              (visited ++ [node]).map tree.index⟩) := by
      rw [filterMap_map]
      rfl
    _ = order.map fun k => discovery.copyAt tree (visited ++ [node]) (up k) := by
      rw [leads, filterMap_map]
      exact congrFun filterMap_eq_map order

theorem indexOf_recordRoute (small : h ≤ 7)
    (split : discovery.source :: (visited ++ [node]) = front ++ node :: rest)
    (early : front.length < 6) (new : node ∉ front) :
    (recorded ((discovery.source :: (visited ++ [node])).map
        (address tree))).indexOf (address tree node) =
      some front.length := by
  rw [split, map_append, map_cons, indexOf_recorded]
  · rw [length_map]
  · rwa [length_map]
  · rwa [mem_map_of_injective (address_injective _ small)]

theorem getRecordAddress_recordRoute
    (split : discovery.source :: (visited ++ [node]) = front ++ target :: rest)
    (early : front.length < 6) :
    (recorded ((discovery.source :: (visited ++ [node])).map
        (address tree))).getRecordAddress front.length =
      some (address tree target) := by
  rw [split, getRecordAddress_recorded early (by simp)]
  simp

theorem routeProbe_returning (configured : Configured tree path unset nodes)
    (returning : discovery.dest ∈ visited ++ [node]) (num_interface : Int) :
    routeProbe num_interface (nodes (tree.index node)) 0
        (prerouted (address tree node) (discovery.datagramAfter tree visited)) =
      reverseProbe num_interface (nodes (tree.index node)) 0
        (discovery.datagramAfter tree (visited ++ [node])) := by
  have turned :
      { prerouted (address tree node)
          (discovery.datagramAfter tree visited) with packetId := 1 } =
        discovery.datagramAfter tree (visited ++ [node]) := by
    rw [prerouted_datagramAfter]
    simp only [datagramAfter, if_pos returning]
  have conditions :
      (!(address tree discovery.dest).equals (address tree node) &&
          (prerouted (address tree node) (discovery.datagramAfter tree visited)).packetId == 0) =
        false ∧
      ((address tree discovery.dest).equals (address tree node) ||
          (prerouted (address tree node) (discovery.datagramAfter tree visited)).packetId == 1) =
        true := by
    rw [prerouted_datagramAfter]
    rcases mem_append.mp returning with before | here
    · simp [before]
    · rw [mem_singleton] at here
      rw [← here, (equals_iff _ _).mpr rfl]
      exact ⟨rfl, rfl⟩
  rw [routeProbe, configured.routerId, turned]
  exact (if_neg (Bool.eq_false_iff.mp conditions.1)).trans (if_pos conditions.2)

theorem serves_back (small : h ≤ 7) (positive : 0 < h) (paths : ShortestPaths tree.topo path)
    (configured : Configured tree path unset nodes) (front rest : List (Node h))
    (switch : node.isHost = false)
    (returning : discovery.dest ∈ visited ++ [node]) (short : visited.length < 31)
    (split : discovery.source :: (visited ++ [node]) = front ++ target :: node :: rest)
    (early : front.length < 5) (new : node ∉ front ++ [target])
    (linked : target ∈ neighbours node) (routed : (kind node target).isSome) :
    Serves tree path unset nodes (discovery.copyAt tree visited node)
      [discovery.copyAt tree (visited ++ [node]) target] [] := by
  rcases recordedRoute_leads small positive paths configured switch linked
    routed with ⟨e, found, leads⟩
  have index :
      (recorded ((discovery.source :: (visited ++ [node])).map
        (address tree))).indexOf (address tree node) = some (front.length + 1) := by
    have own : discovery.source :: (visited ++ [node]) = (front ++ [target]) ++ node :: rest := by
      rw [split, append_assoc]
      rfl
    rw [indexOf_recordRoute small own (by simp; omega) new]
    simp
  have previous :
      (recorded ((discovery.source :: (visited ++ [node])).map
        (address tree))).getRecordAddress front.length = some (address tree target) :=
    getRecordAddress_recordRoute split (by omega)
  refine ⟨nodes (tree.index node), ?_, ?_⟩
  · show handlePacketFromNetwork tree.topo (nodes (tree.index node)) 0 _ = _
    rw [handlePacketFromNetwork_eq small configured, routeProbe_returning configured returning,
      reverseProbe, configured.routerId,
      show (discovery.datagramAfter tree (visited ++ [node])).recordRoute = recorded _ from rfl,
      index]
    dsimp only
    rw [previous]
    dsimp only
    rw [found]
    show Except.ok (Served.mk _ _ ([_].filterMap _) _) = _
    rw [filterMap_cons, sendDatagramToOutput_eq short, leads]
    rfl
  · show Configured tree path unset
      (Function.update nodes (tree.index node) (nodes (tree.index node)))
    rwa [Function.update_eq_self]

theorem serves_home (small : h ≤ 7) (configured : Configured tree path unset nodes)
    (closed : walk route = visited ++ [discovery.source])
    (returning : discovery.dest ∈ visited) (long : 5 ≤ (walk route).length) :
    Serves tree path unset nodes (discovery.copyAt tree visited discovery.source) []
      [discovery.reply tree route] := by
  have index :
      (recorded ((discovery.source ::
        (visited ++ [discovery.source])).map (address tree))).indexOf
          (address tree discovery.source) = some 0 :=
    indexOf_recordRoute small (nil_append _).symm (by simp) (by simp)
  have entry (k : Nat) (early : k < 5) :
      (recorded ((discovery.source ::
        (visited ++ [discovery.source])).map (address tree))).getRecordAddress (k + 1) =
        some (recordedAddress tree route k) := by
    rw [← closed, getRecordAddress_recorded (by omega) (by simp; omega)]
    simp [recordedAddress, getD_eq_getElem?_getD,
      getElem?_eq_getElem (show k < (walk route).length by omega)]
  refine ⟨nodes (tree.index discovery.source), ?_, ?_⟩
  · show handlePacketFromNetwork tree.topo (nodes (tree.index discovery.source)) 0 _ = _
    rw [handlePacketFromNetwork_eq small configured,
      routeProbe_returning configured (mem_append_left _ returning), reverseProbe,
      configured.routerId,
      show (discovery.datagramAfter tree (visited ++ [discovery.source])).recordRoute =
        recorded _ from rfl,
      index, entry 1 (by decide), entry 2 (by decide), entry 3 (by decide), entry 4 (by decide),
      reply, closed, ← num_interface_eq _ discovery.sourcePod discovery.sourceEdge]
    rfl
  · show Configured tree path unset
      (Function.update nodes (tree.index discovery.source) (nodes (tree.index discovery.source)))
    rwa [Function.update_eq_self]

end Serving

end Discovery

end OmnetDsi.Ipv4.ProbeCopies
