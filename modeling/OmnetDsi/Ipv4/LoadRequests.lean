import OmnetDsi.Ipv4.RouteDiscovery

/-!
# Load requests at the controller

The controller sends a copy of a load request to the switches on all paths
between two edge switches.  It finds the first aggregate switch of a pod by
counting the switch id down to one above a multiple of half the number of
ports, and the others by counting up; then it looks the addresses up in its
routing table.

In a configured fat tree both loops end, all routes are found, and the copies
go to the switches whose answers are waited for
(`load_request_copies`).
-/

namespace OmnetDsi.Ipv4.LoadRequests

open Contract.Addresses Ipv4.RoutingTables Ipv4.Datagrams Ipv4.DataForwarding Ipv4.RouteDiscovery
open Autorouting.FatTrees Autorouting.NetworkConfigurator Autorouting.ExtractedTopology
open Autorouting.NodeNumbers Autorouting.AddressPlan Autorouting.ConfiguredTables
open Autorouting.StandardTree List

/-! ## The request of an edge switch -/

/-- The packet id is the number of ports of the edge switch. -/
def send_load_estimation_packet (node : IPNode) (srcadr dstadr : IPAddress)
    (src_host_indx dest_host_indx : Int) : Except IPError IPDatagram :=
  encapsulate node
    { packetId := (node.interfaces.length : Int) - 2
      srcPort := src_host_indx
      destPort := dest_host_indx
      destAddr := edgeOf dstadr
      srcAddr := edgeOf srcadr
      protocol := 46
      load := .finite (-1)
      num_packets_for_this_path := -1 }

/-! ## The controller's part of `route_load_packet` -/

inductive LoadFault where
  /-- A loop has not ended within the fuel. -/
  | outOfFuel
  /-- No route has the address, and the null pointer is used. -/
  | nullRoute

/-- Only the controller has the layer, switch and host number zero. -/
def isController (routerId : IPAddress) : Bool :=
  routerId.getDByte 1 == 0 && routerId.getDByte 2 == 0 && routerId.getDByte 3 == 0

/-- The id is decremented until it is one modulo the switches of a pod. -/
def podStart (num_intrfce : Int) : Nat → Int → Except LoadFault Int
  | 0, _ => .error .outOfFuel
  | fuel + 1, switch_id =>
    if switch_id.tmod num_intrfce ≠ 1 then podStart num_intrfce fuel (switch_id - 1)
    else .ok switch_id

/-- The first route with the host. -/
def routeOf (rt : RoutingTable) (temp : IPAddress) : Except LoadFault IPRoute :=
  match (rt.routes ++ rt.multicastRoutes).find? fun load_route => temp.equals load_route.host with
  | some load_route => .ok load_route
  | none => .error .nullRoute

/-- One copy for each aggregate switch, until the next pod begins. -/
def podCopies (rt : RoutingTable) (pod_id num_intrfce : Int) :
    Nat → Int → Except LoadFault (List IPRoute)
  | 0, _ => .error .outOfFuel
  | fuel + 1, aggregate_switch => do
      let load_route ← routeOf rt (.set pod_id 2 aggregate_switch 0)
      if (aggregate_switch + 1).tmod num_intrfce ≠ 1 then
        let rest ← podCopies rt pod_id num_intrfce fuel (aggregate_switch + 1)
        return load_route :: rest
      else return [load_route]

def coreCopies (rt : RoutingTable) (pod_id_core : Int) : List IPRoute :=
  (rt.routes ++ rt.multicastRoutes).filter fun load_route =>
    (load_route.host.getDByte 0 : Int) == pod_id_core

/-- The routes over which copies of a request are sent. -/
def requestCopies (fuel : Nat) (rt : RoutingTable) (datagram : IPDatagram) :
    Except LoadFault (List IPRoute) := do
  let src_address := datagram.srcAddress
  let dst_address := datagram.destAddress
  let num_intrfce_other_node := datagram.packetId
  let num_aggrg_present := (num_intrfce_other_node * num_intrfce_other_node).tdiv 2
  let pod_id_core := (num_intrfce_other_node + 1) * 10
  let num_intrfce_other_node := num_intrfce_other_node.tdiv 2
  let source_switch_id ← podStart num_intrfce_other_node fuel (src_address.getDByte 2)
  let dest_switch_id ← podStart num_intrfce_other_node fuel (dst_address.getDByte 2)
  let source ← podCopies rt (src_address.getDByte 0)
    num_intrfce_other_node fuel (source_switch_id - num_aggrg_present)
  if src_address.getDByte 0 ≠ dst_address.getDByte 0 then
    let dest ← podCopies rt (dst_address.getDByte 0)
      num_intrfce_other_node fuel (dest_switch_id - num_aggrg_present)
    return source ++ (dest ++ coreCopies rt pod_id_core)
  else return source

/--
What the controller sends for a load packet: the copies of a request, or the
answer of a switch on its way to the source.
-/
def controllerSends (fuel : Nat) (rt : RoutingTable) (datagram : IPDatagram) :
    Except LoadFault (List IPRoute) :=
  if datagram.load = .finite (-1) then requestCopies fuel rt datagram
  else
    match (rt.findBestMatchingRoute datagram.srcAddress).1 with
    | some load_route => .ok [load_route]
    | none => .error .nullRoute

variable {h : Nat}

/-! ## The boundaries of a pod -/

theorem succ_tmod (two : 2 ≤ h) (inside : k < h) :
    ((pods * h + 1 + k : Nat) : Int).tmod (h : Int) = 1 ↔ k = 0 := by
  rw [Int.tmod_eq_emod_of_nonneg (Int.natCast_nonneg _), ← Int.natCast_emod,
    Nat.add_assoc, Nat.mul_comm, Nat.mul_add_mod]
  by_cases last : 1 + k = h
  · rw [last, Nat.mod_self]
    omega
  · rw [Nat.mod_eq_of_lt (by omega)]
    omega

theorem podStart_eq (two : 2 ≤ h) (pods : Nat) (inside : k < h) (enough : k < fuel) :
    podStart (h : Int) fuel ((pods * h + 1 + k : Nat) : Int) =
      .ok ((pods * h + 1 : Nat) : Int) := by
  induction k generalizing fuel with
  | zero =>
    cases fuel with
    | zero => contradiction
    | succ _ =>
      rw [podStart, if_neg (by simpa using (succ_tmod two inside).mpr rfl)]
  | succ k induction =>
    cases fuel with
    | zero => contradiction
    | succ _ =>
      have later : ((pods * h + 1 + (k + 1) : Nat) : Int).tmod h ≠ 1 := by
        rw [Ne, succ_tmod two inside]
        exact Nat.succ_ne_zero k
      have step : ((pods * h + 1 + (k + 1) : Nat) : Int) - 1 =
          ((pods * h + 1 + k : Nat) : Int) := by
        push_cast
        ring
      rw [podStart, if_pos later, step]
      exact induction (by omega) (by omega)

/-- The copies for the rest of a pod, when all its routes are found. -/
theorem podCopies_eq (two : 2 ≤ h) (pods : Nat)
    (found : ∀ k < h, routeOf rt (.set pod_id 2 ((pods * h + 1 + k : Nat) : Int) 0) = .ok (route k))
    (count k fuel : Nat) (whole : k + (count + 1) = h) (enough : count < fuel) :
    podCopies rt pod_id (h : Int) fuel ((pods * h + 1 + k : Nat) : Int) =
      .ok ((range' k (count + 1)).map route) := by
  have step : ((pods * h + 1 + k : Nat) : Int) + 1 = ((pods * h + 1 + (k + 1) : Nat) : Int) := by
    push_cast
    ring
  induction count generalizing k fuel with
  | zero =>
    cases fuel with
    | zero => contradiction
    | succ _ =>
      have next : ((pods * h + 1 + (k + 1) : Nat) : Int) =
          (((pods + 1) * h + 1 + 0 : Nat) : Int) := by
        rw [whole, Nat.succ_mul]
        push_cast
        ring
      have final : ((pods * h + 1 + (k + 1) : Nat) : Int).tmod h = 1 := by
        rw [next, succ_tmod two (by omega)]
      rw [podCopies, found k (by omega), step]
      show (if _ then _ else _) = _
      rw [if_neg (by simpa using final)]
      rfl
  | succ _ induction =>
    cases fuel with
    | zero => contradiction
    | succ fuel =>
      have again : ((pods * h + 1 + (k + 1) : Nat) : Int).tmod h ≠ 1 := by
        rw [Ne, succ_tmod two (by omega)]
        exact Nat.succ_ne_zero k
      have rest := induction (k + 1) fuel (by omega) (by omega) (by push_cast; ring)
      rw [podCopies, found k (by omega), step]
      show (if _ then _ else _) = _
      rw [if_pos again, rest]
      rfl

/-! ## The configured controller -/

section Configured

/-- The node at the other end of a route of the controller. -/
def receiver (tree : FatTree h) (e : IPRoute) : Option Nat :=
  remoteNode tree.topo (tree.index .controller) e

theorem controller_routes (configured : Configured tree path unset nodes) :
    (nodes (tree.index .controller)).rt.routes ++
        (nodes (tree.index .controller)).rt.multicastRoutes =
      tableRoutes tree path unset .controller .rt := by
  rw [configured.rt, (configured.multicast _).1, append_nil]
  rfl

variable {node : Node h}

/-- The address of a neighbour determines the route of the controller. -/
theorem receiver_of_host (positive : 0 < h) (small : h ≤ 7) (paths : ShortestPaths tree.topo path)
    (member : e ∈ tableRoutes tree path unset .controller .rt)
    (host : e.host = address tree node) : receiver tree e = some (tree.index node) := by
  rcases (mem_tableRoutes positive).mp member with ⟨neighbour, linked, netmask, _, _, found, rfl⟩
  have same : neighbour = node := address_injective _ small host
  subst same
  exact remoteNode_routeTo paths linked found _

theorem kind_controller (linked : node ∈ neighbours .controller) :
    kind .controller node = some (.rt, .set 255 255 255 255) := by
  cases node with
  | core _ _ => rfl
  | aggregate _ _ => rfl
  | edge _ _ => rfl
  | host _ _ _ => simp [neighbours, cores, aggregates, edges] at linked
  | controller => simp [neighbours, cores, aggregates, edges] at linked

theorem exists_route (unset : Indeterminate) (positive : 0 < h)
    (paths : ShortestPaths tree.topo path) (linked : node ∈ neighbours .controller) :
    ∃ e ∈ tableRoutes tree path unset .controller .rt, e.host = address tree node := by
  rcases paths.direct _ _ (tree.index_mem_links.mpr linked) with ⟨link, found, _⟩
  refine ⟨routeTo _ _ (.set 255 255 255 255) link, ?_, rfl⟩
  rw [mem_tableRoutes positive]
  exact ⟨node, linked, _, link, kind_controller linked, found, rfl⟩

theorem routeOf_neighbour (positive : 0 < h) (small : h ≤ 7) (paths : ShortestPaths tree.topo path)
    (configured : Configured tree path unset nodes) (linked : node ∈ neighbours .controller) :
    ∃ e, routeOf (nodes (tree.index .controller)).rt (address tree node) = .ok e ∧
        receiver tree e = some (tree.index node) := by
  rw [routeOf, controller_routes configured]
  cases search :
      (tableRoutes tree path unset .controller .rt).find? fun load_route =>
        (address tree node).equals load_route.host with
  | none =>
    rcases exists_route _ positive paths linked with ⟨e, member, host⟩
    rw [find?_eq_none] at search
    refine absurd ?_ (search e member)
    rw [equals_iff, host]
  | some e =>
    have hit := find?_some search
    rw [equals_iff] at hit
    exact ⟨e, rfl, receiver_of_host positive small paths (mem_of_find?_eq_some search) hit.symm⟩

/-! ## The switches of one pod -/

/-- The ids of the aggregate switches of a pod, from the first one on. -/
theorem exists_aggregate (tree : FatTree h) (pod : Fin (2 * h)) {k : Nat} (inside : k < h) :
    ∃ position, tree.index (.aggregate pod position) = (h + pod.val) * h + k := by
  have block := pod_block pod
  have place : (h + pod.val) * h = h * h + pod.val * h := Nat.add_mul _ _ _
  rcases tree.surjective ((h + pod.val) * h + k)
    (by rw [tree.numNodes]; omega) with ⟨node, at_place⟩
  cases node with
  | core group member =>
    have range := tree.core group member
    omega
  | aggregate other position =>
    have range := tree.aggregate other position
    have same : other = pod := by
      apply Fin.ext
      rcases Nat.lt_trichotomy other.val pod.val with less | same | more
      · have below : (other.val + 1) * h ≤ pod.val * h := Nat.mul_le_mul_right h less
        rw [Nat.succ_mul] at below
        omega
      · exact same
      · have below : (pod.val + 1) * h ≤ other.val * h := Nat.mul_le_mul_right h more
        rw [Nat.succ_mul] at below
        omega
    subst same
    exact ⟨position, at_place⟩
  | edge other position =>
    have range := tree.edge other position
    omega
  | host other position slot =>
    have range := tree.host other position slot
    omega
  | controller =>
    have last := tree.controller
    omega

theorem aggregates_perm (tree : FatTree h) (pod : Fin (2 * h)) :
    ((range' 0 h).map fun k => some ((h + pod.val) * h + k)).Perm
      ((finRange h).map fun position => some (tree.index (.aggregate pod position))) := by
  rw [perm_ext_iff_of_nodup]
  · intro place
    simp only [mem_map, mem_range'_1, mem_finRange, true_and]
    constructor
    · rintro ⟨k, _, rfl⟩
      rcases exists_aggregate _ pod (k := k) (by omega) with ⟨position, same⟩
      exact ⟨position, by rw [same]⟩
    · rintro ⟨position, rfl⟩
      have range := tree.aggregate pod position
      have place : (h + pod.val) * h = h * h + pod.val * h := Nat.add_mul _ _ _
      refine ⟨tree.index (.aggregate pod position) - (h + pod.val) * h, by omega, ?_⟩
      congr 1
      omega
  · apply Nodup.map _ nodup_range'
    intro _ _ same
    simpa using same
  · apply (nodup_finRange h).map
    intro _ _ same
    simpa using tree.injective (Option.some.inj same)

theorem podCopies_pod (two : 2 ≤ h) (small : h ≤ 7) (paths : ShortestPaths tree.topo path)
    (configured : Configured tree path unset nodes) (pod : Fin (2 * h)) (enough : h ≤ fuel) :
    ∃ copies,
      podCopies (nodes (tree.index .controller)).rt
          (((pod.val + 1) * 10 : Nat) : Int) (h : Int) fuel
          (((h + pod.val) * h + 1 : Nat) : Int) = .ok copies ∧
        (copies.map (receiver tree)).Perm
          ((finRange h).map fun position => some (tree.index (.aggregate pod position))) := by
  have routes (k : Nat) :
      ∃ e, k < h →
        routeOf (nodes (tree.index .controller)).rt
            (.set (((pod.val + 1) * 10 : Nat) : Int) 2
              (((h + pod.val) * h + 1 + k : Nat) : Int) 0) = .ok e ∧
          receiver tree e = some ((h + pod.val) * h + k) := by
    by_cases inside : k < h
    · rcases exists_aggregate tree pod inside with ⟨position, place⟩
      have linked : Node.aggregate pod position ∈ neighbours .controller := by
        simp [neighbours, aggregates]
      rcases routeOf_neighbour (by omega) small paths configured linked with ⟨e, found, there⟩
      refine ⟨e, fun _ => ⟨?_, ?_⟩⟩
      · rw [← found]
        have number : switchNumber tree (.aggregate pod position) = (h + pod.val) * h + 1 + k := by
          simp only [switchNumber]
          omega
        rw [address, number]
        rfl
      · rw [there, place]
    · exact ⟨{}, fun impossible => absurd impossible inside⟩
  choose route spec using routes
  have copies := podCopies_eq two _
    (fun k inside => (spec k inside).1) (h - 1) 0 fuel (by omega) (by omega)
  rw [Nat.sub_add_cancel (by omega)] at copies
  refine ⟨_, copies, ?_⟩
  rw [map_map]
  have receivers :
      (range' 0 h).map (receiver tree ∘ route) =
        (range' 0 h).map fun k => some ((h + pod.val) * h + k) := by
    apply map_congr_left
    intro k member
    rw [mem_range'_1] at member
    exact (spec k (by omega)).2
  rw [receivers]
  exact aggregates_perm _ _

theorem coreCopies_perm (positive : 0 < h) (small : h ≤ 7) (paths : ShortestPaths tree.topo path)
    (configured : Configured tree path unset nodes) :
    ((coreCopies (nodes (tree.index .controller)).rt ((2 * h + 1) * 10)).map (receiver tree)).Perm
      ((cores h).map fun node => some (tree.index node)) := by
  have all : ((tableRoutes tree path unset .controller .rt).map
      (remoteNode tree.topo (tree.index .controller))).Perm
        ((neighboursIn .controller .rt).map fun neighbour => some (tree.index neighbour)) :=
    remoteNodes_perm positive paths .controller .rt
  rw [coreCopies, controller_routes configured]
  have octet (node : Node h) :
      ((address tree node).getDByte 0 : Int) = (2 * h + 1) * 10 ↔ node.isCore = true := by
    rw [(getDByte_address _ small _).1]
    cases node with
    | core _ _ => simp [podIndex, Node.isCore]
    | aggregate pod _ =>
      have bound := pod.isLt
      refine iff_of_false ?_ Bool.false_ne_true
      simp only [podIndex]
      omega
    | edge pod _ =>
      have bound := pod.isLt
      refine iff_of_false ?_ Bool.false_ne_true
      simp only [podIndex]
      omega
    | host pod _ _ =>
      have bound := pod.isLt
      refine iff_of_false ?_ Bool.false_ne_true
      simp only [podIndex]
      omega
    | controller =>
      refine iff_of_false ?_ Bool.false_ne_true
      simp only [podIndex]
      omega
  rw [perm_ext_iff_of_nodup]
  · intro _
    simp only [mem_map, mem_filter, beq_iff_eq]
    constructor
    · rintro ⟨e, ⟨member, core⟩, rfl⟩
      rcases (mem_tableRoutes positive).mp member with ⟨neighbour, _, _, _, _, _, same⟩
      have host : e.host = address tree neighbour := by rw [same]; rfl
      rw [host, octet] at core
      refine ⟨neighbour, ?_, (receiver_of_host positive small paths member host).symm⟩
      cases neighbour with
      | core _ _ => simp [cores]
      | aggregate _ _ => contradiction
      | edge _ _ => contradiction
      | host _ _ _ => contradiction
      | controller => contradiction
    · rintro ⟨node, member, rfl⟩
      have linked : node ∈ neighbours .controller := by
        simp only [neighbours, mem_append]
        exact .inl (.inl member)
      rcases exists_route _ positive paths linked with ⟨e, inside, host⟩
      refine ⟨e, ⟨inside, ?_⟩, receiver_of_host positive small paths inside host⟩
      rw [host, octet]
      simp only [cores, mem_flatMap, mem_map] at member
      rcases member with ⟨_, _, _, _, rfl⟩
      rfl
  · have distinct : ((tableRoutes tree path unset .controller .rt).map (receiver tree)).Nodup := by
      rw [show ((tableRoutes tree path unset .controller .rt).map
        (receiver tree)).Nodup ↔ _ from all.nodup_iff]
      apply ((neighbours_nodup _).filter _).map
      intro _ _ same
      exact tree.injective (Option.some.inj same)
    exact distinct.sublist (filter_sublist.map _)
  · have distinct : (cores h).Nodup := by
      have whole := neighbours_nodup (h := h) .controller
      exact (nodup_append.mp (nodup_append.mp whole).1).1
    apply distinct.map
    intro _ _ same
    exact tree.injective (Option.some.inj same)

/-! ## A request and its copies -/

/-- The switches on the paths between two edge switches. -/
def switchesBetween (sourcePod destPod : Fin (2 * h)) : List (Node h) :=
  (finRange h).map (.aggregate sourcePod) ++ if sourcePod = destPod then []
    else (finRange h).map (.aggregate destPod) ++ cores h

theorem podStart_edge (two : 2 ≤ h) (pod : Fin (2 * h)) (position : Fin h) (enough : h ≤ fuel) :
    podStart (h : Int) fuel (switchNumber tree (.edge pod position) : Int) =
      .ok (((3 * h + pod.val) * h + 1 : Nat) : Int) := by
  have range := tree.edge pod position
  have first : (3 * h + pod.val) * h = 3 * (h * h) + pod.val * h := by ring
  have number : switchNumber tree (.edge pod position) =
      (3 * h + pod.val) * h + 1 + (tree.index (.edge pod position) - (3 * h + pod.val) * h) := by
    simp only [switchNumber]
    omega
  rw [number]
  exact podStart_eq two _ (by omega) (by omega)

/-- The datagram of a load request between two edge switches. -/
def requestOf (tree : FatTree h) (sourcePod : Fin (2 * h)) (sourceEdge : Fin h)
    (destPod : Fin (2 * h)) (destEdge : Fin h)
    (src_host_indx dest_host_indx : Int) : IPDatagram where
  srcAddress := address tree (.edge sourcePod sourceEdge)
  destAddress := address tree (.edge destPod destEdge)
  load := .finite (-1)
  num_packets_for_this_path := -1
  destPort := dest_host_indx
  srcPort := src_host_indx
  transportProtocol := 46
  timeToLive := defaultTimeToLive
  packetId := ((2 * h : Nat) : Int)
  recordRoute := ({} : IPRecordRouteOption).record (address tree (.edge sourcePod sourceEdge))

theorem send_load_estimation_packet_eq (small : h ≤ 7)
    (configured : Configured tree path unset nodes) (sourcePod destPod : Fin (2 * h))
    (sourceEdge sourceSlot destEdge destSlot : Fin h) (src_host_indx dest_host_indx : Int) :
    send_load_estimation_packet (nodes (tree.index (.edge sourcePod sourceEdge)))
        (address tree (.host sourcePod sourceEdge sourceSlot))
        (address tree (.host destPod destEdge destSlot)) src_host_indx dest_host_indx =
      .ok (requestOf tree sourcePod sourceEdge destPod destEdge src_host_indx dest_host_indx) := by
  have unicast := isMulticast_address tree small (.edge destPod destEdge)
  have interfaces : ((nodes (tree.index
      (.edge sourcePod sourceEdge))).interfaces.length : Int) - 2 = ((2 * h : Nat) : Int) := by
    rw [configured.interfaces]
    simp only [neighbours, length_append, length_map, length_finRange, length_singleton]
    push_cast
    ring
  rw [send_load_estimation_packet, edgeOf_host _ small, edgeOf_host _ small, interfaces]
  exact encapsulate_own small configured rfl unicast rfl

theorem requestCopies_requestOf (tree : FatTree h) (two : 2 ≤ h)
    (small : h ≤ 7) (sourcePod destPod : Fin (2 * h))
    (sourceEdge destEdge : Fin h) (src_host_indx dest_host_indx : Int)
    (rt : RoutingTable) (enough : h ≤ fuel) :
    requestCopies fuel rt
        (requestOf tree sourcePod sourceEdge destPod destEdge src_host_indx dest_host_indx) =
      (do
        let source ← podCopies rt (((sourcePod.val + 1) * 10 : Nat) : Int) (h : Int) fuel
          (((h + sourcePod.val) * h + 1 : Nat) : Int)
        if sourcePod ≠ destPod then
          let dest ← podCopies rt (((destPod.val + 1) * 10 : Nat) : Int) (h : Int) fuel
            (((h + destPod.val) * h + 1 : Nat) : Int)
          return source ++ (dest ++ coreCopies rt ((2 * h + 1) * 10))
        else return source) := by
  have source := getDByte_address tree small (.edge sourcePod sourceEdge)
  have dest := getDByte_address tree small (.edge destPod destEdge)
  have half : (((2 * h : Nat) : Int)).tdiv 2 = (h : Int) := by
    push_cast
    exact Int.mul_tdiv_cancel_left _ (by decide)
  have square : (((2 * h : Nat) : Int) * ((2 * h : Nat) : Int)).tdiv 2 = 2 * ((h : Int) * h) := by
    push_cast
    rw [show (2 : Int) * h * (2 * h) = 2 * (2 * (h * h)) by ring]
    exact Int.mul_tdiv_cancel_left _ (by decide)
  have start (pod : Fin (2 * h)) :
      (((3 * h + pod.val) * h + 1 : Nat) : Int) - 2 * ((h : Int) * h) =
        (((h + pod.val) * h + 1 : Nat) : Int) := by
    push_cast
    ring
  have pods : podIndex (.edge sourcePod sourceEdge : Node h) * 10 ≠
      podIndex (.edge destPod destEdge : Node h) * 10 ↔ sourcePod ≠ destPod := by
    simp only [podIndex, Ne, Fin.ext_iff]
    omega
  have core : (((2 * h : Nat) : Int) + 1) * 10 = (2 * h + 1) * 10 := by
    push_cast
    ring
  simp only [requestCopies, requestOf, source.1, source.2.2.1, dest.1, dest.2.2.1, half, square,
    core, pods, podStart_edge two _ _ enough]
  show (podCopies _ _ _ _ _ >>= _) = _
  simp only [start]
  rfl

theorem controllerSends_requestOf (two : 2 ≤ h) (small : h ≤ 7)
    (paths : ShortestPaths tree.topo path) (configured : Configured tree path unset nodes)
    (sourcePod destPod : Fin (2 * h)) (sourceEdge destEdge : Fin h)
    (src_host_indx dest_host_indx : Int) (enough : h ≤ fuel) :
    ∃ copies,
      controllerSends fuel (nodes (tree.index .controller)).rt
          (requestOf tree sourcePod sourceEdge destPod destEdge
            src_host_indx dest_host_indx) = .ok copies ∧
        (copies.map (receiver tree)).Perm
          ((switchesBetween sourcePod destPod).map fun node => some (tree.index node)) := by
  rcases podCopies_pod two small paths configured _ enough with
    ⟨source, sourceCopies, sourceSwitches⟩
  rcases podCopies_pod two small paths configured _ enough with ⟨dest, destCopies, destSwitches⟩
  have coreSwitches := coreCopies_perm (by omega) small paths configured
  have handled := requestCopies_requestOf tree two small sourcePod
    destPod sourceEdge destEdge src_host_indx dest_host_indx
    (nodes (tree.index .controller)).rt enough
  have request : (requestOf tree sourcePod sourceEdge destPod destEdge
      src_host_indx dest_host_indx).load = .finite (-1) := rfl
  rw [controllerSends, switchesBetween, if_pos request, handled, sourceCopies]
  by_cases same : sourcePod = destPod
  · refine ⟨source, ?_, ?_⟩
    · show (if _ then _ else _) = _
      rw [if_neg (not_not_intro same)]
      rfl
    · rwa [if_pos same, append_nil, map_map]
  · refine ⟨source ++ (dest ++
      coreCopies (nodes (tree.index .controller)).rt ((2 * h + 1) * 10)), ?_, ?_⟩
    · show (if _ then _ else _) = _
      rw [if_pos same, destCopies]
      rfl
    · rw [if_neg same, map_append, map_append, map_append, map_append, map_map, map_map]
      exact sourceSwitches.append (destSwitches.append coreSwitches)

theorem switchesBetween_length (tree : FatTree h) (small : h ≤ 7) (sourcePod destPod : Fin (2 * h))
    (sourceEdge sourceSlot destEdge destSlot : Fin h) :
    ((switchesBetween sourcePod destPod).length : Int) =
      num_packets_obtained_for_load_estimation (2 * h)
        (address tree (.host sourcePod sourceEdge sourceSlot))
        (address tree (.host destPod destEdge destSlot)) := by
  have source := getDByte_address tree small (.host sourcePod sourceEdge sourceSlot)
  have dest := getDByte_address tree small (.host destPod destEdge destSlot)
  have half : (2 * (h : Int)).tdiv 2 = h := Int.mul_tdiv_cancel_left _ (by decide)
  have quarter : (2 * (h : Int) * (2 * h)).tdiv 4 = h * h := by
    rw [show 2 * (h : Int) * (2 * h) = 4 * (h * h) by ring]
    exact Int.mul_tdiv_cancel_left _ (by decide)
  have coreCount : (cores h).length = h * h := by simp [cores, length_flatMap]
  rw [num_packets_obtained_for_load_estimation, switchesBetween, source.1, dest.1, half, quarter]
  by_cases same : sourcePod = destPod
  · subst same
    simp [podIndex]
  · have pods : ¬podIndex (.host sourcePod sourceEdge sourceSlot) * 10 =
        podIndex (.host destPod destEdge destSlot) * 10 := by
      simp only [podIndex]
      intro _
      apply same
      omega
    rw [if_neg same, if_neg pods]
    simp only [length_append, length_map, length_finRange, coreCount]
    push_cast
    ring

/--
The controller's handling of a load request ends, finds a route for every
address, and sends one copy to each switch on the paths between the two edge
switches, and nothing else: as many copies as the source waits for.
-/
theorem load_request_copies (tree : FatTree h) (unset : Indeterminate)
    (ports : 4 ≤ 2 * h) (fits : IdsFit tree.topo unset) (paths : ShortestPaths tree.topo path)
    (configured : Configured tree path unset nodes) (sourcePod destPod : Fin (2 * h))
    (sourceEdge sourceSlot destEdge destSlot : Fin h)
    (src_host_indx dest_host_indx : Int) {fuel : Nat} (enough : h ≤ fuel) :
    isController (nodes (tree.index .controller)).rt.routerId = true ∧
      ∃ request copies,
        send_load_estimation_packet (nodes (tree.index (.edge sourcePod sourceEdge)))
            (address tree (.host sourcePod sourceEdge sourceSlot))
            (address tree (.host destPod destEdge destSlot))
            src_host_indx dest_host_indx = .ok request ∧
          controllerSends fuel (nodes (tree.index .controller)).rt request = .ok copies ∧
          (copies.map (receiver tree)).Perm
            ((switchesBetween sourcePod destPod).map fun node => some (tree.index node)) ∧
          (copies.length : Int) =
            num_packets_obtained_for_load_estimation (2 * h)
              (address tree (.host sourcePod sourceEdge sourceSlot))
              (address tree (.host destPod destEdge destSlot)) := by
  have small : h ≤ 7 := (idsFit_iff _ _ (by omega)).mp fits
  constructor
  · have octets := getDByte_address tree small .controller
    rw [configured.routerId, isController, octets.2.1, octets.2.2.1, octets.2.2.2]
    rfl
  rcases controllerSends_requestOf (by omega) small paths configured _ _ _ _ _ _
    enough with ⟨copies, sends, switches⟩
  have request := send_load_estimation_packet_eq small configured sourcePod
    destPod sourceEdge sourceSlot destEdge destSlot src_host_indx dest_host_indx
  refine ⟨_, copies, request, sends, switches, ?_⟩
  have count := switches.length_eq
  rw [length_map, length_map] at count
  rw [count]
  exact switchesBetween_length tree small sourcePod destPod sourceEdge sourceSlot destEdge destSlot

end Configured

/-- The first edge switches of the first two pods of the tree of 4 ports. -/
theorem load_request_copies_four_ports :
    ∃ nodes : IPNodes, ∃ request copies,
      send_load_estimation_packet (nodes ((standard 2).index (.edge 0 0)))
          (address (standard 2) (.host 0 0 0))
          (address (standard 2) (.host 1 0 0)) 0 0 = .ok request ∧
        controllerSends 2 (nodes ((standard 2).index .controller)).rt request = .ok copies ∧
        (copies.length : Int) =
          num_packets_obtained_for_load_estimation 4 (address (standard 2) (.host 0 0 0))
            (address (standard 2) (.host 1 0 0)) := by
  have fits : IdsFit (standard 2).topo zeroed := (idsFit_iff _ _ (by decide)).mpr (by decide)
  have paths : ShortestPaths (standard 2).topo (shortestPath (standard 2).topo) :=
    shortestPath_spec (by decide)
  have configures : ∃ nodes,
      configure (standard 2).topo (shortestPath (standard 2).topo) zeroed = .ok nodes ∧
        Configured (standard 2) (shortestPath (standard 2).topo) zeroed nodes :=
    configure_configured (by decide) (by decide) paths _
  rcases configures with ⟨nodes, _, configured⟩
  rcases load_request_copies _ _ (by decide) fits paths
    configured 0 1 0 0 0 0 0 0 (Nat.le_refl 2) with
      ⟨_, request, copies, sent, sends, _, count⟩
  exact ⟨nodes, request, copies, sent, sends, count⟩

end OmnetDsi.Ipv4.LoadRequests
