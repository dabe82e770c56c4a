import OmnetDsi.Ipv4.DelayLoadMatrix
import OmnetDsi.Ipv4.ProbeCopies

/-!
# Future-count packets

After the counts of a flow have been assigned, `send_future_packet_count`
sends a packet down each path to announce how many data packets will follow.
The path is listed in the record route option, and every switch looks for
itself there, adds the count to `future_packets_count` and sends the packet
on, until the position in the list reaches the packet id.

The packet id is the number of routes, which is the length of the path only
in trees of four ports.  In larger trees the last switch of the path goes on
with what the source edge switch has recorded behind it.
-/

namespace OmnetDsi.Ipv4.FutureCounts

open Contract.Addresses Library.BinaryFloat Library.Fallible Ipv4.RoutingTables Ipv4.Datagrams
open Ipv4.DataForwarding Ipv4.RouteDiscovery Ipv4.DelayLoadMatrix Ipv4.ProbeCopies
open Autorouting.FatTrees Autorouting.NetworkConfigurator Autorouting.ExtractedTopology
open Autorouting.NodeNumbers Autorouting.AddressPlan Autorouting.ConfiguredTables
open Autorouting.StandardTree List

/-! ## Sending the counts -/

inductive SendFault where
  | plane (fault : Fault)
  | encapsulation (error : IPError)

/-- What a cell becomes as an address. -/
def toAddress (value : Datum) : IPAddress where
  addr := .ofInt 32 (toInteger 0 (2 ^ 32 - 1) 0 value)

/-- An address is put at the end of the option. -/
def listAddress (r : IPRecordRouteOption) (i : Nat) (address : IPAddress) : IPRecordRouteOption :=
  { r.setRecordAddress i address with nextAddressPtr := i + 1 }

/-- The columns of a row, from column 2 on, are put into the option. -/
def listColumns (plane : Plane) (row : Nat) :
    Nat → IPRecordRouteOption → Except Fault IPRecordRouteOption :=
  forLoop fun d r => do
    let switch ← plane.read row (d + 2)
    return listAddress r (d + 1) (toAddress switch)

def upto_column_in_matrix (srcaddress dstaddress : IPAddress) : Nat :=
  if srcaddress.getDByte 0 = dstaddress.getDByte 0 then 2 else 4

/-- The packet for one row, and the option that is used for the next one. -/
def futurePacket (routerId : IPAddress) (plane : Plane) (columns : Nat)
    (datagram : IPDatagram) (c : Nat) (r : IPRecordRouteOption) :
    Except Fault (IPRecordRouteOption × IPDatagram) := do
  let r ← listColumns plane c columns (listAddress r 0 routerId)
  let count ← plane.read c 6
  return (r, { datagram with recordRoute := r, num_packets_for_this_path := toInt count })

def futurePackets (routerId : IPAddress) (plane : Plane) (columns : Nat)
    (datagram : IPDatagram) : Nat → Except Fault (IPRecordRouteOption × List IPDatagram)
  | 0 => .ok ({}, [])
  | c + 1 => do
      let (r, earlier) ← futurePackets routerId plane columns datagram c
      let (r, duplcte) ← futurePacket routerId plane columns datagram c r
      return (r, earlier ++ [duplcte])

/-- The packets that are put into the queue of probes, one a route. -/
def send_future_packet_count (node : IPNode) (plane : Plane)
    (srcaddress dstaddress : IPAddress) (num_routes : Nat) :
    Except SendFault (List IPDatagram) := do
  let datagram ←
    (encapsulate node
      { packetId := num_routes
        srcPort := 0
        destPort := 0
        destAddr := .set 0 0 0 0
        srcAddr := node.rt.routerId
        protocol := 1
        load := .finite 0
        num_packets_for_this_path := 0 }).mapError .encapsulation
  let (_, packets) ←
    (futurePackets node.rt.routerId plane (upto_column_in_matrix srcaddress dstaddress - 1) datagram
      num_routes).mapError .plane
  return packets

/-! ## The branch of `routePacket` for future counts -/

/--
The route to the next hop: one of `rt`, or the one of `rt1` that leads to it.
The last route of `rt1` is left when none does.
-/
def nextHopRoute (node : IPNode) (next_hop_address : IPAddress) : Option IPRoute × RoutingTable :=
  let (re, rt) := node.rt.findBestMatchingRoute next_hop_address
  let routes1 := node.rt1.routes ++ node.rt1.multicastRoutes
  let searched :=
    match routes1.find? fun re => next_hop_address.equals re.host with
    | some re => some re
    | none => routes1.getLast?
  (re.or searched, rt)

/-- What becomes of a future-count packet at a node. -/
structure CountServed where
  node : IPNode
  future_packets_count : Int
  /-- The route on which the packet goes on; `none` if it is deleted. -/
  onward : Option IPRoute

/-- `routePacket` for a packet that sets the count of a path. -/
def routeFutureCount (node : IPNode) (future_packets_count : Int)
    (datagram : IPDatagram) : Except IPError CountServed :=
  let r := datagram.recordRoute
  let raised := future_packets_count + datagram.num_packets_for_this_path
  match r.indexOf node.rt.routerId with
  | none => .error .recordRouteExhausted
  | some index =>
    let k := index + 1
    match r.getRecordAddress k with
    | none => .error .recordRouteExhausted
    | some next_hop_address =>
      if (k : Int) < datagram.packetId then
        let (re, rt) := nextHopRoute node next_hop_address
        match re with
        | none => .error .nullRoute
        | some re => .ok ⟨{ node with rt }, raised, some re⟩
      else .ok ⟨node, raised, none⟩

/-! ## The way of a packet -/

/-- How the way of a future-count packet ends. -/
inductive End where
  | deleted
  /-- The packet has the count of a probe and is taken for one. -/
  | takenForProbe
  | timeExceeded
  | noLink

/-- The nodes that have added the count, and the end of the way. -/
structure Way where
  visited : List Nat
  final : End

structure Counters where
  nodes : IPNodes
  future_packets_count : Nat → Int

/-- What serving the packet at node `i` leaves. -/
def Counters.served (counters : Counters) (i : Nat) (served : CountServed) : Counters where
  nodes := Function.update counters.nodes i served.node
  future_packets_count :=
    Function.update counters.future_packets_count i served.future_packets_count

/-- A way that begins with one more node. -/
def passing (i : Nat) (rest : Counters × Way) : Counters × Way :=
  (rest.1, ⟨i :: rest.2.visited, rest.2.final⟩)

/--
A packet comes in at node `i`.  The first argument is its hop counter, which
is decremented at each node.
-/
def travel (topo : Topology) : Nat → Counters → Nat → IPDatagram → Except IPError (Counters × Way)
  | 0, counters, _, _ => .ok (counters, ⟨[], .timeExceeded⟩)
  | timeToLive + 1, counters, i, datagram =>
    let datagram := prerouted (counters.nodes i).rt.routerId datagram
    if datagram.num_packets_for_this_path = -1 then .ok (counters, ⟨[], .takenForProbe⟩)
    else do
      let served ← routeFutureCount (counters.nodes i) (counters.future_packets_count i) datagram
      let counters := counters.served i served
      match served.onward with
      | none => return (counters, ⟨[i], .deleted⟩)
      | some re =>
        match remoteNode topo i re with
        | none => return (counters, ⟨[i], .noLink⟩)
        | some next => passing i <$> travel topo timeToLive counters next datagram

/-! ## The listed switches -/

section Listing

variable {columns : Nat}

theorem getElem?_listAddress (inside : row < MAX_IPADDR_OPTION_ENTRIES)
    (address : IPAddress) (k : Nat) :
    (listAddress r row address).recordAddress[k]? =
      if k = row then some address else r.recordAddress[k]? := by
  show (r.recordAddress.set row address)[k]? = _
  rw [getElem?_set]
  by_cases same : k = row
  · subst same
    rw [if_pos rfl, if_pos rfl, if_pos (r.size ▸ inside)]
  · rw [if_neg (Ne.symm same), if_neg same]

/-- The option when `d` columns of a row have been put into it. -/
def Listed (plane : Plane) (row : Nat) (first : IPRecordRouteOption) (d : Nat)
    (r : IPRecordRouteOption) : Prop :=
  (0 < d → r.nextAddressPtr = d + 1) ∧
    ∀ k, r.recordAddress[k]? = if 1 ≤ k ∧ k ≤ d then some (toAddress (plane.cell row (k + 1)))
      else first.recordAddress[k]?

theorem listColumns_spec {next : IPRecordRouteOption} (room : columns < MAX_IPADDR_OPTION_ENTRIES)
    (success : listColumns plane row columns r = .ok next) : Listed plane row r columns next := by
  have preserved (d : Nat) (early : d < columns)
      (state after : IPRecordRouteOption) (listed : Listed plane row r d state)
      (step : (do
        let switch ← plane.read row (d + 2)
        return listAddress state (d + 1) (toAddress switch)) = .ok after) :
      Listed plane row r (d + 1) after := by
    rcases bind_eq_ok.mp step with ⟨_, read, same⟩
    rw [Plane.read_eq_ok] at read
    cases same
    refine ⟨fun _ => rfl, ?_⟩
    intro k
    rw [getElem?_listAddress (by omega), listed.2]
    by_cases last : k = d + 1
    · subst last
      rw [if_pos rfl, if_pos ⟨by omega, le_rfl⟩, ← read.2]
    · rw [if_neg last]
      by_cases before : 1 ≤ k ∧ k ≤ d
      · rw [if_pos before, if_pos ⟨before.1, by omega⟩]
      · rw [if_neg before, if_neg (by omega)]
  apply forLoop_invariant _ preserved _ success
  refine ⟨fun impossible => absurd impossible (lt_irrefl 0), ?_⟩
  intro _
  rw [if_neg (by omega)]

/-- The addresses that a row lists. -/
def switchesOf (plane : Plane) (row columns : Nat) : List IPAddress :=
  (range columns).map fun d => toAddress (plane.cell row (d + 2))

/-- Nothing has been put behind the entries that are used. -/
def Unused (columns : Nat) (r : IPRecordRouteOption) : Prop :=
  ∀ k, columns < k → k < MAX_IPADDR_OPTION_ENTRIES → r.recordAddress[k]? = some UNSPECIFIED_ADDRESS

theorem futurePacket_eq {next : IPRecordRouteOption} (some_column : 0 < columns) (few : columns < 6)
    (unused : Unused columns r)
    (success : futurePacket routerId plane columns datagram row r = .ok (next, duplcte)) :
    Unused columns next ∧
      duplcte =
        { datagram with
          recordRoute := recorded (routerId :: switchesOf plane row columns)
          num_packets_for_this_path := toInt (plane.cell row 6) } := by
  rcases bind_eq_ok.mp success with ⟨_, columns_listed, later⟩
  rcases bind_eq_ok.mp later with ⟨_, read, same⟩
  rw [Plane.read_eq_ok] at read
  cases same
  have room : columns < MAX_IPADDR_OPTION_ENTRIES := few.trans (by decide)
  have spec := listColumns_spec room columns_listed
  have entry (k : Nat) :
      next.recordAddress[k]? = if 1 ≤ k ∧ k ≤ columns then some (toAddress (plane.cell row (k + 1)))
        else if k = 0 then some routerId else r.recordAddress[k]? := by
    rw [spec.2, getElem?_listAddress (by decide)]
  have whole : (routerId :: switchesOf plane row columns).take 6 =
      routerId :: switchesOf plane row columns := by
    simp [switchesOf]
    omega
  have option : next = recorded (routerId :: switchesOf plane row columns) := by
    apply IPRecordRouteOption.ext_fields
    · apply ext_getElem?
      intro k
      rw [entry]
      dsimp only [recorded]
      rw [whole]
      rcases k with _ | k
      · simp
      · by_cases inside : k < columns
        · rw [if_pos (by omega), getElem?_append_left (by simp [switchesOf]; omega)]
          simp [switchesOf, inside]
        · rw [if_neg (by omega), if_neg (by omega),
            getElem?_append_right (by simp [switchesOf]; omega)]
          by_cases last : k + 1 < MAX_IPADDR_OPTION_ENTRIES
          · rw [unused _ (by omega) last, getElem?_replicate, if_pos]
            simp [switchesOf]
            omega
          · rw [getElem?_eq_none (by rw [r.size]; omega), getElem?_eq_none]
            simp [switchesOf]
            omega
    · dsimp only [recorded]
      rw [whole, spec.1 some_column]
      simp [switchesOf]
  refine ⟨?_, ?_⟩
  · intro k behind last
    rw [entry, if_neg (by omega), if_neg (by omega)]
    exact unused k behind last
  · rw [option, read.2]

theorem futurePackets_spec (some_column : 0 < columns) (few : columns < 6)
    (success : futurePackets routerId plane columns datagram num_routes = .ok (r, packets)) :
    Unused columns r ∧
      packets =
        (range num_routes).map fun c =>
          { datagram with
            recordRoute := recorded (routerId :: switchesOf plane c columns)
            num_packets_for_this_path := toInt (plane.cell c 6) } := by
  induction num_routes generalizing r packets with
  | zero =>
    cases success
    refine ⟨?_, rfl⟩
    intro _ _ last
    exact getElem?_replicate_of_lt last
  | succ _ induction =>
    rcases bind_eq_ok.mp success with ⟨⟨_, _⟩, first, later⟩
    rcases bind_eq_ok.mp later with ⟨⟨_, _⟩, packet, same⟩
    cases same
    rcases induction first with ⟨unused, rfl⟩
    rcases futurePacket_eq some_column few unused packet with ⟨still, rfl⟩
    refine ⟨still, ?_⟩
    rw [range_succ, map_append, map_singleton]

section

variable (routerId : IPAddress) (datagram : IPDatagram)
    (few : columns + 2 ≤ OmnetDsi.Ipv4.DelayLoadMatrix.columns)
include routerId datagram few

theorem futurePacket_total (inside : row < plane.rows) (r : IPRecordRouteOption) :
    ∃ next, futurePacket routerId plane columns datagram row r = .ok next := by
  have advances (d : Nat) (early : d < columns) (state : IPRecordRouteOption) (_ : True) :
      ∃ next, (do
          let switch ← plane.read row (d + 2)
          return listAddress state (d + 1) (toAddress switch)) = .ok next ∧ True := by
    rw [Plane.read_ok inside (by omega)]
    exact ⟨_, rfl, trivial⟩
  have listing : ∃ next,
      listColumns plane row columns (listAddress r 0 routerId) = .ok next ∧ True :=
    forLoop_total _ advances trivial
  rcases listing with ⟨_, listed, _⟩
  rw [futurePacket, listed, Plane.read_ok inside (by decide)]
  exact ⟨_, rfl⟩

theorem futurePackets_total (inside : num_routes ≤ plane.rows) :
    ∃ packets, futurePackets routerId plane columns datagram num_routes = .ok packets := by
  induction num_routes with
  | zero => exact ⟨_, rfl⟩
  | succ _ induction =>
    rcases induction (by omega) with ⟨⟨r, _⟩, earlier⟩
    rcases futurePacket_total _ _ few inside r with ⟨⟨_, _⟩, packet⟩
    rw [futurePackets, earlier]
    dsimp only [bind, Except.bind]
    rw [packet]
    exact ⟨_, rfl⟩

end

end Listing

/-! ## The next hop -/

section NextHop

variable {tree : FatTree h}

section

variable (configured : Configured tree path unset nodes) {own : Node h}
    (switch : own.isHost = false)
include configured switch

theorem nextHopRoute_down
    (best :
      RoutingTable.bestRoute (tableRoutes tree path unset own .rt) next_hop_address = some e) :
    (nextHopRoute (nodes (tree.index own)) next_hop_address).1 = some e := by
  have found := lookup_eq configured switch next_hop_address
  rw [best] at found
  show Option.or ((nodes (tree.index own)).rt.findBestMatchingRoute next_hop_address).1 _ = _
  rw [found]
  rfl

theorem nextHopRoute_search (nowhere :
      RoutingTable.bestRoute (tableRoutes tree path unset own .rt) next_hop_address = none) :
    (nextHopRoute (nodes (tree.index own)) next_hop_address).1 =
      ((tableRoutes tree path unset own .rt1).find? fun re =>
        next_hop_address.equals re.host).or
        (tableRoutes tree path unset own .rt1).getLast? := by
  have found := lookup_eq configured switch next_hop_address
  rw [nowhere] at found
  dsimp only [nextHopRoute]
  rw [found, (allRoutes_eq configured switch).2, Option.none_or]
  cases (tableRoutes tree path unset own .rt1).find? fun re => next_hop_address.equals re.host with
  | none => rfl
  | some _ => rfl

end

section

variable (small : h ≤ 7) (positive : 0 < h) (paths : ShortestPaths tree.topo path)
    (configured : Configured tree path unset nodes)
include small positive paths configured

theorem nextHopRoute_up (switch : own.isHost = false) (linked : up ∈ neighbours own)
    (role : kind own up = some (.rt1, netmask))
    (nowhere :
      RoutingTable.bestRoute (tableRoutes tree path unset own .rt) (address tree up) = none) :
    ∃ e,
      (nextHopRoute (nodes (tree.index own)) (address tree up)).1 = some e ∧
        remoteNode tree.topo (tree.index own) e = some (tree.index up) := by
  rw [nextHopRoute_search configured switch nowhere]
  rcases paths.direct _ _ (tree.index_mem_links.mpr linked) with ⟨link, direct, _⟩
  have member : routeTo tree up netmask link ∈ tableRoutes tree path unset own .rt1 :=
    (mem_tableRoutes positive).mpr ⟨up, linked, netmask, link, role, direct, rfl⟩
  cases search : (tableRoutes tree path unset own .rt1).find? fun re =>
      (address tree up).equals re.host with
  | some e => exact ⟨e, rfl, find_leads small positive paths search⟩
  | none =>
    rw [find?_eq_none] at search
    exact absurd ((equals_iff _ _).mpr rfl) (search _ member)

theorem edge_to_aggregate (pod : Fin (2 * h)) (position above : Fin h) :
    ∃ e,
      (nextHopRoute (nodes (tree.index (.edge pod position)))
          (address tree (.aggregate pod above))).1 = some e ∧
        remoteNode tree.topo (tree.index (.edge pod position)) e =
          some (tree.index (.aggregate pod above)) := by
  apply nextHopRoute_up small positive paths configured rfl
  · simp [neighbours]
  · rfl
  · have own : podIndex (.aggregate pod above) = pod.val + 1 := rfl
    apply edge_up _ small positive _ own
    intro same
    have equal := tree.injective (Nat.succ.inj same)
    cases equal

theorem aggregate_to_core (pod : Fin (2 * h)) (position member : Fin h) :
    ∃ e,
      (nextHopRoute (nodes (tree.index (.aggregate pod position)))
          (address tree (.core position member))).1 = some e ∧
        remoteNode tree.topo (tree.index (.aggregate pod position)) e =
          some (tree.index (.core position member)) := by
  apply nextHopRoute_up small positive paths configured rfl
  · simp [neighbours]
  · rfl
  · apply bestRoute_nowhere _ positive
    intro _ near _ role
    rw [← Bool.not_eq_true]
    intro same
    rcases mem_neighbours_aggregate.mp near with ⟨_, rfl⟩ | ⟨_, rfl⟩ | rfl
    · simp [kind] at role
    · simp only [kind, Option.some.injEq, Prod.mk.injEq, true_and] at role
      subst role
      have pods := ((matches_switch small _ _).mp same).1
      simp only [podIndex] at pods
      omega
    · simp only [kind, Option.some.injEq, Prod.mk.injEq, true_and] at role
      subst role
      have pods := (matches_pod small _ _).mp same
      simp only [podIndex] at pods
      omega

/-- A core switch sends to the aggregate switch below it in any pod. -/
theorem core_to_aggregate (group member : Fin h) (pod : Fin (2 * h)) :
    ∃ e,
      (nextHopRoute (nodes (tree.index (.core group member)))
          (address tree (.aggregate pod group))).1 = some e ∧
        remoteNode tree.topo (tree.index (.core group member)) e =
          some (tree.index (.aggregate pod group)) := by
  rcases core_down _ small positive paths _ _ (.aggregate _ _) rfl with ⟨e, best, leads⟩
  exact ⟨e, nextHopRoute_down configured rfl best, leads⟩

end

theorem core_to_nul (small : h ≤ 7) (positive : 0 < h)
    (configured : Configured tree path unset nodes) (group member : Fin h) :
    (nextHopRoute (nodes (tree.index (.core group member))) nul).1 = none := by
  have nowhere :
      RoutingTable.bestRoute (tableRoutes tree path unset (.core group member) .rt) nul = none := by
    apply bestRoute_nowhere _ positive
    intro other near mask role
    rw [← Bool.not_eq_true]
    intro same
    have pods (above : 0 < podIndex other) (pod_mask : mask = .set 255 0 0 0) : False := by
      subst pod_mask
      have fit : 0 < 256 ∧ 0 < 256 ∧ 0 < 256 ∧ 1 < 256 := by decide
      have octets := (maskedAddrAreEqual_set fit
        (parts_fit _ small _) true false false false).mp same
      have zero := octets.1 rfl
      omega
    rcases mem_neighbours_core.mp near with ⟨_, rfl⟩ | rfl
    all_goals
      simp only [kind, Option.some.injEq, Prod.mk.injEq, true_and] at role
      exact pods (Nat.succ_pos _) role.symm
  have above : tableRoutes tree path unset (.core group member) .rt1 = [] := by
    rw [eq_nil_iff_forall_not_mem]
    intro _ inside
    rcases (mem_tableRoutes positive).mp inside with ⟨_, linked, _, _, role, _, _⟩
    rcases mem_neighbours_core.mp linked with ⟨_, rfl⟩ | rfl
    all_goals simp [kind] at role
  rw [nextHopRoute_search configured rfl nowhere, above]
  rfl

/--
An aggregate switch sends upwards what is for an edge switch elsewhere, on
some route of `rt1`.
-/
theorem aggregate_to_elsewhere (small : h ≤ 7) (positive : 0 < h)
    (paths : ShortestPaths tree.topo path) (configured : Configured tree path unset nodes)
    (different : otherPod ≠ pod) (position otherPosition : Fin h) :
    ∃ e next,
      (nextHopRoute (nodes (tree.index (.aggregate pod position)))
          (address tree (.edge otherPod otherPosition))).1 = some e ∧
        remoteNode tree.topo (tree.index (.aggregate pod position)) e = some next := by
  have switch : (Node.aggregate pod position).isHost = false := rfl
  have nowhere :
      RoutingTable.bestRoute (tableRoutes tree path unset (.aggregate pod position) .rt)
        (address tree (.edge otherPod otherPosition)) = none :=
    aggregate_up _ small positive _ _ rfl different
  rw [nextHopRoute_search configured switch nowhere]
  have leads {e : IPRoute}
      (member : e ∈ tableRoutes tree path unset (.aggregate pod position) .rt1) :
      ∃ next, remoteNode tree.topo (tree.index (.aggregate pod position)) e = some next := by
    rcases (mem_tableRoutes positive).mp member with
      ⟨neighbour, linked, netmask, link, _, direct, rfl⟩
    exact ⟨_, remoteNode_routeTo paths linked direct _⟩
  cases search :
      (tableRoutes tree path unset (.aggregate pod position) .rt1).find?
        fun re => (address tree (.edge otherPod otherPosition)).equals re.host with
  | some e =>
    rcases leads (mem_of_find?_eq_some search) with ⟨next, link⟩
    exact ⟨e, next, rfl, link⟩
  | none =>
    cases last : (tableRoutes tree path unset (.aggregate pod position) .rt1).getLast? with
    | some e =>
      rcases leads (mem_of_getLast? last) with ⟨next, link⟩
      exact ⟨e, next, rfl, link⟩
    | none =>
      have uplinked : ((Node.aggregate pod position).isEdge ||
          (Node.aggregate pod position).isAggregate) = true := rfl
      have count := rt1_getNumRoutes_pos positive paths configured uplinked
      rw [RoutingTable.getNumRoutes, ← length_append, (allRoutes_eq configured switch).2,
        getLast?_eq_none_iff.mp last] at count
      contradiction

end NextHop

/-! ## One node -/

section Hop

variable {counters : Counters} {datagram : IPDatagram} {own : Node h}

theorem routeFutureCount_eq
    (own : node.rt.routerId = routerId) (here : datagram.recordRoute.indexOf routerId = some index)
    (next : datagram.recordRoute.getRecordAddress (index + 1) = some next_hop_address)
    (future_packets_count : Int) :
    routeFutureCount node future_packets_count datagram =
      if ((index + 1 : Nat) : Int) < datagram.packetId then
        match (nextHopRoute node next_hop_address).1 with
        | none => .error .nullRoute
        | some re =>
          .ok
            ⟨{ node with rt := (nextHopRoute node next_hop_address).2 },
              future_packets_count + datagram.num_packets_for_this_path, some re⟩
      else
        .ok ⟨node, future_packets_count + datagram.num_packets_for_this_path, none⟩ := by
  simp only [routeFutureCount, own, here, next]

theorem prerouted_recorded (option : datagram.recordRoute = recorded visited)
    (routerId : IPAddress) :
    (prerouted routerId datagram).recordRoute = recorded (visited ++ [routerId]) := by
  rw [prerouted, option, record_recorded]

theorem following_recorded (option : datagram.recordRoute = recorded visited)
    (here : visited ++ [routerId] = front ++ routerId :: target :: rest)
    (new : routerId ∉ front) (place : front.length = k) (early : k < 5) :
    (prerouted routerId datagram).recordRoute.indexOf routerId = some k ∧
      (prerouted routerId datagram).recordRoute.getRecordAddress (k + 1) = some target := by
  subst place
  rw [prerouted_recorded option, here]
  refine ⟨indexOf_recorded (early.trans (by decide)) new, ?_⟩
  rw [getRecordAddress_recorded (by omega) (by simp), getElem_append_right (by omega)]
  simp

/-- What a node adds to its counter. -/
def raised (counters : Counters) (i : Nat) (count : Int) : Nat → Int :=
  Function.update counters.future_packets_count i (counters.future_packets_count i + count)

section Travelling

variable (configured : Configured tree path unset counters.nodes)
  (option : datagram.recordRoute = recorded visited) (front : List IPAddress)
  (here : visited ++ [address tree own] = front ++ address tree own :: target :: rest)
  (new : address tree own ∉ front) (place : front.length = k) (early : k < 5)
  (counted : datagram.num_packets_for_this_path ≠ -1)

include configured option here new place early counted

theorem travel_onward {next : Nat} (before : ((k + 1 : Nat) : Int) < datagram.packetId)
    (found : (nextHopRoute (counters.nodes (tree.index own)) target).1 = some e)
    (leads : remoteNode tree.topo (tree.index own) e = some next) (timeToLive : Nat) :
    ∃ after, Configured tree path unset after.nodes ∧
      after.future_packets_count =
        raised counters (tree.index own) datagram.num_packets_for_this_path ∧
      travel tree.topo (timeToLive + 1) counters (tree.index own) datagram =
        passing (tree.index own) <$>
          travel tree.topo timeToLive after next (prerouted (address tree own) datagram) := by
  rcases following_recorded option here new place early with ⟨index, following⟩
  have served := routeFutureCount_eq (configured.routerId _) index
    following (counters.future_packets_count (tree.index own))
  have onward : ((k + 1 : Nat) : Int) < (prerouted (address tree own) datagram).packetId := before
  rw [if_pos onward, found] at served
  refine
    ⟨counters.served _
      ⟨{ counters.nodes _ with rt := (nextHopRoute _ _).2 },
        counters.future_packets_count _ + datagram.num_packets_for_this_path, some e⟩,
      configured_lookup configured _ target, rfl, ?_⟩
  rw [travel, configured.routerId _, if_neg (by exact counted), served]
  dsimp only [bind, Except.bind]
  rw [leads]
  rfl

theorem travel_last (reached : datagram.packetId ≤ ((k + 1 : Nat) : Int)) (timeToLive : Nat) :
    ∃ after,
      after.future_packets_count =
        raised counters (tree.index own) datagram.num_packets_for_this_path ∧
      travel tree.topo (timeToLive + 1) counters (tree.index own) datagram =
        .ok (after, ⟨[tree.index own], .deleted⟩) := by
  rcases following_recorded option here new place early with ⟨index, following⟩
  have served := routeFutureCount_eq (configured.routerId _) index
    following (counters.future_packets_count (tree.index own))
  have final : ¬((k + 1 : Nat) : Int) < (prerouted (address tree own) datagram).packetId :=
    not_lt.mpr reached
  rw [if_neg final] at served
  refine
    ⟨counters.served _
      ⟨counters.nodes (tree.index own),
        counters.future_packets_count _ + datagram.num_packets_for_this_path, none⟩,
      rfl, ?_⟩
  rw [travel, configured.routerId, if_neg (by exact counted), served]
  rfl

theorem travel_lost (before : ((k + 1 : Nat) : Int) < datagram.packetId)
    (unknown : (nextHopRoute (counters.nodes (tree.index own)) target).1 = none)
    (timeToLive : Nat) :
    travel tree.topo (timeToLive + 1) counters (tree.index own) datagram = .error .nullRoute := by
  rcases following_recorded option here new place early with ⟨index, following⟩
  have served := routeFutureCount_eq (configured.routerId _) index
    following (counters.future_packets_count (tree.index own))
  have onward : ((k + 1 : Nat) : Int) < (prerouted (address tree own) datagram).packetId := before
  rw [if_pos onward, unknown] at served
  rw [travel, configured.routerId, if_neg (by exact counted), served]
  rfl

end Travelling

variable {after : Counters}

theorem visited_of_deleted (travels : travel topo timeToLive counters i datagram = .ok (after, way))
    (deleted : way.final = .deleted) : way.visited ≠ [] := by
  cases timeToLive with
  | zero =>
    cases travels
    cases deleted
  | succ _ =>
    rw [travel] at travels
    split_ifs at travels with probe
    · cases travels
      cases deleted
    · rcases bind_eq_ok.mp travels with ⟨served, _, later⟩
      cases onward : served.onward with
      | none =>
        rw [onward] at later
        cases later
        exact cons_ne_nil _ _
      | some re =>
        rw [onward] at later
        cases leads : remoteNode topo i re with
        | none =>
          dsimp only at later
          rw [leads] at later
          cases later
          cases deleted
        | some _ =>
          dsimp only at later
          rw [leads] at later
          rcases map_eq_ok.mp later with ⟨_, _, same⟩
          cases same
          exact cons_ne_nil _ _

theorem passing_eq_ok {first : Except IPError (Counters × Way)} :
    passing i <$> first = .ok (after, ⟨j :: listed, .deleted⟩) ↔
      first = .ok (after, ⟨listed, .deleted⟩) ∧ i = j := by
  rw [map_eq_ok]
  constructor
  · rintro ⟨⟨_, _, _⟩, success, same⟩
    cases same
    exact ⟨success, rfl⟩
  · rintro ⟨success, rfl⟩
    exact ⟨_, success, rfl⟩

theorem travel_ne_deleted :
    travel topo timeToLive counters i datagram ≠ .ok (after, ⟨[], .deleted⟩) :=
  fun travels => visited_of_deleted travels rfl rfl

end Hop

end OmnetDsi.Ipv4.FutureCounts
