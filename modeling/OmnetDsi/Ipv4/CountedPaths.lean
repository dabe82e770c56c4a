import OmnetDsi.Ipv4.FutureCounts

/-!
# The paths on which future packets are counted

A future-count packet is to be served by the switches of the path it lists and
by no others (`CountedAlong`).  In a configured fat tree of four ports it is,
unless the count is the one that marks a probe or the row was found by a
hash-path reply and its way down is not known.  With more ports the last
switch sends the packet on: back to the source edge switch in the same pod,
up to some core switch in another one.
-/

namespace OmnetDsi.Ipv4.CountedPaths

open Contract.Addresses Library.BinaryFloat Ipv4.RoutingTables Ipv4.Datagrams Ipv4.DataForwarding
open Ipv4.RouteDiscovery Ipv4.DelayLoadMatrix Ipv4.FutureCounts Autorouting.FatTrees
open Autorouting.NetworkConfigurator Autorouting.ExtractedTopology Autorouting.NodeNumbers
open Autorouting.AddressPlan Autorouting.ConfiguredTables Autorouting.StandardTree

/-! ## The listed path -/

/--
The packet is served by the listed nodes and no others, each of them adds the
count once, and the last one deletes the packet.
-/
def CountedAlong (topo : Topology) (counters : Counters) (source : Nat)
    (datagram : IPDatagram) (listed : List Nat) (count : Int) : Prop :=
  listed.Nodup ∧
    ∃ after,
      travel topo defaultTimeToLive counters source datagram = .ok (after, ⟨listed, .deleted⟩) ∧
        ∀ i, after.future_packets_count i =
          counters.future_packets_count i + if i ∈ listed then count else 0

section Path

variable {above : Fin h}

theorem raised_apply (counters : Counters) (i : Nat) (count : Int) (k : Nat) :
    raised counters i count k = counters.future_packets_count k + if k = i then count else 0 := by
  unfold raised
  by_cases same : k = i
  · subst same
    rw [Function.update_self, if_pos rfl]
  · rw [Function.update_of_ne same, if_neg same, add_zero]

theorem not_countedAlong_of_probe (probe : datagram.num_packets_for_this_path = -1) :
    ¬CountedAlong topo counters source datagram listed count := by
  rintro ⟨_, _, travels, _⟩
  have taken :
      travel topo (31 + 1) counters source datagram = .ok (counters, ⟨[], .takenForProbe⟩) := by
    rw [travel]
    exact if_pos probe
  have same := taken.symm.trans travels
  cases same

theorem samePod_countedAlong_iff (datagram : IPDatagram) (two : 2 ≤ h)
    (small : h ≤ 7) (paths : ShortestPaths tree.topo path)
    (configured : Configured tree path unset counters.nodes)
    (option : datagram.recordRoute =
      recorded [address tree (.edge sourcePod sourceEdge),
        address tree (.aggregate sourcePod above)])
    (packetId : datagram.packetId = (h : Nat)) :
    CountedAlong tree.topo counters (tree.index (.edge sourcePod sourceEdge)) datagram
        [tree.index (.edge sourcePod sourceEdge), tree.index (.aggregate sourcePod above)]
        datagram.num_packets_for_this_path ↔
      h = 2 ∧ datagram.num_packets_for_this_path ≠ -1 := by
  have positive : 0 < h := by omega
  have apart : tree.index (.edge sourcePod sourceEdge) ≠ tree.index (.aggregate sourcePod above) :=
    tree.injective.ne (by simp)
  have addresses : address tree (.aggregate sourcePod above) ∉
      [address tree (.edge sourcePod sourceEdge)] := by
    rw [List.mem_singleton, (address_injective _ small).eq_iff]
    simp
  by_cases counted : datagram.num_packets_for_this_path = -1
  · exact iff_of_false (not_countedAlong_of_probe counted) fun right => right.2 counted
  rcases edge_to_aggregate small positive paths configured _ _ _ with ⟨up, found, leads⟩
  rcases travel_onward configured option [] rfl List.not_mem_nil
    (k := 0) rfl (by decide) counted (by omega) found leads
    31 with ⟨first, configuredFirst, raisedFirst, travelFirst⟩
  have optionFirst := prerouted_recorded option (address tree (.edge sourcePod sourceEdge))
  rw [CountedAlong, show defaultTimeToLive = 31 + 1 from rfl, travelFirst]
  by_cases ports : h = 2
  · have reached :
        (prerouted (address tree (.edge sourcePod sourceEdge))
          datagram).packetId ≤ ((1 + 1 : Nat) : Int) := by
      show datagram.packetId ≤ _
      omega
    rcases travel_last configuredFirst optionFirst [_] rfl addresses
      (k := 1) rfl (by decide) counted reached 30 with
        ⟨after, raisedAfter, travelAfter⟩
    refine iff_of_true ⟨?_, after, ?_, ?_⟩ ⟨ports, counted⟩
    · simp [apart]
    · rw [passing_eq_ok]
      exact ⟨travelAfter, rfl⟩
    · intro _
      rw [raisedAfter, raised_apply, raisedFirst, raised_apply]
      simp only [List.mem_cons, List.not_mem_nil, or_false]
      show _ + (if _ then datagram.num_packets_for_this_path else 0) = _
      split_ifs <;> omega
  · have onward : ((1 + 1 : Nat) : Int) <
        (prerouted (address tree (.edge sourcePod sourceEdge)) datagram).packetId := by
      show _ < datagram.packetId
      omega
    rcases aggregate_down unset small positive paths above _ rfl rfl with ⟨down, best, leadsDown⟩
    rcases travel_onward configuredFirst optionFirst [_] rfl addresses
      (k := 1) rfl (by decide) counted onward
      (nextHopRoute_down configuredFirst rfl best) leadsDown 30 with
        ⟨second, _, _, travelSecond⟩
    refine iff_of_false ?_ fun right => ports right.1
    rintro ⟨_, _, travels, _⟩
    rw [passing_eq_ok, show (31 : Nat) = 30 + 1 from rfl, travelSecond, passing_eq_ok] at travels
    exact travel_ne_deleted travels.1.1

theorem nul_ne_address (tree : FatTree h) (small : h ≤ 7) :
    nul ≠ address tree (.aggregate pod position) := by
  intro same
  have octets := getDByte_address tree small (.aggregate pod position)
  rw [← same] at octets
  have layer : nul.getDByte 1 = 2 := octets.2.1
  exact absurd layer (by decide)

/-- The path of a flow to another pod; its way down may be unknown. -/
theorem otherPod_countedAlong_iff (datagram : IPDatagram) (two : 2 ≤ h)
    (small : h ≤ 7) (paths : ShortestPaths tree.topo path)
    (configured : Configured tree path unset counters.nodes) (different : sourcePod ≠ destPod)
    (option : datagram.recordRoute =
      recorded [address tree (.edge sourcePod sourceEdge),
        address tree (.aggregate sourcePod above), address tree (.core above member), down])
    (known : down = address tree (.aggregate destPod above) ∨ down = nul)
    (packetId : datagram.packetId = (h * h : Nat)) :
    CountedAlong tree.topo counters (tree.index (.edge sourcePod sourceEdge)) datagram
        [tree.index (.edge sourcePod sourceEdge),
          tree.index (.aggregate sourcePod above), tree.index (.core above member),
          tree.index (.aggregate destPod above)]
        datagram.num_packets_for_this_path ↔
      h = 2 ∧ datagram.num_packets_for_this_path ≠ -1 ∧
        down = address tree (.aggregate destPod above) := by
  have positive : 0 < h := by omega
  have routes : 2 * 2 ≤ h * h := Nat.mul_le_mul two two
  have addresses := address_injective tree small
  have secondNew : address tree (.aggregate sourcePod above) ∉
      [address tree (.edge sourcePod sourceEdge)] := by
    simp [addresses.eq_iff]
  have thirdNew : address tree (.core above member) ∉
      [address tree (.edge sourcePod sourceEdge), address tree (.aggregate sourcePod above)] := by
    simp [addresses.eq_iff]
  have fourthNew : address tree (.aggregate destPod above) ∉
      [address tree (.edge sourcePod sourceEdge), address tree (.aggregate sourcePod above),
        address tree (.core above member)] := by
    simp [addresses.eq_iff, different.symm]
  by_cases counted : datagram.num_packets_for_this_path = -1
  · exact iff_of_false (not_countedAlong_of_probe counted) fun right => right.2.1 counted
  have onward (k : Nat) (early : k + 1 < 4) : ((k + 1 : Nat) : Int) < datagram.packetId := by
    rw [packetId]
    exact_mod_cast early.trans_le routes
  rcases edge_to_aggregate small positive paths configured _ _ _ with ⟨up, found, leads⟩
  rcases travel_onward configured option [] rfl List.not_mem_nil
    (k := 0) rfl (by decide) counted (onward 0 (by decide)) found leads
    31 with ⟨first, configuredFirst, raisedFirst, travelFirst⟩
  have optionFirst := prerouted_recorded option (address tree (.edge sourcePod sourceEdge))
  rcases aggregate_to_core small positive paths configuredFirst sourcePod
    above member with ⟨upAgain, foundFirst, leadsFirst⟩
  rcases travel_onward configuredFirst optionFirst [_] rfl secondNew
    (k := 1) rfl (by decide) counted (onward 1 (by decide)) foundFirst
    leadsFirst 30 with ⟨second, configuredSecond, raisedSecond, travelSecond⟩
  have optionSecond := prerouted_recorded optionFirst (address tree (.aggregate sourcePod above))
  rw [CountedAlong, show defaultTimeToLive = 31 + 1 from rfl, travelFirst,
    show (31 : Nat) = 30 + 1 from rfl, travelSecond]
  rcases known with rfl | rfl
  · rcases core_to_aggregate small positive paths configuredSecond above
      member destPod with ⟨back, foundSecond, leadsSecond⟩
    rcases travel_onward configuredSecond optionSecond [_, _] rfl thirdNew
      (k := 2) rfl (by decide) counted (onward 2 (by decide)) foundSecond
      leadsSecond 29 with ⟨third, configuredThird, raisedThird, travelThird⟩
    have optionThird := prerouted_recorded optionSecond (address tree (.core above member))
    rw [show (30 : Nat) = 29 + 1 from rfl, travelThird]
    by_cases ports : h = 2
    · have reached : datagram.packetId ≤ ((3 + 1 : Nat) : Int) := by
        have square : h * h = 2 * 2 := congrArg₂ _ ports ports
        rw [packetId, square]
      rcases travel_last configuredThird optionThird [_, _, _] rfl
        fourthNew (k := 3) rfl (by decide) counted reached 28 with
          ⟨after, raisedAfter, travelAfter⟩
      refine iff_of_true ⟨?_, after, ?_, ?_⟩ ⟨ports, counted, rfl⟩
      · simp [tree.injective.eq_iff, different]
      · rw [passing_eq_ok, passing_eq_ok, passing_eq_ok]
        exact ⟨⟨⟨travelAfter, rfl⟩, rfl⟩, rfl⟩
      · intro _
        have apart : [tree.index (.edge sourcePod sourceEdge),
            tree.index (.aggregate sourcePod above), tree.index (.core above member),
            tree.index (.aggregate destPod above)].Nodup := by
          simp [tree.injective.eq_iff, different]
        simp only [List.nodup_cons, List.mem_cons, List.not_mem_nil, or_false, not_or] at apart
        rw [raisedAfter, raised_apply, raisedThird, raised_apply,
          raisedSecond, raised_apply, raisedFirst, raised_apply]
        simp only [List.mem_cons, List.not_mem_nil, or_false]
        show _ + (if _ then datagram.num_packets_for_this_path else 0) +
          (if _ then datagram.num_packets_for_this_path else 0) +
          (if _ then datagram.num_packets_for_this_path else 0) = _
        split_ifs <;> omega
    · have larger : ((3 + 1 : Nat) : Int) < datagram.packetId := by
        have three : 3 * 3 ≤ h * h := Nat.mul_le_mul (by omega) (by omega)
        rw [packetId]
        exact_mod_cast (by omega : 3 + 1 < h * h)
      rcases aggregate_to_elsewhere small positive paths configuredThird
        different above sourceEdge with ⟨e, next, foundThird, leadsThird⟩
      rcases travel_onward configuredThird optionThird [_, _, _] rfl
        fourthNew (k := 3) rfl (by decide) counted larger foundThird
        leadsThird 28 with ⟨fourth, _, _, travelFourth⟩
      refine iff_of_false ?_ fun right => ports right.1
      rintro ⟨_, _, travels, _⟩
      rw [show (29 : Nat) = 28 + 1 from rfl, travelFourth, passing_eq_ok,
        passing_eq_ok, passing_eq_ok, passing_eq_ok] at travels
      exact travel_ne_deleted travels.1.1.1.1
  · have lost := travel_lost configuredSecond optionSecond [_, _] rfl
      thirdNew (k := 2) rfl (by decide) counted (onward 2 (by decide))
      (core_to_nul small positive configuredSecond above member) 29
    refine iff_of_false ?_ fun right => nul_ne_address tree small right.2.2
    rintro ⟨_, _, travels, _⟩
    rw [show (30 : Nat) = 29 + 1 from rfl, lost, passing_eq_ok, passing_eq_ok] at travels
    cases travels.1.1

end Path

/-! ## The packets of a flow -/

section Flow

variable {tree : FatTree h} {path : Nat → Nat → Option Nat} {counters : Counters}

theorem toAddress_switch (isSwitch : IsSwitchAddress switch) :
    toAddress (toFloat switch.getInt) = switch := by
  have bound : switch.getInt < 2 ^ 32 := switch.addr.isLt
  rw [toAddress, toFloat_switch isSwitch, toInteger_intCast (by omega) (by omega)]
  exact congrArg IPAddress.mk (BitVec.eq_of_toNat_eq (by simp [IPAddress.getInt]))

/-- The packet that lists the given switches. -/
def futureDatagram (tree : FatTree h) (sourcePod : Fin (2 * h))
    (sourceEdge : Fin h) (num_routes : Nat) (switches : List IPAddress)
    (count : Int) : IPDatagram where
  srcAddress := address tree (.edge sourcePod sourceEdge)
  destAddress := .set 0 0 0 0
  load := .finite 0
  num_packets_for_this_path := count
  transportProtocol := 1
  timeToLive := defaultTimeToLive
  packetId := num_routes
  recordRoute := recorded (address tree (.edge sourcePod sourceEdge) :: switches)

theorem sameOctet_iff (tree : FatTree h) (small : h ≤ 7) (sourcePod destPod : Fin (2 * h))
    (sourceEdge sourceSlot destEdge destSlot : Fin h) :
    (address tree (.host sourcePod sourceEdge sourceSlot)).getDByte 0 =
        (address tree (.host destPod destEdge destSlot)).getDByte 0 ↔
      sourcePod = destPod := by
  rw [(getDByte_address _ small _).1, (getDByte_address _ small _).1]
  constructor
  · intro equal
    simp only [podIndex] at equal
    exact Fin.ext (by omega)
  · rintro rfl
    rfl

theorem upto_column_eq (tree : FatTree h) (small : h ≤ 7) (sourcePod destPod : Fin (2 * h))
    (sourceEdge sourceSlot destEdge destSlot : Fin h) :
    upto_column_in_matrix (address tree (.host sourcePod sourceEdge sourceSlot))
        (address tree (.host destPod destEdge destSlot)) - 1 =
      if sourcePod = destPod then 1 else 3 := by
  have pods := sameOctet_iff tree small sourcePod destPod sourceEdge sourceSlot destEdge destSlot
  unfold upto_column_in_matrix
  by_cases same : sourcePod = destPod
  · rw [if_pos (pods.mpr same), if_pos same]
  · rw [if_neg fun equal => same (pods.mp equal), if_neg same]

section

variable (small : h ≤ 7) (configured : Configured tree path unset counters.nodes)
include small configured

theorem encapsulate_eq (num_routes : Nat) :
    encapsulate (counters.nodes (tree.index (.edge sourcePod sourceEdge)))
        { packetId := num_routes
          srcPort := 0
          destPort := 0
          destAddr := .set 0 0 0 0
          srcAddr := address tree (.edge sourcePod sourceEdge)
          protocol := 1
          load := .finite 0
          num_packets_for_this_path := 0 } =
      .ok (futureDatagram tree sourcePod sourceEdge num_routes [] 0) := by
  have unicast : (IPAddress.set 0 0 0 0).isMulticast = false := by decide
  have start :
      ({} : IPRecordRouteOption).record (address tree (.edge sourcePod sourceEdge)) =
        recorded [address tree (.edge sourcePod sourceEdge)] :=
    record_recorded [] _
  apply (encapsulate_own small configured rfl unicast rfl).trans
  rfl

theorem send_future_packet_count_eq (sourceSlot destEdge destSlot : Fin h)
    (sent :
      send_future_packet_count (counters.nodes (tree.index (.edge sourcePod sourceEdge))) plane
          (address tree (.host sourcePod sourceEdge sourceSlot))
          (address tree (.host destPod destEdge destSlot)) num_routes =
        .ok packets) :
    packets =
      (List.range num_routes).map fun c =>
        futureDatagram tree sourcePod sourceEdge num_routes
          (switchesOf plane c (if sourcePod = destPod then 1 else 3)) (toInt (plane.cell c 6)) := by
  rw [send_future_packet_count, configured.routerId, encapsulate_eq small configured,
    upto_column_eq _ small] at sent
  dsimp only [Except.mapError, bind, Except.bind] at sent
  cases listing : futurePackets (address tree (.edge sourcePod sourceEdge))
      plane (if sourcePod = destPod then 1 else 3)
      (futureDatagram tree sourcePod sourceEdge num_routes [] 0) num_routes with
  | error _ =>
    rw [listing] at sent
    cases sent
  | ok _ =>
    rw [listing] at sent
    cases sent
    have some_column : 0 < if sourcePod = destPod then 1 else 3 := by split_ifs <;> decide
    have few : (if sourcePod = destPod then 1 else 3) < 6 := by split_ifs <;> decide
    exact (futurePackets_spec some_column few listing).2

theorem send_future_packet_count_total (sourcePod destPod : Fin (2 * h))
    (sourceEdge sourceSlot destEdge destSlot : Fin h) (inside : num_routes ≤ plane.rows) :
    ∃ packets,
      send_future_packet_count (counters.nodes (tree.index (.edge sourcePod sourceEdge))) plane
          (address tree (.host sourcePod sourceEdge sourceSlot))
          (address tree (.host destPod destEdge destSlot)) num_routes =
        .ok packets := by
  have few : (if sourcePod = destPod then 1 else 3) + 2 ≤
      OmnetDsi.Ipv4.DelayLoadMatrix.columns := by
    split_ifs <;> decide
  rcases futurePackets_total _ _ few inside with ⟨packets, listing⟩
  refine ⟨packets.2, ?_⟩
  rw [send_future_packet_count, configured.routerId, encapsulate_eq small configured,
    upto_column_eq _ small]
  dsimp only [Except.mapError, bind, Except.bind]
  rw [listing]
  rfl

end

/-- A row holds a path of the flow; its way down may be unknown. -/
structure PathRow (tree : FatTree h) (plane : Plane) (c : Nat)
    (sourcePod destPod : Fin (2 * h)) (above member : Fin h) : Prop where
  aggregate : plane.cell c 2 = toFloat (address tree (.aggregate sourcePod above)).getInt
  core : sourcePod ≠ destPod → plane.cell c 3 = toFloat (address tree (.core above member)).getInt
  wayDown : sourcePod ≠ destPod →
    plane.cell c 4 = toFloat (address tree (.aggregate destPod above)).getInt ∨
      plane.cell c 4 = toFloat nul.getInt

/-- The switches of a path that send data packets on. -/
def pathSwitches (sourcePod destPod : Fin (2 * h))
    (sourceEdge above member : Fin h) : List (Node h) :=
  if sourcePod = destPod then [.edge sourcePod sourceEdge, .aggregate sourcePod above]
  else
    [.edge sourcePod sourceEdge, .aggregate sourcePod above,
      .core above member, .aggregate destPod above]

theorem isSwitchAddress_address (tree : FatTree h) (small : h ≤ 7)
    (noHost : hostNumber tree node = 0) : IsSwitchAddress (address tree node) :=
  (getDByte_address _ small _).2.2.2.trans noHost

theorem num_routes_eq (tree : FatTree h) (small : h ≤ 7) (sourcePod destPod : Fin (2 * h))
    (sourceEdge sourceSlot destEdge destSlot : Fin h) :
    (num_routes_for_this_packet (2 * h) (address tree (.host sourcePod sourceEdge sourceSlot))
        (address tree (.host destPod destEdge destSlot))).toNat =
      if sourcePod = destPod then h else h * h := by
  have pods := sameOctet_iff tree small sourcePod destPod sourceEdge sourceSlot destEdge destSlot
  have half : ((2 * h : Nat) : Int).tdiv 2 = h := by
    push_cast
    exact Int.mul_tdiv_cancel_left _ (by decide)
  have quarter : ((2 * h : Int) * (2 * h)).tdiv 4 = (h * h : Nat) := by
    have product : (2 * h : Int) * (2 * h) = 4 * (h * h : Nat) := by
      push_cast
      ring
    rw [product]
    exact Int.mul_tdiv_cancel_left _ (by decide)
  unfold num_routes_for_this_packet
  by_cases same : sourcePod = destPod
  · rw [if_pos (pods.mpr same), if_pos same]
    exact congrArg Int.toNat half
  · rw [if_neg fun equal => same (pods.mp equal), if_neg same, quarter]
    rfl

theorem futureDatagram_countedAlong_iff (two : 2 ≤ h) (small : h ≤ 7)
    (paths : ShortestPaths tree.topo path) (configured : Configured tree path unset counters.nodes)
    (row : PathRow tree plane c sourcePod destPod above member) (sourceEdge : Fin h) :
    CountedAlong tree.topo counters (tree.index (.edge sourcePod sourceEdge))
        (futureDatagram tree sourcePod sourceEdge (if sourcePod = destPod then h else h * h)
          (switchesOf plane c (if sourcePod = destPod then 1 else 3)) (toInt (plane.cell c 6)))
        ((pathSwitches sourcePod destPod sourceEdge above member).map tree.index)
        (toInt (plane.cell c 6)) ↔
      h = 2 ∧ toInt (plane.cell c 6) ≠ -1 ∧
        (sourcePod ≠ destPod → plane.cell c 4 =
          toFloat (address tree (.aggregate destPod above)).getInt) := by
  have aggregate : toAddress (plane.cell c 2) = address tree (.aggregate sourcePod above) := by
    rw [row.aggregate]
    exact toAddress_switch (isSwitchAddress_address _ small rfl)
  by_cases same : sourcePod = destPod
  · have listed : switchesOf plane c 1 = [address tree (.aggregate sourcePod above)] := by
      rw [← aggregate]
      rfl
    have counted := samePod_countedAlong_iff
      (futureDatagram _ _ sourceEdge h (switchesOf plane c 1) (toInt (plane.cell c 6)))
      two small paths configured (congrArg (fun switches => recorded _) listed) rfl
    rw [pathSwitches, if_pos same, if_pos same, if_pos same]
    apply counted.trans
    simp [same, futureDatagram]
  · have core : toAddress (plane.cell c 3) = address tree (.core above member) := by
      rw [row.core same]
      exact toAddress_switch (isSwitchAddress_address tree small rfl)
    have down : toAddress
        (toFloat (address tree (.aggregate destPod above)).getInt) =
          address tree (.aggregate destPod above) :=
      toAddress_switch (isSwitchAddress_address tree small rfl)
    have unknown : toAddress (toFloat nul.getInt) = nul := by decide +kernel
    have known : toAddress (plane.cell c 4) =
        address tree (.aggregate destPod above) ∨ toAddress (plane.cell c 4) = nul := by
      rcases row.wayDown same with here | here
      · exact .inl (here ▸ down)
      · exact .inr (here ▸ unknown)
    have listed : switchesOf plane c 3 =
        [address tree (.aggregate sourcePod above),
          address tree (.core above member), toAddress (plane.cell c 4)] := by
      rw [← aggregate, ← core]
      rfl
    have counted := otherPod_countedAlong_iff
      (futureDatagram tree sourcePod sourceEdge (h * h)
        (switchesOf plane c 3) (toInt (plane.cell c 6)))
      two small paths configured same
      (congrArg (fun switches => recorded _) listed)
      known rfl
    have cells :
        toAddress (plane.cell c 4) = address tree (.aggregate destPod above) ↔
          plane.cell c 4 = toFloat (address tree (.aggregate destPod above)).getInt := by
      constructor
      · intro equal
        rcases row.wayDown same with here | here
        · exact here
        · rw [here, unknown] at equal
          exact absurd equal (nul_ne_address tree small)
      · intro equal
        rw [equal, down]
    rw [pathSwitches, if_neg same, if_neg same, if_neg same]
    apply counted.trans
    rw [cells]
    simp [same, futureDatagram]

/--
In a configured fat tree the packet for a path of a flow is served by exactly
the switches of the path, once each, if there are four ports, the count is
not that of a probe, and the way down is known.
-/
theorem future_counts_along_path (tree : FatTree h) (unset : Indeterminate)
    (ports : 4 ≤ 2 * h) (fits : IdsFit tree.topo unset) (paths : ShortestPaths tree.topo path)
    (configured : Configured tree path unset counters.nodes) (sourcePod destPod : Fin (2 * h))
    (sourceEdge sourceSlot destEdge destSlot above member : Fin h) {packets : List IPDatagram}
    (sent :
      send_future_packet_count (counters.nodes (tree.index (.edge sourcePod sourceEdge))) plane
          (address tree (.host sourcePod sourceEdge sourceSlot))
          (address tree (.host destPod destEdge destSlot))
          (num_routes_for_this_packet (2 * h) (address tree (.host sourcePod sourceEdge sourceSlot))
            (address tree (.host destPod destEdge destSlot))).toNat =
        .ok packets)
    {c : Nat}
    {packet : IPDatagram}
    (listed : packets[c]? = some packet)
    (row : PathRow tree plane c sourcePod destPod above member) :
    CountedAlong tree.topo counters (tree.index (.edge sourcePod sourceEdge)) packet
        ((pathSwitches sourcePod destPod sourceEdge above member).map tree.index)
        (toInt (plane.cell c 6)) ↔
      2 * h = 4 ∧ toInt (plane.cell c 6) ≠ -1 ∧
        (sourcePod ≠ destPod → plane.cell c 4 =
          toFloat (address tree (.aggregate destPod above)).getInt) := by
  have small : h ≤ 7 := (idsFit_iff _ _ (by omega)).mp fits
  have all := send_future_packet_count_eq small configured _ _ _ sent
  rw [num_routes_eq _ small] at all
  subst all
  rw [List.getElem?_map, Option.map_eq_some_iff] at listed
  rcases listed with ⟨_, present, rfl⟩
  rcases List.getElem?_eq_some_iff.mp present with ⟨_, same⟩
  rw [List.getElem_range] at same
  subst same
  have four : 2 * h = 4 ↔ h = 2 := by omega
  rw [four]
  exact futureDatagram_countedAlong_iff (by omega) small paths configured row _

end Flow

/-! ## Trees of four and of six ports -/

/-- All rows hold the same path and the same count. -/
def samplePlane (tree : FatTree h) (sourcePod destPod : Fin (2 * h))
    (above member : Fin h) (count : ℤ) : Plane where
  rows := 2 * h
  cell _ col :=
    if col = 2 then toFloat (address tree (.aggregate sourcePod above)).getInt
    else if col = 3 then toFloat (address tree (.core above member)).getInt
    else if col = 4 then toFloat (address tree (.aggregate destPod above)).getInt
    else .finite count

theorem samplePlane_row (tree : FatTree h) (sourcePod destPod : Fin (2 * h))
    (above member : Fin h) (count : ℤ) (c : Nat) :
    PathRow tree (samplePlane tree sourcePod destPod above member count) c
      sourcePod destPod above member where
  aggregate := rfl
  core _ := rfl
  wayDown _ := .inl rfl

/-- A configured network, and the packets for a plane of it. -/
def SendsFutureCounts (tree : FatTree h) (sourcePod destPod : Fin (2 * h))
    (sourceEdge sourceSlot destEdge destSlot : Fin h) (plane : Plane)
    (counters : Counters) (packets : List IPDatagram) : Prop :=
  Configured tree (shortestPath tree.topo) zeroed counters.nodes ∧
    send_future_packet_count (counters.nodes (tree.index (.edge sourcePod sourceEdge))) plane
        (address tree (.host sourcePod sourceEdge sourceSlot))
        (address tree (.host destPod destEdge destSlot))
        (num_routes_for_this_packet (2 * h) (address tree (.host sourcePod sourceEdge sourceSlot))
          (address tree (.host destPod destEdge destSlot))).toNat =
      .ok packets

theorem exists_future_packets (tree : FatTree h) (two : 2 ≤ h) (small : h ≤ 7)
    (sourcePod destPod : Fin (2 * h)) (sourceEdge sourceSlot destEdge destSlot : Fin h)
    (inside : (if sourcePod = destPod then h else h * h) ≤ plane.rows) :
    ∃ counters packets packet,
      SendsFutureCounts tree sourcePod destPod sourceEdge sourceSlot
          destEdge destSlot plane counters packets ∧
        packets[0]? = some packet := by
  have positive : 0 < h := by omega
  have inhabited : 0 < tree.topo.numNodes :=
    (Nat.zero_le _).trans_lt (tree.index_lt (.controller : Node h))
  rcases configure_configured small positive (shortestPath_spec inhabited)
    _ with ⟨nodes, _, configured⟩
  have configured : Configured tree (shortestPath tree.topo) zeroed
      (Counters.mk nodes fun _ => 0).nodes := configured
  rcases send_future_packet_count_total small configured _ _ _ _ _ _ inside with ⟨packets, sent⟩
  have all := send_future_packet_count_eq small configured _ _ _ sent
  have some_route : 0 < if sourcePod = destPod then h else h * h := by
    split_ifs
    · exact positive
    · exact Nat.mul_pos positive positive
  have first : ∃ packet, packets[0]? = some packet := by
    rw [all, List.getElem?_map, List.getElem?_range some_route]
    exact ⟨_, rfl⟩
  rcases first with ⟨packet, present⟩
  refine ⟨_, packets, packet, ⟨configured, ?_⟩, present⟩
  rwa [num_routes_eq _ small]

/-- With four ports the packet for a path to another pod. -/
theorem future_counts_along_path_four_ports :
    ∃ counters packets packet,
      SendsFutureCounts (standard 2) 0 1 0 0 0 0
          (samplePlane (standard 2) 0 1 0 0 10) counters packets ∧
        packets[0]? = some packet ∧
        CountedAlong (standard 2).topo counters ((standard 2).index (.edge 0 0)) packet
          ((pathSwitches 0 1 0 0 0).map (standard 2).index)
          (toInt ((samplePlane (standard 2) 0 1 0 0 10).cell 0 6)) := by
  have fits : IdsFit (standard 2).topo zeroed := (idsFit_iff _ _ (by decide)).mpr (by decide)
  have paths : ShortestPaths (standard 2).topo (shortestPath (standard 2).topo) :=
    shortestPath_spec (by decide)
  have enough : (if (0 : Fin (2 * 2)) = 1 then 2 else 2 * 2) ≤
      (samplePlane (standard 2) 0 1 0 0 10).rows := by decide
  rcases exists_future_packets _ (by decide) (by decide) 0 1 0 0
    0 0 enough with ⟨counters, packets, packet, sends, first⟩
  refine ⟨counters, packets, packet, sends, first, ?_⟩
  have row := samplePlane_row (standard 2) 0 1 0 0 10 0
  rw [future_counts_along_path _ _ (by decide) fits paths sends.1 0 1 0 0 0 0 0 0 sends.2 first row]
  refine ⟨by decide, ?_, fun _ => rfl⟩
  show toInt (.finite ((10 : ℤ) : ℚ)) ≠ -1
  decide

/-- With six ports the packet for a path within a pod goes back and forth. -/
theorem six_ports_not_counted :
    ∃ counters packets packet,
      SendsFutureCounts (standard 3) 0 0 0 0 1 0
          (samplePlane (standard 3) 0 0 0 0 10) counters packets ∧
        packets[0]? = some packet ∧
        ¬CountedAlong (standard 3).topo counters ((standard 3).index (.edge 0 0)) packet
          ((pathSwitches 0 0 0 0 0).map (standard 3).index)
          (toInt ((samplePlane (standard 3) 0 0 0 0 10).cell 0 6)) := by
  have paths : ShortestPaths (standard 3).topo (shortestPath (standard 3).topo) :=
    shortestPath_spec (by decide)
  have enough : (if (0 : Fin (2 * 3)) = 0 then 3 else 3 * 3) ≤
      (samplePlane (standard 3) 0 0 0 0 10).rows := by decide
  rcases exists_future_packets _ (by decide) (by decide) 0 0 0 0
    1 0 enough with ⟨counters, packets, packet, sends, first⟩
  refine ⟨counters, packets, packet, sends, first, ?_⟩
  have row := samplePlane_row (standard 3) 0 0 0 0 10 0
  have all := send_future_packet_count_eq (by decide) sends.1 0 1 0 sends.2
  rw [num_routes_eq _ (by decide)] at all
  rw [all] at first
  cases first
  have counted := futureDatagram_countedAlong_iff (by decide) (by decide) paths sends.1 row 0
  intro along
  exact absurd (counted.mp along).1 (by decide)

end OmnetDsi.Ipv4.CountedPaths
