import OmnetDsi.Autorouting.ConfiguredTables

/-!
# Forwarding data packets

The data branch of `IP::routePacket` and the way of a data packet from host to
host.  Where `rt` has no route, an edge or aggregate switch sends the packet
on a route of `rt1`; which one is decided by the hash or by the delays and
loads of the paths.  Here it is any of them, so the results hold for every
such decision.

On the way up any route of `rt1` leads one layer higher, and on the way down
exactly one route of `rt` matches.  So a packet arrives after one, three or
five switches.
-/

namespace OmnetDsi.Ipv4.DataForwarding

open Contract.Addresses Ipv4.RoutingTables Autorouting.FatTrees Autorouting.NetworkConfigurator
open Autorouting.ExtractedTopology Autorouting.NodeNumbers Autorouting.AddressPlan
open Autorouting.ConfiguredTables Autorouting.StandardTree RoutingTable List

/-! ## The data branch of `routePacket` -/

/-- What becomes of a packet at one node. -/
inductive Decision where
  | localDelivery
  | forwardingOff
  | unroutable
  | send (re : IPRoute)

/--
`routePacket` for a packet that is no probe; `uplink` is the route of `rt1`
that `hashRouting` or the search for the chosen switch ends with.
-/
def routePacket (node : IPNode) (ipForward fromHL : Bool) (uplink : Nat)
    (destAddr : IPAddress) : Decision :=
  if (node.rt.isLocalAddress destAddr).1 then .localDelivery
  else if !fromHL && !ipForward then .forwardingOff
  else
    match (node.rt.findBestMatchingRoute destAddr).1 with
    | some re => .send re
    | none =>
      let layer := node.rt.routerId.getDByte 1
      if layer == 1 || layer == 2 then
        match node.rt1.getRoute uplink with
        | some re => .send re
        | none => .unroutable
      else .unroutable

/-- How the way of a packet ends. -/
inductive Fate where
  | delivered (node : Nat)
  | dropped
  | unroutable
  | timeExceeded
  | noLink

/-- The nodes that route a packet after its source, and the end of its way. -/
structure Journey where
  switches : List Nat
  fate : Fate

/--
A packet comes in at node `i`.  The hop counter is decremented, and
`sendDatagramToOutput` gives up when it has reached zero.
-/
def arrive (topo : Topology) (nodes : IPNodes) (uplink : Nat → Nat → Nat)
    (destAddr : IPAddress) : Nat → Nat → Journey
  | 0, _ => ⟨[], .timeExceeded⟩
  | timeToLive + 1, i =>
    match routePacket (nodes i) (topo.ipForward i) false (uplink timeToLive i) destAddr with
    | .localDelivery => ⟨[], .delivered i⟩
    | .forwardingOff => ⟨[], .dropped⟩
    | .unroutable => ⟨[i], .unroutable⟩
    | .send re =>
      if timeToLive = 0 then ⟨[i], .timeExceeded⟩
      else
        match remoteNode topo i re with
        | none => ⟨[i], .noLink⟩
        | some next =>
          let rest := arrive topo nodes uplink destAddr timeToLive next
          ⟨i :: rest.switches, rest.fate⟩

/-- The parameter `timeToLive` of the IP module. -/
def defaultTimeToLive : Nat :=
  32

/-- A packet of the higher layer is sent at node `i`. -/
def sendFrom (topo : Topology) (nodes : IPNodes) (uplink : Nat → Nat → Nat)
    (i : Nat) (destAddr : IPAddress) : Journey :=
  match routePacket (nodes i) (topo.ipForward i) true (uplink defaultTimeToLive i) destAddr with
  | .localDelivery => ⟨[], .delivered i⟩
  | .forwardingOff => ⟨[], .dropped⟩
  | .unroutable => ⟨[], .unroutable⟩
  | .send re =>
    match remoteNode topo i re with
    | none => ⟨[], .noLink⟩
    | some next => arrive topo nodes uplink destAddr defaultTimeToLive next

/-! ## Which routes match -/

variable {own : Node h} {pod : Fin (2 * h)} {destAddr : IPAddress}

section Lookup

variable {tree : FatTree h} (unset : Indeterminate)

section

variable (small : h ≤ 7) (dest other : Node h)
include small dest other

/-- A mask of whole octets compares the parts of two node addresses. -/
theorem matches_iff (keeps0 keeps1 keeps2 keeps3 : Bool) :
    maskedAddrAreEqual (address tree dest) (address tree other)
        (.set (maskOctet keeps0) (maskOctet keeps1) (maskOctet keeps2) (maskOctet keeps3)) = true ↔
      (keeps0 = true → podIndex dest * 10 = podIndex other * 10) ∧
        (keeps1 = true → layerNumber dest = layerNumber other) ∧
          (keeps2 = true → switchNumber tree dest = switchNumber tree other) ∧
            (keeps3 = true → hostNumber tree dest = hostNumber tree other) :=
  maskedAddrAreEqual_set (parts_fit _ small _) (parts_fit _ small _) _ _ _ _

theorem matches_pod :
    maskedAddrAreEqual (address tree dest) (address tree other) (.set 255 0 0 0) = true ↔
      podIndex dest = podIndex other := by
  refine (matches_iff small _ _ true false false false).trans ?_
  simp

theorem matches_switch :
    maskedAddrAreEqual (address tree dest) (address tree other) (.set 255 0 255 0) = true ↔
      podIndex dest = podIndex other ∧ switchNumber tree dest = switchNumber tree other := by
  refine (matches_iff small _ _ true false true false).trans ?_
  simp

theorem matches_host :
    maskedAddrAreEqual (address tree dest) (address tree other) (.set 255 0 255 255) = true ↔
      podIndex dest = podIndex other ∧
        switchNumber tree dest = switchNumber tree other ∧
          hostNumber tree dest = hostNumber tree other := by
  refine (matches_iff small _ _ true false true true).trans ?_
  simp

end

theorem not_matches_controller (small : h ≤ 7) (inPod : podIndex dest = pod.val + 1)
    (role : kind own .controller = some (.rt, netmask)) :
    ¬maskedAddrAreEqual (address tree dest) (address tree .controller) netmask = true := by
  have is_netmask : IPAddress.set 255 0 0 0 = netmask := by
    cases own with
    | core | aggregate | edge =>
      cases role
      rfl
    | host | controller => cases role
  rw [← is_netmask, matches_pod small, inPod]
  simp only [podIndex]
  omega

theorem bestRoute_towards (positive : 0 < h)
    (paths : ShortestPaths tree.topo path) (target : Node h)
    (netmask : IPAddress) (linked : target ∈ neighbours own)
    (role : kind own target = some (.rt, netmask))
    (matching : maskedAddrAreEqual destAddr (address tree target) netmask = true)
    (unique : ∀ other ∈ neighbours own, ∀ mask,
      kind own other = some (.rt, mask) →
        maskedAddrAreEqual destAddr (address tree other) mask = true → other = target) :
    ∃ e,
      bestRoute (tableRoutes tree path unset own .rt) destAddr = some e ∧
        remoteNode tree.topo (tree.index own) e = some (tree.index target) := by
  rcases paths.direct _ _ (tree.index_mem_links.mpr linked) with ⟨link, found, _⟩
  refine ⟨routeTo _ _ _ _, ?_, remoteNode_routeTo paths linked found netmask⟩
  apply bestRoute_eq_some
  · exact (mem_tableRoutes positive).mpr ⟨target, linked, netmask, link, role, found, rfl⟩
  · exact matching
  · intro _ member same
    rcases (mem_tableRoutes positive).mp member with
      ⟨other, near, mask, otherLink, otherRole, otherFound, rfl⟩
    have target := unique _ near _ otherRole same
    subst target
    rw [role] at otherRole
    rw [found] at otherFound
    simp only [Option.some.injEq, Prod.mk.injEq, true_and] at otherRole
    rw [otherRole, Option.some.inj otherFound]

theorem bestRoute_nowhere (positive : 0 < h)
    (differ : ∀ other ∈ neighbours own, ∀ mask,
      kind own other = some (.rt, mask) →
        maskedAddrAreEqual destAddr (address tree other) mask = false) :
    bestRoute (tableRoutes tree path unset own .rt) destAddr = none := by
  apply bestRoute_eq_none
  intro _ member
  rcases (mem_tableRoutes positive).mp member with ⟨_, near, _, _, role, _, rfl⟩
  exact differ _ near _ role

section

variable (small : h ≤ 7) (positive : 0 < h)
include small positive

/-- A core switch sends a packet down to the pod of its destination. -/
theorem core_down (paths : ShortestPaths tree.topo path) (group member : Fin h) (dest : Node h)
    (destination : podIndex dest = pod.val + 1) :
    ∃ e,
      bestRoute (tableRoutes tree path unset (.core group member) .rt)
          (address tree dest) = some e ∧
        remoteNode tree.topo (tree.index (.core group member)) e =
          some (tree.index (.aggregate pod group)) := by
  apply bestRoute_towards _ positive paths
  · simp [neighbours]
  · rfl
  · exact (matches_pod small _ _).mpr destination
  · intro _ near _ role same
    rcases mem_neighbours_core.mp near with ⟨otherPod, rfl⟩ | rfl
    · simp only [kind, Option.some.injEq, Prod.mk.injEq, true_and] at role
      subst role
      have pods := (matches_pod small _ _).mp same
      rw [destination] at pods
      simp only [podIndex] at pods
      have equal : otherPod = pod := Fin.ext (by omega)
      rw [equal]
    · exact absurd same (not_matches_controller small destination role)

/-- An aggregate switch sends a packet for its pod down to the edge. -/
theorem aggregate_down (paths : ShortestPaths tree.topo path)
    (position : Fin h) (dest : Node h) (podOfDest : podIndex dest = pod.val + 1)
    (edgeOfDest : switchNumber tree dest = switchNumber tree (.edge pod target)) :
    ∃ e,
      bestRoute (tableRoutes tree path unset (.aggregate pod position) .rt)
          (address tree dest) = some e ∧
        remoteNode tree.topo (tree.index (.aggregate pod position)) e =
          some (tree.index (.edge pod target)) := by
  apply bestRoute_towards _ positive paths
  · simp [neighbours]
  · rfl
  · exact (matches_switch small _ _).mpr ⟨podOfDest, edgeOfDest⟩
  · intro _ near _ role same
    rcases mem_neighbours_aggregate.mp near with ⟨_, rfl⟩ | ⟨_, rfl⟩ | rfl
    · simp [kind] at role
    · simp only [kind, Option.some.injEq, Prod.mk.injEq, true_and] at role
      subst role
      have switches := ((matches_switch small _ _).mp same).2
      rw [edgeOfDest] at switches
      exact (tree.injective (Nat.succ.inj switches)).symm
    · exact absurd same (not_matches_controller small podOfDest role)

theorem aggregate_up (position : Fin h) (dest : Node h)
    (podOfDest : podIndex dest = otherPod.val + 1) (different : otherPod ≠ pod) :
    bestRoute (tableRoutes tree path unset (.aggregate pod position) .rt)
      (address tree dest) = none := by
  apply bestRoute_nowhere _ positive
  intro _ near _ role
  rw [← Bool.not_eq_true]
  intro same
  rcases mem_neighbours_aggregate.mp near with ⟨_, rfl⟩ | ⟨_, rfl⟩ | rfl
  · simp [kind] at role
  · simp only [kind, Option.some.injEq, Prod.mk.injEq, true_and] at role
    subst role
    have pods := ((matches_switch small _ _).mp same).1
    rw [podOfDest] at pods
    simp only [podIndex] at pods
    omega
  · exact absurd same (not_matches_controller small podOfDest role)

theorem edge_down
    (paths : ShortestPaths tree.topo path) (pod : Fin (2 * h)) (position slot : Fin h) :
    ∃ e,
      bestRoute (tableRoutes tree path unset (.edge pod position) .rt)
          (address tree (.host pod position slot)) = some e ∧
        remoteNode tree.topo (tree.index (.edge pod position)) e =
          some (tree.index (.host pod position slot)) := by
  apply bestRoute_towards _ positive paths
  · simp [neighbours]
  · rfl
  · exact (matches_host small _ _).mpr ⟨rfl, rfl, rfl⟩
  · intro _ near _ role same
    rcases mem_neighbours_edge.mp near with ⟨_, rfl⟩ | ⟨_, rfl⟩ | rfl
    · simp [kind] at role
    · simp only [kind, Option.some.injEq, Prod.mk.injEq, true_and] at role
      subst role
      have hosts := ((matches_host small _ _).mp same).2.2
      rw [hostNumber_injective hosts]
    · exact absurd same (not_matches_controller small rfl role)

/-- An edge switch has no route to the hosts and edges other than its own. -/
theorem edge_up {destPod : Fin (2 * h)}
    (dest : Node h) (podOfDest : podIndex dest = destPod.val + 1)
    (elsewhere : switchNumber tree dest ≠ switchNumber tree (.edge pod position)) :
    bestRoute (tableRoutes tree path unset (.edge pod position) .rt)
      (address tree dest) = none := by
  apply bestRoute_nowhere _ positive
  intro _ near _ role
  rw [← Bool.not_eq_true]
  intro same
  rcases mem_neighbours_edge.mp near with ⟨_, rfl⟩ | ⟨_, rfl⟩ | rfl
  · simp [kind] at role
  · simp only [kind, Option.some.injEq, Prod.mk.injEq, true_and] at role
    subst role
    exact elsewhere ((matches_host small _ _).mp same).2.1
  · exact absurd same (not_matches_controller small podOfDest role)

end

end Lookup

/-! ## One node -/

/-- Every route of `rt1` that may be chosen exists. -/
def SelectsUplinks (tree : FatTree h) (nodes : IPNodes) (uplink : Nat → Nat → Nat) : Prop :=
  ∀ timeToLive node, (node.isEdge || node.isAggregate) = true →
    uplink timeToLive (tree.index node) < (nodes (tree.index node)).rt1.getNumRoutes

section Node

variable {tree : FatTree h} {nodes : IPNodes}

theorem configured_lookup (configured : Configured tree path unset nodes)
    (node : Node h) (dest : IPAddress) :
    Configured tree path unset
      (Function.update nodes (tree.index node)
        { nodes (tree.index node) with
          rt := ((nodes (tree.index node)).rt.findBestMatchingRoute dest).2 }) := by
  have spec := findBestMatchingRoute_spec (configured.cache node) dest
  have rest :
      ((nodes (tree.index node)).rt.findBestMatchingRoute dest).2 =
        { (nodes (tree.index node)).rt with
          routingCache :=
            ((nodes (tree.index node)).rt.findBestMatchingRoute dest).2.routingCache } := by
    unfold findBestMatchingRoute
    split
    all_goals rfl
  have other (known : Node h) (different : known ≠ node) : tree.index known ≠ tree.index node :=
    fun same => different (tree.injective same)
  constructor
  all_goals
    intro known
    by_cases same : known = node
    · subst same
      rw [Function.update_self]
      first
        | (rw [rest]; exact configured.routerId _)
        | exact spec.2.1.trans (configured.rt _)
        | exact configured.rt1 _
        | (rw [rest]; exact configured.multicast _)
        | exact spec.2.2
        | (rw [rest]; exact configured.localAddresses _)
        | exact configured.interfaces _
        | exact configured.owned _
    · rw [Function.update_of_ne (other _ same)]
      first
        | exact configured.routerId _
        | exact configured.rt _
        | exact configured.rt1 _
        | exact configured.multicast _
        | exact configured.cache _
        | exact configured.localAddresses _
        | exact configured.interfaces _
        | exact configured.owned _

/-- A node delivers locally what is addressed to itself, and nothing else. -/
theorem isLocalAddress_iff (small : h ≤ 7)
    (configured : Configured tree path unset nodes) (own dest : Node h) :
    ((nodes (tree.index own)).rt.isLocalAddress (address tree dest)).1 = true ↔ dest = own := by
  have addresses :
      (if (nodes (tree.index own)).rt.localAddresses.isEmpty then
        [(nodes (tree.index own)).rt.routerId]
      else (nodes (tree.index own)).rt.localAddresses) = [address tree own] := by
    rcases configured.localAddresses _ with empty | single
    · rw [empty, configured.routerId]
      rfl
    · rw [single]
      rfl
  rw [isLocalAddress, addresses, contains_iff_mem, mem_singleton]
  exact (address_injective _ small).eq_iff

theorem lookup_eq (configured : Configured tree path unset nodes)
    (switch : own.isHost = false) (dest : IPAddress) :
    ((nodes (tree.index own)).rt.findBestMatchingRoute dest).1 =
      bestRoute (tableRoutes tree path unset own .rt) dest := by
  rw [(findBestMatchingRoute_spec
    (configured.cache _) _).1, configured.rt, rtRoutes, if_neg (by simp [switch])]

theorem routePacket_down (small : h ≤ 7) (configured : Configured tree path unset nodes)
    (switch : own.isHost = false) (different : dest ≠ own)
    (best : bestRoute (tableRoutes tree path unset own .rt) (address tree dest) = some e)
    (uplink : Nat) :
    routePacket (nodes (tree.index own)) (tree.topo.ipForward (tree.index own)) false uplink
        (address tree dest) = .send e := by
  rw [routePacket,
    if_neg fun delivered => different ((isLocalAddress_iff small configured _ _).mp delivered),
    tree.ipForward _ switch, lookup_eq configured switch, best]
  rfl

section

variable (positive : 0 < h) (paths : ShortestPaths tree.topo path)
    (configured : Configured tree path unset nodes) (switch : own.isHost = false)
include positive paths configured switch

theorem rt1_getRoute (inside : k < (nodes (tree.index own)).rt1.getNumRoutes) :
    ∃ e up, (nodes (tree.index own)).rt1.getRoute k = some e ∧
      up ∈ neighboursIn own .rt1 ∧
        remoteNode tree.topo (tree.index own) e = some (tree.index up) := by
  have routes : (nodes (tree.index own)).rt1.routes = tableRoutes tree path unset own .rt1 := by
    rw [configured.rt1, rt1Routes, if_neg (by simp [switch])]
  rw [getNumRoutes, routes, (configured.multicast _).2] at inside
  rw [getRoute, routes, (configured.multicast _).2, append_nil]
  have present : k < (tableRoutes tree path unset own .rt1).length := by simpa using inside
  rw [getElem?_eq_getElem present]
  have member :
      remoteNode tree.topo (tree.index own) (tableRoutes tree path unset own .rt1)[k] ∈
        (tableRoutes tree path unset own .rt1).map (remoteNode tree.topo (tree.index own)) :=
    mem_map.mpr ⟨_, getElem_mem _, rfl⟩
  rw [(remoteNodes_perm positive paths _ .rt1).mem_iff, mem_map] at member
  rcases member with ⟨up, linked, leads⟩
  exact ⟨_, up, rfl, linked, leads.symm⟩

theorem rt1_getNumRoutes :
    (nodes (tree.index own)).rt1.getNumRoutes = (neighboursIn own .rt1).length := by
  have count : (tableRoutes tree path unset own .rt1).length = (neighboursIn own .rt1).length := by
    have lengths :
        ((tableRoutes tree path unset own .rt1).map
          (remoteNode tree.topo (tree.index own))).length =
        ((neighboursIn own .rt1).map fun neighbour => some (tree.index neighbour)).length :=
      (remoteNodes_perm positive paths _ .rt1).length_eq
    rwa [length_map, length_map] at lengths
  rw [getNumRoutes, configured.rt1, rt1Routes, if_neg (by simp [switch]), count,
    (configured.multicast _).2]
  rfl

end

theorem switch_of_uplinked (uplinked : (own.isEdge || own.isAggregate) = true) :
    own.isHost = false := by
  cases own with
  | host _ _ _ => contradiction
  | core _ _ => rfl
  | aggregate _ _ => rfl
  | edge _ _ => rfl
  | controller => rfl

theorem rt1_getNumRoutes_pos (positive : 0 < h) (paths : ShortestPaths tree.topo path)
    (configured : Configured tree path unset nodes)
    (uplinked : (own.isEdge || own.isAggregate) = true) :
    0 < (nodes (tree.index own)).rt1.getNumRoutes := by
  rw [rt1_getNumRoutes positive paths configured (switch_of_uplinked uplinked)]
  cases own with
  | edge pod position =>
    refine length_pos_of_mem (a := .aggregate pod position) ?_
    simp [neighboursIn, neighbours, kind]
  | aggregate _ position =>
    refine length_pos_of_mem (a := .core position position) ?_
    simp [neighboursIn, neighbours, kind]
  | core _ _ => contradiction
  | host _ _ _ => contradiction
  | controller => contradiction

theorem neighboursIn_edge (linked : up ∈ neighboursIn (.edge pod position) .rt1) :
    ∃ above, up = .aggregate pod above := by
  simp only [neighboursIn, neighbours, mem_filter, mem_append,
    mem_map, mem_singleton, mem_finRange, true_and] at linked
  rcases linked with ⟨(⟨above, rfl⟩ | ⟨slot, rfl⟩) | rfl, chosen⟩
  · exact ⟨above, rfl⟩
  · simp [kind] at chosen
  · simp [kind] at chosen

theorem neighboursIn_aggregate (linked : up ∈ neighboursIn (.aggregate pod position) .rt1) :
    ∃ member, up = .core position member := by
  simp only [neighboursIn, neighbours, mem_filter, mem_append,
    mem_map, mem_singleton, mem_finRange, true_and] at linked
  rcases linked with ⟨(⟨member, rfl⟩ | ⟨down, rfl⟩) | rfl, chosen⟩
  · exact ⟨member, rfl⟩
  · simp [kind] at chosen
  · simp [kind] at chosen

/-- The layer of an edge or aggregate switch is read from its router id. -/
theorem layer_of_uplinked (small : h ≤ 7) (configured : Configured tree path unset nodes)
    (uplinked : (own.isEdge || own.isAggregate) = true) :
    ((nodes (tree.index own)).rt.routerId.getDByte 1 == 1 ||
      (nodes (tree.index own)).rt.routerId.getDByte 1 == 2) = true := by
  rw [configured.routerId, (getDByte_address _ small _).2.1]
  cases own with
  | aggregate _ _ => rfl
  | edge _ _ => rfl
  | core _ _ => contradiction
  | host _ _ _ => contradiction
  | controller => contradiction

theorem routePacket_up (small : h ≤ 7) (positive : 0 < h) (paths : ShortestPaths tree.topo path)
    (configured : Configured tree path unset nodes)
    (uplinked : (own.isEdge || own.isAggregate) = true) (different : dest ≠ own)
    (none : bestRoute (tableRoutes tree path unset own .rt) (address tree dest) = none)
    (inside : uplink < (nodes (tree.index own)).rt1.getNumRoutes) :
    ∃ e up,
      routePacket (nodes (tree.index own)) (tree.topo.ipForward (tree.index own)) false uplink
          (address tree dest) = .send e ∧
        up ∈ neighboursIn own .rt1 ∧
          remoteNode tree.topo (tree.index own) e = some (tree.index up) := by
  have switch := switch_of_uplinked uplinked
  rcases rt1_getRoute positive paths configured switch inside with ⟨e, up, route, linked, leads⟩
  refine ⟨e, up, ?_, linked, leads⟩
  rw [routePacket,
    if_neg fun delivered => different ((isLocalAddress_iff small configured _ _).mp delivered),
    tree.ipForward _ switch, lookup_eq configured switch, none]
  dsimp only
  rw [layer_of_uplinked small configured uplinked, route]
  rfl

/-! ## The way of a packet -/

variable {uplink : Nat → Nat → Nat}

theorem arrive_delivered (small : h ≤ 7)
    (configured : Configured tree path unset nodes) (dest : Node h) (timeToLive : Nat) :
    arrive tree.topo nodes uplink (address tree dest) (timeToLive + 1) (tree.index dest) =
      ⟨[], .delivered (tree.index dest)⟩ := by
  have here := (isLocalAddress_iff small configured _ dest).mpr rfl
  rw [arrive, routePacket, if_pos here]

theorem arrive_sent {next : Nat} {timeToLive : Nat} {e : IPRoute} {switches : List Nat}
    {fate : Fate}
    (routed :
      routePacket (nodes i) (tree.topo.ipForward i) false
        (uplink (timeToLive + 1) i) destAddr = .send e)
    (leads : remoteNode tree.topo i e = some next)
    (rest : arrive tree.topo nodes uplink destAddr (timeToLive + 1) next = ⟨switches, fate⟩) :
    arrive tree.topo nodes uplink destAddr (timeToLive + 2) i = ⟨i :: switches, fate⟩ := by
  rw [arrive, routed]
  dsimp only
  rw [if_neg (Nat.succ_ne_zero _), leads]
  dsimp only
  rw [rest]

section Destination

variable (pod : Fin (2 * h)) (position slot : Fin h)

variable (small : h ≤ 7) (positive : 0 < h) (paths : ShortestPaths tree.topo path)
    (configured : Configured tree path unset nodes)
include small positive paths configured

theorem arrive_edge_down (timeToLive : Nat) :
    arrive tree.topo nodes uplink (address tree (.host pod position slot)) (timeToLive + 2)
        (tree.index (.edge pod position)) =
      ⟨[tree.index (.edge pod position)], .delivered (tree.index (.host pod position slot))⟩ := by
  rcases edge_down _ small positive paths _ _ _ with ⟨_, best, leads⟩
  exact arrive_sent (routePacket_down small configured rfl (by simp) best _) leads
    (arrive_delivered small configured _ _)

theorem arrive_aggregate_down (above : Fin h) (timeToLive : Nat) :
    arrive tree.topo nodes uplink (address tree (.host pod position slot)) (timeToLive + 3)
        (tree.index (.aggregate pod above)) =
      ⟨[tree.index (.aggregate pod above), tree.index (.edge pod position)],
        .delivered (tree.index (.host pod position slot))⟩ := by
  rcases aggregate_down _ small positive paths _ (.host _ _ _) rfl rfl with ⟨_, best, leads⟩
  exact arrive_sent (routePacket_down small configured rfl (by simp) best _) leads
    (arrive_edge_down _ _ _ small positive paths configured timeToLive)

theorem arrive_core_down (group member : Fin h) (timeToLive : Nat) :
    arrive tree.topo nodes uplink (address tree (.host pod position slot)) (timeToLive + 4)
        (tree.index (.core group member)) =
      ⟨[tree.index (.core group member), tree.index (.aggregate pod group),
          tree.index (.edge pod position)],
        .delivered (tree.index (.host pod position slot))⟩ := by
  rcases core_down _ small positive paths _ _ (.host _ _ _) rfl with ⟨_, best, leads⟩
  exact arrive_sent (routePacket_down small configured rfl (by simp) best _) leads
    (arrive_aggregate_down _ _ _ small positive paths configured _ _)

/-- An aggregate switch of another pod sends the packet over some core. -/
theorem arrive_aggregate_up (selects : SelectsUplinks tree nodes uplink)
    (different : pod ≠ source) (above : Fin h) (timeToLive : Nat) :
    ∃ member, arrive tree.topo nodes uplink
        (address tree (.host pod position slot)) (timeToLive + 5)
        (tree.index (.aggregate source above)) =
      ⟨[tree.index (.aggregate source above), tree.index (.core above member),
          tree.index (.aggregate pod above), tree.index (.edge pod position)],
        .delivered (tree.index (.host pod position slot))⟩ := by
  rcases routePacket_up small positive paths configured rfl (by simp)
    (aggregate_up _ small positive _ (.host _ _ _) rfl different)
    (selects (timeToLive + 4) (.aggregate _ _) rfl) with
      ⟨e, up, routed, linked, leads⟩
  rcases neighboursIn_aggregate linked with ⟨member, rfl⟩
  exact ⟨member, arrive_sent routed leads
    (arrive_core_down pod position slot small positive paths configured above member timeToLive)⟩

/-- An edge switch sends a packet for another edge over some aggregate. -/
theorem arrive_edge_up (selects : SelectsUplinks tree nodes uplink)
    (different : Node.edge pod position ≠ .edge source start) (timeToLive : Nat) :
    ∃ e above,
      routePacket (nodes (tree.index (.edge source start)))
          (tree.topo.ipForward (tree.index (.edge source start))) false
          (uplink timeToLive (tree.index (.edge source start)))
          (address tree (.host pod position slot)) = .send e ∧
        remoteNode tree.topo (tree.index (.edge source start)) e =
          some (tree.index (.aggregate source above)) := by
  have elsewhere :
      switchNumber tree (.host pod position slot) ≠ switchNumber tree (.edge source start) :=
    fun same => different (tree.injective (Nat.succ.inj same))
  rcases routePacket_up small positive paths configured rfl (by simp)
    (edge_up _ small positive (.host _ _ _) rfl elsewhere)
    (selects _ (.edge _ _) rfl) with
      ⟨e, up, routed, linked, leads⟩
  rcases neighboursIn_edge linked with ⟨above, rfl⟩
  exact ⟨e, above, routed, leads⟩

end Destination

/-! ## From host to host -/

theorem bestRoute_host (small : h ≤ 7) (pod : Fin (2 * h)) (position slot : Fin h) (dest : Node h) :
    bestRoute (rtRoutes tree path unset (.host pod position slot))
        (address tree dest) = some defaultRoute := by
  have fits := parts_fit tree small dest
  have anywhere :
      maskedAddrAreEqual (address tree dest) defaultRoute.host defaultRoute.netmask = true := by
    simp [maskedAddrAreEqual, defaultRoute, UNSPECIFIED_ADDRESS]
  have elsewhere :
      maskedAddrAreEqual (address tree dest) LOOPBACK_ADDRESS LOOPBACK_NETMASK = false := by
    rw [← Bool.not_eq_true]
    intro same
    have parts :=
      (maskedAddrAreEqual_set fits (show 127 < 256 ∧ 0 < 256 ∧ 0 < 256 ∧ 1 < 256 by decide)
        true false false false).mp same
    have pods := parts.1 rfl
    omega
  show betterRoute (address tree dest) (betterRoute (address tree dest) none defaultRoute)
    (netmaskRoute 0 loopback) = some defaultRoute
  have first : betterRoute (address tree dest) none defaultRoute = some defaultRoute := by
    simp [betterRoute, anywhere]
  rw [first]
  exact betterRoute_of_mismatch (e := netmaskRoute 0 loopback) elsewhere _

theorem sendFrom_host (small : h ≤ 7) (configured : Configured tree path unset nodes)
    (different : dest ≠ .host pod position slot) :
    sendFrom tree.topo nodes uplink (tree.index (.host pod position slot)) (address tree dest) =
      arrive tree.topo nodes uplink (address tree dest) defaultTimeToLive
        (tree.index (.edge pod position)) := by
  have links :
      tree.topo.links (tree.index (.host pod position slot)) = [tree.index (.edge pod position)] :=
    perm_singleton.mp (tree.links (.host _ _ _))
  have route :
      ((nodes (tree.index (.host pod position
        slot))).rt.findBestMatchingRoute (address tree dest)).1 = some defaultRoute := by
    rw [(findBestMatchingRoute_spec (configured.cache _) _).1, configured.rt, bestRoute_host small]
  have routed :
      routePacket (nodes (tree.index (.host pod position slot)))
          (tree.topo.ipForward (tree.index (.host pod position slot))) true
          (uplink defaultTimeToLive (tree.index (.host pod position slot)))
          (address tree dest) = .send defaultRoute := by
    rw [routePacket,
      if_neg fun delivered => different ((isLocalAddress_iff small configured _ _).mp delivered),
      route]
    rfl
  have next :
      remoteNode tree.topo (tree.index (.host pod position slot))
          defaultRoute = some (tree.index (.edge pod position)) := by
    show (tree.topo.links (tree.index (.host pod position slot)))[0]? = _
    rw [links]
    rfl
  rw [sendFrom, routed]
  dsimp only
  rw [next]

/-- The switches between two hosts: same edge, same pod, different pods. -/
def switchCount (sourcePod destPod : Fin (2 * h)) (sourceEdge destEdge : Fin h) : Nat :=
  if sourcePod = destPod then if sourceEdge = destEdge then 1 else 3
  else 5

theorem sendFrom_delivered (small : h ≤ 7) (positive : 0 < h) (paths : ShortestPaths tree.topo path)
    (configured : Configured tree path unset nodes) (selects : SelectsUplinks tree nodes uplink)
    (different : Node.host destPod destEdge destSlot ≠ .host sourcePod sourceEdge sourceSlot) :
    ∃ switches : List (Node h),
      sendFrom tree.topo nodes uplink (tree.index (.host sourcePod sourceEdge sourceSlot))
          (address tree (.host destPod destEdge destSlot)) =
        ⟨switches.map tree.index, .delivered (tree.index (.host destPod destEdge destSlot))⟩ ∧
      switches.Nodup ∧ (∀ switch ∈ switches, switch.isHost = false) ∧
      switches.length = switchCount sourcePod destPod sourceEdge destEdge := by
  rw [sendFrom_host small configured different]
  by_cases sameEdge : Node.edge destPod destEdge = .edge sourcePod sourceEdge
  · rcases Node.edge.inj sameEdge with ⟨rfl, rfl⟩
    refine ⟨[.edge destPod destEdge], ?_, by simp, ?_, ?_⟩
    · exact arrive_edge_down _ _ _ small positive paths configured 30
    · simp [Node.isHost]
    · simp [switchCount]
  · rcases arrive_edge_up _ _ _ small positive paths
      configured selects sameEdge 31 with ⟨e, above, routed, leads⟩
    by_cases samePod : destPod = sourcePod
    · subst samePod
      have apart : sourceEdge ≠ destEdge := fun same => sameEdge (same ▸ rfl)
      refine ⟨[.edge destPod sourceEdge, .aggregate destPod above,
        .edge destPod destEdge], ?_, ?_, ?_, ?_⟩
      · exact arrive_sent routed leads
          (arrive_aggregate_down _ _ _ small positive paths configured above 28)
      · simp [apart]
      · simp [Node.isHost]
      · simp [switchCount, apart]
    · rcases arrive_aggregate_up destPod destEdge destSlot small positive
        paths configured selects samePod above 26 with ⟨member, rest⟩
      have apart : sourcePod ≠ destPod := fun same => samePod same.symm
      refine ⟨[.edge sourcePod sourceEdge, .aggregate sourcePod above,
        .core above member, .aggregate destPod above, .edge destPod destEdge], ?_, ?_, ?_, ?_⟩
      · exact arrive_sent routed leads rest
      · simp [apart]
      · simp [Node.isHost]
      · simp [switchCount, apart]

end Node

/--
Between any two hosts of a configured fat tree whose ids fit, a data packet
is delivered after one, three or five switches, none of them visited twice,
whichever uplinks the edge and aggregate switches choose.
-/
theorem data_packets_delivered (tree : FatTree h)
    {path : Nat → Nat → Option Nat} (paths : ShortestPaths tree.topo path)
    (unset : Indeterminate) (ports : 4 ≤ 2 * h) (fits : IdsFit tree.topo unset) :
    (∃ nodes, configure tree.topo path unset = .ok nodes ∧ Configured tree path unset nodes) ∧
    ∀ nodes, Configured tree path unset nodes →
      ∀ uplink, SelectsUplinks tree nodes uplink →
        ∀ sourcePod sourceEdge sourceSlot destPod destEdge destSlot,
          Node.host destPod destEdge destSlot ≠ .host sourcePod sourceEdge sourceSlot →
          ∃ switches : List (Node h),
            sendFrom tree.topo nodes uplink (tree.index (.host sourcePod sourceEdge sourceSlot))
                (givenAddress tree unset (.host destPod destEdge destSlot)) =
              ⟨switches.map tree.index, .delivered (tree.index (.host destPod destEdge destSlot))⟩ ∧
            switches.Nodup ∧
            (∀ switch ∈ switches, switch.isHost = false) ∧
            switches.length = switchCount sourcePod destPod sourceEdge destEdge := by
  have positive : 0 < h := by omega
  have small : h ≤ 7 := (idsFit_iff _ _ positive).mp fits
  refine ⟨configure_configured small positive paths _, ?_⟩
  intro _ configured _ selects _ _ _ _ _ _ different
  rw [givenAddress, nodeAddress_index _ _ positive]
  exact sendFrom_delivered small positive paths configured selects different

/-- With four ports, always on the first uplink, to another pod. -/
theorem data_packets_delivered_four_ports :
    ∃ nodes, configure (standard 2).topo (shortestPath (standard 2).topo) zeroed = .ok nodes ∧
      ∃ switches : List (Node 2),
        sendFrom (standard 2).topo nodes (fun _ _ => 0) ((standard 2).index (.host 0 0 0))
            (givenAddress (standard 2) zeroed (.host 1 0 0)) =
          ⟨switches.map (standard 2).index, .delivered ((standard 2).index (.host 1 0 0))⟩ ∧
        switches.Nodup ∧
        (∀ switch ∈ switches, switch.isHost = false) ∧
        switches.length = 5 := by
  have paths : ShortestPaths (standard 2).topo (shortestPath (standard 2).topo) :=
    shortestPath_spec (by decide)
  have fits : IdsFit (standard 2).topo zeroed := (idsFit_iff _ _ (by decide)).mpr (by decide)
  have delivered := data_packets_delivered _ paths _ (by decide) fits
  rcases delivered.1 with ⟨nodes, success, configured⟩
  have selects : SelectsUplinks (standard 2) nodes fun _ _ => 0 :=
    fun _ node uplinked => rt1_getNumRoutes_pos (by decide) paths configured uplinked
  exact ⟨nodes, success, delivered.2 _ configured _ selects 0 0 0 1 0 0 (by decide)⟩

end OmnetDsi.Ipv4.DataForwarding
