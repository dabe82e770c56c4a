import OmnetDsi.Ipv6.AddressResolution
import OmnetDsi.Ipv6.NextHops

/-!
# Default routers

A default router has an entry in the neighbour cache.  It can also be the next
hop of routes and of entries of the destination cache, which know nothing of
each other.  `Watched` adds to the state the default routers whose entry was
removed, and `Abandoned` says that nothing leads to them any more.

Only an advertisement with lifetime zero purges the destination cache, nothing
takes the default route of a router back, and the scan for a default router
takes every neighbour.  `Forgets` says that an event meets none of this.
-/

namespace OmnetDsi.Ipv6.DefaultRouters

open Contract.IPv6Addresses
open OmnetDsi.Ipv6.HopLimits (isLinkLocal)
open Ipv6.NeighbourDiscovery Ipv6.NeighbourEffects Ipv6.NextHops
open OmnetDsi.Ipv6.RoutingTables (IPv6Route RoutingTable6 emptyTable)
open Library Library.Fallible Library.Transition

/-! ## Routers that were removed -/

/-- The default routers that have an entry. -/
def defaultRouters (memory : Memory) : List Key :=
  (memory.neighbourMap.filter Neighbour.isDefaultRouter).map Neighbour.nceKey

/-- From whom an advertisement is accepted. -/
def advertiser (node : Node) : Event → Option Key
  | .routerAdvertisement _ raCtrlInfo =>
    if takesAdvertisement node raCtrlInfo then some ⟨raCtrlInfo.srcAddr, raCtrlInfo.interfaceId⟩
    else none
  | _ => none

/--
A state, with the default routers that were removed and from which no
advertisement has come since.
-/
structure Watched where
  nd : IPv6NeighbourDiscovery
  removed : List Key := []

def watch (node : Node) (watched : Watched) (event : Event)
    (next : IPv6NeighbourDiscovery) : Watched where
  nd := next
  removed :=
    (watched.removed.filter fun key => advertiser node event ≠ some key) ++
      (defaultRouters watched.nd.memory).filter fun key => key ∉ defaultRouters next.memory

def WatchedStep (node : Node) (watched : Watched) (event : Event) (next : Watched) : Prop :=
  ∃ nd, Step node watched.nd event nd ∧ next = watch node watched event nd

/-- No route goes through the router. -/
def Unrouted (table : RoutingTable6) (key : Key) : Prop :=
  ∀ route ∈ table.routeList, route.nextHop = key.address → route.interfaceId ≠ key.interfaceID

/-- No destination is remembered with the router. -/
def Uncached (destCache : IPv6Address → Option (IPv6Address × Int)) (key : Key) : Prop :=
  ∀ dest, destCache dest ≠ some (key.address, key.interfaceID)

/-- Nothing leads to a router that was removed. -/
structure Abandoned (watched : Watched) : Prop where
  cached : ∀ key ∈ watched.removed, Uncached watched.nd.destCache key
  routed : ∀ key ∈ watched.removed, Unrouted watched.nd.rt6 key
  unlisted : ∀ key ∈ watched.removed, key ∉ defaultRouters watched.nd.memory

/-! ## The condition -/

/-- The neighbour has not answered, and its entry is removed. -/
def Exhausts (node : Node) (nd : IPv6NeighbourDiscovery) (nce : Neighbour) : Event → Prop
  | .nudTimeout msg =>
    nce ∈ nd.memory.neighbourMap ∧ maxProbesSent node (startProbes nce) = true ∧
      ∃ timer ∈ nd.memory.nudTimers, timer.pointer = msg ∧ nce.node = timer.contextPointer
  | .arTimeout msg =>
    nce ∈ nd.memory.neighbourMap ∧
      ¬nce.numOfARNSSent < (node.ipv6Data nce.nceKey.interfaceID).maxMulticastSolicit ∧
      ∃ timer ∈ nd.memory.arTimers, timer.pointer = msg ∧ nce.node = timer.contextPointer
  | _ => False

/-- An option moves the routes for its prefix to this interface. -/
def Moves (node : Node) (route : IPv6Route) (interfaceID : Int) : Event → Prop
  | .routerAdvertisement ra raCtrlInfo =>
    takesAdvertisement node raCtrlInfo = true ∧ raCtrlInfo.interfaceId = interfaceID ∧
      Renewed ra.prefixInformation route
  | _ => False

/-- No route of the router's address comes to its interface. -/
def Unmoved (node : Node) (table : RoutingTable6) (key : Key) (event : Event) : Prop :=
  ∀ route ∈ table.routeList, route.nextHop = key.address → ¬Moves node route key.interfaceID event

/-- The event leaves nothing that leads to a router that is removed. -/
structure Forgets (node : Node) (watched : Watched) (event : Event) : Prop where
  dismissed :
    ∀ nce, Dismisses node watched.nd nce event →
      nce.isDefaultRouter = true →
        Unrouted watched.nd.rt6 nce.nceKey ∧ Unmoved node watched.nd.rt6 nce.nceKey event
  exhausted :
    ∀ nce, Exhausts node watched.nd nce event →
      nce.isDefaultRouter = true →
        Unrouted watched.nd.rt6 nce.nceKey ∧ Uncached watched.nd.destCache nce.nceKey
  moved :
    ∀ key ∈ watched.removed, advertiser node event ≠ some key →
      Unmoved node watched.nd.rt6 key event
  direct :
    ∀ dest, Looks watched.nd dest event → ∀ looked route,
      doLookup watched.nd dest = .ok (looked, some route) →
        route.nextHop.isUnspecified = true → ⟨dest, route.interfaceId⟩ ∉ watched.removed
  selected :
    ∀ nce, Scans watched.nd nce event →
      nce.isDefaultRouter = true ∧ watched.nd.simTime ≤ nce.routerExpiryTime

/-! ## Entries of default routers -/

section Entries

variable {memory : Memory}

theorem mem_defaultRouters :
    key ∈ defaultRouters memory ↔
      ∃ nce ∈ memory.neighbourMap, nce.isDefaultRouter = true ∧ nce.nceKey = key := by
  simp [defaultRouters, and_assoc]

/-- What a scan of the entries sees of default routers. -/
def routerView (nce : Neighbour) : Bool × Key :=
  (nce.isDefaultRouter, nce.nceKey)

theorem defaultRouters_of_view
    (same : next.neighbourMap.map routerView = memory.neighbourMap.map routerView) :
    key ∈ defaultRouters next ↔ key ∈ defaultRouters memory := by
  have seen : ∀ memory : Memory, key ∈ defaultRouters memory ↔
      (true, key) ∈ memory.neighbourMap.map routerView := by
    intro _
    rw [mem_defaultRouters, List.mem_map]
    constructor
    · rintro ⟨nce, listed, router, rfl⟩
      exact ⟨nce, listed, Prod.ext router rfl⟩
    · rintro ⟨nce, listed, view⟩
      exact ⟨nce, listed, congrArg Prod.fst view, congrArg Prod.snd view⟩
  rw [seen, seen, same]

theorem storing_view (placed : Placed memory)
    (listed : nce ∈ memory.neighbourMap) (sameNode : other.node = nce.node)
    (sameView : routerView other = routerView nce) :
    (storing memory other).neighbourMap.map routerView = memory.neighbourMap.map routerView := by
  apply RecordPools.map_put
  intro _ member here
  have one := placed.entries.distinct.eq listed member (sameNode.symm.trans here.symm)
  rw [sameView, one]

theorem defaultRouters_without (placed : Placed memory)
    (listed : nce ∈ memory.neighbourMap) (nudTimers : List Timer) :
    key ∈ defaultRouters (without memory nce nudTimers) ↔
      key ∈ defaultRouters memory ∧ key ≠ nce.nceKey := by
  rw [mem_defaultRouters, mem_defaultRouters]
  constructor
  · rintro ⟨other, kept, router, rfl⟩
    rcases RecordPools.mem_discard.mp kept with ⟨among, differs⟩
    refine ⟨⟨other, among, router, rfl⟩, ?_⟩
    intro same
    have one := placed.entries.keys.eq among listed same
    exact differs (congrArg Neighbour.node one)
  · rintro ⟨⟨other, among, router, rfl⟩, differs⟩
    refine ⟨other, RecordPools.mem_discard.mpr ⟨among, ?_⟩, router, rfl⟩
    intro same
    have one := placed.entries.distinct.eq among listed same
    exact differs (congrArg Neighbour.nceKey one)

theorem defaultRouters_added (added : next.neighbourMap.Perm (nce :: memory.neighbourMap)) :
    key ∈ defaultRouters next ↔
      nce.isDefaultRouter = true ∧ nce.nceKey = key ∨ key ∈ defaultRouters memory := by
  rw [mem_defaultRouters, mem_defaultRouters]
  constructor
  · rintro ⟨other, member, router, rfl⟩
    rcases List.mem_cons.mp (added.mem_iff.mp member) with rfl | old
    · exact .inl ⟨router, rfl⟩
    · exact .inr ⟨other, old, router, rfl⟩
  · rintro (⟨router, rfl⟩ | ⟨other, old, router, rfl⟩)
    · exact ⟨nce, added.mem_iff.mpr List.mem_cons_self, router, rfl⟩
    · exact ⟨other, added.mem_iff.mpr (List.mem_cons_of_mem _ old), router, rfl⟩

/-- The event takes the entry of a default router away. -/
def Removes (node : Node) (nd : IPv6NeighbourDiscovery) (key : Key) (event : Event) : Prop :=
  ∃ nce, nce.isDefaultRouter = true ∧ nce.nceKey = key ∧
    (Dismisses node nd nce event ∨ Exhausts node nd nce event)

/-- Which default routers come and go. -/
def Changed (node : Node) (nd : IPv6NeighbourDiscovery) (event : Event) (next : Memory) : Prop :=
  ∀ key, (key ∈ defaultRouters next → key ∈ defaultRouters nd.memory ∨ Introduces node key event) ∧
    (key ∈ defaultRouters nd.memory → key ∈ defaultRouters next ∨ Removes node nd key event)

theorem Changed.same
    (same : next.neighbourMap.map routerView = nd.memory.neighbourMap.map routerView) :
    Changed node nd event next := by
  intro key
  have iff := @defaultRouters_of_view nd.memory _ key same
  exact ⟨fun now => .inl (iff.mp now), fun before => .inl (iff.mpr before)⟩

theorem Changed.stored (placed : Placed nd.memory)
    (listed : nce ∈ nd.memory.neighbourMap) (other : Neighbour)
    (sameNode : other.node = nce.node) (sameView : routerView other = routerView nce)
    (sameMap : next.neighbourMap = (storing nd.memory other).neighbourMap) :
    Changed node nd event next := by
  apply Changed.same
  rw [sameMap]
  exact storing_view placed listed sameNode sameView

theorem Changed.added (added : next.neighbourMap.Perm (nce :: nd.memory.neighbourMap))
    (introduced : nce.isDefaultRouter = true → Introduces node nce.nceKey event) :
    Changed node nd event next := by
  intro _
  rw [defaultRouters_added added]
  constructor
  · rintro (⟨router, rfl⟩ | old)
    · exact .inr (introduced router)
    · exact .inl old
  · intro old
    exact .inl (.inr old)

theorem Changed.removed (placed : Placed nd.memory)
    (listed : nce ∈ nd.memory.neighbourMap) (nudTimers : List Timer)
    (sameMap : next.neighbourMap = (without nd.memory nce nudTimers).neighbourMap)
    (cause : Dismisses node nd nce event ∨ Exhausts node nd nce event) :
    Changed node nd event next := by
  intro key
  have iff : key ∈ defaultRouters next ↔ key ∈ defaultRouters nd.memory ∧ key ≠ nce.nceKey := by
    rw [← defaultRouters_without placed listed]
    unfold defaultRouters
    rw [sameMap]
  rw [iff]
  constructor
  · intro now
    exact .inl now.1
  · intro before
    by_cases here : key = nce.nceKey
    · rcases mem_defaultRouters.mp before with ⟨other, among, router, same⟩
      have one := placed.entries.keys.eq among listed (same.trans here)
      subst one
      exact .inr ⟨other, router, same, cause⟩
    · exact .inl ⟨before, here⟩

theorem Changed.effect (placed : Placed nd.memory)
    (effect : Effect node nd event next) : Changed node nd event next := by
  cases effect with
  | quiet => exact .same rfl
  | detected nce _ listed _ =>
    exact .stored placed listed { nce with
      reachabilityState := .DELAY
      nudTimeoutEvent := some nd.memory.messages } rfl rfl rfl
  | unresolved nbor _ _ _ _ _ ordinary _ entered =>
    refine .added entered ?_
    intro router
    have other : nbor.isDefaultRouter = true := router
    rw [ordinary] at other
    cases other
  | queued nce msg reached _ _ =>
    exact .stored placed reached.listed { nce with
      pendingPackets := nce.pendingPackets ++ [msg] } rfl rfl rfl
  | readdressed nce nsSrcAddr msg _ reached _ _ _ =>
    exact .stored placed reached.listed (awaiting nd.memory nce nsSrcAddr msg) rfl rfl rfl
  | staled nce macAddress isRouter listed _ =>
    exact .stored placed listed { nce with
      macAddress
      isRouter
      reachabilityState := .STALE } rfl rfl rfl
  | touched nce macAddress isRouter routerExpiryTime listed =>
    exact .stored placed listed { nce with
      macAddress
      isRouter
      routerExpiryTime } rfl rfl rfl
  | reconfirmed nce macAddress isRouter confirms _ _ =>
    exact .stored placed confirms.listed { nce with
      macAddress
      isRouter
      reachabilityState := .REACHABLE } rfl rfl rfl
  | hinted _ _ _ _ => exact .same rfl
  | confirmed nce _ macAddress isRouter reachabilityExpires confirms _ _ =>
    exact .stored placed confirms.listed { nce with
      macAddress
      isRouter
      reachabilityState := .REACHABLE
      reachabilityExpires } rfl rfl rfl
  | resolved nce timer macAddress isRouter reachabilityState
      reachabilityExpires listed incomplete state addressed existing timed =>
      exact .stored placed listed { nce with
        macAddress
        isRouter
        reachabilityState
        reachabilityExpires
        pendingPackets := [] } rfl rfl rfl
  | entered _ _ _ introduced added => exact .added added introduced
  | timedOut _ nudTimers dismisses _ =>
    exact .removed placed dismisses.listed nudTimers rfl (.inl dismisses)
  | probed _ nce _ _ _ _ listed _ _ =>
    refine .stored placed listed { startProbes nce with
      numProbesSent := (startProbes nce).numProbesSent + 1 }
      (startProbes_node nce) ?_ rfl
    unfold routerView startProbes
    split_ifs
    all_goals rfl
  | givenUp timer _ nudTimers sent existing _ listed context most _ =>
    refine .removed placed listed nudTimers rfl (.inr ?_)
    rw [sent]
    exact ⟨listed, most, timer, existing, rfl, context⟩
  | solicitedAgain _ nce _ _ _ _ listed _ =>
    exact .stored placed listed { nce with numOfARNSSent := nce.numOfARNSSent + 1 } rfl rfl rfl
  | failed timer _ nudTimers sent existing _ listed context most _ =>
    refine .removed placed listed nudTimers rfl (.inr ?_)
    rw [sent]
    exact ⟨listed, most, timer, existing, rfl, context⟩

end Entries

/-! ## Next hops -/

section Hops

theorem Unrouted.hop (unrouted : Unrouted table key) (listed : route ∈ table.routeList)
    (specified : route.nextHop.isUnspecified = false) (dest : IPv6Address) :
    key ≠ ⟨hopOn route dest, route.interfaceId⟩ := by
  rintro rfl
  refine unrouted _ listed ?_ rfl
  rw [hopOn, if_neg (by simp [specified])]

theorem Abandoned.hop (abandoned : Abandoned watched) (forgets : Forgets node watched event)
    (looks : Looks watched.nd dest event)
    (found : doLookup watched.nd dest = .ok (looked, some route)) :
    ⟨hopOn route dest, route.interfaceId⟩ ∉ watched.removed := by
  intro member
  cases specified : route.nextHop.isUnspecified with
  | false => exact (abandoned.routed _ member).hop (doLookup_mem found) specified _ rfl
  | true =>
    have direct : hopOn route dest = dest := if_pos specified
    rw [direct] at member
    exact forgets.direct _ looks _ _ found specified member

theorem selectFrom_unexpired
    (unexpired : ∀ nce, scanEnd now entries = some nce → routerExpired now nce = false) :
    selectFrom now memory entries =
      .ok (((scanEnd now entries).map fun nce =>
        (nce.nceKey.address, nce.nceKey.interfaceID)).getD ({}, -1)) := by
  induction entries with
  | nil => rfl
  | cons nce rest induction =>
    unfold selectFrom
    split_ifs with expired reachable
    · have ends : scanEnd now (nce :: rest) = some nce := List.find?_cons_of_pos (by simp [expired])
      have never := unexpired _ ends
      rw [expired] at never
      cases never
    · have ends : scanEnd now (nce :: rest) = some nce :=
        List.find?_cons_of_pos (by simp [reachable])
      rw [ends]
      rfl
    · have goes : scanEnd now (nce :: rest) = scanEnd now rest :=
        List.find?_cons_of_neg (by simp [expired, reachable])
      rw [goes] at unexpired ⊢
      exact induction unexpired

/-- No router, or one with an entry that has not expired. -/
def Selected (nd : IPv6NeighbourDiscovery) (hop : IPv6Address × Int) : Prop :=
  hop = ({}, -1) ∨
    ∃ nce ∈ nd.memory.neighbourMap,
      nce.isDefaultRouter = true ∧ nd.simTime ≤ nce.routerExpiryTime ∧
        hop = (nce.nceKey.address, nce.nceKey.interfaceID)

theorem Forgets.selects (forgets : Forgets node watched (.datagram srcAddress dest))
    (found : doLookup watched.nd dest = .ok (looked, none)) :
    ∃ hop,
      selectDefaultRouter watched.nd.simTime watched.nd.memory = .ok hop ∧
        Selected watched.nd hop := by
  have scans : ∀ nce,
      scanEnd watched.nd.simTime watched.nd.memory.neighbourMap = some nce →
        Scans watched.nd nce (.datagram srcAddress dest) :=
    fun nce ends => ⟨⟨looked, found⟩, ends⟩
  refine ⟨_, selectFrom_unexpired ?_, ?_⟩
  · intro _ ends
    have late := (forgets.selected _ (scans _ ends)).2
    simp [routerExpired, late]
  · cases ends : scanEnd watched.nd.simTime watched.nd.memory.neighbourMap with
    | none => exact .inl rfl
    | some nce =>
      have chosen := forgets.selected _ (scans _ ends)
      exact .inr ⟨nce, (scans _ ends).listed, chosen.1, chosen.2, rfl⟩

section

variable (abandoned : Abandoned watched)
    (linkLocal : ∀ key ∈ watched.removed, isLinkLocal key.address = true)
include abandoned linkLocal

theorem Abandoned.selected {hop : IPv6Address × Int} (selected : Selected watched.nd hop) :
    ⟨hop.1, hop.2⟩ ∉ watched.removed := by
  intro member
  rcases selected with rfl | ⟨nce, listed, router, -, rfl⟩
  · have unspecified := linkLocal _ member
    cases unspecified
  · exact abandoned.unlisted _ member (mem_defaultRouters.mpr ⟨nce, listed, router, rfl⟩)

theorem Abandoned.sent (forgets : Forgets node watched event)
    (effect : TableEffect node watched.nd event next) :
    ∃ hops, next.nextHops = watched.nd.nextHops ++ hops ∧
      ∀ hop ∈ hops, ⟨hop.address, hop.interfaceId⟩ ∉ watched.removed := by
  cases effect with
  | quiet _ => exact ⟨[], (List.append_nil _).symm, fun _ member => nomatch member⟩
  | cached _ _ _ known =>
    refine ⟨_, rfl, ?_⟩
    intro _ member removed
    cases List.mem_singleton.mp member
    exact abandoned.cached _ removed _ known
  | missed _ _ _ _ => exact ⟨[], (List.append_nil _).symm, fun _ member => nomatch member⟩
  | routed _ _ _ hops looks found noted =>
    refine ⟨hops, rfl, ?_⟩
    intro hop member
    rw [(noted _ member).1, (noted _ member).2]
    exact abandoned.hop forgets looks found
  | selected _ _ _ _ hops sent found chosen noted =>
    refine ⟨hops, rfl, ?_⟩
    intro _ member
    rw [(noted _ member).1, (noted _ member).2.1]
    subst sent
    rcases forgets.selects found with ⟨_, known, selected⟩
    rw [chosen] at known
    cases known
    exact abandoned.selected linkLocal selected
  | advertised _ _ _ _ _ _ _ _ _ =>
    exact ⟨[], (List.append_nil _).symm, fun _ member => nomatch member⟩

end

end Hops

/-! ## Steps -/

section Steps

variable {watched : Watched}

theorem introduces_advertiser (introduces : Introduces node key event) :
    advertiser node event = some key ∧ isLinkLocal key.address = true := by
  cases event with
  | routerAdvertisement _ _ =>
    rcases introduces with ⟨taken, -, rfl⟩
    have valid := taken
    simp only [takesAdvertisement, validateRAPacket, Bool.and_eq_true] at valid
    exact ⟨if_pos taken, valid.2.1.1⟩
  | _ => exact introduces.elim

theorem mem_watch :
    key ∈ (watch node watched event nd).removed ↔
      key ∈ watched.removed ∧ advertiser node event ≠ some key ∨
        key ∈ defaultRouters watched.nd.memory ∧ key ∉ defaultRouters nd.memory := by
  simp [watch]

/-- The routes do not come to a router that none of them goes through. -/
theorem Unrouted.effect (unrouted : Unrouted watched.nd.rt6 key)
    (unmoved : Unmoved node watched.nd.rt6 key event)
    (known : ¬Introduces node key event) (specified : key.address ≠ {})
    (effect : TableEffect node watched.nd event next) : Unrouted next.rt6 key := by
  cases effect with
  | quiet _ => exact unrouted
  | cached _ _ _ _ => exact unrouted
  | missed _ _ _ rest =>
    intro _ member
    exact unrouted _ (rest.subset member)
  | routed _ _ _ _ _ found _ =>
    intro _ member
    exact unrouted _ ((doLookup_fields found).1.subset member)
  | selected _ _ _ _ _ _ found _ _ =>
    intro _ member
    exact unrouted _ ((doLookup_fields found).1.subset member)
  | advertised ra raCtrlInfo _ _ sent taken routes _ _ =>
    intro _ member through here
    rcases processRAPrefixInfo_keeps member with direct | ⟨old, listed, hop, -, -, moved⟩
    · exact specified (through.symm.trans direct)
    · have was : old ∈ watched.nd.rt6.routeList ∨
          old.nextHop = raCtrlInfo.srcAddr ∧
            old.interfaceId = raCtrlInfo.interfaceId ∧ ra.routerLifetime ≠ 0 := by
        rcases routes with rfl | ⟨lasting, _, rfl⟩
        · exact .inl listed
        · rcases List.mem_append.mp ((node.order.perm _).mem_iff.mp listed) with before | new
          · exact .inl before
          · cases List.mem_singleton.mp new
            exact .inr ⟨rfl, rfl, lasting⟩
      have oldThrough := hop.trans through
      rcases was with before | ⟨srcAddr, interfaceId, lasting⟩
      · rcases moved with stays | ⟨comes, renewed⟩
        · exact unrouted old before oldThrough (stays.symm.trans here)
        · apply unmoved old before oldThrough
          rw [sent]
          exact ⟨taken, comes.symm.trans here, renewed⟩
      · apply known
        rw [sent]
        refine ⟨taken, lasting, ?_⟩
        have interface : key.interfaceID = raCtrlInfo.interfaceId := by
          rcases moved with stays | ⟨comes, -⟩
          · exact here.symm.trans (stays.trans interfaceId)
          · exact here.symm.trans comes
        have address := oldThrough.symm.trans srcAddr
        cases key
        cases address
        cases interface
        rfl

/-- The destinations are not remembered with a router that was removed. -/
theorem Abandoned.uncached (abandoned : Abandoned watched)
    (linkLocal : ∀ key ∈ watched.removed, isLinkLocal key.address = true)
    (forgets : Forgets node watched event) (removed : key ∈ watched.removed)
    (effect : TableEffect node watched.nd event next) : Uncached next.destCache key := by
  have before := abandoned.cached _ removed
  have updated : ∀ dest hop, ⟨hop.1, hop.2⟩ ∉ watched.removed →
      Uncached (Function.update watched.nd.destCache dest (some hop)) key := by
    intro dest _ absent other remembered
    by_cases here : other = dest
    · rw [here, Function.update_self] at remembered
      cases Option.some.inj remembered
      exact absent removed
    · rw [Function.update_of_ne here] at remembered
      exact before _ remembered
  cases effect with
  | quiet _ => exact before
  | cached _ _ _ _ => exact before
  | missed _ _ _ _ => exact before
  | routed _ _ _ _ looks found _ => exact updated _ _ (abandoned.hop forgets looks found)
  | selected _ _ _ _ _ sent found chosen _ =>
    subst sent
    rcases forgets.selects found with ⟨_, known, selected⟩
    rw [chosen] at known
    cases known
    exact updated _ _ (abandoned.selected linkLocal selected)
  | advertised _ _ _ _ _ _ _ kept _ =>
    intro _ remembered
    exact before _ (kept _ _ remembered)

/-- An advertisement with lifetime zero purges the destination cache. -/
theorem uncached_of_dismisses (dismisses : Dismisses node nd nce event)
    (effect : TableEffect node nd event next) : Uncached next.destCache nce.nceKey := by
  cases effect with
  | quiet kept => exact absurd dismisses (kept _)
  | cached _ _ sent _ =>
    subst sent
    exact dismisses.elim
  | missed _ _ sent _ =>
    subst sent
    exact dismisses.elim
  | routed _ _ _ _ looks _ _ =>
    cases event with
    | routerAdvertisement _ _ => exact looks.elim
    | _ => exact dismisses.elim
  | selected _ _ _ _ _ sent _ _ _ =>
    subst sent
    exact dismisses.elim
  | advertised _ _ _ _ _ _ _ _ purged => exact purged _ dismisses

/-- A timeout changes neither the routes nor the destination cache. -/
theorem tables_of_exhausts (exhausts : Exhausts node nd nce event)
    (effect : TableEffect node nd event next) : next = tables nd := by
  cases effect with
  | quiet _ => rfl
  | cached _ _ sent _ =>
    subst sent
    exact exhausts.elim
  | missed _ _ sent _ =>
    subst sent
    exact exhausts.elim
  | routed _ _ _ _ looks _ _ =>
    cases event with
    | nudTimeout _ => exact looks.elim
    | arTimeout _ => exact looks.elim
    | _ => exact exhausts.elim
  | selected _ _ _ _ _ sent _ _ _ =>
    subst sent
    exact exhausts.elim
  | advertised _ _ _ _ sent _ _ _ _ =>
    subst sent
    exact exhausts.elim

theorem Forgets.removes (forgets : Forgets node watched event)
    (removes : Removes node watched.nd key event) (specified : key.address ≠ {})
    (effect : TableEffect node watched.nd event next) :
    Uncached next.destCache key ∧ Unrouted next.rt6 key := by
  rcases removes with ⟨nce, router, rfl, dismisses | exhausts⟩
  · have clear := forgets.dismissed _ dismisses router
    have known : ¬Introduces node nce.nceKey event := by
      intro introduces
      cases event with
      | routerAdvertisement _ _ => exact introduces.2.1 dismisses.2.1
      | _ => exact introduces.elim
    exact ⟨uncached_of_dismisses dismisses effect, clear.1.effect clear.2 known specified effect⟩
  · have clear := forgets.exhausted _ exhausts router
    rw [tables_of_exhausts exhausts effect]
    exact ⟨clear.2, clear.1⟩

end Steps

/-! ## Runs -/

structure Sound (watched : Watched) : Prop where
  placed : Placed watched.nd.memory
  linkLocal : ∀ key ∈ defaultRouters watched.nd.memory, isLinkLocal key.address = true
  removed : ∀ key ∈ watched.removed, isLinkLocal key.address = true
  abandoned : Abandoned watched

theorem ne_of_isLinkLocal (linkLocal : isLinkLocal address = true) : address ≠ {} := by
  rintro rfl
  cases linkLocal

theorem start_sound (now : Int) : Sound { nd := start now emptyTable } where
  placed := (AddressResolution.start_sound AddressResolution.someHost now emptyTable).placed
  linkLocal := fun _ member => nomatch member
  removed := fun _ member => nomatch member
  abandoned := {
    cached := fun _ member => nomatch member
    routed := fun _ member => nomatch member
    unlisted := fun _ member => nomatch member }

section Preserved

theorem removed_cases (changed : Changed node watched.nd event nd.memory)
    (member : key ∈ (watch node watched event nd).removed) :
    key ∈ watched.removed ∧ advertiser node event ≠ some key ∨
      key ∈ defaultRouters watched.nd.memory ∧ key ∉ defaultRouters nd.memory ∧
        Removes node watched.nd key event := by
  rcases mem_watch.mp member with old | ⟨before, after⟩
  · exact .inl old
  · rcases (changed _).2 before with stays | removes
    · exact absurd stays after
    · exact .inr ⟨before, after, removes⟩

theorem Sound.clear (sound : Sound watched) (forgets : Forgets node watched event)
    (changed : Changed node watched.nd event nd.memory)
    (effect : TableEffect node watched.nd event (tables nd))
    (member : key ∈ (watch node watched event nd).removed) :
    Uncached nd.destCache key ∧ Unrouted nd.rt6 key := by
  rcases removed_cases changed member with ⟨old, silent⟩ | ⟨before, -, removes⟩
  · have specified := ne_of_isLinkLocal (sound.removed _ old)
    have known : ¬Introduces node key event := by
      intro introduces
      exact silent (introduces_advertiser introduces).1
    refine ⟨sound.abandoned.uncached sound.removed forgets old effect, ?_⟩
    exact (sound.abandoned.routed _ old).effect (forgets.moved _ old silent) known specified effect
  · have specified := ne_of_isLinkLocal (sound.linkLocal _ before)
    exact forgets.removes removes specified effect

theorem step_sound (sound : Sound watched) (forgets : Forgets node watched event)
    (step : Step node watched.nd event nd) : Sound (watch node watched event nd) := by
  have effect := step_effect sound.placed step
  have changed := Changed.effect sound.placed effect
  have tabled := step_tables step
  constructor
  · exact sound.placed.effect effect
  · intro _ now
    rcases (changed _).1 now with before | introduces
    · exact sound.linkLocal _ before
    · exact (introduces_advertiser introduces).2
  · intro _ member
    rcases removed_cases changed member with ⟨old, -⟩ | ⟨before, -, -⟩
    · exact sound.removed _ old
    · exact sound.linkLocal _ before
  · constructor
    · intro _ member
      exact (sound.clear forgets changed tabled member).1
    · intro _ member
      exact (sound.clear forgets changed tabled member).2
    · intro key member now
      rcases removed_cases changed member with ⟨old, silent⟩ | ⟨-, after, -⟩
      · rcases (changed key).1 now with before | introduces
        · exact sound.abandoned.unlisted key old before
        · exact silent (introduces_advertiser introduces).1
      · exact after now

end Preserved

/--
What is promised about default routers in a state, for the events that may
come next.
-/
structure Obeyed (node : Node) (allowed : Event → Prop) (watched : Watched) : Prop where
  abandoned : Abandoned watched
  sent :
    ∀ event nd, allowed event → Step node watched.nd event nd →
      ∃ hops, nd.nextHops = watched.nd.nextHops ++ hops ∧
        ∀ hop ∈ hops, ⟨hop.address, hop.interfaceId⟩ ∉ watched.removed
  selected :
    ∀ srcAddress dest looked, allowed (.datagram srcAddress dest) →
      doLookup watched.nd dest = .ok (looked, none) →
        ∃ hop,
          selectDefaultRouter watched.nd.simTime watched.nd.memory = .ok hop ∧
            Selected watched.nd hop

/--
In every run of a node without routes whose events leave nothing that leads to
a router that was removed, no datagram is sent to such a router.
-/
theorem routers_forgotten (node : Node) (now : Int) (events : List Event) (watched : Watched)
    (ran : Run (guardedStep (Forgets node) (WatchedStep node))
      { nd := start now emptyTable } events watched) :
    Obeyed node (Forgets node watched) watched := by
  have sound : Sound watched := by
    refine ran.guarded ?_ (start_sound _)
    rintro _ event _ holds forgets ⟨nd, step, rfl⟩
    exact step_sound holds forgets step
  exact {
    abandoned := sound.abandoned
    sent := fun event nd forgets step =>
      sound.abandoned.sent sound.removed forgets (step_tables step)
    selected := fun srcAddress dest looked forgets found => forgets.selects found }

/-! ## A router that leaves -/

/-- The address fe80::1 of a router. -/
def routerAddress : IPv6Address := { d0 := 0xFE800000, d3 := 1 }

/-- The address 2001:db8:1::1 of a host elsewhere. -/
def offLink : IPv6Address := { d0 := 0x20010DB8, d1 := 0x10000, d3 := 1 }

def fromRouter (destAddr : IPv6Address) : ControlInfo where
  srcAddr := routerAddress
  destAddr
  hopLimit := 255
  protocolICMPv6 := true
  interfaceId := 1

def routerAdvertises (routerLifetime : BitVec 16)
    (sourceLinkLayerAddress : Arp.Resolution.MACAddress) : Event :=
  .routerAdvertisement
    { routerLifetime
      sourceLinkLayerAddress
      prefixInformation := [] }
    (fromRouter ALL_NODES_2)

/-- The router looks for the address of the host, and answers it. -/
def routerMeets : List Event :=
  [.solicitation { targetAddress := AddressResolution.ownAddress, sourceLinkLayerAddress := ⟨3⟩ }
      (fromRouter (formSolicitedNodeMulticastAddress AddressResolution.ownAddress)),
    .advertisement
      { routerFlag := true
        solicitedFlag := true
        overrideFlag := true
        targetAddress := routerAddress
        targetLinkLayerAddress := ⟨3⟩ }
      (fromRouter AddressResolution.ownAddress)]

def sendsOffLink : Event :=
  .datagram AddressResolution.ownAddress offLink

def routerLeaves : List Event :=
  .assignAddresses 1 AddressResolution.ownAddresses ::
    routerAdvertises 1800 Arp.Resolution.unspecifiedAddress :: routerMeets ++
    [sendsOffLink, routerAdvertises 0 Arp.Resolution.unspecifiedAddress, sendsOffLink]

def isTimeout : Event → Bool
  | .nudTimeout _ => true
  | .arTimeout _ => true
  | _ => false

/-- There are no routes, and a scan would end well. -/
def unrouted (watched : Watched) (event : Event) : Bool :=
  watched.nd.rt6.routeList.isEmpty && !isTimeout event &&
    (scanEnd watched.nd.simTime watched.nd.memory.neighbourMap).all fun nce =>
      nce.isDefaultRouter && watched.nd.simTime ≤ nce.routerExpiryTime

theorem forgets_of_unrouted
    (clear : unrouted watched event = true) : Forgets node watched event := by
  simp only [unrouted, Bool.and_eq_true, List.isEmpty_iff, Bool.not_eq_true', Option.all_eq_true,
    decide_eq_true_eq] at clear
  rcases clear with ⟨⟨empty, message⟩, scan⟩
  have absent : ∀ route, route ∉ watched.nd.rt6.routeList := by
    rw [empty]
    exact fun _ => List.not_mem_nil
  constructor
  · intro _ _ _
    exact ⟨fun route member => absurd member (absent _),
      fun route member => absurd member (absent _)⟩
  · intro _ exhausts
    cases event with
    | nudTimeout _ => cases message
    | arTimeout _ => cases message
    | _ => exact exhausts.elim
  · intro _ _ _ _ member
    exact absurd member (absent _)
  · intro _ _ _ _ found
    exact absurd (doLookup_mem found) (absent _)
  · intro _ scans
    cases event with
    | datagram _ _ => exact scan _ scans.2
    | _ => exact scans.elim

/-- A step that is watched, of a host. -/
def serve (watched : Watched) (event : Event) : Except Failure Watched :=
  watch AddressResolution.someHost watched event <$>
    handle AddressResolution.someHost watched.nd event

def serveUnrouted (watched : Watched) (event : Event) : Except Failure Watched :=
  if unrouted watched event then serve watched event else .error .assertion

theorem watchedStep_of_serve (served : serve watched event = .ok next) :
    WatchedStep AddressResolution.someHost watched event next := by
  rcases map_eq_ok.mp served with ⟨nd, step, same⟩
  exact ⟨nd, step, same.symm⟩

/-- The router is used until it says that it is no router any more. -/
theorem routers_forgotten_leaving :
    ∃ watched,
      Run (guardedStep (Forgets AddressResolution.someHost)
          (WatchedStep AddressResolution.someHost))
        { nd := start 0 emptyTable } routerLeaves watched ∧
        watched.removed = [⟨routerAddress, 1⟩] ∧
        watched.nd.nextHops = [⟨offLink, routerAddress, 1⟩] ∧
        watched.nd.noRoute = [offLink] ∧
        Obeyed AddressResolution.someHost (Forgets AddressResolution.someHost watched) watched := by
  have computed :
      (fun watched : Watched =>
        (watched.removed, watched.nd.nextHops, watched.nd.noRoute)) <$>
        routerLeaves.foldlM serveUnrouted { nd := start 0 emptyTable } =
          .ok ([⟨routerAddress, 1⟩], [⟨offLink, routerAddress, 1⟩], [offLink]) := by
    decide +kernel
  obtain ⟨watched, served, fields⟩ := map_eq_ok.mp computed
  rw [Prod.mk.injEq, Prod.mk.injEq] at fields
  have ran : Run (guardedStep (Forgets AddressResolution.someHost)
      (WatchedStep AddressResolution.someHost))
      { nd := start 0 emptyTable } routerLeaves watched := by
    refine (Run.of_foldlM served).mono ?_
    intro _ _ _ done
    unfold serveUnrouted at done
    split_ifs at done with clear
    exact ⟨forgets_of_unrouted clear, watchedStep_of_serve done⟩
  exact ⟨watched, ran, fields.1, fields.2.1, fields.2.2,
    routers_forgotten AddressResolution.someHost 0 _ _ ran⟩

/-- The default route of the router outlives its entry. -/
theorem router_remembered :
    ¬∀ (node : Node) (now : Int) (events : List Event) (watched : Watched),
      node.isRouter = false →
        Run (WatchedStep node) { nd := start now emptyTable } events watched →
          Obeyed node (fun _ => True) watched := by
  intro claim
  have computed :
      (fun watched : Watched =>
        (watched.removed, watched.nd.nextHops,
          (fun nd : IPv6NeighbourDiscovery => nd.nextHops) <$>
            handle AddressResolution.someHost watched.nd (.routePacket offLink))) <$>
        [routerAdvertises 1800 ⟨3⟩, routerAdvertises 0 ⟨3⟩].foldlM serve
          { nd := start 0 emptyTable } =
          .ok ([⟨routerAddress, 1⟩], [], .ok [⟨offLink, routerAddress, 1⟩]) := by
    decide +kernel
  obtain ⟨watched, served, fields⟩ := map_eq_ok.mp computed
  rw [Prod.mk.injEq, Prod.mk.injEq] at fields
  rcases fields with ⟨removed, before, sending⟩
  obtain ⟨nd, step, after⟩ := map_eq_ok.mp sending
  have ran : Run (WatchedStep AddressResolution.someHost) { nd := start 0 emptyTable }
      [routerAdvertises 1800 ⟨3⟩, routerAdvertises 0 ⟨3⟩] watched := by
    refine (Run.of_foldlM served).mono ?_
    intro _ _ _ done
    exact watchedStep_of_serve done
  have obeyed := claim AddressResolution.someHost 0 _ _ rfl ran
  rcases obeyed.sent _ _ trivial step with ⟨_, noted, absent⟩
  rw [before, after, List.nil_append] at noted
  have hop := absent ⟨offLink, routerAddress, 1⟩ (by
    rw [← noted]
    exact List.mem_cons_self)
  rw [removed] at hop
  exact hop List.mem_cons_self

end OmnetDsi.Ipv6.DefaultRouters
