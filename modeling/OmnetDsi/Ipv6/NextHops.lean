import OmnetDsi.Ipv6.NeighbourEffects

/-!
# What the handlers do to the next hops

A next hop comes from the destination cache, from a route or from the scan of
the neighbour cache.  `TableEffect` lists what an event can do to the first
two and which next hop it may note, and `step_tables` says that there is
nothing else.

`processRAPrefixInfo_keeps` says which of the routes through a router are
there after the prefixes of an advertisement.
-/

namespace OmnetDsi.Ipv6.NextHops

open Contract.IPv6Addresses Ipv6.NeighbourDiscovery Ipv6.NeighbourEffects
open OmnetDsi.Ipv6.RoutingTables (IPv6Route RouteSort RoutingTable6
  addDefaultRoute addOrUpdateOnLinkPrefix addOrUpdatePrefix addRoute isPrefixOf removeOnLinkPrefix)
open Library Library.Fallible

/-! ## Effects -/

/-- Where next hops are kept, and those that were noted so far. -/
structure Tables where
  rt6 : RoutingTable6
  destCache : IPv6Address → Option (IPv6Address × Int)
  nextHops : List NextHop

def tables (nd : IPv6NeighbourDiscovery) : Tables where
  rt6 := nd.rt6
  destCache := nd.destCache
  nextHops := nd.nextHops

/-- A route is looked for. -/
def Looks (nd : IPv6NeighbourDiscovery) (dest : IPv6Address) : Event → Prop
  | .datagram _ destAddress => destAddress = dest
  | .routePacket destAddress => destAddress = dest ∧ ((nd.destCache dest).getD ({}, -1)).2 = -1
  | _ => False

inductive TableEffect (node : Node) (nd : IPv6NeighbourDiscovery)
    (event : Event) : Tables → Prop where
  | quiet (kept : ∀ nce, ¬Dismisses node nd nce event) : TableEffect node nd event (tables nd)
  | cached (dest : IPv6Address) (hop : IPv6Address × Int)
      (sent : event = .routePacket dest) (known : nd.destCache dest = some hop) :
      TableEffect node nd event ⟨nd.rt6, nd.destCache, nd.nextHops ++ [⟨dest, hop.1, hop.2⟩]⟩
  | missed (dest : IPv6Address) (rt6 : RoutingTable6) (sent : event = .routePacket dest)
      (rest : rt6.routeList.Sublist nd.rt6.routeList) :
      TableEffect node nd event ⟨rt6, nd.destCache, nd.nextHops⟩
  | routed (dest : IPv6Address) (looked : IPv6NeighbourDiscovery)
      (route : IPv6Route) (hops : List NextHop) (looks : Looks nd dest event)
      (found : doLookup nd dest = .ok (looked, some route))
      (noted : ∀ hop ∈ hops, hop.address = hopOn route dest ∧ hop.interfaceId = route.interfaceId) :
      TableEffect node nd event
        ⟨looked.rt6, Function.update nd.destCache dest (some (hopOn route dest, route.interfaceId)),
          nd.nextHops ++ hops⟩
  | selected (srcAddress dest : IPv6Address) (looked : IPv6NeighbourDiscovery)
      (selected : IPv6Address × Int) (hops : List NextHop)
      (sent : event = .datagram srcAddress dest) (found : doLookup nd dest = .ok (looked, none))
      (chosen : selectDefaultRouter nd.simTime nd.memory = .ok selected)
      (noted : ∀ hop ∈ hops, hop.address = selected.1 ∧
        hop.interfaceId = selected.2 ∧ selected.2 ≠ -1) :
      TableEffect node nd event
        ⟨looked.rt6, Function.update nd.destCache dest (some selected), nd.nextHops ++ hops⟩
  | advertised (ra : IPv6RouterAdvertisement) (raCtrlInfo : ControlInfo)
      (base : RoutingTable6) (destCache : IPv6Address → Option (IPv6Address × Int))
      (sent : event = .routerAdvertisement ra raCtrlInfo)
      (taken : takesAdvertisement node raCtrlInfo = true)
      (routes : base = nd.rt6 ∨
        ra.routerLifetime ≠ 0 ∧
          ∃ time, base = addDefaultRoute node.order nd.rt6
            raCtrlInfo.srcAddr raCtrlInfo.interfaceId time)
      (kept : ∀ dest hop, destCache dest = some hop → nd.destCache dest = some hop)
      (purged : ∀ nce, Dismisses node nd nce event →
        ∀ dest, destCache dest ≠ some (nce.nceKey.address, nce.nceKey.interfaceID)) :
      TableEffect node nd event
        ⟨processRAPrefixInfo node nd.simTime raCtrlInfo.interfaceId ra.prefixInformation base,
          destCache, nd.nextHops⟩

/-! ## The effect of each handler -/

section Handlers

theorem resolveFor_tables
    (done : resolveFor node first nextHop interfaceId = .ok last) : tables last = tables first := by
  rcases map_eq_ok.mp done with ⟨_, -, rfl⟩
  rfl

theorem resolveAndQueue_tables
    (done : resolveAndQueue node first nce msg = .ok last) : tables last = tables first := by
  rcases map_eq_ok.mp done with ⟨_, initiated, rfl⟩
  dsimp only [initiateAddressResolution] at initiated
  split_ifs at initiated
  all_goals
    cases initiated
    rfl

theorem sendToNeighbour_tables
    (done : sendToNeighbour node first nce msg = .ok last) : tables last = tables first := by
  unfold sendToNeighbour at done
  split_ifs at done
  · cases done
    rfl
  · exact resolveAndQueue_tables done
  · split at done
    · rcases map_eq_ok.mp done with ⟨_, -, rfl⟩
      rfl
    · cases done
      rfl
    · cases done
      rfl
    · cases done

theorem sendToNextHop_tables
    (done : sendToNextHop node first msg nextHopAddr nextHopIfID = .ok last) :
    tables last = tables first := by
  unfold sendToNextHop at done
  split at done
  · split at done
    · cases done
    · have same := resolveAndQueue_tables done
      exact same
  · exact sendToNeighbour_tables done

theorem handleNUDTimeout_tables {msg : Nat}
    (done : handleNUDTimeout node nd msg = .ok next) : tables next = tables nd := by
  unfold handleNUDTimeout at done
  split at done
  · cases done
  · dsimp only at done
    unfold processNUDTimeout at done
    split at done
    · cases done
    · dsimp only at done
      split_ifs at done
      · rcases map_eq_ok.mp done with ⟨_, -, rfl⟩
        rfl
      · cases done
        rfl

theorem handleARTimeout_tables {msg : Nat}
    (done : handleARTimeout node nd msg = .ok next) : tables next = tables nd := by
  unfold handleARTimeout at done
  split at done
  · cases done
  · dsimp only at done
    unfold processARTimeout at done
    split at done
    · cases done
    · dsimp only at done
      split_ifs at done
      · cases done
        rfl
      · rcases bind_eq_ok.mp done with ⟨_, -, rest⟩
        rcases bind_eq_ok.mp rest with ⟨_, -, final⟩
        cases final
        rfl

theorem processNSPacket_tables
    (done : processNSPacket node nd ns nsCtrlInfo = .ok next) : tables next = tables nd := by
  dsimp only [processNSPacket] at done
  split_ifs at done
  · cases done
    rfl
  · unfold processNSForTentativeAddress at done
    split_ifs at done
    cases done
    rfl
  · cases done
    rfl
  · dsimp only [processNSWithSpecifiedSrcAddr] at done
    split at done
    · split at done
      · cases done
      · cases done
        rfl
    · cases done
      rfl

theorem processNAPacket_tables
    (done : processNAPacket node nd na naCtrlInfo = .ok next) : tables next = tables nd := by
  dsimp only [processNAPacket] at done
  split_ifs at done
  · cases done
    rfl
  · split at done
    · cases done
      rfl
    · rcases map_eq_ok.mp done with ⟨_, -, rfl⟩
      rfl

/-! ### Datagrams -/

theorem doLookup_mem (done : doLookup first dest = .ok (last, some route)) :
    route ∈ first.rt6.routeList := by
  unfold doLookup at done
  split at done
  · cases done
  · case _ looked =>
      cases done
      exact RoutingTables.lookup_mem looked

theorem doLookup_fields (done : doLookup first dest = .ok (last, route)) :
    last.rt6.routeList.Sublist first.rt6.routeList ∧ last = { first with rt6 := last.rt6 } := by
  unfold doLookup at done
  split at done
  · cases done
  · case _ looked =>
      cases done
      exact ⟨RoutingTables.lookup_sublist looked, rfl⟩

theorem routePacket_tables (done : routePacket node nd dest = .ok next) :
    TableEffect node nd (.routePacket dest) (tables next) := by
  dsimp only [routePacket] at done
  split_ifs at done with cached unspecified
  · rw [resolveFor_tables done]
    cases known : nd.destCache dest with
    | none =>
      rw [known] at cached
      exact absurd rfl cached
    | some _ => exact .cached _ _ rfl known
  · split at done
    · cases done
    · case _ looked found =>
        cases done
        rcases doLookup_fields found with ⟨rest, same⟩
        rw [same]
        exact .missed _ _ rfl rest
    · case _ looked route found =>
        split_ifs at done
        rw [resolveFor_tables done]
        have same := (doLookup_fields found).2
        have effect : TableEffect node nd (.routePacket dest)
            ⟨looked.rt6,
              Function.update nd.destCache dest (some (hopOn route dest, route.interfaceId)),
              nd.nextHops ++ [⟨dest, hopOn route dest, route.interfaceId⟩]⟩ := by
          refine .routed _ _ _ _ ⟨rfl, ?_⟩ found ?_
          · simpa using cached
          · intro _ member
            cases List.mem_singleton.mp member
            exact ⟨rfl, rfl⟩
        rwa [same]

theorem processIPv6Datagram_tables (done : processIPv6Datagram node nd srcAddress dest = .ok next) :
    TableEffect node nd (.datagram srcAddress dest) (tables next) := by
  unfold processIPv6Datagram at done
  split at done
  · cases done
  · case _ determined nextHopAddr nextHopIfID hop =>
      have noted : ∃ hops, tables next =
            ⟨determined.rt6, determined.destCache, determined.nextHops ++ hops⟩ ∧
          ∀ hop ∈ hops, hop.address = nextHopAddr ∧
            hop.interfaceId = nextHopIfID ∧ nextHopIfID ≠ -1 := by
        split_ifs at done with noHop
        · cases done
          refine ⟨[], ?_, fun _ member => nomatch member⟩
          rw [List.append_nil]
          rfl
        · rw [sendToNextHop_tables done]
          refine ⟨[⟨dest, nextHopAddr, nextHopIfID⟩], rfl, ?_⟩
          intro _ member
          cases List.mem_singleton.mp member
          exact ⟨rfl, rfl, noHop⟩
      rcases noted with ⟨hops, same, noted⟩
      rw [same]
      unfold determineNextHop at hop
      split at hop
      · cases hop
      · case _ looked route found =>
          cases hop
          have kept := (doLookup_fields found).2
          have effect : TableEffect node nd (.datagram srcAddress dest)
              ⟨looked.rt6,
                Function.update nd.destCache dest (some (hopOn route dest, route.interfaceId)),
                nd.nextHops ++ hops⟩ :=
            .routed _ _ _ _ rfl found fun hop member => ⟨(noted _ member).1, (noted _ member).2.1⟩
          rwa [kept]
      · case _ looked found =>
          have kept := (doLookup_fields found).2
          split at hop
          · cases hop
          · case _ addr ifID chosen =>
              cases hop
              have effect : TableEffect node nd (.datagram srcAddress dest)
                  ⟨looked.rt6, Function.update nd.destCache dest (some (nextHopAddr, nextHopIfID)),
                    nd.nextHops ++ hops⟩ := by
                refine .selected _ _ _ (nextHopAddr, nextHopIfID) _ rfl found ?_ noted
                rwa [kept] at chosen
              rwa [kept]

/-! ### Router advertisements -/

theorem purge_eq_some :
    purgeDestCacheEntriesToNeighbour destCache nextHopAddr interfaceId dest = some hop ↔
      destCache dest = some hop ∧ hop ≠ (nextHopAddr, interfaceId) := by
  unfold purgeDestCacheEntriesToNeighbour
  split_ifs with here
  · constructor
    · intro known
      cases known
    · rintro ⟨known, other⟩
      rw [here] at known
      exact absurd (Option.some.inj known).symm other
  · constructor
    · intro known
      refine ⟨known, ?_⟩
      rintro rfl
      exact here known
    · exact And.left

theorem enterAdvertiser_tables (done : enterAdvertiser node nd ra raSrcAddr ifID = .ok next) :
    next.destCache = nd.destCache ∧ next.nextHops = nd.nextHops ∧ next.simTime = nd.simTime ∧
      (next.rt6 = nd.rt6 ∨
        ra.routerLifetime ≠ 0 ∧
          ∃ time, next.rt6 = addDefaultRoute node.order nd.rt6 raSrcAddr ifID time) := by
  dsimp only [enterAdvertiser] at done
  split_ifs at done with lasting
  · rcases map_eq_ok.mp done with ⟨added, -, rfl⟩
    exact ⟨rfl, rfl, rfl, .inl rfl⟩
  · rcases map_eq_ok.mp done with ⟨_, -, rfl⟩
    exact ⟨rfl, rfl, rfl, .inr ⟨lasting, nd.simTime + ra.routerLifetime.toNat * node.second, rfl⟩⟩
  · rcases map_eq_ok.mp done with ⟨_, -, rfl⟩
    exact ⟨rfl, rfl, rfl, .inl rfl⟩
  · rcases map_eq_ok.mp done with ⟨_, -, rfl⟩
    exact ⟨rfl, rfl, rfl, .inl rfl⟩

theorem processRAPacket_tables (done : processRAPacket node nd ra raCtrlInfo = .ok next) :
    TableEffect node nd (.routerAdvertisement ra raCtrlInfo) (tables next) := by
  unfold processRAPacket at done
  split_ifs at done with taken
  · rcases map_eq_ok.mp done with ⟨updated, inner, rfl⟩
    unfold updateRouter at inner
    split at inner
    · case _ unknown =>
        rcases enterAdvertiser_tables inner with ⟨destCache, nextHops, simTime, routes⟩
        have effect : TableEffect node nd (.routerAdvertisement ra raCtrlInfo)
            ⟨processRAPrefixInfo node nd.simTime raCtrlInfo.interfaceId
              ra.prefixInformation updated.rt6, nd.destCache, nd.nextHops⟩ := by
          refine .advertised _ _ updated.rt6 nd.destCache rfl taken routes (fun _ _ => id) ?_
          rintro _ ⟨-, -, found⟩
          rw [unknown] at found
          cases found
        rwa [← destCache, ← nextHops, ← simTime] at effect
    · case _ neighbour found =>
        split_ifs at inner with ends
        · rcases map_eq_ok.mp inner with ⟨_, -, rfl⟩
          refine .advertised _ _ nd.rt6 _ rfl taken (.inl rfl) ?_ ?_
          · intro _ _ known
            exact (purge_eq_some.mp known).1
          · rintro _ ⟨-, -, known⟩ _ purged
            rw [(mem_of_lookup known).2] at purged
            exact (purge_eq_some.mp purged).2 rfl
        · cases inner
          refine .advertised _ raCtrlInfo nd.rt6 _ rfl taken (.inl rfl) (fun _ _ => id) ?_
          rintro _ ⟨-, zero, -⟩
          exact absurd zero ends
  · cases done
    exact .quiet fun _ dismisses => taken dismisses.1

theorem step_tables (step : Step node nd event next) : TableEffect node nd event (tables next) := by
  cases event with
  | elapse _ =>
    dsimp only [Step, handle, elapse] at step
    split_ifs at step
    cases step
    exact .quiet fun _ => id
  | assignAddresses _ _ =>
    cases step
    exact .quiet fun _ => id
  | nudTimeout _ =>
    rw [handleNUDTimeout_tables step]
    exact .quiet fun _ => id
  | arTimeout _ =>
    rw [handleARTimeout_tables step]
    exact .quiet fun _ => id
  | routePacket _ => exact routePacket_tables step
  | resolveNeighbour _ _ =>
    rw [resolveFor_tables step]
    exact .quiet fun _ => id
  | reachabilityConfirmed _ _ =>
    rcases map_eq_ok.mp step with ⟨_, -, rfl⟩
    exact .quiet fun _ => id
  | datagram _ _ => exact processIPv6Datagram_tables step
  | solicitation _ _ =>
    rw [processNSPacket_tables step]
    exact .quiet fun _ => id
  | advertisement _ _ =>
    rw [processNAPacket_tables step]
    exact .quiet fun _ => id
  | routerAdvertisement _ _ => exact processRAPacket_tables step

end Handlers

/-! ## Routes after an advertisement -/

/-- An option renews the prefix of the route. -/
def Renewed (prefixInformation : List IPv6NDPrefixInformation) (route : IPv6Route) : Prop :=
  ∃ prefixInfo ∈ prefixInformation,
    prefixInfo.onlinkFlag = true ∧ prefixInfo.validLifetime ≠ 0 ∧
      prefixInfo.address = route.destPrefix ∧ prefixInfo.prefixLength = route.prefixLength

/--
A route through a router was there before, with its interface or moved to the
interface of the advertisement.
-/
def Stems (interfaceId : Int) (prefixInformation : List IPv6NDPrefixInformation)
    (before : List IPv6Route) (route : IPv6Route) : Prop :=
  route.nextHop = {} ∨
    ∃ old ∈ before,
      old.nextHop = route.nextHop ∧ old.destPrefix = route.destPrefix ∧
        old.prefixLength = route.prefixLength ∧
        (route.interfaceId = old.interfaceId ∨
          route.interfaceId = interfaceId ∧ Renewed prefixInformation old)

section Options

variable {before : List IPv6Route}

theorem Stems.refl (member : route ∈ before) : Stems interfaceId prefixInformation before route :=
  .inr ⟨route, member, rfl, rfl, rfl, .inl rfl⟩

theorem mem_modify (member : route ∈ before.modify index change) :
    route ∈ before ∨ ∃ old, before[index]? = some old ∧ route = change old := by
  rcases List.mem_iff_getElem?.mp member with ⟨_, found⟩
  rw [List.getElem?_modify] at found
  rcases Option.map_eq_some_iff.mp found with ⟨old, known, same⟩
  split_ifs at same with here
  · subst here
    exact .inr ⟨old, known, same.symm⟩
  · have kept : old = route := same
    rw [← kept]
    exact .inl (List.mem_of_getElem? known)

theorem mem_addOrUpdate
    (member : route ∈ (addOrUpdateOnLinkPrefix order table destPrefix
      prefixLength interfaceId expiryTime).routeList) :
    route.nextHop = {} ∨ route ∈ table.routeList ∨
      ∃ old ∈ table.routeList,
        old.destPrefix = destPrefix ∧ old.prefixLength = prefixLength ∧
          route = { old with
            interfaceId
            expiryTime } := by
  unfold addOrUpdateOnLinkPrefix addOrUpdatePrefix at member
  split at member
  · rcases List.mem_append.mp ((order.perm _).mem_iff.mp member) with old | new
    · exact .inr (.inl old)
    · cases List.mem_singleton.mp new
      exact .inl rfl
  · case _ index found =>
      rcases mem_modify member with old | ⟨old, known, same⟩
      · exact .inr (.inl old)
      · rcases List.findIdx?_eq_some_iff_getElem.mp found with ⟨bound, holds, -⟩
        rw [List.getElem?_eq_getElem bound] at known
        rw [Option.some.inj known] at holds
        simp only [isPrefixOf, Bool.and_eq_true, decide_eq_true_eq] at holds
        exact .inr (.inr ⟨old, List.mem_of_getElem (Option.some.inj known),
          holds.1.2, holds.2, same⟩)

theorem mem_removeOnLink
    (member : route ∈ (removeOnLinkPrefix table destPrefix prefixLength).routeList) :
    route ∈ table.routeList := by
  unfold removeOnLinkPrefix at member
  split at member
  · exact member
  · exact List.mem_of_mem_eraseIdx member

theorem Stems.after (onlink : prefixInfo.onlinkFlag = true) (lasting : prefixInfo.validLifetime ≠ 0)
    (stems : Stems interfaceId rest
      (addOrUpdateOnLinkPrefix order table prefixInfo.address
        prefixInfo.prefixLength interfaceId expiryTime).routeList route) :
    Stems interfaceId (prefixInfo :: rest) table.routeList route := by
  have later : ∀ old, Renewed rest old → Renewed (prefixInfo :: rest) old := by
    rintro old ⟨option, member, facts⟩
    exact ⟨option, List.mem_cons_of_mem _ member, facts⟩
  rcases stems with direct | ⟨middle, member, hop, destPrefix, length, moved⟩
  · exact .inl direct
  · rcases mem_addOrUpdate member with direct | old | ⟨old, listed, samePrefix, sameLength, same⟩
    · exact .inl (hop.symm.trans direct)
    · refine .inr ⟨middle, old, hop, destPrefix, length, ?_⟩
      exact moved.imp_right fun both => ⟨both.1, later _ both.2⟩
    · subst same
      refine .inr ⟨old, listed, hop, destPrefix, length, .inr ⟨?_, ?_⟩⟩
      · exact moved.elim id And.left
      · exact ⟨prefixInfo, List.mem_cons_self, onlink, lasting, samePrefix.symm, sameLength.symm⟩

theorem Stems.later (stems : Stems interfaceId rest before route) :
    Stems interfaceId (prefixInfo :: rest) before route := by
  rcases stems with direct | ⟨old, listed, hop, destPrefix, length, moved⟩
  · exact .inl direct
  · refine .inr ⟨old, listed, hop, destPrefix, length, ?_⟩
    refine moved.imp_right ?_
    rintro ⟨here, option, member, facts⟩
    exact ⟨here, option, List.mem_cons_of_mem _ member, facts⟩

theorem processRAPrefixInfo_keeps
    (member : route ∈ (processRAPrefixInfo node now interfaceId
      prefixInformation table).routeList) :
    Stems interfaceId prefixInformation table.routeList route := by
  induction prefixInformation generalizing table with
  | nil => exact .refl member
  | cons _ _ induction =>
    dsimp only [processRAPrefixInfo] at member
    split_ifs at member with offLink linkLocal absent lasting ends
    · exact .refl member
    · exact .refl member
    · refine Stems.after ?_ ?_ (induction member)
      · simpa using offLink
      · rintro zero
        rw [zero] at lasting
        exact lasting (Nat.zero_mul _)
    · exact (induction member).later
    · exact .refl (mem_removeOnLink member)
    · refine Stems.after ?_ ?_ (induction member)
      · simpa using offLink
      · rintro zero
        rw [zero] at ends
        exact ends (Nat.zero_mul _)

end Options

end OmnetDsi.Ipv6.NextHops
