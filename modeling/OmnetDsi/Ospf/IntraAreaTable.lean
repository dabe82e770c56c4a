import OmnetDsi.Ospf.RouteCalculation

/-!
# The network entries of an area

The routes of a complete tree lead to its networks and to the stub links of its
routers.  The calculation takes them one by one and searches the entry of each
by its address, among entries with other masks.  When every search finds the
entry of the route's own destination, or none when there is none, the table
has one entry for each destination, with the least cost.
-/

namespace OmnetDsi.Ospf.IntraAreaTable

open BitVec (le_refl not_lt)
open OmnetDsi.Ospf.ShortestPathTree (Area OSPFLSA RouterLSA NetworkLSA Link Spf)
open Ospf.RouteCalculation RoutingTableEntry

/-! ## Routes -/

/-- The costs at which the tree reaches a destination. -/
inductive RoutesTo (spf : Spf) : Destination → Nat → Prop where
  | network {networkLSA : NetworkLSA} (onTree : .network networkLSA ∈ spf.treeVertices) :
      RoutesTo spf
        { destinationID := networkLSA.linkStateID &&& networkLSA.networkMask
          addressMask := networkLSA.networkMask }
        (spf.distance (.network networkLSA)).toNat
  | stub {routerLSA : RouterLSA} {link : Link} (onTree : .router routerLSA ∈ spf.treeVertices)
      (among : link ∈ routerLSA.links) (isStub : link.type = .stubLink) :
      RoutesTo spf { destinationID := link.linkID &&& link.linkData, addressMask := link.linkData }
        ((spf.distance (.router routerLSA)).toNat + link.linkCost.toNat)

/-- One entry for each destination, at its least cost, and no other entry. -/
structure IsIntraAreaTable (spf : Spf) (table : List RoutingTableEntry) : Prop where
  entries :
    ∀ destination cost, RoutesTo spf destination cost →
      ∃ entry,
        (table.filter fun other => other.destination = destination) = [entry] ∧
          RoutesTo spf destination entry.cost.toNat ∧
            ∀ other, RoutesTo spf destination other → entry.cost.toNat ≤ other
  noOthers : ∀ entry ∈ table, ∃ cost, RoutesTo spf entry.destination cost

/-- A route in the order in which the calculation takes them. -/
structure Route where
  destination : Destination
  cost : BitVec 64

def networkRoute (networkLSA : NetworkLSA) (distance : BitVec 64) : Route where
  destination := (networkEntry networkLSA distance).destination
  cost := distance

def stubRoute (routerLSA : RouterLSA) (distance : BitVec 64) (link : Link) : Route where
  destination := (stubEntry routerLSA link (distance + link.linkCost)).destination
  cost := distance + link.linkCost

def vertexRoutes (distance : OSPFLSA → BitVec 64) : OSPFLSA → List Route
  | .router _ => []
  | .network networkLSA => [networkRoute networkLSA (distance (.network networkLSA))]

def vertexStubs (distance : OSPFLSA → BitVec 64) : OSPFLSA → List Route
  | .router routerLSA =>
    (routerLSA.links.filter fun link => link.type = .stubLink).map
      (stubRoute routerLSA (distance (.router routerLSA)))
  | .network _ => []

def networkRoutes (spf : Spf) : List Route :=
  spf.treeVertices.flatMap (vertexRoutes spf.distance)

def stubRoutes (spf : Spf) : List Route :=
  spf.treeVertices.flatMap (vertexStubs spf.distance)

/-! ## The condition -/

def note (known : List Destination) (destination : Destination) : List Destination :=
  if destination ∈ known then known else known ++ [destination]

/--
The search for each route among the destinations before it finds its own
destination, or nothing when that is new.
-/
def FindsOwn : List Destination → List Route → Prop
  | _, [] => True
  | known, route :: rest =>
    findEntry known route.destination.destinationID =
        (if route.destination ∈ known then some (known.idxOf route.destination)
        else none) ∧
      FindsOwn (note known route.destination) rest

/--
A stub link at the cost of a network with the same destination comes after a
cheaper route there.
-/
def Distinguished (networks : List Route) : List Route → List Route → Prop
  | _, [] => True
  | taken, stub :: rest =>
    (∀ route ∈ networks,
        route.destination = stub.destination → route.cost = stub.cost →
          ∃ other ∈ taken, other.destination = stub.destination ∧ other.cost < stub.cost) ∧
      Distinguished networks (taken ++ [stub]) rest

/-- The trees for which the table is computed as it should be. -/
structure Searchable (spf : Spf) : Prop where
  found : FindsOwn [] (networkRoutes spf ++ stubRoutes spf)
  networks :
    ∀ route ∈ networkRoutes spf, ∀ other ∈ networkRoutes spf,
      route.destination = other.destination → route.cost = other.cost
  stubs : Distinguished (networkRoutes spf) (networkRoutes spf) (stubRoutes spf)
  noOverflow :
    ∀ routerLSA, .router routerLSA ∈ spf.treeVertices →
      ∀ link ∈ routerLSA.links, link.type = .stubLink →
        (spf.distance (.router routerLSA)).toNat + link.linkCost.toNat < 2 ^ 64

/-! ## One route -/

/-- What the table holds when the routes are taken. -/
structure Tells (known : List Destination) (taken : List Route)
    (table : List RoutingTableEntry) : Prop where
  destinations : table.map destination = known
  once : known.Nodup
  knows : ∀ destination, destination ∈ known ↔ ∃ route ∈ taken, route.destination = destination
  reached :
    ∀ entry ∈ table, ∃ route ∈ taken,
      route.destination = entry.destination ∧ route.cost = entry.cost
  least :
    ∀ entry ∈ table, ∀ route ∈ taken,
      route.destination = entry.destination → entry.cost ≤ route.cost

/-- An entry with a network as its origin has the cost of the network. -/
def FromNetworks (networks : List Route) (table : List RoutingTableEntry) : Prop :=
  ∀ entry ∈ table, ∀ lsa, entry.linkStateOrigin = .network lsa →
    ∃ route ∈ networks, route.destination = entry.destination ∧ route.cost = entry.cost

section OneRoute

variable {known : List Destination} {taken : List Route}
variable {table : List RoutingTableEntry} {route : Route}

theorem tells_nil : Tells [] [] [] where
  destinations := rfl
  once := List.nodup_nil
  knows _ := ⟨nofun, nofun⟩
  reached := nofun
  least := nofun

theorem mem_note {destination : Destination} :
    other ∈ note known destination ↔ other ∈ known ∨ other = destination := by
  unfold note
  split_ifs with member
  · constructor
    · exact .inl
    · rintro (before | rfl)
      · exact before
      · exact member
  · rw [List.mem_append, List.mem_singleton]

theorem Tells.knows_note (tells : Tells known taken table) (destination : Destination) :
    destination ∈ note known route.destination ↔
      ∃ other ∈ taken ++ [route], other.destination = destination := by
  rw [mem_note, tells.knows]
  constructor
  · rintro (⟨other, among, same⟩ | rfl)
    · exact ⟨other, List.mem_append_left _ among, same⟩
    · exact ⟨route, by simp, rfl⟩
  · rintro ⟨other, among, rfl⟩
    rcases List.mem_append.mp among with before | single
    · exact .inl ⟨other, before, rfl⟩
    · exact .inr (by rw [List.mem_singleton.mp single])

theorem Tells.push (tells : Tells known taken table) (new : route.destination ∉ known)
    (destination : entry.destination = route.destination) (cost : entry.cost = route.cost) :
    Tells (note known route.destination) (taken ++ [route]) (table ++ [entry]) where
  destinations := by
    rw [note, if_neg new, List.map_append, tells.destinations, List.map_singleton, destination]
  once := by
    rw [note, if_neg new]
    refine List.nodup_append.mpr ⟨tells.once, List.nodup_singleton _, ?_⟩
    rintro other among _ single rfl
    exact new (List.mem_singleton.mp single ▸ among)
  knows := tells.knows_note
  reached other among := by
    rcases List.mem_append.mp among with before | single
    · obtain ⟨found, member, same⟩ := tells.reached _ before
      exact ⟨found, List.mem_append_left _ member, same⟩
    · rw [List.mem_singleton.mp single]
      exact ⟨route, by simp, destination.symm, cost.symm⟩
  least other among found member same := by
    rcases List.mem_append.mp among with before | single <;>
      rcases List.mem_append.mp member with earlier | last
    · exact tells.least _ before _ earlier same
    · rw [List.mem_singleton.mp last] at same
      have listed : other.destination ∈ known := by
        rw [← tells.destinations]
        exact List.mem_map_of_mem before
      exact absurd (same ▸ listed) new
    · rw [List.mem_singleton.mp single, destination] at same
      exact absurd ((tells.knows _).mpr ⟨found, earlier, same⟩) new
    · rw [List.mem_singleton.mp single, List.mem_singleton.mp last, cost]
      exact le_refl _

/-- An entry of the changed table is the new one or has another place. -/
theorem mem_set_cases (member : old ∈ table.set index entry) :
    old = entry ∨ ∃ other, other ≠ index ∧ table[other]? = some old := by
  obtain ⟨place, found⟩ := List.mem_iff_getElem?.mp member
  rw [List.getElem?_set] at found
  split_ifs at found with same inside
  · cases found
    exact .inl rfl
  · exact .inr ⟨place, Ne.symm same, found⟩

section

variable (tells : Tells known taken table) (member : route.destination ∈ known)
include tells member

/-- The entry of a known destination is where the destination is known. -/
theorem Tells.entryAt :
    ∃ old, table[known.idxOf route.destination]? = some old ∧
      old.destination = route.destination ∧ old ∈ table := by
  have place : known[known.idxOf route.destination]? = some route.destination :=
    List.getElem?_idxOf member
  have mapped :
      (table.map destination)[known.idxOf route.destination]? = some route.destination := by
    rwa [tells.destinations]
  rw [List.getElem?_map, Option.map_eq_some_iff] at mapped
  obtain ⟨old, found, same⟩ := mapped
  exact ⟨old, found, same, List.mem_of_getElem? found⟩

theorem Tells.elsewhere
    (other : place ≠ known.idxOf route.destination) (found : table[place]? = some old) :
    old ∈ table ∧ old.destination ≠ route.destination := by
  refine ⟨List.mem_of_getElem? found, fun same => other ?_⟩
  have here : known[place]? = some route.destination := by
    rw [← tells.destinations, List.getElem?_map, found, ← same]
    rfl
  have there : known[known.idxOf route.destination]? = some route.destination :=
    List.getElem?_idxOf member
  have inside : place < known.length := (List.getElem?_eq_some_iff.mp here).1
  exact (List.getElem?_inj inside tells.once).mp (here.trans there.symm)

/-- The entry of a known destination is changed to the lesser cost. -/
theorem Tells.put (found : table[known.idxOf route.destination]? = some old)
    (destination : entry.destination = route.destination)
    (belowOld : entry.cost ≤ old.cost) (belowRoute : entry.cost ≤ route.cost)
    (oneOf : entry.cost = old.cost ∨ entry.cost = route.cost) :
    Tells (note known route.destination) (taken ++ [route])
      (table.set (known.idxOf route.destination) entry) := by
  obtain ⟨_, foundSame, oldDestination, oldMember⟩ := tells.entryAt member
  have known_note : note known route.destination = known := if_pos member
  rw [found] at foundSame
  cases foundSame
  constructor
  · rw [known_note, List.map_set, tells.destinations, destination]
    refine List.ext_getElem? fun place => ?_
    rw [List.getElem?_set]
    split_ifs with here inside
    · rw [← here, List.getElem?_idxOf member]
    · exact absurd (List.idxOf_lt_length_iff.mpr member) inside
    · rfl
  · rw [known_note]
    exact tells.once
  · exact tells.knows_note
  · intro _ among
    rcases mem_set_cases among with rfl | ⟨_, apart, there⟩
    · rcases oneOf with asOld | asRoute
      · obtain ⟨earlier, earlierMember, earlierSame, cost⟩ := tells.reached _ oldMember
        refine ⟨earlier, List.mem_append_left _ earlierMember, ?_, ?_⟩
        · rw [earlierSame, oldDestination, destination]
        · rw [cost, asOld]
      · exact ⟨route, by simp, destination.symm, asRoute.symm⟩
    · obtain ⟨earlier, earlierMember, earlierSame⟩ :=
        tells.reached _ (tells.elsewhere member apart there).1
      exact ⟨earlier, List.mem_append_left _ earlierMember, earlierSame⟩
  · intro other among earlier earlierMember earlierSame
    rcases mem_set_cases among with rfl | ⟨_, apart, there⟩
    · rcases List.mem_append.mp earlierMember with before | last
      · refine BitVec.le_trans belowOld ?_
        refine tells.least _ oldMember earlier before ?_
        rw [earlierSame, destination, oldDestination]
      · rwa [List.mem_singleton.mp last]
    · have separate := tells.elsewhere member apart there
      rcases List.mem_append.mp earlierMember with before | last
      · exact tells.least other separate.1 earlier before earlierSame
      · rw [List.mem_singleton.mp last] at earlierSame
        exact absurd earlierSame.symm separate.2

end

end OneRoute

/-! ## The loops over the tree -/

/-- The destinations known after some routes. -/
def learn (known : List Destination) (routes : List Route) : List Destination :=
  routes.foldl (fun known route => note known route.destination) known

theorem learn_append (known : List Destination) (routes more : List Route) :
    learn known (routes ++ more) = learn (learn known routes) more :=
  List.foldl_append

theorem findsOwn_append :
    FindsOwn known (routes ++ more) ↔
      FindsOwn known routes ∧ FindsOwn (learn known routes) more := by
  induction routes generalizing known with
  | nil => exact ⟨fun found => ⟨trivial, found⟩, And.right⟩
  | cons _ _ induction =>
    rw [List.cons_append, FindsOwn, FindsOwn, induction, and_assoc]
    rfl

theorem distinguished_append :
    Distinguished networks taken (routes ++ more) ↔
      Distinguished networks taken routes ∧ Distinguished networks (taken ++ routes) more := by
  induction routes generalizing taken with
  | nil =>
    rw [List.nil_append, List.append_nil]
    exact ⟨fun apart => ⟨trivial, apart⟩, And.right⟩
  | cons _ _ induction =>
    rw [List.cons_append, Distinguished, Distinguished, induction, and_assoc, List.append_assoc]
    rfl

section Loops

variable {table : List RoutingTableEntry}

theorem modify_eq_set (found : table[index]? = some old)
    (change : RoutingTableEntry → RoutingTableEntry) :
    table.modify index change = table.set index (change old) := by
  rw [List.modify_eq_set_getElem?, found]
  rfl

theorem fromNetworks_set (from_networks : FromNetworks networks table)
    (own :
      ∀ lsa, entry.linkStateOrigin = .network lsa →
        ∃ route ∈ networks, route.destination = entry.destination ∧ route.cost = entry.cost) :
    FromNetworks networks (table.set index entry) := by
  intro _ among _ origin
  rcases mem_set_cases among with rfl | ⟨_, _, found⟩
  · exact own _ origin
  · exact from_networks _ (List.mem_of_getElem? found) _ origin

theorem addNetwork_tells {cost : BitVec 64}
    (tells : Tells known taken table) (from_networks : FromNetworks networks table)
    (found : FindsOwn known [networkRoute networkLSA cost])
    (among : networkRoute networkLSA cost ∈ networks) (within : ∀ route ∈ taken, route ∈ networks)
    (agree :
      ∀ route ∈ networks, ∀ other ∈ networks,
        route.destination = other.destination → route.cost = other.cost) :
    Tells (note known (networkRoute networkLSA cost).destination)
        (taken ++ [networkRoute networkLSA cost]) (addNetwork table networkLSA cost) ∧
      FromNetworks networks (addNetwork table networkLSA cost) := by
  have own :
      ∃ route ∈ networks,
        route.destination = (networkEntry networkLSA cost).destination ∧
          route.cost = (networkEntry networkLSA cost).cost :=
    ⟨_, among, rfl, rfl⟩
  have search :
      findEntry (table.map destination) (networkEntry networkLSA cost).destinationID =
        if (networkRoute networkLSA cost).destination ∈ known then
          some (known.idxOf (networkRoute networkLSA cost).destination)
        else
          none := by
    rw [tells.destinations]
    exact found.1
  dsimp only [addNetwork]
  rw [search]
  split_ifs with member
  · dsimp only
    obtain ⟨old, there, sameDestination, oldMember⟩ := tells.entryAt member
    obtain ⟨_, earlierMember, earlierSame, earlierCost⟩ := tells.reached _ oldMember
    have sameCost : old.cost = cost := by
      rw [← earlierCost]
      exact agree _ (within _ earlierMember) _ among (earlierSame.trans sameDestination)
    rw [modify_eq_set there]
    split_ifs
    · refine ⟨tells.put member there rfl ?_ (le_refl _) (.inr rfl), ?_⟩
      · rw [sameCost]
        exact le_refl _
      · exact fromNetworks_set from_networks fun _ _ => own
    · refine ⟨tells.put member there sameDestination (le_refl _) ?_ (.inl rfl), ?_⟩
      · rw [sameCost]
        exact le_refl _
      · exact fromNetworks_set from_networks fun lsa origin =>
          from_networks old oldMember lsa origin
  · refine ⟨tells.push member rfl rfl, ?_⟩
    intro entry listed lsa origin
    rcases List.mem_append.mp listed with before | last
    · exact from_networks entry before lsa origin
    · rwa [List.mem_singleton.mp last]

theorem addVertices_tells {vertices : List OSPFLSA} (tells : Tells known taken table)
    (from_networks : FromNetworks networks table)
    (found : FindsOwn known (vertices.flatMap (vertexRoutes distance)))
    (among : ∀ route ∈ vertices.flatMap (vertexRoutes distance), route ∈ networks)
    (within : ∀ route ∈ taken, route ∈ networks)
    (agree :
      ∀ route ∈ networks, ∀ other ∈ networks,
        route.destination = other.destination → route.cost = other.cost) :
    Tells (learn known (vertices.flatMap (vertexRoutes distance)))
        (taken ++ vertices.flatMap (vertexRoutes distance))
        (vertices.foldl (addVertex distance) table) ∧
      FromNetworks networks (vertices.foldl (addVertex distance) table) := by
  induction vertices generalizing known taken table with
  | nil =>
    rw [List.flatMap_nil, List.append_nil]
    exact ⟨tells, from_networks⟩
  | cons vertex _ induction =>
    rw [List.flatMap_cons] at found among ⊢
    cases vertex with
    | router _ => exact induction tells from_networks found among within
    | network _ =>
      rw [findsOwn_append] at found
      have here := among _ List.mem_cons_self
      have added := addNetwork_tells tells from_networks found.1 here within agree
      have following :=
        induction added.1 added.2 found.2
          (fun route later => among _ (List.mem_cons_of_mem _ later))
          (fun route listed => by
            rcases List.mem_append.mp listed with before | last
            · exact within _ before
            · exact List.mem_singleton.mp last ▸ here)
      rwa [List.append_assoc] at following

theorem addStub_tells
    (tells : Tells known taken table) (from_networks : FromNetworks networks table)
    (found : FindsOwn known [stubRoute routerLSA start link])
    (apart : Distinguished networks taken [stubRoute routerLSA start link]) :
    ∃ next,
      addStub table routerLSA link (start + link.linkCost) = .ok next ∧
        Tells (note known (stubRoute routerLSA start link).destination)
          (taken ++ [stubRoute routerLSA start link]) next ∧ FromNetworks networks next := by
  let route := stubRoute routerLSA start link
  have search :
      findEntry (table.map destination)
          (stubEntry routerLSA link (start + link.linkCost)).destinationID =
        if route.destination ∈ known then some (known.idxOf route.destination)
        else
          none := by
    rw [tells.destinations]
    exact found.1
  dsimp only [addStub]
  rw [search]
  by_cases member : route.destination ∈ known
  · obtain ⟨old, there, sameDestination, oldMember⟩ := tells.entryAt member
    rw [if_pos member]
    dsimp only
    rw [there]
    dsimp only
    unfold mergeStub
    by_cases dearer : start + link.linkCost > old.cost
    · rw [if_pos dearer]
      refine ⟨_, rfl, ?_, ?_⟩
      · exact tells.put member there sameDestination (le_refl _) (BitVec.le_of_lt dearer) (.inl rfl)
      · exact fromNetworks_set from_networks fun lsa origin =>
          from_networks old oldMember lsa origin
    · rw [if_neg dearer]
      by_cases cheaper : start + link.linkCost < old.cost
      · rw [if_pos cheaper]
        refine ⟨_, rfl, ?_, ?_⟩
        · exact tells.put member there sameDestination
            (BitVec.le_of_lt cheaper) (le_refl _) (.inr rfl)
        · exact fromNetworks_set from_networks nofun
      · rw [if_neg cheaper]
        have sameCost : old.cost = route.cost :=
          BitVec.le_antisymm (not_lt.mp cheaper) (not_lt.mp dearer)
        have atLeast : old.cost ≤ route.cost := sameCost ▸ le_refl _
        cases origin : old.linkStateOrigin with
        | network lsa =>
          obtain ⟨network, networkMember, networkSame, networkCost⟩ :=
            from_networks old oldMember lsa origin
          obtain ⟨other, otherMember, otherSame, lower⟩ :=
            apart.1 network networkMember (networkSame.trans sameDestination)
              (networkCost.trans sameCost)
          have least :=
            tells.least old oldMember other otherMember (otherSame.trans sameDestination.symm)
          have strict : other.cost < old.cost := sameCost ▸ lower
          exact absurd least (BitVec.not_le.mpr strict)
        | router _ =>
          dsimp only
          split_ifs
          · refine ⟨_, rfl, ?_, ?_⟩
            · exact tells.put member there sameDestination (le_refl _) atLeast (.inl rfl)
            · exact fromNetworks_set from_networks nofun
          · refine ⟨_, rfl, ?_, ?_⟩
            · exact tells.put member there sameDestination (le_refl _) atLeast (.inl rfl)
            · exact fromNetworks_set from_networks fun lsa same =>
                from_networks old oldMember lsa same
  · rw [if_neg member]
    refine ⟨_, rfl, tells.push member rfl rfl, ?_⟩
    intro entry listed lsa same
    rcases List.mem_append.mp listed with before | last
    · exact from_networks entry before lsa same
    · rw [List.mem_singleton.mp last] at same
      cases same

theorem addLinks_tells {links : List Link} (tells : Tells known taken table)
    (from_networks : FromNetworks networks table)
    (found : FindsOwn known (links.map (stubRoute routerLSA start)))
    (apart : Distinguished networks taken (links.map (stubRoute routerLSA start))) :
    ∃ next,
      links.foldlM (fun table link => addStub table routerLSA link (start + link.linkCost)) table =
        .ok next ∧
        Tells (learn known (links.map (stubRoute routerLSA start)))
          (taken ++ links.map (stubRoute routerLSA start)) next ∧ FromNetworks networks next := by
  induction links generalizing known taken table with
  | nil =>
    rw [List.map_nil, List.append_nil]
    exact ⟨table, rfl, tells, from_networks⟩
  | cons _ _ induction =>
    obtain ⟨_, added, told, kept⟩ :=
      addStub_tells tells from_networks ⟨found.1, trivial⟩ ⟨apart.1, trivial⟩
    obtain ⟨next, done, last, still⟩ := induction told kept found.2 apart.2
    rw [List.append_assoc] at last
    refine ⟨next, ?_, last, still⟩
    rwa [List.foldlM_cons, added]

theorem addStubs_tells {vertices : List OSPFLSA} (tells : Tells known taken table)
    (from_networks : FromNetworks networks table)
    (found : FindsOwn known (vertices.flatMap (vertexStubs distance)))
    (apart : Distinguished networks taken (vertices.flatMap (vertexStubs distance))) :
    ∃ next,
      vertices.foldlM (addStubs distance) table = .ok next ∧
        Tells (learn known (vertices.flatMap (vertexStubs distance)))
          (taken ++ vertices.flatMap (vertexStubs distance)) next := by
  induction vertices generalizing known taken table with
  | nil =>
    rw [List.flatMap_nil, List.append_nil]
    exact ⟨table, rfl, tells⟩
  | cons vertex _ induction =>
    rw [List.flatMap_cons] at found apart ⊢
    rw [List.foldlM_cons]
    cases vertex with
    | network _ => exact induction tells from_networks found apart
    | router _ =>
      rw [findsOwn_append] at found
      rw [distinguished_append] at apart
      obtain ⟨_, added, told, kept⟩ := addLinks_tells tells from_networks found.1 apart.1
      obtain ⟨next, done, last⟩ := induction told kept found.2 apart.2
      rw [List.append_assoc, ← learn_append] at last
      refine ⟨next, ?_, last⟩
      rwa [addStubs, added]

end Loops

/-! ## The whole table -/

section Whole

variable {table : List RoutingTableEntry}

theorem mem_routes_iff
    (noOverflow :
      ∀ routerLSA, .router routerLSA ∈ spf.treeVertices →
        ∀ link ∈ routerLSA.links, link.type = .stubLink →
          (spf.distance (.router routerLSA)).toNat + link.linkCost.toNat < 2 ^ 64)
    {destination : Destination}
    {cost : Nat} :
    RoutesTo spf destination cost ↔
      ∃ route ∈ networkRoutes spf ++ stubRoutes spf,
        route.destination = destination ∧ route.cost.toNat = cost := by
  constructor
  · intro reached
    cases reached with
    | @network networkLSA onTree =>
      refine ⟨networkRoute _ _, List.mem_append_left _ ?_, rfl, rfl⟩
      exact List.mem_flatMap.mpr ⟨_, onTree, List.mem_singleton_self _⟩
    | @stub routerLSA link onTree among isStub =>
      refine ⟨stubRoute routerLSA (spf.distance (.router routerLSA)) _,
        List.mem_append_right _ ?_, rfl, ?_⟩
      · refine List.mem_flatMap.mpr ⟨_, onTree, List.mem_map_of_mem ?_⟩
        exact List.mem_filter.mpr ⟨among, by simpa using isStub⟩
      · have fits := noOverflow _ onTree _ among isStub
        change (_ + _ : BitVec 64).toNat = _
        rw [BitVec.toNat_add, Nat.mod_eq_of_lt fits]
  · rintro ⟨_, among, rfl, rfl⟩
    rcases List.mem_append.mp among with network | stub
    · obtain ⟨vertex, onTree, listed⟩ := List.mem_flatMap.mp network
      cases vertex with
      | router _ => cases listed
      | network _ =>
        rw [List.mem_singleton.mp listed]
        exact .network onTree
    · obtain ⟨vertex, onTree, listed⟩ := List.mem_flatMap.mp stub
      cases vertex with
      | network _ => cases listed
      | router routerLSA =>
        obtain ⟨link, kept, rfl⟩ := List.mem_map.mp listed
        rcases List.mem_filter.mp kept with ⟨onRouter, type⟩
        have isStub : link.type = .stubLink := by simpa using type
        have fits := noOverflow _ onTree link onRouter isStub
        have sum :
            (stubRoute routerLSA (spf.distance (.router routerLSA)) link).cost.toNat =
              (spf.distance (.router routerLSA)).toNat + link.linkCost.toNat := by
          change (_ + _ : BitVec 64).toNat = _
          rw [BitVec.toNat_add, Nat.mod_eq_of_lt fits]
        rw [sum]
        exact .stub onTree onRouter isStub

theorem filter_destination (once : (table.map destination).Nodup) (member : entry ∈ table) :
    (table.filter fun other => other.destination = entry.destination) = [entry] := by
  induction table with
  | nil => cases member
  | cons first rest induction =>
    rw [List.map_cons, List.nodup_cons] at once
    rcases List.mem_cons.mp member with rfl | later
    · have none : (rest.filter fun other => other.destination = entry.destination) = [] := by
        refine List.filter_eq_nil_iff.mpr fun other among same => once.1 ?_
        rw [← of_decide_eq_true same]
        exact List.mem_map_of_mem among
      rw [List.filter_cons_of_pos (by simp), none]
    · have other : first.destination ≠ entry.destination := fun same =>
        once.1 (same ▸ List.mem_map_of_mem later)
      rw [List.filter_cons_of_neg (by simpa using other)]
      exact induction once.2 later

theorem isIntraAreaTable_of_tells (tells : Tells known (networkRoutes spf ++ stubRoutes spf) table)
    (searchable : Searchable spf) : IsIntraAreaTable spf table where
  entries destination cost reached := by
    obtain ⟨route, among, rfl, _⟩ := (mem_routes_iff searchable.noOverflow).mp reached
    obtain ⟨entry, _, same, member⟩ := tells.entryAt ((tells.knows _).mpr ⟨route, among, rfl⟩)
    refine ⟨entry, ?_, ?_, fun other alsoReached => ?_⟩
    · rw [← same]
      exact filter_destination (tells.destinations ▸ tells.once) member
    · obtain ⟨own, ownAmong, ownSame, ownCost⟩ := tells.reached _ member
      exact (mem_routes_iff searchable.noOverflow).mpr
        ⟨own, ownAmong, ownSame.trans same, by rw [ownCost]⟩
    · obtain ⟨_, foundAmong, foundSame, rfl⟩ :=
        (mem_routes_iff searchable.noOverflow).mp alsoReached
      exact tells.least _ member _ foundAmong (foundSame.trans same.symm)
  noOthers entry member := by
    obtain ⟨own, ownAmong, ownSame, _⟩ := tells.reached _ member
    exact ⟨own.cost.toNat, (mem_routes_iff searchable.noOverflow).mpr ⟨own, ownAmong, ownSame, rfl⟩⟩

end Whole

/--
The calculation ends, with the shortest path tree, and the table of a tree
that is searched as it should be has one entry for each destination of its
routes, at the least cost, and no other.
-/
theorem intra_area_table {router : Router}
    (inDatabase :
      router.area.FindRouterLSA router.spfTreeRoot.linkStateID = some router.spfTreeRoot)
    (distance : OSPFLSA → BitVec 64)
    (parent : OSPFLSA → Option OSPFLSA)
    (transitCapability : Bool)
    {rounds : Nat}
    (enough : router.area.vertices.length ≤ rounds) :
    ∃ spf,
      ShortestPathTree.CalculateShortestPathTree router.area
          router.spfTreeRoot distance transitCapability rounds =
        some spf ∧
        (Searchable spf →
          ∃ calculation table,
            router.CalculateShortestPathTree distance parent transitCapability rounds =
              some (calculation, .ok table) ∧ IsIntraAreaTable spf table) := by
  have formed : WellFormed router.area (router.start distance parent transitCapability).spf := by
    refine ⟨List.nodup_singleton _, fun vertex among => ?_⟩
    rw [List.mem_singleton.mp among]
    exact Area.mem_of_FindRouterLSA inDatabase
  obtain ⟨spf, ended⟩ :=
    growTree_ends formed
      (by
        change _ < rounds + 1
        omega)
  refine ⟨spf, ended, fun searchable => ?_⟩
  rw [← growTree_spf, Option.map_eq_some_iff] at ended
  obtain ⟨calculation, grown, rfl⟩ := ended
  obtain ⟨added, tree, _, table⟩ := growTree_adds grown
  have networks :
      networkRoutes calculation.spf = added.flatMap (vertexRoutes calculation.spf.distance) := by
    rw [networkRoutes, tree]
    rfl
  have found := findsOwn_append.mp searchable.found
  rw [networks] at found
  obtain ⟨told, kept⟩ :=
    addVertices_tells tells_nil nofun found.1
      (fun route among => networks ▸ among) nofun searchable.networks
  obtain ⟨final, stubs, last⟩ :=
    addStubs_tells told kept found.2 (by
      rw [List.nil_append, ← networks]
      exact searchable.stubs)
  refine ⟨calculation, final, ?_, ?_⟩
  · rw [Router.CalculateShortestPathTree, grown, Option.map_some, table]
    exact congrArg (fun result => some (calculation, result)) stubs
  · rw [List.nil_append, ← networks] at last
    exact isIntraAreaTable_of_tells last searchable

/-! ### One router with stub links -/

def stubLink (linkID linkData : Nat) (linkCost : BitVec 64) : Link where
  linkID
  linkData
  type := .stubLink
  linkCost

def loneRouter (links : List Link) : Router where
  area :=
    { routerLSAs :=
        [{ linkStateID := 1, links }]
      networkLSAs := []
      routerIDs := List.nodup_singleton _
      networkIDs := List.nodup_nil }
  associatedInterfaces := []
  spfTreeRoot := { linkStateID := 1, links }

def loneTree (links : List Link) : Spf where
  treeVertices := [.router (loneRouter links).spfTreeRoot]
  candidateVertices := []
  distance := Function.update (fun _ => 0) (.router (loneRouter links).spfTreeRoot) 0
  transitCapability := false

/-- The networks 10.0.0.0/8 and 11.0.0.0/8. -/
def separateStubs : List Link :=
  [stubLink 0x0A000000 0xFF000000 1, stubLink 0x0B000000 0xFF000000 5]

theorem intra_area_table_separateStubs :
    ∃ calculation table,
      (loneRouter separateStubs).CalculateShortestPathTree (fun _ => 0) (fun _ => none) false 1 =
        some (calculation, .ok table) ∧ IsIntraAreaTable (loneTree separateStubs) table := by
  obtain ⟨spf, ended, correct⟩ :=
    @intra_area_table (loneRouter separateStubs) rfl (fun _ => 0) (fun _ => none) _ 1 (by decide)
  have same : spf = loneTree separateStubs := Option.some.inj (ended.symm.trans rfl)
  subst same
  refine correct ⟨?_, nofun, ?_, ?_⟩
  · exact ⟨by decide, by decide, trivial⟩
  · exact ⟨nofun, nofun, trivial⟩
  · intro routerLSA onTree link among _
    have root : routerLSA = (loneRouter separateStubs).spfTreeRoot := by
      rcases List.mem_singleton.mp onTree with ⟨⟩
      rfl
    subst root
    have fits :
        ∀ link ∈ separateStubs,
          ((loneTree separateStubs).distance
              (.router (loneRouter separateStubs).spfTreeRoot)).toNat +
            link.linkCost.toNat < 2 ^ 64 := by
      decide
    exact fits _ among

/-- The network 10.0.0.0/8, and 10.1.0.0/16 within it at a higher cost. -/
def nestedStubs : List Link :=
  [stubLink 0x0A000000 0xFF000000 1, stubLink 0x0A010000 0xFFFF0000 5]

/-- The search for the narrower network ends at the wider one. -/
theorem narrower_network_has_no_entry :
    ∃ calculation table,
      (loneRouter nestedStubs).CalculateShortestPathTree (fun _ => 0) (fun _ => none) false 1 =
        some (calculation, .ok table) ∧ calculation.spf = loneTree nestedStubs ∧
        RoutesTo (loneTree nestedStubs)
          { destinationID := 0x0A010000, addressMask := 0xFFFF0000 } 5 ∧
        table.map destination = [{ destinationID := 0x0A000000, addressMask := 0xFF000000 }] ∧
        ¬IsIntraAreaTable (loneTree nestedStubs) table := by
  have narrower :
      RoutesTo (loneTree nestedStubs)
        { destinationID := 0x0A010000
          addressMask := 0xFFFF0000 } 5 := by
    have onTree :
        OSPFLSA.router (loneRouter nestedStubs).spfTreeRoot ∈ (loneTree nestedStubs).treeVertices :=
      List.mem_singleton_self _
    have among : stubLink 0x0A010000 0xFFFF0000 5 ∈ (loneRouter nestedStubs).spfTreeRoot.links := by
      decide
    exact .stub onTree among rfl
  refine ⟨_, _, rfl, rfl, narrower, rfl, fun correct => ?_⟩
  obtain ⟨entry, found, _⟩ := correct.entries _ _ narrower
  rcases List.mem_filter.mp (found ▸ List.mem_singleton_self _) with ⟨member, own⟩
  have listed :
      entry.destination ∈
        ([{ destinationID := 0x0A000000
            addressMask := 0xFF000000 }] : List Destination) :=
    List.mem_map_of_mem member
  rw [of_decide_eq_true own] at listed
  exact absurd listed (by decide)

end OmnetDsi.Ospf.IntraAreaTable
