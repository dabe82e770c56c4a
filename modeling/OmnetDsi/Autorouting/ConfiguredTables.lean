import OmnetDsi.Autorouting.AddressPlan

/-!
# The routing tables of a configured fat tree

The configuration of a fat tree whose ids fit ends without an error.  Every
table then holds one route for each neighbour of the right role, in the order
of the node indices, and the interface of a route is the one whose link leads
to that neighbour.
-/

namespace OmnetDsi.Autorouting.ConfiguredTables

open Contract.Addresses Ipv4.RoutingTables Autorouting.FatTrees Autorouting.NetworkConfigurator
open Autorouting.ExtractedTopology Autorouting.NodeNumbers Autorouting.AddressPlan List RoutingTable

/-! ## The routes that `fillRoutingTables` plans -/

section Plan

variable (topo : Topology) (path : Nat → Nat → Option Nat)
    (nodeInfo : NodeInfoVector) (address : Nat → IPAddress)

/-- The route of node `j` towards node `i`, and the table it belongs to. -/
def plannedRoute (i j : Nat) : Option (Table × IPRoute) :=
  if !(nodeInfo i).isIPNode || i == j || !(nodeInfo j).isIPNode ||
      (nodeInfo j).usesDefaultRoute || !(topo.links j).contains i then none
  else
    match path i j, routeKind (nodeInfo j) (nodeInfo i) with
    | some link, some (table, netmask) => some (table, directRoute (address i) netmask (link + 1))
    | _, _ => none

/-- A table with one more route. -/
def appended (table : RoutingTable) (e : IPRoute) : RoutingTable :=
  { table with routes := table.routes ++ [e], routingCache := [], localAddresses := [] }

/-- A node with one more route, if one is planned. -/
def addPlanned (node : IPNode) : Option (Table × IPRoute) → IPNode
  | none => node
  | some (.rt, e) => { node with rt := appended node.rt e }
  | some (.rt1, e) => { node with rt1 := appended node.rt1 e }

theorem addRouteTo_plain (plain : PlainRoute e) (nodes : IPNodes) (j : Nat) (table : Table) :
    addRouteTo nodes j table e =
      .ok (Function.update nodes j (addPlanned (nodes j) (some (table, e)))) := by
  cases table with
  | rt =>
    simp only [addRouteTo, addRoute_plain plain]
    rfl
  | rt1 =>
    simp only [addRouteTo, addRoute_plain plain]
    rfl

variable {topo path nodeInfo address}

theorem fillRoute_eq (ipNode : (nodeInfo i).isIPNode = true)
    (inside : ∀ link, path i j = some link → link < (topo.links j).length)
    (plain : ∀ table e,
      plannedRoute topo path nodeInfo address i j = some (table, e) → PlainRoute e)
    (nodes : IPNodes) :
    fillRoute topo path nodeInfo address i nodes j =
      .ok (Function.update nodes j
        (addPlanned (nodes j) (plannedRoute topo path nodeInfo address i j))) := by
  have idle (none_planned : plannedRoute topo path nodeInfo address i j = none) :
      (.ok nodes : Except ConfigError IPNodes) =
        .ok (Function.update nodes j
          (addPlanned (nodes j) (plannedRoute topo path nodeInfo address i j))) := by
    rw [none_planned]
    simp [addPlanned]
  unfold fillRoute
  by_cases skipped : (i == j || !(nodeInfo j).isIPNode) = true
  · rw [if_pos skipped]
    apply idle
    unfold plannedRoute
    rw [Bool.or_eq_true] at skipped
    rcases skipped with same | other
    · simp [same]
    · simp [other]
  · rw [if_neg skipped]
    cases found : path i j with
    | none =>
      apply idle
      simp [plannedRoute, found]
    | some link =>
      dsimp only
      by_cases default : (nodeInfo j).usesDefaultRoute = true
      · rw [if_pos default]
        apply idle
        simp [plannedRoute, default]
      · rw [if_neg default]
        cases kind : routeKind (nodeInfo j) (nodeInfo i) with
        | none =>
          apply idle
          simp [plannedRoute, found, kind]
        | some choice =>
          dsimp only
          have present := inside _ found
          rw [if_neg (by omega)]
          by_cases direct : (topo.links j).contains i = true
          · have planned :
                plannedRoute topo path nodeInfo address i j =
                  some (choice.1, directRoute (address i) choice.2 (link + 1)) := by
              unfold plannedRoute
              simp_all
            rw [if_pos direct, planned]
            exact addRouteTo_plain (plain _ _ planned) _ j _
          · rw [if_neg direct]
            apply idle
            unfold plannedRoute
            rw [if_pos (by rw [Bool.not_eq_true] at direct
                           rw [direct, Bool.not_false, Bool.or_true])]

end Plan

/-! ## Folding over the nodes -/

theorem foldlM_ok {State Error Index : Type}
    {body : State → Index → Except Error State} {step : State → Index → State}
    {indices : List Index} (steps : ∀ state, ∀ i ∈ indices, body state i = .ok (step state i))
    (state : State) : indices.foldlM body state = .ok (indices.foldl step state) := by
  induction indices generalizing state with
  | nil => rfl
  | cons i _ induction =>
    rw [foldlM_cons, steps _ i mem_cons_self]
    exact induction (fun state other member => steps _ _ (mem_cons_of_mem i member)) _

theorem foldl_update {State : Type} (change : Nat → State → State) (m : Nat)
    (states : Nat → State) (j : Nat) :
    (range m).foldl (fun states j => Function.update states j (change j (states j))) states j =
      if j < m then change j (states j) else states j := by
  induction m with
  | zero => rfl
  | succ m induction =>
    rw [range_succ, foldl_append, foldl_cons, foldl_nil]
    by_cases here : j = m
    · subst here
      rw [Function.update_self, induction, if_neg (lt_irrefl j), if_pos (Nat.lt_succ_self j)]
    · rw [Function.update_of_ne here, induction]
      have extended : j < m ↔ j < m + 1 := by omega
      simp only [extended]

theorem foldl_pointwise {State : Type} (change : Nat → Nat → State → State)
    (indices : List Nat) (states : Nat → State) (j : Nat) :
    indices.foldl (fun states i j => change i j (states j)) states j =
      indices.foldl (fun state i => change i j state) (states j) := by
  induction indices generalizing states with
  | nil => rfl
  | cons _ _ induction =>
    exact induction _

/-- The routes of one table among the planned ones. -/
def selected (table : Table) : Option (Table × IPRoute) → Option IPRoute
  | some (other, e) => if other = table then some e else none
  | none => none

theorem selected_eq_some : selected table plan = some e ↔ plan = some (table, e) := by
  cases plan with
  | none => simp [selected]
  | some pair =>
    rcases pair with ⟨other, _⟩
    by_cases same : other = table
    all_goals simp [selected, same]

def routesOf (plan : Nat → Option (Table × IPRoute)) (m : Nat) (table : Table) : List IPRoute :=
  (range m).filterMap fun i => selected table (plan i)

theorem foldl_addPlanned (plan : Nat → Option (Table × IPRoute)) (m : Nat)
    (fresh : node.rt.routingCache = [] ∧ node.rt.localAddresses = [] ∧
      node.rt1.routingCache = [] ∧ node.rt1.localAddresses = []) :
    (range m).foldl (fun node i => addPlanned node (plan i)) node =
      { node with
        rt := { node.rt with routes := node.rt.routes ++ routesOf plan m .rt }
        rt1 := { node.rt1 with
          routes := node.rt1.routes ++ routesOf plan m .rt1 } } := by
  induction m with
  | zero => simp [routesOf]
  | succ m induction =>
    rw [range_succ, foldl_append, foldl_cons, foldl_nil, induction]
    have grown (table : Table) :
        routesOf plan (m + 1) table =
          routesOf plan m table ++ (selected table (plan m)).toList := by
      rw [routesOf, range_succ, filterMap_append]
      rfl
    rw [grown, grown]
    cases planned : plan m with
    | none => simp [addPlanned, selected]
    | some choice =>
      rcases choice with ⟨table, _⟩
      cases table with
      | rt => simp [addPlanned, appended, selected, fresh.1, fresh.2.1]
      | rt1 => simp [addPlanned, appended, selected, fresh.2.2.1, fresh.2.2.2]

theorem fillRoutingTables_eq {address : Nat → IPAddress}
    (inside : ∀ i j link, path i j = some link → link < (topo.links j).length)
    (plain : ∀ i < topo.numNodes, ∀ j < topo.numNodes, ∀ table e,
      plannedRoute topo path nodeInfo address i j = some (table, e) → PlainRoute e)
    (fresh : ∀ j < topo.numNodes,
      (nodes j).rt.routingCache = [] ∧ (nodes j).rt.localAddresses = [] ∧
        (nodes j).rt1.routingCache = [] ∧ (nodes j).rt1.localAddresses = []) :
    ∃ filled, fillRoutingTables topo path nodeInfo address nodes = .ok filled ∧
      ∀ j < topo.numNodes, filled j =
        { nodes j with
          rt := { (nodes j).rt with
            routes := (nodes j).rt.routes ++
              routesOf (plannedRoute topo path nodeInfo address · j) topo.numNodes .rt }
          rt1 := { (nodes j).rt1 with
            routes := (nodes j).rt1.routes ++
              routesOf (plannedRoute topo path nodeInfo address · j) topo.numNodes .rt1 } } := by
  have body (nodes : IPNodes) (i : Nat) (member : i ∈ range topo.numNodes) :
      (if !(nodeInfo i).isIPNode then .ok nodes
        else (range topo.numNodes).foldlM (fillRoute topo path nodeInfo address i) nodes :
        Except ConfigError IPNodes) =
      .ok fun j =>
        if j < topo.numNodes then addPlanned (nodes j) (plannedRoute topo path nodeInfo address i j)
        else nodes j := by
    by_cases ipNode : (nodeInfo i).isIPNode = true
    · rw [if_neg (by simp [ipNode]),
        foldlM_ok fun nodes j known =>
          fillRoute_eq ipNode (inside i j) (plain i (mem_range.mp member) j (mem_range.mp known)) _]
      congr 1
      funext j
      exact foldl_update (fun j node => addPlanned node _) topo.numNodes _ j
    · have skipped (j : Nat) : plannedRoute topo path nodeInfo address i j = none := by
        simp [plannedRoute, ipNode]
      rw [if_pos (by simp [ipNode])]
      simp [skipped, addPlanned]
  refine ⟨_, foldlM_ok body _, ?_⟩
  intro j known
  rw [← foldl_addPlanned _ _ (fresh j known),
    foldl_pointwise fun i j node => if j < topo.numNodes then addPlanned node _ else node]
  simp only [if_pos known]

/-! ## The default routes of the hosts -/

/-- A node whose unicast default route is the one of a host. -/
def withDefault (node : IPNode) : IPNode :=
  { node with rt := { node.rt with
      routes := node.rt.routes.eraseP isDefaultRoute ++ [defaultRoute]
      routingCache := []
      localAddresses := [] } }

theorem addDefaultRoutes_eq (topo : Topology) (nodeInfo : NodeInfoVector) (nodes : IPNodes) :
    ∃ reached, addDefaultRoutes topo nodeInfo nodes = .ok reached ∧
      ∀ j < topo.numNodes, reached j =
        if (nodeInfo j).isIPNode && (topo.links j).length == 1 then withDefault (nodes j)
        else nodes j := by
  have body (nodes : IPNodes) (i : Nat) :
      (if (nodeInfo i).isIPNode && (topo.links i).length == 1 then
          addRouteTo nodes i .rt defaultRoute
        else .ok nodes : Except ConfigError IPNodes) =
      .ok (Function.update nodes i
        (if (nodeInfo i).isIPNode && (topo.links i).length == 1 then withDefault (nodes i)
        else nodes i)) := by
    by_cases host : ((nodeInfo i).isIPNode && (topo.links i).length == 1) = true
    · rw [if_pos host, if_pos host]
      rfl
    · rw [if_neg host, if_neg host, Function.update_eq_self]
  refine ⟨_, foldlM_ok (fun state i _ => body _ i) _, ?_⟩
  intro j known
  rw [foldl_update fun j node =>
    if (nodeInfo j).isIPNode && (topo.links j).length == 1 then withDefault node else node]
  exact if_pos known

/-! ## The tables of a fat tree -/

/-- The roles of two nodes decide about the route between them. -/
def kind (own neighbour : Node h) : Option (Table × IPAddress) :=
  match own, neighbour with
  | .core _ _, .aggregate _ _ => some (.rt, .set 255 0 0 0)
  | .core _ _, .controller => some (.rt, .set 255 0 0 0)
  | .aggregate _ _, .edge _ _ => some (.rt, .set 255 0 255 0)
  | .aggregate _ _, .core _ _ => some (.rt1, .set 0 0 0 255)
  | .aggregate _ _, .controller => some (.rt, .set 255 0 0 0)
  | .edge _ _, .host _ _ _ => some (.rt, .set 255 0 255 255)
  | .edge _ _, .aggregate _ _ => some (.rt1, .set 0 0 0 255)
  | .edge _ _, .controller => some (.rt, .set 255 0 0 0)
  | .controller, .core _ _ => some (.rt, .set 255 255 255 255)
  | .controller, .aggregate _ _ => some (.rt, .set 255 255 255 255)
  | .controller, .edge _ _ => some (.rt, .set 255 255 255 255)
  | _, _ => none

theorem routeKind_extracted (tree : FatTree h) (own neighbour : Node h) :
    routeKind (extracted tree own) (extracted tree neighbour) = kind own neighbour := by
  cases own <;> cases neighbour <;> rfl

/-- The node at the other end of the link of a route's interface. -/
def remoteNode (topo : Topology) (j : Nat) (e : IPRoute) : Option Nat :=
  match e.interface with
  | some (k + 1) => (topo.links j)[k]?
  | _ => none

/-- The route of a switch towards a neighbour over link `link`. -/
def routeTo (tree : FatTree h) (neighbour : Node h) (netmask : IPAddress) (link : Nat) : IPRoute :=
  directRoute (address tree neighbour) netmask (link + 1)

/-- The routes that are planned for the nodes of a fat tree. -/
def treePlan (tree : FatTree h) (path : Nat → Nat → Option Nat)
    (unset : Indeterminate) : Nat → Nat → Option (Table × IPRoute) :=
  plannedRoute tree.topo path (extractTopology tree.topo unset)
    (nodeAddress unset (extractTopology tree.topo unset))

/-- The routes in a table of a switch or of the controller. -/
def tableRoutes (tree : FatTree h) (path : Nat → Nat → Option Nat)
    (unset : Indeterminate) (node : Node h) (table : Table) : List IPRoute :=
  routesOf (treePlan tree path unset · (tree.index node)) tree.topo.numNodes table

section Tree

variable {tree : FatTree h}

theorem treePlan_index (positive : 0 < h) :
    treePlan tree path unset (tree.index neighbour) (tree.index own) = some (table, e) ↔
      neighbour ∈ neighbours own ∧
        ∃ netmask link, kind own neighbour = some (table, netmask) ∧
          path (tree.index neighbour) (tree.index own) = some link ∧
            e = routeTo tree neighbour netmask link := by
  have info (node : Node h) :
      extractTopology tree.topo unset (tree.index node) = extracted tree node :=
    extractTopology_index _ _ positive _
  rw [treePlan, plannedRoute, info, info, nodeAddress_index _ _ positive, routeKind_extracted]
  constructor
  · intro planned
    split at planned
    · contradiction
    · rename_i condition
      have linked : neighbour ∈ neighbours own := by
        rw [← tree.index_mem_links]
        by_contra far
        apply condition
        simp [far]
      split at planned
      · rename_i link other netmask found role
        rcases planned with ⟨rfl, rfl⟩
        exact ⟨linked, netmask, link, role, found, rfl⟩
      · contradiction
  · rintro ⟨linked, _, _, role, found, rfl⟩
    have distinct : tree.index neighbour ≠ tree.index own := by
      intro same
      rw [tree.injective same] at linked
      exact not_mem_neighbours_self _ linked
    have switch : own.isHost = false := by
      cases own with
      | host _ _ _ => simp [kind] at role
      | core _ _ => rfl
      | aggregate _ _ => rfl
      | edge _ _ => rfl
      | controller => rfl
    have member := tree.index_mem_links.mpr linked
    rw [if_neg, found, role]
    · rfl
    · simp [extracted, distinct, switch, member]

theorem link_of_path (paths : ShortestPaths tree.topo path) (linked : neighbour ∈ neighbours own)
    (found : path (tree.index neighbour) (tree.index own) = some link) :
    (tree.topo.links (tree.index own))[link]? = some (tree.index neighbour) := by
  rcases paths.direct _ _ (tree.index_mem_links.mpr linked) with ⟨_, first, target⟩
  rw [found] at first
  rwa [Option.some.inj first]

/-- The routes of a table are the ones towards the right neighbours. -/
theorem mem_tableRoutes (positive : 0 < h) :
    e ∈ tableRoutes tree path unset own table ↔
      ∃ neighbour ∈ neighbours own,
        ∃ netmask link, kind own neighbour = some (table, netmask) ∧
          path (tree.index neighbour) (tree.index own) = some link ∧
            e = routeTo tree neighbour netmask link := by
  rw [tableRoutes, routesOf, mem_filterMap]
  constructor
  · rintro ⟨i, inside, chosen⟩
    rcases tree.surjective i (mem_range.mp inside) with ⟨neighbour, rfl⟩
    rcases (treePlan_index positive).mp (selected_eq_some.mp chosen) with ⟨linked, rest⟩
    exact ⟨neighbour, linked, rest⟩
  · rintro ⟨neighbour, linked, rest⟩
    refine ⟨tree.index _, mem_range.mpr (tree.index_lt neighbour), ?_⟩
    exact selected_eq_some.mpr ((treePlan_index positive).mpr ⟨linked, rest⟩)

/-- A route is sent out on the link to the neighbour it is made for. -/
theorem remoteNode_routeTo (paths : ShortestPaths tree.topo path)
    (linked : neighbour ∈ neighbours own)
    (found : path (tree.index neighbour) (tree.index own) = some link) (netmask : IPAddress) :
    remoteNode tree.topo (tree.index own) (routeTo tree neighbour netmask link) =
      some (tree.index neighbour) :=
  link_of_path paths linked found

theorem map_filterMap {f : α → Option β}
    {elements : List α} (back : ∀ a ∈ elements, ∀ b, f a = some b → g b = some a) :
    (elements.filterMap f).map g = (elements.filter fun a => (f a).isSome).map some := by
  induction elements with
  | nil => rfl
  | cons a _ induction =>
    have later := induction fun other member => back _ (mem_cons_of_mem a member)
    cases found : f a with
    | none => simpa [found] using later
    | some b =>
      have here := back a mem_cons_self b found
      simpa [found, here] using later

/-- The neighbours of a node to which a table has a route. -/
def neighboursIn (own : Node h) (table : Table) : List (Node h) :=
  (neighbours own).filter fun neighbour =>
    match kind own neighbour with
    | some (other, _) => other == table
    | none => false

theorem remoteNodes_perm (positive : 0 < h)
    (paths : ShortestPaths tree.topo path) (own : Node h) (table : Table) :
    ((tableRoutes tree path unset own table).map (remoteNode tree.topo (tree.index own))).Perm
      ((neighboursIn own table).map fun neighbour => some (tree.index neighbour)) := by
  rw [tableRoutes, routesOf, map_filterMap]
  · rw [perm_ext_iff_of_nodup]
    · intro _
      simp only [mem_map, mem_filter, mem_range]
      constructor
      · rintro ⟨i, ⟨inside, present⟩, rfl⟩
        rcases tree.surjective i inside with ⟨neighbour, rfl⟩
        rcases Option.isSome_iff_exists.mp present with ⟨_, chosen⟩
        rcases (treePlan_index positive).mp
          (selected_eq_some.mp chosen) with
            ⟨linked, netmask, link, role, _⟩
        refine ⟨neighbour, ?_, rfl⟩
        simp [neighboursIn, linked, role]
      · rintro ⟨neighbour, member, rfl⟩
        refine ⟨tree.index _, ⟨tree.index_lt _, ?_⟩, rfl⟩
        simp only [neighboursIn, mem_filter] at member
        rcases member with ⟨linked, chosen⟩
        split at chosen
        · rename_i other netmask role
          rw [beq_iff_eq] at chosen
          subst chosen
          rcases paths.direct _ _ (tree.index_mem_links.mpr linked) with ⟨link, found, _⟩
          have planned :
              treePlan tree path unset (tree.index neighbour) (tree.index own) =
                some (other, routeTo tree neighbour netmask link) :=
            (treePlan_index positive).mpr ⟨linked, netmask, link, role, found, rfl⟩
          rw [selected_eq_some.mpr planned]
          rfl
        · contradiction
    · refine (nodup_range.filter _).map ?_
      exact Option.some_injective _
    · refine Nodup.map ?_ ((neighbours_nodup _).filter _)
      intro _ _ same
      exact tree.injective (Option.some.inj same)
  · intro i inside _ chosen
    rcases tree.surjective i (mem_range.mp inside) with ⟨_, rfl⟩
    rcases (treePlan_index positive).mp (selected_eq_some.mp chosen) with
      ⟨linked, netmask, link, _, found, rfl⟩
    exact remoteNode_routeTo paths linked found netmask

/-! ## The configured network -/

theorem kind_netmask (role : kind own neighbour = some (table, netmask)) :
    netmask.isUnspecified = false := by
  unfold kind at role
  split at role
  all_goals first
    | contradiction
    | simp only [Option.some.injEq, Prod.mk.injEq] at role
      rw [← role.2]
      decide

theorem plainRoute_routeTo (small : h ≤ 7)
    (role : kind own neighbour = some (table, netmask)) (link : Nat) :
    PlainRoute (routeTo tree neighbour netmask link) := by
  constructor
  · exact isUnspecified_address _ small _
  · exact kind_netmask role
  · exact isMulticast_address _ small _
  · rfl

/-- The routes in `rt` of a node. -/
def rtRoutes (tree : FatTree h) (path : Nat → Nat → Option Nat)
    (unset : Indeterminate) (node : Node h) : List IPRoute :=
  if node.isHost then [defaultRoute, netmaskRoute 0 loopback]
  else tableRoutes tree path unset node .rt

/-- The routes in `rt1` of a node. -/
def rt1Routes (tree : FatTree h) (path : Nat → Nat → Option Nat)
    (unset : Indeterminate) (node : Node h) : List IPRoute :=
  if node.isHost then [netmaskRoute 0 loopback] else tableRoutes tree path unset node .rt1

/--
The state of the nodes of a configured fat tree, and of any later moment, as
look-ups only fill the caches.
-/
structure Configured (tree : FatTree h) (path : Nat → Nat → Option Nat)
    (unset : Indeterminate) (nodes : IPNodes) : Prop where
  routerId : ∀ node, (nodes (tree.index node)).rt.routerId = address tree node
  rt : ∀ node, (nodes (tree.index node)).rt.routes = rtRoutes tree path unset node
  rt1 : ∀ node, (nodes (tree.index node)).rt1.routes = rt1Routes tree path unset node
  multicast : ∀ node,
    (nodes (tree.index node)).rt.multicastRoutes = [] ∧
      (nodes (tree.index node)).rt1.multicastRoutes = []
  cache : ∀ node, (nodes (tree.index node)).rt.CacheAgrees
  localAddresses : ∀ node,
    (nodes (tree.index node)).rt.localAddresses = [] ∨
      (nodes (tree.index node)).rt.localAddresses = [address tree node]
  interfaces : ∀ node, (nodes (tree.index node)).interfaces.length = (neighbours node).length + 1
  /-- `getInterfaceByAddress` finds an interface for the router id. -/
  owned : ∀ node, ∃ ie ∈ (nodes (tree.index node)).interfaces, ie.ipAddress = address tree node

theorem tableRoutes_source (member : e ∈ tableRoutes tree path unset own table) :
    e.source ≠ .IFACENETMASK := by
  unfold tableRoutes routesOf at member
  rcases mem_filterMap.mp member with ⟨i, _, chosen⟩
  have planned : treePlan tree path unset i (tree.index own) = some (table, e) :=
    selected_eq_some.mp chosen
  unfold treePlan plannedRoute at planned
  split at planned
  · contradiction
  · split at planned
    · simp only [Option.some.injEq, Prod.mk.injEq] at planned
      rw [← planned.2]
      exact RouteSource.noConfusion
    · contradiction

/-- The interface table of a node before initialization stage 3. -/
def stage2Interfaces (tree : FatTree h) (node : Node h) : List InterfaceEntry :=
  loopback ::
    (range (tree.topo.links (tree.index node)).length).map
      (linkInterface (extracted tree node) (address tree node))

theorem address_ne_loopback (small : h ≤ 7) (node : Node h) :
    address tree node ≠ LOOPBACK_ADDRESS := by
  intro same
  have fits := parts_fit tree small node
  have parts :=
    (set_inj fits ⟨by decide, by decide, by decide, by decide⟩).mp
      (show address tree node = .set (127 : Nat) (0 : Nat) (0 : Nat) (1 : Nat) from same)
  omega

/-- A switch gives its address to `lo0`, and so has no netmask routes. -/
theorem configureLoopback_switch (small : h ≤ 7)
    (switch : node.isHost = false) {table : RoutingTable}
    (routerId : table.routerId = address tree node) :
    (configureLoopback table (stage2Interfaces tree node)).length = (neighbours node).length + 1 ∧
      (∃ ie ∈ configureLoopback table (stage2Interfaces tree node),
        ie.ipAddress = address tree node) ∧
      netmaskRoutes (configureLoopback table (stage2Interfaces tree node)) = [] := by
  have fits := parts_fit tree small node
  have pod : 1 ≤ podIndex node := by
    cases node <;> simp [podIndex]
  have specified : (address tree node).isUnspecified = false :=
    isUnspecified_set fits.1 fits.2.1 fits.2.2.1 fits.2.2.2 (Or.inl (by omega))
  have zero : hostNumber tree node = 0 := by
    cases node with
    | host _ _ _ => contradiction
    | core _ _ => rfl
    | aggregate _ _ => rfl
    | edge _ _ => rfl
    | controller => rfl
  have nobody :
      ((stage2Interfaces tree node).any fun ie => ie.ipAddress == address tree node) = false := by
    rw [any_eq_false]
    intro _ member
    rw [beq_iff_eq]
    rcases mem_cons.mp member with rfl | link
    · exact fun same => address_ne_loopback small _ same.symm
    · rcases mem_map.mp link with ⟨_, inside, rfl⟩
      have number := interfaceNumber_lt _ small _ (mem_range.mp inside)
      rw [linkInterface_ipAddress]
      intro same
      have parts := (set_inj ⟨fits.1, fits.2.1, fits.2.2.1, number⟩ fits).mp same
      simp [interfaceNumber, switch, zero] at parts
  have renamed :
      configureLoopback table (stage2Interfaces tree node) =
        (stage2Interfaces tree node).map fun ie =>
          if ie.isLoopback then
            { ie with ipAddress := address tree node, netmask := ALLONES_ADDRESS }
          else ie := by
    rw [configureLoopback, routerId, specified, nobody]
    rfl
  rw [renamed]
  refine ⟨?_, ?_, ?_⟩
  · simp [stage2Interfaces, tree.links_length]
  · refine ⟨{ loopback with ipAddress := address _ _, netmask := ALLONES_ADDRESS }, ?_, rfl⟩
    rw [mem_map]
    exact ⟨loopback, mem_cons_self, rfl⟩
  · rw [netmaskRoutes, filterMap_eq_nil_iff]
    rintro ⟨_, _⟩ member
    have inside := fst_mem_of_mem_zipIdx member
    rcases mem_map.mp inside with ⟨_, known, rfl⟩
    rcases mem_cons.mp known with rfl | link
    · rfl
    · rcases mem_map.mp link with ⟨_, _, rfl⟩
      rfl

/-- A host has an interface of its address, and keeps the loopback route. -/
theorem configureLoopback_host {table : RoutingTable}
    (routerId : table.routerId = address tree (.host pod position slot)) :
    configureLoopback table (stage2Interfaces tree (.host pod position slot)) =
      [loopback,
        linkInterface (extracted tree (.host pod position slot))
          (address tree (.host pod position slot)) 0] := by
  have entries :
      stage2Interfaces tree (.host pod position slot) =
        [loopback,
          linkInterface (extracted tree (.host pod position slot))
            (address tree (.host pod position slot)) 0] := by
    rw [stage2Interfaces, tree.links_length]
    rfl
  have own :
      (linkInterface (extracted tree (.host pod position slot))
        (address tree (.host pod position slot)) 0).ipAddress =
          address tree (.host pod position slot) := rfl
  rw [entries, configureLoopback, routerId]
  simp [own]

theorem tableRoutes_host (positive : 0 < h) (pod : Fin (2 * h))
    (position slot : Fin h) (table : Table) :
    tableRoutes tree path unset (.host pod position slot) table = [] := by
  rw [eq_nil_iff_forall_not_mem]
  intro _ member
  rcases (mem_tableRoutes positive).mp member with ⟨_, _, _, _, role, _⟩
  simp [kind] at role

/-- The tables of a node before initialization stage 3. -/
def stage2Node (tree : FatTree h) (path : Nat → Nat → Option Nat)
    (unset : Indeterminate) (node : Node h) : IPNode where
  interfaces := stage2Interfaces tree node
  rt :=
    { routerId := address tree node
      routes :=
        (if node.isHost then [defaultRoute] else []) ++ tableRoutes tree path unset node .rt }
  rt1 := { routes := tableRoutes tree path unset node .rt1 }

theorem initializeTables_stage2Node (small : h ≤ 7) (positive : 0 < h) (node : Node h) :
    ∃ entries : List InterfaceEntry,
      initializeTables (stage2Node tree path unset node) =
          { interfaces := entries
            rt := { routerId := address tree node, routes := rtRoutes tree path unset node }
            rt1 := { routes := rt1Routes tree path unset node } } ∧
        entries.length = (neighbours node).length + 1 ∧
          ∃ ie ∈ entries, ie.ipAddress = address tree node := by
  cases switch : node.isHost with
  | false =>
    have known : (stage2Node tree path unset node).rt.routerId = address tree node := rfl
    rcases configureLoopback_switch small switch known with ⟨length, owned, none⟩
    refine ⟨_, ?_, length, owned⟩
    unfold initializeTables updateNetmaskRoutes
    simp only [stage2Node] at none ⊢
    rw [none]
    simp [invalidateCache, switch, rtRoutes, rt1Routes]
    exact ⟨fun e member => tableRoutes_source member, fun e member => tableRoutes_source member⟩
  | true =>
    cases node with
    | core | aggregate | edge | controller => cases switch
    | host pod position slot =>
      refine ⟨[loopback,
        linkInterface (extracted tree (.host pod position slot))
          (address tree (.host pod position slot)) 0], ?_, rfl, ?_⟩
      · rw [initializeTables,
          show (stage2Node tree path unset (.host pod position slot)).interfaces =
            stage2Interfaces tree (.host pod position slot) from rfl,
          configureLoopback_host rfl]
        simp only [stage2Node, tableRoutes_host positive]
        rfl
      · exact ⟨_, mem_cons_of_mem _ mem_cons_self, rfl⟩

theorem configure_configured (small : h ≤ 7) (positive : 0 < h)
    (paths : ShortestPaths tree.topo path) (unset : Indeterminate) :
    ∃ nodes, configure tree.topo path unset = .ok nodes ∧ Configured tree path unset nodes := by
  have info (node : Node h) :
      extractTopology tree.topo unset (tree.index node) = extracted tree node :=
    extractTopology_index _ _ positive _
  have given (node : Node h) :
      nodeAddress unset (extractTopology tree.topo unset) (tree.index node) = address tree node :=
    nodeAddress_index _ _ positive _
  have plain : ∀ i < tree.topo.numNodes, ∀ j < tree.topo.numNodes,
      ∀ table e,
        plannedRoute tree.topo path (extractTopology tree.topo unset)
            (nodeAddress unset (extractTopology tree.topo unset)) i j =
          some (table, e) →
        PlainRoute e := by
    intro i insideI j insideJ _ _ planned
    rcases tree.surjective i insideI with ⟨_, rfl⟩
    rcases tree.surjective j insideJ with ⟨_, rfl⟩
    rcases (treePlan_index positive).mp planned with ⟨_, _, link, role, _, rfl⟩
    exact plainRoute_routeTo small role _
  rcases addDefaultRoutes_eq tree.topo _ (addressedNodes tree.topo _ (extractTopology tree.topo _))
    with ⟨reached, defaults, state⟩
  have fresh : ∀ j < tree.topo.numNodes,
      (reached j).rt.routingCache = [] ∧
        (reached j).rt.localAddresses = [] ∧
          (reached j).rt1.routingCache = [] ∧ (reached j).rt1.localAddresses = [] := by
    intro j inside
    rw [state j inside]
    split
    all_goals exact ⟨rfl, rfl, rfl, rfl⟩
  rcases fillRoutingTables_eq
    (fun i j link found => paths.link i j link found) plain fresh with
      ⟨filled, success, tables⟩
  have done : configure tree.topo path unset = .ok fun i => initializeTables (filled i) := by
    dsimp only [configure]
    rw [defaults]
    show (fillRoutingTables tree.topo path _ _ reached >>= _) = _
    rw [success]
    rfl
  have before (node : Node h) : filled (tree.index node) = stage2Node tree path unset node := by
    have host := links_length_host tree node
    have ipNode : (extractTopology tree.topo unset (tree.index node)).isIPNode = true := by
      rw [info]
      rfl
    have entries :
        interfaces tree.topo unset (extractTopology tree.topo unset)
            (tree.index node) = stage2Interfaces tree node := by
      rw [interfaces, stage2Interfaces, info, given]
    rw [tables _ (tree.index_lt node), state _ (tree.index_lt node), ipNode, host]
    cases role : node.isHost with
    | true =>
      simp [withDefault, addressedNodes, entries, given, tableRoutes, treePlan, stage2Node, role]
    | false => simp [addressedNodes, entries, given, tableRoutes, treePlan, stage2Node, role]
  have after := @initializeTables_stage2Node h tree path unset small positive
  refine ⟨_, done, ?_⟩
  constructor
  · intro node
    rcases after node with ⟨entries, equal, _⟩
    simp only [before, equal]
  · intro node
    rcases after node with ⟨entries, equal, _⟩
    simp only [before, equal]
  · intro node
    rcases after node with ⟨entries, equal, _⟩
    simp only [before, equal]
  · intro node
    rcases after node with ⟨entries, equal, _⟩
    simp only [before, equal]
    exact ⟨trivial, trivial⟩
  · intro node
    rcases after node with ⟨entries, equal, _⟩
    exact cacheAgrees_of_empty rfl
  · intro node
    rcases after node with ⟨_, equal, _⟩
    simp only [before, equal]
    exact Or.inl trivial
  · intro node
    rcases after node with ⟨_, equal, length, _⟩
    simp only [before, equal, length]
  · intro node
    rcases after node with ⟨_, equal, _, owned⟩
    simp only [before, equal]
    exact owned

end Tree

end OmnetDsi.Autorouting.ConfiguredTables
