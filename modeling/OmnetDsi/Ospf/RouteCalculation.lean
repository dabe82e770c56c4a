import OmnetDsi.Ospf.ReliableFlooding

/-!
# Next hops and routes of the shortest path tree

While the tree grows, every vertex gets next hops from the vertices over which
it is reached at its distance, and every network that joins the tree gets an
entry of the routing table.  When the tree is complete, the stub links of its
routers are added.  The tree itself is that of `ShortestPathTree`, which reads
neither (`growTree_spf`).

The entries of border routers, which are no network entries, and the virtual
links are not modelled, nor are the next hops of the entries.
-/

namespace OmnetDsi.Ospf.RouteCalculation

open List
open ShortestPathTree
open Ospf.ShortestPathTree
  (Area OSPFLSA RouterLSA NetworkLSA Link Spf HasLink joiningVertex closestVertex MAX_AGE)

/-! ## Next hops -/

structure NextHop where
  ifIndex : Nat
  hopAddress : Nat

/-- An interface of the area, with its index and its address range. -/
structure Interface extends ReliableFlooding.Interface where
  ifIndex : Nat
  address : Nat
  mask : Nat

namespace Interface

def GetNeighbor (intf : Interface) (index : Nat) : ReliableFlooding.Neighbor :=
  intf.neighboringRouters index

/-- The neighbour at the other end, if there is one. -/
def ptpNeighbor (intf : Interface) : Option ReliableFlooding.Neighbor :=
  if intf.neighborCount > 0 then some (intf.GetNeighbor 0) else none

def neighborByID (intf : Interface) (neighborID : Nat) : Option ReliableFlooding.Neighbor :=
  (intf.GetNeighborByID neighborID).map intf.GetNeighbor

/-- The interface is up as a link between two routers. -/
def isLink (intf : Interface) : Bool :=
  intf.interfaceType = .pointToPoint ||
    intf.interfaceType = .virtual && (intf.state ≠ .downState && intf.state ≠ .loopbackState)

/-- The interface is on the network with this designated router. -/
def onNetwork (intf : Interface) (networkDesignatedRouter : Nat) : Bool :=
  (intf.interfaceType = .broadcast || intf.interfaceType = .nbma) &&
    intf.designatedRouter.ipInterfaceAddress = networkDesignatedRouter

/-- The hop to a neighbour out of the interface. -/
def hopTo (intf : Interface) (neighbor : ReliableFlooding.Neighbor) : NextHop where
  ifIndex := intf.ifIndex
  hopAddress := neighbor.neighborIPAddress

/-- The hop to the network that the interface is on. -/
def hopToNetwork (intf : Interface) : NextHop where
  ifIndex := intf.ifIndex
  hopAddress := intf.address &&& intf.mask

end Interface

/-- The hops from the root to a router; the first interface ends the loop. -/
def routerHops (rootID : Nat) (destination : RouterLSA) : List Interface → List NextHop
  | [] => []
  | intf :: rest =>
    if intf.isLink ∧ intf.ptpNeighbor.map (·.neighborID) = some destination.linkStateID then
      intf.ptpNeighbor.toList.map intf.hopTo
    else if intf.interfaceType = .pointToMultiPoint ∧
        (intf.neighborByID destination.linkStateID).isSome then
      (destination.links.filter fun link => link.linkID = rootID).map
        fun link => { ifIndex := intf.ifIndex, hopAddress := link.linkData }
    else routerHops rootID destination rest

/-- The hops from the root to a network. -/
def networkHops (interfaces : List Interface) (destination : NetworkLSA) : List NextHop :=
  (interfaces.filter (·.onNetwork destination.linkStateID)).map Interface.hopToNetwork

/-- The link of a router that leads to the network. -/
def leadsTo (networkLSA : NetworkLSA) (link : Link) : Bool :=
  link.type = .transitLink && link.linkID = networkLSA.linkStateID ||
    link.type = .stubLink &&
      link.linkID &&& link.linkData = networkLSA.linkStateID &&& networkLSA.networkMask

/-- The hops over a network of the root to a router on the network. -/
def attachedHops (interfaces : List Interface) (networkLSA : NetworkLSA)
    (destination : RouterLSA) : List NextHop :=
  (destination.links.filter (leadsTo networkLSA)).flatMap fun _ =>
    (interfaces.filter (·.onNetwork networkLSA.linkStateID)).filterMap
      fun intf => (intf.neighborByID destination.linkStateID).map intf.hopTo

/-! ## The calculation -/

structure RoutingTableEntry where
  destinationID : Nat
  addressMask : Nat
  linkStateOrigin : OSPFLSA
  cost : BitVec 64

/-- The variables of the calculation, and what is kept in the LSAs. -/
structure Calculation where
  spf : Spf
  nextHops : OSPFLSA → List NextHop
  parent : OSPFLSA → Option OSPFLSA
  newRoutingTable : List RoutingTableEntry

/-- An area with the interfaces and the LSA of the calculating router. -/
structure Router where
  area : Area
  associatedInterfaces : List Interface
  spfTreeRoot : RouterLSA

namespace Router

def CalculateNextHops (router : Router) (calculation : Calculation)
    (destination parent : OSPFLSA) : List NextHop :=
  match parent with
  | .router routerLSA =>
    if routerLSA ≠ router.spfTreeRoot then calculation.nextHops parent
    else
      match destination with
      | .router lsa => routerHops router.spfTreeRoot.linkStateID lsa router.associatedInterfaces
      | .network lsa => networkHops router.associatedInterfaces lsa
  | .network networkLSA =>
    if calculation.parent parent ≠ some (.router router.spfTreeRoot) then
      calculation.nextHops parent
    else
      match destination with
      | .router lsa => attachedHops router.associatedInterfaces networkLSA lsa
      | .network _ => []

/-- The next hops of a vertex that is reached at a cost. -/
def joinedHops (router : Router) (calculation : Calculation)
    (joining justAddedVertex : OSPFLSA) (linkStateCost : BitVec 64) : List NextHop :=
  let newNextHops := router.CalculateNextHops calculation joining justAddedVertex
  if joining ∈ calculation.spf.treeVertices then calculation.nextHops joining
  else if joining ∈ calculation.spf.candidateVertices then
    if linkStateCost > calculation.spf.distance joining then calculation.nextHops joining
    else if linkStateCost < calculation.spf.distance joining then newNextHops
    else calculation.nextHops joining ++ newNextHops
  else calculation.nextHops joining ++ newNextHops

/-- Steps (c) and (d); the parent is set when the vertex is first found. -/
def joinVertex (router : Router) (calculation : Calculation)
    (joining justAddedVertex : OSPFLSA) (linkStateCost : BitVec 64) : Calculation where
  spf := calculation.spf.joinVertex joining linkStateCost
  nextHops :=
    Function.update calculation.nextHops joining
      (router.joinedHops calculation joining justAddedVertex linkStateCost)
  parent :=
    if joining ∈ calculation.spf.treeVertices ∨ joining ∈ calculation.spf.candidateVertices then
      calculation.parent
    else Function.update calculation.parent joining (some justAddedVertex)
  newRoutingTable := calculation.newRoutingTable

/-- One link of the router vertex that was added last. -/
def processLink (router : Router) (routerVertex : RouterLSA)
    (calculation : Calculation) (link : Link) : Calculation :=
  if link.type = .stubLink then calculation
  else
    match joiningVertex router.area link with
    | none => calculation
    | some joining =>
      if joining.lsAge = MAX_AGE ∨ HasLink joining (.router routerVertex) = false then calculation
      else
        router.joinVertex calculation joining (.router routerVertex)
          (calculation.spf.distance (.router routerVertex) + link.linkCost)

/-- One attached router of the network vertex that was added last. -/
def processAttachedRouter (router : Router) (networkVertex : NetworkLSA)
    (calculation : Calculation) (attachedRouter : Nat) : Calculation :=
  match router.area.FindRouterLSA attachedRouter with
  | none => calculation
  | some joining =>
    if joining.lsAge = MAX_AGE ∨ HasLink (.router joining) (.network networkVertex) = false then
      calculation
    else
      router.joinVertex calculation (.router joining) (.network networkVertex)
        (calculation.spf.distance (.network networkVertex))

/-- Step (2) for the vertex that was added last. -/
def processVertex (router : Router) (calculation : Calculation) : OSPFLSA → Calculation
  | .router routerVertex =>
    routerVertex.links.foldl (router.processLink routerVertex)
      (if routerVertex.vVirtualLinkEndpoint then
        { calculation with spf := { calculation.spf with transitCapability := true } }
      else calculation)
  | .network networkVertex =>
    networkVertex.attachedRouters.foldl (router.processAttachedRouter networkVertex) calculation

end Router

/-! ## The routing table -/

/-- A network, as the entries of the table name it. -/
structure Destination where
  destinationID : Nat
  addressMask : Nat
deriving DecidableEq

def RoutingTableEntry.destination (entry : RoutingTableEntry) : Destination where
  destinationID := entry.destinationID
  addressMask := entry.addressMask

/--
The search of the table for a destination: the entry with the greatest masked
address that is not 0, and that address.
-/
def longestMatch (destinationID : Nat) :
    List Destination → Nat → Option Nat × Nat → Option Nat × Nat
  | [], _, best => best
  | entry :: rest, index, best =>
    if entry.destinationID &&& entry.addressMask = destinationID &&& entry.addressMask ∧
        destinationID &&& entry.addressMask > best.2 then
      longestMatch destinationID rest (index + 1) (some index, destinationID &&& entry.addressMask)
    else longestMatch destinationID rest (index + 1) best

def findEntry (newRoutingTable : List Destination) (destinationID : Nat) : Option Nat :=
  (longestMatch destinationID newRoutingTable 0 (none, 0)).1

def networkEntry (networkLSA : NetworkLSA) (distance : BitVec 64) : RoutingTableEntry where
  destinationID := networkLSA.linkStateID &&& networkLSA.networkMask
  addressMask := networkLSA.networkMask
  linkStateOrigin := .network networkLSA
  cost := distance

def stubEntry (routerVertex : RouterLSA) (link : Link) (distance : BitVec 64) :
    RoutingTableEntry where
  destinationID := link.linkID &&& link.linkData
  addressMask := link.linkData
  linkStateOrigin := .router routerVertex
  cost := distance

def originID : OSPFLSA → Nat
  | .router lsa => lsa.linkStateID
  | .network lsa => lsa.linkStateID

/-- A network joins the tree. -/
def addNetwork (newRoutingTable : List RoutingTableEntry)
    (networkLSA : NetworkLSA) (distance : BitVec 64) : List RoutingTableEntry :=
  let added := networkEntry networkLSA distance
  match findEntry (newRoutingTable.map RoutingTableEntry.destination) added.destinationID with
  | none => newRoutingTable ++ [added]
  | some index =>
    newRoutingTable.modify index fun entry =>
      if entry.cost ≠ distance ∨ originID entry.linkStateOrigin ≥ networkLSA.linkStateID then added
      else entry

/-- The error of a cast to an LSA of another type. -/
inductive Failure where
  | checkAndCast

/-- The entry that a stub link finds. -/
def mergeStub (entry : RoutingTableEntry) (routerVertex : RouterLSA)
    (distance : BitVec 64) : Except Failure RoutingTableEntry :=
  if distance > entry.cost then .ok entry
  else if distance < entry.cost then
    .ok { entry with cost := distance, linkStateOrigin := .router routerVertex }
  else
    match entry.linkStateOrigin with
    | .network _ => .error .checkAndCast
    | .router routerOrigin =>
      if routerOrigin.linkStateID < routerVertex.linkStateID then
        .ok { entry with linkStateOrigin := .router routerVertex }
      else .ok entry

/-- A stub link of a router of the tree. -/
def addStub (newRoutingTable : List RoutingTableEntry)
    (routerVertex : RouterLSA) (link : Link) (distance : BitVec 64) :
    Except Failure (List RoutingTableEntry) :=
  let added := stubEntry routerVertex link distance
  match findEntry (newRoutingTable.map RoutingTableEntry.destination) added.destinationID with
  | none => .ok (newRoutingTable ++ [added])
  | some index =>
    match newRoutingTable[index]? with
    | none => .ok newRoutingTable
    | some entry =>
      (mergeStub entry routerVertex distance).map fun merged => newRoutingTable.set index merged

/-- The stub links of a vertex of the tree. -/
def addStubs (distance : OSPFLSA → BitVec 64) (newRoutingTable : List RoutingTableEntry) :
    OSPFLSA → Except Failure (List RoutingTableEntry)
  | .network _ => .ok newRoutingTable
  | .router routerVertex =>
    (routerVertex.links.filter fun link => link.type = .stubLink).foldlM
      (fun table link =>
        addStub table routerVertex link (distance (.router routerVertex) + link.linkCost))
      newRoutingTable

/-- The entry of a vertex that joins the tree. -/
def addVertex (distance : OSPFLSA → BitVec 64)
    (newRoutingTable : List RoutingTableEntry) : OSPFLSA → List RoutingTableEntry
  | .router _ => newRoutingTable
  | .network networkLSA => addNetwork newRoutingTable networkLSA (distance (.network networkLSA))

namespace Router

/-- The loop; without a result when the rounds are used up. -/
def growTree (router : Router) : Nat → Calculation → OSPFLSA → Option Calculation
  | 0, _, _ => none
  | rounds + 1, calculation, justAddedVertex =>
    let processed := router.processVertex calculation justAddedVertex
    match processed.spf.candidateVertices with
    | [] => some processed
    | first :: rest =>
      let closest := closestVertex processed.spf.distance first rest
      router.growTree rounds
        { processed with
          spf :=
            { processed.spf with
              treeVertices := processed.spf.treeVertices ++ [closest]
              candidateVertices := (first :: rest).erase closest }
          newRoutingTable := addVertex processed.spf.distance processed.newRoutingTable closest }
        closest

/-- The state before the loop; `distance` and `parent` are left over. -/
def start (router : Router) (distance : OSPFLSA → BitVec 64)
    (parent : OSPFLSA → Option OSPFLSA) (transitCapability : Bool) : Calculation where
  spf :=
    { treeVertices := [.router router.spfTreeRoot]
      candidateVertices := []
      distance := Function.update distance (.router router.spfTreeRoot) 0
      transitCapability }
  nextHops := fun _ => []
  parent
  newRoutingTable := []

/-- The tree with its next hops, and the network entries. -/
def CalculateShortestPathTree (router : Router)
    (distance : OSPFLSA → BitVec 64) (parent : OSPFLSA → Option OSPFLSA)
    (transitCapability : Bool) (rounds : Nat) :
    Option (Calculation × Except Failure (List RoutingTableEntry)) :=
  (router.growTree rounds (router.start distance parent transitCapability)
      (.router router.spfTreeRoot)).map fun calculation =>
    (calculation,
      calculation.spf.treeVertices.foldlM
        (addStubs calculation.spf.distance) calculation.newRoutingTable)

end Router

/-! ## The tree -/

section Tree

variable {router : Router}

theorem processLink_spf (routerVertex : RouterLSA) (link : Link) :
    (router.processLink routerVertex calculation link).spf =
      processLink router.area routerVertex calculation.spf link := by
  unfold Router.processLink processLink
  split_ifs
  · rfl
  · cases joiningVertex router.area link with
    | none => rfl
    | some _ =>
      dsimp only
      split_ifs <;> rfl

theorem processAttachedRouter_spf (networkVertex : NetworkLSA) (attachedRouter : Nat) :
    (router.processAttachedRouter networkVertex calculation attachedRouter).spf =
      processAttachedRouter router.area networkVertex calculation.spf attachedRouter := by
  unfold Router.processAttachedRouter processAttachedRouter
  cases router.area.FindRouterLSA attachedRouter with
  | none => rfl
  | some _ =>
    dsimp only
    split_ifs <;> rfl

variable {Item : Type*}

/-- A loop over items computes the same tree with and without the rest. -/
theorem foldl_spf
    (each : ∀ calculation item, (process calculation item).spf = processSpf calculation.spf item)
    (items : List Item) (calculation : Calculation) :
    (items.foldl process calculation).spf = items.foldl processSpf calculation.spf := by
  induction items generalizing calculation with
  | nil => rfl
  | cons _ _ induction => rw [foldl_cons, foldl_cons, induction, each]

theorem processVertex_spf (vertex : OSPFLSA) :
    (router.processVertex calculation vertex).spf =
      processVertex router.area calculation.spf vertex := by
  cases vertex with
  | router _ =>
    rw [Router.processVertex, processVertex, foldl_spf fun calculation link => processLink_spf _ _]
    split_ifs <;> rfl
  | network _ =>
    exact foldl_spf (fun calculation attachedRouter => processAttachedRouter_spf _ _) _ _

theorem growTree_spf (rounds : Nat) (calculation : Calculation) (justAddedVertex : OSPFLSA) :
    (router.growTree rounds calculation justAddedVertex).map Calculation.spf =
      growTree router.area rounds calculation.spf justAddedVertex := by
  induction rounds generalizing calculation justAddedVertex with
  | zero => rfl
  | succ _ induction =>
    rw [Router.growTree, growTree, ← processVertex_spf]
    cases (router.processVertex calculation justAddedVertex).spf.candidateVertices with
    | nil => rfl
    | cons _ _ => exact induction _ _

/-! ### The loop ends -/

/-- The vertices found are in the database, each once. -/
structure WellFormed (area : Area) (spf : Spf) : Prop where
  once : (spf.treeVertices ++ spf.candidateVertices).Nodup
  known : ∀ vertex ∈ spf.treeVertices ++ spf.candidateVertices, vertex ∈ area.vertices

/-- The tree stays as it is, and its distances do too. -/
structure KeepsTree (area : Area) (before after : Spf) : Prop where
  sameTree : after.treeVertices = before.treeVertices
  sameDistance : ∀ vertex ∈ before.treeVertices, after.distance vertex = before.distance vertex
  wellFormed : WellFormed area before → WellFormed area after

theorem KeepsTree.refl (area : Area) (spf : Spf) : KeepsTree area spf spf where
  sameTree := rfl
  sameDistance _ _ := rfl
  wellFormed := id

theorem KeepsTree.trans {after : Spf} (first : KeepsTree area before middle)
    (second : KeepsTree area middle after) : KeepsTree area before after where
  sameTree := second.sameTree.trans first.sameTree
  sameDistance vertex onTree :=
    (second.sameDistance vertex (first.sameTree ▸ onTree)).trans (first.sameDistance vertex onTree)
  wellFormed := second.wellFormed ∘ first.wellFormed

theorem joinVertex_keepsTree (known : joining ∈ area.vertices) :
    KeepsTree area spf (spf.joinVertex joining linkStateCost) := by
  unfold Spf.joinVertex
  split_ifs with onTree candidate
  · exact .refl _ _
  · exact .refl _ _
  · refine ⟨rfl, fun vertex among => ?_, fun formed => ⟨formed.1, formed.2⟩⟩
    have other : vertex ≠ joining := fun same => onTree (same ▸ among)
    exact Function.update_of_ne other ..
  · exact .refl _ _
  · refine ⟨rfl, fun vertex among => ?_, fun formed => ⟨?_, ?_⟩⟩
    · have other : vertex ≠ joining := fun same => onTree (same ▸ among)
      exact Function.update_of_ne other ..
    · rw [← append_assoc]
      refine nodup_append.mpr ⟨formed.once, nodup_singleton _, ?_⟩
      rintro _ among _ single rfl
      rw [mem_singleton.mp single, mem_append] at among
      exact among.elim onTree candidate
    · rw [← append_assoc]
      intro _ among
      rcases mem_append.mp among with before | single
      · exact formed.known _ before
      · rwa [mem_singleton.mp single]

theorem processLink_keepsTree (area : Area) (routerVertex : RouterLSA) (spf : Spf) (link : Link) :
    KeepsTree area spf (processLink area routerVertex spf link) := by
  unfold processLink
  split_ifs
  · exact .refl _ _
  · cases target : joiningVertex area link with
    | none => exact .refl _ _
    | some _ =>
      dsimp only
      split_ifs
      · exact .refl _ _
      · exact joinVertex_keepsTree (mem_vertices_of_joiningVertex target)

theorem processAttachedRouter_keepsTree (area : Area)
    (networkVertex : NetworkLSA) (spf : Spf) (attachedRouter : Nat) :
    KeepsTree area spf (processAttachedRouter area networkVertex spf attachedRouter) := by
  unfold processAttachedRouter
  cases target : area.FindRouterLSA attachedRouter with
  | none => exact .refl _ _
  | some _ =>
    dsimp only
    split_ifs
    · exact .refl _ _
    · exact joinVertex_keepsTree (Area.mem_of_FindRouterLSA target)

theorem foldl_keepsTree (each : ∀ spf item, KeepsTree area spf (process spf item))
    (items : List Item) (spf : Spf) : KeepsTree area spf (items.foldl process spf) := by
  induction items generalizing spf with
  | nil => exact .refl _ _
  | cons _ _ induction => exact (each _ _).trans (induction (process _ _))

theorem processVertex_keepsTree (area : Area) (spf : Spf) (vertex : OSPFLSA) :
    KeepsTree area spf (processVertex area spf vertex) := by
  cases vertex with
  | router _ =>
    refine KeepsTree.trans ?_ (foldl_keepsTree (processLink_keepsTree _ _) _ _)
    split_ifs
    · exact ⟨rfl, fun _ _ => rfl, fun formed => ⟨formed.1, formed.2⟩⟩
    · exact .refl _ _
  | network _ =>
    exact foldl_keepsTree (processAttachedRouter_keepsTree _ _) _ _

theorem closestVertex_mem (distance : OSPFLSA → BitVec 64) (first : OSPFLSA)
    (rest : List OSPFLSA) : closestVertex distance first rest ∈ first :: rest := by
  have started : Best distance (first :: rest) (first, LS_INFINITY) :=
    ⟨mem_cons_self, BitVec.le_refl _, fun impossible => absurd impossible (BitVec.lt_irrefl _)⟩
  exact (foldl_closer started fun _ => id).1.among

theorem WellFormed.select (formed : WellFormed area spf)
    (candidate : closest ∈ spf.candidateVertices) :
    WellFormed area
      { spf with
        treeVertices := spf.treeVertices ++ [closest]
        candidateVertices := spf.candidateVertices.erase closest } := by
  have moved :
      ((spf.treeVertices ++ [closest]) ++ spf.candidateVertices.erase closest).Perm
        (spf.treeVertices ++ spf.candidateVertices) := by
    rw [append_assoc]
    exact (perm_cons_erase candidate).symm.append_left _
  exact ⟨moved.nodup_iff.mpr formed.once, fun vertex among =>
    formed.known _ (moved.mem_iff.mp among)⟩

theorem growTree_ends (formed : WellFormed area spf)
    (enough : area.vertices.length < rounds + spf.treeVertices.length) :
    ∃ result, growTree area rounds spf justAddedVertex = some result := by
  induction rounds generalizing spf justAddedVertex with
  | zero =>
    have once := (nodup_append.mp formed.once).1
    have fits :=
      (subperm_of_subset once fun vertex among =>
        formed.known _ (mem_append_left _ among)).length_le
    omega
  | succ _ induction =>
    have keeps := processVertex_keepsTree area spf justAddedVertex
    have after := keeps.wellFormed formed
    rw [growTree]
    generalize processVertex area spf justAddedVertex = processed at *
    cases candidates : processed.candidateVertices with
    | nil => exact ⟨processed, rfl⟩
    | cons first rest =>
      have closest := closestVertex_mem processed.distance first rest
      refine induction ?_ ?_
      · rw [← candidates]
        exact after.select (candidates ▸ closest)
      · rw [length_append, length_singleton, keeps.sameTree]
        omega

/-! ### The table while the tree grows -/

theorem foldl_newRoutingTable
    (each :
      ∀ calculation item, (process calculation item).newRoutingTable = calculation.newRoutingTable)
    (items : List Item)
    (calculation : Calculation) :
    (items.foldl process calculation).newRoutingTable = calculation.newRoutingTable := by
  induction items generalizing calculation with
  | nil => rfl
  | cons _ _ induction => exact (induction _).trans (each _ _)

theorem processLink_newRoutingTable (routerVertex : RouterLSA) (link : Link) :
    (router.processLink routerVertex calculation link).newRoutingTable =
      calculation.newRoutingTable := by
  unfold Router.processLink
  split_ifs
  · rfl
  · cases joiningVertex router.area link with
    | none => rfl
    | some _ =>
      dsimp only
      split_ifs <;> rfl

theorem processAttachedRouter_newRoutingTable (networkVertex : NetworkLSA) (attachedRouter : Nat) :
    (router.processAttachedRouter networkVertex calculation attachedRouter).newRoutingTable =
      calculation.newRoutingTable := by
  unfold Router.processAttachedRouter
  cases router.area.FindRouterLSA attachedRouter with
  | none => rfl
  | some _ =>
    dsimp only
    split_ifs <;> rfl

theorem processVertex_newRoutingTable (vertex : OSPFLSA) :
    (router.processVertex calculation vertex).newRoutingTable = calculation.newRoutingTable := by
  cases vertex with
  | router _ =>
    refine (foldl_newRoutingTable
      (fun calculation link => processLink_newRoutingTable _ _) _ _).trans ?_
    split_ifs <;> rfl
  | network _ =>
    exact foldl_newRoutingTable
      (fun calculation attachedRouter => processAttachedRouter_newRoutingTable _ _) _ _

/-- The entries are those of the vertices added, at their last distances. -/
theorem growTree_adds (grown : router.growTree rounds calculation justAddedVertex = some result) :
    ∃ added,
      result.spf.treeVertices = calculation.spf.treeVertices ++ added ∧
        (∀ vertex ∈ calculation.spf.treeVertices,
          result.spf.distance vertex = calculation.spf.distance vertex) ∧
        result.newRoutingTable =
          added.foldl (addVertex result.spf.distance) calculation.newRoutingTable := by
  induction rounds generalizing calculation justAddedVertex with
  | zero => cases grown
  | succ _ induction =>
    have keeps := processVertex_keepsTree router.area calculation.spf justAddedVertex
    rw [← processVertex_spf] at keeps
    have sameTable := @processVertex_newRoutingTable router calculation justAddedVertex
    rw [Router.growTree] at grown
    generalize router.processVertex calculation justAddedVertex = processed at *
    cases candidates : processed.spf.candidateVertices with
    | nil =>
      rw [candidates] at grown
      cases grown
      refine ⟨[], ?_, keeps.sameDistance, sameTable⟩
      rw [keeps.sameTree, append_nil]
    | cons first rest =>
      rw [candidates] at grown
      dsimp only at grown
      generalize closestVertex processed.spf.distance first rest = closest at grown
      obtain ⟨added, tree, distance, table⟩ := induction grown
      refine ⟨closest :: added, ?_, ?_, ?_⟩
      · rw [tree, keeps.sameTree, append_assoc]
        rfl
      · intro vertex onTree
        have stays : vertex ∈ processed.spf.treeVertices := keeps.sameTree ▸ onTree
        rw [distance _ (mem_append_left _ stays), keeps.sameDistance _ onTree]
      · have last : closest ∈ processed.spf.treeVertices ++ [closest] := by simp
        rw [table, sameTable, foldl_cons]
        cases closest with
        | router _ => rfl
        | network _ => rw [addVertex, addVertex, distance _ last]

end Tree

end OmnetDsi.Ospf.RouteCalculation
