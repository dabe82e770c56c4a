import OmnetDsi.Autorouting.FatTrees
import OmnetDsi.Ipv4.RoutingTables

/-!
# The network configurator

`extractTopology`, `assignAddresses`, `addDefaultRoutes` and
`fillRoutingTables` of `NetworkConfigurator`, and what initialization stage 3
of the routing tables adds to them.

A `NodeInfoVector` is a function of the node index, and a loop over the nodes
is a fold over their indices in the order of the source.  The two fields and
the local variable that the source may read before it sets them are a
parameter, `Indeterminate`.
-/

namespace OmnetDsi.Autorouting.NetworkConfigurator

open Contract.Addresses Ipv4.RoutingTables Autorouting.FatTrees List

/-- What fields and variables hold that have not been set. -/
structure Indeterminate where
  podId : Nat → Int
  switchId : Nat → Int
  numOfPod : Int
  layerId : BitVec 32

structure NodeInfo where
  isIPNode : Bool := false
  isCore : Bool := false
  isAggre : Bool := false
  isEdge : Bool := false
  isRouter : Bool := false
  isHost : Bool := false
  isController : Bool := false
  podId : Int
  switchId : Int
  hostId : Int := 0
  usesDefaultRoute : Bool
deriving DecidableEq

abbrev NodeInfoVector := Nat → NodeInfo

/-- Changes the entry of one node. -/
def modifyInfo (nodeInfo : NodeInfoVector) (i : Nat)
    (change : NodeInfo → NodeInfo) : NodeInfoVector :=
  Function.update nodeInfo i (change (nodeInfo i))

/-! ## `extractTopology` -/

/-- The first loop: what the number of interfaces says about a node. -/
def countInterfaces (topo : Topology) (unset : Indeterminate) : NodeInfoVector :=
  fun i =>
    let numIntf := (topo.links i).length
    { isIPNode := topo.hasRoutingTable i
      usesDefaultRoute := numIntf == 1
      isHost := numIntf == 1
      isRouter := numIntf != 1
      isController := i + 1 == topo.numNodes
      podId := unset.podId i
      switchId := unset.switchId i }

/-- One interface is the loopback, another one leads to the controller. -/
def numOfPod (topo : Topology) (unset : Indeterminate) (nodeInfo : NodeInfoVector) : Int :=
  if (nodeInfo 0).isRouter then (topo.getNumInterfaces 0 : Int) - 2 else unset.numOfPod

/-- What node `i` learns about its role from its neighbour `k`. -/
def learnRole (i : Nat) (nodeInfo : NodeInfoVector) (k : Nat) : NodeInfoVector :=
  let nodeInfo :=
    if (nodeInfo k).isHost then modifyInfo nodeInfo i fun info => { info with isEdge := true }
    else nodeInfo
  let nodeInfo :=
    if (nodeInfo k).isEdge && !(nodeInfo i).isHost then
      modifyInfo nodeInfo i fun info => { info with isAggre := true }
    else nodeInfo
  if (nodeInfo k).isAggre && !(nodeInfo i).isEdge then
    modifyInfo nodeInfo i fun info => { info with isCore := true }
  else nodeInfo

def determineRole (topo : Topology) (nodeInfo : NodeInfoVector) (i : Nat) : NodeInfoVector :=
  if (nodeInfo i).isRouter then (topo.links i).foldl (learnRole i) nodeInfo else nodeInfo

/-- The loop runs from the last node but one down to the first. -/
def determineRoles (topo : Topology) (nodeInfo : NodeInfoVector) : NodeInfoVector :=
  (range (topo.numNodes - 1)).reverse.foldl (determineRole topo) nodeInfo

/-- Numbers one pod, `numOfPod / 2` nodes from `i` on. -/
def assignPod (numOfPod : Int) (state : Nat × NodeInfoVector) (j : Nat) : Nat × NodeInfoVector :=
  (range (numOfPod / 2).toNat).foldl
    (fun state _ =>
      (state.1 + 1, modifyInfo state.2 state.1 fun info => { info with podId := (j : Int) + 1 }))
    state

/-- The two nested loops over pods and members, which advance `i`. -/
def assignPods (numOfPod : Int) (i : Nat) (nodeInfo : NodeInfoVector) : Nat × NodeInfoVector :=
  (range numOfPod.toNat).foldl (assignPod numOfPod) (i, nodeInfo)

/-- The pod of the controller and of a core switch. -/
def ownPodId (numOfPod : Int) (info : NodeInfo) : NodeInfo :=
  let info :=
    if info.isController then { info with podId := numOfPod + 2, hostId := 0, switchId := 0 }
    else info
  if info.isCore then { info with podId := numOfPod + 1 } else info

/-- One iteration of the loop over the nodes, which may advance its index. -/
def determinePodId (numOfPod : Int) (i : Nat) (nodeInfo : NodeInfoVector) : Nat × NodeInfoVector :=
  let nodeInfo := modifyInfo nodeInfo i (ownPodId numOfPod)
  let state := if (nodeInfo i).isAggre then assignPods numOfPod i nodeInfo else (i, nodeInfo)
  if (state.2 state.1).isEdge then assignPods numOfPod state.1 state.2 else state

theorem assignPod_fst (numOfPod : Int) (state : Nat × NodeInfoVector) (j : Nat) :
    (assignPod numOfPod state j).1 = state.1 + (numOfPod / 2).toNat := by
  unfold assignPod
  generalize (numOfPod / 2).toNat = members
  induction members with
  | zero => rfl
  | succ _ induction =>
    rw [range_succ, foldl_append, foldl_cons, foldl_nil, induction]
    exact Nat.add_assoc _ _ _

theorem assignPods_fst (numOfPod : Int) (i : Nat) (nodeInfo : NodeInfoVector) :
    (assignPods numOfPod i nodeInfo).1 = i + numOfPod.toNat * (numOfPod / 2).toNat := by
  unfold assignPods
  generalize numOfPod.toNat = pods
  induction pods with
  | zero => simp
  | succ _ induction =>
    rw [range_succ, foldl_append, foldl_cons, foldl_nil, assignPod_fst, induction]
    ring

theorem determinePodId_fst_le (numOfPod : Int) (i : Nat) (nodeInfo : NodeInfoVector) :
    i ≤ (determinePodId numOfPod i nodeInfo).1 := by
  dsimp only [determinePodId]
  generalize modifyInfo nodeInfo i (ownPodId numOfPod) = nodeInfo
  by_cases aggregate : (nodeInfo i).isAggre = true
  · rw [if_pos aggregate]
    split
    · rw [assignPods_fst, assignPods_fst]
      omega
    · rw [assignPods_fst]
      exact Nat.le_add_right _ _
  · rw [if_neg aggregate]
    split
    · rw [assignPods_fst]
      exact Nat.le_add_right _ _
    · exact le_rfl

def determinePodIds (topo : Topology) (numOfPod : Int) (i : Nat)
    (nodeInfo : NodeInfoVector) : NodeInfoVector :=
  if i < topo.numNodes then
    let state := determinePodId numOfPod i nodeInfo
    determinePodIds topo numOfPod (state.1 + 1) state.2
  else nodeInfo
termination_by topo.numNodes - i
decreasing_by
  have forward := determinePodId_fst_le numOfPod i nodeInfo
  omega

/-- Edge switch `i` numbers its neighbour `k` if that is a host. -/
def numberHost (i : Nat) (state : Int × NodeInfoVector) (k : Nat) : Int × NodeInfoVector :=
  if (state.2 k).isHost then
    (state.1 + 1,
      modifyInfo state.2 k fun info =>
        { info with
          podId := (state.2 i).podId
          switchId := (state.2 i).switchId
          hostId := state.1 })
  else state

/-- The switch id of a router that is not the controller. -/
def ownSwitchId (i : Nat) (info : NodeInfo) : NodeInfo :=
  if info.isRouter && !info.isController then { info with switchId := (i : Int) + 1, hostId := 0 }
  else info

def numberNode (topo : Topology) (nodeInfo : NodeInfoVector) (i : Nat) : NodeInfoVector :=
  let nodeInfo := modifyInfo nodeInfo i (ownSwitchId i)
  if (nodeInfo i).isEdge then ((topo.links i).foldl (numberHost i) (1, nodeInfo)).2 else nodeInfo

def numberNodes (topo : Topology) (nodeInfo : NodeInfoVector) : NodeInfoVector :=
  (range topo.numNodes).foldl (numberNode topo) nodeInfo

def extractTopology (topo : Topology) (unset : Indeterminate) : NodeInfoVector :=
  let nodeInfo := countInterfaces topo unset
  let pods := numOfPod topo unset nodeInfo
  let nodeInfo := determineRoles topo nodeInfo
  let nodeInfo := determinePodIds topo pods 0 nodeInfo
  numberNodes topo nodeInfo

/-! ## `assignAddresses` -/

/-- The assignment to `layerId`; no branch sets it for a node of no role. -/
def assignLayerId (info : NodeInfo) (layerId : BitVec 32) : BitVec 32 :=
  if !info.isIPNode then layerId
  else if info.isCore then 3#32 <<< 16
  else if info.isAggre then 2#32 <<< 16
  else if info.isEdge then 1#32 <<< 16
  else if info.isHost then 0#32 <<< 16
  else if info.isController then 0#32 <<< 16
  else layerId

/-- The variable `layerId` before the iteration for node `i`. -/
def layerIdBefore (unset : Indeterminate) (nodeInfo : NodeInfoVector) : Nat → BitVec 32
  | 0 => unset.layerId
  | i + 1 => assignLayerId (nodeInfo i) (layerIdBefore unset nodeInfo i)

/-- The field `address`, which stays unspecified for a node that is no IP node. -/
def nodeAddress (unset : Indeterminate) (nodeInfo : NodeInfoVector) (i : Nat) : IPAddress :=
  let info := nodeInfo i
  let podId := BitVec.ofInt 32 (info.podId * 10) <<< 24
  let layerId := assignLayerId info (layerIdBefore unset nodeInfo i)
  let switchId := BitVec.ofInt 32 info.switchId <<< 8
  let hostId := BitVec.ofInt 32 info.hostId
  if info.isIPNode then ⟨podId ||| layerId ||| switchId ||| hostId⟩ else UNSPECIFIED_ADDRESS

/-- The address and netmask of the interface of link `k`. -/
def linkInterface (info : NodeInfo) (addr : IPAddress) (k : Nat) : InterfaceEntry where
  isLoopback := false
  ipAddress :=
    if info.isRouter then ⟨addr.addr ||| BitVec.ofNat 32 (k + 1)⟩
    else if info.isHost then addr
    else UNSPECIFIED_ADDRESS
  netmask := ALLONES_ADDRESS

def loopback : InterfaceEntry where
  isLoopback := true
  ipAddress := LOOPBACK_ADDRESS
  netmask := LOOPBACK_NETMASK

/-- The interface table of node `i`: `lo0`, and one interface for each link. -/
def interfaces (topo : Topology) (unset : Indeterminate)
    (nodeInfo : NodeInfoVector) (i : Nat) : List InterfaceEntry :=
  loopback ::
    (range (topo.links i).length).map (linkInterface (nodeInfo i) (nodeAddress unset nodeInfo i))

/-! ## The routing tables -/

/-- The interface table and the two routing tables of a node. -/
structure IPNode where
  interfaces : List InterfaceEntry
  rt : RoutingTable
  rt1 : RoutingTable

/-- The errors that end the configuration. -/
inductive ConfigError where
  | route (error : RouteError)
  | noInterfaceForGate (node : Nat)

/-- The routing tables `rt` and `rt1`. -/
inductive Table where
  | rt
  | rt1
deriving DecidableEq

abbrev IPNodes := Nat → IPNode

def addRouteTo (nodes : IPNodes) (j : Nat) (table : Table) (e : IPRoute) :
    Except ConfigError IPNodes :=
  let node := nodes j
  match table with
  | .rt =>
    match node.rt.addRoute e with
    | .error error => .error (.route error)
    | .ok rt => .ok (Function.update nodes j { node with rt })
  | .rt1 =>
    match node.rt1.addRoute e with
    | .error error => .error (.route error)
    | .ok rt1 => .ok (Function.update nodes j { node with rt1 })

/-- The tables after `assignAddresses` has set the router ids. -/
def addressedNodes (topo : Topology) (unset : Indeterminate)
    (nodeInfo : NodeInfoVector) : IPNodes :=
  fun i =>
    { interfaces := interfaces topo unset nodeInfo i
      rt := { routerId := nodeAddress unset nodeInfo i }
      rt1 := {} }

/-- The default route of a host; its only interface follows `lo0`. -/
def defaultRoute : IPRoute where
  interface := some 1
  type := .REMOTE

def addDefaultRoutes (topo : Topology) (nodeInfo : NodeInfoVector)
    (nodes : IPNodes) : Except ConfigError IPNodes :=
  (range topo.numNodes).foldlM
    (fun nodes i =>
      if (nodeInfo i).isIPNode && (topo.links i).length == 1 then
        addRouteTo nodes i .rt defaultRoute
      else .ok nodes)
    nodes

/--
The table and the netmask of the route from a node `own` to a neighbour, by
the roles of the two, in the order of the source.
-/
def routeKind (own neighbour : NodeInfo) : Option (Table × IPAddress) :=
  if own.isCore && neighbour.isAggre then some (.rt, .set 255 0 0 0)
  else if own.isAggre && neighbour.isEdge then some (.rt, .set 255 0 255 0)
  else if own.isAggre && neighbour.isCore then some (.rt1, .set 0 0 0 255)
  else if own.isEdge && neighbour.isHost then some (.rt, .set 255 0 255 255)
  else if own.isEdge && neighbour.isAggre then some (.rt1, .set 0 0 0 255)
  else if own.isEdge && neighbour.isController then some (.rt, .set 255 0 0 0)
  else if own.isController && neighbour.isEdge then some (.rt, .set 255 255 255 255)
  else if own.isAggre && neighbour.isController then some (.rt, .set 255 0 0 0)
  else if own.isController && neighbour.isAggre then some (.rt, .set 255 255 255 255)
  else if own.isCore && neighbour.isController then some (.rt, .set 255 0 0 0)
  else if own.isController && neighbour.isCore then some (.rt, .set 255 255 255 255)
  else none

/-- The route that a node gets towards the neighbour at `destAddr`. -/
def directRoute (destAddr netmask : IPAddress) (ie : Nat) : IPRoute where
  host := destAddr
  netmask
  interface := some ie

/-- The body of the inner loop: the routes of node `j` towards node `i`. -/
def fillRoute (topo : Topology) (path : Nat → Nat → Option Nat)
    (nodeInfo : NodeInfoVector) (address : Nat → IPAddress) (i : Nat)
    (nodes : IPNodes) (j : Nat) : Except ConfigError IPNodes :=
  if i == j || !(nodeInfo j).isIPNode then .ok nodes
  else
    match path i j with
    | none => .ok nodes
    | some link =>
      if (nodeInfo j).usesDefaultRoute then .ok nodes
      else
        let direct := (topo.links j).contains i
        match routeKind (nodeInfo j) (nodeInfo i) with
        | none => .ok nodes
        | some (table, netmask) =>
          if (topo.links j).length ≤ link then .error (.noInterfaceForGate j)
          else if direct then addRouteTo nodes j table (directRoute (address i) netmask (link + 1))
          else .ok nodes

def fillRoutingTables (topo : Topology) (path : Nat → Nat → Option Nat)
    (nodeInfo : NodeInfoVector) (address : Nat → IPAddress) (nodes : IPNodes) :
    Except ConfigError IPNodes :=
  (range topo.numNodes).foldlM
    (fun nodes i =>
      if !(nodeInfo i).isIPNode then .ok nodes
      else (range topo.numNodes).foldlM (fillRoute topo path nodeInfo address i) nodes)
    nodes

/-! ## Initialization stage 3 of the routing tables -/

/--
`configureRouterId` of a table whose router id is set: `lo0` takes it over
unless an interface has it.
-/
def configureLoopback (table : RoutingTable) (entries : List InterfaceEntry) :
    List InterfaceEntry :=
  if table.routerId.isUnspecified then entries
  else if entries.any fun ie => ie.ipAddress == table.routerId then entries
  else
    entries.map fun ie =>
      if ie.isLoopback then { ie with ipAddress := table.routerId, netmask := ALLONES_ADDRESS }
      else ie

/-- The tables `rt` and `rt1` of a node, in this order. -/
def initializeTables (node : IPNode) : IPNode :=
  let entries := configureLoopback node.rt node.interfaces
  { interfaces := entries
    rt := node.rt.updateNetmaskRoutes entries
    rt1 := node.rt1.updateNetmaskRoutes entries }

/-- The whole configuration of the network. -/
def configure (topo : Topology) (path : Nat → Nat → Option Nat)
    (unset : Indeterminate) : Except ConfigError IPNodes := do
  let nodeInfo := extractTopology topo unset
  let nodes := addressedNodes topo unset nodeInfo
  let nodes ← addDefaultRoutes topo nodeInfo nodes
  let nodes ← fillRoutingTables topo path nodeInfo (nodeAddress unset nodeInfo) nodes
  return fun i => initializeTables (nodes i)

end OmnetDsi.Autorouting.NetworkConfigurator
