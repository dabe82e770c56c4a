import OmnetDsi.Ospf.ReliableFlooding

/-!
# The links of a router LSA

`OriginateRouterLSA` goes through the interfaces of an area and appends the
links for each to the array of the LSA.  For a full neighbour on a
point-to-multipoint interface it fills in a link and then appends the stub
link of the interface once more.

The index of a new link is kept in 16 bits, as is `numberOfLinks`.
-/

namespace OmnetDsi.Ospf.RouterLinks

open List
open Ospf.HelloPackets (DesignatedRouterID)
open Ospf.ReliableFlooding (OSPFInterfaceType InterfaceStateType NeighborStateType)
open Ospf.ShortestPathTree (Link LinkType)

/-! ## Interfaces -/

structure Neighbor where
  neighborID : Nat
  neighborIPAddress : Nat
  state : NeighborStateType

structure Interface where
  interfaceType : OSPFInterfaceType
  state : InterfaceStateType
  ifIndex : Nat
  address : Nat
  mask : Nat
  outputCost : BitVec 64
  designatedRouter : DesignatedRouterID
  neighboringRouters : List Neighbor

structure HostRouteParameters where
  address : Nat
  linkCost : BitVec 64

/-- An area, with what is read of its router and the backbone. -/
structure Area where
  routerID : Nat
  areaCount : Nat
  asBoundaryRouter : Bool
  backboneHasVirtualLink : Bool
  externalRoutingCapability : Bool
  associatedInterfaces : List Interface
  hostRoutes : List HostRouteParameters

structure RouterLSA where
  linkStateID : Nat
  advertisingRouter : Nat
  e_ExternalRoutingCapability : Bool
  b_AreaBorderRouter : Bool
  e_ASBoundaryRouter : Bool
  v_VirtualLinkEndpoint : Bool
  numberOfLinks : BitVec 16
  links : List Link

def Neighbor.isFull (neighbor : Neighbor) : Bool :=
  neighbor.state = .fullState

namespace Interface

/-- The last neighbour that was added with the address. -/
def GetNeighborByAddress (intf : Interface) (address : Nat) : Option Neighbor :=
  intf.neighboringRouters.reverse.find? (·.neighborIPAddress = address)

/-- The state is above `LoopbackState`. -/
def isUp (intf : Interface) : Bool :=
  intf.state ≠ .downState && intf.state ≠ .loopbackState

/-! ## The links of an interface -/

/-- A stub link to one address. -/
def hostLink (address : Nat) (linkCost : BitVec 64) : Link where
  type := .stubLink
  linkID := address
  linkData := 0xFFFFFFFF
  linkCost

/-- The stub link to the network of the interface. -/
def networkLink (intf : Interface) : Link where
  type := .stubLink
  linkID := intf.address &&& intf.mask
  linkData := intf.mask
  linkCost := intf.outputCost

def transitLink (intf : Interface) : Link where
  type := .transitLink
  linkID := intf.designatedRouter.ipInterfaceAddress
  linkData := intf.address
  linkCost := intf.outputCost

/-- The link to a neighbour, under the address of the interface or its index. -/
def neighborLink (intf : Interface) (type : LinkType) (linkData : Nat) (neighbor : Neighbor) :
    Link where
  type
  linkID := neighbor.neighborID
  linkData
  linkCost := intf.outputCost

/-- An interface without an address gives its index. -/
def pointToPointData (intf : Interface) : Nat :=
  if intf.address ≠ 0 then intf.address else intf.ifIndex

/-- The stub link behind a point-to-point link, which needs a neighbour. -/
def pointToPointStubs (intf : Interface) : List Link :=
  match intf.neighboringRouters.head? with
  | none => []
  | some neighbor =>
    if intf.state = .pointToPointState then
      if neighbor.neighborIPAddress ≠ 0 then [hostLink neighbor.neighborIPAddress intf.outputCost]
      else if intf.mask ≠ 0xFFFFFFFF then [intf.networkLink]
      else []
    else []

/-- The router is fully adjacent to the DR, or it is the DR and not alone. -/
def onTransit (intf : Interface) (routerID : Nat) : Bool :=
  (intf.GetNeighborByAddress intf.designatedRouter.ipInterfaceAddress).any Neighbor.isFull ||
    intf.designatedRouter.routerID = routerID && intf.neighboringRouters.any Neighbor.isFull

def broadcastLinks (intf : Interface) (routerID : Nat) : List Link :=
  if intf.state = .waitingState then [intf.networkLink]
  else if intf.onTransit routerID then [intf.transitLink]
  else [intf.networkLink]

/-- The links that the loop appends for an interface that is up. -/
def linksUp (intf : Interface) (routerID : Nat) : List Link :=
  match intf.interfaceType with
  | .pointToPoint =>
    (intf.neighboringRouters.head?.toList.filter Neighbor.isFull).map
        (intf.neighborLink .pointToPointLink intf.pointToPointData) ++
      intf.pointToPointStubs
  | .broadcast | .nbma => intf.broadcastLinks routerID
  | .virtual =>
    (intf.neighboringRouters.head?.toList.filter Neighbor.isFull).map
      (intf.neighborLink .virtualLink intf.address)
  | .pointToMultiPoint =>
    let stubLink := hostLink intf.address 0
    stubLink :: (intf.neighboringRouters.filter Neighbor.isFull).map fun _ => stubLink
  | .unknownType => []

/-- A loopback interface is a host, unless it has no address. -/
def loopbackLinks (intf : Interface) : List Link :=
  if intf.state = .loopbackState ∧ (intf.interfaceType ≠ .pointToPoint ∨ intf.address ≠ 0) then
    [hostLink intf.address 0]
  else []

def links (intf : Interface) (routerID : Nat) : List Link :=
  intf.loopbackLinks ++ if intf.isUp then intf.linksUp routerID else []

/-- The links that it should have: one for each full neighbour. -/
def attachedUp (intf : Interface) (routerID : Nat) : List Link :=
  let fullNeighbors := intf.neighboringRouters.filter Neighbor.isFull
  match intf.interfaceType with
  | .pointToPoint =>
    fullNeighbors.map (intf.neighborLink .pointToPointLink intf.pointToPointData) ++
      intf.pointToPointStubs
  | .broadcast | .nbma => intf.broadcastLinks routerID
  | .virtual => fullNeighbors.map (intf.neighborLink .virtualLink intf.address)
  | .pointToMultiPoint =>
    hostLink intf.address 0 :: fullNeighbors.map (intf.neighborLink .pointToPointLink intf.address)
  | .unknownType => []

def attached (intf : Interface) (routerID : Nat) : List Link :=
  intf.loopbackLinks ++ if intf.isUp then intf.attachedUp routerID else []

end Interface

/-! ## The LSA -/

/-- A link is put at its index, which cuts the array off if it is too long. -/
def append (current : List Link × BitVec 16) (link : Link) : List Link × BitVec 16 :=
  let linkIndex := current.1.length % 2 ^ 16
  (current.1.take linkIndex ++ [link], BitVec.ofNat 16 (linkIndex + 1))

namespace Area

/-- The links in the order in which they are appended. -/
def allLinks (area : Area) (linksOf : Interface → Nat → List Link) : List Link :=
  (area.associatedInterfaces.flatMap fun intf => linksOf intf area.routerID) ++
    area.hostRoutes.map fun route => Interface.hostLink route.address route.linkCost

def OriginateRouterLSA (area : Area) : RouterLSA :=
  let appended := (area.allLinks Interface.links).foldl append ([], 0)
  { linkStateID := area.routerID
    advertisingRouter := area.routerID
    e_ExternalRoutingCapability := area.externalRoutingCapability
    b_AreaBorderRouter := area.areaCount > 1
    e_ASBoundaryRouter := area.externalRoutingCapability && area.asBoundaryRouter
    v_VirtualLinkEndpoint := area.backboneHasVirtualLink
    numberOfLinks := appended.2
    links := appended.1 }

/-- The LSA has the links of what is attached, in some order, and their number. -/
structure Describes (area : Area) (lsa : RouterLSA) : Prop where
  links : lsa.links.Perm (area.allLinks Interface.attached)
  number : lsa.numberOfLinks.toNat = lsa.links.length

end Area

/--
The full neighbours without a link: all those on a point-to-multipoint
interface, and those behind the first neighbour of a link.
-/
def Interface.missed (intf : Interface) : List Neighbor :=
  if intf.isUp then
    match intf.interfaceType with
    | .pointToMultiPoint => intf.neighboringRouters.filter Neighbor.isFull
    | .pointToPoint | .virtual => intf.neighboringRouters.tail.filter Neighbor.isFull
    | _ => []
  else []

/-! ## Links to neighbours -/

/-- The number of links to neighbours, of which an array may lack some. -/
def neighborLinks (links : List Link) : Nat :=
  links.countP fun link => link.type = .pointToPointLink || link.type = .virtualLink

theorem neighborLinks_append (links more : List Link) :
    neighborLinks (links ++ more) = neighborLinks links + neighborLinks more :=
  countP_append

namespace Interface

variable (intf : Interface) (routerID : Nat)

theorem filter_head_tail (neighbors : List Neighbor) :
    neighbors.filter Neighbor.isFull =
      neighbors.head?.toList.filter Neighbor.isFull ++ neighbors.tail.filter Neighbor.isFull := by
  cases neighbors with
  | nil => rfl
  | cons first _ => exact filter_append [first] _

theorem neighborLinks_map {intf : Interface}
    (neighbors : List Neighbor) (leads : type = .pointToPointLink ∨ type = .virtualLink) :
    neighborLinks (neighbors.map (intf.neighborLink type linkData)) = neighbors.length := by
  rw [neighborLinks, countP_map, countP_eq_length.mpr]
  rcases leads with rfl | rfl <;> simp [neighborLink]

theorem neighborLinks_host (address : Nat) (links : List Link) :
    neighborLinks (hostLink address 0 :: links) = neighborLinks links :=
  countP_cons_of_neg (by simp [hostLink])

theorem neighborLinks_hosts (neighbors : List Neighbor) (address : Nat) :
    neighborLinks (neighbors.map fun _ => hostLink address 0) = 0 := by
  rw [neighborLinks, countP_map, countP_eq_zero.mpr]
  simp [hostLink]

/-- What is missed is what the links to neighbours lack; in all, none is too many. -/
theorem attached_counts :
    neighborLinks (intf.attached routerID) =
        neighborLinks (intf.links routerID) + intf.missed.length ∧
      (intf.links routerID).length ≤ (intf.attached routerID).length := by
  simp only [links, attached, missed, neighborLinks_append, length_append]
  cases intf.isUp with
  | false => exact ⟨rfl, Nat.le_refl _⟩
  | true =>
    simp only [if_true, linksUp, attachedUp]
    cases intf.interfaceType with
    | pointToPoint | virtual =>
      simp only [filter_head_tail intf.neighboringRouters, neighborLinks_append, length_append,
        length_map, neighborLinks_map _ (.inl _), neighborLinks_map _ (.inr _)]
      omega
    | pointToMultiPoint =>
      simp only [neighborLinks_host, neighborLinks_hosts, neighborLinks_map _ (.inl _),
        length_cons, length_map]
      omega
    | _ => exact ⟨rfl, Nat.le_refl _⟩

theorem attached_of_missed (nothing : intf.missed = []) :
    intf.links routerID = intf.attached routerID := by
  unfold links attached
  rw [missed] at nothing
  cases up : intf.isUp with
  | false => rfl
  | true =>
    rw [up] at nothing
    simp only [if_true, linksUp, attachedUp] at nothing ⊢
    cases type : intf.interfaceType with
    | pointToPoint | virtual =>
      simp only [type] at nothing
      rw [filter_head_tail intf.neighboringRouters, nothing, append_nil]
    | pointToMultiPoint =>
      simp only [type] at nothing
      rw [nothing]
      rfl
    | _ => rfl

end Interface

/-! ## The array -/

/-- The array never has more links than indices, and the number is its length. -/
theorem append_bounded (links : List Link) :
    (links.foldl append ([], 0)).1.length ≤ 2 ^ 16 ∧
      (links.foldl append ([], 0)).2 = BitVec.ofNat 16 (links.foldl append ([], 0)).1.length := by
  induction links using reverseRecOn with
  | nil => exact ⟨Nat.zero_le _, rfl⟩
  | append_singleton _ _ _ =>
    rw [foldl_append, foldl_cons, foldl_nil, append, length_append, length_take, length_singleton,
      Nat.min_eq_left (Nat.mod_le _ _)]
    exact ⟨Nat.mod_lt _ (by decide), rfl⟩

theorem append_links (links : List Link) (few : links.length ≤ 2 ^ 16) :
    (links.foldl append ([], 0)).1 = links := by
  induction links using reverseRecOn with
  | nil => rfl
  | append_singleton _ _ induction =>
    rw [length_append, length_singleton] at few
    rw [foldl_append, foldl_cons, foldl_nil, append, induction (by omega),
      Nat.mod_eq_of_lt (by omega), take_length]

namespace Area

variable (area : Area)

theorem allLinks_counts :
    neighborLinks (area.allLinks Interface.attached) =
        neighborLinks (area.allLinks Interface.links) +
          (area.associatedInterfaces.flatMap Interface.missed).length ∧
      (area.allLinks Interface.links).length ≤ (area.allLinks Interface.attached).length := by
  unfold allLinks
  rw [neighborLinks_append, neighborLinks_append, length_append, length_append]
  induction area.associatedInterfaces with
  | nil => exact ⟨rfl, Nat.le_refl _⟩
  | cons intf _ _ =>
    have counts := intf.attached_counts area.routerID
    simp only [flatMap_cons, neighborLinks_append, length_append]
    omega

end Area

/-- A point-to-multipoint interface with a full neighbour. -/
def multipoint : Area where
  routerID := 1
  areaCount := 1
  asBoundaryRouter := false
  backboneHasVirtualLink := false
  externalRoutingCapability := true
  associatedInterfaces :=
    [{ interfaceType := .pointToMultiPoint
       state := .pointToPointState
       ifIndex := 1
       address := 0x0A000001
       mask := 0xFFFFFF00
       outputCost := 1
       designatedRouter := { routerID := 0, ipInterfaceAddress := 0 }
       neighboringRouters :=
        [{ neighborID := 2, neighborIPAddress := 0x0A000002, state := .fullState }] }]
  hostRoutes := []

end OmnetDsi.Ospf.RouterLinks
