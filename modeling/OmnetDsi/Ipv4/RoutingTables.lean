import Mathlib.Data.List.Nodup
import OmnetDsi.Contract.Addresses

/-!
# The routing table

The routes, their order and the look-up cache of `RoutingTable`, with the
operations that the network configurator and the IP module use on it.

The look-up walks the unicast routes and keeps the first one whose netmask,
read as a number, is greatest among the matching ones.  Its answer is stored
in `routingCache`, which every change of the routes empties; so a table that
has been built by these operations answers from its routes alone.
-/

namespace OmnetDsi.Ipv4.RoutingTables

open Contract.Addresses

/-! ## Routes and interfaces -/

inductive RouteType where
  | DIRECT
  | REMOTE
deriving DecidableEq

inductive RouteSource where
  | MANUAL
  | IFACENETMASK
  | RIP
  | OSPF
  | BGP
  | ZEBRA
deriving DecidableEq

/--
A route.  The interface is given by its position in the interface table of
the node; `none` is the null pointer.
-/
structure IPRoute where
  host : IPAddress := UNSPECIFIED_ADDRESS
  netmask : IPAddress := UNSPECIFIED_ADDRESS
  gateway : IPAddress := UNSPECIFIED_ADDRESS
  interface : Option Nat := none
  type : RouteType := .DIRECT
  source : RouteSource := .MANUAL
deriving DecidableEq

/-- The IPv4 data of one entry of the interface table. -/
structure InterfaceEntry where
  isLoopback : Bool
  ipAddress : IPAddress
  netmask : IPAddress
deriving DecidableEq

structure RoutingTable where
  routerId : IPAddress := UNSPECIFIED_ADDRESS
  routes : List IPRoute := []
  multicastRoutes : List IPRoute := []
  routingCache : List (IPAddress × Option IPRoute) := []
  localAddresses : List IPAddress := []

/-- The checks of `addRoute` that end the simulation. -/
inductive RouteError where
  | defaultRouteHalfSet
  | hostOutsideNetmask
  | interfaceNull
deriving DecidableEq

namespace RoutingTable

def invalidateCache (table : RoutingTable) : RoutingTable :=
  { table with routingCache := [], localAddresses := [] }

def setRouterId (table : RoutingTable) (a : IPAddress) : RoutingTable :=
  { table with routerId := a }

/-- The membership test also fills the empty set with the router id. -/
def isLocalAddress (table : RoutingTable) (dest : IPAddress) : Bool × RoutingTable :=
  let localAddresses :=
    if table.localAddresses.isEmpty then [table.routerId] else table.localAddresses
  (localAddresses.contains dest, { table with localAddresses })

/-! ## Looking up a destination -/

/-- One step of the scan for the best match. -/
def betterRoute (dest : IPAddress) (bestRoute : Option IPRoute) (e : IPRoute) : Option IPRoute :=
  let longer :=
    match bestRoute with
    | none => true
    | some best => decide (best.netmask.getInt < e.netmask.getInt)
  if maskedAddrAreEqual dest e.host e.netmask && longer then some e else bestRoute

/-- The scan of the unicast routes, without the cache. -/
def bestRoute (routes : List IPRoute) (dest : IPAddress) : Option IPRoute :=
  routes.foldl (betterRoute dest) none

def findBestMatchingRoute (table : RoutingTable) (dest : IPAddress) :
    Option IPRoute × RoutingTable :=
  match table.routingCache.find? fun entry => entry.1.equals dest with
  | some entry => (entry.2, table)
  | none =>
    let best := bestRoute table.routes dest
    (best, { table with routingCache := (dest, best) :: table.routingCache })

def getNumRoutes (table : RoutingTable) : Nat :=
  table.routes.length + table.multicastRoutes.length

/-- `none` is the null pointer that an index out of range gives. -/
def getRoute (table : RoutingTable) (k : Nat) : Option IPRoute :=
  (table.routes ++ table.multicastRoutes)[k]?

/-! ## Changing the routes -/

def isDefaultRoute (route : IPRoute) : Bool :=
  route.netmask.isUnspecified

/--
The conjunction of the host with the truth value `isUnspecified()`, which
converts to the address 0 or 1, stands where the netmask was meant.
-/
def suspicious (entry : IPRoute) : Bool :=
  let netmask : IPAddress := ⟨if entry.netmask.isUnspecified then 1 else 0⟩
  entry.host.addr &&& netmask.addr != 0

def addRoute (table : RoutingTable) (entry : IPRoute) : Except RouteError RoutingTable :=
  if entry.host.isUnspecified != entry.netmask.isUnspecified then .error .defaultRouteHalfSet
  else if suspicious entry then .error .hostOutsideNetmask
  else if entry.interface.isNone then .error .interfaceNull
  else
    -- a new default route replaces the old one
    let table :=
      if isDefaultRoute entry then { table with routes := table.routes.eraseP isDefaultRoute }
      else table
    let table :=
      if entry.host.isMulticast then
        { table with multicastRoutes := table.multicastRoutes ++ [entry] }
      else { table with routes := table.routes ++ [entry] }
    .ok table.invalidateCache

/-- The route that `updateNetmaskRoutes` adds for an interface. -/
def netmaskRoute (position : Nat) (ie : InterfaceEntry) : IPRoute where
  host := ie.ipAddress
  netmask := ie.netmask
  interface := some position
  source := .IFACENETMASK

def netmaskRoutes (interfaces : List InterfaceEntry) : List IPRoute :=
  interfaces.zipIdx.filterMap fun entry =>
    if entry.1.netmask = ALLONES_ADDRESS then none else some (netmaskRoute entry.2 entry.1)

def updateNetmaskRoutes (table : RoutingTable) (interfaces : List InterfaceEntry) : RoutingTable :=
  let kept := table.routes.filter fun route => route.source ≠ .IFACENETMASK
  { table with routes := kept ++ netmaskRoutes interfaces }.invalidateCache

/-! ## The cache answers as the routes do -/

/-- Every cached answer is the one the scan gives. -/
def CacheAgrees (table : RoutingTable) : Prop :=
  ∀ entry ∈ table.routingCache, entry.2 = bestRoute table.routes entry.1

theorem cacheAgrees_of_empty {table : RoutingTable}
    (empty : table.routingCache = []) : table.CacheAgrees := by
  intro _ member
  rw [empty] at member
  contradiction

/-- A look-up answers as the scan does, and leaves the routes as they are. -/
theorem findBestMatchingRoute_spec {table : RoutingTable}
    (agrees : table.CacheAgrees) (dest : IPAddress) :
    (table.findBestMatchingRoute dest).1 = bestRoute table.routes dest ∧
      (table.findBestMatchingRoute dest).2.routes = table.routes ∧
        (table.findBestMatchingRoute dest).2.CacheAgrees := by
  unfold findBestMatchingRoute
  cases found : table.routingCache.find? fun entry => entry.1.equals dest with
  | some _ =>
    have member := List.mem_of_find?_eq_some found
    have key := List.find?_some found
    rw [equals_iff] at key
    subst key
    exact ⟨agrees _ member, rfl, agrees⟩
  | none =>
    refine ⟨rfl, rfl, ?_⟩
    intro _ member
    rcases List.mem_cons.mp member with rfl | older
    · rfl
    · exact agrees _ older

/-! ## What the scan finds -/

theorem betterRoute_of_mismatch (differs : maskedAddrAreEqual dest e.host e.netmask = false)
    (best : Option IPRoute) : betterRoute dest best e = best := by
  simp [betterRoute, differs]

variable {routes : List IPRoute}

theorem bestRoute_eq_none
    (differ : ∀ e ∈ routes, maskedAddrAreEqual dest e.host e.netmask = false) :
    bestRoute routes dest = none := by
  unfold bestRoute
  induction routes with
  | nil => rfl
  | cons e _ induction =>
    rw [List.foldl_cons, betterRoute_of_mismatch (differ e List.mem_cons_self)]
    exact induction fun other member => differ _ (List.mem_cons_of_mem e member)

theorem foldl_betterRoute_holds
    (unique : ∀ e ∈ routes, maskedAddrAreEqual dest e.host e.netmask = true → e = route) :
    routes.foldl (betterRoute dest) (some route) = some route := by
  induction routes with
  | nil => rfl
  | cons e _ induction =>
    have keeps : betterRoute dest (some route) e = some route := by
      by_cases same : maskedAddrAreEqual dest e.host e.netmask = true
      · rw [unique e List.mem_cons_self same]
        simp [betterRoute]
      · exact betterRoute_of_mismatch (by simpa using same) _
    rw [List.foldl_cons, keeps]
    exact induction fun other member => unique _ (List.mem_cons_of_mem e member)

theorem bestRoute_eq_some (member : route ∈ routes)
    (matching : maskedAddrAreEqual dest route.host route.netmask = true)
    (unique : ∀ e ∈ routes, maskedAddrAreEqual dest e.host e.netmask = true → e = route) :
    bestRoute routes dest = some route := by
  unfold bestRoute
  induction routes with
  | nil => contradiction
  | cons e rest induction =>
    have later : ∀ other ∈ rest,
        maskedAddrAreEqual dest other.host other.netmask = true → other = route :=
      fun other inside => unique _ (List.mem_cons_of_mem e inside)
    rw [List.foldl_cons]
    by_cases same : maskedAddrAreEqual dest e.host e.netmask = true
    · have taken : betterRoute dest none e = some route := by
        rw [unique e List.mem_cons_self same]
        simp [betterRoute, matching]
      rw [taken]
      exact foldl_betterRoute_holds later
    · rw [betterRoute_of_mismatch (by simpa using same)]
      rcases List.mem_cons.mp member with rfl | inside
      · exact absurd matching same
      · exact induction inside later

/-! ## What adding routes leaves -/

/-- A route that `addRoute` puts at the end of the unicast routes. -/
structure PlainRoute (entry : IPRoute) : Prop where
  host : entry.host.isUnspecified = false
  netmask : entry.netmask.isUnspecified = false
  unicast : entry.host.isMulticast = false
  interface : entry.interface.isSome

theorem addRoute_plain (plain : PlainRoute entry) (table : RoutingTable) :
    table.addRoute entry =
      .ok { table with
        routes := table.routes ++ [entry]
        routingCache := []
        localAddresses := [] } := by
  have present : entry.interface.isNone = false := by simpa using plain.interface
  simp [addRoute, suspicious, isDefaultRoute, invalidateCache, plain.host,
    plain.netmask, plain.unicast, present]

end RoutingTable

end OmnetDsi.Ipv4.RoutingTables
