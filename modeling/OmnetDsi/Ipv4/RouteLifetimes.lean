import OmnetDsi.Ipv4.RoutingTables
import OmnetDsi.Library.Transition

/-!
# Routes and interfaces that come and go

The routing table and the interface table of a node, with the identity of
every route.  The vectors and the look-up cache hold pointers; `delete` ends
the life of a route, while `updateNetmaskRoutes` drops routes without
deleting them.

A look-up answers what a scan of the unicast routes gives, in every state
that can be reached (`findBestMatchingRoute_scans`).
-/

namespace OmnetDsi.Ipv4.RouteLifetimes

open Contract.Addresses Ipv4.RoutingTables Ipv4.RoutingTables.RoutingTable Library.Transition List

/-! ## The two tables -/

/-- A route and the pointer that `new` gave for it. -/
structure RouteObject where
  pointer : Nat
  route : IPRoute
deriving DecidableEq

/--
A deleted interface leaves a null pointer in `idToInterface`, and a route
names its interface by the position there.  `allocated` is the number of
routes made so far, and the pointer of the next one.
-/
structure Tables where
  idToInterface : List (Option InterfaceEntry) := []
  routes : List RouteObject := []
  multicastRoutes : List RouteObject := []
  routingCache : List (IPAddress × Option Nat) := []
  localAddresses : List IPAddress := []
  allocated : Nat := 0
  freed : List Nat := []
deriving DecidableEq

inductive TableError where
  | route (error : RouteError)
  | interfaceNotFound
deriving DecidableEq

/-- The subscribed categories of the notification board. -/
inductive Category where
  | INTERFACE_CREATED
  | INTERFACE_DELETED (entry : Nat)
  | INTERFACE_STATE_CHANGED
  | INTERFACE_CONFIG_CHANGED
  | INTERFACE_IPv4CONFIG_CHANGED

variable {tables : Tables}

namespace Tables

def objects (tables : Tables) : List RouteObject :=
  tables.routes ++ tables.multicastRoutes

def invalidateCache (tables : Tables) : Tables :=
  { tables with routingCache := [], localAddresses := [] }

/-! ## Looking up a destination -/

/-- The better one of the best route so far and the next route. -/
def better (dest : IPAddress) (best : Option RouteObject) (e : RouteObject) : Option RouteObject :=
  let longer :=
    match best with
    | none => true
    | some best => decide (best.route.netmask.getInt < e.route.netmask.getInt)
  if maskedAddrAreEqual dest e.route.host e.route.netmask && longer then some e else best

/-- The scan of the routes, without the cache. -/
def scan (routes : List RouteObject) (dest : IPAddress) : Option RouteObject :=
  routes.foldl (better dest) none

def findBestMatchingRoute (tables : Tables) (dest : IPAddress) : Option Nat × Tables :=
  match tables.routingCache.find? fun entry => entry.1.equals dest with
  | some entry => (entry.2, tables)
  | none =>
    let best := (scan tables.routes dest).map RouteObject.pointer
    (best, { tables with routingCache := (dest, best) :: tables.routingCache })

/-! ## Changing the routes -/

def getDefaultRoute (tables : Tables) : Option RouteObject :=
  tables.routes.find? fun e => isDefaultRoute e.route

def deleteRoute (tables : Tables) (entry : Nat) : Bool × Tables :=
  if tables.routes.any (fun e => e.pointer == entry) then
    (true,
      { tables with
        routes := tables.routes.eraseP fun e => e.pointer == entry
        freed := entry :: tables.freed }.invalidateCache)
  else if tables.multicastRoutes.any (fun e => e.pointer == entry) then
    (true,
      { tables with
        multicastRoutes := tables.multicastRoutes.eraseP fun e => e.pointer == entry
        freed := entry :: tables.freed }.invalidateCache)
  else (false, tables)

/-- A default route that is there gives way to a new one. -/
def replaceDefault (tables : Tables) (route : IPRoute) : Tables :=
  if isDefaultRoute route then
    match tables.getDefaultRoute with
    | some old => (tables.deleteRoute old.pointer).2
    | none => tables
  else tables

def pushBack (tables : Tables) (entry : RouteObject) : Tables :=
  if entry.route.host.isMulticast then
    { tables with multicastRoutes := tables.multicastRoutes ++ [entry] }
  else { tables with routes := tables.routes ++ [entry] }

/-- A new route is made and added. -/
def addRoute (tables : Tables) (route : IPRoute) : Except TableError Tables :=
  if route.host.isUnspecified != route.netmask.isUnspecified then
    .error (.route .defaultRouteHalfSet)
  else if suspicious route then .error (.route .hostOutsideNetmask)
  else if route.interface.isNone then .error (.route .interfaceNull)
  else
    let added := (tables.replaceDefault route).pushBack ⟨tables.allocated, route⟩
    .ok { added with allocated := tables.allocated + 1 }.invalidateCache

/-- The routes of the interfaces that have not been deleted. -/
def netmaskRoutes (idToInterface : List (Option InterfaceEntry)) : List IPRoute :=
  idToInterface.zipIdx.filterMap fun slot =>
    match slot.1 with
    | none => none
    | some ie =>
      if ie.netmask = ALLONES_ADDRESS then none else some (netmaskRoute slot.2 ie)

/-- The netmask routes that are there are erased, but not deleted. -/
def updateNetmaskRoutes (tables : Tables) : Tables :=
  let kept := tables.routes.filter fun e => e.route.source ≠ .IFACENETMASK
  let new : List RouteObject :=
    (netmaskRoutes tables.idToInterface).zipIdx tables.allocated |>.map
      fun entry => ⟨entry.2, entry.1⟩
  { tables with routes := kept ++ new, allocated := tables.allocated + new.length }.invalidateCache

theorem length_deleteRoute (member : e ∈ tables.routes) :
    (tables.deleteRoute e.pointer).2.routes.length < tables.routes.length := by
  have found : tables.routes.any (fun other => other.pointer == e.pointer) = true :=
    any_eq_true.mpr ⟨e, member, by simp⟩
  have positive := length_pos_of_mem member
  rw [deleteRoute, if_pos found]
  show (tables.routes.eraseP _).length < _
  rw [length_eraseP, if_pos found]
  exact Nat.sub_lt positive Nat.one_pos

/-- The iteration, from a position on; a deletion starts it over. -/
def deleteInterfaceRoutesFrom (entry : Nat) (tables : Tables) (it : Nat) : Tables :=
  if inside : it < tables.routes.length then
    if tables.routes[it].route.interface = some entry then
      deleteInterfaceRoutesFrom entry (tables.deleteRoute tables.routes[it].pointer).2 0
    else deleteInterfaceRoutesFrom entry tables (it + 1)
  else tables
termination_by (tables.routes.length, tables.routes.length - it)
decreasing_by
  · exact Prod.Lex.left _ _ (length_deleteRoute (getElem_mem inside))
  · exact Prod.Lex.right _ (by omega)

def deleteInterfaceRoutes (tables : Tables) (entry : Nat) : Tables :=
  deleteInterfaceRoutesFrom entry tables 0

def receiveChangeNotification (initializing : Bool) (tables : Tables)
    (category : Category) : Tables :=
  if initializing then tables
  else
    match category with
    | .INTERFACE_CREATED => tables.updateNetmaskRoutes
    | .INTERFACE_DELETED entry => tables.deleteInterfaceRoutes entry
    | .INTERFACE_STATE_CHANGED => tables.invalidateCache
    | .INTERFACE_CONFIG_CHANGED => tables.invalidateCache
    | .INTERFACE_IPv4CONFIG_CHANGED => tables.updateNetmaskRoutes

/-! ## The interface table -/

def addInterface (initializing : Bool) (tables : Tables) (entry : InterfaceEntry) : Tables :=
  { tables with idToInterface := tables.idToInterface ++ [some entry] }
      |>.receiveChangeNotification initializing .INTERFACE_CREATED

/-- The notification comes before the pointer is set to null. -/
def deleteInterface (initializing : Bool) (tables : Tables) (entry : Nat) :
    Except TableError Tables :=
  match tables.idToInterface[entry]? with
  | some (some _) =>
    let tables := tables.receiveChangeNotification initializing (.INTERFACE_DELETED entry)
    .ok { tables with idToInterface := tables.idToInterface.set entry none }
  | _ => .error .interfaceNotFound

/-! ## What the scan finds -/

/-- The masked host of the route is the masked destination. -/
def Matches (dest : IPAddress) (e : RouteObject) : Prop :=
  e.route.host.addr &&& e.route.netmask.addr = dest.addr &&& e.route.netmask.addr

theorem matches_iff (dest : IPAddress) (e : RouteObject) :
    maskedAddrAreEqual dest e.route.host e.route.netmask = true ↔ Matches dest e := by
  rw [maskedAddrAreEqual, Matches, beq_iff_eq]
  constructor
  all_goals
    intro equal
    apply BitVec.eq_of_getElem_eq
    intro i _
    have bit := congrArg (fun word => word[i]) equal
    simp only [BitVec.getElem_and, BitVec.getElem_xor] at bit ⊢
    revert bit
    cases dest.addr[i] <;> cases e.route.host.addr[i] <;> cases e.route.netmask.addr[i] <;> simp

/--
The first route, in the order of the table, whose netmask is greatest among
the matching routes.
-/
def FirstLongest (routes : List RouteObject) (dest : IPAddress) (e : RouteObject) : Prop :=
  ∃ before after, routes = before ++ e :: after ∧ Matches dest e ∧
    (∀ other ∈ before, Matches dest other → other.route.netmask.getInt < e.route.netmask.getInt) ∧
    ∀ other ∈ after, Matches dest other → other.route.netmask.getInt ≤ e.route.netmask.getInt

/-- What the scan holds after a list of routes. -/
def Scanned (routes : List RouteObject) (dest : IPAddress) : Option RouteObject → Prop
  | none => ∀ e ∈ routes, ¬Matches dest e
  | some e => FirstLongest routes dest e

theorem Scanned.better {routes : List RouteObject} (scanned : Scanned routes dest best)
    (e : RouteObject) : Scanned (routes ++ [e]) dest (better dest best e) := by
  by_cases hit : Matches dest e
  · have equal := (matches_iff _ e).mpr hit
    cases best with
    | none =>
      have taken : Tables.better dest none e = some e := by simp [Tables.better, equal]
      rw [taken]
      refine ⟨routes, [], rfl, hit, ?_, ?_⟩
      · intro _ member matched
        exact absurd matched (scanned _ member)
      · intro _ _
        contradiction
    | some best =>
      rcases scanned with ⟨before, after, rfl, matched, first, longest⟩
      by_cases longer : best.route.netmask.getInt < e.route.netmask.getInt
      · have taken : Tables.better dest (some best) e = some e := by
          simp [Tables.better, equal, longer]
        rw [taken]
        refine ⟨before ++ best :: after, [], rfl, hit, ?_, ?_⟩
        · intro _ member there
          rcases mem_append.mp member with early | late
          · exact (first _ early there).trans longer
          · rcases mem_cons.mp late with rfl | late
            · exact longer
            · exact (longest _ late there).trans_lt longer
        · intro _ _
          contradiction
      · have kept : Tables.better dest (some best) e = some best := by simp [Tables.better, longer]
        rw [kept]
        refine ⟨before, after ++ [e], by simp, matched, first, ?_⟩
        intro _ member there
        rcases mem_append.mp member with late | last
        · exact longest _ late there
        · rw [mem_singleton.mp last]
          exact Nat.le_of_not_lt longer
  · have kept : Tables.better dest best e = best := by
      have differs : maskedAddrAreEqual dest e.route.host e.route.netmask = false := by
        rw [Bool.eq_false_iff]
        exact fun equal => hit ((matches_iff dest e).mp equal)
      simp [Tables.better, differs]
    rw [kept]
    cases best with
    | none =>
      intro other member
      rcases mem_append.mp member with early | last
      · exact scanned other early
      · rwa [mem_singleton.mp last]
    | some _ =>
      rcases scanned with ⟨before, after, rfl, matched, first, longest⟩
      refine ⟨before, after ++ [e], by simp, matched, first, ?_⟩
      intro other member there
      rcases mem_append.mp member with late | last
      · exact longest other late there
      · rw [mem_singleton.mp last] at there
        exact absurd there hit

theorem scan_scanned (routes : List RouteObject) (dest : IPAddress) :
    Scanned routes dest (scan routes dest) := by
  unfold scan
  induction routes using reverseRecOn with
  | nil =>
    intro _ _
    contradiction
  | append_singleton _ e induction =>
    rw [foldl_append, foldl_cons, foldl_nil]
    exact induction.better e

/-! ## Allocation -/

/-- The routes that are held are distinct, and none has been deleted. -/
structure Allocation (objects : List RouteObject) (allocated : Nat) (freed : List Nat) : Prop where
  distinct : (objects.map RouteObject.pointer).Nodup
  bounded : ∀ e ∈ objects, e.pointer < allocated
  live : ∀ e ∈ objects, e.pointer ∉ freed
  past : ∀ pointer ∈ freed, pointer < allocated

namespace Allocation

variable {objects : List RouteObject} {allocated : Nat} {freed : List Nat}

theorem sublist (allocation : Allocation objects allocated freed)
    (kept : fewer.Sublist objects) : Allocation fewer allocated freed where
  distinct := allocation.distinct.sublist (kept.map _)
  bounded e member := allocation.bounded e (kept.subset member)
  live e member := allocation.live e (kept.subset member)
  past := allocation.past

theorem perm (allocation : Allocation objects allocated freed)
    (same : objects.Perm other) : Allocation other allocated freed where
  distinct := (same.map _).nodup_iff.mp allocation.distinct
  bounded e member := allocation.bounded e (same.mem_iff.mpr member)
  live e member := allocation.live e (same.mem_iff.mpr member)
  past := allocation.past

theorem free (allocation : Allocation objects allocated freed)
    (past : pointer < allocated) (absent : ∀ e ∈ objects, e.pointer ≠ pointer) :
    Allocation objects allocated (pointer :: freed) where
  distinct := allocation.distinct
  bounded := allocation.bounded
  live := by
    intro e member inside
    rcases mem_cons.mp inside with same | older
    · exact absent e member same
    · exact allocation.live e member older
  past := by
    intro _ member
    rcases mem_cons.mp member with rfl | older
    · exact past
    · exact allocation.past _ older

theorem append (new : List RouteObject) (allocation : Allocation objects allocated freed)
    (fresh : new.map RouteObject.pointer = range' allocated new.length) :
    Allocation (objects ++ new) (allocated + new.length) freed := by
  have range (e : RouteObject) (member : e ∈ new) :
      allocated ≤ e.pointer ∧ e.pointer < allocated + new.length := by
    have inside := mem_map_of_mem (f := RouteObject.pointer) member
    rwa [fresh, mem_range'_1] at inside
  constructor
  · rw [map_append, nodup_append]
    refine ⟨allocation.distinct, ?_, ?_⟩
    · rw [fresh]
      exact nodup_range'
    · intro _ leftMember _ rightMember _
      rcases mem_map.mp leftMember with ⟨_, oneMember, rfl⟩
      rcases mem_map.mp rightMember with ⟨_, otherMember, rfl⟩
      have below := allocation.bounded _ oneMember
      have above := (range _ otherMember).1
      omega
  · intro e member
    rcases mem_append.mp member with old | added
    · exact Nat.lt_add_right _ (allocation.bounded e old)
    · exact (range e added).2
  · intro e member inside
    rcases mem_append.mp member with old | added
    · exact allocation.live e old inside
    · have below := allocation.past _ inside
      exact absurd (range e added).1 (Nat.not_le.mpr below)
  · intro _ member
    exact Nat.lt_add_right _ (allocation.past _ member)

theorem unique (allocation : Allocation objects allocated freed) (leftMember : left ∈ objects)
    (rightMember : right ∈ objects) (same : left.pointer = right.pointer) : left = right :=
  inj_on_of_nodup_map allocation.distinct leftMember rightMember same

end Allocation

/-! ## Deleting one route -/

theorem eraseP_pointer {list : List RouteObject}
    (distinct : (list.map RouteObject.pointer).Nodup) (pointer : Nat) :
    (list.eraseP fun e => e.pointer == pointer) = list.filter fun e => e.pointer ≠ pointer := by
  induction list with
  | nil => rfl
  | cons e _ induction =>
    rw [map_cons, nodup_cons] at distinct
    by_cases same : e.pointer = pointer
    · rw [eraseP_cons_of_pos (by simpa using same), filter_cons_of_neg (by simpa using same)]
      symm
      rw [filter_eq_self]
      intro _ member
      rw [decide_eq_true_eq, ← same]
      intro again
      exact distinct.1 (again ▸ mem_map_of_mem member)
    · rw [eraseP_cons_of_neg (by simpa using same),
        filter_cons_of_pos (by simpa using same), induction distinct.2]

theorem filter_pointer_absent {list : List RouteObject} (absent : ∀ e ∈ list, e.pointer ≠ pointer) :
    (list.filter fun e => e.pointer ≠ pointer) = list := by
  rw [filter_eq_self]
  intro e member
  rw [decide_eq_true_eq]
  exact absent e member

theorem any_pointer (list : List RouteObject) (pointer : Nat) :
    list.any (fun e => e.pointer == pointer) = true ↔ ∃ e ∈ list, e.pointer = pointer := by
  simp only [any_eq_true, beq_iff_eq]

/-- The routes that are held, the deleted ones and the cached answers. -/
structure Sound (tables : Tables) : Prop where
  allocation : Allocation tables.objects tables.allocated tables.freed
  cached : ∀ entry ∈ tables.routingCache,
    entry.2 = (scan tables.routes entry.1).map RouteObject.pointer

theorem sound_invalidateCache
    (allocation : Allocation tables.objects tables.allocated tables.freed) :
    Sound tables.invalidateCache where
  allocation
  cached := by
    intro _ _
    contradiction

/-- The route with a pointer is removed, and nothing else. -/
structure Removed (tables next : Tables) (pointer : Nat) : Prop where
  idToInterface : next.idToInterface = tables.idToInterface
  routes : next.routes = tables.routes.filter fun e => e.pointer ≠ pointer
  multicastRoutes :
    next.multicastRoutes = tables.multicastRoutes.filter fun e => e.pointer ≠ pointer
  allocated : next.allocated = tables.allocated
  sound : Sound next

theorem deleteRoute_removed (sound : Sound tables) (pointer : Nat) :
    Removed tables (tables.deleteRoute pointer).2 pointer := by
  have allocation := sound.allocation
  have distinct := allocation.distinct
  rw [objects, map_append] at distinct
  rcases nodup_append.mp distinct with ⟨inRoutes, inMulticast, apart⟩
  have freed (held : ∃ e ∈ tables.objects, e.pointer = pointer) :
      Allocation
        (tables.routes.filter (fun e => e.pointer ≠ pointer) ++
          tables.multicastRoutes.filter fun e => e.pointer ≠ pointer)
        tables.allocated (pointer :: tables.freed) := by
    rcases held with ⟨e, member, rfl⟩
    rw [← filter_append]
    apply (allocation.sublist filter_sublist).free
    · exact allocation.bounded e member
    · intro _ kept
      exact of_decide_eq_true (mem_filter.mp kept).2
  unfold deleteRoute
  by_cases unicast : tables.routes.any (fun e => e.pointer == pointer) = true
  · rw [if_pos unicast]
    have held := (any_pointer _ _).mp unicast
    have elsewhere : ∀ e ∈ tables.multicastRoutes, e.pointer ≠ pointer := by
      rcases held with ⟨e, member, rfl⟩
      intro _ otherMember
      exact (apart _ (mem_map_of_mem member) _ (mem_map_of_mem otherMember)).symm
    have erased := eraseP_pointer inRoutes pointer
    have same := filter_pointer_absent elsewhere
    refine ⟨rfl, erased, same.symm, rfl, sound_invalidateCache ?_⟩
    rcases held with ⟨e, member, found⟩
    have after := freed ⟨e, mem_append_left _ member, found⟩
    rwa [same, ← erased] at after
  · rw [if_neg unicast]
    have absent : ∀ e ∈ tables.routes, e.pointer ≠ pointer := by
      intro e member found
      exact unicast ((any_pointer _ _).mpr ⟨e, member, found⟩)
    have same := filter_pointer_absent absent
    by_cases multicast : tables.multicastRoutes.any (fun e => e.pointer == pointer) = true
    · rw [if_pos multicast]
      have erased := eraseP_pointer inMulticast pointer
      refine ⟨rfl, same.symm, erased, rfl, sound_invalidateCache ?_⟩
      rcases (any_pointer _ _).mp multicast with ⟨e, member, found⟩
      have after := freed ⟨e, mem_append_right _ member, found⟩
      rwa [same, ← erased] at after
    · rw [if_neg multicast]
      refine ⟨rfl, same.symm, ?_, rfl, sound⟩
      symm
      apply filter_pointer_absent
      intro e member found
      exact multicast ((any_pointer _ _).mpr ⟨e, member, found⟩)

/-! ## The other changes -/

/-- Nothing is held that was not held before, apart from new routes. -/
structure Changed (tables next : Tables) (new : RouteObject → Prop) : Prop where
  idToInterface : next.idToInterface = tables.idToInterface
  objects : ∀ e ∈ next.objects, e ∈ tables.objects ∨ new e
  sound : Sound next

theorem Removed.changed {next : Tables} (removed : Removed tables next pointer)
    (new : RouteObject → Prop) : Changed tables next new where
  idToInterface := removed.idToInterface
  objects := by
    intro _ member
    unfold Tables.objects at member ⊢
    rw [removed.routes, removed.multicastRoutes, ← filter_append] at member
    exact .inl (mem_of_mem_filter member)
  sound := removed.sound

theorem replaceDefault_changed (sound : Sound tables) (route : IPRoute) :
    Changed tables (tables.replaceDefault route) (fun _ => False) ∧
      (tables.replaceDefault route).allocated = tables.allocated := by
  have same : Changed tables tables fun _ => False := ⟨rfl, fun e member => .inl member, sound⟩
  unfold replaceDefault
  split_ifs with default
  · cases tables.getDefaultRoute with
    | none => exact ⟨same, rfl⟩
    | some old =>
      have removed := deleteRoute_removed sound old.pointer
      exact ⟨removed.changed _, removed.allocated⟩
  · exact ⟨same, rfl⟩

theorem objects_pushBack (tables : Tables) (entry : RouteObject) :
    (tables.objects ++ [entry]).Perm (tables.pushBack entry).objects := by
  unfold pushBack objects
  split_ifs with multicast
  · rw [append_assoc]
  · rw [append_assoc]
    apply Perm.trans (Perm.append_left _ perm_append_comm)
    rw [← append_assoc]

theorem pushBack_rest (tables : Tables) (entry : RouteObject) :
    (tables.pushBack entry).idToInterface = tables.idToInterface ∧
      (tables.pushBack entry).freed = tables.freed := by
  unfold pushBack
  split_ifs with multicast <;> exact ⟨rfl, rfl⟩

theorem addRoute_changed {next : Tables} (sound : Sound tables)
    (added : tables.addRoute route = .ok next) :
    Changed tables next fun e => e = ⟨tables.allocated, route⟩ := by
  rcases replaceDefault_changed sound _ with ⟨changed, allocated⟩
  have pushed := objects_pushBack (tables.replaceDefault route) ⟨tables.allocated, route⟩
  rcases pushBack_rest _ ⟨tables.allocated, route⟩ with ⟨interfaces, freed⟩
  have allocation := changed.sound.allocation.append
    [⟨tables.allocated, route⟩] (by rw [allocated]; rfl)
  rw [allocated] at allocation
  unfold addRoute at added
  split_ifs at added with half outside null
  cases added
  refine ⟨interfaces.trans changed.idToInterface, ?_, sound_invalidateCache ?_⟩
  · intro e member
    rcases mem_append.mp (pushed.mem_iff.mpr member) with old | new
    · exact .inl ((changed.objects e old).resolve_right id)
    · exact .inr (mem_singleton.mp new)
  · rw [← freed] at allocation
    exact allocation.perm pushed

theorem mem_netmaskRoutes {idToInterface : List (Option InterfaceEntry)}
    (member : route ∈ netmaskRoutes idToInterface) :
    ∃ i ie, idToInterface[i]? = some (some ie) ∧ route.interface = some i := by
  rcases mem_filterMap.mp member with ⟨⟨slot, i⟩, inside, made⟩
  rw [mem_zipIdx_iff_getElem?] at inside
  cases slot with
  | none => cases made
  | some ie =>
    dsimp only at made
    split_ifs at made with all
    cases made
    exact ⟨i, ie, inside, rfl⟩

theorem updateNetmaskRoutes_changed (sound : Sound tables) :
    Changed tables tables.updateNetmaskRoutes fun e =>
      ∃ i ie, tables.idToInterface[i]? = some (some ie) ∧ e.route.interface = some i := by
  have allocation := sound.allocation.sublist
    ((filter_sublist (p := fun e => decide
      (e.route.source ≠ RouteSource.IFACENETMASK))).append (Sublist.refl tables.multicastRoutes))
  refine ⟨rfl, ?_, sound_invalidateCache ?_⟩
  · intro _ member
    rcases mem_append.mp member with unicast | multicast
    · rcases mem_append.mp unicast with kept | new
      · exact .inl (mem_append_left _ (mem_of_mem_filter kept))
      · rcases mem_map.mp new with ⟨⟨_, _⟩, inside, rfl⟩
        exact .inr (mem_netmaskRoutes (fst_mem_of_mem_zipIdx inside))
    · exact .inl (mem_append_right _ multicast)
  · apply (allocation.append _ _).perm
    · rw [objects, append_assoc]
      apply Perm.trans (Perm.append_left _ perm_append_comm)
      rw [← append_assoc]
    · rw [map_map, length_map, length_zipIdx]
      exact zipIdx_map_snd _ _

/-! ## Deleting the routes of an interface -/

/-- The unicast routes with the interface are removed, and nothing else. -/
structure Cleared (tables next : Tables) (entry : Nat) : Prop where
  idToInterface : next.idToInterface = tables.idToInterface
  routes : next.routes = tables.routes.filter fun e => e.route.interface ≠ some entry
  multicastRoutes : next.multicastRoutes = tables.multicastRoutes
  sound : Sound next

/-- One deletion of the iteration takes away a route of the interface. -/
theorem deleteRoute_interface (sound : Sound tables) (member : e ∈ tables.routes)
    (hit : e.route.interface = some entry) :
    ((tables.deleteRoute e.pointer).2.routes.filter fun e => e.route.interface ≠ some entry) =
      (tables.routes.filter fun e => e.route.interface ≠ some entry) ∧
    (tables.deleteRoute e.pointer).2.multicastRoutes = tables.multicastRoutes := by
  have removed := deleteRoute_removed sound e.pointer
  have unique {other : RouteObject} (inside : other ∈ tables.objects) :
      other.pointer = e.pointer → other = e :=
    sound.allocation.unique inside (mem_append_left _ member)
  constructor
  · rw [removed.routes, filter_filter]
    apply filter_congr
    intro _ inside
    rw [← Bool.decide_and, decide_eq_decide, and_iff_left_iff_imp]
    intro misses same
    apply misses
    rwa [unique (mem_append_left _ inside) same]
  · rw [removed.multicastRoutes]
    apply filter_pointer_absent
    intro _ inside same
    have distinct := sound.allocation.distinct
    rw [objects, map_append, nodup_append] at distinct
    exact distinct.2.2 _ (mem_map_of_mem member) _ (mem_map_of_mem inside) same.symm

/--
The iteration, when the routes before the position do not use the interface.
-/
theorem deleteInterfaceRoutesFrom_cleared (entry : Nat) (tables : Tables)
    (it : Nat) (sound : Sound tables)
    (passed : ∀ e ∈ tables.routes.take it, e.route.interface ≠ some entry) :
    Cleared tables (deleteInterfaceRoutesFrom entry tables it) entry := by
  induction tables, it using deleteInterfaceRoutesFrom.induct entry with
  | case1 tables it inside hit induction =>
    have member := getElem_mem inside
    have removed := deleteRoute_removed sound tables.routes[it].pointer
    rcases deleteRoute_interface sound member hit with ⟨routes, multicastRoutes⟩
    have cleared := induction removed.sound (by simp)
    rw [deleteInterfaceRoutesFrom, dif_pos inside, if_pos hit]
    exact
      { idToInterface :=
          cleared.idToInterface.trans removed.idToInterface
        routes := cleared.routes.trans routes
        multicastRoutes := cleared.multicastRoutes.trans multicastRoutes
        sound := cleared.sound }
  | case2 _ _ inside misses induction =>
    rw [deleteInterfaceRoutesFrom, dif_pos inside, if_neg misses]
    apply induction sound
    intro e member
    rw [take_succ_eq_append_getElem _] at member
    rcases mem_append.mp member with before | here
    · exact passed e before
    · rwa [mem_singleton.mp here]
  | case3 _ _ outside =>
    rw [deleteInterfaceRoutesFrom, dif_neg outside]
    rw [take_of_length_le (Nat.le_of_not_lt outside)] at passed
    refine ⟨rfl, ?_, rfl, sound⟩
    symm
    rw [filter_eq_self]
    intro e member
    exact decide_eq_true (passed e member)

theorem deleteInterfaceRoutes_cleared (sound : Sound tables) (entry : Nat) :
    Cleared tables (tables.deleteInterfaceRoutes entry) entry :=
  deleteInterfaceRoutesFrom_cleared _ _ 0 sound (by simp)

theorem Cleared.changed {next : Tables}
    (cleared : Cleared tables next entry) (new : RouteObject → Prop) : Changed tables next new where
  idToInterface := cleared.idToInterface
  objects := by
    intro _ member
    unfold Tables.objects at member ⊢
    rw [cleared.routes, cleared.multicastRoutes] at member
    rcases mem_append.mp member with unicast | multicast
    · exact .inl (mem_append_left _ (mem_of_mem_filter unicast))
    · exact .inl (mem_append_right _ multicast)
  sound := cleared.sound

/-- A notification leaves only routes of interfaces that are there. -/
theorem receiveChangeNotification_changed
    (initializing : Bool) (sound : Sound tables) (category : Category) :
    Changed tables
      (tables.receiveChangeNotification initializing category) fun e =>
        ∃ i ie, tables.idToInterface[i]? = some (some ie) ∧ e.route.interface = some i := by
  unfold receiveChangeNotification
  split_ifs with ignored
  · exact ⟨rfl, fun e member => .inl member, sound⟩
  · cases category with
    | INTERFACE_CREATED => exact updateNetmaskRoutes_changed sound
    | INTERFACE_DELETED _ => exact (deleteInterfaceRoutes_cleared sound _).changed _
    | INTERFACE_STATE_CHANGED =>
      exact ⟨rfl, fun e member => .inl member, sound_invalidateCache sound.allocation⟩
    | INTERFACE_CONFIG_CHANGED =>
      exact ⟨rfl, fun e member => .inl member, sound_invalidateCache sound.allocation⟩
    | INTERFACE_IPv4CONFIG_CHANGED => exact updateNetmaskRoutes_changed sound

theorem findBestMatchingRoute_sound (sound : Sound tables) (dest : IPAddress) :
    (tables.findBestMatchingRoute dest).1 = (scan tables.routes dest).map RouteObject.pointer ∧
      Changed tables (tables.findBestMatchingRoute dest).2 fun _ => False := by
  unfold findBestMatchingRoute
  cases found : tables.routingCache.find? fun entry => entry.1.equals dest with
  | some _ =>
    have member := mem_of_find?_eq_some found
    have key := find?_some found
    rw [equals_iff] at key
    subst key
    exact ⟨sound.cached _ member, ⟨rfl, fun e inside => .inl inside, sound⟩⟩
  | none =>
    refine ⟨rfl, ⟨rfl, fun e inside => .inl inside, ?_⟩⟩
    refine ⟨sound.allocation, ?_⟩
    intro _ member
    rcases mem_cons.mp member with rfl | older
    · rfl
    · exact sound.cached _ older

end Tables

open Tables

/-! ## Runs -/

inductive Event where
  | addRoute (route : IPRoute)
  | deleteRoute (entry : Nat)
  | updateNetmaskRoutes
  | deleteInterfaceRoutes (entry : Nat)
  | findBestMatchingRoute (dest : IPAddress)
  | receiveChangeNotification (initializing : Bool) (category : Category)
  | configureInterface (entry : Nat) (ie : InterfaceEntry)
  | addInterface (initializing : Bool) (ie : InterfaceEntry)
  | deleteInterface (initializing : Bool) (entry : Nat)

/-- The data of an interface that is there. -/
def configureInterface (tables : Tables) (entry : Nat) (ie : InterfaceEntry) :
    Except TableError Tables :=
  match tables.idToInterface[entry]? with
  | some (some _) => .ok { tables with idToInterface := tables.idToInterface.set entry (some ie) }
  | _ => .error .interfaceNotFound

def serve (tables : Tables) : Event → Except TableError Tables
  | .addRoute route => tables.addRoute route
  | .deleteRoute entry => .ok (tables.deleteRoute entry).2
  | .updateNetmaskRoutes => .ok tables.updateNetmaskRoutes
  | .deleteInterfaceRoutes entry => .ok (tables.deleteInterfaceRoutes entry)
  | .findBestMatchingRoute dest => .ok (tables.findBestMatchingRoute dest).2
  | .receiveChangeNotification initializing category =>
    .ok (tables.receiveChangeNotification initializing category)
  | .configureInterface entry ie => configureInterface tables entry ie
  | .addInterface initializing ie => .ok (tables.addInterface initializing ie)
  | .deleteInterface initializing entry => tables.deleteInterface initializing entry

/-- An error ends the simulation. -/
def Step (tables : Tables) (event : Event) (next : Tables) : Prop :=
  serve tables event = .ok next

theorem sound_start : Sound {} where
  allocation := by
    constructor
    · exact nodup_nil
    · intro _ _
      contradiction
    · intro _ _
      contradiction
    · intro _ _
      contradiction
  cached := by
    intro _ _
    contradiction

theorem Tables.Sound.interfaces (sound : Sound tables)
    (idToInterface : List (Option InterfaceEntry)) : Sound { tables with idToInterface } where
  allocation := sound.allocation
  cached := sound.cached

theorem configureInterface_eq_ok {next : Tables}
    (served : configureInterface tables entry ie = .ok next) :
    (∃ old, tables.idToInterface[entry]? = some (some old)) ∧
      next = { tables with
        idToInterface := tables.idToInterface.set entry (some ie) } := by
  unfold configureInterface at served
  split at served
  case h_1 old found =>
    cases served
    exact ⟨⟨old, found⟩, rfl⟩
  case h_2 => cases served

theorem deleteInterface_eq_ok {next : Tables}
    (served : tables.deleteInterface initializing entry = .ok next) :
    (∃ old, tables.idToInterface[entry]? = some (some old)) ∧
      next =
        { tables.receiveChangeNotification initializing
            (.INTERFACE_DELETED entry) with
          idToInterface :=
            (tables.receiveChangeNotification initializing
              (.INTERFACE_DELETED entry)).idToInterface.set entry none } := by
  unfold Tables.deleteInterface at served
  split at served
  case h_1 old found =>
    cases served
    exact ⟨⟨old, found⟩, rfl⟩
  case h_2 => cases served

theorem sound_step {next : Tables} (sound : Sound tables) (step : Step tables event next) :
    Sound next := by
  cases event with
  | addRoute _ => exact (addRoute_changed sound step).sound
  | deleteRoute _ =>
    cases step
    exact (deleteRoute_removed sound _).sound
  | updateNetmaskRoutes =>
    cases step
    exact (updateNetmaskRoutes_changed sound).sound
  | deleteInterfaceRoutes _ =>
    cases step
    exact (deleteInterfaceRoutes_cleared sound _).sound
  | findBestMatchingRoute _ =>
    cases step
    exact (findBestMatchingRoute_sound sound _).2.sound
  | receiveChangeNotification _ _ =>
    cases step
    exact (receiveChangeNotification_changed _ sound _).sound
  | configureInterface _ _ =>
    rcases configureInterface_eq_ok step with ⟨_, rfl⟩
    exact sound.interfaces _
  | addInterface _ _ =>
    cases step
    exact (receiveChangeNotification_changed _ (sound.interfaces _) _).sound
  | deleteInterface _ _ =>
    rcases deleteInterface_eq_ok step with ⟨_, rfl⟩
    exact (receiveChangeNotification_changed _ sound _).sound.interfaces _

theorem sound_run (run : Run Step {} events tables) : Sound tables :=
  run.invariant (fun _ _ _ sound step => sound_step sound step) sound_start

/--
In every state that is reached, a look-up answers what the scan of the
unicast routes gives: the null pointer exactly when no route matches, and
else the first route with the greatest netmask among the matching ones, which
has not been deleted.
-/
theorem findBestMatchingRoute_scans {events : List Event} {tables : Tables}
    (run : Run Step {} events tables) (dest : IPAddress) :
    (tables.findBestMatchingRoute dest).1 = (scan tables.routes dest).map RouteObject.pointer ∧
      ((tables.findBestMatchingRoute dest).1 = none ↔ ∀ e ∈ tables.routes, ¬Matches dest e) ∧
      ∀ pointer, (tables.findBestMatchingRoute dest).1 = some pointer →
        pointer ∉ tables.freed ∧ ∃ e, e.pointer = pointer ∧ FirstLongest tables.routes dest e := by
  have sound := sound_run run
  have answer := (findBestMatchingRoute_sound sound dest).1
  have scanned := scan_scanned tables.routes dest
  refine ⟨answer, ?_, ?_⟩
  · rw [answer, Option.map_eq_none_iff]
    cases found : scan tables.routes dest with
    | none =>
      rw [found] at scanned
      exact iff_of_true rfl scanned
    | some e =>
      rw [found] at scanned
      rcases scanned with ⟨_, _, same, hit, _⟩
      refine iff_of_false (by simp) ?_
      intro misses
      exact misses e (by simp [same]) hit
  · intro _ returned
    rw [answer, Option.map_eq_some_iff] at returned
    rcases returned with ⟨e, found, rfl⟩
    rw [found] at scanned
    refine ⟨?_, e, rfl, scanned⟩
    rcases scanned with ⟨_, _, same, _⟩
    exact sound.allocation.live e (mem_append_left _ (by simp [same]))

/-- An interface with a host route and a route that is deleted again. -/
def sampleEvents : List Event :=
  [.addInterface false ⟨false, .set 10 0 0 1, .set 255 0 0 0⟩,
    .addRoute { host := .set 10 1 0 0, netmask := .set 255 255 0 0, interface := some 0 },
    .findBestMatchingRoute (.set 10 1 0 7), .deleteRoute 1]

def sampleTables : Tables where
  idToInterface := [some ⟨false, .set 10 0 0 1, .set 255 0 0 0⟩]
  routes :=
    [⟨0,
      { host := .set 10 0 0 1
        netmask := .set 255 0 0 0
        interface := some 0
        source := .IFACENETMASK }⟩]
  allocated := 2
  freed := [1]

theorem sampleTables_reached : Run Step {} sampleEvents sampleTables :=
  Run.of_foldlM (by decide +kernel)

theorem findBestMatchingRoute_scans_sample :
    (sampleTables.findBestMatchingRoute (.set 10 1 0 7)).1 = some 0 ∧ 0 ∉ sampleTables.freed := by
  have scans := findBestMatchingRoute_scans sampleTables_reached (.set 10 1 0 7)
  have answer : (sampleTables.findBestMatchingRoute (.set 10 1 0 7)).1 = some 0 := by
    decide +kernel
  exact ⟨answer, (scans.2.2 0 answer).1⟩

end OmnetDsi.Ipv4.RouteLifetimes
