import Mathlib.Data.List.Perm.Basic
import Mathlib.Data.List.Sort
import OmnetDsi.Contract.IPv6Addresses
import OmnetDsi.Library.Fallible
import OmnetDsi.Library.Transition

/-!
# The IPv6 routing table

Routes are kept sorted by prefix length, so that the first match is a longest
one.  `setMetric` assigns the metric of a route to itself, so that every
metric is zero and the order of routes with equal lengths is left to the sort.

The lookup takes on-link prefixes out of the vector it is walking over.
`Undisturbed` says that it erases only expired routes ahead of it, and then it
is a search for the first live match.
-/

namespace OmnetDsi.Ipv6.RoutingTables

open Contract.IPv6Addresses Library.Fallible Library.Transition List

/-! ## Routes -/

inductive RouteSrc where
  | FROM_RA
  | OWN_ADV_PREFIX
  | STATIC
  | ROUTING_PROT
deriving DecidableEq

/--
A route, with its address in memory.  `givenMetric` is the metric that it was
last told to have.
-/
structure IPv6Route where
  pointer : Nat
  destPrefix : IPv6Address
  prefixLength : PrefixLength
  src : RouteSrc
  interfaceId : Int := -1
  nextHop : IPv6Address := {}
  expiryTime : Int := 0
  metric : Int := 0
  givenMetric : Int := 0
deriving DecidableEq

/-- The argument hides nothing, but the field is assigned to itself. -/
def IPv6Route.setMetric (route : IPv6Route) (metric : Int) : IPv6Route :=
  { route with metric := route.metric, givenMetric := metric }

def routeLessThan (a b : IPv6Route) : Bool :=
  if a.prefixLength ≠ b.prefixLength then a.prefixLength > b.prefixLength else a.metric < b.metric

/-- `std::sort`: a sorted permutation, whose order of equal routes is open. -/
structure RouteSort where
  sort : List IPv6Route → List IPv6Route
  perm : ∀ routes, (sort routes).Perm routes
  sorted : ∀ routes, (sort routes).Pairwise fun a b => routeLessThan b a = false

inductive RoutingError where
  /-- An assertion fails. -/
  | assertion
  /-- An iterator is used after its element was erased. -/
  | invalidIterator
deriving DecidableEq

structure RoutingTable6 where
  routeList : List IPv6Route
  /-- The number of routes that have been created. -/
  created : Nat

/-! ## Changes -/

def addRoute (order : RouteSort) (table : RoutingTable6) (route : IPv6Route) : RoutingTable6 :=
  { table with routeList := order.sort (table.routeList ++ [route]), created := table.created + 1 }

/-- The route for the prefix with this source. -/
def isPrefixOf (src : RouteSrc) (destPrefix : IPv6Address)
    (prefixLength : PrefixLength) (route : IPv6Route) : Bool :=
  route.src = src && route.destPrefix = destPrefix && route.prefixLength = prefixLength

/-- The two functions for prefixes differ in the source of their routes. -/
def addOrUpdatePrefix (src : RouteSrc) (order : RouteSort)
    (table : RoutingTable6) (destPrefix : IPv6Address)
    (prefixLength : PrefixLength) (interfaceId expiryTime : Int) : RoutingTable6 :=
  let update := fun route : IPv6Route => { route with interfaceId, expiryTime }
  match table.routeList.findIdx? (isPrefixOf src destPrefix prefixLength) with
  | none =>
    let route : IPv6Route :=
      { pointer := table.created
        destPrefix
        prefixLength
        src }
    addRoute order table ((update route).setMetric 0)
  | some index => { table with routeList := table.routeList.modify index update }

def addOrUpdateOnLinkPrefix (order : RouteSort) (table : RoutingTable6)
    (destPrefix : IPv6Address) (prefixLength : PrefixLength)
    (interfaceId expiryTime : Int) : RoutingTable6 :=
  addOrUpdatePrefix .FROM_RA order table destPrefix prefixLength interfaceId expiryTime

def addOrUpdateOwnAdvPrefix (order : RouteSort) (table : RoutingTable6)
    (destPrefix : IPv6Address) (prefixLength : PrefixLength)
    (interfaceId expiryTime : Int) : RoutingTable6 :=
  addOrUpdatePrefix .OWN_ADV_PREFIX order table destPrefix prefixLength interfaceId expiryTime

/-- Where `removeOnLinkPrefix` finds the route that it erases. -/
def onLinkIndex (routes : List IPv6Route) (destPrefix : IPv6Address)
    (prefixLength : PrefixLength) : Option Nat :=
  routes.findIdx? (isPrefixOf .FROM_RA destPrefix prefixLength)

def removeOnLinkPrefix (table : RoutingTable6) (destPrefix : IPv6Address)
    (prefixLength : PrefixLength) : RoutingTable6 :=
  match onLinkIndex table.routeList destPrefix prefixLength with
  | none => table
  | some index => { table with routeList := table.routeList.eraseIdx index }

def addStaticRoute (order : RouteSort) (table : RoutingTable6)
    (destPrefix : IPv6Address) (prefixLength : PrefixLength)
    (interfaceId : Int) (nextHop : IPv6Address) (metric : Int) : RoutingTable6 :=
  let route : IPv6Route :=
    { pointer := table.created
      destPrefix
      prefixLength
      src := .STATIC
      interfaceId
      nextHop }
  addRoute order table (route.setMetric (if metric = 0 then 10 else metric))

/-- The lifetime of the router is not used. -/
def addDefaultRoute (order : RouteSort) (table : RoutingTable6)
    (nextHop : IPv6Address) (ifID routerLifetime : Int) : RoutingTable6 :=
  let _ := routerLifetime
  let route : IPv6Route :=
    { pointer := table.created
      destPrefix := {}
      prefixLength := 0
      src := .FROM_RA
      interfaceId := ifID
      nextHop }
  addRoute order table (route.setMetric 10)

/-- The caller's route, which gets an address of its own. -/
def addRoutingProtocolRoute (order : RouteSort) (table : RoutingTable6)
    (route : IPv6Route) : Except RoutingError RoutingTable6 :=
  if route.src = .ROUTING_PROT then
    .ok (addRoute order table { route with pointer := table.created })
  else .error .assertion

def removeRoute (table : RoutingTable6) (pointer : Nat) : Except RoutingError RoutingTable6 :=
  match table.routeList.findIdx? fun route => route.pointer = pointer with
  | some index => .ok { table with routeList := table.routeList.eraseIdx index }
  | none => .error .assertion

/-! ## Lookups -/

def IPv6Route.covers (route : IPv6Route) (dest : IPv6Address) : Bool :=
  dest.matches route.destPrefix route.prefixLength

/-- Zero stands for an infinite lifetime. -/
def IPv6Route.expired (route : IPv6Route) (now : Int) : Bool :=
  now > route.expiryTime && route.expiryTime ≠ 0

/--
The loop from an index on.  The erasure of an element invalidates the
iterators to it and to all later ones.
-/
def lookupFrom (now : Int) (dest : IPv6Address) :
    Nat → Nat → List IPv6Route → Except RoutingError (List IPv6Route × Option IPv6Route)
  | 0, _, routes => .ok (routes, none)
  | steps + 1, index, routes =>
    match routes[index]? with
    | none => .ok (routes, none)
    | some route =>
      if route.covers dest then
        if route.expired now then
          match onLinkIndex routes route.destPrefix route.prefixLength with
          | none => lookupFrom now dest steps (index + 1) routes
          | some erased =>
            if erased ≤ index then .error .invalidIterator
            else lookupFrom now dest steps (index + 1) (routes.eraseIdx erased)
        else .ok (routes, some route)
      else lookupFrom now dest steps (index + 1) routes

def doLongestPrefixMatch (now : Int) (dest : IPv6Address) (table : RoutingTable6) :
    Except RoutingError (RoutingTable6 × Option IPv6Route) :=
  (lookupFrom now dest table.routeList.length 0 table.routeList).map
    fun result => ({ table with routeList := result.1 }, result.2)

/-! ## Runs -/

inductive Call where
  | addOrUpdateOnLinkPrefix (destPrefix : IPv6Address)
      (prefixLength : PrefixLength) (interfaceId expiryTime : Int)
  | addOrUpdateOwnAdvPrefix (destPrefix : IPv6Address)
      (prefixLength : PrefixLength) (interfaceId expiryTime : Int)
  | removeOnLinkPrefix (destPrefix : IPv6Address) (prefixLength : PrefixLength)
  | addStaticRoute (destPrefix : IPv6Address) (prefixLength : PrefixLength)
      (interfaceId : Int) (nextHop : IPv6Address) (metric : Int)
  | addDefaultRoute (nextHop : IPv6Address) (ifID routerLifetime : Int)
  | addRoutingProtocolRoute (route : IPv6Route)
  | removeRoute (pointer : Nat)
  | doLongestPrefixMatch (now : Int) (dest : IPv6Address)

def perform (order : RouteSort) (table : RoutingTable6) : Call → Except RoutingError RoutingTable6
  | .addOrUpdateOnLinkPrefix destPrefix prefixLength interfaceId expiryTime =>
    .ok (addOrUpdateOnLinkPrefix order table destPrefix prefixLength interfaceId expiryTime)
  | .addOrUpdateOwnAdvPrefix destPrefix prefixLength interfaceId expiryTime =>
    .ok (addOrUpdateOwnAdvPrefix order table destPrefix prefixLength interfaceId expiryTime)
  | .removeOnLinkPrefix destPrefix prefixLength =>
    .ok (removeOnLinkPrefix table destPrefix prefixLength)
  | .addStaticRoute destPrefix prefixLength interfaceId nextHop metric =>
    .ok (addStaticRoute order table destPrefix prefixLength interfaceId nextHop metric)
  | .addDefaultRoute nextHop ifID routerLifetime =>
    .ok (addDefaultRoute order table nextHop ifID routerLifetime)
  | .addRoutingProtocolRoute route => addRoutingProtocolRoute order table route
  | .removeRoute pointer => removeRoute table pointer
  | .doLongestPrefixMatch now dest => (doLongestPrefixMatch now dest table).map Prod.fst

def Step (order : RouteSort) (table : RoutingTable6) (call : Call) (next : RoutingTable6) : Prop :=
  perform order table call = .ok next

def emptyTable : RoutingTable6 where
  routeList := []
  created := 0

/-! ## The order of the routes -/

def Sorted (routes : List IPv6Route) : Prop :=
  routes.Pairwise fun a b => b.prefixLength ≤ a.prefixLength

theorem RouteSort.lengths (order : RouteSort) (routes : List IPv6Route) :
    Sorted (order.sort routes) := by
  refine (order.sorted _).imp ?_
  intro a b before
  by_contra longer
  have different : b.prefixLength ≠ a.prefixLength := by
    intro same
    exact longer same.le
  rw [routeLessThan, if_pos different, decide_eq_false_iff_not] at before
  exact longer (not_lt.mp before)

theorem Sorted.erase (sorted : Sorted routes) (index : Nat) : Sorted (routes.eraseIdx index) :=
  Pairwise.sublist (eraseIdx_sublist ..) sorted

theorem map_modify {Value : Type} {field : IPv6Route → Value} {routes : List IPv6Route}
    (index : Nat) {change : IPv6Route → IPv6Route}
    (keeps : ∀ route, field (change route) = field route) :
    (routes.modify index change).map field = routes.map field := by
  induction routes generalizing index with
  | nil => simp
  | cons _ _ hypothesis =>
    cases index with
    | zero => simp [keeps]
    | succ _ => simp [hypothesis]

theorem Sorted.update (sorted : Sorted routes) (index : Nat)
    (keeps : ∀ route, (change route).prefixLength = route.prefixLength) :
    Sorted (routes.modify index change) := by
  rw [Sorted, ← pairwise_map (f := IPv6Route.prefixLength) (R := fun a b => b ≤ a)] at sorted ⊢
  rwa [map_modify _ keeps]

/-! ## What a lookup takes out -/

/-- An unexpired route for a destination. -/
def live (now : Int) (dest : IPv6Address) (route : IPv6Route) : Bool :=
  route.covers dest && !route.expired now

section

theorem lookupFrom_sublist
    (done : lookupFrom now dest steps index routes = .ok (last, found)) : last.Sublist routes := by
  induction steps generalizing index routes with
  | zero =>
    cases done
    exact Sublist.refl _
  | succ _ hypothesis =>
    rw [lookupFrom] at done
    split at done
    · cases done
      exact Sublist.refl _
    · split_ifs at done
      · split at done
        · exact hypothesis done
        · split_ifs at done
          exact (hypothesis done).trans (eraseIdx_sublist ..)
      · cases done
        exact Sublist.refl _
      · exact hypothesis done

theorem lookupFrom_mem
    (done : lookupFrom now dest steps index routes = .ok (last, some route)) : route ∈ routes := by
  induction steps generalizing index routes with
  | zero => cases done
  | succ _ hypothesis =>
    rw [lookupFrom] at done
    split at done
    · cases done
    · case _ found =>
        split_ifs at done
        · split at done
          · exact hypothesis done
          · split_ifs at done
            exact mem_of_mem_eraseIdx (hypothesis done)
        · cases done
          exact mem_of_getElem? found
        · exact hypothesis done

theorem lookup_sublist (done : doLongestPrefixMatch now dest table = .ok (last, found)) :
    last.routeList.Sublist table.routeList := by
  unfold doLongestPrefixMatch at done
  cases scanned : lookupFrom now dest table.routeList.length 0 table.routeList with
  | error _ =>
    rw [scanned] at done
    cases done
  | ok _ =>
    rw [scanned] at done
    cases done
    exact lookupFrom_sublist scanned

theorem lookup_mem (done : doLongestPrefixMatch now dest table = .ok (last, some route)) :
    route ∈ table.routeList := by
  unfold doLongestPrefixMatch at done
  cases scanned : lookupFrom now dest table.routeList.length 0 table.routeList with
  | error _ =>
    rw [scanned] at done
    cases done
  | ok result =>
    rcases result with ⟨_, _⟩
    rw [scanned] at done
    cases done
    exact lookupFrom_mem scanned

end

/-! ## The order in every run -/

theorem addOrUpdatePrefix_sorted (src : RouteSrc) (order : RouteSort)
    (sorted : Sorted table.routeList)
    (destPrefix : IPv6Address) (prefixLength : PrefixLength) (interfaceId expiryTime : Int) :
    Sorted (addOrUpdatePrefix src order table destPrefix prefixLength
      interfaceId expiryTime).routeList := by
  unfold addOrUpdatePrefix
  split
  · exact order.lengths _
  · exact sorted.update _ fun _ => rfl

theorem step_sorted {next : RoutingTable6} (sorted : Sorted table.routeList)
    (step : Step order table call next) : Sorted next.routeList := by
  cases call with
  | addOrUpdateOnLinkPrefix _ _ _ _ =>
    cases step
    exact addOrUpdatePrefix_sorted _ _ sorted ..
  | addOrUpdateOwnAdvPrefix _ _ _ _ =>
    cases step
    exact addOrUpdatePrefix_sorted _ _ sorted ..
  | removeOnLinkPrefix _ _ =>
    cases step
    unfold removeOnLinkPrefix
    split
    · exact sorted
    · exact sorted.erase _
  | addStaticRoute _ _ _ _ _ =>
    cases step
    exact order.lengths _
  | addDefaultRoute _ _ _ =>
    cases step
    exact order.lengths _
  | addRoutingProtocolRoute _ =>
    dsimp only [Step, perform, addRoutingProtocolRoute] at step
    split_ifs at step
    cases step
    exact order.lengths _
  | removeRoute _ =>
    dsimp only [Step, perform, removeRoute] at step
    split at step
    · cases step
      exact sorted.erase _
    · cases step
  | doLongestPrefixMatch now dest =>
    dsimp only [Step, perform] at step
    cases looked : doLongestPrefixMatch now dest table with
    | error _ =>
      rw [looked] at step
      cases step
    | ok _ =>
      rw [looked] at step
      cases step
      exact Pairwise.sublist (lookup_sublist looked) sorted

theorem run_sorted (ran : Run (Step order) emptyTable calls last) : Sorted last.routeList :=
  let ordered := fun table : RoutingTable6 => Sorted table.routeList
  Run.invariant (fun table _ _ (sorted : ordered table) step => step_sorted sorted step)
    ran Pairwise.nil

/-! ## The scan -/

section

variable {keep : IPv6Route → Bool} {routes : List IPv6Route} {index : Nat} {route : IPv6Route}
    (stands : routes[index]? = some route)
include stands

theorem filter_eraseIdx
    (dropped : keep route = false) : (routes.eraseIdx index).filter keep = routes.filter keep := by
  induction routes generalizing index with
  | nil => simp at stands
  | cons _ _ hypothesis =>
    cases index with
    | zero =>
      cases stands
      simp [dropped]
    | succ _ =>
      simp only [eraseIdx_cons_succ, filter_cons]
      rw [hypothesis (by simpa using stands)]

theorem length_filter_eraseIdx (kept : keep route = true) :
    ((routes.eraseIdx index).filter keep).length < (routes.filter keep).length := by
  induction routes generalizing index with
  | nil => simp at stands
  | cons _ _ hypothesis =>
    cases index with
    | zero =>
      cases stands
      simp [kept]
    | succ _ =>
      have shorter := hypothesis (by simpa using stands)
      simp only [eraseIdx_cons_succ, filter_cons]
      split
      · simpa using shorter
      · exact shorter

end

/-- What an expired route must not make the lookup erase. -/
def unexpired (now : Int) (route : IPv6Route) : Bool :=
  !route.expired now

/--
The routes that the scan has passed and those ahead of it.  Where it comes to
an expired match, the first on-link route for its prefix, if there is one, is
an expired route ahead.
-/
inductive Undisturbed (now : Int) (dest : IPv6Address) :
    List IPv6Route → List IPv6Route → Prop where
  | finished (passed : List IPv6Route) : Undisturbed now dest passed []
  | other {passed ahead : List IPv6Route} {route : IPv6Route}
      (elsewhere : route.covers dest = false)
      (further : Undisturbed now dest (passed ++ [route]) ahead) :
      Undisturbed now dest passed (route :: ahead)
  | found {passed ahead : List IPv6Route} {route : IPv6Route}
      (covers : route.covers dest = true) (fresh : route.expired now = false) :
      Undisturbed now dest passed (route :: ahead)
  | left {passed ahead : List IPv6Route} {route : IPv6Route}
      (covers : route.covers dest = true) (stale : route.expired now = true)
      (none : onLinkIndex (passed ++ route :: ahead) route.destPrefix route.prefixLength = none)
      (further : Undisturbed now dest (passed ++ [route]) ahead) :
      Undisturbed now dest passed (route :: ahead)
  | erased {passed ahead : List IPv6Route} {route later : IPv6Route}
      {index : Nat} (covers : route.covers dest = true) (stale : route.expired now = true)
      (first : onLinkIndex (passed ++ route :: ahead) route.destPrefix
        route.prefixLength = some (passed.length + 1 + index))
      (stands : ahead[index]? = some later)
      (staleToo : later.expired now = true)
      (further : Undisturbed now dest (passed ++ [route]) (ahead.eraseIdx index)) :
      Undisturbed now dest passed (route :: ahead)

theorem getElem?_here (passed ahead : List IPv6Route) (route : IPv6Route) :
    (passed ++ route :: ahead)[passed.length]? = some route := by
  simp

theorem eraseIdx_ahead (passed ahead : List IPv6Route) (route : IPv6Route) (index : Nat) :
    (passed ++ route :: ahead).eraseIdx (passed.length + 1 + index) =
      passed ++ [route] ++ ahead.eraseIdx index := by
  rw [append_cons, eraseIdx_append_of_length_le (by simp)]
  simp

theorem find?_eraseIdx {routes : List IPv6Route}
    (stands : routes[index]? = some route) (stale : route.expired now = true) :
    (routes.eraseIdx index).find? (live now dest) = routes.find? (live now dest) := by
  rw [← head?_filter, ← head?_filter, filter_eraseIdx stands (by simp [live, stale])]

theorem lookupFrom_found (undisturbed : Undisturbed now dest passed ahead)
    (enough : ahead.length ≤ steps) :
    ∃ last,
      lookupFrom now dest steps passed.length (passed ++ ahead) =
          .ok (last, ahead.find? (live now dest)) ∧
        last.filter (unexpired now) = (passed ++ ahead).filter (unexpired now) := by
  induction undisturbed generalizing steps with
  | finished passed =>
    refine ⟨passed ++ [], ?_, rfl⟩
    cases steps with
    | zero => rfl
    | succ _ =>
      rw [lookupFrom]
      simp
  | @other passed ahead route elsewhere further hypothesis =>
    cases steps with
    | zero => simp at enough
    | succ _ =>
      rcases hypothesis (Nat.le_of_succ_le_succ enough) with ⟨last, scanned, kept⟩
      refine ⟨last, ?_, ?_⟩
      · rw [lookupFrom, getElem?_here]
        dsimp only
        rw [if_neg (by simp [elsewhere]), find?_cons_of_neg (by simp [live, elsewhere])]
        simpa using scanned
      · simpa using kept
  | @found passed ahead route covers fresh =>
    cases steps with
    | zero => simp at enough
    | succ _ =>
      refine ⟨passed ++ route :: ahead, ?_, rfl⟩
      rw [lookupFrom, getElem?_here]
      dsimp only
      rw [if_pos covers, if_neg (by simp [fresh]),
        find?_cons_of_pos (by simp [live, covers, fresh])]
  | @left passed ahead route covers stale none further hypothesis =>
    cases steps with
    | zero => simp at enough
    | succ _ =>
      rcases hypothesis (Nat.le_of_succ_le_succ enough) with ⟨last, scanned, kept⟩
      refine ⟨last, ?_, ?_⟩
      · rw [lookupFrom, getElem?_here]
        dsimp only
        rw [if_pos covers, if_pos stale, none, find?_cons_of_neg (by simp [live, stale])]
        simpa using scanned
      · simpa using kept
  | @erased passed ahead route later index covers stale first stands staleToo further hypothesis =>
    cases steps with
    | zero => simp at enough
    | succ _ =>
      have shorter : (ahead.eraseIdx index).length ≤ ahead.length := length_eraseIdx_le _ _
      rcases hypothesis (shorter.trans (Nat.le_of_succ_le_succ enough)) with ⟨last, scanned, kept⟩
      refine ⟨last, ?_, ?_⟩
      · rw [lookupFrom, getElem?_here]
        dsimp only
        rw [if_pos covers, if_pos stale, first]
        dsimp only
        rw [if_neg (by omega), eraseIdx_ahead, find?_cons_of_neg (by simp [live, stale])]
        rw [find?_eraseIdx stands staleToo] at scanned
        simpa using scanned
      · have unchanged := @filter_eraseIdx (unexpired now) _ _ _ stands
          (by simp [unexpired, staleToo])
        rw [filter_append, unchanged, ← filter_append] at kept
        rwa [append_cons]

theorem onLinkIndex_ahead
    (first : onLinkIndex (passed ++ route :: ahead) destPrefix
      prefixLength = some (passed.length + 1 + index)) :
    ∃ later, ahead[index]? = some later := by
  have inside := (findIdx?_eq_some_iff_getElem.mp first).1
  simp only [length_append, length_cons] at inside
  exact ⟨_, getElem?_eq_getElem (by omega)⟩

theorem not_kept_of_erased {last : List IPv6Route}
    (part : last.Sublist (passed ++ [route] ++ ahead.eraseIdx index))
    (stands : ahead[index]? = some later) (fresh : unexpired now later = true) :
    last.filter (unexpired now) ≠ (passed ++ route :: ahead).filter (unexpired now) := by
  intro kept
  have most := (part.filter (unexpired now)).length_le
  have lost := length_filter_eraseIdx stands fresh
  rw [kept, append_cons, filter_append, filter_append (passed ++ [route])] at most
  simp only [length_append] at most
  omega

theorem undisturbed_of_lookupFrom {steps : Nat} {passed ahead last : List IPv6Route}
    {found : Option IPv6Route} (enough : ahead.length ≤ steps)
    (done : lookupFrom now dest steps passed.length (passed ++ ahead) = .ok (last, found))
    (kept : last.filter (unexpired now) = (passed ++ ahead).filter (unexpired now)) :
    Undisturbed now dest passed ahead := by
  induction steps generalizing passed ahead with
  | zero =>
    cases ahead with
    | nil => exact .finished _
    | cons _ _ => simp at enough
  | succ steps hypothesis =>
    cases ahead with
    | nil => exact .finished _
    | cons route ahead =>
      have fewer : ahead.length ≤ steps := Nat.le_of_succ_le_succ enough
      have regroup : passed ++ route :: ahead = passed ++ [route] ++ ahead := append_cons _ _ _
      have length : (passed ++ [route]).length = passed.length + 1 := by simp
      rw [lookupFrom, getElem?_here] at done
      dsimp only at done
      split_ifs at done with covers stale
      · split at done
        · case _ none =>
            refine .left covers stale none (hypothesis fewer ?_ ?_)
            · rwa [length, ← regroup]
            · rwa [← regroup]
        · case _ erased first =>
            split_ifs at done with early
            obtain ⟨index, rfl⟩ : ∃ index, erased = passed.length + 1 + index :=
              ⟨erased - (passed.length + 1), by omega⟩
            rw [eraseIdx_ahead] at done
            rcases onLinkIndex_ahead first with ⟨later, stands⟩
            have staleToo : later.expired now = true := by
              by_contra fresh
              exact not_kept_of_erased (lookupFrom_sublist done) stands
                (by simpa [unexpired] using fresh) kept
            have unchanged := @filter_eraseIdx (unexpired now) _ _ _
              stands (by simp [unexpired, staleToo])
            refine .erased covers stale first stands staleToo (hypothesis ?_ ?_ ?_)
            · exact (length_eraseIdx_le ahead index).trans fewer
            · rwa [length]
            · rwa [filter_append, unchanged, ← filter_append, ← regroup]
      · exact .found covers (by simpa using stale)
      · refine .other (by simpa using covers) (hypothesis fewer ?_ ?_)
        · rwa [length, ← regroup]
        · rwa [← regroup]

/-! ## The longest match -/

/-- What a lookup is to find among the routes. -/
structure LongestMatch (now : Int) (dest : IPv6Address)
    (routes : List IPv6Route) (found : Option IPv6Route) : Prop where
  none_iff : found = none ↔ ∀ route ∈ routes, live now dest route = false
  stands : ∀ route, found = some route → route ∈ routes
  fresh : ∀ route, found = some route → live now dest route = true
  longest :
    ∀ route, found = some route →
      ∀ other ∈ routes, live now dest other = true → other.prefixLength ≤ route.prefixLength
  cheapest :
    ∀ route, found = some route →
      ∀ other ∈ routes, live now dest other = true →
        other.prefixLength = route.prefixLength → route.givenMetric ≤ other.givenMetric

/-- The lookup finds the longest match and keeps all unexpired routes. -/
def Correct (now : Int) (dest : IPv6Address) (table : RoutingTable6) : Prop :=
  ∃ last found,
    doLongestPrefixMatch now dest table = .ok (last, found) ∧
      LongestMatch now dest table.routeList found ∧
      last.routeList.filter (unexpired now) = table.routeList.filter (unexpired now)

/--
No later match is as long as the first live one and was given a smaller
metric.
-/
def CheapestFirst (now : Int) (dest : IPv6Address) (routes : List IPv6Route) : Prop :=
  ∀ before route after,
    routes = before ++ route :: after →
      (∀ earlier ∈ before, live now dest earlier = false) → live now dest route = true →
      ∀ other ∈ after, live now dest other = true →
        other.prefixLength = route.prefixLength → route.givenMetric ≤ other.givenMetric

section

theorem longestMatch_find (sorted : Sorted routes) (cheapest : CheapestFirst now dest routes) :
    LongestMatch now dest routes (routes.find? (live now dest)) where
  none_iff := by simp
  stands route found := mem_of_find?_eq_some found
  fresh route found := find?_some found
  longest route found other listed fresh := by
    rcases find?_eq_some_iff_append.mp found with ⟨_, before, after, rfl, earlier⟩
    rcases mem_append.mp listed with passed | ahead
    · have dropped := earlier _ passed
      simp [fresh] at dropped
    · rcases mem_cons.mp ahead with rfl | later
      · exact le_rfl
      · have tail := (pairwise_append.mp sorted).2.1
        exact rel_of_pairwise_cons tail later
  cheapest route found other listed fresh same := by
    rcases find?_eq_some_iff_append.mp found with ⟨here, _, _, rfl, earlier⟩
    rcases mem_append.mp listed with passed | ahead
    · have dropped := earlier _ passed
      simp [fresh] at dropped
    · rcases mem_cons.mp ahead with rfl | later
      · exact le_rfl
      · exact cheapest _ _ _ rfl
          (fun route passed => by simpa using earlier route passed) here _ later fresh same

theorem doLongestPrefixMatch_found (undisturbed : Undisturbed now dest [] table.routeList) :
    ∃ last,
      doLongestPrefixMatch now dest table = .ok (last, table.routeList.find? (live now dest)) ∧
        last.routeList.filter (unexpired now) = table.routeList.filter (unexpired now) := by
  rcases lookupFrom_found undisturbed le_rfl with ⟨last, scanned, kept⟩
  refine ⟨{ table with routeList := last }, ?_, kept⟩
  have whole : lookupFrom now dest table.routeList.length 0
      table.routeList = .ok (last, table.routeList.find? (live now dest)) :=
    scanned
  rw [doLongestPrefixMatch, whole]
  rfl

theorem undisturbed_of_correct (correct : Correct now dest table) :
    Undisturbed now dest [] table.routeList := by
  rcases correct with ⟨_, _, done, -, kept⟩
  unfold doLongestPrefixMatch at done
  cases scanned : lookupFrom now dest table.routeList.length 0 table.routeList with
  | error _ =>
    rw [scanned] at done
    cases done
  | ok _ =>
    rw [scanned] at done
    cases done
    exact @undisturbed_of_lookupFrom _ _ _ [] _ _ _ le_rfl scanned kept

theorem cheapestFirst_of_correct (correct : Correct now dest table) :
    CheapestFirst now dest table.routeList := by
  rcases doLongestPrefixMatch_found (undisturbed_of_correct correct) with ⟨_, looked, -⟩
  rcases correct with ⟨_, _, done, longest, -⟩
  rw [looked] at done
  cases done
  intro _ _ _ split earlier here _ later fresh same
  refine longest.cheapest _ ?_ _ ?_ fresh same
  · rw [split, find?_append, find?_eq_none.mpr (by simpa using earlier)]
    simp [here]
  · rw [split]
    simp [later]

end

/--
After any sequence of calls a lookup is right if and only if the scan meets
only on-link routes ahead of it that have expired as well, and the first live
match was given the least metric of its length.
-/
theorem longest_prefix_match (order : RouteSort) (calls : List Call)
    (table : RoutingTable6) (ran : Run (Step order) emptyTable calls table)
    (now : Int) (dest : IPv6Address) :
    Correct now dest table ↔
      Undisturbed now dest [] table.routeList ∧ CheapestFirst now dest table.routeList := by
  constructor
  · intro correct
    exact ⟨undisturbed_of_correct correct, cheapestFirst_of_correct correct⟩
  · rintro ⟨undisturbed, cheapest⟩
    rcases doLongestPrefixMatch_found undisturbed with ⟨last, looked, kept⟩
    exact ⟨last, _, looked, longestMatch_find (run_sorted ran) cheapest, kept⟩

/-! ## Runs of two calls -/

/-- The order of the sort, in which `a` may stand before `b`. -/
def before (a b : IPv6Route) : Prop :=
  routeLessThan b a = false

instance : DecidableRel before :=
  fun a b => inferInstanceAs (Decidable (routeLessThan b a = false))

theorem before_iff (a b : IPv6Route) :
    before a b ↔
      b.prefixLength < a.prefixLength ∨ b.prefixLength = a.prefixLength ∧ a.metric ≤ b.metric := by
  unfold before routeLessThan
  split_ifs with different
  · simp only [decide_eq_false_iff_not, not_lt]
    constructor
    · intro longer
      exact .inl (lt_of_le_of_ne longer different)
    · rintro (longer | ⟨same, -⟩)
      · exact longer.le
      · exact absurd same different
  · push Not at different
    simp [different]

/-- Insertion sort, which keeps the order of equal routes. -/
def insertion : RouteSort where
  sort routes := routes.insertionSort before
  perm routes := routes.perm_insertionSort before
  sorted routes := by
    have total : Std.Total before := by
      constructor
      intro a b
      simp only [before_iff, Fin.lt_def, Fin.ext_iff]
      omega
    have transitive : IsTrans IPv6Route before := by
      constructor
      intro a b c
      simp only [before_iff, Fin.lt_def, Fin.ext_iff]
      omega
    exact routes.pairwise_insertionSort before

/-- The prefix 2001:db8::/64 and one of its addresses. -/
def network : IPv6Address := { d0 := 0x20010DB8 }

def host : IPv6Address := { d0 := 0x20010DB8, d3 := 1 }

def onlyRoute : RoutingTable6 :=
  addStaticRoute insertion emptyTable network 64 1 {} 10

def twoRoutes : RoutingTable6 :=
  addStaticRoute insertion onlyRoute network 64 2 {} 20

theorem run_two {middle last : RoutingTable6}
    (head : Step insertion emptyTable first middle) (tail : Step insertion middle second last) :
    Run (Step insertion) emptyTable [first, second] last :=
  .next head (.next tail (.idle _))

theorem longest_prefix_match_small :
    Correct 10 host twoRoutes ↔
      Undisturbed 10 host [] twoRoutes.routeList ∧ CheapestFirst 10 host twoRoutes.routeList :=
  longest_prefix_match _ [.addStaticRoute _ 64 1 {} 10, .addStaticRoute _ 64 2 {} 20]
    _ (@run_two _ _ _ _ rfl rfl) 10 _

/-- An own prefix that has expired, and the on-link prefix that has not. -/
def ownPrefix : RoutingTable6 :=
  addOrUpdateOwnAdvPrefix insertion emptyTable network 64 1 5

def bothPrefixes : RoutingTable6 :=
  addOrUpdateOnLinkPrefix insertion ownPrefix network 64 1 0

theorem live_prefix_erased :
    ¬∀ (order : RouteSort) (calls : List Call) (table : RoutingTable6),
      Run (Step order) emptyTable calls table →
        ∀ (now : Int) (dest : IPv6Address), Correct now dest table := by
  intro claim
  have ran :
      Run (Step insertion) emptyTable
        [.addOrUpdateOwnAdvPrefix network 64 1 5, .addOrUpdateOnLinkPrefix network 64 1 0]
        bothPrefixes :=
    @run_two _ _ _ _ rfl rfl
  rcases claim _ _ _ ran 10 _ with ⟨_, _, done, longest, -⟩
  have looked : (doLongestPrefixMatch 10 host bothPrefixes).map Prod.snd = .ok none := by decide
  rw [done] at looked
  cases looked
  have missed := longest.none_iff.mp rfl
  revert missed
  decide

/-! ## One route for a prefix -/

abbrev Key : Type := RouteSrc × IPv6Address × PrefixLength

def IPv6Route.key (route : IPv6Route) : Key :=
  (route.src, route.destPrefix, route.prefixLength)

/-- The prefixes that are received or sent, default routes apart. -/
def advertised (key : Key) : Bool :=
  key.1 = .OWN_ADV_PREFIX || key.1 = .FROM_RA && key.2 ≠ ({}, 0)

def prefixKeys (routes : List IPv6Route) : List Key :=
  (routes.map IPv6Route.key).filter advertised

theorem isPrefixOf_iff :
    isPrefixOf src destPrefix prefixLength route = true ↔
      route.key = (src, destPrefix, prefixLength) := by
  simp [isPrefixOf, IPv6Route.key, and_assoc]

theorem prefixKeys_addRoute (order : RouteSort) (route : IPv6Route) :
    (prefixKeys (addRoute order table route).routeList).Perm
      (prefixKeys table.routeList ++ prefixKeys [route]) := by
  unfold prefixKeys addRoute
  rw [← filter_append, ← map_append]
  exact ((order.perm _).map _).filter _

theorem addOrUpdatePrefix_once (order : RouteSort) (once : (prefixKeys table.routeList).Nodup)
    (src : RouteSrc) (destPrefix : IPv6Address) (prefixLength : PrefixLength)
    (interfaceId expiryTime : Int) :
    (prefixKeys (addOrUpdatePrefix src order table destPrefix prefixLength
      interfaceId expiryTime).routeList).Nodup := by
  unfold addOrUpdatePrefix
  split
  case h_1 absent =>
    rw [(prefixKeys_addRoute _ _).nodup_iff]
    refine once.append ((nodup_singleton _).filter _) ?_
    intro key listed new
    rcases mem_map.mp (mem_of_mem_filter listed) with ⟨route, member, rfl⟩
    have same : route.key = (src, destPrefix, prefixLength) :=
      mem_singleton.mp (mem_of_mem_filter new)
    have other := findIdx?_eq_none_iff.mp absent _ member
    exact absurd (isPrefixOf_iff.mpr same) (by simpa using other)
  case h_2 =>
    rwa [prefixKeys, map_modify]
    exact fun _ => rfl

theorem step_once {next : RoutingTable6} (once : (prefixKeys table.routeList).Nodup)
    (step : Step order table call next) : (prefixKeys next.routeList).Nodup := by
  have part {routes : List IPv6Route} (part : routes.Sublist table.routeList) :
      (prefixKeys routes).Nodup :=
    once.sublist ((part.map _).filter _)
  have add {route : IPv6Route} (plain : prefixKeys [route] = []) :
      (prefixKeys (addRoute order table route).routeList).Nodup := by
    rwa [(prefixKeys_addRoute _ _).nodup_iff, plain, append_nil]
  cases call with
  | addOrUpdateOnLinkPrefix _ _ _ _ =>
    cases step
    exact addOrUpdatePrefix_once _ once ..
  | addOrUpdateOwnAdvPrefix _ _ _ _ =>
    cases step
    exact addOrUpdatePrefix_once _ once ..
  | removeOnLinkPrefix _ _ =>
    cases step
    unfold removeOnLinkPrefix
    split
    · exact once
    · exact part (eraseIdx_sublist ..)
  | addStaticRoute _ _ _ _ _ =>
    cases step
    exact add rfl
  | addDefaultRoute _ _ _ =>
    cases step
    exact add rfl
  | addRoutingProtocolRoute route =>
    dsimp only [Step, perform, addRoutingProtocolRoute] at step
    split_ifs at step with protocol
    cases step
    exact add (by simp [prefixKeys, advertised, IPv6Route.key, protocol])
  | removeRoute _ =>
    dsimp only [Step, perform, removeRoute] at step
    split at step
    · cases step
      exact part (eraseIdx_sublist ..)
    · cases step
  | doLongestPrefixMatch now dest =>
    rcases map_eq_ok.mp step with ⟨_, looked, rfl⟩
    exact part (lookup_sublist looked)

/-- A prefix that is removed is gone. -/
theorem removeOnLinkPrefix_gone (once : (prefixKeys table.routeList).Nodup)
    (named : (destPrefix, prefixLength) ≠ ({}, 0)) :
    (.FROM_RA, destPrefix, prefixLength) ∉
      (removeOnLinkPrefix table destPrefix prefixLength).routeList.map IPv6Route.key := by
  have own : advertised (.FROM_RA, destPrefix, prefixLength) = true := decide_eq_true named
  unfold removeOnLinkPrefix
  split
  case h_1 absent =>
    intro listed
    rcases mem_map.mp listed with ⟨route, member, same⟩
    have other := findIdx?_eq_none_iff.mp absent _ member
    exact absurd (isPrefixOf_iff.mpr same) (by simpa using other)
  case h_2 index found =>
    intro listed
    rcases findIdx?_eq_some_iff_getElem.mp found with ⟨inside, here, -⟩
    have split : (table.routeList.map IPv6Route.key).Perm
        (table.routeList[index].key :: (table.routeList.eraseIdx index).map IPv6Route.key) :=
      ((getElem_cons_eraseIdx_perm inside).map _).symm
    rw [prefixKeys, (split.filter _).nodup_iff, isPrefixOf_iff.mp here,
      filter_cons_of_pos own] at once
    exact (nodup_cons.mp once).1 (mem_filter.mpr ⟨listed, own⟩)

end OmnetDsi.Ipv6.RoutingTables
