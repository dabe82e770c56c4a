import Mathlib.Algebra.BigOperators.Group.List.Basic
import Mathlib.Algebra.Order.Group.Multiset
import OmnetDsi.Ipv6.AddressResolution

/-!
# The prefix options of an advertisement

Each option says on its own what becomes of the on-link route for its prefix
and length.  The loop over the options ends early: at one that is not on-link,
where the comment says that the next option follows, at a link-local prefix
and after a removal.  The options behind are lost.
-/

namespace OmnetDsi.Ipv6.PrefixOptions

open Contract.IPv6Addresses Ipv6.AddressResolution Ipv6.NeighbourDiscovery Ipv6.RoutingTables
open OmnetDsi.Ipv6.HopLimits (isLinkLocal)

/-! ## What an option says -/

abbrev Key : Type := IPv6Address × PrefixLength

def key (prefixInfo : IPv6NDPrefixInformation) : Key :=
  (prefixInfo.address, prefixInfo.prefixLength)

/-- A route from an advertisement for the prefix, by interface and expiry. -/
def entry (sought : Key) (route : IPv6Route) : Multiset (Int × Int) :=
  if isPrefixOf .FROM_RA sought.1 sought.2 route then {(route.interfaceId, route.expiryTime)} else 0

def learned (table : RoutingTable6) (sought : Key) : Multiset (Int × Int) :=
  (table.routeList.map (entry sought)).sum

section Options

variable (node : Node) (now interfaceId : Int)

/-- The valid lifetime, in clock ticks. -/
def lifetime (prefixInfo : IPv6NDPrefixInformation) : Nat :=
  prefixInfo.validLifetime.toNat * node.second

/-- What is to be known of the prefix, if the option is not ignored. -/
def said (prefixInfo : IPv6NDPrefixInformation) : Option (Multiset (Int × Int)) :=
  if prefixInfo.onlinkFlag && !isLinkLocal prefixInfo.address then
    some (if lifetime node prefixInfo = 0 then 0
      else {(interfaceId, now + lifetime node prefixInfo)})
  else none

/-- What is claimed of the result, whatever the order of the options. -/
structure AsClaimed (options : List IPv6NDPrefixInformation) (table result : RoutingTable6) :
    Prop where
  named : ∀ prefixInfo ∈ options, learned result (key prefixInfo) =
    (said node now interfaceId prefixInfo).getD (learned table (key prefixInfo))
  other : ∀ sought ∉ options.map key, learned result sought = learned table sought

/-- What the option says is the case already. -/
def Settled (table : RoutingTable6) (prefixInfo : IPv6NDPrefixInformation) : Prop :=
  learned table (key prefixInfo) =
    (said node now interfaceId prefixInfo).getD (learned table (key prefixInfo))

/-- An option that ends the loop, with those that it comes after. -/
def Ends (table : RoutingTable6) (earlier : List IPv6NDPrefixInformation)
    (prefixInfo : IPv6NDPrefixInformation) : Prop :=
  match said node now interfaceId prefixInfo with
  | none => True
  | some _ =>
    lifetime node prefixInfo = 0 ∧
      (prefixInfo.address ∈ table.routeList.map IPv6Route.destPrefix ∨
        ∃ other ∈ earlier, other.address = prefixInfo.address ∧ lifetime node other ≠ 0)

/--
Behind an option that ends the loop there is none that would change anything,
and no prefix that an option is about has two routes from advertisements.
-/
structure NothingLost (table : RoutingTable6) (options : List IPv6NDPrefixInformation) : Prop where
  behind : ∀ earlier prefixInfo later, options = earlier ++ prefixInfo :: later →
    Ends node now interfaceId table earlier prefixInfo →
      ∀ other ∈ later, Settled node now interfaceId table other
  single : ∀ prefixInfo ∈ options, said node now interfaceId prefixInfo ≠ none →
    (learned table (key prefixInfo)).card ≤ 1

/-! ## One option -/

/-- The option by itself. -/
def applyOption (table : RoutingTable6) (prefixInfo : IPv6NDPrefixInformation) : RoutingTable6 :=
  match said node now interfaceId prefixInfo with
  | none => table
  | some _ =>
    if lifetime node prefixInfo = 0 then
      removeOnLinkPrefix table prefixInfo.address prefixInfo.prefixLength
    else
      addOrUpdateOnLinkPrefix node.order table prefixInfo.address prefixInfo.prefixLength
        interfaceId (now + lifetime node prefixInfo)

end Options

variable {table : RoutingTable6} {sought : Key}

theorem matches_last {other : IPv6Address} :
    address.matches other (Fin.last 128) = true ↔ address = other := by
  have mask : constructMask (Fin.last 128) = ⟨BitVec.allOnes 32, BitVec.allOnes 32,
      BitVec.allOnes 32, BitVec.allOnes 32⟩ := by
    decide
  rcases address with ⟨_, _, _, _⟩
  rcases other with ⟨_, _, _, _⟩
  simp only [IPv6Address.matches, mask, BitVec.and_allOnes]
  simp [and_assoc]

theorem isPrefixPresent_iff :
    isPrefixPresent table address = true ↔ address ∈ table.routeList.map IPv6Route.destPrefix := by
  simp only [isPrefixPresent, List.any_eq_true, matches_last, List.mem_map, @eq_comm _ address]

theorem isPrefixOf_key (found : isPrefixOf .FROM_RA sought.1 sought.2 route = true) :
    (route.destPrefix, route.prefixLength) = sought := by
  simp only [isPrefixOf, Bool.and_eq_true, decide_eq_true_eq] at found
  exact Prod.ext found.1.2 found.2

theorem entry_other (found : isPrefixOf .FROM_RA other.1 other.2 route = true)
    (different : sought ≠ other) : entry sought route = 0 := by
  refine if_neg fun here => different ?_
  exact (isPrefixOf_key here).symm.trans (isPrefixOf_key found)

theorem learned_found (found : onLinkIndex table.routeList sought.1 sought.2 = some index) :
    ∃ route ∈ table.routeList, isPrefixOf .FROM_RA sought.1 sought.2 route = true ∧
      ∃ rest : Key → Multiset (Int × Int), ∀ other,
        learned table other = entry other route + rest other ∧
        learned { table with routeList := table.routeList.eraseIdx index } other = rest other ∧
        ∀ update, learned { table with routeList := table.routeList.modify index update } other =
          entry other (update route) + rest other := by
  rcases List.findIdx?_eq_some_iff_getElem.mp found with ⟨bound, here, _⟩
  have split := (table.routeList.take_append_drop index).symm
  rw [List.drop_eq_getElem_cons _] at split
  have parts : ∀ other route, ((table.routeList.take index ++
      route :: table.routeList.drop (index + 1)).map (entry other)).sum =
      entry other route + ((table.routeList.eraseIdx index).map (entry other)).sum := by
    intro other route
    rw [List.eraseIdx_eq_take_drop_succ]
    simp only [List.map_append, List.map_cons, List.sum_append, List.sum_cons]
    exact add_left_comm _ _ _
  refine ⟨_, List.getElem_mem _, here, _, fun other => ⟨?_, rfl, fun update => ?_⟩⟩
  · exact (congrArg (fun routes => (routes.map (entry other)).sum) split).trans (parts _ _)
  · refine Eq.trans ?_ (parts _ _)
    rw [← List.modify_eq_take_cons_drop _]
    rfl

theorem learned_none (none : onLinkIndex table.routeList sought.1 sought.2 = none) :
    learned table sought = 0 := by
  refine List.sum_eq_zero ?_
  intro what member
  rcases List.mem_map.mp member with ⟨route, listed, rfl⟩
  exact if_neg (by simpa using List.findIdx?_eq_none_iff.mp none route listed)

theorem learned_addRoute (order : RouteSort) (route : IPv6Route) :
    learned (addRoute order table route) sought = learned table sought + entry sought route := by
  refine ((order.perm _).map _).sum_eq.trans ?_
  rw [List.map_append, List.sum_append, List.map_singleton, List.sum_singleton]
  rfl

/-! ## One option -/

section One

/-- The prefix of the option has what the option says, if it had one route at most. -/
theorem applyOption_own (told : said node now interfaceId prefixInfo = some what) :
    learned (applyOption node now interfaceId table prefixInfo) (key prefixInfo) = what ↔
      (learned table (key prefixInfo)).card ≤ 1 := by
  unfold said at told
  split_ifs at told with heeded gone
  · cases told
    rw [applyOption, said, removeOnLinkPrefix, if_pos heeded]
    dsimp only
    rw [if_pos gone]
    split
    case h_1 none => simp [@learned_none _ (key _) none]
    case h_2 index found =>
      rcases @learned_found _ (key _) _ found with ⟨route, -, here, rest, parts⟩
      rw [(parts _).1, (parts _).2.1]
      simp [entry, here]
  · cases told
    rw [applyOption, said, addOrUpdateOnLinkPrefix, addOrUpdatePrefix, if_pos heeded]
    dsimp only
    rw [if_neg gone]
    split
    case h_1 none =>
      rw [learned_addRoute, @learned_none _ (key _) none]
      simp [entry, isPrefixOf, key, IPv6Route.setMetric]
    case h_2 index found =>
      rcases @learned_found _ (key _) _ found with ⟨route, -, here, rest, parts⟩
      rw [(parts _).1, (parts _).2.2]
      have changed : isPrefixOf .FROM_RA (key prefixInfo).1 (key prefixInfo).2
          { route with interfaceId, expiryTime := now + lifetime node prefixInfo } = true := here
      rw [entry, if_pos changed, entry, if_pos here, add_eq_left]
      simp

theorem applyOption_other (different : sought ≠ key prefixInfo) :
    learned (applyOption node now interfaceId table prefixInfo) sought = learned table sought := by
  unfold applyOption
  split
  · rfl
  · split
    · unfold removeOnLinkPrefix
      split
      · rfl
      case h_2 index found =>
        rcases @learned_found _ (key _) _ found with ⟨route, -, here, rest, parts⟩
        rw [(parts _).1, (parts _).2.1, entry_other here different, zero_add]
    · unfold addOrUpdateOnLinkPrefix addOrUpdatePrefix
      split
      · rw [learned_addRoute, @entry_other _ _ _ _ different, add_zero]
        simp [isPrefixOf, key, IPv6Route.setMetric]
      case h_2 index found =>
        rcases @learned_found _ (key _) _ found with ⟨route, -, here, rest, parts⟩
        rwa [(parts _).1, (parts _).2.2, entry_other here different, entry_other ?_ different]

theorem listed_of_found (found : onLinkIndex table.routeList sought.1 sought.2 = some index) :
    sought.1 ∈ table.routeList.map IPv6Route.destPrefix := by
  rcases learned_found found with ⟨route, listed, here, -⟩
  rw [← isPrefixOf_key here]
  exact List.mem_map_of_mem listed

/-- Which prefixes are there after an option that does not end the loop. -/
theorem applyOption_present (continues : ¬Ends node now interfaceId table [] prefixInfo)
    (address : IPv6Address) :
    address ∈
        (applyOption node now interfaceId table prefixInfo).routeList.map IPv6Route.destPrefix ↔
      address ∈ table.routeList.map IPv6Route.destPrefix ∨
        prefixInfo.address = address ∧ lifetime node prefixInfo ≠ 0 := by
  unfold Ends at continues
  unfold applyOption
  split at continues
  · exact absurd trivial continues
  · by_cases gone : lifetime node prefixInfo = 0
    · rw [if_pos gone, or_iff_left fun both => both.2 gone]
      unfold removeOnLinkPrefix
      split
      · rfl
      case h_2 index found =>
        exact absurd ⟨gone, .inl (@listed_of_found _ (key _) _ found)⟩ continues
    · rw [if_neg gone, and_iff_left gone]
      unfold addOrUpdateOnLinkPrefix addOrUpdatePrefix
      split
      · rw [addRoute, ((node.order.perm _).map _).mem_iff, List.map_append, List.mem_append]
        rw [List.map_singleton, List.mem_singleton, eq_comm]
        rfl
      case h_2 index found =>
        have listed := @listed_of_found _ (key _) _ found
        rw [map_modify, or_iff_left_of_imp]
        · rintro rfl
          exact listed
        · exact fun _ => rfl

theorem removeOnLinkPrefix_absent (absent : isPrefixPresent table address = false) :
    removeOnLinkPrefix table address length = table := by
  unfold removeOnLinkPrefix
  split
  · rfl
  case h_2 index found =>
    have listed := @listed_of_found _ (address, length) _ found
    rw [← isPrefixPresent_iff, absent] at listed
    cases listed

theorem processRAPrefixInfo_cons (rest : List IPv6NDPrefixInformation) :
    Ends node now interfaceId table [] prefixInfo ∧
        processRAPrefixInfo node now interfaceId (prefixInfo :: rest) table =
          applyOption node now interfaceId table prefixInfo ∨
      ¬Ends node now interfaceId table [] prefixInfo ∧
        processRAPrefixInfo node now interfaceId (prefixInfo :: rest) table =
          processRAPrefixInfo node now interfaceId rest
            (applyOption node now interfaceId table prefixInfo) := by
  simp only [Ends, List.not_mem_nil, false_and, exists_false, or_false, ← isPrefixPresent_iff]
  dsimp only [processRAPrefixInfo, applyOption, said, lifetime]
  cases present : isPrefixPresent table prefixInfo.address with
  | false =>
    have fixed := @removeOnLinkPrefix_absent _ _ prefixInfo.prefixLength present
    split_ifs
    all_goals simp_all
  | true =>
    split_ifs
    all_goals simp_all

end One

/-! ## The loop -/

theorem processRAPrefixInfo_other (unnamed : sought ∉ options.map key) :
    learned (processRAPrefixInfo node now interfaceId options table) sought =
      learned table sought := by
  induction options generalizing table with
  | nil => rfl
  | cons prefixInfo rest induction =>
    rw [List.map_cons, List.mem_cons, not_or] at unnamed
    rcases processRAPrefixInfo_cons _ with ⟨_, ended⟩ | ⟨_, continued⟩
    · rw [ended]
      exact applyOption_other unnamed.1
    · rw [continued]
      exact (induction unnamed.2).trans (applyOption_other unnamed.1)

section Lists

theorem applyOption_iff :
    learned (applyOption node now interfaceId table prefixInfo) (key prefixInfo) =
        (said node now interfaceId prefixInfo).getD (learned table (key prefixInfo)) ↔
      (said node now interfaceId prefixInfo ≠ none →
        (learned table (key prefixInfo)).card ≤ 1) := by
  cases told : said node now interfaceId prefixInfo with
  | none => simp [applyOption, told]
  | some what => simp [applyOption_own told]

theorem Settled.card (settled : Settled node now interfaceId table prefixInfo)
    (heeded : said node now interfaceId prefixInfo ≠ none) :
    (learned table (key prefixInfo)).card ≤ 1 := by
  unfold Settled at settled
  unfold said at settled heeded
  split_ifs at settled heeded
  · rw [settled]
    exact Nat.zero_le _
  · rw [settled]
    exact Nat.le_refl _
  · exact absurd rfl heeded

theorem settled_apply (different : key prefixInfo ≠ key other) :
    Settled node now interfaceId (applyOption node now interfaceId table other) prefixInfo ↔
      Settled node now interfaceId table prefixInfo := by
  unfold Settled
  rw [applyOption_other different]

theorem ends_apply (continues : ¬Ends node now interfaceId table [] prefixInfo)
    (earlier : List IPv6NDPrefixInformation) (other : IPv6NDPrefixInformation) :
    Ends node now interfaceId (applyOption node now interfaceId table prefixInfo) earlier other ↔
      Ends node now interfaceId table (prefixInfo :: earlier) other := by
  unfold Ends
  split
  · rfl
  · rw [applyOption_present continues]
    simp only [List.exists_mem_cons_iff, or_assoc]

theorem nothingLost_ends (ends : Ends node now interfaceId table [] prefixInfo) :
    NothingLost node now interfaceId table (prefixInfo :: options) ↔
      (said node now interfaceId prefixInfo ≠ none → (learned table (key prefixInfo)).card ≤ 1) ∧
        ∀ other ∈ options, Settled node now interfaceId table other := by
  constructor
  · intro nothing
    exact ⟨nothing.single _ List.mem_cons_self, nothing.behind [] _ _ rfl ends⟩
  · rintro ⟨own, settled⟩
    refine ⟨?_, List.forall_mem_cons.mpr ⟨own, fun other member => (settled _ member).card⟩⟩
    intro earlier _ later split _ other member
    refine settled _ ?_
    cases earlier with
    | nil =>
      cases split
      exact member
    | cons _ _ =>
      cases split
      exact List.mem_append_right _ (List.mem_cons_of_mem _ member)

theorem nothingLost_continues (continues : ¬Ends node now interfaceId table [] prefixInfo)
    (distinct : key prefixInfo ∉ options.map key) :
    NothingLost node now interfaceId table (prefixInfo :: options) ↔
      (said node now interfaceId prefixInfo ≠ none → (learned table (key prefixInfo)).card ≤ 1) ∧
        NothingLost node now interfaceId (applyOption node now interfaceId table prefixInfo)
          options := by
  have different : ∀ other ∈ options, key other ≠ key prefixInfo := by
    intro other member same
    exact distinct (same ▸ List.mem_map_of_mem member)
  constructor
  · intro nothing
    refine ⟨nothing.single _ List.mem_cons_self, ?_, ?_⟩
    · intro earlier other later split ends last member
      rw [settled_apply (different _ (by simp [split, member]))]
      refine nothing.behind (prefixInfo :: earlier) _ _ (congrArg _ split) ?_ _ member
      exact (ends_apply continues _ _).mp ends
    · intro other member
      rw [applyOption_other (different _ member)]
      exact nothing.single _ (List.mem_cons_of_mem _ member)
  · rintro ⟨own, nothing⟩
    refine ⟨?_, List.forall_mem_cons.mpr ⟨own, ?_⟩⟩
    · intro earlier other later split ends last member
      cases earlier with
      | nil =>
        cases split
        exact absurd ends continues
      | cons _ earlier =>
        cases split
        rw [← settled_apply (different _ (by simp [member]))]
        exact nothing.behind _ _ _ rfl ((ends_apply continues _ _).mpr ends) _ member
    · intro other member
      rw [← applyOption_other (different _ member)]
      exact nothing.single _ member

/--
The result is as claimed exactly if nothing behind the option that ends the
loop is lost, and no prefix in question has two routes from advertisements.
-/
theorem asClaimed_iff (distinct : (options.map key).Nodup) :
    AsClaimed node now interfaceId options table
        (processRAPrefixInfo node now interfaceId options table) ↔
      NothingLost node now interfaceId table options := by
  have named : (∀ prefixInfo ∈ options,
      learned (processRAPrefixInfo node now interfaceId options table) (key prefixInfo) =
        (said node now interfaceId prefixInfo).getD (learned table (key prefixInfo))) ↔
      NothingLost node now interfaceId table options := by
    induction options generalizing table with
    | nil =>
      refine iff_of_true nofun ⟨?_, nofun⟩
      intro earlier _ _ split
      simp at split
    | cons prefixInfo rest induction =>
      rw [List.map_cons, List.nodup_cons] at distinct
      have different : ∀ other ∈ rest, key other ≠ key prefixInfo := by
        intro other member same
        exact distinct.1 (same ▸ List.mem_map_of_mem member)
      rw [List.forall_mem_cons]
      rcases @processRAPrefixInfo_cons _ _ _ _ _ _ with ⟨ends, ended⟩ | ⟨continues, continued⟩
      · rw [nothingLost_ends ends, ended, applyOption_iff]
        refine and_congr_right fun _ => forall₂_congr fun other member => ?_
        rw [applyOption_other (different _ member)]
        rfl
      · rw [nothingLost_continues continues distinct.1, continued, ← induction distinct.2,
          processRAPrefixInfo_other distinct.1, applyOption_iff]
        refine and_congr_right fun _ => forall₂_congr fun other member => ?_
        rw [applyOption_other (different _ member)]
  exact ⟨fun claimed => named.mp claimed.named,
    fun nothing => ⟨named.mpr nothing, fun _ => processRAPrefixInfo_other⟩⟩

end Lists

/-! ## Two options -/

theorem lasting_length : 64 < 129 := by
  decide

def lasting : IPv6NDPrefixInformation where
  prefixLength := ⟨64, lasting_length⟩
  onlinkFlag := true
  validLifetime := 30
  address := ownAddress

def offLink : IPv6NDPrefixInformation :=
  { lasting with prefixLength := Fin.last 128, onlinkFlag := false }

theorem lasting_claimed :
    AsClaimed someHost 0 1 [lasting, offLink] emptyTable
      (processRAPrefixInfo someHost 0 1 [lasting, offLink] emptyTable) := by
  refine (asClaimed_iff (by decide)).mpr ⟨?_, by decide⟩
  intro earlier option later split ends
  cases earlier with
  | nil =>
    cases split
    exact absurd ends.1 (by decide)
  | cons _ _ =>
    have short := congrArg List.length split
    simp only [List.length_cons, List.length_append, List.length_nil] at short
    rw [List.eq_nil_of_length_eq_zero (show later.length = 0 by omega)]
    exact nofun

/-- The second option is lost behind the first. -/
theorem lasting_lost :
    ¬AsClaimed someHost 0 1 [offLink, lasting] emptyTable
      (processRAPrefixInfo someHost 0 1 [offLink, lasting] emptyTable) := by
  intro claimed
  have known := claimed.named lasting (by decide)
  revert known
  decide

end OmnetDsi.Ipv6.PrefixOptions
