import OmnetDsi.Ospf.RoutingTable

/-!
# Summary LSAs and their refresh

An area border router originates a summary LSA for a routing table entry of
another area.  When the LSA has become old, `AgeDatabase` looks for the entry
again and originates it once more, or else flushes the LSA.

In the search `destID & lsaMask == linkStateID & lsaMask` the comparison binds
tighter than the conjunctions.  A network LSA is therefore found again only
under a mask that is its link state ID and odd.
-/

namespace OmnetDsi.Ospf.SummaryRefresh

open Ospf.RoutingTable

def LS_INFINITY : Nat := 16777215

def MAX_AGE : Nat := 3600

def INITIAL_SEQUENCE_NUMBER : Int := -2147483647

def MAX_SEQUENCE_NUMBER : Int := 2147483647

def BackboneAreaID : Address := 0

/-! ## LSAs, routers and areas -/

/-- An LSA from which an entry originates. -/
structure OriginLSA where
  advertisingRouter : Address
  lsAge : Nat := 0
  /-- The route cost and the forwarding address of an AS-external LSA. -/
  asExternal : Option (Nat × Address) := none
deriving DecidableEq

abbrev Entry : Type := RoutingTableEntry OriginLSA

inductive SummaryLSAType where
  | networks
  | asBoundaryRouters
deriving DecidableEq

structure SummaryLSA where
  lsType : SummaryLSAType
  linkStateID : Address
  advertisingRouter : Address
  lsAge : Nat
  lsSequenceNumber : Int
  externalRoutingCapability : Bool
  networkMask : Address
  routeCost : Nat
deriving DecidableEq

/-- The ranges of an area, each with whether it is advertised. -/
structure RangedArea where
  areaID : Address
  areaAddressRanges : List (IPv4AddressRange × Bool)

def NullIPv4AddressRange : IPv4AddressRange :=
  ⟨0, 0⟩

structure Router where
  routerID : Address
  rfc1583Compatibility : Bool
  routingTable : List Entry
  areas : List RangedArea
  /-- The area of the interface that is not virtual. -/
  nonVirtualInterface : Nat → Option Address

/-- An area with its router and the summary LSAs that the router has originated into it. -/
structure Area where
  areaID : Address
  transitCapability : Bool
  externalRoutingCapability : Bool
  parentRouter : Router
  summaryLSAsByID : Address → Option SummaryLSA

/-! ## The preferred entry -/

namespace Router

variable (router : Router)

def GetRoutesToASBoundaryRouter (asbrRouterID : Address) : List Entry :=
  router.routingTable.filter fun entry =>
    entry.destinationType.asBoundaryRouter && entry.destinationID = asbrRouterID

def PruneASBoundaryRouterEntries (asbrEntries : List Entry) : List Entry :=
  let nonBackbone (entry : Entry) : Bool :=
    entry.pathType = .intraArea && entry.area ≠ BackboneAreaID
  if asbrEntries.any nonBackbone then asbrEntries.filter nonBackbone else asbrEntries

def SelectLeastCostRoutingEntry : List Entry → Option Entry
  | [] => none
  | first :: rest =>
    some (rest.foldl
      (fun least entry =>
        if entry.cost < least.cost ∨ entry.cost = least.cost ∧ entry.area > least.area then entry
        else least)
      first)

/-- An ASBR that has no route leaves no entries to select from. -/
def GetPreferredEntry (lsa : OriginLSA) (skipSelfOriginated : Bool) : Option Entry :=
  let external := lsa.asExternal.getD (0, 0)
  let asbrEntries := router.GetRoutesToASBoundaryRouter lsa.advertisingRouter
  if external.1 = LS_INFINITY ∨ lsa.lsAge = MAX_AGE ∨
      skipSelfOriginated ∧ lsa.advertisingRouter = router.routerID then none
  else if asbrEntries = [] then none
  else if external.2 = 0 then
    SelectLeastCostRoutingEntry (if router.rfc1583Compatibility then asbrEntries
      else PruneASBoundaryRouterEntries asbrEntries)
  else
    (Lookup (router.areas.map fun area => ⟨area.areaID, area.areaAddressRanges.map Prod.fst⟩)
      external.2 router.routingTable).filter
        fun entry => entry.pathType = .intraArea || entry.pathType = .interArea

/-- The first range with the addresses, and whether it is advertised. -/
def GetContainingAddressRange (range : IPv4AddressRange) : IPv4AddressRange × Bool :=
  let containing (area : RangedArea) :=
    area.areaAddressRanges.find? fun candidate => candidate.1.covers range.address
  (router.areas.findSome? fun area =>
    (containing area).filter fun found => found.1 ≠ NullIPv4AddressRange).getD
      (NullIPv4AddressRange, false)

/-- The greatest cost of an intra-area network of the range. -/
def maxRangeCost (range : IPv4AddressRange) : Nat :=
  router.routingTable.foldl
    (fun most entry =>
      if entry.isNetwork ∧ entry.pathType = .intraArea ∧
          range.covers (entry.destinationID &&& entry.addressMask) ∧ entry.cost > most then
        entry.cost
      else most)
    0

end Router

/-! ## Origination -/

namespace Area

variable (area : Area)

/-- The link state ID, and the LSA that is to be originated once more under its own. -/
def GetUniqueLinkStateID (destination : IPv4AddressRange) (destinationCost : Nat) :
    Address × Option SummaryLSA :=
  match area.summaryLSAsByID destination.address with
  | none => (destination.address, none)
  | some found =>
    if destination.mask = found.networkMask then (destination.address, none)
    else if destination.mask ≥ found.networkMask then
      (destination.address ||| ~~~destination.mask, none)
    else
      (destination.address ||| ~~~found.networkMask,
        some
          { found with
            lsAge := 0
            lsSequenceNumber :=
              if found.lsSequenceNumber = MAX_SEQUENCE_NUMBER then INITIAL_SEQUENCE_NUMBER
              else found.lsSequenceNumber + 1
            networkMask := destination.mask
            routeCost := destinationCost })

/-- A new LSA for the entry. -/
def newSummary (lsType : SummaryLSAType) (linkStateID : Address) (entry : Entry) : SummaryLSA where
  lsType
  linkStateID
  advertisingRouter := area.parentRouter.routerID
  lsAge := 0
  lsSequenceNumber := INITIAL_SEQUENCE_NUMBER
  externalRoutingCapability := area.externalRoutingCapability
  networkMask := entry.addressMask
  routeCost := entry.cost

/-- The LSA of the destination under the link state ID, if there is one. -/
def renumbered (entry : Entry) (unique : Address × Option SummaryLSA) :
    Option SummaryLSA × Option SummaryLSA :=
  match area.summaryLSAsByID entry.destinationID with
  | none => (none, none)
  | some found =>
    (some
      { found with
        lsAge := 0
        lsSequenceNumber := INITIAL_SEQUENCE_NUMBER
        linkStateID := unique.1 }, unique.2)

/-- The LSA for a network that is in no range. -/
def originateNetwork (entry : Entry) : Option SummaryLSA × Option SummaryLSA :=
  let unique := area.GetUniqueLinkStateID entry.range entry.cost
  match unique.2 with
  | some _ => area.renumbered entry unique
  | none => (some (area.newSummary .networks unique.1 entry), none)

/-- The LSA for a range with the network. -/
def originateRange (range : IPv4AddressRange) (originatedLSAs : List Address) (entry : Entry) :
    Option SummaryLSA × Option SummaryLSA :=
  let unique := area.GetUniqueLinkStateID range (area.parentRouter.maxRangeCost range)
  match unique.2 with
  | some again =>
    if again.linkStateID ∈ originatedLSAs then (none, none) else area.renumbered entry unique
  | none =>
    if unique.1 ∈ originatedLSAs then (none, none)
    else (some (area.newSummary .networks unique.1 entry), none)

/-- All next hops leave through the area, as far as their interfaces are known. -/
def allNextHopsInThisArea (entry : Entry) : Bool :=
  entry.nextHops.all fun hop =>
    (area.parentRouter.nonVirtualInterface hop.ifIndex).all (· = area.areaID)

/--
The LSA for an entry, and one to originate once more.  The keys of the LSAs
originated before are those of the router itself.
-/
def OriginateSummaryLSA (entry : Entry) (originatedLSAs : List Address) :
    Option SummaryLSA × Option SummaryLSA :=
  if entry.destinationType.areaBorderRouter ∨ entry.pathType = .type1External ∨
      entry.pathType = .type2External ∨ entry.area = area.areaID then (none, none)
  else if area.allNextHopsInThisArea entry ∨ entry.cost ≥ LS_INFINITY then (none, none)
  else if entry.destinationType.asBoundaryRouter then
    if entry.linkStateOrigin.bind (area.parentRouter.GetPreferredEntry · false) = some entry ∧
        area.externalRoutingCapability then
      (some (area.newSummary .asBoundaryRouters entry.destinationID entry), none)
    else (none, none)
  else if entry.pathType = .interArea then area.originateNetwork entry
  else
    let containing := area.parentRouter.GetContainingAddressRange entry.range
    if entry.area = BackboneAreaID ∧ area.transitCapability ∨
        containing.1 = NullIPv4AddressRange then area.originateNetwork entry
    else if containing.2 then area.originateRange containing.1 originatedLSAs entry
    else (none, none)

/-! ## The refresh -/

/-- The test of the search, with the comparison first: it is 1 or 0. -/
def accepts (summaryLSA : SummaryLSA) (entry : Entry) : Bool :=
  match summaryLSA.lsType with
  | .asBoundaryRouters =>
    (entry.destinationType.areaBorderRouter || entry.destinationType.asBoundaryRouter) &&
      (entry.destinationID = summaryLSA.linkStateID && entry.addressMask = summaryLSA.networkMask)
  | .networks =>
    let lsaMask := summaryLSA.networkMask
    entry.isNetwork && entry.addressMask = lsaMask &&
      entry.destinationID &&& (if lsaMask = summaryLSA.linkStateID then 1 else 0) &&& lsaMask ≠ 0

/-- `OriginateSummaryLSA` for the LSA that is to be refreshed. -/
def OriginateSummaryLSAAgain (summaryLSA : SummaryLSA) : Option SummaryLSA :=
  (area.parentRouter.routingTable.find? (accepts summaryLSA)).bind fun entry =>
    (area.OriginateSummaryLSA entry []).1

/-- `AgeDatabase` for an LSA of the router at the age of `LS_REFRESH_TIME - 1`. -/
def refresh (unreachable : Bool) (lsa : SummaryLSA) : SummaryLSA :=
  if unreachable ∨ lsa.lsSequenceNumber = MAX_SEQUENCE_NUMBER then { lsa with lsAge := MAX_AGE }
  else
    match area.OriginateSummaryLSAAgain lsa with
    | some newLSA => { newLSA with lsSequenceNumber := lsa.lsSequenceNumber + 1 }
    | none => { lsa with lsAge := MAX_AGE }

/-! ## What it is for -/

/-- The LSAs are for the same destination, mask and cost. -/
structure SameRoute (lsa newLSA : SummaryLSA) : Prop where
  lsType : newLSA.lsType = lsa.lsType
  destination : newLSA.linkStateID &&& newLSA.networkMask = lsa.linkStateID &&& lsa.networkMask
  networkMask : newLSA.networkMask = lsa.networkMask
  routeCost : newLSA.routeCost = lsa.routeCost

/-- The LSA is in the database and was built from an entry of the table; it has aged since. -/
def Built (lsa : SummaryLSA) : Prop :=
  area.summaryLSAsByID lsa.linkStateID = some lsa ∧
    ∃ entry ∈ area.parentRouter.routingTable, ∃ originatedLSAs built,
      (area.OriginateSummaryLSA entry originatedLSAs).1 = some built ∧
        lsa = { built with lsAge := lsa.lsAge, lsSequenceNumber := lsa.lsSequenceNumber }

/-- The search returns the route of the LSA, and the LSA is not flushed. -/
structure Reoriginated (lsa : SummaryLSA) : Prop where
  again : ∃ newLSA, area.OriginateSummaryLSAAgain lsa = some newLSA ∧ SameRoute lsa newLSA
  refreshed : SameRoute lsa (area.refresh false lsa)
  lsSequenceNumber : (area.refresh false lsa).lsSequenceNumber = lsa.lsSequenceNumber + 1

/-- The first such entry gives the route of the LSA. -/
def FirstGives (lsa : SummaryLSA) (such : Entry → Prop) : Prop :=
  ∃ front entry behind,
    area.parentRouter.routingTable = front ++ entry :: behind ∧ (∀ other ∈ front, ¬such other) ∧
      such entry ∧ ∃ newLSA, (area.OriginateSummaryLSA entry []).1 = some newLSA ∧
        SameRoute lsa newLSA

/--
A network LSA needs a mask that is its link state ID and odd, and the first
network with the mask and an odd address; an LSA for an AS boundary router
the first router entry with its ID and mask.
-/
def FoundAgain (lsa : SummaryLSA) : Prop :=
  match lsa.lsType with
  | .networks =>
    lsa.networkMask = lsa.linkStateID ∧ lsa.networkMask.getLsbD 0 = true ∧
      area.FirstGives lsa fun entry =>
        entry.isNetwork = true ∧ entry.addressMask = lsa.networkMask ∧
          entry.destinationID.getLsbD 0 = true
  | .asBoundaryRouters =>
    area.FirstGives lsa fun entry =>
      (entry.destinationType.areaBorderRouter = true ∨
          entry.destinationType.asBoundaryRouter = true) ∧
        entry.destinationID = lsa.linkStateID ∧ entry.addressMask = lsa.networkMask

variable {area}

theorem again_iff (accepted : ∀ entry, accepts lsa entry = true ↔ such entry) :
    (∃ newLSA, area.OriginateSummaryLSAAgain lsa = some newLSA ∧ SameRoute lsa newLSA) ↔
      area.FirstGives lsa such := by
  constructor
  · rintro ⟨newLSA, again, same⟩
    obtain ⟨entry, found, gives⟩ := Option.bind_eq_some_iff.mp again
    obtain ⟨accepts, front, behind, split, passed⟩ := List.find?_eq_some_iff_append.mp found
    refine ⟨front, entry, behind, split, fun other before holds => ?_, (accepted _).mp accepts,
      newLSA, gives, same⟩
    simpa [(accepted _).mpr holds] using passed other before
  · rintro ⟨front, entry, behind, split, passed, holds, newLSA, gives, same⟩
    refine ⟨newLSA, Option.bind_eq_some_iff.mpr ⟨entry, ?_, gives⟩, same⟩
    rw [List.find?_eq_some_iff_append]
    refine ⟨(accepted _).mpr holds, front, behind, split, fun other before => ?_⟩
    rw [Bool.not_eq_true', ← Bool.not_eq_true, accepted]
    exact passed _ before

theorem and_one_and_ne_zero (address mask : Address) :
    address &&& 1 &&& mask ≠ 0 ↔ mask.getLsbD 0 = true ∧ address.getLsbD 0 = true := by
  have bit : address &&& 1 &&& mask =
      if mask.getLsbD 0 = true ∧ address.getLsbD 0 = true then 1 else 0 := by
    refine BitVec.eq_of_getLsbD_eq fun i _ => ?_
    cases i with
    | zero => grind
    | succ _ => split <;> simp
  rw [bit]
  split <;> simp_all

theorem accepts_network (kind : lsa.lsType = .networks) (entry : Entry) :
    accepts lsa entry = true ↔
      (lsa.networkMask = lsa.linkStateID ∧ lsa.networkMask.getLsbD 0 = true) ∧
        entry.isNetwork = true ∧ entry.addressMask = lsa.networkMask ∧
          entry.destinationID.getLsbD 0 = true := by
  by_cases same : lsa.networkMask = lsa.linkStateID
  · simp only [accepts, kind, if_pos same, Bool.and_eq_true, decide_eq_true_eq, and_one_and_ne_zero]
    tauto
  · simp [accepts, kind, same]

theorem again_iff_foundAgain :
    (∃ newLSA, area.OriginateSummaryLSAAgain lsa = some newLSA ∧ SameRoute lsa newLSA) ↔
      area.FoundAgain lsa := by
  unfold FoundAgain
  cases kind : lsa.lsType with
  | networks =>
    by_cases usual : lsa.networkMask = lsa.linkStateID ∧ lsa.networkMask.getLsbD 0 = true
    · rw [again_iff fun entry => (accepts_network kind _).trans (and_iff_right usual)]
      exact ⟨fun found => ⟨usual.1, usual.2, found⟩, fun found => found.2.2⟩
    · rw [again_iff (accepts_network kind)]
      constructor
      · exact fun ⟨_, _, _, _, _, holds, _⟩ => absurd holds.1 usual
      · exact fun ⟨same, odd, _⟩ => absurd ⟨same, odd⟩ usual
  | asBoundaryRouters =>
    refine again_iff fun entry => ?_
    simp [accepts, kind]

/-- The backbone of a border router whose table holds one entry of area 1. -/
def backboneWith (entry : Entry) (lsa : SummaryLSA) : Area where
  areaID := BackboneAreaID
  transitCapability := false
  externalRoutingCapability := true
  parentRouter :=
    { routerID := 0x01010101
      rfc1583Compatibility := true
      routingTable := [entry]
      areas := []
      nonVirtualInterface := fun _ => some 1 }
  summaryLSAsByID := fun linkStateID => if linkStateID = lsa.linkStateID then some lsa else none

/-- An AS boundary router of area 1. -/
def boundaryRouterEntry : Entry where
  destinationType := { asBoundaryRouter := true }
  destinationID := 0x02020202
  area := 1
  cost := 10
  linkStateOrigin := some { advertisingRouter := 0x02020202 }
  nextHops := [⟨1, 0x0A000002, 0x02020202⟩]

def boundaryRouterLSA : SummaryLSA where
  lsType := .asBoundaryRouters
  linkStateID := 0x02020202
  advertisingRouter := 0x01010101
  lsAge := 1799
  lsSequenceNumber := INITIAL_SEQUENCE_NUMBER
  externalRoutingCapability := true
  networkMask := 0xFFFFFFFF
  routeCost := 10

/-- The network 10.1.0.0/16 of area 1. -/
def networkEntry : Entry where
  destinationID := 0x0A010000
  addressMask := 0xFFFF0000
  area := 1
  cost := 10
  nextHops := [⟨1, 0x0A000002, 0x02020202⟩]

def networkLSA : SummaryLSA where
  lsType := .networks
  linkStateID := 0x0A010000
  advertisingRouter := 0x01010101
  lsAge := 1799
  lsSequenceNumber := INITIAL_SEQUENCE_NUMBER
  externalRoutingCapability := true
  networkMask := 0xFFFF0000
  routeCost := 10

end Area

end OmnetDsi.Ospf.SummaryRefresh
