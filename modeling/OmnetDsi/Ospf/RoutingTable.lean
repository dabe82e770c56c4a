import OmnetDsi.Contract.Addresses
import OmnetDsi.Library.Selections

/-!
# The OSPF routing table and its lookups

`Lookup` keeps the entry under which the masked destination is greatest as a
number, and compares the active address ranges of the areas with it in the
same way.  The numbers follow the lengths of the masks only where the
destination has a one between the bits of two masks.

Addresses are their 32-bit numbers.  The optional capabilities of an entry are
not modelled.
-/

namespace OmnetDsi.Ospf.RoutingTable

open Library.Selections

/-! ## The routing table -/

abbrev Address := BitVec 32

inductive RoutingPathType where
  | intraArea
  | interArea
  | type1External
  | type2External
deriving DecidableEq

/-- A destination that is no router is a network. -/
structure RoutingDestinationType where
  areaBorderRouter : Bool := false
  asBoundaryRouter : Bool := false
deriving DecidableEq

def RoutingDestinationType.networkDestination : RoutingDestinationType := {}

structure NextHop where
  ifIndex : Nat
  hopAddress : Address
  advertisingRouter : Address
deriving DecidableEq

/-- `LSA` is what the entry may originate from. -/
structure RoutingTableEntry (LSA : Type) where
  destinationType : RoutingDestinationType := .networkDestination
  destinationID : Address
  addressMask : Address := 0xFFFFFFFF
  area : Address := 0
  pathType : RoutingPathType := .intraArea
  cost : Nat
  type2Cost : Nat := 0
  linkStateOrigin : Option LSA := none
  nextHops : List NextHop := []
deriving DecidableEq

structure IPv4AddressRange where
  address : Address
  mask : Address
deriving DecidableEq

/-- What a router has configured for an area. -/
structure AreaRanges where
  areaID : Address
  areaAddressRanges : List IPv4AddressRange

namespace RoutingTableEntry

def isNetwork (entry : RoutingTableEntry LSA) : Bool :=
  entry.destinationType = .networkDestination

/-- The addresses that the entry is for. -/
def range (entry : RoutingTableEntry LSA) : IPv4AddressRange where
  address := entry.destinationID
  mask := entry.addressMask

end RoutingTableEntry

namespace IPv4AddressRange

/-- The destination is in the range. -/
def covers (range : IPv4AddressRange) (dest : Address) : Bool :=
  range.address &&& range.mask = dest &&& range.mask

/-- The destination under the mask of the range. -/
def masked (range : IPv4AddressRange) (dest : Address) : Nat :=
  (dest &&& range.mask).toNat

/-- An intra-area network of the range is in the table. -/
def active (range : IPv4AddressRange) (table : List (RoutingTableEntry LSA)) : Bool :=
  table.any fun entry =>
    entry.isNetwork && range.covers (entry.destinationID &&& entry.addressMask) &&
      entry.pathType = .intraArea

end IPv4AddressRange

/-! ## The lookup -/

/-- The ranges of the discard entries. -/
def discard (areas : List AreaRanges) (table : List (RoutingTableEntry LSA)) :
    List IPv4AddressRange :=
  areas.flatMap fun area => area.areaAddressRanges.filter (·.active table)

/-- `bestMatch` and `longestMatch` after the loop. -/
def bestMatch (dest : Address) (table : List (RoutingTableEntry LSA)) :
    Option (RoutingTableEntry LSA) × Nat :=
  table.foldl
    (fun best entry =>
      if entry.isNetwork ∧ entry.range.covers dest ∧ best.2 < entry.range.masked dest then
        (some entry, entry.range.masked dest)
      else best)
    (none, 0)

/-- A discard entry exceeds the `longestMatch`. -/
def unreachable (areas : List AreaRanges) (dest : Address) (table : List (RoutingTableEntry LSA))
    (longestMatch : Nat) : Bool :=
  (discard areas table).any fun range => range.covers dest && longestMatch < range.masked dest

def Lookup (areas : List AreaRanges) (dest : Address) (table : List (RoutingTableEntry LSA)) :
    Option (RoutingTableEntry LSA) :=
  let best := bestMatch dest table
  match best.1 with
  | none => none
  | some entry => if unreachable areas dest table best.2 then none else some entry

/-! ## What it is for -/

/-- The number of the ones of a mask. -/
def maskLength (mask : Address) : Nat :=
  (List.range 32).countP mask.getLsbD

/-- The networks that the destination is in. -/
def matching (dest : Address) (table : List (RoutingTableEntry LSA)) :
    List (RoutingTableEntry LSA) :=
  table.filter fun entry => entry.isNetwork && entry.range.covers dest

/-- The active ranges that the destination is in. -/
def activeRanges (areas : List AreaRanges) (dest : Address)
    (table : List (RoutingTableEntry LSA)) : List IPv4AddressRange :=
  (discard areas table).filter (·.covers dest)

/-- The first of the matching networks with the longest mask. -/
def longest (dest : Address) (table : List (RoutingTableEntry LSA)) :
    Option (RoutingTableEntry LSA) :=
  (matching dest table).argmax fun entry => maskLength entry.addressMask

/-- An active range has a longer mask than the entry. -/
def Discarded (areas : List AreaRanges) (dest : Address) (table : List (RoutingTableEntry LSA))
    (entry : RoutingTableEntry LSA) : Prop :=
  ∃ range ∈ activeRanges areas dest table, maskLength entry.addressMask < maskLength range.mask

/-- The longest match, unless there is a longer active range. -/
def LooksUp (areas : List AreaRanges) (dest : Address) (table : List (RoutingTableEntry LSA))
    (result : Option (RoutingTableEntry LSA)) : Prop :=
  match longest dest table with
  | none => result = none
  | some entry =>
    (Discarded areas dest table entry → result = none) ∧
      (¬Discarded areas dest table entry → result = some entry)

section Decides

variable [DecidableEq LSA]

/-- No other match, and no range, has a greater masked destination than the entry. -/
structure Greatest (areas : List AreaRanges) (dest : Address)
    (table : List (RoutingTableEntry LSA)) (entry : RoutingTableEntry LSA) : Prop where
  positive : entry.range.masked dest ≠ 0
  entries : ∀ other ∈ matching dest table, other.range.masked dest ≤ entry.range.masked dest
  first : ∀ other ∈ matching dest table, entry.range.masked dest ≤ other.range.masked dest →
    (matching dest table).idxOf entry ≤ (matching dest table).idxOf other
  ranges : ∀ range ∈ activeRanges areas dest table, range.masked dest ≤ entry.range.masked dest

/--
The masked destinations decide as the masks do: the longest match has the
greatest one, which is not zero, and none of the matches before it has the
same; if it is discarded, an active range has a greater one than all matches,
or those of the matches are all zero.
-/
def NumbersDecide (areas : List AreaRanges) (dest : Address)
    (table : List (RoutingTableEntry LSA)) : Prop :=
  ∀ entry, longest dest table = some entry →
    (Discarded areas dest table entry →
      (∀ other ∈ matching dest table, other.range.masked dest = 0) ∨
        ∃ range ∈ activeRanges areas dest table,
          ∀ other ∈ matching dest table, other.range.masked dest < range.masked dest) ∧
    (¬Discarded areas dest table entry → Greatest areas dest table entry)

end Decides

/-! ## The search -/

/-- The first of the matching networks with the greatest masked destination. -/
def greatest (dest : Address) (table : List (RoutingTableEntry LSA)) :
    Option (RoutingTableEntry LSA) :=
  (matching dest table).argmax fun entry => entry.range.masked dest

/-- The search finds the greatest masked destination if it is positive. -/
theorem bestMatch_eq (dest : Address) (table : List (RoutingTableEntry LSA)) :
    bestMatch dest table =
      (greatest dest table).elim (none, 0) fun entry =>
        if 0 < entry.range.masked dest then (some entry, entry.range.masked dest)
        else (none, 0) := by
  have selected := foldl_keep
    (show ∀ entry : RoutingTableEntry LSA, Prod.snd
      (some entry, entry.range.masked dest) = entry.range.masked dest from fun _ => rfl)
    (none, 0) (matching dest table)
  refine Eq.trans ?_ selected
  rw [bestMatch, matching, List.foldl_filter]
  congr 1
  funext best entry
  simp only [keep, Bool.and_eq_true]
  split_ifs <;> tauto

theorem unreachable_iff :
    unreachable areas dest table longestMatch = true ↔
      ∃ range ∈ activeRanges areas dest table, longestMatch < range.masked dest := by
  simp [unreachable, activeRanges, and_assoc]

/-- What the lookup gives where the greatest masked destination is known. -/
theorem Lookup_of_greatest (found : greatest dest table = some best) :
    Lookup areas dest table =
      if 0 < best.range.masked dest ∧
          ∀ range ∈ activeRanges areas dest table, range.masked dest ≤ best.range.masked dest then
        some best
      else none := by
  rw [Lookup, bestMatch_eq, found, Option.elim_some]
  rcases Nat.eq_zero_or_pos (best.range.masked dest) with zero | positive
  · simp [zero]
  · simp only [positive, if_true, true_and]
    by_cases exceeded : unreachable areas dest table (best.range.masked dest) = true
    · rcases unreachable_iff.mp exceeded with ⟨range, active, greater⟩
      rw [if_pos exceeded, if_neg]
      exact fun all => absurd (all _ active) (by omega)
    · rw [if_neg exceeded, if_pos]
      intro range active
      by_contra greater
      exact exceeded (unreachable_iff.mpr ⟨range, active, by omega⟩)

theorem matching_eq_nil (none : longest dest table = none) : matching dest table = [] :=
  List.argmax_eq_none.mp none

/-- The default route. -/
def defaultRoute : RoutingTableEntry Unit where
  destinationID := 0
  addressMask := 0
  cost := 1

end OmnetDsi.Ospf.RoutingTable
