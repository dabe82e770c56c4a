import OmnetDsi.Library.Transition
import OmnetDsi.Library.IntervalLists
import OmnetDsi.Library.ShiftedArrays
import OmnetDsi.Tcp.SequenceNumbers

/-!
# The gap lists of an SCTP receiver

A receiver acknowledges all chunks up to `cTsnAck` and keeps the ranges of
TSNs beyond it in two arrays, of which the first `numGaps` entries are in use.
`updateGapList` looks for the hole in which a new TSN lies, and it passes a
range that starts with TSN 0 as if it were not there.

The receive window is taken to be open.  The streams to which new chunks are
given and the statistics are not modelled.
-/

namespace OmnetDsi.Sctp.GapLists

open List (length_map map_cons)
open Tcp.SequenceNumbers
open Function
open Library.Transition Library.IntervalLists Library.ShiftedArrays
open OmnetDsi.Tcp.SequenceNumbers (number)

/-! ## TSNs -/

abbrev Tsn := BitVec 32

def tsnLe (tsn1 tsn2 : Tsn) : Bool :=
  (tsn1 - tsn2).toInt ≤ 0

def tsnGt (tsn1 tsn2 : Tsn) : Bool :=
  0 < (tsn1 - tsn2).toInt

def tsnBetween (tsn1 midtsn tsn2 : Tsn) : Bool :=
  midtsn - tsn1 ≤ tsn2 - tsn1

/-! ## The receiver -/

structure SCTPStateVariables where
  initPeerTsn : Tsn
  cTsnAck : Tsn
  highestTsnReceived : Tsn
  numGaps : Nat
  gapStartList : Nat → Tsn
  gapStopList : Nat → Tsn
  dupList : List Tsn
  newChunkReceived : Bool
  stopReceiving : Bool

namespace SCTPStateVariables

def create (initPeerTsn : Tsn) : SCTPStateVariables where
  initPeerTsn
  cTsnAck := initPeerTsn - 1
  highestTsnReceived := 0
  numGaps := 0
  gapStartList := fun _ => 0
  gapStopList := fun _ => 0
  dupList := []
  newChunkReceived := false
  stopReceiving := false

def tsnIsDuplicate (state : SCTPStateVariables) (tsn : Tsn) : Bool :=
  state.dupList.contains tsn ||
    (List.range state.numGaps).any fun i =>
      tsnBetween (state.gapStartList i) tsn (state.gapStopList i)

/-- `dupList.push_back(tsn)` and `dupList.unique()`. -/
def addDuplicate (state : SCTPStateVariables) (tsn : Tsn) : SCTPStateVariables :=
  if state.dupList.getLast? = some tsn then state
  else { state with dupList := state.dupList ++ [tsn] }

/-- The last gap is cleared, or those behind are moved by a loop. -/
def removeGap (state : SCTPStateVariables) (i count : Nat) : SCTPStateVariables :=
  if i = state.numGaps - 1 then
    { state with
      gapStartList := update state.gapStartList i 0
      gapStopList := update state.gapStopList i 0
      numGaps := state.numGaps - 1 }
  else
    { state with
      gapStartList := shiftDown state.gapStartList count i
      gapStopList := shiftDown state.gapStopList count i
      numGaps := state.numGaps - 1 }

/-- A gap of one TSN in between. -/
def insertGap (state : SCTPStateVariables) (receivedTsn : Tsn) (i : Nat) : SCTPStateVariables :=
  { state with
    numGaps := state.numGaps + 1
    gapStartList := update (shiftUp state.gapStartList i (state.numGaps + 1)) i receivedTsn
    gapStopList := update (shiftUp state.gapStopList i (state.numGaps + 1)) i receivedTsn }

/-- The TSN lies in the hole from `lo` to `hi` before gap `i`. -/
def fillHole (state : SCTPStateVariables) (receivedTsn : Tsn) (i : Nat)
    (lo hi : Tsn) : SCTPStateVariables :=
  let gapsize := hi - lo + 1
  if gapsize > 1 then
    if receivedTsn = hi then { state with gapStartList := update state.gapStartList i receivedTsn }
    else if receivedTsn = lo then
      if receivedTsn = state.cTsnAck + 1 then { state with cTsnAck := state.cTsnAck + 1 }
      else { state with gapStopList := update state.gapStopList (i - 1) receivedTsn }
    else state.insertGap receivedTsn i
  else if lo = state.cTsnAck + 1 then
    ({ state with cTsnAck := state.gapStopList i }).removeGap i (state.numGaps - i)
  else
    ({ state with
        gapStopList :=
          update state.gapStopList (i - 1)
            (state.gapStopList i) }).removeGap i (state.numGaps + 1 - i)

/-- The TSN lies in none of the holes. -/
def pastTheEnd (state : SCTPStateVariables) (receivedTsn lo : Tsn) : SCTPStateVariables :=
  if receivedTsn = lo then
    if receivedTsn = state.cTsnAck + 1 then { state with cTsnAck := receivedTsn }
    else
      { state with
        gapStopList :=
          update state.gapStopList (state.numGaps - 1) (state.gapStopList (state.numGaps - 1) + 1) }
  else
    { state with
      gapStartList := update state.gapStartList state.numGaps receivedTsn
      gapStopList := update state.gapStopList state.numGaps receivedTsn
      numGaps := state.numGaps + 1 }

/-- The loop from gap `i`, behind which as many gaps are left. -/
def searchHoles (state : SCTPStateVariables) (receivedTsn : Tsn) :
    Nat → Nat → Tsn → SCTPStateVariables
  | 0, _, lo => state.pastTheEnd receivedTsn lo
  | left + 1, i, lo =>
    if state.gapStartList i > 0 then
      let hi := state.gapStartList i - 1
      if tsnBetween lo receivedTsn hi then state.fillHole receivedTsn i lo hi
      else state.searchHoles receivedTsn left (i + 1) (state.gapStopList i + 1)
    else state.searchHoles receivedTsn left (i + 1) lo

/-- With an open window a new chunk is always received. -/
def updateGapList (state : SCTPStateVariables) (receivedTsn : Tsn) : SCTPStateVariables :=
  { state.searchHoles receivedTsn state.numGaps 0 (state.cTsnAck + 1) with
    newChunkReceived := true }

/-- The loop takes gaps out of the arrays, but leaves `numGaps` as it is. -/
def advanceLoop (state : SCTPStateVariables) : Nat → SCTPStateVariables
  | 0 => state
  | left + 1 =>
    if state.cTsnAck + 1 = state.gapStartList 0 then
      advanceLoop
        { state with
          cTsnAck := state.gapStopList 0
          gapStartList := shiftDown state.gapStartList (state.numGaps - 1) 0
          gapStopList := shiftDown state.gapStopList (state.numGaps - 1) 0 }
        left
    else state

def advanceCtsna (state : SCTPStateVariables) : SCTPStateVariables :=
  state.advanceLoop state.numGaps

/-- What the association finds out before it looks at the TSN. -/
def receive (state : SCTPStateVariables) : SCTPStateVariables :=
  { state with
    newChunkReceived := false
    highestTsnReceived :=
      if state.numGaps = 0 then state.cTsnAck
      else
        state.gapStopList (state.numGaps - 1) }

/-- A new highest TSN.  The first chunk of all needs no gap list. -/
def newHighest (state : SCTPStateVariables) (tsn : Tsn) : SCTPStateVariables :=
  let higher := { state with highestTsnReceived := tsn }
  if tsn = state.initPeerTsn then { higher with cTsnAck := tsn, newChunkReceived := true }
  else (higher.updateGapList tsn).advanceCtsna

/-- The chunk is given to its stream if `newChunkReceived` is left. -/
def processDataArrived (state : SCTPStateVariables) (tsn : Tsn) : SCTPStateVariables :=
  let received := state.receive
  if state.stopReceiving then received
  else if tsnLe tsn state.cTsnAck then received.addDuplicate tsn
  else if tsnGt tsn received.highestTsnReceived then received.newHighest tsn
  else if state.tsnIsDuplicate tsn then received.addDuplicate tsn
  else (received.updateGapList tsn).advanceCtsna

end SCTPStateVariables

/-! ## TSNs of positions -/

section Numbers

section

variable (behind : first < second + 2 ^ 31) (ahead : second < first + 2 ^ 31)
include behind ahead

theorem toInt_number_sub : (number base first - number base second).toInt = first - second := by
  rw [BitVec.toInt_eq_toNat_cond, toNat_number_sub]
  split_ifs <;> omega

theorem tsnLe_number : tsnLe (number base first) (number base second) = true ↔ first ≤ second := by
  rw [tsnLe, decide_eq_true_iff, toInt_number_sub behind ahead]
  omega

theorem tsnGt_number : tsnGt (number base first) (number base second) = true ↔ second < first := by
  rw [tsnGt, decide_eq_true_iff, toInt_number_sub behind ahead]
  omega

end

theorem tsnBetween_number (ordered : first ≤ second)
    (above : second ≤ 2 ^ 31) (inside : middle ≤ 2 ^ 31) :
    tsnBetween (number base first) (number base middle) (number base second) = true ↔
      first ≤ middle ∧ middle ≤ second := by
  rw [tsnBetween, decide_eq_true_iff, BitVec.le_def, toNat_number_sub, toNat_number_sub]
  omega

theorem number_succ (base : Tsn) (position : Nat) :
    number base position + 1 = number base (position + 1) :=
  number_add _ _ 1

theorem number_eq_iff (first_le : first ≤ 2 ^ 31) (second_le : second ≤ 2 ^ 31) :
    number base first = number base second ↔ first = second := by
  rcases Nat.le_total _ _ with ordered | ordered
  · exact number_inj ordered (by omega)
  · rw [eq_comm, number_inj ordered (by omega), eq_comm]

end Numbers

/-! ## The arrays as intervals of positions -/

/-- The first TSN of an interval. -/
def lowest (base : Tsn) (gap : HalfOpen Nat) : Tsn :=
  number base gap.lower

/-- The last TSN of an interval. -/
def highest (base : Tsn) (gap : HalfOpen Nat) : Tsn :=
  number base gap.upper - 1

/-- The interval of one position. -/
def point (position : Nat) : HalfOpen Nat where
  lower := position
  upper := position + 1
  nonempty := Nat.lt_succ_self position

/--
The receiver has the first interval acknowledged, up to `cTsnAck`, and the
others in its arrays.
-/
def Shows (base : Tsn) (state : SCTPStateVariables) : List (HalfOpen Nat) → Prop
  | [] => False
  | cumulative :: gaps =>
    state.cTsnAck = highest base cumulative ∧
      state.numGaps = gaps.length ∧
        Holds state.gapStartList (gaps.map (lowest base)) ∧
          Holds state.gapStopList (gaps.map (highest base))

/-- Separated intervals within the window. -/
structure Placed (intervals : List (HalfOpen Nat)) : Prop where
  separated : Separated intervals
  within : ∀ interval ∈ intervals, interval.upper ≤ 2 ^ 31

section Shown

variable {prev : HalfOpen Nat}

@[simp]
theorem highest_add_one (base : Tsn) (gap : HalfOpen Nat) :
    highest base gap + 1 = number base gap.upper :=
  BitVec.sub_add_cancel _ _

theorem highest_of_upper (ends : gap.upper = position + 1) :
    highest base gap = number base position := by
  rw [highest, ends, ← number_succ, BitVec.add_sub_cancel]

theorem highest_point (base : Tsn) (position : Nat) :
    highest base (point position) = number base position :=
  highest_of_upper rfl

theorem shows_cons :
    Shows base state (cumulative :: gaps) ↔
      state.cTsnAck = highest base cumulative ∧
        state.numGaps = gaps.length ∧
          Holds state.gapStartList (gaps.map (lowest base)) ∧
            Holds state.gapStopList (gaps.map (highest base)) :=
  Iff.rfl

theorem Shows.cTsnAck_add_one (shows : Shows base state (prev :: rest)) :
    state.cTsnAck + 1 = number base prev.upper := by
  rw [shows.1, highest_add_one]

/-- Up to `prev` there are as many gaps as intervals before `prev`. -/
theorem exists_before (front : List (HalfOpen Nat)) (prev : HalfOpen Nat) :
    ∃ cumulative before, before.length = front.length ∧
      ∀ rest, front ++ prev :: rest = cumulative :: (before ++ rest) := by
  cases front with
  | nil => exact ⟨prev, [], rfl, fun _ => rfl⟩
  | cons cumulative middle =>
    refine ⟨cumulative, middle ++ [prev], List.length_append, fun rest => ?_⟩
    rw [List.append_assoc]
    rfl

theorem Placed.prev_lt
    (placed : Placed (cumulative :: middle ++ prev :: rest)) : cumulative.upper < prev.lower := by
  have parts := separated_cons.mp placed.separated
  exact parts.1 _ (List.mem_append_right _ List.mem_cons_self)

theorem Shows.at_cTsnAck_iff (shows : Shows base state (front ++ prev :: rest))
    (placed : Placed (front ++ prev :: rest)) :
    number base prev.upper = state.cTsnAck + 1 ↔ front = [] := by
  cases front with
  | nil => exact iff_of_true shows.cTsnAck_add_one.symm rfl
  | cons cumulative _ =>
    have below : cumulative.upper < prev.lower := placed.prev_lt
    have shape := prev.nonempty
    have firstWithin := placed.within _ List.mem_cons_self
    have prevWithin := placed.within _ (List.mem_append_right _ List.mem_cons_self)
    rw [Shows.cTsnAck_add_one shows, number_eq_iff prevWithin firstWithin]
    refine iff_of_false ?_ (List.cons_ne_nil _ _)
    omega

section

variable (shows : Shows base state (front ++ prev :: rest))
    (placed : Placed (front ++ prev :: rest))
include shows placed

theorem Shows.raiseCumulative (here : number base prev.upper = state.cTsnAck + 1) :
    Shows base { state with cTsnAck := highest base raised } (front ++ raised :: rest) := by
  have first : front = [] := (shows.at_cTsnAck_iff placed).mp here
  subst first
  rcases shows with ⟨_, numGaps, starts, stops⟩
  exact ⟨rfl, numGaps, starts, stops⟩

theorem Shows.raiseGap
    (elsewhere : ¬number base prev.upper = state.cTsnAck + 1) (lower : raised.lower = prev.lower) :
    Shows base
      { state with
        gapStopList := update state.gapStopList (front.length - 1) (highest base raised) }
      (front ++ raised :: rest) := by
  rw [shows.at_cTsnAck_iff placed] at elsewhere
  cases front with
  | nil => exact absurd rfl elsewhere
  | cons _ _ =>
    rw [List.cons_append, shows_cons] at shows
    rcases shows with ⟨cTsnAck, numGaps, starts, stops⟩
    rw [List.map_append, map_cons] at starts stops
    rw [List.cons_append, shows_cons, List.map_append, map_cons, List.map_append, map_cons]
    refine ⟨cTsnAck, ?_, ?_, ?_⟩
    · rw [List.length_append] at numGaps ⊢
      exact numGaps
    · rwa [lowest, lower]
    · rw [List.length_cons, Nat.add_sub_cancel, ← length_map]
      exact stops.set

end

theorem Shows.gapAt (shows : Shows base state (cumulative :: (before ++ gap :: after))) :
    state.gapStartList before.length = lowest base gap ∧
      state.gapStopList before.length = highest base gap := by
  rcases shows with ⟨_, _, starts, stops⟩
  rw [List.map_append] at starts stops
  have start := starts.at_length
  have stop := stops.at_length
  rw [length_map] at start stop
  exact ⟨start, stop⟩

theorem Shows.lowerStart (shows : Shows base state (cumulative :: (before ++ gap :: after)))
    (upper : lowered.upper = gap.upper) :
    Shows base
      { state with gapStartList := update state.gapStartList before.length (lowest base lowered) }
      (cumulative :: (before ++ lowered :: after)) := by
  rcases shows with ⟨cTsnAck, numGaps, starts, stops⟩
  rw [List.map_append, map_cons] at starts stops
  rw [shows_cons, List.map_append, map_cons, List.map_append, map_cons]
  refine ⟨cTsnAck, ?_, ?_, ?_⟩
  · rw [List.length_append] at numGaps ⊢
    exact numGaps
  · dsimp only
    rw [← length_map]
    exact starts.set
  · rwa [highest, upper]

theorem Shows.insertGap (shows : Shows base state (cumulative :: (before ++ after))) :
    Shows base (state.insertGap (number base position) before.length)
      (cumulative :: (before ++ point position :: after)) := by
  rcases shows with ⟨cTsnAck, numGaps, starts, stops⟩
  rw [shows_cons, List.map_append, List.map_append, map_cons, map_cons, highest_point]
  rw [List.map_append] at starts stops
  rw [List.length_append] at numGaps
  refine ⟨cTsnAck, ?_, ?_, ?_⟩
  · rw [SCTPStateVariables.insertGap, List.length_append, List.length_cons, numGaps, Nat.add_assoc]
  · rw [SCTPStateVariables.insertGap, ← length_map]
    refine starts.insert ?_
    simp only [List.length_append, length_map]
    omega
  · rw [SCTPStateVariables.insertGap, ← length_map]
    refine stops.insert ?_
    simp only [List.length_append, length_map]
    omega

theorem Shows.pushGap (shows : Shows base state (cumulative :: gaps)) :
    Shows base
      { state with
        gapStartList := update state.gapStartList state.numGaps (number base position)
        gapStopList := update state.gapStopList state.numGaps (number base position)
        numGaps := state.numGaps + 1 }
      (cumulative :: (gaps ++ [point position])) := by
  rcases shows with ⟨cTsnAck, numGaps, starts, stops⟩
  rw [shows_cons, List.map_append, List.map_append, List.map_singleton,
    List.map_singleton, highest_point]
  dsimp only
  refine ⟨cTsnAck, ?_, ?_, ?_⟩
  · rw [List.length_append, numGaps, List.length_singleton]
  · rw [numGaps, ← length_map]
    exact starts.push
  · rw [numGaps, ← length_map]
    exact stops.push

theorem Shows.removeGap (shows : Shows base state (cumulative :: (before ++ gap :: after)))
    (reaches : after.length ≤ count) :
    Shows base (state.removeGap before.length count) (cumulative :: (before ++ after)) := by
  rcases shows with ⟨cTsnAck, numGaps, starts, stops⟩
  rw [List.map_append, map_cons] at starts stops
  rw [List.length_append, List.length_cons] at numGaps
  have fewer : state.numGaps - 1 = (before ++ after).length := by
    rw [List.length_append]
    omega
  rw [shows_cons, List.map_append, List.map_append]
  unfold SCTPStateVariables.removeGap
  split_ifs with last
  · have none : after = [] := List.length_eq_zero_iff.mp (by omega)
    subst none
    simp only [List.map_nil, List.append_nil] at fewer ⊢
    refine ⟨cTsnAck, fewer, ?_, ?_⟩
    · exact starts.left.update_beyond (by rw [length_map])
    · exact stops.left.update_beyond (by rw [length_map])
  · refine ⟨cTsnAck, fewer, ?_, ?_⟩
    · rw [← length_map]
      exact starts.remove (by rw [length_map]; exact reaches)
    · rw [← length_map]
      exact stops.remove (by rw [length_map]; exact reaches)

/-! ## One more position -/

theorem merge_beyond (beyond : prev.upper < position) :
    merge (point position) (prev :: rest) = prev :: merge (point position) rest :=
  if_pos beyond

theorem merge_apart (apart : position + 1 < gap.lower) :
    merge (point position) (gap :: after) = point position :: gap :: after := by
  have shape := gap.nonempty
  have notAfter : ¬gap.upper < (point position).lower := by
    change ¬gap.upper < position
    omega
  rw [merge, if_neg notAfter]
  exact if_pos apart

theorem merge_touching (touching : prev.upper = position) :
    merge (point position) (prev :: rest) = absorb (prev.hull (point position)) rest := by
  have ordered := prev.nonempty
  rw [merge, if_neg, if_neg]
  · change ¬position + 1 < prev.lower
    omega
  · change ¬prev.upper < position
    omega

theorem hull_touching (touching : prev.upper = position) :
    (prev.hull (point position)).lower = prev.lower ∧
      (prev.hull (point position)).upper = position + 1 := by
  have ordered := prev.nonempty
  refine ⟨min_eq_left ?_, max_eq_right ?_⟩
  · change prev.lower ≤ position
    omega
  · change prev.upper ≤ position + 1
    omega

theorem merge_before (separated : Separated (gap :: after)) (touching : position + 1 = gap.lower) :
    merge (point position) (gap :: after) = gap.hull (point position) :: after := by
  have ordered := gap.nonempty
  have parts := separated_cons.mp separated
  have above : (gap.hull (point position)).upper = gap.upper := by
    refine max_eq_left ?_
    change position + 1 ≤ gap.upper
    omega
  rw [merge, if_neg, if_neg]
  · exact absorb_of_apart fun later among => above ▸ parts.1 _ among
  · change ¬position + 1 < gap.lower
    omega
  · change ¬gap.upper < position
    omega

theorem Placed.gap_separated (placed : Placed (front ++ prev :: gap :: after)) :
    Separated (prev :: gap :: after) :=
  (List.pairwise_append.mp placed.separated).2.1

theorem Shows.raise (shows : Shows base state (front ++ prev :: rest))
    (placed : Placed (front ++ prev :: rest)) (lower : raised.lower = prev.lower)
    (upper : raised.upper = prev.upper + 1) :
    Shows base
      (if number base prev.upper = state.cTsnAck + 1 then
        { state with cTsnAck := number base prev.upper }
      else
        { state with
          gapStopList := update state.gapStopList (front.length - 1) (number base prev.upper) })
      (front ++ raised :: rest) := by
  rw [← highest_of_upper upper]
  split_ifs with here
  · exact shows.raiseCumulative placed (by rwa [highest_of_upper upper] at here)
  · exact shows.raiseGap placed (by rwa [highest_of_upper upper] at here) lower

section

variable (shows : Shows base state (front ++ prev :: gap :: after))
    (placed : Placed (front ++ prev :: gap :: after))
include shows placed

theorem Shows.fillWide (above : prev.upper ≤ position) (below : position < gap.lower)
    (wide : prev.upper + 1 < gap.lower) :
    Shows base
      (if number base position = lowest base gap - 1 then
        { state with gapStartList := update state.gapStartList front.length (number base position) }
      else if number base position = number base prev.upper then
        if number base position = state.cTsnAck + 1 then { state with cTsnAck := state.cTsnAck + 1 }
        else
          { state with
            gapStopList := update state.gapStopList (front.length - 1) (number base position) }
      else state.insertGap (number base position) front.length)
      (front ++ merge (point position) (prev :: gap :: after)) := by
  have within := placed.within gap (by simp)
  have shape := gap.nonempty
  have separated := placed.gap_separated
  obtain ⟨_, _, length, split⟩ := exists_before _ _
  have hi : lowest base gap - 1 = number base (gap.lower - 1) := by
    rw [lowest, ← Nat.succ_pred_eq_of_pos (Nat.zero_lt_of_lt below),
      ← number_succ, BitVec.add_sub_cancel]
    rfl
  rw [hi]
  split_ifs with atEnd atStart here
  · rw [number_eq_iff (by omega) (by omega)] at atEnd
    have touching : position + 1 = gap.lower := by omega
    have later : prev.upper < position := by omega
    have lower : (gap.hull (point position)).lower = position := by
      refine min_eq_right ?_
      change position ≤ gap.lower
      omega
    have upper : (gap.hull (point position)).upper = gap.upper := by
      refine max_eq_left ?_
      change position + 1 ≤ gap.upper
      omega
    rw [merge_beyond later, merge_before (separated_cons.mp separated).2 touching, split, ← length]
    rw [split] at shows
    have lowered := shows.lowerStart upper
    rwa [lowest, lower] at lowered
  · rw [number_eq_iff (by omega) (by omega)] at atStart
    have hull := hull_touching atStart.symm
    have apart : (prev.hull (point position)).upper < gap.lower := by
      omega
    have raised := shows.raise placed hull.1 (hull.2.trans (by rw [atStart]))
    rw [merge_touching atStart.symm, absorb, if_pos apart]
    rw [atStart] at here
    rwa [if_pos here, here] at raised
  · rw [number_eq_iff (by omega) (by omega)] at atStart
    have hull := hull_touching atStart.symm
    have apart : (prev.hull (point position)).upper < gap.lower := by
      omega
    have raised := shows.raise placed hull.1 (hull.2.trans (by rw [atStart]))
    rw [merge_touching atStart.symm, absorb, if_pos apart]
    rw [atStart] at here
    rwa [if_neg here, ← atStart] at raised
  · rw [number_eq_iff (by omega) (by omega)] at atEnd atStart
    have later : prev.upper < position := by omega
    have apart : position + 1 < gap.lower := by omega
    rw [merge_beyond later, merge_apart apart, split, ← length]
    rw [split] at shows
    exact shows.insertGap

theorem Shows.closeHole (touching : prev.upper = position) (closed : prev.upper + 1 = gap.lower)
    (fewerReach : after.length ≤ fewer) (moreReach : after.length ≤ more) :
    Shows base
      (if number base prev.upper = state.cTsnAck + 1 then
        ({ state with cTsnAck := state.gapStopList front.length }).removeGap front.length fewer
      else
        ({ state with
            gapStopList :=
              update state.gapStopList (front.length - 1)
                (state.gapStopList front.length) }).removeGap
          front.length more)
      (front ++ merge (point position) (prev :: gap :: after)) := by
  have shape := gap.nonempty
  have separated := placed.gap_separated
  have parts := separated_cons.mp (separated_cons.mp separated).2
  have hull := hull_touching touching
  let joined := (prev.hull (point position)).hull gap
  have lower : joined.lower = prev.lower := by
    have ordered := prev.nonempty
    refine (min_eq_left ?_).trans hull.1
    omega
  have upper : joined.upper = gap.upper := by
    refine max_eq_right ?_
    omega
  have notApart : ¬(prev.hull (point position)).upper < gap.lower := by
    omega
  have merged : merge (point position) (prev :: gap :: after) = joined :: after := by
    rw [merge_touching touching, absorb, if_neg notApart]
    exact absorb_of_apart fun later among => upper ▸ parts.1 _ among
  have stop : state.gapStopList front.length = highest base joined := by
    obtain ⟨_, _, length, split⟩ := exists_before _ _
    rw [split] at shows
    rw [← length, shows.gapAt.2, highest, highest, upper]
  obtain ⟨_, _, length, split⟩ := exists_before _ _
  rw [stop, merged, split, ← length]
  split_ifs with here
  · have raised : Shows base _ (front ++ joined :: gap :: after) :=
      shows.raiseCumulative placed here
    rw [split] at raised
    exact raised.removeGap fewerReach
  · have raised : Shows base _ (front ++ joined :: gap :: after) := shows.raiseGap placed here lower
    rw [split, ← length] at raised
    exact raised.removeGap moreReach

end

theorem Shows.pastTheEnd (shows : Shows base state (front ++ [prev]))
    (placed : Placed (front ++ [prev])) (above : prev.upper ≤ position)
    (inside : position ≤ 2 ^ 31) :
    Shows base (state.pastTheEnd (number base position) (number base prev.upper))
      (front ++ merge (point position) [prev]) := by
  have within := placed.within prev (by simp)
  unfold SCTPStateVariables.pastTheEnd
  by_cases touching : prev.upper = position
  · have hull := hull_touching touching
    have raised := shows.raise placed hull.1 (hull.2.trans (by rw [touching]))
    rw [merge_touching touching, absorb, ← touching, if_pos rfl]
    rw [touching] at raised ⊢
    split_ifs at raised ⊢ with here
    · exact raised
    · have index : state.numGaps = front.length := by
        obtain ⟨_, _, length, split⟩ := exists_before _ _
        rw [split, List.append_nil] at shows
        rw [shows.2.1, length]
      have elsewhere : front ≠ [] := by
        rwa [ne_eq, ← shows.at_cTsnAck_iff placed, touching]
      have stop : state.gapStopList (front.length - 1) + 1 = number base position := by
        cases front with
        | nil => exact absurd rfl elsewhere
        | cons _ _ =>
          rw [List.length_cons, Nat.add_sub_cancel, shows.gapAt.2, highest_add_one, touching]
      have last : state.numGaps - 1 = front.length - 1 := by rw [index]
      rwa [last, stop]
  · have later : prev.upper < position := lt_of_le_of_ne above touching
    rw [if_neg, merge_beyond later]
    · obtain ⟨_, _, _, split⟩ := exists_before _ _
      rw [split, List.append_nil] at shows
      rw [split]
      exact shows.pushGap
    · rw [number_eq_iff inside within]
      omega

theorem Placed.next (placed : Placed (front ++ prev :: gap :: after)) :
    Placed ((front ++ [prev]) ++ gap :: after) := by
  rwa [List.append_assoc]

/--
The loop puts a TSN behind `prev` where it belongs, if no range that it comes
to starts with TSN 0.
-/
theorem Shows.searchHoles (shows : Shows base state (front ++ prev :: rest))
    (placed : Placed (front ++ prev :: rest)) (above : prev.upper ≤ position)
    (inside : position < 2 ^ 31) (new : position ∉ covered rest)
    (nonzero : ∀ gap ∈ rest, lowest base gap ≠ 0) :
    Shows base
      (state.searchHoles (number base position) rest.length front.length (number base prev.upper))
      (front ++ merge (point position) (prev :: rest)) := by
  induction rest generalizing front prev with
  | nil => exact shows.pastTheEnd placed above inside.le
  | cons gap after induction =>
    have gapWithin := placed.within gap (by simp)
    have shape := gap.nonempty
    have parts := separated_cons.mp placed.gap_separated
    have hole : prev.upper < gap.lower := parts.1 _ List.mem_cons_self
    rw [List.forall_mem_cons] at nonzero
    rw [covered_cons] at new
    have ends :
        state.gapStartList front.length = lowest base gap ∧
          state.gapStopList front.length = highest base gap := by
      obtain ⟨_, _, length, split⟩ := exists_before _ _
      rw [split] at shows
      rw [← length]
      exact shows.gapAt
    have positive : lowest base gap > 0 := by
      exact Nat.pos_of_ne_zero fun zero => nonzero.1 (BitVec.eq_of_toNat_eq zero)
    have hi : lowest base gap - 1 = number base (gap.lower - 1) := by
      rw [lowest, ← Nat.succ_pred_eq_of_pos (Nat.zero_lt_of_lt hole),
        ← number_succ, BitVec.add_sub_cancel]
      rfl
    have between :
        tsnBetween (number base prev.upper) (number base position) (lowest base gap - 1) = true ↔
          position < gap.lower := by
      rw [hi, tsnBetween_number (by omega) (by omega) inside.le]
      omega
    rw [List.length_cons, SCTPStateVariables.searchHoles, ends.1, ends.2,
      if_pos positive, highest_add_one]
    dsimp only
    split_ifs with test
    · have below := between.mp test
      have size :
          (lowest base gap - 1 - number base prev.upper + 1).toNat = gap.lower - prev.upper := by
        rw [hi, BitVec.toNat_add, distance (by omega) (by omega)]
        change (gap.lower - 1 - prev.upper + 1) % 2 ^ 32 = _
        omega
      have larger :
          lowest base gap - 1 - number base prev.upper + 1 > 1 ↔ prev.upper + 1 < gap.lower := by
        rw [gt_iff_lt, BitVec.lt_def, size]
        change 1 < gap.lower - prev.upper ↔ _
        omega
      unfold SCTPStateVariables.fillHole
      by_cases wide : prev.upper + 1 < gap.lower
      · rw [if_pos (larger.mpr wide)]
        exact shows.fillWide placed above below wide
      · rw [if_neg (larger.not.mpr wide)]
        have count : state.numGaps = front.length + after.length + 1 := by
          obtain ⟨_, _, length, split⟩ := exists_before front prev
          rw [split] at shows
          rw [shows.2.1, List.length_append, List.length_cons, length]
          omega
        exact shows.closeHole placed (by omega) (by omega) (by omega) (by omega)
    · have reached : gap.lower ≤ position := Nat.le_of_not_lt (between.not.mp test)
      have beyond : gap.upper ≤ position := by
        by_contra within
        exact new (.inl ⟨reached, Nat.lt_of_not_le within⟩)
      have shifted : Shows base state ((front ++ [prev]) ++ gap :: after) := by
        rwa [List.append_assoc]
      have following :=
        induction shifted placed.next beyond (fun later => new (.inr later)) nonzero.2
      rw [List.length_append, List.append_assoc] at following
      rwa [merge_beyond (hole.trans_le reached)]

end Shown

/-! ## Arrivals -/

/-- A receiver, and the positions of the chunks that it has processed. -/
structure World where
  state : SCTPStateVariables
  received : Set Nat

inductive Event where
  | dataArrived (position : Nat)
  | sackSent
  | shutdown

/-- The TSN before the first one, at position 0. -/
def SCTPStateVariables.base (state : SCTPStateVariables) : Tsn :=
  state.initPeerTsn - 1

namespace World

def start (initPeerTsn : Tsn) : World where
  state := .create initPeerTsn
  received := ∅

/-- The chunk at the position, unless the receiver ignores all chunks. -/
def arrive (world : World) (position : Nat) : World where
  state := world.state.processDataArrived (number world.state.base position)
  received := if world.state.stopReceiving then world.received else insert position world.received

/-- A SACK reports the duplicates. -/
def sendSack (world : World) : World :=
  { world with state := { world.state with dupList := [] } }

def shutdown (world : World) : World :=
  { world with state := { world.state with stopReceiving := true } }

end World

/-- The peer numbers its chunks from `initPeerTsn` on within the window. -/
def InWindow (position : Nat) : Prop :=
  1 ≤ position ∧ position < 2 ^ 31

def step (world : World) : Event → World → Prop
  | .dataArrived position, next => InWindow position ∧ next = world.arrive position
  | .sackSent, next => next = world.sendSack
  | .shutdown, next => next = world.shutdown

/-- A new chunk comes while no range starts with TSN 0. -/
def Admits (world : World) : Event → Prop
  | .dataArrived position =>
    let tsn := number world.state.base position
    tsnLe tsn world.state.cTsnAck = false →
      world.state.tsnIsDuplicate tsn = false →
        ∀ i, i < world.state.numGaps → world.state.gapStartList i ≠ 0
  | _ => True

instance (world : World) (event : Event) : Decidable (Admits world event) :=
  match event with
  | .dataArrived position =>
    inferInstanceAs
      (Decidable
        (tsnLe (number world.state.base position) world.state.cTsnAck = false →
          world.state.tsnIsDuplicate (number world.state.base position) = false →
            ∀ i, i < world.state.numGaps → world.state.gapStartList i ≠ 0))
  | .sackSent => inferInstanceAs (Decidable True)
  | .shutdown => inferInstanceAs (Decidable True)

instance (position : Nat) : Decidable (InWindow position) :=
  inferInstanceAs (Decidable (1 ≤ position ∧ position < 2 ^ 31))

/--
All positions up to `cumulative` and no more are received, and beyond it those
of the ranges.
-/
structure Describes (received : Set Nat) (cumulative numGaps : Nat)
    (start stop : Nat → Nat) : Prop where
  acknowledged : ∀ position, 1 ≤ position → position ≤ cumulative → position ∈ received
  highest : cumulative + 1 ∉ received
  ordered : ∀ i, i < numGaps → start i ≤ stop i
  apart : ∀ i, i + 1 < numGaps → stop i + 1 < start (i + 1)
  beyond : 0 < numGaps → cumulative + 1 < start 0
  within : ∀ i, i < numGaps → stop i < 2 ^ 31
  exact :
    ∀ position, cumulative < position →
      (position ∈ received ↔ ∃ i, i < numGaps ∧ start i ≤ position ∧ position ≤ stop i)

/-- `cTsnAck` and the arrays tell which chunks are received. -/
def Exact (world : World) : Prop :=
  ∃ cumulative start stop,
    world.state.cTsnAck = number world.state.base cumulative ∧
      (∀ i, i < world.state.numGaps →
        world.state.gapStartList i = number world.state.base (start i) ∧
          world.state.gapStopList i = number world.state.base (stop i)) ∧
        Describes world.received cumulative world.state.numGaps start stop

/-- A chunk is taken for new exactly if it is not received. -/
def TellsNew (world : World) : Prop :=
  ∀ position, InWindow position → world.state.stopReceiving = false →
    ((world.state.processDataArrived (number world.state.base position)).newChunkReceived = true ↔
      position ∉ world.received)

/-! ### The invariant -/

/-- The receiver shows intervals that cover what it has received. -/
structure Kept (world : World) (intervals : List (HalfOpen Nat)) : Prop where
  shows : Shows world.state.base world.state intervals
  placed : Placed intervals
  covers : covered intervals = insert 0 world.received
  inWindow : ∀ position ∈ world.received, InWindow position
  duplicates :
    ∀ tsn ∈ world.state.dupList, ∃ position ∈ world.received, tsn = number world.state.base position

section Arrivals

variable {position : Nat}

theorem kept_start (initPeerTsn : Tsn) : Kept (.start initPeerTsn) [point 0] where
  shows := by
    have base : initPeerTsn - 1 = highest (initPeerTsn - 1) (point 0) := by
      rw [highest_point, number_zero]
    exact ⟨base, rfl, nofun, nofun⟩
  placed := by
    refine ⟨List.pairwise_singleton _ _, fun interval among => ?_⟩
    rw [List.mem_singleton.mp among]
    decide
  covers := by
    have points : (point 0).points = {0} := by
      ext other
      change 0 ≤ other ∧ other < 1 ↔ other = 0
      omega
    rw [covered_cons, covered_nil, Set.union_empty, points]
    exact (insert_empty_eq 0).symm
  inWindow := nofun
  duplicates := nofun

theorem Shows.congr (shows : Shows base state intervals) (cTsnAck : other.cTsnAck = state.cTsnAck)
    (numGaps : other.numGaps = state.numGaps) (starts : other.gapStartList = state.gapStartList)
    (stops : other.gapStopList = state.gapStopList) : Shows base other intervals := by
  cases intervals with
  | nil => exact shows
  | cons _ _ =>
    rwa [shows_cons, cTsnAck, numGaps, starts, stops]

theorem Placed.merge (placed : Placed intervals) (inside : position < 2 ^ 31) :
    Placed (merge (point position) intervals) where
  separated := placed.separated.merge _
  within :=
    forall_mem_merge (fun interval => interval.upper ≤ 2 ^ 31)
      (fun _ _ left right => max_le left right) inside placed.within

theorem covered_merge_point (placed : Placed intervals) :
    covered (merge (point position) intervals) = insert position (covered intervals) := by
  have points : (point position).points = {position} := by
    ext other
    change position ≤ other ∧ other < position + 1 ↔ other = position
    omega
  rw [covered_merge _ placed.separated, points, Set.union_comm, Set.singleton_union]

variable {state : SCTPStateVariables}

theorem advanceCtsna_of_shows (shows : Shows base state intervals) (placed : Placed intervals) :
    state.advanceCtsna = state := by
  unfold SCTPStateVariables.advanceCtsna
  cases intervals with
  | nil => exact shows.elim
  | cons cumulative gaps =>
    cases gaps with
    | nil =>
      rw [shows.2.1]
      rfl
    | cons gap _ =>
      have parts := separated_cons.mp placed.separated
      have apart := parts.1 _ List.mem_cons_self
      have cumulativeWithin := placed.within cumulative (by simp)
      have gapWithin := placed.within gap (by simp)
      have shape := gap.nonempty
      have first : state.gapStartList 0 = lowest base gap := shows.2.2.1 0 _ rfl
      rw [shows.2.1, List.length_cons, SCTPStateVariables.advanceLoop, if_neg]
      rw [first, shows.cTsnAck_add_one, lowest, number_eq_iff cumulativeWithin (by omega)]
      omega

theorem highest_eq_number (base : Tsn) (gap : HalfOpen Nat) :
    highest base gap = number base (gap.upper - 1) :=
  highest_of_upper (Nat.sub_add_cancel (Nat.one_le_of_lt gap.nonempty)).symm

theorem Shows.covered_iff (shows : Shows base state (cumulative :: gaps))
    (placed : Placed (cumulative :: gaps)) (inside : position < 2 ^ 31) :
    position ∈ covered gaps ↔
      ∃ i, i < state.numGaps ∧
        tsnBetween (state.gapStartList i) (number base position) (state.gapStopList i) = true := by
  rcases shows with ⟨_, numGaps, starts, stops⟩
  have between {i : Nat} {gap : HalfOpen Nat} (found : gaps[i]? = some gap) :
      tsnBetween (state.gapStartList i) (number base position) (state.gapStopList i) = true ↔
        position ∈ gap.points := by
    have start := starts i _ (by rw [List.getElem?_map, found]; rfl)
    have stop := stops i _ (by rw [List.getElem?_map, found]; rfl)
    have within := placed.within _ (List.mem_cons_of_mem _ (List.mem_of_getElem? found))
    have shape := gap.nonempty
    rw [start, stop, highest_eq_number, lowest, tsnBetween_number (by omega) (by omega) inside.le]
    change _ ↔ gap.lower ≤ position ∧ position < gap.upper
    omega
  constructor
  · rintro ⟨_, among, points⟩
    obtain ⟨i, found⟩ := List.mem_iff_getElem?.mp among
    have bound : i < gaps.length := (List.getElem?_eq_some_iff.mp found).1
    exact ⟨i, numGaps ▸ bound, (between found).mpr points⟩
  · rintro ⟨i, _, test⟩
    have found : gaps[i]? = some gaps[i] := List.getElem?_eq_getElem _
    exact ⟨_, List.mem_of_getElem? found, (between found).mp test⟩

theorem Kept.exists_cumulative (kept : Kept world intervals) :
    ∃ cumulative gaps, intervals = cumulative :: gaps ∧ cumulative.lower = 0 := by
  cases intervals with
  | nil => exact kept.shows.elim
  | cons cumulative gaps =>
    refine ⟨cumulative, gaps, rfl, ?_⟩
    have zero : 0 ∈ covered (cumulative :: gaps) := by
      rw [kept.covers]
      exact Set.mem_insert 0 _
    rw [covered_cons] at zero
    rcases zero with inside | ⟨_, among, inside⟩
    · exact Nat.le_zero.mp inside.1
    · have parts := separated_cons.mp kept.placed.separated
      have apart := parts.1 _ among
      exact absurd inside.1 (by omega)

section Positions

variable (kept : Kept world (cumulative :: gaps))
include kept

theorem Kept.received_iff (first : cumulative.lower = 0) (positive : 1 ≤ position) :
    position ∈ world.received ↔ position < cumulative.upper ∨ position ∈ covered gaps := by
  have same : position ∈ insert 0 world.received ↔ position ∈ world.received := by
    exact or_iff_right (by omega)
  rw [← same, ← kept.covers, covered_cons]
  change (cumulative.lower ≤ position ∧ position < cumulative.upper) ∨ _ ↔ _
  rw [first]
  simp

theorem Kept.tsnLe_iff (window : InWindow position) :
    tsnLe (number world.state.base position) world.state.cTsnAck = true ↔
      position < cumulative.upper := by
  have within := kept.placed.within _ List.mem_cons_self
  rcases window with ⟨_, _⟩
  rw [kept.shows.1, highest_eq_number, tsnLe_number (by omega) (by omega)]
  omega

/-- Beyond `cTsnAck` the duplicates are the chunks already received. -/
theorem Kept.tsnIsDuplicate_iff (first : cumulative.lower = 0) (window : InWindow position)
    (beyond : ¬position < cumulative.upper) :
    world.state.tsnIsDuplicate (number world.state.base position) = true ↔
      position ∈ world.received := by
  rw [SCTPStateVariables.tsnIsDuplicate, Bool.or_eq_true, List.contains_iff_mem, List.any_eq_true]
  constructor
  · rintro (listed | ⟨i, among, test⟩)
    · obtain ⟨_, received, same⟩ := kept.duplicates _ listed
      have otherWindow := kept.inWindow _ received
      rw [number_eq_iff window.2.le otherWindow.2.le] at same
      exact same ▸ received
    · refine (kept.received_iff first window.1).mpr (.inr ?_)
      exact (kept.shows.covered_iff kept.placed window.2).mpr ⟨i, List.mem_range.mp among, test⟩
  · intro received
    right
    rcases (kept.received_iff first window.1).mp received with below | among
    · exact absurd below beyond
    · obtain ⟨i, bound, test⟩ := (kept.shows.covered_iff kept.placed window.2).mp among
      exact ⟨i, List.mem_range.mpr bound, test⟩

theorem Kept.nonzero (started : ∀ i, i < world.state.numGaps → world.state.gapStartList i ≠ 0) :
    ∀ gap ∈ gaps, lowest world.state.base gap ≠ 0 := by
  intro _ among
  obtain ⟨i, found⟩ := List.mem_iff_getElem?.mp among
  have bound : i < gaps.length := (List.getElem?_eq_some_iff.mp found).1
  rcases kept.shows with ⟨_, numGaps, starts, _⟩
  have start := starts i _ (by rw [List.getElem?_map, found]; rfl)
  rw [← start]
  exact started i (numGaps ▸ bound)

end Positions

theorem receive_highest (shows : Shows base state (front ++ [last])) :
    state.receive.highestTsnReceived = highest base last := by
  dsimp only [SCTPStateVariables.receive]
  cases front with
  | nil =>
    rcases shows with ⟨cTsnAck, numGaps, _, _⟩
    exact (if_pos (numGaps.trans List.length_nil)).trans cTsnAck
  | cons _ middle =>
    rw [List.cons_append] at shows
    have numGaps : state.numGaps = middle.length + 1 := by
      rw [shows.2.1, List.length_append, List.length_singleton]
    rw [numGaps, if_neg (Nat.succ_ne_zero _), Nat.add_sub_cancel, shows.gapAt.2]

theorem Placed.upper_le_last (placed : Placed (front ++ [last]))
    (among : interval ∈ front ++ [last]) : interval.upper ≤ last.upper := by
  rcases List.mem_append.mp among with earlier | same
  · have apart :=
      (List.pairwise_append.mp placed.separated).2.2 _ earlier _ (List.mem_singleton.mpr rfl)
    exact (apart.trans last.nonempty).le
  · rw [List.mem_singleton.mp same]

/-- What an update of the gap list leaves as it is. -/
structure SameAside (before after : SCTPStateVariables) : Prop where
  initPeerTsn : after.initPeerTsn = before.initPeerTsn
  dupList : after.dupList = before.dupList

section Aside

theorem sameAside_fillHole : SameAside state (state.fillHole tsn i lo hi) := by
  dsimp only [SCTPStateVariables.fillHole, SCTPStateVariables.removeGap,
    SCTPStateVariables.insertGap]
  split_ifs <;> exact ⟨rfl, rfl⟩

theorem sameAside_pastTheEnd : SameAside state (state.pastTheEnd tsn lo) := by
  unfold SCTPStateVariables.pastTheEnd
  split_ifs <;> exact ⟨rfl, rfl⟩

theorem sameAside_searchHoles : SameAside state (state.searchHoles tsn left i lo) := by
  induction left generalizing i lo with
  | zero => exact sameAside_pastTheEnd
  | succ _ induction =>
    rw [SCTPStateVariables.searchHoles]
    dsimp only
    split_ifs
    · exact sameAside_fillHole
    · exact induction
    · exact induction

theorem sameAside_advanceLoop (state : SCTPStateVariables) (left : Nat) :
    SameAside state (state.advanceLoop left) ∧
      (state.advanceLoop left).newChunkReceived = state.newChunkReceived := by
  induction left generalizing state with
  | zero => exact ⟨⟨rfl, rfl⟩, rfl⟩
  | succ _ induction =>
    rw [SCTPStateVariables.advanceLoop]
    split_ifs
    · rcases induction _ with ⟨same, new⟩
      exact ⟨⟨same.1, same.2⟩, new⟩
    · exact ⟨⟨rfl, rfl⟩, rfl⟩

theorem sameAside_update (state : SCTPStateVariables) (tsn : Tsn) :
    SameAside state (state.updateGapList tsn).advanceCtsna ∧
      (state.updateGapList tsn).advanceCtsna.newChunkReceived = true := by
  rcases sameAside_advanceLoop _ (state.updateGapList _).numGaps with ⟨same, new⟩
  have searched : SameAside state (state.searchHoles tsn state.numGaps 0 (state.cTsnAck + 1)) :=
    sameAside_searchHoles
  exact ⟨⟨same.1.trans searched.1, same.2.trans searched.2⟩, new⟩

theorem sameAside_newHighest :
    SameAside state (state.newHighest tsn) ∧ (state.newHighest tsn).newChunkReceived = true := by
  unfold SCTPStateVariables.newHighest
  split_ifs
  · exact ⟨⟨rfl, rfl⟩, rfl⟩
  · rcases sameAside_update { state with highestTsnReceived := tsn } _ with ⟨same, new⟩
    exact ⟨⟨same.1, same.2⟩, new⟩

end Aside

theorem Kept.takeIn (kept : Kept world intervals) (aside : SameAside world.state state)
    (shows : Shows world.state.base state (merge (point position) intervals))
    (window : InWindow position) :
    Kept ⟨state, insert position world.received⟩ (merge (point position) intervals) where
  shows := by
    rwa [SCTPStateVariables.base, aside.initPeerTsn]
  placed := kept.placed.merge window.2
  covers := by
    rw [covered_merge_point kept.placed, kept.covers]
    exact Set.insert_comm ..
  inWindow other member := by
    rcases Set.mem_insert_iff.mp member with rfl | earlier
    · exact window
    · exact kept.inWindow _ earlier
  duplicates tsn listed := by
    rw [aside.dupList] at listed
    rw [SCTPStateVariables.base, aside.initPeerTsn]
    obtain ⟨other, received, same⟩ := kept.duplicates _ listed
    exact ⟨other, Set.mem_insert_of_mem _ received, same⟩

theorem Kept.addDuplicate (kept : Kept world intervals) (received : position ∈ world.received) :
    Kept
      ⟨world.state.receive.addDuplicate (number world.state.base position),
        insert position world.received⟩
      intervals := by
  rw [Set.insert_eq_of_mem received]
  have listed :
      ∀ tsn ∈ world.state.dupList ++ [number world.state.base position],
        ∃ other ∈ world.received, tsn = number world.state.base other := by
    intro _ among
    rcases List.mem_append.mp among with earlier | here
    · exact kept.duplicates _ earlier
    · exact ⟨position, received, List.mem_singleton.mp here⟩
  unfold SCTPStateVariables.addDuplicate
  split_ifs
  · exact ⟨kept.shows.congr rfl rfl rfl rfl, kept.placed, kept.covers,
      kept.inWindow, kept.duplicates⟩
  · exact ⟨kept.shows.congr rfl rfl rfl rfl, kept.placed, kept.covers, kept.inWindow, listed⟩

section Positions

variable {cumulative : HalfOpen Nat} {gaps : List (HalfOpen Nat)}

variable (kept : Kept world (cumulative :: gaps))
include kept

theorem Kept.updateGapList (same : Shows world.state.base state (cumulative :: gaps))
    (window : InWindow position) (above : cumulative.upper ≤ position)
    (new : position ∉ covered gaps) (nonzero : ∀ gap ∈ gaps, lowest world.state.base gap ≠ 0) :
    Shows world.state.base (state.updateGapList (number world.state.base position)).advanceCtsna
      (merge (point position) (cumulative :: gaps)) := by
  have searched :
      Shows world.state.base
        (state.searchHoles (number world.state.base position) gaps.length 0
          (number world.state.base cumulative.upper))
        ([] ++ merge (point position) (cumulative :: gaps)) :=
    Shows.searchHoles same kept.placed above window.2 new nonzero
  rw [← same.cTsnAck_add_one, ← same.2.1] at searched
  have updated :
      Shows world.state.base (state.updateGapList (number world.state.base position))
        (merge (point position) (cumulative :: gaps)) :=
    Shows.congr searched rfl rfl rfl rfl
  rwa [advanceCtsna_of_shows updated (kept.placed.merge window.2)]

theorem Kept.firstChunk (first : cumulative.lower = 0)
    (beyond : ∀ interval ∈ cumulative :: gaps, interval.upper ≤ position)
    (initial : number world.state.base position = world.state.initPeerTsn)
    (window : InWindow position) (cTsnAck : state.cTsnAck = number world.state.base position)
    (numGaps : state.numGaps = world.state.numGaps) :
    Shows world.state.base state (merge (point position) (cumulative :: gaps)) := by
  have one : position = 1 := by
    have base : number world.state.base 1 = world.state.initPeerTsn := BitVec.sub_add_cancel _ _
    rwa [← base, number_eq_iff window.2.le (by decide)] at initial
  have shape := cumulative.nonempty
  have ends : cumulative.upper = position := by
    have upper := beyond _ List.mem_cons_self
    omega
  have none : gaps = [] := by
    cases gaps with
    | nil => rfl
    | cons gap _ =>
      have apart := (separated_cons.mp kept.placed.separated).1 _ List.mem_cons_self
      have upper := beyond gap (by simp)
      have nonempty := gap.nonempty
      omega
  subst none
  rw [merge_touching ends, absorb, shows_cons, highest_of_upper (hull_touching ends).2]
  rcases kept.shows with ⟨_, none, _, _⟩
  exact ⟨cTsnAck, numGaps.trans none, holds_nil _, holds_nil _⟩

theorem Kept.newHighest (beyond : ∀ interval ∈ cumulative :: gaps, interval.upper ≤ position)
    (window : InWindow position) (nonzero : ∀ gap ∈ gaps, lowest world.state.base gap ≠ 0) :
    Shows world.state.base (world.state.receive.newHighest (number world.state.base position))
      (merge (point position) (cumulative :: gaps)) := by
  have above := beyond _ List.mem_cons_self
  unfold SCTPStateVariables.newHighest
  split_ifs with initial
  · have first : cumulative.lower = 0 := by
      obtain ⟨_, _, ⟨rfl, rfl⟩, first⟩ := kept.exists_cumulative
      exact first
    exact kept.firstChunk first beyond initial window rfl rfl
  · refine kept.updateGapList ?_ window above ?_ nonzero
    · exact kept.shows.congr rfl rfl rfl rfl
    · rintro ⟨_, among, inside⟩
      have upper := beyond _ (List.mem_cons_of_mem _ among)
      exact absurd inside.2 (by omega)

theorem Kept.tsnGt_iff (window : InWindow position) :
    tsnGt (number world.state.base position) world.state.receive.highestTsnReceived = true ↔
      ∀ interval ∈ cumulative :: gaps, interval.upper ≤ position := by
  obtain ⟨front, last, split⟩ : ∃ front last, cumulative :: gaps = front ++ [last] :=
    ⟨_, _, (List.dropLast_append_getLast (List.cons_ne_nil _ _)).symm⟩
  rw [split] at kept ⊢
  have within := kept.placed.within last (by simp)
  have shape := last.nonempty
  rcases window with ⟨_, _⟩
  rw [receive_highest kept.shows, highest_eq_number, tsnGt_number (by omega) (by omega)]
  constructor
  · intro _ _ among
    have ends := kept.placed.upper_le_last among
    omega
  · intro beyond
    have upper := beyond last (by simp)
    omega

end Positions

theorem Kept.arrival_cases (kept : Kept world intervals) (window : InWindow position)
    (running : world.state.stopReceiving = false) :
    (position ∈ world.received ∧
        (world.arrive position).state =
          world.state.receive.addDuplicate (number world.state.base position)) ∨
      (position ∉ world.received ∧
        (world.arrive position).state.newChunkReceived = true ∧
          SameAside world.state (world.arrive position).state ∧
            (Admits world (.dataArrived position) →
              Shows world.state.base (world.arrive position).state
                (merge (point position) intervals))) := by
  obtain ⟨cumulative, gaps, rfl, first⟩ := kept.exists_cumulative
  have unlisted := kept.received_iff first window.1
  have below := kept.tsnLe_iff window
  have duplicate := kept.tsnIsDuplicate_iff first window
  have highest := kept.tsnGt_iff window
  dsimp only [World.arrive, SCTPStateVariables.processDataArrived]
  rw [if_neg (Bool.eq_false_iff.mp running)]
  by_cases old : position < cumulative.upper
  · rw [if_pos (below.mpr old)]
    exact .inl ⟨unlisted.mpr (.inl old), rfl⟩
  · have notOld := below.not.mpr old
    rw [if_neg notOld]
    have nonzero (new : position ∉ world.received)
        (admitted : Admits world (.dataArrived position)) :
        ∀ gap ∈ gaps, lowest world.state.base gap ≠ 0 :=
      kept.nonzero
        (admitted (Bool.eq_false_iff.mpr notOld)
          (Bool.eq_false_iff.mpr ((duplicate old).not.mpr new)))
    by_cases above : ∀ interval ∈ cumulative :: gaps, interval.upper ≤ position
    · rw [if_pos (highest.mpr above)]
      have new : position ∉ world.received := by
        rw [unlisted]
        rintro (inside | ⟨gap, among, inside⟩)
        · exact old inside
        · have upper := above gap (List.mem_cons_of_mem _ among)
          exact absurd inside.2 (by omega)
      rcases @sameAside_newHighest world.state.receive _ with ⟨same, told⟩
      exact .inr ⟨new, told, ⟨same.1, same.2⟩, fun admitted =>
        kept.newHighest above window (nonzero new admitted)⟩
    · rw [if_neg (highest.not.mpr above)]
      by_cases received : position ∈ world.received
      · rw [if_pos ((duplicate old).mpr received)]
        exact .inl ⟨received, rfl⟩
      · rw [if_neg ((duplicate old).not.mpr received)]
        rcases sameAside_update world.state.receive _ with ⟨same, told⟩
        refine .inr ⟨received, told, ⟨same.1, same.2⟩, fun admitted => ?_⟩
        refine kept.updateGapList (kept.shows.congr rfl rfl rfl rfl) window
          (Nat.le_of_not_lt old) ?_ (nonzero received admitted)
        exact fun among => received (unlisted.mpr (.inr among))

theorem kept_step (kept : ∃ intervals, Kept world intervals)
    (admitted : Admits world event) (taken : step world event next) :
    ∃ intervals, Kept next intervals := by
  obtain ⟨intervals, kept⟩ := kept
  cases event with
  | dataArrived position =>
    rcases taken with ⟨window, rfl⟩
    by_cases stopped : world.state.stopReceiving = true
    · refine ⟨intervals, ?_⟩
      rw [World.arrive, SCTPStateVariables.processDataArrived, if_pos stopped, if_pos stopped]
      exact ⟨kept.shows.congr rfl rfl rfl rfl, kept.placed, kept.covers,
        kept.inWindow, kept.duplicates⟩
    · have running := Bool.eq_false_of_not_eq_true stopped
      have received :
          (world.arrive position).received = insert position world.received := if_neg stopped
      have whole :
          world.arrive position =
            ⟨(world.arrive position).state, insert position world.received⟩ := by
        rw [← received]
      rw [whole]
      rcases kept.arrival_cases window running with old | new
      · rcases old with ⟨member, same⟩
        rw [same]
        exact ⟨intervals, kept.addDuplicate member⟩
      · rcases new with ⟨_, _, aside, shows⟩
        exact ⟨_, kept.takeIn aside (shows admitted) window⟩
  | sackSent =>
    rcases taken with rfl
    exact ⟨intervals, kept.shows.congr rfl rfl rfl rfl, kept.placed,
      kept.covers, kept.inWindow, nofun⟩
  | shutdown =>
    rcases taken with rfl
    exact ⟨intervals, kept.shows.congr rfl rfl rfl rfl, kept.placed,
      kept.covers, kept.inWindow, kept.duplicates⟩

theorem Kept.tellsNew (kept : Kept world intervals) : TellsNew world := by
  intro position window running
  rcases kept.arrival_cases window running with old | new
  · rcases old with ⟨member, same⟩
    refine iff_of_false ?_ (fun new => new member)
    change (world.arrive position).state.newChunkReceived ≠ true
    rw [same]
    unfold SCTPStateVariables.addDuplicate
    split_ifs <;> exact Bool.false_ne_true
  · exact iff_of_true new.2.1 new.1

theorem describes_of_covered (placed : Placed (cumulative :: gaps)) (first : cumulative.lower = 0)
    (covers : covered (cumulative :: gaps) = insert 0 received) :
    Describes received (cumulative.upper - 1) gaps.length
      (fun i => (gaps[i]?.map HalfOpen.lower).getD 0)
      (fun i => (gaps[i]?.map fun gap => gap.upper - 1).getD 0) := by
  have parts := separated_cons.mp placed.separated
  have shape := cumulative.nonempty
  have start {i : Nat} (bound : i < gaps.length) :
      (gaps[i]?.map HalfOpen.lower).getD 0 = gaps[i].lower := by
    rw [List.getElem?_eq_getElem _]
    rfl
  have stop {i : Nat} (bound : i < gaps.length) :
      (gaps[i]?.map fun gap => gap.upper - 1).getD 0 = gaps[i].upper - 1 := by
    rw [List.getElem?_eq_getElem _]
    rfl
  have member {position : Nat} (positive : 1 ≤ position) :
      position ∈ received ↔ position < cumulative.upper ∨ position ∈ covered gaps := by
    have same : position ∈ insert 0 received ↔ position ∈ received := or_iff_right (by omega)
    rw [← same, ← covers, covered_cons]
    change (cumulative.lower ≤ position ∧ position < cumulative.upper) ∨ _ ↔ _
    rw [first]
    simp
  constructor
  · intro _ positive _
    exact (member positive).mpr (.inl (by omega))
  · intro received
    have upper : cumulative.upper - 1 + 1 = cumulative.upper := by omega
    rw [upper] at received
    have inside : cumulative.upper ∈ covered (cumulative :: gaps) := by
      rw [covers]
      exact Set.mem_insert_of_mem 0 received
    exact placed.separated.upper_notMem List.mem_cons_self inside
  · intro i bound
    have nonempty := gaps[i].nonempty
    rw [start bound, stop bound]
    omega
  · intro i bound
    have apart := List.pairwise_iff_getElem.mp parts.2 i _ (by omega) bound (Nat.lt_succ_self i)
    have nonempty := gaps[i].nonempty
    rw [start bound, stop (by omega)]
    omega
  · intro some
    have apart := parts.1 gaps[0] (List.getElem_mem _)
    rw [start some]
    omega
  · intro i bound
    have within := placed.within gaps[i] (List.mem_cons_of_mem _ (List.getElem_mem _))
    rw [stop bound]
    omega
  · intro _ _
    rw [member (by omega)]
    constructor
    · rintro (below | ⟨gap, among, inside⟩)
      · omega
      · obtain ⟨i, bound, rfl⟩ := List.mem_iff_getElem.mp among
        rcases inside with ⟨lower, upper⟩
        refine ⟨i, bound, ?_, ?_⟩
        · rwa [start _]
        · rw [stop bound]
          omega
    · rintro ⟨i, bound, lower, upper⟩
      rw [start bound] at lower
      rw [stop bound] at upper
      exact .inr ⟨gaps[i], List.getElem_mem bound, lower, by omega⟩

theorem Kept.exact (kept : Kept world intervals) : Exact world := by
  obtain ⟨_, gaps, rfl, first⟩ := kept.exists_cumulative
  rcases kept.shows with ⟨cTsnAck, numGaps, starts, stops⟩
  have described := describes_of_covered kept.placed first kept.covers
  rw [← numGaps] at described
  refine ⟨_, _, _, cTsnAck.trans (highest_eq_number _ _), ?_, described⟩
  intro i _
  have found : gaps[i]? = some gaps[i] := List.getElem?_eq_getElem _
  have start := starts i _ (by rw [List.getElem?_map, found]; rfl)
  have stop := stops i _ (by rw [List.getElem?_map, found]; rfl)
  rw [start, stop, found]
  exact ⟨rfl, highest_eq_number _ _⟩

end Arrivals

/-! ## Runs -/

/--
In a run in which no range starts with TSN 0 when a new chunk comes, `cTsnAck`
and the arrays tell exactly which chunks are received, and a chunk is taken
for new exactly if it is not.
-/
theorem exact_run {initPeerTsn : Tsn} {events : List Event} {last : World}
    (run : Run (guardedStep Admits step) (.start initPeerTsn) events last) :
    Exact last ∧ TellsNew last := by
  obtain ⟨_, kept⟩ :=
    run.guarded (fun _ _ _ kept admitted taken => kept_step kept admitted taken) ⟨_, kept_start _⟩
  exact ⟨kept.exact, kept.tellsNew⟩

/-- The third chunk comes before the second. -/
def overtaken (initPeerTsn : Tsn) : World :=
  (((World.start initPeerTsn).arrive 1).arrive 3).arrive 2

theorem exact_run_overtaken : Exact (overtaken 0x7FFFFFFF) ∧ TellsNew (overtaken 0x7FFFFFFF) := by
  have run :
      Run (guardedStep Admits step) (.start 0x7FFFFFFF)
        [.dataArrived 1, .dataArrived 3, .dataArrived 2] (overtaken 0x7FFFFFFF) :=
    .next ⟨by decide, by decide, rfl⟩ <| .next ⟨by decide, by decide, rfl⟩ <|
      .next ⟨by decide, by decide, rfl⟩ <| .idle _
  exact exact_run run

/-- The chunk with TSN 0 comes before the one with the highest TSN. -/
def wrapped : World :=
  ((World.start 0xFFFFFFFE).arrive 3).arrive 2

/-- The range of the second chunk is put behind that of the third. -/
theorem ranges_out_of_order :
    Run step (.start 0xFFFFFFFE) [.dataArrived 3, .dataArrived 2] wrapped ∧
      wrapped.state.numGaps = 2 ∧ wrapped.state.gapStartList 0 = 0 ∧
      wrapped.state.gapStartList 1 = 0xFFFFFFFF ∧ ¬Exact wrapped := by
  refine ⟨?_, rfl, by decide, by decide, ?_⟩
  · exact .next ⟨by decide, rfl⟩ <| .next ⟨by decide, rfl⟩ <| .idle _
  · rintro ⟨_, _, _, _, numbers, described⟩
    have first := (numbers 0 (by decide)).1
    have second := (numbers 1 (by decide)).1
    have three : wrapped.state.gapStartList 0 = number wrapped.state.base 3 := by decide
    have two : wrapped.state.gapStartList 1 = number wrapped.state.base 2 := by decide
    have firstOrdered := described.ordered 0 (by decide)
    have firstWithin := described.within 0 (by decide)
    have secondOrdered := described.ordered 1 (by decide)
    have secondWithin := described.within 1 (by decide)
    have apart := described.apart 0 (by decide)
    rw [three, number_eq_iff (by decide) (by omega)] at first
    rw [two, number_eq_iff (by decide) (by omega)] at second
    rw [Nat.zero_add] at apart
    omega

end OmnetDsi.Sctp.GapLists
