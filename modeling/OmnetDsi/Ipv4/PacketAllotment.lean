import Mathlib.Algebra.Order.BigOperators.Group.Finset
import OmnetDsi.Ipv4.LoadShares

/-!
# Shares without float rounding

`fill_delay_load_matrix` and `adjust_packet_count` on whole counts, with the
loads and shares in any ordered field with a floor.  The shares are rounded to
whole packets as in the source, and nothing else is rounded.

The correction at the end of the allotment makes up for the rounding, but it
is made in one row.  The withdrawal of a route makes up for nothing.
-/

namespace OmnetDsi.Ipv4.PacketAllotment

open Function
open Finset
open OmnetDsi.Ipv4.DelayLoadMatrix (Fault)
open OmnetDsi.Ipv4.LoadShares (NUM_PACKETS)

section Exact

variable [Field K] [LinearOrder K] [FloorRing K]

/-! ## The allotment -/

/-- A count with a share rounded to a whole number, but not below zero. -/
def addShare (count : ℤ) (temp : K) : ℤ :=
  let temp1 := temp - ⌊temp⌋
  let count :=
    if 1 / 2 ≤ temp1 then count + ⌈temp⌉
    else if temp1 < 1 / 2 then count + ⌊temp⌋
    else count
  if count < 0 then 0 else count

/-- The loop variables of the allotment; the positions may stay unset. -/
structure Allotment where
  counts : Nat → ℤ
  maxi : ℤ := -1
  mini : ℤ := 99999999
  posi_max : Option Nat := none
  posi_min : Option Nat := none

def Allotment.notedMax (allotment : Allotment) (row : Nat) (count : ℤ) : Allotment :=
  if allotment.maxi < count then { allotment with maxi := count, posi_max := some row }
  else allotment

def Allotment.notedMin (allotment : Allotment) (row : Nat) (count : ℤ) : Allotment :=
  if allotment.mini > count then { allotment with mini := count, posi_min := some row }
  else allotment

/-- The new count of a row. -/
def allotted (count : ℤ) (temp : K) : ℤ :=
  if 1 / 2 < temp then addShare count temp else 0

/-- The body of the loop over the routes. -/
def allotRow (shares : Nat → K) (row : Nat) (allotment : Allotment) : Allotment :=
  let count := allotted (allotment.counts row) (shares row)
  (({ allotment with counts := update allotment.counts row count }.notedMax
    row count).notedMin row count)

def allotRows (shares : Nat → K) (counts : Nat → ℤ) : Nat → Allotment
  | 0 => { counts }
  | row + 1 => allotRow shares row (allotRows shares counts row)

/-- The count of the route at a position is changed. -/
def changeCount (counts : Nat → ℤ) (posi : Option Nat) (change : ℤ) : Except Fault (Nat → ℤ) :=
  match posi with
  | none => .error .indeterminate
  | some row => .ok (update counts row (counts row + change))

/-- What the sum differs from the number of packets is put right. -/
def evenOut (allotment : Allotment) (retotal : ℤ) : Except Fault (Nat → ℤ) :=
  if retotal > NUM_PACKETS then
    changeCount allotment.counts allotment.posi_max (-(retotal - NUM_PACKETS))
  else if retotal < NUM_PACKETS then
    changeCount allotment.counts allotment.posi_min (NUM_PACKETS - retotal)
  else .ok allotment.counts

/-- The allotment with any shares. -/
def allot (routes_found_so_far : Nat) (shares : Nat → K) (counts : Nat → ℤ) :
    Except Fault (Nat → ℤ) :=
  let retotal_before := -∑ row ∈ range routes_found_so_far, counts row
  let allotment := allotRows shares counts routes_found_so_far
  let retotal_after := ∑ row ∈ range routes_found_so_far, allotment.counts row
  evenOut allotment (retotal_before + retotal_after)

/-- `((1 / load) * packets) / total`. -/
def share (packets : ℤ) (total load : K) : K :=
  1 / load * packets / total

def fill_delay_load_matrix (routes_found_so_far : Nat) (loads : Nat → K)
    (counts : Nat → ℤ) : Except Fault (Nat → ℤ) :=
  let total := ∑ row ∈ range routes_found_so_far, 1 / loads row
  allot routes_found_so_far (fun row => share NUM_PACKETS total (loads row)) counts

/-! ## The withdrawal of a route -/

def readjustRow (packet_left_along_this_path : ℤ) (total : K) (loads : Nat → K)
    (counts : Nat → ℤ) (roh : Nat) : Nat → ℤ :=
  if counts roh ≠ -1 then
    let temp := share packet_left_along_this_path total (loads roh)
    if 1 / 2 < temp then update counts roh (addShare (counts roh) temp) else counts
  else counts

def readjustRows (packet_left_along_this_path : ℤ) (total : K)
    (loads : Nat → K) (counts : Nat → ℤ) : Nat → Nat → ℤ
  | 0 => counts
  | roh + 1 =>
    readjustRow packet_left_along_this_path total loads
      (readjustRows packet_left_along_this_path total loads counts roh) roh

def adjust_packet_count (row num_routes_found : Nat) (loads : Nat → K)
    (counts : Nat → ℤ) : Nat → ℤ :=
  let packet_left_along_this_path := counts row
  let counts := update counts row (-1)
  let total := ∑ roh ∈ range num_routes_found, if counts roh ≠ -1 then 1 / loads roh else 0
  readjustRows packet_left_along_this_path total loads counts num_routes_found

/-! ## Rounded shares -/

/-- A share in whole packets: half is rounded up, but dropped alone. -/
def roundedShare (temp : K) : ℤ :=
  if 1 / 2 < temp then
    if 1 / 2 ≤ temp - ⌊temp⌋ then ⌈temp⌉ else ⌊temp⌋
  else 0

theorem addShare_eq {temp : K} (large : 1 / 2 < temp) (count : ℤ) :
    addShare count temp = max 0 (count + roundedShare temp) := by
  dsimp only [addShare, roundedShare]
  split
  · rw [max_def]
    split_ifs
    · omega
    · rfl
    · rfl
    · omega
  case isFalse below =>
    rw [if_pos (not_le.mp below), max_def]
    split_ifs
    · omega
    · rfl
    · rfl
    · omega

theorem allotted_nonneg (count : ℤ) (temp : K) : 0 ≤ allotted count temp := by
  unfold allotted
  split
  case isTrue large =>
    rw [addShare_eq large]
    exact le_max_left _ _
  · exact le_rfl

/-- Without packets in advance, a dropped share is a share of zero. -/
theorem allotted_eq (nonpos : count ≤ 0) (temp : K) :
    allotted count temp = max 0 (count + roundedShare temp) := by
  unfold allotted
  split
  case isTrue large => exact addShare_eq large _
  case isFalse small =>
    rw [roundedShare, if_neg small]
    omega

theorem roundedShare_nonneg [IsStrictOrderedRing K] (temp : K) : 0 ≤ roundedShare temp := by
  unfold roundedShare
  split
  case isTrue large =>
    have positive : (0 : K) ≤ temp := by
      have half : (0 : K) ≤ 1 / 2 := by positivity
      exact half.trans large.le
    split
    · exact Int.ceil_nonneg positive
    · exact Int.floor_nonneg.mpr positive
  · exact le_rfl

end Exact

/-! ## The loop over the routes -/

section Rows

variable [Field K] [LinearOrder K] [FloorRing K]
variable {shares : Nat → K}

@[simp]
theorem counts_notedMax (allotment : Allotment) (row : Nat) (count : ℤ) :
    (allotment.notedMax row count).counts = allotment.counts := by
  unfold Allotment.notedMax
  split
  all_goals rfl

@[simp]
theorem counts_notedMin (allotment : Allotment) (row : Nat) (count : ℤ) :
    (allotment.notedMin row count).counts = allotment.counts := by
  unfold Allotment.notedMin
  split
  all_goals rfl

theorem counts_allotRow (row : Nat) (allotment : Allotment) :
    (allotRow shares row allotment).counts =
      update allotment.counts row (allotted (allotment.counts row) (shares row)) := by
  rw [allotRow, counts_notedMin, counts_notedMax]

theorem counts_allotRows (found row : Nat) :
    (allotRows shares counts found).counts row =
      if row < found then allotted (counts row) (shares row)
      else counts row := by
  induction found generalizing row with
  | zero => rfl
  | succ found induction =>
    rw [allotRows, counts_allotRow]
    rcases Nat.lt_trichotomy row found with before | rfl | after
    · rw [update_of_ne before.ne, induction, if_pos before, if_pos (by omega)]
    · rw [update_self, induction, if_neg (lt_irrefl _), if_pos (Nat.lt_succ_self _)]
    · rw [update_of_ne after.ne', induction, if_neg (by omega), if_neg (by omega)]

theorem maxi_allotRow (row : Nat) (allotment : Allotment) :
    ((allotRow shares row allotment).maxi, (allotRow shares row allotment).posi_max) =
      if allotment.maxi < allotted (allotment.counts row) (shares row) then
        (allotted (allotment.counts row) (shares row), some row)
      else (allotment.maxi, allotment.posi_max) := by
  dsimp only [allotRow, Allotment.notedMin, Allotment.notedMax]
  split_ifs
  all_goals rfl

theorem mini_allotRow (row : Nat) (allotment : Allotment) :
    ((allotRow shares row allotment).mini, (allotRow shares row allotment).posi_min) =
      if allotment.mini > allotted (allotment.counts row) (shares row) then
        (allotted (allotment.counts row) (shares row), some row)
      else (allotment.mini, allotment.posi_min) := by
  dsimp only [allotRow, Allotment.notedMin, Allotment.notedMax]
  split_ifs
  all_goals rfl

/-- The largest count of the rows so far, and where it is. -/
structure Largest (done : Nat) (allotment : Allotment) : Prop where
  bound : ∀ row < done, allotment.counts row ≤ allotment.maxi
  place : done = 0 ∧ allotment.maxi = -1 ∨
    ∃ row < done, allotment.posi_max = some row ∧ allotment.counts row = allotment.maxi

/-- A smallest count has a place, unless all are very large. -/
structure Smallest (done : Nat) (allotment : Allotment) : Prop where
  place : (∀ row < done, 99999999 ≤ allotment.counts row) ∧ allotment.mini = 99999999 ∨
    ∃ row < done, allotment.posi_min = some row

theorem Largest.allotRow (largest : Largest done allotment) :
    Largest (done + 1) (allotRow shares done allotment) := by
  have counted := @counts_allotRow K _ _ _ shares done allotment
  have noted := @maxi_allotRow K _ _ _ shares done allotment
  have nonneg := allotted_nonneg (allotment.counts done) (shares done)
  generalize allotted (allotment.counts done) (shares done) = count at counted noted nonneg
  have here : (PacketAllotment.allotRow shares done allotment).counts done = count := by
    rw [counted, update_self]
  have before : ∀ row < done,
      (PacketAllotment.allotRow shares done allotment).counts row = allotment.counts row := by
    intro _ below
    rw [counted, update_of_ne below.ne]
  split at noted
  case isTrue larger =>
    obtain ⟨maxi, posi⟩ := Prod.mk.injEq .. ▸ noted
    refine ⟨?_, .inr ⟨done, Nat.lt_succ_self _, posi, ?_⟩⟩
    · intro _ below
      rw [maxi]
      rcases Nat.lt_succ_iff_lt_or_eq.mp below with earlier | rfl
      · rw [before _ earlier]
        exact (largest.bound _ earlier).trans larger.le
      · exact here.le
    · rw [here, maxi]
  case isFalse smaller =>
    obtain ⟨maxi, posi⟩ := Prod.mk.injEq .. ▸ noted
    refine ⟨?_, .inr ?_⟩
    · intro _ below
      rw [maxi]
      rcases Nat.lt_succ_iff_lt_or_eq.mp below with earlier | rfl
      · rw [before _ earlier]
        exact largest.bound _ earlier
      · rw [here]
        exact not_lt.mp smaller
    · rcases largest.place with ⟨_, _⟩ | ⟨row, below, found, value⟩
      · omega
      · refine ⟨row, Nat.lt_succ_of_lt below, posi.trans found, ?_⟩
        rw [before row below, value, maxi]

theorem Smallest.allotRow (smallest : Smallest done allotment) :
    Smallest (done + 1) (allotRow shares done allotment) := by
  have counted := @counts_allotRow K _ _ _ shares done allotment
  have noted := @mini_allotRow K _ _ _ shares done allotment
  split at noted
  case isTrue smaller =>
    obtain ⟨_, posi⟩ := Prod.mk.injEq .. ▸ noted
    exact ⟨.inr ⟨done, Nat.lt_succ_self _, posi⟩⟩
  case isFalse larger =>
    obtain ⟨mini, posi⟩ := Prod.mk.injEq .. ▸ noted
    rcases smallest.place with ⟨large, unset⟩ | ⟨row, below, found⟩
    · refine ⟨.inl ⟨?_, mini.trans unset⟩⟩
      intro _ below
      rw [counted]
      rcases Nat.lt_succ_iff_lt_or_eq.mp below with earlier | rfl
      · rw [update_of_ne earlier.ne]
        exact large _ earlier
      · rw [update_self]
        omega
    · exact ⟨.inr ⟨row, Nat.lt_succ_of_lt below, posi.trans found⟩⟩

theorem largest_allotRows (found : Nat) : Largest found (allotRows shares counts found) := by
  induction found with
  | zero => exact ⟨fun row below => absurd below (Nat.not_lt_zero _), .inl ⟨rfl, rfl⟩⟩
  | succ _ induction => exact induction.allotRow

theorem smallest_allotRows (found : Nat) : Smallest found (allotRows shares counts found) := by
  induction found with
  | zero => exact ⟨.inl ⟨fun row below => absurd below (Nat.not_lt_zero _), rfl⟩⟩
  | succ _ induction => exact induction.allotRow

end Rows

/-! ## The sum of the counts -/

theorem sum_update (inside : row < found) (counts : Nat → ℤ) (count : ℤ) :
    ∑ other ∈ range found, update counts row count other =
      ∑ other ∈ range found, counts other + (count - counts row) := by
  have member : row ∈ range found := mem_range.mpr inside
  have elsewhere : ∑ other ∈ (range found).erase row, update counts row count other =
      ∑ other ∈ (range found).erase row, counts other := by
    refine sum_congr rfl fun other apart => ?_
    rw [update_of_ne (ne_of_mem_erase apart)]
  rw [← add_sum_erase _ _ member, ← add_sum_erase _ _ member, elsewhere, update_self]
  omega

section Sums

variable [Field K] [LinearOrder K] [FloorRing K]

theorem evenOut_cases (positive : 0 < found)
    (nonpos : ∀ row < found, counts row ≤ 0) (shares : Nat → K) :
    ∃ row < found, ∃ change,
      allot found shares counts =
          .ok (update (allotRows shares counts found).counts row
            ((allotRows shares counts found).counts row + change)) ∧
        change = NUM_PACKETS + ∑ row ∈ range found, counts row -
          ∑ row ∈ range found, (allotRows shares counts found).counts row ∧
        (change < 0 → ∀ other < found,
          (allotRows shares counts found).counts other ≤
            (allotRows shares counts found).counts row) := by
  have largest := @largest_allotRows K _ _ _ shares counts found
  have smallest := @smallest_allotRows K _ _ _ shares counts found
  dsimp only [allot, evenOut]
  generalize allotRows shares counts found = allotment at largest smallest
  have advance : ∑ row ∈ range found, counts row ≤ 0 :=
    sum_nonpos fun row member => nonpos _ (mem_range.mp member)
  split
  case isTrue more =>
    rcases largest.place with ⟨_, _⟩ | ⟨row, below, place, value⟩
    · omega
    · rw [place]
      refine ⟨row, below, _, rfl, by omega, ?_⟩
      intro _ _ inside
      rw [value]
      exact largest.bound _ inside
  case isFalse notMore =>
    split
    case isTrue less =>
      rcases smallest.place with ⟨large, _⟩ | ⟨row, below, place⟩
      · have first : allotment.counts 0 ≤ ∑ row ∈ range found, allotment.counts row := by
          refine single_le_sum (f := allotment.counts) ?_ (mem_range.mpr positive)
          intro _ member
          have := large _ (mem_range.mp member)
          omega
        have := large 0 positive
        unfold NUM_PACKETS at less
        omega
      · rw [place]
        refine ⟨row, below, _, rfl, by omega, ?_⟩
        omega
    · refine ⟨0, positive, 0, ?_, by omega, ?_⟩
      · rw [add_zero, update_eq_self]
      · intro negative
        exact absurd negative (lt_irrefl 0)

end Sums

/-! ## The packets that are allotted -/

section Allotments

variable [Field K] [LinearOrder K] [FloorRing K]

theorem allot_conserves (positive : 0 < found)
    (nonpos : ∀ row < found, counts row ≤ 0) (shares : Nat → K) :
    ∃ next, allot found shares counts = .ok next ∧
      ∑ row ∈ range found, next row = NUM_PACKETS + ∑ row ∈ range found, counts row := by
  obtain ⟨_, inside, _, allotted, _, _⟩ := evenOut_cases positive nonpos shares
  refine ⟨_, allotted, ?_⟩
  rw [sum_update inside]
  omega

/--
For any shares, and so for those in inverse proportion to the loads, the
packets sent in advance and those allotted add up.
-/
theorem packets_allotted (positive : 0 < found) (nonpos : ∀ row < found, counts row ≤ 0) :
    (∀ shares : Nat → K, ∃ next, allot found shares counts = .ok next ∧
        ∑ row ∈ range found, next row = NUM_PACKETS + ∑ row ∈ range found, counts row) ∧
      ∀ loads : Nat → K, (∀ row < found, 0 < loads row) →
        ∃ next, fill_delay_load_matrix found loads counts = .ok next ∧
          ∑ row ∈ range found, next row = NUM_PACKETS + ∑ row ∈ range found, counts row :=
  ⟨allot_conserves positive nonpos, fun _ _ => allot_conserves positive nonpos _⟩

/-- Three routes of equal load, two of which have sent packets already. -/
theorem packets_allotted_three :
    ∃ next,
      fill_delay_load_matrix 3 (fun _ => (1 : ℚ))
          (fun row => if row < 2 then -5 else 0) = .ok next ∧
        ∑ row ∈ range 3, next row = 990 := by
  have nonpos : ∀ row < 3, (if row < 2 then (-5 : ℤ) else 0) ≤ 0 := by decide
  have allotted := (packets_allotted (by decide) nonpos).2 (fun _ => (1 : ℚ)) fun _ _ => by norm_num
  obtain ⟨next, success, equal⟩ := allotted
  exact ⟨next, success, equal.trans (by decide)⟩

/-- What a route takes in all: its share, or more if more has been sent. -/
def taken (share : K) (count : ℤ) : ℤ :=
  max (-count) (roundedShare share)

/--
On one route as many packets remain to be sent as all routes together take
too many.
-/
def Room (found : Nat) (shares : Nat → K) (counts : Nat → ℤ) : Prop :=
  ∃ row < found,
    ∑ other ∈ range found, taken (shares other) (counts other) ≤
      NUM_PACKETS + (taken (shares row) (counts row) + counts row)

theorem allot_nonneg_iff (positive : 0 < found)
    (nonpos : ∀ row < found, counts row ≤ 0) (shares : Nat → K) :
    ∃ next, allot found shares counts = .ok next ∧
      ((∀ row < found, 0 ≤ next row) ↔ Room found shares counts) := by
  obtain ⟨row, inside, change, success, _, largest⟩ := evenOut_cases positive nonpos shares
  have value : ∀ other < found,
      (allotRows shares counts found).counts other =
        taken (shares other) (counts other) + counts other := by
    intro _ below
    rw [counts_allotRows, if_pos below, allotted_eq (nonpos _ below)]
    unfold taken
    omega
  have total : ∑ other ∈ range found, (allotRows shares counts found).counts other =
      ∑ other ∈ range found, taken (shares other) (counts other) +
        ∑ other ∈ range found, counts other := by
    rw [← sum_add_distrib]
    exact sum_congr rfl fun other member => value _ (mem_range.mp member)
  have nonneg : ∀ other < found, 0 ≤ (allotRows shares counts found).counts other := by
    intro _ below
    rw [counts_allotRows, if_pos below]
    exact allotted_nonneg _ _
  refine ⟨_, success, ?_⟩
  constructor
  · intro all
    have here := all _ inside
    rw [update_self, value _ inside] at here
    exact ⟨row, inside, by omega⟩
  · rintro ⟨free, below, _⟩ other inRange
    by_cases same : other = row
    · rw [same, update_self]
      have own := nonneg _ inside
      have freeValue := value _ below
      by_cases negative : change < 0
      · have most := largest negative free below
        omega
      · omega
    · rw [update_of_ne same]
      exact nonneg other inRange

/-- The share of a route of the packets of a flow. -/
def shareOf (found : Nat) (loads : Nat → K) (row : Nat) : K :=
  share NUM_PACKETS (∑ other ∈ range found, 1 / loads other) (loads row)

end Allotments

/-! ## The packets that are shared out again -/

section Withdrawals

variable [Field K] [LinearOrder K] [FloorRing K]
variable {loads : Nat → K}

/-- The new count of a row. -/
def readjusted (packets : ℤ) (total load : K) (count : ℤ) : ℤ :=
  if count ≠ -1 ∧ 1 / 2 < share packets total load then addShare count (share packets total load)
  else count

theorem readjustRow_eq (packets : ℤ) (total : K) (roh : Nat) :
    readjustRow packets total loads counts roh =
      update counts roh (readjusted packets total (loads roh) (counts roh)) := by
  dsimp only [readjustRow, readjusted]
  split
  case isTrue usable =>
    split
    case isTrue large => rw [if_pos ⟨usable, large⟩]
    case isFalse small => rw [if_neg (fun both => small both.2), update_eq_self]
  case isFalse unusable => rw [if_neg (fun both => unusable both.1), update_eq_self]

theorem readjustRows_apply (packets : ℤ) (total : K) (found row : Nat) :
    readjustRows packets total loads counts found row =
      if row < found then readjusted packets total (loads row) (counts row)
      else counts row := by
  induction found generalizing row with
  | zero => rfl
  | succ found induction =>
    rw [readjustRows, readjustRow_eq]
    rcases Nat.lt_trichotomy row found with before | rfl | after
    · rw [update_of_ne before.ne, induction, if_pos before, if_pos (by omega)]
    · rw [update_self, induction, if_neg (lt_irrefl _), if_pos (Nat.lt_succ_self _)]
    · rw [update_of_ne after.ne', induction, if_neg (by omega), if_neg (by omega)]

theorem readjusted_marked (packets : ℤ) (total load : K) :
    readjusted packets total load (-1) = -1 :=
  if_neg fun both => both.1 rfl

/-- A route with packets to share: not the failed one, nor one before. -/
def Surviving (counts : Nat → ℤ) (failed row : Nat) : Prop :=
  row ≠ failed ∧ counts row ≠ -1
deriving Decidable

/-- The sum of the inverse loads of the surviving routes. -/
def survivingTotal (failed found : Nat) (loads : Nat → K) (counts : Nat → ℤ) : K :=
  ∑ row ∈ range found, if Surviving counts failed row then 1 / loads row else 0

theorem adjust_packet_count_failed (failed found : Nat) :
    adjust_packet_count failed found loads counts failed = -1 := by
  rw [adjust_packet_count, readjustRows_apply, update_self, readjusted_marked, ite_self]

theorem adjust_packet_count_marked {row : Nat} (marked : counts row = -1) (found : Nat) :
    adjust_packet_count failed found loads counts row = -1 := by
  have same : update counts failed (-1) row = -1 := by
    rw [update_apply]
    split
    · rfl
    · exact marked
  rw [adjust_packet_count, readjustRows_apply, same, readjusted_marked, ite_self]

theorem adjust_packet_count_surviving
    (inside : row < found) (surviving : Surviving counts failed row) (nonneg : 0 ≤ counts row) :
    adjust_packet_count failed found loads counts row =
      max 0 (counts row + roundedShare (share (counts failed)
        (survivingTotal failed found loads counts) (loads row))) := by
  have total : (∑ roh ∈ range found, if update counts failed (-1) roh ≠ -1 then 1 / loads roh
      else 0) = survivingTotal failed found loads counts := by
    refine sum_congr rfl fun roh _ => ?_
    congr 1
    rw [update_apply]
    unfold Surviving
    split
    case isTrue same => simp [same]
    case isFalse other => simp [other]
  have here : update counts failed (-1) row = counts row := update_of_ne surviving.1 _ _
  rw [adjust_packet_count, total, readjustRows_apply, here, if_pos inside]
  unfold readjusted
  split
  case isTrue large => exact addShare_eq large.2 _
  case isFalse small =>
    have dropped : ¬1 / 2 < share (counts failed)
        (survivingTotal failed found loads counts) (loads row) :=
      fun large => small ⟨surviving.2, large⟩
    rw [roundedShare, if_neg dropped]
    omega

/-- The counts of the surviving routes rise by the packets that were left. -/
structure Conserves (failed found : Nat) (counts next : Nat → ℤ) : Prop where
  raised :
    ∑ row ∈ range found, (if Surviving counts failed row then next row - counts row else 0) =
      counts failed
  notLowered : ∀ row < found, Surviving counts failed row → counts row ≤ next row
  marked : next failed = -1
  excluded : ∀ row < found, row ≠ failed → counts row = -1 → next row = -1

end Withdrawals

end OmnetDsi.Ipv4.PacketAllotment
