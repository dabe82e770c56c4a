import OmnetDsi.Ipv4.FoundRoutes

/-!
# Sharing out the packets of a flow

`fill_delay_load_matrix` gives the routes of a flow their packet counts in
column 6, in inverse proportion to the loads in column 7.
`adjust_packet_count` withdraws a route: its count becomes -1, and what was
left of it is shared out among the routes whose count is not -1.

Both change nothing but counts (`Recounted`), and a count that was a whole
number stays one.  A withdrawn route stays withdrawn.
-/

namespace OmnetDsi.Ipv4.LoadShares

open Library.BinaryFloat Library.Fallible Ipv4.DelayLoadMatrix
open OmnetDsi.Ipv4.FoundRoutes (routesFound)

/-! ## Shares -/

def NUM_PACKETS : ℤ :=
  1000

/-- What an `int` holds after a sum: it wraps around. -/
def int32 (k : ℤ) : ℤ :=
  k.bmod (2 ^ 32)

/-- `((1 / load) * packets) / total`. -/
def share (packets : ℤ) (total load : Datum) : Datum :=
  div binary32 (mul binary32 (div binary32 (.finite 1) load) (toFloat packets)) total

/-- A count with a share rounded to a whole number, but not below zero. -/
def addShare (count temp : Datum) : Datum :=
  let temp2 := toInt (floor temp)
  let temp1 := sub binary32 temp (toFloat temp2)
  let count :=
    if le (.finite (1 / 2)) temp1 then add binary32 count (ceil temp)
    else if lt temp1 (.finite (1 / 2)) then add binary32 count (floor temp)
    else count
  if lt count (.finite 0) then .finite 0 else count

/-! ## The allotment of a flow -/

/-- The loop variables of the allotment; the positions may stay unset. -/
structure Allotment where
  plane : Plane
  maxi : ℤ := -1
  mini : ℤ := 99999999
  posi_max : Option Nat := none
  posi_min : Option Nat := none

/-- The comparison of a new count with the extreme ones so far. -/
def Allotment.noted (allotment : Allotment) (row : Nat) (count : Datum) : Allotment :=
  let allotment :=
    if lt (toFloat allotment.maxi) count then
      { allotment with maxi := toInt count, posi_max := some row }
    else allotment
  if lt count (toFloat allotment.mini) then
    { allotment with mini := toInt count, posi_min := some row }
  else allotment

/-- One route's part of the sum of the inverse loads. -/
def addInverse (plane : Plane) (row : Nat) (total : Datum) : Except Fault Datum := do
  let load ← plane.read row 7
  return add binary32 total (div binary32 (.finite 1) load)

def addCount (plane : Plane) (row : Nat) (retotal : ℤ) : Except Fault ℤ := do
  let count ← plane.read row 6
  return toInt (add binary32 (toFloat retotal) count)

def allotRow (total : Datum) (row : Nat) (allotment : Allotment) : Except Fault Allotment := do
  let load ← allotment.plane.read row 7
  let count ← allotment.plane.read row 6
  let temp := share NUM_PACKETS total load
  let count := if lt (.finite (1 / 2)) temp then addShare count temp else .finite 0
  let plane ← allotment.plane.write row 6 count
  return { allotment with plane }.noted row count

/-- The count of the route at a position is changed. -/
def changeCount (plane : Plane) (posi : Option Nat) (change : Datum → Datum) : Except Fault Plane :=
  match posi with
  | none => .error .indeterminate
  | some row => do
      let count ← plane.read row 6
      plane.write row 6 (change count)

/-- What the sum differs from the number of packets is put right. -/
def evenOut (allotment : Allotment) (retotal : ℤ) : Except Fault Plane :=
  if retotal > NUM_PACKETS then
    changeCount allotment.plane allotment.posi_max fun count =>
      sub binary32 count (toFloat (int32 (retotal - NUM_PACKETS)))
  else if retotal < NUM_PACKETS then
    changeCount allotment.plane allotment.posi_min fun count =>
      add binary32 count (toFloat (int32 (NUM_PACKETS - retotal)))
  else .ok allotment.plane

def fill_delay_load_matrix (plane : Plane) : Except Fault Plane := do
  let found ← plane.read 1 0
  let routes_found_so_far := (toInt found).toNat
  let total ← forLoop (addInverse plane) routes_found_so_far (.finite 0)
  let retotal_before ← forLoop (addCount plane) routes_found_so_far 0
  let retotal_before := int32 (-retotal_before)
  let allotment ← forLoop (allotRow total) routes_found_so_far { plane }
  let retotal_after ← forLoop (addCount allotment.plane) routes_found_so_far 0
  evenOut allotment (int32 (retotal_before + retotal_after))

/-! ## The withdrawal of a route -/

/-- The count of a withdrawn route. -/
def withdrawnCount : Datum :=
  toFloat (-1)

def addOtherInverse (plane : Plane) (roh : Nat) (total : Datum) : Except Fault Datum := do
  let count ← plane.read roh 6
  if eq count withdrawnCount then return total else addInverse plane roh total

def readjustRow (packet_left_along_this_path : ℤ) (total : Datum) (roh : Nat)
    (plane : Plane) : Except Fault Plane := do
  let count ← plane.read roh 6
  if eq count withdrawnCount then return plane
  else
    let load ← plane.read roh 7
    let temp := share packet_left_along_this_path total load
    if lt (.finite (1 / 2)) temp then plane.write roh 6 (addShare count temp) else return plane

def adjust_packet_count (plane : Plane) (row num_routes_found : Nat) : Except Fault Plane := do
  let count ← plane.read row 6
  let packet_left_along_this_path := toInt count
  let plane ← plane.write row 6 withdrawnCount
  let total ← forLoop (addOtherInverse plane) num_routes_found (.finite 0)
  forLoop (readjustRow packet_left_along_this_path total) num_routes_found plane

/-- One column of a row is compared with the far end of the failed link. -/
def checkColumn (dest_link_failure_address num_routes_found row d : Nat)
    (plane : Plane) : Except Fault Plane := do
  let switch ← plane.read row (d + 2)
  if eq (toFloat dest_link_failure_address) switch then
    adjust_packet_count plane row num_routes_found
  else return plane

/-- The part of `route_link_failure_packet` for one flow. -/
def withdrawRoutes (dest_link_failure_address : Nat) (plane : Plane) : Except Fault Plane := do
  let found ← plane.read 1 0
  let num_routes_found := (toInt found).toNat
  forLoop (fun row => forLoop (checkColumn dest_link_failure_address num_routes_found row) 4)
    num_routes_found plane

/-! ## What changes -/

/-- Only the counts of the first routes have changed, as whole numbers. -/
structure Recounted (found : Nat) (plane next : Plane) : Prop where
  rows : next.rows = plane.rows
  elsewhere : ∀ row col, col ≠ 6 ∨ found ≤ row → next.cell row col = plane.cell row col
  whole : ∀ row, IsWhole (plane.cell row 6) → IsWhole (next.cell row 6)

variable {row : Nat}

namespace Recounted

theorem refl (found : Nat) (plane : Plane) : Recounted found plane plane where
  rows := rfl
  elsewhere _ _ _ := rfl
  whole _ holds := holds

theorem trans (first : Recounted found plane middle)
    (second : Recounted found middle next) : Recounted found plane next where
  rows := second.rows.trans first.rows
  elsewhere row col other := (second.elsewhere row col other).trans (first.elsewhere row col other)
  whole row holds := second.whole row (first.whole row holds)

theorem set (early : row < found) (whole : IsWhole (plane.cell row 6) → IsWhole value) :
    Recounted found plane (plane.set row 6 value) := by
  constructor
  · rfl
  · intro _ _ _
    apply if_neg
    rintro ⟨rfl, rfl⟩
    omega
  · intro r holds
    rw [Plane.cell_set]
    by_cases same : r = row
    · subst same
      rw [if_pos ⟨rfl, rfl⟩]
      exact whole holds
    · rwa [if_neg (fun both => same both.1)]

end Recounted

theorem isWhole_toFloat (k : ℤ) : IsWhole (toFloat k) :=
  isWhole_ofInt _ k

theorem isWhole_zero : IsWhole (.finite 0) :=
  ⟨0, Int.cast_zero.symm⟩

theorem isWhole_addShare (whole : IsWhole count)
    (temp : Datum) : IsWhole (addShare count temp) := by
  dsimp only [addShare]
  split_ifs
  · exact isWhole_zero
  · exact isWhole_add _ whole (isWhole_ceil _)
  · exact isWhole_zero
  · exact isWhole_add _ whole (isWhole_floor _)
  · exact isWhole_zero
  · exact whole

/-! ## The allotment changes only counts -/

variable {total : Datum}

section Allotting

variable {found : Nat} {plane : Plane} {allotment : Allotment}

@[simp]
theorem noted_plane (row : Nat) (count : Datum) :
    (allotment.noted row count).plane = allotment.plane := by
  dsimp only [Allotment.noted]
  split_ifs <;> rfl

/-- The positions that have been set are those of routes. -/
structure Positions (found : Nat) (allotment : Allotment) : Prop where
  most : ∀ row ∈ allotment.posi_max, row < found
  least : ∀ row ∈ allotment.posi_min, row < found

theorem positions_noted (early : row < found)
    (positions : Positions found allotment) (count : Datum) :
    Positions found (allotment.noted row count) := by
  have here : ∀ r ∈ some row, r < found := by
    intro _ same
    cases same
    exact early
  dsimp only [Allotment.noted]
  split_ifs
  · exact ⟨here, here⟩
  · exact ⟨here, positions.least⟩
  · exact ⟨positions.most, here⟩
  · exact positions

theorem allotRow_recounted (early : row < found)
    (success : allotRow total row allotment = .ok after) (positions : Positions found allotment) :
    Recounted found allotment.plane after.plane ∧ Positions found after := by
  rcases bind_eq_ok.mp success with ⟨_, _, later⟩
  rcases bind_eq_ok.mp later with ⟨_, read, later⟩
  rcases bind_eq_ok.mp later with ⟨_, write, same⟩
  rcases Plane.read_eq_ok.mp read with ⟨_, rfl⟩
  rcases Plane.write_eq_ok.mp write with ⟨_, rfl⟩
  cases same
  constructor
  · rw [noted_plane]
    apply Recounted.set early
    intro whole
    split_ifs
    · exact isWhole_addShare whole _
    · exact isWhole_zero
  · apply positions_noted early
    exact ⟨positions.most, positions.least⟩

/-- What the loop over the rows keeps. -/
structure Allotted (found : Nat) (plane : Plane) (allotment : Allotment) : Prop where
  recounted : Recounted found plane allotment.plane
  positions : Positions found allotment

theorem allotted_start (found : Nat) (plane : Plane) : Allotted found plane { plane } := by
  refine ⟨.refl _ _, ?_, ?_⟩
  all_goals
    intro _ member
    cases member

theorem Allotted.step (allotted : Allotted found plane allotment)
    (early : row < found) {after : Allotment} (success : allotRow total row allotment = .ok after) :
    Allotted found plane after := by
  have one := allotRow_recounted early success allotted.positions
  exact ⟨allotted.recounted.trans one.1, one.2⟩

theorem allotted_of_loop (success : forLoop (allotRow total) found { plane } = .ok allotment) :
    Allotted found plane allotment := by
  refine forLoop_invariant (fun _ state => Allotted _ _ state) ?_ (allotted_start _ _) success
  intro _ early _ _ holds step
  exact holds.step early step

theorem changeCount_recounted
    (position : ∀ row ∈ posi, row < found) (whole : ∀ count, IsWhole count → IsWhole (change count))
    (success : changeCount plane posi change = .ok next) : Recounted found plane next := by
  cases posi with
  | none => cases success
  | some _ =>
    rcases bind_eq_ok.mp success with ⟨_, read, write⟩
    rcases Plane.read_eq_ok.mp read with ⟨_, rfl⟩
    rcases Plane.write_eq_ok.mp write with ⟨_, rfl⟩
    exact .set (position _ rfl) (whole _)

theorem evenOut_recounted (positions : Positions found allotment)
    (success : evenOut allotment retotal = .ok next) : Recounted found allotment.plane next := by
  unfold evenOut at success
  split_ifs at success
  · apply changeCount_recounted positions.most _ success
    intro _ whole
    exact isWhole_sub _ whole (isWhole_toFloat _)
  · apply changeCount_recounted positions.least _ success
    intro _ whole
    exact isWhole_add _ whole (isWhole_toFloat _)
  · cases success
    exact .refl _ _

theorem fill_delay_load_matrix_recounted (success : fill_delay_load_matrix plane = .ok next) :
    Recounted (routesFound plane) plane next := by
  rcases bind_eq_ok.mp success with ⟨_, read, later⟩
  rcases Plane.read_eq_ok.mp read with ⟨_, rfl⟩
  rcases bind_eq_ok.mp later with ⟨_, _, later⟩
  rcases bind_eq_ok.mp later with ⟨_, _, later⟩
  rcases bind_eq_ok.mp later with ⟨_, allotted, later⟩
  rcases bind_eq_ok.mp later with ⟨_, _, evened⟩
  have loop := allotted_of_loop allotted
  exact loop.recounted.trans (evenOut_recounted loop.positions evened)

end Allotting

/-! ## A withdrawn route stays withdrawn -/

section Withdrawing

theorem withdrawnCount_eq : withdrawnCount = .finite (-1) := by
  have value := toFloat_of_bits (k := -1) (by decide)
  exact value

theorem eq_withdrawnCount : eq count withdrawnCount = true ↔ count = withdrawnCount := by
  rw [withdrawnCount_eq]
  cases count with
  | nan => simp [eq]
  | infinity _ => simp [eq]
  | finite _ => simp

/-- Counts have changed, but no withdrawn route has got packets. -/
structure Readjusted (found : Nat) (plane next : Plane) : Prop where
  recounted : Recounted found plane next
  stays : ∀ row, plane.cell row 6 = withdrawnCount → next.cell row 6 = withdrawnCount

theorem Readjusted.refl (found : Nat) (plane : Plane) : Readjusted found plane plane :=
  ⟨.refl _ _, fun _ holds => holds⟩

theorem Readjusted.trans (first : Readjusted found plane middle)
    (second : Readjusted found middle next) : Readjusted found plane next :=
  ⟨first.recounted.trans second.recounted, fun row holds => second.stays _ (first.stays _ holds)⟩

theorem readjustRow_readjusted (early : roh < found)
    (success : readjustRow packet_left total roh plane = .ok next) :
    Readjusted found plane next := by
  rcases bind_eq_ok.mp success with ⟨_, read, later⟩
  rcases Plane.read_eq_ok.mp read with ⟨_, rfl⟩
  split_ifs at later with withdrawn
  · cases later
    exact .refl _ _
  · rcases bind_eq_ok.mp later with ⟨_, _, later⟩
    dsimp only at later
    split_ifs at later
    · rcases Plane.write_eq_ok.mp later with ⟨_, rfl⟩
      constructor
      · apply Recounted.set early
        intro whole
        exact isWhole_addShare whole _
      · intro _ holds
        rw [Plane.cell_set, if_neg]
        · exact holds
        · rintro ⟨rfl, _⟩
          exact withdrawn (eq_withdrawnCount.mpr holds)
    · cases later
      exact .refl _ _

theorem adjust_packet_count_readjusted (early : row < found)
    (success : adjust_packet_count plane row found = .ok next) :
    Readjusted found plane next ∧ next.cell row 6 = withdrawnCount := by
  rcases bind_eq_ok.mp success with ⟨_, _, later⟩
  rcases bind_eq_ok.mp later with ⟨_, write, later⟩
  rcases bind_eq_ok.mp later with ⟨_, _, loop⟩
  rcases Plane.write_eq_ok.mp write with ⟨_, rfl⟩
  have first : Readjusted found plane (plane.set row 6 withdrawnCount) := by
    constructor
    · exact .set early fun _ => isWhole_toFloat _
    · intro _ holds
      rw [Plane.cell_set]
      split_ifs
      · rfl
      · exact holds
  have second : Readjusted found (plane.set row 6 withdrawnCount) next := by
    refine forLoop_invariant (fun _ state => Readjusted _ _ state) ?_ (.refl _ _) loop
    intro _ before _ _ holds step
    exact holds.trans (readjustRow_readjusted before step)
  refine ⟨first.trans second, ?_⟩
  apply second.stays
  simp

/-- The far end of the link is in one of the columns of a row. -/
def Listed (dest : Nat) (plane : Plane) (row : Nat) : Prop :=
  ∃ d < 4, eq (toFloat dest) (plane.cell row (d + 2)) = true

theorem checkColumn_readjusted (early : row < found)
    (success : checkColumn dest found row d plane = .ok next) :
    Readjusted found plane next ∧
      (eq (toFloat dest) (plane.cell row (d + 2)) = true → next.cell row 6 = withdrawnCount) := by
  rcases bind_eq_ok.mp success with ⟨_, read, later⟩
  rcases Plane.read_eq_ok.mp read with ⟨_, rfl⟩
  split_ifs at later with matched
  · have adjusted := adjust_packet_count_readjusted early later
    exact ⟨adjusted.1, fun _ => adjusted.2⟩
  · cases later
    exact ⟨.refl _ _, fun absurdly => absurd absurdly matched⟩

theorem checkRow_readjusted (early : row < found)
    (success : forLoop (checkColumn dest found row) 4 plane = .ok next) :
    Readjusted found plane next ∧ (Listed dest plane row → next.cell row 6 = withdrawnCount) := by
  have loop :
      Readjusted found plane next ∧
        ∀ d < 4, eq (toFloat dest) (plane.cell row (d + 2)) = true →
          next.cell row 6 = withdrawnCount := by
    refine forLoop_invariant
      (fun count state =>
        Readjusted _ _ state ∧
          ∀ d < count,
            eq _ (plane.cell _ (d + 2)) = true → state.cell _ 6 = withdrawnCount) ?_ ?_ success
    · intro _ _ _ _ holds step
      have one := checkColumn_readjusted early step
      refine ⟨holds.1.trans one.1, ?_⟩
      intro e before matched
      rcases Nat.lt_succ_iff_lt_or_eq.mp before with earlier | rfl
      · exact one.1.stays _ (holds.2 e earlier matched)
      · apply one.2
        rwa [holds.1.recounted.elsewhere _ _ (.inl (by omega))]
    · refine ⟨.refl _ _, ?_⟩
      intro d impossible
      exact absurd impossible (Nat.not_lt_zero d)
  refine ⟨loop.1, ?_⟩
  rintro ⟨d, inside, matched⟩
  exact loop.2 d inside matched

/-- After a link failure the routes that list its far end are withdrawn. -/
theorem withdrawRoutes_readjusted (success : withdrawRoutes dest plane = .ok next) :
    Readjusted (routesFound plane) plane next ∧
      ∀ row < routesFound plane, Listed dest plane row → next.cell row 6 = withdrawnCount := by
  rcases bind_eq_ok.mp success with ⟨_, read, loop⟩
  rcases Plane.read_eq_ok.mp read with ⟨_, rfl⟩
  refine forLoop_invariant
    (fun count state =>
      Readjusted _ _ state ∧
        ∀ row < count, Listed _ _ row → state.cell row 6 = withdrawnCount) ?_ ?_ loop
  · intro _ early _ _ holds step
    have one := checkRow_readjusted early step
    refine ⟨holds.1.trans one.1, ?_⟩
    intro r before listed
    rcases Nat.lt_succ_iff_lt_or_eq.mp before with earlier | rfl
    · exact one.1.stays r (holds.2 r earlier listed)
    · apply one.2
      rcases listed with ⟨d, inside, matched⟩
      refine ⟨d, inside, ?_⟩
      rwa [holds.1.recounted.elsewhere r _ (.inl (by omega))]
  · refine ⟨.refl _ _, ?_⟩
    intro _ impossible
    exact absurd impossible (Nat.not_lt_zero _)

end Withdrawing

end OmnetDsi.Ipv4.LoadShares
