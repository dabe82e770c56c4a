import OmnetDsi.Ipv4.RouteDiscovery
import OmnetDsi.Library.Fallible
import Mathlib.Tactic.IntervalCases

/-!
# The delay and load matrix of an edge switch

`delay_load_matrix[dest][src_host][dest_host]` holds the routes of one flow,
one route a row: in column 1 its delay, in columns 2 and 3 the aggregate and
the core switch on the way up, in 4 and 5 those on the way down, in 6 the
number of packets still to be sent and in 7 its load.  Column 0 of the first
three rows holds the mode of the flow, the number of routes found and the
number of loads received.

A `Plane` is this table of one flow.  The source reads and writes it
unchecked; here every access checks its subscripts, and one outside is a
`Fault`.  Most of the table is never initialised: `unset` is what the memory
happens to hold.  Reads that only feed the log are left out.
-/

namespace OmnetDsi.Ipv4.DelayLoadMatrix

open Contract.Addresses Library.BinaryFloat Library.Fallible Ipv4.RouteDiscovery

/-! ## Conversions -/

/-- What an integer becomes in a cell. -/
def toFloat (k : ℤ) : Datum :=
  ofInt binary32 k

/-- What a cell becomes in an `int`. -/
def toInt : Datum → ℤ :=
  toInteger (-2 ^ 31) (2 ^ 31 - 1) (-2 ^ 31)

theorem toFloat_of_bits (bits : |k| ≤ 2 ^ 24) : toFloat k = .finite k :=
  ofInt_of_bits _ bits

theorem toInt_of_bits {k : ℤ} (bits : |k| ≤ 2 ^ 24) : toInt (.finite k) = k := by
  have bounds := abs_le.mp bits
  exact toInteger_intCast (by omega) (by omega)

/-- Switches have no host part. -/
def IsSwitchAddress (address : IPAddress) : Prop :=
  address.getDByte 3 = 0

/-- The address of a switch is not rounded: its last octet is zero. -/
theorem toFloat_switch (switch : IsSwitchAddress address) :
    toFloat address.getInt = .finite ((address.getInt : ℤ) : ℚ) := by
  have octet := getDByte_eq address 3
  simp only [Nat.sub_self, Nat.zero_mul, Nat.pow_zero, Nat.div_one] at octet
  have bound : address.getInt < 2 ^ 32 := address.addr.isLt
  obtain ⟨k, value, few⟩ : ∃ k, address.getInt = k * 256 ∧ k < 2 ^ 24 := by
    refine ⟨address.getInt / 256, ?_, ?_⟩
    · unfold IsSwitchAddress at switch
      omega
    · omega
  have bits : |(k : ℤ)| ≤ 2 ^ binary32.precision := by
    rw [abs_of_nonneg (Int.natCast_nonneg k)]
    show (k : ℤ) ≤ 2 ^ 24
    omega
  have inside : |((k : ℤ) : ℚ) * 2 ^ (8 : ℤ)| < binary32.overflow := by
    apply (abs_le_of_bits bits).trans_lt
    exact zpow_lt_zpow_right₀ one_lt_two (by decide)
  have exact := round_exact bits (by decide) inside
  have same : ((address.getInt : ℤ) : ℚ) = ((k : ℤ) : ℚ) * 2 ^ (8 : ℤ) := by
    rw [value]
    push_cast
    norm_num
  rwa [toFloat, ofInt, same]

section

variable (leftSwitch : IsSwitchAddress left) (rightSwitch : IsSwitchAddress right)
include leftSwitch rightSwitch

theorem toFloat_switch_inj : toFloat left.getInt = toFloat right.getInt ↔ left = right := by
  rw [toFloat_switch leftSwitch, toFloat_switch rightSwitch]
  constructor
  · intro same
    apply getInt_injective
    exact_mod_cast Datum.finite.inj same
  · rintro rfl
    rfl

theorem eq_toFloat_switch :
    eq (toFloat left.getInt) (toFloat right.getInt) = true ↔ left = right := by
  rw [← toFloat_switch_inj leftSwitch rightSwitch,
    toFloat_switch leftSwitch, toFloat_switch rightSwitch, eq_finite,
    decide_eq_true_eq, Datum.finite.injEq]

end

/-! ## The table of one flow -/

inductive Fault where
  /-- A subscript is outside the dimension it is used for. -/
  | outOfBounds
  /-- A local variable is used that has not been set. -/
  | indeterminate
deriving DecidableEq

def columns : Nat :=
  9

structure Plane where
  rows : Nat
  cell : Nat → Nat → Datum

namespace Plane

def read (plane : Plane) (row col : Nat) : Except Fault Datum :=
  if row < plane.rows ∧ col < columns then .ok (plane.cell row col) else .error .outOfBounds

/-- The table with one cell replaced. -/
def set (plane : Plane) (row col : Nat) (value : Datum) : Plane where
  rows := plane.rows
  cell r c := if r = row ∧ c = col then value else plane.cell r c

def write (plane : Plane) (row col : Nat) (value : Datum) : Except Fault Plane :=
  if row < plane.rows ∧ col < columns then .ok (plane.set row col value) else .error .outOfBounds

variable {plane : Plane}

theorem read_ok (inside : row < plane.rows) (column : col < columns) :
    plane.read row col = .ok (plane.cell row col) :=
  if_pos ⟨inside, column⟩

theorem write_ok (inside : row < plane.rows) (column : col < columns) (value : Datum) :
    plane.write row col value = .ok (plane.set row col value) :=
  if_pos ⟨inside, column⟩

theorem read_eq_ok :
    plane.read row col = .ok value ↔
      (row < plane.rows ∧ col < columns) ∧ plane.cell row col = value := by
  unfold read
  split_ifs with inside
  all_goals simp [inside]

theorem write_eq_ok :
    plane.write row col value = .ok next ↔
      (row < plane.rows ∧ col < columns) ∧ plane.set row col value = next := by
  unfold write
  split_ifs with inside
  all_goals simp [inside]

@[simp]
theorem rows_set (value : Datum) : (plane.set row col value).rows = plane.rows :=
  rfl

@[simp]
theorem cell_set (value : Datum) (r c : Nat) :
    (plane.set row col value).cell r c = if r = row ∧ c = col then value else plane.cell r c :=
  rfl

end Plane

/-! ## Initialisation -/

/-- The cells that `handlePacketFromNetwork` initialises. -/
def initialValues : List (Nat × Nat × ℤ) :=
  [(0, 0, 0), (1, 0, 0), (2, 0, -1), (0, 6, 0), (1, 6, 0), (2, 6, 0), (3, 6, 0),
    (0, 7, 0), (1, 7, 0), (2, 7, 0), (3, 7, 0), (0, 8, 0), (1, 8, 0), (2, 8, 0), (3, 8, 0)]

def initialise (rows : Nat) (unset : Nat → Nat → Datum) : Except Fault Plane :=
  initialValues.foldlM
    (fun plane entry => plane.write entry.1 entry.2.1 (toFloat entry.2.2)) ⟨rows, unset⟩

/-- The table that initialisation leaves if there are four rows. -/
def allocated (rows : Nat) (unset : Nat → Nat → Datum) : Plane :=
  initialValues.foldl
    (fun plane entry => plane.set entry.1 entry.2.1 (toFloat entry.2.2)) ⟨rows, unset⟩

theorem foldlM_write {entries : List (Nat × Nat × ℤ)} {plane : Plane}
    (inside : ∀ entry ∈ entries, entry.1 < plane.rows ∧ entry.2.1 < columns) :
    entries.foldlM (fun plane entry => plane.write entry.1 entry.2.1 (toFloat entry.2.2)) plane =
      .ok (entries.foldl
        (fun plane entry => plane.set entry.1 entry.2.1 (toFloat entry.2.2)) plane) := by
  induction entries generalizing plane with
  | nil => rfl
  | cons entry _ induction =>
    have here := inside _ (List.mem_cons_self ..)
    rw [List.foldlM_cons, Plane.write_ok here.1 here.2]
    apply induction
    intro other member
    exact inside _ (List.mem_cons_of_mem _ member)

theorem cell_foldl_set {entries : List (Nat × Nat × ℤ)} {plane : Plane}
    (elsewhere : ∀ entry ∈ entries, ¬(row = entry.1 ∧ col = entry.2.1)) :
    (entries.foldl (fun plane entry => plane.set entry.1 entry.2.1 (toFloat entry.2.2)) plane).cell
        row col =
      plane.cell row col := by
  induction entries generalizing plane with
  | nil => rfl
  | cons entry _ induction =>
    rw [List.foldl_cons, induction]
    · exact if_neg (elsewhere _ (List.mem_cons_self ..))
    · intro other member
      exact elsewhere _ (List.mem_cons_of_mem _ member)

theorem initialise_eq (unset : Nat → Nat → Datum) (enough : 4 ≤ rows) :
    initialise rows unset = .ok (allocated rows unset) := by
  apply foldlM_write
  have small : ∀ entry ∈ initialValues, entry.1 < 4 ∧ entry.2.1 < columns := by decide
  intro entry member
  exact ⟨(small _ member).1.trans_le enough, (small _ member).2⟩

section Allocated

variable (rows : Nat) (unset : Nat → Nat → Datum)

theorem allocated_found : (allocated rows unset).cell 1 0 = .finite 0 :=
  toFloat_of_bits (k := 0) (by decide)

theorem allocated_zero (early : row < 4) (late : 6 ≤ col) (column : col < columns) :
    (allocated rows unset).cell row col = .finite 0 := by
  have zero : toFloat 0 = .finite 0 := toFloat_of_bits (k := 0) (by decide)
  unfold columns at column
  interval_cases row <;> interval_cases col <;> exact zero

theorem allocated_unset (other : 4 ≤ row ∨ col ≠ 0 ∧ col < 6) :
    (allocated rows unset).cell row col = unset row col := by
  apply cell_foldl_set
  have written : ∀ entry ∈ initialValues, entry.1 < 4 ∧ (entry.2.1 = 0 ∨ 6 ≤ entry.2.1) := by decide
  rintro entry member ⟨rfl, rfl⟩
  have here := written _ member
  omega

end Allocated

/-! ## The replies of the probes -/

/-- The address an aggregate switch puts in for an unknown way down. -/
def nul : IPAddress :=
  .set 0 0 0 1

/-- A reply that tells which route hash routing has taken. -/
def isHashReply (call : FillCall) : Bool :=
  call.aggrg_address_downward.equals nul && call.edge_address_downward.equals nul

/-- A reply that tells a whole route. -/
def isFullReply (call : FillCall) : Bool :=
  !call.aggrg_address_downward.equals nul && !call.edge_address_downward.equals nul

/-- The search for the row of a route, from row `c` on. -/
def searchRow (plane : Plane) (call : FillCall) : Nat → Nat → Except Fault (Option Nat)
  | 0, _ => .ok none
  | remaining + 1, c => do
      let aggregate ← plane.read c 2
      let core ← plane.read c 3
      if eq aggregate (toFloat call.aggrg_address.getInt) &&
          eq core (toFloat call.core_address.getInt) then
        return some c
      else searchRow plane call remaining (c + 1)

/-- One packet fewer in column 6. -/
def decrementCount (plane : Plane) (row : Nat) : Except Fault Plane := do
  let count ← plane.read row 6
  plane.write row 6 (sub binary32 count (.finite 1))

/-- The time from the start time in column 1 to now. -/
def measureDelay (simTime : Datum) (plane : Plane) (row : Nat) : Except Fault Plane := do
  let start ← plane.read row 1
  plane.write row 1 (convert binary32 (sub binary64 simTime start))

/-- A hash-path reply, with the number of routes before and after. -/
def fillHashReply (plane : Plane) (call : FillCall)
    (num_routes_already_found : ℤ) : Except Fault (Plane × ℤ) := do
  match ← searchRow plane call num_routes_already_found.toNat 0 with
  | some c =>
    let plane ← decrementCount plane c
    return (plane, num_routes_already_found)
  | none =>
    if num_routes_already_found < 0 then return (plane, num_routes_already_found)
    else
      let row := num_routes_already_found.toNat
      let plane ← plane.write row 2 (toFloat call.aggrg_address.getInt)
      let plane ← plane.write row 3 (toFloat call.core_address.getInt)
      let plane ← plane.write row 4 (toFloat nul.getInt)
      let plane ← plane.write row 5 (toFloat nul.getInt)
      let plane ← decrementCount plane row
      return (plane, num_routes_already_found + 1)

/-- A full reply, with the number of routes before and after. -/
def fillFullReply (simTime : Datum) (plane : Plane) (call : FillCall)
    (num_routes_already_found : ℤ) : Except Fault (Plane × ℤ) := do
  match ← searchRow plane call num_routes_already_found.toNat 0 with
  | some c =>
    let plane ← measureDelay simTime plane c
    let plane ← plane.write c 4 (toFloat call.aggrg_address_downward.getInt)
    let plane ← plane.write c 5 (toFloat call.edge_address_downward.getInt)
    return (plane, num_routes_already_found)
  | none =>
    if num_routes_already_found < 0 then return (plane, num_routes_already_found)
    else
      let row := num_routes_already_found.toNat
      let plane ← measureDelay simTime plane row
      let plane ← plane.write row 2 (toFloat call.aggrg_address.getInt)
      let plane ← plane.write row 3 (toFloat call.core_address.getInt)
      let plane ← plane.write row 4 (toFloat call.aggrg_address_downward.getInt)
      let plane ← plane.write row 5 (toFloat call.edge_address_downward.getInt)
      return (plane, num_routes_already_found + 1)

/-- The two kinds of replies; anything else changes nothing. -/
def fillReply (simTime : Datum) (plane : Plane) (call : FillCall)
    (num_routes_already_found : ℤ) : Except Fault (Plane × ℤ) :=
  if isHashReply call then fillHashReply plane call num_routes_already_found
  else if isFullReply call then fillFullReply simTime plane call num_routes_already_found
  else .ok (plane, num_routes_already_found)

def fill_routes_in_delay_load_matrix (simTime : Datum) (call : FillCall)
    (plane : Plane) : Except Fault Plane := do
  let found ← plane.read 1 0
  let num_routes_already_found := toInt found
  let (plane, num_routes_already_found) ← fillReply simTime plane call num_routes_already_found
  plane.write 1 0 (toFloat num_routes_already_found)

/-! ## The search for a row -/

/-- The comparison the search makes. -/
def isRow (plane : Plane) (call : FillCall) (row : Nat) : Bool :=
  eq (plane.cell row 2) (toFloat call.aggrg_address.getInt) &&
    eq (plane.cell row 3) (toFloat call.core_address.getInt)

section Search

theorem searchRow_succ (inside : c < plane.rows) :
    searchRow plane call (remaining + 1) c = if isRow plane call c then .ok (some c)
      else searchRow plane call remaining (c + 1) := by
  rw [searchRow, Plane.read_ok inside (by decide), Plane.read_ok inside (by decide)]
  rfl

theorem searchRow_none (inside : c + remaining ≤ plane.rows)
    (absent : ∀ row, c ≤ row → row < c + remaining → isRow plane call row = false) :
    searchRow plane call remaining c = .ok none := by
  induction remaining generalizing c with
  | zero => rfl
  | succ _ induction =>
    rw [searchRow_succ (by omega), absent c le_rfl (by omega)]
    apply induction (by omega)
    intro row _ _
    exact absent _ (by omega) (by omega)

theorem searchRow_some (inside : row < plane.rows)
    (low : c ≤ row) (high : row < c + remaining) (present : isRow plane call row = true)
    (first : ∀ other, c ≤ other → other < row → isRow plane call other = false) :
    searchRow plane call remaining c = .ok (some row) := by
  induction remaining generalizing c with
  | zero => omega
  | succ _ induction =>
    rw [searchRow_succ (by omega)]
    rcases eq_or_lt_of_le low with rfl | later
    · rw [present]
      rfl
    · rw [first c le_rfl later]
      apply induction later (by omega)
      intro other _ below
      exact first _ (by omega) below

theorem searchRow_spec (success : searchRow plane call remaining c = .ok place) :
    (∀ row ∈ place, row < c + remaining ∧ isRow plane call row = true) ∧
      (place = none → ∀ row, c ≤ row → row < c + remaining → isRow plane call row = false) := by
  induction remaining generalizing c with
  | zero =>
    cases success
    constructor
    · intro _ member
      cases member
    · omega
  | succ _ induction =>
    have inside : c < plane.rows := by
      rcases bind_eq_ok.mp success with ⟨_, read, _⟩
      exact (Plane.read_eq_ok.mp read).1.1
    rw [searchRow_succ inside] at success
    split_ifs at success with here
    · cases success
      constructor
      · intro _ member
        cases member
        exact ⟨by omega, here⟩
      · intro impossible
        cases impossible
    · rcases induction success with ⟨found, absent⟩
      constructor
      · intro row member
        have rest := found _ member
        exact ⟨by omega, rest.2⟩
      · intro nowhere row low _
        rcases eq_or_lt_of_le low with rfl | later
        · rwa [Bool.not_eq_true] at here
        · exact absent nowhere _ later (by omega)

end Search

/-! ## What a reply changes -/

/-- The table after one packet fewer in column 6. -/
def decremented (plane : Plane) (row : Nat) : Plane :=
  plane.set row 6 (sub binary32 (plane.cell row 6) (.finite 1))

/-- The table after the delay of a row has been measured. -/
def measured (simTime : Datum) (plane : Plane) (row : Nat) : Plane :=
  plane.set row 1 (convert binary32 (sub binary64 simTime (plane.cell row 1)))

/-- The table with the switches of a route in one row. -/
def withRoute (plane : Plane) (row : Nat) (call : FillCall) : Plane :=
  (((plane.set row 2 (toFloat call.aggrg_address.getInt)).set
    row 3 (toFloat call.core_address.getInt)).set
    row 4 (toFloat call.aggrg_address_downward.getInt)).set
    row 5 (toFloat call.edge_address_downward.getInt)

/-- The table with the switches of the way down in one row. -/
def withWayDown (plane : Plane) (row : Nat) (call : FillCall) : Plane :=
  (plane.set row 4 (toFloat call.aggrg_address_downward.getInt)).set
    row 5 (toFloat call.edge_address_downward.getInt)

section Filling

theorem decrementCount_eq_ok :
    decrementCount plane row = .ok next ↔ row < plane.rows ∧ decremented plane row = next := by
  simp [decrementCount, bind_eq_ok, Plane.read_eq_ok, Plane.write_eq_ok, decremented, columns]

theorem measureDelay_eq_ok :
    measureDelay simTime plane row = .ok next ↔
      row < plane.rows ∧ measured simTime plane row = next := by
  simp [measureDelay, bind_eq_ok, Plane.read_eq_ok, Plane.write_eq_ok, measured, columns]

theorem isHashReply_iff :
    isHashReply call = true ↔
      call.aggrg_address_downward = nul ∧ call.edge_address_downward = nul := by
  simp [isHashReply, equals_iff]

theorem fillHashReply_known (search : searchRow plane call count.toNat 0 = .ok (some row)) :
    fillHashReply plane call count = .ok (next, after) ↔
      row < plane.rows ∧ decremented plane row = next ∧ count = after := by
  simp only [fillHashReply, search, bind_eq_ok, decrementCount_eq_ok,
    Except.ok.injEq, exists_eq_left', pure, Except.pure, Prod.mk.injEq]
  constructor
  · rintro ⟨_, ⟨inside, rfl⟩, rfl, rfl⟩
    exact ⟨inside, rfl, rfl⟩
  · rintro ⟨inside, rfl, rfl⟩
    exact ⟨_, ⟨inside, rfl⟩, rfl, rfl⟩

theorem fillHashReply_new (hashed : isHashReply call = true) (found : 0 ≤ count)
    (search : searchRow plane call count.toNat 0 = .ok none) :
    fillHashReply plane call count = .ok (next, after) ↔
      count.toNat < plane.rows ∧
        decremented (withRoute plane count.toNat call) count.toNat = next ∧ count + 1 = after := by
  have down := isHashReply_iff.mp hashed
  simp only [fillHashReply, search, bind_eq_ok, decrementCount_eq_ok,
    Except.ok.injEq, exists_eq_left', pure, Except.pure, Prod.mk.injEq,
    if_neg (not_lt.mpr found), Plane.write_eq_ok, withRoute, down.1, down.2, columns]
  constructor
  · rintro ⟨_, ⟨⟨inside, _⟩, rfl⟩, _, ⟨_, rfl⟩, _, ⟨_, rfl⟩, _, ⟨_, rfl⟩, _, ⟨_, rfl⟩, rfl, rfl⟩
    exact ⟨inside, rfl, rfl⟩
  · rintro ⟨inside, rfl, rfl⟩
    simp [inside]

theorem fillFullReply_known (search : searchRow plane call count.toNat 0 = .ok (some row)) :
    fillFullReply simTime plane call count = .ok (next, after) ↔
      row < plane.rows ∧
        withWayDown (measured simTime plane row) row call = next ∧ count = after := by
  simp only [fillFullReply, search, bind_eq_ok, measureDelay_eq_ok,
    Except.ok.injEq, exists_eq_left', pure, Except.pure, Prod.mk.injEq,
    Plane.write_eq_ok, withWayDown, columns]
  constructor
  · rintro ⟨_, ⟨inside, rfl⟩, _, ⟨_, rfl⟩, _, ⟨_, rfl⟩, rfl, rfl⟩
    exact ⟨inside, rfl, rfl⟩
  · rintro ⟨inside, rfl, rfl⟩
    simp [inside, measured]

theorem fillFullReply_new (found : 0 ≤ count)
    (search : searchRow plane call count.toNat 0 = .ok none) :
    fillFullReply simTime plane call count = .ok (next, after) ↔
      count.toNat < plane.rows ∧
        withRoute (measured simTime plane count.toNat) count.toNat call = next ∧
        count + 1 = after := by
  simp only [fillFullReply, search, bind_eq_ok, measureDelay_eq_ok,
    Except.ok.injEq, exists_eq_left', pure, Except.pure, Prod.mk.injEq,
    if_neg (not_lt.mpr found), Plane.write_eq_ok, withRoute, columns]
  constructor
  · rintro ⟨_, ⟨inside, rfl⟩, _, ⟨_, rfl⟩, _, ⟨_, rfl⟩, _, ⟨_, rfl⟩, _, ⟨_, rfl⟩, rfl, rfl⟩
    exact ⟨inside, rfl, rfl⟩
  · rintro ⟨inside, rfl, rfl⟩
    simp [inside, measured]

/-- What a reply may have done before the number of routes is written. -/
inductive Filled (simTime : Datum) (call : FillCall) (plane : Plane) : Plane → Prop where
  | unchanged : Filled simTime call plane plane
  | counted (row : Nat) : Filled simTime call plane (decremented plane row)
  | addedByHash (row : Nat) : Filled simTime call plane (decremented (withRoute plane row call) row)
  | completed (row : Nat) :
      Filled simTime call plane (withWayDown (measured simTime plane row) row call)
  | added (row : Nat) : Filled simTime call plane (withRoute (measured simTime plane row) row call)

/-- What a reply does, and to which row. -/
inductive Noted (simTime : Datum) (call : FillCall) (plane : Plane)
    (count : ℤ) : Plane → ℤ → Prop where
  | ignored : Noted simTime call plane count plane count
  | counted (row : Nat) (hashed : isHashReply call = true)
      (early : row < count.toNat) (named : isRow plane call row = true) :
      Noted simTime call plane count (decremented plane row) count
  | addedByHash (hashed : isHashReply call = true) (found : 0 ≤ count)
      (room : count.toNat < plane.rows)
      (absent : ∀ row < count.toNat, isRow plane call row = false) :
      Noted simTime call plane count
        (decremented (withRoute plane count.toNat call) count.toNat) (count + 1)
  | completed (row : Nat) (full : isFullReply call = true)
      (early : row < count.toNat) (named : isRow plane call row = true) :
      Noted simTime call plane count (withWayDown (measured simTime plane row) row call) count
  | added (full : isFullReply call = true) (found : 0 ≤ count) (room : count.toNat < plane.rows)
      (absent : ∀ row < count.toNat, isRow plane call row = false) :
      Noted simTime call plane count
        (withRoute (measured simTime plane count.toNat) count.toNat call) (count + 1)

theorem fillHashReply_noted (hashed : isHashReply call = true)
    (success : fillHashReply plane call count = .ok (next, after)) :
    Noted simTime call plane count next after := by
  cases search : searchRow plane call count.toNat 0 with
  | error _ =>
    rw [fillHashReply, search] at success
    cases success
  | ok place =>
    have spec := searchRow_spec search
    cases place with
    | some row =>
      rcases (fillHashReply_known search).mp success with ⟨_, rfl, rfl⟩
      have here := spec.1 _ rfl
      exact .counted _ hashed (by omega) here.2
    | none =>
      rcases lt_or_ge count 0 with negative | found
      · rw [fillHashReply, search] at success
        simp only [bind, Except.bind, if_pos negative] at success
        cases success
        exact .ignored
      · rcases (fillHashReply_new hashed found search).mp success with ⟨room, rfl, rfl⟩
        refine .addedByHash hashed found room ?_
        intro row _
        exact spec.2 rfl _ (Nat.zero_le _) (by omega)

theorem fillFullReply_noted (full : isFullReply call = true)
    (success : fillFullReply simTime plane call count = .ok (next, after)) :
    Noted simTime call plane count next after := by
  cases search : searchRow plane call count.toNat 0 with
  | error _ =>
    rw [fillFullReply, search] at success
    cases success
  | ok place =>
    have spec := searchRow_spec search
    cases place with
    | some row =>
      rcases (fillFullReply_known search).mp success with ⟨_, rfl, rfl⟩
      have here := spec.1 _ rfl
      exact .completed _ full (by omega) here.2
    | none =>
      rcases lt_or_ge count 0 with negative | found
      · rw [fillFullReply, search] at success
        simp only [bind, Except.bind, if_pos negative] at success
        cases success
        exact .ignored
      · rcases (fillFullReply_new found search).mp success with ⟨room, rfl, rfl⟩
        refine .added full found room ?_
        intro row _
        exact spec.2 rfl _ (Nat.zero_le _) (by omega)

theorem fillReply_noted (success : fillReply simTime plane call count = .ok (next, after)) :
    Noted simTime call plane count next after := by
  unfold fillReply at success
  split_ifs at success with hashed full
  · exact fillHashReply_noted hashed success
  · exact fillFullReply_noted full success
  · cases success
    exact .ignored

theorem fillReply_filled (success : fillReply simTime plane call count = .ok (next, after)) :
    Filled simTime call plane next := by
  cases fillReply_noted success with
  | ignored => exact .unchanged
  | counted row _ _ _ => exact .counted _
  | addedByHash _ _ _ _ => exact .addedByHash count.toNat
  | completed row _ _ _ => exact .completed _
  | added _ _ _ _ => exact .added count.toNat

/-- The number of routes is read, the reply is filled in, and it is written. -/
theorem fill_routes_eq_ok :
    fill_routes_in_delay_load_matrix simTime call plane = .ok next ↔
      1 < plane.rows ∧ ∃ middle after,
        fillReply simTime plane call (toInt (plane.cell 1 0)) = .ok (middle, after) ∧
          1 < middle.rows ∧ middle.set 1 0 (toFloat after) = next := by
  simp [fill_routes_in_delay_load_matrix, bind_eq_ok, Plane.read_eq_ok, Plane.write_eq_ok, columns]

section

variable (filled : Filled simTime call plane next)
include filled

theorem Filled.rows : next.rows = plane.rows := by
  cases filled <;> rfl

theorem Filled.elsewhere (other : col = 0 ∨ 7 ≤ col) : next.cell r col = plane.cell r col := by
  have apart : col ≠ 1 ∧ col ≠ 2 ∧ col ≠ 3 ∧ col ≠ 4 ∧ col ≠ 5 ∧ col ≠ 6 := by omega
  cases filled with
  | unchanged => rfl
  | counted _ => simp [decremented, apart]
  | addedByHash _ => simp [decremented, withRoute, apart]
  | completed _ => simp [measured, withWayDown, apart]
  | added _ => simp [measured, withRoute, apart]

theorem Filled.counts (r : Nat) :
    next.cell r 6 = plane.cell r 6 ∨ next.cell r 6 = sub binary32 (plane.cell r 6) (.finite 1) := by
  cases filled with
  | unchanged => exact .inl rfl
  | counted row =>
    by_cases same : r = row
    all_goals simp [decremented, same]
  | addedByHash row =>
    by_cases same : r = row
    all_goals simp [decremented, withRoute, same]
  | completed _ => simp [measured, withWayDown]
  | added _ => simp [measured, withRoute]

end

/-- What a reply leaves as it is. -/
structure Refilled (plane next : Plane) : Prop where
  rows : next.rows = plane.rows
  mode : next.cell 0 0 = plane.cell 0 0
  received : next.cell 2 0 = plane.cell 2 0
  loads : ∀ row col, 7 ≤ col → next.cell row col = plane.cell row col
  counts : ∀ row, next.cell row 6 = plane.cell row 6 ∨
    next.cell row 6 = sub binary32 (plane.cell row 6) (.finite 1)

theorem fill_routes_refilled
    (success : fill_routes_in_delay_load_matrix simTime call plane = .ok next) :
    Refilled plane next := by
  rcases fill_routes_eq_ok.mp success with ⟨_, _, _, done, _, rfl⟩
  have filled := fillReply_filled done
  constructor
  · exact filled.rows
  · exact filled.elsewhere (.inl rfl)
  · exact filled.elsewhere (.inl rfl)
  · intro _ _ late
    rw [Plane.cell_set, if_neg (by omega)]
    exact filled.elsewhere (.inr late)
  · intro r
    rw [Plane.cell_set, if_neg (by omega)]
    exact filled.counts r

end Filling

end OmnetDsi.Ipv4.DelayLoadMatrix
