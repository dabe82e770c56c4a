import OmnetDsi.Ipv4.CountedPaths
import OmnetDsi.Ipv4.EdgeSwitches
import OmnetDsi.Ipv4.FoundRoutes

/-!
# The addresses in the cells

Columns 2 to 5 hold addresses as floats of 24 significant bits.  The addresses
of switches end in a zero octet, and the one for an unknown way down is
0.0.0.1, so none of them is rounded.  The search for the row of a reply, the
search for the switch of a load and the one for the end of a failed link
therefore compare addresses, and `routePacket` looks up the one that was put
into the row.
-/

namespace OmnetDsi.Ipv4.MatrixAddresses

open Contract.Addresses Library.BinaryFloat Library.Fallible Ipv4.RoutingTables
open Ipv4.RouteDiscovery Ipv4.DelayLoadMatrix Ipv4.LoadShares Ipv4.FutureCounts
open Ipv4.EdgeSwitches Ipv4.CountedPaths Ipv4.FoundRoutes Autorouting.NetworkConfigurator List

/-- The addresses that are put into the table. -/
def IsRecordable (address : IPAddress) : Prop :=
  IsSwitchAddress address ∨ address = nul

section Cells

theorem toFloat_recordable (recordable : IsRecordable address) :
    toFloat address.getInt = .finite ((address.getInt : ℤ) : ℚ) := by
  rcases recordable with switch | rfl
  · exact toFloat_switch switch
  · exact toFloat_of_bits (by decide)

theorem toAddress_recordable (recordable : IsRecordable address) :
    toAddress (toFloat address.getInt) = address := by
  rcases recordable with switch | rfl
  · exact toAddress_switch switch
  · decide +kernel

theorem eq_recordable (leftRecordable : IsRecordable left) (rightRecordable : IsRecordable right) :
    eq (toFloat left.getInt) (toFloat right.getInt) = decide (left = right) := by
  rw [toFloat_recordable leftRecordable, toFloat_recordable rightRecordable, eq_finite]
  apply decide_eq_decide.mpr
  constructor
  · intro same
    apply getInt_injective
    exact_mod_cast same
  · rintro rfl
    rfl

end Cells

/-- Columns 2 to 5 of the rows up to `found` hold these addresses. -/
structure Records (plane : Plane) (found : Nat) (addresses : Nat → Nat → IPAddress) : Prop where
  inside : found ≤ plane.rows
  recordable : ∀ row < found, ∀ col, 2 ≤ col → col ≤ 5 → IsRecordable (addresses row col)
  cells : ∀ row < found, ∀ col, 2 ≤ col → col ≤ 5 →
    plane.cell row col = toFloat (addresses row col).getInt

namespace Records

variable (records : Records plane found addresses)
include records

theorem compare (early : row < found)
    (low : 2 ≤ col) (high : col ≤ 5) (recordable : IsRecordable address) :
    eq (plane.cell row col) (toFloat address.getInt) = decide (addresses row col = address) := by
  rw [records.cells _ early _ low high]
  exact eq_recordable (records.recordable _ early _ low high) recordable

/-- `fill_routes_in_delay_load_matrix` finds the first row with both switches. -/
theorem searchRow_eq
    (aggregate : IsRecordable call.aggrg_address) (core : IsRecordable call.core_address)
    (remaining c : Nat) (rows : c + remaining ≤ found) :
    searchRow plane call remaining c =
      .ok ((range' c remaining).find? fun row =>
        addresses row 2 = call.aggrg_address ∧ addresses row 3 = call.core_address) := by
  induction remaining generalizing c with
  | zero => rfl
  | succ _ induction =>
    have early : c < found := by omega
    rw [searchRow_succ (early.trans_le records.inside), range'_succ, find?_cons, isRow,
      records.compare early le_rfl (by decide) aggregate,
      records.compare early (by decide) (by decide) core, ← Bool.decide_and]
    by_cases here : addresses c 2 = call.aggrg_address ∧ addresses c 3 = call.core_address
    · simp [here]
    · rw [decide_eq_false here, if_neg Bool.false_ne_true]
      exact induction _ (by omega)

/-- `route_load_packet` raises the load of a row that one of the switches is in. -/
theorem recordLoad_eq (early : c < found) (recordable : IsRecordable switch) (load : Datum)
    (remaining d : Nat) (low : 2 ≤ d) (high : d + remaining ≤ 5) :
    recordLoad switch.getInt load plane c remaining d =
      .ok (if (∃ col ∈ range' d remaining, addresses c col = switch) ∧
          le (plane.cell c 7) load = true
        then plane.set c 7 load else plane) := by
  have row := early.trans_le records.inside
  induction remaining generalizing d with
  | zero => simp [recordLoad]
  | succ remaining induction =>
    have column : d < columns := by
      unfold columns
      omega
    have columns_split : (∃ col ∈ range' d (remaining + 1), addresses c col = switch) ↔
        addresses c d = switch ∨ ∃ col ∈ range' (d + 1) remaining, addresses c col = switch := by
      simp only [range'_succ, exists_mem_cons_iff]
    have next := induction (d + 1) (by omega) (by omega)
    rw [recordLoad, Plane.read_ok row column, Plane.read_ok row (by decide)]
    simp only [bind, Except.bind]
    rw [records.compare early low (by omega) recordable, next, Plane.write_ok row (by decide),
      if_congr (and_congr_left' columns_split) rfl rfl]
    by_cases here : addresses c d = switch
    · by_cases less : le (plane.cell c 7) load = true
      · simp [here, less]
      · simp [less]
    · rw [if_congr (and_congr_left' (or_iff_right here)) rfl rfl]
      simp [here]

/-- `route_link_failure_packet` withdraws a row that the switch is in. -/
theorem checkColumn_eq (early : row < found) (column : d < 4) (recordable : IsRecordable dest)
    (num_routes_found : Nat) :
    checkColumn dest.getInt num_routes_found row d plane =
      if addresses row (d + 2) = dest then adjust_packet_count plane row num_routes_found
      else .ok plane := by
  have inside : d + 2 < columns := by
    unfold columns
    omega
  rw [checkColumn, Plane.read_ok (early.trans_le records.inside) inside]
  simp only [bind, Except.bind]
  rw [records.cells _ early _ (by omega) (by omega), eq_recordable recordable
    (records.recordable _ early _ (by omega) (by omega))]
  by_cases same : addresses row (d + 2) = dest
  · simp [same]
  · simp [same, Ne.symm, pure, Except.pure]

theorem forwardDynamic_looks_up {next : Plane} (early : path < found)
    (success : forwardDynamic node num_routes plane = .ok (next, .dynamic path aggregate core re)) :
    aggregate = addresses path 2 ∧ core = addresses path 3 ∧
      re = (node.rt1.routes ++ node.rt1.multicastRoutes).find? fun rty =>
        (addresses path 2).equals rty.host := by
  have stored {col : Nat} (low : 2 ≤ col) (high : col ≤ 5) :
      toAddress (plane.cell path col) = addresses path col := by
    rw [records.cells _ early _ low high]
    exact toAddress_recordable (records.recordable _ early _ low high)
  rcases forwardDynamic_eq_ok.mp success with ⟨_, _, _, _, _, _, taken⟩
  cases taken
  rw [stored le_rfl (by decide), stored (by decide) (by decide)]
  exact ⟨rfl, rfl, rfl⟩

end Records

/-- The address of a route for a column. -/
def columnAddress (route : FoundRoute) : Nat → IPAddress
  | 2 => route.pair.1
  | 3 => route.pair.2
  | 4 => route.shown.1
  | _ => route.shown.2

/-- The addresses of a list of routes, row by row. -/
def addressesOf (table : List FoundRoute) (row : Nat) : Nat → IPAddress :=
  (table[row]?.map columnAddress).getD fun _ => nul

/-- The rows that replies leave (`fillAll_represents`) are such a list. -/
theorem records_of_represents
    (represents : Represents plane table) (inside : table.length ≤ plane.rows)
    (recordable : ∀ route ∈ table, ∀ col, IsRecordable (columnAddress route col)) :
    Records plane table.length (addressesOf table) := by
  refine ⟨inside, ?_, ?_⟩
  all_goals
    intro row early col low high
    simp only [addressesOf, getElem?_eq_getElem early, Option.map_some, Option.getD_some]
  · exact recordable _ (getElem_mem early) col
  · have held := represents.row row early
    have column : col = 2 ∨ col = 3 ∨ col = 4 ∨ col = 5 := by omega
    rcases column with rfl | rfl | rfl | rfl
    · exact held.aggregate
    · exact held.core
    · exact held.aggregateDown
    · exact held.edgeDown

/--
In a table whose rows hold addresses of switches or 0.0.0.1, all that is read
back and every comparison is exact.
-/
theorem addresses_exact {plane : Plane} {found : Nat} {addresses : Nat → Nat → IPAddress}
    (records : Records plane found addresses) :
    (∀ address, IsRecordable address → toAddress (toFloat address.getInt) = address) ∧
    (∀ call remaining c, IsRecordable call.aggrg_address → IsRecordable call.core_address →
      c + remaining ≤ found → searchRow plane call remaining c =
        .ok ((range' c remaining).find? fun row =>
          addresses row 2 = call.aggrg_address ∧ addresses row 3 = call.core_address)) ∧
    (∀ c switch load, c < found → IsRecordable switch →
      recordLoad switch.getInt load plane c 3 2 =
        .ok (if (∃ col ∈ range' 2 3, addresses c col = switch) ∧ le (plane.cell c 7) load = true
          then plane.set c 7 load else plane)) ∧
    (∀ row d dest num_routes_found, row < found → d < 4 → IsRecordable dest →
      checkColumn dest.getInt num_routes_found row d plane =
        if addresses row (d + 2) = dest then adjust_packet_count plane row num_routes_found
        else .ok plane) ∧
    (∀ node num_routes next path aggregate core re, path < found →
      forwardDynamic node num_routes plane = .ok (next, .dynamic path aggregate core re) →
      aggregate = addresses path 2 ∧ core = addresses path 3 ∧
        re = (node.rt1.routes ++ node.rt1.multicastRoutes).find? fun rty =>
          (addresses path 2).equals rty.host) := by
  refine ⟨fun _ => toAddress_recordable, ?_, ?_, ?_, ?_⟩
  · intro _ remaining c aggregate core rows
    exact records.searchRow_eq aggregate core _ c rows
  · intro _ _ load early recordable
    exact records.recordLoad_eq early recordable _ 3 2 le_rfl le_rfl
  · intro _ _ _ count early column recordable
    exact records.checkColumn_eq early column recordable _
  · intro _ _ _ _ _ _ _ early success
    exact records.forwardDynamic_looks_up early success

/-- One row with the switch 10.2.1.0 in column 2 and 0.0.0.1 elsewhere. -/
def sampleAddresses (_ col : Nat) : IPAddress :=
  if col = 2 then .set 10 2 1 0 else nul

def samplePlane : Plane where
  rows := 4
  cell row col := toFloat (sampleAddresses row col).getInt

theorem samplePlane_records : Records samplePlane 1 sampleAddresses := by
  refine ⟨by decide, ?_, fun _ _ _ _ _ => rfl⟩
  intro _ _ _ _ _
  unfold sampleAddresses
  split_ifs
  · exact .inl (by unfold IsSwitchAddress; decide)
  · exact .inr rfl

theorem samplePlane_found :
    searchRow samplePlane ⟨0, .set 10 2 1 0, nul, nul, nul, 6, 0, 0⟩ 1 0 = .ok (some 0) := by
  rw [(addresses_exact samplePlane_records).2.1 _ 1 0
    (.inl (by unfold IsSwitchAddress; decide)) (.inr rfl) le_rfl]
  decide

end OmnetDsi.Ipv4.MatrixAddresses
