import OmnetDsi.Ipv4.EdgeSwitches

/-!
# Counters of the host pairs

`numForwarded_per_host` has a row for each host of an edge switch and
`n * n * n / 4` counters in a row, one for each host of the other edge
switches.  `routePacket` finds the counter of a packet from the switch ids and
the host numbers of its addresses.
-/

namespace OmnetDsi.Ipv4.HostPairs

open Contract.Addresses Ipv4.Datagrams Ipv4.EdgeSwitches

/-! ## Addresses of a fat tree -/

/-- The switch ids of the edge switches are consecutive. -/
structure IsEdgeId (n base : Int) (id : Nat) : Prop where
  low : base ≤ id
  high : id < base + n * n / 2

structure IsHostNumber (n : Int) (number : Nat) : Prop where
  low : 1 ≤ number
  high : number ≤ n / 2

/-- From a host of one edge switch to a host of another. -/
structure Between (n base : Int) (datagram : IPDatagram) : Prop where
  source : IsEdgeId n base (datagram.srcAddress.getDByte 2)
  dest : IsEdgeId n base (datagram.destAddress.getDByte 2)
  apart : datagram.destAddress.getDByte 2 ≠ datagram.srcAddress.getDByte 2
  sourceHost : IsHostNumber n (datagram.srcAddress.getDByte 3)
  destHost : IsHostNumber n (datagram.destAddress.getDByte 3)

/-! ## The index -/

section Index

variable {h : Int}

theorem half_square (h : Int) : (2 * h) * (2 * h) / 2 = 2 * (h * h) := by
  have same : (2 * h) * (2 * h) = 2 * (2 * (h * h)) := by ring
  rw [same, Int.mul_ediv_cancel_left _ two_ne_zero]

theorem quarter_cube (h : Int) : (2 * h) * (2 * h) * (2 * h) / 4 = 2 * (h * h) * h := by
  have same : (2 * h) * (2 * h) * (2 * h) = 4 * (2 * (h * h) * h) := by ring
  rw [same, Int.mul_ediv_cancel_left _ four_ne_zero]

/-- The relative switch id, for the switches of a tree of `2 * h` ports. -/
theorem relative_edge_cases (nonneg : 0 ≤ h) (datagram : IPDatagram) :
    relative_destination_edge_index (2 * h) datagram.srcAddress datagram.destAddress =
      if (datagram.srcAddress.getDByte 2 : Int) < datagram.destAddress.getDByte 2 then
        (datagram.destAddress.getDByte 2 : Int) - datagram.srcAddress.getDByte 2
      else
        (datagram.destAddress.getDByte 2 : Int) - datagram.srcAddress.getDByte 2 + 2 * (h * h) := by
  have square : ((2 * h) * (2 * h)).tdiv 2 = 2 * (h * h) := by
    rw [Int.tdiv_eq_ediv_of_nonneg (by positivity), half_square]
  rw [relative_destination_edge_index, square]
  split
  case isTrue positive => rw [if_pos (by omega)]
  case isFalse negative => rw [if_neg (by omega)]

/-- The relative id of another switch is neither 0 nor out of the block. -/
theorem relative_edge_bounds (nonneg : 0 ≤ h) (between : Between (2 * h) base datagram) :
    1 ≤ relative_destination_edge_index (2 * h) datagram.srcAddress datagram.destAddress ∧
      relative_destination_edge_index (2 * h) datagram.srcAddress
        datagram.destAddress ≤ 2 * (h * h) - 1 := by
  obtain ⟨_, sourceHigh⟩ := between.source
  obtain ⟨_, destHigh⟩ := between.dest
  have apart := between.apart
  rw [half_square] at sourceHigh destHigh
  rw [relative_edge_cases nonneg]
  split
  all_goals omega

theorem relative_edge_injective (nonneg : 0 ≤ h) (between : Between (2 * h) base datagram)
    (otherBetween : Between (2 * h) base other)
    (sameSource : other.srcAddress.getDByte 2 = datagram.srcAddress.getDByte 2)
    (same : relative_destination_edge_index (2 * h) other.srcAddress other.destAddress =
      relative_destination_edge_index (2 * h) datagram.srcAddress datagram.destAddress) :
    other.destAddress.getDByte 2 = datagram.destAddress.getDByte 2 := by
  obtain ⟨_, destHigh⟩ := between.dest
  obtain ⟨_, otherHigh⟩ := otherBetween.dest
  rw [half_square] at destHigh otherHigh
  rw [relative_edge_cases nonneg, relative_edge_cases nonneg, sameSource] at same
  split at same
  all_goals
    split at same
    · omega
    · omega

theorem row_column_injective
    (inside : 1 ≤ column ∧ column ≤ h) (otherInside : 1 ≤ otherColumn ∧ otherColumn ≤ h)
    (same : otherRow * h + otherColumn = row * h + column) :
    otherRow = row ∧ otherColumn = column := by
  have difference : (otherRow - row) * h = column - otherColumn := by
    rw [sub_mul]
    omega
  have rows : otherRow - row = 0 := by
    rcases lt_trichotomy (otherRow - row) 0 with less | zero | greater
    · have := mul_le_mul_of_nonneg_right (Int.le_sub_one_of_lt less)
        (inside.1.trans inside.2 |>.trans' zero_le_one)
      omega
    · exact zero
    · have := mul_le_mul_of_nonneg_right (Int.add_one_le_of_lt greater)
        (inside.1.trans inside.2 |>.trans' zero_le_one)
      omega
  rw [rows, zero_mul] at difference
  exact ⟨by omega, by omega⟩

theorem flowOf_index (h : Int) (datagram : IPDatagram) :
    (flowOf (2 * h) datagram).relative_destination_host_index =
      relative_destination_edge_index (2 * h) datagram.srcAddress datagram.destAddress * h +
        datagram.destAddress.getDByte 3 - datagram.srcAddress.getDByte 3 := by
  rw [flowOf, Int.mul_tdiv_cancel_left _ two_ne_zero]

end Index

/-- From the first host of switch 0 to a host of switch 3. -/
def toHost (number : Int) : IPDatagram where
  srcAddress := .set 1 1 0 1
  destAddress := .set 2 1 3 number

end OmnetDsi.Ipv4.HostPairs
