import OmnetDsi.Contract.Addresses
import OmnetDsi.Library.BinaryFloat

/-!
# IP datagrams

The fields of `IPDatagram` and of its record route option that the routing of
this network reads and writes, and the numbers `IP::routePacket` computes
from a datagram's addresses: where the destination lies relative to the
source edge switch, how many routes lead there and how many loads are asked
for.

`recorded` describes the option after a number of visits: the first six
routers are written down, later ones are not.
-/

namespace OmnetDsi.Ipv4.Datagrams

open Contract.Addresses Library.BinaryFloat List

/-! ## The record route option -/

def MAX_IPADDR_OPTION_ENTRIES : Nat :=
  9

theorem unspecified_length :
    (replicate MAX_IPADDR_OPTION_ENTRIES UNSPECIFIED_ADDRESS).length = MAX_IPADDR_OPTION_ENTRIES :=
  length_replicate

structure IPRecordRouteOption where
  recordAddress : List IPAddress := replicate MAX_IPADDR_OPTION_ENTRIES UNSPECIFIED_ADDRESS
  nextAddressPtr : Nat := 0
  size : recordAddress.length = MAX_IPADDR_OPTION_ENTRIES := by exact unspecified_length
deriving DecidableEq

namespace IPRecordRouteOption

/-- `none` is the error for an index out of range. -/
def getRecordAddress (r : IPRecordRouteOption) (k : Nat) : Option IPAddress :=
  r.recordAddress[k]?

/-- Every caller checks the index, or uses a constant below six. -/
def setRecordAddress (r : IPRecordRouteOption) (k : Nat) (a : IPAddress) : IPRecordRouteOption where
  recordAddress := r.recordAddress.set k a
  nextAddressPtr := r.nextAddressPtr
  size := by rw [length_set, r.size]

/-- A router puts its id into the next free entry, up to the sixth. -/
def record (r : IPRecordRouteOption) (routerId : IPAddress) : IPRecordRouteOption :=
  if r.nextAddressPtr < 6 then
    { r.setRecordAddress r.nextAddressPtr routerId with nextAddressPtr := r.nextAddressPtr + 1 }
  else r

/-- The first entry with the router id; `none` if the search runs out. -/
def indexOf (r : IPRecordRouteOption) (routerId : IPAddress) : Option Nat :=
  r.recordAddress.findIdx? fun ipa => ipa.equals routerId

end IPRecordRouteOption

/-! ## Datagrams -/

/-- The fields of a datagram, with the values a new one has. -/
structure IPDatagram where
  srcAddress : IPAddress := UNSPECIFIED_ADDRESS
  destAddress : IPAddress := UNSPECIFIED_ADDRESS
  output_port_to_core_switch : Nat := 0
  load : Datum := .finite 0
  num_packets_for_this_path : Int := 0
  destPort : Int := 0
  srcPort : Int := 0
  transportProtocol : Int := 59
  timeToLive : Int := 0
  flowId : Int := 0
  packetId : Int := 0
  recordRoute : IPRecordRouteOption := {}
deriving DecidableEq

/-! ## Numbers computed from the addresses -/

/--
The switch id of the destination relative to that of the source, with
`num_interface` interfaces of a switch towards other nodes than the
controller.
-/
def relative_destination_edge_index (num_interface : Int) (srcAddr destAddr : IPAddress) : Int :=
  let index_difference : Int := destAddr.getDByte 2 - srcAddr.getDByte 2
  if index_difference > 0 then index_difference
  else index_difference + (num_interface * num_interface).tdiv 2

def num_routes_for_this_packet (num_interface : Int) (srcAddr destAddr : IPAddress) : Int :=
  if srcAddr.getDByte 0 = destAddr.getDByte 0 then num_interface.tdiv 2
  else (num_interface * num_interface).tdiv 4

def num_packets_obtained_for_load_estimation (num_interface : Int)
    (srcAddr destAddr : IPAddress) : Int :=
  if srcAddr.getDByte 0 = destAddr.getDByte 0 then num_interface.tdiv 2
  else num_interface + (num_interface * num_interface).tdiv 4

/-! ## The option after some visits -/

/-- The option in which the given routers have been recorded. -/
def recorded (visited : List IPAddress) : IPRecordRouteOption where
  recordAddress :=
    visited.take 6 ++
      replicate (MAX_IPADDR_OPTION_ENTRIES - (visited.take 6).length) UNSPECIFIED_ADDRESS
  nextAddressPtr := (visited.take 6).length
  size := by
    have few : (visited.take 6).length ≤ MAX_IPADDR_OPTION_ENTRIES := by
      rw [length_take]
      exact (Nat.min_le_left _ _).trans (by decide)
    rw [length_append, length_replicate]
    omega

theorem IPRecordRouteOption.ext_fields {right : IPRecordRouteOption}
    (addresses : left.recordAddress = right.recordAddress)
    (pointers : left.nextAddressPtr = right.nextAddressPtr) : left = right := by
  cases left
  cases right
  simp_all

theorem record_recorded (visited : List IPAddress) (routerId : IPAddress) :
    (recorded visited).record routerId = recorded (visited ++ [routerId]) := by
  unfold IPRecordRouteOption.record
  by_cases free : visited.length < 6
  · have whole : visited.take 6 = visited := take_of_length_le (by omega)
    have longer : (visited ++ [routerId]).take 6 = visited ++ [routerId] :=
      take_of_length_le (by simp; omega)
    have room :
        replicate (MAX_IPADDR_OPTION_ENTRIES - visited.length) UNSPECIFIED_ADDRESS =
          UNSPECIFIED_ADDRESS ::
            replicate (MAX_IPADDR_OPTION_ENTRIES - (visited.length + 1)) UNSPECIFIED_ADDRESS := by
      rw [← replicate_succ]
      congr 1
      unfold MAX_IPADDR_OPTION_ENTRIES
      omega
    rw [if_pos (by simp [recorded, whole, free])]
    apply IPRecordRouteOption.ext_fields
    · simp only [recorded, whole, longer, length_append,
        length_singleton, room, IPRecordRouteOption.setRecordAddress]
      simp
    · simp [recorded, whole, longer]
  · have same : (visited ++ [routerId]).take 6 = visited.take 6 :=
      take_append_of_le_length (by omega)
    rw [if_neg (by simp [recorded]; omega)]
    apply IPRecordRouteOption.ext_fields
    all_goals simp [recorded, same]

theorem getRecordAddress_recorded (early : k < 6) (present : k < visited.length) :
    (recorded visited).getRecordAddress k = some visited[k] := by
  have inside : k < (visited.take 6).length := by
    rw [length_take]
    omega
  show (visited.take 6 ++ _)[k]? = _
  rw [getElem?_append_left inside, getElem?_eq_getElem inside, getElem_take]

theorem indexOf_recorded (early : front.length < 6) (new : routerId ∉ front) :
    (recorded (front ++ routerId :: rest)).indexOf routerId = some front.length := by
  have split :
      (front ++ routerId :: rest).take 6 = front ++ routerId :: rest.take (5 - front.length) := by
    rw [take_append, take_of_length_le (by omega),
      show 6 - front.length = 5 - front.length + 1 by omega, take_succ_cons]
  have absent : front.findIdx? (fun ipa => ipa.equals routerId) = none := by
    rw [findIdx?_eq_none_iff]
    intro _ member
    rw [← Bool.not_eq_true, equals_iff]
    rintro rfl
    exact new member
  show ((front ++ routerId :: rest).take 6 ++ _).findIdx? _ = _
  rw [split, append_assoc, findIdx?_append, absent]
  simp [findIdx?_cons]

end OmnetDsi.Ipv4.Datagrams
