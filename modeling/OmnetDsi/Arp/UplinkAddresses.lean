import OmnetDsi.Arp.LinkDetours
import OmnetDsi.Autorouting.AddressPlan

/-!
# The other ends of an edge switch's uplinks

An edge switch works out the address of the aggregate switch at the other end
of an uplink from its own address: the numbers of the two layers lie half the
square of the number of ports apart, and the parity of its own number is to
say where in its pod it stands.

With four ports a pod has two edge switches, and the parity tells them apart.
In general the computed numbers are consecutive from `firstUplink` on, which
is where the aggregate switches of the pod begin only for the first two edge
switches of some pods.
-/

namespace OmnetDsi.Arp.UplinkAddresses

open Arp.LinkDetours Autorouting.AddressPlan Autorouting.ExtractedTopology Autorouting.FatTrees
open Autorouting.NetworkConfigurator Autorouting.StandardTree Contract.Addresses

/-! ## The addresses of the uplinks -/

/-- The interfaces of a switch without the loopback and the controller's. -/
def numInterface (tree : FatTree h) (node : Node h) : Int :=
  (tree.topo.getNumInterfaces (tree.index node) : Int) - 2

/-- What `get_next_hop_address` returns for the indices of the uplinks. -/
def uplinkAddresses (tree : FatTree h) (unset : Indeterminate)
    (pod : Fin (2 * h)) (position : Fin h) : List IPAddress :=
  (List.range h).map fun uplink =>
    get_next_hop_address (numInterface tree (.edge pod position))
      (givenAddress tree unset (.edge pod position)) (h + uplink : Nat)

/-- The addresses differ and are those of the aggregate switches of the pod. -/
def NamesUplinks (tree : FatTree h) (unset : Indeterminate) (pod : Fin (2 * h))
    (position : Fin h) : Prop :=
  (uplinkAddresses tree unset pod position).Nodup ∧
    ∀ addr, addr ∈ uplinkAddresses tree unset pod position ↔
      ∃ other, addr = givenAddress tree unset (.aggregate pod other)

/-- The place of an edge switch among those of its pod, from zero on. -/
def rank (tree : FatTree h) (pod : Fin (2 * h)) (position : Fin h) : Nat :=
  tree.index (.edge pod position) - (3 * (h * h) + pod.val * h)

/-- The switch number computed for the last uplink, which is the least. -/
def firstUplink (tree : FatTree h) (pod : Fin (2 * h)) (position : Fin h) : Nat :=
  let switch := switchNumber tree (.edge pod position)
  switch - 2 * (h * h) - (switch + 1) % 2

section Computing

variable (tree : FatTree h)
variable (pod : Fin (2 * h))
variable (position : Fin h)

theorem numInterface_edge : numInterface tree (.edge pod position) = (2 * h : Nat) := by
  rw [numInterface, Topology.getNumInterfaces, tree.links_length]
  simp only [neighbours, List.length_append, List.length_map,
    List.length_finRange, List.length_singleton]
  omega

theorem half_square : ((2 * h : Nat) * (2 * h : Nat) : Int).tdiv 2 = (2 * (h * h) : Nat) := by
  have square : ((2 * h : Nat) * (2 * h : Nat) : Int) = 2 * (2 * (h * h) : Nat) := by
    push_cast
    ring
  rw [square]
  exact Int.mul_tdiv_cancel_left _ (by decide)

theorem firstUplink_bounds :
    h * h ≤ firstUplink tree pod position ∧ firstUplink tree pod position + h ≤ 5 * (h * h) := by
  have here := edge_block tree pod position
  have square : h ≤ h * h := Nat.le_mul_self h
  simp only [firstUplink, switchNumber]
  omega

variable {tree pod position}

/-- The address for an uplink has the number that its index leads to. -/
theorem uplinkAddress_eq (unset : Indeterminate) (small : h ≤ 7) (inside : uplink < h) :
    get_next_hop_address (numInterface tree (.edge pod position))
        (givenAddress tree unset (.edge pod position)) (h + uplink : Nat) =
      .set ((pod.val + 1) * 10 : Nat) (2 : Nat)
        (firstUplink tree pod position + (h - 1 - uplink) : Nat) (0 : Nat) := by
  have positive : 0 < h := by omega
  have bytes := getDByte_address tree small (.edge pod position)
  have here := edge_block tree pod position
  have given : givenAddress tree unset (.edge pod position) = address tree (.edge pod position) :=
    nodeAddress_index _ _ positive _
  rw [get_next_hop_address, given, bytes.1, bytes.2.1, bytes.2.2.1, numInterface_edge, half_square,
    if_pos (show layerNumber (.edge pod position) = 1 from rfl)]
  have number :
      (if switchNumber tree (.edge pod position) % 2 ≠ 0 then
          (switchNumber tree (.edge pod position) : Int) -
            (2 * (h * h) : Nat) + ((2 * h : Nat) - (h + uplink : Nat) - 1)
        else
          (switchNumber tree (.edge pod position) : Int) - (2 * (h * h) : Nat) +
            ((2 * h : Nat) - (h + uplink : Nat) - 1) - 1) =
        (firstUplink tree pod position + (h - 1 - uplink) : Nat) := by
    simp only [firstUplink, switchNumber]
    split_ifs <;> omega
  rw [number]
  rfl

/-- The aggregate switches of a pod have all numbers of their block. -/
theorem exists_aggregate (above : h * h + pod.val * h ≤ i)
    (below : i < h * h + pod.val * h + h) : ∃ other, tree.index (.aggregate pod other) = i := by
  have block := pod_block pod
  have inside : i < tree.topo.numNodes := by
    rw [tree.numNodes]
    omega
  rcases tree.surjective i inside with ⟨node, rfl⟩
  cases node with
  | core group member =>
    have low := tree.core group member
    omega
  | aggregate otherPod other =>
    have range := tree.aggregate otherPod other
    have same : otherPod = pod := by
      apply Fin.ext
      rcases Nat.lt_trichotomy otherPod.val pod.val with less | equal | more
      · have step : (otherPod.val + 1) * h ≤ pod.val * h := Nat.mul_le_mul_right h less
        rw [Nat.succ_mul] at step
        omega
      · exact equal
      · have step : (pod.val + 1) * h ≤ otherPod.val * h := Nat.mul_le_mul_right h more
        rw [Nat.succ_mul] at step
        omega
    subst same
    exact ⟨other, rfl⟩
  | edge otherPod other =>
    have range := edge_block tree otherPod other
    omega
  | host otherPod other slot =>
    have range := tree.host otherPod other slot
    omega
  | controller =>
    have last := tree.controller
    omega

/-- Where the numbers of the aggregate switches of a pod begin. -/
def firstAggregate (pod : Fin (2 * h)) : Nat :=
  h * h + pod.val * h + 1

section

variable (unset : Indeterminate) (small : h ≤ 7)
include unset small

/-- An address with a computed number is that of an aggregate, or is not. -/
theorem names_aggregate_iff (fits : switch < 256) :
    (∃ other,
      IPAddress.set ((pod.val + 1) * 10 : Nat) (2 : Nat) (switch : Nat) (0 : Nat) =
        givenAddress tree unset (.aggregate pod other)) ↔
      firstAggregate pod ≤ switch ∧ switch < firstAggregate pod + h := by
  have positive : 0 < h := by
    have bound := pod.isLt
    omega
  have parts (other : Fin h) :
      IPAddress.set ((pod.val + 1) * 10 : Nat) (2 : Nat) (switch : Nat) (0 : Nat) =
          givenAddress tree unset (.aggregate pod other) ↔
        switch = tree.index (.aggregate pod other) + 1 := by
    have all := parts_fit tree small (.aggregate pod other)
    have given :
        givenAddress tree unset (.aggregate pod other) = address tree (.aggregate pod other) :=
      nodeAddress_index _ _ positive _
    rw [given]
    refine (set_inj ⟨all.1, all.2.1, fits, all.2.2.2⟩ all).trans ?_
    exact ⟨fun same => same.2.2.1, fun same => ⟨rfl, rfl, same, rfl⟩⟩
  simp only [parts]
  unfold firstAggregate
  constructor
  · rintro ⟨other, rfl⟩
    have range := tree.aggregate pod other
    omega
  · rintro ⟨_, _⟩
    rcases @exists_aggregate _ tree pod (switch - 1) (by omega) (by omega) with ⟨other, _⟩
    exact ⟨other, by omega⟩

theorem mem_uplinkAddresses :
    addr ∈ uplinkAddresses tree unset pod position ↔
      ∃ k < h,
        addr = .set ((pod.val + 1) * 10 : Nat) (2 : Nat)
          (firstUplink tree pod position + k : Nat) (0 : Nat) := by
  rw [uplinkAddresses, List.mem_map]
  constructor
  · rintro ⟨uplink, among, rfl⟩
    have inside := List.mem_range.mp among
    exact ⟨h - 1 - uplink, by omega, uplinkAddress_eq _ small inside⟩
  · rintro ⟨k, _, rfl⟩
    refine ⟨h - 1 - k, List.mem_range.mpr (by omega), ?_⟩
    have back : h - 1 - (h - 1 - k) = k := by omega
    rw [uplinkAddress_eq _ small (by omega), back]

theorem uplinkAddresses_nodup : (uplinkAddresses tree unset pod position).Nodup := by
  have bounds := firstUplink_bounds tree pod position
  have square : h * h ≤ 7 * 7 := Nat.mul_le_mul small small
  have layer := parts_fit tree small (.aggregate pod position)
  refine List.nodup_range.map_on ?_
  intro _ leftAmong _ rightAmong same
  have insideLeft := List.mem_range.mp leftAmong
  have insideRight := List.mem_range.mp rightAmong
  rw [uplinkAddress_eq _ small insideLeft, uplinkAddress_eq _ small insideRight] at same
  have parts := (set_inj ⟨layer.1, by decide, by omega, by decide⟩
    ⟨layer.1, by decide, by omega, by decide⟩).mp same
  omega

/-- The uplinks are named if the two blocks of numbers begin alike. -/
theorem namesUplinks_iff_first :
    NamesUplinks tree unset pod position ↔ firstUplink tree pod position = firstAggregate pod := by
  have positive : 0 < h := by
    have bound := position.isLt
    omega
  have bounds := firstUplink_bounds tree pod position
  have square : h * h ≤ 7 * 7 := Nat.mul_le_mul small small
  have named {k : Nat} (inside : k < h) :=
    @names_aggregate_iff _ tree pod unset small (firstUplink tree pod position + k) (by omega)
  simp only [NamesUplinks, mem_uplinkAddresses _ small]
  constructor
  · rintro ⟨_, same⟩
    have least := (named positive).mp ((same _).mp ⟨0, positive, rfl⟩)
    have last : h - 1 < h := by omega
    have greatest := (named last).mp ((same _).mp ⟨h - 1, last, rfl⟩)
    omega
  · intro _
    refine ⟨uplinkAddresses_nodup unset small, fun addr => ⟨?_, ?_⟩⟩
    · rintro ⟨_, inside, rfl⟩
      exact (named inside).mpr (by omega)
    · rintro ⟨other, rfl⟩
      have range := tree.aggregate pod other
      have here : firstAggregate pod ≤ tree.index (.aggregate pod other) + 1 ∧
          tree.index (.aggregate pod other) + 1 < firstAggregate pod + h := by
        unfold firstAggregate
        omega
      refine ⟨tree.index (.aggregate pod other) + 1 - firstAggregate pod, by omega, ?_⟩
      have given :
          givenAddress tree unset (.aggregate pod other) = address tree (.aggregate pod other) :=
        nodeAddress_index tree unset positive _
      have number :
          firstUplink tree pod position +
              (tree.index (.aggregate pod other) + 1 - firstAggregate pod) =
            tree.index (.aggregate pod other) + 1 := by
        omega
      rw [given, number]
      rfl

end

theorem firstUplink_eq_iff :
    firstUplink tree pod position = firstAggregate pod ↔
      rank tree pod position ≤ 1 ∧ h * (pod.val + 1) % 2 = 0 := by
  have range := tree.edge pod position
  have parity : h * h % 2 = h % 2 := by
    rcases Nat.mod_two_eq_zero_or_one h with even | odd
    · rw [Nat.mul_mod, even]
    · rw [Nat.mul_mod, odd]
  have product : h * (pod.val + 1) = pod.val * h + h := by rw [Nat.mul_succ, Nat.mul_comm]
  simp only [firstUplink, firstAggregate, rank, switchNumber]
  omega

theorem namesUplinks_iff_rank (unset : Indeterminate) (fits : IdsFit tree.topo unset) :
    NamesUplinks tree unset pod position ↔
      rank tree pod position ≤ 1 ∧ h * (pod.val + 1) % 2 = 0 := by
  have positive : 0 < h := by
    have bound := position.isLt
    omega
  have small := (idsFit_iff _ _ positive).mp fits
  exact (namesUplinks_iff_first _ small).trans firstUplink_eq_iff

end Computing

/-! ## Every edge switch -/

/--
The uplinks of an edge switch are named right exactly if it is one of the
first two of its pod and half the number of ports times the number of the pod
is even.
-/
theorem namesUplinks_iff (tree : FatTree h) (unset : Indeterminate)
    (fits : IdsFit tree.topo unset) (pod : Fin (2 * h)) (position : Fin h) :
    NamesUplinks tree unset pod position ↔ rank tree pod position ≤ 1 ∧ h * (pod.val + 1) % 2 = 0 :=
  namesUplinks_iff_rank _ fits

theorem namesUplinks_of_four_ports (tree : FatTree 2) (unset : Indeterminate)
    (pod : Fin (2 * 2)) (position : Fin 2) : NamesUplinks tree unset pod position := by
  have fits := (idsFit_iff tree unset (by decide)).mpr (by decide)
  rw [namesUplinks_iff_rank _ fits]
  have range := tree.edge pod position
  unfold rank
  omega

theorem namesUplinks_iff_six_ports :
    NamesUplinks (standard 3) zeroed 1 0 ↔ rank (standard 3) 1 0 ≤ 1 ∧ 3 * (1 + 1) % 2 = 0 :=
  namesUplinks_iff _ _ ((idsFit_iff _ _ (by decide)).mpr (by decide)) 1 0

/-- With six ports the third edge switch of a pod names other switches. -/
theorem uplinks_not_named :
    ¬ ∀ (h : Nat) (tree : FatTree h) (unset : Indeterminate) (pod : Fin (2 * h)) (position : Fin h),
        2 ≤ h → IdsFit tree.topo unset → NamesUplinks tree unset pod position := by
  intro always
  have fits := (idsFit_iff (standard 3) zeroed (by decide)).mpr (by decide)
  have named := always 3 _ _ 0 2 (by decide) fits
  rw [namesUplinks_iff_rank _ fits] at named
  exact absurd named.1 (by decide)

end OmnetDsi.Arp.UplinkAddresses
