import OmnetDsi.Autorouting.NodeNumbers
import OmnetDsi.Autorouting.StandardTree

/-!
# The addresses of a configured fat tree

`assignAddresses` gives a node the address `pod.layer.switch.host`, where the
first part is ten times the pod number, and an interface of a switch the same
address with the interface number in the last part.  The parts are shifted
into place unchecked.  They fit in their octets exactly up to 14 ports a
switch (`idsFit_iff`); then the addresses of different nodes and interfaces
differ and can be taken apart again.
-/

namespace OmnetDsi.Autorouting.AddressPlan

open Contract.Addresses Ipv4.RoutingTables Autorouting.FatTrees Autorouting.NetworkConfigurator
open Autorouting.ExtractedTopology Autorouting.NodeNumbers Autorouting.StandardTree

/-! ## The parts of an address -/

def layerNumber : Node h → Nat
  | .core _ _ => 3
  | .aggregate _ _ => 2
  | .edge _ _ => 1
  | .host _ _ _ => 0
  | .controller => 0

/-- The pod number without its sign. -/
def podIndex : Node h → Nat
  | .core _ _ => 2 * h + 1
  | .aggregate pod _ => pod.val + 1
  | .edge pod _ => pod.val + 1
  | .host pod _ _ => pod.val + 1
  | .controller => 2 * h + 2

theorem podNumber_eq (node : Node h) : podNumber node = (podIndex node : Nat) := by
  cases node <;> simp [podNumber, podIndex]

/-- The address `pod.layer.switch.host` of a node. -/
def address (tree : FatTree h) (node : Node h) : IPAddress :=
  .set ((podIndex node * 10 : Nat) : Int) (layerNumber node)
    (switchNumber tree node) (hostNumber tree node)

theorem assignLayerId_extracted (tree : FatTree h) (node : Node h) (previous : BitVec 32) :
    assignLayerId (extracted tree node) previous = BitVec.ofInt 32 (layerNumber node) <<< 16 := by
  cases node <;> rfl

theorem nodeAddress_index (tree : FatTree h) (unset : Indeterminate)
    (positive : 0 < h) (node : Node h) :
    nodeAddress unset (extractTopology tree.topo unset) (tree.index node) = address tree node := by
  dsimp only [nodeAddress, address, IPAddress.set]
  rw [extractTopology_index _ _ positive, assignLayerId_extracted]
  simp [extracted, podNumber_eq]

/-! ## Host numbers -/

section

variable (tree : FatTree h) (pod : Fin (2 * h))
include tree pod

theorem hostLinks_perm (position : Fin h) :
    (hostLinks tree pod position).Perm
      ((List.finRange h).map fun slot => tree.index (.host pod position slot)) := by
  have permuted := (tree.links (.edge pod position)).filter fun k => (tree.topo.links k).length == 1
  refine permuted.trans ?_
  rw [List.filter_map]
  have hosts :
      (neighbours (.edge pod position)).filter
          ((fun k => (tree.topo.links k).length == 1) ∘ tree.index) =
        (List.finRange h).map (Node.host pod position) := by
    have roles : (fun k => (tree.topo.links k).length == 1) ∘ tree.index = Node.isHost := by
      funext node
      exact links_length_host _ _
    rw [roles]
    simp only [neighbours, List.filter_append, List.filter_map]
    have none : Node.isHost ∘ Node.aggregate pod = fun _ : Fin h => false := rfl
    have all : Node.isHost ∘ Node.host pod position = fun _ => true := rfl
    rw [none, all]
    simp [Node.isHost]
  rw [hosts, List.map_map]
  rfl

theorem index_mem_hostLinks (position slot : Fin h) :
    tree.index (.host pod position slot) ∈ hostLinks tree pod position := by
  rw [(hostLinks_perm _ _ _).mem_iff]
  simp

theorem hostLinks_length (position : Fin h) : (hostLinks tree pod position).length = h := by
  rw [(hostLinks_perm _ _ _).length_eq]
  simp

theorem hostNumber_bounds (position slot : Fin h) :
    1 ≤ hostNumber tree (.host pod position slot) ∧
      hostNumber tree (.host pod position slot) ≤ h := by
  have inside := List.idxOf_lt_length_of_mem (index_mem_hostLinks tree pod position slot)
  rw [hostLinks_length] at inside
  exact ⟨Nat.le_add_left 1 _, inside⟩

end

variable {tree : FatTree h}

theorem hostNumber_injective
    (same :
      hostNumber tree (.host pod position left) = hostNumber tree (.host pod position right)) :
    left = right := by
  have positions :
      (hostLinks tree pod position).idxOf (tree.index (.host pod position left)) =
        (hostLinks tree pod position).idxOf (tree.index (.host pod position right)) :=
    Nat.succ.inj same
  have indices := (List.idxOf_inj (index_mem_hostLinks _ _ _ _)).mp positions
  have nodes := tree.injective indices
  simpa using nodes

/-! ## When the parts fit -/

/--
Every pod number times ten, switch id and host id that `extractTopology`
gives fits in one octet.
-/
def IdsFit (topo : Topology) (unset : Indeterminate) : Prop :=
  ∀ i < topo.numNodes,
    (extractTopology topo unset i).podId * 10 < 256 ∧
      (extractTopology topo unset i).switchId < 256 ∧ (extractTopology topo unset i).hostId < 256

theorem switchNumber_le (tree : FatTree h) (node : Node h) :
    switchNumber tree node ≤ 5 * (h * h) := by
  cases node with
  | core group member =>
    have block := tree.core group member
    simp only [switchNumber]
    omega
  | aggregate pod position =>
    have block := aggregate_block tree pod position
    simp only [switchNumber]
    omega
  | edge pod position =>
    have block := edge_block tree pod position
    simp only [switchNumber]
    omega
  | host pod position _ =>
    have block := edge_block tree pod position
    simp only [switchNumber]
    omega
  | controller => exact Nat.zero_le _

theorem hostNumber_le (tree : FatTree h) (node : Node h) : hostNumber tree node ≤ h := by
  cases node with
  | host _ _ _ => exact (hostNumber_bounds _ _ _ _).2
  | core _ _ => exact Nat.zero_le _
  | aggregate _ _ => exact Nat.zero_le _
  | edge _ _ => exact Nat.zero_le _
  | controller => exact Nat.zero_le _

theorem podIndex_le (node : Node h) : podIndex node ≤ 2 * h + 2 := by
  cases node with
  | core _ _ => exact Nat.le_succ _
  | aggregate pod _ =>
    have bound := pod.isLt
    simp only [podIndex]
    omega
  | edge pod _ =>
    have bound := pod.isLt
    simp only [podIndex]
    omega
  | host pod _ _ =>
    have bound := pod.isLt
    simp only [podIndex]
    omega
  | controller => exact le_rfl

theorem exists_last_edge (tree : FatTree h) (positive : 0 < h) :
    ∃ pod position, switchNumber tree (.edge pod position) = 5 * (h * h) := by
  have square : 0 < h * h := Nat.mul_pos positive positive
  have inside : 5 * (h * h) - 1 < tree.topo.numNodes := by
    rw [tree.numNodes]
    omega
  rcases tree.surjective _ inside with ⟨node, _⟩
  cases node with
  | core group member =>
    have block := tree.core group member
    omega
  | aggregate pod position =>
    have block := aggregate_block tree pod position
    omega
  | edge pod position =>
    refine ⟨pod, position, ?_⟩
    simp only [switchNumber]
    omega
  | host pod position slot =>
    have block := tree.host pod position slot
    omega
  | controller =>
    have last := tree.controller
    omega

theorem idsFit_iff (tree : FatTree h) (unset : Indeterminate)
    (positive : 0 < h) : IdsFit tree.topo unset ↔ h ≤ 7 := by
  constructor
  · intro fits
    rcases exists_last_edge tree positive with ⟨pod, position, last⟩
    have bound := (fits _ (tree.index_lt (.edge pod position))).2.1
    rw [extractTopology_index _ _ positive] at bound
    simp only [extracted, last] at bound
    by_contra large
    have eight : 8 ≤ h := by omega
    have square : 8 * 8 ≤ h * h := Nat.mul_le_mul eight eight
    omega
  · intro small i inside
    rcases tree.surjective i inside with ⟨node, rfl⟩
    rw [extractTopology_index _ _ positive]
    have square : h * h ≤ 7 * 7 := Nat.mul_le_mul small small
    have pod := podIndex_le node
    have switch := switchNumber_le tree node
    have host := hostNumber_le tree node
    simp only [extracted, podNumber_eq]
    omega

theorem parts_fit (tree : FatTree h) (small : h ≤ 7) (node : Node h) :
    podIndex node * 10 < 256 ∧ layerNumber node < 256 ∧
      switchNumber tree node < 256 ∧ hostNumber tree node < 256 := by
  have square : h * h ≤ 7 * 7 := Nat.mul_le_mul small small
  have pod := podIndex_le node
  have switch := switchNumber_le tree node
  have host := hostNumber_le tree node
  have layer : layerNumber node ≤ 3 := by
    cases node <;> simp [layerNumber]
  omega

theorem getDByte_address (tree : FatTree h) (small : h ≤ 7) (node : Node h) :
    (address tree node).getDByte 0 = podIndex node * 10 ∧
      (address tree node).getDByte 1 = layerNumber node ∧
        (address tree node).getDByte 2 = switchNumber tree node ∧
          (address tree node).getDByte 3 = hostNumber tree node := by
  have fits := parts_fit tree small node
  exact getDByte_set fits.1 fits.2.1 fits.2.2.1 fits.2.2.2

theorem podOctet_bounds (small : h ≤ 7) (node : Node h) :
    0 < podIndex node * 10 ∧ podIndex node * 10 < 224 := by
  have bound := podIndex_le node
  have some : 0 < podIndex node := by
    cases node <;> simp [podIndex]
  omega

theorem isMulticast_address (tree : FatTree h) (small : h ≤ 7)
    (node : Node h) : (address tree node).isMulticast = false := by
  have fits := parts_fit tree small node
  exact isMulticast_set (podOctet_bounds small _).2 fits.2.1 fits.2.2.1 fits.2.2.2

theorem isUnspecified_address (tree : FatTree h) (small : h ≤ 7)
    (node : Node h) : (address tree node).isUnspecified = false := by
  have fits := parts_fit tree small node
  exact isUnspecified_set fits.1 fits.2.1 fits.2.2.1 fits.2.2.2 (.inl (podOctet_bounds small _).1)

/-! ## Different nodes have different addresses -/

section

variable (sameLayer : layerNumber left = layerNumber right)
    (sameSwitch : switchNumber tree left = switchNumber tree right)
include sameLayer sameSwitch

theorem node_of_parts :
    left = right ∨ ∃ pod position slot other,
      left = .host pod position slot ∧ right = .host pod position other := by
  have known {one two : Node h} (same : tree.index one + 1 = tree.index two + 1) : one = two :=
    tree.injective (Nat.succ.inj same)
  cases left with
  | core _ _ =>
    cases right <;> simp [layerNumber] at sameLayer
    exact Or.inl (known sameSwitch)
  | aggregate _ _ =>
    cases right <;> simp [layerNumber] at sameLayer
    exact Or.inl (known sameSwitch)
  | edge _ _ =>
    cases right <;> simp [layerNumber] at sameLayer
    exact Or.inl (known sameSwitch)
  | host pod position slot =>
    cases right with
    | host otherPod otherPosition otherSlot =>
      have edges : Node.edge pod position = .edge otherPod otherPosition := known sameSwitch
      cases edges
      exact Or.inr ⟨pod, position, slot, otherSlot, rfl, rfl⟩
    | controller => exact absurd sameSwitch (Nat.succ_ne_zero _)
    | core _ _ => simp [layerNumber] at sameLayer
    | aggregate _ _ => simp [layerNumber] at sameLayer
    | edge _ _ => simp [layerNumber] at sameLayer
  | controller =>
    cases right with
    | host _ _ _ => exact absurd sameSwitch.symm (Nat.succ_ne_zero _)
    | controller => exact Or.inl rfl
    | core _ _ => simp [layerNumber] at sameLayer
    | aggregate _ _ => simp [layerNumber] at sameLayer
    | edge _ _ => simp [layerNumber] at sameLayer

theorem node_of_all_parts
    (sameHost : hostNumber tree left = hostNumber tree right) : left = right := by
  rcases node_of_parts sameLayer sameSwitch with same | ⟨_, _, _, _, rfl, rfl⟩
  · exact same
  · rw [hostNumber_injective sameHost]

end

theorem address_injective (tree : FatTree h) (small : h ≤ 7) :
    Function.Injective (address tree) := by
  intro _ _ same
  have parts := (set_inj (parts_fit _ small _) (parts_fit _ small _)).mp same
  exact node_of_all_parts parts.2.1 parts.2.2.1 parts.2.2.2

/-! ## The addresses of the interfaces -/

theorem neighbours_length_le (node : Node h) : (neighbours node).length ≤ 5 * (h * h) := by
  have ports (positive : 0 < h) : 2 * h + 1 ≤ 5 * (h * h) := by nlinarith
  cases node with
  | core group _ =>
    have bound := ports (Nat.zero_lt_of_lt group.isLt)
    simpa [neighbours] using bound
  | aggregate _ position =>
    have bound := ports (Nat.zero_lt_of_lt position.isLt)
    simp [neighbours]
    omega
  | edge _ position =>
    have bound := ports (Nat.zero_lt_of_lt position.isLt)
    simp [neighbours]
    omega
  | host _ position _ =>
    have bound := ports (Nat.zero_lt_of_lt position.isLt)
    simp [neighbours]
    omega
  | controller =>
    simp [neighbours, cores, aggregates, edges, List.length_flatMap]
    nlinarith

/-- The last part of the address of the interface of link `k`. -/
def interfaceNumber (tree : FatTree h) (node : Node h) (k : Nat) : Nat :=
  if node.isHost then hostNumber tree node else k + 1

theorem linkInterface_ipAddress (tree : FatTree h) (node : Node h) (k : Nat) :
    (linkInterface (extracted tree node) (address tree node) k).ipAddress =
      .set ((podIndex node * 10 : Nat) : Int) (layerNumber node)
        (switchNumber tree node) (interfaceNumber tree node k) := by
  have switch (role : node.isHost = false) (number : hostNumber tree node = 0) :
      (linkInterface (extracted tree node) (address tree node) k).ipAddress =
        .set ((podIndex node * 10 : Nat) : Int) (layerNumber node)
          (switchNumber tree node) (interfaceNumber tree node k) := by
    simp [linkInterface, extracted, role, interfaceNumber, address, number, IPAddress.set]
    congr 1
  cases node with
  | host _ _ _ => rfl
  | core _ _ => exact switch rfl rfl
  | aggregate _ _ => exact switch rfl rfl
  | edge _ _ => exact switch rfl rfl
  | controller => exact switch rfl rfl

theorem interfaceNumber_lt (tree : FatTree h) (small : h ≤ 7) (node : Node h)
    (link : k < (tree.topo.links (tree.index node)).length) :
    interfaceNumber tree node k < 256 := by
  have square : h * h ≤ 7 * 7 := Nat.mul_le_mul small small
  have ports := neighbours_length_le node
  have host := hostNumber_le tree node
  rw [tree.links_length] at link
  unfold interfaceNumber
  split
  all_goals omega

theorem linkInterface_injective (tree : FatTree h) (small : h ≤ 7)
    (leftLink : k < (tree.topo.links (tree.index left)).length)
    (rightLink : l < (tree.topo.links (tree.index right)).length)
    (same :
      (linkInterface (extracted tree left) (address tree left) k).ipAddress =
        (linkInterface (extracted tree right) (address tree right) l).ipAddress) :
    left = right := by
  have leftFits := parts_fit tree small left
  have rightFits := parts_fit tree small right
  rw [linkInterface_ipAddress, linkInterface_ipAddress, set_inj
    ⟨leftFits.1, leftFits.2.1, leftFits.2.2.1, interfaceNumber_lt _ small _ leftLink⟩
    ⟨rightFits.1, rightFits.2.1, rightFits.2.2.1, interfaceNumber_lt _ small _ rightLink⟩] at same
  rcases node_of_parts same.2.1 same.2.2.1 with equal | ⟨pod, position, slot, other, rfl, rfl⟩
  · exact equal
  · have numbers :
        hostNumber tree (.host pod position slot) =
          hostNumber tree (.host pod position other) := same.2.2.2
    rw [hostNumber_injective numbers]

/-! ## Addresses that can be taken apart -/

/-- The address that the configurator gives to a node. -/
def givenAddress (tree : FatTree h) (unset : Indeterminate) (node : Node h) : IPAddress :=
  nodeAddress unset (extractTopology tree.topo unset) (tree.index node)

/-- The interface table that the configurator leaves at a node. -/
def givenInterfaces (tree : FatTree h) (unset : Indeterminate)
    (node : Node h) : List InterfaceEntry :=
  interfaces tree.topo unset (extractTopology tree.topo unset) (tree.index node)

/--
Addresses are unique and their parts can be read back.  The parameter tells
which nodes have the layer number zero.
-/
structure Decodable (tree : FatTree h) (unset : Indeterminate) (lowest : Node h → Bool) : Prop where
  nodes : ∀ left right, left ≠ right → givenAddress tree unset left ≠ givenAddress tree unset right
  interfaces : ∀ left right, left ≠ right →
    ∀ one ∈ givenInterfaces tree unset left,
      ∀ other ∈ givenInterfaces tree unset right,
        one.isLoopback = false → other.isLoopback = false → one.ipAddress ≠ other.ipAddress
  core : ∀ node, (givenAddress tree unset node).getDByte 1 = 3 ↔ node.isCore = true
  aggregate : ∀ node, (givenAddress tree unset node).getDByte 1 = 2 ↔ node.isAggregate = true
  edge : ∀ node, (givenAddress tree unset node).getDByte 1 = 1 ↔ node.isEdge = true
  lowest : ∀ node, (givenAddress tree unset node).getDByte 1 = 0 ↔ lowest node = true
  switchId : ∀ node,
    ((givenAddress tree unset node).getDByte 2 : Int) =
      (extractTopology tree.topo unset (tree.index node)).switchId
  hostSwitch : ∀ pod position slot,
    ((givenAddress tree unset (.host pod position slot)).getDByte 2 : Int) =
      (extractTopology tree.topo unset (tree.index (.edge pod position))).switchId

/-- The nodes of layer zero: the hosts and the controller. -/
def hostOrController (node : Node h) : Bool :=
  node.isHost || node.isController

theorem mem_givenInterfaces (positive : 0 < h)
    (member : entry ∈ givenInterfaces tree unset node) (outside : entry.isLoopback = false) :
    ∃ k, k < (tree.topo.links (tree.index node)).length ∧
      entry = linkInterface (extracted tree node) (address tree node) k := by
  rw [givenInterfaces, interfaces, extractTopology_index _ _ positive,
    nodeAddress_index _ _ positive] at member
  rcases List.mem_cons.mp member with rfl | link
  · contradiction
  · rcases List.mem_map.mp link with ⟨k, inside, rfl⟩
    exact ⟨k, List.mem_range.mp inside, rfl⟩

/--
Where the ids fit, all addresses are different, the layer octet tells the
role of a node, and the switch octet its switch id.
-/
theorem addresses_decodable (tree : FatTree h) (unset : Indeterminate)
    (ports : 4 ≤ 2 * h) (fits : IdsFit tree.topo unset) :
    Decodable tree unset hostOrController := by
  have positive : 0 < h := by omega
  have small : h ≤ 7 := (idsFit_iff _ _ positive).mp fits
  have given (node : Node h) : givenAddress tree unset node = address tree node :=
    nodeAddress_index _ _ positive _
  constructor
  · intro _ _ distinct same
    rw [given, given] at same
    exact distinct (address_injective _ small same)
  · intro _ _ distinct _ oneIn _ otherIn oneOut otherOut same
    rcases mem_givenInterfaces positive oneIn oneOut with ⟨_, leftLink, rfl⟩
    rcases mem_givenInterfaces positive otherIn otherOut with ⟨_, rightLink, rfl⟩
    exact distinct (linkInterface_injective tree small leftLink rightLink same)
  · intro node
    rw [given, (getDByte_address tree small node).2.1]
    cases node <;> simp [layerNumber, Node.isCore]
  · intro node
    rw [given, (getDByte_address tree small node).2.1]
    cases node <;> simp [layerNumber, Node.isAggregate]
  · intro node
    rw [given, (getDByte_address tree small node).2.1]
    cases node <;> simp [layerNumber, Node.isEdge]
  · intro node
    rw [given, (getDByte_address tree small node).2.1]
    cases node <;> simp [layerNumber, hostOrController, Node.isHost, Node.isController]
  · intro node
    rw [given, (getDByte_address tree small node).2.2.1, extractTopology_index tree unset positive]
    rfl
  · intro _ _ _
    rw [given, (getDByte_address tree small _).2.2.1, extractTopology_index tree unset positive]
    rfl

/-- With more than 14 ports the switch id of the last edge is cut off. -/
theorem not_decodable_of_large (tree : FatTree h) (unset : Indeterminate)
    (large : 8 ≤ h) (lowest : Node h → Bool) : ¬ Decodable tree unset lowest := by
  intro decodable
  have positive : 0 < h := by omega
  have square : 8 * 8 ≤ h * h := Nat.mul_le_mul large large
  rcases exists_last_edge tree positive with ⟨pod, position, last⟩
  have octet := getDByte_lt (givenAddress tree unset (.edge pod position)) 2
  have read := decodable.switchId (.edge pod position)
  rw [extractTopology_index _ _ positive] at read
  simp only [extracted, last] at read
  omega

theorem not_decodable_of_controller (tree : FatTree h) (unset : Indeterminate)
    (positive : 0 < h) (small : h ≤ 7) : ¬ Decodable tree unset Node.isHost := by
  intro decodable
  have layer : (givenAddress tree unset .controller).getDByte 1 = 0 := by
    rw [givenAddress, nodeAddress_index _ _ positive]
    exact (getDByte_address _ small .controller).2.1
  have host := (decodable.lowest .controller).mp layer
  contradiction

/-- Fields and variables that happen to hold zero. -/
def zeroed : Indeterminate where
  podId := fun _ => 0
  switchId := fun _ => 0
  numOfPod := 0
  layerId := 0

theorem addresses_decodable_four_ports :
    4 ≤ 2 * 2 ∧ IdsFit (standard 2).topo zeroed ∧
      Decodable (standard 2) zeroed hostOrController := by
  have fits : IdsFit (standard 2).topo zeroed := (idsFit_iff _ _ (by decide)).mpr (by decide)
  exact ⟨by decide, fits, addresses_decodable _ _ (by decide) fits⟩

/--
With 4 ports the controller has layer octet zero without being a host; with
16 ports the switch octet is not the switch id.
-/
theorem addresses_not_decodable_four_and_sixteen_ports :
    ¬ Decodable (standard 2) zeroed Node.isHost ∧
      ¬ Decodable (standard 8) zeroed hostOrController :=
  ⟨not_decodable_of_controller _ _ (by decide) (by decide),
    not_decodable_of_large _ _ (by decide) _⟩

end OmnetDsi.Autorouting.AddressPlan
