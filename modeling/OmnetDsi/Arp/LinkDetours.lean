import OmnetDsi.Contract.Addresses

/-!
# Detours around broken links

A packet for an interface that is not broadcast is sent through the gate of
the interface.  When the gate is not connected, `link_broken` chooses another
one and, the first time, tells the controller about the link.  The gates of a
switch with `n` ports lead down (the first half) or up (the second half), and
the last interface leads to the controller.

The detour is the gate after the broken one, or the one before it at the end
of its half (`neighbour`).  It leads in the same direction, and it is used
whether it is connected or not.
-/

namespace OmnetDsi.Arp.LinkDetours

open Contract.Addresses

/-! ## The module -/

/-- What the module knows about its node, and its `nicOut` gates. -/
structure ARP where
  numInterfaces : Int
  routerId : IPAddress
  isConnected : Int → Bool
  flag_for_packet_sent_out : Bool := false

/-- The interfaces without the loopback and the one to the controller. -/
def ARP.num_interface (arp : ARP) : Int :=
  arp.numInterfaces - 2

/-- The datagram that tells the controller about a link. -/
structure LinkFailure where
  byteLength : Nat := 20
  destAddress : IPAddress
  srcAddress : IPAddress
  link_status : Int := 1
  timeToLive : Int := 32
  transportProtocol : Int := 2
  optionCode : Int := 7
  recordRoute : List IPAddress

/-- The switch at the other end of the link with an index. -/
def get_next_hop_address (num_interface : Int) (this_node_address : IPAddress)
    (index : Int) : IPAddress :=
  let half := (num_interface * num_interface).tdiv 2
  let switch : Int := this_node_address.getDByte 2
  if this_node_address.getDByte 1 = 1 then
    let switch_id :=
      if this_node_address.getDByte 2 % 2 ≠ 0 then switch - half + (num_interface - index - 1)
      else switch - half + (num_interface - index - 1) - 1
    .set (this_node_address.getDByte 0) 2 switch_id 0
  else if this_node_address.getDByte 1 = 2 then
    if index ≥ num_interface.tdiv 2 then
      let switch_id :=
        if this_node_address.getDByte 2 % 2 ≠ 0 then num_interface - index
        else num_interface - index + 2
      .set ((num_interface + 1) * 10) 3 switch_id 0
    else
      let switch_id :=
        if this_node_address.getDByte 2 % 2 ≠ 0 then switch + half + index
        else switch + half + index - 1
      .set (this_node_address.getDByte 0) 1 switch_id 0
  else UNSPECIFIED_ADDRESS

/-- The gate instead of the one with an index. -/
def detour (num_interface index : Int) : Int :=
  if index = num_interface - 1 then index - 1
  else if index = num_interface.tdiv 2 then index + 1
  else if index = 0 then index + 1
  else if index = num_interface.tdiv 2 - 1 then index - 1
  else index + 1

/-- The gate a packet is sent through, and what is sent besides. -/
structure Outcome where
  arp : ARP
  gate : Int
  /-- The datagram to the controller, and the gate it is sent through. -/
  linkFailure : Option (Int × LinkFailure) := none

namespace ARP

def link_broken (arp : ARP) (index : Int) : Outcome :=
  let this_node_address := arp.routerId
  let dest_address := get_next_hop_address arp.num_interface this_node_address index
  let gate := detour arp.num_interface index
  if arp.flag_for_packet_sent_out then { arp, gate }
  else
    { arp := { arp with flag_for_packet_sent_out := true }
      gate
      linkFailure :=
        some (arp.num_interface,
          { destAddress := dest_address
            srcAddress := this_node_address
            recordRoute := [arp.routerId] }) }

/-- For an interface that is not broadcast. -/
def processOutboundPacket (arp : ARP) (networkLayerGateIndex : Int) : Outcome :=
  if arp.isConnected networkLayerGateIndex then { arp, gate := networkLayerGateIndex }
  else arp.link_broken networkLayerGateIndex

end ARP

/-! ## The choice of the detour -/

/-- Both gates lead down, or both lead up. -/
def SameDirection (n index gate : Nat) : Prop :=
  index < n / 2 ↔ gate < n / 2

instance (n index gate : Nat) : Decidable (SameDirection n index gate) :=
  inferInstanceAs (Decidable (_ ↔ _))

/-- The next gate of the same half, or the one before at its end. -/
def neighbour (n index : Nat) : Nat :=
  if index + 1 = n / 2 ∨ index + 1 = n then index - 1 else index + 1

variable {n index : Nat}

theorem detour_eq (even : n % 2 = 0) (four : 4 ≤ n) : detour n index = neighbour n index := by
  have half : (n : Int).tdiv 2 = (n / 2 : Nat) := rfl
  unfold detour neighbour
  split_ifs <;> omega

theorem neighbour_sameDirection (even : n % 2 = 0) (four : 4 ≤ n) (inside : index < n) :
    neighbour n index ≠ index ∧ neighbour n index < n ∧
      SameDirection n index (neighbour n index) := by
  unfold neighbour SameDirection
  split_ifs <;> omega

/-- The packet is sent through another gate that leads the same way. -/
def Detours (arp : ARP) (n index : Nat) : Prop :=
  ∃ gate : Nat,
    (arp.processOutboundPacket index).gate = gate ∧ gate ≠ index ∧
      gate < n ∧ SameDirection n index gate ∧ arp.isConnected gate = true

theorem link_broken_gate (arp : ARP) (index : Int) :
    (arp.link_broken index).gate = detour arp.num_interface index := by
  dsimp only [ARP.link_broken]
  split_ifs <;> rfl

variable {arp : ARP}

theorem processOutboundPacket_gate
    (interfaces : arp.num_interface = n) (even : n % 2 = 0) (four : 4 ≤ n)
    (broken : arp.isConnected index = false) :
    (arp.processOutboundPacket index).gate = neighbour n index := by
  rw [ARP.processOutboundPacket, broken, if_neg Bool.false_ne_true,
    link_broken_gate, interfaces, detour_eq even four]

theorem detours_of_connected (interfaces : arp.num_interface = n)
    (even : n % 2 = 0) (four : 4 ≤ n) (inside : index < n) (broken : arp.isConnected index = false)
    (connected : arp.isConnected (neighbour n index) = true) : Detours arp n index := by
  have place := neighbour_sameDirection even four inside
  exact ⟨_, processOutboundPacket_gate interfaces even four broken,
    place.1, place.2.1, place.2.2, connected⟩

/-- The detour is connected exactly if the gate beside the broken one is. -/
theorem detours_iff {arp : ARP} (interfaces : arp.num_interface = n)
    (even : n % 2 = 0) (four : 4 ≤ n) (inside : index < n)
    (broken : arp.isConnected index = false) :
    Detours arp n index ↔ arp.isConnected (neighbour n index) = true := by
  constructor
  · rintro ⟨_, sent, _, _, _, connected⟩
    rw [processOutboundPacket_gate interfaces even four broken] at sent
    rwa [sent]
  · exact detours_of_connected interfaces even four inside broken

/-- A switch with the first two of its three links down broken. -/
def twoBroken : ARP where
  numInterfaces := 8
  routerId := .set 10 1 28 0
  isConnected gate := gate != 0 && gate != 1

theorem detours_iff_two_broken :
    Detours twoBroken 6 0 ↔ twoBroken.isConnected (neighbour 6 0) = true :=
  detours_iff rfl rfl (by decide) (by decide) rfl

/-- The detour is the second broken gate, although the third is connected. -/
theorem detour_broken :
    ¬ ∀ (arp : ARP) (n index : Nat),
        arp.num_interface = n → n % 2 = 0 → 4 ≤ n → index < n →
          arp.isConnected index = false →
            (∃ gate : Nat, gate < n ∧ SameDirection n index gate ∧
              arp.isConnected gate = true) → Detours arp n index := by
  intro always
  rcases always twoBroken 6 0 rfl rfl (by decide) (by decide) rfl
    ⟨2, by decide, by decide, rfl⟩ with ⟨gate, sent, _, _, _, connected⟩
  have second : gate = 1 := by
    have chosen : (twoBroken.processOutboundPacket (0 : Nat)).gate = 1 := by decide
    omega
  rw [second] at connected
  exact absurd connected (by decide)

/-- With four ports there is only one other gate, which is then connected. -/
theorem detours_of_four_ports (interfaces : arp.num_interface = (4 : Nat)) (inside : index < 4)
    (broken : arp.isConnected index = false)
    (some : ∃ gate : Nat, gate < 4 ∧ SameDirection 4 index gate ∧ arp.isConnected gate = true) :
    Detours arp 4 index := by
  apply detours_of_connected interfaces rfl le_rfl inside broken
  rcases some with ⟨gate, _, same, connected⟩
  have other : gate ≠ index := by
    rintro rfl
    rw [broken] at connected
    cases connected
  have only : gate = neighbour 4 index := by
    unfold SameDirection at same
    unfold neighbour
    split_ifs <;> omega
  rwa [← only]

end OmnetDsi.Arp.LinkDetours
