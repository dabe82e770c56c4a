import Mathlib.Algebra.Order.BigOperators.Group.List
import OmnetDsi.Ospf.DatabaseExchange

/-!
# How much is put into a packet

The loops that fill DD packets and link state requests keep the size of the
packet, up to the MTU of the interface.  An interface whose MTU does not even
hold the headers with one item is taken for one that sends whole datagrams.

The loop that fills an update never adds the LSAs that it includes to its
size, so each LSA is compared with the MTU as if it were the only one.
-/

namespace OmnetDsi.Ospf.Packetisation

open List
open Ospf.DatabaseExchange Ospf.LSAHeaders
open Ospf.ShortestPathTree (MAX_AGE)

/-! ## LSAs -/

def OSPF_ROUTERLSA_HEADER_LENGTH : Nat := 4

def OSPF_LINK_HEADER_LENGTH : Nat := 12

def OSPF_TOS_LENGTH : Nat := 4

def OSPF_NETWORKLSA_MASK_LENGTH : Nat := 4

def OSPF_NETWORKLSA_ADDRESS_LENGTH : Nat := 4

def OSPF_SUMMARYLSA_HEADER_LENGTH : Nat := 8

def OSPF_ASEXTERNALLSA_HEADER_LENGTH : Nat := 16

def OSPF_ASEXTERNALLSA_TOS_INFO_LENGTH : Nat := 12

/-- What an LSA has behind its header, by the lengths of its arrays. -/
inductive Contents where
  /-- Each link with the length of its TOS data. -/
  | router (links : List Nat)
  | network (attachedRouters : Nat)
  | summary (tosData : Nat)
  | asExternal (externalTOSInfo : Nat)

/-- An LSA; the class of its object is the one that belongs to its type. -/
structure OSPFLSA where
  header : OSPFLSAHeader
  contents : Contents

/-- The count of the links is kept in 16 bits. -/
def CalculateLSASize (lsa : OSPFLSA) : Nat :=
  OSPF_LSA_HEADER_LENGTH + match lsa.contents with
    | .router links =>
      OSPF_ROUTERLSA_HEADER_LENGTH +
        ((links.take (links.length % 2 ^ 16)).map fun tosData =>
          OSPF_LINK_HEADER_LENGTH + tosData * OSPF_TOS_LENGTH).sum
    | .network attachedRouters =>
      OSPF_NETWORKLSA_MASK_LENGTH + attachedRouters * OSPF_NETWORKLSA_ADDRESS_LENGTH
    | .summary tosData => OSPF_SUMMARYLSA_HEADER_LENGTH + tosData * OSPF_TOS_LENGTH
    | .asExternal externalTOSInfo =>
      OSPF_ASEXTERNALLSA_HEADER_LENGTH + externalTOSInfo * OSPF_ASEXTERNALLSA_TOS_INFO_LENGTH

/-- The copy of an LSA that is sent. -/
def OSPFLSA.aged (transmissionDelay : Nat) (lsa : OSPFLSA) : OSPFLSA :=
  { lsa with
    header :=
      { lsa.header with
        lsAge :=
          if lsa.header.lsAge + transmissionDelay < MAX_AGE then
            lsa.header.lsAge + transmissionDelay
          else MAX_AGE } }

/-! ## Updates -/

/-- The size with which each LSA is compared; it has the wrong header. -/
def updateLength : Nat := IPV4_HEADER_LENGTH + OSPF_LSA_HEADER_LENGTH

/-- The LSA is included whatever was included before. -/
def fitsAlone (intf : Interface) (lsa : OSPFLSA) : Bool :=
  updateLength + CalculateLSASize lsa < intf.mtu.toNat

/-- The LSA is included if it is the first, and then it is the last. -/
def fitsDatagram (lsa : OSPFLSA) : Bool :=
  updateLength + CalculateLSASize lsa < IPV4_DATAGRAM_LENGTH

/-- The loop over the list: the LSAs that are included, and the others. -/
def fillUpdate (intf : Interface) : BitVec 16 → List OSPFLSA → List OSPFLSA × List OSPFLSA
  | _, [] => ([], [])
  | lsaCount, lsa :: rest =>
    if fitsAlone intf lsa then
      let filled := fillUpdate intf (lsaCount + 1) rest
      (lsa :: filled.1, filled.2)
    else if lsaCount = 0 ∧ fitsDatagram lsa then ([lsa], rest)
    else
      let filled := fillUpdate intf lsaCount rest
      (filled.1, lsa :: filled.2)

/--
The LSAs of the packet in the order in which they are included; each of its
four arrays has those of one class.  The list is left as it is.
-/
def RetransmitUpdatePacket (intf : Interface) (transmissionDelay : Nat)
    (linkStateRetransmissionList : List OSPFLSA) : List OSPFLSA :=
  (fillUpdate intf 0 linkStateRetransmissionList).1.map (·.aged transmissionDelay)

/-! ## What is to hold -/

/-- A packet does not exceed the MTU unless it has one item only. -/
def WithinMTU (intf : Interface) (headerLength : Nat) (items : List Nat) : Prop :=
  headerLength + items.sum ≤ intf.mtu.toNat ∨ items.length = 1

/-- The packet has the first headers of the summary; the others remain. -/
def DescribesWithin (intf : Interface) (router : Router) (init : Bool) : Prop :=
  ∃ packet : OSPFDatabaseDescriptionPacket,
    (SendDatabaseDescriptionPacket intf router init).channel = router.channel ++ [packet] ∧
      packet.lsaHeaders ++ (SendDatabaseDescriptionPacket intf router init).databaseSummaryList =
        router.databaseSummaryList ∧
      WithinMTU intf (IPV4_HEADER_LENGTH + OSPF_HEADER_LENGTH + OSPF_DD_HEADER_LENGTH)
        (packet.lsaHeaders.map fun _ => OSPF_LSA_HEADER_LENGTH)

/-- The request for an LSA. -/
def requestOf (requestHeader : OSPFLSAHeader) : LSARequest where
  lsType := requestHeader.lsType
  linkStateID := requestHeader.linkStateID
  advertisingRouter := requestHeader.advertisingRouter

/-- The packet asks for the first LSAs of the list; the others are left. -/
def RequestsWithin (intf : Interface) (router : Router) : Prop :=
  ∃ included rest : List OSPFLSAHeader,
    (SendLinkStateRequestPacket intf router).requests =
        router.requests ++ [included.map requestOf] ∧
      included ++ rest = router.linkStateRequestList ∧
      WithinMTU intf (IPV4_HEADER_LENGTH + OSPF_HEADER_LENGTH)
        (included.map fun _ => OSPF_REQUEST_LENGTH)

/-- The update has LSAs of the list, each once; the others are left. -/
def UpdatesWithin (intf : Interface) (transmissionDelay : Nat)
    (linkStateRetransmissionList : List OSPFLSA) : Prop :=
  ∃ included rest : List OSPFLSA,
    RetransmitUpdatePacket intf transmissionDelay linkStateRetransmissionList =
        included.map (·.aged transmissionDelay) ∧
      (included ++ rest).Perm linkStateRetransmissionList ∧
      WithinMTU intf (IPV4_HEADER_LENGTH + OSPF_HEADER_LENGTH) (included.map CalculateLSASize)

/-- What is to hold of the three packets. -/
structure Packetised (intf : Interface) (router : Router) (init : Bool) (transmissionDelay : Nat)
    (linkStateRetransmissionList : List OSPFLSA) : Prop where
  description : DescribesWithin intf router init
  request : RequestsWithin intf router
  update : UpdatesWithin intf transmissionDelay linkStateRetransmissionList

/-- The list after the LSAs that are too long for any packet. -/
def sendable (lsas : List OSPFLSA) : List OSPFLSA :=
  lsas.dropWhile fun lsa => !fitsDatagram lsa

/--
When the MTU holds what an update is filled with: the first LSA that can be
sent does not fit alone and is sent alone, or those that fit alone fit
together, or there is one of them only.
-/
def UpdateFits (intf : Interface) (linkStateRetransmissionList : List OSPFLSA) : Prop :=
  match sendable linkStateRetransmissionList with
  | [] => IPV4_HEADER_LENGTH + OSPF_HEADER_LENGTH ≤ intf.mtu.toNat
  | first :: _ =>
    fitsAlone intf first = false ∨
      WithinMTU intf (IPV4_HEADER_LENGTH + OSPF_HEADER_LENGTH)
        ((linkStateRetransmissionList.filter (fitsAlone intf)).map CalculateLSASize)

/-- When each of the three packets is within the MTU. -/
structure Roomy (intf : Interface) (router : Router) (init : Bool)
    (linkStateRetransmissionList : List OSPFLSA) : Prop where
  description : let headerLength := IPV4_HEADER_LENGTH + OSPF_HEADER_LENGTH + OSPF_DD_HEADER_LENGTH
    let headers := if init then [] else router.databaseSummaryList
    headerLength + OSPF_LSA_HEADER_LENGTH ≤ intf.mtu.toNat ∨ headers.length = 1 ∨
      headers = [] ∧ headerLength ≤ intf.mtu.toNat
  request : let headerLength := IPV4_HEADER_LENGTH + OSPF_HEADER_LENGTH
    headerLength + OSPF_REQUEST_LENGTH ≤ intf.mtu.toNat ∨
      router.linkStateRequestList.length = 1 ∨
        router.linkStateRequestList = [] ∧ headerLength ≤ intf.mtu.toNat
  update : UpdateFits intf linkStateRetransmissionList

/-! ## Items of one length -/

section Items

variable {Item : Type} {maxPacketSize itemLength : Nat}

theorem fillPacket_within (packetSize : Nat) (items : List Item)
    (within : packetSize ≤ maxPacketSize) :
    packetSize + ((fillPacket maxPacketSize itemLength packetSize items).1.map
      fun _ => itemLength).sum ≤ maxPacketSize := by
  induction items generalizing packetSize with
  | nil => exact within
  | cons _ _ induction =>
    rw [fillPacket]
    split_ifs with room
    · have filled := induction _ room
      rw [map_cons, sum_cons]
      omega
    · exact within

theorem fillPacket_pair {rest : List Item}
    (room : packetSize + itemLength + itemLength ≤ maxPacketSize) :
    ∃ more,
      (fillPacket maxPacketSize itemLength packetSize (first :: second :: rest)).1 =
        first :: second :: more := by
  rw [fillPacket, if_pos (by omega), fillPacket, if_pos room]
  exact ⟨_, rfl⟩

/--
Filled up to the size for the interface, a packet is within the MTU exactly if
the MTU holds an item, or there is one item, or none and the headers fit.
-/
theorem fillPacket_withinMTU_iff (intf : Interface) (headerLength : Nat) (items : List Item)
    (small : headerLength + itemLength + itemLength ≤ IPV4_DATAGRAM_LENGTH)
    (positive : 0 < itemLength) :
    WithinMTU intf headerLength
        ((fillPacket (intf.maxPacketSize (headerLength + itemLength)) itemLength headerLength
          items).1.map fun _ => itemLength) ↔
      headerLength + itemLength ≤ intf.mtu.toNat ∨ items.length = 1 ∨
        items = [] ∧ headerLength ≤ intf.mtu.toNat := by
  unfold WithinMTU Interface.maxPacketSize
  split_ifs with narrow
  · match items with
    | [] => simp [fillPacket]; omega
    | [item] => simp [fillPacket, show headerLength + itemLength ≤ IPV4_DATAGRAM_LENGTH by omega]
    | first :: second :: rest =>
      rcases @fillPacket_pair _ _ _ _ _ _ _ small with ⟨_, filled⟩
      rw [filled]
      simp
      omega
  · have within := @fillPacket_within _ intf.mtu.toNat itemLength headerLength items (by omega)
    exact iff_of_true (.inl within) (.inl (by omega))

end Items

/-! ## Updates -/

section Updates

variable (intf : Interface)

theorem fillUpdate_perm (lsaCount : BitVec 16) (lsas : List OSPFLSA) :
    ((fillUpdate intf lsaCount lsas).1 ++ (fillUpdate intf lsaCount lsas).2).Perm lsas := by
  induction lsas generalizing lsaCount with
  | nil => exact .refl _
  | cons _ _ induction =>
    rw [fillUpdate]
    split_ifs
    · exact (induction _).cons _
    · exact .refl _
    · exact perm_middle.trans ((induction _).cons _)

/-- Once an LSA is included, and until the count is back at zero, those are that fit alone. -/
theorem fillUpdate_eq_filter (lsas : List OSPFLSA) (some : lsaCount ≠ 0)
    (counted : lsaCount.toNat + (lsas.filter (fitsAlone intf)).length < 2 ^ 16) :
    (fillUpdate intf lsaCount lsas).1 = lsas.filter (fitsAlone intf) := by
  induction lsas generalizing lsaCount with
  | nil => rfl
  | cons _ _ induction =>
    rw [fillUpdate]
    split_ifs with alone first
    · rw [filter_cons_of_pos alone, length_cons] at counted
      have next : (lsaCount + 1).toNat = lsaCount.toNat + 1 := by
        exact Nat.mod_eq_of_lt (by change lsaCount.toNat + 1 < 2 ^ 16; omega)
      dsimp only
      rw [filter_cons_of_pos alone, induction]
      · intro zero
        rw [zero] at next
        exact absurd next (by simp)
      · omega
    · exact absurd first.1 some
    · rw [filter_cons_of_neg (by simpa using alone)] at counted ⊢
      exact induction some counted

/-- Those that fit alone are included until the count is back at zero. -/
theorem length_fillUpdate (lsas : List OSPFLSA) (some : lsaCount ≠ 0) :
    min (lsas.filter (fitsAlone intf)).length (2 ^ 16 - lsaCount.toNat) ≤
      (fillUpdate intf lsaCount lsas).1.length := by
  induction lsas generalizing lsaCount with
  | nil => exact Nat.min_le_left _ _
  | cons _ _ induction =>
    rw [fillUpdate]
    split_ifs with alone first
    · rw [filter_cons_of_pos alone]
      dsimp only [length_cons]
      have next : (lsaCount + 1).toNat = (lsaCount.toNat + 1) % 2 ^ 16 := BitVec.toNat_add _ _
      by_cases zero : lsaCount + 1 = 0
      · rw [zero] at next
        change 0 = _ at next
        omega
      · have more := induction zero
        omega
    · exact absurd first.1 some
    · rw [filter_cons_of_neg (by simpa using alone)]
      exact induction some

theorem CalculateLSASize_ge (lsa : OSPFLSA) : OSPF_LSA_HEADER_LENGTH ≤ CalculateLSASize lsa :=
  Nat.le_add_right _ _

theorem sum_sizes_ge (lsas : List OSPFLSA) :
    lsas.length * OSPF_LSA_HEADER_LENGTH ≤ (lsas.map CalculateLSASize).sum := by
  have sizes := card_nsmul_le_sum (lsas.map _) _
    (fun size member => by
      rcases mem_map.mp member with ⟨lsa, _, rfl⟩
      exact CalculateLSASize_ge lsa)
  rwa [length_map] at sizes

theorem fitsDatagram_of_fitsAlone (alone : fitsAlone intf lsa) : fitsDatagram lsa := by
  have wide := intf.mtu.isLt
  simp only [fitsAlone, fitsDatagram, decide_eq_true_eq] at alone ⊢
  exact Nat.lt_trans alone wide

theorem fillUpdate_sendable (lsas : List OSPFLSA) :
    (fillUpdate intf 0 lsas).1 = (fillUpdate intf 0 (sendable lsas)).1 := by
  induction lsas with
  | nil => rfl
  | cons lsa rest induction =>
    by_cases fits : fitsDatagram lsa
    · rw [sendable, dropWhile_cons_of_neg (by simp [fits])]
    · have dropped : sendable (lsa :: rest) = sendable rest :=
        dropWhile_cons_of_pos (by simp [fits])
      rw [dropped, ← induction, fillUpdate,
        if_neg (fun alone => fits (fitsDatagram_of_fitsAlone _ alone)),
        if_neg (fun first => fits first.2)]

theorem filter_sendable (lsas : List OSPFLSA) :
    (sendable lsas).filter (fitsAlone intf) = lsas.filter (fitsAlone intf) := by
  induction lsas with
  | nil => rfl
  | cons lsa rest induction =>
    by_cases fits : fitsDatagram lsa
    · rw [sendable, dropWhile_cons_of_neg (by simp [fits])]
    · have dropped : sendable (lsa :: rest) = sendable rest :=
        dropWhile_cons_of_pos (by simp [fits])
      rw [dropped, induction, filter_cons_of_neg]
      exact fun alone => fits (fitsDatagram_of_fitsAlone _ alone)

theorem fillUpdate_withinMTU_iff (lsas : List OSPFLSA) :
    WithinMTU intf (IPV4_HEADER_LENGTH + OSPF_HEADER_LENGTH)
        ((fillUpdate intf 0 lsas).1.map CalculateLSASize) ↔
      UpdateFits intf lsas := by
  have same := filter_sendable intf lsas
  rw [fillUpdate_sendable, UpdateFits, ← same]
  match found : sendable lsas with
  | [] => simp [WithinMTU, fillUpdate]
  | first :: rest =>
    have fits : fitsDatagram first = true := by
      have head := head?_dropWhile_not (fun lsa => !fitsDatagram lsa) lsas
      rw [← sendable, found] at head
      simpa using head
    cases alone : fitsAlone intf first with
    | false => simp [WithinMTU, fillUpdate, alone, fits]
    | true =>
      rw [fillUpdate, if_pos alone, filter_cons_of_pos alone]
      dsimp only
      rw [or_iff_right (by rw [alone]; decide)]
      by_cases counted : (rest.filter (fitsAlone intf)).length + 1 < 2 ^ 16
      · rw [fillUpdate_eq_filter _ _ (by decide) (by simpa [Nat.add_comm] using counted)]
      · -- too many for the count, and far too many for the MTU
        have many := @length_fillUpdate intf (0 + 1) rest (by decide)
        change min _ (2 ^ 16 - 1) ≤ _ at many
        have sent := sum_sizes_ge (fillUpdate intf (0 + 1) rest).1
        have fitting := sum_sizes_ge (rest.filter (fitsAlone intf))
        unfold WithinMTU OSPF_LSA_HEADER_LENGTH at *
        simp only [map_cons, sum_cons, length_cons, length_map]
        omega

end Updates

/-! ## Packetisation -/

section Packets

theorem describesWithin_iff (init : Bool) :
    DescribesWithin intf router init ↔
      let headerLength := IPV4_HEADER_LENGTH + OSPF_HEADER_LENGTH + OSPF_DD_HEADER_LENGTH
      let headers := if init then [] else router.databaseSummaryList
      headerLength + OSPF_LSA_HEADER_LENGTH ≤ intf.mtu.toNat ∨ headers.length = 1 ∨
        headers = [] ∧ headerLength ≤ intf.mtu.toNat := by
  have filled := @fillPacket_withinMTU_iff _ OSPF_LSA_HEADER_LENGTH intf
    (IPV4_HEADER_LENGTH + OSPF_HEADER_LENGTH + OSPF_DD_HEADER_LENGTH)
    (if init then [] else router.databaseSummaryList) (by decide) (by decide)
  refine Iff.trans ?_ filled
  cases init with
  | true =>
    constructor
    · rintro ⟨_, sent, _, within⟩
      cases append_cancel_left sent
      exact within
    · exact fun within => ⟨_, rfl, rfl, within⟩
  | false =>
    constructor
    · rintro ⟨_, sent, _, within⟩
      cases append_cancel_left sent
      exact within
    · exact fun within => ⟨_, rfl, fillPacket_append _ _ _ _, within⟩

theorem requestsWithin_iff :
    RequestsWithin intf router ↔ let headerLength := IPV4_HEADER_LENGTH + OSPF_HEADER_LENGTH
      headerLength + OSPF_REQUEST_LENGTH ≤ intf.mtu.toNat ∨
        router.linkStateRequestList.length = 1 ∨
          router.linkStateRequestList = [] ∧ headerLength ≤ intf.mtu.toNat := by
  have filled := @fillPacket_withinMTU_iff _ OSPF_REQUEST_LENGTH intf
    (IPV4_HEADER_LENGTH + OSPF_HEADER_LENGTH) router.linkStateRequestList (by decide) (by decide)
  refine Iff.trans ?_ filled
  constructor
  · rintro ⟨_, _, sent, _, within⟩
    have packet := congrArg length (singleton_inj.mp (append_cancel_left sent))
    rw [length_map, length_map] at packet
    rwa [map_const', packet, ← map_const']
  · exact fun within => ⟨_, _, rfl, fillPacket_append _ _ _ _, within⟩

@[simp]
theorem CalculateLSASize_aged (transmissionDelay : Nat) (lsa : OSPFLSA) :
    CalculateLSASize (lsa.aged transmissionDelay) = CalculateLSASize lsa :=
  rfl

theorem updatesWithin_iff (transmissionDelay : Nat) (lsas : List OSPFLSA) :
    UpdatesWithin intf transmissionDelay lsas ↔ UpdateFits intf lsas := by
  refine Iff.trans ?_ (fillUpdate_withinMTU_iff _ _)
  constructor
  · rintro ⟨_, _, sent, _, within⟩
    have sizes := congrArg (map CalculateLSASize) sent
    simp only [RetransmitUpdatePacket, map_map, Function.comp_def, CalculateLSASize_aged] at sizes
    rwa [sizes]
  · exact fun within => ⟨_, _, rfl, fillUpdate_perm _ 0 _, within⟩

end Packets

/--
The three packets are as they should exactly if the MTU holds a header or a
request (or there is at most one), and the LSAs that fit alone fit together.
-/
theorem packetised_iff (intf : Interface) (router : Router) (init : Bool)
    (transmissionDelay : Nat) (linkStateRetransmissionList : List OSPFLSA) :
    Packetised intf router init transmissionDelay linkStateRetransmissionList ↔
      Roomy intf router init linkStateRetransmissionList := by
  constructor
  · intro packetised
    exact
      { description := (describesWithin_iff _).mp packetised.description
        request := requestsWithin_iff.mp packetised.request
        update := (updatesWithin_iff _ _).mp packetised.update }
  · intro roomy
    exact
      { description := (describesWithin_iff _).mpr roomy.description
        request := requestsWithin_iff.mpr roomy.request
        update := (updatesWithin_iff _ _).mpr roomy.update }

/-- An interface with the MTU of Ethernet, to a neighbour on a link. -/
def ethernet : Interface where
  routerID := 1
  neighborID := 2
  interfaceType := .pointToPoint
  mtu := 1500
  externalRoutingCapability := true

/-- A router LSA with fifty links, 624 bytes. -/
def fiftyLinks (linkStateID : Nat) : OSPFLSA where
  header := { linkStateID, advertisingRouter := linkStateID }
  contents := .router (replicate 50 0)

/-- Three LSAs of 624 bytes are put into one update. -/
theorem update_above_mtu :
    ¬UpdatesWithin ethernet 1 [fiftyLinks 1, fiftyLinks 2, fiftyLinks 3] := by
  intro within
  have fits := (updatesWithin_iff 1 _).mp within
  rcases fits with alone | together | single
  · exact absurd alone (by decide)
  · exact absurd together (by decide)
  · exact absurd single (by decide)

end OmnetDsi.Ospf.Packetisation
