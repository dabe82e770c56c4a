import Mathlib.Data.List.Sort
import OmnetDsi.Ldp.LabelDistribution
import OmnetDsi.Library.Transition

/-!
# Agreement of the label bindings with the label table

Whether each label that was given out has an entry of the LIB, and each entry
that LDP installed a binding.  An entry stays behind when a binding is
withdrawn by an update of a FEC or dropped with its peer, and a binding stays
behind when its FEC is removed.
-/

namespace OmnetDsi.Ldp.LabelAgreement

open Contract.Addresses
open OmnetDsi.Ipv4.RoutingTables (IPRoute RoutingTable)
open Ldp.LabelDistribution Library.Fallible Library.Transition Mpls.LabelTable LDP Yields

/-! ## What is to hold -/

/--
Bindings and entries agree.  Labels up to `base` are those of the
configuration.
-/
structure Agrees (base : Int) (ldp : LDP) : Prop where
  entry : ∀ uit ∈ ldp.fecUp, ldp.lt.inLabels.count uit.label = 1
  distinct : (ldp.fecUp.map fec_bind_t.label).Nodup
  installed : ∀ label ∈ ldp.lt.inLabels, base < label → ∃ uit ∈ ldp.fecUp, uit.label = label
  up : ∀ uit ∈ ldp.fecUp, ∃ it ∈ ldp.fecList, it.fecid = uit.fecid
  down : ∀ dit ∈ ldp.fecDown, ∃ it ∈ ldp.fecList, it.fecid = dit.fecid

/-- A label is not found in the LIB. -/
def Missing (failure : Failure) : Prop :=
  ∃ place, failure = .assertion (.lib place)

theorem not_missing {failure : Failure}
    (other : ∀ place, failure ≠ .assertion (.lib place)) : ¬Missing failure := by
  rintro ⟨_, same⟩
  exact other _ same

/-- An update of the FEC takes a binding back. -/
def Withdraws (ldp : LDP) (it : fec_t) : Prop :=
  (∃ uit ∈ ldp.fecUp, uit.fecid = it.fecid) ∧
    ldp.isEgress it.nextHop = false ∧ ldp.fecDown.findFecEntry it.fecid it.nextHop = none

/-- The FECs that are not found again among the routes. -/
def keptRoute (oldList : FecVector) (re : IPRoute) : FecVector :=
  if re.host.isMulticast then oldList
  else oldList.eraseFecEntry re.host (getNetmaskLength re.netmask)

def keptInterface (oldList : FecVector) (ie : InterfaceEntry) : FecVector :=
  if ie.networkLayerGateIndex < 0 then oldList else oldList.eraseFecEntry ie.ipAddress 32

/-- The FECs that are removed when the list is rebuilt. -/
def deprecated (ldp : LDP) : FecVector :=
  ldp.ift.foldl keptInterface (ldp.getRoutes.foldl keptRoute ldp.fecList)

/-- The FECs whose next hop changes, with the new one. -/
def changedFecs : FecVector → List IPRoute → List fec_t
  | _, [] => []
  | oldList, re :: rest =>
    let others := changedFecs (keptRoute oldList re) rest
    if re.host.isMulticast then others
    else
      match oldList.findFecEntry re.host (getNetmaskLength re.netmask) with
      | none => others
      | some it =>
        if it.nextHop ≠ nextHop re then { it with nextHop := nextHop re } :: others else others

/-- No FEC of the next hop takes a binding back. -/
def Steady (ldp : LDP) (nextHop : IPAddress) : Prop :=
  ∀ it ∈ ldp.fecList, it.nextHop = nextHop → ¬Withdraws ldp it

/-- The mapping is dropped, and no binding depends on it. -/
def Dispensable (ldp : LDP) (fromIP : IPAddress) (fec : FEC_TLV) (label : Int) : Prop :=
  ∀ it dit, ldp.fecList.findFecEntry fec.addr fec.length = some it →
    ldp.fecDown.findFecEntry it.fecid fromIP = some dit →
      dit.label = label →
        ¬Withdraws { ldp with fecDown := ldp.fecDown.eraseFecEntry it.fecid fromIP } it

/-- A message on a socket leads to no withdrawal. -/
def AdmittedMessage (ldp : LDP) (socket : TCPSocket) : TcpIndication → Prop
  | .established _ =>
    ∀ peer, ldp.myPeers[socket.yourPtr]? = some peer →
      Steady (ldp.setConnected socket.connId) peer.peerIP
  | .data (.LABEL_WITHDRAW fromIP fec label) => Dispensable ldp fromIP fec label
  | _ => True

/--
The event neither takes a binding back, nor drops one with its peer, nor
removes a FEC that has one.
-/
def Admitted (ldp : LDP) : Event → Prop
  | .receiveChangeNotification =>
    (∀ it ∈ changedFecs ldp.fecList ldp.getRoutes, ¬Withdraws ldp it) ∧
      ∀ it ∈ deprecated ldp,
        (∀ uit ∈ ldp.fecUp, uit.fecid ≠ it.fecid) ∧ ∀ dit ∈ ldp.fecDown, dit.fecid ≠ it.fecid
  | .helloTimeout i =>
    ∀ peer, ldp.myPeers[i]? = some peer → ∀ uit ∈ ldp.fecUp, uit.peer ≠ peer.peerIP
  | .fromTcp connId msg =>
    match ldp.findSocketFor connId with
    | some socket => AdmittedMessage ldp socket msg
    | none =>
      ∀ i, ldp.findPeer (remoteAddress msg) = some i →
        ((ldp.myPeers[i]?.bind peer_info.socket).isSome = false) →
          AdmittedMessage (ldp.acceptSocket i connId) ⟨connId, .CONNECTED, i⟩ msg
  | _ => True

/-! ## The books -/

/-- What holds of the labels, also while the list of FECs is rebuilt. -/
structure Labels (base : Int) (ldp : LDP) : Prop where
  nonneg : 0 ≤ base
  base_le : base ≤ ldp.lt.maxLabel
  given : ∀ label ∈ ldp.lt.inLabels, label ≤ ldp.lt.maxLabel
  matching : (ldp.lt.inLabels.filter fun label => base < label).Perm
    (ldp.fecUp.map fec_bind_t.label)
  distinct : (ldp.fecUp.map fec_bind_t.label).Nodup

structure Books (base : Int) (ldp : LDP) : Prop extends Labels base ldp where
  up : ∀ uit ∈ ldp.fecUp, ∃ it ∈ ldp.fecList, it.fecid = uit.fecid
  down : ∀ dit ∈ ldp.fecDown, ∃ it ∈ ldp.fecList, it.fecid = dit.fecid
  known : ∀ it ∈ ldp.fecList, it.fecid ≤ ldp.maxFecid
  peers : (ldp.myPeers.map peer_info.peerIP).Nodup

/-- Nothing changes that the books are about. -/
structure Same (ldp next : LDP) : Prop where
  fecUp : next.fecUp = ldp.fecUp
  fecDown : next.fecDown = ldp.fecDown
  fecList : next.fecList = ldp.fecList
  myPeers : next.myPeers = ldp.myPeers
  maxFecid : next.maxFecid = ldp.maxFecid
  inLabels : next.lt.inLabels = ldp.lt.inLabels
  maxLabel : next.lt.maxLabel = ldp.lt.maxLabel

section Books

theorem Same.refl (ldp : LDP) : Same ldp ldp :=
  ⟨rfl, rfl, rfl, rfl, rfl, rfl, rfl⟩

theorem Same.trans (first : Same ldp next) (second : Same next last) : Same ldp last where
  fecUp := second.fecUp.trans first.fecUp
  fecDown := second.fecDown.trans first.fecDown
  fecList := second.fecList.trans first.fecList
  myPeers := second.myPeers.trans first.myPeers
  maxFecid := second.maxFecid.trans first.maxFecid
  inLabels := second.inLabels.trans first.inLabels
  maxLabel := second.maxLabel.trans first.maxLabel

theorem Same.labels (same : Same ldp next) (labels : Labels base ldp) : Labels base next where
  nonneg := labels.nonneg
  base_le := by
    rw [same.maxLabel]
    exact labels.base_le
  given := by
    rw [same.maxLabel, same.inLabels]
    exact labels.given
  matching := by
    rw [same.inLabels, same.fecUp]
    exact labels.matching
  distinct := by
    rw [same.fecUp]
    exact labels.distinct

theorem Same.books (same : Same ldp next) (books : Books base ldp) : Books base next where
  toLabels := same.labels books.toLabels
  up := by
    rw [same.fecUp, same.fecList]
    exact books.up
  down := by
    rw [same.fecDown, same.fecList]
    exact books.down
  known := by
    rw [same.fecList, same.maxFecid]
    exact books.known
  peers := by
    rw [same.myPeers]
    exact books.peers

/-- Whether a FEC takes a binding back does not depend on the rest. -/
theorem withdraws_congr (fecUp : next.fecUp = ldp.fecUp) (fecDown : next.fecDown = ldp.fecDown)
    (myPeers : next.myPeers = ldp.myPeers) (it : fec_t) : Withdraws next it ↔ Withdraws ldp it := by
  unfold Withdraws isEgress findPeerSocket
  rw [fecUp, fecDown, myPeers]

/-- Each label that was given out has an entry and is no configured one. -/
theorem Labels.label (labels : Labels base ldp)
    (member : uit ∈ ldp.fecUp) : uit.label ∈ ldp.lt.inLabels ∧ base < uit.label := by
  have listed := labels.matching.mem_iff.mpr (List.mem_map_of_mem member)
  rw [List.mem_filter] at listed
  exact ⟨listed.1, of_decide_eq_true listed.2⟩

theorem Books.agrees (books : Books base ldp) : Agrees base ldp where
  entry := by
    intro uit member
    have above := (books.label member).2
    have counted := books.matching.count_eq uit.label
    have same : (ldp.lt.inLabels.filter fun label => base < label).count
        uit.label = ldp.lt.inLabels.count uit.label :=
      List.count_filter (by simpa using above)
    rw [← same, counted]
    exact List.count_eq_one_of_mem books.distinct (List.mem_map_of_mem member)
  distinct := books.distinct
  installed := by
    intro _ member above
    have listed := books.matching.mem_iff.mp (List.mem_filter.mpr ⟨member, decide_eq_true above⟩)
    exact List.mem_map.mp listed
  up := books.up
  down := books.down

end Books

/-! ## Functions of the router -/

section Functions

variable {ldp : LDP}

theorem require_yields (holds : Bool) (place : Assertion)
    (other : ∀ failure, place ≠ .lib failure) :
    Yields Missing (fun _ => holds = true) (require holds place) := by
  unfold require
  split
  case isTrue true => exact .ok true
  case isFalse =>
    apply error
    rintro ⟨_, same⟩
    injection same with same
    exact other _ same

theorem error_yields {State : Type} {property : State → Prop} :
    Yields Missing property (.error .error) := by
  apply error
  rintro ⟨_, same⟩
  cases same

theorem findInterfaceFromPeerAddr_yields (peerIP : IPAddress) :
    Yields Missing (fun _ => True) (ldp.findInterfaceFromPeerAddr peerIP) := by
  unfold findInterfaceFromPeerAddr
  split
  · exact .ok trivial
  · split
    · exact .ok trivial
    · exact error_yields

theorem sendToPeer_same (dest : IPAddress) (packet : LDPPacket) :
    Yields Missing (Same ldp) (ldp.sendToPeer dest packet) := by
  unfold sendToPeer
  split
  · exact .ok ⟨rfl, rfl, rfl, rfl, rfl, rfl, rfl⟩
  case h_2 failure found =>
    apply error
    unfold getPeerSocket at found
    split at found
    · cases found
    · cases found
      rintro ⟨_, same⟩
      cases same

theorem installLibEntry_old (listed : label ∈ ldp.lt.inLabels)
    (old : label ≠ -1) (inInterface : String) (outLabel : List LabelOp)
    (outInterface : String) (color : Int) :
    Yields Missing (fun installed => installed.1 = label ∧ Same ldp installed.2)
      (ldp.installLibEntry label inInterface outLabel outInterface color) := by
  obtain ⟨⟨_, _⟩, success⟩ := LIBTable.installLibEntry_avoids listed _ _ _ _
  obtain ⟨sameLabel, maxLabel, inLabels⟩ := LIBTable.installLibEntry_old old success
  rw [installLibEntry, success]
  exact .ok ⟨sameLabel, rfl, rfl, rfl, rfl, rfl, inLabels, maxLabel⟩

theorem adjustMapping_same {kept : FecBindVector} {uit : fec_bind_t}
    (listed : uit.label ∈ ldp.lt.inLabels) (old : uit.label ≠ -1)
    (given : uit.fecid = oldItem.fecid → outLabel.isSome = true) :
    Yields Missing (fun current => Same ldp current.1 ∧ current.2 = kept ++ [uit])
      (adjustMapping oldItem outLabel (ldp, kept) uit) := by
  unfold adjustMapping
  split
  · exact .ok ⟨.refl _, rfl⟩
  case isFalse own =>
    obtain ⟨_, rfl⟩ := Option.isSome_iff_exists.mp (given (not_not.mp own))
    refine (findInterfaceFromPeerAddr_yields uit.peer).bind fun inInterface _ => ?_
    refine (findInterfaceFromPeerAddr_yields oldItem.nextHop).bind fun outInterface _ => ?_
    refine (installLibEntry_old listed old _ _ _ _).bind ?_
    rintro ⟨_, _⟩ ⟨rfl, same⟩
    exact .ok ⟨same, rfl⟩

theorem updateFecListEntry_same (labels : Labels base ldp) (steady : ¬Withdraws ldp oldItem) :
    Yields Missing (Same ldp) (ldp.updateFecListEntry oldItem) := by
  have given : ∀ uit ∈ ldp.fecUp, uit.fecid = oldItem.fecid →
      (labelOperation (ldp.isEgress oldItem.nextHop)
        (ldp.fecDown.findFecEntry oldItem.fecid oldItem.nextHop)).isSome = true := by
    intro uit member own
    by_contra none
    unfold labelOperation at none
    split at none
    · exact none rfl
    case isFalse transit =>
      rw [Option.isSome_map, Bool.not_eq_true,
        Option.isSome_eq_false_iff, Option.isNone_iff_eq_none] at none
      exact steady ⟨⟨uit, member, own⟩, Bool.not_eq_true _ ▸ transit, none⟩
  unfold updateFecListEntry
  refine (require_yields _ .updateFecListEntry nofun).bind fun _ _ => ?_
  have adjusted : Yields Missing
      (fun current : LDP × FecBindVector => Same ldp current.1 ∧ current.2 = ldp.fecUp)
      (ldp.fecUp.foldlM (adjustMapping oldItem
        (labelOperation (ldp.isEgress oldItem.nextHop)
          (ldp.fecDown.findFecEntry oldItem.fecid oldItem.nextHop)))
        (ldp, [])) := by
    refine foldlM_yields
      (fun done (current : LDP × FecBindVector) =>
        Same _ current.1 ∧ current.2 = done) ?_ ⟨.refl _, rfl⟩
    rintro _ uit _ all ⟨middle, _⟩ ⟨same, rfl⟩
    have member : uit ∈ ldp.fecUp := by
      rw [all]
      exact List.mem_append_right _ List.mem_cons_self
    have listed := labels.label member
    have nonneg := labels.nonneg
    refine mono (@adjustMapping_same _ _ _ _ _ ?_ (by omega) (given _ member)) ?_
    · rw [same.inLabels]
      exact listed.1
    · rintro ⟨last, _⟩ ⟨later, rfl⟩
      exact ⟨same.trans later, rfl⟩
  refine adjusted.bind ?_
  rintro ⟨middle, _⟩ ⟨same, rfl⟩
  have updated : Same ldp { middle with fecUp := ldp.fecUp } := { same with fecUp := rfl }
  split
  · refine mono (sendToPeer_same _ _) ?_
    exact fun last later => updated.trans later
  · exact .ok updated

theorem updateFecList_same (labels : Labels base ldp) {nextHop : IPAddress}
    (steady : Steady ldp nextHop) : Yields Missing (Same ldp) (ldp.updateFecList nextHop) := by
  refine foldlM_yields (fun _ current => Same _ current) ?_ (.refl _)
  intro _ it _ all middle same
  unfold updateIfNextHop
  split
  · exact .ok same
  case isFalse own =>
    have member : it ∈ ldp.fecList := by
      rw [all]
      exact List.mem_append_right _ List.mem_cons_self
    have quiet : ¬Withdraws middle it := by
      rw [withdraws_congr same.fecUp same.fecDown same.myPeers]
      exact steady _ member (not_not.mp own)
    refine mono (updateFecListEntry_same (same.labels labels) quiet) ?_
    exact fun last later => same.trans later

/-! ### Bindings that come and go -/

theorem answer_books (books : Books base ldp)
    (listed : ∃ it ∈ ldp.fecList, it.fecid = fecid) (peer : IPAddress)
    (key : FEC_TLV) (outLabel : List LabelOp) (inInterface outInterface : String) (color : Int) :
    Yields Missing (fun next => Books base next ∧ next.fecList = ldp.fecList)
      (ldp.answer fecid peer key outLabel inInterface outInterface color) := by
  obtain ⟨lt, success, maxLabel, inLabels⟩ := LIBTable.installLibEntry_new ldp.lt _ _ _ _
  have base_le := books.base_le
  have above : base < ldp.lt.maxLabel + 1 := by omega
  have given : Books base ({ ldp with lt }.pushMapping ⟨fecid, peer, ldp.lt.maxLabel + 1⟩) := by
    refine ⟨⟨books.nonneg, ?_, ?_, ?_, ?_⟩, ?_, books.down, books.known, books.peers⟩
    · change base ≤ lt.maxLabel
      omega
    · change ∀ label ∈ lt.inLabels, label ≤ lt.maxLabel
      rw [inLabels, maxLabel]
      intro _ member
      rcases List.mem_append.mp member with old | new
      · have := books.given _ old
        omega
      · exact Int.le_of_eq (List.mem_singleton.mp new)
    · change (lt.inLabels.filter _).Perm ((ldp.fecUp ++ [_]).map _)
      rw [inLabels, List.filter_append, List.map_append]
      refine books.matching.append ?_
      rw [List.filter_singleton, decide_eq_true above]
      exact .refl _
    · change ((ldp.fecUp ++ [_]).map _).Nodup
      rw [List.map_append, List.nodup_append]
      refine ⟨books.distinct, List.nodup_singleton _, ?_⟩
      intro label old _ new same
      obtain ⟨uit, member, rfl⟩ := List.mem_map.mp old
      rw [List.map_singleton, List.mem_singleton] at new
      have known := books.given _ (books.label member).1
      have equal : uit.label = ldp.lt.maxLabel + 1 := same.trans new
      omega
    · intro _ member
      rcases List.mem_append.mp member with old | new
      · exact books.up _ old
      · rwa [List.mem_singleton.mp new]
  rw [answer, installLibEntry, success]
  refine mono (sendToPeer_same _ _) ?_
  exact fun last same => ⟨same.books given, same.fecList⟩

theorem perm_eraseP {labels : List Int} {bindings : FecBindVector}
    (matching : labels.Perm (bindings.map fec_bind_t.label))
    (first : bindings.find? found = some uit) :
    (labels.erase uit.label).Perm ((bindings.eraseP found).map fec_bind_t.label) := by
  refine (matching.erase uit.label).trans ?_
  clear matching
  induction bindings with
  | nil => cases first
  | cons binding rest induction =>
    by_cases here : found binding = true
    · rw [List.find?_cons_of_pos here] at first
      cases first
      rw [List.map_cons, List.erase_cons_head, List.eraseP_cons_of_pos here]
    · rw [List.find?_cons_of_neg here] at first
      rw [List.eraseP_cons_of_neg here, List.map_cons, List.map_cons]
      by_cases same : binding.label = uit.label
      · rw [same, List.erase_cons_head]
        have there : uit.label ∈ rest.map fec_bind_t.label :=
          List.mem_map_of_mem (List.mem_of_find?_eq_some first)
        exact (List.perm_cons_erase there).trans ((induction first).cons uit.label)
      · rw [List.erase_cons_tail (by simpa using same)]
        exact (induction first).cons _

theorem processLABEL_RELEASE_books (books : Books base ldp)
    (fromIP : IPAddress) (fec : FEC_TLV) (label : Int) :
    Yields Missing (Books base) (ldp.processLABEL_RELEASE fromIP fec label) := by
  refine (require_yields _ .processLABEL_RELEASE nofun).bind fun _ _ => ?_
  split
  · exact .ok books
  case h_2 it _ =>
    split
    · exact .ok books
    case h_2 uit found =>
      split
      · exact .ok books
      · have member := List.mem_of_find?_eq_some found
        obtain ⟨listed, _⟩ := books.label member
        obtain ⟨_, success⟩ := LIBTable.removeLibEntry_avoids listed
        obtain ⟨maxLabel, inLabels⟩ := LIBTable.removeLibEntry_eq_ok success
        rw [removeLibEntry, success]
        have sub : (ldp.fecUp.eraseFecEntry it.fecid fromIP).Sublist
            ldp.fecUp := List.eraseP_sublist
        refine .ok ⟨⟨books.nonneg, ?_, ?_, ?_, ?_⟩, ?_, books.down, books.known, books.peers⟩
        · rw [maxLabel]
          exact books.base_le
        · rw [inLabels, maxLabel]
          exact fun label member => books.given _ (List.mem_of_mem_erase member)
        · rw [inLabels, ← List.erase_filter]
          exact perm_eraseP books.matching found
        · exact books.distinct.sublist (sub.map _)
        · exact fun uit member => books.up _ (sub.subset member)

/-! ### The other messages -/

theorem processLABEL_REQUEST_books (books : Books base ldp) (srcAddr : IPAddress) (fec : FEC_TLV) :
    Yields Missing (Books base) (ldp.processLABEL_REQUEST srcAddr fec) := by
  unfold processLABEL_REQUEST
  split
  · refine mono (sendToPeer_same _ _) ?_
    exact fun last same => same.books books
  case h_2 it found =>
    have listed : ∃ other ∈ ldp.fecList, other.fecid = it.fecid :=
      ⟨it, List.mem_of_find?_eq_some found, rfl⟩
    refine (require_yields _ .processLABEL_REQUEST nofun).bind fun _ _ => ?_
    refine (require_yields _ .processLABEL_REQUEST nofun).bind fun _ _ => ?_
    refine (findInterfaceFromPeerAddr_yields _).bind fun inInterface _ => ?_
    refine (findInterfaceFromPeerAddr_yields it.nextHop).bind fun outInterface _ => ?_
    split
    case h_1 outLabel _ =>
      refine mono (answer_books books listed _ _ _ _ _ _) ?_
      exact fun last given => given.1
    · have same : Same ldp { ldp with pending := ldp.pending ++ [⟨it.fecid, srcAddr⟩] } :=
        ⟨rfl, rfl, rfl, rfl, rfl, rfl, rfl⟩
      exact .ok (same.books books)

theorem processLABEL_MAPPING_books (books : Books base ldp)
    (fromIP : IPAddress) (fec : FEC_TLV) (label : Int) :
    Yields Missing (Books base) (ldp.processLABEL_MAPPING fromIP fec label) := by
  refine (require_yields _ .processLABEL_MAPPING nofun).bind fun _ _ => ?_
  split
  · exact .error (not_missing nofun)
  case h_2 it found =>
    have member := List.mem_of_find?_eq_some found
    refine (require_yields _ .processLABEL_MAPPING nofun).bind fun _ _ => ?_
    have mapped : Books base
        { ldp with
          fecDown := ldp.fecDown ++ [⟨it.fecid, fromIP, label⟩] } := by
      refine ⟨⟨books.nonneg, books.base_le, books.given, books.matching,
        books.distinct⟩, books.up, ?_, books.known, books.peers⟩
      intro _ there
      rcases List.mem_append.mp there with old | new
      · exact books.down _ old
      · rw [List.mem_singleton.mp new]
        exact ⟨it, member, rfl⟩
    have answered : Yields Missing
        (fun current : LDP × List pending_req_t =>
          Books base current.1 ∧ current.1.fecList = ldp.fecList)
        (ldp.pending.foldlM (answerPending it fromIP label)
          ({ ldp with fecDown := ldp.fecDown ++ [⟨it.fecid, fromIP, label⟩] }, [])) := by
      refine foldlM_yields
        (fun _ (current : LDP × List pending_req_t) =>
          Books _ current.1 ∧ current.1.fecList = ldp.fecList)
        ?_ ⟨mapped, rfl⟩
      rintro _ pit _ _ ⟨middle, left⟩ ⟨kept, sameList⟩
      unfold answerPending
      split
      · exact .ok ⟨kept, sameList⟩
      · refine (findInterfaceFromPeerAddr_yields pit.peer).bind fun inInterface _ => ?_
        refine (findInterfaceFromPeerAddr_yields _).bind fun outInterface _ => ?_
        have listed : ∃ other ∈ middle.fecList, other.fecid = it.fecid := by
          rw [sameList]
          exact ⟨it, member, rfl⟩
        refine (answer_books kept listed pit.peer it.key _ _ _ _).bind ?_
        rintro _ ⟨given, stays⟩
        exact .ok ⟨given, stays.trans sameList⟩
    refine answered.bind ?_
    rintro ⟨middle, left⟩ ⟨kept, _⟩
    have same : Same middle { middle with pending := left } := ⟨rfl, rfl, rfl, rfl, rfl, rfl, rfl⟩
    exact .ok (same.books kept)

theorem processLABEL_WITHDRAW_books (books : Books base ldp)
    (dispensable : Dispensable ldp fromIP fec label) :
    Yields Missing (Books base) (ldp.processLABEL_WITHDRAW fromIP fec label) := by
  refine (require_yields _ .processLABEL_WITHDRAW nofun).bind fun _ _ => ?_
  split
  · exact .ok books
  case h_2 it found =>
    split
    · exact .ok books
    case h_2 dit mapped =>
      split
      · exact .ok books
      case isFalse own =>
        have steady := dispensable _ _ found mapped (not_not.mp own).symm
        have dropped : Books base
            { ldp with
              fecDown := ldp.fecDown.eraseFecEntry it.fecid fromIP } := by
          refine ⟨⟨books.nonneg, books.base_le, books.given,
            books.matching, books.distinct⟩, books.up, ?_, books.known, books.peers⟩
          exact fun other member => books.down _ (List.mem_of_mem_eraseP member)
        refine (sendToPeer_same _ _).bind fun middle same => ?_
        have quiet : ¬Withdraws middle it := by
          rwa [withdraws_congr same.fecUp same.fecDown same.myPeers]
        refine mono (updateFecListEntry_same (same.labels dropped.toLabels) quiet) ?_
        exact fun last later => (same.trans later).books dropped

theorem processNOTIFICATION_same (isSelfMessage : Bool) (packet : LDPNotify) :
    Yields Missing (Same ldp) (ldp.processNOTIFICATION isSelfMessage packet) := by
  unfold processNOTIFICATION
  split
  · split
    · exact .ok (.refl _)
    · split
      · split
        · exact sendToPeer_same _ _
        · exact .ok ⟨rfl, rfl, rfl, rfl, rfl, rfl, rfl⟩
      · exact .ok (.refl _)
  · exact .error (not_missing nofun)

theorem processLDPPacketFromTCP_books (books : Books base ldp)
    (admitted : ∀ fromIP fec label,
      packet = .LABEL_WITHDRAW fromIP fec label → Dispensable ldp fromIP fec label) :
    Yields Missing (Books base) (ldp.processLDPPacketFromTCP packet) := by
  cases packet with
  | LABEL_MAPPING _ _ _ => exact processLABEL_MAPPING_books books _ _ _
  | LABEL_REQUEST _ _ => exact processLABEL_REQUEST_books books _ _
  | LABEL_WITHDRAW _ _ _ =>
    exact processLABEL_WITHDRAW_books books (admitted _ _ _ rfl)
  | LABEL_RELEASE _ _ _ => exact processLABEL_RELEASE_books books _ _ _
  | NOTIFICATION _ =>
    refine mono (processNOTIFICATION_same _ _) ?_
    exact fun last same => same.books books
  | other => exact error_yields

end Functions

/-! ## The list of FECs is rebuilt -/

variable {ldp : LDP}

section Rebuilding

variable {base : Int} {first middle : LDP}

/-- The FECs that were there are on the new list or still to be found. -/
structure Rebuilding (first : LDP) (current : LDP × FecVector) : Prop where
  fecUp : current.1.fecUp = first.fecUp
  fecDown : current.1.fecDown = first.fecDown
  myPeers : current.1.myPeers = first.myPeers
  inLabels : current.1.lt.inLabels = first.lt.inLabels
  maxLabel : current.1.lt.maxLabel = first.lt.maxLabel
  maxFecid : first.maxFecid ≤ current.1.maxFecid
  known : ∀ it ∈ current.1.fecList, it.fecid ≤ current.1.maxFecid
  remaining : ∀ it ∈ current.2, it.fecid ≤ current.1.maxFecid
  covered : ∀ it ∈ first.fecList,
    (∃ other ∈ current.1.fecList, other.fecid = it.fecid) ∨ it ∈ current.2

theorem Rebuilding.labels (rebuilding : Rebuilding first current)
    (labels : Labels base first) : Labels base current.1 where
  nonneg := labels.nonneg
  base_le := by
    rw [rebuilding.maxLabel]
    exact labels.base_le
  given := by
    rw [rebuilding.maxLabel, rebuilding.inLabels]
    exact labels.given
  matching := by
    rw [rebuilding.inLabels, rebuilding.fecUp]
    exact labels.matching
  distinct := by
    rw [rebuilding.fecUp]
    exact labels.distinct

theorem Rebuilding.start (books : Books base first) :
    Rebuilding first ({ first with fecList := [] }, first.fecList) where
  fecUp := rfl
  fecDown := rfl
  myPeers := rfl
  inLabels := rfl
  maxLabel := rfl
  maxFecid := Nat.le_refl _
  known := by
    intro _ member
    cases member
  remaining := books.known
  covered := fun _ member => .inr member

theorem Rebuilding.count (rebuilding : Rebuilding first current) :
    Rebuilding first (current.1.countFec, current.2) where
  fecUp := rebuilding.fecUp
  fecDown := rebuilding.fecDown
  myPeers := rebuilding.myPeers
  inLabels := rebuilding.inLabels
  maxLabel := rebuilding.maxLabel
  maxFecid := Nat.le_succ_of_le rebuilding.maxFecid
  known := fun it member => Nat.le_succ_of_le (rebuilding.known it member)
  remaining := fun it member => Nat.le_succ_of_le (rebuilding.remaining it member)
  covered := rebuilding.covered

theorem Rebuilding.push (rebuilding : Rebuilding first current)
    (same : Same current.1 middle) {item : fec_t}
    (numbered : item.fecid ≤ current.1.maxFecid) {left : FecVector}
    (fewer : ∀ it ∈ left, it ∈ current.2)
    (found : ∀ it ∈ current.2, it.fecid = item.fecid ∨ it ∈ left) :
    Rebuilding first (middle.pushFec item, left) where
  fecUp := same.fecUp.trans rebuilding.fecUp
  fecDown := same.fecDown.trans rebuilding.fecDown
  myPeers := same.myPeers.trans rebuilding.myPeers
  inLabels := same.inLabels.trans rebuilding.inLabels
  maxLabel := same.maxLabel.trans rebuilding.maxLabel
  maxFecid := by
    change first.maxFecid ≤ middle.maxFecid
    rw [same.maxFecid]
    exact rebuilding.maxFecid
  known := by
    intro it member
    change it.fecid ≤ middle.maxFecid
    rw [same.maxFecid]
    rcases List.mem_append.mp member with old | new
    · rw [same.fecList] at old
      exact rebuilding.known _ old
    · rwa [List.mem_singleton.mp new]
  remaining := by
    intro it member
    change it.fecid ≤ middle.maxFecid
    rw [same.maxFecid]
    exact rebuilding.remaining _ (fewer _ member)
  covered := by
    intro it member
    change (∃ other ∈ middle.fecList ++ [item], other.fecid = it.fecid) ∨ it ∈ left
    rw [same.fecList]
    rcases rebuilding.covered _ member with ⟨other, there, equal⟩ | old
    · exact .inl ⟨other, List.mem_append_left _ there, equal⟩
    · rcases found _ old with equal | later
      · exact .inl ⟨item, List.mem_append_right _ List.mem_cons_self, equal.symm⟩
      · exact .inr later

theorem eq_or_mem_eraseP {list : List Element}
    (first : list.find? test = some found) (member : element ∈ list) :
    element = found ∨ element ∈ list.eraseP test := by
  induction list with
  | nil => cases member
  | cons head _ induction =>
    by_cases here : test head = true
    · rw [List.find?_cons_of_pos here] at first
      cases first
      rw [List.eraseP_cons_of_pos here]
      exact List.mem_cons.mp member
    · rw [List.find?_cons_of_neg here] at first
      rw [List.eraseP_cons_of_neg here]
      rcases List.mem_cons.mp member with rfl | later
      · exact .inr List.mem_cons_self
      · rcases induction first later with equal | stays
        · exact .inl equal
        · exact .inr (List.mem_cons_of_mem _ stays)

theorem Rebuilding.pushFound (rebuilding : Rebuilding first current)
    (same : Same current.1 middle) (found : current.2.findFecEntry addr length = some it)
    (numbered : item.fecid = it.fecid) :
    Rebuilding first (middle.pushFec item, current.2.eraseFecEntry addr length) := by
  have member := List.mem_of_find?_eq_some found
  refine rebuilding.push same ?_ ?_ ?_
  · rw [numbered]
    exact rebuilding.remaining _ member
  · exact fun other there => List.mem_of_mem_eraseP there
  · intro _ there
    rcases eq_or_mem_eraseP found there with rfl | left
    · exact .inl numbered.symm
    · exact .inr left

theorem eraseFecEntry_none {oldList : FecVector} (none : oldList.findFecEntry addr length = none) :
    oldList.eraseFecEntry addr length = oldList :=
  List.eraseP_of_forall_not (List.find?_eq_none.mp none)

theorem Rebuilding.fresh (rebuilding : Rebuilding first current)
    (books : Books base first) {item : fec_t}
    (numbered : item.fecid = current.1.maxFecid + 1) : ¬Withdraws first item := by
  rintro ⟨⟨_, member, _⟩, _⟩
  obtain ⟨_, listed, _⟩ := books.up _ member
  have known := books.known _ listed
  have grown := rebuilding.maxFecid
  omega

theorem rebuildRoute_rebuilding (books : Books base first) (rebuilding : Rebuilding first current)
    (steady : ∀ it, re.host.isMulticast = false →
      current.2.findFecEntry re.host (getNetmaskLength re.netmask) = some it →
        it.nextHop ≠ nextHop re → ¬Withdraws first { it with nextHop := nextHop re }) :
    Yields Missing (fun next => Rebuilding first next ∧ next.2 = keptRoute current.2 re)
      (rebuildRoute current re) := by
  have update : ∀ {start : LDP} {left : FecVector} {item : fec_t},
      Rebuilding first (start, left) → ¬Withdraws first item →
        Yields Missing (Same start) (start.updateFecListEntry item) := by
    intro _ _ _ reached quiet
    refine updateFecListEntry_same (reached.labels books.toLabels) ?_
    rwa [withdraws_congr reached.fecUp reached.fecDown reached.myPeers]
  unfold rebuildRoute keptRoute
  split
  · exact .ok ⟨rebuilding, rfl⟩
  case isFalse unicast =>
    refine (require_yields _ .rebuildFecList nofun).bind fun _ _ => ?_
    split
    case h_1 none =>
      have item_fresh := @Rebuilding.fresh _ _ _ rebuilding
        books (current.1.newItem (routeKey re) (nextHop re)) rfl
      refine (update rebuilding.count item_fresh).bind fun middle same => ?_
      refine .ok ⟨rebuilding.count.push same (Nat.le_refl _) (fun _ => id) (fun _ => .inr), ?_⟩
      exact (eraseFecEntry_none none).symm
    case h_2 it found =>
      split
      case isTrue changed =>
        have quiet := steady _ (Bool.not_eq_true _ ▸ unicast) found changed
        refine (update rebuilding quiet).bind fun middle same => ?_
        exact .ok ⟨rebuilding.pushFound same found rfl, rfl⟩
      · exact .ok ⟨rebuilding.pushFound (.refl _) found rfl, rfl⟩

theorem changedFecs_append (oldList : FecVector) (done rest : List IPRoute) :
    changedFecs oldList (done ++ rest) =
      changedFecs oldList done ++ changedFecs (done.foldl keptRoute oldList) rest := by
  induction done generalizing oldList with
  | nil => rfl
  | cons _ _ induction =>
    rw [List.cons_append, changedFecs, changedFecs, induction]
    split
    · rfl
    · split
      · rfl
      · split
        · rfl
        · rfl

theorem rebuildRoutes_rebuilding (books : Books base first)
    (steady : ∀ it ∈ changedFecs first.fecList first.getRoutes, ¬Withdraws first it) :
    Yields Missing
      (fun routed => Rebuilding first routed ∧
        routed.2 = first.getRoutes.foldl keptRoute first.fecList)
      (first.getRoutes.foldlM rebuildRoute ({ first with fecList := [] }, first.fecList)) := by
  refine foldlM_yields
    (fun done routed => Rebuilding _ routed ∧ routed.2 = done.foldl _ first.fecList)
    ?_ ⟨.start books, rfl⟩
  rintro _ _ _ all _ ⟨rebuilding, left⟩
  refine mono (rebuildRoute_rebuilding books rebuilding ?_) ?_
  · intro _ unicast found changed
    apply steady
    rw [all, changedFecs_append, changedFecs, ← left, found]
    dsimp only
    rw [if_neg (by simp [unicast]), if_pos changed]
    exact List.mem_append_right _ List.mem_cons_self
  · rintro _ ⟨reached, kept⟩
    refine ⟨reached, ?_⟩
    rw [kept, left, List.foldl_append]
    rfl

theorem rebuildInterface_rebuilding (rebuilding : Rebuilding first current) (ie : InterfaceEntry) :
    Rebuilding first (rebuildInterface current ie) ∧
      (rebuildInterface current ie).2 = keptInterface current.2 ie := by
  unfold rebuildInterface keptInterface
  split
  · exact ⟨rebuilding, rfl⟩
  · split
    case h_1 none =>
      refine ⟨rebuilding.count.push (.refl _) (Nat.le_refl _) (fun _ => id) (fun _ => .inr), ?_⟩
      exact (eraseFecEntry_none none).symm
    case h_2 it found => exact ⟨rebuilding.pushFound (.refl _) found rfl, rfl⟩

theorem rebuildInterfaces_rebuilding (rebuilding : Rebuilding first current)
    (ift : List InterfaceEntry) :
    Rebuilding first (ift.foldl rebuildInterface current) ∧
      (ift.foldl rebuildInterface current).2 = ift.foldl keptInterface current.2 := by
  induction ift generalizing current with
  | nil => exact ⟨rebuilding, rfl⟩
  | cons _ _ induction =>
    obtain ⟨reached, left⟩ := rebuildInterface_rebuilding rebuilding _
    rw [List.foldl_cons, List.foldl_cons, ← left]
    exact induction reached

/-- The removal of a FEC without bindings leaves everything as it is. -/
theorem removeFec_unused (up : ∀ uit ∈ ldp.fecUp, uit.fecid ≠ it.fecid)
    (down : ∀ dit ∈ ldp.fecDown, dit.fecid ≠ it.fecid) : ldp.removeFec it = .ok ldp := by
  have released : ldp.fecDown.foldlM (releaseMapping it) ldp = .ok ldp := by
    refine foldlM_fixed fun dit member => ?_
    rw [releaseMapping, if_pos (down _ member)]
  rw [removeFec, released]
  refine foldlM_fixed fun uit member => ?_
  rw [withdrawMapping, if_pos (up _ member)]

theorem rebuildFecList_books (sorting : Sorting) (books : Books base first)
    (steady : ∀ it ∈ changedFecs first.fecList first.getRoutes, ¬Withdraws first it)
    (unused : ∀ it ∈ deprecated first,
      (∀ uit ∈ first.fecUp, uit.fecid ≠ it.fecid) ∧ ∀ dit ∈ first.fecDown, dit.fecid ≠ it.fecid) :
    Yields Missing (Books base) (first.rebuildFecList sorting) := by
  have routed := rebuildRoutes_rebuilding books steady
  refine routed.bind ?_
  rintro routed ⟨reached, left⟩
  obtain ⟨rebuilding, kept⟩ := rebuildInterfaces_rebuilding reached first.ift
  dsimp only
  rw [left] at kept
  generalize first.ift.foldl rebuildInterface routed = rebuilt at rebuilding kept
  have removed : rebuilt.2.foldlM removeFec rebuilt.1 = .ok rebuilt.1 := by
    refine foldlM_fixed fun it member => ?_
    rw [kept] at member
    apply removeFec_unused
    · rw [rebuilding.fecUp]
      exact (unused _ member).1
    · rw [rebuilding.fecDown]
      exact (unused _ member).2
  rw [removed]
  have sorted := sorting.perm rebuilt.1.fecList
  have listed : ∀ fecid, (∃ it ∈ first.fecList, it.fecid = fecid) →
      (∀ it ∈ deprecated first, fecid ≠ it.fecid) →
        ∃ it ∈ sorting.sort rebuilt.1.fecList, it.fecid = fecid := by
    rintro _ ⟨it, member, rfl⟩ used
    rcases rebuilding.covered _ member with ⟨other, there, same⟩ | old
    · exact ⟨other, sorted.mem_iff.mpr there, same⟩
    · rw [kept] at old
      exact absurd rfl (used _ old)
  have labels := rebuilding.labels books.toLabels
  refine .ok ⟨⟨labels.nonneg, labels.base_le, labels.given, labels.matching,
    labels.distinct⟩, ?_, ?_, ?_, ?_⟩
  · rw [rebuilding.fecUp]
    intro uit member
    exact listed uit.fecid (books.up _ member) fun it old => (unused it old).1 _ member
  · rw [rebuilding.fecDown]
    intro dit member
    exact listed dit.fecid (books.down dit member) fun it old => (unused it old).2 dit member
  · intro it member
    exact rebuilding.known it (sorted.mem_iff.mp member)
  · rw [rebuilding.myPeers]
    exact books.peers

end Rebuilding

/-! ## Peers and sessions -/

section Sessions

theorem Books.withPeers (books : Books base ldp)
    (same : Same { ldp with myPeers := next.myPeers } next)
    (peers : (next.myPeers.map peer_info.peerIP).Nodup) : Books base next := by
  refine same.books ⟨⟨books.nonneg, books.base_le, books.given,
    books.matching, books.distinct⟩, books.up, books.down, books.known, ?_⟩
  exact peers

theorem setConnected_books (books : Books base ldp) (connId : Nat) :
    Books base (ldp.setConnected connId) := by
  refine books.withPeers ⟨rfl, rfl, rfl, rfl, rfl, rfl, rfl⟩ ?_
  rw [setConnected, List.map_map]
  exact books.peers

theorem map_modify (peers : PeerVector) (i : Nat) (socket : Option TCPSocket) :
    (peers.modify i fun peer => { peer with socket }).map peer_info.peerIP =
      peers.map peer_info.peerIP := by
  induction peers generalizing i with
  | nil => simp
  | cons _ _ induction =>
    cases i with
    | zero => simp
    | succ i => simp [induction i]

theorem acceptSocket_books (books : Books base ldp) (i connId : Nat) :
    Books base (ldp.acceptSocket i connId) := by
  refine books.withPeers ⟨rfl, rfl, rfl, rfl, rfl, rfl, rfl⟩ ?_
  rw [acceptSocket, map_modify]
  exact books.peers

theorem processLDPHello_books (books : Books base ldp) (peerAddr : IPAddress)
    (linkInterface : String) (connId : Nat) :
    Books base (ldp.processLDPHello peerAddr linkInterface connId) := by
  unfold processLDPHello
  split
  · exact books
  · split
    · exact books
    case isFalse unknown =>
      have added : Books base
          { ldp with
            myPeers :=
              ldp.myPeers ++
                [⟨peerAddr, decide (peerAddr.getInt > ldp.routerId.getInt), none,
                  linkInterface⟩] } := by
        refine books.withPeers ⟨rfl, rfl, rfl, rfl, rfl, rfl, rfl⟩ ?_
        rw [List.map_append, List.nodup_append]
        refine ⟨books.peers, List.nodup_singleton _, ?_⟩
        intro _ old _ new same
        rw [List.map_singleton, List.mem_singleton] at new
        obtain ⟨_, member, rfl⟩ := List.mem_map.mp old
        rw [findPeer, Option.not_isSome_iff_eq_none, List.findIdx?_eq_none_iff] at unknown
        have different := unknown _ member
        rw [same, new] at different
        simp at different
      dsimp only
      split
      · refine added.withPeers ⟨rfl, rfl, rfl, rfl, rfl, rfl, rfl⟩ ?_
        rw [openTCPConnectionToPeer, map_modify]
        exact added.peers
      · exact added

theorem removePeer_isEgress (peers : (ldp.myPeers.map peer_info.peerIP).Nodup)
    (found : ldp.myPeers[i]? = some peer) (connId : Nat) :
    (ldp.removePeer i peer.peerIP connId).isEgress peer.peerIP = true := by
  have absent : (ldp.myPeers.eraseIdx i).find?
      (fun other => other.peerIP = peer.peerIP) = none := by
    rw [List.find?_eq_none]
    intro _ member
    obtain ⟨j, apart, there⟩ := List.mem_eraseIdx_iff_getElem?.mp member
    rw [decide_eq_true_eq]
    intro same
    apply apart
    have inRange : j < (ldp.myPeers.map peer_info.peerIP).length := by
      rw [List.length_map]
      exact (List.getElem?_eq_some_iff.mp there).1
    refine (List.getElem?_inj inRange peers).mp ?_
    rw [List.getElem?_map, List.getElem?_map, there, found]
    exact congrArg some same
  rw [isEgress, findPeerSocket, removePeer, absent]
  rfl

theorem processHelloTimeout_books (books : Books base ldp)
    (unused : ∀ peer, ldp.myPeers[i]? = some peer → ∀ uit ∈ ldp.fecUp, uit.peer ≠ peer.peerIP) :
    Yields Missing (Books base) (ldp.processHelloTimeout i) := by
  unfold processHelloTimeout
  split
  · exact .error (not_missing nofun)
  case h_2 peer found =>
    split
    · exact .error (not_missing nofun)
    case h_2 socket _ =>
      have stays : ldp.fecUp.filter (fun uit => uit.peer ≠ peer.peerIP) = ldp.fecUp :=
        List.filter_eq_self.mpr fun uit member => decide_eq_true (unused _ found _ member)
      have removed : Books base (ldp.removePeer i peer.peerIP socket.connId) := by
        rw [removePeer, stays]
        refine ⟨⟨books.nonneg, books.base_le, books.given,
          books.matching, books.distinct⟩, books.up, ?_, books.known, ?_⟩
        · exact fun dit member => books.down _ (List.mem_of_mem_filter member)
        · have fewer := (List.eraseIdx_sublist ldp.myPeers i).map peer_info.peerIP
          exact books.peers.sublist fewer
      refine mono (updateFecList_same removed.toLabels ?_) ?_
      · rintro _ _ own ⟨_, transit, _⟩
        have egress := removePeer_isEgress books.peers found socket.connId
        rw [own, egress] at transit
        cases transit
      · exact fun last same => same.books removed

theorem processMessage_books (books : Books base ldp) (admitted : AdmittedMessage ldp socket msg) :
    Yields Missing (Books base) (ldp.processMessage socket msg) := by
  have ends : Yields Missing (Books base) (.error (.assertion .sessionEnds)) := by
    exact .error (not_missing nofun)
  have undefined : Yields Missing (Books base) (.error .undefinedBehaviour) := by
    exact .error (not_missing nofun)
  cases msg with
  | established _ =>
    dsimp only [processMessage]
    split
    · exact undefined
    case h_2 peer found =>
      have connected := setConnected_books books socket.connId
      refine mono (updateFecList_same connected.toLabels (admitted _ found)) ?_
      exact fun last same => same.books connected
  | data _ =>
    dsimp only [processMessage]
    split
    · exact undefined
    · apply processLDPPacketFromTCP_books books
      rintro _ _ _ rfl
      exact admitted
  | peerClosed => exact ends
  | closed => exact ends
  | failure => exact ends

theorem processMessageFromTCP_books (books : Books base ldp)
    (admitted : Admitted ldp (.fromTcp connId msg)) :
    Yields Missing (Books base) (ldp.processMessageFromTCP connId msg) := by
  unfold processMessageFromTCP
  dsimp only [Admitted] at admitted
  split
  case h_1 socket found =>
    rw [found] at admitted
    exact processMessage_books books admitted
  case h_2 unknown =>
    rw [unknown] at admitted
    have refused : Books base (ldp.refuseSocket connId) := by
      have same : Same ldp (ldp.refuseSocket connId) := ⟨rfl, rfl, rfl, rfl, rfl, rfl, rfl⟩
      exact same.books books
    split
    · exact .error (not_missing nofun)
    · unfold newConnection
      split
      · exact .ok refused
      case h_2 i peer =>
        split
        · exact .ok refused
        case isFalse free =>
          exact processMessage_books (acceptSocket_books books i _)
            (admitted i peer (Bool.not_eq_true _ ▸ free))

end Sessions

/-! ## Every run -/

theorem handle_books (sorting : Sorting) (books : Books base ldp) (admitted : Admitted ldp event) :
    Yields Missing (Books base) (handle sorting ldp event) := by
  cases event with
  | tableChanges rt ift =>
    have same : Same ldp (ldp.setTable rt ift) := ⟨rfl, rfl, rfl, rfl, rfl, rfl, rfl⟩
    exact .ok (same.books books)
  | receiveChangeNotification => exact rebuildFecList_books _ books admitted.1 admitted.2
  | helloArrives _ _ _ =>
    exact .ok (processLDPHello_books books _ _ _)
  | helloTimeout _ => exact processHelloTimeout_books books admitted
  | fromTcp _ _ => exact processMessageFromTCP_books books admitted
  | retry i =>
    dsimp only [handle, retry]
    split
    · exact .ok books
    case h_2 packet _ =>
      have erased : Same ldp { ldp with retries := ldp.retries.eraseIdx i } :=
        ⟨rfl, rfl, rfl, rfl, rfl, rfl, rfl⟩
      refine mono (processNOTIFICATION_same _ _) ?_
      exact fun last same => (erased.trans same).books books

theorem create_books {lt : LIBTable}
    (read : LIBTable.readTableFromXML list = .ok lt) (rt : RoutingTable)
    (ift : List InterfaceEntry) : Books lt.maxLabel (create rt ift lt) := by
  have labelled := LIBTable.readTableFromXML_labelled read
  refine ⟨⟨labelled.nonneg, Int.le_refl _, labelled.given, ?_,
    List.nodup_nil⟩, ?_, ?_, ?_, List.nodup_nil⟩
  · change (lt.inLabels.filter fun label => lt.maxLabel < label).Perm []
    rw [List.perm_nil, List.filter_eq_nil_iff]
    intro _ member above
    have given := labelled.given _ member
    have higher := of_decide_eq_true above
    omega
  · intro _ member
    cases member
  · intro _ member
    cases member
  · intro _ member
    cases member

/--
Along every run whose events neither take a binding back, nor drop one with
its peer, nor remove a FEC that has one, the bindings and the LIB agree, and
no label is missing from the LIB.
-/
theorem labels_agree (sorting : Sorting) {list : List LIBEntry} {lt : LIBTable}
    (read : LIBTable.readTableFromXML list = .ok lt) {rt : RoutingTable}
    {ift : List InterfaceEntry} {events : List Event} {last : LDP}
    (run : Run (guardedStep Admitted (step sorting)) (create rt ift lt) events last) :
    Agrees lt.maxLabel last ∧
      ∀ event, Admitted last event → Avoids Missing (handle sorting last event) := by
  have books : Books lt.maxLabel last := by
    refine run.guarded ?_ (create_books read _ _)
    intro _ _ _ before admitted taken
    exact (handle_books _ before admitted).2 _ taken
  refine ⟨books.agrees, ?_⟩
  exact fun event admitted => (handle_books _ books admitted).1

/-! ## Before the first binding -/

theorem admitted_of_unused (up : ldp.fecUp = [])
    (down : ldp.fecDown = []) (event : Event) : Admitted ldp event := by
  have quiet : ∀ {other : LDP} (it : fec_t), other.fecUp = [] → ¬Withdraws other it := by
    rintro other it none ⟨⟨_, member, _⟩, _⟩
    rw [none] at member
    cases member
  have message : ∀ {other : LDP} (socket : TCPSocket)
      (msg : TcpIndication), other.fecUp = [] → AdmittedMessage other socket msg := by
    intro _ _ _ none
    unfold AdmittedMessage
    split
    · exact fun _ _ it _ _ => quiet _ none
    · exact fun it _ _ _ _ => quiet _ none
    · trivial
  unfold Admitted
  split
  · refine ⟨fun it _ => quiet _ up, fun it _ => ⟨?_, ?_⟩⟩
    · intro _ member
      rw [up] at member
      cases member
    · intro _ member
      rw [down] at member
      cases member
  · intro _ _ _ member
    rw [up] at member
    cases member
  · split
    · exact message _ _ up
    · exact fun i _ _ => message _ _ up
  · trivial

/-- An event of a router that has no bindings yet. -/
def handleUnused (sorting : Sorting) (ldp : LDP) (event : Event) : Except Failure LDP :=
  if ldp.fecUp = [] ∧ ldp.fecDown = [] then handle sorting ldp event else .error .error

theorem guarded_of_unused (served : events.foldlM (handleUnused sorting) first = .ok last) :
    Run (guardedStep Admitted (step sorting)) first events last := by
  refine (Run.of_foldlM served).mono ?_
  intro _ _ _ handled
  unfold handleUnused at handled
  split at handled
  case isTrue unused => exact ⟨admitted_of_unused unused.1 unused.2 _, handled⟩
  · cases handled

/-! ## One router with one peer -/

def insertion : Sorting where
  sort := List.insertionSort fun a b : fec_t => b.length ≤ a.length
  perm := List.perm_insertionSort _
  sorted := fun list => by
    have : Std.Total fun a b : fec_t => b.length ≤ a.length :=
      ⟨fun a b => Int.le_total b.length a.length⟩
    have : IsTrans fec_t fun a b => b.length ≤ a.length :=
      ⟨fun a b c left right => Int.le_trans right left⟩
    exact List.pairwise_insertionSort _ list

def oneRoute : RoutingTable where
  routerId := ⟨9⟩
  routes := [{ host := ⟨5⟩, netmask := ALLONES_ADDRESS, interface := some 0, source := .OSPF }]

def oneInterface : List InterfaceEntry :=
  [{ name := "eth0", networkLayerGateIndex := 0, ipAddress := ⟨9⟩ }]

/-- The peer asks for a label for the address of the router. -/
def oneBinding : List Event :=
  [.receiveChangeNotification, .helloArrives ⟨5⟩ "eth0" 1,
    .fromTcp 1 (.established ⟨5⟩), .fromTcp 1 (.data (.LABEL_REQUEST ⟨5⟩ ⟨⟨9⟩, 32⟩))]

theorem labels_agree_one :
    ∃ last,
      LIBTable.readTableFromXML [] = .ok LIBTable.empty ∧
        Run (guardedStep Admitted (step insertion))
          (create oneRoute oneInterface LIBTable.empty) oneBinding last ∧
        last.fecUp = [⟨2, ⟨5⟩, 1⟩] ∧ Agrees 0 last := by
  have computed : fecUp <$> oneBinding.foldlM (handleUnused insertion)
      (create oneRoute oneInterface LIBTable.empty) = .ok [⟨2, ⟨5⟩, 1⟩] := by
    decide +kernel
  obtain ⟨last, served, bindings⟩ := map_eq_ok.mp computed
  have read : LIBTable.readTableFromXML [] = .ok LIBTable.empty := rfl
  have run := guarded_of_unused served
  exact ⟨last, read, run, bindings, (labels_agree _ read run).1⟩

/-- The hello timeout of the peer drops the binding, but not the entry. -/
theorem entry_left :
    ∃ last,
      Run (step insertion) (create oneRoute oneInterface LIBTable.empty)
        (oneBinding ++ [.helloTimeout 0]) last ∧ ¬Agrees 0 last := by
  have computed : (fun last : LDP => (last.fecUp, last.lt.inLabels)) <$>
      (oneBinding ++ [Event.helloTimeout 0]).foldlM (handle insertion)
        (create oneRoute oneInterface LIBTable.empty) =
      .ok ([], [1]) := by
    decide +kernel
  obtain ⟨last, served, values⟩ := map_eq_ok.mp computed
  rw [Prod.mk.injEq] at values
  refine ⟨last, Run.of_foldlM served, ?_⟩
  intro agrees
  have listed : (1 : Int) ∈ last.lt.inLabels := by
    rw [values.2]
    exact List.mem_cons_self
  obtain ⟨_, member, _⟩ := agrees.installed 1 listed (by decide)
  rw [values.1] at member
  cases member

end OmnetDsi.Ldp.LabelAgreement
