import OmnetDsi.Ldp.LabelAgreement

/-!
# The list of recognized FECs

A FEC for each unicast route and each own address, found again by its address
and length when the list is rebuilt.  It is looked for in what is left of the
old list only, so two routes with one prefix, or an own address with a host
route, have two FECs.
-/

namespace OmnetDsi.Ldp.FecLists

open Contract.Addresses
open OmnetDsi.Ipv4.RoutingTables (IPRoute RoutingTable)
open Ldp.LabelAgreement Ldp.LabelDistribution Library.Fallible Library.Transition Mpls.LabelTable
open LDP Yields

/-! ## Classification -/

def LDP_PORT : Int := 646

def prefixMatches (addr to_cmp : IPAddress) (numbits : Int) : Bool :=
  if numbits < 1 then true
  else if numbits > 31 then addr = to_cmp
  else
    let mask := ~~~(0xFFFFFFFF#32 >>> numbits.toNat)
    addr.addr &&& mask = to_cmp.addr &&& mask

inductive Transport where
  | OSPF
  | UDP (destinationPort : Int)
  | TCP (srcPort destPort : Int)
  | other

structure IPDatagram where
  destAddress : IPAddress
  transport : Transport

/-- Traffic that is never labelled. -/
def Transport.isControl : Transport → Bool
  | OSPF => true
  | UDP destinationPort => destinationPort = LDP_PORT
  | TCP srcPort destPort => destPort = LDP_PORT || srcPort = LDP_PORT
  | other => false

/-- What is done with the datagrams of a FEC. -/
def labelFor (ldp : LDP) (it : fec_t) : Except Failure (Option (List LabelOp × String × Int)) :=
  match ldp.fecDown.findFecEntry it.fecid it.nextHop with
  | some dit => do
      let outInterface ← ldp.findInterfaceFromPeerAddr it.nextHop
      .ok (some (pushLabel dit.label, outInterface, LDP_USER_TRAFFIC))
  | none => .ok none

def lookupLabel (ldp : LDP) (ipdatagram : IPDatagram) :
    Except Failure (Option (List LabelOp × String × Int)) :=
  if ipdatagram.transport.isControl then .ok none
  else
    match ldp.fecList.find? fun it => prefixMatches ipdatagram.destAddress it.addr it.length with
    | some it => labelFor ldp it
    | none => .ok none

/-! ## What is to hold -/

/-- The unicast routes, and the addresses of the interfaces to the network. -/
def recognizedKeys (routes : List IPRoute) (ift : List InterfaceEntry) : List FEC_TLV :=
  (routes.filter fun re => !re.host.isMulticast).map routeKey ++
    (ift.filter fun ie => 0 ≤ ie.networkLayerGateIndex).map fun ie => ⟨ie.ipAddress, 32⟩

/-- The numbers in use, with the highest that was given out. -/
structure Numbered (fecids : List Nat) (maxFecid : Nat) : Prop where
  distinct : fecids.Nodup
  counted : ∀ fecid ∈ fecids, fecid ≤ maxFecid

structure Recognizes (ldp next : LDP) : Prop where
  once : ∀ key ∈ recognizedKeys ldp.getRoutes ldp.ift, (next.fecList.map fec_t.key).count key = 1
  only : ∀ it ∈ next.fecList, it.key ∈ recognizedKeys ldp.getRoutes ldp.ift
  kept : ∀ before ∈ ldp.fecList, ∀ it ∈ next.fecList, it.key = before.key → it.fecid = before.fecid
  distinct : (next.fecList.map fec_t.fecid).Nodup
  longest : ∀ ipdatagram : IPDatagram, ipdatagram.transport.isControl = false →
    let matching := next.fecList.filter fun it =>
      prefixMatches ipdatagram.destAddress it.addr it.length
    (∃ it ∈ matching, (∀ other ∈ matching, other.length ≤ it.length) ∧
      lookupLabel next ipdatagram = labelFor next it) ∨
    matching = [] ∧ lookupLabel next ipdatagram = .ok none

/-- Neither the keys nor the FECs that there were for them have doubles. -/
structure Alone (ldp : LDP) : Prop where
  now : (recognizedKeys ldp.getRoutes ldp.ift).Nodup
  before : ∀ it ∈ ldp.fecList, ∀ other ∈ ldp.fecList, it.key = other.key →
    it.key ∈ recognizedKeys ldp.getRoutes ldp.ift → it = other

/-! ## The numbers -/

theorem Numbered.perm {maxFecid : Nat}
    (numbered : Numbered fecids maxFecid) (perm : others.Perm fecids) : Numbered others maxFecid :=
  ⟨perm.nodup_iff.mpr numbered.distinct, fun _ member => numbered.counted _ (perm.subset member)⟩

theorem Numbered.count {maxFecid : Nat} (numbered : Numbered fecids maxFecid) :
    Numbered ((maxFecid + 1) :: fecids) (maxFecid + 1) where
  distinct := by
    refine List.nodup_cons.mpr ⟨?_, numbered.distinct⟩
    intro member
    have := numbered.counted _ member
    omega
  counted := by
    intro fecid member
    rcases List.mem_cons.mp member with rfl | old
    · exact Nat.le_refl _
    · exact Nat.le_succ_of_le (numbered.counted _ old)

/-! ## The old list -/

variable {oldList : FecVector} {key : FEC_TLV} {it : fec_t}

theorem matches_iff : (it.length = key.length && it.addr = key.addr) = true ↔ it.key = key := by
  rcases key with ⟨_, _⟩
  simp [fec_t.key, and_comm]

theorem findFecEntry_key (found : oldList.findFecEntry key.addr key.length = some it) :
    it.key = key := by
  have here := List.find?_some found
  exact matches_iff.mp here

theorem eraseFecEntry_split (found : oldList.findFecEntry key.addr key.length = some it) :
    ∃ left right, oldList = left ++ it :: right ∧
      oldList.eraseFecEntry key.addr key.length = left ++ right := by
  rcases List.find?_eq_some_iff_append.mp found with ⟨here, left, right, rfl, none⟩
  refine ⟨left, right, rfl, (List.eraseP_append_right _ ?_).trans ?_⟩
  · intro fec member
    simpa only [Bool.not_eq_true', Bool.not_eq_true] using none fec member
  · exact congrArg _ (List.eraseP_cons_of_pos here)

theorem findFecEntry_erase (found : oldList.findFecEntry key.addr key.length = some it)
    (different : other ≠ key) :
    FecVector.findFecEntry (oldList.eraseFecEntry key.addr key.length) other.addr other.length =
      oldList.findFecEntry other.addr other.length := by
  rcases eraseFecEntry_split found with ⟨left, right, rfl, erased⟩
  rw [erased]
  unfold FecVector.findFecEntry
  rw [List.find?_append, List.find?_append, List.find?_cons_of_neg]
  rw [matches_iff, findFecEntry_key found]
  exact different.symm

/-! ## The loops -/

section Loops

/-- The keys seen so far have their FECs. -/
structure Building (old : FecVector) (done : List FEC_TLV) (current : LDP × FecVector) : Prop where
  keys : current.1.fecList.map fec_t.key = done
  numbered : Numbered ((current.1.fecList ++ current.2).map fec_t.fecid) current.1.maxFecid
  left : ∀ key ∉ done, current.2.findFecEntry key.addr key.length =
    old.findFecEntry key.addr key.length
  kept : done.Nodup → ∀ it ∈ current.1.fecList, ∀ before,
    old.findFecEntry it.addr it.length = some before → it.fecid = before.fecid

/-- What the update of a FEC and its removal leave as it is. -/
structure Keeps (ldp next : LDP) : Prop where
  fecList : next.fecList = ldp.fecList
  maxFecid : next.maxFecid = ldp.maxFecid

/-- A FEC is pushed, with a number that is new or that of the old FEC. -/
theorem Building.push (building : Building old done current) {item : fec_t}
    {oldList : FecVector} (list : next.fecList = current.1.fecList ++ [item])
    (numbered : Numbered (item.fecid :: (current.1.fecList ++ oldList).map fec_t.fecid)
      next.maxFecid)
    (same : ∀ key ≠ item.key, oldList.findFecEntry key.addr key.length =
      current.2.findFecEntry key.addr key.length)
    (number : ∀ it, current.2.findFecEntry item.addr item.length = some it →
      item.fecid = it.fecid) :
    Building old (done ++ [item.key]) (next, oldList) where
  keys := by
    rw [list, List.map_append, building.keys]
    rfl
  numbered := by
    refine numbered.perm ?_
    rw [list, List.append_assoc]
    exact List.perm_middle.map _
  left := by
    intro key absent
    rw [List.mem_append, List.mem_singleton, not_or] at absent
    exact (same _ absent.2).trans (building.left _ absent.1)
  kept := by
    intro distinct it member before found
    rw [List.nodup_append_comm, List.singleton_append, List.nodup_cons] at distinct
    rw [list, List.mem_append, List.mem_singleton] at member
    rcases member with earlier | rfl
    · exact building.kept distinct.2 _ earlier _ found
    · exact number _ ((building.left it.key distinct.1).trans found)

theorem Building.create (building : Building old done current)
    (none : current.2.findFecEntry key.addr key.length = none) {nextHop : IPAddress}
    (keeps : Keeps current.1.countFec next) :
    Building old (done ++ [key]) (next.pushFec (current.1.newItem key nextHop), current.2) := by
  refine @Building.push _ _ _ _ building (current.1.newItem _ nextHop) _ ?_ ?_ ?_ ?_
  · exact congrArg (· ++ _) keeps.fecList
  · exact keeps.maxFecid ▸ building.numbered.count
  · exact fun _ _ => rfl
  · intro it found
    cases none.symm.trans found

theorem Building.reuse (building : Building old done current)
    (found : current.2.findFecEntry key.addr key.length = some it)
    (fecid : item.fecid = it.fecid) (same : item.key = it.key) (keeps : Keeps current.1 next) :
    Building old (done ++ [key])
      (next.pushFec item, current.2.eraseFecEntry key.addr key.length) := by
  have own : item.key = key := same.trans (findFecEntry_key found)
  subst own
  refine building.push (congrArg (· ++ _) keeps.fecList) ?_ ?_ ?_
  · rcases eraseFecEntry_split found with ⟨left, right, split, erased⟩
    refine keeps.maxFecid ▸ building.numbered.perm ?_
    rw [erased, split, fecid, ← List.map_cons, ← List.append_assoc, ← List.append_assoc]
    exact List.perm_middle.symm.map _
  · exact fun _ different => findFecEntry_erase found different
  · intro _ other
    cases found.symm.trans other
    exact fecid

/-! ## What the updates leave as it is -/

variable {ldp : LDP}

theorem sendToPeer_keeps (dest : IPAddress) (packet : LDPPacket) :
    Returns (Keeps ldp) (ldp.sendToPeer dest packet) := by
  unfold sendToPeer
  split
  · exact .ok ⟨rfl, rfl⟩
  · exact .error id

theorem Keeps.trans (first : Keeps ldp middle) (second : Keeps middle next) : Keeps ldp next :=
  ⟨second.fecList.trans first.fecList, second.maxFecid.trans first.maxFecid⟩

theorem installLibEntry_keeps (inLabel : Int) (inInterface : String) (outLabel : List LabelOp)
    (outInterface : String) (color : Int) :
    Returns (fun installed => Keeps ldp installed.2)
      (ldp.installLibEntry inLabel inInterface outLabel outInterface color) := by
  unfold installLibEntry
  split
  · exact .ok ⟨rfl, rfl⟩
  · exact .error id

theorem removeLibEntry_keeps (inLabel : Int) :
    Returns (Keeps ldp) (ldp.removeLibEntry inLabel) := by
  unfold removeLibEntry
  split
  · exact .ok ⟨rfl, rfl⟩
  · exact .error id

theorem anything {Result : Type} {result : Except Failure Result} :
    Returns (fun _ => True) result :=
  ⟨fun _ _ => id, fun _ _ => trivial⟩

theorem adjustMapping_keeps (oldItem : fec_t) (outLabel : Option (List LabelOp))
    (kept : FecBindVector) (uit : fec_bind_t) :
    Returns (fun adjusted => Keeps ldp adjusted.1)
      (adjustMapping oldItem outLabel (ldp, kept) uit) := by
  unfold adjustMapping
  split
  · exact .ok ⟨rfl, rfl⟩
  · refine anything.bind fun inInterface _ => anything.bind fun outInterface _ => ?_
    split
    · refine (installLibEntry_keeps _ _ _ _ _).bind fun _ keeps => ?_
      exact .ok keeps
    · exact (sendToPeer_keeps _ _).bind fun _ keeps => .ok keeps

theorem updateFecListEntry_keeps (oldItem : fec_t) :
    Returns (Keeps ldp) (ldp.updateFecListEntry oldItem) := by
  refine anything.bind fun _ _ => ?_
  have adjusted : Returns (fun adjusted : LDP × FecBindVector => Keeps ldp adjusted.1)
      (ldp.fecUp.foldlM (adjustMapping oldItem (labelOperation (ldp.isEgress oldItem.nextHop)
        (ldp.fecDown.findFecEntry oldItem.fecid oldItem.nextHop))) (ldp, [])) := by
    refine foldlM_yields (fun _ (adjusted : LDP × FecBindVector) => Keeps _ adjusted.1) ?_
      ⟨rfl, rfl⟩
    intro _ _ _ _ _ first
    exact mono (adjustMapping_keeps _ _ _ _) fun _ second => first.trans second
  refine adjusted.bind fun _ keeps => ?_
  split
  · exact mono (sendToPeer_keeps _ _) fun _ second => keeps.trans ⟨second.1, second.2⟩
  · exact .ok ⟨keeps.1, keeps.2⟩

theorem removeFec_keeps (it : fec_t) : Returns (Keeps ldp) (ldp.removeFec it) := by
  have released : Returns (Keeps ldp) (ldp.fecDown.foldlM (releaseMapping it) ldp) := by
    refine foldlM_yields (fun _ => Keeps _) ?_ ⟨rfl, rfl⟩
    intro _ _ _ _ _ first
    unfold releaseMapping
    split
    · exact .ok first
    · exact mono (sendToPeer_keeps _ _) fun _ second => first.trans second
  refine released.bind fun middle keeps => ?_
  refine foldlM_yields (fun _ => Keeps _) ?_ keeps
  intro _ _ _ _ _ first
  unfold withdrawMapping
  split
  · exact .ok first
  · refine (sendToPeer_keeps _ _).bind fun _ second => ?_
    exact mono (removeLibEntry_keeps _) fun _ third => (first.trans second).trans third

/-! ## The list is rebuilt -/

theorem rebuildRoute_building (building : Building old done current) (re : IPRoute) :
    Returns (Building old (done ++ recognizedKeys [re] [])) (rebuildRoute current re) := by
  unfold rebuildRoute
  split
  case isTrue multicast =>
    refine .ok ?_
    simpa [recognizedKeys, multicast] using building
  case isFalse unicast =>
    have key : recognizedKeys [re] [] = [routeKey re] := by
      simp [recognizedKeys, unicast]
    rw [key]
    refine anything.bind fun _ _ => ?_
    split
    case h_1 none =>
      refine (updateFecListEntry_keeps _).bind fun _ keeps => ?_
      exact .ok (building.create none keeps)
    case h_2 it found =>
      split
      · refine (updateFecListEntry_keeps _).bind fun _ keeps => ?_
        exact .ok (building.reuse found rfl rfl keeps)
      · exact .ok (building.reuse found rfl rfl ⟨rfl, rfl⟩)

theorem rebuildInterface_building (building : Building old done current) (ie : InterfaceEntry) :
    Building old (done ++ recognizedKeys [] [ie]) (rebuildInterface current ie) := by
  unfold rebuildInterface
  split
  case isTrue outside =>
    have none : ¬0 ≤ ie.networkLayerGateIndex := by omega
    simpa [recognizedKeys, none] using building
  case isFalse inside =>
    have key : recognizedKeys [] [ie] = [⟨ie.ipAddress, 32⟩] := by
      have some : 0 ≤ ie.networkLayerGateIndex := by omega
      simp [recognizedKeys, some]
    rw [key]
    split
    case h_1 none => exact building.create none ⟨rfl, rfl⟩
    case h_2 it found => exact building.reuse found rfl rfl ⟨rfl, rfl⟩

theorem rebuildInterfaces_building (building : Building old done current)
    (ift : List InterfaceEntry) :
    Building old (done ++ recognizedKeys [] ift) (ift.foldl rebuildInterface current) := by
  induction ift generalizing current done with
  | nil => simpa [recognizedKeys] using building
  | cons ie rest induction =>
    have later := induction (rebuildInterface_building building ie)
    have split : recognizedKeys [] (ie :: rest) =
        recognizedKeys [] [ie] ++ recognizedKeys [] rest := by
      simp [recognizedKeys, ← List.map_append, ← List.filter_append]
    rwa [split, ← List.append_assoc]

theorem rebuildFecList_built (sorting : Sorting)
    (numbered : Numbered (ldp.fecList.map fec_t.fecid) ldp.maxFecid) :
    Returns (fun next => ∃ built : LDP × FecVector,
      Building ldp.fecList (recognizedKeys ldp.getRoutes ldp.ift) built ∧
      next.fecList = sorting.sort built.1.fecList ∧ next.maxFecid = built.1.maxFecid)
      (ldp.rebuildFecList sorting) := by
  have routed : Returns (Building ldp.fecList (recognizedKeys ldp.getRoutes []))
      (ldp.getRoutes.foldlM rebuildRoute ({ ldp with fecList := [] }, ldp.fecList)) := by
    refine foldlM_yields (fun routes => Building ldp.fecList (recognizedKeys routes [])) ?_ ?_
    · intro routes re _ _ current building
      have step := rebuildRoute_building building re
      simpa [recognizedKeys] using step
    · exact ⟨rfl, numbered, fun _ _ => rfl, nofun⟩
  refine routed.bind fun routed building => ?_
  have rebuilt := rebuildInterfaces_building building ldp.ift
  refine Yields.bind (foldlM_yields (fun _ => Keeps (ldp.ift.foldl _ routed).1) ?_ ⟨rfl, rfl⟩) ?_
  · intro _ it _ _ _ first
    exact mono (removeFec_keeps _) fun _ second => first.trans second
  · intro removed keeps
    refine .ok ⟨_, ?_, congrArg _ keeps.fecList, keeps.maxFecid⟩
    simpa [recognizedKeys] using rebuilt

end Loops

theorem lookupLabel_longest (sorted : ldp.fecList.Pairwise fun a b => b.length ≤ a.length)
    (data : ipdatagram.transport.isControl = false) :
    let matching := ldp.fecList.filter fun it =>
      prefixMatches ipdatagram.destAddress it.addr it.length
    (∃ it ∈ matching, (∀ other ∈ matching, other.length ≤ it.length) ∧
      lookupLabel ldp ipdatagram = labelFor ldp it) ∨
    matching = [] ∧ lookupLabel ldp ipdatagram = .ok none := by
  rw [lookupLabel, data, ← List.head?_filter]
  have ordered := sorted.filter fun it => prefixMatches ipdatagram.destAddress it.addr it.length
  cases found : ldp.fecList.filter fun it =>
      prefixMatches ipdatagram.destAddress it.addr it.length with
  | nil => exact .inr ⟨rfl, rfl⟩
  | cons it rest =>
    rw [found] at ordered
    refine .inl ⟨it, List.mem_cons_self, ?_, rfl⟩
    intro other member
    rcases List.mem_cons.mp member with rfl | later
    · exact Int.le_refl _
    · exact List.rel_of_pairwise_cons ordered later

/--
The numbers stay distinct.  The new list is as claimed exactly if neither its
keys nor the old FECs that they name have doubles.
-/
theorem recognizes_iff (sorting : Sorting)
    (numbered : Numbered (ldp.fecList.map fec_t.fecid) ldp.maxFecid)
    (rebuilt : ldp.rebuildFecList sorting = .ok next) :
    Numbered (next.fecList.map fec_t.fecid) next.maxFecid ∧ (Recognizes ldp next ↔ Alone ldp) := by
  rcases (rebuildFecList_built _ numbered).2 _ rebuilt with ⟨built, building, list, maxFecid⟩
  have perm : next.fecList.Perm built.1.fecList := list ▸ sorting.perm _
  have keys : (next.fecList.map fec_t.key).Perm (recognizedKeys ldp.getRoutes ldp.ift) :=
    building.keys ▸ perm.map _
  have distinct : Numbered (next.fecList.map fec_t.fecid) next.maxFecid := by
    have both := building.numbered
    rw [List.map_append] at both
    rw [maxFecid]
    refine .perm ⟨both.distinct.of_append_left, ?_⟩ (perm.map _)
    exact fun _ member => both.counted _ (List.mem_append_left _ member)
  refine ⟨distinct, ?_, ?_⟩
  · intro recognizes
    constructor
    · refine List.nodup_iff_count_le_one.mpr fun key => ?_
      by_cases member : key ∈ recognizedKeys ldp.getRoutes ldp.ift
      · rw [← keys.count_eq, recognizes.once _ member]
      · rw [List.count_eq_zero_of_not_mem member]
        exact Nat.zero_le _
    · intro it old other there same member
      rcases List.mem_map.mp (keys.mem_iff.mpr member) with ⟨new, listed, key⟩
      refine List.inj_on_of_nodup_map numbered.distinct old there ?_
      rw [← recognizes.kept _ old _ listed key]
      exact recognizes.kept _ there _ listed (key.trans same)
  · intro alone
    refine ⟨?_, ?_, ?_, distinct.distinct, ?_⟩
    · intro key member
      rw [keys.count_eq]
      exact List.count_eq_one_of_mem alone.now member
    · exact fun it member => keys.subset (List.mem_map_of_mem member)
    · intro before old it member same
      have named := keys.subset (List.mem_map_of_mem member)
      cases found : ldp.fecList.findFecEntry it.addr it.length with
      | none =>
        have absent := List.find?_eq_none.mp found _ old
        exact absurd (matches_iff.mpr same.symm) absent
      | some first =>
        have number := building.kept alone.now _ (perm.subset member) _ found
        have key : first.key = it.key := findFecEntry_key found
        rw [number, alone.before _ (List.mem_of_find?_eq_some found) _ old
          (key.trans same) (key ▸ named)]
    · intro ipdatagram data
      exact lookupLabel_longest (list ▸ sorting.sorted _) data

/-! ## Whole runs -/

theorem answer_keeps (fecid : Nat) (peer : IPAddress) (key : FEC_TLV) (outLabel : List LabelOp)
    (inInterface outInterface : String) (color : Int) :
    Returns (Keeps ldp) (ldp.answer fecid peer key outLabel inInterface outInterface color) := by
  refine (installLibEntry_keeps _ _ _ _ _).bind fun _ first => ?_
  exact mono (sendToPeer_keeps _ _) fun _ second => first.trans ⟨second.1, second.2⟩

theorem updateFecList_keeps (nextHop : IPAddress) :
    Returns (Keeps ldp) (ldp.updateFecList nextHop) := by
  refine foldlM_yields (fun _ => Keeps _) ?_ ⟨rfl, rfl⟩
  intro _ _ _ _ _ first
  unfold updateIfNextHop
  split
  · exact .ok first
  · exact mono (updateFecListEntry_keeps _) fun _ second => first.trans second

theorem processLABEL_REQUEST_keeps (srcAddr : IPAddress) (fec : FEC_TLV) :
    Returns (Keeps ldp) (ldp.processLABEL_REQUEST srcAddr fec) := by
  unfold processLABEL_REQUEST
  split
  · exact sendToPeer_keeps _ _
  · refine anything.bind fun _ _ => anything.bind fun _ _ => ?_
    refine anything.bind fun _ _ => anything.bind fun _ _ => ?_
    split
    · exact answer_keeps _ _ _ _ _ _ _
    · exact .ok ⟨rfl, rfl⟩

theorem processLABEL_RELEASE_keeps (fromIP : IPAddress) (fec : FEC_TLV) (label : Int) :
    Returns (Keeps ldp) (ldp.processLABEL_RELEASE fromIP fec label) := by
  refine anything.bind fun _ _ => ?_
  split
  · exact .ok ⟨rfl, rfl⟩
  · split
    · exact .ok ⟨rfl, rfl⟩
    · split
      · exact .ok ⟨rfl, rfl⟩
      · exact (removeLibEntry_keeps _).bind fun _ keeps => .ok ⟨keeps.1, keeps.2⟩

theorem processLABEL_WITHDRAW_keeps (fromIP : IPAddress) (fec : FEC_TLV) (label : Int) :
    Returns (Keeps ldp) (ldp.processLABEL_WITHDRAW fromIP fec label) := by
  refine anything.bind fun _ _ => ?_
  split
  · exact .ok ⟨rfl, rfl⟩
  · split
    · exact .ok ⟨rfl, rfl⟩
    · split
      · exact .ok ⟨rfl, rfl⟩
      · refine (sendToPeer_keeps _ _).bind fun _ first => ?_
        exact mono (updateFecListEntry_keeps _) fun _ second =>
          ⟨second.1.trans first.1, second.2.trans first.2⟩

theorem processLABEL_MAPPING_keeps (fromIP : IPAddress) (fec : FEC_TLV) (label : Int) :
    Returns (Keeps ldp) (ldp.processLABEL_MAPPING fromIP fec label) := by
  refine anything.bind fun _ _ => ?_
  split
  · exact .error id
  · refine anything.bind fun _ _ => ?_
    refine Yields.bind (foldlM_yields
      (fun _ (answered : LDP × List pending_req_t) => Keeps ldp answered.1) ?_ ⟨rfl, rfl⟩) ?_
    · intro _ _ _ _ _ first
      unfold answerPending
      split
      · exact .ok first
      · refine anything.bind fun _ _ => anything.bind fun _ _ => ?_
        exact (answer_keeps _ _ _ _ _ _ _).bind fun _ second => .ok (first.trans second)
    · exact fun _ keeps => .ok ⟨keeps.1, keeps.2⟩

theorem processNOTIFICATION_keeps (isSelfMessage : Bool) (packet : LDPNotify) :
    Returns (Keeps ldp) (ldp.processNOTIFICATION isSelfMessage packet) := by
  unfold processNOTIFICATION
  split
  · split
    · exact .ok ⟨rfl, rfl⟩
    · split
      · split
        · exact sendToPeer_keeps _ _
        · exact .ok ⟨rfl, rfl⟩
      · exact .ok ⟨rfl, rfl⟩
  · exact .error id

theorem processMessage_keeps (socket : TCPSocket) (msg : TcpIndication) :
    Returns (Keeps ldp) (ldp.processMessage socket msg) := by
  unfold processMessage
  split
  · split
    · exact .error id
    · exact mono (updateFecList_keeps _) fun _ keeps => ⟨keeps.1, keeps.2⟩
  · split
    · exact .error id
    · unfold processLDPPacketFromTCP
      split
      · exact processLABEL_MAPPING_keeps _ _ _
      · exact processLABEL_REQUEST_keeps _ _
      · exact processLABEL_WITHDRAW_keeps _ _ _
      · exact processLABEL_RELEASE_keeps _ _ _
      · exact processNOTIFICATION_keeps _ _
      · exact .error id
  all_goals exact .error id

theorem handle_keeps (sorting : Sorting) (other : event ≠ .receiveChangeNotification) :
    Returns (Keeps ldp) (handle sorting ldp event) := by
  unfold handle
  split
  · exact .ok ⟨rfl, rfl⟩
  · exact absurd rfl other
  · unfold processLDPHello openTCPConnectionToPeer
    dsimp only
    split_ifs
    all_goals exact .ok ⟨rfl, rfl⟩
  · unfold processHelloTimeout
    split
    · exact .error id
    · split
      · exact .error id
      · exact mono (updateFecList_keeps _) fun _ keeps => ⟨keeps.1, keeps.2⟩
  · unfold processMessageFromTCP newConnection
    split
    · exact processMessage_keeps _ _
    · split
      · exact .error id
      · split
        · exact .ok ⟨rfl, rfl⟩
        · split
          · exact .ok ⟨rfl, rfl⟩
          · exact mono (processMessage_keeps _ _) fun _ keeps => ⟨keeps.1, keeps.2⟩
  · unfold retry
    split
    · exact .ok ⟨rfl, rfl⟩
    · exact mono (processNOTIFICATION_keeps _ _) fun _ keeps => ⟨keeps.1, keeps.2⟩

structure Listed (ldp : LDP) : Prop where
  numbered : Numbered (ldp.fecList.map fec_t.fecid) ldp.maxFecid
  sorted : ldp.fecList.Pairwise fun a b => b.length ≤ a.length

theorem Listed.step {event : Event} (listed : Listed ldp) (taken : step sorting ldp event next) :
    Listed next := by
  by_cases rebuilds : event = .receiveChangeNotification
  · subst rebuilds
    rcases (rebuildFecList_built sorting listed.numbered).2 _ taken with
      ⟨built, building, list, maxFecid⟩
    refine ⟨?_, list ▸ sorting.sorted _⟩
    have both := building.numbered
    rw [List.map_append] at both
    rw [maxFecid, list]
    refine .perm ⟨both.distinct.of_append_left, ?_⟩ ((sorting.perm _).map _)
    exact fun _ member => both.counted _ (List.mem_append_left _ member)
  · have keeps := (handle_keeps sorting rebuilds).2 _ taken
    exact ⟨keeps.1 ▸ keeps.2 ▸ listed.numbered, keeps.1 ▸ listed.sorted⟩

/--
At any time a datagram is labelled for a FEC with the longest of the prefixes
that match, whatever routes, peers and messages there have been.
-/
theorem longest_prefix_labelled {rt : RoutingTable} {ift : List InterfaceEntry} {lt : LIBTable}
    (run : Run (step sorting) (create rt ift lt) events ldp)
    (data : ipdatagram.transport.isControl = false) :
    let matching := ldp.fecList.filter fun it =>
      prefixMatches ipdatagram.destAddress it.addr it.length
    (ldp.fecList.map fec_t.fecid).Nodup ∧
    ((∃ it ∈ matching, (∀ other ∈ matching, other.length ≤ it.length) ∧
      lookupLabel ldp ipdatagram = labelFor ldp it) ∨
    matching = [] ∧ lookupLabel ldp ipdatagram = .ok none) := by
  have initial : Listed (create rt ift lt) := ⟨⟨List.nodup_nil, nofun⟩, .nil⟩
  have preserved : ∀ ldp event next, Listed ldp → step sorting ldp event next → Listed next :=
    fun _ _ _ listed taken => listed.step taken
  have listed := run.invariant preserved initial
  exact ⟨listed.numbered.distinct, lookupLabel_longest listed.sorted data⟩

/-! ## One router -/

/-- A router with one route, to the host. -/
def oneRouter (host : IPAddress) : LDP :=
  create { oneRoute with routes := [{ host, netmask := ALLONES_ADDRESS, source := .OSPF }] }
    oneInterface LIBTable.empty

theorem oneRouter_recognizes :
    ∃ next, (oneRouter ⟨5⟩).rebuildFecList insertion = .ok next ∧
      Recognizes (oneRouter ⟨5⟩) next := by
  have computed : fecList <$> (oneRouter ⟨5⟩).rebuildFecList insertion =
      .ok [⟨1, ⟨5⟩, 32, ⟨5⟩⟩, ⟨2, ⟨9⟩, 32, ⟨9⟩⟩] := by
    decide +kernel
  rcases map_eq_ok.mp computed with ⟨next, rebuilt, _⟩
  have numbered : Numbered [] 0 := ⟨List.nodup_nil, nofun⟩
  exact ⟨next, rebuilt,
    (@recognizes_iff (oneRouter ⟨5⟩) _ _ numbered rebuilt).2.mpr ⟨by decide, nofun⟩⟩

theorem longest_prefix_labelled_one :
    ∃ ldp, Run (step insertion) (oneRouter ⟨5⟩) [.receiveChangeNotification] ldp ∧
      (ldp.fecList.map fec_t.fecid).Nodup := by
  have computed : fecList <$> (oneRouter ⟨5⟩).rebuildFecList insertion =
      .ok [⟨1, ⟨5⟩, 32, ⟨5⟩⟩, ⟨2, ⟨9⟩, 32, ⟨9⟩⟩] := by
    decide +kernel
  rcases map_eq_ok.mp computed with ⟨next, rebuilt, _⟩
  have run : Run (step insertion) (oneRouter ⟨5⟩) [.receiveChangeNotification] next :=
    .next rebuilt (.idle _)
  have data : (⟨⟨5⟩, .other⟩ : IPDatagram).transport.isControl = false := rfl
  exact ⟨next, run, (longest_prefix_labelled run data).1⟩

/-- The address of the router has two FECs if there is a route to it. -/
theorem ownRoute_doubled :
    ∃ next, (oneRouter ⟨9⟩).rebuildFecList insertion = .ok next ∧
      ¬Recognizes (oneRouter ⟨9⟩) next := by
  have computed : fecList <$> (oneRouter ⟨9⟩).rebuildFecList insertion =
      .ok [⟨1, ⟨9⟩, 32, ⟨9⟩⟩, ⟨2, ⟨9⟩, 32, ⟨9⟩⟩] := by
    decide +kernel
  rcases map_eq_ok.mp computed with ⟨next, rebuilt, list⟩
  refine ⟨next, rebuilt, ?_⟩
  intro recognizes
  have once := recognizes.once ⟨⟨9⟩, 32⟩ (by decide)
  rw [list] at once
  revert once
  decide

end OmnetDsi.Ldp.FecLists
