import OmnetDsi.Ospf.LSAHeaders

/-!
# The lists of a neighbour

A neighbour keeps copies of LSAs on its retransmission list and headers on its
request list.  Of the copies only the headers are modelled.  Both lists are
searched by a key that names the link-state id and the advertising router, but
not the type of the LSA.
-/

namespace OmnetDsi.Ospf.NeighborLists

open Ospf.LSAHeaders

/-- An LSA with the key is replaced, else the LSA is added to the end. -/
def AddToRetransmissionList : List OSPFLSAHeader → OSPFLSAHeader → List OSPFLSAHeader
  | [], lsa => [lsa]
  | first :: rest, lsa =>
    if first.lsaKey = lsa.lsaKey then lsa :: rest else first :: AddToRetransmissionList rest lsa

def RemoveFromRetransmissionList (list : List OSPFLSAHeader)
    (lsaKey : LSAKeyType) : List OSPFLSAHeader :=
  list.filter fun lsa => lsa.lsaKey ≠ lsaKey

def FindOnRetransmissionList (list : List OSPFLSAHeader)
    (lsaKey : LSAKeyType) : Option OSPFLSAHeader :=
  list.find? fun lsa => lsa.lsaKey = lsaKey

/-- One header of a link state acknowledgement packet. -/
def processAcknowledgement (list : List OSPFLSAHeader)
    (lsaHeader : OSPFLSAHeader) : List OSPFLSAHeader :=
  match FindOnRetransmissionList list lsaHeader.lsaKey with
  | none => list
  | some lsaOnRetransmissionList =>
    if operatorEqual lsaHeader lsaOnRetransmissionList then
      RemoveFromRetransmissionList list lsaHeader.lsaKey
    else list

def AddToRequestList (list : List OSPFLSAHeader) (lsaHeader : OSPFLSAHeader) : List OSPFLSAHeader :=
  list ++ [lsaHeader]

def RemoveFromRequestList (list : List OSPFLSAHeader) (lsaKey : LSAKeyType) : List OSPFLSAHeader :=
  list.filter fun lsaHeader => lsaHeader.lsaKey ≠ lsaKey

def FindOnRequestList (list : List OSPFLSAHeader) (lsaKey : LSAKeyType) : Option OSPFLSAHeader :=
  list.find? fun lsaHeader => lsaHeader.lsaKey = lsaKey

/-! ## Entries of other types -/

/-- The entries for LSAs of the other types. -/
def ofOtherTypes (lsType : LSAType) (list : List OSPFLSAHeader) : List OSPFLSAHeader :=
  list.filter fun lsa => lsa.lsType ≠ lsType

section OtherTypes

theorem ofOtherTypes_cons_same (same : first.lsType = lsType) :
    ofOtherTypes lsType (first :: list) = ofOtherTypes lsType list :=
  List.filter_cons_of_neg (by simpa using same)

theorem ofOtherTypes_cons_other (other : first.lsType ≠ lsType) :
    ofOtherTypes lsType (first :: list) = first :: ofOtherTypes lsType list :=
  List.filter_cons_of_pos (by simpa using other)

/-- Removing a key spares the other types unless one of them has the key. -/
theorem ofOtherTypes_remove_iff :
    ofOtherTypes lsType (RemoveFromRetransmissionList list lsaKey) = ofOtherTypes lsType list ↔
      ∀ lsa ∈ list, lsa.lsaKey = lsaKey → lsa.lsType = lsType := by
  unfold ofOtherTypes RemoveFromRetransmissionList
  rw [List.filter_comm, List.filter_eq_self]
  constructor
  · intro kept _ member same
    by_contra other
    have differs := kept _ (List.mem_filter.mpr ⟨member, by simpa using other⟩)
    exact absurd same (by simpa using differs)
  · intro spared lsa member
    rcases List.mem_filter.mp member with ⟨onList, other⟩
    have different : ¬lsa.lsaKey = lsaKey := fun same =>
      absurd (spared _ onList same) (by simpa using other)
    simpa using different

/-- Adding an LSA spares the other types unless it replaces one of them. -/
theorem ofOtherTypes_add_iff :
    ofOtherTypes lsa.lsType (AddToRetransmissionList list lsa) = ofOtherTypes lsa.lsType list ↔
      ∀ entry, FindOnRetransmissionList list lsa.lsaKey = some entry →
        entry.lsType = lsa.lsType := by
  induction list with
  | nil =>
    constructor
    · intro _ _ found
      cases found
    · intro _
      exact ofOtherTypes_cons_same rfl
  | cons first _ induction =>
    unfold AddToRetransmissionList FindOnRetransmissionList
    by_cases same : first.lsaKey = lsa.lsaKey
    · rw [if_pos same, List.find?_cons_of_pos (by simpa using same), ofOtherTypes_cons_same rfl]
      by_cases type : first.lsType = lsa.lsType
      · rw [ofOtherTypes_cons_same type]
        constructor
        · rintro _ _ ⟨⟩
          exact type
        · intro _
          rfl
      · rw [ofOtherTypes_cons_other type]
        constructor
        · intro shorter
          have lengths := congrArg List.length shorter
          exact absurd lengths (Nat.ne_of_lt (Nat.lt_succ_self _))
        · intro spared
          exact absurd (spared _ rfl) type
    · rw [if_neg same, List.find?_cons_of_neg (by simpa using same)]
      by_cases type : first.lsType = lsa.lsType
      · rwa [ofOtherTypes_cons_same type, ofOtherTypes_cons_same type]
      · rwa [ofOtherTypes_cons_other type, ofOtherTypes_cons_other type, List.cons_inj_right]

theorem ofOtherTypes_acknowledge_iff :
    ofOtherTypes lsaHeader.lsType (processAcknowledgement list lsaHeader) =
        ofOtherTypes lsaHeader.lsType list ↔
      ∀ entry, FindOnRetransmissionList list lsaHeader.lsaKey = some entry →
        operatorEqual lsaHeader entry = true →
          ∀ lsa ∈ list, lsa.lsaKey = lsaHeader.lsaKey → lsa.lsType = lsaHeader.lsType := by
  unfold processAcknowledgement
  cases found : FindOnRetransmissionList list lsaHeader.lsaKey with
  | none => exact ⟨fun _ _ => nofun, fun _ => rfl⟩
  | some _ =>
    dsimp only
    split_ifs with equal
    · rw [ofOtherTypes_remove_iff]
      constructor
      · rintro spared _ ⟨⟩ _
        exact spared
      · intro spared
        exact spared _ rfl equal
    · constructor
      · rintro _ _ ⟨⟩ same
        exact absurd same equal
      · intro _
        rfl

theorem ofOtherTypes_request (lsaHeader : OSPFLSAHeader) :
    ofOtherTypes lsaHeader.lsType (AddToRequestList list lsaHeader) =
      ofOtherTypes lsaHeader.lsType list := by
  unfold ofOtherTypes AddToRequestList
  rw [List.filter_append, List.filter_cons_of_neg (by simp), List.filter_nil, List.append_nil]

end OtherTypes

end OmnetDsi.Ospf.NeighborLists
