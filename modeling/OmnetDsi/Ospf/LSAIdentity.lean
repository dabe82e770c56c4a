import OmnetDsi.Ospf.NeighborLists

/-!
# The identity of an LSA

An LSA is identified by its type, its link-state id and its advertising
router.  The database of an area files router and network LSAs under the
link-state id alone, and both kinds of summary LSAs in one map under the key
of the lists.  The lists of a neighbour know no types at all.

For each operation there is an exact condition under which it does not touch
an LSA of another identity: nothing else is filed under the index of the LSA,
and no entry of another type has its key.  An AS-external LSA also makes the
router flush an equivalent LSA of its own, on purpose.
-/

namespace OmnetDsi.Ospf.LSAIdentity

open Ospf.LSAHeaders Ospf.NeighborLists
open OmnetDsi.Ospf.ShortestPathTree (MAX_AGE)

/-! ## The database -/

/-- The contents are those of an AS-external LSA; other contents are left out. -/
structure OSPFLSA where
  header : OSPFLSAHeader
  e_ExternalMetricType : Bool := false
  routeCost : Nat := 1
  forwardingAddress : Nat := 0

structure StoredLSA where
  lsa : OSPFLSA
  installTime : Nat := 0

def IsSummary : LSAType → Bool
  | .summaryLSA_NetworksType | .summaryLSA_ASBoundaryRoutersType => true
  | _ => false

/-- A `std::map` in which every LSA is of a kind and filed under its index. -/
structure LSAMap {Key : Type} (index : OSPFLSAHeader → Key) (kind : LSAType → Bool) where
  find : Key → Option StoredLSA
  kinds : ∀ key stored, find key = some stored → kind stored.lsa.header.lsType = true
  filed : ∀ key stored, find key = some stored → index stored.lsa.header = key

namespace LSAMap

variable [DecidableEq Key]
variable {index : OSPFLSAHeader → Key}

/-- A new copy, or an `Update` of the one that is there. -/
def install (map : LSAMap index kind) (stored : StoredLSA)
    (known : kind stored.lsa.header.lsType = true) : LSAMap index kind where
  find := Function.update map.find (index stored.lsa.header) (some stored)
  kinds key other found := by
    by_cases same : key = index stored.lsa.header
    · rw [same, Function.update_self] at found
      cases found
      exact known
    · rw [Function.update_of_ne same] at found
      exact map.kinds key other found
  filed key other found := by
    by_cases same : key = index stored.lsa.header
    · rw [same, Function.update_self] at found
      cases found
      exact same.symm
    · rw [Function.update_of_ne same] at found
      exact map.filed key other found

end LSAMap

/-- The database of an area, with the AS-external LSAs of the router. -/
structure Database where
  routerLSAsByID : LSAMap OSPFLSAHeader.linkStateID (· == .routerLSAType)
  networkLSAsByID : LSAMap OSPFLSAHeader.linkStateID (· == .networkLSAType)
  summaryLSAsByID : LSAMap OSPFLSAHeader.lsaKey IsSummary
  asExternalLSAsByID : LSAMap OSPFLSAHeader.lsaKey (· == .asExternalLSAType)

def FindLSA (database : Database) (lsaType : LSAType) (lsaKey : LSAKeyType) : Option StoredLSA :=
  match lsaType with
  | .routerLSAType => database.routerLSAsByID.find lsaKey.linkStateID
  | .networkLSAType => database.networkLSAsByID.find lsaKey.linkStateID
  | .summaryLSA_NetworksType | .summaryLSA_ASBoundaryRoutersType =>
    database.summaryLSAsByID.find lsaKey
  | .asExternalLSAType => database.asExternalLSAsByID.find lsaKey

/-- What `InstallASExternalLSA` knows of the router. -/
structure Router where
  routerID : Nat
  /-- The routing table has an entry for the advertising router. -/
  reachable : Nat → Bool

/-- The database and the lists of one neighbour. -/
structure State where
  database : Database
  linkStateRetransmissionList : List OSPFLSAHeader
  linkStateRequestList : List OSPFLSAHeader

/-- The copy of the database is created or updated. -/
def storeLSA (database : Database) (stored : StoredLSA) : Database :=
  match type : stored.lsa.header.lsType with
  | .routerLSAType =>
    { database with routerLSAsByID := database.routerLSAsByID.install stored (by rw [type]; rfl) }
  | .networkLSAType =>
    { database with networkLSAsByID := database.networkLSAsByID.install stored (by rw [type]; rfl) }
  | .summaryLSA_NetworksType =>
    { database with summaryLSAsByID := database.summaryLSAsByID.install stored (by rw [type]; rfl) }
  | .summaryLSA_ASBoundaryRoutersType =>
    { database with summaryLSAsByID := database.summaryLSAsByID.install stored (by rw [type]; rfl) }
  | .asExternalLSAType =>
    { database with
      asExternalLSAsByID := database.asExternalLSAsByID.install stored (by rw [type]; rfl) }

/-- The LSA of the router itself that an AS-external LSA may replace. -/
def ownKey (router : Router) (lsa : OSPFLSA) : LSAKeyType where
  linkStateID := lsa.header.linkStateID
  advertisingRouter := router.routerID

/-- The router's own LSA is functionally equivalent. -/
def equivalentLSA (router : Router) (database : Database) (lsa : OSPFLSA) : Option StoredLSA :=
  (database.asExternalLSAsByID.find (ownKey router lsa)).filter fun own =>
    router.reachable lsa.header.advertisingRouter ∧
      own.lsa.e_ExternalMetricType = lsa.e_ExternalMetricType ∧
      own.lsa.routeCost = lsa.routeCost ∧ lsa.forwardingAddress ≠ 0 ∧
      own.lsa.forwardingAddress = lsa.forwardingAddress

/-- A copy is created or updated, which leaves the lists if it was there. -/
def installCopy (state : State) (lsa : OSPFLSA) : State where
  database := storeLSA state.database { lsa }
  linkStateRetransmissionList :=
    match FindLSA state.database lsa.header.lsType lsa.header.lsaKey with
    | some _ => RemoveFromRetransmissionList state.linkStateRetransmissionList lsa.header.lsaKey
    | none => state.linkStateRetransmissionList
  linkStateRequestList := state.linkStateRequestList

/-- The LSA with the age `MAX_AGE`; it is flooded as a step of its own. -/
def flush (own : StoredLSA) : StoredLSA where
  lsa := { own.lsa with header := { own.lsa.header with lsAge := MAX_AGE } }
  installTime := own.installTime + 1

def InstallASExternalLSA (router : Router) (state : State) (lsa : OSPFLSA) : State :=
  match equivalentLSA router state.database lsa with
  | some own =>
    if router.routerID > lsa.header.advertisingRouter then state
    else installCopy { state with database := storeLSA state.database (flush own) } lsa
  | none => installCopy state lsa

def InstallLSA (router : Router) (state : State) (lsa : OSPFLSA) : State :=
  match lsa.header.lsType with
  | .asExternalLSAType => InstallASExternalLSA router state lsa
  | _ => installCopy state lsa

/-! ## Operations -/

/-- Operations on behalf of an LSA; a removal is for an LSA of the type. -/
inductive Operation where
  | findLSA (lsaType : LSAType) (lsaKey : LSAKeyType)
  | installLSA (lsa : OSPFLSA)
  | addToRetransmissionList (lsa : OSPFLSAHeader)
  | acknowledge (lsaHeader : OSPFLSAHeader)
  | removeFromRetransmissionList (lsaType : LSAType) (lsaKey : LSAKeyType)
  | addToRequestList (lsaHeader : OSPFLSAHeader)
  | removeFromRequestList (lsaType : LSAType) (lsaKey : LSAKeyType)

def Operation.lsaType : Operation → LSAType
  | .findLSA lsaType _ => lsaType
  | .installLSA lsa => lsa.header.lsType
  | .addToRetransmissionList lsa => lsa.lsType
  | .acknowledge lsaHeader => lsaHeader.lsType
  | .removeFromRetransmissionList lsaType _ => lsaType
  | .addToRequestList lsaHeader => lsaHeader.lsType
  | .removeFromRequestList lsaType _ => lsaType

def Operation.lsaKey : Operation → LSAKeyType
  | .findLSA _ lsaKey => lsaKey
  | .installLSA lsa => lsa.header.lsaKey
  | .addToRetransmissionList lsa => lsa.lsaKey
  | .acknowledge lsaHeader => lsaHeader.lsaKey
  | .removeFromRetransmissionList _ lsaKey => lsaKey
  | .addToRequestList lsaHeader => lsaHeader.lsaKey
  | .removeFromRequestList _ lsaKey => lsaKey

def perform (router : Router) (state : State) : Operation → State
  | .findLSA _ _ => state
  | .installLSA lsa => InstallLSA router state lsa
  | .addToRetransmissionList lsa =>
    { state with
      linkStateRetransmissionList := AddToRetransmissionList state.linkStateRetransmissionList lsa }
  | .acknowledge lsaHeader =>
    { state with
      linkStateRetransmissionList :=
        processAcknowledgement state.linkStateRetransmissionList lsaHeader }
  | .removeFromRetransmissionList _ lsaKey =>
    { state with
      linkStateRetransmissionList :=
        RemoveFromRetransmissionList state.linkStateRetransmissionList lsaKey }
  | .addToRequestList lsaHeader =>
    { state with linkStateRequestList := AddToRequestList state.linkStateRequestList lsaHeader }
  | .removeFromRequestList _ lsaKey =>
    { state with linkStateRequestList := RemoveFromRequestList state.linkStateRequestList lsaKey }

/-- The copy in the database of the LSA with this identity. -/
def databaseCopy (database : Database) (lsaType : LSAType)
    (lsaKey : LSAKeyType) : Option StoredLSA :=
  (FindLSA database lsaType lsaKey).filter fun stored =>
    stored.lsa.header.lsType = lsaType ∧ stored.lsa.header.lsaKey = lsaKey

/-- The operation has to do with no LSA of another identity. -/
structure KeepsApart (router : Router) (state : State) (operation : Operation) : Prop where
  found :
    ∀ lsaType lsaKey stored, operation = .findLSA lsaType lsaKey →
      FindLSA state.database lsaType lsaKey = some stored →
        stored.lsa.header.lsType = lsaType ∧ stored.lsa.header.lsaKey = lsaKey
  copies :
    ∀ lsaType lsaKey,
      ¬(lsaType = operation.lsaType ∧ lsaKey = operation.lsaKey) →
        databaseCopy (perform router state operation).database lsaType lsaKey =
          databaseCopy state.database lsaType lsaKey
  retransmissions :
    ofOtherTypes operation.lsaType (perform router state operation).linkStateRetransmissionList =
      ofOtherTypes operation.lsaType state.linkStateRetransmissionList
  requests :
    ofOtherTypes operation.lsaType (perform router state operation).linkStateRequestList =
      ofOtherTypes operation.lsaType state.linkStateRequestList

/-! ## What is filed together -/

/-- The LSA is filed where one of the type with the key would be. -/
def SameIndex (lsaType : LSAType) (lsaKey : LSAKeyType) (header : OSPFLSAHeader) : Prop :=
  match lsaType with
  | .routerLSAType | .networkLSAType =>
    header.lsType = lsaType ∧ header.linkStateID = lsaKey.linkStateID
  | .summaryLSA_NetworksType | .summaryLSA_ASBoundaryRoutersType =>
    IsSummary header.lsType = true ∧ header.lsaKey = lsaKey
  | .asExternalLSAType => header.lsType = lsaType ∧ header.lsaKey = lsaKey

instance (lsaType : LSAType) (lsaKey : LSAKeyType) (header : OSPFLSAHeader) :
    Decidable (SameIndex lsaType lsaKey header) := by
  unfold SameIndex
  cases lsaType with
  | _ => infer_instance

/-- The LSA is in one of the maps of the database. -/
inductive Stored (database : Database) (stored : StoredLSA) : Prop where
  | router {linkStateID : Nat} (found : database.routerLSAsByID.find linkStateID = some stored)
  | network {linkStateID : Nat} (found : database.networkLSAsByID.find linkStateID = some stored)
  | summary {lsaKey : LSAKeyType} (found : database.summaryLSAsByID.find lsaKey = some stored)
  | asExternal {lsaKey : LSAKeyType} (found : database.asExternalLSAsByID.find lsaKey = some stored)

section Filing

theorem sameIndex_self (header : OSPFLSAHeader) : SameIndex header.lsType header.lsaKey header := by
  unfold SameIndex
  cases header.lsType with
  | _ => exact ⟨rfl, rfl⟩

theorem SameIndex.trans
    (one : SameIndex lsaType lsaKey header) (two : SameIndex lsaType lsaKey other) :
    SameIndex header.lsType header.lsaKey other := by
  cases lsaType with
  | routerLSAType | networkLSAType =>
    rw [one.1]
    exact ⟨two.1, two.2.trans one.2.symm⟩
  | asExternalLSAType =>
    rw [one.1]
    exact ⟨two.1, two.2.trans one.2.symm⟩
  | summaryLSA_NetworksType | summaryLSA_ASBoundaryRoutersType =>
    rcases one with ⟨summary, key⟩
    cases type : header.lsType with
    | summaryLSA_NetworksType | summaryLSA_ASBoundaryRoutersType =>
      exact ⟨two.1, two.2.trans key.symm⟩
    | _ =>
      rw [type] at summary
      cases summary

theorem FindLSA_eq_some_iff :
    FindLSA database lsaType lsaKey = some stored ↔
      Stored database stored ∧ SameIndex lsaType lsaKey stored.lsa.header := by
  constructor
  · intro found
    cases lsaType with
    | routerLSAType =>
      have kind := database.routerLSAsByID.kinds _ _ found
      exact ⟨.router found, eq_of_beq kind, database.routerLSAsByID.filed _ _ found⟩
    | networkLSAType =>
      have kind := database.networkLSAsByID.kinds _ _ found
      exact ⟨.network found, eq_of_beq kind, database.networkLSAsByID.filed _ _ found⟩
    | summaryLSA_NetworksType | summaryLSA_ASBoundaryRoutersType =>
      exact ⟨.summary found, database.summaryLSAsByID.kinds _ _ found,
        database.summaryLSAsByID.filed _ _ found⟩
    | asExternalLSAType =>
      have kind := database.asExternalLSAsByID.kinds _ _ found
      exact ⟨.asExternal found, eq_of_beq kind, database.asExternalLSAsByID.filed _ _ found⟩
  · rintro ⟨inMap, index⟩
    cases inMap with
    | router found =>
      have kind := eq_of_beq (database.routerLSAsByID.kinds _ _ found)
      have key := database.routerLSAsByID.filed _ _ found
      cases lsaType with
      | routerLSAType =>
        rwa [FindLSA, ← index.2, key]
      | _ =>
        rw [SameIndex, kind] at index
        cases index.1
    | network found =>
      have kind := eq_of_beq (database.networkLSAsByID.kinds _ _ found)
      have key := database.networkLSAsByID.filed _ _ found
      cases lsaType with
      | networkLSAType =>
        rwa [FindLSA, ← index.2, key]
      | _ =>
        rw [SameIndex, kind] at index
        cases index.1
    | summary found =>
      have kind := database.summaryLSAsByID.kinds _ _ found
      have key := database.summaryLSAsByID.filed _ _ found
      cases lsaType with
      | summaryLSA_NetworksType | summaryLSA_ASBoundaryRoutersType =>
        rwa [FindLSA, ← index.2, key]
      | _ =>
        rw [index.1] at kind
        cases kind
    | asExternal found =>
      have kind := eq_of_beq (database.asExternalLSAsByID.kinds _ _ found)
      have key := database.asExternalLSAsByID.filed _ _ found
      cases lsaType with
      | asExternalLSAType =>
        rwa [FindLSA, ← index.2, key]
      | _ =>
        rw [SameIndex, kind] at index
        cases index.1

theorem LSAMap.find_install [DecidableEq Key]
    (map : LSAMap index kind) (known : kind stored.lsa.header.lsType = true) (key : Key) :
    (map.install stored known).find key =
      if index stored.lsa.header = key then some stored else map.find key := by
  change Function.update map.find (index stored.lsa.header) (some stored) key = _
  rw [Function.update_apply]
  simp only [eq_comm]

theorem FindLSA_storeLSA (database : Database) (stored : StoredLSA)
    (lsaType : LSAType) (lsaKey : LSAKeyType) :
    FindLSA (storeLSA database stored) lsaType lsaKey =
      if SameIndex lsaType lsaKey stored.lsa.header then some stored
      else
        FindLSA database lsaType lsaKey := by
  unfold storeLSA
  split
  all_goals
    rename_i type
    cases lsaType with
    | _ => simp [FindLSA, SameIndex, type, LSAMap.find_install, IsSummary]

end Filing

/-! ## When LSAs are confused -/

/-- Another LSA is filed where one of the type with the key would be. -/
def Clashes (database : Database) (lsaType : LSAType) (lsaKey : LSAKeyType) : Prop :=
  ∃ other, Stored database other ∧
    SameIndex lsaType lsaKey other.lsa.header ∧
      ¬(other.lsa.header.lsType = lsaType ∧ other.lsa.header.lsaKey = lsaKey)

/-- An LSA is filed where one of the type with the key would be. -/
def Known (database : Database) (lsaType : LSAType) (lsaKey : LSAKeyType) : Prop :=
  ∃ stored, Stored database stored ∧ SameIndex lsaType lsaKey stored.lsa.header

/-- An entry of another type has the key. -/
def SharesKey (list : List OSPFLSAHeader) (lsaType : LSAType) (lsaKey : LSAKeyType) : Prop :=
  ∃ entry ∈ list, entry.lsaKey = lsaKey ∧ entry.lsType ≠ lsaType

/-- An equivalent LSA of the router itself is kept. -/
def Declines (router : Router) (state : State) (lsa : OSPFLSA) : Prop :=
  lsa.header.lsType = .asExternalLSAType ∧
    equivalentLSA router state.database lsa ≠ none ∧ router.routerID > lsa.header.advertisingRouter

/-- An equivalent LSA of the router itself is flushed. -/
def FlushesOwn (router : Router) (state : State) (lsa : OSPFLSA) : Prop :=
  lsa.header.lsType = .asExternalLSAType ∧
    equivalentLSA router state.database lsa ≠ none ∧ router.routerID < lsa.header.advertisingRouter

/-- The operation meets an LSA of another identity. -/
def Confuses (router : Router) (state : State) : Operation → Prop
  | .findLSA lsaType lsaKey => Clashes state.database lsaType lsaKey
  | .installLSA lsa =>
    ¬Declines router state lsa ∧
      (Clashes state.database lsa.header.lsType lsa.header.lsaKey ∨
        Known state.database lsa.header.lsType lsa.header.lsaKey ∧
          SharesKey state.linkStateRetransmissionList lsa.header.lsType lsa.header.lsaKey ∨
        FlushesOwn router state lsa)
  | .addToRetransmissionList lsa =>
    ∃ entry,
      FindOnRetransmissionList state.linkStateRetransmissionList lsa.lsaKey = some entry ∧
        entry.lsType ≠ lsa.lsType
  | .acknowledge lsaHeader =>
    (∃ entry,
      FindOnRetransmissionList state.linkStateRetransmissionList lsaHeader.lsaKey = some entry ∧
        operatorEqual lsaHeader entry = true) ∧
      SharesKey state.linkStateRetransmissionList lsaHeader.lsType lsaHeader.lsaKey
  | .removeFromRetransmissionList lsaType lsaKey =>
    SharesKey state.linkStateRetransmissionList lsaType lsaKey
  | .addToRequestList _ => False
  | .removeFromRequestList lsaType lsaKey => SharesKey state.linkStateRequestList lsaType lsaKey

section Confusion

variable {state : State}

theorem not_sharesKey_iff :
    ¬SharesKey list lsaType lsaKey ↔
      ∀ entry ∈ list, entry.lsaKey = lsaKey → entry.lsType = lsaType := by
  unfold SharesKey
  push Not
  rfl

theorem databaseCopy_eq_some_iff :
    databaseCopy database lsaType lsaKey = some stored ↔
      FindLSA database lsaType lsaKey = some stored ∧
        stored.lsa.header.lsType = lsaType ∧ stored.lsa.header.lsaKey = lsaKey := by
  rw [databaseCopy, Option.filter_eq_some_iff, decide_eq_true_eq]

/-- Storing an LSA leaves the other identities alone unless it clashes. -/
theorem storeLSA_copies_iff (database : Database) (stored : StoredLSA) :
    (∀ lsaType lsaKey, ¬(lsaType = stored.lsa.header.lsType ∧ lsaKey = stored.lsa.header.lsaKey) →
        databaseCopy (storeLSA database stored) lsaType lsaKey =
          databaseCopy database lsaType lsaKey) ↔
      ¬Clashes database stored.lsa.header.lsType stored.lsa.header.lsaKey := by
  constructor
  · rintro kept ⟨other, inMap, index, differs⟩
    have back : SameIndex other.lsa.header.lsType other.lsa.header.lsaKey stored.lsa.header :=
      index.trans (sameIndex_self stored.lsa.header)
    have before :
        databaseCopy database other.lsa.header.lsType other.lsa.header.lsaKey = some other :=
      databaseCopy_eq_some_iff.mpr
        ⟨FindLSA_eq_some_iff.mpr ⟨inMap, sameIndex_self other.lsa.header⟩, rfl, rfl⟩
    have after := (kept _ _ differs).trans before
    rw [databaseCopy_eq_some_iff, FindLSA_storeLSA, if_pos back] at after
    rcases after with ⟨same, _⟩
    cases same
    exact differs ⟨rfl, rfl⟩
  · intro apart lsaType lsaKey differs
    unfold databaseCopy
    rw [FindLSA_storeLSA]
    split_ifs with index
    · have after :
          (some stored).filter (fun copy =>
            copy.lsa.header.lsType = lsaType ∧ copy.lsa.header.lsaKey = lsaKey) = none := by
        rw [Option.filter_eq_none_iff]
        rintro _ ⟨⟩
        rw [decide_eq_true_eq]
        rintro ⟨rfl, rfl⟩
        exact differs ⟨rfl, rfl⟩
      have before :
          (FindLSA database lsaType lsaKey).filter (fun copy =>
            copy.lsa.header.lsType = lsaType ∧ copy.lsa.header.lsaKey = lsaKey) = none := by
        rw [Option.filter_eq_none_iff]
        intro other found
        rw [decide_eq_true_eq]
        rintro ⟨rfl, rfl⟩
        have inMap := (FindLSA_eq_some_iff.mp found).1
        exact apart ⟨other, inMap, index.trans (sameIndex_self _), differs⟩
      rw [after, before]
    · rfl

theorem installCopy_list (state : State) (lsa : OSPFLSA) :
    ofOtherTypes lsa.header.lsType (installCopy state lsa).linkStateRetransmissionList =
        ofOtherTypes lsa.header.lsType state.linkStateRetransmissionList ↔
      ¬(Known state.database lsa.header.lsType lsa.header.lsaKey ∧
        SharesKey state.linkStateRetransmissionList lsa.header.lsType lsa.header.lsaKey) := by
  unfold installCopy
  cases found : FindLSA state.database lsa.header.lsType lsa.header.lsaKey with
  | none =>
    constructor
    · rintro _ ⟨⟨stored, inMap, index⟩, _⟩
      have there := FindLSA_eq_some_iff.mpr ⟨inMap, index⟩
      rw [found] at there
      cases there
    · intro _
      rfl
  | some stored =>
    have known : Known state.database lsa.header.lsType lsa.header.lsaKey :=
      ⟨stored, FindLSA_eq_some_iff.mp found⟩
    rw [ofOtherTypes_remove_iff, ← not_sharesKey_iff]
    constructor
    · rintro apart ⟨_, shares⟩
      exact apart shares
    · intro apart shares
      exact apart ⟨known, shares⟩

theorem not_clashes_asExternal (database : Database) (lsaKey : LSAKeyType) :
    ¬Clashes database .asExternalLSAType lsaKey := by
  rintro ⟨_, _, same, differs⟩
  exact differs same

theorem own_of_equivalentLSA (equivalent : equivalentLSA router state.database lsa = some own) :
    FindLSA state.database .asExternalLSAType (ownKey router lsa) = some own ∧
      own.lsa.header.lsType = .asExternalLSAType ∧ own.lsa.header.lsaKey = ownKey router lsa := by
  have found : FindLSA state.database .asExternalLSAType (ownKey router lsa) = some own :=
    (Option.filter_eq_some_iff.mp equivalent).1
  exact ⟨found, (FindLSA_eq_some_iff.mp found).2⟩

theorem flush_changes (equivalent : equivalentLSA router state.database lsa = some own)
    (other : router.routerID ≠ lsa.header.advertisingRouter) :
    databaseCopy (storeLSA (storeLSA state.database (flush own)) { lsa })
        .asExternalLSAType (ownKey router lsa) ≠
      databaseCopy state.database .asExternalLSAType (ownKey router lsa) := by
  rcases own_of_equivalentLSA equivalent with ⟨found, type, key⟩
  have before : databaseCopy state.database .asExternalLSAType (ownKey router lsa) = some own :=
    databaseCopy_eq_some_iff.mpr ⟨found, type, key⟩
  have elsewhere : ¬SameIndex .asExternalLSAType (ownKey router lsa) lsa.header := by
    rintro ⟨_, same⟩
    exact other (congrArg LSAKeyType.advertisingRouter same).symm
  have there : SameIndex .asExternalLSAType (ownKey router lsa) (flush own).lsa.header :=
    ⟨type, key⟩
  have after :
      databaseCopy (storeLSA (storeLSA state.database (flush own)) { lsa })
        .asExternalLSAType (ownKey router lsa) = some (flush own) := by
    rw [databaseCopy_eq_some_iff, FindLSA_storeLSA, if_neg elsewhere,
      FindLSA_storeLSA, if_pos there]
    exact ⟨rfl, type, key⟩
  rw [before, after]
  intro same
  have times := congrArg StoredLSA.installTime (Option.some.inj same)
  exact absurd times (Nat.ne_of_gt (Nat.lt_succ_self _))

/-- The copies and the entries on the retransmission list stay apart. -/
def InstallsApart (router : Router) (state : State) (lsa : OSPFLSA) : Prop :=
  (∀ lsaType lsaKey,
      ¬(lsaType = lsa.header.lsType ∧ lsaKey = lsa.header.lsaKey) →
        databaseCopy (InstallLSA router state lsa).database lsaType lsaKey =
          databaseCopy state.database lsaType lsaKey) ∧
    ofOtherTypes lsa.header.lsType (InstallLSA router state lsa).linkStateRetransmissionList =
      ofOtherTypes lsa.header.lsType state.linkStateRetransmissionList

theorem installsApart_of_installCopy (copies : InstallLSA router state lsa = installCopy state lsa)
    (declines : ¬Declines router state lsa) (flushes : ¬FlushesOwn router state lsa) :
    InstallsApart router state lsa ↔ ¬Confuses router state (.installLSA lsa) := by
  have database :
      (∀ lsaType lsaKey,
          ¬(lsaType = lsa.header.lsType ∧ lsaKey = lsa.header.lsaKey) →
            databaseCopy (installCopy state lsa).database lsaType lsaKey =
              databaseCopy state.database lsaType lsaKey) ↔
        ¬Clashes state.database lsa.header.lsType lsa.header.lsaKey :=
    storeLSA_copies_iff state.database { lsa }
  have list := installCopy_list state lsa
  rw [InstallsApart, Confuses, copies, list]
  constructor
  · rintro ⟨kept, unshared⟩ ⟨_, clashes | shares | flushed⟩
    · exact database.mp kept clashes
    · exact unshared shares
    · exact flushes flushed
  · intro apart
    constructor
    · exact database.mpr fun clashes => apart ⟨declines, .inl clashes⟩
    · exact fun shares => apart ⟨declines, .inr (.inl shares)⟩

theorem known_of_FindLSA
    (found : FindLSA database lsaType lsaKey = some stored) : Known database lsaType lsaKey :=
  ⟨stored, FindLSA_eq_some_iff.mp found⟩

theorem installsApart_equivalent (type : lsa.header.lsType = .asExternalLSAType)
    (equivalent : equivalentLSA router state.database lsa = some own) :
    InstallsApart router state lsa ↔ ¬Confuses router state (.installLSA lsa) := by
  have exists_own : equivalentLSA router state.database lsa ≠ none := by
    rw [equivalent]
    exact Option.some_ne_none _
  have installs :
      InstallLSA router state lsa = if router.routerID > lsa.header.advertisingRouter then state
        else
          installCopy
            { state with
              database := storeLSA state.database (flush own) } lsa := by
    rw [InstallLSA, type, InstallASExternalLSA, equivalent]
  rcases Nat.lt_trichotomy router.routerID lsa.header.advertisingRouter with
    flushes | mine | declines
  · constructor
    · rintro ⟨kept, _⟩
      rw [installs, if_neg flushes.not_gt] at kept
      have differs :
          ¬(LSAType.asExternalLSAType = lsa.header.lsType ∧
            ownKey router lsa = lsa.header.lsaKey) := by
        rintro ⟨_, same⟩
        exact flushes.ne (congrArg LSAKeyType.advertisingRouter same)
      exact absurd (kept _ _ differs) (flush_changes equivalent flushes.ne)
    · intro apart
      refine absurd ⟨?_, .inr (.inr ⟨type, exists_own, flushes⟩)⟩ apart
      intro declines
      exact declines.2.2.not_gt flushes
  · have key : ownKey router lsa = lsa.header.lsaKey := by
      rw [ownKey, OSPFLSAHeader.lsaKey, mine]
    rcases own_of_equivalentLSA equivalent with ⟨found, ownType, same⟩
    have unclashed (database : Database) (stored : StoredLSA)
        (external : stored.lsa.header.lsType = .asExternalLSAType) :
        ¬Clashes database stored.lsa.header.lsType stored.lsa.header.lsaKey := by
      rw [external]
      exact not_clashes_asExternal _ _
    have flushed := (storeLSA_copies_iff state.database (flush _)).mpr (unclashed _ _ ownType)
    have stored :=
      (storeLSA_copies_iff (storeLSA state.database (flush own)) { lsa }).mpr (unclashed _ _ type)
    have list := installCopy_list { state with database := storeLSA state.database (flush own) } lsa
    have before : Known state.database lsa.header.lsType lsa.header.lsaKey := by
      rw [type, ← key]
      exact known_of_FindLSA found
    have after :
        Known (storeLSA state.database (flush own)) lsa.header.lsType lsa.header.lsaKey := by
      have index : SameIndex lsa.header.lsType lsa.header.lsaKey (flush own).lsa.header := by
        rw [type, ← key]
        exact ⟨ownType, same⟩
      exact known_of_FindLSA ((FindLSA_storeLSA _ (flush own) _ _).trans (if_pos index))
    rw [InstallsApart, Confuses, installs, if_neg mine.le.not_gt, list]
    constructor
    · rintro ⟨_, unshared⟩ ⟨_, clashes | shares | flushes⟩
      · rw [type] at clashes
        exact not_clashes_asExternal _ _ clashes
      · exact unshared ⟨after, shares.2⟩
      · exact flushes.2.2.ne mine
    · intro apart
      constructor
      · intro lsaType lsaKey differs
        refine (stored lsaType lsaKey differs).trans (flushed lsaType lsaKey ?_)
        rintro ⟨rfl, rfl⟩
        exact differs ⟨ownType.trans type.symm, same.trans key⟩
      · intro shares
        exact apart ⟨fun declines => declines.2.2.ne mine.symm, .inr (.inl ⟨before, shares.2⟩)⟩
  · constructor
    · intro _ confuses
      exact confuses.1 ⟨type, exists_own, declines⟩
    · intro _
      rw [InstallsApart, installs, if_pos declines]
      exact ⟨fun _ _ _ => rfl, rfl⟩

theorem installsApart_iff (lsa : OSPFLSA) :
    InstallsApart router state lsa ↔ ¬Confuses router state (.installLSA lsa) := by
  by_cases type : lsa.header.lsType = .asExternalLSAType
  · cases equivalent : equivalentLSA router state.database lsa with
    | none =>
      have copies : InstallLSA router state lsa = installCopy state lsa := by
        rw [InstallLSA, type, InstallASExternalLSA, equivalent]
      exact installsApart_of_installCopy copies (fun declines => declines.2.1 equivalent)
        (fun flushes => flushes.2.1 equivalent)
    | some _ => exact installsApart_equivalent type equivalent
  · have copies : InstallLSA router state lsa = installCopy state lsa := by
      unfold InstallLSA
      cases known : lsa.header.lsType with
      | asExternalLSAType => exact absurd known type
      | _ => rfl
    exact installsApart_of_installCopy copies (fun declines => type declines.1)
      (fun flushes => type flushes.1)

theorem installLSA_requests (lsa : OSPFLSA) :
    (InstallLSA router state lsa).linkStateRequestList = state.linkStateRequestList := by
  unfold InstallLSA InstallASExternalLSA
  split
  · split
    · split_ifs
      · rfl
      · rfl
    · rfl
  · rfl

theorem keepsApart_of_lists (finds : ∀ lsaType lsaKey, operation ≠ .findLSA lsaType lsaKey)
    (database : (perform router state operation).database = state.database)
    (lists :
      (ofOtherTypes operation.lsaType (perform router state operation).linkStateRetransmissionList =
            ofOtherTypes operation.lsaType state.linkStateRetransmissionList ∧
          ofOtherTypes operation.lsaType (perform router state operation).linkStateRequestList =
            ofOtherTypes operation.lsaType state.linkStateRequestList) ↔
        ¬condition) :
    KeepsApart router state operation ↔ ¬condition := by
  rw [← lists]
  constructor
  · intro apart
    exact ⟨apart.retransmissions, apart.requests⟩
  · rintro ⟨retransmissions, requests⟩
    exact
      { found := fun lsaType lsaKey _ same =>
          absurd same (finds _ _)
        copies := fun _ _ _ => by rw [database]
        retransmissions
        requests }

/--
An operation on behalf of an LSA has to do with no LSA of another identity
exactly when it meets none.
-/
theorem keepsApart_iff (router : Router) (state : State) (operation : Operation) :
    KeepsApart router state operation ↔ ¬Confuses router state operation := by
  cases operation with
  | findLSA _ _ =>
    constructor
    · rintro apart ⟨_, inMap, index, differs⟩
      exact differs (apart.found _ _ _ rfl (FindLSA_eq_some_iff.mpr ⟨inMap, index⟩))
    · intro apart
      refine ⟨?_, fun _ _ _ => rfl, rfl, rfl⟩
      rintro _ _ stored ⟨⟩ found
      by_contra differs
      rcases FindLSA_eq_some_iff.mp found with ⟨inMap, index⟩
      exact apart ⟨stored, inMap, index, differs⟩
  | installLSA _ =>
    rw [← installsApart_iff _]
    constructor
    · intro apart
      exact ⟨apart.copies, apart.retransmissions⟩
    · rintro ⟨copies, retransmissions⟩
      exact
        { found := nofun
          copies
          retransmissions
          requests := congrArg _ (installLSA_requests _) }
  | addToRetransmissionList _ =>
    refine keepsApart_of_lists nofun rfl ?_
    refine (and_iff_left rfl).trans (ofOtherTypes_add_iff.trans ?_)
    unfold Confuses
    push Not
    rfl
  | acknowledge _ =>
    refine keepsApart_of_lists nofun rfl ?_
    refine (and_iff_left rfl).trans (ofOtherTypes_acknowledge_iff.trans ?_)
    constructor
    · rintro spared ⟨⟨entry, found, equal⟩, shares⟩
      exact not_sharesKey_iff.mpr (spared _ found equal) shares
    · intro apart entry found equal
      exact not_sharesKey_iff.mp fun shares => apart ⟨⟨entry, found, equal⟩, shares⟩
  | removeFromRetransmissionList _ _ =>
    refine keepsApart_of_lists nofun rfl ?_
    exact (and_iff_left rfl).trans (ofOtherTypes_remove_iff.trans not_sharesKey_iff.symm)
  | addToRequestList lsaHeader =>
    refine keepsApart_of_lists nofun rfl ?_
    exact iff_of_true ⟨rfl, ofOtherTypes_request lsaHeader⟩ id
  | removeFromRequestList _ _ =>
    refine keepsApart_of_lists nofun rfl ?_
    exact (and_iff_right rfl).trans (ofOtherTypes_remove_iff.trans not_sharesKey_iff.symm)

/-- The ACK of a network LSA takes a router LSA with the same key as well. -/
theorem network_acknowledgement_removes_router :
    ∃ (router : Router) (state : State) (lsaHeader entry : OSPFLSAHeader),
      entry ∈ state.linkStateRetransmissionList ∧
        entry.lsType = .routerLSAType ∧ lsaHeader.lsType = .networkLSAType ∧
        (perform router state (.acknowledge lsaHeader)).linkStateRetransmissionList = [] ∧
        ¬KeepsApart router state (.acknowledge lsaHeader) := by
  let entry : OSPFLSAHeader :=
    { lsType := .routerLSAType, linkStateID := 7, advertisingRouter := 7 }
  let empty {Key : Type} (index : OSPFLSAHeader → Key)
      (kind : LSAType → Bool) : LSAMap index kind :=
    { find := fun _ => none, kinds := nofun, filed := nofun }
  let state : State :=
    { database :=
        { routerLSAsByID := empty _ _
          networkLSAsByID := empty _ _
          summaryLSAsByID := empty _ _
          asExternalLSAsByID := empty _ _ }
      linkStateRetransmissionList := [entry]
      linkStateRequestList := [] }
  refine ⟨{ routerID := 7, reachable := fun _ => false }, state,
    { entry with lsType := .networkLSAType }, entry,
    List.mem_singleton_self _, rfl, rfl, rfl, fun apart => ?_⟩
  exact absurd apart.retransmissions (by decide)

end Confusion

end OmnetDsi.Ospf.LSAIdentity
