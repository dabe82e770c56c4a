import OmnetDsi.Library.Transition

/-!
# Hello packets on a broadcast interface

A hello packet declares a designated router and a backup by their interface
addresses.  The handler stores them with the neighbour and looks up the router
IDs that belong to the addresses, so that the elections can compare router
IDs.  It first writes the address in the place of the router ID.  The lookup
is left out when both routers have been set up and the packet declares the
same addresses again, and it does not find a neighbour that becomes known with
this very packet or later.

The priority, the timers and the events of the neighbour and of the interface
have no part in it; they are not modelled.
-/

namespace OmnetDsi.Ospf.HelloPackets

open Library.Transition

/-! ## Neighbours -/

/-- Addresses are numbers, as in the packets. -/
structure DesignatedRouterID where
  routerID : Nat
  ipInterfaceAddress : Nat
deriving DecidableEq

structure Neighbor where
  neighborID : Nat
  neighborIPAddress : Nat
  neighborsDesignatedRouter : DesignatedRouterID
  neighborsBackupDesignatedRouter : DesignatedRouterID
  designatedRoutersSetUp : Bool

/-- On a broadcast interface a neighbour keeps the address of its packets. -/
structure Interface where
  neighboringRoutersByAddress : Nat → Option Neighbor
  filed :
    ∀ address neighbor,
      neighboringRoutersByAddress address = some neighbor → neighbor.neighborIPAddress = address

structure OSPFHelloPacket where
  source : Nat
  routerID : Nat
  designatedRouter : Nat
  backupDesignatedRouter : Nat

namespace Interface

def empty : Interface where
  neighboringRoutersByAddress := fun _ => none
  filed := nofun

def GetNeighborByAddress (intf : Interface) (address : Nat) : Option Neighbor :=
  intf.neighboringRoutersByAddress address

/-- A new neighbour, or new fields of the one with the address. -/
def setNeighbor (intf : Interface) (neighbor : Neighbor) : Interface where
  neighboringRoutersByAddress :=
    Function.update intf.neighboringRoutersByAddress neighbor.neighborIPAddress (some neighbor)
  filed address other found := by
    by_cases same : address = neighbor.neighborIPAddress
    · rw [same, Function.update_self] at found
      cases found
      exact same.symm
    · rw [Function.update_of_ne same] at found
      exact intf.filed address other found

/-- The router ID of the neighbour with the address. -/
def idAt (intf : Interface) (address : Nat) : Option Nat :=
  (intf.GetNeighborByAddress address).map Neighbor.neighborID

end Interface

/-! ## The handler -/

/-- A declared router whose router ID is not known. -/
def declared (address : Nat) : DesignatedRouterID where
  routerID := address
  ipInterfaceAddress := address

/-- The declared router, with its router ID if it is a known neighbour. -/
def lookUp (intf : Interface) (address : Nat) (unknown : DesignatedRouterID) : DesignatedRouterID :=
  match intf.GetNeighborByAddress address with
  | some router => { routerID := router.neighborID, ipInterfaceAddress := router.neighborIPAddress }
  | none => unknown

/-- The lookup of both routers, for a neighbour of the interface. -/
def setUpDesignatedRouters (intf : Interface) (neighbor : Neighbor)
    (designatedAddress backupAddress : Nat) : Neighbor :=
  { neighbor with
    neighborsDesignatedRouter := lookUp intf designatedAddress neighbor.neighborsDesignatedRouter
    neighborsBackupDesignatedRouter :=
      lookUp intf backupAddress neighbor.neighborsBackupDesignatedRouter
    designatedRoutersSetUp :=
      (intf.GetNeighborByAddress designatedAddress).isSome &&
          (intf.GetNeighborByAddress backupAddress).isSome ||
        neighbor.designatedRoutersSetUp }

/-- The packet declares other addresses than the one before. -/
def drChanged (neighbor : Neighbor) (helloPacket : OSPFHelloPacket) : Bool :=
  helloPacket.designatedRouter ≠ neighbor.neighborsDesignatedRouter.ipInterfaceAddress ||
    helloPacket.backupDesignatedRouter ≠ neighbor.neighborsBackupDesignatedRouter.ipInterfaceAddress

/-- The fields that the packet overwrites. -/
def overwrite (neighbor : Neighbor) (helloPacket : OSPFHelloPacket) : Neighbor where
  neighborID := helloPacket.routerID
  neighborIPAddress := helloPacket.source
  neighborsDesignatedRouter := declared helloPacket.designatedRouter
  neighborsBackupDesignatedRouter := declared helloPacket.backupDesignatedRouter
  designatedRoutersSetUp :=
    if drChanged neighbor helloPacket then false else neighbor.designatedRoutersSetUp

/-- A packet of a known neighbour. -/
def updateNeighbor (intf : Interface) (neighbor : Neighbor)
    (helloPacket : OSPFHelloPacket) : Interface :=
  let overwritten := overwrite neighbor helloPacket
  let renewed := intf.setNeighbor overwritten
  if overwritten.designatedRoutersSetUp then renewed
  else
    renewed.setNeighbor
      (setUpDesignatedRouters renewed overwritten
        helloPacket.designatedRouter helloPacket.backupDesignatedRouter)

def newNeighbor (helloPacket : OSPFHelloPacket) : Neighbor where
  neighborID := helloPacket.routerID
  neighborIPAddress := helloPacket.source
  neighborsDesignatedRouter := declared helloPacket.designatedRouter
  neighborsBackupDesignatedRouter := declared helloPacket.backupDesignatedRouter
  designatedRoutersSetUp := false

/-- A packet of an unknown neighbour, which is added after the lookup. -/
def createNeighbor (intf : Interface) (helloPacket : OSPFHelloPacket) : Interface :=
  intf.setNeighbor
    (setUpDesignatedRouters intf (newNeighbor helloPacket)
      helloPacket.designatedRouter helloPacket.backupDesignatedRouter)

/-- `HelloHandler::ProcessPacket`, as far as it stores what is declared. -/
def ProcessPacket (intf : Interface) (helloPacket : OSPFHelloPacket) : Interface :=
  match intf.GetNeighborByAddress helloPacket.source with
  | some neighbor => updateNeighbor intf neighbor helloPacket
  | none => createNeighbor intf helloPacket

def step (intf : Interface) (helloPacket : OSPFHelloPacket) (next : Interface) : Prop :=
  next = ProcessPacket intf helloPacket

/-! ## Router IDs -/

/-- The router ID is that of the neighbour with the address, if known. -/
def Translated (intf : Interface) (router : DesignatedRouterID) : Prop :=
  ∀ routerID, intf.idAt router.ipInterfaceAddress = some routerID → router.routerID = routerID

/-- All routers that the neighbours have declared are translated. -/
def AllTranslated (intf : Interface) : Prop :=
  ∀ address neighbor,
    intf.GetNeighborByAddress address = some neighbor →
      Translated intf neighbor.neighborsDesignatedRouter ∧
        Translated intf neighbor.neighborsBackupDesignatedRouter

/-- What is stored for the source of the packet is the ID in the packet. -/
def AgreesWith (helloPacket : OSPFHelloPacket) (router : DesignatedRouterID) : Prop :=
  router.ipInterfaceAddress = helloPacket.source → router.routerID = helloPacket.routerID

/-- The other neighbours that declared the source know the ID already. -/
def OthersAgree (intf : Interface) (helloPacket : OSPFHelloPacket) : Prop :=
  ∀ address neighbor, address ≠ helloPacket.source →
    intf.GetNeighborByAddress address = some neighbor →
      AgreesWith helloPacket neighbor.neighborsDesignatedRouter ∧
        AgreesWith helloPacket neighbor.neighborsBackupDesignatedRouter

/-- A neighbour with the address has the address as its router ID. -/
def PlainAfter (intf : Interface) (helloPacket : OSPFHelloPacket) (address : Nat) : Prop :=
  if address = helloPacket.source then address = helloPacket.routerID
  else ∀ routerID, intf.idAt address = some routerID → address = routerID

/--
The packet is looked up or needs no lookup, and nobody else has to look up
its source again.
-/
def Admits (intf : Interface) (helloPacket : OSPFHelloPacket) : Prop :=
  OthersAgree intf helloPacket ∧ match intf.GetNeighborByAddress helloPacket.source with
    | some neighbor =>
      drChanged neighbor helloPacket = false →
        neighbor.designatedRoutersSetUp = true →
          PlainAfter intf helloPacket helloPacket.designatedRouter ∧
            PlainAfter intf helloPacket helloPacket.backupDesignatedRouter
    | none =>
      (helloPacket.designatedRouter = helloPacket.source →
          helloPacket.designatedRouter = helloPacket.routerID) ∧
        (helloPacket.backupDesignatedRouter = helloPacket.source →
          helloPacket.backupDesignatedRouter = helloPacket.routerID)

section Processing

theorem getNeighbor_setNeighbor (intf : Interface) (neighbor : Neighbor) (address : Nat) :
    (intf.setNeighbor neighbor).GetNeighborByAddress address =
      if address = neighbor.neighborIPAddress then some neighbor
      else
        intf.GetNeighborByAddress address := by
  change Function.update intf.neighboringRoutersByAddress _ _ address = _
  rw [Function.update_apply]
  rfl

/-- The neighbour at the source is replaced, and has the ID of the packet. -/
structure Renews (intf : Interface) (helloPacket : OSPFHelloPacket)
    (stored : Neighbor) (next : Interface) : Prop where
  neighborID : stored.neighborID = helloPacket.routerID
  others :
    ∀ address,
      next.GetNeighborByAddress address =
        if address = helloPacket.source then some stored else intf.GetNeighborByAddress address

theorem Renews.idAt (renews : Renews intf helloPacket stored next) (address : Nat) :
    next.idAt address = if address = helloPacket.source then some helloPacket.routerID
      else
        intf.idAt address := by
  rw [Interface.idAt, renews.others]
  split_ifs
  · rw [Option.map_some, renews.neighborID]
  · rfl

theorem Renews.translated_iff
    (renews : Renews intf helloPacket stored next) (before : Translated intf router) :
    Translated next router ↔ AgreesWith helloPacket router := by
  rw [Translated, renews.idAt]
  constructor
  · intro after same
    exact after helloPacket.routerID (if_pos same)
  · intro agrees _ found
    split_ifs at found with same
    · cases found
      exact agrees same
    · exact before _ found

theorem Renews.translated_declared_iff
    (renews : Renews intf helloPacket stored next) (address : Nat) :
    Translated next (declared address) ↔ PlainAfter intf helloPacket address := by
  rw [Translated, PlainAfter, declared, renews.idAt]
  split_ifs with same
  · constructor
    · intro after
      exact after helloPacket.routerID rfl
    · rintro plain _ ⟨⟩
      exact plain
  · rfl

theorem translated_lookUp (same : next.idAt address = intf.idAt address) :
    Translated next (lookUp intf address (declared address)) := by
  unfold lookUp
  unfold Interface.idAt at same
  cases found : intf.GetNeighborByAddress address with
  | none =>
    intro _ known
    rw [found] at same
    exact absurd (same.symm.trans known) nofun
  | some _ =>
    intro _ known
    have filed := intf.filed _ _ found
    rw [found] at same
    dsimp only at known
    rw [filed] at known
    exact Option.some.inj (same.symm.trans known)

/-- All are translated exactly if the new one is and the others agree. -/
theorem Renews.allTranslated_iff (renews : Renews intf helloPacket stored next)
    (before : AllTranslated intf) :
    AllTranslated next ↔
      OthersAgree intf helloPacket ∧
        Translated next stored.neighborsDesignatedRouter ∧
          Translated next stored.neighborsBackupDesignatedRouter := by
  constructor
  · intro all
    constructor
    · intro _ _ other found
      have kept := (renews.others _).trans (if_neg other)
      have after := all _ _ (kept.trans found)
      have earlier := before _ _ found
      exact ⟨(renews.translated_iff earlier.1).mp after.1,
        (renews.translated_iff earlier.2).mp after.2⟩
    · exact all helloPacket.source _ ((renews.others _).trans (if_pos rfl))
  · rintro ⟨agree, own⟩ _ _ found
    rw [renews.others] at found
    split_ifs at found with same
    · cases found
      exact own
    · have agrees := agree _ _ same found
      have earlier := before _ _ found
      exact ⟨(renews.translated_iff earlier.1).mpr agrees.1,
        (renews.translated_iff earlier.2).mpr agrees.2⟩

theorem setNeighbor_renews (neighborID : neighbor.neighborID = helloPacket.routerID)
    (source : neighbor.neighborIPAddress = helloPacket.source) :
    Renews intf helloPacket neighbor (intf.setNeighbor neighbor) where
  neighborID
  others address := by rw [getNeighbor_setNeighbor, source]

theorem Renews.again (renews : Renews intf helloPacket stored next)
    (neighborID : neighbor.neighborID = helloPacket.routerID)
    (source : neighbor.neighborIPAddress = helloPacket.source) :
    Renews intf helloPacket neighbor (next.setNeighbor neighbor) where
  neighborID
  others address := by
    rw [getNeighbor_setNeighbor, source, renews.others]
    split_ifs <;> rfl

/-- The lookup for a new neighbour does not find the neighbour itself. -/
theorem Renews.translated_lookUp_iff (renews : Renews intf helloPacket stored next)
    (unknown : intf.GetNeighborByAddress helloPacket.source = none) (address : Nat) :
    Translated next (lookUp intf address (declared address)) ↔
      (address = helloPacket.source → address = helloPacket.routerID) := by
  by_cases same : address = helloPacket.source
  · have plain : lookUp intf address (declared address) = declared address := by
      rw [lookUp, same, unknown]
    rw [plain, renews.translated_declared_iff, PlainAfter, if_pos same]
    exact ⟨fun after _ => after, fun after => after same⟩
  · have kept := (renews.idAt _).trans (if_neg same)
    exact iff_of_true (translated_lookUp kept) fun source => absurd source same

theorem createNeighbor_iff (unknown : intf.GetNeighborByAddress helloPacket.source = none)
    (before : AllTranslated intf) :
    AllTranslated (createNeighbor intf helloPacket) ↔ Admits intf helloPacket := by
  have renews :
      Renews intf helloPacket
        (setUpDesignatedRouters intf (newNeighbor helloPacket)
          helloPacket.designatedRouter helloPacket.backupDesignatedRouter)
        (createNeighbor intf helloPacket) :=
    setNeighbor_renews rfl rfl
  rw [renews.allTranslated_iff before, Admits, unknown]
  exact and_congr_right' (and_congr
    (renews.translated_lookUp_iff unknown helloPacket.designatedRouter)
    (renews.translated_lookUp_iff unknown helloPacket.backupDesignatedRouter))

theorem updateNeighbor_iff (known : intf.GetNeighborByAddress helloPacket.source = some neighbor)
    (before : AllTranslated intf) :
    AllTranslated (updateNeighbor intf neighbor helloPacket) ↔ Admits intf helloPacket := by
  have renewed :
      Renews intf helloPacket (overwrite neighbor helloPacket)
        (intf.setNeighbor (overwrite neighbor helloPacket)) :=
    setNeighbor_renews rfl rfl
  have setUp :
      (overwrite neighbor helloPacket).designatedRoutersSetUp = true ↔
        drChanged neighbor helloPacket = false ∧ neighbor.designatedRoutersSetUp = true := by
    unfold overwrite
    cases drChanged neighbor helloPacket with
    | true => exact ⟨nofun, nofun⟩
    | false => exact ⟨fun kept => ⟨rfl, kept⟩, And.right⟩
  rw [updateNeighbor, Admits, known]
  dsimp only
  split_ifs with kept
  · rw [renewed.allTranslated_iff before]
    refine and_congr_right' ?_
    rcases setUp.mp kept with ⟨unchanged, already⟩
    have own := and_congr (renewed.translated_declared_iff helloPacket.designatedRouter)
      (renewed.translated_declared_iff helloPacket.backupDesignatedRouter)
    exact own.trans ⟨fun plain _ _ => plain, fun plain => plain unchanged already⟩
  · let lookedUp :=
      setUpDesignatedRouters (intf.setNeighbor (overwrite neighbor helloPacket))
        (overwrite neighbor helloPacket) helloPacket.designatedRouter
        helloPacket.backupDesignatedRouter
    have stored :
        Renews intf helloPacket lookedUp
          ((intf.setNeighbor (overwrite neighbor helloPacket)).setNeighbor lookedUp) :=
      renewed.again rfl rfl
    have same (address : Nat) := (stored.idAt _).trans (renewed.idAt address).symm
    rw [stored.allTranslated_iff before]
    refine and_congr_right' ?_
    refine iff_of_true ⟨translated_lookUp (same _), translated_lookUp (same _)⟩ ?_
    intro unchanged already
    exact absurd (setUp.mpr ⟨unchanged, already⟩) kept

theorem allTranslated_step_iff (before : AllTranslated intf) (taken : step intf helloPacket next) :
    AllTranslated next ↔ Admits intf helloPacket := by
  rw [taken, ProcessPacket]
  cases known : intf.GetNeighborByAddress helloPacket.source with
  | none => exact createNeighbor_iff known before
  | some _ => exact updateNeighbor_iff known before

end Processing

theorem step_deterministic : Deterministic step := by
  rintro _ _ _ _ rfl rfl
  rfl

/-- Two neighbours, and a third that declares them as routers twice. -/
def declaredTwice : List OSPFHelloPacket :=
  [ { source := 1, routerID := 11, designatedRouter := 0, backupDesignatedRouter := 0 },
    { source := 2, routerID := 12, designatedRouter := 0, backupDesignatedRouter := 0 },
    { source := 3, routerID := 13, designatedRouter := 1, backupDesignatedRouter := 2 },
    { source := 3, routerID := 13, designatedRouter := 1, backupDesignatedRouter := 2 } ]

theorem declaredTwice_run :
    Run step Interface.empty declaredTwice (declaredTwice.foldl ProcessPacket Interface.empty) :=
  .next rfl <| .next rfl <| .next rfl <| .next rfl <| .idle _

end OmnetDsi.Ospf.HelloPackets
