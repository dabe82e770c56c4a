import OmnetDsi.Ospf.NeighborLists
import OmnetDsi.Ospf.HelloPackets

/-!
# Reliable flooding out an interface

`FloodLSA` first puts the LSA on the retransmission lists of the neighbours
and then starts their update retransmission timers.  The two loops select the
neighbours by different conditions: the first by the states of the neighbours,
the second by where the LSA came from, by the type of the interface and by the
roles of the routers on it.

The first loop can make a neighbour fully adjacent, which originates LSAs and
floods them at once.  A state therefore has the calls of `FloodLSA` that are in
progress.  The other events of an interface wait until there are none.
-/

namespace OmnetDsi.Ospf.ReliableFlooding

open Library.Transition Ospf.LSAHeaders Ospf.NeighborLists
open OmnetDsi.Ospf.HelloPackets (DesignatedRouterID)

/-! ## Neighbours -/

inductive NeighborStateType where
  | downState
  | attemptState
  | initState
  | twoWayState
  | exchangeStartState
  | exchangeState
  | loadingState
  | fullState
deriving DecidableEq

/-- The states are compared by these numbers. -/
def NeighborStateType.toNat : NeighborStateType → Nat
  | .downState => 0
  | .attemptState => 1
  | .initState => 2
  | .twoWayState => 4
  | .exchangeStartState => 8
  | .exchangeState => 16
  | .loadingState => 32
  | .fullState => 64

/-- The state is at least `ExchangeState`. -/
def NeighborStateType.exchanging (state : NeighborStateType) : Bool :=
  NeighborStateType.exchangeState.toNat ≤ state.toNat

inductive NeighborEventType where
  | helloReceived
  | start
  | twoWayReceived
  | negotiationDone
  | exchangeDone
  | badLinkStateRequest
  | loadingDone
  | isAdjacencyOK
  | sequenceNumberMismatch
  | oneWayReceived
  | killNeighbor
  | inactivityTimer
  | pollTimer
  | linkDown
  | ddRetransmissionTimer
  | updateRetransmissionTimer
  | requestRetransmissionTimer
deriving DecidableEq

/--
A neighbour with its two lists.  `updateRetransmissionTimer` tells whether the
timer is scheduled.
-/
structure Neighbor extends HelloPackets.Neighbor where
  state : NeighborStateType
  linkStateRetransmissionList : List OSPFLSAHeader
  linkStateRequestList : List OSPFLSAHeader
  updateRetransmissionTimer : Bool
  updateRetransmissionTimerActive : Bool

namespace Neighbor

/-- A new neighbour. -/
def create (declared : HelloPackets.Neighbor) : Neighbor where
  toNeighbor := declared
  state := .downState
  linkStateRetransmissionList := []
  linkStateRequestList := []
  updateRetransmissionTimer := false
  updateRetransmissionTimerActive := false

def StartUpdateRetransmissionTimer (neighbor : Neighbor) : Neighbor :=
  { neighbor with updateRetransmissionTimer := true, updateRetransmissionTimerActive := true }

def ClearUpdateRetransmissionTimer (neighbor : Neighbor) : Neighbor :=
  { neighbor with updateRetransmissionTimer := false, updateRetransmissionTimerActive := false }

def Reset (neighbor : Neighbor) : Neighbor :=
  ClearUpdateRetransmissionTimer
    { neighbor with linkStateRetransmissionList := [], linkStateRequestList := [] }

def ChangeState (neighbor : Neighbor) (state : NeighborStateType) : Neighbor :=
  { neighbor with state }

/-- The result of an event in one of the states. -/
def ProcessEvent (neighbor : Neighbor) (needAdjacency : Bool) : NeighborEventType → Neighbor
  | .killNeighbor | .linkDown | .inactivityTimer =>
    match neighbor.state with
    | .downState => neighbor
    | _ => neighbor.Reset.ChangeState .downState
  | .oneWayReceived =>
    match neighbor.state with
    | .downState | .attemptState | .initState => neighbor
    | _ => neighbor.Reset.ChangeState .initState
  | .helloReceived =>
    match neighbor.state with
    | .downState | .attemptState => neighbor.ChangeState .initState
    | _ => neighbor
  | .start =>
    match neighbor.state with
    | .downState => neighbor.ChangeState .attemptState
    | _ => neighbor
  | .twoWayReceived =>
    match neighbor.state with
    | .initState =>
      if needAdjacency then neighbor.ChangeState .exchangeStartState
      else neighbor.ChangeState .twoWayState
    | _ => neighbor
  | .isAdjacencyOK =>
    match neighbor.state with
    | .downState | .attemptState | .initState => neighbor
    | .twoWayState =>
      if needAdjacency then neighbor.ChangeState .exchangeStartState else neighbor
    | _ =>
      if needAdjacency then neighbor else neighbor.Reset.ChangeState .twoWayState
  | .negotiationDone =>
    match neighbor.state with
    | .exchangeStartState => neighbor.ChangeState .exchangeState
    | _ => neighbor
  | .exchangeDone =>
    match neighbor.state with
    | .exchangeState =>
      if neighbor.linkStateRequestList.isEmpty then neighbor.ChangeState .fullState
      else neighbor.ChangeState .loadingState
    | _ => neighbor
  | .loadingDone =>
    match neighbor.state with
    | .loadingState => neighbor.ChangeState .fullState
    | _ => neighbor
  | .sequenceNumberMismatch | .badLinkStateRequest =>
    match neighbor.state with
    | .exchangeState | .loadingState | .fullState => neighbor.Reset.ChangeState .exchangeStartState
    | _ => neighbor
  | .updateRetransmissionTimer =>
    match neighbor.state with
    | .exchangeState | .loadingState | .fullState => neighbor.StartUpdateRetransmissionTimer
    | _ => neighbor
  | .pollTimer | .ddRetransmissionTimer | .requestRetransmissionTimer => neighbor

/-- Loading is done when the list becomes empty. -/
def RemoveFromRequestList (neighbor : Neighbor) (lsaKey : LSAKeyType) : Neighbor :=
  let list := NeighborLists.RemoveFromRequestList neighbor.linkStateRequestList lsaKey
  let removed := { neighbor with linkStateRequestList := list }
  if neighbor.state = .loadingState ∧ list = [] then removed.ProcessEvent false .loadingDone
  else removed

/-- A link state acknowledgement packet of the neighbour. -/
def processAcknowledgements (neighbor : Neighbor) (lsaHeaders : List OSPFLSAHeader) : Neighbor :=
  if neighbor.state.exchanging then
    let list := lsaHeaders.foldl processAcknowledgement neighbor.linkStateRetransmissionList
    let acknowledged := { neighbor with linkStateRetransmissionList := list }
    if list = [] then acknowledged.ClearUpdateRetransmissionTimer else acknowledged
  else neighbor

/-- The timer expires in the state of the neighbour. -/
def expire (neighbor : Neighbor) : Neighbor :=
  ({ neighbor with updateRetransmissionTimer := false }).ProcessEvent false
    .updateRetransmissionTimer

end Neighbor

/-! ## The interface -/

inductive OSPFInterfaceType where
  | unknownType
  | pointToPoint
  | broadcast
  | nbma
  | pointToMultiPoint
  | virtual
deriving DecidableEq

inductive InterfaceStateType where
  | downState
  | loopbackState
  | waitingState
  | pointToPointState
  | notDesignatedRouterState
  | backupState
  | designatedRouterState
deriving DecidableEq

def BackboneAreaID : Nat := 0

def NullDesignatedRouterID : DesignatedRouterID where
  routerID := 0
  ipInterfaceAddress := 0

/-- An interface, with the ID of its router and the capability of its area. -/
structure Interface where
  routerID : Nat
  interfaceType : OSPFInterfaceType
  areaID : Nat
  externalRoutingCapability : Bool
  state : InterfaceStateType
  designatedRouter : DesignatedRouterID
  backupDesignatedRouter : DesignatedRouterID
  neighborCount : Nat
  neighboringRouters : Nat → Neighbor
  neighboringRoutersByID : Nat → Option Nat

namespace Interface

def setNeighbor (intf : Interface) (index : Nat) (neighbor : Neighbor) : Interface :=
  { intf with neighboringRouters := Function.update intf.neighboringRouters index neighbor }

/-- A new neighbour is added to the end, and its ID is filed. -/
def AddNeighbor (intf : Interface) (declared : HelloPackets.Neighbor) : Interface :=
  { intf.setNeighbor intf.neighborCount (.create declared) with
    neighborCount := intf.neighborCount + 1
    neighboringRoutersByID :=
      Function.update intf.neighboringRoutersByID declared.neighborID (some intf.neighborCount) }

def GetNeighborByID (intf : Interface) (neighborID : Nat) : Option Nat :=
  intf.neighboringRoutersByID neighborID

def NeedAdjacency (intf : Interface) (neighbor : Neighbor) : Bool :=
  let dRouter := intf.designatedRouter
  let backupDRouter := intf.backupDesignatedRouter
  intf.interfaceType = .pointToPoint ||
    intf.interfaceType = .pointToMultiPoint || intf.interfaceType = .virtual ||
    dRouter.routerID = intf.routerID || backupDRouter.routerID = intf.routerID ||
    (neighbor.neighborsDesignatedRouter.routerID = dRouter.routerID ||
      !neighbor.designatedRoutersSetUp &&
        neighbor.neighborsDesignatedRouter.ipInterfaceAddress = dRouter.ipInterfaceAddress) ||
    (neighbor.neighborsBackupDesignatedRouter.routerID = backupDRouter.routerID ||
      !neighbor.designatedRoutersSetUp &&
        neighbor.neighborsBackupDesignatedRouter.ipInterfaceAddress =
          backupDRouter.ipInterfaceAddress)

/-- The LSA is flooded out interfaces of this kind. -/
def floodsType (intf : Interface) (lsType : LSAType) : Bool :=
  lsType = .asExternalLSAType && intf.interfaceType ≠ .virtual && intf.externalRoutingCapability ||
    lsType ≠ .asExternalLSAType &&
      (intf.areaID ≠ BackboneAreaID && intf.interfaceType ≠ .virtual ||
        intf.areaID = BackboneAreaID)

end Interface

/-! ## Flooding -/

/-- Where an LSA came from: a neighbour of this interface, or elsewhere. -/
inductive Source where
  | elsewhere
  | neighbor (index : Nat)
deriving DecidableEq

/--
A call of `FloodLSA`.  Its first loop is at the neighbour `next`, which has
`passed` if only (1) (c) and (d) are left to do.  The call is `interrupted` by
the floods of a neighbour that has become fully adjacent.
-/
structure Flooding where
  lsa : OSPFLSAHeader
  source : Source
  neighborCount : Nat
  next : Nat
  passed : Bool
  interrupted : Bool
  lsaAddedToRetransmissionList : Bool

namespace Flooding

def start (intf : Interface) (lsa : OSPFLSAHeader) (source : Source) : Flooding where
  lsa
  source
  neighborCount := intf.neighborCount
  next := 0
  passed := false
  interrupted := false
  lsaAddedToRetransmissionList := false

/-- The loop goes on with the next neighbour. -/
def goOn (flooding : Flooding) : Flooding :=
  { flooding with next := flooding.next + 1, passed := false }

def pass (flooding : Flooding) : Flooding :=
  { flooding with passed := true }

def resume (flooding : Flooding) : Flooding :=
  { flooding with interrupted := false }

/-- The event of a neighbour that has changed its state comes first. -/
def interrupt (flooding : Flooding) (before after : Neighbor) : Flooding :=
  { flooding with interrupted := before.state ≠ after.state }

/-- Conditions (3) and (4). -/
def sendsUpdate (flooding : Flooding) (intf : Interface) : Bool :=
  match flooding.source with
  | .elsewhere => true
  | .neighbor index =>
    let neighborID := (intf.neighboringRouters index).neighborID
    (neighborID ≠ intf.designatedRouter.routerID &&
        neighborID ≠ intf.backupDesignatedRouter.routerID) &&
      intf.state ≠ .backupState

/-- The neighbours to which the update packet is sent, by (5). -/
def sentTo (flooding : Flooding) (intf : Interface) (index : Nat) : Bool :=
  match intf.interfaceType with
  | .broadcast =>
    if intf.state = .designatedRouterState ∨ intf.state = .backupState ∨
        intf.designatedRouter = NullDesignatedRouterID then
      index < flooding.neighborCount
    else
      intf.GetNeighborByID intf.designatedRouter.routerID = some index ||
        intf.GetNeighborByID intf.backupDesignatedRouter.routerID = some index
  | .pointToPoint => index < flooding.neighborCount && index = 0
  | _ => index < flooding.neighborCount && (intf.neighboringRouters index).state.exchanging

/-- The flood sees to it that the timer of the neighbour is running. -/
def startsTimer (flooding : Flooding) (intf : Interface) (index : Nat) : Bool :=
  flooding.sendsUpdate intf && flooding.sentTo intf index

/-- (1) (a) and (b): the state and the request list of the neighbour. -/
def visit (flooding : Flooding) (intf : Interface) : Flooding × Interface :=
  let neighbor := intf.neighboringRouters flooding.next
  let lsaKey := flooding.lsa.lsaKey
  if neighbor.state.exchanging = false then (flooding.goOn, intf)
  else if neighbor.state = .fullState then (flooding.pass, intf)
  else
    match FindOnRequestList neighbor.linkStateRequestList lsaKey with
    | none => (flooding.pass, intf)
    | some requestLSAHeader =>
      let removed := neighbor.RemoveFromRequestList lsaKey
      if operatorLess flooding.lsa requestLSAHeader then (flooding.goOn, intf)
      else if operatorEqual flooding.lsa requestLSAHeader then
        (flooding.goOn.interrupt neighbor removed, intf.setNeighbor flooding.next removed)
      else (flooding.pass.interrupt neighbor removed, intf.setNeighbor flooding.next removed)

/-- (1) (c) and (d): all but the sender get the LSA on their lists. -/
def add (flooding : Flooding) (intf : Interface) : Flooding × Interface :=
  let neighbor := intf.neighboringRouters flooding.next
  if flooding.source = .neighbor flooding.next then (flooding.goOn, intf)
  else
    ({ flooding.goOn with lsaAddedToRetransmissionList := true },
      intf.setNeighbor flooding.next
        { neighbor with
          linkStateRetransmissionList :=
            AddToRetransmissionList neighbor.linkStateRetransmissionList flooding.lsa })

/-- (2) to (5): the timers that are not active are started. -/
def finish (flooding : Flooding) (intf : Interface) : Interface :=
  { intf with
    neighboringRouters := fun index =>
      let neighbor := intf.neighboringRouters index
      if flooding.lsaAddedToRetransmissionList ∧ flooding.startsTimer intf index ∧
          neighbor.updateRetransmissionTimerActive = false then
        neighbor.StartUpdateRetransmissionTimer
      else
        neighbor }

end Flooding

/-! ## Runs -/

/-- An interface, and the calls of `FloodLSA` in progress, the last one first. -/
structure System where
  intf : Interface
  floodings : List Flooding

inductive Action where
  | addNeighbor (declared : HelloPackets.Neighbor)
  | setDeclared (index : Nat) (declared : HelloPackets.Neighbor)
  | setInterface (state : InterfaceStateType)
      (designatedRouter backupDesignatedRouter : DesignatedRouterID)
  | neighborEvent (index : Nat) (event : NeighborEventType)
  | addToRequestList (index : Nat) (lsaHeader : OSPFLSAHeader)
  | removeFromRetransmissionList (index : Nat) (lsaKey : LSAKeyType)
  | removeFromAllRetransmissionLists (lsaKey : LSAKeyType)
  | acknowledge (index : Nat) (lsaHeaders : List OSPFLSAHeader)
  | expire (index : Nat)
  | flood (lsa : OSPFLSAHeader) (source : Source)
  | proceed

namespace System

/-- What becomes of a neighbour of the interface. -/
def updateNeighbor (system : System) (index : Nat) (update : Neighbor → Neighbor) : System :=
  { system with
    intf := system.intf.setNeighbor index (update (system.intf.neighboringRouters index)) }

def removeFromAll (system : System) (lsaKey : LSAKeyType) : System :=
  { system with
    intf :=
      { system.intf with
        neighboringRouters := fun index =>
          let neighbor := system.intf.neighboringRouters index
          { neighbor with
            linkStateRetransmissionList :=
              RemoveFromRetransmissionList neighbor.linkStateRetransmissionList lsaKey } } }

def flood (system : System) (lsa : OSPFLSAHeader) (source : Source) : System :=
  if system.intf.floodsType lsa.lsType then
    { system with floodings := .start system.intf lsa source :: system.floodings }
  else system

/-- The last call goes on with its loop, or ends. -/
def proceed (system : System) : System :=
  match system.floodings with
  | [] => system
  | flooding :: rest =>
    if flooding.next < flooding.neighborCount then
      let gone :=
        if flooding.passed then flooding.resume.add system.intf
        else flooding.resume.visit system.intf
      { intf := gone.2, floodings := gone.1 :: rest }
    else { intf := flooding.finish system.intf, floodings := rest }

/-- LSAs can be originated by a new event or by the one in progress. -/
def callable (system : System) : Bool :=
  match system.floodings with
  | [] => true
  | flooding :: _ => flooding.interrupted

/-- The events that an action can be at this moment. -/
def enabled (system : System) : Action → Bool
  | .removeFromAllRetransmissionLists _ => system.callable
  | .flood _ .elsewhere => system.callable
  | .proceed => system.floodings ≠ []
  | .addNeighbor _ => system.floodings = []
  | .setInterface _ _ _ => system.floodings = []
  | .neighborEvent index event =>
    system.floodings = [] && index < system.intf.neighborCount && event ≠ .updateRetransmissionTimer
  | .expire index =>
    system.floodings = [] && index < system.intf.neighborCount &&
      (system.intf.neighboringRouters index).updateRetransmissionTimer
  | .setDeclared index _
  | .addToRequestList index _
  | .removeFromRetransmissionList index _
  | .acknowledge index _
  | .flood _ (.neighbor index) => system.floodings = [] && index < system.intf.neighborCount

def perform (system : System) : Action → System
  | .addNeighbor declared => { system with intf := system.intf.AddNeighbor declared }
  | .setDeclared index declared =>
    system.updateNeighbor index fun neighbor => { neighbor with toNeighbor := declared }
  | .setInterface state designatedRouter backupDesignatedRouter =>
    { system with
      intf :=
        { system.intf with
          state
          designatedRouter
          backupDesignatedRouter } }
  | .neighborEvent index event =>
    system.updateNeighbor index fun neighbor =>
      neighbor.ProcessEvent (system.intf.NeedAdjacency neighbor) event
  | .addToRequestList index lsaHeader =>
    system.updateNeighbor index fun neighbor =>
      { neighbor with
        linkStateRequestList := AddToRequestList neighbor.linkStateRequestList lsaHeader }
  | .removeFromRetransmissionList index lsaKey =>
    system.updateNeighbor index fun neighbor =>
      { neighbor with
        linkStateRetransmissionList :=
          RemoveFromRetransmissionList neighbor.linkStateRetransmissionList lsaKey }
  | .removeFromAllRetransmissionLists lsaKey => system.removeFromAll lsaKey
  | .acknowledge index lsaHeaders =>
    system.updateNeighbor index fun neighbor => neighbor.processAcknowledgements lsaHeaders
  | .expire index => system.updateNeighbor index Neighbor.expire
  | .flood lsa source => system.flood lsa source
  | .proceed => system.proceed

end System

def step (system : System) (action : Action) (next : System) : Prop :=
  system.enabled action = true ∧ next = system.perform action

/-! ## The timers -/

/--
A neighbour that is exchanging its database or has done so has its timer
running while LSAs are on its list, and the flag tells whether it is.
-/
def Reliable (neighbor : Neighbor) : Prop :=
  neighbor.state.exchanging = true →
    (neighbor.linkStateRetransmissionList ≠ [] → neighbor.updateRetransmissionTimer = true) ∧
      (neighbor.updateRetransmissionTimerActive = true ↔ neighbor.updateRetransmissionTimer = true)

/-- A call of `FloodLSA` will yet see to the timer of the neighbour. -/
def Owed (intf : Interface) (floodings : List Flooding) (index : Nat) : Prop :=
  ∃ flooding ∈ floodings,
    flooding.lsaAddedToRetransmissionList = true ∧ flooding.startsTimer intf index = true

/--
The timer expires in a state that starts it again, and an LSA is added to a
list only if the timer is active or the call or an outer one starts it.
-/
def Admits (system : System) : Action → Prop
  | .expire index => (system.intf.neighboringRouters index).state.exchanging = true
  | .proceed =>
    ∀ flooding rest, system.floodings = flooding :: rest →
      flooding.next < flooding.neighborCount → flooding.passed = true →
        flooding.source ≠ .neighbor flooding.next →
          (system.intf.neighboringRouters flooding.next).updateRetransmissionTimerActive = true ∨
            flooding.startsTimer system.intf flooding.next = true ∨
              Owed system.intf rest flooding.next
  | _ => True

/-! ### One neighbour -/

/-- In every state the timer runs for a list, and the flag agrees with it. -/
structure Running (neighbor : Neighbor) : Prop where
  flag : neighbor.updateRetransmissionTimerActive = neighbor.updateRetransmissionTimer
  runs : neighbor.linkStateRetransmissionList ≠ [] → neighbor.updateRetransmissionTimer = true

section OneNeighbor

variable {neighbor : Neighbor}

theorem Running.reliable (running : Running neighbor) : Reliable neighbor := by
  intro _
  exact ⟨running.runs, by rw [running.flag]⟩

theorem running_create (declared : HelloPackets.Neighbor) : Running (.create declared) where
  flag := rfl
  runs := fun nonempty => absurd rfl nonempty

theorem running_reset : Running neighbor.Reset where
  flag := rfl
  runs := fun nonempty => absurd rfl nonempty

theorem running_start : Running neighbor.StartUpdateRetransmissionTimer where
  flag := rfl
  runs := fun _ => rfl

theorem Running.changeState (running : Running neighbor)
    (state : NeighborStateType) : Running (neighbor.ChangeState state) where
  flag := running.flag
  runs := running.runs

theorem Running.shortened (running : Running neighbor)
    (shorter : list ≠ [] → neighbor.linkStateRetransmissionList ≠ []) :
    Running { neighbor with linkStateRetransmissionList := list } where
  flag := running.flag
  runs := fun nonempty => running.runs (shorter nonempty)

theorem Running.processEvent (running : Running neighbor)
    (needAdjacency : Bool) (event : NeighborEventType) :
    Running (neighbor.ProcessEvent needAdjacency event) := by
  unfold Neighbor.ProcessEvent
  split
  all_goals
    first
    | exact running
    | split
      all_goals
        first
        | exact running
        | exact running.changeState _
        | exact running_reset.changeState _
        | exact running_start
        | split_ifs
          all_goals
            first
            | exact running
            | exact running.changeState _
            | exact running_reset.changeState _

theorem removed_nonempty
    (nonempty : RemoveFromRetransmissionList list lsaKey ≠ []) : list ≠ [] := by
  rintro rfl
  exact nonempty rfl

theorem acknowledged_nil (lsaHeaders : List OSPFLSAHeader) :
    lsaHeaders.foldl processAcknowledgement [] = [] := by
  induction lsaHeaders with
  | nil => rfl
  | cons _ _ induction => exact induction

theorem acknowledged_nonempty {lsaHeaders : List OSPFLSAHeader}
    (nonempty : lsaHeaders.foldl processAcknowledgement list ≠ []) : list ≠ [] := by
  rintro rfl
  exact nonempty (acknowledged_nil _)

theorem Running.acknowledge (running : Running neighbor) (lsaHeaders : List OSPFLSAHeader) :
    Running (neighbor.processAcknowledgements lsaHeaders) := by
  dsimp only [Neighbor.processAcknowledgements]
  split_ifs with exchanging empty
  · exact ⟨rfl, fun nonempty => absurd empty nonempty⟩
  · exact running.shortened acknowledged_nonempty
  · exact running

theorem running_expire (exchanging : neighbor.state.exchanging = true) :
    Running neighbor.expire := by
  unfold Neighbor.expire Neighbor.ProcessEvent
  cases state : neighbor.state with
  | exchangeState => exact running_start
  | loadingState => exact running_start
  | fullState => exact running_start
  | _ => rw [state] at exchanging; exact absurd exchanging (by decide)

end OneNeighbor

/-! ### Calls in progress -/

/-- During the calls of `FloodLSA` the neighbours only go on to `FullState`. -/
structure Extends (intf next : Interface) : Prop where
  interfaceType : next.interfaceType = intf.interfaceType
  state : next.state = intf.state
  designatedRouter : next.designatedRouter = intf.designatedRouter
  backupDesignatedRouter : next.backupDesignatedRouter = intf.backupDesignatedRouter
  neighborCount : next.neighborCount = intf.neighborCount
  byID : next.neighboringRoutersByID = intf.neighboringRoutersByID
  neighborID :
    ∀ index, (next.neighboringRouters index).neighborID = (intf.neighboringRouters index).neighborID
  exchanging :
    ∀ index,
      (intf.neighboringRouters index).state.exchanging = true →
        (next.neighboringRouters index).state.exchanging = true

/-- The timers of all neighbours are in order or will be by a call. -/
structure InOrder (system : System) : Prop where
  flag :
    ∀ index, index < system.intf.neighborCount →
      (system.intf.neighboringRouters index).updateRetransmissionTimerActive =
        (system.intf.neighboringRouters index).updateRetransmissionTimer
  runs :
    ∀ index, index < system.intf.neighborCount →
      (system.intf.neighboringRouters index).linkStateRetransmissionList ≠ [] →
        (system.intf.neighboringRouters index).updateRetransmissionTimer = true ∨
          Owed system.intf system.floodings index

variable {index : Nat}

section Calls

variable {flooding : Flooding}

theorem Extends.refl (intf : Interface) : Extends intf intf where
  interfaceType := rfl
  state := rfl
  designatedRouter := rfl
  backupDesignatedRouter := rfl
  neighborCount := rfl
  byID := rfl
  neighborID _ := rfl
  exchanging _ before := before

theorem neighbors_setNeighbor (intf : Interface) (index : Nat) (neighbor : Neighbor) (other : Nat) :
    (intf.setNeighbor index neighbor).neighboringRouters other = if other = index then neighbor
      else
        intf.neighboringRouters other := by
  exact Function.update_apply ..

theorem extends_setNeighbor
    (neighborID : neighbor.neighborID = (intf.neighboringRouters index).neighborID)
    (exchanging :
      (intf.neighboringRouters index).state.exchanging = true → neighbor.state.exchanging = true) :
    Extends intf (intf.setNeighbor index neighbor) where
  interfaceType := rfl
  state := rfl
  designatedRouter := rfl
  backupDesignatedRouter := rfl
  neighborCount := rfl
  byID := rfl
  neighborID other := by
    rw [neighbors_setNeighbor]
    split_ifs with same
    · rw [neighborID, same]
    · rfl
  exchanging other before := by
    rw [neighbors_setNeighbor]
    split_ifs with same
    · exact exchanging (same ▸ before)
    · exact before

theorem Extends.sendsUpdate (extended : Extends intf next) :
    flooding.sendsUpdate next = flooding.sendsUpdate intf := by
  unfold Flooding.sendsUpdate
  cases flooding.source with
  | elsewhere => rfl
  | neighbor _ =>
    dsimp only
    rw [extended.neighborID, extended.designatedRouter,
      extended.backupDesignatedRouter, extended.state]

theorem Extends.sentTo (extended : Extends intf next) (before : flooding.sentTo intf index = true) :
    flooding.sentTo next index = true := by
  unfold Flooding.sentTo Interface.GetNeighborByID at before ⊢
  rw [extended.interfaceType, extended.state, extended.designatedRouter,
    extended.backupDesignatedRouter, extended.byID]
  cases type : intf.interfaceType with
  | broadcast =>
    rwa [type] at before
  | pointToPoint =>
    rwa [type] at before
  | _ =>
    rw [type] at before
    rcases Bool.and_eq_true_iff.mp before with ⟨bound, exchanging⟩
    exact Bool.and_eq_true_iff.mpr ⟨bound, extended.exchanging _ exchanging⟩

theorem Extends.startsTimer (extended : Extends intf next)
    (before : flooding.startsTimer intf index = true) : flooding.startsTimer next index = true := by
  rcases Bool.and_eq_true_iff.mp before with ⟨sends, sent⟩
  exact Bool.and_eq_true_iff.mpr ⟨extended.sendsUpdate.trans sends, extended.sentTo sent⟩

theorem startsTimer_congr {other : Flooding} (source : other.source = flooding.source)
    (neighborCount : other.neighborCount = flooding.neighborCount) :
    other.startsTimer intf index = flooding.startsTimer intf index := by
  unfold Flooding.startsTimer Flooding.sendsUpdate Flooding.sentTo
  rw [source, neighborCount]

theorem Owed.extend (owed : Owed intf rest index)
    (extended : Extends intf next) : Owed next rest index := by
  rcases owed with ⟨flooding, member, added, starts⟩
  exact ⟨flooding, member, added, extended.startsTimer starts⟩

/-- What the loop of a call leaves of the call. -/
structure Continues (flooding later : Flooding) : Prop where
  source : later.source = flooding.source
  neighborCount : later.neighborCount = flooding.neighborCount
  added : flooding.lsaAddedToRetransmissionList = true → later.lsaAddedToRetransmissionList = true

theorem Owed.continued (owed : Owed intf (flooding :: rest) index)
    (continued : Continues flooding later) (extended : Extends intf next) :
    Owed next (later :: rest) index := by
  rcases owed with ⟨call, member, added, starts⟩
  rcases List.mem_cons.mp member with rfl | member
  · refine ⟨later, List.mem_cons_self, continued.added added, ?_⟩
    rw [startsTimer_congr continued.source continued.neighborCount]
    exact extended.startsTimer starts
  · exact ⟨call, List.mem_cons_of_mem _ member, added, extended.startsTimer starts⟩

/-- The list and the timer of a neighbour are left as they are. -/
structure SameTimer (before after : Neighbor) : Prop where
  list : after.linkStateRetransmissionList = before.linkStateRetransmissionList
  timer : after.updateRetransmissionTimer = before.updateRetransmissionTimer
  flag : after.updateRetransmissionTimerActive = before.updateRetransmissionTimerActive

/-- A part of the first loop that adds nothing to a list. -/
structure Passes (flooding : Flooding) (intf : Interface) (gone : Flooding × Interface) : Prop where
  continued : Continues flooding gone.1
  extended : Extends intf gone.2
  same : ∀ index, SameTimer (intf.neighboringRouters index) (gone.2.neighboringRouters index)

theorem Passes.inOrder
    (passed : Passes flooding intf gone) (ordered : InOrder ⟨intf, flooding :: rest⟩) :
    InOrder ⟨gone.2, gone.1 :: rest⟩ where
  flag index bound := by
    rw [passed.extended.neighborCount] at bound
    rw [(passed.same _).flag, (passed.same _).timer]
    exact ordered.flag _ bound
  runs index bound nonempty := by
    rw [passed.extended.neighborCount] at bound
    rw [(passed.same _).list] at nonempty
    rw [(passed.same _).timer]
    rcases ordered.runs _ bound nonempty with running | owed
    · exact .inl running
    · exact .inr (owed.continued passed.continued passed.extended)

theorem passes_unchanged (continued : Continues flooding later) :
    Passes flooding intf (later, intf) where
  continued
  extended := .refl intf
  same _ := ⟨rfl, rfl, rfl⟩

theorem removeFromRequestList_cases (neighbor : Neighbor) (lsaKey : LSAKeyType) :
    ∃ list state,
      neighbor.RemoveFromRequestList lsaKey =
        { neighbor with linkStateRequestList := list, state } ∧
      (state = neighbor.state ∨ state = .fullState) := by
  dsimp only [Neighbor.RemoveFromRequestList]
  split_ifs with done
  · refine ⟨NeighborLists.RemoveFromRequestList
      neighbor.linkStateRequestList lsaKey, .fullState, ?_, .inr rfl⟩
    unfold Neighbor.ProcessEvent
    rw [done.1]
    rfl
  · exact ⟨_, neighbor.state, rfl, .inl rfl⟩

theorem passes_removed (lsaKey : LSAKeyType) (continued : Continues flooding later) :
    Passes flooding intf
      (later,
        intf.setNeighbor index ((intf.neighboringRouters index).RemoveFromRequestList lsaKey)) := by
  obtain ⟨_, _, removed, advanced⟩ := removeFromRequestList_cases _ _
  rw [removed]
  refine ⟨continued, extends_setNeighbor rfl fun before => ?_, fun other => ?_⟩
  · rcases advanced with rfl | rfl
    · exact before
    · rfl
  · rw [neighbors_setNeighbor]
    split_ifs with same
    · rw [same]
      exact ⟨rfl, rfl, rfl⟩
    · exact ⟨rfl, rfl, rfl⟩

theorem passes_visit : Passes flooding intf (flooding.resume.visit intf) := by
  dsimp only [Flooding.visit]
  split_ifs
  · exact passes_unchanged ⟨rfl, rfl, id⟩
  · exact passes_unchanged ⟨rfl, rfl, id⟩
  · split
    · exact passes_unchanged ⟨rfl, rfl, id⟩
    · split_ifs
      · exact passes_unchanged ⟨rfl, rfl, id⟩
      · exact passes_removed _ ⟨rfl, rfl, id⟩
      · exact passes_removed _ ⟨rfl, rfl, id⟩

/-- The LSA is added only to a list whose timer runs or will be started. -/
theorem inOrder_add (ordered : InOrder ⟨intf, flooding :: rest⟩)
    (admitted :
      flooding.source ≠ .neighbor flooding.next →
        (intf.neighboringRouters flooding.next).updateRetransmissionTimerActive = true ∨
          flooding.startsTimer intf flooding.next = true ∨ Owed intf rest flooding.next) :
    InOrder ⟨(flooding.resume.add intf).2, (flooding.resume.add intf).1 :: rest⟩ := by
  unfold Flooding.add
  split_ifs with sender
  · have passed : Passes flooding intf (flooding.resume.goOn, intf) :=
      passes_unchanged ⟨rfl, rfl, id⟩
    exact passed.inOrder ordered
  · let later : Flooding := { flooding.resume.goOn with lsaAddedToRetransmissionList := true }
    let added : Neighbor :=
      { intf.neighboringRouters flooding.next with
        linkStateRetransmissionList :=
          AddToRetransmissionList
            (intf.neighboringRouters flooding.next).linkStateRetransmissionList flooding.lsa }
    have continued : Continues flooding later := ⟨rfl, rfl, fun _ => rfl⟩
    have extended : Extends intf (intf.setNeighbor flooding.next added) :=
      extends_setNeighbor rfl id
    constructor
    · intro _ bound
      have flag := ordered.flag _ bound
      rw [neighbors_setNeighbor]
      split_ifs with same
      · rwa [same] at flag
      · exact flag
    · intro index bound
      change
        ((intf.setNeighbor flooding.next added).neighboringRouters
            index).linkStateRetransmissionList ≠ [] →
          ((intf.setNeighbor flooding.next added).neighboringRouters
            index).updateRetransmissionTimer = true ∨
              Owed (intf.setNeighbor flooding.next added) (later :: rest) index
      rw [neighbors_setNeighbor]
      split_ifs with same
      · intro _
        subst same
        rcases admitted sender with active | starts | owed
        · exact .inl ((ordered.flag _ bound).symm.trans active)
        · refine .inr ⟨later, List.mem_cons_self, rfl, ?_⟩
          rw [startsTimer_congr continued.source continued.neighborCount]
          exact extended.startsTimer starts
        · rcases owed.extend extended with ⟨call, member, called, starts⟩
          exact .inr ⟨call, List.mem_cons_of_mem _ member, called, starts⟩
      · intro nonempty
        rcases ordered.runs _ bound nonempty with running | owed
        · exact .inl running
        · exact .inr (owed.continued continued extended)

theorem extends_finish : Extends intf (flooding.finish intf) where
  interfaceType := rfl
  state := rfl
  designatedRouter := rfl
  backupDesignatedRouter := rfl
  neighborCount := rfl
  byID := rfl
  neighborID index := by
    dsimp only [Flooding.finish]
    split_ifs <;> rfl
  exchanging index before := by
    dsimp only [Flooding.finish]
    split_ifs <;> exact before

theorem inOrder_finish (ordered : InOrder ⟨intf, flooding :: rest⟩) :
    InOrder ⟨flooding.finish intf, rest⟩ where
  flag index bound := by
    have flag := ordered.flag _ bound
    dsimp only [Flooding.finish]
    split_ifs
    · rfl
    · exact flag
  runs index bound := by
    have extended : Extends intf (flooding.finish intf) := extends_finish
    have before := ordered.runs _ bound
    have flag := ordered.flag _ bound
    intro nonempty
    by_cases starts :
      flooding.lsaAddedToRetransmissionList = true ∧
        flooding.startsTimer intf index = true ∧
          (intf.neighboringRouters index).updateRetransmissionTimerActive = false
    · left
      dsimp only [Flooding.finish]
      rw [if_pos starts]
      rfl
    · have kept :
          (flooding.finish intf).neighboringRouters index =
            intf.neighboringRouters index := if_neg starts
      rw [kept] at nonempty ⊢
      rcases before nonempty with running | ⟨call, member, added, owed⟩
      · exact .inl running
      · rcases List.mem_cons.mp member with rfl | member
        · left
          rw [← flag]
          by_contra inactive
          exact starts ⟨added, owed, Bool.eq_false_of_not_eq_true inactive⟩
        · exact .inr ⟨call, member, added, extended.startsTimer owed⟩

end Calls

/-! ### Runs -/

section Runs

/-- Without calls in progress every neighbour is in order by itself. -/
theorem InOrder.running (ordered : InOrder system) (idle : system.floodings = [])
    (bound : index < system.intf.neighborCount) :
    Running (system.intf.neighboringRouters index) where
  flag := ordered.flag index bound
  runs nonempty := by
    rcases ordered.runs _ bound nonempty with running | ⟨_, member, _⟩
    · exact running
    · rw [idle] at member
      cases member

theorem inOrder_of_running
    (running :
      ∀ index, index < system.intf.neighborCount → Running (system.intf.neighboringRouters index)) :
    InOrder system where
  flag index bound := (running index bound).flag
  runs index bound nonempty := .inl ((running index bound).runs nonempty)

theorem InOrder.updateNeighbor (ordered : InOrder system) (idle : system.floodings = [])
    (bound : index < system.intf.neighborCount)
    (updated :
      Running (system.intf.neighboringRouters index) →
        Running (update (system.intf.neighboringRouters index))) :
    InOrder (system.updateNeighbor index update) := by
  refine inOrder_of_running fun other otherBound => ?_
  rw [System.updateNeighbor, neighbors_setNeighbor]
  split_ifs
  · exact updated (ordered.running idle bound)
  · exact ordered.running idle otherBound

section

variable (ordered : InOrder system)
include ordered

theorem InOrder.removeFromAll (lsaKey : LSAKeyType) : InOrder (system.removeFromAll lsaKey) where
  flag := ordered.flag
  runs index bound nonempty := by
    have before := ordered.runs _ bound (removed_nonempty nonempty)
    rcases before with running | ⟨call, member, added, starts⟩
    · exact .inl running
    · have extended : Extends system.intf (system.removeFromAll lsaKey).intf :=
        ⟨rfl, rfl, rfl, rfl, rfl, rfl, fun _ => rfl, fun _ before => before⟩
      exact .inr ⟨call, member, added, extended.startsTimer starts⟩

theorem InOrder.flood (lsa : OSPFLSAHeader)
    (source : Source) : InOrder (system.flood lsa source) := by
  unfold System.flood
  split_ifs
  · refine ⟨ordered.flag, fun index bound nonempty => ?_⟩
    rcases ordered.runs _ bound nonempty with running | owed
    · exact .inl running
    · rcases owed with ⟨call, member, added, starts⟩
      exact .inr ⟨call, List.mem_cons_of_mem _ member, added, starts⟩
  · exact ordered

theorem InOrder.proceed (admitted : Admits system .proceed) : InOrder system.proceed := by
  unfold System.proceed
  cases system with
  | mk _ floodings =>
    cases floodings with
    | nil => exact ordered
    | cons _ _ =>
      dsimp only
      split_ifs with inside passed
      · exact inOrder_add ordered (admitted _ _ rfl inside passed)
      · exact Passes.inOrder passes_visit ordered
      · exact inOrder_finish ordered

theorem inOrder_step
    (admitted : Admits system action) (taken : step system action next) : InOrder next := by
  rcases taken with ⟨enabled, rfl⟩
  cases action with
  | addNeighbor _ =>
    have idle := of_decide_eq_true enabled
    refine inOrder_of_running fun index bound => ?_
    rw [System.perform, Interface.AddNeighbor, neighbors_setNeighbor]
    split_ifs with same
    · exact running_create _
    · have smaller : index < system.intf.neighborCount :=
        lt_of_le_of_ne (Nat.le_of_lt_succ bound) same
      exact ordered.running idle smaller
  | setDeclared _ _ =>
    rcases Bool.and_eq_true_iff.mp enabled with ⟨idle, bound⟩
    rw [System.perform]
    exact ordered.updateNeighbor (of_decide_eq_true idle)
      (of_decide_eq_true bound) fun running => ⟨running.flag, running.runs⟩
  | setInterface _ _ _ =>
    have idle := of_decide_eq_true enabled
    exact inOrder_of_running fun index bound => ordered.running idle bound
  | neighborEvent _ event =>
    rcases Bool.and_eq_true_iff.mp enabled with ⟨settled, _⟩
    rcases Bool.and_eq_true_iff.mp settled with ⟨idle, bound⟩
    rw [System.perform]
    exact ordered.updateNeighbor (of_decide_eq_true idle)
      (of_decide_eq_true bound) fun running => running.processEvent _ event
  | addToRequestList _ _ =>
    rcases Bool.and_eq_true_iff.mp enabled with ⟨idle, bound⟩
    rw [System.perform]
    exact ordered.updateNeighbor (of_decide_eq_true idle)
      (of_decide_eq_true bound) fun running => ⟨running.flag, running.runs⟩
  | removeFromRetransmissionList _ _ =>
    rcases Bool.and_eq_true_iff.mp enabled with ⟨idle, bound⟩
    rw [System.perform]
    exact ordered.updateNeighbor (of_decide_eq_true idle)
      (of_decide_eq_true bound) fun running => running.shortened removed_nonempty
  | removeFromAllRetransmissionLists lsaKey => exact ordered.removeFromAll lsaKey
  | acknowledge _ lsaHeaders =>
    rcases Bool.and_eq_true_iff.mp enabled with ⟨idle, bound⟩
    exact ordered.updateNeighbor (of_decide_eq_true idle)
      (of_decide_eq_true bound) fun running => running.acknowledge lsaHeaders
  | expire _ =>
    rcases Bool.and_eq_true_iff.mp enabled with ⟨settled, _⟩
    rcases Bool.and_eq_true_iff.mp settled with ⟨idle, bound⟩
    exact ordered.updateNeighbor (of_decide_eq_true idle)
      (of_decide_eq_true bound) fun _ => running_expire admitted
  | flood lsa source => exact ordered.flood lsa source
  | proceed => exact ordered.proceed admitted

end

end Runs

/-- An interface that has no neighbours yet. -/
def started (intf : Interface) : System where
  intf := { intf with neighborCount := 0 }
  floodings := []

/--
In a run in which every LSA is added only to a list whose timer is active or
is started by the flood, and no timer expires in a state that ignores it, the
timer of every neighbour in `ExchangeState` or above runs while its list is
not empty, and its flag tells whether it runs.
-/
theorem reliable_run {intf : Interface} {actions : List Action} {last : System}
    (run : Run (guardedStep Admits step) (started intf) actions last)
    (idle : last.floodings = []) {index : Nat} (bound : index < last.intf.neighborCount) :
    Reliable (last.intf.neighboringRouters index) := by
  have initial : InOrder (started intf) :=
    inOrder_of_running fun _ bound => absurd bound (Nat.not_lt_zero _)
  have ordered :=
    run.guarded (fun _ _ _ ordered admitted taken => inOrder_step ordered admitted taken) initial
  exact (ordered.running idle bound).reliable

/-- The events that make a neighbour fully adjacent. -/
def adjacent (index : Nat) : List Action :=
  [ .neighborEvent index .helloReceived, .neighborEvent index .twoWayReceived,
    .neighborEvent index .negotiationDone, .neighborEvent index .exchangeDone ]

def sampleRouter (routerID : Nat) : HelloPackets.Neighbor where
  neighborID := routerID
  neighborIPAddress := routerID
  neighborsDesignatedRouter := NullDesignatedRouterID
  neighborsBackupDesignatedRouter := NullDesignatedRouterID
  designatedRoutersSetUp := false

def sampleInterface (interfaceType : OSPFInterfaceType) : Interface where
  routerID := 1
  interfaceType
  areaID := BackboneAreaID
  externalRoutingCapability := true
  state := .pointToPointState
  designatedRouter := NullDesignatedRouterID
  backupDesignatedRouter := NullDesignatedRouterID
  neighborCount := 0
  neighboringRouters := fun _ => .create (sampleRouter 0)
  neighboringRoutersByID := fun _ => none

def sampleLSA : OSPFLSAHeader where
  linkStateID := 9
  advertisingRouter := 9

/-- An LSA is flooded to the one neighbour of a point-to-point interface. -/
def floodedOnLink : List Action :=
  [.addNeighbor (sampleRouter 2)] ++ adjacent 0 ++
    [.flood sampleLSA .elsewhere, .proceed, .proceed, .proceed]

theorem floodedOnLink_run :
    Run (guardedStep Admits step) (started (sampleInterface .pointToPoint)) floodedOnLink
      (floodedOnLink.foldl System.perform (started (sampleInterface .pointToPoint))) :=
  .next ⟨trivial, rfl, rfl⟩ <| .next ⟨trivial, rfl, rfl⟩ <|
    .next ⟨trivial, rfl, rfl⟩ <| .next ⟨trivial, rfl, rfl⟩ <|
    .next ⟨trivial, rfl, rfl⟩ <| .next ⟨trivial, rfl, rfl⟩ <|
    .next
      ⟨by
        rintro _ _ ⟨⟩ _ passed
        exact absurd passed (by decide), rfl, rfl⟩ <|
    .next
      ⟨by
        rintro _ _ ⟨⟩ _ _ _
        exact .inr (.inl rfl), rfl, rfl⟩ <|
    .next
      ⟨by
        rintro _ _ ⟨⟩ inside
        exact absurd inside (by decide), rfl, rfl⟩ <|
    .idle _

theorem reliable_run_floodedOnLink :
    Reliable
      ((floodedOnLink.foldl System.perform
          (started (sampleInterface .pointToPoint))).intf.neighboringRouters
        0) :=
  reliable_run floodedOnLink_run rfl (by decide)

/--
The backup designated router gets an LSA from a third router on the network.
-/
def floodedByBackup : List Action :=
  [ .addNeighbor (sampleRouter 2), .addNeighbor (sampleRouter 3),
    .setInterface .backupState { routerID := 2, ipInterfaceAddress := 2 }
      { routerID := 1, ipInterfaceAddress := 1 } ] ++
    adjacent 0 ++ adjacent 1 ++
    [ .flood sampleLSA (.neighbor 1), .proceed, .proceed, .proceed, .proceed, .proceed ]

/-- Every action is enabled when it comes. -/
def enabledAlong (system : System) : List Action → Bool
  | [] => true
  | action :: rest => system.enabled action && enabledAlong (system.perform action) rest

theorem run_of_enabledAlong (enabled : enabledAlong first actions = true) :
    Run step first actions (actions.foldl System.perform first) := by
  induction actions generalizing first with
  | nil => exact .idle _
  | cons _ _ induction =>
    rcases Bool.and_eq_true_iff.mp enabled with ⟨head, tail⟩
    exact .next ⟨head, rfl⟩ (induction tail)

theorem floodedByBackup_run :
    Run step (started (sampleInterface .broadcast)) floodedByBackup
      (floodedByBackup.foldl System.perform (started (sampleInterface .broadcast))) :=
  run_of_enabledAlong (by decide +kernel)

/-- The LSA stays on the list of the designated router without a timer. -/
theorem listed_without_timer :
    ∃ last,
      Run step (started (sampleInterface .broadcast)) floodedByBackup last ∧
        last.floodings = [] ∧ 0 < last.intf.neighborCount ∧
        (last.intf.neighboringRouters 0).state = .fullState ∧
        (last.intf.neighboringRouters 0).linkStateRetransmissionList = [sampleLSA] ∧
        (last.intf.neighboringRouters 0).updateRetransmissionTimer = false ∧
        ¬Reliable (last.intf.neighboringRouters 0) := by
  refine ⟨_, floodedByBackup_run, rfl, by decide, rfl, rfl, rfl, ?_⟩
  intro reliable
  exact absurd (reliable rfl).1 (by decide)

end OmnetDsi.Ospf.ReliableFlooding
