import OmnetDsi.Contract.Endpoints
import OmnetDsi.Library.Fallible
import OmnetDsi.Library.KeyedLists
import OmnetDsi.Library.Transition
import OmnetDsi.Tcp.StateMachine
import Mathlib.Data.Multiset.AddSub

/-!
# The connections of the TCP module

The module finds a connection in one of two maps: `tcpAppConnMap` leads from
the gate and the id that the application uses to the connection, `tcpConnMap`
from the pair of its sockets.  The multiset `usedEphemeralPorts` counts the
connections on each port of the ephemeral range; ports outside the range,
which are never assigned, are not counted.

A connection gets its pair when it is opened, and is moved to another one when
a SYN fills in the ends that were missing.  A listening connection that forks
leaves its old pair and its id to a clone of itself.  Along every run the
three containers describe the open connections (`Registered`), and a segment
is given to the connection whose pair says most about it.
-/

namespace OmnetDsi.Tcp.SocketTable

open Function (comp_apply comp_update update update_eq_self update_idem update_of_ne update_self)
open Option (map map_some some)
open Contract.Addresses Contract.Endpoints Library.Fallible Library.KeyedLists Library.Transition
open Tcp.StateMachine IPvXAddress List

/-! ## The module -/

structure AppConnKey where
  appGateIndex : Int
  connId : Int
deriving DecidableEq

structure SockPair where
  localAddr : IPvXAddress
  remoteAddr : IPvXAddress
  localPort : Int
  remotePort : Int

/-- The `operator<` of socket pairs. -/
def SockPair.less (stale : Bool) (left right : SockPair) : Bool :=
  if left.remoteAddr.equals stale right.remoteAddr = false then
    left.remoteAddr.lessThan right.remoteAddr
  else if left.localAddr.equals stale right.localAddr = false then
    left.localAddr.lessThan right.localAddr
  else if left.remotePort ≠ right.remotePort then decide (left.remotePort < right.remotePort)
  else decide (left.localPort < right.localPort)

/-- What the tables of the module know of a connection. -/
structure TCPConnection where
  appGateIndex : Int
  connId : Int
  localAddr : IPvXAddress
  remoteAddr : IPvXAddress
  localPort : Int
  remotePort : Int
  fsm : TcpState
  active : Bool
  fork : Bool

namespace TCPConnection

def sockPair (conn : TCPConnection) : SockPair where
  localAddr := conn.localAddr
  remoteAddr := conn.remoteAddr
  localPort := conn.localPort
  remotePort := conn.remotePort

def appConnKey (conn : TCPConnection) : AppConnKey where
  appGateIndex := conn.appGateIndex
  connId := conn.connId

def setSockPair (conn : TCPConnection) (pair : SockPair) : TCPConnection :=
  { conn with
    localAddr := pair.localAddr
    remoteAddr := pair.remoteAddr
    localPort := pair.localPort
    remotePort := pair.remotePort }

/-- A connection as the constructor leaves it. -/
def create (appGateIndex connId : Int) : TCPConnection where
  appGateIndex
  connId
  localAddr := .unspecified
  remoteAddr := .unspecified
  localPort := -1
  remotePort := -1
  fsm := .init
  active := false
  fork := false

/-- The connection that stays listening when this one forks. -/
def cloneListeningConnection (conn : TCPConnection) : TCPConnection :=
  { create conn.appGateIndex conn.connId with
    localAddr := conn.localAddr
    localPort := conn.localPort
    fsm := .listen
    active := false
    fork := true }

@[simp]
theorem appConnKey_setSockPair (conn : TCPConnection) (pair : SockPair) :
    (conn.setSockPair pair).appConnKey = conn.appConnKey :=
  rfl

end TCPConnection

abbrev Pointer := Nat

structure TCP where
  heap : Pointer → Option TCPConnection
  tcpAppConnMap : AppConnKey → Option Pointer
  tcpConnMap : List (SockPair × Pointer)
  lastEphemeralPort : Int
  usedEphemeralPorts : Multiset Int

structure TCPSegment where
  srcPort : Int
  destPort : Int
  ackBit : Bool := false
  rstBit : Bool := false
  synBit : Bool := false

structure TCPOpenCommand where
  localAddr : IPvXAddress := .unspecified
  remoteAddr : IPvXAddress := .unspecified
  localPort : Int := -1
  remotePort : Int := -1
  fork : Bool := false

inductive Failure where
  | remoteNotSpecified
  | localNotSpecified
  | portsExhausted
  | searchRunning
  | addressInUse
  | assertion
  | connectionExists
  | noConnection

namespace TCP

/-- The module when it has started. -/
def initial : TCP where
  heap := fun _ => none
  tcpAppConnMap := fun _ => none
  tcpConnMap := []
  lastEphemeralPort := EPHEMERAL_PORTRANGE_START
  usedEphemeralPorts := 0

/-- The pair of a segment that is for this end. -/
def segmentPair (tcpseg : TCPSegment) (srcAddr destAddr : IPvXAddress) : SockPair where
  localAddr := destAddr
  remoteAddr := srcAddr
  localPort := tcpseg.destPort
  remotePort := tcpseg.srcPort

/-- The keys that are tried, in this order. -/
def segmentKeys (tcpseg : TCPSegment) (srcAddr destAddr : IPvXAddress) : List SockPair :=
  let key := segmentPair tcpseg srcAddr destAddr
  [key, { key with localAddr := .unspecified },
    { key with remoteAddr := .unspecified, remotePort := -1 },
    { key with remoteAddr := .unspecified, remotePort := -1, localAddr := .unspecified }]

variable (stale : Bool)

def findConnForSegment (tcp : TCP) (tcpseg : TCPSegment)
    (srcAddr destAddr : IPvXAddress) : Option Pointer :=
  (segmentKeys tcpseg srcAddr destAddr).findSome? fun key =>
    find (SockPair.less stale) key tcp.tcpConnMap

def addSockPair (tcp : TCP) (pointer : Pointer) (conn : TCPConnection)
    (pair : SockPair) : Except Failure TCP :=
  if (find (SockPair.less stale) pair tcp.tcpConnMap).isSome then .error .addressInUse
  else
    .ok { tcp with
      heap := update tcp.heap pointer (some (conn.setSockPair pair))
      tcpConnMap := assign (SockPair.less stale) pair pointer tcp.tcpConnMap
      usedEphemeralPorts :=
        if Ephemeral pair.localPort then pair.localPort ::ₘ tcp.usedEphemeralPorts
        else tcp.usedEphemeralPorts }

def updateSockPair (tcp : TCP) (pointer : Pointer) (conn : TCPConnection)
    (pair : SockPair) : Except Failure TCP :=
  if find (SockPair.less stale) conn.sockPair tcp.tcpConnMap ≠ some pointer then .error .assertion
  else if conn.localPort ≠ pair.localPort then .error .assertion
  else
    .ok { tcp with
      heap := update tcp.heap pointer (some (conn.setSockPair pair))
      tcpConnMap :=
        assign (SockPair.less stale) pair pointer
          (erase (SockPair.less stale) conn.sockPair tcp.tcpConnMap) }

/-- `conn` gets the connection id `uniqueNumber`, `newConn` keeps its own. -/
def addForkedConnection (tcp : TCP) (pointer : Pointer) (conn : TCPConnection)
    (newPointer : Pointer) (newConn : TCPConnection) (pair : SockPair)
    (uniqueNumber : Int) : Except Failure TCP := do
  let updated ← updateSockPair stale tcp pointer conn pair
  let added ← addSockPair stale updated newPointer newConn newConn.sockPair
  let forked := { conn.setSockPair pair with connId := uniqueNumber }
  .ok { added with
    heap := update added.heap pointer (some forked)
    tcpAppConnMap :=
      update
        (update (update added.tcpAppConnMap conn.appConnKey none) forked.appConnKey (some pointer))
        newConn.appConnKey (some newPointer) }

/-- One occurrence of the port is removed, if there is any. -/
def removeConnection (tcp : TCP) (pointer : Pointer) (conn : TCPConnection) : TCP :=
  { tcp with
    heap := update tcp.heap pointer none
    tcpAppConnMap := update tcp.tcpAppConnMap conn.appConnKey none
    tcpConnMap := erase (SockPair.less stale) conn.sockPair tcp.tcpConnMap
    usedEphemeralPorts := tcp.usedEphemeralPorts.erase conn.localPort }

/-- The state transition, and the removal of a connection that is closed. -/
def finishProcessing (tcp : TCP) (pointer : Pointer) (event : TCPEventCode) : Except Failure TCP :=
  match tcp.heap pointer with
  | none => .error .noConnection
  | some conn =>
    let fsm := performStateTransition conn.active conn.fsm event
    if fsm = .closed then .ok (removeConnection stale tcp pointer conn)
    else .ok { tcp with heap := update tcp.heap pointer (some { conn with fsm }) }

/-- The local port of an active OPEN, and the last ephemeral port after it. -/
def openPort (tcp : TCP) (localPort : Int) : Except Failure (Int × Int) :=
  if localPort = -1 then
    match getEphemeralPort (fun port => decide (port ∈ tcp.usedEphemeralPorts))
        tcp.lastEphemeralPort with
    | .found port => .ok (port, port)
    | .exhausted => .error .portsExhausted
    | .running => .error .searchRunning
  else .ok (localPort, tcp.lastEphemeralPort)

/-- The pair that an active OPEN asks for. -/
def activePair (openCmd : TCPOpenCommand) (localPort : Int) : SockPair where
  localAddr := openCmd.localAddr
  remoteAddr := openCmd.remoteAddr
  localPort
  remotePort := toShort openCmd.remotePort

def process_OPEN_ACTIVE (tcp : TCP) (pointer : Pointer) (conn : TCPConnection)
    (openCmd : TCPOpenCommand) : Except Failure TCP :=
  if openCmd.remoteAddr.isUnspecified ∨ toShort openCmd.remotePort = -1 then
    .error .remoteNotSpecified
  else do
    let (localPort, lastEphemeralPort) ← openPort tcp (toShort openCmd.localPort)
    addSockPair stale { tcp with lastEphemeralPort } pointer
      { conn with active := true } (activePair openCmd localPort)

/-- The pair on which a passive OPEN listens. -/
def passivePair (openCmd : TCPOpenCommand) : SockPair where
  localAddr := openCmd.localAddr
  remoteAddr := .unspecified
  localPort := toShort openCmd.localPort
  remotePort := -1

def process_OPEN_PASSIVE (tcp : TCP) (pointer : Pointer) (conn : TCPConnection)
    (openCmd : TCPOpenCommand) : Except Failure TCP :=
  if toShort openCmd.localPort = -1 then .error .localNotSpecified
  else
    addSockPair stale tcp pointer
      { conn with active := false, fork := openCmd.fork } (passivePair openCmd)

/-- An OPEN command; the connection is created for it. -/
def openConnection (tcp : TCP) (pointer : Pointer) (key : AppConnKey)
    (active : Bool) (openCmd : TCPOpenCommand) : Except Failure TCP :=
  if (tcp.tcpAppConnMap key).isSome then .error .connectionExists
  else do
    let conn := TCPConnection.create key.appGateIndex key.connId
    let created := { tcp with tcpAppConnMap := update tcp.tcpAppConnMap key (some pointer) }
    if active then do
      let opened ← process_OPEN_ACTIVE stale created pointer conn openCmd
      finishProcessing stale opened pointer .openActive
    else do
      let opened ← process_OPEN_PASSIVE stale created pointer conn openCmd
      finishProcessing stale opened pointer .openPassive

/-- A SEND turns a passive open into an active one. -/
def commandInvoked (tcp : TCP) (pointer : Pointer) (event : TCPEventCode) : Except Failure TCP :=
  match tcp.heap pointer with
  | none => .error .noConnection
  | some conn =>
    if conn.fsm = .listen ∧ event = .send then
      .ok { tcp with
        heap :=
          update tcp.heap pointer
            (some { conn with active := true }) }
    else .ok tcp

/-- The event with which a listening connection answers a segment. -/
def listenEvent (tcpseg : TCPSegment) : TCPEventCode :=
  if tcpseg.rstBit then .ignore
  else if tcpseg.ackBit then .ignore
  else if tcpseg.synBit then .rcvSyn
  else .ignore

/-- The events with which the tables are changed for a segment. -/
def fillsIn (fsm : TcpState) (event : TCPEventCode) : Bool :=
  match fsm, event with
  | .listen, .rcvSyn => true
  | .synSent, .rcvSyn => true
  | .synSent, .rcvSynAck => true
  | _, _ => false

/-- The part of the processing of a segment that changes the tables. -/
def segmentProcessed (tcp : TCP) (pointer newPointer : Pointer)
    (pair : SockPair) (event : TCPEventCode) (uniqueNumber : Int) : Except Failure TCP :=
  match tcp.heap pointer with
  | none => .error .noConnection
  | some conn =>
    if fillsIn conn.fsm event then
      if conn.fsm = .listen ∧ conn.fork then
        addForkedConnection stale tcp pointer conn newPointer
          conn.cloneListeningConnection pair uniqueNumber
      else updateSockPair stale tcp pointer conn pair
    else .ok tcp

end TCP

/-! ## Runs of the module -/

/-- The module, and the next number that `getUniqueNumber` returns. -/
structure World where
  tcp : TCP
  uniqueNumber : Int

def World.initial : World where
  tcp := .initial
  uniqueNumber := 0

/--
What happens to the module.  The event code is the one with which the
processing of a command, a timer or a segment ends.
-/
inductive Event where
  | socket
  | openCommand (pointer : Pointer) (key : AppConnKey) (active : Bool) (openCmd : TCPOpenCommand)
  | command (key : AppConnKey) (code : TCPEventCode)
  | timer (pointer : Pointer) (code : TCPEventCode)
  | segment (tcpseg : TCPSegment) (srcAddr destAddr : IPvXAddress)
      (newPointer : Pointer) (code : TCPEventCode)

/-- The connection with which the code only leads to a state transition. -/
def OnlyTransits (tcp : TCP) (pointer : Pointer) (code : TCPEventCode) : Prop :=
  ∀ conn, tcp.heap pointer = some conn → TCP.fillsIn conn.fsm code = false

/-- The number after a segment; a connection that forks takes one. -/
def numberAfter (world : World) (pointer : Pointer) (code : TCPEventCode) : Int :=
  match world.tcp.heap pointer with
  | none => world.uniqueNumber
  | some conn =>
    if conn.fsm = .listen ∧ code = .rcvSyn ∧ conn.fork then world.uniqueNumber + 1
    else world.uniqueNumber

/--
One event without an error.  The ids of applications are numbers that they got
from `getUniqueNumber`; a new connection may get any address that is free.
-/
inductive Step (stale : Bool) : World → Event → World → Prop where
  | socket {world : World} :
      Step stale world .socket { world with uniqueNumber := world.uniqueNumber + 1 }
  | openCommand {world : World} {pointer : Pointer} {key : AppConnKey}
      {active : Bool} {openCmd : TCPOpenCommand} {tcp : TCP}
      (free : world.tcp.heap pointer = none) (known : key.connId < world.uniqueNumber)
      (opened : world.tcp.openConnection stale pointer key active openCmd = .ok tcp) :
      Step stale world (.openCommand pointer key active openCmd) { world with tcp }
  | command {world : World} {key : AppConnKey} {code : TCPEventCode}
      {pointer : Pointer} {invoked tcp : TCP} (found : world.tcp.tcpAppConnMap key = some pointer)
      (onlyTransits : OnlyTransits world.tcp pointer code)
      (invokes : world.tcp.commandInvoked pointer code = .ok invoked)
      (finished : invoked.finishProcessing stale pointer code = .ok tcp) :
      Step stale world (.command key code) { world with tcp }
  | timer {world : World} {pointer : Pointer} {code : TCPEventCode} {tcp : TCP}
      (onlyTransits : OnlyTransits world.tcp pointer code)
      (finished : world.tcp.finishProcessing stale pointer code = .ok tcp) :
      Step stale world (.timer pointer code) { world with tcp }
  | segment {world : World} {tcpseg : TCPSegment}
      {srcAddr destAddr : IPvXAddress} {pointer newPointer : Pointer}
      {code : TCPEventCode} {processed tcp : TCP}
      (found : world.tcp.findConnForSegment stale tcpseg srcAddr destAddr = some pointer)
      (free : world.tcp.heap newPointer = none)
      (listening :
        ∀ conn, world.tcp.heap pointer = some conn →
          conn.fsm = .listen → code = TCP.listenEvent tcpseg)
      (processes :
        world.tcp.segmentProcessed stale pointer newPointer
            (TCP.segmentPair tcpseg srcAddr destAddr) code world.uniqueNumber =
          .ok processed)
      (finished : processed.finishProcessing stale pointer code = .ok tcp) :
      Step stale world (.segment tcpseg srcAddr destAddr newPointer code)
        { tcp, uniqueNumber := numberAfter world pointer code }
  | segmentWhileClosed {world : World} {tcpseg : TCPSegment}
      {srcAddr destAddr : IPvXAddress} {newPointer : Pointer} {code : TCPEventCode}
      (unknown : world.tcp.findConnForSegment stale tcpseg srcAddr destAddr = none) :
      Step stale world (.segment tcpseg srcAddr destAddr newPointer code) world

/-- The addresses of an event are among those that are told apart. -/
def Addressed (addresses : IPvXAddress → Prop) : Event → Prop
  | .openCommand _ _ _ openCmd => addresses openCmd.localAddr ∧ addresses openCmd.remoteAddr
  | .segment _ srcAddr destAddr _ _ => addresses srcAddr ∧ addresses destAddr
  | _ => True

/-! ## The tables and the open connections -/

/-- Pairs of addresses that are told apart. -/
def Known (addresses : IPvXAddress → Prop) (pair : SockPair) : Prop :=
  addresses pair.localAddr ∧ addresses pair.remoteAddr

def pairOf (tcp : TCP) : Pointer → Option SockPair :=
  map TCPConnection.sockPair ∘ tcp.heap

def keyOf (tcp : TCP) : Pointer → Option AppConnKey :=
  map TCPConnection.appConnKey ∘ tcp.heap

/-- The map has an entry for each connection that has a pair, and no other. -/
structure PairsHeld (addresses : IPvXAddress → Prop)
    (pairOf : Pointer → Option SockPair) (map : List (SockPair × Pointer)) : Prop where
  keyed : Keyed (Known addresses) map
  mem_iff : ∀ pair pointer, (pair, pointer) ∈ map ↔ pairOf pointer = some pair

/-- Each key leads to the connection that has it. -/
def AppsHeld (keyOf : Pointer → Option AppConnKey) (map : AppConnKey → Option Pointer) : Prop :=
  ∀ key pointer, map key = some pointer ↔ keyOf pointer = some key

/-- The entries with a local port. -/
def onPort (port : Int) (map : List (SockPair × Pointer)) : Nat :=
  map.countP fun entry => entry.1.localPort = port

/-- The ports of the ephemeral range are counted. -/
def PortsCounted (map : List (SockPair × Pointer)) (used : Multiset Int) : Prop :=
  ∀ port, used.count port = if Ephemeral port then onPort port map else 0

section Order

variable (told : ToldApart addresses)
variable (stale : Bool)

include told

theorem less_self (known : Known addresses pair) : pair.less stale pair = false := by
  have remotes := (equals_iff told stale known.2 known.2).mpr rfl
  have locals := (equals_iff told stale known.1 known.1).mpr rfl
  simp [SockPair.less, remotes, locals]

theorem less_total (leftKnown : Known addresses left)
    (rightKnown : Known addresses right) (differ : left ≠ right) :
    left.less stale right = true ∨ right.less stale left = true := by
  have remotes := equals_iff told stale leftKnown.2 rightKnown.2
  have remotesBack := equals_iff told stale rightKnown.2 leftKnown.2
  have locals := equals_iff told stale leftKnown.1 rightKnown.1
  have localsBack := equals_iff told stale rightKnown.1 leftKnown.1
  simp only [SockPair.less, ← Bool.not_eq_true, remotes, remotesBack, locals, localsBack]
  by_cases remoteEq : left.remoteAddr = right.remoteAddr
  · rw [if_neg (not_not_intro remoteEq), if_neg (not_not_intro remoteEq.symm)]
    by_cases localEq : left.localAddr = right.localAddr
    · rw [if_neg (not_not_intro localEq), if_neg (not_not_intro localEq.symm)]
      by_cases remotePortEq : left.remotePort = right.remotePort
      · rw [if_neg (not_not_intro remotePortEq), if_neg (not_not_intro remotePortEq.symm)]
        have portNe : left.localPort ≠ right.localPort := by
          intro portEq
          apply differ
          rw [SockPair.mk.injEq]
          exact ⟨localEq, remoteEq, portEq, remotePortEq⟩
        simp only [decide_eq_true_eq]
        omega
      · rw [if_pos remotePortEq, if_pos (Ne.symm remotePortEq)]
        simp only [decide_eq_true_eq]
        omega
    · rw [if_pos localEq, if_pos (Ne.symm localEq)]
      exact lessThan_total localEq
  · rw [if_pos remoteEq, if_pos (Ne.symm remoteEq)]
    exact lessThan_total remoteEq

theorem tells_known : Tells (SockPair.less stale) (Known addresses) :=
  tells_of_total _ (fun _ known => less_self told _ known)
    fun _ _ leftKnown rightKnown => less_total told _ leftKnown rightKnown

end Order

/-! ## Changes of the tables -/

section Tables

variable {map : List (SockPair × Pointer)}

namespace PairsHeld

section

variable (told : ToldApart addresses) (held : PairsHeld addresses pairs map)
    (known : Known addresses pair)
include told held known

theorem find_eq_some :
    find (SockPair.less stale) pair map = some pointer ↔ pairs pointer = some pair := by
  rw [held.keyed.find_eq_some (tells_known told _) known, held.mem_iff]

theorem find_eq_none :
    find (SockPair.less stale) pair map = none ↔ ∀ pointer, pairs pointer ≠ some pair := by
  rw [held.keyed.find_eq_none (tells_known told _) known]
  exact forall_congr' fun pointer => not_congr (held.mem_iff _ _)

end

theorem known (held : PairsHeld addresses pairs map)
    (has : pairs pointer = some pair) : Known addresses pair :=
  held.keyed.among _ ((held.mem_iff _ _).mpr has)

section

variable (told : ToldApart addresses) (held : PairsHeld addresses pairs map)
include told held

theorem add (known : Known addresses pair)
    (absent : find (SockPair.less stale) pair map = none) (free : pairs pointer = none) :
    PairsHeld addresses (update pairs pointer (some pair))
      (assign (SockPair.less stale) pair pointer map) := by
  have tells := tells_known told stale
  rw [held.keyed.assign_new tells known absent]
  refine ⟨held.keyed.append_new tells known absent, ?_⟩
  intro _ holder
  rw [mem_append, mem_singleton, Prod.mk.injEq, held.mem_iff]
  by_cases same : holder = pointer
  · rw [same, update_self, free, some.injEq]
    simp [eq_comm]
  · simp [same]

theorem remove (has : pairs pointer = some pair) :
    PairsHeld addresses (update pairs pointer none) (erase (SockPair.less stale) pair map) := by
  refine ⟨held.keyed.erased, ?_⟩
  intro _ holder
  rw [held.keyed.mem_erase (tells_known told _) (held.known has), held.mem_iff]
  by_cases same : holder = pointer
  · rw [same, update_self, has, some.injEq]
    constructor
    · rintro ⟨equal, differ⟩
      exact absurd equal.symm differ
    · intro impossible
      cases impossible
  · rw [update_of_ne same]
    constructor
    · exact And.left
    · intro hasOther
      refine ⟨hasOther, ?_⟩
      rintro rfl
      apply same
      exact held.keyed.value_unique ((held.mem_iff _ _).mpr hasOther) ((held.mem_iff _ _).mpr has)

/-- A pair that was free or its own is free when the own one is erased. -/
theorem erased_free (has : pairs pointer = some own) (known : Known addresses pair)
    (free :
      find (SockPair.less stale) pair map = none ∨
        find (SockPair.less stale) pair map = some pointer) :
    find (SockPair.less stale) pair (erase (SockPair.less stale) own map) = none := by
  have without : PairsHeld addresses (update pairs pointer none)
      (erase (SockPair.less stale) own map) := held.remove told has
  rw [without.find_eq_none told known]
  intro holder
  by_cases same : holder = pointer
  · rw [same, update_self]
    simp
  · rw [update_of_ne same]
    rcases free with absent | present
    · exact (held.find_eq_none told known).mp absent _
    · intro hasToo
      have again : find (SockPair.less stale) pair map = some holder :=
        (held.find_eq_some told known).mpr hasToo
      rw [present] at again
      exact same (some.inj again).symm

theorem move (has : pairs pointer = some own) (known : Known addresses pair)
    (free :
      find (SockPair.less stale) pair map = none ∨
        find (SockPair.less stale) pair map = some pointer) :
    PairsHeld addresses (update pairs pointer (some pair))
      (assign (SockPair.less stale) pair pointer (erase (SockPair.less stale) own map)) := by
  have without : PairsHeld addresses (update pairs pointer none)
      (erase (SockPair.less stale) own map) := held.remove told has
  have added := without.add told known (held.erased_free told has known free) (update_self _ _ _)
  rwa [update_idem] at added

end

end PairsHeld

namespace PortsCounted

variable (told : ToldApart addresses)
include told

theorem add (counted : PortsCounted map used) (held : PairsHeld addresses pairs map)
    (known : Known addresses pair) (absent : find (SockPair.less stale) pair map = none) :
    PortsCounted (assign (SockPair.less stale) pair pointer map)
      (if Ephemeral pair.localPort then pair.localPort ::ₘ used
        else used) := by
  rw [held.keyed.assign_new (tells_known told _) known absent]
  intro port
  rw [onPort, countP_append, ← onPort, countP_singleton]
  by_cases same : pair.localPort = port
  · rw [same]
    by_cases among : Ephemeral port
    · rw [if_pos among, if_pos among, Multiset.count_cons_self, counted, if_pos among]
      simp
    · rw [if_neg among, if_neg among, counted, if_neg among]
  · have kept : Multiset.count port
        (if Ephemeral pair.localPort then pair.localPort ::ₘ used
          else used) = Multiset.count port used := by
      split_ifs
      · exact Multiset.count_cons_of_ne (Ne.symm same) _
      · rfl
    rw [kept, counted _]
    simp [same]

theorem onPort_erase
    (held : PairsHeld addresses pairs map) (has : pairs pointer = some pair) (port : Int) :
    onPort port map =
      onPort port (erase (SockPair.less stale) pair map) +
        if pair.localPort = port then 1 else 0 := by
  have moved :=
    held.keyed.perm_erase (tells_known told stale) (held.known has) ((held.mem_iff _ _).mpr has)
  rw [onPort, moved.countP_eq, countP_cons, ← onPort]
  simp

theorem remove (counted : PortsCounted map used) (held : PairsHeld addresses pairs map)
    (has : pairs pointer = some pair) :
    PortsCounted (erase (SockPair.less stale) pair map) (used.erase pair.localPort) := by
  intro port
  have before := counted port
  have split : onPort port map =
      onPort port (erase (SockPair.less stale) pair map) + if pair.localPort = port then 1 else 0 :=
    onPort_erase told held has _
  by_cases same : pair.localPort = port
  · rw [same, Multiset.count_erase_self, before, split]
    split_ifs <;> rfl
  · rw [if_neg same] at split
    rw [Multiset.count_erase_of_ne (Ne.symm same), before, split]
    rfl

theorem move (counted : PortsCounted map used) (held : PairsHeld addresses pairs map)
    (has : pairs pointer = some own) (known : Known addresses pair)
    (free :
      find (SockPair.less stale) pair map = none ∨
        find (SockPair.less stale) pair map = some pointer)
    (samePort : own.localPort = pair.localPort) :
    PortsCounted
      (assign (SockPair.less stale) pair pointer (erase (SockPair.less stale) own map)) used := by
  have without : PairsHeld addresses (update pairs pointer none)
      (erase (SockPair.less stale) own map) := held.remove told has
  rw [without.keyed.assign_new (tells_known told _) known (held.erased_free told has known free)]
  intro port
  have split : onPort port map =
      onPort port (erase (SockPair.less stale) own map) + if own.localPort = port then 1 else 0 :=
    onPort_erase told held has _
  rw [counted, split, samePort, onPort, onPort, countP_append, countP_singleton]
  simp

end PortsCounted

end Tables

namespace AppsHeld

variable {keys : Pointer → Option AppConnKey} {map : AppConnKey → Option Pointer}

theorem add (held : AppsHeld keys map) (free : keys pointer = none) (absent : map key = none) :
    AppsHeld (update keys pointer (some key)) (update map key (some pointer)) := by
  intro other holder
  by_cases sameKey : other = key
  · rw [sameKey, update_self]
    by_cases same : holder = pointer
    · rw [same, update_self]
      simp
    · rw [update_of_ne same, ← held, absent]
      simp [Ne.symm same]
  · rw [update_of_ne sameKey, held]
    by_cases same : holder = pointer
    · rw [same, update_self, free]
      simp [Ne.symm sameKey]
    · rw [update_of_ne same]

theorem remove (held : AppsHeld keys map) (has : keys pointer = some key) :
    AppsHeld (update keys pointer none) (update map key none) := by
  have mapped : map key = some pointer := (held _ _).mpr has
  intro other holder
  by_cases sameKey : other = key
  · rw [sameKey, update_self]
    by_cases same : holder = pointer
    · rw [same, update_self]
      simp
    · rw [update_of_ne same, ← held, mapped]
      simp [Ne.symm same]
  · rw [update_of_ne sameKey, held]
    by_cases same : holder = pointer
    · rw [same, update_self, has]
      simp [Ne.symm sameKey]
    · rw [update_of_ne same]

end AppsHeld

/-! ## The operations keep the tables -/

/-- The containers describe the open connections. -/
structure Registered (addresses : IPvXAddress → Prop) (tcp : TCP) (uniqueNumber : Int) : Prop where
  pairs : PairsHeld addresses (pairOf tcp) tcp.tcpConnMap
  apps : AppsHeld (keyOf tcp) tcp.tcpAppConnMap
  ports : PortsCounted tcp.tcpConnMap tcp.usedEphemeralPorts
  ephemeral : Ephemeral tcp.lastEphemeralPort
  unique : ∀ pointer key, keyOf tcp pointer = some key → key.connId < uniqueNumber

section Operations

variable {addresses : IPvXAddress → Prop}
variable {tcp after : TCP}
variable {conn : TCPConnection}

theorem pairOf_of_heap (present : tcp.heap pointer = some conn) :
    pairOf tcp pointer = some conn.sockPair := by
  rw [pairOf, comp_apply, present]
  rfl

theorem keyOf_of_heap (present : tcp.heap pointer = some conn) :
    keyOf tcp pointer = some conn.appConnKey := by
  rw [keyOf, comp_apply, present]
  rfl

theorem addSockPair_cases (added : tcp.addSockPair stale pointer conn pair = .ok after) :
    find (SockPair.less stale) pair tcp.tcpConnMap = none ∧
      after =
        { tcp with
          heap := update tcp.heap pointer (some (conn.setSockPair pair))
          tcpConnMap := assign (SockPair.less stale) pair pointer tcp.tcpConnMap
          usedEphemeralPorts :=
            if Ephemeral pair.localPort then pair.localPort ::ₘ tcp.usedEphemeralPorts
            else tcp.usedEphemeralPorts } := by
  rw [TCP.addSockPair] at added
  by_cases inUse : (find (SockPair.less stale) pair tcp.tcpConnMap).isSome
  · rw [if_pos inUse] at added
    cases added
  · rw [if_neg inUse] at added
    cases added
    exact ⟨by simpa using inUse, rfl⟩

theorem updateSockPair_cases (updated : tcp.updateSockPair stale pointer conn pair = .ok after) :
    conn.localPort = pair.localPort ∧
      after =
        { tcp with
          heap := update tcp.heap pointer (some (conn.setSockPair pair))
          tcpConnMap :=
            assign (SockPair.less stale) pair pointer
              (erase (SockPair.less stale) conn.sockPair tcp.tcpConnMap) } := by
  rw [TCP.updateSockPair] at updated
  split_ifs at updated with registered samePort
  cases updated
  exact ⟨not_not.mp samePort, rfl⟩

namespace Registered

theorem initial : Registered addresses World.initial.tcp World.initial.uniqueNumber where
  pairs := ⟨.nil, by simp [World.initial, TCP.initial, pairOf]⟩
  apps := by
    intro _ _
    simp [World.initial, TCP.initial, keyOf]
  ports := by
    intro _
    simp [World.initial, TCP.initial, onPort]
  ephemeral := by decide
  unique := by simp [World.initial, TCP.initial, keyOf]

theorem mono (registered : Registered addresses tcp uniqueNumber)
    (grows : uniqueNumber ≤ later) : Registered addresses tcp later where
  pairs := registered.pairs
  apps := registered.apps
  ports := registered.ports
  ephemeral := registered.ephemeral
  unique pointer key has := Int.lt_of_lt_of_le (registered.unique pointer key has) grows

/-- A connection that keeps its pair and its key may change otherwise. -/
theorem redescribed (registered : Registered addresses tcp uniqueNumber)
    (present : tcp.heap pointer = some conn)
    (samePair : changed.sockPair = conn.sockPair) (sameKey : changed.appConnKey = conn.appConnKey) :
    Registered addresses { tcp with heap := update tcp.heap pointer (some changed) }
      uniqueNumber := by
  have pairsEq :
      pairOf { tcp with
        heap := update tcp.heap pointer (some changed) } = pairOf tcp := by
    rw [pairOf, comp_update, map_some, samePair, ← pairOf_of_heap present]
    exact update_eq_self _ _
  have keysEq :
      keyOf { tcp with
        heap := update tcp.heap pointer (some changed) } = keyOf tcp := by
    rw [keyOf, comp_update, map_some, sameKey, ← keyOf_of_heap present]
    exact update_eq_self _ _
  constructor
  · rw [pairsEq]
    exact registered.pairs
  · rw [keysEq]
    exact registered.apps
  · exact registered.ports
  · exact registered.ephemeral
  · rw [keysEq]
    exact registered.unique

theorem removed (told : ToldApart addresses)
    (registered : Registered addresses tcp uniqueNumber) (present : tcp.heap pointer = some conn) :
    Registered addresses (tcp.removeConnection stale pointer conn) uniqueNumber where
  pairs := by
    rw [pairOf, TCP.removeConnection, comp_update]
    exact registered.pairs.remove told (pairOf_of_heap present)
  apps := by
    rw [keyOf, TCP.removeConnection, comp_update]
    exact registered.apps.remove (keyOf_of_heap present)
  ports := registered.ports.remove told registered.pairs (pairOf_of_heap present)
  ephemeral := registered.ephemeral
  unique := by
    intro holder _ has
    rw [keyOf, TCP.removeConnection, comp_update] at has
    by_cases same : holder = pointer
    · rw [same, update_self] at has
      cases has
    · rw [update_of_ne same] at has
      exact registered.unique _ _ has

theorem finished (told : ToldApart addresses) (registered : Registered addresses tcp uniqueNumber)
    (finishes : tcp.finishProcessing stale pointer code = .ok after) :
    Registered addresses after uniqueNumber := by
  rw [TCP.finishProcessing] at finishes
  cases present : tcp.heap pointer with
  | none =>
    rw [present] at finishes
    cases finishes
  | some _ =>
    simp only [present] at finishes
    split_ifs at finishes with closed
    · cases finishes
      exact registered.removed told present
    · cases finishes
      exact registered.redescribed present rfl rfl

theorem invoked (registered : Registered addresses tcp uniqueNumber)
    (invokes : tcp.commandInvoked pointer code = .ok after) :
    Registered addresses after uniqueNumber := by
  rw [TCP.commandInvoked] at invokes
  cases present : tcp.heap pointer with
  | none =>
    rw [present] at invokes
    cases invokes
  | some _ =>
    simp only [present] at invokes
    split_ifs at invokes with listening
    · cases invokes
      exact registered.redescribed present rfl rfl
    · cases invokes
      exact registered

theorem added (told : ToldApart addresses) (registered : Registered addresses tcp uniqueNumber)
    (free : tcp.heap pointer = none) (absent : tcp.tcpAppConnMap conn.appConnKey = none)
    (issued : conn.connId < uniqueNumber) (known : Known addresses pair)
    (ephemeral : Ephemeral lastEphemeralPort)
    (adds :
      { tcp with
        tcpAppConnMap := update tcp.tcpAppConnMap conn.appConnKey (some pointer)
        lastEphemeralPort }.addSockPair stale pointer conn pair = .ok after) :
    Registered addresses after uniqueNumber := by
  rcases addSockPair_cases adds with ⟨freePair, rfl⟩
  have noPair : pairOf tcp pointer = none := by
    rw [pairOf, comp_apply, free]
    rfl
  have noKey : keyOf tcp pointer = none := by
    rw [keyOf, comp_apply, free]
    rfl
  constructor
  · rw [pairOf, comp_update]
    exact registered.pairs.add told known freePair noPair
  · rw [keyOf, comp_update]
    exact registered.apps.add noKey absent
  · exact registered.ports.add told registered.pairs known freePair
  · exact ephemeral
  · intro holder _ has
    rw [keyOf, comp_update] at has
    by_cases same : holder = pointer
    · rw [same, update_self] at has
      cases has
      exact issued
    · rw [update_of_ne same] at has
      exact registered.unique _ _ has

/-- The pair is not that of another connection. -/
def FreeOrOwn (stale : Bool) (tcp : TCP) (pair : SockPair) (pointer : Pointer) : Prop :=
  find (SockPair.less stale) pair tcp.tcpConnMap = none ∨
    find (SockPair.less stale) pair tcp.tcpConnMap = some pointer

theorem moved (told : ToldApart addresses) (registered : Registered addresses tcp uniqueNumber)
    (present : tcp.heap pointer = some conn) (known : Known addresses pair)
    (free : FreeOrOwn stale tcp pair pointer)
    (updates : tcp.updateSockPair stale pointer conn pair = .ok after) :
    Registered addresses after uniqueNumber := by
  rcases updateSockPair_cases updates with ⟨samePort, rfl⟩
  have has := pairOf_of_heap present
  constructor
  · rw [pairOf, comp_update]
    exact registered.pairs.move told has known free
  · have keysEq :
        keyOf { tcp with
          heap := update tcp.heap pointer (some (conn.setSockPair pair)) } = keyOf tcp := by
      rw [keyOf, comp_update, map_some,
        TCPConnection.appConnKey_setSockPair, ← keyOf_of_heap present]
      exact update_eq_self _ _
    exact keysEq ▸ registered.apps
  · exact registered.ports.move told registered.pairs has known free samePort
  · exact registered.ephemeral
  · intro _ _ hasKey
    rw [keyOf, comp_update, map_some, TCPConnection.appConnKey_setSockPair, ← keyOf_of_heap present,
      ← keyOf, update_eq_self] at hasKey
    exact registered.unique _ _ hasKey

theorem renumbered (registered : Registered addresses tcp uniqueNumber)
    (present : tcp.heap pointer = some conn) :
    Registered addresses
      { tcp with
        heap := update tcp.heap pointer (some { conn with connId := uniqueNumber })
        tcpAppConnMap :=
          update (update tcp.tcpAppConnMap conn.appConnKey none)
            ⟨conn.appGateIndex, uniqueNumber⟩ (some pointer) }
      (uniqueNumber + 1) where
  pairs := by
    rw [pairOf, comp_update, map_some]
    have same : update (pairOf tcp) pointer (some conn.sockPair) = pairOf tcp := by
      rw [← pairOf_of_heap present]
      exact update_eq_self _ _
    exact same.symm ▸ registered.pairs
  apps := by
    rw [keyOf, comp_update]
    have without := registered.apps.remove (keyOf_of_heap present)
    have absent :
        update tcp.tcpAppConnMap conn.appConnKey none ⟨conn.appGateIndex, uniqueNumber⟩ = none := by
      rw [Option.eq_none_iff_forall_ne_some]
      intro holder mapped
      rw [without] at mapped
      by_cases same : holder = pointer
      · rw [same, update_self] at mapped
        cases mapped
      · rw [update_of_ne same] at mapped
        exact absurd (registered.unique _ _ mapped) (Int.lt_irrefl _)
    have renamed := without.add (update_self pointer _ (keyOf _)) absent
    rwa [update_idem] at renamed
  ports := registered.ports
  ephemeral := registered.ephemeral
  unique := by
    intro holder _ has
    rw [keyOf, comp_update] at has
    by_cases same : holder = pointer
    · rw [same, update_self] at has
      cases has
      exact Int.lt_succ _
    · rw [update_of_ne same] at has
      exact Int.lt_trans (registered.unique _ _ has) (Int.lt_succ _)

theorem forked (told : ToldApart addresses) (registered : Registered addresses tcp uniqueNumber)
    (present : tcp.heap pointer = some conn) (known : Known addresses pair)
    (free : FreeOrOwn stale tcp pair pointer) (freePointer : tcp.heap newPointer = none)
    (forks :
      tcp.addForkedConnection stale pointer conn newPointer
          conn.cloneListeningConnection pair uniqueNumber =
        .ok after) :
    Registered addresses after (uniqueNumber + 1) := by
  rw [TCP.addForkedConnection, bind_eq_ok] at forks
  rcases forks with ⟨updated, updates, rest⟩
  rw [bind_eq_ok] at rest
  rcases rest with ⟨_, adds, final⟩
  have differ : newPointer ≠ pointer := by
    rintro rfl
    rw [present] at freePointer
    cases freePointer
  have movedTcp : Registered addresses updated uniqueNumber :=
    registered.moved told present known free updates
  rcases updateSockPair_cases updates with ⟨_, rfl⟩
  have newKnown : Known addresses conn.cloneListeningConnection.sockPair :=
    ⟨(registered.pairs.known (pairOf_of_heap present)).1, told.unspecified⟩
  have renamed := movedTcp.renumbered (update_self _ _ tcp.heap)
  have issued := registered.unique _ _ (keyOf_of_heap present)
  have otherKey : conn.appConnKey ≠ ⟨conn.appGateIndex, uniqueNumber⟩ := by
    intro same
    rw [same] at issued
    exact Int.lt_irrefl _ issued
  have absent :
      update (update tcp.tcpAppConnMap conn.appConnKey none)
          ⟨conn.appGateIndex, uniqueNumber⟩ (some pointer)
          conn.cloneListeningConnection.appConnKey = none := by
    have sameKey : conn.cloneListeningConnection.appConnKey = conn.appConnKey := rfl
    rw [sameKey, update_of_ne otherKey, update_self]
  rcases addSockPair_cases adds with ⟨freePair, rfl⟩
  cases final
  apply renamed.added told _ absent (Int.lt_trans issued (Int.lt_succ _))
    newKnown registered.ephemeral
  · rw [TCP.addSockPair, if_neg (by rw [freePair]; simp), Function.update_comm differ.symm]
    rfl
  · dsimp only
    rwa [update_of_ne differ, update_of_ne differ]

theorem openPort_spec (registered : Registered addresses tcp uniqueNumber)
    (assigned : tcp.openPort asked = .ok (localPort, lastEphemeralPort)) :
    Ephemeral lastEphemeralPort := by
  rw [TCP.openPort] at assigned
  split_ifs at assigned with unset
  · rcases getEphemeralPort_spec (fun port => decide (port ∈ tcp.usedEphemeralPorts))
        registered.ephemeral with
      ⟨port, found, among, _⟩ | ⟨none, _⟩
    · rw [found] at assigned
      cases assigned
      exact among
    · rw [none] at assigned
      cases assigned
  · cases assigned
    exact registered.ephemeral

theorem opened (told : ToldApart addresses)
    (registered : Registered addresses tcp uniqueNumber) (free : tcp.heap pointer = none)
    (issued : key.connId < uniqueNumber)
    (known : addresses openCmd.localAddr ∧ addresses openCmd.remoteAddr)
    (opens : tcp.openConnection stale pointer key active openCmd = .ok after) :
    Registered addresses after uniqueNumber := by
  rw [TCP.openConnection] at opens
  by_cases exists_ : (tcp.tcpAppConnMap key).isSome
  · rw [if_pos exists_] at opens
    cases opens
  rw [if_neg exists_] at opens
  have absent : tcp.tcpAppConnMap key = none := by simpa using exists_
  cases active with
  | true =>
    simp only [if_true] at opens
    rw [bind_eq_ok] at opens
    rcases opens with ⟨middle, processes, finishes⟩
    rw [TCP.process_OPEN_ACTIVE] at processes
    split_ifs at processes with unspecified
    rw [bind_eq_ok] at processes
    rcases processes with ⟨⟨localPort, _⟩, assigned, adds⟩
    have keyFree :
        tcp.tcpAppConnMap
          { TCPConnection.create key.appGateIndex key.connId with
            active := true }.appConnKey = none := absent
    have pairKnown : Known addresses (TCP.activePair openCmd localPort) := known
    have middleTcp : Registered addresses middle uniqueNumber :=
      registered.added told free keyFree issued pairKnown (registered.openPort_spec assigned) adds
    exact middleTcp.finished told finishes
  | false =>
    simp only [Bool.false_eq_true, if_false] at opens
    rw [bind_eq_ok] at opens
    rcases opens with ⟨middle, processes, finishes⟩
    rw [TCP.process_OPEN_PASSIVE] at processes
    split_ifs at processes with unspecified
    have keyFree :
        tcp.tcpAppConnMap
          { TCPConnection.create key.appGateIndex key.connId with
            active := false
            fork := openCmd.fork }.appConnKey = none := absent
    have pairKnown : Known addresses (TCP.passivePair openCmd) := ⟨known.1, told.unspecified⟩
    have middleTcp : Registered addresses middle uniqueNumber :=
      registered.added told free keyFree issued pairKnown registered.ephemeral processes
    exact middleTcp.finished told finishes

theorem freeOrOwn_of_found
    (found : tcp.findConnForSegment stale tcpseg srcAddr destAddr = some pointer) :
    FreeOrOwn stale tcp (TCP.segmentPair tcpseg srcAddr destAddr) pointer := by
  rw [TCP.findConnForSegment, TCP.segmentKeys, findSome?_cons] at found
  cases first :
      find (SockPair.less stale) (TCP.segmentPair tcpseg srcAddr destAddr) tcp.tcpConnMap with
  | none => exact .inl first
  | some _ =>
    rw [first] at found
    exact .inr (first.trans found)

theorem processed (told : ToldApart addresses) (registered : Registered addresses tcp uniqueNumber)
    (known : Known addresses pair) (free : FreeOrOwn stale tcp pair pointer)
    (freePointer : tcp.heap newPointer = none)
    (processes : tcp.segmentProcessed stale pointer newPointer pair code uniqueNumber = .ok after) :
    Registered addresses after (numberAfter ⟨tcp, uniqueNumber⟩ pointer code) := by
  rw [TCP.segmentProcessed] at processes
  cases present : tcp.heap pointer with
  | none =>
    rw [present] at processes
    cases processes
  | some conn =>
    simp only [present] at processes
    simp only [numberAfter, present]
    by_cases fills : TCP.fillsIn conn.fsm code
    · rw [if_pos fills] at processes
      split_ifs at processes with forks
      · have incoming : code = .rcvSyn := by
          rw [forks.1] at fills
          cases code <;> first | rfl | cases fills
        rw [if_pos ⟨forks.1, incoming, forks.2⟩]
        exact registered.forked told present known free freePointer processes
      · rw [if_neg fun all => forks ⟨all.1, all.2.2⟩]
        exact registered.moved told present known free processes
    · rw [if_neg fills] at processes
      cases processes
      rw [if_neg]
      · exact registered
      · rintro ⟨listening, rfl, _⟩
        rw [listening] at fills
        exact fills rfl

theorem step (told : ToldApart addresses) {world next : World}
    {event : Event} (registered : Registered addresses world.tcp world.uniqueNumber)
    (addressed : Addressed addresses event) (taken : Step stale world event next) :
    Registered addresses next.tcp next.uniqueNumber := by
  cases taken with
  | socket => exact registered.mono (Int.le_of_lt (Int.lt_succ _))
  | openCommand free known opened => exact registered.opened told free known addressed opened
  | command _ _ invokes finished => exact (registered.invoked invokes).finished told finished
  | timer _ finished => exact registered.finished told finished
  | segment found free _ processes finished =>
    have processed : Registered addresses _ _ :=
      registered.processed told ⟨addressed.2, addressed.1⟩ (freeOrOwn_of_found found) free processes
    exact processed.finished told finished
  | segmentWhileClosed _ => exact registered

end Registered

end Operations

/-! ## Every run -/

/-- The open connection at the address has this pair. -/
def Holds (tcp : TCP) (pair : SockPair) (pointer : Pointer) : Prop :=
  ∃ conn, tcp.heap pointer = some conn ∧ conn.sockPair = pair

/-- The open connections whose local port is this one. -/
def ConnectionsOn (tcp : TCP) (port : Int) (connections : List Pointer) : Prop :=
  connections.Nodup ∧
    ∀ pointer, pointer ∈ connections ↔ ∃ conn, tcp.heap pointer = some conn ∧ conn.localPort = port

/-- What the module relies on, and what its lookups return. -/
structure Consistent (addresses : IPvXAddress → Prop) (stale : Bool) (world : World) : Prop where
  oneEntry :
    (∀ pair pointer, (pair, pointer) ∈ world.tcp.tcpConnMap ↔ Holds world.tcp pair pointer) ∧
      (world.tcp.tcpConnMap.map Prod.fst).Nodup ∧ (world.tcp.tcpConnMap.map Prod.snd).Nodup
  notOverwritten :
    ∀ event next pair pointer, Addressed addresses event →
      Step stale world event next →
        find (SockPair.less stale) pair world.tcp.tcpConnMap = some pointer →
          Known addresses pair → Holds next.tcp pair pointer →
            find (SockPair.less stale) pair next.tcp.tcpConnMap = some pointer
  byApp :
    ∀ key pointer, world.tcp.tcpAppConnMap key = some pointer ↔
      ∃ conn, world.tcp.heap pointer = some conn ∧ conn.appConnKey = key
  usedPorts :
    ∀ port,
      (Ephemeral port →
        ∃ connections, ConnectionsOn world.tcp port connections ∧
          world.tcp.usedEphemeralPorts.count port = connections.length) ∧
        (¬ Ephemeral port → world.tcp.usedEphemeralPorts.count port = 0)
  found :
    ∀ tcpseg srcAddr destAddr pointer,
      addresses srcAddr → addresses destAddr →
        (world.tcp.findConnForSegment stale tcpseg srcAddr destAddr = some pointer ↔
          ∃ before pair rest,
            TCP.segmentKeys tcpseg srcAddr destAddr = before ++ pair :: rest ∧
              Holds world.tcp pair pointer ∧
                ∀ fuller ∈ before, ∀ holder, ¬ Holds world.tcp fuller holder)
  notFound :
    ∀ tcpseg srcAddr destAddr,
      addresses srcAddr → addresses destAddr →
        (world.tcp.findConnForSegment stale tcpseg srcAddr destAddr = none ↔
          ∀ pair ∈ TCP.segmentKeys tcpseg srcAddr destAddr, ∀ holder, ¬ Holds world.tcp pair holder)
  ephemeralPort :
    (∃ port,
      getEphemeralPort (fun port => decide (port ∈ world.tcp.usedEphemeralPorts))
            world.tcp.lastEphemeralPort =
          .found port ∧
        Ephemeral port ∧
          ∀ pointer conn, world.tcp.heap pointer = some conn → conn.localPort ≠ port) ∨
      getEphemeralPort (fun port => decide (port ∈ world.tcp.usedEphemeralPorts))
            world.tcp.lastEphemeralPort =
          .exhausted ∧
        ∀ port, Ephemeral port →
          ∃ pointer conn, world.tcp.heap pointer = some conn ∧ conn.localPort = port

section Lookups

theorem pairOf_eq_some : pairOf tcp pointer = some pair ↔ Holds tcp pair pointer := by
  rw [pairOf, comp_apply, Option.map_eq_some_iff]
  rfl

theorem keyOf_eq_some :
    keyOf tcp pointer = some key ↔
      ∃ conn, tcp.heap pointer = some conn ∧ conn.appConnKey = key := by
  rw [keyOf, comp_apply, Option.map_eq_some_iff]

theorem known_of_segmentKeys (told : ToldApart addresses)
    (srcAmong : addresses srcAddr) (destAmong : addresses destAddr)
    (tried : pair ∈ TCP.segmentKeys tcpseg srcAddr destAddr) : Known addresses pair := by
  simp only [TCP.segmentKeys, TCP.segmentPair, mem_cons, not_mem_nil, or_false] at tried
  rcases tried with rfl | rfl | rfl | rfl
  · exact ⟨destAmong, srcAmong⟩
  · exact ⟨told.unspecified, srcAmong⟩
  · exact ⟨destAmong, told.unspecified⟩
  · exact ⟨told.unspecified, told.unspecified⟩

namespace Registered

section

variable (told : ToldApart addresses) (registered : Registered addresses tcp uniqueNumber)
    (known : Known addresses pair)
include told registered known

theorem find_iff :
    find (SockPair.less stale) pair tcp.tcpConnMap = some pointer ↔ Holds tcp pair pointer := by
  rw [registered.pairs.find_eq_some told known, pairOf_eq_some]

theorem find_none_iff :
    find (SockPair.less stale) pair tcp.tcpConnMap = none ↔ ∀ holder, ¬ Holds tcp pair holder := by
  rw [registered.pairs.find_eq_none told known]
  exact forall_congr' fun holder => not_congr pairOf_eq_some

end

section

variable (registered : Registered addresses tcp uniqueNumber)
include registered

theorem holders_nodup : (tcp.tcpConnMap.map Prod.snd).Nodup := by
  rw [nodup_map_iff_inj_on (Nodup.of_map Prod.fst registered.pairs.keyed.nodup)]
  rintro ⟨_, _⟩ leftIn ⟨_, _⟩ rightIn same
  subst same
  rw [registered.pairs.mem_iff] at leftIn rightIn
  rw [leftIn] at rightIn
  rw [some.inj rightIn]

theorem connectionsOn (port : Int) :
    ∃ connections, ConnectionsOn tcp port connections ∧
      onPort port tcp.tcpConnMap = connections.length := by
  refine ⟨(tcp.tcpConnMap.filter fun entry => entry.1.localPort = port).map Prod.snd, ⟨?_, ?_⟩, ?_⟩
  · exact registered.holders_nodup.sublist (Sublist.map _ filter_sublist)
  · intro pointer
    rw [mem_map]
    constructor
    · rintro ⟨⟨_, _⟩, inside, rfl⟩
      rw [mem_filter, decide_eq_true_eq, registered.pairs.mem_iff, pairOf_eq_some] at inside
      rcases inside with ⟨⟨conn, present, rfl⟩, same⟩
      exact ⟨conn, present, same⟩
    · rintro ⟨conn, present, same⟩
      refine ⟨(conn.sockPair, pointer), ?_, rfl⟩
      rw [mem_filter, decide_eq_true_eq, registered.pairs.mem_iff]
      exact ⟨pairOf_of_heap present, same⟩
  · rw [onPort, countP_eq_length_filter, length_map]

theorem usedPorts (port : Int) :
    (Ephemeral port →
      ∃ connections, ConnectionsOn tcp port connections ∧
        tcp.usedEphemeralPorts.count port = connections.length) ∧
      (¬ Ephemeral port → tcp.usedEphemeralPorts.count port = 0) := by
  have counted := registered.ports port
  constructor
  · intro among
    rcases registered.connectionsOn _ with ⟨connections, on, size⟩
    rw [if_pos among, size] at counted
    exact ⟨connections, on, counted⟩
  · intro outside
    rwa [if_neg outside] at counted

theorem mem_usedEphemeralPorts (among : Ephemeral port) :
    port ∈ tcp.usedEphemeralPorts ↔
      ∃ pointer conn, tcp.heap pointer = some conn ∧ conn.localPort = port := by
  rcases (registered.usedPorts _).1 among with ⟨_, ⟨_, members⟩, size⟩
  rw [← Multiset.count_pos, size, length_pos_iff_exists_mem]
  exact exists_congr members

theorem ephemeralPort :
    (∃ port,
      getEphemeralPort (fun port => decide (port ∈ tcp.usedEphemeralPorts)) tcp.lastEphemeralPort =
          .found port ∧
        Ephemeral port ∧ ∀ pointer conn, tcp.heap pointer = some conn → conn.localPort ≠ port) ∨
      getEphemeralPort (fun port => decide (port ∈ tcp.usedEphemeralPorts)) tcp.lastEphemeralPort =
          .exhausted ∧
        ∀ port, Ephemeral port →
          ∃ pointer conn, tcp.heap pointer = some conn ∧ conn.localPort = port := by
  rcases getEphemeralPort_spec (fun port => decide (port ∈ tcp.usedEphemeralPorts))
      registered.ephemeral with
    ⟨port, found, among, unused⟩ | ⟨exhausted, all⟩
  · left
    refine ⟨port, found, among, ?_⟩
    intro pointer conn present same
    rw [decide_eq_false_iff_not, registered.mem_usedEphemeralPorts among] at unused
    exact unused ⟨pointer, conn, present, same⟩
  · right
    refine ⟨exhausted, fun port among => ?_⟩
    exact (registered.mem_usedEphemeralPorts among).mp (of_decide_eq_true (all _ among))

end

theorem consistent (told : ToldApart addresses)
    (registered : Registered addresses world.tcp world.uniqueNumber) :
    Consistent addresses stale world where
  oneEntry := by
    refine ⟨fun pair pointer => ?_, registered.pairs.keyed.nodup, registered.holders_nodup⟩
    rw [registered.pairs.mem_iff, pairOf_eq_some]
  notOverwritten := by
    intro _ _ _ _ addressed taken _ known holds
    have after := registered.step told addressed taken
    exact (after.find_iff told known).mpr holds
  byApp := by
    intro _ _
    rw [registered.apps, keyOf_eq_some]
  usedPorts := registered.usedPorts
  found := by
    intro _ _ _ _ srcAmong destAmong
    rw [TCP.findConnForSegment, findSome?_eq_some_iff]
    constructor
    · rintro ⟨before, pair, rest, split, here, notBefore⟩
      have known : ∀ key ∈ before ++ pair :: rest, Known addresses key := by
        rw [← split]
        exact fun key => known_of_segmentKeys told srcAmong destAmong
      refine ⟨before, pair, rest, split, ?_, ?_⟩
      · exact (registered.find_iff told (known _ (by simp))).mp here
      · intro fuller inside
        exact (registered.find_none_iff told
          (known _ (mem_append_left _ inside))).mp (notBefore fuller inside)
    · rintro ⟨before, pair, rest, split, here, notBefore⟩
      have known : ∀ key ∈ before ++ pair :: rest, Known addresses key := by
        rw [← split]
        exact fun key => known_of_segmentKeys told srcAmong destAmong
      refine ⟨before, pair, rest, split, ?_, ?_⟩
      · exact (registered.find_iff told (known pair (by simp))).mpr here
      · intro fuller inside
        exact (registered.find_none_iff told
          (known fuller (mem_append_left _ inside))).mpr (notBefore fuller inside)
  notFound := by
    intro _ _ _ srcAmong destAmong
    rw [TCP.findConnForSegment, findSome?_eq_none_iff]
    exact forall₂_congr fun pair tried =>
      registered.find_none_iff told (known_of_segmentKeys told srcAmong destAmong tried)
  ephemeralPort := registered.ephemeralPort

end Registered

end Lookups

/--
In every run whose addresses are told apart, the containers describe the open
connections, and the lookups find what they should.
-/
theorem socket_table_consistent {addresses : IPvXAddress → Prop}
    (told : ToldApart addresses) {stale : Bool} {world : World} {events : List Event}
    (run :
      Run (guardedStep (fun _ event => Addressed addresses event) (Step stale))
        World.initial events world) :
    Consistent addresses stale world := by
  have preserved :
      ∀ world event next,
        Registered addresses world.tcp world.uniqueNumber →
          guardedStep (fun _ event => Addressed addresses event) (Step stale) world event next →
            Registered addresses next.tcp next.uniqueNumber :=
    fun world event next registered taken => registered.step told taken.1 taken.2
  exact (run.invariant preserved .initial).consistent told

/-! ### A server on port 80 -/

def clientAddress : IPvXAddress :=
  .v4 ⟨0x0A000001⟩

def serverAddress : IPvXAddress :=
  .v4 ⟨0x0A000002⟩

theorem toldApart_v4 : ToldApart fun address => address.isIPv6 = false where
  unspecified := rfl
  families _ _ left right _ := left.trans right.symm

def serverPort : TCPOpenCommand where
  localPort := 80
  fork := true

def clientSyn : TCPSegment where
  srcPort := 4000
  destPort := 80
  synBit := true

theorem socket_table_consistent_forked_server :
    ∃ world,
      Run
          (guardedStep (fun _ event => Addressed (fun address => address.isIPv6 = false) event)
            (Step false))
          World.initial
          [.socket, .openCommand 0 ⟨0, 0⟩ false serverPort,
            .segment clientSyn clientAddress serverAddress 1 .rcvSyn]
          world ∧
        Consistent (fun address => address.isIPv6 = false) false world := by
  have run :
      Run
        (guardedStep (fun _ event => Addressed (fun address => address.isIPv6 = false) event)
          (Step false))
        World.initial
        [.socket, .openCommand 0 ⟨0, 0⟩ false serverPort,
          .segment clientSyn clientAddress serverAddress 1 .rcvSyn] _ :=
    .next ⟨trivial, .socket⟩
      (.next ⟨⟨rfl, rfl⟩, .openCommand rfl Int.zero_lt_one rfl⟩
        (.next ⟨⟨rfl, rfl⟩, .segment rfl rfl (fun _ _ _ => rfl) rfl rfl⟩ (.idle _)))
  exact ⟨_, run, socket_table_consistent toldApart_v4 run⟩

/-- The connection on port 80 is not counted: the port is never assigned. -/
theorem listening_port_not_counted :
    ∃ world conn,
      Run (Step false) World.initial [.socket, .openCommand 0 ⟨0, 0⟩ false serverPort] world ∧
        world.tcp.heap 0 = some conn ∧ conn.localPort = 80 ∧
          world.tcp.usedEphemeralPorts.count 80 = 0 := by
  refine ⟨_, _, .next .socket (.next (.openCommand rfl Int.zero_lt_one rfl)
    (.idle _)), rfl, rfl, rfl⟩

end OmnetDsi.Tcp.SocketTable
