import OmnetDsi.Library.Transition

/-!
# The single-server queue of the network layer

`AbstractQueue` serves one message at a time and keeps two queues: `queue`
for data and `pqueue` for probe, load and link-failure packets.  It owns two
self-messages, `endServiceMsg` and `probe_endServiceMsg`.  `QueueBase` decides
which of the two queues an arriving message enters.  What the subclass does in
`startService` and `endService` is a parameter: `endService` may insert packets
into `pqueue`, which is what `IP::routePacket` and
`IP::send_future_packet_count` do.

Every event is one call of `handleMessage`.  A call that OMNeT++ ends with an
error ends with `SimError` here.
-/

namespace OmnetDsi.Base.AbstractQueue

open Library.Transition

/-- `simtime_t`, as a number of clock ticks. -/
abbrev SimTime := Nat

/-- The errors that end a simulation in the queue's code. -/
inductive SimError where
  /-- `check_and_cast<IPDatagram *>` of a message of another class. -/
  | badCast
  /-- `scheduleAt` of a self-message that is already scheduled. -/
  | alreadyScheduled
  /-- A call on `msgServiced` while it is `NULL`. -/
  | nullPacket

/--
What the queue takes from its messages and from its subclass.  `subclass` is
the state of the derived module; `endService` reads the data queue, as
`IP::count_pkt_in_queue` does, and returns the packets it inserts into
`pqueue`.
-/
structure Server (Subclass Packet : Type) where
  /-- `getEncapsulatedMsg() != NULL` -/
  hasEncapsulatedMsg : Packet → Bool
  /-- The transport protocol of an `IPDatagram`, `none` for another class. -/
  datagramProtocol : Packet → Option Int
  startService : Subclass → Packet → SimTime
  endService : Subclass → List Packet → Packet → Subclass × List Packet

/-- `QueueBase::startService` returns the parameter `procDelay`. -/
def Server.queueBase {Subclass Packet : Type} (server : Server Subclass Packet)
    (delay : SimTime) : Server Subclass Packet :=
  { server with startService := fun _ _ => delay }

/-- The state of the queue module. -/
structure QueueState (Subclass Packet : Type) where
  simTime : SimTime
  msgServiced : Option Packet
  /-- The time for which `endServiceMsg` is scheduled. -/
  endServiceMsg : Option SimTime
  /-- The time for which `probe_endServiceMsg` is scheduled. -/
  probeEndServiceMsg : Option SimTime
  serviceTime : SimTime
  queue : List Packet
  pqueue : List Packet
  subclass : Subclass
  /-- The messages that `doEndService` has handed to `endService`. -/
  endServiced : List Packet
  /-- The messages that `doProbeEndService` has handed to `endService`. -/
  probeEndServiced : List Packet

/-- One message delivered to the module. -/
inductive Event (Packet : Type) where
  | message (arrivalTime : SimTime) (msg : Packet)
  | endService
  | probeEndService

/-- The message from outside that an event delivers. -/
def Event.arrival? {Packet : Type} : Event Packet → Option Packet
  | .message _ msg => some msg
  | .endService => none
  | .probeEndService => none

/-- The messages that arrive from outside, in order. -/
def arrivals {Packet : Type} (events : List (Event Packet)) : List Packet :=
  events.filterMap Event.arrival?

variable {Subclass Packet : Type}

@[simp]
theorem arrivals_message (past : List (Event Packet)) (arrivalTime : SimTime) (msg : Packet) :
    arrivals (past ++ [.message arrivalTime msg]) = arrivals past ++ [msg] := by
  simp [arrivals, Event.arrival?]

@[simp]
theorem arrivals_endService (past : List (Event Packet)) :
    arrivals (past ++ [.endService]) = arrivals past := by
  simp [arrivals, List.filterMap_cons, Event.arrival?]

@[simp]
theorem arrivals_probeEndService (past : List (Event Packet)) :
    arrivals (past ++ [.probeEndService]) = arrivals past := by
  simp [arrivals, List.filterMap_cons, Event.arrival?]

/-- The state after `AbstractQueue::initialize`. -/
def initialized (subclass : Subclass) : QueueState Subclass Packet where
  simTime := 0
  msgServiced := none
  endServiceMsg := none
  probeEndServiceMsg := none
  serviceTime := 0
  queue := []
  pqueue := []
  subclass
  endServiced := []
  probeEndServiced := []

/-- `scheduleAt(time, endServiceMsg)` -/
def scheduleEndService (time : SimTime) (state : QueueState Subclass Packet) :
    Except SimError (QueueState Subclass Packet) :=
  if state.endServiceMsg.isSome then .error .alreadyScheduled
  else .ok { state with endServiceMsg := some time }

/-- `scheduleAt(time, probe_endServiceMsg)` -/
def scheduleProbeEndService (time : SimTime) (state : QueueState Subclass Packet) :
    Except SimError (QueueState Subclass Packet) :=
  if state.probeEndServiceMsg.isSome then .error .alreadyScheduled
  else .ok { state with probeEndServiceMsg := some time }

/-- `endService(msgServiced)`, called by `doEndService`. -/
def callEndService (server : Server Subclass Packet)
    (state : QueueState Subclass Packet) (msg : Packet) : QueueState Subclass Packet :=
  { state with
    subclass := (server.endService state.subclass state.queue msg).1
    pqueue := state.pqueue ++ (server.endService state.subclass state.queue msg).2
    endServiced := state.endServiced ++ [msg] }

/-- `endService(pqueue.pop())`, called by `doProbeEndService`. -/
def callProbeEndService (server : Server Subclass Packet)
    (state : QueueState Subclass Packet) (msg : Packet) : QueueState Subclass Packet :=
  { state with
    subclass := (server.endService state.subclass state.queue msg).1
    pqueue := state.pqueue ++ (server.endService state.subclass state.queue msg).2
    probeEndServiced := state.probeEndServiced ++ [msg] }

mutual

/-- `AbstractQueue::doStartService` -/
def doStartService (server : Server Subclass Packet) (state : QueueState Subclass Packet) :
    Except SimError (QueueState Subclass Packet) :=
  match state.msgServiced with
  | none => .error .nullPacket
  | some msg =>
    let serviceTime := server.startService state.subclass msg
    if serviceTime ≠ 0 then
      scheduleEndService (state.simTime + serviceTime) { state with serviceTime }
    else doEndService server { state with serviceTime }
termination_by (state.queue.length, 1)

/-- `AbstractQueue::doEndService` -/
def doEndService (server : Server Subclass Packet) (state : QueueState Subclass Packet) :
    Except SimError (QueueState Subclass Packet) :=
  match state.msgServiced with
  | none => .error .nullPacket
  | some msg =>
    match _waiting : state.queue with
    | [] => .ok { callEndService server state msg with msgServiced := none }
    | next :: rest =>
      doStartService server
        { callEndService server state msg with msgServiced := some next, queue := rest }
termination_by (state.queue.length, 0)
decreasing_by exact Prod.Lex.left _ _ (by simp [_waiting])

end

variable {msg : Packet}

section

variable (server : Server Subclass Packet) {state : QueueState Subclass Packet}
    (current : state.msgServiced = some msg)
include server current

theorem doStartService_waits (unscheduled : state.endServiceMsg = none)
    (positive : server.startService state.subclass msg ≠ 0) :
    doStartService server state =
      .ok { state with
        serviceTime := server.startService state.subclass msg
        endServiceMsg := some (state.simTime + server.startService state.subclass msg) } := by
  rw [doStartService]
  simp_all [scheduleEndService]

theorem doStartService_immediate (zero : server.startService state.subclass msg = 0) :
    doStartService server state = doEndService server { state with serviceTime := 0 } := by
  rw [doStartService]
  simp_all

end

theorem doEndService_empty (server : Server Subclass Packet) (state : QueueState Subclass Packet)
    (current : state.msgServiced = some msg) (empty : state.queue = []) :
    doEndService server state =
      .ok { callEndService server state msg with msgServiced := none } := by
  rw [doEndService]
  cases state
  subst current empty
  rfl

theorem doEndService_next (server : Server Subclass Packet)
    (state : QueueState Subclass Packet) (current : state.msgServiced = some msg)
    (waiting : state.queue = next :: rest) :
    doEndService server state =
      doStartService server
        { callEndService server state msg with
          msgServiced := some next
          queue := rest } := by
  rw [doEndService]
  cases state
  subst current waiting
  rfl

/-- `AbstractQueue::doProbeEndService` -/
def doProbeEndService (server : Server Subclass Packet) (state : QueueState Subclass Packet) :
    Except SimError (QueueState Subclass Packet) :=
  match state.pqueue with
  | [] => .ok state
  | msg :: rest =>
    let served := callProbeEndService server { state with pqueue := rest } msg
    if served.probeEndServiceMsg.isNone then
      scheduleProbeEndService (served.simTime + served.serviceTime / 10) served
    else .ok served

/--
The test of `QueueBase::arrival` and `QueueBase::arrivalWhenIdle`: whether a
message goes to `pqueue`.
-/
def entersProbeQueue (server : Server Subclass Packet) (msg : Packet) : Except SimError Bool :=
  if server.hasEncapsulatedMsg msg then
    match server.datagramProtocol msg with
    | none => .error .badCast
    | some protocol => .ok (protocol == 1 || protocol == 46 || protocol == 2)
  else .ok false

/-- `QueueBase::arrival` -/
def arrival (server : Server Subclass Packet) (state : QueueState Subclass Packet) (msg : Packet) :
    Except SimError (QueueState Subclass Packet) :=
  match entersProbeQueue server msg with
  | .error error => .error error
  | .ok true => .ok { state with pqueue := state.pqueue ++ [msg] }
  | .ok false => .ok { state with queue := state.queue ++ [msg] }

/-- `QueueBase::arrivalWhenIdle` -/
def arrivalWhenIdle (server : Server Subclass Packet)
    (state : QueueState Subclass Packet) (msg : Packet) :
    Except SimError (QueueState Subclass Packet × Option Packet) :=
  match entersProbeQueue server msg with
  | .error error => .error error
  | .ok true => .ok ({ state with pqueue := state.pqueue ++ [msg] }, none)
  | .ok false => .ok (state, some msg)

/-- The block at the end of both message branches of `handleMessage`. -/
def armProbeTimer (server : Server Subclass Packet)
    (state : QueueState Subclass Packet) (msg : Packet) :
    Except SimError (QueueState Subclass Packet) :=
  if state.probeEndServiceMsg.isNone then
    let serviceTime := server.startService state.subclass msg
    scheduleProbeEndService (state.simTime + serviceTime / 10) { state with serviceTime }
  else .ok state

/-- `AbstractQueue::handleMessage` -/
def handleMessage (server : Server Subclass Packet) (state : QueueState Subclass Packet) :
    Event Packet → Except SimError (QueueState Subclass Packet)
  | .endService => doEndService server state
  | .probeEndService => doProbeEndService server state
  | .message _ msg =>
    match state.msgServiced with
    | none =>
      match arrivalWhenIdle server state msg with
      | .error error => .error error
      | .ok (state, none) => armProbeTimer server state msg
      | .ok (state, some msg2) =>
        match doStartService server { state with msgServiced := some msg2 } with
        | .error error => .error error
        | .ok state => armProbeTimer server state msg
    | some _ =>
      match arrival server state msg with
      | .error error => .error error
      | .ok state => armProbeTimer server state msg

/--
The simulation kernel delivers an event: a self-message only while it is
scheduled, and it is no longer scheduled when the module handles it.
-/
def deliver (state : QueueState Subclass Packet) :
    Event Packet → Option (QueueState Subclass Packet)
  | .message arrivalTime _ => some { state with simTime := arrivalTime }
  | .endService =>
    state.endServiceMsg.map fun time => { state with simTime := time, endServiceMsg := none }
  | .probeEndService =>
    state.probeEndServiceMsg.map fun time =>
      { state with simTime := time, probeEndServiceMsg := none }

/--
One event.  The order of the events is left open; the order in which the
kernel delivers them is one of those allowed here.
-/
def Step (server : Server Subclass Packet) (state : QueueState Subclass Packet)
    (event : Event Packet) (next : QueueState Subclass Packet) : Prop :=
  ∃ delivered, deliver state event = some delivered ∧
    handleMessage server delivered event = .ok next

theorem Step.deterministic (server : Server Subclass Packet) : Deterministic (Step server) := by
  intro _ _ _ _ one other
  obtain ⟨_, deliveredEq, leftEq⟩ := one
  obtain ⟨_, otherDeliveredEq, rightEq⟩ := other
  rw [deliveredEq, Option.some.injEq] at otherDeliveredEq
  rwa [← otherDeliveredEq, leftEq, Except.ok.injEq] at rightEq

end OmnetDsi.Base.AbstractQueue
