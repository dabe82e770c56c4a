import OmnetDsi.Base.AbstractQueue

/-!
# Runs of the single-server queue

The first part follows the data messages.  Serving settles: `doStartService`
and `doEndService` call each other until the server waits for `endServiceMsg`
or is idle with an empty queue, and they only move messages from `msgServiced`
and `queue` to `endService`.  From this every run keeps the data messages in
the order of their arrival.

The second part follows `probe_endServiceMsg`.  It is armed by every arriving
message and after every probe event that finds a packet, but not by
`doEndService`, from which `endService` may fill `pqueue` as well.
-/

namespace OmnetDsi.Base.QueueRuns

open Library.Transition Base.AbstractQueue Option

/-! ## Serving one message after the other -/

/-- The messages that `QueueBase` does not divert to `pqueue`. -/
def isData (server : Server Subclass Packet) (msg : Packet) : Bool :=
  match entersProbeQueue server msg with
  | .ok true => false
  | _ => true

/-- The data messages the module has taken, in the order it serves them. -/
def dataInOrder (state : QueueState Subclass Packet) : List Packet :=
  state.endServiced ++ state.msgServiced.toList ++ state.queue

/-- What serving leaves behind, whatever the service times are. -/
structure Settled (server : Server Subclass Packet)
    (before after : QueueState Subclass Packet) : Prop where
  idle : after.msgServiced = none → after.queue = []
  busy : after.msgServiced.isSome = after.endServiceMsg.isSome
  positive : after.endServiceMsg.isSome → ∃ subclass msg, server.startService subclass msg ≠ 0
  order : dataInOrder after = dataInOrder before
  timer : after.probeEndServiceMsg = before.probeEndServiceMsg

section

variable (server : Server Subclass Packet)
include server

theorem Settled.afterCall (current : state.msgServiced = some msg)
    (waiting : state.queue = next :: rest)
    (settled :
      Settled server
        { callEndService server state msg with msgServiced := some next, queue := rest } after) :
    Settled server state after where
  idle := settled.idle
  busy := settled.busy
  positive := settled.positive
  order := by
    rw [settled.order]
    simp [dataInOrder, callEndService, current, waiting]
  timer := settled.timer

theorem doStartService_settles_of_end
    (state : QueueState Subclass Packet) (serviced : state.msgServiced.isSome)
    (unscheduled : state.endServiceMsg = none)
    (ended :
      ∃ next,
        doEndService server { state with serviceTime := 0 } = .ok next ∧
          Settled server { state with serviceTime := 0 } next) :
    ∃ next, doStartService server state = .ok next ∧ Settled server state next := by
  obtain ⟨msg, current⟩ := isSome_iff_exists.mp serviced
  by_cases zero : server.startService state.subclass msg = 0
  · obtain ⟨next, ended, settled⟩ := ended
    refine ⟨next, ?_, settled.idle, settled.busy, settled.positive, settled.order, settled.timer⟩
    rwa [doStartService_immediate _ current zero]
  · refine ⟨_, doStartService_waits _ current unscheduled zero, ?_⟩
    constructor
    · simp [current]
    · simp [current]
    · exact fun _ => ⟨state.subclass, msg, zero⟩
    · simp [dataInOrder]
    · rfl

/--
The end of service settles.  The recursion through `doStartService` ends
because a message leaves `queue` before it starts.
-/
theorem doEndService_settles
    (state : QueueState Subclass Packet) (serviced : state.msgServiced.isSome)
    (unscheduled : state.endServiceMsg = none) :
    ∃ next, doEndService server state = .ok next ∧ Settled server state next := by
  induction waiting : state.queue generalizing state with
  | nil =>
    obtain ⟨msg, current⟩ := isSome_iff_exists.mp serviced
    refine ⟨_, doEndService_empty _ _ current waiting, ?_⟩
    constructor
    · intro _
      exact waiting
    · simp [callEndService, unscheduled]
    · simp [callEndService, unscheduled]
    · simp [dataInOrder, callEndService, current, waiting]
    · rfl
  | cons _ tail induction =>
    obtain ⟨_, current⟩ := isSome_iff_exists.mp serviced
    obtain ⟨next, started, settled⟩ :=
      doStartService_settles_of_end _
        { callEndService _ _ _ with msgServiced := some _, queue := tail }
        rfl unscheduled (induction _ rfl unscheduled rfl)
    refine ⟨next, ?_, settled.afterCall _ current waiting⟩
    rwa [doEndService_next _ _ current waiting]

theorem doStartService_settles
    (state : QueueState Subclass Packet) (serviced : state.msgServiced.isSome)
    (unscheduled : state.endServiceMsg = none) :
    ∃ next, doStartService server state = .ok next ∧ Settled server state next :=
  doStartService_settles_of_end _ _ serviced unscheduled
    (doEndService_settles _ _ serviced unscheduled)

end

/-! ## The data messages along a run -/

/-- The queue serves the data messages `arrived` in their order. -/
structure ServesInOrder (server : Server Subclass Packet)
    (arrived : List Packet) (state : QueueState Subclass Packet) : Prop where
  idle : state.msgServiced = none → state.queue = []
  busy : state.msgServiced.isSome = state.endServiceMsg.isSome
  positive : state.endServiceMsg.isSome → ∃ subclass msg, server.startService subclass msg ≠ 0
  order : dataInOrder state = arrived.filter (isData server)

theorem ServesInOrder.atStart (server : Server Subclass Packet) (subclass : Subclass) :
    ServesInOrder server [] (initialized subclass) where
  idle := fun _ => rfl
  busy := rfl
  positive := by simp [initialized]
  order := rfl

variable {server : Server Subclass Packet}

theorem ServesInOrder.settled (settled : Settled server before after)
    (order : dataInOrder before = arrived.filter (isData server)) :
    ServesInOrder server arrived after where
  idle := settled.idle
  busy := settled.busy
  positive := settled.positive
  order := settled.order.trans order

theorem armProbeTimer_ok (server : Server Subclass Packet)
    (state : QueueState Subclass Packet) (msg : Packet) :
    ∃ next, armProbeTimer server state msg = .ok next ∧
      next.probeEndServiceMsg.isSome ∧ next.msgServiced = state.msgServiced ∧
      next.endServiceMsg = state.endServiceMsg ∧ next.queue = state.queue ∧
      next.pqueue = state.pqueue ∧ next.endServiced = state.endServiced := by
  cases scheduled : state.probeEndServiceMsg with
  | none =>
    refine ⟨_, by simp [armProbeTimer, scheduleProbeEndService, scheduled]; rfl, ?_⟩
    simp
  | some _ =>
    refine ⟨state, by simp [armProbeTimer, scheduled], ?_⟩
    simp [scheduled]

variable {state next : QueueState Subclass Packet}

theorem ServesInOrder.armed (serves : ServesInOrder server arrived state)
    (serviced : next.msgServiced = state.msgServiced)
    (scheduled : next.endServiceMsg = state.endServiceMsg) (queue : next.queue = state.queue)
    (endServiced : next.endServiced = state.endServiced) : ServesInOrder server arrived next where
  idle := by
    rw [serviced, queue]
    exact serves.idle
  busy := by
    rw [serviced, scheduled]
    exact serves.busy
  positive := by
    rw [scheduled]
    exact serves.positive
  order := by rw [← serves.order, dataInOrder, dataInOrder, serviced, queue, endServiced]

/-! ### One event -/

section OneEvent

section

variable (serves : ServesInOrder server (arrivals past) state)
include serves

theorem ServesInOrder.afterEndService (possible : deliver state .endService = some delivered) :
    ∃ next, handleMessage server delivered .endService = .ok next ∧
      ServesInOrder server (arrivals (past ++ [.endService])) next := by
  simp only [deliver, map_eq_some_iff] at possible
  rcases possible with ⟨time, scheduled, rfl⟩
  have serviced : state.msgServiced.isSome := by
    rw [serves.busy, scheduled]
    rfl
  rcases doEndService_settles _ { state with simTime := time, endServiceMsg := none }
      serviced rfl with ⟨next, ended, settled⟩
  refine ⟨next, ended, ?_⟩
  rw [arrivals_endService]
  exact .settled settled serves.order

theorem ServesInOrder.afterProbeEndService
    (possible : deliver state .probeEndService = some delivered) :
    ∃ next, handleMessage server delivered .probeEndService = .ok next ∧
      ServesInOrder server (arrivals (past ++ [.probeEndService])) next := by
  simp only [deliver, map_eq_some_iff] at possible
  rcases possible with ⟨_, _, rfl⟩
  rw [arrivals_probeEndService]
  rcases waiting : state.pqueue with _ | ⟨_, _⟩
  all_goals exact ⟨_, rfl, serves.armed rfl rfl rfl rfl⟩

theorem ServesInOrder.afterDiverted (entered : entersProbeQueue server msg = .ok true) :
    ∃ next,
      handleMessage server { state with simTime := time } (.message time msg) = .ok next ∧
        ServesInOrder server (arrivals (past ++ [.message time msg])) next := by
  have kept :
      (arrivals past ++ [msg]).filter (isData server) = (arrivals past).filter (isData server) := by
    simp [isData, entered]
  have moved :
      ServesInOrder server (arrivals past ++ [msg])
        { state with
          simTime := time
          pqueue := state.pqueue ++ [msg] } :=
    ⟨serves.idle, serves.busy, serves.positive, serves.order.trans kept.symm⟩
  rcases armProbeTimer_ok _
      { state with
        simTime := time
        pqueue := state.pqueue ++ [msg] } _ with
    ⟨next, armed, _, serviced, scheduled, queue, _, served⟩
  rw [arrivals_message]
  refine ⟨next, ?_, moved.armed serviced scheduled queue served⟩
  cases current : state.msgServiced <;>
    simpa [handleMessage, arrivalWhenIdle, arrival, entered, current] using armed

theorem ServesInOrder.afterDataWhenIdle
    (entered : entersProbeQueue server msg = .ok false) (vacant : state.msgServiced = none) :
    ∃ next,
      handleMessage server { state with simTime := time } (.message time msg) = .ok next ∧
        ServesInOrder server (arrivals (past ++ [.message time msg])) next := by
  have unscheduled : state.endServiceMsg = none := by
    have busy := serves.busy
    rw [vacant] at busy
    simpa using busy.symm
  rcases doStartService_settles _ { state with simTime := time, msgServiced := some msg }
      rfl unscheduled with ⟨started, ok, settled⟩
  have order : ServesInOrder server (arrivals past ++ [msg]) started := by
    refine .settled settled ?_
    rw [List.filter_append, ← serves.order]
    simp [dataInOrder, vacant, serves.idle, isData, entered]
  rcases armProbeTimer_ok _ _ _ with ⟨next, armed, _, serviced, scheduled, queue, _, served⟩
  rw [arrivals_message]
  refine ⟨next, ?_, order.armed serviced scheduled queue served⟩
  simp only [handleMessage, vacant, arrivalWhenIdle, entered, ok]
  exact armed

end

theorem ServesInOrder.afterDataWhenBusy (serves : ServesInOrder server (arrivals past) state)
    (entered : entersProbeQueue server msg = .ok false)
    (serviced : state.msgServiced = some current) :
    ∃ next,
      handleMessage server { state with simTime := time } (.message time msg) = .ok next ∧
        ServesInOrder server (arrivals (past ++ [.message time msg])) next := by
  have order :
      ServesInOrder server (arrivals past ++ [msg])
        { state with
          simTime := time
          queue := state.queue ++ [msg] } := by
    refine ⟨by simp [serviced], serves.busy, serves.positive, ?_⟩
    rw [List.filter_append, ← serves.order]
    simp [dataInOrder, isData, entered]
  rcases armProbeTimer_ok _
      { state with
        simTime := time
        queue := state.queue ++ [msg] } _ with
    ⟨next, armed, _, kept, scheduled, queue, _, served⟩
  rw [arrivals_message]
  refine ⟨next, ?_, order.armed kept scheduled queue served⟩
  simpa [handleMessage, serviced, arrival, entered] using armed

/-- The only error of an arrival is the cast of the arriving message. -/
theorem handleMessage_badCast (time : SimTime) (delivered : QueueState Subclass Packet)
    (entered : entersProbeQueue server msg = .error error) :
    handleMessage server delivered (.message time msg) = .error .badCast ∧
      server.hasEncapsulatedMsg msg ∧ server.datagramProtocol msg = none := by
  rw [entersProbeQueue] at entered
  split at entered
  · rename_i encapsulated
    split at entered
    · rename_i other
      have failed : entersProbeQueue server msg = .error .badCast := by
        simp [entersProbeQueue, encapsulated, other]
      refine ⟨?_, encapsulated, other⟩
      cases serviced : delivered.msgServiced <;>
        simp [handleMessage, arrivalWhenIdle, arrival, failed, serviced]
    · cases entered
  · cases entered

end OneEvent

/--
An event that can happen is handled and keeps the order of the data messages,
unless it is a message on which `check_and_cast<IPDatagram *>` fails.
-/
theorem ServesInOrder.handled (serves : ServesInOrder server (arrivals past) state)
    (possible : deliver state event = some delivered) :
    (∃ next, handleMessage server delivered event = .ok next ∧
      ServesInOrder server (arrivals (past ++ [event])) next) ∨
      handleMessage server delivered event = .error .badCast ∧
        ∃ time msg, event = .message time msg ∧ server.hasEncapsulatedMsg msg ∧
          server.datagramProtocol msg = none := by
  cases event with
  | endService => exact Or.inl (serves.afterEndService possible)
  | probeEndService => exact Or.inl (serves.afterProbeEndService possible)
  | message time msg =>
    simp only [deliver, some.injEq] at possible
    subst delivered
    rcases entered : entersProbeQueue _ _ with _ | diverted
    · rcases handleMessage_badCast _ { state with simTime := time } entered with
        ⟨failed, encapsulated, other⟩
      exact Or.inr ⟨failed, time, msg, rfl, encapsulated, other⟩
    · left
      cases diverted with
      | true => exact serves.afterDiverted entered
      | false =>
        rcases eq_none_or_eq_some state.msgServiced with vacant | ⟨_, serviced⟩
        · exact serves.afterDataWhenIdle entered vacant
        · exact serves.afterDataWhenBusy entered serviced

theorem ServesInOrder.step (serves : ServesInOrder server (arrivals past) state)
    (step : Step server state event next) :
    ServesInOrder server (arrivals (past ++ [event])) next := by
  rcases step with ⟨_, possible, handled⟩
  rcases serves.handled possible with ⟨_, otherHandled, kept⟩ | failed
  · rw [otherHandled, Except.ok.injEq] at handled
    exact handled ▸ kept
  · rw [failed.1] at handled
    cases handled

/-- Every run serves the data messages in the order of their arrival. -/
theorem ServesInOrder.run (run : Run (Step server) (initialized subclass) events state) :
    ServesInOrder server (arrivals events) state :=
  run.historyInvariant (fun past state => ServesInOrder _ (arrivals past) state) []
    (fun _ _ _ _ serves step => serves.step step) (.atStart _ _)

/--
In every state between two events the server is idle only with an empty
queue, `endServiceMsg` is scheduled exactly while a message is in service, and
the data messages handed to `endService`, the one in service and the queued
ones are the data messages that arrived, in the order of their arrival.  The
next event finds no self-message scheduled twice and no `NULL` message.
-/
theorem data_messages_served_in_order (server : Server Subclass Packet)
    {subclass : Subclass} {events : List (Event Packet)} {state : QueueState Subclass Packet}
    (run : Run (Step server) (initialized subclass) events state) :
    (state.msgServiced = none → state.queue = []) ∧
      (state.msgServiced ≠ none ↔ state.endServiceMsg ≠ none) ∧
      state.endServiced ++ state.msgServiced.toList ++ state.queue =
        (arrivals events).filter (isData server) ∧
      ∀ event delivered, deliver state event = some delivered →
        (∃ next, handleMessage server delivered event = .ok next) ∨
          handleMessage server delivered event = .error .badCast ∧
            ∃ time msg, event = .message time msg ∧ server.hasEncapsulatedMsg msg ∧
              server.datagramProtocol msg = none := by
  have serves := ServesInOrder.run run
  refine ⟨serves.idle, ?_, serves.order, ?_⟩
  · have busy := serves.busy
    rw [← isSome_iff_ne_none, ← isSome_iff_ne_none, busy]
  · intro _ _ possible
    rcases serves.handled possible with ⟨next, handled, _⟩ | failed
    · exact Or.inl ⟨next, handled⟩
    · exact Or.inr failed

/-! ## A server that inserts probes -/

/-- Packets of the two kinds that `QueueBase` tells apart. -/
inductive SamplePacket where
  | data
  | probe

/--
A server whose `endService` inserts a probe into `pqueue` for every data
packet, as `IP::routePacket` does for the first packet of a flow.
-/
def probingServer : Server Unit SamplePacket where
  hasEncapsulatedMsg := fun _ => true
  datagramProtocol
    | .data => some 17
    | .probe => some 1
  startService := fun _ _ => 0
  endService := fun subclass _ msg =>
    match msg with
    | .data => (subclass, [.probe])
    | .probe => (subclass, [])

/-- The server serves one data packet that arrived at time 0. -/
def servingOnePacket : QueueState Unit SamplePacket where
  simTime := 0
  msgServiced := some .data
  endServiceMsg := some 10
  probeEndServiceMsg := some 1
  serviceTime := 10
  queue := []
  pqueue := []
  subclass := ()
  endServiced := []
  probeEndServiced := []

/-- The server after the end of service at time 10. -/
def servedOnePacket : QueueState Unit SamplePacket :=
  { servingOnePacket with
    simTime := 10
    msgServiced := none
    endServiceMsg := none
    probeEndServiceMsg := none
    pqueue := [.probe]
    endServiced := [.data] }

/--
With a service time of 10 the probe timer fires at time 1 and finds `pqueue`
empty; the end of service at time 10 fills it.
-/
theorem servedOnePacket_run :
    Run (Step (probingServer.queueBase 10)) (initialized ())
      [.message 0 .data, .probeEndService, .endService] servedOnePacket := by
  have arrives :
      Step (probingServer.queueBase 10) (initialized ()) (.message 0 .data) servingOnePacket := by
    refine ⟨_, rfl, ?_⟩
    simp [handleMessage, initialized, arrivalWhenIdle, entersProbeQueue,
      probingServer, Server.queueBase, doStartService, scheduleEndService,
      armProbeTimer, scheduleProbeEndService, servingOnePacket]
  have fires :
      Step (probingServer.queueBase 10) servingOnePacket .probeEndService
        { servingOnePacket with
          simTime := 1
          probeEndServiceMsg := none } :=
    ⟨_, rfl, rfl⟩
  have ends :
      Step (probingServer.queueBase 10)
        { servingOnePacket with simTime := 1, probeEndServiceMsg := none }
        .endService servedOnePacket := by
    refine ⟨_, rfl, ?_⟩
    rw [handleMessage, doEndService_empty _ _ rfl rfl]
    rfl
  exact .next arrives (.next fires (.next ends (.idle _)))

/-- The run of one data packet: served once, with nothing left in `queue`. -/
theorem data_messages_served_in_order_once :
    (servedOnePacket.msgServiced = none → servedOnePacket.queue = []) ∧
      (servedOnePacket.msgServiced ≠ none ↔ servedOnePacket.endServiceMsg ≠ none) ∧
      servedOnePacket.endServiced ++ servedOnePacket.msgServiced.toList ++ servedOnePacket.queue =
        (arrivals [.message 0 .data, .probeEndService, .endService]).filter
          (isData (probingServer.queueBase 10)) ∧
      ∀ event delivered, deliver servedOnePacket event = some delivered →
        (∃ next, handleMessage (probingServer.queueBase 10) delivered event = .ok next) ∨
          handleMessage (probingServer.queueBase 10) delivered event = .error .badCast ∧
            ∃ time msg, event = .message time msg ∧
              (probingServer.queueBase 10).hasEncapsulatedMsg msg ∧
              (probingServer.queueBase 10).datagramProtocol msg = none :=
  data_messages_served_in_order _ servedOnePacket_run

/-! ## The probe timer -/

/-- A non-empty `pqueue` has a pending event that will serve it. -/
def ProbesServed (state : QueueState Subclass Packet) : Prop :=
  state.pqueue ≠ [] → state.probeEndServiceMsg ≠ none

/--
The end of service inserts packets into `pqueue` only while
`probe_endServiceMsg` is scheduled.
-/
def InsertsWhileArmed (server : Server Subclass Packet)
    (state : QueueState Subclass Packet) : Event Packet → Prop
  | .endService =>
    state.probeEndServiceMsg ≠ none ∨
      ∀ msg, state.msgServiced = some msg →
        (server.endService state.subclass state.queue msg).2 = []
  | .probeEndService => True
  | .message _ _ => True

theorem ProbesServed.ofArmed (armed : armProbeTimer server state msg = .ok next) :
    ProbesServed next := by
  rcases armProbeTimer_ok _ _ _ with ⟨_, otherArmed, scheduled, _⟩
  rw [otherArmed, Except.ok.injEq] at armed
  subst next
  exact fun _ => isSome_iff_ne_none.mp scheduled

theorem ProbesServed.afterMessage
    (handled : handleMessage server state (.message time msg) = .ok next) : ProbesServed next := by
  rw [handleMessage] at handled
  split at handled
  · split at handled
    · cases handled
    · exact .ofArmed handled
    · split at handled
      · cases handled
      · exact .ofArmed handled
  · split at handled
    · cases handled
    · exact .ofArmed handled

theorem ProbesServed.afterProbeEndService
    (step : Step server state .probeEndService next) : ProbesServed next := by
  rcases step with ⟨_, possible, handled⟩
  simp only [deliver, map_eq_some_iff] at possible
  rcases possible with ⟨_, _, rfl⟩
  rcases waiting : state.pqueue with _ | ⟨_, _⟩
  · simp only [handleMessage, doProbeEndService, waiting, Except.ok.injEq] at handled
    subst next
    simp [ProbesServed]
  · simp only [handleMessage, doProbeEndService, waiting,
      callProbeEndService, scheduleProbeEndService, isNone_none,
      isSome_none, if_true, Bool.false_eq_true, if_false, Except.ok.injEq] at handled
    subst next
    simp [ProbesServed]

/--
With a positive delay the end of service calls `endService` once, and that
call alone changes `pqueue`.
-/
theorem endService_pqueue (positive : delay ≠ 0) (current : state.msgServiced = some msg)
    (step : Step (server.queueBase delay) state .endService next) :
    next.pqueue = state.pqueue ++ (server.endService state.subclass state.queue msg).2 ∧
      next.probeEndServiceMsg = state.probeEndServiceMsg := by
  rcases step with ⟨_, possible, handled⟩
  simp only [deliver, map_eq_some_iff] at possible
  rcases possible with ⟨time, _, rfl⟩
  rcases waiting : state.queue with _ | ⟨_, _⟩
  · have ended :=
      doEndService_empty (server.queueBase delay)
        { state with simTime := time, endServiceMsg := none } current waiting
    rw [handleMessage, ended, Except.ok.injEq] at handled
    subst next
    simp [callEndService, Server.queueBase, waiting]
  · have ended :=
      doEndService_next (server.queueBase delay)
        { state with simTime := time, endServiceMsg := none } current waiting
    rw [doStartService_waits _ rfl rfl positive] at ended
    rw [handleMessage, ended, Except.ok.injEq] at handled
    subst next
    simp [callEndService, Server.queueBase, waiting]

/-- The exact condition under which one step keeps the probes served. -/
theorem ProbesServed.step_iff
    (serves : ServesInOrder (server.queueBase delay) (arrivals past) state)
    (probes : ProbesServed state) (step : Step (server.queueBase delay) state event next) :
    ProbesServed next ↔ InsertsWhileArmed server state event := by
  cases event with
  | message _ _ =>
    rcases step with ⟨_, _, handled⟩
    exact iff_of_true (.afterMessage handled) trivial
  | probeEndService => exact iff_of_true (.afterProbeEndService step) trivial
  | endService =>
    have scheduled : state.endServiceMsg.isSome := by
      rcases step with ⟨_, possible, _⟩
      simp only [deliver, map_eq_some_iff] at possible
      rcases possible with ⟨_, scheduled, _⟩
      simp [scheduled]
    have positive : delay ≠ 0 := by
      rcases serves.positive scheduled with ⟨_, _, positive⟩
      exact positive
    rw [← serves.busy] at scheduled
    rcases isSome_iff_exists.mp scheduled with ⟨_, current⟩
    rcases endService_pqueue positive current step with ⟨pqueue, timer⟩
    rw [ProbesServed, pqueue, timer]
    constructor
    · intro served
      by_cases armed : state.probeEndServiceMsg = none
      · right
        intro other same
        rw [current, some.injEq] at same
        subst other
        have empty := mt served (not_not.mpr armed)
        rw [not_not, List.append_eq_nil_iff] at empty
        exact empty.2
      · exact Or.inl armed
    · rintro (armed | nothing) filled
      · exact armed
      · rw [nothing _ current, List.append_nil] at filled
        exact probes filled

/--
Along a run every non-empty `pqueue` has its timer armed exactly when no end
of service fills `pqueue` while the timer is idle.
-/
theorem probes_served_iff_inserts_while_armed (server : Server Subclass Packet)
    (delay : SimTime) {subclass : Subclass} {events : List (Event Packet)}
    {state : QueueState Subclass Packet}
    (run : Run (Step (server.queueBase delay)) (initialized subclass) events state) :
    (∀ before after middle, events = before ++ after →
        Run (Step (server.queueBase delay)) (initialized subclass) before middle →
        ProbesServed middle) ↔
      ∀ before event after middle, events = before ++ event :: after →
        Run (Step (server.queueBase delay)) (initialized subclass) before middle →
        InsertsWhileArmed server middle event := by
  have exact := run.invariant_iff_guard
    (Step.deterministic (server.queueBase _)) (InsertsWhileArmed _)
    (fun state => (∃ past, ServesInOrder _ (arrivals past) state) ∧ ProbesServed _)
    (by
      rintro _ event _ ⟨⟨past, serves⟩, probes⟩ step
      rw [← ProbesServed.step_iff serves probes step]
      exact and_iff_right ⟨past ++ [event], serves.step step⟩)
    ⟨⟨[], .atStart _ _⟩, fun filled => (filled rfl).elim⟩
  rw [← exact]
  constructor
  · intro always before _ _ split prefixRun
    exact ⟨⟨before, .run prefixRun⟩, always _ _ _ split prefixRun⟩
  · intro always before after middle split prefixRun
    exact (always before after middle split prefixRun).2

/-- In the run of one data packet the timer is idle at the end of service. -/
theorem probes_served_iff_inserts_while_armed_once :
    (∀ before after middle,
        [Event.message 0 .data, .probeEndService, .endService] = before ++ after →
        Run (Step (probingServer.queueBase 10)) (initialized ()) before middle →
        ProbesServed middle) ↔
      ∀ before event after middle,
        [Event.message 0 .data, .probeEndService, .endService] = before ++ event :: after →
        Run (Step (probingServer.queueBase 10)) (initialized ()) before middle →
        InsertsWhileArmed probingServer middle event :=
  probes_served_iff_inserts_while_armed _ 10 servedOnePacket_run

/--
A data packet that arrives at an idle server leaves its probe in `pqueue`
with no event pending: the timer fired before the packet was served.
-/
theorem probe_left_in_pqueue :
    ∃ state,
      Run (Step (probingServer.queueBase 10)) (initialized ())
          [.message 0 .data, .probeEndService, .endService] state ∧
        state.pqueue = [.probe] ∧
        state.probeEndServiceMsg = none ∧
        ¬ ProbesServed state :=
  ⟨servedOnePacket, servedOnePacket_run, rfl, rfl,
    fun served => served (by simp [servedOnePacket]) rfl⟩

end OmnetDsi.Base.QueueRuns
