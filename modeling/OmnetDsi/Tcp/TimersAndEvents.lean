import OmnetDsi.Tcp.Connection

/-!
# Timers and events of a connection

What a step has done to the timers and told the application fits the event
code that it returns (`Heading`): the 2MSL timer is scheduled when the code
leads to TIME_WAIT, and the application has been told `closed` when it leads
there or to CLOSED.  The property holds in the middle of a step too, for the
code that would be returned there, and after `performStateTransition` it holds
for the code that ignores the event.

The FIN step replaces the code without a look at it.  In CLOSING this loses
the code of the ACK of our FIN, on whose behalf the 2MSL timer has been
scheduled.
-/

namespace OmnetDsi.Tcp.TimersAndEvents

open Library.Fallible Library.Transition Tcp.Connection Tcp.Connection.TCPConnection
open Tcp.SequenceNumbers Tcp.Sending Tcp.StateMachine Bool

/-! ## What is to hold -/

/-- The states in which a command to send leaves the connection. -/
def QueuesData : TcpState → Bool
  | .synSent | .synRcvd | .established | .closeWait => true
  | _ => false

/-- The states that have seen the FIN of the peer. -/
def PastFin : TcpState → Bool
  | .closeWait | .closing | .lastAck | .timeWait => true
  | _ => false

/--
The table lists the pair, or it is one of those that leave the connection in
its state.
-/
inductive Handled (state : TcpState) : TCPEventCode → Prop where
  | ignored : Handled state .ignore
  | status : Handled state .status
  | send (queues : QueuesData state = true) : Handled state .send
  | rcvFin (past : PastFin state = true) : Handled state .rcvFin
  | listed {event : TCPEventCode}
      (listed : ∀ active, (transition active state event).isSome = true) : Handled state event

/-- The state to which the event code leads. -/
def target (conn : TCPConnection) (event : TCPEventCode) : TcpState :=
  StateMachine.performStateTransition conn.active conn.fsm event

/-- A timer of the setup stays scheduled only while it goes on. -/
def SettingUp (conn : TCPConnection) (event : TCPEventCode) : Prop :=
  target conn event = .synSent ∨ target conn event = .synRcvd ∨ target conn event ≠ conn.fsm

/--
The timers and the indications fit the event code.  When TIME_WAIT is left,
CLOSED cancels the timer.
-/
structure Heading (conn : TCPConnection) (event : TCPEventCode) : Prop where
  the2MSL :
    conn.scheduled .the2MSL = true →
      target conn event = .timeWait ∨ conn.fsm = .timeWait ∧ target conn event = .closed
  connEstab : conn.scheduled .connEstab = true → SettingUp conn event
  synRexmit : conn.scheduled .synRexmit = true → SettingUp conn event
  finWait2 : conn.scheduled .finWait2 = false
  closing : target conn event = .closing → conn.snd.fin_ack_rcvd = false
  once : conn.toApp.count .closed ≤ 1
  closed :
    conn.toApp.count .closed ≠ 0 → target conn event = .timeWait ∨ target conn event = .closed

/-- No FIN comes with the ACK of our FIN in CLOSING. -/
def Guard (conn : TCPConnection) : Event → Prop
  | .segment tcpseg _ _ => conn.fsm = .closing → tcpseg.finBit = true → ¬conn.AcksFin tcpseg
  | _ => True

/-! ## Between the steps -/

section Stepping

@[simp]
theorem target_ignore (conn : TCPConnection) : target conn .ignore = conn.fsm := by
  unfold target StateMachine.performStateTransition
  cases conn.fsm with
  | _ => rfl

theorem target_ne_init (moves : target conn event ≠ conn.fsm) : target conn event ≠ .init := by
  intro back
  unfold target StateMachine.performStateTransition at moves back
  cases next : transition conn.active conn.fsm event with
  | none =>
    rw [next] at moves
    exact moves rfl
  | some _ =>
    rw [next] at back
    cases back
    exact transition_ne_init _ _ _ next

theorem Heading.redirect (heading : Heading conn event)
    (same : target conn other = target conn event) : Heading conn other where
  the2MSL := by
    rw [same]
    exact heading.the2MSL
  connEstab := by
    rw [SettingUp, same]
    exact heading.connEstab
  synRexmit := by
    rw [SettingUp, same]
    exact heading.synRexmit
  finWait2 := heading.finWait2
  closing := by
    rw [same]
    exact heading.closing
  once := heading.once
  closed := by
    rw [same]
    exact heading.closed

/-- The state that is entered no longer has timers that it does not need. -/
theorem Heading.enter (heading : Heading conn event) (moves : target conn event ≠ conn.fsm) :
    Heading ({ conn with fsm := target conn event }.stateEntered (target conn event)) .ignore := by
  have entered (timer : Timer) (setup : timer = .connEstab ∨ timer = .synRexmit)
      (running :
        ({ conn with fsm := target conn event }.stateEntered
          (target conn event)).scheduled timer = true) :
      SettingUp
        ({ conn with fsm := target conn event }.stateEntered (target conn event)) .ignore := by
    rw [SettingUp, target_ignore, stateEntered_eq]
    rcases setup_of_stateEntered setup running with first | rest
    · exact absurd first (target_ne_init moves)
    · exact or_assoc.mp (.inl rest)
  constructor
  · intro running
    left
    rw [target_ignore, stateEntered_eq]
    have before := scheduled_of_stateEntered running
    rcases heading.the2MSL before with waits | ⟨_, closed⟩
    · exact waits
    · rw [closed] at running
      exact absurd running not_scheduled_of_closed
  · exact entered .connEstab (.inl rfl)
  · exact entered .synRexmit (.inr rfl)
  · refine eq_false_of_not_eq_true fun running => ?_
    have before := scheduled_of_stateEntered running
    exact false_ne_true (heading.finWait2.symm.trans before)
  · rw [target_ignore, stateEntered_eq]
    exact heading.closing
  · rw [stateEntered_eq]
    exact heading.once
  · rw [target_ignore, stateEntered_eq]
    exact heading.closed

theorem performStateTransition_fsm (conn : TCPConnection) (event : TCPEventCode) :
    (conn.performStateTransition event).fsm = target conn event := by
  change (if target conn event = conn.fsm then conn
    else { conn with fsm := target conn event }.stateEntered (target conn event)).fsm = _
  split_ifs with stays
  · exact stays.symm
  · rw [stateEntered_eq]

section

variable (heading : Heading conn event)
include heading

theorem Heading.performStateTransition : Heading (conn.performStateTransition event) .ignore := by
  change Heading (if target conn event = conn.fsm then conn
    else { conn with fsm := target conn event }.stateEntered (target conn event)) .ignore
  split_ifs with stays
  · exact heading.redirect ((target_ignore _).trans stays.symm)
  · exact heading.enter stays

theorem Heading.frame (fsm : next.fsm = conn.fsm) (active : next.active = conn.active)
    (others :
      ∀ timer, timer ≠ .rexmit → timer ≠ .delayedAck → next.scheduled timer = conn.scheduled timer)
    (closed : next.toApp.count .closed = conn.toApp.count .closed)
    (fin_ack_rcvd :
      target conn event = .closing → next.snd.fin_ack_rcvd = true → conn.snd.fin_ack_rcvd = true) :
    Heading next event := by
  have same : target next event = target conn event := by
    unfold target
    rw [fsm, active]
  have settingUp : SettingUp next event ↔ SettingUp conn event := by
    unfold SettingUp
    rw [same, fsm]
  constructor
  · rw [same, fsm, others .the2MSL (by decide) (by decide)]
    exact heading.the2MSL
  · rw [settingUp, others .connEstab (by decide) (by decide)]
    exact heading.connEstab
  · rw [settingUp, others .synRexmit (by decide) (by decide)]
    exact heading.synRexmit
  · rw [others .finWait2 (by decide) (by decide)]
    exact heading.finWait2
  · rw [same]
    intro closing
    refine eq_false_of_not_eq_true fun acked => ?_
    exact false_ne_true ((heading.closing closing).symm.trans (fin_ack_rcvd closing acked))
  · rw [closed]
    exact heading.once
  · rw [closed, same]
    exact heading.closed

theorem Heading.delivers (delivers : Delivers conn next) : Heading next event :=
  heading.frame delivers.fsm delivers.active
    (fun timer _ other => delivers.others _ other) delivers.closed
    fun _ acked => by rwa [delivers.snd] at acked

theorem Heading.leaves (leaves : Leaves False conn next) : Heading next event :=
  heading.frame leaves.fsm leaves.active leaves.others (by rw [leaves.toApp])
    fun _ acked => (leaves.fin_ack_rcvd acked).resolve_right id

end

/-- Timers of the setup do not matter to a code that leaves the state. -/
theorem Heading.of_moves (moves : target conn event ≠ conn.fsm)
    (the2MSL :
      conn.scheduled .the2MSL = true →
        target conn event = .timeWait ∨ conn.fsm = .timeWait ∧ target conn event = .closed)
    (finWait2 : conn.scheduled .finWait2 = false)
    (closing : target conn event = .closing → conn.snd.fin_ack_rcvd = false)
    (once : conn.toApp.count .closed ≤ 1)
    (closed :
      conn.toApp.count .closed ≠ 0 → target conn event = .timeWait ∨ target conn event = .closed) :
    Heading conn event where
  the2MSL
  connEstab := fun _ => .inr (.inr moves)
  synRexmit := fun _ => .inr (.inr moves)
  finWait2
  closing
  once
  closed

/-- The end is not headed for yet. -/
structure Fresh (conn : TCPConnection) : Prop where
  the2MSL : conn.scheduled .the2MSL = false
  finWait2 : conn.scheduled .finWait2 = false
  untold : conn.toApp.count .closed = 0

theorem Heading.fresh (heading : Heading conn event) (not_timeWait : target conn event ≠ .timeWait)
    (not_closed : target conn event ≠ .closed) : Fresh conn where
  the2MSL := by
    refine eq_false_of_not_eq_true fun running => ?_
    rcases heading.the2MSL running with waits | ⟨_, closed⟩
    · exact not_timeWait waits
    · exact not_closed closed
  finWait2 := heading.finWait2
  untold := by
    by_contra told
    exact (heading.closed told).elim not_timeWait not_closed

theorem target_eq (fsm : conn.fsm = state)
    (moves : transition conn.active state event = some after) : target conn event = after := by
  rw [target, StateMachine.performStateTransition, fsm, moves]
  rfl

theorem target_stays (fsm : conn.fsm = state) (stays : transition conn.active state event = none) :
    target conn event = state := by
  rw [target, StateMachine.performStateTransition, fsm, stays]
  rfl

/-- At the start of a step the state tells whether the end is headed for. -/
theorem Heading.fresh_of (heading : Heading conn .ignore)
    (fsm : conn.fsm = state) (not_timeWait : state ≠ .timeWait)
    (not_closed : state ≠ .closed) : Fresh conn := by
  have rests : target conn .ignore = state := (target_ignore _).trans fsm
  exact heading.fresh (rests.trans_ne not_timeWait) (rests.trans_ne not_closed)

theorem Heading.waiting (heading : Heading conn .ignore)
    (running : conn.scheduled .the2MSL = true) : conn.fsm = .timeWait :=
  (heading.the2MSL running).elim (target_ignore _).symm.trans And.left

theorem Heading.not_connEstab (heading : Heading conn .ignore) (fsm : conn.fsm = state)
    (not_synSent : state ≠ .synSent) (not_synRcvd : state ≠ .synRcvd) :
    conn.scheduled .connEstab = false := by
  refine eq_false_of_not_eq_true fun running => ?_
  have setup := heading.connEstab running
  rw [SettingUp, target_ignore, fsm] at setup
  rcases setup with synSent | synRcvd | moved
  · exact not_synSent synSent
  · exact not_synRcvd synRcvd
  · exact moved rfl

theorem Fresh.leave (fresh : Fresh conn)
    (goes : target conn event = after) (moves : after ≠ conn.fsm)
    (closing : after = .closing → conn.snd.fin_ack_rcvd = false) : Heading conn event :=
  .of_moves (goes.trans_ne moves)
    (fun running => absurd (fresh.the2MSL.symm.trans running) false_ne_true)
    fresh.finWait2 (fun same => closing (goes.symm.trans same))
    fresh.untold.le.step (fun told => absurd fresh.untold told)

theorem Fresh.setup (fresh : Fresh conn)
    (goes : target conn event = .synSent ∨ target conn event = .synRcvd) : Heading conn event where
  the2MSL := fun running => absurd (fresh.the2MSL.symm.trans running) false_ne_true
  connEstab := fun _ => or_assoc.mp (.inl goes)
  synRexmit := fun _ => or_assoc.mp (.inl goes)
  finWait2 := fresh.finWait2
  closing := fun closing => by
    rw [closing] at goes
    exact absurd goes (by decide)
  once := fresh.untold.le.step
  closed := fun told => absurd fresh.untold told

theorem Fresh.setsUp (fresh : Fresh conn) (setsUp : SetsUp conn next) : Fresh next where
  the2MSL := (setsUp.others _ (by decide) (by decide)).trans fresh.the2MSL
  finWait2 := (setsUp.others _ (by decide) (by decide)).trans fresh.finWait2
  untold := by
    rw [setsUp.toApp]
    exact fresh.untold

theorem Fresh.delivers (fresh : Fresh conn) (delivers : Delivers conn next) : Fresh next where
  the2MSL := (delivers.others _ (by decide)).trans fresh.the2MSL
  finWait2 := (delivers.others _ (by decide)).trans fresh.finWait2
  untold := delivers.closed.trans fresh.untold

theorem Fresh.leaves (fresh : Fresh conn) (leaves : Leaves acked conn next) : Fresh next where
  the2MSL := (leaves.others _ (by decide) (by decide)).trans fresh.the2MSL
  finWait2 := (leaves.others _ (by decide) (by decide)).trans fresh.finWait2
  untold := by
    rw [leaves.toApp]
    exact fresh.untold

end Stepping

/-! ## Commands -/

/-- What the processing of an event returns. -/
structure Ends (conn : TCPConnection) (result : TCPEventCode × TCPConnection) : Prop where
  heading : Heading result.2 result.1
  handled : Handled conn.fsm result.1

section Commands

theorem openActive_yields (heading : Heading conn .ignore) (remoteSpecified : Bool) (iss : SeqNo) :
    Yields Rescheduled (Ends conn) (conn.process_OPEN_ACTIVE remoteSpecified iss) := by
  unfold process_OPEN_ACTIVE
  split_ifs with fsm
  · have fresh := heading.fresh_of fsm (by decide) (by decide)
    have idle := heading.not_connEstab fsm (by decide) (by decide)
    have selected :
        Fresh ({ conn with active := true, remoteSpecified }
          |>.selectInitialSeqNum iss) :=
      { fresh with }
    refine (sendSyn_yields _).bind ?_
    rintro _ ⟨first, timers⟩
    refine startSetup_yields ((congrFun timers _).trans idle) ?_
    intro last second
    have setsUp := first.trans second
    have goes : target last .openActive = .synSent := target_eq (setsUp.fsm.trans fsm) rfl
    exact .ok
      { heading := (selected.setsUp setsUp).setup (.inl goes)
        handled := .listed fun _ => by rw [fsm]; rfl }
  · exact .error id

theorem openPassive_yields (heading : Heading conn .ignore) (fork : Bool) :
    Yields Rescheduled (Ends conn) (conn.process_OPEN_PASSIVE fork) := by
  unfold process_OPEN_PASSIVE
  split_ifs with fsm
  · have fresh := heading.fresh_of fsm (by decide) (by decide)
    have opened : Fresh { conn with active := false, fork } := { fresh with }
    exact .ok
      { heading := opened.leave (target_eq fsm rfl)
          (fun same => absurd (same.trans fsm) (by decide)) nofun
        handled := .listed fun _ => by rw [fsm]; rfl }
  · exact .error id

/-- A code that the table does not list leaves the connection in its state. -/
theorem Heading.unlisted (heading : Heading conn .ignore) (fsm : conn.fsm = state)
    (unlisted : transition conn.active state event = none) : Heading conn event :=
  heading.redirect <| (target_stays fsm unlisted).trans ((target_ignore _).trans fsm).symm

theorem Heading.enqueueAppData (heading : Heading conn event) (byteLength : Nat) :
    Heading (conn.enqueueAppData byteLength) event :=
  heading.frame rfl rfl (fun _ _ _ => rfl) rfl fun _ => id

theorem openAndQueue_yields (heading : Heading conn .ignore)
    (fsm : conn.fsm = .listen) (byteLength : Nat) (iss : SeqNo) :
    Yields Rescheduled (Ends conn) (conn.openAndQueue byteLength iss) := by
  have fresh := heading.fresh_of fsm (by decide) (by decide)
  have idle := heading.not_connEstab fsm (by decide) (by decide)
  have selected : Fresh ({ conn with active := true }.selectInitialSeqNum iss) := { fresh with }
  refine (sendSyn_yields _).bind ?_
  rintro _ ⟨first, timers⟩
  refine startSetup_yields ((congrFun timers _).trans idle) ?_
  intro last second
  have setsUp := first.trans second
  have goes : target last .send = .synSent := target_eq (setsUp.fsm.trans fsm) rfl
  have sends := (selected.setsUp setsUp).setup (.inl goes)
  exact .ok { heading := sends.enqueueAppData _, handled := .listed fun _ => by rw [fsm]; rfl }

theorem send_yields (heading : Heading conn .ignore) (byteLength : Nat)
    (iss : SeqNo) (choices : Choices) :
    Yields Rescheduled (Ends conn) (conn.process_SEND byteLength iss choices) := by
  have queued := heading.enqueueAppData byteLength
  have inTransfer (state : TcpState) (fsm : conn.fsm = state)
      (unlisted : ∀ active, transition active state .send = none)
      (queues : QueuesData state = true) :
      Yields Rescheduled (Ends conn)
        (do
          let sending ← (conn.enqueueAppData byteLength).sendData choices
          .ok (.send, sending.2)) := by
    refine (sendData_yields False _).bind ?_
    rintro ⟨_, next⟩ transmits
    have same : next.fsm = state := transmits.leaves.fsm.trans fsm
    exact .ok
      { heading := (queued.leaves transmits.leaves).unlisted same (unlisted _)
        handled := .send (by rw [fsm]; exact queues) }
  unfold process_SEND
  cases fsm : conn.fsm with
  | listen => exact openAndQueue_yields heading fsm _ _
  | synRcvd =>
    exact .ok { heading := queued.unlisted fsm rfl, handled := .send (by rw [fsm]; rfl) }
  | synSent =>
    exact .ok { heading := queued.unlisted fsm rfl, handled := .send (by rw [fsm]; rfl) }
  | established => exact inTransfer _ fsm (fun _ => rfl) rfl
  | closeWait => exact inTransfer _ fsm (fun _ => rfl) rfl
  | _ => exact .error id

theorem sendOrDeferFin_ends (heading : Heading conn .ignore) (fsm : conn.fsm = state)
    (early : state ≠ .timeWait ∧ state ≠ .closed)
    (listed : ∀ active, transition active state .close = some after)
    (moves : after ≠ state) (opened : after ≠ .closing) : Ends conn conn.sendOrDeferFin := by
  have same : conn.snd.process_CLOSE.2.fin_ack_rcvd = conn.snd.fin_ack_rcvd := by
    dsimp only [SendSide.process_CLOSE]
    split_ifs
    all_goals rfl
  have finDecided : Heading { conn with snd := conn.snd.process_CLOSE.2 } .ignore :=
    heading.frame rfl rfl (fun _ _ _ => rfl) rfl fun _ acked => same.symm.trans acked
  dsimp only [sendOrDeferFin]
  split_ifs
  · have sent := finDecided.leaves ackSent_transmits.leaves
    have fresh := sent.fresh_of fsm early.1 early.2
    exact
      { heading := fresh.leave (target_eq fsm (listed _))
          (fun stays => moves (stays.trans fsm))
          fun closing => absurd closing opened
        handled := .listed fun active => by
          rw [fsm, listed]
          rfl }
  · exact { heading := finDecided, handled := .ignored }

theorem close_yields (heading : Heading conn .ignore) :
    Yields Rescheduled (Ends conn) conn.process_CLOSE := by
  unfold process_CLOSE
  cases fsm : conn.fsm with
  | listen =>
    have fresh := heading.fresh_of fsm (by decide) (by decide)
    exact .ok
      { heading := fresh.leave (target_eq fsm rfl)
          (by rw [fsm]; decide) nofun
        handled := .listed fun _ => by rw [fsm]; rfl }
  | synSent =>
    have fresh := heading.fresh_of fsm (by decide) (by decide)
    exact .ok
      { heading := fresh.leave (target_eq fsm rfl)
          (by rw [fsm]; decide) nofun
        handled := .listed fun _ => by rw [fsm]; rfl }
  | synRcvd =>
    exact .ok (sendOrDeferFin_ends heading fsm (by decide) (fun _ => rfl) (by decide) (by decide))
  | established =>
    exact .ok (sendOrDeferFin_ends heading fsm (by decide) (fun _ => rfl) (by decide) (by decide))
  | closeWait =>
    exact .ok (sendOrDeferFin_ends heading fsm (by decide) (fun _ => rfl) (by decide) (by decide))
  | _ => exact .error id

/-- The code leads to CLOSED from every state but the first and the last. -/
theorem Heading.toClosed (heading : Heading conn .ignore) (goes : target conn event = .closed)
    (running : conn.fsm ≠ .closed) : Heading conn event :=
  .of_moves (goes.trans_ne running.symm)
    (fun scheduled => .inr ⟨heading.waiting scheduled, goes⟩) heading.finWait2
    (fun closing => absurd (goes.symm.trans closing) (by decide)) heading.once (fun _ => .inr goes)

theorem abort_listed (active : Bool) (opened : state ≠ .init) (running : state ≠ .closed) :
    transition active state .abort = some .closed := by
  cases state with
  | init => exact absurd rfl opened
  | closed => exact absurd rfl running
  | _ => rfl

theorem abort_yields (heading : Heading conn .ignore) (running : conn.fsm ≠ .closed) :
    Yields Rescheduled (Ends conn) conn.process_ABORT := by
  unfold process_ABORT
  split_ifs with fsm
  · exact .error id
  · exact .ok
      { heading :=
          heading.toClosed (target_eq rfl (abort_listed _ fsm running)) running
        handled := .listed fun _ => by
          rw [abort_listed _ fsm running]
          rfl }

theorem status_unlisted (active : Bool) (state : TcpState) :
    transition active state .status = none := by
  cases state with
  | _ => rfl

theorem status_yields (heading : Heading conn .ignore) :
    Yields Rescheduled (Ends conn) conn.process_STATUS := by
  unfold process_STATUS
  split_ifs with fsm
  · exact .error id
  · have told := heading.delivers (.indicate _ .status nofun)
    exact .ok { heading := told.unlisted rfl (status_unlisted _ _), handled := .status }

end Commands

/-! ## Segments -/

section Segments

theorem Heading.ignored (heading : Heading conn .ignore) : Ends conn (.ignore, conn) where
  heading
  handled := .ignored

theorem processSegmentInListen_yields (heading : Heading conn .ignore)
    (fsm : conn.fsm = .listen) (tcpseg : TCPSegment) (iss : SeqNo) :
    Yields Rescheduled (Ends conn) (conn.processSegmentInListen tcpseg iss) := by
  have fresh := heading.fresh_of fsm (by decide) (by decide)
  unfold processSegmentInListen
  split_ifs
  · exact .ok heading.ignored
  · exact .ok heading.ignored
  · have answered :
        Fresh (((({ conn with remoteSpecified := true }.receiveSyn tcpseg
          ).selectInitialSeqNum iss).takeSndWnd tcpseg iss).sendSynAck) :=
      { fresh with }
    refine (startSynRexmitTimer_yields _).bind ?_
    rintro middle ⟨first, _⟩
    have limited :
        Yields Rescheduled (SetsUp middle) (if middle.scheduled .connEstab then .ok middle
          else
            middle.scheduleTimeout .connEstab) := by
      split_ifs with running
      · exact .ok (.refl _)
      · have idle := eq_false_of_not_eq_true running
        exact .of_eq_ok (scheduleTimeout_eq idle) (.setScheduled (.inl rfl) _)
    refine limited.bind ?_
    intro last second
    have setsUp := first.trans second
    have delivers := last.keepText_delivers tcpseg
    have goes : target (last.keepText tcpseg) .rcvSyn = .synRcvd :=
      target_eq (delivers.fsm.trans (setsUp.fsm.trans fsm)) rfl
    exact .ok
      { heading :=
          ((answered.setsUp setsUp).delivers delivers).setup (.inr goes)
        handled := .listed fun _ => by rw [fsm]; rfl }
  · exact .ok heading.ignored

section

variable (fresh : Fresh conn) (fsm : conn.fsm = .synSent) (tcpseg : TCPSegment)
include fresh fsm tcpseg

theorem establishActively_yields (choices : Choices) :
    Yields Rescheduled (fun result => Heading result.2 result.1 ∧ Handled .synSent result.1)
      (conn.establishActively tcpseg choices) := by
  have kept := conn.keepText_delivers tcpseg
  have moved :=
    kept.trans (.receive (conn.keepText _)
      { (conn.keepText tcpseg).rcv with
        rcv_nxt := (conn.keepText tcpseg).rcv.receiveQueue.rcv_nxt })
  refine (established_yields False _ _).bind ?_
  intro last transmits
  have told := Delivers.indicate last .established nofun
  have same : (last.sendIndicationToApp .established).fsm = .synSent :=
    told.fsm.trans (transmits.leaves.fsm.trans (moved.fsm.trans fsm))
  have opened := ((fresh.delivers moved).leaves transmits.leaves).delivers told
  exact .ok ⟨opened.leave (target_eq same rfl) (by rw [same]; decide) nofun, .listed fun _ => rfl⟩

theorem answerSyn_yields :
    Yields Rescheduled (fun result => Heading result.2 result.1 ∧ Handled .synSent result.1)
      (conn.answerSyn tcpseg) := by
  refine (startSynRexmitTimer_yields _).bind ?_
  rintro last ⟨started, _⟩
  have setsUp := (sendSynAck_setsUp _).trans started
  have kept := last.keepText_delivers tcpseg
  have same : (last.keepText tcpseg).fsm = .synSent := kept.fsm.trans (setsUp.fsm.trans fsm)
  exact .ok
    ⟨((fresh.setsUp setsUp).delivers kept).setup (.inr (target_eq same rfl)), .listed fun _ => rfl⟩

theorem processSyn_yields (choices : Choices) :
    Yields Rescheduled (Ends conn) (conn.processSyn tcpseg choices) := by
  have received := fresh.delivers (conn.receiveSyn_delivers tcpseg)
  have accepted :
      Yields Rescheduled (SetsUp (conn.receiveSyn tcpseg))
        (if tcpseg.ackBit then (conn.receiveSyn tcpseg).acceptSynAck tcpseg
        else
          .ok (conn.receiveSyn tcpseg)) := by
    split_ifs
    · exact acceptSynAck_yields _
    · exact .ok (.refl _)
  refine accepted.bind ?_
  intro middle setsUp
  have specified : Fresh { middle with remoteSpecified := true } := { received.setsUp setsUp with }
  have same : middle.fsm = .synSent := setsUp.fsm.trans fsm
  have ends {result : TCPEventCode × TCPConnection}
      (ends : Heading result.2 result.1 ∧ Handled .synSent result.1) : Ends conn result :=
    ⟨ends.1, fsm ▸ ends.2⟩
  dsimp only
  split_ifs
  · exact (establishActively_yields specified same _ _).mono fun _ => ends
  · exact (answerSyn_yields specified same _).mono fun _ => ends

end

theorem processSegmentInSynSent_yields (heading : Heading conn .ignore)
    (fsm : conn.fsm = .synSent) (tcpseg : TCPSegment) (choices : Choices) :
    Yields Rescheduled (Ends conn) (conn.processSegmentInSynSent tcpseg choices) := by
  have fresh := heading.fresh_of fsm (by decide) (by decide)
  unfold processSegmentInSynSent
  split_ifs
  · exact .ok heading.ignored
  · have told := Delivers.indicate conn .connectionReset nofun
    have same := told.fsm.trans fsm
    exact .ok
      { heading := (fresh.delivers told).leave (target_eq same rfl)
          (by rw [same]; decide) nofun
        handled := .listed fun _ => by rw [fsm]; rfl }
  · exact .ok heading.ignored
  · exact processSyn_yields fresh fsm _ _
  · exact .ok heading.ignored

theorem Heading.finish (the2MSL : conn.scheduled .the2MSL = true → target conn event = .timeWait)
    (untold : conn.toApp.count .closed = 0) (finWait2 : conn.scheduled .finWait2 = false)
    (goes : target conn event = .timeWait ∨ target conn event = .closed)
    (moves : target conn event ≠ conn.fsm) : Heading (conn.sendIndicationToApp .closed) event := by
  have told : (conn.sendIndicationToApp .closed).toApp.count .closed = 1 := by
    change (conn.toApp ++ [Indication.closed]).count Indication.closed = 1
    rw [List.count_append, untold]
    rfl
  refine .of_moves moves (fun running => .inl (the2MSL running)) finWait2 ?_ told.le fun _ => goes
  intro closing
  rcases goes with timeWait | closed
  · exact absurd (timeWait.symm.trans closing) (by decide)
  · exact absurd (closed.symm.trans closing) (by decide)

theorem Fresh.finish (fresh : Fresh conn)
    (goes : target conn event = .timeWait ∨ target conn event = .closed)
    (moves : target conn event ≠ conn.fsm) : Heading (conn.sendIndicationToApp .closed) event :=
  .finish (fun running => absurd (fresh.the2MSL.symm.trans running) false_ne_true)
    fresh.untold fresh.finWait2 goes moves

theorem processRstInSynReceived_yields (heading : Heading conn .ignore)
    (fsm : conn.fsm = .synRcvd) : Yields Rescheduled (Ends conn) conn.processRstInSynReceived := by
  have fresh := heading.fresh_of fsm (by decide) (by decide)
  have discarded :
      Yields Rescheduled (fun _ => True)
        ((conn.snd.sendQueue.discardUpTo
          conn.snd.sendQueue.getBufferEndSeq).mapError Failure.sending) :=
    .mapError (fun _ => id) fun _ _ => trivial
  refine discarded.bind ?_
  intro sendQueue _
  have flushed : Fresh { conn with snd := { conn.snd with sendQueue } } := { fresh with }
  have handled : Handled conn.fsm .rcvRst := .listed fun _ => by rw [fsm]; rfl
  dsimp only
  split_ifs with active
  · have told := Delivers.indicate
      { conn with snd := { conn.snd with sendQueue } } .connectionRefused nofun
    have same := told.fsm.trans fsm
    refine .ok ⟨(flushed.delivers told).leave (target_eq same rfl) ?_ ?_, handled⟩
    · rw [same, told.active, active]
      decide
    · rw [told.active, active]
      nofun
  · refine .ok ⟨flushed.leave (target_eq fsm rfl) ?_ ?_, handled⟩
    · rw [fsm, eq_false_of_not_eq_true active]
      decide
    · rw [eq_false_of_not_eq_true active]
      nofun

theorem processRst_yields (heading : Heading conn .ignore) :
    Yields Rescheduled (Ends conn) conn.processRst := by
  have reset (state : TcpState) (fsm : conn.fsm = state)
      (early : state ≠ .timeWait ∧ state ≠ .closed)
      (listed : ∀ active, transition active state .rcvRst = some .closed) :
      Ends conn (.rcvRst, conn.sendIndicationToApp .connectionReset) := by
    have fresh := heading.fresh_of fsm early.1 early.2
    have told := Delivers.indicate conn .connectionReset nofun
    have same := told.fsm.trans fsm
    exact
      { heading := (fresh.delivers told).leave
          (target_eq same (listed _))
          (fun stays => early.2 (same.symm.trans stays.symm)) nofun
        handled := .listed fun active => by
          rw [fsm, listed _]
          rfl }
  have closed (state : TcpState) (fsm : conn.fsm = state)
      (early : state ≠ .timeWait ∧ state ≠ .closed)
      (listed : ∀ active, transition active state .rcvRst = some .closed) :
      Ends conn (.rcvRst, conn.sendIndicationToApp .closed) := by
    have fresh := heading.fresh_of fsm early.1 early.2
    have goes : target conn .rcvRst = .closed := target_eq fsm (listed _)
    exact
      { heading := fresh.finish (.inr goes)
          (goes.trans_ne (fsm.trans_ne early.2).symm)
        handled := .listed fun active => by
          rw [fsm, listed _]
          rfl }
  unfold processRst
  cases fsm : conn.fsm with
  | synRcvd => exact processRstInSynReceived_yields heading fsm
  | established => exact .ok (reset _ fsm (by decide) fun _ => rfl)
  | finWait1 => exact .ok (reset _ fsm (by decide) fun _ => rfl)
  | finWait2 => exact .ok (reset _ fsm (by decide) fun _ => rfl)
  | closeWait => exact .ok (reset _ fsm (by decide) fun _ => rfl)
  | closing => exact .ok (closed _ fsm (by decide) fun _ => rfl)
  | lastAck => exact .ok (closed _ fsm (by decide) fun _ => rfl)
  | timeWait =>
    exact .ok
      { heading := heading.toClosed (target_eq fsm rfl)
          (fsm.trans_ne (by decide))
        handled := .listed fun _ => by rw [fsm]; rfl }
  | _ => exact .error id

/-! ## The ACK field -/

/-- A step of the processing of a segment in one of these states. -/
def Synchronized (state : TcpState) : Prop :=
  TransfersText state = true ∨ PastFin state = true

/-- The code with which the processing goes on after the ACK field. -/
structure Acknowledged (conn : TCPConnection) (tcpseg : TCPSegment)
    (event : TCPEventCode) (next : TCPConnection) : Prop where
  fsm : next.fsm = conn.fsm
  heading : Heading next event
  handled : Handled conn.fsm event
  fresh : TransfersText conn.fsm = true → Fresh next
  ignored : PastFin conn.fsm = true → event = .ignore ∨ conn.fsm = .closing ∧ conn.AcksFin tcpseg

/-- Before the text only an ACK that completes the setup has a code. -/
def SetupCode (conn : TCPConnection) (event : TCPEventCode) : Prop :=
  event = .ignore ∨ event = .rcvAck ∧ conn.fsm = .synRcvd

theorem completeSetup_yields (heading : Heading conn .ignore)
    (tcpseg : TCPSegment) (choices : Choices) :
    Yields Rescheduled
      (fun result =>
        match result.1 with
        | .returns event => Ends conn (event, result.2)
        | .continues event =>
          Delivers conn result.2 ∧ Heading result.2 event ∧ SetupCode result.2 event)
      (conn.completeSetup tcpseg choices) := by
  unfold completeSetup
  split_ifs with fsm
  · have told := Delivers.indicate conn .established nofun
    have fresh := heading.fresh_of fsm (by decide) (by decide)
    have same := told.fsm.trans fsm
    have opens : Heading (conn.sendIndicationToApp .established) .rcvAck :=
      (fresh.delivers told).leave (target_eq same rfl) (by rw [same]; decide) nofun
    exact .ok ⟨told, opens, .inr ⟨rfl, same⟩⟩
  · exact .ok heading.ignored
  · exact .ok ⟨.refl _, heading, .inl rfl⟩

theorem Heading.restart (heading : Heading conn event) (waits : target conn event = .timeWait) :
    Yields Rescheduled (fun next => next.fsm = conn.fsm ∧ Heading next event)
      ((conn.cancelEvent .the2MSL).scheduleTimeout .the2MSL) := by
  have same (timer : Timer) (other : timer ≠ .the2MSL) :
      ((conn.cancelEvent .the2MSL).setScheduled .the2MSL true).scheduled
        timer = conn.scheduled timer :=
    (setScheduled_of_ne other _).trans (setScheduled_of_ne other _)
  refine .of_eq_ok (scheduleTimeout_eq (setScheduled_self ..)) ⟨rfl, ?_⟩
  constructor
  · exact fun _ => .inl waits
  · exact heading.connEstab
  · exact heading.synRexmit
  · exact (same .finWait2 (by decide)).trans heading.finWait2
  · exact heading.closing
  · exact heading.once
  · exact heading.closed

theorem timeWait_yields (fresh : Fresh conn) (fsm : conn.fsm = .closing) :
    Yields Rescheduled
      (fun next => next.fsm = .closing ∧ Heading (next.sendIndicationToApp .closed) .rcvAck)
      (conn.scheduleTimeout .the2MSL) := by
  refine .of_eq_ok (scheduleTimeout_eq fresh.the2MSL) ⟨fsm, ?_⟩
  have goes : target (conn.setScheduled .the2MSL true) .rcvAck = .timeWait := target_eq fsm rfl
  have idle : (conn.setScheduled .the2MSL true).scheduled .finWait2 = false :=
    (setScheduled_of_ne (by decide) _).trans fresh.finWait2
  exact .finish (fun _ => goes) fresh.untold idle (.inl goes)
    (goes.trans_ne (fsm.trans_ne (by decide)).symm)

section Acknowledging

theorem Heading.fresh_setup (heading : Heading conn event)
    (code : SetupCode conn event) (not_timeWait : conn.fsm ≠ .timeWait)
    (not_closed : conn.fsm ≠ .closed) : Fresh conn := by
  rcases code with rfl | ⟨rfl, fsm⟩
  · exact heading.fresh_of rfl not_timeWait not_closed
  · have goes : target conn .rcvAck = .established := target_eq fsm rfl
    exact heading.fresh (goes.trans_ne (by decide)) (goes.trans_ne (by decide))

theorem Heading.forget_setup (heading : Heading conn event)
    (code : SetupCode conn event) : Heading conn .ignore := by
  have before := heading.fresh_setup code
  rcases code with rfl | ⟨rfl, fsm⟩
  · exact heading
  · have fresh := before (fsm.trans_ne (by decide)) (fsm.trans_ne (by decide))
    exact fresh.setup (.inr ((target_ignore _).trans fsm))

theorem SetupCode.ignored (code : SetupCode conn event)
    (fsm : conn.fsm = state) (later : state ≠ .synRcvd) : event = .ignore :=
  code.resolve_right fun setup => later (fsm.symm.trans setup.2)

section

variable (heading : Heading conn event)
    (code : SetupCode conn event) (leaves : Leaves (conn.AcksFin tcpseg) conn middle)
include heading code leaves

/-- Unless the FIN is found to be acknowledged, nothing else is decided. -/
theorem Heading.continues (closing : conn.fsm = .closing → middle.snd.fin_ack_rcvd = false) :
    Acknowledged conn tcpseg event middle where
  fsm := leaves.fsm
  heading := by
    refine heading.frame leaves.fsm leaves.active leaves.others (by rw [leaves.toApp]) ?_
    intro leads acked
    rcases code with rfl | ⟨rfl, fsm⟩
    · have fsm := (target_ignore _).symm.trans leads
      exact absurd ((closing fsm).symm.trans acked) false_ne_true
    · have goes : target conn .rcvAck = .established := target_eq fsm rfl
      exact absurd (goes.symm.trans leads) (by decide)
  handled := by
    rcases code with rfl | ⟨rfl, fsm⟩
    · exact .ignored
    · exact .listed fun _ => by rw [fsm]; rfl
  fresh := by
    intro text
    refine (heading.fresh_setup code ?_ ?_).leaves leaves
    all_goals
      intro fsm
      rw [fsm] at text
      cases text
  ignored := by
    intro past
    refine .inl (code.ignored rfl ?_)
    intro fsm
    rw [fsm] at past
    cases past

theorem processFinAck_yields :
    Yields Rescheduled
      (fun result =>
        match result.1 with
        | .returns event => Ends conn (event, result.2)
        | .continues event => Acknowledged conn tcpseg event result.2)
      (middle.processFinAck tcpseg event) := by
  have continues := heading.continues code leaves
  unfold processFinAck
  cases fsm : middle.fsm with
  | finWait1 =>
    have same : conn.fsm = .finWait1 := leaves.fsm.symm.trans fsm
    have fresh :=
      (heading.fresh_setup code (same.trans_ne (by decide))
        (same.trans_ne (by decide))).leaves leaves
    dsimp only
    split_ifs with acked
    · have goes : target middle .rcvAck = .finWait2 := target_eq fsm rfl
      exact .ok
        { fsm := leaves.fsm
          heading := fresh.leave goes (fsm.trans_ne (by decide)).symm nofun
          handled := .listed fun _ => by rw [same]; rfl
          fresh := fun _ => fresh
          ignored := by
            rw [same]
            nofun }
    · exact .ok (continues (by rw [same]; nofun))
  | closing =>
    have same : conn.fsm = .closing := leaves.fsm.symm.trans fsm
    have ignored := code.ignored same (by decide)
    have fresh := heading.fresh_setup code (same.trans_ne (by decide)) (same.trans_ne (by decide))
    dsimp only
    split_ifs with acked
    · have before : conn.snd.fin_ack_rcvd = false := by
        rw [ignored] at heading
        exact heading.closing ((target_ignore _).trans same)
      have acks : conn.AcksFin tcpseg := by
        refine (leaves.fin_ack_rcvd acked).resolve_left fun early => ?_
        exact false_ne_true (before.symm.trans early)
      refine (timeWait_yields (fresh.leaves leaves) fsm).bind ?_
      rintro _ ⟨there, told⟩
      exact .ok
        { fsm := there.trans same.symm
          heading := told
          handled := .listed fun _ => by rw [same]; rfl
          fresh := by
            rw [same]
            nofun
          ignored := fun _ => .inr ⟨same, acks⟩ }
    · exact .ok (continues fun _ => eq_false_of_not_eq_true acked)
  | lastAck =>
    have same : conn.fsm = .lastAck := leaves.fsm.symm.trans fsm
    have fresh :=
      (heading.fresh_setup code (same.trans_ne (by decide))
        (same.trans_ne (by decide))).leaves leaves
    dsimp only
    split_ifs
    · have goes : target middle .rcvAck = .closed := target_eq fsm rfl
      exact .ok
        { heading := fresh.finish (.inr goes)
            (goes.trans_ne (fsm.trans_ne (by decide)).symm)
          handled := .listed fun _ => by rw [same]; rfl }
    · exact .ok (continues (by rw [same]; nofun))
  | timeWait =>
    have same : conn.fsm = .timeWait := leaves.fsm.symm.trans fsm
    have ignored := code.ignored same (by decide)
    have answered := (continues (by rw [same]; nofun)).heading.leaves ackSent_transmits.leaves
    have waits : target middle.sendAck event = .timeWait := by
      rw [ignored]
      exact (target_ignore middle.sendAck).trans fsm
    refine (answered.restart waits).bind ?_
    rintro _ ⟨there, restarted⟩
    exact .ok
      { fsm := there.trans leaves.fsm
        heading := restarted
        handled := by
          rw [ignored]
          exact .ignored
        fresh := by
          rw [same]
          nofun
        ignored := fun _ => .inl ignored }
  | _ => exact .ok (continues (by rw [← leaves.fsm, fsm]; nofun))

end

theorem processAckField_yields (heading : Heading conn event)
    (code : SetupCode conn event) (tcpseg : TCPSegment) (choices : Choices) :
    Yields Rescheduled
      (fun result =>
        match result.1 with
        | .returns event => Ends conn (event, result.2)
        | .continues event => Acknowledged conn tcpseg event result.2)
      (conn.processAckField tcpseg choices event) := by
  have acknowledged :
      Yields Rescheduled
        (fun result => Transmits (conn.AcksFin tcpseg) conn result.2 ∧
          (result.1 = false → result.2.snd.fin_ack_rcvd = conn.snd.fin_ack_rcvd))
        (if TransfersAcks conn.fsm then conn.processAckInEstabEtc tcpseg choices
        else
          .ok (true, conn)) := by
    split_ifs
    · exact processAckInEstabEtc_yields _ _
    · exact .ok ⟨.refl _, nofun⟩
  refine acknowledged.bind ?_
  rintro ⟨ok, _⟩ ⟨transmits, unchanged⟩
  cases ok with
  | false =>
    have leaves := transmits.leaves
    have forgotten := heading.forget_setup code
    exact .ok
      { heading :=
          forgotten.frame leaves.fsm leaves.active leaves.others
            (by rw [leaves.toApp]) fun _ acked => (unchanged rfl).symm.trans acked
        handled := .ignored }
  | true => exact processFinAck_yields heading code transmits.leaves

end Acknowledging

/-! ## The text and the FIN -/

/-- The states in which a deferred `CLOSE` may take the place of the code. -/
def DefersClose : TcpState → Bool
  | .synRcvd | .established | .closeWait => true
  | _ => false

/-- The code with which the processing goes on after the FIN. -/
structure Finished (conn : TCPConnection) (event : TCPEventCode) (next : TCPConnection) : Prop where
  fsm : next.fsm = conn.fsm
  heading : Heading next event
  handled : Handled conn.fsm event
  fresh : DefersClose conn.fsm = true → Fresh next

section Finishing

section

variable (acknowledged : Acknowledged conn tcpseg event middle)
include acknowledged

theorem Acknowledged.delivers
    (delivers : Delivers middle next) : Acknowledged conn tcpseg event next where
  fsm := delivers.fsm.trans acknowledged.fsm
  heading := acknowledged.heading.delivers delivers
  handled := acknowledged.handled
  fresh := fun text => (acknowledged.fresh text).delivers delivers
  ignored := acknowledged.ignored

theorem Acknowledged.fresh_deferred (defers : DefersClose conn.fsm = true) : Fresh middle := by
  cases fsm : conn.fsm with
  | synRcvd => exact acknowledged.fresh (by rw [fsm]; rfl)
  | established => exact acknowledged.fresh (by rw [fsm]; rfl)
  | closeWait =>
    have ignored : event = .ignore := by
      refine (acknowledged.ignored (by rw [fsm]; rfl)).resolve_right ?_
      rintro ⟨closing, _⟩
      exact absurd (fsm.symm.trans closing) (by decide)
    have heading := acknowledged.heading
    rw [ignored] at heading
    exact heading.fresh_of (acknowledged.fsm.trans fsm) (by decide) (by decide)
  | _ =>
    rw [fsm] at defers
    cases defers

theorem Acknowledged.finished : Finished conn event middle where
  fsm := acknowledged.fsm
  heading := acknowledged.heading
  handled := acknowledged.handled
  fresh := acknowledged.fresh_deferred

end

theorem Finished.delivers
    (finished : Finished conn event middle) (delivers : Delivers middle next) :
    Finished conn event next where
  fsm := delivers.fsm.trans finished.fsm
  heading := finished.heading.delivers delivers
  handled := finished.handled
  fresh := fun defers => (finished.fresh defers).delivers delivers

theorem startTimeWait_yields (event : TCPEventCode) (fresh : Fresh conn)
    (goes : target conn event = .timeWait) (moves : conn.fsm ≠ .timeWait) :
    Yields Rescheduled (fun next => next.fsm = conn.fsm ∧ Heading next event)
      conn.startTimeWait := by
  have idle : (conn.cancelEvent .finWait2).scheduled .the2MSL = false :=
    (setScheduled_of_ne (by decide) _).trans fresh.the2MSL
  have other :
      ((conn.cancelEvent .finWait2).setScheduled .the2MSL true).scheduled .finWait2 = false :=
    (setScheduled_of_ne (by decide) _).trans (setScheduled_self ..)
  have started :
      Yields Rescheduled (· = (conn.cancelEvent .finWait2).setScheduled .the2MSL true)
        ((conn.cancelEvent .finWait2).scheduleTimeout .the2MSL) :=
    .of_eq_ok (scheduleTimeout_eq idle) rfl
  refine started.bind ?_
  rintro _ rfl
  exact .ok ⟨rfl, .finish (fun _ => goes) fresh.untold other (.inl goes) (goes.trans_ne moves.symm)⟩

/-- The FIN moves the connection, which has not headed for the end. -/
theorem Fresh.rcvFin (fresh : Fresh middle)
    (there : middle.fsm = conn.fsm) (fsm : middle.fsm = state)
    (listed : ∀ active, transition active state .rcvFin = some after) (moves : after ≠ state)
    (closing : after = .closing → middle.snd.fin_ack_rcvd = false) :
    Finished conn .rcvFin middle where
  fsm := there
  heading := fresh.leave (target_eq fsm (listed _)) (fun stays => moves (stays.trans fsm)) closing
  handled := .listed fun active => by
    rw [← there, fsm, listed]
    rfl
  fresh := fun _ => fresh

theorem Acknowledged.rcvFin (acknowledged : Acknowledged conn tcpseg event middle)
    (fsm : conn.fsm = state) (past : PastFin state = true)
    (unlisted : ∀ active, transition active state .rcvFin = none)
    (admitted : conn.fsm = .closing → ¬conn.AcksFin tcpseg) : Finished conn .rcvFin middle := by
  have ignored : event = .ignore := by
    refine (acknowledged.ignored (by rw [fsm]; exact past)).resolve_right ?_
    rintro ⟨closing, acks⟩
    exact admitted closing acks
  have heading := acknowledged.heading
  rw [ignored] at heading
  exact
    { fsm := acknowledged.fsm
      heading := heading.unlisted (acknowledged.fsm.trans fsm) (unlisted _)
      handled := .rcvFin (by rw [fsm]; exact past)
      fresh := acknowledged.fresh_deferred }

theorem processFin_yields (acknowledged : Acknowledged conn tcpseg event middle)
    (synchronized : Synchronized conn.fsm)
    (admitted : conn.fsm = .closing → tcpseg.finBit = true → ¬conn.AcksFin tcpseg) :
    Yields Rescheduled (fun result => Finished conn result.1 result.2)
      (middle.processFin tcpseg event) := by
  unfold processFin
  split_ifs with finBit
  · have received := acknowledged.delivers (middle.receiveFin_delivers tcpseg)
    have passed := fun closing => admitted closing finBit
    have there := received.fsm
    dsimp only
    cases fsm : (middle.receiveFin tcpseg).fsm with
    | synRcvd =>
      have fresh := received.fresh (by rw [← there, fsm]; rfl)
      exact .ok (fresh.rcvFin there fsm (fun _ => rfl) (by decide) nofun)
    | established =>
      have fresh := received.fresh (by rw [← there, fsm]; rfl)
      exact .ok (fresh.rcvFin there fsm (fun _ => rfl) (by decide) nofun)
    | finWait1 =>
      have fresh := received.fresh (by rw [← there, fsm]; rfl)
      split_ifs with acked
      · refine (startTimeWait_yields .rcvFinAck fresh (target_eq fsm rfl)
          (fsm.trans_ne (by decide))).bind ?_
        rintro _ ⟨same, heading⟩
        exact .ok
          { fsm := same.trans there
            heading
            handled := .listed fun _ => by rw [← there, fsm]; rfl
            fresh := by
              rw [← there, fsm]
              nofun }
      · exact .ok (fresh.rcvFin there fsm (fun _ => rfl) (by decide)
          fun _ => eq_false_of_not_eq_true acked)
    | finWait2 =>
      have fresh := received.fresh (by rw [← there, fsm]; rfl)
      refine (startTimeWait_yields .rcvFin fresh (target_eq fsm rfl)
        (fsm.trans_ne (by decide))).bind ?_
      rintro _ ⟨same, heading⟩
      exact .ok
        { fsm := same.trans there
          heading
          handled := .listed fun _ => by rw [← there, fsm]; rfl
          fresh := by
            rw [← there, fsm]
            nofun }
    | timeWait =>
      have same := there.symm.trans fsm
      have waits := received.rcvFin same rfl (fun _ => rfl) passed
      refine (waits.heading.restart (target_stays fsm rfl)).bind ?_
      rintro _ ⟨still, restarted⟩
      exact .ok
        { fsm := still.trans there
          heading := restarted
          handled := waits.handled
          fresh := by
            rw [same]
            nofun }
    | closeWait => exact .ok (received.rcvFin (there.symm.trans fsm) rfl (fun _ => rfl) passed)
    | closing => exact .ok (received.rcvFin (there.symm.trans fsm) rfl (fun _ => rfl) passed)
    | lastAck => exact .ok (received.rcvFin (there.symm.trans fsm) rfl (fun _ => rfl) passed)
    | _ =>
      rw [← there, fsm] at synchronized
      exact absurd synchronized (by unfold Synchronized; decide)
  · exact .ok acknowledged.finished

/-- A deferred `CLOSE` takes the place of a code only where nothing ends. -/
theorem Finished.deferredClose (finished : Finished conn event middle) (old_snd_nxt : SeqNo) :
    Ends conn (middle.deferredClose old_snd_nxt event, middle) := by
  have closes (state after : TcpState) (fsm : middle.fsm = state)
      (defers : DefersClose state = true)
      (listed : ∀ active, transition active state .close = some after)
      (moves : after ≠ state ∧ after ≠ .closing) : Ends conn (.close, middle) := by
    have there := finished.fsm
    have fresh := finished.fresh (by rw [← there, fsm]; exact defers)
    exact
      { heading := fresh.leave (target_eq fsm (listed _))
          (fun stays => moves.1 (stays.trans fsm))
          fun closing => absurd closing moves.2
        handled := .listed fun active => by
          rw [← there, fsm, listed]
          rfl }
  dsimp only [TCPConnection.deferredClose]
  split_ifs with early late
  · rcases early.1 with fsm | fsm
    · exact closes _ _ fsm rfl (fun _ => rfl) (by decide)
    · exact closes _ _ fsm rfl (fun _ => rfl) (by decide)
  · exact closes _ _ late.1 rfl (fun _ => rfl) (by decide)
  · exact { heading := finished.heading, handled := finished.handled }

theorem processTextAndFin_yields (acknowledged : Acknowledged conn tcpseg event middle)
    (synchronized : Synchronized conn.fsm)
    (admitted : conn.fsm = .closing → tcpseg.finBit = true → ¬conn.AcksFin tcpseg) :
    Yields Rescheduled (fun result => Finished conn result.1 result.2)
      (middle.processTextAndFin tcpseg event) := by
  refine (processText_yields _).bind ?_
  intro _ delivers
  refine (processFin_yields (acknowledged.delivers delivers) synchronized admitted).bind ?_
  rintro ⟨_, _⟩ finished
  dsimp only
  split_ifs
  · exact receiveSeqChanged_yields.bind fun last answers => .ok (finished.delivers answers)
  · exact .ok finished

theorem processAckTextAndFin_yields (heading : Heading conn .ignore)
    (synchronized : Synchronized conn.fsm) (choices : Choices)
    (admitted : conn.fsm = .closing → tcpseg.finBit = true → ¬conn.AcksFin tcpseg) :
    Yields Rescheduled (Ends conn) (conn.processAckTextAndFin tcpseg choices) := by
  refine (completeSetup_yields heading _ _).bind ?_
  rintro ⟨flow, started⟩ continues
  cases flow with
  | returns _ => exact .ok continues
  | continues _ =>
    rcases continues with ⟨delivers, opens, code⟩
    have same := delivers.fsm
    have ends {result : TCPEventCode × TCPConnection}
        (ends : Ends started result) : Ends conn result :=
      ⟨ends.heading, same ▸ ends.handled⟩
    refine (processAckField_yields opens code _ _).bind ?_
    rintro ⟨flow, _⟩ goesOn
    cases flow with
    | returns _ => exact .ok (ends goesOn)
    | continues _ =>
      have admits : started.fsm = .closing → tcpseg.finBit = true → ¬started.AcksFin tcpseg := by
        rwa [AcksFin, same, delivers.snd]
      rw [← same] at synchronized
      refine (processTextAndFin_yields goesOn synchronized admits).bind ?_
      rintro ⟨_, _⟩ finished
      exact .ok (ends (finished.deferredClose _))

theorem unexpectedSyn_listed (synchronized : Synchronized state) (active : Bool) :
    transition active state .rcvUnexpSyn = some .closed := by
  cases state with
  | init | closed | listen | synSent => exact absurd synchronized (by unfold Synchronized; decide)
  | _ => rfl

theorem processSegment1stThru8th_yields (heading : Heading conn .ignore)
    (synchronized : Synchronized conn.fsm) (choices : Choices)
    (admitted : conn.fsm = .closing → tcpseg.finBit = true → ¬conn.AcksFin tcpseg) :
    Yields Rescheduled (Ends conn) (conn.processSegment1stThru8th tcpseg choices) := by
  unfold processSegment1stThru8th
  split_ifs
  · exact processRst_yields heading
  · have listed := unexpectedSyn_listed synchronized
    have running : conn.fsm ≠ .closed := by
      intro fsm
      rw [fsm] at synchronized
      exact absurd synchronized (by unfold Synchronized; decide)
    have told := Delivers.indicate conn .connectionReset nofun
    exact .ok
      { heading := (heading.delivers told).toClosed
          (target_eq rfl (listed _)) running
        handled := .listed fun active => by
          rw [listed]
          rfl }
  · exact processAckTextAndFin_yields heading synchronized _ admitted
  · exact .ok heading.ignored
  · exact .ok heading.ignored
  · exact .ok { heading := heading.leaves ackSent_transmits.leaves, handled := .ignored }

theorem rcvSegment_yields (heading : Heading conn .ignore)
    (running : conn.fsm ≠ .closed) (iss : SeqNo) (choices : Choices)
    (admitted : conn.fsm = .closing → tcpseg.finBit = true → ¬conn.AcksFin tcpseg) :
    Yields Rescheduled (Ends conn) (conn.process_RCV_SEGMENT tcpseg iss choices) := by
  have synchronized (state : TcpState) (fsm : conn.fsm = state) (later : Synchronized state) :
      Yields Rescheduled (Ends conn) (conn.processSegment1stThru8th tcpseg choices) := by
    rw [← fsm] at later
    exact processSegment1stThru8th_yields heading later _ admitted
  unfold process_RCV_SEGMENT
  cases fsm : conn.fsm with
  | init => exact .error id
  | closed => exact absurd fsm running
  | listen => exact processSegmentInListen_yields heading fsm _ _
  | synSent => exact processSegmentInSynSent_yields heading fsm _ _
  | synRcvd | established | finWait1 | finWait2 => exact synchronized _ fsm (.inl rfl)
  | closeWait | closing | lastAck | timeWait => exact synchronized _ fsm (.inr rfl)

end Finishing

end Segments

/-! ## Timeouts -/

section Timeouts

theorem Heading.cancel (heading : Heading conn event)
    (timer : Timer) : Heading (conn.cancelEvent timer) event where
  the2MSL := fun running => heading.the2MSL (scheduled_of_cancelEvent running).2
  connEstab := fun running => heading.connEstab (scheduled_of_cancelEvent running).2
  synRexmit := fun running => heading.synRexmit (scheduled_of_cancelEvent running).2
  finWait2 := by
    refine eq_false_of_not_eq_true fun running => ?_
    have before := (scheduled_of_cancelEvent running).2
    exact false_ne_true (heading.finWait2.symm.trans before)
  closing := heading.closing
  once := heading.once
  closed := heading.closed

theorem Heading.abort (heading : Heading next .ignore)
    (same : next.fsm = conn.fsm) (opened : conn.fsm ≠ .init)
    (running : conn.fsm ≠ .closed) : Ends conn (.abort, next) where
  heading := by
    rw [← same] at opened running
    exact heading.toClosed (target_eq rfl (abort_listed _ opened running)) running
  handled := .listed fun _ => by
    rw [abort_listed _ opened running]
    rfl

theorem timeout2MSL_yields (heading : Heading conn .ignore) :
    Yields Rescheduled (Ends conn) conn.process_TIMEOUT_2MSL := by
  unfold process_TIMEOUT_2MSL
  split_ifs with fsm
  · exact .ok
      { heading := heading.toClosed (target_eq fsm rfl)
          (fsm.trans_ne (by decide))
        handled := .listed fun _ => by rw [fsm]; rfl }
  · exact .error id

theorem timeoutConnEstab_yields (heading : Heading conn .ignore) :
    Yields Rescheduled (Ends conn) conn.process_TIMEOUT_CONN_ESTAB := by
  have told := Delivers.indicate conn .timedOut nofun
  unfold process_TIMEOUT_CONN_ESTAB
  split_ifs with setup active
  · have same := told.active.trans active
    rcases setup with fsm | fsm
    · have fresh := heading.fresh_of fsm (by decide) (by decide)
      have there := told.fsm.trans fsm
      refine .ok ⟨(fresh.delivers told).leave (target_eq there rfl) ?_ ?_,
        .listed fun _ => by rw [fsm]; rfl⟩
      · rw [there, same]
        decide
      · rw [same]
        nofun
    · have fresh := heading.fresh_of fsm (by decide) (by decide)
      have there := told.fsm.trans fsm
      exact .ok
        { heading := (fresh.delivers told).leave (target_eq there rfl)
            (by rw [there]; decide) nofun
          handled := .listed fun _ => by rw [fsm]; rfl }
  · have passive := eq_false_of_not_eq_true active
    rcases setup with fsm | fsm
    · have fresh := heading.fresh_of fsm (by decide) (by decide)
      refine .ok ⟨fresh.leave (target_eq fsm rfl) ?_ ?_, .listed fun _ => by rw [fsm]; rfl⟩
      · rw [fsm, passive]
        decide
      · rw [passive]
        nofun
    · have fresh := heading.fresh_of fsm (by decide) (by decide)
      exact .ok
        { heading := fresh.leave (target_eq fsm rfl)
            (by rw [fsm]; decide) nofun
          handled := .listed fun _ => by rw [fsm]; rfl }
  · exact .error id

theorem sendSynAgain_yields (conn : TCPConnection) :
    Yields Rescheduled (fun next => SetsUp conn next ∧ next.scheduled = conn.scheduled)
      conn.sendSynAgain := by
  unfold sendSynAgain
  cases conn.fsm with
  | synSent => exact sendSyn_yields _
  | synRcvd => exact .ok ⟨sendSynAck_setsUp _, rfl⟩
  | _ => exact .error id

theorem timeoutSynRexmit_yields (heading : Heading conn .ignore)
    (setup : conn.fsm = .synSent ∨ conn.fsm = .synRcvd) (idle : conn.scheduled .synRexmit = false) :
    Yields Rescheduled (Ends conn) conn.process_TIMEOUT_SYN_REXMIT := by
  have counted : SetsUp conn { conn with syn_rexmit_count := conn.syn_rexmit_count + 1 } :=
    { SetsUp.refl _ with }
  have opened : conn.fsm ≠ .init := by
    rcases setup with fsm | fsm
    all_goals exact fsm.trans_ne (by decide)
  have running : conn.fsm ≠ .closed := by
    rcases setup with fsm | fsm
    all_goals exact fsm.trans_ne (by decide)
  dsimp only [process_TIMEOUT_SYN_REXMIT]
  split_ifs
  · have heading := heading.frame counted.fsm counted.active (fun _ _ _ => rfl) rfl fun _ => id
    exact .ok (heading.abort rfl opened running)
  · have fresh : Fresh conn := by
      rcases setup with fsm | fsm
      all_goals exact heading.fresh_of fsm (by decide) (by decide)
    refine (sendSynAgain_yields _).bind ?_
    rintro _ ⟨sent, timers⟩
    rw [scheduleTimeout_eq ((congrFun timers _).trans idle)]
    have setsUp := (counted.trans sent).trans (.setScheduled (.inr rfl) true)
    have rests := (target_ignore _).trans setsUp.fsm
    exact .ok
      { heading :=
          (fresh.setsUp setsUp).setup (setup.imp rests.trans rests.trans)
        handled := .ignored }

theorem processRexmitTimer_yields (heading : Heading conn .ignore)
    (opened : conn.fsm ≠ .init) (running : conn.fsm ≠ .closed)
    (idle : conn.scheduled .rexmit = false) (choices : Choices) :
    Yields Rescheduled (Ends conn) (conn.processRexmitTimer choices) := by
  have counted : Leaves False conn { conn with rexmit_count := conn.rexmit_count + 1 } :=
    { Leaves.refl _ with }
  have retransmits (middle : TCPConnection) :
      Yields Rescheduled (Transmits False middle)
        (if choices.retransmitsAll then middle.retransmitData
        else
          middle.retransmitOneSegment) := by
    split_ifs
    · exact retransmitData_yields _
    · exact retransmitOneSegment_yields _
  unfold processRexmitTimer
  by_cases exhausted : conn.rexmit_count + 1 > MAX_REXMIT_COUNT
  · have told := (heading.leaves counted).delivers (.indicate _ .timedOut nofun)
    rw [if_pos exhausted]
    exact .ok (told.abort rfl opened running)
  · have started := counted.trans (.setScheduled (.inl rfl) true)
    have still : { conn with rexmit_count := conn.rexmit_count + 1 }.scheduled .rexmit = false :=
      idle
    rw [if_neg exhausted, scheduleTimeout_eq still]
    refine (retransmits _).bind fun last transmits => ?_
    exact .ok { heading := heading.leaves (started.trans transmits.leaves), handled := .ignored }

theorem processTimer_yields (heading : Heading conn .ignore)
    (running : conn.fsm ≠ .closed) (expired : conn.scheduled timer = true) (choices : Choices) :
    Yields Rescheduled (Ends conn) (conn.processTimer choices timer) := by
  have cancelled := heading.cancel timer
  have ends {result : TCPEventCode × TCPConnection}
      (ends : Ends (conn.cancelEvent timer) result) : Ends conn result :=
    ⟨ends.heading, ends.handled⟩
  have idle := setScheduled_self conn timer false
  cases timer with
  | the2MSL => exact (timeout2MSL_yields cancelled).mono fun _ => ends
  | connEstab => exact (timeoutConnEstab_yields cancelled).mono fun _ => ends
  | finWait2 => exact absurd (heading.finWait2.symm.trans expired) false_ne_true
  | synRexmit =>
    have setup := heading.synRexmit expired
    rw [SettingUp, target_ignore] at setup
    have setup := or_assoc.mpr setup |>.resolve_right fun moved => moved rfl
    exact (timeoutSynRexmit_yields cancelled setup idle).mono fun _ => ends
  | rexmit =>
    unfold processTimer
    split_ifs with fsm
    · exact .error id
    · exact (processRexmitTimer_yields cancelled fsm running idle choices).mono fun _ => ends
  | delayedAck =>
    unfold processTimer
    split_ifs
    · exact .error id
    · exact .ok { heading := cancelled.leaves ackSent_transmits.leaves, handled := .ignored }

end Timeouts

/-! ## Runs -/

theorem process_yields {event : Event}
    (heading : Heading conn .ignore) (enabled : conn.Enabled event) (admitted : Guard conn event) :
    Yields Rescheduled (Ends conn) (conn.process event) := by
  cases event with
  | openActive _ _ => exact openActive_yields heading _ _
  | openPassive _ => exact openPassive_yields heading _
  | send _ _ _ => exact send_yields heading _ _ _
  | close => exact close_yields heading
  | abort => exact abort_yields heading enabled
  | status => exact status_yields heading
  | segment _ _ _ => exact rcvSegment_yields heading enabled _ _ admitted
  | timeout _ _ => exact processTimer_yields heading enabled.1 enabled.2 _

theorem heading_create (mss : Nat) (advertisedWindow : SeqNo) (delayed_acks_enabled : Bool) :
    Heading (create mss advertisedWindow delayed_acks_enabled) .ignore where
  the2MSL := nofun
  connEstab := nofun
  synRexmit := nofun
  finWait2 := rfl
  closing := nofun
  once := Nat.zero_le 1
  closed := fun told => absurd rfl told

theorem heading_step (conn : TCPConnection) (event : Event)
    (next : TCPConnection) (heading : Heading conn .ignore)
    (admitted : Guard conn event) (taken : conn.step event next) : Heading next .ignore := by
  rcases taken with ⟨enabled, _, _, success, rfl⟩
  have ends := (process_yields heading enabled admitted).2 _ success
  exact ends.heading.performStateTransition

/--
In a run in which no FIN comes with the ACK of our FIN in CLOSING, no timer
is scheduled twice, the 2MSL timer is scheduled only towards TIME_WAIT and
expires only there, every pair of a state and an event code is handled, and
the application is told `closed` at most once.
-/
theorem timers_and_events {mss : Nat} {advertisedWindow : SeqNo}
    {delayed_acks_enabled : Bool} {events : List Event} {last : TCPConnection}
    (run :
      Run (guardedStep Guard step) (create mss advertisedWindow delayed_acks_enabled) events last) :
    (∀ event, last.Enabled event → Guard last event →
      (∀ timer, last.process event ≠ .error (.alreadyScheduled timer)) ∧
      ∀ code processed, last.process event = .ok (code, processed) → Handled last.fsm code ∧
        (processed.scheduled .the2MSL = true →
          (processed.performStateTransition code).fsm = .timeWait ∨ processed.fsm = .timeWait)) ∧
    (last.scheduled .the2MSL = true → last.fsm = .timeWait) ∧
    last.toApp.count .closed ≤ 1 := by
  have heading := run.guarded heading_step (heading_create _ _ _)
  refine ⟨?_, heading.waiting, heading.once⟩
  intro _ enabled admitted
  have yields := process_yields heading enabled admitted
  constructor
  · intro _ failure
    exact yields.1 _ failure trivial
  · intro _ _ success
    have ends := yields.2 _ success
    refine ⟨ends.handled, fun running => ?_⟩
    rw [performStateTransition_fsm]
    exact (ends.heading.the2MSL running).imp_right And.left

/-- A passive open that is answered by a SYN and an ACK. -/
def accepted : List Event :=
  [ .openPassive false, .segment { sequenceNo := 500, window := 4096, synBit := true } 100 {},
    .segment { sequenceNo := 501, ackNo := 101, window := 4096, ackBit := true } 0 {} ]

theorem accepted_timers_and_events :
    ∃ last,
      Run (guardedStep Guard step) (create 1024 16384 false) accepted last ∧
        last.fsm = .established ∧ last.toApp = [.established] ∧
        (∀ event, last.Enabled event → Guard last event →
          (∀ timer, last.process event ≠ .error (.alreadyScheduled timer)) ∧
          ∀ code processed, last.process event = .ok (code, processed) → Handled last.fsm code ∧
            (processed.scheduled .the2MSL = true →
              (processed.performStateTransition code).fsm = .timeWait ∨
                processed.fsm = .timeWait)) ∧
        (last.scheduled .the2MSL = true → last.fsm = .timeWait) ∧
        last.toApp.count .closed ≤ 1 := by
  have run :
      ∃ last,
        Run (guardedStep Guard step) (create 1024 16384 false) accepted last ∧
          last.fsm = .established ∧ last.toApp = [.established] := by
    refine ⟨_, .next ⟨trivial, nofun, _, _, rfl, rfl⟩ <| .next ⟨nofun, nofun, _, _, rfl, rfl⟩ <|
      .next ⟨nofun, nofun, _, _, rfl, rfl⟩ <| .idle _, ?_, ?_⟩
    all_goals rfl
  rcases run with ⟨last, run, fsm, told⟩
  exact ⟨last, run, fsm, told, timers_and_events run⟩

/-- What is sent before the setup completes has an event code of its own. -/
theorem send_in_synSent_not_listed :
    ∃ last processed,
      Run step (create 1024 16384 false) [.openActive true 100] last ∧
        last.process (.send 10 0 {}) = .ok (.send, processed) ∧ last.fsm = .synSent ∧
        ∀ active, transition active last.fsm .send = none := by
  refine ⟨_, _, .next ⟨nofun, _, _, rfl, rfl⟩ (.idle _), rfl, rfl, ?_⟩
  intro _
  rfl

end OmnetDsi.Tcp.TimersAndEvents
