import OmnetDsi.Tcp.TimersAndEvents

/-!
# Pending retransmissions

While something that was sent has not been acknowledged, the REXMIT timer
runs.  The algorithm starts it with the first data that is sent, and again
with each acknowledgement that leaves some data; the FIN that `CLOSE` sends at
once does not start it, and neither does an ACK that completes the setup
without acknowledging the SYN.  Without these two steps the timer runs in
every state after the setup.
-/

namespace OmnetDsi.Tcp.PendingRetransmission

open Library.Fallible Library.Transition Tcp.Connection Tcp.Connection.TCPConnection
open Tcp.SequenceNumbers Tcp.Sending Tcp.StateMachine
open Tcp.TimersAndEvents
  (target target_ignore target_eq target_stays performStateTransition_fsm
    status_unlisted DefersClose)

/-! ## What is to hold -/

/-- Our SYN, and nothing else, has been sent. -/
structure SynOnly (conn : TCPConnection) : Prop where
  snd_una : conn.snd.snd_una = conn.iss
  snd_nxt : conn.snd.snd_nxt = conn.iss + 1
  snd_max : conn.snd.snd_max = conn.iss + 1

/-- The REXMIT timer fits the state to which the event code leads. -/
structure Armed (conn : TCPConnection) (event : TCPEventCode) : Prop where
  idle : BeforeTransfer (target conn event) = true → conn.scheduled .rexmit = false
  synOnly : target conn event = .synSent ∨ target conn event = .synRcvd → SynOnly conn
  pending : BeforeTransfer (target conn event) = false → target conn event ≠ .closed → conn.Pending

/-- `CLOSE` sends the FIN at once. -/
def SendsFin (conn : TCPConnection) : Prop :=
  DefersClose conn.fsm = true ∧ conn.snd.snd_max = conn.snd.sendQueue.getBufferEndSeq

/-- The ACK field of the segment completes the setup. -/
def CompletesSetup (conn : TCPConnection) (tcpseg : TCPSegment) : Prop :=
  conn.fsm = .synRcvd ∧ conn.isSegmentAcceptable tcpseg = true ∧
    tcpseg.rstBit = false ∧ tcpseg.synBit = false ∧ tcpseg.ackBit = true

/--
A FIN is sent at once only while the timer runs, and the setup is completed
only by an ACK of the SYN.
-/
def Guard (conn : TCPConnection) : Event → Prop
  | .close => SendsFin conn → conn.scheduled .rexmit = true
  | .segment tcpseg _ _ => CompletesSetup conn tcpseg → tcpseg.ackNo ≠ conn.snd.snd_una
  | _ => True

/-- What the processing of an event returns. -/
abbrev Arms (result : TCPEventCode × TCPConnection) : Prop :=
  Armed result.2 result.1

/-! ## What keeps the numbers and the timer -/

/-- Neither the numbers of the send side nor the timer change. -/
structure Keeps (conn next : TCPConnection) : Prop where
  fsm : next.fsm = conn.fsm
  active : next.active = conn.active
  iss : next.iss = conn.iss
  snd_una : next.snd.snd_una = conn.snd.snd_una
  snd_nxt : next.snd.snd_nxt = conn.snd.snd_nxt
  snd_max : next.snd.snd_max = conn.snd.snd_max
  rexmit : next.scheduled .rexmit = conn.scheduled .rexmit

section Keeping

theorem Keeps.refl (conn : TCPConnection) : Keeps conn conn where
  fsm := rfl
  active := rfl
  iss := rfl
  snd_una := rfl
  snd_nxt := rfl
  snd_max := rfl
  rexmit := rfl

theorem Keeps.trans (first : Keeps conn middle) (second : Keeps middle next) : Keeps conn next where
  fsm := second.fsm.trans first.fsm
  active := second.active.trans first.active
  iss := second.iss.trans first.iss
  snd_una := second.snd_una.trans first.snd_una
  snd_nxt := second.snd_nxt.trans first.snd_nxt
  snd_max := second.snd_max.trans first.snd_max
  rexmit := second.rexmit.trans first.rexmit

theorem Keeps.setScheduled (other : timer ≠ .rexmit)
    (running : Bool) : Keeps conn (conn.setScheduled timer running) :=
  { Keeps.refl _ with rexmit := setScheduled_of_ne other.symm _ }

theorem scheduleTimeout_keeps (other : timer ≠ .rexmit) :
    Returns (Keeps conn) (conn.scheduleTimeout timer) := by
  unfold scheduleTimeout
  split_ifs
  · exact .error id
  · exact .ok (.setScheduled other _)

theorem startSynRexmitTimer_keeps : Returns (Keeps conn) conn.startSynRexmitTimer := by
  have other : Timer.synRexmit ≠ .rexmit := by decide
  have reset : Keeps conn { conn with syn_rexmit_count := 0 } := { Keeps.refl _ with }
  have cancelled := reset.trans (.setScheduled other false)
  exact (scheduleTimeout_keeps other).mono fun _ => cancelled.trans

theorem keepText_keeps (tcpseg : TCPSegment) : Keeps conn (conn.keepText tcpseg) := by
  unfold keepText
  split_ifs
  · exact { Keeps.refl _ with }
  · exact .refl _

theorem Keeps.target (keeps : Keeps conn next) : target next event = target conn event := by
  unfold TimersAndEvents.target
  rw [keeps.fsm, keeps.active]

theorem SynOnly.keeps (synOnly : SynOnly conn) (keeps : Keeps conn next) : SynOnly next where
  snd_una := by rw [keeps.snd_una, keeps.iss, synOnly.snd_una]
  snd_nxt := by rw [keeps.snd_nxt, keeps.iss, synOnly.snd_nxt]
  snd_max := by rw [keeps.snd_max, keeps.iss, synOnly.snd_max]

theorem pending_of_keeps (pending : conn.Pending) (keeps : Keeps conn next) : next.Pending := by
  rwa [Pending, keeps.snd_una, keeps.snd_max, keeps.rexmit]

theorem Armed.keeps (armed : Armed conn event) (keeps : Keeps conn next) : Armed next event where
  idle early := by
    rw [keeps.target] at early
    exact keeps.rexmit.trans (armed.idle early)
  synOnly setup := by
    rw [keeps.target] at setup
    exact (armed.synOnly setup).keeps keeps
  pending later running := by
    rw [keeps.target] at later running
    exact pending_of_keeps (armed.pending later running) keeps

theorem pending_of_delivers (pending : conn.Pending)
    (delivers : Delivers conn next) : next.Pending := by
  rwa [Pending, delivers.snd, delivers.others .rexmit (by decide)]

end Keeping

/-! ## Between the steps -/

section Stepping

theorem Armed.of_closed (closed : target conn event = .closed) : Armed conn event where
  idle early := by
    rw [closed] at early
    cases early
  synOnly setup := by
    rw [closed] at setup
    exact absurd setup (by decide)
  pending _ running := absurd closed running

/-- Before and after the setup nothing is asked for but an idle timer. -/
theorem Armed.of_idle (goes : target conn event = state) (early : state = .init ∨ state = .listen)
    (idle : conn.scheduled .rexmit = false) : Armed conn event where
  idle _ := idle
  synOnly setup := by
    rw [goes] at setup
    rcases early with rfl | rfl
    all_goals exact absurd setup (by decide)
  pending later := by
    rw [goes] at later
    rcases early with rfl | rfl
    all_goals cases later

theorem Armed.of_synOnly (goes : target conn event = .synSent ∨ target conn event = .synRcvd)
    (synOnly : SynOnly conn) (idle : conn.scheduled .rexmit = false) : Armed conn event where
  idle _ := idle
  synOnly _ := synOnly
  pending later := by
    rcases goes with sent | received
    · rw [sent] at later
      cases later
    · rw [received] at later
      cases later

theorem Armed.of_pending (later : BeforeTransfer (target conn event) = false)
    (pending : conn.Pending) : Armed conn event where
  idle early := absurd (later.symm.trans early) Bool.false_ne_true
  synOnly setup := by
    rcases setup with sent | received
    · rw [sent] at later
      cases later
    · rw [received] at later
      cases later
  pending _ _ := pending

theorem Armed.redirect (armed : Armed conn event)
    (same : target conn other = target conn event) : Armed conn other where
  idle := by
    rw [same]
    exact armed.idle
  synOnly := by
    rw [same]
    exact armed.synOnly
  pending := by
    rw [same]
    exact armed.pending

theorem stateEntered_keeps (running : state ≠ .closed) : Keeps conn (conn.stateEntered state) := by
  cases state with
  | closed => exact absurd rfl running
  | init | synSent | synRcvd => exact .refl _
  | _ => exact (Keeps.setScheduled (by decide) _).trans (.setScheduled (by decide) _)

theorem Armed.enter (armed : Armed conn event) :
    Armed ({ conn with fsm := target conn event }.stateEntered (target conn event)) .ignore := by
  by_cases closed : target conn event = .closed
  · refine .of_closed ?_
    rwa [target_ignore, stateEntered_eq]
  · have moved : Armed { conn with fsm := target conn event } .ignore :=
      { idle := by
          rw [target_ignore]
          exact armed.idle
        synOnly := by
          rw [target_ignore]
          exact fun setup => { armed.synOnly setup with }
        pending := by
          rw [target_ignore]
          exact armed.pending }
    exact moved.keeps (stateEntered_keeps closed)

theorem Armed.performStateTransition (armed : Armed conn event) :
    Armed (conn.performStateTransition event) .ignore := by
  change Armed (if target conn event = conn.fsm then conn
    else { conn with fsm := target conn event }.stateEntered (target conn event)) .ignore
  split_ifs with stays
  · exact armed.redirect ((target_ignore _).trans stays.symm)
  · exact armed.enter

section

variable (armed : Armed conn .ignore)
include armed

theorem Armed.idle_of (fsm : conn.fsm = state) (early : BeforeTransfer state = true) :
    conn.scheduled .rexmit = false :=
  armed.idle (by rw [target_ignore, fsm]; exact early)

theorem Armed.synOnly_of (setup : conn.fsm = .synSent ∨ conn.fsm = .synRcvd) : SynOnly conn :=
  armed.synOnly (by rw [target_ignore]; exact setup)

theorem Armed.pending_of (fsm : conn.fsm = state) (later : BeforeTransfer state = false)
    (running : state ≠ .closed) : conn.Pending :=
  armed.pending (by rw [target_ignore, fsm]; exact later)
    (by rw [target_ignore, fsm]; exact running)

theorem Armed.unlisted (fsm : conn.fsm = state)
    (stays : transition conn.active state event = none) : Armed conn event :=
  armed.redirect ((target_stays fsm stays).trans ((target_ignore _).trans fsm).symm)

end

end Stepping

/-! ## Commands -/

section Commands

variable {conn : TCPConnection}

theorem synOnly_sendSynAck (unacked : conn.snd.snd_una = conn.iss) : SynOnly conn.sendSynAck where
  snd_una := unacked
  snd_nxt := rfl
  snd_max := rfl

theorem sendSyn_returns : Returns (· = conn.sendSynAck) conn.sendSyn := by
  unfold sendSyn
  split_ifs
  · exact .ok rfl
  · exact .error id

theorem sendSyn_setup {rest : TCPConnection → Except Connection.Failure Result}
    (unacked : conn.snd.snd_una = conn.iss)
    (after : ∀ next, SynOnly next → Keeps conn.sendSynAck next → Returns property (rest next)) :
    Returns property
      (do
        let next ← conn.sendSyn
        let next ← next.startSynRexmitTimer
        let next ← next.scheduleTimeout .connEstab
        rest next) := by
  refine sendSyn_returns.bind ?_
  rintro _ rfl
  refine startSynRexmitTimer_keeps.bind fun middle first => ?_
  refine (scheduleTimeout_keeps (by decide)).bind fun last second => ?_
  have keeps := first.trans second
  exact after _ ((synOnly_sendSynAck unacked).keeps keeps) keeps

theorem openActive_arms (armed : Armed conn .ignore) (remoteSpecified : Bool)
    (iss : SeqNo) : Returns Arms (conn.process_OPEN_ACTIVE remoteSpecified iss) := by
  unfold process_OPEN_ACTIVE
  split_ifs with fsm
  · have idle := armed.idle_of fsm rfl
    refine sendSyn_setup rfl fun next synOnly keeps => .ok ?_
    have goes : target next .openActive = .synSent := target_eq (keeps.fsm.trans fsm) rfl
    exact .of_synOnly (.inl goes) synOnly (keeps.rexmit.trans idle)
  · exact .error id

theorem openPassive_arms (armed : Armed conn .ignore) (fork : Bool) :
    Returns Arms (conn.process_OPEN_PASSIVE fork) := by
  unfold process_OPEN_PASSIVE
  split_ifs with fsm
  · have idle := armed.idle_of fsm rfl
    exact .ok (.of_idle (target_eq fsm rfl) (.inr rfl) idle)
  · exact .error id

theorem enqueueAppData_keeps (byteLength : Nat) : Keeps conn (conn.enqueueAppData byteLength) :=
  { Keeps.refl _ with }

theorem openAndQueue_arms (armed : Armed conn .ignore)
    (fsm : conn.fsm = .listen) (byteLength : Nat) (iss : SeqNo) :
    Returns Arms (conn.openAndQueue byteLength iss) := by
  have idle := armed.idle_of fsm rfl
  refine sendSyn_setup rfl fun next synOnly keeps => .ok ?_
  have goes : target next .send = .synSent := target_eq (keeps.fsm.trans fsm) rfl
  have sends : Armed next .send := .of_synOnly (.inl goes) synOnly (keeps.rexmit.trans idle)
  exact sends.keeps (enqueueAppData_keeps _)

theorem send_arms (armed : Armed conn .ignore) (byteLength : Nat) (iss : SeqNo)
    (choices : Choices) : Returns Arms (conn.process_SEND byteLength iss choices) := by
  have queued := armed.keeps (enqueueAppData_keeps byteLength)
  have inTransfer (state : TcpState) (fsm : conn.fsm = state)
      (later : BeforeTransfer state = false) (running : state ≠ .closed)
      (unlisted : ∀ active, transition active state .send = none) :
      Returns Arms
        (do
          let sending ← (conn.enqueueAppData byteLength).sendData choices
          .ok (.send, sending.2)) := by
    have pending := queued.pending_of fsm later running
    refine (sendData_yields False _).returns.bind ?_
    rintro ⟨_, next⟩ transmits
    have same : next.fsm = state := transmits.leaves.fsm.trans fsm
    have goes : target next .send = state := target_stays same (unlisted _)
    exact .ok (.of_pending (by rw [goes]; exact later) (transmits.pending pending))
  unfold process_SEND
  cases fsm : conn.fsm with
  | listen => exact openAndQueue_arms armed fsm _ _
  | synRcvd => exact .ok (queued.unlisted fsm rfl)
  | synSent => exact .ok (queued.unlisted fsm rfl)
  | established => exact inTransfer _ fsm rfl (by decide) fun _ => rfl
  | closeWait => exact inTransfer _ fsm rfl (by decide) fun _ => rfl
  | _ => exact .error id

/-- The FIN that is sent at once is the last that the running timer covers. -/
theorem sendOrDeferFin_arms (armed : Armed conn .ignore) (fsm : conn.fsm = state)
    (admitted :
      conn.snd.snd_max = conn.snd.sendQueue.getBufferEndSeq → conn.scheduled .rexmit = true)
    (listed : ∀ active, transition active state .close = some after)
    (later : BeforeTransfer after = false) :
    Arms conn.sendOrDeferFin := by
  unfold sendOrDeferFin SendSide.process_CLOSE
  by_cases all : conn.snd.snd_max = conn.snd.sendQueue.getBufferEndSeq
  · rw [if_pos all]
    refine .of_pending ?_ fun _ => ?_
    · change BeforeTransfer (target conn .close) = false
      rwa [target_eq fsm (listed _)]
    · exact (setScheduled_of_ne (by decide) _).trans (admitted all)
  · rw [if_neg all]
    exact armed.keeps { Keeps.refl _ with }

section

variable (armed : Armed conn .ignore)
include armed

theorem close_arms (admitted : SendsFin conn → conn.scheduled .rexmit = true) :
    Returns Arms conn.process_CLOSE := by
  have admits (state : TcpState) (fsm : conn.fsm = state) (defers : DefersClose state = true)
      (all : conn.snd.snd_max = conn.snd.sendQueue.getBufferEndSeq) :
      conn.scheduled .rexmit = true :=
    admitted ⟨by rw [fsm]; exact defers, all⟩
  unfold process_CLOSE
  cases fsm : conn.fsm with
  | listen => exact .ok (.of_closed (target_eq fsm rfl))
  | synSent => exact .ok (.of_closed (target_eq fsm rfl))
  | synRcvd => exact .ok (sendOrDeferFin_arms armed fsm (admits _ fsm rfl) (fun _ => rfl) rfl)
  | established => exact .ok (sendOrDeferFin_arms armed fsm (admits _ fsm rfl) (fun _ => rfl) rfl)
  | closeWait => exact .ok (sendOrDeferFin_arms armed fsm (admits _ fsm rfl) (fun _ => rfl) rfl)
  | _ => exact .error id

theorem Armed.abort : Armed conn .abort := by
  cases fsm : conn.fsm with
  | init => exact armed.unlisted fsm rfl
  | closed => exact armed.unlisted fsm rfl
  | _ => exact .of_closed (target_eq fsm rfl)

theorem abort_arms : Returns Arms conn.process_ABORT := by
  unfold process_ABORT
  split_ifs
  · exact .error id
  · exact .ok armed.abort

theorem status_arms : Returns Arms conn.process_STATUS := by
  unfold process_STATUS
  split_ifs
  · exact .error id
  · have told : Armed (conn.sendIndicationToApp .status) .ignore :=
      armed.keeps { Keeps.refl _ with }
    exact .ok (told.unlisted rfl (status_unlisted _ _))

end

end Commands

/-! ## Segments during the setup -/

section Setup

variable {conn : TCPConnection}

theorem processSegmentInListen_arms (armed : Armed conn .ignore)
    (fsm : conn.fsm = .listen) (tcpseg : TCPSegment) (iss : SeqNo) :
    Returns Arms (conn.processSegmentInListen tcpseg iss) := by
  have idle := armed.idle_of fsm rfl
  unfold processSegmentInListen
  split_ifs
  · exact .ok armed
  · exact .ok armed
  · refine startSynRexmitTimer_keeps.bind fun middle first => ?_
    have limited :
        Returns (Keeps middle) (if middle.scheduled .connEstab then .ok middle
          else
            middle.scheduleTimeout .connEstab) := by
      split_ifs
      · exact .ok (.refl _)
      · exact scheduleTimeout_keeps (by decide)
    refine limited.bind fun last second => .ok ?_
    have keeps := (first.trans second).trans (keepText_keeps tcpseg)
    have goes : target (last.keepText tcpseg) .rcvSyn = .synRcvd :=
      target_eq (keeps.fsm.trans fsm) rfl
    exact .of_synOnly (.inr goes) ((synOnly_sendSynAck rfl).keeps keeps) (keeps.rexmit.trans idle)
  · exact .ok armed

theorem establishActively_arms (fsm : conn.fsm = .synSent)
    (pending : conn.Pending) (tcpseg : TCPSegment) (choices : Choices) :
    Returns Arms (conn.establishActively tcpseg choices) := by
  have kept := pending_of_keeps pending (keepText_keeps tcpseg)
  have same := (keepText_keeps tcpseg).fsm.trans fsm
  refine (established_yields False _ _).returns.bind ?_
  intro last transmits
  have there : last.fsm = .synSent := transmits.leaves.fsm.trans same
  have goes : target (last.sendIndicationToApp .established) .rcvSynAck = .established :=
    target_eq there rfl
  have still : last.Pending := transmits.pending kept
  exact .ok (.of_pending (by rw [goes]; rfl) still)

theorem answerSyn_arms (fsm : conn.fsm = .synSent) (unacked : conn.snd.snd_una = conn.iss)
    (idle : conn.scheduled .rexmit = false) (tcpseg : TCPSegment) :
    Returns Arms (conn.answerSyn tcpseg) := by
  refine startSynRexmitTimer_keeps.bind fun last started => .ok ?_
  have keeps := started.trans (keepText_keeps tcpseg)
  have goes : target (last.keepText tcpseg) .rcvSyn = .synRcvd :=
    target_eq (keeps.fsm.trans fsm) rfl
  exact .of_synOnly (.inr goes) ((synOnly_sendSynAck unacked).keeps keeps) (keeps.rexmit.trans idle)

/-- The SYN is acknowledged, or it is not. -/
structure Answered (conn next : TCPConnection) : Prop where
  fsm : next.fsm = .synSent
  iss : next.iss = conn.iss
  snd_max : next.snd.snd_max = conn.iss + 1
  snd_una : next.snd.snd_una = conn.iss ∨ next.snd.snd_una = conn.iss + 1
  idle : next.scheduled .rexmit = false

section

variable {tcpseg : TCPSegment} (armed : Armed conn .ignore) (fsm : conn.fsm = .synSent)
    (acks : tcpseg.ackBit = true → tcpseg.ackNo = conn.iss + 1)
include armed fsm acks

theorem acceptSynAck_answers :
    Returns (Answered conn) (if tcpseg.ackBit then (conn.receiveSyn tcpseg).acceptSynAck tcpseg
      else
        .ok (conn.receiveSyn tcpseg)) := by
  have synOnly := armed.synOnly_of (.inl fsm)
  have idle := armed.idle_of fsm rfl
  split_ifs with ackBit
  · have discarded :
        Returns (fun _ => True)
          ((conn.snd.sendQueue.discardUpTo tcpseg.ackNo).mapError Connection.Failure.sending) :=
      .mapError (fun _ => id) fun _ _ => trivial
    refine discarded.bind fun sendQueue _ => .ok ?_
    exact
      { fsm
        iss := rfl
        snd_max := synOnly.snd_max
        snd_una := .inr (acks ackBit)
        idle }
  · exact .ok
      { fsm
        iss := rfl
        snd_max := synOnly.snd_max
        snd_una := .inl synOnly.snd_una
        idle }

theorem processSyn_arms (choices : Choices) : Returns Arms (conn.processSyn tcpseg choices) := by
  refine (acceptSynAck_answers armed fsm acks).bind ?_
  intro middle answered
  have specified : Answered conn { middle with remoteSpecified := true } := { answered with }
  dsimp only
  split_ifs with past
  · refine establishActively_arms specified.fsm ?_ _ _
    intro unacked
    refine absurd ?_ unacked
    rcases answered.snd_una with still | acked
    · rw [still, answered.iss] at past
      simp [seqGreater] at past
    · exact acked.trans answered.snd_max.symm
  · refine answerSyn_arms specified.fsm ?_ specified.idle _
    rcases answered.snd_una with still | acked
    · exact still.trans answered.iss.symm
    · refine absurd ?_ past
      rw [acked, answered.iss, seqGreater, BitVec.add_comm, BitVec.add_sub_cancel]
      simp

end

theorem processSegmentInSynSent_arms (armed : Armed conn .ignore)
    (fsm : conn.fsm = .synSent) (tcpseg : TCPSegment) (choices : Choices) :
    Returns Arms (conn.processSegmentInSynSent tcpseg choices) := by
  have synOnly := armed.synOnly_of (.inl fsm)
  unfold processSegmentInSynSent
  split_ifs with refused
  · exact .ok armed
  · exact .ok (.of_closed (target_eq fsm rfl))
  · exact .ok armed
  · refine processSyn_arms armed fsm (fun ackBit => ?_) _
    rw [synOnly.snd_nxt] at refused
    exact eq_add_one (fun early => refused ⟨ackBit, .inl early⟩)
      fun late => refused ⟨ackBit, .inr late⟩
  · exact .ok armed

end Setup

/-! ## Segments after the setup -/

/-- The states in which a segment is processed step by step. -/
def Stepwise (state : TcpState) : Prop :=
  state = .synRcvd ∨ BeforeTransfer state = false ∧ state ≠ .closed

/-- What goes on with the processing of a segment. -/
structure Goes (state : TcpState) (event : TCPEventCode) (next : TCPConnection) : Prop where
  fsm : next.fsm = state
  pending : next.Pending
  moves : state = .synRcvd → event = .rcvAck ∨ event = .rcvFin ∨ event = .close

/-- The ACK field is above what has been acknowledged, but not too far. -/
def AcksNew (conn : TCPConnection) (tcpseg : TCPSegment) : Prop :=
  ¬seqGE conn.snd.snd_una tcpseg.ackNo = true ∧ seqLE tcpseg.ackNo conn.snd.snd_max = true

section Segments

theorem Goes.arms (goes : Goes state event conn) (stepwise : Stepwise state) :
    Armed conn event := by
  refine .of_pending ?_ goes.pending
  rcases stepwise with rfl | ⟨later, _⟩
  · rcases goes.moves rfl with rfl | rfl | rfl
    · rw [target_eq goes.fsm rfl]
      rfl
    · rw [target_eq goes.fsm rfl]
      rfl
    · rw [target_eq goes.fsm rfl]
      rfl
  · rw [target, goes.fsm]
    exact transition_later _ _ later

theorem Goes.keeps (goes : Goes state event conn)
    (keeps : Keeps conn next) : Goes state event next where
  fsm := keeps.fsm.trans goes.fsm
  pending := pending_of_keeps goes.pending keeps
  moves := goes.moves

theorem Goes.delivers (goes : Goes state event conn)
    (delivers : Delivers conn next) : Goes state event next where
  fsm := delivers.fsm.trans goes.fsm
  pending := pending_of_delivers goes.pending delivers
  moves := goes.moves

theorem acknowledge_inWindow {snd : SendSide} (new : AcksNew conn tcpseg)
    (success : conn.snd.acknowledge tcpseg.acknowledgement = .ok (kind, snd)) :
    kind = .inWindow := by
  have past : ¬seqGE conn.snd.snd_una tcpseg.acknowledgement.ackNo = true := new.1
  have within : seqLE tcpseg.acknowledgement.ackNo conn.snd.snd_max = true := new.2
  rw [SendSide.acknowledge, if_neg past, if_pos within] at success
  rcases bind_eq_ok.mp success with ⟨_, _, rest⟩
  cases rest
  rfl

theorem processAckInEstabEtc_restarts (new : AcksNew conn tcpseg) (choices : Choices) :
    Returns (fun result => result.1 = true ∧ result.2.fsm = conn.fsm ∧ result.2.Pending)
      (conn.processAckInEstabEtc tcpseg choices) := by
  have acknowledged :
      Returns (fun result => result.1 = .inWindow)
        ((conn.snd.acknowledge tcpseg.acknowledgement).mapError Connection.Failure.sending) :=
    .mapError (fun _ => id) fun _ success => acknowledge_inWindow new success
  refine acknowledged.bind ?_
  rintro ⟨_, _⟩ rfl
  refine (receivedDataAck_yields (conn.AcksFin tcpseg) _).returns.bind ?_
  rintro _ ⟨leaves, pending⟩
  exact .ok ⟨rfl, leaves.fsm, pending⟩

/-- What is pending before the ACK field is looked at. -/
structure Starts (conn : TCPConnection) (tcpseg : TCPSegment)
    (event : TCPEventCode) (next : TCPConnection) : Prop where
  fsm : next.fsm = conn.fsm
  completes : conn.fsm = .synRcvd → event = .rcvAck ∧ AcksNew next tcpseg
  pending : conn.fsm ≠ .synRcvd → next.Pending

theorem completeSetup_starts (armed : Armed conn .ignore) (stepwise : Stepwise conn.fsm)
    (other : conn.fsm = .synRcvd → tcpseg.ackNo ≠ conn.snd.snd_una) (choices : Choices) :
    Returns
      (fun result =>
        match result.1 with
        | .returns event => Arms (event, result.2)
        | .continues event => Starts conn tcpseg event result.2)
      (conn.completeSetup tcpseg choices) := by
  unfold completeSetup
  split_ifs with fsm acks
  · refine .ok
      { fsm := rfl
        completes := fun _ => ⟨rfl, ?_, ?_⟩
        pending := fun later => absurd fsm later }
    · exact not_seqGE acks.1 (other fsm).symm
    · have synOnly := armed.synOnly_of (.inr fsm)
      change seqLE tcpseg.ackNo conn.snd.snd_max = true
      rw [synOnly.snd_max, ← synOnly.snd_nxt]
      exact acks.2
  · exact .ok armed
  · obtain ⟨later, running⟩ := stepwise.resolve_left fsm
    exact .ok
      { fsm := rfl
        completes := fun setup => absurd setup fsm
        pending := fun _ => armed.pending_of rfl later running }

theorem processFinAck_goes (goes : Goes state event middle) :
    Returns
      (fun result =>
        match result.1 with
        | .returns event => Arms (event, result.2)
        | .continues event => Goes state event result.2)
      (middle.processFinAck tcpseg event) := by
  have told (conn : TCPConnection) : Keeps conn (conn.sendIndicationToApp .closed) :=
    { Keeps.refl _ with }
  unfold processFinAck
  cases fsm : middle.fsm with
  | finWait1 =>
    dsimp only
    split_ifs
    · exact .ok { goes with moves := fun _ => .inl rfl }
    · exact .ok goes
  | closing =>
    dsimp only
    split_ifs
    · refine (scheduleTimeout_keeps (by decide)).bind fun next keeps => ?_
      exact .ok { goes.keeps (keeps.trans (told _)) with moves := fun _ => .inl rfl }
    · exact .ok goes
  | lastAck =>
    dsimp only
    split_ifs
    · exact .ok (.of_closed (target_eq fsm rfl))
    · exact .ok goes
  | timeWait =>
    have acked : Keeps middle middle.sendAck := .setScheduled (by decide) _
    have cancelled : Keeps middle.sendAck (middle.sendAck.cancelEvent .the2MSL) :=
      .setScheduled (by decide) _
    refine (scheduleTimeout_keeps (by decide)).bind fun next keeps => ?_
    exact .ok (goes.keeps ((acked.trans cancelled).trans keeps))
  | _ => exact .ok goes

theorem processAckField_goes (starts : Starts conn tcpseg event middle)
    (stepwise : Stepwise conn.fsm) (choices : Choices) :
    Returns
      (fun result =>
        match result.1 with
        | .returns event => Arms (event, result.2)
        | .continues event => Goes conn.fsm event result.2)
      (middle.processAckField tcpseg choices event) := by
  have acknowledged :
      Returns
        (fun result =>
          result.2.fsm = conn.fsm ∧ result.2.Pending ∧ (conn.fsm = .synRcvd → result.1 = true))
        (if TransfersAcks middle.fsm then middle.processAckInEstabEtc tcpseg choices
        else
          .ok (true, middle)) := by
    by_cases fsm : conn.fsm = .synRcvd
    · rw [if_pos (by rw [starts.fsm, fsm]; rfl)]
      refine (processAckInEstabEtc_restarts (starts.completes fsm).2 _).mono ?_
      rintro _ ⟨ok, same, pending⟩
      exact ⟨same.trans starts.fsm, pending, fun _ => ok⟩
    · have pending := starts.pending fsm
      split_ifs
      · refine (processAckInEstabEtc_yields _ _).returns.mono ?_
        rintro _ ⟨transmits, _⟩
        exact ⟨transmits.leaves.fsm.trans starts.fsm,
          transmits.pending pending, fun setup => absurd setup fsm⟩
      · exact .ok ⟨starts.fsm, pending, fun _ => rfl⟩
  refine acknowledged.bind ?_
  rintro ⟨ok, next⟩ ⟨fsm, pending, setup⟩
  cases ok with
  | false =>
    have goes : Goes conn.fsm .ignore next :=
      { fsm
        pending
        moves := fun same => absurd (setup same) Bool.false_ne_true }
    exact .ok (goes.arms stepwise)
  | true =>
    have goes : Goes conn.fsm event next :=
      { fsm
        pending
        moves := fun same => .inl (starts.completes same).1 }
    exact processFinAck_goes goes

theorem startTimeWait_keeps : Returns (Keeps conn) conn.startTimeWait := by
  have cancelled : Keeps conn (conn.cancelEvent .finWait2) := .setScheduled (by decide) _
  refine (scheduleTimeout_keeps (by decide)).bind fun next keeps => ?_
  have told : Keeps next (next.sendIndicationToApp .closed) := { Keeps.refl _ with }
  exact .ok ((cancelled.trans keeps).trans told)

theorem processFin_goes (goes : Goes state event middle) :
    Returns (fun result => Goes state result.1 result.2) (middle.processFin tcpseg event) := by
  unfold processFin
  split_ifs
  · have received := goes.delivers (middle.receiveFin_delivers tcpseg)
    have finished : Goes state .rcvFin (middle.receiveFin tcpseg) :=
      { received with moves := fun _ => .inr (.inl rfl) }
    dsimp only
    cases fsm : (middle.receiveFin tcpseg).fsm with
    | finWait1 =>
      split_ifs
      · refine startTimeWait_keeps.bind fun next keeps => .ok ?_
        have same := received.fsm.symm.trans fsm
        exact
          { received.keeps keeps with
            moves := fun setup => absurd (same.symm.trans setup) (by decide) }
      · exact .ok finished
    | finWait2 => exact startTimeWait_keeps.bind fun next keeps => .ok (finished.keeps keeps)
    | timeWait =>
      have cancelled :
          Keeps (middle.receiveFin tcpseg) ((middle.receiveFin tcpseg).cancelEvent .the2MSL) :=
        .setScheduled (by decide) _
      exact (scheduleTimeout_keeps (by decide)).bind fun next keeps =>
        .ok (finished.keeps (cancelled.trans keeps))
    | _ => exact .ok finished
  · exact .ok goes

theorem processTextAndFin_goes (goes : Goes state event middle) :
    Returns (fun result => Goes state result.1 result.2)
      (middle.processTextAndFin tcpseg event) := by
  refine (processText_yields _).returns.bind fun texted delivers => ?_
  refine (processFin_goes (goes.delivers delivers)).bind ?_
  rintro ⟨_, _⟩ finished
  dsimp only
  split_ifs
  · exact receiveSeqChanged_yields.returns.bind fun last answers => .ok (finished.delivers answers)
  · exact .ok finished

theorem Goes.deferredClose (goes : Goes state event middle) (old_snd_nxt : SeqNo) :
    Goes state (middle.deferredClose old_snd_nxt event) middle where
  fsm := goes.fsm
  pending := goes.pending
  moves setup := by
    dsimp only [TCPConnection.deferredClose]
    split_ifs
    · exact .inr (.inr rfl)
    · exact .inr (.inr rfl)
    · exact goes.moves setup

theorem processAckTextAndFin_arms (armed : Armed conn .ignore) (stepwise : Stepwise conn.fsm)
    (other : conn.fsm = .synRcvd → tcpseg.ackNo ≠ conn.snd.snd_una)
    (choices : Choices) : Returns Arms (conn.processAckTextAndFin tcpseg choices) := by
  refine (completeSetup_starts armed stepwise other _).bind ?_
  rintro ⟨flow, _⟩ starts
  cases flow with
  | returns _ => exact .ok starts
  | continues _ =>
    refine (processAckField_goes starts stepwise _).bind ?_
    rintro ⟨flow, _⟩ goes
    cases flow with
    | returns _ => exact .ok goes
    | continues _ =>
      refine (processTextAndFin_goes goes).bind ?_
      rintro ⟨_, _⟩ finished
      exact .ok ((finished.deferredClose _).arms stepwise)

theorem processRstInSynReceived_arms (armed : Armed conn .ignore)
    (fsm : conn.fsm = .synRcvd) : Returns Arms conn.processRstInSynReceived := by
  have idle := armed.idle_of fsm rfl
  have discarded :
      Returns (fun _ => True)
        ((conn.snd.sendQueue.discardUpTo
          conn.snd.sendQueue.getBufferEndSeq).mapError Connection.Failure.sending) :=
    .mapError (fun _ => id) fun _ _ => trivial
  refine discarded.bind fun sendQueue _ => .ok ?_
  split_ifs with active
  · refine .of_closed (target_eq fsm ?_)
    rw [active]
    rfl
  · refine .of_idle (target_eq fsm ?_) (.inr rfl) idle
    rw [Bool.eq_false_of_not_eq_true active]
    rfl

theorem processRst_arms (armed : Armed conn .ignore) : Returns Arms conn.processRst := by
  unfold processRst
  cases fsm : conn.fsm with
  | synRcvd => exact processRstInSynReceived_arms armed fsm
  | established | finWait1 | finWait2 | closeWait => exact .ok (.of_closed (target_eq fsm rfl))
  | closing | lastAck | timeWait => exact .ok (.of_closed (target_eq fsm rfl))
  | _ => exact .error id

theorem unexpectedSyn_listed (stepwise : Stepwise state) (active : Bool) :
    transition active state .rcvUnexpSyn = some .closed := by
  cases state with
  | init | closed | listen | synSent => exact absurd stepwise (by unfold Stepwise; decide)
  | _ => rfl

theorem processSegment1stThru8th_arms (armed : Armed conn .ignore) (stepwise : Stepwise conn.fsm)
    (admitted : CompletesSetup conn tcpseg → tcpseg.ackNo ≠ conn.snd.snd_una) (choices : Choices) :
    Returns Arms (conn.processSegment1stThru8th tcpseg choices) := by
  unfold processSegment1stThru8th
  split_ifs with acceptable rstBit synBit ackBit
  · exact processRst_arms armed
  · exact .ok (.of_closed (target_eq rfl (unexpectedSyn_listed stepwise _)))
  · refine processAckTextAndFin_arms armed stepwise (fun fsm => ?_) _
    exact admitted
      ⟨fsm, acceptable, Bool.eq_false_of_not_eq_true rstBit,
        Bool.eq_false_of_not_eq_true synBit, ackBit⟩
  · exact .ok armed
  · exact .ok armed
  · exact .ok (armed.keeps (.setScheduled (by decide) _))

theorem rcvSegment_arms (armed : Armed conn .ignore) (running : conn.fsm ≠ .closed)
    (admitted : CompletesSetup conn tcpseg → tcpseg.ackNo ≠ conn.snd.snd_una)
    (iss : SeqNo) (choices : Choices) :
    Returns Arms (conn.process_RCV_SEGMENT tcpseg iss choices) := by
  have stepwise (state : TcpState) (fsm : conn.fsm = state) (later : Stepwise state) :
      Returns Arms (conn.processSegment1stThru8th tcpseg choices) := by
    rw [← fsm] at later
    exact processSegment1stThru8th_arms armed later admitted _
  unfold process_RCV_SEGMENT
  cases fsm : conn.fsm with
  | init => exact .error id
  | closed => exact absurd fsm running
  | listen => exact processSegmentInListen_arms armed fsm _ _
  | synSent => exact processSegmentInSynSent_arms armed fsm _ _
  | synRcvd => exact stepwise _ fsm (.inl rfl)
  | _ => exact stepwise _ fsm (.inr (by decide))

end Segments

/-! ## Timeouts -/

section Timeouts

variable {conn : TCPConnection}

theorem timeout2MSL_arms : Returns Arms conn.process_TIMEOUT_2MSL := by
  unfold process_TIMEOUT_2MSL
  split_ifs with fsm
  · exact .ok (.of_closed (target_eq fsm rfl))
  · exact .error id

theorem timeoutFinWait2_arms : Returns Arms conn.process_TIMEOUT_FIN_WAIT_2 := by
  unfold process_TIMEOUT_FIN_WAIT_2
  split_ifs with fsm
  · exact .ok (.of_closed (target_eq fsm rfl))
  · exact .error id

theorem timeoutConnEstab_arms (armed : Armed conn .ignore) :
    Returns Arms conn.process_TIMEOUT_CONN_ESTAB := by
  unfold process_TIMEOUT_CONN_ESTAB
  split_ifs with setup active
  · rcases setup with fsm | fsm
    · refine .ok (.of_closed (target_eq fsm ?_))
      change transition conn.active .synRcvd .timeoutConnEstab = some .closed
      rw [active]
      rfl
    · exact .ok (.of_closed (target_eq fsm rfl))
  · rcases setup with fsm | fsm
    · refine .ok (.of_idle (target_eq fsm ?_) (.inr rfl) (armed.idle_of fsm rfl))
      rw [Bool.eq_false_of_not_eq_true active]
      rfl
    · exact .ok (.of_closed (target_eq fsm rfl))
  · exact .error id

theorem sendSynAgain_arms (armed : Armed conn .ignore) :
    Returns (fun next => Armed next .ignore) conn.sendSynAgain := by
  have again (setup : conn.fsm = .synSent ∨ conn.fsm = .synRcvd)
      (idle : conn.scheduled .rexmit = false) : Armed conn.sendSynAck .ignore :=
    .of_synOnly (by rw [target_ignore]; exact setup)
      (synOnly_sendSynAck (armed.synOnly_of setup).snd_una) idle
  unfold sendSynAgain
  cases fsm : conn.fsm with
  | synSent =>
    refine sendSyn_returns.mono ?_
    rintro _ rfl
    exact again (.inl fsm) (armed.idle_of fsm rfl)
  | synRcvd => exact .ok (again (.inr fsm) (armed.idle_of fsm rfl))
  | _ => exact .error id

theorem timeoutSynRexmit_arms (armed : Armed conn .ignore) :
    Returns Arms conn.process_TIMEOUT_SYN_REXMIT := by
  have counted : Armed { conn with syn_rexmit_count := conn.syn_rexmit_count + 1 } .ignore :=
    armed.keeps { Keeps.refl _ with }
  dsimp only [process_TIMEOUT_SYN_REXMIT]
  split_ifs
  · exact .ok counted.abort
  · refine (sendSynAgain_arms counted).bind fun middle sent => ?_
    exact (scheduleTimeout_keeps (by decide)).bind fun last keeps => .ok (sent.keeps keeps)

/-- The timer that has expired starts again before anything is sent. -/
theorem processRexmitTimer_arms (later : BeforeTransfer conn.fsm = false)
    (running : conn.fsm ≠ .closed) (choices : Choices) :
    Returns Arms (conn.processRexmitTimer choices) := by
  have retransmits (middle : TCPConnection) :
      Returns (Transmits False middle) (if choices.retransmitsAll then middle.retransmitData
        else
          middle.retransmitOneSegment) := by
    split_ifs
    · exact (retransmitData_yields _).returns
    · exact (retransmitOneSegment_yields _).returns
  unfold processRexmitTimer
  by_cases exhausted : conn.rexmit_count + 1 > MAX_REXMIT_COUNT
  · rw [if_pos exhausted]
    refine .ok (.of_closed (target_eq rfl ?_))
    refine TimersAndEvents.abort_listed _ (fun fsm => ?_) running
    change conn.fsm = .init at fsm
    rw [fsm] at later
    cases later
  · rw [if_neg exhausted]
    have restarted :
        Returns (fun next => next.fsm = conn.fsm ∧ next.Pending)
          ({ conn with rexmit_count := conn.rexmit_count + 1
            }.scheduleTimeout .rexmit) := by
      unfold scheduleTimeout
      split_ifs
      · exact .error id
      · exact .ok ⟨rfl, fun _ => setScheduled_self ..⟩
    refine restarted.bind ?_
    rintro _ ⟨fsm, pending⟩
    refine (retransmits _).bind fun last transmits => .ok ?_
    refine .of_pending ?_ (transmits.pending pending)
    rwa [target_ignore, transmits.leaves.fsm, fsm]

theorem processTimer_arms (armed : Armed conn .ignore)
    (running : conn.fsm ≠ .closed) (expired : conn.scheduled timer = true)
    (choices : Choices) : Returns Arms (conn.processTimer choices timer) := by
  have cancelled (other : timer ≠ .rexmit) : Armed (conn.cancelEvent timer) .ignore :=
    armed.keeps (.setScheduled other _)
  cases timer with
  | the2MSL => exact timeout2MSL_arms
  | connEstab => exact timeoutConnEstab_arms (cancelled (by decide))
  | finWait2 => exact timeoutFinWait2_arms
  | synRexmit => exact timeoutSynRexmit_arms (cancelled (by decide))
  | rexmit =>
    have later : BeforeTransfer (conn.cancelEvent .rexmit).fsm = false := by
      refine Bool.eq_false_of_not_eq_true fun early => ?_
      have idle := armed.idle_of rfl early
      exact Bool.false_ne_true (idle.symm.trans expired)
    unfold processTimer
    split_ifs
    · exact .error id
    · exact processRexmitTimer_arms later running _
  | delayedAck =>
    unfold processTimer
    split_ifs
    · exact .error id
    · have other : Timer.delayedAck ≠ .rexmit := by decide
      exact .ok ((cancelled other).keeps (.setScheduled other _))

end Timeouts

/-! ## Runs -/

theorem armed_create (mss : Nat) (advertisedWindow : SeqNo) (delayed_acks_enabled : Bool) :
    Armed (create mss advertisedWindow delayed_acks_enabled) .ignore :=
  .of_idle rfl (.inl rfl) rfl

theorem armed_step (conn : TCPConnection) (event : Event)
    (next : TCPConnection) (armed : Armed conn .ignore)
    (admitted : Guard conn event) (taken : conn.step event next) : Armed next .ignore := by
  rcases taken with ⟨enabled, _, _, success, rfl⟩
  have returns : Returns Arms (conn.process event) := by
    cases event with
    | openActive _ _ => exact openActive_arms armed _ _
    | openPassive _ => exact openPassive_arms armed _
    | send _ _ _ => exact send_arms armed _ _ _
    | close => exact close_arms armed admitted
    | abort => exact abort_arms armed
    | status => exact status_arms armed
    | segment _ _ _ => exact rcvSegment_arms armed enabled admitted _ _
    | timeout _ _ => exact processTimer_arms armed enabled.1 enabled.2 _
  exact (returns.2 _ success).performStateTransition

/--
In a run in which a FIN is sent at once only while the REXMIT timer runs, and
in which only an ACK of the SYN completes the setup, the timer runs whenever
something is unacknowledged after the setup.
-/
theorem retransmission_pending {mss : Nat} {advertisedWindow : SeqNo}
    {delayed_acks_enabled : Bool} {events : List Event} {last : TCPConnection}
    (run :
      Run (guardedStep Guard step) (create mss advertisedWindow delayed_acks_enabled) events last)
    (transfers :
      last.fsm = .established ∨ last.fsm = .closeWait ∨
        last.fsm = .finWait1 ∨ last.fsm = .closing ∨ last.fsm = .lastAck)
    (unacked : last.snd.snd_una ≠ last.snd.snd_max) :
    last.scheduled .rexmit = true := by
  have armed := run.guarded armed_step (armed_create _ _ _)
  rcases transfers with fsm | fsm | fsm | fsm | fsm
  all_goals exact armed.pending_of fsm rfl (by decide) unacked

/-- Data is sent, and `CLOSE` comes before it is acknowledged. -/
def closedEarly : List Event :=
  [ .openPassive false, .segment { sequenceNo := 500, window := 4096, synBit := true } 100 {},
    .segment { sequenceNo := 501, ackNo := 101, window := 4096, ackBit := true } 0 {},
    .send 10 0 {}, .close ]

theorem retransmission_pending_closedEarly :
    ∃ last,
      Run (guardedStep Guard step) (create 1024 16384 false) closedEarly last ∧
        last.fsm = .finWait1 ∧ last.snd.snd_una ≠ last.snd.snd_max ∧
        last.scheduled .rexmit = true := by
  have run :
      ∃ last,
        Run (guardedStep Guard step) (create 1024 16384 false) closedEarly last ∧
          last.fsm = .finWait1 ∧ last.snd.snd_una ≠ last.snd.snd_max := by
    refine ⟨_, .next ⟨trivial, nofun, _, _, rfl, rfl⟩ <| .next ⟨nofun, nofun, _, _, rfl, rfl⟩ <|
      .next ⟨fun _ => by decide, nofun, _, _, rfl, rfl⟩ <|
      .next ⟨trivial, nofun, _, _, rfl, rfl⟩ <|
      .next ⟨fun _ => rfl, nofun, _, _, rfl, rfl⟩ <| .idle _, rfl, ?_⟩
    decide
  rcases run with ⟨last, run, fsm, unacked⟩
  exact ⟨last, run, fsm, unacked, retransmission_pending run (.inr (.inr (.inl fsm))) unacked⟩

/-- Nothing has been sent when `CLOSE` comes. -/
def closedIdle : List Event :=
  [ .openPassive false, .segment { sequenceNo := 500, window := 4096, synBit := true } 100 {},
    .segment { sequenceNo := 501, ackNo := 101, window := 4096, ackBit := true } 0 {}, .close ]

/-- The FIN that is sent alone is not retransmitted. -/
theorem lone_fin_not_pending :
    ∃ last,
      Run step (create 1024 16384 false) closedIdle last ∧
        last.fsm = .finWait1 ∧ last.snd.snd_una ≠ last.snd.snd_max ∧
        last.scheduled .rexmit = false := by
  refine ⟨_, .next ⟨nofun, _, _, rfl, rfl⟩ <| .next ⟨nofun, _, _, rfl, rfl⟩ <|
    .next ⟨nofun, _, _, rfl, rfl⟩ <|
    .next ⟨nofun, _, _, rfl, rfl⟩ <| .idle _, rfl, ?_, rfl⟩
  decide

end OmnetDsi.Tcp.PendingRetransmission
