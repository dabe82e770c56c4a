import OmnetDsi.Tcp.TimersAndEvents

/-!
# The close in sequence

The peer sends a stream of `length` bytes, in segments of any size, and a FIN
after the last byte.  As long as every FIN that is processed begins where the
bytes received so far end, the connection enters CLOSE_WAIT, CLOSING or
TIME_WAIT with all bytes received, and the application is told `peerClosed`
after it has been passed all of them.
-/

namespace OmnetDsi.Tcp.InOrderClose

open Library.Fallible Library.IntervalLists Library.Transition Tcp.Connection
open Tcp.Connection.TCPConnection Tcp.SequenceNumbers Tcp.Sending Tcp.StateMachine
open OmnetDsi.Tcp.VirtualDataRcvQueue (Kept advanced queueOf)
open OmnetDsi.Tcp.TimersAndEvents (target target_ignore target_eq PastFin)

/-! ## The peer and the connection -/

/--
A connection with the stream of its peer, which begins at `start`, and the
segments that have arrived since the SYN.
-/
structure Receiver where
  conn : TCPConnection
  start : SeqNo
  length : Nat
  arrived : List TCPSegment

/-- The states before the number of the peer's SYN is known. -/
def BeforeStream : TcpState → Bool
  | .init | .listen | .synSent => true
  | _ => false

def startOf (state : Receiver) : Event → SeqNo
  | .segment tcpseg _ _ =>
    if BeforeStream state.conn.fsm then tcpseg.sequenceNo + 1 else state.start
  | _ => state.start

def arrivals (state : Receiver) : Event → List TCPSegment
  | .segment tcpseg _ _ =>
    if BeforeStream state.conn.fsm then [] else state.arrived ++ [tcpseg]
  | _ => state.arrived

/-- The length of a stream is open until it begins. -/
def Step (state : Receiver) (event : Event) (next : Receiver) : Prop :=
  state.conn.step event next.conn ∧ next.start = startOf state event ∧
    next.arrived = arrivals state event ∧
    (BeforeStream state.conn.fsm = false → next.length = state.length)

/-- The bytes that the application has been passed. -/
def passedUp (toApp : List Indication) : Nat :=
  (toApp.map fun
    | .data byteLength => byteLength
    | _ => 0).sum

/--
The peer has sent the segment: its text is part of the stream and a FIN comes
after the last byte.  After the FIN there is no text.
-/
def Produces (start : SeqNo) (length : Nat) (tcpseg : TCPSegment) (position : Nat) : Prop :=
  tcpseg.sequenceNo = number start position ∧
    (position + tcpseg.payloadLength ≤ length ∧
        (tcpseg.finBit = true → position + tcpseg.payloadLength = length) ∨
      position = length + 1 ∧ tcpseg.payloadLength = 0 ∧ tcpseg.finBit = false)

/-- The numbers of the segment tell its position. -/
def Near (conn : TCPConnection) (tcpseg : TCPSegment) (position : Nat) : Prop :=
  passedUp conn.toApp < position + 2 ^ 31 ∧
    position + tcpseg.payloadLength < passedUp conn.toApp + 2 ^ 31

/-- The segment is acceptable and goes through all the steps. -/
def Processed (conn : TCPConnection) (tcpseg : TCPSegment) : Prop :=
  conn.isSegmentAcceptable tcpseg = true ∧ tcpseg.rstBit = false ∧
    tcpseg.synBit = false ∧ tcpseg.ackBit = true

/--
The segments are those of the peer, without text that comes with the SYN, and
a FIN is processed in sequence.
-/
def Guard (state : Receiver) : Event → Prop
  | .segment tcpseg _ _ =>
    if BeforeStream state.conn.fsm then tcpseg.synBit = true → tcpseg.payloadLength = 0
    else
      Processed state.conn tcpseg →
        (∃ position,
          Produces state.start state.length tcpseg position ∧ Near state.conn tcpseg position) ∧
          (tcpseg.finBit = true → tcpseg.sequenceNo = state.conn.rcv.rcv_nxt)
  | _ => True

/-! ## What is to hold -/

/-- A segment with the byte has arrived. -/
def Came (start : SeqNo) (arrived : List TCPSegment) (position : Nat) : Prop :=
  ∃ tcpseg ∈ arrived, ∃ first,
    tcpseg.sequenceNo = number start first ∧ first ≤ position ∧
      position < first + tcpseg.payloadLength

/-- `peerClosed` comes after all the bytes. -/
def Told (length : Nat) (toApp : List Indication) : Prop :=
  ∀ before, before ++ [.peerClosed] <+: toApp → passedUp before = length

/-- The stream has not begun. -/
structure Fresh (conn : TCPConnection) : Prop where
  fin_rcvd : conn.rcv.fin_rcvd = false
  passedUp : passedUp conn.toApp = 0
  untold : .peerClosed ∉ conn.toApp

/-- The bytes before `next` have been received and passed up. -/
structure InStream (state : Receiver) (received : Set Nat) (next : Nat)
    (intervals : List (HalfOpen Nat)) : Prop where
  kept : Kept received next next intervals
  within : ∀ position ∈ received, position < state.length
  came : ∀ position ∈ received, Came state.start state.arrived position
  rcv_nxt : state.conn.rcv.rcv_nxt = number state.start next
  receiveQueue : state.conn.rcv.receiveQueue = queueOf state.start next intervals
  fin_rcvd : state.conn.rcv.fin_rcvd = false
  passedUp : passedUp state.conn.toApp = next
  untold : .peerClosed ∉ state.conn.toApp

/-- The FIN has been received after all the bytes. -/
structure Ended (state : Receiver) : Prop where
  came : ∀ position < state.length, Came state.start state.arrived position
  rcv_nxt : state.conn.rcv.rcv_nxt = number state.start (state.length + 1)
  passedUp : passedUp state.conn.toApp = state.length
  told : Told state.length state.conn.toApp

/-- What holds of the receive side in a state of the connection. -/
def Phase (state : Receiver) : TcpState → Prop
  | .init | .listen | .synSent => Fresh state.conn
  | .synRcvd => InStream state ∅ 0 []
  | .established | .finWait1 | .finWait2 =>
    (∃ received next intervals, InStream state received next intervals) ∨ Ended state
  | .closeWait | .closing | .lastAck | .timeWait => Ended state
  | .closed => Told state.length state.conn.toApp

/-! ## Indications -/

section Indications

variable {length : Nat} {toApp : List Indication}

theorem passedUp_append (left right : List Indication) :
    passedUp (left ++ right) = passedUp left + passedUp right := by
  unfold passedUp
  rw [List.map_append, List.sum_append]

theorem told_of_notMem (untold : .peerClosed ∉ toApp) : Told length toApp := by
  intro _ told
  exact absurd (told.subset (by simp)) untold

variable {indication : Indication}

theorem Told.indicate (told : Told length toApp)
    (last : indication = .peerClosed → passedUp toApp = length) :
    Told length (toApp ++ [indication]) := by
  intro _ after
  rcases List.prefix_concat_iff.mp after with same | earlier
  · obtain ⟨rfl, rest⟩ := List.append_inj' same rfl
    exact last (List.singleton_inj.mp rest).symm
  · exact told _ earlier

/-- Neither text nor its end. -/
def Silent : Indication → Bool
  | .data _ | .peerClosed => false
  | _ => true

theorem passedUp_indicate (silent : Silent indication = true) :
    passedUp (toApp ++ [indication]) = passedUp toApp := by
  rw [passedUp_append]
  cases indication with
  | data _ => cases silent
  | peerClosed => cases silent
  | _ => rfl

theorem notMem_indicate (silent : Silent indication = true) (untold : .peerClosed ∉ toApp) :
    .peerClosed ∉ toApp ++ [indication] := by
  rw [List.mem_append, List.mem_singleton, not_or]
  refine ⟨untold, ?_⟩
  rintro rfl
  cases silent

end Indications

/-! ## What leaves the receive side alone -/

/-- The receive side stays, and the application is told nothing about it. -/
inductive Quiet : TCPConnection → TCPConnection → Prop where
  | stays {conn next : TCPConnection} (rcv : next.rcv = conn.rcv)
      (toApp : next.toApp = conn.toApp) : Quiet conn next
  | indicates {conn next : TCPConnection} {indication : Indication}
      (silent : Silent indication = true) (rcv : next.rcv = conn.rcv)
      (toApp : next.toApp = conn.toApp ++ [indication]) : Quiet conn next
  | trans {conn middle next : TCPConnection} (first : Quiet conn middle)
      (second : Quiet middle next) : Quiet conn next

variable {fsm : TcpState} {middle : TCPConnection} {position : Nat}
variable {start : SeqNo}

section Resting

variable {conn next : TCPConnection}

theorem Quiet.refl (conn : TCPConnection) : Quiet conn conn :=
  .stays rfl rfl

theorem Quiet.after (quiet : Quiet middle next)
    (rcv : middle.rcv = conn.rcv) (toApp : middle.toApp = conn.toApp) : Quiet conn next :=
  .trans (.stays rcv toApp) quiet

theorem Quiet.rcv (quiet : Quiet conn next) : next.rcv = conn.rcv := by
  induction quiet with
  | stays rcv _ => exact rcv
  | indicates _ rcv _ => exact rcv
  | trans _ _ induction rest => exact rest.trans induction

theorem Quiet.passedUp (quiet : Quiet conn next) : passedUp next.toApp = passedUp conn.toApp := by
  induction quiet with
  | stays _ toApp => rw [toApp]
  | indicates silent _ toApp => rw [toApp, passedUp_indicate silent]
  | trans _ _ induction rest => exact rest.trans induction

theorem Quiet.untold (quiet : Quiet conn next)
    (untold : .peerClosed ∉ conn.toApp) : .peerClosed ∉ next.toApp := by
  induction quiet with
  | stays _ toApp => rwa [toApp]
  | indicates silent _ toApp =>
    rw [toApp]
    exact notMem_indicate silent untold
  | trans _ _ induction rest => exact rest (induction untold)

theorem Quiet.told (quiet : Quiet conn next)
    (told : Told length conn.toApp) : Told length next.toApp := by
  induction quiet with
  | stays _ toApp => rwa [toApp]
  | indicates silent _ toApp =>
    rw [toApp]
    refine told.indicate ?_
    rintro rfl
    cases silent
  | trans _ _ induction rest => exact rest (induction told)

theorem Quiet.of_setsUp (setsUp : SetsUp conn next) : Quiet conn next :=
  .stays setsUp.rcv setsUp.toApp

theorem Quiet.of_leaves {acked : Prop} (leaves : Leaves acked conn next) : Quiet conn next :=
  .stays leaves.rcv leaves.toApp

theorem scheduleTimeout_quiet (timer : Timer) :
    Returns (fun next => next.fsm = conn.fsm ∧ Quiet conn next) (conn.scheduleTimeout timer) := by
  unfold scheduleTimeout
  split_ifs
  · exact .error id
  · exact .ok ⟨rfl, .stays rfl rfl⟩

variable {state after : Receiver}

/-- The receiver with the state of the connection that a step leaves. -/
structure Quietly (state after : Receiver) : Prop where
  conn : Quiet state.conn after.conn
  start : after.start = state.start
  length : after.length = state.length
  arrived : state.arrived ⊆ after.arrived

theorem Came.mono (came : Came start arrived position)
    (grows : arrived ⊆ later) : Came start later position := by
  obtain ⟨tcpseg, among, found⟩ := came
  exact ⟨tcpseg, grows among, found⟩

theorem Fresh.quiet (fresh : Fresh conn) (quiet : Quiet conn next) : Fresh next where
  fin_rcvd := by
    rw [quiet.rcv]
    exact fresh.fin_rcvd
  passedUp := quiet.passedUp.trans fresh.passedUp
  untold := quiet.untold fresh.untold

theorem InStream.quiet {next : Nat} (inStream : InStream state received next intervals)
    (quietly : Quietly state after) : InStream after received next intervals where
  kept := inStream.kept
  within := by
    rw [quietly.length]
    exact inStream.within
  came position among := by
    rw [quietly.start]
    exact (inStream.came _ among).mono quietly.arrived
  rcv_nxt := by
    rw [quietly.conn.rcv, quietly.start]
    exact inStream.rcv_nxt
  receiveQueue := by
    rw [quietly.conn.rcv, quietly.start]
    exact inStream.receiveQueue
  fin_rcvd := by
    rw [quietly.conn.rcv]
    exact inStream.fin_rcvd
  passedUp := quietly.conn.passedUp.trans inStream.passedUp
  untold := quietly.conn.untold inStream.untold

theorem Ended.quiet (ended : Ended state) (quietly : Quietly state after) : Ended after where
  came position below := by
    rw [quietly.length] at below
    rw [quietly.start]
    exact (ended.came _ below).mono quietly.arrived
  rcv_nxt := by
    rw [quietly.conn.rcv, quietly.start, quietly.length]
    exact ended.rcv_nxt
  passedUp := by
    rw [quietly.length]
    exact quietly.conn.passedUp.trans ended.passedUp
  told := by
    rw [quietly.length]
    exact quietly.conn.told ended.told

theorem Phase.quiet (phase : Phase state fsm)
    (quietly : Quietly state after) : Phase after fsm := by
  cases fsm with
  | init | listen | synSent => exact Fresh.quiet phase quietly.conn
  | synRcvd => exact InStream.quiet phase quietly
  | established | finWait1 | finWait2 =>
    rcases phase with ⟨_, _, _, inStream⟩ | ended
    · exact .inl ⟨_, _, _, inStream.quiet quietly⟩
    · exact .inr (ended.quiet quietly)
  | closeWait | closing | lastAck | timeWait => exact Ended.quiet phase quietly
  | closed =>
    change Told after.length after.conn.toApp
    rw [quietly.length]
    exact quietly.conn.told phase

end Resting

/-! ## Event codes without a SYN or a FIN -/

def Plain : TCPEventCode → Bool
  | .rcvSyn | .rcvSynAck | .rcvFin | .rcvFinAck => false
  | _ => true

/-- The processing of an event that does not concern the receive side. -/
structure Rests (conn : TCPConnection) (result : TCPEventCode × TCPConnection) : Prop where
  fsm : result.2.fsm = conn.fsm
  quiet : Quiet conn result.2
  plain : Plain result.1 = true

variable {result : TCPEventCode × TCPConnection}

theorem Rests.after (rests : Rests middle result)
    (fsm : middle.fsm = conn.fsm) (rcv : middle.rcv = conn.rcv)
    (toApp : middle.toApp = conn.toApp) : Rests conn result where
  fsm := rests.fsm.trans fsm
  quiet := rests.quiet.after rcv toApp
  plain := rests.plain

section Commands

variable {state : Receiver} {conn : TCPConnection}

theorem InStream.fresh (begins : InStream state ∅ 0 []) : Fresh state.conn
    where
  fin_rcvd := begins.fin_rcvd
  passedUp := begins.passedUp
  untold := begins.untold

theorem Phase.told (phase : Phase state fsm) : Told state.length state.conn.toApp := by
  cases fsm with
  | init | listen | synSent => exact told_of_notMem (Fresh.untold phase)
  | synRcvd => exact told_of_notMem (InStream.untold phase)
  | established | finWait1 | finWait2 =>
    rcases phase with ⟨_, _, _, inStream⟩ | ended
    · exact told_of_notMem inStream.untold
    · exact ended.told
  | closeWait | closing | lastAck | timeWait => exact Ended.told phase
  | closed => exact phase

theorem Phase.plain (phase : Phase state fsm) (active : Bool) (plain : Plain event = true) :
    Phase state (StateMachine.performStateTransition active fsm event) := by
  unfold StateMachine.performStateTransition transition
  split
  all_goals
    first
    | exact absurd plain Bool.false_ne_true
    | exact phase
    | exact phase.told
    | exact .inl ⟨_, _, _, phase⟩
    | cases active with
      | false => exact InStream.fresh phase
      | true => exact phase.told

theorem sendSyn_rests :
    Returns (fun next => next.fsm = conn.fsm ∧ Quiet conn next) conn.sendSyn := by
  refine (sendSyn_yields _).returns.mono ?_
  rintro _ ⟨setsUp, _⟩
  exact ⟨setsUp.fsm, .of_setsUp setsUp⟩

theorem sendSyn_setup {image : TCPConnection → TCPConnection} (plain : Plain event = true)
    (images : ∀ next, (image next).fsm = next.fsm ∧ Quiet next (image next)) :
    Returns (Rests conn)
      (do
        let next ← conn.sendSyn
        let next ← next.startSynRexmitTimer
        let next ← next.scheduleTimeout .connEstab
        .ok (event, image next)) := by
  refine sendSyn_rests.bind ?_
  rintro _ ⟨sentFsm, sent⟩
  refine (startSynRexmitTimer_yields _).returns.bind ?_
  rintro _ ⟨setsUp, _⟩
  refine (scheduleTimeout_quiet .connEstab).bind ?_
  rintro _ ⟨lastFsm, scheduled⟩
  obtain ⟨imageFsm, imaged⟩ := images _
  exact .ok
    { fsm := imageFsm.trans (lastFsm.trans (setsUp.fsm.trans sentFsm))
      quiet := ((sent.trans (.of_setsUp setsUp)).trans scheduled).trans imaged
      plain }

theorem openActive_rests (remoteSpecified : Bool) (iss : SeqNo) :
    Returns (Rests conn) (conn.process_OPEN_ACTIVE remoteSpecified iss) := by
  unfold process_OPEN_ACTIVE
  split_ifs
  · have plain : Plain .openActive = true := rfl
    exact (sendSyn_setup plain fun next => ⟨rfl, .refl _⟩).mono
      fun _ rests => rests.after rfl rfl rfl
  · exact .error id

theorem openPassive_rests (fork : Bool) :
    Returns (Rests conn) (conn.process_OPEN_PASSIVE fork) := by
  unfold process_OPEN_PASSIVE
  split_ifs
  · exact .ok ⟨rfl, .stays rfl rfl, rfl⟩
  · exact .error id

theorem send_rests (byteLength : Nat) (iss : SeqNo) (choices : Choices) :
    Returns (Rests conn) (conn.process_SEND byteLength iss choices) := by
  have inTransfer :
      Returns (Rests conn)
        (do
          let sending ← (conn.enqueueAppData byteLength).sendData choices
          .ok (.send, sending.2)) := by
    refine (sendData_yields False _).returns.bind ?_
    rintro ⟨_, next⟩ transmits
    have quiet := Quiet.of_leaves transmits.leaves
    exact .ok ⟨transmits.leaves.fsm, quiet.after rfl rfl, rfl⟩
  unfold process_SEND
  cases conn.fsm with
  | listen =>
    have plain : Plain .send = true := rfl
    have enqueues (next : TCPConnection) :
        (next.enqueueAppData byteLength).fsm = next.fsm ∧
          Quiet next (next.enqueueAppData byteLength) :=
      ⟨rfl, .stays rfl rfl⟩
    exact (sendSyn_setup plain enqueues).mono fun _ rests => rests.after rfl rfl rfl
  | synRcvd => exact .ok ⟨rfl, .stays rfl rfl, rfl⟩
  | synSent => exact .ok ⟨rfl, .stays rfl rfl, rfl⟩
  | established => exact inTransfer
  | closeWait => exact inTransfer
  | _ => exact .error id

theorem sendOrDeferFin_rests : Rests conn conn.sendOrDeferFin := by
  dsimp only [sendOrDeferFin]
  split_ifs
  all_goals exact ⟨rfl, .stays rfl rfl, rfl⟩

theorem close_rests : Returns (Rests conn) conn.process_CLOSE := by
  unfold process_CLOSE
  cases conn.fsm with
  | listen => exact .ok ⟨rfl, .refl _, rfl⟩
  | synSent => exact .ok ⟨rfl, .refl _, rfl⟩
  | synRcvd => exact .ok sendOrDeferFin_rests
  | established => exact .ok sendOrDeferFin_rests
  | closeWait => exact .ok sendOrDeferFin_rests
  | _ => exact .error id

theorem abort_rests : Returns (Rests conn) conn.process_ABORT := by
  unfold process_ABORT
  split_ifs
  · exact .error id
  · exact .ok ⟨rfl, .refl _, rfl⟩

theorem status_rests : Returns (Rests conn) conn.process_STATUS := by
  unfold process_STATUS
  split_ifs
  · exact .error id
  · exact .ok ⟨rfl, .indicates rfl rfl rfl, rfl⟩

end Commands

/-! ## Timeouts -/

section Timeouts

variable {conn : TCPConnection}

theorem timeoutConnEstab_rests : Returns (Rests conn) conn.process_TIMEOUT_CONN_ESTAB := by
  unfold process_TIMEOUT_CONN_ESTAB
  split_ifs
  · exact .ok ⟨rfl, .indicates rfl rfl rfl, rfl⟩
  · exact .ok ⟨rfl, .refl _, rfl⟩
  · exact .error id

theorem timeoutSynRexmit_rests : Returns (Rests conn) conn.process_TIMEOUT_SYN_REXMIT := by
  have again (counted : TCPConnection) :
      Returns (fun next => next.fsm = counted.fsm ∧ Quiet counted next) counted.sendSynAgain := by
    unfold sendSynAgain
    split
    · exact sendSyn_rests
    · exact .ok ⟨rfl, .stays rfl rfl⟩
    · exact .error id
  dsimp only [process_TIMEOUT_SYN_REXMIT]
  split_ifs
  · exact .ok ⟨rfl, .stays rfl rfl, rfl⟩
  · refine (again _).bind ?_
    rintro _ ⟨sentFsm, sent⟩
    refine (scheduleTimeout_quiet .synRexmit).bind ?_
    rintro _ ⟨lastFsm, scheduled⟩
    exact .ok ⟨lastFsm.trans sentFsm, (sent.trans scheduled).after rfl rfl, rfl⟩

theorem processRexmitTimer_rests (choices : Choices) :
    Returns (Rests conn) (conn.processRexmitTimer choices) := by
  have retransmits (middle : TCPConnection) :
      Returns (Transmits False middle) (if choices.retransmitsAll then middle.retransmitData
        else
          middle.retransmitOneSegment) := by
    split_ifs
    · exact (retransmitData_yields _).returns
    · exact (retransmitOneSegment_yields _).returns
  unfold processRexmitTimer
  by_cases exhausted : conn.rexmit_count + 1 > MAX_REXMIT_COUNT
  · rw [if_pos exhausted]
    exact .ok ⟨rfl, .indicates rfl rfl rfl, rfl⟩
  · rw [if_neg exhausted]
    refine (scheduleTimeout_quiet .rexmit).bind ?_
    rintro _ ⟨fsm, scheduled⟩
    refine (retransmits _).bind fun last transmits => .ok ?_
    have sent := scheduled.trans (.of_leaves transmits.leaves)
    exact ⟨transmits.leaves.fsm.trans fsm, sent.after rfl rfl, rfl⟩

theorem processTimer_rests (timer : Timer) (choices : Choices) :
    Returns (Rests conn) (conn.processTimer choices timer) := by
  have cancelled {result : TCPEventCode × TCPConnection}
      (rests : Rests (conn.cancelEvent timer) result) : Rests conn result :=
    rests.after rfl rfl rfl
  cases timer with
  | the2MSL =>
    unfold processTimer
    unfold process_TIMEOUT_2MSL
    by_cases fsm : (conn.cancelEvent .the2MSL).fsm = .timeWait
    · rw [if_pos fsm]
      exact .ok (cancelled ⟨rfl, .refl _, rfl⟩)
    · rw [if_neg fsm]
      exact .error id
  | connEstab => exact timeoutConnEstab_rests.mono fun _ => cancelled
  | finWait2 =>
    unfold processTimer
    unfold process_TIMEOUT_FIN_WAIT_2
    by_cases fsm : (conn.cancelEvent .finWait2).fsm = .finWait2
    · rw [if_pos fsm]
      exact .ok (cancelled ⟨rfl, .indicates rfl rfl rfl, rfl⟩)
    · rw [if_neg fsm]
      exact .error id
  | synRexmit => exact timeoutSynRexmit_rests.mono fun _ => cancelled
  | rexmit =>
    unfold processTimer
    split_ifs
    · exact .error id
    · exact (processRexmitTimer_rests _).mono fun _ => cancelled
  | delayedAck =>
    unfold processTimer
    split_ifs
    · exact .error id
    · exact .ok (cancelled ⟨rfl, .stays rfl rfl, rfl⟩)

end Timeouts

/-! ## Segments before the stream -/

/-- The SYN of the peer has been taken. -/
structure Begun (conn : TCPConnection) (tcpseg : TCPSegment)
    (result : TCPEventCode × TCPConnection) : Prop where
  fsm : result.2.fsm = conn.fsm
  quiet : Quiet (conn.receiveSyn tcpseg) result.2
  code : result.1 = .rcvSyn ∨ conn.fsm = .synSent ∧ result.1 = .rcvSynAck

section Setup

variable {conn : TCPConnection} {tcpseg : TCPSegment}

theorem keepText_eq (conn : TCPConnection) (empty : tcpseg.payloadLength = 0) :
    conn.keepText tcpseg = conn := by
  rw [keepText, empty]
  rfl

theorem processSegmentInListen_begins
    (empty : tcpseg.synBit = true → tcpseg.payloadLength = 0) (iss : SeqNo) :
    Returns (fun result => Rests conn result ∨ Begun conn tcpseg result)
      (conn.processSegmentInListen tcpseg iss) := by
  unfold processSegmentInListen
  split_ifs with _ _ synBit
  · exact .ok (.inl ⟨rfl, .refl _, rfl⟩)
  · exact .ok (.inl ⟨rfl, .refl _, rfl⟩)
  · refine (startSynRexmitTimer_yields _).returns.bind ?_
    rintro middle ⟨started, _⟩
    have limited :
        Returns (fun next => next.fsm = middle.fsm ∧ Quiet middle next)
          (if middle.scheduled .connEstab then .ok middle
          else
            middle.scheduleTimeout .connEstab) := by
      split_ifs
      · exact .ok ⟨rfl, .refl _⟩
      · exact scheduleTimeout_quiet .connEstab
    refine limited.bind ?_
    rintro _ ⟨fsm, scheduled⟩
    rw [keepText_eq _ (empty synBit)]
    have quiet := (Quiet.of_setsUp started).trans scheduled
    exact .ok (.inr ⟨fsm.trans started.fsm, quiet.after rfl rfl, .inl rfl⟩)
  · exact .ok (.inl ⟨rfl, .refl _, rfl⟩)

theorem establishActively_begins (empty : tcpseg.payloadLength = 0) (fsm : middle.fsm = conn.fsm)
    (synSent : conn.fsm = .synSent)
    (quiet : Quiet (conn.receiveSyn tcpseg) middle) (choices : Choices) :
    Returns (Begun conn tcpseg) (middle.establishActively tcpseg choices) := by
  have same : { middle.rcv with rcv_nxt := middle.rcv.receiveQueue.rcv_nxt } = middle.rcv := by
    rw [quiet.rcv]
    rfl
  rw [establishActively, keepText_eq _ empty]
  refine (established_yields False _ _).returns.bind ?_
  intro last transmits
  have moved : Quiet middle last := .stays (transmits.leaves.rcv.trans same) transmits.leaves.toApp
  have told : Quiet last (last.sendIndicationToApp .established) := .indicates rfl rfl rfl
  exact .ok
    { fsm := transmits.leaves.fsm.trans fsm
      quiet := (quiet.trans moved).trans told
      code := .inr ⟨synSent, rfl⟩ }

theorem answerSyn_begins (empty : tcpseg.payloadLength = 0) (fsm : middle.fsm = conn.fsm)
    (quiet : Quiet (conn.receiveSyn tcpseg) middle) :
    Returns (Begun conn tcpseg) (middle.answerSyn tcpseg) := by
  refine (startSynRexmitTimer_yields _).returns.bind ?_
  rintro _ ⟨started, _⟩
  rw [keepText_eq _ empty]
  have answered := (sendSynAck_setsUp _).trans started
  exact .ok
    { fsm := answered.fsm.trans fsm, quiet := quiet.trans (.of_setsUp answered), code := .inl rfl }

theorem processSyn_begins (empty : tcpseg.payloadLength = 0)
    (fsm : conn.fsm = .synSent) (choices : Choices) :
    Returns (Begun conn tcpseg) (conn.processSyn tcpseg choices) := by
  have accepted :
      Returns (SetsUp (conn.receiveSyn tcpseg))
        (if tcpseg.ackBit then (conn.receiveSyn tcpseg).acceptSynAck tcpseg
        else
          .ok (conn.receiveSyn tcpseg)) := by
    split_ifs
    · exact (acceptSynAck_yields _).returns
    · exact .ok (.refl _)
  refine accepted.bind fun middle setsUp => ?_
  have specified : Quiet (conn.receiveSyn tcpseg) { middle with remoteSpecified := true } :=
    .stays setsUp.rcv setsUp.toApp
  have same : { middle with remoteSpecified := true }.fsm = conn.fsm := setsUp.fsm
  dsimp only
  split_ifs
  · exact establishActively_begins empty same fsm specified _
  · exact answerSyn_begins empty same specified

theorem processSegmentInSynSent_begins (empty : tcpseg.synBit = true → tcpseg.payloadLength = 0)
    (fsm : conn.fsm = .synSent) (choices : Choices) :
    Returns (fun result => Rests conn result ∨ Begun conn tcpseg result)
      (conn.processSegmentInSynSent tcpseg choices) := by
  unfold processSegmentInSynSent
  split_ifs with _ _ _ synBit
  · exact .ok (.inl ⟨rfl, .refl _, rfl⟩)
  · exact .ok (.inl ⟨rfl, .indicates rfl rfl rfl, rfl⟩)
  · exact .ok (.inl ⟨rfl, .refl _, rfl⟩)
  · exact (processSyn_begins (empty synBit) fsm _).mono fun _ => .inr
  · exact .ok (.inl ⟨rfl, .refl _, rfl⟩)

theorem Begun.inStream (begun : Begun conn tcpseg result) (fresh : Fresh conn) (length : Nat) :
    InStream
      { conn := result.2
        start := tcpseg.sequenceNo + 1
        length
        arrived := [] } ∅ 0 [] where
  kept :=
    { separated := separated_nil
      covers := by simp
      missing := by simp [IsLeast, lowerBounds]
      extracted_le := le_rfl
      within := nofun }
  within := nofun
  came := nofun
  rcv_nxt := by
    rw [begun.quiet.rcv, number_zero]
    rfl
  receiveQueue := by
    rw [begun.quiet.rcv, queueOf, number_zero]
    rfl
  fin_rcvd := by
    rw [begun.quiet.rcv]
    exact fresh.fin_rcvd
  passedUp := begun.quiet.passedUp.trans fresh.passedUp
  untold := begun.quiet.untold fresh.untold

theorem Begun.phase (begun : Begun conn tcpseg result)
    (early : conn.fsm = .listen ∨ conn.fsm = .synSent) (fresh : Fresh conn) (length : Nat) :
    Phase
      { conn := result.2
        start := tcpseg.sequenceNo + 1
        length
        arrived := [] } (target result.2 result.1) := by
  have inStream := begun.inStream fresh length
  rcases begun.code with syn | ⟨synSent, synAck⟩
  · rw [syn]
    rcases early with fsm | fsm
    all_goals
      rwa [target_eq (begun.fsm.trans fsm) rfl]
  · rw [synAck, target_eq (begun.fsm.trans synSent) rfl]
    exact .inl ⟨_, _, _, inStream⟩

end Setup

/-! ## The text -/

section Text

variable {state : Receiver} {conn : TCPConnection} {tcpseg : TCPSegment}
variable {received : Set Nat} {next position : Nat}
variable {intervals : List (HalfOpen Nat)}

theorem extractBytesUpTo_received {result : Option Nat × VirtualDataRcvQueue.TCPVirtualDataRcvQueue}
    (kept : Kept received extracted next intervals) (close : next ≤ extracted + 2 ^ 31)
    (success : (queueOf start next intervals).extractBytesUpTo (number start next) = .ok result) :
    result =
      (if next - extracted = 0 then none else some (next - extracted),
        queueOf start next (dropBelow next intervals)) := by
  obtain ⟨_, extracts, rfl⟩ := map_eq_ok.mp success
  have unwrapped :
      ∀ first ∈ (intervals.map (VirtualDataRcvQueue.region start)).head?,
        first.begins < first.ends := by
    intro _ head
    cases intervals with
    | nil => cases head
    | cons interval _ =>
      cases head
      by_contra wrapped
      have test : seqLE (number start next) (number start next) = true :=
        (seqLE_number (by omega) (by omega)).mpr le_rfl
      change (if seqLE (number start next) (number start next) then
        (if (VirtualDataRcvQueue.region start interval).begins <
            (VirtualDataRcvQueue.region start interval).ends then _
          else _) else _) = _ at extracts
      rw [if_pos test, if_neg wrapped] at extracts
      cases extracts
  have all :=
    VirtualDataRcvQueue.extractTo_queueOf kept kept.extracted_le le_rfl close (by omega) unwrapped
  rw [all] at extracts
  cases extracts
  rfl

theorem passUp_received (start : SeqNo) (fuel : Nat)
    (kept : Kept received extracted next intervals) (close : next ≤ extracted + 2 ^ 31)
    (rcv_nxt : conn.rcv.rcv_nxt = number start next)
    (receiveQueue : conn.rcv.receiveQueue = queueOf start next intervals)
    (untold : .peerClosed ∉ conn.toApp) :
    Returns
      (fun last =>
        last.fsm = conn.fsm ∧ .peerClosed ∉ last.toApp ∧
          passedUp last.toApp = passedUp conn.toApp + (next - extracted) ∧
          ∃ rest, Kept received next next rest ∧
            last.rcv = { conn.rcv with receiveQueue := queueOf start next rest })
      (passUp fuel conn) := by
  induction fuel generalizing conn extracted intervals with
  | zero => exact .error id
  | succ _ induction =>
    have extracts :
        Returns
          (fun result =>
            result =
              (if next - extracted = 0 then none
                else some (next - extracted),
                queueOf start next (dropBelow next intervals)))
          ((conn.rcv.receiveQueue.extractBytesUpTo
            conn.rcv.rcv_nxt).mapError Connection.Failure.receiving) := by
      rw [receiveQueue, rcv_nxt]
      exact .mapError (fun _ => id) fun _ success => extractBytesUpTo_received kept close success
    refine extracts.bind ?_
    rintro _ rfl
    have rest := kept.extract kept.extracted_le le_rfl
    split_ifs with nothing
    · exact .ok ⟨rfl, untold, by rw [nothing]; rfl, _, rest, rfl⟩
    · have more :=
        @induction
          ({ conn with
              rcv := { conn.rcv with receiveQueue := queueOf _ _ (dropBelow _ _) }
            }.sendIndicationToApp (.data (next - extracted)))
          _ _ rest (by omega) rcv_nxt rfl (by
            change .peerClosed ∉ conn.toApp ++ [Indication.data (next - extracted)]
            simpa using untold)
      refine more.mono ?_
      rintro _ ⟨fsm, silent, octets, final, kept, rcv⟩
      refine ⟨fsm, silent, ?_, final, kept, rcv⟩
      rw [octets, Nat.sub_self, Nat.add_zero]
      exact passedUp_append _ _

theorem advanced_le (within : ∀ interval ∈ intervals, interval.upper ≤ bound)
    (start : next ≤ bound) : advanced next intervals ≤ bound := by
  cases intervals with
  | nil => exact start
  | cons _ _ =>
    rw [advanced]
    split_ifs
    · exact within _ List.mem_cons_self
    · exact start

theorem InStream.insert (inStream : InStream state received next intervals)
    (filled : 0 < tcpseg.payloadLength) (sequence : tcpseg.sequenceNo = number state.start position)
    (above : next ≤ position) (near : position + tcpseg.payloadLength ≤ next + 2 ^ 31) :
    ∃ reached merged,
      state.conn.rcv.receiveQueue.insertBytesFromSegment tcpseg.sequenceNo tcpseg.payloadLength =
        queueOf state.start reached merged ∧
        Kept (received ∪ Set.Ico position (position + tcpseg.payloadLength))
          next reached merged ∧ reached ≤ next + 2 ^ 31 := by
  let segment : HalfOpen Nat := ⟨position, position + tcpseg.payloadLength, by omega⟩
  have segmentAbove : next ≤ segment.lower := above
  have segmentNear : segment.upper ≤ next + 2 ^ 31 := near
  have length : segment.upper - segment.lower = tcpseg.payloadLength := Nat.add_sub_cancel_left _ _
  have inserted :
      (queueOf state.start next intervals).insertBytesFromSegment
          (number state.start segment.lower) (segment.upper - segment.lower) =
        queueOf state.start (advanced next (merge segment intervals)) (merge segment intervals) :=
    VirtualDataRcvQueue.insertBytesFromSegment_queueOf inStream.kept
      segmentAbove segmentNear fun waiting => absurd waiting (lt_irrefl _)
  have inWindow : ∀ interval ∈ merge segment intervals, interval.upper ≤ next + 2 ^ 31 :=
    forall_mem_merge (fun interval => interval.upper ≤ next + 2 ^ 31)
      (fun _ _ left right => max_le left right) segmentNear inStream.kept.within
  rw [length] at inserted
  refine ⟨_, _, ?_, inStream.kept.insert segmentAbove segmentNear,
    advanced_le inWindow (Nat.le_add_right _ _)⟩
  rwa [inStream.receiveQueue, sequence]

theorem InStream.processText (inStream : InStream state received next intervals)
    (transfers : TransfersText state.conn.fsm = true) (arrived : tcpseg ∈ state.arrived)
    (sequence : tcpseg.sequenceNo = number state.start position)
    (within : position + tcpseg.payloadLength ≤ state.length) (above : next ≤ position)
    (near : position + tcpseg.payloadLength ≤ next + 2 ^ 31) :
    Returns
      (fun conn =>
        conn.fsm = state.conn.fsm ∧
          ∃ next intervals,
            InStream { state with conn }
              (received ∪ Set.Ico position (position + tcpseg.payloadLength)) next intervals)
      (state.conn.processText tcpseg) := by
  unfold TCPConnection.processText
  by_cases filled : 0 < tcpseg.payloadLength
  · rw [if_pos ⟨transfers, filled⟩]
    obtain ⟨reached, merged, inserted, kept, close⟩ := inStream.insert filled sequence above near
    have grown : next ≤ reached := kept.extracted_le
    have bounded :
        ∀ other ∈ received ∪ Set.Ico position (position + tcpseg.payloadLength),
          other < state.length := by
      rintro other (before | now)
      · exact inStream.within _ before
      · exact now.2.trans_le within
    have came :
        ∀ other ∈ received ∪ Set.Ico position (position + tcpseg.payloadLength),
          Came state.start state.arrived other := by
      rintro other (before | now)
      · exact inStream.came _ before
      · exact ⟨tcpseg, arrived, position, sequence, now.1, now.2⟩
    rw [inserted]
    by_cases same : state.conn.rcv.rcv_nxt = (queueOf state.start reached merged).rcv_nxt
    · rw [if_pos same]
      have stays : next = reached := by
        rw [inStream.rcv_nxt] at same
        exact (number_inj grown (by omega)).mp same
      subst stays
      exact .ok
        ⟨rfl, _, _,
          { kept
            within := bounded
            came
            rcv_nxt := rfl
            receiveQueue := rfl
            fin_rcvd := inStream.fin_rcvd
            passedUp := inStream.passedUp
            untold := inStream.untold }⟩
    · rw [if_neg same]
      refine (passUp_received state.start _ kept close ?_ ?_ ?_).bind ?_
      · rfl
      · rfl
      · exact inStream.untold
      rintro last ⟨fsm, untold, octets, _, final, rcv⟩
      have pending : last.rcv.fin_rcvd = false := by
        rw [rcv]
        exact inStream.fin_rcvd
      have noFin : last.reachStoredFin = last := by
        rw [reachStoredFin, pending]
        exact if_neg fun found => Bool.false_ne_true found.1
      rw [noFin]
      refine .ok
        ⟨fsm, _, _,
          { kept := final
            within := bounded
            came
            rcv_nxt := ?_
            receiveQueue := ?_
            fin_rcvd := pending
            passedUp := ?_
            untold }⟩
      · rw [rcv]
        rfl
      · rw [rcv]
      · refine octets.trans ?_
        rw [inStream.passedUp, Nat.add_sub_cancel' grown]
  · rw [if_neg fun taken => filled taken.2]
    have empty : tcpseg.payloadLength = 0 := by omega
    rw [empty, Nat.add_zero, Set.Ico_self, Set.union_empty]
    exact .ok ⟨rfl, _, _, inStream⟩

end Text

/-! ## The FIN -/

/-- The code with which a FIN is answered. -/
def FinCode (fsm : TcpState) (event : TCPEventCode) : Prop :=
  event = .rcvFin ∨ event = .rcvFinAck ∧ fsm = .finWait1

/-- What the text and the FIN of a segment lead to. -/
structure Taken (state : Receiver) (event : TCPEventCode)
    (result : TCPEventCode × TCPConnection) : Prop where
  fsm : result.2.fsm = state.conn.fsm
  received :
    (∃ received next intervals, InStream { state with conn := result.2 } received next intervals) ∧
      result.1 = event ∨
    Ended { state with conn := result.2 } ∧ FinCode state.conn.fsm result.1

section Fin

variable {state : Receiver} {conn : TCPConnection} {tcpseg : TCPSegment}
variable {received : Set Nat} {next position : Nat}
variable {intervals : List (HalfOpen Nat)} {event : TCPEventCode}

theorem Quiet.taken (quiet : Quiet conn last)
    (fsm : last.fsm = conn.fsm) (taken : Taken state event (code, conn)) :
    Taken state event (code, last) where
  fsm := fsm.trans taken.fsm
  received := by
    have quietly : Quietly { state with conn } { state with conn := last } :=
      ⟨quiet, rfl, rfl, fun _ => id⟩
    rcases taken.received with ⟨⟨_, _, _, inStream⟩, same⟩ | ⟨ended, code⟩
    · exact .inl ⟨⟨_, _, _, inStream.quiet quietly⟩, same⟩
    · exact .inr ⟨ended.quiet quietly, code⟩

theorem InStream.receiveFin (inStream : InStream state received next intervals)
    (all : ∀ other < state.length, other ∈ received)
    (sequence : tcpseg.sequenceNo = number state.start position)
    (last : position + tcpseg.payloadLength = state.length) :
    Ended { state with conn := state.conn.receiveFin tcpseg } := by
  have atEnd : next = state.length := by
    refine le_antisymm ?_ ?_
    · exact inStream.kept.missing.2 fun inside => lt_irrefl _ (inStream.within _ inside)
    · exact not_lt.mp fun early => inStream.kept.missing.1 (all _ early)
  have numbers :
      state.conn.rcv.rcv_nxt = tcpseg.sequenceNo + BitVec.ofNat 32 tcpseg.payloadLength := by
    rw [inStream.rcv_nxt, sequence, number_add, last, atEnd]
  rw [TCPConnection.receiveFin, if_pos numbers]
  have octets : InOrderClose.passedUp state.conn.toApp = state.length :=
    inStream.passedUp.trans atEnd
  exact
    { came := fun other below => inStream.came _ (all _ below)
      rcv_nxt := by
        rw [inStream.rcv_nxt, atEnd]
        exact number_add state.start state.length 1
      passedUp := (passedUp_append _ _).trans octets
      told := (told_of_notMem inStream.untold).indicate fun _ => octets }

theorem receiveFin_fsm : (conn.receiveFin tcpseg).fsm = conn.fsm := by
  dsimp only [TCPConnection.receiveFin]
  split_ifs
  all_goals rfl

theorem startTimeWait_quiet :
    Returns (fun next => next.fsm = conn.fsm ∧ Quiet conn next) conn.startTimeWait := by
  refine (scheduleTimeout_quiet .the2MSL).bind ?_
  rintro next ⟨fsm, scheduled⟩
  have told : Quiet next (next.sendIndicationToApp .closed) := .indicates rfl rfl rfl
  exact .ok ⟨fsm, (scheduled.trans told).after rfl rfl⟩

theorem processFin_taken (ended : Ended { state with conn := conn.receiveFin tcpseg })
    (fsm : conn.fsm = state.conn.fsm) (finBit : tcpseg.finBit = true) (event : TCPEventCode) :
    Returns (Taken state event) (conn.processFin tcpseg event) := by
  have there : (conn.receiveFin tcpseg).fsm = state.conn.fsm := receiveFin_fsm.trans fsm
  have taken {code : TCPEventCode} (fits : FinCode state.conn.fsm code) :
      Taken state event (code, conn.receiveFin tcpseg) :=
    { fsm := there, received := .inr ⟨ended, fits⟩ }
  rw [TCPConnection.processFin, if_pos finBit]
  dsimp only
  split
  · rename_i finWait1
    split_ifs
    · refine startTimeWait_quiet.bind ?_
      rintro last ⟨same, quiet⟩
      exact .ok (quiet.taken same (taken (.inr ⟨rfl, there.symm.trans finWait1⟩)))
    · exact .ok (taken (.inl rfl))
  · refine startTimeWait_quiet.bind ?_
    rintro last ⟨same, quiet⟩
    exact .ok (quiet.taken same (taken (.inl rfl)))
  · refine (scheduleTimeout_quiet .the2MSL).bind ?_
    rintro last ⟨same, scheduled⟩
    have quiet : Quiet (conn.receiveFin tcpseg) last := scheduled.after rfl rfl
    exact .ok (quiet.taken same (taken (.inl rfl)))
  · exact .ok (taken (.inl rfl))

theorem receiveSeqChanged_quiet :
    Returns (fun next => next.fsm = conn.fsm ∧ Quiet conn next) conn.receiveSeqChanged := by
  unfold receiveSeqChanged
  split_ifs
  · exact .ok ⟨rfl, .refl _⟩
  · exact scheduleTimeout_quiet .delayedAck
  · exact .ok ⟨rfl, .stays rfl rfl⟩

theorem InStream.processTextAndFin (inStream : InStream state received next intervals)
    (transfers : TransfersText state.conn.fsm = true) (arrived : tcpseg ∈ state.arrived)
    (sequence : tcpseg.sequenceNo = number state.start position)
    (within : position + tcpseg.payloadLength ≤ state.length) (above : next ≤ position)
    (near : position + tcpseg.payloadLength ≤ next + 2 ^ 31)
    (fin : tcpseg.finBit = true → position = next ∧ position + tcpseg.payloadLength = state.length)
    (event : TCPEventCode) :
    Returns (Taken state event) (state.conn.processTextAndFin tcpseg event) := by
  refine (inStream.processText transfers arrived sequence within above near).bind ?_
  rintro texted ⟨same, _, _, taken⟩
  have finned : Returns (Taken state event) (texted.processFin tcpseg event) := by
    by_cases finBit : tcpseg.finBit = true
    · obtain ⟨_, last⟩ := fin finBit
      have all :
          ∀ other < state.length,
            other ∈ received ∪ Set.Ico position (position + tcpseg.payloadLength) := by
        intro other _
        by_cases early : other < next
        · exact .inl (inStream.kept.received_of_lt early)
        · exact .inr ⟨by omega, by omega⟩
      have ended : Ended { state with conn := texted.receiveFin tcpseg } :=
        taken.receiveFin all sequence last
      exact processFin_taken ended same finBit _
    · rw [TCPConnection.processFin, if_neg finBit]
      exact .ok { fsm := same, received := .inl ⟨⟨_, _, _, taken⟩, rfl⟩ }
  refine finned.bind ?_
  rintro ⟨_, _⟩ taken
  dsimp only
  split_ifs
  · refine receiveSeqChanged_quiet.bind ?_
    rintro _ ⟨fsm, quiet⟩
    exact .ok (quiet.taken fsm taken)
  · exact .ok taken

theorem processTextAndFin_empty (empty : tcpseg.payloadLength = 0)
    (noFin : tcpseg.finBit = false) (event : TCPEventCode) :
    conn.processTextAndFin tcpseg event = .ok (event, conn) := by
  have noText : conn.processText tcpseg = .ok conn := by
    rw [TCPConnection.processText, empty]
    exact if_neg fun taken => lt_irrefl 0 taken.2
  have neither : conn.processFin tcpseg event = .ok (event, conn) := by
    rw [TCPConnection.processFin, noFin]
    rfl
  rw [TCPConnection.processTextAndFin, noText]
  change (do
    let last ← conn.processFin tcpseg event
    if conn.rcv.rcv_nxt ≠ last.2.rcv.rcv_nxt then
      let changed ← last.2.receiveSeqChanged
      .ok (last.1, changed)
    else .ok (last.1, last.2)) = Except.ok (event, conn)
  rw [neither]
  exact if_neg fun moved => moved rfl

end Fin

/-! ## Segments of the stream -/

/-- The code with which the processing goes on before the text. -/
structure Continues (conn : TCPConnection) (event : TCPEventCode)
    (next : TCPConnection) : Prop where
  fsm : next.fsm = conn.fsm
  quiet : Quiet conn next
  code : event = .rcvAck ∨ event = .ignore ∧ conn.fsm ≠ .synRcvd

section Segments

variable {state : Receiver} {conn middle : TCPConnection}
variable {tcpseg : TCPSegment} {event : TCPEventCode}

theorem completeSetup_continues (choices : Choices) :
    Returns
      (fun result =>
        match result.1 with
        | .returns event => Rests conn (event, result.2)
        | .continues event => Continues conn event result.2)
      (conn.completeSetup tcpseg choices) := by
  unfold completeSetup
  split_ifs with fsm
  · exact .ok ⟨rfl, .indicates rfl rfl rfl, .inl rfl⟩
  · exact .ok ⟨rfl, .refl _, rfl⟩
  · exact .ok ⟨rfl, .refl _, .inr ⟨rfl, fsm⟩⟩

theorem processFinAck_continues (continues : Continues conn event middle) :
    Returns
      (fun result =>
        match result.1 with
        | .returns event => Rests conn (event, result.2)
        | .continues event => Continues conn event result.2)
      (middle.processFinAck tcpseg event) := by
  have told (conn : TCPConnection) : Quiet conn (conn.sendIndicationToApp .closed) :=
    .indicates rfl rfl rfl
  unfold processFinAck
  split
  · refine .ok ⟨continues.fsm, continues.quiet, ?_⟩
    split_ifs
    · exact .inl rfl
    · exact continues.code
  · split_ifs
    · refine (scheduleTimeout_quiet .the2MSL).bind ?_
      rintro next ⟨fsm, scheduled⟩
      exact .ok
        ⟨fsm.trans continues.fsm, (continues.quiet.trans scheduled).trans (told _), .inl rfl⟩
    · exact .ok continues
  · split_ifs
    · exact .ok ⟨continues.fsm, continues.quiet.trans (told _), rfl⟩
    · exact .ok continues
  · refine (scheduleTimeout_quiet .the2MSL).bind ?_
    rintro next ⟨fsm, scheduled⟩
    have quiet : Quiet middle next := scheduled.after rfl rfl
    exact .ok ⟨fsm.trans continues.fsm, continues.quiet.trans quiet, continues.code⟩
  · exact .ok continues

theorem processAckField_continues (continues : Continues conn event middle) (choices : Choices) :
    Returns
      (fun result =>
        match result.1 with
        | .returns event => Rests conn (event, result.2)
        | .continues event => Continues conn event result.2)
      (middle.processAckField tcpseg choices event) := by
  have acknowledged :
      Returns (fun result => result.2.fsm = middle.fsm ∧ Quiet middle result.2)
        (if TransfersAcks middle.fsm then middle.processAckInEstabEtc tcpseg choices
        else
          .ok (true, middle)) := by
    split_ifs
    · refine (processAckInEstabEtc_yields _ _).returns.mono ?_
      rintro _ ⟨transmits, _⟩
      exact ⟨transmits.leaves.fsm, .of_leaves transmits.leaves⟩
    · exact .ok ⟨rfl, .refl _⟩
  refine acknowledged.bind ?_
  rintro ⟨ok, _⟩ ⟨fsm, quiet⟩
  have same := fsm.trans continues.fsm
  have rest := continues.quiet.trans quiet
  cases ok with
  | false => exact .ok ⟨same, rest, rfl⟩
  | true => exact processFinAck_continues { fsm := same, quiet := rest, code := continues.code }

theorem deferredClose_cases (old_snd_nxt : SeqNo) :
    conn.deferredClose old_snd_nxt event = event ∨
      conn.deferredClose old_snd_nxt event = .close := by
  dsimp only [deferredClose]
  split_ifs
  · exact .inr rfl
  · exact .inr rfl
  · exact .inl rfl

theorem Ended.phase (ended : Ended state)
    (later : BeforeTransfer fsm = false) : Phase state fsm := by
  cases fsm with
  | init | listen | synSent | synRcvd => cases later
  | established | finWait1 | finWait2 => exact .inr ended
  | closeWait | closing | lastAck | timeWait => exact ended
  | closed => exact ended.told

/-- The codes after the text and the FIN lead to a state that fits. -/
theorem Taken.phase (taken : Taken state event result)
    (transfers : TransfersText state.conn.fsm = true)
    (code : event = .rcvAck ∨ event = .ignore ∧ state.conn.fsm ≠ .synRcvd) (old_snd_nxt : SeqNo) :
    Phase { state with conn := result.2 }
      (target result.2 (result.2.deferredClose old_snd_nxt result.1)) := by
  have deferred :
      result.2.deferredClose old_snd_nxt result.1 = result.1 ∨
        result.2.deferredClose old_snd_nxt result.1 = .close :=
    deferredClose_cases _
  rcases taken.received with ⟨inStream, same⟩ | ⟨ended, fin⟩
  · rw [same] at deferred ⊢
    have plain : Plain (result.2.deferredClose old_snd_nxt event) = true := by
      rcases deferred with keeps | closes
      · rw [keeps]
        rcases code with rfl | ⟨rfl, _⟩
        all_goals rfl
      · rw [closes]
        rfl
    by_cases synRcvd : state.conn.fsm = .synRcvd
    · have there := taken.fsm.trans synRcvd
      have acked := code.resolve_right fun other => other.2 synRcvd
      rcases deferred with keeps | closes
      · rw [keeps, acked, target_eq there rfl]
        exact .inl inStream
      · rw [closes, target_eq there rfl]
        exact .inl inStream
    · have phase : Phase { state with conn := result.2 } result.2.fsm := by
        rw [taken.fsm]
        cases fsm : state.conn.fsm with
        | synRcvd => exact absurd fsm synRcvd
        | established | finWait1 | finWait2 => exact .inl inStream
        | _ =>
          rw [fsm] at transfers
          cases transfers
      exact phase.plain _ plain
  · refine ended.phase ?_
    by_cases synRcvd : state.conn.fsm = .synRcvd
    · have there := taken.fsm.trans synRcvd
      have rcvFin := fin.resolve_right fun other => absurd (synRcvd.symm.trans other.2) (by decide)
      rcases deferred with keeps | closes
      · rw [keeps, rcvFin, target_eq there rfl]
        rfl
      · rw [closes, target_eq there rfl]
        rfl
    · refine transition_later _ _ ?_
      rw [taken.fsm]
      cases fsm : state.conn.fsm with
      | synRcvd => exact absurd fsm synRcvd
      | init | listen | synSent =>
        rw [fsm] at transfers
        cases transfers
      | _ => rfl

theorem le_of_acceptable (acceptable : conn.isSegmentAcceptable tcpseg = true)
    (rcv_nxt : conn.rcv.rcv_nxt = number start next)
    (sequence : tcpseg.sequenceNo = number start position)
    (behind : next ≤ position + 2 ^ 31) (ahead : position < next + 2 ^ 31) : next ≤ position := by
  have first := (Bool.and_eq_true_iff.mp acceptable).1
  rw [rcv_nxt, sequence] at first
  exact (seqGE_number behind ahead).mp first

/-- The receiver when the ACK field of the segment has been processed. -/
def acked (state : Receiver) (tcpseg : TCPSegment) (conn : TCPConnection) : Receiver :=
  { state with conn, arrived := state.arrived ++ [tcpseg] }

theorem quietly_acked (tcpseg : TCPSegment) (quiet : Quiet state.conn conn) :
    Quietly state (acked state tcpseg conn) :=
  ⟨quiet, rfl, rfl, List.subset_append_left _ _⟩

theorem Rests.phase (rests : Rests state.conn result) (phase : Phase state state.conn.fsm) :
    Phase (acked state tcpseg result.2) (target result.2 result.1) := by
  have after := phase.quiet (quietly_acked tcpseg rests.quiet)
  rw [← rests.fsm] at after
  exact after.plain _ rests.plain

theorem Continues.phase (continues : Continues state.conn event conn)
    (phase : Phase state state.conn.fsm) (old_snd_nxt : SeqNo) :
    Phase (acked state tcpseg conn) (target conn (conn.deferredClose old_snd_nxt event)) := by
  have rests : Rests state.conn (conn.deferredClose old_snd_nxt event, conn) :=
    { fsm := continues.fsm
      quiet := continues.quiet
      plain := by
        rcases deferredClose_cases _ with keeps | closes
        · rw [keeps]
          rcases continues.code with rfl | ⟨rfl, _⟩
          all_goals rfl
        · rw [closes]
          rfl }
  exact rests.phase phase

theorem Phase.brings (phase : Phase state fsm) (stream : BeforeStream fsm = false)
    (running : fsm ≠ .closed) (acceptable : state.conn.isSegmentAcceptable tcpseg = true)
    (produced : Produces state.start state.length tcpseg position)
    (near : Near state.conn tcpseg position) :
    tcpseg.payloadLength = 0 ∧ tcpseg.finBit = false ∨
      TransfersText fsm = true ∧
        (∃ received next intervals,
          InStream state received next intervals ∧ next ≤ position ∧
            position + tcpseg.payloadLength ≤ next + 2 ^ 31) ∧
        position + tcpseg.payloadLength ≤ state.length ∧
          (tcpseg.finBit = true → position + tcpseg.payloadLength = state.length) := by
  rcases produced.2 with ⟨within, fin⟩ | ⟨_, empty, noFin⟩
  · have done (ended : Ended state) : False := by
      have behind := near.1
      rw [ended.passedUp] at behind
      have past := le_of_acceptable acceptable ended.rcv_nxt produced.1 (by omega) (by omega)
      omega
    have goesOn {received : Set Nat} {next : Nat} {intervals : List (HalfOpen Nat)}
        (inStream : InStream state received next intervals) :
        next ≤ position ∧ position + tcpseg.payloadLength ≤ next + 2 ^ 31 := by
      obtain ⟨behind, ahead⟩ := near
      rw [inStream.passedUp] at behind ahead
      exact ⟨le_of_acceptable acceptable inStream.rcv_nxt produced.1
        (by omega) (by omega), by omega⟩
    right
    cases fsm with
    | init | listen | synSent => cases stream
    | closed => exact absurd rfl running
    | synRcvd => exact ⟨rfl, ⟨_, _, _, phase, goesOn phase⟩, within, fin⟩
    | established | finWait1 | finWait2 =>
      rcases phase with ⟨_, _, _, inStream⟩ | ended
      · exact ⟨rfl, ⟨_, _, _, inStream, goesOn inStream⟩, within, fin⟩
      · exact (done ended).elim
    | closeWait | closing | lastAck | timeWait => exact (done phase).elim
  · exact .inl ⟨empty, noFin⟩

theorem processAckTextAndFin_phase (phase : Phase state state.conn.fsm)
    (stream : BeforeStream state.conn.fsm = false) (running : state.conn.fsm ≠ .closed)
    (acceptable : state.conn.isSegmentAcceptable tcpseg = true)
    (produced : Produces state.start state.length tcpseg position)
    (near : Near state.conn tcpseg position)
    (inOrder : tcpseg.finBit = true → tcpseg.sequenceNo = state.conn.rcv.rcv_nxt)
    (choices : Choices) :
    Returns (fun result => Phase (acked state tcpseg result.2) (target result.2 result.1))
      (state.conn.processAckTextAndFin tcpseg choices) := by
  refine (completeSetup_continues _).bind ?_
  rintro ⟨flow, started⟩ continues
  cases flow with
  | returns _ => exact .ok (Rests.phase continues phase)
  | continues event =>
    refine (processAckField_continues continues _).bind ?_
    rintro ⟨flow, conn⟩ continues
    cases flow with
    | returns _ => exact .ok (Rests.phase continues phase)
    | continues event =>
      have continues : Continues state.conn event conn := continues
      rcases phase.brings stream running acceptable produced near with
        ⟨empty, noFin⟩ | ⟨transfers, inStream, within, fin⟩
      · have skips :
            (do
              let last ← conn.processTextAndFin tcpseg event
              .ok (last.2.deferredClose started.snd.snd_nxt last.1, last.2)) =
              Except.ok (conn.deferredClose started.snd.snd_nxt event, conn) := by
          rw [processTextAndFin_empty empty noFin]
          rfl
        exact .of_eq_ok skips (continues.phase phase _)
      · obtain ⟨_, next, _, inStream, above, close⟩ := inStream
        have after := inStream.quiet (quietly_acked tcpseg continues.quiet)
        have first (finBit : tcpseg.finBit = true) :
            position = next ∧ position + tcpseg.payloadLength = state.length := by
          have same := inOrder finBit
          rw [produced.1, inStream.rcv_nxt] at same
          exact ⟨((number_inj above (by omega)).mp same.symm).symm, fin finBit⟩
        have transfers : TransfersText (acked state tcpseg conn).conn.fsm = true := by
          change TransfersText conn.fsm = true
          rwa [continues.fsm]
        have code :
            event = .rcvAck ∨ event = .ignore ∧ (acked state tcpseg conn).conn.fsm ≠ .synRcvd := by
          change event = .rcvAck ∨ event = .ignore ∧ conn.fsm ≠ .synRcvd
          rw [continues.fsm]
          exact continues.code
        refine (after.processTextAndFin transfers
          (List.mem_append_right _ (List.mem_singleton_self _))
          produced.1 within above close first event).bind ?_
        rintro _ taken
        exact .ok (taken.phase transfers code _)

theorem processRst_rests : Returns (Rests conn) conn.processRst := by
  unfold processRst
  split
  · have discarded :
        Returns (fun _ => True)
          ((conn.snd.sendQueue.discardUpTo
            conn.snd.sendQueue.getBufferEndSeq).mapError Connection.Failure.sending) :=
      .mapError (fun _ => id) fun _ _ => trivial
    refine discarded.bind fun sendQueue _ => ?_
    dsimp only
    split_ifs
    · exact .ok ⟨rfl, .indicates rfl rfl rfl, rfl⟩
    · exact .ok ⟨rfl, .stays rfl rfl, rfl⟩
  · exact .ok ⟨rfl, .indicates rfl rfl rfl, rfl⟩
  · exact .ok ⟨rfl, .indicates rfl rfl rfl, rfl⟩
  · exact .ok ⟨rfl, .indicates rfl rfl rfl, rfl⟩
  · exact .ok ⟨rfl, .indicates rfl rfl rfl, rfl⟩
  · exact .ok ⟨rfl, .indicates rfl rfl rfl, rfl⟩
  · exact .ok ⟨rfl, .indicates rfl rfl rfl, rfl⟩
  · exact .ok ⟨rfl, .refl conn, rfl⟩
  · exact .error id

theorem processSegment1stThru8th_phase (phase : Phase state state.conn.fsm)
    (stream : BeforeStream state.conn.fsm = false) (running : state.conn.fsm ≠ .closed)
    (admitted :
      Processed state.conn tcpseg →
        (∃ position,
          Produces state.start state.length tcpseg position ∧ Near state.conn tcpseg position) ∧
          (tcpseg.finBit = true → tcpseg.sequenceNo = state.conn.rcv.rcv_nxt))
    (choices : Choices) :
    Returns (fun result => Phase (acked state tcpseg result.2) (target result.2 result.1))
      (state.conn.processSegment1stThru8th tcpseg choices) := by
  have rests {result : TCPEventCode × TCPConnection} (rests : Rests state.conn result) :
      Phase (acked state tcpseg result.2) (target result.2 result.1) :=
    rests.phase phase
  unfold processSegment1stThru8th
  split_ifs with acceptable rstBit synBit ackBit
  · exact processRst_rests.mono fun _ => rests
  · exact .ok (rests ⟨rfl, .indicates rfl rfl rfl, rfl⟩)
  · obtain ⟨⟨_, produced, near⟩, inOrder⟩ :=
      admitted
        ⟨acceptable, Bool.eq_false_of_not_eq_true rstBit,
          Bool.eq_false_of_not_eq_true synBit, ackBit⟩
    exact processAckTextAndFin_phase phase stream running acceptable produced near inOrder _
  · exact .ok (rests ⟨rfl, .refl _, rfl⟩)
  · exact .ok (rests ⟨rfl, .refl _, rfl⟩)
  · exact .ok (rests ⟨rfl, .stays rfl rfl, rfl⟩)

end Segments

/-! ## Runs -/

section Running

variable {state next : Receiver} {event : Event}

theorem performStateTransition_quiet (conn : TCPConnection) (event : TCPEventCode) :
    Quiet conn (conn.performStateTransition event) := by
  change Quiet conn (if target conn event = conn.fsm then conn
    else { conn with fsm := target conn event }.stateEntered (target conn event))
  split_ifs
  · exact .refl _
  · rw [stateEntered_eq]
    exact .stays rfl rfl

/-- What the receiver is after the processing and before the transition. -/
def processed (next : Receiver) (conn : TCPConnection) : Receiver :=
  { next with conn }

theorem phase_of_processed (phase : Phase (processed next conn) (target conn code))
    (entered : next.conn = conn.performStateTransition code) : Phase next next.conn.fsm := by
  have quietly : Quietly (processed next conn) next :=
    { conn := by
        rw [entered]
        exact performStateTransition_quiet _ _
      start := rfl
      length := rfl
      arrived := fun _ => id }
  have same : next.conn.fsm = target conn code := by
    rw [entered]
    exact TimersAndEvents.performStateTransition_fsm _ _
  rw [same]
  exact phase.quiet quietly

theorem Phase.early (phase : Phase state fsm) (early : BeforeStream fsm = true)
    (same : other.conn = state.conn) : Phase other fsm := by
  cases fsm with
  | init | listen | synSent =>
    change Fresh other.conn
    rwa [same]
  | _ => cases early

theorem phase_of_rests (phase : Phase state state.conn.fsm) (rests : Rests state.conn result)
    (start : BeforeStream state.conn.fsm = false → next.start = state.start)
    (length : BeforeStream state.conn.fsm = false → next.length = state.length)
    (arrived : BeforeStream state.conn.fsm = false → state.arrived ⊆ next.arrived) :
    Phase (processed next result.2) (target result.2 result.1) := by
  have quiet : Phase (processed next result.2) state.conn.fsm := by
    cases stream : BeforeStream state.conn.fsm with
    | true =>
      have begun := phase.early stream (show (processed next state.conn).conn = state.conn from rfl)
      exact begun.quiet ⟨rests.quiet, rfl, rfl, fun _ => id⟩
    | false => exact phase.quiet ⟨rests.quiet, start stream, length stream, arrived stream⟩
  rw [← rests.fsm] at quiet
  exact quiet.plain _ rests.plain

theorem phase_of_segment {iss : SeqNo}
    (phase : Phase state state.conn.fsm) (running : state.conn.fsm ≠ .closed)
    (admitted : Guard state (.segment tcpseg iss choices))
    (success : state.conn.process_RCV_SEGMENT tcpseg iss choices = .ok result)
    (start : next.start = startOf state (.segment tcpseg iss choices))
    (length : BeforeStream state.conn.fsm = false → next.length = state.length)
    (arrived : next.arrived = arrivals state (.segment tcpseg iss choices)) :
    Phase (processed next result.2) (target result.2 result.1) := by
  rw [Guard] at admitted
  rw [startOf] at start
  rw [arrivals] at arrived
  have begins (setup : state.conn.fsm = .listen ∨ state.conn.fsm = .synSent)
      (first : Rests state.conn result ∨ Begun state.conn tcpseg result) :
      Phase (processed next result.2) (target result.2 result.1) := by
    have early : BeforeStream state.conn.fsm = true := by
      rcases setup with fsm | fsm
      all_goals
        rw [fsm]
        rfl
    have fresh : Fresh state.conn := by
      rcases setup with fsm | fsm
      all_goals
        rwa [fsm] at phase
    rcases first with rests | begun
    · exact phase_of_rests phase rests
        (fun stream => absurd (stream.symm.trans early) Bool.false_ne_true) length
        (fun stream => absurd (stream.symm.trans early) Bool.false_ne_true)
    · rw [if_pos early] at start arrived
      have same :
          processed next result.2 =
            { conn := result.2
              start := tcpseg.sequenceNo + 1
              length := next.length
              arrived := [] } := by
        rw [processed, start, arrived]
      rw [same]
      exact begun.phase setup fresh next.length
  have goesOn (stream : BeforeStream state.conn.fsm = false)
      (steps : state.conn.processSegment1stThru8th tcpseg choices = .ok result) :
      Phase (processed next result.2) (target result.2 result.1) := by
    have later : ¬BeforeStream state.conn.fsm = true := fun early =>
      Bool.false_ne_true (stream.symm.trans early)
    rw [if_neg later] at admitted start arrived
    have same : processed next result.2 = acked state tcpseg result.2 := by
      rw [processed, acked, start, arrived, length stream]
    rw [same]
    exact (processSegment1stThru8th_phase phase stream running admitted choices).2 _ steps
  unfold process_RCV_SEGMENT at success
  cases fsm : state.conn.fsm with
  | init =>
    rw [fsm] at success
    cases success
  | closed => exact absurd fsm running
  | listen =>
    rw [fsm] at success admitted
    exact begins (.inl fsm) ((processSegmentInListen_begins admitted iss).2 _ success)
  | synSent =>
    rw [fsm] at success admitted
    exact begins (.inr fsm) ((processSegmentInSynSent_begins admitted fsm choices).2 _ success)
  | _ =>
    rw [fsm] at success
    exact goesOn (by rw [fsm]; rfl) success

theorem phase_step (state : Receiver) (event : Event) (next : Receiver)
    (phase : Phase state state.conn.fsm) (admitted : Guard state event)
    (taken : Step state event next) : Phase next next.conn.fsm := by
  rcases taken with ⟨⟨enabled, code, conn, success, entered⟩, rest⟩
  suffices before : Phase (processed next conn) (target conn code) from
    phase_of_processed before entered
  have rests (rests : Rests state.conn (code, conn)) (start : startOf state event = state.start)
      (arrived : arrivals state event = state.arrived) :
      Phase (processed next conn) (target conn code) :=
    phase_of_rests phase rests (fun _ => rest.1.trans start) rest.2.2
      fun _ => by rw [rest.2.1, arrived]; exact fun _ => id
  cases event with
  | openActive _ _ =>
    exact rests ((openActive_rests _ _).2 _ success) rfl rfl
  | openPassive _ => exact rests ((openPassive_rests _).2 _ success) rfl rfl
  | send byteLength iss choices =>
    exact rests ((send_rests byteLength iss choices).2 _ success) rfl rfl
  | close => exact rests (close_rests.2 _ success) rfl rfl
  | abort => exact rests (abort_rests.2 _ success) rfl rfl
  | status => exact rests (status_rests.2 _ success) rfl rfl
  | segment _ _ _ => exact phase_of_segment phase enabled admitted success rest.1 rest.2.2 rest.2.1
  | timeout timer choices => exact rests ((processTimer_rests timer choices).2 _ success) rfl rfl

end Running

/-- A connection that has been constructed, for a peer with any stream. -/
def Constructed (first : Receiver) : Prop :=
  ∃ mss advertisedWindow delayed_acks_enabled,
    first.conn = create mss advertisedWindow delayed_acks_enabled

/--
In a run in which every FIN that is processed begins with the next byte, a
state after the FIN of the peer is reached with all bytes before it received,
and `peerClosed` comes after all of them.
-/
theorem closes_in_order {first last : Receiver} {events : List Event}
    (constructed : Constructed first) (run : Run (guardedStep Guard Step) first events last) :
    (PastFin last.conn.fsm = true →
      last.conn.rcv.rcv_nxt = number last.start last.length + 1 ∧
        ∀ position < last.length, Came last.start last.arrived position) ∧
      ∀ before after,
        last.conn.toApp = before ++ .peerClosed :: after → passedUp before = last.length := by
  obtain ⟨_, _, _, created⟩ := constructed
  have fresh : Phase first first.conn.fsm := by
    rw [created]
    change Fresh first.conn
    rw [created]
    exact { fin_rcvd := rfl, passedUp := rfl, untold := List.not_mem_nil }
  have phase := run.guarded phase_step fresh
  constructor
  · intro past
    have ended : Ended last := by
      cases fsm : last.conn.fsm with
      | closeWait | closing | lastAck | timeWait =>
        rwa [fsm] at phase
      | _ =>
        rw [fsm] at past
        cases past
    exact ⟨ended.rcv_nxt.trans (number_add last.start last.length 1).symm, ended.came⟩
  · intro _ after told
    refine phase.told _ ?_
    rw [told]
    exact ⟨after, by simp⟩

/-! ### Runs of a short stream -/

/-- The receiver after an event that is processed. -/
def advance (state : Receiver) (event : Event) : Receiver where
  conn :=
    match state.conn.process event with
    | .ok (code, processed) => processed.performStateTransition code
    | .error _ => state.conn
  start := startOf state event
  length := state.length
  arrived := arrivals state event

theorem Step.advance (enabled : state.conn.Enabled event)
    (success : state.conn.process event = .ok result) : Step state event (advance state event) := by
  refine ⟨⟨enabled, result.1, result.2, success, ?_⟩, rfl, rfl, fun _ => rfl⟩
  rw [InOrderClose.advance, success]

def constructed : Receiver where
  conn := create 1024 16384 false
  start := 0
  length := 10
  arrived := []

def listening : Receiver :=
  advance constructed (.openPassive false)

def syn : Event :=
  .segment { sequenceNo := 500, window := 4096, synBit := true } 100 {}

def synReceived : Receiver :=
  advance listening syn

def ack : Event :=
  .segment { sequenceNo := 501, ackNo := 101, window := 4096, ackBit := true } 0 {}

/-- The peer has opened the connection with the number 500. -/
def established : Receiver :=
  advance synReceived ack

/-- Ten bytes and the FIN. -/
def textWithFin : Event :=
  .segment
    { sequenceNo := 501
      ackNo := 101
      payloadLength := 10
      window := 4096
      ackBit := true
      finBit := true } 0 {}

/-- The FIN after ten bytes. -/
def loneFin : Event :=
  .segment { sequenceNo := 511, ackNo := 101, window := 4096, ackBit := true, finBit := true } 0 {}

theorem closes_in_order_textWithFin :
    (advance established textWithFin).conn.toApp = [.established, .data 10, .peerClosed] ∧
      (PastFin (advance established textWithFin).conn.fsm = true →
        (advance established textWithFin).conn.rcv.rcv_nxt =
            number (advance established textWithFin).start
              (advance established textWithFin).length + 1 ∧
          ∀ position < (advance established textWithFin).length,
            Came (advance established textWithFin).start
              (advance established textWithFin).arrived position) ∧
        ∀ before after,
          (advance established textWithFin).conn.toApp = before ++ .peerClosed :: after →
            passedUp before = (advance established textWithFin).length := by
  have textIsNext : Guard established textWithFin := fun _ =>
    ⟨⟨0, ⟨rfl, .inl ⟨by decide, fun _ => rfl⟩⟩, by decide, by decide⟩, fun _ => rfl⟩
  have ackIsNext : Guard synReceived ack := fun _ =>
    ⟨⟨0, ⟨rfl, .inl ⟨by decide, nofun⟩⟩, by decide, by decide⟩, nofun⟩
  have run :
      Run (guardedStep Guard Step) constructed
        [.openPassive false, syn, ack, textWithFin] (advance established textWithFin) :=
    .next ⟨trivial, .advance nofun rfl⟩ <|
    .next ⟨fun _ => rfl, .advance nofun rfl⟩ <|
    .next ⟨ackIsNext, .advance nofun rfl⟩ <|
    .next ⟨textIsNext, .advance nofun rfl⟩ <| .idle _
  exact ⟨rfl, closes_in_order ⟨_, _, _, rfl⟩ run⟩

/-- The FIN arrives before the bytes. -/
theorem early_fin_closes :
    Run Step constructed [.openPassive false, syn, ack] established ∧
      established.conn.fsm = .established ∧ Step established loneFin (advance established loneFin) ∧
      (∀ tcpseg ∈ (advance established loneFin).arrived,
        ∃ position, Produces established.start established.length tcpseg position) ∧
      (advance established loneFin).conn.fsm = .closeWait ∧
      (advance established loneFin).conn.rcv.rcv_nxt ≠
        number established.start established.length + 1 ∧
      passedUp (advance established loneFin).conn.toApp = 0 := by
  have run : Run Step constructed [.openPassive false, syn, ack] established :=
    .next (.advance nofun rfl) <|
    .next (.advance nofun rfl) <|
    .next (.advance nofun rfl) <| .idle _
  refine ⟨run, rfl, .advance nofun rfl, ?_, rfl, ?_, rfl⟩
  · intro _ among
    rcases List.mem_pair.mp among with rfl | rfl
    · exact ⟨0, rfl, .inl ⟨by decide, nofun⟩⟩
    · exact ⟨10, rfl, .inl ⟨by decide, fun _ => rfl⟩⟩
  · decide

end OmnetDsi.Tcp.InOrderClose
