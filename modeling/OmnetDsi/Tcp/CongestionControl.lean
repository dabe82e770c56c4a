import OmnetDsi.Tcp.Sending

/-!
# Congestion control in Tahoe and Reno

The congestion window of an established connection, moved by acks of new
data, duplicate acks and retransmission timeouts.  Fast recovery is not a
state of its own: Reno tells it from the counter of duplicate acks, which a
timeout leaves as it is.

The world remembers besides the connection whether a fast recovery is going
on, whether the last loss event was a timeout, and whether there was one.
-/

namespace OmnetDsi.Tcp.CongestionControl

open Library.Fallible Library.Transition Tcp.Sending

/-! ## The algorithms -/

inductive Flavour where
  | tahoe
  | reno
deriving DecidableEq

/-- The connection with the state variables of the algorithm. -/
structure TCPTahoeRenoFamily where
  flavour : Flavour
  conn : SendSide
  nagle_enabled : Bool
  snd_cwnd : Nat
  ssthresh : Nat
  rexmit_count : Nat := 0
  /-- The retransmission timer is scheduled. -/
  rexmitTimer : Bool := false
  aborted : Bool := false
deriving DecidableEq

/-- Arithmetic of `uint`. -/
def uint (value : Nat) : Nat :=
  value % 2 ^ 32

/-- Arithmetic of `int`. -/
def int (value : Nat) : Int :=
  (BitVec.ofNat 32 value).toInt

/-- The counter is a `short`. -/
def dupacks (conn : SendSide) : Int :=
  (BitVec.ofNat 16 conn.dupacks).toInt

def MAX_REXMIT_COUNT : Nat := 12

namespace TCPTahoeRenoFamily

def startRexmitTimer (alg : TCPTahoeRenoFamily) : TCPTahoeRenoFamily :=
  { alg with rexmit_count := 0, rexmitTimer := true }

def dataSent (alg : TCPTahoeRenoFamily) : TCPTahoeRenoFamily :=
  if !alg.rexmitTimer then alg.startRexmitTimer else alg

/-- The connection after `sendData`, and whether anything was sent. -/
def afterSendData (alg : TCPTahoeRenoFamily) (sent : Bool × SendSide) : TCPTahoeRenoFamily :=
  if sent.1 then dataSent { alg with conn := sent.2 } else { alg with conn := sent.2 }

def sendData (alg : TCPTahoeRenoFamily) : Except Failure TCPTahoeRenoFamily := do
  let fullSegmentsOnly := alg.nagle_enabled && alg.conn.snd_una != alg.conn.snd_max
  let sent ← alg.conn.sendData fullSegmentsOnly (int alg.snd_cwnd)
  .ok (alg.afterSendData sent)

def retransmitOneSegment (alg : TCPTahoeRenoFamily) : Except Failure TCPTahoeRenoFamily := do
  let conn ← alg.conn.retransmitOneSegment
  .ok { alg with conn }

def retransmitData (alg : TCPTahoeRenoFamily) : Except Failure TCPTahoeRenoFamily := do
  let conn ← alg.conn.retransmitData
  .ok { alg with conn }

def recalculateSlowStartThreshold (alg : TCPTahoeRenoFamily) : TCPTahoeRenoFamily :=
  let flight_size := min alg.snd_cwnd alg.conn.snd_wnd
  { alg with ssthresh := max (flight_size / 2) (uint (2 * alg.conn.snd_mss)) }

/-- `TCPBaseAlg::processRexmitTimer`, where the timer has just expired. -/
def baseProcessRexmitTimer (alg : TCPTahoeRenoFamily) : TCPTahoeRenoFamily :=
  let count := alg.rexmit_count + 1
  if count > MAX_REXMIT_COUNT then
    { alg with rexmit_count := count, rexmitTimer := false, aborted := true }
  else { alg with rexmit_count := count, rexmitTimer := true }

/-- The window after a timeout, or after the third duplicate in Tahoe. -/
def beginSlowStart (alg : TCPTahoeRenoFamily) : TCPTahoeRenoFamily :=
  { alg.recalculateSlowStartThreshold with snd_cwnd := alg.conn.snd_mss }

/-- The flavours differ in how much they send again. -/
def processRexmitTimer (alg : TCPTahoeRenoFamily) : Except Failure TCPTahoeRenoFamily :=
  let alg := alg.baseProcessRexmitTimer
  if alg.aborted then .ok alg
  else
    match alg.flavour with
    | .tahoe => alg.beginSlowStart.retransmitOneSegment
    | .reno => alg.beginSlowStart.retransmitData

/-- `TCPBaseAlg::receivedDataAck`, less the round-trip times. -/
def baseReceivedDataAck (alg : TCPTahoeRenoFamily) : TCPTahoeRenoFamily :=
  if alg.conn.snd_una = alg.conn.snd_max then { alg with rexmitTimer := false }
  else alg.startRexmitTimer

/-- Slow start and congestion avoidance. -/
def openWindow (alg : TCPTahoeRenoFamily) : TCPTahoeRenoFamily :=
  if alg.snd_cwnd < alg.ssthresh then
    { alg with snd_cwnd := uint (alg.snd_cwnd + alg.conn.snd_mss) }
  else
    let incr := uint (alg.conn.snd_mss * alg.conn.snd_mss) / alg.snd_cwnd
    let incr := if incr = 0 then 1 else incr
    { alg with snd_cwnd := uint (alg.snd_cwnd + incr) }

/-- The window after an ack of new data. -/
def adaptWindow (alg : TCPTahoeRenoFamily) : TCPTahoeRenoFamily :=
  match alg.flavour with
  | .tahoe => alg.openWindow
  | .reno =>
    if dupacks alg.conn ≥ 3 then { alg with snd_cwnd := alg.ssthresh } else alg.openWindow

def receivedDataAck (alg : TCPTahoeRenoFamily) : Except Failure TCPTahoeRenoFamily :=
  alg.baseReceivedDataAck.adaptWindow.sendData

/-- The window of Reno in fast recovery. -/
def beginFastRecovery (alg : TCPTahoeRenoFamily) : TCPTahoeRenoFamily :=
  let alg := alg.recalculateSlowStartThreshold
  { alg with snd_cwnd := uint (alg.ssthresh + 3 * alg.conn.snd_mss) }

/-- The window of Reno after a further duplicate ack. -/
def inflateWindow (alg : TCPTahoeRenoFamily) : TCPTahoeRenoFamily :=
  { alg with snd_cwnd := uint (alg.snd_cwnd + alg.conn.snd_mss) }

def receivedDuplicateAck (alg : TCPTahoeRenoFamily) : Except Failure TCPTahoeRenoFamily :=
  match alg.flavour with
  | .tahoe =>
    if dupacks alg.conn = 3 then do
      let alg ← alg.retransmitOneSegment
      .ok alg.beginSlowStart.startRexmitTimer
    else .ok alg
  | .reno =>
    if dupacks alg.conn = 3 then do
      let alg ← alg.retransmitOneSegment
      .ok alg.beginFastRecovery.startRexmitTimer
    else if dupacks alg.conn > 3 then alg.inflateWindow.sendData
    else .ok alg

/-- The counter is set back. -/
def resetDupacks (alg : TCPTahoeRenoFamily) : TCPTahoeRenoFamily :=
  { alg with conn := { alg.conn with dupacks := 0 } }

/-- What follows the sequence numbers in `processAckInEstabEtc`. -/
def notify (alg : TCPTahoeRenoFamily) : AckKind → Except Failure TCPTahoeRenoFamily
  | .duplicate => alg.receivedDuplicateAck
  | .old => .ok alg
  | .inWindow => do
      let alg ← alg.receivedDataAck
      .ok alg.resetDupacks
  | .notYetSent => .ok alg.resetDupacks

def processAckInEstabEtc (alg : TCPTahoeRenoFamily)
    (tcpseg : Acknowledgement) : Except Failure TCPTahoeRenoFamily := do
  let acknowledged ← alg.conn.acknowledge tcpseg
  notify { alg with conn := acknowledged.2 } acknowledged.1

def process_SEND (alg : TCPTahoeRenoFamily) (byteLength : Nat) :
    Except Failure TCPTahoeRenoFamily :=
  sendData
    { alg with
      conn :=
        { alg.conn with
          sendQueue := alg.conn.sendQueue.enqueueAppData byteLength } }

end TCPTahoeRenoFamily

/-! ## Runs -/

inductive Event where
  | segment (tcpseg : Acknowledgement)
  | rexmitTimer
  | send (byteLength : Nat)
  | close

def serve (alg : TCPTahoeRenoFamily) : Event → Except Failure TCPTahoeRenoFamily
  | .segment tcpseg => alg.processAckInEstabEtc tcpseg
  | .rexmitTimer => alg.processRexmitTimer
  | .send byteLength => alg.process_SEND byteLength
  | .close => .ok { alg with conn := alg.conn.process_CLOSE.2 }

/-- What an event means for the window. -/
inductive Happening where
  | newData
  | thirdDuplicate
  | furtherDuplicate
  /-- The counter of duplicate acks is set back without new data. -/
  | reset
  | timeout
  | other
deriving DecidableEq

def ofDuplicates (count : Int) : Happening :=
  if count = 3 then .thirdDuplicate
  else if count > 3 then .furtherDuplicate
  else .other

/-- The meaning of an ack, with the connection that has taken it in. -/
def ofAck : AckKind × SendSide → Happening
  | (.duplicate, conn) => ofDuplicates (dupacks conn)
  | (.old, _) => .reset
  | (.inWindow, _) => .newData
  | (.notYetSent, _) => .reset

def happening (alg : TCPTahoeRenoFamily) : Event → Happening
  | .segment tcpseg =>
    match alg.conn.acknowledge tcpseg with
    | .ok acknowledged => ofAck acknowledged
    | .error _ => .other
  | .rexmitTimer => if alg.rexmit_count + 1 > MAX_REXMIT_COUNT then .other else .timeout
  | .send _ => .other
  | .close => .other

/-- The connection and what has happened to it. -/
structure World where
  alg : TCPTahoeRenoFamily
  /-- Reno is in fast recovery. -/
  recovering : Bool := false
  /-- The last loss event was a timeout. -/
  timedOut : Bool := false
  /-- There was a loss event. -/
  lost : Bool := false
deriving DecidableEq

/-- The history after an event. -/
def World.record (world : World) (alg : TCPTahoeRenoFamily) : Happening → World
  | .newData => { world with alg, recovering := false }
  | .thirdDuplicate =>
    { alg, recovering := world.alg.flavour = .reno, timedOut := false, lost := true }
  | .furtherDuplicate => { world with alg }
  | .reset => { world with alg, recovering := false }
  | .timeout => { alg, recovering := false, timedOut := true, lost := true }
  | .other => { world with alg }

/-- A timer expires only when it is scheduled. -/
def Enabled (alg : TCPTahoeRenoFamily) : Event → Prop
  | .rexmitTimer => alg.aborted = false ∧ alg.rexmitTimer = true
  | _ => alg.aborted = false

def Step (world : World) (event : Event) (next : World) : Prop :=
  Enabled world.alg event ∧
    ∃ alg, serve world.alg event = .ok alg ∧ next = world.record alg (happening world.alg event)

/-- The connection has just been established. -/
structure Established (world : World) : Prop where
  mss : 1 ≤ world.alg.conn.snd_mss
  square : world.alg.conn.snd_mss * world.alg.conn.snd_mss < 2 ^ 31
  cwnd : world.alg.snd_cwnd = world.alg.conn.snd_mss
  ssthresh : world.alg.ssthresh = 65535
  dupacks : world.alg.conn.dupacks = 0
  recovering : world.recovering = false
  timedOut : world.timedOut = false
  lost : world.lost = false

/-- The windows fit. -/
def Bounded (world : World) (_event : Event) : Prop :=
  world.alg.snd_cwnd < 2 ^ 31 ∧ world.alg.conn.snd_wnd < 2 ^ 31

/-- What an event may do to the window. -/
structure Fair (world : World) (event : Event) (next : World) : Prop where
  /-- The window is a segment at least. -/
  segment : next.alg.conn.snd_mss ≤ next.alg.snd_cwnd
  threshold : next.lost = true → 2 * next.alg.conn.snd_mss ≤ next.alg.ssthresh
  /-- New data raises the window unless it ends a fast recovery. -/
  raise : happening world.alg event = .newData → world.recovering = false →
    world.alg.snd_cwnd + 1 ≤ next.alg.snd_cwnd ∧
      next.alg.snd_cwnd ≤ world.alg.snd_cwnd + world.alg.conn.snd_mss
  restart : happening world.alg event = .timeout → next.alg.snd_cwnd = world.alg.conn.snd_mss
  /-- After a timeout only new data raises it, by a segment at most. -/
  slow : world.timedOut = true → happening world.alg event ≠ .timeout →
    happening world.alg event ≠ .thirdDuplicate →
      (happening world.alg event = .newData →
        next.alg.snd_cwnd ≤ world.alg.snd_cwnd + world.alg.conn.snd_mss) ∧
      (happening world.alg event ≠ .newData → next.alg.snd_cwnd ≤ world.alg.snd_cwnd)

/--
Reno does not take the duplicate acks from before a timeout for a fast
recovery: none is counted after it beyond the third, and when new data is
acked, the threshold is no more than a segment above the window.
-/
def NotMistaken (world : World) (event : Event) : Prop :=
  world.alg.flavour = .reno →
    (happening world.alg event = .furtherDuplicate → world.timedOut = false) ∧
    (happening world.alg event = .newData →
      dupacks world.alg.conn ≥ 3 → world.recovering = false →
        world.alg.snd_cwnd + 1 ≤ world.alg.ssthresh ∧
          world.alg.ssthresh ≤ world.alg.snd_cwnd + world.alg.conn.snd_mss)

/-! ## What an event does to the windows -/

/-- What sending and the timer leave alone. -/
structure Kept (alg next : TCPTahoeRenoFamily) : Prop where
  flavour : next.flavour = alg.flavour
  snd_mss : next.conn.snd_mss = alg.conn.snd_mss
  dupacks : next.conn.dupacks = alg.conn.dupacks
  snd_cwnd : next.snd_cwnd = alg.snd_cwnd
  ssthresh : next.ssthresh = alg.ssthresh

variable {conn : SendSide}

section Effects

variable {alg : TCPTahoeRenoFamily}

theorem sendData_kept (sent : alg.sendData = .ok next) : Kept alg next := by
  rcases bind_eq_ok.mp sent with ⟨⟨_, _⟩, done, rest⟩
  cases rest
  rcases SendSide.sendData_frame done with ⟨_, _, _, rfl, _⟩
  unfold TCPTahoeRenoFamily.afterSendData
  split
  · unfold TCPTahoeRenoFamily.dataSent
    split
    all_goals exact ⟨rfl, rfl, rfl, rfl, rfl⟩
  · exact ⟨rfl, rfl, rfl, rfl, rfl⟩

theorem retransmitOneSegment_kept (sent : alg.retransmitOneSegment = .ok next) : Kept alg next := by
  rcases bind_eq_ok.mp sent with ⟨_, done, rest⟩
  cases rest
  rcases SendSide.retransmitOneSegment_frame done with ⟨_, _, rfl⟩
  exact ⟨rfl, rfl, rfl, rfl, rfl⟩

theorem retransmitData_kept (sent : alg.retransmitData = .ok next) : Kept alg next := by
  rcases bind_eq_ok.mp sent with ⟨_, done, rest⟩
  cases rest
  rcases SendSide.retransmitData_frame done with ⟨_, _, rfl⟩
  exact ⟨rfl, rfl, rfl, rfl, rfl⟩

/-- The counter after an ack. -/
def countAfter (kind : AckKind) (count : Nat) : Nat :=
  match kind with
  | .duplicate => count + 1
  | .old => 0
  | .inWindow => count
  | .notYetSent => count

theorem acknowledge_counts (success : conn.acknowledge tcpseg = .ok (kind, after)) :
    after.snd_mss = conn.snd_mss ∧ after.dupacks = countAfter kind conn.dupacks := by
  unfold SendSide.acknowledge at success
  split_ifs at success
  · cases success
    exact ⟨rfl, rfl⟩
  · cases success
    exact ⟨rfl, rfl⟩
  · rcases bind_eq_ok.mp success with ⟨_, _, rest⟩
    cases rest
    rcases SendSide.updateWindow_eq _ _ with ⟨_, _, _, same⟩
    rw [same]
    exact ⟨rfl, rfl⟩
  · cases success
    exact ⟨rfl, rfl⟩

/-- The threshold that a loss event sets, for some flight size. -/
def IsThreshold (alg : TCPTahoeRenoFamily) (ssthresh : Nat) : Prop :=
  ∃ wnd, ssthresh = max (min alg.snd_cwnd wnd / 2) (uint (2 * alg.conn.snd_mss))

/-- The window of Reno and Tahoe after the third duplicate ack. -/
def cwndAfterThird (alg : TCPTahoeRenoFamily) (ssthresh : Nat) : Nat :=
  match alg.flavour with
  | .tahoe => alg.conn.snd_mss
  | .reno => uint (ssthresh + 3 * alg.conn.snd_mss)

def cwndAfterFurther (alg : TCPTahoeRenoFamily) : Nat :=
  match alg.flavour with
  | .tahoe => alg.snd_cwnd
  | .reno => uint (alg.snd_cwnd + alg.conn.snd_mss)

/-- The windows and the counter after an event. -/
inductive Effect (alg next : TCPTahoeRenoFamily) : Happening → Prop where
  | newData (cwnd : next.snd_cwnd = alg.adaptWindow.snd_cwnd)
      (ssthresh : next.ssthresh = alg.ssthresh)
      (count : next.conn.dupacks = 0) : Effect alg next .newData
  | thirdDuplicate (threshold : IsThreshold alg next.ssthresh)
      (cwnd : next.snd_cwnd = cwndAfterThird alg next.ssthresh) : Effect alg next .thirdDuplicate
  | furtherDuplicate (cwnd : next.snd_cwnd = cwndAfterFurther alg)
      (ssthresh : next.ssthresh = alg.ssthresh) (count : next.conn.dupacks = alg.conn.dupacks + 1)
      (further : dupacks next.conn > 3) : Effect alg next .furtherDuplicate
  | reset (cwnd : next.snd_cwnd = alg.snd_cwnd) (ssthresh : next.ssthresh = alg.ssthresh)
      (count : next.conn.dupacks = 0) : Effect alg next .reset
  | timeout (threshold : IsThreshold alg next.ssthresh)
      (cwnd : next.snd_cwnd = alg.conn.snd_mss) : Effect alg next .timeout
  | other (cwnd : next.snd_cwnd = alg.snd_cwnd) (ssthresh : next.ssthresh = alg.ssthresh)
      (count : next.conn.dupacks = alg.conn.dupacks ∨ dupacks next.conn < 3) :
      Effect alg next .other

/-- What an event never changes, and what it does to the windows. -/
structure Serves (alg next : TCPTahoeRenoFamily) (happening : Happening) : Prop where
  flavour : next.flavour = alg.flavour
  snd_mss : next.conn.snd_mss = alg.conn.snd_mss
  effect : Effect alg next happening

theorem receivedDuplicateAck_serves (mss : conn.snd_mss = alg.conn.snd_mss)
    (count : conn.dupacks = alg.conn.dupacks + 1)
    (received : ({ alg with conn } : TCPTahoeRenoFamily).receivedDuplicateAck = .ok next) :
    Serves alg next (ofDuplicates (dupacks conn)) := by
  unfold TCPTahoeRenoFamily.receivedDuplicateAck at received
  unfold ofDuplicates
  dsimp only at received
  split at received
  case h_1 flavour =>
    split at received
    case isTrue third =>
      rw [if_pos third]
      rcases bind_eq_ok.mp received with ⟨middle, sent, rest⟩
      cases rest
      have kept := retransmitOneSegment_kept sent
      refine ⟨kept.flavour, kept.snd_mss.trans mss, ?_⟩
      refine .thirdDuplicate ⟨middle.conn.snd_wnd, ?_⟩ ?_
      · have cwnd := kept.snd_cwnd
        have segment := kept.snd_mss.trans mss
        dsimp only [TCPTahoeRenoFamily.beginSlowStart, TCPTahoeRenoFamily.startRexmitTimer,
          TCPTahoeRenoFamily.recalculateSlowStartThreshold]
        rw [cwnd, segment]
      · rw [cwndAfterThird, flavour]
        exact kept.snd_mss.trans mss
    case isFalse notThird =>
      cases received
      rw [if_neg notThird]
      split
      case isTrue further =>
        refine ⟨rfl, mss, .furtherDuplicate ?_ rfl count further⟩
        rw [cwndAfterFurther, flavour]
      case isFalse notFurther =>
        refine ⟨rfl, mss, .other rfl rfl (.inr ?_)⟩
        dsimp only
        omega
  case h_2 flavour =>
    split at received
    case isTrue third =>
      rw [if_pos third]
      rcases bind_eq_ok.mp received with ⟨middle, sent, rest⟩
      cases rest
      have kept := retransmitOneSegment_kept sent
      have segment := kept.snd_mss.trans mss
      refine ⟨kept.flavour, segment, ?_⟩
      refine .thirdDuplicate ⟨middle.conn.snd_wnd, ?_⟩ ?_
      · have cwnd := kept.snd_cwnd
        dsimp only [TCPTahoeRenoFamily.beginFastRecovery, TCPTahoeRenoFamily.startRexmitTimer,
          TCPTahoeRenoFamily.recalculateSlowStartThreshold]
        rw [cwnd, segment]
      · rw [cwndAfterThird, flavour]
        dsimp only [TCPTahoeRenoFamily.beginFastRecovery, TCPTahoeRenoFamily.startRexmitTimer,
          TCPTahoeRenoFamily.recalculateSlowStartThreshold]
        rw [segment]
    case isFalse notThird =>
      rw [if_neg notThird]
      split at received
      case isTrue further =>
        rw [if_pos further]
        have kept := sendData_kept received
        refine ⟨kept.flavour, kept.snd_mss.trans mss, ?_⟩
        have counter : next.conn.dupacks = alg.conn.dupacks + 1 := kept.dupacks.trans count
        refine .furtherDuplicate ?_ kept.ssthresh counter ?_
        · rw [cwndAfterFurther, flavour, kept.snd_cwnd]
          dsimp only [TCPTahoeRenoFamily.inflateWindow]
          rw [mss]
        · have same : next.conn.dupacks = conn.dupacks := kept.dupacks
          unfold dupacks at further ⊢
          rwa [same]
      case isFalse notFurther =>
        rw [if_neg notFurther]
        cases received
        refine ⟨rfl, mss, .other rfl rfl (.inr ?_)⟩
        dsimp only
        omega

theorem openWindow_frame (alg : TCPTahoeRenoFamily) :
    ∃ cwnd, alg.openWindow = { alg with snd_cwnd := cwnd } := by
  unfold TCPTahoeRenoFamily.openWindow
  split
  all_goals exact ⟨_, rfl⟩

theorem adaptWindow_frame (alg : TCPTahoeRenoFamily) :
    ∃ cwnd, alg.adaptWindow = { alg with snd_cwnd := cwnd } := by
  unfold TCPTahoeRenoFamily.adaptWindow
  split
  · exact openWindow_frame _
  · split
    · exact ⟨_, rfl⟩
    · exact openWindow_frame _

theorem adaptWindow_base (alg : TCPTahoeRenoFamily) :
    alg.baseReceivedDataAck.adaptWindow.snd_cwnd = alg.adaptWindow.snd_cwnd := by
  have opened : ∀ count timer,
      ({ alg with rexmit_count := count, rexmitTimer := timer } :
        TCPTahoeRenoFamily).openWindow.snd_cwnd = alg.openWindow.snd_cwnd := by
    intro _ _
    dsimp only [TCPTahoeRenoFamily.openWindow]
    split
    all_goals rfl
  have adapted : ∀ count timer,
      ({ alg with rexmit_count := count, rexmitTimer := timer } :
        TCPTahoeRenoFamily).adaptWindow.snd_cwnd = alg.adaptWindow.snd_cwnd := by
    intro _ _
    dsimp only [TCPTahoeRenoFamily.adaptWindow]
    split
    · exact opened _ _
    · split
      · rfl
      · exact opened _ _
  unfold TCPTahoeRenoFamily.baseReceivedDataAck
  split
  · exact adapted alg.rexmit_count _
  · exact adapted 0 _

theorem adaptWindow_conn (mss : conn.snd_mss = alg.conn.snd_mss)
    (count : conn.dupacks = alg.conn.dupacks) :
    ({ alg with conn } : TCPTahoeRenoFamily).adaptWindow.snd_cwnd = alg.adaptWindow.snd_cwnd := by
  have opened :
      ({ alg with conn } : TCPTahoeRenoFamily).openWindow.snd_cwnd = alg.openWindow.snd_cwnd := by
    dsimp only [TCPTahoeRenoFamily.openWindow]
    rw [mss]
    split
    all_goals rfl
  unfold TCPTahoeRenoFamily.adaptWindow dupacks
  dsimp only
  rw [count]
  split
  · exact opened
  · split
    · rfl
    · exact opened

theorem receivedDataAck_serves
    (mss : conn.snd_mss = alg.conn.snd_mss) (count : conn.dupacks = alg.conn.dupacks)
    (received : ({ alg with conn } : TCPTahoeRenoFamily).receivedDataAck = .ok middle) :
    Serves alg middle.resetDupacks .newData := by
  have kept := sendData_kept received
  generalize told : ({ alg with conn } : TCPTahoeRenoFamily) = start at received kept
  have base : Kept start start.baseReceivedDataAck := by
    unfold TCPTahoeRenoFamily.baseReceivedDataAck
    split
    all_goals exact ⟨rfl, rfl, rfl, rfl, rfl⟩
  have window := adaptWindow_base start
  rcases adaptWindow_frame start.baseReceivedDataAck with ⟨_, adapted⟩
  rw [adapted] at kept window
  have sameFlavour := kept.flavour.trans base.flavour
  have sameMss := kept.snd_mss.trans base.snd_mss
  have sameThreshold := kept.ssthresh.trans base.ssthresh
  rw [← told] at sameFlavour sameMss sameThreshold
  refine ⟨sameFlavour, sameMss.trans mss, ?_⟩
  refine .newData ?_ sameThreshold rfl
  have sameWindow : middle.snd_cwnd = start.adaptWindow.snd_cwnd := kept.snd_cwnd.trans window
  rwa [← told, adaptWindow_conn mss count] at sameWindow

theorem processRexmitTimer_serves (alive : alg.aborted = false)
    (processed : alg.processRexmitTimer = .ok next) :
    Serves alg next (happening alg .rexmitTimer) := by
  unfold TCPTahoeRenoFamily.processRexmitTimer
    TCPTahoeRenoFamily.baseProcessRexmitTimer at processed
  unfold happening
  dsimp only at processed ⊢
  split at processed
  case isTrue tooMany =>
    rw [if_pos tooMany]
    cases processed
    exact ⟨rfl, rfl, .other rfl rfl (.inl rfl)⟩
  case isFalse few =>
    rw [if_neg few]
    split at processed
    case isTrue aborted =>
      rw [alive] at aborted
      cases aborted
    case isFalse =>
      split at processed
      case h_1 =>
        have kept := retransmitOneSegment_kept processed
        exact ⟨kept.flavour, kept.snd_mss, .timeout ⟨alg.conn.snd_wnd, kept.ssthresh⟩ kept.snd_cwnd⟩
      case h_2 =>
        have kept := retransmitData_kept processed
        exact ⟨kept.flavour, kept.snd_mss, .timeout ⟨alg.conn.snd_wnd, kept.ssthresh⟩ kept.snd_cwnd⟩

theorem serve_serves (enabled : Enabled alg event)
    (served : serve alg event = .ok next) : Serves alg next (happening alg event) := by
  cases event with
  | segment _ =>
    unfold serve TCPTahoeRenoFamily.processAckInEstabEtc at served
    rcases bind_eq_ok.mp served with ⟨⟨kind, _⟩, taken, notified⟩
    rcases acknowledge_counts taken with ⟨mss, count⟩
    dsimp only [happening]
    rw [taken]
    cases kind with
    | duplicate => exact receivedDuplicateAck_serves mss count notified
    | old =>
      cases notified
      exact ⟨rfl, mss, .reset rfl rfl count⟩
    | inWindow =>
      rcases bind_eq_ok.mp notified with ⟨_, received, rest⟩
      cases rest
      exact receivedDataAck_serves mss count received
    | notYetSent =>
      cases notified
      exact ⟨rfl, mss, .reset rfl rfl rfl⟩
  | rexmitTimer => exact processRexmitTimer_serves enabled.1 served
  | send _ =>
    have kept := sendData_kept served
    exact ⟨kept.flavour, kept.snd_mss, .other kept.snd_cwnd kept.ssthresh (.inl kept.dupacks)⟩
  | close =>
    cases served
    dsimp only [SendSide.process_CLOSE]
    split
    all_goals exact ⟨rfl, rfl, .other rfl rfl (.inl rfl)⟩

end Effects

/-! ## The windows along a run -/

/-- What holds of every state, whatever the order of the events. -/
structure Sound (world : World) : Prop where
  mss : 1 ≤ world.alg.conn.snd_mss
  square : world.alg.conn.snd_mss * world.alg.conn.snd_mss < 2 ^ 31
  segment : world.alg.conn.snd_mss ≤ world.alg.snd_cwnd
  threshold : world.lost = true → 2 * world.alg.conn.snd_mss ≤ world.alg.ssthresh
  /-- The third duplicate ack was a loss event. -/
  counted : dupacks world.alg.conn ≥ 3 → world.lost = true
  apart : world.timedOut = true → world.recovering = false

theorem mss_lt (square : mss * mss < 2 ^ 31) : mss < 2 ^ 16 := by
  by_contra large
  have most : 2 ^ 16 * 2 ^ 16 ≤ mss * mss := Nat.mul_le_mul (not_lt.mp large) (not_lt.mp large)
  omega

theorem uint_eq (small : value < 2 ^ 32) : uint value = value :=
  Nat.mod_eq_of_lt small

theorem dupacks_succ (count : after.dupacks = conn.dupacks + 1) (further : dupacks after > 3) :
    dupacks conn ≥ 3 := by
  unfold dupacks at further ⊢
  rw [count] at further
  rw [BitVec.toInt_eq_toNat_bmod, BitVec.toNat_ofNat] at further ⊢
  dsimp only [Int.bmod] at further ⊢
  split at further
  all_goals
    split
    · omega
    · omega

theorem dupacks_of_eq (count : after.dupacks = conn.dupacks) : dupacks after = dupacks conn := by
  unfold dupacks
  rw [count]

theorem dupacks_zero (count : conn.dupacks = 0) : dupacks conn < 3 := by
  rw [dupacks, count]
  decide

section Steps

variable {alg : TCPTahoeRenoFamily}

/-- The increase of the window in slow start and congestion avoidance. -/
theorem openWindow_spec (mss : 1 ≤ alg.conn.snd_mss)
    (square : alg.conn.snd_mss * alg.conn.snd_mss < 2 ^ 31)
    (segment : alg.conn.snd_mss ≤ alg.snd_cwnd) (bounded : alg.snd_cwnd < 2 ^ 31) :
    alg.snd_cwnd + 1 ≤ alg.openWindow.snd_cwnd ∧
      alg.openWindow.snd_cwnd ≤ alg.snd_cwnd + alg.conn.snd_mss := by
  unfold TCPTahoeRenoFamily.openWindow
  split
  · dsimp only
    rw [uint_eq (by omega)]
    omega
  · dsimp only
    rw [uint_eq (by omega : alg.conn.snd_mss * alg.conn.snd_mss < 2 ^ 32)]
    have quotient : alg.conn.snd_mss * alg.conn.snd_mss / alg.snd_cwnd ≤ alg.conn.snd_mss := by
      apply Nat.div_le_of_le_mul
      exact Nat.mul_le_mul_right _ segment
    generalize alg.conn.snd_mss * alg.conn.snd_mss / alg.snd_cwnd = incr at quotient ⊢
    split
    all_goals
      rw [uint_eq (by omega)]
      omega

theorem IsThreshold.le (square : alg.conn.snd_mss * alg.conn.snd_mss < 2 ^ 31)
    (threshold : IsThreshold alg ssthresh) : 2 * alg.conn.snd_mss ≤ ssthresh := by
  have small := mss_lt square
  rcases threshold with ⟨_, rfl⟩
  rw [uint_eq (by omega)]
  exact Nat.le_max_right _ _

theorem IsThreshold.lt (square : alg.conn.snd_mss * alg.conn.snd_mss < 2 ^ 31)
    (bounded : alg.snd_cwnd < 2 ^ 31) (threshold : IsThreshold alg ssthresh) :
    ssthresh < 2 ^ 31 := by
  have small := mss_lt square
  rcases threshold with ⟨wnd, rfl⟩
  rw [uint_eq (by omega)]
  have flight : min alg.snd_cwnd wnd ≤ alg.snd_cwnd := Nat.min_le_left _ _
  omega

theorem adaptWindow_cwnd (alg : TCPTahoeRenoFamily) :
    (alg.flavour = .reno ∧ dupacks alg.conn ≥ 3 ∧ alg.adaptWindow.snd_cwnd = alg.ssthresh) ∨
      (¬(alg.flavour = .reno ∧ dupacks alg.conn ≥ 3) ∧
        alg.adaptWindow.snd_cwnd = alg.openWindow.snd_cwnd) := by
  unfold TCPTahoeRenoFamily.adaptWindow
  split
  case h_1 tahoe =>
    refine .inr ⟨?_, rfl⟩
    rintro ⟨reno, _⟩
    rw [tahoe] at reno
    cases reno
  case h_2 reno =>
    split
    case isTrue many => exact .inl ⟨reno, many, rfl⟩
    case isFalse few => exact .inr ⟨fun both => few both.2, rfl⟩

theorem cwndAfterThird_ge (square : alg.conn.snd_mss * alg.conn.snd_mss < 2 ^ 31)
    (bounded : ssthresh < 2 ^ 31) : alg.conn.snd_mss ≤ cwndAfterThird alg ssthresh := by
  have small := mss_lt square
  unfold cwndAfterThird
  split
  · exact Nat.le_refl _
  · rw [uint_eq (by omega)]
    omega

theorem cwndAfterFurther_ge (square : alg.conn.snd_mss * alg.conn.snd_mss < 2 ^ 31)
    (segment : alg.conn.snd_mss ≤ alg.snd_cwnd) (bounded : alg.snd_cwnd < 2 ^ 31) :
    alg.conn.snd_mss ≤ cwndAfterFurther alg := by
  unfold cwndAfterFurther
  split
  · exact segment
  · rw [uint_eq (by omega)]
    omega

/-- The window stays a segment at least, and so on, under every event. -/
theorem sound_step (sound : Sound world) (bounded : Bounded world event)
    (taken : Step world event next) : Sound next := by
  rcases taken with ⟨enabled, alg, served, rfl⟩
  rcases serve_serves enabled served with ⟨_, mss, effect⟩
  have square := sound.square
  have one := sound.mss
  rw [← mss] at square one
  generalize happening world.alg event = happens at effect ⊢
  cases effect with
  | newData cwnd ssthresh count =>
    refine ⟨one, square, ?_, ?_, ?_, fun _ => rfl⟩
    · show alg.conn.snd_mss ≤ alg.snd_cwnd
      rw [cwnd, mss]
      rcases adaptWindow_cwnd world.alg with ⟨_, many, same⟩ | ⟨_, same⟩
      · have threshold := sound.threshold (sound.counted many)
        omega
      · have raised := openWindow_spec sound.mss sound.square sound.segment bounded.1
        have segment := sound.segment
        omega
    · intro lost
      show 2 * alg.conn.snd_mss ≤ alg.ssthresh
      rw [mss, ssthresh]
      exact sound.threshold lost
    · intro many
      exact absurd many (not_le.mpr (dupacks_zero count))
  | thirdDuplicate threshold cwnd =>
    refine ⟨one, square, ?_, fun _ => ?_, fun _ => rfl, nofun⟩
    · show alg.conn.snd_mss ≤ alg.snd_cwnd
      rw [cwnd, mss]
      exact cwndAfterThird_ge sound.square (threshold.lt sound.square bounded.1)
    · show 2 * alg.conn.snd_mss ≤ alg.ssthresh
      rw [mss]
      exact threshold.le sound.square
  | furtherDuplicate cwnd ssthresh count further =>
    refine ⟨one, square, ?_, ?_, fun _ => ?_, sound.apart⟩
    · show alg.conn.snd_mss ≤ alg.snd_cwnd
      rw [cwnd, mss]
      exact cwndAfterFurther_ge sound.square sound.segment bounded.1
    · intro lost
      show 2 * alg.conn.snd_mss ≤ alg.ssthresh
      rw [mss, ssthresh]
      exact sound.threshold lost
    · exact sound.counted (dupacks_succ count further)
  | reset cwnd ssthresh count =>
    refine ⟨one, square, ?_, ?_, ?_, fun _ => rfl⟩
    · show alg.conn.snd_mss ≤ alg.snd_cwnd
      rw [cwnd, mss]
      exact sound.segment
    · intro lost
      show 2 * alg.conn.snd_mss ≤ alg.ssthresh
      rw [mss, ssthresh]
      exact sound.threshold lost
    · intro many
      exact absurd many (not_le.mpr (dupacks_zero count))
  | timeout threshold cwnd =>
    refine ⟨one, square, ?_, fun _ => ?_, fun _ => rfl, fun _ => rfl⟩
    · show alg.conn.snd_mss ≤ alg.snd_cwnd
      rw [cwnd, mss]
    · show 2 * alg.conn.snd_mss ≤ alg.ssthresh
      rw [mss]
      exact threshold.le sound.square
  | other cwnd ssthresh count =>
    refine ⟨one, square, ?_, ?_, ?_, sound.apart⟩
    · show alg.conn.snd_mss ≤ alg.snd_cwnd
      rw [cwnd, mss]
      exact sound.segment
    · intro lost
      show 2 * alg.conn.snd_mss ≤ alg.ssthresh
      rw [mss, ssthresh]
      exact sound.threshold lost
    · intro many
      change dupacks alg.conn ≥ 3 at many
      rcases count with same | few
      · rw [dupacks_of_eq same] at many
        exact sound.counted many
      · exact absurd many (not_le.mpr few)

theorem fair_of_sound (after : Sound next)
    (raise : happening world.alg event = .newData →
      world.recovering = false →
        world.alg.snd_cwnd + 1 ≤ next.alg.snd_cwnd ∧
          next.alg.snd_cwnd ≤ world.alg.snd_cwnd + world.alg.conn.snd_mss)
    (restart : happening world.alg event = .timeout → next.alg.snd_cwnd = world.alg.conn.snd_mss)
    (slow : world.timedOut = true → happening world.alg event ≠ .timeout →
      happening world.alg event ≠ .thirdDuplicate →
        (happening world.alg event = .newData →
          next.alg.snd_cwnd ≤ world.alg.snd_cwnd + world.alg.conn.snd_mss) ∧
        (happening world.alg event ≠ .newData → next.alg.snd_cwnd ≤ world.alg.snd_cwnd)) :
    Fair world event next :=
  ⟨after.segment, after.threshold, raise, restart, slow⟩

theorem fair_iff (sound : Sound world) (bounded : Bounded world event)
    (taken : Step world event next) : Fair world event next ↔ NotMistaken world event := by
  have after := sound_step sound bounded taken
  rcases taken with ⟨enabled, alg, served, rfl⟩
  rcases serve_serves enabled served with ⟨_, _, effect⟩
  have one := sound.mss
  constructor
  · intro fair reno
    constructor
    · intro further
      rw [further] at effect
      cases timed : world.timedOut with
      | false => rfl
      | true =>
        have slow := (fair.slow timed (by rw [further]; nofun)
          (by rw [further]; nofun)).2 (by rw [further]; nofun)
        rw [further] at slow
        cases effect with
        | furtherDuplicate cwnd =>
          have small := mss_lt sound.square
          have inside := bounded.1
          change alg.snd_cwnd ≤ world.alg.snd_cwnd at slow
          rw [cwnd, cwndAfterFurther, reno] at slow
          dsimp only at slow
          rw [uint_eq (by omega)] at slow
          omega
    · intro new many still
      have raise := fair.raise new still
      rw [new] at effect raise
      cases effect with
      | newData cwnd =>
        change world.alg.snd_cwnd + 1 ≤ alg.snd_cwnd ∧ alg.snd_cwnd ≤ _ at raise
        rw [cwnd] at raise
        rcases adaptWindow_cwnd world.alg with ⟨_, _, same⟩ | ⟨other, _⟩
        · rwa [same] at raise
        · exact absurd ⟨reno, many⟩ other
  · intro notMistaken
    apply fair_of_sound after
    · intro new still
      rw [new] at effect ⊢
      cases effect with
      | newData cwnd =>
        change world.alg.snd_cwnd + 1 ≤ alg.snd_cwnd ∧ alg.snd_cwnd ≤ _
        rw [cwnd]
        rcases adaptWindow_cwnd world.alg with ⟨reno, many, same⟩ | ⟨_, same⟩
        · rw [same]
          exact (notMistaken reno).2 new many still
        · rw [same]
          exact openWindow_spec sound.mss sound.square sound.segment bounded.1
    · intro timeout
      rw [timeout] at effect ⊢
      cases effect with
      | timeout _ cwnd => exact cwnd
    · intro timed notTimeout notThird
      generalize happens : happening world.alg event = kind at effect notTimeout notThird ⊢
      cases effect with
      | newData cwnd =>
        refine ⟨fun _ => ?_, fun other => absurd rfl other⟩
        change alg.snd_cwnd ≤ _
        rw [cwnd]
        rcases adaptWindow_cwnd world.alg with ⟨reno, many, same⟩ | ⟨_, same⟩
        · rw [same]
          exact ((notMistaken reno).2 happens many (sound.apart timed)).2
        · rw [same]
          exact (openWindow_spec sound.mss sound.square sound.segment bounded.1).2
      | thirdDuplicate => exact absurd rfl notThird
      | furtherDuplicate cwnd =>
        refine ⟨nofun, fun _ => ?_⟩
        change alg.snd_cwnd ≤ _
        rw [cwnd]
        unfold cwndAfterFurther
        cases flavour : world.alg.flavour with
        | tahoe => exact Nat.le_refl _
        | reno =>
          have never := (notMistaken flavour).1 happens
          rw [timed] at never
          cases never
      | reset cwnd => exact ⟨nofun, fun _ => Nat.le_of_eq cwnd⟩
      | timeout => exact absurd rfl notTimeout
      | other cwnd => exact ⟨nofun, fun _ => Nat.le_of_eq cwnd⟩

theorem step_deterministic : Deterministic Step := by
  rintro _ _ _ _ ⟨_, _, served, rfl⟩ ⟨_, _, also, rfl⟩
  rw [served] at also
  cases also
  rfl

theorem established_sound (established : Established world) : Sound world where
  mss := established.mss
  square := established.square
  segment := by rw [established.cwnd]
  threshold := by
    intro lost
    rw [established.lost] at lost
    cases lost
  counted := by
    intro many
    exact absurd many (not_le.mpr (dupacks_zero established.dupacks))
  apart := by
    intro timed
    rw [established.timedOut] at timed
    cases timed

theorem run_sound (established : Established first)
    (run : Run (guardedStep Bounded Step) first events last) : Sound last := by
  apply run.guarded ?_ (established_sound established)
  intro _ _ _ sound bounded taken
  exact sound_step sound bounded taken

end Steps

/-! ## Every run -/

/--
On an established connection, as long as the windows fit, every event is fair
exactly when Reno never takes duplicate acks from before a timeout for a fast
recovery.
-/
theorem congestion_control {first last : World} {events : List Event}
    (established : Established first) (run : Run (guardedStep Bounded Step) first events last) :
    (∀ before event after middle next,
        events = before ++ event :: after → Run (guardedStep Bounded Step) first before middle →
          Step middle event next → Fair middle event next) ↔
      ∀ before event after middle,
        events = before ++ event :: after →
          Run (guardedStep Bounded Step) first before middle → NotMistaken middle event := by
  have unique : Deterministic (guardedStep Bounded Step) :=
    fun state event left right one other => step_deterministic _ _ _ _ one.2 other.2
  have following : ∀ before event after middle,
      events = before ++ event :: after →
        Run (guardedStep Bounded Step) first before middle →
          ∃ next, Bounded middle event ∧ Step middle event next := by
    rintro before event after middle rfl taken
    rcases Run.append_iff.mp run with ⟨_, otherRun, rest⟩
    rcases Run.cons_iff.mp rest with ⟨next, head, _⟩
    rw [Run.deterministic unique taken otherRun]
    exact ⟨next, head.1, head.2⟩
  constructor
  · intro fair before event after middle parts taken
    rcases following _ _ _ _ parts taken with ⟨next, bounded, step⟩
    exact (fair_iff (run_sound established taken) bounded step).mp
      (fair before event after middle next parts taken step)
  · intro notMistaken before event after middle _ parts taken step
    rcases following before event after middle parts taken with ⟨_, bounded, _⟩
    exact (fair_iff (run_sound established taken) bounded step).mpr
      (notMistaken before event after middle parts taken)

/-- A connection of Reno that has just been established. -/
def exampleFirst : World where
  alg :=
    { flavour := .reno
      conn :=
        { snd_mss := 100
          snd_una := 1
          snd_nxt := 1
          snd_max := 1
          snd_wnd := 10000
          snd_wl1 := 0
          snd_wl2 := 0
          sendQueue := .init 1 }
      nagle_enabled := false
      snd_cwnd := 100
      ssthresh := 65535 }

theorem exampleFirst_established : Established exampleFirst where
  mss := by decide
  square := by decide
  cwnd := rfl
  ssthresh := rfl
  dupacks := rfl
  recovering := rfl
  timedOut := rfl
  lost := rfl

def exampleAck (ackNo : SequenceNumbers.SeqNo) : Event :=
  .segment { sequenceNo := 0, ackNo, window := 10000, payloadLength := 0 }

/-- A segment is lost: three duplicate acks, and then a timeout. -/
def exampleEvents : List Event :=
  [.send 100, exampleAck 1, exampleAck 1, exampleAck 1, .rexmitTimer]

instance (alg : TCPTahoeRenoFamily) (event : Event) : Decidable (Enabled alg event) :=
  match event with
  | .rexmitTimer => inferInstanceAs (Decidable (_ ∧ _))
  | .segment _ => inferInstanceAs (Decidable (_ = _))
  | .send _ => inferInstanceAs (Decidable (_ = _))
  | .close => inferInstanceAs (Decidable (_ = _))

instance (world : World) (event : Event) : Decidable (Bounded world event) :=
  inferInstanceAs (Decidable (_ ∧ _))

/-- The step as a function, where it is enabled and the windows fit. -/
def follow (world : World) (event : Event) : Option World :=
  if Bounded world event ∧ Enabled world.alg event then
    match serve world.alg event with
    | .ok alg => some (world.record alg (happening world.alg event))
    | .error _ => none
  else none

theorem follow_step
    (followed : follow world event = some next) : guardedStep Bounded Step world event next := by
  unfold follow at followed
  split at followed
  case isTrue both =>
    cases served : serve world.alg event with
    | error _ =>
      rw [served] at followed
      cases followed
    | ok alg =>
      rw [served] at followed
      cases followed
      exact ⟨both.1, both.2, alg, served, rfl⟩
  case isFalse => cases followed

theorem run_of_follow (followed : events.foldlM follow first = some last) :
    Run (guardedStep Bounded Step) first events last := by
  induction events generalizing first with
  | nil =>
    cases followed
    exact .idle _
  | cons _ _ induction =>
    rw [List.foldlM_cons] at followed
    rcases Option.bind_eq_some_iff.mp followed with ⟨_, head, tail⟩
    exact .next (follow_step head) (induction tail)

/-- The world after the timeout, with the segment sent three times. -/
def exampleLast : World where
  alg :=
    { flavour := .reno
      conn :=
        { snd_mss := 100
          snd_una := 1
          snd_nxt := 101
          snd_max := 101
          snd_wnd := 10000
          snd_wl1 := 0
          snd_wl2 := 0
          dupacks := 3
          sendQueue := { begins := 1, ends := 101 }
          sent :=
            [{ sequenceNo := 1, payloadLength := 100 }, { sequenceNo := 1, payloadLength := 100 },
              { sequenceNo := 1, payloadLength := 100 }] }
      nagle_enabled := false
      snd_cwnd := 100
      ssthresh := 250
      rexmit_count := 1
      rexmitTimer := true }
  timedOut := true
  lost := true

/-- The retransmitted segment is acked, and the window jumps. -/
theorem jumps_after_timeout :
    ¬∀ first events last, Established first →
      Run (guardedStep Bounded Step) first events last →
        ∀ before event after middle next,
          events = before ++ event :: after → Run (guardedStep Bounded Step) first before middle →
            Step middle event next → Fair middle event next := by
  intro claim
  have before : exampleEvents.foldlM follow exampleFirst = some exampleLast := by decide
  have jump : (follow exampleLast (exampleAck 101)).map
      (fun world => world.alg.snd_cwnd) = some 250 := by
    decide
  rcases Option.map_eq_some_iff.mp jump with ⟨_, followed, cwnd⟩
  have run := (run_of_follow before).snoc (follow_step followed)
  have fair := claim _ _ _ exampleFirst_established run _ _ [] _ _ rfl
    (run_of_follow before) (follow_step followed).2
  have raise := (fair.raise (by decide) rfl).2
  rw [cwnd] at raise
  exact absurd raise (by decide)

/-- A segment that arrives: the ack doubles the window. -/
theorem congestion_control_small :
    ∃ last,
      Run (guardedStep Bounded Step) exampleFirst [.send 100, exampleAck 101] last ∧
        ((∀ before event after middle next,
            [Event.send 100, exampleAck 101] = before ++ event :: after →
              Run (guardedStep Bounded Step) exampleFirst before middle →
              Step middle event next → Fair middle event next) ↔
          ∀ before event after middle,
            [Event.send 100, exampleAck 101] = before ++ event :: after →
              Run (guardedStep Bounded Step) exampleFirst before middle →
                NotMistaken middle event) := by
  have ends : (([.send 100, exampleAck 101] : List Event).foldlM follow
      exampleFirst).isSome = true := by
    decide
  rcases Option.isSome_iff_exists.mp ends with ⟨last, followed⟩
  exact ⟨last, run_of_follow followed,
    congestion_control exampleFirst_established (run_of_follow followed)⟩

end OmnetDsi.Tcp.CongestionControl
