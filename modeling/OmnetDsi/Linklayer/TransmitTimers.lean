import OmnetDsi.Linklayer.MediumAccess

/-!
# The timers of the transmitter

Every transmit state but idle has one timer, and leaving the state goes with
its end.  `Consistent` holds of every state of the MAC; `Lively` says that the
transmitter does not stall, and fails where a PAUSE frame without pause ends a
pause, and where the attempt limit leaves the MAC idle.
-/

namespace OmnetDsi.Linklayer.TransmitTimers

open Library.Fallible Library.Transition Linklayer.MediumAccess EtherMAC Function Yields

/-! ## What is to hold -/

/-- The transmit state that a timer belongs to. -/
def owner : Timer → Option TransmitState
  | .endTxMsg => some .TRANSMITTING_STATE
  | .endIFGMsg => some .WAIT_IFG_STATE
  | .endPauseMsg => some .PAUSE_STATE
  | .endJammingMsg => some .JAMMING_STATE
  | .endRxMsg => none
  | .endBackoffMsg => some .BACKOFF_STATE

/-- No timer but that of the transmit state is scheduled. -/
def Own (timers : Timer → Option Int) (state : TransmitState) : Prop :=
  ∀ timer other, owner timer = some other → (timers timer).isSome = true → state = other

/-- The timer of the transmit state is scheduled. -/
def Timed (timers : Timer → Option Int) (state : TransmitState) : Prop :=
  ∀ timer other, owner timer = some other → state = other → (timers timer).isSome = true

/-- No timer of a transmit state is scheduled. -/
def Quiet (timers : Timer → Option Int) : Prop :=
  ∀ timer other, owner timer = some other → timers timer = none

/-- The transmitter deals with a frame. -/
def Busy (state : TransmitState) : Prop :=
  state ≠ .TX_IDLE_STATE ∧ state ≠ .PAUSE_STATE

/-- The transmitter deals with a collision. -/
def Colliding (state : TransmitState) : Prop :=
  state = .JAMMING_STATE ∨ state = .BACKOFF_STATE

/-- What holds of the transmitter in every state. -/
structure Transmitter (par : Parameters) (mac : EtherMAC) : Prop where
  own : Own mac.timers mac.transmitState
  busy : Busy mac.transmitState → mac.txQueue ≠ []
  half : Colliding mac.transmitState → par.duplexMode = false

/-- What holds of the receiver in every state. -/
structure Receiver (mac : EtherMAC) : Prop where
  timer : (mac.timers .endRxMsg).isSome = true ↔ mac.receiveState ≠ .RX_IDLE_STATE
  frame : mac.frameBeingReceived.isSome = true ↔ mac.receiveState = .RECEIVING_STATE

/-- What holds in every state. -/
structure Consistent (par : Parameters) (mac : EtherMAC) : Prop where
  transmitter : Transmitter par mac
  receiver : Receiver mac
  clear : par.duplexMode = false →
    mac.transmitState = .TRANSMITTING_STATE → mac.receiveState = .RX_IDLE_STATE

/-- The transmitter does not stall. -/
structure Lively (par : Parameters) (mac : EtherMAC) : Prop where
  /-- Exactly the timer of the transmit state is scheduled. -/
  timer : ∀ timer other, owner timer = some other →
    ((mac.timers timer).isSome = true ↔ mac.transmitState = other)
  /-- A frame waits in idle only for the end of a reception. -/
  waiting : mac.transmitState = .TX_IDLE_STATE → mac.txQueue ≠ [] →
    par.duplexMode = false ∧ mac.receiveState ≠ .RX_IDLE_STATE
  /-- Idle without frames, a packet is on its way from the queue module. -/
  requested : par.queueModule = true →
    mac.transmitState = .TX_IDLE_STATE → mac.txQueue = [] → 0 < mac.requested

/-- The frame that is received is no PAUSE frame that ends a pause. -/
def NoEmptyPause (mac : EtherMAC) : Prop :=
  mac.transmitState = .PAUSE_STATE →
    ∀ frame units, mac.frameBeingReceived = some frame → frame.pauseTime = some units → 0 < units

/-- What is left after a discard is sent by someone. -/
def GoesOn (par : Parameters) (mac : EtherMAC) : Prop :=
  (mac.txQueue.tail ≠ [] → mac.receiveState ≠ .RX_IDLE_STATE) ∧
    (mac.txQueue.tail = [] → par.queueModule = true → 0 < mac.requested)

/-- The events that do not make the transmitter stall. -/
def KeepsGoing (par : Parameters) (mac : EtherMAC) (event : Event) : Prop :=
  match event.msg with
  | .ENDRECEPTION => mac.receiveState = .RECEIVING_STATE → NoEmptyPause mac
  | .phys (.frame _) _ =>
    mac.receiveState = .RECEIVING_STATE → (mac.arrive event).endsNow par = true → NoEmptyPause mac
  | .ENDJAMMING _ => mac.backoffs + 1 > MAX_ATTEMPTS → GoesOn par mac
  | _ => True

/-- A timer was scheduled that is scheduled already. -/
def Twice (failure : Failure) : Prop :=
  ∃ timer, failure = .alreadyScheduled timer

theorem not_twice {failure : Failure}
    (other : ∀ timer, failure ≠ .alreadyScheduled timer) : ¬Twice failure := by
  rintro ⟨_, same⟩
  exact other _ same

theorem not_colliding {motive : Prop} (here : Colliding state) (jamming : state ≠ .JAMMING_STATE)
    (backoff : state ≠ .BACKOFF_STATE) : motive := by
  rcases here with same | same
  · exact absurd same jamming
  · exact absurd same backoff

/-! ## Timers -/

theorem owner_injective
    (one : owner timer = some state) (also : owner other = some state) : timer = other := by
  cases timer <;> cases other <;>
    first
      | rfl
      | (cases one; done)
      | (cases one; cases also)

variable {timers : Timer → Option Int}

theorem own_of_quiet (quiet : Quiet timers) (state : TransmitState) : Own timers state := by
  intro _ _ owns scheduled
  rw [quiet _ _ owns] at scheduled
  cases scheduled

variable {timer : Timer}

theorem quiet_of_expired (own : Own timers state) (owns : owner timer = some state) :
    Quiet (update timers timer none) := by
  intro other _ otherOwns
  by_cases same : other = timer
  · rw [same, update_self]
  · rw [update_of_ne same]
    by_contra scheduled
    have here := own _ _ otherOwns (Option.isSome_iff_ne_none.mpr scheduled)
    rw [← here] at otherOwns
    exact same (owner_injective otherOwns owns)

theorem quiet_of_idle (own : Own timers .TX_IDLE_STATE) : Quiet timers := by
  intro timer _ owns
  by_contra scheduled
  have here := own _ _ owns (Option.isSome_iff_ne_none.mpr scheduled)
  rw [← here] at owns
  cases timer <;> cases owns

theorem timed_idle (timers : Timer → Option Int) : Timed timers .TX_IDLE_STATE := by
  rintro timer _ owns rfl
  cases timer <;> cases owns

theorem own_update (quiet : Quiet timers) (owns : owner timer = some state) (time : Int) :
    Own (update timers timer (some time)) state ∧
      Timed (update timers timer (some time)) state := by
  constructor
  · intro other _ otherOwns scheduled
    by_cases same : other = timer
    · rw [same, owns] at otherOwns
      exact Option.some.inj otherOwns
    · rw [update_of_ne same, quiet _ _ otherOwns] at scheduled
      cases scheduled
  · intro _ _ otherOwns here
    rw [← here] at otherOwns
    rw [owner_injective otherOwns owns, update_self]
    rfl

theorem endRx_update (owns : owner timer = some state) (timers : Timer → Option Int)
    (arrival : Option Int) : update timers timer arrival .endRxMsg = timers .endRxMsg := by
  have different : Timer.endRxMsg ≠ timer := by
    rintro rfl
    cases owns
  exact update_of_ne different _ _

/-- Timers that are the same but for the receiver. -/
def Alike (timers others : Timer → Option Int) : Prop :=
  ∀ timer state, owner timer = some state → timers timer = others timer

theorem alike_of_rx (timers : Timer → Option Int) (arrival : Option Int) :
    Alike (update timers .endRxMsg arrival) timers := by
  intro _ _ owns
  apply update_of_ne
  rintro rfl
  cases owns

theorem Alike.own (alike : Alike timers others) (own : Own others state) : Own timers state := by
  intro _ _ owns
  rw [alike _ _ owns]
  exact own _ _ owns

theorem Alike.timed (alike : Alike timers others) : Timed timers state ↔ Timed others state := by
  constructor
  · intro timed _ _ owns
    rw [← alike _ _ owns]
    exact timed _ _ owns
  · intro timed _ _ owns
    rw [alike _ _ owns]
    exact timed _ _ owns

theorem timer_iff (own : Own timers state) :
    (∀ timer other, owner timer = some other → ((timers timer).isSome = true ↔ state = other)) ↔
      Timed timers state := by
  constructor
  · intro exact _ _ owns
    exact (exact _ _ owns).mpr
  · intro timed _ _ owns
    exact ⟨own _ _ owns, timed _ _ owns⟩

theorem scheduleAt_eq_ok {mac : EtherMAC} (free : mac.timers timer = none) (time : Int) :
    mac.scheduleAt time timer =
      .ok { mac with
        timers := update mac.timers timer (some time) } := by
  rw [scheduleAt, free]

/-! ## Entering a state -/

/-- All is as it should be. -/
def Good (par : Parameters) (mac : EtherMAC) : Prop :=
  Consistent par mac ∧ Lively par mac

section Entering

variable {par : Parameters} {mac : EtherMAC}

theorem Receiver.update (receiver : Receiver mac) (owns : owner timer = some state)
    (arrival : Option Int) (transmitState : TransmitState) :
    Receiver
      { mac with
        timers := update mac.timers timer arrival
        transmitState } where
  timer := by
    dsimp only
    rw [endRx_update owns]
    exact receiver.timer
  frame := receiver.frame

theorem good_of_entered {timer : Timer} {state : TransmitState}
    (quiet : Quiet mac.timers) (receiver : Receiver mac)
    (owns : owner timer = some state) (busy : Busy state → mac.txQueue ≠ [])
    (half : Colliding state → par.duplexMode = false)
    (clear : par.duplexMode = false → state = .TRANSMITTING_STATE →
      mac.receiveState = .RX_IDLE_STATE)
    (time : Int) :
    Good par
      { mac with
        timers := update mac.timers timer (some time)
        transmitState := state } := by
  have both := own_update quiet owns time
  have notIdle : state ≠ .TX_IDLE_STATE := by
    rintro rfl
    cases timer <;> cases owns
  refine ⟨⟨⟨both.1, busy, half⟩, receiver.update owns _ _, clear⟩, ?_⟩
  refine ⟨(timer_iff both.1).mpr both.2, ?_, ?_⟩
  · intro idle
    exact absurd idle notIdle
  · intro _ idle
    exact absurd idle notIdle

section

variable (quiet : Quiet mac.timers) (receiver : Receiver mac)
include quiet receiver

theorem scheduleEndIFGPeriod_good (queue : mac.txQueue ≠ []) :
    Yields Twice (Good par) (mac.scheduleEndIFGPeriod par) := by
  rw [scheduleEndIFGPeriod, scheduleAt_eq_ok (quiet .endIFGMsg _ rfl)]
  refine .ok (good_of_entered quiet receiver rfl (fun _ => queue) ?_ ?_ _)
  · exact fun here => not_colliding here nofun nofun
  · intro _ transmitting
    cases transmitting

theorem scheduleEndPausePeriod_good (pauseUnits : Int) :
    Yields Twice (Good par) (mac.scheduleEndPausePeriod par pauseUnits) := by
  dsimp only [scheduleEndPausePeriod]
  rw [scheduleAt_eq_ok (quiet .endPauseMsg _ rfl)]
  refine .ok (good_of_entered quiet receiver rfl ?_ ?_ ?_ _)
  · exact fun busy => absurd rfl busy.2
  · exact fun here => not_colliding here nofun nofun
  · intro _ transmitting
    cases transmitting

theorem goIdle_good (empty : mac.txQueue = []) : Good par (mac.goIdle par) := by
  have own := own_of_quiet quiet .TX_IDLE_STATE
  have timed := timed_idle mac.timers
  refine ⟨⟨⟨own, ?_, ?_⟩, ⟨receiver.timer, receiver.frame⟩, ?_⟩, (timer_iff own).mpr timed, ?_, ?_⟩
  · exact fun busy => absurd rfl busy.1
  · exact fun here => not_colliding here nofun nofun
  · intro _ transmitting
    cases transmitting
  · exact fun _ queue => absurd empty queue
  · intro external _ _
    rw [goIdle, if_pos external]
    exact Nat.succ_pos _

theorem beginSendFrames_good : Yields Twice (Good par) (mac.beginSendFrames par) := by
  unfold beginSendFrames
  split
  case isTrue some =>
    apply scheduleEndIFGPeriod_good quiet receiver
    intro empty
    rw [empty] at some
    cases some
  case isFalse none =>
    refine .ok (goIdle_good quiet receiver ?_)
    rw [Bool.not_eq_true, Bool.not_eq_false'] at none
    exact List.isEmpty_iff.mp none

end

theorem sendJamSignal_eq_ok (quiet : Quiet mac.timers) :
    mac.sendJamSignal par =
      .ok { mac.recordCollision with
        timers := update mac.timers .endJammingMsg (some (mac.now + par.jamDuration))
        transmitState := .JAMMING_STATE } := by
  have free : mac.recordCollision.timers .endJammingMsg = none := quiet .endJammingMsg _ rfl
  rw [sendJamSignal, scheduleAt_eq_ok free]
  rfl

theorem Receiver.collide (receiver : Receiver mac) (receiving : mac.receiveState ≠ .RX_IDLE_STATE) :
    Receiver mac.collideReception where
  timer := by
    constructor
    · intro _ idle
      cases idle
    · exact fun _ => receiver.timer.mpr receiving
  frame := by
    dsimp only [collideReception]
    constructor
    · intro held
      split at held
      case isTrue => cases held
      case isFalse other => exact absurd (receiver.frame.mp held) other
    · intro impossible
      cases impossible

section

variable (quiet : Quiet mac.timers) (receiver : Receiver mac)
include quiet receiver

theorem collideAtStart_good (queue : mac.txQueue ≠ []) (half : par.duplexMode = false)
    (receiving : mac.receiveState ≠ .RX_IDLE_STATE) :
    Yields Twice (Good par) (do
      let mac ← mac.sendJamSignal par
      .ok mac.collideReception) := by
  rw [sendJamSignal_eq_ok quiet]
  have both := own_update quiet (rfl : owner .endJammingMsg = _) (mac.now + par.jamDuration)
  have jammed := receiver.update (rfl : owner .endJammingMsg = _)
    (some (mac.now + par.jamDuration)) .JAMMING_STATE
  have collided := jammed.collide receiving
  refine .ok ⟨⟨⟨both.1, fun _ => queue, fun _ => half⟩,
    ⟨collided.timer, collided.frame⟩, ?_⟩, (timer_iff both.1).mpr both.2, ?_, ?_⟩
  · intro _ transmitting
    cases transmitting
  · intro idle
    cases idle
  · intro _ idle
    cases idle

theorem scheduleEndTxPeriod_good (queue : mac.txQueue ≠ [])
    (clear : par.duplexMode = false → mac.receiveState = .RX_IDLE_STATE) (byteLength : Nat) :
    Yields Twice (Good par) (mac.scheduleEndTxPeriod par byteLength) := by
  rw [scheduleEndTxPeriod, scheduleAt_eq_ok (quiet .endTxMsg _ rfl)]
  refine .ok (good_of_entered quiet receiver rfl (fun _ => queue) ?_ ?_ _)
  · exact fun here => not_colliding here nofun nofun
  · exact fun half _ => clear half

theorem startFrameTransmission_good : Yields Twice (Good par) (mac.startFrameTransmission par) := by
  unfold startFrameTransmission
  split
  case h_1 => exact .error (not_twice nofun)
  case h_2 origFrame rest queue =>
    have some : (mac.putOnWire par origFrame).txQueue ≠ [] := by
      change mac.txQueue ≠ []
      rw [queue]
      nofun
    have receiver' : Receiver (mac.putOnWire par origFrame) := ⟨receiver.timer, receiver.frame⟩
    have quiet' : Quiet (mac.putOnWire par origFrame).timers := quiet
    dsimp only
    split
    case isTrue collides =>
      rw [Bool.and_eq_true, Bool.not_eq_true', bne_iff_ne] at collides
      exact collideAtStart_good quiet' receiver' some collides.1 collides.2
    case isFalse clear =>
      apply scheduleEndTxPeriod_good quiet' receiver' some
      intro half
      by_contra receiving
      apply clear
      rw [Bool.and_eq_true, Bool.not_eq_true', bne_iff_ne]
      exact ⟨half, receiving⟩

theorem afterTransmission_good : Yields Twice (Good par) (mac.afterTransmission par) := by
  unfold afterTransmission
  split
  · refine (scheduleEndPausePeriod_good quiet receiver _).bind ?_
    rintro _ ⟨consistent, lively⟩
    exact .ok ⟨⟨⟨consistent.transmitter.own, consistent.transmitter.busy,
      consistent.transmitter.half⟩, ⟨consistent.receiver.timer,
      consistent.receiver.frame⟩, consistent.clear⟩,
      ⟨lively.timer, lively.waiting, lively.requested⟩⟩
  · unfold sendNext
    split
    · exact startFrameTransmission_good quiet receiver
    · exact beginSendFrames_good quiet receiver

end

end Entering

/-! ## The handlers -/

/-- The state is consistent, and the transmitter stalls by the guard only. -/
def Keeps (par : Parameters) (mac : EtherMAC) (guard : Prop) (next : EtherMAC) : Prop :=
  Consistent par next ∧ (Lively par mac → (Lively par next ↔ guard))

section Handling

variable {mac : EtherMAC}

variable {next : EtherMAC}

theorem Good.keeps {guard : Prop} (good : Good par next)
    (admitted : guard) : Keeps par mac guard next :=
  ⟨good.1, fun _ => ⟨fun _ => admitted, fun _ => good.2⟩⟩

theorem Transmitter.expire (transmitter : Transmitter par mac)
    (scheduled : (mac.timers timer).isSome = true) (owns : owner timer = some state) :
    mac.transmitState = state ∧ Quiet (update mac.timers timer none) := by
  have here := transmitter.own _ _ owns scheduled
  refine ⟨here, quiet_of_expired ?_ owns⟩
  rw [← here]
  exact transmitter.own

theorem Receiver.expire (receiver : Receiver mac) (owns : owner timer = some state) (now : Int) :
    Receiver { mac.cancelEvent timer with now } :=
  ⟨(receiver.update owns _ mac.transmitState).timer, receiver.frame⟩

section

variable (quiet : Quiet mac.timers) (receiver : Receiver mac)
include quiet receiver

theorem handleEndIFGPeriod_good : Yields Twice (Good par) (mac.handleEndIFGPeriod par) := by
  unfold handleEndIFGPeriod
  split
  · exact .error (not_twice nofun)
  · split
    · exact .error (not_twice nofun)
    · apply startFrameTransmission_good
      · exact quiet
      · exact ⟨receiver.timer, receiver.frame⟩

theorem handleEndTxPeriod_good : Yields Twice (Good par) (mac.handleEndTxPeriod par) := by
  unfold handleEndTxPeriod
  split
  · exact .error (not_twice nofun)
  · split
    · exact .error (not_twice nofun)
    · apply afterTransmission_good
      · exact quiet
      · exact ⟨receiver.timer, receiver.frame⟩

theorem handleEndPausePeriod_good : Yields Twice (Good par) (mac.handleEndPausePeriod par) := by
  unfold handleEndPausePeriod
  split
  · exact .error (not_twice nofun)
  · exact beginSendFrames_good quiet receiver

/-- The backoff is over, and idle waits for the end of the reception. -/
theorem handleEndBackoffPeriod_good (half : par.duplexMode = false) :
    Yields Twice (Good par) (mac.handleEndBackoffPeriod par) := by
  unfold handleEndBackoffPeriod
  split
  · exact .error (not_twice nofun)
  · split
    · exact .error (not_twice nofun)
    case isFalse filled =>
      rw [List.isEmpty_iff] at filled
      split
      · exact scheduleEndIFGPeriod_good quiet receiver filled
      case isFalse receiving =>
        have own := own_of_quiet quiet .TX_IDLE_STATE
        have timed := timed_idle mac.timers
        refine .ok ⟨⟨⟨own, ?_, ?_⟩, ⟨receiver.timer, receiver.frame⟩,
          ?_⟩, (timer_iff own).mpr timed, ?_, ?_⟩
        · exact fun busy => absurd rfl busy.1
        · exact fun here => not_colliding here nofun nofun
        · intro _ transmitting
          cases transmitting
        · exact fun _ _ => ⟨half, receiving⟩
        · exact fun _ _ empty => absurd empty filled

theorem handleRetransmission_keeps (half : par.duplexMode = false)
    (queue : mac.txQueue ≠ []) (slotNumber : Nat) :
    Yields Twice
      (fun next => Consistent par next ∧
        (Lively par next ↔ (mac.backoffs + 1 > MAX_ATTEMPTS → GoesOn par mac)))
      (mac.handleRetransmission par slotNumber) := by
  unfold handleRetransmission
  split
  case isTrue limit =>
    split
    case h_1 empty => exact absurd empty queue
    case h_2 frame rest parts =>
      have own := own_of_quiet quiet .TX_IDLE_STATE
      have timed := timed_idle mac.timers
      refine .ok ⟨⟨⟨own, ?_, ?_⟩, ⟨receiver.timer, receiver.frame⟩, ?_⟩, ?_⟩
      · exact fun busy => absurd rfl busy.1
      · exact fun here => not_colliding here nofun nofun
      · intro _ transmitting
        cases transmitting
      · have tail : mac.txQueue.tail = rest := by
          rw [parts]
          rfl
        constructor
        · intro lively _
          refine ⟨fun some => ?_, fun none external => ?_⟩
          · rw [tail] at some
            exact (lively.waiting rfl some).2
          · rw [tail] at none
            exact lively.requested external rfl none
        · intro goesOn
          rcases goesOn limit with ⟨waiting, requested⟩
          rw [tail] at waiting requested
          refine ⟨(timer_iff own).mpr timed, ?_, ?_⟩
          · exact fun _ some => ⟨half, waiting some⟩
          · exact fun external _ none => requested none external
  case isFalse below =>
    rw [scheduleAt_eq_ok (quiet .endBackoffMsg _ rfl)]
    have entered := @good_of_entered _ mac _ _ quiet receiver
      (rfl : owner .endBackoffMsg = _) (fun _ => queue) (fun _ => half)
      (by
        intro _ transmitting
        cases transmitting)
      (mac.now + slotNumber * par.slotTime)
    rcases entered with ⟨consistent, lively⟩
    refine .ok ⟨⟨⟨consistent.transmitter.own,
      consistent.transmitter.busy, consistent.transmitter.half⟩,
      ⟨consistent.receiver.timer, consistent.receiver.frame⟩, consistent.clear⟩, ?_⟩
    constructor
    · exact fun _ limit => absurd limit below
    · exact fun _ => ⟨lively.timer, lively.waiting, lively.requested⟩

end

/-- What the completion of a frame does to the MAC. -/
structure Taken (par : Parameters) (mac next : EtherMAC) : Prop where
  transmitter : Transmitter par next
  timed : Timed mac.timers mac.transmitState →
    (Timed next.timers next.transmitState ↔ NoEmptyPause mac)
  frame : next.frameBeingReceived = none
  receiveState : next.receiveState = mac.receiveState
  txQueue : next.txQueue = mac.txQueue
  requested : next.requested = mac.requested
  endRx : next.timers .endRxMsg = mac.timers .endRxMsg
  transmitState : next.transmitState = mac.transmitState ∨ next.transmitState = .PAUSE_STATE

theorem pause_taken {base : EtherMAC}
    (positive : 0 < units) (held : mac.frameBeingReceived = some frame)
    (paused : frame.pauseTime = some units) (quiet : Quiet base.timers)
    (endRx : base.timers .endRxMsg = mac.timers .endRxMsg)
    (receiveState : base.receiveState = mac.receiveState)
    (txQueue : base.txQueue = mac.txQueue) (requested : base.requested = mac.requested)
    (frameGone : base.frameBeingReceived = none) :
    Yields Twice (Taken par mac) (base.scheduleEndPausePeriod par units) := by
  dsimp only [scheduleEndPausePeriod]
  rw [scheduleAt_eq_ok (quiet .endPauseMsg _ rfl)]
  have both := own_update quiet (rfl : owner .endPauseMsg = _)
    (base.now + units * PAUSE_BITTIME * par.bitTime)
  refine .ok ⟨⟨both.1, ?_, ?_⟩, ?_, frameGone, receiveState, txQueue, requested, ?_, .inr rfl⟩
  · exact fun busy => absurd rfl busy.2
  · exact fun here => not_colliding here nofun nofun
  · intro _
    refine ⟨fun _ _ other otherUnits same also => ?_, fun _ => both.2⟩
    rw [held] at same
    cases same
    rw [paused] at also
    cases also
    exact positive
  · exact endRx

section

variable (transmitter : Transmitter par mac)
include transmitter

theorem unchanged_taken (harmless : Timed mac.timers mac.transmitState → NoEmptyPause mac)
    (timers : next.timers = mac.timers) (transmitState : next.transmitState = mac.transmitState)
    (receiveState : next.receiveState = mac.receiveState)
    (txQueue : next.txQueue = mac.txQueue) (requested : next.requested = mac.requested)
    (frameGone : next.frameBeingReceived = none) : Taken par mac next := by
  refine ⟨⟨?_, ?_, ?_⟩, ?_, frameGone, receiveState, txQueue, requested, ?_, .inl transmitState⟩
  · rw [timers, transmitState]
    exact transmitter.own
  · rw [transmitState, txQueue]
    exact transmitter.busy
  · rw [transmitState]
    exact transmitter.half
  · intro timed
    rw [timers, transmitState]
    exact ⟨fun _ => harmless timed, fun _ => timed⟩
  · rw [timers]

theorem takeReceived_spec : Yields Twice (Taken par mac) (mac.takeReceived par) := by
  unfold takeReceived
  split
  case h_1 => exact .error (not_twice nofun)
  case h_2 frame held =>
    unfold frameReceptionComplete
    split
    case h_2 data =>
      refine .ok (unchanged_taken transmitter ?_ rfl rfl rfl rfl rfl rfl)
      intro _ _ _ _ same paused
      rw [held] at same
      cases same
      rw [data] at paused
      cases paused
    case h_1 units paused =>
      unfold processPauseCommand
      split
      case isTrue idle =>
        have quiet : Quiet mac.timers := by
          apply quiet_of_idle
          rw [← idle]
          exact transmitter.own
        split
        case isTrue positive => exact pause_taken positive held paused quiet rfl rfl rfl rfl rfl
        case isFalse =>
          refine .ok (unchanged_taken transmitter ?_ rfl rfl rfl rfl rfl rfl)
          intro _ pausing
          rw [idle] at pausing
          cases pausing
      case isFalse =>
        split
        case isTrue pausing =>
          have own := transmitter.own
          rw [pausing] at own
          have quiet : Quiet (update mac.timers .endPauseMsg none) := quiet_of_expired own rfl
          split
          case isTrue positive => exact pause_taken positive held paused quiet (rfl) rfl rfl rfl rfl
          case isFalse nothing =>
            refine .ok ⟨⟨?_, transmitter.busy, transmitter.half⟩,
              ?_, rfl, rfl, rfl, rfl, rfl, .inl rfl⟩
            · exact own_of_quiet quiet _
            · intro _
              constructor
              · intro timed
                have set := timed .endPauseMsg _ rfl pausing
                have gone := quiet .endPauseMsg _ rfl
                change (update mac.timers .endPauseMsg none .endPauseMsg).isSome = true at set
                cases set
              · intro harmless
                exact absurd (harmless pausing frame units held paused) nothing
        case isFalse other =>
          refine .ok (unchanged_taken transmitter ?_ rfl rfl rfl rfl rfl rfl)
          exact fun _ pausing => absurd pausing other

theorem receiverIdle_spec
    (expired : mac.timers .endRxMsg = none) (frame : mac.frameBeingReceived = none) :
    Yields Twice
      (fun next => Consistent par next ∧
        ((par.queueModule = true → mac.transmitState = .TX_IDLE_STATE →
            mac.txQueue = [] → 0 < mac.requested) →
          (Lively par next ↔ Timed mac.timers mac.transmitState)))
      (mac.receiverIdle par) := by
  have receiver : Receiver
      { mac with
        receiveState := .RX_IDLE_STATE
        numConcurrentTransmissions := 0 } := by
    refine ⟨?_, ?_⟩
    · rw [expired]
      exact ⟨nofun, fun other => absurd rfl other⟩
    · rw [frame]
      exact ⟨nofun, nofun⟩
  dsimp only [receiverIdle]
  split
  case isTrue waits =>
    have quiet : Quiet mac.timers := by
      apply quiet_of_idle
      rw [← waits.1]
      exact transmitter.own
    refine mono (scheduleEndIFGPeriod_good quiet receiver waits.2) ?_
    rintro _ ⟨consistent, lively⟩
    refine ⟨consistent, fun _ => ⟨fun _ => ?_, fun _ => lively⟩⟩
    rw [waits.1]
    exact timed_idle _
  case isFalse other =>
    refine .ok ⟨⟨⟨transmitter.own, transmitter.busy, transmitter.half⟩,
      receiver, fun _ _ => rfl⟩, ?_⟩
    intro requested
    constructor
    · exact fun lively => (timer_iff transmitter.own).mp lively.timer
    · intro timed
      refine ⟨(timer_iff transmitter.own).mpr timed, ?_, requested⟩
      exact fun idle some => absurd ⟨idle, some⟩ other

theorem handleEndRxPeriod_spec (expired : mac.timers .endRxMsg = none)
    (frame : mac.frameBeingReceived.isSome = true ↔ mac.receiveState = .RECEIVING_STATE) :
    Yields Twice
      (fun next => Consistent par next ∧
        ((par.queueModule = true → mac.transmitState = .TX_IDLE_STATE →
            mac.txQueue = [] → 0 < mac.requested) →
          Timed mac.timers mac.transmitState →
            (Lively par next ↔ (mac.receiveState = .RECEIVING_STATE → NoEmptyPause mac))))
      (mac.handleEndRxPeriod par) := by
  unfold handleEndRxPeriod
  split
  case isTrue receiving =>
    refine (takeReceived_spec transmitter).bind ?_
    intro middle taken
    refine mono (receiverIdle_spec taken.transmitter (taken.endRx.trans expired) taken.frame) ?_
    rintro _ ⟨consistent, exact⟩
    refine ⟨consistent, fun requested timed => ?_⟩
    have admitted : par.queueModule = true →
        middle.transmitState = .TX_IDLE_STATE → middle.txQueue = [] → 0 < middle.requested := by
      intro external idle empty
      rw [taken.requested]
      rw [taken.txQueue] at empty
      rcases taken.transmitState with same | paused
      · rw [same] at idle
        exact requested external idle empty
      · rw [paused] at idle
        cases idle
    rw [exact admitted, taken.timed timed]
    exact ⟨fun harmless _ => harmless, fun harmless => harmless receiving⟩
  case isFalse other =>
    have none : mac.frameBeingReceived = none := by
      rw [← Option.not_isSome_iff_eq_none]
      exact fun held => other (frame.mp held)
    refine mono (receiverIdle_spec transmitter expired none) ?_
    rintro _ ⟨consistent, exact⟩
    refine ⟨consistent, fun requested timed => ?_⟩
    rw [exact requested]
    exact ⟨fun _ receiving => absurd receiving other, fun _ => timed⟩

end

/-- While something is received, the transmitter is looked at alone. -/
theorem lively_iff_timed (lively : Lively par mac) (own : Own next.timers next.transmitState)
    (transmitState : next.transmitState = mac.transmitState ∨ next.transmitState = .PAUSE_STATE)
    (txQueue : next.txQueue = mac.txQueue) (requested : next.requested = mac.requested)
    (receiving : next.receiveState ≠ .RX_IDLE_STATE) :
    Lively par next ↔ Timed next.timers next.transmitState := by
  have idle : next.transmitState = .TX_IDLE_STATE → mac.transmitState = .TX_IDLE_STATE := by
    intro here
    rcases transmitState with same | paused
    · rwa [← same]
    · rw [paused] at here
      cases here
  constructor
  · exact fun alive => (timer_iff own).mp alive.timer
  · intro timed
    refine ⟨(timer_iff own).mpr timed, ?_, ?_⟩
    · intro here some
      rw [txQueue] at some
      exact ⟨(lively.waiting (idle here) some).1, receiving⟩
    · intro external here empty
      rw [txQueue] at empty
      rw [requested]
      exact lively.requested external (idle here) empty

section

variable (transmitter : Transmitter par mac) (alike : Alike next.timers mac.timers)
    (transmitState : next.transmitState = mac.transmitState) (txQueue : next.txQueue = mac.txQueue)
include transmitter alike transmitState txQueue

theorem reception_consistent (scheduled : (next.timers .endRxMsg).isSome = true)
    (receiving : next.receiveState ≠ .RX_IDLE_STATE)
    (frame : next.frameBeingReceived.isSome = true ↔ next.receiveState = .RECEIVING_STATE)
    (silent : par.duplexMode = false → mac.transmitState ≠ .TRANSMITTING_STATE) :
    Consistent par next where
  transmitter := by
    refine ⟨?_, ?_, ?_⟩
    · rw [transmitState]
      exact alike.own transmitter.own
    · rw [transmitState, txQueue]
      exact transmitter.busy
    · rw [transmitState]
      exact transmitter.half
  receiver := ⟨⟨fun _ => receiving, fun _ => scheduled⟩, frame⟩
  clear := by
    intro half sending
    rw [transmitState] at sending
    exact absurd sending (silent half)

theorem reception_keeps (requested : next.requested = mac.requested)
    (scheduled : (next.timers .endRxMsg).isSome = true)
    (receiving : next.receiveState ≠ .RX_IDLE_STATE)
    (frame : next.frameBeingReceived.isSome = true ↔ next.receiveState = .RECEIVING_STATE)
    (silent : par.duplexMode = false → mac.transmitState ≠ .TRANSMITTING_STATE) :
    Keeps par mac True next := by
  have consistent := reception_consistent transmitter alike transmitState
    txQueue scheduled receiving frame silent
  refine ⟨consistent, fun lively => ⟨fun _ => trivial, fun _ => ?_⟩⟩
  rw [lively_iff_timed lively consistent.transmitter.own
    (.inl transmitState) txQueue requested receiving, alike.timed, transmitState]
  exact (timer_iff transmitter.own).mp lively.timer

end

theorem cancelEvent_free (mac : EtherMAC) (timer : Timer) :
    (mac.cancelEvent timer).timers timer = none := by
  dsimp only [cancelEvent]
  rw [update_self]

theorem beginReception_eq_ok (free : mac.timers .endRxMsg = none) (frame : EtherFrame) :
    mac.beginReception par frame =
      .ok { mac with
        frameBeingReceived := some frame
        receiveState := .RECEIVING_STATE
        timers := update mac.timers .endRxMsg
          (some (mac.now + 8 * frame.byteLength * par.bitTime)) } := by
  have still : { mac with frameBeingReceived := some frame }.timers .endRxMsg = none := free
  rw [beginReception, scheduleEndRxPeriod, scheduleAt_eq_ok still]
  rfl

theorem firstSignal_keeps (consistent : Consistent par mac)
    (idle : mac.receiveState = .RX_IDLE_STATE)
    (silent : par.duplexMode = false → mac.transmitState ≠ .TRANSMITTING_STATE) (signal : Signal) :
    Yields Twice (Keeps par mac True) (mac.firstSignal par signal) := by
  unfold firstSignal
  split
  · exact .error (not_twice nofun)
  · split
    · exact .error (not_twice nofun)
    · have free :
          { mac with
            numConcurrentTransmissions := mac.numConcurrentTransmissions + 1 }.timers .endRxMsg =
            none := by
        rw [← Option.not_isSome_iff_eq_none]
        exact fun set => consistent.receiver.timer.mp set idle
      rw [beginReception_eq_ok free]
      refine .ok (reception_keeps consistent.transmitter
        (alike_of_rx _ _) rfl rfl rfl ?_ nofun ⟨fun _ => rfl, fun _ => rfl⟩ silent)
      dsimp only
      rfl

/-- The frame that collides is lost, and the reception takes longer. -/
theorem collideReception_keeps {base : EtherMAC} (consistent : Consistent par mac)
    (receiving : mac.receiveState ≠ .RX_IDLE_STATE)
    (silent : par.duplexMode = false → mac.transmitState ≠ .TRANSMITTING_STATE)
    (alike : Alike base.timers mac.timers) (scheduled : (base.timers .endRxMsg).isSome = true)
    (transmitState : base.transmitState = mac.transmitState)
    (txQueue : base.txQueue = mac.txQueue) (requested : base.requested = mac.requested)
    (receiveState : base.receiveState = mac.receiveState)
    (held : base.frameBeingReceived = mac.frameBeingReceived) :
    Keeps par mac True base.collideReception := by
  refine reception_keeps consistent.transmitter alike transmitState txQueue
    requested scheduled nofun ?_ silent
  have receiver : Receiver base := by
    refine ⟨⟨fun _ => ?_, fun _ => scheduled⟩, ?_⟩
    · rwa [receiveState]
    · rw [receiveState, held]
      exact consistent.receiver.frame
  exact (receiver.collide (by
    rwa [receiveState])).frame

theorem rescheduleEndRx_eq_ok (base : EtherMAC) (endRxTime : Int) :
    base.rescheduleEndRx endRxTime =
      .ok { base with
        timers := update base.timers .endRxMsg (some endRxTime) } := by
  rw [rescheduleEndRx, scheduleAt_eq_ok (cancelEvent_free _ .endRxMsg), cancelEvent, update_idem]

section Overlapping

variable (consistent : Consistent par mac) (receiving : mac.receiveState ≠ .RX_IDLE_STATE)
  (silent : par.duplexMode = false → mac.transmitState ≠ .TRANSMITTING_STATE)

include consistent receiving silent

theorem collision_keeps (numConcurrentTransmissions endRxTime : Int) :
    Yields Twice (Keeps par mac True) (do
        let mac ← { mac with numConcurrentTransmissions }.rescheduleEndRx endRxTime
        .ok mac.collideReception) ∧
      Keeps par mac True { mac with numConcurrentTransmissions }.collideReception := by
  constructor
  · rw [rescheduleEndRx_eq_ok]
    refine .ok (collideReception_keeps consistent receiving silent
      (alike_of_rx _ _) ?_ rfl rfl rfl rfl rfl)
    dsimp only
    rfl
  · exact collideReception_keeps consistent receiving silent (fun _ _ _ => rfl)
      (consistent.receiver.timer.mpr receiving) rfl rfl rfl rfl rfl

theorem overlappingJam_keeps (endRxTime : Int) :
    Yields Twice (Keeps par mac True) (mac.overlappingJam endRxTime) := by
  have keeps := collision_keeps consistent receiving silent
  unfold overlappingJam
  split
  · exact .error (not_twice nofun)
  · dsimp only
    split
    · exact (keeps _ _).1
    · exact .ok (keeps _ endRxTime).2

theorem overlappingFrame_keeps (endRxTime : Int) :
    Yields Twice (Keeps par mac True) (mac.overlappingFrame endRxTime) := by
  have keeps := collision_keeps consistent receiving silent
  unfold overlappingFrame
  split
  · exact .error (not_twice nofun)
  · split
    · exact (keeps _ _).1
    · exact .ok (keeps _ endRxTime).2

end Overlapping

theorem backToBack_keeps (consistent : Consistent par mac)
    (silent : par.duplexMode = false → mac.transmitState ≠ .TRANSMITTING_STATE)
    (frame : EtherFrame) :
    Yields Twice (Keeps par mac (NoEmptyPause mac)) (mac.backToBack par frame) := by
  have transmitter : Transmitter par (mac.cancelEvent .endRxMsg) :=
    ⟨(alike_of_rx mac.timers _).own consistent.transmitter.own,
      consistent.transmitter.busy, consistent.transmitter.half⟩
  refine (takeReceived_spec transmitter).bind ?_
  intro middle taken
  have free : middle.timers .endRxMsg = none := by
    rw [taken.endRx]
    exact cancelEvent_free _ .endRxMsg
  rw [beginReception_eq_ok free]
  have alike := alike_of_rx middle.timers (some (middle.now + 8 * frame.byteLength * par.bitTime))
  refine .ok ⟨reception_consistent taken.transmitter alike rfl rfl ?_ nofun
    ⟨fun _ => rfl, fun _ => rfl⟩ ?_, ?_⟩
  · dsimp only
    rfl
  · intro half sending
    rcases taken.transmitState with same | paused
    · rw [same] at sending
      exact silent half sending
    · rw [paused] at sending
      cases sending
  · intro lively
    have timed : Timed (mac.cancelEvent .endRxMsg).timers mac.transmitState :=
      (alike_of_rx mac.timers _).timed.mpr ((timer_iff consistent.transmitter.own).mp lively.timer)
    refine Iff.trans (lively_iff_timed lively ?_ taken.transmitState
      taken.txQueue taken.requested ?_) ?_
    · exact alike.own taken.transmitter.own
    · exact nofun
    · rw [alike.timed]
      exact taken.timed timed

theorem interruptTransmission_eq_ok (quiet : Quiet (mac.cancelEvent .endTxMsg).timers)
    (free : mac.timers .endRxMsg = none) (endRxTime : Int) :
    mac.interruptTransmission par endRxTime =
      .ok { (mac.cancelEvent .endTxMsg).recordCollision with
        transmitState := .JAMMING_STATE
        receiveState := .RX_COLLISION_STATE
        numConcurrentTransmissions := mac.numConcurrentTransmissions + 1
        timers := update
          (update (mac.cancelEvent .endTxMsg).timers .endJammingMsg
            (some (mac.now + par.jamDuration)))
          .endRxMsg (some (max endRxTime (mac.now + par.jamDuration))) } := by
  rw [interruptTransmission, sendJamSignal_eq_ok quiet]
  apply scheduleAt_eq_ok
  exact free

theorem interruptTransmission_good (consistent : Consistent par mac) (half : par.duplexMode = false)
    (sending : mac.transmitState = .TRANSMITTING_STATE) (endRxTime : Int) :
    Yields Twice (Good par) (mac.interruptTransmission par endRxTime) := by
  have clear := consistent.clear half sending
  have own := consistent.transmitter.own
  rw [sending] at own
  have quiet : Quiet (mac.cancelEvent .endTxMsg).timers := quiet_of_expired own rfl
  have queue : mac.txQueue ≠ [] := by
    apply consistent.transmitter.busy
    rw [sending]
    exact ⟨nofun, nofun⟩
  have free : mac.timers .endRxMsg = none := by
    rw [← Option.not_isSome_iff_eq_none]
    exact fun set => consistent.receiver.timer.mp set clear
  have empty : mac.frameBeingReceived.isSome = true → False := by
    intro held
    have receiving := consistent.receiver.frame.mp held
    rw [clear] at receiving
    cases receiving
  have both := own_update quiet (rfl : owner .endJammingMsg = _) (mac.now + par.jamDuration)
  have alike := alike_of_rx
    (update (mac.cancelEvent .endTxMsg).timers .endJammingMsg (some (mac.now + par.jamDuration)))
    (some (max endRxTime (mac.now + par.jamDuration)))
  rw [interruptTransmission_eq_ok quiet free]
  refine .ok ⟨⟨⟨alike.own both.1, fun _ => queue, fun _ => half⟩, ⟨⟨?_, ?_⟩,
    ⟨fun held => (empty held).elim, ?_⟩⟩, ?_⟩,
    (timer_iff (alike.own both.1)).mpr (alike.timed.mpr both.2), ?_, ?_⟩
  · exact fun _ => nofun
  · intro _
    dsimp only
    rfl
  · exact nofun
  · exact fun _ => nofun
  · exact nofun
  · exact fun _ => nofun

theorem processMsgFromNetwork_keeps (consistent : Consistent par mac)
    (signal : Signal) (sendingTime : Int) :
    Yields Twice
      (Keeps par mac (∀ frame, signal = .frame frame →
        mac.receiveState = .RECEIVING_STATE → mac.endsNow par = true → NoEmptyPause mac))
      (mac.processMsgFromNetwork par signal sendingTime) := by
  unfold processMsgFromNetwork
  split
  · exact .error (not_twice nofun)
  · split
    case isTrue sending =>
      have idle := consistent.clear sending.1 sending.2
      cases signal with
      | jam _ => exact .error (not_twice nofun)
      | frame _ =>
        refine mono (interruptTransmission_good consistent sending.1 sending.2 _) ?_
        intro _ good
        apply good.keeps
        intro _ _ receiving
        rw [idle] at receiving
        cases receiving
    case isFalse other =>
      have silent : par.duplexMode = false → mac.transmitState ≠ .TRANSMITTING_STATE :=
        fun half sending => other ⟨half, sending⟩
      split
      case isTrue idle =>
        refine mono (firstSignal_keeps consistent idle silent _) ?_
        rintro next ⟨good, lively⟩
        refine ⟨good, fun before => (lively before).trans ?_⟩
        refine ⟨fun _ frame _ receiving => ?_, fun _ => trivial⟩
        rw [idle] at receiving
        cases receiving
      case isFalse receiving =>
        cases signal with
        | jam _ =>
          refine mono (overlappingJam_keeps consistent receiving silent _) ?_
          rintro _ ⟨good, lively⟩
          exact ⟨good, fun before => (lively before).trans ⟨fun _ => nofun, fun _ => trivial⟩⟩
        | frame frame =>
          dsimp only [overlap]
          split
          case isTrue ends =>
            refine mono (backToBack_keeps consistent silent _) ?_
            rintro _ ⟨good, lively⟩
            refine ⟨good, fun before => (lively before).trans ?_⟩
            exact ⟨fun harmless _ _ _ _ => harmless,
              fun harmless => harmless frame rfl ends.1 ends.2⟩
          case isFalse longer =>
            refine mono (overlappingFrame_keeps consistent receiving silent _) ?_
            rintro _ ⟨good, lively⟩
            refine ⟨good, fun before => (lively before).trans ?_⟩
            exact ⟨fun _ _ _ here ends => absurd ⟨here, ends⟩ longer, fun _ => trivial⟩

theorem insertFrame_ne_nil (txQueue : List EtherFrame) (frame : EtherFrame) :
    insertFrame txQueue frame ≠ [] := by
  unfold insertFrame
  split
  · exact List.cons_ne_nil _ _
  · exact List.append_ne_nil_of_right_ne_nil _ (List.cons_ne_nil _ _)

theorem processFrameFromUpperLayer_keeps (consistent : Consistent par mac) (frame : EtherFrame) :
    Yields Twice (Keeps par mac True) (mac.processFrameFromUpperLayer par frame) := by
  have filled : (mac.acceptFrame par frame).txQueue ≠ [] := insertFrame_ne_nil _ _
  unfold processFrameFromUpperLayer
  split
  · exact .error (not_twice nofun)
  · split
    · exact .error (not_twice nofun)
    · split
      · exact .error (not_twice nofun)
      · dsimp only
        have receiver : Receiver (mac.acceptFrame par frame) :=
          ⟨consistent.receiver.timer, consistent.receiver.frame⟩
        split
        case isTrue idle =>
          rw [Bool.and_eq_true, beq_iff_eq] at idle
          have quiet : Quiet mac.timers := by
            apply quiet_of_idle
            rw [← idle.2]
            exact consistent.transmitter.own
          refine mono (scheduleEndIFGPeriod_good quiet receiver filled) ?_
          exact fun next good => good.keeps trivial
        case isFalse busy =>
          refine .ok ⟨⟨⟨consistent.transmitter.own, fun _ => filled,
            consistent.transmitter.half⟩, receiver, consistent.clear⟩, ?_⟩
          intro lively
          refine ⟨fun _ => trivial, fun _ => ⟨lively.timer, ?_, ?_⟩⟩
          · intro here _
            rw [Bool.and_eq_true, not_and, Bool.or_eq_true, beq_iff_eq, beq_iff_eq] at busy
            constructor
            · by_contra full
              rw [Bool.not_eq_false] at full
              exact busy (.inl full) here
            · exact fun idle => busy (.inr idle) here
          · exact fun _ _ empty => absurd empty filled

/-! ## Steps -/

theorem Consistent.now (consistent : Consistent par mac) (time : Int) :
    Consistent par { mac with now := time } :=
  ⟨⟨consistent.transmitter.own, consistent.transmitter.busy, consistent.transmitter.half⟩,
    ⟨consistent.receiver.timer, consistent.receiver.frame⟩, consistent.clear⟩

theorem Lively.now (lively : Lively par mac) (time : Int) : Lively par { mac with now := time } :=
  ⟨lively.timer, lively.waiting, lively.requested⟩

theorem Keeps.before {guard : Prop} (keeps : Keeps par { mac with now := time } guard next)
    (same : guard ↔ other) : Keeps par mac other next :=
  ⟨keeps.1, fun lively => (keeps.2 (lively.now _)).trans same⟩

theorem handleEndJammingPeriod_keeps (quiet : Quiet mac.timers)
    (receiver : Receiver mac) (half : par.duplexMode = false)
    (queue : mac.txQueue ≠ []) (slotNumber : Nat) :
    Yields Twice
      (fun next => Consistent par next ∧
        (Lively par next ↔ (mac.backoffs + 1 > MAX_ATTEMPTS → GoesOn par mac)))
      (mac.handleEndJammingPeriod par slotNumber) := by
  unfold handleEndJammingPeriod
  split
  · exact .error (not_twice nofun)
  · exact handleRetransmission_keeps quiet receiver half queue _

section

variable (consistent : Consistent par mac) (enabled : Enabled par mac event)
include consistent enabled

theorem dispatch_keeps :
    Yields Twice (Keeps par mac (KeepsGoing par mac event))
      (dispatch par (mac.arrive event) event.msg) := by
  have transmitter := consistent.transmitter
  have receiver := consistent.receiver
  rcases event with ⟨time, msg⟩
  have expired : ∀ timer, msg.timer = some timer → (mac.timers timer).isSome = true := by
    intro timer mine
    have due : mac.timers timer = some time := enabled.timer _ mine
    rw [due]
    rfl
  cases msg with
  | upperLayerIn _ =>
    refine mono (processFrameFromUpperLayer_keeps (consistent.now _) _) ?_
    exact fun next keeps => keeps.before Iff.rfl
  | phys signal _ =>
    refine mono (processMsgFromNetwork_keeps (consistent.now _) _ _) ?_
    intro _ keeps
    refine keeps.before ?_
    cases signal with
    | jam _ => exact ⟨fun _ => trivial, fun _ => nofun⟩
    | frame _ =>
      constructor
      · exact fun harmless => harmless _ rfl
      · exact fun harmless _ _ => harmless
  | ENDIFG =>
    have due := transmitter.expire (expired .endIFGMsg rfl) rfl
    refine mono (handleEndIFGPeriod_good due.2
      (receiver.expire (rfl : owner .endIFGMsg = _) time)) ?_
    exact fun next good => good.keeps trivial
  | ENDTRANSMISSION =>
    have due := transmitter.expire (expired .endTxMsg rfl) rfl
    refine mono (handleEndTxPeriod_good due.2 (receiver.expire (rfl : owner .endTxMsg = _) time)) ?_
    exact fun next good => good.keeps trivial
  | ENDPAUSE =>
    have due := transmitter.expire (expired .endPauseMsg rfl) rfl
    refine mono (handleEndPausePeriod_good due.2
      (receiver.expire (rfl : owner .endPauseMsg = _) time)) ?_
    exact fun next good => good.keeps trivial
  | ENDBACKOFF =>
    have due := transmitter.expire (expired .endBackoffMsg rfl) rfl
    refine mono (handleEndBackoffPeriod_good due.2
      (receiver.expire (rfl : owner .endBackoffMsg = _) time) (transmitter.half (.inr due.1))) ?_
    exact fun next good => good.keeps trivial
  | ENDJAMMING slotNumber =>
    have due := transmitter.expire (expired .endJammingMsg rfl) rfl
    have queue : mac.txQueue ≠ [] := by
      apply transmitter.busy
      rw [due.1]
      exact ⟨nofun, nofun⟩
    refine mono (handleEndJammingPeriod_keeps due.2
      (receiver.expire (rfl : owner .endJammingMsg = _) time)
      (transmitter.half (.inl due.1)) queue slotNumber) ?_
    exact fun next keeps => ⟨keeps.1, fun _ => keeps.2⟩
  | ENDRECEPTION =>
    have alike := alike_of_rx mac.timers none
    have still : Transmitter par { mac.cancelEvent .endRxMsg with now := time } :=
      ⟨alike.own transmitter.own, transmitter.busy, transmitter.half⟩
    refine mono (handleEndRxPeriod_spec still (cancelEvent_free mac .endRxMsg) receiver.frame) ?_
    rintro _ ⟨good, exact⟩
    refine ⟨good, fun lively => ?_⟩
    apply exact
    · exact lively.requested
    · exact alike.timed.mpr ((timer_iff transmitter.own).mp lively.timer)

theorem handleMessage_keeps :
    Yields Twice (Keeps par mac (KeepsGoing par mac event)) (handleMessage par mac event) := by
  unfold handleMessage
  split
  · exact .error (not_twice nofun)
  · exact dispatch_keeps consistent enabled

end

theorem start_good (start : Start par mac) : Good par mac := by
  cases start with
  | idle _ =>
    have quiet : Quiet (fun _ => none) := fun _ _ _ => rfl
    have own := own_of_quiet quiet .TX_IDLE_STATE
    refine ⟨⟨⟨own, ?_, ?_⟩, ⟨⟨nofun, fun other => absurd rfl other⟩,
      ⟨nofun, nofun⟩⟩, fun _ _ => rfl⟩, (timer_iff own).mpr (timed_idle _), ?_, ?_⟩
    · exact fun busy => absurd rfl busy.1
    · exact fun here => not_colliding here nofun nofun
    · exact fun _ some => absurd rfl some
    · intro external _ _
      rw [external]
      exact Nat.zero_lt_one
  | @waiting now queued some numbered requested =>
    have receiver : Receiver
        { now
          transmitState := .TX_IDLE_STATE
          receiveState := .RX_IDLE_STATE
          txQueue := queued
          timers := fun _ => none
          requested
          ledger := { accepted := queued } } :=
      ⟨⟨nofun, fun other => absurd rfl other⟩, ⟨nofun, nofun⟩⟩
    exact good_of_entered (fun _ _ _ => rfl) receiver (rfl : owner .endIFGMsg = _) (fun _ => some)
      (fun here => not_colliding here nofun nofun) (fun _ => nofun) _

end Handling

/-! ## Runs -/

section Runs

variable {par : Parameters} {first last : EtherMAC}

theorem Start.consistent (start : Start par first)
    (run : Run (Step par) first events last) : Consistent par last := by
  refine run.invariant ?_ (start_good start).1
  rintro _ _ _ consistent ⟨enabled, handled⟩
  exact ((handleMessage_keeps consistent enabled).2 _ handled).1

/-- The transmitter keeps going exactly as long as every event lets it. -/
theorem Start.lively_iff (start : Start par first) (run : Run (Step par) first events last) :
    (∀ before after middle, events = before ++ after →
        Run (Step par) first before middle → Good par middle) ↔
      ∀ before event after middle, events = before ++ event :: after →
        Run (Step par) first before middle → KeepsGoing par middle event := by
  refine run.invariant_iff_guard (step_deterministic _) _ _ ?_ (start_good start)
  rintro _ _ _ ⟨consistent, lively⟩ ⟨enabled, handled⟩
  have keeps := (handleMessage_keeps consistent enabled).2 _ handled
  constructor
  · exact fun good => (keeps.2 lively).mp good.2
  · exact fun admitted => ⟨keeps.1, (keeps.2 lively).mpr admitted⟩

/--
No timer is scheduled twice, and the transmitter keeps going in every state
of a run exactly when no PAUSE frame without pause arrives during a pause and
no discard at the attempt limit leaves frames to nobody.
-/
theorem transmit_timers (start : Start par first) (run : Run (Step par) first events last) :
    (∀ event timer, Enabled par last event →
        handleMessage par last event ≠ .error (.alreadyScheduled timer)) ∧
      ((∀ before after middle, events = before ++ after →
          Run (Step par) first before middle → Lively par middle) ↔
        ∀ before event after middle, events = before ++ event :: after →
          Run (Step par) first before middle → KeepsGoing par middle event) := by
  constructor
  · intro _ timer enabled failure
    have yields := handleMessage_keeps (Start.consistent start run) enabled
    exact yields.1 _ failure ⟨timer, rfl⟩
  · rw [← Start.lively_iff start run]
    constructor
    · intro lively _ _ _ split prefixRun
      exact ⟨Start.consistent start prefixRun, lively _ _ _ split prefixRun⟩
    · intro good _ _ _ split prefixRun
      exact (good _ _ _ split prefixRun).2

/-! ## A pause that never ends -/

def pauseFrame (units : Int) : EtherFrame where
  dest := ⟨1⟩
  byteLength := 64
  pauseTime := some units

/-- Ten units of pause, and then none. -/
def pausedTwice : List Event :=
  [ { time := 0, msg := .phys (.frame (pauseFrame 10)) 0 }, { time := 512, msg := .ENDRECEPTION },
    { time := 600, msg := .phys (.frame (pauseFrame 0)) 600 },
    { time := 1112, msg := .ENDRECEPTION } ]

/-- The transmitter is in a pause that no timer ends. -/
def stuck (mac : EtherMAC) : Bool :=
  mac.transmitState = .PAUSE_STATE && mac.timers .endPauseMsg = none

theorem pausedTwice_stuck :
    ∃ last, Run (Step cable) atRest pausedTwice last ∧ stuck last = true := by
  have computed : (replay cable atRest pausedTwice).map stuck = some true := by decide
  obtain ⟨last, replayed, holds⟩ := Option.map_eq_some_iff.mp computed
  exact ⟨last, run_of_replay _ replayed, holds⟩

theorem not_lively_of_stuck (inPause : stuck mac = true) : ¬Lively par mac := by
  intro lively
  rw [stuck, Bool.and_eq_true, decide_eq_true_iff, decide_eq_true_iff] at inPause
  have scheduled := (lively.timer .endPauseMsg .PAUSE_STATE rfl).mpr inPause.1
  rw [inPause.2] at scheduled
  cases scheduled

theorem transmit_timers_small :
    ∃ last, Run (Step cable) atRest pausedTwice last ∧
      (∀ event timer, Enabled cable last event →
        handleMessage cable last event ≠ .error (.alreadyScheduled timer)) ∧
      ∃ before event after middle,
        pausedTwice = before ++ event :: after ∧
          Run (Step cable) atRest before middle ∧ ¬KeepsGoing cable middle event := by
  obtain ⟨last, run, inPause⟩ := pausedTwice_stuck
  have both := transmit_timers atRest_start run
  refine ⟨last, run, both.1, ?_⟩
  by_contra none
  have lively := both.2.mpr fun before event after middle split reached => by
    by_contra stalls
    exact none ⟨before, event, after, middle, split, reached, stalls⟩
  exact not_lively_of_stuck inPause (lively _ [] _ (List.append_nil _).symm run)

/-- Not every run keeps the transmitter going. -/
theorem endless_pause :
    ¬∀ (par : Parameters) (first last : EtherMAC) (events : List Event),
      Start par first → Run (Step par) first events last → Lively par last := by
  intro every
  obtain ⟨_, run, inPause⟩ := pausedTwice_stuck
  exact not_lively_of_stuck inPause (every _ _ _ _ atRest_start run)

end Runs

end OmnetDsi.Linklayer.TransmitTimers
