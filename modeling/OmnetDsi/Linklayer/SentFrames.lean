import OmnetDsi.Linklayer.MediumAccess
import Mathlib.Data.List.Perm.Basic

/-!
# The frames that the MAC sends

The MAC knows the frame that it is sending as the front of the queue only.
`Tracks` says for every phase which frame was last on the wire and how many
copies and collisions each frame has had; it is kept as long as no PAUSE frame
is put before a frame that has been on the wire.
-/

namespace OmnetDsi.Linklayer.SentFrames

open Library.Fallible Library.Transition Linklayer.MediumAccess List EtherMAC

/-! ## What is to hold -/

/-- The frame is no PAUSE frame. -/
def isData (frame : EtherFrame) : Bool :=
  frame.pauseTime.isNone

/-- How often a frame was on the wire, and how often it collided. -/
def Copies (ledger : Ledger) (id copies collisions : Nat) : Prop :=
  ledger.transmitted.count id = copies ∧ ledger.collided.count id = collisions

/-- A frame that was sent without collision once. -/
def Sent (ledger : Ledger) (removal : Removal) : Prop :=
  removal.discarded = false ∧
    ∃ collisions, Copies ledger removal.frame.id (collisions + 1) collisions

/-- A frame that collided too often, and was never sent. -/
def Discarded (ledger : Ledger) (removal : Removal) : Prop :=
  removal.discarded = true ∧
    ∃ collisions, MAX_ATTEMPTS < collisions ∧ Copies ledger removal.frame.id collisions collisions

/-- The MAC transmits what it was given. -/
structure Faithful (mac : EtherMAC) : Prop where
  /-- A frame is removed or in the queue. -/
  each : ∀ frame ∈ mac.ledger.accepted,
    (∃ removal ∈ mac.ledger.removed, removal.frame.id = frame.id) ∨
      ∃ queued ∈ mac.txQueue, queued.id = frame.id
  /-- It is one of these, and once. -/
  once : (mac.ledger.removed.map (·.frame.id) ++ mac.txQueue.map EtherFrame.id).Nodup
  removed : ∀ removal ∈ mac.ledger.removed, Sent mac.ledger removal ∨ Discarded mac.ledger removal
  /-- A frame in the queue has not been sent, unless it is on the wire. -/
  queued : ∀ frame ∈ mac.txQueue, mac.transmitState ≠ .TRANSMITTING_STATE →
    ∃ collisions, Copies mac.ledger frame.id collisions collisions
  wire : ∀ removal ∈ mac.ledger.removed, removal.wire = some removal.frame.id
  /-- Data frames leave in the order in which they arrived. -/
  order :
    ((mac.ledger.removed.map Removal.frame ++ mac.txQueue).filter isData).map EtherFrame.id =
      (mac.ledger.accepted.filter isData).map EtherFrame.id

/-- A PAUSE frame does not go before a frame that was on the wire. -/
def FrontStays (mac : EtherMAC) (event : Event) : Prop :=
  match event.msg with
  | .upperLayerIn frame =>
    frame.pauseTime.isSome = true → mac.txQueue ≠ [] →
      mac.transmitState ≠ .TRANSMITTING_STATE ∧
        mac.transmitState ≠ .JAMMING_STATE ∧ mac.backoffs = 0
  | _ => True

/-! ## The front frame -/

/-- What happens to the front frame. -/
inductive Phase where
  | waiting
  | sending
  | jamming
deriving DecidableEq

def phase : TransmitState → Phase
  | .TX_IDLE_STATE => .waiting
  | .WAIT_IFG_STATE => .waiting
  | .TRANSMITTING_STATE => .sending
  | .JAMMING_STATE => .jamming
  | .BACKOFF_STATE => .waiting
  | .PAUSE_STATE => .waiting

/-- The copies of the front frame after some backoffs. -/
def Phase.copies (backoffs : Nat) : Phase → Nat
  | .waiting => backoffs
  | .sending => backoffs + 1
  | .jamming => backoffs + 1

/-- The collisions of the front frame after some backoffs. -/
def Phase.collisions (backoffs : Nat) : Phase → Nat
  | .waiting => backoffs
  | .sending => backoffs
  | .jamming => backoffs + 1

/-- The books of the MAC. -/
structure Tracks (now : Phase) (txQueue : List EtherFrame) (backoffs : Nat)
    (ledger : Ledger) : Prop where
  ids : ledger.accepted.map EtherFrame.id = range ledger.accepted.length
  kept : (ledger.removed.map (·.frame.id) ++
    txQueue.map EtherFrame.id).Perm (range ledger.accepted.length)
  order :
    ((ledger.removed.map Removal.frame ++ txQueue).filter isData).map EtherFrame.id =
      (ledger.accepted.filter isData).map EtherFrame.id
  wire : now ≠ .waiting → ∃ frame rest, txQueue = frame :: rest ∧
    ledger.transmitted.getLast? = some frame.id
  front : ∀ frame rest, txQueue = frame :: rest →
    Copies ledger frame.id (now.copies backoffs) (now.collisions backoffs)
  rest : ∀ frame rest, txQueue = frame :: rest → ∀ other ∈ rest, Copies ledger other.id 0 0
  empty : txQueue = [] → backoffs = 0
  fresh : ∀ id, ledger.accepted.length ≤ id → Copies ledger id 0 0
  removed : ∀ removal ∈ ledger.removed, Sent ledger removal ∨ Discarded ledger removal
  left : ∀ removal ∈ ledger.removed, removal.wire = some removal.frame.id

section Tracking

variable {now : Phase} {txQueue rest : List EtherFrame}
variable {frame : EtherFrame} {backoffs : Nat} {ledger : Ledger}

theorem Tracks.nodup (tracks : Tracks now txQueue backoffs ledger) :
    (ledger.removed.map (·.frame.id) ++ txQueue.map EtherFrame.id).Nodup :=
  tracks.kept.nodup_iff.mpr nodup_range

theorem Tracks.apart (tracks : Tracks now (frame :: rest) backoffs ledger) :
    (∀ other ∈ rest, frame.id ≠ other.id) ∧
      (∀ removal ∈ ledger.removed, frame.id ≠ removal.frame.id) ∧
      ∀ id, ledger.accepted.length ≤ id → frame.id ≠ id := by
  have distinct := tracks.nodup
  rw [nodup_append] at distinct
  rcases distinct with ⟨_, queue, between⟩
  rw [map_cons, nodup_cons] at queue
  refine ⟨?_, ?_, ?_⟩
  · intro _ member same
    apply queue.1
    rw [same]
    exact mem_map_of_mem member
  · intro removal member same
    exact between removal.frame.id (mem_map.mpr ⟨removal, member, rfl⟩)
      frame.id mem_cons_self same.symm
  · have known : frame.id ∈ range ledger.accepted.length := by
      apply tracks.kept.mem_iff.mp
      exact mem_append_right _ mem_cons_self
    rw [mem_range] at known
    omega

section

variable {id : Nat} (same : Copies ledger id copies collisions) (apart : other ≠ id)
include same apart

theorem Copies.transmit :
    Copies { ledger with transmitted := ledger.transmitted ++ [other] } id copies collisions := by
  refine ⟨?_, same.2⟩
  rw [count_append, same.1, count_singleton, if_neg (by rwa [beq_iff_eq])]
  rfl

theorem Copies.collide :
    Copies { ledger with collided := ledger.collided ++ [other] } id copies collisions := by
  refine ⟨same.1, ?_⟩
  rw [count_append, same.2, count_singleton, if_neg (by rwa [beq_iff_eq])]
  rfl

end

theorem Tracks.move {next : Phase} (tracks : Tracks now (frame :: rest) backoffs ledger)
    (accepted : moved.accepted = ledger.accepted) (removed : moved.removed = ledger.removed)
    (others : ∀ id copies collisions, frame.id ≠ id →
      Copies ledger id copies collisions → Copies moved id copies collisions)
    (wire : moved.transmitted.getLast? = some frame.id)
    (front : Copies moved frame.id (next.copies backoffs) (next.collisions backoffs)) :
    Tracks next (frame :: rest) backoffs moved := by
  have apart := tracks.apart
  refine
    { ids := by
        rw [accepted]
        exact tracks.ids
      kept := by
        rw [removed, accepted]
        exact tracks.kept
      order := by
        rw [removed, accepted]
        exact tracks.order
      wire := fun _ => ⟨frame, rest, rfl, wire⟩
      front := ?_
      rest := ?_
      empty := nofun
      fresh := ?_
      removed := ?_
      left := by
        rw [removed]
        exact tracks.left }
  · rintro _ _ same
    cases same
    exact front
  · intro _ _ same _ member
    cases same
    exact others _ _ _ (apart.1 _ member) (tracks.rest _ _ rfl _ member)
  · intro _ late
    rw [accepted] at late
    exact others _ _ _ (apart.2.2 _ late) (tracks.fresh _ late)
  · intro _ member
    rw [removed] at member
    have different := apart.2.1 _ member
    rcases tracks.removed _ member with ⟨kind, collisions, books⟩ |
      ⟨kind, collisions, many, books⟩
    · exact .inl ⟨kind, collisions, others _ _ _ different books⟩
    · exact .inr ⟨kind, collisions, many, others _ _ _ different books⟩

theorem Tracks.transmit (tracks : Tracks .waiting (frame :: rest) backoffs ledger) :
    Tracks .sending (frame :: rest) backoffs
      { ledger with
        transmitted := ledger.transmitted ++ [frame.id] } := by
  have books := tracks.front _ _ rfl
  refine tracks.move rfl rfl (fun id copies collisions apart same => same.transmit apart) ?_ ?_
  · exact getLast?_concat
  · refine ⟨?_, books.2⟩
    rw [count_append, books.1, count_singleton_self]
    rfl

theorem Tracks.collide (tracks : Tracks .sending (frame :: rest) backoffs ledger) :
    Tracks .jamming (frame :: rest) backoffs
      { ledger with
        collided := ledger.collided ++ ledger.transmitted.getLast?.toList } := by
  have books := tracks.front _ _ rfl
  obtain ⟨_, _, same, wire⟩ := tracks.wire nofun
  cases same
  rw [wire]
  refine tracks.move rfl rfl (fun id copies collisions apart same => same.collide apart) wire ?_
  refine ⟨books.1, ?_⟩
  dsimp only [Option.toList]
  rw [count_append, books.2, count_singleton_self]
  rfl

theorem Tracks.retry (tracks : Tracks .jamming txQueue backoffs ledger) :
    Tracks .waiting txQueue (backoffs + 1) ledger where
  ids := tracks.ids
  kept := tracks.kept
  order := tracks.order
  wire := fun other => absurd rfl other
  front := tracks.front
  rest := tracks.rest
  empty := by
    intro none
    obtain ⟨_, _, some, _⟩ := tracks.wire nofun
    rw [none] at some
    cases some
  fresh := tracks.fresh
  removed := tracks.removed
  left := tracks.left

theorem Tracks.leave (tracks : Tracks now (frame :: rest) backoffs ledger)
    (wire : ledger.transmitted.getLast? = some frame.id)
    (done : ∀ wire, Sent ledger ⟨frame, wire, discarded⟩ ∨
      Discarded ledger ⟨frame, wire, discarded⟩) :
    Tracks .waiting rest 0
      { ledger with
        removed := ledger.removed ++
          [{ frame
             wire := ledger.transmitted.getLast?
             discarded }] } where
  ids := tracks.ids
  kept := by
    have kept := tracks.kept
    rwa [map_append, append_assoc]
  order := by
    have order := tracks.order
    rwa [map_append, append_assoc]
  wire := fun other => absurd rfl other
  front := by
    rintro _ _ rfl
    exact tracks.rest _ _ rfl _ mem_cons_self
  rest := by
    rintro _ _ rfl _ member
    exact tracks.rest _ _ rfl _ (mem_cons_of_mem _ member)
  empty := fun _ => rfl
  fresh := tracks.fresh
  removed := by
    intro _ member
    rcases mem_append.mp member with old | new
    · exact tracks.removed _ old
    · rw [mem_singleton] at new
      rw [new]
      exact done _
  left := by
    intro _ member
    rcases mem_append.mp member with old | new
    · exact tracks.left _ old
    · rw [mem_singleton] at new
      rwa [new]

theorem Tracks.remove (tracks : Tracks .sending (frame :: rest) backoffs ledger) :
    Tracks .waiting rest 0
      { ledger with
        removed := ledger.removed ++
          [{ frame
             wire := ledger.transmitted.getLast?
             discarded := false }] } := by
  obtain ⟨_, _, same, wire⟩ := tracks.wire nofun
  cases same
  refine tracks.leave wire ?_
  exact fun _ => .inl ⟨rfl, backoffs, tracks.front _ _ rfl⟩

theorem Tracks.discard (tracks : Tracks .jamming (frame :: rest) backoffs ledger)
    (limit : backoffs + 1 > MAX_ATTEMPTS) :
    Tracks .waiting rest 0
      { ledger with
        removed := ledger.removed ++
          [{ frame
             wire := ledger.transmitted.getLast?
             discarded := true }] } := by
  obtain ⟨_, _, same, wire⟩ := tracks.wire nofun
  cases same
  refine tracks.leave wire ?_
  exact fun _ => .inr ⟨rfl, backoffs + 1, limit, tracks.front _ _ rfl⟩

theorem Tracks.extend
    (tracks : Tracks now (frame :: rest) backoffs ledger) (id : longer.id = frame.id)
    (pauseTime : longer.pauseTime = frame.pauseTime) :
    Tracks now (longer :: rest) backoffs ledger where
  ids := tracks.ids
  kept := by
    have kept := tracks.kept
    rwa [map_cons, id]
  order := by
    rw [← tracks.order, filter_append, filter_append, map_append, map_append]
    have kind : isData longer = isData frame := by
      unfold isData
      rw [pauseTime]
    rw [filter_cons, filter_cons, kind]
    split
    · rw [map_cons, map_cons, id]
    · rfl
  wire := by
    intro onWire
    obtain ⟨_, _, same, wire⟩ := tracks.wire onWire
    cases same
    exact ⟨longer, rest, rfl, by rw [wire, id]⟩
  front := by
    rintro _ _ same
    cases same
    rw [id]
    exact tracks.front _ _ rfl
  rest := by
    rintro _ _ same
    cases same
    exact tracks.rest _ _ rfl
  empty := nofun
  fresh := tracks.fresh
  removed := tracks.removed
  left := tracks.left

section

variable (tracks : Tracks now txQueue backoffs ledger) (id : frame.id = ledger.accepted.length)
include tracks id

/-- A frame that has not been on the wire goes in front of the queue. -/
theorem Tracks.prepend (kind : isData frame = false)
    (stays : txQueue ≠ [] → now = .waiting ∧ backoffs = 0) :
    Tracks now (frame :: txQueue) backoffs
      { ledger with accepted := ledger.accepted ++ [frame] } := by
  have still : now = .waiting ∧ backoffs = 0 := by
    by_cases none : txQueue = []
    · refine ⟨?_, tracks.empty none⟩
      by_contra onWire
      obtain ⟨other, _, some, _⟩ := tracks.wire onWire
      rw [none] at some
      cases some
    · exact stays none
  rcases still with ⟨rfl, rfl⟩
  refine
    { ids := ?_
      kept := ?_
      order := ?_
      wire := fun other => absurd rfl other
      front := ?_
      rest := ?_
      empty := nofun
      fresh := ?_
      removed := tracks.removed
      left := tracks.left }
  · rw [map_append, tracks.ids, length_append, length_singleton, range_succ, map_singleton, id]
  · rw [length_append, length_singleton, range_succ, map_cons, id]
    exact perm_middle.trans ((tracks.kept.cons _).trans (perm_append_singleton _ _).symm)
  · rw [filter_append, filter_cons, kind, filter_append,
      filter_singleton, kind, if_neg (by decide), cond_false,
      append_nil, ← tracks.order, filter_append]
  · rintro _ _ same
    cases same
    rw [id]
    exact tracks.fresh _ le_rfl
  · rintro _ _ same _ member
    cases same
    cases txQueue with
    | nil => cases member
    | cons front _ =>
      rcases mem_cons.mp member with rfl | later
      · exact tracks.front _ _ rfl
      · exact tracks.rest _ _ rfl _ later
  · intro _ late
    apply tracks.fresh
    rw [length_append] at late
    omega

theorem Tracks.enqueue :
    Tracks now (txQueue ++ [frame]) backoffs
      { ledger with accepted := ledger.accepted ++ [frame] } := by
  refine
    { ids := ?_
      kept := ?_
      order := ?_
      wire := ?_
      front := ?_
      rest := ?_
      empty := ?_
      fresh := ?_
      removed := tracks.removed
      left := tracks.left }
  · rw [map_append, tracks.ids, length_append, length_singleton, range_succ, map_singleton, id]
  · rw [length_append, length_singleton, range_succ, map_append, map_singleton, id, ← append_assoc]
    exact tracks.kept.append_right _
  · rw [← append_assoc, filter_append, map_append, tracks.order, filter_append, map_append]
  · intro onWire
    obtain ⟨front, behind, same, wire⟩ := tracks.wire onWire
    refine ⟨front, behind ++ [frame], ?_, wire⟩
    rw [same]
    rfl
  · intro front _ same
    cases txQueue with
    | nil =>
      cases same
      have waiting : now = .waiting := by
        by_contra onWire
        obtain ⟨_, _, some, _⟩ := tracks.wire onWire
        cases some
      have none := tracks.empty rfl
      rw [id, waiting, none]
      exact tracks.fresh _ le_rfl
    | cons _ _ =>
      cases same
      exact tracks.front _ _ rfl
  · intro _ _ same _ member
    cases txQueue with
    | nil =>
      cases same
      cases member
    | cons _ _ =>
      cases same
      rcases mem_append.mp member with old | new
      · exact tracks.rest _ _ rfl _ old
      · rw [mem_singleton] at new
        rw [new, id]
        exact tracks.fresh _ le_rfl
  · intro none
    exact absurd none (append_ne_nil_of_right_ne_nil _ (cons_ne_nil _ _))
  · intro _ late
    apply tracks.fresh
    rw [length_append] at late
    omega

end

end Tracking

/-! ## The handlers -/

/-- The books of the MAC in its transmit state. -/
def Accounted (mac : EtherMAC) : Prop :=
  Tracks (phase mac.transmitState) mac.txQueue mac.backoffs mac.ledger

/-- The frames and the transmit state are the same. -/
structure SameFrames (mac next : EtherMAC) : Prop where
  transmitState : phase next.transmitState = phase mac.transmitState
  txQueue : next.txQueue = mac.txQueue
  backoffs : next.backoffs = mac.backoffs
  ledger : next.ledger = mac.ledger

section Handling

variable (par : Parameters) {mac : EtherMAC}

theorem SameFrames.trans {next : EtherMAC} (one : SameFrames mac middle)
    (other : SameFrames middle next) : SameFrames mac next :=
  ⟨other.transmitState.trans one.transmitState,
    other.txQueue.trans one.txQueue, other.backoffs.trans one.backoffs,
    other.ledger.trans one.ledger⟩

theorem SameFrames.accounted {next : EtherMAC} (same : SameFrames mac next)
    (accounted : Accounted mac) : Accounted next := by
  rwa [Accounted, same.transmitState, same.txQueue, same.backoffs, same.ledger]

theorem scheduleAt_returns (time : Int) (timer : Timer) :
    Returns (fun next => next = { mac with timers := Function.update mac.timers timer (some time) })
      (mac.scheduleAt time timer) := by
  unfold scheduleAt
  split
  · exact .error id
  · exact .ok rfl

/-- The books of a transmitter that does not send. -/
def Waiting (mac : EtherMAC) : Prop :=
  Tracks .waiting mac.txQueue mac.backoffs mac.ledger

theorem scheduleEndIFGPeriod_accounted (waiting : Waiting mac) :
    Returns Accounted (mac.scheduleEndIFGPeriod par) := by
  refine (scheduleAt_returns _ _).bind ?_
  rintro _ rfl
  exact .ok waiting

theorem scheduleEndPausePeriod_accounted (waiting : Waiting mac) (pauseUnits : Int) :
    Returns Accounted (mac.scheduleEndPausePeriod par pauseUnits) := by
  refine (scheduleAt_returns _ _).bind ?_
  rintro _ rfl
  exact .ok waiting

theorem beginSendFrames_accounted (waiting : Waiting mac) :
    Returns Accounted (mac.beginSendFrames par) := by
  unfold beginSendFrames
  split
  · exact scheduleEndIFGPeriod_accounted _ waiting
  · exact .ok waiting

variable {frame : EtherFrame}

theorem sendJamSignal_accounted (sending : Tracks .sending (frame :: rest) mac.backoffs mac.ledger)
    (queue : mac.txQueue = frame :: rest) : Returns Accounted (mac.sendJamSignal par) := by
  refine (scheduleAt_returns _ _).bind ?_
  rintro _ rfl
  refine .ok ?_
  have collided := sending.collide
  rwa [← queue] at collided

theorem startFrameTransmission_accounted (waiting : Waiting mac) :
    Returns Accounted (mac.startFrameTransmission par) := by
  unfold startFrameTransmission
  split
  · exact .error id
  case h_2 frame rest queue =>
    rw [Waiting, queue] at waiting
    have sending : Tracks .sending (frame :: rest) (mac.putOnWire par frame).backoffs
        (mac.putOnWire par frame).ledger :=
      waiting.transmit
    have same : (mac.putOnWire par frame).txQueue = frame :: rest := queue
    dsimp only
    split
    · refine (sendJamSignal_accounted _ sending same).bind ?_
      intro _ accounted
      exact .ok accounted
    · refine (scheduleAt_returns _ _).bind ?_
      rintro _ rfl
      rw [← same] at sending
      exact .ok sending

theorem handleEndIFGPeriod_accounted (accounted : Accounted mac) :
    Returns Accounted (mac.handleEndIFGPeriod par) := by
  unfold handleEndIFGPeriod
  split
  · exact .error id
  case isFalse state =>
    rw [not_not] at state
    split
    · exact .error id
    case h_2 frame rest queue =>
      rw [Accounted, state, queue] at accounted
      apply startFrameTransmission_accounted
      unfold Waiting prepareFront
      apply accounted.extend
      all_goals split <;> rfl

theorem afterTransmission_accounted (waiting : Waiting mac) :
    Returns Accounted (mac.afterTransmission par) := by
  unfold afterTransmission
  split
  · refine (scheduleEndPausePeriod_accounted _ waiting _).bind ?_
    intro _ accounted
    exact .ok accounted
  · unfold sendNext
    split
    · exact startFrameTransmission_accounted _ waiting
    · exact beginSendFrames_accounted _ waiting

section

variable (accounted : Accounted mac)
include accounted

theorem handleEndTxPeriod_accounted : Returns Accounted (mac.handleEndTxPeriod par) := by
  unfold handleEndTxPeriod
  split
  · exact .error id
  case isFalse state =>
    rw [not_or, not_not] at state
    split
    · exact .error id
    case h_2 frame rest queue =>
      rw [Accounted, state.1, queue] at accounted
      exact afterTransmission_accounted _ accounted.remove

theorem handleEndPausePeriod_accounted : Returns Accounted (mac.handleEndPausePeriod par) := by
  unfold handleEndPausePeriod
  split
  · exact .error id
  case isFalse state =>
    rw [not_not] at state
    rw [Accounted, state] at accounted
    exact beginSendFrames_accounted _ accounted

theorem handleEndJammingPeriod_accounted (slotNumber : Nat) :
    Returns Accounted (mac.handleEndJammingPeriod par slotNumber) := by
  unfold handleEndJammingPeriod
  split
  · exact .error id
  case isFalse state =>
    rw [not_not] at state
    rw [Accounted, state] at accounted
    unfold handleRetransmission
    split
    case isTrue limit =>
      split
      · exact .error id
      case h_2 frame rest queue =>
        rw [queue] at accounted
        exact .ok (accounted.discard limit)
    case isFalse =>
      refine (scheduleAt_returns _ _).bind ?_
      rintro _ rfl
      exact .ok accounted.retry

theorem handleEndBackoffPeriod_accounted : Returns Accounted (mac.handleEndBackoffPeriod par) := by
  unfold handleEndBackoffPeriod
  split
  · exact .error id
  case isFalse state =>
    rw [not_not] at state
    rw [Accounted, state] at accounted
    split
    · exact .error id
    · split
      · exact scheduleEndIFGPeriod_accounted _ accounted
      · exact .ok accounted

end

/-! ### Receiving -/

theorem scheduleEndPausePeriod_same
    (same : SameFrames mac base) (waiting : phase mac.transmitState = .waiting) (pauseUnits : Int) :
    Returns (SameFrames mac) (base.scheduleEndPausePeriod par pauseUnits) := by
  refine (scheduleAt_returns _ _).bind ?_
  rintro _ rfl
  exact .ok ⟨waiting.symm, same.txQueue, same.backoffs, same.ledger⟩

theorem takeReceived_same : Returns (SameFrames mac) (mac.takeReceived par) := by
  unfold takeReceived
  split
  · exact .error id
  · unfold frameReceptionComplete
    split
    · unfold processPauseCommand
      split
      case isTrue idle =>
        split
        · refine scheduleEndPausePeriod_same _ ?_ ?_ _
          · exact ⟨rfl, rfl, rfl, rfl⟩
          · rw [idle]
            rfl
        · exact .ok ⟨rfl, rfl, rfl, rfl⟩
      case isFalse =>
        split
        case isTrue paused =>
          split
          · refine scheduleEndPausePeriod_same _ ?_ ?_ _
            · exact ⟨rfl, rfl, rfl, rfl⟩
            · rw [paused]
              rfl
          · exact .ok ⟨rfl, rfl, rfl, rfl⟩
        case isFalse => exact .ok ⟨rfl, rfl, rfl, rfl⟩
    · exact .ok ⟨rfl, rfl, rfl, rfl⟩

theorem receiverIdle_accounted (accounted : Accounted mac) :
    Returns Accounted (mac.receiverIdle par) := by
  dsimp only [receiverIdle]
  split
  case isTrue idle =>
    rw [Accounted, idle.1] at accounted
    exact scheduleEndIFGPeriod_accounted _ accounted
  case isFalse => exact .ok accounted

theorem handleEndRxPeriod_accounted (accounted : Accounted mac) :
    Returns Accounted (mac.handleEndRxPeriod par) := by
  unfold handleEndRxPeriod
  split
  · refine (takeReceived_same _).bind ?_
    intro _ same
    exact receiverIdle_accounted _ (same.accounted accounted)
  · exact receiverIdle_accounted _ accounted

theorem beginReception_same (frame : EtherFrame) :
    Returns (SameFrames mac) (mac.beginReception par frame) := by
  refine (scheduleAt_returns _ _).bind ?_
  rintro _ rfl
  exact .ok ⟨rfl, rfl, rfl, rfl⟩

theorem backToBack_same (frame : EtherFrame) :
    Returns (SameFrames mac) (mac.backToBack par frame) := by
  refine (takeReceived_same _).bind ?_
  intro _ one
  refine Yields.mono (beginReception_same _ _) ?_
  intro _ other
  have same := one.trans other
  exact ⟨same.transmitState, same.txQueue, same.backoffs, same.ledger⟩

theorem overlappingJam_same (endRxTime : Int) :
    Returns (SameFrames mac) (mac.overlappingJam endRxTime) := by
  unfold overlappingJam
  split
  · exact .error id
  · dsimp only
    split
    · refine (scheduleAt_returns _ _).bind ?_
      rintro _ rfl
      exact .ok ⟨rfl, rfl, rfl, rfl⟩
    · exact .ok ⟨rfl, rfl, rfl, rfl⟩

theorem overlappingFrame_same (endRxTime : Int) :
    Returns (SameFrames mac) (mac.overlappingFrame endRxTime) := by
  unfold overlappingFrame
  split
  · exact .error id
  · split
    · refine (scheduleAt_returns _ _).bind ?_
      rintro _ rfl
      exact .ok ⟨rfl, rfl, rfl, rfl⟩
    · exact .ok ⟨rfl, rfl, rfl, rfl⟩

theorem overlap_same (endRxTime : Int) (signal : Signal) :
    Returns (SameFrames mac) (mac.overlap par endRxTime signal) := by
  cases signal with
  | jam _ => exact overlappingJam_same _
  | frame _ =>
    dsimp only [overlap]
    split
    · exact backToBack_same _ _
    · exact overlappingFrame_same _

theorem firstSignal_same (signal : Signal) :
    Returns (SameFrames mac) (mac.firstSignal par signal) := by
  cases signal with
  | jam _ => exact .error id
  | frame _ =>
    dsimp only [firstSignal]
    split
    · exact .error id
    · refine Yields.mono (beginReception_same _ _) ?_
      intro _ same
      exact ⟨same.transmitState, same.txQueue, same.backoffs, same.ledger⟩

theorem interruptTransmission_accounted (accounted : Accounted mac)
    (sending : mac.transmitState = .TRANSMITTING_STATE) (endRxTime : Int) :
    Returns Accounted (mac.interruptTransmission par endRxTime) := by
  rw [Accounted, sending] at accounted
  obtain ⟨_, _, queue, _⟩ := accounted.wire nofun
  rw [queue] at accounted
  have jam : Returns Accounted ((mac.cancelEvent .endTxMsg).sendJamSignal par) :=
    sendJamSignal_accounted _ accounted queue
  refine Yields.bind jam ?_
  intro _ jammed
  refine Yields.mono (scheduleAt_returns _ _) ?_
  rintro _ rfl
  exact jammed

theorem processMsgFromNetwork_accounted (accounted : Accounted mac)
    (signal : Signal) (sendingTime : Int) :
    Returns Accounted (mac.processMsgFromNetwork par signal sendingTime) := by
  unfold processMsgFromNetwork
  split
  · exact .error id
  · split
    case isTrue sending =>
      cases signal with
      | jam _ => exact .error id
      | frame _ => exact interruptTransmission_accounted _ accounted sending.2 _
    case isFalse =>
      split
      · refine Yields.mono (firstSignal_same _ _) ?_
        exact fun next same => same.accounted accounted
      · refine Yields.mono (overlap_same _ _ _) ?_
        exact fun next same => same.accounted accounted

/-! ### The upper layer -/

section

variable (accounted : Accounted mac)
    (stays : frame.pauseTime.isSome = true → mac.txQueue ≠ [] →
      mac.transmitState ≠ .TRANSMITTING_STATE ∧ mac.transmitState ≠ .JAMMING_STATE ∧
        mac.backoffs = 0)
include accounted stays

theorem acceptFrame_accounted : Accounted (mac.acceptFrame par frame) := by
  dsimp only [Accounted, acceptFrame, insertFrame]
  split
  case isTrue pause =>
    refine Tracks.prepend accounted rfl ?_ ?_
    · rw [isData, ← Option.not_isSome, pause]
      rfl
    · intro some
      rcases stays pause some with ⟨sending, jamming, none⟩
      refine ⟨?_, none⟩
      cases state : mac.transmitState with
      | TRANSMITTING_STATE => exact absurd state sending
      | JAMMING_STATE => exact absurd state jamming
      | TX_IDLE_STATE => rfl
      | WAIT_IFG_STATE => rfl
      | BACKOFF_STATE => rfl
      | PAUSE_STATE => rfl
  case isFalse => exact Tracks.enqueue accounted rfl

theorem processFrameFromUpperLayer_accounted :
    Returns Accounted (mac.processFrameFromUpperLayer par frame) := by
  have filled := acceptFrame_accounted par accounted stays
  unfold processFrameFromUpperLayer
  split
  · exact .error id
  · split
    · exact .error id
    · split
      · exact .error id
      · dsimp only
        split
        case isTrue idle =>
          rw [Bool.and_eq_true, beq_iff_eq] at idle
          apply scheduleEndIFGPeriod_accounted
          rwa [Accounted, idle.2] at filled
        case isFalse => exact .ok filled

end

/-! ## Runs -/

theorem arrive_same (mac : EtherMAC) (event : Event) : SameFrames mac (mac.arrive event) := by
  unfold arrive
  split
  all_goals exact ⟨rfl, rfl, rfl, rfl⟩

theorem handleMessage_accounted (accounted : Accounted mac)
    (stays : FrontStays mac event) : Returns Accounted (handleMessage par mac event) := by
  have arrived := (arrive_same _ event).accounted accounted
  rcases event with ⟨_, msg⟩
  unfold handleMessage
  split
  · exact .error id
  · cases msg with
    | upperLayerIn _ => exact processFrameFromUpperLayer_accounted _ arrived stays
    | phys _ _ =>
      exact processMsgFromNetwork_accounted _ arrived _ _
    | ENDIFG => exact handleEndIFGPeriod_accounted _ arrived
    | ENDTRANSMISSION => exact handleEndTxPeriod_accounted _ arrived
    | ENDRECEPTION => exact handleEndRxPeriod_accounted _ arrived
    | ENDBACKOFF => exact handleEndBackoffPeriod_accounted _ arrived
    | ENDJAMMING _ => exact handleEndJammingPeriod_accounted _ arrived _
    | ENDPAUSE => exact handleEndPausePeriod_accounted par arrived

end Handling

section Runs

variable {par : Parameters} {first last : EtherMAC}

theorem start_accounted (start : Start par first) : Accounted first := by
  cases start with
  | idle _ =>
    exact
      { ids := rfl
        kept := Perm.refl _
        order := rfl
        wire := fun other => absurd rfl other
        front := nofun
        rest := nofun
        empty := fun _ => rfl
        fresh := fun _ _ => ⟨rfl, rfl⟩
        removed := nofun
        left := nofun }
  | waiting _ _ numbered _ =>
    exact
      { ids := numbered
        kept := Perm.of_eq numbered
        order := rfl
        wire := fun other => absurd rfl other
        front := fun _ _ _ => ⟨rfl, rfl⟩
        rest := fun _ _ _ _ _ => ⟨rfl, rfl⟩
        empty := fun _ => rfl
        fresh := fun _ _ => ⟨rfl, rfl⟩
        removed := nofun
        left := nofun }

theorem Accounted.faithful (accounted : Accounted mac) : Faithful mac where
  each := by
    intro frame member
    have known : frame.id ∈ range mac.ledger.accepted.length := by
      rw [← accounted.ids]
      exact mem_map_of_mem member
    have placed := accounted.kept.mem_iff.mpr known
    rcases mem_append.mp placed with gone | waits
    · exact .inl (mem_map.mp gone)
    · exact .inr (mem_map.mp waits)
  once := accounted.nodup
  removed := accounted.removed
  queued := by
    intro _ member silent
    have balanced : ∃ collisions,
        (phase mac.transmitState).copies mac.backoffs = collisions ∧
          (phase mac.transmitState).collisions mac.backoffs = collisions := by
      cases state : mac.transmitState with
      | TRANSMITTING_STATE => exact absurd state silent
      | JAMMING_STATE => exact ⟨_, rfl, rfl⟩
      | TX_IDLE_STATE => exact ⟨_, rfl, rfl⟩
      | WAIT_IFG_STATE => exact ⟨_, rfl, rfl⟩
      | BACKOFF_STATE => exact ⟨_, rfl, rfl⟩
      | PAUSE_STATE => exact ⟨_, rfl, rfl⟩
    obtain ⟨collisions, copies, same⟩ := balanced
    cases queue : mac.txQueue with
    | nil =>
      rw [queue] at member
      cases member
    | cons front rest =>
      rw [queue] at member
      rcases mem_cons.mp member with rfl | later
      · have books := accounted.front _ _ queue
        rw [copies, same] at books
        exact ⟨collisions, books⟩
      · exact ⟨0, accounted.rest _ _ queue _ later⟩
  wire := accounted.left
  order := accounted.order

/--
As long as no PAUSE frame is put before a frame that was on the wire, the MAC
transmits what it was given.
-/
theorem sent_frames (start : Start par first)
    (run : Run (guardedStep FrontStays (Step par)) first events last) : Faithful last := by
  apply Accounted.faithful
  refine run.guarded ?_ (start_accounted start)
  rintro _ _ _ accounted stays ⟨_, handled⟩
  exact (handleMessage_accounted _ accounted stays).2 _ handled

theorem guarded_of_data (data : ∀ event ∈ events, ∀ mac, FrontStays mac event)
    (run : Run (Step par) first events last) :
    Run (guardedStep FrontStays (Step par)) first events last := by
  induction run with
  | idle _ => exact .idle _
  | next head _ induction =>
    refine .next ⟨data _ mem_cons_self _, head⟩ (induction ?_)
    exact fun event member => data _ (mem_cons_of_mem _ member)

def dataFrame : EtherFrame where
  dest := ⟨2⟩
  byteLength := 64

def pauseAbove : EtherFrame where
  dest := ⟨2⟩
  byteLength := 64
  pauseTime := some 1

/-- A frame is sent. -/
def sentAlone : List Event :=
  [ { time := 0, msg := .upperLayerIn dataFrame },
    { time := 96, msg := .ENDIFG }, { time := 672, msg := .ENDTRANSMISSION } ]

theorem sent_frames_small :
    ∃ last, Run (guardedStep FrontStays (Step cable)) atRest sentAlone last ∧
      Faithful last ∧ last.ledger.removed.map (·.frame.id) = [0] := by
  have computed :
      (replay cable atRest sentAlone).map
        (fun mac => mac.ledger.removed.map (·.frame.id)) = some [0] := by
    decide
  obtain ⟨last, replayed, removed⟩ := Option.map_eq_some_iff.mp computed
  have guarded : Run (guardedStep FrontStays (Step cable)) atRest sentAlone last := by
    refine guarded_of_data ?_ (run_of_replay _ replayed)
    intro _ member _
    simp only [sentAlone, mem_cons, not_mem_nil, or_false] at member
    rcases member with rfl | rfl | rfl
    · exact nofun
    · trivial
    · trivial
  exact ⟨last, guarded, sent_frames atRest_start guarded, removed⟩

/-- A PAUSE frame is handed down while the data frame is on the wire. -/
def pausedWhileSending : List Event :=
  [ { time := 0, msg := .upperLayerIn dataFrame }, { time := 96, msg := .ENDIFG },
    { time := 100, msg := .upperLayerIn pauseAbove }, { time := 672, msg := .ENDTRANSMISSION } ]

/-- The frame that leaves the queue need not be the one that was sent. -/
theorem unsent_removed :
    ¬∀ (par : Parameters) (first last : EtherMAC) (events : List Event),
      Start par first → Run (Step par) first events last → Faithful last := by
  intro every
  have computed :
      (replay cable atRest pausedWhileSending).map
        (fun mac => mac.ledger.removed.map fun removal =>
          (removal.wire, removal.frame.id)) = some [(some 0, 1)] := by
    decide
  obtain ⟨last, replayed, removed⟩ := Option.map_eq_some_iff.mp computed
  have faithful := every _ _ _ _ atRest_start (run_of_replay _ replayed)
  have member : (some 0, 1) ∈ last.ledger.removed.map fun removal =>
      (removal.wire, removal.frame.id) := by
    rw [removed]
    exact mem_cons_self
  obtain ⟨_, here, same⟩ := mem_map.mp member
  have wire := faithful.wire _ here
  rw [Prod.mk.injEq] at same
  rw [same.1, same.2] at wire
  cases wire

end Runs

end OmnetDsi.Linklayer.SentFrames
