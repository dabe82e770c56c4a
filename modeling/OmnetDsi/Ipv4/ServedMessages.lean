import OmnetDsi.Base.QueueRuns
import OmnetDsi.Ipv4.EdgeSwitches

/-!
# The messages that IP takes in

`IP::endService` tells the messages apart by the gate on which they arrived
and only then by their class.  `QueueBase::arrival` and `arrivalWhenIdle` look
inside a message before: one with an encapsulated message is taken for an
`IPDatagram`.  `count_pkt_in_queue` takes every message of `queue` for one.
-/

namespace OmnetDsi.Ipv4.ServedMessages

open Base.AbstractQueue Base.QueueRuns Ipv4.Datagrams Library.Fallible Library.Transition

/-! ## Messages -/

inductive ArrivalGate where
  | transportIn
  | udpIn
  | queueIn
deriving DecidableEq

/-- The class of a message; `transport` stands for the other packets. -/
inductive MessageClass where
  | datagram (datagram : IPDatagram)
  | arp
  | transport
deriving DecidableEq

structure Message where
  arrivalGate : ArrivalGate
  content : MessageClass
  /-- `getEncapsulatedMsg() != NULL` -/
  encapsulates : Bool

/-- `dynamic_cast<IPDatagram *>` -/
def Message.datagram (msg : Message) : Option IPDatagram :=
  match msg.content with
  | .datagram datagram => some datagram
  | .arp => none
  | .transport => none

def Message.isDatagram (msg : Message) : Prop :=
  msg.datagram.isSome = true

/-- `check_and_cast<IPDatagram *>` -/
def castDatagram (msg : Message) : Except SimError IPDatagram :=
  match msg.datagram with
  | some datagram => .ok datagram
  | none => .error .badCast

/-! ## Functions of the module -/

/-- The function that serves a message. -/
inductive Service where
  | handleMessageFromHL
  | handleARP
  | handlePacketFromNetwork (datagram : IPDatagram)

def endService (msg : Message) : Except SimError Service :=
  if msg.arrivalGate = .transportIn ∨ msg.arrivalGate = .udpIn then .ok .handleMessageFromHL
  else if msg.content = .arp then .ok .handleARP
  else do
    let dgram ← castDatagram msg
    .ok (.handlePacketFromNetwork dgram)

/-- The queue of the module, whatever is done with the messages served. -/
def queueBase (delay : SimTime)
    (serve : Subclass → List Message → Message → Subclass × List Message) :
    Server Subclass Message where
  hasEncapsulatedMsg := Message.encapsulates
  datagramProtocol := fun msg => msg.datagram.map IPDatagram.transportProtocol
  startService := fun _ _ => delay
  endService := serve

/-- Whether a queued packet is of the flow. -/
def sameFlow (itrtr datagram : IPDatagram) : Bool :=
  itrtr.destAddress.getInt == datagram.destAddress.getInt &&
    itrtr.srcAddress.getInt == datagram.srcAddress.getInt &&
    itrtr.destPort == datagram.destPort && itrtr.srcPort == datagram.srcPort

/-- The body of the loop of `count_pkt_in_queue`. -/
def countPacket (datagram : IPDatagram) (count : Nat) (cp : Message) : Except SimError Nat := do
  let itrtr ← castDatagram cp
  .ok (if sameFlow itrtr datagram then count + 1 else count)

def count_pkt_in_queue (queue : List Message) (datagram : IPDatagram) : Except SimError Nat :=
  queue.foldlM (countPacket datagram) 0

/-! ## Casts -/

theorem castDatagram_total : (∃ datagram, castDatagram msg = .ok datagram) ↔ msg.isDatagram := by
  unfold castDatagram Message.isDatagram
  cases msg.datagram with
  | none =>
    constructor
    · rintro ⟨datagram, same⟩
      cases same
    · intro isSome
      cases isSome
  | some datagram => exact ⟨fun _ => rfl, fun _ => ⟨datagram, rfl⟩⟩

theorem foldlM_countPacket_total {queue : List Message} :
    (∃ count, queue.foldlM (countPacket datagram) start = .ok count) ↔
      ∀ msg ∈ queue, msg.isDatagram := by
  induction queue generalizing start with
  | nil =>
    constructor
    · intro _ _ member
      cases member
    · exact fun _ => ⟨start, rfl⟩
  | cons msg _ induction =>
    rw [List.forall_mem_cons, ← castDatagram_total]
    simp only [List.foldlM_cons, bind_eq_ok]
    constructor
    · rintro ⟨count, _, counted, final⟩
      obtain ⟨itrtr, cast, _⟩ := bind_eq_ok.mp counted
      exact ⟨⟨itrtr, cast⟩, induction.mp ⟨count, final⟩⟩
    · rintro ⟨⟨itrtr, cast⟩, others⟩
      have counted : countPacket datagram start msg =
          .ok (if sameFlow itrtr datagram then start + 1 else start) := by
        rw [countPacket, cast]
        rfl
      obtain ⟨count, final⟩ := induction.mpr others
      exact ⟨count, _, counted, final⟩

/-- The scan finds an error exactly in a queue with other messages. -/
theorem count_pkt_in_queue_total (datagram : IPDatagram) :
    (∃ count, count_pkt_in_queue queue datagram = .ok count) ↔ ∀ msg ∈ queue, msg.isDatagram :=
  foldlM_countPacket_total

theorem count_pkt_in_queue_eq (gate : ArrivalGate) (encapsulates : Bool)
    (queue : List IPDatagram) (datagram : IPDatagram) :
    count_pkt_in_queue (queue.map fun itrtr => ⟨gate, .datagram itrtr, encapsulates⟩) datagram =
      .ok (EdgeSwitches.count_pkt_in_queue queue datagram) := by
  have counted : ∀ start,
      (queue.map fun itrtr => (⟨gate, .datagram itrtr, encapsulates⟩ :
          Message)).foldlM (countPacket datagram) start =
        .ok (start + queue.countP fun itrtr => sameFlow itrtr datagram) := by
    induction queue with
    | nil => exact fun start => rfl
    | cons itrtr rest induction =>
      intro start
      rw [List.map_cons, List.foldlM_cons, List.countP_cons]
      change (rest.map _).foldlM (countPacket datagram)
        (if sameFlow itrtr datagram then start + 1 else start) = _
      rw [induction]
      congr 1
      split
      all_goals omega
  have start := counted 0
  rwa [Nat.zero_add] at start

/-! ## Classification -/

section Classification

variable (delay : SimTime) (serve : Subclass → List Message → Message → Subclass × List Message)

theorem entersProbeQueue_total :
    (∃ diverted, entersProbeQueue (queueBase delay serve) msg = .ok diverted) ↔
      (msg.encapsulates = true → msg.isDatagram) := by
  dsimp only [entersProbeQueue, queueBase, Message.isDatagram]
  split
  case isFalse plain => exact ⟨fun _ inner => absurd inner plain, fun _ => ⟨false, rfl⟩⟩
  case isTrue inner =>
    cases msg.datagram with
    | none =>
      constructor
      · rintro ⟨_, same⟩
        cases same
      · intro isSome
        cases isSome inner
    | some _ => exact ⟨fun _ _ => rfl, fun _ => ⟨_, rfl⟩⟩

theorem isDatagram_of_diverted
    (diverted : entersProbeQueue (queueBase delay serve) msg = .ok true) : msg.isDatagram := by
  dsimp only [entersProbeQueue, queueBase] at diverted
  unfold Message.isDatagram
  split at diverted
  · cases found : msg.datagram with
    | none =>
      rw [found] at diverted
      cases diverted
    | some _ => rfl
  · cases diverted

/-- No cast of `arrival` fails, and none of the scans after it. -/
def ArrivalCasts (state : QueueState Subclass Message) (msg : Message) : Prop :=
  ∃ next, arrival (queueBase delay serve) state msg = .ok next ∧
    ∀ datagram, ∃ count, count_pkt_in_queue next.queue datagram = .ok count

def IdleCasts (state : QueueState Subclass Message) (msg : Message) : Prop :=
  ∃ next, arrivalWhenIdle (queueBase delay serve) state msg = .ok next ∧
    ∀ datagram, ∃ count, count_pkt_in_queue next.1.queue datagram = .ok count

variable (state : QueueState Subclass Message) (msg : Message)

theorem arrivalCasts_iff :
    ArrivalCasts delay serve state msg ↔
      (∀ other ∈ state.queue, other.isDatagram) ∧ msg.isDatagram := by
  have total := @entersProbeQueue_total _ delay serve msg
  simp only [ArrivalCasts, arrival, count_pkt_in_queue_total]
  cases entered : entersProbeQueue (queueBase delay serve) msg with
  | error _ =>
    constructor
    · rintro ⟨_, same, _⟩
      cases same
    · rintro ⟨_, isDatagram⟩
      obtain ⟨diverted, same⟩ := total.mpr fun _ => isDatagram
      rw [entered] at same
      cases same
  | ok diverted =>
    cases diverted with
    | true =>
      have isDatagram := isDatagram_of_diverted _ _ entered
      constructor
      · rintro ⟨_, same, scanned⟩
        cases same
        exact ⟨scanned {}, isDatagram⟩
      · rintro ⟨others, _⟩
        exact ⟨_, rfl, fun _ => others⟩
    | false =>
      have listed : (∀ other ∈ state.queue ++ [msg],
          other.isDatagram) ↔ (∀ other ∈ state.queue, other.isDatagram) ∧ msg.isDatagram := by
        rw [List.forall_mem_append, List.forall_mem_singleton]
      constructor
      · rintro ⟨_, same, scanned⟩
        cases same
        exact listed.mp (scanned {})
      · intro all
        exact ⟨_, rfl, fun _ => listed.mpr all⟩

theorem idleCasts_iff :
    IdleCasts delay serve state msg ↔
      (∀ other ∈ state.queue, other.isDatagram) ∧ (msg.encapsulates = true → msg.isDatagram) := by
  rw [← entersProbeQueue_total]
  simp only [IdleCasts, arrivalWhenIdle, count_pkt_in_queue_total]
  cases entersProbeQueue (queueBase delay serve) msg with
  | error _ =>
    constructor
    · rintro ⟨_, same, _⟩
      cases same
    · rintro ⟨_, diverted, same⟩
      cases same
  | ok diverted =>
    cases diverted with
    | true =>
      constructor
      · rintro ⟨_, same, scanned⟩
        cases same
        exact ⟨scanned {}, true, rfl⟩
      · rintro ⟨others, _⟩
        exact ⟨_, rfl, fun _ => others⟩
    | false =>
      constructor
      · rintro ⟨_, same, scanned⟩
        cases same
        exact ⟨scanned {}, false, rfl⟩
      · rintro ⟨others, _⟩
        exact ⟨_, rfl, fun _ => others⟩

/--
With the server busy a message is classified without a failing cast, also in
the later scans, exactly if it and the queued ones are datagrams; with the
server idle it may also be a message that encapsulates none.
-/
theorem messages_classified_iff :
    (ArrivalCasts delay serve state msg ↔
        (∀ other ∈ state.queue, other.isDatagram) ∧ msg.isDatagram) ∧
      (IdleCasts delay serve state msg ↔
        (∀ other ∈ state.queue, other.isDatagram) ∧ (msg.encapsulates = true → msg.isDatagram)) :=
  ⟨arrivalCasts_iff _ _ _ _, idleCasts_iff _ _ _ _⟩

end Classification

/-- A UDP packet with a payload, as `UDP` sends it down. -/
def udpPacket : Message where
  arrivalGate := .udpIn
  content := .transport
  encapsulates := true

/-- IP can serve the packet, but the queue ends the simulation. -/
theorem udp_packet_not_classified :
    endService udpPacket = .ok .handleMessageFromHL ∧
      ¬IdleCasts 0 (fun (subclass : Unit) _ _ => (subclass, [])) (initialized ()) udpPacket ∧
      ¬ArrivalCasts 0 (fun (subclass : Unit) _ _ => (subclass, [])) (initialized ()) udpPacket := by
  refine ⟨rfl, ?_, ?_⟩
  all_goals
    rintro ⟨_, same, _⟩
    cases same

theorem datagrams_classified
    (run : Run (Step (queueBase delay serve)) (initialized subclass) events state)
    (datagrams : ∀ msg ∈ arrivals events, msg.isDatagram) (isDatagram : msg.isDatagram) :
    ArrivalCasts delay serve state msg ∧ IdleCasts delay serve state msg := by
  have queued : ∀ other ∈ state.queue, other.isDatagram := by
    intro other member
    have served : other ∈ dataInOrder state := List.mem_append_right _ member
    rw [(ServesInOrder.run run).order] at served
    exact datagrams _ (List.mem_of_mem_filter served)
  rw [arrivalCasts_iff, idleCasts_iff]
  exact ⟨⟨queued, isDatagram⟩, queued, fun _ => isDatagram⟩

end OmnetDsi.Ipv4.ServedMessages
