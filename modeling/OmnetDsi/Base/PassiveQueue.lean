import OmnetDsi.Library.Transition
import Mathlib.Data.List.Basic

/-!
# Queues that are asked for their packets

A `PassiveQueueBase` keeps what arrives until `requestPacket` asks for it, and
remembers the requests that found nothing.  How packets are kept is left to
the subclass, a `Discipline`: `enqueue` says whether the packet was dropped,
and `dequeue` has a packet or none.

For every discipline that is a queue in the order of arrival (`InOrder`) the
requests and the packets are accounted for along every run (`Accounted`).
`DropTailQueue` is such a discipline, whatever its capacity.
-/

namespace OmnetDsi.Base.PassiveQueue

open Library.Transition List

/-! ## The queue and its subclass -/

/-- What `PassiveQueueBase` leaves to its subclass. -/
structure Discipline (Store Packet : Type) where
  /-- The second part: the packet has been dropped. -/
  enqueue : Store → Packet → Store × Bool
  dequeue : Store → Option Packet × Store

structure PassiveQueueBase (Store : Type) where
  store : Store
  packetRequested : Nat := 0
  numQueueReceived : Nat := 0
  numQueueDropped : Nat := 0

/-- What a call leaves: the queue, the packet sent, and whether one is lost. -/
structure Served (Store Packet : Type) where
  queue : PassiveQueueBase Store
  sentOut : Option Packet := none
  dropped : Bool := false

section Serving

def handleMessage (discipline : Discipline Store Packet)
    (queue : PassiveQueueBase Store) (msg : Packet) : Served Store Packet :=
  let queue := { queue with numQueueReceived := queue.numQueueReceived + 1 }
  if queue.packetRequested > 0 then
    { queue := { queue with packetRequested := queue.packetRequested - 1 }
      sentOut := some msg }
  else
    match discipline.enqueue queue.store msg with
    | (store, true) =>
      { queue :=
          { queue with
            store
            numQueueDropped := queue.numQueueDropped + 1 }
        dropped := true }
    | (store, false) => { queue := { queue with store } }

def requestPacket (discipline : Discipline Store Packet)
    (queue : PassiveQueueBase Store) : Served Store Packet :=
  match discipline.dequeue queue.store with
  | (none, store) =>
    { queue :=
        { queue with
          store
          packetRequested := queue.packetRequested + 1 } }
  | (some msg, store) => { queue := { queue with store }, sentOut := msg }

end Serving

/-! ## Runs -/

inductive Event (Packet : Type) where
  | message (msg : Packet)
  | request

/-- A queue with what has arrived, what was asked for and what was sent. -/
structure Observed (Store Packet : Type) where
  queue : PassiveQueueBase Store
  /-- The packets in order of arrival, and whether each was dropped. -/
  arrived : List (Packet × Bool) := []
  requests : Nat := 0
  sentOut : List Packet := []

section Running

variable {Store Packet : Type}

def serve (discipline : Discipline Store Packet)
    (state : Observed Store Packet) : Event Packet → Observed Store Packet
  | .message msg =>
    let served := handleMessage discipline state.queue msg
    { state with
      queue := served.queue
      arrived := state.arrived ++ [(msg, served.dropped)]
      sentOut := state.sentOut ++ served.sentOut.toList }
  | .request =>
    let served := requestPacket discipline state.queue
    { state with
      queue := served.queue
      requests := state.requests + 1
      sentOut := state.sentOut ++ served.sentOut.toList }

def Step (discipline : Discipline Store Packet) (state : Observed Store Packet)
    (event : Event Packet) (next : Observed Store Packet) : Prop :=
  serve discipline state event = next

/-- The queue after `initialize`. -/
def initialized (store : Store) : Observed Store Packet where
  queue := { store }

/-- The arrived packets that were not dropped. -/
def kept (arrived : List (Packet × Bool)) : List Packet :=
  (arrived.filter fun entry => !entry.2).map Prod.fst

theorem kept_snoc (arrived : List (Packet × Bool)) (msg : Packet) (dropped : Bool) :
    kept (arrived ++ [(msg, dropped)]) = kept arrived ++ if dropped then [] else [msg] := by
  cases dropped <;> simp [kept]

/-! ## Queues in the order of arrival -/

/-- The packets of a store leave it in the order in which it took them. -/
structure InOrder (discipline : Discipline Store Packet)
    (contents : Store → List Packet) : Prop where
  refused : ∀ {store next msg},
    discipline.enqueue store msg = (next, true) → contents next = contents store
  taken : ∀ {store next msg},
    discipline.enqueue store msg = (next, false) → contents next = contents store ++ [msg]
  nothing : ∀ {store next},
    discipline.dequeue store = (none, next) → contents store = [] ∧ contents next = []
  first : ∀ {store next msg},
    discipline.dequeue store = (some msg, next) → contents store = msg :: contents next

/-- Requests and packets never wait for each other, and none is lost. -/
structure Accounted (contents : Store → List Packet) (state : Observed Store Packet) : Prop where
  exclusive : 0 < state.queue.packetRequested → contents state.queue.store = []
  order : state.sentOut ++ contents state.queue.store = kept state.arrived
  received : state.queue.numQueueReceived =
    state.sentOut.length + (contents state.queue.store).length + state.queue.numQueueDropped
  answered : state.sentOut.length + state.queue.packetRequested = state.requests
  counted : state.queue.numQueueReceived = state.arrived.length

variable {discipline : Discipline Store Packet} {contents : Store → List Packet}

theorem accounted_initialized (empty : contents store = []) :
    Accounted contents (initialized store : Observed Store Packet) := by
  constructor
  · intro impossible
    exact absurd impossible (Nat.lt_irrefl 0)
  · simp [initialized, kept, empty]
  · simp [initialized, empty]
  · rfl
  · rfl

section

variable (inOrder : InOrder discipline contents)
include inOrder

theorem accounted_message (accounted : Accounted contents state) (msg : Packet) :
    Accounted contents (serve discipline state (.message msg)) := by
  by_cases requested : 0 < state.queue.packetRequested
  · -- a request is waiting, so the packet is sent out at once
    have empty := accounted.exclusive requested
    have served :
        handleMessage discipline state.queue msg =
          { queue :=
              { state.queue with
                numQueueReceived := state.queue.numQueueReceived + 1
                packetRequested := state.queue.packetRequested - 1 }
            sentOut := some msg } :=
      if_pos requested
    have order := accounted.order
    have received := accounted.received
    have answered := accounted.answered
    have counted := accounted.counted
    rw [empty] at order received
    dsimp only [serve]
    rw [served]
    constructor
    · intro _
      exact empty
    · rw [kept_snoc, ← order]
      simp [empty]
    · simp only [empty, Option.toList_some, length_append,
        length_singleton, length_nil] at received ⊢
      omega
    · simp only [Option.toList_some, length_append, length_singleton]
      omega
    · simp [counted]
  · have none : state.queue.packetRequested = 0 := by omega
    have order := accounted.order
    have received := accounted.received
    have answered := accounted.answered
    have counted := accounted.counted
    rcases stored : discipline.enqueue state.queue.store msg with ⟨_, dropped⟩
    cases dropped with
    | true =>
      have same := inOrder.refused stored
      simp only [serve, handleMessage, none, gt_iff_lt, Nat.lt_irrefl, if_false, stored]
      constructor
      · intro impossible
        simp at impossible
      · rw [kept_snoc, ← order]
        simp [same]
      · simp only [same, Option.toList_none, append_nil]
        omega
      · simpa [none] using answered
      · simp [counted]
    | false =>
      have longer := inOrder.taken stored
      simp only [serve, handleMessage, none, gt_iff_lt, Nat.lt_irrefl, if_false, stored]
      constructor
      · intro impossible
        simp at impossible
      · rw [kept_snoc, ← order]
        simp [longer]
      · simp only [longer, Option.toList_none, append_nil, length_append, length_singleton]
        omega
      · simpa [none] using answered
      · simp [counted]

theorem accounted_request (accounted : Accounted contents state) :
    Accounted contents (serve discipline state .request) := by
  have order := accounted.order
  have received := accounted.received
  have answered := accounted.answered
  rcases taken : discipline.dequeue state.queue.store with ⟨front, _⟩
  cases front with
  | none =>
    rcases inOrder.nothing taken with ⟨before, after⟩
    rw [before] at order received
    simp only [serve, requestPacket, taken]
    constructor
    · intro _
      exact after
    · simp [after, ← order]
    · simpa [after] using received
    · simp only [Option.toList_none, append_nil]
      omega
    · exact accounted.counted
  | some _ =>
    have shorter := inOrder.first taken
    -- a packet was there, so no request was waiting
    have none : state.queue.packetRequested = 0 := by
      by_contra waiting
      have empty := accounted.exclusive (by omega)
      rw [shorter] at empty
      cases empty
    rw [shorter] at order received
    simp only [serve, requestPacket, taken]
    constructor
    · intro impossible
      simp [none] at impossible
    · simp [← order]
    · simp only [Option.toList_some, length_append, length_cons, length_nil] at received ⊢
      omega
    · simp only [Option.toList_some, length_append, length_singleton]
      omega
    · exact accounted.counted

theorem accounted_step {next : Observed Store Packet} (accounted : Accounted contents state)
    (step : Step discipline state event next) : Accounted contents next := by
  rcases step with rfl
  cases event with
  | message _ => exact accounted_message inOrder accounted _
  | request => exact accounted_request inOrder accounted

end

section

variable {property : Store → Prop}
    (enqueued : ∀ store msg, property store → property (discipline.enqueue store msg).1)
    (dequeued : ∀ store, property store → property (discipline.dequeue store).2)
include enqueued dequeued

theorem serve_store (holds : property state.queue.store) (event : Event Packet) :
    property (serve discipline state event).queue.store := by
  cases event with
  | message msg =>
    have stored := enqueued state.queue.store msg holds
    dsimp only [serve, handleMessage]
    split_ifs
    · exact holds
    · split
      · next store same => rwa [same] at stored
      · next store same => rwa [same] at stored
  | request =>
    have stored := dequeued state.queue.store holds
    dsimp only [serve, requestPacket]
    split
    · next store same => rwa [same] at stored
    · next msg store same => rwa [same] at stored

/-- What `enqueue` and `dequeue` keep holds of the store in every run. -/
theorem store_run (run : Run (Step discipline) first events state)
    (initial : property first.queue.store) : property state.queue.store := by
  have preserved :
      ∀ before event after,
        property before.queue.store →
          Step discipline before event after → property after.queue.store := by
    rintro _ _ _ holds rfl
    exact serve_store enqueued dequeued holds _
  exact run.invariant preserved initial

end

/-! ## What has been observed -/

def Event.message? : Event Packet → Option Packet
  | .message msg => some msg
  | .request => none

def Event.isRequest : Event Packet → Bool
  | .message _ => false
  | .request => true

/-- The record of a run lists its messages and counts its requests. -/
structure Recorded (events : List (Event Packet)) (state : Observed Store Packet) : Prop where
  arrived : state.arrived.map Prod.fst = events.filterMap Event.message?
  requests : state.requests = events.countP Event.isRequest

theorem recorded_run
    (run : Run (Step discipline) (initialized store) events state) : Recorded events state := by
  apply run.historyInvariant _ []
  · rintro _ _ event _ ⟨arrived, requests⟩ rfl
    cases event with
    | message _ =>
      constructor
      · simp [serve, arrived, Event.message?]
      · simp [serve, requests, Event.isRequest]
    | request =>
      constructor
      · simp [serve, arrived, Event.message?]
      · simp [serve, requests, Event.isRequest]
  · exact ⟨rfl, rfl⟩

end Running

/-! ## The drop-tail queue -/

section DropTail

/-- The capacity zero stands for no limit. -/
structure DropTailQueue (Packet : Type) where
  frameCapacity : Int
  queue : List Packet := []

namespace DropTailQueue

def enqueue (self : DropTailQueue Packet) (msg : Packet) : DropTailQueue Packet × Bool :=
  if self.frameCapacity ≠ 0 ∧ (self.queue.length : Int) ≥ self.frameCapacity then (self, true)
  else ({ self with queue := self.queue ++ [msg] }, false)

def dequeue (self : DropTailQueue Packet) : Option Packet × DropTailQueue Packet :=
  match self.queue with
  | [] => (none, self)
  | pk :: rest => (some pk, { self with queue := rest })

end DropTailQueue

def dropTail : Discipline (DropTailQueue Packet) Packet where
  enqueue := DropTailQueue.enqueue
  dequeue := DropTailQueue.dequeue

theorem dropTail_inOrder : InOrder (dropTail : Discipline _ Packet) DropTailQueue.queue := by
  constructor
  · intro _ _ _ refused
    dsimp only [dropTail, DropTailQueue.enqueue] at refused
    split_ifs at refused
    · cases refused
      rfl
    · cases refused
  · intro _ _ _ taken
    dsimp only [dropTail, DropTailQueue.enqueue] at taken
    split_ifs at taken
    · cases taken
    · cases taken
      rfl
  · intro store _ nothing
    dsimp only [dropTail, DropTailQueue.dequeue] at nothing
    cases contents : store.queue with
    | nil =>
      rw [contents] at nothing
      cases nothing
      exact ⟨rfl, contents⟩
    | cons _ _ =>
      rw [contents] at nothing
      cases nothing
  · intro store _ _ first
    dsimp only [dropTail, DropTailQueue.dequeue] at first
    cases contents : store.queue with
    | nil =>
      rw [contents] at first
      cases first
    | cons _ _ =>
      rw [contents] at first
      cases first
      rfl

/-- A capacity other than zero is kept; a negative one leaves no room. -/
structure Bounded (frameCapacity : Int) (store : DropTailQueue Packet) : Prop where
  capacity : store.frameCapacity = frameCapacity
  bounded : frameCapacity ≠ 0 → (store.queue.length : Int) ≤ max frameCapacity 0

variable {store : DropTailQueue Packet}

theorem bounded_enqueue (bounded : Bounded frameCapacity store)
    (msg : Packet) : Bounded frameCapacity (store.enqueue msg).1 := by
  unfold DropTailQueue.enqueue
  split_ifs with full
  · exact bounded
  · refine ⟨bounded.capacity, ?_⟩
    intro limited
    rw [bounded.capacity, not_and] at full
    have room := full limited
    simp only [length_append, length_singleton]
    omega

theorem bounded_dequeue (bounded : Bounded frameCapacity store) :
    Bounded frameCapacity store.dequeue.2 := by
  unfold DropTailQueue.dequeue
  cases contents : store.queue with
  | nil => exact bounded
  | cons _ _ =>
    refine ⟨bounded.capacity, ?_⟩
    intro limited
    have before := bounded.bounded limited
    rw [contents, length_cons] at before
    dsimp only
    omega

theorem bounded_step {next : Observed (DropTailQueue Packet) Packet}
    (bounded : Bounded frameCapacity state.queue.store)
    (step : Step dropTail state event next) : Bounded frameCapacity next.queue.store := by
  rcases step with rfl
  cases event with
  | message msg =>
    have stored := bounded_enqueue bounded msg
    dsimp only [serve, handleMessage, dropTail]
    split_ifs
    · exact bounded
    · rcases outcome : state.queue.store.enqueue _ with ⟨_, dropped⟩
      rw [outcome] at stored
      cases dropped with
      | true => exact stored
      | false => exact stored
  | request =>
    have taken := bounded_dequeue bounded
    dsimp only [serve, requestPacket, dropTail]
    rcases outcome : state.queue.store.dequeue with ⟨front, _⟩
    rw [outcome] at taken
    cases front with
    | none => exact taken
    | some _ => exact taken

/--
In every run of a drop-tail queue no packet waits together with a request,
the capacity is kept, and packets and requests are accounted for.
-/
theorem dropTail_accounted (frameCapacity : Int) {events : List (Event Packet)}
    {state : Observed (DropTailQueue Packet) Packet}
    (run : Run (Step dropTail) (initialized { frameCapacity }) events state) :
    Recorded events state ∧ Accounted DropTailQueue.queue state ∧
      Bounded frameCapacity state.queue.store := by
  refine ⟨recorded_run run, ?_, ?_⟩
  · have preserved (before : Observed (DropTailQueue Packet) Packet)
        (event : Event Packet) (after : Observed (DropTailQueue Packet) Packet)
        (accounted : Accounted DropTailQueue.queue before)
        (step : Step dropTail before event after) : Accounted DropTailQueue.queue after :=
      accounted_step dropTail_inOrder accounted step
    exact run.invariant preserved (accounted_initialized rfl)
  · have preserved (before : Observed (DropTailQueue Packet) Packet)
        (event : Event Packet) (after : Observed (DropTailQueue Packet) Packet)
        (bounded : Bounded frameCapacity before.queue.store)
        (step : Step dropTail before event after) : Bounded frameCapacity after.queue.store :=
      bounded_step bounded step
    exact run.invariant preserved ⟨rfl, fun _ => Int.le_max_right _ _⟩

/-- Two requests and three packets at a queue for one frame. -/
theorem dropTail_accounted_one_frame :
    ∃ state : Observed (DropTailQueue Nat) Nat,
      Run (Step dropTail) (initialized { frameCapacity := 1 })
          [.request, .message 1, .message 2, .message 3, .request] state ∧
        Recorded [.request, .message 1, .message 2, .message 3, .request] state ∧
        Accounted DropTailQueue.queue state ∧
        Bounded 1 state.queue.store := by
  have served :
      ∃ state : Observed (DropTailQueue Nat) Nat,
        Run (Step dropTail) (initialized { frameCapacity := 1 })
          [.request, .message 1, .message 2, .message 3, .request] state :=
    ⟨_, .next rfl (.next rfl (.next rfl (.next rfl (.next rfl (.idle _)))))⟩
  rcases served with ⟨state, run⟩
  exact ⟨state, run, dropTail_accounted 1 run⟩

end DropTail

end OmnetDsi.Base.PassiveQueue
