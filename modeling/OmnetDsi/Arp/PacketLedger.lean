import OmnetDsi.Arp.Resolution
import OmnetDsi.Library.Transition

/-!
# No packet is lost or sent twice

Packets from the higher layer, ARP packets and timeouts happen in any order.
The unicast packets that have been accepted are, at any time, those in the
pending queue, those that were sent and those that were dropped, without
repetition; each was sent to the address that was learned last for its next
hop, or dropped after the last retry (`outbound_packets_accounted`).
-/

namespace OmnetDsi.Arp.PacketLedger

open Contract.Addresses Arp.Resolution Library.Fallible Library.Transition List Function

/-! ## What the log says -/

def sentPacket : Record → Option Packet
  | .sent packet _ _ => some packet
  | _ => none

def droppedPacket : Record → Option Packet
  | .dropped packet _ => some packet
  | _ => none

def learnedFor (address : IPAddress) : Record → Option MACAddress
  | .learned other mac => if other = address then some mac else none
  | _ => none

def sentPackets (log : List Record) : List Packet :=
  log.filterMap sentPacket

def droppedPackets (log : List Record) : List Packet :=
  log.filterMap droppedPacket

/-- The address that was learned last. -/
def lastLearned (log : List Record) (address : IPAddress) : Option MACAddress :=
  log.findSome? (learnedFor address)

variable {record : Record}

theorem lastLearned_cons (none : learnedFor address record = none) (log : List Record) :
    lastLearned (record :: log) address = lastLearned log address := by
  unfold lastLearned
  rw [findSome?_cons, none]

/-- A packet is sent to the address learned last for its next hop. -/
def SentAsLearned (log : List Record) : Prop :=
  ∀ newer packet gate dest older,
    log = newer ++ .sent packet gate dest :: older →
      lastLearned older packet.nextHopAddr = some dest

theorem SentAsLearned.cons (learned : SentAsLearned log)
    (here : ∀ packet gate dest, record = .sent packet gate dest →
      lastLearned log packet.nextHopAddr = some dest) :
    SentAsLearned (record :: log) := by
  intro newer _ _ _ _ same
  cases newer with
  | nil =>
    cases same
    exact here _ _ _ rfl
  | cons _ _ =>
    cases same
    exact learned _ _ _ _ _ rfl

theorem SentAsLearned.drained (gate : Nat) (packets : List Packet)
    (learned : SentAsLearned log) (last : lastLearned log address = some dest)
    (hops : ∀ packet ∈ packets, packet.nextHopAddr = address) :
    SentAsLearned ((packets.map fun packet => Record.sent packet gate dest).reverse ++ log) := by
  induction packets generalizing log with
  | nil => exact learned
  | cons packet _ induction =>
    have here : SentAsLearned (.sent packet gate dest :: log) := by
      apply learned.cons
      rintro _ _ _ ⟨⟩
      rwa [hops _ mem_cons_self]
    rw [map_cons, reverse_cons, append_assoc]
    exact induction here last (fun other member => hops _ (mem_cons_of_mem _ member))

theorem SentAsLearned.append (learned : SentAsLearned log)
    (none : ∀ record ∈ records, sentPacket record = none) : SentAsLearned (records ++ log) := by
  induction records with
  | nil => exact learned
  | cons _ _ induction =>
    apply SentAsLearned.cons
    · exact induction fun other member => none _ (mem_cons_of_mem _ member)
    · rintro _ _ _ rfl
      cases none _ mem_cons_self

theorem lastLearned_append
    (none : ∀ record ∈ records, learnedFor address record = none) (log : List Record) :
    lastLearned (records ++ log) address = lastLearned log address := by
  rw [lastLearned, findSome?_append, findSome?_eq_none_iff.mpr none]
  rfl

theorem sentPackets_append (newer older : List Record) :
    sentPackets (newer ++ older) = sentPackets newer ++ sentPackets older :=
  filterMap_append

theorem droppedPackets_append (newer older : List Record) :
    droppedPackets (newer ++ older) = droppedPackets newer ++ droppedPackets older :=
  filterMap_append

theorem filterMap_drained {record : Packet → Record} (outcome : Packet → Option Packet)
    (kinds : ∀ packet, kind (record packet) = outcome packet) (packets : List Packet) :
    (packets.map record).reverse.filterMap kind = (packets.filterMap outcome).reverse := by
  rw [filterMap_reverse, filterMap_map]
  congr 2
  funext packet
  exact kinds _

theorem drained_sent (gate : Nat) (dest : MACAddress) (packets : List Packet) :
    sentPackets (packets.map fun packet => Record.sent packet gate dest).reverse = packets.reverse ∧
      droppedPackets (packets.map fun packet => Record.sent packet gate dest).reverse = [] := by
  constructor
  · rw [sentPackets, filterMap_drained some fun _ => rfl, filterMap_some]
  · rw [droppedPackets, filterMap_drained (fun _ => none) fun _ => rfl]
    simp

theorem drained_dropped (numRetries : Int) (packets : List Packet) :
    sentPackets (packets.map fun packet => Record.dropped packet numRetries).reverse = [] ∧
      droppedPackets
        (packets.map fun packet => Record.dropped packet numRetries).reverse = packets.reverse := by
  constructor
  · rw [sentPackets, filterMap_drained (fun _ => none) fun _ => rfl]
    simp
  · rw [droppedPackets, filterMap_drained some fun _ => rfl, filterMap_some]

/-! ## The invariant -/

/-- The cache holds what was learned last for an address. -/
def CacheLearned (arpCache : Cache) (log : List Record) : Prop :=
  ∀ address entry, arpCache address = some entry →
    entry.pending = false → lastLearned log address = some entry.macAddress

def DroppedAtLimit (parameters : Parameters) (log : List Record) : Prop :=
  ∀ packet numRetries, .dropped packet numRetries ∈ log → parameters.retryCount ≤ numRetries

/--
The accepted packets are those being handled (`current`), and those in the
queue, sent or dropped.
-/
structure Accounted (parameters : Parameters) (current : List Packet) (state : State) : Prop where
  timers : TimersAgree state.arpCache state.scheduled state.timers
  queue : QueueAgrees state.arpCache state.pendingQueue
  numbered : ∀ packet ∈ state.accepted, packet.number < state.arrived
  once : state.accepted.Nodup
  places : state.accepted.Perm
    (current ++ (state.pendingQueue ++ (sentPackets state.log ++ droppedPackets state.log)))
  cache : CacheLearned state.arpCache state.log
  sent : SentAsLearned state.log
  dropped : DroppedAtLimit parameters state.log

namespace Accounted

theorem start (parameters : Parameters) : Accounted parameters [] {} where
  timers := .start
  queue := .start
  numbered := by
    intro _ _
    contradiction
  once := nodup_nil
  places := Perm.refl _
  cache := by
    intro _ _ found
    cases found
  sent := by
    intro newer _ _ _ _ same
    cases newer <;> cases same
  dropped := by
    intro _ _ _
    contradiction

theorem distinct (accounted : Accounted parameters current state) : state.pendingQueue.Nodup := by
  have all := accounted.places.nodup_iff.mp accounted.once
  have later := (nodup_append.mp all).2.1
  exact (nodup_append.mp later).1

theorem note (accounted : Accounted parameters current state)
    (noneSent : sentPacket record = none) (noneDropped : droppedPacket record = none)
    (noneLearned : ∀ address, learnedFor address record = none) :
    Accounted parameters current { state with log := record :: state.log } where
  timers := accounted.timers
  queue := accounted.queue
  numbered := accounted.numbered
  once := accounted.once
  places := by
    rw [sentPackets, droppedPackets, filterMap_cons_none noneSent, filterMap_cons_none noneDropped]
    exact accounted.places
  cache := by
    intro _ _ found idle
    rw [lastLearned_cons (noneLearned _)]
    exact accounted.cache _ _ found idle
  sent := by
    apply accounted.sent.cons
    rintro _ _ _ rfl
    cases noneSent
  dropped := by
    intro _ _ member
    rcases mem_cons.mp member with rfl | older
    · cases noneDropped
    · exact accounted.dropped _ _ older

theorem accept (accounted : Accounted parameters [] state) (nextHopAddr : IPAddress) :
    Accounted parameters [⟨state.arrived, nextHopAddr⟩]
      { state with
        arrived := state.arrived + 1
        accepted := ⟨state.arrived, nextHopAddr⟩ :: state.accepted } where
  timers := accounted.timers
  queue := accounted.queue
  numbered := by
    intro _ member
    rcases mem_cons.mp member with rfl | older
    · exact Nat.lt_succ_self _
    · exact (accounted.numbered _ older).trans (Nat.lt_succ_self _)
  once := by
    rw [nodup_cons]
    refine ⟨?_, accounted.once⟩
    intro member
    exact absurd (accounted.numbered _ member) (Nat.lt_irrefl _)
  places := accounted.places.cons _
  cache := accounted.cache
  sent := accounted.sent
  dropped := accounted.dropped

/-- The packet that is handled, in front of those that are settled. -/
theorem places_current (accounted : Accounted parameters [packet] state) :
    state.accepted.Perm
      (state.pendingQueue ++ packet :: (sentPackets state.log ++ droppedPackets state.log)) := by
  have places := accounted.places
  rw [singleton_append] at places
  exact places.trans perm_middle.symm

section

variable (accounted : Accounted parameters [packet] state)
    (found : state.arpCache packet.nextHopAddr = some entry)
include accounted found

theorem queueUp (pending : entry.pending = true) :
    Accounted parameters [] (queueUp state packet) := by
  have shape : Resolution.queueUp state packet =
      { state with
        arpCache := update state.arpCache packet.nextHopAddr
          (some { entry with pendingPackets := entry.pendingPackets ++ [packet] })
        pendingQueue := state.pendingQueue ++ [packet] } := by
    rw [Resolution.queueUp, found]
    rfl
  rw [shape]
  exact
    { timers := accounted.timers.keep found rfl rfl
      queue := accounted.queue.push found pending
      numbered := accounted.numbered
      once := accounted.once
      places := by
        rw [nil_append, append_assoc]
        exact accounted.places_current
      cache := by
        intro address _ hit idle
        by_cases same : address = packet.nextHopAddr
        · subst same
          dsimp only at hit
          rw [update_self] at hit
          cases hit
          rw [pending] at idle
          contradiction
        · dsimp only at hit
          rw [update_of_ne same] at hit
          exact accounted.cache _ _ hit idle
      sent := accounted.sent
      dropped := accounted.dropped }

theorem sendPacketToNIC (idle : entry.pending = false) (gate : Nat) :
    Accounted parameters []
      { state with log := .sent packet gate entry.macAddress :: state.log } where
  timers := accounted.timers
  queue := accounted.queue
  numbered := accounted.numbered
  once := accounted.once
  places := accounted.places_current
  cache := accounted.cache
  sent := by
    apply accounted.sent.cons
    rintro _ _ _ ⟨⟩
    exact accounted.cache _ _ found idle
  dropped := by
    intro _ _ member
    rcases mem_cons.mp member with impossible | older
    · cases impossible
    · exact accounted.dropped _ _ older

end

theorem sendARPRequest {next : State} (accounted : Accounted parameters current state)
    (served : sendARPRequest state ie ipAddress = .ok next) :
    Accounted parameters current next ∧ ∃ log, next = { state with log } := by
  unfold Resolution.sendARPRequest at served
  split_ifs at served
  cases served
  exact ⟨accounted.note rfl rfl (fun _ => rfl), _, rfl⟩

theorem initiate {next : State} (accounted : Accounted parameters current state)
    (idle : ∀ known, state.arpCache nextHopAddr = some known → known.pending = false)
    (empty : entry.pendingPackets = [])
    (served : initiateARPResolution parameters now state nextHopAddr entry = .ok next) :
    Accounted parameters current next ∧
      ∃ started, next.arpCache nextHopAddr = some started ∧ started.pending = true := by
  rcases bind_eq_ok.mp served with ⟨_, request, same⟩
  rcases accounted.sendARPRequest request with ⟨after, _, rfl⟩
  cases same
  have without : waiting (state.arpCache nextHopAddr) = [] := by
    cases found : state.arpCache nextHopAddr with
    | none => rfl
    | some _ => exact accounted.queue.idle _ _ found (idle _ found)
  refine ⟨?_, _, update_self _ _ _, rfl⟩
  exact
    { timers :=
        accounted.timers.schedule ⟨state.timers, nextHopAddr, now + parameters.retryTimeout⟩ _
          (accounted.timers.absent_of_idle idle)
          (fun other member => Nat.ne_of_lt (accounted.timers.past _ member))
          (Nat.le_succ _) (Nat.lt_succ_self _) rfl rfl
      queue := accounted.queue.keep (empty.trans without.symm) rfl
      numbered := after.numbered
      once := after.once
      places := after.places
      cache := by
        intro address held hit isIdle
        by_cases same : address = nextHopAddr
        · subst same
          dsimp only at hit
          rw [update_self] at hit
          cases hit
          contradiction
        · dsimp only at hit
          rw [update_of_ne same] at hit
          exact after.cache _ held hit isIdle
      sent := after.sent
      dropped := after.dropped }

theorem resolve {next : State} (accounted : Accounted parameters [packet] state)
    (served : resolve parameters now state ie packet = .ok next) :
    Accounted parameters [] next := by
  unfold Resolution.resolve at served
  cases found : state.arpCache packet.nextHopAddr with
  | none =>
    rw [found] at served
    rcases bind_eq_ok.mp served with ⟨_, initiated, same⟩
    cases same
    have idle : ∀ known,
        state.arpCache packet.nextHopAddr = some known → known.pending = false := by
      intro _ impossible
      rw [found] at impossible
      cases impossible
    rcases accounted.initiate idle rfl initiated with ⟨after, _, hit, pending⟩
    exact after.queueUp hit pending
  | some entry =>
    rw [found] at served
    dsimp only at served
    split_ifs at served with pending stale
    · cases served
      exact accounted.queueUp found pending
    · rw [Bool.not_eq_true] at pending
      rcases bind_eq_ok.mp served with ⟨_, initiated, same⟩
      cases same
      have idle : ∀ known,
          state.arpCache packet.nextHopAddr = some known → known.pending = false := by
        intro _ hit
        rw [found] at hit
        cases hit
        exact pending
      have empty : ({ entry with ie } : ARPCacheEntry).pendingPackets = [] :=
        accounted.queue.idle _ entry found pending
      rcases accounted.initiate idle empty initiated with ⟨after, _, hit, isPending⟩
      exact after.queueUp hit isPending
    · rw [Bool.not_eq_true] at pending
      cases served
      exact accounted.sendPacketToNIC found pending _

theorem processOutboundPacket {next : State} (accounted : Accounted parameters [] state)
    (served : processOutboundPacket parameters now state msg = .ok next) :
    Accounted parameters [] next := by
  rcases bind_eq_ok.mp served with ⟨_, _, rest⟩
  dsimp only at rest
  split_ifs at rest with multicast
  · cases rest
    have numbered : Accounted parameters [] { state with arrived := state.arrived + 1 } :=
      { accounted with
        numbered := fun packet member => (accounted.numbered _ member).trans (Nat.lt_succ_self _) }
    exact numbered.note rfl rfl (fun _ => rfl)
  · exact (accounted.accept _).resolve rest

section

variable (accounted : Accounted parameters current state)
include accounted

/-- The packets that wait for an address, in the queue and elsewhere. -/
theorem waiting_perm (address : IPAddress) :
    state.accepted.Perm
      (current ++
        (state.pendingQueue.diff (waiting (state.arpCache address)) ++
          (waiting (state.arpCache address) ++
            (sentPackets state.log ++ droppedPackets state.log)))) := by
  apply accounted.places.trans
  apply Perm.append_left
  rw [accounted.queue.packets, diff_filter accounted.distinct]
  have split := filter_append_perm
    (fun packet : Packet => packet.nextHopAddr ≠ address) state.pendingQueue
  simp only [ne_eq, decide_not, Bool.not_not] at split ⊢
  rw [← append_assoc (filter _ _)]
  exact split.symm.append_right _

theorem waiting_hops (address : IPAddress) :
    ∀ packet ∈ waiting (state.arpCache address), packet.nextHopAddr = address := by
  intro _ member
  rw [accounted.queue.packets] at member
  exact of_decide_eq_true (mem_filter.mp member).2

/-- An address is learned, and the packets that wait for it are sent. -/
theorem updateARPCache (known : state.arpCache address = some entry ∨
      state.arpCache address = none ∧ entry.pending = false ∧ entry.pendingPackets = [])
    (macAddress : MACAddress) :
    Accounted parameters current (updateARPCache now state address entry macAddress) := by
  have packets : entry.pendingPackets = waiting (state.arpCache address) := by
    rcases known with found | ⟨missing, _, empty⟩
    · rw [found]
      rfl
    · rwa [missing]
  have timers :
      (if entry.pending then state.scheduled.filter fun timer => some timer.pointer ≠ entry.timer
      else state.scheduled) = state.scheduled.filter fun timer => timer.context ≠ address := by
    split_ifs with pending
    · rcases known with found | ⟨_, idle, _⟩
      · exact accounted.timers.filter_pointer found pending
      · rw [idle] at pending
        contradiction
    · symm
      rw [filter_eq_self]
      have idle : ∀ held, state.arpCache address = some held → held.pending = false := by
        intro _ hit
        rcases known with found | ⟨missing, _⟩
        · rw [found] at hit
          cases hit
          exact Bool.eq_false_iff.mpr pending
        · rw [missing] at hit
          cases hit
      intro _ member
      exact decide_eq_true (accounted.timers.absent_of_idle idle _ member)
  have learned : lastLearned (.learned address macAddress :: state.log)
      address = some macAddress := by
    simp [lastLearned, learnedFor]
  rw [Resolution.updateARPCache, drain_eq, timers, packets]
  dsimp only
  constructor
  · apply accounted.timers.cancel
    rintro _ ⟨⟩
    split_ifs with pending
    · rfl
    · exact Bool.eq_false_iff.mpr pending
  · rw [accounted.queue.packets, diff_filter accounted.distinct]
    apply accounted.queue.clear
    rfl
  · exact accounted.numbered
  · exact accounted.once
  · apply (accounted.waiting_perm _).trans
    apply Perm.append_left
    apply Perm.append_left
    rcases drained_sent entry.ie.networkLayerGateIndex _ _ with ⟨sents, drops⟩
    rw [sentPackets_append, droppedPackets_append, sents, drops, append_assoc]
    exact (reverse_perm _).symm.append_right _
  · intro other _ hit idle
    rw [lastLearned_append (by simp [learnedFor])]
    by_cases same : other = address
    · subst same
      dsimp only at hit
      rw [update_self] at hit
      cases hit
      exact learned
    · dsimp only at hit
      rw [update_of_ne same] at hit
      rw [lastLearned_cons (by simp [learnedFor, Ne.symm same])]
      exact accounted.cache _ _ hit idle
  · apply SentAsLearned.drained _ _ _ learned
    · exact accounted.waiting_hops _
    · apply accounted.sent.cons
      rintro _ _ _ ⟨⟩
  · intro packet numRetries member
    rcases mem_append.mp member with drained | older
    · simp at drained
    · rcases mem_cons.mp older with impossible | older
      · cases impossible
      · exact accounted.dropped packet numRetries older

end

theorem requestTimedOut {next : State} (accounted : Accounted parameters current state)
    (member : selfmsg ∈ state.scheduled)
    (served : requestTimedOut parameters now state selfmsg = .ok next) :
    Accounted parameters current next := by
  rcases accounted.timers.owned _ member with ⟨entry, found, pending, pointer⟩
  have others :
      (state.scheduled.filter fun timer =>
        timer.pointer ≠ selfmsg.pointer) =
        state.scheduled.filter fun timer => timer.context ≠ selfmsg.context := by
    rw [← accounted.timers.filter_pointer found pending, pointer]
    simp
  have cancelled := accounted.timers.cancel selfmsg.context none (by simp)
  rw [Resolution.requestTimedOut, found, others] at served
  dsimp only at served
  split_ifs at served with again
  · rcases bind_eq_ok.mp served with ⟨_, request, same⟩
    rcases accounted.sendARPRequest request with ⟨after, _, rfl⟩
    cases same
    have scheduled := cancelled.schedule { selfmsg with arrival := now + parameters.retryTimeout }
      { entry with numRetries := entry.numRetries + 1 }
      (by
        intro _ kept
        exact of_decide_eq_true (mem_filter.mp kept).2)
      (by
        intro _ kept
        rw [← others] at kept
        exact of_decide_eq_true (mem_filter.mp kept).2)
      (Nat.le_refl _) (accounted.timers.past selfmsg member) pending pointer
    rw [update_idem] at scheduled
    exact
      { timers := scheduled
        queue := accounted.queue.keep (by rw [found]; rfl) pending
        numbered := after.numbered
        once := after.once
        places := after.places
        cache := by
          intro address held hit idle
          by_cases same : address = selfmsg.context
          · subst same
            dsimp only at hit
            rw [update_self] at hit
            cases hit
            rw [pending] at idle
            contradiction
          · dsimp only at hit
            rw [update_of_ne same] at hit
            exact after.cache _ held hit idle
        sent := after.sent
        dropped := after.dropped }
  · cases served
    have packets : entry.pendingPackets = waiting (state.arpCache selfmsg.context) := by
      rw [found]
      rfl
    rw [drain_eq, packets]
    constructor
    · exact cancelled
    · dsimp only
      rw [accounted.queue.packets, diff_filter accounted.distinct]
      exact accounted.queue.clear _ rfl
    · exact accounted.numbered
    · exact accounted.once
    · apply (accounted.waiting_perm selfmsg.context).trans
      apply Perm.append_left
      apply Perm.append_left
      rcases drained_dropped _ _ with ⟨sents, drops⟩
      rw [sentPackets_append, droppedPackets_append, sents, drops,
        nil_append, ← append_assoc, ← append_assoc]
      apply Perm.append_right
      apply perm_append_comm.trans
      exact (reverse_perm _).symm.append_left _
    · intro address held hit idle
      dsimp only at hit ⊢
      rw [lastLearned_append (by simp [learnedFor])]
      by_cases same : address = selfmsg.context
      · subst same
        rw [update_self] at hit
        cases hit
      · rw [update_of_ne same] at hit
        exact accounted.cache address held hit idle
    · exact accounted.sent.append (by simp [sentPacket])
    · intro packet numRetries member
      rcases mem_append.mp member with drained | older
      · rw [mem_reverse, mem_map] at drained
        rcases drained with ⟨_, _, ⟨⟩⟩
        exact Int.not_lt.mp again
      · exact accounted.dropped packet numRetries older

theorem replied {next : State} {opcode : ARPOpcode} (after : Accounted parameters current added)
    (answered : (match opcode with
      | .ARP_REQUEST => .ok (sendARPReply added msg)
      | .ARP_REPLY => .ok added
      | .ARP_RARP_REQUEST => .error .RARPRequest
      | .ARP_RARP_REPLY => .error .RARPReply
      | .other opcode => .error (.unsupportedOpcode opcode)) =
        (.ok next : Except ARPError State)) :
    Accounted parameters current next := by
  cases opcode with
  | ARP_REQUEST =>
    cases answered
    exact after.note rfl rfl (fun _ => rfl)
  | ARP_REPLY =>
    cases answered
    exact after
  | ARP_RARP_REQUEST => cases answered
  | ARP_RARP_REPLY => cases answered
  | other _ => cases answered

theorem processARPPacket {next : State} (accounted : Accounted parameters current state)
    (served : processARPPacket parameters now state msg = .ok next) :
    Accounted parameters current next := by
  dsimp only [Resolution.processARPPacket] at served
  split_ifs at served with noMAC noIP recognized
  · cases found : state.arpCache msg.arp.srcIPAddress with
    | none =>
      rw [found] at served
      exact replied (accounted.updateARPCache (.inr ⟨found, rfl, rfl⟩) _) served
    | some _ =>
      rw [found] at served
      exact replied (accounted.updateARPCache (.inl found) _) served
  · cases served
    cases found : state.arpCache msg.arp.srcIPAddress with
    | none => exact accounted
    | some _ => exact accounted.updateARPCache (.inl found) _

end Accounted

/-! ## Runs -/

inductive Event where
  | outbound (msg : Outbound)
  | arpPacket (msg : Inbound)
  | timeout (selfmsg : Timer)

def handleMessage (parameters : Parameters) (state : State)
    (event : Event × Int) : Except ARPError State :=
  match event.1 with
  | .outbound msg => processOutboundPacket parameters event.2 state msg
  | .arpPacket msg => processARPPacket parameters event.2 state msg
  | .timeout selfmsg => requestTimedOut parameters event.2 state selfmsg

/-- A message is handled at some time; the timeouts are scheduled ones. -/
def Step (parameters : Parameters) (state : State) (event : Event × Int) (next : State) : Prop :=
  (∀ selfmsg, event.1 = .timeout selfmsg → selfmsg ∈ state.scheduled) ∧
    handleMessage parameters state event = .ok next

theorem accounted_step {next : State} (accounted : Accounted parameters [] state)
    (step : Step parameters state event next) : Accounted parameters [] next := by
  rcases event with ⟨event, _⟩
  rcases step with ⟨enabled, served⟩
  cases event with
  | outbound _ => exact accounted.processOutboundPacket served
  | arpPacket _ => exact accounted.processARPPacket served
  | timeout _ => exact accounted.requestTimedOut (enabled _ rfl) served

theorem accounted_run
    (run : Run (Step parameters) {} events state) : Accounted parameters [] state :=
  run.invariant (fun _ _ _ accounted step => accounted_step accounted step) (Accounted.start _)

/-! ## What has become of a packet -/

/-- The packet was sent once, to the address learned for its next hop. -/
def SentOnce (state : State) (packet : Packet) : Prop :=
  ∃ newer gate dest older,
    state.log = newer ++ .sent packet gate dest :: older ∧
      packet ∉ sentPackets newer ∧ packet ∉ sentPackets older ∧
      lastLearned older packet.nextHopAddr = some dest

/-- The packet waits once, with the pending entry for its next hop only. -/
def QueuedOnce (state : State) (packet : Packet) : Prop :=
  (∃ entry, state.arpCache packet.nextHopAddr = some entry ∧
    entry.pending = true ∧ entry.pendingPackets.count packet = 1) ∧
  ∀ address entry, state.arpCache address = some entry →
    packet ∈ entry.pendingPackets → address = packet.nextHopAddr

/-- The packet was dropped after the last retry. -/
def DroppedOnce (parameters : Parameters) (state : State) (packet : Packet) : Prop :=
  (droppedPackets state.log).count packet = 1 ∧
    ∃ numRetries, .dropped packet numRetries ∈ state.log ∧ parameters.retryCount ≤ numRetries

def ExactlyOne (first second third : Prop) : Prop :=
  (first ∧ ¬second ∧ ¬third) ∨ (¬first ∧ second ∧ ¬third) ∨ (¬first ∧ ¬second ∧ third)

theorem Accounted.sentOnce (accounted : Accounted parameters [] state)
    (member : packet ∈ sentPackets state.log) : SentOnce state packet := by
  have once : (sentPackets state.log).Nodup := by
    have all := accounted.places.nodup_iff.mp accounted.once
    rw [nil_append] at all
    have later := (nodup_append.mp all).2.1
    exact (nodup_append.mp later).1
  rcases mem_filterMap.mp member with ⟨record, inside, kind⟩
  cases record with
  | sent _ gate dest =>
    cases kind
    rcases append_of_mem inside with ⟨newer, older, same⟩
    refine ⟨newer, gate, dest, older, same, ?_, ?_, ?_⟩
    · rw [same, sentPackets_append, nodup_append] at once
      intro early
      exact once.2.2 _ early _ mem_cons_self rfl
    · rw [same, sentPackets_append, nodup_append] at once
      exact (nodup_cons.mp once.2.1).1
    · exact accounted.sent _ _ _ _ _ same
  | multicast => cases kind
  | arp => cases kind
  | learned => cases kind
  | dropped => cases kind

theorem SentOnce.mem (sent : SentOnce state packet) : packet ∈ sentPackets state.log := by
  rcases sent with ⟨_, _, _, _, same, _⟩
  rw [same, sentPackets_append]
  exact mem_append_right _ mem_cons_self

theorem Accounted.queuedOnce_iff (accounted : Accounted parameters [] state) :
    QueuedOnce state packet ↔ packet ∈ state.pendingQueue := by
  have shared := accounted.queue.packets packet.nextHopAddr
  constructor
  · rintro ⟨⟨entry, found, _, once⟩, _⟩
    rw [found] at shared
    have member : packet ∈ entry.pendingPackets := by
      apply count_pos_iff.mp
      rw [once]
      exact Nat.one_pos
    rw [show entry.pendingPackets = _ from shared] at member
    exact mem_of_mem_filter member
  · intro member
    have inside : packet ∈ waiting (state.arpCache packet.nextHopAddr) := by
      rw [shared]
      exact mem_filter.mpr ⟨member, decide_eq_true rfl⟩
    constructor
    · cases found : state.arpCache packet.nextHopAddr with
      | none =>
        rw [found] at inside
        contradiction
      | some entry =>
        rw [found] at inside shared
        refine ⟨entry, rfl, ?_, ?_⟩
        · cases pending : entry.pending with
          | true => rfl
          | false =>
            have empty := accounted.queue.idle _ _ found pending
            rw [show waiting (some entry) = [] from empty] at inside
            contradiction
        · apply count_eq_one_of_mem _ inside
          rw [shared]
          exact accounted.distinct.filter _
    · intro address _ found held
      have hops := accounted.waiting_hops address packet
      rw [found] at hops
      exact (hops held).symm

theorem Accounted.droppedOnce (accounted : Accounted parameters [] state)
    (member : packet ∈ droppedPackets state.log) : DroppedOnce parameters state packet := by
  have once : (droppedPackets state.log).Nodup := by
    have all := accounted.places.nodup_iff.mp accounted.once
    rw [nil_append] at all
    have later := (nodup_append.mp all).2.1
    exact (nodup_append.mp later).2.1
  refine ⟨count_eq_one_of_mem once member, ?_⟩
  rcases mem_filterMap.mp member with ⟨record, inside, kind⟩
  cases record with
  | dropped _ numRetries =>
    cases kind
    exact ⟨numRetries, inside, accounted.dropped _ _ inside⟩
  | multicast => cases kind
  | arp => cases kind
  | learned => cases kind
  | sent => cases kind

theorem DroppedOnce.mem (dropped : DroppedOnce parameters state packet) :
    packet ∈ droppedPackets state.log := by
  apply count_pos_iff.mp
  rw [dropped.1]
  exact Nat.one_pos

theorem Accounted.exactlyOne (accounted : Accounted parameters [] state)
    (member : packet ∈ state.accepted) :
    ExactlyOne (SentOnce state packet) (QueuedOnce state packet)
      (DroppedOnce parameters state packet) := by
  have all := accounted.places.nodup_iff.mp accounted.once
  rw [nil_append] at all
  rcases nodup_append.mp all with ⟨_, later, queuedApart⟩
  rcases nodup_append.mp later with ⟨_, _, sentApart⟩
  have notBoth (queued : packet ∈ state.pendingQueue)
      (settled : packet ∈ sentPackets state.log ++ droppedPackets state.log) : False :=
    queuedApart _ queued _ settled rfl
  have place := accounted.places.mem_iff.mp member
  rw [nil_append] at place
  rcases mem_append.mp place with queued | settled
  · refine .inr (.inl ⟨?_, accounted.queuedOnce_iff.mpr queued, ?_⟩)
    · intro sent
      exact notBoth queued (mem_append_left _ sent.mem)
    · intro dropped
      exact notBoth queued (mem_append_right _ dropped.mem)
  · have notQueued : ¬QueuedOnce state packet := by
      intro queued
      exact notBoth (accounted.queuedOnce_iff.mp queued) settled
    rcases mem_append.mp settled with sent | dropped
    · refine .inl ⟨accounted.sentOnce sent, notQueued, ?_⟩
      intro dropped
      exact sentApart _ sent packet dropped.mem rfl
    · refine .inr (.inr ⟨?_, notQueued, accounted.droppedOnce dropped⟩)
      intro sent
      exact sentApart packet sent.mem packet dropped rfl

/--
In every state that is reached: an entry is pending exactly when it has a
scheduled timer, every timer belongs to an entry, entries that are not
pending hold no packets, the pending queue is the union of what the entries
hold, and every accepted packet was sent, waits or was dropped.
-/
theorem outbound_packets_accounted (parameters : Parameters)
    {events : List (Event × Int)} {state : State} (run : Run (Step parameters) {} events state) :
    (∀ address entry, state.arpCache address = some entry →
      (entry.pending = true ↔
        ∃ timer ∈ state.scheduled, timer.context = address ∧ entry.timer = some timer.pointer)) ∧
    (∀ timer ∈ state.scheduled, ∃ entry,
      state.arpCache timer.context = some entry ∧ entry.timer = some timer.pointer) ∧
    (∀ address entry, state.arpCache address = some entry →
      entry.pending = false → entry.pendingPackets = []) ∧
    (state.pendingQueue.Nodup ∧
      ∀ packet, packet ∈ state.pendingQueue ↔
        ∃ address entry, state.arpCache address = some entry ∧ packet ∈ entry.pendingPackets) ∧
    ∀ packet ∈ state.accepted,
      ExactlyOne (SentOnce state packet) (QueuedOnce state packet)
        (DroppedOnce parameters state packet) := by
  have accounted := accounted_run run
  refine ⟨?_, ?_, accounted.queue.idle, ⟨accounted.distinct, ?_⟩,
    fun packet member => accounted.exactlyOne member⟩
  · intro _ _ found
    constructor
    · exact accounted.timers.owns _ _ found
    · rintro ⟨_, member, rfl, _⟩
      rcases accounted.timers.owned _ member with ⟨_, hit, pending, _⟩
      rw [found] at hit
      cases hit
      exact pending
  · intro _ member
    rcases accounted.timers.owned _ member with ⟨entry, hit, _, own⟩
    exact ⟨entry, hit, own⟩
  · intro packet
    constructor
    · intro member
      rcases accounted.queuedOnce_iff.mpr member with ⟨⟨entry, found, _, once⟩, _⟩
      refine ⟨packet.nextHopAddr, entry, found, ?_⟩
      apply count_pos_iff.mp
      rw [once]
      exact Nat.one_pos
    · rintro ⟨address, entry, found, held⟩
      have shared := accounted.queue.packets address
      rw [found] at shared
      rw [show entry.pendingPackets = _ from shared] at held
      exact mem_of_mem_filter held

def sampleParameters : Parameters where
  retryTimeout := 1
  retryCount := 3
  cacheTimeout := 120
  doProxyARP := true

def sampleOutbound : Outbound where
  nextHopAddr := .set 10 0 0 2
  destAddress := some (.set 10 0 0 2)
  ie := ⟨100, 0, ⟨1⟩, .set 10 0 0 1⟩

/-- The first packet waits for the resolution of its next hop. -/
theorem outbound_packets_accounted_first :
    ∃ state, handleMessage sampleParameters {} (.outbound sampleOutbound, 0) = .ok state ∧
      ∀ packet ∈ state.accepted,
        ExactlyOne (SentOnce state packet) (QueuedOnce state packet)
          (DroppedOnce sampleParameters state packet) := by
  have handled : ∃ state,
      handleMessage sampleParameters {} (.outbound sampleOutbound, 0) = .ok state :=
    ⟨_, rfl⟩
  rcases handled with ⟨state, served⟩
  have run : Run (Step sampleParameters) {} [(.outbound sampleOutbound, 0)] state := by
    refine .next ⟨?_, served⟩ (.idle _)
    intro _ impossible
    cases impossible
  exact ⟨state, served, (outbound_packets_accounted _ run).2.2.2.2⟩

end OmnetDsi.Arp.PacketLedger
