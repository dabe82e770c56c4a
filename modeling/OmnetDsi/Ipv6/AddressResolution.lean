import OmnetDsi.Ipv6.NeighbourEffects

/-!
# Address resolution

A datagram whose next hop has no link-layer address waits in the entry of the
neighbour until the address is found or the timer has run out.  `Linked` ties
the entries with waiting datagrams to the timers, and `Accounted` says where
every accepted datagram is.

Four steps of the source break the tie, and `Kept` excludes them: an entry
that awaits its address is made stale, dismissed by an advertisement, or
removed by the other timer, or a datagram is queued where no timer runs.
-/

namespace OmnetDsi.Ipv6.AddressResolution

open OmnetDsi.Arp.Resolution (MACAddress)
open Contract.IPv6Addresses Ipv6.NeighbourDiscovery Ipv6.NeighbourEffects Library
open Library.Transition RecordPools List RoutingTables

/-! ## Entries and timers -/

/-- The address is looked for, and the timer of the entry is scheduled. -/
def Awaiting (memory : Memory) (nce : Neighbour) : Prop :=
  nce.reachabilityState = .INCOMPLETE ∧
    ∃ timer ∈ memory.arTimers,
      timer.isScheduled = true ∧ timer.contextPointer = nce.node ∧ nce.arTimer = some timer.pointer

/-- A scheduled timer refers to an entry that awaits its address. -/
def Referring (memory : Memory) (timer : Timer) : Prop :=
  ∃ nce ∈ memory.neighbourMap,
    nce.node = timer.contextPointer ∧ nce.reachabilityState = .INCOMPLETE ∧
      nce.arTimer = some timer.pointer

/-- `issued` and `owned` say which timer an entry may point to. -/
structure Linked (memory : Memory) : Prop where
  queues : ∀ nce ∈ memory.neighbourMap, nce.pendingPackets ≠ [] → Awaiting memory nce
  timers : ∀ timer ∈ memory.arTimers, timer.isScheduled = true → Referring memory timer
  issued :
    ∀ nce ∈ memory.neighbourMap, ∀ pointer, nce.arTimer = some pointer → pointer < memory.messages
  owned :
    ∀ nce ∈ memory.neighbourMap, ∀ timer ∈ memory.arTimers,
      nce.arTimer = some timer.pointer → timer.contextPointer = nce.node

/-! ## Datagrams -/

/-- The numbers of the datagrams that wait in the entries. -/
def queuedNumbers (neighbourMap : List Neighbour) : List Nat :=
  neighbourMap.flatMap fun nce => nce.pendingPackets.map IPv6Datagram.number

/--
The accepted datagrams are numbered, and each of them waits in an entry, was
sent back with an address, or was reported after the last solicitation.
-/
structure Accounted (node : Node) (memory : Memory) : Prop where
  numbered : memory.accepted = range memory.accepted.length
  accounted :
    memory.accepted.Perm
      (queuedNumbers memory.neighbourMap ++ memory.sentBack.map SentBack.number ++
        memory.unreachable.map Unreachable.number)
  addressed : ∀ sent ∈ memory.sentBack, sent.macAddress.isUnspecified = false
  exhausted :
    ∀ report ∈ memory.unreachable,
      ¬report.solicitations < (node.ipv6Data report.interfaceID).maxMulticastSolicit

/-! ## The condition -/

/-- The event leaves entries that await their address to their timers. -/
structure Kept (node : Node) (nd : IPv6NeighbourDiscovery) (event : Event) : Prop where
  staled : ∀ nce, Stales nd nce event → ¬Awaiting nd.memory nce
  dismissed : ∀ nce, Dismisses node nd nce event → ¬Awaiting nd.memory nce
  queued :
    ∀ nce, Reaches nd nce event → nce.reachabilityState = .INCOMPLETE → Awaiting nd.memory nce
  givenUp :
    ∀ timer ∈ nd.memory.nudTimers, event = .nudTimeout timer.pointer →
      ∀ nce ∈ nd.memory.neighbourMap, nce.node = timer.contextPointer →
        maxProbesSent node (startProbes nce) = true → ¬Awaiting nd.memory nce

/-! ## Changes that keep the tie -/

section Changes

variable {memory : Memory} {nce other : Neighbour}

theorem Linked.referred (linked : Linked memory) (placed : Placed memory)
    (listed : nce ∈ memory.neighbourMap) {timer : Timer}
    (existing : timer ∈ memory.arTimers) (scheduled : timer.isScheduled = true)
    (context : timer.contextPointer = nce.node) :
    nce.reachabilityState = .INCOMPLETE ∧ nce.arTimer = some timer.pointer := by
  rcases linked.timers _ existing scheduled with ⟨_, among, same, rest⟩
  have one := placed.entries.distinct.eq among listed (same.trans context)
  subst one
  exact rest

theorem not_awaiting (complete : nce.reachabilityState ≠ .INCOMPLETE) : ¬Awaiting memory nce := by
  intro awaiting
  exact complete awaiting.1

section

variable (linked : Linked memory)
include linked

theorem Linked.idle (listed : nce ∈ memory.neighbourMap) (free : ¬Awaiting memory nce) :
    nce.pendingPackets = [] := by
  by_contra waiting
  exact free (linked.queues _ listed waiting)

theorem Linked.unreferred (placed : Placed memory)
    (listed : nce ∈ memory.neighbourMap) (free : ¬Awaiting memory nce)
    {timer : Timer} (existing : timer ∈ memory.arTimers)
    (scheduled : timer.isScheduled = true) : timer.contextPointer ≠ nce.node := by
  intro context
  rcases linked.referred placed listed existing scheduled context with ⟨incomplete, timed⟩
  exact free ⟨incomplete, timer, existing, scheduled, context, timed⟩

/--
An entry gets other values.  The new ones have to go with the timers that
refer to the entry, and with the timer that they point to.
-/
theorem Linked.put (queues : other.pendingPackets ≠ [] → Awaiting memory other)
    (timers : ∀ timer ∈ memory.arTimers, timer.isScheduled = true →
      timer.contextPointer = other.node →
        other.reachabilityState = .INCOMPLETE ∧ other.arTimer = some timer.pointer)
    (issued : ∀ pointer, other.arTimer = some pointer → pointer < memory.messages)
    (owned : ∀ timer ∈ memory.arTimers, other.arTimer = some timer.pointer →
      timer.contextPointer = other.node) :
    Linked (storing memory other) where
  queues := by
    intro _ member waiting
    rcases mem_put.mp member with ⟨kept, -⟩ | ⟨rfl, -⟩
    · exact linked.queues _ kept waiting
    · exact queues waiting
  timers := by
    intro _ existing scheduled
    rcases linked.timers _ existing scheduled with ⟨found, among, same, rest⟩
    by_cases here : found.node = other.node
    · exact ⟨other, mem_put.mpr (.inr ⟨rfl, found, among, here⟩),
        here.symm.trans same, timers _ existing scheduled (same.symm.trans here)⟩
    · exact ⟨found, mem_put.mpr (.inl ⟨among, here⟩), same, rest⟩
  issued := by
    intro _ member
    rcases mem_put.mp member with ⟨kept, -⟩ | ⟨rfl, -⟩
    · exact linked.issued _ kept
    · exact issued
  owned := by
    intro _ member
    rcases mem_put.mp member with ⟨kept, -⟩ | ⟨rfl, -⟩
    · exact linked.owned _ kept
    · exact owned

theorem Linked.putSame (listed : nce ∈ memory.neighbourMap) (sameNode : other.node = nce.node)
    (sameTimer : other.arTimer = nce.arTimer)
    (queues : other.pendingPackets ≠ [] → Awaiting memory other)
    (timers : ∀ timer ∈ memory.arTimers, timer.isScheduled = true →
      timer.contextPointer = nce.node →
        other.reachabilityState = .INCOMPLETE ∧ nce.arTimer = some timer.pointer) :
    Linked (storing memory other) := by
  apply linked.put queues
  · rwa [sameNode, sameTimer]
  · rw [sameTimer]
    exact linked.issued _ listed
  · rw [sameTimer, sameNode]
    exact linked.owned _ listed

/-- An entry that awaits nothing gets other values without datagrams. -/
theorem Linked.putIdle (placed : Placed memory)
    (listed : nce ∈ memory.neighbourMap) (free : ¬Awaiting memory nce)
    (sameNode : other.node = nce.node) (sameTimer : other.arTimer = nce.arTimer)
    (empty : other.pendingPackets = []) : Linked (storing memory other) := by
  apply linked.putSame listed sameNode sameTimer
  · intro waiting
    exact absurd empty waiting
  · intro _ existing scheduled context
    exact absurd context (linked.unreferred placed listed free existing scheduled)

theorem Linked.putComplete (placed : Placed memory) (listed : nce ∈ memory.neighbourMap)
    (complete : nce.reachabilityState ≠ .INCOMPLETE) (sameNode : other.node = nce.node)
    (sameTimer : other.arTimer = nce.arTimer)
    (samePackets : other.pendingPackets = nce.pendingPackets) : Linked (storing memory other) := by
  have free : ¬Awaiting memory nce := not_awaiting complete
  have empty := linked.idle listed free
  exact linked.putIdle placed listed free sameNode sameTimer (samePackets.trans empty)

theorem Linked.putAlike (placed : Placed memory)
    (listed : nce ∈ memory.neighbourMap) (sameNode : other.node = nce.node)
    (sameTimer : other.arTimer = nce.arTimer)
    (samePackets : other.pendingPackets = [] ∨ other.pendingPackets = nce.pendingPackets)
    (sameState : other.reachabilityState = .INCOMPLETE ↔ nce.reachabilityState = .INCOMPLETE) :
    Linked (storing memory other) := by
  apply linked.putSame listed sameNode sameTimer
  · intro waiting
    rcases samePackets with empty | same
    · exact absurd empty waiting
    · rw [same] at waiting
      rcases linked.queues _ listed waiting with ⟨incomplete, rest⟩
      refine ⟨sameState.mpr incomplete, ?_⟩
      rwa [sameNode, sameTimer]
  · intro _ existing scheduled context
    rcases linked.referred placed listed existing scheduled context with ⟨incomplete, timed⟩
    exact ⟨sameState.mpr incomplete, timed⟩

theorem Linked.discardIdle (placed : Placed memory)
    (listed : nce ∈ memory.neighbourMap) (free : ¬Awaiting memory nce)
    (nudTimers : List Timer) : Linked (without memory nce nudTimers) where
  queues entry member := linked.queues entry (mem_discard.mp member).1
  timers := by
    intro _ existing scheduled
    rcases linked.timers _ existing scheduled with ⟨found, among, same, rest⟩
    refine ⟨found, mem_discard.mpr ⟨among, ?_⟩, same, rest⟩
    rw [same]
    exact linked.unreferred placed listed free existing scheduled
  issued entry member := linked.issued entry (mem_discard.mp member).1
  owned entry member := linked.owned entry (mem_discard.mp member).1

/--
The timers get other times.  No new timer runs, and those of the entries with
datagrams still do.
-/
theorem Linked.retime {arTimers : List Timer}
    (old : ∀ timer ∈ arTimers, ∃ before ∈ memory.arTimers,
      before.pointer = timer.pointer ∧ before.contextPointer = timer.contextPointer ∧
        (timer.isScheduled = true → before.isScheduled = true))
    (kept : ∀ entry ∈ memory.neighbourMap, entry.pendingPackets ≠ [] →
      ∀ before ∈ memory.arTimers, before.isScheduled = true →
        entry.arTimer = some before.pointer →
          ∃ timer ∈ arTimers, timer.pointer = before.pointer ∧
            timer.contextPointer = before.contextPointer ∧ timer.isScheduled = true) :
    Linked { memory with arTimers } where
  queues := by
    intro _ member waiting
    rcases linked.queues _ member waiting with
      ⟨incomplete, before, existing, scheduled, context, timed⟩
    rcases kept _ member waiting _ existing scheduled timed with ⟨timer, now, pointer, same, runs⟩
    refine ⟨incomplete, timer, now, runs, same.trans context, ?_⟩
    rwa [pointer]
  timers := by
    intro _ existing scheduled
    rcases old _ existing with ⟨before, was, pointer, context, ran⟩
    rcases linked.timers _ was (ran scheduled) with ⟨found, among, same, incomplete, timed⟩
    exact ⟨found, among, same.trans context, incomplete, pointer ▸ timed⟩
  issued := linked.issued
  owned := by
    intro entry member _ existing timed
    rcases old _ existing with ⟨before, was, pointer, context, -⟩
    rw [← context]
    rw [← pointer] at timed
    exact linked.owned entry member before was timed

theorem Linked.sameEntry (placed : Placed memory)
    (listed : nce ∈ memory.neighbourMap) (among : other ∈ memory.neighbourMap)
    {timer : Timer} (existing : timer ∈ memory.arTimers) (timed : nce.arTimer = some timer.pointer)
    (otherTimed : other.arTimer = some timer.pointer) : other = nce := by
  have here := linked.owned _ listed _ existing timed
  have there := linked.owned _ among _ existing otherTimed
  exact placed.entries.distinct.eq among listed (there.symm.trans here)

theorem Linked.stop (placed : Placed memory)
    (listed : nce ∈ memory.neighbourMap) (empty : nce.pendingPackets = [])
    {timer : Timer} (existing : timer ∈ memory.arTimers)
    (timed : nce.arTimer = some timer.pointer) : Linked (arDelivered memory timer) := by
  apply linked.retime
  · intro later member
    rcases mem_put.mp member with ⟨same, -⟩ | ⟨rfl, -⟩
    · exact ⟨later, same, rfl, rfl, id⟩
    · exact ⟨timer, existing, rfl, rfl, fun runs => nomatch runs⟩
  · intro _ member waiting before was scheduled points
    refine ⟨before, mem_put.mpr (.inl ⟨was, ?_⟩), rfl, rfl, scheduled⟩
    intro same
    have one := placed.arTimers.distinct.eq was existing same
    subst one
    have own := linked.sameEntry placed listed member existing timed points
    subst own
    exact waiting empty

theorem Linked.delete (placed : Placed memory)
    {timer : Timer} (existing : timer ∈ memory.arTimers) (stopped : timer.isScheduled = false) :
    Linked { memory with
      arTimers := dropTimer timer.pointer memory.arTimers } := by
  apply linked.retime
  · intro later member
    exact ⟨later, (mem_discard.mp member).1, rfl, rfl, id⟩
  · intro _ _ _ before was scheduled _
    refine ⟨before, mem_discard.mpr ⟨was, ?_⟩, rfl, rfl, scheduled⟩
    intro same
    have one := placed.arTimers.distinct.eq was existing same
    rw [one, stopped] at scheduled
    cases scheduled

theorem Linked.reschedule (placed : Placed memory)
    {timer : Timer} (existing : timer ∈ memory.arTimers)
    (scheduled : timer.isScheduled = true) (time : Int) :
    Linked { memory with
      arTimers := scheduleAt time timer memory.arTimers } := by
  apply linked.retime
  · intro later member
    rcases mem_put.mp member with ⟨same, -⟩ | ⟨rfl, -⟩
    · exact ⟨later, same, rfl, rfl, id⟩
    · exact ⟨timer, existing, rfl, rfl, fun _ => scheduled⟩
  · intro _ _ _ before was runs _
    by_cases same : before.pointer = timer.pointer
    · have one := placed.arTimers.distinct.eq was existing same
      subst one
      exact ⟨_, mem_put.mpr (.inr ⟨rfl, before, was, rfl⟩), rfl, rfl, rfl⟩
    · exact ⟨before, mem_put.mpr (.inl ⟨was, same⟩), rfl, rfl, runs⟩

/--
An entry that awaits its address is there instead of one that awaited nothing,
or is new.
-/
theorem Linked.start (placed : Placed memory) {next : Memory} {time : Int}
    (members : ∀ entry, entry ∈ next.neighbourMap ↔
      entry = other ∨ entry ∈ memory.neighbourMap ∧ entry.node ≠ other.node)
    (arTimers : next.arTimers = memory.arTimers ++ [⟨memory.messages, other.node, some time⟩])
    (messages : next.messages = memory.messages + 1)
    (incomplete : other.reachabilityState = .INCOMPLETE)
    (timed : other.arTimer = some memory.messages)
    (unreferred : ∀ timer ∈ memory.arTimers, timer.isScheduled = true →
      timer.contextPointer ≠ other.node) :
    Linked next := by
  have within : ∀ timer, timer ∈ next.arTimers ↔
      timer ∈ memory.arTimers ∨ timer = ⟨memory.messages, other.node, some time⟩ := by
    intro _
    rw [arTimers, mem_append, mem_singleton]
  constructor
  · intro _ member waiting
    rcases (members _).mp member with rfl | ⟨old, -⟩
    · exact ⟨incomplete, _, (within _).mpr (.inr rfl), rfl, rfl, timed⟩
    · rcases linked.queues _ old waiting with ⟨here, timer, existing, rest⟩
      exact ⟨here, timer, (within _).mpr (.inl existing), rest⟩
  · intro timer existing scheduled
    rcases (within _).mp existing with old | rfl
    · rcases linked.timers _ old scheduled with ⟨found, among, same, rest⟩
      refine ⟨found, (members found).mpr (.inr ⟨among, ?_⟩), same, rest⟩
      rw [same]
      exact unreferred timer old scheduled
    · exact ⟨other, (members other).mpr (.inl rfl), rfl, incomplete, timed⟩
  · intro entry member pointer points
    rw [messages]
    rcases (members entry).mp member with rfl | ⟨old, -⟩
    · cases timed.symm.trans points
      exact Nat.lt_succ_self _
    · exact Nat.lt_succ_of_lt (linked.issued entry old pointer points)
  · intro entry member timer existing points
    rcases (members entry).mp member with rfl | ⟨old, -⟩
    · rcases (within timer).mp existing with was | rfl
      · have below := placed.arTimers.below timer was
        have same := Option.some.inj (timed.symm.trans points)
        rw [← same] at below
        exact absurd below (lt_irrefl _)
      · rfl
    · rcases (within timer).mp existing with was | rfl
      · exact linked.owned entry old timer was points
      · exact absurd (linked.issued entry old _ points) (lt_irrefl _)

theorem Linked.enter {next : Memory} (added : next.neighbourMap.Perm (other :: memory.neighbourMap))
    (arTimers : next.arTimers = memory.arTimers) (messages : next.messages = memory.messages)
    (empty : other.pendingPackets = []) (untimed : other.arTimer = none) : Linked next := by
  have members : ∀ entry ∈ next.neighbourMap, entry = other ∨ entry ∈ memory.neighbourMap := by
    intro _ member
    exact mem_cons.mp (added.mem_iff.mp member)
  constructor
  · intro _ member waiting
    rcases members _ member with rfl | old
    · exact absurd empty waiting
    · rw [Awaiting, arTimers]
      exact linked.queues _ old waiting
  · intro _ existing scheduled
    rw [arTimers] at existing
    rcases linked.timers _ existing scheduled with ⟨found, among, rest⟩
    exact ⟨found, added.mem_iff.mpr (mem_cons_of_mem _ among), rest⟩
  · intro _ member _ points
    rw [messages]
    rcases members _ member with rfl | old
    · cases untimed.symm.trans points
    · exact linked.issued _ old _ points
  · intro entry member timer existing points
    rw [arTimers] at existing
    rcases members entry member with rfl | old
    · cases untimed.symm.trans points
    · exact linked.owned entry old timer existing points

theorem Linked.rest {next : Memory} (neighbourMap : next.neighbourMap = memory.neighbourMap)
    (arTimers : next.arTimers = memory.arTimers)
    (messages : memory.messages ≤ next.messages) : Linked next := by
  constructor
  · unfold Awaiting
    rw [neighbourMap, arTimers]
    exact linked.queues
  · unfold Referring
    rw [neighbourMap, arTimers]
    exact linked.timers
  · rw [neighbourMap]
    intro _ member _ points
    exact (linked.issued _ member _ points).trans_le messages
  · rw [neighbourMap, arTimers]
    exact linked.owned

end

end Changes

/-! ## Entries that are released -/

theorem startProbes_incomplete (nce : Neighbour) :
    (startProbes nce).reachabilityState = .INCOMPLETE ↔ nce.reachabilityState = .INCOMPLETE := by
  unfold startProbes
  split_ifs with delayed
  · simp [delayed]
  · rfl

theorem startProbes_fields (nce : Neighbour) :
    (startProbes nce).arTimer = nce.arTimer ∧
      (startProbes nce).pendingPackets = nce.pendingPackets := by
  unfold startProbes
  split_ifs <;> exact ⟨rfl, rfl⟩

/-- The entry without its datagrams. -/
def emptied (nce : Neighbour) : Neighbour :=
  { nce with pendingPackets := [] }

/-- The entry is emptied and its timer is stopped. -/
def releasing (memory : Memory) (nce : Neighbour) (timer : Timer) : Memory :=
  arDelivered (storing memory (emptied nce)) timer

section Released

variable {memory : Memory} {nce other : Neighbour} {timer : Timer}

theorem placed_releasing (placed : Placed memory)
    (listed : nce ∈ memory.neighbourMap) (timer : Timer) : Placed (releasing memory nce timer) := by
  have flushed : Placed (storing memory (emptied nce)) := placed.storing listed rfl rfl
  exact flushed.arDelivered _

theorem mem_releasing (listed : nce ∈ memory.neighbourMap) :
    emptied nce ∈ (releasing memory nce timer).neighbourMap :=
  mem_storing listed rfl

theorem Linked.release (linked : Linked memory) (placed : Placed memory)
    (listed : nce ∈ memory.neighbourMap) (existing : timer ∈ memory.arTimers)
    (timed : nce.arTimer = some timer.pointer) : Linked (releasing memory nce timer) := by
  have flushed : Linked (storing memory (emptied nce)) :=
    linked.putAlike placed listed rfl rfl (.inl rfl) Iff.rfl
  have still : Placed (storing memory (emptied nce)) := placed.storing listed rfl rfl
  exact flushed.stop still (mem_storing listed rfl) rfl existing timed

theorem releasing_free (timed : nce.arTimer = some timer.pointer) :
    ¬Awaiting (releasing memory nce timer) (emptied nce) := by
  rintro ⟨-, _, member, scheduled, -, points⟩
  rcases mem_put.mp member with ⟨-, differs⟩ | ⟨rfl, -⟩
  · exact differs (Option.some.inj (points.symm.trans timed))
  · cases scheduled

section

variable (linked : Linked memory) (placed : Placed memory) (listed : nce ∈ memory.neighbourMap)
    (existing : timer ∈ memory.arTimers) (timed : nce.arTimer = some timer.pointer)
include linked placed listed existing timed

theorem Linked.resolve (sameNode : other.node = nce.node)
    (sameTimer : other.arTimer = nce.arTimer) (empty : other.pendingPackets = []) :
    Linked (storing (arDelivered memory timer) other) := by
  have stopped := linked.release placed listed existing timed
  have final := stopped.putIdle (placed_releasing placed listed _)
    (mem_releasing listed) (releasing_free timed) sameNode sameTimer empty
  have merged := @put_put _ _ _ Neighbour.node memory.neighbourMap (emptied _) _ sameNode
  exact final.rest merged.symm rfl le_rfl

theorem Linked.fail (nudTimers : List Timer) :
    Linked { without memory nce nudTimers with
      arTimers := dropTimer timer.pointer memory.arTimers } := by
  have stopped := linked.release placed listed existing timed
  have gone := stopped.discardIdle (placed_releasing placed listed _)
    (mem_releasing listed) (releasing_free timed) memory.nudTimers
  have still : delivered timer ∈ putTimer (delivered timer) memory.arTimers :=
    mem_put.mpr (.inr ⟨rfl, timer, existing, rfl⟩)
  have placedGone : Placed (without (releasing memory nce timer) (emptied nce)
      memory.nudTimers) := by
    have before := placed_releasing placed listed timer
    exact { before with entries := before.entries.discard (emptied _).node }
  have final := gone.delete placedGone still rfl
  have discarded := @discard_put _ _ _ Neighbour.node memory.neighbourMap (emptied nce) nce.node rfl
  have dropped := @discard_put _ _ _ Timer.pointer
    memory.arTimers (delivered timer) timer.pointer rfl
  exact final.rest discarded.symm dropped.symm le_rfl

end

end Released

/-! ## One step -/

section Steps

variable {node : Node} {nd : IPv6NeighbourDiscovery} {event : Event}
variable {next : Memory}

theorem mem_put_iff {memory : Memory} {nce other : Neighbour}
    (listed : nce ∈ memory.neighbourMap) (sameNode : other.node = nce.node) (entry : Neighbour) :
    entry ∈ put Neighbour.node other memory.neighbourMap ↔
      entry = other ∨ entry ∈ memory.neighbourMap ∧ entry.node ≠ other.node := by
  rw [mem_put]
  constructor
  · rintro (kept | ⟨same, -⟩)
    · exact .inr kept
    · exact .inl same
  · rintro (same | kept)
    · exact .inr ⟨same, nce, listed, sameNode.symm⟩
    · exact .inl kept

theorem Linked.effect (linked : Linked nd.memory) (placed : Placed nd.memory)
    (kept : Kept node nd event) (effect : Effect node nd event next) : Linked next := by
  cases effect with
  | quiet => exact linked
  | detected nce _ listed known =>
    have complete : nce.reachabilityState ≠ .INCOMPLETE := by
      rcases known with stale | reachable
      · rw [stale]
        decide
      · rw [reachable]
        decide
    have stored : Linked (storing nd.memory { nce with
        reachabilityState := .DELAY
        nudTimeoutEvent := some nd.memory.messages }) :=
      linked.putComplete placed listed complete rfl rfl rfl
    exact stored.rest rfl rfl (Nat.le_succ _)
  | unresolved nbor nsSrcAddr msg _ neighbourMap blank _ _ entered =>
    have fresh := placed.fresh blank
    have members : ∀ entry, entry ∈ neighbourMap ↔
        entry = awaiting nd.memory nbor nsSrcAddr msg ∨
          entry ∈ nd.memory.neighbourMap ∧
            entry.node ≠ (awaiting nd.memory nbor nsSrcAddr msg).node := by
      intro entry
      rw [entered.mem_iff, mem_cons]
      exact or_congr_right ⟨fun old => ⟨old, fresh entry old⟩, And.left⟩
    refine linked.start placed members rfl rfl rfl rfl ?_
    intro timer existing scheduled context
    rcases linked.timers timer existing scheduled with ⟨found, among, same, -⟩
    exact fresh found among (same.trans context)
  | queued nce msg reached incomplete _ =>
    have waits := kept.queued nce reached incomplete
    have stored : Linked (storing nd.memory { nce with
        pendingPackets := nce.pendingPackets ++ [msg] }) := by
      refine linked.putSame reached.listed rfl rfl (fun _ => waits) ?_
      intro _ existing scheduled context
      exact linked.referred placed reached.listed existing scheduled context
    exact stored.rest rfl rfl le_rfl
  | readdressed _ _ _ _ reached complete _ _ =>
    refine linked.start placed (mem_put_iff reached.listed rfl) rfl rfl rfl rfl ?_
    intro _ existing scheduled
    exact linked.unreferred placed reached.listed (not_awaiting complete) existing scheduled
  | staled nce _ _ listed cause =>
    rcases cause with reachable | stales
    · refine linked.putComplete placed listed ?_ rfl rfl rfl
      rw [reachable]
      decide
    · have free := kept.staled nce stales
      have empty := linked.idle listed free
      exact linked.putIdle placed listed free rfl rfl empty
  | touched _ _ _ _ listed => exact linked.putAlike placed listed rfl rfl (.inr rfl) Iff.rfl
  | reconfirmed _ _ _ confirms complete _ =>
    exact linked.putComplete placed confirms.listed complete rfl rfl rfl
  | hinted _ _ _ _ => exact linked.rest rfl rfl le_rfl
  | confirmed nce _ macAddress isRouter reachabilityExpires confirms complete _ =>
    have stored : Linked (storing nd.memory { nce with
        macAddress
        isRouter
        reachabilityState := .REACHABLE
        reachabilityExpires }) :=
      linked.putComplete placed confirms.listed complete rfl rfl rfl
    exact stored.rest rfl rfl le_rfl
  | resolved nce timer macAddress isRouter reachabilityState
      reachabilityExpires listed incomplete state addressed existing timed =>
      have final := linked.resolve placed listed existing timed
        (show Neighbour.node { nce with
          macAddress
          isRouter
          reachabilityState
          reachabilityExpires
          pendingPackets := [] } = nce.node from rfl) rfl rfl
      exact final.rest rfl rfl le_rfl
  | entered _ _ blank _ added => exact linked.enter added rfl rfl blank.pendingPackets blank.arTimer
  | timedOut nce nudTimers dismisses _ =>
    exact linked.discardIdle placed dismisses.listed (kept.dismissed nce dismisses) nudTimers
  | probed _ nce _ _ _ _ listed _ _ =>
    have same := startProbes_fields nce
    have stored : Linked (storing nd.memory { startProbes nce with
        numProbesSent := (startProbes nce).numProbesSent + 1 }) :=
      linked.putAlike placed listed (startProbes_node nce) same.1
        (.inr same.2) (startProbes_incomplete nce)
    exact stored.rest rfl rfl le_rfl
  | givenUp timer nce nudTimers sent existing _ listed context most _ =>
    exact linked.discardIdle placed listed
      (kept.givenUp timer existing sent nce listed context most) nudTimers
  | solicitedAgain _ nce time _ existing scheduled listed _ =>
    have stored : Linked (storing nd.memory { nce with
        numOfARNSSent := nce.numOfARNSSent + 1 }) :=
      linked.putAlike placed listed rfl rfl (.inr rfl) Iff.rfl
    refine stored.reschedule (placed.storing listed rfl rfl) existing ?_ time
    rw [Timer.isScheduled, scheduled]
    rfl
  | failed timer _ nudTimers _ existing scheduled listed context _ _ =>
    have runs : timer.isScheduled = true := by
      rw [Timer.isScheduled, scheduled]
      rfl
    have timed := (linked.referred placed listed existing runs context.symm).2
    have final := linked.fail placed listed existing timed nudTimers
    exact final.rest rfl rfl le_rfl

end Steps

/-! ## Where the datagrams are -/

section Accounts

variable {node : Node} {nd : IPv6NeighbourDiscovery} {event : Event}
variable {next memory : Memory} {nce other : Neighbour}

/-- The numbers of the datagrams that wait in an entry. -/
def numbers (nce : Neighbour) : List Nat :=
  nce.pendingPackets.map IPv6Datagram.number

theorem queuedNumbers_perm {left right : List Neighbour} (same : left.Perm right) :
    (queuedNumbers left).Perm (queuedNumbers right) :=
  same.flatMap_right _

/-- What waits elsewhere than in an entry. -/
def elsewhere (memory : Memory) (nce : Neighbour) : List Nat :=
  queuedNumbers (discard Neighbour.node nce.node memory.neighbourMap)

theorem queued_listed (placed : Placed memory) (listed : nce ∈ memory.neighbourMap) :
    (queuedNumbers memory.neighbourMap).Perm (numbers nce ++ elsewhere memory nce) :=
  queuedNumbers_perm (discard_perm placed.entries.distinct listed)

theorem queued_stored (placed : Placed memory)
    (listed : nce ∈ memory.neighbourMap) (sameNode : other.node = nce.node) :
    (queuedNumbers (storing memory other).neighbourMap).Perm
      (numbers other ++ elsewhere memory nce) := by
  have parted := queuedNumbers_perm (put_perm placed.entries.distinct listed sameNode.symm)
  rwa [sameNode] at parted

section

variable (accounted : Accounted node memory)
include accounted

/-- The datagrams of the entries are in the same order or in another one. -/
theorem Accounted.same
    (queued : (queuedNumbers next.neighbourMap).Perm (queuedNumbers memory.neighbourMap))
    (accepted : next.accepted = memory.accepted) (sentBack : next.sentBack = memory.sentBack)
    (unreachable : next.unreachable = memory.unreachable) : Accounted node next where
  numbered := by
    rw [accepted]
    exact accounted.numbered
  accounted := by
    rw [accepted, sentBack, unreachable]
    have parts := (queued.append_right (memory.sentBack.map
      SentBack.number)).append_right (memory.unreachable.map Unreachable.number)
    exact accounted.accounted.trans parts.symm
  addressed := by
    rw [sentBack]
    exact accounted.addressed
  exhausted := by
    rw [unreachable]
    exact accounted.exhausted

theorem Accounted.stored (placed : Placed memory) (listed : nce ∈ memory.neighbourMap)
    (neighbourMap : next.neighbourMap = (storing memory other).neighbourMap)
    (sameNode : other.node = nce.node) (samePackets : other.pendingPackets = nce.pendingPackets)
    (accepted : next.accepted = memory.accepted) (sentBack : next.sentBack = memory.sentBack)
    (unreachable : next.unreachable = memory.unreachable) : Accounted node next := by
  refine accounted.same ?_ accepted sentBack unreachable
  rw [neighbourMap]
  refine (queued_stored placed listed sameNode).trans ?_
  rw [numbers, samePackets]
  exact (queued_listed placed listed).symm

theorem Accounted.removed (placed : Placed memory) (listed : nce ∈ memory.neighbourMap)
    (empty : nce.pendingPackets = []) (nudTimers : List Timer) :
    Accounted node (without memory nce nudTimers) := by
  refine accounted.same ?_ rfl rfl rfl
  have parted := queued_listed placed listed
  rw [numbers, empty] at parted
  exact parted.symm

theorem Accounted.accepted {msg : IPv6Datagram} (number : msg.number = memory.accepted.length)
    (queued : (queuedNumbers next.neighbourMap).Perm
      (msg.number :: queuedNumbers memory.neighbourMap))
    (accepted : next.accepted = memory.accepted ++ [msg.number])
    (sentBack : next.sentBack = memory.sentBack)
    (unreachable : next.unreachable = memory.unreachable) :
    Accounted node next where
  numbered := by
    rw [accepted, length_append, number, length_singleton, range_succ, ← accounted.numbered]
  accounted := by
    rw [accepted, sentBack, unreachable]
    have parts := (queued.append_right (memory.sentBack.map
      SentBack.number)).append_right (memory.unreachable.map Unreachable.number)
    refine Perm.trans ?_ parts.symm
    exact (perm_append_singleton _ _).trans (accounted.accounted.cons msg.number)
  addressed := by
    rw [sentBack]
    exact accounted.addressed
  exhausted := by
    rw [unreachable]
    exact accounted.exhausted

end

theorem numbers_snoc (nce : Neighbour) (msg : IPv6Datagram) :
    ((nce.pendingPackets ++ [msg]).map IPv6Datagram.number).Perm (msg.number :: numbers nce) := by
  rw [map_append]
  exact perm_append_singleton _ _

theorem queued_more (placed : Placed memory)
    (listed : nce ∈ memory.neighbourMap) (other : Neighbour)
    (sameNode : other.node = nce.node) {msg : IPv6Datagram}
    (more : other.pendingPackets = nce.pendingPackets ++ [msg]) :
    (queuedNumbers (storing memory other).neighbourMap).Perm
      (msg.number :: queuedNumbers memory.neighbourMap) := by
  refine (queued_stored placed listed sameNode).trans ?_
  rw [numbers, more]
  refine ((numbers_snoc _ _).append_right _).trans ?_
  exact ((queued_listed placed listed).cons msg.number).symm

section

variable (accounted : Accounted node memory) (placed : Placed memory)
    (listed : nce ∈ memory.neighbourMap)
include accounted placed listed

theorem Accounted.resolve (other : Neighbour) (sameNode : other.node = nce.node)
    (empty : other.pendingPackets = []) {macAddress : MACAddress}
    (addressed : macAddress.isUnspecified = false) (arTimers : List Timer) :
    Accounted node { storing memory other with
      arTimers
      sentBack := memory.sentBack ++
        nce.pendingPackets.map fun msg => ⟨msg.number, macAddress⟩ } where
  numbered := accounted.numbered
  accounted := by
    have before := accounted.accounted
    have listedParts := queued_listed placed listed
    have storedParts := queued_stored placed listed sameNode
    have sent : (nce.pendingPackets.map fun msg =>
        (⟨msg.number, macAddress⟩ : SentBack)).map SentBack.number = numbers nce := by
      rw [map_map]
      rfl
    rw [numbers, empty] at storedParts
    rw [map_append, sent]
    rw [perm_iff_count] at before listedParts storedParts ⊢
    intro number
    have here := before number
    have old := listedParts number
    have new := storedParts number
    simp only [count_append, map_nil, count_nil] at *
    refine here.trans ?_
    rw [old, new]
    simp only [storing]
    omega
  addressed := by
    intro _ member
    rcases mem_append.mp member with old | new
    · exact accounted.addressed _ old
    · rcases mem_map.mp new with ⟨_, -, rfl⟩
      exact addressed
  exhausted := accounted.exhausted

theorem Accounted.fail
    (most : ¬nce.numOfARNSSent < (node.ipv6Data nce.nceKey.interfaceID).maxMulticastSolicit)
    (nudTimers arTimers : List Timer) :
    Accounted node { without memory nce nudTimers with
      arTimers
      unreachable := memory.unreachable ++ reports nce } where
  numbered := accounted.numbered
  accounted := by
    have before := accounted.accounted
    have listedParts := queued_listed placed listed
    have reported : (reports nce).map Unreachable.number = numbers nce := by
      rw [reports, map_map]
      rfl
    rw [map_append, reported]
    rw [perm_iff_count] at before listedParts ⊢
    intro number
    have here := before number
    have old := listedParts number
    simp only [count_append] at here old ⊢
    unfold elsewhere at old
    rw [without]
    dsimp only
    omega
  addressed := accounted.addressed
  exhausted := by
    intro _ member
    rcases mem_append.mp member with old | new
    · exact accounted.exhausted _ old
    · rcases mem_map.mp new with ⟨_, -, rfl⟩
      exact most

end

theorem Accounted.effect (accounted : Accounted node nd.memory)
    (linked : Linked nd.memory) (placed : Placed nd.memory)
    (kept : Kept node nd event) (effect : Effect node nd event next) : Accounted node next := by
  cases effect with
  | quiet => exact accounted
  | detected _ _ listed _ => exact accounted.stored placed listed rfl rfl rfl rfl rfl rfl
  | unresolved _ _ _ _ _ blank _ number entered =>
    refine accounted.accepted number ?_ rfl rfl rfl
    refine (queuedNumbers_perm entered).trans ?_
    rw [queuedNumbers, awaiting, flatMap_cons, blank.pendingPackets]
    exact .refl _
  | queued nce msg reached _ number =>
    refine accounted.accepted number ?_ rfl rfl rfl
    exact queued_more placed reached.listed
      { nce with pendingPackets := nce.pendingPackets ++ [msg] } rfl rfl
  | readdressed nce nsSrcAddr msg _ reached _ _ number =>
    refine accounted.accepted number ?_ rfl rfl rfl
    exact queued_more placed reached.listed (awaiting nd.memory nce nsSrcAddr msg) rfl rfl
  | staled _ _ _ listed _ => exact accounted.stored placed listed rfl rfl rfl rfl rfl rfl
  | touched _ _ _ _ listed => exact accounted.stored placed listed rfl rfl rfl rfl rfl rfl
  | reconfirmed _ _ _ confirms _ _ =>
    exact accounted.stored placed confirms.listed rfl rfl rfl rfl rfl rfl
  | hinted _ _ _ _ => exact accounted.same (.refl _) rfl rfl rfl
  | confirmed _ _ _ _ _ confirms _ _ =>
    exact accounted.stored placed confirms.listed rfl rfl rfl rfl rfl rfl
  | resolved nce timer macAddress isRouter reachabilityState
      reachabilityExpires listed incomplete state addressed existing timed =>
      exact accounted.resolve placed listed { nce with
          macAddress
          isRouter
          reachabilityState
          reachabilityExpires
          pendingPackets := [] }
        rfl rfl addressed _
  | entered _ _ blank _ added =>
    refine accounted.same ?_ rfl rfl rfl
    refine (queuedNumbers_perm added).trans ?_
    rw [queuedNumbers, flatMap_cons, blank.pendingPackets]
    exact .refl _
  | timedOut nce nudTimers dismisses _ =>
    have empty := linked.idle dismisses.listed (kept.dismissed nce dismisses)
    exact accounted.removed placed dismisses.listed empty nudTimers
  | probed _ nce _ _ _ _ listed _ _ =>
    exact accounted.stored placed listed rfl (startProbes_node nce)
      (startProbes_fields nce).2 rfl rfl rfl
  | givenUp timer nce nudTimers sent existing _ listed context most _ =>
    have empty := linked.idle listed (kept.givenUp timer existing sent nce listed context most)
    exact accounted.removed placed listed empty nudTimers
  | solicitedAgain _ _ _ _ _ _ listed _ =>
    exact accounted.stored placed listed rfl rfl rfl rfl rfl rfl
  | failed _ _ nudTimers _ _ _ listed _ most _ =>
    exact accounted.fail placed listed most nudTimers _

end Accounts

/-! ## Runs -/

/-- What holds in every state of a run whose steps are all kept. -/
structure Sound (node : Node) (nd : IPv6NeighbourDiscovery) : Prop where
  placed : Placed nd.memory
  linked : Linked nd.memory
  accounted : Accounted node nd.memory

theorem start_sound (node : Node) (now : Int)
    (rt6 : RoutingTable6) : Sound node (start now rt6) where
  placed := {
    entries := ⟨.nil, .nil, fun _ member => nomatch member⟩
    nudTimers := ⟨.nil, fun _ member => nomatch member⟩
    arTimers := ⟨.nil, fun _ member => nomatch member⟩ }
  linked := {
    queues := fun _ member => nomatch member
    timers := fun _ member => nomatch member
    issued := fun _ member => nomatch member
    owned := fun _ member => nomatch member }
  accounted := {
    numbered := rfl
    accounted := .refl _
    addressed := fun _ member => nomatch member
    exhausted := fun _ member => nomatch member }

theorem step_sound {node : Node} {nd next : IPv6NeighbourDiscovery}
    {event : Event} (sound : Sound node nd) (kept : Kept node nd event)
    (step : Step node nd event next) : Sound node next := by
  have effect := step_effect sound.placed step
  exact {
    placed := sound.placed.effect effect
    linked := sound.linked.effect sound.placed kept effect
    accounted := sound.accounted.effect sound.linked sound.placed kept effect }

/-- What address resolution promises about a state. -/
structure Resolution (node : Node) (memory : Memory) : Prop where
  queues : ∀ nce ∈ memory.neighbourMap, nce.pendingPackets ≠ [] → Awaiting memory nce
  timers :
    ∀ timer ∈ memory.arTimers,
      timer.isScheduled = true →
        ∃ nce ∈ memory.neighbourMap,
          nce.node = timer.contextPointer ∧ nce.reachabilityState = .INCOMPLETE
  distinct : memory.accepted.Nodup
  accounted : Accounted node memory

theorem Sound.resolution {node : Node} {nd : IPv6NeighbourDiscovery}
    (sound : Sound node nd) : Resolution node nd.memory where
  queues := sound.linked.queues
  timers := by
    intro _ existing scheduled
    rcases sound.linked.timers _ existing scheduled with ⟨nce, listed, same, incomplete, -⟩
    exact ⟨nce, listed, same, incomplete⟩
  distinct := by
    rw [sound.accounted.numbered]
    exact nodup_range
  accounted := sound.accounted

/--
In every run whose steps leave the entries that await their address to their
timers, the datagrams wait in such entries only, the scheduled timers refer to
them, and every accepted datagram is in one place.
-/
theorem datagrams_resolved (node : Node) (now : Int)
    (rt6 : RoutingTable6) (events : List Event) (nd : IPv6NeighbourDiscovery)
    (ran : Run (guardedStep (Kept node) (Step node)) (start now rt6) events nd) :
    Resolution node nd.memory := by
  have sound : Sound node nd := by
    refine ran.guarded ?_ (start_sound _ _ _)
    intro _ _ _ holds kept step
    exact step_sound holds kept step
  exact sound.resolution

/-! ## A neighbour on the link -/

/-- A host with one interface. -/
def someHost : Node where
  isRouter := false
  ipv6Data _ :=
    { macAddress := ⟨1⟩, reachableTime := 30, retransTimer := 1, delayFirstProbeTime := 5 }
  second := 1
  order := insertion

/-- The address 2001:db8::2 of the host. -/
def ownAddress : IPv6Address := { d0 := 0x20010DB8, d3 := 2 }

def ownAddresses : Assigned where
  addresses := [⟨ownAddress, false⟩]
  preferredAddr := ownAddress

/-- The start of the host, with a route to its link. -/
def onLink : IPv6NeighbourDiscovery :=
  start 0 onlyRoute

def toNeighbour : Event :=
  .datagram ownAddress host

def fromNeighbour (destAddr : IPv6Address) : ControlInfo where
  srcAddr := host
  destAddr
  hopLimit := 255
  protocolICMPv6 := true
  interfaceId := 1

def solicitedAnswer : Event :=
  .advertisement
    { routerFlag := false
      solicitedFlag := true
      overrideFlag := true
      targetAddress := host
      targetLinkLayerAddress := ⟨2⟩ }
    (fromNeighbour ownAddress)

/-- The neighbour looks for the address of the host itself. -/
def itsSolicitation : Event :=
  .solicitation { targetAddress := ownAddress, sourceLinkLayerAddress := ⟨2⟩ }
    (fromNeighbour (formSolicitedNodeMulticastAddress ownAddress))

theorem kept_of_empty {node : Node} {nd : IPv6NeighbourDiscovery}
    (empty : nd.memory.neighbourMap = []) (event : Event) : Kept node nd event := by
  have absent : ∀ nce, nce ∉ nd.memory.neighbourMap := by
    rw [empty]
    exact fun _ => not_mem_nil
  constructor
  · intro _ stales
    exact absurd stales.listed (absent _)
  · intro _ dismisses
    exact absurd dismisses.listed (absent _)
  · intro _ reached
    exact absurd reached.listed (absent _)
  · intro _ _ _ _ listed
    exact absurd listed (absent _)

theorem kept_solicitedAnswer (node : Node) (nd : IPv6NeighbourDiscovery) :
    Kept node nd solicitedAnswer where
  staled nce stales := by
    have unsolicited : true = false := stales.2.2.1
    cases unsolicited
  dismissed _ dismisses := dismisses.elim
  queued _ reached := reached.elim
  givenUp _ _ sent := by cases sent

/-- The datagram waits for the answer and is sent back with the address. -/
theorem datagrams_resolved_one :
    ∃ nd,
      Run (guardedStep (Kept someHost) (Step someHost)) onLink
        [toNeighbour, solicitedAnswer] nd ∧ nd.memory.sentBack = [⟨0, ⟨2⟩⟩] ∧
        Resolution someHost nd.memory := by
  have computed :
      (fun nd : IPv6NeighbourDiscovery => nd.memory.sentBack) <$>
        [toNeighbour, solicitedAnswer].foldlM (handle someHost) onLink = .ok [⟨0, ⟨2⟩⟩] := by
    decide +kernel
  obtain ⟨nd, served, sent⟩ := Fallible.map_eq_ok.mp computed
  obtain ⟨_, head, tail⟩ := Run.cons_iff.mp (Run.of_foldlM served)
  obtain ⟨_, answered, final⟩ := Run.cons_iff.mp tail
  cases Run.nil_iff.mp final
  have ran : Run (guardedStep (Kept someHost) (Step someHost)) onLink
      [toNeighbour, solicitedAnswer] nd :=
    .next ⟨kept_of_empty rfl _, head⟩ (.next ⟨kept_solicitedAnswer _ _, answered⟩ (.idle _))
  exact ⟨nd, ran, sent, datagrams_resolved _ 0 _ _ _ ran⟩

/--
The neighbour solicits while its own address is looked for.  Its entry gets
the address and becomes stale, and the datagram stays in it.
-/
theorem datagram_left :
    ¬∀ (node : Node) (now : Int) (rt6 : RoutingTable6)
        (events : List Event) (nd : IPv6NeighbourDiscovery),
      Run (Step node) (start now rt6) events nd → Resolution node nd.memory := by
  intro claim
  have computed :
      (fun nd : IPv6NeighbourDiscovery => nd.memory.neighbourMap.map
        fun nce => (nce.reachabilityState, nce.pendingPackets.length)) <$>
        [.assignAddresses 1 ownAddresses, toNeighbour,
          itsSolicitation].foldlM (handle someHost) onLink = .ok [(.STALE, 1)] := by
    decide +kernel
  obtain ⟨nd, served, entries⟩ := Fallible.map_eq_ok.mp computed
  have resolution := claim _ 0 _ _ _ (Run.of_foldlM served)
  obtain ⟨nce, only, fields⟩ := map_eq_singleton_iff.mp entries
  rw [Prod.mk.injEq] at fields
  have listed : nce ∈ nd.memory.neighbourMap := by
    rw [only]
    exact mem_cons_self
  have waiting : nce.pendingPackets ≠ [] := by
    intro empty
    have none := fields.2
    rw [empty] at none
    cases none
  have awaiting := resolution.queues _ listed waiting
  have incomplete := awaiting.1
  rw [fields.1] at incomplete
  cases incomplete

end OmnetDsi.Ipv6.AddressResolution
