import OmnetDsi.Ipv6.AddressResolution

/-!
# Unreachability detection

An entry in one of the states `DELAY` and `PROBE` has a timer that is
scheduled, and no other entry has a timer for unreachability detection.
`Timed` is this rule together with the bound on the probes.

The source looks after the timer in the handler of the timer only.  Where it
changes the state of an entry or removes it for another reason, it leaves the
timer or the pointer to it behind, and `Undisturbed` says that this does not
happen to an entry with a timer.
-/

namespace OmnetDsi.Ipv6.UnreachabilityDetection

open OmnetDsi.Arp.Resolution (MACAddress)
open Contract.IPv6Addresses Ipv6.NeighbourDiscovery Ipv6.NeighbourEffects Library Library.Fallible
open Library.Transition RecordPools

/-! ## Entries and timers -/

def Probing (nce : Neighbour) : Prop :=
  nce.reachabilityState = .DELAY ∨ nce.reachabilityState = .PROBE

/-- The pointer of the entry leads to a scheduled timer of the entry. -/
def Detecting (nudTimers : List Timer) (nce : Neighbour) : Prop :=
  ∃ timer ∈ nudTimers,
    timer.isScheduled = true ∧ timer.contextPointer = nce.node ∧
      nce.nudTimeoutEvent = some timer.pointer

/-- An entry without detection, or one with detection and its timer. -/
def Consistent (nudTimers : List Timer) (nce : Neighbour) : Prop :=
  nce.nudTimeoutEvent = none ∧ ¬Probing nce ∨ Probing nce ∧ Detecting nudTimers nce

/-- The entry that the timer points to points to the timer. -/
def Owned (neighbourMap : List Neighbour) (timer : Timer) : Prop :=
  ∃ nce ∈ neighbourMap, nce.node = timer.contextPointer ∧ nce.nudTimeoutEvent = some timer.pointer

/-- The count is a `short`, and the bound is unsigned. -/
def Bounded (node : Node) (nce : Neighbour) : Prop :=
  nce.numProbesSent.toInt ≤ (node.ipv6Data nce.nceKey.interfaceID).maxUnicastSolicit.toNat

structure Timed (node : Node) (memory : Memory) : Prop where
  entries : ∀ nce ∈ memory.neighbourMap, Consistent memory.nudTimers nce
  owned : ∀ timer ∈ memory.nudTimers, Owned memory.neighbourMap timer
  bounded : ∀ nce ∈ memory.neighbourMap, Bounded node nce

/-! ## The condition -/

/-- The event leaves entries with a timer to their timers. -/
structure Undisturbed (node : Node) (nd : IPv6NeighbourDiscovery) (event : Event) : Prop where
  staled : ∀ nce, Stales nd nce event → nce.nudTimeoutEvent = none
  confirmed : ∀ nce, Confirms nd nce event → nce.nudTimeoutEvent = none
  dismissed : ∀ nce, Dismisses node nd nce event → nce.nudTimeoutEvent = none
  expired :
    ∀ nce, Scans nd nce event → routerExpired nd.simTime nce = true → nce.nudTimeoutEvent = none
  failed :
    ∀ timer ∈ nd.memory.arTimers, event = .arTimeout timer.pointer →
      ∀ nce ∈ nd.memory.neighbourMap, nce.node = timer.contextPointer →
        ¬nce.numOfARNSSent < (node.ipv6Data nce.nceKey.interfaceID).maxMulticastSolicit →
          nce.nudTimeoutEvent = none
  readdressed :
    ∀ nce, Reaches nd nce event → nce.reachabilityState ≠ .INCOMPLETE →
      nce.macAddress.isUnspecified = true → nce.nudTimeoutEvent = none
  reached :
    ∀ nce, Reaches nd nce event → nce.macAddress.isUnspecified = false →
      nce.reachabilityState ≠ .PROBE

/-- The failures that unreachability detection is not to have. -/
inductive Mishandled : Failure → Prop where
  | outlived : Mishandled (.erasedEntry .MK_NUD_TIMEOUT)
  | deletedTwice : Mishandled (.deletedMessage .MK_NUD_TIMEOUT)
  | stillScheduled : Mishandled (.deletesScheduled .MK_NUD_TIMEOUT)
  | unknownState : Mishandled .unknownNeighbourState
  | wrongState : Mishandled .notStale

/-! ## Changes that keep the rule -/

section Changes

theorem Consistent.untimed (consistent : Consistent nudTimers nce)
    (quiet : ¬Probing nce) : nce.nudTimeoutEvent = none := by
  rcases consistent with ⟨untimed, -⟩ | ⟨probing, -⟩
  · exact untimed
  · exact absurd probing quiet

theorem not_probing (state : HopLimits.ReachabilityState) (known : nce.reachabilityState = state)
    (other : state ≠ .DELAY ∧ state ≠ .PROBE) : ¬Probing nce := by
  rintro (delay | probe)
  · exact other.1 (known.symm.trans delay)
  · exact other.2 (known.symm.trans probe)

section

variable (timed : Timed node memory)
include timed

theorem Timed.owner (placed : Placed memory) (listed : nce ∈ memory.neighbourMap)
    (existing : timer ∈ memory.nudTimers) (context : timer.contextPointer = nce.node) :
    nce.nudTimeoutEvent = some timer.pointer := by
  rcases timed.owned _ existing with ⟨_, among, same, points⟩
  have one := placed.entries.distinct.eq among listed (same.trans context)
  subst one
  exact points

theorem Timed.put (listed : nce ∈ memory.neighbourMap) (sameNode : other.node = nce.node)
    (sameTimer : other.nudTimeoutEvent = nce.nudTimeoutEvent)
    (consistent : Consistent memory.nudTimers other)
    (bounded : Bounded node other) (placed : Placed memory) :
    Timed node (storing memory other) where
  entries := by
    intro _ member
    rcases mem_put.mp member with ⟨kept, -⟩ | ⟨rfl, -⟩
    · exact timed.entries _ kept
    · exact consistent
  owned := by
    intro _ existing
    rcases timed.owned _ existing with ⟨found, among, same, points⟩
    by_cases here : found.node = other.node
    · have one := placed.entries.distinct.eq among listed (here.trans sameNode)
      subst one
      exact ⟨other, mem_put.mpr (.inr ⟨rfl, found, among, here⟩),
        here.symm.trans same, sameTimer.trans points⟩
    · exact ⟨found, mem_put.mpr (.inl ⟨among, here⟩), same, points⟩
  bounded := by
    intro _ member
    rcases mem_put.mp member with ⟨kept, -⟩ | ⟨rfl, -⟩
    · exact timed.bounded _ kept
    · exact bounded

theorem Timed.putResting (placed : Placed memory)
    (listed : nce ∈ memory.neighbourMap) (untimed : nce.nudTimeoutEvent = none)
    (sameNode : other.node = nce.node) (sameTimer : other.nudTimeoutEvent = nce.nudTimeoutEvent)
    (resting : ¬Probing other) (bounded : Bounded node other) :
    Timed node (storing memory other) := by
  refine timed.put listed sameNode sameTimer ?_ bounded placed
  exact .inl ⟨sameTimer.trans untimed, resting⟩

theorem Timed.putAlike (placed : Placed memory)
    (listed : nce ∈ memory.neighbourMap) (sameNode : other.node = nce.node)
    (sameTimer : other.nudTimeoutEvent = nce.nudTimeoutEvent)
    (sameState : Probing other ↔ Probing nce) (bounded : Bounded node other) :
    Timed node (storing memory other) := by
  refine timed.put listed sameNode sameTimer ?_ bounded placed
  rcases timed.entries _ listed with ⟨untimed, resting⟩ | ⟨probing, timer, existing, rest⟩
  · exact .inl ⟨sameTimer.trans untimed, mt sameState.mp resting⟩
  · refine .inr ⟨sameState.mpr probing, timer, existing, ?_⟩
    rwa [sameNode, sameTimer]

theorem Timed.discard (placed : Placed memory)
    (listed : nce ∈ memory.neighbourMap) (untimed : nce.nudTimeoutEvent = none) :
    Timed node (without memory nce memory.nudTimers) where
  entries entry member := timed.entries entry (mem_discard.mp member).1
  owned := by
    intro _ existing
    rcases timed.owned _ existing with ⟨found, among, same, points⟩
    refine ⟨found, mem_discard.mpr ⟨among, ?_⟩, same, points⟩
    intro here
    have one := placed.entries.distinct.eq among listed here
    rw [one, untimed] at points
    cases points
  bounded entry member := timed.bounded entry (mem_discard.mp member).1

theorem Timed.added (untimed : nbor.nudTimeoutEvent = none) (resting : ¬Probing nbor)
    (bounded : Bounded node nbor) (added : neighbourMap.Perm (nbor :: memory.neighbourMap))
    (sameMap : next.neighbourMap = neighbourMap)
    (sameTimers : next.nudTimers = memory.nudTimers) : Timed node next where
  entries := by
    rw [sameMap, sameTimers]
    intro _ member
    rcases List.mem_cons.mp (added.mem_iff.mp member) with rfl | old
    · exact .inl ⟨untimed, resting⟩
    · exact timed.entries _ old
  owned := by
    rw [sameMap, sameTimers]
    intro _ existing
    rcases timed.owned _ existing with ⟨found, among, rest⟩
    exact ⟨found, added.mem_iff.mpr (List.mem_cons_of_mem _ among), rest⟩
  bounded := by
    rw [sameMap]
    intro _ member
    rcases List.mem_cons.mp (added.mem_iff.mp member) with rfl | old
    · exact bounded
    · exact timed.bounded _ old

theorem Timed.same (sameMap : next.neighbourMap = memory.neighbourMap)
    (sameTimers : next.nudTimers = memory.nudTimers) : Timed node next where
  entries := by
    rw [sameMap, sameTimers]
    exact timed.entries
  owned := by
    rw [sameMap, sameTimers]
    exact timed.owned
  bounded := by
    rw [sameMap]
    exact timed.bounded

end

end Changes

/-! ### Timers that start, go on and end -/

section Timers

theorem Consistent.mono (consistent : Consistent nudTimers other)
    (kept : ∀ timer ∈ nudTimers, timer.contextPointer = other.node → timer ∈ later) :
    Consistent later other := by
  rcases consistent with resting | ⟨probing, timer, existing, scheduled, context, points⟩
  · exact .inl resting
  · exact .inr ⟨probing, timer, kept _ existing context, scheduled, context, points⟩

theorem Timed.elsewhere (placed : Placed memory)
    (ownExisting : own ∈ memory.nudTimers) (existing : timer ∈ memory.nudTimers)
    (differs : timer.contextPointer ≠ own.contextPointer) : timer.pointer ≠ own.pointer := by
  intro same
  have one := placed.nudTimers.distinct.eq existing ownExisting same
  exact differs (congrArg Timer.contextPointer one)

theorem Timed.detect (timed : Timed node memory) (placed : Placed memory)
    (listed : nce ∈ memory.neighbourMap) (untimed : nce.nudTimeoutEvent = none)
    (time : Int) : Timed node (detecting memory nce time) where
  entries := by
    intro _ member
    rcases mem_put.mp member with ⟨kept, -⟩ | ⟨rfl, -⟩
    · refine (timed.entries _ kept).mono ?_
      intro _ existing _
      exact List.mem_append_left _ existing
    · refine .inr ⟨.inl rfl, ⟨memory.messages, nce.node, some time⟩, ?_, rfl, rfl, rfl⟩
      exact List.mem_append_right _ List.mem_cons_self
  owned := by
    intro _ member
    rcases List.mem_append.mp member with existing | new
    · rcases timed.owned _ existing with ⟨found, among, same, points⟩
      refine ⟨found, mem_put.mpr (.inl ⟨among, ?_⟩), same, points⟩
      intro here
      have one := placed.entries.distinct.eq among listed here
      rw [one, untimed] at points
      cases points
    · cases List.mem_singleton.mp new
      exact ⟨_, mem_put.mpr (.inr ⟨rfl, nce, listed, rfl⟩), rfl, rfl⟩
  bounded := by
    intro _ member
    rcases mem_put.mp member with ⟨kept, -⟩ | ⟨rfl, -⟩
    · exact timed.bounded _ kept
    · exact timed.bounded nce listed

theorem toInt_succ (count : BitVec 16) : (count + 1).toInt ≤ count.toInt + 1 := by
  have lower := BitVec.le_toInt count
  have one : (1 : BitVec 16).toInt = 1 := rfl
  rw [BitVec.toInt_add, one, Int.bmod_def]
  split_ifs
  all_goals omega

theorem bounded_probe (bounded : Bounded node nce)
    (more : maxProbesSent node (startProbes nce) = false) :
    Bounded node { startProbes nce with
      numProbesSent := (startProbes nce).numProbesSent + 1 } := by
  have key := startProbes_nceKey nce
  have count : (startProbes nce).numProbesSent.toInt ≤
      (node.ipv6Data nce.nceKey.interfaceID).maxUnicastSolicit.toNat := by
    unfold startProbes
    split_ifs
    · exact Int.natCast_nonneg _
    · exact bounded
  have step := toInt_succ (startProbes nce).numProbesSent
  have upper := @BitVec.toInt_lt 16 (startProbes nce).numProbesSent
  rw [maxProbesSent, key] at more
  dsimp only [Bounded]
  rw [key]
  have differs := of_decide_eq_false more
  have signed := BitVec.toInt_eq_toNat_cond (node.ipv6Data nce.nceKey.interfaceID).maxUnicastSolicit
  rw [signed] at differs
  split_ifs at differs
  all_goals omega

theorem Timed.probing (timed : Timed node memory) (listed : nce ∈ memory.neighbourMap)
    (points : nce.nudTimeoutEvent = some pointer) : Probing nce := by
  rcases timed.entries _ listed with ⟨untimed, -⟩ | ⟨probing, -⟩
  · rw [untimed] at points
    cases points
  · exact probing

theorem startProbes_probing (probing : Probing nce) : Probing (startProbes nce) := by
  unfold startProbes
  split_ifs with delay
  · exact .inr rfl
  · exact probing

section

variable (timed : Timed node memory) (placed : Placed memory) (listed : nce ∈ memory.neighbourMap)
    (existing : timer ∈ memory.nudTimers) (context : nce.node = timer.contextPointer)
include timed placed listed existing context

theorem Timed.probe (more : maxProbesSent node (startProbes nce) = false) (time : Int) :
    Timed node { storing memory { startProbes nce with
        numProbesSent := (startProbes nce).numProbesSent + 1 } with
      nudTimers := scheduleAt time timer memory.nudTimers } where
  entries := by
    have points := timed.owner placed listed existing context.symm
    have probing := startProbes_probing (timed.probing listed points)
    intro _ member
    rcases mem_put.mp member with ⟨kept, differs⟩ | ⟨rfl, -⟩
    · refine (timed.entries _ kept).mono ?_
      intro _ known own
      refine mem_put.mpr (.inl ⟨known, ?_⟩)
      apply Timed.elsewhere placed existing known
      rwa [own, ← context, ← startProbes_node nce]
    · refine .inr ⟨probing, { timer with arrivalTime := some _ },
        mem_put.mpr (.inr ⟨rfl, timer, existing, rfl⟩), rfl, ?_, ?_⟩
      · rw [startProbes_node]
        exact context.symm
      · rwa [startProbes_nudTimeoutEvent]
  owned := by
    have known : ∀ old ∈ memory.nudTimers, Owned
        (storing memory { startProbes nce with
          numProbesSent := (startProbes nce).numProbesSent + 1
          }).neighbourMap old := by
      intro _ was
      rcases timed.owned _ was with ⟨found, among, same, own⟩
      by_cases here : found.node = nce.node
      · have one := placed.entries.distinct.eq among listed here
        subst one
        refine ⟨_, mem_put.mpr (.inr ⟨rfl, found, among, ?_⟩), ?_, ?_⟩
        · exact (startProbes_node found).symm
        · exact (startProbes_node found).trans same
        · exact (startProbes_nudTimeoutEvent found).trans own
      · refine ⟨found, mem_put.mpr (.inl ⟨among, ?_⟩), same, own⟩
        rwa [startProbes_node]
    intro later member
    rcases mem_put.mp member with ⟨kept, -⟩ | ⟨rfl, -⟩
    · exact known later kept
    · exact known timer existing
  bounded := by
    intro entry member
    rcases mem_put.mp member with ⟨kept, -⟩ | ⟨rfl, -⟩
    · exact timed.bounded entry kept
    · exact bounded_probe (timed.bounded nce listed) more

theorem Timed.giveUp :
    Timed node (without memory nce (dropTimer timer.pointer memory.nudTimers)) where
  entries := by
    intro _ member
    rcases mem_discard.mp member with ⟨kept, differs⟩
    refine (timed.entries _ kept).mono ?_
    intro _ known own
    refine mem_discard.mpr ⟨known, ?_⟩
    apply Timed.elsewhere placed existing known
    rwa [own, ← context]
  owned := by
    have points := timed.owner placed listed existing context.symm
    intro _ member
    rcases mem_discard.mp member with ⟨known, differs⟩
    rcases timed.owned _ known with ⟨found, among, same, own⟩
    refine ⟨found, mem_discard.mpr ⟨among, ?_⟩, same, own⟩
    intro here
    have one := placed.entries.distinct.eq among listed here
    rw [one, points] at own
    exact differs (Option.some.inj own).symm
  bounded entry member := timed.bounded entry (mem_discard.mp member).1

end

end Timers

/-! ## Steps -/

section Steps

variable {nce : Neighbour}

theorem delete_untimed (untimed : nce.nudTimeoutEvent = none)
    (deleted : deleteMessage kind nce.nudTimeoutEvent timers = .ok rest) : rest = timers := by
  rw [untimed] at deleted
  cases deleted
  rfl

theorem Blank.resting (blank : Blank memory nbor) : ¬Probing nbor := by
  rcases blank.state with incomplete | stale
  · exact not_probing .INCOMPLETE incomplete (by decide)
  · exact not_probing .STALE stale (by decide)

theorem Blank.bounded (blank : Blank memory nbor) : Bounded node nbor := by
  rw [Bounded, blank.numProbesSent]
  exact Int.natCast_nonneg _

theorem Timed.effect (timed : Timed node nd.memory) (placed : Placed nd.memory)
    (undisturbed : Undisturbed node nd event)
    (effect : Effect node nd event next) : Timed node next := by
  cases effect with
  | quiet => exact timed
  | detected nce _ listed known =>
    have resting : ¬Probing nce := by
      rcases known with stale | reachable
      · exact not_probing .STALE stale (by decide)
      · exact not_probing .REACHABLE reachable (by decide)
    have untimed := (timed.entries _ listed).untimed resting
    exact timed.detect placed listed untimed _
  | unresolved nbor _ _ _ _ blank _ _ entered =>
    have bounded : Bounded node nbor := Blank.bounded blank
    refine timed.added ?_ ?_ ?_ entered rfl rfl
    · exact blank.nudTimeoutEvent
    · exact not_probing .INCOMPLETE rfl (by decide)
    · exact bounded
  | queued nce msg reached _ _ =>
    have stored : Timed node (storing nd.memory { nce with
        pendingPackets := nce.pendingPackets ++ [msg] }) :=
      timed.putAlike placed reached.listed rfl rfl Iff.rfl (timed.bounded nce reached.listed)
    exact stored.same rfl rfl
  | readdressed nce nsSrcAddr msg _ reached complete unaddressed _ =>
    have untimed := undisturbed.readdressed nce reached complete unaddressed
    have stored : Timed node (storing nd.memory (awaiting nd.memory nce nsSrcAddr msg)) :=
      timed.putResting placed reached.listed untimed rfl rfl
        (not_probing .INCOMPLETE rfl (by decide)) (timed.bounded nce reached.listed)
    exact stored.same rfl rfl
  | staled nce _ _ listed cause =>
    have untimed : nce.nudTimeoutEvent = none := by
      rcases cause with reachable | stales
      · exact (timed.entries nce listed).untimed (not_probing .REACHABLE reachable (by decide))
      · exact undisturbed.staled nce stales
    exact timed.putResting placed listed untimed rfl rfl
      (not_probing .STALE rfl (by decide)) (timed.bounded nce listed)
  | touched nce _ _ _ listed =>
    exact timed.putAlike placed listed rfl rfl Iff.rfl (timed.bounded nce listed)
  | reconfirmed nce _ _ confirms _ untimed =>
    exact timed.putResting placed confirms.listed untimed rfl rfl
      (not_probing .REACHABLE rfl (by decide)) (timed.bounded nce confirms.listed)
  | hinted nce _ confirms points =>
    have untimed := undisturbed.confirmed nce confirms
    rw [untimed] at points
    cases points
  | confirmed nce _ _ _ _ confirms _ points =>
    have untimed := undisturbed.confirmed nce confirms
    rw [untimed] at points
    cases points
  | resolved nce timer macAddress isRouter reachabilityState
      reachabilityExpires listed incomplete state addressed existing running =>
      have untimed := (timed.entries nce listed).untimed
        (not_probing .INCOMPLETE incomplete (by decide))
      have stored : Timed node (storing nd.memory { nce with
          macAddress
          isRouter
          reachabilityState
          reachabilityExpires
          pendingPackets := [] }) := by
        refine timed.putResting placed listed untimed rfl rfl ?_ (timed.bounded nce listed)
        rcases state with reachable | stale
        · exact not_probing .REACHABLE reachable (by decide)
        · exact not_probing .STALE stale (by decide)
      exact stored.same rfl rfl
  | entered _ _ blank _ added =>
    exact timed.added blank.nudTimeoutEvent (Blank.resting blank)
      (Blank.bounded blank) added rfl rfl
  | timedOut nce _ dismisses deleted =>
    have untimed := undisturbed.dismissed nce dismisses
    rw [delete_untimed untimed deleted]
    exact timed.discard placed dismisses.listed untimed
  | probed _ _ time _ existing _ listed context more =>
    exact timed.probe placed listed existing context more time
  | givenUp timer _ nudTimers _ existing _ listed context _ deleted =>
    have points := timed.owner placed listed existing context.symm
    have dropped : nudTimers = dropTimer timer.pointer nd.memory.nudTimers := by
      rw [points] at deleted
      rcases deleteMessage_eq_ok.mp deleted with ⟨none, -⟩ | ⟨_, -, known, -, -, rfl⟩
      · cases none
      · cases known
        exact discard_put rfl
    rw [dropped]
    exact timed.giveUp placed listed existing context
  | solicitedAgain _ nce _ _ _ _ listed _ =>
    have stored : Timed node (storing nd.memory { nce with
        numOfARNSSent := nce.numOfARNSSent + 1 }) :=
      timed.putAlike placed listed rfl rfl Iff.rfl (timed.bounded nce listed)
    exact stored.same rfl rfl
  | failed timer nce _ sent existing _ listed context most deleted =>
    have untimed := undisturbed.failed timer existing sent nce listed context most
    rw [delete_untimed untimed deleted]
    exact (timed.discard placed listed untimed).same rfl rfl

end Steps

/-! ## Failures -/

section Failures

variable {node : Node}
variable {nce : Neighbour}

theorem initiate_avoids (stale : nce.reachabilityState = .STALE) :
    Avoids Mishandled (initiateNeighbourUnreachabilityDetection node now memory nce) := by
  rw [initiateNeighbourUnreachabilityDetection, if_neg (not_not.mpr stale)]
  exact .of_eq_ok rfl

theorem resolveFor_avoids (node : Node) (nd : IPv6NeighbourDiscovery)
    (nextHop : IPv6Address) (interfaceId : Int) :
    Avoids Mishandled (resolveFor node nd nextHop interfaceId) := by
  apply Avoids.map
  unfold resolveNeighbour
  split
  · exact .of_eq_ok rfl
  · split_ifs with incomplete stale expired
    · exact .of_eq_ok rfl
    · exact (initiate_avoids stale).map
    · exact (initiate_avoids rfl).map
    · exact .of_eq_ok rfl

theorem doLookup_avoids (nd : IPv6NeighbourDiscovery)
    (destAddr : IPv6Address) : Avoids Mishandled (doLookup nd destAddr) := by
  unfold doLookup
  split
  · exact .error nofun
  · exact .of_eq_ok rfl

theorem routePacket_avoids (node : Node) (nd : IPv6NeighbourDiscovery) (destAddress : IPv6Address) :
    Avoids Mishandled (routePacket node nd destAddress) := by
  dsimp only [routePacket]
  split_ifs with cached unspecified
  · exact .error nofun
  · exact resolveFor_avoids _ _ _ _
  · split
    · case _ failure looked => exact .error (doLookup_avoids _ _ _ looked)
    · exact .of_eq_ok rfl
    · split_ifs
      · exact .error nofun
      · exact resolveFor_avoids _ _ _ _

theorem add_avoids (memory : Memory) (address : IPv6Address)
    (interfaceID : Int) (macAddress : MACAddress) (isRouter : Bool)
    (reachabilityState : HopLimits.ReachabilityState) (routerExpiryTime : Int) :
    Avoids Mishandled (add memory address interfaceID macAddress isRouter
      reachabilityState routerExpiryTime) := by
  unfold add
  split
  · exact .error nofun
  · exact .of_eq_ok rfl

theorem delete_avoids (kind : TimerKind) (timers : List Timer)
    (untimed : nce.nudTimeoutEvent = none) :
    Avoids Mishandled (deleteMessage kind nce.nudTimeoutEvent timers) := by
  rw [untimed]
  exact .of_eq_ok rfl

theorem remove_avoids
    (untimed : ∀ nce, lookup memory address interfaceID = some nce → nce.nudTimeoutEvent = none) :
    Avoids Mishandled (remove memory address interfaceID) := by
  unfold remove
  split
  · exact .error nofun
  · case _ nce found =>
      have deleting := delete_avoids .MK_NUD_TIMEOUT memory.nudTimers (untimed _ found)
      split
      · case _ failure failed => exact .error (deleting _ failed)
      · exact .of_eq_ok rfl

/-! ### Datagrams -/

theorem selectFrom_avoids (placed : Placed memory) (entries : List Neighbour)
    (listed : ∀ nce ∈ entries, nce ∈ memory.neighbourMap)
    (untimed : ∀ nce, scanEnd now entries = some nce →
      routerExpired now nce = true → nce.nudTimeoutEvent = none) :
    Avoids Mishandled (selectFrom now memory entries) := by
  induction entries with
  | nil => exact .of_eq_ok rfl
  | cons nce rest induction =>
    have here := listed _ List.mem_cons_self
    unfold selectFrom
    split_ifs with expired reachable
    · have ends : scanEnd now (nce :: rest) = some nce := by
        rw [scanEnd, List.find?_cons_of_pos]
        rw [expired, Bool.true_or]
      have removing : Avoids Mishandled (remove memory
          nce.nceKey.address nce.nceKey.interfaceID) := by
        apply remove_avoids
        intro _ found
        rw [placed.lookup here] at found
        cases found
        exact untimed _ ends expired
      split
      · case _ failure failed => exact .error (removing _ failed)
      · exact .error nofun
    · exact .of_eq_ok rfl
    · apply induction
      · intro _ member
        exact listed _ (List.mem_cons_of_mem _ member)
      · rw [scanEnd, List.find?_cons_of_neg] at untimed
        · exact untimed
        · simp [expired, reachable]

theorem determineNextHop_avoids (placed : Placed nd.memory)
    (undisturbed : Undisturbed node nd (.datagram srcAddress destAddress)) :
    Avoids Mishandled (determineNextHop nd destAddress) := by
  unfold determineNextHop
  split
  · case _ failure looked => exact .error (doLookup_avoids _ _ _ looked)
  · exact .of_eq_ok rfl
  · case _ looked found =>
      have selecting : Avoids Mishandled (selectDefaultRouter looked.simTime looked.memory) := by
        rw [(doLookup_memory found).1, (doLookup_memory found).2]
        apply selectFrom_avoids placed _ fun _ => id
        intro _ ends
        exact undisturbed.expired _ ⟨⟨looked, found⟩, ends⟩
      split
      · case _ failure failed => exact .error (selecting _ failed)
      · exact .of_eq_ok rfl

theorem resolveAndQueue_avoids (node : Node) (nd : IPv6NeighbourDiscovery)
    (nce : Neighbour) (msg : IPv6Datagram) :
    Avoids Mishandled (resolveAndQueue node nd nce msg) := by
  apply Avoids.map
  dsimp only [initiateAddressResolution]
  split_ifs
  · exact .error nofun
  · exact .of_eq_ok rfl
  · exact .of_eq_ok rfl

theorem sendToNeighbour_avoids
    (probed : nce.macAddress.isUnspecified = false → nce.reachabilityState ≠ .PROBE) :
    Avoids Mishandled (sendToNeighbour node nd nce msg) := by
  unfold sendToNeighbour
  split_ifs with incomplete unaddressed
  · exact .of_eq_ok rfl
  · exact resolveAndQueue_avoids _ _ _ _
  · split
    · case _ stale => exact (initiate_avoids stale).map
    · exact .of_eq_ok rfl
    · exact .of_eq_ok rfl
    · case _ notStale notReachable notDelay =>
        have probe : nce.reachabilityState = .PROBE := by
          cases state : nce.reachabilityState with
          | INCOMPLETE => exact absurd state incomplete
          | REACHABLE => exact absurd state notReachable
          | STALE => exact absurd state notStale
          | DELAY => exact absurd state notDelay
          | PROBE => rfl
        exact absurd probe (probed (by simpa using unaddressed))

theorem processIPv6Datagram_avoids (placed : Placed nd.memory)
    (undisturbed : Undisturbed node nd (.datagram srcAddress destAddress)) :
    Avoids Mishandled (processIPv6Datagram node nd srcAddress destAddress) := by
  have determining := determineNextHop_avoids placed undisturbed
  dsimp only [processIPv6Datagram]
  split
  · case _ failure failed => exact .error (determining _ failed)
  · case _ last nextHopAddr nextHopIfID determined =>
      have same := (determineNextHop_memory determined).1
      split_ifs with noHop
      · exact .of_eq_ok rfl
      · unfold sendToNextHop
        split
        · have adding := add_avoids last.memory nextHopAddr nextHopIfID
            Arp.Resolution.unspecifiedAddress false .INCOMPLETE 0
          split
          · case _ failure failed => exact .error (adding _ failed)
          · exact resolveAndQueue_avoids _ _ _ _
        · case _ nce found =>
            have known : lookup nd.memory nextHopAddr nextHopIfID = some nce := by
              rwa [← same]
            apply sendToNeighbour_avoids
            exact undisturbed.reached _ ⟨last, nextHopAddr, nextHopIfID, determined, noHop, known⟩

/-! ### Timeouts -/

theorem arDelete_avoids (msg : Option Nat) (timers : List Timer) :
    Avoids Mishandled (deleteMessage .MK_AR_TIMEOUT msg timers) := by
  unfold deleteMessage
  split
  · exact .of_eq_ok rfl
  · split
    · exact .error nofun
    · split_ifs
      · exact .error nofun
      · exact .of_eq_ok rfl

theorem arCancel_avoids (msg : Option Nat) (timers : List Timer) :
    Avoids Mishandled (cancelEvent .MK_AR_TIMEOUT msg timers) := by
  unfold cancelEvent
  split
  · exact .error nofun
  · split
    · exact .error nofun
    · exact .of_eq_ok rfl

theorem remove_own_avoids (placed : Placed memory) (listed : nce ∈ memory.neighbourMap)
    (existing : timer ∈ memory.nudTimers) (free : timer.isScheduled = false)
    (points : nce.nudTimeoutEvent = some timer.pointer) :
    Avoids Mishandled (remove memory nce.nceKey.address nce.nceKey.interfaceID) := by
  have found : findTimer timer.pointer memory.nudTimers = some timer :=
    placed.nudTimers.distinct.find_eq existing
  have deleted : deleteMessage .MK_NUD_TIMEOUT (some timer.pointer)
      memory.nudTimers = .ok (dropTimer timer.pointer memory.nudTimers) :=
    deleteMessage_eq_ok.mpr (.inr ⟨timer.pointer, timer, rfl, found, free, rfl⟩)
  rw [remove, placed.lookup listed]
  dsimp only
  rw [points, deleted]
  exact .of_eq_ok rfl

theorem processNUDTimeout_avoids (placed : Placed first.memory)
    (existing : timeoutMsg ∈ first.memory.nudTimers) (free : timeoutMsg.isScheduled = false)
    (owned : Owned first.memory.neighbourMap timeoutMsg) :
    Avoids Mishandled (processNUDTimeout node first timeoutMsg) := by
  rcases owned with ⟨nce, listed, context, points⟩
  have entry : findEntry first.memory timeoutMsg.contextPointer = some nce := by
    rw [← context]
    exact placed.entries.distinct.find_eq listed
  rw [processNUDTimeout, entry]
  dsimp only
  split_ifs with most
  · apply Avoids.map
    have stored := placed.storing listed (startProbes_node _) (startProbes_nceKey _)
    refine remove_own_avoids stored (mem_storing listed (startProbes_node _)) existing free ?_
    rwa [startProbes_nudTimeoutEvent]
  · exact .of_eq_ok rfl

theorem handleNUDTimeout_avoids (timed : Timed node nd.memory)
    (placed : Placed nd.memory) (msg : Nat) : Avoids Mishandled (handleNUDTimeout node nd msg) := by
  unfold handleNUDTimeout
  split
  · exact .error nofun
  · case _ timer found =>
      rcases due_eq_some found with ⟨existing, -, -⟩
      apply processNUDTimeout_avoids (placed.nudDelivered _)
      · exact mem_put.mpr (.inr ⟨rfl, timer, existing, rfl⟩)
      · rfl
      · exact timed.owned timer existing

theorem processARTimeout_avoids (placed : Placed first.memory)
    (untimed : ∀ nce ∈ first.memory.neighbourMap,
      nce.node = arTimeoutMsg.contextPointer →
        ¬nce.numOfARNSSent < (node.ipv6Data nce.nceKey.interfaceID).maxMulticastSolicit →
          nce.nudTimeoutEvent = none) :
    Avoids Mishandled (processARTimeout node first arTimeoutMsg) := by
  unfold processARTimeout
  split
  · exact .error nofun
  · case _ nce entry =>
      have known := mem_of_find entry
      dsimp only
      split_ifs with more
      · exact .of_eq_ok rfl
      · apply Avoids.bind
        · apply remove_avoids
          intro _ among
          have own := placed.lookup known.1
          have one := Option.some.inj (among.symm.trans own)
          rw [one]
          exact untimed _ known.1 known.2 more
        · intro _ _
          apply Avoids.bind
          · exact arDelete_avoids _ _
          · intro _ _
            exact .of_eq_ok rfl

theorem handleARTimeout_avoids (placed : Placed nd.memory)
    (undisturbed : Undisturbed node nd (.arTimeout msg)) :
    Avoids Mishandled (handleARTimeout node nd msg) := by
  unfold handleARTimeout
  split
  · exact .error nofun
  · case _ timer found =>
      rcases due_eq_some found with ⟨existing, rfl, -⟩
      apply processARTimeout_avoids (placed.arDelivered _)
      exact undisturbed.failed timer existing rfl

/-! ### Messages -/

theorem processNSPacket_avoids (node : Node) (nd : IPv6NeighbourDiscovery)
    (ns : IPv6NeighbourSolicitation) (nsCtrlInfo : ControlInfo) :
    Avoids Mishandled (processNSPacket node nd ns nsCtrlInfo) := by
  dsimp only [processNSPacket]
  split_ifs
  · exact .of_eq_ok rfl
  · unfold processNSForTentativeAddress
    split_ifs
    · exact .error nofun
    · exact .error nofun
    · exact .of_eq_ok rfl
  · exact .of_eq_ok rfl
  · dsimp only [processNSWithSpecifiedSrcAddr]
    have adding := add_avoids nd.memory nsCtrlInfo.srcAddr
      nsCtrlInfo.interfaceId ns.sourceLinkLayerAddress false .STALE 0
    split
    · split
      · case _ failure failed => exact .error (adding _ failed)
      · exact .of_eq_ok rfl
    · exact .of_eq_ok rfl

theorem confirmEntry_avoids (untimed : nce.nudTimeoutEvent = none) :
    Avoids Mishandled (confirmEntry node now memory nce) := by
  rw [confirmEntry, untimed]
  exact .of_eq_ok rfl

section

variable (undisturbed : Undisturbed node nd (.advertisement na naCtrlInfo))
include undisturbed

theorem processNAForOther_avoids
    (about : Advertises nd na naCtrlInfo nce) (complete : nce.reachabilityState ≠ .INCOMPLETE) :
    Avoids Mishandled (processNAForOtherNCEStates node nd.simTime nd.memory na nce) := by
  dsimp only [processNAForOtherNCEStates]
  rw [addressed_eq]
  split_ifs with contradicts reachable solicited differs
  · exact .of_eq_ok rfl
  · exact .of_eq_ok rfl
  · have agrees := agrees_of_not_contradicts contradicts
    have untimed := undisturbed.confirmed _ ⟨about, complete, solicited, agrees⟩
    apply Avoids.map
    exact @confirmEntry_avoids _ { nce with macAddress := addressedBy _ _ } _ _ untimed
  · exact .of_eq_ok rfl
  · exact .of_eq_ok rfl

theorem processNAPacket_avoids : Avoids Mishandled (processNAPacket node nd na naCtrlInfo) := by
  dsimp only [processNAPacket]
  split_ifs with refused tentative
  · exact .of_eq_ok rfl
  · exact .error nofun
  · split
    · exact .of_eq_ok rfl
    · case _ nce found =>
        apply Avoids.map
        split_ifs with incomplete
        · unfold processNAForIncompleteNCEState
          split_ifs
          · exact .of_eq_ok rfl
          · exact (arCancel_avoids _ _).map
        · exact processNAForOther_avoids undisturbed
            ⟨by simpa using refused, by simpa using tentative, found⟩ incomplete

end

theorem enterAdvertiser_avoids (node : Node) (nd : IPv6NeighbourDiscovery)
    (ra : IPv6RouterAdvertisement) (raSrcAddr : IPv6Address) (ifID : Int) :
    Avoids Mishandled (enterAdvertiser node nd ra raSrcAddr ifID) := by
  dsimp only [enterAdvertiser]
  split_ifs
  all_goals exact (add_avoids _ _ _ _ _ _ _).map

theorem processRAPacket_avoids (placed : Placed nd.memory)
    (undisturbed : Undisturbed node nd (.routerAdvertisement ra raCtrlInfo)) :
    Avoids Mishandled (processRAPacket node nd ra raCtrlInfo) := by
  unfold processRAPacket
  split_ifs with taken
  · apply Avoids.map
    unfold updateRouter
    split
    · exact enterAdvertiser_avoids _ _ _ _ _
    · case _ nce found =>
        split_ifs with ends
        · have known := mem_of_lookup found
          have untimed := undisturbed.dismissed _ ⟨taken, ends, found⟩
          apply Avoids.map
          apply remove_avoids
          intro _ among
          have stored := @Placed.storing nd.memory
            (advertisedEntry node nd.simTime ra _) placed _ known.1 rfl rfl
          have own := stored.lookup (@mem_storing nd.memory
            (advertisedEntry _ nd.simTime _ _) _ known.1 rfl)
          have same : (advertisedEntry node nd.simTime ra nce).nceKey =
              ⟨raCtrlInfo.srcAddr, raCtrlInfo.interfaceId⟩ := known.2
          rw [same] at own
          have one := Option.some.inj (among.symm.trans own)
          rwa [one]
        · exact .of_eq_ok rfl
  · exact .of_eq_ok rfl

theorem handle_avoids (timed : Timed node nd.memory)
    (placed : Placed nd.memory) (undisturbed : Undisturbed node nd event) :
    Avoids Mishandled (handle node nd event) := by
  cases event with
  | elapse _ =>
    dsimp only [handle, elapse]
    split_ifs
    · exact .of_eq_ok rfl
    · exact .error nofun
  | assignAddresses _ _ => exact .of_eq_ok rfl
  | nudTimeout _ => exact handleNUDTimeout_avoids timed placed _
  | arTimeout _ => exact handleARTimeout_avoids placed undisturbed
  | routePacket _ => exact routePacket_avoids _ _ _
  | resolveNeighbour _ _ => exact resolveFor_avoids _ _ _ _
  | reachabilityConfirmed _ _ =>
    apply Avoids.map
    unfold reachabilityConfirmed
    split
    · exact .error nofun
    · case _ nce found =>
        rw [undisturbed.confirmed _ found]
        exact .of_eq_ok rfl
  | datagram _ _ => exact processIPv6Datagram_avoids placed undisturbed
  | solicitation _ _ => exact processNSPacket_avoids _ _ _ _
  | advertisement _ _ => exact processNAPacket_avoids undisturbed
  | routerAdvertisement _ _ => exact processRAPacket_avoids placed undisturbed

end Failures

/-! ## Runs -/

structure Sound (node : Node) (memory : Memory) : Prop where
  placed : Placed memory
  timed : Timed node memory

theorem start_sound (node : Node) (now : Int) (rt6 : RoutingTables.RoutingTable6) :
    Sound node (start now rt6).memory where
  placed := (AddressResolution.start_sound node now rt6).placed
  timed := {
    entries := fun _ member => nomatch member
    owned := fun _ member => nomatch member
    bounded := fun _ member => nomatch member }

theorem step_sound (sound : Sound node nd.memory) (undisturbed : Undisturbed node nd event)
    (step : Step node nd event next) : Sound node next.memory := by
  have effect := step_effect sound.placed step
  exact {
    placed := sound.placed.effect effect
    timed := sound.timed.effect sound.placed undisturbed effect }

/--
What unreachability detection promises about a state.  A message that was
deleted is in no list, so that a pointer to it fails the first part, and one
that is left behind fails `owned`.
-/
structure Detection (node : Node) (memory : Memory) : Prop where
  pointers :
    ∀ nce ∈ memory.neighbourMap, nce.nudTimeoutEvent = none ∨ Detecting memory.nudTimers nce
  scheduled :
    ∀ nce ∈ memory.neighbourMap,
      Detecting memory.nudTimers nce ↔
        nce.reachabilityState = .DELAY ∨ nce.reachabilityState = .PROBE
  owned : ∀ timer ∈ memory.nudTimers, Owned memory.neighbourMap timer
  bounded :
    ∀ nce ∈ memory.neighbourMap,
      nce.numProbesSent.toInt ≤ (node.ipv6Data nce.nceKey.interfaceID).maxUnicastSolicit.toNat

theorem Timed.detection (timed : Timed node memory) : Detection node memory where
  pointers := by
    intro _ listed
    rcases timed.entries _ listed with ⟨untimed, -⟩ | ⟨-, detecting⟩
    · exact .inl untimed
    · exact .inr detecting
  scheduled := by
    intro _ listed
    rcases timed.entries _ listed with ⟨untimed, resting⟩ | ⟨probing, detecting⟩
    · constructor
      · rintro ⟨_, -, -, -, points⟩
        rw [untimed] at points
        cases points
      · intro probing
        exact absurd probing resting
    · exact ⟨fun _ => probing, fun _ => detecting⟩
  owned := timed.owned
  bounded := timed.bounded

/--
In every run whose steps leave the entries with a timer to their timers, the
promise holds, and no further event of this kind is mishandled.
-/
theorem detection_kept (node : Node) (now : Int)
    (rt6 : RoutingTables.RoutingTable6) (events : List Event) (nd : IPv6NeighbourDiscovery)
    (ran : Run (guardedStep (Undisturbed node) (Step node)) (start now rt6) events nd) :
    Detection node nd.memory ∧
      ∀ event, Undisturbed node nd event → Avoids Mishandled (handle node nd event) := by
  have sound : Sound node nd.memory := by
    refine @Run.guarded _ _ _ _ (fun state => Sound _ state.memory) ?_ _ _ _ ran (start_sound _ _ _)
    intro _ _ _ holds undisturbed step
    exact step_sound holds undisturbed step
  refine ⟨sound.timed.detection, ?_⟩
  intro _ undisturbed
  exact handle_avoids sound.timed sound.placed undisturbed

/-! ## A neighbour that is probed -/

theorem undisturbed_of_empty
    (empty : nd.memory.neighbourMap = []) (event : Event) : Undisturbed node nd event := by
  have absent : ∀ nce, nce ∉ nd.memory.neighbourMap := by
    rw [empty]
    exact fun _ => List.not_mem_nil
  constructor
  · intro _ stales
    exact absurd stales.listed (absent _)
  · intro _ confirms
    exact absurd confirms.listed (absent _)
  · intro _ dismisses
    exact absurd dismisses.listed (absent _)
  · intro _ scans
    exact absurd scans.listed (absent _)
  · intro _ _ _ _ listed
    exact absurd listed (absent _)
  · intro _ reached
    exact absurd reached.listed (absent _)
  · intro _ reached
    exact absurd reached.listed (absent _)

/-- The events that look at a timer before they change an entry. -/
def Careful : Event → Prop
  | .elapse _ => True
  | .resolveNeighbour _ _ => True
  | .nudTimeout _ => True
  | _ => False

theorem undisturbed_of_careful (careful : Careful event)
    (node : Node) (nd : IPv6NeighbourDiscovery) : Undisturbed node nd event := by
  cases event with
  | elapse _ =>
    exact ⟨fun _ => False.elim, fun _ => False.elim, fun _ => False.elim,
      fun _ => False.elim, fun _ _ sent => (nomatch sent), fun _ => False.elim, fun _ => False.elim⟩
  | resolveNeighbour _ _ =>
    exact ⟨fun _ => False.elim, fun _ => False.elim, fun _ => False.elim,
      fun _ => False.elim, fun _ _ sent => (nomatch sent), fun _ => False.elim, fun _ => False.elim⟩
  | nudTimeout _ =>
    exact ⟨fun _ => False.elim, fun _ => False.elim, fun _ => False.elim,
      fun _ => False.elim, fun _ _ sent => (nomatch sent), fun _ => False.elim, fun _ => False.elim⟩
  | _ => exact careful.elim

def firstProbe : List Event :=
  [.elapse 5, .nudTimeout 0]

/-- The neighbour solicits, and then something is sent to it. -/
def startsDetection : List Event :=
  [.assignAddresses 1 AddressResolution.ownAddresses,
    AddressResolution.itsSolicitation, .resolveNeighbour RoutingTables.host 1]

/-- The neighbour does not answer, and is probed for the first time. -/
theorem detection_kept_probe :
    ∃ nd,
      Run (guardedStep (Undisturbed AddressResolution.someHost)
          (Step AddressResolution.someHost)) AddressResolution.onLink
        (startsDetection ++ firstProbe) nd ∧
        (nd.memory.neighbourMap.map fun nce =>
          (nce.reachabilityState, nce.numProbesSent)) = [(.PROBE, 1)] ∧
        Detection AddressResolution.someHost nd.memory := by
  have computed :
      (fun nd : IPv6NeighbourDiscovery => nd.memory.neighbourMap.map
        fun nce => (nce.reachabilityState, nce.numProbesSent)) <$>
        (startsDetection ++ firstProbe).foldlM
          (handle AddressResolution.someHost) AddressResolution.onLink = .ok [(.PROBE, 1)] := by
    decide +kernel
  obtain ⟨nd, served, entries⟩ := map_eq_ok.mp computed
  obtain ⟨_, first, rest⟩ := Run.cons_iff.mp (Run.of_foldlM served)
  cases first
  obtain ⟨_, second, rest⟩ := Run.cons_iff.mp rest
  obtain ⟨_, third, rest⟩ := Run.cons_iff.mp rest
  obtain ⟨_, fourth, rest⟩ := Run.cons_iff.mp rest
  obtain ⟨_, fifth, final⟩ := Run.cons_iff.mp rest
  cases Run.nil_iff.mp final
  have ran : Run (guardedStep (Undisturbed AddressResolution.someHost)
      (Step AddressResolution.someHost)) AddressResolution.onLink
      (startsDetection ++ firstProbe) nd :=
    .next ⟨undisturbed_of_empty rfl _, rfl⟩
      (.next ⟨undisturbed_of_empty rfl _, second⟩
        (.next ⟨undisturbed_of_careful (by trivial) _ _, third⟩
          (.next ⟨undisturbed_of_careful (by trivial) _ _, fourth⟩
            (.next ⟨undisturbed_of_careful (by trivial) _ _, fifth⟩ (.idle _)))))
  exact ⟨nd, ran, entries, (detection_kept AddressResolution.someHost 0
    RoutingTables.onlyRoute _ _ ran).1⟩

/--
The neighbour answers before it is probed.  The timer is deleted, and the
entry goes on pointing to it.
-/
theorem timer_left :
    ¬∀ (node : Node) (now : Int) (rt6 : RoutingTables.RoutingTable6)
        (events : List Event) (nd : IPv6NeighbourDiscovery),
      Run (Step node) (start now rt6) events nd →
        Detection node nd.memory ∧ ∀ event, Avoids Mishandled (handle node nd event) := by
  intro claim
  have computed :
      (fun nd : IPv6NeighbourDiscovery =>
        (nd.memory.neighbourMap.map Neighbour.nudTimeoutEvent, nd.memory.nudTimers)) <$>
        (startsDetection ++ [AddressResolution.solicitedAnswer]).foldlM
          (handle AddressResolution.someHost) AddressResolution.onLink = .ok ([some 0], []) := by
    decide +kernel
  obtain ⟨nd, served, fields⟩ := map_eq_ok.mp computed
  rw [Prod.mk.injEq] at fields
  have detection := (claim AddressResolution.someHost 0
    RoutingTables.onlyRoute _ _ (Run.of_foldlM served)).1
  obtain ⟨nce, only, points⟩ := List.map_eq_singleton_iff.mp fields.1
  have listed : nce ∈ nd.memory.neighbourMap := by
    rw [only]
    exact List.mem_cons_self
  rcases detection.pointers _ listed with none | ⟨_, existing, -⟩
  · rw [points] at none
    cases none
  · rw [fields.2] at existing
    cases existing

end OmnetDsi.Ipv6.UnreachabilityDetection
