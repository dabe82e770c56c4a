import OmnetDsi.Ipv4.EdgeSwitches

/-!
# Failed links

An edge switch that is told about the failure of one of its links withdraws
the routes that list the far end: their count becomes -1, and a route is
selected only while its count is positive.

Nothing else remembers a failure.  So a failed link is avoided as long as
every route over it is withdrawn when the failure arrives and no later
arrival gives such a route a count: the sharing out of the packets does when
the link failed before, and a reply of a probe can
(`failed_links_avoided`).  A failure that another switch reports is ignored.
-/

namespace OmnetDsi.Ipv4.FailedLinks

open Contract.Addresses Library.BinaryFloat Library.Fallible Library.Transition Ipv4.Datagrams
open Ipv4.RouteDiscovery Ipv4.DelayLoadMatrix
open OmnetDsi.Ipv4.FoundRoutes (routesFound routesFound_succ)
open Ipv4.LoadShares Ipv4.FutureCounts Ipv4.EdgeSwitches Autorouting.NetworkConfigurator List

/-! ## The links of a path -/

/-- The two ends of a link. -/
abbrev Link :=
  IPAddress × IPAddress

/-- The switches on the path of a row, from the edge switch itself on. -/
def hop (routerId : IPAddress) (plane : Plane) (row : Nat) : Nat → Datum
  | 0 => toFloat routerId.getInt
  | d + 1 => plane.cell row (d + 2)

/-- The switches that a reply tells. -/
def callHop (routerId : IPAddress) (call : FillCall) : Nat → Datum
  | 0 => toFloat routerId.getInt
  | 1 => toFloat call.aggrg_address.getInt
  | 2 => toFloat call.core_address.getInt
  | 3 => toFloat call.aggrg_address_downward.getInt
  | _ => toFloat call.edge_address_downward.getInt

/-- The ends of the link follow each other, in one direction or the other. -/
def Crosses (hops : Nat → Datum) (link : Link) : Prop :=
  ∃ d < 4,
    (hops d = toFloat link.1.getInt ∧ hops (d + 1) = toFloat link.2.getInt) ∨
      (hops d = toFloat link.2.getInt ∧ hops (d + 1) = toFloat link.1.getInt)

/-- A route has been found for the row, and its path uses the link. -/
def UsesLink (routerId : IPAddress) (plane : Plane) (row : Nat) (link : Link) : Prop :=
  row < routesFound plane ∧ Crosses (hop routerId plane row) link

/-- No route that has been found uses a failed link. -/
def NoneUses (routerId : IPAddress) (failed : List Link) (plane : Plane) : Prop :=
  ∀ row, ∀ link ∈ failed, ¬UsesLink routerId plane row link

/-- The flow is still routed by hash. -/
def HashMode (plane : Plane) : Prop :=
  eq (plane.cell 0 0) (toFloat 0) = true

instance (hops : Nat → Datum) (link : Link) : Decidable (Crosses hops link) :=
  inferInstanceAs (Decidable (∃ d < 4, _))

instance (plane : Plane) : Decidable (HashMode plane) :=
  inferInstanceAs (Decidable (_ = true))

/-! ## Failures in a run -/

/-- A switch and the links whose failure has been reported to it. -/
structure Watched where
  switch : EdgeSwitch
  failed : List Link

/-- The link whose failure an arrival reports. -/
def reported : Arrival → List Link
  | .linkFailure datagram => [(datagram.srcAddress, datagram.destAddress)]
  | _ => []

def WatchedStep (state : Watched) (arrival : Arrival) (next : Watched) : Prop :=
  Step state.switch arrival next.switch ∧ next.failed = state.failed ++ reported arrival

namespace Watched

def routerId (state : Watched) : IPAddress :=
  state.switch.node.rt.routerId

def plane (state : Watched) (k : Subscript) : Plane :=
  state.switch.delay_load_matrix.plane k

/-- A packet that is routed dynamically takes no route over a failed link. -/
def Avoids (state : Watched) (arrival : Arrival) : Prop :=
  ∀ datagram queue simTime k outcome path aggregate core re,
    arrival = .data datagram queue simTime →
      state.switch.locateFlow (flowOf (num_interface state.switch.node) datagram) = .ok k →
      state.switch.serve arrival = .ok outcome →
      outcome.forwarding = some (.dynamic path aggregate core re) →
      ∀ link ∈ state.failed, ¬UsesLink state.routerId (state.plane k) path link

end Watched

/-! ## When a failed link is avoided -/

/--
A failure is dealt with in a flow that is routed dynamically: each route over
the link is withdrawn already, or the switch has reported the failure itself
and the row lists the far end.
-/
def FailureMatched (routerId : IPAddress) (plane : Plane) (link : Link) : Prop :=
  ¬HashMode plane → ∀ row, UsesLink routerId plane row link →
    plane.cell row 6 = withdrawnCount ∨ routerId = link.1 ∧ Listed link.2.getInt plane row

/-- Dynamic routing begins only if no route uses a failed link. -/
def StartsClean (routerId : IPAddress) (failed : List Link) (flow : Flow) (plane : Plane) : Prop :=
  HashMode plane → isMissing flow plane = false → NoneUses routerId failed plane

/-- A late reply does not concern a route over a failed link. -/
structure ReplyClean (routerId : IPAddress) (failed : List Link)
    (call : FillCall) (plane : Plane) : Prop where
  /-- A hash-path reply would count a withdrawn route below -1. -/
  counted : isHashReply call = true → ∀ row < routesFound plane,
    isRow plane call row = true → ∀ link ∈ failed, ¬Crosses (hop routerId plane row) link
  hashed : isHashReply call = true → ∀ link ∈ failed, ¬Crosses (callHop routerId call) link
  /-- A full reply may complete a route that is withdrawn. -/
  full : isFullReply call = true →
    ∀ link ∈ failed, Crosses (callHop routerId call) link →
      (∃ row < routesFound plane, isRow plane call row = true) ∧
        ∀ row < routesFound plane, isRow plane call row = true → plane.cell row 6 = withdrawnCount

/-- The condition on an arrival and the state before it. -/
def Careful (state : Watched) : Arrival → Prop
  | .data datagram _ _ =>
    ∀ k, state.switch.locateFlow (flowOf (num_interface state.switch.node) datagram) = .ok k →
      StartsClean state.routerId state.failed
        (flowOf (num_interface state.switch.node) datagram) (state.plane k)
  | .probeReply call _ =>
    ∀ k, state.switch.delay_load_matrix.locate call.dest_indx
          call.src_host_indx call.dest_host_indx = .ok k →
      ¬HashMode (state.plane k) → ReplyClean state.routerId state.failed call (state.plane k)
  | .loadReply _ => True
  | .linkFailure datagram =>
    ∀ k, state.switch.delay_load_matrix.Inside k →
      FailureMatched state.routerId (state.plane k) (datagram.srcAddress, datagram.destAddress)

/-! ## What does not change a path -/

section Paths

variable {routerId : IPAddress} {failed : List Link}
    {plane middle next : Plane} {row : Nat} {link : Link}

/-- The routes found and their switches are the same. -/
structure SamePaths (plane next : Plane) : Prop where
  found : next.cell 1 0 = plane.cell 1 0
  switches : ∀ row, ∀ d < 4, next.cell row (d + 2) = plane.cell row (d + 2)

theorem SamePaths.trans (one : SamePaths plane middle)
    (other : SamePaths middle next) : SamePaths plane next where
  found := other.found.trans one.found
  switches row d inside := (other.switches row d inside).trans (one.switches row d inside)

theorem SamePaths.of_elsewhere
    (elsewhere : ∀ row col, (col = 0 ∧ row = 1) ∨ 2 ≤ col ∧ col ≤ 5 →
      next.cell row col = plane.cell row col) :
    SamePaths plane next := by
  constructor
  · exact elsewhere 1 0 (.inl ⟨rfl, rfl⟩)
  · intro r _ _
    exact elsewhere r _ (.inr ⟨by omega, by omega⟩)

theorem crosses_congr {hops others : Nat → Datum} (same : ∀ d ≤ 4, others d = hops d) :
    Crosses others link ↔ Crosses hops link := by
  apply exists_congr
  intro d
  apply and_congr_right
  intro _
  rw [same d (by omega), same _ (by omega)]

section

variable (same : SamePaths plane next)
include same

theorem SamePaths.hop {d : Nat}
    (inside : d ≤ 4) : hop routerId next row d = hop routerId plane row d := by
  cases d with
  | zero => rfl
  | succ d => exact same.switches _ d (by omega)

theorem SamePaths.routesFound : routesFound next = routesFound plane := by
  unfold FoundRoutes.routesFound
  rw [same.found]

theorem SamePaths.usesLink :
    UsesLink routerId next row link ↔ UsesLink routerId plane row link := by
  unfold UsesLink
  rw [same.routesFound, crosses_congr fun d inside => same.hop inside]

theorem SamePaths.noneUses
    (none : NoneUses routerId failed plane) : NoneUses routerId failed next := by
  intro _ _ member uses
  exact none _ _ member (same.usesLink.mp uses)

end

theorem samePaths_decremented (plane : Plane) (row : Nat) :
    SamePaths plane (decremented plane row) := by
  apply SamePaths.of_elsewhere
  intro _ _ _
  rw [decremented, Plane.cell_set, if_neg (by omega)]

theorem samePaths_recounted {found : Nat}
    (recounted : Recounted found plane next) : SamePaths plane next := by
  apply SamePaths.of_elsewhere
  intro r _ _
  exact recounted.elsewhere r _ (.inl (by omega))

end Paths

/-! ## The stages of a packet -/

section Packet

variable {node : IPNode} {first : Bool} {flow : Flow} {datagram : IPDatagram}
    {queue : List IPDatagram} {simTime : Datum} {plane next : Plane}

theorem toFloat_zero : toFloat 0 = .finite 0 :=
  toFloat_of_bits (k := 0) (by decide)

/-- What the preparation leaves of the mode, the paths and the counts. -/
structure Phases (flow : Flow) (plane : Plane) (prepared : Prepared) : Prop where
  paths : SamePaths plane prepared.plane
  /-- A packet is routed dynamically when nothing was missing before. -/
  dynamic : prepared.dynamic = true → isMissing flow plane = false
  /-- Either nothing has been shared out, or dynamic routing has begun. -/
  filled :
    (prepared.plane.cell 0 0 = plane.cell 0 0 ∧
        ∀ row, prepared.plane.cell row 6 = plane.cell row 6) ∨
      (HashMode plane ∧ isMissing flow plane = false)

theorem samePaths_started {started : Plane}
    (restarted : Restarted plane started) : SamePaths plane started := by
  apply SamePaths.of_elsewhere
  intro _ _ _
  exact restarted.elsewhere _ _ (by omega)

theorem isMissing_congr (found : next.cell 1 0 = plane.cell 1 0)
    (received : next.cell 2 0 = plane.cell 2 0) : isMissing flow next = isMissing flow plane := by
  unfold isMissing
  rw [found, received]

theorem missing_requested (positive : 0 < flow.num_packets) :
    isMissing flow (plane.set 2 0 (toFloat 0)) = true := by
  have waiting : lt (.finite 0) (toFloat flow.num_packets) = true := lt_zero_ofInt _ positive
  rw [← toFloat_zero] at waiting
  simp [isMissing, waiting]

theorem not_missing_of_complete (complete : isComplete flow plane = true) :
    isMissing flow plane = false ∧ HashMode plane := by
  rw [isComplete, Bool.and_eq_true, Bool.and_eq_true] at complete
  rcases complete with ⟨⟨found, received⟩, mode⟩
  refine ⟨?_, mode⟩
  rw [isMissing, not_lt_of_eq found, not_lt_of_eq received]
  rfl

theorem prepare_phases (positive : 0 < flow.num_packets) {prepared : Prepared}
    (success : prepare node first flow datagram queue simTime plane = .ok prepared) :
    Phases flow plane prepared := by
  rcases prepare_cases success with ⟨_, _, starting, _, rfl⟩ | ⟨stages, _⟩
  · have restarted := startFlow_restarted starting
    refine ⟨samePaths_started restarted, ?_, .inl ⟨?_, ?_⟩⟩
    · intro impossible
      cases impossible
    · exact restarted.elsewhere 0 0 (by decide)
    · intro _
      exact restarted.elsewhere _ 6 (by decide)
  · have restarted := startFlow_restarted stages.starting
    have missing : isMissing flow stages.started = isMissing flow plane :=
      isMissing_congr (restarted.elsewhere 1 0 (by decide)) (restarted.elsewhere 2 0 (by decide))
    rcases requestLoads_spec stages.requesting with same | ⟨_, _, asked⟩
    · -- nothing has been asked for
      rcases completeFlow_spec stages.completing with
        ⟨_, unfilled⟩ | ⟨complete, filled, fill, _, began⟩
      · rw [same] at unfilled
        refine ⟨?_, ?_, .inl ⟨?_, ?_⟩⟩
        · rw [unfilled]
          exact samePaths_started restarted
        · intro dynamic
          rwa [stages.dynamic, Bool.not_eq_true', unfilled, missing] at dynamic
        · rw [unfilled]
          exact restarted.elsewhere 0 0 (by decide)
        · intro _
          rw [unfilled]
          exact restarted.elsewhere _ 6 (by decide)
      · rw [same] at complete fill
        have ready := not_missing_of_complete complete
        rw [missing] at ready
        have mode : HashMode plane := by
          have began := ready.2
          unfold HashMode at began
          rwa [restarted.elsewhere 0 0 (by decide)] at began
        refine ⟨?_, fun _ => ready.1, .inr ⟨mode, ready.1⟩⟩
        have recounted := fill_delay_load_matrix_recounted fill
        rw [began]
        apply ((samePaths_started restarted).trans (samePaths_recounted recounted)).trans
        apply SamePaths.of_elsewhere
        intro _ _ _
        rw [Plane.cell_set, if_neg (by omega)]
    · -- the loads have just been asked for
      have waiting : isMissing flow (stages.started.set 2 0 (toFloat 0)) = true :=
        missing_requested positive
      rw [← asked] at waiting
      rcases completeFlow_spec stages.completing with ⟨_, unfilled⟩ | ⟨complete, _⟩
      · have elsewhere (row col : Nat) (other : ¬(row = 2 ∧ col = 0)) (late : col ≠ 1) :
            prepared.plane.cell row col = plane.cell row col := by
          rw [unfilled, asked, Plane.cell_set, if_neg other]
          exact restarted.elsewhere _ _ late
        refine ⟨?_, ?_, .inl ⟨?_, ?_⟩⟩
        · apply SamePaths.of_elsewhere
          intro _ _ _
          exact elsewhere _ _ (by omega) (by omega)
        · intro dynamic
          rw [stages.dynamic, unfilled, waiting] at dynamic
          cases dynamic
        · exact elsewhere 0 0 (by decide) (by decide)
        · intro _
          exact elsewhere _ 6 (by omega) (by decide)
      · have ready := not_missing_of_complete complete
        rw [waiting] at ready
        cases ready.1

end Packet

/-! ## The routes over failed links are withdrawn -/

section Withdrawn

variable {routerId : IPAddress} {failed : List Link} {plane next : Plane}

/--
The number of routes found is an integer that is not rounded, and in dynamic
routing the routes over failed links are withdrawn.
-/
structure AllWithdrawn (routerId : IPAddress) (failed : List Link) (plane : Plane) : Prop where
  number : ∃ found : ℤ, 0 ≤ found ∧ found ≤ 2 ^ 24 ∧ plane.cell 1 0 = .finite found
  withdrawn : ¬HashMode plane → ∀ row, ∀ link ∈ failed,
    UsesLink routerId plane row link → plane.cell row 6 = withdrawnCount

variable {row : Nat}

theorem not_hasPackets_of_withdrawn (withdrawn : plane.cell row 6 = withdrawnCount) :
    ¬HasPackets plane row := by
  rw [HasPackets, withdrawn, withdrawnCount_eq]
  decide

theorem AllWithdrawn.of_noneUses (same : SamePaths plane next)
    (number : ∃ found : ℤ, 0 ≤ found ∧ found ≤ 2 ^ 24 ∧ plane.cell 1 0 = .finite found)
    (none : NoneUses routerId failed plane) : AllWithdrawn routerId failed next := by
  constructor
  · rwa [same.found]
  · intro _ _ _ member uses
    exact absurd uses (same.noneUses none _ _ member)

/-- Withdrawn routes stay withdrawn while the mode and the paths stay. -/
theorem AllWithdrawn.congr (holds : AllWithdrawn routerId failed plane)
    (same : SamePaths plane next) (mode : next.cell 0 0 = plane.cell 0 0)
    (stays : ∀ row, plane.cell row 6 = withdrawnCount → next.cell row 6 = withdrawnCount) :
    AllWithdrawn routerId failed next := by
  constructor
  · rw [same.found]
    exact holds.number
  · intro dynamic _ _ member uses
    apply stays
    apply holds.withdrawn _ _ _ member (same.usesLink.mp uses)
    unfold HashMode at dynamic ⊢
    rwa [mode] at dynamic

/-- A route that has packets is not withdrawn, so its count is another one. -/
theorem AllWithdrawn.decremented (holds : AllWithdrawn routerId failed plane)
    {path : Nat} (packets : HasPackets plane path) :
    AllWithdrawn routerId failed (decremented plane path) := by
  apply holds.congr (samePaths_decremented _ _)
  · simp [DelayLoadMatrix.decremented]
  · intro row withdrawn
    have other : row ≠ path := by
      rintro rfl
      exact not_hasPackets_of_withdrawn withdrawn packets
    simp [DelayLoadMatrix.decremented, other, withdrawn]

/-! ## One packet -/

theorem routeFlow_avoids {node : IPNode} {first : Bool} {flow : Flow}
    {datagram : IPDatagram} {queue : List IPDatagram} {simTime : Datum}
    {routed : Routed} (positive : 0 < flow.num_packets)
    (clean : StartsClean routerId failed flow plane) (holds : AllWithdrawn routerId failed plane)
    (success : routeFlow node first flow datagram queue simTime plane = .ok routed) :
    AllWithdrawn routerId failed routed.plane ∧
      ∀ path aggregate core re,
        routed.forwarding = .dynamic path aggregate core re →
          ∀ link ∈ failed, ¬UsesLink routerId plane path link := by
  rcases routeFlow_cases success with ⟨prepared, preparing, _, way⟩
  have phases := prepare_phases positive preparing
  -- before the selection the invariant holds
  have before : AllWithdrawn routerId failed prepared.plane := by
    rcases phases.filled with ⟨mode, counts⟩ | ⟨mode, ready⟩
    · apply holds.congr phases.paths mode
      intro _ withdrawn
      rw [counts _, withdrawn]
    · exact .of_noneUses phases.paths holds.number (clean mode ready)
  rcases way with ⟨_, same, hashed⟩ | ⟨dynamic, taken⟩
  · rw [same, hashed]
    refine ⟨before, ?_⟩
    intro _ _ _ _ impossible
    cases impossible
  · rcases forwardDynamic_spec taken with ⟨path, _, _, _, forwarded, _, packets, same⟩
    rw [same, forwarded]
    refine ⟨before.decremented packets, ?_⟩
    intro _ _ _ _ chosen _ member uses
    cases chosen
    by_cases mode : HashMode plane
    · exact clean mode (phases.dynamic dynamic) _ _ member uses
    · have withdrawn := holds.withdrawn mode _ _ member uses
      rcases phases.filled with ⟨_, counts⟩ | ⟨began, _⟩
      · apply not_hasPackets_of_withdrawn _ packets
        rw [counts path, withdrawn]
      · exact mode began

/-! ## The reply of a probe -/

variable {call : FillCall}

/-- The route of a row that a reply names begins as the reply tells. -/
theorem hop_of_isRow (named : isRow plane call row = true) :
    plane.cell row 2 = toFloat call.aggrg_address.getInt ∧
      plane.cell row 3 = toFloat call.core_address.getInt := by
  rw [isRow, Bool.and_eq_true] at named
  exact ⟨eq_of_eq named.1, eq_of_eq named.2⟩

/-- Each row is as before, or withdrawn if its path uses a failed link. -/
theorem AllWithdrawn.of_rows (holds : AllWithdrawn routerId failed plane)
    (number : ∃ found : ℤ, 0 ≤ found ∧ found ≤ 2 ^ 24 ∧ next.cell 1 0 = .finite found)
    (mode : next.cell 0 0 = plane.cell 0 0)
    (rows : ¬HashMode plane → ∀ row < routesFound next,
      (row < routesFound plane ∧ ∀ col, 2 ≤ col → next.cell row col = plane.cell row col) ∨
        ∀ link ∈ failed, Crosses (hop routerId next row) link → next.cell row 6 = withdrawnCount) :
    AllWithdrawn routerId failed next := by
  refine ⟨number, ?_⟩
  intro dynamic _ _ member uses
  have dynamicBefore : ¬HashMode plane := by
    unfold HashMode at dynamic ⊢
    rwa [mode] at dynamic
  rcases rows dynamicBefore _ uses.1 with ⟨early, same⟩ | withdrawn
  · rw [same 6 (by decide)]
    apply holds.withdrawn dynamicBefore _ _ member
    refine ⟨early, ?_⟩
    refine (crosses_congr ?_).mp uses.2
    intro d _
    cases d with
    | zero => rfl
    | succ _ => exact same _ (by omega)
  · exact withdrawn _ member uses.2

variable {link : Link}

/-- A row that holds the route of a reply has the path that it tells. -/
theorem crosses_of_route (aggregate : next.cell row 2 = toFloat call.aggrg_address.getInt)
    (core : next.cell row 3 = toFloat call.core_address.getInt)
    (aggregateDown : next.cell row 4 = toFloat call.aggrg_address_downward.getInt)
    (edgeDown : next.cell row 5 = toFloat call.edge_address_downward.getInt)
    (crosses : Crosses (hop routerId next row) link) : Crosses (callHop routerId call) link := by
  refine (crosses_congr ?_).mp crosses
  intro d _
  interval_cases d
  · rfl
  · exact aggregate
  · exact core
  · exact aggregateDown
  · exact edgeDown

theorem fill_routes_withdrawn {simTime : Datum}
    (clean : ¬HashMode plane → ReplyClean routerId failed call plane)
    (holds : AllWithdrawn routerId failed plane)
    (success : fill_routes_in_delay_load_matrix simTime call plane = .ok next) :
    AllWithdrawn routerId failed next := by
  rcases fill_routes_eq_ok.mp success with ⟨_, _, after, done, _, rfl⟩
  rcases holds.number with ⟨found, nonnegative, small, number⟩
  have bits : |found| ≤ 2 ^ 24 := by rwa [abs_of_nonneg nonnegative]
  have before : toInt (plane.cell 1 0) = found := by rw [number, toInt_of_bits bits]
  have routes : routesFound plane = found.toNat := by
    rw [routesFound, before]
  rw [before] at done
  have same : (.finite found : Datum) = toFloat found := (toFloat_of_bits bits).symm
  have kept {final : Plane} (unchanged : final.cell 1 0 = toFloat found) :
      (∃ after : ℤ, 0 ≤ after ∧ after ≤ 2 ^ 24 ∧ final.cell 1 0 = .finite after) ∧
        routesFound final = found.toNat := by
    rw [← same] at unchanged
    refine ⟨⟨found, nonnegative, small, unchanged⟩, ?_⟩
    rw [routesFound, unchanged, toInt_of_bits bits]
  cases fillReply_noted done with
  | ignored =>
    have final := kept
      (show (plane.set 1 0 (toFloat after)).cell 1 0 = toFloat after by
        simp)
    apply holds.of_rows final.1 (by simp)
    intro _ _ early
    left
    rw [routes, ← final.2]
    refine ⟨early, ?_⟩
    intro _ _
    rw [Plane.cell_set, if_neg (by omega)]
  | counted row hashed _ named =>
    have final := kept
      (show ((decremented plane row).set 1 0 (toFloat after)).cell 1 0 = toFloat after by
        simp)
    apply holds.of_rows final.1 (by simp [decremented])
    intro dynamic r _
    by_cases here : r = row
    · subst here
      right
      intro _ member crosses
      have free := (clean dynamic).counted hashed r (by omega) named _ member
      refine absurd ((crosses_congr ?_).mp crosses) free
      intro d _
      cases d with
      | zero => rfl
      | succ d =>
        show ((decremented plane r).set 1 0 _).cell r (d + 2) = _
        rw [Plane.cell_set, if_neg (by omega), decremented, Plane.cell_set, if_neg (by omega)]
        rfl
    · left
      refine ⟨by omega, ?_⟩
      intro _ _
      rw [Plane.cell_set, if_neg (by omega), decremented, Plane.cell_set,
        if_neg (fun both => here both.1)]
  | addedByHash hashed _ _ _ =>
    have final := routesFound_succ nonnegative small
      (show ((decremented (withRoute plane found.toNat call)
          found.toNat).set 1 0 (toFloat (found + 1))).cell 1 0 = toFloat (found + 1) by
        simp)
    apply holds.of_rows final.1 (by simp [decremented, withRoute])
    intro dynamic r _
    by_cases here : r = found.toNat
    · subst here
      right
      intro link member crosses
      refine absurd (crosses_of_route ?_ ?_ ?_ ?_ crosses)
        ((clean dynamic).hashed hashed link member)
      all_goals simp [decremented, withRoute]
    · left
      refine ⟨by omega, ?_⟩
      intro _ _
      rw [Plane.cell_set, if_neg (by omega)]
      simp [decremented, withRoute, here]
  | completed row full _ named =>
    have final := kept
      (show ((withWayDown (measured simTime plane row) row call).set 1 0
          (toFloat after)).cell 1 0 = toFloat after by
        simp)
    apply holds.of_rows final.1 (by simp [measured, withWayDown])
    intro dynamic r _
    by_cases here : r = row
    · subst here
      right
      intro link member crosses
      have begins := hop_of_isRow named
      have told :=
        (clean dynamic).full full link member (crosses_of_route
          (by simp [measured, withWayDown, begins.1]) (by simp [measured, withWayDown, begins.2])
          (by simp [measured, withWayDown]) (by simp [measured, withWayDown]) crosses)
      have withdrawn := told.2 r (by omega) named
      simp [measured, withWayDown, withdrawn]
    · left
      refine ⟨by omega, ?_⟩
      intro _ _
      rw [Plane.cell_set, if_neg (by omega)]
      simp [measured, withWayDown, here]
  | added full _ _ absent =>
    have final := routesFound_succ nonnegative small
      (show ((withRoute (measured simTime plane found.toNat) found.toNat
          call).set 1 0 (toFloat (found + 1))).cell 1 0 = toFloat (found + 1) by
        simp)
    apply holds.of_rows final.1 (by simp [measured, withRoute])
    intro dynamic r _
    by_cases here : r = found.toNat
    · subst here
      right
      intro link member crosses
      have told :=
        (clean dynamic).full full link member (crosses_of_route
          (by simp [measured, withRoute]) (by simp [measured, withRoute])
          (by simp [measured, withRoute]) (by simp [measured, withRoute]) crosses)
      rcases told.1 with ⟨known, _, named⟩
      rw [absent known (by omega)] at named
      cases named
    · left
      refine ⟨by omega, ?_⟩
      intro _ _
      rw [Plane.cell_set, if_neg (by omega)]
      simp [measured, withRoute, here]

/-! ## A failure -/

theorem withdrawRoutes_withdrawn (matched : FailureMatched routerId plane link)
    (holds : AllWithdrawn routerId failed plane)
    (success : withdrawRoutes link.2.getInt plane = .ok next) :
    AllWithdrawn routerId (failed ++ [link]) next := by
  have spec := withdrawRoutes_readjusted success
  have same := samePaths_recounted spec.1.recounted
  have mode : next.cell 0 0 = plane.cell 0 0 := spec.1.recounted.elsewhere 0 0 (.inl (by decide))
  constructor
  · rw [same.found]
    exact holds.number
  · intro dynamic _ _ member uses
    rw [HashMode, mode] at dynamic
    have usesBefore := same.usesLink.mp uses
    rcases mem_append.mp member with earlier | now
    · exact spec.1.stays _ (holds.withdrawn dynamic _ _ earlier usesBefore)
    · rw [mem_singleton] at now
      subst now
      rcases matched dynamic _ usesBefore with withdrawn | ⟨_, listed⟩
      · exact spec.1.stays _ withdrawn
      · exact spec.2 _ usesBefore.1 listed

theorem ignored_withdrawn (foreign : routerId ≠ link.1)
    (matched : FailureMatched routerId plane link) (holds : AllWithdrawn routerId failed plane) :
    AllWithdrawn routerId (failed ++ [link]) plane := by
  refine ⟨holds.number, ?_⟩
  intro dynamic _ _ member uses
  rcases mem_append.mp member with earlier | now
  · exact holds.withdrawn dynamic _ _ earlier uses
  · rw [mem_singleton] at now
    subst now
    rcases matched dynamic _ uses with withdrawn | ⟨own, _⟩
    · exact withdrawn
    · exact absurd own foreign

end Withdrawn

/-! ## The invariant of a run -/

namespace Watched

/-- In all tables the routes over failed links are withdrawn. -/
structure Guarded (state : Watched) : Prop where
  hosts : state.switch.delay_load_matrix.hosts = ((num_interface state.switch.node).tdiv 2).toNat
  tables : ∀ k, state.switch.delay_load_matrix.Inside k →
    AllWithdrawn state.routerId state.failed (state.plane k)

end Watched

section Runs

variable {state next : Watched} {arrival : Arrival}

theorem num_packets_pos {switch : EdgeSwitch}
    (hosts : switch.delay_load_matrix.hosts = ((num_interface switch.node).tdiv 2).toNat)
    {datagram : IPDatagram} {k : Subscript}
    (located : switch.locateFlow (flowOf (num_interface switch.node) datagram) = .ok k) :
    0 < (flowOf (num_interface switch.node) datagram).num_packets := by
  have inside := (locate_eq_ok.mp located).1.2.1
  have half : 0 < (num_interface switch.node).tdiv 2 := by omega
  have ports : 0 < num_interface switch.node := by
    by_contra none
    have below := Int.tdiv_nonneg (b := 2)
      (show 0 ≤ -num_interface switch.node by omega) (by decide)
    rw [Int.neg_tdiv] at below
    omega
  have square : 0 ≤ (num_interface switch.node * num_interface switch.node).tdiv 4 :=
    Int.tdiv_nonneg (mul_self_nonneg _) (by decide)
  show 0 < num_packets_obtained_for_load_estimation _ _ _
  unfold num_packets_obtained_for_load_estimation
  split_ifs
  · exact half
  · omega

theorem guarded_started {node : IPNode} {unset : Subscript → Nat → Nat → Datum} {matrix : Matrix}
    (allocation : allocateMatrix (num_interface node) unset = .ok matrix) :
    Watched.Guarded ⟨.started node matrix, []⟩ := by
  have spec := allocateMatrix_spec allocation
  refine ⟨spec.2.1, ?_⟩
  intro k inside
  have initialised := spec.2.2 k inside
  rw [initialise_eq _ (four_rows initialised)] at initialised
  have same : matrix.plane k = allocated (num_interface node).toNat (unset k) :=
    (Except.ok.inj initialised).symm
  show AllWithdrawn _ [] (matrix.plane k)
  rw [same]
  refine ⟨⟨0, le_rfl, by decide, allocated_found _ _⟩, ?_⟩
  intro _ _ _ impossible
  cases impossible

theorem guarded_step (holds : state.Guarded) (careful : Careful state arrival)
    (step : WatchedStep state arrival next) : next.Guarded := by
  rcases next with ⟨_, _⟩
  rcases step with ⟨⟨outcome, success, same⟩, reports⟩
  subst same reports
  have kept := serve_kept success
  refine ⟨?_, ?_⟩
  · rw [kept.hosts, kept.node]
    exact holds.hosts
  intro k inside
  have before := holds.tables k (kept.inside.mp inside)
  show AllWithdrawn outcome.switch.node.rt.routerId _ (outcome.switch.delay_load_matrix.plane k)
  have put {j : Subscript} {plane : Plane}
      (after : AllWithdrawn state.routerId state.failed plane) :
      AllWithdrawn state.routerId state.failed
        ((state.switch.delay_load_matrix.put j plane).plane k) := by
    by_cases here : k = j
    · subst here
      rwa [Matrix.plane_put_self]
    · rwa [Matrix.plane_put_of_ne _ _ here]
  cases arrival with
  | data _ _ _ =>
    rcases serveData_eq_ok.mp success with ⟨j, _, located, routing, rfl⟩
    simp only [reported, append_nil]
    have here := holds.tables j (locate_eq_ok.mp located).1
    exact put (routeFlow_avoids (num_packets_pos holds.hosts located)
      (careful j located) here routing).1
  | probeReply _ _ =>
    rcases serveProbeReply_eq_ok.mp (mapError_eq_ok.mp success) with
      ⟨j, plane, located, filled, rfl⟩
    simp only [reported, append_nil]
    have here := holds.tables j (locate_eq_ok.mp located).1
    exact put (fill_routes_withdrawn (careful j located) here filled)
  | loadReply _ =>
    rcases serveLoadReply_eq_ok.mp (mapError_eq_ok.mp success) with
      ⟨j, plane, located, recorded, rfl⟩
    simp only [reported, append_nil]
    have answered := recordLoads_answered recorded
    have here := holds.tables j (locate_eq_ok.mp located).1
    apply put
    apply here.congr
    · apply SamePaths.of_elsewhere
      intro row col _
      exact answered.elsewhere row col (by omega) (by omega)
    · exact answered.elsewhere 0 0 (by decide) (by decide)
    · intro row withdrawn
      rwa [answered.elsewhere row 6 (by decide) (by omega)]
  | linkFailure _ =>
    have matched := careful k (kept.inside.mp inside)
    rcases serveLinkFailure_spec (mapError_eq_ok.mp success) with
      ⟨foreign, rfl⟩ | ⟨_, plane, withdrawn, rfl⟩
    · exact ignored_withdrawn foreign matched before
    · exact withdrawRoutes_withdrawn matched before (withdrawn k (kept.inside.mp inside))

/-- In a guarded state a careful arrival takes no route over a failed link. -/
theorem avoids_of_guarded (holds : state.Guarded)
    (careful : Careful state arrival) : state.Avoids arrival := by
  rintro _ _ _ k _ _ _ _ _ rfl located success forwarded
  rcases serveData_eq_ok.mp success with ⟨_, _, again, routing, rfl⟩
  rw [located] at again
  cases again
  have here := holds.tables k (locate_eq_ok.mp located).1
  exact (routeFlow_avoids (num_packets_pos holds.hosts located)
    (careful k located) here routing).2 _ _ _ _ (Option.some.inj forwarded)

/--
In every run of an edge switch whose arrivals are careful, no packet is routed
dynamically along a link whose failure has been reported before.
-/
theorem failed_links_avoided {node : IPNode}
    {unset : Subscript → Nat → Nat → Datum} {matrix : Matrix}
    (allocation : allocateMatrix (num_interface node) unset = .ok matrix) {arrivals : List Arrival}
    (run : Run (guardedStep Careful WatchedStep) ⟨.started node matrix, []⟩ arrivals state)
    (careful : Careful state arrival) : state.Avoids arrival := by
  have preserved (before : Watched) (event : Arrival) (after : Watched)
      (holds : before.Guarded) (admitted : Careful before event)
      (step : WatchedStep before event after) : after.Guarded :=
    guarded_step holds admitted step
  have holds : state.Guarded := run.guarded preserved (guarded_started allocation)
  exact avoids_of_guarded holds careful

end Runs

/-! ## Runs of a switch of four ports -/

/-- The test of all rows of a table for failed links. -/
def testNoneUses (routerId : IPAddress) (failed : List Link) (plane : Plane) : Bool :=
  (range (routesFound plane)).all fun row =>
    failed.all fun link => decide ¬Crosses (hop routerId plane row) link

theorem noneUses_of_test {routerId : IPAddress} {failed : List Link}
    {plane : Plane} (passed : testNoneUses routerId failed plane = true) :
    NoneUses routerId failed plane := by
  rintro _ _ member ⟨early, crosses⟩
  have here := all_eq_true.mp passed _ (mem_range.mpr early)
  have free := all_eq_true.mp here _ member
  rw [decide_eq_true_eq] at free
  exact free crosses

/-- A sufficient test of the condition, for replies in hash mode. -/
def testCareful (state : Watched) : Arrival → Bool
  | .data datagram _ _ =>
    succeedsWith (state.switch.locateFlow (flowOf (num_interface state.switch.node) datagram))
      fun k =>
        isMissing (flowOf (num_interface state.switch.node) datagram) (state.plane k) ||
          decide ¬HashMode (state.plane k) ||
          testNoneUses state.routerId state.failed (state.plane k)
  | .probeReply call _ =>
    succeedsWith
      (state.switch.delay_load_matrix.locate call.dest_indx call.src_host_indx call.dest_host_indx)
      fun k => decide (HashMode (state.plane k))
  | .loadReply _ => true
  | .linkFailure datagram =>
    decide (state.routerId = datagram.srcAddress) &&
      (Matrix.subscripts state.switch.delay_load_matrix.edges
          state.switch.delay_load_matrix.hosts).all fun k =>
        (range (routesFound (state.plane k))).all fun row =>
          decide ¬Crosses (hop state.routerId (state.plane k) row)
              (datagram.srcAddress, datagram.destAddress) ||
            (range 4).any fun d =>
              eq (toFloat datagram.destAddress.getInt) ((state.plane k).cell row (d + 2))

theorem careful_of_test {state : Watched} {arrival : Arrival}
    (passed : testCareful state arrival = true) : Careful state arrival := by
  cases arrival with
  | data _ _ _ =>
    rcases succeedsWith_iff.mp passed with ⟨k, located, tested⟩
    intro _ again mode missing
    rw [located] at again
    cases again
    rw [missing, Bool.false_or, Bool.or_eq_true, decide_eq_true_eq] at tested
    rcases tested with dynamic | none
    · exact absurd mode dynamic
    · exact noneUses_of_test none
  | probeReply _ _ =>
    rcases succeedsWith_iff.mp passed with ⟨k, located, tested⟩
    intro _ again dynamic
    rw [located] at again
    cases again
    exact absurd (of_decide_eq_true tested) dynamic
  | loadReply _ => trivial
  | linkFailure _ =>
    rw [testCareful, Bool.and_eq_true, decide_eq_true_eq] at passed
    rcases passed with ⟨own, tables⟩
    intro k inside _ _ uses
    have table := all_eq_true.mp tables k (mem_subscripts.mpr inside)
    have tested := all_eq_true.mp table _ (mem_range.mpr uses.1)
    rw [Bool.or_eq_true, decide_eq_true_eq, any_eq_true] at tested
    rcases tested with free | ⟨d, inside, listed⟩
    · exact absurd uses.2 free
    · exact .inr ⟨own, d, mem_range.mp inside, listed⟩

/-- The arrivals are served one after the other if they are careful. -/
def watchAll (state : Watched) (arrivals : List Arrival) : Except SendFault Watched :=
  arrivals.foldlM
    (fun state arrival =>
      if testCareful state arrival then
        (fun outcome =>
          ⟨outcome.switch, state.failed ++ reported arrival⟩) <$> state.switch.serve arrival
      else .error (.plane .outOfBounds)) state

theorem run_of_watchAll {state next : Watched} {arrivals : List Arrival}
    (success : watchAll state arrivals = .ok next) :
    Run (guardedStep Careful WatchedStep) state arrivals next := by
  apply (Run.of_foldlM success).mono
  intro _ _ _ step
  split_ifs at step with tested
  rcases map_eq_ok.mp step with ⟨outcome, served, rfl⟩
  exact ⟨careful_of_test tested, ⟨outcome, served, rfl⟩, rfl⟩

/-- The failure of the link to one of the aggregate switches. -/
def sampleUplinkFailure : Arrival :=
  .linkFailure { srcAddress := sampleEdge, destAddress := sampleAggregate 0 }

/-- What the next packet does after a run that has been watched. -/
def samplePath (state : Watched) (path : Nat) : Bool :=
  succeedsWith (state.switch.serve sampleBusy) fun outcome =>
    decide (outcome.forwarding.bind Forwarding.path = some path)

/-- After the failure of one link upwards the other one is taken. -/
theorem failed_uplink_avoided :
    ∃ matrix state outcome,
      allocateMatrix (num_interface sampleNode) sampleUnset = .ok matrix ∧
        Run (guardedStep Careful WatchedStep) ⟨.started sampleNode matrix, []⟩
          (sampleArrivals ++ [sampleBusy, sampleUplinkFailure]) state ∧
        state.failed = [(sampleEdge, sampleAggregate 0)] ∧
        state.switch.serve sampleBusy = .ok outcome ∧
        outcome.forwarding.bind Forwarding.path = some 1 ∧
        state.Avoids sampleBusy := by
  have passed :
      succeedsWith (allocateMatrix (num_interface sampleNode) sampleUnset)
        (fun matrix =>
          succeedsWith
            (watchAll ⟨.started sampleNode matrix, []⟩
              (sampleArrivals ++ [sampleBusy, sampleUplinkFailure]))
            fun state =>
              decide (state.failed = [(sampleEdge, sampleAggregate 0)]) &&
                testCareful state sampleBusy && samplePath state 1) =
        true := by
    decide +kernel
  rcases succeedsWith_iff.mp passed with ⟨matrix, allocation, later⟩
  rcases succeedsWith_iff.mp later with ⟨state, watched, tested⟩
  rw [Bool.and_eq_true, Bool.and_eq_true, decide_eq_true_eq] at tested
  rcases tested with ⟨⟨failed, careful⟩, taken⟩
  rcases succeedsWith_iff.mp taken with ⟨outcome, success, path⟩
  have run := run_of_watchAll watched
  exact ⟨matrix, state, outcome, allocation, run, failed, success, of_decide_eq_true path,
    failed_links_avoided allocation run (careful_of_test careful)⟩

theorem run_watched {switch last : EdgeSwitch} {arrivals : List Arrival}
    (run : Run Step switch arrivals last) (failed : List Link) :
    Run WatchedStep ⟨switch, failed⟩ arrivals ⟨last, failed ++ arrivals.flatMap reported⟩ := by
  induction run generalizing failed with
  | idle _ =>
    rw [flatMap_nil, append_nil]
    exact .idle _
  | next head _ induction =>
    rw [flatMap_cons, ← append_assoc]
    exact .next ⟨head, rfl⟩ (induction _)

/-- The link between an aggregate switch and the destination fails. -/
def sampleFarFailure : Arrival :=
  .linkFailure { srcAddress := .set 10 1 14 0, destAddress := sampleAggregate 0 }

/-- A failure that is reported by another switch is not avoided. -/
theorem far_failure_not_avoided :
    ∃ matrix state,
      allocateMatrix (num_interface sampleNode) sampleUnset = .ok matrix ∧
        Run WatchedStep ⟨.started sampleNode matrix, []⟩
          (sampleArrivals ++ [sampleBusy, sampleFarFailure]) state ∧
        state.failed = [(.set 10 1 14 0, sampleAggregate 0)] ∧
        ¬state.Avoids sampleBusy := by
  have passed :
      sampleTest (sampleArrivals ++ [sampleBusy, sampleFarFailure])
        (fun switch =>
          decide (switch.locateFlow
              (flowOf (num_interface switch.node) sampleData) = .ok (1, 0, 0)) &&
            decide (0 < routesFound (switch.delay_load_matrix.plane (1, 0, 0))) &&
            decide (Crosses
              (hop switch.node.rt.routerId (switch.delay_load_matrix.plane (1, 0, 0)) 0)
              (.set 10 1 14 0, sampleAggregate 0)) &&
            samplePath ⟨switch, []⟩ 0) = true := by
    decide +kernel
  rcases sampleTest_run passed with ⟨matrix, _, allocation, run, tested⟩
  simp only [Bool.and_eq_true, decide_eq_true_eq] at tested
  rcases tested with ⟨⟨⟨located, found⟩, crosses⟩, taken⟩
  rcases succeedsWith_iff.mp taken with ⟨_, success, path⟩
  refine ⟨matrix, _, allocation, run_watched run [], rfl, ?_⟩
  intro avoids
  rw [decide_eq_true_eq, Option.bind_eq_some_iff] at path
  rcases path with ⟨forwarding, forwarded, first⟩
  cases forwarding with
  | hash => cases first
  | dynamic _ _ _ _ =>
    cases first
    exact avoids _ _ _ (1, 0, 0) _ 0 _ _ _ rfl located success forwarded
      (.set 10 1 14 0, sampleAggregate 0) (mem_singleton.mpr rfl) ⟨found, crosses⟩

end OmnetDsi.Ipv4.FailedLinks
