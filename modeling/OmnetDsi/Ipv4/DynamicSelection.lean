import OmnetDsi.Ipv4.EdgeSwitches

/-!
# The selection of a route in dynamic routing

The counts of the first four rows are whole numbers in every run of an edge
switch: they start at zero, and all that changes them adds and subtracts whole
numbers or sets them to zero or -1.  So a count above zero is at least one,
and a packet takes exactly one packet off the count of its route.

The selection loop takes a route of least delay among those that have packets
left.  It takes none when no route with packets left has a delay below 9999:
when all counts are used up, or all routes have been withdrawn.  Then
`path_to_be_taken` is not set (`selects_fastest_iff`).
-/

namespace OmnetDsi.Ipv4.DynamicSelection

open Contract.Addresses Library.BinaryFloat Library.Fallible Library.Transition Ipv4.RoutingTables
open Ipv4.Datagrams Ipv4.RouteDiscovery Ipv4.DelayLoadMatrix Ipv4.LoadShares Ipv4.FutureCounts
open Ipv4.EdgeSwitches Autorouting.NetworkConfigurator

/-! ## Whole counts stay whole -/

/-- No count has become a fraction. -/
structure Tended (plane next : Plane) : Prop where
  rows : next.rows = plane.rows
  whole : ∀ row, IsWhole (plane.cell row 6) → IsWhole (next.cell row 6)

theorem Tended.of_same (rows : next.rows = plane.rows)
    (same : ∀ row, next.cell row 6 = plane.cell row 6) : Tended plane next := by
  refine ⟨rows, ?_⟩
  intro _ _
  rwa [same]

section Tending

theorem Tended.refl (plane : Plane) : Tended plane plane :=
  .of_same rfl fun _ => rfl

theorem Tended.trans (one : Tended plane middle) (other : Tended middle next) :
    Tended plane next where
  rows := other.rows.trans one.rows
  whole row holds := other.whole row (one.whole row holds)

theorem tended_of_recounted (recounted : Recounted found plane next) : Tended plane next :=
  ⟨recounted.rows, recounted.whole⟩

theorem isWhole_one : IsWhole (.finite 1) :=
  ⟨1, Int.cast_one.symm⟩

theorem decremented_tended (plane : Plane) (row : Nat) : Tended plane (decremented plane row) := by
  refine ⟨rfl, ?_⟩
  intro r whole
  rw [decremented, Plane.cell_set]
  by_cases same : r = row
  · subst same
    rw [if_pos ⟨rfl, rfl⟩]
    exact isWhole_sub _ whole isWhole_one
  · rwa [if_neg (fun both => same both.1)]

theorem startFlow_tended
    (success : startFlow node first flow datagram simTime plane = .ok (next, sent)) :
    Tended plane next := by
  have restarted := startFlow_restarted success
  apply Tended.of_same restarted.rows
  intro _
  exact restarted.elsewhere _ 6 (by decide)

theorem requestLoads_tended (success : requestLoads node flow datagram plane = .ok (next, sent)) :
    Tended plane next := by
  rcases requestLoads_spec success with rfl | ⟨_, _, rfl⟩
  · exact .refl _
  · exact .of_same rfl fun row => by simp

theorem completeFlow_tended (success : completeFlow node flow datagram plane = .ok (next, sent)) :
    Tended plane next := by
  rcases completeFlow_spec success with ⟨_, rfl⟩ | ⟨_, _, fill, _, rfl⟩
  · exact .refl _
  · have recounted := fill_delay_load_matrix_recounted fill
    exact (tended_of_recounted recounted).trans (.of_same rfl fun row => by simp)

theorem prepare_tended
    (success : prepare node first flow datagram queue simTime plane = .ok prepared) :
    Tended plane prepared.plane := by
  rcases prepare_cases success with ⟨_, _, starting, _, rfl⟩ | ⟨stages, _⟩
  · exact startFlow_tended starting
  · exact ((startFlow_tended stages.starting).trans (requestLoads_tended stages.requesting)).trans
      (completeFlow_tended stages.completing)

theorem routeFlow_tended
    (success : routeFlow node first flow datagram queue simTime plane = .ok routed) :
    Tended plane routed.plane := by
  rcases routeFlow_cases success with ⟨_, preparing, _, ⟨_, same, _⟩ | ⟨_, taken⟩⟩
  · rw [same]
    exact prepare_tended preparing
  · rcases forwardDynamic_spec taken with ⟨_, _, _, _, _, _, _, same⟩
    rw [same]
    exact (prepare_tended preparing).trans (decremented_tended _ _)

theorem fill_routes_tended
    (success : fill_routes_in_delay_load_matrix simTime call plane = .ok next) :
    Tended plane next := by
  have refilled := fill_routes_refilled success
  refine ⟨refilled.rows, ?_⟩
  intro _ whole
  rcases refilled.counts _ with same | fewer
  · rwa [same]
  · rw [fewer]
    exact isWhole_sub _ whole isWhole_one

theorem serve_tended {switch : EdgeSwitch} (success : switch.serve arrival = .ok outcome)
    (inside : switch.delay_load_matrix.Inside k) :
    Tended (switch.delay_load_matrix.plane k) (outcome.switch.delay_load_matrix.plane k) := by
  have put {j : Subscript} {plane : Plane}
      (tended : Tended (switch.delay_load_matrix.plane j) plane) :
      Tended (switch.delay_load_matrix.plane k)
        ((switch.delay_load_matrix.put j plane).plane k) := by
    by_cases same : k = j
    · subst same
      rwa [Matrix.plane_put_self]
    · rw [Matrix.plane_put_of_ne _ _ same]
      exact .refl _
  cases arrival with
  | data _ _ _ =>
    rcases serveData_eq_ok.mp success with ⟨_, _, _, routing, rfl⟩
    exact put (routeFlow_tended routing)
  | probeReply _ _ =>
    rcases serveProbeReply_eq_ok.mp (mapError_eq_ok.mp success) with ⟨_, plane, _, filled, rfl⟩
    exact put (fill_routes_tended filled)
  | loadReply _ =>
    rcases serveLoadReply_eq_ok.mp (mapError_eq_ok.mp success) with ⟨_, plane, _, recorded, rfl⟩
    have answered := recordLoads_answered recorded
    apply put
    apply Tended.of_same answered.rows
    intro _
    exact answered.elsewhere _ 6 (by decide) (by simp)
  | linkFailure _ =>
    rcases serveLinkFailure_spec (mapError_eq_ok.mp success) with
      ⟨_, rfl⟩ | ⟨_, plane, withdrawn, rfl⟩
    · exact .refl _
    · have readjusted := (withdrawRoutes_readjusted (withdrawn k inside)).1
      exact tended_of_recounted readjusted.recounted

end Tending

/-! ## The counts of a run -/

/-- There are four rows, and their counts are whole numbers. -/
def CountsWhole (switch : EdgeSwitch) : Prop :=
  ∀ k, switch.delay_load_matrix.Inside k →
    4 ≤ (switch.delay_load_matrix.plane k).rows ∧ ∀ row < 4,
      IsWhole ((switch.delay_load_matrix.plane k).cell row 6)

theorem countsWhole_started (success : allocateMatrix (num_interface node) unset = .ok matrix) :
    CountsWhole (.started node matrix) := by
  intro k inside
  have initialised := (allocateMatrix_spec success).2.2 k inside
  have four := four_rows initialised
  rw [initialise_eq _ four] at initialised
  have same : matrix.plane k = allocated (num_interface node).toNat (unset k) :=
    (Except.ok.inj initialised).symm
  show 4 ≤ (matrix.plane k).rows ∧ ∀ row < 4, IsWhole ((matrix.plane k).cell row 6)
  rw [same]
  refine ⟨four, ?_⟩
  intro _ early
  rw [allocated_zero _ _ early (by decide) (by decide)]
  exact isWhole_zero

theorem countsWhole_step
    (whole : CountsWhole switch) (step : Step switch arrival next) : CountsWhole next := by
  rcases step with ⟨_, success, rfl⟩
  intro k inside
  have before := (serve_kept success).inside.mp inside
  have tended := serve_tended success before
  refine ⟨?_, ?_⟩
  · rw [tended.rows]
    exact (whole k before).1
  · intro _ early
    exact tended.whole _ ((whole k before).2 _ early)

theorem countsWhole_run
    (initial : CountsWhole switch) (run : Run Step switch arrivals next) : CountsWhole next := by
  have preserved (state : EdgeSwitch) (arrival : Arrival) (after : EdgeSwitch)
      (whole : CountsWhole state) (step : Step state arrival after) : CountsWhole after :=
    countsWhole_step whole step
  exact run.invariant preserved initial

/-! ## What the selection should do -/

/-- A route of least delay is taken, and its count drops by one. -/
structure TakesFastest (plane next : Plane) (num_routes path : Nat) : Prop where
  inside : path < num_routes
  packets : HasPackets plane path
  fastest : ∀ other < num_routes, HasPackets plane other →
    lt (plane.cell other 1) (plane.cell path 1) = false
  /-- The count before is positive, so it does not fall below zero. -/
  one_fewer : ∃ count : ℤ, 0 < count ∧
    plane.cell path 6 = .finite count ∧ next.cell path 6 = .finite (count - 1 : ℤ)
  others : ∀ other, other ≠ path → next.cell other 6 = plane.cell other 6

/-- The packet is served, and the selection is the right one. -/
def SelectsFastest (switch : EdgeSwitch) (arrival : Arrival) (k : Subscript)
    (before : Plane) (num_routes : Nat) : Prop :=
  ∃ outcome path aggregate core re,
    switch.serve arrival = .ok outcome ∧
      outcome.forwarding = some (.dynamic path aggregate core re) ∧
      TakesFastest before (outcome.switch.delay_load_matrix.plane k) num_routes path

section Selection

/-- A whole count above zero that is not too large is decremented exactly. -/
theorem decremented_exactly (whole : IsWhole (plane.cell row 6))
    (packets : HasPackets plane row) (bounded : le (plane.cell row 6) (.finite (2 ^ 24)) = true) :
    ∃ count : ℤ, 0 < count ∧ plane.cell row 6 = .finite count ∧
      (decremented plane row).cell row 6 = .finite (count - 1 : ℤ) := by
  unfold HasPackets at packets
  simp only [decremented, Plane.cell_set, and_self, if_true]
  cases value : plane.cell row 6 with
  | nan => simp [value, lt] at packets
  | infinity negative =>
    rw [value] at packets bounded
    cases negative
    · simp [le, lt] at bounded
    · simp [lt] at packets
  | finite _ =>
    rw [value] at whole packets bounded
    rcases whole with ⟨count, rfl⟩
    have positive : 0 < count := by simpa [lt] using packets
    have small : count ≤ 2 ^ 24 := by
      have cast : (count : ℚ) ≤ 2 ^ 24 := by simpa [le, lt] using bounded
      exact_mod_cast cast
    have bits : |count - 1| ≤ 2 ^ binary32.precision := by
      rw [abs_of_nonneg (by omega)]
      show count - 1 ≤ 2 ^ 24
      omega
    have exact := sub_intCast _ bits
    exact ⟨count, positive, rfl, exact⟩

/-- There is a route with packets left and a delay that the loop compares. -/
def SomeRouteLeft (plane : Plane) (num_routes : Nat) : Prop :=
  ∃ row < num_routes, HasPackets plane row ∧ lt (plane.cell row 1) (.finite 9999) = true

/-- The loop sets `path_to_be_taken` exactly when there is such a route. -/
theorem selectRoute_isSome_iff (success : selectRoute plane num_routes = .ok choice) :
    choice.path_to_be_taken.isSome = true ↔ SomeRouteLeft plane num_routes.toNat := by
  have chosen := (selectRoute_chosen success).2
  cases path : choice.path_to_be_taken with
  | none =>
    simp only [Option.isSome_none, Bool.false_eq_true, false_iff]
    rintro ⟨row, early, packets, compared⟩
    have least := chosen.least _ early packets
    rw [chosen.unset path, compared] at least
    cases least
  | some row =>
    have taken := chosen.taken _ path
    simp only [Option.isSome_some, true_iff]
    refine ⟨row, taken.1, taken.2.1, ?_⟩
    rw [taken.2.2.1]
    exact taken.2.2.2

end Selection

/-! ## The selection for a packet -/

section Packet

variable {switch : EdgeSwitch}

variable (flowed : flowOf (num_interface switch.node) datagram = flow)
    (located : switch.locateFlow flow = .ok k)
    (preparing : prepare switch.node (switch.isFirst flow) flow datagram queue simTime
      (switch.delay_load_matrix.plane k) = .ok prepared)
    (dynamic : prepared.dynamic = true)
include flowed located preparing dynamic

/-- A packet that is prepared for dynamic routing is served by selecting. -/
theorem serve_dynamic :
    switch.serve (.data datagram queue simTime) = .ok outcome ↔
      ∃ plane forwarding,
        forwardDynamic switch.node flow.num_routes prepared.plane = .ok (plane, forwarding) ∧
          { switch := (switch.withPlane k plane).forwarded flow
            forwarding := some forwarding
            control := prepared.control } = outcome := by
  show switch.serveData datagram queue simTime = .ok outcome ↔ _
  rw [serveData_eq_ok, flowed]
  constructor
  · rintro ⟨_, _, locating, routing, rfl⟩
    rw [located] at locating
    cases locating
    rcases routeFlow_cases routing with ⟨_, again, control, way⟩
    rw [preparing] at again
    cases again
    rcases way with ⟨hashed, _⟩ | ⟨_, taken⟩
    · rw [dynamic] at hashed
      cases hashed
    · exact ⟨_, _, taken, by rw [control]⟩
  · rintro ⟨plane, forwarding, taken, rfl⟩
    refine ⟨k, ⟨plane, forwarding, prepared.control⟩, located, ?_, rfl⟩
    rw [routeFlow, bind_eq_ok]
    refine ⟨prepared, preparing, ?_⟩
    rw [if_pos dynamic, taken]
    rfl

theorem selects_iff_left (room : flow.num_routes.toNat ≤ prepared.plane.rows)
    (whole : ∀ row < flow.num_routes.toNat, IsWhole (prepared.plane.cell row 6))
    (bounded : ∀ row < flow.num_routes.toNat,
      HasPackets prepared.plane row → le (prepared.plane.cell row 6) (.finite (2 ^ 24)) = true) :
    SelectsFastest switch (.data datagram queue simTime) k prepared.plane flow.num_routes.toNat ↔
      SomeRouteLeft prepared.plane flow.num_routes.toNat := by
  have serving {outcome : Outcome} :
      switch.serve (.data datagram queue simTime) = .ok outcome ↔ _ :=
    serve_dynamic flowed located preparing dynamic
  constructor
  · rintro ⟨_, path, _, _, _, success, _, _⟩
    rcases serving.mp success with ⟨_, _, taken, _⟩
    rcases forwardDynamic_eq_ok.mp taken with ⟨choice, _, selected, chosen, _⟩
    apply (selectRoute_isSome_iff selected).mp
    rw [chosen]
    rfl
  · intro left
    rcases selectRoute_total room with ⟨choice, selected⟩
    have set := (selectRoute_isSome_iff selected).mpr left
    rcases Option.isSome_iff_exists.mp set with ⟨path, chosen⟩
    have spec := (selectRoute_chosen selected).2
    have taken := spec.taken _ chosen
    have forwarded :
        forwardDynamic switch.node flow.num_routes prepared.plane =
          .ok (decremented prepared.plane path, _) :=
      forwardDynamic_eq_ok.mpr ⟨choice, path, selected, chosen, taken.1.trans_le room, rfl, rfl⟩
    refine ⟨_, path, _, _, _, serving.mpr ⟨_, _, forwarded, rfl⟩, rfl, ?_⟩
    show TakesFastest prepared.plane
      ((switch.delay_load_matrix.put k (decremented prepared.plane path)).plane k) _ path
    rw [Matrix.plane_put_self]
    constructor
    · exact taken.1
    · exact taken.2.1
    · intro _ early packets
      rw [taken.2.2.1]
      exact spec.least _ early packets
    · exact decremented_exactly (whole _ taken.1) taken.2.1 (bounded _ taken.1 taken.2.1)
    · intro _ different
      simp [decremented, different]

end Packet

/-! ## The selection in a run -/

/--
In any run of an edge switch, a packet of a flow in dynamic routing with at
most four routes takes a route of least delay among those with packets left,
exactly when there is one that the loop can see.
-/
theorem selects_fastest_iff {node : IPNode}
    {unset : Subscript → Nat → Nat → Datum} {matrix : Matrix}
    (allocation : allocateMatrix (num_interface node) unset = .ok matrix)
    {arrivals : List Arrival} {switch : EdgeSwitch}
    (run : Run Step (.started node matrix) arrivals switch)
    {datagram : IPDatagram} {queue : List IPDatagram} {simTime : Datum}
    {flow : Flow} (flowed : flowOf (num_interface switch.node) datagram = flow)
    {k : Subscript} (located : switch.locateFlow flow = .ok k) {prepared : Prepared}
    (preparing :
      prepare switch.node (switch.isFirst flow) flow datagram queue simTime
          (switch.delay_load_matrix.plane k) = .ok prepared)
    (dynamic : prepared.dynamic = true)
    (initialised : flow.num_routes ≤ 4)
    (bounded : ∀ row < flow.num_routes.toNat,
      HasPackets prepared.plane row → le (prepared.plane.cell row 6) (.finite (2 ^ 24)) = true) :
    SelectsFastest switch (.data datagram queue simTime) k prepared.plane flow.num_routes.toNat ↔
      SomeRouteLeft prepared.plane flow.num_routes.toNat := by
  have whole := countsWhole_run (countsWhole_started allocation) run
  have here := whole k (locate_eq_ok.mp located).1
  have tended := prepare_tended preparing
  have few : flow.num_routes.toNat ≤ 4 := by omega
  refine selects_iff_left flowed located preparing dynamic ?_ ?_ bounded
  · rw [tended.rows]
    exact few.trans here.1
  · intro _ early
    exact tended.whole _ (here.2 _ (early.trans_le few))

/-! ## Runs of a switch of four ports -/

def sampleFlow : Flow :=
  flowOf (num_interface sampleNode) sampleData

/-- What the next packet of the flow finds after some arrivals. -/
def samplePacket (switch : EdgeSwitch) (test : Prepared → Bool) : Bool :=
  decide (num_interface switch.node = 4) && decide (switch.locateFlow sampleFlow = .ok (1, 0, 0)) &&
    succeedsWith
      (prepare switch.node (switch.isFirst sampleFlow) sampleFlow sampleData
        [] (.finite 3) (switch.delay_load_matrix.plane (1, 0, 0)))
      fun prepared => prepared.dynamic && test prepared

/-- The arrivals after which both links upwards have failed. -/
def sampleFailures : List Arrival :=
  sampleArrivals ++
    [sampleBusy, .linkFailure { srcAddress := sampleEdge, destAddress := sampleAggregate 0 },
      .linkFailure { srcAddress := sampleEdge, destAddress := sampleAggregate 1 }]

theorem samplePacket_spec (passed : samplePacket switch test = true) :
    flowOf (num_interface switch.node) sampleData = sampleFlow ∧
      switch.locateFlow sampleFlow = .ok (1, 0, 0) ∧
      ∃ prepared,
        prepare switch.node (switch.isFirst sampleFlow) sampleFlow sampleData [] (.finite 3)
            (switch.delay_load_matrix.plane (1, 0, 0)) = .ok prepared ∧
          prepared.dynamic = true ∧ test prepared = true := by
  rw [samplePacket, Bool.and_eq_true, Bool.and_eq_true, decide_eq_true_eq, decide_eq_true_eq,
    succeedsWith_iff] at passed
  rcases passed with ⟨⟨ports, located⟩, prepared, preparing, tested⟩
  rw [Bool.and_eq_true] at tested
  refine ⟨?_, located, prepared, preparing, tested⟩
  rw [ports]
  rfl

/-- The routes have packets left, and the counts are small. -/
def sampleLeft (prepared : Prepared) : Bool :=
  le (prepared.plane.cell 0 6) (.finite (2 ^ 24)) &&
    le (prepared.plane.cell 1 6) (.finite (2 ^ 24)) && lt (.finite 0) (prepared.plane.cell 0 6) &&
    lt (prepared.plane.cell 0 1) (.finite 9999)

/-- The second packet after the packets have been shared out. -/
theorem selects_fastest_four_ports :
    ∃ matrix switch prepared,
      allocateMatrix (num_interface sampleNode) sampleUnset = .ok matrix ∧
        Run Step (.started sampleNode matrix) (sampleArrivals ++ [sampleBusy]) switch ∧
        prepare switch.node (switch.isFirst sampleFlow) sampleFlow sampleData [] (.finite 3)
            (switch.delay_load_matrix.plane (1, 0, 0)) = .ok prepared ∧
        prepared.dynamic = true ∧
        SelectsFastest switch (.data sampleData [] (.finite 3)) (1, 0, 0) prepared.plane 2 := by
  have passed : sampleTest (sampleArrivals ++ [sampleBusy]) (samplePacket · sampleLeft) = true := by
    decide +kernel
  rcases sampleTest_run passed with ⟨matrix, switch, allocation, run, tested⟩
  rcases samplePacket_spec tested with ⟨flowed, located, prepared, preparing, dynamic, left⟩
  simp only [sampleLeft, Bool.and_eq_true] at left
  rcases left with ⟨⟨⟨first, second⟩, packets⟩, compared⟩
  refine ⟨matrix, switch, prepared, allocation, run, preparing, dynamic, ?_⟩
  have bounded : ∀ row < sampleFlow.num_routes.toNat,
      HasPackets prepared.plane row → le (prepared.plane.cell row 6) (.finite (2 ^ 24)) = true := by
    intro row early _
    have two : sampleFlow.num_routes.toNat = 2 := by decide
    rw [two] at early
    interval_cases row
    · exact first
    · exact second
  have exactly := selects_fastest_iff allocation run flowed located
    preparing dynamic (by decide) bounded
  exact exactly.mpr ⟨0, by decide, packets, compared⟩

/-- When both links upwards have failed, no route is selected. -/
theorem failed_links_select_nothing :
    ∃ matrix switch prepared,
      allocateMatrix (num_interface sampleNode) sampleUnset = .ok matrix ∧
        Run Step (.started sampleNode matrix) sampleFailures switch ∧
        prepare switch.node (switch.isFirst sampleFlow) sampleFlow sampleData [] (.finite 3)
            (switch.delay_load_matrix.plane (1, 0, 0)) = .ok prepared ∧
        prepared.dynamic = true ∧
        ¬SelectsFastest switch (.data sampleData [] (.finite 3)) (1, 0, 0) prepared.plane 2 := by
  have passed :
      sampleTest sampleFailures
        (fun switch => samplePacket switch fun _ =>
          !(switch.serve (.data sampleData [] (.finite 3))).isOk) = true := by
    decide +kernel
  rcases sampleTest_run passed with ⟨matrix, switch, allocation, run, tested⟩
  rcases samplePacket_spec tested with ⟨_, _, prepared, preparing, dynamic, fault⟩
  refine ⟨matrix, switch, prepared, allocation, run, preparing, dynamic, ?_⟩
  rintro ⟨_, _, _, _, _, success, _⟩
  rw [success] at fault
  cases fault

end OmnetDsi.Ipv4.DynamicSelection
