import OmnetDsi.Ipv4.EdgeSwitches

/-!
# Subscripts of the allocated array

An edge switch of `n` ports allocates `[2n][n/2][n/2][n][9]` cells, and
computes its subscripts in other functions: the relative edge index goes up
to `n * n / 2`, and there are `n * n / 4` routes to another pod.

In every run the number of routes found stays within the rows, since a row is
written before it is counted (`Sized`).  So an arrival uses a subscript
outside the array exactly when the relative edge index is too large, when the
first packet of a flow starts the delays of more routes than there are rows,
or when a reply tells a new route and all rows are used.

A row variable that has not been set is another fault, and none of these.
-/

namespace OmnetDsi.Ipv4.AllocatedSubscripts

open Contract.Addresses Library.BinaryFloat Library.Fallible Library.Transition Ipv4.Datagrams
open Ipv4.RouteDiscovery Ipv4.DelayLoadMatrix
open OmnetDsi.Ipv4.FoundRoutes (routesFound routesFound_succ)
open Ipv4.LoadShares Ipv4.FutureCounts Ipv4.EdgeSwitches Autorouting.NetworkConfigurator
open Autorouting.AddressPlan Autorouting.StandardTree EdgeSwitch

/-! ## The subscripts that an arrival uses -/

/-- The row that `fill_routes_in_delay_load_matrix` writes to the log. -/
def loggedRow (simTime : Datum) (call : FillCall) (plane : Plane) : Except Fault ℤ := do
  let found ← plane.read 1 0
  let (_, num_routes_already_found) ← fillReply simTime plane call (toInt found)
  return num_routes_already_found - 1

/-- Serving an arrival, and the log, stay inside the allocated array. -/
structure SubscriptsInside (switch : EdgeSwitch) (arrival : Arrival) : Prop where
  served : switch.serve arrival ≠ .error (.plane .outOfBounds)
  logged : ∀ call simTime k row, arrival = .probeReply call simTime →
    switch.delay_load_matrix.locate call.dest_indx call.src_host_indx call.dest_host_indx = .ok k →
      loggedRow simTime call (switch.delay_load_matrix.plane k) = .ok row →
        0 ≤ row ∧ row < (switch.delay_load_matrix.plane k).rows

/-! ## What arrives at a switch of `2 * h` ports -/

/-- The last octet of a host's address. -/
def IsHostNumber (h number : Nat) : Prop :=
  1 ≤ number ∧ number ≤ h
deriving Decidable

def IsHostIndex (h : Nat) (index : Int) : Prop :=
  0 ≤ index ∧ index < h
deriving Decidable

/-- The hosts are numbered as they are in the fat tree. -/
def Assigned (h : Nat) : Arrival → Prop
  | .data datagram _ _ =>
    IsHostNumber h (datagram.srcAddress.getDByte 3) ∧
      IsHostNumber h (datagram.destAddress.getDByte 3)
  | .probeReply call _ =>
    (IsHostIndex h call.src_host_indx ∧ IsHostIndex h call.dest_host_indx) ∧
      (isHashReply call = true ∨ isFullReply call = true)
  | .loadReply datagram => IsHostIndex h datagram.srcPort ∧ IsHostIndex h datagram.destPort
  | .linkFailure _ => True

/-- One of the interfaces has the address that the router id is. -/
def OwnsRouterId (node : IPNode) : Prop :=
  ∃ ie ∈ node.interfaces, ie.ipAddress = node.rt.routerId

/-! ## When the subscripts fit -/

/-- The relative index of an edge switch is below twice the ports. -/
def EdgeFits (h : Nat) (index : Int) : Prop :=
  0 ≤ index ∧ index < 4 * h
deriving Decidable

/-- A route has its row already, or there is a row left for it. -/
def RowFits (h : Nat) (call : FillCall) (plane : Plane) : Prop :=
  (∃ row < routesFound plane, isRow plane call row = true) ∨ routesFound plane < 2 * h

/-- The condition on an arrival and the state before it. -/
def Fits (h : Nat) (switch : EdgeSwitch) : Arrival → Prop
  | .data datagram _ _ =>
    let flow := flowOf (2 * h) datagram
    EdgeFits h flow.relative_destination_edge_index ∧
      (switch.isFirst flow = true → flow.num_routes ≤ 2 * h)
  | .probeReply call _ =>
    EdgeFits h call.dest_indx ∧
      ∀ k, switch.delay_load_matrix.locate call.dest_indx
          call.src_host_indx call.dest_host_indx = .ok k →
        RowFits h call (switch.delay_load_matrix.plane k)
  | .loadReply datagram =>
    EdgeFits h
      (Datagrams.relative_destination_edge_index (2 * h)
        datagram.srcAddress (oldDestination datagram))
  | .linkFailure _ => True

/-! ## Tables that stay inside -/

/-- The number of routes found is not rounded, and each has a row. -/
structure Counted (size : Nat) (plane : Plane) : Prop where
  rows : plane.rows = size
  number : ∃ found : ℤ, 0 ≤ found ∧ found ≤ 2 ^ 24 ∧ plane.cell 1 0 = .finite found
  room : routesFound plane ≤ size

variable {h : Nat}

section Tables

theorem Counted.congr (counted : Counted size plane)
    (rows : next.rows = plane.rows) (found : next.cell 1 0 = plane.cell 1 0) :
    Counted size next := by
  constructor
  · rw [rows]
    exact counted.rows
  · rw [found]
    exact counted.number
  · rw [routesFound, found]
    exact counted.room

theorem Counted.routes (counted : Counted size plane) :
    ∃ found : ℤ, 0 ≤ found ∧ found ≤ 2 ^ 24 ∧ found ≤ size ∧
      plane.cell 1 0 = .finite found ∧ toInt (plane.cell 1 0) = found := by
  rcases counted.number with ⟨found, nonnegative, small, number⟩
  have bits : |found| ≤ 2 ^ 24 := by rwa [abs_of_nonneg nonnegative]
  have value : toInt (plane.cell 1 0) = found := by rw [number, toInt_of_bits bits]
  have room := counted.room
  unfold routesFound at room
  exact ⟨found, nonnegative, small, by omega, number, value⟩

theorem counted_allocated (size : Nat) (unset : Nat → Nat → Datum) :
    Counted size (allocated size unset) := by
  constructor
  · rfl
  · refine ⟨0, le_rfl, by decide, ?_⟩
    exact allocated_found _ _
  · have none := toInt_of_bits (k := 0) (by decide)
    rw [routesFound, allocated_found, ← Int.cast_zero, none]
    exact Nat.zero_le _

/-- Fewer routes have been found than there are, and some are missing. -/
theorem missing_of_too_many (three_le : 3 ≤ h) {flow : Flow}
    (many : flow.num_routes = h * h) (counted : Counted (2 * h) plane) :
    isMissing flow plane = true := by
  rcases counted.routes with ⟨found, _, small, _, number, _⟩
  have square : (3 : ℤ) * h ≤ h * h := mul_le_mul_of_nonneg_right (by omega) (by omega)
  have fewer : lt (.finite found) (toFloat (h * h)) = true := by
    rcases lt_or_eq_of_le small with _ | most
    · have representable : Representable binary32 ((found + 1 : ℤ) : ℚ) := by
        apply representable_intCast
        show |found + 1| ≤ 2 ^ 24
        rw [abs_of_nonneg (by omega)]
        omega
      apply lt_ofInt _ representable
      · exact_mod_cast Int.lt_succ found
      · exact_mod_cast (by omega : found + 1 ≤ (h : ℤ) * h)
      · omega
    · -- the next integer that is not rounded
      have representable : Representable binary32 ((2 ^ 24 + 2 : ℤ) : ℚ) :=
        ⟨2 ^ 23 + 1, 1, by norm_num, by decide, by decide⟩
      apply lt_ofInt _ representable
      · rw [most]
        norm_num
      · exact_mod_cast (by omega : (2 ^ 24 + 2 : ℤ) ≤ (h : ℤ) * h)
      · omega
  rw [isMissing, number, many, fewer]
  rfl

end Tables

/-! ## What an arrival does to the number of routes -/

section Counting

/-- The rows and the number of routes found are as before. -/
structure SameRoutes (plane next : Plane) : Prop where
  rows : next.rows = plane.rows
  found : next.cell 1 0 = plane.cell 1 0

theorem SameRoutes.trans (one : SameRoutes plane middle)
    (other : SameRoutes middle next) : SameRoutes plane next where
  rows := other.rows.trans one.rows
  found := other.found.trans one.found

theorem Counted.of_same (counted : Counted size plane)
    (same : SameRoutes plane next) : Counted size next :=
  counted.congr same.rows same.found

theorem sameRoutes_set (plane : Plane) (other : ¬(row = 1 ∧ col = 0)) (value : Datum) :
    SameRoutes plane (plane.set row col value) := by
  constructor
  · rfl
  · rw [Plane.cell_set, if_neg]
    rintro ⟨rfl, rfl⟩
    exact other ⟨rfl, rfl⟩

theorem sameRoutes_recounted (recounted : Recounted found plane next) : SameRoutes plane next where
  rows := recounted.rows
  found := recounted.elsewhere 1 0 (.inl (by decide))

theorem sameRoutes_restarted (restarted : Restarted plane next) : SameRoutes plane next where
  rows := restarted.rows
  found := restarted.elsewhere 1 0 (by decide)

section Packet

variable {node : IPNode}

theorem requestLoads_sameRoutes
    (success : requestLoads node flow datagram plane = .ok (next, requests)) :
    SameRoutes plane next := by
  rcases requestLoads_spec success with rfl | ⟨_, _, rfl⟩
  · exact ⟨rfl, rfl⟩
  · exact sameRoutes_set _ (by decide) _

theorem completeFlow_sameRoutes
    (success : completeFlow node flow datagram plane = .ok (next, counts)) :
    SameRoutes plane next := by
  rcases completeFlow_spec success with ⟨_, rfl⟩ | ⟨_, _, fill, _, rfl⟩
  · exact ⟨rfl, rfl⟩
  · have recounted := fill_delay_load_matrix_recounted fill
    exact (sameRoutes_recounted recounted).trans (sameRoutes_set _ (by decide) _)

theorem prepare_sameRoutes
    (success : prepare node first flow datagram queue simTime plane = .ok prepared) :
    SameRoutes plane prepared.plane := by
  rcases prepare_cases success with ⟨started, _, starting, _, rfl⟩ | ⟨stages, _⟩
  · exact sameRoutes_restarted (startFlow_restarted starting)
  · have started := sameRoutes_restarted (startFlow_restarted stages.starting)
    have requested := requestLoads_sameRoutes stages.requesting
    have completed := completeFlow_sameRoutes stages.completing
    exact (started.trans requested).trans completed

theorem routeFlow_sameRoutes
    (success : routeFlow node first flow datagram queue simTime plane = .ok routed) :
    SameRoutes plane routed.plane := by
  rcases routeFlow_cases success with ⟨prepared, preparing, _, way⟩
  have before := prepare_sameRoutes preparing
  rcases way with ⟨_, same, _⟩ | ⟨_, taken⟩
  · rwa [same]
  · rcases forwardDynamic_spec taken with ⟨_, _, _, _, _, _, _, same⟩
    rw [same]
    exact before.trans (sameRoutes_set prepared.plane (by omega) _)

end Packet

theorem fill_routes_counted (counted : Counted size plane)
    (success : fill_routes_in_delay_load_matrix simTime call plane = .ok next) :
    Counted size next := by
  rcases fill_routes_eq_ok.mp success with ⟨_, middle, after, done, _, rfl⟩
  have rows := (fillReply_filled done).rows
  rcases counted.routes with ⟨found, nonnegative, small, _, number, value⟩
  rw [value] at done
  have kept (same : after = found) : Counted size (middle.set 1 0 (toFloat after)) := by
    have bits : |found| ≤ 2 ^ 24 := by rwa [abs_of_nonneg nonnegative]
    refine counted.congr rows ?_
    rw [Plane.cell_set, if_pos ⟨rfl, rfl⟩, same, toFloat_of_bits bits, number]
  have grown (more : after = found + 1) (free : found.toNat < plane.rows) :
      Counted size (middle.set 1 0 (toFloat after)) := by
    have new : (middle.set 1 0 (toFloat after)).cell 1 0 = toFloat (found + 1) := by
      rw [Plane.cell_set, if_pos ⟨rfl, rfl⟩, more]
    have succ := routesFound_succ nonnegative small new
    refine ⟨rows.trans counted.rows, succ.1, ?_⟩
    rw [counted.rows] at free
    exact succ.2.trans free
  cases fillReply_noted done with
  | ignored => exact kept rfl
  | counted _ _ _ _ => exact kept rfl
  | addedByHash _ _ free _ => exact grown rfl free
  | completed _ _ _ _ => exact kept rfl
  | added _ _ free _ => exact grown rfl free

theorem recordLoads_counted (counted : Counted size plane)
    (success : recordLoads switch load num_routes plane = .ok next) : Counted size next := by
  have answered := recordLoads_answered success
  apply counted.congr answered.rows
  exact answered.elsewhere 1 0 (by decide) (by decide)

theorem withdrawRoutes_counted (counted : Counted size plane)
    (success : withdrawRoutes dest plane = .ok next) : Counted size next := by
  have recounted := (withdrawRoutes_readjusted success).1.recounted
  exact counted.of_same (sameRoutes_recounted recounted)

end Counting

/-! ## The invariant of a run -/

/-- The allocated dimensions of a switch of `2 * h` ports. -/
structure Sized (h : Nat) (switch : EdgeSwitch) : Prop where
  ports : num_interface switch.node = 2 * h
  edges : switch.delay_load_matrix.edges = 4 * h
  hosts : switch.delay_load_matrix.hosts = h
  tables : ∀ k, switch.delay_load_matrix.Inside k →
    Counted (2 * h) (switch.delay_load_matrix.plane k)

variable {node : IPNode}

section Runs

theorem sized_started (ports : num_interface node = 2 * h)
    (allocation : allocateMatrix (num_interface node) unset = .ok matrix) :
    Sized h (.started node matrix) := by
  have spec := allocateMatrix_spec allocation
  have half : (2 * (h : ℤ)).tdiv 2 = h := Int.mul_tdiv_cancel_left _ two_ne_zero
  rw [ports, half] at spec
  refine ⟨ports, ?_, ?_, ?_⟩
  · show matrix.edges = 4 * h
    omega
  · show matrix.hosts = h
    omega
  · intro k inside
    have initialised := spec.2.2 k inside
    rw [initialise_eq _ (four_rows initialised)] at initialised
    have counted := counted_allocated (2 * (h : ℤ)).toNat (unset k)
    rw [Except.ok.inj initialised] at counted
    have size : (2 * (h : ℤ)).toNat = 2 * h := by omega
    rwa [size] at counted

theorem sized_step (sized : Sized h switch) (step : Step switch arrival next) : Sized h next := by
  rcases step with ⟨_, success, rfl⟩
  have kept := serve_kept success
  refine ⟨?_, kept.edges.trans sized.edges, kept.hosts.trans sized.hosts, ?_⟩
  · rw [kept.node]
    exact sized.ports
  intro k inside
  have before := sized.tables k (kept.inside.mp inside)
  have put {j : Subscript} {plane : Plane} (after : Counted (2 * h) plane) :
      Counted (2 * h) ((switch.delay_load_matrix.put j plane).plane k) := by
    by_cases here : k = j
    · subst here
      rwa [Matrix.plane_put_self]
    · rwa [Matrix.plane_put_of_ne _ _ here]
  cases arrival with
  | data _ _ _ =>
    rcases serveData_eq_ok.mp success with ⟨j, _, located, routing, rfl⟩
    have here := sized.tables j (locate_eq_ok.mp located).1
    exact put (here.of_same (routeFlow_sameRoutes routing))
  | probeReply _ _ =>
    rcases serveProbeReply_eq_ok.mp (mapError_eq_ok.mp success) with
      ⟨j, plane, located, filled, rfl⟩
    have here := sized.tables j (locate_eq_ok.mp located).1
    exact put (fill_routes_counted here filled)
  | loadReply _ =>
    rcases serveLoadReply_eq_ok.mp (mapError_eq_ok.mp success) with
      ⟨j, plane, located, recorded, rfl⟩
    have here := sized.tables j (locate_eq_ok.mp located).1
    exact put (recordLoads_counted here recorded)
  | linkFailure _ =>
    rcases serveLinkFailure_spec (mapError_eq_ok.mp success) with
      ⟨_, rfl⟩ | ⟨_, plane, withdrawn, rfl⟩
    · exact before
    · exact withdrawRoutes_counted before (withdrawn k (kept.inside.mp inside))

end Runs

/-! ## Operations that stay inside -/

section Staying

variable {Result : Type} {plane : Plane}

/-- No subscript is outside its dimension. -/
def StaysInside (result : Except Fault Result) : Prop :=
  Avoids (fun e => e = .outOfBounds) result

/-- The same for what may also fail to send a packet. -/
def SendsInside (result : Except SendFault Result) : Prop :=
  Avoids (fun e => e = .plane .outOfBounds) result

theorem StaysInside.sends (inside : StaysInside result) : SendsInside (result.mapError .plane) := by
  apply Avoids.mapError
  intro e failure same
  exact inside e failure (SendFault.plane.inj same)

theorem sendsInside_encapsulation (result : Except IPError Result) :
    SendsInside (result.mapError .encapsulation) := by
  apply Avoids.mapError
  intro _ _ impossible
  cases impossible

theorem read_inside (inside : row < plane.rows) (column : col < columns) :
    StaysInside (plane.read row col) :=
  .of_eq_ok (Plane.read_ok inside column)

theorem write_inside (inside : row < plane.rows) (column : col < columns)
    (value : Datum) : StaysInside (plane.write row col value) :=
  .of_eq_ok (Plane.write_ok inside column _)

theorem pure_inside (result : Result) : StaysInside (pure result) :=
  .of_eq_ok rfl

theorem read_bind_inside (inside : row < plane.rows) (column : col < columns)
    (tail : ∀ value, StaysInside (rest value)) : StaysInside (plane.read row col >>= rest) :=
  .bind (read_inside inside column) fun value _ => tail _

theorem forLoop_inside (inside : ∀ c < count, ∀ state, StaysInside (body c state))
    (first : Result) : StaysInside (forLoop body count first) := by
  apply forLoop_avoids (fun _ _ => True)
  · intro c early _ _
    exact inside c early _
  · intro _ _ _ _ _ _
    trivial
  · trivial

theorem startDelays_inside (enough : num_routes.toNat ≤ plane.rows) :
    StaysInside (startDelays simTime num_routes plane) := by
  apply forLoop_avoids (fun _ state => state.rows = plane.rows)
  · intro _ _ _ _
    exact write_inside (by omega) (by decide) _
  · intro _ _ _ _ same step
    rcases Plane.write_eq_ok.mp step with ⟨_, rfl⟩
    exact same
  · rfl

/-! ### Sharing out the packets -/

theorem addInverse_inside (inside : row < plane.rows) (total : Datum) :
    StaysInside (addInverse plane row total) :=
  read_bind_inside inside (by decide) fun _ => pure_inside _

theorem addCount_inside (inside : row < plane.rows) (retotal : ℤ) :
    StaysInside (addCount plane row retotal) :=
  read_bind_inside inside (by decide) fun _ => pure_inside _

theorem allotRow_inside
    (inside : row < allotment.plane.rows) : StaysInside (allotRow total row allotment) := by
  apply read_bind_inside inside (by decide)
  intro _
  apply read_bind_inside inside (by decide)
  intro _
  apply Avoids.bind (write_inside inside (by decide) _)
  intro _ _
  exact pure_inside _

theorem changeCount_inside (position : ∀ row ∈ posi, row < plane.rows) (change : Datum → Datum) :
    StaysInside (changeCount plane posi change) := by
  cases posi with
  | none =>
    intro _ failure outside
    cases failure
    cases outside
  | some _ =>
    have inside := position _ rfl
    apply read_bind_inside inside (by decide)
    intro _
    exact write_inside inside (by decide) _

theorem evenOut_inside (most : ∀ row ∈ allotment.posi_max, row < allotment.plane.rows)
    (least : ∀ row ∈ allotment.posi_min, row < allotment.plane.rows)
    (retotal : ℤ) : StaysInside (evenOut allotment retotal) := by
  unfold evenOut
  split_ifs
  · exact changeCount_inside most _
  · exact changeCount_inside least _
  · exact pure_inside _

theorem fill_delay_load_matrix_inside (number : 1 < plane.rows)
    (room : routesFound plane ≤ plane.rows) : StaysInside (fill_delay_load_matrix plane) := by
  apply Avoids.bind (read_inside number (by decide))
  intro _ read
  rcases Plane.read_eq_ok.mp read with ⟨_, rfl⟩
  apply Avoids.bind
  · apply forLoop_inside
    intro _ early _
    exact addInverse_inside (early.trans_le room) _
  intro _ _
  apply Avoids.bind
  · apply forLoop_inside
    intro _ early _
    exact addCount_inside (early.trans_le room) _
  intro _ _
  apply Avoids.bind
  · apply forLoop_avoids fun _ (state : Allotment) => Allotted _ _ _
    · intro _ early _ holds
      apply allotRow_inside
      rw [holds.recounted.rows]
      exact early.trans_le room
    · intro _ early _ _ holds step
      exact holds.step early step
    · exact allotted_start _ _
  intro allotment allotted
  have loop := allotted_of_loop allotted
  have rows : allotment.plane.rows = plane.rows := loop.recounted.rows
  apply Avoids.bind
  · apply forLoop_inside
    intro _ early _
    apply addCount_inside
    rw [rows]
    exact early.trans_le room
  intro _ _
  apply evenOut_inside
  · intro _ member
    rw [rows]
    exact (loop.positions.most _ member).trans_le room
  · intro row member
    rw [rows]
    exact (loop.positions.least row member).trans_le room

/-! ### Telling the switches -/

theorem listColumns_inside {columns : Nat} (inside : row < plane.rows) (few : columns ≤ 7) :
    StaysInside (listColumns plane row columns r) := by
  apply forLoop_inside
  intro _ _ _
  apply read_bind_inside inside
  · unfold DelayLoadMatrix.columns
    omega
  · intro _
    exact pure_inside _

theorem futurePackets_inside {columns : Nat} (few : columns ≤ 7) {num_routes : Nat}
    (enough : num_routes ≤ plane.rows) :
    StaysInside (futurePackets routerId plane columns datagram num_routes) := by
  induction num_routes with
  | zero => exact .of_eq_ok rfl
  | succ _ induction =>
    apply Avoids.bind (induction (by omega))
    rintro ⟨_, _⟩ _
    apply Avoids.bind
    · apply Avoids.bind (listColumns_inside (by omega) few)
      intro _ _
      apply read_bind_inside (by omega) (by decide)
      intro _
      exact pure_inside _
    · rintro ⟨_, _⟩ _
      exact pure_inside _

theorem send_future_packet_count_inside {num_routes : Nat} (enough : num_routes ≤ plane.rows) :
    SendsInside (send_future_packet_count node plane srcaddress dstaddress num_routes) := by
  apply Avoids.bind (sendsInside_encapsulation _)
  intro _ _
  apply Avoids.bind
  · apply StaysInside.sends
    apply futurePackets_inside _ enough
    unfold upto_column_in_matrix
    split_ifs <;> decide
  · rintro ⟨_, _⟩ _
    exact .of_eq_ok rfl

/-! ### A data packet -/

section Packet

variable {flow : Flow}

theorem forwardDynamic_inside (enough : num_routes.toNat ≤ plane.rows) :
    StaysInside (forwardDynamic node num_routes plane) := by
  rcases selectRoute_total enough with ⟨choice, selected⟩
  apply Avoids.bind (.of_eq_ok selected)
  intro _ same
  rw [selected] at same
  cases same
  have taken := (selectRoute_chosen selected).2.taken
  cases chosen : choice.path_to_be_taken with
  | none =>
    intro _ failure outside
    cases failure
    cases outside
  | some path =>
    have inside : path < plane.rows := (taken _ chosen).1.trans_le enough
    apply read_bind_inside inside (by decide)
    intro _
    apply read_bind_inside inside (by decide)
    intro _
    apply Avoids.bind (.of_eq_ok (decrementCount_eq_ok.mpr ⟨inside, rfl⟩))
    intro _ _
    exact pure_inside _

theorem startFlow_inside (enough : first = true → flow.num_routes.toNat ≤ plane.rows) :
    SendsInside (startFlow node first flow datagram simTime plane) := by
  unfold startFlow
  split_ifs with starting
  · apply Avoids.bind (sendsInside_encapsulation _)
    intro _ _
    apply Avoids.bind (startDelays_inside (enough starting)).sends
    intro _ _
    exact .of_eq_ok rfl
  · exact .of_eq_ok rfl

theorem requestLoads_inside (four : 4 ≤ plane.rows) :
    SendsInside (requestLoads node flow datagram plane) := by
  apply Avoids.bind (read_inside (by omega) (by decide)).sends
  intro _ _
  apply Avoids.bind (read_inside (by omega) (by decide)).sends
  intro _ _
  split_ifs
  · apply Avoids.bind (sendsInside_encapsulation _)
    intro _ _
    apply Avoids.bind (write_inside (by omega) (by decide) _).sends
    intro _ _
    exact .of_eq_ok rfl
  · exact .of_eq_ok rfl

theorem completeFlow_inside (four : 4 ≤ plane.rows) (room : routesFound plane ≤ plane.rows)
    (enough : isComplete flow plane = true → flow.num_routes.toNat ≤ plane.rows) :
    SendsInside (completeFlow node flow datagram plane) := by
  unfold completeFlow
  split_ifs with complete
  · apply Avoids.bind (fill_delay_load_matrix_inside (by omega) room).sends
    intro _ fill
    rw [mapError_eq_ok] at fill
    have rows := (fill_delay_load_matrix_recounted fill).rows
    apply Avoids.bind
    · apply send_future_packet_count_inside
      rw [rows]
      exact enough complete
    · intro _ _
      apply Avoids.bind (write_inside (by omega) (by decide) _).sends
      intro _ _
      exact .of_eq_ok rfl
  · exact .of_eq_ok rfl

theorem enough_of_found (routes : flow.num_routes = h ∨ flow.num_routes = h * h)
    (counted : Counted (2 * h) plane) (ready : isMissing flow plane = false) :
    flow.num_routes.toNat ≤ plane.rows := by
  rw [counted.rows]
  rcases routes with _ | many
  · omega
  · by_cases three_le : 3 ≤ h
    · rw [missing_of_too_many three_le many counted] at ready
      cases ready
    · rw [many, ← Nat.cast_mul, Int.toNat_natCast]
      exact Nat.mul_le_mul_right h (by omega)

theorem not_missing_of_complete (complete : isComplete flow plane = true) :
    isMissing flow plane = false := by
  rw [isComplete, Bool.and_eq_true, Bool.and_eq_true] at complete
  rw [isMissing, not_lt_of_eq complete.1.1, not_lt_of_eq complete.1.2]
  rfl

theorem prepare_inside (two_le : 2 ≤ h) (routes : flow.num_routes = h ∨ flow.num_routes = h * h)
    (counted : Counted (2 * h) plane) (enough : first = true → flow.num_routes.toNat ≤ plane.rows) :
    SendsInside (prepare node first flow datagram queue simTime plane) := by
  apply Avoids.bind (startFlow_inside enough)
  rintro ⟨started, _⟩ starting
  have here : Counted (2 * h) started :=
    counted.of_same (sameRoutes_restarted (startFlow_restarted starting))
  have four : 4 ≤ started.rows := by
    rw [here.rows]
    omega
  apply Avoids.bind (read_inside (by omega) (by decide)).sends
  intro _ _
  split_ifs
  · exact .of_eq_ok rfl
  · apply Avoids.bind (requestLoads_inside four)
    rintro ⟨requested, _⟩ requesting
    have then_ : Counted (2 * h) requested := here.of_same (requestLoads_sameRoutes requesting)
    apply Avoids.bind
    · apply completeFlow_inside
      · rw [then_.rows]
        omega
      · rw [then_.rows]
        exact then_.room
      · intro complete
        exact enough_of_found routes then_ (not_missing_of_complete complete)
    · rintro ⟨_, _⟩ _
      exact .of_eq_ok rfl

theorem not_missing_of_dynamic
    (success : prepare node first flow datagram queue simTime plane = .ok prepared)
    (dynamic : prepared.dynamic = true) : isMissing flow prepared.plane = false := by
  rcases prepare_cases success with ⟨_, _, _, _, rfl⟩ | ⟨stages, _⟩
  · cases dynamic
  · rwa [stages.dynamic, Bool.not_eq_true'] at dynamic

theorem routeFlow_inside (two_le : 2 ≤ h) (routes : flow.num_routes = h ∨ flow.num_routes = h * h)
    (counted : Counted (2 * h) plane) (enough : first = true → flow.num_routes.toNat ≤ plane.rows) :
    SendsInside (routeFlow node first flow datagram queue simTime plane) := by
  apply Avoids.bind (prepare_inside two_le routes counted enough)
  intro _ preparing
  have here := counted.of_same (prepare_sameRoutes preparing)
  split_ifs with dynamic
  · apply Avoids.bind
    · apply (forwardDynamic_inside _).sends
      exact enough_of_found routes here (not_missing_of_dynamic preparing dynamic)
    · rintro ⟨_, _⟩ _
      exact .of_eq_ok rfl
  · exact .of_eq_ok rfl

end Packet

/-! ### Replies and failures -/

section Replies

variable {count : ℤ}

theorem searchRow_total (inside : c + remaining ≤ plane.rows) :
    ∃ place, searchRow plane call remaining c = .ok place := by
  induction remaining generalizing c with
  | zero => exact ⟨none, rfl⟩
  | succ _ induction =>
    rw [searchRow_succ (by omega)]
    split_ifs
    · exact ⟨some c, rfl⟩
    · exact induction (by omega)

/-- There is a row that the reply names, or one that is free. -/
def HasRow (plane : Plane) (call : FillCall) (count : ℤ) : Prop :=
  (∃ row < count.toNat, isRow plane call row = true) ∨ count.toNat < plane.rows

theorem free_of_not_found (has : HasRow plane call count)
    (search : searchRow plane call count.toNat 0 = .ok none) : count.toNat < plane.rows := by
  rcases has with ⟨row, _, named⟩ | free
  · have absent := (searchRow_spec search).2 rfl _ (Nat.zero_le row) (by omega)
    rw [named] at absent
    cases absent
  · exact free

theorem fillReply_total (nonnegative : 0 ≤ count)
    (room : count.toNat ≤ plane.rows) (has : HasRow plane call count) :
    ∃ filled, fillReply simTime plane call count = .ok filled := by
  have searched : ∃ place, searchRow plane call count.toNat 0 = .ok place :=
    searchRow_total (by omega)
  rcases searched with ⟨place, search⟩
  have early : ∀ row ∈ place, row < plane.rows := by
    intro _ member
    have before := ((searchRow_spec search).1 _ member).1
    omega
  unfold fillReply
  split_ifs with hashed full
  · cases place with
    | some _ => exact ⟨(_, _), (fillHashReply_known search).mpr ⟨early _ rfl, rfl, rfl⟩⟩
    | none =>
      have free := free_of_not_found has search
      exact ⟨(_, _), (fillHashReply_new hashed nonnegative search).mpr ⟨free, rfl, rfl⟩⟩
  · cases place with
    | some _ => exact ⟨(_, _), (fillFullReply_known search).mpr ⟨early _ rfl, rfl, rfl⟩⟩
    | none =>
      have free := free_of_not_found has search
      exact ⟨(_, _), (fillFullReply_new nonnegative search).mpr ⟨free, rfl, rfl⟩⟩
  · exact ⟨_, rfl⟩

section

variable (kind : isHashReply call = true ∨ isFullReply call = true) (nonnegative : 0 ≤ count)
    (room : count.toNat ≤ plane.rows)
include kind nonnegative room

theorem fillReply_outside (lacks : ¬HasRow plane call count) :
    fillReply simTime plane call count = .error .outOfBounds := by
  rw [HasRow, not_or] at lacks
  have search : searchRow plane call count.toNat 0 = .ok none := by
    apply searchRow_none (by omega)
    intro row _ _
    rw [← Bool.not_eq_true]
    intro named
    exact lacks.1 ⟨row, by omega, named⟩
  have signed : ¬count < 0 := not_lt.mpr nonnegative
  unfold fillReply
  split_ifs with hashed full
  · unfold fillHashReply Plane.write
    rw [search]
    simp [bind, Except.bind, signed, lacks.2]
  · unfold fillFullReply measureDelay Plane.read
    rw [search]
    simp [bind, Except.bind, signed, lacks.2]
  · exact absurd kind (not_or.mpr ⟨hashed, full⟩)

theorem fillReply_after (success : fillReply simTime plane call count = .ok (next, after)) :
    1 ≤ after ∧ after.toNat ≤ plane.rows := by
  have searched : ∃ place, searchRow plane call count.toNat 0 = .ok place :=
    searchRow_total (by omega)
  rcases searched with ⟨place, search⟩
  have early : ∀ row ∈ place, row < count.toNat := by
    intro _ member
    have before := ((searchRow_spec search).1 _ member).1
    omega
  unfold fillReply at success
  split_ifs at success with hashed full
  · cases place with
    | some _ =>
      have before := early _ rfl
      rcases (fillHashReply_known search).mp success with ⟨_, _, rfl⟩
      omega
    | none =>
      rcases (fillHashReply_new hashed nonnegative search).mp success with ⟨_, _, rfl⟩
      omega
  · cases place with
    | some _ =>
      have before := early _ rfl
      rcases (fillFullReply_known search).mp success with ⟨_, _, rfl⟩
      omega
    | none =>
      rcases (fillFullReply_new nonnegative search).mp success with ⟨_, _, rfl⟩
      omega
  · exact absurd kind (not_or.mpr ⟨hashed, full⟩)

end

theorem fill_routes_inside (number : 1 < plane.rows)
    (nonnegative : 0 ≤ toInt (plane.cell 1 0)) (room : routesFound plane ≤ plane.rows)
    (has : HasRow plane call (toInt (plane.cell 1 0))) :
    StaysInside (fill_routes_in_delay_load_matrix simTime call plane) := by
  apply Avoids.bind (read_inside number (by decide))
  intro _ read
  rcases Plane.read_eq_ok.mp read with ⟨_, rfl⟩
  have filled : ∃ filled, fillReply simTime plane call (toInt (plane.cell 1 0)) = .ok filled :=
    fillReply_total nonnegative room has
  rcases filled with ⟨_, success⟩
  apply Avoids.bind (.of_eq_ok success)
  rintro ⟨_, _⟩ filling
  apply write_inside _ (by decide)
  rwa [(fillReply_filled filling).rows]

end Replies

theorem recordLoad_inside (inside : row < plane.rows) (columns : d + remaining ≤ 7) :
    StaysInside (recordLoad switch load plane row remaining d) := by
  induction remaining generalizing d with
  | zero => exact .of_eq_ok rfl
  | succ _ induction =>
    apply read_bind_inside inside
    · unfold DelayLoadMatrix.columns
      omega
    intro _
    apply read_bind_inside inside (by decide)
    intro _
    split_ifs
    · exact write_inside inside (by decide) _
    · exact induction (by omega)

theorem recordLoads_inside (number : 2 < plane.rows) (enough : num_routes.toNat ≤ plane.rows) :
    StaysInside (recordLoads switch load num_routes plane) := by
  have rows_kept (c : Nat) (state after : Plane) (same : state.rows = plane.rows)
      (step : recordLoad switch load state c 3 2 = .ok after) : after.rows = plane.rows := by
    rcases recordLoad_spec step with ⟨rfl, _⟩ | ⟨rfl, _⟩
    all_goals exact same
  apply Avoids.bind
  · apply forLoop_avoids fun _ (state : Plane) => state.rows = plane.rows
    · intro _ _ _ _
      exact recordLoad_inside (by omega) (by decide)
    · intro c _ _ _ same step
      exact rows_kept c _ _ same step
    · rfl
  · intro recorded loop
    have rows : recorded.rows = plane.rows := by
      refine forLoop_invariant (fun _ (state : Plane) => state.rows = plane.rows) ?_ rfl loop
      intro c _ _ _ same step
      exact rows_kept c _ _ same step
    apply read_bind_inside (by omega) (by decide)
    intro _
    exact write_inside (by omega) (by decide) _

theorem adjust_packet_count_inside (inside : row < plane.rows)
    (room : found ≤ plane.rows) : StaysInside (adjust_packet_count plane row found) := by
  apply read_bind_inside inside (by decide)
  intro _
  apply Avoids.bind (write_inside inside (by decide) _)
  intro _ write
  rcases Plane.write_eq_ok.mp write with ⟨_, rfl⟩
  apply Avoids.bind
  · apply forLoop_inside
    intro roh early _
    have here : roh < (plane.set row 6 withdrawnCount).rows := early.trans_le room
    apply read_bind_inside here (by decide)
    intro _
    split_ifs
    · exact pure_inside _
    · exact addInverse_inside here _
  · intro _ _
    apply forLoop_avoids fun _ (state : Plane) => state.rows = plane.rows
    · intro roh early state same
      have here : roh < state.rows := by
        rw [same]
        exact early.trans_le room
      apply read_bind_inside here (by decide)
      intro _
      split_ifs
      · exact pure_inside _
      · apply read_bind_inside here (by decide)
        intro _
        dsimp only
        split_ifs
        · exact write_inside here (by decide) _
        · exact pure_inside _
    · intro _ early _ _ same step
      exact (readjustRow_readjusted early step).recounted.rows.trans same
    · rfl

theorem withdrawRoutes_inside (number : 1 < plane.rows)
    (room : routesFound plane ≤ plane.rows) : StaysInside (withdrawRoutes dest plane) := by
  apply Avoids.bind (read_inside number (by decide))
  intro _ read
  rcases Plane.read_eq_ok.mp read with ⟨_, rfl⟩
  apply forLoop_avoids fun _ (state : Plane) => state.rows = plane.rows
  · intro row early state same
    apply forLoop_avoids fun _ (state : Plane) => state.rows = plane.rows
    · intro _ _ other here
      have place : row < other.rows := by
        rw [here]
        exact early.trans_le room
      apply read_bind_inside place
      · unfold DelayLoadMatrix.columns
        omega
      intro _
      split_ifs
      · apply adjust_packet_count_inside place
        rwa [here]
      · exact pure_inside _
    · intro _ _ _ _ here step
      have one := (checkColumn_readjusted early step).1
      exact one.recounted.rows.trans here
    · exact same
  · intro _ early _ _ same step
    have one := (checkRow_readjusted early step).1
    exact one.recounted.rows.trans same
  · rfl

end Staying

/-! ## The first three subscripts -/

variable {Result : Type}

section Locating

theorem locate_of_fits (sized : Sized h switch)
    (hosts : IsHostIndex h source ∧ IsHostIndex h dest) (fits : EdgeFits h index) :
    ∃ k, switch.delay_load_matrix.locate index source dest = .ok k := by
  refine ⟨_, if_pos ?_⟩
  rw [sized.edges, sized.hosts]
  exact ⟨⟨fits.1, by exact_mod_cast fits.2⟩, hosts⟩

theorem locate_outside (sized : Sized h switch) (outside : ¬EdgeFits h index) :
    switch.delay_load_matrix.locate index source dest = .error .outOfBounds := by
  apply if_neg
  rw [sized.edges]
  rintro ⟨⟨low, high⟩, _⟩
  exact outside ⟨low, by exact_mod_cast high⟩

theorem fits_of_bind (sized : Sized h switch)
    (inside : switch.delay_load_matrix.locate index source dest >>= rest ≠ .error .outOfBounds) :
    EdgeFits h index := by
  by_contra outside
  apply inside
  rw [locate_outside sized outside]
  rfl

end Locating

/-! ## A data packet -/

section Data

theorem num_routes_cases (h : Nat) (datagram : IPDatagram) :
    (flowOf (2 * h) datagram).num_routes = h ∨ (flowOf (2 * h) datagram).num_routes = h * h := by
  have half : (2 * (h : ℤ)).tdiv 2 = h := Int.mul_tdiv_cancel_left _ two_ne_zero
  have square : (2 * (h : ℤ) * (2 * h)).tdiv 4 = h * h := by
    rw [show 2 * (h : ℤ) * (2 * h) = 4 * (h * h) by ring]
    exact Int.mul_tdiv_cancel_left _ (by decide)
  show num_routes_for_this_packet (2 * h) _ _ = _ ∨ num_routes_for_this_packet (2 * h) _ _ = _
  rw [num_routes_for_this_packet, half, square]
  split_ifs
  · exact .inl rfl
  · exact .inr rfl

theorem encapsulate_owned (owns : OwnsRouterId node)
    (own : controlInfo.srcAddr = node.rt.routerId) :
    ∃ datagram, encapsulate node controlInfo = .ok datagram := by
  rcases owns with ⟨_, present, same⟩
  have refused :
      ¬(!controlInfo.srcAddr.isUnspecified &&
        (getInterfaceByAddress node controlInfo.srcAddr).isNone) = true := by
    rw [Bool.and_eq_true]
    rintro ⟨specified, absent⟩
    rw [getInterfaceByAddress, if_neg (by simpa using specified), Option.isNone_iff_eq_none,
      List.find?_eq_none] at absent
    apply absent _ present
    rw [same, own]
    exact beq_self_eq_true _
  rw [encapsulate, if_neg refused]
  exact ⟨_, rfl⟩

theorem startDelays_outside (many : plane.rows < num_routes.toNat) :
    startDelays simTime num_routes plane = .error .outOfBounds := by
  have only : Avoids (fun e => e ≠ .outOfBounds) (startDelays simTime num_routes plane) := by
    apply forLoop_avoids fun _ _ => True
    · intro _ _ _ _ _ failure
      unfold Plane.write at failure
      split_ifs at failure
      cases failure
      simp
    · intro _ _ _ _ _ _
      trivial
    · trivial
  cases loop : startDelays simTime num_routes plane with
  | error e =>
    have same := only e loop
    rw [not_not] at same
    rw [same]
  | ok _ =>
    have enough : num_routes.toNat ≤ plane.rows := by
      refine (forLoop_invariant
        (fun c (state : Plane) => state.rows = plane.rows ∧ c ≤ plane.rows) ?_ ?_ loop).2
      · intro _ _ _ _ holds step
        rcases Plane.write_eq_ok.mp step with ⟨⟨_, _⟩, rfl⟩
        exact ⟨holds.1, by omega⟩
      · exact ⟨rfl, Nat.zero_le _⟩
    omega

theorem startFlow_outside (owns : OwnsRouterId node) (many : plane.rows < flow.num_routes.toNat) :
    startFlow node true flow datagram simTime plane = .error (.plane .outOfBounds) := by
  have sent :
      ∃ probe,
        send_probe_packet node datagram.destAddress node.rt.routerId
          flow.src_host_indx flow.dest_host_indx = .ok probe :=
    encapsulate_owned owns rfl
  rcases sent with ⟨_, sent⟩
  rw [startFlow, if_pos rfl, sent, startDelays_outside many]
  rfl

/-- The host indices of a data packet are the host numbers less one. -/
theorem hostIndices_of_assigned (assigned : Assigned h (.data datagram queue simTime)) :
    IsHostIndex h (flowOf (2 * h) datagram).src_host_indx ∧
      IsHostIndex h (flowOf (2 * h) datagram).dest_host_indx := by
  rcases assigned with ⟨⟨_, _⟩, _, _⟩
  dsimp only [IsHostIndex, flowOf]
  omega

theorem data_inside (two_le : 2 ≤ h) (sized : Sized h switch)
    (assigned : Assigned h (.data datagram queue simTime))
    (fits : Fits h switch (.data datagram queue simTime)) :
    SendsInside (switch.serveData datagram queue simTime) := by
  rcases locate_of_fits sized (hostIndices_of_assigned assigned) fits.1 with ⟨_, located⟩
  rw [serveData, sized.ports]
  apply Avoids.bind (.mapError (.of_eq_ok located))
  intro j again
  have inside : switch.delay_load_matrix.Inside j := by
    rw [mapError_eq_ok] at again
    exact (locate_eq_ok.mp again).1
  have counted := sized.tables j inside
  apply Avoids.bind
  · apply routeFlow_inside two_le (num_routes_cases h _) counted
    intro first
    have few := fits.2 first
    rw [counted.rows]
    omega
  · intro _ _
    exact .of_eq_ok rfl

theorem data_fits (sized : Sized h switch) (owns : OwnsRouterId switch.node)
    (assigned : Assigned h (.data datagram queue simTime))
    (inside : switch.serveData datagram queue simTime ≠ .error (.plane .outOfBounds)) :
    Fits h switch (.data datagram queue simTime) := by
  unfold serveData at inside
  rw [sized.ports] at inside
  dsimp only at inside
  have edge : EdgeFits h (flowOf (2 * h) datagram).relative_destination_edge_index := by
    by_contra outside
    apply inside
    rw [locateFlow, locate_outside sized outside]
    rfl
  refine ⟨edge, ?_⟩
  intro first
  by_contra many
  rcases locate_of_fits sized (hostIndices_of_assigned assigned) edge with ⟨k, located⟩
  have counted := sized.tables k (locate_eq_ok.mp located).1
  have rows :
      (switch.delay_load_matrix.plane k).rows < (flowOf (2 * h) datagram).num_routes.toNat := by
    rw [counted.rows]
    omega
  apply inside
  unfold locateFlow routeFlow prepare
  rw [located, first]
  simp only [startFlow_outside owns rows, Except.mapError, bind, Except.bind]

end Data

/-! ## Replies and failures -/

section Replies

theorem hasRow_iff_rowFits (counted : Counted (2 * h) plane) :
    HasRow plane call (toInt (plane.cell 1 0)) ↔ RowFits h call plane := by
  rw [HasRow, RowFits, routesFound, counted.rows]

section

variable (two_le : 2 ≤ h) (sized : Sized h switch)
    (assigned : Assigned h (.probeReply call simTime))
include two_le sized assigned

theorem probeReply_inside (fits : Fits h switch (.probeReply call simTime)) :
    StaysInside (switch.serveProbeReply call simTime) := by
  rcases locate_of_fits sized assigned.1 fits.1 with ⟨k, located⟩
  have counted := sized.tables k (locate_eq_ok.mp located).1
  rcases counted.routes with ⟨_, _, _, _, _, value⟩
  apply Avoids.bind (.of_eq_ok located)
  intro _ again
  rw [located] at again
  cases again
  apply Avoids.bind
  · apply fill_routes_inside
    · rw [counted.rows]
      omega
    · rwa [value]
    · rw [counted.rows]
      exact counted.room
    · exact (hasRow_iff_rowFits counted).mpr (fits.2 k located)
  · intro _ _
    exact pure_inside _

theorem probeReply_fits (inside : switch.serveProbeReply call simTime ≠ .error .outOfBounds) :
    Fits h switch (.probeReply call simTime) := by
  refine ⟨fits_of_bind sized inside, ?_⟩
  intro k located
  have counted := sized.tables k (locate_eq_ok.mp located).1
  rcases counted.routes with ⟨_, _, _, _, _, value⟩
  rw [← hasRow_iff_rowFits counted]
  by_contra lacks
  apply inside
  have outside :
      fillReply simTime (switch.delay_load_matrix.plane k) call
          (toInt ((switch.delay_load_matrix.plane k).cell 1 0)) =
        .error .outOfBounds := by
    apply fillReply_outside assigned.2 _ _ lacks
    · rwa [value]
    · rw [counted.rows]
      exact counted.room
  have number : 1 < (switch.delay_load_matrix.plane k).rows := by
    rw [counted.rows]
    omega
  dsimp only [serveProbeReply, fill_routes_in_delay_load_matrix]
  rw [located]
  simp only [bind, Except.bind, Plane.read_ok number (show 0 < columns by
    decide), outside]

end

theorem loggedRow_inside (counted : Counted (2 * h) plane)
    (kind : isHashReply call = true ∨ isFullReply call = true)
    (logged : loggedRow simTime call plane = .ok row) : 0 ≤ row ∧ row < plane.rows := by
  rcases counted.routes with ⟨_, _, _, _, _, value⟩
  rcases bind_eq_ok.mp logged with ⟨_, read, later⟩
  rcases Plane.read_eq_ok.mp read with ⟨_, rfl⟩
  rcases bind_eq_ok.mp later with ⟨⟨_, _⟩, filling, same⟩
  cases same
  have bounds := fillReply_after kind (show 0 ≤ toInt (plane.cell 1 0) by rwa [value])
    (show (toInt (plane.cell 1 0)).toNat ≤ plane.rows by
      rw [counted.rows]
      exact counted.room)
    filling
  omega

theorem answeredRoutes_le (h : Nat) (datagram : IPDatagram) :
    (answeredRoutes (2 * h) datagram).toNat ≤ 2 * h := by
  have half : (2 * (h : ℤ)).tdiv 2 = h := Int.mul_tdiv_cancel_left _ two_ne_zero
  unfold answeredRoutes
  split_ifs <;> omega

theorem loadReply_inside (two_le : 2 ≤ h) (sized : Sized h switch)
    (assigned : Assigned h (.loadReply datagram)) (fits : Fits h switch (.loadReply datagram)) :
    StaysInside (switch.serveLoadReply datagram) := by
  rcases locate_of_fits sized assigned fits with ⟨k, located⟩
  have counted := sized.tables k (locate_eq_ok.mp located).1
  rw [serveLoadReply, sized.ports]
  apply Avoids.bind (.of_eq_ok located)
  intro _ again
  rw [located] at again
  cases again
  apply Avoids.bind
  · apply recordLoads_inside
    · rw [counted.rows]
      omega
    · rw [counted.rows]
      exact answeredRoutes_le h _
  · intro _ _
    exact pure_inside _

theorem loadReply_fits (sized : Sized h switch)
    (inside : switch.serveLoadReply datagram ≠ .error .outOfBounds) :
    Fits h switch (.loadReply datagram) := by
  rw [serveLoadReply, sized.ports] at inside
  exact fits_of_bind sized inside

theorem linkFailure_inside (two_le : 2 ≤ h) (sized : Sized h switch) :
    StaysInside (switch.serveLinkFailure datagram) := by
  unfold serveLinkFailure
  split_ifs
  · apply Avoids.bind
    · apply updateAll_avoids (subscripts_nodup _ _)
      intro k member
      have counted := sized.tables k (mem_subscripts.mp member)
      apply withdrawRoutes_inside
      · rw [counted.rows]
        omega
      · rw [counted.rows]
        exact counted.room
    · intro _ _
      exact pure_inside _
  · exact .of_eq_ok rfl

end Replies

/-! ## All subscripts of a run -/

/-- Whether a result is an error is not changed by what the error is. -/
theorem ne_error_of_sends
    (inside : SendsInside result) : result ≠ .error (.plane .outOfBounds) := by
  intro failure
  exact inside _ failure rfl

theorem ne_error_of_mapError {result : Except Fault Result}
    (inside : result.mapError SendFault.plane ≠ .error (.plane .outOfBounds)) :
    result ≠ .error .outOfBounds := by
  rintro rfl
  exact inside rfl

theorem sized_run (ports : num_interface node = 2 * h)
    (allocation : allocateMatrix (num_interface node) unset = .ok matrix) {switch : EdgeSwitch}
    (run : Run Step (.started node matrix) arrivals switch) : Sized h switch := by
  have preserved (before : EdgeSwitch) (arrival : Arrival) (after : EdgeSwitch)
      (sized : Sized h before) (step : Step before arrival after) : Sized h after :=
    sized_step sized step
  exact run.invariant preserved (sized_started ports allocation)

theorem allocateMatrix_total (four : 4 ≤ num_intrfce) (unset : Subscript → Nat → Nat → Datum) :
    ∃ matrix, allocateMatrix num_intrfce unset = .ok matrix := by
  have avoids :
      Avoids (fun _ => True)
        (updateAll (fun k _ => initialise num_intrfce.toNat (unset k))
          (Matrix.subscripts (num_intrfce * 2).toNat (num_intrfce.tdiv 2).toNat)
          fun k => ⟨num_intrfce.toNat, unset k⟩) := by
    apply updateAll_avoids (subscripts_nodup _ _)
    intro _ _
    exact .of_eq_ok (initialise_eq _ (by omega))
  rcases avoids.total with ⟨_, updated⟩
  dsimp only [allocateMatrix]
  rw [updated]
  exact ⟨_, rfl⟩

/-- The first edge switch of a fat tree of six ports. -/
def wideNode : IPNode where
  interfaces := List.replicate 8 ⟨false, .set 10 1 28 0, ALLONES_ADDRESS⟩
  rt := { routerId := .set 10 1 28 0 }
  rt1 := { routerId := .set 10 1 28 0 }

/-- A packet from its first host to the first one of the last edge switch. -/
def wideData : IPDatagram where
  srcAddress := .set 10 0 28 1
  destAddress := .set 60 0 45 1
  transportProtocol := 17

end OmnetDsi.Ipv4.AllocatedSubscripts
