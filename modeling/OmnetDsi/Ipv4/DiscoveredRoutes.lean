import OmnetDsi.Ipv4.ProbeCopies

/-!
# The routes a probe discovers

In a configured fat tree the copies of a probe go through the stages of a
system of branching tokens: a copy climbs from its edge switch, is copied
again where it leaves the pod, and from the second switch on it follows one
route to the other edge switch and back.  `served_stage` shows that a node
serves a copy as the system says, and `simulation` carries this over to runs.

So every order of serving the copies ends, and ends with one reply for each
shortest path.
-/

namespace OmnetDsi.Ipv4.DiscoveredRoutes

open Library Library.Transition Contract.Addresses Ipv4.RoutingTables Ipv4.Datagrams
open Ipv4.DataForwarding Ipv4.RouteDiscovery Ipv4.ProbeCopies Autorouting.FatTrees
open Autorouting.NetworkConfigurator Autorouting.ExtractedTopology Autorouting.AddressPlan
open Autorouting.ConfiguredTables Autorouting.StandardTree Autorouting.UpDownPaths List Branching

/-! ## The stages of a discovery -/

/-- How far a copy of a probe has come. -/
inductive Stage (h : Nat) where
  | start
  | aggregate (above : Fin h)
  | onRoute (route : List (Node h)) (position : Nat)

open Discovery

namespace Stage

variable (discovery : Discovery h)

/-- The copies of one stage and the routes it has found. -/
def rules : Rules (Stage h) (List (Node h)) where
  children
    | .start => (finRange h).map .aggregate
    | .aggregate above => (discovery.routesVia above).map (.onRoute · 2)
    | .onRoute route position =>
      if position + 1 < (walk route).length then [.onRoute route (position + 1)] else []
  outputs
    | .start => []
    | .aggregate _ => []
    | .onRoute route position =>
      if position + 1 < (walk route).length then [] else [route]

/-- The routes that a copy will find. -/
def owed : Stage h → List (List (Node h))
  | .start => discovery.routes
  | .aggregate above => discovery.routesVia above
  | .onRoute route _ => [route]

/-- The number of times a copy and its copies are served. -/
def weight : Stage h → Nat
  | .start =>
    1 + ((finRange h).map fun above =>
      1 + ((discovery.routesVia above).map fun route => 1 + ((walk route).length - 3)).sum).sum
  | .aggregate above =>
    1 + ((discovery.routesVia above).map fun route => 1 + ((walk route).length - 3)).sum
  | .onRoute route position => 1 + ((walk route).length - (position + 1))

/-- A copy on a route is somewhere after the aggregate switch. -/
def Valid : Stage h → Prop
  | .start => True
  | .aggregate _ => True
  | .onRoute route position =>
    route ∈ discovery.routes ∧ 2 ≤ position ∧ position < (walk route).length

/-- The copy in the network. -/
def packet (tree : FatTree h) : Stage h → Packet
  | .start => discovery.copyAt tree [] discovery.source
  | .aggregate above =>
    discovery.copyAt tree [discovery.source] (.aggregate discovery.sourcePod above)
  | .onRoute route position =>
    discovery.copyAt tree ((walk route).take position) ((walk route).getD position discovery.source)

variable {discovery}

theorem owed_pays (stage : Stage h) :
    (owed discovery stage).Perm
      ((rules discovery).outputs stage ++
        ((rules discovery).children stage).flatMap (owed discovery)) := by
  cases stage with
  | start =>
    simp [rules, owed, flatMap_map, Discovery.routes,
      Autorouting.UpDownPaths.routes, Discovery.routesVia]
  | aggregate _ => simp [rules, owed, flatMap_map]
  | onRoute route position =>
    by_cases more : position + 1 < (walk route).length
    all_goals simp [rules, owed, more]

theorem weight_decreases (stage : Stage h) :
    (((rules discovery).children stage).map (weight discovery)).sum < weight discovery stage := by
  cases stage with
  | start => simp [rules, weight, map_map, Function.comp_def]
  | aggregate _ => simp [rules, weight, map_map, Function.comp_def]
  | onRoute route position =>
    by_cases more : position + 1 < (walk route).length
    · simp [rules, weight, more]
      omega
    · simp [rules, weight, more]

theorem weight_start_le (positive : 0 < h) : weight discovery .start ≤ 1 + h + 7 * (h * h) := by
  by_cases samePod : discovery.sourcePod = discovery.destPod
  · have square : h ≤ h * h := Nat.le_mul_of_pos_left h positive
    simp [weight, Discovery.routesVia, Autorouting.UpDownPaths.routesVia, samePod, walk, podRoute]
    omega
  · simp [weight, Discovery.routesVia, Autorouting.UpDownPaths.routesVia,
      samePod, walk, coreRoute, Function.comp_def, Nat.mul_add]
    rw [show h * (h * 7) = 7 * (h * h) by ring]
    omega

theorem valid_onRoute
    (member : route ∈ discovery.routesVia above) : (onRoute route 2).Valid discovery := by
  refine ⟨?_, le_refl 2, ?_⟩
  · exact mem_flatMap.mpr ⟨above, mem_finRange _, member⟩
  · unfold Discovery.routesVia Autorouting.UpDownPaths.routesVia at member
    split at member
    · rw [mem_singleton.mp member]
      show 2 < 5
      decide
    · rcases mem_map.mp member with ⟨_, _, rfl⟩
      show 2 < 9
      decide

theorem valid_children (valid : stage.Valid discovery)
    (member : child ∈ (rules discovery).children stage) : child.Valid discovery := by
  cases stage with
  | start =>
    rcases mem_map.mp member with ⟨_, _, rfl⟩
    trivial
  | aggregate _ =>
    rcases mem_map.mp member with ⟨route, via, rfl⟩
    exact valid_onRoute via
  | onRoute route position =>
    by_cases more : position + 1 < (walk route).length
    · have same : child = .onRoute route (position + 1) := by simpa [rules, more] using member
      subst same
      exact ⟨valid.1, valid.2.1.trans (Nat.le_succ _), more⟩
    · simp [rules, more] at member

end Stage

/-! ## A node serves a copy as its stage says -/

section Serving

variable {tree : FatTree h}

/-- The copies that a node sends are those of the next stages. -/
def ServedAs (discovery : Discovery h) (tree : FatTree h)
    (path : Nat → Nat → Option Nat) (unset : Indeterminate) (nodes : IPNodes)
    (stage : Stage h) : Prop :=
  ∃ sent : List (Stage h),
    sent.Perm ((Stage.rules discovery).children stage) ∧
      Serves tree path unset nodes (stage.packet discovery tree)
        (sent.map (Stage.packet discovery tree))
        (((Stage.rules discovery).outputs stage).map (discovery.reply tree))

section

variable (small : h ≤ 7) (positive : 0 < h) (paths : ShortestPaths tree.topo path)
    (configured : Configured tree path unset nodes)
include small positive paths configured

theorem served_start : ServedAs discovery tree path unset nodes .start := by
  have elsewhere : switchNumber tree discovery.dest ≠ switchNumber tree discovery.source :=
    fun same => discovery.different (tree.injective (Nat.succ.inj same)).symm
  have onward : discovery.dest ∉ [] := not_mem_nil
  rcases serves_up small positive paths configured
    (neighboursIn_edge_eq discovery.sourcePod discovery.sourceEdge) rfl
    discovery.different onward (by simp)
    (edge_up _ small positive discovery.dest rfl elsewhere) with
      ⟨order, perm, served⟩
  refine ⟨order.map .aggregate, perm.map _, ?_⟩
  rwa [map_map]

theorem served_aggregate (above : Fin h) :
    ServedAs discovery tree path unset nodes (.aggregate above) := by
  have onward : discovery.dest ∉ [discovery.source] := by
    rw [mem_singleton]
    exact discovery.different.symm
  by_cases samePod : discovery.sourcePod = discovery.destPod
  · rcases aggregate_down _ small positive paths _ discovery.dest rfl rfl with ⟨_, best, leads⟩
    have here : Node.aggregate discovery.destPod above = .aggregate discovery.sourcePod above := by
      rw [samePod]
    rw [here] at best leads
    refine ⟨[.onRoute (podRoute discovery.sourcePod discovery.sourceEdge
      discovery.destPod discovery.destEdge above) 2], ?_, ?_⟩
    · simp [Stage.rules, Discovery.routesVia, Autorouting.UpDownPaths.routesVia, samePod]
    · exact serves_down small configured rfl (by simp [dest]) onward (by simp) best leads
  · rcases serves_up small positive paths configured
      (neighboursIn_aggregate_eq discovery.sourcePod above) rfl (by simp [dest]) onward (by simp)
      (aggregate_up unset small positive above discovery.dest rfl
        (Ne.symm samePod)) with ⟨order, perm, served⟩
    refine ⟨order.map fun member => .onRoute
      (coreRoute discovery.sourcePod discovery.sourceEdge
        discovery.destPod discovery.destEdge above member) 2, ?_, ?_⟩
    · simp only [Stage.rules, Discovery.routesVia,
        Autorouting.UpDownPaths.routesVia, samePod, if_false, map_map]
      exact perm.map _
    · rwa [map_map]

end

theorem servedAs_next
    (visited : List (Node h)) (node next : Node h) (more : position + 1 < (walk route).length)
    (before : (walk route).take position = visited) (here : (walk route)[position]? = some node)
    (there : (walk route)[position + 1]? = some next)
    (served :
      Serves tree path unset nodes (discovery.copyAt tree visited node)
        [discovery.copyAt tree (visited ++ [node]) next] []) :
    ServedAs discovery tree path unset nodes (.onRoute route position) := by
  have longer : (walk route).take (position + 1) = visited ++ [node] := by
    rw [take_add_one, before, here]
    rfl
  refine ⟨[.onRoute route (position + 1)], ?_, ?_⟩
  · simp [Stage.rules, more]
  · simp only [Stage.rules, Stage.packet, if_pos more, map_cons,
      map_nil, getD_eq_getElem?_getD, before, here, there, longer, Option.getD_some]
    exact served

theorem servedAs_home (visited : List (Node h))
    (closed : walk route = visited ++ [discovery.source])
    (last : position = visited.length) (small : h ≤ 7)
    (configured : Configured tree path unset nodes)
    (returning : discovery.dest ∈ visited) (long : 5 ≤ (walk route).length) :
    ServedAs discovery tree path unset nodes (.onRoute route position) := by
  have served :
      Serves tree path unset nodes (discovery.copyAt tree visited discovery.source) []
        [discovery.reply tree route] :=
    serves_home small configured closed returning long
  refine ⟨[], ?_, ?_⟩
  · simp [Stage.rules, closed, last]
  · simpa [Stage.rules, Stage.packet, closed, last] using served

section

variable (small : h ≤ 7) (positive : 0 < h) (paths : ShortestPaths tree.topo path)
    (configured : Configured tree path unset nodes)
include small positive paths configured

theorem served_podRoute (samePod : discovery.sourcePod = discovery.destPod) (above : Fin h)
    (early : 2 ≤ position) (inside : position < 5) :
    ServedAs discovery tree path unset nodes
      (.onRoute (podRoute discovery.sourcePod discovery.sourceEdge
        discovery.destPod discovery.destEdge above) position) := by
  have split : position = 2 ∨ position = 3 ∨ position = 4 := by omega
  have apart := discovery.different.symm
  let up : Node h := .aggregate discovery.sourcePod above
  rcases split with rfl | rfl | rfl
  · -- the other edge switch turns the probe around
    refine servedAs_next [discovery.source, up] discovery.dest _
      (by show 3 < 5; decide) rfl rfl rfl ?_
    apply serves_back small positive paths configured [discovery.source, discovery.source] [] rfl
    · simp
    · simp
    · rfl
    · simp
    · exact by simpa [source, dest, up] using apart
    · simp [up, dest, neighbours, samePod]
    · rfl
  · refine servedAs_next [discovery.source, up, discovery.dest] _
      discovery.source (by show 4 < 5; decide) rfl rfl rfl ?_
    apply serves_back small positive paths configured [discovery.source] [discovery.dest, up] rfl
    · simp
    · simp
    · rfl
    · simp
    · simp [source, up]
    · simp [source, up, neighbours]
    · rfl
  · apply servedAs_home [discovery.source, up, discovery.dest, up] rfl rfl small configured
    · simp
    · exact le_refl 5

theorem served_coreRoute (apartPods : discovery.sourcePod ≠ discovery.destPod)
    (above member : Fin h) (early : 2 ≤ position) (inside : position < 9) :
    ServedAs discovery tree path unset nodes
      (.onRoute (coreRoute discovery.sourcePod discovery.sourceEdge
        discovery.destPod discovery.destEdge above member) position) := by
  have split : position = 2 ∨ position = 3 ∨ position = 4 ∨ position = 5 ∨
      position = 6 ∨ position = 7 ∨ position = 8 := by omega
  have otherPod := apartPods.symm
  let source := discovery.source
  let up : Node h := .aggregate discovery.sourcePod above
  let core : Node h := .core above member
  let down : Node h := .aggregate discovery.destPod above
  let dest := discovery.dest
  rcases split with rfl | rfl | rfl | rfl | rfl | rfl | rfl
  · -- down from the core switch
    refine servedAs_next [source, up] _ _ (by show 3 < 9; decide) rfl rfl rfl ?_
    rcases core_down _ small positive paths _ _ discovery.dest rfl with ⟨e, best, leads⟩
    apply serves_down small configured rfl _ _ (by simp) best leads
    · simp [Discovery.dest]
    · simp [source, up, Discovery.source, Discovery.dest, otherPod]
  · refine servedAs_next [source, up, core] _ _ (by show 4 < 9; decide) rfl rfl rfl ?_
    rcases aggregate_down unset small positive paths above discovery.dest
      rfl rfl with ⟨e, best, leads⟩
    apply serves_down small configured rfl _ _ (by simp) best leads
    · simp [Discovery.dest]
    · simp [source, up, core, Discovery.source, Discovery.dest, otherPod]
  · -- the other edge switch turns the probe around
    refine servedAs_next [source, up, core, down] dest down (by show 5 < 9; decide) rfl rfl rfl ?_
    apply serves_back small positive paths configured [source, source, up, core] [] rfl
    · simp [dest]
    · simp
    · rfl
    · simp
    · simp [source, up, core, down, dest, Discovery.source, Discovery.dest, otherPod]
    · simp [down, dest, Discovery.dest, neighbours]
    · rfl
  · refine servedAs_next [source, up, core, down, dest] down core
      (by show 6 < 9; decide) rfl rfl rfl ?_
    apply serves_back small positive paths configured [source, source, up] [dest, down] rfl
    · simp [dest]
    · simp
    · rfl
    · simp
    · simp [source, up, core, down, Discovery.source, otherPod]
    · simp [down, core, neighbours]
    · rfl
  · refine servedAs_next [source, up, core, down, dest, down] core up
      (by show 7 < 9; decide) rfl rfl rfl ?_
    apply serves_back small positive paths configured [source, source] [down, dest, down, core] rfl
    · simp [dest]
    · simp
    · rfl
    · simp
    · simp [source, up, core, Discovery.source]
    · simp [up, core, neighbours]
    · rfl
  · refine servedAs_next [source, up, core, down, dest, down, core] up
      source (by show 8 < 9; decide) rfl rfl rfl ?_
    apply serves_back small positive paths configured
      [source] [core, down, dest, down, core, up] rfl
    · simp [dest]
    · simp
    · rfl
    · simp
    · simp [source, up, Discovery.source]
    · simp [up, source, Discovery.source, neighbours]
    · rfl
  · apply servedAs_home [source, up, core, down, dest, down, core, up] rfl rfl small configured
    · simp [dest]
    · show 5 ≤ 9
      decide

theorem served_stage
    (valid : stage.Valid discovery) : ServedAs discovery tree path unset nodes stage := by
  cases stage with
  | start => exact served_start small positive paths configured
  | aggregate _ => exact served_aggregate small positive paths configured _
  | onRoute _ _ =>
    rcases valid with ⟨member, early, inside⟩
    rcases mem_routes.mp member with ⟨samePod, above, rfl⟩ | ⟨apartPods, above, core, rfl⟩
    · exact served_podRoute small positive paths configured samePod _ early inside
    · exact served_coreRoute small positive paths configured apartPods above core early inside

end

end Serving

/-! ## The network follows the stages -/

section Simulation

variable {discovery : Discovery h} {tree : FatTree h}

/-- The packets of the network are those of the stages. -/
structure Simulates (discovery : Discovery h) (tree : FatTree h)
    (path : Nat → Nat → Option Nat) (unset : Indeterminate) (network : Network)
    (state : State (Stage h) (List (Node h))) : Prop where
  configured : Configured tree path unset network.nodes
  counters : ∀ i, network.counter_for_interface_table i = 0
  inFlight : network.inFlight = state.inFlight.map (Stage.packet discovery tree)
  valid : ∀ stage ∈ state.inFlight, stage.Valid discovery
  replies : network.replies = state.results.map (discovery.reply tree)

section

variable (small : h ≤ 7) (positive : 0 < h) (paths : ShortestPaths tree.topo path)
include small positive paths

theorem simulation {next : Network} (step : Step tree.topo network packet next)
    (simulates : Simulates discovery tree path unset network state) :
    ∃ stage state', Step (Stage.rules discovery) state stage state' ∧
      Simulates discovery tree path unset next state' := by
  rcases state with ⟨_, _⟩
  cases step with
  | serve _ _ _ _ packet _ success =>
    rcases simulates with ⟨configured, counters, tokens, valid, found⟩
    dsimp only at configured counters tokens valid found
    rcases map_eq_append_iff.mp tokens.symm with ⟨_, _, rfl, rfl, tailTokens⟩
    rcases map_eq_cons_iff.mp tailTokens with ⟨stage, _, rfl, rfl, rfl⟩
    have here : stage.Valid discovery := valid _ (by simp)
    rcases served_stage small positive paths configured here with
      ⟨sent, children, node, served, stays⟩
    rw [counters, served] at success
    have same := Except.ok.inj success
    subst same
    refine ⟨stage, _, .serve _ _ _ _ children, ?_⟩
    constructor
    · exact stays
    · intro i
      by_cases own : i = (stage.packet discovery tree).node
      · rw [own]
        exact Function.update_self _ _ _
      · exact (Function.update_of_ne own _ _).trans (counters i)
    · simp only [map_append]
    · intro _ member
      rcases mem_append.mp member with old | new
      · apply valid
        rcases mem_append.mp old with left | right
        · exact mem_append_left _ left
        · exact mem_append_right _ (mem_cons_of_mem _ right)
      · exact Stage.valid_children here (children.mem_iff.mp new)
    · simp only [found, map_append]

theorem exists_step (simulates : Simulates discovery tree path unset network state)
    (pending : network.inFlight ≠ []) : ∃ packet next, Step tree.topo network packet next := by
  rcases network with ⟨_, _, _, _⟩
  rcases state with ⟨stages, _⟩
  rcases simulates with ⟨configured, counters, tokens, valid, _⟩
  dsimp only at configured counters tokens valid pending
  subst tokens
  cases stages with
  | nil => contradiction
  | cons stage _ =>
    rcases served_stage small positive paths configured
      (valid _ mem_cons_self) with
        ⟨sent, _, node, served, _⟩
    rw [← counters (stage.packet _ _).node] at served
    exact ⟨_, _, .serve _ _ [] _ _ _ served⟩

theorem run_simulation (run : Run (Step tree.topo) network served last)
    (simulates : Simulates discovery tree path unset network state) :
    ∃ stages state', Run (Step (Stage.rules discovery)) state stages state' ∧
      stages.length = served.length ∧ Simulates discovery tree path unset last state' := by
  induction run generalizing state with
  | idle _ => exact ⟨[], state, .idle _, rfl, simulates⟩
  | next head _ induction =>
    rcases simulation small positive paths head simulates with ⟨stage, _, step, continues⟩
    rcases induction continues with ⟨stages, state', run, count, ends⟩
    refine ⟨stage :: stages, state', .next step run, ?_, ends⟩
    rw [length_cons, length_cons, count]

end

theorem exists_completion (small : h ≤ 7) (positive : 0 < h) (paths : ShortestPaths tree.topo path)
    (simulates : Simulates discovery tree path unset network state) :
    ∃ served last, Run (Step tree.topo) network served last ∧ last.inFlight = [] := by
  by_cases pending : network.inFlight = []
  · exact ⟨[], network, .idle _, pending⟩
  · rcases exists_step small positive paths simulates pending with ⟨packet, _, step⟩
    rcases simulation small positive paths step simulates with ⟨_, _, shadow, continues⟩
    have lighter := shadow.load_lt Stage.weight_decreases
    rcases exists_completion small positive paths continues with ⟨served, last, run, empty⟩
    exact ⟨packet :: served, last, .next step run, empty⟩
termination_by load (Stage.weight discovery) state

theorem simulates_started (configured : Configured tree path unset nodes) :
    Simulates discovery tree path unset
      (started nodes (tree.index discovery.source) (discovery.datagramAfter tree []))
      ⟨[.start], []⟩ where
  configured
  counters := fun _ => rfl
  inFlight := rfl
  valid := by
    intro _ member
    rw [mem_singleton.mp member]
    trivial
  replies := rfl

theorem send_probe_packet_eq (small : h ≤ 7)
    (configured : Configured tree path unset nodes) (slot : Fin h) :
    send_probe_packet (nodes (tree.index discovery.source))
        (address tree (.host discovery.destPod discovery.destEdge slot))
        (nodes (tree.index discovery.source)).rt.routerId
        discovery.src_host_indx discovery.dest_host_indx =
      .ok (discovery.datagramAfter tree []) := by
  have edge := edgeOf_host tree small discovery.destPod discovery.destEdge slot
  have unicast := isMulticast_address tree small discovery.dest
  rw [send_probe_packet, configured.routerId, edge]
  exact encapsulate_own small configured rfl unicast rfl

/-! ## The replies of a discovery -/

theorem replies_perm (small : h ≤ 7) (positive : 0 < h) (paths : ShortestPaths tree.topo path)
    (configured : Configured tree path unset nodes)
    (run : Run (Step tree.topo)
      (started nodes (tree.index discovery.source) (discovery.datagramAfter tree [])) served last)
    (empty : last.inFlight = []) :
    ∃ found : List (List (Node h)), found.Perm discovery.routes ∧
      last.replies = found.map (discovery.reply tree) := by
  rcases run_simulation small positive paths run
    (simulates_started configured) with ⟨stages, state', shadow, _, ends⟩
  have none : state'.inFlight = [] := by
    have tokens := ends.inFlight
    rw [empty] at tokens
    exact map_eq_nil_iff.mp tokens.symm
  have same := run_conserved Stage.owed_pays shadow
  refine ⟨state'.results, ?_, ends.replies⟩
  have all : (total (Stage.owed discovery) state') = state'.results := by
    rw [total, none, flatMap_nil, append_nil]
  rw [all] at same
  have start : total (Stage.owed discovery) ⟨[.start], []⟩ = discovery.routes := by
    simp [total, Stage.owed]
  rw [start] at same
  exact same.symm

theorem num_routes_eq (small : h ≤ 7) (sourceSlot destSlot : Fin h) :
    num_routes_for_this_packet (num_interface_for_this_node tree.topo (tree.index discovery.source))
        (address tree (.host discovery.sourcePod discovery.sourceEdge sourceSlot))
        (address tree (.host discovery.destPod discovery.destEdge destSlot)) =
      (discovery.routes.length : Int) := by
  have count : num_interface_for_this_node tree.topo
      (tree.index discovery.source) = (2 * h : Nat) :=
    Discovery.num_interface_eq _ _ _
  have pods :
      podIndex (.host discovery.sourcePod discovery.sourceEdge sourceSlot) * 10 =
        podIndex (.host discovery.destPod discovery.destEdge destSlot) * 10 ↔
      discovery.sourcePod = discovery.destPod := by
    simp only [podIndex, Fin.ext_iff]
    omega
  rw [num_routes_for_this_packet, count, (getDByte_address _ small _).1,
    (getDByte_address _ small _).1, Discovery.routes, routes_length]
  by_cases samePod : discovery.sourcePod = discovery.destPod
  · rw [if_pos (pods.mpr samePod), if_pos samePod]
    push_cast
    exact Int.mul_tdiv_cancel_left _ (by decide)
  · rw [if_neg fun same => samePod (pods.mp same), if_neg samePod]
    push_cast
    rw [show (2 * (h : Int)) * (2 * h) = 4 * (h * h) by ring]
    exact Int.mul_tdiv_cancel_left _ (by decide)

theorem turns_nodup (small : h ≤ 7) {found : List (List (Node h))}
    (perm : found.Perm discovery.routes) :
    ((found.map (discovery.reply tree)).map fun reply =>
      (reply.call.aggrg_address, reply.call.core_address)).Nodup := by
  rw [map_map]
  refine Nodup.map_on ?_ (perm.nodup_iff.mpr routes_nodup)
  intro _ leftFound _ rightFound same
  have injective := address_injective tree small
  rw [perm.mem_iff] at leftFound rightFound
  rcases mem_routes.mp leftFound with ⟨samePod, _, rfl⟩ | ⟨apartPods, _, _, rfl⟩
  · rcases mem_routes.mp rightFound with ⟨_, _, rfl⟩ | ⟨apartPods, _⟩
    · have turns := injective (Prod.mk.inj same).1
      rw [(Node.aggregate.inj turns).2]
    · exact absurd samePod apartPods
  · rcases mem_routes.mp rightFound with ⟨samePod, _⟩ | ⟨_, _, _, rfl⟩
    · exact absurd samePod apartPods
    · have turns := injective (Prod.mk.inj same).2
      rw [(Node.core.inj turns).1, (Node.core.inj turns).2]

end Simulation

/-- What the replies to one probe are, once no copy of it is left. -/
structure Discovered (tree : FatTree h) (discovery : Discovery h)
    (sourceHost destHost : IPAddress) (replies : List Reply) : Prop where
  /-- One reply for each shortest path, and no other. -/
  exactlyOnce : ∃ found : List (List (Node h)),
    replies = found.map (discovery.reply tree) ∧ found.Nodup ∧
      ∀ route, route ∈ found ↔ ShortestUpDown discovery.source discovery.dest route
  /-- As many as the source edge switch waits for. -/
  expected :
    (replies.length : Int) =
      num_routes_for_this_packet
        (num_interface_for_this_node tree.topo (tree.index discovery.source)) sourceHost destHost
  distinct : (replies.map fun reply => (reply.call.aggrg_address, reply.call.core_address)).Nodup

/--
A probe between two edge switches of a configured fat tree whose ids fit: in
whatever order its copies are served, they are served a bounded number of
times, every run can be continued until none is left, and then there has been
one reply for each shortest path.
-/
theorem routes_discovered (tree : FatTree h) {path : Nat → Nat → Option Nat}
    (paths : ShortestPaths tree.topo path) (unset : Indeterminate)
    (ports : 4 ≤ 2 * h) (fits : IdsFit tree.topo unset) :
    (∃ nodes, configure tree.topo path unset = .ok nodes ∧ Configured tree path unset nodes) ∧
    ∀ nodes, Configured tree path unset nodes →
      ∀ (discovery : Discovery h) (sourceSlot destSlot : Fin h),
        ∃ probe,
          send_probe_packet (nodes (tree.index discovery.source))
              (givenAddress tree unset (.host discovery.destPod discovery.destEdge destSlot))
              (nodes (tree.index discovery.source)).rt.routerId
              discovery.src_host_indx discovery.dest_host_indx =
            .ok probe ∧
          ∀ served last,
            Run (Step tree.topo) (started nodes (tree.index discovery.source) probe) served last →
              served.length ≤ 1 + h + 7 * (h * h) ∧
              (∃ more final, Run (Step tree.topo) last more final ∧ final.inFlight = []) ∧
              (last.inFlight = [] →
                Discovered tree discovery
                  (givenAddress tree unset
                    (.host discovery.sourcePod discovery.sourceEdge sourceSlot))
                  (givenAddress tree unset (.host discovery.destPod discovery.destEdge destSlot))
                  last.replies) := by
  have positive : 0 < h := by omega
  have small : h ≤ 7 := (idsFit_iff _ _ positive).mp fits
  refine ⟨configure_configured small positive paths _, ?_⟩
  intro _ configured discovery _ _
  simp only [givenAddress, nodeAddress_index _ _ positive]
  refine ⟨discovery.datagramAfter _ [], send_probe_packet_eq small configured _, ?_⟩
  intro _ _ run
  have start : Simulates discovery tree path unset _ _ := simulates_started configured
  rcases run_simulation small positive paths run start with ⟨_, _, shadow, _, ends⟩
  refine ⟨?_, exists_completion small positive paths ends, ?_⟩
  · have bound := run_length_le Stage.weight_decreases shadow
    have weight : Stage.weight discovery .start ≤ 1 + h + 7 * (h * h) :=
      Stage.weight_start_le positive
    simp only [load, map_singleton, sum_singleton] at bound
    omega
  · intro empty
    rcases replies_perm small positive paths configured run empty with ⟨found, perm, replies⟩
    constructor
    · refine ⟨found, replies, perm.nodup_iff.mpr routes_nodup, ?_⟩
      intro route
      exact perm.mem_iff.trans (mem_routes_iff discovery.different route)
    · rw [num_routes_eq small, ← perm.length_eq, replies, length_map]
    · rw [replies]
      exact turns_nodup small perm

/-- With four ports, from the first pod to the second. -/
theorem routes_discovered_four_ports :
    ∃ nodes, configure (standard 2).topo (shortestPath (standard 2).topo) zeroed = .ok nodes ∧
      ∃ probe,
        send_probe_packet (nodes ((standard 2).index (.edge 0 0)))
            (givenAddress (standard 2) zeroed (.host 1 0 0))
            (nodes ((standard 2).index (.edge 0 0))).rt.routerId 0 0 =
          .ok probe ∧
        ∃ served last,
          Run (Step (standard 2).topo)
            (started nodes ((standard 2).index (.edge 0 0)) probe) served last ∧
          last.inFlight = [] ∧
          Discovered (standard 2) ⟨0, 0, 1, 0, 0, 0, by decide⟩
            (givenAddress (standard 2) zeroed (.host 0 0 0))
            (givenAddress (standard 2) zeroed (.host 1 0 0)) last.replies := by
  have paths : ShortestPaths (standard 2).topo (shortestPath (standard 2).topo) :=
    shortestPath_spec (by decide)
  have fits : IdsFit (standard 2).topo zeroed := (idsFit_iff _ _ (by decide)).mpr (by decide)
  have discovered := routes_discovered _ paths _ (by decide) fits
  rcases discovered.1 with ⟨nodes, success, configured⟩
  rcases discovered.2 _ configured ⟨0, 0, 1, 0, 0, 0, by decide⟩ 0 0 with ⟨probe, sent, runs⟩
  rcases (runs [] _ (.idle _)).2.1 with ⟨served, last, run, empty⟩
  exact ⟨nodes, success, probe, sent, served, last, run, empty, (runs _ _ run).2.2 empty⟩

end OmnetDsi.Ipv4.DiscoveredRoutes
