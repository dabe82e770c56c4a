import OmnetDsi.Contract.Addresses
import OmnetDsi.Library.Fallible
import OmnetDsi.Library.Relaxations
import Mathlib.Algebra.Order.Ring.Rat
import Mathlib.Data.List.Induction

/-!
# Constrained shortest paths

The traffic engineering database selects the links that are up and have
enough bandwidth left, numbers the nodes they join, and relaxes all links
until nothing changes, one round fewer than there are nodes at most.

A cost of `LS_INFINITY` stands for a node that no path leads to, so that the
costs below it are exact and the others count as infinite.
-/

namespace OmnetDsi.Ted.ConstrainedPaths

open Contract.Addresses Library.Relaxations Library.ShortestPaths

/-! ## The functions -/

/-- A link, with metric and bandwidths as exact numbers. -/
structure TELinkStateInfo where
  advrouter : IPAddress
  linkid : IPAddress
  metric : ℚ
  UnResvBandwidth : Fin 8 → ℚ
  state : Bool

/-- A vertex; no parent stands for -1. -/
structure Vertex where
  node : IPAddress
  parent : Option Nat
  dist : ℚ

structure Edge where
  src : Nat
  dest : Nat
  metric : ℚ

inductive TEDError where
  /-- An assertion fails. -/
  | assertion
  /-- The parents do not lead to a vertex without one. -/
  | endless

def LS_INFINITY : ℚ := 10 ^ 16

def assignIndex (vertices : List Vertex) (nodeAddr : IPAddress) : List Vertex × Nat :=
  match vertices.findIdx? fun vertex => vertex.node = nodeAddr with
  | some index => (vertices, index)
  | none =>
    let newVertex : Vertex := { node := nodeAddr, parent := none, dist := LS_INFINITY }
    (vertices ++ [newVertex], vertices.length)

/-- The loop body that selects the links with enough bandwidth left. -/
def selectLink (req_bandwidth : ℚ) (priority : Fin 8)
    (graph : List Vertex × List Edge) (link : TELinkStateInfo) : List Vertex × List Edge :=
  if !link.state then graph
  else if link.UnResvBandwidth priority < req_bandwidth then graph
  else
    let withSrc := assignIndex graph.1 link.advrouter
    let withDest := assignIndex withSrc.1 link.linkid
    let edge : Edge := { src := withSrc.2, dest := withDest.2, metric := link.metric }
    (withDest.1, graph.2 ++ [edge])

/-- The body of the inner loop; the flag is the variable `mod`. -/
def relaxEdge (current : List Vertex × Bool) (edge : Edge) : Except TEDError (List Vertex × Bool) :=
  match current.1[edge.src]?, current.1[edge.dest]? with
  | some src, some dest =>
    if edge.src = edge.dest then .error .assertion
    else if src.dist + edge.metric ≥ dest.dist then .ok current
    else
      .ok (current.1.modify edge.dest fun vertex =>
        { vertex with dist := src.dist + edge.metric, parent := some edge.src }, true)
  | _, _ => .error .assertion

/-- The outer loop, with the rounds that remain. -/
def relaxRounds (edges : List Edge) : Nat → List Vertex → Except TEDError (List Vertex)
  | 0, vertices => .ok vertices
  | rounds + 1, vertices => do
      let relaxed ← edges.foldlM relaxEdge (vertices, false)
      if relaxed.2 then relaxRounds edges rounds relaxed.1 else .ok relaxed.1

def calculateShortestPaths (routerId : IPAddress)
    (topology : List TELinkStateInfo) (req_bandwidth : ℚ) (priority : Fin 8) :
    Except TEDError (List Vertex) :=
  let graph := topology.foldl (selectLink req_bandwidth priority) ([], [])
  let withSrc := assignIndex graph.1 routerId
  let vertices := withSrc.1.modify withSrc.2 fun vertex => { vertex with dist := 0 }
  relaxRounds graph.2 (vertices.length - 1) vertices

/-- The loop for the nearest destination, from an index on. -/
def nearestFrom (dest : List IPAddress) : List Vertex → Nat → ℚ → Option Nat → Option Nat
  | [], _, _, minIndex => minIndex
  | vertex :: rest, index, minDist, minIndex =>
    if vertex.dist ≥ minDist then nearestFrom dest rest (index + 1) minDist minIndex
    else if vertex.node ∉ dest then nearestFrom dest rest (index + 1) minDist minIndex
    else nearestFrom dest rest (index + 1) vertex.dist (some index)

/-- The loop that puts the parents in front of the result. -/
def followParents (vertices : List Vertex) :
    Nat → Nat → List IPAddress → Except TEDError (List IPAddress)
  | 0, _, _ => .error .endless
  | steps + 1, index, result =>
    match vertices[index]? with
    | none => .error .assertion
    | some vertex =>
      match vertex.parent with
      | none => .ok (vertex.node :: result)
      | some parent => followParents vertices steps parent (vertex.node :: result)

def calculateShortestPath (routerId : IPAddress) (dest : List IPAddress)
    (topology : List TELinkStateInfo) (req_bandwidth : ℚ) (priority : Fin 8) :
    Except TEDError (List IPAddress) := do
  let vertices ← calculateShortestPaths routerId topology req_bandwidth priority
  match nearestFrom dest vertices 0 LS_INFINITY none with
  | none => .ok []
  | some minIndex => followParents vertices vertices.length minIndex []

theorem LS_INFINITY_pos : 0 < LS_INFINITY :=
  pow_pos (by decide) 16

/-! ## The graph -/

/-- The links that the selection takes. -/
def usable (topology : List TELinkStateInfo) (req_bandwidth : ℚ)
    (priority : Fin 8) (advrouter linkid : IPAddress) (metric : ℚ) : Prop :=
  ∃ link ∈ topology,
    link.state = true ∧ req_bandwidth ≤ link.UnResvBandwidth priority ∧
      link.advrouter = advrouter ∧ link.linkid = linkid ∧ link.metric = metric

/-- The node with a number. -/
def nodeAt (vertices : List Vertex) (index : Nat) : Option IPAddress :=
  vertices[index]?.map Vertex.node

/-- What holds while the links are selected. -/
structure Built (link : IPAddress → IPAddress → ℚ → Prop)
    (vertices : List Vertex) (edges : List Edge) : Prop where
  nodup : (vertices.map Vertex.node).Nodup
  fresh : ∀ vertex ∈ vertices, vertex.dist = LS_INFINITY ∧ vertex.parent = none
  sound :
    ∀ edge ∈ edges, ∃ advrouter linkid,
      nodeAt vertices edge.src = some advrouter ∧
        nodeAt vertices edge.dest = some linkid ∧ link advrouter linkid edge.metric
  complete :
    ∀ advrouter linkid metric, link advrouter linkid metric →
      ∃ edge ∈ edges,
        nodeAt vertices edge.src = some advrouter ∧
          nodeAt vertices edge.dest = some linkid ∧ edge.metric = metric

variable {vertices : List Vertex}

theorem nodeAt_append (stands : nodeAt vertices index = some node) (more : List Vertex) :
    nodeAt (vertices ++ more) index = some node := by
  unfold nodeAt at stands ⊢
  rcases Option.map_eq_some_iff.mp stands with ⟨_, found, rfl⟩
  rw [List.getElem?_append_left (List.getElem?_eq_some_iff.mp found).1, found]
  rfl

theorem nodeAt_lt (stands : nodeAt vertices index = some node) : index < vertices.length := by
  rcases Option.map_eq_some_iff.mp stands with ⟨_, found, -⟩
  exact (List.getElem?_eq_some_iff.mp found).1

theorem nodeAt_unique
    (nodup : (vertices.map Vertex.node).Nodup) (here : nodeAt vertices first = some node)
    (there : nodeAt vertices second = some node) : first = second := by
  rw [nodeAt, ← List.getElem?_map] at here there
  have inside := (List.getElem?_eq_some_iff.mp here).1
  exact (List.getElem?_inj inside nodup).mp (here.trans there.symm)

theorem assignIndex_spec (nodup : (vertices.map Vertex.node).Nodup)
    (fresh : ∀ vertex ∈ vertices, vertex.dist = LS_INFINITY ∧ vertex.parent = none)
    (nodeAddr : IPAddress) :
    ∃ more,
      (assignIndex vertices nodeAddr).1 = vertices ++ more ∧
        nodeAt (assignIndex vertices nodeAddr).1 (assignIndex vertices nodeAddr).2 = some nodeAddr ∧
        ((vertices ++ more).map Vertex.node).Nodup ∧
        ∀ vertex ∈ vertices ++ more, vertex.dist = LS_INFINITY ∧ vertex.parent = none := by
  unfold assignIndex
  split
  · case _ index found =>
      refine ⟨[], by simp, ?_, by simpa using nodup, by simpa using fresh⟩
      rcases List.findIdx?_eq_some_iff_getElem.mp found with ⟨_, here, -⟩
      rw [nodeAt, List.getElem?_eq_getElem]
      simpa using here
  · case _ missing =>
      refine ⟨_, rfl, by simp [nodeAt], ?_, ?_⟩
      · have unseen := List.findIdx?_eq_none_iff.mp missing
        rw [List.map_append, List.nodup_append]
        refine ⟨nodup, by simp, ?_⟩
        intro _ listed _ new
        rcases List.mem_map.mp listed with ⟨_, member, rfl⟩
        have different := unseen _ member
        simp only [List.map_cons, List.map_nil, List.mem_singleton] at new
        subst new
        simpa using different
      · intro _ member
        rcases List.mem_append.mp member with old | new
        · exact fresh _ old
        · cases List.mem_singleton.mp new
          exact ⟨rfl, rfl⟩

variable {link : IPAddress → IPAddress → ℚ → Prop} {edges : List Edge}

theorem Built.more {more : List Vertex} (built : Built link vertices edges)
    (nodup : ((vertices ++ more).map Vertex.node).Nodup)
    (fresh : ∀ vertex ∈ vertices ++ more, vertex.dist = LS_INFINITY ∧ vertex.parent = none) :
    Built link (vertices ++ more) edges where
  nodup
  fresh
  sound edge listed := by
    rcases built.sound _ listed with ⟨advrouter, linkid, src, dest, joined⟩
    exact ⟨advrouter, linkid, nodeAt_append src _, nodeAt_append dest _, joined⟩
  complete advrouter linkid metric joined := by
    rcases built.complete _ _ _ joined with ⟨edge, listed, src, dest, same⟩
    exact ⟨edge, listed, nodeAt_append src _, nodeAt_append dest _, same⟩

theorem Built.edge (built : Built link vertices edges) {edge : Edge}
    {advrouter linkid : IPAddress} (src : nodeAt vertices edge.src = some advrouter)
    (dest : nodeAt vertices edge.dest = some linkid) :
    Built
      (fun first second metric =>
        link first second metric ∨ first = advrouter ∧ second = linkid ∧ metric = edge.metric)
      vertices (edges ++ [edge]) where
  nodup := built.nodup
  fresh := built.fresh
  sound other listed := by
    rcases List.mem_append.mp listed with old | new
    · rcases built.sound _ old with ⟨first, second, from_, to_, joined⟩
      exact ⟨first, second, from_, to_, .inl joined⟩
    · cases List.mem_singleton.mp new
      exact ⟨advrouter, linkid, src, dest, .inr ⟨rfl, rfl, rfl⟩⟩
  complete first second metric joined := by
    rcases joined with old | ⟨rfl, rfl, rfl⟩
    · rcases built.complete _ _ _ old with ⟨other, listed, from_, to_, same⟩
      exact ⟨other, List.mem_append_left _ listed, from_, to_, same⟩
    · exact ⟨edge, List.mem_append_right _ (List.mem_singleton.mpr rfl), src, dest, rfl⟩

theorem usable_append (topology : List TELinkStateInfo)
    (link : TELinkStateInfo) (req_bandwidth : ℚ) (priority : Fin 8) :
    usable (topology ++ [link]) req_bandwidth priority =
      fun advrouter linkid metric =>
        usable topology req_bandwidth priority advrouter linkid metric ∨
          link.state = true ∧ req_bandwidth ≤ link.UnResvBandwidth priority ∧
            advrouter = link.advrouter ∧ linkid = link.linkid ∧ metric = link.metric := by
  funext advrouter linkid metric
  simp only [usable, List.mem_append, List.mem_singleton, eq_iff_iff]
  constructor
  · rintro ⟨other, listed | rfl, up, enough, rfl, rfl, rfl⟩
    · exact .inl ⟨other, listed, up, enough, rfl, rfl, rfl⟩
    · exact .inr ⟨up, enough, rfl, rfl, rfl⟩
  · rintro (⟨other, listed, joined⟩ | ⟨up, enough, rfl, rfl, rfl⟩)
    · exact ⟨other, .inl listed, joined⟩
    · exact ⟨link, .inr rfl, up, enough, rfl, rfl, rfl⟩

theorem selectLink_built (built : Built (usable topology req_bandwidth priority) graph.1 graph.2)
    (link : TELinkStateInfo) :
    Built (usable (topology ++ [link]) req_bandwidth priority)
      (selectLink req_bandwidth priority graph link).1
      (selectLink req_bandwidth priority graph link).2 := by
  rw [usable_append]
  unfold selectLink
  split_ifs with down narrow
  · simpa [show link.state = false by simpa using down] using built
  · simpa [not_le.mpr narrow] using built
  · rcases assignIndex_spec built.nodup built.fresh link.advrouter
      with ⟨first, grown, src, nodup, fresh⟩
    have withSrc := built.more nodup fresh
    rw [← grown] at withSrc
    rcases assignIndex_spec withSrc.nodup withSrc.fresh link.linkid
      with ⟨second, grownAgain, dest, nodupAgain, freshAgain⟩
    have withDest := withSrc.more nodupAgain freshAgain
    rw [← grownAgain] at withDest
    have srcStill := nodeAt_append src second
    rw [← grownAgain] at srcStill
    have whole := @Built.edge _ _ _ withDest ⟨_, _, link.metric⟩ _ _ srcStill dest
    have up : link.state = true := by simpa using down
    simpa [up, not_lt.mp narrow] using whole

theorem selected_built (topology : List TELinkStateInfo) (req_bandwidth : ℚ) (priority : Fin 8) :
    Built (usable topology req_bandwidth priority)
      (topology.foldl (selectLink req_bandwidth priority) ([], [])).1
      (topology.foldl (selectLink req_bandwidth priority) ([], [])).2 := by
  induction topology using List.reverseRecOn with
  | nil =>
    exact
      { nodup := List.nodup_nil, fresh := by simp, sound := by simp, complete := by simp [usable] }
  | append_singleton _ _ hypothesis =>
    rw [List.foldl_append]
    exact selectLink_built hypothesis _

/-! ## The rounds -/

/-- The labels in the vector; they mean nothing for other numbers. -/
def labelsOf (vertices : List Vertex) : Labels Nat ℚ where
  distance index := (vertices[index]?.map Vertex.dist).getD LS_INFINITY
  parent index := vertices[index]?.bind Vertex.parent

def triple (edge : Edge) : Nat × Nat × ℚ :=
  (edge.src, edge.dest, edge.metric)

theorem labelsOf_modify (source : vertices[src]? = some from_)
    (target : vertices[dest]? = some to_) (metric : ℚ) :
    labelsOf (vertices.modify dest fun vertex =>
        { vertex with dist := from_.dist + metric, parent := some src }) =
      (labelsOf vertices).lower src dest metric := by
  unfold labelsOf Labels.lower
  congr 1 <;> funext index <;> by_cases same : index = dest
  · subst same
    simp [source, target]
  · rw [List.getElem?_modify_ne _ _ (Ne.symm same)]
    simp [same]
  · subst same
    simp [target]
  · rw [List.getElem?_modify_ne _ _ (Ne.symm same)]
    simp [same]

theorem nodes_modify (vertices : List Vertex) (index : Nat)
    (keeps : ∀ vertex, (change vertex).node = vertex.node) :
    (vertices.modify index change).map Vertex.node = vertices.map Vertex.node := by
  apply List.ext_getElem?
  intro other
  rw [List.getElem?_map, List.getElem?_map, List.getElem?_modify]
  cases vertices[other]? with
  | none => rfl
  | some _ => by_cases same : index = other <;> simp [same, keeps]

/-- What a loop over edges makes of the vector and the flag. -/
structure Relaxed (edges : List (Nat × Nat × ℚ)) (before after : List Vertex × Bool) : Prop where
  nodes : after.1.map Vertex.node = before.1.map Vertex.node
  labels : labelsOf after.1 = (labelsOf before.1).round edges
  untouched : after.2 = false → before.2 = false ∧ after.1 = before.1

/-- The vertices of an edge are in the vector, and they are different. -/
def Inside (count : Nat) (edge : Edge) : Prop :=
  edge.src < count ∧ edge.dest < count ∧ edge.src ≠ edge.dest

theorem relaxEdge_relaxed (inside : Inside current.1.length edge) :
    ∃ next, relaxEdge current edge = .ok next ∧ Relaxed [triple edge] current next := by
  rcases inside with ⟨src, dest, different⟩
  have source := List.getElem?_eq_getElem src
  have target := List.getElem?_eq_getElem dest
  rw [relaxEdge, source, target]
  dsimp only
  rw [if_neg different]
  have from_ : (labelsOf current.1).distance edge.src = current.1[edge.src].dist := by
    dsimp only [labelsOf]
    rw [source]
    rfl
  have to_ : (labelsOf current.1).distance edge.dest = current.1[edge.dest].dist := by
    dsimp only [labelsOf]
    rw [target]
    rfl
  have relaxed : (labelsOf current.1).round [triple edge] =
      (labelsOf current.1).relax (triple edge) :=
    rfl
  rw [Labels.relax, triple, from_, to_] at relaxed
  split_ifs with dear
  · rw [if_pos dear] at relaxed
    exact ⟨current, rfl,
      { nodes := rfl, labels := relaxed.symm, untouched := fun flag => ⟨flag, rfl⟩ }⟩
  · rw [if_neg dear] at relaxed
    exact ⟨_, rfl,
      { nodes := nodes_modify _ _ fun _ => rfl
        labels := (labelsOf_modify source target edge.metric).trans relaxed.symm
        untouched := fun flag => Bool.noConfusion flag }⟩

theorem relaxEdges_relaxed (inside : ∀ edge ∈ edges, Inside current.1.length edge) :
    ∃ next,
      edges.foldlM relaxEdge current = .ok next ∧ Relaxed (edges.map triple) current next := by
  induction edges generalizing current with
  | nil =>
    exact ⟨current, rfl, { nodes := rfl, labels := rfl, untouched := fun flag => ⟨flag, rfl⟩ }⟩
  | cons _ _ hypothesis =>
    rcases relaxEdge_relaxed (inside _ (List.mem_cons_self ..)) with ⟨middle, stepped, relaxed⟩
    have size : middle.1.length = current.1.length := by
      simpa using congrArg List.length relaxed.nodes
    rcases @hypothesis _ (fun edge listed => size ▸ inside _ (List.mem_cons_of_mem _ listed))
      with ⟨next, looped, further⟩
    refine ⟨next, ?_, { nodes := further.nodes.trans relaxed.nodes, labels := ?_, untouched := ?_ }⟩
    · rwa [List.foldlM_cons, stepped]
    · rw [further.labels, relaxed.labels]
      rfl
    · intro flag
      rcases further.untouched flag with ⟨middleFlag, same⟩
      rcases relaxed.untouched middleFlag with ⟨firstFlag, sameFirst⟩
      exact ⟨firstFlag, same.trans sameFirst⟩

theorem relaxRounds_iterate (rounds : Nat) (inside : ∀ edge ∈ edges, Inside vertices.length edge) :
    ∃ last,
      relaxRounds edges rounds vertices = .ok last ∧
        last.map Vertex.node = vertices.map Vertex.node ∧
        labelsOf last = (Labels.round (edges.map triple))^[rounds] (labelsOf vertices) := by
  induction rounds generalizing vertices with
  | zero => exact ⟨vertices, rfl, rfl, rfl⟩
  | succ _ hypothesis =>
    rcases @relaxEdges_relaxed _ (vertices, false) inside with ⟨next, looped, relaxed⟩
    rw [relaxRounds, looped]
    dsimp only [bind, Except.bind]
    split_ifs with modified
    · have size : next.1.length = vertices.length := by
        simpa using congrArg List.length relaxed.nodes
      rcases @hypothesis next.1 (fun edge listed => size ▸ inside _ listed)
        with ⟨last, done, nodes, labels⟩
      refine ⟨last, done, nodes.trans relaxed.nodes, ?_⟩
      rw [labels, relaxed.labels]
      rfl
    · have same := (relaxed.untouched (by simpa using modified)).2
      have fixed := relaxed.labels
      rw [same] at fixed
      refine ⟨next.1, rfl, relaxed.nodes, ?_⟩
      rw [same, Function.iterate_fixed fixed.symm]

/-! ## The least costs -/

/-- The parents in the vector. -/
def parentOf (vertices : List Vertex) (index : Nat) : Option Nat :=
  vertices[index]?.bind Vertex.parent

/-- The vector holds the least costs from the router, and a tree of paths. -/
structure Solved (link : IPAddress → IPAddress → ℚ → Prop) (router : IPAddress)
    (vertices : List Vertex) : Prop where
  nodup : (vertices.map Vertex.node).Nodup
  listed : ∀ node cost, Reaches link router node cost → ∃ vertex ∈ vertices, vertex.node = node
  bounded : ∀ vertex ∈ vertices, vertex.dist ≤ LS_INFINITY
  zero : ∀ vertex ∈ vertices, vertex.node = router → vertex.dist = 0
  least :
    ∀ vertex ∈ vertices, vertex.dist < LS_INFINITY → Shortest link router vertex.node vertex.dist
  lower : ∀ vertex ∈ vertices, ∀ cost, Reaches link router vertex.node cost → vertex.dist ≤ cost
  orphan : ∀ root, nodeAt vertices root = some router → parentOf vertices root = none
  follows :
    ∀ (index : Nat) (vertex : Vertex), vertices[index]? = some vertex →
      vertex.dist < LS_INFINITY →
        ∃ root steps,
          nodeAt vertices root = some router ∧ steps < vertices.length ∧
            Follows (parentOf vertices) root steps index
  parents :
    ∀ (index parent : Nat) (vertex : Vertex),
      vertices[index]? = some vertex → vertex.parent = some parent →
        ∃ (above : Vertex) (cost : ℚ),
          vertices[parent]? = some above ∧ link above.node vertex.node cost ∧
            above.dist + cost = vertex.dist

/-- The edges lead from number to number as the links from node to node. -/
structure Numbered (link : IPAddress → IPAddress → ℚ → Prop)
    (router : IPAddress) (vertices : List Vertex) (edges : List Edge) (root : Nat) : Prop where
  nodup : (vertices.map Vertex.node).Nodup
  rooted : nodeAt vertices root = some router
  sound :
    ∀ edge ∈ edges, ∃ advrouter linkid,
      nodeAt vertices edge.src = some advrouter ∧
        nodeAt vertices edge.dest = some linkid ∧ link advrouter linkid edge.metric
  complete :
    ∀ advrouter linkid metric, link advrouter linkid metric →
      ∃ edge ∈ edges,
        nodeAt vertices edge.src = some advrouter ∧
          nodeAt vertices edge.dest = some linkid ∧ edge.metric = metric

/-- The graph by numbers. -/
def joins (edges : List Edge) (src dest : Nat) (metric : ℚ) : Prop :=
  (src, dest, metric) ∈ edges.map triple

namespace Numbered

variable (numbered : Numbered link router vertices edges root)
include numbered

theorem same (nodes : others.map Vertex.node = vertices.map Vertex.node) :
    Numbered link router others edges root := by
  have nodeAt_same : nodeAt others = nodeAt vertices := by
    funext index
    unfold nodeAt
    rw [← List.getElem?_map, ← List.getElem?_map, nodes]
  exact
    { nodup := nodes ▸ numbered.nodup
      rooted := nodeAt_same ▸ numbered.rooted
      sound := nodeAt_same ▸ numbered.sound
      complete := nodeAt_same ▸ numbered.complete }

theorem joined (edge : joins edges src dest metric) :
    ∃ advrouter linkid,
      nodeAt vertices src = some advrouter ∧
        nodeAt vertices dest = some linkid ∧ link advrouter linkid metric := by
  rcases List.mem_map.mp edge with ⟨_, listed, same⟩
  cases same
  exact numbered.sound _ listed

theorem toNode (reaches : Reaches (joins edges) root index cost) :
    ∃ node, nodeAt vertices index = some node ∧ Reaches link router node cost := by
  induction reaches with
  | root => exact ⟨router, numbered.rooted, .root⟩
  | step _ last hypothesis =>
    rcases hypothesis with ⟨_, here, reaches⟩
    rcases numbered.joined last with ⟨_, linkid, src, dest, joined⟩
    rw [here] at src
    cases src
    exact ⟨linkid, dest, .step reaches joined⟩

theorem toIndex (reaches : Reaches link router node cost) :
    ∃ index, nodeAt vertices index = some node ∧ Reaches (joins edges) root index cost := by
  induction reaches with
  | root => exact ⟨root, numbered.rooted, .root⟩
  | step _ last hypothesis =>
    rcases hypothesis with ⟨_, here, reaches⟩
    rcases numbered.complete _ _ _ last with ⟨edge, listed, src, dest, same⟩
    cases nodeAt_unique numbered.nodup here src
    refine ⟨edge.dest, dest, .step reaches ?_⟩
    rw [← same]
    exact List.mem_map.mpr ⟨edge, listed, rfl⟩

theorem solved (labelled : Labelled (joins edges) root LS_INFINITY (labelsOf vertices))
    (settled : Settled (joins edges) (labelsOf vertices)) : Solved link router vertices := by
  have distance : ∀ (index : Nat) (vertex : Vertex), vertices[index]? = some vertex →
      (labelsOf vertices).distance index = vertex.dist := by
    intro _ _ stands
    dsimp only [labelsOf]
    rw [stands]
    rfl
  have inside : ∀ steps index,
      Follows (parentOf vertices) root steps index → index ∈ List.range vertices.length := by
    intro _ _ follows
    rw [List.mem_range]
    cases follows with
    | root => exact nodeAt_lt numbered.rooted
    | step child _ =>
      rcases Option.bind_eq_some_iff.mp child with ⟨vertex, stands, -⟩
      exact (List.getElem?_eq_some_iff.mp stands).1
  have onlyRoot : ∀ index, nodeAt vertices index = some router → index = root :=
    fun index here => nodeAt_unique numbered.nodup here numbered.rooted
  refine
    { nodup := numbered.nodup
      listed := ?_
      bounded := ?_
      zero := ?_
      least := ?_
      lower := ?_
      orphan := ?_
      follows := ?_
      parents := ?_ }
  · intro _ _ reaches
    rcases numbered.toIndex reaches with ⟨index, here, -⟩
    rcases Option.map_eq_some_iff.mp here with ⟨vertex, stands, same⟩
    exact ⟨vertex, List.mem_of_getElem? stands, same⟩
  · intro _ member
    rcases List.mem_iff_getElem?.mp member with ⟨index, stands⟩
    rw [← distance _ _ stands]
    exact labelled.bounded _
  · intro vertex member node
    subst node
    rcases List.mem_iff_getElem?.mp member with ⟨index, stands⟩
    have here : nodeAt vertices index = some vertex.node := by
      rw [nodeAt, stands]
      rfl
    rw [← distance _ _ stands, onlyRoot _ here]
    exact labelled.zero
  · intro vertex member finite
    rcases List.mem_iff_getElem?.mp member with ⟨index, stands⟩
    rw [← distance _ _ stands] at finite ⊢
    rcases labelled.shortest settled finite with ⟨reaches, least⟩
    have here : nodeAt vertices index = some vertex.node := by
      rw [nodeAt, stands]
      rfl
    refine ⟨?_, ?_⟩
    · rcases numbered.toNode reaches with ⟨_, there, path⟩
      rw [here] at there
      cases there
      exact path
    · intro other path
      rcases numbered.toIndex path with ⟨_, there, reaches⟩
      cases nodeAt_unique numbered.nodup here there
      exact least other reaches
  · intro vertex member _ path
    rcases List.mem_iff_getElem?.mp member with ⟨index, stands⟩
    have here : nodeAt vertices index = some vertex.node := by
      rw [nodeAt, stands]
      rfl
    rcases numbered.toIndex path with ⟨_, there, reaches⟩
    cases nodeAt_unique numbered.nodup here there
    rw [← distance index vertex stands]
    exact labelled.least settled reaches
  · intro index here
    cases onlyRoot index here
    exact labelled.orphan
  · intro index vertex stands finite
    rw [← distance index vertex stands] at finite
    rcases labelled.follows index finite with ⟨steps, follows⟩
    have short := Follows.steps_lt labelled.orphan inside follows
    rw [List.length_range] at short
    exact ⟨root, steps, numbered.rooted, short, follows⟩
  · intro index parent vertex stands child
    have parents : (labelsOf vertices).parent index = some parent := by
      dsimp only [labelsOf]
      rwa [stands]
    rcases labelled.parent_exact settled parents with ⟨cost, edge, exact⟩
    rcases numbered.joined edge with ⟨_, _, src, dest, joined⟩
    rcases Option.map_eq_some_iff.mp src with ⟨above, standsAbove, rfl⟩
    rcases Option.map_eq_some_iff.mp dest with ⟨_, standsAgain, rfl⟩
    rw [stands] at standsAgain
    cases standsAgain
    rw [distance index vertex stands, distance parent above standsAbove] at exact
    exact ⟨above, cost, standsAbove, joined, exact⟩

end Numbered

theorem Numbered.inside (numbered : Numbered link router vertices edges root)
    (distinct : ∀ first second metric, link first second metric → first ≠ second) :
    ∀ edge ∈ edges, Inside vertices.length edge := by
  intro _ listed
  rcases numbered.sound _ listed with ⟨_, _, src, dest, joined⟩
  refine ⟨nodeAt_lt src, nodeAt_lt dest, ?_⟩
  intro same
  rw [same, dest] at src
  cases src
  exact distinct _ _ _ joined rfl

/-- The router gets the cost zero, and no other vertex has one yet. -/
theorem started_labelled
    (fresh : ∀ vertex ∈ vertices, vertex.dist = LS_INFINITY ∧ vertex.parent = none)
    (inside : root < vertices.length) (edge : Nat → Nat → ℚ → Prop) :
    Labelled edge root LS_INFINITY
      (labelsOf (vertices.modify root fun vertex => { vertex with dist := 0 })) := by
  refine Labelled.initial LS_INFINITY_pos.le ?_ ?_ ?_
  · simp [labelsOf, inside]
  · intro index different
    dsimp only [labelsOf]
    rw [List.getElem?_modify_ne _ _ (Ne.symm different)]
    cases stands : vertices[index]? with
    | none => rfl
    | some _ => exact (fresh _ (List.mem_of_getElem? stands)).1
  · intro index
    dsimp only [labelsOf]
    rw [List.getElem?_modify]
    cases stands : vertices[index]? with
    | none => rfl
    | some _ =>
      have orphan := (fresh _ (List.mem_of_getElem? stands)).2
      by_cases same : root = index <;> simp [same, orphan]

theorem calculateShortestPaths_solved (routerId : IPAddress) {topology : List TELinkStateInfo}
    (distinct : ∀ link ∈ topology, link.advrouter ≠ link.linkid)
    (nonneg : ∀ link ∈ topology, 0 ≤ link.metric) (req_bandwidth : ℚ) (priority : Fin 8) :
    ∃ vertices,
      calculateShortestPaths routerId topology req_bandwidth priority = .ok vertices ∧
        Solved (usable topology req_bandwidth priority) routerId vertices := by
  have selected := selected_built topology req_bandwidth priority
  unfold calculateShortestPaths
  generalize topology.foldl (selectLink req_bandwidth priority) ([], []) = graph at selected
  dsimp only
  rcases assignIndex_spec selected.nodup selected.fresh _ with ⟨_, grown, rooted, nodup, fresh⟩
  have built := selected.more nodup fresh
  rw [← grown] at built fresh
  generalize assignIndex graph.1 routerId = withSrc at *
  have numbered : Numbered (usable topology req_bandwidth priority) routerId
      withSrc.1 graph.2 withSrc.2 :=
    { nodup := built.nodup, rooted, sound := built.sound, complete := built.complete }
  have started := started_labelled fresh (nodeAt_lt rooted) (joins graph.2)
  have startedNumbered := numbered.same
    (nodes_modify withSrc.1 withSrc.2
      (fun vertex => (rfl : ({ vertex with dist := 0 } : Vertex).node = _)))
  generalize withSrc.1.modify withSrc.2 (fun vertex => { vertex with dist := 0 }) = vertices at *
  have inside := startedNumbered.inside (by
    rintro _ _ _ ⟨link, member, -, -, rfl, rfl, -⟩
    exact distinct _ member)
  have metrics : ∀ edge ∈ graph.2.map triple, 0 ≤ edge.2.2 := by
    intro _ listed
    rcases List.mem_map.mp listed with ⟨member, selectedEdge, rfl⟩
    rcases startedNumbered.sound _ selectedEdge with ⟨_, _, _, _, _, linked, -, -, -, -, same⟩
    rw [triple, ← same]
    exact nonneg _ linked
  rcases relaxRounds_iterate _ inside with ⟨last, done, nodes, labels⟩
  refine ⟨last, done, (startedNumbered.same nodes).solved ?_ ?_⟩
  · rw [labels]
    exact started.rounds (fun _ _ _ edge => metrics _ edge) (fun _ listed => listed) _
  · rw [labels]
    refine settled_rounds started metrics (List.mem_range.mpr (nodeAt_lt startedNumbered.rooted)) ?_
      (by rw [List.length_range]; omega)
    intro _ listed
    rcases List.mem_map.mp listed with ⟨member, selectedEdge, rfl⟩
    exact List.mem_range.mpr (inside member selectedEdge).2.1

/-! ## The path to the nearest destination -/

/-- The links between the nodes of a list, and the sum of their metrics. -/
inductive Walk (link : IPAddress → IPAddress → ℚ → Prop) : List IPAddress → ℚ → Prop where
  | here (node : IPAddress) : Walk link [node] 0
  | step {node next : IPAddress} {rest : List IPAddress} {cost total : ℚ}
      (first : link node next cost) (further : Walk link (next :: rest) total) :
      Walk link (node :: next :: rest) (cost + total)

theorem followParents_walk (solved : Solved link router vertices)
    (rooted : nodeAt vertices root = some router)
    (follows : Follows (parentOf vertices) root steps index)
    (stands : vertices[index]? = some vertex) (walk : Walk link (vertex.node :: result) total)
    (enough : steps < fuel) :
    ∃ path,
      followParents vertices fuel index result = .ok (router :: path) ∧
        Walk link (router :: path) (vertex.dist + total) ∧
        (router :: path).getLast? = (vertex.node :: result).getLast? := by
  induction follows generalizing vertex result total fuel with
  | root =>
    cases fuel with
    | zero => cases enough
    | succ _ =>
      have node : vertex.node = router := by
        rw [nodeAt, stands] at rooted
        exact Option.some.inj rooted
      have orphan : vertex.parent = none := by
        have none := solved.orphan _ rooted
        rwa [parentOf, stands] at none
      have zero := solved.zero _ (List.mem_of_getElem? stands) node
      refine ⟨result, ?_, ?_, by rw [node]⟩
      · rw [followParents, stands]
        dsimp only
        rw [orphan, node]
      · rwa [zero, zero_add, ← node]
  | @step steps index parent child further hypothesis =>
    cases fuel with
    | zero => cases enough
    | succ _ =>
      have parents : vertex.parent = some parent := by
        rwa [parentOf, stands] at child
      rcases solved.parents _ _ _ stands parents with ⟨_, _, standsAbove, joined, exact⟩
      rcases hypothesis standsAbove (.step joined walk)
        (Nat.lt_of_succ_lt_succ enough) with ⟨path, done, longer, last⟩
      refine ⟨path, ?_, ?_, ?_⟩
      · rw [followParents, stands]
        dsimp only
        rwa [parents]
      · rwa [← exact, add_assoc]
      · rw [last, List.getLast?_cons_cons]

/--
The loop keeps the earlier choice, or it takes the nearest of the vertices
from the index on.
-/
def Chosen (dest : List IPAddress) (rest : List Vertex) (index : Nat)
    (minDist : ℚ) (minIndex chosen : Option Nat) : Prop :=
  chosen = minIndex ∧ (∀ vertex ∈ rest, vertex.node ∈ dest → minDist ≤ vertex.dist) ∨
    ∃ (offset : Nat) (nearest : Vertex),
      chosen = some (index + offset) ∧ rest[offset]? = some nearest ∧
        nearest.node ∈ dest ∧ nearest.dist < minDist ∧
        ∀ vertex ∈ rest, vertex.node ∈ dest → nearest.dist ≤ vertex.dist

namespace Chosen

theorem skip (later : Chosen dest rest (index + 1) minDist minIndex chosen)
    (worse : first.node ∈ dest → minDist ≤ first.dist) :
    Chosen dest (first :: rest) index minDist minIndex chosen := by
  rcases later with ⟨kept, others⟩ | ⟨offset, nearest, taken, stands, inDest, below, others⟩
  · refine .inl ⟨kept, ?_⟩
    intro _ member listed
    rcases List.mem_cons.mp member with rfl | member
    · exact worse listed
    · exact others _ member listed
  · refine .inr ⟨offset + 1, nearest, ?_, stands, inDest, below, ?_⟩
    · rw [taken]
      congr 1
      omega
    · intro _ member listed
      rcases List.mem_cons.mp member with rfl | member
      · exact below.le.trans (worse listed)
      · exact others _ member listed

theorem take (later : Chosen dest rest (index + 1) first.dist (some index) chosen)
    (listed : first.node ∈ dest) (nearer : first.dist < minDist) :
    Chosen dest (first :: rest) index minDist minIndex chosen := by
  rcases later with ⟨kept, others⟩ | ⟨offset, nearest, taken, stands, inDest, below, others⟩
  · refine .inr ⟨0, first, kept, rfl, listed, nearer, ?_⟩
    intro _ member inDest
    rcases List.mem_cons.mp member with rfl | member
    · exact le_rfl
    · exact others _ member inDest
  · refine .inr ⟨offset + 1, nearest, ?_, stands, inDest, below.trans nearer, ?_⟩
    · rw [taken]
      congr 1
      omega
    · intro _ member inDest
      rcases List.mem_cons.mp member with rfl | member
      · exact below.le
      · exact others _ member inDest

end Chosen

theorem nearestFrom_chosen (dest : List IPAddress) (rest : List Vertex)
    (index : Nat) (minDist : ℚ) (minIndex : Option Nat) :
    Chosen dest rest index minDist minIndex (nearestFrom dest rest index minDist minIndex) := by
  induction rest generalizing index minDist minIndex with
  | nil => exact .inl ⟨rfl, by simp⟩
  | cons first _ hypothesis =>
    unfold nearestFrom
    by_cases far : first.dist ≥ minDist
    · rw [if_pos far]
      exact (hypothesis _ _ _).skip fun _ => far
    · rw [if_neg far]
      by_cases elsewhere : first.node ∉ dest
      · rw [if_pos elsewhere]
        exact (hypothesis _ _ _).skip fun listed => absurd listed elsewhere
      · rw [if_neg elsewhere]
        exact (hypothesis _ _ _).take (not_not.mp elsewhere) (not_le.mp far)

/-- A path of least cost to the nearest destination, or no path. -/
structure NearestPath (link : IPAddress → IPAddress → ℚ → Prop)
    (router : IPAddress) (dest result : List IPAddress) : Prop where
  empty_iff :
    result = [] ↔ ∀ node ∈ dest, ∀ cost, Reaches link router node cost → LS_INFINITY ≤ cost
  path :
    result ≠ [] →
      ∃ node ∈ dest, ∃ cost,
        result.head? = some router ∧ result.getLast? = some node ∧
          Walk link result cost ∧ Shortest link router node cost ∧
          ∀ other ∈ dest, ∀ paid, Reaches link router other paid → cost ≤ paid

theorem Solved.nearestPath (solved : Solved link router vertices) (dest : List IPAddress) :
    ∃ result,
      (match nearestFrom dest vertices 0 LS_INFINITY none with
        | none => Except.ok []
        | some minIndex => followParents vertices vertices.length minIndex []) =
          .ok result ∧
        NearestPath link router dest result := by
  rcases nearestFrom_chosen _ _ 0 _ _
    with ⟨none, others⟩ | ⟨index, nearest, some, stands, inDest, below, others⟩
  · rw [none]
    refine ⟨[], rfl, ⟨⟨fun _ => ?_, fun _ => rfl⟩, fun wrong => ?_⟩⟩
    · intro _ listed _ reaches
      rcases solved.listed _ _ reaches with ⟨vertex, member, rfl⟩
      exact (others _ member listed).trans (solved.lower _ member _ reaches)
    · exact absurd rfl wrong
  · rw [some, Nat.zero_add]
    have member := List.mem_of_getElem? stands
    rcases solved.follows _ _ stands below with ⟨_, _, rooted, short, follows⟩
    rcases followParents_walk solved rooted follows stands (.here _) short
      with ⟨path, done, walk, last⟩
    have shortest := solved.least nearest member below
    rw [add_zero] at walk
    refine ⟨router :: path, done, ⟨⟨fun wrong => ?_, fun unreachable => ?_⟩, fun _ => ?_⟩⟩
    · cases wrong
    · exact absurd (unreachable nearest.node inDest nearest.dist shortest.1) (not_le.mpr below)
    · refine ⟨nearest.node, inDest, nearest.dist, rfl, last, walk, shortest, ?_⟩
      intro other listed paid reaches
      rcases solved.listed other paid reaches with ⟨vertex, there, rfl⟩
      exact (others vertex there listed).trans (solved.lower vertex there paid reaches)

/--
The costs below `LS_INFINITY` are the least sums of metrics, the parents lead
to the router, and the path to the nearest destination is a shortest one.
-/
theorem constrained_shortest_paths (routerId : IPAddress) (topology : List TELinkStateInfo)
    (distinct : ∀ link ∈ topology, link.advrouter ≠ link.linkid)
    (nonneg : ∀ link ∈ topology, 0 ≤ link.metric) (req_bandwidth : ℚ) (priority : Fin 8) :
    (∃ vertices,
      calculateShortestPaths routerId topology req_bandwidth priority = .ok vertices ∧
        Solved (usable topology req_bandwidth priority) routerId vertices) ∧
      ∀ dest, ∃ result,
        calculateShortestPath routerId dest topology req_bandwidth priority = .ok result ∧
          NearestPath (usable topology req_bandwidth priority) routerId dest result := by
  rcases calculateShortestPaths_solved _ distinct nonneg _ _ with ⟨vertices, done, solved⟩
  refine ⟨⟨vertices, done, solved⟩, ?_⟩
  intro _
  rcases solved.nearestPath _ with ⟨result, chosen, nearest⟩
  refine ⟨result, ?_, nearest⟩
  rwa [calculateShortestPath, done]

/-! ## Two topologies -/

def linkTo (advrouter linkid : Nat) (metric : ℚ) : TELinkStateInfo where
  advrouter := ⟨BitVec.ofNat 32 advrouter⟩
  linkid := ⟨BitVec.ofNat 32 linkid⟩
  metric
  UnResvBandwidth _ := 100
  state := true

theorem constrained_shortest_paths_small :
    (∃ vertices,
      calculateShortestPaths ⟨1⟩ [linkTo 1 2 5, linkTo 2 3 7] 10 0 = .ok vertices ∧
        Solved (usable [linkTo 1 2 5, linkTo 2 3 7] 10 0) ⟨1⟩ vertices) ∧
      ∀ dest, ∃ result,
        calculateShortestPath ⟨1⟩ dest [linkTo 1 2 5, linkTo 2 3 7] 10 0 = .ok result ∧
          NearestPath (usable [linkTo 1 2 5, linkTo 2 3 7] 10 0) ⟨1⟩ dest result :=
  constrained_shortest_paths ⟨1⟩ [linkTo 1 2 5, linkTo 2 3 7] (by simp [linkTo]) (by decide) 10 0

theorem usable_only {link : TELinkStateInfo}
    (joined : usable [link] req_bandwidth priority advrouter linkid metric) :
    link.advrouter = advrouter ∧ link.linkid = linkid ∧ link.metric = metric := by
  rcases joined with ⟨_, member, -, -, same⟩
  cases List.mem_singleton.mp member
  exact same

/-- The only link to a node costs twice what stands for infinity. -/
theorem infinity_too_small :
    ¬∀ (routerId : IPAddress) (topology : List TELinkStateInfo),
      (∀ link ∈ topology, link.advrouter ≠ link.linkid) →
        (∀ link ∈ topology, 0 ≤ link.metric) →
          ∀ (req_bandwidth : ℚ) (priority : Fin 8) (vertices : List Vertex),
            calculateShortestPaths routerId topology req_bandwidth priority = .ok vertices →
              ∀ vertex ∈ vertices, ∀ cost,
                Shortest (usable topology req_bandwidth priority) routerId vertex.node cost →
                  vertex.dist = cost := by
  intro claim
  have twice : 0 ≤ 2 * LS_INFINITY := mul_nonneg (by decide) LS_INFINITY_pos.le
  let link := linkTo 1 2 (2 * LS_INFINITY)
  rcases @calculateShortestPaths_solved ⟨1⟩ [link] (by simp [link, linkTo])
    (by simpa [link, linkTo] using twice) 10 0 with ⟨vertices, done, solved⟩
  have path : Reaches (usable [link] 10 0) ⟨1⟩ ⟨2⟩ (0 + 2 * LS_INFINITY) :=
    .step .root ⟨link, List.mem_singleton.mpr rfl, rfl, by decide, rfl, rfl, rfl⟩
  have least : ∀ cost, Reaches (usable [link] 10 0) ⟨1⟩ ⟨2⟩ cost → 0 + 2 * LS_INFINITY ≤ cost := by
    intro _ reaches
    cases reaches with
    | step before last =>
      have metric := (usable_only last).2.2
      have nonneg := reaches_nonneg (fun _ _ _ joined => by
        rw [← (usable_only joined).2.2]
        exact twice) before
      rw [← metric]
      exact add_le_add nonneg le_rfl
  rcases solved.listed _ _ path with ⟨_, member, node⟩
  have dist := claim ⟨1⟩ [link] (by simp [link, linkTo])
    (by simpa [link, linkTo] using twice) 10 0 _ done _ member
    _ (by rw [node]; exact ⟨path, least⟩)
  have bounded := solved.bounded _ member
  rw [dist, zero_add, two_mul] at bounded
  exact absurd bounded (not_le.mpr (lt_add_of_pos_left _ LS_INFINITY_pos))

end OmnetDsi.Ted.ConstrainedPaths
