import OmnetDsi.Autorouting.NetworkConfigurator

/-!
# What `extractTopology` finds in a fat tree

The loops of `extractTopology` work on node indices and rely on the order of
the nodes.  Here each of them is followed on a fat tree, and the result is
stated node by node: every node gets its role, the number of its pod, and its
switch and host numbers (`extractTopology_index`).
-/

namespace OmnetDsi.Autorouting.ExtractedTopology

open Autorouting.FatTrees Autorouting.NetworkConfigurator Function List

variable {h : Nat}

/-! ## The numbers of a node -/

def podNumber : Node h → Int
  | .core _ _ => 2 * h + 1
  | .aggregate pod _ => pod.val + 1
  | .edge pod _ => pod.val + 1
  | .host pod _ _ => pod.val + 1
  | .controller => 2 * h + 2

/-- The links of an edge switch that lead to hosts, in their order. -/
def hostLinks (tree : FatTree h) (pod : Fin (2 * h)) (position : Fin h) : List Nat :=
  (tree.topo.links (tree.index (.edge pod position))).filter fun k =>
    (tree.topo.links k).length == 1

def switchNumber (tree : FatTree h) : Node h → Nat
  | .host pod position _ => tree.index (.edge pod position) + 1
  | .controller => 0
  | node => tree.index node + 1

/-- Hosts are counted from one, in the order of the edge switch's links. -/
def hostNumber (tree : FatTree h) : Node h → Nat
  | .host pod position slot =>
    (hostLinks tree pod position).idxOf (tree.index (.host pod position slot)) + 1
  | _ => 0

/-- What the configurator knows about a node in the end. -/
def extracted (tree : FatTree h) (node : Node h) : NodeInfo where
  isIPNode := true
  isCore := node.isCore
  isAggre := node.isAggregate
  isEdge := node.isEdge
  isRouter := !node.isHost
  isHost := node.isHost
  isController := node.isController
  podId := podNumber node
  switchId := switchNumber tree node
  hostId := hostNumber tree node
  usesDefaultRoute := node.isHost

/-! ## The blocks of the node order -/

variable {node : Node h}

section Order

variable (tree : FatTree h)

theorem aggregate_block (pod : Fin (2 * h)) (position : Fin h) :
    h * h ≤ tree.index (.aggregate pod position) ∧
      tree.index (.aggregate pod position) < 3 * (h * h) := by
  have range := tree.aggregate pod position
  have block := pod_block pod
  omega

theorem edge_block (pod : Fin (2 * h)) (position : Fin h) :
    3 * (h * h) ≤ tree.index (.edge pod position) ∧
      tree.index (.edge pod position) < 5 * (h * h) := by
  have range := tree.edge pod position
  have block := pod_block pod
  omega

theorem index_controller_succ : tree.index .controller + 1 = tree.topo.numNodes := by
  rw [tree.controller, tree.numNodes]

theorem index_lt_controller (other : node ≠ .controller) :
    tree.index node < tree.index .controller := by
  have bound := tree.index_lt node
  have last := index_controller_succ tree
  have distinct : tree.index node ≠ tree.index .controller :=
    fun same => other (tree.injective same)
  omega

end Order

/-! ## Counting interfaces -/

theorem neighbours_length (node : Node h) : ((neighbours node).length == 1) = node.isHost := by
  cases node with
  | core group _ =>
    have positive := Nat.zero_lt_of_lt group.isLt
    simp [neighbours, Node.isHost]
    omega
  | aggregate _ position =>
    have positive := Nat.zero_lt_of_lt position.isLt
    simp [neighbours, Node.isHost]
    omega
  | edge _ position =>
    have positive := Nat.zero_lt_of_lt position.isLt
    simp [neighbours, Node.isHost]
    omega
  | host _ _ _ => rfl
  | controller =>
    have count : (neighbours (.controller : Node h)).length = 5 * (h * h) := by
      simp [neighbours, cores, aggregates, edges, length_flatMap]
      ring
    show ((neighbours (.controller : Node h)).length == 1) = false
    rw [count, beq_eq_false_iff_ne]
    omega

theorem links_length_host (tree : FatTree h) (node : Node h) :
    ((tree.topo.links (tree.index node)).length == 1) = node.isHost := by
  rw [tree.links_length, neighbours_length]

/-- What the first loop knows about a node. -/
def counted (tree : FatTree h) (unset : Indeterminate) (node : Node h) : NodeInfo where
  isIPNode := true
  isRouter := !node.isHost
  isHost := node.isHost
  isController := node.isController
  podId := unset.podId (tree.index node)
  switchId := unset.switchId (tree.index node)
  usesDefaultRoute := node.isHost

theorem isController_index (tree : FatTree h) (node : Node h) :
    (tree.index node + 1 == tree.topo.numNodes) = node.isController := by
  have last := index_controller_succ tree
  by_cases controller : node = .controller
  · subst controller
    simp [last, Node.isController]
  · have before := index_lt_controller tree controller
    have role : node.isController = false := by
      cases node <;> simp_all [Node.isController]
    rw [role, beq_eq_false_iff_ne]
    omega

theorem countInterfaces_index (tree : FatTree h) (unset : Indeterminate) (node : Node h) :
    countInterfaces tree.topo unset (tree.index node) = counted tree unset node := by
  have host := links_length_host tree node
  have other : ((tree.topo.links (tree.index node)).length != 1) = !node.isHost := by
    rw [← host]
    rfl
  simp only [countInterfaces, counted, host, other, isController_index, tree.hasRoutingTable]

/-! ## Roles -/

/-- What node `own` learns from a neighbour that `other` describes. -/
def learn (other own : NodeInfo) : NodeInfo :=
  let own := if other.isHost then { own with isEdge := true } else own
  let own := if other.isEdge && !own.isHost then { own with isAggre := true } else own
  if other.isAggre && !own.isEdge then { own with isCore := true } else own

variable {nodeInfo : NodeInfoVector}

theorem modifyInfo_of_ne (distinct : k ≠ i) (change : NodeInfo → NodeInfo) :
    modifyInfo nodeInfo i change k = nodeInfo k :=
  update_of_ne distinct _ _

theorem modifyInfo_self (nodeInfo : NodeInfoVector) (i : Nat) (change : NodeInfo → NodeInfo) :
    modifyInfo nodeInfo i change i = change (nodeInfo i) :=
  update_self _ _ _

theorem modifyInfo_unchanged
    {change : NodeInfo → NodeInfo} (same : change (nodeInfo i) = nodeInfo i) :
    modifyInfo nodeInfo i change = nodeInfo := by
  rw [modifyInfo, same]
  exact update_eq_self i _

theorem modifyInfo_ite (condition : Prop) [Decidable condition]
    (nodeInfo : NodeInfoVector) (i : Nat) (change : NodeInfo → NodeInfo) :
    (if condition then modifyInfo nodeInfo i change else nodeInfo) =
      update nodeInfo i (if condition then change (nodeInfo i) else nodeInfo i) := by
  by_cases holds : condition
  · rw [if_pos holds, if_pos holds]
    rfl
  · rw [if_neg holds, if_neg holds, update_eq_self]

theorem learnRole_of_ne (nodeInfo : NodeInfoVector) (distinct : k ≠ i) :
    learnRole i nodeInfo k = update nodeInfo i (learn (nodeInfo k) (nodeInfo i)) := by
  simp only [learnRole, modifyInfo_ite, update_of_ne distinct, update_self, update_idem]
  rfl

/-- The loop over the neighbours changes only the entry of the node. -/
theorem foldl_learnRole (ks : List Nat) (nodeInfo : NodeInfoVector) (others : i ∉ ks) :
    ks.foldl (learnRole i) nodeInfo =
      update nodeInfo i (ks.foldl (fun own k => learn (nodeInfo k) own) (nodeInfo i)) := by
  induction ks generalizing nodeInfo with
  | nil => simp
  | cons k rest induction =>
    have distinct : k ≠ i := fun same => others (same ▸ mem_cons_self)
    have fresh : i ∉ rest := fun member => others (mem_cons_of_mem k member)
    rw [foldl_cons, learnRole_of_ne _ distinct,
      induction _ fresh, update_idem, update_self, foldl_cons]
    congr 1
    refine foldl_ext _ _ _ ?_
    intro _ other member
    have apart : other ≠ i := fun same => fresh (same ▸ member)
    rw [update_of_ne apart]

/--
A fold whose steps leave the start as it is or lead to the target, where
they stay, ends in the target if one step leads there.
-/
theorem foldl_settles {target : α}
    {ks : List β} (either : ∀ k ∈ ks, f start k = start ∨ f start k = target)
    (stays : ∀ k ∈ ks, f target k = target)
    (reached : ∃ k ∈ ks, f start k = target) : ks.foldl f start = target := by
  have remains (rest : List β) (within : ∀ k ∈ rest, k ∈ ks) : rest.foldl f target = target := by
    induction rest with
    | nil => rfl
    | cons k _ induction =>
      rw [foldl_cons, stays k (within k mem_cons_self)]
      exact induction fun other member => within _ (mem_cons_of_mem k member)
  induction ks with
  | nil =>
    rcases reached with ⟨k, member, _⟩
    contradiction
  | cons k _ induction =>
    rw [foldl_cons]
    by_cases now : f start k = target
    · rw [now]
      exact remains _ fun other member => mem_cons_of_mem k member
    · have kept : f start k = start := (either k mem_cons_self).resolve_right now
      rw [kept]
      refine induction (fun other member => either _ (mem_cons_of_mem k member))
        (fun other member => stays _ (mem_cons_of_mem k member)) ?_ ?_
      · rcases reached with ⟨other, member, leads⟩
        rcases mem_cons.mp member with rfl | later
        · exact absurd leads now
        · exact ⟨other, later, leads⟩
      · intro _ within
        exact remains _ fun other member => mem_cons_of_mem k (within other member)

/-- A node with the role that its place in the tree gives it. -/
def withRole (node : Node h) (info : NodeInfo) : NodeInfo :=
  { info with isCore := node.isCore, isAggre := node.isAggregate, isEdge := node.isEdge }

/-- The nodes from index `m` on know their roles, the others do not. -/
def RolesFrom (tree : FatTree h) (unset : Indeterminate) (m : Nat)
    (nodeInfo : NodeInfoVector) : Prop :=
  ∀ node, nodeInfo (tree.index node) =
    if m ≤ tree.index node then withRole node (counted tree unset node) else counted tree unset node

theorem foldl_learn_settles (tree : FatTree h) {start target : NodeInfo}
    (neighbour : ∀ other ∈ neighbours node, ∃ info, nodeInfo (tree.index other) = info ∧
      (learn info start = start ∨ learn info start = target) ∧ learn info target = target)
    (reached : ∃ other ∈ neighbours node, learn (nodeInfo (tree.index other)) start = target) :
    (tree.topo.links (tree.index node)).foldl
      (fun own k => learn (nodeInfo k) own) start = target := by
  apply foldl_settles
  · intro _ member
    rcases tree.mem_links.mp member with ⟨other, linked, rfl⟩
    rcases neighbour _ linked with ⟨_, rfl, either, _⟩
    exact either
  · intro _ member
    rcases tree.mem_links.mp member with ⟨other, linked, rfl⟩
    rcases neighbour _ linked with ⟨_, rfl, _, stays⟩
    exact stays
  · rcases reached with ⟨_, linked, leads⟩
    exact ⟨tree.index _, tree.index_mem_links.mpr linked, leads⟩

section Learning

variable {tree : FatTree h} {unset : Indeterminate} {nodeInfo : NodeInfoVector}

theorem controller_counted (roles : RolesFrom tree unset m nodeInfo) :
    nodeInfo (tree.index .controller) = counted tree unset .controller := by
  rw [roles]
  split
  all_goals rfl

theorem edge_learns (roles : RolesFrom tree unset (tree.index (.edge pod position) + 1) nodeInfo) :
    (tree.topo.links (tree.index (.edge pod position))).foldl (fun own k => learn (nodeInfo k) own)
        (counted tree unset (.edge pod position)) =
      withRole (.edge pod position) (counted tree unset (.edge pod position)) := by
  have here := edge_block tree pod position
  have above (other : Fin h) :
      nodeInfo (tree.index (.aggregate pod other)) = counted tree unset (.aggregate pod other) := by
    have block := aggregate_block tree pod other
    rw [roles, if_neg (by omega)]
  have below (slot : Fin h) :
      nodeInfo (tree.index (.host pod position slot)) =
        withRole (.host pod position slot) (counted tree unset (.host pod position slot)) := by
    have block := tree.host pod position slot
    rw [roles, if_pos (by omega)]
  have last := controller_counted roles
  apply foldl_learn_settles
  · intro _ linked
    rcases mem_neighbours_edge.mp linked with ⟨_, rfl⟩ | ⟨_, rfl⟩ | rfl
    · exact ⟨_, above _, .inl rfl, rfl⟩
    · exact ⟨_, below _, .inr rfl, rfl⟩
    · exact ⟨_, last, .inl rfl, rfl⟩
  · refine ⟨.host pod position position, ?_, ?_⟩
    · simp [neighbours]
    · rw [below _]
      rfl

/-- An aggregate switch learns its role from the edge switches below it. -/
theorem aggregate_learns
    (roles : RolesFrom tree unset (tree.index (.aggregate pod position) + 1) nodeInfo) :
    (tree.topo.links (tree.index (.aggregate pod position))).foldl
        (fun own k => learn (nodeInfo k) own) (counted tree unset (.aggregate pod position)) =
      withRole (.aggregate pod position) (counted tree unset (.aggregate pod position)) := by
  have here := aggregate_block tree pod position
  have above (member : Fin h) :
      nodeInfo (tree.index (.core position member)) =
        counted tree unset (.core position member) := by
    have block := tree.core position member
    rw [roles, if_neg (by omega)]
  have below (other : Fin h) :
      nodeInfo (tree.index (.edge pod other)) =
        withRole (.edge pod other) (counted tree unset (.edge pod other)) := by
    have block := edge_block tree pod other
    rw [roles, if_pos (by omega)]
  have last := controller_counted roles
  apply foldl_learn_settles
  · intro _ linked
    rcases mem_neighbours_aggregate.mp linked with ⟨_, rfl⟩ | ⟨_, rfl⟩ | rfl
    · exact ⟨_, above _, .inl rfl, rfl⟩
    · exact ⟨_, below _, .inr rfl, rfl⟩
    · exact ⟨_, last, .inl rfl, rfl⟩
  · refine ⟨.edge pod position, ?_, ?_⟩
    · simp [neighbours]
    · rw [below]
      rfl

theorem core_learns (roles : RolesFrom tree unset (tree.index (.core group member) + 1) nodeInfo) :
    (tree.topo.links (tree.index (.core group member))).foldl (fun own k => learn (nodeInfo k) own)
        (counted tree unset (.core group member)) =
      withRole (.core group member) (counted tree unset (.core group member)) := by
  have here := tree.core group member
  have below (pod : Fin (2 * h)) :
      nodeInfo (tree.index (.aggregate pod group)) =
        withRole (.aggregate pod group) (counted tree unset (.aggregate pod group)) := by
    have block := aggregate_block tree pod group
    rw [roles, if_pos (by omega)]
  have last := controller_counted roles
  apply foldl_learn_settles
  · intro _ linked
    rcases mem_neighbours_core.mp linked with ⟨_, rfl⟩ | rfl
    · exact ⟨_, below _, .inr rfl, rfl⟩
    · exact ⟨_, last, .inl rfl, rfl⟩
  · have pods : 0 < 2 * h := by
      have positive := Nat.zero_lt_of_lt group.isLt
      omega
    refine ⟨.aggregate ⟨0, pods⟩ group, ?_, ?_⟩
    · simp [neighbours]
    · rw [below]
      rfl

theorem determineRole_index (roles : RolesFrom tree unset (tree.index node + 1) nodeInfo)
    (other : node ≠ .controller) :
    determineRole tree.topo nodeInfo (tree.index node) =
      update nodeInfo (tree.index node) (withRole node (counted tree unset node)) := by
  have own : nodeInfo (tree.index node) = counted tree unset node := by
    rw [roles, if_neg (by omega)]
  have apart : tree.index node ∉ tree.topo.links (tree.index node) :=
    fun member => not_mem_neighbours_self _ (tree.index_mem_links.mp member)
  unfold determineRole
  cases node with
  | core _ _ => rw [if_pos (by rw [own]; rfl), foldl_learnRole _ _ apart, own, core_learns roles]
  | aggregate _ _ =>
    rw [if_pos (by rw [own]; rfl), foldl_learnRole _ _ apart, own, aggregate_learns roles]
  | edge _ _ => rw [if_pos (by rw [own]; rfl), foldl_learnRole _ _ apart, own, edge_learns roles]
  | host pod position slot =>
    have unchanged :
        withRole (.host pod position slot) (counted tree unset (.host pod position slot)) =
          nodeInfo (tree.index (.host pod position slot)) := own.symm
    rw [unchanged, update_eq_self, if_neg]
    rw [own]
    simp [counted, Node.isHost]
  | controller => contradiction

theorem rolesFrom_step (roles : RolesFrom tree unset (m + 1) nodeInfo)
    (inside : m + 1 < tree.topo.numNodes) :
    RolesFrom tree unset m (determineRole tree.topo nodeInfo m) := by
  rcases tree.surjective m (by omega) with ⟨node, rfl⟩
  have other : node ≠ .controller := by
    rintro rfl
    have last := index_controller_succ tree
    omega
  rw [determineRole_index roles other]
  intro seen
  by_cases same : seen = node
  · subst same
    rw [update_self, if_pos le_rfl]
  · have distinct : tree.index seen ≠ tree.index node := fun equal => same (tree.injective equal)
    rw [update_of_ne distinct, roles]
    have moved : tree.index node + 1 ≤ tree.index seen ↔ tree.index node ≤ tree.index seen := by
      omega
    simp only [moved]

end Learning

theorem determineRoles_index (tree : FatTree h) (unset : Indeterminate) (node : Node h) :
    determineRoles tree.topo (countInterfaces tree.topo unset) (tree.index node) =
      withRole node (counted tree unset node) := by
  have loop (m : Nat) (nodeInfo : NodeInfoVector) (inside : m < tree.topo.numNodes)
      (roles : RolesFrom tree unset m nodeInfo) :
      RolesFrom tree unset 0 ((range m).reverse.foldl (determineRole tree.topo) nodeInfo) := by
    induction m generalizing nodeInfo with
    | zero => exact roles
    | succ _ induction =>
      rw [range_succ, reverse_append, reverse_singleton, singleton_append, foldl_cons]
      exact induction _ (by omega) (rolesFrom_step roles inside)
  have last := index_controller_succ tree
  have initial :
      RolesFrom tree unset (tree.topo.numNodes - 1) (countInterfaces tree.topo unset) := by
    intro other
    rw [countInterfaces_index]
    by_cases controller : other = .controller
    · subst controller
      rw [if_pos (by omega)]
      rfl
    · have before := index_lt_controller tree controller
      rw [if_neg (by omega)]
  have final := loop _ _ (by omega) initial node
  exact final

end OmnetDsi.Autorouting.ExtractedTopology
