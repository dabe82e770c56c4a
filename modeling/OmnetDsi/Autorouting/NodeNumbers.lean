import OmnetDsi.Autorouting.ExtractedTopology

/-!
# The numbers that `extractTopology` gives

The loop over the pods shares its index with the two nested loops that number
the aggregate and the edge switches; the last loop numbers the switches by
their index and the hosts by the links of their edge switch.  The result is
`extractTopology_index`: every node is described by `extracted`.
-/

namespace OmnetDsi.Autorouting.NodeNumbers

open Autorouting.FatTrees Autorouting.NetworkConfigurator Autorouting.ExtractedTopology List

/-! ## The nested loops over pods and members -/

theorem assignPod_snd (numOfPod : Int) (state : Nat × NodeInfoVector) (j x : Nat) :
    (assignPod numOfPod state j).2 x =
      if state.1 ≤ x ∧ x < state.1 + (numOfPod / 2).toNat then
        { state.2 x with podId := (j : Int) + 1 }
      else state.2 x := by
  have index (members : Nat) :
      ((range members).foldl
        (fun state _ =>
          (state.1 + 1,
            modifyInfo state.2 state.1 fun info => { info with podId := (j : Int) + 1 }))
        state).1 = state.1 + members := by
    induction members with
    | zero => rfl
    | succ _ induction =>
      rw [range_succ, foldl_append, foldl_cons, foldl_nil, induction]
      exact Nat.add_assoc _ _ _
  unfold assignPod
  generalize (numOfPod / 2).toNat = members
  induction members with
  | zero =>
    rw [if_neg (by omega)]
    rfl
  | succ members induction =>
    rw [range_succ, foldl_append, foldl_cons, foldl_nil]
    dsimp only
    rw [index]
    by_cases here : x = state.1 + members
    · subst here
      rw [modifyInfo_self, induction, if_neg (by omega), if_pos (by omega)]
    · rw [modifyInfo_of_ne here, induction]
      have extended :
          (state.1 ≤ x ∧ x < state.1 + members) ↔ (state.1 ≤ x ∧ x < state.1 + (members + 1)) := by
        omega
      simp only [extended]

/-- The pod number of node `x` in blocks of `members` nodes from `i` on. -/
def podOf (i members x : Nat) : Int :=
  ((x - i) / members : Nat) + 1

theorem assignPods_snd {numOfPod : Int}
    (half : (numOfPod / 2).toNat = members) (positive : 0 < members) (i : Nat)
    (nodeInfo : NodeInfoVector) (x : Nat) :
    (assignPods numOfPod i nodeInfo).2 x =
      if i ≤ x ∧ x < i + numOfPod.toNat * members then
        { nodeInfo x with podId := podOf i members x }
      else nodeInfo x := by
  have index (pods : Nat) :
      ((range pods).foldl (assignPod numOfPod) (i, nodeInfo)).1 = i + pods * members := by
    induction pods with
    | zero => simp
    | succ _ induction =>
      rw [range_succ, foldl_append, foldl_cons, foldl_nil, assignPod_fst, induction, half]
      ring
  unfold assignPods
  generalize numOfPod.toNat = pods
  induction pods with
  | zero =>
    rw [if_neg (by omega)]
    rfl
  | succ pods induction =>
    rw [range_succ, foldl_append, foldl_cons,
      foldl_nil, assignPod_snd, index, induction, half, Nat.succ_mul]
    by_cases here : i + pods * members ≤ x ∧ x < i + pods * members + members
    · rw [if_pos here, if_neg (by omega), if_pos (by omega)]
      have quotient : (x - i) / members = pods := by
        rw [Nat.div_eq_iff positive]
        constructor
        all_goals omega
      simp [podOf, quotient]
    · rw [if_neg here]
      have extended :
          (i ≤ x ∧ x < i + pods * members) ↔ (i ≤ x ∧ x < i + (pods * members + members)) := by
        omega
      simp only [extended]

/-! ## The loop over the nodes -/

/-- An iteration for a node that is no aggregate and no edge switch. -/
theorem determinePodId_plain (numOfPod : Int) {i : Nat}
    (aggregate : (nodeInfo i).isAggre = false) (edge : (nodeInfo i).isEdge = false) :
    determinePodId numOfPod i nodeInfo = (i, modifyInfo nodeInfo i (ownPodId numOfPod)) := by
  have roles (info : NodeInfo) :
      (ownPodId numOfPod info).isAggre = info.isAggre ∧
        (ownPodId numOfPod info).isEdge = info.isEdge := by
    by_cases controller : info.isController = true <;>
      by_cases core : info.isCore = true <;> simp [ownPodId, controller, core]
  simp [determinePodId, modifyInfo_self, roles, aggregate, edge]

/-- Iterations over a block of nodes that are no aggregates and no edges. -/
theorem determinePodIds_plain (topo : Topology) (numOfPod : Int)
    (ordered : i ≤ m) (inside : m ≤ topo.numNodes)
    (plain : ∀ x, i ≤ x → x < m → (nodeInfo x).isAggre = false ∧ (nodeInfo x).isEdge = false) :
    determinePodIds topo numOfPod i nodeInfo =
      determinePodIds topo numOfPod m fun x =>
        if i ≤ x ∧ x < m then ownPodId numOfPod (nodeInfo x)
        else nodeInfo x := by
  induction gap : m - i generalizing i nodeInfo with
  | zero =>
    have same : i = m := by omega
    congr 1
    funext x
    rw [if_neg (by omega)]
  | succ _ induction =>
    have here := plain i le_rfl (by omega)
    rw [determinePodIds, if_pos (by omega), determinePodId_plain _ here.1 here.2]
    have later : ∀ x, i + 1 ≤ x → x < m →
        (modifyInfo nodeInfo i (ownPodId numOfPod) x).isAggre = false ∧
          (modifyInfo nodeInfo i (ownPodId numOfPod) x).isEdge = false := by
      intro x _ below
      rw [modifyInfo_of_ne (by omega)]
      exact plain x (by omega) below
    rw [induction (by omega) later (by omega)]
    congr 1
    funext x
    by_cases first : x = i
    · subst first
      rw [if_neg (by omega), if_pos (by omega), modifyInfo_self]
    · rw [modifyInfo_of_ne first]
      have extended : (i + 1 ≤ x ∧ x < m) ↔ (i ≤ x ∧ x < m) := by omega
      simp only [extended]

/-- What is known of a node once its pod is. -/
def withPod (unset : Indeterminate) (tree : FatTree h) (node : Node h) : NodeInfo :=
  let info := withRole node (counted tree unset node)
  match node with
  | .host _ _ _ => info
  | .controller => { info with podId := podNumber node, switchId := 0 }
  | _ => { info with podId := podNumber node }

theorem numOfPod_fatTree (tree : FatTree h) (unset : Indeterminate) (positive : 0 < h) :
    numOfPod tree.topo unset (countInterfaces tree.topo unset) = 2 * h := by
  have square : 0 < h * h := Nat.mul_pos positive positive
  have first : 0 < tree.topo.numNodes := by
    rw [tree.numNodes]
    omega
  rcases tree.surjective 0 first with ⟨node, origin⟩
  have core : ∃ group member, node = .core group member := by
    cases node with
    | core group member => exact ⟨group, member, rfl⟩
    | aggregate pod position =>
      have block := aggregate_block tree pod position
      omega
    | edge pod position =>
      have block := edge_block tree pod position
      omega
    | host pod position slot =>
      have block := tree.host pod position slot
      omega
    | controller =>
      have last := tree.controller
      omega
  rcases core with ⟨group, member, rfl⟩
  have length := tree.links_length (.core group member)
  rw [origin] at length
  have counts : (neighbours (Node.core group member)).length = 2 * h + 1 := by simp [neighbours]
  have info := countInterfaces_index tree unset (.core group member)
  rw [origin] at info
  rw [numOfPod, Topology.getNumInterfaces, info, length, counts]
  simp [counted, Node.isHost]
  omega

theorem pod_of_block (pod : Fin (2 * h)) (lower : base + pod.val * h ≤ index)
    (upper : index < base + pod.val * h + h) (positive : 0 < h) :
    podOf base h index = pod.val + 1 := by
  have quotient : (index - base) / h = pod.val := by
    rw [Nat.div_eq_iff positive]
    constructor
    all_goals omega
  simp [podOf, quotient]

section Pods

variable {tree : FatTree h}

/-- Every node has its role, and no number yet. -/
def RolesKnown (tree : FatTree h) (unset : Indeterminate) (nodeInfo : NodeInfoVector) : Prop :=
  ∀ node, nodeInfo (tree.index node) = withRole node (counted tree unset node)

section

variable (roles : RolesKnown tree unset nodeInfo)
include roles

theorem plain_of_core_block (below : x < h * h) :
    (nodeInfo x).isAggre = false ∧ (nodeInfo x).isEdge = false := by
  rcases tree.surjective x (by rw [tree.numNodes]; omega) with ⟨node, rfl⟩
  rw [roles]
  cases node with
  | core _ _ => exact ⟨rfl, rfl⟩
  | aggregate pod position =>
    have block := aggregate_block tree pod position
    omega
  | edge pod position =>
    have block := edge_block tree pod position
    omega
  | host _ _ _ => exact ⟨rfl, rfl⟩
  | controller => exact ⟨rfl, rfl⟩

theorem plain_of_host_block (above : 5 * (h * h) ≤ x) (inside : x < tree.topo.numNodes) :
    (nodeInfo x).isAggre = false ∧ (nodeInfo x).isEdge = false := by
  rcases tree.surjective x inside with ⟨node, rfl⟩
  rw [roles]
  cases node with
  | core _ _ => exact ⟨rfl, rfl⟩
  | aggregate pod position =>
    have block := aggregate_block tree pod position
    omega
  | edge pod position =>
    have block := edge_block tree pod position
    omega
  | host _ _ _ => exact ⟨rfl, rfl⟩
  | controller => exact ⟨rfl, rfl⟩

theorem isAggre_first (positive : 0 < h) :
    ownPodId (2 * h) (nodeInfo (h * h)) = nodeInfo (h * h) ∧ (nodeInfo (h * h)).isAggre = true := by
  have square : 0 < h * h := Nat.mul_pos positive positive
  rcases tree.surjective (h * h) (by rw [tree.numNodes]; omega) with ⟨node, place⟩
  rw [← place, roles]
  cases node with
  | core group member =>
    have block := tree.core group member
    omega
  | aggregate _ _ => exact ⟨rfl, rfl⟩
  | edge pod position =>
    have block := edge_block tree pod position
    omega
  | host pod position slot =>
    have block := tree.host pod position slot
    omega
  | controller =>
    have block := tree.controller
    omega

theorem isEdge_first (positive : 0 < h) : (nodeInfo (3 * (h * h))).isEdge = true := by
  have square : 0 < h * h := Nat.mul_pos positive positive
  rcases tree.surjective (3 * (h * h)) (by rw [tree.numNodes]; omega) with ⟨node, place⟩
  rw [← place, roles]
  cases node with
  | core group member =>
    have block := tree.core group member
    omega
  | aggregate pod position =>
    have block := aggregate_block tree pod position
    omega
  | edge _ _ => rfl
  | host pod position slot =>
    have block := tree.host pod position slot
    omega
  | controller =>
    have block := tree.controller
    omega

end

/-- The pod numbers of the nodes up to the last edge switch. -/
def switchPods (h : Nat) (nodeInfo : NodeInfoVector) : NodeInfoVector :=
  fun x =>
    if x < h * h then ownPodId (2 * h) (nodeInfo x)
    else if x < 3 * (h * h) then { nodeInfo x with podId := podOf (h * h) h x }
    else if x < 5 * (h * h) then { nodeInfo x with podId := podOf (3 * (h * h)) h x }
    else nodeInfo x

theorem determinePodIds_switches (roles : RolesKnown tree unset nodeInfo) (positive : 0 < h) :
    determinePodIds tree.topo (2 * h) 0 nodeInfo =
      determinePodIds tree.topo (2 * h) (5 * (h * h) + 1) (switchPods h nodeInfo) := by
  have count := tree.numNodes
  have half : ((2 * h : Int) / 2).toNat = h := by omega
  have pods : (2 * h : Int).toNat = 2 * h := by omega
  have product : 2 * h * h = 2 * (h * h) := Nat.mul_assoc 2 h h
  have first := isAggre_first roles positive
  rw [determinePodIds_plain tree.topo _ (Nat.zero_le (h * h))
    (by omega) fun x _ below => plain_of_core_block roles below]
  generalize cores :
    (fun x => if 0 ≤ x ∧ x < h * h then ownPodId (2 * h) (nodeInfo x)
      else nodeInfo x) = marked
  have outside (x : Nat) (beyond : h * h ≤ x) : marked x = nodeInfo x := by
    rw [← cores]
    exact if_neg (by omega)
  have unchanged : modifyInfo marked (h * h) (ownPodId (2 * h)) = marked :=
    modifyInfo_unchanged (by rw [outside _ le_rfl, first.1])
  have aggregates : (assignPods (2 * h) (h * h) marked).1 = 3 * (h * h) := by
    rw [assignPods_fst, half, pods, product]
    omega
  have edge : ((assignPods (2 * h) (h * h) marked).2 (3 * (h * h))).isEdge = true := by
    rw [assignPods_snd half positive, pods, product, if_neg (by omega), outside _ (by omega)]
    exact isEdge_first roles positive
  have advanced :
      determinePodId (2 * h) (h * h) marked =
        assignPods (2 * h) (3 * (h * h)) (assignPods (2 * h) (h * h) marked).2 := by
    dsimp only [determinePodId]
    rw [unchanged, outside _ le_rfl, if_pos first.2, aggregates, if_pos edge]
  rw [determinePodIds, if_pos (by omega), advanced]
  dsimp only
  rw [assignPods_fst, half, pods, product]
  congr 1
  · omega
  · funext x
    rw [assignPods_snd half positive, assignPods_snd half positive, pods, product]
    unfold switchPods
    by_cases core : x < h * h
    · rw [if_neg (by omega), if_neg (by omega), if_pos core, ← cores]
      exact if_pos ⟨Nat.zero_le x, core⟩
    · rw [if_neg core, outside x (by omega)]
      by_cases aggregate : x < 3 * (h * h)
      · rw [if_neg (by omega), if_pos (by omega), if_pos aggregate]
      · rw [if_neg aggregate]
        by_cases below : x < 5 * (h * h)
        · rw [if_pos (by omega), if_neg (by omega), if_pos below]
        · rw [if_neg (by omega), if_neg (by omega), if_neg below]

/-- After the loop every switch and the controller have their pods. -/
theorem determinePodIds_index (roles : RolesKnown tree unset nodeInfo)
    (positive : 0 < h) (node : Node h) :
    determinePodIds tree.topo (2 * h) 0 nodeInfo (tree.index node) = withPod unset tree node := by
  have square : 0 < h * h := Nat.mul_pos positive positive
  have count := tree.numNodes
  have rest : ∀ x, 5 * (h * h) + 1 ≤ x → x < tree.topo.numNodes →
      (switchPods h nodeInfo x).isAggre = false ∧ (switchPods h nodeInfo x).isEdge = false := by
    intro _ _ inside
    rw [switchPods, if_neg (by omega), if_neg (by omega), if_neg (by omega)]
    exact plain_of_host_block roles (by omega) inside
  rw [determinePodIds_switches roles positive,
    determinePodIds_plain tree.topo _ (by omega) le_rfl rest, determinePodIds, if_neg (by omega)]
  unfold switchPods
  cases node with
  | core group member =>
    have block := tree.core group member
    rw [if_neg (by omega), if_pos block, roles]
    rfl
  | aggregate pod position =>
    have block := aggregate_block tree pod position
    have range := tree.aggregate pod position
    rw [if_neg (by omega), if_neg (by omega), if_pos (by omega), roles,
      pod_of_block pod range.1 range.2 positive]
    rfl
  | edge pod position =>
    have block := edge_block tree pod position
    have range := tree.edge pod position
    rw [if_neg (by omega), if_neg (by omega), if_neg (by omega),
      if_pos (by omega), roles, pod_of_block pod range.1 range.2 positive]
    rfl
  | host pod position slot =>
    have block := tree.host pod position slot
    rw [if_neg (show ¬tree.index (.host pod position slot) < h * h by
        omega),
      if_neg (show ¬tree.index (.host pod position slot) < 3 * (h * h) by omega),
      if_neg (show ¬tree.index (.host pod position slot) < 5 * (h * h) by omega), roles]
    split
    all_goals rfl
  | controller =>
    have last := tree.controller
    have cube : 0 < h * h * h := Nat.mul_pos square positive
    rw [if_pos (by omega), if_neg (by omega), if_neg (by omega), if_neg (by omega), roles]
    rfl

end Pods

/-! ## Switch and host numbers -/

/-- The entry of a host that its edge switch has numbered. -/
def hostOf (edge : NodeInfo) (number : Int) (info : NodeInfo) : NodeInfo :=
  { info with podId := edge.podId, switchId := edge.switchId, hostId := number }

theorem numberHost_of_host {k : Nat} (host : (nodeInfo k).isHost = true) (l : Int) :
    numberHost i (l, nodeInfo) k =
      (l + 1, Function.update nodeInfo k (hostOf (nodeInfo i) l (nodeInfo k))) := by
  rw [numberHost, if_pos host]
  rfl

/-- The loop over the links of edge switch `i` numbers the hosts in order. -/
theorem foldl_numberHost {ks : List Nat} (distinct : ks.Nodup)
    (others : i ∉ ks) (l : Int) (nodeInfo : NodeInfoVector) (x : Nat) :
    (ks.foldl (numberHost i) (l, nodeInfo)).2 x =
      if x ∈ ks ∧ (nodeInfo x).isHost = true then
        hostOf (nodeInfo i)
          (l + ((ks.filter fun k => (nodeInfo k).isHost).idxOf x : Nat)) (nodeInfo x)
      else nodeInfo x := by
  induction ks generalizing l nodeInfo with
  | nil => simp
  | cons k rest induction =>
    have fresh : k ∉ rest := (nodup_cons.mp distinct).1
    have remaining := (nodup_cons.mp distinct).2
    have apart : i ≠ k := fun same => others (same ▸ mem_cons_self)
    have outside : i ∉ rest := fun member => others (mem_cons_of_mem k member)
    rw [foldl_cons]
    by_cases host : (nodeInfo k).isHost = true
    · have first :
          ((k :: rest).filter fun other => (nodeInfo other).isHost) =
            k :: rest.filter fun other => (nodeInfo other).isHost := by
        simp [host]
      have hosts :
          (rest.filter fun other =>
              (Function.update nodeInfo k (hostOf (nodeInfo i) l (nodeInfo k)) other).isHost) =
            rest.filter fun other => (nodeInfo other).isHost := by
        refine filter_congr ?_
        intro other member
        have different : other ≠ k := fun same => fresh (same ▸ member)
        rw [Function.update_of_ne different]
      rw [numberHost_of_host host, induction remaining outside, hosts,
        first, Function.update_of_ne apart]
      by_cases same : x = k
      · subst same
        rw [if_neg (fun inside => fresh inside.1), Function.update_self,
          if_pos ⟨mem_cons_self, host⟩, idxOf_cons_self]
        simp
      · rw [Function.update_of_ne same]
        by_cases inside : x ∈ rest ∧ (nodeInfo x).isHost = true
        · rw [if_pos inside, if_pos ⟨mem_cons_of_mem k inside.1, inside.2⟩,
            idxOf_cons_ne _ (Ne.symm same)]
          congr 1
          push_cast
          ring
        · rw [if_neg inside, if_neg]
          rintro ⟨member, isHost⟩
          rcases mem_cons.mp member with equal | later
          · exact same equal
          · exact inside ⟨later, isHost⟩
    · have skipped : numberHost i (l, nodeInfo) k = (l, nodeInfo) := by simp [numberHost, host]
      have hosts :
          ((k :: rest).filter fun other => (nodeInfo other).isHost) =
            rest.filter fun other => (nodeInfo other).isHost := by
        simp [host]
      rw [skipped, induction remaining outside, hosts]
      by_cases same : x = k
      · subst same
        rw [if_neg (fun inside => host inside.2), if_neg (fun inside => host inside.2)]
      · have extended : (x ∈ k :: rest) ↔ x ∈ rest := by simp [same]
        simp only [extended]

/-- Whether the last loop has finished a node after `m` iterations. -/
def numbered (tree : FatTree h) (m : Nat) : Node h → Bool
  | .host pod position _ => decide (tree.index (.edge pod position) < m)
  | node => decide (tree.index node < m)

section Numbers

variable {tree : FatTree h}

def NumberedBelow (tree : FatTree h) (unset : Indeterminate) (m : Nat)
    (nodeInfo : NodeInfoVector) : Prop :=
  ∀ node, nodeInfo (tree.index node) = if numbered tree m node then extracted tree node
    else withPod unset tree node

theorem role_of_numbered (numbers : NumberedBelow tree unset m nodeInfo) (node : Node h) :
    (nodeInfo (tree.index node)).isHost = node.isHost ∧
      (nodeInfo (tree.index node)).isEdge = node.isEdge := by
  rw [numbers]
  split
  · exact ⟨rfl, rfl⟩
  · cases node <;> exact ⟨rfl, rfl⟩

theorem numberNode_plain
    (numbers : NumberedBelow tree unset (tree.index node) nodeInfo) (plain : node.isEdge = false) :
    numberNode tree.topo nodeInfo (tree.index node) =
      Function.update nodeInfo (tree.index node)
        (if node.isHost then nodeInfo (tree.index node)
          else extracted tree node) := by
  have own := numbers node
  have changed :
      ownSwitchId (tree.index node) (nodeInfo (tree.index node)) =
        if node.isHost then nodeInfo (tree.index node)
        else extracted tree node := by
    cases node with
    | edge _ _ => contradiction
    | host _ _ _ =>
      rw [own]
      split
      all_goals rfl
    | core group member =>
      have current : numbered tree (tree.index (.core group member))
          (.core group member) = false := by simp [numbered]
      rw [own, current]
      rfl
    | aggregate pod position =>
      have current : numbered tree (tree.index (.aggregate pod position))
          (.aggregate pod position) = false := by simp [numbered]
      rw [own, current]
      rfl
    | controller =>
      have current : numbered tree (tree.index .controller)
          .controller = false := by simp [numbered]
      rw [own, current]
      rfl
  have edge : (ownSwitchId (tree.index node) (nodeInfo (tree.index node))).isEdge = false := by
    rw [changed]
    split
    · rw [(role_of_numbered numbers _).2, plain]
    · exact plain
  dsimp only [numberNode]
  rw [modifyInfo_self, edge, modifyInfo, changed]
  rfl

theorem numberNode_edge
    (numbers : NumberedBelow tree unset (tree.index (.edge pod position)) nodeInfo)
    (node : Node h) :
    numberNode tree.topo nodeInfo (tree.index (.edge pod position)) (tree.index node) =
      if node = .edge pod position ∨ ∃ slot, node = .host pod position slot then extracted tree node
      else nodeInfo (tree.index node) := by
  have own := numbers (.edge pod position)
  have current : numbered tree (tree.index (.edge pod position))
      (.edge pod position) = false := by simp [numbered]
  rw [current] at own
  have apart :
      tree.index (.edge pod position) ∉ tree.topo.links (tree.index (.edge pod position)) :=
    fun member => not_mem_neighbours_self _ (tree.index_mem_links.mp member)
  generalize marked :
    modifyInfo nodeInfo (tree.index (.edge pod position))
      (ownSwitchId (tree.index (.edge pod position))) = next
  have self : next (tree.index (.edge pod position)) = extracted tree (.edge pod position) := by
    rw [← marked, modifyInfo_self, own]
    rfl
  have other (seen : Node h) (different : seen ≠ .edge pod position) :
      next (tree.index seen) = nodeInfo (tree.index seen) := by
    rw [← marked]
    exact modifyInfo_of_ne (fun same => different (tree.injective same)) _
  have host (seen : Node h) : (next (tree.index seen)).isHost = seen.isHost := by
    by_cases same : seen = .edge pod position
    · subst same
      rw [self]
      rfl
    · rw [other _ same]
      exact (role_of_numbered numbers _).1
  have hosts :
      ((tree.topo.links (tree.index (.edge pod position))).filter fun k => (next k).isHost) =
        hostLinks tree pod position := by
    refine filter_congr ?_
    intro _ member
    rcases tree.mem_links.mp member with ⟨_, _, rfl⟩
    rw [host, links_length_host]
  rw [numberNode, marked, self,
    if_pos (show (extracted tree (.edge pod position)).isEdge = true from rfl),
    foldl_numberHost (tree.links_nodup _) apart, self, hosts, host]
  by_cases below : ∃ slot, node = .host pod position slot
  · rcases below with ⟨slot, rfl⟩
    have linked : Node.host pod position slot ∈ neighbours (.edge pod position) := by
      simp [neighbours]
    rw [if_pos ⟨tree.index_mem_links.mpr linked, rfl⟩,
      if_pos (Or.inr ⟨slot, rfl⟩), other _ (by simp), numbers]
    have waiting : numbered tree (tree.index (.edge pod position))
        (.host pod position slot) = false := by simp [numbered]
    rw [waiting]
    have shifted (number : Nat) : (1 : Int) + number = ((number + 1 : Nat) : Int) := by
      push_cast
      ring
    rw [shifted]
    rfl
  · rw [if_neg]
    · by_cases same : node = .edge pod position
      · subst same
        rw [if_pos (Or.inl rfl), self]
      · rw [if_neg (by tauto), other _ same]
    · rintro ⟨member, _⟩
      apply below
      have linked := tree.index_mem_links.mp member
      cases node with
      | host _ _ _ =>
        rcases mem_neighbours_edge.mp linked with ⟨_, same⟩ | ⟨known, same⟩ | same
        · contradiction
        · exact ⟨known, same.symm⟩
        · contradiction
      | core _ _ => contradiction
      | aggregate _ _ => contradiction
      | edge _ _ => contradiction
      | controller => contradiction

theorem numberedBelow_step (numbers : NumberedBelow tree unset m nodeInfo)
    (inside : m < tree.topo.numNodes) :
    NumberedBelow tree unset (m + 1) (numberNode tree.topo nodeInfo m) := by
  rcases tree.surjective m inside with ⟨node, rfl⟩
  intro seen
  by_cases edge : ∃ pod position, node = .edge pod position
  · rcases edge with ⟨pod, position, rfl⟩
    rw [numberNode_edge numbers _, numbers _]
    have extended :
        numbered tree (tree.index (.edge pod position) + 1) seen = true ↔
          (seen = .edge pod position ∨
            ∃ slot, seen = .host pod position slot) ∨
              numbered tree (tree.index (.edge pod position)) seen = true := by
      have later (other : Node h) :
          tree.index other < tree.index (.edge pod position) + 1 ↔
            other = .edge pod position ∨ tree.index other < tree.index (.edge pod position) := by
        constructor
        · intro _
          by_cases same : tree.index other = tree.index (.edge pod position)
          · exact Or.inl (tree.injective same)
          · omega
        · rintro (rfl | below)
          · omega
          · omega
      cases seen <;> simp [numbered, later]
    by_cases now : seen = .edge pod position ∨ ∃ slot, seen = .host pod position slot
    · rw [if_pos now, if_pos (extended.mpr (Or.inl now))]
    · rw [if_neg now]
      have same :
          numbered tree (tree.index (.edge pod position) + 1) seen =
            numbered tree (tree.index (.edge pod position)) seen := by
        rw [Bool.eq_iff_iff, extended]
        tauto
      rw [same]
  · have plain : node.isEdge = false := by
      cases node <;> simp_all [Node.isEdge]
    rw [numberNode_plain numbers plain]
    by_cases same : seen = node
    · subst same
      cases seen with
      | edge _ _ => contradiction
      | host pod position slot =>
        have order : tree.index (.edge pod position) < tree.index (.host pod position slot) := by
          have block := edge_block tree pod position
          have host := tree.host pod position slot
          omega
        rw [numbers]
        simp [Node.isHost, numbered, order, Nat.lt_succ_of_lt _]
      | core _ _ => simp [Node.isHost, numbered]
      | aggregate _ _ => simp [Node.isHost, numbered]
      | controller => simp [Node.isHost, numbered]
    · have distinct : tree.index seen ≠ tree.index node := fun equal => same (tree.injective equal)
      have unmoved :
          numbered tree (tree.index node + 1) seen = numbered tree (tree.index node) seen := by
        cases seen with
        | host pod position _ =>
          have apart : tree.index (.edge pod position) ≠ tree.index node :=
            fun equal => edge ⟨pod, position, (tree.injective equal).symm⟩
          simp only [numbered, decide_eq_decide]
          omega
        | core _ _ =>
          simp only [numbered, decide_eq_decide]
          omega
        | aggregate _ _ =>
          simp only [numbered, decide_eq_decide]
          omega
        | edge _ _ =>
          simp only [numbered, decide_eq_decide]
          omega
        | controller =>
          simp only [numbered, decide_eq_decide]
          omega
      rw [Function.update_of_ne distinct, numbers, unmoved]

end Numbers

/-- Every node of a fat tree is described as its place in the tree says. -/
theorem extractTopology_index (tree : FatTree h) (unset : Indeterminate)
    (positive : 0 < h) (node : Node h) :
    extractTopology tree.topo unset (tree.index node) = extracted tree node := by
  rw [extractTopology, numberNodes, numOfPod_fatTree _ _ positive]
  generalize pods :
    determinePodIds tree.topo (2 * h) 0
      (determineRoles tree.topo (countInterfaces tree.topo unset)) = nodeInfo
  have initial : NumberedBelow tree unset 0 nodeInfo := by
    intro other
    rw [← pods, determinePodIds_index (fun known => determineRoles_index _ _ _) positive]
    cases other <;> simp [numbered]
  have loop (m : Nat) (inside : m ≤ tree.topo.numNodes) :
      NumberedBelow tree unset m ((range m).foldl (numberNode tree.topo) nodeInfo) := by
    induction m with
    | zero => exact initial
    | succ _ induction =>
      rw [range_succ, foldl_append, foldl_cons, foldl_nil]
      exact numberedBelow_step (induction (by omega)) (by omega)
  have final := loop tree.topo.numNodes le_rfl node
  have done : numbered tree tree.topo.numNodes node = true := by
    cases node with
    | host _ _ _ => simp [numbered, tree.index_lt]
    | core _ _ => simp [numbered, tree.index_lt]
    | aggregate _ _ => simp [numbered, tree.index_lt]
    | edge _ _ => simp [numbered, tree.index_lt]
    | controller => simp [numbered, tree.index_lt]
  rwa [done] at final

end OmnetDsi.Autorouting.NodeNumbers
