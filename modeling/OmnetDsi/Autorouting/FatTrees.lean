import Mathlib.Data.List.FinRange
import Mathlib.Tactic.Linarith
import Mathlib.Tactic.Ring

/-!
# Fat trees of `n`-port switches

The network configurator sees the network as a `cTopology`: nodes by index,
and for each node the remote nodes of its outgoing links.  This file describes
the topologies the configurator is written for.  With `n = 2 * h` ports a
switch, there are `h * h` core switches, `n` pods of `h` aggregate and `h` edge
switches, `h` hosts below each edge switch, and one controller that is linked
to every switch.

`FatTree h` is such a topology in the order the configurator relies on: core
switches first, then the aggregate switches pod by pod, the edge switches pod
by pod, the hosts, and the controller last.  Nothing is assumed about the
order inside these blocks or about the order of the links of a node.
-/

namespace OmnetDsi.Autorouting.FatTrees

open List

/-- What `cTopology` tells about the network. -/
structure Topology where
  numNodes : Nat
  /-- Whether the module of a node has a routing table. -/
  hasRoutingTable : Nat → Bool
  /-- The parameter `IPForward` of its routing table. -/
  ipForward : Nat → Bool
  /-- The remote nodes of `getLinkOut(0)`, `getLinkOut(1)`, and so on. -/
  links : Nat → List Nat

/-- The loopback interface `lo0` and one interface for each link. -/
def Topology.getNumInterfaces (topo : Topology) (i : Nat) : Nat :=
  (topo.links i).length + 1

/-- The nodes of a fat tree with `2 * h` ports a switch. -/
inductive Node (h : Nat) where
  | core (group member : Fin h)
  | aggregate (pod : Fin (2 * h)) (position : Fin h)
  | edge (pod : Fin (2 * h)) (position : Fin h)
  | host (pod : Fin (2 * h)) (position slot : Fin h)
  | controller
deriving DecidableEq

namespace Node

def isCore : Node h → Bool
  | core _ _ => true
  | _ => false

def isAggregate : Node h → Bool
  | aggregate _ _ => true
  | _ => false

def isEdge : Node h → Bool
  | edge _ _ => true
  | _ => false

def isHost : Node h → Bool
  | host _ _ _ => true
  | _ => false

def isController : Node h → Bool
  | controller => true
  | _ => false

end Node

def cores (h : Nat) : List (Node h) :=
  (finRange h).flatMap fun group => (finRange h).map (.core group)

def aggregates (h : Nat) : List (Node h) :=
  (finRange (2 * h)).flatMap fun pod => (finRange h).map (.aggregate pod)

def edges (h : Nat) : List (Node h) :=
  (finRange (2 * h)).flatMap fun pod => (finRange h).map (.edge pod)

/--
The nodes a node is linked to.  The core switches of one group are linked to
the aggregate switches of one position.
-/
def neighbours : Node h → List (Node h)
  | .core group _ => (finRange (2 * h)).map (.aggregate · group) ++ [.controller]
  | .aggregate pod position =>
    (finRange h).map (.core position) ++ (finRange h).map (.edge pod) ++ [.controller]
  | .edge pod position =>
    (finRange h).map (.aggregate pod) ++ (finRange h).map (.host pod position) ++ [.controller]
  | .host pod position _ => [.edge pod position]
  | .controller => cores h ++ aggregates h ++ edges h

section Neighbours

theorem mem_neighbours_core :
    other ∈ neighbours (.core group member) ↔
      (∃ pod, .aggregate pod group = other) ∨ other = .controller := by
  simp [neighbours]

theorem mem_neighbours_aggregate :
    other ∈ neighbours (.aggregate pod position) ↔
      (∃ up, .core position up = other) ∨ (∃ down, .edge pod down = other) ∨
        other = .controller := by
  simp [neighbours]

theorem mem_neighbours_edge :
    other ∈ neighbours (.edge pod position) ↔
      (∃ up, .aggregate pod up = other) ∨ (∃ slot, .host pod position slot = other) ∨
        other = .controller := by
  simp [neighbours]

end Neighbours

/-- A fat tree in the order of nodes the configurator relies on. -/
structure FatTree (h : Nat) where
  topo : Topology
  index : Node h → Nat
  numNodes : topo.numNodes = 5 * (h * h) + 2 * (h * h * h) + 1
  injective : Function.Injective index
  surjective : ∀ i < topo.numNodes, ∃ node, index node = i
  core : ∀ group member, index (.core group member) < h * h
  aggregate : ∀ pod position,
    h * h + pod.val * h ≤ index (.aggregate pod position) ∧
      index (.aggregate pod position) < h * h + pod.val * h + h
  edge : ∀ pod position,
    3 * (h * h) + pod.val * h ≤ index (.edge pod position) ∧
      index (.edge pod position) < 3 * (h * h) + pod.val * h + h
  host : ∀ pod position slot,
    5 * (h * h) ≤ index (.host pod position slot) ∧
      index (.host pod position slot) < 5 * (h * h) + 2 * (h * h * h)
  controller : index .controller = 5 * (h * h) + 2 * (h * h * h)
  hasRoutingTable : ∀ node, topo.hasRoutingTable (index node) = true
  ipForward : ∀ node, node.isHost = false → topo.ipForward (index node) = true
  links : ∀ node, (topo.links (index node)).Perm ((neighbours node).map index)

/-- The number of ports that a switch uses, the controller's apart. -/
def ports (h : Nat) : Nat :=
  2 * h

/-! ## Neighbours -/

theorem neighbours_nodup (node : Node h) : (neighbours node).Nodup := by
  cases node with
  | core _ _ =>
    refine Nodup.append ?_ (nodup_singleton _) ?_
    · exact (nodup_finRange _).map fun left right same => by simpa using same
    · simp
  | aggregate _ _ =>
    refine Nodup.append (Nodup.append ?_ ?_ ?_) (nodup_singleton _) ?_
    · exact (nodup_finRange _).map fun left right same => by simpa using same
    · exact (nodup_finRange _).map fun left right same => by simpa using same
    · simp [disjoint_left]
    · simp
  | edge _ _ =>
    refine Nodup.append (Nodup.append ?_ ?_ ?_) (nodup_singleton _) ?_
    · exact (nodup_finRange _).map fun left right same => by simpa using same
    · exact (nodup_finRange _).map fun left right same => by simpa using same
    · simp [disjoint_left]
    · simp
  | host _ _ _ => exact nodup_singleton _
  | controller =>
    have block {m : Nat} (make : Fin m → Fin h → Node h)
        (different : ∀ a b c d, make a b = make c d → a = c ∧ b = d) :
        ((finRange m).flatMap fun first => (finRange h).map (make first)).Nodup := by
      rw [nodup_flatMap]
      constructor
      · intro _ _
        exact (nodup_finRange _).map fun left right same => (different _ _ _ _ same).2
      · refine (nodup_finRange m).imp ?_
        intro _ _ distinct
        intro _ left right
        obtain ⟨b, _, rfl⟩ := mem_map.mp left
        obtain ⟨d, _, same⟩ := mem_map.mp right
        exact distinct (different _ _ _ _ same).1.symm
    refine Nodup.append (Nodup.append ?_ ?_ ?_) ?_ ?_
    · exact block .core fun a b c d same => by simpa using same
    · exact block .aggregate fun a b c d same => by simpa using same
    · simp only [disjoint_left, cores, aggregates, mem_flatMap, mem_map]
      rintro node ⟨group, _, member, _, rfl⟩
      simp
    · exact block .edge fun a b c d same => by simpa using same
    · simp only [disjoint_left, cores, aggregates, edges, mem_append, mem_flatMap, mem_map]
      rintro node (⟨group, _, member, _, rfl⟩ | ⟨pod, _, position, _, rfl⟩)
      all_goals simp

theorem not_mem_neighbours_self (node : Node h) : node ∉ neighbours node := by
  cases node <;> simp [neighbours, cores, aggregates, edges]

/-! ## The order of the nodes -/

theorem pod_block (pod : Fin (2 * h)) : pod.val * h + h ≤ 2 * (h * h) := by
  have bound : pod.val + 1 ≤ 2 * h := pod.isLt
  calc
    pod.val * h + h = (pod.val + 1) * h := by ring
    _ ≤ 2 * h * h := Nat.mul_le_mul_right h bound
    _ = 2 * (h * h) := by ring

namespace FatTree

variable (tree : FatTree h)

theorem index_lt (node : Node h) : tree.index node < tree.topo.numNodes := by
  rw [tree.numNodes]
  cases node with
  | core group member =>
    have bound := tree.core group member
    omega
  | aggregate pod position =>
    have bound := (tree.aggregate pod position).2
    have block := pod_block pod
    omega
  | edge pod position =>
    have bound := (tree.edge pod position).2
    have block := pod_block pod
    omega
  | host pod position slot =>
    have bound := (tree.host pod position slot).2
    omega
  | controller =>
    have bound := tree.controller
    omega

theorem mem_links :
    k ∈ tree.topo.links (tree.index node) ↔
      ∃ neighbour ∈ neighbours node, tree.index neighbour = k := by
  rw [(tree.links _).mem_iff, mem_map]

theorem index_mem_links :
    tree.index neighbour ∈ tree.topo.links (tree.index node) ↔ neighbour ∈ neighbours node := by
  rw [tree.mem_links]
  constructor
  · rintro ⟨_, linked, same⟩
    exact tree.injective same ▸ linked
  · intro linked
    exact ⟨neighbour, linked, rfl⟩

theorem links_nodup (node : Node h) : (tree.topo.links (tree.index node)).Nodup := by
  rw [(tree.links _).nodup_iff]
  exact (neighbours_nodup _).map tree.injective

theorem links_length (node : Node h) :
    (tree.topo.links (tree.index node)).length = (neighbours node).length := by
  rw [(tree.links _).length_eq, length_map]

end FatTree

/-! ## Shortest paths -/

/--
What the configurator uses of `calculateUnweightedSingleShortestPathsTo`:
`path dest at` is the link on which the first shortest path from `at` to
`dest` begins, if there is a path.
-/
structure ShortestPaths (topo : Topology) (path : Nat → Nat → Option Nat) : Prop where
  link : ∀ dest node k, path dest node = some k → k < (topo.links node).length
  /-- The shortest path to a neighbour is the link to it. -/
  direct : ∀ dest node, dest ∈ topo.links node →
    ∃ k, path dest node = some k ∧ (topo.links node)[k]? = some dest

/-- Whether a node is at most this number of links away from `dest`. -/
def within (topo : Topology) (dest : Nat) : Nat → Nat → Bool
  | 0, node => node == dest
  | steps + 1, node => within topo dest steps node || (topo.links node).any (within topo dest steps)

/-- The first link that leads as close to `dest` as any link does. -/
def shortestPath (topo : Topology) (dest node : Nat) : Option Nat :=
  (range topo.numNodes).findSome? fun steps => (topo.links node).findIdx? (within topo dest steps)

theorem shortestPath_spec (inhabited : 0 < topo.numNodes) :
    ShortestPaths topo (shortestPath topo) where
  link := by
    intro _ _ _ found
    rcases exists_of_findSome?_eq_some found with ⟨_, _, first⟩
    exact (findIdx?_eq_some_iff_findIdx_eq.mp first).1
  direct := by
    intro dest node linked
    cases found : (topo.links node).findIdx? (within topo dest 0) with
    | none =>
      rw [findIdx?_eq_none_iff] at found
      have far := found _ linked
      simp [within] at far
    | some k =>
      refine ⟨k, ?_, ?_⟩
      · rw [shortestPath, show topo.numNodes = topo.numNodes - 1 + 1 by omega, range_succ_eq_map,
          findSome?_cons, found]
      · rcases findIdx?_eq_some_iff_getElem.mp found with ⟨inside, hit, _⟩
        have reached : (topo.links node)[k] = dest := by simpa [within] using hit
        rw [getElem?_eq_getElem inside, reached]

end OmnetDsi.Autorouting.FatTrees
