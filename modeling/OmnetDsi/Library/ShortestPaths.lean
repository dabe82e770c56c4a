import Mathlib.Algebra.Order.Monoid.Canonical.Defs
import Mathlib.Data.List.Nodup

/-!
# Growing a shortest path tree

A graph has edges with costs that are never negative; a cost is the sum of the
costs along a path from the root.  A tree is grown vertex by vertex: the edges
out of a vertex of the tree are relaxed, which puts the vertices they lead to
on the list of candidates or lowers the cost known for them, and when all
edges out of the tree are relaxed a candidate of least cost joins the tree.

`Frontier` is what holds on the way, for the edges relaxed so far.  There is
one rule for each thing a relaxation may do (`onTree`, `keep`, `lower`,
`join`) and one for the choice of a candidate (`select`); when there are no
candidates left, the tree is complete (`complete`).
-/

namespace OmnetDsi.Library.ShortestPaths

open List Function

variable {Vertex Cost : Type*}
variable [AddCommMonoid Cost] [LinearOrder Cost]

section Paths

variable (edge : Vertex → Vertex → Cost → Prop) (root : Vertex)

/-- A path from the root leads to the vertex at this cost. -/
inductive Reaches : Vertex → Cost → Prop where
  | root : Reaches root 0
  | step {vertex next : Vertex} {total cost : Cost}
      (path : Reaches vertex total) (last : edge vertex next cost) : Reaches next (total + cost)

/-- The least cost at which a path leads to the vertex. -/
def Shortest (vertex : Vertex) (cost : Cost) : Prop :=
  Reaches edge root vertex cost ∧ ∀ other, Reaches edge root vertex other → cost ≤ other

end Paths

section Growing

variable {edge : Vertex → Vertex → Cost → Prop} {root : Vertex}

/-- The tree and its candidates when some edges are relaxed. -/
structure Frontier (edge : Vertex → Vertex → Cost → Prop) (root : Vertex)
    (relaxed : Vertex → Vertex → Cost → Prop) (tree candidates : List Vertex)
    (distance : Vertex → Cost) : Prop where
  rooted : root ∈ tree
  nodup : (tree ++ candidates).Nodup
  shortest : ∀ vertex ∈ tree, Shortest edge root vertex (distance vertex)
  reaches : ∀ vertex ∈ candidates, Reaches edge root vertex (distance vertex)
  relaxes :
    ∀ vertex next cost, relaxed vertex next cost →
      next ∈ tree ∨ next ∈ candidates ∧ distance next ≤ distance vertex + cost
  fromTree : ∀ vertex next cost, relaxed vertex next cost → vertex ∈ tree

/-- One more edge is relaxed. -/
def alsoRelaxed (relaxed : Vertex → Vertex → Cost → Prop)
    (vertex next : Vertex) (cost : Cost) : Vertex → Vertex → Cost → Prop :=
  fun from_ to_ paid => relaxed from_ to_ paid ∨ from_ = vertex ∧ to_ = next ∧ paid = cost

namespace Frontier

variable {relaxed : Vertex → Vertex → Cost → Prop}
variable {tree candidates : List Vertex} {distance : Vertex → Cost}
variable {vertex next : Vertex} {cost : Cost}

section

variable (frontier : Frontier edge root relaxed tree candidates distance)
include frontier

theorem notMem_tree (candidate : vertex ∈ candidates) : vertex ∉ tree := by
  intro onTree
  exact (nodup_append.mp frontier.nodup).2.2 _ onTree _ candidate rfl

/-- The edge leads back to the tree. -/
theorem onTree (fromTree : vertex ∈ tree) (onTree : next ∈ tree) :
    Frontier edge root (alsoRelaxed relaxed vertex next cost) tree candidates distance where
  rooted := frontier.rooted
  nodup := frontier.nodup
  shortest := frontier.shortest
  reaches := frontier.reaches
  relaxes := by
    rintro from_ to_ paid (earlier | ⟨rfl, rfl, rfl⟩)
    · exact frontier.relaxes _ _ _ earlier
    · exact .inl onTree
  fromTree := by
    rintro from_ to_ paid (earlier | ⟨rfl, rfl, rfl⟩)
    · exact frontier.fromTree _ _ _ earlier
    · exact fromTree

/-- The edge leads to a candidate that costs no more without it. -/
theorem keep (fromTree : vertex ∈ tree) (candidate : next ∈ candidates)
    (cheap : distance next ≤ distance vertex + cost) :
    Frontier edge root (alsoRelaxed relaxed vertex next cost) tree candidates distance where
  rooted := frontier.rooted
  nodup := frontier.nodup
  shortest := frontier.shortest
  reaches := frontier.reaches
  relaxes := by
    rintro from_ to_ paid (earlier | ⟨rfl, rfl, rfl⟩)
    · exact frontier.relaxes _ _ _ earlier
    · exact .inr ⟨candidate, cheap⟩
  fromTree := by
    rintro from_ to_ paid (earlier | ⟨rfl, rfl, rfl⟩)
    · exact frontier.fromTree _ _ _ earlier
    · exact fromTree

end

section Updates

variable [DecidableEq Vertex]

omit [AddCommMonoid Cost] [LinearOrder Cost] in
theorem update_of_mem_tree {fresh : Vertex} (outside : fresh ∉ tree)
    (fromTree : vertex ∈ tree) (cost : Cost) :
    update distance fresh cost vertex = distance vertex :=
  update_of_ne (ne_of_mem_of_not_mem fromTree outside) cost distance

section

variable (frontier : Frontier edge root relaxed tree candidates distance) (fromTree : vertex ∈ tree)
    (isEdge : edge vertex next cost)
include frontier fromTree isEdge

/-- The edge makes a candidate cheaper. -/
theorem lower (candidate : next ∈ candidates) (cheaper : distance vertex + cost ≤ distance next) :
    Frontier edge root (alsoRelaxed relaxed vertex next cost) tree candidates
      (update distance next (distance vertex + cost)) := by
  have outside := frontier.notMem_tree candidate
  constructor
  · exact frontier.rooted
  · exact frontier.nodup
  · intro _ onTree
    rw [update_of_mem_tree outside onTree]
    exact frontier.shortest _ onTree
  · intro member isCandidate
    by_cases same : member = next
    · rw [same, update_self]
      exact .step (frontier.shortest _ fromTree).1 isEdge
    · rw [update_of_ne same]
      exact frontier.reaches _ isCandidate
  · rintro from_ to_ paid (earlier | ⟨rfl, rfl, rfl⟩)
    · have source := frontier.fromTree _ _ _ earlier
      rw [update_of_mem_tree outside source]
      rcases frontier.relaxes _ _ _ earlier with onTree | ⟨isCandidate, cheap⟩
      · exact .inl onTree
      · refine .inr ⟨isCandidate, ?_⟩
        by_cases same : to_ = next
        · rw [same, update_self]
          exact cheaper.trans (same ▸ cheap)
        · rwa [update_of_ne same]
    · refine .inr ⟨candidate, ?_⟩
      rw [update_self, update_of_mem_tree outside fromTree]
  · rintro from_ to_ paid (earlier | ⟨rfl, rfl, rfl⟩)
    · exact frontier.fromTree from_ to_ paid earlier
    · exact fromTree

/-- The edge leads to a vertex that was not known. -/
theorem join (outside : next ∉ tree) (fresh : next ∉ candidates) :
    Frontier edge root (alsoRelaxed relaxed vertex next cost) tree (candidates ++ [next])
      (update distance next (distance vertex + cost)) := by
  constructor
  · exact frontier.rooted
  · rw [← append_assoc, nodup_append]
    refine ⟨frontier.nodup, nodup_singleton _, ?_⟩
    intro _ known _ isNext same
    rw [mem_singleton] at isNext
    rw [same, isNext, mem_append] at known
    exact known.elim outside fresh
  · intro _ onTree
    rw [update_of_mem_tree outside onTree]
    exact frontier.shortest _ onTree
  · intro member isCandidate
    rw [mem_append, mem_singleton] at isCandidate
    by_cases same : member = next
    · rw [same, update_self]
      exact .step (frontier.shortest _ fromTree).1 isEdge
    · rw [update_of_ne same]
      exact frontier.reaches _ (isCandidate.resolve_right same)
  · rintro from_ to_ paid (earlier | ⟨rfl, rfl, rfl⟩)
    · have source := frontier.fromTree _ _ _ earlier
      rw [update_of_mem_tree outside source]
      rcases frontier.relaxes from_ to_ paid earlier with onTree | ⟨isCandidate, cheap⟩
      · exact .inl onTree
      · have other : to_ ≠ next := fun same => fresh (same ▸ isCandidate)
        rw [update_of_ne other]
        exact .inr ⟨mem_append_left _ isCandidate, cheap⟩
    · refine .inr ⟨mem_append_right _ (mem_singleton_self _), ?_⟩
      rw [update_self, update_of_mem_tree outside fromTree]
  · rintro from_ to_ paid (earlier | ⟨rfl, rfl, rfl⟩)
    · exact frontier.fromTree from_ to_ paid earlier
    · exact fromTree

end

end Updates

section Costs

variable [CanonicallyOrderedAdd Cost]

/-- The root alone is a tree. -/
theorem initial {distance : Vertex → Cost} (zero : distance root = 0) :
    Frontier edge root (fun _ _ _ => False) [root] [] distance where
  rooted := mem_singleton_self root
  nodup := nodup_singleton root
  shortest := by
    intro _ isRoot
    rw [mem_singleton] at isRoot
    rw [isRoot, zero]
    exact ⟨.root, fun other _ => zero_le⟩
  reaches := by simp
  relaxes := by simp
  fromTree := by simp

variable [IsOrderedAddMonoid Cost]

section

variable (frontier : Frontier edge root relaxed tree candidates distance)
    (allRelaxed : ∀ vertex ∈ tree, ∀ next cost, edge vertex next cost → relaxed vertex next cost)
include frontier allRelaxed

/-- A path leads to the tree, or costs no less than some candidate. -/
theorem inside_or_above (path : Reaches edge root vertex total) :
    vertex ∈ tree ∨ ∃ candidate ∈ candidates, distance candidate ≤ total := by
  induction path with
  | root => exact .inl frontier.rooted
  | step path last induction =>
    rcases induction with onTree | ⟨candidate, known, cheap⟩
    · rcases frontier.relaxes _ _ _ (allRelaxed _ onTree _ _ last) with
        inside | ⟨isCandidate, cheap⟩
      · exact .inl inside
      · refine .inr ⟨_, isCandidate, cheap.trans ?_⟩
        exact add_le_add_left ((frontier.shortest _ onTree).2 _ path) _
    · exact .inr ⟨candidate, known, cheap.trans le_self_add⟩

/-- What is known of a candidate of least cost is the shortest path. -/
theorem shortest_of_least (candidate : vertex ∈ candidates)
    (least : ∀ other ∈ candidates, distance vertex ≤ distance other) :
    Shortest edge root vertex (distance vertex) := by
  refine ⟨frontier.reaches _ candidate, fun other path => ?_⟩
  rcases frontier.inside_or_above allRelaxed path with onTree | ⟨_, known, cheap⟩
  · exact absurd onTree (frontier.notMem_tree candidate)
  · exact (least _ known).trans cheap

end

/-- A candidate of least cost joins the tree. -/
theorem select [DecidableEq Vertex] (frontier : Frontier edge root relaxed tree candidates distance)
    (allRelaxed : ∀ vertex ∈ tree, ∀ next cost, edge vertex next cost → relaxed vertex next cost)
    (candidate : vertex ∈ candidates)
    (least : ∀ other ∈ candidates, distance vertex ≤ distance other) :
    Frontier edge root relaxed (tree ++ [vertex]) (candidates.erase vertex) distance where
  rooted := mem_append_left _ frontier.rooted
  nodup := by
    have moved : (tree ++ [vertex] ++ candidates.erase vertex).Perm (tree ++ candidates) := by
      rw [append_assoc]
      exact (perm_cons_erase candidate).symm.append_left _
    exact moved.nodup_iff.mpr frontier.nodup
  shortest := by
    intro _ joined
    rw [mem_append, mem_singleton] at joined
    rcases joined with onTree | rfl
    · exact frontier.shortest _ onTree
    · exact frontier.shortest_of_least allRelaxed candidate least
  reaches member isCandidate := frontier.reaches member (mem_of_mem_erase isCandidate)
  relaxes := by
    intro _ to_ _ earlier
    rcases frontier.relaxes _ _ _ earlier with onTree | ⟨isCandidate, cheap⟩
    · exact .inl (mem_append_left _ onTree)
    · by_cases same : to_ = vertex
      · left
        rw [same]
        exact mem_append_right _ (mem_singleton_self _)
      · exact .inr ⟨(mem_erase_of_ne same).mpr isCandidate, cheap⟩
  fromTree from_ to_ paid earlier := mem_append_left _ (frontier.fromTree from_ to_ paid earlier)

/-- Without candidates the tree holds all that can be reached. -/
theorem complete (frontier : Frontier edge root relaxed tree [] distance)
    (allRelaxed : ∀ vertex ∈ tree, ∀ next cost, edge vertex next cost → relaxed vertex next cost) :
    vertex ∈ tree ↔ ∃ cost, Reaches edge root vertex cost := by
  constructor
  · intro onTree
    exact ⟨_, (frontier.shortest _ onTree).1⟩
  · rintro ⟨_, path⟩
    rcases frontier.inside_or_above allRelaxed path with onTree | ⟨_, known, _⟩
    · exact onTree
    · cases known

end Costs

end Frontier

end Growing

end OmnetDsi.Library.ShortestPaths
