import OmnetDsi.Library.ShortestPaths
import Mathlib.Data.List.Perm.Subperm

/-!
# Relaxing all edges again and again

Every vertex has a label: the least cost known for it, or a bound that stands
for infinity, and the vertex that the cost comes from.  A round relaxes all
edges, one after another.

`Labelled` holds between any two relaxations; in particular the parents lead
back to the root, since an ancestor never costs more than its descendants.
After one round fewer than there are vertices no edge can be relaxed any more
(`settled_rounds`), and then the labels are the least costs (`shortest`).
-/

namespace OmnetDsi.Library.Relaxations

open Library.ShortestPaths

variable {Vertex Cost : Type*}

/-- The costs and the parents of all vertices. -/
structure Labels (Vertex Cost : Type*) where
  distance : Vertex → Cost
  parent : Vertex → Option Vertex

/-- The parents lead from the vertex to the root in so many steps. -/
inductive Follows (parent : Vertex → Option Vertex) (root : Vertex) : Nat → Vertex → Prop where
  | root : Follows parent root 0 root
  | step {steps : Nat} {vertex above : Vertex} (child : parent vertex = some above)
      (further : Follows parent root steps above) : Follows parent root (steps + 1) vertex

variable {steps : Nat} {all : List Vertex}

namespace Follows

variable {parent : Vertex → Option Vertex} {root vertex : Vertex}

variable (orphan : parent root = none)
include orphan

theorem unique {steps other : Nat} (follows : Follows parent root steps vertex)
    (again : Follows parent root other vertex) : steps = other := by
  induction follows generalizing other with
  | root =>
    cases again with
    | root => rfl
    | step child _ =>
      rw [orphan] at child
      cases child
  | step child _ hypothesis =>
    cases again with
    | root =>
      rw [orphan] at child
      cases child
    | step childAgain furtherAgain =>
      rw [child] at childAgain
      cases childAgain
      rw [hypothesis furtherAgain]

/-- The vertices on the way to the root are different. -/
theorem ancestors (follows : Follows parent root steps vertex) :
    ∃ line : List Vertex,
      line.length = steps + 1 ∧ line.Nodup ∧
        ∀ ancestor ∈ line, ∃ fewer ≤ steps, Follows parent root fewer ancestor := by
  induction follows with
  | root =>
    refine ⟨[root], rfl, List.nodup_singleton _, ?_⟩
    intro _ listed
    cases List.mem_singleton.mp listed
    exact ⟨0, le_rfl, .root⟩
  | @step steps vertex above child further hypothesis =>
    rcases hypothesis with ⟨line, length, nodup, fewer⟩
    have here : Follows parent root (steps + 1) vertex := .step child further
    refine ⟨vertex :: line, by simp [length], ?_, ?_⟩
    · refine List.nodup_cons.mpr ⟨?_, nodup⟩
      intro listed
      rcases fewer _ listed with ⟨less, bound, again⟩
      have same := here.unique orphan again
      omega
    · intro _ listed
      rcases List.mem_cons.mp listed with rfl | listed
      · exact ⟨steps + 1, le_rfl, here⟩
      · rcases fewer _ listed with ⟨less, bound, follows⟩
        exact ⟨less, bound.trans (Nat.le_succ _), follows⟩

theorem steps_lt (complete : ∀ steps vertex, Follows parent root steps vertex → vertex ∈ all)
    (follows : Follows parent root steps vertex) : steps < all.length := by
  rcases follows.ancestors orphan with ⟨line, _, nodup, fewer⟩
  have listed : line ⊆ all := by
    intro _ member
    rcases fewer _ member with ⟨_, -, follows⟩
    exact complete _ _ follows
  have short := (nodup.subperm listed).length_le
  omega

end Follows

variable [AddCommMonoid Cost] [LinearOrder Cost] [IsOrderedAddMonoid Cost]
variable {edge : Vertex → Vertex → Cost → Prop} {root : Vertex}

theorem reaches_nonneg (nonneg : ∀ vertex next cost, edge vertex next cost → 0 ≤ cost)
    (reaches : Reaches edge root vertex total) : 0 ≤ total := by
  induction reaches with
  | root => exact le_rfl
  | step _ last hypothesis => exact add_nonneg hypothesis (nonneg _ _ _ last)

/-! ## Labels -/

/-- What holds of the labels between two relaxations. -/
structure Labelled (edge : Vertex → Vertex → Cost → Prop) (root : Vertex)
    (infinity : Cost) (labels : Labels Vertex Cost) : Prop where
  zero : labels.distance root = 0
  orphan : labels.parent root = none
  bounded : ∀ vertex, labels.distance vertex ≤ infinity
  reaches :
    ∀ vertex, labels.distance vertex < infinity → Reaches edge root vertex (labels.distance vertex)
  parents :
    ∀ vertex above, labels.parent vertex = some above →
      ∃ cost, edge above vertex cost ∧ labels.distance above + cost ≤ labels.distance vertex
  follows :
    ∀ vertex, labels.distance vertex < infinity → ∃ steps, Follows labels.parent root steps vertex

/-- No edge lowers a label. -/
def Settled (edge : Vertex → Vertex → Cost → Prop) (labels : Labels Vertex Cost) : Prop :=
  ∀ vertex next cost, edge vertex next cost → labels.distance next ≤ labels.distance vertex + cost

variable {labels : Labels Vertex Cost} {infinity : Cost}

section Updates

variable [DecidableEq Vertex]

def Labels.lower (labels : Labels Vertex Cost) (vertex next : Vertex)
    (cost : Cost) : Labels Vertex Cost where
  distance := Function.update labels.distance next (labels.distance vertex + cost)
  parent := Function.update labels.parent next (some vertex)

omit [LinearOrder Cost] [IsOrderedAddMonoid Cost] in
theorem lower_next (labels : Labels Vertex Cost) (vertex next : Vertex) (cost : Cost) :
    (labels.lower vertex next cost).distance next = labels.distance vertex + cost ∧
      (labels.lower vertex next cost).parent next = some vertex := by
  simp [Labels.lower]

omit [LinearOrder Cost] [IsOrderedAddMonoid Cost] in
theorem lower_other (labels : Labels Vertex Cost) (vertex : Vertex)
    {next other : Vertex} (different : other ≠ next) (cost : Cost) :
    (labels.lower vertex next cost).distance other = labels.distance other ∧
      (labels.lower vertex next cost).parent other = labels.parent other := by
  simp [Labels.lower, different]

omit [IsOrderedAddMonoid Cost] in
theorem lower_le {vertex next : Vertex}
    (cheaper : labels.distance vertex + cost < labels.distance next) (other : Vertex) :
    (labels.lower vertex next cost).distance other ≤ labels.distance other := by
  by_cases same : other = next
  · subst same
    rw [(lower_next labels vertex other cost).1]
    exact cheaper.le
  · rw [(lower_other labels vertex same cost).1]

/-- The vertices up to the new parent keep their way to the root. -/
theorem follows_upper (labelled : Labelled edge root infinity labels)
    (nonneg : ∀ vertex next cost, edge vertex next cost → 0 ≤ cost)
    (follows : Follows labels.parent root steps upper)
    (cheaper : labels.distance upper < labels.distance next) :
    Follows (labels.lower vertex next cost).parent root steps upper := by
  induction follows with
  | root => exact .root
  | @step steps upper above child further hypothesis =>
    have different : upper ≠ next := by
      rintro rfl
      exact lt_irrefl _ cheaper
    rcases labelled.parents _ _ child with ⟨_, last, most⟩
    have less : labels.distance above ≤ labels.distance upper :=
      (le_add_of_nonneg_right (nonneg _ _ _ last)).trans most
    refine .step ?_ (hypothesis (less.trans_lt cheaper))
    rwa [(lower_other _ _ different _).2]

omit [LinearOrder Cost] [IsOrderedAddMonoid Cost] in
theorem follows_lower {vertex next : Vertex} {above : Nat}
    (upper : Follows (labels.lower vertex next cost).parent root above vertex) {other : Vertex}
    (follows : Follows labels.parent root steps other) :
    ∃ more, Follows (labels.lower vertex next cost).parent root more other := by
  induction follows with
  | root => exact ⟨0, .root⟩
  | @step steps other parent child further hypothesis =>
    by_cases same : other = next
    · subst same
      exact ⟨above + 1, .step (lower_next labels vertex other cost).2 upper⟩
    · rcases hypothesis with ⟨more, follows⟩
      refine ⟨more + 1, .step ?_ follows⟩
      rw [(lower_other labels vertex same cost).2]
      exact child

theorem Labelled.lower (labelled : Labelled edge root infinity labels)
    (nonneg : ∀ vertex next cost, edge vertex next cost → 0 ≤ cost) (last : edge vertex next cost)
    (cheaper : labels.distance vertex + cost < labels.distance next) :
    Labelled edge root infinity (labels.lower vertex next cost) := by
  have above : labels.distance vertex < labels.distance next :=
    (le_add_of_nonneg_right (nonneg _ _ _ last)).trans_lt cheaper
  have finite : labels.distance vertex < infinity := above.trans_le (labelled.bounded _)
  have path := labelled.reaches _ finite
  have notRoot : root ≠ next := by
    rintro rfl
    rw [labelled.zero] at above
    exact absurd (reaches_nonneg nonneg path) (not_le.mpr above)
  have different : vertex ≠ next := by
    rintro rfl
    exact lt_irrefl _ above
  rcases labelled.follows _ finite with ⟨steps, follows⟩
  have upper : Follows (labels.lower vertex next cost).parent root steps vertex :=
    follows_upper labelled nonneg follows above
  refine
    { zero := ?_
      orphan := ?_
      bounded := fun other => (lower_le cheaper other).trans (labelled.bounded other)
      reaches := ?_
      parents := ?_
      follows := ?_ }
  · rw [(lower_other labels vertex notRoot cost).1]
    exact labelled.zero
  · rw [(lower_other labels vertex notRoot cost).2]
    exact labelled.orphan
  · intro other below
    by_cases same : other = next
    · subst same
      rw [(lower_next labels vertex other cost).1]
      exact .step path last
    · rw [(lower_other labels vertex same cost).1] at below ⊢
      exact labelled.reaches other below
  · intro other parent child
    by_cases same : other = next
    · subst same
      rw [(lower_next labels vertex other cost).2] at child
      cases child
      refine ⟨cost, last, ?_⟩
      rw [(lower_next labels vertex other cost).1, (lower_other labels vertex different cost).1]
    · rw [(lower_other labels vertex same cost).2] at child
      rcases labelled.parents other parent child with ⟨paid, joined, most⟩
      refine ⟨paid, joined, ?_⟩
      rw [(lower_other labels vertex same cost).1]
      have less := add_le_add_left (lower_le cheaper parent) paid
      exact le_trans (by simpa [add_comm] using less) most
  · intro other below
    by_cases same : other = next
    · subst same
      exact ⟨steps + 1, .step (lower_next labels vertex other cost).2 upper⟩
    · rw [(lower_other labels vertex same cost).1] at below
      rcases labelled.follows other below with ⟨_, way⟩
      exact follows_lower upper way

end Updates

omit [IsOrderedAddMonoid Cost] in
/-- Before any relaxation only the root has a cost. -/
theorem Labelled.initial (nonneg : 0 ≤ infinity) (zero : labels.distance root = 0)
    (others : ∀ vertex ≠ root, labels.distance vertex = infinity)
    (orphans : ∀ vertex, labels.parent vertex = none) : Labelled edge root infinity labels where
  zero
  orphan := orphans root
  bounded vertex := by
    by_cases same : vertex = root
    · rw [same, zero]
      exact nonneg
    · rw [others vertex same]
  reaches vertex finite := by
    by_cases same : vertex = root
    · rw [same, zero]
      exact .root
    · rw [others vertex same] at finite
      exact absurd finite (lt_irrefl infinity)
  parents vertex above child := by
    rw [orphans vertex] at child
    cases child
  follows vertex finite := by
    by_cases same : vertex = root
    · rw [same]
      exact ⟨0, .root⟩
    · rw [others vertex same] at finite
      exact absurd finite (lt_irrefl infinity)

omit [IsOrderedAddMonoid Cost] in
theorem Labelled.parent_exact (labelled : Labelled edge root infinity labels)
    (settled : Settled edge labels) {vertex above : Vertex}
    (child : labels.parent vertex = some above) :
    ∃ cost, edge above vertex cost ∧ labels.distance above + cost = labels.distance vertex := by
  rcases labelled.parents vertex above child with ⟨cost, last, most⟩
  exact ⟨cost, last, le_antisymm most (settled above vertex cost last)⟩

theorem Labelled.least (labelled : Labelled edge root infinity labels)
    (settled : Settled edge labels) (reaches : Reaches edge root vertex total) :
    labels.distance vertex ≤ total := by
  induction reaches with
  | root => exact labelled.zero.le
  | @step vertex next total cost path last hypothesis =>
    have most := settled _ _ _ last
    exact most.trans (by gcongr)

theorem Labelled.shortest (labelled : Labelled edge root infinity labels)
    (settled : Settled edge labels) (finite : labels.distance vertex < infinity) :
    Shortest edge root vertex (labels.distance vertex) :=
  ⟨labelled.reaches _ finite, fun _ => labelled.least settled⟩

/-! ## Paths without repetitions -/

/-- A path that visits these vertices, the last one first, once each. -/
inductive Simple (edge : Vertex → Vertex → Cost → Prop) (root : Vertex) :
    List Vertex → Vertex → Cost → Prop where
  | root : Simple edge root [root] root 0
  | step {visited : List Vertex} {vertex next : Vertex} {total cost : Cost}
      (path : Simple edge root visited vertex total)
      (last : edge vertex next cost) (fresh : next ∉ visited) :
      Simple edge root (next :: visited) next (total + cost)

omit [LinearOrder Cost] [IsOrderedAddMonoid Cost] in
theorem Simple.nodup {visited : List Vertex}
    (simple : Simple edge root visited vertex total) : visited.Nodup := by
  induction simple with
  | root => exact List.nodup_singleton root
  | step _ _ fresh hypothesis => exact List.nodup_cons.mpr ⟨fresh, hypothesis⟩

omit [LinearOrder Cost] [IsOrderedAddMonoid Cost] in
theorem Simple.subset (rooted : root ∈ all)
    (complete : ∀ vertex next cost, edge vertex next cost → next ∈ all) {visited : List Vertex}
    (simple : Simple edge root visited vertex total) : visited ⊆ all := by
  induction simple with
  | root => simpa using rooted
  | step _ last _ hypothesis => exact List.cons_subset.mpr ⟨complete _ _ _ last, hypothesis⟩

/-- The path to a vertex that a path visits. -/
theorem Simple.visited (nonneg : ∀ vertex next cost, edge vertex next cost → 0 ≤ cost)
    {visited : List Vertex} (simple : Simple edge root visited vertex total)
    (listed : earlier ∈ visited) :
    ∃ before less, Simple edge root before earlier less ∧ less ≤ total := by
  induction simple with
  | root =>
    cases List.mem_singleton.mp listed
    exact ⟨[root], 0, .root, le_rfl⟩
  | @step visited vertex next total cost path last fresh hypothesis =>
    rcases List.mem_cons.mp listed with rfl | listed
    · exact ⟨_, _, .step path last fresh, le_rfl⟩
    · rcases hypothesis listed with ⟨before, less, simple, bound⟩
      exact ⟨before, less, simple, bound.trans (le_add_of_nonneg_right (nonneg _ _ _ last))⟩

theorem simple_of_reaches (nonneg : ∀ vertex next cost, edge vertex next cost → 0 ≤ cost)
    (reaches : Reaches edge root vertex total) :
    ∃ visited less, Simple edge root visited vertex less ∧ less ≤ total := by
  induction reaches with
  | root => exact ⟨[root], 0, .root, le_rfl⟩
  | @step vertex next total cost path last hypothesis =>
    rcases hypothesis with ⟨visited, less, simple, bound⟩
    by_cases listed : next ∈ visited
    · rcases simple.visited nonneg listed with ⟨before, least, again, below⟩
      exact ⟨before, least, again, (below.trans bound).trans
        (le_add_of_nonneg_right (nonneg _ _ _ last))⟩
    · exact ⟨next :: visited, less + cost, .step simple last listed, by gcongr⟩

/-! ## Rounds -/

section Rounds

variable [DecidableEq Vertex]

/-- An edge lowers the label of the vertex it leads to, if it can. -/
def Labels.relax (labels : Labels Vertex Cost)
    (edge : Vertex × Vertex × Cost) : Labels Vertex Cost :=
  if labels.distance edge.1 + edge.2.2 ≥ labels.distance edge.2.1 then labels
  else labels.lower edge.1 edge.2.1 edge.2.2

def Labels.round (edges : List (Vertex × Vertex × Cost))
    (labels : Labels Vertex Cost) : Labels Vertex Cost :=
  edges.foldl Labels.relax labels

omit [IsOrderedAddMonoid Cost] in
theorem relax_le (labels : Labels Vertex Cost) (edge : Vertex × Vertex × Cost) (vertex : Vertex) :
    (labels.relax edge).distance vertex ≤ labels.distance vertex := by
  unfold Labels.relax
  split_ifs with dear
  · exact le_rfl
  · exact lower_le (not_le.mp dear) vertex

omit [IsOrderedAddMonoid Cost] in
theorem relax_next (labels : Labels Vertex Cost) (edge : Vertex × Vertex × Cost) :
    (labels.relax edge).distance edge.2.1 ≤ labels.distance edge.1 + edge.2.2 := by
  unfold Labels.relax
  split_ifs with dear
  · exact dear
  · exact (lower_next labels edge.1 edge.2.1 edge.2.2).1.le

omit [IsOrderedAddMonoid Cost] in
theorem round_le (edges : List (Vertex × Vertex × Cost))
    (labels : Labels Vertex Cost) (vertex : Vertex) :
    (labels.round edges).distance vertex ≤ labels.distance vertex := by
  induction edges generalizing labels with
  | nil => exact le_rfl
  | cons first _ hypothesis =>
    exact (hypothesis (labels.relax first)).trans (relax_le labels first vertex)

theorem round_next (labels : Labels Vertex Cost) {edge : Vertex × Vertex × Cost}
    (listed : edge ∈ edges) :
    (labels.round edges).distance edge.2.1 ≤ labels.distance edge.1 + edge.2.2 := by
  induction edges generalizing labels with
  | nil => cases listed
  | cons first rest hypothesis =>
    rcases List.mem_cons.mp listed with rfl | listed
    · exact (round_le rest _ _).trans (relax_next _ _)
    · have bound := hypothesis (labels.relax first) listed
      have less := relax_le labels first edge.1
      exact bound.trans (by gcongr)

omit [IsOrderedAddMonoid Cost] in
theorem rounds_le (edges : List (Vertex × Vertex × Cost))
    (labels : Labels Vertex Cost) (count : Nat) (vertex : Vertex) :
    ((Labels.round edges)^[count] labels).distance vertex ≤ labels.distance vertex := by
  induction count with
  | zero => exact le_rfl
  | succ _ hypothesis =>
    rw [Function.iterate_succ_apply']
    exact (round_le edges _ vertex).trans hypothesis

/-- A path with one edge for each round costs no less than the label. -/
theorem rounds_simple (zero : labels.distance root = 0)
    (simple : Simple (fun vertex next cost => (vertex, next, cost) ∈ edges)
      root visited vertex total)
    (enough : visited.length ≤ count + 1) :
    ((Labels.round edges)^[count] labels).distance vertex ≤ total := by
  induction simple generalizing count with
  | root => exact (rounds_le _ _ _ _).trans zero.le
  | @step visited vertex next total cost path last fresh hypothesis =>
    cases count with
    | zero => cases path <;> simp at enough
    | succ _ =>
      have bound := hypothesis (Nat.le_of_succ_le_succ enough)
      rw [Function.iterate_succ_apply']
      exact (round_next _ last).trans (by gcongr)

section

variable (labelled : Labelled edge root infinity labels)
    (nonneg : ∀ vertex next cost, edge vertex next cost → 0 ≤ cost)
include labelled nonneg

theorem Labelled.relax (joined : edge last.1 last.2.1 last.2.2) :
    Labelled edge root infinity (labels.relax last) := by
  unfold Labels.relax
  split_ifs with dear
  · exact labelled
  · exact labelled.lower nonneg joined (not_le.mp dear)

theorem Labelled.round (joined : ∀ last ∈ edges, edge last.1 last.2.1 last.2.2) :
    Labelled edge root infinity (labels.round edges) := by
  induction edges generalizing labels with
  | nil => exact labelled
  | cons _ _ hypothesis =>
    exact hypothesis (labelled.relax nonneg (joined _ (List.mem_cons_self ..)))
      fun last listed => joined _ (List.mem_cons_of_mem _ listed)

theorem Labelled.rounds (joined : ∀ last ∈ edges, edge last.1 last.2.1 last.2.2) (count : Nat) :
    Labelled edge root infinity ((Labels.round edges)^[count] labels) := by
  induction count with
  | zero => exact labelled
  | succ _ hypothesis =>
    rw [Function.iterate_succ_apply']
    exact hypothesis.round nonneg joined

end

/-- One round fewer than there are vertices is enough. -/
theorem settled_rounds
    (labelled : Labelled (fun vertex next cost => (vertex, next, cost) ∈ edges)
      root infinity labels)
    (nonneg : ∀ last ∈ edges, 0 ≤ last.2.2)
    (rooted : root ∈ all)
    (complete : ∀ last ∈ edges, last.2.1 ∈ all)
    (enough : all.length ≤ count + 1) :
    Settled (fun vertex next cost => (vertex, next, cost) ∈ edges)
      ((Labels.round edges)^[count] labels) := by
  have after := labelled.rounds (fun _ _ _ last => nonneg _ last) (fun _ listed => listed) count
  intro _ _ _ last
  rcases (after.bounded _).lt_or_eq with finite | endless
  · rcases simple_of_reaches (fun _ _ _ last => nonneg _ last)
      (.step (after.reaches _ finite) last) with ⟨visited, less, simple, bound⟩
    have listed : visited ⊆ all := simple.subset rooted fun _ _ _ joined => complete _ joined
    have short := (simple.nodup.subperm listed).length_le
    exact (rounds_simple labelled.zero simple (short.trans enough)).trans bound
  · rw [endless]
    exact (after.bounded _).trans (le_add_of_nonneg_right (nonneg _ last))

end Rounds

end OmnetDsi.Library.Relaxations
