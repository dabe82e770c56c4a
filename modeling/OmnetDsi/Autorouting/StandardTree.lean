import OmnetDsi.Autorouting.FatTrees

/-!
# A fat tree for every port count

The nodes are numbered row by row, and the links of a node are listed in the
order of `neighbours`.  So there is a `FatTree h` for every `h`, and results
about fat trees can be applied to it.
-/

namespace OmnetDsi.Autorouting.StandardTree

open Autorouting.FatTrees

/-! ## Numbering the nodes -/

/-- The index of a node. -/
def place : Node h → Nat
  | .core group member => group.val * h + member.val
  | .aggregate pod position => h * h + (pod.val * h + position.val)
  | .edge pod position => 3 * (h * h) + (pod.val * h + position.val)
  | .host pod position slot => 5 * (h * h) + ((pod.val * h + position.val) * h + slot.val)
  | .controller => 5 * (h * h) + 2 * (h * h * h)

/-- Row and column of cell `i` in a table of `rows` rows of length `h`. -/
def cell (rows h i : Nat) (bound : i < rows * h) : Fin rows × Fin h :=
  (⟨i / h, Nat.div_lt_of_lt_mul (Nat.mul_comm rows h ▸ bound)⟩,
    ⟨i % h, Nat.mod_lt i (Nat.pos_of_mul_pos_left (Nat.zero_lt_of_lt bound))⟩)

theorem exists_cell (bound : i < rows * h) :
    ∃ (row : Fin rows) (column : Fin h), row.val * h + column.val = i :=
  ⟨(cell _ h i bound).1, (cell _ h i bound).2, Nat.div_add_mod' i h⟩

theorem index_lt (row : Fin rows) (column : Fin h) : row.val * h + column.val < rows * h := by
  calc
    row.val * h + column.val < row.val * h + h := Nat.add_lt_add_left column.isLt _
    _ = (row.val + 1) * h := (Nat.succ_mul _ _).symm
    _ ≤ rows * h := Nat.mul_le_mul_right h row.isLt

theorem cell_of_index (at_cell : i = row.val * h + column.val) (bound : i < rows * h) :
    cell rows h i bound = (row, column) := by
  have positive : 0 < h := Nat.zero_lt_of_lt column.isLt
  subst at_cell
  refine Prod.ext (Fin.ext ?_) (Fin.ext ?_)
  · show (row.val * h + column.val) / h = row.val
    rw [Nat.add_comm, Nat.add_mul_div_right _ _ positive,
      Nat.div_eq_of_lt column.isLt, Nat.zero_add]
  · exact Nat.mul_add_mod_of_lt column.isLt

theorem edges_count : 2 * h * h = 2 * (h * h) :=
  Nat.mul_assoc 2 h h

theorem hosts_count : 2 * h * h * h = 2 * (h * h * h) := by
  rw [Nat.mul_assoc 2 h h, Nat.mul_assoc 2 _ h]

theorem host_index_lt (pod : Fin (2 * h)) (position slot : Fin h) :
    (pod.val * h + position.val) * h + slot.val < 2 * (h * h * h) := by
  have inner := index_lt pod position
  have outer := index_lt (⟨pod.val * h + position.val, inner⟩ : Fin (2 * h * h)) slot
  rwa [hosts_count] at outer

/-- The node of an index. -/
def nodeAt (h i : Nat) : Option (Node h) :=
  if core : i < h * h then
    let at_cell := cell h h i core
    some (.core at_cell.1 at_cell.2)
  else if aggregate : i - h * h < 2 * h * h then
    let at_cell := cell (2 * h) h (i - h * h) aggregate
    some (.aggregate at_cell.1 at_cell.2)
  else if edge : i - 3 * (h * h) < 2 * h * h then
    let at_cell := cell (2 * h) h (i - 3 * (h * h)) edge
    some (.edge at_cell.1 at_cell.2)
  else if host : i - 5 * (h * h) < 2 * h * h * h then
    let at_slot := cell (2 * h * h) h (i - 5 * (h * h)) host
    let at_cell := cell (2 * h) h at_slot.1.val at_slot.1.isLt
    some (.host at_cell.1 at_cell.2 at_slot.2)
  else if i = 5 * (h * h) + 2 * (h * h * h) then some .controller
  else none

theorem nodeAt_place (node : Node h) : nodeAt h (place node) = some node := by
  have edges := edges_count (h := h)
  have hosts := hosts_count (h := h)
  unfold nodeAt
  cases node with
  | core group member =>
    have inside := index_lt group member
    rw [dif_pos (by simpa only [place] using inside)]
    simp only [cell_of_index (show place (.core group member) =
      group.val * h + member.val from rfl)]
  | aggregate pod position =>
    have inside := index_lt pod position
    have offset : place (.aggregate pod position) - h * h = pod.val * h + position.val := by
      simp only [place]
      omega
    rw [dif_neg (by simp only [place]; omega), dif_pos (by omega)]
    simp only [cell_of_index offset]
  | edge pod position =>
    have inside := index_lt pod position
    have offset : place (.edge pod position) - 3 * (h * h) = pod.val * h + position.val := by
      simp only [place]
      omega
    rw [dif_neg (by simp only [place]; omega),
      dif_neg (by simp only [place]; omega), dif_pos (by omega)]
    simp only [cell_of_index offset]
  | host pod position slot =>
    have outer := index_lt pod position
    have inside := host_index_lt pod position slot
    have offset :
        place (.host pod position slot) - 5 * (h * h) =
          (⟨pod.val * h + position.val, outer⟩ : Fin (2 * h * h)).val * h + slot.val := by
      simp only [place]
      omega
    rw [dif_neg (by simp only [place]; omega), dif_neg (by simp only [place]; omega),
      dif_neg (by simp only [place]; omega), dif_pos (by simp only [place]; omega)]
    simp only [cell_of_index offset, cell_of_index (show
      pod.val * h + position.val = pod.val * h + position.val from rfl)]
  | controller =>
    rw [dif_neg (by simp only [place]; omega), dif_neg (by simp only [place]; omega),
      dif_neg (by simp only [place]; omega), dif_neg (by simp only [place]; omega)]
    exact if_pos rfl

theorem place_injective : Function.Injective (place (h := h)) := by
  intro _ _ same
  have nodes := congrArg (nodeAt h) same
  rw [nodeAt_place, nodeAt_place] at nodes
  exact Option.some.inj nodes

theorem place_surjective (inside : i < 5 * (h * h) + 2 * (h * h * h) + 1) :
    ∃ node : Node h, place node = i := by
  have edges := edges_count (h := h)
  have hosts := hosts_count (h := h)
  by_cases core : i < h * h
  · rcases exists_cell core with ⟨_, _, index⟩
    exact ⟨.core _ _, index⟩
  · by_cases aggregate : i - h * h < 2 * h * h
    · rcases exists_cell aggregate with ⟨pod, position, index⟩
      refine ⟨.aggregate pod position, ?_⟩
      simp only [place, index]
      omega
    · by_cases edge : i - 3 * (h * h) < 2 * h * h
      · rcases exists_cell edge with ⟨pod, position, index⟩
        refine ⟨.edge pod position, ?_⟩
        simp only [place, index]
        omega
      · by_cases host : i - 5 * (h * h) < 2 * h * h * h
        · rcases exists_cell host with ⟨below, slot, outer⟩
          rcases exists_cell below.isLt with ⟨pod, position, inner⟩
          refine ⟨.host pod position slot, ?_⟩
          simp only [place, inner, outer]
          omega
        · refine ⟨.controller, ?_⟩
          simp only [place]
          omega

/-! ## The tree -/

/-- The topology whose links are listed in the order of `neighbours`. -/
def topology (h : Nat) : Topology where
  numNodes := 5 * (h * h) + 2 * (h * h * h) + 1
  hasRoutingTable := fun _ => true
  ipForward := fun i =>
    match nodeAt h i with
    | some node => !node.isHost
    | none => false
  links := fun i =>
    match nodeAt h i with
    | some node => (neighbours node).map place
    | none => []

def standard (h : Nat) : FatTree h where
  topo := topology h
  index := place
  numNodes := rfl
  injective := place_injective
  surjective := fun _ inside => place_surjective inside
  core := index_lt
  aggregate := fun pod position => by
    have bound := position.isLt
    simp only [place]
    omega
  edge := fun pod position => by
    have bound := position.isLt
    simp only [place]
    omega
  host := fun pod position slot => by
    have bound := host_index_lt pod position slot
    simp only [place]
    omega
  controller := rfl
  hasRoutingTable := fun _ => rfl
  ipForward := fun node other => by simp [topology, nodeAt_place, other]
  links := fun node => by
    simp only [topology, nodeAt_place]
    exact List.Perm.refl _

end OmnetDsi.Autorouting.StandardTree
