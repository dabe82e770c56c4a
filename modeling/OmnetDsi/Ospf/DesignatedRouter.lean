import Mathlib.Data.Prod.Lex
import OmnetDsi.Library.Selections
import OmnetDsi.Ospf.ReliableFlooding

/-!
# The election of the designated router

A round of `CalculateDesignatedRouter` goes through the neighbours twice, and
after each loop the router looks at itself.  The highest of those that declare
themselves neither DR nor BDR is used in the second part only, so it is lost
where the router itself does not take part.

A round is followed by a second one if the router has become DR or BDR, or has
lost a role to another router.
-/

namespace OmnetDsi.Ospf.DesignatedRouter

open List
open Library.Selections
open Ospf.HelloPackets (DesignatedRouterID)
open Ospf.ReliableFlooding (NeighborStateType NullDesignatedRouterID)

/-! ## The calculation -/

structure Neighbor where
  neighborID : Nat
  neighborIPAddress : Nat
  state : NeighborStateType
  neighborPriority : Nat
  neighborsDesignatedRouter : DesignatedRouterID
  neighborsBackupDesignatedRouter : DesignatedRouterID

/-- An interface, with the ID of its router. -/
structure Interface where
  routerID : Nat
  address : Nat
  routerPriority : Nat
  designatedRouter : DesignatedRouterID
  backupDesignatedRouter : DesignatedRouterID
  neighboringRouters : List Neighbor

/-- A router that was found, with its priority and ID, and whether there is one. -/
structure Declared where
  router : DesignatedRouterID := NullDesignatedRouterID
  priority : Nat := 0
  routerID : Nat := 0
  declared : Bool := false

/-- The router is found if it has a higher priority, or the same and a higher ID. -/
def Declared.consider (current : Declared) (router : DesignatedRouterID) (priority : Nat) :
    Declared :=
  if priority > current.priority ∨
      priority = current.priority ∧ router.routerID > current.routerID then
    { router, priority, routerID := router.routerID, declared := true }
  else current

namespace Neighbor

/-- The router of the neighbour itself. -/
def self (neighbor : Neighbor) : DesignatedRouterID where
  routerID := neighbor.neighborID
  ipInterfaceAddress := neighbor.neighborIPAddress

def eligible (neighbor : Neighbor) : Bool :=
  ¬neighbor.state.toNat < NeighborStateType.twoWayState.toNat && neighbor.neighborPriority ≠ 0

def declaresDesignated (neighbor : Neighbor) : Bool :=
  neighbor.neighborsDesignatedRouter.routerID = neighbor.neighborID

def declaresBackup (neighbor : Neighbor) : Bool :=
  neighbor.neighborsBackupDesignatedRouter.routerID = neighbor.neighborID

end Neighbor

/-- The roles that are current in a round. -/
structure Roles where
  designatedRouter : DesignatedRouterID
  backupDesignatedRouter : DesignatedRouterID
deriving DecidableEq

namespace Interface

def self (intf : Interface) : DesignatedRouterID where
  routerID := intf.routerID
  ipInterfaceAddress := intf.address

/-- The turn of the first loop: the declared backup, and the highest router. -/
def backupTurn (current : Declared × Declared) (neighbor : Neighbor) : Declared × Declared :=
  if neighbor.eligible then
    if ¬neighbor.declaresDesignated then
      let declaredBackup :=
        if neighbor.declaresBackup then
          current.1.consider neighbor.neighborsBackupDesignatedRouter neighbor.neighborPriority
        else current.1
      (declaredBackup,
        if ¬declaredBackup.declared then current.2.consider neighbor.self neighbor.neighborPriority
        else current.2)
    else current
  else current

/-- The router includes itself in the calculation of the backup. -/
def includeInBackup (intf : Interface) (current : Roles) (found : Declared × Declared) : Declared :=
  if intf.routerPriority > 0 ∧ current.designatedRouter.routerID ≠ intf.routerID then
    let declaredBackup :=
      if current.backupDesignatedRouter.routerID = intf.routerID then
        found.1.consider intf.self intf.routerPriority
      else found.1
    if ¬declaredBackup.declared then
      { found.2.consider intf.self intf.routerPriority with declared := true }
    else declaredBackup
  else found.1

def designatedTurn (current : Declared) (neighbor : Neighbor) : Declared :=
  if neighbor.eligible ∧ neighbor.declaresDesignated then
    current.consider neighbor.neighborsDesignatedRouter neighbor.neighborPriority
  else current

def includeInDesignated (intf : Interface) (current : Roles) (found : Declared) : Declared :=
  if intf.routerPriority > 0 ∧ current.designatedRouter.routerID = intf.routerID then
    found.consider intf.self intf.routerPriority
  else found

/-- One round: the declared designated router and the declared backup. -/
def round (intf : Interface) (current : Roles) : Roles :=
  let declaredBackup :=
    intf.includeInBackup current (intf.neighboringRouters.foldl backupTurn ({}, {}))
  let declaredDesignatedRouter :=
    intf.includeInDesignated current (intf.neighboringRouters.foldl designatedTurn {})
  { designatedRouter :=
      if declaredDesignatedRouter.declared then declaredDesignatedRouter.router
      else declaredBackup.router
    backupDesignatedRouter := declaredBackup.router }

/-- The condition under which a role makes the round be repeated. -/
def roleRepeats (intf : Interface) (current declared : Nat) : Bool :=
  declared ≠ 0 && (current = intf.routerID && declared ≠ intf.routerID) ||
    current ≠ intf.routerID && declared = intf.routerID

def repeats (intf : Interface) (current declared : Roles) : Bool :=
  intf.roleRepeats current.designatedRouter.routerID declared.designatedRouter.routerID ||
    intf.roleRepeats current.backupDesignatedRouter.routerID
      declared.backupDesignatedRouter.routerID

/-- The loop: the number of its rounds, and the routers that the last one declares. -/
def electFrom (intf : Interface) (repeatCount : Nat) (current : Roles) : Nat × Roles :=
  let declared := intf.round current
  let next := if intf.repeats current declared then (declared, repeatCount + 1)
    else (current, repeatCount + 2)
  if next.2 < 2 then
    let rest := electFrom intf next.2 next.1
    (rest.1 + 1, rest.2)
  else (1, declared)
termination_by 2 - repeatCount
decreasing_by grind

def CalculateDesignatedRouter (intf : Interface) : Nat × Roles :=
  intf.electFrom 0 ⟨intf.designatedRouter, intf.backupDesignatedRouter⟩

end Interface

/-! ## What it is for -/

structure Candidate where
  router : DesignatedRouterID
  priority : Nat

def Candidate.rank (candidate : Candidate) : ℕ ×ₗ ℕ :=
  toLex (candidate.priority, candidate.router.routerID)

namespace Neighbor

def stands (neighbor : Neighbor) : Bool :=
  neighbor.eligible && !neighbor.declaresDesignated

def asSelf (neighbor : Neighbor) : Candidate where
  router := neighbor.self
  priority := neighbor.neighborPriority

def asBackup (neighbor : Neighbor) : Candidate where
  router := neighbor.neighborsBackupDesignatedRouter
  priority := neighbor.neighborPriority

def asDesignated (neighbor : Neighbor) : Candidate where
  router := neighbor.neighborsDesignatedRouter
  priority := neighbor.neighborPriority

end Neighbor

def candidates (takesPart : Neighbor → Bool) (candidate : Neighbor → Candidate)
    (neighbors : List Neighbor) : List Candidate :=
  (neighbors.filter takesPart).map candidate

/-- The ID of the highest candidate, or the null ID. -/
def elected (candidates : List Candidate) : Nat :=
  (candidates.argmax Candidate.rank).elim 0 (·.router.routerID)

namespace Interface

variable (intf : Interface) (current : Roles)

/-- The router stands for backup. -/
def participates : Bool :=
  intf.routerPriority > 0 && current.designatedRouter.routerID ≠ intf.routerID

def selfIf (stands : Bool) : List Candidate :=
  if stands then [{ router := intf.self, priority := intf.routerPriority }] else []

/-- The eligible routers that do not declare themselves DR. -/
def standing : List Candidate :=
  candidates Neighbor.stands Neighbor.asSelf intf.neighboringRouters ++
    intf.selfIf (intf.participates current)

/-- Those of them that declare themselves BDR. -/
def declaring : List Candidate :=
  candidates (fun neighbor => neighbor.stands && neighbor.declaresBackup) Neighbor.asBackup
      intf.neighboringRouters ++
    intf.selfIf (intf.participates current &&
      current.backupDesignatedRouter.routerID = intf.routerID)

/-- The eligible routers that declare themselves DR. -/
def designating : List Candidate :=
  candidates (fun neighbor => neighbor.eligible && neighbor.declaresDesignated)
      Neighbor.asDesignated intf.neighboringRouters ++
    intf.selfIf (intf.routerPriority > 0 && current.designatedRouter.routerID = intf.routerID)

def electedBackup : Nat :=
  if (intf.declaring current).isEmpty then elected (intf.standing current)
  else elected (intf.declaring current)

def electedDesignated (backup : Nat) : Nat :=
  if (intf.designating current).isEmpty then backup else elected (intf.designating current)

/-- The router takes on a role or loses it. -/
def roleChanged (current declared : Nat) : Prop :=
  ¬(current = intf.routerID ↔ declared = intf.routerID)

/-- The router loses a role that nobody has then. -/
def roleVacant (current declared : Nat) : Prop :=
  current = intf.routerID ∧ declared ≠ intf.routerID ∧ declared = 0

/-- The ID that is chosen is that of the router, or of an eligible neighbour. -/
def Known (chosen : Nat) : Prop :=
  chosen ≠ 0 → chosen ≠ intf.routerID →
    ∃ neighbor ∈ intf.neighboringRouters, neighbor.eligible ∧ neighbor.neighborID = chosen

/-- What a round from the current roles is to declare, and when it is repeated. -/
structure ElectsRightly : Prop where
  backup : (intf.round current).backupDesignatedRouter.routerID = intf.electedBackup current
  designated :
    (intf.round current).designatedRouter.routerID =
      intf.electedDesignated current (intf.round current).backupDesignatedRouter.routerID
  repeated :
    intf.roleChanged current.designatedRouter.routerID
          (intf.round current).designatedRouter.routerID ∨
        intf.roleChanged current.backupDesignatedRouter.routerID
          (intf.round current).backupDesignatedRouter.routerID →
      intf.electFrom 0 current = (2, intf.round (intf.round current))
  once :
    ¬(intf.roleChanged current.designatedRouter.routerID
          (intf.round current).designatedRouter.routerID ∨
        intf.roleChanged current.backupDesignatedRouter.routerID
          (intf.round current).backupDesignatedRouter.routerID) →
      intf.electFrom 0 current = (1, intf.round current)
  designatedKnown : intf.Known (intf.round current).designatedRouter.routerID
  backupKnown : intf.Known (intf.round current).backupDesignatedRouter.routerID

/--
The router takes part, or a declared backup or nobody at all stands; and if
it loses a role that stays vacant, the other one makes the round be repeated.
-/
structure Contested : Prop where
  backup :
    intf.participates current ∨ ¬(intf.declaring current).isEmpty ∨
      elected (intf.standing current) = 0
  repeated : let backup := intf.electedBackup current
    let designated := intf.electedDesignated current backup
    intf.roleVacant current.designatedRouter.routerID designated ∨
        intf.roleVacant current.backupDesignatedRouter.routerID backup →
      intf.roleRepeats current.designatedRouter.routerID designated ∨
        intf.roleRepeats current.backupDesignatedRouter.routerID backup

end Interface

/-! ## The loops -/

def Candidate.declared (candidate : Candidate) : Declared where
  router := candidate.router
  priority := candidate.priority
  routerID := candidate.router.routerID
  declared := true

def Declared.rank (current : Declared) : ℕ ×ₗ ℕ :=
  toLex (current.priority, current.routerID)

/-- A loop over candidates. -/
def pick (candidates : List Candidate) : Declared :=
  candidates.foldl (fun current candidate =>
    current.consider candidate.router candidate.priority) {}

theorem consider_eq (current : Declared) (candidate : Candidate) :
    current.consider candidate.router candidate.priority =
      keep Candidate.rank Declared.rank Candidate.declared current candidate := by
  unfold Declared.consider keep Candidate.rank Declared.rank
  refine if_congr ?_ rfl rfl
  rw [Prod.Lex.toLex_lt_toLex]
  grind

theorem pick_append (candidates : List Candidate) (last : Candidate) :
    pick (candidates ++ [last]) = (pick candidates).consider last.router last.priority := by
  rw [pick, foldl_append]
  rfl

section

variable {candidates : List Candidate} (positive : ∀ candidate ∈ candidates, 0 < candidate.priority)
include positive

theorem pick_eq :
    pick candidates = (candidates.argmax Candidate.rank).elim {} Candidate.declared := by
  simp only [pick, consider_eq]
  refine @foldl_keep_of_lt _ _ _ _ Candidate.rank Declared.rank Candidate.declared
    (fun _ => rfl) _ _ fun candidate member => ?_
  exact Prod.Lex.toLex_lt_toLex.mpr (.inl (positive _ member))

theorem pick_id : (pick candidates).router.routerID = elected candidates := by
  rw [pick_eq positive, elected]
  cases candidates.argmax Candidate.rank <;> rfl

theorem pick_declared : (pick candidates).declared = !candidates.isEmpty := by
  rw [pick_eq positive]
  cases found : candidates.argmax Candidate.rank with
  | none =>
    rw [argmax_eq_none.mp found]
    rfl
  | some _ =>
    have member := argmax_mem found
    cases candidates with
    | nil => cases member
    | cons => rfl

end

namespace Interface

variable (intf : Interface) (current : Roles)

theorem candidates_concat (takesPart : Neighbor → Bool) (candidate : Neighbor → Candidate)
    (front : List Neighbor) (last : Neighbor) :
    candidates takesPart candidate (front ++ [last]) =
      candidates takesPart candidate front ++ if takesPart last then [candidate last] else [] := by
  rw [candidates, filter_append, map_append, filter_singleton]
  cases takesPart last <;> rfl

theorem consider_declared {found : Declared}
    (nothing : (found.consider router priority).declared = false) : found.declared = false := by
  unfold Declared.consider at nothing
  split_ifs at nothing
  exact nothing

theorem foldl_backupTurn (neighbors : List Neighbor) :
    let found := neighbors.foldl backupTurn ({}, {})
    found.1 = pick (candidates (fun neighbor => neighbor.stands && neighbor.declaresBackup)
        Neighbor.asBackup neighbors) ∧
      (found.1.declared = false →
        found.2 = pick (candidates Neighbor.stands Neighbor.asSelf neighbors)) := by
  induction neighbors using reverseRecOn with
  | nil => exact ⟨rfl, fun _ => rfl⟩
  | append_singleton front last induction =>
    rw [foldl_append, candidates_concat, candidates_concat, foldl_cons, foldl_nil]
    generalize front.foldl backupTurn ({}, {}) = found at induction ⊢
    rcases induction with ⟨first, second⟩
    unfold backupTurn Neighbor.stands
    cases last.eligible with
    | false => simpa using ⟨first, second⟩
    | true =>
      cases last.declaresDesignated with
      | true => simpa using ⟨first, second⟩
      | false =>
        cases last.declaresBackup with
        | true =>
          simp only [Bool.not_false, Bool.and_true, if_true, Bool.false_eq_true, not_false_eq_true,
            pick_append]
          refine ⟨by rw [first]; rfl, fun nothing => ?_⟩
          rw [if_pos (by simpa using nothing), second (consider_declared nothing)]
          rfl
        | false =>
          simp only [Bool.not_false, Bool.and_true, Bool.and_false, if_true, if_false,
            Bool.false_eq_true, not_false_eq_true, pick_append, append_nil]
          refine ⟨first, fun nothing => ?_⟩
          rw [if_pos (by simpa using nothing), second nothing]
          rfl

theorem foldl_designatedTurn (neighbors : List Neighbor) :
    neighbors.foldl designatedTurn {} =
      pick (candidates (fun neighbor => neighbor.eligible && neighbor.declaresDesignated)
        Neighbor.asDesignated neighbors) := by
  induction neighbors using reverseRecOn with
  | nil => rfl
  | append_singleton _ last induction =>
    rw [foldl_append, candidates_concat, foldl_cons, foldl_nil, induction, designatedTurn]
    cases last.eligible <;> cases last.declaresDesignated <;>
      simp [pick_append, Neighbor.asDesignated]

theorem candidates_positive
    {stands : Bool} (eligible : ∀ neighbor, takesPart neighbor → neighbor.eligible)
    (priority : ∀ neighbor, (candidate neighbor).priority = neighbor.neighborPriority)
    (own : stands → 0 < intf.routerPriority) :
    ∀ found ∈ candidates takesPart candidate intf.neighboringRouters ++ intf.selfIf stands,
      0 < found.priority := by
  intro _ member
  rcases mem_append.mp member with among | self
  · rcases mem_map.mp among with ⟨_, kept, rfl⟩
    have able := eligible _ (mem_filter.mp kept).2
    unfold Neighbor.eligible at able
    grind
  · unfold selfIf at self
    split_ifs at self with yes
    · rw [mem_singleton.mp self]
      exact own yes
    · cases self

theorem standing_positive : ∀ found ∈ intf.standing current, 0 < found.priority :=
  intf.candidates_positive (by unfold Neighbor.stands; grind) (fun _ => rfl)
    (by unfold participates; grind)

theorem declaring_positive : ∀ found ∈ intf.declaring current, 0 < found.priority :=
  intf.candidates_positive (by unfold Neighbor.stands; grind) (fun _ => rfl)
    (by unfold participates; grind)

theorem designating_positive : ∀ found ∈ intf.designating current, 0 < found.priority :=
  intf.candidates_positive (by grind) (fun _ => rfl) (by grind)

theorem elected_empty (nothing : found.isEmpty = true) : elected found = 0 := by
  rw [isEmpty_iff.mp nothing]
  rfl

theorem pick_selfIf (neighbors : List Candidate) (stands : Bool) :
    pick (neighbors ++ intf.selfIf stands) =
      if stands then (pick neighbors).consider intf.self intf.routerPriority
      else pick neighbors := by
  cases stands with
  | false => exact congrArg _ (append_nil _)
  | true => exact pick_append _ _

/-- The backup is elected if the router takes part; else it is a declared one or none. -/
theorem round_backup :
    (intf.round current).backupDesignatedRouter.routerID =
      if intf.participates current then intf.electedBackup current
      else elected (intf.declaring current) := by
  rcases foldl_backupTurn intf.neighboringRouters with ⟨first, second⟩
  have declaredID := pick_id (intf.declaring_positive current)
  have declared := pick_declared (intf.declaring_positive current)
  have standingID := pick_id (intf.standing_positive current)
  change (intf.includeInBackup current _).router.routerID = _
  generalize intf.neighboringRouters.foldl backupTurn ({}, {}) = found at first second ⊢
  rw [declaring, pick_selfIf, ← first, ← declaring] at declaredID declared
  rw [standing, pick_selfIf, ← standing] at standingID
  unfold includeInBackup electedBackup
  cases stands : intf.participates current with
  | true =>
    have able := stands
    simp only [participates, gt_iff_lt, Bool.and_eq_true, decide_eq_true_eq] at able
    simp only [stands, Bool.true_and, decide_eq_true_eq, if_true] at declaredID declared standingID
    rw [if_pos able, if_pos rfl]
    cases empty : (intf.declaring current).isEmpty with
    | true =>
      rw [empty] at declared
      have nothing : found.1.declared = false := by
        split_ifs at declared with own
        · exact consider_declared declared
        · exact declared
      rwa [if_pos (by simp [declared]), second nothing]
    | false =>
      rw [empty] at declared
      rwa [if_neg (by simp [declared])]
  | false =>
    have unable := stands
    simp only [stands, Bool.false_and, Bool.false_eq_true, if_false] at declaredID
    rwa [if_neg (by unfold participates at unable; grind)]

theorem round_designated :
    (intf.round current).designatedRouter.routerID =
      intf.electedDesignated current (intf.round current).backupDesignatedRouter.routerID := by
  have designatedID := pick_id (intf.designating_positive current)
  have declared := pick_declared (intf.designating_positive current)
  rw [designating, pick_selfIf, ← foldl_designatedTurn, ← designating] at designatedID declared
  simp only [Bool.and_eq_true, decide_eq_true_eq] at designatedID declared
  rw [← includeInDesignated] at designatedID declared
  simp only [electedDesignated, round]
  cases empty : (intf.designating current).isEmpty with
  | true =>
    rw [empty] at declared
    rw [declared]
    rfl
  | false =>
    rw [empty] at declared
    rwa [declared]

theorem electFrom_eq :
    intf.electFrom 0 current =
      if intf.repeats current (intf.round current) then (2, intf.round (intf.round current))
      else (1, intf.round current) := by
  have second : ∀ again, intf.electFrom 1 again = (1, intf.round again) := by
    intro _
    rw [electFrom]
    split_ifs <;> grind
  rw [electFrom]
  cases intf.repeats current (intf.round current) with
  | true => simp [second]
  | false => simp

/-- The backup is the elected one exactly if the election is contested. -/
theorem round_backup_iff :
    (intf.round current).backupDesignatedRouter.routerID = intf.electedBackup current ↔
      intf.participates current ∨ ¬(intf.declaring current).isEmpty ∨
        elected (intf.standing current) = 0 := by
  rw [round_backup, electedBackup]
  cases intf.participates current with
  | true => simp
  | false =>
    cases empty : (intf.declaring current).isEmpty with
    | true => simp [elected_empty empty, eq_comm]
    | false => simp

theorem elected_known (eligible : ∀ neighbor, takesPart neighbor →
      neighbor.eligible ∧ (candidate neighbor).router.routerID = neighbor.neighborID) :
    intf.Known (elected (candidates takesPart candidate intf.neighboringRouters ++
      intf.selfIf stands)) := by
  intro chosen other
  unfold elected at chosen other ⊢
  cases found : argmax Candidate.rank _ with
  | none =>
    rw [found] at chosen
    exact absurd rfl chosen
  | some _ =>
    rw [found, Option.elim_some] at other
    rcases mem_append.mp (argmax_mem found) with among | self
    · rcases mem_map.mp among with ⟨neighbor, kept, rfl⟩
      rcases mem_filter.mp kept with ⟨member, takes⟩
      rcases eligible _ takes with ⟨able, same⟩
      exact ⟨neighbor, member, able, same.symm⟩
    · unfold selfIf at self
      split_ifs at self
      · rw [mem_singleton.mp self] at other
        exact absurd rfl other
      · cases self

theorem declaring_known : intf.Known (elected (intf.declaring current)) :=
  intf.elected_known fun neighbor takes => by
    simp only [Neighbor.stands, Neighbor.declaresBackup, Bool.and_eq_true,
      decide_eq_true_eq] at takes
    exact ⟨takes.1.1, takes.2⟩

theorem standing_known : intf.Known (elected (intf.standing current)) :=
  intf.elected_known fun neighbor takes => by
    simp only [Neighbor.stands, Bool.and_eq_true] at takes
    exact ⟨takes.1, rfl⟩

theorem designating_known : intf.Known (elected (intf.designating current)) :=
  intf.elected_known fun neighbor takes => by
    simp only [Neighbor.declaresDesignated, Bool.and_eq_true, decide_eq_true_eq] at takes
    exact takes

theorem round_backup_known : intf.Known (intf.round current).backupDesignatedRouter.routerID := by
  rw [round_backup, electedBackup]
  split_ifs
  · exact intf.standing_known _
  · exact intf.declaring_known _
  · exact intf.declaring_known _

theorem round_designated_known : intf.Known (intf.round current).designatedRouter.routerID := by
  rw [round_designated, electedDesignated]
  split_ifs
  · exact intf.round_backup_known _
  · exact intf.designating_known _

theorem roleRepeats_iff (own declared : Nat) :
    intf.roleRepeats own declared = true ↔
      intf.roleChanged own declared ∧ ¬intf.roleVacant own declared := by
  simp only [roleRepeats, roleChanged, roleVacant, Bool.or_eq_true, Bool.and_eq_true,
    decide_eq_true_eq]
  tauto

theorem roleVacant_changed (vacant : intf.roleVacant own declared) :
    intf.roleChanged own declared :=
  fun same => vacant.2.1 (same.mp vacant.1)

/--
A round elects rightly exactly if the election is contested: the router takes
part or a backup is declared or none can be elected, and no role that it loses
stays vacant without the round being repeated for the other one.
-/
theorem electsRightly_iff : intf.ElectsRightly current ↔ intf.Contested current := by
  have backupIff := intf.round_backup_iff current
  have designated := intf.round_designated current
  have loop := intf.electFrom_eq current
  constructor
  · intro right
    rw [right.backup] at designated
    refine ⟨backupIff.mp right.backup, fun vacant => ?_⟩
    rw [← designated, ← right.backup] at vacant ⊢
    have twice := right.repeated (vacant.imp intf.roleVacant_changed intf.roleVacant_changed)
    rw [loop] at twice
    split_ifs at twice with repeated
    · exact Bool.or_eq_true_iff.mp repeated
    · exact absurd (congrArg Prod.fst twice) (by simp)
  · intro contested
    have backup := backupIff.mpr contested.backup
    have vacant := contested.repeated
    dsimp only at vacant
    rw [← backup, ← designated, ← Bool.or_eq_true_iff] at vacant
    have repeated := Bool.or_eq_true_iff.trans
      (or_congr (intf.roleRepeats_iff current.designatedRouter.routerID
          (intf.round current).designatedRouter.routerID)
        (intf.roleRepeats_iff current.backupDesignatedRouter.routerID
          (intf.round current).backupDesignatedRouter.routerID))
    exact
      { backup
        designated
        repeated := fun changed => by
          rw [loop, if_pos]
          by_contra single
          exact single (vacant (by tauto))
        once := fun same => by
          rw [loop, if_neg]
          exact fun twice => same ((repeated.mp twice).imp And.left And.left)
        designatedKnown := intf.round_designated_known _
        backupKnown := intf.round_backup_known _ }

/-- A router that cannot be elected, with an eligible neighbour that declares nothing. -/
def priorityZero : Interface where
  routerID := 1
  address := 1
  routerPriority := 0
  designatedRouter := NullDesignatedRouterID
  backupDesignatedRouter := NullDesignatedRouterID
  neighboringRouters :=
    [{ neighborID := 2
       neighborIPAddress := 2
       state := .twoWayState
       neighborPriority := 1
       neighborsDesignatedRouter := NullDesignatedRouterID
       neighborsBackupDesignatedRouter := NullDesignatedRouterID }]

/-- The neighbour is not found, though it is the only candidate. -/
theorem priorityZero_elects_nobody :
    priorityZero.CalculateDesignatedRouter = (1, ⟨NullDesignatedRouterID, NullDesignatedRouterID⟩) ∧
      priorityZero.electedBackup ⟨NullDesignatedRouterID, NullDesignatedRouterID⟩ = 2 ∧
      ¬priorityZero.ElectsRightly ⟨NullDesignatedRouterID, NullDesignatedRouterID⟩ := by
  refine ⟨?_, by decide, fun right => absurd right.backup (by decide)⟩
  exact (priorityZero.electFrom_eq _).trans (by decide)

end Interface

end OmnetDsi.Ospf.DesignatedRouter
