import Mathlib.Order.Interval.Set.LinearOrder

/-!
# Lists of separated intervals

A set of points that is a finite union of half-open intervals is kept as the
list of its maximal intervals, in increasing order.  Such a list is
`Separated`: between two neighbours there is room for a point that neither
has.  `merge` adds an interval: the intervals it overlaps or touches become one
with it.

The points of the list are then those it had and those of the new interval
(`covered_merge`), and the list stays separated (`Separated.merge`).
-/

namespace OmnetDsi.Library.IntervalLists

open List

/-- A half-open interval that is not empty. -/
@[ext]
structure HalfOpen (Point : Type*) [LT Point] where
  lower : Point
  upper : Point
  nonempty : lower < upper

variable [LinearOrder Point]

namespace HalfOpen

def points (interval : HalfOpen Point) : Set Point :=
  Set.Ico interval.lower interval.upper

/-- The least interval that has the points of both. -/
def hull (left right : HalfOpen Point) : HalfOpen Point where
  lower := min left.lower right.lower
  upper := max left.upper right.upper
  nonempty := lt_of_le_of_lt (min_le_left _ _) (lt_of_lt_of_le left.nonempty (le_max_left _ _))

theorem points_hull {left : HalfOpen Point}
    (leftReaches : right.lower ≤ left.upper) (rightReaches : left.lower ≤ right.upper) :
    (left.hull right).points = left.points ∪ right.points :=
  (Set.Ico_union_Ico' leftReaches rightReaches).symm

end HalfOpen

/-! ## Lists and the points they cover -/

def covered (intervals : List (HalfOpen Point)) : Set Point :=
  {point | ∃ interval ∈ intervals, point ∈ interval.points}

def Separated (intervals : List (HalfOpen Point)) : Prop :=
  intervals.Pairwise fun left right => left.upper < right.lower

@[simp]
theorem covered_nil : covered ([] : List (HalfOpen Point)) = ∅ := by
  simp [covered]

@[simp]
theorem covered_cons (first : HalfOpen Point) (rest : List (HalfOpen Point)) :
    covered (first :: rest) = first.points ∪ covered rest := by
  ext point
  simp [covered]

@[simp]
theorem separated_nil : Separated ([] : List (HalfOpen Point)) :=
  Pairwise.nil

variable {first : HalfOpen Point}

theorem separated_cons :
    Separated (first :: rest) ↔ (∀ later ∈ rest, first.upper < later.lower) ∧ Separated rest :=
  pairwise_cons

variable {intervals : List (HalfOpen Point)}

/-- The end of an interval is a point that no interval has. -/
theorem Separated.upper_notMem (separated : Separated intervals)
    (among : interval ∈ intervals) : interval.upper ∉ covered intervals := by
  induction intervals with
  | nil => cases among
  | cons _ _ induction =>
    have parts := separated_cons.mp separated
    rw [covered_cons]
    rcases mem_cons.mp among with rfl | later
    · rintro (inside | ⟨other, beyond, inside⟩)
      · exact lt_irrefl _ inside.2
      · exact absurd inside.1 (not_le.mpr (parts.1 _ beyond))
    · rintro (inside | inside)
      · have apart := (parts.1 _ later).trans interval.nonempty
        exact lt_asymm apart inside.2
      · exact induction parts.2 later inside

/-! ## Adding an interval -/

/-- The first interval takes in those that it overlaps or touches. -/
def absorb (first : HalfOpen Point) : List (HalfOpen Point) → List (HalfOpen Point)
  | [] => [first]
  | following :: rest =>
    if first.upper < following.lower then first :: following :: rest
    else absorb (first.hull following) rest

def merge (added : HalfOpen Point) : List (HalfOpen Point) → List (HalfOpen Point)
  | [] => [added]
  | first :: rest =>
    if first.upper < added.lower then first :: merge added rest
    else if added.upper < first.lower then added :: first :: rest
    else absorb (first.hull added) rest

section Absorbing

/-- A property that hulls keep holds of all the intervals that remain. -/
theorem forall_mem_absorb (property : HalfOpen Point → Prop)
    (closed : ∀ left right, property left → property right → property (left.hull right))
    (holds : ∀ interval ∈ intervals, property interval) (holdsFirst : property first) :
    ∀ interval ∈ absorb first intervals, property interval := by
  induction intervals generalizing first with
  | nil =>
    intro _ among
    rwa [mem_singleton.mp among]
  | cons _ _ induction =>
    rw [absorb]
    split_ifs with apart
    · exact forall_mem_cons.mpr ⟨holdsFirst, holds⟩
    · have parts := forall_mem_cons.mp holds
      exact induction parts.2 (closed _ _ holdsFirst parts.1)

/-- An interval that is apart from the others takes in none of them. -/
theorem absorb_of_apart (apart : ∀ interval ∈ intervals, first.upper < interval.lower) :
    absorb first intervals = first :: intervals := by
  cases intervals with
  | nil => rfl
  | cons _ _ => rw [absorb, if_pos (apart _ mem_cons_self)]

theorem covered_absorb (ordered : ∀ interval ∈ intervals, first.lower ≤ interval.lower) :
    covered (absorb first intervals) = first.points ∪ covered intervals := by
  induction intervals generalizing first with
  | nil => simp [absorb]
  | cons following _ induction =>
    rw [forall_mem_cons] at ordered
    rw [absorb]
    split_ifs with apart
    · simp
    · have reaches : first.lower ≤ following.upper := ordered.1.trans following.nonempty.le
      have lowest : (first.hull following).lower = first.lower := min_eq_left ordered.1
      rw [induction (by rw [lowest]; exact ordered.2),
        HalfOpen.points_hull (not_lt.mp apart) reaches, covered_cons, Set.union_assoc]

theorem Separated.absorb (separated : Separated intervals) (first : HalfOpen Point) :
    Separated (absorb first intervals) := by
  induction intervals generalizing first with
  | nil => exact pairwise_singleton _ _
  | cons following _ induction =>
    have rests := separated_cons.mp separated
    rw [IntervalLists.absorb]
    split_ifs with apart
    · refine separated_cons.mpr ⟨?_, separated⟩
      rw [forall_mem_cons]
      refine ⟨apart, fun later among => ?_⟩
      exact apart.trans (following.nonempty.trans (rests.1 _ among))
    · exact induction rests.2 _

end Absorbing

theorem forall_mem_merge (property : HalfOpen Point → Prop)
    (closed : ∀ left right, property left → property right → property (left.hull right))
    (holdsAdded : property added) (holds : ∀ interval ∈ intervals, property interval) :
    ∀ interval ∈ merge added intervals, property interval := by
  induction intervals with
  | nil =>
    intro _ among
    rwa [mem_singleton.mp among]
  | cons _ _ induction =>
    have parts := forall_mem_cons.mp holds
    rw [merge]
    split_ifs with before after
    · exact forall_mem_cons.mpr ⟨parts.1, induction parts.2⟩
    · exact forall_mem_cons.mpr ⟨holdsAdded, holds⟩
    · exact forall_mem_absorb _ closed parts.2 (closed _ _ parts.1 holdsAdded)

/-- The points covered are those before and those of the new interval. -/
theorem covered_merge (added : HalfOpen Point) (separated : Separated intervals) :
    covered (merge added intervals) = covered intervals ∪ added.points := by
  induction intervals with
  | nil => simp [merge]
  | cons first rest induction =>
    have parts := separated_cons.mp separated
    rw [merge]
    split_ifs with before after
    · rw [covered_cons, induction parts.2, covered_cons, Set.union_assoc]
    · rw [covered_cons, Set.union_comm]
    · have ordered : ∀ interval ∈ rest, (first.hull added).lower ≤ interval.lower := by
        intro _ among
        exact (min_le_left _ _).trans (first.nonempty.trans (parts.1 _ among)).le
      rw [covered_absorb ordered,
        HalfOpen.points_hull (not_lt.mp before) (not_lt.mp after), covered_cons]
      exact Set.union_right_comm _ _ _

theorem Separated.merge (added : HalfOpen Point)
    (separated : Separated intervals) : Separated (merge added intervals) := by
  induction intervals with
  | nil => exact pairwise_singleton _ _
  | cons first rest induction =>
    have parts := separated_cons.mp separated
    rw [IntervalLists.merge]
    split_ifs with before after
    · have apart : ∀ interval ∈ IntervalLists.merge added rest, first.upper < interval.lower :=
        forall_mem_merge (fun interval => first.upper < interval.lower)
          (fun _ _ left right => lt_min left right) before parts.1
      exact separated_cons.mpr ⟨apart, induction parts.2⟩
    · refine separated_cons.mpr ⟨?_, separated⟩
      refine forall_mem_cons.mpr ⟨after, fun later among => ?_⟩
      exact after.trans (first.nonempty.trans (parts.1 _ among))
    · exact parts.2.absorb _

/-! ## Taking the points below a bound away -/

/-- The list without the points below a bound that only the first can have. -/
def dropBelow (bound : Point) : List (HalfOpen Point) → List (HalfOpen Point)
  | [] => []
  | first :: rest =>
    if bound ≤ first.lower then first :: rest
    else if inside : bound < first.upper then
      { first with lower := bound, nonempty := inside } :: rest
    else rest

theorem covered_dropBelow (separated : Separated intervals)
    (reached : ∀ interval ∈ intervals, bound ≤ interval.upper) :
    covered (dropBelow bound intervals) = covered intervals \ Set.Iio bound := by
  cases intervals with
  | nil => simp [dropBelow]
  | cons first rest =>
    have parts := separated_cons.mp separated
    have later : ∀ point ∈ covered rest, bound < point := by
      rintro point ⟨_, among, inside⟩
      exact (reached _ mem_cons_self).trans_lt ((parts.1 _ among).trans_le inside.1)
    have restKept : covered rest \ Set.Iio bound = covered rest := by
      ext point
      exact ⟨fun inside => inside.1, fun inside => ⟨inside, (later _ inside).not_gt⟩⟩
    have firstKept :
        first.points \ Set.Iio bound = Set.Ico (max first.lower bound) first.upper := by
      ext point
      simp only [HalfOpen.points, Set.mem_sdiff, Set.mem_Ico, Set.mem_Iio, not_lt, sup_le_iff]
      tauto
    rw [covered_cons, Set.union_sdiff_distrib, restKept, firstKept, dropBelow]
    split_ifs with below inside
    · rw [covered_cons, max_eq_left below]
      rfl
    · rw [covered_cons, max_eq_right (not_le.mp below).le]
      rfl
    · rw [Set.Ico_eq_empty, Set.empty_union]
      exact fun room => inside ((le_max_right _ _).trans_lt room)

theorem Separated.dropBelow (bound : Point) (separated : Separated intervals) :
    Separated (dropBelow bound intervals) := by
  cases intervals with
  | nil => exact separated
  | cons _ _ =>
    have parts := separated_cons.mp separated
    rw [IntervalLists.dropBelow]
    split_ifs with below inside
    · exact separated
    · exact separated_cons.mpr parts
    · exact parts.2

/-- The intervals left end where intervals ended before. -/
theorem upper_of_mem_dropBelow (among : interval ∈ dropBelow bound intervals) :
    ∃ before ∈ intervals, before.upper = interval.upper := by
  cases intervals with
  | nil => cases among
  | cons first _ =>
    rw [dropBelow] at among
    split_ifs at among with below inside
    · exact ⟨interval, among, rfl⟩
    · rcases mem_cons.mp among with rfl | later
      · exact ⟨first, mem_cons_self, rfl⟩
      · exact ⟨interval, mem_cons_of_mem _ later, rfl⟩
    · exact ⟨interval, mem_cons_of_mem _ among, rfl⟩

end OmnetDsi.Library.IntervalLists
