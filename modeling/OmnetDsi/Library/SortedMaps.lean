import Mathlib.Data.List.Sort

/-!
# Maps as lists sorted by key

An ordered map is kept as the list of its entries in the order of their keys.
`insertNew` adds an entry unless its key is there already.  A sorted list is
determined by its entries (`Sorted.eq_of_mem_iff`), and on it the prefix up to
a key and what follows are filters.
-/

namespace OmnetDsi.Library.SortedMaps

open List

section Inserting

variable {Key Value : Type*}
variable [LT Key] [DecidableLT Key] [DecidableEq Key]

/-- The entries with a new one, unless its key is present. -/
def insertNew (key : Key) (value : Value) : List (Key × Value) → List (Key × Value)
  | [] => [(key, value)]
  | (first, kept) :: rest =>
    if key < first then (key, value) :: (first, kept) :: rest
    else if key = first then (first, kept) :: rest
    else (first, kept) :: insertNew key value rest

/-- Keys that are renamed without changing their order. -/
theorem insertNew_map [LT Name] [DecidableLT Name] [DecidableEq Name] (rename : Key → Name)
    (key : Key) (value : Value)
    (ordered :
      ∀ entry ∈ entries,
        (rename key < rename entry.1 ↔ key < entry.1) ∧
          (rename key = rename entry.1 ↔ key = entry.1)) :
    insertNew (rename key) value (entries.map fun entry => (rename entry.1, entry.2)) =
      (insertNew key value entries).map fun entry => (rename entry.1, entry.2) := by
  induction entries with
  | nil => rfl
  | cons _ _ induction =>
    rw [forall_mem_cons] at ordered
    rw [map_cons, insertNew, insertNew]
    simp only [ordered.1.1, ordered.1.2, induction ordered.2]
    split_ifs <;> rfl

end Inserting

variable {Key Value : Type*} [LinearOrder Key]

def Sorted (entries : List (Key × Value)) : Prop :=
  entries.Pairwise fun left right => left.1 < right.1

theorem sorted_cons {rest : List (Key × Value)} :
    Sorted (first :: rest) ↔ (∀ later ∈ rest, first.1 < later.1) ∧ Sorted rest :=
  pairwise_cons

theorem Sorted.filter (sorted : Sorted entries)
    (keep : Key × Value → Bool) : Sorted (entries.filter keep) :=
  Pairwise.filter _ sorted

theorem Sorted.tail {rest : List (Key × Value)} (sorted : Sorted (first :: rest)) : Sorted rest :=
  (sorted_cons.mp sorted).2

/-- A sorted list is determined by its entries. -/
theorem Sorted.eq_of_mem_iff {right : List (Key × Value)}
    (sortedLeft : Sorted left) (sortedRight : Sorted right)
    (same : ∀ entry, entry ∈ left ↔ entry ∈ right) : left = right := by
  have irreflexive : Std.Irrefl fun first second : Key × Value => first.1 < second.1 :=
    ⟨fun entry => lt_irrefl entry.1⟩
  have antisymmetric : Std.Antisymm fun first second : Key × Value => first.1 < second.1 :=
    ⟨fun _ _ before after => absurd after before.not_gt⟩
  exact Pairwise.eq_of_mem_iff sortedLeft sortedRight same

/-- The entries of a key are one. -/
theorem Sorted.eq_of_key_eq (sorted : Sorted entries) {right : Key × Value}
    (leftAmong : left ∈ entries) (rightAmong : right ∈ entries)
    (same : left.1 = right.1) : left = right := by
  induction entries with
  | nil => cases leftAmong
  | cons _ _ induction =>
    have parts := sorted_cons.mp sorted
    rcases mem_cons.mp leftAmong with rfl | leftLater
    · rcases mem_cons.mp rightAmong with rfl | rightLater
      · rfl
      · exact absurd same (parts.1 _ rightLater).ne
    · rcases mem_cons.mp rightAmong with rfl | rightLater
      · exact absurd same (parts.1 _ leftLater).ne'
      · exact induction parts.2 leftLater rightLater

/-! ## Inserting -/

theorem mem_insertNew {entry : Key × Value}
    (consistent : ∀ other ∈ entries, other.1 = key → other = (key, value)) :
    entry ∈ insertNew key value entries ↔ entry = (key, value) ∨ entry ∈ entries := by
  induction entries with
  | nil => simp [insertNew]
  | cons _ _ induction =>
    rw [forall_mem_cons] at consistent
    rw [insertNew]
    split_ifs with before present
    · rw [mem_cons]
    · have same := consistent.1 present.symm
      rw [← same]
      simp
    · rw [mem_cons, induction consistent.2, mem_cons]
      tauto

theorem forall_mem_insertNew (property : Key × Value → Prop) (holdsNew : property (key, value))
    (holds : ∀ entry ∈ entries, property entry) :
    ∀ entry ∈ insertNew key value entries, property entry := by
  induction entries with
  | nil =>
    intro _ among
    rwa [mem_singleton.mp among]
  | cons _ _ induction =>
    have parts := forall_mem_cons.mp holds
    rw [insertNew]
    split_ifs
    · exact forall_mem_cons.mpr ⟨holdsNew, holds⟩
    · exact holds
    · exact forall_mem_cons.mpr ⟨parts.1, induction parts.2⟩

theorem length_insertNew_le (key : Key) (value : Value) (entries : List (Key × Value)) :
    (insertNew key value entries).length ≤ entries.length + 1 := by
  induction entries with
  | nil => exact le_rfl
  | cons _ _ induction =>
    rw [insertNew]
    split_ifs
    · exact le_rfl
    · exact Nat.le_succ _
    · exact Nat.succ_le_succ induction

theorem Sorted.insertNew (sorted : Sorted entries) (key : Key) (value : Value) :
    Sorted (insertNew key value entries) := by
  induction entries with
  | nil => exact pairwise_singleton _ _
  | cons first _ induction =>
    have parts := sorted_cons.mp sorted
    rw [SortedMaps.insertNew]
    split_ifs with before present
    · refine sorted_cons.mpr ⟨?_, sorted⟩
      refine forall_mem_cons.mpr ⟨before, fun later among => ?_⟩
      exact before.trans (parts.1 _ among)
    · exact sorted
    · refine sorted_cons.mpr ⟨?_, induction parts.2⟩
      have beyond : first.1 < key := lt_of_le_of_ne (not_lt.mp before) (Ne.symm present)
      exact forall_mem_insertNew (fun entry => first.1 < entry.1) beyond parts.1

/-! ## Prefixes -/

section

variable {entries : List (Key × Value)} (sorted : Sorted entries)
include sorted

/-- The entries up to a key come first, and those beyond it follow. -/
theorem Sorted.span_eq_filter {test : Key × Value → Bool}
    (tests : ∀ entry ∈ entries, test entry = true ↔ entry.1 ≤ bound) :
    (entries.takeWhile test = entries.filter fun entry => decide (entry.1 ≤ bound)) ∧
      entries.dropWhile test = entries.filter fun entry => decide (bound < entry.1) := by
  induction entries with
  | nil => exact ⟨rfl, rfl⟩
  | cons first rest induction =>
    have parts := sorted_cons.mp sorted
    rw [forall_mem_cons] at tests
    by_cases low : first.1 ≤ bound
    · have spans := induction parts.2 tests.2
      rw [takeWhile_cons_of_pos (tests.1.mpr low), dropWhile_cons_of_pos (tests.1.mpr low),
        spans.1, spans.2, filter_cons_of_pos (by simpa using low),
        filter_cons_of_neg (by simpa using low)]
      exact ⟨rfl, rfl⟩
    · have beyond : ∀ entry ∈ first :: rest, bound < entry.1 := by
        have high : bound < first.1 := not_le.mp low
        exact forall_mem_cons.mpr ⟨high, fun later among => high.trans (parts.1 later among)⟩
      have failed : ¬test first = true := fun passed => low (tests.1.mp passed)
      rw [takeWhile_cons_of_neg failed, dropWhile_cons_of_neg failed]
      constructor
      · exact (filter_eq_nil_iff.mpr fun entry among => by simpa using beyond entry among).symm
      · exact (filter_eq_self.mpr fun entry among => by simpa using beyond entry among).symm

/-- The entries up to a key are a prefix. -/
theorem Sorted.filter_le_prefix (bound : Key) :
    (entries.filter fun entry => decide (entry.1 ≤ bound)) <+: entries := by
  rw [← (sorted.span_eq_filter fun entry _ => decide_eq_true_iff).1]
  exact takeWhile_prefix _

/-- The entries up to a key are followed by those up to a later one. -/
theorem Sorted.filter_le_append (ordered : bound ≤ later) :
    (entries.filter fun entry => decide (entry.1 ≤ bound)) ++
        (entries.filter fun entry => decide (bound < entry.1 ∧ entry.1 ≤ later)) =
      entries.filter fun entry => decide (entry.1 ≤ later) := by
  refine Sorted.eq_of_mem_iff ?_ (sorted.filter _) ?_
  · refine pairwise_append.mpr
      ⟨sorted.filter _, sorted.filter _, fun first before second after => ?_⟩
    have low := of_decide_eq_true (mem_filter.mp before).2
    have high := of_decide_eq_true (mem_filter.mp after).2
    exact low.trans_lt high.1
  · intro entry
    simp only [mem_append, mem_filter, decide_eq_true_iff]
    constructor
    · rintro (⟨among, low⟩ | ⟨among, _, high⟩)
      · exact ⟨among, low.trans ordered⟩
      · exact ⟨among, high⟩
    · rintro ⟨among, high⟩
      rcases le_or_gt entry.1 _ with low | beyond
      · exact .inl ⟨among, low⟩
      · exact .inr ⟨among, beyond, high⟩

end

end OmnetDsi.Library.SortedMaps
