import Mathlib.Algebra.BigOperators.Group.List.Basic
import Mathlib.Algebra.Ring.Nat

/-!
# Objects shared by queues

Queues hold the names of objects, and the objects are kept in a heap, so that
a change of an object is seen through every queue that names it.  `total` is
what the objects of a queue weigh together.
-/

namespace OmnetDsi.Library.SharedObjects

variable {Name Object : Type*}

def total (weight : Object → Nat) (heap : Name → Object) (queue : List Name) : Nat :=
  (queue.map fun name => weight (heap name)).sum

@[simp]
theorem total_cons (weight : Object → Nat) (heap : Name → Object) (name : Name)
    (queue : List Name) :
    total weight heap (name :: queue) = weight (heap name) + total weight heap queue := by
  simp [total]

theorem total_perm (weight : Object → Nat) (heap : Name → Object) (same : left.Perm right) :
    total weight heap left = total weight heap right :=
  (same.map _).sum_eq

theorem total_congr {after : Name → Object}
    (same : ∀ name ∈ queue, weight (after name) = weight (before name)) :
    total weight after queue = total weight before queue := by
  unfold total
  rw [List.map_congr_left same]

variable [DecidableEq Name]

variable (weight : Object → Nat) (heap : Name → Object) (object : Object)
include weight heap object

/-- An object that the queue does not name is changed. -/
theorem total_update_of_notMem (absent : name ∉ queue) :
    total weight (Function.update heap name object) queue = total weight heap queue := by
  apply total_congr
  intro other member
  have different : other ≠ name := by
    rintro rfl
    exact absent member
  rw [Function.update_of_ne different]

/-- An object that the queue names once is changed. -/
theorem total_update (distinct : queue.Nodup) (member : name ∈ queue) :
    total weight (Function.update heap name object) queue + weight (heap name) =
      total weight heap queue + weight object := by
  have perm := List.perm_cons_erase member
  have absent : name ∉ queue.erase name := distinct.not_mem_erase
  rw [total_perm weight _ perm, total_perm weight heap perm, total_cons,
    total_cons, total_update_of_notMem weight heap object absent, Function.update_self]
  omega

/-- The change does not alter what the object weighs. -/
theorem total_update_same (queue : List Name) (same : weight object = weight (heap name)) :
    total weight (Function.update heap name object) queue = total weight heap queue := by
  apply total_congr
  intro other _
  by_cases changed : other = name
  · subst changed
    rw [Function.update_self, same]
  · rw [Function.update_of_ne changed]

end OmnetDsi.Library.SharedObjects
