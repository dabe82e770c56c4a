import Mathlib.Data.List.Basic

/-!
# Arrays whose entries are shifted in place

An array of which only the first entries are in use `Holds` a list.  Loops
that move the entries behind an index one place up or down make room for an
entry or close the room it leaves; what lies behind the entries in use does not
matter.
-/

namespace OmnetDsi.Library.ShiftedArrays

open Function

variable {Entry : Type*}

/-- The first entries of the array are those of the list. -/
def Holds (array : Nat → Entry) (entries : List Entry) : Prop :=
  ∀ index entry, entries[index]? = some entry → array index = entry

theorem holds_nil (array : Nat → Entry) : Holds array [] := by
  intro _ _ present
  cases present

/-- `for (j = last; j > first; j--) array[j] = array[j - 1]` -/
def shiftUp (array : Nat → Entry) (first : Nat) : Nat → Nat → Entry
  | 0 => array
  | last + 1 =>
    if first < last + 1 then shiftUp (update array (last + 1) (array last)) first last else array

/-- `for (j = first; j < first + count; j++) array[j] = array[j + 1]` -/
def shiftDown (array : Nat → Entry) : Nat → Nat → Nat → Entry
  | 0, _ => array
  | count + 1, first =>
    shiftDown (update array first (array (first + 1))) count (first + 1)

section Loops

theorem shiftUp_apply (index : Nat) :
    shiftUp array first last index = if first < index ∧ index ≤ last then array (index - 1)
      else
        array index := by
  induction last generalizing array with
  | zero =>
    rw [shiftUp, if_neg]
    omega
  | succ last induction =>
    rw [shiftUp]
    split_ifs with moves inside inside
    · rw [induction]
      split_ifs with below
      · rw [update_of_ne (by omega)]
      · have top : index = last + 1 := by omega
        rw [top, update_self, Nat.add_sub_cancel]
    · rw [induction, if_neg (by omega), update_of_ne (by omega)]
    · omega
    · rfl

theorem shiftDown_apply (index : Nat) :
    shiftDown array count first index =
      if first ≤ index ∧ index < first + count then array (index + 1)
      else
        array index := by
  induction count generalizing array first with
  | zero =>
    rw [shiftDown, if_neg]
    omega
  | succ _ induction =>
    rw [shiftDown, induction]
    split_ifs with later inside inside
    · rw [update_of_ne (by omega)]
    · omega
    · have here : index = first := by omega
      rw [here, update_self]
    · rw [update_of_ne (by omega)]

end Loops

namespace Holds

variable {array : Nat → Entry} {before after entries : List Entry}

theorem left (holds : Holds array (before ++ after)) : Holds array before := by
  intro index _ found
  have bound : index < before.length := (List.getElem?_eq_some_iff.mp found).1
  exact holds _ _ ((List.getElem?_append_left bound).trans found)

variable {entry : Entry}

theorem at_length (holds : Holds array (before ++ entry :: after)) : array before.length = entry :=
  holds before.length _ (by simp)

/-- The entries before an index and from the index on. -/
theorem of_append (left : Holds array before)
    (right : ∀ index entry, after[index]? = some entry → array (before.length + index) = entry) :
    Holds array (before ++ after) := by
  intro index _ found
  by_cases bound : index < before.length
  · exact left _ _ ((List.getElem?_append_left bound).symm.trans found)
  · have beyond : before.length ≤ index := Nat.le_of_not_lt bound
    rw [List.getElem?_append_right beyond] at found
    have there := right _ _ found
    rwa [Nat.add_sub_cancel' beyond] at there

theorem right (holds : Holds array (before ++ after)) (index : Nat)
    (entry : Entry) (found : after[index]? = some entry) :
    array (before.length + index) = entry := by
  refine holds _ _ ?_
  rwa [List.getElem?_append_right (Nat.le_add_right _ _), Nat.add_sub_cancel_left]

/-- Entries behind those in use do not matter. -/
theorem update_beyond (holds : Holds array entries) (beyond : entries.length ≤ index) :
    Holds (update array index entry) entries := by
  intro other _ found
  have bound : other < entries.length := (List.getElem?_eq_some_iff.mp found).1
  rw [update_of_ne (by omega)]
  exact holds _ _ found

theorem set (holds : Holds array (before ++ old :: after)) :
    Holds (update array before.length new) (before ++ new :: after) := by
  refine of_append (holds.left.update_beyond (Nat.le_refl _)) fun index entry found => ?_
  cases index with
  | zero =>
    cases found
    exact update_self ..
  | succ _ =>
    rw [update_of_ne (by omega)]
    exact holds.right _ _ found

theorem push (holds : Holds array entries) :
    Holds (update array entries.length entry) (entries ++ [entry]) := by
  refine of_append (holds.update_beyond (Nat.le_refl _)) fun index value found => ?_
  cases index with
  | zero =>
    cases found
    exact update_self ..
  | succ _ => cases found

/-- Room is made for an entry, which is then put there. -/
theorem insert (holds : Holds array (before ++ after)) (reaches : (before ++ after).length ≤ last) :
    Holds (update (shiftUp array before.length last) before.length entry)
      (before ++ entry :: after) := by
  rw [List.length_append] at reaches
  have kept : Holds (shiftUp array before.length last) before := by
    intro index _ found
    have bound : index < before.length := (List.getElem?_eq_some_iff.mp found).1
    rw [shiftUp_apply, if_neg (by omega)]
    exact holds.left _ _ found
  refine of_append (kept.update_beyond (Nat.le_refl _)) fun index value found => ?_
  cases index with
  | zero =>
    cases found
    exact update_self ..
  | succ index =>
    have bound : index < after.length :=
      Nat.lt_of_succ_lt_succ (List.getElem?_eq_some_iff.mp found).1
    rw [update_of_ne (by omega), shiftUp_apply, if_pos (by omega)]
    exact holds.right _ _ found

/-- The room that an entry leaves is closed. -/
theorem remove (holds : Holds array (before ++ entry :: after)) (reaches : after.length ≤ count) :
    Holds (shiftDown array count before.length) (before ++ after) := by
  refine of_append ?_ fun index value found => ?_
  · intro index _ found
    have bound : index < before.length := (List.getElem?_eq_some_iff.mp found).1
    rw [shiftDown_apply, if_neg (by omega)]
    exact holds.left _ _ found
  · have bound : index < after.length := (List.getElem?_eq_some_iff.mp found).1
    rw [shiftDown_apply, if_pos (by omega)]
    exact holds.right (index + 1) _ found

end Holds

end OmnetDsi.Library.ShiftedArrays
