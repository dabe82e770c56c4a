import Mathlib.Data.List.MinMax

/-!
# Loops that keep the best item

A loop that replaces what it keeps by each item with a strictly greater key
ends with the first item of the greatest key, if that exceeds what the loop
started with.
-/

namespace OmnetDsi.Library.Selections

variable {Item Kept Key : Type*} [LinearOrder Key]

/-- One turn of the loop: `make` is what is kept of an item. -/
def keep (key : Item → Key) (keyOf : Kept → Key) (make : Item → Kept) (kept : Kept) (item : Item) :
    Kept :=
  if keyOf kept < key item then make item else kept

variable {key : Item → Key} {keyOf : Kept → Key} {make : Item → Kept}

variable (made : ∀ item, keyOf (make item) = key item)
include made

/-- Of two items only the better one matters. -/
theorem keep_keep (initial : Kept) (best last : Item) :
    keep key keyOf make (keep key keyOf make initial best) last =
      keep key keyOf make initial (if key best < key last then last else best) := by
  unfold keep
  by_cases better : keyOf initial < key best
  · simp only [if_pos better, made]
    split_ifs with later lower
    · rfl
    · exact absurd (better.trans later) lower
    · rfl
  · simp only [if_neg better]
    split_ifs with exceeds later
    · rfl
    · exact absurd exceeds (not_lt.mpr ((not_lt.mp later).trans (not_lt.mp better)))
    · rfl
    · rfl

theorem foldl_keep (initial : Kept) (items : List Item) :
    items.foldl (keep key keyOf make) initial =
      (items.argmax key).elim initial (keep key keyOf make initial) := by
  induction items using List.reverseRecOn with
  | nil => rfl
  | append_singleton front _ induction =>
    rw [List.foldl_append, List.foldl_cons, List.foldl_nil, induction, List.argmax_concat]
    cases front.argmax key with
    | none => rfl
    | some _ =>
      dsimp only [Option.elim]
      rw [keep_keep made]
      split_ifs <;> rfl

/-- Where every item exceeds what the loop starts with. -/
theorem foldl_keep_of_lt {items : List Item} (exceeded : ∀ item ∈ items, keyOf initial < key item) :
    items.foldl (keep key keyOf make) initial = (items.argmax key).elim initial make := by
  rw [foldl_keep made]
  cases found : items.argmax key with
  | none => rfl
  | some best => exact if_pos (exceeded best (List.argmax_mem found))

end OmnetDsi.Library.Selections
