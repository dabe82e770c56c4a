import Mathlib.Data.List.Nodup

/-!
# Indexes from keys to the members that have them

Some members have a key.  An index lists, under each key in use, the members
with this key, each once; a key that no member has is not in the index.  A
member that gets a key is appended to the list of the key (`listUnder`), and
one that loses it is erased, with the key when the list becomes empty
(`unlist`).  Both keep the index exact (`Indexes.listUnder`,
`Indexes.unlist`).
-/

namespace OmnetDsi.Library.KeyIndexes

open Function

variable {Member Key : Type*}

/-- The index lists the members of each key. -/
structure Indexes (keyOf : Member → Option Key) (index : Key → Option (List Member)) : Prop where
  nonempty : ∀ key list, index key = some list → list ≠ []
  nodup : ∀ key list, index key = some list → list.Nodup
  mem_iff : ∀ key list, index key = some list → ∀ member, member ∈ list ↔ keyOf member = some key
  listed : ∀ member key, keyOf member = some key → (index key).isSome

namespace Indexes

variable {index : Key → Option (List Member)}

theorem mem_getD (indexes : Indexes keyOf index) (key : Key) (member : Member) :
    member ∈ (index key).getD [] ↔ keyOf member = some key := by
  cases at_key : index key with
  | none =>
    constructor
    · intro among
      cases among
    · intro has
      have listed := indexes.listed _ _ has
      rw [at_key] at listed
      cases listed
  | some _ => exact indexes.mem_iff _ _ at_key _

theorem nodup_getD (indexes : Indexes keyOf index) (key : Key) : ((index key).getD []).Nodup := by
  cases at_key : index key with
  | none => exact List.nodup_nil
  | some _ => exact indexes.nodup _ _ at_key

end Indexes

section Updating

variable [DecidableEq Member] [DecidableEq Key]

/-- A member is appended to the list of a key, which is created if absent. -/
def listUnder (index : Key → Option (List Member)) (key : Key)
    (member : Member) : Key → Option (List Member) :=
  update index key (some ((index key).getD [] ++ [member]))

/-- A member is erased from the list of a key, and the key from the index. -/
def unlist (index : Key → Option (List Member)) (key : Key) (member : Member) :
    Key → Option (List Member) :=
  let list := ((index key).getD []).erase member
  update index key (if list.isEmpty then none else some list)

namespace Indexes

variable {index : Key → Option (List Member)}

theorem listUnder (indexes : Indexes keyOf index) (key : Key) (fresh : keyOf member = none) :
    Indexes (update keyOf member (some key)) (listUnder index key member) := by
  have absent : member ∉ (index key).getD [] := by
    rw [indexes.mem_getD, fresh]
    exact Option.some_ne_none _ |>.symm
  constructor
  · intro _ _ at_other
    rw [KeyIndexes.listUnder, update_apply] at at_other
    split_ifs at at_other with same
    · cases at_other
      simp
    · exact indexes.nonempty _ _ at_other
  · intro _ _ at_other
    rw [KeyIndexes.listUnder, update_apply] at at_other
    split_ifs at at_other with same
    · cases at_other
      refine List.nodup_append.mpr ⟨indexes.nodup_getD _, ?_, ?_⟩
      · exact List.nodup_singleton _
      · intro _ among _ equal
        rw [List.mem_singleton.mp equal]
        rintro rfl
        exact absent among
    · exact indexes.nodup _ _ at_other
  · intro _ _ at_other _
    rw [KeyIndexes.listUnder, update_apply] at at_other
    rw [update_apply]
    split_ifs at at_other with same
    · cases at_other
      subst same
      rw [List.mem_append, List.mem_singleton, indexes.mem_getD]
      split_ifs with equal
      all_goals simp [equal]
    · rw [indexes.mem_iff _ _ at_other]
      split_ifs with equal
      · subst equal
        rw [fresh]
        constructor
        · intro none
          cases none
        · intro kept
          exact absurd (Option.some.inj kept).symm same
      · rfl
  · intro _ _ has
    rw [update_apply] at has
    rw [KeyIndexes.listUnder, update_apply]
    split_ifs at has with equal
    · rw [if_pos (Option.some.inj has).symm]
      rfl
    · split_ifs with same
      · rfl
      · exact indexes.listed _ _ has

theorem unlist (indexes : Indexes keyOf index) (present : keyOf member = some key) :
    Indexes (update keyOf member none) (unlist index key member) := by
  have mem_rest :
      ∀ candidate,
        candidate ∈ ((index key).getD []).erase member ↔
          candidate ≠ member ∧ keyOf candidate = some key := by
    intro _
    rw [(indexes.nodup_getD _).mem_erase_iff, indexes.mem_getD]
  constructor
  · intro _ _ at_other
    rw [KeyIndexes.unlist, update_apply] at at_other
    split_ifs at at_other with same empty
    · cases at_other
      simpa using empty
    · exact indexes.nonempty _ _ at_other
  · intro _ _ at_other
    rw [KeyIndexes.unlist, update_apply] at at_other
    split_ifs at at_other with same empty
    · cases at_other
      exact (indexes.nodup_getD _).erase _
    · exact indexes.nodup _ _ at_other
  · intro _ _ at_other _
    rw [KeyIndexes.unlist, update_apply] at at_other
    rw [update_apply]
    split_ifs at at_other with same empty
    · cases at_other
      subst same
      rw [mem_rest]
      split_ifs with equal
      all_goals simp [equal]
    · rw [indexes.mem_iff _ _ at_other]
      split_ifs with equal
      · subst equal
        rw [present]
        constructor
        · intro kept
          exact absurd (Option.some.inj kept).symm same
        · intro none
          cases none
      · rfl
  · intro _ _ has
    rw [update_apply] at has
    rw [KeyIndexes.unlist, update_apply]
    split_ifs at has with equal
    split_ifs with same empty
    · have among := (mem_rest _).mpr ⟨equal, same ▸ has⟩
      rw [List.isEmpty_iff.mp empty] at among
      cases among
    · rfl
    · exact indexes.listed _ _ has

end Indexes

end Updating

end OmnetDsi.Library.KeyIndexes
