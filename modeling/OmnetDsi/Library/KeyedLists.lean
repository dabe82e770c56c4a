import Mathlib.Data.List.Nodup
import Mathlib.Data.List.Perm.Basic

/-!
# Maps whose keys are compared by an order

A map that is kept by an order on its keys takes two keys for the same when
neither comes before the other.  Here such a map is the list of its entries.
On keys for which the order is total and irreflexive (`Tells`), a lookup finds
exactly the entry of the key, and the assignment and the removal of a key
change this entry only.
-/

namespace OmnetDsi.Library.KeyedLists

open List

variable {Key Value : Type*}
variable (less : Key → Key → Bool)

/-- Neither key comes before the other. -/
def same (left right : Key) : Bool :=
  !less left right && !less right left

def find (key : Key) (entries : List (Key × Value)) : Option Value :=
  (entries.find? fun entry => same less entry.1 key).map Prod.snd

/-- The value of the key becomes `value`; a new key gets an entry. -/
def assign (key : Key) (value : Value) : List (Key × Value) → List (Key × Value)
  | [] => [(key, value)]
  | entry :: rest =>
    if same less entry.1 key then (entry.1, value) :: rest else entry :: assign key value rest

def erase (key : Key) (entries : List (Key × Value)) : List (Key × Value) :=
  entries.filter fun entry => !same less entry.1 key

/-- The order tells the keys of a set apart. -/
def Tells (keys : Key → Prop) : Prop :=
  ∀ left right, keys left → keys right → (same less left right = true ↔ left = right)

/-- It is enough that the order is irreflexive and total. -/
theorem tells_of_total {keys : Key → Prop} (irreflexive : ∀ key, keys key → less key key = false)
    (total :
      ∀ left right, keys left → keys right → left ≠ right →
        less left right = true ∨ less right left = true) :
    Tells less keys := by
  intro _ _ leftKnown rightKnown
  constructor
  · intro equal
    by_contra differ
    simp only [same, Bool.and_eq_true, Bool.not_eq_true'] at equal
    rcases total _ _ leftKnown rightKnown differ with first | second
    · rw [equal.1] at first
      cases first
    · rw [equal.2] at second
      cases second
  · rintro rfl
    rw [same, irreflexive _ leftKnown]
    rfl

/-- No key has two entries, and all are keys that are told apart. -/
structure Keyed (keys : Key → Prop) (entries : List (Key × Value)) : Prop where
  nodup : (entries.map Prod.fst).Nodup
  among : ∀ entry ∈ entries, keys entry.1

namespace Keyed

variable {less}
variable {keys : Key → Prop}
variable {entries : List (Key × Value)}
variable {key : Key} {value : Value}

theorem nil : Keyed keys ([] : List (Key × Value)) where
  nodup := nodup_nil
  among := by simp

theorem value_unique (keyed : Keyed keys entries) {other : Value}
    (left : (key, value) ∈ entries) (right : (key, other) ∈ entries) : value = other := by
  have equal := inj_on_of_nodup_map keyed.nodup left right rfl
  exact congrArg Prod.snd equal

section

variable (tells : Tells less keys) (keyed : Keyed keys entries) (known : keys key)
include tells keyed known

theorem same_iff {entry : Key × Value} (inside : entry ∈ entries) :
    same less entry.1 key = true ↔ entry.1 = key :=
  tells _ _ (keyed.among _ inside) known

theorem find_eq_some : find less key entries = some value ↔ (key, value) ∈ entries := by
  rw [find, Option.map_eq_some_iff]
  constructor
  · rintro ⟨⟨other, _⟩, first, rfl⟩
    have inside := mem_of_find?_eq_some first
    have equal := find?_some first
    have keyEq : other = key := (keyed.same_iff tells known inside).mp equal
    rwa [← keyEq]
  · intro inside
    have some : (entries.find? fun entry => same less entry.1 key).isSome := by
      rw [find?_isSome]
      exact ⟨_, inside, (keyed.same_iff tells known inside).mpr rfl⟩
    rcases Option.isSome_iff_exists.mp some with ⟨⟨other, _⟩, first⟩
    have foundInside := mem_of_find?_eq_some first
    have equal := find?_some first
    have keyEq : other = key := (keyed.same_iff tells known foundInside).mp equal
    rw [keyEq] at foundInside first
    exact ⟨_, first, keyed.value_unique foundInside inside⟩

theorem find_eq_none : find less key entries = none ↔ ∀ value, (key, value) ∉ entries := by
  rw [Option.eq_none_iff_forall_ne_some]
  exact forall_congr' fun value => not_congr (keyed.find_eq_some tells known)

/-- The assignment to a new key adds an entry. -/
theorem assign_new (absent : find less key entries = none) :
    assign less key value entries = entries ++ [(key, value)] := by
  rw [keyed.find_eq_none tells known] at absent
  induction entries with
  | nil => rfl
  | cons entry rest induction =>
    have differ : same less entry.1 key = false := by
      rw [Bool.eq_false_iff]
      intro equal
      rw [keyed.same_iff tells known mem_cons_self] at equal
      exact absent entry.2 (by rw [← equal]; exact mem_cons_self)
    have restKeyed : Keyed keys rest :=
      ⟨(nodup_cons.mp keyed.nodup).2, fun other inside => keyed.among _ (mem_cons_of_mem _ inside)⟩
    rw [assign, differ, induction restKeyed fun found inside => absent _ (mem_cons_of_mem _ inside)]
    rfl

theorem append_new (absent : find less key entries = none) :
    Keyed keys (entries ++ [(key, value)]) where
  nodup := by
    rw [keyed.find_eq_none tells known] at absent
    rw [map_append, nodup_append]
    refine ⟨keyed.nodup, nodup_singleton _, ?_⟩
    intro _ inside _ isKey equal
    rcases mem_map.mp inside with ⟨⟨old, _⟩, entryInside, rfl⟩
    rw [map_singleton, mem_singleton] at isKey
    have keyEq : old = key := equal.trans isKey
    apply absent
    rwa [← keyEq]
  among := by
    intro _ inside
    rw [mem_append, mem_singleton] at inside
    rcases inside with old | rfl
    · exact keyed.among _ old
    · exact known

theorem mem_erase {entry : Key × Value} :
    entry ∈ erase less key entries ↔ entry ∈ entries ∧ entry.1 ≠ key := by
  rw [erase, mem_filter]
  apply and_congr_right
  intro inside
  rw [Bool.not_eq_true', ← Bool.not_eq_true, keyed.same_iff tells known inside]

end

theorem erased (keyed : Keyed keys entries) : Keyed keys (erase less key entries) where
  nodup := keyed.nodup.sublist (Sublist.map _ filter_sublist)
  among entry inside := keyed.among entry (mem_of_mem_filter inside)

/-- The removal of a key that has an entry removes this entry. -/
theorem perm_erase (tells : Tells less keys) (keyed : Keyed keys entries)
    (known : keys key) (inside : (key, value) ∈ entries) :
    entries.Perm ((key, value) :: erase less key entries) := by
  have nodup := Nodup.of_map Prod.fst keyed.nodup
  have kept : (key, value) ∈ erase less key entries ↔ (key, value) ∈ entries ∧ key ≠ key :=
    keyed.mem_erase tells known
  rw [perm_ext_iff_of_nodup nodup]
  · rintro ⟨other, _⟩
    rw [mem_cons, keyed.mem_erase tells known]
    constructor
    · intro held
      by_cases equal : other = key
      · subst equal
        exact .inl (by rw [keyed.value_unique held inside])
      · exact .inr ⟨held, equal⟩
    · rintro (equal | ⟨held, _⟩)
      · rwa [equal]
      · exact held
  · rw [nodup_cons, kept]
    exact ⟨fun both => both.2 rfl, nodup.filter _⟩

end Keyed

end OmnetDsi.Library.KeyedLists
