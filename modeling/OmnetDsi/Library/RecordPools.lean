import Mathlib.Data.List.Nodup
import Mathlib.Data.List.Perm.Basic

/-!
# Pools of records with identities

A pool is a list of records, each with an identity that stands for its place
in memory.  A record is looked up, replaced and discarded by its identity, and
no two records of a pool have the same one (`Distinct`).

`put_perm` and `discard_perm` say what becomes of a pool when one of its
records is replaced or discarded; `map_put` is for what a replacement leaves
as it was.
-/

namespace OmnetDsi.Library.RecordPools

open List RecordPools

variable {Record Name View : Type*}

def Distinct (identity : Record → Name) (pool : List Record) : Prop :=
  (pool.map identity).Nodup

namespace Distinct

variable {identity : Record → Name}

theorem nil : Distinct identity ([] : List Record) :=
  nodup_nil

theorem eq (distinct : Distinct identity pool) (left : record ∈ pool) (right : other ∈ pool)
    (same : identity record = identity other) : record = other :=
  inj_on_of_nodup_map distinct left right same

theorem perm (distinct : Distinct identity pool)
    (same : pool.Perm other) : Distinct identity other :=
  (same.map _).nodup_iff.mp distinct

theorem cons (distinct : Distinct identity pool)
    (fresh : ∀ other ∈ pool, identity other ≠ identity record) :
    Distinct identity (record :: pool) := by
  refine nodup_cons.mpr ⟨?_, distinct⟩
  intro taken
  rcases mem_map.mp taken with ⟨_, member, same⟩
  exact fresh _ member same

end Distinct

variable [DecidableEq Name]
variable (identity : Record → Name)

def find (name : Name) (pool : List Record) : Option Record :=
  pool.find? fun record => identity record = name

/-- The record takes the place of the one with its identity. -/
def put (record : Record) (pool : List Record) : List Record :=
  pool.map fun other => if identity other = identity record then record else other

def discard (name : Name) (pool : List Record) : List Record :=
  pool.filter fun record => identity record ≠ name

section Lookups

variable {identity}

theorem mem_of_find (found : find identity name pool = some record) :
    record ∈ pool ∧ identity record = name := by
  refine ⟨mem_of_find?_eq_some found, ?_⟩
  simpa using find?_some found

theorem find_eq_none :
    find identity name pool = none ↔ ∀ record ∈ pool, identity record ≠ name := by
  simp [find]

theorem Distinct.find_eq (distinct : Distinct identity pool) (member : record ∈ pool) :
    find identity (identity record) pool = some record := by
  cases found : find identity (identity record) pool with
  | none => exact absurd rfl (find_eq_none.mp found _ member)
  | some _ =>
    have known := mem_of_find found
    rw [distinct.eq known.1 member known.2]

end Lookups

/-! ## Replacing a record -/

section Replacing

variable {identity}
variable {pool : List Record} {record : Record}

theorem mem_put :
    other ∈ put identity record pool ↔
      other ∈ pool ∧ identity other ≠ identity record ∨
        other = record ∧ ∃ old ∈ pool, identity old = identity record := by
  rw [put, mem_map]
  constructor
  · rintro ⟨old, member, rfl⟩
    split_ifs with same
    · exact .inr ⟨rfl, old, member, same⟩
    · exact .inl ⟨member, same⟩
  · rintro (⟨member, differs⟩ | ⟨rfl, old, member, same⟩)
    · exact ⟨other, member, if_neg differs⟩
    · exact ⟨old, member, if_pos same⟩

/-- A view that the new record shares with the old one. -/
theorem map_put {view : Record → View}
    (same : ∀ old ∈ pool, identity old = identity record → view record = view old) :
    (put identity record pool).map view = pool.map view := by
  rw [put, map_map]
  apply map_congr_left
  intro _ member
  rw [Function.comp_apply]
  split_ifs with here
  · exact same _ member here
  · rfl

theorem Distinct.put (distinct : Distinct identity pool) (record : Record) :
    Distinct identity (put identity record pool) := by
  have names := @map_put _ _ _ _ _ pool record identity fun old _ same => same.symm
  rwa [Distinct, names]

theorem put_put (same : identity later = identity record) :
    put identity later (put identity record pool) = put identity later pool := by
  unfold put
  rw [map_map]
  apply map_congr_left
  intro old _
  rw [Function.comp_apply, same]
  by_cases here : identity old = identity record
  · rw [if_pos here, if_pos rfl, if_pos here]
  · rw [if_neg here, if_neg here]

theorem put_of_absent (absent : ∀ other ∈ pool, identity other ≠ identity record) :
    put identity record pool = pool := by
  refine (map_congr_left ?_).trans (map_id' _)
  intro _ member
  exact if_neg (absent _ member)

/-- A record that was added is replaced. -/
theorem put_added {all : List Record}
    (parted : all.Perm (added :: pool)) (same : identity record = identity added)
    (absent : ∀ other ∈ pool, identity other ≠ identity record) :
    (put identity record all).Perm (record :: pool) := by
  refine (parted.map _).trans (.of_eq ?_)
  rw [map_cons, if_pos same.symm]
  exact congrArg _ (put_of_absent absent)

end Replacing

/-! ## Discarding a record -/

section Discarding

variable {identity}
variable {pool : List Record}

theorem mem_discard :
    record ∈ discard identity name pool ↔ record ∈ pool ∧ identity record ≠ name := by
  simp [discard]

theorem Distinct.discard (distinct : Distinct identity pool) (name : Name) :
    Distinct identity (discard identity name pool) :=
  (filter_sublist.map _).nodup distinct

theorem discard_of_absent (absent : ∀ other ∈ pool, identity other ≠ name) :
    discard identity name pool = pool := by
  apply filter_eq_self.mpr
  intro other member
  simpa using absent other member

theorem discard_put (same : identity record = name) :
    discard identity name (put identity record pool) = discard identity name pool := by
  subst same
  rw [discard, put, filter_map]
  have rest : ∀ old ∈ pool.filter fun old => identity old ≠ identity record,
      (if identity old = identity record then record else old) = old := by
    intro _ kept
    rw [if_neg]
    simpa using (mem_filter.mp kept).2
  refine Eq.trans (congrArg _ ?_) ((map_congr_left rest).trans ?_)
  · apply filter_congr
    intro _ _
    rw [Function.comp_apply]
    split_ifs with here
    · simp [here]
    · rfl
  · exact map_id' _

theorem discard_perm (distinct : Distinct identity pool) (member : record ∈ pool) :
    pool.Perm (record :: discard identity (identity record) pool) := by
  rcases append_of_mem member with ⟨before, after, rfl⟩
  have parted : Distinct identity (record :: (before ++ after)) := distinct.perm perm_middle
  have absent : ∀ other ∈ before ++ after, identity other ≠ identity record := by
    intro other elsewhere same
    apply (nodup_cons.mp parted).1
    exact mem_map.mpr ⟨other, elsewhere, same⟩
  have rest := discard_of_absent absent
  unfold discard at rest ⊢
  rw [filter_append] at rest
  rw [filter_append, filter_cons_of_neg (by simp), rest]
  exact perm_middle

theorem put_perm (distinct : Distinct identity pool) (member : other ∈ pool)
    (same : identity other = identity record) :
    (put identity record pool).Perm (record :: discard identity (identity record) pool) := by
  have replaced : record ∈ put identity record pool := mem_put.mpr (.inr ⟨rfl, other, member, same⟩)
  have parted := discard_perm (distinct.put _) replaced
  exact parted.trans (.of_eq (congrArg _ (discard_put rfl)))

end Discarding

end OmnetDsi.Library.RecordPools
