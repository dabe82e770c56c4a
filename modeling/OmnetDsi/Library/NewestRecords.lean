import Mathlib.Data.List.Nodup
import Mathlib.Data.List.Perm.Basic
import Mathlib.Order.Lattice

/-!
# Tables of newest records

Records carry a key and a stamp.  A table holds, for every key that was heard
of, the record with the greatest stamp.  What it holds depends on which
records were heard only, not on their order or number (`Holds.perm`), as long
as no two records of a key have the same stamp.
-/

namespace OmnetDsi.Library.NewestRecords

open List

variable {Record Key Stamp : Type*} [LinearOrder Stamp]

section Tables

variable (key : Record → Key) (stamp : Record → Stamp)

/-- A record that was heard, and that none of its key is above. -/
def Newest (heard : List Record) (record : Record) : Prop :=
  record ∈ heard ∧ ∀ other ∈ heard, key other = key record → stamp other ≤ stamp record

/-- The table has one entry for a key, its newest record. -/
structure Holds (heard table : List Record) : Prop where
  nodup : (table.map key).Nodup
  mem_iff : ∀ record, record ∈ table ↔ Newest key stamp heard record

/-- Records of a key differ in their stamps. -/
def ToldApart (records : Record → Prop) : Prop :=
  ∀ record other, records record → records other →
    key record = key other → stamp record = stamp other → record = other

end Tables

variable {key : Record → Key} {stamp : Record → Stamp}
variable {heard table : List Record} {record : Record}

theorem newest_append_iff :
    Newest key stamp (heard ++ [record]) entry ↔
      (Newest key stamp heard entry ∧ (key record = key entry → stamp record ≤ stamp entry)) ∨
        entry = record ∧ ∀ other ∈ heard, key other = key record → stamp other ≤ stamp record := by
  constructor
  · rintro ⟨member, greatest⟩
    have earlier : ∀ other ∈ heard, key other = key entry → stamp other ≤ stamp entry :=
      fun other among => greatest _ (mem_append_left _ among)
    have last : key record = key entry → stamp record ≤ stamp entry :=
      greatest _ (mem_append_right _ (mem_singleton_self _))
    rcases mem_append.mp member with old | new
    · exact .inl ⟨⟨old, earlier⟩, last⟩
    · cases mem_singleton.mp new
      exact .inr ⟨rfl, earlier⟩
  · rintro (⟨⟨member, greatest⟩, last⟩ | ⟨rfl, greatest⟩)
    · refine ⟨mem_append_left _ member, ?_⟩
      intro _ among same
      rcases mem_append.mp among with old | new
      · exact greatest _ old same
      · cases mem_singleton.mp new
        exact last same
    · refine ⟨mem_append_right _ (mem_singleton_self _), ?_⟩
      intro _ among same
      rcases mem_append.mp among with old | new
      · exact greatest _ old same
      · cases mem_singleton.mp new
        exact le_refl _

theorem Newest.cons (newest : Newest key stamp heard entry)
    (below : key first = key entry → stamp first ≤ stamp entry) :
    Newest key stamp (first :: heard) entry := by
  refine ⟨mem_cons_of_mem _ newest.1, ?_⟩
  intro _ here same
  rcases mem_cons.mp here with rfl | here
  · exact below same
  · exact newest.2 _ here same

variable (key stamp) in
/-- A key that was heard of has a newest record. -/
theorem exists_newest (member : record ∈ heard) :
    ∃ entry, Newest key stamp heard entry ∧ key entry = key record ∧
      stamp record ≤ stamp entry := by
  induction heard generalizing record with
  | nil => cases member
  | cons first rest induction =>
    by_cases later : ∃ other ∈ rest, key other = key first
    · rcases later with ⟨_, among, sameKey⟩
      rcases mem_cons.mp member with rfl | old
      · rcases induction among with ⟨entry, newest, same, above⟩
        have entryKey := same.trans sameKey
        rcases le_total (stamp record) (stamp entry) with low | high
        · exact ⟨entry, newest.cons fun _ => low, entryKey, low⟩
        · refine ⟨record, ⟨mem_cons_self, ?_⟩, rfl, le_refl _⟩
          intro another here anotherKey
          rcases mem_cons.mp here with rfl | here
          · exact le_refl _
          · exact (newest.2 another here (anotherKey.trans entryKey.symm)).trans high
      · rcases induction old with ⟨entry, newest, same, above⟩
        by_cases beats : key first = key entry ∧ stamp entry ≤ stamp first
        · refine ⟨first, ⟨mem_cons_self, ?_⟩, beats.1.trans same, above.trans beats.2⟩
          intro another here anotherKey
          rcases mem_cons.mp here with rfl | here
          · exact le_refl _
          · exact (newest.2 another here (anotherKey.trans beats.1)).trans beats.2
        · refine ⟨entry, newest.cons fun firstKey => ?_, same, above⟩
          by_contra below
          exact beats ⟨firstKey, (not_le.mp below).le⟩
    · rcases mem_cons.mp member with rfl | old
      · refine ⟨record, ⟨mem_cons_self, ?_⟩, rfl, le_refl _⟩
        intro another here anotherKey
        rcases mem_cons.mp here with rfl | here
        · exact le_refl _
        · exact absurd ⟨another, here, anotherKey⟩ later
      · rcases induction old with ⟨entry, newest, same, above⟩
        refine ⟨entry, newest.cons fun firstKey => ?_, same, above⟩
        exact absurd ⟨entry, newest.1, firstKey.symm⟩ later

namespace Holds

/-- A table that has one entry for a key. -/
theorem of_nodup (nodup : (table.map key).Nodup) : Holds key stamp table table := by
  refine ⟨nodup, ?_⟩
  intro _
  constructor
  · intro member
    refine ⟨member, ?_⟩
    intro _ among same
    rw [inj_on_of_nodup_map nodup among member same]
  · exact fun newest => newest.1

section

variable (holds : Holds key stamp heard table)
include holds

/-- The table is as new as all that was heard. -/
theorem exists_above (member : record ∈ heard) :
    ∃ entry ∈ table, key entry = key record ∧ stamp record ≤ stamp entry := by
  rcases exists_newest _ stamp member with ⟨entry, newest, same, above⟩
  exact ⟨entry, (holds.mem_iff _).mpr newest, same, above⟩

/-- A record below an entry of its key changes nothing. -/
theorem skip (member : entry ∈ table)
    (same : key entry = key record) (below : stamp record ≤ stamp entry)
    (apart : stamp record = stamp entry → record = entry) :
    Holds key stamp (heard ++ [record]) table := by
  refine ⟨holds.nodup, ?_⟩
  intro other
  have here := (holds.mem_iff _).mp member
  rw [newest_append_iff, holds.mem_iff]
  constructor
  · intro newest
    refine .inl ⟨newest, ?_⟩
    intro sameKey
    exact below.trans (newest.2 _ here.1 (same.trans sameKey))
  · rintro (⟨newest, _⟩ | ⟨rfl, greatest⟩)
    · exact newest
    · have equal : stamp other = stamp entry := le_antisymm below (greatest _ here.1 same)
      rwa [apart equal]

/-- A record of a key without an entry is added. -/
theorem push (absent : ∀ entry ∈ table, key entry ≠ key record) :
    Holds key stamp (heard ++ [record]) (table ++ [record]) := by
  have unheard : ∀ other ∈ heard, key other ≠ key record := by
    intro _ among same
    rcases holds.exists_above among with ⟨entry, member, sameKey, _⟩
    exact absent _ member (sameKey.trans same)
  constructor
  · rw [map_append, map_singleton, nodup_append']
    refine ⟨holds.nodup, nodup_singleton _, ?_⟩
    intro _ member new
    rcases mem_map.mp member with ⟨_, among, rfl⟩
    exact absent _ among (mem_singleton.mp new)
  · intro _
    rw [newest_append_iff, mem_append, mem_singleton, holds.mem_iff]
    constructor
    · rintro (newest | rfl)
      · refine .inl ⟨newest, ?_⟩
        intro same
        exact absurd same.symm (unheard _ newest.1)
      · exact .inr ⟨rfl, fun another among same => absurd same (unheard _ among)⟩
    · rintro (⟨newest, _⟩ | ⟨same, _⟩)
      · exact .inl newest
      · exact .inr same

end

/-- A record above the entry of its key takes its place. -/
theorem replace {after : List Record} (holds : Holds key stamp heard (before ++ entry :: after))
    (same : key entry = key record) (above : stamp entry < stamp record) :
    Holds key stamp (heard ++ [record]) (before ++ record :: after) := by
  have greatest := ((holds.mem_iff entry).mp (by simp)).2
  have alone : ∀ other ∈ before ++ after, key other ≠ key record := by
    intro other member sameKey
    have nodup := holds.nodup
    rw [map_append, map_cons, nodup_middle, ← map_append, nodup_cons] at nodup
    exact nodup.1 (mem_map.mpr ⟨other, member, sameKey.trans same.symm⟩)
  constructor
  · have nodup := holds.nodup
    rwa [map_append, map_cons, same, ← map_cons, ← map_append] at nodup
  · intro other
    have rest : other ∈ before ++ after ↔
        Newest key stamp heard other ∧ key record ≠ key other := by
      rw [← holds.mem_iff]
      constructor
      · intro member
        refine ⟨?_, (alone _ member).symm⟩
        rw [mem_append, mem_cons]
        rcases mem_append.mp member with left | right
        · exact .inl left
        · exact .inr (.inr right)
      · rintro ⟨member, different⟩
        rw [mem_append, mem_cons] at member
        rw [mem_append]
        rcases member with left | rfl | right
        · exact .inl left
        · exact absurd same.symm different
        · exact .inr right
    have parts : other ∈ before ++ record :: after ↔ other ∈ before ++ after ∨ other = record := by
      simp only [mem_append, mem_cons]
      constructor
      · rintro (left | here | right)
        · exact .inl (.inl left)
        · exact .inr here
        · exact .inl (.inr right)
      · rintro ((left | right) | here)
        · exact .inl left
        · exact .inr (.inr right)
        · exact .inr (.inl here)
    rw [parts, rest, newest_append_iff]
    constructor
    · rintro (⟨newest, different⟩ | rfl)
      · exact .inl ⟨newest, fun sameKey => absurd sameKey different⟩
      · refine .inr ⟨rfl, ?_⟩
        intro another among sameKey
        exact (greatest another among (sameKey.trans same.symm)).trans above.le
    · rintro (⟨newest, atMost⟩ | ⟨here, _⟩)
      · refine .inl ⟨newest, ?_⟩
        intro sameKey
        have low := greatest other newest.1 (sameKey.symm.trans same.symm)
        exact absurd (atMost sameKey) (not_le.mpr (low.trans_lt above))
      · exact .inr here

/-- The order and the number of the records heard do not matter. -/
theorem perm (holds : Holds key stamp heard table) (also : Holds key stamp others other)
    (same : ∀ record, record ∈ heard ↔ record ∈ others) : table.Perm other := by
  rw [perm_ext_iff_of_nodup holds.nodup.of_map also.nodup.of_map]
  intro _
  rw [holds.mem_iff, also.mem_iff]
  simp only [Newest, same]

end Holds

end OmnetDsi.Library.NewestRecords
