import OmnetDsi.Sctp.GapBounds

/-!
# Removing a TSN from a gap list

A full receiver throws a chunk away and takes its TSN out of the gap list: the
gap loses it at an end, is split in two, or is removed.  When the last gap is
removed, `lastTsnAck` may be raised, which only the sender uses.
-/

namespace OmnetDsi.Sctp.GapRemoval

open Function List
open Library.ShiftedArrays Sctp.GapBounds Sctp.GapLists Sctp.ReceiveBuffer
open SCTPAssociation (dropGap removeFromGaps shrinkGap)

abbrev Gap := Tsn × Tsn

/-! ## What a gap list represents -/

def gapList (gaps : SCTPStateVariables) : List Gap :=
  (range gaps.numGaps).map fun i => (gaps.gapStartList i, gaps.gapStopList i)

def Gap.has (gap : Gap) (tsn : Tsn) : Bool :=
  tsnBetween gap.1 tsn gap.2

def Has (list : List Gap) (tsn : Tsn) : Prop :=
  ∃ gap ∈ list, gap.has tsn = true

/-- The distance of a TSN from one before the list. -/
def place (base tsn : Tsn) : Nat :=
  (tsn - base).toNat

/-- The gaps come one after the other behind `base`, within half of all TSNs. -/
structure SortedFrom (base : Tsn) (list : List Gap) : Prop where
  shaped : ∀ gap ∈ list,
    0 < place base gap.1 ∧ place base gap.1 ≤ place base gap.2 ∧ place base gap.2 < 2 ^ 31
  apart : list.Pairwise fun gap later => place base gap.2 < place base later.1

def Sorted (gaps : SCTPStateVariables) : Prop :=
  ∃ base, SortedFrom base (gapList gaps)

/-- Exactly the TSN is taken out, and nothing else is changed. -/
structure Removes (assoc : SCTPAssociation) (removedTsn : Tsn) (next : SCTPAssociation) : Prop where
  has : ∀ tsn, Has (gapList next.gaps) tsn ↔ Has (gapList assoc.gaps) tsn ∧ tsn ≠ removedTsn
  sorted : Sorted next.gaps
  aside : next =
    { assoc with
      gaps :=
        { assoc.gaps with
          numGaps := next.gaps.numGaps
          gapStartList := next.gaps.gapStartList
          gapStopList := next.gaps.gapStopList
          highestTsnReceived := next.gaps.highestTsnReceived } }

/-! ## Places -/

section Places

variable {base tsn : Tsn}

theorem place_inj : place base tsn = place base other ↔ tsn = other := by
  unfold place
  bv_omega

theorem tsnBetween_iff (ordered : place base start ≤ place base stop) :
    tsnBetween start tsn stop = true ↔
      place base start ≤ place base tsn ∧ place base tsn ≤ place base stop := by
  unfold place at *
  rw [tsnBetween, decide_eq_true_iff]
  bv_omega

theorem place_succ (room : place base tsn < 2 ^ 31) :
    place base (tsn + 1) = place base tsn + 1 := by
  unfold place at *
  bv_omega

theorem place_pred (positive : 0 < place base tsn) : place base (tsn - 1) = place base tsn - 1 := by
  unfold place at *
  bv_omega

theorem several_iff (positive : 0 < place base start)
    (ordered : place base start ≤ place base stop) (room : place base stop < 2 ^ 31) :
    (stop - start + 1).toInt > 1 ↔ place base start < place base stop := by
  unfold place at *
  have size : (stop - start + 1).toNat = (stop - base).toNat - (start - base).toNat + 1 := by
    bv_omega
  rw [BitVec.toInt_eq_toNat_cond, size]
  split_ifs <;> omega

end Places

/-! ## One gap -/

/-- What is left of a gap. -/
def pieces (gap : Gap) (removedTsn : Tsn) : List Gap :=
  if (gap.2 - gap.1 + 1).toInt > 1 then
    if gap.2 = removedTsn then [(gap.1, gap.2 - 1)]
    else if gap.1 = removedTsn then [(gap.1 + 1, gap.2)]
    else [(gap.1, removedTsn - 1), (removedTsn + 1, gap.2)]
  else []

section Pieces

variable {after : List Gap}

/-- The pieces are in order inside the gap, and have what it has but for the TSN. -/
theorem pieces_spec
    (shaped : 0 < place base gap.1 ∧ place base gap.1 ≤ place base gap.2 ∧
      place base gap.2 < 2 ^ 31)
    (inside : gap.has removedTsn = true) :
    (∀ piece ∈ pieces gap removedTsn,
        place base gap.1 ≤ place base piece.1 ∧ place base piece.2 ≤ place base gap.2) ∧
      SortedFrom base (pieces gap removedTsn) ∧
        ∀ tsn, Has (pieces gap removedTsn) tsn ↔ gap.has tsn = true ∧ tsn ≠ removedTsn := by
  rcases shaped with ⟨positive, ordered, room⟩
  have within := (tsnBetween_iff ordered).mp inside
  have several := several_iff positive ordered room
  have next : place base (removedTsn + 1) = place base removedTsn + 1 := place_succ (by omega)
  have pred : place base (removedTsn - 1) = place base removedTsn - 1 := place_pred (by omega)
  have removed (tsn : Tsn) : tsn ≠ removedTsn ↔ place base tsn ≠ place base removedTsn :=
    not_congr place_inj.symm
  unfold pieces
  split_ifs with more stop start
  · subst stop
    refine ⟨?_, ⟨?_, pairwise_singleton _ _⟩, fun tsn => ?_⟩
    · simp only [mem_singleton, forall_eq, pred]
      omega
    · simp only [mem_singleton, forall_eq, pred]
      omega
    · rw [removed, Gap.has, tsnBetween_iff ordered]
      simp only [Has, mem_singleton, exists_eq_left, Gap.has]
      rw [@tsnBetween_iff base _ _ _ (by omega), pred]
      omega
  · subst start
    refine ⟨?_, ⟨?_, pairwise_singleton _ _⟩, fun tsn => ?_⟩
    · simp only [mem_singleton, forall_eq, next]
      omega
    · simp only [mem_singleton, forall_eq, next]
      omega
    · rw [removed, Gap.has, tsnBetween_iff ordered]
      simp only [Has, mem_singleton, exists_eq_left, Gap.has]
      rw [@tsnBetween_iff base _ _ _ (by omega), next]
      omega
  · have notStop : place base gap.2 ≠ place base removedTsn := place_inj.not.mpr stop
    have notStart : place base gap.1 ≠ place base removedTsn := place_inj.not.mpr start
    refine ⟨?_, ⟨?_, ?_⟩, fun tsn => ?_⟩
    · simp only [forall_mem_cons, not_mem_nil, false_imp_iff, implies_true, and_true, next, pred]
      omega
    · simp only [forall_mem_cons, not_mem_nil, false_imp_iff, implies_true, and_true, next, pred]
      omega
    · simp only [pairwise_pair, next, pred]
      omega
    · rw [removed, Gap.has, tsnBetween_iff ordered]
      simp only [Has, mem_cons, not_mem_nil, or_false, exists_eq_or_imp, exists_eq_left, Gap.has]
      rw [@tsnBetween_iff base _ _ _ (by omega), @tsnBetween_iff base _ _ _ (by omega), next, pred]
      omega
  · refine ⟨nofun, ⟨nofun, .nil⟩, fun tsn => ?_⟩
    rw [removed, Gap.has, tsnBetween_iff ordered]
    simp only [Has, not_mem_nil, false_and, exists_false, false_iff]
    omega

section

variable (sorted : SortedFrom base (before ++ gap :: after)) (inside : gap.has removedTsn = true)
include sorted inside

theorem SortedFrom.replace : SortedFrom base (before ++ (pieces gap removedTsn ++ after)) := by
  obtain ⟨shaped, apart⟩ := sorted
  have among : gap ∈ before ++ gap :: after := mem_append_right _ mem_cons_self
  obtain ⟨within, ⟨piecesShaped, piecesApart⟩, _⟩ := pieces_spec (shaped _ among) inside
  rw [pairwise_append, pairwise_cons] at apart
  obtain ⟨earlier, ⟨behind, later⟩, across⟩ := apart
  rw [forall_mem_append, forall_mem_cons] at shaped
  constructor
  · rw [forall_mem_append, forall_mem_append]
    exact ⟨shaped.1, piecesShaped, shaped.2.2⟩
  · rw [pairwise_append, pairwise_append]
    refine ⟨earlier, ⟨piecesApart, later, fun piece left next right => ?_⟩, ?_⟩
    · exact (within _ left).2.trans_lt (behind _ right)
    · intro previous left next right
      rcases mem_append.mp right with piece | further
      · exact (across _ left _ mem_cons_self).trans_le (within _ piece).1
      · exact across _ left _ (mem_cons_of_mem _ further)

theorem SortedFrom.only :
    (∀ other ∈ before, ¬other.has removedTsn = true) ∧
      ∀ other ∈ after, ¬other.has removedTsn = true := by
  obtain ⟨shaped, apart⟩ := sorted
  rw [pairwise_append, pairwise_cons] at apart
  rw [forall_mem_append, forall_mem_cons] at shaped
  obtain ⟨_, ⟨behind, _⟩, across⟩ := apart
  have here := (tsnBetween_iff shaped.2.1.2.1).mp inside
  constructor
  · intro other left there
    have apart := across _ left _ mem_cons_self
    have there := (tsnBetween_iff (shaped.1 _ left).2.1).mp there
    omega
  · intro other right there
    have apart := behind _ right
    have there := (tsnBetween_iff (shaped.2.2 _ right).2.1).mp there
    omega

end

theorem has_append : Has (left ++ right) tsn ↔ Has left tsn ∨ Has right tsn := by
  simp only [Has, mem_append, or_and_right, exists_or]

theorem SortedFrom.has_replace (sorted : SortedFrom base (before ++ gap :: after))
    (inside : gap.has removedTsn = true) (tsn : Tsn) :
    Has (before ++ (pieces gap removedTsn ++ after)) tsn ↔
      Has (before ++ gap :: after) tsn ∧ tsn ≠ removedTsn := by
  have among : gap ∈ before ++ gap :: after := mem_append_right _ mem_cons_self
  have left := (pieces_spec (sorted.shaped _ among) inside).2.2 tsn
  obtain ⟨earlier, later⟩ := sorted.only inside
  have apart {others : List Gap} (absent : ∀ other ∈ others, ¬other.has removedTsn = true) :
      Has others tsn → tsn ≠ removedTsn := by
    rintro ⟨other, member, there⟩ rfl
    exact absent _ member there
  have split : Has (gap :: after) tsn ↔ gap.has tsn = true ∨ Has after tsn := by
    simp [Has]
  have before := apart earlier
  have after := apart later
  rw [has_append, has_append, has_append, left, split]
  grind

end Pieces

/-! ## The loop -/

section Loop

variable {removedTsn lastTsnAck : Tsn}

/-- The arrays hold the list. -/
structure Shown (gaps : SCTPStateVariables) (list : List Gap) : Prop where
  numGaps : gaps.numGaps = list.length
  starts : Holds gaps.gapStartList (list.map Prod.fst)
  stops : Holds gaps.gapStopList (list.map Prod.snd)

theorem shown_gapList (gaps : SCTPStateVariables) : Shown gaps (gapList gaps) := by
  refine ⟨by simp [gapList], ?_, ?_⟩
  all_goals
    intro _ _ _
    grind [gapList]

theorem Shown.gapList_eq (shown : Shown gaps list) : gapList gaps = list := by
  obtain ⟨numGaps, starts, stops⟩ := shown
  refine ext_getElem (by simp [gapList, numGaps]) fun index _ bound => ?_
  have start := starts index list[index].1 (by simp [bound])
  have stop := stops index list[index].2 (by simp [bound])
  simp [gapList, start, stop]

theorem Shown.removeAt {after : List Gap}
    (shown : Shown gaps (before ++ gap :: after)) (inside : gap.has removedTsn = true) :
    Shown (removeAt gaps removedTsn gaps.numGaps before.length)
      (before ++ (pieces gap removedTsn ++ after)) := by
  obtain ⟨numGaps, starts, stops⟩ := shown
  rw [map_append, map_cons] at starts stops
  have start : gaps.gapStartList before.length = gap.1 := by
    simpa using starts.at_length
  have stop : gaps.gapStopList before.length = gap.2 := by
    simpa using stops.at_length
  have count : gaps.numGaps = before.length + after.length + 1 := by
    simpa [Nat.add_assoc] using numGaps
  rw [Gap.has, ← start, ← stop] at inside
  rw [GapBounds.removeAt, pieces, shrinkGap, dropGap, if_pos inside, start, stop]
  split_ifs
  · refine ⟨by simpa using numGaps, ?_, ?_⟩
    · simpa using starts
    · simpa using stops.set
  · refine ⟨by simpa using numGaps, ?_, ?_⟩
    · simpa using starts.set
    · simpa using stops
  · -- the start of the gap is moved behind itself and then overwritten
    have behind (entry : Tsn) :
        update (shiftUp gaps.gapStartList before.length gaps.numGaps) (before.length + 1) entry =
          update (shiftUp gaps.gapStartList (before.length + 1) gaps.numGaps)
            (before.length + 1) entry := by
      grind [shiftUp_apply]
    rw [append_cons] at starts
    have left := @Holds.insert _ _ _ _ (removedTsn + 1) gaps.numGaps starts (by simp; omega)
    have right := @Holds.insert _ _ _ _ (removedTsn - 1) gaps.numGaps stops (by simp; omega)
    refine ⟨by simp [count]; omega, ?_, ?_⟩
    · rw [behind]
      simpa using left
    · simpa using right
  · have closed {left right : List Tsn} {entry : Tsn} {array : Nat → Tsn}
        (holds : Holds array (left ++ entry :: right)) (lefts : left.length = before.length)
        (rights : right.length = after.length) :
        Holds
          (update (shiftDown array (gaps.numGaps - before.length) before.length)
            (gaps.numGaps - 1) 0)
          (left ++ right) := by
      rw [← lefts]
      refine (holds.remove (by omega)).update_beyond ?_
      rw [length_append]
      omega
    refine ⟨by simp [count], ?_, ?_⟩
    · simpa using closed starts (length_map _) (length_map _)
    · simpa using closed stops (length_map _) (length_map _)

theorem removeFromGaps_skip (within : i ≤ last)
    (absent : ∀ k, i ≤ k → k < last →
      ¬tsnBetween (gaps.gapStartList k) removedTsn (gaps.gapStopList k) = true) :
    removeFromGaps removedTsn numgaps last (gaps, lastTsnAck) =
      removeFromGaps removedTsn numgaps i (gaps, lastTsnAck) := by
  induction last, within using Nat.le_induction with
  | base => rfl
  | succ last within induction =>
    rw [removeFromGaps, if_neg (absent _ within last.lt_succ_self)]
    exact induction fun k above below => absent k above (below.trans last.lt_succ_self)

/-- Only the gap with the TSN is changed, and it may be that `lastTsnAck` is raised. -/
theorem removeFromGaps_eq {before after : List Gap} {gap : Gap}
    (list : gapList gaps = before ++ gap :: after)
    (sorted : SortedFrom base (before ++ gap :: after)) (inside : gap.has removedTsn = true) :
    removeFromGaps removedTsn gaps.numGaps gaps.numGaps (gaps, lastTsnAck) =
      (removeAt gaps removedTsn gaps.numGaps before.length,
        if gapList gaps = [(removedTsn, removedTsn)] ∧ removedTsn = lastTsnAck + 1 then removedTsn
        else lastTsnAck) := by
  obtain ⟨earlier, later⟩ := sorted.only inside
  have shown := shown_gapList gaps
  rw [list] at shown ⊢
  have shaped := sorted.shaped _ (mem_append_right _ mem_cons_self)
  have count : gaps.numGaps = before.length + 1 + after.length := by
    simpa [Nat.add_assoc, Nat.add_comm 1] using shown.numGaps
  have entry (k : Nat) (other : Gap) (found : (before ++ gap :: after)[k]? = some other) :
      gaps.gapStartList k = other.1 ∧ gaps.gapStopList k = other.2 :=
    ⟨shown.starts k _ (by rw [getElem?_map, found]; rfl),
      shown.stops k _ (by rw [getElem?_map, found]; rfl)⟩
  have here := entry before.length gap (by simp)
  have behind : ∀ k, before.length + 1 ≤ k → k < gaps.numGaps →
      ¬tsnBetween (gaps.gapStartList k) removedTsn (gaps.gapStopList k) = true := by
    intro k above _
    have bound : k - (before.length + 1) < after.length := by omega
    have place := entry k after[k - (before.length + 1)] (by
      rw [append_cons, getElem?_append_right (by simpa using above)]
      simp [bound])
    rw [place.1, place.2]
    exact later _ (getElem_mem _)
  have ahead : ∀ k, 0 ≤ k → k < before.length →
      ¬tsnBetween ((removeAt gaps removedTsn gaps.numGaps before.length).gapStartList k) removedTsn
        ((removeAt gaps removedTsn gaps.numGaps before.length).gapStopList k) = true := by
    intro k _ below
    have same := @sameBelow_removeAt gaps removedTsn gaps.numGaps before.length (by omega) k below
    have place := entry k before[k] (by rw [getElem?_append_left below]; simp [below])
    rw [same.1, same.2, place.1, place.2]
    exact earlier _ (getElem_mem _)
  have several := several_iff shaped.1 shaped.2.1 shaped.2.2
  have within := (tsnBetween_iff shaped.2.1).mp inside
  have single : before ++ gap :: after = [(removedTsn, removedTsn)] ↔
      ¬(gap.2 - gap.1 + 1).toInt > 1 ∧ gaps.numGaps - 1 = 0 := by
    rw [several, count]
    constructor
    · intro same
      have lengths : before.length + (after.length + 1) = 1 := by
        simpa using congrArg length same
      have only : gap = (removedTsn, removedTsn) := by
        rw [← mem_singleton, ← same]
        exact mem_append_right _ mem_cons_self
      rw [only]
      exact ⟨lt_irrefl _, by omega⟩
    · rintro ⟨_, _⟩
      obtain rfl : before = [] := length_eq_zero_iff.mp (by omega)
      obtain rfl : after = [] := length_eq_zero_iff.mp (by omega)
      have start : gap.1 = removedTsn := place_inj.mp (by omega : place base _ = place base _)
      have stop : gap.2 = removedTsn := place_inj.mp (by omega : place base _ = place base _)
      have only : gap = (removedTsn, removedTsn) := Prod.ext start stop
      rw [only, nil_append]
  rw [removeFromGaps_skip (by omega) behind, removeFromGaps]
  refine Eq.trans (congrArg _ ?_) (removeFromGaps_skip (Nat.zero_le _) ahead)
  rw [Gap.has, ← here.1, ← here.2] at inside
  rw [← here.1, ← here.2] at single
  simp only [single]
  rw [GapBounds.removeAt, if_pos inside, if_pos inside]
  by_cases more : (gaps.gapStopList before.length - gaps.gapStartList before.length + 1).toInt > 1
  · simp only [more, not_true_eq_false, false_and, if_true, if_false]
  · simp only [more, not_false_eq_true, true_and, if_false]
    exact congrArg _ (if_congr Iff.rfl rfl rfl)

end Loop

/-! ## The whole operation -/

/--
The TSN is removed and nothing else is changed, unless it is all of the list
and comes next behind `lastTsnAck`.
-/
theorem removes_iff {assoc : SCTPAssociation} {removedTsn : Tsn} (sorted : Sorted assoc.gaps)
    (has : Has (gapList assoc.gaps) removedTsn) :
    Removes assoc removedTsn (assoc.removeFromGapList removedTsn) ↔
      ¬(gapList assoc.gaps = [(removedTsn, removedTsn)] ∧ removedTsn = assoc.lastTsnAck + 1) := by
  obtain ⟨base, sorted⟩ := sorted
  obtain ⟨gap, among, inside⟩ := has
  obtain ⟨before, after, list⟩ := append_of_mem among
  rw [list] at sorted
  have removed := @removeFromGaps_eq _ assoc.lastTsnAck _ _ _ _ _ list sorted inside
  have shown : gapList (removeAt assoc.gaps removedTsn assoc.gaps.numGaps before.length) =
      before ++ (pieces gap removedTsn ++ after) :=
    ((list ▸ shown_gapList assoc.gaps).removeAt inside).gapList_eq
  constructor
  · rintro removes raised
    have same : (assoc.removeFromGapList removedTsn).lastTsnAck = assoc.lastTsnAck := by
      rw [removes.aside]
    have raises : (assoc.removeFromGapList removedTsn).lastTsnAck = removedTsn := by
      rw [SCTPAssociation.removeFromGapList, removed, if_pos raised]
    rw [raises, raised.2] at same
    exact absurd same (by simp)
  · intro kept
    rw [SCTPAssociation.removeFromGapList, removed]
    refine ⟨fun tsn => ?_, ⟨base, ?_⟩, ?_⟩
    · change Has (gapList (removeAt _ _ _ _)) tsn ↔ _
      rw [shown, list]
      exact sorted.has_replace inside _
    · change SortedFrom base (gapList (removeAt _ _ _ _))
      rw [shown]
      exact sorted.replace inside
    · unfold GapBounds.removeAt shrinkGap dropGap
      split_ifs <;> rfl

/-! ## An association with one gap -/

/-- TSN 5 has come behind the cumulative TSN 2. -/
def oneGap (lastTsnAck : Tsn) : SCTPAssociation :=
  { receiver with
    gaps :=
      { receiver.gaps with
        cTsnAck := 2
        highestTsnReceived := 5
        numGaps := 1
        gapStartList := fun _ => 5
        gapStopList := fun _ => 5 }
    lastTsnAck }

theorem gapList_oneGap (lastTsnAck : Tsn) : gapList (oneGap lastTsnAck).gaps = [(5, 5)] :=
  rfl

theorem oneGap_sorted (lastTsnAck : Tsn) : Sorted (oneGap lastTsnAck).gaps :=
  ⟨2, gapList_oneGap _ ▸ ⟨forall_mem_singleton.mpr (by decide), pairwise_singleton _ _⟩⟩

theorem oneGap_has (lastTsnAck : Tsn) : Has (gapList (oneGap lastTsnAck).gaps) 5 :=
  ⟨(5, 5), gapList_oneGap _ ▸ mem_singleton_self _, by decide⟩

theorem oneGap_removes : Removes (oneGap 9) 5 ((oneGap 9).removeFromGapList 5) :=
  (removes_iff (oneGap_sorted 9) (oneGap_has 9)).mpr (by decide)

/-- The receiver raises what the sender takes for its last acknowledgement. -/
theorem oneGap_raised :
    Sorted (oneGap 4).gaps ∧ Has (gapList (oneGap 4).gaps) 5 ∧
      ((oneGap 4).removeFromGapList 5).lastTsnAck = 5 ∧
        ¬Removes (oneGap 4) 5 ((oneGap 4).removeFromGapList 5) := by
  have raised : ((oneGap 4).removeFromGapList 5).lastTsnAck = 5 := by decide
  refine ⟨oneGap_sorted 4, oneGap_has 4, raised, fun removes => ?_⟩
  rw [removes.aside] at raised
  exact absurd raised (by decide)

end OmnetDsi.Sctp.GapRemoval
