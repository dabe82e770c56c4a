import OmnetDsi.Sctp.ReceiveBuffer

/-!
# The bounds of the gap lists

The two arrays of a receiver have `MAX_GAP_COUNT` entries each.  No operation
compares `numGaps` with that number before it opens a gap, and the loops that
move gaps also use an entry or two behind those in use.

Each operation is given with what it uses of the arrays; it stays inside
exactly when there is room for what it does.
-/

namespace OmnetDsi.Sctp.GapBounds

open List
open Library.ShiftedArrays Library.Transition Sctp.ReceiveBuffer
open SCTPAssociation (addDuplicate advanceCtsna classify createSack dropGap finish makeRoomForTsn
  makeRoomFrom newHighest openWindow processDataArrived pushChunk pushRound pushStream pushUlp
  putInDeliveryQ removeFromGaps shrinkGap storeIn takeIn throwHigh updateGapList)
open Sctp.GapLists hiding Event step
open Sctp.ReceiveStreams (SCTPDataVariables SCTPReceiveStream)

def MAX_GAP_COUNT : Nat := 360

/-! ## What is used -/

/-- An index that is used on the arrays, or a value that is given to `numGaps`. -/
inductive Access where
  | entry (index : Int)
  | count (numGaps : Int)

def Access.Inside : Access → Prop
  | .entry index => 0 ≤ index ∧ index < MAX_GAP_COUNT
  | .count numGaps => 0 ≤ numGaps ∧ numGaps ≤ MAX_GAP_COUNT

def Inside (uses : List Access) : Prop :=
  ∀ access ∈ uses, access.Inside

/-- The loop that writes out the first gaps. -/
def written (numGaps : Nat) : List Access :=
  (range numGaps).map fun index : Nat => .entry index

/-- A loop that moves the entries from `first` to `last` by one place. -/
def moved (first last : Nat) : List Access :=
  if first < last then (range' first (last + 1 - first)).map fun index : Nat => .entry index else []

section Lists

variable {index : Nat}

theorem inside_nil : Inside [] := by
  simp [Inside]

theorem inside_cons : Inside (access :: uses) ↔ access.Inside ∧ Inside uses :=
  forall_mem_cons

theorem inside_append : Inside (uses ++ others) ↔ Inside uses ∧ Inside others :=
  forall_mem_append

theorem entry_inside : (Access.entry index).Inside ↔ index < MAX_GAP_COUNT := by
  simp [Access.Inside]

theorem entry_pred_inside (positive : 0 < index) :
    (Access.entry ((index : Int) - 1)).Inside ↔ index ≤ MAX_GAP_COUNT := by
  simp only [Access.Inside]
  omega

theorem count_succ_inside : (Access.count (index + 1)).Inside ↔ index < MAX_GAP_COUNT := by
  simp only [Access.Inside]
  omega

theorem count_pred_inside :
    (Access.count ((index : Int) - 1)).Inside ↔ 0 < index ∧ index ≤ MAX_GAP_COUNT + 1 := by
  simp only [Access.Inside]
  omega

theorem inside_written : Inside (written numGaps) ↔ numGaps ≤ MAX_GAP_COUNT := by
  simp only [Inside, written, forall_mem_map, entry_inside, mem_range]
  constructor
  · intro all
    by_contra more
    exact absurd (all _ (by omega)) (lt_irrefl _)
  · exact fun few _ inside => inside.trans_le few

theorem inside_moved : Inside (moved first last) ↔ last ≤ first ∨ last < MAX_GAP_COUNT := by
  unfold moved
  split_ifs with some
  · simp only [Inside, forall_mem_map, entry_inside, mem_range'_1]
    constructor
    · exact fun all => .inr (all _ (by omega))
    · omega
  · exact iff_of_true inside_nil (.inl (by omega))

end Lists

/-! ## A TSN is taken in -/

section Update

variable (gaps : SCTPStateVariables) (tsn : Tsn)

def removeGapUses (i count : Nat) : List Access :=
  (if i = gaps.numGaps - 1 then [.entry i] else moved i (i + count)) ++
    [.count ((gaps.numGaps : Int) - 1)]

def insertGapUses (i : Nat) : List Access :=
  .count (gaps.numGaps + 1) ::
    (moved i (gaps.numGaps + 1) ++ .entry i :: written (gaps.numGaps + 1))

def fillHoleUses (i : Nat) (lo hi : Tsn) : List Access :=
  if hi - lo + 1 > 1 then
    if tsn = hi then [.entry i]
    else if tsn = lo then if tsn = gaps.cTsnAck + 1 then [] else [.entry ((i : Int) - 1)]
    else insertGapUses gaps i
  else if lo = gaps.cTsnAck + 1 then .entry i :: removeGapUses gaps i (gaps.numGaps - i)
  else .entry i :: .entry ((i : Int) - 1) :: removeGapUses gaps i (gaps.numGaps + 1 - i)

def pastTheEndUses (lo : Tsn) : List Access :=
  if tsn = lo then if tsn = gaps.cTsnAck + 1 then [] else [.entry ((gaps.numGaps : Int) - 1)]
  else .entry gaps.numGaps :: .count (gaps.numGaps + 1) :: written (gaps.numGaps + 1)

def searchUses : Nat → Nat → Tsn → List Access
  | 0, _, lo => pastTheEndUses gaps tsn lo
  | left + 1, i, lo =>
    .entry i ::
      if gaps.gapStartList i > 0 then
        let hi := gaps.gapStartList i - 1
        if tsnBetween lo tsn hi then fillHoleUses gaps tsn i lo hi
        else .entry i :: searchUses left (i + 1) (gaps.gapStopList i + 1)
      else searchUses left (i + 1) lo

/-- The lower end of the hole of the TSN, and the gap behind it with the upper end. -/
def holeFrom : Nat → Nat → Tsn → Tsn × Option (Nat × Tsn)
  | 0, _, lo => (lo, none)
  | left + 1, i, lo =>
    if gaps.gapStartList i > 0 then
      let hi := gaps.gapStartList i - 1
      if tsnBetween lo tsn hi then (lo, some (i, hi))
      else holeFrom left (i + 1) (gaps.gapStopList i + 1)
    else holeFrom left (i + 1) lo

/--
A TSN behind all gaps needs an entry unless it continues the last gap; one
inside a hole needs two.  Where it closes the hole before a gap that is not
the last, the move needs one entry, or two if there is a gap before the hole.
-/
def Room : Tsn × Option (Nat × Tsn) → Prop
  | (lo, none) => tsn = lo ∨ gaps.numGaps < MAX_GAP_COUNT
  | (lo, some (i, hi)) =>
    if hi - lo + 1 > 1 then tsn = hi ∨ tsn = lo ∨ gaps.numGaps + 1 < MAX_GAP_COUNT
    else
      i + 1 = gaps.numGaps ∨ gaps.numGaps + (if lo = gaps.cTsnAck + 1 then 0 else 1) < MAX_GAP_COUNT

variable {gaps tsn}

theorem inside_insertGapUses (among : i < gaps.numGaps) :
    Inside (insertGapUses gaps i) ↔ gaps.numGaps + 1 < MAX_GAP_COUNT := by
  simp only [insertGapUses, inside_cons, inside_append, count_succ_inside, inside_moved,
    entry_inside, inside_written]
  omega

theorem inside_removeGapUses {count : Nat} (among : i < gaps.numGaps)
    (bounded : gaps.numGaps ≤ MAX_GAP_COUNT) (some : 0 < count) :
    Inside (removeGapUses gaps i count) ↔ i + 1 = gaps.numGaps ∨ i + count < MAX_GAP_COUNT := by
  simp only [removeGapUses, inside_append, inside_cons, inside_nil, count_pred_inside, and_true]
  split_ifs
  · simp only [inside_cons, inside_nil, entry_inside, and_true]
    omega
  · rw [inside_moved]
    omega

theorem inside_fillHoleUses (among : i < gaps.numGaps) (bounded : gaps.numGaps ≤ MAX_GAP_COUNT)
    (earlier : lo ≠ gaps.cTsnAck + 1 → 0 < i) :
    Inside (fillHoleUses gaps tsn i lo hi) ↔ Room gaps tsn (lo, some (i, hi)) := by
  unfold fillHoleUses Room
  have here : (Access.entry i).Inside := entry_inside.mpr (among.trans_le bounded)
  have before (other : lo ≠ gaps.cTsnAck + 1) : (Access.entry ((i : Int) - 1)).Inside :=
    (entry_pred_inside (earlier other)).mpr (among.le.trans bounded)
  dsimp only
  split_ifs with wide atHi atLo next closes
  · simp [inside_cons, inside_nil, here, atHi]
  · simp [inside_nil, atLo]
  · have other : lo ≠ gaps.cTsnAck + 1 := fun same => next (atLo.trans same)
    simp [inside_cons, inside_nil, before other, atLo]
  · rw [inside_insertGapUses among]
    simp [atHi, atLo]
  · rw [inside_cons, inside_removeGapUses among bounded (by omega)]
    simp only [here, true_and]
    omega
  · rw [inside_cons, inside_cons, inside_removeGapUses among bounded (by omega)]
    simp only [here, before closes, true_and]
    omega

theorem inside_pastTheEndUses (bounded : gaps.numGaps ≤ MAX_GAP_COUNT)
    (earlier : lo ≠ gaps.cTsnAck + 1 → 0 < gaps.numGaps) :
    Inside (pastTheEndUses gaps tsn lo) ↔ Room gaps tsn (lo, none) := by
  dsimp only [pastTheEndUses, Room]
  split_ifs with atLo next
  · exact iff_of_true inside_nil (.inl atLo)
  · have other : lo ≠ gaps.cTsnAck + 1 := fun same => next (atLo.trans same)
    simp [inside_cons, inside_nil, (entry_pred_inside (earlier other)).mpr bounded, atLo]
  · simp only [inside_cons, entry_inside, count_succ_inside, inside_written, atLo, false_or]
    omega

/-- The induction is on the gaps that are left; a lower end was set by an earlier gap. -/
theorem inside_searchUses (all : i + left = gaps.numGaps)
    (bounded : gaps.numGaps ≤ MAX_GAP_COUNT) (earlier : lo ≠ gaps.cTsnAck + 1 → 0 < i) :
    Inside (searchUses gaps tsn left i lo) ↔ Room gaps tsn (holeFrom gaps tsn left i lo) := by
  induction left generalizing i lo with
  | zero => exact inside_pastTheEndUses bounded fun other => all ▸ earlier other
  | succ _ induction =>
    have among : i < gaps.numGaps := by omega
    have here : (Access.entry i).Inside := entry_inside.mpr (among.trans_le bounded)
    rw [searchUses, holeFrom, inside_cons]
    simp only [here, true_and]
    split_ifs
    · exact inside_fillHoleUses among bounded earlier
    · rw [inside_cons, induction (by omega) (fun _ => i.succ_pos)]
      simp only [here, true_and]
    · exact induction (by omega) (fun _ => i.succ_pos)

theorem searchHoles_numGaps (all : i + left = gaps.numGaps) (bounded : gaps.numGaps ≤ MAX_GAP_COUNT)
    (room : Room gaps tsn (holeFrom gaps tsn left i lo)) :
    (gaps.searchHoles tsn left i lo).numGaps ≤ MAX_GAP_COUNT := by
  induction left generalizing i lo with
  | zero =>
    unfold SCTPStateVariables.searchHoles SCTPStateVariables.pastTheEnd
    split_ifs with atLo
    · exact bounded
    · exact bounded
    · exact room.resolve_left atLo
  | succ _ induction =>
    rw [SCTPStateVariables.searchHoles]
    rw [holeFrom] at room
    dsimp only at room ⊢
    split_ifs at room ⊢
    · simp only [Room] at room
      dsimp only [SCTPStateVariables.fillHole, SCTPStateVariables.removeGap,
        SCTPStateVariables.insertGap]
      split_ifs at room ⊢ <;> grind
    · exact induction (by omega) room
    · exact induction (by omega) room

end Update

/-! ## The cumulative TSN is advanced -/

def advanceUses (gaps : SCTPStateVariables) : Nat → List Access
  | 0 => []
  | left + 1 =>
    .entry 0 ::
      if gaps.cTsnAck + 1 = gaps.gapStartList 0 then
        .entry 0 :: (moved 0 (gaps.numGaps - 1) ++
          advanceUses
            { gaps with
              cTsnAck := gaps.gapStopList 0
              gapStartList := shiftDown gaps.gapStartList (gaps.numGaps - 1) 0
              gapStopList := shiftDown gaps.gapStopList (gaps.numGaps - 1) 0 }
            left)
      else []

theorem inside_advanceUses (some : left ≤ gaps.numGaps)
    (bounded : gaps.numGaps ≤ MAX_GAP_COUNT) : Inside (advanceUses gaps left) := by
  induction left generalizing gaps with
  | zero => exact inside_nil
  | succ left induction =>
    have first : (Access.entry 0).Inside :=
      entry_inside.mpr (Nat.lt_of_lt_of_le left.succ_pos (some.trans bounded))
    rw [advanceUses, inside_cons]
    refine ⟨first, ?_⟩
    split_ifs
    · rw [inside_cons, inside_append, inside_moved]
      exact ⟨first, by omega, induction (by dsimp only; omega) bounded⟩
    · exact inside_nil

theorem advanceLoop_numGaps (gaps : SCTPStateVariables) (left : Nat) :
    (gaps.advanceLoop left).numGaps = gaps.numGaps := by
  induction left generalizing gaps with
  | zero => rfl
  | succ _ induction =>
    rw [SCTPStateVariables.advanceLoop]
    split_ifs
    · exact induction _
    · rfl

/-! ## A TSN is removed -/

section Removal

variable (gaps : SCTPStateVariables) (removedTsn : Tsn) (numgaps i : Nat)

/-- The gap is split in two. -/
def Splits : Prop :=
  tsnBetween (gaps.gapStartList i) removedTsn (gaps.gapStopList i) ∧
    (gaps.gapStopList i - gaps.gapStartList i + 1).toInt > 1 ∧
      ¬(gaps.gapStopList i = removedTsn ∨ gaps.gapStartList i = removedTsn)
deriving Decidable

/-- The gap is removed. -/
def Drops : Prop :=
  tsnBetween (gaps.gapStartList i) removedTsn (gaps.gapStopList i) ∧
    ¬(gaps.gapStopList i - gaps.gapStartList i + 1).toInt > 1
deriving Decidable

/-- The body of the loop. -/
def removeAt : SCTPStateVariables :=
  if tsnBetween (gaps.gapStartList i) removedTsn (gaps.gapStopList i) then
    if (gaps.gapStopList i - gaps.gapStartList i + 1).toInt > 1 then
      shrinkGap gaps removedTsn numgaps i
    else dropGap gaps numgaps i
  else gaps

def removeAtUses : List Access :=
  if tsnBetween (gaps.gapStartList i) removedTsn (gaps.gapStopList i) then
    if (gaps.gapStopList i - gaps.gapStartList i + 1).toInt > 1 then
      if gaps.gapStopList i = removedTsn ∨ gaps.gapStartList i = removedTsn then [.entry i]
      else moved i numgaps ++ [.entry i, .entry (i + 1 : Nat), .count (gaps.numGaps + 1)]
    else moved i numgaps ++ [.entry ((numgaps : Int) - 1), .count ((gaps.numGaps : Int) - 1)]
  else []

/-- The loop from gap `i` down; at the end the last gap is looked at. -/
def removeUsesFrom (gaps : SCTPStateVariables) : Nat → List Access
  | 0 => if gaps.numGaps > 0 then [.entry ((gaps.numGaps : Int) - 1)] else []
  | i + 1 =>
    .entry i :: (removeAtUses gaps removedTsn numgaps i ++
      removeUsesFrom (removeAt gaps removedTsn numgaps i) i)

def removeUses : List Access :=
  written gaps.numGaps ++ removeUsesFrom removedTsn gaps.numGaps gaps gaps.numGaps

/--
To split a gap or to remove one needs an entry, and the splits that come
before a gap is removed need one each.
-/
def RoomBelow (gaps : SCTPStateVariables) : Nat → Nat → Prop
  | 0, _ => True
  | i + 1, count =>
    if Splits gaps removedTsn i then
      numgaps < MAX_GAP_COUNT ∧ count < MAX_GAP_COUNT ∧ RoomBelow gaps i (count + 1)
    else if Drops gaps removedTsn i then numgaps < MAX_GAP_COUNT ∧ RoomBelow gaps i (count - 1)
    else RoomBelow gaps i count

variable {gaps removedTsn numgaps i}

/-- The loop has not reached the gaps below `i`. -/
def SameBelow (i : Nat) (before after : SCTPStateVariables) : Prop :=
  ∀ j < i, after.gapStartList j = before.gapStartList j ∧ after.gapStopList j = before.gapStopList j

theorem sameBelow_removeAt (among : i < numgaps) :
    SameBelow i gaps (removeAt gaps removedTsn numgaps i) := by
  intro _ _
  unfold removeAt shrinkGap dropGap
  split_ifs <;> constructor <;> grind [shiftUp_apply, shiftDown_apply]

theorem removeAt_numGaps :
    (removeAt gaps removedTsn numgaps i).numGaps = if Splits gaps removedTsn i then gaps.numGaps + 1
      else if Drops gaps removedTsn i then gaps.numGaps - 1 else gaps.numGaps := by
  unfold removeAt shrinkGap dropGap Splits Drops
  grind

theorem inside_removeAtUses (among : i < numgaps) (bounded : numgaps ≤ MAX_GAP_COUNT)
    (positive : 0 < gaps.numGaps) (few : gaps.numGaps ≤ MAX_GAP_COUNT) :
    Inside (removeAtUses gaps removedTsn numgaps i) ↔
      if Splits gaps removedTsn i then numgaps < MAX_GAP_COUNT ∧ gaps.numGaps < MAX_GAP_COUNT
      else if Drops gaps removedTsn i then numgaps < MAX_GAP_COUNT else True := by
  unfold removeAtUses
  have here : (Access.entry i).Inside := entry_inside.mpr (among.trans_le bounded)
  have last : (Access.entry ((numgaps : Int) - 1)).Inside :=
    (entry_pred_inside (by omega)).mpr bounded
  by_cases inside : tsnBetween (gaps.gapStartList i) removedTsn (gaps.gapStopList i) = true
  · by_cases wide : (gaps.gapStopList i - gaps.gapStartList i + 1).toInt > 1
    · by_cases ends : gaps.gapStopList i = removedTsn ∨ gaps.gapStartList i = removedTsn
      · rw [if_pos inside, if_pos wide, if_pos ends,
          if_neg (fun split : Splits .. => split.2.2 ends),
          if_neg (fun drop : Drops .. => drop.2 wide)]
        exact iff_of_true (inside_cons.mpr ⟨here, inside_nil⟩) trivial
      · rw [if_pos inside, if_pos wide, if_neg ends,
          if_pos (show Splits .. from ⟨inside, wide, ends⟩)]
        simp only [inside_append, inside_moved, inside_cons, here, entry_inside,
          count_succ_inside, inside_nil, and_true, true_and]
        omega
    · rw [if_pos inside, if_neg wide, if_neg (fun split : Splits .. => wide split.2.1),
        if_pos (show Drops .. from ⟨inside, wide⟩)]
      simp only [inside_append, inside_moved, inside_cons, last, count_pred_inside, inside_nil,
        and_true, true_and]
      omega
  · rw [if_neg inside, if_neg (fun split : Splits .. => inside split.1),
      if_neg (fun drop : Drops .. => inside drop.1)]
    exact iff_of_true inside_nil trivial

theorem SameBelow.roomBelow {next : SCTPStateVariables} (same : SameBelow i gaps next)
    (count : Nat) :
    RoomBelow removedTsn numgaps next i count ↔ RoomBelow removedTsn numgaps gaps i count := by
  induction i generalizing count with
  | zero => exact Iff.rfl
  | succ i induction =>
    rcases same i i.lt_succ_self with ⟨start, stop⟩
    have rest (count : Nat) := induction (fun j below => same j (below.trans i.lt_succ_self)) count
    have split : Splits next removedTsn i ↔ Splits gaps removedTsn i := by
      simp only [Splits, start, stop]
    have drop : Drops next removedTsn i ↔ Drops gaps removedTsn i := by
      simp only [Drops, start, stop]
    simp only [RoomBelow, split, drop, rest]

theorem roomBelow_removeAt (among : i < numgaps) (count : Nat) :
    RoomBelow removedTsn numgaps (removeAt gaps removedTsn numgaps i) i count ↔
      RoomBelow removedTsn numgaps gaps i count :=
  (sameBelow_removeAt among).roomBelow count

/-- At least as many gaps are left as the loop has not yet reached. -/
theorem inside_removeUsesFrom (among : i ≤ numgaps) (bounded : numgaps ≤ MAX_GAP_COUNT)
    (left : i ≤ gaps.numGaps) (few : gaps.numGaps ≤ MAX_GAP_COUNT) :
    Inside (removeUsesFrom removedTsn numgaps gaps i) ↔
      RoomBelow removedTsn numgaps gaps i gaps.numGaps := by
  induction i generalizing gaps with
  | zero =>
    rw [removeUsesFrom, RoomBelow, iff_true]
    split_ifs with positive
    · exact inside_cons.mpr ⟨(entry_pred_inside positive).mpr few, inside_nil⟩
    · exact inside_nil
  | succ i induction =>
    have here : (Access.entry i).Inside := entry_inside.mpr (by omega)
    have same := @roomBelow_removeAt gaps removedTsn _ _ among
    have after := @removeAt_numGaps gaps removedTsn numgaps i
    rw [removeUsesFrom, inside_cons, inside_append,
      inside_removeAtUses among bounded (by omega) few, RoomBelow]
    simp only [here, true_and]
    split_ifs at after ⊢ with split drop
    · constructor
      · rintro ⟨room, rest⟩
        rw [induction (by omega) (by omega) (by omega), same, after] at rest
        exact ⟨room.1, room.2, rest⟩
      · rintro ⟨entry, count, rest⟩
        rw [induction (by omega) (by omega) (by omega), same, after]
        exact ⟨⟨entry, count⟩, rest⟩
    · rw [induction (by omega) (by omega) (by omega), same, after]
    · rw [induction (by omega) (by omega) (by omega), same, after, true_and]

theorem removeFromGaps_numGaps (among : i ≤ numgaps) (few : current.1.numGaps ≤ MAX_GAP_COUNT)
    (room : RoomBelow removedTsn numgaps current.1 i current.1.numGaps) :
    (removeFromGaps removedTsn numgaps i current).1.numGaps ≤ MAX_GAP_COUNT := by
  induction i generalizing current with
  | zero => exact few
  | succ i induction =>
    rcases current with ⟨gaps, lastTsnAck⟩
    have same := @roomBelow_removeAt gaps removedTsn _ _ among
    have after := @removeAt_numGaps gaps removedTsn numgaps i
    rw [RoomBelow] at room
    obtain ⟨acked, body⟩ : ∃ acked,
        removeFromGaps removedTsn numgaps (i + 1) (gaps, lastTsnAck) =
          removeFromGaps _ _ i (removeAt gaps removedTsn numgaps i, acked) := by
      rw [removeFromGaps, removeAt]
      dsimp only
      split_ifs <;> exact ⟨_, rfl⟩
    rw [body]
    dsimp only at room few
    split_ifs at after room with split drop
    · exact induction (by omega) (by dsimp only; omega) ((same _).mpr (after ▸ room.2.2))
    · exact induction (by omega) (by dsimp only; omega) ((same _).mpr (after ▸ room.2))
    · exact induction (by omega) (by dsimp only; omega) ((same _).mpr (after ▸ room))

end Removal

/-! ## Calls -/

/-- A call of one of the three operations, with the lists as they are before it. -/
inductive Call where
  | updateGapList (gaps : SCTPStateVariables) (receivedTsn : Tsn)
  | advanceCtsna (gaps : SCTPStateVariables)
  | removeFromGapList (assoc : SCTPAssociation) (removedTsn : Tsn)

namespace Call

def before : Call → SCTPStateVariables
  | updateGapList gaps _ => gaps
  | advanceCtsna gaps => gaps
  | removeFromGapList assoc _ => assoc.gaps

def numGapsAfter : Call → Nat
  | updateGapList gaps tsn => (gaps.updateGapList tsn).numGaps
  | advanceCtsna gaps => gaps.advanceCtsna.numGaps
  | removeFromGapList assoc tsn => (assoc.removeFromGapList tsn).gaps.numGaps

def uses : Call → List Access
  | updateGapList gaps tsn => searchUses gaps tsn gaps.numGaps 0 (gaps.cTsnAck + 1)
  | advanceCtsna gaps => advanceUses gaps gaps.numGaps
  | removeFromGapList assoc tsn => removeUses assoc.gaps tsn

/-- There is room for what the call does. -/
def HasRoom : Call → Prop
  | updateGapList gaps tsn =>
    Room gaps tsn (holeFrom gaps tsn gaps.numGaps 0 (gaps.cTsnAck + 1))
  | advanceCtsna _ => True
  | removeFromGapList assoc tsn =>
    RoomBelow tsn assoc.gaps.numGaps assoc.gaps assoc.gaps.numGaps assoc.gaps.numGaps

theorem inside_iff {call : Call} (bounded : call.before.numGaps ≤ MAX_GAP_COUNT) :
    Inside call.uses ↔ call.HasRoom := by
  cases call with
  | updateGapList _ _ =>
    exact inside_searchUses (Nat.zero_add _) bounded fun other => absurd rfl other
  | advanceCtsna _ => exact iff_of_true (inside_advanceUses le_rfl bounded) trivial
  | removeFromGapList _ _ =>
    rw [uses, removeUses, inside_append, inside_written]
    exact (and_iff_right bounded).trans (inside_removeUsesFrom le_rfl bounded le_rfl bounded)

theorem numGapsAfter_le {call : Call} (bounded : call.before.numGaps ≤ MAX_GAP_COUNT)
    (room : call.HasRoom) : call.numGapsAfter ≤ MAX_GAP_COUNT := by
  cases call with
  | updateGapList _ _ => exact searchHoles_numGaps (Nat.zero_add _) bounded room
  | advanceCtsna gaps => exact (advanceLoop_numGaps _ _).trans_le bounded
  | removeFromGapList _ _ => exact removeFromGaps_numGaps le_rfl bounded room

end Call
/-! ## The calls that an arrival makes -/

section Arrivals

variable (tsn : Tsn) (length : BitVec 32) (uBit : Bool)

/-- The loop of `makeRoomForTsn` removes each TSN that it throws away. -/
def makeRoomCalls : Nat → Tsn → BitVec 32 → SCTPAssociation → List Call
  | 0, _, _, _ => []
  | steps + 1, high, sum, assoc =>
    if sum < length ∧ assoc.gaps.highestTsnReceived > assoc.lastTsnAck then
      if assoc.receiveStreams ≠ [] ∧ tsn > high then []
      else
        let thrown := assoc.throwHigh tsn high uBit
        let more :=
          match thrown.2 with
          | some datVar => sum + datVar.len.setWidth 32
          | none => sum
        let lower := if thrown.2.isSome then high - 1 else high
        let lowest := if more = sum then lower - 1 else lower
        let stored := { thrown.1 with highestTsnStored := lowest }
        (if thrown.2.isSome then [.removeFromGapList assoc high] else []) ++
          if tsn > stored.gaps.highestTsnReceived then []
          else makeRoomCalls steps lowest more stored
    else []

/-- With a full window the list is updated only to advance the cumulative TSN. -/
def updateCalls (assoc : SCTPAssociation) : List Call :=
  if assoc.window ≤ 0 ∧ tsn ≠ assoc.gaps.cTsnAck + 1 then []
  else [.updateGapList assoc.gaps tsn, .advanceCtsna (assoc.gaps.updateGapList tsn)]

def classifyCalls (assoc : SCTPAssociation) : List Call :=
  if tsnGt tsn assoc.gaps.highestTsnReceived then
    if tsn = assoc.gaps.initPeerTsn then []
    else
      updateCalls tsn
        { assoc with
          highestTsnStored := tsn, gaps := { assoc.gaps with highestTsnReceived := tsn } }
  else if assoc.gaps.tsnIsDuplicate tsn then []
  else updateCalls tsn assoc

end Arrivals

def arrivalCalls (steps : Nat) (assoc : SCTPAssociation) (dataChunk : SCTPDataChunk) : List Call :=
  let tsn := dataChunk.tsn
  let length := BitVec.ofNat 32 (dataChunk.getBitLength - SCTP_DATA_CHUNK_LENGTH * 8)
  let received := { assoc with gaps := assoc.gaps.receive }
  if received.gaps.stopReceiving then []
  else if tsnLe tsn received.gaps.cTsnAck then []
  else if received.window ≤ 0 then
    if tsnGt tsn received.gaps.highestTsnReceived then []
    else if !received.gaps.tsnIsDuplicate tsn && tsn < received.highestTsnStored then
      makeRoomCalls tsn length dataChunk.uBit steps received.highestTsnStored 0 received ++
        match received.makeRoomForTsn steps tsn length dataChunk.uBit with
        | none => []
        | some (room, true) => classifyCalls tsn room
        | some (_, false) => []
    else classifyCalls tsn received
  else classifyCalls tsn received

/-- The call is made when the event happens; a loop that does not end makes all its calls. -/
def Makes (assoc : SCTPAssociation) : Event → Call → Prop
  | .dataArrived dataChunk, call => ∃ steps, call ∈ arrivalCalls steps assoc dataChunk
  | _, _ => False

/-- All indices that the event uses are inside the arrays, and `numGaps` is in its range. -/
def InBounds (assoc : SCTPAssociation) (event : Event) : Prop :=
  ∀ call, Makes assoc event call → Inside call.uses

/-- There is room for what the event does. -/
def HasRoom (assoc : SCTPAssociation) (event : Event) : Prop :=
  ∀ call, Makes assoc event call → call.HasRoom

/-- Calls that stay inside where there is room for them, with what then holds after them. -/
structure Follows (calls : List Call) (after : Prop) : Prop where
  inside_iff : (∀ call ∈ calls, Inside call.uses) ↔ ∀ call ∈ calls, call.HasRoom
  after : (∀ call ∈ calls, call.HasRoom) → after

namespace Follows

theorem nothing (holds : last) : Follows [] last where
  inside_iff := by simp
  after _ := holds

theorem call {call : Call} (bounded : call.before.numGaps ≤ MAX_GAP_COUNT) :
    Follows [call] (call.numGapsAfter ≤ MAX_GAP_COUNT) where
  inside_iff := by
    simp only [mem_singleton, forall_eq]
    exact Call.inside_iff bounded
  after room := Call.numGapsAfter_le bounded (room call mem_cons_self)

theorem append (first : Follows calls middle) (second : middle → Follows others last) :
    Follows (calls ++ others) last where
  inside_iff := by
    rw [forall_mem_append, forall_mem_append, first.inside_iff]
    exact and_congr_right fun room => (second (first.after room)).inside_iff
  after room := by
    rcases forall_mem_append.mp room with ⟨one, other⟩
    exact (second (first.after one)).after other

theorem imp (first : Follows calls middle) (implies : middle → last) : Follows calls last :=
  ⟨first.inside_iff, fun room => implies (first.after room)⟩

theorem ended {Outcome : Type} {assoc : SCTPAssociation} {outcome : Outcome}
    (bounded : assoc.gaps.numGaps ≤ MAX_GAP_COUNT) :
    Follows [] (∀ next other, some (assoc, outcome) = some (next, other) →
      next.gaps.numGaps ≤ MAX_GAP_COUNT) :=
  .nothing fun _ _ same => (Prod.mk.inj (Option.some.inj same)).1 ▸ bounded

end Follows

section Followed

variable {assoc : SCTPAssociation} {dataChunk : SCTPDataChunk}

theorem makeRoomCalls_follow {length sum : BitVec 32}
    (bounded : assoc.gaps.numGaps ≤ MAX_GAP_COUNT) :
    Follows (makeRoomCalls tsn length uBit steps high sum assoc)
      (∀ room enough,
        makeRoomFrom tsn length uBit steps high sum assoc = some (room, enough) →
          room.gaps.numGaps ≤ MAX_GAP_COUNT) := by
  induction steps generalizing high sum assoc with
  | zero => exact .nothing nofun
  | succ _ induction =>
    rw [makeRoomCalls, makeRoomFrom]
    have thrown :
        Follows
          (if (assoc.throwHigh tsn high uBit).2.isSome then [.removeFromGapList assoc high] else [])
          ((assoc.throwHigh tsn high uBit).1.gaps.numGaps ≤ MAX_GAP_COUNT) := by
      unfold throwHigh
      split
      · exact Follows.call bounded
      · exact .nothing bounded
    by_cases more : sum < length ∧ assoc.gaps.highestTsnReceived > assoc.lastTsnAck
    · rw [if_pos more, if_pos more]
      by_cases below : assoc.receiveStreams ≠ [] ∧ tsn > high
      · rw [if_pos below, if_pos below]
        exact .ended bounded
      · rw [if_neg below, if_neg below]
        refine thrown.append fun after => ?_
        by_cases past : tsn > (assoc.throwHigh tsn high uBit).1.gaps.highestTsnReceived
        · rw [if_pos past, if_pos past]
          exact .ended after
        · rw [if_neg past, if_neg past]
          exact induction after
    · rw [if_neg more, if_neg more]
      exact .ended bounded

theorem updateCalls_follow (bounded : assoc.gaps.numGaps ≤ MAX_GAP_COUNT) :
    Follows (updateCalls tsn assoc) ((assoc.updateGapList tsn).1.gaps.numGaps ≤ MAX_GAP_COUNT) := by
  unfold updateCalls updateGapList
  by_cases full : assoc.window ≤ 0 ∧ tsn ≠ assoc.gaps.cTsnAck + 1
  · rw [if_pos full, if_pos full]
    exact .nothing bounded
  · rw [if_neg full, if_neg full]
    refine (@Follows.call (.updateGapList assoc.gaps _) bounded).append fun after => ?_
    exact (@Follows.call (.advanceCtsna _) after).imp fun _ => after

theorem putInDeliveryQ_gaps (sid : Nat) : (assoc.putInDeliveryQ sid).gaps = assoc.gaps := by
  unfold putInDeliveryQ
  split <;> rfl

theorem takeIn_numGaps {next : SCTPAssociation}
    (taken : assoc.takeIn dataChunk = some (next, event)) :
    next.gaps.numGaps = assoc.gaps.numGaps := by
  dsimp only [takeIn] at taken
  split at taken
  · cases taken
  · split_ifs at taken
    · cases taken
      rw [putInDeliveryQ_gaps]
      rfl
    · cases taken
      rfl

theorem finish_numGaps {next : SCTPAssociation}
    (finished : finish updated dataChunk = some (next, event)) :
    next.gaps.numGaps = updated.1.gaps.numGaps := by
  have advanced : (advanceCtsna updated).gaps.numGaps = updated.1.gaps.numGaps := by
    unfold advanceCtsna
    split_ifs
    · exact advanceLoop_numGaps _ _
    · rfl
  dsimp only [finish] at finished
  split_ifs at finished
  · exact (takeIn_numGaps finished).trans advanced
  · cases finished
    exact advanced

theorem classifyCalls_follow (bounded : assoc.gaps.numGaps ≤ MAX_GAP_COUNT) :
    Follows (classifyCalls dataChunk.tsn assoc)
      (∀ next event, assoc.classify dataChunk = some (next, event) →
        next.gaps.numGaps ≤ MAX_GAP_COUNT) := by
  unfold classifyCalls classify
  split_ifs with highest first duplicate
  · refine .nothing fun next event finished => ?_
    rwa [finish_numGaps finished, newHighest, if_pos first]
  · have higher :
        ({ assoc with
            highestTsnStored := dataChunk.tsn
            gaps := { assoc.gaps with highestTsnReceived := dataChunk.tsn } } :
          SCTPAssociation).gaps.numGaps ≤ MAX_GAP_COUNT := bounded
    refine (updateCalls_follow higher).imp fun after next event finished => ?_
    rwa [finish_numGaps finished, newHighest, if_neg first]
  · refine .nothing fun next event same => ?_
    cases same
    unfold addDuplicate SCTPStateVariables.addDuplicate
    split_ifs <;> exact bounded
  · refine (updateCalls_follow bounded).imp fun after next event finished => ?_
    exact (finish_numGaps finished).trans_le after

theorem arrivalCalls_follow (bounded : assoc.gaps.numGaps ≤ MAX_GAP_COUNT) :
    Follows (arrivalCalls steps assoc dataChunk)
      (∀ next event, processDataArrived steps assoc dataChunk = some (next, event) →
        next.gaps.numGaps ≤ MAX_GAP_COUNT) := by
  have received :
      ({ assoc with gaps := assoc.gaps.receive } : SCTPAssociation).gaps.numGaps ≤
        MAX_GAP_COUNT := bounded
  dsimp only [arrivalCalls, processDataArrived]
  split_ifs
  · exact .ended received
  · refine .nothing fun next event same => ?_
    cases same
    unfold addDuplicate SCTPStateVariables.addDuplicate
    split_ifs <;> exact bounded
  · exact .ended received
  · refine (makeRoomCalls_follow received).append fun after => ?_
    generalize made : makeRoomForTsn .. = result
    rcases result with _ | ⟨_, _ | _⟩
    · exact .nothing nofun
    · exact .ended (after _ _ made)
    · exact classifyCalls_follow (after _ _ made)
  · exact classifyCalls_follow received
  · exact classifyCalls_follow received

end Followed

/-! ## Runs -/

theorem openWindow_numGaps (assoc : SCTPAssociation) :
    assoc.openWindow.gaps.numGaps = assoc.gaps.numGaps := by
  dsimp only [openWindow, createSack]
  split_ifs <;> rfl

theorem pushStream_numGaps (restrict : Bool) (sid steps : Nat)
    (current : SCTPAssociation × List SCTPDataVariables) :
    (pushStream restrict sid steps current).1.gaps.numGaps = current.1.gaps.numGaps := by
  fun_induction pushStream restrict sid steps current <;> grind [openWindow_numGaps, pushChunk]

theorem pushUlp_numGaps (assoc : SCTPAssociation) :
    assoc.pushUlp.1.gaps.numGaps = assoc.gaps.numGaps := by
  have put : ∀ (sids : List Nat) (assoc : SCTPAssociation),
      (sids.foldl putInDeliveryQ assoc).gaps = assoc.gaps := by
    intro sids
    induction sids with
    | nil => exact fun _ => rfl
    | cons sid _ induction => exact fun _ => (induction _).trans (putInDeliveryQ_gaps _)
  have pushed : ∀ (restrict : Bool) (sids : List Nat)
      (current : SCTPAssociation × List SCTPDataVariables),
      (sids.foldl (pushRound restrict) current).1.gaps.numGaps = current.1.gaps.numGaps := by
    intro _ sids
    induction sids with
    | nil => exact fun _ => rfl
    | cons _ _ induction =>
      intro _
      refine (induction _).trans ?_
      unfold pushRound
      split
      · rfl
      · exact pushStream_numGaps ..
  rw [pushUlp, pushed]
  split_ifs <;> exact congrArg _ (put _ _)

theorem step_numGaps {next : SCTPAssociation} (bounded : assoc.gaps.numGaps ≤ MAX_GAP_COUNT)
    (room : HasRoom assoc event)
    (taken : step assoc event next) : next.gaps.numGaps ≤ MAX_GAP_COUNT := by
  cases event with
  | dataArrived _ =>
    obtain ⟨steps, _, arrived⟩ := taken
    exact (arrivalCalls_follow bounded).after (fun call among => room _ ⟨steps, among⟩) _ _ arrived
  | pushUlp =>
    cases taken
    exact (pushUlp_numGaps _).trans_le bounded
  | sackSent =>
    cases taken
    dsimp only [createSack]
    split_ifs <;> exact bounded
  | sackArrived _ =>
    cases taken
    exact bounded
  | stopReceiving =>
    cases taken
    exact bounded

theorem inBounds_iff (bounded : assoc.gaps.numGaps ≤ MAX_GAP_COUNT) :
    InBounds assoc event ↔ HasRoom assoc event := by
  cases event with
  | dataArrived dataChunk =>
    have each (steps : Nat) := (@arrivalCalls_follow _ dataChunk steps bounded).inside_iff
    constructor
    · rintro inside call ⟨steps, among⟩
      exact (each _).mp (fun other made => inside _ ⟨steps, made⟩) _ among
    · rintro room call ⟨steps, among⟩
      exact (each _).mpr (fun other made => room _ ⟨steps, made⟩) _ among
  | _ => exact iff_of_true nofun nofun

/-- Four bytes with an even TSN. -/
def evenChunk (k : Nat) : SCTPDataChunk where
  tsn := BitVec.ofNat 32 (2 * k + 2)
  sid := 0
  ssn := 0
  uBit := true
  dataLen := 4
  bitLength := 32
  userData := k

def receiver : SCTPAssociation :=
  .create 1 65535 0 0 1500 1500 1

/-- Every TSN that has arrived is a gap of its own. -/
structure Even (k : Nat) (gaps : SCTPStateVariables) : Prop where
  cTsnAck : gaps.cTsnAck = 0
  initPeerTsn : gaps.initPeerTsn = 1
  numGaps : gaps.numGaps = k
  starts : ∀ i < k, gaps.gapStartList i = BitVec.ofNat 32 (2 * i + 2)
  stops : ∀ i < k, gaps.gapStopList i = BitVec.ofNat 32 (2 * i + 2)
  running : gaps.stopReceiving = false

structure Scattered (k : Nat) (assoc : SCTPAssociation) : Prop where
  gaps : Even k assoc.gaps
  localRwnd : assoc.localRwnd = 65535
  queuedRcvBytes : assoc.queuedRcvBytes.toNat ≤ 4 * k
  streams : ∃ stream, assoc.receiveStreams = [stream] ∧ stream.orderedQ = []

section Scattering

variable {k : Nat} {assoc : SCTPAssociation}

theorem Even.searchHoles (even : Even k gaps) (small : k ≤ 360) (all : i + left = k) :
    gaps.searchHoles (BitVec.ofNat 32 (2 * k + 2)) left i (BitVec.ofNat 32 (2 * i + 1)) =
      gaps.pastTheEnd (BitVec.ofNat 32 (2 * k + 2)) (BitVec.ofNat 32 (2 * k + 1)) := by
  induction left generalizing i with
  | zero =>
    rw [← all]
    rfl
  | succ _ induction =>
    have positive : gaps.gapStartList i > 0 := by
      rw [even.starts i (by omega)]
      bv_omega
    have outside : ¬tsnBetween (BitVec.ofNat 32 (2 * i + 1)) (BitVec.ofNat 32 (2 * k + 2))
        (gaps.gapStartList i - 1) = true := by
      rw [even.starts i (by omega), tsnBetween, decide_eq_true_iff]
      bv_omega
    have behind : gaps.gapStopList i + 1 = BitVec.ofNat 32 (2 * (i + 1) + 1) := by
      rw [even.stops i (by omega)]
      bv_omega
    rw [SCTPStateVariables.searchHoles, if_pos positive, if_neg outside, behind]
    exact induction (by omega)

theorem Even.updateGapList (even : Even k gaps) (small : k ≤ 360) :
    Even (k + 1) (gaps.updateGapList (BitVec.ofNat 32 (2 * k + 2))).advanceCtsna := by
  have searched := even.searchHoles small (Nat.zero_add k)
  rcases even with ⟨cTsnAck, initPeerTsn, numGaps, _, _, running⟩
  have new : BitVec.ofNat 32 (2 * k + 2) ≠ BitVec.ofNat 32 (2 * k + 1) := by bv_omega
  have starts' : ∀ i < k + 1,
      Function.update gaps.gapStartList k (BitVec.ofNat 32 (2 * k + 2)) i =
        BitVec.ofNat 32 (2 * i + 2) := by
    grind
  have first : ¬(0 : Tsn) + 1 =
      Function.update gaps.gapStartList k (BitVec.ofNat 32 (2 * k + 2)) 0 := by
    rw [starts' 0 k.succ_pos]
    decide
  rw [SCTPStateVariables.pastTheEnd, if_neg new] at searched
  rw [SCTPStateVariables.updateGapList, numGaps, cTsnAck]
  change Even (k + 1) (SCTPStateVariables.advanceCtsna
    { gaps.searchHoles _ k 0 (BitVec.ofNat 32 1) with newChunkReceived := true })
  rw [searched, SCTPStateVariables.advanceCtsna, numGaps, SCTPStateVariables.advanceLoop, cTsnAck,
    if_neg first]
  exact ⟨rfl, initPeerTsn, rfl, starts', by grind, running⟩

theorem newHighest_open (window : ¬assoc.window ≤ 0) (notFirst : tsn ≠ assoc.gaps.initPeerTsn) :
    assoc.newHighest tsn =
      ({ assoc with
        highestTsnStored := tsn
        gaps := { assoc.gaps with highestTsnReceived := tsn }.updateGapList tsn }, true) := by
  rw [newHighest, if_neg notFirst, updateGapList, if_neg]
  · dsimp only
    rw [ite_self]
    rfl
  · exact fun full => window full.1

theorem takeIn_unordered (streams : assoc.receiveStreams = [stream])
    (ordered : stream.orderedQ = []) (queued : assoc.queuedRcvBytes.toNat ≤ 4 * k) (_ : k ≤ 360) :
    ∃ next event,
      assoc.takeIn (evenChunk k) = some (next, event) ∧
        next.gaps = { assoc.gaps with newChunkReceived := false } ∧
          next.localRwnd = assoc.localRwnd ∧ next.queuedRcvBytes.toNat ≤ 4 * (k + 1) ∧
            ∃ stream, next.receiveStreams = [stream] ∧ stream.orderedQ = [] := by
  have payload : (evenChunk k).payloadLength = 4 := by
    simp [SCTPDataChunk.payloadLength, SCTPDataChunk.getBitLength, evenChunk,
      SCTP_DATA_CHUNK_LENGTH]
  have more : (assoc.queuedRcvBytes + (4 : BitVec 32).setWidth 64).toNat ≤ 4 * (k + 1) := by
    bv_omega
  have still : (stream.enqueueNewDataChunk (makeVarFromMsg (evenChunk k))).1.orderedQ = [] := by
    have unordered : (!(makeVarFromMsg (evenChunk k)).ordered) = true := rfl
    exact ordered
  have sid : (evenChunk k).sid.toNat = 0 := rfl
  rw [takeIn, sid, streams]
  simp only [getElem?_cons_zero]
  split_ifs
  · refine ⟨_, _, rfl, ?_⟩
    simp only [putInDeliveryQ, SCTPAssociation.count, storeIn,
      streams, set_cons_zero, getElem?_cons_zero, SCTPReceiveStream.putInDeliveryQ,
      still, length_nil, SCTPReceiveStream.putInDeliveryQFrom, payload]
    exact ⟨trivial, trivial, more, _, rfl, still⟩
  · refine ⟨_, _, rfl, ?_⟩
    simp only [storeIn, streams, set_cons_zero]
    exact ⟨trivial, trivial, by omega, _, rfl, still⟩

theorem Scattered.arrive (scattered : Scattered k assoc) (small : k ≤ 360) :
    ∃ next, step assoc (.dataArrived (evenChunk k)) next ∧ Scattered (k + 1) next := by
  rcases scattered with ⟨even, localRwnd, queued, stream, streams, ordered⟩
  have tsn : (evenChunk k).tsn = BitVec.ofNat 32 (2 * k + 2) := rfl
  have window : ¬SCTPAssociation.window { assoc with gaps := assoc.gaps.receive } ≤ 0 := by
    have free : ((65535 - assoc.queuedRcvBytes).setWidth 32).toNat =
        65535 - assoc.queuedRcvBytes.toNat := by
      bv_omega
    rw [SCTPAssociation.window, localRwnd, BitVec.toInt_eq_toNat_cond, free]
    split_ifs <;> omega
  have running : ¬assoc.gaps.receive.stopReceiving = true := Bool.eq_false_iff.mp even.running
  have highest : assoc.gaps.receive.highestTsnReceived = BitVec.ofNat 32 (2 * k) := by
    dsimp only [SCTPStateVariables.receive]
    split_ifs with none
    · rw [even.cTsnAck, ← even.numGaps, none]
      rfl
    · rw [even.numGaps] at none ⊢
      rw [even.stops _ (by omega)]
      congr 1
      omega
  have notOld : ¬tsnLe (evenChunk k).tsn assoc.gaps.receive.cTsnAck = true := by
    have same : assoc.gaps.receive.cTsnAck = 0 := even.cTsnAck
    have few : (BitVec.ofNat 32 (2 * k + 2) - 0).toNat = 2 * k + 2 := by bv_omega
    rw [same, tsn, tsnLe, decide_eq_true_iff, BitVec.toInt_eq_toNat_cond, few]
    split_ifs <;> omega
  have above : tsnGt (evenChunk k).tsn assoc.gaps.receive.highestTsnReceived = true := by
    have two : BitVec.ofNat 32 (2 * k + 2) - BitVec.ofNat 32 (2 * k) = 2 := by bv_omega
    rw [highest, tsn, tsnGt, two]
    decide
  have notFirst : (evenChunk k).tsn ≠ assoc.gaps.receive.initPeerTsn := by
    have same : assoc.gaps.receive.initPeerTsn = 1 := even.initPeerTsn
    bv_omega
  have updated :=
    @Even.updateGapList k { assoc.gaps.receive with highestTsnReceived := (evenChunk k).tsn }
      ⟨even.cTsnAck, even.initPeerTsn, even.numGaps, even.starts, even.stops, even.running⟩ small
  have new :=
    (sameAside_update { assoc.gaps.receive with highestTsnReceived := (evenChunk k).tsn }
      (evenChunk k).tsn).2
  obtain ⟨next, event, taken, gaps, rwnd, held, alone⟩ :=
    @takeIn_unordered k
      (advanceCtsna (newHighest { assoc with gaps := assoc.gaps.receive } (evenChunk k).tsn))
      _ (by rw [newHighest_open window notFirst]; exact streams) ordered
      (by rw [newHighest_open window notFirst]; exact queued) small
  refine ⟨next, ⟨0, event, ?_⟩, ?_⟩
  · rw [processDataArrived, if_neg running, if_neg notOld, if_neg window, classify, if_pos above,
      finish, if_pos]
    · exact taken
    · rwa [newHighest_open window notFirst]
  · rw [newHighest_open window notFirst] at gaps rwnd
    refine ⟨?_, rwnd.trans localRwnd, held, alone⟩
    rw [gaps]
    exact ⟨updated.cTsnAck, updated.initPeerTsn, updated.numGaps, updated.starts, updated.stops,
      updated.running⟩

end Scattering

theorem scattered_run (small : k ≤ 361) :
    ∃ events last, Run step receiver events last ∧ Scattered k last := by
  induction k with
  | zero =>
    exact ⟨[], receiver, .idle _, ⟨rfl, rfl, rfl, nofun, nofun, rfl⟩, rfl, le_rfl, _, rfl, rfl⟩
  | succ _ induction =>
    obtain ⟨_, _, run, scattered⟩ := induction (by omega)
    obtain ⟨next, taken, scattered⟩ := scattered.arrive (by omega)
    exact ⟨_, next, run.snoc taken, scattered⟩

end OmnetDsi.Sctp.GapBounds
