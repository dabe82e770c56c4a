import Mathlib.Data.List.Induction
import Mathlib.Data.List.Nodup
import Mathlib.Order.Nat

/-!
# The reassembly buffer

`ReassemblyBuffer` keeps one range that starts at offset zero, `main`, and
puts fragments aside that do not connect to it.  When `main` grows, the
fragments aside are gone through until no more of them connects.

When the fragments are pieces of one partition of a datagram, `main` holds
the pieces before the first missing one (`Holds`), in whatever order and
however often they arrive.
-/

namespace OmnetDsi.Base.ReassemblyBuffer

open List

/-! ## Regions -/

/-- An offset range: the first offset and the last plus one. -/
structure Region where
  beg : Nat
  stop : Nat
  islast : Bool

structure Buffer where
  main : Region := ⟨0, 0, false⟩
  fragments : List Region := []

/-- The type of the offsets. -/
def ushort (k : Nat) : Nat :=
  k % 65536

/-! ## Merging -/

/-- What one fragment aside does to `main`; `none` leaves it aside. -/
def absorb (main frag : Region) : Option Region :=
  if main.stop = frag.beg then
    some { main with stop := frag.stop, islast := main.islast || frag.islast }
  else if main.beg = frag.stop then some { main with beg := frag.beg }
  else if main.beg ≤ frag.beg ∧ frag.stop ≤ main.stop then some main
  else none

/-- What one pass over the fragments leaves, and whether one was erased. -/
structure Pass where
  main : Region
  fragments : List Region
  oncemore : Bool

def mergePass (main : Region) : List Region → Pass
  | [] => ⟨main, [], false⟩
  | frag :: rest =>
    match absorb main frag with
    | some main => { mergePass main rest with oncemore := true }
    | none =>
      let pass := mergePass main rest
      { pass with fragments := frag :: pass.fragments }

/-- Passes until one erases nothing. -/
def mergeLoop : Nat → Region → List Region → Buffer
  | 0, main, frags => ⟨main, frags⟩
  | fuel + 1, main, frags =>
    let pass := mergePass main frags
    if pass.oncemore then mergeLoop fuel pass.main pass.fragments else ⟨pass.main, pass.fragments⟩

/-- Each pass but the last erases a fragment. -/
def mergeFragments (main : Region) (frags : List Region) : Buffer :=
  mergeLoop (frags.length + 1) main frags

def merge (buffer : Buffer) (beg stop : Nat) (islast : Bool) : Buffer :=
  let main := buffer.main
  if main.stop = beg then
    mergeFragments { main with stop, islast := main.islast || islast } buffer.fragments
  else if main.beg = stop then mergeFragments { main with beg } buffer.fragments
  else if main.stop < beg ∨ stop < main.beg then
    { buffer with fragments := buffer.fragments ++ [⟨beg, stop, islast⟩] }
  else buffer

/-- The buffer afterwards, and whether it holds the complete datagram. -/
def addFragment (buffer : Buffer) (beg stop : Nat) (islast : Bool) : Buffer × Bool :=
  let buffer := merge buffer (ushort beg) (ushort stop) islast
  (buffer, decide (buffer.main.beg = 0) && buffer.main.islast)

def getTotalLength (buffer : Buffer) : Nat :=
  buffer.main.stop

/-! ## The loop ends -/

theorem mergePass_length (main : Region) (frags : List Region) :
    (mergePass main frags).fragments.length ≤ frags.length ∧
      ((mergePass main frags).oncemore = true →
        (mergePass main frags).fragments.length < frags.length) := by
  induction frags generalizing main with
  | nil => simp [mergePass]
  | cons frag rest induction =>
    unfold mergePass
    cases absorbed : absorb main frag with
    | some grown =>
      have shorter := (induction grown).1
      simp only [length_cons]
      omega
    | none =>
      have rest := induction main
      simp only [length_cons]
      constructor
      · omega
      · intro more
        have less := rest.2 more
        omega

theorem mergePass_settled (settled : (mergePass main frags).oncemore = false) :
    mergePass main frags = ⟨main, frags, false⟩ ∧ ∀ frag ∈ frags, absorb main frag = none := by
  induction frags with
  | nil => simp [mergePass]
  | cons frag _ induction =>
    unfold mergePass at settled ⊢
    cases absorbed : absorb main frag with
    | some _ => simp [absorbed] at settled
    | none =>
      simp only [absorbed] at settled ⊢
      have before := induction settled
      refine ⟨by rw [before.1], ?_⟩
      intro _ member
      rcases mem_cons.mp member with rfl | inside
      · exact absorbed
      · exact before.2 _ inside

/-- A property that passes keep, and what holds when the loop has ended. -/
theorem mergeLoop_spec (property : Region → List Region → Prop)
    (kept : ∀ main frags, property main frags →
      property (mergePass main frags).main (mergePass main frags).fragments)
    (enough : frags.length < fuel)
    (initial : property main frags) :
    property (mergeLoop fuel main frags).main (mergeLoop fuel main frags).fragments ∧
      ∀ frag ∈ (mergeLoop fuel main frags).fragments,
        absorb (mergeLoop fuel main frags).main frag = none := by
  induction fuel generalizing main frags with
  | zero => exact absurd enough (Nat.not_lt_zero _)
  | succ _ induction =>
    have next := kept _ _ initial
    unfold mergeLoop
    cases more : (mergePass main frags).oncemore with
    | true =>
      have shorter := (mergePass_length _ _).2 more
      rw [if_pos more]
      exact induction (by omega) next
    | false =>
      have settled := mergePass_settled more
      rw [settled.1]
      exact ⟨initial, settled.2⟩

/-! ## Pieces of a partition -/

/-- A partition of the offsets below `total` into non-empty pieces. -/
structure Partition (total : Nat) where
  count : Nat
  cut : Nat → Nat
  start : cut 0 = 0
  finish : cut count = total
  increasing : ∀ i < count, cut i < cut (i + 1)

namespace Partition

variable (pieces : Partition total)

/-- The piece that ends at the total length is flagged last. -/
def piece (i : Nat) : Region where
  beg := pieces.cut i
  stop := pieces.cut (i + 1)
  islast := decide (i + 1 = pieces.count)

theorem cut_lt (before : i < j) (inside : j ≤ pieces.count) : pieces.cut i < pieces.cut j := by
  induction j with
  | zero => exact absurd before (Nat.not_lt_zero i)
  | succ j induction =>
    have step := pieces.increasing j inside
    rcases Nat.lt_succ_iff_lt_or_eq.mp before with earlier | rfl
    · exact (induction earlier (by omega)).trans step
    · exact step

theorem cut_lt_iff (insideI : i ≤ pieces.count)
    (insideJ : j ≤ pieces.count) : pieces.cut i < pieces.cut j ↔ i < j := by
  constructor
  · intro less
    by_contra later
    rcases eq_or_lt_of_le (not_lt.mp later) with rfl | after
    · exact lt_irrefl _ less
    · exact absurd (pieces.cut_lt after insideI) (not_lt.mpr less.le)
  · exact fun before => pieces.cut_lt before insideJ

theorem cut_inj (insideI : i ≤ pieces.count)
    (insideJ : j ≤ pieces.count) : pieces.cut i = pieces.cut j ↔ i = j := by
  constructor
  · have left := pieces.cut_lt_iff insideI insideJ
    have right := pieces.cut_lt_iff insideJ insideI
    omega
  · rintro rfl
    rfl

theorem cut_le_total (inside : i ≤ pieces.count) : pieces.cut i ≤ total := by
  have last := pieces.cut_lt_iff le_rfl inside
  have finish := pieces.finish
  omega

/-- The leading `k` pieces as one range. -/
def prefixRegion (k : Nat) : Region where
  beg := 0
  stop := pieces.cut k
  islast := decide (k = pieces.count)

theorem absorb_piece (inside : k ≤ pieces.count) (present : j < pieces.count) :
    absorb (pieces.prefixRegion k) (pieces.piece j) =
      if j = k then some (pieces.prefixRegion (k + 1))
      else if j < k then some (pieces.prefixRegion k)
      else none := by
  have same := pieces.cut_inj inside present.le
  have below := pieces.cut_lt_iff inside (show j + 1 ≤ pieces.count by omega)
  have nonempty : 0 < pieces.cut (j + 1) := by
    rw [← pieces.start]
    exact pieces.cut_lt (Nat.succ_pos j) present
  unfold absorb prefixRegion piece
  by_cases here : j = k
  · subst here
    rw [if_pos rfl, if_pos rfl]
    have last : decide (j = pieces.count) = false := by
      rw [decide_eq_false_iff_not]
      omega
    rw [last, Bool.false_or]
  · have apart : ¬pieces.cut k = pieces.cut j := by omega
    have later : ¬0 = pieces.cut (j + 1) := by omega
    rw [if_neg apart, if_neg later, if_neg here]
    by_cases earlier : j < k
    · have within : pieces.cut (j + 1) ≤ pieces.cut k := by omega
      rw [if_pos ⟨Nat.zero_le _, within⟩, if_pos earlier]
    · have beyond : ¬pieces.cut (j + 1) ≤ pieces.cut k := by omega
      rw [if_neg fun both => beyond both.2, if_neg earlier]

/--
The leading `k` pieces have been merged, and what has been passed besides is
aside.
-/
structure Holds (passed : Nat → Prop) (main : Region) (frags : List Region) (k : Nat) : Prop where
  inside : k ≤ pieces.count
  main_eq : main = pieces.prefixRegion k
  leading : ∀ j < k, passed j
  aside : ∀ frag ∈ frags, ∃ j < pieces.count, passed j ∧ frag = pieces.piece j
  complete : ∀ j < pieces.count, passed j → j < k ∨ pieces.piece j ∈ frags

section Passes

variable {pieces : Partition total}

theorem Holds.absorbed (holds : pieces.Holds passed main (front ++ frag :: rest) k)
    (taken : absorb main frag = some grown) :
    ∃ k', pieces.Holds passed grown (front ++ rest) k' := by
  rcases holds.aside frag (by simp) with ⟨j, present, known, rfl⟩
  rw [holds.main_eq, pieces.absorb_piece holds.inside present] at taken
  have others : ∀ other ∈ front ++ rest, ∃ i < pieces.count, passed i ∧ other = pieces.piece i := by
    intro _ member
    refine holds.aside _ ?_
    rw [mem_append, mem_cons]
    rcases mem_append.mp member with before | after
    · exact .inl before
    · exact .inr (.inr after)
  have listed (i : Nat) (inside : i < pieces.count) (given : passed i) :
      i < k ∨ i = j ∨ pieces.piece i ∈ front ++ rest := by
    rcases holds.complete i inside given with early | member
    · exact .inl early
    · rw [mem_append, mem_cons] at member
      rcases member with before | same | after
      · exact .inr (.inr (mem_append_left _ before))
      · refine .inr (.inl ?_)
        have cuts := congrArg Region.beg same
        exact (pieces.cut_inj inside.le present.le).mp cuts
      · exact .inr (.inr (mem_append_right _ after))
  split_ifs at taken with here earlier
  · subst here
    cases taken
    refine ⟨j + 1, present, rfl, ?_, others, ?_⟩
    · intro i below
      rcases Nat.lt_succ_iff_lt_or_eq.mp below with early | rfl
      · exact holds.leading i early
      · exact known
    · intro i inside given
      rcases listed i inside given with early | rfl | member
      · exact .inl (by omega)
      · exact .inl (Nat.lt_succ_self i)
      · exact .inr member
  · cases taken
    refine ⟨k, holds.inside, rfl, holds.leading, others, ?_⟩
    intro i inside given
    rcases listed i inside given with early | rfl | member
    · exact .inl early
    · exact .inl earlier
    · exact .inr member

theorem Holds.mergePass (front : List Region)
    (holds : pieces.Holds passed main (front ++ frags) k) :
    ∃ k', pieces.Holds passed (mergePass main frags).main
      (front ++ (mergePass main frags).fragments) k' := by
  induction frags generalizing main front k with
  | nil => exact ⟨k, holds⟩
  | cons frag rest induction =>
    unfold ReassemblyBuffer.mergePass
    cases taken : absorb main frag with
    | some _ =>
      rcases holds.absorbed taken with ⟨k', next⟩
      exact induction _ next
    | none =>
      have split : front ++ frag :: rest = (front ++ [frag]) ++ rest := by simp
      rw [split] at holds
      rcases induction _ holds with ⟨k', next⟩
      rw [append_assoc, singleton_append] at next
      exact ⟨k', next⟩

/-- After the loop the first missing piece is the one after `main`. -/
theorem Holds.mergeFragments (holds : pieces.Holds passed main frags k) :
    ∃ k', pieces.Holds passed (mergeFragments main frags).main
        (mergeFragments main frags).fragments k' ∧
      (k' < pieces.count → ¬passed k') := by
  have loop := mergeLoop_spec (fun main frags => ∃ k, pieces.Holds _ main frags k)
    (fun main frags some => by
      rcases some with ⟨k, holds⟩
      exact holds.mergePass [])
    (Nat.lt_succ_self frags.length) ⟨k, holds⟩
  rcases loop with ⟨⟨k', ends⟩, settled⟩
  refine ⟨k', ends, ?_⟩
  intro present given
  rcases ends.complete _ present given with early | member
  · exact lt_irrefl _ early
  · have none := settled _ member
    have same := ends.main_eq
    rw [same, pieces.absorb_piece ends.inside present, if_pos rfl] at none
    cases none

end Passes

/-! ## Sequences of fragments -/

/-- A piece is passed to `addFragment`. -/
def addPiece (buffer : Buffer) (i : Nat) : Buffer × Bool :=
  addFragment buffer (pieces.piece i).beg (pieces.piece i).stop (pieces.piece i).islast

/-- The buffer after the pieces with the given numbers have been passed. -/
def afterPieces (order : List Nat) : Buffer :=
  order.foldl (fun buffer i => (pieces.addPiece buffer i).1) {}

/-- The first missing piece is the one after `main`. -/
def Settled (passed : Nat → Prop) (buffer : Buffer) : Prop :=
  ∃ k, pieces.Holds passed buffer.main buffer.fragments k ∧ (k < pieces.count → ¬passed k)

section Sequences

variable {pieces : Partition total}

theorem count_pos (positive : 0 < total) : 0 < pieces.count := by
  by_contra none
  have zero : pieces.count = 0 := by omega
  have finish := pieces.finish
  rw [zero, pieces.start] at finish
  omega

theorem settled_start (positive : 0 < total) : pieces.Settled (fun _ => False) {} := by
  have some := pieces.count_pos positive
  refine ⟨0, ⟨Nat.zero_le _, ?_, ?_, ?_, ?_⟩, fun _ => not_false⟩
  · have unfinished : decide (0 = pieces.count) = false := by
      rw [decide_eq_false_iff_not]
      omega
    rw [prefixRegion, pieces.start, unfinished]
  · intro j below
    exact absurd below (Nat.not_lt_zero j)
  · intro _ _
    contradiction
  · intro _ _ _
    contradiction

/-- A piece is merged as a fragment aside is absorbed, or put aside. -/
theorem addPiece_eq (small : total ≤ 65535)
    (main : buffer.main = pieces.prefixRegion k) (inside : k ≤ pieces.count)
    (present : i < pieces.count) :
    (pieces.addPiece buffer i).1 =
      if i = k then mergeFragments (pieces.prefixRegion (k + 1)) buffer.fragments
      else if i < k then buffer
      else
        { buffer with
          fragments := buffer.fragments ++ [pieces.piece i] } := by
  have beg : ushort (pieces.cut i) = pieces.cut i := by
    have bound := pieces.cut_le_total present.le
    exact Nat.mod_eq_of_lt (by omega)
  have stop : ushort (pieces.cut (i + 1)) = pieces.cut (i + 1) := by
    have bound := pieces.cut_le_total (i := i + 1) present
    exact Nat.mod_eq_of_lt (by omega)
  have same := pieces.cut_inj inside present.le
  have below := pieces.cut_lt_iff inside present.le
  have nonempty : 0 < pieces.cut (i + 1) := by
    rw [← pieces.start]
    exact pieces.cut_lt (Nat.succ_pos i) present
  unfold addPiece addFragment merge piece
  rw [beg, stop, main]
  unfold prefixRegion
  by_cases here : i = k
  · subst here
    have last : decide (i = pieces.count) = false := by
      rw [decide_eq_false_iff_not]
      omega
    rw [if_pos rfl, if_pos rfl, last, Bool.false_or]
  · have apart : ¬pieces.cut k = pieces.cut i := by omega
    have later : ¬0 = pieces.cut (i + 1) := by omega
    rw [if_neg apart, if_neg later, if_neg here]
    by_cases earlier : i < k
    · have known : ¬(pieces.cut k < pieces.cut i ∨ pieces.cut (i + 1) < 0) := by omega
      rw [if_neg known, if_pos earlier]
    · have gap : pieces.cut k < pieces.cut i ∨ pieces.cut (i + 1) < 0 := by omega
      rw [if_pos gap, if_neg earlier]

theorem settled_addPiece (small : total ≤ 65535) (settled : pieces.Settled passed buffer)
    (present : i < pieces.count) :
    pieces.Settled (fun j => passed j ∨ j = i) (pieces.addPiece buffer i).1 := by
  rcases settled with ⟨k, holds, missing⟩
  rw [addPiece_eq small holds.main_eq holds.inside present]
  have aside : ∀ frag ∈ buffer.fragments, ∃ j < pieces.count,
      (passed j ∨ j = i) ∧ frag = pieces.piece j := by
    intro _ member
    rcases holds.aside _ member with ⟨j, inside, given, same⟩
    exact ⟨j, inside, .inl given, same⟩
  split_ifs with here earlier
  · subst here
    refine Holds.mergeFragments (k := i + 1) ⟨present, rfl, ?_, aside, ?_⟩
    · intro j below
      rcases Nat.lt_succ_iff_lt_or_eq.mp below with early | same
      · exact .inl (holds.leading j early)
      · exact .inr same
    · rintro j inside (given | rfl)
      · rcases holds.complete j inside given with early | member
        · exact .inl (by omega)
        · exact .inr member
      · exact .inl (Nat.lt_succ_self j)
  · refine ⟨k, ⟨holds.inside, holds.main_eq, ?_, aside, ?_⟩, ?_⟩
    · exact fun j below => .inl (holds.leading j below)
    · rintro j inside (given | rfl)
      · exact holds.complete j inside given
      · exact .inl earlier
    · rintro unfinished (given | same)
      · exact missing unfinished given
      · exact here same.symm
  · refine ⟨k, ⟨holds.inside, holds.main_eq, ?_, ?_, ?_⟩, ?_⟩
    · exact fun j below => .inl (holds.leading j below)
    · intro frag member
      rcases mem_append.mp member with before | new
      · exact aside frag before
      · exact ⟨i, present, .inr rfl, mem_singleton.mp new⟩
    · rintro j inside (given | rfl)
      · rcases holds.complete j inside given with early | member
        · exact .inl early
        · exact .inr (mem_append_left _ member)
      · exact .inr (mem_append_right _ (mem_singleton_self _))
    · rintro unfinished (given | same)
      · exact missing unfinished given
      · exact here same.symm

/-- `main` is the whole datagram exactly if every piece has been passed. -/
theorem settled_answer (settled : pieces.Settled passed buffer) :
    ((decide (buffer.main.beg = 0) && buffer.main.islast) = true ↔ ∀ j < pieces.count, passed j) ∧
    ((decide (buffer.main.beg = 0) && buffer.main.islast) = true → buffer.main.stop = total) := by
  rcases settled with ⟨k, holds, missing⟩
  have answer : (decide (buffer.main.beg = 0) && buffer.main.islast) =
      decide (k = pieces.count) := by
    rw [holds.main_eq]
    rfl
  rw [answer, decide_eq_true_eq]
  constructor
  · constructor
    · rintro rfl
      exact holds.leading
    · intro all
      by_contra unfinished
      have below : k < pieces.count := by
        have inside := holds.inside
        omega
      exact missing below (all k below)
  · rintro rfl
    rw [holds.main_eq]
    exact pieces.finish

theorem settled_afterPieces (positive : 0 < total) (small : total ≤ 65535)
    (present : ∀ i ∈ order, i < pieces.count) :
    pieces.Settled (· ∈ order) (pieces.afterPieces order) := by
  induction order using reverseRecOn with
  | nil => simpa [afterPieces] using settled_start positive
  | append_singleton _ i induction =>
    have before := induction fun j member => present j (mem_append_left _ member)
    have step := settled_addPiece small before (present i (by simp))
    simpa [afterPieces, mem_append] using step

end Sequences

/--
Whatever pieces have been passed, in any order and however often: the next
call answers that the datagram is complete exactly if by then every piece has
been passed, and the length is then that of the datagram.
-/
theorem complete_iff_all_passed (positive : 0 < total) (small : total ≤ 65535)
    (order : List Nat) (i : Nat) (earlier : ∀ j ∈ order, j < pieces.count)
    (present : i < pieces.count) :
    ((pieces.addPiece (pieces.afterPieces order) i).2 = true ↔
      ∀ j < pieces.count, j ∈ order ++ [i]) ∧
    ((pieces.addPiece (pieces.afterPieces order) i).2 = true →
      getTotalLength (pieces.addPiece (pieces.afterPieces order) i).1 = total) := by
  have settled := settled_addPiece small (settled_afterPieces positive small earlier) present
  have answer := settled_answer settled
  constructor
  · refine answer.1.trans ?_
    simp only [mem_append, mem_singleton]
  · exact answer.2

/-- Three pieces that arrive backwards, the last of them twice. -/
def threePieces : Partition 9 where
  count := 3
  cut i := 3 * i
  start := rfl
  finish := rfl
  increasing := by
    intro i _
    omega

theorem complete_backwards :
    (threePieces.addPiece (threePieces.afterPieces [2, 2, 1]) 0).2 = true ∧
      getTotalLength (threePieces.addPiece (threePieces.afterPieces [2, 2, 1]) 0).1 = 9 := by
  have complete := complete_iff_all_passed threePieces (by decide)
    (by decide) [2, 2, 1] 0 (by decide) (by decide)
  have all : ∀ j < threePieces.count, j ∈ [2, 2, 1] ++ [0] := by decide
  exact ⟨complete.1.mpr all, complete.2 (complete.1.mpr all)⟩

end Partition

end OmnetDsi.Base.ReassemblyBuffer
