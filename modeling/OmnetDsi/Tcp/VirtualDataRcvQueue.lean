import OmnetDsi.Library.Transition
import OmnetDsi.Library.IntervalLists
import OmnetDsi.Tcp.SequenceNumbers
import Mathlib.Order.Lattice.Nat

/-!
# The receive queue that keeps no bytes

A `TCPVirtualDataRcvQueue` knows which bytes of the stream have arrived and
not been extracted, as a list of regions of sequence numbers in stream order.
The regions are intervals of stream positions seen through `number`
(`Shows`): while the positions lie close enough together, merging a segment
into the regions is merging an interval into a list of separated ones.
-/

namespace OmnetDsi.Tcp.VirtualDataRcvQueue

open Library.IntervalLists Library.Transition Tcp.SequenceNumbers

/-! ## The queue -/

structure Region where
  begins : SeqNo
  ends : SeqNo
deriving DecidableEq

structure TCPVirtualDataRcvQueue where
  rcv_nxt : SeqNo
  regionList : List Region := []
deriving DecidableEq

/-- The assertions of `extractTo`. -/
inductive Assertion where
  | seqUpToRcvNxt
  | noEmptyRegion
deriving DecidableEq

namespace TCPVirtualDataRcvQueue

/-- The loop over the regions after an extended one. -/
def mergeNext (i : Region) : List Region → List Region
  | [] => [i]
  | j :: rest =>
    if seqGE i.ends j.begins then
      mergeNext (if seqLess i.ends j.ends then { i with ends := j.ends } else i) rest
    else i :: j :: rest

/-- The region `i` overlaps or touches the segment and is extended by it. -/
def extend (seg i : Region) (rest : List Region) : List Region :=
  let begins := if seqLess seg.begins i.begins then seg.begins else i.begins
  if seqLess i.ends seg.ends then mergeNext { begins, ends := seg.ends } rest
  else { i with begins } :: rest

def merge (seg : Region) : List Region → List Region
  | [] => [seg]
  | i :: rest =>
    if seqLess i.ends seg.begins then i :: merge seg rest
    else if seqLess seg.ends i.begins then seg :: i :: rest
    else extend seg i rest

def init (startSeq : SeqNo) : TCPVirtualDataRcvQueue where
  rcv_nxt := startSeq

/-- The test of `insertBytesFromSegment` on the first region. -/
def advanceRcvNxt (queue : TCPVirtualDataRcvQueue) : TCPVirtualDataRcvQueue :=
  match queue.regionList with
  | [] => queue
  | first :: _ =>
    if seqGE queue.rcv_nxt first.begins then { queue with rcv_nxt := first.ends } else queue

def insertBytesFromSegment (queue : TCPVirtualDataRcvQueue)
    (sequenceNo : SeqNo) (payloadLength : Nat) : TCPVirtualDataRcvQueue :=
  let seg := ⟨sequenceNo, sequenceNo + BitVec.ofNat 32 payloadLength⟩
  { queue with regionList := merge seg queue.regionList }.advanceRcvNxt

/-- The number of bytes extracted and the queue they leave. -/
def extractTo (queue : TCPVirtualDataRcvQueue) (seq : SeqNo) :
    Except Assertion (Nat × TCPVirtualDataRcvQueue) :=
  if seqLE seq queue.rcv_nxt then
    match queue.regionList with
    | [] => .ok (0, queue)
    | i :: rest =>
      if i.begins < i.ends then
        if seqLE seq i.begins then .ok (0, queue)
        else if seqLess seq i.ends then
          .ok ((seq - i.begins).toNat,
            { queue with regionList := { i with begins := seq } :: rest })
        else .ok ((i.ends - i.begins).toNat, { queue with regionList := rest })
      else .error .noEmptyRegion
  else .error .seqUpToRcvNxt

/-- The length of the message passed up, when there is one. -/
def extractBytesUpTo (queue : TCPVirtualDataRcvQueue) (seq : SeqNo) :
    Except Assertion (Option Nat × TCPVirtualDataRcvQueue) :=
  (queue.extractTo seq).map fun (numBytes, queue) =>
    (if numBytes = 0 then none else some numBytes, queue)

end TCPVirtualDataRcvQueue

/-! ## Regions as intervals of positions -/

def region (start : SeqNo) (interval : HalfOpen Nat) : Region where
  begins := number start interval.lower
  ends := number start interval.upper

section Merging

open TCPVirtualDataRcvQueue (mergeNext extend)

/-- The region extended by one that it reaches is that of the hull. -/
theorem extended_region (ordered : first.lower ≤ following.lower)
    (behind : first.upper ≤ following.upper + 2 ^ 31)
    (ahead : following.upper < first.upper + 2 ^ 31) :
    (if seqLess (region start first).ends (region start following).ends then
        { region start first with ends := (region start following).ends }
      else region start first) =
      region start (first.hull following) := by
  have lowest : min first.lower following.lower = first.lower := min_eq_left ordered
  have longer :
      seqLess (region start first).ends (region start following).ends = true ↔
        first.upper < following.upper :=
    seqLess_number behind ahead
  split_ifs with test
  · have upper : max first.upper following.upper = following.upper :=
      max_eq_right (longer.mp test).le
    simp only [region, HalfOpen.hull, lowest, upper]
  · have upper : max first.upper following.upper = first.upper :=
      max_eq_left (not_lt.mp fun short => test (longer.mpr short))
    simp only [region, HalfOpen.hull, lowest, upper]

theorem mergeNext_region (above : ∀ interval ∈ intervals, next < interval.lower)
    (within : ∀ interval ∈ intervals, interval.upper ≤ next + 2 ^ 31)
    (firstAbove : next ≤ first.upper) (firstWithin : first.upper ≤ next + 2 ^ 31)
    (ordered : ∀ interval ∈ intervals, first.lower ≤ interval.lower) :
    mergeNext (region start first) (intervals.map (region start)) =
      (absorb first intervals).map (region start) := by
  induction intervals generalizing first with
  | nil => rfl
  | cons following _ induction =>
    rw [List.forall_mem_cons] at above within ordered
    have shape := following.nonempty
    have reaches :
        seqGE (region start first).ends (region start following).begins = true ↔
          following.lower ≤ first.upper :=
      seqGE_number (by omega) (by omega)
    rw [List.map_cons, mergeNext, absorb]
    by_cases apart : first.upper < following.lower
    · rw [if_neg fun test => (reaches.mp test).not_gt apart, if_pos apart]
      rfl
    · rw [if_pos (reaches.mpr (not_lt.mp apart)), if_neg apart,
        extended_region ordered.1 (by omega) (by omega)]
      have lowest : (first.hull following).lower = first.lower := min_eq_left ordered.1
      exact induction above.2 within.2 (firstAbove.trans (le_max_left _ _))
        (max_le firstWithin within.1) (by rw [lowest]; exact ordered.2)

/-- Where an interval lies when the positions below `next` have arrived. -/
structure Placed (next : Nat) (interval : HalfOpen Nat) : Prop where
  apart : interval.upper = next ∨ next < interval.lower
  within : interval.upper ≤ next + 2 ^ 31

/-- A region that the segment overlaps or touches becomes the hull. -/
theorem extend_region {segment : HalfOpen Nat}
    (apart : ∀ interval ∈ rest, first.upper < interval.lower)
    (within : ∀ interval ∈ rest, interval.upper ≤ next + 2 ^ 31)
    (firstAbove : next ≤ first.upper) (firstWithin : first.upper ≤ next + 2 ^ 31)
    (segmentAbove : next ≤ segment.lower) (segmentWithin : segment.upper ≤ next + 2 ^ 31)
    (near : segment.upper ≤ first.lower + 2 ^ 31) :
    extend (region start segment) (region start first) (rest.map (region start)) =
      (absorb (first.hull segment) rest).map (region start) := by
  have shape := first.nonempty
  have segmentShape := segment.nonempty
  have starts :
      seqLess (region start segment).begins (region start first).begins = true ↔
        segment.lower < first.lower :=
    seqLess_number (by omega) (by omega)
  have longer :
      seqLess (region start first).ends (region start segment).ends = true ↔
        first.upper < segment.upper :=
    seqLess_number (by omega) (by omega)
  have lowered :
      (if seqLess (region start segment).begins (region start first).begins then
        (region start segment).begins
      else (region start first).begins) = number start (first.hull segment).lower := by
    have lower : (first.hull segment).lower = min first.lower segment.lower := rfl
    split_ifs with test
    · rw [lower, min_eq_right (starts.mp test).le]
      rfl
    · rw [lower, min_eq_left (not_lt.mp fun early => test (starts.mpr early))]
      rfl
  have upper : (first.hull segment).upper = max first.upper segment.upper := rfl
  have low : (first.hull segment).lower ≤ first.lower := min_le_left _ _
  rw [extend, lowered]
  by_cases beyond : first.upper < segment.upper
  · rw [max_eq_right beyond.le] at upper
    have extended :
        region start (first.hull segment) =
          ⟨number start (first.hull segment).lower, (region start segment).ends⟩ := by
      rw [region, upper]
      rfl
    rw [if_pos (longer.mpr beyond), ← extended]
    exact mergeNext_region (fun interval among => firstAbove.trans_lt (apart _ among))
      within (by omega) (by omega)
      fun interval among => by
        have later := apart _ among
        omega
  · rw [max_eq_left (not_lt.mp beyond)] at upper
    have kept :
        region start (first.hull segment) =
          { region start first with
            begins := number start (first.hull segment).lower } := by
      rw [region, upper]
      rfl
    rw [if_neg fun test => beyond (longer.mp test), ← kept,
      absorb_of_apart (by rw [upper]; exact apart)]
    rfl

theorem merge_region {segment : HalfOpen Nat} (separated : Separated intervals)
    (above : ∀ interval ∈ intervals, next ≤ interval.upper)
    (within : ∀ interval ∈ intervals, interval.upper ≤ next + 2 ^ 31)
    (segmentAbove : next ≤ segment.lower) (segmentWithin : segment.upper ≤ next + 2 ^ 31)
    (near :
      ∀ interval ∈ intervals, segment.lower ≤ interval.upper →
        segment.upper ≤ interval.lower + 2 ^ 31) :
    TCPVirtualDataRcvQueue.merge (region start segment) (intervals.map (region start)) =
      (merge segment intervals).map (region start) := by
  induction intervals with
  | nil => rfl
  | cons first _ induction =>
    have parts := separated_cons.mp separated
    rw [List.forall_mem_cons] at above within near
    have shape := first.nonempty
    have segmentShape := segment.nonempty
    have before :
        seqLess (region start first).ends (region start segment).begins = true ↔
          first.upper < segment.lower :=
      seqLess_number (by omega) (by omega)
    rw [List.map_cons, TCPVirtualDataRcvQueue.merge, merge]
    by_cases earlier : first.upper < segment.lower
    · rw [if_pos (before.mpr earlier), if_pos earlier, induction parts.2 above.2 within.2 near.2]
      rfl
    rw [if_neg fun test => earlier (before.mp test), if_neg earlier]
    have reach := near.1 (not_lt.mp earlier)
    have after :
        seqLess (region start segment).ends (region start first).begins = true ↔
          segment.upper < first.lower :=
      seqLess_number reach (by omega)
    by_cases later : segment.upper < first.lower
    · rw [if_pos (after.mpr later), if_pos later]
      rfl
    rw [if_neg fun test => later (after.mp test), if_neg later]
    exact extend_region parts.1 within.2 above.1 within.1 segmentAbove segmentWithin reach

end Merging

/-! ## What is kept of a stream -/

/--
The intervals are those of the bytes received and not extracted, and `next` is
the first position that has not been received.
-/
structure Kept (received : Set Nat) (extracted next : Nat)
    (intervals : List (HalfOpen Nat)) : Prop where
  separated : Separated intervals
  covers : covered intervals = received \ Set.Iio extracted
  missing : IsLeast receivedᶜ next
  extracted_le : extracted ≤ next
  within : ∀ interval ∈ intervals, interval.upper ≤ next + 2 ^ 31

/-- The position after the bytes that have arrived without a gap. -/
def advanced (next : Nat) : List (HalfOpen Nat) → Nat
  | [] => next
  | first :: _ => if first.lower ≤ next then first.upper else next

namespace Kept

variable {received : Set Nat}
variable {extracted next : Nat}
variable {intervals : List (HalfOpen Nat)}

section

variable (kept : Kept received extracted next intervals)
include kept

theorem received_of_lt (below : position < next) : position ∈ received := by
  by_contra missing
  exact absurd (kept.missing.2 missing) (not_le.mpr below)

theorem extracted_le_lower (among : interval ∈ intervals) : extracted ≤ interval.lower := by
  have inside : interval.lower ∈ covered intervals := ⟨interval, among, le_rfl, interval.nonempty⟩
  rw [kept.covers] at inside
  exact not_lt.mp inside.2

theorem placed (among : interval ∈ intervals) : Placed next interval := by
  refine ⟨?_, kept.within _ among⟩
  have low := kept.extracted_le_lower among
  have shape := interval.nonempty
  have free := kept.separated.upper_notMem among
  rw [kept.covers] at free
  by_cases reached : interval.lower ≤ next
  · left
    apply le_antisymm
    · by_contra beyond
      have inside : next ∈ covered intervals := ⟨interval, among, reached, not_le.mp beyond⟩
      rw [kept.covers] at inside
      exact kept.missing.1 inside.1
    · exact kept.missing.2 fun inside => free ⟨inside, not_lt.mpr (low.trans shape.le)⟩
  · exact .inr (not_le.mp reached)

end

/-- The first interval is that of the bytes waiting, when there are some. -/
theorem first_waits
    (kept : Kept received extracted next (first :: rest)) (waiting : extracted < next) :
    first.lower = extracted ∧ first.upper = next := by
  have parts := separated_cons.mp kept.separated
  have low := kept.extracted_le_lower List.mem_cons_self
  have placed := (kept.placed List.mem_cons_self).apart
  have inside : extracted ∈ covered (first :: rest) := by
    rw [kept.covers]
    exact ⟨kept.received_of_lt waiting, Set.notMem_Iio.mpr le_rfl⟩
  rcases inside with ⟨_, among, inside⟩
  rcases List.mem_cons.mp among with rfl | later
  · have start := inside.1
    omega
  · have apart := parts.1 _ later
    have start := inside.1
    have shape := first.nonempty
    omega

/-! ### A segment arrives -/

section Inserting

variable {segment : HalfOpen Nat}

/-- The bytes received without a gap end where the first interval does. -/
theorem isLeast_advanced (separated : Separated intervals)
    (covers : covered intervals = received \ Set.Iio extracted)
    (extracted_le : extracted ≤ next) (below : ∀ position < next, position ∈ received)
    (reached : ∀ interval ∈ intervals, next ≤ interval.upper) :
    IsLeast receivedᶜ (advanced next intervals) := by
  have free :
      ∀ position, extracted ≤ position → position ∉ covered intervals → position ∉ received := by
    intro _ old uncovered inside
    rw [covers] at uncovered
    exact uncovered ⟨inside, Set.notMem_Iio.mpr old⟩
  cases intervals with
  | nil =>
    refine ⟨free _ extracted_le (by simp), fun position missing => ?_⟩
    exact not_lt.mp fun early => missing (below _ early)
  | cons first rest =>
    have parts := separated_cons.mp separated
    have reaches := reached _ List.mem_cons_self
    rw [advanced]
    split_ifs with start
    · refine ⟨free _ (extracted_le.trans reaches) (separated.upper_notMem List.mem_cons_self), ?_⟩
      intro position missing
      by_contra early
      by_cases old : position < next
      · exact missing (below _ old)
      · have inside : position ∈ covered (first :: rest) :=
          ⟨first, List.mem_cons_self, start.trans (not_lt.mp old), not_le.mp early⟩
        rw [covers] at inside
        exact missing inside.1
    · refine ⟨free _ extracted_le ?_, fun position missing => ?_⟩
      · rintro ⟨interval, among, inside⟩
        rcases List.mem_cons.mp among with rfl | later
        · exact start inside.1
        · have apart := parts.1 interval later
          exact start ((first.nonempty.trans apart).le.trans inside.1)
      · exact not_lt.mp fun early => missing (below position early)

theorem insertAt (kept : Kept received extracted next intervals)
    (old : extracted ≤ segment.lower) (within : segment.upper ≤ next + 2 ^ 31) :
    Kept (received ∪ segment.points) extracted
      (advanced next (merge segment intervals)) (merge segment intervals) := by
  have separated := kept.separated.merge segment
  have covers :
      covered (merge segment intervals) = (received ∪ segment.points) \ Set.Iio extracted := by
    have apart : segment.points \ Set.Iio extracted = segment.points := by
      refine sdiff_eq_left.mpr (Set.disjoint_left.mpr ?_)
      intro _ inside below
      exact absurd below (not_lt.mpr (old.trans inside.1))
    rw [covered_merge _ kept.separated, kept.covers, Set.union_sdiff_distrib, apart]
  have reached : ∀ interval ∈ merge segment intervals, next ≤ interval.upper := by
    intro interval among
    by_contra short
    have lowest : interval.lower ∈ covered (merge segment intervals) :=
      ⟨interval, among, le_rfl, interval.nonempty⟩
    have end_notMem := separated.upper_notMem among
    rw [covers] at lowest end_notMem
    refine end_notMem ⟨.inl (kept.received_of_lt (not_le.mp short)), ?_⟩
    exact not_lt.mpr ((not_lt.mp lowest.2).trans interval.nonempty.le)
  have inWindow : ∀ interval ∈ merge segment intervals, interval.upper ≤ next + 2 ^ 31 :=
    forall_mem_merge (fun interval => interval.upper ≤ next + 2 ^ 31)
      (fun _ _ left right => max_le left right) within kept.within
  have missing :=
    isLeast_advanced separated covers kept.extracted_le
      (fun position early => .inl (kept.received_of_lt early)) reached
  have grown : next ≤ advanced next (merge segment intervals) := by
    refine not_lt.mp fun early => missing.1 (.inl ?_)
    exact kept.received_of_lt early
  exact {
    separated
    covers
    missing
    extracted_le := kept.extracted_le.trans grown
    within := fun interval among => (inWindow interval among).trans (by omega) }

theorem insert (kept : Kept received extracted next intervals)
    (above : next ≤ segment.lower) (within : segment.upper ≤ next + 2 ^ 31) :
    Kept (received ∪ segment.points) extracted
      (advanced next (merge segment intervals)) (merge segment intervals) :=
  kept.insertAt (kept.extracted_le.trans above) within

end Inserting

/-! ### Bytes are extracted -/

theorem extract (kept : Kept received extracted next intervals) (old : extracted ≤ position)
    (reached : position ≤ next) : Kept received position next (dropBelow position intervals) where
  separated := kept.separated.dropBelow position
  covers := by
    have ends : ∀ interval ∈ intervals, position ≤ interval.upper := by
      intro interval among
      have placed := (kept.placed among).apart
      have shape := interval.nonempty
      omega
    rw [covered_dropBelow kept.separated ends, kept.covers, sdiff_sdiff]
    have both : Set.Iio extracted ⊔ Set.Iio position = Set.Iio position :=
      sup_eq_right.mpr (Set.Iio_subset_Iio old)
    rw [both]
  missing := kept.missing
  extracted_le := reached
  within := by
    intro _ among
    rcases upper_of_mem_dropBelow among with ⟨_, beforeAmong, same⟩
    rw [← same]
    exact kept.within _ beforeAmong

end Kept

/-! ## The queue keeps the stream -/

/-- The queue that keeps the intervals of a stream. -/
def queueOf (start : SeqNo) (next : Nat) (intervals : List (HalfOpen Nat)) :
    TCPVirtualDataRcvQueue where
  rcv_nxt := number start next
  regionList := intervals.map (region start)

section Keeping

variable {start : SeqNo}

theorem advanceRcvNxt_queueOf
    (near :
      ∀ interval ∈ intervals, interval.lower ≤ next →
        interval.upper = next ∨ next < interval.lower + 2 ^ 31)
    (within : ∀ interval ∈ intervals, interval.lower ≤ next + 2 ^ 31) :
    (queueOf start next intervals).advanceRcvNxt =
      queueOf start (advanced next intervals) intervals := by
  cases intervals with
  | nil => rfl
  | cons first rest =>
    rw [List.forall_mem_cons] at near within
    rw [advanced]
    change (if seqGE (number start next) (number start first.lower) then
      queueOf start first.upper (first :: rest)
      else queueOf start next (first :: rest)) = _
    by_cases reaches : first.lower ≤ next
    · rw [if_pos reaches]
      rcases near.1 reaches with last | close
      · rw [last, ite_self]
      · rw [if_pos ((seqGE_number (by omega) close).mpr reaches)]
    · have beyond : ¬ seqGE (number start next) (number start first.lower) = true := by
        rwa [seqGE_number (by omega) (by omega)]
      rw [if_neg reaches, if_neg beyond]

section

variable (kept : Kept received extracted next intervals)
include kept

theorem advanced_of_beyond {segment : HalfOpen Nat} (beyond : next < segment.lower)
    (within : segment.upper ≤ next + 2 ^ 31) : advanced next (merge segment intervals) = next := by
  refine (kept.insert beyond.le within).missing.unique ⟨?_, fun position missing => ?_⟩
  · rintro (inside | inside)
    · exact kept.missing.1 inside
    · exact absurd inside.1 (not_le.mpr beyond)
  · exact kept.missing.2 fun inside => missing (.inl inside)

/-- All bytes lie in half of the sequence numbers from the position `low`. -/
theorem insertBytesFromSegment_near (low_le : low ≤ next)
    (above : ∀ interval ∈ intervals, low ≤ interval.upper)
    (below : ∀ interval ∈ intervals, interval.upper ≤ low + 2 ^ 31)
    {segment : HalfOpen Nat} (old : extracted ≤ segment.lower)
    (segmentAbove : low ≤ segment.lower) (segmentBelow : segment.upper ≤ low + 2 ^ 31)
    (reach :
      ∀ interval ∈ intervals, segment.lower ≤ interval.upper →
        segment.upper ≤ interval.lower + 2 ^ 31)
    (recent : next < extracted + 2 ^ 31 ∨ next < segment.lower) :
    (queueOf start next intervals).insertBytesFromSegment
        (number start segment.lower) (segment.upper - segment.lower) =
      queueOf start (advanced next (merge segment intervals)) (merge segment intervals) := by
  have shape := segment.nonempty
  have ends :
      number start segment.lower + BitVec.ofNat 32 (segment.upper - segment.lower) =
        number start segment.upper := by
    rw [number_add]
    congr 1
    omega
  have merged :
      TCPVirtualDataRcvQueue.merge (region start segment) (intervals.map (region start)) =
        (merge segment intervals).map (region start) := by
    exact merge_region kept.separated above below segmentAbove segmentBelow reach
  have within : segment.upper ≤ next + 2 ^ 31 := by omega
  have grown := kept.insertAt old within
  have near :
      ∀ interval ∈ merge segment intervals, interval.lower ≤ next →
        interval.upper = next ∨ next < interval.lower + 2 ^ 31 := by
    intro _ among reaches
    have low := grown.extracted_le_lower among
    rcases recent with _ | beyond
    · exact .inr (by omega)
    · have placed := (grown.placed among).apart
      rw [advanced_of_beyond kept beyond within] at placed
      exact .inl (placed.resolve_right (not_lt.mpr reaches))
  have inWindow : ∀ interval ∈ merge segment intervals, interval.lower ≤ next + 2 ^ 31 :=
    forall_mem_merge (fun interval => interval.lower ≤ next + 2 ^ 31)
      (fun _ _ left _ => (min_le_left _ _).trans left) (shape.le.trans within)
      fun interval among => interval.nonempty.le.trans (kept.within _ among)
  rw [TCPVirtualDataRcvQueue.insertBytesFromSegment, ends]
  have inserted :
      { queueOf start next intervals with
        regionList :=
          TCPVirtualDataRcvQueue.merge (region start segment)
            (queueOf start next intervals).regionList } =
        queueOf start next (merge segment intervals) := by
    rw [queueOf, merged]
    rfl
  exact (congrArg _ inserted).trans (advanceRcvNxt_queueOf near inWindow)

/-- A segment that lies at or after the first position that is missing. -/
theorem insertBytesFromSegment_queueOf {segment : HalfOpen Nat} (above : next ≤ segment.lower)
    (within : segment.upper ≤ next + 2 ^ 31)
    (reachable : extracted < next → segment.lower = next → segment.upper ≤ extracted + 2 ^ 31) :
    (queueOf start next intervals).insertBytesFromSegment
        (number start segment.lower) (segment.upper - segment.lower) =
      queueOf start (advanced next (merge segment intervals)) (merge segment intervals) := by
  have shape := segment.nonempty
  have old := kept.extracted_le
  refine insertBytesFromSegment_near kept le_rfl ?_ kept.within (old.trans above) above within ?_ ?_
  · intro interval among
    have placed := (kept.placed among).apart
    have filled := interval.nonempty
    omega
  · intro interval among _
    have low := kept.extracted_le_lower among
    have filled := interval.nonempty
    rcases (kept.placed among).apart with _ | _
    all_goals omega
  · -- so many bytes may wait that the segment may not continue them
    by_contra far
    omega

theorem extractTo_queueOf (old : extracted ≤ position) (reached : position ≤ next)
    (close : next ≤ extracted + 2 ^ 31) (recent : next < position + 2 ^ 31)
    (unwrapped : ∀ first ∈ (intervals.map (region start)).head?, first.begins < first.ends) :
    (queueOf start next intervals).extractTo (number start position) =
      .ok (position - extracted, queueOf start next (dropBelow position intervals)) := by
  have upToNext : seqLE (number start position) (queueOf start next intervals).rcv_nxt = true :=
    (seqLE_number (by omega) (by omega)).mpr reached
  rw [TCPVirtualDataRcvQueue.extractTo, if_pos upToNext]
  cases intervals with
  | nil =>
    have all := kept.covers
    rw [covered_nil] at all
    have none : extracted = next := by
      by_contra waiting
      have inside : extracted ∈ received \ Set.Iio extracted :=
        ⟨kept.received_of_lt (by omega), Set.notMem_Iio.mpr le_rfl⟩
      rwa [← all] at inside
    have nothing : position - extracted = 0 := by omega
    rw [nothing]
    rfl
  | cons first rest =>
    have shape := first.nonempty
    have within := kept.within _ List.mem_cons_self
    have low := kept.extracted_le_lower List.mem_cons_self
    have ordered : (region start first).begins < (region start first).ends := unwrapped _ rfl
    have below :
        seqLE (number start position) (region start first).begins = true ↔
          position ≤ first.lower := by
      by_cases waiting : extracted < next
      · have bounds := kept.first_waits waiting
        exact seqLE_number (by omega) (by omega)
      · exact seqLE_number (by omega) (by omega)
    change (if (region start first).begins < (region start first).ends then
      if seqLE (number start position) (region start first).begins then
        Except.ok (0, queueOf start next (first :: rest))
      else if seqLess (number start position) (region start first).ends then
        .ok ((number start position - (region start first).begins).toNat,
          ⟨number start next,
            { region start first with begins := number start position } :: rest.map (region start)⟩)
      else
        .ok (((region start first).ends - (region start first).begins).toNat,
          queueOf start next rest)
      else .error Assertion.noEmptyRegion) = _
    rw [if_pos ordered, dropBelow]
    by_cases early : position ≤ first.lower
    · have nothing : position - extracted = 0 := by
        by_cases waiting : extracted < next
        · have bounds := kept.first_waits waiting
          omega
        · omega
      rw [if_pos (below.mpr early), if_pos early, nothing]
    have waiting : extracted < next := by omega
    have bounds := kept.first_waits waiting
    have inside :
        seqLess (number start position) (region start first).ends = true ↔ position < first.upper :=
      seqLess_number (by omega) (by omega)
    rw [if_neg fun test => early (below.mp test), if_neg early]
    by_cases part : position < first.upper
    · have octets :
          (number start position - (region start first).begins).toNat = position - extracted := by
        rw [region, bounds.1]
        exact distance old (by omega)
      rw [if_pos (inside.mpr part), dif_pos part, octets]
      rfl
    · have octets :
          ((region start first).ends - (region start first).begins).toNat =
            position - extracted := by
        have last : position = next := by omega
        rw [region, bounds.1, bounds.2, last]
        exact distance (by omega) (by omega)
      rw [if_neg fun test => part (inside.mp test), dif_neg part, octets]

end

end Keeping

/-! ## Runs -/

inductive Event where
  | insert (sequenceNo : SeqNo) (payloadLength : Nat)
  | extract

/--
A queue with the bytes inserted so far, as positions of the stream that starts
at the initial `rcv_nxt`, and those extracted, which are the ones below
`extracted`.
-/
structure Observed where
  queue : TCPVirtualDataRcvQueue
  received : Set Nat := ∅
  extracted : Nat := 0
  /-- The total length of the messages passed up. -/
  passedUp : Nat := 0

namespace Observed

def initial (start : SeqNo) : Observed where
  queue := .init start

/-- The first position that has not been received. -/
noncomputable def missing (state : Observed) : Nat :=
  sInf state.receivedᶜ

/-- The position of a number at or after `rcv_nxt`. -/
noncomputable def position (state : Observed) (sequenceNo : SeqNo) : Nat :=
  state.missing + (sequenceNo - state.queue.rcv_nxt).toNat

end Observed

def Step (state : Observed) : Event → Observed → Prop
  | .insert sequenceNo payloadLength, next =>
    next =
      { state with
        queue := state.queue.insertBytesFromSegment sequenceNo payloadLength
        received :=
          state.received ∪
            Set.Ico (state.position sequenceNo) (state.position sequenceNo + payloadLength) }
  | .extract, next =>
    ∃ numBytes queue,
      state.queue.extractBytesUpTo state.queue.rcv_nxt = .ok (numBytes, queue) ∧
        next =
          { state with
            queue
            extracted := state.missing
            passedUp := state.passedUp + numBytes.getD 0 }

/-- A segment has bytes, which lie in the `2 ^ 31` from `rcv_nxt` on. -/
def Trimmed (state : Observed) : Event → Prop
  | .insert sequenceNo payloadLength =>
    0 < payloadLength ∧ (sequenceNo - state.queue.rcv_nxt).toNat + payloadLength ≤ 2 ^ 31
  | .extract => True

/--
The bytes waiting to be extracted do not come to span more than half of the
sequence numbers, and the first region is not extracted while its end has
wrapped.
-/
def Unwrapped (state : Observed) : Event → Prop
  | .insert sequenceNo payloadLength =>
    sequenceNo = state.queue.rcv_nxt →
      state.extracted < state.missing → state.missing - state.extracted + payloadLength ≤ 2 ^ 31
  | .extract =>
    state.missing - state.extracted ≤ 2 ^ 31 ∧
      ∀ first ∈ state.queue.regionList.head?, first.begins < first.ends

/--
The regions are those of separated intervals of positions, which are the bytes
received and not extracted, and `rcv_nxt` is the number of the first position
that is missing.
-/
structure Canonical (start : SeqNo) (state : Observed) : Prop where
  rcv_nxt : state.queue.rcv_nxt = number start state.missing
  missing : IsLeast state.receivedᶜ state.missing
  regions :
    ∃ intervals : List (HalfOpen Nat),
      state.queue.regionList = intervals.map (region start) ∧
        Separated intervals ∧
          covered intervals = state.received \ Set.Iio state.extracted ∧
            ∀ interval ∈ intervals,
              state.extracted ≤ interval.lower ∧ interval.upper ≤ state.missing + 2 ^ 31
  passedUp : state.passedUp = state.extracted

section Running

/-- The intervals behind a state, with the facts that the steps keep. -/
structure Observed.Holds (start : SeqNo) (state : Observed)
    (intervals : List (HalfOpen Nat)) (next : Nat) : Prop where
  queue : state.queue = queueOf start next intervals
  kept : Kept state.received state.extracted next intervals
  passedUp : state.passedUp = state.extracted

namespace Observed.Holds

variable {state : Observed}
variable {intervals : List (HalfOpen Nat)}
variable {next : Nat}

variable (holds : state.Holds start intervals next)
include holds

theorem missing_eq : state.missing = next :=
  holds.kept.missing.csInf_eq

theorem canonical : Canonical start state where
  rcv_nxt := by
    rw [holds.queue, holds.missing_eq]
    rfl
  missing := by
    rw [holds.missing_eq]
    exact holds.kept.missing
  regions := by
    refine ⟨intervals, ?_, holds.kept.separated, holds.kept.covers, ?_⟩
    · rw [holds.queue]
      rfl
    · intro _ among
      rw [holds.missing_eq]
      exact ⟨holds.kept.extracted_le_lower among, holds.kept.within _ among⟩
  passedUp := holds.passedUp

theorem insert (trimmed : Trimmed state (.insert sequenceNo payloadLength))
    (unwrapped : Unwrapped state (.insert sequenceNo payloadLength))
    (taken : Step state (.insert sequenceNo payloadLength) after) :
    ∃ merged reached, after.Holds start merged reached := by
  rcases trimmed with ⟨_, _⟩
  obtain ⟨position, here⟩ : ∃ position, state.position sequenceNo = position := ⟨_, rfl⟩
  have above : next ≤ position := by
    rw [← here, Observed.position, holds.missing_eq]
    exact Nat.le_add_right _ _
  have within : position + payloadLength ≤ next + 2 ^ 31 := by
    rw [← here, Observed.position, holds.missing_eq]
    omega
  have sequence : sequenceNo = number start position := by
    rw [← here, Observed.position, holds.missing_eq, holds.queue]
    exact (number_add_distance _ _ _).symm
  have reachable :
      state.extracted < next → position = next →
        position + payloadLength ≤ state.extracted + 2 ^ 31 := by
    intro waiting touching
    have first : sequenceNo = state.queue.rcv_nxt := by
      rw [sequence, touching, holds.queue]
      rfl
    have bound := unwrapped first (by rw [holds.missing_eq]; exact waiting)
    rw [holds.missing_eq] at bound
    omega
  let segment : HalfOpen Nat := ⟨position, position + payloadLength, by omega⟩
  have segmentAbove : next ≤ segment.lower := above
  have segmentWithin : segment.upper ≤ next + 2 ^ 31 := within
  have length : segment.upper - segment.lower = payloadLength := Nat.add_sub_cancel_left _ _
  have inserted :
      (queueOf start next intervals).insertBytesFromSegment
          (number start segment.lower) (segment.upper - segment.lower) =
        queueOf start (advanced next (merge segment intervals)) (merge segment intervals) :=
    insertBytesFromSegment_queueOf holds.kept segmentAbove segmentWithin reachable
  rw [length] at inserted
  rw [Step, here] at taken
  rw [taken]
  exact ⟨_, _, {
    queue := by
      rwa [holds.queue, sequence]
    kept := holds.kept.insert segmentAbove segmentWithin
    passedUp := holds.passedUp }⟩

theorem extracted (unwrapped : Unwrapped state .extract) :
    ∃ numBytes,
      state.queue.extractBytesUpTo state.queue.rcv_nxt =
          .ok (numBytes, queueOf start next (dropBelow next intervals)) ∧
        numBytes.getD 0 = next - state.extracted := by
  rcases unwrapped with ⟨close, ordered⟩
  have bound := holds.kept.extracted_le
  rw [holds.missing_eq] at close
  rw [holds.queue] at ordered
  have all := extractTo_queueOf holds.kept bound le_rfl (by omega) (by omega) ordered
  rw [holds.queue]
  refine ⟨_, congrArg _ all, ?_⟩
  split_ifs with nothing
  · exact nothing.symm
  · rfl

theorem extract (unwrapped : Unwrapped state .extract) (taken : Step state .extract after) :
    after.Holds start (dropBelow next intervals) next := by
  rcases taken with ⟨numBytes, queue, passed, rfl⟩
  rcases holds.extracted unwrapped with ⟨_, extracts, length⟩
  rw [extracts] at passed
  cases passed
  have bound := holds.kept.extracted_le
  exact {
    queue := rfl
    kept := by
      rw [holds.missing_eq]
      exact holds.kept.extract bound le_rfl
    passedUp := by
      change state.passedUp + numBytes.getD 0 = state.missing
      rw [length, holds.passedUp, holds.missing_eq]
      omega }

theorem step (trimmed : Trimmed state event)
    (unwrapped : Unwrapped state event) (taken : Step state event after) :
    ∃ intervals next, after.Holds start intervals next := by
  cases event with
  | insert _ _ => exact holds.insert trimmed unwrapped taken
  | extract => exact ⟨_, _, holds.extract unwrapped taken⟩

theorem progress (unwrapped : Unwrapped state event) : ∃ after, Step state event after := by
  cases event with
  | insert _ _ => exact ⟨_, rfl⟩
  | extract =>
    rcases holds.extracted unwrapped with ⟨numBytes, extracts, _⟩
    exact ⟨_, numBytes, _, extracts, rfl⟩

end Observed.Holds

theorem holds_initial (start : SeqNo) : (Observed.initial start).Holds start [] 0 where
  queue := by
    rw [queueOf, number_zero]
    rfl
  kept := {
    separated := separated_nil
    covers := by simp [Observed.initial]
    missing := by simp [Observed.initial, IsLeast]
    extracted_le := le_rfl
    within := by simp }
  passedUp := rfl

/--
While nothing that is extracted has wrapped, the regions stay canonical and
no assertion fails.
-/
theorem regions_canonical (start : SeqNo) {state : Observed} {events : List Event}
    (run :
      Run (guardedStep (fun state event => Trimmed state event ∧ Unwrapped state event) Step)
        (Observed.initial start) events state) :
    Canonical start state ∧ ∀ event, Unwrapped state event → ∃ after, Step state event after := by
  have preserved :
      ∀ state event after,
        (∃ intervals next, state.Holds start intervals next) →
          guardedStep (fun state event => Trimmed state event ∧ Unwrapped state event)
            Step state event after → ∃ intervals next, after.Holds start intervals next := by
    rintro _ event _ ⟨_, _, holds⟩ taken
    exact holds.step taken.1.1 taken.1.2 taken.2
  rcases run.invariant preserved ⟨_, _, holds_initial _⟩ with ⟨_, _, holds⟩
  exact ⟨holds.canonical, fun event => holds.progress⟩

/-- A segment arrives and is extracted. -/
theorem regions_canonical_one_segment :
    ∃ state,
      Run (guardedStep (fun state event => Trimmed state event ∧ Unwrapped state event) Step)
          (Observed.initial 1000) [.insert 1000 10, .extract] state ∧
        Canonical 1000 state ∧
          ∀ event, Unwrapped state event → ∃ after, Step state event after := by
  let middle : Observed := { queue := ⟨1010, [⟨1000, 1010⟩]⟩, received := ∅ ∪ Set.Ico 0 10 }
  have position : (Observed.initial 1000).position 1000 = 0 := by
    rw [Observed.position]
    simp [Observed.missing, Observed.initial, TCPVirtualDataRcvQueue.init]
  have inserted : Step (Observed.initial 1000) (.insert 1000 10) middle := by
    rw [Step, position]
    rfl
  have fresh : Unwrapped (Observed.initial 1000) (.insert 1000 10) := by
    intro _ waiting
    simp [Observed.missing, Observed.initial] at waiting
  have short : middle.missing ≤ 10 := Nat.sInf_le (by simp [middle])
  have close : middle.missing - 0 ≤ 2 ^ 31 := by omega
  have extracted :
      Step middle .extract
        { middle with
          queue := ⟨1010, []⟩
          extracted := middle.missing
          passedUp := 10 } :=
    ⟨some 10, _, by decide, rfl⟩
  have run :
      Run (guardedStep (fun state event => Trimmed state event ∧ Unwrapped state event) Step)
        (Observed.initial 1000) [.insert 1000 10, .extract] _ :=
    .next ⟨⟨⟨by decide, by decide⟩, fresh⟩, inserted⟩
      (.next ⟨⟨trivial, close, by decide⟩, extracted⟩ (.idle _))
  exact ⟨_, run, regions_canonical 1000 run⟩

end Running

/-! ### Examples -/

/-- The region of these bytes ends beyond the last number. -/
theorem wrapped_region_asserts :
    ¬ ∀ (start : SeqNo) (state : Observed) (events : List Event),
        Run (guardedStep Trimmed Step) (Observed.initial start) events state →
          Canonical start state ∧
            ∀ event, Trimmed state event → ∃ after, Step state event after := by
  intro always
  have run :
      Run (guardedStep Trimmed Step) (Observed.initial 0xFFFFFFF0) [.insert 0xFFFFFFF0 32] _ :=
    .next ⟨⟨by decide, by decide⟩, rfl⟩ (.idle _)
  rcases (always _ _ _ run).2 .extract trivial with ⟨_, _, _, extracts, _⟩
  have asserts :
      ((TCPVirtualDataRcvQueue.init 0xFFFFFFF0).insertBytesFromSegment
          0xFFFFFFF0 32).extractBytesUpTo 0x10 =
        .error .noEmptyRegion := by
    decide
  exact absurd (asserts.symm.trans extracts) (by simp)

end OmnetDsi.Tcp.VirtualDataRcvQueue

