import OmnetDsi.Library.SortedMaps
import OmnetDsi.Sctp.GapLists
import Mathlib.Algebra.BigOperators.Group.List.Basic

/-!
# The receive streams of an SCTP association

A chunk that has arrived waits in the ordered queue of its stream until the
stream expects its sequence number, and then in the delivery queue until the
application takes it.  The queues are maps from TSNs, walked in the order of
the numbers themselves.

`heldBytes` is what the chunks in the queues of a stream hold together.
-/

namespace OmnetDsi.Sctp.ReceiveStreams

open List
open Library.SortedMaps
open OmnetDsi.Sctp.GapLists (Tsn)

/-! ## Queues -/

/-- A chunk; its length is in bits, and `userData` names the message. -/
structure SCTPDataVariables where
  ordered : Bool
  len : BitVec 16
  tsn : Tsn
  sid : BitVec 16
  ssn : BitVec 16
  userData : Nat
deriving DecidableEq

abbrev SCTPQueue : Type := List (Nat × SCTPDataVariables)

/-- The bytes of the chunk, as the queues count them. -/
def SCTPDataVariables.bytes (chunk : SCTPDataVariables) : Nat :=
  chunk.len.toNat / 8

namespace SCTPQueue

def contains (queue : SCTPQueue) (key : Tsn) : Bool :=
  queue.any fun entry => entry.1 = key.toNat

/-- The queue with the chunk, and whether it was inserted. -/
def checkAndInsertVar (queue : SCTPQueue) (key : Tsn)
    (datVar : SCTPDataVariables) : SCTPQueue × Bool :=
  if contains queue key then (queue, false) else (insertNew key.toNat datVar queue, true)

def extractMessage : SCTPQueue → Option (SCTPDataVariables × SCTPQueue)
  | [] => none
  | first :: rest => some (first.2, rest)

def getVar (queue : SCTPQueue) (tsn : Tsn) : Option SCTPDataVariables :=
  (queue.find? fun entry => entry.1 = tsn.toNat).map Prod.snd

/-- The queue without the chunk, and whether it was there. -/
def deleteMsg (queue : SCTPQueue) (tsn : Tsn) : SCTPQueue × Bool :=
  (queue.eraseP fun entry => entry.1 = tsn.toNat, contains queue tsn)

/-- The sum is an `int32`. -/
def getNumBytes (queue : SCTPQueue) : BitVec 32 :=
  queue.foldl (fun qb entry => qb + BitVec.ofNat 32 entry.2.bytes) 0

/-- The first chunk with the sequence number, and the other chunks. -/
def dequeueVarBySsn (ssn : BitVec 16) : SCTPQueue → Option (SCTPDataVariables × SCTPQueue)
  | [] => none
  | first :: rest =>
    if first.2.ssn = ssn then some (first.2, rest)
    else (dequeueVarBySsn ssn rest).map fun result => (result.1, first :: result.2)

/-- All bytes in the queue. -/
def held (queue : SCTPQueue) : Nat :=
  (queue.map fun entry => entry.2.bytes).sum

end SCTPQueue

/-! ## Streams -/

structure SCTPReceiveStream where
  expectedStreamSeqNum : Int := 0
  deliveryQ : SCTPQueue := []
  orderedQ : SCTPQueue := []
  unorderedQ : SCTPQueue := []

namespace SCTPReceiveStream

/-- The number after the expected one. -/
def following (expectedStreamSeqNum : Int) : Int :=
  if expectedStreamSeqNum + 1 > 65535 then 0 else expectedStreamSeqNum + 1

/-- The chunk that the stream expects, taken out of the ordered queue. -/
def expectedChunk (stream : SCTPReceiveStream) : Option (SCTPDataVariables × SCTPQueue) :=
  SCTPQueue.dequeueVarBySsn (BitVec.ofInt 16 stream.expectedStreamSeqNum) stream.orderedQ

/--
A chunk that was expected goes to the delivery queue; the flag is whether it
was inserted, and the next one is only then expected.
-/
def deliver (stream : SCTPReceiveStream) (chunk : SCTPDataVariables)
    (rest : SCTPQueue) : SCTPReceiveStream × Bool :=
  let inserted := SCTPQueue.checkAndInsertVar stream.deliveryQ chunk.tsn chunk
  if inserted.2 then
    ({ stream with
      orderedQ := rest
      deliveryQ := inserted.1
      expectedStreamSeqNum := following stream.expectedStreamSeqNum }, true)
  else ({ stream with orderedQ := rest }, false)

/-- The stream with the chunk, and the variable `delivery`. -/
def enqueueNewDataChunk (stream : SCTPReceiveStream)
    (dchunk : SCTPDataVariables) : SCTPReceiveStream × Nat :=
  if !dchunk.ordered then
    let inserted := SCTPQueue.checkAndInsertVar stream.deliveryQ dchunk.tsn dchunk
    ({ stream with deliveryQ := inserted.1 }, if inserted.2 then 2 else 0)
  else
    let inserted := SCTPQueue.checkAndInsertVar stream.orderedQ dchunk.tsn dchunk
    let stored := { stream with orderedQ := inserted.1 }
    let delivery := if inserted.2 then 1 else 0
    match stored.expectedChunk with
    | none => (stored, delivery)
    | some (chunk, rest) =>
      let moved := stored.deliver chunk rest
      (moved.1, if moved.2 then delivery + 1 else delivery)

/--
The loop of `putInDeliveryQ`, with the counter of the association; an
iteration takes a chunk out of the ordered queue.
-/
def putInDeliveryQFrom : Nat → SCTPReceiveStream → BitVec 64 → SCTPReceiveStream × BitVec 64
  | 0, stream, queuedRcvBytes => (stream, queuedRcvBytes)
  | steps + 1, stream, queuedRcvBytes =>
    match stream.expectedChunk with
    | none => (stream, queuedRcvBytes)
    | some (chunk, rest) =>
      let moved := stream.deliver chunk rest
      let without := queuedRcvBytes - BitVec.ofNat 64 chunk.bytes
      putInDeliveryQFrom steps moved.1 (if moved.2 then without + BitVec.ofNat 64 chunk.bytes
        else without)

def putInDeliveryQ (stream : SCTPReceiveStream) (queuedRcvBytes : BitVec 64) :
    SCTPReceiveStream × BitVec 64 :=
  putInDeliveryQFrom stream.orderedQ.length stream queuedRcvBytes

/-- All bytes in the queues of the stream. -/
def heldBytes (stream : SCTPReceiveStream) : Nat :=
  SCTPQueue.held stream.orderedQ + SCTPQueue.held stream.unorderedQ +
    SCTPQueue.held stream.deliveryQ

end SCTPReceiveStream

/-! ## What the queues hold -/

namespace SCTPQueue

@[simp]
theorem held_nil : held [] = 0 :=
  rfl

@[simp]
theorem held_cons (first : Nat × SCTPDataVariables) (rest : SCTPQueue) :
    held (first :: rest) = first.2.bytes + held rest := by
  simp [held]

theorem getNumBytes_held (queue : SCTPQueue) :
    getNumBytes queue = BitVec.ofNat 32 (held queue) := by
  have summed : ∀ (queue : SCTPQueue) (qb : BitVec 32),
      queue.foldl (fun qb entry => qb + BitVec.ofNat 32 entry.2.bytes) qb =
        qb + BitVec.ofNat 32 (held queue) := by
    intro queue
    induction queue with
    | nil => simp
    | cons _ _ hypothesis =>
      intro _
      rw [foldl_cons, hypothesis, held_cons, BitVec.ofNat_add, BitVec.add_assoc]
  rw [getNumBytes, summed]
  exact BitVec.zero_add _

theorem held_insertNew (absent : contains queue key = false) (datVar : SCTPDataVariables) :
    held (insertNew key.toNat datVar queue) = held queue + datVar.bytes := by
  induction queue with
  | nil => simp [insertNew]
  | cons first rest hypothesis =>
    have parts : first.1 ≠ key.toNat ∧ contains rest key = false := by simpa [contains] using absent
    rw [insertNew]
    split_ifs with less same
    · exact Nat.add_comm ..
    · exact absurd same.symm parts.1
    · rw [held_cons, held_cons, hypothesis parts.2, Nat.add_assoc]

theorem dequeueVarBySsn_some (dequeued : dequeueVarBySsn ssn queue = some (chunk, rest)) :
    chunk.ssn = ssn ∧
      ∃ before key after, queue = before ++ (key, chunk) :: after ∧ rest = before ++ after := by
  induction queue generalizing rest with
  | nil => cases dequeued
  | cons first others hypothesis =>
    rw [dequeueVarBySsn] at dequeued
    split_ifs at dequeued with same
    · cases dequeued
      exact ⟨same, [], first.1, others, rfl, rfl⟩
    · rcases Option.map_eq_some_iff.mp dequeued with ⟨_, found, equal⟩
      cases equal
      rcases hypothesis found with ⟨ssn, before, key, after, whole, left⟩
      refine ⟨ssn, first :: before, key, after, ?_, ?_⟩
      · rw [whole]
        rfl
      · rw [left]
        rfl

theorem held_append (before after : SCTPQueue) :
    held (before ++ after) = held before + held after := by
  simp [held]

theorem held_dequeued (dequeued : dequeueVarBySsn ssn queue = some (chunk, rest)) :
    held queue = held rest + chunk.bytes := by
  rcases dequeueVarBySsn_some dequeued with ⟨-, _, _, _, rfl, rfl⟩
  rw [held_append, held_append, held_cons]
  dsimp only
  omega

theorem getVar_some (found : getVar queue key = some chunk) :
    contains queue key = true ∧ held queue = held (deleteMsg queue key).1 + chunk.bytes := by
  rcases Option.map_eq_some_iff.mp found with ⟨entry, first, rfl⟩
  have matching : entry.1 = key.toNat := by simpa using find?_some first
  have member := mem_of_find?_eq_some first
  refine ⟨?_, ?_⟩
  · exact any_eq_true.mpr ⟨entry, member, by simpa using matching⟩
  · dsimp only [deleteMsg]
    clear member found
    induction queue with
    | nil => cases first
    | cons _ _ hypothesis =>
      rw [find?_cons] at first
      rw [eraseP_cons]
      split at first
      · case _ here =>
          cases first
          rw [here]
          simp [Nat.add_comm]
      · case _ elsewhere =>
          rw [elsewhere, cond_false, held_cons, held_cons, hypothesis first]
          omega

end SCTPQueue

/-! ## Streams whose chunks have different TSNs -/

/--
The entries have the TSNs of their chunks, and no TSN is in both the ordered
and the delivery queue.
-/
structure Tidy (stream : SCTPReceiveStream) : Prop where
  keys : ∀ entry ∈ stream.orderedQ, entry.1 = entry.2.tsn.toNat
  sorted : Sorted stream.orderedQ
  apart : ∀ entry ∈ stream.orderedQ, SCTPQueue.contains stream.deliveryQ entry.2.tsn = false

/-- A chunk with the TSN is in the ordered or the delivery queue. -/
def SCTPReceiveStream.holds (stream : SCTPReceiveStream) (tsn : Tsn) : Bool :=
  SCTPQueue.contains stream.orderedQ tsn || SCTPQueue.contains stream.deliveryQ tsn

theorem contains_insertNew (different : other ≠ key) (datVar : SCTPDataVariables) :
    SCTPQueue.contains (insertNew key.toNat datVar queue) other =
      SCTPQueue.contains queue other := by
  have apart : key.toNat ≠ other.toNat := by
    intro same
    exact different (BitVec.eq_of_toNat_eq same.symm)
  induction queue with
  | nil => simp [insertNew, SCTPQueue.contains, apart]
  | cons _ _ hypothesis =>
    unfold SCTPQueue.contains at hypothesis ⊢
    rw [insertNew]
    split_ifs with less same
    · simp [apart]
    · rfl
    · rw [any_cons, any_cons, hypothesis]

namespace Tidy

variable {chunk : SCTPDataVariables}

variable (tidy : Tidy stream)
include tidy

/-- No other chunk of the ordered queue has the TSN of the expected one. -/
theorem rest_tsn_ne (expected : stream.expectedChunk = some (chunk, rest)) :
    ∀ entry ∈ rest, entry.2.tsn ≠ chunk.tsn := by
  rcases SCTPQueue.dequeueVarBySsn_some expected with ⟨-, _, key, _, whole, left⟩
  have listed : (key, chunk) ∈ stream.orderedQ := by simp [whole]
  have part : rest.Sublist stream.orderedQ := by
    rw [whole, left]
    simp
  intro entry member same
  have sorted := tidy.sorted
  have named : entry.1 = key :=
    (tidy.keys _ (part.subset member)).trans
      ((congrArg BitVec.toNat same).trans (tidy.keys _ listed).symm)
  rw [whole, Sorted, pairwise_append, pairwise_cons] at sorted
  rw [left] at member
  rcases mem_append.mp member with early | late
  · have less := sorted.2.2 _ early (key, chunk) (by simp)
    exact absurd named less.ne
  · have less := sorted.2.1.1 _ late
    exact absurd named less.ne'

theorem deliver (expected : stream.expectedChunk = some (chunk, rest)) :
    (stream.deliver chunk rest).2 = true ∧ Tidy (stream.deliver chunk rest).1 ∧
      (stream.deliver chunk rest).1.heldBytes = stream.heldBytes ∧
      ∀ tsn, (stream.deliver chunk rest).1.holds tsn = true → stream.holds tsn = true := by
  rcases SCTPQueue.dequeueVarBySsn_some expected with ⟨-, _, key, _, whole, left⟩
  have listed : (key, chunk) ∈ stream.orderedQ := by simp [whole]
  have absent := tidy.apart _ listed
  have amount := SCTPQueue.held_dequeued expected
  rw [SCTPReceiveStream.deliver, SCTPQueue.checkAndInsertVar, absent]
  have part : rest.Sublist stream.orderedQ := by
    rw [whole, left]
    simp
  refine ⟨rfl, ?_, ?_, ?_⟩
  · refine
      { keys := fun entry member => tidy.keys _ (part.subset member)
        sorted := Pairwise.sublist part tidy.sorted
        apart := ?_ }
    intro entry member
    have different := tidy.rest_tsn_ne expected _ member
    change SCTPQueue.contains (insertNew chunk.tsn.toNat chunk stream.deliveryQ) entry.2.tsn = false
    rw [contains_insertNew different]
    exact tidy.apart _ (part.subset member)
  · change SCTPQueue.held rest + SCTPQueue.held stream.unorderedQ +
      SCTPQueue.held (insertNew chunk.tsn.toNat chunk stream.deliveryQ) = stream.heldBytes
    rw [SCTPQueue.held_insertNew absent, SCTPReceiveStream.heldBytes, amount]
    omega
  · intro tsn held
    rcases Bool.or_eq_true_iff.mp held with ordered | delivered
    · refine Bool.or_eq_true_iff.mpr (.inl ?_)
      rcases any_eq_true.mp ordered with ⟨entry, member, named⟩
      exact any_eq_true.mpr ⟨entry, part.subset member, named⟩
    · by_cases same : tsn = chunk.tsn
      · refine Bool.or_eq_true_iff.mpr (.inl ?_)
        refine any_eq_true.mpr ⟨_, listed, ?_⟩
        simpa [same] using tidy.keys _ listed
      · refine Bool.or_eq_true_iff.mpr (.inr ?_)
        exact (contains_insertNew same chunk).symm.trans delivered

theorem absent_tsn (absent : SCTPQueue.contains stream.orderedQ tsn = false) :
    ∀ entry ∈ stream.orderedQ, entry.2.tsn ≠ tsn := by
  intro entry member same
  have present : SCTPQueue.contains stream.orderedQ tsn = true := by
    refine any_eq_true.mpr ⟨entry, member, ?_⟩
    simp [tidy.keys _ member, same]
  rw [absent] at present
  cases present

theorem insertOrdered (notDelivered : SCTPQueue.contains stream.deliveryQ chunk.tsn = false) :
    Tidy { stream with orderedQ := insertNew chunk.tsn.toNat chunk stream.orderedQ } where
  keys := forall_mem_insertNew
    (fun entry : Nat × SCTPDataVariables => entry.1 = entry.2.tsn.toNat) rfl tidy.keys
  sorted := tidy.sorted.insertNew chunk.tsn.toNat chunk
  apart := forall_mem_insertNew
    (fun entry : Nat × SCTPDataVariables => SCTPQueue.contains stream.deliveryQ entry.2.tsn = false)
    notDelivered tidy.apart

theorem enqueueNewDataChunk (fresh : stream.holds chunk.tsn = false) :
    Tidy (stream.enqueueNewDataChunk chunk).1 ∧
      (stream.enqueueNewDataChunk chunk).1.heldBytes = stream.heldBytes + chunk.bytes ∧
      0 < (stream.enqueueNewDataChunk chunk).2 := by
  rcases Bool.or_eq_false_iff.mp fresh with ⟨absent, notDelivered⟩
  have inserted := SCTPQueue.held_insertNew absent chunk
  have delivered := SCTPQueue.held_insertNew notDelivered chunk
  unfold SCTPReceiveStream.enqueueNewDataChunk SCTPQueue.checkAndInsertVar
  rw [absent, notDelivered]
  cases ordered : chunk.ordered with
  | false =>
    refine ⟨⟨tidy.keys, tidy.sorted, ?_⟩, ?_, by simp⟩
    · intro entry member
      change SCTPQueue.contains (insertNew chunk.tsn.toNat chunk stream.deliveryQ)
        entry.2.tsn = false
      rw [contains_insertNew (tidy.absent_tsn absent _ member)]
      exact tidy.apart _ member
    · change SCTPQueue.held stream.orderedQ +
        SCTPQueue.held stream.unorderedQ +
          SCTPQueue.held (insertNew chunk.tsn.toNat chunk stream.deliveryQ) = _
      rw [delivered, SCTPReceiveStream.heldBytes]
      omega
  | true =>
    have stored := tidy.insertOrdered notDelivered
    have amount :
        SCTPReceiveStream.heldBytes
          { stream with orderedQ := insertNew chunk.tsn.toNat chunk stream.orderedQ } =
          stream.heldBytes + chunk.bytes := by
      rw [SCTPReceiveStream.heldBytes, SCTPReceiveStream.heldBytes, inserted]
      dsimp only
      omega
    simp only [Bool.not_true, Bool.false_eq_true, if_false, if_true]
    split
    · exact ⟨stored, amount, Nat.one_pos⟩
    · case _ first others expected =>
        rcases stored.deliver expected with ⟨moved, tidy, same, -⟩
        exact ⟨tidy, same.trans amount, by rw [moved]; simp⟩

theorem putInDeliveryQFrom (steps : Nat) (queuedRcvBytes : BitVec 64) :
    Tidy (stream.putInDeliveryQFrom steps queuedRcvBytes).1 ∧
      (stream.putInDeliveryQFrom steps queuedRcvBytes).1.heldBytes = stream.heldBytes ∧
      (stream.putInDeliveryQFrom steps queuedRcvBytes).2 = queuedRcvBytes ∧
      ∀ tsn,
        (stream.putInDeliveryQFrom steps queuedRcvBytes).1.holds tsn = true →
          stream.holds tsn = true := by
  induction steps generalizing stream queuedRcvBytes with
  | zero => exact ⟨tidy, rfl, rfl, fun _ held => held⟩
  | succ _ hypothesis =>
    unfold SCTPReceiveStream.putInDeliveryQFrom
    split
    · exact ⟨tidy, rfl, rfl, fun _ held => held⟩
    · case _ chunk rest expected =>
        rcases tidy.deliver expected with ⟨moved, still, same, held⟩
        dsimp only
        rw [moved, if_pos rfl, BitVec.sub_add_cancel]
        rcases hypothesis still _ with ⟨last, amount, counter, holds⟩
        exact ⟨last, amount.trans same, counter, fun tsn later => held _ (holds _ later)⟩

theorem sublist (less : SCTPReceiveStream) (ordered : less.orderedQ.Sublist stream.orderedQ)
    (delivered : less.deliveryQ.Sublist stream.deliveryQ) :
    Tidy less ∧ ∀ tsn, less.holds tsn = true → stream.holds tsn = true := by
  have fewer : ∀ {queue others : SCTPQueue},
      queue.Sublist others → ∀ tsn,
        SCTPQueue.contains queue tsn = true → SCTPQueue.contains others tsn = true := by
    intro _ _ part _ present
    rcases any_eq_true.mp present with ⟨entry, member, named⟩
    exact any_eq_true.mpr ⟨entry, part.subset member, named⟩
  refine
    ⟨{ keys := fun entry member => tidy.keys _ (ordered.subset member)
       sorted := Pairwise.sublist ordered tidy.sorted
       apart := ?_ }, ?_⟩
  · intro entry member
    by_contra present
    have still := fewer delivered entry.2.tsn (by simpa using present)
    rw [tidy.apart _ (ordered.subset member)] at still
    cases still
  · intro _ held
    exact Bool.or_eq_true_iff.mpr
      ((Bool.or_eq_true_iff.mp held).imp (fewer ordered _) (fewer delivered _))

end Tidy

end OmnetDsi.Sctp.ReceiveStreams
