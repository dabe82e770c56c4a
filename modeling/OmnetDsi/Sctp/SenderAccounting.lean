import OmnetDsi.Sctp.SendQueues

/-!
# What an SCTP sender counts

`outstandingBytes` should be the booked sizes of the chunks that count as
outstanding on a path, and `roomTransQ` and `bookedTransQ` those of the chunks
in the transmission queue that will be sent to it.  All counters are 32 bits
wide, so the sums are taken modulo 2^32.

`Sound` is the invariant; `bookedTransQ` is part of it only where `exact`
holds, because a timeout that requeues a chunk books it twice.
-/

namespace OmnetDsi.Sctp.SenderAccounting

open BitVec (ofNat ofNat_add ofNat_toNat setWidth_eq)
open Contract.Endpoints Library.SharedObjects Library.SortedMaps Library.Transition
open OmnetDsi.Sctp.GapLists (Tsn tsnLe tsnGt)
open Sctp.SendQueues Sctp.SendQueues.SCTPAssociation Function List Option

/-! ## Sums -/

def outstandingOn (path : IPvXAddress) (chunk : SCTPDataVariables) : Nat :=
  if chunk.countsAsOutstanding ∧ chunk.lastDestination = path then chunk.booksize.toNat else 0

def roomFor (path : IPvXAddress) (chunk : SCTPDataVariables) : Nat :=
  if chunk.nextDestination = path then chunk.room else 0

def bookedFor (path : IPvXAddress) (chunk : SCTPDataVariables) : Nat :=
  if chunk.nextDestination = path then chunk.booksize.toNat else 0

def pointers (queue : SCTPQueue) : List Pointer :=
  queue.map Prod.snd

/-- The bytes that are outstanding on a path. -/
def outstandingSum (assoc : SCTPAssociation) (path : IPvXAddress) : Nat :=
  total (outstandingOn path) assoc.chunks (pointers assoc.retransmissionQ)

/-- The room of the chunks to be sent to a path again. -/
def roomSum (assoc : SCTPAssociation) (path : IPvXAddress) : Nat :=
  total (roomFor path) assoc.chunks (pointers assoc.transmissionQ)

/-- The booked sizes of the chunks to be sent to a path again. -/
def bookedSum (assoc : SCTPAssociation) (path : IPvXAddress) : Nat :=
  total (bookedFor path) assoc.chunks (pointers assoc.transmissionQ)

structure Sound (exact : Prop) (assoc : SCTPAssociation) : Prop where
  distinct : (pointers assoc.retransmissionQ).Nodup
  keys : ∀ entry ∈ assoc.retransmissionQ, entry.1 = (assoc.chunks entry.2).tsn.toNat
  sorted : Sorted assoc.retransmissionQ
  sortedAgain : Sorted assoc.transmissionQ
  within : ∀ entry ∈ assoc.transmissionQ, entry ∈ assoc.retransmissionQ
  used : ∀ entry ∈ assoc.retransmissionQ, entry.2 < assoc.unused
  waits :
    ∀ entry ∈ assoc.transmissionQ,
      (assoc.chunks entry.2).countsAsOutstanding = false ∧
        (assoc.chunks entry.2).hasBeenAcked = false
  acked :
    ∀ entry ∈ assoc.retransmissionQ,
      (assoc.chunks entry.2).hasBeenAcked = true →
        (assoc.chunks entry.2).countsAsOutstanding = false ∧
          (assoc.chunks entry.2).hasBeenRemoved = false
  outstanding : ∀ path, assoc.outstandingBytes path = ofNat 32 (outstandingSum assoc path)
  room : ∀ path, assoc.roomTransQ path = ofNat 32 (roomSum assoc path)
  booked : exact → ∀ path, assoc.bookedTransQ path = ofNat 32 (bookedSum assoc path)

theorem ofNat_of_balance {next : BitVec 32} {after : Nat} (sum : after + old = before + new)
    (counted : counter = ofNat 32 before) (balance : next + ofNat 32 old = counter + ofNat 32 new) :
    next = ofNat 32 after := by
  rw [counted, ← ofNat_add, ← sum, ofNat_add] at balance
  have without := congrArg (fun value => value - ofNat 32 old) balance
  simpa only [BitVec.add_sub_cancel] using without

/-! ## Entries and pointers -/

variable {queue : SCTPQueue} {entry : Nat × Pointer}

theorem mem_pointers (member : entry ∈ queue) : entry.2 ∈ pointers queue :=
  mem_map_of_mem member

namespace Sound

variable {exact : Prop} {assoc next : SCTPAssociation}
variable {pointer : Pointer} {tsn : Tsn}

theorem entry_eq (sound : Sound exact assoc) (leftMember : left ∈ assoc.retransmissionQ)
    (rightMember : right ∈ assoc.retransmissionQ) (same : left.2 = right.2) : left = right :=
  inj_on_of_nodup_map sound.distinct leftMember rightMember same

theorem find_some (sound : Sound exact assoc)
    (found : assoc.retransmissionQ.find tsn = some pointer) :
    (tsn.toNat, pointer) ∈ assoc.retransmissionQ ∧ (assoc.chunks pointer).tsn = tsn := by
  rcases map_eq_some_iff.mp found with ⟨entry, first, rfl⟩
  have key : entry.1 = tsn.toNat := by simpa using find?_some first
  have member := mem_of_find?_eq_some first
  refine ⟨?_, ?_⟩
  · rwa [← key]
  · exact BitVec.eq_of_toNat_eq ((sound.keys _ member).symm.trans key)

end Sound

variable {tsn : Tsn}

theorem find_eq_none (absent : queue.find tsn = none) : ∀ entry ∈ queue, entry.1 ≠ tsn.toNat := by
  intro _ member same
  have nothing := map_eq_none_iff.mp absent
  have here := find?_eq_none.mp nothing _ member
  simp [same] at here

theorem insertNew_perm (absent : queue.find tsn = none) (pointer : Pointer) :
    (insertNew tsn.toNat pointer queue).Perm ((tsn.toNat, pointer) :: queue) := by
  have keys := find_eq_none absent
  clear absent
  induction queue with
  | nil => exact Perm.refl _
  | cons _ _ hypothesis =>
    rw [forall_mem_cons] at keys
    rw [insertNew]
    split_ifs with less same
    · exact Perm.refl _
    · exact absurd same.symm keys.1
    · exact ((hypothesis keys.2).cons _).trans (Perm.swap _ _ _)

variable {pointer : Pointer}

/-- A sorted queue is the entry of a TSN and what is left without it. -/
theorem erase_perm (member : (tsn.toNat, pointer) ∈ queue) (sorted : Sorted queue) :
    queue.Perm ((tsn.toNat, pointer) :: queue.erase tsn) ∧
      ∀ entry ∈ queue.erase tsn, entry.1 ≠ tsn.toNat := by
  unfold SCTPQueue.erase
  induction queue with
  | nil => cases member
  | cons first rest hypothesis =>
    have parts := sorted_cons.mp sorted
    rw [eraseP_cons]
    by_cases same : first.1 = tsn.toNat
    · have only : first = (tsn.toNat, pointer) := sorted.eq_of_key_eq mem_cons_self member same
      rw [only] at parts ⊢
      simp only [decide_true, cond_true]
      exact ⟨Perm.refl _, fun entry later => (parts.1 _ later).ne'⟩
    · have later : (tsn.toNat, pointer) ∈ rest := by
        rcases mem_cons.mp member with here | there
        · exact absurd (congrArg Prod.fst here).symm same
        · exact there
      rcases hypothesis later parts.2 with ⟨perm, different⟩
      simp only [same, decide_false, cond_false]
      refine ⟨(perm.cons _).trans (Perm.swap _ _ _), ?_⟩
      rw [forall_mem_cons]
      exact ⟨same, different⟩

/-! ## Changes that keep the counters right -/

variable {next : SCTPAssociation}

namespace Sound

variable {exact : Prop} {assoc : SCTPAssociation}
variable {entry : Nat × Pointer} {chunk : SCTPDataVariables}

theorem touch (sound : Sound exact assoc) (member : entry ∈ assoc.retransmissionQ)
    (outstandingBytes : IPvXAddress → BitVec 32) (tsn : chunk.tsn = (assoc.chunks entry.2).tsn)
    (flags :
      chunk.hasBeenAcked = true → chunk.countsAsOutstanding = false ∧ chunk.hasBeenRemoved = false)
    (waiting :
      entry ∈ assoc.transmissionQ →
        (chunk.countsAsOutstanding = false ∧ chunk.hasBeenAcked = false) ∧
          (∀ path, roomFor path chunk = roomFor path (assoc.chunks entry.2)) ∧
          ∀ path, bookedFor path chunk = bookedFor path (assoc.chunks entry.2))
    (balance :
      ∀ path,
        outstandingBytes path + ofNat 32 (outstandingOn path (assoc.chunks entry.2)) =
          assoc.outstandingBytes path + ofNat 32 (outstandingOn path chunk)) :
    Sound exact
      { assoc.setChunk entry.2 chunk with
        outstandingBytes } := by
  have others : ∀ other, other ≠ entry.2 →
      update assoc.chunks entry.2 chunk other = assoc.chunks other :=
    fun other different => update_of_ne different _ _
  have self : update assoc.chunks entry.2 chunk entry.2 = chunk := update_self ..
  have again : ∀ other ∈ assoc.transmissionQ, other.2 = entry.2 → entry ∈ assoc.transmissionQ := by
    intro _ present same
    have equal := sound.entry_eq (sound.within _ present) member same
    exact equal ▸ present
  refine
    { distinct := sound.distinct
      keys := ?_
      sorted := sound.sorted
      sortedAgain := sound.sortedAgain
      within := sound.within
      used := sound.used
      waits := ?_
      acked := ?_
      outstanding := ?_
      room := ?_
      booked := ?_ }
  · intro other present
    change other.1 = (update assoc.chunks entry.2 chunk other.2).tsn.toNat
    by_cases same : other.2 = entry.2
    · rw [same, self, tsn, ← same]
      exact sound.keys _ present
    · rw [others _ same]
      exact sound.keys _ present
  · intro other present
    change
      (update assoc.chunks entry.2 chunk other.2).countsAsOutstanding = false ∧
        (update assoc.chunks entry.2 chunk other.2).hasBeenAcked = false
    by_cases same : other.2 = entry.2
    · rw [same, self]
      exact (waiting (again other present same)).1
    · rw [others _ same]
      exact sound.waits other present
  · intro other present
    change
      (update assoc.chunks entry.2 chunk other.2).hasBeenAcked = true →
        (update assoc.chunks entry.2 chunk other.2).countsAsOutstanding = false ∧
          (update assoc.chunks entry.2 chunk other.2).hasBeenRemoved = false
    by_cases same : other.2 = entry.2
    · rwa [same, self]
    · rw [others _ same]
      exact sound.acked other present
  · intro path
    exact ofNat_of_balance
      (total_update (outstandingOn path) assoc.chunks chunk sound.distinct (mem_pointers member))
      (sound.outstanding path) (balance path)
  · intro path
    have same :
        total (roomFor path) (update assoc.chunks entry.2 chunk) (pointers assoc.transmissionQ) =
          roomSum assoc path := by
      by_cases present : entry ∈ assoc.transmissionQ
      · exact total_update_same _ _ _ _ ((waiting present).2.1 path)
      · apply total_update_of_notMem
        intro named
        rcases mem_map.mp named with ⟨other, there, same⟩
        exact present (again other there same)
    exact (sound.room path).trans (congrArg _ same.symm)
  · intro exactly path
    have same :
        total (bookedFor path) (update assoc.chunks entry.2 chunk) (pointers assoc.transmissionQ) =
          bookedSum assoc path := by
      by_cases present : entry ∈ assoc.transmissionQ
      · exact total_update_same _ _ _ _ ((waiting present).2.2 path)
      · apply total_update_of_notMem
        intro named
        rcases mem_map.mp named with ⟨other, there, same⟩
        exact present (again other there same)
    exact (sound.booked exactly path).trans (congrArg _ same.symm)

theorem ofNat_removed {counter : IPvXAddress → BitVec 32}
    {sum rest weight : Nat} {path : IPvXAddress}
    (counted : counter path = ofNat 32 sum) (parts : sum = weight + rest) :
    counter path - ofNat 32 weight = ofNat 32 rest := by
  rw [counted, parts, Nat.add_comm, ofNat_add, BitVec.add_sub_cancel]

theorem subtractRoom_roomTransQ (assoc : SCTPAssociation)
    (chunk : SCTPDataVariables) (path : IPvXAddress) :
    (assoc.subtractRoom chunk).roomTransQ path =
      assoc.roomTransQ path - ofNat 32 (roomFor path chunk) := by
  dsimp only [subtractRoom, roomFor]
  by_cases same : chunk.nextDestination = path
  · subst same
    rw [update_self, if_pos rfl]
  · rw [update_of_ne (Ne.symm same), if_neg same]
    exact (BitVec.sub_zero _).symm

theorem subtractRoom_bookedTransQ (assoc : SCTPAssociation)
    (chunk : SCTPDataVariables) (path : IPvXAddress) :
    (assoc.subtractRoom chunk).bookedTransQ path =
      assoc.bookedTransQ path - ofNat 32 (bookedFor path chunk) := by
  dsimp only [subtractRoom, bookedFor]
  by_cases same : chunk.nextDestination = path
  · subst same
    rw [update_self, if_pos rfl, ofNat_toNat, setWidth_eq]
  · rw [update_of_ne (Ne.symm same), if_neg same]
    exact (BitVec.sub_zero _).symm

theorem addRoom_roomTransQ (assoc : SCTPAssociation)
    (chunk : SCTPDataVariables) (path : IPvXAddress) :
    (assoc.addRoom chunk).roomTransQ path =
      assoc.roomTransQ path + ofNat 32 (roomFor path chunk) := by
  dsimp only [addRoom, roomFor]
  by_cases same : chunk.nextDestination = path
  · subst same
    rw [update_self, if_pos rfl]
  · rw [update_of_ne (Ne.symm same), if_neg same]
    exact (BitVec.add_zero _).symm

theorem addRoom_bookedTransQ (assoc : SCTPAssociation)
    (chunk : SCTPDataVariables) (path : IPvXAddress) :
    (assoc.addRoom chunk).bookedTransQ path =
      assoc.bookedTransQ path + ofNat 32 (bookedFor path chunk) := by
  dsimp only [addRoom, bookedFor]
  by_cases same : chunk.nextDestination = path
  · subst same
    rw [update_self, if_pos rfl, ofNat_toNat, setWidth_eq]
  · rw [update_of_ne (Ne.symm same), if_neg same]
    exact (BitVec.add_zero _).symm

section

variable (sound : Sound exact assoc)
include sound

theorem unqueue
    (perm : assoc.transmissionQ.Perm (entry :: rest)) (part : rest.Sublist assoc.transmissionQ) :
    Sound exact (subtractRoom { assoc with transmissionQ := rest } (assoc.chunks entry.2)) := by
  have parts : ∀ weight : SCTPDataVariables → Nat,
      total weight assoc.chunks (pointers assoc.transmissionQ) =
        weight (assoc.chunks entry.2) + total weight assoc.chunks (pointers rest) := by
    intro _
    exact total_perm _ assoc.chunks (perm.map Prod.snd)
  refine
    { distinct := sound.distinct
      keys := sound.keys
      sorted := sound.sorted
      sortedAgain := Pairwise.sublist part sound.sortedAgain
      within := fun other member => sound.within _ (part.subset member)
      used := sound.used
      waits := fun other member => sound.waits _ (part.subset member)
      acked := sound.acked
      outstanding := sound.outstanding
      room := ?_
      booked := ?_ }
  · intro _
    rw [subtractRoom_roomTransQ]
    exact ofNat_removed (sound.room _) (parts _)
  · intro exactly _
    rw [subtractRoom_bookedTransQ]
    exact ofNat_removed (sound.booked exactly _) (parts _)

theorem enqueue (member : (tsn.toNat, pointer) ∈ assoc.retransmissionQ)
    (absent : assoc.transmissionQ.find tsn = none)
    (quiet :
      (assoc.chunks pointer).countsAsOutstanding = false ∧
        (assoc.chunks pointer).hasBeenAcked = false)
    (bookedTransQ : IPvXAddress → BitVec 32)
    (books :
      exact →
        ∀ path,
          bookedTransQ path =
            assoc.bookedTransQ path + ofNat 32 (bookedFor path (assoc.chunks pointer))) :
    Sound exact
      { addRoom
          { assoc with transmissionQ := insertNew tsn.toNat pointer assoc.transmissionQ }
          (assoc.chunks pointer) with
        bookedTransQ } := by
  have perm := insertNew_perm absent pointer
  have parts : ∀ weight : SCTPDataVariables → Nat,
      total weight assoc.chunks (pointers (insertNew tsn.toNat pointer assoc.transmissionQ)) =
        total weight assoc.chunks (pointers assoc.transmissionQ) +
          weight (assoc.chunks pointer) := by
    intro _
    exact (total_perm _ assoc.chunks (perm.map Prod.snd)).trans (Nat.add_comm ..)
  refine
    { distinct := sound.distinct
      keys := sound.keys
      sorted := sound.sorted
      sortedAgain := sound.sortedAgain.insertNew _ _
      within := ?_
      used := sound.used
      waits := ?_
      acked := sound.acked
      outstanding := sound.outstanding
      room := ?_
      booked := ?_ }
  · intro _ there
    rcases mem_cons.mp (perm.mem_iff.mp there) with rfl | old
    · exact member
    · exact sound.within _ old
  · intro _ there
    rcases mem_cons.mp (perm.mem_iff.mp there) with rfl | old
    · exact quiet
    · exact sound.waits _ old
  · intro path
    change (addRoom _ (assoc.chunks pointer)).roomTransQ path =
      ofNat 32 (total (roomFor path) assoc.chunks
        (pointers (insertNew tsn.toNat pointer assoc.transmissionQ)))
    rw [addRoom_roomTransQ, parts, ofNat_add]
    exact congrArg (· + _) (sound.room _)
  · intro exactly path
    change bookedTransQ path =
      ofNat 32 (total (bookedFor path) assoc.chunks
        (pointers (insertNew tsn.toNat pointer assoc.transmissionQ)))
    rw [books exactly, parts, ofNat_add]
    exact congrArg (· + _) (sound.booked exactly _)

/-- A chunk that waits nowhere else leaves the retransmission queue. -/
theorem extract (member : (tsn.toNat, pointer) ∈ assoc.retransmissionQ)
    (absent : assoc.transmissionQ.find tsn = none) (chunks : Pointer → SCTPDataVariables)
    (same : ∀ other, other ≠ pointer → chunks other = assoc.chunks other)
    (outstandingBytes : IPvXAddress → BitVec 32)
    (balance :
      ∀ path,
        outstandingBytes path + ofNat 32 (outstandingOn path (assoc.chunks pointer)) =
          assoc.outstandingBytes path) :
    Sound exact
      { assoc with
        chunks
        retransmissionQ := assoc.retransmissionQ.erase tsn
        outstandingBytes } := by
  rcases erase_perm member sound.sorted with ⟨perm, different⟩
  have part : (assoc.retransmissionQ.erase tsn).Sublist assoc.retransmissionQ := eraseP_sublist
  have other : ∀ left ∈ assoc.retransmissionQ.erase tsn, left.2 ≠ pointer := by
    intro left there equal
    have only := sound.entry_eq (part.subset there) member equal
    exact different left there (congrArg Prod.fst only)
  have stays : ∀ left ∈ assoc.transmissionQ, left ∈ assoc.retransmissionQ.erase tsn := by
    intro left there
    rcases mem_cons.mp (perm.mem_iff.mp (sound.within left there)) with rfl | rest
    · exact absurd rfl (find_eq_none absent _ there)
    · exact rest
  have kept : ∀ left ∈ assoc.retransmissionQ.erase tsn, chunks left.2 = assoc.chunks left.2 :=
    fun left there => same left.2 (other left there)
  refine
    { distinct := sound.distinct.sublist (part.map Prod.snd)
      keys := ?_
      sorted := Pairwise.sublist part sound.sorted
      sortedAgain := sound.sortedAgain
      within := stays
      used := fun left there => sound.used left (part.subset there)
      waits := ?_
      acked := ?_
      outstanding := ?_
      room := ?_
      booked := ?_ }
  · intro left there
    change left.1 = (chunks left.2).tsn.toNat
    rw [kept left there]
    exact sound.keys left (part.subset there)
  · intro left there
    change (chunks left.2).countsAsOutstanding = false ∧ (chunks left.2).hasBeenAcked = false
    rw [kept left (stays left there)]
    exact sound.waits left there
  · intro left there
    change (chunks left.2).hasBeenAcked = true →
      (chunks left.2).countsAsOutstanding = false ∧ (chunks left.2).hasBeenRemoved = false
    rw [kept left there]
    exact sound.acked left (part.subset there)
  · intro path
    have rest :
        total (outstandingOn path) chunks (pointers (assoc.retransmissionQ.erase tsn)) =
          total (outstandingOn path) assoc.chunks (pointers (assoc.retransmissionQ.erase tsn)) := by
      apply total_congr
      intro _ named
      rcases mem_map.mp named with ⟨left, there, rfl⟩
      rw [kept left there]
    have sum :
        outstandingSum assoc path =
          outstandingOn path (assoc.chunks pointer) +
            total (outstandingOn path) assoc.chunks (pointers (assoc.retransmissionQ.erase tsn)) :=
      total_perm _ assoc.chunks (perm.map Prod.snd)
    refine ofNat_of_balance (Nat.add_comm _ _ |>.trans ?_)
      (sound.outstanding path) ((balance path).trans (BitVec.add_zero _).symm)
    change outstandingOn path (assoc.chunks pointer) +
      total (outstandingOn path) chunks (pointers (assoc.retransmissionQ.erase tsn)) =
      outstandingSum assoc path + 0
    rw [rest, sum]
    rfl
  · intro path
    refine (sound.room path).trans (congrArg _ (total_congr ?_).symm)
    intro _ named
    rcases mem_map.mp named with ⟨left, there, rfl⟩
    exact congrArg _ (kept left (stays left there))
  · intro exactly path
    refine (sound.booked exactly path).trans (congrArg _ (total_congr ?_).symm)
    intro _ named
    rcases mem_map.mp named with ⟨left, there, rfl⟩
    exact congrArg _ (kept left (stays left there))

/-- Only data apart from the queues and their counters is different. -/
theorem aside (chunks : ∀ entry ∈ assoc.retransmissionQ, next.chunks entry.2 = assoc.chunks entry.2)
    (retransmissionQ : next.retransmissionQ = assoc.retransmissionQ)
    (transmissionQ : next.transmissionQ = assoc.transmissionQ) (unused : assoc.unused ≤ next.unused)
    (outstandingBytes : next.outstandingBytes = assoc.outstandingBytes)
    (roomTransQ : next.roomTransQ = assoc.roomTransQ)
    (bookedTransQ : next.bookedTransQ = assoc.bookedTransQ) : Sound exact next := by
  have sums : ∀ weight : SCTPDataVariables → Nat,
      total weight next.chunks (pointers next.retransmissionQ) =
        total weight assoc.chunks (pointers assoc.retransmissionQ) := by
    intro _
    rw [retransmissionQ]
    apply total_congr
    intro _ named
    rcases mem_map.mp named with ⟨entry, there, rfl⟩
    rw [chunks _ there]
  have sumsAgain : ∀ weight : SCTPDataVariables → Nat,
      total weight next.chunks (pointers next.transmissionQ) =
        total weight assoc.chunks (pointers assoc.transmissionQ) := by
    intro _
    rw [transmissionQ]
    apply total_congr
    intro _ named
    rcases mem_map.mp named with ⟨entry, there, rfl⟩
    rw [chunks _ (sound.within _ there)]
  refine
    { distinct := retransmissionQ ▸ sound.distinct
      keys := ?_
      sorted := retransmissionQ ▸ sound.sorted
      sortedAgain := transmissionQ ▸ sound.sortedAgain
      within := by
        rw [retransmissionQ, transmissionQ]
        exact sound.within
      used := ?_
      waits := ?_
      acked := ?_
      outstanding := ?_
      room := ?_
      booked := ?_ }
  · intro _ there
    rw [retransmissionQ] at there
    rw [chunks _ there]
    exact sound.keys _ there
  · intro _ there
    rw [retransmissionQ] at there
    exact (sound.used _ there).trans_le unused
  · intro _ there
    rw [transmissionQ] at there
    rw [chunks _ (sound.within _ there)]
    exact sound.waits _ there
  · intro entry there
    rw [retransmissionQ] at there
    rw [chunks _ there]
    exact sound.acked entry there
  · intro path
    rw [outstandingBytes, sound.outstanding path, outstandingSum, outstandingSum, sums]
  · intro path
    rw [roomTransQ, sound.room path, roomSum, roomSum, sumsAgain]
  · intro exactly path
    rw [bookedTransQ, sound.booked exactly path, bookedSum, bookedSum, sumsAgain]

end

theorem addOutstanding {sum : Nat}
    (chunk : SCTPDataVariables) (counts : chunk.countsAsOutstanding = true)
    (path : IPvXAddress) (counted : counter path = ofNat 32 sum) :
    update counter chunk.lastDestination (counter chunk.lastDestination + chunk.booksize) path =
      ofNat 32 (outstandingOn path chunk + sum) := by
  unfold outstandingOn
  by_cases same : chunk.lastDestination = path
  · subst same
    rw [update_self, counted, if_pos ⟨counts, rfl⟩, Nat.add_comm,
      ofNat_add, ofNat_toNat, setWidth_eq]
  · rwa [update_of_ne (Ne.symm same), if_neg fun both => same both.2, Nat.zero_add]

theorem insertFresh (sound : Sound exact assoc)
    (absent : assoc.retransmissionQ.find chunk.tsn = none)
    (counts : chunk.countsAsOutstanding = true) (notAcked : chunk.hasBeenAcked = false) :
    Sound exact
      { assoc.setChunk assoc.unused chunk with
        unused := assoc.unused + 1
        retransmissionQ := insertNew chunk.tsn.toNat assoc.unused assoc.retransmissionQ
        outstandingBytes :=
          update assoc.outstandingBytes chunk.lastDestination
            (assoc.outstandingBytes chunk.lastDestination + chunk.booksize) } := by
  have perm := insertNew_perm absent assoc.unused
  have old : ∀ entry ∈ assoc.retransmissionQ,
      update assoc.chunks assoc.unused chunk entry.2 = assoc.chunks entry.2 :=
    fun entry there => update_of_ne (sound.used _ there).ne _ _
  have self : update assoc.chunks assoc.unused chunk assoc.unused = chunk := update_self ..
  have fresh : assoc.unused ∉ pointers assoc.retransmissionQ := by
    intro named
    rcases mem_map.mp named with ⟨entry, there, same⟩
    exact (sound.used _ there).ne same
  have members : ∀ entry,
      entry ∈ insertNew chunk.tsn.toNat assoc.unused assoc.retransmissionQ →
        entry = (chunk.tsn.toNat, assoc.unused) ∨ entry ∈ assoc.retransmissionQ :=
    fun entry there => mem_cons.mp (perm.mem_iff.mp there)
  refine
    { distinct := ?_
      keys := ?_
      sorted := sound.sorted.insertNew _ _
      sortedAgain := sound.sortedAgain
      within := fun entry there => perm.mem_iff.mpr (mem_cons_of_mem _ (sound.within entry there))
      used := ?_
      waits := ?_
      acked := ?_
      outstanding := ?_
      room := ?_
      booked := ?_ }
  · refine (perm.map Prod.snd).nodup_iff.mpr ?_
    exact nodup_cons.mpr ⟨fresh, sound.distinct⟩
  · intro entry there
    change entry.1 = (update assoc.chunks assoc.unused chunk entry.2).tsn.toNat
    rcases members entry there with rfl | before
    · rw [self]
    · rw [old entry before]
      exact sound.keys entry before
  · intro entry there
    rcases members entry there with rfl | before
    · exact Nat.lt_succ_self _
    · exact (sound.used entry before).trans (Nat.lt_succ_self _)
  · intro entry there
    change
      (update assoc.chunks assoc.unused chunk entry.2).countsAsOutstanding = false ∧
        (update assoc.chunks assoc.unused chunk entry.2).hasBeenAcked = false
    rw [old entry (sound.within entry there)]
    exact sound.waits entry there
  · intro entry there
    change
      (update assoc.chunks assoc.unused chunk entry.2).hasBeenAcked = true →
        (update assoc.chunks assoc.unused chunk entry.2).countsAsOutstanding = false ∧
          (update assoc.chunks assoc.unused chunk entry.2).hasBeenRemoved = false
    rcases members entry there with rfl | before
    · rw [self, notAcked]
      intro wrong
      cases wrong
    · rw [old entry before]
      exact sound.acked entry before
  · intro path
    have sum :
        total (outstandingOn path) (update assoc.chunks assoc.unused chunk)
            (pointers (insertNew chunk.tsn.toNat assoc.unused assoc.retransmissionQ)) =
          outstandingOn path chunk + outstandingSum assoc path := by
      refine (total_perm _ _ (perm.map Prod.snd)).trans ?_
      rw [map_cons, total_cons, self]
      congr 1
      exact total_update_of_notMem _ _ _ fresh
    exact (addOutstanding chunk counts path (sound.outstanding path)).trans (congrArg _ sum.symm)
  · intro path
    refine (sound.room path).trans (congrArg _ (total_congr ?_).symm)
    intro _ named
    rcases mem_map.mp named with ⟨entry, there, rfl⟩
    exact congrArg _ (old entry (sound.within entry there))
  · intro exactly path
    refine (sound.booked exactly path).trans (congrArg _ (total_congr ?_).symm)
    intro _ named
    rcases mem_map.mp named with ⟨entry, there, rfl⟩
    exact congrArg _ (old entry (sound.within entry there))

end Sound

/-! ## Parts of the operations -/

@[simp]
theorem chunks_setChunk (assoc : SCTPAssociation) (pointer : Pointer) (chunk : SCTPDataVariables) :
    (assoc.setChunk pointer chunk).chunks pointer = chunk :=
  update_self ..

@[simp]
theorem setChunk_setChunk (assoc : SCTPAssociation) (pointer : Pointer)
    (first second : SCTPDataVariables) :
    (assoc.setChunk pointer first).setChunk pointer second = assoc.setChunk pointer second := by
  unfold setChunk
  rw [update_idem]

@[simp]
theorem discount_retransmissionQ (assoc : SCTPAssociation) (pointer : Pointer)
    : (assoc.discount pointer).retransmissionQ = assoc.retransmissionQ := by
  dsimp only [discount]
  split_ifs <;> rfl

@[simp]
theorem discount_transmissionQ (assoc : SCTPAssociation) (pointer : Pointer) :
    (assoc.discount pointer).transmissionQ = assoc.transmissionQ := by
  dsimp only [discount]
  split_ifs <;> rfl

theorem discount_chunks (assoc : SCTPAssociation) (pointer : Pointer) :
    (assoc.discount pointer).chunks pointer =
      { assoc.chunks pointer with countsAsOutstanding := false } := by
  dsimp only [discount]
  split_ifs with counts
  · exact update_self ..
  · have same : (assoc.chunks pointer).countsAsOutstanding = false := by simpa using counts
    rw [← same]

/-- Marking a chunk as acknowledged does not interfere with discounting. -/
theorem discount_ack (assoc : SCTPAssociation) (pointer : Pointer) :
    (assoc.setChunk pointer { assoc.chunks pointer with hasBeenAcked := true }).discount pointer =
      (assoc.discount pointer).setChunk pointer
        { (assoc.discount pointer).chunks pointer with
          hasBeenAcked := true } := by
  rw [discount_chunks]
  unfold discount
  rw [chunks_setChunk]
  dsimp only
  split_ifs with counts
  · rw [setChunk_setChunk]
    dsimp only [setChunk]
    rw [update_idem]
  · have same : (assoc.chunks pointer).countsAsOutstanding = false := by simpa using counts
    rw [← same]

theorem removeMsg_chunks (assoc : SCTPAssociation) (pointer : Pointer) :
    (assoc.removeMsg pointer).chunks = assoc.chunks := by
  dsimp only [removeMsg]
  split_ifs <;> rfl

theorem removeMsg_ack (assoc : SCTPAssociation) (pointer : Pointer) :
    (assoc.setChunk pointer { assoc.chunks pointer with hasBeenAcked := true }).removeMsg pointer =
      (assoc.removeMsg pointer).setChunk pointer
        { (assoc.removeMsg pointer).chunks pointer with
          hasBeenAcked := true } := by
  rw [removeMsg_chunks]
  unfold removeMsg
  rw [chunks_setChunk]
  unfold setChunk
  dsimp only
  split_ifs <;> rfl

theorem find_isSome (member : entry ∈ queue) (key : entry.1 = tsn.toNat) :
    (queue.find tsn).isSome = true := by
  rw [SCTPQueue.find, isSome_map, find?_isSome]
  exact ⟨entry, member, by simpa using key⟩

theorem removeMsg_retransmissionQ (assoc : SCTPAssociation) (pointer : Pointer) :
    (assoc.removeMsg pointer).retransmissionQ = assoc.retransmissionQ := by
  dsimp only [removeMsg]
  split_ifs <;> rfl

variable {steps : Nat} {tsna : Tsn}

namespace Sound

variable {exact : Prop} {assoc : SCTPAssociation}
variable {entry : Nat × Pointer}

section

variable (sound : Sound exact assoc) (member : entry ∈ assoc.retransmissionQ)
include sound member

theorem mark (tsn : chunk.tsn = (assoc.chunks entry.2).tsn)
    (flags :
      chunk.hasBeenAcked = true → chunk.countsAsOutstanding = false ∧ chunk.hasBeenRemoved = false)
    (waiting :
      entry ∈ assoc.transmissionQ →
        (chunk.countsAsOutstanding = false ∧ chunk.hasBeenAcked = false) ∧
          (∀ path, roomFor path chunk = roomFor path (assoc.chunks entry.2)) ∧
          ∀ path, bookedFor path chunk = bookedFor path (assoc.chunks entry.2))
    (outstanding : ∀ path, outstandingOn path chunk = outstandingOn path (assoc.chunks entry.2)) :
    Sound exact (assoc.setChunk entry.2 chunk) :=
  sound.touch member assoc.outstandingBytes tsn flags waiting fun path => by rw [outstanding]

theorem discount : Sound exact (assoc.discount entry.2) := by
  dsimp only [SCTPAssociation.discount]
  split_ifs with counts
  · have notAcked : (assoc.chunks entry.2).hasBeenAcked ≠ true := by
      intro acked
      have quiet := (sound.acked _ member acked).1
      rw [counts] at quiet
      cases quiet
    refine sound.touch member _ rfl (fun acked => absurd acked notAcked) ?_ ?_
    · intro waiting
      have quiet := (sound.waits _ waiting).1
      rw [counts] at quiet
      cases quiet
    · intro path
      unfold outstandingOn
      by_cases same : (assoc.chunks entry.2).lastDestination = path
      · subst same
        rw [update_self, if_pos ⟨counts, rfl⟩, if_neg (by simp),
          ofNat_toNat, setWidth_eq, BitVec.sub_add_cancel]
        exact (BitVec.add_zero _).symm
      · rw [update_of_ne (Ne.symm same), if_neg fun both => same both.2, if_neg (by simp)]
  · exact sound

theorem absent_of_key (named : (assoc.chunks entry.2).tsn = tsn)
    (absent : assoc.transmissionQ.find tsn = none) : entry ∉ assoc.transmissionQ := by
  intro there
  refine find_eq_none absent _ there ?_
  rw [sound.keys _ member, named]

theorem removeMsg :
    Sound exact (assoc.removeMsg entry.2) ∧
      (assoc.removeMsg entry.2).transmissionQ.find (assoc.chunks entry.2).tsn = none := by
  have key := sound.keys _ member
  dsimp only [SCTPAssociation.removeMsg]
  split_ifs with present
  · rcases isSome_iff_exists.mp present with ⟨_, found⟩
    rcases map_eq_some_iff.mp found with ⟨other, first, rfl⟩
    have named : other.1 = (assoc.chunks entry.2).tsn.toNat := by simpa using find?_some first
    have there := mem_of_find?_eq_some first
    have only : other = entry :=
      sound.sorted.eq_of_key_eq (sound.within _ there) member (named.trans key.symm)
    have same : entry = ((assoc.chunks entry.2).tsn.toNat, entry.2) := Prod.ext key rfl
    rw [only, same] at there
    rcases erase_perm there sound.sortedAgain with ⟨perm, different⟩
    refine ⟨?_, ?_⟩
    · rw [← same] at perm
      exact sound.unqueue perm eraseP_sublist
    · rw [SCTPQueue.find, map_eq_none_iff, find?_eq_none]
      intro left rest
      simpa using different left rest
  · exact ⟨sound, by simpa using present⟩

end

/-! ## Acknowledgements -/

section

variable (sound : Sound exact assoc)
include sound

theorem unack (member : entry ∈ assoc.retransmissionQ) : Sound exact (assoc.unack entry.2) := by
  refine sound.mark member rfl (fun acked => by cases acked) ?_ fun _ => rfl
  intro waiting
  exact ⟨⟨(sound.waits _ waiting).1, rfl⟩, fun _ => rfl, fun _ => rfl⟩

theorem renege (member : entry ∈ assoc.retransmissionQ)
    (notAcked : (assoc.chunks entry.2).hasBeenAcked = false) :
    Sound exact (assoc.renege entry.2) := by
  refine sound.mark member rfl ?_ ?_ fun _ => rfl
  · intro acked
    exact absurd (notAcked.symm.trans acked) (by simp)
  · intro waiting
    exact ⟨sound.waits _ waiting, fun _ => rfl, fun _ => rfl⟩

theorem remark (member : entry ∈ assoc.retransmissionQ) (gapReports : BitVec 32)
    (hasBeenFastRetransmitted : Bool) :
    Sound exact
      (assoc.setChunk entry.2
        { assoc.chunks entry.2 with
          gapReports
          hasBeenFastRetransmitted }) :=
  sound.mark member rfl (sound.acked _ member)
    (fun waiting => ⟨sound.waits _ waiting, fun _ => rfl, fun _ => rfl⟩) fun _ => rfl

theorem acknowledge (member : (tsn.toNat, pointer) ∈ assoc.retransmissionQ)
    (absent : assoc.transmissionQ.find tsn = none) :
    Sound exact
      ({ assoc with
        retransmissionQ := assoc.retransmissionQ.erase tsn }.acknowledge pointer) := by
  dsimp only [SCTPAssociation.acknowledge]
  split_ifs with outstanding
  · have counts : (assoc.chunks pointer).countsAsOutstanding = true :=
      (Bool.and_eq_true_iff.mp outstanding).2
    rw [SCTPAssociation.discount, chunks_setChunk, if_pos counts]
    dsimp only [setChunk]
    rw [update_idem]
    refine sound.extract member absent _ ?_ _ ?_
    · intro _ different
      exact update_of_ne different _ _
    · intro path
      unfold outstandingOn
      by_cases same : (assoc.chunks pointer).lastDestination = path
      · subst same
        rw [update_self, if_pos ⟨counts, rfl⟩, ofNat_toNat, setWidth_eq, BitVec.sub_add_cancel]
      · rw [update_of_ne (Ne.symm same), if_neg fun both => same both.2]
        exact BitVec.add_zero _
  · refine sound.extract member absent _ (fun _ _ => rfl) _ ?_
    have quiet : (assoc.chunks pointer).countsAsOutstanding = false := by
      by_contra counts
      have acked : (assoc.chunks pointer).hasBeenAcked = true := by
        simpa [counts] using outstanding
      exact counts (sound.acked _ member acked).1
    intro _
    rw [outstandingOn, quiet, if_neg (by simp)]
    exact BitVec.add_zero _

theorem dequeueAckedFrom
    (dequeued : dequeueAckedFrom tsna steps assoc = some next) : Sound exact next := by
  induction steps generalizing assoc with
  | zero =>
    cases dequeued
    exact sound
  | succ _ hypothesis =>
    unfold SCTPAssociation.dequeueAckedFrom at dequeued
    split at dequeued
    · cases dequeued
      exact sound
    · case _ first rest queue =>
        dsimp only at dequeued
        split at dequeued
        · have member : first ∈ assoc.retransmissionQ := by
            rw [queue]
            exact mem_cons_self
          rcases sound.removeMsg member with ⟨removed, absent⟩
          split at dequeued
          · cases dequeued
          · case _ pointer found =>
              have there := (removed.find_some found).1
              exact hypothesis (removed.acknowledge there absent) dequeued
        · cases dequeued
          exact sound

theorem renegeAbove (reneged : renegeAbove tsna i assoc = some next) : Sound exact next := by
  unfold SCTPAssociation.renegeAbove at reneged
  split at reneged
  · cases reneged
    exact sound
  · case _ pointer found =>
      have member := (sound.find_some found).1
      have unacked := sound.unack member
      have renegeAt : ∀ highest,
          Sound exact
            ({ assoc.unack pointer with
              highestTsnAcked := highest }.renege pointer) := by
        intro highest
        have same : Sound exact { assoc.unack pointer with highestTsnAcked := highest } :=
          unacked.aside (fun _ _ => rfl) rfl rfl le_rfl rfl rfl rfl
        refine same.renege member ?_
        exact congrArg SCTPDataVariables.hasBeenAcked (chunks_setChunk _ _ _)
      dsimp only at reneged
      split at reneged
      · split at reneged
        · cases reneged
          exact unacked
        · split at reneged
          · rcases map_eq_some_iff.mp reneged with ⟨_, -, rfl⟩
            exact renegeAt _
          · cases reneged
            exact renegeAt _
      · cases reneged
        exact sound

/-- A chunk that was acknowledged is not outstanding and not acknowledged. -/
theorem unackDiscount (member : entry ∈ assoc.retransmissionQ) :
    Sound exact ((assoc.unack entry.2).discount entry.2) ∧
      (((assoc.unack entry.2).discount entry.2).chunks entry.2).hasBeenAcked = false := by
  refine ⟨(sound.unack member).discount member, ?_⟩
  rw [discount_chunks]
  exact congrArg SCTPDataVariables.hasBeenAcked (chunks_setChunk _ entry.2 _)

theorem renegeBehind (reneged : renegeBehind i assoc = some next) : Sound exact next := by
  unfold SCTPAssociation.renegeBehind at reneged
  split at reneged
  · cases reneged
    exact sound
  · case _ pointer found =>
      have member := (sound.find_some found).1
      rcases sound.unackDiscount member with ⟨unacked, notAcked⟩
      have there : (i.toNat, pointer) ∈
          ((assoc.unack pointer).discount pointer).retransmissionQ := by
        rwa [discount_retransmissionQ]
      split at reneged
      · cases reneged
        have renegeAt : ∀ highest,
            Sound exact
              ({ (assoc.unack pointer).discount pointer with
                highestTsnAcked := highest }.renege pointer) := by
          intro highest
          have same : Sound exact
              { (assoc.unack pointer).discount pointer with
                highestTsnAcked := highest } :=
            unacked.aside (fun _ _ => rfl) rfl rfl le_rfl rfl rfl rfl
          exact same.renege there notAcked
        split
        · exact unacked.renege there notAcked
        · exact renegeAt _
      · cases reneged
        exact sound

end

theorem gapAck {next : SCTPAssociation × Tsn} (sound : Sound exact current.1)
    (acked : gapAck pos current = some next) : Sound exact next.1 := by
  dsimp only [SCTPAssociation.gapAck] at acked
  split at acked
  · cases acked
    exact sound
  · case _ pointer found =>
      have member := (sound.find_some found).1
      split at acked
      · case _ news =>
          cases acked
          have discounted := sound.discount member
          have there : (pos.toNat, pointer) ∈ (current.1.discount pointer).retransmissionQ := by
            rwa [discount_retransmissionQ]
          rcases discounted.removeMsg there with ⟨removed, absent⟩
          rw [discount_ack, removeMsg_ack, setChunk_setChunk, chunks_setChunk]
          have still : (pos.toNat, pointer) ∈
              ((current.1.discount pointer).removeMsg pointer).retransmissionQ := by
            rwa [removeMsg_retransmissionQ]
          have flags :
              (((current.1.discount pointer).removeMsg pointer).chunks
                  pointer).countsAsOutstanding = false ∧
                (((current.1.discount pointer).removeMsg pointer).chunks
                  pointer).hasBeenRemoved = false := by
            rw [removeMsg_chunks, discount_chunks]
            simpa using (Bool.and_eq_true_iff.mp news).2
          refine removed.mark still rfl (fun _ => flags) ?_ ?_
          · intro waiting
            refine absurd waiting (removed.absent_of_key still ?_ absent)
            rw [removeMsg_chunks]
          · exact fun _ => rfl
      · cases acked
        exact sound

theorem fastRetransmit (sound : Sound exact assoc) (member : entry ∈ assoc.retransmissionQ)
    (notAcked : (assoc.chunks entry.2).hasBeenAcked = false)
    (scheduled : fastRetransmit assoc entry.2 = some next) : Sound exact next := by
  dsimp only [SCTPAssociation.fastRetransmit] at scheduled
  split at scheduled
  · cases scheduled
    exact sound
  · case _ missing =>
      rcases map_eq_some_iff.mp scheduled with ⟨pid, -, rfl⟩
      have absent : assoc.transmissionQ.find (assoc.chunks entry.2).tsn = none := by
        simpa using missing
      have outside := sound.absent_of_key member rfl absent
      have named : Sound exact
          (assoc.setChunk entry.2
            { assoc.chunks entry.2 with
              hasBeenFastRetransmitted := true
              nextDestination := pid }) :=
        sound.mark member rfl (sound.acked _ member)
          (fun waiting => absurd waiting outside) fun _ => rfl
      have quiet := named.discount member
      have chunk := discount_chunks
        (assoc.setChunk entry.2
          { assoc.chunks entry.2 with
            hasBeenFastRetransmitted := true
            nextDestination := pid }) entry.2
      rw [chunks_setChunk] at chunk
      have key :
          ((assoc.chunks entry.2).tsn.toNat, entry.2) ∈
            ((assoc.setChunk entry.2
              { assoc.chunks entry.2 with
                hasBeenFastRetransmitted := true
                nextDestination := pid }).discount entry.2).retransmissionQ := by
        rwa [discount_retransmissionQ, ← sound.keys _ member]
      refine quiet.enqueue key ?_ ?_ _ ?_
      · rwa [discount_transmissionQ]
      · rw [chunk]
        exact ⟨rfl, notAcked⟩
      · intro _ _
        exact addRoom_bookedTransQ _ _ _

theorem betweenGaps (sound : Sound exact assoc)
    (looked : betweenGaps hiAcked i assoc = some next) : Sound exact next := by
  unfold SCTPAssociation.betweenGaps at looked
  split at looked
  · cases looked
    exact sound
  · case _ pointer found =>
      have member := (sound.find_some found).1
      dsimp only at looked
      split at looked
      · cases looked
        rcases sound.unackDiscount member with ⟨unacked, notAcked⟩
        have there : (i.toNat, pointer) ∈
            ((assoc.unack pointer).discount pointer).retransmissionQ := by
          rwa [discount_retransmissionQ]
        exact unacked.renege there notAcked
      · case _ notAcked =>
          split at looked
          · have reported := sound.remark member ((assoc.chunks pointer).gapReports + 1)
              (assoc.chunks pointer).hasBeenFastRetransmitted
            split at looked
            · refine reported.fastRetransmit member ?_ looked
              simpa using notAcked
            · cases looked
              exact reported
          · cases looked
            exact sound.remark member (assoc.chunks _).gapReports _

theorem unackTsn (sound : Sound exact assoc)
    (unacked : unackTsn i assoc = some next) : Sound exact next := by
  unfold SCTPAssociation.unackTsn at unacked
  split at unacked
  · cases unacked
    exact sound
  · case _ pointer found =>
      cases unacked
      exact sound.unack (sound.find_some found).1

end Sound

theorem walk_keeps (kept : State → Prop)
    (keeps : ∀ tsn state next, kept state → body tsn state = some next → kept next)
    {next : State} (before : kept state)
    (walked : walk goesOn following body steps tsn state = some next) : kept next := by
  induction steps generalizing tsn state with
  | zero => cases walked
  | succ _ hypothesis =>
    rw [walk] at walked
    split at walked
    · rcases bind_eq_some_iff.mp walked with ⟨_, one, rest⟩
      exact hypothesis (keeps _ _ _ before one) rest
    · cases walked
      exact before

theorem foldlM_keeps {State Item : Type} (kept : State → Prop) {body : State → Item → Option State}
    (keeps : ∀ item state next, kept state → body state item = some next → kept next)
    {items : List Item} {state next : State} (before : kept state)
    (folded : items.foldlM body state = some next) : kept next := by
  induction items generalizing state with
  | nil =>
    cases folded
    exact before
  | cons _ _ hypothesis =>
    rcases bind_eq_some_iff.mp folded with ⟨_, one, later⟩
    exact hypothesis (keeps _ _ _ before one) later

namespace Sound

variable {exact : Prop} {assoc : SCTPAssociation}

theorem gapAcks {steps : Nat} {gaps : List (Tsn × Tsn)}
    {current next : SCTPAssociation × Tsn} (sound : Sound exact current.1)
    (acked : gapAcks steps gaps current = some next) : Sound exact next.1 :=
  foldlM_keeps (fun current => Sound _ current.1)
    (fun _ _ _ before walked =>
      walk_keeps (fun current => Sound _ current.1)
        (fun _ _ _ still one => still.gapAck one) before walked)
    sound acked

theorem betweenAll {steps : Nat} {hiAcked : Tsn} {gaps : List (Tsn × Tsn)}
    {current next : SCTPAssociation × Tsn} (sound : Sound exact current.1)
    (looked : betweenAll steps hiAcked gaps current = some next) : Sound exact next.1 := by
  refine foldlM_keeps (fun current => Sound _ current.1) ?_ sound looked
  intro _ _ _ before walked
  rcases map_eq_some_iff.mp walked with ⟨_, found, rfl⟩
  exact walk_keeps _ (fun _ _ _ still one => still.betweenGaps one) before found

section

variable (sound : Sound exact assoc)
include sound

theorem withoutGaps (reneged : assoc.withoutGaps steps tsna = some next) : Sound exact next := by
  unfold SCTPAssociation.withoutGaps at reneged
  split at reneged
  · exact walk_keeps _ (fun _ _ _ still one => still.renegeAbove one) sound reneged
  · cases reneged
    exact sound

theorem renegeAll (reneged : assoc.renegeAll steps stop = some next) : Sound exact next := by
  unfold SCTPAssociation.renegeAll at reneged
  split at reneged
  · exact walk_keeps _ (fun _ _ _ still one => still.renegeBehind one) sound reneged
  · cases reneged
    exact sound

theorem unackAll (unacked : assoc.unackAll steps stop = some next) : Sound exact next := by
  have highest : Sound exact { assoc with highestTsnAcked := stop } :=
    sound.aside (fun _ _ => rfl) rfl rfl le_rfl rfl rfl rfl
  unfold SCTPAssociation.unackAll at unacked
  split at unacked
  · exact walk_keeps _ (fun _ _ _ still one => still.unackTsn one) highest unacked
  · cases unacked
    exact highest

theorem withGaps
    (reported : assoc.withGaps steps tsna gaps stop = some next) : Sound exact next := by
  rcases bind_eq_some_iff.mp reported with ⟨reneged, first, reported⟩
  rcases bind_eq_some_iff.mp reported with ⟨acked, second, reported⟩
  rcases bind_eq_some_iff.mp reported with ⟨between, third, last⟩
  have afterAcks : Sound exact acked.1 :=
    @gapAcks _ _ _ (reneged, tsna) _ (sound.renegeAll first) second
  have afterGaps : Sound exact between.1 :=
    @betweenAll _ _ acked.2 _ (acked.1, tsna) _ afterAcks third
  exact afterGaps.unackAll last

theorem cumulativeAck (acked : assoc.cumulativeAck tsna = some next) : Sound exact next := by
  rcases map_eq_some_iff.mp acked with ⟨_, done, rfl⟩
  exact (sound.dequeueAckedFrom done).aside (fun _ _ => rfl) rfl rfl le_rfl rfl rfl rfl

theorem reportGaps
    (reported : reportGaps steps sackChunk assoc = some next) : Sound exact next := by
  unfold SCTPAssociation.reportGaps at reported
  split at reported
  · exact sound.withoutGaps reported
  · split at reported
    · cases reported
      exact sound
    · exact sound.withGaps reported

theorem processSackArrived
    (processed : assoc.processSackArrived steps sackChunk = some next) : Sound exact next := by
  dsimp only [SCTPAssociation.processSackArrived] at processed
  split at processed
  · rcases bind_eq_some_iff.mp processed with ⟨_, first, rest⟩
    exact (sound.cumulativeAck first).reportGaps rest
  · split at processed
    · cases processed
      exact sound
    · exact sound.reportGaps processed

theorem processShutdownArrived
    (processed : assoc.processShutdownArrived cumTsnAck = some next) : Sound exact next := by
  unfold SCTPAssociation.processShutdownArrived at processed
  split at processed
  · exact sound.cumulativeAck processed
  · cases processed
    exact sound

end

end Sound

/-! ## Sending -/

/-- The chunk as it is when it has been added to a packet. -/
def added (chunk : SCTPDataVariables) (newDpi : IPvXAddress) : SCTPDataVariables :=
  { chunk with
    countsAsOutstanding := true
    hasBeenRemoved := false
    numberOfTransmissions := chunk.numberOfTransmissions + 1
    gapReports := 0
    hasBeenFastRetransmitted := false
    lastDestination := newDpi }

theorem addChunk_stored (assoc : SCTPAssociation) (pointer : Pointer)
    (newDpi : IPvXAddress) (numbered : (assoc.chunks pointer).tsn ≠ 0)
    (stored : (assoc.retransmissionQ.find (assoc.chunks pointer).tsn).isSome = true) :
    assoc.addChunk pointer newDpi =
      assoc.setChunk pointer (added (assoc.chunks pointer) newDpi) := by
  unfold addChunk assignTsn
  dsimp only
  rw [if_neg numbered, chunks_setChunk]
  split
  · unfold storeFirst
    rw [chunks_setChunk, if_pos (by exact stored), setChunk_setChunk, chunks_setChunk,
      setChunk_setChunk]
    rfl
  · rw [chunks_setChunk, setChunk_setChunk]
    rfl

theorem addChunk_refused (assoc : SCTPAssociation) (pointer : Pointer)
    (newDpi : IPvXAddress) (unnumbered : (assoc.chunks pointer).tsn = 0)
    (first : (assoc.chunks pointer).numberOfTransmissions = 0)
    (present : (assoc.retransmissionQ.find assoc.nextTSN).isSome = true) :
    assoc.addChunk pointer newDpi =
      { assoc.setChunk pointer
          (added { assoc.chunks pointer with tsn := assoc.nextTSN } newDpi) with
        nextTSN := assoc.nextTSN + 1 } := by
  rw [addChunk, assignTsn, if_pos unnumbered]
  simp only [storeFirst, setChunk, update_self, update_idem, first, if_true, present]
  rfl

theorem addChunk_new (assoc : SCTPAssociation) (pointer : Pointer)
    (newDpi : IPvXAddress) (unnumbered : (assoc.chunks pointer).tsn = 0)
    (first : (assoc.chunks pointer).numberOfTransmissions = 0)
    (absent : assoc.retransmissionQ.find assoc.nextTSN = none) :
    assoc.addChunk pointer newDpi =
      { assoc.setChunk pointer
          (added { assoc.chunks pointer with tsn := assoc.nextTSN, hasBeenAcked := false }
            newDpi) with
        nextTSN := assoc.nextTSN + 1
        retransmissionQ := insertNew assoc.nextTSN.toNat pointer assoc.retransmissionQ
        outstandingBytes :=
          update assoc.outstandingBytes newDpi
            (assoc.outstandingBytes newDpi + (assoc.chunks pointer).booksize) } := by
  rw [addChunk, assignTsn, if_pos unnumbered]
  simp only [storeFirst, setChunk, update_self, update_idem, first, if_true, absent, isSome_none,
    Bool.false_eq_true, if_false]
  rfl

/-- What `getOutboundDataChunk` takes out of the queue. -/
structure Outbound (assoc without : SCTPAssociation) (pid : IPvXAddress)
    (entry : Nat × Pointer) : Prop where
  member : entry ∈ assoc.transmissionQ
  nextDestination : (assoc.chunks entry.2).nextDestination = pid
  taken :
    without =
      subtractRoom
        { assoc with transmissionQ := assoc.transmissionQ.eraseP fun other => other.1 = entry.1 }
        (assoc.chunks entry.2)

variable {assoc without : SCTPAssociation} {bytes : Int}

theorem getOutboundDataChunk_some
    (got : assoc.getOutboundDataChunk pid bytes = some (without, some pointer)) :
    ∃ entry, entry.2 = pointer ∧ Outbound assoc without pid entry := by
  unfold getOutboundDataChunk at got
  split at got
  · cases got
  · case _ entry found =>
      dsimp only at got
      split at got
      · cases got
      · cases got
        have fits := find?_some found
        refine ⟨entry, rfl, mem_of_find?_eq_some found, ?_, rfl⟩
        simpa using (Bool.and_eq_true_iff.mp fits).1

theorem getOutboundDataChunk_none
    (got : assoc.getOutboundDataChunk pid bytes = some (without, none)) : without = assoc := by
  unfold getOutboundDataChunk at got
  split at got
  · cases got
    rfl
  · dsimp only at got
    split at got
    all_goals cases got

namespace Sound

variable {exact : Prop} {assoc without : SCTPAssociation}
variable {pid newDpi : IPvXAddress} {entry : Nat × Pointer}

theorem outbound (sound : Sound exact assoc) (outbound : Outbound assoc without pid entry) :
    Sound exact without ∧ entry ∈ without.retransmissionQ ∧ entry ∉ without.transmissionQ ∧
      without.transmissionQ.Sublist assoc.transmissionQ := by
  have there := sound.within _ outbound.member
  have key := sound.keys _ there
  have same : entry = ((assoc.chunks entry.2).tsn.toNat, entry.2) := Prod.ext key rfl
  have member := outbound.member
  rw [same] at member
  rcases erase_perm member sound.sortedAgain with ⟨perm, different⟩
  unfold SCTPQueue.erase at perm different
  rw [← same, ← key] at perm
  rw [← key] at different
  rw [outbound.taken]
  refine ⟨sound.unqueue perm eraseP_sublist, there, ?_, eraseP_sublist⟩
  intro still
  exact different _ still rfl

theorem resend (sound : Sound exact assoc) (member : entry ∈ assoc.retransmissionQ)
    (outside : entry ∉ assoc.transmissionQ)
    (quiet : (assoc.chunks entry.2).countsAsOutstanding = false)
    (notAcked : (assoc.chunks entry.2).hasBeenAcked = false) (numbered : entry.1 ≠ 0)
    (path : (assoc.chunks entry.2).nextDestination = newDpi) :
    Sound exact ((assoc.countAgain entry.2).addChunk entry.2 newDpi) ∧
      ((assoc.countAgain entry.2).addChunk entry.2 newDpi).transmissionQ = assoc.transmissionQ ∧
      ∀ other, other ≠ entry.2 →
        ((assoc.countAgain entry.2).addChunk entry.2 newDpi).chunks other = assoc.chunks other := by
  have key := sound.keys _ member
  have tsn : (assoc.chunks entry.2).tsn ≠ 0 := by
    intro zero
    rw [zero] at key
    exact numbered key
  have again :
      (assoc.countAgain entry.2).chunks entry.2 =
        { assoc.chunks entry.2 with
          numberOfRetransmissions := (assoc.chunks entry.2).numberOfRetransmissions + 1
          countsAsOutstanding := true
          hasBeenRemoved := false } :=
    chunks_setChunk _ entry.2 _
  rw [addChunk_stored _ entry.2 _
    (by rw [again]; exact tsn) (by rw [again]; exact find_isSome member key), again]
  refine ⟨?_, rfl, ?_⟩
  · unfold countAgain setChunk
    rw [update_idem]
    refine sound.touch member _ rfl (fun acked => absurd (notAcked.symm.trans acked) (by simp))
      (fun waiting => absurd waiting outside) ?_
    intro other
    dsimp only [outstandingOn, added]
    rw [quiet, path]
    simp only [Bool.false_eq_true, false_and, if_false, true_and]
    by_cases same : newDpi = other
    · subst same
      rw [update_self, if_pos rfl, ofNat_toNat, setWidth_eq]
      exact BitVec.add_zero _
    · rw [update_of_ne (Ne.symm same), if_neg same]
  · intro _ different
    unfold countAgain setChunk
    rw [update_idem]
    exact update_of_ne different _ _

theorem sendNew (sound : Sound exact assoc) (datMsg : SCTPDataMsg) (newDpi : IPvXAddress) :
    Sound exact ((assoc.makeChunk datMsg).addChunk assoc.unused newDpi) ∧
      ((assoc.makeChunk datMsg).addChunk assoc.unused newDpi).transmissionQ = assoc.transmissionQ ∧
      ((assoc.makeChunk datMsg).addChunk assoc.unused newDpi).roomTransQ = assoc.roomTransQ ∧
      ∀ other, other ≠ assoc.unused →
        ((assoc.makeChunk datMsg).addChunk assoc.unused newDpi).chunks other =
          assoc.chunks other := by
  have made :
      (assoc.makeChunk datMsg).chunks assoc.unused =
        { len := ofNat 16 datMsg.bitLength
          booksize := datMsg.booksize
          initialDestination := assoc.primaryPathIndex } :=
    chunks_setChunk _ assoc.unused _
  cases present : assoc.retransmissionQ.find assoc.nextTSN with
  | some pointer =>
    rw [addChunk_refused (assoc.makeChunk _) assoc.unused _
      (by rw [made]) (by rw [made]) (isSome_iff_exists.mpr ⟨pointer, present⟩)]
    dsimp only [makeChunk, setChunk]
    rw [update_idem]
    refine ⟨sound.aside ?_ rfl rfl (Nat.le_succ _) rfl rfl rfl, rfl, rfl,
      fun other different => update_of_ne different _ _⟩
    intro _ there
    exact update_of_ne (sound.used _ there).ne _ _
  | none =>
    rw [addChunk_new (assoc.makeChunk _) assoc.unused _ (by rw [made]) (by rw [made]) present, made]
    dsimp only [makeChunk, setChunk]
    rw [update_idem]
    refine ⟨?_, rfl, rfl, fun other different => update_of_ne different _ _⟩
    have stored := @Sound.insertFresh _ _
      (added
        { tsn := assoc.nextTSN
          len := ofNat 16 datMsg.bitLength
          booksize := datMsg.booksize
          initialDestination := assoc.primaryPathIndex }
        newDpi)
      sound present rfl rfl
    exact stored.aside (fun _ _ => rfl) rfl rfl le_rfl rfl rfl rfl

end Sound

/-! ### Rounds of sendAll -/

/--
No chunk has to be numbered again, and the chunks that will be taken are said
to be sent to where they are sent.
-/
structure Clear (assoc : SCTPAssociation) (dpi newDpi : IPvXAddress) : Prop where
  numbered : ∀ entry ∈ assoc.transmissionQ, entry.1 ≠ 0
  same : dpi = newDpi ∨ ∀ entry ∈ assoc.transmissionQ, (assoc.chunks entry.2).nextDestination ≠ dpi

theorem Clear.fewer {dpi newDpi : IPvXAddress} (clear : Clear assoc dpi newDpi)
    (part : ∀ entry ∈ next.transmissionQ, entry ∈ assoc.transmissionQ)
    (chunks : ∀ entry ∈ next.transmissionQ, next.chunks entry.2 = assoc.chunks entry.2) :
    Clear next dpi newDpi where
  numbered entry member := clear.numbered entry (part entry member)
  same := by
    refine clear.same.imp_right fun others entry member => ?_
    rw [chunks _ member]
    exact others _ (part _ member)

/-- What the rounds of a call of `sendAll` keep. -/
structure Rounds (exact : Prop) (pd dpi newDpi : IPvXAddress)
    (current : SCTPAssociation × IPvXAddress) : Prop where
  sound : Sound exact current.1
  path : current.2 = dpi
  clear : current.1.roomTransQ pd = 0 ∨ Clear current.1 dpi newDpi

theorem dequeueOutboundDataMsg_some {datMsg : SCTPDataMsg}
    (dequeued : assoc.dequeueOutboundDataMsg nextStream bytes = some (datMsg, without)) :
    ∃ stream,
      without =
        { assoc with
          sendStreams := update assoc.sendStreams nextStream stream } := by
  dsimp only [dequeueOutboundDataMsg] at dequeued
  split at dequeued
  · cases dequeued
    exact ⟨_, rfl⟩
  · split at dequeued
    · cases dequeued
      exact ⟨_, rfl⟩
    · cases dequeued
  · cases dequeued

variable {exact : Prop}

theorem Rounds.sendRound {round : Round} {pd dpi newDpi : IPvXAddress}
    {next : SCTPAssociation × IPvXAddress} (rounds : Rounds exact pd dpi newDpi current)
    (sent : sendRound pd newDpi current round = some next) : Rounds exact pd dpi newDpi next := by
  rcases current with ⟨assoc, path⟩
  have sound := rounds.sound
  have here : path = dpi := rounds.path
  subst here
  unfold SCTPAssociation.sendRound at sent
  dsimp only at sound sent
  split at sent
  · case _ waiting =>
      have clear : Clear assoc path newDpi := by
        refine rounds.clear.resolve_left ?_
        intro zero
        rw [zero] at waiting
        exact absurd waiting (by decide)
      split at sent
      · cases sent
      · case _ without pointer got =>
          cases sent
          rcases getOutboundDataChunk_some got with ⟨entry, rfl, out⟩
          rcases sound.outbound out with ⟨still, there, outside, part⟩
          have chunks : without.chunks = assoc.chunks := by
            rw [out.taken]
            rfl
          have quiet := sound.waits _ out.member
          have same : path = newDpi := by
            refine clear.same.resolve_right fun others => ?_
            exact others _ out.member out.nextDestination
          have destination : (without.chunks entry.2).nextDestination = newDpi := by
            rwa [chunks, out.nextDestination]
          rcases still.resend there outside (by rw [chunks]; exact quiet.1)
            (by rw [chunks]; exact quiet.2)
            (clear.numbered _ out.member) destination with ⟨sent, queue, others⟩
          refine ⟨sent, rfl, .inr (clear.fewer ?_ ?_)⟩
          · intro _ member
            rw [queue] at member
            exact part.subset member
          · intro other member
            rw [queue] at member
            have different : other.2 ≠ entry.2 := by
              intro equal
              have only := sound.entry_eq (sound.within _ (part.subset member))
                (sound.within _ out.member) equal
              exact outside (only ▸ member)
            rw [others _ different, chunks]
      · case _ without got =>
          cases sent
          rw [getOutboundDataChunk_none got]
          exact ⟨sound, rfl, .inr clear⟩
  · split at sent
    · case _ primary =>
        split at sent
        · cases sent
          exact rounds
        · case _ datMsg without dequeued =>
            cases sent
            rcases bind_eq_some_iff.mp dequeued with ⟨nextStream, -, dequeued⟩
            rcases dequeueOutboundDataMsg_some dequeued with ⟨stream, rfl⟩
            have popped : Sound exact
                { assoc with
                  sendStreams := update assoc.sendStreams nextStream stream } :=
              sound.aside (fun _ _ => rfl) rfl rfl le_rfl rfl rfl rfl
            rcases popped.sendNew datMsg newDpi with ⟨sent, queue, room, others⟩
            refine ⟨sent, primary.symm, ?_⟩
            refine rounds.clear.imp (fun zero => ?_) fun clear => ?_
            · exact (congrFun room pd).trans zero
            · refine clear.fewer ?_ ?_
              · intro _ member
                rwa [queue] at member
              · intro entry member
                rw [queue] at member
                exact others _ (sound.used entry (sound.within entry member)).ne
    · cases sent
      exact rounds

theorem Rounds.all {pd dpi newDpi : IPvXAddress}
    {rounds : List Round} {next : SCTPAssociation × IPvXAddress}
    (before : Rounds exact pd dpi newDpi current)
    (sent : rounds.foldlM (SCTPAssociation.sendRound pd newDpi) current = some next) :
    Rounds exact pd dpi newDpi next :=
  foldlM_keeps _ (fun _ _ _ still one => still.sendRound one) before sent

/-! ## Timeouts -/

/-- What a timeout may find in the queues. -/
structure Requeues (exact : Prop) (assoc : SCTPAssociation)
    (path : IPvXAddress) (entry : Nat × Pointer) : Prop where
  /-- A chunk that is queued already keeps its next destination. -/
  again :
    timedOut path (assoc.chunks entry.2) = true →
      entry ∈ assoc.transmissionQ →
        ∀ nextDestination,
          assoc.getNextDestination (assoc.chunks entry.2).again = some nextDestination →
            nextDestination = (assoc.chunks entry.2).nextDestination
  /-- A chunk that is not has nothing to book twice. -/
  once :
    exact →
      timedOut path (assoc.chunks entry.2) = true →
        entry ∉ assoc.transmissionQ → (assoc.chunks entry.2).booksize = 0

/-- What the body of the loop does to the other chunks. -/
structure Frame (assoc next : SCTPAssociation) (entry : Nat × Pointer) : Prop where
  retransmissionQ : next.retransmissionQ = assoc.retransmissionQ
  chunks : ∀ other, other ≠ entry.2 → next.chunks other = assoc.chunks other
  queued : ∀ other, other ≠ entry → (other ∈ next.transmissionQ ↔ other ∈ assoc.transmissionQ)
  sctpPathMap : next.sctpPathMap = assoc.sctpPathMap
  primaryPathIndex : next.primaryPathIndex = assoc.primaryPathIndex

theorem Frame.refl (assoc : SCTPAssociation) (entry : Nat × Pointer) : Frame assoc assoc entry where
  retransmissionQ := rfl
  chunks _ _ := rfl
  queued _ _ := Iff.rfl
  sctpPathMap := rfl
  primaryPathIndex := rfl

theorem Frame.trans (first : Frame assoc middle entry)
    (second : Frame middle next entry) : Frame assoc next entry where
  retransmissionQ := second.retransmissionQ.trans first.retransmissionQ
  chunks other different := (second.chunks other different).trans (first.chunks other different)
  queued other different := (second.queued other different).trans (first.queued other different)
  sctpPathMap := second.sctpPathMap.trans first.sctpPathMap
  primaryPathIndex := second.primaryPathIndex.trans first.primaryPathIndex

theorem getNextDestination_congr (sctpPathMap : next.sctpPathMap = assoc.sctpPathMap)
    (primaryPathIndex : next.primaryPathIndex = assoc.primaryPathIndex) (chk : SCTPDataVariables) :
    next.getNextDestination chk = assoc.getNextDestination chk := by
  unfold getNextDestination nextPath
  rw [sctpPathMap, primaryPathIndex]

theorem Requeues.frame {path : IPvXAddress} (requeues : Requeues exact assoc path other)
    (frame : Frame assoc next entry) (different : other.2 ≠ entry.2) :
    Requeues exact next path other := by
  have chunk := frame.chunks other.2 different
  have queued := frame.queued _ fun same => different (congrArg Prod.snd same)
  refine ⟨?_, ?_⟩
  · rw [chunk, queued, getNextDestination_congr frame.sctpPathMap frame.primaryPathIndex]
    exact requeues.again
  · rw [chunk, queued]
    exact requeues.once

theorem discount_quiet (quiet : (assoc.chunks pointer).countsAsOutstanding = false) :
    assoc.discount pointer = assoc := by
  rw [discount, if_neg (by rw [quiet]; simp)]

theorem discount_addRoom (assoc : SCTPAssociation) (pointer : Pointer)
    (chunk : SCTPDataVariables) (queue : SCTPQueue) :
    (addRoom { assoc with transmissionQ := queue } chunk).discount pointer =
      addRoom { assoc.discount pointer with transmissionQ := queue } chunk := by
  by_cases counts : (assoc.chunks pointer).countsAsOutstanding = true
  · have first :
        assoc.discount pointer =
          { assoc.setChunk pointer
              { assoc.chunks pointer with countsAsOutstanding := false } with
            outstandingBytes :=
              update assoc.outstandingBytes (assoc.chunks pointer).lastDestination
                (assoc.outstandingBytes (assoc.chunks pointer).lastDestination -
                  (assoc.chunks pointer).booksize) } := by
      rw [discount, if_pos counts]
    rw [first, discount, addRoom, if_pos counts]
    rfl
  · have quiet : (assoc.chunks pointer).countsAsOutstanding = false := by simpa using counts
    rw [discount_quiet quiet]
    exact discount_quiet quiet

theorem requeued_eq (assoc : SCTPAssociation) (pointer : Pointer) (queue : SCTPQueue) :
    (addRoom { assoc with transmissionQ := queue } (assoc.chunks pointer)).bookTwice pointer =
      { addRoom
          { assoc.discount pointer with transmissionQ := queue }
          ((assoc.discount pointer).chunks pointer) with
        bookedTransQ :=
          update (addRoom assoc (assoc.chunks pointer)).bookedTransQ
            (assoc.chunks pointer).nextDestination
            ((addRoom assoc (assoc.chunks pointer)).bookedTransQ
                (assoc.chunks pointer).nextDestination +
              (assoc.chunks pointer).booksize) } := by
  have same :
      addRoom { assoc.discount pointer with transmissionQ := queue }
          ((assoc.discount pointer).chunks pointer) =
        addRoom { assoc.discount pointer with transmissionQ := queue } (assoc.chunks pointer) := by
    rw [discount_chunks]
    rfl
  have books : (assoc.discount pointer).bookedTransQ = assoc.bookedTransQ := by
    dsimp only [discount]
    split_ifs <;> rfl
  rw [bookTwice, discount_addRoom, same, discount_quiet]
  · unfold addRoom
    rw [books]
  · change ((assoc.discount pointer).chunks pointer).countsAsOutstanding = false
    rw [discount_chunks]

theorem discount_frame (assoc : SCTPAssociation) (pointer : Pointer) :
    (∀ other, other ≠ pointer → (assoc.discount pointer).chunks other = assoc.chunks other) ∧
      (assoc.discount pointer).sctpPathMap = assoc.sctpPathMap ∧
      (assoc.discount pointer).primaryPathIndex = assoc.primaryPathIndex := by
  dsimp only [discount]
  split_ifs
  · exact ⟨fun other different => update_of_ne different _ _, rfl, rfl⟩
  · exact ⟨fun _ _ => rfl, rfl, rfl⟩

namespace Sound

variable {exact : Prop} {assoc next : SCTPAssociation}
variable {path : IPvXAddress} {entry : Nat × Pointer}

theorem requeueNew (sound : Sound exact assoc) (member : entry ∈ assoc.retransmissionQ)
    (absent : assoc.transmissionQ.find (assoc.chunks entry.2).tsn = none)
    (notAcked : (assoc.chunks entry.2).hasBeenAcked = false)
    (nothing : exact → (assoc.chunks entry.2).booksize = 0) :
    Sound exact
        ((addRoom
          { assoc with
            transmissionQ :=
              insertNew (assoc.chunks entry.2).tsn.toNat entry.2 assoc.transmissionQ }
          (assoc.chunks entry.2)).bookTwice entry.2) ∧
      Frame assoc
        ((addRoom
          { assoc with
            transmissionQ :=
              insertNew (assoc.chunks entry.2).tsn.toNat entry.2 assoc.transmissionQ }
          (assoc.chunks entry.2)).bookTwice entry.2)
        entry := by
  have key := sound.keys _ member
  have chunk := discount_chunks assoc entry.2
  have books : (assoc.discount entry.2).bookedTransQ = assoc.bookedTransQ := by
    dsimp only [SCTPAssociation.discount]
    split_ifs <;> rfl
  have there :
      ((assoc.chunks entry.2).tsn.toNat, entry.2) ∈ (assoc.discount entry.2).retransmissionQ := by
    rwa [discount_retransmissionQ, ← key]
  rw [requeued_eq]
  have stored := (sound.discount member).enqueue there
    (by rw [discount_transmissionQ]; exact absent) (by rw [chunk]; exact ⟨rfl, notAcked⟩)
    (update (addRoom _ (assoc.chunks entry.2)).bookedTransQ (assoc.chunks entry.2).nextDestination
      ((addRoom _ (assoc.chunks entry.2)).bookedTransQ (assoc.chunks entry.2).nextDestination +
        (assoc.chunks entry.2).booksize))
    (by
      intro exactly _
      have zero := nothing exactly
      have same : ∀ bytes : BitVec 32, bytes + 0 = bytes := BitVec.add_zero
      rw [chunk, books, zero, same, update_eq_self, addRoom_bookedTransQ]
      rfl)
  rw [discount_transmissionQ] at stored
  rcases discount_frame _ entry.2 with ⟨others, paths, primary⟩
  refine ⟨stored, ?_⟩
  refine
    { retransmissionQ := discount_retransmissionQ _ entry.2
      chunks := others
      queued := ?_
      sctpPathMap := paths
      primaryPathIndex := primary }
  intro _ different
  have perm := insertNew_perm absent entry.2
  refine perm.mem_iff.trans (mem_cons.trans (or_iff_right ?_))
  rwa [← key]

theorem requeue (sound : Sound exact assoc) (member : entry ∈ assoc.retransmissionQ)
    (requeues : Requeues exact assoc path entry) (done : requeue path assoc entry = some next) :
    Sound exact next ∧ Frame assoc next entry := by
  dsimp only [SCTPAssociation.requeue] at done
  split at done
  · case _ late =>
      rcases map_eq_some_iff.mp done with ⟨destination, found, rfl⟩
      have key := sound.keys _ member
      have setFrame : ∀ chunk, Frame assoc (assoc.setChunk entry.2 chunk) entry := fun chunk =>
        { retransmissionQ := rfl
          chunks := fun other different => update_of_ne different _ _
          queued := fun _ _ => Iff.rfl
          sctpPathMap := rfl
          primaryPathIndex := rfl }
      split
      · case _ present =>
          have queued : entry ∈ assoc.transmissionQ := by
            rcases isSome_iff_exists.mp present with ⟨_, there⟩
            rcases map_eq_some_iff.mp there with ⟨other, first, -⟩
            have named : other.1 = (assoc.chunks entry.2).tsn.toNat := by
              simpa using find?_some first
            have there := mem_of_find?_eq_some first
            have only : other = entry :=
              sound.sorted.eq_of_key_eq (sound.within _ there) member (named.trans key.symm)
            exact only ▸ there
          have kept := requeues.again late queued _ found
          refine ⟨sound.mark member rfl (sound.acked entry member) ?_ fun _ => rfl, setFrame _⟩
          intro _
          refine ⟨sound.waits entry queued, fun _ => ?_, fun _ => ?_⟩
          · rw [roomFor, kept]
            rfl
          · rw [bookedFor, kept]
            rfl
      · case _ missing =>
          have absent : assoc.transmissionQ.find (assoc.chunks entry.2).tsn = none := by
            simpa using missing
          have outside := sound.absent_of_key member rfl absent
          have named : Sound exact
              (assoc.setChunk entry.2
                { (assoc.chunks entry.2).again with
                  nextDestination := destination }) :=
            sound.mark member rfl (sound.acked entry member)
              (fun waiting => absurd waiting outside) fun _ => rfl
          have notAcked : (assoc.chunks entry.2).hasBeenAcked = false := by
            rcases Bool.or_eq_true_iff.mp (Bool.and_eq_true_iff.mp late).1
              with outstanding | removed
            · simpa using (Bool.and_eq_true_iff.mp outstanding).1
            · by_contra acked
              have kept := (sound.acked entry member (by simpa using acked)).2
              rw [removed] at kept
              cases kept
          have stored := @requeueNew exact _ entry named member
          rw [chunks_setChunk] at stored
          rcases stored absent notAcked
            (fun exactly => requeues.once exactly late outside) with ⟨still, frame⟩
          exact ⟨still, (setFrame _).trans frame⟩
  · cases done
    exact ⟨sound, .refl assoc entry⟩

theorem requeueAll (sound : Sound exact assoc)
    (members : ∀ entry ∈ entries, entry ∈ assoc.retransmissionQ)
    (distinct : (pointers entries).Nodup)
    (requeues : ∀ entry ∈ entries, Requeues exact assoc path entry)
    (done : entries.foldlM (SCTPAssociation.requeue path) assoc = some next) :
    Sound exact next := by
  induction entries generalizing assoc with
  | nil =>
    cases done
    exact sound
  | cons _ _ hypothesis =>
    rcases bind_eq_some_iff.mp done with ⟨_, one, later⟩
    rw [forall_mem_cons] at members requeues
    have parts := nodup_cons.mp distinct
    rcases sound.requeue members.1 requeues.1 one with ⟨still, frame⟩
    refine hypothesis still ?_ parts.2 ?_ later
    · intro _ member
      rw [frame.retransmissionQ]
      exact members.2 _ member
    · intro _ member
      refine (requeues.2 _ member).frame frame ?_
      intro same
      exact parts.1 (same ▸ mem_pointers member)

end Sound

/-! ## Runs that keep the counters right -/

/--
`sendAll` counts a chunk where it sends it, and it finds no TSN 0 in the
transmission queue.  A timeout does not redirect a chunk that is queued
already, and if the booked bytes are to be exact it requeues none that has
any.
-/
def Admits (exact : Prop) (assoc : SCTPAssociation) : Event → Prop
  | .sendAll pathId bundled _ =>
    assoc.roomTransQ (assoc.pd pathId) = 0 ∨
      Clear assoc (assoc.dpi pathId bundled) (assoc.newDpi pathId)
  | .timeoutRtx path => ∀ entry ∈ assoc.retransmissionQ, Requeues exact assoc path entry
  | _ => True

theorem sound_step (assoc : SCTPAssociation) (event : Event)
    (next : SCTPAssociation) (sound : Sound exact assoc)
    (admits : Admits exact assoc event) (stepped : step assoc event next) : Sound exact next := by
  cases event with
  | messageQueued _ _ _ =>
    cases stepped
    exact sound.aside (fun _ _ => rfl) rfl rfl le_rfl rfl rfl rfl
  | sendAll pathId bundled _ =>
    rcases map_eq_some_iff.mp stepped with ⟨_, sent, rfl⟩
    have start : Rounds exact (assoc.pd pathId) (assoc.dpi pathId bundled)
        (assoc.newDpi pathId) (assoc, assoc.dpi pathId bundled) :=
      ⟨sound, rfl, admits⟩
    exact (start.all sent).sound
  | sackArrived _ =>
    rcases stepped with ⟨_, processed⟩
    exact sound.processSackArrived processed
  | shutdownArrived _ => exact sound.processShutdownArrived stepped
  | timeoutRtx _ => exact sound.requeueAll (fun _ member => member) sound.distinct admits stepped
  | pathsChange _ _ _ =>
    cases stepped
    exact sound.aside (fun _ _ => rfl) rfl rfl le_rfl rfl rfl rfl
  | tsnsChange _ _ =>
    cases stepped
    exact sound.aside (fun _ _ => rfl) rfl rfl le_rfl rfl rfl rfl

theorem sound_create (exact : Prop) (sctpPathMap : List (IPvXAddress × SCTPPathVariables))
    (primaryPathIndex remoteAddr : IPvXAddress) (initTsn : Tsn) (numGapReports : BitVec 32) :
    Sound exact (.create sctpPathMap primaryPathIndex remoteAddr initTsn numGapReports) where
  distinct := nodup_nil
  keys _ member := by cases member
  sorted := Pairwise.nil
  sortedAgain := Pairwise.nil
  within _ member := by cases member
  used _ member := by cases member
  waits _ member := by cases member
  acked _ member := by cases member
  outstanding _ := rfl
  room _ := rfl
  booked _ _ := rfl

/--
In every run of admitted events the counters are the sums over the queues,
modulo 2^32; `bookedTransQ` is if no timeout requeues a chunk with bytes.
-/
theorem sender_accounting_run {exact : Prop} {sctpPathMap : List (IPvXAddress × SCTPPathVariables)}
    {primaryPathIndex remoteAddr : IPvXAddress} {initTsn : Tsn}
    {numGapReports : BitVec 32} {events : List Event} {assoc : SCTPAssociation}
    (run :
      Run (guardedStep (Admits exact) step)
        (.create sctpPathMap primaryPathIndex remoteAddr initTsn numGapReports) events assoc)
    (path : IPvXAddress) :
    assoc.outstandingBytes path = ofNat 32 (outstandingSum assoc path) ∧
      assoc.roomTransQ path = ofNat 32 (roomSum assoc path) ∧
      (exact → assoc.bookedTransQ path = ofNat 32 (bookedSum assoc path)) ∧
      (outstandingSum assoc path < 2 ^ 31 → 0 ≤ (assoc.outstandingBytes path).toInt) := by
  have sound : Sound exact assoc := run.guarded sound_step (sound_create _ _ _ _ _ _)
  refine ⟨sound.outstanding _, sound.room _, fun exactly => sound.booked exactly _, fun small => ?_⟩
  rw [sound.outstanding, BitVec.toInt_eq_toNat_cond, BitVec.toNat_ofNat]
  split_ifs <;> omega

def path : IPvXAddress :=
  .v4 ⟨1⟩

/-- One path, and a message of 100 bytes that is sent on it. -/
def opened : SCTPAssociation :=
  .create [(path, { activePath := true, confirmed := true })] path path 1 4

def datMsg : SCTPDataMsg :=
  { bitLength := 800, booksize := 100 }

def rounds : List Round :=
  [{ bytes := 1000, nextStream := some 0 }]

theorem sender_accounting_run_small :
    ∃ assoc,
      Run (guardedStep (Admits True) step) opened
        [.messageQueued 0 true datMsg, .sendAll .unspecified false rounds, .sackArrived ⟨1, []⟩]
        assoc ∧ assoc.outstandingBytes path = ofNat 32 (outstandingSum assoc path) ∧
        assoc.roomTransQ path = ofNat 32 (roomSum assoc path) ∧
        (True → assoc.bookedTransQ path = ofNat 32 (bookedSum assoc path)) ∧
        (outstandingSum assoc path < 2 ^ 31 → 0 ≤ (assoc.outstandingBytes path).toInt) := by
  have ends :
      (((queueMessage opened 0 true datMsg).sendAll .unspecified false
        rounds).bind fun sent => sent.processSackArrived 4 ⟨1, []⟩).isSome = true := by
    decide
  rcases isSome_iff_exists.mp ends with ⟨assoc, eq⟩
  rcases bind_eq_some_iff.mp eq with ⟨_, sends, acknowledges⟩
  have run :
      Run (guardedStep (Admits True) step) opened
        [.messageQueued 0 true datMsg, .sendAll .unspecified false rounds, .sackArrived ⟨1, []⟩]
        assoc :=
    .next ⟨trivial, rfl⟩ (.next ⟨.inl rfl, sends⟩ (.next ⟨trivial, 4, acknowledges⟩ (.idle _)))
  exact ⟨assoc, run, sender_accounting_run run _⟩

/-- The chunk is booked twice and taken out once. -/
theorem booked_twice :
    ∃ assoc,
      Run step opened
        [.messageQueued 0 true datMsg, .sendAll .unspecified false rounds,
          .timeoutRtx path, .sendAll .unspecified false rounds]
        assoc ∧
        assoc.bookedTransQ path = 100 ∧
        assoc.transmissionQ = [] := by
  have ends :
      (((queueMessage opened 0 true datMsg).sendAll .unspecified false
        rounds).bind fun sent =>
          (sent.process_TIMEOUT_RTX path).bind fun requeued =>
            requeued.sendAll .unspecified false rounds).map
        (fun assoc => (assoc.bookedTransQ path, assoc.transmissionQ)) =
        some (100, []) := by
    decide +kernel
  rcases map_eq_some_iff.mp ends with ⟨assoc, eq, values⟩
  rcases bind_eq_some_iff.mp eq with ⟨_, sends, eq⟩
  rcases bind_eq_some_iff.mp eq with ⟨_, requeues, again⟩
  refine ⟨assoc, .next rfl (.next sends (.next requeues (.next again (.idle _)))), ?_, ?_⟩
  · exact congrArg Prod.fst values
  · exact congrArg Prod.snd values

end OmnetDsi.Sctp.SenderAccounting
