import OmnetDsi.Sctp.ReceiveBuffer

/-!
# Ordered delivery on SCTP streams

`sendAll` numbers the messages of each stream and the chunks of all streams.
The chunks arrive in any order, and `pushUlp` hands over what waits in the
delivery queues, in the order of the TSNs as plain numbers.

A run keeps what was sent on each stream and what was handed over.  The
messages of a stream come out in order unless the TSNs of waiting messages
wrap, or a chunk is 65536 messages ahead of the one that its stream expects.
-/

namespace OmnetDsi.Sctp.OrderedDelivery

open BitVec (ofInt ofNat toNat_ofNat toNat_setWidth)
open Library.SortedMaps Library.Transition
open OmnetDsi.Sctp.GapLists (Tsn)
open Sctp.ReceiveStreams Sctp.ReceiveBuffer Function SCTPQueue

/-! ## Sending -/

/-- An ordered message of the application. -/
structure SCTPDataMsg where
  dataLen : BitVec 32
  bitLength : Nat
  userData : Nat

/-- The number of a message and the next one; `nextSsn` is an `uint32`. -/
def takeSsn (nextStreamSeqNum : BitVec 16) : BitVec 16 × BitVec 16 :=
  let ssn := nextStreamSeqNum.setWidth 32
  let nextSsn := ssn + 1
  (ssn.setWidth 16, if nextSsn > 65535 then 0 else nextSsn.setWidth 16)

/-- The chunk that `transformDataChunk` makes; `len` has 16 bits. -/
def chunkOf (tsn : Tsn) (sid ssn : BitVec 16) (datMsg : SCTPDataMsg) : SCTPDataChunk where
  tsn
  sid
  ssn
  uBit := false
  dataLen := datMsg.dataLen
  bitLength := (ofNat 16 datMsg.bitLength).toNat
  userData := datMsg.userData

/-! ## The system -/

/--
Both ends of the streams.  A chunk in flight is named by its position among
the messages of its stream; `sent` and `handed` only record.
-/
structure World where
  nextTSN : Tsn
  nextStreamSeqNum : Nat → BitVec 16
  assoc : SCTPAssociation
  inFlight : Nat → List Nat
  sent : Nat → List SCTPDataChunk
  handed : List SCTPDataVariables

def start (nextTSN : Tsn) (assoc : SCTPAssociation) : World where
  nextTSN
  nextStreamSeqNum _ := 0
  assoc
  inFlight _ := []
  sent _ := []
  handed := []

namespace World

/-- The part of `sendAll` that numbers a message and its chunk. -/
def send (world : World) (sid : BitVec 16) (datMsg : SCTPDataMsg) : World :=
  let stream := sid.toNat
  let numbered := takeSsn (world.nextStreamSeqNum stream)
  { world with
    nextTSN := world.nextTSN + 1
    nextStreamSeqNum := update world.nextStreamSeqNum stream numbered.2
    inFlight := update world.inFlight stream (world.inFlight stream ++ [(world.sent stream).length])
    sent :=
      update world.sent stream
        (world.sent stream ++ [chunkOf world.nextTSN sid numbered.1 datMsg]) }

/-- The chunk at the position arrived, and the association took it. -/
def taken (world : World) (sid position : Nat) (assoc : SCTPAssociation) : World :=
  { world with
    assoc
    inFlight := update world.inFlight sid ((world.inFlight sid).erase position) }

def push (world : World) : World :=
  let pushed := world.assoc.pushUlp
  { world with assoc := pushed.1, handed := world.handed ++ pushed.2 }

/-- The messages of a stream in the order in which they were sent. -/
def messages (world : World) (sid : Nat) : List SCTPDataVariables :=
  (world.sent sid).map makeVarFromMsg

end World

/-- The chunks of a stream among others. -/
def onStream (sid : Nat) (chunks : List SCTPDataVariables) : List SCTPDataVariables :=
  chunks.filter fun chunk => chunk.sid.toNat = sid

inductive Event where
  | send (sid : BitVec 16) (datMsg : SCTPDataMsg)
  | arrive (sid position : Nat)
  | pushUlp

def step (world : World) : Event → World → Prop
  | .send sid datMsg, next => next = world.send sid datMsg
  | .arrive sid position, next =>
    position ∈ world.inFlight sid ∧
      ∃ dataChunk assoc event,
        (world.sent sid)[position]? = some dataChunk ∧
          world.assoc.takeIn dataChunk = some (assoc, event) ∧ next = world.taken sid position assoc
  | .pushUlp, next => next = world.push

/-! ## How far a stream is -/

def entryOf (chunk : SCTPDataVariables) : Nat × SCTPDataVariables :=
  (chunk.tsn.toNat, chunk)

/-- How many messages were handed over or wait in the delivery queue. -/
def reached (handed : List SCTPDataVariables) (stream : SCTPReceiveStream) : Nat :=
  handed.length + stream.deliveryQ.length

/-- The messages that come after those handed over. -/
def waiting (messages handed : List SCTPDataVariables)
    (stream : SCTPReceiveStream) : List SCTPDataVariables :=
  (messages.drop handed.length).take stream.deliveryQ.length

/-- The numbers that `sendAll` gives to the messages of a stream. -/
structure Numbered (sid : Nat) (messages : List SCTPDataVariables) : Prop where
  ordered : ∀ chunk ∈ messages, chunk.ordered = true
  sid : ∀ chunk ∈ messages, chunk.sid.toNat = sid
  ssn :
    ∀ (position : Nat) (chunk : SCTPDataVariables),
      messages[position]? = some chunk → chunk.ssn = ofNat 16 position

/--
Every message has been handed over, waits to be, waits for earlier ones or is
in flight, in this order.
-/
structure InOrder (messages handed : List SCTPDataVariables)
    (flying : List Nat) (stream : SCTPReceiveStream) : Prop where
  tidy : Tidy stream
  front : handed <+: messages
  inside : reached handed stream ≤ messages.length
  sorted : Sorted stream.deliveryQ
  waits : stream.deliveryQ.Perm ((waiting messages handed stream).map entryOf)
  expected : stream.expectedStreamSeqNum = (reached handed stream % 65536 : Nat)
  early :
    ∀ entry ∈ stream.orderedQ,
      ∃ position,
        reached handed stream ≤ position ∧ position < reached handed stream + 65536 ∧
          messages[position]? = some entry.2 ∧ position ∉ flying
  distinct : flying.Nodup
  flies : ∀ position ∈ flying, reached handed stream ≤ position ∧ position < messages.length
  present :
    ∀ position,
      reached handed stream ≤ position →
        position < messages.length →
          position ∈ flying ∨
            position < reached handed stream + 65536 ∧
              ∃ entry ∈ stream.orderedQ, messages[position]? = some entry.2

theorem following_expected (position : Nat) :
    SCTPReceiveStream.following ((position % 65536 : Nat) : Int) =
      ((position + 1) % 65536 : Nat) := by
  unfold SCTPReceiveStream.following
  split_ifs <;> omega

/-- Among 65536 messages the number of a message says which one it is. -/
theorem ssn_expected (least : first ≤ position) (near : position < first + 65536)
    (same : ofNat 16 position = ofInt 16 ((first % 65536 : Nat) : Int)) : position = first := by
  rw [BitVec.ofInt_natCast, ← BitVec.toNat_inj, toNat_ofNat, toNat_ofNat] at same
  omega

variable {chunk : SCTPDataVariables}

theorem insertNew_perm (absent : contains queue chunk.tsn = false) :
    (insertNew chunk.tsn.toNat chunk queue).Perm (entryOf chunk :: queue) := by
  induction queue with
  | nil => exact List.Perm.refl _
  | cons first rest hypothesis =>
    have parts : first.1 ≠ chunk.tsn.toNat ∧ contains rest chunk.tsn = false := by
      simpa [contains] using absent
    rw [insertNew]
    split_ifs with less same
    · exact List.Perm.refl _
    · exact absurd same.symm parts.1
    · exact ((hypothesis parts.2).cons _).trans (List.Perm.swap (entryOf _) _ _)

theorem dequeueVarBySsn_none
    (nothing : dequeueVarBySsn ssn queue = none) : ∀ entry ∈ queue, entry.2.ssn ≠ ssn := by
  induction queue with
  | nil => simp
  | cons _ _ hypothesis =>
    rw [dequeueVarBySsn] at nothing
    split_ifs at nothing with same
    rw [List.forall_mem_cons]
    exact ⟨same, hypothesis (Option.map_eq_none_iff.mp nothing)⟩

/-! ## Chunks that arrive -/

variable {rest : SCTPQueue}

section Streams

variable {sid : Nat} {messages handed : List SCTPDataVariables}
variable {flying : List Nat} {stream : SCTPReceiveStream}

theorem waiting_succ (longer : next.deliveryQ.length = stream.deliveryQ.length + 1)
    (here : messages[reached handed stream]? = some chunk) :
    waiting messages handed next = waiting messages handed stream ++ [chunk] := by
  rw [waiting, longer, List.take_add_one, List.getElem?_drop]
  unfold reached at here
  rw [here]
  rfl

section

variable (inOrder : InOrder messages handed flying stream) (numbered : Numbered sid messages)
include inOrder numbered

theorem InOrder.expected_next (member : entry ∈ stream.orderedQ)
    (same : entry.2.ssn = ofInt 16 stream.expectedStreamSeqNum) :
    messages[reached handed stream]? = some entry.2 ∧ reached handed stream ∉ flying := by
  rcases inOrder.early _ member with ⟨_, least, near, here, landed⟩
  rw [numbered.ssn _ entry.2 here, inOrder.expected] at same
  have only := ssn_expected least near same
  rw [only] at here landed
  exact ⟨here, landed⟩

theorem InOrder.deliver (expected : stream.expectedChunk = some (chunk, rest)) :
    InOrder messages handed flying (stream.deliver chunk rest).1 := by
  rcases dequeueVarBySsn_some expected with ⟨same, _, key, _, whole, left⟩
  have listed : (key, chunk) ∈ stream.orderedQ := by simp [whole]
  have absent := inOrder.tidy.apart _ listed
  rcases inOrder.expected_next numbered listed same with ⟨here, landed⟩
  have still := (inOrder.tidy.deliver expected).2.1
  have delivered :
      (stream.deliver chunk rest).1 =
        { stream with
          orderedQ := rest
          deliveryQ := insertNew chunk.tsn.toNat chunk stream.deliveryQ
          expectedStreamSeqNum := SCTPReceiveStream.following stream.expectedStreamSeqNum } := by
    rw [SCTPReceiveStream.deliver, checkAndInsertVar, absent]
    rfl
  rw [delivered] at still ⊢
  have perm := insertNew_perm absent
  have longer :
      (insertNew chunk.tsn.toNat chunk stream.deliveryQ).length = stream.deliveryQ.length + 1 := by
    rw [perm.length_eq]
    rfl
  have further : ∀ queue ssn,
      reached handed
          { stream with
            orderedQ := queue
            deliveryQ := insertNew chunk.tsn.toNat chunk stream.deliveryQ
            expectedStreamSeqNum := ssn } =
        reached handed stream + 1 := by
    dsimp only [reached]
    omega
  have inside : reached handed stream < messages.length := (List.getElem?_eq_some_iff.mp here).1
  refine
    { tidy := still
      front := inOrder.front
      inside := ?_
      sorted := inOrder.sorted.insertNew _ _
      waits := ?_
      expected := ?_
      early := ?_
      distinct := inOrder.distinct
      flies := ?_
      present := ?_ }
  · rwa [further]
  · rw [waiting_succ longer here, List.map_append]
    exact perm.trans ((inOrder.waits.cons _).trans (List.perm_append_singleton _ _).symm)
  · rw [further, inOrder.expected]
    exact following_expected _
  · intro entry member
    rw [further]
    have among : entry ∈ stream.orderedQ := by
      rw [whole]
      rw [left] at member
      exact (List.mem_append.mp member).elim (fun early => List.mem_append_left _ early)
        (fun late => List.mem_append_right _ (List.mem_cons_of_mem _ late))
    rcases inOrder.early _ among with ⟨position, least, near, there, gone⟩
    have different : position ≠ reached handed stream := by
      rintro rfl
      refine inOrder.tidy.rest_tsn_ne expected entry member ?_
      rw [Option.some.inj (there.symm.trans here)]
    exact ⟨position, by omega, by omega, there, gone⟩
  · intro position member
    rw [further]
    have bounds := inOrder.flies position member
    have different : position ≠ reached handed stream := by
      rintro rfl
      exact landed member
    omega
  · intro position least less
    rw [further] at least
    rcases inOrder.present position (by omega) less with flies | stored
    · exact .inl flies
    · rcases stored with ⟨near, entry, member, there⟩
      refine .inr ⟨by rw [further]; omega, entry, ?_, there⟩
      rw [whole] at member
      rw [left]
      rcases List.mem_append.mp member with early | late
      · exact List.mem_append_left _ early
      · rcases List.mem_cons.mp late with rfl | later
        · rw [numbered.ssn position _ there, inOrder.expected] at same
          have only := ssn_expected (by omega) near same
          omega
        · exact List.mem_append_right _ later

end

/-- The stream has no chunk in its ordered queue that it expects. -/
def Settled (stream : SCTPReceiveStream) : Prop :=
  stream.expectedChunk = none

theorem deliver_orderedQ (stream : SCTPReceiveStream)
    (chunk : SCTPDataVariables) (rest : SCTPQueue) :
    (stream.deliver chunk rest).1.orderedQ = rest := by
  dsimp only [SCTPReceiveStream.deliver]
  split_ifs <;> rfl

section

variable (inOrder : InOrder messages handed flying stream)
include inOrder

theorem InOrder.putInDeliveryQFrom (numbered : Numbered sid messages)
    (enough : stream.orderedQ.length ≤ steps) (queuedRcvBytes : BitVec 64) :
    InOrder messages handed flying (stream.putInDeliveryQFrom steps queuedRcvBytes).1 ∧
      Settled (stream.putInDeliveryQFrom steps queuedRcvBytes).1 := by
  induction steps generalizing stream queuedRcvBytes with
  | zero =>
    refine ⟨inOrder, ?_⟩
    have empty := List.length_eq_zero_iff.mp (Nat.le_zero.mp enough)
    rw [Settled, SCTPReceiveStream.putInDeliveryQFrom, SCTPReceiveStream.expectedChunk, empty]
    rfl
  | succ _ hypothesis =>
    unfold SCTPReceiveStream.putInDeliveryQFrom
    split
    · case _ nothing => exact ⟨inOrder, nothing⟩
    · case _ chunk rest expected =>
        rcases dequeueVarBySsn_some expected with ⟨-, _, _, _, whole, left⟩
        refine hypothesis (inOrder.deliver numbered expected) ?_ _
        rw [deliver_orderedQ, left]
        rw [whole] at enough
        simp only [List.length_append, List.length_cons] at enough ⊢
        omega

/-- A chunk in flight that is not too far ahead goes to the ordered queue. -/
theorem InOrder.insertOrdered (flies : position ∈ flying)
    (near : position < reached handed stream + 65536)
    (here : messages[position]? = some chunk) (fresh : stream.holds chunk.tsn = false) :
    InOrder messages handed (flying.erase position)
      { stream with
        orderedQ := insertNew chunk.tsn.toNat chunk stream.orderedQ } := by
  rcases Bool.or_eq_false_iff.mp fresh with ⟨absent, notDelivered⟩
  have perm := insertNew_perm absent
  refine
    { tidy := inOrder.tidy.insertOrdered notDelivered
      front := inOrder.front
      inside := inOrder.inside
      sorted := inOrder.sorted
      waits := inOrder.waits
      expected := inOrder.expected
      early := ?_
      distinct := inOrder.distinct.erase _
      flies := fun other member => inOrder.flies _ (List.mem_of_mem_erase member)
      present := ?_ }
  · intro _ member
    rcases List.mem_cons.mp (perm.mem_iff.mp member) with rfl | old
    · exact ⟨position, (inOrder.flies _ flies).1, near, here, inOrder.distinct.not_mem_erase⟩
    · rcases inOrder.early _ old with ⟨other, least, less, there, gone⟩
      exact ⟨other, least, less, there, fun member => gone (List.mem_of_mem_erase member)⟩
  · intro other least less
    rcases inOrder.present _ least less with member | stored
    · by_cases same : other = position
      · subst same
        exact .inr ⟨near, entryOf chunk, perm.mem_iff.mpr (by simp), here⟩
      · exact .inl ((List.mem_erase_of_ne same).mpr member)
    · rcases stored with ⟨close, entry, member, there⟩
      exact .inr ⟨close, entry, perm.mem_iff.mpr (List.mem_cons_of_mem _ member), there⟩

theorem InOrder.enqueueNewDataChunk
    (numbered : Numbered sid messages) {position : Nat} (flies : position ∈ flying)
    (near : position < reached handed stream + 65536)
    (here : messages[position]? = some chunk) (fresh : stream.holds chunk.tsn = false) :
    InOrder messages handed (flying.erase position) (stream.enqueueNewDataChunk chunk).1 := by
  have stored := inOrder.insertOrdered flies near here fresh
  have ordered := numbered.ordered _ (List.mem_of_getElem? here)
  rcases Bool.or_eq_false_iff.mp fresh with ⟨absent, -⟩
  unfold SCTPReceiveStream.enqueueNewDataChunk checkAndInsertVar
  rw [ordered, absent]
  simp only [Bool.not_true, Bool.false_eq_true, if_false]
  split
  · exact stored
  · case _ expected => exact stored.deliver numbered expected

theorem InOrder.send (chunk : SCTPDataVariables) :
    InOrder (messages ++ [chunk]) handed (flying ++ [messages.length]) stream := by
  have inside := inOrder.inside
  have kept : ∀ (position : Nat) (other : SCTPDataVariables),
      messages[position]? = some other → (messages ++ [chunk])[position]? = some other := by
    intro _ _ here
    rwa [List.getElem?_append_left (List.getElem?_eq_some_iff.mp here).1]
  refine
    { tidy := inOrder.tidy
      front := inOrder.front.trans (List.prefix_append _ _)
      inside := by
        rw [List.length_append]
        exact Nat.le_add_right_of_le inside
      sorted := inOrder.sorted
      waits := ?_
      expected := inOrder.expected
      early := ?_
      distinct := ?_
      flies := ?_
      present := ?_ }
  · have same : waiting (messages ++ [chunk]) handed stream = waiting messages handed stream := by
      unfold waiting
      unfold reached at inside
      rw [List.drop_append_of_le_length (by omega),
        List.take_append_of_le_length (by rw [List.length_drop]; omega)]
    rw [same]
    exact inOrder.waits
  · intro _ member
    rcases inOrder.early _ member with ⟨position, least, near, here, gone⟩
    have less := (List.getElem?_eq_some_iff.mp here).1
    refine ⟨position, least, near, kept _ _ here, ?_⟩
    rw [List.mem_append, List.mem_singleton]
    rintro (flies | rfl)
    · exact gone flies
    · exact Nat.lt_irrefl _ less
  · refine List.nodup_append.mpr ⟨inOrder.distinct, List.nodup_singleton _, ?_⟩
    intro _ member _ last
    rw [List.mem_singleton] at last
    exact ((inOrder.flies _ member).2.trans_eq last.symm).ne
  · intro _ member
    rw [List.length_append, List.length_singleton]
    rcases List.mem_append.mp member with old | new
    · have bounds := inOrder.flies _ old
      omega
    · rw [List.mem_singleton] at new
      omega
  · intro position least less
    rw [List.length_append, List.length_singleton] at less
    by_cases last : position = messages.length
    · exact .inl (by simp [last])
    · rcases inOrder.present _ least (by omega) with flies | stored
      · exact .inl (List.mem_append_left _ flies)
      · rcases stored with ⟨near, entry, member, here⟩
        exact .inr ⟨near, entry, member, kept _ _ here⟩

end

/-- Nothing is in flight: every message is handed over or waits to be. -/
theorem InOrder.complete (inOrder : InOrder messages handed [] stream)
    (numbered : Numbered sid messages) (settled : Settled stream) :
    messages.length = handed.length + stream.deliveryQ.length := by
  by_contra incomplete
  have inside := inOrder.inside
  have less : reached handed stream < messages.length := by
    unfold reached at inside ⊢
    omega
  rcases inOrder.present _ le_rfl less with flies | stored
  · cases flies
  · rcases stored with ⟨-, _, member, here⟩
    refine dequeueVarBySsn_none settled _ member ?_
    rw [numbered.ssn _ _ here, inOrder.expected, BitVec.ofInt_natCast,
      ← BitVec.toNat_inj, toNat_ofNat, toNat_ofNat]
    omega

/-! ## Messages that are handed over -/

/-- The TSNs of the messages that wait increase as plain numbers. -/
def Increasing (messages handed : List SCTPDataVariables) (stream : SCTPReceiveStream) : Prop :=
  Sorted ((waiting messages handed stream).map entryOf)

section

variable (inOrder : InOrder messages handed flying stream)
    (increasing : Increasing messages handed stream)
include inOrder increasing

theorem InOrder.deliveryQ_eq : stream.deliveryQ = (waiting messages handed stream).map entryOf :=
  inOrder.sorted.eq_of_mem_iff increasing fun _ => inOrder.waits.mem_iff

theorem InOrder.extracted (extracted : extractMessage stream.deliveryQ = some (chunk, rest)) :
    messages[handed.length]? = some chunk ∧ stream.deliveryQ = entryOf chunk :: rest ∧
      rest = ((messages.drop (handed.length + 1)).take rest.length).map entryOf := by
  have queue := inOrder.deliveryQ_eq increasing
  cases first : stream.deliveryQ with
  | nil =>
    rw [first] at extracted
    cases extracted
  | cons head _ =>
    rw [first] at extracted
    cases extracted
    rw [waiting, first, List.length_cons] at queue
    cases later : messages.drop handed.length with
    | nil =>
      rw [later] at queue
      cases queue
    | cons _ _ =>
      rw [later, List.take_succ_cons, List.map_cons] at queue
      rcases List.cons.inj queue with ⟨same, behind⟩
      subst same
      refine ⟨?_, rfl, ?_⟩
      · have here := congrArg List.head? later
        rwa [List.head?_drop] at here
      · rwa [← List.drop_drop, later]

end

theorem prefix_snoc (front : handed <+: messages) (here : messages[handed.length]? = some chunk) :
    handed ++ [chunk] <+: messages := by
  rcases front with ⟨others, rfl⟩
  rw [List.getElem?_append_right le_rfl, Nat.sub_self] at here
  cases others with
  | nil => cases here
  | cons _ rest =>
    cases here
    exact ⟨rest, by simp⟩

theorem InOrder.push (inOrder : InOrder messages handed flying stream)
    (increasing : Increasing messages handed stream)
    (extracted : extractMessage stream.deliveryQ = some (chunk, rest)) :
    InOrder messages (handed ++ [chunk]) flying { stream with deliveryQ := rest } ∧
      Increasing messages (handed ++ [chunk]) { stream with deliveryQ := rest } := by
  rcases inOrder.extracted increasing extracted with ⟨here, queue, behind⟩
  have same :
      reached (handed ++ [chunk]) { stream with deliveryQ := rest } = reached handed stream := by
    unfold reached
    rw [queue, List.length_append, List.length_singleton, List.length_cons]
    dsimp only
    omega
  have waits :
      (waiting messages (handed ++ [chunk])
        { stream with deliveryQ := rest }).map entryOf = rest := by
    rw [waiting, List.length_append, List.length_singleton]
    exact behind.symm
  have sorted : Sorted rest := by
    have whole := inOrder.sorted
    rw [queue] at whole
    exact whole.tail
  refine ⟨?_, ?_⟩
  · refine
      { tidy := ?_
        front := prefix_snoc inOrder.front here
        inside := by
          rw [same]
          exact inOrder.inside
        sorted
        waits := by rw [waits]
        expected := by
          rw [same]
          exact inOrder.expected
        early := by
          rw [same]
          exact inOrder.early
        distinct := inOrder.distinct
        flies := by
          rw [same]
          exact inOrder.flies
        present := by
          rw [same]
          exact inOrder.present }
    refine (inOrder.tidy.sublist { stream with deliveryQ := rest } (List.Sublist.refl _) ?_).1
    rw [queue]
    exact List.sublist_cons_self _ _
  · rwa [Increasing, waits]

end Streams

/-! ## Runs in order -/

namespace World

/-- Every stream is in order, with the chunks handed over so far. -/
def Stands (world : World) (assoc : SCTPAssociation) (handed : List SCTPDataVariables) : Prop :=
  ∀ (sid : Nat) (stream : SCTPReceiveStream),
    assoc.receiveStreams[sid]? = some stream →
      InOrder (world.messages sid) (onStream sid handed) (world.inFlight sid) stream ∧
        Settled stream

end World

/-- The sender numbers in sequence, and every stream is in order. -/
structure Orderly (world : World) : Prop where
  nextSsn : ∀ sid, world.nextStreamSeqNum sid = ofNat 16 (world.sent sid).length
  numbered : ∀ sid, Numbered sid (world.messages sid)
  stands : world.Stands world.assoc world.handed

/--
An arriving chunk is less than 65536 messages ahead of the one its stream
expects, and the stream holds no chunk with its TSN.  Messages are pushed when
the TSNs of those that wait on a stream do not wrap.
-/
def Admits (world : World) : Event → Prop
  | .send _ _ => True
  | .arrive sid position =>
    ∀ stream,
      world.assoc.receiveStreams[sid]? = some stream →
        position < reached (onStream sid world.handed) stream + 65536 ∧
          ∀ chunk, (world.messages sid)[position]? = some chunk → stream.holds chunk.tsn = false
  | .pushUlp =>
    ∀ sid stream,
      world.assoc.receiveStreams[sid]? = some stream →
        Increasing (world.messages sid) (onStream sid world.handed) stream

theorem takeSsn_ofNat (sent : Nat) :
    takeSsn (ofNat 16 sent) = (ofNat 16 sent, ofNat 16 (sent + 1)) := by
  unfold takeSsn
  have ssn : (BitVec.setWidth 32 (ofNat 16 sent)).toNat = sent % 65536 := by
    rw [toNat_setWidth, toNat_ofNat]
    omega
  have next : (BitVec.setWidth 32 (ofNat 16 sent) + 1).toNat = sent % 65536 + 1 := by
    have one : (1 : BitVec 32).toNat = 1 := rfl
    rw [BitVec.toNat_add, ssn, one]
    omega
  have most : (65535 : BitVec 32).toNat = 65535 := rfl
  refine Prod.ext ?_ ?_
  · apply BitVec.eq_of_toNat_eq
    rw [toNat_setWidth, ssn, toNat_ofNat]
    omega
  · apply BitVec.eq_of_toNat_eq
    dsimp only
    split_ifs with wraps
    · have beyond := BitVec.lt_def.mp wraps
      have zero : (0 : BitVec 16).toNat = 0 := rfl
      rw [zero, toNat_ofNat]
      omega
    · have within := BitVec.not_lt.mp wraps
      rw [toNat_setWidth, next, toNat_ofNat]
      omega

theorem onStream_append (sid : Nat) (first second : List SCTPDataVariables) :
    onStream sid (first ++ second) = onStream sid first ++ onStream sid second := by
  unfold onStream
  exact List.filter_append ..

/-! ### Sending -/

theorem messages_send (world : World) (sid : BitVec 16) (datMsg : SCTPDataMsg) (other : Nat) :
    (world.send sid datMsg).messages other =
      if other = sid.toNat then
        world.messages other ++
          [makeVarFromMsg (chunkOf world.nextTSN sid
            (takeSsn (world.nextStreamSeqNum sid.toNat)).1 datMsg)]
      else world.messages other := by
  dsimp only [World.messages, World.send]
  split_ifs with same
  · subst same
    rw [update_self, List.map_append]
    rfl
  · rw [update_of_ne same]

theorem Numbered.send {sid : BitVec 16}
    (numbered : Numbered sid.toNat messages) (tsn : Tsn) (datMsg : SCTPDataMsg) :
    Numbered sid.toNat
      (messages ++ [makeVarFromMsg (chunkOf tsn sid (ofNat 16 messages.length) datMsg)]) where
  ordered chunk member := by
    rcases List.mem_append.mp member with old | new
    · exact numbered.ordered _ old
    · rw [List.mem_singleton.mp new]
      rfl
  sid chunk member := by
    rcases List.mem_append.mp member with old | new
    · exact numbered.sid _ old
    · rw [List.mem_singleton.mp new]
      rfl
  ssn position chunk here := by
    by_cases before : position < messages.length
    · rw [List.getElem?_append_left before] at here
      exact numbered.ssn _ _ here
    · rw [List.getElem?_append_right (Nat.le_of_not_lt before)] at here
      have last : position = messages.length := by
        by_contra different
        rw [List.getElem?_eq_none (by
          rw [List.length_singleton]
          omega)] at here
        cases here
      rw [last, Nat.sub_self] at here
      cases here
      rw [last]
      rfl

theorem Orderly.send (orderly : Orderly world)
    (sid : BitVec 16) (datMsg : SCTPDataMsg) : Orderly (world.send sid datMsg) := by
  have number : (takeSsn (world.nextStreamSeqNum sid.toNat)) =
      (ofNat 16 (world.sent sid.toNat).length, ofNat 16 ((world.sent sid.toNat).length + 1)) := by
    rw [orderly.nextSsn, takeSsn_ofNat]
  have length : (world.messages sid.toNat).length = (world.sent sid.toNat).length := by
    exact List.length_map ..
  refine ⟨?_, ?_, ?_⟩
  · intro other
    dsimp only [World.send]
    by_cases same : other = sid.toNat
    · subst same
      rw [update_self, update_self, number, List.length_append]
      rfl
    · rw [update_of_ne same, update_of_ne same]
      exact orderly.nextSsn _
  · intro _
    rw [messages_send]
    split_ifs with same
    · subst same
      rw [number, ← length]
      exact (orderly.numbered _).send _ _
    · exact orderly.numbered _
  · intro _ _ stands
    rcases orderly.stands _ _ stands with ⟨inOrder, settled⟩
    refine ⟨?_, settled⟩
    rw [messages_send]
    dsimp only [World.send]
    split_ifs with same
    · subst same
      rw [update_self, ← length]
      exact inOrder.send _
    · rwa [update_of_ne same]

/-! ### Arrivals -/

theorem takeIn_streams {assoc : SCTPAssociation}
    (taken : assoc.takeIn dataChunk = some (next, event))
    (stores :
      ∀ stream,
        assoc.receiveStreams[dataChunk.sid.toNat]? = some stream →
          0 < (stream.enqueueNewDataChunk (makeVarFromMsg dataChunk)).2) :
    ∃ stream counter,
      assoc.receiveStreams[dataChunk.sid.toNat]? = some stream ∧
        next.receiveStreams =
          assoc.receiveStreams.set dataChunk.sid.toNat
            ((stream.enqueueNewDataChunk
              (makeVarFromMsg dataChunk)).1.putInDeliveryQ counter).1 := by
  dsimp only [SCTPAssociation.takeIn] at taken
  split at taken
  · cases taken
  · case _ stream stands =>
      rw [if_pos (stores _ stands)] at taken
      cases taken
      have inside := (List.getElem?_eq_some_iff.mp stands).1
      refine ⟨stream, (assoc.queuedRcvBytes + dataChunk.payloadLength.setWidth 64), stands, ?_⟩
      dsimp only [SCTPAssociation.putInDeliveryQ, SCTPAssociation.count, SCTPAssociation.storeIn]
      rw [List.getElem?_set_self inside]
      dsimp only
      rw [List.set_set]

variable {assoc : SCTPAssociation}

theorem Orderly.taken (orderly : Orderly world) (admits : Admits world (.arrive sid position))
    (flies : position ∈ world.inFlight sid) (sent : (world.sent sid)[position]? = some dataChunk)
    (taken : world.assoc.takeIn dataChunk = some (assoc, event)) :
    Orderly (world.taken sid position assoc) := by
  have here : (world.messages sid)[position]? = some (makeVarFromMsg dataChunk) := by
    rw [World.messages, List.getElem?_map, sent]
    rfl
  have numbered := orderly.numbered sid
  have named : dataChunk.sid.toNat = sid := numbered.sid _ (List.mem_of_getElem? here)
  refine ⟨orderly.nextSsn, orderly.numbered, ?_⟩
  rcases takeIn_streams taken (by
    intro stream stands
    rw [named] at stands
    exact ((orderly.stands _ _ stands).1.tidy.enqueueNewDataChunk ((admits _ stands).2 _ here)).2.2)
    with ⟨stream, counter, stands, streams⟩
  rw [named] at stands streams
  intro other last there
  change assoc.receiveStreams[other]? = some last at there
  change InOrder (world.messages other) (onStream other world.handed)
    (update world.inFlight sid ((world.inFlight sid).erase position) other) last ∧ Settled last
  rw [streams, List.getElem?_set] at there
  split_ifs at there with same inside
  · cases there
    subst same
    rw [update_self]
    rcases admits _ stands with ⟨near, fresh⟩
    exact ((orderly.stands sid stream stands).1.enqueueNewDataChunk numbered
      flies near here (fresh _ here)).putInDeliveryQFrom numbered le_rfl _
  · rw [update_of_ne (Ne.symm same)]
    exact orderly.stands other last there

/-! ### Pushing -/

/-- The streams are in order, and their waiting messages do not wrap. -/
structure Ready (world : World) (assoc : SCTPAssociation)
    (handed : List SCTPDataVariables) : Prop where
  stands : world.Stands assoc handed
  increasing :
    ∀ (sid : Nat) (stream : SCTPReceiveStream),
      assoc.receiveStreams[sid]? = some stream →
        Increasing (world.messages sid) (onStream sid handed) stream

theorem Ready.congr (ready : Ready world assoc handed)
    (streams : next.receiveStreams = assoc.receiveStreams) : Ready world next handed where
  stands sid stream := by
    rw [streams]
    exact ready.stands _ _
  increasing sid stream := by
    rw [streams]
    exact ready.increasing _ _

theorem putInDeliveryQ_settled
    (settled :
      ∀ (sid : Nat) (stream : SCTPReceiveStream),
        assoc.receiveStreams[sid]? = some stream → Settled stream)
    (sid : Nat) :
    assoc.putInDeliveryQ sid = assoc := by
  unfold SCTPAssociation.putInDeliveryQ
  split
  · rfl
  · case _ stream stands =>
      have same : ∀ steps,
          stream.putInDeliveryQFrom steps assoc.queuedRcvBytes =
            (stream, assoc.queuedRcvBytes) := by
        intro steps
        cases steps with
        | zero => rfl
        | succ _ =>
          have nothing := settled _ _ stands
          rw [SCTPReceiveStream.putInDeliveryQFrom, nothing]
      rw [SCTPReceiveStream.putInDeliveryQ, same]
      dsimp only
      rcases List.getElem?_eq_some_iff.mp stands with ⟨_, here⟩
      rw [← here, List.set_getElem_self]

variable {sid : Nat}

theorem Ready.pushChunk (ready : Ready world assoc handed)
    (numbered : Numbered sid (world.messages sid))
    (stands : assoc.receiveStreams[sid]? = some stream)
    (extracted : extractMessage stream.deliveryQ = some (chunk, rest)) :
    Ready world (assoc.pushChunk sid stream chunk rest) (handed ++ [chunk]) := by
  rcases ready.stands _ _ stands with ⟨inOrder, settled⟩
  have increasing := ready.increasing _ _ stands
  have here := (inOrder.extracted increasing extracted).1
  have named := numbered.sid _ (List.mem_of_getElem? here)
  have pushed := inOrder.push increasing extracted
  have mine : onStream sid [chunk] = [chunk] := by
    simp [onStream, named]
  have others : ∀ other, other ≠ sid → onStream other [chunk] = [] := by
    intro _ different
    simp [onStream, named, Ne.symm different]
  have after : ∀ other last,
      (assoc.pushChunk sid stream chunk rest).receiveStreams[other]? = some last →
        (InOrder (world.messages other) (onStream other (handed ++ [chunk]))
            (world.inFlight other) last ∧ Settled last) ∧
          Increasing (world.messages other) (onStream other (handed ++ [chunk])) last := by
    intro other last there
    unfold SCTPAssociation.pushChunk at there
    rw [onStream_append]
    rw [List.getElem?_set] at there
    split_ifs at there with same inside
    · cases there
      subst same
      rw [mine]
      exact ⟨⟨pushed.1, settled⟩, pushed.2⟩
    · rw [others _ (Ne.symm same), List.append_nil]
      exact ⟨ready.stands _ _ there, ready.increasing other last there⟩
  exact ⟨fun other last there => (after other last there).1,
    fun other last there => (after other last there).2⟩

theorem openWindow_receiveStreams (assoc : SCTPAssociation) :
    assoc.openWindow.receiveStreams = assoc.receiveStreams := by
  unfold SCTPAssociation.openWindow
  split_ifs <;> rfl

theorem Ready.pushStream (numbered : Numbered sid (world.messages sid)) (restrict : Bool)
    (steps : Nat) (ready : Ready world current.1 (world.handed ++ current.2)) :
    Ready world (SCTPAssociation.pushStream restrict sid steps current).1
      (world.handed ++ (SCTPAssociation.pushStream restrict sid steps current).2) := by
  induction steps generalizing current with
  | zero => exact ready
  | succ _ hypothesis =>
    rcases current with ⟨assoc, pushed⟩
    unfold SCTPAssociation.pushStream
    split
    · exact ready
    · case _ stream stands =>
        split
        · exact ready
        · case _ chunk rest extracted =>
            split
            · have next := (ready.pushChunk numbered stands extracted).congr
                (openWindow_receiveStreams _)
              rw [List.append_assoc] at next
              exact @hypothesis ((assoc.pushChunk _ _ _ _).openWindow, pushed ++ [chunk]) next
            · exact ready

theorem Ready.pushRounds (numbered : ∀ sid, Numbered sid (world.messages sid)) (restrict : Bool)
    (sids : List Nat) (ready : Ready world current.1 (world.handed ++ current.2)) :
    Ready world (sids.foldl (SCTPAssociation.pushRound restrict) current).1
      (world.handed ++ (sids.foldl (SCTPAssociation.pushRound restrict) current).2) := by
  induction sids generalizing current with
  | nil => exact ready
  | cons _ _ hypothesis =>
    apply hypothesis
    unfold SCTPAssociation.pushRound
    split
    · exact ready
    · exact ready.pushStream (numbered _) _ _

theorem foldl_putInDeliveryQ
    (settled :
      ∀ (sid : Nat) (stream : SCTPReceiveStream),
        assoc.receiveStreams[sid]? = some stream → Settled stream)
    (sids : List Nat) :
    sids.foldl SCTPAssociation.putInDeliveryQ assoc = assoc := by
  induction sids with
  | nil => rfl
  | cons _ _ hypothesis =>
    rwa [List.foldl_cons, putInDeliveryQ_settled settled]

theorem Orderly.push (orderly : Orderly world)
    (admits : Admits world .pushUlp) : Orderly world.push := by
  have settled : ∀ (sid : Nat) (stream : SCTPReceiveStream),
      world.assoc.receiveStreams[sid]? = some stream → Settled stream :=
    fun sid stream stands => (orderly.stands _ _ stands).2
  have pushed : Ready world world.assoc.pushUlp.1 (world.handed ++ world.assoc.pushUlp.2) := by
    have ready : Ready world world.assoc (world.handed ++ []) := by
      rw [List.append_nil]
      exact ⟨orderly.stands, admits⟩
    dsimp only [SCTPAssociation.pushUlp]
    rw [foldl_putInDeliveryQ settled]
    refine Ready.congr (Ready.pushRounds orderly.numbered _ _ ?_) rfl
    refine ready.congr ?_
    split_ifs <;> rfl
  exact ⟨orderly.nextSsn, orderly.numbered, pushed.stands⟩

theorem orderly_step (world : World) (event : Event) (next : World)
    (orderly : Orderly world) (admits : Admits world event)
    (stepped : step world event next) : Orderly next := by
  cases event with
  | send _ _ =>
    cases stepped
    exact orderly.send _ _
  | arrive _ _ =>
    rcases stepped with ⟨flies, _, _, _, sent, taken, rfl⟩
    exact orderly.taken admits flies sent taken
  | pushUlp =>
    cases stepped
    exact orderly.push admits

/-! ### Calls that hand over nothing -/

theorem pushStream_prefix (restrict : Bool) (sid steps : Nat)
    (current : SCTPAssociation × List SCTPDataVariables) :
    current.2 <+: (SCTPAssociation.pushStream restrict sid steps current).2 := by
  induction steps generalizing current with
  | zero => exact List.prefix_rfl
  | succ _ hypothesis =>
    rcases current with ⟨assoc, pushed⟩
    unfold SCTPAssociation.pushStream
    split
    · exact List.prefix_rfl
    · case _ stream stands =>
        split
        · exact List.prefix_rfl
        · case _ chunk rest extracted =>
            split
            · exact (List.prefix_append _ [chunk]).trans
                (hypothesis ((assoc.pushChunk _ _ _ _).openWindow, pushed ++ [chunk]))
            · exact List.prefix_rfl

theorem pushRounds_prefix (restrict : Bool) (sids : List Nat)
    (current : SCTPAssociation × List SCTPDataVariables) :
    current.2 <+: (sids.foldl (SCTPAssociation.pushRound restrict) current).2 := by
  induction sids generalizing current with
  | nil => exact List.prefix_rfl
  | cons _ _ hypothesis =>
    refine List.IsPrefix.trans ?_ (hypothesis _)
    unfold SCTPAssociation.pushRound
    split
    · exact List.prefix_rfl
    · exact pushStream_prefix _ _ _ _

section

variable (free : restrict = true → 0 < assoc.pushMessagesLeft)
include free

/-- A stream with a waiting message pushes one, or nothing is allowed. -/
theorem pushRound_cases (sid : Nat) :
    SCTPAssociation.pushRound restrict (assoc, []) sid = (assoc, []) ∧
        (∀ stream, assoc.receiveStreams[sid]? = some stream → stream.deliveryQ = []) ∨
      (SCTPAssociation.pushRound restrict (assoc, []) sid).2 ≠ [] := by
  unfold SCTPAssociation.pushRound
  split
  · case _ missing =>
      refine .inl ⟨rfl, ?_⟩
      intro _ stands
      cases missing.symm.trans stands
  · case _ stream stands =>
      cases queue : stream.deliveryQ with
      | nil =>
        refine .inl ⟨rfl, ?_⟩
        intro other there
        cases (show some stream = some other from stands.symm.trans there)
        exact queue
      | cons first rest =>
        refine .inr ?_
        rw [List.length_cons, SCTPAssociation.pushStream, stands]
        dsimp only
        rw [queue]
        dsimp only [extractMessage]
        have allowed : (!restrict || decide (assoc.pushMessagesLeft > 0)) = true := by
          cases restrict with
          | false => rfl
          | true => simpa using free rfl
        rw [if_pos allowed]
        intro nothing
        have least := pushStream_prefix restrict sid rest.length
          ((assoc.pushChunk sid stream first.2 rest).openWindow, [] ++ [first.2])
        rw [nothing] at least
        cases List.prefix_nil.mp least

theorem pushRounds_nothing {sids : List Nat}
    (nothing : (sids.foldl (SCTPAssociation.pushRound restrict) (assoc, [])).2 = []) :
    ∀ sid ∈ sids, ∀ stream, assoc.receiveStreams[sid]? = some stream → stream.deliveryQ = [] := by
  induction sids with
  | nil => simp
  | cons first rest hypothesis =>
    rw [List.foldl_cons] at nothing
    rcases pushRound_cases free _ with ⟨same, empty⟩ | some
    · rw [same] at nothing
      rw [List.forall_mem_cons]
      exact ⟨empty, hypothesis nothing⟩
    · have least := pushRounds_prefix restrict rest
        (SCTPAssociation.pushRound restrict (assoc, []) first)
      rw [nothing] at least
      exact absurd (List.prefix_nil.mp least) some

end

theorem mem_roundTrip (inside : sid < inboundStreams) :
    sid ∈ SCTPAssociation.roundTrip nextRSid inboundStreams := by
  have some : 0 < inboundStreams := Nat.zero_lt_of_lt inside
  have less := Nat.mod_lt nextRSid some
  have parts := Nat.div_add_mod nextRSid inboundStreams
  refine List.mem_map.mpr
    ⟨(sid + (inboundStreams - nextRSid % inboundStreams)) % inboundStreams,
      List.mem_range.mpr (Nat.mod_lt _ some), ?_⟩
  rw [Nat.add_mod_mod]
  calc
    (nextRSid + (sid + (inboundStreams - nextRSid % inboundStreams))) % inboundStreams =
        (sid + inboundStreams * (nextRSid / inboundStreams + 1)) % inboundStreams := by
      congr 1
      rw [Nat.mul_add, Nat.mul_one]
      omega
    _ = sid := by rw [Nat.add_mul_mod_self_left, Nat.mod_eq_of_lt inside]

theorem pushUlp_nothing
    (settled :
      ∀ (sid : Nat) (stream : SCTPReceiveStream),
        assoc.receiveStreams[sid]? = some stream → Settled stream)
    (nothing : assoc.pushUlp.2 = [])
    (stands : assoc.receiveStreams[sid]? = some stream) :
    stream.deliveryQ = [] := by
  have inside := (List.getElem?_eq_some_iff.mp stands).1
  dsimp only [SCTPAssociation.pushUlp] at nothing
  rw [foldl_putInDeliveryQ settled] at nothing
  refine pushRounds_nothing ?_ nothing _ (mem_roundTrip inside) _ ?_
  · exact fun allowed => of_decide_eq_true allowed
  · split_ifs
    · exact stands
    · exact stands

/-! ### Whole runs -/

theorem orderly_start (nextTSN initPeerTsn : Tsn) (localRwnd : BitVec 64)
    (messagesToPush swsLimit assocPmtu pmtu : BitVec 32) (inboundStreams : Nat) :
    Orderly
      (start nextTSN
        (.create initPeerTsn localRwnd messagesToPush swsLimit assocPmtu pmtu inboundStreams)) where
  nextSsn _ := rfl
  numbered _ :=
    { ordered := by simp [World.messages, start]
      sid := by simp [World.messages, start]
      ssn := by simp [World.messages, start] }
  stands sid stream stands := by
    have empty : stream = {} := List.eq_of_mem_replicate (List.mem_of_getElem? stands)
    subst empty
    refine ⟨?_, rfl⟩
    exact
      { tidy := tidy_empty
        front := List.prefix_rfl
        inside := le_rfl
        sorted := List.Pairwise.nil
        waits := List.Perm.nil
        expected := rfl
        early := by simp
        distinct := List.nodup_nil
        flies := by simp [start]
        present := by
          intro _ _ less
          cases less }

/--
In every run of admitted events the messages of a stream are handed over in
the order in which they were sent, without gaps and once.  The others are in
flight or wait, and `pushUlp` hands over a message as long as one waits.
-/
theorem ordered_delivery_run {nextTSN initPeerTsn : Tsn} {localRwnd : BitVec 64}
    {messagesToPush swsLimit assocPmtu pmtu : BitVec 32} {inboundStreams : Nat}
    {events : List Event} {world : World}
    (run :
      Run (guardedStep Admits step)
        (start nextTSN
          (.create initPeerTsn localRwnd messagesToPush swsLimit assocPmtu pmtu inboundStreams))
        events world)
    {sid : Nat}
    {stream : SCTPReceiveStream}
    (stands : world.assoc.receiveStreams[sid]? = some stream) :
    onStream sid world.handed <+: world.messages sid ∧
      (world.inFlight sid = [] →
        (world.messages sid).length =
          (onStream sid world.handed).length + stream.deliveryQ.length) ∧
      (world.push.handed = world.handed → stream.deliveryQ = []) := by
  have orderly : Orderly world := run.guarded orderly_step (orderly_start _ _ _ _ _ _ _ _)
  rcases orderly.stands _ _ stands with ⟨inOrder, settled⟩
  refine ⟨inOrder.front, ?_, ?_⟩
  · intro landed
    rw [landed] at inOrder
    exact inOrder.complete (orderly.numbered _) settled
  · intro nothing
    refine pushUlp_nothing (fun sid stream stands => (orderly.stands _ _ stands).2) ?_ stands
    exact List.append_right_eq_self.mp nothing

/-- A message of one byte. -/
def message (userData : Nat) : SCTPDataMsg where
  dataLen := 1
  bitLength := 8
  userData

def arriving (world : World) (position : Nat) : World :=
  world.taken 0 position
    ((((world.sent 0)[position]?.bind world.assoc.takeIn).map Prod.fst).getD world.assoc)

def unsent (nextTSN : Tsn) : World :=
  start nextTSN (.create nextTSN 65535 0 3000 1500 1500 1)

/-- Two messages are sent, and the chunk of the first arrives last. -/
def arrivals : List Event :=
  [.send 0 (message 1), .send 0 (message 2), .arrive 0 1, .arrive 0 0, .pushUlp]

def sentTwo (nextTSN : Tsn) : World :=
  ((unsent nextTSN).send 0 (message 1)).send 0 (message 2)

def arrivedTwo (nextTSN : Tsn) : World :=
  arriving (arriving (sentTwo nextTSN) 1) 0

theorem ordered_delivery_run_small :
    ∃ world stream,
      Run (guardedStep Admits step) (unsent 5) arrivals world ∧
        world.assoc.receiveStreams[0]? = some stream ∧
        world.handed.map SCTPDataVariables.userData = [1, 2] ∧
        onStream 0 world.handed <+: world.messages 0 := by
  have first : guardedStep Admits step (sentTwo 5) (.arrive 0 1) (arriving (sentTwo 5) 1) := by
    refine ⟨?_, by decide, _, _, _, rfl, rfl, rfl⟩
    intro _ stands
    cases stands
    refine ⟨by decide, ?_⟩
    intro _ _
    rfl
  have second : guardedStep Admits step (arriving (sentTwo 5) 1) (.arrive 0 0) (arrivedTwo 5) := by
    refine ⟨?_, by decide, _, _, _, rfl, rfl, rfl⟩
    intro _ stands
    cases stands
    refine ⟨by decide, ?_⟩
    intro _ here
    cases here
    rfl
  have pushed : guardedStep Admits step (arrivedTwo 5) .pushUlp (arrivedTwo 5).push := by
    refine ⟨?_, rfl⟩
    intro sid _ stands
    cases sid with
    | zero =>
      cases stands
      unfold Increasing Sorted
      decide
    | succ _ => cases stands
  have run : Run (guardedStep Admits step) (unsent 5) arrivals (arrivedTwo 5).push :=
    .next ⟨trivial, rfl⟩ (.next ⟨trivial, rfl⟩
      (.next first (.next second (.next pushed (.idle _)))))
  exact ⟨_, _, run, rfl, by decide, (ordered_delivery_run run rfl).1⟩

/-- The second message has TSN 0, and it is pushed before the first. -/
theorem wrapped_tsn_overtakes :
    ∃ world,
      Run step (unsent 0xFFFFFFFF) arrivals world ∧
        world.handed.map SCTPDataVariables.userData = [2, 1] ∧
        (world.messages 0).map SCTPDataVariables.userData = [1, 2] := by
  have first : step (sentTwo 0xFFFFFFFF) (.arrive 0 1) (arriving (sentTwo 0xFFFFFFFF) 1) :=
    ⟨by decide, _, _, _, rfl, rfl, rfl⟩
  have second : step (arriving (sentTwo 0xFFFFFFFF) 1) (.arrive 0 0) (arrivedTwo 0xFFFFFFFF) :=
    ⟨by decide, _, _, _, rfl, rfl, rfl⟩
  have run : Run step (unsent 0xFFFFFFFF) arrivals (arrivedTwo 0xFFFFFFFF).push :=
    .next rfl (.next rfl (.next first (.next second (.next rfl (.idle _)))))
  exact ⟨_, run, by decide, by decide⟩

end OmnetDsi.Sctp.OrderedDelivery
