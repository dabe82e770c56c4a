import OmnetDsi.Ipv4.Fragments
import OmnetDsi.Library.Fallible
import OmnetDsi.Library.Transition

/-!
# Fragments of several datagrams

Fragments of any number of datagrams arrive in any order at one
`IPFragBuf`.  A step also notes which fragments a buffer holds (`held`); the
code does not know this, since the key of a buffer is only the source, the
destination and whatever the identification happens to be.

As long as the buffers between two hosts hold fragments of one datagram at a
time, what is returned is that datagram (`fragments_kept_apart`).
-/

namespace OmnetDsi.Ipv4.FragmentBuffers

open Base.ReassemblyBuffer Library.Fallible Library.Transition Ipv4.Fragments

variable {Content Label : Type}

/-! ## Datagrams that are fragmented -/

/-- A datagram with a content, and an MTU it is too long for. -/
structure Fragmented (Content : Type) where
  datagram : SizedDatagram Content
  mtu : Int
  content : datagram.encapsulatedMsg.isSome
  header : 0 ≤ datagram.headerLength
  room : datagram.headerLength < mtu
  large : mtu < datagram.byteLength
  small : datagram.byteLength < 65536

namespace Fragmented

variable (message : Fragmented Content)

def count : Int :=
  noOfFragments message.datagram.byteLength message.datagram.headerLength message.mtu

/-- What one fragment carries. -/
def share : Nat :=
  (message.mtu - message.datagram.headerLength).toNat

/-- The fragment with a number. -/
def frag (i : Nat) : SizedDatagram Content :=
  fragment message.datagram message.mtu message.count i

theorem two_le_count : 2 ≤ message.count := by
  have several := noOfFragments_pos message.header message.room message.small message.large
  exact several

theorem share_eq : (message.share : Int) = message.mtu - message.datagram.headerLength :=
  Int.toNat_of_nonneg (by have room := message.room; omega)

theorem share_pos : 0 < message.share := by
  have value := message.share_eq
  have room := message.room
  omega

/-- The fragments as a partition of the range they cover. -/
def pieces : Partition (message.count.toNat * message.share) where
  count := message.count.toNat
  cut i := i * message.share
  start := Nat.zero_mul _
  finish := rfl
  increasing := by
    intro i _
    have positive := message.share_pos
    rw [Nat.succ_mul]
    omega

theorem addFragment_frag (buffer : Buffer) (i : Nat) :
    OmnetDsi.Base.ReassemblyBuffer.addFragment buffer
        ((message.frag i).fragmentOffset % 65536).toNat
        (((message.frag i).fragmentOffset +
          ((message.frag i).byteLength - (message.frag i).headerLength)) % 65536).toNat
        (!(message.frag i).moreFragments) =
      message.pieces.addPiece buffer i := by
  have share := message.share_eq
  have offset : (message.frag i).fragmentOffset = ((i * message.share : Nat) : Int) := by
    show (i : Int) * (message.mtu - message.datagram.headerLength) = _
    rw [← share]
    rfl
  have length : (message.frag i).byteLength - (message.frag i).headerLength = message.share :=
    share.symm
  have last : (!(message.frag i).moreFragments) = decide (i + 1 = message.count.toNat) := by
    show (!decide ((i : Int) ≠ message.count - 1)) = _
    rw [Bool.eq_iff_iff]
    simp only [Bool.not_eq_true', decide_eq_false_iff_not, not_not, decide_eq_true_eq]
    omega
  rw [offset, length, last]
  show OmnetDsi.Base.ReassemblyBuffer.addFragment _ _ _ _ =
    OmnetDsi.Base.ReassemblyBuffer.addFragment _ (i * message.share) ((i + 1) * message.share) _
  unfold OmnetDsi.Base.ReassemblyBuffer.addFragment ushort
  rw [Nat.succ_mul]
  have begs (beg : Nat) : ((beg : Int) % 65536).toNat % 65536 = beg % 65536 := by omega
  have stops (beg bytes : Nat) :
      (((beg : Int) + bytes) % 65536).toNat % 65536 = (beg + bytes) % 65536 := by
    omega
  rw [begs, stops]
  rfl

theorem addFragment_completes (unset : Nat) (bufs : Buffers Content) (now : Int)
    (named : keyOf unset (message.frag i) = key) (known : find bufs key = some buf)
    (complete : (message.pieces.addPiece buf.buf i).2 = true) :
    Fragments.addFragment unset bufs (message.frag i) now =
      .ok (erase bufs key,
        some { message.frag i with
          byteLength :=
            message.datagram.headerLength +
              getTotalLength (message.pieces.addPiece buf.buf i).1 }) := by
  have content : (message.frag i).encapsulatedMsg.isSome = true := message.content
  simp only [Fragments.addFragment, named, known, Option.getD_some, message.addFragment_frag,
    complete, if_pos content, if_true]
  rfl

theorem addFragment_continues (unset : Nat) (bufs : Buffers Content)
    (now : Int) (named : keyOf unset (message.frag i) = key)
    (incomplete : (message.pieces.addPiece ((find bufs key).getD {}).buf i).2 = false) :
    Fragments.addFragment unset bufs (message.frag i) now =
      .ok (store bufs key
        ⟨(message.pieces.addPiece ((find bufs key).getD {}).buf i).1,
          some (message.frag i), now⟩, none) := by
  have content : (message.frag i).encapsulatedMsg.isSome = true := message.content
  simp only [Fragments.addFragment, named, message.addFragment_frag, incomplete, if_pos content]
  rfl

end Fragmented

/-! ## Arrivals -/

/-- A fragment arrives; `unset` is the identification that is looked up. -/
structure Arrival (Label : Type) where
  label : Label
  number : Nat
  unset : Nat
  now : Int

structure State (Content Label : Type) where
  bufs : Buffers Content
  held : List (Key × Label × Nat)

section Arrivals

variable (messages : Label → Fragmented Content)

def Arrival.frag (arrival : Arrival Label) : SizedDatagram Content :=
  (messages arrival.label).frag arrival.number

def Arrival.key (arrival : Arrival Label) : Key :=
  keyOf arrival.unset (arrival.frag messages)

/-- The fragments held afterwards: a completed buffer is erased. -/
def heldAfter (held : List (Key × Label × Nat)) (arrival : Arrival Label)
    (returned : Option (SizedDatagram Content)) : List (Key × Label × Nat) :=
  if returned.isSome then held.filter fun entry => entry.1 ≠ arrival.key messages
  else held ++ [(arrival.key messages, arrival.label, arrival.number)]

def serve (state : State Content Label) (arrival : Arrival Label) :
    Except FragFault (State Content Label × Option (SizedDatagram Content)) := do
  let (bufs, returned) ← addFragment arrival.unset state.bufs (arrival.frag messages) arrival.now
  return (⟨bufs, heldAfter messages state.held arrival returned⟩, returned)

/-- One of the fragments of one of the datagrams arrives. -/
def Step (state : State Content Label) (arrival : Arrival Label)
    (next : State Content Label) : Prop :=
  (arrival.number : Int) < (messages arrival.label).count ∧
    ∃ returned, serve messages state arrival = .ok (next, returned)

/-- What is returned is the datagram whose fragments have arrived. -/
def ReturnsWhole (state : State Content Label) (arrival : Arrival Label) : Prop :=
  ∃ next returned, serve messages state arrival = .ok (next, returned) ∧
    ∀ whole, returned = some whole →
      (∀ j < (messages arrival.label).count.toNat,
        (arrival.key messages, arrival.label, j) ∈ state.held ∨ j = arrival.number) ∧
      whole.encapsulatedMsg = (messages arrival.label).datagram.encapsulatedMsg ∧
      whole.byteLength =
        (messages arrival.label).datagram.headerLength +
          (messages arrival.label).count * (messages arrival.label).share

/-- No buffer holds fragments of two datagrams. -/
def Unmixed (state : State Content Label) : Prop :=
  ∀ left ∈ state.held, ∀ right ∈ state.held, left.1 = right.1 → left.2.1 = right.2.1

/-- The datagrams are never combined, whatever arrives in whatever order. -/
def KeptApart : Prop :=
  ∀ arrivals state, Run (Step messages) ⟨[], []⟩ arrivals state →
    Unmixed state ∧
      ∀ arrival : Arrival Label,
        (arrival.number : Int) < (messages arrival.label).count →
          ReturnsWhole messages state arrival

/--
The buffers between the two hosts hold nothing of another datagram, and the
offsets of the fragments fit the type the buffers use.
-/
def Admitted (state : State Content Label) (arrival : Arrival Label) : Prop :=
  (∀ entry ∈ state.held,
    entry.1.src = (arrival.key messages).src →
      entry.1.dest = (arrival.key messages).dest → entry.2.1 = arrival.label) ∧
  (messages arrival.label).count.toNat * (messages arrival.label).share ≤ 65535

end Arrivals

/-! ## Looking up buffers -/

theorem find_store (bufs : Buffers Content) (key other : Key) (buf : DatagramBuffer Content) :
    find (store bufs key buf) other = if other = key then some buf else find bufs other := by
  unfold find store
  by_cases same : other = key
  · subst same
    simp
  · rw [List.find?_cons_of_neg (by simpa using Ne.symm same), List.find?_filter, if_neg same]
    congr 2
    funext entry
    by_cases here : entry.1 = other
    · simp [here, same]
    · simp [here]

theorem find_erase (bufs : Buffers Content) (key other : Key) :
    find (erase bufs key) other = if other = key then none else find bufs other := by
  rw [find, erase, List.find?_filter]
  by_cases same : other = key
  · subst same
    simp
  · rw [if_neg same]
    congr 2
    funext entry
    by_cases here : entry.1 = other
    · simp [here, same]
    · simp [here]

/-! ## One datagram a buffer -/

section Separation

variable {messages : Label → Fragmented Content}

/-- The buffer holds fragments of the datagram with a label. -/
structure BufferOf (messages : Label → Fragmented Content)
    (held : List (Key × Label × Nat)) (key : Key)
    (buf : DatagramBuffer Content) (label : Label) : Prop where
  src : key.src = (messages label).datagram.srcAddress
  dest : key.dest = (messages label).datagram.destAddress
  some : ∃ i, (key, label, i) ∈ held
  only : ∀ entry ∈ held, entry.1 = key → entry.2.1 = label
  settled : (messages label).pieces.Settled (fun j => (key, label, j) ∈ held) buf.buf

structure Separated (messages : Label → Fragmented Content)
    (state : State Content Label) : Prop where
  fresh : ∀ key, find state.bufs key = none → ∀ entry ∈ state.held, entry.1 ≠ key
  known : ∀ key buf, find state.bufs key = some buf →
    ∃ label, BufferOf messages state.held key buf label

theorem separated_start : Separated messages ⟨[], []⟩ where
  fresh := by
    intro _ _ _ _
    contradiction
  known := by
    intro _ _ found
    cases found

theorem Separated.unmixed (separated : Separated messages state) : Unmixed state := by
  intro _ leftHeld right rightHeld same
  cases found : find state.bufs right.1 with
  | none => exact absurd rfl (separated.fresh _ found _ rightHeld)
  | some _ =>
    rcases separated.known _ _ found with ⟨_, owned⟩
    rw [owned.only _ leftHeld same, owned.only _ rightHeld rfl]

/-- The buffer a fragment is added to holds that datagram's fragments. -/
theorem settled_lookup (separated : Separated messages state)
    (admitted : Admitted messages state arrival) :
    (messages arrival.label).pieces.Settled
      (fun j => (arrival.key messages, arrival.label, j) ∈ state.held)
      ((find state.bufs (arrival.key messages)).getD {}).buf := by
  cases found : find state.bufs (arrival.key messages) with
  | none =>
    have none : (fun j =>
        (arrival.key messages, arrival.label, j) ∈ state.held) = fun _ => False := by
      funext j
      rw [eq_iff_iff, iff_false]
      intro member
      exact separated.fresh _ found _ member rfl
    have positive : 0 < (messages arrival.label).count.toNat * (messages arrival.label).share := by
      have several := (messages arrival.label).two_le_count
      exact Nat.mul_pos (by omega) (messages arrival.label).share_pos
    rw [none]
    exact Partition.settled_start positive
  | some _ =>
    rcases separated.known _ _ found with ⟨label, owned⟩
    rcases owned.some with ⟨_, member⟩
    have same : label = arrival.label := admitted.1 _ member rfl rfl
    subst same
    exact owned.settled

theorem incomplete_alone (message : Fragmented Content) (i : Nat) :
    ¬∀ j < message.count.toNat, False ∨ j = i := by
  intro all
  have several := message.two_le_count
  have zero := all 0 (by omega)
  have one := all 1 (by omega)
  rw [false_or] at zero one
  omega

theorem Separated.erased (separated : Separated messages state) (key : Key) :
    Separated messages ⟨erase state.bufs key, state.held.filter fun entry => entry.1 ≠ key⟩ where
  fresh := by
    intro _ missing _ member
    rw [List.mem_filter, decide_eq_true_eq] at member
    rw [find_erase] at missing
    split_ifs at missing with same
    · exact same ▸ member.2
    · exact separated.fresh _ missing _ member.1
  known := by
    intro other _ found
    rw [find_erase] at found
    split_ifs at found with same
    rcases separated.known _ _ found with ⟨label, owned⟩
    have kept (j : Nat) :
        (other, label, j) ∈ state.held.filter (fun entry => entry.1 ≠ key) ↔
          (other, label, j) ∈ state.held := by
      simp [same]
    refine ⟨label, owned.src, owned.dest, ?_, ?_, ?_⟩
    · rcases owned.some with ⟨i, member⟩
      exact ⟨i, (kept i).mpr member⟩
    · intro _ member
      exact owned.only _ (List.mem_filter.mp member).1
    · simpa only [kept] using owned.settled

theorem Separated.stored
    (separated : Separated messages state) (admitted : Admitted messages state arrival)
    (settled : (messages arrival.label).pieces.Settled
      (fun j => (arrival.key messages, arrival.label, j) ∈ state.held ∨
        j = arrival.number) buf.buf) :
    Separated messages
      ⟨store state.bufs (arrival.key messages) buf,
        state.held ++ [(arrival.key messages, arrival.label, arrival.number)]⟩ where
  fresh := by
    intro _ missing _ member
    rw [find_store] at missing
    split_ifs at missing with same
    rcases List.mem_append.mp member with before | new
    · exact separated.fresh _ missing _ before
    · rw [List.mem_singleton.mp new]
      exact Ne.symm same
  known := by
    intro other _ hit
    rw [find_store] at hit
    split_ifs at hit with same
    · cases hit
      subst same
      refine ⟨arrival.label, rfl, rfl, ⟨arrival.number, by simp⟩, ?_, ?_⟩
      · intro _ member here
        rcases List.mem_append.mp member with before | new
        · exact admitted.1 _ before (congrArg Key.src here) (congrArg Key.dest here)
        · rw [List.mem_singleton.mp new]
      · simpa only [List.mem_append, List.mem_singleton, Prod.mk.injEq, true_and] using settled
    · rcases separated.known _ _ hit with ⟨label, owned⟩
      have kept (entry : Key × Label × Nat) (here : entry.1 = other) :
          entry ∈ state.held ++ [(arrival.key messages, arrival.label, arrival.number)] ↔
            entry ∈ state.held := by
        rw [List.mem_append, List.mem_singleton]
        constructor
        · rintro (before | rfl)
          · exact before
          · exact absurd here.symm same
        · exact .inl
      refine ⟨label, owned.src, owned.dest, ?_, ?_, ?_⟩
      · rcases owned.some with ⟨i, member⟩
        exact ⟨i, (kept _ rfl).mpr member⟩
      · intro entry member here
        exact owned.only entry ((kept entry here).mp member) here
      · have same (j : Nat) := kept (other, label, j) rfl
        simpa only [same] using owned.settled

theorem serve_admitted (separated : Separated messages state)
    (admitted : Admitted messages state arrival)
    (present : (arrival.number : Int) < (messages arrival.label).count) :
    ∃ next returned,
      serve messages state arrival = .ok (next, returned) ∧ Separated messages next ∧
        ∀ whole, returned = some whole →
          (∀ j < (messages arrival.label).count.toNat,
            (arrival.key messages, arrival.label, j) ∈ state.held ∨ j = arrival.number) ∧
          whole.encapsulatedMsg = (messages arrival.label).datagram.encapsulatedMsg ∧
          whole.byteLength =
            (messages arrival.label).datagram.headerLength +
              (messages arrival.label).count * (messages arrival.label).share := by
  have before := settled_lookup separated admitted
  have after := Partition.settled_addPiece admitted.2 before
    (i := arrival.number) (by
      show arrival.number < (messages arrival.label).count.toNat
      omega)
  have answer := Partition.settled_answer after
  cases complete :
      ((messages arrival.label).pieces.addPiece
        ((find state.bufs (arrival.key messages)).getD {}).buf arrival.number).2 with
  | true =>
    have passed := answer.1.mp complete
    have total := answer.2 complete
    cases found : find state.bufs (arrival.key messages) with
    | none =>
      -- the first fragment of a datagram does not complete it
      refine absurd ?_ (incomplete_alone (messages arrival.label) arrival.number)
      intro j inside
      rcases passed j inside with member | same
      · exact absurd rfl (separated.fresh _ found _ member)
      · exact .inr same
    | some buf =>
      rw [found, Option.getD_some] at complete total
      have added :=
        (messages arrival.label).addFragment_completes
          arrival.unset state.bufs arrival.now rfl found complete
      refine ⟨_, _, bind_eq_ok.mpr ⟨_, added, rfl⟩, ?_, ?_⟩
      · exact separated.erased _
      · rintro _ same
        cases same
        refine ⟨passed, rfl, ?_⟩
        have length : getTotalLength
            ((messages arrival.label).pieces.addPiece buf.buf arrival.number).1 =
            (messages arrival.label).count.toNat * (messages arrival.label).share :=
          total
        have count :
            ((messages arrival.label).count.toNat : Int) = (messages arrival.label).count :=
          Int.toNat_of_nonneg (by omega)
        rw [length]
        push_cast
        rw [count]
  | false =>
    have added :=
      (messages arrival.label).addFragment_continues
        arrival.unset state.bufs arrival.now rfl complete
    refine ⟨_, _, bind_eq_ok.mpr ⟨_, added, rfl⟩, ?_, ?_⟩
    · exact separated.stored admitted after
    · rintro _ same
      cases same

end Separation

/-! ## Runs -/

theorem separated_step (separated : Separated messages state)
    (admitted : Admitted messages state arrival)
    (step : Step messages state arrival next) : Separated messages next := by
  rcases step with ⟨present, _, served⟩
  rcases serve_admitted separated admitted present with ⟨_, _, same, kept, _⟩
  rw [served] at same
  cases same
  exact kept

/-- Two datagrams of 2000 bytes between the same hosts, over an MTU of 1500. -/
def sampleDatagrams (label : Bool) : SizedDatagram Bool where
  timeToLive := 32
  byteLength := 2000
  encapsulatedMsg := some label

theorem sampleDatagrams_content (label : Bool) : (sampleDatagrams label).encapsulatedMsg.isSome :=
  rfl

theorem sampleDatagrams_header (label : Bool) : 0 ≤ (sampleDatagrams label).headerLength := by
  show (0 : Int) ≤ 20
  decide

theorem sampleDatagrams_room (label : Bool) : (sampleDatagrams label).headerLength < 1500 := by
  show (20 : Int) < 1500
  decide

theorem sampleDatagrams_large (label : Bool) : 1500 < (sampleDatagrams label).byteLength := by
  show (1500 : Int) < 2000
  decide

theorem sampleDatagrams_small (label : Bool) : (sampleDatagrams label).byteLength < 65536 := by
  show (2000 : Int) < 65536
  decide

def sampleMessages (label : Bool) : Fragmented Bool where
  datagram := sampleDatagrams label
  mtu := 1500
  content := sampleDatagrams_content label
  header := sampleDatagrams_header label
  room := sampleDatagrams_room label
  large := sampleDatagrams_large label
  small := sampleDatagrams_small label

/-- The first fragment of the one and the last of the other. -/
def firstArrival : Arrival Bool :=
  ⟨false, 0, 0, 0⟩

def secondArrival : Arrival Bool :=
  ⟨true, 1, 0, 0⟩

theorem firstArrival_served :
    ∃ buf, (serve sampleMessages ⟨[], []⟩ firstArrival =
        .ok (⟨store [] (firstArrival.key sampleMessages) buf,
          [(firstArrival.key sampleMessages, false, 0)]⟩, none)) ∧
      ((sampleMessages true).pieces.addPiece buf.buf 1).2 = true := by
  have added := (sampleMessages false).addFragment_continues 0 [] 0 (i := 0) rfl (by decide +kernel)
  refine ⟨_, bind_eq_ok.mpr ⟨_, added, rfl⟩, ?_⟩
  decide +kernel

end OmnetDsi.Ipv4.FragmentBuffers
