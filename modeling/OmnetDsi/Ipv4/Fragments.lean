import OmnetDsi.Base.ReassemblyBuffer
import OmnetDsi.Ipv4.Datagrams

/-!
# Fragments of a datagram

`IP::fragmentAndSend` divides the payload by what fits into one fragment and
always takes one fragment more than the quotient, each as long as the MTU
allows.  So the last fragment reaches beyond the end of the datagram
(`last_fragment_exceeds`), whatever the sizes are.

`IPFragBuf::addFragment` looks a reassembly buffer up by source, destination
and an identification that is never set: `unset` is what it happens to be.
-/

namespace OmnetDsi.Ipv4.Fragments

open Contract.Addresses Base.ReassemblyBuffer Library.BinaryFloat Ipv4.Datagrams

/-! ## Datagrams with their sizes -/

/-- A datagram with the fields that fragmentation uses. -/
structure SizedDatagram (Content : Type) extends IPDatagram where
  byteLength : Int
  headerLength : Int := 20
  moreFragments : Bool := false
  dontFragment : Bool := false
  fragmentOffset : Int := 0
  identification : Int := 0
  encapsulatedMsg : Option Content

inductive ICMPError where
  | ICMP_TIME_EXCEEDED
  | ICMP_DESTINATION_UNREACHABLE
  | ICMP_FRAGMENTATION_ERROR_CODE
  | ICMP_PARAMETER_PROBLEM

/-- A datagram leaves the module, or ICMP takes it. -/
inductive Sending (Content : Type) where
  | out (datagram : SizedDatagram Content)
  | sendErrorMessage (datagram : SizedDatagram Content) (error : ICMPError)

def sendDatagramToOutput (datagram : SizedDatagram Content) : Sending Content :=
  if datagram.timeToLive ≤ 0 then .sendErrorMessage datagram .ICMP_TIME_EXCEEDED else .out datagram

/-! ## Fragmentation -/

/-- The quotient is that of integers, and the half makes `ceil` add one. -/
def noOfFragments (byteLength headerLength mtu : Int) : Int :=
  let payload := byteLength - headerLength
  let frag :=
    convert binary32
      (add binary64 (ofInt binary64 (payload.tdiv (mtu - headerLength))) (.finite (1 / 2)))
  toInteger (-2 ^ 31) (2 ^ 31 - 1) (-2 ^ 31) (ceil frag)

def fragment (datagram : SizedDatagram Content) (mtu count : Int) (i : Nat) :
    SizedDatagram Content :=
  { datagram with
    moreFragments := decide ((i : Int) ≠ count - 1)
    packetId := i
    byteLength := mtu
    fragmentOffset := i * (mtu - datagram.headerLength) }

def fragments (datagram : SizedDatagram Content) (mtu : Int) : List (SizedDatagram Content) :=
  let count := noOfFragments datagram.byteLength datagram.headerLength mtu
  (List.range count.toNat).map (fragment datagram mtu count)

/-- `none` is the division by zero if nothing but a header fits. -/
def fragmentAndSend (datagram : SizedDatagram Content) (mtu : Int) :
    Option (List (Sending Content)) :=
  if datagram.byteLength ≤ mtu then some [sendDatagramToOutput datagram]
  else if mtu = datagram.headerLength then none
  else if datagram.dontFragment &&
      decide (1 < noOfFragments datagram.byteLength datagram.headerLength mtu) then
    some [.sendErrorMessage datagram .ICMP_FRAGMENTATION_ERROR_CODE]
  else some ((fragments datagram mtu).map sendDatagramToOutput)

/-! ## Reassembly -/

/-- What the lookup compares; nothing writes the identification. -/
structure Key where
  id : Nat
  src : IPAddress
  dest : IPAddress
deriving DecidableEq

structure DatagramBuffer (Content : Type) where
  buf : Buffer := {}
  datagram : Option (SizedDatagram Content) := none
  lastupdate : Int := 0

/-- The buffers in use, each under its key. -/
abbrev Buffers (Content : Type) :=
  List (Key × DatagramBuffer Content)

inductive FragFault where
  /-- `erase` is called with the end iterator. -/
  | eraseEnd
  /-- No fragment had a content. -/
  | nullDatagram

def keyOf (unset : Nat) (datagram : SizedDatagram Content) : Key :=
  ⟨unset, datagram.srcAddress, datagram.destAddress⟩

def find (bufs : Buffers Content) (key : Key) : Option (DatagramBuffer Content) :=
  (bufs.find? fun entry => entry.1 = key).map Prod.snd

/-- The buffer of a key is replaced or added. -/
def store (bufs : Buffers Content) (key : Key) (buf : DatagramBuffer Content) : Buffers Content :=
  (key, buf) :: bufs.filter fun entry => entry.1 ≠ key

def erase (bufs : Buffers Content) (key : Key) : Buffers Content :=
  bufs.filter fun entry => entry.1 ≠ key

/--
A fragment is added.  The content of the last fragment with one is kept, and
the completed datagram gets the total length.
-/
def addFragment (unset : Nat) (bufs : Buffers Content)
    (datagram : SizedDatagram Content) (now : Int) :
    Except FragFault (Buffers Content × Option (SizedDatagram Content)) :=
  let key := keyOf unset datagram
  let known := find bufs key
  let buf := known.getD {}
  let bytes := datagram.byteLength - datagram.headerLength
  let (region, isComplete) :=
    OmnetDsi.Base.ReassemblyBuffer.addFragment buf.buf (datagram.fragmentOffset % 65536).toNat
      ((datagram.fragmentOffset + bytes) % 65536).toNat (!datagram.moreFragments)
  let kept := if datagram.encapsulatedMsg.isSome then some datagram else buf.datagram
  if isComplete then
    match kept with
    | none => .error .nullDatagram
    | some ret =>
      if known.isNone then .error .eraseEnd
      else
        .ok (erase bufs key,
          some { ret with byteLength := ret.headerLength + getTotalLength region })
  else .ok (store bufs key ⟨region, kept, now⟩, none)

/-- Fragments arrive one after the other; what is returned for each. -/
def feed (unset : Nat) :
    Buffers Content → List (SizedDatagram Content) →
      Except FragFault (List (Option (SizedDatagram Content)))
  | _, [] => .ok []
  | bufs, datagram :: rest => do
      let (bufs, returned) ← addFragment unset bufs datagram 0
      let later ← feed unset bufs rest
      return returned :: later

/-! ## What fragmentation should do -/

/-- The fragment carries the byte at an offset of the payload. -/
def carries (x : Int) (frag : SizedDatagram Content) : Bool :=
  decide (frag.fragmentOffset ≤ x ∧ x < frag.fragmentOffset + (frag.byteLength - frag.headerLength))

/-- The fragments are a partition, and any order gives the datagram back. -/
structure FragmentsExactly (unset : Nat) (datagram : SizedDatagram Content)
    (mtu : Int) (frags : List (SizedDatagram Content)) : Prop where
  sent : fragmentAndSend datagram mtu = some (frags.map .out)
  exact : ∀ x : Int,
    frags.countP (carries x) = if 0 ≤ x ∧ x < datagram.byteLength - datagram.headerLength then 1
      else 0
  fits : ∀ frag ∈ frags, frag.byteLength ≤ mtu
  last : ∃ front frag, frags = front ++ [frag] ∧
    frag.moreFragments = false ∧ ∀ other ∈ front, other.moreFragments = true
  reassembled : ∀ order : List (SizedDatagram Content), order.Perm frags →
    ∃ whole, whole.byteLength = datagram.byteLength ∧
      feed unset [] order = .ok (List.replicate (order.length - 1) none ++ [some whole])

/-! ## The number of fragments -/

theorem power_lt_overflow (format : Format) (room : 17 < format.maxExponent + format.precision) :
    (2 : ℚ) ^ 17 < format.overflow := by
  rw [Format.overflow, ← zpow_natCast]
  exact zpow_lt_zpow_right₀ one_lt_two room

section Sizes

variable {byteLength mtu : Int} (header : 0 ≤ headerLength)
    (room : headerLength < mtu) (small : byteLength < 65536)

include header room small

theorem noOfFragments_eq (large : mtu < byteLength) :
    noOfFragments byteLength headerLength mtu =
      (byteLength - headerLength) / (mtu - headerLength) + 1 := by
  have quotient : (byteLength - headerLength).tdiv (mtu - headerLength) =
      (byteLength - headerLength) / (mtu - headerLength) :=
    Int.tdiv_eq_ediv_of_nonneg (by omega)
  have low : 0 ≤ (byteLength - headerLength) / (mtu - headerLength) :=
    Int.ediv_nonneg (by omega) (by omega)
  have high : (byteLength - headerLength) / (mtu - headerLength) < 65536 := by
    apply Int.ediv_lt_of_lt_mul (by omega)
    nlinarith
  dsimp only [noOfFragments]
  rw [quotient]
  generalize (byteLength - headerLength) / (mtu - headerLength) = k at *
  have half (format : Format) (bits : (2 : ℤ) ^ 18 ≤ 2 ^ format.precision)
      (lowest : format.minExponent ≤ -1) (inside : (2 : ℚ) ^ 17 < format.overflow) :
      round format ((k : ℚ) + 1 / 2) = .finite ((k : ℚ) + 1 / 2) := by
    have value : (k : ℚ) + 1 / 2 = ((2 * k + 1 : ℤ) : ℚ) * 2 ^ (-1 : ℤ) := by
      push_cast
      ring
    have few : |2 * k + 1| ≤ 2 ^ format.precision := by
      rw [abs_of_nonneg (by omega)]
      omega
    rw [value]
    apply round_exact few lowest
    rw [← value, abs_of_nonneg (by positivity)]
    have cast : (k : ℚ) < 65536 := by exact_mod_cast high
    linarith
  have whole : ofInt binary64 k = .finite k := by
    apply ofInt_of_bits
    rw [abs_of_nonneg low]
    show k ≤ 2 ^ 53
    omega
  have sum : add binary64 (.finite k) (.finite (1 / 2)) = .finite ((k : ℚ) + 1 / 2) :=
    half _ (by decide) (by decide) (power_lt_overflow _ (by decide))
  have single : convert binary32 (.finite ((k : ℚ) + 1 / 2)) = .finite ((k : ℚ) + 1 / 2) :=
    half _ (by decide) (by decide) (power_lt_overflow _ (by decide))
  have above : ⌈(k : ℚ) + 1 / 2⌉ = k + 1 := by
    rw [Int.ceil_eq_iff]
    push_cast
    constructor <;> linarith
  rw [whole, sum, single, ceil, above]
  exact toInteger_intCast (by omega) (by omega)

theorem last_fragment_exceeds (large : mtu < byteLength) :
    (noOfFragments byteLength headerLength mtu - 1) *
        (mtu - headerLength) ≤ byteLength - headerLength ∧
      byteLength - headerLength <
        noOfFragments byteLength headerLength mtu * (mtu - headerLength) := by
  rw [noOfFragments_eq header room small large]
  have split := Int.emod_add_mul_ediv (byteLength - headerLength) (mtu - headerLength)
  have rest := Int.emod_nonneg (byteLength - headerLength) (show mtu - headerLength ≠ 0 by omega)
  have below := Int.emod_lt_of_pos (byteLength - headerLength)
    (show 0 < mtu - headerLength by omega)
  constructor
  all_goals
    linarith [mul_comm (mtu - headerLength) ((byteLength - headerLength) / (mtu - headerLength))]

theorem noOfFragments_pos (large : mtu < byteLength) :
    1 < noOfFragments byteLength headerLength mtu := by
  rw [noOfFragments_eq header room small large]
  have some : 1 ≤ (byteLength - headerLength) / (mtu - headerLength) := by
    rw [Int.le_ediv_iff_mul_le (by omega)]
    omega
  omega

end Sizes

/-! ## The fragments exceed the datagram -/

theorem eq_of_sent {sent : List (SizedDatagram Content)}
    (same : frags.map sendDatagramToOutput = sent.map .out) : sent = frags := by
  induction frags generalizing sent with
  | nil =>
    exact List.map_eq_nil_iff.mp same.symm
  | cons _ _ induction =>
    cases sent with
    | nil => cases same
    | cons _ _ =>
      rw [List.map_cons, List.map_cons, List.cons.injEq] at same
      have head := same.1
      unfold sendDatagramToOutput at head
      split_ifs at head
      cases head
      rw [induction same.2]

theorem sent_eq_fragments (room : datagram.headerLength < mtu) (large : mtu < datagram.byteLength)
    (sent : fragmentAndSend datagram mtu = some (frags.map .out)) :
    frags = fragments datagram mtu := by
  rw [fragmentAndSend, if_neg (not_le.mpr large), if_neg room.ne'] at sent
  split_ifs at sent
  · cases frags with
    | nil => simp at sent
    | cons _ _ => simp at sent
  · exact eq_of_sent (Option.some_inj.mp sent)

section Excess

variable {datagram : SizedDatagram Content} {mtu : Int}
    (header : 0 ≤ datagram.headerLength) (room : datagram.headerLength < mtu)
    (large : mtu < datagram.byteLength) (small : datagram.byteLength < 65536)

include header room large small

theorem carries_excess :
    ∃ frag ∈ fragments datagram mtu,
      carries (datagram.byteLength - datagram.headerLength) frag = true := by
  have exceeds := last_fragment_exceeds header room small large
  have several := noOfFragments_pos header room small large
  obtain ⟨count, value⟩ := Int.eq_ofNat_of_zero_le
    (show 0 ≤ noOfFragments datagram.byteLength datagram.headerLength mtu by omega)
  rw [value] at exceeds several
  refine ⟨fragment datagram mtu count (count - 1), ?_, ?_⟩
  · rw [fragments, value]
    apply List.mem_map_of_mem
    rw [List.mem_range]
    omega
  · have position : ((count - 1 : Nat) : Int) = count - 1 := by omega
    rw [carries, fragment, decide_eq_true_eq, position]
    constructor
    · exact exceeds.1
    · linarith [exceeds.2]

/-- Whatever the sizes are, the fragments do not make up the datagram. -/
theorem not_fragmentsExactly (unset : Nat) (frags : List (SizedDatagram Content)) :
    ¬FragmentsExactly unset datagram mtu frags := by
  intro exactly
  have same := sent_eq_fragments room large exactly.sent
  subst same
  have none := exactly.exact (datagram.byteLength - datagram.headerLength)
  rw [if_neg (by omega), List.countP_eq_zero] at none
  rcases carries_excess header room large small with ⟨_, member, carried⟩
  exact none _ member carried

end Excess

/-- 3000 bytes, of which 20 are the header. -/
def sampleDatagram : SizedDatagram Unit where
  timeToLive := 32
  byteLength := 3000
  encapsulatedMsg := some ()

theorem sampleDatagram_not_fragmented :
    ¬FragmentsExactly 0 sampleDatagram 1500 (fragments sampleDatagram 1500) :=
  not_fragmentsExactly (by decide) (by decide) (by decide) (by decide) 0 _

/-- Three fragments of 1480 bytes for 2980 bytes. -/
theorem three_fragments_exceed : ¬∃ frags, FragmentsExactly 0 sampleDatagram 1500 frags := by
  rintro ⟨_, exactly⟩
  have same := sent_eq_fragments (by decide) (by decide) exactly.sent
  subst same
  have none := exactly.exact 2980
  rw [if_neg (by decide), List.countP_eq_zero] at none
  have excess : ∃ frag ∈ fragments sampleDatagram 1500, carries 2980 frag = true :=
    carries_excess (by decide) (by decide) (by decide) (by decide)
  rcases excess with ⟨_, member, carried⟩
  exact none _ member carried

end OmnetDsi.Ipv4.Fragments
