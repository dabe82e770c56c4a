import OmnetDsi.HeaderSerializers.SCTPSerializer
import Mathlib.Data.List.Nodup

/-!
# Round trips of SCTP messages

What is parsed from a serialized message, and when it is the message again.
The checksum is taken before the field of the checksum is cleared, so that it
is right only when the buffer had zeros there.
-/

namespace OmnetDsi.HeaderSerializers.SCTPRoundTrip

open BitVec (extractLsb' extractLsb'_append_eq_left extractLsb'_append_eq_right)
open HeaderSerializers.SCTPSerializer Library.TableChecksums Library.WireBuffers
open Library.WireFields List SCTPChunk

/-! ## What is to come back -/

/-- The message is the same after it was serialized and parsed. -/
def RoundTrip (msg : SCTPMessage) (buf : Buffer) (bufsize : BitVec 32) : Prop :=
  ∃ written dest, serialize msg buf bufsize = .ok written ∧
    parse written.1 written.2 = .ok dest ∧ dest.checksumOk = true ∧
      dest.srcPort = msg.srcPort ∧ dest.destPort = msg.destPort ∧
        dest.tag = msg.tag ∧ dest.chunks = msg.chunks

/-- Chunks whose contents the wire format can express. -/
def Admissible : ChunkBody → Prop
  | .DATA chunk => chunk.data ≠ []
  | .INIT chunk =>
    (∀ address ∈ chunk.addresses, ∃ addr, address = .v4 addr) ∧ chunk.unrecognizedParameters = []
  | .SACK chunk =>
    ∀ gap ∈ chunk.gaps, (gap.1 - chunk.cumTsnAck).toNat ≤ 65535 ∧
      (gap.2 - chunk.cumTsnAck).toNat ≤ 65535
  | .COOKIE_ECHO cookie stateCookie unrecognizedParameters =>
    cookie = [] ∧ stateCookie.isSome = true ∧ unrecognizedParameters = []
  | .ABORT _ | .SHUTDOWN _ | .SHUTDOWN_ACK | .COOKIE_ACK
  | .SHUTDOWN_COMPLETE _ => True
  | .INIT_ACK _ _ _ | .HEARTBEAT _ | .HEARTBEAT_ACK _ | .ERRORTYPE _ => False

/-- The length of a chunk on the wire, without its padding. -/
def wireLength : ChunkBody → Nat
  | .INIT chunk => 28 + 8 * chunk.addresses.length
  | body => body.associationLength

/-- What is not sent has its default value. -/
def Unmarked : ChunkBody → Prop
  | .DATA chunk => chunk.enqueuingTime = 0
  | .INIT chunk => chunk.forwardTsn = false
  | _ => True

/-- The room that the chunks take in the buffer. -/
def totalLength : List SCTPChunk → Nat
  | [] => 0
  | chunk :: rest => ADD_PADDING (wireLength chunk.body) + totalLength rest

/--
The message fits into the buffer, the lengths of its chunks fit into their
fields, nothing is lost that is not sent, and the buffer had zeros in the
place of the checksum.
-/
structure Carried (msg : SCTPMessage) (buf : Buffer) (bufsize : BitVec 32) : Prop where
  fits : 12 + totalLength msg.chunks ≤ bufsize.toNat
  lengths : ∀ chunk ∈ msg.chunks, wireLength chunk.body < 65536
  unmarked : ∀ chunk ∈ msg.chunks, Unmarked chunk.body
  cleared : get32 buf 8 = 0

/-! ## Numbers and lists of numbers -/

section Numbers

theorem padded_le (x : Nat) : x ≤ ADD_PADDING x := by
  unfold ADD_PADDING
  omega

theorem padded_of_dvd (words : x % 4 = 0) : ADD_PADDING x = x := by
  unfold ADD_PADDING
  omega

theorem Has.number (has : Has buf offset (number16 value)) :
    (get16 buf offset).toNat = value % 65536 := by
  rw [has.get16, BitVec.toNat_ofNat]

theorem near_eq {cumTsnAck : BitVec 32} (near : (value - cumTsnAck).toNat ≤ 65535) :
    ((value - cumTsnAck).setWidth 16).setWidth 32 + cumTsnAck = value := by
  have kept : ((value - cumTsnAck).setWidth 16).setWidth 32 = value - cumTsnAck := by
    apply BitVec.eq_of_toNat_eq
    rw [BitVec.toNat_setWidth, BitVec.toNat_setWidth]
    omega
  rw [kept, BitVec.sub_add_cancel]

/-- What is written for the gaps of a SACK chunk. -/
def gapBytes (cumTsnAck : BitVec 32) (gaps : List (BitVec 32 × BitVec 32)) : List Byte :=
  gaps.flatMap fun gap =>
    be16 ((gap.1 - cumTsnAck).setWidth 16) ++ be16 ((gap.2 - cumTsnAck).setWidth 16)

theorem length_gapBytes (cumTsnAck : BitVec 32) (gaps : List (BitVec 32 × BitVec 32)) :
    (gapBytes cumTsnAck gaps).length = 4 * gaps.length := by
  induction gaps with
  | nil => rfl
  | cons _ _ induction =>
    unfold gapBytes at induction ⊢
    rw [flatMap_cons, length_append, induction, length_append,
      length_be16, length_be16, length_cons]
    omega

theorem length_dupBytes (dups : List (BitVec 32)) :
    (dups.flatMap be32).length = 4 * dups.length := by
  induction dups with
  | nil => rfl
  | cons _ _ induction =>
    rw [flatMap_cons, length_append, induction, length_be32, length_cons]
    omega

theorem length_addressParameters (addresses : List (BitVec 32)) :
    (addressParameters addresses).length = 8 * addresses.length := by
  induction addresses with
  | nil => rfl
  | cons _ _ induction =>
    unfold addressParameters at induction ⊢
    rw [flatMap_cons, length_append, induction, length_append,
      length_append, length_be16, length_be16, length_be32, length_cons]
    omega

theorem parseGaps_eq
    (near : ∀ gap ∈ gaps, (gap.1 - cumTsnAck).toNat ≤ 65535 ∧ (gap.2 - cumTsnAck).toNat ≤ 65535)
    (has : Has buf offset (gapBytes cumTsnAck gaps)) :
    parseGaps buf cumTsnAck offset gaps.length = gaps := by
  induction gaps generalizing offset with
  | nil => rfl
  | cons _ _ induction =>
    obtain ⟨here, following⟩ := has_append.mp has
    obtain ⟨start, stop⟩ := has_append.mp here
    rw [length_append, length_be16, length_be16] at following
    rw [length_be16] at stop
    obtain ⟨first, last⟩ := near _ mem_cons_self
    rw [length_cons, parseGaps, start.get16, stop.get16, near_eq first, near_eq last,
      induction (fun other member => near _ (mem_cons_of_mem _ member)) following]

theorem parseDups_eq
    (has : Has buf offset (dups.flatMap be32)) : parseDups buf offset dups.length = dups := by
  induction dups generalizing offset with
  | nil => rfl
  | cons _ _ induction =>
    obtain ⟨here, following⟩ := has_append.mp has
    rw [length_be32] at following
    rw [length_cons, parseDups, here.get32, induction following]

theorem parseParameters_addresses (count : Nat) (enough : count ≤ addresses.length)
    (has : Has buf (start + 20 + parptr) (addressParameters addresses))
    (length : cLen = 20 + parptr + 8 * count) (fueled : count < fuel) (found : Parameters) :
    parseParameters false buf start cLen fuel parptr found =
      .ok
        { found with
          addresses := found.addresses ++ (addresses.take count).map .v4
          chunklen := found.chunklen + 8 * count } := by
  induction count generalizing addresses parptr fuel found with
  | zero =>
    obtain ⟨fuel, rfl⟩ := Nat.exists_eq_succ_of_ne_zero (Nat.pos_iff_ne_zero.mp fueled)
    rw [parseParameters, if_neg (by omega), take_zero, map_nil, append_nil]
    rfl
  | succ count induction =>
    obtain ⟨fuel, rfl⟩ := Nat.exists_eq_succ_of_ne_zero (by omega : fuel ≠ 0)
    cases addresses with
    | nil => exact absurd enough (Nat.not_succ_le_zero _)
    | cons _ _ =>
      unfold addressParameters at has
      obtain ⟨here, following⟩ := has_append.mp has
      obtain ⟨header, value⟩ := has_append.mp here
      obtain ⟨paramType, size⟩ := has_append.mp header
      rw [length_append, length_be16, length_be16] at value
      rw [length_be16] at size
      have next : parptr + ADD_PADDING (8 : BitVec 16).toNat = parptr + 8 := rfl
      rw [parseParameters, if_pos (by omega)]
      dsimp only
      rw [paramType.get16, size.get16, value.get32, next, if_neg (by decide), if_pos rfl,
        induction (Nat.le_of_succ_le_succ enough) following (by omega) (by omega), take_succ_cons,
        map_cons, append_assoc, singleton_append]
      congr 2
      change found.chunklen + 8 + 8 * count = found.chunklen + 8 * (count + 1)
      omega

end Numbers

/-! ## Chunks in the buffer -/

/-- The fields are in the buffer. -/
def Placed (fields : List Field) (buf : Buffer) (start : Nat) : Prop :=
  ∀ field ∈ fields, Has buf (start + field.offset) field.bytes

/-- What the information of a HEARTBEAT_ACK chunk is read as. -/
def acknowledged (info : List Byte) : SCTPHeartbeatChunk where
  remoteAddr := .v4 (get32 (putBytes (fun _ => 0) 0 info) 0)
  timeField := get32 (putBytes (fun _ => 0) 0 info) 4

/-- What the parser makes of the chunk that a body was sent as. -/
def received : ChunkBody → ChunkBody
  | .DATA chunk => .DATA { chunk with enqueuingTime := 0 }
  | .INIT chunk => .INIT { chunk with forwardTsn := false }
  | .HEARTBEAT chunk =>
    match chunk.remoteAddr with
    | .v4 addr => .HEARTBEAT { info := be32 addr ++ be32 chunk.timeField }
    | .v6 _ _ _ _ => .HEARTBEAT {}
  | .HEARTBEAT_ACK chunk => .HEARTBEAT_ACK (acknowledged chunk.info)
  | body => body

/--
The parser finds the body at the start of the chunk if its length fits into
the length field, and otherwise a chunk that is shorter than the one sent.
-/
structure Recovered (body : ChunkBody) (buf : Buffer) (start : Nat) : Prop where
  small : wireLength body < 65536 →
    parseChunk buf start =
      .ok (some ⟨received body, body.associationLength⟩, ADD_PADDING (wireLength body))
  large : 65536 ≤ wireLength body → ∀ result,
    parseChunk buf start = .ok result →
      ∃ chunk, result.1 = some chunk ∧ chunk.byteLength < body.associationLength

theorem Recovered.of_small {body : ChunkBody}
    {length : Nat} (sized : wireLength body = length) (few : length < 65536)
    (same : parseChunk buf start =
      .ok (some ⟨received body, body.associationLength⟩, ADD_PADDING length)) :
    Recovered body buf start := by
  subst sized
  exact ⟨fun _ => same, fun tooLong => absurd few (Nat.not_lt.mpr tooLong)⟩

section Chunks

theorem flags_recovered (uBit bBit eBit : Bool) :
    let flags := flag uBit 0x04 ||| flag bBit 0x02 ||| flag eBit 0x01
    decide (flags &&& 0x04 ≠ 0) = uBit ∧
      decide (flags &&& 0x02 ≠ 0) = bBit ∧ decide (flags &&& 0x01 ≠ 0) = eBit := by
  cases uBit <;> cases bBit <;> cases eBit <;> decide

theorem bit_recovered (bit : Bool) : decide (flag bit 0x01 &&& 0x01 ≠ 0) = bit := by
  cases bit <;> decide

theorem data_recovered (chunk : SCTPDataChunk) (payload : chunk.data ≠ [])
    (placed : Placed (chunk.fields (16 + chunk.data.length)) buf start) :
    Recovered (.DATA chunk) buf start := by
  simp only [Placed, SCTPDataChunk.fields, forall_mem_cons] at placed
  obtain ⟨type, flags, tsn, sid, ssn, ppid, size, data, _⟩ := placed
  have number := Has.number size
  obtain ⟨uBit, bBit, eBit⟩ := flags_recovered chunk.uBit chunk.bBit chunk.eBit
  have parsed : parseChunk buf start = (do
      let chunk ← parseData buf start (get16 buf (start + 2)).toNat
      .ok (some chunk, ADD_PADDING (get16 buf (start + 2)).toNat)) := by
    have zero : buf start = 0 := type.byte
    rw [parseChunk, zero]
    rfl
  rw [number] at parsed
  constructor
  · intro length
    change 16 + chunk.data.length < 65536 at length
    rw [Nat.mod_eq_of_lt length] at parsed
    rw [parsed]
    have padded := padded_le (16 + chunk.data.length)
    rw [parseData, if_neg (by omega)]
    dsimp only
    rw [flags.byte, tsn.get32, sid.get16, ssn.get16, ppid.get32,
      Nat.add_sub_cancel_left, data, uBit, bBit, eBit]
    rfl
  · intro tooLong _ success
    change 65536 ≤ 16 + chunk.data.length at tooLong
    rw [parsed] at success
    unfold parseData at success
    split at success
    · cases success
    · cases success
      refine ⟨_, rfl, ?_⟩
      change 16 + ((16 + chunk.data.length) % 65536 - 16) < 16 + chunk.data.length
      omega

/-- The fields of an INIT chunk with IPv4 addresses. -/
def initFields (chunk : SCTPInitChunk) (addresses : List (BitVec 32)) : List Field :=
  ⟨0, [1]⟩ :: ⟨1, [0]⟩ :: chunk.fields addresses ++
    [⟨2, number16 (20 + (8 + 8 * addresses.length))⟩]

/-- The parameters of an INIT chunk that is as long as so many addresses. -/
theorem parseParameters_init (count : Nat) (supported : Has buf (start + 20) (be16 12))
    (size : Has buf (start + 22) (be16 6))
    (has : Has buf (start + 28) (addressParameters addresses))
    (enough : count ≤ addresses.length) (length : cLen = 28 + 8 * count) :
    parseParameters false buf start cLen (cLen + 1) 0 {} =
      .ok
        { addresses := (addresses.take count).map .v4
          chunklen := 20 + 8 * count } := by
  have next : 0 + ADD_PADDING (6 : BitVec 16).toNat = 8 := rfl
  have type : get16 buf (start + 20 + 0) = 12 := supported.get16
  have bytes : get16 buf (start + 20 + 0 + 2) = 6 := size.get16
  rw [parseParameters, if_pos (by omega)]
  dsimp only
  rw [type, bytes, next, if_pos rfl, parseParameters_addresses _ enough has (by omega) (by omega)]
  rfl

theorem init_recovered (chunk : SCTPInitChunk) (addresses : List (BitVec 32))
    (all : chunk.addresses = addresses.map .v4) (none : chunk.unrecognizedParameters = [])
    (placed : Placed (initFields chunk addresses) buf start) :
    Recovered (.INIT chunk) buf start := by
  have count : chunk.addresses.length = addresses.length := by rw [all, length_map]
  simp only [Placed, initFields, SCTPInitChunk.fields, cons_append,
    nil_append, forall_mem_cons] at placed
  obtain ⟨type, _, initTag, a_rwnd, mos, mis, initTSN, supported, size, _, has, length, _⟩ := placed
  have number := Has.number length
  have parsed : parseChunk buf start = (do
      let chunk ← parseInit false buf start (ADD_PADDING (get16 buf (start + 2)).toNat)
      .ok (some ⟨.INIT chunk.1, chunk.2.chunklen⟩, ADD_PADDING (get16 buf (start + 2)).toNat)) := by
    have one : buf start = 1 := type.byte
    rw [parseChunk, one]
    rfl
  rw [number] at parsed
  constructor
  · intro small
    change 28 + 8 * chunk.addresses.length < 65536 at small
    rw [Nat.mod_eq_of_lt (by omega), padded_of_dvd (by omega)] at parsed
    rw [parsed, parseInit, parseParameters_init _ supported size has le_rfl (by omega), take_length,
      ← all, initTag.get32, a_rwnd.get32, mos.get16, mis.get16, initTSN.get32]
    have room : ADD_PADDING (wireLength (.INIT chunk)) = 20 + (8 + 8 * addresses.length) := by
      change ADD_PADDING (28 + 8 * chunk.addresses.length) = _
      rw [count, padded_of_dvd (by omega)]
      omega
    have same : received (.INIT chunk) = .INIT { chunk with forwardTsn := false } := rfl
    rw [room, same, none.symm, ← count]
    rfl
  · intro tooLong _ success
    change 65536 ≤ 28 + 8 * chunk.addresses.length at tooLong
    rw [padded_of_dvd (by omega)] at parsed
    rw [parsed] at success
    unfold parseInit at success
    by_cases room : (20 + (8 + 8 * addresses.length)) % 65536 ≤ 20
    · rw [parseParameters, if_neg (by omega)] at success
      cases success
      refine ⟨_, rfl, ?_⟩
      change 20 < 20 + 8 * chunk.addresses.length
      omega
    · rw [parseParameters_init (((20 + (8 + 8 * addresses.length)) % 65536 - 28) / 8) supported
        size has (by omega) (by omega)] at success
      cases success
      refine ⟨_, rfl, ?_⟩
      change 20 + 8 * (((20 + (8 + 8 * addresses.length)) % 65536 - 28) / 8) <
        20 + 8 * chunk.addresses.length
      omega

theorem sack_recovered (chunk : SCTPSackChunk)
    (near : ∀ gap ∈ chunk.gaps,
      (gap.1 - chunk.cumTsnAck).toNat ≤ 65535 ∧ (gap.2 - chunk.cumTsnAck).toNat ≤ 65535)
    (placed : Placed
      (chunk.fields (16 + 4 * chunk.gaps.length + 4 * chunk.dupTsns.length)) buf start) :
    Recovered (.SACK chunk) buf start := by
  simp only [Placed, SCTPSackChunk.fields, forall_mem_cons] at placed
  obtain ⟨type, length, cumTsnAck, a_rwnd, ngaps, ndups, gaps, dups, _⟩ := placed
  have number := Has.number length
  have parsed : parseChunk buf start =
      .ok (some ⟨.SACK (parseSack buf start), ADD_PADDING (get16 buf (start + 2)).toNat⟩,
        ADD_PADDING (get16 buf (start + 2)).toNat) := by
    have three : buf start = 3 := type.byte
    rw [parseChunk, three]
    rfl
  rw [number, padded_of_dvd (by omega)] at parsed
  constructor
  · intro small
    change 16 + 4 * chunk.gaps.length + 4 * chunk.dupTsns.length < 65536 at small
    have gapNumber := Has.number ngaps
    have dupNumber := Has.number ndups
    rw [Nat.mod_eq_of_lt (by omega)] at gapNumber dupNumber
    rw [Nat.mod_eq_of_lt small] at parsed
    rw [← Nat.add_assoc] at dups
    have sack : parseSack buf start = chunk := by
      dsimp only [parseSack]
      rw [cumTsnAck.get32, a_rwnd.get32, gapNumber, dupNumber,
        parseGaps_eq near gaps, parseDups_eq dups]
    rw [parsed, sack]
    have room : ADD_PADDING (wireLength (.SACK chunk)) =
        16 + 4 * chunk.gaps.length + 4 * chunk.dupTsns.length := by
      change ADD_PADDING (16 + 4 * chunk.gaps.length + 4 * chunk.dupTsns.length) = _
      exact padded_of_dvd (by omega)
    rw [room]
    rfl
  · intro tooLong _ success
    change 65536 ≤ 16 + 4 * chunk.gaps.length + 4 * chunk.dupTsns.length at tooLong
    rw [parsed] at success
    cases success
    refine ⟨_, rfl, ?_⟩
    change (16 + 4 * chunk.gaps.length + 4 * chunk.dupTsns.length) % 65536 <
      16 + 4 * chunk.gaps.length + 4 * chunk.dupTsns.length
    omega

theorem tag_recovered (has : Has buf offset tag.toList) :
    Vector.ofFn (fun i : Fin 32 => buf (offset + i)) = tag := by
  have length : tag.toList.length = 32 := by simp
  have byte : ∀ i (small : i < 32), buf (offset + i) = tag[i] := by
    intro i small
    have front : tag.toList = tag.toList.take i ++ (tag[i] :: tag.toList.drop (i + 1)) := by
      have here : tag[i] = tag.toList[i] := by simp
      rw [here, ← drop_eq_getElem_cons, take_append_drop]
    rw [front] at has
    have later := (has_append.mp has).2
    rw [length_take, length, Nat.min_eq_left small.le] at later
    exact (has_cons.mp later).1
  apply Vector.ext
  intro i _
  rw [Vector.getElem_ofFn]
  exact byte i _

theorem cookie_recovered (cookie : SCTPCookie)
    (placed : Placed (⟨0, [10]⟩ :: ⟨2, number16 80⟩ :: cookie.fields 4) buf start) :
    Recovered (.COOKIE_ECHO [] (some cookie) []) buf start := by
  simp only [Placed, SCTPCookie.fields, forall_mem_cons] at placed
  obtain ⟨type, length, creationTime, localTag, peerTag, localTieTag, peerTieTag, _⟩ := placed
  have number : (get16 buf (start + 2)).toNat = 80 := Has.number length
  have first : get32 buf (start + 4) = cookie.creationTime := creationTime.get32
  have second : get32 buf (start + 8) = cookie.localTag := localTag.get32
  have third : get32 buf (start + 12) = cookie.peerTag := peerTag.get32
  have own := tag_recovered localTieTag
  have other := tag_recovered peerTieTag
  have parsed : parseCookie buf start = cookie := by
    rw [parseCookie, first, second, third, own, other]
  have ten : buf start = 10 := type.byte
  refine .of_small (show _ = 80 from rfl) (by decide) ?_
  rw [parseChunk, ten, number, parsed]
  rfl

theorem abort_recovered (T_Bit : Bool)
    (placed : Placed [⟨0, [6]⟩, ⟨1, [flag T_Bit 0x01]⟩, ⟨2, number16 4⟩] buf start) :
    Recovered (.ABORT T_Bit) buf start := by
  simp only [Placed, forall_mem_cons] at placed
  obtain ⟨type, flags, length, _⟩ := placed
  have number : (get16 buf (start + 2)).toNat = 4 := Has.number length
  have six : buf start = 6 := type.byte
  refine .of_small (show _ = 4 from rfl) (by decide) ?_
  rw [parseChunk, six, number, flags.byte]
  change Except.ok (some (mk (.ABORT (decide (flag T_Bit 0x01 &&& 0x01 ≠ 0))) 4), 4) = _
  rw [bit_recovered]
  rfl

theorem shutdown_recovered (cumTsnAck : BitVec 32)
    (placed : Placed [⟨0, [7]⟩, ⟨4, be32 cumTsnAck⟩, ⟨2, number16 8⟩] buf start) :
    Recovered (.SHUTDOWN cumTsnAck) buf start := by
  simp only [Placed, forall_mem_cons] at placed
  obtain ⟨type, ack, length, _⟩ := placed
  have number : (get16 buf (start + 2)).toNat = 8 := Has.number length
  have seven : buf start = 7 := type.byte
  refine .of_small (show _ = 8 from rfl) (by decide) ?_
  rw [parseChunk, seven, number, ack.get32]
  rfl

theorem shutdownAck_recovered (placed : Placed [⟨0, [8]⟩, ⟨2, number16 4⟩] buf start) :
    Recovered .SHUTDOWN_ACK buf start := by
  simp only [Placed, forall_mem_cons] at placed
  obtain ⟨type, length, _⟩ := placed
  have number : (get16 buf (start + 2)).toNat = 4 := Has.number length
  have eight : buf start = 8 := type.byte
  refine .of_small (show _ = 4 from rfl) (by decide) ?_
  rw [parseChunk, eight, number]
  rfl

theorem cookieAck_recovered (placed : Placed [⟨0, [11]⟩, ⟨2, number16 4⟩] buf start) :
    Recovered .COOKIE_ACK buf start := by
  simp only [Placed, forall_mem_cons] at placed
  obtain ⟨type, length, _⟩ := placed
  have number : (get16 buf (start + 2)).toNat = 4 := Has.number length
  have eleven : buf start = 11 := type.byte
  refine .of_small (show _ = 4 from rfl) (by decide) ?_
  rw [parseChunk, eleven, number]
  rfl

theorem shutdownComplete_recovered (TBit : Bool)
    (placed : Placed [⟨0, [14]⟩, ⟨2, number16 4⟩, ⟨1, [flag TBit 0x01]⟩] buf start) :
    Recovered (.SHUTDOWN_COMPLETE TBit) buf start := by
  simp only [Placed, forall_mem_cons] at placed
  obtain ⟨type, length, flags, _⟩ := placed
  have number : (get16 buf (start + 2)).toNat = 4 := Has.number length
  have fourteen : buf start = 14 := type.byte
  refine .of_small (show _ = 4 from rfl) (by decide) ?_
  rw [parseChunk, fourteen, number, flags.byte]
  change Except.ok (some (mk (.SHUTDOWN_COMPLETE (decide (flag TBit 0x01 &&& 0x01 ≠ 0))) 4), 4) = _
  rw [bit_recovered]
  rfl

theorem heartbeat_recovered (chunk : SCTPHeartbeatChunk) (addr : BitVec 32)
    (ipv4 : chunk.remoteAddr = .v4 addr)
    (placed : Placed
      (⟨0, [4]⟩ :: ⟨2, number16 16⟩ :: heartbeatFields addr chunk.timeField) buf start) :
    Recovered (.HEARTBEAT chunk) buf start := by
  simp only [Placed, heartbeatFields, forall_mem_cons] at placed
  obtain ⟨type, length, one, size, address, time, _⟩ := placed
  have number : (get16 buf (start + 2)).toNat = 16 := Has.number length
  have bytes : (get16 buf (start + 6)).toNat = 12 := Has.number size
  have info : bytesFrom buf (start + 8) 8 = be32 addr ++ be32 chunk.timeField :=
    has_append.mpr ⟨address, time⟩
  have same : received (.HEARTBEAT chunk) =
      .HEARTBEAT { info := be32 addr ++ be32 chunk.timeField } := by
    dsimp only [received]
    rw [ipv4]
  have found : parseHeartbeat buf start 16 17 0 [] = .ok (bytesFrom buf (start + 8) 8) := by
    change (if get16 buf (start + 4) = 1 then _ else _) = _
    rw [if_pos one.get16, bytes]
    rfl
  have four : buf start = 4 := type.byte
  refine .of_small (show _ = 16 from rfl) (by decide) ?_
  rw [same, ← info, parseChunk, four, number]
  change (parseHeartbeat buf start 16 17 0 [] >>= _) = _
  rw [found]
  rfl

theorem acknowledged_eq (addr timeField : BitVec 32) :
    acknowledged (be32 addr ++ be32 timeField) = { remoteAddr := .v4 addr, timeField } := by
  have has : Has (putBytes (fun _ => 0) 0 (be32 addr ++ be32 timeField)) 0
      (be32 addr ++ be32 timeField) := has_putBytes 0 _
  obtain ⟨first, second⟩ := has_append.mp has
  rw [acknowledged, first.get32]
  have time : get32 (putBytes (fun _ => 0) 0 (be32 addr ++ be32 timeField)) 4 =
      timeField := second.get32
  rw [time]

theorem heartbeatAck_recovered (chunk : SCTPHeartbeatChunk) (addr timeField : BitVec 32)
    (info : chunk.info = be32 addr ++ be32 timeField)
    (placed : Placed
      [⟨0, [5]⟩, ⟨2, number16 16⟩, ⟨4, be16 1⟩,
        ⟨6, number16 (chunk.info.length + 4)⟩, ⟨8, chunk.info⟩] buf start) :
    Recovered (.HEARTBEAT_ACK chunk) buf start := by
  rw [info] at placed
  simp only [Placed, forall_mem_cons] at placed
  obtain ⟨type, length, one, _, bytes, _⟩ := placed
  obtain ⟨address, time⟩ := has_append.mp bytes
  have number : (get16 buf (start + 2)).toNat = 16 := Has.number length
  have same : received (.HEARTBEAT_ACK chunk) =
      .HEARTBEAT_ACK { remoteAddr := .v4 addr, timeField } := by
    dsimp only [received]
    rw [info, acknowledged_eq]
  have found : parseHeartbeatAck buf start 16 17 0 {} =
      .ok { remoteAddr := .v4 (get32 buf (start + 8))
            timeField := get32 buf (start + 12) } := by
    change (if get16 buf (start + 4) = 1 then _ else _) = _
    rw [if_pos one.get16]
    rfl
  have first : get32 buf (start + 8) = addr := address.get32
  have second : get32 buf (start + 12) = timeField := time.get32
  have five : buf start = 5 := type.byte
  refine .of_small (show _ = 16 from rfl) (by decide) ?_
  rw [same, parseChunk, five, number]
  change (parseHeartbeatAck buf start 16 17 0 {} >>= _) = _
  rw [found, first, second]
  rfl

end Chunks

/-! ## Chunks that are sent -/

/-- Also the chunks that ask and answer whether the peer is there. -/
def Sendable : ChunkBody → Prop
  | .HEARTBEAT chunk => ∃ addr, chunk.remoteAddr = .v4 addr
  | .HEARTBEAT_ACK chunk => ∃ addr timeField, chunk.info = be32 addr ++ be32 timeField
  | body => Admissible body

/-- The fields that a body is written as. -/
structure Wire (body : ChunkBody) (fields : List Field) : Prop where
  written : ∀ found, body.fields body.associationLength found =
    .ok (fields, ADD_PADDING (wireLength body))
  apart : fields.Pairwise Apart
  within : Within (ADD_PADDING (wireLength body)) fields
  recovered : ∀ buf start, Placed fields buf start → Recovered body buf start

theorem Wire.of_length {body : ChunkBody} {length : Nat} (sized : wireLength body = length)
    (written : ∀ found, body.fields body.associationLength found = .ok (fields, ADD_PADDING length))
    (apart : fields.Pairwise Apart) (within : Within (ADD_PADDING length) fields)
    (recovered : ∀ buf start, Placed fields buf start → Recovered body buf start) :
    Wire body fields := by
  subst sized
  exact ⟨written, apart, within, recovered⟩

@[simp]
theorem length_number16 (value : Nat) : (number16 value).length = 2 := rfl

theorem data_wire (chunk : SCTPDataChunk) (payload : chunk.data ≠ []) :
    Wire (.DATA chunk) (chunk.fields (16 + chunk.data.length)) where
  written _ := rfl
  apart := by simp [SCTPDataChunk.fields, Apart, Field.stop]
  within := by
    change Within (ADD_PADDING (16 + chunk.data.length)) _
    have padded := padded_le (16 + chunk.data.length)
    simp only [Within, SCTPDataChunk.fields, Field.stop, forall_mem_cons,
      length_singleton, length_be16, length_be32, length_number16]
    refine ⟨?_, ?_, ?_, ?_, ?_, ?_, ?_, padded, forall_mem_nil _⟩ <;> omega
  recovered _ _ placed := data_recovered chunk payload placed

theorem get4_all (addresses : List (BitVec 32)) :
    (addresses.map IPvXAddress.v4).mapM IPvXAddress.get4 = .ok addresses := by
  induction addresses with
  | nil => rfl
  | cons _ _ induction =>
    rw [map_cons, mapM_cons, induction]
    rfl

theorem exists_addresses {addresses : List IPvXAddress}
    (all : ∀ address ∈ addresses, ∃ addr, address = .v4 addr) :
    ∃ words : List (BitVec 32), addresses = words.map .v4 := by
  induction addresses with
  | nil => exact ⟨[], rfl⟩
  | cons _ _ induction =>
    obtain ⟨word, rfl⟩ := all _ mem_cons_self
    obtain ⟨words, rfl⟩ := induction fun other member => all _ (mem_cons_of_mem _ member)
    exact ⟨word :: words, rfl⟩

theorem init_wire (chunk : SCTPInitChunk) (addresses : List (BitVec 32))
    (all : chunk.addresses = addresses.map .v4) (none : chunk.unrecognizedParameters = []) :
    Wire (.INIT chunk) (initFields chunk addresses) := by
  have length : wireLength (.INIT chunk) = 28 + 8 * addresses.length := by
    change 28 + 8 * chunk.addresses.length = _
    rw [all, length_map]
  have room : ADD_PADDING (wireLength (.INIT chunk)) = 20 + (8 + 8 * addresses.length) := by
    rw [length, padded_of_dvd (by omega)]
    omega
  refine ⟨?_, ?_, ?_, ?_⟩
  · intro _
    rw [room]
    dsimp only [ChunkBody.fields]
    rw [all, get4_all]
    rfl
  · simp [initFields, SCTPInitChunk.fields, Apart, Field.stop]
  · rw [room]
    simp only [Within, initFields, SCTPInitChunk.fields, Field.stop,
      cons_append, nil_append, forall_mem_cons,
      length_singleton, length_be16, length_be32, length_number16, length_addressParameters]
    refine ⟨?_, ?_, ?_, ?_, ?_, ?_, ?_, ?_, ?_, ?_, ?_, ?_, forall_mem_nil _⟩ <;> omega
  · exact fun _ _ placed => init_recovered _ _ all none placed

theorem sack_wire (chunk : SCTPSackChunk)
    (near : ∀ gap ∈ chunk.gaps,
      (gap.1 - chunk.cumTsnAck).toNat ≤ 65535 ∧ (gap.2 - chunk.cumTsnAck).toNat ≤ 65535) :
    Wire (.SACK chunk) (chunk.fields (16 + 4 * chunk.gaps.length + 4 * chunk.dupTsns.length)) := by
  have room : ADD_PADDING (wireLength (.SACK chunk)) =
      16 + 4 * chunk.gaps.length + 4 * chunk.dupTsns.length := by
    change ADD_PADDING (16 + 4 * chunk.gaps.length + 4 * chunk.dupTsns.length) = _
    exact padded_of_dvd (by omega)
  have gapBytes_length := length_gapBytes chunk.cumTsnAck chunk.gaps
  unfold gapBytes at gapBytes_length
  refine ⟨?_, ?_, ?_, ?_⟩
  · intro _
    rw [room]
    rfl
  · simp only [SCTPSackChunk.fields, pairwise_cons, forall_mem_cons,
      Apart, Field.stop, length_singleton, length_be32,
      length_number16, gapBytes_length, length_dupBytes]
    refine ⟨?_, ?_, ?_, ?_, ?_, ?_, ?_, ?_, Pairwise.nil⟩ <;> grind
  · simp only [Within, SCTPSackChunk.fields, Field.stop, forall_mem_cons,
      length_singleton, length_be32, length_number16, gapBytes_length, length_dupBytes]
    refine ⟨?_, ?_, ?_, ?_, ?_, ?_, ?_, ?_, forall_mem_nil _⟩ <;> omega
  · exact fun _ _ placed => sack_recovered _ near placed

theorem cookie_wire (cookie : SCTPCookie) :
    Wire (.COOKIE_ECHO [] (some cookie) []) (⟨0, [10]⟩ :: ⟨2, number16 80⟩ :: cookie.fields 4) := by
  refine .of_length (show _ = 80 from rfl) (fun _ => rfl) ?_ ?_ fun _ _ => cookie_recovered _
  · simp [SCTPCookie.fields, Apart, Field.stop]
  · simp [Within, SCTPCookie.fields, Field.stop, ADD_PADDING]

theorem abort_wire (T_Bit : Bool) :
    Wire (.ABORT T_Bit) [⟨0, [6]⟩, ⟨1, [flag T_Bit 0x01]⟩, ⟨2, number16 4⟩] := by
  refine .of_length (show _ = 4 from rfl) (fun _ => rfl) ?_ ?_ fun _ _ => abort_recovered _
  · simp [Apart, Field.stop]
  · simp [Within, Field.stop, ADD_PADDING]

theorem shutdown_wire (cumTsnAck : BitVec 32) :
    Wire (.SHUTDOWN cumTsnAck) [⟨0, [7]⟩, ⟨4, be32 cumTsnAck⟩, ⟨2, number16 8⟩] := by
  refine .of_length (show _ = 8 from rfl) (fun _ => rfl) ?_ ?_ fun _ _ => shutdown_recovered _
  · simp [Apart, Field.stop]
  · simp [Within, Field.stop, ADD_PADDING]

theorem shutdownAck_wire : Wire .SHUTDOWN_ACK [⟨0, [8]⟩, ⟨2, number16 4⟩] := by
  refine .of_length (show _ = 4 from rfl) (fun _ => rfl) ?_ ?_ fun _ _ => shutdownAck_recovered
  · simp [Apart, Field.stop]
  · simp [Within, Field.stop, ADD_PADDING]

theorem cookieAck_wire : Wire .COOKIE_ACK [⟨0, [11]⟩, ⟨2, number16 4⟩] := by
  refine .of_length (show _ = 4 from rfl) (fun _ => rfl) ?_ ?_ fun _ _ => cookieAck_recovered
  · simp [Apart, Field.stop]
  · simp [Within, Field.stop, ADD_PADDING]

theorem shutdownComplete_wire (TBit : Bool) :
    Wire (.SHUTDOWN_COMPLETE TBit) [⟨0, [14]⟩, ⟨2, number16 4⟩, ⟨1, [flag TBit 0x01]⟩] := by
  refine .of_length (show _ = 4 from rfl) (fun _ => rfl) ?_ ?_
    fun _ _ => shutdownComplete_recovered _
  · simp [Apart, Field.stop]
  · simp [Within, Field.stop, ADD_PADDING]

theorem heartbeat_wire (chunk : SCTPHeartbeatChunk) (addr : BitVec 32)
    (ipv4 : chunk.remoteAddr = .v4 addr) :
    Wire (.HEARTBEAT chunk)
      (⟨0, [4]⟩ :: ⟨2, number16 16⟩ :: heartbeatFields addr chunk.timeField) := by
  refine .of_length (show _ = 16 from rfl) ?_ ?_ ?_ fun _ _ => heartbeat_recovered _ _ ipv4
  · intro _
    dsimp only [ChunkBody.fields]
    rw [ipv4]
    rfl
  · simp [heartbeatFields, Apart, Field.stop]
  · simp [Within, heartbeatFields, Field.stop, ADD_PADDING]

theorem heartbeatAck_wire (chunk : SCTPHeartbeatChunk) (addr timeField : BitVec 32)
    (info : chunk.info = be32 addr ++ be32 timeField) :
    Wire (.HEARTBEAT_ACK chunk)
      [⟨0, [5]⟩, ⟨2, number16 16⟩, ⟨4, be16 1⟩,
        ⟨6, number16 (chunk.info.length + 4)⟩, ⟨8, chunk.info⟩] := by
  refine .of_length (show _ = 16 from rfl) ?_ ?_ ?_ fun _ _ => heartbeatAck_recovered _ _ _ info
  · intro _
    have some : chunk.info ≠ [] := by
      rw [info]
      exact nofun
    dsimp only [ChunkBody.fields]
    rw [if_pos some]
    rfl
  · simp [Apart, Field.stop]
  · simp [Within, Field.stop, info, ADD_PADDING]

theorem wire_of_sendable {body : ChunkBody} (sendable : Sendable body) :
    ∃ fields, Wire body fields := by
  cases body with
  | DATA _ => exact ⟨_, data_wire _ sendable⟩
  | INIT _ =>
    obtain ⟨all, none⟩ := sendable
    obtain ⟨_, same⟩ := exists_addresses all
    exact ⟨_, init_wire _ _ same none⟩
  | SACK _ => exact ⟨_, sack_wire _ sendable⟩
  | COOKIE_ECHO cookie _ _ =>
    obtain ⟨rfl, some, rfl⟩ := sendable
    obtain ⟨_, rfl⟩ := Option.isSome_iff_exists.mp some
    exact ⟨_, cookie_wire _⟩
  | ABORT _ => exact ⟨_, abort_wire _⟩
  | SHUTDOWN _ => exact ⟨_, shutdown_wire _⟩
  | SHUTDOWN_ACK => exact ⟨_, shutdownAck_wire⟩
  | COOKIE_ACK => exact ⟨_, cookieAck_wire⟩
  | SHUTDOWN_COMPLETE _ => exact ⟨_, shutdownComplete_wire _⟩
  | HEARTBEAT _ =>
    obtain ⟨addr, ipv4⟩ := sendable
    exact ⟨_, heartbeat_wire _ _ ipv4⟩
  | HEARTBEAT_ACK _ =>
    obtain ⟨_, _, info⟩ := sendable
    exact ⟨_, heartbeatAck_wire _ _ _ info⟩
  | INIT_ACK _ _ _ => exact sendable.elim
  | ERRORTYPE _ => exact sendable.elim

/-! ## Lists of chunks -/

/-- A chunk that the association sends. -/
def Sent (chunk : SCTPChunk) : Prop :=
  Sendable chunk.body ∧ chunk.byteLength = chunk.body.associationLength

/-- The chunks are in the buffer, one after the other. -/
def Laid : List SCTPChunk → Buffer → Nat → Prop
  | [], _, _ => True
  | chunk :: rest, buf, start =>
    (∃ fields, Wire chunk.body fields ∧ Placed fields buf start) ∧
      Laid rest buf (start + ADD_PADDING (wireLength chunk.body))

section Chunks

variable {bufsize : BitVec 32} {buf : Buffer}

theorem Placed.congr (placed : Placed fields buf start) (within : Within size fields)
    (agree : ∀ i, start ≤ i → i < start + size → other i = buf i) : Placed fields other start := by
  intro _ member
  refine (placed _ member).congr ?_
  intro i _ _
  have stop := within _ member
  unfold Field.stop at stop
  exact agree i (by omega) (by omega)

theorem Laid.congr (laid : Laid chunks buf start) (agree : ∀ i, start ≤ i → other i = buf i) :
    Laid chunks other start := by
  induction chunks generalizing start with
  | nil => trivial
  | cons _ _ induction =>
    obtain ⟨⟨fields, wire, placed⟩, following⟩ := laid
    exact ⟨⟨fields, wire, placed.congr wire.within fun i lower _ => agree i lower⟩,
      induction following fun i lower => agree i (by omega)⟩

theorem serializeChunks_fits (sent : ∀ chunk ∈ chunks, Sent chunk) {writtenbytes : Nat}
    (fits : writtenbytes + totalLength chunks ≤ bufsize.toNat) :
    ∃ next, serializeChunks bufsize chunks buf writtenbytes =
        .ok (next, writtenbytes + totalLength chunks) ∧
      (∀ i < writtenbytes, next i = buf i) ∧ Laid chunks next writtenbytes := by
  induction chunks generalizing buf writtenbytes with
  | nil => exact ⟨buf, rfl, fun _ _ => rfl, trivial⟩
  | cons chunk _ induction =>
    obtain ⟨sendable, length⟩ := sent _ mem_cons_self
    obtain ⟨fields, wire⟩ := wire_of_sendable sendable
    unfold totalLength at fits ⊢
    obtain ⟨next, success, before, laid⟩ := @induction _
      (fun other member => sent _ (mem_cons_of_mem _ member))
      (writtenbytes + ADD_PADDING (wireLength chunk.body)) (by omega)
    refine ⟨next, ?_, ?_, ⟨fields, wire, ?_⟩, laid⟩
    · rw [serializeChunks, length, wire.written]
      change (if bufsize.toNat <
        writtenbytes + ADD_PADDING (wireLength chunk.body) then _ else _) = _
      rw [if_neg (by omega), success, Nat.add_assoc]
    · intro i lower
      rw [before i (by omega), putFields_before lower]
    · have placed : Placed fields (putFields buf writtenbytes fields)
          writtenbytes := has_putFields wire.apart
      exact placed.congr wire.within fun i _ upper => before i upper

theorem fits_of_serializeChunks (sent : ∀ chunk ∈ chunks, Sent chunk)
    (room : writtenbytes ≤ bufsize.toNat)
    (success : serializeChunks bufsize chunks buf writtenbytes = .ok written) :
    writtenbytes + totalLength chunks ≤ bufsize.toNat := by
  induction chunks generalizing buf writtenbytes with
  | nil => exact room
  | cons chunk _ induction =>
    obtain ⟨sendable, length⟩ := sent _ mem_cons_self
    obtain ⟨_, wire⟩ := wire_of_sendable sendable
    rw [serializeChunks, length, wire.written] at success
    change (if bufsize.toNat <
      writtenbytes + ADD_PADDING (wireLength chunk.body) then _ else _) = _ at success
    split at success
    · cases success
    case isFalse enough =>
      have others := induction (fun other member => sent _ (mem_cons_of_mem _ member))
        (by omega) success
      unfold totalLength
      omega

theorem wireLength_pos {body : ChunkBody} (sendable : Sendable body) : 0 < wireLength body := by
  cases body with
  | INIT_ACK _ _ _ => exact sendable.elim
  | ERRORTYPE _ => exact sendable.elim
  | DATA _ => exact Nat.lt_of_lt_of_le (by decide) (Nat.le_add_right 16 _)
  | INIT _ => exact Nat.lt_of_lt_of_le (by decide) (Nat.le_add_right 28 _)
  | SACK chunk =>
    change 0 < 16 + 4 * chunk.gaps.length + 4 * chunk.dupTsns.length
    omega
  | COOKIE_ECHO _ _ _ => exact Nat.lt_of_lt_of_le (by decide) (Nat.le_add_right 4 _)
  | HEARTBEAT _ => exact (by decide : 0 < 16)
  | HEARTBEAT_ACK _ => exact (by decide : 0 < 16)
  | ABORT _ => exact (by decide : 0 < 4)
  | SHUTDOWN _ => exact (by decide : 0 < 8)
  | SHUTDOWN_ACK => exact (by decide : 0 < 4)
  | COOKIE_ACK => exact (by decide : 0 < 4)
  | SHUTDOWN_COMPLETE _ => exact (by decide : 0 < 4)

/-- The chunk as it is received. -/
def receivedChunk (chunk : SCTPChunk) : SCTPChunk where
  body := received chunk.body
  byteLength := chunk.body.associationLength

section Parsing

theorem parseChunks_step (start : Nat) (inside : chunkPtr < size - 12)
    (enough : 12 ≤ size) (addressable : size < 2 ^ 32) (here : start = 12 + chunkPtr) :
    parseChunks buf size (fuel + 1) chunkPtr = (do
      let chunk ← parseChunk buf start
      let rest ← parseChunks buf size fuel ((chunkPtr + chunk.2) % 2 ^ 32)
      .ok (chunk.1.toList ++ rest)) := by
  have stop : (size + 2 ^ 32 - 12) % 2 ^ 32 = size - 12 := by omega
  rw [here]
  conv_lhs => unfold parseChunks
  rw [stop, if_pos inside]

theorem parseChunks_small (sent : ∀ chunk ∈ chunks, Sent chunk)
    (lengths : ∀ chunk ∈ chunks, wireLength chunk.body < 65536)
    (addressable : size < 2 ^ 32) (laid : Laid chunks buf (12 + chunkPtr))
    (stop : 12 + chunkPtr + totalLength chunks = size) (fueled : totalLength chunks < fuel) :
    parseChunks buf size fuel chunkPtr = .ok (chunks.map receivedChunk) := by
  induction chunks generalizing chunkPtr fuel with
  | nil =>
    obtain ⟨fuel, rfl⟩ := Nat.exists_eq_succ_of_ne_zero (Nat.pos_iff_ne_zero.mp fueled)
    unfold totalLength at stop
    rw [parseChunks, if_neg (by omega)]
    rfl
  | cons chunk rest induction =>
    obtain ⟨fuel, rfl⟩ := Nat.exists_eq_succ_of_ne_zero (Nat.ne_zero_of_lt fueled)
    obtain ⟨⟨_, wire, placed⟩, following⟩ := laid
    rw [Nat.add_assoc] at following
    have recovered := (wire.recovered _ _ placed).small (lengths _ mem_cons_self)
    have positive := Nat.lt_of_lt_of_le (wireLength_pos (sent _ mem_cons_self).1) (padded_le _)
    unfold totalLength at stop fueled
    have next := induction (fun other member => sent _ (mem_cons_of_mem _ member))
      (fun other member => lengths _ (mem_cons_of_mem _ member))
      following (by omega) (by omega : totalLength rest < fuel)
    rw [parseChunks_step _ (by omega) (by omega) addressable rfl, recovered]
    change (parseChunks buf size fuel
      ((chunkPtr + ADD_PADDING (wireLength chunk.body)) % 2 ^ 32) >>= _) = _
    rw [Nat.mod_eq_of_lt (by omega), next]
    rfl

theorem lengths_of_parseChunks (sent : ∀ chunk ∈ chunks, Sent chunk)
    (addressable : size < 2 ^ 32) (laid : Laid chunks buf (12 + chunkPtr))
    (stop : 12 + chunkPtr + totalLength chunks = size)
    (success : parseChunks buf size fuel chunkPtr = .ok chunks) :
    ∀ chunk ∈ chunks, wireLength chunk.body < 65536 := by
  induction chunks generalizing chunkPtr fuel with
  | nil => exact fun chunk member => nomatch member
  | cons chunk rest induction =>
    obtain ⟨⟨_, wire, placed⟩, following⟩ := laid
    rw [Nat.add_assoc] at following
    have recovered := wire.recovered _ _ placed
    obtain ⟨sendable, length⟩ := sent _ mem_cons_self
    have positive := Nat.lt_of_lt_of_le (wireLength_pos sendable) (padded_le _)
    unfold totalLength at stop
    cases fuel with
    | zero => cases success
    | succ _ =>
      rw [parseChunks_step _ (by omega) (by omega) addressable rfl] at success
      obtain ⟨_, parsed, success⟩ := Library.Fallible.bind_eq_ok.mp success
      obtain ⟨others, parsedRest, success⟩ := Library.Fallible.bind_eq_ok.mp success
      have small : wireLength chunk.body < 65536 := by
        by_contra tooLong
        obtain ⟨_, first, shorter⟩ := recovered.large (not_lt.mp tooLong) _ parsed
        rw [first] at success
        cases success
        exact absurd length shorter.ne
      rw [recovered.small small] at parsed
      cases Except.ok.inj parsed
      have same : others = rest := (cons.inj (Except.ok.inj success)).2
      have next : (chunkPtr + ADD_PADDING (wireLength chunk.body)) %
          2 ^ 32 = chunkPtr + ADD_PADDING (wireLength chunk.body) :=
        Nat.mod_eq_of_lt (by omega)
      rw [same, next] at parsedRest
      intro other member
      rcases mem_cons.mp member with rfl | later
      · exact small
      · exact induction (fun other member => sent other (mem_cons_of_mem _ member))
          following (by omega) parsedRest other later

end Parsing

end Chunks

/-! ## The checksum -/

section Checksum

theorem crc_c_words : ∀ word ∈ crc_c, word < 4294967296 := by
  decide +kernel

theorem crc_c_high : (crc_c.map (· / 16777216)).Nodup := by
  have fresh : unmarked 0 (crc_c.map (· / 16777216)) = true := by decide +kernel
  exact (nodup_of_unmarked fresh).1

theorem crcTable_distinct : Function.Injective fun i => crcTable i >>> 24 := by
  have length : crc_c.length = 256 := by decide +kernel
  have high : ∀ i : BitVec 8, ∃ small : i.toNat < (crc_c.map (· / 16777216)).length,
      (crcTable i >>> 24).toNat = (crc_c.map (· / 16777216))[i.toNat] := by
    intro i
    have inside : i.toNat < crc_c.length := by
      rw [length]
      exact i.isLt
    have word := crc_c_words crc_c[i.toNat] (getElem_mem _)
    refine ⟨by rw [length_map]; exact inside, ?_⟩
    rw [crcTable, BitVec.toNat_ushiftRight, BitVec.toNat_ofNat, getD_eq_getElem _ _ inside,
      Nat.mod_eq_of_lt word, Nat.shiftRight_eq_div_pow, getElem_map]
  intro i j same
  obtain ⟨_, left⟩ := high i
  obtain ⟨_, right⟩ := high j
  have equal : crcTable i >>> 24 = crcTable j >>> 24 := same
  rw [equal, right] at left
  apply BitVec.eq_of_toNat_eq
  exact ((Nodup.getElem_inj_iff crc_c_high).mp left).symm

theorem swapBytes_injective : Function.Injective swapBytes := by
  intro h other same
  unfold swapBytes at same
  have first := congrArg (extractLsb' 0 8) same
  have left := congrArg (extractLsb' 8 24) same
  rw [extractLsb'_append_eq_right, extractLsb'_append_eq_right] at first
  rw [extractLsb'_append_eq_left, extractLsb'_append_eq_left] at left
  have second := congrArg (extractLsb' 0 8) left
  have right := congrArg (extractLsb' 8 16) left
  rw [extractLsb'_append_eq_right, extractLsb'_append_eq_right] at second
  rw [extractLsb'_append_eq_left, extractLsb'_append_eq_left] at right
  have third := congrArg (extractLsb' 0 8) right
  have fourth := congrArg (extractLsb' 8 8) right
  rw [extractLsb'_append_eq_right, extractLsb'_append_eq_right] at third
  rw [extractLsb'_append_eq_left, extractLsb'_append_eq_left] at fourth
  have again : ∀ word : BitVec 32,
      word.extractLsb' 24 8 ++ word.extractLsb' 16 8 ++ word.extractLsb' 8 8 ++
        word.extractLsb' 0 8 = word := by
    intro _
    rw [BitVec.extractLsb'_append_extractLsb'_eq_extractLsb' (show 24 = 16 + 8 from rfl),
      BitVec.extractLsb'_append_extractLsb'_eq_extractLsb' (show 16 = 8 + 8 from rfl),
      BitVec.extractLsb'_append_extractLsb'_eq_extractLsb' (show 8 = 0 + 8 from rfl)]
    exact BitVec.extractLsb'_eq_self
  rw [← again h, ← again other, first, second, third, fourth]

/-- What is before the checksum, the checksum, and what is behind it. -/
theorem bytesFrom_split (enough : 12 ≤ size) :
    bytesFrom buf 0 size =
      bytesFrom buf 0 8 ++ (bytesFrom buf 8 4 ++ bytesFrom buf 12 (size - 12)) := by
  have parts : size = 8 + (4 + (size - 12)) := by omega
  conv_lhs => rw [parts, bytesFrom_add, bytesFrom_add]

theorem checksum_cleared_iff (value : BitVec 32) (enough : 12 ≤ size) :
    checksum buf size = checksum (put32 (put32 buf 8 value) 8 0) size ↔ get32 buf 8 = 0 := by
  have before : bytesFrom (put32 (put32 buf 8 value) 8 0) 0 8 = bytesFrom buf 0 8 := by
    refine bytesFrom_congr fun i _ upper => ?_
    rw [put32_other _ (.inl (by omega)), put32_other _ (.inl (by omega))]
  have after : bytesFrom (put32 (put32 buf 8 value) 8 0) 12 (size - 12) =
      bytesFrom buf 12 (size - 12) := by
    refine bytesFrom_congr fun i lower _ => ?_
    rw [put32_other _ (.inr lower), put32_other _ (.inr lower)]
  have zeros : bytesFrom (put32 (put32 buf 8 value) 8 0) 8 4 = be32 0 := by
    have has : Has (put32 (put32 buf 8 value) 8 0) 8
        (be32 (get32 (put32 (put32 buf 8 value) 8 0) 8)) := has_get32 8
    rwa [get32_put32] at has
  have here : bytesFrom buf 8 4 = be32 (get32 buf 8) := has_get32 8
  unfold checksum
  rw [bytesFrom_split enough, bytesFrom_split enough, before, after, zeros, here]
  constructor
  · intro same
    have states := BitVec.not_inj.mp (swapBytes_injective same)
    have equal : be32 (get32 buf 8) = be32 0 := window_injective crcTable_distinct rfl le_rfl states
    have cleared : Has buf 8 (be32 0) := here.trans equal
    exact cleared.get32
  · intro cleared
    rw [cleared]

end Checksum

/-! ## Messages -/

section Messages

/-- What is in the buffer behind a message that fits. -/
structure Serialized (msg : SCTPMessage) (buf : Buffer) (final : Buffer) (size : Nat) : Prop where
  srcPort : get16 final 0 = msg.srcPort
  destPort : get16 final 2 = msg.destPort
  tag : get32 final 4 = msg.tag
  checked : get32 final 8 = checksum (put32 final 8 0) size ↔ get32 buf 8 = 0
  laid : Laid msg.chunks final 12

theorem serialize_fits (sent : ∀ chunk ∈ msg.chunks, Sent chunk)
    (fits : 12 + totalLength msg.chunks ≤ bufsize.toNat) :
    ∃ final, serialize msg buf bufsize = .ok (final, 12 + totalLength msg.chunks) ∧
      Serialized msg buf final (12 + totalLength msg.chunks) := by
  let header : List Field := [⟨0, be16 msg.srcPort⟩, ⟨2, be16 msg.destPort⟩, ⟨4, be32 msg.tag⟩]
  have apart : header.Pairwise Apart := by simp [header, Apart, Field.stop]
  obtain ⟨next, success, before, laid⟩ := @serializeChunks_fits _ _ _ sent 12 fits
  let value := checksum next (12 + totalLength msg.chunks)
  have kept : ∀ i < 8, put32 next 8 value i = putFields buf 0 header i := by
    intro i lower
    rw [put32_other _ (.inl lower), before i (by omega)]
  have placed : Placed header (put32 next 8 value) 0 := by
    have written : Placed header (putFields buf 0 header) 0 := has_putFields apart
    have within : Within 8 header := by simp [Within, header, Field.stop]
    exact written.congr within fun i _ upper => kept i (by omega)
  simp only [Placed, header, forall_mem_cons] at placed
  obtain ⟨srcPort, destPort, tag, _⟩ := placed
  have old : bytesFrom next 8 4 = bytesFrom buf 8 4 := by
    refine bytesFrom_congr fun i lower upper => ?_
    rw [before i (by omega)]
    refine putFields_other fun field member => .inr ?_
    have within : Within 8 header := by simp [Within, header, Field.stop]
    have stop := within _ member
    omega
  have garbage : get32 next 8 = get32 buf 8 := by
    have has : Has next 8 (be32 (get32 buf 8)) := old.trans (has_get32 8)
    exact has.get32
  refine ⟨put32 _ 8 _, ?_, srcPort.get16, destPort.get16, tag.get32, ?_,
    laid.congr fun i lower => put32_other _ (.inr lower) _⟩
  · rw [serialize, if_neg (by omega)]
    change (serializeChunks bufsize msg.chunks (putFields buf 0 header) 12 >>= _) = _
    rw [success]
    rfl
  · rw [get32_put32, ← garbage]
    exact checksum_cleared_iff _ (by omega)

theorem fits_of_serialize (sent : ∀ chunk ∈ msg.chunks, Sent chunk)
    (success : serialize msg buf bufsize = .ok written) :
    12 + totalLength msg.chunks ≤ bufsize.toNat := by
  unfold serialize at success
  split at success
  · cases success
  case isFalse room =>
    obtain ⟨_, chunks, _⟩ := Library.Fallible.bind_eq_ok.mp success
    exact fits_of_serializeChunks sent (not_lt.mp room) chunks

theorem parse_eq_ok (serialized : Serialized msg buf final size) :
    parse final size = .ok dest ↔
      dest.srcPort = msg.srcPort ∧ dest.destPort = msg.destPort ∧
        dest.tag = msg.tag ∧
          dest.checksumOk = decide (get32 buf 8 = 0) ∧
            parseChunks final size (size + 1) 0 = .ok dest.chunks := by
  have check : decide (get32 final 8 = checksum (put32 final 8 0) size) =
      decide (get32 buf 8 = 0) := decide_eq_decide.mpr serialized.checked
  constructor
  · intro success
    obtain ⟨_, parsed, success⟩ := Library.Fallible.bind_eq_ok.mp success
    cases success
    exact ⟨serialized.srcPort, serialized.destPort, serialized.tag, check, parsed⟩
  · rintro ⟨srcPort, destPort, tag, ok, parsed⟩
    refine Library.Fallible.bind_eq_ok.mpr ⟨dest.chunks, parsed, ?_⟩
    rw [serialized.srcPort, serialized.destPort, serialized.tag, check,
      ← srcPort, ← destPort, ← tag, ← ok]

theorem received_eq_iff (admissible : Admissible chunk.body)
    (length : chunk.byteLength = chunk.body.associationLength) :
    receivedChunk chunk = chunk ↔ Unmarked chunk.body := by
  obtain ⟨body, byteLength⟩ := chunk
  change byteLength = body.associationLength at length
  subst length
  cases body with
  | DATA chunk =>
    constructor
    · intro same
      have data : SCTPDataChunk.mk _ _ _ _ _ _ _ _ _ = chunk :=
        ChunkBody.DATA.inj (congrArg body same)
      exact (congrArg SCTPDataChunk.enqueuingTime data).symm
    · intro zero
      change mk (.DATA { chunk with enqueuingTime := 0 }) _ = _
      rw [← zero]
  | INIT chunk =>
    constructor
    · intro same
      have init : SCTPInitChunk.mk _ _ _ _ _ _ _ _ = chunk :=
        ChunkBody.INIT.inj (congrArg body same)
      exact (congrArg SCTPInitChunk.forwardTsn init).symm
    · intro none
      change mk (.INIT { chunk with forwardTsn := false }) _ = _
      rw [← none]
  | INIT_ACK _ _ _ => exact admissible.elim
  | HEARTBEAT _ => exact admissible.elim
  | HEARTBEAT_ACK _ => exact admissible.elim
  | ERRORTYPE _ => exact admissible.elim
  | SACK _ => exact iff_of_true rfl trivial
  | COOKIE_ECHO _ _ _ => exact iff_of_true rfl trivial
  | ABORT _ => exact iff_of_true rfl trivial
  | SHUTDOWN _ => exact iff_of_true rfl trivial
  | SHUTDOWN_ACK => exact iff_of_true rfl trivial
  | COOKIE_ACK => exact iff_of_true rfl trivial
  | SHUTDOWN_COMPLETE _ => exact iff_of_true rfl trivial

theorem sendable_of_admissible {body : ChunkBody}
    (admissible : Admissible body) : Sendable body := by
  cases body with
  | HEARTBEAT _ => exact admissible.elim
  | HEARTBEAT_ACK _ => exact admissible.elim
  | DATA _ => exact admissible
  | INIT _ => exact admissible
  | INIT_ACK _ _ _ => exact admissible
  | SACK _ => exact admissible
  | ERRORTYPE _ => exact admissible
  | COOKIE_ECHO _ _ _ => exact admissible
  | ABORT _ => exact admissible
  | SHUTDOWN _ => exact admissible
  | SHUTDOWN_ACK => exact admissible
  | COOKIE_ACK => exact admissible
  | SHUTDOWN_COMPLETE _ => exact admissible

theorem parse_serialize (sent : ∀ chunk ∈ msg.chunks, Sent chunk)
    (fits : 12 + totalLength msg.chunks ≤ bufsize.toNat)
    (lengths : ∀ chunk ∈ msg.chunks, wireLength chunk.body < 65536) :
    ∃ written, serialize msg buf bufsize = .ok written ∧
      parse written.1 written.2 =
        .ok
          { msg with
            checksumOk := get32 buf 8 = 0
            chunks := msg.chunks.map receivedChunk } := by
  obtain ⟨_, success, serialized⟩ := @serialize_fits _ _ _ sent fits
  refine ⟨_, success, (parse_eq_ok serialized).mpr ⟨rfl, rfl, rfl, rfl, ?_⟩⟩
  exact parseChunks_small sent lengths (by omega) serialized.laid rfl (by omega)

theorem round_trip_iff
    (sent : ∀ chunk ∈ msg.chunks, Admissible chunk.body ∧
      chunk.byteLength = chunk.body.associationLength) :
    RoundTrip msg buf bufsize ↔ Carried msg buf bufsize := by
  have sendable : ∀ chunk ∈ msg.chunks, Sent chunk := fun chunk member =>
    ⟨sendable_of_admissible (sent _ member).1, (sent _ member).2⟩
  have unmarked : msg.chunks.map receivedChunk = msg.chunks ↔
      ∀ chunk ∈ msg.chunks, Unmarked chunk.body := by
    conv_lhs => rhs; rw [← map_id msg.chunks]
    rw [map_eq_map_iff]
    exact forall₂_congr fun chunk member => received_eq_iff (sent _ member).1 (sent _ member).2
  constructor
  · rintro ⟨written, _, success, parsed, ok, _, _, _, chunks⟩
    have fits := fits_of_serialize sendable success
    obtain ⟨final, same, serialized⟩ := @serialize_fits _ _ _ sendable fits
    cases success.symm.trans same
    obtain ⟨_, _, _, checked, loop⟩ := (parse_eq_ok serialized).mp parsed
    rw [chunks] at loop
    have addressable := Nat.lt_of_le_of_lt fits bufsize.isLt
    have lengths := lengths_of_parseChunks sendable addressable serialized.laid rfl loop
    have laid : Laid msg.chunks final (12 + 0) := serialized.laid
    have all := parseChunks_small sendable lengths addressable laid rfl
      (by omega : totalLength msg.chunks < 12 + totalLength msg.chunks + 1)
    rw [ok] at checked
    exact ⟨fits, lengths, unmarked.mp (Except.ok.inj (all.symm.trans loop)),
      of_decide_eq_true checked.symm⟩
  · intro carried
    obtain ⟨written, success, parsed⟩ := @parse_serialize msg buf bufsize
      sendable carried.fits carried.lengths
    exact ⟨written, _, success, parsed, decide_eq_true carried.cleared, rfl,
      rfl, rfl, unmarked.mpr carried.unmarked⟩

end Messages

/-! ## Heartbeats -/

/--
The address and the time of a HEARTBEAT come back in the HEARTBEAT_ACK of the
peer, when both messages fit into their buffers.
-/
def HeartbeatReturns (heartbeat : SCTPHeartbeatChunk) : Prop :=
  ∀ (msg : SCTPMessage) (buf : Buffer) (bufsize : BitVec 32),
    msg.chunks = [ChunkBody.chunk (.HEARTBEAT heartbeat)] →
      28 ≤ bufsize.toNat →
        ∃ written dest parsed, serialize msg buf bufsize = .ok written ∧
          parse written.1 written.2 = .ok dest ∧
            dest.chunks = [⟨.HEARTBEAT parsed, 16⟩] ∧
              ∀ (reply : SCTPMessage) (replyBuf : Buffer) (replySize : BitVec 32),
                reply.chunks = [sendHeartbeatAck parsed 16] →
                  28 ≤ replySize.toNat →
                    ∃ back answer ack,
                      serialize reply replyBuf replySize = .ok back ∧
                        parse back.1 back.2 = .ok answer ∧
                          answer.chunks = [⟨.HEARTBEAT_ACK ack, 16⟩] ∧
                            ack.remoteAddr = heartbeat.remoteAddr ∧
                              ack.timeField = heartbeat.timeField

theorem heartbeat_returns (heartbeat : SCTPHeartbeatChunk)
    (ipv4 : heartbeat.remoteAddr = .v4 addr) : HeartbeatReturns heartbeat := by
  have single : ∀ (msg : SCTPMessage) (chunk : SCTPChunk) (buf : Buffer)
      (bufsize : BitVec 32), msg.chunks = [chunk] → Sent chunk →
        wireLength chunk.body = 16 → 28 ≤ bufsize.toNat →
          ∃ written dest, serialize msg buf bufsize = .ok written ∧
            parse written.1 written.2 = .ok dest ∧ dest.chunks = [receivedChunk chunk] := by
    intro msg _ _ _ only sent length room
    have total : totalLength msg.chunks = 16 := by
      rw [only, totalLength, length]
      rfl
    obtain ⟨written, success, parsed⟩ := @parse_serialize _ _ _
      (by rw [only]; exact forall_mem_singleton.mpr sent) (by rw [total]; exact room)
      (by
        rw [only]
        refine forall_mem_singleton.mpr ?_
        rw [length]
        decide)
    refine ⟨written, _, success, parsed, ?_⟩
    rw [only]
    rfl
  intro _ _ _ only room
  obtain ⟨written, dest, success, parsed, chunks⟩ := single _ _ _ _
    only ⟨⟨addr, ipv4⟩, rfl⟩ rfl room
  have body : received (.HEARTBEAT heartbeat) =
      .HEARTBEAT { info := be32 addr ++ be32 heartbeat.timeField } := by
    dsimp only [received]
    rw [ipv4]
  refine ⟨written, dest, { info := be32 addr ++ be32 heartbeat.timeField }, success, parsed, ?_, ?_⟩
  · rw [chunks]
    change [mk (received (.HEARTBEAT heartbeat)) 16] = _
    rw [body]
  · intro _ _ _ answered enough
    obtain ⟨back, answer, replied, read, acks⟩ := single _ _ _
      _ answered ⟨⟨addr, heartbeat.timeField, rfl⟩, rfl⟩ rfl enough
    refine ⟨back, answer, { remoteAddr := .v4 _, timeField := heartbeat.timeField },
      replied, read, ?_, ipv4.symm, rfl⟩
    rw [acks]
    change [mk (.HEARTBEAT_ACK (acknowledged (be32 addr ++ be32 heartbeat.timeField))) 16] = _
    rw [acknowledged_eq]

/-! ## Results -/

/--
A message comes back exactly when it fits, its lengths fit, it has nothing
that is not sent, and the buffer had zeros in the place of the checksum; a
heartbeat always comes back.
-/
theorem sctp_round_trip (msg : SCTPMessage)
    (sent : ∀ chunk ∈ msg.chunks, Admissible chunk.body ∧
      chunk.byteLength = chunk.body.associationLength)
    (buf : Buffer)
    (bufsize : BitVec 32) :
    (RoundTrip msg buf bufsize ↔ Carried msg buf bufsize) ∧
      ∀ heartbeat addr, heartbeat.remoteAddr = .v4 addr → HeartbeatReturns heartbeat :=
  ⟨round_trip_iff sent, fun heartbeat _ ipv4 => heartbeat_returns _ ipv4⟩

/-- A message with two short chunks. -/
def shutdownMessage : SCTPMessage where
  srcPort := 80
  destPort := 5000
  tag := 7
  checksumOk := true
  chunks := [ChunkBody.chunk (.SHUTDOWN 12), ChunkBody.chunk (.ABORT true)]

theorem shutdownMessage_sent :
    ∀ chunk ∈ shutdownMessage.chunks, Admissible chunk.body ∧
      chunk.byteLength = chunk.body.associationLength := by
  simp only [shutdownMessage, forall_mem_cons]
  exact ⟨⟨trivial, rfl⟩, ⟨trivial, rfl⟩, nofun⟩

theorem sctp_round_trip_small : RoundTrip shutdownMessage (fun _ => 0) 100 := by
  refine (sctp_round_trip _ shutdownMessage_sent
    (fun _ => 0) 100).1.mpr ⟨by decide, ?_, ?_, by decide⟩
  · simp only [shutdownMessage, forall_mem_cons]
    exact ⟨by decide, by decide, nofun⟩
  · simp only [shutdownMessage, forall_mem_cons]
    exact ⟨trivial, trivial, nofun⟩

/-- The buffer has a one in the place of the checksum. -/
theorem checksum_stale :
    ¬∀ msg buf bufsize,
      (∀ chunk ∈ msg.chunks, Admissible chunk.body ∧
        chunk.byteLength = chunk.body.associationLength) →
          12 + totalLength msg.chunks ≤ bufsize.toNat → RoundTrip msg buf bufsize := by
  intro claim
  have trip := claim _ (put (fun _ => 0) 8 1) 100 shutdownMessage_sent (by decide)
  have carried := (round_trip_iff shutdownMessage_sent).mp trip
  exact absurd carried.cleared (by decide)

end OmnetDsi.HeaderSerializers.SCTPRoundTrip
