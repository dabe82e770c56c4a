import OmnetDsi.HeaderSerializers.IPSerializer

/-!
# Datagrams that come back from the wire

The parser reads back what the serializer wrote.  The flags of a fragment and
large fragment offsets are lost, TCP is not parsed, and the length of an echo
message is that of the data that was written.
-/

namespace OmnetDsi.HeaderSerializers.DatagramRoundTrip

open BitVec (ofInt ofNat toNat_ofNat)
open Library.WireBuffers HeaderSerializers.IPSerializer

/-! ## What is to hold -/

structure SameHeader (dgram dest : IPDatagram) : Prop where
  version : dest.version = dgram.version
  headerLength : dest.headerLength = dgram.headerLength
  srcAddress : dest.srcAddress = dgram.srcAddress
  destAddress : dest.destAddress = dgram.destAddress
  timeToLive : dest.timeToLive = dgram.timeToLive
  identification : dest.identification = dgram.identification
  moreFragments : dest.moreFragments = dgram.moreFragments
  dontFragment : dest.dontFragment = dgram.dontFragment
  fragmentOffset : dest.fragmentOffset = dgram.fragmentOffset
  diffServCodePoint : dest.diffServCodePoint = dgram.diffServCodePoint

structure SameEcho (pkt dest : ICMPMessage) : Prop where
  type : dest.type = pkt.type
  code : dest.code = pkt.code
  originatorId : dest.payload.originatorId = pkt.payload.originatorId
  seqNo : dest.payload.seqNo = pkt.payload.seqNo

structure SamePorts (pkt dest : UDPPacket) : Prop where
  sourcePort : dest.sourcePort = pkt.sourcePort
  destinationPort : dest.destinationPort = pkt.destinationPort

/-- The fields of the transport header. -/
def SameTransport : Transport → Transport → Prop
  | .echo pkt, .echo dest => SameEcho pkt dest
  | .udp pkt, .udp dest => SamePorts pkt dest
  | .tcp msg, .tcp dest => dest = msg
  | _, _ => False

/-- The datagram comes back from the wire. -/
structure RoundTrip (dgram dest : IPDatagram) : Prop where
  header : SameHeader dgram dest
  transport : SameTransport dgram.transport dest.transport
  length : dest.byteLength = dgram.byteLength

/-- A number that fits into so many values. -/
def Fits (bound value : Int) : Prop :=
  0 ≤ value ∧ value < bound

/-- A packet of the transport protocols in question. -/
def Carried : Transport → Prop
  | .echo pkt => 0 ≤ pkt.headerLength ∧ (pkt.payload.data.length : Int) ≤ pkt.payload.byteLength
  | .unsupported => False
  | .udp _ => True
  | .tcp _ => True

/-- A datagram without options, within the widths of the wire. -/
structure WireWidths (dgram : IPDatagram) : Prop where
  version : Fits 16 dgram.version
  headerLength : dgram.headerLength = IP_HEADER_BYTES
  timeToLive : Fits 256 dgram.timeToLive
  identification : Fits 65536 dgram.identification
  fragmentOffset : Fits 65536 dgram.fragmentOffset
  carried : Carried dgram.transport

/-- What is written for the data is as long as the message says. -/
def DataLength (pkt : ICMPMessage) : Prop :=
  match pkt.type with
  | .ICMP_ECHO_REQUEST => pkt.headerLength = 4
  | .ICMP_ECHO_REPLY => pkt.byteLength = ICMP_MINLEN + pkt.payload.data.length

/-- The transport headers that the parser reads back. -/
def Parsed (dgram : IPDatagram) : Prop :=
  match dgram.transport with
  | .echo pkt =>
    pkt.code = 0 ∧ Fits 65536 pkt.payload.originatorId ∧
      Fits 65536 pkt.payload.seqNo ∧ DataLength pkt ∧ dgram.byteLength < 65536
  | .udp pkt => Fits 65536 pkt.sourcePort ∧ Fits 65536 pkt.destinationPort ∧ pkt.byteLength < 65536
  | .unsupported => False
  | .tcp _ => False

/-- The datagrams that the wire does not change. -/
structure Survives (dgram : IPDatagram) : Prop where
  moreFragments : dgram.moreFragments = false
  dontFragment : dgram.dontFragment = false
  fragmentOffset : dgram.fragmentOffset < 8192
  transport : Parsed dgram

/-- The buffer is large enough. -/
structure Holds (tcpChecksum : BitVec 16) (dgram : IPDatagram) (buf : Buffer)
    (bufsize : Nat) : Prop where
  written : (serialize tcpChecksum dgram buf).2 ≤ bufsize
  length : dgram.byteLength ≤ bufsize
  unsigned : bufsize < 4294967296

/-- The bytes of the transport protocol. -/
def transportBytes (tcpChecksum : BitVec 16) (dgram : IPDatagram) (buf : Buffer) : Buffer :=
  (dgram.transport.serialize tcpChecksum (behind (putHeader dgram buf) IP_HEADER_BYTES)).1

/-- The size that its parser is told. -/
def transportSize (written bufsize : Nat) : Nat :=
  ICMPSerializer.unsignedSub (min (written % 65536) bufsize) IP_HEADER_BYTES

/-! ## The header -/

section Header

variable (tcpChecksum : BitVec 16) (dgram : IPDatagram) (buf : Buffer)

theorem serialize_header (inside : i < IP_HEADER_BYTES) (first : i ≠ 2) (second : i ≠ 3) :
    (serialize tcpChecksum dgram buf).1 i = putHeader dgram buf i := by
  dsimp only [serialize]
  rw [put16_other _ first second, place_before _ inside]

theorem serialize_length :
    get16 (serialize tcpChecksum dgram buf).1 2 = .ofNat 16 (serialize tcpChecksum dgram buf).2 :=
  get16_put16 _ _ _

theorem serialize_behind :
    behind (serialize tcpChecksum dgram buf).1 IP_HEADER_BYTES =
      transportBytes tcpChecksum dgram buf := by
  rw [serialize, transportBytes, behind_put16 _ (by decide), behind_place]

theorem serialize_get16 (inside : i + 1 < IP_HEADER_BYTES) (after : 4 ≤ i) :
    get16 (serialize tcpChecksum dgram buf).1 i = get16 (putHeader dgram buf) i := by
  have small : i < IP_HEADER_BYTES := by omega
  apply get16_congr
  · exact serialize_header _ _ _ small (by omega) (by omega)
  · exact serialize_header _ _ _ inside (by omega) (by omega)

theorem serialize_get32 (inside : i + 3 < IP_HEADER_BYTES) (after : 4 ≤ i) :
    get32 (serialize tcpChecksum dgram buf).1 i = get32 (putHeader dgram buf) i := by
  unfold get32
  rw [serialize_get16 _ _ _ (by omega) after, serialize_get16 _ _ _ (by omega) (by omega)]

theorem putHeader_identification : get16 (putHeader dgram buf) 4 = .ofInt 16 dgram.identification :=
  append_extract16 _

theorem putHeader_fragmentOffset : get16 (putHeader dgram buf) 6 = .ofInt 16 dgram.fragmentOffset :=
  append_extract16 _

theorem putHeader_srcAddress : get32 (putHeader dgram buf) 12 = dgram.srcAddress :=
  get32_put32 buf 12 dgram.srcAddress

theorem putHeader_destAddress : get32 (putHeader dgram buf) 16 = dgram.destAddress :=
  get32_put32 buf 16 dgram.destAddress

/-- What the parser makes of the fields, for any transport protocol. -/
def readBack (dgram : IPDatagram) (transport : Transport) : IPDatagram :=
  { dgram with
    moreFragments := false
    dontFragment := false
    fragmentOffset := dgram.fragmentOffset % 8192
    transport }

theorem Fits.ofInt (width : Nat) (fits : Fits ((2 ^ width : Nat) : Int) value) :
    ((ofInt width value).toNat : Int) = value :=
  (toNat_ofInt_eq_iff _ _).mpr fits

theorem masked_offset (fits : Fits 65536 value) :
    ((ofInt 16 value &&& IP_OFFMASK).toNat : Int) = value % 8192 := by
  have whole := Fits.ofInt 16 fits
  have mask : IP_OFFMASK.toNat = 2 ^ 13 - 1 := rfl
  rw [BitVec.toNat_and, mask, Nat.and_two_pow_sub_one_eq_mod]
  push_cast
  rw [whole]

theorem version_nibble (version : BitVec 4) : (version ++ 5#4).extractLsb' 4 4 = version := by
  apply BitVec.eq_of_getLsbD_eq
  intro i small
  rw [BitVec.getLsbD_extractLsb', BitVec.getLsbD_append]
  have high : ¬4 + i < 4 := by omega
  simp [small, high]

theorem length_nibble (version : BitVec 4) : (version ++ 5#4).extractLsb' 0 4 = 5#4 := by
  apply BitVec.eq_of_getLsbD_eq
  intro _ small
  rw [BitVec.getLsbD_extractLsb', BitVec.getLsbD_append]
  simp [small]

theorem no_flag (word mask : BitVec 16) :
    (word &&& logicalNot IP_OFFMASK &&& mask != 0) = false := by
  have zero : logicalNot IP_OFFMASK = 0 := rfl
  rw [zero]
  simp

theorem parse_serialize (parseSCTP : Buffer → Nat → Except Failure Transport)
    (widths : WireWidths dgram) (bufsize : Nat) :
    parse parseSCTP (serialize tcpChecksum dgram buf).1 bufsize =
      (parseTransport parseSCTP dgram.transport.protocol (transportBytes tcpChecksum dgram buf)
        (transportSize (serialize tcpChecksum dgram buf).2 bufsize)).map (readBack dgram) := by
  have first : (serialize tcpChecksum dgram buf).1 0 = ofInt 4 dgram.version ++ 5#4 :=
    serialize_header _ _ _ (by decide) (by decide) (by decide)
  have dscp : (serialize tcpChecksum dgram buf).1 1 = dgram.diffServCodePoint :=
    serialize_header _ _ _ (by decide) (by decide) (by decide)
  have ttl : (serialize tcpChecksum dgram buf).1 8 = .ofInt 8 dgram.timeToLive :=
    serialize_header _ _ _ (by decide) (by decide) (by decide)
  have protocol : (serialize tcpChecksum dgram buf).1 9 = dgram.transport.protocol :=
    serialize_header _ _ _ (by decide) (by decide) (by decide)
  dsimp only [parse]
  rw [first, dscp, ttl, protocol, version_nibble, length_nibble,
    serialize_length, no_flag, no_flag, serialize_get16 _ _ _ (by decide) (by decide),
    serialize_get16 _ _ _ (by decide) (by decide), serialize_get32 _ _ _ (by decide) (by decide),
    serialize_get32 _ _ _ (by decide) (by decide),
    putHeader_identification, putHeader_fragmentOffset,
    putHeader_srcAddress, putHeader_destAddress, masked_offset widths.fragmentOffset,
    Fits.ofInt 16 widths.identification, Fits.ofInt 8 widths.timeToLive,
    Fits.ofInt 4 widths.version]
  have start : (5#4).toNat * 4 = IP_HEADER_BYTES := rfl
  have total : (ofNat 16 (serialize tcpChecksum dgram buf).2).toNat =
      (serialize tcpChecksum dgram buf).2 % 65536 :=
    toNat_ofNat _ _
  rw [start, total, serialize_behind]
  unfold transportSize
  cases parseTransport parseSCTP dgram.transport.protocol (transportBytes tcpChecksum dgram buf)
    (ICMPSerializer.unsignedSub
      (min ((serialize tcpChecksum dgram buf).2 % 65536) bufsize) IP_HEADER_BYTES) with
  | error _ => rfl
  | ok _ =>
    change Except.ok _ = Except.ok _
    rw [readBack, widths.headerLength]

end Header

/-! ## Echo messages -/

section Echo

variable (pkt : ICMPMessage) (buf : Buffer)

/-- The length that is written for the data. -/
def dataLength (pkt : ICMPMessage) : Nat :=
  match pkt.type with
  | .ICMP_ECHO_REQUEST => (ofInt 32 (pkt.payload.byteLength - 4)).toNat
  | .ICMP_ECHO_REPLY => pkt.payload.data.length

/-- The type on the wire. -/
def wireType : ICMPType → BitVec 8
  | .ICMP_ECHO_REQUEST => ICMP_ECHO
  | .ICMP_ECHO_REPLY => ICMP_ECHOREPLY

theorem putData_before (base : Buffer) (data : Nat → Byte)
    (before : i < ICMP_MINLEN) (datalen : Nat) : putData base datalen data i = base i := by
  unfold putData
  induction datalen with
  | zero => rfl
  | succ _ induction =>
    rwa [List.range_succ, List.foldl_append, List.foldl_cons, List.foldl_nil,
      put_other _ (by omega)]

theorem body_header (before : i < ICMP_MINLEN) :
    (ICMPSerializer.body pkt buf).1 i = putEcho buf (wireType pkt.type) pkt.payload i := by
  unfold ICMPSerializer.body wireType
  cases pkt.type with
  | ICMP_ECHO_REQUEST => exact putData_before _ _ before _
  | ICMP_ECHO_REPLY => exact putData_before _ _ before _

theorem echo_header (before : i < ICMP_MINLEN) (first : i ≠ 2) (second : i ≠ 3) :
    (ICMPSerializer.serialize pkt buf).1 i = putEcho buf (wireType pkt.type) pkt.payload i := by
  dsimp only [ICMPSerializer.serialize, ICMPSerializer.finish]
  rw [putHost16_other _ first second]
  exact body_header _ _ before

theorem echo_written : (ICMPSerializer.serialize pkt buf).2 = ICMP_MINLEN + dataLength pkt := by
  unfold ICMPSerializer.serialize ICMPSerializer.finish ICMPSerializer.body dataLength
  cases pkt.type with
  | ICMP_ECHO_REQUEST => rfl
  | ICMP_ECHO_REPLY => rfl

theorem echo_get16 (before : i + 1 < ICMP_MINLEN) (after : 4 ≤ i) :
    get16 (ICMPSerializer.serialize pkt buf).1 i =
      get16 (putEcho buf (wireType pkt.type) pkt.payload) i := by
  have small : i < ICMP_MINLEN := by omega
  apply get16_congr
  · exact echo_header _ _ small (by omega) (by omega)
  · exact echo_header _ _ before (by omega) (by omega)

theorem parse_echo (size : Nat) :
    ICMPSerializer.parse (ICMPSerializer.serialize pkt buf).1 size =
      .echo (ICMPSerializer.parseEcho (ICMPSerializer.serialize pkt buf).1 size pkt.type) := by
  have type : (ICMPSerializer.serialize pkt buf).1 0 = wireType pkt.type :=
    echo_header _ _ (by decide) (by decide) (by decide)
  rw [ICMPSerializer.parse, type]
  cases pkt.type with
  | ICMP_ECHO_REQUEST => rfl
  | ICMP_ECHO_REPLY => rfl

theorem echo_originatorId :
    get16 (ICMPSerializer.serialize pkt buf).1 4 = .ofInt 16 pkt.payload.originatorId := by
  rw [echo_get16 _ _ (by decide) (by decide)]
  exact append_extract16 _

theorem echo_seqNo :
    get16 (ICMPSerializer.serialize pkt buf).1 6 = .ofInt 16 pkt.payload.seqNo := by
  rw [echo_get16 _ _ (by decide) (by decide)]
  exact append_extract16 _

theorem unsignedSub_eq (smaller : right < 4294967296) :
    ICMPSerializer.unsignedSub left right = (left + (4294967296 - right)) % 4294967296 := by
  rw [ICMPSerializer.unsignedSub, BitVec.toNat_sub, toNat_ofNat, toNat_ofNat]
  omega

theorem transportSize_eq (fits : written ≤ bufsize) :
    ICMPSerializer.unsignedSub (transportSize written bufsize) 4 =
      (written % 65536 + (4294967296 - 24)) % 4294967296 := by
  have smaller : min (written % 65536) bufsize = written % 65536 := by omega
  rw [transportSize, IP_HEADER_BYTES, smaller, unsignedSub_eq (by omega), unsignedSub_eq (by omega)]
  omega

/-- The length comes back when it is that of the data, and not too long. -/
theorem echo_length_iff (carried : Carried (.echo pkt))
    (written : IP_HEADER_BYTES + (ICMP_MINLEN + dataLength pkt) ≤ bufsize)
    (length : IP_HEADER_BYTES + pkt.byteLength ≤ bufsize) (unsigned : bufsize < 4294967296) :
    (4 + (ICMPSerializer.unsignedSub
        (transportSize (IP_HEADER_BYTES + (ICMP_MINLEN + dataLength pkt))
          bufsize) 4 : Int) = pkt.byteLength) ↔
      DataLength pkt ∧ IP_HEADER_BYTES + pkt.byteLength < 65536 := by
  rw [transportSize_eq written]
  rcases carried with ⟨_, _⟩
  unfold DataLength
  unfold ICMPMessage.byteLength at *
  unfold dataLength at *
  unfold IP_HEADER_BYTES ICMP_MINLEN at *
  cases kind : pkt.type with
  | ICMP_ECHO_REQUEST =>
    dsimp only at *
    rw [BitVec.toNat_ofInt] at *
    omega
  | ICMP_ECHO_REPLY =>
    dsimp only at *
    omega

theorem same_echo_iff (size : Nat) :
    SameEcho pkt (ICMPSerializer.parseEcho (ICMPSerializer.serialize pkt buf).1 size pkt.type) ↔
      pkt.code = 0 ∧ Fits 65536 pkt.payload.originatorId ∧ Fits 65536 pkt.payload.seqNo := by
  have id := toNat_ofInt_eq_iff 16 pkt.payload.originatorId
  have seq := toNat_ofInt_eq_iff 16 pkt.payload.seqNo
  rw [← echo_originatorId] at id
  rw [← echo_seqNo] at seq
  constructor
  · rintro ⟨_, code, originatorId, seqNo⟩
    exact ⟨code.symm, id.mp originatorId, seq.mp seqNo⟩
  · rintro ⟨code, originatorId, seqNo⟩
    exact ⟨rfl, code.symm, id.mpr originatorId, seq.mpr seqNo⟩

end Echo

/-! ## UDP packets -/

section Udp

variable (pkt : UDPPacket) (buf : Buffer)

theorem udp_sourcePort : get16 (UDPSerializer.serialize pkt buf).1 0 = .ofInt 16 pkt.sourcePort :=
  append_extract16 _

theorem udp_destinationPort :
    get16 (UDPSerializer.serialize pkt buf).1 2 = .ofInt 16 pkt.destinationPort :=
  append_extract16 _

theorem udp_length : get16 (UDPSerializer.serialize pkt buf).1 4 = .ofNat 16 pkt.byteLength.toNat :=
  append_extract16 _

theorem parse_udp :
    UDPSerializer.parse (UDPSerializer.serialize pkt buf).1 =
      if (8 + pkt.payloadLength) % 65536 < 8 then .error .negativeLength
      else
        .ok (.udp
          { sourcePort := (ofInt 16 pkt.sourcePort).toNat
            destinationPort := (ofInt 16 pkt.destinationPort).toNat
            payloadLength := (8 + pkt.payloadLength) % 65536 - 8 }) := by
  have length : (ofNat 16 pkt.byteLength.toNat).toNat = (8 + pkt.payloadLength) % 65536 := by
    rw [toNat_ofNat]
    unfold UDPPacket.byteLength
    omega
  rw [UDPSerializer.parse, udp_length, udp_sourcePort, udp_destinationPort, length]

end Udp

/-! ## The round trip -/

section RoundTrips

variable {tcpChecksum : BitVec 16} {dgram : IPDatagram} {buf : Buffer}
variable {bufsize : Nat}

theorem readBack_header (widths : WireWidths dgram) (transport : Transport) :
    SameHeader dgram (readBack dgram transport) ↔
      dgram.moreFragments = false ∧ dgram.dontFragment = false ∧ dgram.fragmentOffset < 8192 := by
  have offset := widths.fragmentOffset
  constructor
  · intro same
    have kept : dgram.fragmentOffset % 8192 = dgram.fragmentOffset := same.fragmentOffset
    exact ⟨same.moreFragments.symm, same.dontFragment.symm, by omega⟩
  · rintro ⟨more, dont, small⟩
    exact ⟨rfl, rfl, rfl, rfl, rfl, rfl, more.symm, dont.symm,
      Int.emod_eq_of_lt offset.1 small, rfl⟩

/-- What comes back is the header with what the transport parser found. -/
theorem round_trip_iff (widths : WireWidths dgram) (transport : Transport)
    (found : parseTransport parseSCTP dgram.transport.protocol
        (transportBytes tcpChecksum dgram buf)
        (transportSize (serialize tcpChecksum dgram buf).2 bufsize) =
      .ok transport) :
    (∃ dest, parse parseSCTP (serialize tcpChecksum dgram buf).1 bufsize =
          .ok dest ∧ RoundTrip dgram dest) ↔
      (dgram.moreFragments = false ∧ dgram.dontFragment = false ∧ dgram.fragmentOffset < 8192) ∧
        SameTransport dgram.transport transport ∧
          transport.byteLength = dgram.transport.byteLength := by
  rw [parse_serialize _ _ _ _ widths, found]
  have lengths : (readBack dgram transport).byteLength = dgram.byteLength ↔
      transport.byteLength = dgram.transport.byteLength := by
    dsimp only [IPDatagram.byteLength, readBack]
    omega
  constructor
  · rintro ⟨_, same, header, fields, length⟩
    cases same
    exact ⟨(readBack_header widths _).mp header, fields, lengths.mp length⟩
  · rintro ⟨header, fields, length⟩
    exact ⟨_, rfl, (readBack_header widths _).mpr header, fields, lengths.mpr length⟩

theorem not_round_trip (widths : WireWidths dgram) {failure : Failure}
    (lost : parseTransport parseSCTP dgram.transport.protocol (transportBytes tcpChecksum dgram buf)
        (transportSize (serialize tcpChecksum dgram buf).2 bufsize) =
      .error failure) :
    ¬∃ dest, parse parseSCTP (serialize tcpChecksum dgram buf).1 bufsize =
        .ok dest ∧ RoundTrip dgram dest := by
  rw [parse_serialize _ _ _ _ widths, lost]
  rintro ⟨_, same, _⟩
  cases same

theorem survives_iff :
    Survives dgram ↔
      (dgram.moreFragments = false ∧ dgram.dontFragment = false ∧
        dgram.fragmentOffset < 8192) ∧ Parsed dgram := by
  constructor
  · intro survives
    exact ⟨⟨survives.moreFragments, survives.dontFragment,
      survives.fragmentOffset⟩, survives.transport⟩
  · rintro ⟨⟨more, dont, offset⟩, parsed⟩
    exact ⟨more, dont, offset, parsed⟩

theorem echo_round_trip (kind : dgram.transport = .echo pkt) (widths : WireWidths dgram)
    (holds : Holds tcpChecksum dgram buf bufsize) :
    (∃ dest, parse parseSCTP (serialize tcpChecksum dgram buf).1 bufsize =
        .ok dest ∧ RoundTrip dgram dest) ↔
      Survives dgram := by
  have written : (serialize tcpChecksum dgram buf).2 =
      IP_HEADER_BYTES + (ICMP_MINLEN + dataLength pkt) := by
    rw [serialize, kind]
    exact congrArg _ (echo_written _ _)
  have carried := widths.carried
  have fits := holds.written
  have total := holds.length
  unfold IPDatagram.byteLength at total
  rw [kind] at carried total
  rw [written] at fits
  have length := echo_length_iff _ carried fits total holds.unsigned
  have bytes : transportBytes tcpChecksum dgram buf =
      (ICMPSerializer.serialize pkt (behind (putHeader dgram buf) IP_HEADER_BYTES)).1 := by
    rw [transportBytes, kind]
    rfl
  have found : parseTransport parseSCTP dgram.transport.protocol
      (transportBytes tcpChecksum dgram buf)
      (transportSize (serialize tcpChecksum dgram buf).2 bufsize) =
        .ok (.echo (ICMPSerializer.parseEcho
          (ICMPSerializer.serialize pkt (behind (putHeader dgram buf) IP_HEADER_BYTES)).1
          (transportSize (serialize tcpChecksum dgram buf).2 bufsize) pkt.type)) := by
    rw [bytes, kind]
    exact congrArg Except.ok (parse_echo _ _ _)
  rw [survives_iff, round_trip_iff widths _ found]
  have fields : SameTransport dgram.transport (.echo
      (ICMPSerializer.parseEcho
        (ICMPSerializer.serialize pkt (behind (putHeader dgram buf) IP_HEADER_BYTES)).1
        (transportSize (serialize tcpChecksum dgram buf).2 bufsize) pkt.type)) ↔
      pkt.code = 0 ∧ Fits 65536 pkt.payload.originatorId ∧ Fits 65536 pkt.payload.seqNo := by
    rw [kind]
    exact same_echo_iff _ _ _
  have lengths : (Transport.echo
      (ICMPSerializer.parseEcho
        (ICMPSerializer.serialize pkt (behind (putHeader dgram buf) IP_HEADER_BYTES)).1
        (transportSize (serialize tcpChecksum dgram buf).2 bufsize)
        pkt.type)).byteLength = dgram.transport.byteLength ↔
      DataLength pkt ∧ dgram.byteLength < 65536 := by
    rwa [IPDatagram.byteLength, kind, written]
  have parsed : Parsed dgram ↔
      pkt.code = 0 ∧ Fits 65536 pkt.payload.originatorId ∧
        Fits 65536 pkt.payload.seqNo ∧ DataLength pkt ∧ dgram.byteLength < 65536 := by
    rw [Parsed, kind]
  rw [fields, lengths, parsed]
  simp only [and_assoc]

theorem udp_round_trip (kind : dgram.transport = .udp pkt) (widths : WireWidths dgram) :
    (∃ dest, parse parseSCTP (serialize tcpChecksum dgram buf).1 bufsize =
        .ok dest ∧ RoundTrip dgram dest) ↔
      Survives dgram := by
  have bytes : transportBytes tcpChecksum dgram buf =
      (UDPSerializer.serialize pkt (behind (putHeader dgram buf) IP_HEADER_BYTES)).1 := by
    rw [transportBytes, kind]
    rfl
  have found : parseTransport parseSCTP dgram.transport.protocol
      (transportBytes tcpChecksum dgram buf)
      (transportSize (serialize tcpChecksum dgram buf).2 bufsize) =
        UDPSerializer.parse (UDPSerializer.serialize pkt
          (behind (putHeader dgram buf) IP_HEADER_BYTES)).1 := by
    rw [bytes, kind]
    rfl
  rw [parse_udp] at found
  have source := toNat_ofInt_eq_iff 16 pkt.sourcePort
  have destination := toNat_ofInt_eq_iff 16 pkt.destinationPort
  rw [survives_iff]
  split at found
  case isTrue wrapped =>
    have lost := not_round_trip widths found
    constructor
    · exact fun back => absurd back lost
    · rintro ⟨_, parsed⟩
      rw [Parsed, kind] at parsed
      have short := parsed.2.2
      unfold UDPPacket.byteLength at short
      omega
  case isFalse enough =>
    rw [round_trip_iff widths _ found, kind]
    have parsed : Parsed dgram ↔
        Fits 65536 pkt.sourcePort ∧ Fits 65536 pkt.destinationPort ∧ pkt.byteLength < 65536 := by
      rw [Parsed, kind]
    dsimp only [SameTransport, Transport.byteLength]
    have ports : SamePorts pkt
        { sourcePort := (ofInt 16 pkt.sourcePort).toNat
          destinationPort := (ofInt 16 pkt.destinationPort).toNat
          payloadLength := (8 + pkt.payloadLength) % 65536 - 8 } ↔
        Fits 65536 pkt.sourcePort ∧ Fits 65536 pkt.destinationPort := by
      constructor
      · rintro ⟨one, other⟩
        exact ⟨source.mp one, destination.mp other⟩
      · rintro ⟨one, other⟩
        exact ⟨source.mpr one, destination.mpr other⟩
    have length : UDPPacket.byteLength
        { sourcePort := (ofInt 16 pkt.sourcePort).toNat
          destinationPort := (ofInt 16 pkt.destinationPort).toNat
          payloadLength := (8 + pkt.payloadLength) % 65536 - 8 } =
        pkt.byteLength ↔ pkt.byteLength < 65536 := by
      dsimp only [UDPPacket.byteLength]
      omega
    rw [ports, length, parsed]
    simp only [and_assoc]

theorem tcp_lost (kind : dgram.transport = .tcp msg) (widths : WireWidths dgram) :
    ¬∃ dest, parse parseSCTP (serialize tcpChecksum dgram buf).1 bufsize =
        .ok dest ∧ RoundTrip dgram dest := by
  have lost : parseTransport parseSCTP dgram.transport.protocol
      (transportBytes tcpChecksum dgram buf)
      (transportSize (serialize tcpChecksum dgram buf).2 bufsize) =
        .error (.cannotSerializeProtocol IP_PROT_TCP) := by
    rw [kind]
    rfl
  exact not_round_trip widths lost

/--
A datagram comes back from the wire unchanged exactly when it is no fragment
and may be fragmented, its fragment offset is less than 8192, it does not
carry TCP, and the lengths and the numbers of what it carries can be written.
-/
theorem datagram_round_trip (widths : WireWidths dgram)
    (holds : Holds tcpChecksum dgram buf bufsize) :
    (∃ dest, parse parseSCTP (serialize tcpChecksum dgram buf).1 bufsize =
        .ok dest ∧ RoundTrip dgram dest) ↔
      Survives dgram := by
  cases kind : dgram.transport with
  | echo _ => exact echo_round_trip kind widths holds
  | unsupported =>
    have carried := widths.carried
    rw [kind] at carried
    exact carried.elim
  | udp _ => exact udp_round_trip kind widths
  | tcp _ =>
    constructor
    · exact fun back => absurd back (tcp_lost kind widths)
    · intro survives
      have parsed := survives.transport
      rw [Parsed, kind] at parsed
      exact parsed.elim

/-- A datagram with a UDP packet. -/
def udpDatagram (moreFragments : Bool) : IPDatagram where
  version := 4
  srcAddress := 0x0A000001
  destAddress := 0x0A000002
  timeToLive := 32
  identification := 7
  moreFragments
  dontFragment := false
  fragmentOffset := 0
  diffServCodePoint := 0
  transport := .udp { sourcePort := 1000, destinationPort := 2000, payloadLength := 100 }

theorem udpDatagram_widths (moreFragments : Bool) : WireWidths (udpDatagram moreFragments) where
  version := show Fits 16 4 from ⟨by decide, by decide⟩
  headerLength := rfl
  timeToLive := show Fits 256 32 from ⟨by decide, by decide⟩
  identification := show Fits 65536 7 from ⟨by decide, by decide⟩
  fragmentOffset := show Fits 65536 0 from ⟨by decide, by decide⟩
  carried := trivial

theorem udpDatagram_holds (tcpChecksum : BitVec 16) (moreFragments : Bool)
    (buf : Buffer) : Holds tcpChecksum (udpDatagram moreFragments) buf 1000 where
  written := by
    change 20 + 108 ≤ 1000
    decide
  length := by
    change (20 : Int) + (8 + 100) ≤ 1000
    decide
  unsigned := by decide

theorem datagram_round_trip_small :
    ∃ dest, parse (fun _ _ => .ok .unsupported)
        (serialize 0 (udpDatagram false) (fun _ => 0)).1 1000 = .ok dest ∧
      RoundTrip (udpDatagram false) dest := by
  refine (datagram_round_trip (udpDatagram_widths _) (udpDatagram_holds 0 _ _)).mpr ?_
  exact ⟨rfl, rfl, by decide, ⟨by decide, by decide⟩, ⟨by decide, by decide⟩, by decide⟩

/-- A fragment that is not the last comes back as the last one. -/
theorem fragment_lost :
    ¬∀ (parseSCTP : Buffer → Nat → Except Failure Transport)
        (tcpChecksum : BitVec 16) (dgram : IPDatagram) (buf : Buffer) (bufsize : Nat),
      WireWidths dgram → Holds tcpChecksum dgram buf bufsize →
        ∃ dest, parse parseSCTP (serialize tcpChecksum dgram buf).1
            bufsize = .ok dest ∧ RoundTrip dgram dest := by
  intro every
  have widths := udpDatagram_widths true
  have back := every (fun _ _ => .ok .unsupported) 0 _
    (fun _ => 0) 1000 widths (udpDatagram_holds 0 _ _)
  have survives := (udp_round_trip rfl widths).mp back
  cases survives.moreFragments

end RoundTrips

end OmnetDsi.HeaderSerializers.DatagramRoundTrip
