import OmnetDsi.Library.Fallible
import OmnetDsi.Library.WireBuffers

/-!
# IPv4 datagrams on the wire

The serializers of IPv4, ICMP, UDP and TCP, on a little-endian host.  Of the
ICMP messages those with a ping payload are modelled, and an unsupported one,
for which nothing but a checksum is written.  The TCP checksum is taken over a
pseudo header with unset bytes, so that any value is possible.

A pointer into the buffer that is handed to another serializer is modelled by
`behind` and `place`.
-/

namespace OmnetDsi.HeaderSerializers.IPSerializer

open Library.WireBuffers

/-! ## Packets -/

def IP_HEADER_BYTES : Nat := 20

def ICMP_MINLEN : Nat := 8

def IP_PROT_ICMP : BitVec 8 := 1

def IP_PROT_TCP : BitVec 8 := 6

def IP_PROT_UDP : BitVec 8 := 17

def IP_PROT_SCTP : BitVec 8 := 132

def ICMP_ECHO : BitVec 8 := 8

def ICMP_ECHOREPLY : BitVec 8 := 0

def IP_DF : BitVec 16 := 0x4000

def IP_MF : BitVec 16 := 0x2000

def IP_OFFMASK : BitVec 16 := 0x1fff

structure PingPayload where
  originatorId : Int
  seqNo : Int
  byteLength : Int
  data : List Byte

inductive ICMPType where
  | ICMP_ECHO_REQUEST
  | ICMP_ECHO_REPLY

/-- An echo message; `headerLength` is its length without the payload. -/
structure ICMPMessage where
  type : ICMPType
  code : Int
  headerLength : Int
  payload : PingPayload

def ICMPMessage.byteLength (pkt : ICMPMessage) : Int :=
  pkt.headerLength + pkt.payload.byteLength

/-- A UDP packet with eight bytes of header and some payload. -/
structure UDPPacket where
  sourcePort : Int
  destinationPort : Int
  payloadLength : Nat

def UDPPacket.byteLength (pkt : UDPPacket) : Int :=
  8 + pkt.payloadLength

structure TCPSegment where
  srcPort : Int
  destPort : Int
  sequenceNo : Int
  ackNo : Int
  finBit : Bool
  synBit : Bool
  rstBit : Bool
  pshBit : Bool
  ackBit : Bool
  urgBit : Bool
  window : Int
  urgentPointer : Int
  byteLength : Nat

inductive Transport where
  | echo (pkt : ICMPMessage)
  /-- An ICMP message of another type. -/
  | unsupported
  | udp (pkt : UDPPacket)
  | tcp (msg : TCPSegment)

def Transport.byteLength : Transport → Int
  | .echo pkt => pkt.byteLength
  | .unsupported => 0
  | .udp pkt => pkt.byteLength
  | .tcp msg => msg.byteLength

def Transport.protocol : Transport → BitVec 8
  | .echo _ => IP_PROT_ICMP
  | .unsupported => IP_PROT_ICMP
  | .udp _ => IP_PROT_UDP
  | .tcp _ => IP_PROT_TCP

/-- A datagram without options. -/
structure IPDatagram where
  version : Int
  headerLength : Nat := IP_HEADER_BYTES
  srcAddress : BitVec 32
  destAddress : BitVec 32
  timeToLive : Int
  identification : Int
  moreFragments : Bool
  dontFragment : Bool
  fragmentOffset : Int
  diffServCodePoint : BitVec 8
  transport : Transport

def IPDatagram.byteLength (dgram : IPDatagram) : Int :=
  IP_HEADER_BYTES + dgram.transport.byteLength

inductive Failure where
  | cannotSerializeProtocol (protocol : BitVec 8)
  | negativeLength

/-! ## Checksums -/

/-- The carries are added until none is left. -/
def foldCarries (sum : Nat) : Nat :=
  if sum / 65536 = 0 then sum else foldCarries (sum % 65536 + sum / 65536)
termination_by sum
decreasing_by omega

/-- The words and the last odd byte. -/
def sumWords (buf : Buffer) : (offset count sum : Nat) → Nat
  | offset, count + 2, sum =>
    let sum := sum + (getHost16 buf offset).toNat
    sumWords buf (offset + 2) count (if sum.testBit 31 then sum % 65536 + sum / 65536 else sum)
  | offset, 1, sum => sum + (buf offset).toNat
  | _, 0, sum => sum

def checksum (buf : Buffer) (count : Nat) : BitVec 16 :=
  ~~~BitVec.ofNat 16 (foldCarries (sumWords buf 0 count 0))

/-! ## ICMP -/

/-- The first bytes of an echo message. -/
def putEcho (buf : Buffer) (type : BitVec 8) (pp : PingPayload) : Buffer :=
  let icmp := put buf 0 type
  let icmp := put icmp 1 0
  let icmp := put16 icmp 4 (.ofInt 16 pp.originatorId)
  put16 icmp 6 (.ofInt 16 pp.seqNo)

/-- The loop that writes the data. -/
def putData (buf : Buffer) (datalen : Nat) (data : Nat → Byte) : Buffer :=
  (List.range datalen).foldl (fun buf i => put buf (ICMP_MINLEN + i) (data i)) buf

/-- The letter that missing data is filled with. -/
def filler : Byte := 97

namespace ICMPSerializer

/-- The header and the data of a message, and the length. -/
def body (pkt : ICMPMessage) (buf : Buffer) : Buffer × Nat :=
  let pp := pkt.payload
  match pkt.type with
  | .ICMP_ECHO_REQUEST =>
    let datalen := (BitVec.ofInt 32 (pp.byteLength - 4)).toNat
    (putData (putEcho buf ICMP_ECHO pp) datalen
      (fun i => pp.data.getD i filler), ICMP_MINLEN + datalen)
  | .ICMP_ECHO_REPLY =>
    let datalen := pp.data.length
    (putData (putEcho buf ICMP_ECHOREPLY pp) datalen
      (fun i => pp.data.getD i filler), ICMP_MINLEN + datalen)

/-- The checksum comes last. -/
def finish (written : Buffer × Nat) : Buffer × Nat :=
  (putHost16 written.1 2 (checksum written.1 written.2), written.2)

def serialize (pkt : ICMPMessage) (buf : Buffer) : Buffer × Nat :=
  finish (body pkt buf)

/-- A difference of unsigned numbers. -/
def unsignedSub (left right : Nat) : Nat :=
  (BitVec.ofNat 32 left - BitVec.ofNat 32 right).toNat

def parseEcho (buf : Buffer) (bufsize : Nat) (type : ICMPType) : ICMPMessage :=
  { type
    code := 0
    headerLength := 4
    payload :=
      { originatorId := (get16 buf 4).toNat
        seqNo := (get16 buf 6).toNat
        byteLength := unsignedSub bufsize 4
        data := (List.range (unsignedSub bufsize ICMP_MINLEN)).map
          fun i => buf (ICMP_MINLEN + i) } }

def parse (buf : Buffer) (bufsize : Nat) : Transport :=
  if buf 0 = ICMP_ECHO then .echo (parseEcho buf bufsize .ICMP_ECHO_REQUEST)
  else if buf 0 = ICMP_ECHOREPLY then .echo (parseEcho buf bufsize .ICMP_ECHO_REPLY)
  else .unsupported

end ICMPSerializer

/-! ## UDP -/

namespace UDPSerializer

def serialize (pkt : UDPPacket) (buf : Buffer) : Buffer × Nat :=
  let packetLength := pkt.byteLength.toNat
  let udphdr := put16 buf 0 (.ofInt 16 pkt.sourcePort)
  let udphdr := put16 udphdr 2 (.ofInt 16 pkt.destinationPort)
  let udphdr := put16 udphdr 4 (.ofNat 16 packetLength)
  (putHost16 udphdr 6 (checksum udphdr packetLength), packetLength)

def parse (buf : Buffer) : Except Failure Transport :=
  let length := (get16 buf 4).toNat
  if length < 8 then .error .negativeLength
  else
    .ok (.udp
      { sourcePort := (get16 buf 0).toNat
        destinationPort := (get16 buf 2).toNat
        payloadLength := length - 8 })

end UDPSerializer

/-! ## TCP -/

namespace TCPSerializer

def flag (bit : Bool) (mask : BitVec 8) : BitVec 8 :=
  if bit then mask else 0

def flags (msg : TCPSegment) : BitVec 8 :=
  flag msg.finBit 0x01 ||| flag msg.synBit 0x02 ||| flag msg.rstBit 0x04 |||
    flag msg.pshBit 0x08 ||| flag msg.ackBit 0x10 ||| flag msg.urgBit 0x20

def serialize (msg : TCPSegment) (buf : Buffer) (checksum : BitVec 16) : Buffer × Nat :=
  let tcp := put16 buf 0 (.ofInt 16 msg.srcPort)
  let tcp := put16 tcp 2 (.ofInt 16 msg.destPort)
  let tcp := put32 tcp 4 (.ofInt 32 msg.sequenceNo)
  let tcp := put32 tcp 8 (.ofInt 32 msg.ackNo)
  let tcp := put tcp 12 0x50
  let tcp := put tcp 13 (0x3F &&& flags msg)
  let tcp := put16 tcp 14 (.ofInt 16 msg.window)
  let tcp := put16 tcp 18 (.ofInt 16 msg.urgentPointer)
  (putHost16 tcp 16 checksum, msg.byteLength)

end TCPSerializer

/-! ## IP -/

/-- The header, but for the total length. -/
def putHeader (dgram : IPDatagram) (buf : Buffer) : Buffer :=
  let ip := put buf 0 (BitVec.ofInt 4 dgram.version ++ 5#4)
  let ip := put ip 1 dgram.diffServCodePoint
  let ip := put16 ip 4 (.ofInt 16 dgram.identification)
  let ip := put16 ip 6 (.ofInt 16 dgram.fragmentOffset)
  let ip := put ip 8 (.ofInt 8 dgram.timeToLive)
  let ip := put ip 9 dgram.transport.protocol
  let ip := put32 ip 12 dgram.srcAddress
  let ip := put32 ip 16 dgram.destAddress
  putHost16 ip 10 0

def Transport.serialize (tcpChecksum : BitVec 16) (buf : Buffer) : Transport → Buffer × Nat
  | .echo pkt => ICMPSerializer.serialize pkt buf
  | .unsupported => ICMPSerializer.finish (buf, 0)
  | .udp pkt => UDPSerializer.serialize pkt buf
  | .tcp msg => TCPSerializer.serialize msg buf tcpChecksum

def serialize (tcpChecksum : BitVec 16) (dgram : IPDatagram) (buf : Buffer) : Buffer × Nat :=
  let ip := putHeader dgram buf
  let inner := dgram.transport.serialize tcpChecksum (behind ip IP_HEADER_BYTES)
  let packetLength := IP_HEADER_BYTES + inner.2
  (put16 (place ip IP_HEADER_BYTES inner.1) 2 (.ofNat 16 packetLength), packetLength)

/-- The negation that gives a truth value. -/
def logicalNot (value : BitVec 16) : BitVec 16 :=
  if value = 0 then 1 else 0

def parseTransport (parseSCTP : Buffer → Nat → Except Failure Transport)
    (protocol : BitVec 8) (buf : Buffer) (bufsize : Nat) : Except Failure Transport :=
  if protocol = IP_PROT_ICMP then .ok (ICMPSerializer.parse buf bufsize)
  else if protocol = IP_PROT_UDP then UDPSerializer.parse buf
  else if protocol = IP_PROT_SCTP then parseSCTP buf bufsize
  else .error (.cannotSerializeProtocol protocol)

def parse (parseSCTP : Buffer → Nat → Except Failure Transport) (buf : Buffer)
    (bufsize : Nat) : Except Failure IPDatagram := do
  let totalLength := (get16 buf 2).toNat
  let headerLength := ((buf 0).extractLsb' 0 4).toNat * 4
  let transport ← parseTransport parseSCTP (buf 9) (behind buf headerLength)
    (ICMPSerializer.unsignedSub (min totalLength bufsize) headerLength)
  .ok
    { version := ((buf 0).extractLsb' 4 4).toNat
      headerLength := IP_HEADER_BYTES
      srcAddress := get32 buf 12
      destAddress := get32 buf 16
      timeToLive := (buf 8).toNat
      identification := (get16 buf 4).toNat
      moreFragments := getHost16 buf 6 &&& logicalNot IP_OFFMASK &&& IP_MF != 0
      dontFragment := getHost16 buf 6 &&& logicalNot IP_OFFMASK &&& IP_DF != 0
      fragmentOffset := (get16 buf 6 &&& IP_OFFMASK).toNat
      diffServCodePoint := buf 1
      transport }

end OmnetDsi.HeaderSerializers.IPSerializer
