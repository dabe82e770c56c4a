import OmnetDsi.Contract.Addresses
import OmnetDsi.Library.Fallible
import OmnetDsi.Library.TableChecksums
import OmnetDsi.Library.WireFields

/-!
# SCTP messages on the wire

The serializer and the parser of SCTP messages, on a little-endian host.  The
offsets of the fields are those of the structures that are laid over the
buffer; bytes that no field covers keep what the buffer had before.  Times are
in whole seconds.
-/

namespace OmnetDsi.HeaderSerializers.SCTPSerializer

open OmnetDsi.Contract.Addresses (IPAddress)
open Library.TableChecksums Library.WireBuffers Library.WireFields

/-! ## Messages -/

inductive IPvXAddress where
  | v4 (addr : BitVec 32)
  | v6 (d0 d1 d2 d3 : BitVec 32)

/-- The state of the association that the peer keeps for us. -/
structure SCTPCookie where
  creationTime : BitVec 32
  localTag : BitVec 32
  peerTag : BitVec 32
  localTieTag : Vector Byte 32
  peerTieTag : Vector Byte 32

/-- The enqueuing time is of no concern to the wire. -/
structure SCTPDataChunk where
  uBit : Bool
  bBit : Bool
  eBit : Bool
  tsn : BitVec 32
  sid : BitVec 16
  ssn : BitVec 16
  ppid : BitVec 32
  enqueuingTime : Int := 0
  data : List Byte

/-- Of an INIT or an INIT_ACK chunk. -/
structure SCTPInitChunk where
  initTag : BitVec 32
  a_rwnd : BitVec 32
  noOutStreams : BitVec 16
  noInStreams : BitVec 16
  initTSN : BitVec 32
  forwardTsn : Bool := false
  addresses : List IPvXAddress
  unrecognizedParameters : List Byte := []

/-- A gap has its first and its last number. -/
structure SCTPSackChunk where
  cumTsnAck : BitVec 32
  a_rwnd : BitVec 32
  gaps : List (BitVec 32 × BitVec 32)
  dupTsns : List (BitVec 32)

structure SCTPHeartbeatChunk where
  remoteAddr : IPvXAddress := .v4 0
  timeField : BitVec 32 := 0
  info : List Byte := []

inductive ChunkBody where
  | DATA (chunk : SCTPDataChunk)
  | INIT (chunk : SCTPInitChunk)
  | INIT_ACK (chunk : SCTPInitChunk) (cookie : List Byte) (stateCookie : Option SCTPCookie)
  | SACK (chunk : SCTPSackChunk)
  | HEARTBEAT (chunk : SCTPHeartbeatChunk)
  | HEARTBEAT_ACK (chunk : SCTPHeartbeatChunk)
  | ABORT (T_Bit : Bool)
  | SHUTDOWN (cumTsnAck : BitVec 32)
  | SHUTDOWN_ACK
  | ERRORTYPE (hasParameters : Bool)
  | COOKIE_ECHO (cookie : List Byte) (stateCookie : Option SCTPCookie)
      (unrecognizedParameters : List Byte)
  | COOKIE_ACK
  | SHUTDOWN_COMPLETE (TBit : Bool)

/-- A chunk and its length in the simulation. -/
structure SCTPChunk where
  body : ChunkBody
  byteLength : Nat

structure SCTPMessage where
  srcPort : BitVec 16
  destPort : BitVec 16
  tag : BitVec 32
  checksumOk : Bool
  chunks : List SCTPChunk

inductive Failure where
  /-- The message does not fit into the buffer. -/
  | overrun
  | notIPv4
  | noStateCookie
  | indexOutOfRange
  | emptyDataChunk
  | negativeLength
  /-- A loop makes no progress. -/
  | endless

def ADD_PADDING (x : Nat) : Nat := (x + 3) / 4 * 4

/-! ## Checksum -/

def crc_c : List Nat :=
  [0x00000000, 0xF26B8303, 0xE13B70F7, 0x1350F3F4, 0xC79A971F, 0x35F1141C,
    0x26A1E7E8, 0xD4CA64EB, 0x8AD958CF, 0x78B2DBCC, 0x6BE22838, 0x9989AB3B,
    0x4D43CFD0, 0xBF284CD3, 0xAC78BF27, 0x5E133C24, 0x105EC76F, 0xE235446C,
    0xF165B798, 0x030E349B, 0xD7C45070, 0x25AFD373, 0x36FF2087, 0xC494A384,
    0x9A879FA0, 0x68EC1CA3, 0x7BBCEF57, 0x89D76C54, 0x5D1D08BF, 0xAF768BBC,
    0xBC267848, 0x4E4DFB4B, 0x20BD8EDE, 0xD2D60DDD, 0xC186FE29, 0x33ED7D2A,
    0xE72719C1, 0x154C9AC2, 0x061C6936, 0xF477EA35, 0xAA64D611, 0x580F5512,
    0x4B5FA6E6, 0xB93425E5, 0x6DFE410E, 0x9F95C20D, 0x8CC531F9, 0x7EAEB2FA,
    0x30E349B1, 0xC288CAB2, 0xD1D83946, 0x23B3BA45, 0xF779DEAE, 0x05125DAD,
    0x1642AE59, 0xE4292D5A, 0xBA3A117E, 0x4851927D, 0x5B016189, 0xA96AE28A,
    0x7DA08661, 0x8FCB0562, 0x9C9BF696, 0x6EF07595, 0x417B1DBC, 0xB3109EBF,
    0xA0406D4B, 0x522BEE48, 0x86E18AA3, 0x748A09A0, 0x67DAFA54, 0x95B17957,
    0xCBA24573, 0x39C9C670, 0x2A993584, 0xD8F2B687, 0x0C38D26C, 0xFE53516F,
    0xED03A29B, 0x1F682198, 0x5125DAD3, 0xA34E59D0, 0xB01EAA24, 0x42752927,
    0x96BF4DCC, 0x64D4CECF, 0x77843D3B, 0x85EFBE38, 0xDBFC821C, 0x2997011F,
    0x3AC7F2EB, 0xC8AC71E8, 0x1C661503, 0xEE0D9600, 0xFD5D65F4, 0x0F36E6F7,
    0x61C69362, 0x93AD1061, 0x80FDE395, 0x72966096, 0xA65C047D, 0x5437877E,
    0x4767748A, 0xB50CF789, 0xEB1FCBAD, 0x197448AE, 0x0A24BB5A, 0xF84F3859,
    0x2C855CB2, 0xDEEEDFB1, 0xCDBE2C45, 0x3FD5AF46, 0x7198540D, 0x83F3D70E,
    0x90A324FA, 0x62C8A7F9, 0xB602C312, 0x44694011, 0x5739B3E5, 0xA55230E6,
    0xFB410CC2, 0x092A8FC1, 0x1A7A7C35, 0xE811FF36, 0x3CDB9BDD, 0xCEB018DE,
    0xDDE0EB2A, 0x2F8B6829, 0x82F63B78, 0x709DB87B, 0x63CD4B8F, 0x91A6C88C,
    0x456CAC67, 0xB7072F64, 0xA457DC90, 0x563C5F93, 0x082F63B7, 0xFA44E0B4,
    0xE9141340, 0x1B7F9043, 0xCFB5F4A8, 0x3DDE77AB, 0x2E8E845F, 0xDCE5075C,
    0x92A8FC17, 0x60C37F14, 0x73938CE0, 0x81F80FE3, 0x55326B08, 0xA759E80B,
    0xB4091BFF, 0x466298FC, 0x1871A4D8, 0xEA1A27DB, 0xF94AD42F, 0x0B21572C,
    0xDFEB33C7, 0x2D80B0C4, 0x3ED04330, 0xCCBBC033, 0xA24BB5A6, 0x502036A5,
    0x4370C551, 0xB11B4652, 0x65D122B9, 0x97BAA1BA, 0x84EA524E, 0x7681D14D,
    0x2892ED69, 0xDAF96E6A, 0xC9A99D9E, 0x3BC21E9D, 0xEF087A76, 0x1D63F975,
    0x0E330A81, 0xFC588982, 0xB21572C9, 0x407EF1CA, 0x532E023E, 0xA145813D,
    0x758FE5D6, 0x87E466D5, 0x94B49521, 0x66DF1622, 0x38CC2A06, 0xCAA7A905,
    0xD9F75AF1, 0x2B9CD9F2, 0xFF56BD19, 0x0D3D3E1A, 0x1E6DCDEE, 0xEC064EED,
    0xC38D26C4, 0x31E6A5C7, 0x22B65633, 0xD0DDD530, 0x0417B1DB, 0xF67C32D8,
    0xE52CC12C, 0x1747422F, 0x49547E0B, 0xBB3FFD08, 0xA86F0EFC, 0x5A048DFF,
    0x8ECEE914, 0x7CA56A17, 0x6FF599E3, 0x9D9E1AE0, 0xD3D3E1AB, 0x21B862A8,
    0x32E8915C, 0xC083125F, 0x144976B4, 0xE622F5B7, 0xF5720643, 0x07198540,
    0x590AB964, 0xAB613A67, 0xB831C993, 0x4A5A4A90, 0x9E902E7B, 0x6CFBAD78,
    0x7FAB5E8C, 0x8DC0DD8F, 0xE330A81A, 0x115B2B19, 0x020BD8ED, 0xF0605BEE,
    0x24AA3F05, 0xD6C1BC06, 0xC5914FF2, 0x37FACCF1, 0x69E9F0D5, 0x9B8273D6,
    0x88D28022, 0x7AB90321, 0xAE7367CA, 0x5C18E4C9, 0x4F48173D, 0xBD23943E,
    0xF36E6F75, 0x0105EC76, 0x12551F82, 0xE03E9C81, 0x34F4F86A, 0xC69F7B69,
    0xD5CF889D, 0x27A40B9E, 0x79B737BA, 0x8BDCB4B9, 0x988C474D, 0x6AE7C44E,
    0xBE2DA0A5, 0x4C4623A6, 0x5F16D052, 0xAD7D5351]

def crcTable (i : BitVec 8) : BitVec 32 :=
  BitVec.ofNat 32 (crc_c.getD i.toNat 0)

/-- The bytes of the word in the opposite order. -/
def swapBytes (h : BitVec 32) : BitVec 32 :=
  h.extractLsb' 0 8 ++ h.extractLsb' 8 8 ++ h.extractLsb' 16 8 ++ h.extractLsb' 24 8

/-- The value whose bytes are sent in network order. -/
def checksum (buf : Buffer) (len : Nat) : BitVec 32 :=
  swapBytes (~~~updateAll crcTable (BitVec.allOnes 32) (bytesFrom buf 0 len))

/-! ## Serializing -/

def flag (bit : Bool) (mask : Byte) : Byte := if bit then mask else 0

def IPvXAddress.get4 : IPvXAddress → Except Failure (BitVec 32)
  | .v4 addr => .ok addr
  | .v6 _ _ _ _ => .error .notIPv4

/-- A number of an unsigned 16-bit field. -/
def number16 (value : Nat) : List Byte := be16 (BitVec.ofNat 16 value)

def SCTPDataChunk.fields (chunk : SCTPDataChunk) (byteLength : Nat) : List Field :=
  [⟨0, [0]⟩, ⟨1, [flag chunk.uBit 0x04 ||| flag chunk.bBit 0x02 ||| flag chunk.eBit 0x01]⟩,
    ⟨4, be32 chunk.tsn⟩, ⟨8, be16 chunk.sid⟩, ⟨10, be16 chunk.ssn⟩,
    ⟨12, be32 chunk.ppid⟩, ⟨2, number16 byteLength⟩, ⟨16, chunk.data⟩]

/-- The address parameters of an INIT chunk, one after the other. -/
def addressParameters (addresses : List (BitVec 32)) : List Byte :=
  addresses.flatMap fun address => be16 5 ++ be16 8 ++ be32 address

/-- What an INIT and an INIT_ACK chunk have in common. -/
def SCTPInitChunk.fields (chunk : SCTPInitChunk) (addresses : List (BitVec 32)) : List Field :=
  [⟨4, be32 chunk.initTag⟩, ⟨8, be32 chunk.a_rwnd⟩,
    ⟨12, be16 chunk.noOutStreams⟩, ⟨14, be16 chunk.noInStreams⟩,
    ⟨16, be32 chunk.initTSN⟩, ⟨20, be16 12⟩, ⟨22, be16 6⟩, ⟨24, be16 5⟩,
    ⟨28, addressParameters addresses⟩]

def SCTPCookie.fields (cookie : SCTPCookie) (start : Nat) : List Field :=
  [⟨start, be32 cookie.creationTime⟩, ⟨start + 4, be32 cookie.localTag⟩,
    ⟨start + 8, be32 cookie.peerTag⟩, ⟨start + 12, cookie.localTieTag.toList⟩,
    ⟨start + 44, cookie.peerTieTag.toList⟩]

/-- What the loop over unrecognized parameters writes. -/
structure Unrecognized where
  fields : List Field
  /-- Where the last parameter ends, with its padding. -/
  parPtr : Nat
  /-- The lengths of the parameters without their padding. -/
  ecLen : Nat

def unrecognizedFields (parameters : List Byte) :
    Nat → Nat → Nat → Nat → Except Failure Unrecognized
  | 0, _, _, _ => .error .endless
  | fuel + 1, k, uLen, parPtr =>
    if uLen = 0 then .ok ⟨[], parPtr, 0⟩
    else
      match parameters[k + 2]?, parameters[k + 3]? with
      | some high, some low =>
        let pLen := high.toNat * 16 + low.toNat
        let count := ADD_PADDING pLen
        if k + count ≤ parameters.length then do
          let rest ← unrecognizedFields parameters fuel (k + count)
            ((uLen + 2 ^ 32 - count) % 2 ^ 32) (parPtr + ADD_PADDING (pLen + 4))
          .ok
            { rest with
              fields := ⟨parPtr, be16 8⟩ ::
                ⟨parPtr + 2, number16 (pLen + 4)⟩ ::
                  ⟨parPtr + 4, (parameters.drop k).take count⟩ :: rest.fields
              ecLen := pLen + 4 + rest.ecLen }
        else .error .indexOutOfRange
      | _, _ => .error .indexOutOfRange

def SCTPSackChunk.fields (chunk : SCTPSackChunk) (byteLength : Nat) : List Field :=
  [⟨0, [3]⟩, ⟨2, number16 byteLength⟩, ⟨4, be32 chunk.cumTsnAck⟩,
    ⟨8, be32 chunk.a_rwnd⟩, ⟨12, number16 chunk.gaps.length⟩, ⟨14, number16 chunk.dupTsns.length⟩,
    ⟨16, chunk.gaps.flatMap fun gap =>
      be16 ((gap.1 - chunk.cumTsnAck).setWidth 16) ++ be16 ((gap.2 - chunk.cumTsnAck).setWidth 16)⟩,
    ⟨16 + 4 * chunk.gaps.length, chunk.dupTsns.flatMap be32⟩]

/-- The address and the time, as a TLV. -/
def heartbeatFields (addr timeField : BitVec 32) : List Field :=
  [⟨4, be16 1⟩, ⟨6, number16 12⟩, ⟨8, be32 addr⟩, ⟨12, be32 timeField⟩]

/--
The fields of a chunk and by how much it takes the pointer on.  An ERROR chunk
goes by the length that it finds in the buffer.
-/
def ChunkBody.fields (byteLength : Nat) (found : BitVec 16) :
    ChunkBody → Except Failure (List Field × Nat)
  | .DATA chunk => .ok (chunk.fields byteLength, ADD_PADDING byteLength)
  | .INIT chunk => do
      let addresses ← chunk.addresses.mapM IPvXAddress.get4
      let parPtr := 8 + 8 * addresses.length
      .ok (⟨0, [1]⟩ :: ⟨1, [0]⟩ :: chunk.fields addresses ++
        [⟨2, number16 (20 + parPtr)⟩], 20 + parPtr)
  | .INIT_ACK chunk cookie stateCookie => do
      let addresses ← chunk.addresses.mapM IPvXAddress.get4
      let unknown ← unrecognizedFields chunk.unrecognizedParameters
        (chunk.unrecognizedParameters.length + 1) 0
        chunk.unrecognizedParameters.length (28 + 8 * addresses.length)
      let parPtr := unknown.parPtr
      let cookieFields ← if cookie = [] then
          match stateCookie with
          | none => .error .noStateCookie
          | some stateCookie => .ok (⟨parPtr + 2, number16 80⟩ :: stateCookie.fields (parPtr + 4))
        else .ok [⟨parPtr + 2, number16 (cookie.length + 4)⟩, ⟨parPtr + 4, cookie⟩]
      let size := parPtr + (if cookie = [] then 80 else cookie.length + 4)
      .ok (⟨0, [2]⟩ :: chunk.fields addresses ++ unknown.fields ++
        ⟨parPtr, be16 7⟩ :: cookieFields ++ [⟨2, number16 size⟩], size)
  | .SACK chunk => .ok (chunk.fields byteLength, byteLength)
  | .HEARTBEAT chunk => do
      let addr ← chunk.remoteAddr.get4
      .ok (⟨0, [4]⟩ :: ⟨2, number16 byteLength⟩ :: heartbeatFields addr chunk.timeField, byteLength)
  | .HEARTBEAT_ACK chunk =>
    if chunk.info ≠ [] then
      .ok ([⟨0, [5]⟩, ⟨2, number16 byteLength⟩, ⟨4, be16 1⟩,
        ⟨6, number16 (chunk.info.length + 4)⟩, ⟨8, chunk.info⟩], byteLength)
    else do
      let addr ← chunk.remoteAddr.get4
      .ok (⟨0, [5]⟩ :: ⟨2, number16 byteLength⟩ :: heartbeatFields addr chunk.timeField, byteLength)
  | .ABORT T_Bit => .ok ([⟨0, [6]⟩, ⟨1, [flag T_Bit 0x01]⟩, ⟨2, number16 byteLength⟩], byteLength)
  | .SHUTDOWN cumTsnAck =>
    .ok ([⟨0, [7]⟩, ⟨4, be32 cumTsnAck⟩, ⟨2, number16 byteLength⟩], byteLength)
  | .SHUTDOWN_ACK => .ok ([⟨0, [8]⟩, ⟨2, number16 byteLength⟩], byteLength)
  | .ERRORTYPE hasParameters =>
    .ok ([⟨0, [9]⟩, ⟨1, [0]⟩], if hasParameters then 4 else ADD_PADDING found.toNat)
  | .COOKIE_ECHO cookie stateCookie parameters => do
      let cookieFields ← if cookie ≠ [] then .ok [⟨4, cookie⟩]
        else
          match stateCookie with
          | none => .error .noStateCookie
          | some stateCookie => .ok (stateCookie.fields 4)
      let echo := ⟨0, [10]⟩ :: ⟨2, number16 byteLength⟩ :: cookieFields
      let size := ADD_PADDING byteLength
      if parameters = [] then .ok (echo, size)
      else
        let unknown ← unrecognizedFields parameters (parameters.length + 1) 0
          parameters.length (size + 4)
        .ok (echo ++ ⟨size, [9]⟩ :: ⟨size + 1, [0]⟩ :: unknown.fields ++
          [⟨size + 2, number16 (4 + unknown.ecLen)⟩], unknown.parPtr)
  | .COOKIE_ACK => .ok ([⟨0, [11]⟩, ⟨2, number16 byteLength⟩], byteLength)
  | .SHUTDOWN_COMPLETE TBit =>
    .ok ([⟨0, [14]⟩, ⟨2, number16 byteLength⟩, ⟨1, [flag TBit 0x01]⟩], byteLength)

/-- The loop over the chunks; the buffer is not checked to be large enough. -/
def serializeChunks (bufsize : BitVec 32) :
    List SCTPChunk → Buffer → Nat → Except Failure (Buffer × Nat)
  | [], buf, writtenbytes => .ok (buf, writtenbytes)
  | chunk :: rest, buf, writtenbytes => do
      let written ← chunk.body.fields chunk.byteLength (getHost16 buf (writtenbytes + 2))
      let next := writtenbytes + written.2
      if bufsize.toNat < next then .error .overrun
      else serializeChunks bufsize rest (putFields buf writtenbytes written.1) next

/-- The checksum is taken over what the buffer has in its place. -/
def serialize (msg : SCTPMessage) (buf : Buffer) (bufsize : BitVec 32) :
    Except Failure (Buffer × Nat) :=
  if bufsize.toNat < 12 then .error .overrun
  else do
    let buf := putFields buf 0 [⟨0, be16 msg.srcPort⟩, ⟨2, be16 msg.destPort⟩, ⟨4, be32 msg.tag⟩]
    let written ← serializeChunks bufsize msg.chunks buf 12
    .ok (put32 written.1 8 (checksum written.1 written.2), written.2)

/-! ## Parsing -/

/-- What an INIT or an INIT_ACK chunk has behind its fixed part. -/
structure Parameters where
  addresses : List IPvXAddress := []
  cookie : List Byte := []
  unrecognizedParameters : List Byte := []
  chunklen : Nat := 20

/-- The unspecified address is always represented as an IPv4 one. -/
def IPvXAddress.ofWords (d0 d1 d2 d3 : BitVec 32) : IPvXAddress :=
  if d0 = 0 ∧ d1 = 0 ∧ d2 = 0 ∧ d3 = 0 then .v4 0 else .v6 d0 d1 d2 d3

/-- A word of four bytes as the host has it. -/
def getHost32 (buf : Buffer) (offset : Nat) : BitVec 32 :=
  getHost16 buf (offset + 2) ++ getHost16 buf offset

/-- The loop over the parameters; only an INIT_ACK chunk has a cookie. -/
def parseParameters (isAck : Bool) (buf : Buffer) (start cLen : Nat) :
    Nat → Nat → Parameters → Except Failure Parameters
  | 0, _, _ => .error .endless
  | fuel + 1, parptr, found =>
    if 20 + parptr < cLen then
      let parameter := start + 20 + parptr
      let paramType := get16 buf parameter
      let length := (get16 buf (parameter + 2)).toNat
      let next := parptr + ADD_PADDING length
      if paramType = 12 then parseParameters isAck buf start cLen fuel next found
      else if paramType = 5 then
        parseParameters isAck buf start cLen fuel next
          { found with
            addresses := found.addresses ++ [.v4 (get32 buf (parameter + 4))]
            chunklen := found.chunklen + 8 }
      else if paramType = 6 then
        parseParameters isAck buf start cLen fuel next
          { found with
            addresses := found.addresses ++
              [.ofWords (getHost32 buf (parameter + 4))
                (getHost32 buf (parameter + 8)) (getHost32 buf (parameter + 12))
                (getHost32 buf (parameter + 16))]
            chunklen := found.chunklen + 20 }
      else if isAck ∧ paramType = 7 then
        if length < 4 then .error .negativeLength
        else
          parseParameters isAck buf start cLen fuel next
            { found with
              cookie := bytesFrom buf (parameter + 4) (length - 4)
              chunklen := found.chunklen + length }
      else
        let found :=
          if paramType.getLsbD 14 then
            { found with
              unrecognizedParameters := found.unrecognizedParameters ++
                bytesFrom buf parameter (ADD_PADDING length) }
          else found
        if paramType.getLsbD 15 then parseParameters isAck buf start cLen fuel next found
        else .ok found
    else .ok found

def parseInit (isAck : Bool) (buf : Buffer) (start cLen : Nat) :
    Except Failure (SCTPInitChunk × Parameters) := do
  let found ← parseParameters isAck buf start cLen (cLen + 1) 0 {}
  .ok
    ({ initTag := get32 buf (start + 4)
       a_rwnd := get32 buf (start + 8)
       noOutStreams := get16 buf (start + 12)
       noInStreams := get16 buf (start + 14)
       initTSN := get32 buf (start + 16)
       addresses := found.addresses
       unrecognizedParameters := found.unrecognizedParameters }, found)

def parseData (buf : Buffer) (start woPadding : Nat) : Except Failure SCTPChunk :=
  if ADD_PADDING woPadding = 0 then .error .emptyDataChunk
  else
    let datalen := woPadding - 16
    let flags := buf (start + 1)
    .ok
      { body := .DATA
          { uBit := flags &&& 0x04 ≠ 0
            bBit := flags &&& 0x02 ≠ 0
            eBit := flags &&& 0x01 ≠ 0
            tsn := get32 buf (start + 4)
            sid := get16 buf (start + 8)
            ssn := get16 buf (start + 10)
            ppid := get32 buf (start + 12)
            data := bytesFrom buf (start + 16) datalen }
        byteLength := 16 + datalen }

def parseGaps (buf : Buffer) (cumtsnack : BitVec 32) : Nat → Nat → List (BitVec 32 × BitVec 32)
  | _, 0 => []
  | offset, ngaps + 1 =>
    ((get16 buf offset).setWidth 32 + cumtsnack,
      (get16 buf (offset + 2)).setWidth 32 + cumtsnack) ::
      parseGaps buf cumtsnack (offset + 4) ngaps

def parseDups (buf : Buffer) : Nat → Nat → List (BitVec 32)
  | _, 0 => []
  | offset, ndups + 1 => get32 buf offset :: parseDups buf (offset + 4) ndups

def parseSack (buf : Buffer) (start : Nat) : SCTPSackChunk :=
  let cumtsnack := get32 buf (start + 4)
  let ngaps := (get16 buf (start + 12)).toNat
  let ndups := (get16 buf (start + 14)).toNat
  { cumTsnAck := cumtsnack
    a_rwnd := get32 buf (start + 8)
    gaps := parseGaps buf cumtsnack (start + 16) ngaps
    dupTsns := parseDups buf (start + 16 + 4 * ngaps) ndups }

/-- The loop over the information of a HEARTBEAT chunk. -/
def parseHeartbeat (buf : Buffer) (start cLen : Nat) :
    Nat → Nat → List Byte → Except Failure (List Byte)
  | 0, _, _ => .error .endless
  | fuel + 1, parptr, info =>
    if 4 + parptr < cLen then
      let hbi := start + 4 + parptr
      let length := (get16 buf (hbi + 2)).toNat
      if get16 buf hbi = 1 then
        if length < 4 then .error .negativeLength
        else
          parseHeartbeat buf start cLen fuel (parptr + ADD_PADDING (length - 4) + 4)
            (bytesFrom buf (hbi + 4) (length - 4))
      else parseHeartbeat buf start cLen fuel (parptr + ADD_PADDING length) info
    else .ok info

/-- The loop over the information of a HEARTBEAT_ACK chunk. -/
def parseHeartbeatAck (buf : Buffer) (start cLen : Nat) :
    Nat → Nat → SCTPHeartbeatChunk → Except Failure SCTPHeartbeatChunk
  | 0, _, _ => .error .endless
  | fuel + 1, parptr, chunk =>
    if 4 + parptr < cLen then
      let hbi := start + 4 + parptr
      if get16 buf hbi = 1 then
        parseHeartbeatAck buf start cLen fuel (parptr + 12)
          { chunk with remoteAddr := .v4 (get32 buf (hbi + 4)), timeField := get32 buf (hbi + 8) }
      else parseHeartbeatAck buf start cLen fuel (parptr + (get16 buf (hbi + 2)).toNat) chunk
    else .ok chunk

def parseCookie (buf : Buffer) (start : Nat) : SCTPCookie where
  creationTime := get32 buf (start + 4)
  localTag := get32 buf (start + 8)
  peerTag := get32 buf (start + 12)
  localTieTag := .ofFn fun i => buf (start + 16 + i)
  peerTieTag := .ofFn fun i => buf (start + 48 + i)

/-- The chunk, if its type is known, and by how much the pointer goes on. -/
def parseChunk (buf : Buffer) (start : Nat) : Except Failure (Option SCTPChunk × Nat) :=
  let woPadding := (get16 buf (start + 2)).toNat
  let cLen := ADD_PADDING woPadding
  let bit := buf (start + 1) &&& 0x01 ≠ 0
  match (buf start).toNat with
  | 0 => do
      let chunk ← parseData buf start woPadding
      .ok (some chunk, cLen)
  | 1 => do
      let chunk ← parseInit false buf start cLen
      .ok (some ⟨.INIT chunk.1, chunk.2.chunklen⟩, cLen)
  | 2 => do
      let chunk ← parseInit true buf start cLen
      .ok (some ⟨.INIT_ACK chunk.1 chunk.2.cookie none, chunk.2.chunklen⟩, cLen)
  | 3 => .ok (some ⟨.SACK (parseSack buf start), cLen⟩, cLen)
  | 4 => do
      let info ← parseHeartbeat buf start cLen (cLen + 1) 0 []
      .ok (some ⟨.HEARTBEAT { info }, cLen⟩, cLen)
  | 5 => do
      let chunk ← parseHeartbeatAck buf start cLen (cLen + 1) 0 {}
      .ok (some ⟨.HEARTBEAT_ACK chunk, cLen⟩, cLen)
  | 6 => .ok (some ⟨.ABORT bit, woPadding⟩, woPadding)
  | 7 => .ok (some ⟨.SHUTDOWN (get32 buf (start + 4)), cLen⟩, cLen)
  | 8 => .ok (some ⟨.SHUTDOWN_ACK, cLen⟩, cLen)
  | 9 => .ok (some ⟨.ERRORTYPE false, 4⟩, cLen)
  | 10 =>
    let cookie := if 4 < cLen then some (parseCookie buf start) else none
    .ok (some ⟨.COOKIE_ECHO [] cookie [], woPadding⟩, cLen)
  | 11 => .ok (some ⟨.COOKIE_ACK, cLen⟩, cLen)
  | 14 => .ok (some ⟨.SHUTDOWN_COMPLETE bit, cLen⟩, cLen)
  | _ => .ok (none, cLen)

/-- The loop over the chunks. -/
def parseChunks (buf : Buffer) (bufsize : Nat) : Nat → Nat → Except Failure (List SCTPChunk)
  | 0, _ => .error .endless
  | fuel + 1, chunkPtr =>
    if chunkPtr < (bufsize + 2 ^ 32 - 12) % 2 ^ 32 then do
      let chunk ← parseChunk buf (12 + chunkPtr)
      let rest ← parseChunks buf bufsize fuel ((chunkPtr + chunk.2) % 2 ^ 32)
      .ok (chunk.1.toList ++ rest)
    else .ok []

def parse (buf : Buffer) (bufsize : Nat) : Except Failure SCTPMessage := do
  let tempChecksum := get32 buf 8
  let chksum := checksum (put32 buf 8 0) bufsize
  let chunks ← parseChunks buf bufsize (bufsize + 1) 0
  .ok
    { srcPort := get16 buf 0
      destPort := get16 buf 2
      tag := get32 buf 4
      checksumOk := tempChecksum = chksum
      chunks }

/-! ## The association -/

/-- The length of a chunk as the association sets it. -/
def ChunkBody.associationLength : ChunkBody → Nat
  | .DATA chunk => 16 + chunk.data.length
  | .INIT chunk => 20 + 8 * chunk.addresses.length
  | .INIT_ACK chunk cookie stateCookie =>
    20 + 8 * chunk.addresses.length + chunk.unrecognizedParameters.length +
      cookie.length + if stateCookie.isSome then 76 else 0
  | .SACK chunk => 16 + 4 * chunk.gaps.length + 4 * chunk.dupTsns.length
  | .HEARTBEAT _ => 16
  | .HEARTBEAT_ACK _ => 16
  | .ABORT _ => 4
  | .SHUTDOWN _ => 8
  | .SHUTDOWN_ACK => 4
  | .ERRORTYPE _ => 4
  | .COOKIE_ECHO cookie stateCookie _ => 4 + if stateCookie.isSome then 76 else cookie.length
  | .COOKIE_ACK => 4
  | .SHUTDOWN_COMPLETE _ => 4

/-- A chunk as the association sends it. -/
def ChunkBody.chunk (body : ChunkBody) : SCTPChunk where
  body
  byteLength := body.associationLength

/-- The chunk with which the peer answers a HEARTBEAT. -/
def sendHeartbeatAck (heartbeatChunk : SCTPHeartbeatChunk) (byteLength : Nat) : SCTPChunk where
  body := .HEARTBEAT_ACK heartbeatChunk
  byteLength

end OmnetDsi.HeaderSerializers.SCTPSerializer
