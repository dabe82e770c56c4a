import OmnetDsi.Ipv4.RoutingTables
import OmnetDsi.Mpls.LabelTable

/-!
# Label distribution

The LDP module of one router.  A FEC is recognized for each route and each own
address; a label for it is requested from the next hop when that is a peer,
and given to the peers that request one.  `fecUp` holds the labels given out,
`fecDown` those received, and `pending` the requests that wait for a label
from downstream.

Sockets belong to the entries of `myPeers`.  What is sent over TCP is appended
to `toTcp`.  An `ASSERT` that fails, a call of `error` and undefined behaviour
end a handler without a state.
-/

namespace OmnetDsi.Ldp.LabelDistribution

open Contract.Addresses
open OmnetDsi.Ipv4.RoutingTables (IPRoute RoutingTable)
open Library.Fallible Mpls.LabelTable

/-! ## Messages -/

structure FEC_TLV where
  addr : IPAddress
  length : Int
deriving DecidableEq

def NO_ROUTE : Int := 13

structure LDPNotify where
  senderAddress : IPAddress
  status : Int
  fec : FEC_TLV

/-- The packets by their type; `other` stands for the unsupported types. -/
inductive LDPPacket where
  | LABEL_MAPPING (senderAddress : IPAddress) (fec : FEC_TLV) (label : Int)
  | LABEL_REQUEST (senderAddress : IPAddress) (fec : FEC_TLV)
  | LABEL_WITHDRAW (senderAddress : IPAddress) (fec : FEC_TLV) (label : Int)
  | LABEL_RELEASE (senderAddress : IPAddress) (fec : FEC_TLV) (label : Int)
  | NOTIFICATION (notify : LDPNotify)
  | other

inductive TcpCommand where
  | connect (connId : Nat) (remoteAddr : IPAddress)
  | send (connId : Nat) (packet : LDPPacket)
  | close (connId : Nat)
  | abort (connId : Nat)

/-! ## State -/

structure fec_t where
  fecid : Nat
  addr : IPAddress
  length : Int
  nextHop : IPAddress
deriving DecidableEq

structure fec_bind_t where
  fecid : Nat
  peer : IPAddress
  label : Int
deriving DecidableEq

structure pending_req_t where
  fecid : Nat
  peer : IPAddress

/-- The states that a session socket is in while it belongs to a peer. -/
inductive SocketState where
  | CONNECTING
  | CONNECTED
deriving DecidableEq

/-- `yourPtr` is the index that is handed to the callbacks. -/
structure TCPSocket where
  connId : Nat
  sockstate : SocketState
  yourPtr : Nat

structure peer_info where
  peerIP : IPAddress
  activeRole : Bool
  socket : Option TCPSocket
  linkInterface : String

structure InterfaceEntry where
  name : String
  networkLayerGateIndex : Int
  ipAddress : IPAddress

abbrev FecVector : Type := List fec_t

abbrev FecBindVector : Type := List fec_bind_t

abbrev PeerVector : Type := List peer_info

structure LDP where
  rt : RoutingTable
  ift : List InterfaceEntry
  lt : LIBTable
  fecList : FecVector
  fecUp : FecBindVector
  fecDown : FecBindVector
  pending : List pending_req_t
  myPeers : PeerVector
  maxFecid : Nat
  /-- Notifications that are scheduled to be looked at again. -/
  retries : List LDPNotify
  /-- Connections whose deleted socket is still in `socketMap`. -/
  freed : List Nat
  toTcp : List TcpCommand

/-- The `ASSERT` statements, by the function they are in. -/
inductive Assertion where
  | updateFecListEntry
  | rebuildFecList
  | processHelloTimeout
  | processLABEL_REQUEST
  | processLABEL_RELEASE
  | processLABEL_WITHDRAW
  | processLABEL_MAPPING
  | processNOTIFICATION
  | getPeerSocket
  /-- `socketPeerClosed`, `socketClosed` and `socketFailure`. -/
  | sessionEnds
  | lib (failure : LIBFailure)
deriving DecidableEq

inductive Failure where
  | assertion (place : Assertion)
  | error
  | undefinedBehaviour
deriving DecidableEq

/-- `std::sort` leaves the order of equivalent elements open. -/
structure Sorting where
  sort : List fec_t → List fec_t
  perm : ∀ list, (sort list).Perm list
  sorted : ∀ list, (sort list).Pairwise fun a b => b.length ≤ a.length

/-- Ones are expected from the left; the highest bit is not looked at. -/
def getNetmaskLength (netmask : IPAddress) : Int :=
  match (List.range 31).find? fun i => netmask.addr.getLsbD i with
  | some i => 32 - i
  | none => 0

/-- An `ASSERT`. -/
def require (holds : Bool) (place : Assertion) : Except Failure Unit :=
  if holds then .ok () else .error (.assertion place)

/-! ## Look-ups -/

def fec_t.key (fec : fec_t) : FEC_TLV where
  addr := fec.addr
  length := fec.length

def FecVector.findFecEntry (fecs : FecVector) (addr : IPAddress) (length : Int) : Option fec_t :=
  fecs.find? fun it => it.length = length && it.addr = addr

/-- `erase` of the entry that `findFecEntry` finds. -/
def FecVector.eraseFecEntry (fecs : FecVector) (addr : IPAddress) (length : Int) : FecVector :=
  fecs.eraseP fun it => it.length = length && it.addr = addr

def FecBindVector.findFecEntry (fecs : FecBindVector) (fecid : Nat)
    (peer : IPAddress) : Option fec_bind_t :=
  fecs.find? fun it => it.fecid = fecid && it.peer = peer

def FecBindVector.eraseFecEntry (fecs : FecBindVector) (fecid : Nat)
    (peer : IPAddress) : FecBindVector :=
  fecs.eraseP fun it => it.fecid = fecid && it.peer = peer

namespace LDP

def routerId (ldp : LDP) : IPAddress :=
  ldp.rt.routerId

/-- The routing table only fills its caches, which is left out here. -/
def findInterfaceFromPeerAddr (ldp : LDP) (peerIP : IPAddress) : Except Failure String :=
  if (ldp.rt.isLocalAddress peerIP).1 then .ok "lo0"
  else
    match ((ldp.rt.findBestMatchingRoute peerIP).1.bind
        IPRoute.interface).bind fun i => ldp.ift[i]? with
    | some ie => .ok ie.name
    | none => .error .error

def findPeer (ldp : LDP) (peerAddr : IPAddress) : Option Nat :=
  ldp.myPeers.findIdx? fun peer => peer.peerIP = peerAddr

/-- The session socket of the first entry for the peer, if connected. -/
def findPeerSocket (ldp : LDP) (peerAddr : IPAddress) : Option TCPSocket :=
  ((ldp.myPeers.find? fun peer => peer.peerIP = peerAddr).bind
    peer_info.socket).filter fun socket => socket.sockstate = .CONNECTED

def getPeerSocket (ldp : LDP) (peerAddr : IPAddress) : Except Failure TCPSocket :=
  match ldp.findPeerSocket peerAddr with
  | some socket => .ok socket
  | none => .error (.assertion .getPeerSocket)

/-! ## Sending -/

def sendToPeer (ldp : LDP) (dest : IPAddress) (packet : LDPPacket) : Except Failure LDP :=
  match ldp.getPeerSocket dest with
  | .ok socket => .ok { ldp with toTcp := ldp.toTcp ++ [.send socket.connId packet] }
  | .error failure => .error failure

def sendMappingRequest (ldp : LDP) (dest addr : IPAddress) (length : Int) : Except Failure LDP :=
  ldp.sendToPeer dest (.LABEL_REQUEST ldp.routerId ⟨addr, length⟩)

/-- The argument `status` is not used. -/
def sendNotify (ldp : LDP) (_status : Int) (dest addr : IPAddress)
    (length : Int) : Except Failure LDP :=
  ldp.sendToPeer dest (.NOTIFICATION ⟨ldp.routerId, NO_ROUTE, ⟨addr, length⟩⟩)

/-- The type of the packet is given by its constructor. -/
def sendMapping (ldp : LDP) (type : IPAddress → FEC_TLV → Int → LDPPacket)
    (dest : IPAddress) (label : Int) (addr : IPAddress) (length : Int) : Except Failure LDP :=
  ldp.sendToPeer dest (type ldp.routerId ⟨addr, length⟩ label)

/-! ## Label switching -/

def LDP_USER_TRAFFIC : Int := 100

def installLibEntry (ldp : LDP) (inLabel : Int) (inInterface : String)
    (outLabel : List LabelOp) (outInterface : String) (color : Int) : Except Failure (Int × LDP) :=
  match ldp.lt.installLibEntry inLabel inInterface outLabel outInterface color with
  | .ok installed => .ok (installed.1, { ldp with lt := installed.2 })
  | .error failure => .error (.assertion (.lib failure))

def removeLibEntry (ldp : LDP) (inLabel : Int) : Except Failure LDP :=
  match ldp.lt.removeLibEntry inLabel with
  | .ok lt => .ok { ldp with lt }
  | .error failure => .error (.assertion (.lib failure))

/-! ## FECs -/

/-- The label operation of a FEC, if there is one. -/
def labelOperation (ER : Bool) (dit : Option fec_bind_t) : Option (List LabelOp) :=
  if ER then some popLabel else dit.map fun dit => swapLabel dit.label

/-- The body of the loop over `fecUp`, with the bindings kept so far. -/
def adjustMapping (oldItem : fec_t) (outLabel : Option (List LabelOp))
    (current : LDP × FecBindVector) (uit : fec_bind_t) : Except Failure (LDP × FecBindVector) :=
  if uit.fecid ≠ oldItem.fecid then .ok (current.1, current.2 ++ [uit])
  else do
    let inInterface ← current.1.findInterfaceFromPeerAddr uit.peer
    let outInterface ← current.1.findInterfaceFromPeerAddr oldItem.nextHop
    match outLabel with
    | some outLabel => do
        let installed ←
          current.1.installLibEntry uit.label inInterface outLabel outInterface LDP_USER_TRAFFIC
        .ok (installed.2, current.2 ++ [{ uit with label := installed.1 }])
    | none => do
        let withdrawn ←
          current.1.sendMapping .LABEL_WITHDRAW uit.peer uit.label oldItem.addr oldItem.length
        .ok (withdrawn, current.2)

def isEgress (ldp : LDP) (nextHop : IPAddress) : Bool :=
  (ldp.findPeerSocket nextHop).isNone

def updateFecListEntry (ldp : LDP) (oldItem : fec_t) : Except Failure LDP := do
  let dit := ldp.fecDown.findFecEntry oldItem.fecid oldItem.nextHop
  let ER := ldp.isEgress oldItem.nextHop
  require (!(ER && dit.isSome)) .updateFecListEntry
  let adjusted ← ldp.fecUp.foldlM (adjustMapping oldItem (labelOperation ER dit)) (ldp, [])
  let updated := { adjusted.1 with fecUp := adjusted.2 }
  if !ER && dit.isNone then updated.sendMappingRequest oldItem.nextHop oldItem.addr oldItem.length
  else .ok updated

/-- The next hop of a route. -/
def nextHop (re : IPRoute) : IPAddress :=
  if re.type = .DIRECT then re.host else re.gateway

/-- The FEC of a route, without its number. -/
def routeKey (re : IPRoute) : FEC_TLV where
  addr := re.host
  length := getNetmaskLength re.netmask

/-- A FEC that did not exist. -/
def newItem (ldp : LDP) (key : FEC_TLV) (nextHop : IPAddress) : fec_t where
  fecid := ldp.maxFecid + 1
  addr := key.addr
  length := key.length
  nextHop

def pushFec (ldp : LDP) (fec : fec_t) : LDP :=
  { ldp with fecList := ldp.fecList ++ [fec] }

def countFec (ldp : LDP) : LDP :=
  { ldp with maxFecid := ldp.maxFecid + 1 }

/-- The loop over the routes, with the variable `oldList`. -/
def rebuildRoute (current : LDP × FecVector) (re : IPRoute) : Except Failure (LDP × FecVector) :=
  if re.host.isMulticast then .ok current
  else do
    require (!(nextHop re).isUnspecified) .rebuildFecList
    match FecVector.findFecEntry current.2 re.host (getNetmaskLength re.netmask) with
    | none => do
        let item := current.1.newItem (routeKey re) (nextHop re)
        let updated ← current.1.countFec.updateFecListEntry item
        .ok (updated.pushFec item, current.2)
    | some it =>
      let oldList := FecVector.eraseFecEntry current.2 re.host (getNetmaskLength re.netmask)
      if it.nextHop ≠ nextHop re then do
        let item := { it with nextHop := nextHop re }
        let updated ← current.1.updateFecListEntry item
        .ok (updated.pushFec item, oldList)
      else .ok (current.1.pushFec it, oldList)

/-- The loop over the interfaces. -/
def rebuildInterface (current : LDP × FecVector) (ie : InterfaceEntry) : LDP × FecVector :=
  if ie.networkLayerGateIndex < 0 then current
  else
    match FecVector.findFecEntry current.2 ie.ipAddress 32 with
    | none =>
      (current.1.countFec.pushFec (current.1.newItem ⟨ie.ipAddress, 32⟩ ie.ipAddress), current.2)
    | some it => (current.1.pushFec it, FecVector.eraseFecEntry current.2 ie.ipAddress 32)

/-- A received mapping of a deprecated FEC is released, but stays. -/
def releaseMapping (it : fec_t) (ldp : LDP) (dit : fec_bind_t) : Except Failure LDP :=
  if dit.fecid ≠ it.fecid then .ok ldp
  else ldp.sendMapping .LABEL_RELEASE dit.peer dit.label it.addr it.length

/-- A mapping given out for a deprecated FEC is withdrawn, but stays. -/
def withdrawMapping (it : fec_t) (ldp : LDP) (uit : fec_bind_t) : Except Failure LDP :=
  if uit.fecid ≠ it.fecid then .ok ldp
  else do
    let withdrawn ← ldp.sendMapping .LABEL_WITHDRAW uit.peer uit.label it.addr it.length
    withdrawn.removeLibEntry uit.label

def removeFec (ldp : LDP) (it : fec_t) : Except Failure LDP := do
  let released ← ldp.fecDown.foldlM (releaseMapping it) ldp
  ldp.fecUp.foldlM (withdrawMapping it) released

def getRoutes (ldp : LDP) : List IPRoute :=
  ldp.rt.routes ++ ldp.rt.multicastRoutes

def rebuildFecList (sorting : Sorting) (ldp : LDP) : Except Failure LDP := do
  let routed ← ldp.getRoutes.foldlM rebuildRoute ({ ldp with fecList := [] }, ldp.fecList)
  let rebuilt := ldp.ift.foldl rebuildInterface routed
  let removed ← rebuilt.2.foldlM removeFec rebuilt.1
  .ok { removed with fecList := sorting.sort removed.fecList }

/-- The body of the loop of `updateFecList`. -/
def updateIfNextHop (nextHop : IPAddress) (ldp : LDP) (it : fec_t) : Except Failure LDP :=
  if it.nextHop ≠ nextHop then .ok ldp else ldp.updateFecListEntry it

def updateFecList (ldp : LDP) (nextHop : IPAddress) : Except Failure LDP :=
  ldp.fecList.foldlM (updateIfNextHop nextHop) ldp

/-! ## Peers and sessions -/

/-- The peer at an index is gone; the bindings of its FECs are dropped. -/
def removePeer (ldp : LDP) (i : Nat) (peerIP : IPAddress) (connId : Nat) : LDP :=
  { ldp with
    myPeers := ldp.myPeers.eraseIdx i
    fecDown := ldp.fecDown.filter fun dit => dit.peer ≠ peerIP
    fecUp := ldp.fecUp.filter fun uit => uit.peer ≠ peerIP
    freed := connId :: ldp.freed
    toTcp := ldp.toTcp ++ [.abort connId] }

/--
The timer of the peer at an index has expired.  The routing table that the
link change leads to is a step of its own.
-/
def processHelloTimeout (ldp : LDP) (i : Nat) : Except Failure LDP :=
  match ldp.myPeers[i]? with
  | none => .error (.assertion .processHelloTimeout)
  | some peer =>
    match peer.socket with
    | none => .error (.assertion .processHelloTimeout)
    | some socket => (ldp.removePeer i peer.peerIP socket.connId).updateFecList peer.peerIP

def openTCPConnectionToPeer (ldp : LDP) (peerIndex connId : Nat) (peerIP : IPAddress) : LDP :=
  { ldp with
    myPeers :=
      ldp.myPeers.modify peerIndex fun peer =>
        { peer with socket := some ⟨connId, .CONNECTING, peerIndex⟩ }
    toTcp := ldp.toTcp ++ [.connect connId peerIP] }

/-- The connection is numbered by `connId` if one is opened. -/
def processLDPHello (ldp : LDP) (peerAddr : IPAddress) (linkInterface : String)
    (connId : Nat) : LDP :=
  if peerAddr.isUnspecified || peerAddr = ldp.routerId then ldp
  else if (ldp.findPeer peerAddr).isSome then ldp
  else
    let activeRole := decide (peerAddr.getInt > ldp.routerId.getInt)
    let added :=
      { ldp with myPeers := ldp.myPeers ++ [⟨peerAddr, activeRole, none, linkInterface⟩] }
    if activeRole then added.openTCPConnectionToPeer ldp.myPeers.length connId peerAddr else added

/-! ## Label messages -/

def pushMapping (ldp : LDP) (uit : fec_bind_t) : LDP :=
  { ldp with fecUp := ldp.fecUp ++ [uit] }

/-- The mapping is sent upstream under a new label. -/
def answer (ldp : LDP) (fecid : Nat) (peer : IPAddress) (key : FEC_TLV)
    (outLabel : List LabelOp) (inInterface outInterface : String)
    (color : Int) : Except Failure LDP := do
  let installed ← ldp.installLibEntry (-1) inInterface outLabel outInterface color
  (installed.2.pushMapping ⟨fecid, peer, installed.1⟩).sendMapping
    .LABEL_MAPPING peer installed.1 key.addr key.length

/-- The color of the entry is 0 at the egress. -/
def processLABEL_REQUEST (ldp : LDP) (srcAddr : IPAddress) (fec : FEC_TLV) : Except Failure LDP :=
  match ldp.fecList.findFecEntry fec.addr fec.length with
  | none => ldp.sendNotify NO_ROUTE srcAddr fec.addr fec.length
  | some it => do
      require (ldp.fecUp.findFecEntry it.fecid srcAddr).isNone .processLABEL_REQUEST
      let dit := ldp.fecDown.findFecEntry it.fecid it.nextHop
      let ER := ldp.isEgress it.nextHop
      require (!(ER && dit.isSome)) .processLABEL_REQUEST
      let inInterface ← ldp.findInterfaceFromPeerAddr srcAddr
      let outInterface ← ldp.findInterfaceFromPeerAddr it.nextHop
      match labelOperation ER dit with
      | some outLabel =>
        ldp.answer it.fecid srcAddr fec outLabel inInterface outInterface
          (if ER then 0 else LDP_USER_TRAFFIC)
      | none => .ok { ldp with pending := ldp.pending ++ [⟨it.fecid, srcAddr⟩] }

def processLABEL_RELEASE (ldp : LDP) (fromIP : IPAddress) (fec : FEC_TLV)
    (label : Int) : Except Failure LDP := do
  require (label > 0) .processLABEL_RELEASE
  match ldp.fecList.findFecEntry fec.addr fec.length with
  | none => .ok ldp
  | some it =>
    match ldp.fecUp.findFecEntry it.fecid fromIP with
    | none => .ok ldp
    | some uit =>
      if label ≠ uit.label then .ok ldp
      else do
        let removed ← ldp.removeLibEntry uit.label
        .ok { removed with fecUp := removed.fecUp.eraseFecEntry it.fecid fromIP }

/-- The packet goes back as a release, with its sender address. -/
def processLABEL_WITHDRAW (ldp : LDP) (fromIP : IPAddress) (fec : FEC_TLV)
    (label : Int) : Except Failure LDP := do
  require (label > 0) .processLABEL_WITHDRAW
  match ldp.fecList.findFecEntry fec.addr fec.length with
  | none => .ok ldp
  | some it =>
    match ldp.fecDown.findFecEntry it.fecid fromIP with
    | none => .ok ldp
    | some dit =>
      if label ≠ dit.label then .ok ldp
      else do
        let released ←
          { ldp with fecDown := ldp.fecDown.eraseFecEntry it.fecid fromIP }.sendToPeer
            fromIP (.LABEL_RELEASE fromIP fec label)
        released.updateFecListEntry it

/-- A pending request for the FEC is answered. -/
def answerPending (it : fec_t) (fromIP : IPAddress) (label : Int)
    (current : LDP × List pending_req_t) (pit : pending_req_t) :
    Except Failure (LDP × List pending_req_t) :=
  if pit.fecid ≠ it.fecid then .ok (current.1, current.2 ++ [pit])
  else do
    let inInterface ← current.1.findInterfaceFromPeerAddr pit.peer
    let outInterface ← current.1.findInterfaceFromPeerAddr fromIP
    let answered ←
      current.1.answer it.fecid pit.peer it.key (swapLabel label)
        inInterface outInterface LDP_USER_TRAFFIC
    .ok (answered, current.2)

def processLABEL_MAPPING (ldp : LDP) (fromIP : IPAddress) (fec : FEC_TLV)
    (label : Int) : Except Failure LDP := do
  require (label > 0) .processLABEL_MAPPING
  match ldp.fecList.findFecEntry fec.addr fec.length with
  | none => .error (.assertion .processLABEL_MAPPING)
  | some it => do
      require (ldp.fecDown.findFecEntry it.fecid fromIP).isNone .processLABEL_MAPPING
      let mapped := { ldp with fecDown := ldp.fecDown ++ [⟨it.fecid, fromIP, label⟩] }
      let answered ← ldp.pending.foldlM (answerPending it fromIP label) (mapped, [])
      .ok { answered.1 with pending := answered.2 }

/-- A notification is looked at again later, once. -/
def processNOTIFICATION (ldp : LDP) (isSelfMessage : Bool)
    (packet : LDPNotify) : Except Failure LDP :=
  if packet.status = NO_ROUTE then
    match ldp.fecList.findFecEntry packet.fec.addr packet.fec.length with
    | none => .ok ldp
    | some it =>
      if it.nextHop = packet.senderAddress then
        if isSelfMessage then
          ldp.sendMappingRequest packet.senderAddress packet.fec.addr packet.fec.length
        else .ok { ldp with retries := ldp.retries ++ [packet] }
      else .ok ldp
  else .error (.assertion .processNOTIFICATION)

def processLDPPacketFromTCP (ldp : LDP) : LDPPacket → Except Failure LDP
  | .LABEL_MAPPING fromIP fec label => ldp.processLABEL_MAPPING fromIP fec label
  | .LABEL_REQUEST srcAddr fec => ldp.processLABEL_REQUEST srcAddr fec
  | .LABEL_WITHDRAW fromIP fec label => ldp.processLABEL_WITHDRAW fromIP fec label
  | .LABEL_RELEASE fromIP fec label => ldp.processLABEL_RELEASE fromIP fec label
  | .NOTIFICATION notify => ldp.processNOTIFICATION false notify
  | .other => .error .error

/-! ## Messages from TCP -/

inductive TcpIndication where
  | established (remoteAddr : IPAddress)
  | data (packet : LDPPacket)
  | peerClosed
  | closed
  | failure

def findSocketFor (ldp : LDP) (connId : Nat) : Option TCPSocket :=
  ldp.myPeers.findSome? fun peer => peer.socket.filter fun socket => socket.connId = connId

/-- The socket of a connection is connected. -/
def setConnected (ldp : LDP) (connId : Nat) : LDP :=
  { ldp with
    myPeers :=
      ldp.myPeers.map fun peer =>
        { peer with
          socket :=
            peer.socket.map fun socket =>
              if socket.connId = connId then { socket with sockstate := .CONNECTED } else socket } }

/-- The callbacks look up the entry of `myPeers` at their index. -/
def processMessage (ldp : LDP) (socket : TCPSocket) : TcpIndication → Except Failure LDP
  | .established _ =>
    match ldp.myPeers[socket.yourPtr]? with
    | none => .error .undefinedBehaviour
    | some peer => (ldp.setConnected socket.connId).updateFecList peer.peerIP
  | .data packet =>
    match ldp.myPeers[socket.yourPtr]? with
    | none => .error .undefinedBehaviour
    | some _ => ldp.processLDPPacketFromTCP packet
  | .peerClosed => .error (.assertion .sessionEnds)
  | .closed => .error (.assertion .sessionEnds)
  | .failure => .error (.assertion .sessionEnds)

/-- The address of a socket made from the message; others leave it unset. -/
def remoteAddress : TcpIndication → IPAddress
  | .established remoteAddr => remoteAddr
  | _ => UNSPECIFIED_ADDRESS

/-- A new connection belongs to the peer at the index. -/
def acceptSocket (ldp : LDP) (i connId : Nat) : LDP :=
  { ldp with
    myPeers :=
      ldp.myPeers.modify i fun peer =>
        { peer with socket := some ⟨connId, .CONNECTED, i⟩ } }

/-- A connection of nobody known, or of a peer that has one. -/
def refuseSocket (ldp : LDP) (connId : Nat) : LDP :=
  { ldp with toTcp := ldp.toTcp ++ [.close connId] }

def newConnection (ldp : LDP) (connId : Nat) (msg : TcpIndication) : Except Failure LDP :=
  match ldp.findPeer (remoteAddress msg) with
  | none => .ok (ldp.refuseSocket connId)
  | some i =>
    if (ldp.myPeers[i]?.bind peer_info.socket).isSome then .ok (ldp.refuseSocket connId)
    else (ldp.acceptSocket i connId).processMessage ⟨connId, .CONNECTED, i⟩ msg

def processMessageFromTCP (ldp : LDP) (connId : Nat) (msg : TcpIndication) : Except Failure LDP :=
  match ldp.findSocketFor connId with
  | some socket => ldp.processMessage socket msg
  | none =>
    if connId ∈ ldp.freed then .error .undefinedBehaviour else ldp.newConnection connId msg

end LDP

/-! ## Runs -/

inductive Event where
  /-- Routes change; the notification of it is an event of its own. -/
  | tableChanges (rt : RoutingTable) (ift : List InterfaceEntry)
  | receiveChangeNotification
  | helloArrives (peerAddr : IPAddress) (linkInterface : String) (connId : Nat)
  | helloTimeout (i : Nat)
  | fromTcp (connId : Nat) (msg : LDP.TcpIndication)
  | retry (i : Nat)

/-- The router id does not change. -/
def LDP.setTable (ldp : LDP) (rt : RoutingTable) (ift : List InterfaceEntry) : LDP :=
  { ldp with rt := { rt with routerId := ldp.rt.routerId }, ift }

def LDP.retry (ldp : LDP) (i : Nat) : Except Failure LDP :=
  match ldp.retries[i]? with
  | none => .ok ldp
  | some packet => { ldp with retries := ldp.retries.eraseIdx i }.processNOTIFICATION true packet

def handle (sorting : Sorting) (ldp : LDP) : Event → Except Failure LDP
  | .tableChanges rt ift => .ok (ldp.setTable rt ift)
  | .receiveChangeNotification => ldp.rebuildFecList sorting
  | .helloArrives peerAddr linkInterface connId =>
    .ok (ldp.processLDPHello peerAddr linkInterface connId)
  | .helloTimeout i => ldp.processHelloTimeout i
  | .fromTcp connId msg => ldp.processMessageFromTCP connId msg
  | .retry i => ldp.retry i

def step (sorting : Sorting) (ldp : LDP) (event : Event) (next : LDP) : Prop :=
  handle sorting ldp event = .ok next

/-- The state before `initialize` builds the list of FECs. -/
def LDP.create (rt : RoutingTable) (ift : List InterfaceEntry) (lt : LIBTable) : LDP where
  rt
  ift
  lt
  fecList := []
  fecUp := []
  fecDown := []
  pending := []
  myPeers := []
  maxFecid := 0
  retries := []
  freed := []
  toTcp := []

end OmnetDsi.Ldp.LabelDistribution
