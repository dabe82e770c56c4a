import OmnetDsi.Library.KeyIndexes
import OmnetDsi.Library.Transition
import OmnetDsi.Contract.Endpoints

/-!
# The sockets of the UDP module

A socket is a `SockDesc` on the heap.  Two maps lead to it: `socketsByIdMap`
from its id, and `socketsByPortMap` from its local port to the list of all
sockets on the port.  `onlyLocalPortIsSet` remembers that a socket takes every
packet to its port.

Along every run of commands the maps describe the open sockets (`Linked`), and
a packet goes to the sockets that it matches.  The ports of a socket are kept
in a `short`, so this speaks of commands with ports that fit; and an address
of the other family makes `get4` throw.
-/

namespace OmnetDsi.Udp.Sockets

open Contract.Addresses Contract.Endpoints Library.KeyIndexes Library.Transition Function

/-! ## The module -/

structure UDPControlInfo where
  sockId : Int := -1
  userId : Int := -1
  srcAddr : IPvXAddress := .unspecified
  destAddr : IPvXAddress := .unspecified
  srcPort : Int := 0
  destPort : Int := 0
  interfaceId : Int := -1

structure SockDesc where
  sockId : Int
  userId : Int
  appGateIndex : Int
  onlyLocalPortIsSet : Bool
  localAddr : IPvXAddress
  remoteAddr : IPvXAddress
  localPort : Int
  remotePort : Int
  interfaceId : Int

abbrev Pointer := Nat

structure UDP where
  heap : Pointer → Option SockDesc
  socketsByIdMap : Int → Option Pointer
  socketsByPortMap : Int → Option (List Pointer)
  lastEphemeralPort : Int

inductive Failure where
  | sockIdNotFilledIn
  | portsExhausted
  | searchRunning
  | sockIdInUse
  | noSuchSocket
  | unspecifiedRemoteAddress
  | invalidRemotePort
  | notIPv4
  | freedSocket

namespace UDP

/-- The module when it has started. -/
def initial : UDP where
  heap := fun _ => none
  socketsByIdMap := fun _ => none
  socketsByPortMap := fun _ => none
  lastEphemeralPort := EPHEMERAL_PORTRANGE_START

/-- The local port of a BIND, and the last ephemeral port after it. -/
def bindPort (udp : UDP) (srcPort : Int) : Except Failure (Int × Int) :=
  if toShort srcPort = 0 then
    match getEphemeralPort (fun port => (udp.socketsByPortMap port).isSome)
        udp.lastEphemeralPort with
    | .found port => .ok (port, port)
    | .exhausted => .error .portsExhausted
    | .running => .error .searchRunning
  else .ok (toShort srcPort, udp.lastEphemeralPort)

/-- The `SockDesc` that BIND creates and fills in. -/
def newSockDesc (gateIndex : Int) (ctrl : UDPControlInfo) (localPort : Int) : SockDesc :=
  let remotePort := toShort ctrl.destPort
  { sockId := ctrl.sockId
    userId := ctrl.userId
    appGateIndex := gateIndex
    onlyLocalPortIsSet :=
      ctrl.srcAddr.isUnspecified && ctrl.destAddr.isUnspecified &&
        remotePort == 0 && ctrl.interfaceId == -1
    localAddr := ctrl.srcAddr
    remoteAddr := ctrl.destAddr
    localPort
    remotePort
    interfaceId := ctrl.interfaceId }

/-- BIND, with the address `sd` of the new `SockDesc`. -/
def bind (udp : UDP) (sd : Pointer) (gateIndex : Int) (ctrl : UDPControlInfo) :
    Except Failure UDP :=
  if ctrl.sockId = -1 then .error .sockIdNotFilledIn
  else
    match udp.bindPort ctrl.srcPort with
    | .error failure => .error failure
    | .ok (localPort, lastEphemeralPort) =>
      if (udp.socketsByIdMap ctrl.sockId).isSome then .error .sockIdInUse
      else
        .ok {
          heap := update udp.heap sd (some (newSockDesc gateIndex ctrl localPort))
          socketsByIdMap := update udp.socketsByIdMap ctrl.sockId (some sd)
          socketsByPortMap := listUnder udp.socketsByPortMap localPort sd
          lastEphemeralPort }

theorem bind_cases {udp : UDP} (bound : udp.bind sd gateIndex ctrl = .ok after) :
    udp.socketsByIdMap ctrl.sockId = none ∧
      ∃ localPort lastEphemeralPort,
        udp.bindPort ctrl.srcPort = .ok (localPort, lastEphemeralPort) ∧
          after =
            { heap :=
                update udp.heap sd (some (newSockDesc gateIndex ctrl localPort))
              socketsByIdMap := update udp.socketsByIdMap ctrl.sockId (some sd)
              socketsByPortMap := listUnder udp.socketsByPortMap localPort sd
              lastEphemeralPort } := by
  rw [bind] at bound
  by_cases unset : ctrl.sockId = -1
  · rw [if_pos unset] at bound
    cases bound
  rw [if_neg unset] at bound
  cases assigned : udp.bindPort ctrl.srcPort with
  | error _ =>
    rw [assigned] at bound
    cases bound
  | ok _ =>
    rw [assigned] at bound
    by_cases inUse : (udp.socketsByIdMap ctrl.sockId).isSome
    · simp [inUse] at bound
    · simp only [inUse, Bool.false_eq_true, if_false] at bound
      cases bound
      exact ⟨by simpa using inUse, _, _, rfl, rfl⟩

def connect (udp : UDP) (sockId : Int) (addr : IPvXAddress) (port : Int) : Except Failure UDP :=
  match udp.socketsByIdMap sockId with
  | none => .error .noSuchSocket
  | some sd =>
    if addr.isUnspecified then .error .unspecifiedRemoteAddress
    else if port ≤ 0 ∨ port > 65535 then .error .invalidRemotePort
    else
      match udp.heap sd with
      | none => .error .freedSocket
      | some desc =>
        .ok { udp with
          heap :=
            update udp.heap sd
              (some { desc with
                remoteAddr := addr
                remotePort := toShort port
                onlyLocalPortIsSet := false }) }

def unbind (udp : UDP) (sockId : Int) : Except Failure UDP :=
  match udp.socketsByIdMap sockId with
  | none => .error .noSuchSocket
  | some sd =>
    match udp.heap sd with
    | none => .error .freedSocket
    | some desc =>
      .ok { udp with
        heap := update udp.heap sd none
        socketsByIdMap := update udp.socketsByIdMap sockId none
        socketsByPortMap := unlist udp.socketsByPortMap desc.localPort sd }

end UDP

/-! ## Packets from the network -/

structure UDPPacket where
  sourcePort : Int
  destinationPort : Int
  hasBitError : Bool := false

structure IPControlInfo where
  srcAddr : IPAddress
  destAddr : IPAddress
  interfaceId : Int

/-- A copy of the payload that is sent up, with its control info. -/
structure Indication where
  appGateIndex : Int
  sockId : Int
  userId : Int
  srcAddr : IPAddress
  destAddr : IPAddress
  srcPort : Int
  destPort : Int
  interfaceId : Int

/-- What becomes of a packet. -/
structure Outcome where
  sentUp : List Indication := []
  /-- An ICMP port unreachable error is sent back. -/
  icmpError : Bool := false

/-- The IPv4 version; the tests are made in this order. -/
def matchesSocket (sd : SockDesc) (udp : UDPPacket) (ipCtrl : IPControlInfo) :
    Except Failure Bool :=
  if sd.remotePort ≠ 0 ∧ sd.remotePort ≠ udp.sourcePort then .ok false
  else if ¬ sd.localAddr.isUnspecified ∧ sd.localAddr.get4 = none then .error .notIPv4
  else if ¬ sd.localAddr.isUnspecified ∧ sd.localAddr.get4 ≠ some ipCtrl.destAddr then .ok false
  else if ¬ sd.remoteAddr.isUnspecified ∧ sd.remoteAddr.get4 = none then .error .notIPv4
  else if ¬ sd.remoteAddr.isUnspecified ∧ sd.remoteAddr.get4 ≠ some ipCtrl.srcAddr then .ok false
  else if sd.interfaceId ≠ -1 ∧ sd.interfaceId ≠ ipCtrl.interfaceId then .ok false
  else .ok true

def sendUp (udpHeader : UDPPacket) (ipCtrl : IPControlInfo) (sd : SockDesc) : Indication where
  appGateIndex := sd.appGateIndex
  sockId := sd.sockId
  userId := sd.userId
  srcAddr := ipCtrl.srcAddr
  destAddr := ipCtrl.destAddr
  srcPort := udpHeader.sourcePort
  destPort := udpHeader.destinationPort
  interfaceId := ipCtrl.interfaceId

/-- The test of the loop: all packets to the port, or those that match. -/
def takesPacket (sd : SockDesc) (udpPacket : UDPPacket)
    (ctrl : IPControlInfo) : Except Failure Bool :=
  if sd.onlyLocalPortIsSet then .ok true else matchesSocket sd udpPacket ctrl

/-- The loop over the sockets of the port. -/
def deliver (heap : Pointer → Option SockDesc) (udpPacket : UDPPacket)
    (ctrl : IPControlInfo) : List Pointer → Except Failure (List Indication)
  | [] => .ok []
  | pointer :: rest =>
    match heap pointer with
    | none => .error .freedSocket
    | some sd => do
        let matched ← takesPacket sd udpPacket ctrl
        let sent ← deliver heap udpPacket ctrl rest
        .ok (if matched then sendUp udpPacket ctrl sd :: sent else sent)

def processUndeliverablePacket (ctrl : IPControlInfo) : Outcome where
  icmpError := !ctrl.destAddr.isMulticast

def UDP.processUDPPacket (udp : UDP) (udpPacket : UDPPacket)
    (ctrl : IPControlInfo) : Except Failure Outcome :=
  if udpPacket.hasBitError then .ok {}
  else
    match udp.socketsByPortMap udpPacket.destinationPort with
    | none => .ok (processUndeliverablePacket ctrl)
    | some list =>
      (deliver udp.heap udpPacket ctrl list).map fun sentUp =>
        if sentUp.isEmpty then processUndeliverablePacket ctrl else { sentUp }

/-! ## Commands -/

/-- A socket as the commands of the application describe it. -/
structure Socket where
  userId : Int
  appGateIndex : Int
  localAddr : IPvXAddress
  remoteAddr : IPvXAddress
  localPort : Int
  remotePort : Int
  interfaceId : Int

/-- The module and the open sockets by their ids. -/
structure World where
  udp : UDP
  opened : Int → Option Socket

namespace World

def initial : World where
  udp := .initial
  opened := fun _ => none

end World

inductive Event where
  | bind (sd : Pointer) (gateIndex : Int) (ctrl : UDPControlInfo)
  | connect (sockId : Int) (addr : IPvXAddress) (port : Int)
  | unbind (sockId : Int)

/--
A command that succeeds.  A new `SockDesc` may get any address that is free; a
socket that is bound without a port gets the port that was assigned.
-/
inductive Step : World → Event → World → Prop where
  | bind {world : World} {sd : Pointer} {gateIndex : Int}
      {ctrl : UDPControlInfo} {udp : UDP} (free : world.udp.heap sd = none)
      (bound : world.udp.bind sd gateIndex ctrl = .ok udp) :
      Step world (.bind sd gateIndex ctrl)
        { udp
          opened :=
            update world.opened ctrl.sockId
              (some {
                userId := ctrl.userId
                appGateIndex := gateIndex
                localAddr := ctrl.srcAddr
                remoteAddr := ctrl.destAddr
                localPort := if ctrl.srcPort = 0 then udp.lastEphemeralPort else ctrl.srcPort
                remotePort := ctrl.destPort
                interfaceId := ctrl.interfaceId }) }
  | connect {world : World} {sockId : Int} {addr : IPvXAddress} {port : Int}
      {udp : UDP} (connected : world.udp.connect sockId addr port = .ok udp) :
      Step world (.connect sockId addr port)
        { udp
          opened :=
            update world.opened sockId
              ((world.opened sockId).map fun socket =>
                { socket with remoteAddr := addr, remotePort := port }) }
  | unbind {world : World} {sockId : Int} {udp : UDP}
      (unbound : world.udp.unbind sockId = .ok udp) :
      Step world (.unbind sockId) { udp, opened := update world.opened sockId none }

/-- The ports of a command fit in a `short`. -/
def PortsFit : Event → Prop
  | .bind _ _ ctrl => toShort ctrl.srcPort = ctrl.srcPort ∧ toShort ctrl.destPort = ctrl.destPort
  | .connect _ _ port => toShort port = port
  | .unbind _ => True

/-! ## The maps and the open sockets -/

/-- The `SockDesc` of an open socket. -/
def describe (sockId : Int) (socket : Socket) : SockDesc where
  sockId
  userId := socket.userId
  appGateIndex := socket.appGateIndex
  onlyLocalPortIsSet :=
    socket.localAddr.isUnspecified && socket.remoteAddr.isUnspecified &&
      socket.remotePort == 0 && socket.interfaceId == -1
  localAddr := socket.localAddr
  remoteAddr := socket.remoteAddr
  localPort := socket.localPort
  remotePort := socket.remotePort
  interfaceId := socket.interfaceId

def portOf (udp : UDP) (pointer : Pointer) : Option Int :=
  (udp.heap pointer).map SockDesc.localPort

section ByPort

variable (byPort : Indexes (portOf udp) udp.socketsByPortMap)
include byPort

theorem byPort_add (desc : SockDesc) (free : udp.heap sd = none) :
    Indexes (fun pointer => (update udp.heap sd (some desc) pointer).map SockDesc.localPort)
      (listUnder udp.socketsByPortMap desc.localPort sd) := by
  have fresh : portOf udp sd = none := by
    rw [portOf, free]
    rfl
  have ports :
      update (portOf udp) sd (some desc.localPort) =
        fun pointer => (update udp.heap sd (some desc) pointer).map SockDesc.localPort := by
    ext1 pointer
    rw [update_apply, update_apply]
    split_ifs <;> rfl
  have listed := byPort.listUnder desc.localPort fresh
  rwa [ports] at listed

theorem byPort_redescribe
    (described : udp.heap sd = some desc) (samePort : changed.localPort = desc.localPort) :
    Indexes (fun pointer => (update udp.heap sd (some changed) pointer).map SockDesc.localPort)
      udp.socketsByPortMap := by
  have ports :
      portOf udp =
        fun pointer => (update udp.heap sd (some changed) pointer).map SockDesc.localPort := by
    ext1 pointer
    rw [portOf, update_apply]
    split_ifs with same
    · rw [same, described]
      exact congrArg some samePort.symm
    · rfl
  rwa [ports] at byPort

theorem byPort_remove (described : udp.heap sd = some desc) :
    Indexes (fun pointer => (update udp.heap sd none pointer).map SockDesc.localPort)
      (unlist udp.socketsByPortMap desc.localPort sd) := by
  have present : portOf udp sd = some desc.localPort := by
    rw [portOf, described]
    rfl
  have ports :
      update (portOf udp) sd none =
        fun pointer => (update udp.heap sd none pointer).map SockDesc.localPort := by
    ext1 pointer
    rw [update_apply, update_apply]
    split_ifs <;> rfl
  have listed := byPort.unlist present
  rwa [ports] at listed

end ByPort

/-- The heap and the maps hold the open sockets and nothing else. -/
structure Linked (world : World) : Prop where
  ephemeral : Ephemeral world.udp.lastEphemeralPort
  byId :
    ∀ sockId pointer, world.udp.socketsByIdMap sockId = some pointer →
      ∃ socket, world.opened sockId = some socket ∧
        world.udp.heap pointer = some (describe sockId socket)
  opened :
    ∀ sockId socket, world.opened sockId = some socket →
      ∃ pointer, world.udp.socketsByIdMap sockId = some pointer
  heap :
    ∀ pointer sd, world.udp.heap pointer = some sd →
      world.udp.socketsByIdMap sd.sockId = some pointer
  byPort : Indexes (portOf world.udp) world.udp.socketsByPortMap

namespace Linked

theorem initial : Linked World.initial where
  ephemeral := by decide
  byId := by simp [World.initial, UDP.initial]
  opened := by simp [World.initial]
  heap := by simp [World.initial, UDP.initial]
  byPort := by
    constructor <;> simp [World.initial, UDP.initial, portOf]

theorem of_heap (linked : Linked world) {sd : SockDesc}
    (present : world.udp.heap pointer = some sd) :
    ∃ socket, world.opened sd.sockId = some socket ∧ sd = describe sd.sockId socket := by
  rcases linked.byId _ _ (linked.heap _ _ present) with ⟨socket, isOpen, described⟩
  rw [present] at described
  exact ⟨socket, isOpen, Option.some.inj described⟩

theorem of_opened (linked : Linked world) (isOpen : world.opened sockId = some socket) :
    ∃ pointer, world.udp.socketsByIdMap sockId = some pointer ∧
      world.udp.heap pointer = some (describe sockId socket) := by
  rcases linked.opened _ _ isOpen with ⟨pointer, mapped⟩
  rcases linked.byId _ _ mapped with ⟨_, same, described⟩
  rw [isOpen] at same
  cases same
  exact ⟨pointer, mapped, described⟩

/-- The port of a BIND is the one asked for, or the one assigned last. -/
theorem bindPort_spec (linked : Linked world) (fits : toShort srcPort = srcPort)
    (assigned : world.udp.bindPort srcPort = .ok (localPort, lastEphemeralPort)) :
    localPort = (if srcPort = 0 then lastEphemeralPort else srcPort) ∧
      Ephemeral lastEphemeralPort := by
  rw [UDP.bindPort, fits] at assigned
  split_ifs at assigned with unset
  · rw [if_pos unset]
    rcases getEphemeralPort_spec (fun port => (world.udp.socketsByPortMap _).isSome)
        linked.ephemeral with
      ⟨port, found, among, _⟩ | ⟨exhausted, _⟩
    · rw [found] at assigned
      cases assigned
      exact ⟨rfl, among⟩
    · rw [exhausted] at assigned
      cases assigned
  · cases assigned
    rw [if_neg unset]
    exact ⟨rfl, linked.ephemeral⟩

theorem add (linked : Linked world) (free : world.udp.heap sd = none)
    (unused : world.udp.socketsByIdMap sockId = none) (socket : Socket)
    (among : Ephemeral lastEphemeralPort) :
    Linked
      { udp :=
          { heap :=
              update world.udp.heap sd (some (describe sockId socket))
            socketsByIdMap := update world.udp.socketsByIdMap sockId (some sd)
            socketsByPortMap := listUnder world.udp.socketsByPortMap socket.localPort sd
            lastEphemeralPort }
        opened := update world.opened sockId (some socket) } where
  ephemeral := among
  byId := by
    intro _ pointer mapped
    simp only [update_apply] at mapped ⊢
    split_ifs at mapped with same
    · cases mapped
      exact ⟨socket, if_pos same, by rw [if_pos rfl, same]⟩
    · rcases linked.byId _ _ mapped with ⟨found, isOpen, described⟩
      have apart : pointer ≠ sd := by
        rintro rfl
        rw [free] at described
        cases described
      rw [if_neg same, if_neg apart]
      exact ⟨found, isOpen, described⟩
  opened := by
    intro _ _ isOpen
    simp only [update_apply] at isOpen ⊢
    split_ifs at isOpen with same
    · exact ⟨sd, if_pos same⟩
    · rw [if_neg same]
      exact linked.opened _ _ isOpen
  heap := by
    intro _ desc present
    simp only [update_apply] at present ⊢
    split_ifs at present with same
    · cases present
      rw [same]
      exact if_pos rfl
    · have mapped := linked.heap _ _ present
      have apart : desc.sockId ≠ sockId := by
        intro equal
        rw [equal, unused] at mapped
        cases mapped
      rwa [if_neg apart]
  byPort := byPort_add linked.byPort (describe sockId socket) free

variable (linked : Linked world)
include linked

theorem bind (free : world.udp.heap sd = none) (fits : PortsFit (.bind sd gateIndex ctrl))
    (bound : world.udp.bind sd gateIndex ctrl = .ok udp) :
    Linked
      { udp
        opened :=
          update world.opened ctrl.sockId
            (some {
              userId := ctrl.userId
              appGateIndex := gateIndex
              localAddr := ctrl.srcAddr
              remoteAddr := ctrl.destAddr
              localPort := if ctrl.srcPort = 0 then udp.lastEphemeralPort else ctrl.srcPort
              remotePort := ctrl.destPort
              interfaceId := ctrl.interfaceId }) } := by
  rcases fits with ⟨srcFits, destFits⟩
  rcases UDP.bind_cases bound with ⟨unused, localPort, _, assigned, rfl⟩
  rcases linked.bindPort_spec srcFits assigned with ⟨chosen, among⟩
  have described :
      UDP.newSockDesc gateIndex ctrl localPort =
        describe ctrl.sockId
          { userId := ctrl.userId
            appGateIndex := gateIndex
            localAddr := ctrl.srcAddr
            remoteAddr := ctrl.destAddr
            localPort
            remotePort := ctrl.destPort
            interfaceId := ctrl.interfaceId } := by
    rw [UDP.newSockDesc, destFits]
    rfl
  rw [described, ← chosen]
  exact linked.add free unused _ among

theorem redescribe (mapped : world.udp.socketsByIdMap sockId = some sd)
    (described : world.udp.heap sd = some (describe sockId socket))
    (samePort : changed.localPort = socket.localPort) :
    Linked
      { udp :=
          { world.udp with heap := update world.udp.heap sd (some (describe sockId changed)) }
        opened := update world.opened sockId (some changed) } where
  ephemeral := linked.ephemeral
  byId := by
    intro other pointer otherMapped
    simp only [update_apply]
    by_cases same : other = sockId
    · subst same
      rw [mapped] at otherMapped
      cases otherMapped
      exact ⟨changed, if_pos rfl, if_pos rfl⟩
    · rcases linked.byId _ _ otherMapped with ⟨found, isOpen, otherDescribed⟩
      have apart : pointer ≠ sd := by
        rintro rfl
        rw [described] at otherDescribed
        exact same (congrArg SockDesc.sockId (Option.some.inj otherDescribed)).symm
      rw [if_neg same, if_neg apart]
      exact ⟨found, isOpen, otherDescribed⟩
  opened := by
    intro _ _ isOpen
    simp only [update_apply] at isOpen
    split_ifs at isOpen with same
    · exact ⟨sd, same ▸ mapped⟩
    · exact linked.opened _ _ isOpen
  heap := by
    intro _ _ present
    simp only [update_apply] at present
    split_ifs at present with same
    · cases present
      rwa [same]
    · exact linked.heap _ _ present
  byPort := byPort_redescribe linked.byPort described samePort

theorem remove (mapped : world.udp.socketsByIdMap sockId = some sd)
    (described : world.udp.heap sd = some (describe sockId socket)) :
    Linked
      { udp :=
          { world.udp with
            heap := update world.udp.heap sd none
            socketsByIdMap := update world.udp.socketsByIdMap sockId none
            socketsByPortMap := unlist world.udp.socketsByPortMap socket.localPort sd }
        opened := update world.opened sockId none } where
  ephemeral := linked.ephemeral
  byId := by
    intro _ pointer otherMapped
    simp only [update_apply] at otherMapped ⊢
    split_ifs at otherMapped with same
    rcases linked.byId _ _ otherMapped with ⟨found, isOpen, otherDescribed⟩
    have apart : pointer ≠ sd := by
      rintro rfl
      rw [described] at otherDescribed
      exact same (congrArg SockDesc.sockId (Option.some.inj otherDescribed)).symm
    rw [if_neg same, if_neg apart]
    exact ⟨found, isOpen, otherDescribed⟩
  opened := by
    intro _ _ isOpen
    simp only [update_apply] at isOpen ⊢
    split_ifs at isOpen with same
    rw [if_neg same]
    exact linked.opened _ _ isOpen
  heap := by
    intro _ desc present
    simp only [update_apply] at present ⊢
    split_ifs at present with same
    have otherMapped := linked.heap _ _ present
    have apart : desc.sockId ≠ sockId := by
      intro equal
      rw [equal, mapped] at otherMapped
      exact same (Option.some.inj otherMapped).symm
    rwa [if_neg apart]
  byPort := byPort_remove linked.byPort described

theorem connect (fits : PortsFit (.connect sockId addr port))
    (connected : world.udp.connect sockId addr port = .ok udp) :
    Linked
      { udp
        opened :=
          update world.opened sockId
            ((world.opened sockId).map fun socket =>
              { socket with remoteAddr := addr, remotePort := port }) } := by
  cases mapped : world.udp.socketsByIdMap sockId with
  | none =>
    rw [UDP.connect, mapped] at connected
    cases connected
  | some _ =>
    rcases linked.byId _ _ mapped with ⟨socket, isOpen, described⟩
    have fitted : toShort port = port := fits
    simp only [UDP.connect, mapped, described, fitted] at connected
    split_ifs at connected with unset invalid
    cases connected
    have specified : addr.isUnspecified = false := by simpa using unset
    have redescribed :
        { describe sockId socket with
          remoteAddr := addr
          remotePort := port
          onlyLocalPortIsSet := false } =
          describe sockId { socket with remoteAddr := addr, remotePort := port } := by
      simp [describe, specified]
    rw [isOpen, redescribed]
    exact linked.redescribe mapped described rfl

theorem unbind (unbound : world.udp.unbind sockId = .ok udp) :
    Linked { udp, opened := update world.opened sockId none } := by
  cases mapped : world.udp.socketsByIdMap sockId with
  | none =>
    rw [UDP.unbind, mapped] at unbound
    cases unbound
  | some _ =>
    rcases linked.byId _ _ mapped with ⟨_, _, described⟩
    simp only [UDP.unbind, mapped, described] at unbound
    cases unbound
    exact linked.remove mapped described

theorem step (fits : PortsFit event) (taken : Step world event after) : Linked after := by
  cases taken with
  | bind free bound => exact linked.bind free fits bound
  | connect connected => exact linked.connect fits connected
  | unbind unbound => exact linked.unbind unbound

end Linked

/-! ## Delivery -/

/-- The fields of a socket that are not the defaults match the packet. -/
def Matches (socket : Socket) (packet : UDPPacket) (ctrl : IPControlInfo) : Prop :=
  socket.localPort = packet.destinationPort ∧
    (socket.remotePort = 0 ∨ socket.remotePort = packet.sourcePort) ∧
      (socket.localAddr = .unspecified ∨ socket.localAddr = .v4 ctrl.destAddr) ∧
        (socket.remoteAddr = .unspecified ∨ socket.remoteAddr = .v4 ctrl.srcAddr) ∧
          (socket.interfaceId = -1 ∨ socket.interfaceId = ctrl.interfaceId)

/-- No IPv6 address of a socket is compared with the packet. -/
def Comparable (socket : Socket) (packet : UDPPacket) (ctrl : IPControlInfo) : Prop :=
  socket.localPort = packet.destinationPort →
    (socket.remotePort = 0 ∨ socket.remotePort = packet.sourcePort) →
      socket.localAddr.isIPv6 = false ∧
        ((socket.localAddr = .unspecified ∨ socket.localAddr = .v4 ctrl.destAddr) →
          socket.remoteAddr.isIPv6 = false)

section Delivering

theorem matchesSocket_spec (sd : SockDesc)
    (comparable :
      (sd.remotePort = 0 ∨ sd.remotePort = packet.sourcePort) →
        sd.localAddr.isIPv6 = false ∧
          ((sd.localAddr = .unspecified ∨ sd.localAddr = .v4 ctrl.destAddr) →
            sd.remoteAddr.isIPv6 = false)) :
    ∃ matched,
      matchesSocket sd packet ctrl = .ok matched ∧
        (matched = true ↔
          (sd.remotePort = 0 ∨ sd.remotePort = packet.sourcePort) ∧
            (sd.localAddr = .unspecified ∨ sd.localAddr = .v4 ctrl.destAddr) ∧
              (sd.remoteAddr = .unspecified ∨ sd.remoteAddr = .v4 ctrl.srcAddr) ∧
                (sd.interfaceId = -1 ∨ sd.interfaceId = ctrl.interfaceId)) := by
  simp only [matchesSocket, IPvXAddress.isUnspecified_iff,
    IPvXAddress.get4_eq_none, IPvXAddress.get4_eq_some, ne_eq]
  by_cases ports : sd.remotePort = 0 ∨ sd.remotePort = packet.sourcePort
  · have localPlain := (comparable ports).1
    rw [if_neg (by tauto), if_neg (by simp [localPlain])]
    by_cases locals : sd.localAddr = .unspecified ∨ sd.localAddr = .v4 ctrl.destAddr
    · have remotePlain := (comparable ports).2 locals
      rw [if_neg (by tauto), if_neg (by simp [remotePlain])]
      by_cases remotes : sd.remoteAddr = .unspecified ∨ sd.remoteAddr = .v4 ctrl.srcAddr
      · rw [if_neg (by tauto)]
        by_cases interfaces : sd.interfaceId = -1 ∨ sd.interfaceId = ctrl.interfaceId
        · rw [if_neg (by tauto)]
          exact ⟨true, rfl, fun _ => ⟨ports, locals, remotes, interfaces⟩, fun _ => rfl⟩
        · rw [if_pos (by tauto)]
          exact ⟨false, rfl, by simp, fun fits => absurd fits.2.2.2 interfaces⟩
      · rw [if_pos (by tauto)]
        exact ⟨false, rfl, by simp, fun fits => absurd fits.2.2.1 remotes⟩
    · rw [if_pos (by tauto)]
      exact ⟨false, rfl, by simp, fun fits => absurd fits.2.1 locals⟩
  · rw [if_pos (by tauto)]
    exact ⟨false, rfl, by simp, fun fits => absurd fits.1 ports⟩

/-- The flag is set for sockets that match every packet to their port. -/
theorem matches_of_onlyLocalPortIsSet (onPort : socket.localPort = packet.destinationPort)
    (flag : (describe sockId socket).onlyLocalPortIsSet = true) : Matches socket packet ctrl := by
  simp only [describe, Bool.and_eq_true, beq_iff_eq, IPvXAddress.isUnspecified_iff] at flag
  rcases flag with ⟨⟨⟨locals, remotes⟩, remotePort⟩, interfaceId⟩
  exact ⟨onPort, .inl remotePort, .inl locals, .inl remotes, .inl interfaceId⟩

theorem takesPacket_describe (onPort : socket.localPort = packet.destinationPort)
    (comparable : Comparable socket packet ctrl) :
    ∃ matched,
      takesPacket (describe sockId socket) packet ctrl = .ok matched ∧
        (matched = true ↔ Matches socket packet ctrl) := by
  rw [takesPacket]
  split_ifs with flag
  · have fits : Matches socket packet ctrl := matches_of_onlyLocalPortIsSet onPort flag
    exact ⟨true, rfl, fun _ => fits, fun _ => rfl⟩
  · rcases matchesSocket_spec (describe _ _) (comparable onPort) with ⟨matched, tests, fits⟩
    refine ⟨matched, tests, fits.trans ?_⟩
    exact ⟨fun fields => ⟨onPort, fields⟩, fun fields => fields.2⟩

variable {world : World}

theorem deliver_spec (linked : Linked world)
    (comparable :
      ∀ sockId socket, world.opened sockId = some socket → Comparable socket packet ctrl)
    (nodup : list.Nodup)
    (onPort : ∀ pointer ∈ list, portOf world.udp pointer = some packet.destinationPort) :
    ∃ sent,
      deliver world.udp.heap packet ctrl list = .ok sent ∧
        (sent.map Indication.sockId).Nodup ∧
          ∀ copy, copy ∈ sent ↔
            ∃ pointer ∈ list, ∃ sockId socket,
              world.opened sockId = some socket ∧
                world.udp.heap pointer = some (describe sockId socket) ∧
                  Matches socket packet ctrl ∧
                    copy = sendUp packet ctrl (describe sockId socket) := by
  induction list with
  | nil => exact ⟨[], rfl, List.nodup_nil, by simp⟩
  | cons pointer rest induction =>
    rw [List.forall_mem_cons] at onPort
    rw [List.nodup_cons] at nodup
    rcases induction nodup.2 onPort.2 with ⟨sent, delivers, sentNodup, copies⟩
    rcases Option.map_eq_some_iff.mp onPort.1 with ⟨sd, present, port⟩
    rcases linked.of_heap present with ⟨socket, isOpen, described⟩
    have socketPort : socket.localPort = packet.destinationPort := by
      rwa [described] at port
    rcases takesPacket_describe socketPort (comparable _ _ isOpen) with ⟨matched, tests, fits⟩
    rw [← described] at tests
    have delivered :
        deliver world.udp.heap packet ctrl (pointer :: rest) =
          .ok (if matched then sendUp packet ctrl sd :: sent
            else sent) := by
      simp only [deliver, present, tests, delivers]
      rfl
    have mapped := linked.heap _ _ present
    have fresh : sd.sockId ∉ sent.map Indication.sockId := by
      intro among
      rcases List.mem_map.mp among with ⟨copy, inSent, same⟩
      rcases (copies _).mp inSent with ⟨other, otherAmong, sockId, found, _, otherPresent, _, rfl⟩
      have otherMapped := linked.heap _ _ otherPresent
      change world.udp.socketsByIdMap sockId = some other at otherMapped
      change sockId = sd.sockId at same
      rw [same, mapped] at otherMapped
      exact nodup.1 (Option.some.inj otherMapped ▸ otherAmong)
    have here :
        ∀ copy,
          (∃ sockId found, world.opened sockId = some found ∧
            world.udp.heap pointer = some (describe sockId found) ∧
              Matches found packet ctrl ∧ copy = sendUp packet ctrl (describe sockId found)) ↔
            matched = true ∧ copy = sendUp packet ctrl sd := by
      intro _
      rw [fits]
      constructor
      · rintro ⟨sockId, _, foundOpen, foundPresent, hit, rfl⟩
        rw [present] at foundPresent
        have sdEq := Option.some.inj foundPresent
        have idEq : sd.sockId = sockId := congrArg SockDesc.sockId sdEq
        rw [← idEq, isOpen] at foundOpen
        cases foundOpen
        exact ⟨hit, by rw [← sdEq]⟩
      · rintro ⟨hit, rfl⟩
        exact ⟨sd.sockId, socket, isOpen, present.trans
          (congrArg _ described), hit, by rw [← described]⟩
    refine ⟨_, delivered, ?_, fun copy => ?_⟩
    · split_ifs with hit
      · exact List.nodup_cons.mpr ⟨fresh, sentNodup⟩
      · exact sentNodup
    · rw [List.exists_mem_cons_iff, here, ← copies]
      split_ifs with hit
      all_goals simp [hit]

/-! ## Every run -/

/-- What demultiplexing rests on, and that it is right. -/
structure Demultiplexes (world : World) : Prop where
  listedOnce :
    ∀ sockId socket, world.opened sockId = some socket →
      ∃ pointer list,
        world.udp.socketsByIdMap sockId = some pointer ∧
          world.udp.heap pointer = some (describe sockId socket) ∧
            world.udp.socketsByPortMap socket.localPort = some list ∧
              list.count pointer = 1 ∧
                ∀ port other,
                  world.udp.socketsByPortMap port = some other →
                    pointer ∈ other → port = socket.localPort
  nonempty : ∀ port list, world.udp.socketsByPortMap port = some list → list ≠ []
  openById :
    ∀ sockId pointer, world.udp.socketsByIdMap sockId = some pointer →
      ∃ socket, world.opened sockId = some socket
  openByPort :
    ∀ port list pointer, world.udp.socketsByPortMap port = some list →
      pointer ∈ list →
        ∃ sockId socket, world.opened sockId = some socket ∧
          world.udp.heap pointer = some (describe sockId socket)
  flag :
    ∀ pointer sd, world.udp.heap pointer = some sd →
      (sd.onlyLocalPortIsSet = true ↔
        sd.localAddr = .unspecified ∧ sd.remoteAddr = .unspecified ∧
          sd.remotePort = 0 ∧ sd.interfaceId = -1)
  delivers :
    ∀ packet ctrl, packet.hasBitError = false →
      (∀ sockId socket, world.opened sockId = some socket → Comparable socket packet ctrl) →
        ∃ outcome,
          world.udp.processUDPPacket packet ctrl = .ok outcome ∧
            (outcome.sentUp.map Indication.sockId).Nodup ∧
              (∀ copy, copy ∈ outcome.sentUp ↔
                ∃ sockId socket, world.opened sockId = some socket ∧
                  Matches socket packet ctrl ∧ copy = sendUp packet ctrl (describe sockId socket)) ∧
                (outcome.icmpError = true ↔
                  ctrl.destAddr.isMulticast = false ∧
                    ∀ sockId socket, world.opened sockId = some socket →
                      ¬ Matches socket packet ctrl)

namespace Linked

theorem undeliverable
    (none : ∀ sockId socket, world.opened sockId = some socket → ¬ Matches socket packet ctrl) :
    ((processUndeliverablePacket ctrl).sentUp.map Indication.sockId).Nodup ∧
      (∀ copy, copy ∈ (processUndeliverablePacket ctrl).sentUp ↔
        ∃ sockId socket, world.opened sockId = some socket ∧
          Matches socket packet ctrl ∧ copy = sendUp packet ctrl (describe sockId socket)) ∧
        ((processUndeliverablePacket ctrl).icmpError = true ↔
          ctrl.destAddr.isMulticast = false ∧
            ∀ sockId socket, world.opened sockId = some socket → ¬ Matches socket packet ctrl) := by
  refine ⟨List.nodup_nil, fun copy => ?_, ?_⟩
  · constructor
    · intro among
      cases among
    · rintro ⟨_, _, isOpen, hit, _⟩
      exact absurd hit (none _ _ isOpen)
  · simp only [processUndeliverablePacket, Bool.not_eq_true']
    exact ⟨fun unicast => ⟨unicast, none⟩, fun both => both.1⟩

theorem delivers (linked : Linked world) (intact : packet.hasBitError = false)
    (comparable :
      ∀ sockId socket, world.opened sockId = some socket → Comparable socket packet ctrl) :
    ∃ outcome,
      world.udp.processUDPPacket packet ctrl = .ok outcome ∧
        (outcome.sentUp.map Indication.sockId).Nodup ∧
          (∀ copy, copy ∈ outcome.sentUp ↔
            ∃ sockId socket, world.opened sockId = some socket ∧
              Matches socket packet ctrl ∧ copy = sendUp packet ctrl (describe sockId socket)) ∧
            (outcome.icmpError = true ↔
              ctrl.destAddr.isMulticast = false ∧
                ∀ sockId socket, world.opened sockId = some socket →
                  ¬ Matches socket packet ctrl) := by
  have port_of_opened :
      ∀ sockId socket, world.opened sockId = some socket →
        ∃ pointer,
          world.udp.heap pointer = some (describe sockId socket) ∧
            portOf world.udp pointer = some socket.localPort := by
    intro _ _ isOpen
    rcases linked.of_opened isOpen with ⟨pointer, _, described⟩
    exact ⟨pointer, described, by rw [portOf, described]; rfl⟩
  rw [UDP.processUDPPacket, intact]
  cases onPort : world.udp.socketsByPortMap packet.destinationPort with
  | none =>
    refine ⟨_, rfl, undeliverable fun sockId socket isOpen hit => ?_⟩
    rcases port_of_opened _ _ isOpen with ⟨pointer, _, port⟩
    have listed := linked.byPort.listed _ _ port
    rw [hit.1, onPort] at listed
    cases listed
  | some _ =>
    have members := linked.byPort.mem_iff _ _ onPort
    rcases deliver_spec linked comparable (linked.byPort.nodup _ _ onPort)
        (fun pointer among => (members _).mp among) with
      ⟨sent, delivered, sentNodup, copies⟩
    have copyIff :
        ∀ copy, copy ∈ sent ↔
          ∃ sockId socket, world.opened sockId = some socket ∧
            Matches socket packet ctrl ∧ copy = sendUp packet ctrl (describe sockId socket) := by
      intro _
      rw [copies]
      constructor
      · rintro ⟨pointer, _, sockId, socket, isOpen, _, hit, rfl⟩
        exact ⟨sockId, socket, isOpen, hit, rfl⟩
      · rintro ⟨sockId, socket, isOpen, hit, rfl⟩
        rcases port_of_opened _ _ isOpen with ⟨pointer, described, port⟩
        rw [hit.1] at port
        exact ⟨pointer, (members _).mpr port, sockId, socket, isOpen, described, hit, rfl⟩
    simp only [Bool.false_eq_true, if_false, delivered]
    cases sent with
    | nil =>
      refine ⟨_, rfl, undeliverable fun sockId socket isOpen hit => ?_⟩
      have among := (copyIff _).mpr ⟨sockId, socket, isOpen, hit, rfl⟩
      cases among
    | cons _ _ =>
      refine ⟨_, rfl, sentNodup, copyIff, ?_⟩
      have among := (copyIff _).mp List.mem_cons_self
      rcases among with ⟨sockId, socket, isOpen, hit, _⟩
      constructor
      · intro error
        cases error
      · intro both
        exact absurd hit (both.2 sockId socket isOpen)

theorem demultiplexes (linked : Linked world) : Demultiplexes world where
  listedOnce := by
    intro _ socket isOpen
    rcases linked.of_opened isOpen with ⟨pointer, mapped, described⟩
    have port : portOf world.udp pointer = some socket.localPort := by
      rw [portOf, described]
      rfl
    rcases Option.isSome_iff_exists.mp (linked.byPort.listed _ _ port) with ⟨list, onPort⟩
    have among := (linked.byPort.mem_iff _ _ onPort _).mpr port
    refine ⟨pointer, list, mapped, described, onPort, ?_, ?_⟩
    · exact List.count_eq_one_of_mem (linked.byPort.nodup _ _ onPort) among
    · intro _ _ otherPort otherAmong
      have same := (linked.byPort.mem_iff _ _ otherPort _).mp otherAmong
      exact Option.some.inj (same.symm.trans port)
  nonempty := linked.byPort.nonempty
  openById := by
    intro _ pointer mapped
    rcases linked.byId _ pointer mapped with ⟨socket, isOpen, _⟩
    exact ⟨socket, isOpen⟩
  openByPort := by
    intro _ list pointer onPort among
    have has := (linked.byPort.mem_iff _ list onPort pointer).mp among
    rcases Option.map_eq_some_iff.mp has with ⟨sd, present, _⟩
    rcases linked.of_heap present with ⟨socket, isOpen, described⟩
    exact ⟨sd.sockId, socket, isOpen, present.trans (congrArg some described)⟩
  flag := by
    intro _ _ present
    rcases linked.of_heap present with ⟨_, _, described⟩
    rw [described]
    simp only [describe, Bool.and_eq_true, beq_iff_eq, IPvXAddress.isUnspecified_iff, and_assoc]
  delivers := fun _ _ => linked.delivers

end Linked

end Delivering

theorem Linked.of_run
    (run : Run (guardedStep (fun _ event => PortsFit event) Step) World.initial events world) :
    Linked world := by
  have preserved :
      ∀ world event after, Linked world →
        guardedStep (fun _ event => PortsFit event) Step world event after → Linked after :=
    fun world event after linked taken => linked.step taken.1 taken.2
  exact run.invariant preserved .initial

/--
While the ports of the commands fit in a `short`, the maps describe the open
sockets, and a packet goes to those that match it.
-/
theorem sockets_demultiplex {world : World} {events : List Event}
    (run : Run (guardedStep (fun _ event => PortsFit event) Step) World.initial events world) :
    Demultiplexes world :=
  (Linked.of_run run).demultiplexes

/-! ### Sockets bound to ports that fit, and to one that does not -/

/-- A socket that only asks for a local port. -/
def portSocket (sockId srcPort : Int) : UDPControlInfo where
  sockId
  srcPort

def hostAddress : IPAddress :=
  ⟨0x0A000001⟩

def packetTo (destinationPort : Int) : UDPPacket where
  sourcePort := 53
  destinationPort

def fromHost : IPControlInfo where
  srcAddr := hostAddress
  destAddr := hostAddress
  interfaceId := 100

theorem sockets_demultiplex_two_sockets :
    ∃ world,
      Run (guardedStep (fun _ event => PortsFit event) Step) World.initial
          [.bind 0 0 (portSocket 1 80), .bind 1 0 (portSocket 2 80),
            .connect 2 (.v4 hostAddress) 53, .unbind 1] world ∧
        Demultiplexes world := by
  have portFits : toShort 53 = 53 := by decide
  have run :
      Run (guardedStep (fun _ event => PortsFit event) Step) World.initial
        [.bind 0 0 (portSocket 1 80), .bind 1 0 (portSocket 2 80),
          .connect 2 (.v4 hostAddress) 53, .unbind 1] _ :=
    .next ⟨⟨by decide, by decide⟩, .bind rfl rfl⟩
      (.next ⟨⟨by decide, by decide⟩, .bind rfl rfl⟩
        (.next ⟨portFits, .connect rfl⟩ (.next ⟨trivial, .unbind rfl⟩ (.idle _))))
  exact ⟨_, run, sockets_demultiplex run⟩

/-- The `SockDesc` of a socket on port 40000 says −25536; nothing finds it. -/
theorem wrapped_port_unreachable :
    (∃ world socket,
      Run Step World.initial [.bind 0 0 (portSocket 1 40000)] world ∧
        world.opened 1 = some socket ∧
          Matches socket (packetTo 40000) fromHost ∧
            world.udp.processUDPPacket (packetTo 40000) fromHost = .ok { icmpError := true }) ∧
      ∃ world,
        Run Step World.initial [.bind 0 0 { portSocket 1 80 with srcAddr := .v6 1 0 0 1 }] world ∧
          world.udp.processUDPPacket (packetTo 80) fromHost = .error .notIPv4 := by
  constructor
  · refine ⟨_, _, .next (.bind rfl rfl) (.idle _), rfl, ?_, rfl⟩
    exact ⟨rfl, .inl rfl, .inl rfl, .inl rfl, .inl rfl⟩
  · exact ⟨_, .next (.bind rfl rfl) (.idle _), rfl⟩

end OmnetDsi.Udp.Sockets
