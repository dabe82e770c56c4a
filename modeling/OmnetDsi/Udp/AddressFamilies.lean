import OmnetDsi.Ipv6.HopLimits
import OmnetDsi.Udp.Sockets

/-!
# UDP packets of both address families

A packet comes with the control info of IPv4 or of IPv6.
`processUDPPacket` takes the control info off the packet first.  It looks for
an `IPControlInfo` in what it took off, and for an `IPv6ControlInfo` on the
packet, where there is none any more; `processUndeliverablePacket` does the
same.  So every packet of IPv6 ends with the error for a packet without
control info.
-/

namespace OmnetDsi.Udp.AddressFamilies

open Contract.Addresses Contract.Endpoints Contract.IPv6Addresses
open OmnetDsi.Ipv6.HopLimits (IPv6ControlInfo isMulticast)
open Library.Transition Udp.Sockets

/-! ## Packets and their control info -/

inductive ControlInfo where
  | ipv4 (ctrl : IPControlInfo)
  | ipv6 (ctrl : IPv6ControlInfo)

/-- A packet with the control info that is attached to it. -/
structure Packet where
  udp : UDPPacket
  controlInfo : Option ControlInfo

def Packet.getControlInfo (packet : Packet) : Option ControlInfo :=
  packet.controlInfo

/-- The control info, and the packet without it. -/
def Packet.removeControlInfo (packet : Packet) : Option ControlInfo × Packet :=
  (packet.controlInfo, { packet with controlInfo := none })

def ControlInfo.isIPv6 : ControlInfo → Bool
  | .ipv4 _ => false
  | .ipv6 _ => true

inductive Failure where
  | sockets (failure : Sockets.Failure)
  | notIPv6
  | noControlInfo

/-- A copy of the payload with its `UDPControlInfo`. -/
structure Indication where
  appGateIndex : Int
  sockId : Int
  userId : Int
  srcAddr : IPvXAddress
  destAddr : IPvXAddress
  srcPort : Int
  destPort : Int
  interfaceId : Int

structure Outcome where
  sentUp : List Indication := []
  icmpError : Bool := false

/-- An unspecified IPv6 address is kept as the unspecified IPv4 address. -/
def ofIPv6 (address : IPv6Address) : IPvXAddress :=
  if address.isUnspecified then .unspecified else .v6 address.d0 address.d1 address.d2 address.d3

/-- The IPv6 address; an IPv4 address other than zero makes it throw. -/
def get6 : IPvXAddress → Option IPv6Address
  | .v4 address => if address.addr = 0 then some {} else none
  | .v6 d0 d1 d2 d3 => some { d0, d1, d2, d3 }

/-! ## The IPv6 versions -/

def matchesSocket6 (sd : SockDesc) (udp : UDPPacket)
    (ipCtrl : IPv6ControlInfo) : Except Failure Bool :=
  if sd.remotePort ≠ 0 ∧ sd.remotePort ≠ udp.sourcePort then .ok false
  else if ¬ sd.localAddr.isUnspecified ∧ get6 sd.localAddr = none then .error .notIPv6
  else if ¬ sd.localAddr.isUnspecified ∧ get6 sd.localAddr ≠ some ipCtrl.destAddr then .ok false
  else if ¬ sd.remoteAddr.isUnspecified ∧ get6 sd.remoteAddr = none then .error .notIPv6
  else if ¬ sd.remoteAddr.isUnspecified ∧ get6 sd.remoteAddr ≠ some ipCtrl.srcAddr then .ok false
  else if sd.interfaceId ≠ -1 ∧ sd.interfaceId ≠ ipCtrl.interfaceId then .ok false
  else .ok true

def sendUp6 (udpHeader : UDPPacket) (ipCtrl : IPv6ControlInfo) (sd : SockDesc) : Indication where
  appGateIndex := sd.appGateIndex
  sockId := sd.sockId
  userId := sd.userId
  srcAddr := ofIPv6 ipCtrl.srcAddr
  destAddr := ofIPv6 ipCtrl.destAddr
  srcPort := udpHeader.sourcePort
  destPort := udpHeader.destinationPort
  interfaceId := ipCtrl.interfaceId

/-- The copy that the IPv4 version of `sendUp` sends. -/
def ofIPv4 (copy : Sockets.Indication) : Indication where
  appGateIndex := copy.appGateIndex
  sockId := copy.sockId
  userId := copy.userId
  srcAddr := .v4 copy.srcAddr
  destAddr := .v4 copy.destAddr
  srcPort := copy.srcPort
  destPort := copy.destPort
  interfaceId := copy.interfaceId

/-- The loop of the IPv6 branch. -/
def deliver6 (heap : Pointer → Option SockDesc) (udpPacket : UDPPacket)
    (ctrl : IPv6ControlInfo) : List Pointer → Except Failure (List Indication)
  | [] => .ok []
  | pointer :: rest =>
    match heap pointer with
    | none => .error (.sockets .freedSocket)
    | some sd => do
        let matched ← if sd.onlyLocalPortIsSet then .ok true
          else matchesSocket6 sd udpPacket ctrl
        let sent ← deliver6 heap udpPacket ctrl rest
        .ok (if matched then sendUp6 udpPacket ctrl sd :: sent else sent)

/-! ## Processing -/

/-- `ctrl` is what was taken off the packet. -/
def processUndeliverablePacket (udpPacket : Packet)
    (ctrl : Option ControlInfo) : Except Failure Outcome :=
  match ctrl with
  | some (.ipv4 ctrl4) => .ok { icmpError := !ctrl4.destAddr.isMulticast }
  | _ =>
    if (udpPacket.getControlInfo.map ControlInfo.isIPv6).getD false then
      match ctrl with
      | some (.ipv6 ctrl6) => .ok { icmpError := !isMulticast ctrl6.destAddr }
      | _ => .error .noControlInfo
    else .error .noControlInfo

/-- The copies that either branch sends. -/
def deliverCopies (heap : Pointer → Option SockDesc) (udpPacket : Packet)
    (ctrl : Option ControlInfo) (list : List Pointer) : Except Failure (List Indication) :=
  match ctrl with
  | some (.ipv4 ctrl4) =>
    ((deliver heap udpPacket.udp ctrl4 list).mapError .sockets).map (List.map ofIPv4)
  | _ =>
    if (udpPacket.getControlInfo.map ControlInfo.isIPv6).getD false then
      match ctrl with
      | some (.ipv6 ctrl6) => deliver6 heap udpPacket.udp ctrl6 list
      | _ => .error .noControlInfo
    else .error .noControlInfo

def processUDPPacket (udp : UDP) (udpPacket : Packet) : Except Failure Outcome :=
  if udpPacket.udp.hasBitError then .ok {}
  else
    let destPort := udpPacket.udp.destinationPort
    let removed := udpPacket.removeControlInfo
    match udp.socketsByPortMap destPort with
    | none => processUndeliverablePacket removed.2 removed.1
    | some list => do
        let sentUp ← deliverCopies udp.heap removed.2 removed.1 list
        if sentUp.isEmpty then processUndeliverablePacket removed.2 removed.1 else .ok { sentUp }

/-! ## Comparing the families -/

/-- The addresses are of the same kind, and the interface is the same. -/
structure Corresponding (ctrl4 : IPControlInfo) (ctrl6 : IPv6ControlInfo) : Prop where
  source : ctrl4.srcAddr.isUnspecified = ctrl6.srcAddr.isUnspecified
  destination : ctrl4.destAddr.isUnspecified = ctrl6.destAddr.isUnspecified
  multicast : ctrl4.destAddr.isMulticast = isMulticast ctrl6.destAddr
  interfaceId : ctrl4.interfaceId = ctrl6.interfaceId

/--
Both packets are processed, copies go to the same sockets, and the packets are
reported as undeliverable in the same case.  The sockets may be bound to
addresses of the family in question.
-/
def TreatedAlike (udp4 udp6 : UDP) (header : UDPPacket)
    (ctrl4 : IPControlInfo) (ctrl6 : IPv6ControlInfo) : Prop :=
  ∃ outcome4 outcome6,
    processUDPPacket udp4 { udp := header, controlInfo := some (.ipv4 ctrl4) } = .ok outcome4 ∧
      processUDPPacket udp6 { udp := header, controlInfo := some (.ipv6 ctrl6) } = .ok outcome6 ∧
        outcome6.sentUp.map Indication.sockId = outcome4.sentUp.map Indication.sockId ∧
          outcome6.icmpError = outcome4.icmpError

section Comparing

theorem processUDPPacket_ipv4 (udp : UDP) (ctrl : IPControlInfo) :
    processUDPPacket udp { udp := header, controlInfo := some (.ipv4 ctrl) } =
      ((udp.processUDPPacket header ctrl).mapError .sockets).map fun outcome =>
        { sentUp := outcome.sentUp.map ofIPv4
          icmpError := outcome.icmpError } := by
  rw [processUDPPacket, UDP.processUDPPacket]
  by_cases broken : header.hasBitError = true
  · simp only [broken, if_true]
    rfl
  · simp only [broken, Bool.false_eq_true, if_false]
    cases udp.socketsByPortMap header.destinationPort with
    | none => rfl
    | some list =>
      simp only [deliverCopies, Packet.removeControlInfo]
      cases deliver udp.heap header ctrl list with
      | error _ => rfl
      | ok sent =>
        cases sent with
        | nil => rfl
        | cons _ _ => rfl

theorem processUDPPacket_ipv6 (intact : header.hasBitError = false) (udp : UDP)
    (ctrl : IPv6ControlInfo) :
    processUDPPacket udp { udp := header, controlInfo := some (.ipv6 ctrl) } =
      .error .noControlInfo := by
  rw [processUDPPacket]
  simp only [intact, Bool.false_eq_true, if_false]
  cases udp.socketsByPortMap header.destinationPort <;> rfl

/-- With the same sockets open, a comparable packet of IPv4 is processed. -/
theorem ipv4_packet_processed
    (run : Run (guardedStep (fun _ event => PortsFit event) Step) World.initial events world)
    (intact : header.hasBitError = false)
    (comparable :
      ∀ sockId socket, world.opened sockId = some socket → Comparable socket header ctrl) :
    ∃ outcome,
      processUDPPacket world.udp { udp := header, controlInfo := some (.ipv4 ctrl) } =
        .ok outcome := by
  rcases (Linked.of_run run).delivers intact comparable with ⟨_, processed, _⟩
  rw [processUDPPacket_ipv4, processed]
  exact ⟨_, rfl⟩

/--
Whatever sockets are open for the one and for the other, no packet of IPv6 is
treated like a packet of IPv4.
-/
theorem never_treatedAlike (intact : header.hasBitError = false)
    (udp4 udp6 : UDP) (ctrl4 : IPControlInfo) (ctrl6 : IPv6ControlInfo) :
    ¬ TreatedAlike udp4 udp6 header ctrl4 ctrl6 := by
  rintro ⟨_, _, _, processed, _⟩
  rw [processUDPPacket_ipv6 intact] at processed
  cases processed

end Comparing

/-! ### One socket without addresses -/

def fromHost6 : IPv6ControlInfo where
  srcAddr := { d0 := 0x20010DB8, d3 := 1 }
  destAddr := { d0 := 0x20010DB8, d3 := 2 }
  hopLimit := 64
  interfaceId := 100

theorem never_treatedAlike_no_socket :
    ¬ TreatedAlike .initial .initial (packetTo 80) fromHost fromHost6 :=
  never_treatedAlike rfl .initial .initial _ _

/--
A socket that is open for every packet to its port gets a copy of the packet of
IPv4; the packet of IPv6 is an error.
-/
theorem ipv6_packet_fails :
    ¬ ∀ (events : List Event) (world : World) (header : UDPPacket)
        (ctrl4 : IPControlInfo) (ctrl6 : IPv6ControlInfo),
        Run Step World.initial events world → header.hasBitError = false →
          Corresponding ctrl4 ctrl6 → TreatedAlike world.udp world.udp header ctrl4 ctrl6 := by
  intro always
  rcases always [.bind 0 0 (portSocket 1 80)] _ (packetTo 80) fromHost
      fromHost6 (.next (.bind rfl rfl) (.idle _)) rfl ⟨rfl, rfl, rfl, rfl⟩ with
    ⟨outcome4, outcome6, _, processed, _⟩
  cases processed

end OmnetDsi.Udp.AddressFamilies
