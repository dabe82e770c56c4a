import OmnetDsi.Udp.AddressFamilies

/-!
# Ports and ICMP errors

What holds of the tables of the module after any commands, whatever the ports
in them: the map by local port lists the `SockDesc`s under the port that each
has in its `short`.  So a port that `getEphemeralPort` assigns is the port of
no open socket.

An ICMP error is about a packet that some socket may have sent.
`processICMPError` looks for it among the sockets on the local port of the
packet and notifies the last one that passes its test.  The test wants the
remote port of a socket to be unset or to *differ* from that of the packet.
-/

namespace OmnetDsi.Udp.PortTables

open Contract.Addresses Contract.Endpoints Contract.IPv6Addresses Library.KeyIndexes
open Library.Transition
open OmnetDsi.Udp.AddressFamilies (ofIPv6)
open Udp.Sockets Function

/-! ## The tables after any commands -/

structure Tables (udp : UDP) : Prop where
  ephemeral : Ephemeral udp.lastEphemeralPort
  byPort : Indexes (portOf udp) udp.socketsByPortMap
  byId : ∀ pointer sd, udp.heap pointer = some sd → udp.socketsByIdMap sd.sockId = some pointer
  short : ∀ pointer sd, udp.heap pointer = some sd → toShort sd.localPort = sd.localPort
  plain :
    ∀ pointer sd, udp.heap pointer = some sd → sd.onlyLocalPortIsSet = true →
      sd.localAddr = .unspecified ∧ sd.remoteAddr = .unspecified ∧ sd.remotePort = 0

theorem toShort_toShort (value : Int) : toShort (toShort value) = toShort value :=
  Int.bmod_bmod

theorem toShort_ephemeral (ephemeral : Ephemeral port) : toShort port = port := by
  unfold Ephemeral EPHEMERAL_PORTRANGE_START EPHEMERAL_PORTRANGE_END at ephemeral
  unfold toShort
  rw [Int.bmod_eq_of_le] <;> omega

theorem bindPort_cases {udp : UDP} (ephemeral : Ephemeral udp.lastEphemeralPort)
    (assigned : udp.bindPort srcPort = .ok (localPort, last)) :
    toShort localPort = localPort ∧ Ephemeral last ∧
      (toShort srcPort = 0 → Ephemeral localPort ∧ udp.socketsByPortMap localPort = none) := by
  rw [UDP.bindPort] at assigned
  split_ifs at assigned with unset
  · rcases getEphemeralPort_spec (fun port => (udp.socketsByPortMap _).isSome) ephemeral with
      ⟨port, found, among, free⟩ | ⟨exhausted, _⟩
    · rw [found] at assigned
      cases assigned
      exact ⟨toShort_ephemeral among, among, fun _ => ⟨among, by
        simpa using free⟩⟩
    · rw [exhausted] at assigned
      cases assigned
  · cases assigned
    exact ⟨toShort_toShort _, ephemeral, fun zero => absurd zero unset⟩

namespace Tables

theorem initial : Tables .initial where
  ephemeral := by decide
  byPort := by
    constructor <;> simp [UDP.initial, portOf]
  byId := by simp [UDP.initial]
  short := by simp [UDP.initial]
  plain := by simp [UDP.initial]

theorem bind (tables : Tables udp) (free : udp.heap sd = none)
    (bound : udp.bind sd gateIndex ctrl = .ok after) : Tables after := by
  rcases UDP.bind_cases bound with ⟨unused, _, _, assigned, rfl⟩
  rcases bindPort_cases tables.ephemeral assigned with ⟨short, among, _⟩
  refine ⟨among, ?_, ?_, ?_, ?_⟩
  · exact byPort_add tables.byPort _ free
  · intro _ desc present
    simp only [update_apply] at present ⊢
    split_ifs at present with same
    · cases present
      exact (if_pos rfl).trans (congrArg _ same.symm)
    · have mapped := tables.byId _ _ present
      have apart : desc.sockId ≠ ctrl.sockId := by
        intro equal
        rw [equal, unused] at mapped
        cases mapped
      exact (if_neg apart).trans mapped
  · intro _ _ present
    simp only [update_apply] at present
    split_ifs at present with same
    · cases present
      exact short
    · exact tables.short _ _ present
  · intro _ _ present
    simp only [update_apply] at present
    split_ifs at present with same
    · cases present
      intro flag
      simp only [UDP.newSockDesc, Bool.and_eq_true, beq_iff_eq,
        IPvXAddress.isUnspecified_iff] at flag
      exact ⟨flag.1.1.1, flag.1.1.2, flag.1.2⟩
    · exact tables.plain _ _ present

theorem connect (tables : Tables udp) (connected : udp.connect sockId addr port = .ok after) :
    Tables after := by
  cases mapped : udp.socketsByIdMap sockId with
  | none =>
    rw [UDP.connect, mapped] at connected
    cases connected
  | some sd =>
    cases described : udp.heap sd with
    | none =>
      simp only [UDP.connect, mapped, described] at connected
      split_ifs at connected
    | some desc =>
      simp only [UDP.connect, mapped, described] at connected
      split_ifs at connected
      cases connected
      refine ⟨tables.ephemeral, ?_, ?_, ?_, ?_⟩
      · exact byPort_redescribe tables.byPort described rfl
      · intro _ _ present
        simp only [update_apply] at present
        split_ifs at present with same
        · cases present
          rw [same]
          exact tables.byId _ desc described
        · exact tables.byId _ _ present
      · intro _ _ present
        simp only [update_apply] at present
        split_ifs at present with same
        · cases present
          exact tables.short _ desc described
        · exact tables.short _ _ present
      · intro _ _ present flag
        simp only [update_apply] at present
        split_ifs at present with same
        · cases present
          cases flag
        · exact tables.plain _ _ present flag

theorem unbind (tables : Tables udp) (unbound : udp.unbind sockId = .ok after) : Tables after := by
  cases mapped : udp.socketsByIdMap sockId with
  | none =>
    rw [UDP.unbind, mapped] at unbound
    cases unbound
  | some sd =>
    cases described : udp.heap sd with
    | none =>
      simp only [UDP.unbind, mapped, described] at unbound
      cases unbound
    | some _ =>
      simp only [UDP.unbind, mapped, described] at unbound
      cases unbound
      have kept :
          ∀ pointer other,
            update udp.heap sd none pointer = some other →
              pointer ≠ sd ∧ udp.heap pointer = some other := by
        intro _ _ present
        rw [update_apply] at present
        split_ifs at present with same
        exact ⟨same, present⟩
      refine ⟨tables.ephemeral, byPort_remove tables.byPort described, ?_, ?_, ?_⟩
      · intro _ other present
        rcases kept _ _ present with ⟨apart, held⟩
        have otherMapped := tables.byId _ _ held
        have otherId : other.sockId ≠ sockId := by
          intro same
          rw [same, mapped] at otherMapped
          exact apart (Option.some.inj otherMapped).symm
        exact (update_of_ne otherId _ _).trans otherMapped
      · intro _ _ present
        exact tables.short _ _ (kept _ _ present).2
      · intro _ _ present
        exact tables.plain _ _ (kept _ _ present).2

theorem of_run (run : Run Step World.initial events world) : Tables world.udp := by
  have preserved :
      ∀ world event after, Tables world.udp → Step world event after → Tables after.udp := by
    intro _ _ _ tables taken
    cases taken with
    | bind free bound => exact tables.bind free bound
    | connect connected => exact tables.connect connected
    | unbind unbound => exact tables.unbind unbound
  exact run.invariant preserved .initial

end Tables

/-! ## Ports that are assigned -/

section Assigning

variable (inUse : Int → Bool)

/-- The search ends: the only ports that it misses are the used ones. -/
theorem getEphemeralPort_exact (ephemeral : Ephemeral last) :
    getEphemeralPort inUse last ≠ .running ∧
      (getEphemeralPort inUse last = .exhausted ↔ ∀ port, Ephemeral port → inUse port = true) ∧
        ∀ port, getEphemeralPort inUse last = .found port →
          Ephemeral port ∧ inUse port = false := by
  rcases getEphemeralPort_spec _ ephemeral with ⟨_, found, among, unused⟩ | ⟨exhausted, used⟩
  · rw [found]
    have someFree : ¬ ∀ port, Ephemeral port → inUse port = true := by
      intro used
      have contradiction := used _ among
      rw [unused] at contradiction
      cases contradiction
    refine ⟨by simp, by simp [someFree], fun port same => ?_⟩
    cases same
    exact ⟨among, unused⟩
  · rw [exhausted]
    exact ⟨by simp, by simpa using used, by simp⟩

end Assigning

/--
A search for a port ends with an unused port, or with the error if there is
none; so a socket that is bound without a port gets one that no socket has.
-/
theorem ephemeral_port_unshared (inUse : Int → Bool) {last : Int} (ephemeral : Ephemeral last) :
    (getEphemeralPort inUse last ≠ .running ∧
      (getEphemeralPort inUse last = .exhausted ↔ ∀ port, Ephemeral port → inUse port = true) ∧
        ∀ port, getEphemeralPort inUse last = .found port → Ephemeral port ∧ inUse port = false) ∧
      ∀ (events : List Event) (world : World) (sd : Pointer) (gateIndex : Int)
        (ctrl : UDPControlInfo) (udp : UDP),
        Run Step World.initial events world → world.udp.heap sd = none →
          toShort ctrl.srcPort = 0 →
            world.udp.bind sd gateIndex ctrl = .ok udp →
              ∃ desc, udp.heap sd = some desc ∧ Ephemeral desc.localPort ∧
                ∀ pointer other, world.udp.heap pointer = some other →
                  other.localPort ≠ desc.localPort := by
  refine ⟨getEphemeralPort_exact _ ephemeral, ?_⟩
  intro _ world _ _ _ udp run _ unset bound
  have tables := Tables.of_run run
  rcases UDP.bind_cases bound with ⟨_, localPort, _, assigned, rfl⟩
  rcases (bindPort_cases tables.ephemeral assigned).2.2 unset with ⟨among, unused⟩
  refine ⟨UDP.newSockDesc _ _ _, update_self .., among, ?_⟩
  intro pointer other present same
  have port : portOf world.udp pointer = some other.localPort := by
    rw [portOf, present]
    rfl
  have listed := tables.byPort.listed _ _ port
  rw [same] at listed
  change (world.udp.socketsByPortMap localPort).isSome = true at listed
  rw [unused] at listed
  cases listed

/-- With one port left, the search goes round to it. -/
theorem ephemeral_port_unshared_last :
    getEphemeralPort (fun port => port != 1100) 1100 ≠ .running :=
  (ephemeral_port_unshared (fun port => port != 1100) (by decide)).1.1

/-! ## ICMP errors -/

/-- A message with the datagram and the UDP packet that it is about. -/
inductive ErrorMessage where
  | icmp (srcAddress destAddress : IPAddress) (packet : UDPPacket)
  | icmpv6 (srcAddress destAddress : IPv6Address) (packet : UDPPacket)

/-- What `processICMPError` extracts from the message. -/
structure Details where
  localAddr : IPvXAddress
  remoteAddr : IPvXAddress
  localPort : Int
  remotePort : Int

def ErrorMessage.details : ErrorMessage → Details
  | .icmp srcAddress destAddress packet =>
    { localAddr := .v4 srcAddress
      remoteAddr := .v4 destAddress
      localPort := packet.sourcePort
      remotePort := packet.destinationPort }
  | .icmpv6 srcAddress destAddress packet =>
    { localAddr := ofIPv6 srcAddress
      remoteAddr := ofIPv6 destAddress
      localPort := packet.sourcePort
      remotePort := packet.destinationPort }

/--
Whether the words that an IPv4 address of the message leaves unset happen to be
those of the given address.
-/
structure Stale where
  localAddr : IPvXAddress → Bool
  remoteAddr : IPvXAddress → Bool

def matchesSocket (stale : Stale) (sd : SockDesc)
    (localAddr remoteAddr : IPvXAddress) (remotePort : Int) : Bool :=
  (sd.remotePort == 0 || sd.remotePort != remotePort) &&
    (sd.localAddr.isUnspecified || sd.localAddr.equals (stale.localAddr sd.localAddr) localAddr) &&
    (sd.remoteAddr.isUnspecified ||
      sd.remoteAddr.equals (stale.remoteAddr sd.remoteAddr) remoteAddr)

/-- The test of the loop; the remote port is passed as a `short`. -/
def passes (stale : Stale) (details : Details) (sd : SockDesc) : Bool :=
  sd.onlyLocalPortIsSet ||
    matchesSocket stale sd details.localAddr details.remoteAddr (toShort details.remotePort)

/-- The loop over the sockets of the port. -/
def srcSocket (heap : Pointer → Option SockDesc) (stale : Stale) (details : Details) :
    List Pointer → Option SockDesc → Except Failure (Option SockDesc)
  | [], found => .ok found
  | pointer :: rest, found =>
    match heap pointer with
    | none => .error .freedSocket
    | some sd =>
      srcSocket heap stale details rest (if passes stale details sd then some sd else found)

/-- The `UDP_I_ERROR` sent to a socket. -/
structure Notification where
  appGateIndex : Int
  sockId : Int
  userId : Int
  srcAddr : IPvXAddress
  destAddr : IPvXAddress
  srcPort : Int
  destPort : Int

def sendUpErrorNotification (sd : SockDesc)
    (localAddr remoteAddr : IPvXAddress) (remotePort : Int) : Notification where
  appGateIndex := sd.appGateIndex
  sockId := sd.sockId
  userId := sd.userId
  srcAddr := localAddr
  destAddr := remoteAddr
  srcPort := sd.localPort
  destPort := remotePort

def processICMPError (udp : UDP) (stale : Stale) (msg : ErrorMessage) :
    Except Failure (Option Notification) :=
  let details := msg.details
  match udp.socketsByPortMap details.localPort with
  | none => .ok none
  | some list =>
    (srcSocket udp.heap stale details list none).map fun found =>
      found.map fun sd =>
        sendUpErrorNotification sd details.localAddr details.remoteAddr (toShort details.remotePort)

/-! ## Sockets that could have sent the packet -/

/-- The addresses of the socket that are set are those of the packet. -/
def AddressesFit (details : Details) (sd : SockDesc) : Prop :=
  (sd.localAddr = .unspecified ∨ sd.localAddr = details.localAddr) ∧
    (sd.remoteAddr = .unspecified ∨ sd.remoteAddr = details.remoteAddr)

/-- Ports are compared as the `short`s that a socket has. -/
def CouldHaveSent (details : Details) (sd : SockDesc) : Prop :=
  sd.localPort = toShort details.localPort ∧
    (sd.remotePort = 0 ∨ sd.remotePort = toShort details.remotePort) ∧ AddressesFit details sd

/--
A socket is notified only if it could have sent the packet, and one is notified
if some socket could have.
-/
def NotifiesRight (udp : UDP) (stale : Stale) (msg : ErrorMessage) : Prop :=
  ∃ notified, processICMPError udp stale msg = .ok notified ∧
    (∀ notification, notified = some notification →
      ∃ pointer sd, udp.heap pointer = some sd ∧
        notification.sockId = sd.sockId ∧ CouldHaveSent msg.details sd) ∧
      ((∃ pointer sd, udp.heap pointer = some sd ∧ CouldHaveSent msg.details sd) → notified.isSome)

/-- The sockets that pass the test, in the order of the list. -/
def passing (udp : UDP) (stale : Stale) (details : Details) : List SockDesc :=
  (((udp.socketsByPortMap details.localPort).getD []).filterMap
    udp.heap).filter (passes stale details)

/--
The last socket that passes is not connected and its addresses do fit.  If none
passes, no socket is connected to the remote port of the packet; if the local
port does not fit in a `short`, no socket on it is unconnected.
-/
structure SingledOut (udp : UDP) (stale : Stale) (details : Details) : Prop where
  last :
    ∀ sd, (passing udp stale details).getLast? = some sd →
      sd.remotePort = 0 ∧ AddressesFit details sd
  connected :
    passing udp stale details = [] →
      ∀ pointer sd, udp.heap pointer = some sd →
        sd.localPort = toShort details.localPort → AddressesFit details sd →
          sd.remotePort = toShort details.remotePort → sd.remotePort = 0
  unconnected :
    toShort details.localPort ≠ details.localPort →
      ∀ pointer sd, udp.heap pointer = some sd →
        sd.localPort = toShort details.localPort → AddressesFit details sd → sd.remotePort ≠ 0

section Notifying

variable {udp : UDP}

theorem equals_self (unsetWords : Bool) (address : IPvXAddress) :
    address.equals unsetWords address = true := by
  cases address <;> simp [IPvXAddress.equals, IPvXAddress.firstWord]

theorem passes_of_fit (unconnected : sd.remotePort = 0)
    (fit : AddressesFit details sd) : passes stale details sd = true := by
  have locals :
      (sd.localAddr.isUnspecified ||
        sd.localAddr.equals (stale.localAddr sd.localAddr) details.localAddr) = true := by
    rw [Bool.or_eq_true, IPvXAddress.isUnspecified_iff]
    exact fit.1.imp_right fun same => by rw [← same, equals_self]
  have remotes :
      (sd.remoteAddr.isUnspecified ||
        sd.remoteAddr.equals (stale.remoteAddr sd.remoteAddr) details.remoteAddr) = true := by
    rw [Bool.or_eq_true, IPvXAddress.isUnspecified_iff]
    exact fit.2.imp_right fun same => by rw [← same, equals_self]
  rw [passes, matchesSocket, locals, remotes, unconnected]
  simp

/-- A socket that passes is unconnected, or connected to another port. -/
theorem remotePort_of_passes (plain : sd.onlyLocalPortIsSet = true → sd.remotePort = 0)
    (passed : passes stale details sd = true) :
    sd.remotePort = 0 ∨ sd.remotePort ≠ toShort details.remotePort := by
  simp only [passes, matchesSocket, Bool.or_eq_true, Bool.and_eq_true,
    beq_iff_eq, bne_iff_ne] at passed
  exact passed.elim (fun flag => .inl (plain flag)) fun tests => tests.1.1

theorem srcSocket_spec (found : Option SockDesc)
    (held : ∀ pointer ∈ list, ∃ sd, udp.heap pointer = some sd) :
    srcSocket udp.heap stale details list found =
      .ok (((list.filterMap udp.heap).filter (passes stale details)).getLast?.or found) := by
  induction list generalizing found with
  | nil => rfl
  | cons _ rest induction =>
    rw [List.forall_mem_cons] at held
    rcases held.1 with ⟨_, present⟩
    rw [srcSocket, present]
    dsimp only
    rw [induction _ held.2, List.filterMap_cons_some present, List.filter_cons]
    split_ifs with passed
    · rw [List.getLast?_cons]
      cases ((rest.filterMap udp.heap).filter (passes stale details)).getLast? <;> rfl
    · rfl

namespace Tables

section

variable (tables : Tables udp)
include tables

theorem mem_passing :
    sd ∈ passing udp stale details ↔
      (∃ pointer, udp.heap pointer = some sd) ∧
        sd.localPort = details.localPort ∧ passes stale details sd = true := by
  rw [passing, List.mem_filter, List.mem_filterMap, ← and_assoc]
  refine and_congr_left fun _ => ⟨?_, ?_⟩
  · rintro ⟨pointer, among, present⟩
    rw [tables.byPort.mem_getD, portOf, present] at among
    exact ⟨⟨pointer, present⟩, Option.some.inj among⟩
  · rintro ⟨⟨pointer, present⟩, port⟩
    refine ⟨pointer, ?_, present⟩
    rw [tables.byPort.mem_getD, portOf, present, ← port]
    rfl

theorem processICMPError_spec (msg : ErrorMessage) :
    processICMPError udp stale msg =
      .ok ((passing udp stale msg.details).getLast?.map fun sd =>
        sendUpErrorNotification sd msg.details.localAddr
          msg.details.remoteAddr (toShort msg.details.remotePort)) := by
  rw [processICMPError, passing]
  cases onPort : udp.socketsByPortMap msg.details.localPort with
  | none => rfl
  | some list =>
    have held : ∀ pointer ∈ list, ∃ sd, udp.heap pointer = some sd := by
      intro _ among
      rw [tables.byPort.mem_iff _ _ onPort, portOf, Option.map_eq_some_iff] at among
      exact among.imp fun sd both => both.1
    dsimp only
    rw [srcSocket_spec _ held, Option.or_none]
    rfl

theorem same_of_sockId (present : udp.heap left = some sd)
    (otherPresent : udp.heap right = some other)
    (same : sd.sockId = other.sockId) : sd = other := by
  have mapped := tables.byId _ _ present
  rw [same, tables.byId _ _ otherPresent] at mapped
  rw [← Option.some.inj mapped, otherPresent] at present
  exact (Option.some.inj present).symm

theorem passing_short (overflow : toShort details.localPort ≠ details.localPort) :
    passing udp stale details = [] := by
  rw [List.eq_nil_iff_forall_not_mem]
  intro _ among
  rcases tables.mem_passing.mp among with ⟨⟨_, present⟩, port, _⟩
  have short := tables.short _ _ present
  rw [port] at short
  exact overflow short

theorem notifiesRight_iff (msg : ErrorMessage) :
    NotifiesRight udp stale msg ↔ SingledOut udp stale msg.details := by
  rw [NotifiesRight, tables.processICMPError_spec]
  constructor
  · rintro ⟨notified, outcome, sound, complete⟩
    cases outcome
    have missed :
        passing udp stale msg.details = [] →
          ∀ pointer sd, udp.heap pointer = some sd → ¬ CouldHaveSent msg.details sd := by
      intro empty pointer sd present could
      have notified := complete ⟨pointer, sd, present, could⟩
      rw [empty] at notified
      cases notified
    refine ⟨fun sd last => ?_, ?_, ?_⟩
    · rcases tables.mem_passing.mp (List.mem_of_getLast? last) with ⟨⟨pointer, present⟩, _, passed⟩
      rw [last] at sound
      rcases sound _ rfl with ⟨_, _, otherPresent, sameId, could⟩
      rw [← tables.same_of_sockId present otherPresent sameId] at could
      have unconnected :=
        (remotePort_of_passes (fun flag => (tables.plain _ _ present flag).2.2)
          passed).elim id fun apart => could.2.1.elim id fun equal => absurd equal apart
      exact ⟨unconnected, could.2.2⟩
    · intro empty pointer sd present port fit equal
      exact absurd ⟨port, .inr equal, fit⟩ (missed empty pointer sd present)
    · intro overflow pointer sd present port fit unconnected
      exact missed (tables.passing_short overflow) pointer sd present ⟨port, .inl unconnected, fit⟩
  · intro singled
    refine ⟨_, rfl, ?_, ?_⟩
    · intro _ notified
      rcases Option.map_eq_some_iff.mp notified with ⟨sd, last, rfl⟩
      rcases tables.mem_passing.mp (List.mem_of_getLast? last) with ⟨⟨pointer, present⟩, port, _⟩
      rcases singled.last sd last with ⟨unconnected, fit⟩
      have short := tables.short pointer sd present
      rw [port] at short
      exact ⟨pointer, sd, present, rfl, port.trans short.symm, .inl unconnected, fit⟩
    · rintro ⟨pointer, sd, present, port, remotePort, fit⟩
      rw [Option.isSome_map, List.getLast?_isSome]
      intro empty
      have unconnected : sd.remotePort = 0 :=
        remotePort.elim id (singled.connected empty pointer sd present port fit)
      by_cases fits : toShort msg.details.localPort = msg.details.localPort
      · have among : sd ∈ passing udp stale msg.details :=
          tables.mem_passing.mpr ⟨⟨pointer, present⟩, port.trans fits,
            passes_of_fit unconnected fit⟩
        rw [empty] at among
        cases among
      · exact singled.unconnected fits pointer sd present port fit unconnected

end

end Tables

end Notifying

/--
After any commands, an ICMP error reaches the sockets that it is about exactly
if the last socket that passes the test is unconnected and fits, and if, when
none passes, none is connected to the remote port of the packet.
-/
theorem icmpError_notifies_iff {events : List Event} {world : World}
    (run : Run Step World.initial events world) (stale : Stale) (msg : ErrorMessage) :
    NotifiesRight world.udp stale msg ↔ SingledOut world.udp stale msg.details :=
  (Tables.of_run run).notifiesRight_iff _

/-! ### A connected socket -/

def unequal : Stale where
  localAddr := fun _ => false
  remoteAddr := fun _ => false

/-- The error about a packet from port 80 of the host. -/
def errorAbout (destinationPort : Int) : ErrorMessage :=
  .icmp hostAddress hostAddress { sourcePort := 80, destinationPort }

theorem icmpError_notifies_iff_bound :
    ∃ world,
      Run Step World.initial [.bind 0 0 (portSocket 1 80)] world ∧
        (NotifiesRight world.udp unequal (errorAbout 53) ↔
          SingledOut world.udp unequal (errorAbout 53).details) :=
  ⟨_, .next (.bind rfl rfl) (.idle _), icmpError_notifies_iff (.next (.bind rfl rfl) (.idle _)) _ _⟩

/-- The error about a packet of the only socket is ignored. -/
theorem icmpError_ignored :
    ¬ ∀ (events : List Event) (world : World) (stale : Stale) (msg : ErrorMessage),
        Run Step World.initial events world → NotifiesRight world.udp stale msg := by
  intro always
  rcases always [.bind 0 0 (portSocket 1 80),
      .connect 1 (.v4 hostAddress) 53] _ unequal (errorAbout 53)
      (.next (.bind rfl rfl) (.next (.connect rfl) (.idle _))) with
    ⟨notified, outcome, _, complete⟩
  have ignored : notified = none := by
    cases outcome
    rfl
  rw [ignored] at complete
  exact absurd (complete ⟨0, _, rfl, rfl, .inr rfl, .inl rfl, .inr rfl⟩) (by decide)

end OmnetDsi.Udp.PortTables
