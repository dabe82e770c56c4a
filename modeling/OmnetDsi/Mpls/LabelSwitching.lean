import OmnetDsi.Library.Transition
import OmnetDsi.Mpls.LabelTable

/-!
# Label switching

The MPLS module of a router, and a packet on its way through a network of
them.  Packets do not depend on one another, so that the way of one says what
happens in any order of events, and the tables may change between two hops.
A failed assertion and the use of a null pointer leave no result.  The lengths
of packets and the colors, which only traces read, are left out; the classifier
is LDP or RSVP-TE.
-/

namespace OmnetDsi.Mpls.LabelSwitching

open Library.Transition Mpls.LabelTable

/-! ## One router -/

/-- The labels from the top of the stack on. -/
structure MPLSPacket (IPDatagram : Type) where
  labels : List Int
  encapsulated : IPDatagram

inductive Message (IPDatagram : Type) where
  | mpls (mplsPacket : MPLSPacket IPDatagram)
  | ip (ipdatagram : IPDatagram)

/-- Without a label the datagram is decapsulated. -/
def Message.of (labels : List Int) (ipdatagram : IPDatagram) : Message IPDatagram :=
  if labels = [] then .ip ipdatagram else .mpls ⟨labels, ipdatagram⟩

structure InterfaceEntry where
  name : String
  networkLayerGateIndex : Int

structure MPLS (IPDatagram : Type) where
  lt : LIBTable
  ift : List InterfaceEntry
  /-- The operations and the interface for a datagram. -/
  lookupLabel : IPDatagram → Option (List LabelOp × String)

/-- Where a message goes. -/
inductive Output (IPDatagram : Type) where
  | ifOut (msg : Message IPDatagram) (gateIndex : Int)
  | netwOut (ipdatagram : IPDatagram) (gateIndex : Int)
  | discarded (ipdatagram : IPDatagram)

/-- The empty name stands for any interface. -/
def resolveLabel (lt : LIBTable) (inInterface : String) (inLabel : Int) : Option LIBEntry :=
  lt.lib.find? fun entry =>
    (inInterface.length = 0 || entry.inInterface = inInterface) && entry.inLabel = inLabel

def stackOp : List Int → LabelOp → Option (List Int)
  | labels, ⟨.PUSH_OPER, label⟩ => some (label :: labels)
  | _ :: below, ⟨.SWAP_OPER, label⟩ => some (label :: below)
  | _ :: below, ⟨.POP_OPER, _⟩ => some below
  | [], _ => none

def doStackOps (labels : List Int) (outLabel : List LabelOp) : Option (List Int) :=
  outLabel.foldlM stackOp labels

namespace MPLS

variable (mpls : MPLS IPDatagram)

def getInterfaceByName (name : String) : Option InterfaceEntry :=
  mpls.ift.find? fun ie => ie.name = name

def getInterfaceByNetworkLayerGateIndex (index : Int) : Option InterfaceEntry :=
  mpls.ift.find? fun ie => ie.networkLayerGateIndex = index

def tryLabelAndForwardIPDatagram (ipdatagram : IPDatagram) : Option (Option (Output IPDatagram)) :=
  match mpls.lookupLabel ipdatagram with
  | none => some none
  | some (outLabel, outInterface) =>
    if outLabel = [] then none
    else do
      let ie ← mpls.getInterfaceByName outInterface
      let labels ← doStackOps [] outLabel
      some (some (.ifOut (.of labels ipdatagram) ie.networkLayerGateIndex))

/-- A datagram of the host itself; `labelAndForwardIPDatagram` does the same. -/
def processPacketFromL3 (ipdatagram : IPDatagram) (gateIndex : Int) :
    Option (Output IPDatagram) := do
  let labelled ← mpls.tryLabelAndForwardIPDatagram ipdatagram
  some (labelled.getD (.ifOut (.ip ipdatagram) gateIndex))

/-- The label -1 stands for a native datagram. -/
def processMPLSPacketFromL2 (mplsPacket : MPLSPacket IPDatagram) (gateIndex : Int) :
    Option (Output IPDatagram) := do
  let ie ← mpls.getInterfaceByNetworkLayerGateIndex gateIndex
  let oldLabel ← mplsPacket.labels.head?
  if oldLabel = -1 then some (.netwOut mplsPacket.encapsulated gateIndex)
  else
    match resolveLabel mpls.lt ie.name oldLabel with
    | none => some (.discarded mplsPacket.encapsulated)
    | some entry => do
      let out ← mpls.getInterfaceByName entry.outInterface
      let labels ← doStackOps mplsPacket.labels entry.outLabel
      if labels = [] ∧ out.networkLayerGateIndex = -1 then
        some (.netwOut mplsPacket.encapsulated gateIndex)
      else some (.ifOut (.of labels mplsPacket.encapsulated) out.networkLayerGateIndex)

def processPacketFromL2 (gateIndex : Int) : Message IPDatagram → Option (Output IPDatagram)
  | .mpls mplsPacket => mpls.processMPLSPacketFromL2 mplsPacket gateIndex
  | .ip ipdatagram => do
    let labelled ← mpls.tryLabelAndForwardIPDatagram ipdatagram
    some (labelled.getD (.netwOut ipdatagram gateIndex))

end MPLS

/-! ## A network -/

structure Network (Node IPDatagram : Type) where
  mpls : Node → MPLS IPDatagram
  /-- The router and the gate that a gate is connected to. -/
  wire : Node → Int → Option (Node × Int)

/-- A message in front of a gate of a router. -/
structure Arrival (Node IPDatagram : Type) where
  place : Node × Int
  msg : Message IPDatagram

def serve (network : Network Node IPDatagram) (arrival : Arrival Node IPDatagram) :
    Option (Output IPDatagram) :=
  (network.mpls arrival.place.1).processPacketFromL2 arrival.place.2 arrival.msg

/-- The next router has the message. -/
def Hop (arrival : Arrival Node IPDatagram) (network : Network Node IPDatagram)
    (next : Arrival Node IPDatagram) : Prop :=
  ∃ port, serve network arrival = some (.ifOut next.msg port) ∧
    network.wire arrival.place.1 port = some next.place

/-- The datagram is the one that was sent, and a labelled packet has a label. -/
def Message.Carries (ipdatagram : IPDatagram) : Message IPDatagram → Prop
  | .mpls mplsPacket => mplsPacket.encapsulated = ipdatagram ∧ mplsPacket.labels ≠ []
  | .ip other => other = ipdatagram

def Output.Carries (ipdatagram : IPDatagram) : Output IPDatagram → Prop
  | .ifOut msg _ => msg.Carries ipdatagram
  | .netwOut other _ => other = ipdatagram
  | .discarded other => other = ipdatagram

/--
The tables name interfaces that there are; an entry takes away no label but
its own, and what classifies a datagram puts labels on it.
-/
structure Sound (mpls : MPLS IPDatagram) : Prop where
  table : ∀ entry ∈ mpls.lt.lib, (∀ label, (doStackOps [label] entry.outLabel).isSome) ∧
    (mpls.getInterfaceByName entry.outInterface).isSome
  classifier : ∀ ipdatagram label, mpls.lookupLabel ipdatagram = some label →
    label.1 ≠ [] ∧ (doStackOps [] label.1).isSome ∧ (mpls.getInterfaceByName label.2).isSome

/-! ## What a router does -/

theorem carries_of (labels : List Int) (ipdatagram : IPDatagram) :
    (Message.of labels ipdatagram).Carries ipdatagram := by
  unfold Message.of
  split_ifs with empty
  · rfl
  · exact ⟨rfl, empty⟩

theorem doStackOps_append {outLabel : List LabelOp} (done : doStackOps labels outLabel = some new)
    (below : List Int) : doStackOps (labels ++ below) outLabel = some (new ++ below) := by
  unfold doStackOps at *
  induction outLabel generalizing labels with
  | nil =>
    cases done
    rfl
  | cons op rest induction =>
    rw [List.foldlM_cons] at done ⊢
    rcases Option.bind_eq_some_iff.mp done with ⟨middle, first, later⟩
    refine Option.bind_eq_some_iff.mpr ⟨middle ++ below, ?_, induction later⟩
    rcases op with ⟨optcode, label⟩
    cases optcode <;> cases labels <;> cases first <;> rfl

variable {mpls : MPLS IPDatagram} {network : Network Node IPDatagram}
  {arrival : Arrival Node IPDatagram} {output : Output IPDatagram}

theorem tryLabelAndForwardIPDatagram_carries
    (tried : mpls.tryLabelAndForwardIPDatagram ipdatagram = some (some output)) :
    output.Carries ipdatagram := by
  unfold MPLS.tryLabelAndForwardIPDatagram at tried
  split at tried
  · cases tried
  · split_ifs at tried
    rcases Option.bind_eq_some_iff.mp tried with ⟨_, _, tried⟩
    rcases Option.bind_eq_some_iff.mp tried with ⟨_, _, tried⟩
    cases tried
    exact carries_of _ _

theorem serve_carries (carries : arrival.msg.Carries ipdatagram)
    (served : serve network arrival = some output) : output.Carries ipdatagram := by
  rcases arrival with ⟨place, _ | _⟩
  · cases carries.1
    rcases Option.bind_eq_some_iff.mp served with ⟨_, _, served⟩
    rcases Option.bind_eq_some_iff.mp served with ⟨_, _, served⟩
    split_ifs at served
    · cases served
      rfl
    · split at served
      · cases served
        rfl
      · rcases Option.bind_eq_some_iff.mp served with ⟨_, _, served⟩
        rcases Option.bind_eq_some_iff.mp served with ⟨_, _, served⟩
        split_ifs at served
        · cases served
          rfl
        · cases served
          exact carries_of _ _
  · cases carries
    rcases Option.bind_eq_some_iff.mp served with ⟨labelled, tried, served⟩
    cases served
    cases labelled with
    | none => rfl
    | some _ => exact tryLabelAndForwardIPDatagram_carries tried

theorem serve_isSome (carries : arrival.msg.Carries ipdatagram)
    (sound : Sound (network.mpls arrival.place.1))
    (known : ((network.mpls arrival.place.1).getInterfaceByNetworkLayerGateIndex
      arrival.place.2).isSome) :
    ∃ output, serve network arrival = some output := by
  rcases arrival with ⟨⟨node, gateIndex⟩, ⟨labels, _⟩ | datagram⟩
  · rcases Option.isSome_iff_exists.mp known with ⟨ie, found⟩
    cases labels with
    | nil => exact absurd rfl carries.2
    | cons oldLabel below =>
      dsimp only [serve, MPLS.processPacketFromL2, MPLS.processMPLSPacketFromL2]
      rw [found]
      dsimp only [List.head?_cons, Option.bind_eq_bind, Option.bind_some]
      split_ifs
      · exact ⟨_, rfl⟩
      · split
        · exact ⟨_, rfl⟩
        case h_2 entry resolved =>
          have own := sound.table entry (List.mem_of_find?_eq_some resolved)
          rcases Option.isSome_iff_exists.mp (own.1 oldLabel) with ⟨new, done⟩
          rcases Option.isSome_iff_exists.mp own.2 with ⟨out, named⟩
          have whole := doStackOps_append done below
          rw [List.singleton_append] at whole
          rw [named, whole]
          dsimp only [Option.bind_some]
          split_ifs
          all_goals exact ⟨_, rfl⟩
  · dsimp only [serve, MPLS.processPacketFromL2, MPLS.tryLabelAndForwardIPDatagram]
    cases found : (network.mpls node).lookupLabel datagram with
    | none => exact ⟨_, rfl⟩
    | some label =>
      rcases sound.classifier _ _ found with ⟨some, done, named⟩
      rcases Option.isSome_iff_exists.mp done with ⟨labels, done⟩
      rcases Option.isSome_iff_exists.mp named with ⟨out, named⟩
      dsimp only
      rw [if_neg some, named, done]
      exact ⟨_, rfl⟩

/--
Wherever a datagram has come to, it is the one that was sent, and a packet
with labels has not lost the last one; a sound router that knows the interface
can go on with it, and does not change it.
-/
theorem datagram_carried (run : Run Hop ⟨place, .ip ipdatagram⟩ networks arrival) :
    arrival.msg.Carries ipdatagram ∧
      ∀ network : Network Node IPDatagram, Sound (network.mpls arrival.place.1) →
        ((network.mpls arrival.place.1).getInterfaceByNetworkLayerGateIndex
          arrival.place.2).isSome →
          ∃ output, serve network arrival = some output ∧ output.Carries ipdatagram := by
  have carries : arrival.msg.Carries ipdatagram := by
    let property := fun arrival : Arrival Node IPDatagram => arrival.msg.Carries ipdatagram
    refine @Run.invariant _ _ _ property ?_ _ _ _ run rfl
    rintro _ _ _ carries ⟨_, served, _⟩
    exact serve_carries carries served
  refine ⟨carries, fun network sound known => ?_⟩
  rcases serve_isSome carries sound known with ⟨output, served⟩
  exact ⟨output, served, serve_carries carries served⟩

/-! ## Label switched paths -/

/--
The labels lead from one place to the other, where they are used up.  An entry
may put several labels in the place of its own.
-/
inductive Leads (network : Network Node IPDatagram) :
    Node × Int → List Int → Node × Int → Prop where
  | there (place : Node × Int) : Leads network place [] place
  | switch {node : Node} {gateIndex label : Int} {labels new : List Int} {ie out : InterfaceEntry}
      {entry : LIBEntry} {next last : Node × Int} (native : label ≠ -1)
      (sender : (network.mpls node).getInterfaceByNetworkLayerGateIndex gateIndex = some ie)
      (resolved : resolveLabel (network.mpls node).lt ie.name label = some entry)
      (named : (network.mpls node).getInterfaceByName entry.outInterface = some out)
      (outside : out.networkLayerGateIndex ≠ -1)
      (done : doStackOps [label] entry.outLabel = some new)
      (wire : network.wire node out.networkLayerGateIndex = some next)
      (further : Leads network next (new ++ labels) last) :
      Leads network (node, gateIndex) (label :: labels) last

theorem Leads.run (leads : Leads network place labels last) (below : List Int)
    (ipdatagram : IPDatagram) :
    ∃ hops, Run Hop ⟨place, .of (labels ++ below) ipdatagram⟩ (List.replicate hops network)
      ⟨last, .of below ipdatagram⟩ := by
  induction leads with
  | there place => exact ⟨0, .idle _⟩
  | @switch node gateIndex label labels new ie out entry _ _ native sender resolved named outside
      done wire _ induction =>
    rcases induction with ⟨hops, run⟩
    refine ⟨hops + 1, .next ⟨out.networkLayerGateIndex, ?_, wire⟩ run⟩
    have whole := doStackOps_append done (labels ++ below)
    rw [List.singleton_append, ← List.append_assoc] at whole
    dsimp only [serve, Message.of, MPLS.processPacketFromL2]
    rw [List.cons_append, if_neg (List.cons_ne_nil _ _)]
    simp [MPLS.processMPLSPacketFromL2, sender, native, resolved, named, whole, outside, Message.of]

variable {outLabel : List LabelOp} {outInterface : String} {out : InterfaceEntry}
  {next : Node × Int}

/--
What a router labels, its own datagram or one that arrives, gets to where its
labels lead, through any number of routers, and has there only the labels
below, in their order.
-/
theorem labelled_delivered {ipdatagram : IPDatagram}
    (classified : (network.mpls ingress).lookupLabel ipdatagram = some (outLabel, outInterface))
    (operations : outLabel ≠ [])
    (named : (network.mpls ingress).getInterfaceByName outInterface = some out)
    (done : doStackOps [] outLabel = some (labels ++ below))
    (wire : network.wire ingress out.networkLayerGateIndex = some next)
    (leads : Leads network next labels last) (gateIndex : Int) :
    (network.mpls ingress).processPacketFromL3 ipdatagram gateIndex =
        serve network ⟨(ingress, gateIndex), .ip ipdatagram⟩ ∧
      ∃ hops, Run Hop ⟨(ingress, gateIndex), .ip ipdatagram⟩ (List.replicate hops network)
        ⟨last, .of below ipdatagram⟩ := by
  have tried : (network.mpls ingress).tryLabelAndForwardIPDatagram ipdatagram =
      some (some (.ifOut (.of (labels ++ below) ipdatagram) out.networkLayerGateIndex)) := by
    simp [MPLS.tryLabelAndForwardIPDatagram, classified, operations, named, done]
  rcases leads.run below ipdatagram with ⟨hops, run⟩
  refine ⟨?_, hops + 1, .next ⟨out.networkLayerGateIndex, ?_, wire⟩ run⟩
  · simp [serve, MPLS.processPacketFromL3, MPLS.processPacketFromL2, tried]
  · simp [serve, MPLS.processPacketFromL2, tried]

/-! ## A line of routers -/

/-- The datagram gets the labels 7 and 9, of which 7 becomes 8 and is then taken away. -/
def router : MPLS Unit where
  lt := ⟨8, [LIBTable.entry 7 "ppp0" (swapLabel 8) "ppp1" 0,
    LIBTable.entry 8 "ppp0" popLabel "ppp1" 0]⟩
  ift := [⟨"ppp0", 0⟩, ⟨"ppp1", 1⟩]
  lookupLabel _ := some (pushLabel 9 ++ pushLabel 7, "ppp1")

def line : Network Nat Unit where
  mpls _ := router
  wire node port := if port = 1 then some (node + 1, 0) else none

theorem router_sound : Sound router where
  table := by
    rintro entry (_ | ⟨_, _ | ⟨_, _ | _⟩⟩)
    all_goals exact ⟨fun _ => rfl, rfl⟩
  classifier := by
    rintro _ _ ⟨⟩
    exact ⟨nofun, rfl, rfl⟩

theorem datagram_carried_one :
    ∃ output, serve line ⟨(1, 0), .mpls ⟨[7, 9], ()⟩⟩ = some output ∧ output.Carries () := by
  have run : Run Hop ⟨(0, 0), .ip ()⟩ [line] ⟨(1, 0), .mpls ⟨[7, 9], ()⟩⟩ :=
    .next ⟨1, rfl, rfl⟩ (.idle _)
  exact (datagram_carried run).2 line router_sound rfl

theorem labelled_delivered_three :
    ∃ hops, Run Hop ⟨(0, 0), .ip ()⟩ (List.replicate hops line) ⟨(3, 0), .mpls ⟨[9], ()⟩⟩ := by
  have leads : Leads line (1, 0) [7] (3, 0) :=
    .switch nofun rfl rfl rfl nofun rfl rfl (.switch nofun rfl rfl rfl nofun rfl rfl (.there _))
  have classified : (line.mpls 0).lookupLabel () = some (pushLabel 9 ++ pushLabel 7, "ppp1") := rfl
  have done : doStackOps [] (pushLabel 9 ++ pushLabel 7) = some ([7] ++ [9]) := rfl
  exact (labelled_delivered classified nofun rfl done rfl leads 0).2

end OmnetDsi.Mpls.LabelSwitching
