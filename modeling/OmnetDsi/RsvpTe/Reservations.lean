import OmnetDsi.Contract.Addresses
import OmnetDsi.Library.Fallible
import OmnetDsi.Library.Transition
import Mathlib.Algebra.Order.Field.Rat

/-!
# Reservations of RSVP-TE

The reservation state blocks of a router and the unreserved bandwidths of its
own links.  What a commit puts into the LIB, and whom it tells, does not touch
the bandwidth; the labels that it gets are part of the event.
-/

namespace OmnetDsi.RsvpTe.Reservations

open OmnetDsi.Contract.Addresses (IPAddress)
open Library.Fallible Library.Transition

/-! ## State -/

/-- The holding priority is no worse than the setup priority. -/
structure SessionObj where
  DestAddress : IPAddress
  Tunnel_Id : Int
  Extended_Tunnel_Id : Int
  setupPri : Nat
  holdingPri : Nat
  ordered : holdingPri ≤ setupPri
  bounded : setupPri ≤ 7

/-- The priorities are no part of what identifies a session. -/
def SessionObj.same (session other : SessionObj) : Bool :=
  session.DestAddress = other.DestAddress &&
    session.Tunnel_Id = other.Tunnel_Id && session.Extended_Tunnel_Id = other.Extended_Tunnel_Id

structure SenderTemplateObj where
  SrcAddress : IPAddress
  Lsp_Id : Int
deriving DecidableEq

/-- A flow asks for some bandwidth. -/
structure FlowDescriptor where
  req_bandwidth : ℚ
  Filter_Spec_Object : SenderTemplateObj
  label : Int
  nonneg : 0 ≤ req_bandwidth

structure ResvStateBlock where
  id : Nat
  Session_Object : SessionObj
  Next_Hop_Address : IPAddress
  OI : IPAddress
  FlowDescriptor : List FlowDescriptor
  inLabelVector : List Int
  /-- The bandwidth of the `Flowspec_Object`. -/
  req_bandwidth : ℚ := 0
  /-- The commit timer is scheduled. -/
  commitTimer : Bool := false

/-- The bandwidths of a link, by priority from 0 to 7. -/
abbrev Bandwidths := Nat → ℚ

structure RSVP where
  UnResvBandwidth : IPAddress → Bandwidths
  RSBList : List ResvStateBlock
  maxRsbId : Nat

/-- The router's interfaces and their bandwidths. -/
structure Parameters where
  isLocalAddress : IPAddress → Bool
  MaxBandwidth : IPAddress → ℚ
  nonneg : ∀ OI, 0 ≤ MaxBandwidth OI

inductive Failure where
  | noRSB
  | notLocalAddress
  | filtersLeft
  | filterIndex
  | maxFlowIndex
  | outOfFuel
deriving DecidableEq

variable (par : Parameters)

/-! ## Bandwidth -/

/-- The block can be preempted at the priority. -/
def preemptible (OI : IPAddress) (priority : Nat) (it : ResvStateBlock) : Bool :=
  it.OI = OI && it.Session_Object.holdingPri = priority && !decide (it.req_bandwidth = 0)

/-- The bandwidth is free from the priority on. -/
def release (bandwidths : Bandwidths) (priority : Nat) (bandwidth : ℚ) : Bandwidths :=
  fun i => if priority ≤ i then bandwidths i + bandwidth else bandwidths i

/-- The loop of `preempt`, which ends when there is bandwidth enough. -/
def preempt (OI : IPAddress) (priority : Nat) :
    ℚ → Bandwidths → List ResvStateBlock → Bandwidths × List ResvStateBlock
  | _, bandwidths, [] => (bandwidths, [])
  | bandwidth, bandwidths, it :: rest =>
    if preemptible OI priority it then
      let bandwidths := release bandwidths priority it.req_bandwidth
      let left := bandwidth - it.req_bandwidth
      let it := { it with req_bandwidth := 0, commitTimer := true }
      if left ≤ 0 then (bandwidths, it :: rest)
      else
        let others := preempt OI priority left bandwidths rest
        (others.1, it :: others.2)
    else
      let others := preempt OI priority bandwidth bandwidths rest
      (others.1, it :: others.2)

/-- The bandwidth is taken at one priority. -/
def allocateAt (OI : IPAddress) (bandwidth : ℚ) (p : Nat)
    (bandwidths : Bandwidths) (RSBList : List ResvStateBlock) : Bandwidths × List ResvStateBlock :=
  let bandwidths := Function.update bandwidths p (bandwidths p - bandwidth)
  if bandwidths p < 0 then preempt OI p (-bandwidths p) bandwidths RSBList
  else (bandwidths, RSBList)

/-- The loop from a priority on, so many times. -/
def allocateLoop (OI : IPAddress) (bandwidth : ℚ) :
    Nat → Nat → Bandwidths → List ResvStateBlock → Bandwidths × List ResvStateBlock
  | 0, _, bandwidths, RSBList => (bandwidths, RSBList)
  | count + 1, p, bandwidths, RSBList =>
    let next := allocateAt OI bandwidth p bandwidths RSBList
    allocateLoop OI bandwidth count (p + 1) next.1 next.2

namespace RSVP

/-- `none` when there is not enough bandwidth. -/
def allocateResource (rsvp : RSVP) (OI : IPAddress) (session : SessionObj)
    (bandwidth : ℚ) : Option RSVP :=
  if OI.isUnspecified then some rsvp
  else if !par.isLocalAddress OI then some rsvp
  else if bandwidth = 0 then some rsvp
  else if rsvp.UnResvBandwidth OI session.setupPri < bandwidth then none
  else
    let next := allocateLoop OI bandwidth (8 - session.holdingPri)
      session.holdingPri (rsvp.UnResvBandwidth OI) rsvp.RSBList
    some
      { rsvp with
        UnResvBandwidth := Function.update rsvp.UnResvBandwidth OI next.1
        RSBList := next.2 }

/-! ## State blocks -/

def findRsbById (rsvp : RSVP) (id : Nat) : Option ResvStateBlock :=
  rsvp.RSBList.find? (·.id = id)

/-- What happens to a block through its pointer. -/
def modify (rsvp : RSVP) (id : Nat) (change : ResvStateBlock → ResvStateBlock) : RSVP :=
  { rsvp with RSBList := rsvp.RSBList.map fun it => if it.id = id then change it else it }

def scheduleCommitTimer (rsb : ResvStateBlock) : ResvStateBlock :=
  { rsb with commitTimer := true }

/-- The filter and its label are erased. -/
def eraseFilter (index : Nat) (rsb : ResvStateBlock) : ResvStateBlock :=
  { rsb with
    FlowDescriptor := rsb.FlowDescriptor.eraseIdx index
    inLabelVector := rsb.inLabelVector.eraseIdx index }

def removeRsbFilter (rsvp : RSVP) (rsb : ResvStateBlock) (index : Nat) : Except Failure RSVP :=
  if index < rsb.FlowDescriptor.length then
    .ok (rsvp.modify rsb.id fun rsb => scheduleCommitTimer (eraseFilter index rsb))
  else .error .filterIndex

/-- What the block has reserved is free again. -/
def deallocate (rsvp : RSVP) (rsb : ResvStateBlock) : RSVP :=
  if rsb.req_bandwidth > 0 then
    (rsvp.allocateResource par rsb.OI rsb.Session_Object (-rsb.req_bandwidth)).getD rsvp
  else rsvp

def removeRSB (rsvp : RSVP) (rsb : ResvStateBlock) : Except Failure RSVP :=
  if rsb.FlowDescriptor ≠ [] then .error .filtersLeft
  else
    let rsvp := rsvp.deallocate par rsb
    .ok { rsvp with RSBList := rsvp.RSBList.eraseP (·.id = rsb.id) }

/-! ## Commits -/

/-- The largest flow so far and its index. -/
def maxFlow : List FlowDescriptor → Nat → ℚ × Option Nat → ℚ × Option Nat
  | [], _, most => most
  | flow :: rest, i, most =>
    maxFlow rest (i + 1)
      (if flow.req_bandwidth > most.1 then (flow.req_bandwidth, some i) else most)

/-- The labels are installed, and backups that merge are committed. -/
def install (rsvp : RSVP) (rsb : ResvStateBlock) (labels : List Int) : RSVP :=
  let rsvp := rsvp.modify rsb.id fun rsb => { rsb with inLabelVector := labels }
  { rsvp with
    RSBList := rsvp.RSBList.map fun it =>
      if rsb.FlowDescriptor.any (fun flow =>
          it.OI = ⟨BitVec.ofInt 32 flow.Filter_Spec_Object.Lsp_Id⟩) then
        scheduleCommitTimer it
      else it }

/-- The loop of `commitResv`, which drops flows until the rest fits. -/
def commitLoop (labels : List Int) : Nat → RSVP → ResvStateBlock → Except Failure RSVP
  | 0, _, _ => .error .outOfFuel
  | fuel + 1, rsvp, rsb =>
    if rsb.FlowDescriptor = [] then rsvp.removeRSB par rsb
    else
      let req := maxFlow rsb.FlowDescriptor 0 (0, none)
      let needed := req.1 - rsb.req_bandwidth
      if needed = 0 then .ok (rsvp.install rsb labels)
      else
        match rsvp.allocateResource par rsb.OI rsb.Session_Object needed with
        | some rsvp =>
          let rsvp := rsvp.modify rsb.id fun rsb =>
            { rsb with req_bandwidth := rsb.req_bandwidth + needed }
          .ok (rsvp.install rsb labels)
        | none =>
          match req.2 with
          | none => .error .maxFlowIndex
          | some maxFlowIndex =>
            commitLoop labels fuel (rsvp.modify rsb.id (eraseFilter maxFlowIndex))
              (eraseFilter maxFlowIndex rsb)

def commitResv (rsvp : RSVP) (rsb : ResvStateBlock) (labels : List Int) : Except Failure RSVP :=
  commitLoop par labels (rsb.FlowDescriptor.length + 1) rsvp rsb

/-! ## Messages -/

def createRSB (rsvp : RSVP) (session : SessionObj) (NHOP LIH : IPAddress)
    (flows : List FlowDescriptor) : RSVP :=
  { rsvp with
    maxRsbId := rsvp.maxRsbId + 1
    RSBList := rsvp.RSBList ++
      [{ id := rsvp.maxRsbId + 1
         Session_Object := session
         Next_Hop_Address := NHOP
         OI := LIH
         FlowDescriptor := flows
         inLabelVector := flows.map fun _ => -1
         commitTimer := true }] }

/-- A flow of the message is known, or is added. -/
def updateFlow (rsb : ResvStateBlock) (flow : FlowDescriptor) : ResvStateBlock :=
  match rsb.FlowDescriptor.findIdx? (·.Filter_Spec_Object = flow.Filter_Spec_Object) with
  | some m =>
    if rsb.FlowDescriptor[m]?.any (·.label ≠ flow.label) then
      scheduleCommitTimer
        { rsb with
          FlowDescriptor := rsb.FlowDescriptor.modify m fun known =>
            { known with label := flow.label } }
    else rsb
  | none =>
    scheduleCommitTimer
      { rsb with
        FlowDescriptor := rsb.FlowDescriptor ++ [flow]
        inLabelVector := rsb.inLabelVector ++ [-1] }

def updateRSB (rsb : ResvStateBlock) (flows : List FlowDescriptor) : ResvStateBlock :=
  flows.foldl updateFlow rsb

/-- The flows of the message that have a path state block. -/
def processResvMsg (rsvp : RSVP) (session : SessionObj) (NHOP LIH : IPAddress)
    (flows : List FlowDescriptor) : RSVP :=
  if flows.isEmpty then rsvp
  else
    match rsvp.RSBList.find? fun it =>
        session.same it.Session_Object && it.Next_Hop_Address = NHOP && it.OI = LIH with
    | none => rsvp.createRSB session NHOP LIH flows
    | some rsb => rsvp.modify rsb.id fun rsb => updateRSB rsb flows

/-- The block of a sender and the index of its filter. -/
def findRSB (rsvp : RSVP) (session : SessionObj) (sender : SenderTemplateObj) :
    Option (ResvStateBlock × Nat) :=
  rsvp.RSBList.findSome? fun it =>
    if it.Session_Object.same session then
      (it.FlowDescriptor.findIdx? (·.Filter_Spec_Object = sender)).map fun index => (it, index)
    else none

/-- What the removal of a path state block does to the reservations. -/
def removePSB (rsvp : RSVP) (session : SessionObj)
    (sender : SenderTemplateObj) : Except Failure RSVP :=
  match rsvp.findRSB session sender with
  | some (rsb, filterIndex) => rsvp.removeRsbFilter rsb filterIndex
  | none => .ok rsvp

/-- The loop that removes the first filter while the index is in range. -/
def removeFilters : Nat → Nat → RSVP → ResvStateBlock → Except Failure (RSVP × ResvStateBlock)
  | 0, _, rsvp, rsb => .ok (rsvp, rsb)
  | fuel + 1, i, rsvp, rsb =>
    if i < rsb.FlowDescriptor.length then do
      let rsvp ← rsvp.removeRsbFilter rsb 0
      removeFilters fuel (i + 1) rsvp (scheduleCommitTimer (eraseFilter 0 rsb))
    else .ok (rsvp, rsb)

def processRSB_TIMEOUT (rsvp : RSVP) (id : Nat) : Except Failure RSVP :=
  match rsvp.findRsbById id with
  | none => .error .noRSB
  | some rsb =>
    if !par.isLocalAddress rsb.OI then .error .notLocalAddress
    else do
      let left ← removeFilters rsb.FlowDescriptor.length 0 rsvp rsb
      left.1.removeRSB par left.2

def processRSB_COMMIT_TIMER (rsvp : RSVP) (id : Nat) (labels : List Int) : Except Failure RSVP :=
  match rsvp.findRsbById id with
  | none => .error .noRSB
  | some rsb =>
    (rsvp.modify id fun rsb => { rsb with commitTimer := false }).commitResv
      par { rsb with commitTimer := false } labels

end RSVP

/-! ## Runs -/

inductive Event where
  /-- A message, with the flows that have a path state block. -/
  | RESV_MESSAGE (session : SessionObj) (NHOP LIH : IPAddress) (flows : List FlowDescriptor)
  | RSB_COMMIT_TIMER (id : Nat) (labels : List Int)
  | RSB_TIMEOUT (id : Nat)
  /-- A path state block is removed. -/
  | removePSB (session : SessionObj) (sender : SenderTemplateObj)

def handle (rsvp : RSVP) : Event → Except Failure RSVP
  | .RESV_MESSAGE session NHOP LIH flows => .ok (rsvp.processResvMsg session NHOP LIH flows)
  | .RSB_COMMIT_TIMER id labels => rsvp.processRSB_COMMIT_TIMER par id labels
  | .RSB_TIMEOUT id => rsvp.processRSB_TIMEOUT par id
  | .removePSB session sender => rsvp.removePSB session sender

def Step (rsvp : RSVP) (event : Event) (next : RSVP) : Prop :=
  handle par rsvp event = .ok next

/-- Nothing is reserved. -/
def start : RSVP where
  UnResvBandwidth OI := fun _ => par.MaxBandwidth OI
  RSBList := []
  maxRsbId := 0

end OmnetDsi.RsvpTe.Reservations
