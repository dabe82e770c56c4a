import OmnetDsi.RsvpTe.Reservations
import Mathlib.Data.List.Nodup
import Mathlib.Tactic.Linarith
import Mathlib.Tactic.Ring

/-!
# The unreserved bandwidth of a link

The unreserved bandwidth at a priority is what the reservations held at this
priority or a better one leave.  Taking bandwidth at a priority falls short by
no more than what is reserved at that very priority, because the one before
had enough; and up to the setup priority nothing falls short.
-/

namespace OmnetDsi.RsvpTe.BandwidthAccounting

open OmnetDsi.Contract.Addresses (IPAddress)
open Library.Fallible Library.Transition RsvpTe.Reservations List Function

/-! ## What is to hold -/

/-- What is reserved on the interface at the priority or a better one. -/
def reserved (OI : IPAddress) (p : Nat) : List ResvStateBlock → ℚ
  | [] => 0
  | it :: rest =>
    (if it.OI = OI ∧ it.Session_Object.holdingPri ≤ p then it.req_bandwidth
      else 0) + reserved OI p rest

/-- A local interface with an address. -/
def Link (par : Parameters) (OI : IPAddress) : Prop :=
  OI.isUnspecified = false ∧ par.isLocalAddress OI = true

/-- The unreserved bandwidths are what the reservations leave. -/
def Accounted (par : Parameters) (rsvp : RSVP) : Prop :=
  ∀ OI p, Link par OI → p ≤ 7 →
    rsvp.UnResvBandwidth OI p = par.MaxBandwidth OI - reserved OI p rsvp.RSBList

/--
A reservation changes with its own commit only, or goes for the commit of one
with a better setup priority on the same interface.
-/
def FairPreemption (rsvp : RSVP) (event : Event) (next : RSVP) : Prop :=
  ∀ it ∈ rsvp.RSBList, ∀ later ∈ next.RSBList, later.id = it.id →
    later.req_bandwidth ≠ it.req_bandwidth →
      ∃ id labels rsb, event = .RSB_COMMIT_TIMER id labels ∧
        rsvp.findRsbById id = some rsb ∧
          (it.id = id ∨
            later.req_bandwidth = 0 ∧ rsb.OI = it.OI ∧
              rsb.Session_Object.setupPri < it.Session_Object.holdingPri)

/-! ## Sums -/

/-- What is reserved at exactly the priority. -/
def reservedAt (OI : IPAddress) (p : Nat) : List ResvStateBlock → ℚ
  | [] => 0
  | it :: rest =>
    (if it.OI = OI ∧ it.Session_Object.holdingPri = p then it.req_bandwidth
      else 0) + reservedAt OI p rest

/-- No reservation is negative. -/
def NonNegative (RSBList : List ResvStateBlock) : Prop :=
  ∀ it ∈ RSBList, 0 ≤ it.req_bandwidth

variable {RSBList : List ResvStateBlock}

section Sums

variable {OI : IPAddress} {it : ResvStateBlock} {rest : List ResvStateBlock}

theorem NonNegative.head (nonneg : NonNegative (it :: rest)) : 0 ≤ it.req_bandwidth :=
  nonneg _ mem_cons_self

theorem NonNegative.tail (nonneg : NonNegative (it :: rest)) : NonNegative rest :=
  fun other member => nonneg _ (mem_cons_of_mem _ member)

theorem reserved_succ (OI : IPAddress) (p : Nat) (RSBList : List ResvStateBlock) :
    reserved OI (p + 1) RSBList = reserved OI p RSBList + reservedAt OI (p + 1) RSBList := by
  induction RSBList with
  | nil => exact (add_zero _).symm
  | cons it _ induction =>
    unfold reserved reservedAt
    rw [induction]
    by_cases here : it.OI = OI
    · by_cases better : it.Session_Object.holdingPri ≤ p
      · rw [if_pos ⟨here, by omega⟩, if_pos ⟨here, better⟩, if_neg (fun both => by omega)]
        ring
      · by_cases exactly : it.Session_Object.holdingPri = p + 1
        · rw [if_pos ⟨here, by omega⟩, if_neg (fun both => better both.2), if_pos ⟨here, exactly⟩]
          ring
        · rw [if_neg (fun both => by omega), if_neg (fun both => better both.2),
            if_neg (fun both => exactly both.2)]
          ring
    · rw [if_neg (fun both => here both.1), if_neg (fun both => here both.1),
        if_neg (fun both => here both.1)]
      ring

theorem reserved_mono (OI : IPAddress) {p q : Nat} (le : p ≤ q)
    (nonneg : NonNegative RSBList) : reserved OI p RSBList ≤ reserved OI q RSBList := by
  induction RSBList with
  | nil => exact le_refl _
  | cons _ _ induction =>
    have others := induction nonneg.tail
    have here := nonneg.head
    unfold reserved
    split
    case isTrue better =>
      rw [if_pos ⟨better.1, better.2.trans le⟩]
      linarith
    case isFalse =>
      split
      all_goals linarith

end Sums

/-! ## Preemption -/

/-- The block lost its reservation. -/
def lose (it : ResvStateBlock) : ResvStateBlock :=
  { it with req_bandwidth := 0, commitTimer := true }

/-- The block is as it was, or lost its reservation at such a priority. -/
def MayLose (OI : IPAddress) (worse : Nat → Prop) (it later : ResvStateBlock) : Prop :=
  later = it ∨ (it.OI = OI ∧ worse it.Session_Object.holdingPri ∧ later = lose it)

theorem release_release (bandwidths : Bandwidths) (priority : Nat) (one other : ℚ) :
    release (release bandwidths priority one) priority other =
      release bandwidths priority (one + other) := by
  funext i
  unfold release
  split
  · ring
  · rfl

/-- What the loop of `preempt` frees. -/
structure Frees (OI : IPAddress) (priority : Nat) (bandwidth : ℚ)
    (bandwidths : Bandwidths) (before : List ResvStateBlock)
    (after : Bandwidths × List ResvStateBlock) (freed : ℚ) : Prop where
  enough : bandwidth ≤ freed
  bandwidths : after.1 = release bandwidths priority freed
  blocks : Forall₂ (MayLose OI (· = priority)) before after.2
  sums : ∀ other p, reserved other p after.2 =
    reserved other p before - (if other = OI ∧ priority ≤ p then freed else 0)

theorem mayLose_refl (OI : IPAddress) (worse : Nat → Prop) (RSBList : List ResvStateBlock) :
    Forall₂ (MayLose OI worse) RSBList RSBList := by
  induction RSBList with
  | nil => exact .nil
  | cons _ _ induction => exact .cons (.inl rfl) induction

theorem reserved_lose (OI other : IPAddress) (p : Nat) {it : ResvStateBlock}
    (here : it.OI = OI) (rest : List ResvStateBlock) :
    reserved other p (lose it :: rest) =
      reserved other p (it :: rest) -
        (if other = OI ∧ it.Session_Object.holdingPri ≤ p then
          it.req_bandwidth else 0) := by
  unfold reserved lose
  rw [ite_self, here]
  by_cases same : OI = other
  · by_cases better : it.Session_Object.holdingPri ≤ p
    · rw [if_pos ⟨same, better⟩, if_pos ⟨same.symm, better⟩]
      ring
    · rw [if_neg (fun both => better both.2), if_neg (fun both => better both.2)]
      ring
  · rw [if_neg (fun both => same both.1), if_neg (fun both => same both.1.symm)]
    ring

variable {bandwidth : ℚ}

theorem preempt_frees (OI : IPAddress) (priority : Nat)
    (bandwidths : Bandwidths) (positive : 0 < bandwidth)
    (enough : bandwidth ≤ reservedAt OI priority RSBList) :
    ∃ freed, Frees OI priority bandwidth bandwidths RSBList
      (preempt OI priority bandwidth bandwidths RSBList) freed := by
  induction RSBList generalizing bandwidth bandwidths with
  | nil => exact absurd positive (not_lt.mpr enough)
  | cons it rest induction =>
    unfold reservedAt at enough
    unfold preempt
    split
    case isTrue here =>
      simp only [preemptible, Bool.and_eq_true, decide_eq_true_eq] at here
      rcases here with ⟨⟨here, exactly⟩, _⟩
      rw [if_pos ⟨here, exactly⟩] at enough
      dsimp only
      split
      case isTrue done =>
        refine ⟨it.req_bandwidth, by linarith, rfl, ?_, ?_⟩
        · exact .cons (.inr ⟨here, exactly, rfl⟩) (mayLose_refl _ _ _)
        · intro _ p
          rw [← exactly]
          exact reserved_lose _ _ p here _
      case isFalse more =>
        obtain ⟨freed, frees⟩ := induction (release _ _ it.req_bandwidth)
          (not_le.mp more) (by linarith)
        refine ⟨it.req_bandwidth + freed, ?_, ?_, ?_, ?_⟩
        · have enough := frees.enough
          linarith
        · rw [frees.bandwidths, release_release]
        · exact .cons (.inr ⟨here, exactly, rfl⟩) frees.blocks
        · intro other p
          have lost := reserved_lose _ other p here
            (preempt OI priority (bandwidth - it.req_bandwidth)
              (release bandwidths priority it.req_bandwidth) rest).2
          have others := frees.sums other p
          rw [exactly] at lost
          change reserved other p (lose it :: _) = _
          rw [lost]
          unfold reserved
          rw [others]
          by_cases affected : other = OI ∧ priority ≤ p
          · rw [if_pos affected, if_pos affected, if_pos affected]
            ring
          · rw [if_neg affected, if_neg affected, if_neg affected]
            ring
    case isFalse other =>
      have none : (if it.OI = OI ∧
          it.Session_Object.holdingPri = priority then
            it.req_bandwidth else 0) = 0 := by
        simp only [preemptible, Bool.and_eq_true, decide_eq_true_eq, Bool.not_eq_true',
          decide_eq_false_iff_not, not_and, not_not] at other
        split
        case isTrue here => exact other here
        case isFalse => rfl
      rw [none, zero_add] at enough
      obtain ⟨freed, frees⟩ := induction bandwidths positive enough
      refine ⟨freed, frees.enough, frees.bandwidths, .cons (.inl rfl) frees.blocks, ?_⟩
      intro other p
      have others := frees.sums other p
      unfold reserved
      rw [others]
      ring

/-! ## Allocation -/

variable {OI : IPAddress} {worse : Nat → Prop} {p : Nat}

theorem MayLose.trans {it middle later : ResvStateBlock} (one : MayLose OI worse it middle)
    (other : MayLose OI (· = p) middle later) (bad : worse p) : MayLose OI worse it later := by
  rcases one with rfl | ⟨here, why, rfl⟩
  · rcases other with rfl | ⟨here, rfl, rfl⟩
    · exact .inl rfl
    · exact .inr ⟨here, bad, rfl⟩
  · rcases other with rfl | ⟨_, _, rfl⟩
    · exact .inr ⟨here, why, rfl⟩
    · exact .inr ⟨here, why, rfl⟩

theorem mayLose_trans {before middle after : List ResvStateBlock}
    (one : Forall₂ (MayLose OI worse) before middle)
    (other : Forall₂ (MayLose OI (· = p)) middle after) (bad : worse p) :
    Forall₂ (MayLose OI worse) before after := by
  induction one generalizing after with
  | nil =>
    cases other
    exact .nil
  | cons head _ induction =>
    cases other with
    | cons otherHead otherTail => exact .cons (head.trans otherHead bad) (induction otherTail)

variable {before after : List ResvStateBlock}

theorem NonNegative.mayLose (nonneg : NonNegative before)
    (blocks : Forall₂ (MayLose OI worse) before after) : NonNegative after := by
  induction blocks with
  | nil => exact nonneg
  | cons head tail induction =>
    intro _ member
    rcases mem_cons.mp member with rfl | later
    · rcases head with rfl | ⟨_, _, rfl⟩
      · exact nonneg.head
      · exact le_refl _
    · exact induction nonneg.tail _ later

section Allocating

variable {MaxBandwidth bandwidth : ℚ} {OI : IPAddress}
variable {session : SessionObj} {before : List ResvStateBlock}

/-- The priorities below `p` are done. -/
structure Midway (MaxBandwidth : ℚ) (OI : IPAddress) (session : SessionObj)
    (bandwidth : ℚ) (before : List ResvStateBlock) (p : Nat)
    (bandwidths : Bandwidths) (RSBList : List ResvStateBlock) : Prop where
  done : ∀ q < p, q ≤ 7 → bandwidths q =
    MaxBandwidth - reserved OI q RSBList - (if session.holdingPri ≤ q then bandwidth else 0)
  enough : ∀ q < p, q ≤ 7 → 0 ≤ bandwidths q
  todo : ∀ q, p ≤ q → q ≤ 7 → bandwidths q = MaxBandwidth - reserved OI q RSBList
  /-- Up to the setup priority there is bandwidth enough. -/
  room : p ≤ session.setupPri → bandwidth ≤ bandwidths session.setupPri
  nonneg : NonNegative RSBList
  others : ∀ other, other ≠ OI → ∀ q, reserved other q RSBList = reserved other q before
  blocks : Forall₂ (MayLose OI (session.setupPri < ·)) before RSBList

variable {bandwidths : Bandwidths}

section

variable (midway : Midway MaxBandwidth OI session bandwidth before p bandwidths RSBList)
include midway

/-- What is missing at a priority is reserved at this very priority. -/
theorem Midway.shortage (range : p ≤ 7) (short : bandwidths p - bandwidth < 0) :
    session.setupPri < p ∧ -(bandwidths p - bandwidth) ≤ reservedAt OI p RSBList := by
  have here := midway.todo p le_rfl range
  have late : session.setupPri < p := by
    by_contra early
    rw [not_lt] at early
    have room := midway.room early
    have setup := midway.todo session.setupPri early session.bounded
    have less := reserved_mono OI early midway.nonneg
    linarith
  refine ⟨late, ?_⟩
  obtain ⟨previous, rfl⟩ : ∃ previous, p = previous + 1 := ⟨p - 1, by omega⟩
  have holding : session.holdingPri ≤ previous := by
    have ordered := session.ordered
    omega
  have last := midway.done previous (by omega) (by omega)
  have left := midway.enough previous (by omega) (by omega)
  rw [if_pos holding] at last
  have sum := reserved_succ OI previous RSBList
  linarith

theorem Midway.allocateAt (held : session.holdingPri ≤ p) (range : p ≤ 7) :
    Midway MaxBandwidth OI session bandwidth before (p + 1)
      (Reservations.allocateAt OI bandwidth p bandwidths RSBList).1
      (Reservations.allocateAt OI bandwidth p bandwidths RSBList).2 := by
  have here := midway.todo p le_rfl range
  have apart : ∀ q, q ≠ p → update bandwidths p (bandwidths p - bandwidth) q = bandwidths q :=
    fun q other => update_of_ne other _ _
  have itself : update bandwidths p (bandwidths p - bandwidth) p = bandwidths p - bandwidth :=
    update_self _ _ _
  dsimp only [Reservations.allocateAt]
  rw [itself]
  split
  case isTrue short =>
    obtain ⟨late, enough⟩ := midway.shortage range short
    obtain ⟨_, frees⟩ := preempt_frees _ p
      (update _ p (bandwidths p - bandwidth)) (neg_pos.mpr short) enough
    have covered := frees.enough
    have sums := frees.sums OI
    rw [frees.bandwidths]
    refine ⟨?_, ?_, ?_, ?_, ?_, ?_, ?_⟩
    · intro q _ range'
      rw [release, sums q]
      by_cases same : q = p
      · rw [same, if_pos le_rfl, if_pos ⟨rfl, le_rfl⟩, if_pos held, itself, here]
        ring
      · rw [if_neg (by omega), if_neg (fun both => by omega), apart q same,
          midway.done q (by omega) range']
        ring
    · intro q _ range'
      unfold release
      by_cases same : q = p
      · rw [same, if_pos le_rfl, itself]
        linarith
      · rw [if_neg (by omega), apart q same]
        exact midway.enough q (by omega) range'
    · intro q _ range'
      rw [release, if_pos (by omega), apart q (by omega), sums q, if_pos ⟨rfl, by omega⟩,
        midway.todo q (by omega) range']
      ring
    · omega
    · exact midway.nonneg.mayLose frees.blocks
    · intro other different q
      rw [frees.sums other q, if_neg (fun both => different both.1), sub_zero]
      exact midway.others other different q
    · exact mayLose_trans midway.blocks frees.blocks late
  case isFalse plenty =>
    rw [not_lt] at plenty
    dsimp only
    refine ⟨?_, ?_, ?_, ?_, midway.nonneg, midway.others, midway.blocks⟩
    · intro q _ range'
      by_cases same : q = p
      · rw [same, itself, if_pos held, here]
      · rw [apart q same]
        exact midway.done q (by omega) range'
    · intro q _ range'
      by_cases same : q = p
      · rwa [same, itself]
      · rw [apart q same]
        exact midway.enough q (by omega) range'
    · intro q _ range'
      rw [apart q (by omega)]
      exact midway.todo q (by omega) range'
    · intro _
      rw [apart _ (by omega)]
      exact midway.room (by omega)

end

theorem Midway.allocateLoop (count p : Nat)
    (midway : Midway MaxBandwidth OI session bandwidth before p bandwidths RSBList)
    (held : session.holdingPri ≤ p) (range : p + count = 8) :
    Midway MaxBandwidth OI session bandwidth before 8
      (Reservations.allocateLoop OI bandwidth count p bandwidths RSBList).1
      (Reservations.allocateLoop OI bandwidth count p bandwidths RSBList).2 := by
  induction count generalizing p bandwidths RSBList with
  | zero =>
    have last : p = 8 := by omega
    rwa [← last]
  | succ _ induction =>
    exact induction _ (midway.allocateAt held (by omega)) (by omega) (by omega)

theorem allocateLoop_release (less : bandwidth ≤ 0) (count p : Nat)
    (enough : ∀ q ≤ 7, 0 ≤ bandwidths q) (range : p + count = 8) :
    (Reservations.allocateLoop OI bandwidth count p bandwidths RSBList).2 = RSBList := by
  induction count generalizing p bandwidths with
  | zero => rfl
  | succ _ induction =>
    have here := enough p (by omega)
    have itself : update bandwidths p (bandwidths p - bandwidth) p = bandwidths p - bandwidth :=
      update_self _ _ _
    have plenty : ¬bandwidths p - bandwidth < 0 := by
      linarith
    dsimp only [Reservations.allocateLoop, Reservations.allocateAt]
    rw [itself, if_neg plenty]
    refine induction _ ?_ (by omega)
    intro q range'
    dsimp only
    by_cases same : q = p
    · rw [same, itself]
      linarith
    · rw [update_of_ne same]
      exact enough q range'

end Allocating

/-! ## The books of a router -/

/-- What holds of the reservations in every state. -/
structure Books (par : Parameters) (rsvp : RSVP) : Prop where
  accounted : Accounted par rsvp
  enough : ∀ OI p, Link par OI → p ≤ 7 → 0 ≤ rsvp.UnResvBandwidth OI p
  nonneg : NonNegative rsvp.RSBList
  unique : (rsvp.RSBList.map ResvStateBlock.id).Nodup
  known : ∀ it ∈ rsvp.RSBList, it.id ≤ rsvp.maxRsbId

/-- The books while the bandwidth is not yet with the block. -/
structure Allocated (par : Parameters) (rsvp : RSVP) (OI : IPAddress)
    (session : SessionObj) (bandwidth : ℚ) (next : RSVP) : Prop where
  unreserved : ∀ other q, Link par other → q ≤ 7 →
    next.UnResvBandwidth other q =
      par.MaxBandwidth other - reserved other q next.RSBList -
        (if other = OI ∧ session.holdingPri ≤ q then bandwidth else 0)
  enough : ∀ other q, Link par other → q ≤ 7 → 0 ≤ next.UnResvBandwidth other q
  nonneg : NonNegative next.RSBList
  blocks : Forall₂ (MayLose OI (session.setupPri < ·)) rsvp.RSBList next.RSBList
  given : bandwidth ≤ 0 → next.RSBList = rsvp.RSBList
  maxRsbId : next.maxRsbId = rsvp.maxRsbId

variable {next : RSVP} {session : SessionObj}

section Allocating

variable {par : Parameters} {rsvp : RSVP}

theorem Books.untouched (books : Books par rsvp) (session : SessionObj)
    (elsewhere : Link par OI → bandwidth = 0) : Allocated par rsvp OI session bandwidth rsvp where
  unreserved := by
    intro _ q link range
    have here := books.accounted _ q link range
    split
    case isTrue same => rw [elsewhere (same.1 ▸ link), here, sub_zero]
    case isFalse => rw [here, sub_zero]
  enough := books.enough
  nonneg := books.nonneg
  blocks := mayLose_refl _ _ _
  given := fun _ => rfl
  maxRsbId := rfl

theorem Books.allocateResource (books : Books par rsvp)
    (allocated : rsvp.allocateResource par OI session bandwidth = some next) :
    Allocated par rsvp OI session bandwidth next := by
  unfold RSVP.allocateResource at allocated
  split at allocated
  case isTrue unspecified =>
    cases allocated
    apply books.untouched
    rintro ⟨specified, _⟩
    rw [unspecified] at specified
    cases specified
  case isFalse specified =>
    split at allocated
    case isTrue remote =>
      cases allocated
      apply books.untouched
      rintro ⟨_, near⟩
      rw [near] at remote
      cases remote
    case isFalse near =>
      have link : Link par OI := by
        rw [Bool.not_eq_true] at specified
        rw [Bool.not_eq_true', Bool.not_eq_false] at near
        exact ⟨specified, near⟩
      split at allocated
      case isTrue none =>
        cases allocated
        exact books.untouched _ fun _ => none
      case isFalse =>
        split at allocated
        case isTrue => cases allocated
        case isFalse room =>
          rw [not_lt] at room
          cases allocated
          have start : Midway (par.MaxBandwidth OI) OI session
              bandwidth rsvp.RSBList session.holdingPri (rsvp.UnResvBandwidth OI) rsvp.RSBList := by
            refine ⟨?_, ?_, ?_, fun _ => room, books.nonneg, fun _ _ _ => rfl, mayLose_refl _ _ _⟩
            · intro q _ range
              rw [if_neg (by omega), sub_zero]
              exact books.accounted _ q link range
            · exact fun q _ range => books.enough _ q link range
            · exact fun q _ range => books.accounted _ q link range
          have ordered := session.ordered
          have bounded := session.bounded
          have finish := start.allocateLoop
            (8 - session.holdingPri) session.holdingPri le_rfl (by omega)
          refine ⟨?_, ?_, finish.nonneg, finish.blocks, ?_, rfl⟩
          · intro other q otherLink range
            dsimp only
            by_cases same : other = OI
            · rw [same, update_self, finish.done q (by omega) range]
              simp only [true_and]
            · rw [update_of_ne same, if_neg (fun both => same both.1), sub_zero,
                finish.others _ same]
              exact books.accounted _ q otherLink range
          · intro other q otherLink range
            dsimp only
            by_cases same : other = OI
            · rw [same, update_self]
              exact finish.enough q (by omega) range
            · rw [update_of_ne same]
              exact books.enough other q otherLink range
          · intro less
            exact allocateLoop_release less _ _
              (fun q range => books.enough OI q link range) (by omega)

theorem Books.refused (books : Books par rsvp)
    (refused : rsvp.allocateResource par OI session bandwidth = none) : 0 < bandwidth := by
  unfold RSVP.allocateResource at refused
  split at refused
  case isTrue => cases refused
  case isFalse specified =>
    split at refused
    case isTrue => cases refused
    case isFalse near =>
      rw [Bool.not_eq_true] at specified
      rw [Bool.not_eq_true', Bool.not_eq_false] at near
      split at refused
      case isTrue => cases refused
      case isFalse =>
        split at refused
        case isTrue short =>
          have enough := books.enough _ session.setupPri ⟨specified, near⟩ session.bounded
          exact enough.trans_lt short
        case isFalse => cases refused

end Allocating

/-! ## Changes of blocks -/

/-- The change has nothing to do with bandwidth. -/
structure Harmless (change : ResvStateBlock → ResvStateBlock) : Prop where
  id : ∀ it, (change it).id = it.id
  OI : ∀ it, (change it).OI = it.OI
  session : ∀ it, (change it).Session_Object = it.Session_Object
  bandwidth : ∀ it, (change it).req_bandwidth = it.req_bandwidth

/--
Every block was there, and has the bandwidth that it had, but for one block
and those that may lose theirs to it.
-/
def Moves (rsb : ResvStateBlock) (before after : List ResvStateBlock) : Prop :=
  ∀ later ∈ after, ∃ it ∈ before, later.id = it.id ∧ later.OI = it.OI ∧
    later.Session_Object = it.Session_Object ∧
      (later.req_bandwidth = it.req_bandwidth ∨ it.id = rsb.id ∨
        later.req_bandwidth = 0 ∧ rsb.OI = it.OI ∧
          rsb.Session_Object.setupPri < it.Session_Object.holdingPri)

section Changes

variable {par : Parameters} {rsvp : RSVP} {rsb : ResvStateBlock}

theorem Moves.trans {before middle after : List ResvStateBlock}
    (one : Moves rsb before middle) (other : Moves rsb middle after) : Moves rsb before after := by
  intro _ member
  obtain ⟨_, there, id, OI, session, how⟩ := other _ member
  obtain ⟨first, here, firstId, firstOI, firstSession, firstHow⟩ := one _ there
  refine ⟨first, here, id.trans firstId, OI.trans firstOI, session.trans firstSession, ?_⟩
  rcases how with same | itself | ⟨lost, where_, why⟩
  · rcases firstHow with alike | itself | ⟨lost, where_, why⟩
    · exact .inl (same.trans alike)
    · exact .inr (.inl itself)
    · exact .inr (.inr ⟨same.trans lost, where_, why⟩)
  · exact .inr (.inl (firstId.symm.trans itself))
  · rw [firstOI] at where_
    rw [firstSession] at why
    exact .inr (.inr ⟨lost, where_, why⟩)

variable {change : ResvStateBlock → ResvStateBlock}

theorem reserved_map (OI : IPAddress) (p : Nat)
    (same : ∀ it ∈ RSBList, (change it).OI = it.OI ∧
      (change it).Session_Object = it.Session_Object ∧
        (change it).req_bandwidth = it.req_bandwidth) :
    reserved OI p (RSBList.map change) = reserved OI p RSBList := by
  induction RSBList with
  | nil => rfl
  | cons _ _ induction =>
    have here := same _ mem_cons_self
    rw [map_cons]
    unfold reserved
    rw [here.1, here.2.1, here.2.2, induction fun other member => same _ (mem_cons_of_mem _ member)]

theorem Books.map (books : Books par rsvp) (harmless : Harmless change) :
    Books par { rsvp with RSBList := rsvp.RSBList.map change } where
  accounted := by
    intro OI p link range
    rw [reserved_map _ p fun it _ => ⟨harmless.OI _, harmless.session _, harmless.bandwidth _⟩]
    exact books.accounted _ p link range
  enough := books.enough
  nonneg := by
    intro _ member
    obtain ⟨it, there, rfl⟩ := mem_map.mp member
    rw [harmless.bandwidth]
    exact books.nonneg _ there
  unique := by
    rw [map_map]
    have same : ResvStateBlock.id ∘ change = ResvStateBlock.id := funext harmless.id
    rw [same]
    exact books.unique
  known := by
    intro _ member
    obtain ⟨_, there, rfl⟩ := mem_map.mp member
    rw [harmless.id]
    exact books.known _ there

theorem Moves.map (harmless : Harmless change) (RSBList : List ResvStateBlock) :
    Moves rsb RSBList (RSBList.map change) := by
  intro _ member
  obtain ⟨it, there, rfl⟩ := mem_map.mp member
  exact ⟨it, there, harmless.id _, harmless.OI _, harmless.session _, .inl (harmless.bandwidth _)⟩

theorem Harmless.one (harmless : Harmless change) (id : Nat) :
    Harmless fun it => if it.id = id then change it else it where
  id it := by
    split
    · exact harmless.id _
    · rfl
  OI it := by
    split
    · exact harmless.OI _
    · rfl
  session it := by
    split
    · exact harmless.session _
    · rfl
  bandwidth it := by
    split
    · exact harmless.bandwidth _
    · rfl

theorem harmless_eraseFilter (index : Nat) : Harmless (RSVP.eraseFilter index) :=
  ⟨fun _ => rfl, fun _ => rfl, fun _ => rfl, fun _ => rfl⟩

theorem harmless_schedule : Harmless RSVP.scheduleCommitTimer :=
  ⟨fun _ => rfl, fun _ => rfl, fun _ => rfl, fun _ => rfl⟩

theorem Harmless.comp {one other : ResvStateBlock → ResvStateBlock}
    (first : Harmless one) (second : Harmless other) : Harmless fun it => other (one it) :=
  ⟨fun it => (second.id _).trans (first.id _), fun it => (second.OI _).trans (first.OI _),
    fun it => (second.session _).trans (first.session _),
    fun it => (second.bandwidth _).trans (first.bandwidth _)⟩

theorem harmless_updateFlow (flow : FlowDescriptor) :
    Harmless fun rsb => RSVP.updateFlow rsb flow := by
  have cases : ∀ it, (RSVP.updateFlow it flow).id = it.id ∧
      (RSVP.updateFlow it flow).OI = it.OI ∧
        (RSVP.updateFlow it flow).Session_Object = it.Session_Object ∧
          (RSVP.updateFlow it flow).req_bandwidth = it.req_bandwidth := by
    intro _
    unfold RSVP.updateFlow
    split
    · split
      · exact ⟨rfl, rfl, rfl, rfl⟩
      · exact ⟨rfl, rfl, rfl, rfl⟩
    · exact ⟨rfl, rfl, rfl, rfl⟩
  exact ⟨fun it => (cases _).1, fun it => (cases _).2.1,
    fun it => (cases _).2.2.1, fun it => (cases _).2.2.2⟩

theorem harmless_updateRSB (flows : List FlowDescriptor) :
    Harmless fun rsb => RSVP.updateRSB rsb flows := by
  induction flows with
  | nil => exact ⟨fun _ => rfl, fun _ => rfl, fun _ => rfl, fun _ => rfl⟩
  | cons _ _ induction => exact (harmless_updateFlow _).comp induction

theorem Books.modify {change : ResvStateBlock → ResvStateBlock}
    (books : Books par rsvp) (harmless : Harmless change) (id : Nat) :
    Books par (rsvp.modify id change) ∧ Moves rsb rsvp.RSBList (rsvp.modify id change).RSBList :=
  ⟨books.map (harmless.one _), Moves.map (harmless.one _) _⟩

theorem Books.install (books : Books par rsvp) (block : ResvStateBlock) (labels : List Int) :
    Books par (rsvp.install block labels) ∧
      Moves rsb rsvp.RSBList (rsvp.install block labels).RSBList := by
  have one : Harmless fun rsb : ResvStateBlock => { rsb with inLabelVector := labels } :=
    ⟨fun _ => rfl, fun _ => rfl, fun _ => rfl, fun _ => rfl⟩
  have labelled := @Books.modify _ _ rsb _ books one block.id
  have merging : Harmless fun it : ResvStateBlock =>
      if block.FlowDescriptor.any (fun flow =>
          it.OI = ⟨BitVec.ofInt 32 flow.Filter_Spec_Object.Lsp_Id⟩) then
        RSVP.scheduleCommitTimer it
      else it := by
    refine ⟨?_, ?_, ?_, ?_⟩
    all_goals
      intro _
      split <;> rfl
  exact ⟨labelled.1.map merging, labelled.2.trans (Moves.map merging _)⟩

/-! ### The block that is committed -/

theorem mayLose_mem (blocks : Forall₂ (MayLose OI worse) before after) :
    (∀ it ∈ before, ∃ later ∈ after, MayLose OI worse it later) ∧
      (∀ later ∈ after, ∃ it ∈ before, MayLose OI worse it later) ∧
        after.map ResvStateBlock.id = before.map ResvStateBlock.id := by
  induction blocks with
  | nil => exact ⟨nofun, nofun, rfl⟩
  | @cons it later rest others head tail induction =>
    rcases induction with ⟨forth, back, ids⟩
    refine ⟨?_, ?_, ?_⟩
    · intro _ member
      rcases mem_cons.mp member with rfl | more
      · exact ⟨later, mem_cons_self, head⟩
      · obtain ⟨other, there, how⟩ := forth _ more
        exact ⟨other, mem_cons_of_mem _ there, how⟩
    · intro _ member
      rcases mem_cons.mp member with rfl | more
      · exact ⟨it, mem_cons_self, head⟩
      · obtain ⟨other, there, how⟩ := back _ more
        exact ⟨other, mem_cons_of_mem _ there, how⟩
    · rw [map_cons, map_cons, ids]
      rcases head with rfl | ⟨_, _, rfl⟩
      all_goals rfl

theorem Allocated.moves (allocated : Allocated par rsvp rsb.OI rsb.Session_Object bandwidth next) :
    Moves rsb rsvp.RSBList next.RSBList := by
  intro later member
  obtain ⟨it, there, how⟩ := (mayLose_mem allocated.blocks).2.1 _ member
  rcases how with rfl | ⟨here, worse, rfl⟩
  · exact ⟨later, there, rfl, rfl, rfl, .inl rfl⟩
  · exact ⟨it, there, rfl, rfl, rfl, .inr (.inr ⟨rfl, here.symm, worse⟩)⟩

variable {stored : ResvStateBlock}

theorem Allocated.kept
    (allocated : Allocated par rsvp stored.OI stored.Session_Object bandwidth next)
    (member : stored ∈ rsvp.RSBList) : stored ∈ next.RSBList := by
  obtain ⟨_, there, how⟩ := (mayLose_mem allocated.blocks).1 _ member
  rcases how with rfl | ⟨_, _, _⟩
  · exact there
  · have ordered := stored.Session_Object.ordered
    omega

section

variable (allocated : Allocated par rsvp OI session bandwidth next) (books : Books par rsvp)
include allocated books

theorem Allocated.unique : (next.RSBList.map ResvStateBlock.id).Nodup := by
  rw [(mayLose_mem allocated.blocks).2.2]
  exact books.unique

theorem Allocated.known : ∀ it ∈ next.RSBList, it.id ≤ next.maxRsbId := by
  intro it member
  have listed : it.id ∈ rsvp.RSBList.map ResvStateBlock.id := by
    rw [← (mayLose_mem allocated.blocks).2.2]
    exact mem_map_of_mem member
  obtain ⟨_, there, same⟩ := mem_map.mp listed
  rw [allocated.maxRsbId, ← same]
  exact books.known _ there

end

theorem reserved_own (OI : IPAddress) (p : Nat) (needed : ℚ)
    (unique : (RSBList.map ResvStateBlock.id).Nodup) (member : stored ∈ RSBList) :
    reserved OI p (RSBList.map fun it =>
        if it.id = stored.id then { it with req_bandwidth := it.req_bandwidth + needed } else it) =
      reserved OI p RSBList +
        (if OI = stored.OI ∧ stored.Session_Object.holdingPri ≤ p then needed
          else 0) := by
  induction RSBList with
  | nil => cases member
  | cons it rest induction =>
    rw [map_cons, nodup_cons] at unique
    rw [map_cons]
    rcases mem_cons.mp member with rfl | later
    · have others : reserved OI p (rest.map fun it =>
          if it.id = stored.id then { it with req_bandwidth := it.req_bandwidth + needed }
          else it) = reserved OI p rest := by
        apply reserved_map
        intro other there
        have different : other.id ≠ stored.id := by
          intro same
          exact unique.1 (same ▸ mem_map_of_mem there)
        rw [if_neg different]
        exact ⟨rfl, rfl, rfl⟩
      rw [if_pos rfl]
      unfold reserved
      rw [others]
      by_cases here : stored.OI = OI ∧ stored.Session_Object.holdingPri ≤ p
      · rw [if_pos here, if_pos here, if_pos ⟨here.1.symm, here.2⟩]
        ring
      · rw [if_neg here, if_neg here, if_neg (fun both => here ⟨both.1.symm, both.2⟩)]
        ring
    · have different : it.id ≠ stored.id := by
        intro same
        exact unique.1 (same ▸ mem_map_of_mem later)
      rw [if_neg different]
      unfold reserved
      rw [induction unique.2 later]
      ring

theorem reserved_erase (OI : IPAddress) (p : Nat)
    (unique : (RSBList.map ResvStateBlock.id).Nodup) (member : stored ∈ RSBList) :
    reserved OI p (RSBList.eraseP (·.id = stored.id)) =
      reserved OI p RSBList -
        (if OI = stored.OI ∧ stored.Session_Object.holdingPri ≤ p then
          stored.req_bandwidth else 0) := by
  induction RSBList with
  | nil => cases member
  | cons it _ induction =>
    rw [map_cons, nodup_cons] at unique
    rcases mem_cons.mp member with rfl | later
    · rw [eraseP_cons_of_pos (by rw [decide_eq_true_iff])]
      conv_rhs => unfold reserved
      by_cases here : stored.OI = OI ∧ stored.Session_Object.holdingPri ≤ p
      · rw [if_pos here, if_pos ⟨here.1.symm, here.2⟩]
        ring
      · rw [if_neg here, if_neg (fun both => here ⟨both.1.symm, both.2⟩)]
        ring
    · have different : it.id ≠ stored.id := by
        intro same
        exact unique.1 (same ▸ mem_map_of_mem later)
      rw [eraseP_cons_of_neg (by rwa [decide_eq_true_iff])]
      unfold reserved
      rw [induction unique.2 later]
      ring

theorem Allocated.commit {needed : ℚ} (books : Books par rsvp)
    (allocated : Allocated par rsvp stored.OI stored.Session_Object needed next)
    (member : stored ∈ rsvp.RSBList) (positive : 0 ≤ stored.req_bandwidth + needed) :
    Books par (next.modify stored.id fun rsb =>
        { rsb with req_bandwidth := rsb.req_bandwidth + needed }) ∧
      Moves stored rsvp.RSBList (next.modify stored.id fun rsb =>
        { rsb with req_bandwidth := rsb.req_bandwidth + needed }).RSBList := by
  have kept := allocated.kept member
  have unique := allocated.unique books
  have same : ∀ it ∈ next.RSBList, it.id = stored.id → it = stored :=
    fun it there equal => inj_on_of_nodup_map unique there kept equal
  refine ⟨⟨?_, allocated.enough, ?_, ?_, ?_⟩, allocated.moves.trans ?_⟩
  · intro _ p link range
    rw [RSVP.modify, reserved_own _ p _ unique kept, allocated.unreserved _ p link range]
    ring
  · intro _ there
    obtain ⟨it, old, rfl⟩ := mem_map.mp there
    split
    case isTrue equal => rwa [same _ old equal]
    case isFalse => exact allocated.nonneg _ old
  · rw [RSVP.modify, map_map]
    have ids : (ResvStateBlock.id ∘ fun it : ResvStateBlock =>
        if it.id = stored.id then { it with req_bandwidth := it.req_bandwidth + needed }
        else it) = ResvStateBlock.id := by
      funext it
      dsimp only [comp]
      split
      all_goals rfl
    rwa [ids]
  · intro _ there
    obtain ⟨it, old, rfl⟩ := mem_map.mp there
    split
    all_goals exact allocated.known books it old
  · intro _ there
    obtain ⟨it, old, rfl⟩ := mem_map.mp there
    refine ⟨it, old, ?_⟩
    split
    case isTrue equal => exact ⟨rfl, rfl, rfl, .inr (.inl equal)⟩
    case isFalse => exact ⟨rfl, rfl, rfl, .inl rfl⟩

/-- The block is stored, as far as the bandwidth goes. -/
structure Stored (rsvp : RSVP) (rsb : ResvStateBlock) : Prop where
  exist : ∃ stored ∈ rsvp.RSBList, stored.id = rsb.id ∧
    stored.OI = rsb.OI ∧ stored.Session_Object = rsb.Session_Object ∧
      stored.req_bandwidth = rsb.req_bandwidth

/-- The books are kept, and the reservations move for the block. -/
def Kept (par : Parameters) (rsb : ResvStateBlock) (rsvp next : RSVP) : Prop :=
  Books par next ∧ Moves rsb rsvp.RSBList next.RSBList

theorem moves_of_same (id : stored.id = rsb.id) (OI : stored.OI = rsb.OI)
    (session : stored.Session_Object = rsb.Session_Object)
    (moves : Moves stored before after) : Moves rsb before after := by
  intro _ member
  obtain ⟨it, there, sameId, sameOI, sameSession, how⟩ := moves _ member
  rw [id, OI, session] at how
  exact ⟨it, there, sameId, sameOI, sameSession, how⟩

theorem Books.erase (books : Books par rsvp) (member : stored ∈ rsvp.RSBList)
    (allocated : Allocated par rsvp stored.OI stored.Session_Object (-stored.req_bandwidth) next) :
    Books par { next with
      RSBList := next.RSBList.eraseP (·.id = stored.id) } := by
  have kept := allocated.kept member
  have unique := allocated.unique books
  have sub : (next.RSBList.eraseP (·.id = stored.id)).Sublist next.RSBList := eraseP_sublist
  refine ⟨?_, allocated.enough, ?_, ?_, ?_⟩
  · intro _ p link range
    rw [reserved_erase _ p unique kept, allocated.unreserved _ p link range]
    split
    all_goals ring
  · exact fun it there => allocated.nonneg _ (sub.subset there)
  · exact unique.sublist (sub.map _)
  · exact fun it there => allocated.known books _ (sub.subset there)

theorem Moves.sublist (sub : after.Sublist before) : Moves rsb before after :=
  fun later member => ⟨later, sub.subset member, rfl, rfl, rfl, .inl rfl⟩

theorem removeRSB_spec (bad : Failure → Prop) (harmless : ¬bad .filtersLeft)
    (books : Books par rsvp) (stored : Stored rsvp rsb) :
    Yields bad (fun next => Books par next ∧ next.RSBList.Sublist rsvp.RSBList)
      (rsvp.removeRSB par rsb) := by
  obtain ⟨block, member, id, OI, session, bandwidth⟩ := stored.exist
  have nonneg := books.nonneg _ member
  unfold RSVP.removeRSB
  split
  · exact .error harmless
  · have allocated : Allocated par rsvp block.OI block.Session_Object
        (-block.req_bandwidth) (rsvp.deallocate par rsb) := by
      rw [RSVP.deallocate, ← bandwidth, ← OI, ← session]
      split
      case isTrue positive =>
        cases back : rsvp.allocateResource par block.OI
            block.Session_Object (-block.req_bandwidth) with
        | none =>
          have more := books.refused back
          linarith
        | some _ => exact books.allocateResource back
      case isFalse nothing =>
        apply books.untouched
        intro _
        linarith
    have erased := books.erase member allocated
    rw [id] at erased
    have same := allocated.given (by linarith)
    refine .ok ⟨erased, ?_⟩
    rw [← same]
    exact eraseP_sublist

/-! ### Commits -/

theorem maxFlow_spec (flows : List FlowDescriptor) (i : Nat)
    (most : ℚ × Option Nat) (nonneg : 0 ≤ most.1) (index : most.2 = none → most.1 = 0)
    (below : ∀ k, most.2 = some k → k < i) :
    0 ≤ (RSVP.maxFlow flows i most).1 ∧
      ((RSVP.maxFlow flows i most).2 = none → (RSVP.maxFlow flows i most).1 = 0) ∧
      ∀ k, (RSVP.maxFlow flows i most).2 = some k → k < i + flows.length := by
  induction flows generalizing i most with
  | nil => exact ⟨nonneg, index, below⟩
  | cons flow rest induction =>
    have length : i + (flow :: rest).length = i + 1 + rest.length := by
      rw [length_cons]
      omega
    rw [RSVP.maxFlow, length]
    split
    case isTrue =>
      apply induction _ (flow.req_bandwidth, some i) flow.nonneg
      · exact nofun
      · intro _ same
        cases same
        omega
    case isFalse =>
      apply induction _ _ nonneg index
      intro k same
      have less := below k same
      omega

/-- What a commit cannot come to. -/
def Internal (failure : Failure) : Prop :=
  failure = .outOfFuel ∨ failure = .maxFlowIndex

theorem not_internal {failure : Failure} (fuel : failure ≠ .outOfFuel)
    (flow : failure ≠ .maxFlowIndex) : ¬Internal failure := by
  rintro (same | same)
  · exact fuel same
  · exact flow same

theorem Stored.modify {change : ResvStateBlock → ResvStateBlock}
    (stored : Stored rsvp rsb) (harmless : Harmless change) :
    Stored (rsvp.modify rsb.id change) (change rsb) := by
  obtain ⟨block, member, id, OI, session, bandwidth⟩ := stored.exist
  refine ⟨change block, ?_, ?_, ?_, ?_, ?_⟩
  · refine mem_map.mpr ⟨block, member, ?_⟩
    rw [if_pos id]
  · rw [harmless.id, harmless.id, id]
  · rw [harmless.OI, harmless.OI, OI]
  · rw [harmless.session, harmless.session, session]
  · rw [harmless.bandwidth, harmless.bandwidth, bandwidth]

theorem commitLoop_kept (labels : List Int) (fuel : Nat) {rsvp : RSVP}
    {rsb : ResvStateBlock} (books : Books par rsvp) (stored : Stored rsvp rsb)
    (enough : rsb.FlowDescriptor.length < fuel) :
    Yields Internal (Kept par rsb rsvp) (rsvp.commitLoop par labels fuel rsb) := by
  induction fuel generalizing rsvp rsb with
  | zero => exact absurd enough (Nat.not_lt_zero _)
  | succ fuel induction =>
    have most := maxFlow_spec rsb.FlowDescriptor 0 (0, none) le_rfl (fun _ => rfl) nofun
    unfold RSVP.commitLoop
    split
    · refine Yields.mono (removeRSB_spec _ (not_internal nofun nofun) books stored) ?_
      rintro next ⟨after, sub⟩
      exact ⟨after, Moves.sublist sub⟩
    · dsimp only
      split
      · exact .ok (books.install _ _)
      · split
        case h_1 next allocates =>
          obtain ⟨block, member, id, OI, session, bandwidth⟩ := stored.exist
          rw [← OI, ← session, ← bandwidth] at allocates
          have allocated := books.allocateResource allocates
          have committed := allocated.commit books member (by
            linarith)
          rw [id, bandwidth] at committed
          have moves := moves_of_same id OI session committed.2
          have installed := @Books.install _ _ rsb committed.1 rsb labels
          exact .ok ⟨installed.1, moves.trans installed.2⟩
        case h_2 refused =>
          have more := books.refused refused
          split
          case h_1 none =>
            obtain ⟨block, member, _, _, _, _⟩ := stored.exist
            have nonneg := books.nonneg block member
            have zero := most.2.1 none
            linarith
          case h_2 index found =>
            have within := most.2.2 index found
            have harmless := harmless_eraseFilter index
            have erased := @Books.modify par rsvp rsb _ books harmless rsb.id
            have shorter : (RSVP.eraseFilter index rsb).FlowDescriptor.length < fuel := by
              rw [RSVP.eraseFilter, length_eraseIdx, if_pos (by omega)]
              omega
            refine Yields.mono (induction erased.1 (stored.modify harmless) shorter) ?_
            rintro _ ⟨after, moves⟩
            exact ⟨after, erased.2.trans (moves_of_same rfl rfl rfl moves)⟩

end Changes

/-! ## Events -/

/-- Every block was there, with the bandwidth that it has. -/
def Follows (before after : List ResvStateBlock) : Prop :=
  ∀ later ∈ after, ∃ it ∈ before, later.id = it.id ∧ later.req_bandwidth = it.req_bandwidth

section Handling

variable {par : Parameters} {rsvp : RSVP} {rsb : ResvStateBlock}

theorem Follows.trans {before middle after : List ResvStateBlock}
    (one : Follows before middle) (other : Follows middle after) : Follows before after := by
  intro _ member
  obtain ⟨_, there, id, bandwidth⟩ := other _ member
  obtain ⟨first, here, firstId, firstBandwidth⟩ := one _ there
  exact ⟨first, here, id.trans firstId, bandwidth.trans firstBandwidth⟩

theorem Follows.modify {change : ResvStateBlock → ResvStateBlock}
    (harmless : Harmless change) (id : Nat) :
    Follows rsvp.RSBList (rsvp.modify id change).RSBList := by
  intro _ member
  obtain ⟨it, there, rfl⟩ := mem_map.mp member
  exact ⟨it, there, (harmless.one _).id _, (harmless.one _).bandwidth _⟩

theorem Follows.sublist (sub : after.Sublist before) : Follows before after :=
  fun later member => ⟨later, sub.subset member, rfl, rfl⟩

section

variable (books : Books par rsvp)
include books

theorem Books.fair_of_follows (follows : Follows rsvp.RSBList next.RSBList) (event : Event) :
    FairPreemption rsvp event next := by
  intro it here _ there same different
  obtain ⟨first, old, id, bandwidth⟩ := follows _ there
  have equal : first = it := inj_on_of_nodup_map books.unique old here (id.symm.trans same)
  rw [equal] at bandwidth
  exact absurd bandwidth different

theorem Books.create (session : SessionObj)
    (NHOP LIH : IPAddress) (flows : List FlowDescriptor) (event : Event) :
    Books par (rsvp.createRSB session NHOP LIH flows) ∧
      FairPreemption rsvp event (rsvp.createRSB session NHOP LIH flows) := by
  have appended : ∀ (OI : IPAddress) (p : Nat) (RSBList : List ResvStateBlock)
      (new : ResvStateBlock), new.req_bandwidth = 0 →
        reserved OI p (RSBList ++ [new]) = reserved OI p RSBList := by
    intro _ _ RSBList _ zero
    induction RSBList with
    | nil =>
      rw [nil_append]
      simp only [reserved, zero, ite_self, add_zero]
    | cons _ _ induction =>
      rw [cons_append]
      unfold reserved
      rw [induction]
  have fresh : ∀ it ∈ rsvp.RSBList, it.id ≠ rsvp.maxRsbId + 1 := by
    intro _ member _
    have known := books.known _ member
    omega
  constructor
  · refine ⟨?_, books.enough, ?_, ?_, ?_⟩
    · intro _ p link range
      rw [RSVP.createRSB, appended _ p rsvp.RSBList _ rfl]
      exact books.accounted _ p link range
    · intro _ member
      rcases mem_append.mp member with old | new
      · exact books.nonneg _ old
      · rw [mem_singleton.mp new]
    · rw [RSVP.createRSB, map_append, nodup_append]
      refine ⟨books.unique, nodup_singleton _, ?_⟩
      intro _ old _ new same
      obtain ⟨it, there, rfl⟩ := mem_map.mp old
      rw [map_singleton, mem_singleton] at new
      exact fresh _ there (same.trans new)
    · intro it member
      rcases mem_append.mp member with old | new
      · exact (books.known it old).trans (Nat.le_succ _)
      · rw [mem_singleton.mp new]
        exact le_rfl
  · intro it here later there same different
    rcases mem_append.mp there with old | new
    · have equal : later = it := inj_on_of_nodup_map books.unique old here same
      exact absurd (congrArg ResvStateBlock.req_bandwidth equal) different
    · rw [mem_singleton.mp new] at same
      exact absurd same.symm (fresh it here)

theorem processResvMsg_spec (session : SessionObj)
    (NHOP LIH : IPAddress) (flows : List FlowDescriptor) (event : Event) :
    Books par (rsvp.processResvMsg session NHOP LIH flows) ∧
      FairPreemption rsvp event (rsvp.processResvMsg session NHOP LIH flows) := by
  unfold RSVP.processResvMsg
  split
  · exact ⟨books, books.fair_of_follows (Follows.sublist (Sublist.refl _)) _⟩
  · split
    · exact books.create _ _ _ _ _
    case h_2 found _ =>
      have harmless := harmless_updateRSB flows
      exact ⟨(@Books.modify _ _ found _ books harmless found.id).1,
        books.fair_of_follows (Follows.modify harmless found.id) _⟩

theorem removeRsbFilter_spec (block : ResvStateBlock) (index : Nat) :
    Yields Internal
      (fun next => Books par next ∧ Follows rsvp.RSBList next.RSBList ∧
        (Stored rsvp block → Stored next (RSVP.scheduleCommitTimer (RSVP.eraseFilter index block))))
      (rsvp.removeRsbFilter block index) := by
  have harmless := (harmless_eraseFilter index).comp harmless_schedule
  unfold RSVP.removeRsbFilter
  split
  · exact .ok ⟨(@Books.modify _ _ block _ books harmless block.id).1,
      Follows.modify harmless block.id, fun stored => stored.modify harmless⟩
  · exact .error (not_internal nofun nofun)

end

theorem removeFilters_spec (fuel i : Nat) {rsvp : RSVP} {rsb : ResvStateBlock}
    (books : Books par rsvp) (stored : Stored rsvp rsb) :
    Yields Internal
      (fun left => Books par left.1 ∧ Follows rsvp.RSBList left.1.RSBList ∧ Stored left.1 left.2)
      (RSVP.removeFilters fuel i rsvp rsb) := by
  induction fuel generalizing i rsvp rsb with
  | zero => exact .ok ⟨books, Follows.sublist (Sublist.refl _), stored⟩
  | succ _ induction =>
    unfold RSVP.removeFilters
    split
    · refine (removeRsbFilter_spec books _ 0).bind ?_
      rintro _ ⟨kept, follows, still⟩
      refine Yields.mono (induction (i + 1) kept (still stored)) ?_
      rintro _ ⟨after, rest, last⟩
      exact ⟨after, follows.trans rest, last⟩
    · exact .ok ⟨books, Follows.sublist (Sublist.refl _), stored⟩

theorem stored_of_find {id : Nat} (found : rsvp.findRsbById id = some rsb) :
    rsb.id = id ∧ rsb ∈ rsvp.RSBList := by
  have numbered := find?_some found
  rw [decide_eq_true_iff] at numbered
  exact ⟨numbered, mem_of_find?_eq_some found⟩

theorem processRSB_TIMEOUT_spec (books : Books par rsvp) (id : Nat) :
    Yields Internal (fun next => Books par next ∧ FairPreemption rsvp (.RSB_TIMEOUT id) next)
      (rsvp.processRSB_TIMEOUT par id) := by
  unfold RSVP.processRSB_TIMEOUT
  split
  · exact .error (not_internal nofun nofun)
  case h_2 rsb found =>
    have member := (stored_of_find found).2
    split
    · exact .error (not_internal nofun nofun)
    · refine (removeFilters_spec _ 0 books ⟨rsb, member, rfl, rfl, rfl, rfl⟩).bind ?_
      rintro _ ⟨kept, follows, stored⟩
      refine Yields.mono (removeRSB_spec _ (not_internal nofun nofun) kept stored) ?_
      rintro _ ⟨after, sub⟩
      exact ⟨after, books.fair_of_follows (follows.trans (Follows.sublist sub)) _⟩

theorem processRSB_COMMIT_TIMER_spec (books : Books par rsvp) (id : Nat) (labels : List Int) :
    Yields Internal
      (fun next => Books par next ∧ FairPreemption rsvp (.RSB_COMMIT_TIMER id labels) next)
      (rsvp.processRSB_COMMIT_TIMER par id labels) := by
  unfold RSVP.processRSB_COMMIT_TIMER
  split
  · exact .error (not_internal nofun nofun)
  case h_2 rsb found =>
    obtain ⟨numbered, member⟩ := stored_of_find found
    have harmless : Harmless fun rsb : ResvStateBlock => { rsb with commitTimer := false } :=
      ⟨fun _ => rfl, fun _ => rfl, fun _ => rfl, fun _ => rfl⟩
    have expired := @Books.modify _ _ rsb _ books harmless id
    have stored : Stored (rsvp.modify id fun rsb => { rsb with commitTimer := false })
        { rsb with commitTimer := false } := by
      have there : Stored rsvp rsb := ⟨rsb, member, rfl, rfl, rfl, rfl⟩
      rw [← numbered]
      exact there.modify harmless
    refine Yields.mono (commitLoop_kept _ _ expired.1 stored (Nat.lt_succ_self _)) ?_
    rintro _ ⟨after, moves⟩
    refine ⟨after, ?_⟩
    intro it here _ there same different
    obtain ⟨first, old, sameId, _, _, how⟩ :=
      (expired.2.trans (moves_of_same rfl rfl rfl moves)) _ there
    have equal : first = it := inj_on_of_nodup_map books.unique old here (sameId.symm.trans same)
    rw [equal] at how
    rcases how with unchanged | own | ⟨lost, where_, why⟩
    · exact absurd unchanged different
    · exact ⟨id, labels, rsb, rfl, found, .inl (own.trans numbered)⟩
    · exact ⟨id, labels, rsb, rfl, found, .inr ⟨lost, where_, why⟩⟩

theorem handle_spec (books : Books par rsvp) (event : Event) :
    Yields Internal (fun next => Books par next ∧ FairPreemption rsvp event next)
      (handle par rsvp event) := by
  cases event with
  | RESV_MESSAGE _ _ _ _ =>
    exact .ok (processResvMsg_spec books _ _ _ _ _)
  | RSB_COMMIT_TIMER _ _ => exact processRSB_COMMIT_TIMER_spec books _ _
  | RSB_TIMEOUT _ => exact processRSB_TIMEOUT_spec books _
  | removePSB _ _ =>
    dsimp only [handle]
    unfold RSVP.removePSB
    split
    case h_1 block filterIndex _ =>
      refine Yields.mono (removeRsbFilter_spec books _ _) ?_
      rintro _ ⟨after, follows, _⟩
      exact ⟨after, books.fair_of_follows follows _⟩
    case h_2 => exact .ok ⟨books, books.fair_of_follows (Follows.sublist (Sublist.refl _)) _⟩

end Handling

/-! ## Runs -/

section Runs

variable {par : Parameters}

theorem reserved_nil (OI : IPAddress) (p : Nat) : reserved OI p [] = 0 := rfl

theorem books_start (par : Parameters) : Books par (start par) where
  accounted := by
    intro OI p _ _
    change par.MaxBandwidth OI = par.MaxBandwidth OI - reserved OI p []
    rw [reserved_nil, sub_zero]
  enough OI _ _ _ := par.nonneg OI
  nonneg _ member := nomatch member
  unique := nodup_nil
  known _ member := nomatch member

theorem Books.run {events : List Event} {last : RSVP}
    (run : Run (Step par) (start par) events last) : Books par last := by
  refine run.invariant ?_ (books_start _)
  intro _ _ _ books happens
  exact ((handle_spec books _).2 _ happens).1

/--
After every event each priority of a link has what the reservations at it and
at the better ones leave, which is not negative and does not grow with the
priority, and a reservation only yields to one with a setup priority better
than its holding priority.
-/
theorem bandwidth_accounting {events : List Event} {last : RSVP}
    (run : Run (Step par) (start par) events last) :
    Accounted par last ∧
      (∀ OI p, Link par OI → p ≤ 7 → 0 ≤ last.UnResvBandwidth OI p) ∧
        (∀ OI p q, Link par OI → p ≤ q → q ≤ 7 →
          last.UnResvBandwidth OI q ≤ last.UnResvBandwidth OI p) ∧
          ∀ event next, Step par last event next → FairPreemption last event next := by
  have books := Books.run run
  refine ⟨books.accounted, books.enough, ?_, ?_⟩
  · intro _ p q link le range
    rw [books.accounted _ q link range, books.accounted _ p link (le.trans range)]
    exact sub_le_sub_left (reserved_mono _ le books.nonneg) _
  · intro _ _ happens
    exact ((handle_spec books _).2 _ happens).2

/-- One interface of bandwidth ten. -/
def oneLink : Parameters where
  isLocalAddress OI := OI = ⟨1⟩
  MaxBandwidth _ := 10
  nonneg _ := by norm_num

def ordinary : SessionObj := ⟨⟨7⟩, 1, 1, 7, 7, by decide, by decide⟩

def urgent : SessionObj := ⟨⟨7⟩, 2, 1, 3, 3, by decide, by decide⟩

def sixUnits : FlowDescriptor := ⟨6, ⟨⟨5⟩, 1⟩, 100, by norm_num⟩

def eightUnits : FlowDescriptor := ⟨8, ⟨⟨5⟩, 2⟩, 101, by norm_num⟩

/-- The second commit preempts the first reservation. -/
def preempted : List Event :=
  [.RESV_MESSAGE ordinary ⟨9⟩ ⟨1⟩ [sixUnits], .RSB_COMMIT_TIMER 1 [1000],
    .RESV_MESSAGE urgent ⟨9⟩ ⟨1⟩ [eightUnits], .RSB_COMMIT_TIMER 2 [1001]]

/-- The events one after the other, while none of them fails. -/
def replay (par : Parameters) : RSVP → List Event → Except Failure RSVP
  | rsvp, [] => .ok rsvp
  | rsvp, event :: rest => do
      let next ← handle par rsvp event
      replay par next rest

theorem run_of_replay {first last : RSVP} {events : List Event}
    (replayed : replay par first events = .ok last) : Run (Step par) first events last := by
  induction events generalizing first with
  | nil =>
    cases replayed
    exact .idle _
  | cons _ _ induction =>
    obtain ⟨_, handled, following⟩ := bind_eq_ok.mp replayed
    exact .next handled (induction following)

theorem bandwidth_accounting_preempted :
    ∃ last, Run (Step oneLink) (start oneLink) preempted last ∧
      Accounted oneLink last ∧
        last.RSBList.map (·.req_bandwidth) = [0, 8] ∧
          last.UnResvBandwidth ⟨1⟩ 2 = 10 ∧ last.UnResvBandwidth ⟨1⟩ 7 = 2 := by
  have computed :
      (fun last : RSVP => (last.RSBList.map (·.req_bandwidth),
          last.UnResvBandwidth ⟨1⟩ 2, last.UnResvBandwidth ⟨1⟩ 7)) <$>
        replay oneLink (start oneLink) preempted = .ok ([0, 8], 10, 2) := by
    decide +kernel
  obtain ⟨last, replayed, values⟩ := map_eq_ok.mp computed
  have run := run_of_replay replayed
  simp only [Prod.mk.injEq] at values
  exact ⟨last, run, (bandwidth_accounting run).1, values⟩

end Runs

end OmnetDsi.RsvpTe.BandwidthAccounting
