import OmnetDsi.Base.PassiveQueue
import Mathlib.Tactic.Linarith
import Mathlib.Tactic.Positivity

/-!
# Random early detection

A `REDQueue` is a passive queue that may drop a packet although it has room:
between two thresholds of the average queue length a packet is dropped with
probability `pa`, which grows with the number of packets since the last drop.
The arithmetic is that of rational numbers, and the factor by which the
average decays while the queue is idle is part of the arrival.

The quotient `pa` is a probability, or leads to a certain drop, as long as
`count * pb` is at most one.  Nothing in `enqueue` sees to that: packets that
arrive at a low average are counted too, and when the average rises later the
divisor is negative.
-/

namespace OmnetDsi.Base.RandomEarlyDetection

open Base.PassiveQueue Library.Transition

/-! ## The queue -/

structure Parameters where
  wq : ℚ
  minth : ℚ
  maxth : ℚ
  maxp : ℚ
  weight : 0 < wq ∧ wq ≤ 1
  thresholds : 0 ≤ minth ∧ minth < maxth
  probability : 0 < maxp ∧ maxp ≤ 1

/--
A packet with what its arrival depends on: the factor `pow(1-wq, m)` for the
time that the queue has been idle, and the number that `dblrand()` draws.
-/
structure Arrival (Packet : Type) where
  packet : Packet
  decay : ℚ
  dblrand : ℚ
  decays : 0 ≤ decay ∧ decay ≤ 1
  drawn : 0 ≤ dblrand ∧ dblrand < 1

structure REDQueue (Packet : Type) where
  queue : List (Arrival Packet) := []
  avg : ℚ := 0
  /-- The packets since the last marked packet. -/
  count : Int := -1
  numEarlyDrops : Nat := 0

/-- What a division of two `double` values gives. -/
inductive Ratio where
  | number (value : ℚ)
  | infinite (negative : Bool)
  | undefined
deriving DecidableEq

namespace Ratio

def divide (dividend divisor : ℚ) : Ratio :=
  if divisor ≠ 0 then .number (dividend / divisor)
  else if dividend = 0 then .undefined
  else .infinite (decide (dividend < 0))

/-- The comparison `value < ratio`. -/
def exceeds : Ratio → ℚ → Bool
  | .number ratio, value => decide (value < ratio)
  | .infinite negative, _ => !negative
  | .undefined, _ => false

end Ratio

section Enqueueing

/-- The average queue length after an arrival. -/
def average (parameters : Parameters) (self : REDQueue Packet) (decay : ℚ) : ℚ :=
  if self.queue.isEmpty then decay * self.avg
  else (1 - parameters.wq) * self.avg + parameters.wq * self.queue.length

def pb (parameters : Parameters) (avg : ℚ) : ℚ :=
  parameters.maxp * (avg - parameters.minth) / (parameters.maxth - parameters.minth)

def pa (parameters : Parameters) (avg : ℚ) (count : Int) : Ratio :=
  .divide (pb parameters avg) (1 - count * pb parameters avg)

/-- What the average and the count decide about the packet. -/
structure Verdict where
  mark : Bool
  count : Int
  early : Bool := false

def judge (parameters : Parameters) (avg : ℚ) (count : Int) (dblrand : ℚ) : Verdict :=
  if parameters.minth ≤ avg ∧ avg < parameters.maxth then
    let count := count + 1
    if (pa parameters avg count).exceeds dblrand then { mark := true, count := 0, early := true }
    else { mark := false, count }
  else if parameters.maxth ≤ avg then { mark := true, count := 0 }
  else { mark := false, count := -1 }

/-- The second part: the packet has been dropped. -/
def enqueue (parameters : Parameters) (self : REDQueue Packet)
    (arrival : Arrival Packet) : REDQueue Packet × Bool :=
  let avg := average parameters self arrival.decay
  let verdict := judge parameters avg self.count arrival.dblrand
  let self :=
    { self with
      avg
      count := verdict.count
      numEarlyDrops := self.numEarlyDrops + verdict.early.toNat }
  if verdict.mark = true ∨ parameters.maxth ≤ self.queue.length then (self, true)
  else ({ self with queue := self.queue ++ [arrival] }, false)

def dequeue (self : REDQueue Packet) : Option (Arrival Packet) × REDQueue Packet :=
  match self.queue with
  | [] => (none, self)
  | pk :: rest => (some pk, { self with queue := rest })

def red (parameters : Parameters) : Discipline (REDQueue Packet) (Arrival Packet) where
  enqueue := enqueue parameters
  dequeue

/-- What an arrival does: it is dropped, or it is the last of the queue. -/
theorem enqueue_cases (enqueued : enqueue parameters self arrival = (after, dropped)) :
    after.count =
        (judge parameters (average parameters self arrival.decay) self.count
          arrival.dblrand).count ∧
      after.queue = if dropped then self.queue else self.queue ++ [arrival] := by
  dsimp only [enqueue] at enqueued
  split_ifs at enqueued
  all_goals
    cases enqueued
    exact ⟨rfl, rfl⟩

/-- The packets that are not dropped leave the queue in their order. -/
theorem red_inOrder : InOrder (red parameters) (@REDQueue.queue Packet) := by
  constructor
  · intro _ _ _ refused
    exact (enqueue_cases refused).2
  · intro _ _ _ taken
    exact (enqueue_cases taken).2
  · intro store _ nothing
    dsimp only [red, dequeue] at nothing
    cases contents : store.queue with
    | nil =>
      rw [contents] at nothing
      cases nothing
      exact ⟨rfl, contents⟩
    | cons _ _ =>
      rw [contents] at nothing
      cases nothing
  · intro store _ _ first
    dsimp only [red, dequeue] at first
    cases contents : store.queue with
    | nil =>
      rw [contents] at first
      cases first
    | cons _ _ =>
      rw [contents] at first
      cases first
      rfl

/-! ## The drop probability -/

/-- The averages at which packets are dropped with a probability. -/
def Between (parameters : Parameters) (avg : ℚ) : Prop :=
  parameters.minth ≤ avg ∧ avg < parameters.maxth

/-- The packet is dropped whatever number is drawn. -/
def CertainlyDropped (parameters : Parameters) (self : REDQueue Packet)
    (arrival : Arrival Packet) : Prop :=
  ∀ dblrand (drawn : 0 ≤ dblrand ∧ dblrand < 1),
    (enqueue parameters self { arrival with dblrand, drawn }).2 = true

/-- The quotient that `enqueue` computes for the packet. -/
def computed (parameters : Parameters) (self : REDQueue Packet)
    (arrival : Arrival Packet) : Ratio :=
  pa parameters (average parameters self arrival.decay) (self.count + 1)

/-- The packet is dropped with a probability, or for certain. -/
structure HasProbability (parameters : Parameters) (store : REDQueue Packet)
    (arrival : Arrival Packet) : Prop where
  defined :
    (∃ value, computed parameters store arrival = .number value ∧
      0 ≤ value ∧ value ≤ 1) ∨ CertainlyDropped parameters store arrival
  nonnegative : ∀ value, computed parameters store arrival = .number value → 0 ≤ value

/--
The count of the packet times `maxp`, scaled by where the average lies between
the thresholds, is at most one.
-/
def WithinCount (parameters : Parameters) (self : REDQueue Packet)
    (arrival : Arrival Packet) : Prop :=
  ((self.count + 1 : Int) : ℚ) *
      (parameters.maxp * (average parameters self arrival.decay - parameters.minth)) ≤
    parameters.maxth - parameters.minth

theorem pb_nonneg (between : Between parameters avg) : 0 ≤ pb parameters avg := by
  have above := sub_nonneg.mpr between.1
  have apart := sub_pos.mpr parameters.thresholds.2
  have positive := parameters.probability.1
  unfold pb
  positivity

theorem withinCount_iff :
    WithinCount parameters self arrival ↔
      ((self.count + 1 : Int) : ℚ) * pb parameters (average parameters self arrival.decay) ≤ 1 := by
  have apart := sub_pos.mpr parameters.thresholds.2
  rw [WithinCount, pb, ← mul_div_assoc, div_le_one apart]

theorem certainlyDropped_of_exceeds
    (between : Between parameters (average parameters self arrival.decay))
    (exceeds : ∀ dblrand, dblrand < 1 → (computed parameters self arrival).exceeds dblrand = true) :
    CertainlyDropped parameters self arrival := by
  intro dblrand drawn
  have marked :
      (judge parameters (average parameters self arrival.decay) self.count
        dblrand).mark = true := by
    unfold Between at between
    rw [judge, if_pos between]
    unfold computed at exceeds
    rw [if_pos (exceeds _ drawn.2)]
  rw [enqueue, if_pos (.inl marked)]

theorem hasProbability_iff (counted : -1 ≤ self.count)
    (between : Between parameters (average parameters self arrival.decay)) :
    HasProbability parameters self arrival ↔ WithinCount parameters self arrival := by
  have low := pb_nonneg between
  rw [withinCount_iff]
  have formula :
      computed parameters self arrival =
        .divide (pb parameters (average parameters self arrival.decay))
          (1 - ((self.count + 1 : Int) : ℚ) *
            pb parameters (average parameters self arrival.decay)) :=
    rfl
  have numbered : (0 : ℚ) ≤ ((self.count + 1 : Int) : ℚ) := by
    have least : 0 ≤ self.count + 1 := by omega
    exact_mod_cast least
  generalize pb parameters (average parameters self arrival.decay) = chance at low formula ⊢
  generalize ((self.count + 1 : Int) : ℚ) = count at formula numbered ⊢
  constructor
  · intro proper
    by_contra beyond
    have negative : 1 - count * chance < 0 := by linarith
    have divides : computed parameters self arrival = .number (chance / (1 - count * chance)) := by
      rw [formula, Ratio.divide, if_pos negative.ne]
    have positive : 0 < chance := by
      rcases low.eq_or_lt with zero | positive
      · rw [← zero, mul_zero] at beyond
        exact absurd zero_le_one beyond
      · exact positive
    exact absurd (proper.nonnegative _ divides)
      (not_le.mpr (div_neg_of_pos_of_neg positive negative))
  · intro _
    have rest : 0 ≤ 1 - count * chance := by linarith
    rcases rest.eq_or_lt with zero | positive
    · -- the divisor is zero, and the quotient exceeds every number
      have whole : count * chance = 1 := by linarith
      have some : chance ≠ 0 := by
        rintro rfl
        rw [mul_zero] at whole
        exact zero_ne_one whole
      have infinite : computed parameters self arrival = .infinite false := by
        rw [formula, ← zero, Ratio.divide, if_neg (not_not.mpr rfl),
          if_neg some, decide_eq_false (not_lt.mpr low)]
      refine ⟨.inr (certainlyDropped_of_exceeds between ?_), ?_⟩
      · intro _ _
        rw [infinite]
        rfl
      · intro _ number
        rw [infinite] at number
        cases number
    · have divides :
          computed parameters self arrival = .number (chance / (1 - count * chance)) := by
        rw [formula, Ratio.divide, if_pos positive.ne']
      have least : 0 ≤ chance / (1 - count * chance) := div_nonneg low positive.le
      constructor
      · by_cases most : chance / (1 - count * chance) ≤ 1
        · exact .inl ⟨_, divides, least, most⟩
        · refine .inr (certainlyDropped_of_exceeds between ?_)
          intro _ _
          rw [divides, Ratio.exceeds, decide_eq_true_eq]
          linarith
      · intro _ number
        rw [divides] at number
        cases number
        exact least

/-! ## Every run -/

theorem judge_count (counted : -1 ≤ count)
    (dblrand : ℚ) : -1 ≤ (judge parameters avg count dblrand).count := by
  dsimp only [judge]
  split_ifs
  · decide
  · change -1 ≤ count + 1
    omega
  · decide
  · decide

/-- No packet has a negative number. -/
def Counted (self : REDQueue Packet) : Prop :=
  -1 ≤ self.count

theorem counted_run {events : List (Event (Arrival Packet))}
    {state : Observed (REDQueue Packet) (Arrival Packet)}
    (run : Run (Step (red parameters)) (initialized {}) events state) :
    Counted state.queue.store := by
  have enqueued (self : REDQueue Packet) (arrival : Arrival Packet)
      (counted : Counted self) : Counted (enqueue parameters self arrival).1 := by
    rcases same : enqueue _ _ _ with ⟨_, _⟩
    rw [Counted, (enqueue_cases same).1]
    exact judge_count counted arrival.dblrand
  have dequeued (self : REDQueue Packet) (counted : Counted self) : Counted (dequeue self).2 := by
    unfold dequeue
    split
    all_goals exact counted
  exact store_run enqueued dequeued run (le_refl (-1 : Int))

/-- Neither the queue nor its average gets past the upper threshold by a packet. -/
structure Restrained (parameters : Parameters) (store : REDQueue Packet) : Prop where
  length : store.queue.length < parameters.maxth + 1
  nonneg : 0 ≤ store.avg
  avg : store.avg < parameters.maxth + 1

theorem average_restrained (restrained : Restrained parameters self) (arrival : Arrival Packet) :
    0 ≤ average parameters self arrival.decay ∧
      average parameters self arrival.decay < parameters.maxth + 1 := by
  rcases restrained with ⟨length, nonneg, avg⟩
  rcases parameters.weight with ⟨positive, most⟩
  have size : (0 : ℚ) ≤ self.queue.length := Nat.cast_nonneg _
  unfold average
  split_ifs
  · exact ⟨mul_nonneg arrival.decays.1 nonneg, by nlinarith [arrival.decays.2]⟩
  · constructor
    · nlinarith [mul_nonneg positive.le size]
    · nlinarith

theorem enqueue_restrained (parameters : Parameters) (self : REDQueue Packet)
    (arrival : Arrival Packet) (restrained : Restrained parameters self) :
    Restrained parameters (enqueue parameters self arrival).1 := by
  rcases average_restrained restrained arrival with ⟨nonneg, avg⟩
  dsimp only [enqueue]
  split_ifs with dropped
  · exact ⟨restrained.length, nonneg, avg⟩
  · have short := lt_of_not_ge fun full => dropped (.inr full)
    refine ⟨?_, nonneg, avg⟩
    rw [List.length_append, List.length_singleton, Nat.cast_add, Nat.cast_one]
    exact add_lt_add_left short 1

theorem dequeue_restrained (self : REDQueue Packet) (restrained : Restrained parameters self) :
    Restrained parameters (dequeue self).2 := by
  rcases restrained with ⟨length, nonneg, avg⟩
  unfold dequeue
  split
  · exact ⟨length, nonneg, avg⟩
  case h_2 contents =>
    rw [contents, List.length_cons, Nat.cast_add, Nat.cast_one] at length
    exact ⟨by linarith, nonneg, avg⟩

/-- Packets leave in their order; the queue is bounded, whatever is drawn. -/
theorem red_accounted {events : List (Event (Arrival Packet))}
    {state : Observed (REDQueue Packet) (Arrival Packet)}
    (run : Run (Step (red parameters)) (initialized {}) events state) :
    Recorded events state ∧ Accounted REDQueue.queue state ∧
      Restrained parameters state.queue.store := by
  refine ⟨recorded_run run, ?_, ?_⟩
  · have preserved (before : Observed (REDQueue Packet) (Arrival Packet))
        (event : Event (Arrival Packet)) (after : Observed (REDQueue Packet) (Arrival Packet))
        (accounted : Accounted REDQueue.queue before)
        (step : Step (red parameters) before event after) : Accounted REDQueue.queue after :=
      accounted_step red_inOrder accounted step
    exact run.invariant preserved (accounted_initialized rfl)
  · have positive := parameters.thresholds.1.trans_lt parameters.thresholds.2
    refine store_run (enqueue_restrained parameters) dequeue_restrained run ⟨?_, le_rfl, ?_⟩
    · exact (by norm_num; linarith : ((0 : Nat) : ℚ) < parameters.maxth + 1)
    · exact (by linarith : (0 : ℚ) < parameters.maxth + 1)

end Enqueueing

/-! ## A queue that is emptied between the arrivals -/

/-- The average is the length of the queue that the packet finds. -/
def unweighted : Parameters where
  wq := 1
  minth := 0
  maxth := 2
  maxp := 1
  weight := by decide
  thresholds := by decide
  probability := by decide

/-- A packet after a long time, for which the lowest number is drawn. -/
def rested : Arrival Unit where
  packet := ()
  decay := 0
  dblrand := 0
  decays := by decide
  drawn := by decide

/-- Three packets, of which two are taken before the next one comes. -/
def emptied : List (Event (Arrival Unit)) :=
  [.message rested, .request, .message rested, .request, .message rested]

def unused : Observed (REDQueue Unit) (Arrival Unit) :=
  initialized {}

theorem red_accounted_emptied :
    ∃ state : Observed (REDQueue Unit) (Arrival Unit),
      Recorded emptied state ∧ Accounted REDQueue.queue state ∧
        Restrained unweighted state.queue.store := by
  have run : Run (Step (red unweighted)) (initialized {}) emptied _ :=
    .next rfl (.next rfl (.next rfl (.next rfl (.next rfl (.idle _)))))
  exact ⟨_, red_accounted run⟩

end OmnetDsi.Base.RandomEarlyDetection
