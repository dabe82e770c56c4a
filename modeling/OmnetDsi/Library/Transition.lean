import Mathlib.Data.List.Induction

/-!
# Runs of a labelled transition relation

A system is given by a relation `step state event next`.  A run lists the
events in the order in which they happen; the relation may leave an event
without a successor, in which case no run continues with it.

The induction over runs is packaged once: `Run.invariant` for a property that
every step preserves, `Run.historyInvariant` for one that also speaks of the
events so far, `Run.guarded` for one that only guarded steps preserve,
and `Run.invariant_iff_guard` when the guard is the exact condition under
which a step preserves the property.
-/

namespace OmnetDsi.Library.Transition

variable {State Event : Type*}

/-- A finite run and the events it consists of. -/
inductive Run (step : State → Event → State → Prop) : State → List Event → State → Prop where
  | idle (state : State) : Run step state [] state
  | next {first middle last : State} {event : Event} {rest : List Event}
      (head : step first event middle) (tail : Run step middle rest last) :
      Run step first (event :: rest) last

/-- At most one state follows a state under an event. -/
def Deterministic (step : State → Event → State → Prop) : Prop :=
  ∀ state event left right, step state event left → step state event right → left = right

/-- The steps taken from states in which the guard admits the event. -/
def guardedStep (guard : State → Event → Prop)
    (step : State → Event → State → Prop) : State → Event → State → Prop :=
  fun state event next => guard state event ∧ step state event next

namespace Run

theorem nil_iff : Run step first [] last ↔ last = first := by
  constructor
  · intro run
    cases run
    rfl
  · rintro rfl
    exact .idle _

theorem cons_iff :
    Run step first (event :: rest) last ↔
      ∃ middle, step first event middle ∧ Run step middle rest last := by
  constructor
  · intro run
    cases run with
    | next head tail => exact ⟨_, head, tail⟩
  · rintro ⟨_, head, tail⟩
    exact .next head tail

theorem append_iff :
    Run step first (before ++ after) last ↔
      ∃ middle, Run step first before middle ∧ Run step middle after last := by
  induction before generalizing first with
  | nil => simp [nil_iff]
  | cons _ _ induction =>
    simp only [List.cons_append, cons_iff, induction]
    constructor
    · rintro ⟨next, head, middle, tail, final⟩
      exact ⟨middle, ⟨next, head, tail⟩, final⟩
    · rintro ⟨middle, ⟨next, head, tail⟩, final⟩
      exact ⟨next, head, middle, tail, final⟩

theorem append (left : Run step first before middle) (right : Run step middle after last) :
    Run step first (before ++ after) last :=
  append_iff.mpr ⟨middle, left, right⟩

theorem snoc (left : Run step first before middle) (head : step middle event last) :
    Run step first (before ++ [event]) last :=
  left.append (.next head (.idle _))

/-- The run along another relation that allows each of its steps. -/
theorem mono (allowed : ∀ state event next, step state event next → other state event next)
    (run : Run step first events last) : Run other first events last := by
  induction run with
  | idle _ => exact .idle _
  | next head _ induction => exact .next (allowed _ _ _ head) induction

/-- A property that every step preserves holds along every run. -/
theorem invariant {property : State → Prop}
    (preserved : ∀ state event next, property state → step state event next → property next)
    {first last : State} {events : List Event} (run : Run step first events last)
    (initial : property first) : property last := by
  induction run with
  | idle _ => exact initial
  | next head _ induction => exact induction (preserved _ _ _ initial head)

/--
A property of the events so far and the state, which every step preserves,
holds along every run.
-/
theorem historyInvariant (property : List Event → State → Prop) (past : List Event)
    (preserved : ∀ past state event next,
      property past state → step state event next → property (past ++ [event]) next)
    {first last : State}
    {events : List Event}
    (run : Run step first events last)
    (initial : property past first) :
    property (past ++ events) last := by
  induction run generalizing past with
  | idle _ => simpa using initial
  | next head _ induction =>
    have following := induction _ (preserved _ _ _ _ initial head)
    simpa using following

/-- A property that guarded steps preserve holds along guarded runs. -/
theorem guarded {guard : State → Event → Prop} {property : State → Prop}
    (preserved : ∀ state event next,
      property state → guard state event → step state event next → property next)
    {first last : State}
    {events : List Event}
    (run : Run (guardedStep guard step) first events last)
    (initial : property first) :
    property last :=
  run.invariant
    (fun state event next holds taken => preserved _ _ next holds taken.1 taken.2) initial

/-- The run of a step function that may fail. -/
theorem of_foldlM {serve : State → Event → Except Error State}
    (served : events.foldlM serve first = .ok last) :
    Run (fun state event next => serve state event = .ok next) first events last := by
  induction events generalizing first with
  | nil =>
    cases served
    exact .idle _
  | cons event _ induction =>
    rw [List.foldlM_cons] at served
    cases head : serve first event with
    | error _ =>
      rw [head] at served
      cases served
    | ok _ =>
      rw [head] at served
      exact .next head (induction served)

theorem deterministic (unique : Deterministic step) (one : Run step first events left)
    (other : Run step first events right) : left = right := by
  induction one with
  | idle _ => exact (nil_iff.mp other).symm
  | next head _ induction =>
    obtain ⟨_, otherHead, otherTail⟩ := cons_iff.mp other
    have same := unique _ _ _ _ head otherHead
    exact induction (same ▸ otherTail)

/--
If a step from a state with the property leads to a state with the property
exactly when the guard admits it, then the property holds after every prefix
of a run exactly when the guard admits every event of the run.
-/
theorem invariant_iff_guard (unique : Deterministic step)
    (guard : State → Event → Prop) (property : State → Prop)
    (exact : ∀ state event next,
      property state → step state event next → (property next ↔ guard state event))
    (run : Run step first events last)
    (initial : property first) :
    (∀ before after middle,
        events = before ++ after → Run step first before middle → property middle) ↔
      ∀ before event after middle,
        events = before ++ event :: after → Run step first before middle → guard middle event := by
  constructor
  · intro always _ _ after _ split prefixRun
    subst split
    obtain ⟨_, otherRun, rest⟩ := append_iff.mp run
    obtain ⟨next, head, _⟩ := cons_iff.mp rest
    have same := deterministic unique otherRun prefixRun
    subst same
    have here := always _ _ _ rfl otherRun
    have there := always _ after _ (by simp) (otherRun.snoc head)
    exact (exact _ _ _ here head).mp there
  · intro admitted before after middle split prefixRun
    induction before using List.reverseRecOn generalizing after middle with
    | nil =>
      rwa [nil_iff.mp prefixRun]
    | append_singleton before event induction =>
      obtain ⟨previous, previousRun, rest⟩ := append_iff.mp prefixRun
      obtain ⟨next, head, final⟩ := cons_iff.mp rest
      rw [nil_iff.mp final]
      have splitAt : events = before ++ event :: after := by simpa using split
      have here := induction _ previous splitAt previousRun
      have allowed := admitted before event after previous splitAt previousRun
      exact (exact previous event next here head).mpr allowed

end Run

end OmnetDsi.Library.Transition
