import Mathlib.Order.Notation
import Mathlib.Tactic.Common

/-!
# Loops whose steps may fail

Computations in `Except` and the loop that counts from zero.  There are three
rules for loops: `forLoop_invariant` for what every successful step
preserves, `forLoop_total` when the property also makes the next step
succeed, and `forLoop_avoids` when it only excludes some errors.  `Yields`
says of a computation that it excludes errors and what its results are like.
-/

namespace OmnetDsi.Library.Fallible

open List

universe u

variable {Error Index : Type*} {State : Type u}

variable {first : Except Error State}

theorem bind_eq_ok :
    first >>= rest = .ok result ↔ ∃ state, first = .ok state ∧ rest state = .ok result := by
  cases first with
  | error _ =>
    constructor
    · intro success
      cases success
    · rintro ⟨state, success, _⟩
      cases success
  | ok state =>
    constructor
    · intro success
      exact ⟨state, rfl, success⟩
    · rintro ⟨_, same, success⟩
      cases same
      exact success

theorem map_eq_ok :
    image <$> first = .ok result ↔ ∃ state, first = .ok state ∧ image state = result := by
  cases first with
  | error _ =>
    constructor
    · intro success
      cases success
    · rintro ⟨state, success, _⟩
      cases success
  | ok state =>
    constructor
    · intro success
      cases success
      exact ⟨state, rfl, rfl⟩
    · rintro ⟨_, same, rfl⟩
      cases same
      rfl

variable {Other : Type*}

theorem mapError_eq_ok : first.mapError image = .ok result ↔ first = .ok result := by
  cases first with
  | error _ =>
    constructor
    all_goals
      intro success
      cases success
  | ok _ =>
    constructor
    all_goals
      intro success
      cases success
      rfl

/-- A test of the result, which a failure does not pass. -/
def succeedsWith (result : Except Error State) (test : State → Bool) : Bool :=
  match result with
  | .ok state => test state
  | .error _ => false

variable {result : Except Error State}

theorem succeedsWith_iff :
    succeedsWith result test = true ↔ ∃ state, result = .ok state ∧ test state = true := by
  cases result with
  | error _ => simp [succeedsWith]
  | ok _ => simp [succeedsWith]

/-- The computation does not end with one of these errors. -/
def Avoids (bad : Error → Prop) (result : Except Error State) : Prop :=
  ∀ e, result = .error e → ¬bad e

variable {state : State}

section Avoiding

theorem Avoids.of_eq_ok (success : result = .ok state) : Avoids bad result := by
  intro _ failure
  rw [success] at failure
  cases failure

theorem Avoids.error (harmless : ¬bad e) : Avoids bad (.error e : Except Error State) := by
  intro _ same
  cases same
  exact harmless

theorem Avoids.map (avoids : Avoids bad first) : Avoids bad (image <$> first) := by
  cases first with
  | error e =>
    intro _ same
    cases same
    exact avoids e rfl
  | ok _ => exact .of_eq_ok rfl

theorem Avoids.bind (head : Avoids bad first)
    (tail : ∀ state, first = .ok state → Avoids bad (rest state)) :
    Avoids bad (first >>= rest) := by
  cases first with
  | error e =>
    intro _ same
    cases same
    exact head e rfl
  | ok _ => exact tail _ rfl

theorem Avoids.mapError {bad : Other → Prop} {image : Error → Other}
    (avoids : Avoids (fun e => bad (image e)) first) : Avoids bad (first.mapError image) := by
  cases first with
  | error e =>
    intro _ same
    cases same
    exact avoids e rfl
  | ok _ => exact .of_eq_ok rfl

/-- What avoids every error has a result. -/
theorem Avoids.total (avoids : Avoids (fun _ => True) result) : ∃ state, result = .ok state := by
  cases result with
  | error e => exact absurd trivial (avoids e rfl)
  | ok state => exact ⟨state, rfl⟩

end Avoiding

/-- No error of the bad kind, and the property for every result. -/
def Yields (bad : Error → Prop) (property : State → Prop) (result : Except Error State) : Prop :=
  Avoids bad result ∧ ∀ state, result = .ok state → property state

variable {property : State → Prop}

section Yielding

variable {bad : Error → Prop}

theorem Yields.ok (holds : property state) : Yields bad property (.ok state) := by
  refine ⟨.of_eq_ok rfl, ?_⟩
  intro _ same
  cases same
  exact holds

theorem Yields.of_eq_ok (success : result = .ok state) (holds : property state)
    : Yields bad property result := by
  rw [success]
  exact .ok holds

theorem Yields.error (harmless : ¬bad e) : Yields bad property (.error e) := by
  constructor
  · intro _ same
    cases same
    exact harmless
  · intro _ success
    cases success

theorem Yields.bind {property : Result → Prop} (head : Yields bad middle first)
    (tail : ∀ state, middle state → Yields bad property (rest state)) :
    Yields bad property (first >>= rest) := by
  cases first with
  | error e => exact .error (head.1 e rfl)
  | ok _ => exact tail _ (head.2 _ rfl)

/-- When the errors are of no bad kind, only the results matter. -/
theorem Yields.mapError {bad : Other → Prop}
    {image : Error → Other} (harmless : ∀ e, ¬bad (image e))
    (holds : ∀ state, first = .ok state → property state) :
    Yields bad property (first.mapError image) := by
  cases first with
  | error e => exact .error (harmless e)
  | ok _ => exact .ok (holds _ rfl)

/-- Only the results matter. -/
abbrev Returns (property : State → Prop) (result : Except Error State) : Prop :=
  Yields (fun _ => False) property result

theorem Yields.returns (yields : Yields bad property result) : Returns property result :=
  ⟨fun _ _ => id, yields.2⟩

theorem Yields.mono (yields : Yields bad property result)
    (weakens : ∀ state, property state → weaker state) : Yields bad weaker result :=
  ⟨yields.1, fun state success => weakens _ (yields.2 _ success)⟩

end Yielding

variable {body : State → Index → Except Error State} {indices : List Index}

/-- What every successful step of a fold preserves. -/
theorem foldlM_invariant
    (preserved : ∀ state, ∀ i ∈ indices, ∀ next, property state →
      body state i = .ok next → property next)
    {first : State}
    (initial : property first)
    (success : indices.foldlM body first = .ok last) :
    property last := by
  induction indices generalizing first with
  | nil =>
    cases success
    exact initial
  | cons i _ induction =>
    rw [foldlM_cons, bind_eq_ok] at success
    rcases success with ⟨_, head, tail⟩
    refine induction ?_ ?_ tail
    · intro _ _ member
      exact preserved _ _ (mem_cons_of_mem _ member)
    · exact preserved _ i (mem_cons_self ..) _ initial head

variable {bad : Error → Prop}

/-- A fold, with a property that may speak of the indices that are done. -/
theorem foldlM_yields (property : List Index → State → Prop)
    (yields : ∀ done i rest, indices = done ++ i :: rest → ∀ state,
      property done state → Yields bad (property (done ++ [i])) (body state i))
    {first : State}
    (initial : property [] first) :
    Yields bad (property indices) (indices.foldlM body first) := by
  have rest_yields : ∀ rest done state, indices = done ++ rest →
      property done state → Yields bad (property indices) (rest.foldlM body state) := by
    intro rest
    induction rest with
    | nil =>
      intro _ _ all holds
      rw [all, append_nil]
      exact .ok holds
    | cons i _ induction =>
      intro _ _ all holds
      refine (yields _ i _ all _ holds).bind ?_
      intro _ here
      refine induction _ _ ?_ here
      rw [all, append_assoc, singleton_append]
  exact rest_yields _ [] _ rfl initial

/-- A fold whose body leaves the state as it is. -/
theorem foldlM_fixed (fixed : ∀ i ∈ indices, body state i = .ok state) :
    indices.foldlM body state = .ok state := by
  induction indices with
  | nil => rfl
  | cons i _ induction =>
    rw [foldlM_cons, fixed i mem_cons_self]
    exact induction fun other later => fixed _ (mem_cons_of_mem _ later)

/-- A fold that rewrites the entries of a table one after the other. -/
def updateAll {Key : Type*} [DecidableEq Key] {Value : Type u}
    (body : Key → Value → Except Error Value) (keys : List Key)
    (table : Key → Value) : Except Error (Key → Value) :=
  match keys with
  | [] => .ok table
  | key :: rest =>
    match body key (table key) with
    | .error e => .error e
    | .ok value => updateAll body rest (Function.update table key value)

section

variable {Key : Type*} [DecidableEq Key] {Value : Type u} {body : Key → Value → Except Error Value}
    {keys : List Key} (nodup : keys.Nodup)
include nodup

/-- Each entry is rewritten once, and the others stay. -/
theorem updateAll_eq_ok {next : Key → Value} (success : updateAll body keys table = .ok next) :
    (∀ key ∈ keys, body key (table key) = .ok (next key)) ∧ ∀ key ∉ keys, next key = table key := by
  induction keys generalizing table with
  | nil =>
    cases success
    refine ⟨?_, fun _ _ => rfl⟩
    intro _ member
    cases member
  | cons key _ induction =>
    rw [nodup_cons] at nodup
    unfold updateAll at success
    cases head : body key (table key) with
    | error _ =>
      rw [head] at success
      cases success
    | ok _ =>
      rw [head] at success
      have tail := induction nodup.2 success
      constructor
      · intro other member
        rcases mem_cons.mp member with rfl | later
        · rw [head, tail.2 _ nodup.1, Function.update_self]
        · have different : other ≠ key := by
            rintro rfl
            exact nodup.1 later
          have done := tail.1 _ later
          rwa [Function.update_of_ne different] at done
      · intro _ absent
        rw [mem_cons, not_or] at absent
        rw [tail.2 _ absent.2, Function.update_of_ne absent.1]

theorem updateAll_avoids (avoids : ∀ key ∈ keys, Avoids bad (body key (table key))) :
    Avoids bad (updateAll body keys table) := by
  induction keys generalizing table with
  | nil => exact .of_eq_ok rfl
  | cons key _ induction =>
    rw [nodup_cons] at nodup
    unfold updateAll
    cases head : body key (table key) with
    | error e =>
      intro _ same
      cases same
      exact avoids _ (mem_cons_self ..) e head
    | ok _ =>
      apply induction nodup.2
      intro other later
      have different : other ≠ key := by
        rintro rfl
        exact nodup.1 later
      rw [Function.update_of_ne different]
      exact avoids _ (mem_cons_of_mem _ later)

end

/-- `for (c = 0; c < count; c++)` with a body that may fail. -/
def forLoop (body : Nat → State → Except Error State) : Nat → State → Except Error State
  | 0, state => .ok state
  | count + 1, state => do
      let state ← forLoop body count state
      body count state

section Rules

variable (property : Nat → State → Prop) {body : Nat → State → Except Error State}

variable {count : Nat}

theorem forLoop_invariant
    (preserved : ∀ c < count, ∀ state next, property c state →
      body c state = .ok next → property (c + 1) next)
    {first : State}
    (initial : property 0 first)
    (success : forLoop body count first = .ok last) :
    property count last := by
  induction count generalizing last with
  | zero =>
    cases success
    exact initial
  | succ _ induction =>
    rcases bind_eq_ok.mp success with ⟨_, earlier, final⟩
    refine preserved _ (Nat.lt_succ_self _) _ _ ?_ final
    refine induction ?_ earlier
    intro c early
    exact preserved c (Nat.lt_succ_of_lt early)

theorem forLoop_total
    (advances : ∀ c < count, ∀ state, property c state →
      ∃ next, body c state = .ok next ∧ property (c + 1) next)
    {first : State}
    (initial : property 0 first) :
    ∃ last, forLoop body count first = .ok last ∧ property count last := by
  induction count with
  | zero => exact ⟨first, rfl, initial⟩
  | succ _ induction =>
    have before := induction fun c early => advances c (Nat.lt_succ_of_lt early)
    rcases before with ⟨state, earlier, holds⟩
    rcases advances _ (Nat.lt_succ_self _) _ holds with ⟨last, final, ends⟩
    exact ⟨last, bind_eq_ok.mpr ⟨state, earlier, final⟩, ends⟩

theorem forLoop_avoids (avoids : ∀ c < count, ∀ state, property c state → Avoids bad (body c state))
    (preserved : ∀ c < count, ∀ state next, property c state →
      body c state = .ok next → property (c + 1) next)
    {first : State}
    (initial : property 0 first) :
    Avoids bad (forLoop body count first) := by
  induction count with
  | zero => exact .of_eq_ok rfl
  | succ _ induction =>
    apply Avoids.bind
    · apply induction
      · intro c early
        exact avoids c (Nat.lt_succ_of_lt early)
      · intro c early
        exact preserved c (Nat.lt_succ_of_lt early)
    · intro _ earlier
      apply avoids _ (Nat.lt_succ_self _)
      refine forLoop_invariant _ ?_ initial earlier
      intro c early
      exact preserved c (Nat.lt_succ_of_lt early)

end Rules

end OmnetDsi.Library.Fallible
