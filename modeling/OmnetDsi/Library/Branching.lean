import Mathlib.Algebra.BigOperators.Group.List.Basic
import Mathlib.Algebra.Order.Ring.Nat
import OmnetDsi.Library.Transition

/-!
# Tokens that branch

A system of tokens that are served one at a time, in any order.  A token that
is served vanishes, leaves its children in its place and adds its outputs to
the results.  What a token does depends on nothing but itself, so the results
do not depend on the order: what is owed by the tokens in flight, together
with the results so far, is the same along every run (`run_conserved`).

If the children together weigh less than their token, every run ends
(`run_length_le`).
-/

namespace OmnetDsi.Library.Branching

open Library.Transition List

/-- The tokens in flight and the results so far. -/
structure State (Token Result : Type*) where
  inFlight : List Token
  results : List Result

/-- What becomes of each token. -/
structure Rules (Token Result : Type*) where
  children : Token → List Token
  outputs : Token → List Result

/-- One token is served; its children may be sent off in any order. -/
inductive Step (rules : Rules Token Result) :
    State Token Result → Token → State Token Result → Prop where
  | serve (before after : List Token) (token : Token) (results : List Result)
      {sent : List Token} (children : sent.Perm (rules.children token)) :
      Step rules ⟨before ++ token :: after, results⟩ token
        ⟨before ++ after ++ sent, results ++ rules.outputs token⟩

section Conservation

variable {rules : Rules Token Result} {owed : Token → List Result}

/-- The results and what the tokens in flight will still give. -/
def total (owed : Token → List Result) (state : State Token Result) : List Result :=
  state.results ++ state.inFlight.flatMap owed

section

variable
    (pays : ∀ token, (owed token).Perm (rules.outputs token ++ (rules.children token).flatMap owed))
include pays

theorem Step.conserved {next : State Token Result} (step : Step rules state token next) :
    (total owed state).Perm (total owed next) := by
  cases step with
  | serve before after token _ children =>
    simp only [total, flatMap_append, flatMap_cons, append_assoc]
    apply Perm.append_left
    rename_i sent
    calc
      before.flatMap owed ++ (owed token ++ after.flatMap owed)
      _ |>.Perm (owed token ++ (before.flatMap owed ++ after.flatMap owed)) := by
        rw [← append_assoc, ← append_assoc]
        exact perm_append_comm.append_right _
      _ |>.Perm
          (rules.outputs token ++ (rules.children token).flatMap owed ++
            (before.flatMap owed ++ after.flatMap owed)) :=
        (pays token).append_right _
      _ |>.Perm
          (rules.outputs token ++
            (before.flatMap owed ++ (after.flatMap owed ++ sent.flatMap owed))) := by
        rw [append_assoc, ← append_assoc (before.flatMap _)]
        apply Perm.append_left
        exact perm_append_comm.trans ((children.flatMap_right _).symm.append_left _)

theorem run_conserved
    (run : Run (Step rules) state served last) : (total owed state).Perm (total owed last) := by
  induction run with
  | idle _ => rfl
  | next head _ induction => exact (head.conserved pays).trans induction

end

end Conservation

/-! ## Termination -/

section Termination

variable {rules : Rules Token Result} {weight : Token → Nat}

/-- The weight of the tokens in flight. -/
def load (weight : Token → Nat) (state : State Token Result) : Nat :=
  (state.inFlight.map weight).sum

section

variable (decreases : ∀ token, ((rules.children token).map weight).sum < weight token)
include decreases

theorem Step.load_lt {next : State Token Result}
    (step : Step rules state token next) : load weight next < load weight state := by
  cases step with
  | serve _ _ token _ children =>
    have less := decreases token
    have sums := (children.map weight).sum_eq
    simp only [load, map_append, map_cons, sum_append, sum_cons, sums]
    omega

theorem run_length_le (run : Run (Step rules) state served last) :
    served.length + load weight last ≤ load weight state := by
  induction run with
  | idle _ => simp
  | next head _ _ =>
    have less := head.load_lt decreases
    rw [length_cons]
    omega

end

end Termination

end OmnetDsi.Library.Branching
