import Mathlib

/-!
# Sessions

A machine serves one request after the other, until a fault ends it or a request never comes
back. Two machines differ only where an answer does: steps that keep a relation between the
states and have the same outcomes make equal sessions.
-/

set_option autoImplicit false

namespace Aff4Lite.Lib

/-- How one request ends: `none` where it never comes back. -/
abbrev Outcome (Fault Answer : Type) := Option (Except Fault Answer)

section Session

variable {Request Answer Fault State Spec : Type}

/-- The outcomes of the requests, as far as they are reached. -/
def session (step : Request → State → Outcome Fault (Answer × State)) :
    List Request → State → List (Outcome Fault Answer)
  | [], _ => []
  | request :: requests, state =>
      match step request state with
      | none => [none]
      | some (.error fault) => [some (.error fault)]
      | some (.ok (answer, after)) => some (.ok answer) :: session step requests after

/-- The same outcome, and related states where it is an answer. -/
inductive SameOutcome (related : State → Spec → Prop) :
    Outcome Fault (Answer × State) → Outcome Fault (Answer × Spec) → Prop where
  | never : SameOutcome related none none
  | fault (fault : Fault) : SameOutcome related (some (.error fault)) (some (.error fault))
  | answer {state : State} {spec : Spec} (answer : Answer) : related state spec →
      SameOutcome related (some (.ok (answer, state))) (some (.ok (answer, spec)))

/-- `related` may count down the requests that are left. -/
theorem session_eq {step : Request → State → Outcome Fault (Answer × State)}
    {specStep : Request → Spec → Outcome Fault (Answer × Spec)}
    (related : Nat → State → Spec → Prop) {allowed : Request → Prop}
    (steps : ∀ request left state spec, allowed request → related (left + 1) state spec →
      SameOutcome (related left) (step request state) (specStep request spec))
    {requests : List Request} (all : ∀ request ∈ requests, allowed request) {state : State}
    {spec : Spec} (initial : related requests.length state spec) :
    session step requests state = session specStep requests spec := by
  induction requests generalizing state spec with
  | nil => rfl
  | cons request requests ih =>
      have same := steps request requests.length state spec (all request List.mem_cons_self) initial
      have later := fun other member => all other (List.mem_cons_of_mem request member)
      unfold session
      generalize step request state = left at same ⊢
      generalize specStep request spec = right at same ⊢
      cases same with
      | never => rfl
      | fault fault => rfl
      | answer answer kept =>
          dsimp only
          rw [ih later kept]

end Session

end Aff4Lite.Lib
