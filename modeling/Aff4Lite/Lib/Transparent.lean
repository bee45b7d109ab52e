import Mathlib

/-!
# Objects whose state does not show

A call answers a request and may change a hidden state. The object is transparent where
every answer meets a specification of the request alone; then the answers of a whole run
do, in whatever order the requests come and whatever else was asked in between.
-/

set_option autoImplicit false

namespace Aff4Lite.Lib

variable {Request Answer State Ref : Type}

/-- The answers of calls one after the other, and the state they leave. -/
def replies (call : Request → State → Answer × State) :
    List Request → State → List Answer × State
  | [], state => ([], state)
  | request :: requests, state =>
      let outcome := call request state
      let later := replies call requests outcome.2
      (outcome.1 :: later.1, later.2)

structure Transparent (call : Request → State → Answer × State) (good : State → Prop)
    (meets : Request → Answer → Prop) : Prop where
  answered : ∀ request state, good state → meets request (call request state).1
  kept : ∀ request state, good state → good (call request state).2

namespace Transparent

variable {call : Request → State → Answer × State} {good : State → Prop}
  {meets : Request → Answer → Prop}

theorem replied (transparent : Transparent call good meets) (requests : List Request)
    {state : State} (initial : good state) :
    List.Forall₂ meets requests (replies call requests state).1 ∧
      good (replies call requests state).2 := by
  induction requests generalizing state with
  | nil => exact ⟨.nil, initial⟩
  | cons request requests ih =>
      obtain ⟨later, kept⟩ := ih (transparent.kept request state initial)
      exact ⟨.cons (transparent.answered request state initial) later, kept⟩

end Transparent

/-! ## Many objects -/

/-- One of many objects is called, the others keep their states. -/
def callOf [DecidableEq Ref] (call : Ref → Request → State → Answer × State)
    (request : Ref × Request) (world : Ref → State) : Answer × (Ref → State) :=
  let outcome := call request.1 request.2 (world request.1)
  (outcome.1, Function.update world request.1 outcome.2)

theorem Transparent.family [DecidableEq Ref] {call : Ref → Request → State → Answer × State}
    {good : Ref → State → Prop} {meets : Ref → Request → Answer → Prop}
    (each : ∀ ref, Transparent (call ref) (good ref) (meets ref)) :
    Transparent (callOf call) (fun world => ∀ ref, good ref (world ref))
      fun request answer => meets request.1 request.2 answer where
  answered request _ all := (each request.1).answered request.2 _ (all request.1)
  kept request _ all :=
    (Function.forall_update_iff _ fun ref state => good ref state).mpr
      ⟨(each request.1).kept request.2 _ (all request.1), fun ref _ => all ref⟩

end Aff4Lite.Lib
