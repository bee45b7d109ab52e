import Mathlib

/-!
# Fuelled loops

A `while` loop as its turn function. One turn either goes round again with a new
state or leaves with a result; `run` takes at most `fuel` turns. Partial
correctness goes through `Reaches`, total correctness through a variant.
-/

set_option autoImplicit false

namespace Aff4Lite.Lib

/-- What one turn of a loop does. -/
inductive Turn (State Result : Type) where
  | next (state : State)
  | done (result : Result)

namespace Loop

variable {State Result : Type}

/-- The result after at most `fuel` turns, or `none` while the loop still runs. -/
def run (turn : State → Turn State Result) : Nat → State → Option Result
  | 0, _ => none
  | fuel + 1, state =>
      match turn state with
      | .next after => run turn fuel after
      | .done result => some result

/-- The states the loop head sees when it is entered at `start`. -/
inductive Reaches (turn : State → Turn State Result) (start : State) : State → Prop where
  | refl : Reaches turn start start
  | step {state after : State} :
      Reaches turn start state → turn state = .next after → Reaches turn start after

theorem run_next {turn : State → Turn State Result} {state after : State}
    (moved : turn state = .next after) (fuel : Nat) :
    run turn (fuel + 1) state = run turn fuel after := by
  simp only [run, moved]

theorem run_done {turn : State → Turn State Result} {state : State} {result : Result}
    (finished : turn state = .done result) (fuel : Nat) :
    run turn (fuel + 1) state = some result := by
  simp only [run, finished]

theorem run_mono {turn : State → Turn State Result} {fuel more : Nat} {state : State}
    {result : Result} (finished : run turn fuel state = some result) (enough : fuel ≤ more) :
    run turn more state = some result := by
  induction fuel generalizing more state with
  | zero => simp [run] at finished
  | succ fuel ih =>
      obtain ⟨more, rfl⟩ : ∃ rest, more = rest + 1 := ⟨more - 1, by omega⟩
      cases turned : turn state with
      | next after =>
          rw [run_next turned] at finished ⊢
          exact ih finished (by omega)
      | done value =>
          rw [run_done turned] at finished ⊢
          exact finished

theorem run_unique {turn : State → Turn State Result} {fuel more : Nat} {state : State}
    {left right : Result} (leftRun : run turn fuel state = some left)
    (rightRun : run turn more state = some right) : left = right := by
  have leftMore := run_mono leftRun (Nat.le_max_left fuel more)
  have rightMore := run_mono rightRun (Nat.le_max_right fuel more)
  exact Option.some.inj (leftMore.symm.trans rightMore)

theorem Reaches.trans {turn : State → Turn State Result} {start middle finish : State}
    (first : Reaches turn start middle) (second : Reaches turn middle finish) :
    Reaches turn start finish := by
  induction second with
  | refl => exact first
  | step _ moved ih => exact .step ih moved

/-- The invariant rule: what one turn preserves, every reached state has. -/
theorem Reaches.invariant {turn : State → Turn State Result} {start state : State}
    (reached : Reaches turn start state) (holds : State → Prop) (initial : holds start)
    (preserved : ∀ before after, holds before → turn before = .next after → holds after) :
    holds state := by
  induction reached with
  | refl => exact initial
  | step _ moved ih => exact preserved _ _ ih moved

theorem run_reaches {turn : State → Turn State Result} {fuel : Nat} {start : State}
    {result : Result} (finished : run turn fuel start = some result) :
    ∃ last, Reaches turn start last ∧ turn last = .done result := by
  induction fuel generalizing start with
  | zero => simp [run] at finished
  | succ fuel ih =>
      cases turned : turn start with
      | done value =>
          rw [run_done turned] at finished
          exact ⟨start, .refl, turned.trans (congrArg _ (Option.some.inj finished))⟩
      | next after =>
          rw [run_next turned] at finished
          obtain ⟨last, reached, left⟩ := ih finished
          exact ⟨last, .trans (.step .refl turned) reached, left⟩

theorem Reaches.run {turn : State → Turn State Result} {start state : State} {result : Result}
    (reached : Reaches turn start state) (left : turn state = .done result) :
    ∃ fuel, Loop.run turn fuel start = some result := by
  have finishes : ∀ middle, Reaches turn start middle →
      (∃ fuel, Loop.run turn fuel middle = some result) →
      ∃ fuel, Loop.run turn fuel start = some result := by
    intro middle path
    induction path with
    | refl => exact id
    | step _ moved ih =>
        rintro ⟨fuel, ran⟩
        exact ih ⟨fuel + 1, (run_next moved fuel).trans ran⟩
  exact finishes state reached ⟨1, run_done left 0⟩

/-- A turn from `state` leaves with a result that meets `post`, or goes round to a state
where `holds` and the variant is smaller. -/
def Progress (turn : State → Turn State Result) (holds : State → Prop) (variant : State → Nat)
    (post : Result → Prop) (state : State) : Prop :=
  (∃ result, turn state = .done result ∧ post result) ∨
    ∃ after, turn state = .next after ∧ holds after ∧ variant after < variant state

theorem Progress.next {turn : State → Turn State Result} {holds : State → Prop}
    {variant : State → Nat} {post : Result → Prop} {state after : State}
    (progress : Progress turn holds variant post state) (moved : turn state = .next after) :
    holds after ∧ variant after < variant state := by
  rcases progress with ⟨result, left, _⟩ | ⟨other, turned, facts⟩
  · rw [left] at moved
    cases moved
  · rw [turned] at moved
    cases moved
    exact facts

/-- Total correctness: where every turn makes progress, the loop leaves, and its result
meets the postcondition. -/
theorem run_total {turn : State → Turn State Result} (holds : State → Prop)
    (variant : State → Nat) (post : Result → Prop)
    (progress : ∀ state, holds state → Progress turn holds variant post state)
    {fuel : Nat} {start : State} (initial : holds start) (enough : variant start < fuel) :
    ∃ result, run turn fuel start = some result ∧ post result := by
  induction fuel generalizing start with
  | zero => exact absurd enough (Nat.not_lt_zero _)
  | succ fuel ih =>
      rcases progress start initial with ⟨result, left, meets⟩ | ⟨after, moved, preserved, less⟩
      · exact ⟨result, run_done left fuel, meets⟩
      · rw [run_next moved]
        exact ih preserved (by omega)

theorem Reaches.holds {turn : State → Turn State Result} {start state : State}
    (reached : Reaches turn start state) {holds : State → Prop} {variant : State → Nat}
    {post : Result → Prop}
    (progress : ∀ state, holds state → Progress turn holds variant post state)
    (initial : holds start) : holds state :=
  reached.invariant holds initial fun before _ held moved => ((progress before held).next moved).1

/-- A loop that can always go round from an invariant never leaves. -/
theorem run_diverges {turn : State → Turn State Result} (holds : State → Prop)
    (continues : ∀ before, holds before → ∃ after, turn before = .next after ∧ holds after)
    {start : State} (initial : holds start) (fuel : Nat) : run turn fuel start = none := by
  induction fuel generalizing start with
  | zero => rfl
  | succ fuel ih =>
      obtain ⟨after, moved, preserved⟩ := continues start initial
      rw [run_next moved]
      exact ih preserved

/-- The states that the loop head sees in at most `fuel` turns, in order. -/
def trace (turn : State → Turn State Result) : Nat → State → List State
  | 0, _ => []
  | fuel + 1, state =>
      match turn state with
      | .next after => state :: trace turn fuel after
      | .done _ => [state]

theorem trace_next {turn : State → Turn State Result} {state after : State}
    (moved : turn state = .next after) (fuel : Nat) :
    trace turn (fuel + 1) state = state :: trace turn fuel after := by
  simp only [trace, moved]

theorem trace_done {turn : State → Turn State Result} {state : State} {result : Result}
    (finished : turn state = .done result) (fuel : Nat) :
    trace turn (fuel + 1) state = [state] := by
  simp only [trace, finished]

/-- Two turns that agree, up to what relates the states and the results. -/
inductive TurnRel {State' Result' : Type} (states : State → State' → Prop)
    (results : Result → Result' → Prop) : Turn State Result → Turn State' Result' → Prop where
  | next {left : State} {right : State'} :
      states left right → TurnRel states results (.next left) (.next right)
  | done {left : Result} {right : Result'} :
      results left right → TurnRel states results (.done left) (.done right)

/-- Two loops whose turns agree from related states have related results. -/
theorem run_rel {State' Result' : Type} {turn : State → Turn State Result}
    {other : State' → Turn State' Result'} {states : State → State' → Prop}
    {results : Result → Result' → Prop}
    (agree : ∀ left right, states left right → TurnRel states results (turn left) (other right))
    (fuel : Nat) {left : State} {right : State'} (start : states left right) :
    Option.Rel results (run turn fuel left) (run other fuel right) := by
  induction fuel generalizing left right with
  | zero => exact .none
  | succ fuel ih =>
      have turns := agree left right start
      unfold run
      generalize turn left = first at turns ⊢
      generalize other right = second at turns ⊢
      cases turns with
      | next related => exact ih related
      | done related => exact .some related

end Loop

/-- The invariant rule for a loop over a list that may stop without a result. -/
theorem foldlM_keeps {Item State : Type} {body : State → Item → Option State}
    {holds : State → Prop}
    (kept : ∀ before item after, holds before → body before item = some after → holds after)
    {items : List Item} {start result : State} (initial : holds start)
    (finished : items.foldlM body start = some result) : holds result := by
  induction items generalizing start with
  | nil =>
      cases finished
      exact initial
  | cons item items ih =>
      rw [List.foldlM_cons] at finished
      cases turned : body start item with
      | none => simp [turned] at finished
      | some after =>
          rw [turned] at finished
          exact ih (kept start item after initial turned) finished

/-- The items that a loop sees which stops behind the first one that fails. -/
def takeThrough {Item : Type} (passes : Item → Bool) : List Item → List Item
  | [] => []
  | item :: items => if passes item then item :: takeThrough passes items else [item]

end Aff4Lite.Lib
