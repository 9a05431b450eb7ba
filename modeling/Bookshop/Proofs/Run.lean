/-!
# Runs of calls

A call is a function of a state that returns an answer and the next state. When every single call
answers like one of a model and keeps a relation between the two states, a run of calls does so, too.
-/

namespace Bookshop

/-- Calls in order, with their answers. -/
def runAll {α β γ : Type} (call : α → γ → β × γ) : List α → γ → List β × γ
  | [], state => ([], state)
  | a :: rest, state =>
    let (answer, state) := call a state
    let (answers, state) := runAll call rest state
    (answer :: answers, state)

/-- When every single call answers like its model and keeps a relation between the states, so does a
    run of calls. -/
theorem runAll_simulates {α β γ δ : Type} {call : α → γ → β × γ} {model : α → δ → β × δ}
    {Related : γ → δ → Prop} {calls : List α}
    (hcall : ∀ a ∈ calls, ∀ state modelState, Related state modelState →
      ∃ after, call a state = ((model a modelState).1, after) ∧
        Related after (model a modelState).2)
    {state : γ} {modelState : δ} (h : Related state modelState) :
    ∃ after, runAll call calls state = ((runAll model calls modelState).1, after) ∧
      Related after (runAll model calls modelState).2 := by
  induction calls generalizing state modelState with
  | nil => exact ⟨state, rfl, h⟩
  | cons a calls ih =>
    obtain ⟨middle, hfirst, hmiddle⟩ := hcall a List.mem_cons_self state modelState h
    obtain ⟨after, hrest, hafter⟩ :=
      ih (fun b hb => hcall b (List.mem_cons_of_mem _ hb)) hmiddle
    refine ⟨after, ?_, hafter⟩
    simp only [runAll, hfirst, hrest]

end Bookshop
