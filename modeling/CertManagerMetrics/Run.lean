/-!
# Runs of a step function

The concurrent models of the package (`Interleaving`, `NoResetInterleaving` and
`ConcurrentNewServer`) are each an atomic step `step : σ → α → Option σ` of a shared state,
`none` where the action is not enabled, and an interleaving is a list of actions taken in
order.  What a run inherits from its steps is proved here once:

* `runSteps_append` : a run of two lists of actions is the run of the first, then that of the
  second;
* `runSteps_invariant` : a property that every step of the run keeps holds at its end.
-/

namespace CertManagerMetrics

/-- The actions `acts` taken in order from `s`; `none` as soon as one is not enabled. -/
def runSteps {σ α : Type} (step : σ → α → Option σ) (s : σ) : List α → Option σ
  | [] => some s
  | a :: acts => (step s a).bind (runSteps step · acts)

section

variable {σ α : Type} {step : σ → α → Option σ}

theorem runSteps_cons {s s₁ : σ} {a : α} (h : step s a = some s₁) (acts : List α) :
    runSteps step s (a :: acts) = runSteps step s₁ acts := by
  rw [runSteps, h, Option.some_bind]

theorem runSteps_append (s : σ) (acts acts' : List α) :
    runSteps step s (acts ++ acts') = (runSteps step s acts).bind (runSteps step · acts') := by
  induction acts generalizing s with
  | nil => rfl
  | cons a acts ih => cases h : step s a <;> simp [runSteps, h, ih]

theorem runSteps_append_of_eq {s s₁ : σ} {acts : List α} (h : runSteps step s acts = some s₁)
    (acts' : List α) : runSteps step s (acts ++ acts') = runSteps step s₁ acts' := by
  rw [runSteps_append, h, Option.some_bind]

/-- **A property that every step of the run keeps holds at its end.** -/
theorem runSteps_invariant {I : σ → Prop} {s s' : σ} {acts : List α}
    (hstep : ∀ a ∈ acts, ∀ t t', I t → step t a = some t' → I t') (hs : I s)
    (h : runSteps step s acts = some s') : I s' := by
  induction acts generalizing s with
  | nil => exact Option.some.inj h ▸ hs
  | cons a acts ih =>
    obtain ⟨s₁, h₁, h⟩ := Option.bind_eq_some.1 h
    exact ih (fun b hb => hstep b (List.mem_cons_of_mem a hb))
      (hstep a (List.mem_cons_self a acts) s s₁ hs h₁) h

end

end CertManagerMetrics
