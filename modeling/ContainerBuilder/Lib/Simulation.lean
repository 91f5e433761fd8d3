import ContainerBuilder.Lib.Machine

/-!
# Simulation

A machine simulates another when each step of the concrete one is matched by at most one step of the
abstract one that shows the same. `v₁` and `v₂` say what of an output is visible, so a simulation
may forget internal steps and rename the rest. `Simulation.run` lifts the matching from steps to runs,
side conditions included: what is known of all runs of the abstract machine holds of the concrete one.
-/

namespace Lib

variable {σ₁ ε₁ ο₁ σ₂ ε₂ ο₂ τ : Type}

/-- From `t` the abstract machine shows `seen`, in one step or by staying where it is, and ends in
a state that meets `R`. -/
inductive Echoed (M : Machine σ₂ ε₂ ο₂) (G : σ₂ → ε₂ → Prop) (v : ο₂ → Option τ) (R : σ₂ → Prop)
    (t : σ₂) (seen : List τ) : Prop
  | stays : R t → seen = [] → Echoed M G v R t seen
  | moves (e : ε₂) (t' : σ₂) (out : List ο₂) : G t e → M.step t e = some (t', out) → R t' →
    out.filterMap v = seen → Echoed M G v R t seen

/-- `R` relates the states of `M₁`, whose steps meet `G₁`, to states of `M₂`, whose steps meet
`G₂`. -/
structure Simulation (M₁ : Machine σ₁ ε₁ ο₁) (G₁ : σ₁ → ε₁ → Prop) (v₁ : ο₁ → Option τ)
    (M₂ : Machine σ₂ ε₂ ο₂) (G₂ : σ₂ → ε₂ → Prop) (v₂ : ο₂ → Option τ) (R : σ₁ → σ₂ → Prop) :
    Prop where
  start : R M₁.init M₂.init
  seen : M₁.initOut.filterMap v₁ = M₂.initOut.filterMap v₂
  step : ∀ {s t e s' out}, R s t → G₁ s e → M₁.step s e = some (s', out) →
    Echoed M₂ G₂ v₂ (R s') t (out.filterMap v₁)

namespace Simulation

variable {M₁ : Machine σ₁ ε₁ ο₁} {G₁ : σ₁ → ε₁ → Prop} {v₁ : ο₁ → Option τ}
  {M₂ : Machine σ₂ ε₂ ο₂} {G₂ : σ₂ → ε₂ → Prop} {v₂ : ο₂ → Option τ} {R : σ₁ → σ₂ → Prop}

/-- **Every run is matched** by a run that shows the same and ends in a related state. -/
theorem run (h : Simulation M₁ G₁ v₁ M₂ G₂ v₂ R) {es : List ε₁} {s : σ₁} {tr : List ο₁}
    (hr : M₁.Run G₁ es s tr) :
    ∃ es₂ t tr₂, M₂.Run G₂ es₂ t tr₂ ∧ R s t ∧ tr.filterMap v₁ = tr₂.filterMap v₂ := by
  induction hr with
  | start => exact ⟨[], _, _, .start, h.start, h.seen⟩
  | snoc _ hg hs ih =>
    obtain ⟨es₂, t, tr₂, hrun, hrel, hseen⟩ := ih
    rw [List.filterMap_append, hseen]
    cases h.step hrel hg hs with
    | stays hrel' hnone =>
      rw [hnone, List.append_nil]
      exact ⟨es₂, t, tr₂, hrun, hrel', rfl⟩
    | moves e t' out hg' hstep hrel' hout =>
      refine ⟨es₂ ++ [e], t', tr₂ ++ out, hrun.snoc hg' hstep, hrel', ?_⟩
      rw [List.filterMap_append, hout]

end Simulation

end Lib
