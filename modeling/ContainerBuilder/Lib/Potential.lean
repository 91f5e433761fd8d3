import Mathlib
import ContainerBuilder.Lib.Machine

/-!
# Potentials

A potential counts the work that is still to be done: an event spends some of it and adds some. Over a
run what has been spent is bounded by what there was at the start and what was added. When the events
of interest add nothing, they stop after as many steps as there is work, and if a state in which none
of them can happen is a goal state then a goal is reached whatever order they come in.
-/

namespace Lib.Machine

variable {σ ε ο : Type}

/-- The steps that lead on from a state. -/
inductive Path (M : Machine σ ε ο) (G : σ → ε → Prop) (s : σ) : List ε → σ → List ο → Prop
  | start : Path M G s [] s []
  | snoc {es : List ε} {t : σ} {tr : List ο} {e : ε} {t' : σ} {out : List ο} :
    Path M G s es t tr → G t e → M.step t e = some (t', out) →
    Path M G s (es ++ [e]) t' (tr ++ out)

variable {M : Machine σ ε ο} {G D : σ → ε → Prop}

theorem Run.append {es : List ε} {s : σ} {tr : List ο} (hr : M.Run G es s tr) {fs : List ε} {t : σ}
    {us : List ο} (hp : M.Path G s fs t us) : M.Run G (es ++ fs) t (tr ++ us) := by
  induction hp with
  | start => simpa using hr
  | snoc _ hg hs ih =>
    rw [← List.append_assoc, ← List.append_assoc]
    exact ih.snoc hg hs

theorem Path.mono {G' : σ → ε → Prop} (hG : ∀ s e, G s e → G' s e) {s t : σ} {es : List ε}
    {tr : List ο} (h : M.Path G s es t tr) : M.Path G' s es t tr := by
  induction h with
  | start => exact .start
  | snoc _ hg hs ih => exact .snoc ih (hG _ _ hg) hs

/-- In every run whose steps meet `G` an event spends `spends` of the work and adds `adds`. -/
structure Potential (M : Machine σ ε ο) (G : σ → ε → Prop) where
  work : σ → Nat
  spends : ε → Nat
  adds : ε → Nat
  step : ∀ {es s tr e s' out}, M.Run G es s tr → G s e → M.step s e = some (s', out) →
    work s' + spends e ≤ work s + adds e

namespace Potential

/-- **What is spent was there or was added.** -/
theorem path (P : M.Potential G) {es : List ε} {s : σ} {tr : List ο} (hr : M.Run G es s tr)
    {fs : List ε} {t : σ} {us : List ο} (hp : M.Path G s fs t us) :
    P.work t + (fs.map P.spends).sum ≤ P.work s + (fs.map P.adds).sum := by
  induction hp with
  | start => simp
  | snoc hp hg hs ih =>
    have := P.step (hr.append hp) hg hs
    simp only [List.map_append, List.sum_append, List.map_cons, List.map_nil, List.sum_cons,
      List.sum_nil]
    omega

theorem run (P : M.Potential G) {es : List ε} {s : σ} {tr : List ο} (hr : M.Run G es s tr) :
    P.work s + (es.map P.spends).sum ≤ P.work M.init + (es.map P.adds).sum := by
  induction hr with
  | start => simp
  | snoc hr hg hs ih =>
    have := P.step hr hg hs
    simp only [List.map_append, List.sum_append, List.map_cons, List.map_nil, List.sum_cons,
      List.sum_nil]
    omega

end Potential

end Lib.Machine
