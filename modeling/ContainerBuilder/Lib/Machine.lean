/-!
# Event driven machines, their runs and their traces

A machine reacts to one event at a time. `step` returns the next state together with what the
reaction emits, or `none` when the event cannot happen in that state. `Run M G es s tr` says that
the events `es`, each of which met the side condition `G` in the state it arrived in, lead from the
initial state to `s` and emit the trace `tr`. Every invariant over runs is an instance of
`Run.inv`; every statement about a point *inside* a trace is an `Everywhere`.
-/

namespace Lib

/-- A deterministic reaction to events of type `ε` that emits values of type `ο`. -/
structure Machine (σ ε ο : Type) where
  init : σ
  initOut : List ο
  step : σ → ε → Option (σ × List ο)

namespace Machine

variable {σ ε ο : Type}

/-- The runs of `M` whose every step meets `G`. -/
inductive Run (M : Machine σ ε ο) (G : σ → ε → Prop) : List ε → σ → List ο → Prop
  | start : Run M G [] M.init M.initOut
  | snoc {es : List ε} {s : σ} {tr : List ο} {e : ε} {s' : σ} {out : List ο} :
    Run M G es s tr → G s e → M.step s e = some (s', out) → Run M G (es ++ [e]) s' (tr ++ out)

/-- No side condition. -/
def always (_ : σ) (_ : ε) : Prop := True

variable {M : Machine σ ε ο} {G : σ → ε → Prop}

/-- **Invariant rule**: what holds at the start and is kept by every step that meets `G` holds
after every run. The invariant may speak about the events and the trace so far; a step may use
what is already known of the run before it. -/
theorem Run.inv (I : List ε → σ → List ο → Prop) (hstart : I [] M.init M.initOut)
    (hstep : ∀ es s tr e s' out, M.Run G es s tr → I es s tr → G s e →
      M.step s e = some (s', out) → I (es ++ [e]) s' (tr ++ out)) :
    ∀ {es : List ε} {s : σ} {tr : List ο}, M.Run G es s tr → I es s tr := by
  intro es s tr h
  induction h with
  | start => exact hstart
  | snoc hr hg hs ih => exact hstep _ _ _ _ _ _ hr ih hg hs

theorem Run.mono {G' : σ → ε → Prop} (hG : ∀ s e, G s e → G' s e) {es : List ε} {s : σ}
    {tr : List ο} (h : M.Run G es s tr) : M.Run G' es s tr := by
  induction h with
  | start => exact .start
  | snoc _ hg hs ih => exact .snoc ih (hG _ _ hg) hs

/-- `M` where an event can happen only when `p` lets it. -/
def restrict (M : Machine σ ε ο) (p : σ → ε → Bool) : Machine σ ε ο where
  init := M.init
  initOut := M.initOut
  step s e := if p s e = true then M.step s e else none

theorem restrict_step_iff {p : σ → ε → Bool} {s : σ} {e : ε} {r : σ × List ο} :
    (M.restrict p).step s e = some r ↔ p s e = true ∧ M.step s e = some r := by
  by_cases hp : p s e = true <;> simp [restrict, hp]

/-- **Projection**: what happens under the restriction happens without it. -/
theorem Run.unrestrict {p : σ → ε → Bool} {es : List ε} {s : σ} {tr : List ο}
    (h : (M.restrict p).Run G es s tr) : M.Run (fun s e => p s e = true ∧ G s e) es s tr := by
  induction h with
  | start => exact .start
  | snoc _ hg hs ih =>
    obtain ⟨hp, hs⟩ := restrict_step_iff.1 hs
    exact ih.snoc ⟨hp, hg⟩ hs

/-- Evaluates the events `es` from `s`, checking the side condition `g` at each. -/
def execFrom (M : Machine σ ε ο) (g : σ → ε → Bool) : σ → List ο → List ε → Option (σ × List ο)
  | s, tr, [] => some (s, tr)
  | s, tr, e :: es =>
    if g s e then
      match M.step s e with
      | some (s', out) => execFrom M g s' (tr ++ out) es
      | none => none
    else none

def exec (M : Machine σ ε ο) (g : σ → ε → Bool) (es : List ε) : Option (σ × List ο) :=
  execFrom M g M.init M.initOut es

theorem execFrom_run {g : σ → ε → Bool} (hg : ∀ s e, g s e = true → G s e) :
    ∀ (es pre : List ε) (s : σ) (tr : List ο) (s' : σ) (tr' : List ο), M.Run G pre s tr →
      M.execFrom g s tr es = some (s', tr') → M.Run G (pre ++ es) s' tr'
  | [], pre, s, tr, s', tr', hr, h => by
    simp only [execFrom, Option.some.injEq, Prod.mk.injEq] at h
    obtain ⟨rfl, rfl⟩ := h
    simpa using hr
  | e :: es, pre, s, tr, s', tr', hr, h => by
    simp only [execFrom] at h
    split at h
    · rename_i hge
      split at h
      · rename_i s₁ out hs
        have := execFrom_run hg es (pre ++ [e]) s₁ (tr ++ out) s' tr' (hr.snoc (hg _ _ hge) hs) h
        simpa using this
      · cases h
    · cases h

/-- A successful evaluation is a run. -/
theorem exec_run {g : σ → ε → Bool} (hg : ∀ s e, g s e = true → G s e) (es : List ε) {s : σ}
    {tr : List ο} (h : M.exec g es = some (s, tr)) : M.Run G es s tr := by
  simpa using execFrom_run hg es [] M.init M.initOut s tr .start h

end Machine

/-! ## Points inside a trace -/

section Everywhere
variable {α : Type}

/-- `P past x` holds at every position of `tr`, where `x` is the element there and `past` is
what stands before it. -/
def Everywhere (P : List α → α → Prop) (tr : List α) : Prop :=
  ∀ past x rest, tr = past ++ x :: rest → P past x

@[simp] theorem everywhere_nil (P : List α → α → Prop) : Everywhere P [] := by
  intro past x rest h
  cases past <;> simp at h

@[simp] theorem everywhere_cons (P : List α → α → Prop) (x : α) (xs : List α) :
    Everywhere P (x :: xs) ↔ P [] x ∧ Everywhere (fun past => P (x :: past)) xs := by
  constructor
  · intro h
    exact ⟨h [] x xs rfl, fun past y rest e => h (x :: past) y rest (by simp [e])⟩
  · rintro ⟨h0, h1⟩ past y rest e
    cases past with
    | nil =>
      simp only [List.nil_append, List.cons.injEq] at e
      exact e.1 ▸ h0
    | cons z past =>
      simp only [List.cons_append, List.cons.injEq] at e
      exact e.1 ▸ h1 past y rest e.2

theorem everywhere_append (P : List α → α → Prop) (xs ys : List α) :
    Everywhere P (xs ++ ys) ↔ Everywhere P xs ∧ Everywhere (fun past => P (xs ++ past)) ys := by
  induction xs generalizing P with
  | nil => simp
  | cons x xs ih =>
    simp only [List.cons_append, everywhere_cons, ih, and_assoc]

theorem Everywhere.imp {P Q : List α → α → Prop} {tr : List α} (h : Everywhere P tr)
    (hPQ : ∀ past x, P past x → Q past x) : Everywhere Q tr :=
  fun past x rest e => hPQ past x (h past x rest e)

/-- A property that is only about elements which do not occur holds everywhere. -/
theorem everywhere_of_forall {P : List α → α → Prop} {tr : List α}
    (h : ∀ x ∈ tr, ∀ past, P past x) : Everywhere P tr :=
  fun past x rest e => h x (by simp [e]) past

end Everywhere

end Lib
