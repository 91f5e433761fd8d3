/-!
# Calls that may throw

A call returns a value or throws, and either way leaves a state: what it has done before it throws
stays done. `Returns` says that it returns, and with what; `Keeps`, that an invariant holds
afterwards however it ends. Both compose along `>>=`.
-/

namespace Lib

variable {ε σ α β : Type}

abbrev CallM (ε σ α : Type) := ExceptT ε (StateM σ) α

/-- A call that does what `f` says. -/
def call (f : σ → Except ε α × σ) : CallM ε σ α := ExceptT.mk f

/-- Runs a call from a state. -/
def exec (c : CallM ε σ α) (s : σ) : Except ε α × σ := Id.run (StateT.run (ExceptT.run c) s)

/-- The call `c` returns `a` and leaves the state `s'`. -/
def Returns (c : CallM ε σ α) (s : σ) (a : α) (s' : σ) : Prop := exec c s = (.ok a, s')

/-- However `c` ends, `I` holds afterwards if it did before. -/
def Keeps (I : σ → Prop) (c : CallM ε σ α) : Prop := ∀ s, I s → I (exec c s).2

/-- If `c` throws, `I` holds afterwards if it did before. -/
def ThrowKeeps (I : σ → Prop) (c : CallM ε σ α) : Prop :=
  ∀ s, I s → I (exec c s).2 ∨ ∃ a s', Returns c s a s'

@[simp] theorem exec_call (f : σ → Except ε α × σ) (s : σ) : exec (call f) s = f s := rfl

@[simp] theorem exec_pure (a : α) (s : σ) : exec (pure a : CallM ε σ α) s = (.ok a, s) := rfl

theorem exec_bind (c : CallM ε σ α) (f : α → CallM ε σ β) (s : σ) :
    exec (c >>= f) s =
      match exec c s with
      | (.ok a, s') => exec (f a) s'
      | (.error ex, s') => (.error ex, s') := by
  simp only [exec, ExceptT.run_bind, StateT.run_bind, Id.run_bind]
  generalize (StateT.run (ExceptT.run c) s).run = r
  obtain ⟨a, s'⟩ := r
  cases a with
  | ok a => rfl
  | error ex => rfl

theorem exec_bind_of_returns {c : CallM ε σ α} {f : α → CallM ε σ β} {s s' : σ} {a : α}
    (h : Returns c s a s') : exec (c >>= f) s = exec (f a) s' := by
  rw [exec_bind, show exec c s = (.ok a, s') from h]

theorem Returns.unique {c : CallM ε σ α} {s s' s'' : σ} {a b : α} (h : Returns c s a s')
    (h' : Returns c s b s'') : b = a ∧ s'' = s' := by
  have he := h'.symm.trans h
  cases he
  exact ⟨rfl, rfl⟩

theorem returns_pure {a b : α} {s s' : σ} :
    Returns (pure a : CallM ε σ α) s b s' ↔ b = a ∧ s' = s := by
  unfold Returns
  rw [exec_pure]
  constructor
  · rintro ⟨⟩
    exact ⟨rfl, rfl⟩
  · rintro ⟨rfl, rfl⟩
    rfl

theorem returns_bind {c : CallM ε σ α} {f : α → CallM ε σ β} {s s'' : σ} {b : β} :
    Returns (c >>= f) s b s'' ↔ ∃ a s', Returns c s a s' ∧ Returns (f a) s' b s'' := by
  unfold Returns
  rw [exec_bind]
  generalize exec c s = r
  obtain ⟨a, s'⟩ := r
  cases a with
  | ok a =>
    constructor
    · exact fun h => ⟨a, s', rfl, h⟩
    · rintro ⟨a, s', ⟨⟩, h⟩
      exact h
  | error ex =>
    constructor
    · exact nofun
    · rintro ⟨a, s', ⟨⟩, -⟩

theorem keeps_pure {I : σ → Prop} (a : α) : Keeps I (pure a : CallM ε σ α) := fun _ h => h

theorem keeps_bind {I : σ → Prop} {c : CallM ε σ α} {f : α → CallM ε σ β} (hc : Keeps I c)
    (hf : ∀ a, Keeps I (f a)) : Keeps I (c >>= f) := by
  intro s hs
  have hmid := hc s hs
  rw [exec_bind]
  generalize exec c s = r at hmid
  obtain ⟨a, s'⟩ := r
  cases a with
  | ok a => exact hf a s' hmid
  | error ex => exact hmid

theorem Keeps.of_returns {I : σ → Prop} {c : CallM ε σ α} {s s' : σ} {a : α} (hk : Keeps I c)
    (hr : Returns c s a s') (hs : I s) : I s' := by
  have hkept := hk s hs
  rwa [show exec c s = (.ok a, s') from hr] at hkept

theorem throwKeeps_bind {I : σ → Prop} {c : CallM ε σ α} {f : α → CallM ε σ β} (hc : Keeps I c)
    (hf : ∀ a, ThrowKeeps I (f a)) : ThrowKeeps I (c >>= f) := by
  intro s hs
  have hmid := hc s hs
  simp only [Returns, exec_bind]
  generalize exec c s = r at hmid
  obtain ⟨a, s'⟩ := r
  cases a with
  | ok a =>
    rcases hf a s' hmid with hkept | ⟨b, s'', hreturns⟩
    · exact .inl hkept
    · exact .inr ⟨b, s'', hreturns⟩
  | error ex => exact .inl hmid

/-- `I` holds after two calls if it does however the first one ends, and after the second one where
the first has returned. -/
theorem exec_bind_inv {I : σ → Prop} {c : CallM ε σ α} {f : α → CallM ε σ β} {s : σ}
    (hc : I (exec c s).2) (hf : ∀ a s', Returns c s a s' → I s' → I (exec (f a) s').2) :
    I (exec (c >>= f) s).2 := by
  rw [exec_bind]
  cases hexec : exec c s with
  | mk r s' =>
    rw [hexec] at hc
    cases r with
    | ok a => exact hf a s' hexec hc
    | error ex => exact hc

/-- Two calls are alike where their parts are. -/
theorem exec_bind_congr {c d : CallM ε σ α} {f g : α → CallM ε σ β} {s : σ}
    (hc : exec d s = exec c s) (hf : ∀ a s', Returns c s a s' → exec (g a) s' = exec (f a) s') :
    exec (d >>= g) s = exec (c >>= f) s := by
  rw [exec_bind, exec_bind, hc]
  cases hexec : exec c s with
  | mk r s' =>
    cases r with
    | ok a => exact hf a s' hexec
    | error ex => rfl

/-- A call that has brought `I` about, with others after it. -/
theorem ThrowKeeps.after {I : σ → Prop} {c : CallM ε σ α} {f : α → CallM ε σ β} {s s' : σ} {a : α}
    (hf : ThrowKeeps I (f a)) (hc : Returns c s a s') (hs : I s') :
    I (exec (c >>= f) s).2 ∨ ∃ b s'', Returns (c >>= f) s b s'' := by
  have hexec : exec (c >>= f) s = exec (f a) s' := by
    rw [exec_bind, show exec c s = (.ok a, s') from hc]
  unfold Returns
  rw [hexec]
  exact hf s' hs

end Lib
