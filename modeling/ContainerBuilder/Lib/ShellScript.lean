import ContainerBuilder.Lib.Calls

/-!
# Shell scripts

A command of a script has an exit status, and the script goes on whatever it is, unless it looks at
it. Only `exit` ends a script early. It ends with the status it exits with or with that of its last
command: `Ends`. What a script that ends with 0 has done is read off command by command, with
`ends_bind` and its instances; where it exits with another status, only the path that goes on is
left (`ends_zero_bind`).
-/

namespace Lib

variable {σ α β : Type}

/-- Part of a script; it throws the status it exits with. -/
abbrev ShellScript (σ α : Type) := CallM Nat σ α

/-- `exit` -/
def exit (status : Nat) : ShellScript σ α := call fun s => (.error status, s)

/-- A command: its status, and the state it leaves. -/
def simple (f : σ → Nat × σ) : ShellScript σ Nat := call fun s => (.ok (f s).1, (f s).2)

/-- An assignment. -/
def assign (f : σ → σ) : ShellScript σ Unit := call fun s => (.ok (), f s)

/-- Status and state at the end of a script, whose value is the status of its last command. -/
def result (c : ShellScript σ Nat) (s : σ) : Nat × σ :=
  match exec c s with
  | (.ok status, s') => (status, s')
  | (.error status, s') => (status, s')

def Ends (c : ShellScript σ Nat) (s : σ) (status : Nat) (s' : σ) : Prop := result c s = (status, s')

theorem ends_result (c : ShellScript σ Nat) (s : σ) : Ends c s (result c s).1 (result c s).2 := rfl

/-- The part `c` does not exit with 0. -/
def FailsOnly (c : ShellScript σ α) : Prop := ∀ s s', exec c s ≠ (.error 0, s')

section
variable {c : ShellScript σ α} {f : α → ShellScript σ Nat} {s s' : σ} {status : Nat}

theorem returns_simple {g : σ → Nat × σ} :
    Returns (simple g) s status s' ↔ g s = (status, s') := by
  unfold Returns simple
  rw [exec_call]
  constructor
  · rintro ⟨⟩
    rfl
  · intro h
    rw [h]

theorem returns_assign {g : σ → σ} {a : Unit} : Returns (assign g) s a s' ↔ s' = g s := by
  unfold Returns assign
  rw [exec_call]
  constructor
  · rintro ⟨⟩
    rfl
  · rintro rfl
    rfl

theorem failsOnly_simple (g : σ → Nat × σ) : FailsOnly (simple g) := nofun

theorem failsOnly_assign (g : σ → σ) : FailsOnly (assign g) := nofun

theorem failsOnly_pure (a : α) : FailsOnly (pure a : ShellScript σ α) := nofun

theorem failsOnly_exit (h : status ≠ 0) : FailsOnly (exit status : ShellScript σ α) := by
  intro s s' he
  cases he
  exact h rfl

theorem FailsOnly.bind {f : α → ShellScript σ β} (hc : FailsOnly c) (hf : ∀ a, FailsOnly (f a)) :
    FailsOnly (c >>= f) := by
  intro s s' he
  rw [exec_bind] at he
  cases hexec : exec c s with
  | mk r s₁ =>
    rw [hexec] at he
    cases r with
    | ok a => exact hf a s₁ s' he
    | error n =>
      cases he
      exact hc s _ hexec

theorem ends_simple {g : σ → Nat × σ} : Ends (simple g) s status s' ↔ g s = (status, s') := Iff.rfl

/-- A script goes on after its first part, or that exits. -/
theorem ends_bind :
    Ends (c >>= f) s status s' ↔
      (∃ a s₁, Returns c s a s₁ ∧ Ends (f a) s₁ status s') ∨ exec c s = (.error status, s') := by
  unfold Ends result Returns
  rw [exec_bind]
  cases hexec : exec c s with
  | mk r s₁ =>
    cases r with
    | ok a =>
      simp only [Prod.mk.injEq, Except.ok.injEq, reduceCtorEq, false_and, or_false]
      constructor
      · exact fun h => ⟨a, s₁, ⟨rfl, rfl⟩, h⟩
      · rintro ⟨_, _, ⟨rfl, rfl⟩, h⟩
        exact h
    | error n => simp

/-- A script that ends with 0 has not exited where it only does so on a failure. -/
theorem ends_zero_bind (hc : FailsOnly c) :
    Ends (c >>= f) s 0 s' ↔ ∃ a s₁, Returns c s a s₁ ∧ Ends (f a) s₁ 0 s' :=
  ends_bind.trans ⟨fun h => h.resolve_right (hc s s'), .inl⟩

/-- An invariant at the next part of a script that ends with 0. -/
theorem Ends.next {I : σ → Prop} (h : Ends (c >>= f) s 0 s') (hc : FailsOnly c) (hk : Keeps I c)
    (hs : I s) : ∃ a s₁, Returns c s a s₁ ∧ I s₁ ∧ Ends (f a) s₁ 0 s' := by
  obtain ⟨a, s₁, hr, hrest⟩ := (ends_zero_bind hc).1 h
  exact ⟨a, s₁, hr, hk.of_returns hr hs, hrest⟩

theorem keeps_simple {I : σ → Prop} {g : σ → Nat × σ} (h : ∀ s, I s → I (g s).2) :
    Keeps I (simple g) := h

theorem keeps_assign {I : σ → Prop} {g : σ → σ} (h : ∀ s, I s → I (g s)) : Keeps I (assign g) := h

theorem keeps_exit {I : σ → Prop} (status : Nat) : Keeps I (exit status : ShellScript σ α) :=
  fun _ h => h

end

end Lib
