import ContainerBuilder.Lib.Calls

/-!
# Programs that catch and exit

A call of a program may return, throw, or end there: because it exits, which no `catch` sees, or
because it still waits for something. `inOrder` runs the steps of a program one after the other, and
`Begins` says in which state it comes to one of them. `Outcomes` is the specification of a call:
when it returns, when it throws, and that it does not exit with 0; the steps of a row give that of
the row (`outcomes_inOrder`).
-/

namespace Lib

variable {ε ε' σ τ α β κ : Type}

/-- How a call ends that neither returns nor throws. -/
inductive Ended
  | exited (status : Nat)
  /-- It waits. -/
  | running
deriving DecidableEq, Repr

inductive Stop (ε : Type)
  | threw (ex : ε)
  | ended (e : Ended)

/-- The call `c` throws and leaves the state `s'`. -/
def Throws (c : CallM (Stop ε) σ α) (s s' : σ) : Prop := ∃ ex, exec c s = (.error (.threw ex), s')

theorem Returns.not_throws {c : CallM (Stop ε) σ α} {s s' s'' : σ} {a : α}
    (hr : Returns c s a s') : ¬ Throws c s s'' := by
  rintro ⟨ex, ht⟩
  cases hr.symm.trans ht

/-- A call that only throws, on a part of the state. -/
def within (get : τ → σ) (put : σ → τ → τ) (inj : ε → ε') (c : CallM ε σ α) :
    CallM (Stop ε') τ α :=
  call fun t =>
    match exec c (get t) with
    | (.ok a, s) => (.ok a, put s t)
    | (.error ex, s) => (.error (.threw (inj ex)), put s t)

theorem returns_within {get : τ → σ} {put : σ → τ → τ} {inj : ε → ε'} {c : CallM ε σ α} {t t' : τ}
    {a : α} : Returns (within get put inj c) t a t' ↔ ∃ s, Returns c (get t) a s ∧ t' = put s t := by
  unfold Returns within
  rw [exec_call]
  generalize exec c (get t) = r
  obtain ⟨x, s⟩ := r
  cases x with
  | ok x =>
    constructor
    · rintro ⟨⟩
      exact ⟨s, rfl, rfl⟩
    · rintro ⟨s', ⟨⟩, rfl⟩
      rfl
  | error ex =>
    constructor
    · exact nofun
    · rintro ⟨s', ⟨⟩, -⟩

/-- A signal with the state it finds, if there is one, ends the process during `c`. -/
def interruptible (status : Nat) (signal : Option σ) (c : CallM (Stop ε) σ α) :
    CallM (Stop ε) σ α :=
  call fun s =>
    match signal with
    | some s' => (.error (.ended (.exited status)), s')
    | none => exec c s

/-- `try` with a clause that catches everything. -/
def catchAll (c : CallM (Stop ε) σ Unit) : CallM Ended σ Unit :=
  call fun s =>
    match exec c s with
    | (.ok (), s') => (.ok (), s')
    | (.error (.threw _), s') => (.ok (), s')
    | (.error (.ended e), s') => (.error e, s')

/-- The status of a process whose `main` has ended so; `none` while it runs. -/
def exitStatus : Except Ended Nat → Option Nat
  | .ok status => some status
  | .error (.exited status) => some status
  | .error .running => none

theorem returns_catchAll {c : CallM (Stop ε) σ Unit} {s s' : σ} :
    Returns (catchAll c) s () s' ↔ Returns c s () s' ∨ Throws c s s' := by
  unfold Returns Throws catchAll
  rw [exec_call]
  generalize exec c s = r
  obtain ⟨a, s₁⟩ := r
  cases a with
  | ok a => simp
  | error stop =>
    cases stop with
    | threw ex => simp
    | ended e => simp

/-- What is caught leaves its state. -/
theorem exec_catchAll_state (c : CallM (Stop ε) σ Unit) (s : σ) :
    (exec (catchAll c) s).2 = (exec c s).2 := by
  unfold catchAll
  rw [exec_call]
  generalize exec c s = r
  obtain ⟨a, s'⟩ := r
  cases a with
  | ok a => rfl
  | error stop =>
    cases stop with
    | threw ex => rfl
    | ended e => rfl

/-- `c` does not exit with `status`. -/
def NeverExits (status : Nat) (c : CallM Ended σ α) : Prop :=
  ∀ s s', exec c s ≠ (.error (.exited status), s')

theorem neverExits_pure (status : Nat) (a : α) : NeverExits status (pure a : CallM Ended σ α) := by
  intro s s' h
  cases h

theorem neverExits_bind {status : Nat} {c : CallM Ended σ α} {f : α → CallM Ended σ β}
    (hc : NeverExits status c) (hf : ∀ a, NeverExits status (f a)) :
    NeverExits status (c >>= f) := by
  intro s s' h
  have hc := hc s
  rw [exec_bind] at h
  generalize exec c s = r at h hc
  obtain ⟨a, s₁⟩ := r
  cases a with
  | ok a => exact hf a s₁ s' h
  | error e =>
    cases h
    exact hc s' rfl

theorem neverExits_catchAll {status : Nat} {c : CallM (Stop ε) σ Unit}
    (hc : ∀ s s', exec c s ≠ (.error (.ended (.exited status)), s')) :
    NeverExits status (catchAll c) := by
  intro s s' h
  have hc := hc s
  unfold catchAll at h
  rw [exec_call] at h
  generalize exec c s = r at h hc
  obtain ⟨a, s₁⟩ := r
  cases a with
  | ok a => cases h
  | error stop =>
    cases stop with
    | threw ex => cases h
    | ended e =>
      cases h
      exact hc s' rfl

/-- A program that does not exit with `status` has it from its `main`. -/
theorem exitStatus_iff {status : Nat} {c : CallM Ended σ Nat} (hc : NeverExits status c) (s : σ) :
    exitStatus (exec c s).1 = some status ↔ ∃ s', Returns c s status s' := by
  have hc := hc s
  unfold Returns
  generalize exec c s = r at hc
  obtain ⟨a, s₁⟩ := r
  cases a with
  | ok n => simp [exitStatus]
  | error e =>
    cases e with
    | exited n =>
      have hne : n ≠ status := by
        rintro rfl
        exact hc s₁ rfl
      simpa [exitStatus] using hne
    | running => simp [exitStatus]

/-! ## Specifications -/

/-- What `c` does in `s`. -/
structure Outcomes (c : CallM (Stop ε) σ Unit) (s : σ) (passes fails : Prop) : Prop where
  returns : (∃ s', Returns c s () s') ↔ passes
  throws : (∃ s', Throws c s s') ↔ fails
  exits : ∀ s', exec c s ≠ (.error (.ended (.exited 0)), s')

section
variable {c : CallM (Stop ε) σ Unit} {s s' : σ} {passes fails : Prop}

theorem Outcomes.of_ok (hc : exec c s = (.ok (), s')) (hp : passes) (hf : ¬ fails) :
    Outcomes c s passes fails where
  returns := iff_of_true ⟨s', hc⟩ hp
  throws := iff_of_false (fun ⟨_, ht⟩ => Returns.not_throws hc ht) hf
  exits s'' he := by cases hc.symm.trans he

theorem Outcomes.of_threw {ex : ε} (hc : exec c s = (.error (.threw ex), s')) (hp : ¬ passes)
    (hf : fails) : Outcomes c s passes fails where
  returns := iff_of_false (fun ⟨_, hr⟩ => Returns.not_throws hr ⟨ex, hc⟩) hp
  throws := iff_of_true ⟨s', ex, hc⟩ hf
  exits s'' he := by cases hc.symm.trans he

theorem Outcomes.of_ended {e : Ended} (hc : exec c s = (.error (.ended e), s'))
    (he : e ≠ .exited 0) (hp : ¬ passes) (hf : ¬ fails) : Outcomes c s passes fails where
  returns := by
    refine iff_of_false ?_ hp
    rintro ⟨s'', hr⟩
    cases hc.symm.trans hr
  throws := by
    refine iff_of_false ?_ hf
    rintro ⟨s'', ex, ht⟩
    cases hc.symm.trans ht
  exits s'' h := by
    cases hc.symm.trans h
    exact he rfl

/-- What a result says of `passes` and `fails`. -/
def Fits (passes fails : Prop) : Except (Stop ε) α → Prop
  | .ok _ => passes ∧ ¬ fails
  | .error (.threw _) => ¬ passes ∧ fails
  | .error (.ended e) => e ≠ .exited 0 ∧ ¬ passes ∧ ¬ fails

theorem outcomes_call {f : σ → Except (Stop ε) Unit × σ} (h : Fits passes fails (f s).1) :
    Outcomes (call f) s passes fails := by
  have hexec : exec (call f) s = f s := exec_call f s
  generalize f s = r at h hexec
  obtain ⟨a, s'⟩ := r
  cases a with
  | ok a => exact .of_ok hexec h.1 h.2
  | error stop =>
    cases stop with
    | threw ex => exact .of_threw hexec h.1 h.2
    | ended e => exact .of_ended hexec h.1 h.2.1 h.2.2

/-- In a state where `c` does what `d` does. -/
theorem Outcomes.of_exec {d : CallM (Stop ε) σ Unit} (h : Outcomes d s passes fails)
    (hexec : exec c s = exec d s) : Outcomes c s passes fails := by
  refine ⟨?_, ?_, ?_⟩
  · unfold Returns
    rw [hexec]
    exact h.returns
  · unfold Throws
    rw [hexec]
    exact h.throws
  · rw [hexec]
    exact h.exits

theorem Outcomes.congr {passes' fails' : Prop} (h : Outcomes c s passes fails)
    (hp : passes ↔ passes') (hf : fails ↔ fails') : Outcomes c s passes' fails' :=
  ⟨h.returns.trans hp, h.throws.trans hf, h.exits⟩

/-- A call comes to one of these ends. -/
theorem exec_cases (c : CallM (Stop ε) σ Unit) (s : σ) :
    (∃ s', exec c s = (.ok (), s')) ∨ (∃ ex s', exec c s = (.error (.threw ex), s')) ∨
      ∃ e s', exec c s = (.error (.ended e), s') := by
  generalize exec c s = r
  obtain ⟨a, s'⟩ := r
  cases a with
  | ok a => exact .inl ⟨s', rfl⟩
  | error stop =>
    cases stop with
    | threw ex => exact .inr (.inl ⟨ex, s', rfl⟩)
    | ended e => exact .inr (.inr ⟨e, s', rfl⟩)

/-- An interruptible call does what it does, unless it is interrupted. -/
theorem outcomes_interruptible (h : Outcomes c s passes fails) {status : Nat}
    (hstatus : status ≠ 0) (signal : Option σ) :
    Outcomes (interruptible status signal c) s (signal = none ∧ passes)
      (signal = none ∧ fails) := by
  cases signal with
  | none =>
    have hsame : exec (interruptible status none c) s = exec c s := rfl
    simp only [true_and]
    exact h.of_exec hsame
  | some s' =>
    have hexec : exec (interruptible status (some s') c) s =
        (.error (.ended (.exited status)), s') := rfl
    refine .of_ended hexec ?_ nofun nofun
    intro he
    exact hstatus (Ended.exited.inj he)

/-- One call after another. -/
theorem outcomes_seq {d : CallM (Stop ε) σ Unit} {passes' fails' : σ → Prop}
    (hc : Outcomes c s passes fails) (hd : ∀ s', Outcomes d s' (passes' s') (fails' s')) :
    Outcomes (c >>= fun _ => d) s (∃ s', Returns c s () s' ∧ passes' s')
      (fails ∨ ∃ s', Returns c s () s' ∧ fails' s') := by
  have hexec := exec_bind c (fun _ => d) s
  have hnot : ∀ {p : σ → Prop} {stop : Stop ε} {s₁ : σ}, exec c s = (.error stop, s₁) →
      ¬ ∃ s', Returns c s () s' ∧ p s' := by
    rintro p stop s₁ hstop ⟨s', hr, -⟩
    cases hstop.symm.trans hr
  rcases exec_cases c s with ⟨s₁, hr⟩ | ⟨ex, s₁, ht⟩ | ⟨e, s₁, he⟩
  · -- the second call is the one that counts
    have hone : ∀ p : σ → Prop, (∃ s', Returns c s () s' ∧ p s') ↔ p s₁ := by
      intro p
      constructor
      · rintro ⟨s', hr', hp⟩
        cases hr.symm.trans hr'
        exact hp
      · exact fun hp => ⟨s₁, hr, hp⟩
    have hfails : ¬ fails := by
      rw [← hc.throws]
      rintro ⟨s', ht⟩
      exact Returns.not_throws hr ht
    rw [hone, hone, or_iff_right hfails]
    rw [hr] at hexec
    exact ⟨by simp only [Returns, hexec, ← (hd s₁).returns],
      by simp only [Throws, hexec, ← (hd s₁).throws], by simpa only [hexec] using (hd s₁).exits⟩
  · rw [ht] at hexec
    exact .of_threw hexec (hnot ht) (.inl (hc.throws.1 ⟨s₁, ex, ht⟩))
  · rw [he] at hexec
    refine .of_ended hexec ?_ (hnot he) ?_
    · rintro rfl
      exact hc.exits s₁ he
    · rintro (hf | hf)
      · obtain ⟨s', ex, ht⟩ := hc.throws.2 hf
        cases he.symm.trans ht
      · exact hnot he hf

end

/-! ## Steps in a row -/

/-- The steps `ks`, up to the first that does not return. -/
def inOrder (run : κ → CallM (Stop ε) σ Unit) : List κ → CallM (Stop ε) σ Unit
  | [] => pure ()
  | k :: ks => do
    run k
    inOrder run ks

/-- From `s` on, the steps `ks` come to the step `k`, and begin it in the state `x`. -/
inductive Begins (run : κ → CallM (Stop ε) σ Unit) : List κ → σ → κ → σ → Prop
  | head {k : κ} {ks : List κ} {s : σ} : Begins run (k :: ks) s k s
  | tail {k k₀ : κ} {ks : List κ} {s s₁ x : σ} :
    Returns (run k₀) s () s₁ → Begins run ks s₁ k x → Begins run (k₀ :: ks) s k x

section
variable {run : κ → CallM (Stop ε) σ Unit}

theorem begins_cons {k k₀ : κ} {ks : List κ} {s x : σ} :
    Begins run (k₀ :: ks) s k x ↔
      (k = k₀ ∧ x = s) ∨ ∃ s₁, Returns (run k₀) s () s₁ ∧ Begins run ks s₁ k x := by
  constructor
  · intro h
    cases h with
    | head => exact .inl ⟨rfl, rfl⟩
    | tail hr hk => exact .inr ⟨_, hr, hk⟩
  · rintro (⟨rfl, rfl⟩ | ⟨s₁, hr, hk⟩)
    · exact .head
    · exact .tail hr hk

theorem exec_inOrder_of_returns {k : κ} {ks : List κ} {s s' : σ} (h : Returns (run k) s () s') :
    exec (inOrder run (k :: ks)) s = exec (inOrder run ks) s' := by
  rw [inOrder, exec_bind_of_returns h]

theorem exec_inOrder_of_error {k : κ} {ks : List κ} {s s' : σ} {stop : Stop ε}
    (h : exec (run k) s = (.error stop, s')) :
    exec (inOrder run (k :: ks)) s = (.error stop, s') := by
  rw [inOrder, exec_bind, h]

/-- A row is one part of it after the other. -/
theorem exec_inOrder_append (ks ls : List κ) (s : σ) :
    exec (inOrder run (ks ++ ls)) s = exec (do inOrder run ks; inOrder run ls) s := by
  induction ks generalizing s with
  | nil => rfl
  | cons k ks ih =>
    rw [List.cons_append, inOrder, inOrder, exec_bind, exec_bind, exec_bind]
    generalize exec (run k) s = r
    obtain ⟨a, s'⟩ := r
    cases a with
    | error stop => rfl
    | ok a =>
      simp only
      rw [ih, exec_bind]

/-- When a part of a row has returned, the next step begins. -/
theorem begins_append {ks ls : List κ} {k : κ} {s x : σ} (h : Returns (inOrder run ks) s () x) :
    Begins run (ks ++ k :: ls) s k x := by
  induction ks generalizing s with
  | nil =>
    obtain ⟨-, rfl⟩ := returns_pure.1 h
    exact .head
  | cons k₀ ks ih =>
    obtain ⟨_, s₁, hr, hrest⟩ := returns_bind.1 h
    exact .tail hr (ih hrest)

theorem Begins.mem {ks : List κ} {k : κ} {s x : σ} (h : Begins run ks s k x) : k ∈ ks := by
  induction h with
  | head => exact List.mem_cons_self ..
  | tail _ _ ih => exact List.mem_cons_of_mem _ ih

/-- A step that stands in one place only begins where the steps before it have returned. -/
theorem returns_of_begins {ks ls : List κ} {k : κ} (hks : k ∉ ks) (hls : k ∉ ls) {s x : σ}
    (h : Begins run (ks ++ k :: ls) s k x) : Returns (inOrder run ks) s () x := by
  induction ks generalizing s with
  | nil =>
    rcases begins_cons.1 h with ⟨-, rfl⟩ | ⟨s₁, -, hlater⟩
    · exact returns_pure.2 ⟨rfl, rfl⟩
    · exact absurd hlater.mem hls
  | cons k₀ ks ih =>
    simp only [List.mem_cons, not_or] at hks
    rcases begins_cons.1 h with ⟨he, -⟩ | ⟨s₁, hr, hlater⟩
    · exact absurd he hks.1
    · exact returns_bind.2 ⟨(), s₁, hr, ih hks.2 hlater⟩

theorem returns_inOrder_append {ks ls : List κ} {s s' : σ} :
    Returns (inOrder run (ks ++ ls)) s () s' ↔
      ∃ s₁, Returns (inOrder run ks) s () s₁ ∧ Returns (inOrder run ls) s₁ () s' := by
  unfold Returns
  rw [exec_inOrder_append]
  exact returns_bind.trans ⟨fun ⟨_, s₁, h⟩ => ⟨s₁, h⟩, fun ⟨s₁, h⟩ => ⟨(), s₁, h⟩⟩

theorem returns_inOrder_cons {k : κ} {ks : List κ} {s s' : σ} :
    Returns (inOrder run (k :: ks)) s () s' ↔
      ∃ s₁, Returns (run k) s () s₁ ∧ Returns (inOrder run ks) s₁ () s' :=
  returns_bind.trans ⟨fun ⟨_, s₁, h⟩ => ⟨s₁, h⟩, fun ⟨s₁, h⟩ => ⟨(), s₁, h⟩⟩

/-- What each step of a row keeps however it ends, the row keeps. -/
theorem exec_inOrder_inv {I : σ → Prop} {ks : List κ}
    (h : ∀ k ∈ ks, ∀ s, I s → I (exec (run k) s).2) {s : σ} (hs : I s) :
    I (exec (inOrder run ks) s).2 := by
  induction ks generalizing s with
  | nil => exact hs
  | cons k ks ih =>
    refine exec_bind_inv (h k (List.mem_cons_self ..) s hs) fun _ s' _ hs' => ?_
    exact ih (fun k hk => h k (List.mem_cons_of_mem _ hk)) hs'

/-- What each step of a row keeps when it returns, the row keeps. -/
theorem returns_inOrder_keeps {I : σ → Prop} {ks : List κ}
    (h : ∀ k ∈ ks, ∀ s s', I s → Returns (run k) s () s' → I s') {s s' : σ} (hs : I s)
    (hr : Returns (inOrder run ks) s () s') : I s' := by
  induction ks generalizing s with
  | nil =>
    obtain ⟨-, rfl⟩ := returns_pure.1 hr
    exact hs
  | cons k ks ih =>
    obtain ⟨s₁, hk, hrest⟩ := returns_inOrder_cons.1 hr
    exact ih (fun k hk => h k (List.mem_cons_of_mem _ hk))
      (h k (List.mem_cons_self ..) s s₁ hs hk) hrest

/-- **A row of steps** passes if each step that it begins passes, and throws if one of them does. -/
theorem outcomes_inOrder {passes fails : κ → σ → Prop}
    (h : ∀ k x, Outcomes (run k) x (passes k x) (fails k x)) (ks : List κ) (s : σ) :
    Outcomes (inOrder run ks) s (∀ k x, Begins run ks s k x → passes k x)
      (∃ k x, Begins run ks s k x ∧ fails k x) := by
  induction ks generalizing s with
  | nil =>
    refine .of_ok rfl ?_ ?_
    · intro k x hk
      cases hk
    · rintro ⟨k, x, hk, -⟩
      cases hk
  | cons k₀ ks ih =>
    refine (outcomes_seq (h k₀ s) ih).congr ?_ ?_
    · constructor
      · rintro ⟨s₁, hr, hrest⟩ k x hk
        rcases begins_cons.1 hk with ⟨rfl, rfl⟩ | ⟨s₂, hr', hk⟩
        · exact (h k x).returns.1 ⟨s₁, hr⟩
        · cases hr.symm.trans hr'
          exact hrest k x hk
      · intro hall
        obtain ⟨s₁, hr⟩ := (h k₀ s).returns.2 (hall k₀ s .head)
        exact ⟨s₁, hr, fun k x hk => hall k x (.tail hr hk)⟩
    · constructor
      · rintro (hf | ⟨s₁, hr, k, x, hk, hf⟩)
        · exact ⟨k₀, s, .head, hf⟩
        · exact ⟨k, x, .tail hr hk, hf⟩
      · rintro ⟨k, x, hk, hf⟩
        rcases begins_cons.1 hk with ⟨rfl, rfl⟩ | ⟨s₁, hr, hk⟩
        · exact .inl hf
        · exact .inr ⟨s₁, hr, k, x, hk, hf⟩

/-- A row returns if its last step does. -/
theorem returns_inOrder_last {ks : List κ} {k : κ} (hk : k ∉ ks) {s s' : σ} :
    Returns (inOrder run (ks ++ [k])) s () s' ↔
      ∃ x, Begins run (ks ++ [k]) s k x ∧ Returns (run k) x () s' := by
  induction ks generalizing s with
  | nil =>
    simp only [List.nil_append, inOrder, returns_bind, returns_pure]
    constructor
    · rintro ⟨_, s₁, hr, -, rfl⟩
      exact ⟨s, .head, hr⟩
    · rintro ⟨x, hx, hr⟩
      rcases begins_cons.1 hx with ⟨-, rfl⟩ | ⟨s₁, -, hnil⟩
      · exact ⟨(), s', hr, trivial, rfl⟩
      · cases hnil
  | cons k₀ ks ih =>
    simp only [List.mem_cons, not_or] at hk
    rw [List.cons_append, inOrder, returns_bind]
    constructor
    · rintro ⟨_, s₁, hr, hrest⟩
      obtain ⟨x, hx, hlast⟩ := (ih hk.2).1 hrest
      exact ⟨x, .tail hr hx, hlast⟩
    · rintro ⟨x, hx, hlast⟩
      rcases begins_cons.1 hx with ⟨he, -⟩ | ⟨s₁, hr, hx⟩
      · exact absurd he hk.1
      · exact ⟨(), s₁, hr, (ih hk.2).2 ⟨x, hx, hlast⟩⟩

end

end Lib
