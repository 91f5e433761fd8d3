import ContainerBuilder.BuilderQueue.Capacity

/-!
# Create retries

Each create request that fails starts a timer of its own (`BuilderQueue.cpp:110-115`), but each
timer that expires calls `create_reserve_builders`, which requests *all* the builders that are
missing, without counting the timers that will do so again. So one expiring timer of a failed batch
brings a new batch, and the timers of both add up; `return_builder` in contrast retries the one
builder its timer is for.

The number of timers is bounded as long as a refill leaves room for the retries that are pending
(`RetriesFit`): then requests and timers together stay within `max_reserve_builder_count`
(`RetryInv`). After a refill that leaves no such room nothing keeps the bound: it is enough that
the requests fail (`unfit_exceeds`).
-/

namespace ContainerBuilder

open Lib

variable {H : Type}

/-- If `create_reserve_builders` finds the reserve below its fill level, then the requests that will
fill it and the `timers` that are pending have room in the reserve together. -/
def FitsAtCheck (timers : Nat) : Action H → Prop
  | .check q => q.reserveBuilders.length + q.outstandingCreateCount < q.fillLevel →
      timers + q.fillLevel ≤ maxReserveBuilderCount + q.reserveBuilders.length
  | _ => True

instance (timers : Nat) (a : Action H) : Decidable (FitsAtCheck timers a) :=
  match a with
  | .check _ => inferInstanceAs (Decidable (_ → _))
  | .post _ _ => .isTrue trivial
  | .requestCreate => .isTrue trivial
  | .destroy _ => .isTrue trivial
  | .returnTimer _ => .isTrue trivial
  | .createTimer => .isTrue trivial

section
variable [DecidableEq H]

/-- A refill leaves room for the retries that are still pending. -/
def RetriesFit (p : Pool H) (e : PoolEvent H) : Prop :=
  ∀ p₁ c, p.consume e = some p₁ → e.callback = some c →
    ∀ a ∈ (c.run p.queue).actions, FitsAtCheck p₁.createTimers a

/-- `RetriesFit`, evaluated. -/
def retriesFit (p : Pool H) (e : PoolEvent H) : Bool :=
  match p.consume e, e.callback with
  | some p₁, some c => (c.run p.queue).actions.all fun a => decide (FitsAtCheck p₁.createTimers a)
  | _, _ => true

theorem retriesFit_sound {p : Pool H} {e : PoolEvent H} (h : retriesFit p e = true) :
    RetriesFit p e := by
  intro p₁ c hp hc a ha
  simp only [retriesFit, hp, hc, List.all_eq_true] at h
  exact of_decide_eq_true (h a ha)

/-- The runs in which every request completes once and every refill leaves room. -/
def OnceAndFit (p : Pool H) (e : PoolEvent H) : Prop := ExactlyOnce p e ∧ RetriesFit p e

end

/-! ## Who starts a timer -/

/-- The create-retry timers a callback starts. -/
def Callback.retries : Callback H → Nat
  | .createDone (some _) _ => 1
  | _ => 0

theorem createTimers_processPendingHandler (q : BuilderQueue H) :
    createTimers (processPendingHandler q).actions = 0 := by
  unfold processPendingHandler
  split
  · exact createTimers_createReserveBuilders _
  · rfl

theorem run_createTimers (c : Callback H) (q : BuilderQueue H) :
    createTimers (c.run q).actions = c.retries := by
  cases c with
  | checkoutBuilder handler => exact createTimers_processPendingHandler _
  | returnBuilder builder => rfl
  | createDone error builder =>
    cases error
    · exact createTimers_processPendingHandler _
    · rfl
  | destroyDone builder error =>
    cases error
    · exact createTimers_createReserveBuilders _
    · rfl
  | retryReturnBuilder builder => rfl
  | retryCreateReserveBuilders => exact createTimers_createReserveBuilders _

/-- Only a failed request starts a timer. -/
theorem retries_cases (c : Callback H) :
    c.retries = 0 ∨ ∃ v builder, c = .createDone (some v) builder := by
  cases c with
  | createDone error builder =>
    cases error with
    | none => exact .inl rfl
    | some v => exact .inr ⟨v, builder, rfl⟩
  | checkoutBuilder handler => exact .inl rfl
  | returnBuilder builder => exact .inl rfl
  | destroyDone builder error => exact .inl rfl
  | retryReturnBuilder builder => exact .inl rfl
  | retryCreateReserveBuilders => exact .inl rfl

/-! ## The invariant -/

/-- The create requests in flight and those that a timer will bring. -/
def Pool.attempts (p : Pool H) : Nat := p.creates + p.createTimers

def RetryInv (p : Pool H) : Prop := p.attempts ≤ maxReserveBuilderCount

/-- What a callback leaves in requests and in timers. -/
theorem attempts_enter (p : Pool H) (c : Callback H) (q : BuilderQueue H) :
    (p.enter (c.run q)).attempts =
      (p.creates + requests (c.run q).actions) + (p.createTimers + c.retries) := by
  rw [← run_createTimers c q]
  rfl

/-- The requests of a refill fill the reserve. -/
theorem Ledger.requests_refill {q : BuilderQueue H} {creates : Nat} (h : Ledger q creates) :
    q.reserveBuilders.length + (creates + q.launched) = q.fillLevel := by
  obtain ⟨-, hfilled⟩ := h.refill
  have hlevel : (createReserveBuilders q).queue.fillLevel = q.fillLevel := by
    simp [BuilderQueue.fillLevel]
  rwa [Filled, createReserveBuilders_reserveBuilders, hlevel] at hfilled

/-- A reserve at its level brings no requests. -/
theorem Ledger.launched_of_full {q : BuilderQueue H} {creates : Nat} (h : Ledger q creates)
    (hfull : ¬ q.reserveBuilders.length + q.outstandingCreateCount < (q.fillLevel : Int)) :
    q.launched = 0 := by
  have hcount := h.count
  have hlaunched := h.launched_eq
  simp only [BuilderQueue.fillLevel] at hfull
  omega

/-- A refill that leaves room for `timers` keeps requests and timers within the limit. -/
theorem Ledger.refill_fits {q : BuilderQueue H} {creates timers : Nat} (h : Ledger q creates)
    (hfit : FitsAtCheck timers (.check q)) (hle : creates + timers ≤ maxReserveBuilderCount) :
    creates + q.launched + timers ≤ maxReserveBuilderCount := by
  by_cases hlow : q.reserveBuilders.length + q.outstandingCreateCount < (q.fillLevel : Int)
  · have hroom := hfit hlow
    have hfilled := h.requests_refill
    omega
  · have hnone := h.launched_of_full hlow
    omega

/-- A refill that leaves no room for `timers` takes requests and timers past the limit. -/
theorem Ledger.refill_unfit {q : BuilderQueue H} {creates timers : Nat} (h : Ledger q creates)
    (hfit : ¬ FitsAtCheck timers (.check q)) :
    maxReserveBuilderCount < creates + q.launched + timers := by
  simp only [FitsAtCheck, Classical.not_imp, Nat.not_le] at hfit
  obtain ⟨-, hroom⟩ := hfit
  have hfilled := h.requests_refill
  omega

section
variable [DecidableEq H]

theorem consume_createTimers_le {p p₁ : Pool H} {e : PoolEvent H} (h : p.consume e = some p₁) :
    p₁.createTimers ≤ p.createTimers := by
  obtain ⟨-, rfl⟩ := consume_eq_some.1 h
  cases e with
  | retryCreateReserveBuilders => exact Nat.sub_le ..
  | checkoutBuilder handler => exact Nat.le_refl _
  | returnBuilder builder => exact Nat.le_refl _
  | createDone error builder again => exact Nat.le_refl _
  | destroyDone builder error again => exact Nat.le_refl _
  | retryReturnBuilder builder => exact Nat.le_refl _
  | runHandler handler builder => exact Nat.le_refl _

theorem retryInv_start : RetryInv (poolMachine H).init := by
  show (0 + requests (createReserveBuilders (⟨[], [], [], 0⟩ : BuilderQueue H)).actions) +
    (0 + createTimers (createReserveBuilders (⟨[], [], [], 0⟩ : BuilderQueue H)).actions) ≤ _
  have hstart : Ledger (⟨[], [], [], 0⟩ : BuilderQueue H) 0 := ⟨rfl, by simp, by simp⟩
  have hl := hstart.refill.1.reserve
  simpa using hl

section
variable {p p₁ : Pool H} {e : PoolEvent H}

/-- The timer of a failed request takes its place. -/
theorem attempts_failed {v : Nat} {builder : BuilderData} (ha : ExactlyOnce p e)
    (hc : e.callback = some (.createDone (some v) builder)) (hp : p.consume e = some p₁) :
    (p₁.enter ((Callback.createDone (some v) builder).run p.queue)).attempts = p.attempts := by
  have hcreates : p₁.creates + 1 = p.creates := consume_creates hc ha hp
  have htimers : p₁.createTimers = p.createTimers := consume_createTimers hc nofun hp
  rw [attempts_enter]
  show (p₁.creates + 0) + (p₁.createTimers + 1) = p.creates + p.createTimers
  omega

/-- Without a new timer there are at most the requests of a refill, and for these there is room. -/
theorem retryInv_refill {tr : List (PoolObs H)} {c : Callback H}
    (hidle : p.queue.pendingHandlers = [] ∨ p.queue.reserveBuilders = []) (hpool : PoolInv p tr)
    (h : RetryInv p) (hg : OnceAndFit p e) (hc : e.callback = some c)
    (hp : p.consume e = some p₁) (hretry : c.retries = 0) :
    RetryInv (p₁.enter (c.run p.queue)) := by
  obtain ⟨ha, hfit⟩ := hg
  have hcreates := consume_creates hc ha hp
  have htimers := consume_createTimers_le hp
  obtain ⟨q', as, E, hrun⟩ := run_sizes hidle c
  have hledger : Ledger q' p₁.creates := E.ledger hpool.ledger hcreates
  have hplain := requests_of_plain E.plain
  unfold RetryInv Pool.attempts at h
  unfold RetryInv
  rw [attempts_enter, hretry]
  rcases hrun with hrun | ⟨hrun, -⟩
  · have hcheck : FitsAtCheck p₁.createTimers (.check q') := by
      apply hfit p₁ c hp hc
      rw [hrun, createReserveBuilders_actions]
      simp
    have hroom := hledger.refill_fits hcheck (by omega)
    have hmade : requests (c.run p.queue).actions = q'.launched := by simp [hrun, hplain]
    omega
  · have hmade : requests (c.run p.queue).actions = 0 := by simp [hrun, hplain]
    omega

end

/-- **One event** that leaves room keeps the invariant. -/
theorem retryInv_step {p p' : Pool H} {tr out : List (PoolObs H)} {e : PoolEvent H}
    (hidle : p.queue.pendingHandlers = [] ∨ p.queue.reserveBuilders = []) (hpool : PoolInv p tr)
    (h : RetryInv p) (hg : OnceAndFit p e) (hs : p.step e = some (p', out)) : RetryInv p' := by
  obtain ⟨p₁, hp, hrun⟩ := pool_step_cases hs
  rcases hrun with ⟨c, hc, rfl, -⟩ | ⟨hc, rfl, -⟩
  · rcases retries_cases c with hretry | ⟨v, builder, rfl⟩
    · exact retryInv_refill hidle hpool h hg hc hp hretry
    · unfold RetryInv
      rwa [attempts_failed hg.1 hc hp]
  · obtain ⟨h1, h2, -⟩ := consume_handler hc hp
    unfold RetryInv Pool.attempts at h ⊢
    rwa [h1, h2]

theorem retry_inv {es : List (PoolEvent H)} {p : Pool H} {tr : List (PoolObs H)}
    (h : (poolMachine H).Run OnceAndFit es p tr) : RetryInv p := by
  refine Machine.Run.inv (fun _ p _ => RetryInv p) retryInv_start ?_ h
  intro es p tr e p' out hr ih hg hs
  exact retryInv_step (pool_idle hr) (pool_inv (hr.mono fun _ _ hg => hg.1)) ih hg hs

/-- **Create retries are bounded** where refills leave room for them: never more timers are pending
than builders fit in the reserve. -/
theorem create_timers_le {es : List (PoolEvent H)} {p : Pool H} {tr : List (PoolObs H)}
    (h : (poolMachine H).Run OnceAndFit es p tr) : p.createTimers ≤ maxReserveBuilderCount := by
  have hinv := retry_inv h
  unfold RetryInv Pool.attempts at hinv
  omega

end

/-- A create request that fails. -/
def createFails : PoolEvent H := .createDone (some 5) noBuilder false

/-- One request fails and is repeated when its timer expires; then all ten fail. -/
theorem create_timers_le_run :
    ∃ p tr, (poolMachine Nat).Run OnceAndFit
        (createFails :: .retryCreateReserveBuilders :: List.replicate 10 createFails) p tr ∧
      p.createTimers = 10 ∧ p.createTimers ≤ maxReserveBuilderCount := by
  have hrun := Machine.exec_run (M := poolMachine Nat) (G := OnceAndFit)
    (g := fun p e => !e.again && retriesFit p e)
    (fun p e h => by
      simp only [Bool.and_eq_true, Bool.not_eq_true'] at h
      exact ⟨h.1, retriesFit_sound h.2⟩)
    (createFails :: .retryCreateReserveBuilders :: List.replicate 10 createFails) rfl
  exact ⟨_, _, hrun, rfl, create_timers_le hrun⟩

/-- One timer of ten expires, and its requests begin to fail while the others are pending. -/
theorem create_timers_exceed :
    ∃ p tr, (poolMachine Nat).Run ExactlyOnce
        (List.replicate 10 createFails ++ .retryCreateReserveBuilders ::
          List.replicate 2 createFails) p tr ∧
      p.createTimers = 11 ∧ maxReserveBuilderCount < p.createTimers :=
  have hrun := Machine.exec_run (M := poolMachine Nat) (G := ExactlyOnce)
    (g := fun _ e => !e.again) (fun _ e h => by simpa [ExactlyOnce] using h)
    (List.replicate 10 createFails ++ .retryCreateReserveBuilders ::
      List.replicate 2 createFails) rfl
  ⟨_, _, hrun, rfl, by decide⟩

/-! ## Without that room -/

/-- The evaluation inside a callback is the one of its refill. -/
theorem check_of_run {q : BuilderQueue H} {c : Callback H} {as : List (Action H)}
    {q' q₀ : BuilderQueue H} (E : Entered c q q' as)
    (h : .check q₀ ∈ as ++ (createReserveBuilders q').actions) : q₀ = q' := by
  rcases List.mem_append.1 h with h | h
  · exact absurd (E.plain _ h) (by simp [Action.plain])
  · rw [createReserveBuilders_actions] at h
    rcases List.mem_cons.1 h with h | h
    · exact Action.check.inj h
    · exact absurd (List.eq_of_mem_replicate h) (by simp)

section
variable [DecidableEq H]

/-- A refill without room takes requests and timers past the limit. -/
theorem attempts_unfit {p p₁ : Pool H} {e : PoolEvent H} {c : Callback H} {a : Action H}
    {tr : List (PoolObs H)}
    (hidle : p.queue.pendingHandlers = [] ∨ p.queue.reserveBuilders = []) (hpool : PoolInv p tr)
    (ha : ExactlyOnce p e) (hc : e.callback = some c) (hp : p.consume e = some p₁)
    (hmem : a ∈ (c.run p.queue).actions) (hunfit : ¬ FitsAtCheck p₁.createTimers a) :
    maxReserveBuilderCount < (p₁.enter (c.run p.queue)).attempts := by
  obtain ⟨q₀, rfl⟩ : ∃ q₀, a = .check q₀ := by
    cases a with
    | check q₀ => exact ⟨q₀, rfl⟩
    | post _ _ => exact absurd trivial hunfit
    | requestCreate => exact absurd trivial hunfit
    | destroy _ => exact absurd trivial hunfit
    | returnTimer _ => exact absurd trivial hunfit
    | createTimer => exact absurd trivial hunfit
  obtain ⟨q', as, E, hrun⟩ := run_sizes hidle c
  have hledger : Ledger q' p₁.creates := E.ledger hpool.ledger (consume_creates hc ha hp)
  rcases hrun with hrun | ⟨hrun, -⟩
  · have hmade : requests (c.run p.queue).actions = q'.launched := by
      simp [hrun, requests_of_plain E.plain]
    rw [hrun] at hmem
    rw [check_of_run E hmem] at hunfit
    have hroom := hledger.refill_unfit hunfit
    rw [attempts_enter, hmade]
    omega
  · rw [hrun] at hmem
    exact absurd (E.plain _ hmem) (by simp [Action.plain])

/-- A request that is in flight can fail. -/
theorem one_fails {p : Pool H} (h : 0 < p.creates) :
    ∃ p' out, p.step createFails = some (p', out) ∧ p'.creates + 1 = p.creates ∧
      p'.createTimers = p.createTimers + 1 := by
  have hconsume : p.consume createFails = some { p with creates := p.creates - 1 } :=
    consume_eq_some.2 ⟨h, rfl⟩
  refine ⟨_, _, by simp only [Pool.step, hconsume]; rfl, ?_, rfl⟩
  show p.creates - 1 + 0 + 1 = p.creates
  omega

/-- All of `n` requests that are in flight fail. -/
theorem all_fail {es : List (PoolEvent H)} {p : Pool H} {tr : List (PoolObs H)} (n : Nat)
    (h : (poolMachine H).Run ExactlyOnce es p tr) (hn : n ≤ p.creates) :
    ∃ p' tr', (poolMachine H).Run ExactlyOnce (es ++ List.replicate n createFails) p' tr' ∧
      p'.creates + n = p.creates ∧ p'.createTimers = p.createTimers + n := by
  induction n with
  | zero => exact ⟨p, tr, by simpa using h, rfl, rfl⟩
  | succ n ih =>
    obtain ⟨p₁, tr₁, hrun, hcreates, htimers⟩ := ih (by omega)
    obtain ⟨p₂, out, hstep, hcreates₂, htimers₂⟩ := one_fails (p := p₁) (by omega)
    refine ⟨p₂, tr₁ ++ out, ?_, by omega, by omega⟩
    rw [List.replicate_succ', ← List.append_assoc]
    exact hrun.snoc rfl hstep

/-- **The room is needed**: after a refill that leaves none, more timers are pending than builders
fit in the reserve as soon as the requests have failed. -/
theorem unfit_exceeds {es : List (PoolEvent H)} {p p' : Pool H} {tr out : List (PoolObs H)}
    {e : PoolEvent H} (h : (poolMachine H).Run ExactlyOnce es p tr) (ha : ExactlyOnce p e)
    (hunfit : ¬ RetriesFit p e) (hs : p.step e = some (p', out)) :
    ∃ p'' tr', (poolMachine H).Run ExactlyOnce
        (es ++ [e] ++ List.replicate p'.creates createFails) p'' tr' ∧
      maxReserveBuilderCount < p''.createTimers := by
  simp only [RetriesFit, not_forall] at hunfit
  obtain ⟨p₁, c, hp, hc, a, hmem, hunfit⟩ := hunfit
  have hpast := attempts_unfit (pool_idle h) (pool_inv h) ha hc hp hmem hunfit
  have hp' : p' = p₁.enter (c.run p.queue) := by
    simp only [Pool.step, hp, hc, Option.some.injEq, Prod.mk.injEq] at hs
    exact hs.1.symm
  obtain ⟨p'', tr', hrun, -, htimers⟩ := all_fail p'.creates (h.snoc ha hs) le_rfl
  refine ⟨p'', tr', hrun, ?_⟩
  rw [← hp'] at hpast
  unfold Pool.attempts at hpast
  omega

end

/-- Ten requests in flight and `timers` retries pending. -/
def failing (timers : Nat) : Pool Nat := ⟨⟨[], [], [], 10⟩, 10, [], [], timers, []⟩

/-- The ten requests fail and one timer expires. -/
def failingRound : List (PoolEvent Nat) :=
  List.replicate 10 createFails ++ [.retryCreateReserveBuilders]

/-- A round adds nine timers. -/
theorem round_run {es : List (PoolEvent Nat)} {tr : List (PoolObs Nat)} {timers : Nat}
    (h : (poolMachine Nat).Run ExactlyOnce es (failing timers) tr) :
    ∃ tr', (poolMachine Nat).Run ExactlyOnce (es ++ failingRound) (failing (timers + 9)) tr' :=
  ⟨_, Machine.execFrom_run (g := fun _ e => !e.again)
    (fun _ e h => by simpa [ExactlyOnce] using h) failingRound es (failing timers) tr _ _ h rfl⟩

/-- **Create retries grow without bound** while OpenStack fails and each round is quicker than the
timers of the rounds before it. -/
theorem create_timers_unbounded (n : Nat) :
    ∃ es tr, (poolMachine Nat).Run ExactlyOnce es (failing (9 * n)) tr := by
  induction n with
  | zero => exact ⟨[], _, .start⟩
  | succ n ih =>
    obtain ⟨es, tr, hrun⟩ := ih
    obtain ⟨tr', hrun'⟩ := round_run hrun
    exact ⟨es ++ failingRound, tr', hrun'⟩

end ContainerBuilder
