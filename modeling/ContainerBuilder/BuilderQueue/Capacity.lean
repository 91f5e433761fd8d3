import ContainerBuilder.BuilderQueue.Pool

/-!
# Capacity and refill

`create_reserve_builders` computes with unsigned sizes and one signed counter and guards only the
first of its two subtractions. Both are safe because of `Ledger`, which every callback keeps, and
each call brings the reserve to the level `fillLevel` exactly.

The six callbacks differ in what they do before that call, but only in the sizes they hand to it:
`run_sizes` says so once, and both results about runs follow from it.
-/

namespace ContainerBuilder

open Lib

variable {H : Type}

/-- `creates` requests are in flight, and the queue counts them right and within both limits. -/
structure Ledger (q : BuilderQueue H) (creates : Nat) : Prop where
  count : q.outstandingCreateCount = creates
  reserve : q.reserveBuilders.length + creates ≤ maxReserveBuilderCount
  total : q.reserveBuilders.length + creates + q.activeBuilders.length ≤ maxBuilderCount

/-- What reserve builders and create requests together should come to. -/
def BuilderQueue.fillLevel (q : BuilderQueue H) : Nat :=
  min maxReserveBuilderCount (maxBuilderCount - q.activeBuilders.length)

def Filled (q : BuilderQueue H) (creates : Nat) : Prop :=
  q.reserveBuilders.length + creates = q.fillLevel

/-! ## The arithmetic of `create_reserve_builders` -/

namespace Ledger
variable {q : BuilderQueue H} {creates : Nat}

theorem potentialReserveCount_eq (h : Ledger q creates) :
    q.potentialReserveCount = q.reserveBuilders.length + creates := by
  have := h.total
  have := maxBuilderCount_lt
  rw [BuilderQueue.potentialReserveCount, h.count]
  exact_mod_cast toSizeT_of_nat (n := q.reserveBuilders.length + creates) (by omega)

theorem potentialTotalCount_eq (h : Ledger q creates) :
    q.potentialTotalCount = q.reserveBuilders.length + creates + q.activeBuilders.length := by
  have := h.total
  have := maxBuilderCount_lt
  rw [BuilderQueue.potentialTotalCount, h.potentialReserveCount_eq]
  exact_mod_cast toSizeT_of_nat
    (n := q.reserveBuilders.length + creates + q.activeBuilders.length) (by omega)

/-- The guarded subtraction. -/
theorem reserveRequestCount_eq (h : Ledger q creates) :
    q.reserveRequestCount = maxReserveBuilderCount - (q.reserveBuilders.length + creates) := by
  rw [BuilderQueue.reserveRequestCount, h.potentialReserveCount_eq]
  exact toSizeT_sub h.reserve maxReserveBuilderCount_lt

/-- The subtraction that has no guard of its own. -/
theorem remainingCount_eq (h : Ledger q creates) :
    q.remainingCount =
      maxBuilderCount - (q.reserveBuilders.length + creates + q.activeBuilders.length) := by
  rw [BuilderQueue.remainingCount, h.potentialTotalCount_eq]
  exact toSizeT_sub h.total maxBuilderCount_lt

theorem launched_eq (h : Ledger q creates) :
    q.launched = min (maxReserveBuilderCount - (q.reserveBuilders.length + creates))
      (maxBuilderCount - (q.reserveBuilders.length + creates + q.activeBuilders.length)) := by
  have := h.reserve
  rw [BuilderQueue.launched, BuilderQueue.requestCount, h.potentialReserveCount_eq,
    h.reserveRequestCount_eq, h.remainingCount_eq]
  split <;> omega

/-- **`create_reserve_builders` fills the reserve** and stays within both limits. -/
theorem refill (h : Ledger q creates) :
    Ledger (createReserveBuilders q).queue (creates + q.launched) ∧
    Filled (createReserveBuilders q).queue (creates + q.launched) := by
  have := h.reserve
  have := h.total
  have hl := h.launched_eq
  refine ⟨⟨?_, ?_, ?_⟩, ?_⟩
  · rw [createReserveBuilders_outstandingCreateCount, h.count, Int.natCast_add]
  · rw [createReserveBuilders_reserveBuilders]; omega
  · rw [createReserveBuilders_reserveBuilders, createReserveBuilders_activeBuilders]; omega
  · simp only [Filled, BuilderQueue.fillLevel, createReserveBuilders_reserveBuilders,
      createReserveBuilders_activeBuilders]
    omega

end Ledger

/-! ## What a callback does to the sizes -/

/-- The number of create requests a callback completes. -/
def Callback.completes : Callback H → Nat
  | .createDone _ _ => 1
  | _ => 0

/-- An action that is neither a create request nor an evaluation of the counts. -/
def Action.plain : Action H → Bool
  | .check _ => false
  | .requestCreate => false
  | _ => true

/-- `q'` and `as` are what callback `c` has made of `q` before a possible call of
`create_reserve_builders`. -/
structure Entered (c : Callback H) (q q' : BuilderQueue H) (as : List (Action H)) : Prop where
  plain : ∀ a ∈ as, a.plain = true
  count : q'.outstandingCreateCount = q.outstandingCreateCount - c.completes
  reserve : q'.reserveBuilders.length ≤ q.reserveBuilders.length + c.completes
  total : q'.reserveBuilders.length + q'.activeBuilders.length ≤
    q.reserveBuilders.length + q.activeBuilders.length + c.completes

/-- **Every callback** ends in a call of `create_reserve_builders`, or starts a create-retry timer,
or leaves reserve plus requests and the active builders as many as they were. -/
theorem run_sizes {q : BuilderQueue H}
    (hidle : q.pendingHandlers = [] ∨ q.reserveBuilders = []) (c : Callback H) :
    ∃ q' as, Entered c q q' as ∧
      (c.run q = ⟨(createReserveBuilders q').queue, as ++ (createReserveBuilders q').actions⟩ ∨
        (c.run q = ⟨q', as⟩ ∧ (0 < createTimers as ∨
          (q'.activeBuilders = q.activeBuilders ∧
            q'.reserveBuilders.length = q.reserveBuilders.length + c.completes ∧
            c ≠ .retryCreateReserveBuilders)))) := by
  cases c with
  | checkoutBuilder handler =>
    cases hr : q.reserveBuilders with
    | nil =>
      refine ⟨_, _, ⟨?_, ?_, ?_, ?_⟩, Or.inr ⟨checkoutBuilder_wait hr, Or.inr ⟨rfl, ?_, by simp⟩⟩⟩
      all_goals simp [Callback.completes, hr]
    | cons builder builders =>
      have hp := hidle.resolve_right (by simp [hr])
      refine ⟨_, [.post handler builder], ⟨?_, ?_, ?_, ?_⟩,
        Or.inl (checkoutBuilder_serve hp hr)⟩
      all_goals simp [Action.plain, Callback.completes, BuilderQueue.handOut, hr]
      omega
  | returnBuilder builder =>
    refine ⟨q, [.destroy builder], ⟨?_, ?_, ?_, ?_⟩, Or.inr ⟨rfl, Or.inr ⟨rfl, ?_, by simp⟩⟩⟩
    all_goals simp [Action.plain, Callback.completes]
  | createDone error builder =>
    cases error with
    | some v =>
      refine ⟨_, _, ⟨?_, ?_, ?_, ?_⟩, Or.inr ⟨createDone_error v builder q, Or.inl ?_⟩⟩
      all_goals simp [Action.plain, Callback.completes, createTimers]
    | none =>
      cases hp : q.pendingHandlers with
      | nil =>
        refine ⟨_, _, ⟨?_, ?_, ?_, ?_⟩, Or.inr ⟨createDone_wait hp, Or.inr ⟨rfl, ?_, by simp⟩⟩⟩
        all_goals simp [Callback.completes]
        omega
      | cons handler handlers =>
        have hr := hidle.resolve_left (by simp [hp])
        refine ⟨_, [.post handler builder], ⟨?_, ?_, ?_, ?_⟩, Or.inl (createDone_serve hp hr)⟩
        all_goals simp [Action.plain, Callback.completes, BuilderQueue.handOut, hr]
  | destroyDone builder error =>
    cases error with
    | some v =>
      refine ⟨q, [.returnTimer builder], ⟨?_, ?_, ?_, ?_⟩,
        Or.inr ⟨rfl, Or.inr ⟨rfl, ?_, by simp⟩⟩⟩
      all_goals simp [Action.plain, Callback.completes]
    | none =>
      refine ⟨{ q with activeBuilders := removeBuilder builder q.activeBuilders }, [],
        ⟨?_, ?_, ?_, ?_⟩, Or.inl rfl⟩
      all_goals simp [Callback.completes]
      exact length_removeBuilder_le _ _
  | retryReturnBuilder builder =>
    refine ⟨q, [.destroy builder], ⟨?_, ?_, ?_, ?_⟩, Or.inr ⟨rfl, Or.inr ⟨rfl, ?_, by simp⟩⟩⟩
    all_goals simp [Action.plain, Callback.completes]
  | retryCreateReserveBuilders =>
    refine ⟨q, [], ⟨?_, ?_, ?_, ?_⟩, Or.inl rfl⟩
    all_goals simp [Callback.completes]

theorem Entered.ledger {c : Callback H} {q q' : BuilderQueue H} {as : List (Action H)}
    (E : Entered c q q' as) {m n : Nat} (h : Ledger q n) (hn : m + c.completes = n) :
    Ledger q' m := by
  obtain ⟨h1, h2, h3⟩ := h
  have := E.count
  have := E.reserve
  have := E.total
  exact ⟨by omega, by omega, by omega⟩

theorem requests_of_plain {as : List (Action H)} (h : ∀ a ∈ as, a.plain = true) :
    requests as = 0 := by
  rw [requests, List.countP_eq_zero]
  intro a ha
  have := h a ha
  cases a <;> simp_all [Action.plain]

/-- **Every callback** that completes as many requests as it should keeps the ledger, and either
fills the reserve, or starts a create-retry timer, or leaves it as full as it was. -/
theorem run_ledger {q : BuilderQueue H} (hidle : q.pendingHandlers = [] ∨ q.reserveBuilders = [])
    {c : Callback H} {m n : Nat} (h : Ledger q n) (hn : m + c.completes = n) :
    Ledger (c.run q).queue (m + requests (c.run q).actions) ∧
    (Filled (c.run q).queue (m + requests (c.run q).actions) ∨
      0 < createTimers (c.run q).actions ∨
      (c ≠ .retryCreateReserveBuilders ∧
        (Filled q n → Filled (c.run q).queue (m + requests (c.run q).actions)))) := by
  obtain ⟨q', as, E, hrun⟩ := run_sizes hidle c
  have hl : Ledger q' m := E.ledger h hn
  have hreq := requests_of_plain E.plain
  rcases hrun with hrun | ⟨hrun, hquiet⟩
  · have hm : m + requests (c.run q).actions = m + q'.launched := by simp [hrun, hreq]
    obtain ⟨hl', hf'⟩ := hl.refill
    rw [hm, hrun]
    exact ⟨hl', Or.inl hf'⟩
  · have hm : m + requests (c.run q).actions = m := by simp [hrun, hreq]
    rw [hm, hrun]
    refine ⟨hl, Or.inr ?_⟩
    rcases hquiet with hq | ⟨hact, hres, hne⟩
    · exact Or.inl hq
    · refine Or.inr ⟨hne, fun hf => ?_⟩
      simp only [Filled, BuilderQueue.fillLevel, hact, hres] at hf ⊢
      omega

/-! ## Runs of the pool -/

/-- The events of a trace that complete a create request. -/
def createCompletions (tr : List (PoolObs H)) : Nat :=
  tr.countP fun
    | .event (.createDone _ _ _) => true
    | _ => false

/-- Create requests made and not yet completed at the end of `tr`. -/
def inFlight (tr : List (PoolObs H)) : Int := requests (actions tr) - createCompletions tr

theorem inFlight_append (tr us : List (PoolObs H)) :
    inFlight (tr ++ us) = inFlight tr + inFlight us := by
  have ha : actions (tr ++ us) = actions tr ++ actions us := List.filterMap_append
  have hc : createCompletions (tr ++ us) = createCompletions tr + createCompletions us :=
    List.countP_append
  simp only [inFlight, ha, hc, requests_append, Int.natCast_add]
  omega

theorem inFlight_actions (as : List (Action H)) :
    inFlight (as.map PoolObs.action) = requests as := by
  have hc : createCompletions (as.map PoolObs.action) = 0 := by
    rw [createCompletions, List.countP_eq_zero]
    intro o ho
    obtain ⟨a, -, rfl⟩ := List.mem_map.1 ho
    simp
  simp [inFlight, actions_map, hc]

theorem inFlight_event {e : PoolEvent H} {c : Callback H} (hc : e.callback = some c) :
    inFlight [.event e] = -(c.completes : Int) := by
  cases e <;> simp only [PoolEvent.callback, Option.some.injEq, reduceCtorEq] at hc <;>
    subst hc <;> simp [inFlight, actions, requests, createCompletions, Callback.completes]

/-- What holds when `create_reserve_builders` evaluates its counts in `q` and `past` has happened:
no operation wraps, and it launches no more than the capacity that is left. -/
structure AtCheck (past : List (PoolObs H)) (q : BuilderQueue H) : Prop where
  count : q.outstandingCreateCount = inFlight past
  nonneg : 0 ≤ q.outstandingCreateCount
  reserve : q.reserveBuilders.length + q.outstandingCreateCount ≤ maxReserveBuilderCount
  total : q.reserveBuilders.length + q.outstandingCreateCount + q.activeBuilders.length ≤
    maxBuilderCount
  potentialReserve : (q.potentialReserveCount : Int) =
    q.reserveBuilders.length + q.outstandingCreateCount
  potentialTotal : (q.potentialTotalCount : Int) =
    q.reserveBuilders.length + q.outstandingCreateCount + q.activeBuilders.length
  reserveRequest : (q.reserveRequestCount : Int) =
    maxReserveBuilderCount - q.potentialReserveCount
  remaining : (q.remainingCount : Int) = maxBuilderCount - q.potentialTotalCount
  launch : requests (createReserveBuilders q).actions ≤ q.remainingCount

/-- `AtCheck` at a point of a trace, if the point is an evaluation. -/
def CheckOk (past : List (PoolObs H)) (o : PoolObs H) : Prop :=
  ∀ q, o = .action (.check q) → AtCheck past q

theorem Ledger.atCheck {q : BuilderQueue H} {creates : Nat} (h : Ledger q creates)
    {past : List (PoolObs H)} (hp : inFlight past = creates) : AtCheck past q := by
  have := h.reserve
  have := h.total
  have := h.count
  have h1 := h.potentialReserveCount_eq
  have h2 := h.potentialTotalCount_eq
  have h3 := h.reserveRequestCount_eq
  have h4 := h.remainingCount_eq
  have h5 := h.launched_eq
  refine ⟨by omega, by omega, by omega, by omega, by omega, by omega, by omega, by omega, ?_⟩
  rw [requests_createReserveBuilders]
  omega

theorem checkOk_of_plain {as : List (Action H)} (h : ∀ a ∈ as, a.plain = true)
    (pre : List (PoolObs H)) :
    Everywhere (fun past => CheckOk (pre ++ past)) (as.map PoolObs.action) := by
  refine everywhere_of_forall fun o ho past q hq => ?_
  obtain ⟨a, ha, rfl⟩ := List.mem_map.1 ho
  cases hq
  exact absurd (h _ ha) (by simp [Action.plain])

/-- The call of `create_reserve_builders` in `q` is an evaluation followed by create requests. -/
theorem checkOk_createReserveBuilders {pre : List (PoolObs H)} {q : BuilderQueue H}
    (h : AtCheck pre q) :
    Everywhere (fun past => CheckOk (pre ++ past))
      ((createReserveBuilders q).actions.map PoolObs.action) := by
  rw [createReserveBuilders_actions, List.map_cons, everywhere_cons]
  refine ⟨fun q' hq => ?_, everywhere_of_forall fun o ho past q' hq => ?_⟩
  · cases hq
    rwa [List.append_nil]
  · subst hq
    simp at ho

/-- The evaluation inside a callback, if there is one, finds everything in order. -/
theorem checkOk_run {q : BuilderQueue H} (hidle : q.pendingHandlers = [] ∨ q.reserveBuilders = [])
    {c : Callback H} {m n : Nat} (h : Ledger q n) (hn : m + c.completes = n)
    {pre : List (PoolObs H)} (hpre : inFlight pre = m) :
    Everywhere (fun past => CheckOk (pre ++ past)) ((c.run q).actions.map PoolObs.action) := by
  obtain ⟨q', as, E, hrun⟩ := run_sizes hidle c
  have hpl := checkOk_of_plain E.plain pre
  rcases hrun with hrun | ⟨hrun, -⟩
  · rw [hrun, List.map_append, everywhere_append]
    refine ⟨hpl, ?_⟩
    simp only [← List.append_assoc]
    refine checkOk_createReserveBuilders ((E.ledger h hn).atCheck ?_)
    rw [inFlight_append, hpre, inFlight_actions, requests_of_plain E.plain]
    simp
  · rw [hrun]
    exact hpl

section
variable [DecidableEq H]

theorem consume_creates {p p₁ : Pool H} {e : PoolEvent H} {c : Callback H}
    (hc : e.callback = some c) (ha : e.again = false) (h : p.consume e = some p₁) :
    p₁.creates + c.completes = p.creates := by
  obtain ⟨hready, rfl⟩ := consume_eq_some.1 h
  cases e with
  | createDone error builder again =>
    cases hc
    cases ha
    exact Nat.sub_add_cancel hready
  | runHandler handler builder => cases hc
  | checkoutBuilder handler => cases hc; rfl
  | returnBuilder builder => cases hc; rfl
  | destroyDone builder error again => cases hc; rfl
  | retryReturnBuilder builder => cases hc; rfl
  | retryCreateReserveBuilders => cases hc; rfl

theorem consume_createTimers {p p₁ : Pool H} {e : PoolEvent H} {c : Callback H}
    (hc : e.callback = some c) (hne : c ≠ .retryCreateReserveBuilders)
    (h : p.consume e = some p₁) : p₁.createTimers = p.createTimers := by
  obtain ⟨-, rfl⟩ := consume_eq_some.1 h
  cases e with
  | retryCreateReserveBuilders =>
    cases hc
    exact absurd rfl hne
  | checkoutBuilder handler => rfl
  | returnBuilder builder => rfl
  | createDone error builder again => rfl
  | destroyDone builder error again => rfl
  | retryReturnBuilder builder => rfl
  | runHandler handler builder => rfl

theorem consume_handler {p p₁ : Pool H} {e : PoolEvent H} (hc : e.callback = none)
    (h : p.consume e = some p₁) :
    p₁.creates = p.creates ∧ p₁.createTimers = p.createTimers ∧ inFlight [PoolObs.event e] = 0 := by
  obtain ⟨-, rfl⟩ := consume_eq_some.1 h
  cases e <;> simp only [PoolEvent.callback, reduceCtorEq] at hc
  exact ⟨rfl, rfl, rfl⟩

/-- The invariant of the pool. -/
structure PoolInv (p : Pool H) (tr : List (PoolObs H)) : Prop where
  ledger : Ledger p.queue p.creates
  inFlight : inFlight tr = p.creates
  checks : Everywhere CheckOk tr
  filled : p.createTimers = 0 → Filled p.queue p.creates

theorem poolInv_start : PoolInv (poolMachine H).init (poolMachine H).initOut := by
  have h0 : Ledger (⟨[], [], [], 0⟩ : BuilderQueue H) 0 := ⟨rfl, by simp, by simp⟩
  obtain ⟨hl, hf⟩ := h0.refill
  have hr : requests (BuilderQueue.new (H := H)).actions =
      (⟨[], [], [], 0⟩ : BuilderQueue H).launched :=
    requests_createReserveBuilders _
  refine ⟨?_, ?_, ?_, fun _ => ?_⟩
  · show Ledger _ (0 + requests (BuilderQueue.new (H := H)).actions)
    rw [hr]
    exact hl
  · show ContainerBuilder.inFlight ((BuilderQueue.new (H := H)).actions.map PoolObs.action) =
      ((0 + requests (BuilderQueue.new (H := H)).actions : Nat) : Int)
    rw [inFlight_actions, Nat.zero_add]
  · have hc : AtCheck ([] : List (PoolObs H)) ⟨[], [], [], 0⟩ := h0.atCheck rfl
    exact checkOk_createReserveBuilders hc
  · show Filled _ (0 + requests (BuilderQueue.new (H := H)).actions)
    rw [hr]
    exact hf

/-- **One event** keeps the invariant. -/
theorem poolInv_step {p p' : Pool H} {tr out : List (PoolObs H)} {e : PoolEvent H}
    (hidle : p.queue.pendingHandlers = [] ∨ p.queue.reserveBuilders = []) (h : PoolInv p tr)
    (ha : e.again = false) (hs : p.step e = some (p', out)) : PoolInv p' (tr ++ out) := by
  obtain ⟨p₁, hp, hrun⟩ := pool_step_cases hs
  rcases hrun with ⟨c, hc, rfl, rfl⟩ | ⟨hc, rfl, rfl⟩
  · have hcr := consume_creates hc ha hp
    have htr : ContainerBuilder.inFlight (tr ++ [.event e]) = (p₁.creates : Int) := by
      rw [inFlight_append, inFlight_event hc, h.inFlight]
      omega
    obtain ⟨hl, hf⟩ := run_ledger hidle h.ledger hcr
    rw [List.append_cons]
    refine ⟨hl, ?_, ?_, fun h0 => ?_⟩
    · rw [inFlight_append, htr, inFlight_actions]
      simp [Pool.enter]
    · rw [everywhere_append, everywhere_append]
      exact ⟨⟨h.checks, by simp [CheckOk]⟩, checkOk_run hidle h.ledger hcr htr⟩
    · -- no timer was started and none is left, so there was none before
      simp only [Pool.enter, Nat.add_eq_zero_iff] at h0
      rcases hf with hf | hf | ⟨hne, hf⟩
      · exact hf
      · omega
      · exact hf (h.filled (by rw [← consume_createTimers hc hne hp]; exact h0.1))
  · obtain ⟨h1, h2, h3⟩ := consume_handler hc hp
    have hq := consume_queue hp
    refine ⟨?_, ?_, ?_, ?_⟩
    · rw [hq, h1]; exact h.ledger
    · rw [inFlight_append, h3, h1, h.inFlight]; simp
    · rw [everywhere_append]
      exact ⟨h.checks, by simp [CheckOk]⟩
    · rw [hq, h1, h2]; exact h.filled

theorem pool_inv {es : List (PoolEvent H)} {p : Pool H} {tr : List (PoolObs H)}
    (h : (poolMachine H).Run ExactlyOnce es p tr) : PoolInv p tr :=
  Machine.Run.inv (fun _ p tr => PoolInv p tr) poolInv_start
    (fun _ _ _ _ _ _ hr ih ha hs => poolInv_step (pool_idle hr) ih ha hs) h

/-- **Capacity.** When every request completes once, `outstanding_create_count` is the number of
create requests not yet completed and both limits are respected, between callbacks and at every
evaluation inside `create_reserve_builders`. No operation of such an evaluation wraps, and it is
followed by no more create requests than the capacity that is left. -/
theorem pool_capacity {es : List (PoolEvent H)} {p : Pool H} {tr : List (PoolObs H)}
    (h : (poolMachine H).Run ExactlyOnce es p tr) :
    p.queue.outstandingCreateCount = p.creates ∧ inFlight tr = p.creates ∧
    0 ≤ p.queue.outstandingCreateCount ∧
    p.queue.reserveBuilders.length + p.queue.outstandingCreateCount ≤ maxReserveBuilderCount ∧
    p.queue.reserveBuilders.length + p.queue.outstandingCreateCount +
      p.queue.activeBuilders.length ≤ maxBuilderCount ∧
    ∀ past q rest, tr = past ++ .action (.check q) :: rest → AtCheck past q := by
  have hi := pool_inv h
  have hc := hi.ledger.count
  have hr := hi.ledger.reserve
  have ht := hi.ledger.total
  refine ⟨hc, hi.inFlight, by omega, by omega, by omega, ?_⟩
  exact fun past q rest e => hi.checks past _ rest e q rfl

/-- One client is served, one request fails, and the reserve is full again after the retry. -/
theorem pool_capacity_run :
    ∃ p tr, (poolMachine Nat).Run ExactlyOnce
        [.checkoutBuilder 7, .createDone none ⟨[1], [], [1]⟩ false,
          .createDone (some 5) noBuilder false, .retryCreateReserveBuilders] p tr ∧
      p.queue.outstandingCreateCount = (10 : Nat) ∧ inFlight tr = (10 : Nat) :=
  have hrun := Machine.exec_run (M := poolMachine Nat) (G := ExactlyOnce)
    (g := fun _ e => !e.again) (fun _ e h => by simpa [ExactlyOnce] using h)
    [.checkoutBuilder 7, .createDone none ⟨[1], [], [1]⟩ false,
      .createDone (some 5) noBuilder false, .retryCreateReserveBuilders] rfl
  ⟨_, _, hrun, (pool_capacity hrun).1, (pool_capacity hrun).2.1⟩

/-- **Refill.** When every request completes once, reserve builders and create requests come to
exactly the fill level whenever no create-retry timer is pending; so a client waits below the
limit only while a create request is in flight or a retry is scheduled. -/
theorem pool_filled {es : List (PoolEvent H)} {p : Pool H} {tr : List (PoolObs H)}
    (h : (poolMachine H).Run ExactlyOnce es p tr) :
    (p.createTimers = 0 →
      (p.queue.reserveBuilders.length : Int) + p.queue.outstandingCreateCount =
        min (maxReserveBuilderCount : Int) (maxBuilderCount - p.queue.activeBuilders.length)) ∧
    (p.queue.pendingHandlers ≠ [] → p.queue.activeBuilders.length < maxBuilderCount →
      0 < p.creates ∨ 0 < p.createTimers) := by
  have hi := pool_inv h
  have hc := hi.ledger.count
  have ht := hi.ledger.total
  refine ⟨fun h0 => ?_, fun hp hlt => ?_⟩
  · have := hi.filled h0
    simp only [Filled, BuilderQueue.fillLevel] at this
    omega
  · by_cases h0 : p.createTimers = 0
    · left
      have hf := hi.filled h0
      have hr := (pool_idle h).resolve_left hp
      have hm : 0 < maxReserveBuilderCount := by decide
      simp only [Filled, BuilderQueue.fillLevel, hr, List.length_nil] at hf
      omega
    · right; omega

/-- After a client has been served nothing is missing: ten requests or builders, one active. -/
theorem pool_filled_run :
    ∃ p tr, (poolMachine Nat).Run ExactlyOnce
        [.createDone none ⟨[1], [], [1]⟩ false, .checkoutBuilder 7] p tr ∧
      (p.queue.reserveBuilders.length : Int) + p.queue.outstandingCreateCount =
        min (maxReserveBuilderCount : Int) (maxBuilderCount - p.queue.activeBuilders.length) :=
  have hrun := Machine.exec_run (M := poolMachine Nat) (G := ExactlyOnce)
    (g := fun _ e => !e.again) (fun _ e h => by simpa [ExactlyOnce] using h)
    [.createDone none ⟨[1], [], [1]⟩ false, .checkoutBuilder 7] rfl
  ⟨_, _, hrun, (pool_filled hrun).1 rfl⟩

end

end ContainerBuilder
