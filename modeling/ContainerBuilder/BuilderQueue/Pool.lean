import ContainerBuilder.BuilderQueue.Matching

/-!
# The queue and what it waits for

The queue together with everything it has started and that has not come back yet: the requests in
flight, the retry timers and the posted handlers. Clients may check out and return at any time;
whatever is outstanding may come back in any order and with any result.

A request normally completes once. `again` marks a completion that leaves its request in flight, so
that the same request will complete once more; `ExactlyOnce` rules that out.
-/

namespace ContainerBuilder

open Lib

variable {H : Type}

structure Pool (H : Type) where
  queue : BuilderQueue H
  /-- Create requests not yet completed. -/
  creates : Nat
  /-- Builders whose destroy request has not completed. -/
  destroys : List BuilderData
  /-- Pending `retry_return_builder` timers. -/
  returnTimers : List BuilderData
  /-- Pending `retry_create_reserve_builders` timers. -/
  createTimers : Nat
  /-- Posted handlers that have not run. -/
  posted : List (H × BuilderData)
deriving DecidableEq

inductive PoolEvent (H : Type)
  | checkoutBuilder (handler : H)
  | returnBuilder (builder : BuilderData)
  | createDone (error : ErrorCode) (builder : BuilderData) (again : Bool)
  | destroyDone (builder : BuilderData) (error : ErrorCode) (again : Bool)
  | retryReturnBuilder (builder : BuilderData)
  | retryCreateReserveBuilders
  | runHandler (handler : H) (builder : BuilderData)
deriving DecidableEq

/-- The queue's callback, if the event runs one. -/
def PoolEvent.callback : PoolEvent H → Option (Callback H)
  | .checkoutBuilder handler => some (.checkoutBuilder handler)
  | .returnBuilder builder => some (.returnBuilder builder)
  | .createDone error builder _ => some (.createDone error builder)
  | .destroyDone builder error _ => some (.destroyDone builder error)
  | .retryReturnBuilder builder => some (.retryReturnBuilder builder)
  | .retryCreateReserveBuilders => some .retryCreateReserveBuilders
  | .runHandler _ _ => none

/-- Whether the request of a completion stays in flight. -/
def PoolEvent.again : PoolEvent H → Bool
  | .createDone _ _ again => again
  | .destroyDone _ _ again => again
  | _ => false

/-- Each request completes once. -/
def ExactlyOnce (_ : Pool H) (e : PoolEvent H) : Prop := e.again = false

/-- A trace shows the events and what each of them started. -/
inductive PoolObs (H : Type)
  | event (e : PoolEvent H)
  | action (a : Action H)
deriving DecidableEq

/-- The callbacks of a sequence of events. -/
def callbacks (es : List (PoolEvent H)) : List (Callback H) := es.filterMap PoolEvent.callback

/-- The actions of a trace. -/
def actions (tr : List (PoolObs H)) : List (Action H) :=
  tr.filterMap fun
    | .action a => some a
    | .event _ => none

theorem actions_map (as : List (Action H)) : actions (as.map PoolObs.action) = as := by
  simp [actions, List.filterMap_map]

section step
variable [DecidableEq H]

/-- What an event uses up; `none` if it cannot happen. -/
def Pool.consume (p : Pool H) : PoolEvent H → Option (Pool H)
  | .checkoutBuilder _ => some p
  | .returnBuilder _ => some p
  | .createDone _ _ again =>
    if 0 < p.creates then
      some { p with creates := if again then p.creates else p.creates - 1 } else none
  | .destroyDone builder _ again =>
    if builder ∈ p.destroys then
      some { p with destroys := if again then p.destroys else p.destroys.erase builder } else none
  | .retryReturnBuilder builder =>
    if builder ∈ p.returnTimers then
      some { p with returnTimers := p.returnTimers.erase builder } else none
  | .retryCreateReserveBuilders =>
    if 0 < p.createTimers then some { p with createTimers := p.createTimers - 1 } else none
  | .runHandler handler builder =>
    if (handler, builder) ∈ p.posted then
      some { p with posted := p.posted.erase (handler, builder) } else none

/-- The queue has run a callback: its actions are now outstanding. -/
def Pool.enter (p : Pool H) (o : Out H) : Pool H where
  queue := o.queue
  creates := p.creates + requests o.actions
  destroys := p.destroys ++ destroyed o.actions
  returnTimers := p.returnTimers ++ ContainerBuilder.returnTimers o.actions
  createTimers := p.createTimers + ContainerBuilder.createTimers o.actions
  posted := p.posted ++ ContainerBuilder.posted o.actions

def Pool.step (p : Pool H) (e : PoolEvent H) : Option (Pool H × List (PoolObs H)) :=
  match p.consume e with
  | none => none
  | some p' =>
    match e.callback with
    | some c => some (p'.enter (c.run p.queue), .event e :: (c.run p.queue).actions.map .action)
    | none => some (p', [.event e])

/-- The pool after the constructor, with nothing else outstanding. -/
def Pool.new : Pool H := Pool.enter ⟨⟨[], [], [], 0⟩, 0, [], [], 0, []⟩ BuilderQueue.new

def poolMachine (H : Type) [DecidableEq H] : Machine (Pool H) (PoolEvent H) (PoolObs H) where
  init := Pool.new
  initOut := (BuilderQueue.new (H := H)).actions.map .action
  step := Pool.step

/-- What an event needs is outstanding. -/
@[simp] def Pool.Ready (p : Pool H) : PoolEvent H → Prop
  | .checkoutBuilder _ => True
  | .returnBuilder _ => True
  | .createDone _ _ _ => 0 < p.creates
  | .destroyDone builder _ _ => builder ∈ p.destroys
  | .retryReturnBuilder builder => builder ∈ p.returnTimers
  | .retryCreateReserveBuilders => 0 < p.createTimers
  | .runHandler handler builder => (handler, builder) ∈ p.posted

/-- Without what an event uses up. -/
@[simp] def Pool.without (p : Pool H) : PoolEvent H → Pool H
  | .checkoutBuilder _ => p
  | .returnBuilder _ => p
  | .createDone _ _ again => { p with creates := if again then p.creates else p.creates - 1 }
  | .destroyDone builder _ again =>
    { p with destroys := if again then p.destroys else p.destroys.erase builder }
  | .retryReturnBuilder builder => { p with returnTimers := p.returnTimers.erase builder }
  | .retryCreateReserveBuilders => { p with createTimers := p.createTimers - 1 }
  | .runHandler handler builder => { p with posted := p.posted.erase (handler, builder) }

theorem consume_eq_some {p p₁ : Pool H} {e : PoolEvent H} :
    p.consume e = some p₁ ↔ p.Ready e ∧ p.without e = p₁ := by
  cases e with
  | checkoutBuilder handler => simp [Pool.consume]
  | returnBuilder builder => simp [Pool.consume]
  | createDone error builder again => simp [Pool.consume]
  | destroyDone builder error again => simp [Pool.consume]
  | retryReturnBuilder builder => simp [Pool.consume]
  | retryCreateReserveBuilders => simp [Pool.consume]
  | runHandler handler builder => simp [Pool.consume]

theorem consume_queue {p p' : Pool H} {e : PoolEvent H} (h : p.consume e = some p') :
    p'.queue = p.queue := by
  obtain ⟨-, rfl⟩ := consume_eq_some.1 h
  cases e <;> rfl

/-- **What a step can do**: it uses something up and either enters the queue or runs a handler. -/
theorem pool_step_cases {p p' : Pool H} {e : PoolEvent H} {out : List (PoolObs H)}
    (h : p.step e = some (p', out)) :
    ∃ p₁, p.consume e = some p₁ ∧
      ((∃ c, e.callback = some c ∧ p' = p₁.enter (c.run p.queue) ∧
          out = .event e :: (c.run p.queue).actions.map .action) ∨
        (e.callback = none ∧ p' = p₁ ∧ out = [.event e])) := by
  unfold Pool.step at h
  split at h
  · cases h
  · rename_i p₁ hp
    refine ⟨p₁, hp, ?_⟩
    split at h
    · rename_i c hc
      simp only [Option.some.injEq, Prod.mk.injEq] at h
      exact Or.inl ⟨c, hc, h.1.symm, h.2.symm⟩
    · rename_i hc
      simp only [Option.some.injEq, Prod.mk.injEq] at h
      exact Or.inr ⟨hc, h.1.symm, h.2.symm⟩

/-! ## The pool runs the queue -/

/-- **Projection**: a run of the pool is a run of its queue. -/
theorem pool_projects {G : Pool H → PoolEvent H → Prop} {es : List (PoolEvent H)} {p : Pool H}
    {tr : List (PoolObs H)} (h : (poolMachine H).Run G es p tr) :
    (queueMachine H).Run Machine.always (callbacks es) p.queue (actions tr) := by
  refine Machine.Run.inv (fun es p tr =>
    (queueMachine H).Run Machine.always (callbacks es) p.queue (actions tr)) ?_ ?_ h
  · have hinit : actions (poolMachine H).initOut = (queueMachine H).initOut := actions_map _
    rw [hinit]
    exact .start
  · intro es p tr e p' out _ ih _ hs
    obtain ⟨p₁, hp, hrun⟩ := pool_step_cases hs
    have hes : callbacks (es ++ [e]) = callbacks es ++ callbacks [e] := List.filterMap_append
    have htr : actions (tr ++ out) = actions tr ++ actions out := List.filterMap_append
    rw [hes, htr]
    rcases hrun with ⟨c, hc, rfl, rfl⟩ | ⟨hc, rfl, rfl⟩
    · have h1 : callbacks [e] = [c] := by simp [callbacks, hc]
      have h2 : actions (.event e :: (c.run p.queue).actions.map PoolObs.action) =
          (c.run p.queue).actions := actions_map _
      rw [h1, h2]
      exact ih.snoc trivial rfl
    · have h1 : callbacks [e] = [] := by simp [callbacks, hc]
      have h2 : actions [(.event e : PoolObs H)] = [] := rfl
      rw [h1, h2, List.append_nil, List.append_nil, consume_queue hp]
      exact ih

/-- Between callbacks no handler waits while a builder is in reserve. -/
theorem pool_idle {G : Pool H → PoolEvent H → Prop} {es : List (PoolEvent H)} {p : Pool H}
    {tr : List (PoolObs H)} (h : (poolMachine H).Run G es p tr) :
    p.queue.pendingHandlers = [] ∨ p.queue.reserveBuilders = [] :=
  (queue_served (pool_projects h)).idle

end step

end ContainerBuilder
