import ContainerBuilder.BuilderQueue.Queue
import ContainerBuilder.Lib.Machine
import ContainerBuilder.Lib.Pairing

/-!
# Which client gets which builder

The queue alone, entered by any sequence of callbacks. `process_pending_handler` serves one handler
per call, so nothing is left idle only because every callback restores `Lib.Served`: each arrival,
a handler or a builder, is followed by exactly one call, which is all it takes.
-/

namespace ContainerBuilder

open Lib

variable {H : Type}

/-- The queue under every sequence of callbacks; the trace is what they start. -/
def queueMachine (H : Type) : Machine (BuilderQueue H) (Callback H) (Action H) where
  init := BuilderQueue.new.queue
  initOut := BuilderQueue.new.actions
  step q c := some ((c.run q).queue, (c.run q).actions)

/-- The handlers passed to `checkout_builder`, in order. -/
def checkedOut (cs : List (Callback H)) : List H :=
  cs.filterMap fun
    | .checkoutBuilder handler => some handler
    | _ => none

/-- The builders of the successful create completions, in order. -/
def created (cs : List (Callback H)) : List BuilderData :=
  cs.filterMap fun
    | .createDone none builder => some builder
    | _ => none

/-! ## One arrival -/

section
variable {xs : List H} {ys : List BuilderData} {ps : List (H × BuilderData)} {q : BuilderQueue H}

theorem checkoutBuilder_served (h : Served xs ys ps q.pendingHandlers q.reserveBuilders)
    (handler : H) :
    Served (xs ++ [handler]) ys (ps ++ posted (checkoutBuilder handler q).actions)
      (checkoutBuilder handler q).queue.pendingHandlers
      (checkoutBuilder handler q).queue.reserveBuilders := by
  cases hr : q.reserveBuilders with
  | nil =>
    rw [checkoutBuilder_wait hr]
    rw [hr] at h
    simpa [hr] using h.arrive_left_wait handler
  | cons builder builders =>
    rw [hr] at h
    obtain ⟨hp, hs⟩ := h.arrive_left_match handler
    rw [checkoutBuilder_serve hp hr]
    simpa [handOver, BuilderQueue.handOut] using hs

theorem createDone_served (h : Served xs ys ps q.pendingHandlers q.reserveBuilders)
    (builder : BuilderData) :
    Served xs (ys ++ [builder]) (ps ++ posted (createDone none builder q).actions)
      (createDone none builder q).queue.pendingHandlers
      (createDone none builder q).queue.reserveBuilders := by
  cases hp : q.pendingHandlers with
  | nil =>
    rw [createDone_wait hp]
    rw [hp] at h
    simpa [hp] using h.arrive_right_wait builder
  | cons handler handlers =>
    rw [hp] at h
    obtain ⟨hr, hs⟩ := h.arrive_right_match builder
    rw [createDone_serve hp hr]
    simpa [handOver, BuilderQueue.handOut] using hs

end

/-- **One callback** keeps the pairing exact. -/
theorem run_served {cs : List (Callback H)} {tr : List (Action H)} {q : BuilderQueue H}
    (h : Served (checkedOut cs) (created cs) (posted tr) q.pendingHandlers q.reserveBuilders)
    (c : Callback H) :
    Served (checkedOut (cs ++ [c])) (created (cs ++ [c])) (posted (tr ++ (c.run q).actions))
      (c.run q).queue.pendingHandlers (c.run q).queue.reserveBuilders := by
  have hc : checkedOut (cs ++ [c]) = checkedOut cs ++ checkedOut [c] := List.filterMap_append
  have hb : created (cs ++ [c]) = created cs ++ created [c] := List.filterMap_append
  rw [hc, hb, posted_append]
  -- a callback that brings no arrival posts nothing and touches neither list
  have quiet : Served (checkedOut cs ++ []) (created cs ++ []) (posted tr ++ [])
      q.pendingHandlers q.reserveBuilders := by simpa using h
  cases c with
  | checkoutBuilder handler =>
    show Served (checkedOut cs ++ [handler]) (created cs ++ []) _ _ _
    rw [List.append_nil]
    exact checkoutBuilder_served h handler
  | returnBuilder builder => exact quiet
  | createDone error builder =>
    cases error with
    | none =>
      show Served (checkedOut cs ++ []) (created cs ++ [builder]) _ _ _
      rw [List.append_nil]
      exact createDone_served h builder
    | some v => exact quiet
  | destroyDone builder error =>
    cases error with
    | none =>
      show Served (checkedOut cs ++ []) (created cs ++ []) (posted tr ++ posted
        (createReserveBuilders _).actions) (createReserveBuilders _).queue.pendingHandlers
        (createReserveBuilders _).queue.reserveBuilders
      simpa using h
    | some v => exact quiet
  | retryReturnBuilder builder => exact quiet
  | retryCreateReserveBuilders =>
    show Served (checkedOut cs ++ []) (created cs ++ []) (posted tr ++ posted
      (createReserveBuilders q).actions) (createReserveBuilders q).queue.pendingHandlers
      (createReserveBuilders q).queue.reserveBuilders
    simpa using h

theorem queue_served {cs : List (Callback H)} {q : BuilderQueue H} {tr : List (Action H)}
    (h : (queueMachine H).Run Machine.always cs q tr) :
    Served (checkedOut cs) (created cs) (posted tr) q.pendingHandlers q.reserveBuilders := by
  refine Machine.Run.inv (fun cs q tr =>
    Served (checkedOut cs) (created cs) (posted tr) q.pendingHandlers q.reserveBuilders) ?_ ?_ h
  · simpa [queueMachine, BuilderQueue.new, checkedOut, created] using Served.start
  · intro cs q tr c q' out _ ih _ hs
    simp only [queueMachine, Option.some.injEq, Prod.mk.injEq] at hs
    obtain ⟨rfl, rfl⟩ := hs
    exact run_served ih c

/-- **The queue is a first come, first served pairing** of handlers with builders: after every run
the pairs posted are the zip of all handlers in checkout order with all builders in completion
order, and the two lists of the queue are the unmatched rests. So every handler and every builder
is used once or still waiting, in order, and not both lists are non-empty. -/
theorem posted_eq_zip {cs : List (Callback H)} {q : BuilderQueue H} {tr : List (Action H)}
    (h : (queueMachine H).Run Machine.always cs q tr) :
    posted tr = (checkedOut cs).zip (created cs) ∧
    q.pendingHandlers = (checkedOut cs).drop (created cs).length ∧
    q.reserveBuilders = (created cs).drop (checkedOut cs).length ∧
    (posted tr).map Prod.fst ++ q.pendingHandlers = checkedOut cs ∧
    (posted tr).map Prod.snd ++ q.reserveBuilders = created cs ∧
    (q.pendingHandlers = [] ∨ q.reserveBuilders = []) :=
  have hs := queue_served h
  ⟨hs.pairs, hs.left, hs.right, hs.all_left, hs.all_right, hs.idle⟩

/-- Two clients and three builders, one client before the first builder. -/
theorem posted_eq_zip_run :
    ∃ q tr, (queueMachine Nat).Run Machine.always
        [.checkoutBuilder 7, .createDone none ⟨[1], [], [1]⟩, .createDone none ⟨[2], [], [2]⟩,
          .createDone none ⟨[3], [], [3]⟩, .checkoutBuilder 8] q tr ∧
      posted tr = [(7, ⟨[1], [], [1]⟩), (8, ⟨[2], [], [2]⟩)] :=
  have hrun := Machine.exec_run (M := queueMachine Nat) (G := Machine.always)
    (g := fun _ _ => true) (fun _ _ _ => trivial)
    [.checkoutBuilder 7, .createDone none ⟨[1], [], [1]⟩, .createDone none ⟨[2], [], [2]⟩,
      .createDone none ⟨[3], [], [3]⟩, .checkoutBuilder 8] rfl
  ⟨_, _, hrun, (posted_eq_zip hrun).1⟩

end ContainerBuilder
