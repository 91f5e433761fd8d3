import ContainerBuilder.Common.Data

/-!
# `BuilderQueue` (`BuilderQueue.h`, `BuilderQueue.cpp`)

Every member function runs to completion inside one callback of the single threaded `io_context`
and only *starts* asynchronous work, so each is a function from the queue to the queue and the list
of things it started.

| here | there |
| --- | --- |
| `BuilderQueue`            | the three lists and the counter (`BuilderQueue.h:69-84`) |
| `Action`                  | `asio::post`, `OpenStack::request_create`, `OpenStack::destroy` and the two retry timers; `check` is not an effect: it records the queue in which `create_reserve_builders` evaluates its counts |
| `createReserveBuilders`   | `create_reserve_builders` (`BuilderQueue.cpp:80`) |
| `createDone`              | the completion handler of `request_create` (`:99-116`) |
| `processPendingHandler`   | `process_pending_handler` (`:52`) |
| `checkoutBuilder`         | `checkout_builder` (`BuilderQueue.h:40`) |
| `returnBuilder`, `destroyDone` | `return_builder` (`BuilderQueue.cpp:36`) and the completion handler of its `destroy` (`:38-49`) |
| `retryReturnBuilder`, `retryCreateReserveBuilders` | the timer wrappers (`BuilderQueue.h:56-61`) |
| `Callback`                | the ways the event loop enters the queue |

`std::size_t` values are naturals below `2 ^ 64` and every operation on them that may leave that
range goes through `toSizeT`. `outstanding_create_count` is an `int`; it is an `Int` here, since
its overflow has no meaning in the source.
-/

namespace ContainerBuilder

variable {H : Type}

/-- `max_builder_count(25)` (BuilderQueue.h:22). -/
def maxBuilderCount : Nat := 25

/-- `max_reserve_builder_count(10)` (BuilderQueue.h:23). -/
def maxReserveBuilderCount : Nat := 10

theorem maxBuilderCount_lt : maxBuilderCount < UInt64.size := by decide
theorem maxReserveBuilderCount_lt : maxReserveBuilderCount < UInt64.size := by decide

structure BuilderQueue (H : Type) where
  pendingHandlers : List H
  reserveBuilders : List BuilderData
  activeBuilders : List BuilderData
  outstandingCreateCount : Int
deriving DecidableEq

/-- What a callback starts. -/
inductive Action (H : Type)
  | check (q : BuilderQueue H)
  | post (handler : H) (builder : BuilderData)
  | requestCreate
  | destroy (builder : BuilderData)
  | returnTimer (builder : BuilderData)
  | createTimer
deriving DecidableEq

structure Out (H : Type) where
  queue : BuilderQueue H
  actions : List (Action H)

/-! ## What a list of actions contains -/

/-- The (handler, builder) pairs posted, in order. -/
def posted (as : List (Action H)) : List (H × BuilderData) :=
  as.filterMap fun
    | .post handler builder => some (handler, builder)
    | _ => none

/-- The builders whose destruction is requested, in order. -/
def destroyed (as : List (Action H)) : List BuilderData :=
  as.filterMap fun
    | .destroy builder => some builder
    | _ => none

/-- The builders whose return is to be retried, in order. -/
def returnTimers (as : List (Action H)) : List BuilderData :=
  as.filterMap fun
    | .returnTimer builder => some builder
    | _ => none

/-- The number of create requests. -/
def requests (as : List (Action H)) : Nat :=
  as.countP fun
    | .requestCreate => true
    | _ => false

/-- The number of create-retry timers. -/
def createTimers (as : List (Action H)) : Nat :=
  as.countP fun
    | .createTimer => true
    | _ => false

@[simp] theorem posted_append (as bs : List (Action H)) : posted (as ++ bs) = posted as ++ posted bs :=
  List.filterMap_append

@[simp] theorem destroyed_append (as bs : List (Action H)) :
    destroyed (as ++ bs) = destroyed as ++ destroyed bs :=
  List.filterMap_append

@[simp] theorem returnTimers_append (as bs : List (Action H)) :
    returnTimers (as ++ bs) = returnTimers as ++ returnTimers bs :=
  List.filterMap_append

@[simp] theorem requests_append (as bs : List (Action H)) :
    requests (as ++ bs) = requests as + requests bs :=
  List.countP_append

@[simp] theorem createTimers_append (as bs : List (Action H)) :
    createTimers (as ++ bs) = createTimers as + createTimers bs :=
  List.countP_append

@[simp] theorem posted_nil : posted ([] : List (Action H)) = [] := rfl

@[simp] theorem posted_post (handler : H) (builder : BuilderData) (as : List (Action H)) :
    posted (.post handler builder :: as) = (handler, builder) :: posted as := rfl

/-! ## `create_reserve_builders` -/

/-- `reserve_builders.size() + outstanding_create_count`: the `int` is converted to `size_t`. -/
def BuilderQueue.potentialReserveCount (q : BuilderQueue H) : Nat :=
  toSizeT (q.reserveBuilders.length + q.outstandingCreateCount)

def BuilderQueue.potentialTotalCount (q : BuilderQueue H) : Nat :=
  toSizeT (q.potentialReserveCount + q.activeBuilders.length)

def BuilderQueue.reserveRequestCount (q : BuilderQueue H) : Nat :=
  toSizeT (maxReserveBuilderCount - q.potentialReserveCount)

/-- `max_builder_count - potential_total_count`. -/
def BuilderQueue.remainingCount (q : BuilderQueue H) : Nat :=
  toSizeT (maxBuilderCount - q.potentialTotalCount)

def BuilderQueue.requestCount (q : BuilderQueue H) : Nat :=
  min q.reserveRequestCount q.remainingCount

/-- The `for` loop (BuilderQueue.cpp:94-117): `n` requests are still to be made. -/
def requestCreates : Nat → Out H → Out H
  | 0, o => o
  | n + 1, o =>
    requestCreates n
      ⟨{ o.queue with outstandingCreateCount := o.queue.outstandingCreateCount + 1 },
        o.actions ++ [.requestCreate]⟩

def createReserveBuilders (q : BuilderQueue H) : Out H :=
  if q.potentialReserveCount < maxReserveBuilderCount then
    requestCreates q.requestCount ⟨q, [.check q]⟩
  else ⟨q, [.check q]⟩

/-! ## The other member functions -/

/-- `builder` becomes active, and what follows the two heads stays (BuilderQueue.cpp:64-68). -/
def BuilderQueue.handOut (q : BuilderQueue H) (builder : BuilderData) (handlers : List H)
    (builders : List BuilderData) : BuilderQueue H :=
  { q with
    activeBuilders := q.activeBuilders ++ [builder]
    reserveBuilders := builders
    pendingHandlers := handlers }

/-- Serves at most one handler. -/
def processPendingHandler (q : BuilderQueue H) : Out H :=
  match q.pendingHandlers, q.reserveBuilders with
  | handler :: handlers, builder :: builders =>
    let o := createReserveBuilders (q.handOut builder handlers builders)
    ⟨o.queue, .post handler builder :: o.actions⟩
  | _, _ => ⟨q, []⟩

def checkoutBuilder (handler : H) (q : BuilderQueue H) : Out H :=
  processPendingHandler { q with pendingHandlers := q.pendingHandlers ++ [handler] }

def createDone (error : ErrorCode) (builder : BuilderData) (q : BuilderQueue H) : Out H :=
  let q := { q with outstandingCreateCount := q.outstandingCreateCount - 1 }
  match error with
  | none => processPendingHandler { q with reserveBuilders := q.reserveBuilders ++ [builder] }
  | some _ => ⟨q, [.createTimer]⟩

def returnBuilder (builder : BuilderData) (q : BuilderQueue H) : Out H := ⟨q, [.destroy builder]⟩

def destroyDone (builder : BuilderData) (error : ErrorCode) (q : BuilderQueue H) : Out H :=
  match error with
  | none => createReserveBuilders { q with activeBuilders := removeBuilder builder q.activeBuilders }
  | some _ => ⟨q, [.returnTimer builder]⟩

def retryReturnBuilder (builder : BuilderData) (q : BuilderQueue H) : Out H := returnBuilder builder q

def retryCreateReserveBuilders (q : BuilderQueue H) : Out H := createReserveBuilders q

/-- The constructor (BuilderQueue.h:21). -/
def BuilderQueue.new : Out H := createReserveBuilders ⟨[], [], [], 0⟩

/-- The ways the event loop enters the queue. -/
inductive Callback (H : Type)
  | checkoutBuilder (handler : H)
  | returnBuilder (builder : BuilderData)
  | createDone (error : ErrorCode) (builder : BuilderData)
  | destroyDone (builder : BuilderData) (error : ErrorCode)
  | retryReturnBuilder (builder : BuilderData)
  | retryCreateReserveBuilders
deriving DecidableEq

def Callback.run : Callback H → BuilderQueue H → Out H
  | .checkoutBuilder handler, q => ContainerBuilder.checkoutBuilder handler q
  | .returnBuilder builder, q => ContainerBuilder.returnBuilder builder q
  | .createDone error builder, q => ContainerBuilder.createDone error builder q
  | .destroyDone builder error, q => ContainerBuilder.destroyDone builder error q
  | .retryReturnBuilder builder, q => ContainerBuilder.retryReturnBuilder builder q
  | .retryCreateReserveBuilders, q => ContainerBuilder.retryCreateReserveBuilders q

/-! ## What `create_reserve_builders` does -/

/-- The number of requests one call makes. -/
def BuilderQueue.launched (q : BuilderQueue H) : Nat :=
  if q.potentialReserveCount < maxReserveBuilderCount then q.requestCount else 0

theorem requestCreates_eq : ∀ (n : Nat) (o : Out H), requestCreates n o =
    ⟨{ o.queue with outstandingCreateCount := o.queue.outstandingCreateCount + n },
      o.actions ++ List.replicate n .requestCreate⟩
  | 0, o => by simp [requestCreates]
  | n + 1, o => by
    rw [requestCreates, requestCreates_eq n]
    simp only [List.append_assoc, List.singleton_append, List.replicate_succ, Out.mk.injEq,
      BuilderQueue.mk.injEq, true_and, and_true]
    omega

theorem createReserveBuilders_eq (q : BuilderQueue H) : createReserveBuilders q =
    ⟨{ q with outstandingCreateCount := q.outstandingCreateCount + q.launched },
      .check q :: List.replicate q.launched .requestCreate⟩ := by
  unfold createReserveBuilders BuilderQueue.launched
  split
  · rw [requestCreates_eq]; rfl
  · simp

section frame
variable (q : BuilderQueue H)

@[simp] theorem createReserveBuilders_pendingHandlers :
    (createReserveBuilders q).queue.pendingHandlers = q.pendingHandlers := by
  rw [createReserveBuilders_eq]

@[simp] theorem createReserveBuilders_reserveBuilders :
    (createReserveBuilders q).queue.reserveBuilders = q.reserveBuilders := by
  rw [createReserveBuilders_eq]

@[simp] theorem createReserveBuilders_activeBuilders :
    (createReserveBuilders q).queue.activeBuilders = q.activeBuilders := by
  rw [createReserveBuilders_eq]

@[simp] theorem createReserveBuilders_outstandingCreateCount :
    (createReserveBuilders q).queue.outstandingCreateCount =
      q.outstandingCreateCount + q.launched := by
  rw [createReserveBuilders_eq]

theorem createReserveBuilders_actions :
    (createReserveBuilders q).actions = .check q :: List.replicate q.launched .requestCreate := by
  rw [createReserveBuilders_eq]

@[simp] theorem posted_createReserveBuilders : posted (createReserveBuilders q).actions = [] := by
  rw [createReserveBuilders_actions]; simp [posted]

@[simp] theorem destroyed_createReserveBuilders :
    destroyed (createReserveBuilders q).actions = [] := by
  rw [createReserveBuilders_actions]; simp [destroyed]

@[simp] theorem returnTimers_createReserveBuilders :
    returnTimers (createReserveBuilders q).actions = [] := by
  rw [createReserveBuilders_actions]; simp [returnTimers]

@[simp] theorem requests_createReserveBuilders :
    requests (createReserveBuilders q).actions = q.launched := by
  rw [createReserveBuilders_actions]; simp [requests, List.countP_replicate]

@[simp] theorem createTimers_createReserveBuilders :
    createTimers (createReserveBuilders q).actions = 0 := by
  rw [createReserveBuilders_actions]; simp [createTimers]

end frame

/-! ## What each callback does

Between callbacks no handler waits while a builder is in reserve (`Matching.lean`), so each callback
either serves exactly the one arrival it brings or none. -/

/-- `process_pending_handler` found `handler` and `builder`. -/
def handOver (handler : H) (builder : BuilderData) (q : BuilderQueue H) : Out H :=
  ⟨(createReserveBuilders q).queue, .post handler builder :: (createReserveBuilders q).actions⟩

section
variable {q : BuilderQueue H} {handler : H} {handlers : List H} {builder : BuilderData}
  {builders : List BuilderData}

theorem checkoutBuilder_wait (hr : q.reserveBuilders = []) : checkoutBuilder handler q =
    ⟨{ q with pendingHandlers := q.pendingHandlers ++ [handler] }, []⟩ := by
  unfold checkoutBuilder processPendingHandler
  rw [hr]
  split
  · rename_i h
    cases h
  · rfl

theorem checkoutBuilder_serve (hp : q.pendingHandlers = [])
    (hr : q.reserveBuilders = builder :: builders) :
    checkoutBuilder handler q = handOver handler builder (q.handOut builder [] builders) := by
  unfold checkoutBuilder processPendingHandler
  rw [hp, hr]
  rfl

theorem createDone_wait (hp : q.pendingHandlers = []) : createDone none builder q =
    ⟨{ q with
        outstandingCreateCount := q.outstandingCreateCount - 1
        reserveBuilders := q.reserveBuilders ++ [builder] }, []⟩ := by
  unfold createDone processPendingHandler
  simp only [hp]

theorem createDone_serve (hp : q.pendingHandlers = handler :: handlers)
    (hr : q.reserveBuilders = []) :
    createDone none builder q = handOver handler builder
      { q.handOut builder handlers [] with
        outstandingCreateCount := q.outstandingCreateCount - 1 } := by
  unfold createDone processPendingHandler
  simp only [hp, hr]
  rfl

end

theorem createDone_error (v : Nat) (builder : BuilderData) (q : BuilderQueue H) :
    createDone (some v) builder q =
      ⟨{ q with outstandingCreateCount := q.outstandingCreateCount - 1 }, [.createTimer]⟩ := rfl

/-- The destroy requests a callback makes. -/
def Callback.destroys : Callback H → List BuilderData
  | .returnBuilder builder => [builder]
  | .retryReturnBuilder builder => [builder]
  | _ => []

theorem destroyed_processPendingHandler (q : BuilderQueue H) :
    destroyed (processPendingHandler q).actions = [] := by
  unfold processPendingHandler
  split
  · exact destroyed_createReserveBuilders _
  · rfl

theorem run_destroyed (c : Callback H) (q : BuilderQueue H) :
    destroyed (c.run q).actions = c.destroys := by
  cases c with
  | checkoutBuilder handler => exact destroyed_processPendingHandler _
  | returnBuilder builder => rfl
  | createDone error builder =>
    cases error
    · exact destroyed_processPendingHandler _
    · rfl
  | destroyDone builder error =>
    cases error
    · exact destroyed_createReserveBuilders _
    · rfl
  | retryReturnBuilder builder => rfl
  | retryCreateReserveBuilders => exact destroyed_createReserveBuilders _

/-- The builders whose return a callback puts off. -/
def Callback.putsOff : Callback H → List BuilderData
  | .destroyDone builder (some _) => [builder]
  | _ => []

theorem run_returnTimers (c : Callback H) (q : BuilderQueue H) :
    returnTimers (c.run q).actions = c.putsOff := by
  have hp : ∀ q : BuilderQueue H, returnTimers (processPendingHandler q).actions = [] := by
    intro q
    unfold processPendingHandler
    split
    · exact returnTimers_createReserveBuilders _
    · rfl
  cases c with
  | checkoutBuilder handler => exact hp _
  | returnBuilder builder => rfl
  | createDone error builder =>
    cases error
    · exact hp _
    · rfl
  | destroyDone builder error =>
    cases error
    · exact returnTimers_createReserveBuilders _
    · rfl
  | retryReturnBuilder builder => rfl
  | retryCreateReserveBuilders => exact returnTimers_createReserveBuilders _

/-- The queue has `builder`, in reserve or active. -/
def BuilderQueue.has (q : BuilderQueue H) (builder : BuilderData) : Prop :=
  builder ∈ q.reserveBuilders ∨ builder ∈ q.activeBuilders

theorem has_createReserveBuilders (q : BuilderQueue H) (b : BuilderData) :
    (createReserveBuilders q).queue.has b ↔ q.has b := by
  simp [BuilderQueue.has]

/-- Serving a handler moves a builder from one list to the other. -/
theorem has_processPendingHandler (q : BuilderQueue H) (b : BuilderData) :
    (processPendingHandler q).queue.has b ↔ q.has b := by
  unfold processPendingHandler
  split
  · rename_i handler handlers builder builders hp hr
    simp only [BuilderQueue.has, createReserveBuilders_reserveBuilders,
      createReserveBuilders_activeBuilders, BuilderQueue.handOut, hr, List.mem_append,
      List.mem_cons]
    grind
  · rfl

/-- What a callback does to the builders of the queue. -/
theorem has_run (c : Callback H) (q : BuilderQueue H) (b : BuilderData) :
    (c.run q).queue.has b ↔
      match c with
      | .createDone none builder => q.has b ∨ b = builder
      | .destroyDone builder none =>
        b ∈ q.reserveBuilders ∨ b ∈ q.activeBuilders ∧ b.id ≠ builder.id
      | _ => q.has b := by
  cases c with
  | checkoutBuilder handler => exact has_processPendingHandler _ b
  | returnBuilder builder => rfl
  | createDone error builder =>
    cases error with
    | none =>
      refine (has_processPendingHandler _ b).trans ?_
      simp only [BuilderQueue.has, List.mem_append, List.mem_singleton]
      grind
    | some v => rfl
  | destroyDone builder error =>
    cases error with
    | none =>
      refine (has_createReserveBuilders _ b).trans ?_
      simp only [BuilderQueue.has, mem_removeBuilder]
    | some v => rfl
  | retryReturnBuilder builder => rfl
  | retryCreateReserveBuilders => exact has_createReserveBuilders _ b

theorem mem_posted_processPendingHandler {q : BuilderQueue H} {handler : H} {builder : BuilderData}
    (h : (handler, builder) ∈ posted (processPendingHandler q).actions) :
    builder ∈ (processPendingHandler q).queue.activeBuilders := by
  unfold processPendingHandler at h ⊢
  split at h
  · simp only [posted_post, posted_createReserveBuilders, List.mem_singleton, Prod.mk.injEq] at h
    simp [BuilderQueue.handOut, h.2]
  · cases h

/-- A builder that is handed over is active. -/
theorem active_of_mem_posted {c : Callback H} {q : BuilderQueue H} {handler : H}
    {builder : BuilderData} (h : (handler, builder) ∈ posted (c.run q).actions) :
    builder ∈ (c.run q).queue.activeBuilders := by
  cases c with
  | checkoutBuilder handler => exact mem_posted_processPendingHandler h
  | createDone error builder =>
    cases error with
    | none => exact mem_posted_processPendingHandler h
    | some v => cases h
  | destroyDone builder error =>
    cases error with
    | none =>
      have hnone : posted ((Callback.destroyDone builder none).run q).actions = [] :=
        posted_createReserveBuilders _
      rw [hnone] at h
      cases h
    | some v => cases h
  | returnBuilder builder | retryReturnBuilder builder => cases h
  | retryCreateReserveBuilders =>
    have hnone : posted (Callback.retryCreateReserveBuilders.run q).actions = [] :=
      posted_createReserveBuilders _
    rw [hnone] at h
    cases h

end ContainerBuilder
