import ContainerBuilder.BuilderQueue.Matching
import ContainerBuilder.Common.PropertyTree

/-!
# The queue with the real `OpenStack` (`OpenStack.h`)

`request_create` and `destroy` start a script and an `async_read` of its output, and *post* their
result when the read has completed. A launch that fails posts a result of its own (`:37`, `:123`)
and falls through to the read. When the read has completed its handler waits for the process, and
with it the one thread that runs all handlers; the exit code is only logged.

| here | there |
| --- | --- |
| `Fleet.requestCreate`, `Fleet.destroy` | the two calls up to `async_read` (`:28-43`, `:112-127`) |
| `createResult`, `destroyResult`        | what their read handlers post (`:44-92`, `:128-137`) |
| `builderOf`                            | the parsing of the JSON output (`:65-88`) |
| `Fleet.waiting`                        | the handler is in `process.wait` (`:99`, `:141`) |
| `FleetEvent.createDone`, `.destroyDone` | the posted result reaches the queue |
| `Fleet.held`                           | the `builder` fields of the connections (`Connection.h:34`) |

A launch that fails closes the write end of the pipe, so the read then completes with eof and no
data, and there is no process to wait for. Of the scripts the model takes that a run of
`create-builder.sh` starts at most one server, with an id not used before, whatever it prints and
returns, that `destroy-builder.sh` returns zero only if the server is gone, and that a script starts
and deletes no server any more once the read of its output has completed, however long it still runs.
`read_json` is a parameter.
-/

namespace ContainerBuilder

open Lib

variable {H : Type}

/-! ## Results -/

/-- How the `async_read` of a pipe completes: it reads on until there is an error, which is eof or
another one. -/
inductive PipeRead
  | eof (output : Bytes)
  | error (value : Nat)
deriving DecidableEq

/-- `EBADMSG`. -/
def badMessage : Nat := 74

/-- `network.substr(network.find('=') + 1)`: without a `'='` the position wraps to zero. -/
def afterEq (network : Bytes) : Bytes :=
  match network.dropWhile (· != 61) with
  | [] => network
  | _ :: host => host

/-- The builder the output of `create-builder.sh` describes, if it can be read. -/
def builderOf (readJson : Bytes → Option Ptree) (output : Bytes) : Option BuilderData :=
  (readJson output).bind fun tree =>
    (tree.get (ascii "addresses")).bind fun network =>
      (tree.get (ascii "id")).map fun id => ⟨afterEq network, ascii "8080", id⟩

/-- What the read handler of `request_create` posts. -/
def createResult (readJson : Bytes → Option Ptree) : PipeRead → ErrorCode × BuilderData
  | .error value => (some value, noBuilder)
  | .eof output =>
    match builderOf readJson output with
    | some builder => (none, builder)
    | none => (some badMessage, noBuilder)

/-- What the read handler of `destroy` posts. -/
def destroyResult : PipeRead → ErrorCode
  | .error value => some value
  | .eof _ => none

/-! ## The fleet -/

/-- A call of `request_create` whose read has not completed; `vm` is the server its script has
started. -/
structure CreateCommand where
  launched : Bool
  vm : Option Bytes
deriving DecidableEq

/-- A call of `destroy` whose read has not completed. -/
structure DestroyCommand where
  builder : BuilderData
  launched : Bool
deriving DecidableEq

structure Fleet (H : Type) where
  queue : BuilderQueue H
  creates : List CreateCommand
  /-- Results of `request_create` that are posted. -/
  createDones : List (ErrorCode × BuilderData)
  destroys : List DestroyCommand
  /-- Results of `destroy` that are posted. -/
  destroyDones : List (BuilderData × ErrorCode)
  returnTimers : List BuilderData
  createTimers : Nat
  posted : List (H × BuilderData)
  /-- The builders that handlers have been given and that have not been returned. -/
  held : List BuilderData
  /-- A read handler waits for its process, and every other handler for it. -/
  waiting : Bool
  /-- The ids of the servers that exist on OpenStack. -/
  vms : List Bytes
  /-- The ids of all servers so far. -/
  seen : List Bytes
deriving DecidableEq

/-- `launch` and `launches` are the outcomes of the launches an event causes, in order; `exitCode` is
what the script returns in the end. -/
inductive FleetEvent (H : Type)
  | checkoutBuilder (handler : H) (launches : List ErrorCode)
  | returnBuilder (builder : BuilderData) (launch : ErrorCode)
  | runHandler (k : Nat)
  | createRead (k : Nat) (read : PipeRead) (exitCode : Int)
  | createDone (k : Nat) (launches : List ErrorCode)
  | destroyRead (k : Nat) (read : PipeRead) (exitCode : Int)
  | destroyDone (k : Nat) (launches : List ErrorCode)
  | retryReturnBuilder (k : Nat) (launch : ErrorCode)
  | retryCreateReserveBuilders (launches : List ErrorCode)
  | processExits
  | startVm (k : Nat) (id : Bytes)
  | deleteVm (k : Nat)

/-- The events that run a handler of the `io_context`; the others happen outside of the queue. -/
def FleetEvent.handled : FleetEvent H → Bool
  | .processExits => false
  | .startVm _ _ => false
  | .deleteVm _ => false
  | _ => true

namespace Fleet

/-- The queue `queue` with nothing started. -/
def ofQueue (queue : BuilderQueue H) : Fleet H := ⟨queue, [], [], [], [], [], 0, [], [], false, [], []⟩

/-- `request_create`. -/
def requestCreate (launch : ErrorCode) (s : Fleet H) : Fleet H :=
  match launch with
  | none => { s with creates := s.creates ++ [⟨true, none⟩] }
  | some v =>
    { s with
      creates := s.creates ++ [⟨false, none⟩]
      createDones := s.createDones ++ [(some v, noBuilder)] }

/-- `destroy`. -/
def destroy (builder : BuilderData) (launch : ErrorCode) (s : Fleet H) : Fleet H :=
  match launch with
  | none => { s with destroys := s.destroys ++ [⟨builder, true⟩] }
  | some v =>
    { s with
      destroys := s.destroys ++ [⟨builder, false⟩]
      destroyDones := s.destroyDones ++ [(builder, some v)] }

/-- The queue has started the actions `as`; a launch without an outcome in `ls` succeeds. -/
def start : List ErrorCode → List (Action H) → Fleet H → Fleet H
  | _, [], s => s
  | ls, .check _ :: as, s => start ls as s
  | ls, .post handler builder :: as, s =>
    start ls as { s with posted := s.posted ++ [(handler, builder)] }
  | ls, .requestCreate :: as, s => start ls.tail as (s.requestCreate (ls.headD none))
  | ls, .destroy builder :: as, s => start ls.tail as (s.destroy builder (ls.headD none))
  | ls, .returnTimer builder :: as, s =>
    start ls as { s with returnTimers := s.returnTimers ++ [builder] }
  | ls, .createTimer :: as, s => start ls as { s with createTimers := s.createTimers + 1 }

/-- The queue reacts to the callback `c`. -/
def enter (s : Fleet H) (c : Callback H) (launches : List ErrorCode) :
    Fleet H × List (Action H) :=
  let o := c.run s.queue
  (start launches o.actions { s with queue := o.queue }, o.actions)

/-- The read of a command that was not launched ends in eof without data. -/
def readable (launched : Bool) (read : PipeRead) : Prop := launched = true ∨ read = .eof []

instance (launched : Bool) (read : PipeRead) : Decidable (readable launched read) :=
  inferInstanceAs (Decidable (_ ∨ _))

/-- What an event does when it happens. -/
def react (readJson : Bytes → Option Ptree) (s : Fleet H) :
    FleetEvent H → Option (Fleet H × List (Action H))
  | .checkoutBuilder handler launches => some (s.enter (.checkoutBuilder handler) launches)
  | .returnBuilder builder launch =>
    if builder ∈ s.held then
      some (({ s with held := s.held.erase builder } : Fleet H).enter
        (.returnBuilder builder) [launch])
    else none
  | .runHandler k =>
    match s.posted[k]? with
    | some (_, builder) =>
      some ({ s with posted := s.posted.eraseIdx k, held := builder :: s.held }, [])
    | none => none
  | .createRead k read _ =>
    match s.creates[k]? with
    | some command =>
      if readable command.launched read then
        some ({ s with
          creates := s.creates.eraseIdx k
          createDones := s.createDones ++ [createResult readJson read]
          waiting := command.launched }, [])
      else none
    | none => none
  | .createDone k launches =>
    match s.createDones[k]? with
    | some (error, builder) =>
      some (({ s with createDones := s.createDones.eraseIdx k } : Fleet H).enter
        (.createDone error builder) launches)
    | none => none
  | .destroyRead k read exitCode =>
    match s.destroys[k]? with
    | some command =>
      if readable command.launched read ∧
          (command.launched = true → exitCode = 0 → command.builder.id ∉ s.vms) then
        some ({ s with
          destroys := s.destroys.eraseIdx k
          destroyDones := s.destroyDones ++ [(command.builder, destroyResult read)]
          waiting := command.launched }, [])
      else none
    | none => none
  | .destroyDone k launches =>
    match s.destroyDones[k]? with
    | some (builder, error) =>
      some (({ s with destroyDones := s.destroyDones.eraseIdx k } : Fleet H).enter
        (.destroyDone builder error) launches)
    | none => none
  | .retryReturnBuilder k launch =>
    match s.returnTimers[k]? with
    | some builder =>
      some (({ s with returnTimers := s.returnTimers.eraseIdx k } : Fleet H).enter
        (.retryReturnBuilder builder) [launch])
    | none => none
  | .retryCreateReserveBuilders launches =>
    if 0 < s.createTimers then
      some (({ s with createTimers := s.createTimers - 1 } : Fleet H).enter
        .retryCreateReserveBuilders launches)
    else none
  | .processExits => if s.waiting = true then some ({ s with waiting := false }, []) else none
  | .startVm k id =>
    match s.creates[k]? with
    | some command =>
      if command.launched = true ∧ command.vm = none ∧ id ∉ s.seen then
        some ({ s with
          creates := s.creates.set k ⟨true, some id⟩
          vms := id :: s.vms
          seen := id :: s.seen }, [])
      else none
    | none => none
  | .deleteVm k =>
    match s.destroys[k]? with
    | some command =>
      if command.launched = true then
        some ({ s with vms := s.vms.filter (· ≠ command.builder.id) }, [])
      else none
    | none => none

/-- One thread runs all handlers, so none of them runs while one waits. -/
def step (readJson : Bytes → Option Ptree) (s : Fleet H) (e : FleetEvent H) :
    Option (Fleet H × List (Action H)) :=
  if s.waiting = true ∧ e.handled = true then none else s.react readJson e

/-- After the constructor of the queue, whose launches have the outcomes `launches`. -/
def new (launches : List ErrorCode) : Fleet H :=
  start launches (BuilderQueue.new (H := H)).actions (ofQueue BuilderQueue.new.queue)

/-- What each event needs and what it does. -/
inductive Rule (readJson : Bytes → Option Ptree) (s : Fleet H) :
    FleetEvent H → Fleet H → List (Action H) → Prop
  | checkoutBuilder (handler : H) (launches : List ErrorCode) :
    Rule readJson s (.checkoutBuilder handler launches)
      (s.enter (.checkoutBuilder handler) launches).1
      (s.enter (.checkoutBuilder handler) launches).2
  | returnBuilder (builder : BuilderData) (launch : ErrorCode) (s₁ : Fleet H) :
    builder ∈ s.held → s₁ = { s with held := s.held.erase builder } →
    Rule readJson s (.returnBuilder builder launch)
      (s₁.enter (.returnBuilder builder) [launch]).1
      (s₁.enter (.returnBuilder builder) [launch]).2
  | runHandler (k : Nat) (handler : H) (builder : BuilderData) :
    s.posted[k]? = some (handler, builder) →
    Rule readJson s (.runHandler k)
      { s with posted := s.posted.eraseIdx k, held := builder :: s.held } []
  | createRead (k : Nat) (read : PipeRead) (exitCode : Int) (command : CreateCommand) :
    s.creates[k]? = some command → readable command.launched read →
    Rule readJson s (.createRead k read exitCode)
      { s with
        creates := s.creates.eraseIdx k
        createDones := s.createDones ++ [createResult readJson read]
        waiting := command.launched } []
  | createDone (k : Nat) (launches : List ErrorCode) (error : ErrorCode) (builder : BuilderData)
    (s₁ : Fleet H) :
    s.createDones[k]? = some (error, builder) →
    s₁ = { s with createDones := s.createDones.eraseIdx k } →
    Rule readJson s (.createDone k launches) (s₁.enter (.createDone error builder) launches).1
      (s₁.enter (.createDone error builder) launches).2
  | destroyRead (k : Nat) (read : PipeRead) (exitCode : Int) (command : DestroyCommand) :
    s.destroys[k]? = some command → readable command.launched read →
    (command.launched = true → exitCode = 0 → command.builder.id ∉ s.vms) →
    Rule readJson s (.destroyRead k read exitCode)
      { s with
        destroys := s.destroys.eraseIdx k
        destroyDones := s.destroyDones ++ [(command.builder, destroyResult read)]
        waiting := command.launched } []
  | destroyDone (k : Nat) (launches : List ErrorCode) (builder : BuilderData) (error : ErrorCode)
    (s₁ : Fleet H) :
    s.destroyDones[k]? = some (builder, error) →
    s₁ = { s with destroyDones := s.destroyDones.eraseIdx k } →
    Rule readJson s (.destroyDone k launches) (s₁.enter (.destroyDone builder error) launches).1
      (s₁.enter (.destroyDone builder error) launches).2
  | retryReturnBuilder (k : Nat) (launch : ErrorCode) (builder : BuilderData) (s₁ : Fleet H) :
    s.returnTimers[k]? = some builder →
    s₁ = { s with returnTimers := s.returnTimers.eraseIdx k } →
    Rule readJson s (.retryReturnBuilder k launch)
      (s₁.enter (.retryReturnBuilder builder) [launch]).1
      (s₁.enter (.retryReturnBuilder builder) [launch]).2
  | retryCreateReserveBuilders (launches : List ErrorCode) (s₁ : Fleet H) :
    0 < s.createTimers → s₁ = { s with createTimers := s.createTimers - 1 } →
    Rule readJson s (.retryCreateReserveBuilders launches)
      (s₁.enter .retryCreateReserveBuilders launches).1
      (s₁.enter .retryCreateReserveBuilders launches).2
  | processExits : s.waiting = true →
    Rule readJson s .processExits { s with waiting := false } []
  | startVm (k : Nat) (id : Bytes) (command : CreateCommand) :
    s.creates[k]? = some command → command.launched = true → command.vm = none → id ∉ s.seen →
    Rule readJson s (.startVm k id)
      { s with
        creates := s.creates.set k ⟨true, some id⟩
        vms := id :: s.vms
        seen := id :: s.seen } []
  | deleteVm (k : Nat) (command : DestroyCommand) :
    s.destroys[k]? = some command → command.launched = true →
    Rule readJson s (.deleteVm k)
      { s with vms := s.vms.filter (· ≠ command.builder.id) } []

/-- What happens can happen now, and has its effect. -/
theorem step_eq_some {readJson : Bytes → Option Ptree} {s : Fleet H} {e : FleetEvent H}
    {r : Fleet H × List (Action H)} : s.step readJson e = some r ↔
      (s.waiting = true → e.handled = false) ∧ s.react readJson e = some r := by
  unfold step
  split
  · rename_i h
    simp [h.1, h.2]
  · rename_i h
    simp only [not_and, Bool.not_eq_true] at h
    exact ⟨fun hs => ⟨h, hs⟩, fun hs => hs.2⟩

/-- **The steps of the fleet**, event by event. -/
theorem step_rule {readJson : Bytes → Option Ptree} {s s' : Fleet H} {e : FleetEvent H}
    {out : List (Action H)} (h : s.step readJson e = some (s', out)) :
    Rule readJson s e s' out := by
  have hs := (step_eq_some.1 h).2
  cases e with
  | checkoutBuilder handler launches =>
    cases hs
    exact .checkoutBuilder handler launches
  | returnBuilder builder launch =>
    simp only [react] at hs
    split at hs <;> cases hs
    rename_i hb
    exact .returnBuilder builder launch _ hb rfl
  | runHandler k =>
    simp only [react] at hs
    split at hs <;> cases hs
    rename_i handler builder hk
    exact .runHandler k handler builder hk
  | createRead k read exitCode =>
    simp only [react] at hs
    split at hs
    · rename_i command hk
      split at hs <;> cases hs
      rename_i hread
      exact .createRead k read exitCode command hk hread
    · cases hs
  | createDone k launches =>
    simp only [react] at hs
    split at hs <;> cases hs
    rename_i error builder hk
    exact .createDone k launches error builder _ hk rfl
  | destroyRead k read exitCode =>
    simp only [react] at hs
    split at hs
    · rename_i command hk
      split at hs <;> cases hs
      rename_i hread
      exact .destroyRead k read exitCode command hk hread.1 hread.2
    · cases hs
  | destroyDone k launches =>
    simp only [react] at hs
    split at hs <;> cases hs
    rename_i builder error hk
    exact .destroyDone k launches builder error _ hk rfl
  | retryReturnBuilder k launch =>
    simp only [react] at hs
    split at hs <;> cases hs
    rename_i builder hk
    exact .retryReturnBuilder k launch builder _ hk rfl
  | retryCreateReserveBuilders launches =>
    simp only [react] at hs
    split at hs <;> cases hs
    rename_i hpos
    exact .retryCreateReserveBuilders launches _ hpos rfl
  | processExits =>
    simp only [react] at hs
    split at hs <;> cases hs
    rename_i hw
    exact .processExits hw
  | startVm k id =>
    simp only [react] at hs
    split at hs
    · rename_i command hk
      split at hs <;> cases hs
      rename_i hc
      exact .startVm k id command hk hc.1 hc.2.1 hc.2.2
    · cases hs
  | deleteVm k =>
    simp only [react] at hs
    split at hs
    · rename_i command hk
      split at hs <;> cases hs
      rename_i hlaunched
      exact .deleteVm k command hk hlaunched
    · cases hs

/-- What a callback leaves alone. -/
structure Frame (s s' : Fleet H) : Prop where
  queue : s'.queue = s.queue
  held : s'.held = s.held
  waiting : s'.waiting = s.waiting
  vms : s'.vms = s.vms
  seen : s'.seen = s.seen

theorem Frame.trans {s s₁ s₂ : Fleet H} (h : Frame s s₁) (h' : Frame s₁ s₂) :
    Frame s s₂ :=
  ⟨h'.queue.trans h.queue, h'.held.trans h.held, h'.waiting.trans h.waiting, h'.vms.trans h.vms,
    h'.seen.trans h.seen⟩

/-- **Frame**: starting the actions of a callback adds to what is outstanding and changes nothing
else. -/
theorem start_frame (ls : List ErrorCode) (as : List (Action H)) (s : Fleet H) :
    Frame s (start ls as s) := by
  induction as generalizing ls s with
  | nil => exact ⟨rfl, rfl, rfl, rfl, rfl⟩
  | cons a as ih =>
    cases a with
    | check q => exact ih ls s
    | post handler builder =>
      refine Frame.trans ?_ (ih ls { s with posted := s.posted ++ [(handler, builder)] })
      exact ⟨rfl, rfl, rfl, rfl, rfl⟩
    | requestCreate =>
      refine Frame.trans ?_ (ih ls.tail (s.requestCreate (ls.headD none)))
      cases ls.headD none <;> exact ⟨rfl, rfl, rfl, rfl, rfl⟩
    | destroy builder =>
      refine Frame.trans ?_ (ih ls.tail (s.destroy builder (ls.headD none)))
      cases ls.headD none <;> exact ⟨rfl, rfl, rfl, rfl, rfl⟩
    | returnTimer builder =>
      refine Frame.trans ?_ (ih ls { s with returnTimers := s.returnTimers ++ [builder] })
      exact ⟨rfl, rfl, rfl, rfl, rfl⟩
    | createTimer =>
      refine Frame.trans ?_ (ih ls { s with createTimers := s.createTimers + 1 })
      exact ⟨rfl, rfl, rfl, rfl, rfl⟩

/-- Nor does the callback change more than the queue. -/
theorem enter_frame (s : Fleet H) (c : Callback H) (ls : List ErrorCode) :
    Frame { s with queue := (c.run s.queue).queue } (s.enter c ls).1 :=
  start_frame ls _ _

theorem new_frame (launches : List ErrorCode) :
    Frame (ofQueue (H := H) BuilderQueue.new.queue) (new launches) :=
  start_frame launches _ _

end Fleet

def fleetMachine (H : Type) (readJson : Bytes → Option Ptree) (launches : List ErrorCode) :
    Machine (Fleet H) (FleetEvent H) (Action H) where
  init := Fleet.new launches
  initOut := BuilderQueue.new.actions
  step := Fleet.step readJson

/-- The outcomes of the launches of `create-builder.sh` that an event causes. -/
def FleetEvent.createLaunches : FleetEvent H → List ErrorCode
  | .checkoutBuilder _ launches => launches
  | .createDone _ launches => launches
  | .destroyDone _ launches => launches
  | .retryCreateReserveBuilders launches => launches
  | _ => []

end ContainerBuilder
