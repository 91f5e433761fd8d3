import ContainerBuilder.BuilderQueue.OpenStack

/-!
# Asynchronous commands (`OpenStack.h`, `Docker.h`)

`request_create`, `destroy` and `request_image_list` are one scheme three times: launch a script,
read its output until the read completes, post the handler with what came of it, and look at the
exit code at last. A launch that fails posts the handler and does not leave the function, so the
read is started all the same.

| here | there |
| --- | --- |
| `OpenStack.requestCreate`  | `OpenStack::request_create` (`OpenStack.h:28`) |
| `OpenStack.destroy`        | `OpenStack::destroy` (`OpenStack.h:113`) |
| `Docker.requestImageList`  | `Docker::request_image_list` (`Docker.h:22`) |
| `Command.atLaunch`         | `if (create_error)`, `if (destroy_error)`, `if (list_error)` |
| `Command.readDone`         | the handler of `async_read`, up to `process.wait` |

`callMachine` has any number of calls under way, in any order; `posted_once_iff` says which of them
post their handler once. `told_iff` says when a result tells how the script ended.
-/

namespace ContainerBuilder

open Lib

variable {H : Type}

/-- The arguments a handler is posted with. -/
inductive CommandResult
  | created (error : ErrorCode) (builder : BuilderData)
  | destroyed (error : ErrorCode)
  | imageList (error : ErrorCode) (imageList : Bytes)
deriving DecidableEq

def CommandResult.error : CommandResult → ErrorCode
  | .created error _ => error
  | .destroyed error => error
  | .imageList error _ => error

structure Command where
  launchFailed : Nat → CommandResult
  readDone : PipeRead → CommandResult

namespace Command

/-- What is posted before the read is started. -/
def atLaunch (c : Command) : ErrorCode → List CommandResult
  | none => []
  | some v => [c.launchFailed v]

/-- All that one call posts, in order. Its exit code is only logged. -/
def posts (c : Command) (launch : ErrorCode) (read : PipeRead) (_exitCode : Int) :
    List CommandResult :=
  c.atLaunch launch ++ [c.readDone read]

theorem posts_length_eq_one {c : Command} {launch : ErrorCode} {read : PipeRead} {exitCode : Int} :
    (c.posts launch read exitCode).length = 1 ↔ launch = none := by
  cases launch with
  | none => simp [posts, atLaunch]
  | some v => simp [posts, atLaunch]

end Command

/-- `OpenStack::request_create`. -/
def OpenStack.requestCreate (readJson : Bytes → Option Ptree) : Command where
  launchFailed v := .created (some v) noBuilder
  readDone read := .created (createResult readJson read).1 (createResult readJson read).2

/-- `OpenStack::destroy`. -/
def OpenStack.destroy : Command where
  launchFailed v := .destroyed (some v)
  readDone read := .destroyed (destroyResult read)

/-- `Docker::request_image_list`. -/
def Docker.requestImageList : Command where
  launchFailed v := .imageList (some v) (ascii "image list error")
  readDone
    | .error v => .imageList (some v) (ascii "Error reading image list output")
    | .eof output => .imageList none output

/-! ## Calls -/

inductive CommandKind
  | requestCreate
  | destroy (builder : BuilderData)
  | requestImageList
deriving DecidableEq

def CommandKind.command (readJson : Bytes → Option Ptree) : CommandKind → Command
  | .requestCreate => OpenStack.requestCreate readJson
  | .destroy _ => OpenStack.destroy
  | .requestImageList => Docker.requestImageList

/-- A call that has been made; `done` is how its read has completed and the exit code. -/
structure Call where
  kind : CommandKind
  launch : ErrorCode
  done : Option (PipeRead × Int)
deriving DecidableEq

inductive CallEvent
  | call (kind : CommandKind) (launch : ErrorCode)
  | readDone (k : Nat) (read : PipeRead) (exitCode : Int)
deriving DecidableEq

section
variable (readJson : Bytes → Option Ptree)

/-- The trace shows which call posts what. -/
def Call.step (s : List Call) : CallEvent → Option (List Call × List (Nat × CommandResult))
  | .call kind launch =>
    some (s ++ [⟨kind, launch, none⟩],
      ((kind.command readJson).atLaunch launch).map fun r => (s.length, r))
  | .readDone k read exitCode =>
    match s[k]? with
    | some ⟨kind, launch, none⟩ =>
      if Fleet.readable launch.isNone read then
        some (s.set k ⟨kind, launch, some (read, exitCode)⟩,
          [(k, (kind.command readJson).readDone read)])
      else none
    | _ => none

def callMachine : Machine (List Call) CallEvent (Nat × CommandResult) where
  init := []
  initOut := []
  step := Call.step readJson

/-- What a call has posted by now. -/
def Call.posted (call : Call) : List CommandResult :=
  match call.done with
  | none => (call.kind.command readJson).atLaunch call.launch
  | some (read, exitCode) => (call.kind.command readJson).posts call.launch read exitCode

end

/-- What the call number `k` has posted. -/
def postsOf (k : Nat) (tr : List (Nat × CommandResult)) : List CommandResult :=
  tr.filterMap fun o => if o.1 = k then some o.2 else none

@[simp] theorem postsOf_append (k : Nat) (tr us : List (Nat × CommandResult)) :
    postsOf k (tr ++ us) = postsOf k tr ++ postsOf k us :=
  List.filterMap_append

theorem postsOf_map (k j : Nat) (rs : List CommandResult) :
    postsOf k (rs.map fun r => (j, r)) = if j = k then rs else [] := by
  by_cases hjk : j = k
  · simp [postsOf, List.filterMap_map, hjk]
  · simp [postsOf, List.filterMap_map, hjk]

section
variable {readJson : Bytes → Option Ptree}

/-- **One event**: each call has posted what it should have by now. -/
theorem postsOf_step {s s' : List Call} {tr out : List (Nat × CommandResult)} {e : CallEvent}
    (h : ∀ k, postsOf k tr = (s[k]?).elim [] (Call.posted readJson))
    (hs : Call.step readJson s e = some (s', out)) (k : Nat) :
    postsOf k (tr ++ out) = (s'[k]?).elim [] (Call.posted readJson) := by
  rw [postsOf_append, h k]
  cases e with
  | call kind launch =>
    simp only [Call.step, Option.some.injEq, Prod.mk.injEq] at hs
    obtain ⟨rfl, rfl⟩ := hs
    rw [postsOf_map]
    rcases Nat.lt_trichotomy k s.length with hlt | rfl | hgt
    · rw [if_neg (Nat.ne_of_gt hlt), List.append_nil, List.getElem?_append_left hlt]
    · simp [Call.posted]
    · rw [if_neg (Nat.ne_of_lt hgt), List.getElem?_eq_none (Nat.le_of_lt hgt),
        List.getElem?_eq_none (by rw [List.length_append]; exact hgt)]
      rfl
  | readDone j read exitCode =>
    simp only [Call.step] at hs
    split at hs
    · rename_i kind launch hj
      split at hs
      · simp only [Option.some.injEq, Prod.mk.injEq] at hs
        obtain ⟨rfl, rfl⟩ := hs
        have hlt : j < s.length := (List.getElem?_eq_some_iff.1 hj).1
        by_cases hjk : j = k
        · subst hjk
          rw [hj, List.getElem?_set_self hlt]
          simp [postsOf, Call.posted, Command.posts]
        · simp [postsOf, hjk, List.getElem?_set_ne hjk]
      · cases hs
    · cases hs

theorem postsOf_run {G : List Call → CallEvent → Prop} {es : List CallEvent} {s : List Call}
    {tr : List (Nat × CommandResult)} (h : (callMachine readJson).Run G es s tr) (k : Nat) :
    postsOf k tr = (s[k]?).elim [] (Call.posted readJson) :=
  Machine.Run.inv (fun _ s tr => ∀ k, postsOf k tr = (s[k]?).elim [] (Call.posted readJson))
    (fun _ => rfl) (fun _ _ _ _ _ _ _ ih _ hs => postsOf_step ih hs) h k

/-- **A command completes once** just when its launch has not failed: whatever other calls are
under way, a call whose read has completed has then posted its handler exactly once. -/
theorem posted_once_iff {es : List CallEvent} {s : List Call} {tr : List (Nat × CommandResult)}
    (h : (callMachine readJson).Run Machine.always es s tr) {k : Nat} {call : Call}
    (hk : s[k]? = some call) (hdone : call.done ≠ none) :
    (postsOf k tr).length = 1 ↔ call.launch = none := by
  rw [postsOf_run h k, hk]
  show (Call.posted readJson call).length = 1 ↔ call.launch = none
  unfold Call.posted
  cases hd : call.done with
  | none => exact absurd hd hdone
  | some done => exact Command.posts_length_eq_one

end

/-- A list of images and a destruction at the same time. -/
theorem posted_once_run :
    ∃ tr, (callMachine fun _ => none).Run Machine.always
        [.call .requestImageList none, .call (.destroy noBuilder) none, .readDone 1 (.eof []) 0,
          .readDone 0 (.eof [97]) 0]
        [⟨.requestImageList, none, some (.eof [97], 0)⟩,
          ⟨.destroy noBuilder, none, some (.eof [], 0)⟩] tr ∧
      (postsOf 0 tr).length = 1 := by
  have hrun := Machine.exec_run (M := callMachine fun _ => none) (G := Machine.always)
    (g := fun _ _ => true) (fun _ _ _ => trivial)
    [.call .requestImageList none, .call (.destroy noBuilder) none, .readDone 1 (.eof []) 0,
      .readDone 0 (.eof [97]) 0] rfl
  exact ⟨_, hrun, (posted_once_iff hrun rfl (by decide)).2 rfl⟩

/-- The launch of `destroy-builder.sh` fails: an error is posted and then a success. -/
theorem failed_launch_posts_twice :
    ∃ s tr, (callMachine fun _ => none).Run Machine.always
        [.call (.destroy noBuilder) (some 2), .readDone 0 (.eof []) 0] s tr ∧
      postsOf 0 tr = [.destroyed (some 2), .destroyed none] :=
  have hrun := Machine.exec_run (M := callMachine fun _ => none) (G := Machine.always)
    (g := fun _ _ => true) (fun _ _ _ => trivial)
    [.call (.destroy noBuilder) (some 2), .readDone 0 (.eof []) 0] rfl
  ⟨_, _, hrun, rfl⟩

/-! ## What a result tells -/

/-- The output is an object with readable `"addresses"` and `"id"`. -/
def Describes (readJson : Bytes → Option Ptree) (output network id : Bytes) : Prop :=
  ∃ tree, readJson output = some tree ∧ tree.get (ascii "addresses") = some network ∧
    tree.get (ascii "id") = some id

theorem builderOf_eq_some {readJson : Bytes → Option Ptree} {output : Bytes}
    {builder : BuilderData} : builderOf readJson output = some builder ↔
      ∃ network id, Describes readJson output network id ∧
        builder = ⟨afterEq network, ascii "8080", id⟩ := by
  simp only [builderOf, Describes, Option.bind_eq_some_iff, Option.map_eq_some_iff]
  constructor
  · rintro ⟨tree, ht, network, hn, id, hid, rfl⟩
    exact ⟨network, id, ⟨tree, ht, hn, hid⟩, rfl⟩
  · rintro ⟨network, id, ⟨tree, ht, hn, hid⟩, rfl⟩
    exact ⟨tree, ht, network, hn, id, hid, rfl⟩

/-- `destroy` reports success only of a script that succeeded, and then always. -/
def DestroyTells (output : Bytes) (exitCode : Int) : Prop :=
  ∀ r ∈ OpenStack.destroy.posts none (.eof output) exitCode, r.error = none ↔ exitCode = 0

/-- `request_create` reports the builder of a script that succeeded and described one, and an error
otherwise. -/
structure CreateTells (readJson : Bytes → Option Ptree) (output : Bytes) (exitCode : Int) :
    Prop where
  success : ∀ r ∈ (OpenStack.requestCreate readJson).posts none (.eof output) exitCode,
    r.error = none ↔ exitCode = 0 ∧ ∃ network id, Describes readJson output network id
  builder : ∀ r ∈ (OpenStack.requestCreate readJson).posts none (.eof output) exitCode,
    r.error = none → ∃ network id, Describes readJson output network id ∧
      r = .created none ⟨afterEq network, ascii "8080", id⟩
  noBuilder : ∀ r ∈ (OpenStack.requestCreate readJson).posts none (.eof output) exitCode,
    r.error ≠ none → r = .created r.error noBuilder

theorem mem_posts_destroy {output : Bytes} {exitCode : Int} {r : CommandResult} :
    r ∈ OpenStack.destroy.posts none (.eof output) exitCode ↔ r = .destroyed none := by
  simp [Command.posts, Command.atLaunch, OpenStack.destroy, destroyResult]

theorem mem_posts_create {readJson : Bytes → Option Ptree} {output : Bytes} {exitCode : Int}
    {r : CommandResult} :
    r ∈ (OpenStack.requestCreate readJson).posts none (.eof output) exitCode ↔
      (∃ network id, Describes readJson output network id ∧
        r = .created none ⟨afterEq network, ascii "8080", id⟩) ∨
      ((¬ ∃ network id, Describes readJson output network id) ∧
        r = .created (some badMessage) noBuilder) := by
  simp only [Command.posts, Command.atLaunch, OpenStack.requestCreate, createResult,
    List.nil_append, List.mem_singleton]
  cases hb : builderOf readJson output with
  | some builder =>
    obtain ⟨network, id, hd, rfl⟩ := builderOf_eq_some.1 hb
    constructor
    · rintro rfl
      exact .inl ⟨network, id, hd, rfl⟩
    · rintro (⟨network', id', hd', rfl⟩ | ⟨hno, -⟩)
      · have he := hb.symm.trans (builderOf_eq_some.2 ⟨network', id', hd', rfl⟩)
        rw [Option.some.inj he]
      · exact absurd ⟨network, id, hd⟩ hno
  | none =>
    have hno : ¬ ∃ network id, Describes readJson output network id := by
      rintro ⟨network, id, hd⟩
      rw [builderOf_eq_some.2 ⟨network, id, hd, rfl⟩] at hb
      cases hb
    constructor
    · rintro rfl
      exact .inr ⟨hno, rfl⟩
    · rintro (⟨network, id, hd, -⟩ | ⟨-, rfl⟩)
      · exact absurd ⟨network, id, hd⟩ hno
      · rfl

/-- **The results tell the truth** about scripts that exit with zero, and `request_create` also
about those that describe no builder. -/
theorem told_iff (readJson : Bytes → Option Ptree) (output : Bytes) (exitCode : Int) :
    (DestroyTells output exitCode ↔ exitCode = 0) ∧
    (CreateTells readJson output exitCode ↔
      exitCode = 0 ∨ ¬ ∃ network id, Describes readJson output network id) := by
  constructor
  · simp [DestroyTells, mem_posts_destroy, CommandResult.error]
  · constructor
    · intro h
      by_cases hd : ∃ network id, Describes readJson output network id
      · obtain ⟨network, id, hd'⟩ := hd
        have hmem : .created none ⟨afterEq network, ascii "8080", id⟩ ∈
            (OpenStack.requestCreate readJson).posts none (.eof output) exitCode :=
          mem_posts_create.2 (.inl ⟨network, id, hd', rfl⟩)
        exact .inl ((h.success _ hmem).1 rfl).1
      · exact .inr hd
    · intro h
      refine ⟨fun r hr => ?_, fun r hr he => ?_, fun r hr he => ?_⟩
      · rcases mem_posts_create.1 hr with ⟨network, id, hd, rfl⟩ | ⟨hno, rfl⟩
        · have hzero : exitCode = 0 := h.resolve_right (not_not_intro ⟨network, id, hd⟩)
          exact ⟨fun _ => ⟨hzero, network, id, hd⟩, fun _ => rfl⟩
        · exact ⟨nofun, fun hd => absurd hd.2 hno⟩
      · rcases mem_posts_create.1 hr with hr | ⟨-, rfl⟩
        · exact hr
        · cases he
      · rcases mem_posts_create.1 hr with ⟨network, id, hd, rfl⟩ | ⟨-, rfl⟩
        · exact absurd rfl he
        · rfl

/-- A destruction that failed is reported as done. -/
theorem failed_destroy_told_done :
    ¬ DestroyTells (ascii "No server with a name or ID of 'a' exists.") 1 ∧
      OpenStack.destroy.posts none (.eof (ascii "No server with a name or ID of 'a' exists.")) 1 =
        [.destroyed none] :=
  ⟨fun h => absurd ((h _ (List.mem_singleton_self _)).1 rfl) (by decide), rfl⟩

/-! ## The commands of the fleet -/

/-- `Fleet.requestCreate` posts what the command posts at its launch. -/
theorem fleet_requestCreate_posts (readJson : Bytes → Option Ptree) (launch : ErrorCode)
    (s : Fleet H) : ∃ posts, (s.requestCreate launch).createDones = s.createDones ++ posts ∧
      posts.map (fun r => .created r.1 r.2) =
        (OpenStack.requestCreate readJson).atLaunch launch := by
  cases launch with
  | none => exact ⟨[], (List.append_nil _).symm, rfl⟩
  | some v => exact ⟨[(some v, noBuilder)], rfl, rfl⟩

/-- `Fleet.destroy` posts what the command posts at its launch. -/
theorem fleet_destroy_posts (builder : BuilderData) (launch : ErrorCode) (s : Fleet H) :
    ∃ posts, (s.destroy builder launch).destroyDones = s.destroyDones ++ posts ∧
      posts.map (fun r => .destroyed r.2) = OpenStack.destroy.atLaunch launch := by
  cases launch with
  | none => exact ⟨[], (List.append_nil _).symm, rfl⟩
  | some v => exact ⟨[(builder, some v)], rfl, rfl⟩

end ContainerBuilder
