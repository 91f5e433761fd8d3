import ContainerBuilder.Lib.Feed
import ContainerBuilder.Session.Programs

/-!
# The relay of the build output when reads fail

The loop of the client's `stream_build` asks `read_some` for an error code and never looks at it; it
is left when `is_message_done()`. The callback of the builder's `stream_build` starts another read
after every error but eof. So whether they stop depends on what the reads leave behind, and
`relay_stops_iff` says on what exactly.

| here | there |
| --- | --- |
| `ReadSome`             | how `builder_stream.read_some(buffer, error)` returns |
| `ClientRelay`, `ClientRelay.step` | `stream_build` of the client (`Client/src/main.cpp:218-237`), one read at a time |
| `PipeCompletion`       | the arguments of `stream_output`, and how its `write_some` ends |
| `BuilderRelay`, `BuilderRelay.step` | the chain of `stream_output` (`Builder/src/main.cpp:121-133`) |

The reads of a sequence may fail at any place and in any way; nothing is assumed of those after a
failure. `is_message_done()` before the first frame is a parameter.
-/

namespace ContainerBuilder

open Lib

/-! ## The client -/

inductive ReadSome
  | piece (p : Frame UInt8)
  | error (value : Nat)
deriving DecidableEq, Repr

/-- The bytes read: none if the read fails. -/
def ReadSome.bytes : ReadSome → Bytes
  | .piece p => p.payload
  | .error _ => []

/-- `is_message_done()` after a read; an error leaves it as it was. -/
def ReadSome.isMessageDone (before : Bool) : ReadSome → Bool
  | .piece p => p.fin
  | .error _ => before

inductive ClientRelay
  /-- The loop, before `read_some`; `done` is `is_message_done()`. -/
  | streaming (printed : Bytes) (done : Bool)
  /-- In `builder_stream.read(exit_code_buffer)`. -/
  | readExitCode (printed exitCodeString : Bytes)
  | returned (printed : Bytes)
  | threw (printed : Bytes) (ex : Thrown)
deriving DecidableEq, Repr

namespace ClientRelay

def start (done : Bool) : ClientRelay := .streaming [] done

/-- The test of the exit code (`:234`). -/
def checkExitCode (printed exitCodeString : Bytes) : ClientRelay :=
  match Client.checkExitCode exitCodeString with
  | .threw ex => .threw printed (.exception ex)
  | _ => .returned printed

def step : ClientRelay → ReadSome → ClientRelay
  | .streaming printed done, r =>
    let printed := printed ++ r.bytes
    if r.isMessageDone done then .readExitCode printed []
    else .streaming printed (r.isMessageDone done)
  | .readExitCode printed exitCodeString, .piece p =>
    let exitCodeString := exitCodeString ++ p.payload
    if p.fin then checkExitCode printed exitCodeString else .readExitCode printed exitCodeString
  | .readExitCode printed _, .error value => .threw printed (.systemError value)
  | s, _ => s

/-- In the loop. -/
def Streaming : ClientRelay → Prop
  | .streaming _ _ => True
  | _ => False

/-- The loop of `stream_build` is left. -/
def Stops (done : Bool) (reads : Nat → ReadSome) : Prop :=
  Leaves step Streaming (start done) reads

/-- The state of `Client.program` with the same stage. -/
def client : ClientRelay → Client
  | .streaming printed _ => ⟨.streamBuild, printed⟩
  | .readExitCode printed exitCodeString => ⟨.readExitCode exitCodeString, printed⟩
  | .returned printed => ⟨.readFile .start, printed⟩
  | .threw printed (.exception ex) => ⟨.threw ex, printed⟩
  | .threw printed _ => ⟨.threw .iosFailure, printed⟩

/-- As long as no read fails, this is the `stream_build` of `Client.program`. -/
theorem step_piece (freed : Freed) (header : Bytes) (d : ClientData) (context : File)
    {s : ClientRelay}
    (hs : (∃ printed done, s = .streaming printed done) ∨
      ∃ printed exitCodeString, s = .readExitCode printed exitCodeString) :
    ∃ m next, Client.program freed header d context s.client = .read m next ∧
      ∀ p, next p = (s.step (.piece p)).client := by
  rcases hs with ⟨printed, done, rfl⟩ | ⟨printed, exitCodeString, rfl⟩
  · refine ⟨_, _, rfl, fun p => ?_⟩
    obtain ⟨fin, payload⟩ := p
    cases fin with
    | false => rfl
    | true => rfl
  · refine ⟨_, _, rfl, fun p => ?_⟩
    obtain ⟨fin, payload⟩ := p
    cases fin with
    | false => rfl
    | true =>
      simp only [step, if_true, checkExitCode, Client.checkExitCode]
      by_cases hcode : (exitCodeString ++ payload != ascii "0") = true
      · simp only [hcode, if_true]
        rfl
      · simp only [hcode]
        rfl

/-- **The client's loop is left** if a read ends the message, or if the first one fails while no
message is under way, and in no other case. -/
theorem stops_iff {done : Bool} {reads : Nat → ReadSome} :
    Stops done reads ↔ (∃ n p, reads n = .piece p ∧ p.fin = true) ∨
      (∃ value, reads 0 = .error value ∧ done = true) := by
  constructor
  · intro hstops
    apply Classical.byContradiction
    intro hnot
    rw [not_or] at hnot
    obtain ⟨hfin, hfirst⟩ := hnot
    -- once a read has returned, the message is under way and stays so
    have hunder : ∀ n before, (before = false ∨ n = 0 ∧ before = done) →
        (reads n).isMessageDone before = false := by
      intro n before hbefore
      cases hr : reads n with
      | piece p =>
        have hp : p.fin ≠ true := fun hp => hfin ⟨n, p, hr, hp⟩
        simpa [ReadSome.isMessageDone] using hp
      | error value =>
        rcases hbefore with hf | ⟨rfl, rfl⟩
        · exact hf
        · have hd : before ≠ true := fun hd => hfirst ⟨value, hr, hd⟩
          simpa [ReadSome.isMessageDone] using hd
    refine not_leaves (fun n s => ∃ printed before, s = .streaming printed before ∧
      (before = false ∨ n = 0 ∧ before = done)) ?_ ⟨[], done, rfl, .inr ⟨rfl, rfl⟩⟩ ?_ hstops
    · rintro n s ⟨printed, before, rfl, -⟩
      trivial
    · rintro n s ⟨printed, before, rfl, hbefore⟩
      refine ⟨printed ++ (reads n).bytes, false, ?_, .inl rfl⟩
      simp [step, hunder n before hbefore]
  · rintro (⟨n, p, hr, hp⟩ | ⟨value, hr, rfl⟩)
    · apply Leaves.of_input (n := n)
      intro s hs
      cases s with
      | streaming printed done => simp [step, hr, ReadSome.isMessageDone, hp, Streaming]
      | readExitCode printed exitCodeString => exact hs.elim
      | returned printed => exact hs.elim
      | threw printed ex => exact hs.elim
    · refine ⟨1, ?_⟩
      simp [feed, start, step, hr, ReadSome.isMessageDone, Streaming]

/-- After the loop a failing read ends the function. -/
theorem step_error {s : ClientRelay} (hs : ¬ s.Streaming) (value : Nat) :
    (∃ printed, s.step (.error value) = .returned printed) ∨
      ∃ printed ex, s.step (.error value) = .threw printed ex := by
  cases s with
  | streaming printed done => exact absurd trivial hs
  | readExitCode printed exitCodeString => exact .inr ⟨_, _, rfl⟩
  | returned printed => exact .inl ⟨_, rfl⟩
  | threw printed ex => exact .inr ⟨_, _, rfl⟩

end ClientRelay

/-! ## The builder -/

/-- How an `async_read_some` of the pipe completes, and the `write_some` after it. -/
structure PipeCompletion where
  error : PipeError
  bytes : Bytes
  write : ErrorCode
deriving DecidableEq, Repr

inductive BuilderRelay
  /-- A read of the pipe is under way. -/
  | armed (written : List (Frame UInt8))
  | finished (written : List (Frame UInt8))
  | threw (written : List (Frame UInt8)) (ex : Thrown)
deriving DecidableEq, Repr

namespace BuilderRelay

def start : BuilderRelay := .armed []

def step : BuilderRelay → PipeCompletion → BuilderRelay
  | .armed written, c =>
    match c.write with
    | some value => .threw written (.systemError value)
    | none =>
      let output := streamOutput c.error c.bytes
      if output.2 then .armed (written ++ [output.1]) else .finished (written ++ [output.1])
  | s, _ => s

def Armed : BuilderRelay → Prop
  | .armed _ => True
  | _ => False

/-- The chain of reads ends, and with it `io_context.run()`. -/
def Stops (completions : Nat → PipeCompletion) : Prop := Leaves step Armed start completions

/-- **The builder's chain ends** if a read of the pipe ends in eof or a write fails, and in no other
case. -/
theorem stops_iff {completions : Nat → PipeCompletion} :
    Stops completions ↔ ∃ n, (completions n).error = .eof ∨ (completions n).write ≠ none := by
  constructor
  · intro hstops
    apply Classical.byContradiction
    intro hnot
    simp only [not_exists, not_or, Decidable.not_not] at hnot
    refine not_leaves (fun _ s => ∃ written, s = .armed written) ?_ ⟨[], rfl⟩ ?_ hstops
    · rintro n s ⟨written, rfl⟩
      trivial
    · rintro n s ⟨written, rfl⟩
      obtain ⟨herror, hwrite⟩ := hnot n
      exact ⟨written ++ [⟨false, (completions n).bytes⟩], by
        simp [step, hwrite, streamOutput, herror]⟩
  · rintro ⟨n, hn⟩
    apply Leaves.of_input (n := n)
    intro s hs
    cases s with
    | armed written =>
      cases hw : (completions n).write with
      | some value => simp [step, hw, Armed]
      | none =>
        have heof : (completions n).error = .eof := hn.resolve_right (by simp [hw])
        simp [step, hw, streamOutput, heof, Armed]
    | finished written => exact hs.elim
    | threw written ex => exact hs.elim

end BuilderRelay

/-! ## Both -/

/-- **When the relay stops.** The client's loop: a read ends the output message, or the first one
fails while `is_message_done()`. The builder's chain: a read of the pipe ends in eof, or a write
fails. -/
theorem relay_stops_iff (done : Bool) (reads : Nat → ReadSome)
    (completions : Nat → PipeCompletion) :
    (ClientRelay.Stops done reads ↔ (∃ n p, reads n = .piece p ∧ p.fin = true) ∨
      (∃ value, reads 0 = .error value ∧ done = true)) ∧
    (BuilderRelay.Stops completions ↔
      ∃ n, (completions n).error = .eof ∨ (completions n).write ≠ none) :=
  ⟨ClientRelay.stops_iff, BuilderRelay.stops_iff⟩

/-- One frame of the output arrives, and every read after it fails. -/
def brokenReads : Nat → ReadSome
  | 0 => .piece ⟨false, [104]⟩
  | _ + 1 => .error 104

/-- Every read of the pipe fails, but not with eof. -/
def brokenPipe (_ : Nat) : PipeCompletion := ⟨.other 5, [], none⟩

/-- Neither side of a broken relay stops. -/
theorem broken_relay_runs_on :
    ¬ ClientRelay.Stops true brokenReads ∧ ¬ BuilderRelay.Stops brokenPipe := by
  constructor
  · rw [ClientRelay.stops_iff]
    rintro (⟨n, p, hr, hp⟩ | ⟨value, hr, -⟩)
    · cases n with
      | zero =>
        cases hr
        cases hp
      | succ n => cases hr
    · cases hr
  · rw [BuilderRelay.stops_iff]
    rintro ⟨n, hn | hn⟩
    · cases hn
    · exact hn rfl

end ContainerBuilder
