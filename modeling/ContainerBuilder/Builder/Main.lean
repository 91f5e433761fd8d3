import ContainerBuilder.Builder.Context
import ContainerBuilder.Lib.Output
import ContainerBuilder.Session.Arrivals

/-!
# `main` of the builder (`Builder/src/main.cpp`)

A builder accepts one connection and serves it, one call after the other; whatever a call throws is
logged and ends the `try` block, and `main` returns 0. Every call may fail here, and every write may
break off in the middle of its frame. `main_puts` says what is on the stream all the same: nothing
before a whole context has been read, and then a prefix of the output, the exit code, and, if that
is 0, the container with what is left of the text of its checksum.

| here | there |
| --- | --- |
| `BuilderCalls`            | how the system and the client answer the calls of `main` |
| `BuildRun`                | the child process of `stream_build` |
| `BuilderStep`, `builderSteps` | the calls of the `try` block (`:210-233`) |
| `Builder.readClientData`  | `read_client_data` (`:24`) |
| `Builder.receiveContext`  | `read_context` (`:187`) where reads may fail |
| `Builder.streamBuild`, `Builder.relayOutput` | `stream_build` (`:107`), `stream_output` (`:121`) |
| `Builder.writeContainer`  | `write_file` of the container (`:150`) |
| `Builder.main`            | `main` (`:202`) |

`MainException` is what the clients' `main` may throw as well; the builder has no options. The
constructors before the `try` block are taken to succeed. What has arrived is a list, as for the
client.
-/

namespace ContainerBuilder

open Lib

/-! ## The state and the system -/

/-- The locals of `main`, and the two directions of its stream. -/
structure BuilderMain where
  clientData : ClientData
  buildString : Bytes
  process : Process
  arrivals : List Arrival
  sent : List (Token UInt8)
  /-- The writes so far. -/
  writes : Nat

/-- A write throws after the first `kept` tokens of its frame. -/
structure WriteFailure where
  value : Nat
  kept : Nat
deriving DecidableEq, Repr

/-- The child process. Its output is what the reads of the pipe return, errors and all, and `disk`
is what it leaves. -/
structure BuildRun where
  launchError : ErrorCode
  reads : List (PipeError × Bytes)
  waitError : ErrorCode
  exitCode : Int
  disk : Disk
  /-- A file size is a `uintmax_t`. -/
  size_lt : ∀ path content, disk.lookup path = some (.file content) → content.length < UInt64.size

structure BuilderCalls where
  acceptError : ErrorCode
  handshakeError : ErrorCode
  /-- How the write with this number fails, if it does. -/
  writeFailure : Nat → Option WriteFailure
  header : Bytes
  tarballOpens : Bool
  unpack : UnpackCalls
  build : Bytes → Process → BuildRun
  /-- `open` or `file_size` of the container throws. -/
  openError : Option Thrown
  /-- The first chunk of the container that cannot be read. -/
  readError : Option Nat
  /-- What the text of the checksum has become when it is written. -/
  freed : Freed

abbrev BuilderCall := CallM (Stop MainException) BuilderMain Unit

/-- The calls of `main`. -/
inductive BuilderStep
  | accept
  | handshake
  | readClientData
  | readContext
  | buildCommand
  | streamBuild
  | writeFile
deriving DecidableEq, Repr

def BuilderMain.throws (y : BuilderMain) (ex : Thrown) :
    Except (Stop MainException) Unit × BuilderMain := (.error (.threw (.thrown ex)), y)

/-- The file that `write_file` sends. -/
def containerName : Bytes := ascii "container.simg"

def BuilderMain.containerPath (y : BuilderMain) : Path := y.process.currentPath ++ [containerName]

namespace Builder

/-- A call that may throw `system_error`. -/
def mayFail (error : ErrorCode) : BuilderCall :=
  call fun y =>
    match error with
    | some value => y.throws (.systemError value)
    | none => (.ok (), y)

/-! ## Reading -/

/-- `read` of a message, of which `text` has been read: its text, and what arrives after it. -/
def readText : Bytes → List Arrival → Except (Stop MainException) (Bytes × List Arrival)
  | _, [] => .error (.ended .running)
  | _, .readError value _ :: _ => .error (.threw (.thrown (.systemError value)))
  | text, .piece p _ :: as =>
    if p.fin then .ok (text ++ p.payload, as) else readText (text ++ p.payload) as

def readClientData (b : BuilderCalls) : BuilderCall :=
  call fun y =>
    match readText [] y.arrivals with
    | .error stop => (.error stop, y)
    | .ok (clientDataString, arrivals) =>
      match deserializeClientData b.header clientDataString with
      | .error ex => { y with arrivals := arrivals }.throws (.exception ex)
      | .ok clientData => (.ok (), { y with clientData := clientData, arrivals := arrivals })

/-- `read_file` of `file_name`, from what has arrived. -/
def receiveFile (b : BuilderCalls) (fileName : Bytes) : BuilderCall :=
  call fun y =>
    let path := y.process.currentPath ++ [fileName]
    let opens := b.tarballOpens && y.process.opensAt path
    let r := receive fileName (y.process.fileAt path) opens y.arrivals
    let left : BuilderMain :=
      match opens, r.container with
      | true, some file => { y with
          process := { y.process with disk := y.process.disk.set path (.file file) } }
      | _, _ => y
    (r.result, left)

/-- `read_context` after `read_file`. -/
def unpackContext (u : UnpackCalls) : CallM Thrown Process Unit := do
  let pwd ← currentPath
  command (pwd ++ [contextName]) u.runTar (ascii "Error untarring build context")
  setCurrentPath u.changeError (pwd ++ [contextName])

def receiveContext (b : BuilderCalls) : BuilderCall := do
  receiveFile b tarballName
  within BuilderMain.process (fun s y => { y with process := s }) MainException.thrown
    (unpackContext b.unpack)

def prepareCommand : BuilderCall :=
  call fun y =>
    match ContainerBuilder.buildCommand y.clientData with
    | .error ex => y.throws (.exception ex)
    | .ok command => (.ok (), { y with buildString := command })

/-! ## Writing -/

/-- `write_some`, or `write` of a message in one frame. -/
def writeFrame (b : BuilderCalls) (f : Frame UInt8) : BuilderCall :=
  call fun y =>
    let y' := { y with writes := y.writes + 1 }
    match b.writeFailure y.writes with
    | some w => { y' with sent := y.sent ++ f.tokens.take w.kept }.throws (.systemError w.value)
    | none => (.ok (), { y' with sent := y.sent ++ f.tokens })

/-- `io_context.run()`: the callback of each read of the pipe, up to the one that starts no other.
What a callback throws comes out of `run`. -/
def relayOutput (b : BuilderCalls) : List (PipeError × Bytes) → BuilderCall
  | [] => call fun y => (.error (.ended .running), y)
  | (error, bytes) :: reads => do
    let output := streamOutput error bytes
    writeFrame b output.1
    if output.2 then relayOutput b reads else pure ()

/-- The test of the exit code (`:143`). -/
def checkExitCode (exitCode : Int) : BuilderCall :=
  call fun y =>
    if exitCode ≠ 0 then y.throws (.exception (.runtimeError (ascii "Container build failed")))
    else (.ok (), y)

/-- `stream_build` of the child process `run`. -/
def streamRun (b : BuilderCalls) (run : BuildRun) : BuilderCall := do
  mayFail run.launchError
  call fun y => (.ok (), { y with process := { y.process with disk := run.disk } })
  relayOutput b run.reads
  mayFail run.waitError
  writeFrame b ⟨true, Decimal.signed run.exitCode⟩
  checkExitCode run.exitCode

def streamBuild (b : BuilderCalls) : BuilderCall :=
  call fun y => exec (streamRun b (b.build y.buildString y.process)) y

def writeFrames (b : BuilderCalls) : List (Frame UInt8) → BuilderCall
  | [] => pure ()
  | f :: fs => do
    writeFrame b f
    writeFrames b fs

/-- `write_file` of an open file with this content. -/
def writeContent (b : BuilderCalls) (content : Bytes) : BuilderCall :=
  let written := (Builder.writeFile b.freed).emit (content.length + 2)
    (.start content content.length)
  let frames := written.1.map Prod.snd
  -- all frames but the last are chunks that are read from the file
  match b.readError.filter (· + 1 < frames.length), written.2 with
  | some k, _ => do
    writeFrames b (frames.take k)
    call fun y => y.throws (.exception .iosFailure)
  | none, .threw ex => do
    writeFrames b frames
    call fun y => y.throws (.exception ex)
  | none, _ => writeFrames b frames

def writeContainer (b : BuilderCalls) : BuilderCall :=
  call fun y =>
    match b.openError, y.process.fileAt y.containerPath with
    | some ex, _ => y.throws ex
    | none, none => y.throws (.exception .iosFailure)
    | none, some content => exec (writeContent b content) y

end Builder

def BuilderStep.call (b : BuilderCalls) : BuilderStep → BuilderCall
  | .accept => Builder.mayFail b.acceptError
  | .handshake => Builder.mayFail b.handshakeError
  | .readClientData => Builder.readClientData b
  | .readContext => Builder.receiveContext b
  | .buildCommand => Builder.prepareCommand
  | .streamBuild => Builder.streamBuild b
  | .writeFile => Builder.writeContainer b

def builderSteps : List BuilderStep :=
  [.accept, .handshake, .readClientData, .readContext, .buildCommand, .streamBuild, .writeFile]

def Builder.main (b : BuilderCalls) : CallM Ended BuilderMain Nat := do
  catchAll (inOrder (BuilderStep.call b) builderSteps)
  pure 0

/-! ## What the calls send -/

/-- The output of the child process, up to eof. -/
def pipeOutput : List (PipeError × Bytes) → Bytes
  | [] => []
  | (error, bytes) :: reads => bytes ++ if error = .eof then [] else pipeOutput reads

/-- A file and its checksum, as they are sent. -/
def fileMessages (freed : Freed) (content : Bytes) : List (Token UInt8) :=
  message content ++ message (freed.bytes (checksumText content))

/-- What is sent of a container, if there is one. -/
def containerMessages (freed : Freed) : Option Bytes → List (Token UInt8)
  | some content => fileMessages freed content
  | none => []

/-- The child process has been launched and has exited with 0. -/
def BuildRun.Succeeds (run : BuildRun) : Prop := run.launchError = none ∧ run.exitCode = 0

instance (run : BuildRun) : Decidable run.Succeeds := inferInstanceAs (Decidable (_ ∧ _))

/-- What `stream_build` is to send, if the child process has been launched. -/
def BuildRun.messages (run : BuildRun) : List (Token UInt8) :=
  match run.launchError with
  | some _ => []
  | none => message (pipeOutput run.reads) ++ message (Decimal.signed run.exitCode)

namespace Builder

/-- `c` is to send `ts`. -/
abbrev Sends (c : BuilderCall) (ts : List (Token UInt8)) (y : BuilderMain) : Prop :=
  Puts BuilderMain.sent c ts y

section
variable (b : BuilderCalls) (y : BuilderMain)

theorem sends_mayFail (error : ErrorCode) : Sends (mayFail error) [] y := by
  refine .nothing ?_
  rw [mayFail, exec_call]
  cases error with
  | none => rfl
  | some value => rfl

theorem sends_writeFrame (f : Frame UInt8) : Sends (writeFrame b f) f.tokens y := by
  unfold Sends writeFrame
  cases hw : b.writeFailure y.writes with
  | none =>
    refine ⟨⟨f.tokens, List.prefix_refl _, by simp [hw]⟩, ?_⟩
    rintro _ s' hr
    unfold Returns at hr
    rw [exec_call] at hr
    simp only [hw] at hr
    cases hr
    rfl
  | some w =>
    refine ⟨⟨f.tokens.take w.kept, List.take_prefix .., by simp [hw, BuilderMain.throws]⟩, ?_⟩
    rintro _ s' hr
    unfold Returns at hr
    rw [exec_call] at hr
    simp only [hw] at hr
    cases hr

/-- The output is sent as one message, which its last frame ends. -/
theorem sends_relayOutput (reads : List (PipeError × Bytes)) :
    Sends (relayOutput b reads) (message (pipeOutput reads)) y := by
  induction reads generalizing y with
  | nil =>
    have hnothing : Sends (relayOutput b []) [] y := .nothing rfl
    exact hnothing.weaken (fun _ _ hr => by cases hr) List.nil_prefix
  | cons r reads ih =>
    obtain ⟨error, bytes⟩ := r
    have hwrite := sends_writeFrame b y (streamOutput error bytes).1
    by_cases heof : error = .eof
    · have hsplit : message (pipeOutput ((error, bytes) :: reads)) =
          (streamOutput error bytes).1.tokens ++ [] := by
        simp [pipeOutput, streamOutput, heof]
      rw [hsplit]
      refine hwrite.bind fun _ y' _ => ?_
      simp only [streamOutput, heof, if_true, Bool.false_eq_true, if_false]
      exact .nothing rfl
    · have hsplit : message (pipeOutput ((error, bytes) :: reads)) =
          (streamOutput error bytes).1.tokens ++ message (pipeOutput reads) := by
        simp [pipeOutput, streamOutput, heof, message_append]
      rw [hsplit]
      refine hwrite.bind fun _ y' _ => ?_
      simp only [streamOutput, heof, if_false, if_true]
      exact ih y'

theorem sends_checkExitCode (exitCode : Int) : Sends (checkExitCode exitCode) [] y := by
  refine .nothing ?_
  rw [checkExitCode, exec_call]
  split
  · rfl
  · rfl

theorem sends_streamRun (run : BuildRun) : Sends (streamRun b run) run.messages y := by
  cases hlaunch : run.launchError with
  | some value =>
    have hnothing : run.messages = [] := by simp only [BuildRun.messages, hlaunch]
    rw [hnothing]
    refine .nothing ?_
    rw [streamRun, exec_bind, mayFail, exec_call, hlaunch]
    rfl
  | none =>
    have hsplit : run.messages = [] ++ ([] ++ (message (pipeOutput run.reads) ++
        ([] ++ (message (Decimal.signed run.exitCode) ++ [])))) := by
      simp [BuildRun.messages, hlaunch]
    rw [hsplit]
    refine (sends_mayFail y _).bind fun _ y₁ _ => ?_
    refine Puts.bind (.nothing rfl) fun _ y₂ _ => ?_
    refine (sends_relayOutput b y₂ _).bind fun _ y₃ _ => ?_
    refine (sends_mayFail y₃ _).bind fun _ y₄ _ => ?_
    have hwrite := sends_writeFrame b y₄ ⟨true, Decimal.signed run.exitCode⟩
    rw [tokens_fin] at hwrite
    exact hwrite.bind fun _ y₅ _ => sends_checkExitCode y₅ _

theorem sends_writeFrames (fs : List (Frame UInt8)) : Sends (writeFrames b fs) (wire fs) y := by
  induction fs generalizing y with
  | nil => exact .nothing rfl
  | cons f fs ih =>
    rw [wire_cons]
    exact (sends_writeFrame b y f).bind fun _ y' _ => ih y'

/-- A call that throws at its end sends a prefix. -/
theorem sends_thenThrows {c : BuilderCall} {ts us : List (Token UInt8)} (ex : Thrown)
    (hc : Sends c ts y) (hts : ts <+: us) :
    Sends (do c; call fun y => y.throws ex) us y := by
  have hall : Sends (do c; call fun y => y.throws ex) (ts ++ []) y :=
    hc.bind fun _ y' _ => .nothing rfl
  rw [List.append_nil] at hall
  refine hall.weaken (fun a y' hr => ?_) hts
  obtain ⟨_, y₁, -, hr⟩ := returns_bind.1 hr
  cases hr

theorem sends_writeContent {content : Bytes} (h : content.length < UInt64.size) :
    Sends (writeContent b content) (fileMessages b.freed content) y := by
  have hend : ((Builder.writeFile b.freed).emit (content.length + 2)
      (.start content content.length)).2 = .returned :=
    (emit_rounds b.freed (content.length + 2) content .initial (Nat.le_refl _) h).1
  have hsent : (Direction.download.sent b.freed ⟨content, h⟩ (content.length + 2)).2 =
      .returned := hend
  have hwire := (sent_wire hsent).2.2
  unfold Direction.sent Direction.write at hwire
  unfold Sends writeContent fileMessages
  simp only [hend]
  rw [← hwire]
  generalize (((Builder.writeFile b.freed).emit (content.length + 2)
    (.start content content.length)).1.map Prod.snd) = frames
  cases b.readError.filter (· + 1 < frames.length) with
  | none => exact sends_writeFrames b y frames
  | some k =>
    refine sends_thenThrows y (.exception .iosFailure) (sends_writeFrames b y (frames.take k)) ?_
    refine ⟨wire (frames.drop k), ?_⟩
    rw [← wire_append, List.take_append_drop]

end

/-! ## When the calls return -/

section
variable {b : BuilderCalls} {y y' : BuilderMain}

theorem returns_mayFail {error : ErrorCode} :
    Returns (mayFail error) y () y' ↔ error = none ∧ y' = y := by
  unfold Returns mayFail
  rw [exec_call]
  cases error with
  | none => simp [eq_comm]
  | some value => simp [BuilderMain.throws]

theorem readText_reads {text text' : Bytes} {as as' : List Arrival}
    (h : readText text as = .ok (text', as')) :
    ∃ more, readMessage Arrival.frame as = some (more, as') ∧ text ++ more = text' := by
  induction as generalizing text with
  | nil => cases h
  | cons a as ih =>
    cases a with
    | readError value kept => cases h
    | piece p failed =>
      by_cases hfin : p.fin = true
      · obtain ⟨rfl, rfl⟩ : text ++ p.payload = text' ∧ as = as' := by
          simpa [readText, hfin] using h
        exact ⟨p.payload, by simp [readMessage, hfin], rfl⟩
      · rw [readText, if_neg hfin] at h
        obtain ⟨more, hread, rfl⟩ := ih h
        exact ⟨p.payload ++ more, by simp [readMessage, hfin, hread], by rw [List.append_assoc]⟩

theorem readText_of_reads {text more : Bytes} {as rest : List Arrival}
    (h : readMessage Arrival.frame as = some (more, rest)) :
    Builder.readText text as = .ok (text ++ more, rest) := by
  induction as generalizing text more with
  | nil => cases h
  | cons a as ih =>
    cases a with
    | readError value kept => cases h
    | piece p failed =>
      by_cases hfin : p.fin = true
      · obtain ⟨rfl, rfl⟩ : p.payload = more ∧ as = rest := by simpa [readMessage, hfin] using h
        rw [Builder.readText, if_pos hfin]
      · simp only [readMessage, frame_piece, hfin, if_false, Option.map_eq_some_iff,
          Bool.false_eq_true] at h
        obtain ⟨⟨more', rest'⟩, hread, he⟩ := h
        obtain ⟨rfl, rfl⟩ := Prod.mk.inj he
        rw [Builder.readText, if_neg hfin, ih hread, List.append_assoc]

theorem returns_readClientData (h : Returns (readClientData b) y () y') :
    ∃ clientDataString rest clientData,
      readMessage Arrival.frame y.arrivals = some (clientDataString, rest) ∧
        deserializeClientData b.header clientDataString = .ok clientData ∧
          y' = { y with clientData := clientData, arrivals := rest } := by
  unfold Returns readClientData at h
  rw [exec_call] at h
  cases hread : readText [] y.arrivals with
  | error stop =>
    simp only [hread] at h
    cases h
  | ok r =>
    obtain ⟨clientDataString, rest⟩ := r
    obtain ⟨more, hmore, rfl⟩ := readText_reads hread
    simp only [hread] at h
    cases hdata : deserializeClientData b.header ([] ++ more) with
    | error ex =>
      simp only [hdata] at h
      cases h
    | ok clientData =>
      simp only [hdata] at h
      cases h
      exact ⟨more, rest, clientData, hmore, hdata, rfl⟩

theorem returns_receiveFile {fileName : Bytes} (h : Returns (receiveFile b fileName) y () y') :
    ∃ file rest rest', readMessage Arrival.frame y.arrivals = some (file, rest) ∧
      readMessage Arrival.frame rest = some (checksumText file, rest') ∧
        y' = { y with process := { y.process with
          disk := y.process.disk.set (y.process.currentPath ++ [fileName]) (.file file) } } := by
  unfold Returns receiveFile at h
  rw [exec_call] at h
  obtain ⟨hresult, hleft⟩ := Prod.mk.inj h
  obtain ⟨hopens, file, rest, rest', hfile, hread, hsum⟩ := receive_reads hresult
  refine ⟨file, rest, rest', hread, hsum, ?_⟩
  rw [hopens] at hfile
  simp only [hopens, hfile] at hleft
  exact hleft.symm

theorem returns_receiveContext (h : Returns (receiveContext b) y () y') :
    ∃ file rest rest' s, readMessage Arrival.frame y.arrivals = some (file, rest) ∧
      readMessage Arrival.frame rest = some (checksumText file, rest') ∧
        Returns (unpackContext b.unpack) { y.process with
          disk := y.process.disk.set (y.process.currentPath ++ [tarballName]) (.file file) } () s ∧
          y' = { y with process := s } := by
  obtain ⟨_, y₁, hfile, hunpack⟩ := returns_bind.1 h
  obtain ⟨file, rest, rest', hread, hsum, rfl⟩ := returns_receiveFile hfile
  obtain ⟨s, hreturns, rfl⟩ := returns_within.1 hunpack
  exact ⟨file, rest, rest', s, hread, hsum, hreturns, rfl⟩

theorem returns_prepareCommand (h : Returns prepareCommand y () y') :
    ∃ command, ContainerBuilder.buildCommand y.clientData = .ok command ∧
      y' = { y with buildString := command } := by
  unfold Returns prepareCommand at h
  rw [exec_call] at h
  cases hcommand : ContainerBuilder.buildCommand y.clientData with
  | error ex =>
    simp only [hcommand] at h
    cases h
  | ok command =>
    simp only [hcommand] at h
    cases h
    exact ⟨command, rfl, rfl⟩

theorem returns_writeFrame {f : Frame UInt8} (h : Returns (writeFrame b f) y () y') :
    y'.process = y.process := by
  unfold Returns writeFrame at h
  rw [exec_call] at h
  cases hw : b.writeFailure y.writes with
  | some w =>
    simp only [hw] at h
    cases h
  | none =>
    simp only [hw] at h
    cases h
    rfl

theorem returns_relayOutput {reads : List (PipeError × Bytes)}
    (h : Returns (relayOutput b reads) y () y') : y'.process = y.process := by
  induction reads generalizing y with
  | nil => cases h
  | cons r reads ih =>
    obtain ⟨error, bytes⟩ := r
    obtain ⟨_, y₁, hwrite, hrest⟩ := returns_bind.1 h
    rw [← returns_writeFrame hwrite]
    by_cases heof : error = .eof
    · simp only [streamOutput, heof, if_true, Bool.false_eq_true, if_false] at hrest
      rw [(returns_pure.1 hrest).2]
    · simp only [streamOutput, heof, if_false, if_true] at hrest
      exact ih hrest

/-- **A build that is streamed has succeeded**, and its files are there. -/
theorem returns_streamBuild (h : Returns (streamBuild b) y () y') :
    (b.build y.buildString y.process).Succeeds ∧
      y'.process = { y.process with disk := (b.build y.buildString y.process).disk } := by
  have h₀ : Returns (streamRun b (b.build y.buildString y.process)) y () y' := h
  obtain ⟨_, y₁, hlaunch, h₁⟩ := returns_bind.1 h₀
  obtain ⟨hlaunched, rfl⟩ := returns_mayFail.1 hlaunch
  obtain ⟨_, y₂, hdisk, h₂⟩ := returns_bind.1 h₁
  obtain ⟨_, y₃, hrelay, h₃⟩ := returns_bind.1 h₂
  obtain ⟨_, y₄, hwait, h₄⟩ := returns_bind.1 h₃
  obtain ⟨-, rfl⟩ := returns_mayFail.1 hwait
  obtain ⟨_, y₅, hwrite, h₅⟩ := returns_bind.1 h₄
  unfold Returns checkExitCode at h₅
  rw [exec_call] at h₅
  by_cases hcode : (b.build y₁.buildString y₁.process).exitCode = 0
  · simp only [hcode, ne_eq, not_true, if_false] at h₅
    cases h₅
    cases hdisk
    exact ⟨⟨hlaunched, hcode⟩, (returns_writeFrame hwrite).trans (returns_relayOutput hrelay)⟩
  · simp only [ne_eq, hcode, not_false_iff, if_true] at h₅
    cases h₅

end

end Builder

/-! ## The stream of `main` -/

/-- The build can begin in `y`: client data and context have been read to their ends, the context is
unpacked, and nothing has been sent. -/
structure BuilderCalls.Ready (b : BuilderCalls) (y₀ y : BuilderMain)
    (clientDataString file : Bytes) : Prop where
  read : ∃ rest rest' rest'',
    readMessage Arrival.frame y₀.arrivals = some (clientDataString, rest) ∧
    readMessage Arrival.frame rest = some (file, rest') ∧
    readMessage Arrival.frame rest' = some (checksumText file, rest'')
  clientData : Builder.deserializeClientData b.header clientDataString = .ok y.clientData
  unpacked : Returns (Builder.unpackContext b.unpack) { y₀.process with
    disk := y₀.process.disk.set (y₀.process.currentPath ++ [tarballName]) (.file file) } ()
      y.process
  command : buildCommand y.clientData = .ok y.buildString

/-- What a builder in `y` is to send. -/
def BuilderMain.messages (b : BuilderCalls) (y : BuilderMain) : List (Token UInt8) :=
  let run := b.build y.buildString y.process
  run.messages ++
    if run.Succeeds then
      containerMessages b.freed
        (Process.fileAt { y.process with disk := run.disk } y.containerPath)
    else []

section
variable (b : BuilderCalls)

theorem ready_of_begins {y₀ y : BuilderMain}
    (h : Begins (BuilderStep.call b) builderSteps y₀ .streamBuild y) :
    ∃ clientDataString file, b.Ready y₀ y clientDataString file := by
  obtain ⟨he, -⟩ | ⟨y₁, hr₁, h₁⟩ := begins_cons.1 h
  · cases he
  obtain ⟨-, rfl⟩ := Builder.returns_mayFail.1 hr₁
  obtain ⟨he, -⟩ | ⟨y₂, hr₂, h₂⟩ := begins_cons.1 h₁
  · cases he
  obtain ⟨-, rfl⟩ := Builder.returns_mayFail.1 hr₂
  obtain ⟨he, -⟩ | ⟨y₃, hr₃, h₃⟩ := begins_cons.1 h₂
  · cases he
  obtain ⟨clientDataString, rest, clientData, hdata, hload, rfl⟩ :=
    Builder.returns_readClientData hr₃
  obtain ⟨he, -⟩ | ⟨y₄, hr₄, h₄⟩ := begins_cons.1 h₃
  · cases he
  obtain ⟨file, rest', rest'', s, hfile, hsum, hunpack, rfl⟩ := Builder.returns_receiveContext hr₄
  obtain ⟨he, -⟩ | ⟨y₅, hr₅, h₅⟩ := begins_cons.1 h₄
  · cases he
  obtain ⟨command, hcommand, rfl⟩ := Builder.returns_prepareCommand hr₅
  obtain ⟨-, rfl⟩ | ⟨y₆, -, h₆⟩ := begins_cons.1 h₅
  · exact ⟨clientDataString, file, ⟨⟨rest, rest', rest'', hdata, hfile, hsum⟩, hload, hunpack,
      hcommand⟩⟩
  · obtain ⟨he, -⟩ | ⟨y₇, -, h₇⟩ := begins_cons.1 h₆
    · cases he
    · cases h₇

namespace Builder

theorem sends_readClientData (y : BuilderMain) : Sends (readClientData b) [] y := by
  refine .nothing ?_
  unfold readClientData
  rw [exec_call]
  cases readText [] y.arrivals with
  | error stop => rfl
  | ok r =>
    cases hdata : deserializeClientData b.header r.1 with
    | error ex => simp only [hdata, BuilderMain.throws]
    | ok clientData => simp only [hdata]

theorem sends_receiveContext (y : BuilderMain) : Sends (receiveContext b) [] y := by
  rw [← List.append_nil ([] : List (Token UInt8))]
  refine Puts.bind (.nothing ?_) fun _ y' _ => .nothing ?_
  · unfold receiveFile
    rw [exec_call]
    simp only
    split
    · rfl
    · rfl
  · unfold within
    rw [exec_call]
    split
    · rfl
    · rfl

theorem sends_prepareCommand (y : BuilderMain) : Sends prepareCommand [] y := by
  refine .nothing ?_
  unfold prepareCommand
  rw [exec_call]
  cases ContainerBuilder.buildCommand y.clientData with
  | error ex => rfl
  | ok command => rfl

theorem fileAt_eq_some {s : Process} {path : Path} {content : Bytes} :
    s.fileAt path = some content ↔ s.disk.lookup path = some (.file content) := by
  unfold Process.fileAt
  cases s.disk.lookup path with
  | none => simp
  | some n =>
    cases n with
    | directory => simp
    | file content' => simp
    | symlink target => simp

theorem sends_writeContainer {y : BuilderMain}
    (hsize : ∀ path content, y.process.disk.lookup path = some (.file content) →
      content.length < UInt64.size) :
    Sends (writeContainer b) (containerMessages b.freed (y.process.fileAt y.containerPath)) y := by
  have hthrows : ∀ ex, exec (writeContainer b) y = y.throws ex →
      ∀ ts, Sends (writeContainer b) ts y := by
    intro ex hexec ts
    have hnothing : Sends (writeContainer b) [] y := .nothing (by rw [hexec]; rfl)
    refine hnothing.weaken (fun a y' hr => ?_) List.nil_prefix
    cases hexec.symm.trans hr
  cases hopen : b.openError with
  | some ex => exact hthrows ex (by simp only [writeContainer, exec_call, hopen]) _
  | none =>
    cases hfile : y.process.fileAt y.containerPath with
    | none =>
      exact hthrows (.exception .iosFailure)
        (by simp only [writeContainer, exec_call, hopen, hfile]) _
    | some content =>
      refine (sends_writeContent b y (hsize _ _ (fileAt_eq_some.1 hfile))).of_exec ?_
      simp only [writeContainer, exec_call, hopen, hfile]

end Builder

/-- The calls up to `stream_build`. -/
def beforeBuild : List BuilderStep :=
  [.accept, .handshake, .readClientData, .readContext, .buildCommand]

/-- Until the build begins, nothing is sent. -/
theorem sends_before (y : BuilderMain) :
    Builder.Sends (inOrder (BuilderStep.call b) beforeBuild) [] y := by
  refine puts_inOrder (fun k hk y => ?_) y
  cases k with
  | accept => exact Builder.sends_mayFail y _
  | handshake => exact Builder.sends_mayFail y _
  | readClientData => exact Builder.sends_readClientData b y
  | readContext => exact Builder.sends_receiveContext b y
  | buildCommand => exact Builder.sends_prepareCommand y
  | streamBuild => simp [beforeBuild] at hk
  | writeFile => simp [beforeBuild] at hk

/-- From then on, the output, the exit code and the container. -/
theorem sends_after (y : BuilderMain) :
    Builder.Sends (inOrder (BuilderStep.call b) [.streamBuild, .writeFile]) (y.messages b) y := by
  have hstream : Builder.Sends (Builder.streamBuild b)
      (b.build y.buildString y.process).messages y :=
    (Builder.sends_streamRun b y _).of_exec rfl
  refine hstream.bind fun _ y' hr => ?_
  obtain ⟨hsucceeds, hprocess⟩ := Builder.returns_streamBuild hr
  have hwrite := Builder.sends_writeContainer b (y := y') fun path content hfile =>
    (b.build y.buildString y.process).size_lt path content (by rwa [hprocess] at hfile)
  rw [BuilderMain.containerPath, hprocess] at hwrite
  rw [if_pos hsucceeds, ← List.append_nil (containerMessages _ _)]
  exact hwrite.bind fun _ _ _ => .nothing rfl

/-- What is sent is sent in the `try` block. -/
theorem sent_main (y₀ : BuilderMain) : (exec (Builder.main b) y₀).2.sent =
    (exec (inOrder (BuilderStep.call b) builderSteps) y₀).2.sent := by
  rw [← exec_catchAll_state]
  unfold Builder.main
  rw [exec_bind]
  generalize exec (catchAll (inOrder (BuilderStep.call b) builderSteps)) y₀ = r
  obtain ⟨a, y⟩ := r
  cases a with
  | ok a => rfl
  | error e => rfl

/-- `main` sends nothing before `stream_build`, and then a prefix of its messages. -/
theorem sends_main (y₀ : BuilderMain) :
    ∃ us, (exec (Builder.main b) y₀).2.sent = y₀.sent ++ us ∧
      (us = [] ∨ ∃ y, Begins (BuilderStep.call b) builderSteps y₀ .streamBuild y ∧
        us <+: y.messages b) := by
  have hsplit : builderSteps = beforeBuild ++ [.streamBuild, .writeFile] := rfl
  have hbefore := sends_before b y₀
  rw [sent_main, hsplit, exec_inOrder_append, exec_bind]
  cases hexec : exec (inOrder (BuilderStep.call b) beforeBuild) y₀ with
  | mk a y =>
    cases a with
    | error stop =>
      obtain ⟨us, hus, hsent⟩ := hbefore.some_of
      obtain rfl := List.prefix_nil.1 hus
      rw [hexec] at hsent
      exact ⟨[], hsent, .inl rfl⟩
    | ok a =>
      have hsent := hbefore.all a y hexec
      rw [List.append_nil] at hsent
      have hbegins : Begins (BuilderStep.call b) (beforeBuild ++ [.streamBuild, .writeFile]) y₀
          .streamBuild y := begins_append hexec
      obtain ⟨us, hus, hafter⟩ := (sends_after b y).some_of
      rw [hsent] at hafter
      exact ⟨us, hafter, .inr ⟨y, hbegins, hus⟩⟩

/-- **What is on the stream.** However `main` ends, it has sent nothing unless the client data and
the context have been read as wholes; and then what it has sent is a prefix of the output, the exit
code and, if that is 0, the container and what the memory of its checksum's text then holds. -/
theorem main_puts (y₀ : BuilderMain) :
    ∃ us, (exec (Builder.main b) y₀).2.sent = y₀.sent ++ us ∧
      (us = [] ∨ ∃ y clientDataString file,
        Begins (BuilderStep.call b) builderSteps y₀ .streamBuild y ∧
          b.Ready y₀ y clientDataString file ∧ us <+: y.messages b) := by
  obtain ⟨us, hsent, hus⟩ := sends_main b y₀
  refine ⟨us, hsent, ?_⟩
  rcases hus with hnil | ⟨y, hbegins, hprefix⟩
  · exact .inl hnil
  · obtain ⟨clientDataString, file, hready⟩ := ready_of_begins b hbegins
    exact .inr ⟨y, clientDataString, file, hbegins, hready, hprefix⟩

end

end ContainerBuilder
