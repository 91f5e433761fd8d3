import ContainerBuilder.Common.Archive
import ContainerBuilder.Client.Input
import ContainerBuilder.Transfer.File

/-!
# The two programs of a build

The client from `write_client_data` to `read_file` (`Client/src/main.cpp:378-393`) and the builder's
`main` once the connection is accepted (`Builder/src/main.cpp:219-233`), each as what it does next in
each of its stages. An exception leaves the `try` block of either and ends its part of the session.

| here | there |
| --- | --- |
| `Client.program`  | `write_client_data`, the `write_file` of `write_context`, `stream_build` and `read_file` (client) |
| `Builder.program` | `read_client_data`, `read_context`, `build_command`, `stream_build` and `write_file` (builder) |
| `buildCommand`    | `build_command` (`Builder/src/main.cpp:79`) |
| `streamOutput`    | the callback of `stream_build` (`:125-134`) |
| `Build`           | what the child process prints and returns, and the `container.simg` it leaves |

`write` sends its buffer as one message and `read` returns with the end of one. Local files and
processes do not fail here: the context is the archive that `tar` made, the builder unpacks what it
received, and the pipe of the child process ends with eof. Each program has its own dead memory to take
the text of a checksum from (`Freed`).
-/

namespace ContainerBuilder

open Lib

/-- The messages of a session, in the order of their steps. -/
inductive Message
  | clientData
  | context
  | contextChecksum
  | output
  | exitCode
  | image
  | imageChecksum
deriving DecidableEq, Repr

/-- The messages of the transfer in `write_context` and `read_context`. -/
def Part.ofContext : Part → Message
  | .content => .context
  | .checksum => .contextChecksum

/-- The messages of the transfer of the container. -/
def Part.ofImage : Part → Message
  | .content => .image
  | .checksum => .imageChecksum

/-- The error of an `async_read_some` on the pipe. -/
inductive PipeError
  | success
  | eof
  | other (value : Nat)
deriving DecidableEq, Repr

/-- A run of the build process: what the reads of its pipe return before eof, its exit code, and
the container. -/
structure Build where
  reads : List Bytes
  exitCode : Int
  container : File

def Build.output (b : Build) : Bytes := b.reads.flatten

/-- The completions of `async_read_some`. -/
def Build.pipe (b : Build) : List (PipeError × Bytes) :=
  b.reads.map (fun data => (.success, data)) ++ [(.eof, [])]

/-! ## The client -/

inductive ClientStage
  | writeClientData
  | writeContext (w : WriteFile)
  | streamBuild
  /-- In `builder_stream.read(exit_code_buffer)`. -/
  | readExitCode (exitCodeString : Bytes)
  | readFile (r : ReadFile)
  | finished (image : Bytes)
  | threw (ex : Exception)
deriving DecidableEq, Repr

/-- `printed` is what `stream_build` has written to `std::cout`. -/
structure Client where
  stage : ClientStage
  printed : Bytes
deriving DecidableEq, Repr

namespace Client

def start : Client := ⟨.writeClientData, []⟩

/-- The test of the exit code (Client/src/main.cpp:234). -/
def checkExitCode (exitCodeString : Bytes) : ClientStage :=
  if exitCodeString != ascii "0" then
    .threw (.runtimeError (ascii "Build failed with exit code " ++ exitCodeString))
  else .readFile .start

def program (freed : Freed) (header : Bytes) (d : ClientData) (context : File) :
    Program Client Message UInt8
  | ⟨.writeClientData, printed⟩ =>
    .write .clientData ⟨true, archive header Archive.clientData d⟩
      ⟨.writeContext (.start context.bytes context.bytes.length), printed⟩
  | ⟨.writeContext .returned, printed⟩ => .step ⟨.streamBuild, printed⟩
  | ⟨.writeContext (.threw ex), printed⟩ => .step ⟨.threw ex, printed⟩
  | ⟨.writeContext w, printed⟩ =>
    (Client.writeFile freed w).map (fun w => ⟨.writeContext w, printed⟩) Part.ofContext
  | ⟨.streamBuild, printed⟩ => .read .output fun p =>
    ⟨if p.fin then .readExitCode [] else .streamBuild, printed ++ p.payload⟩
  | ⟨.readExitCode exitCodeString, printed⟩ => .read .exitCode fun p =>
    let exitCodeString := exitCodeString ++ p.payload
    ⟨if p.fin then checkExitCode exitCodeString else .readExitCode exitCodeString, printed⟩
  | ⟨.readFile (.returned image), printed⟩ => .step ⟨.finished image, printed⟩
  | ⟨.readFile (.threw _ ex), printed⟩ => .step ⟨.threw ex, printed⟩
  | ⟨.readFile r, printed⟩ =>
    (Client.readFile d.containerPath r).map (fun r => ⟨.readFile r, printed⟩) Part.ofImage
  | ⟨.finished _, _⟩ => .stop
  | ⟨.threw _, _⟩ => .stop

end Client

/-! ## The builder -/

/-- `build_command` (Builder/src/main.cpp:79). -/
def buildCommand (d : ClientData) : Except Exception Bytes :=
  let basic : Except Exception Bytes :=
    match d.backend with
    | .singularity => .ok (ascii "/usr/bin/sudo /usr/local/bin/singularity-builder-backend.sh")
    | .docker => .ok (ascii "/usr/bin/sudo /usr/local/bin/docker-builder-backend.sh")
    | .unspecified => .error (.runtimeError (ascii "Invalid builder backend"))
  match basic with
  | .error ex => .error ex
  | .ok command =>
    let command :=
      if LogPriority.debug.toNat ≤ d.logPriority.toNat then command ++ ascii " --debug" else command
    .ok (if d.tty then command ++ ascii " --tty" else command)

/-- The callback `stream_output`: the frame it writes and whether it starts another read. -/
def streamOutput (error : PipeError) (bytes : Bytes) : Frame UInt8 × Bool :=
  if error = .eof then (⟨true, bytes⟩, false) else (⟨false, bytes⟩, true)

inductive BuilderStage
  | readClientData (clientDataString : Bytes)
  | readContext (d : ClientData) (r : ReadFile)
  | buildCommand (d : ClientData) (context : Bytes)
  /-- `stream_build`, before the next completion of the pipe. -/
  | streamBuild (b : Build) (reads : List (PipeError × Bytes))
  /-- `io_context.run()` has returned and `build_child` has been waited for. -/
  | writeExitCode (b : Build)
  | writeFile (w : WriteFile)
  | finished
  | threw (ex : Exception)

namespace Builder

def start : BuilderStage := .readClientData []

/-- The end of `read_client_data` (Builder/src/main.cpp:35-41). -/
def deserialize (header clientDataString : Bytes) : BuilderStage :=
  match unarchive header Archive.clientData clientDataString with
  | .ok d => .readContext d .start
  | .error ex => .threw ex

/-- `run command context` is the build that `command` does in the unpacked `context`. -/
def program (freed : Freed) (header : Bytes) (run : Bytes → Bytes → Build) :
    Program BuilderStage Message UInt8
  | .readClientData clientDataString => .read .clientData fun p =>
    let clientDataString := clientDataString ++ p.payload
    if p.fin then deserialize header clientDataString else .readClientData clientDataString
  | .readContext d (.returned context) => .step (.buildCommand d context)
  | .readContext _ (.threw _ ex) => .step (.threw ex)
  | .readContext d r =>
    (Builder.readFile (ascii "cb-context.tar.gz") r).map (.readContext d) Part.ofContext
  | .buildCommand d context =>
    match ContainerBuilder.buildCommand d with
    | .ok command => .step (.streamBuild (run command context) (run command context).pipe)
    | .error ex => .step (.threw ex)
  | .streamBuild _ [] => .stop
  | .streamBuild b ((error, bytes) :: reads) =>
    let written := streamOutput error bytes
    .write .output written.1 (if written.2 then .streamBuild b reads else .writeExitCode b)
  | .writeExitCode b =>
    .write .exitCode ⟨true, Decimal.signed b.exitCode⟩
      (if b.exitCode ≠ 0 then .threw (.runtimeError (ascii "Container build failed"))
        else .writeFile (.start b.container.bytes b.container.bytes.length))
  | .writeFile .returned => .step .finished
  | .writeFile (.threw ex) => .step (.threw ex)
  | .writeFile w => (Builder.writeFile freed w).map .writeFile Part.ofImage
  | .finished => .stop
  | .threw _ => .stop

end Builder

/-- `build_command` accepts whatever backend is specified. -/
theorem buildCommand_specified {d : ClientData} (h : d.backend ≠ .unspecified) :
    ∃ command, buildCommand d = .ok command := by
  unfold buildCommand
  cases hb : d.backend with
  | singularity => exact ⟨_, rfl⟩
  | docker => exact ⟨_, rfl⟩
  | unspecified => exact absurd hb h

end ContainerBuilder
