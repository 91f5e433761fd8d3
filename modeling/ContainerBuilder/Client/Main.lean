import ContainerBuilder.Lib.Exits
import ContainerBuilder.Client.Context
import ContainerBuilder.Client.Image
import ContainerBuilder.Session.Relay

/-!
# `main` of the client (`Client/src/main.cpp:126-216`, `:337-424`)

The `try` block of `main` goes from the environment to the image, one step after the other. Whatever
a step throws is logged; the streams are then closed, what that throws is dropped, and `main` returns
0. Only `early_exit`, for a command line without the two files and for Ctrl-C, exits with
`EXIT_FAILURE`.

| here | there |
| --- | --- |
| `MainCalls`           | how the system, the queue and the builder answer the calls of `main` |
| `MainStep`, `trySteps` | the calls of the `try` block, and of the two after it |
| `Client.parseEnvironment`, `Client.parseArguments` | `parse_environment` (`:182`), `parse_arguments` (`:126`) |
| `Client.getBuilder`   | `get_builder` (`:199`) |
| `Client.streamBuild`, `relay` | `stream_build` (`:218`), as in `ClientRelay` |
| `Client.readImage`    | `read_file` of the image (`:394`), as in `ReadImage` |
| `Client.main`         | `main` |

`po::store` and the constructors before the `try` block are not modelled: the first is a parameter,
the others are taken to succeed. What has arrived from the builder is a list, and a process for
which there is nothing left to read is still running; every other call is taken to end.
-/

namespace ContainerBuilder

open Lib

/-! ## The command line -/

/-- `po::variables_map`; what has a default is always there. -/
structure VariablesMap where
  help : Bool
  debug : Bool
  force : Bool
  transferContext : Bool
  arch : Bytes
  backend : Bytes
  tty : Bool
  container : Option Bytes
  definition : Option Bytes
deriving DecidableEq, Repr

/-- `Arch::to_arch` (`ClientData.h:32`). -/
def Arch.toArch (archString : Bytes) : Except Exception ArchType :=
  if archString = ascii "x86_64" then .ok .x86_64
  else if archString = ascii "ppc64le" then .ok .ppc64le
  else .error (.runtimeError (ascii "Incorrect ArchType provided"))

/-- `Backend::to_backend` (`ClientData.h:21`). -/
def Backend.toBackend (backendString : Bytes) : BackendType :=
  if backendString = ascii "singularity" then .singularity
  else if backendString = ascii "docker" then .docker
  else .unspecified

/-- What the `try` block of `main` may throw. -/
inductive MainException
  | thrown (ex : Thrown)
  /-- `po::error` -/
  | options (what : Bytes)
deriving DecidableEq, Repr

/-! ## The state and the system -/

/-- The locals of `main`, and what the builder's stream has still to deliver. -/
structure ClientMain where
  clientData : ClientData
  builderData : BuilderData
  process : Process
  arrivals : List Arrival

/-- The animations of `main`, each of which starts a thread. -/
inductive Animation
  | waitQueue
  | waitBuilder
  | waitContext
  | waitImage
deriving DecidableEq, Repr

/-- How `resolve`, `asio::connect` and `handshake` end. -/
structure Connecting where
  resolve : ErrorCode
  connect : ErrorCode
  handshake : ErrorCode

/-- The first error. -/
def Connecting.error (c : Connecting) : ErrorCode := c.resolve <|> c.connect <|> c.handshake

/-- The calls of `main`. -/
inductive MainStep
  | parseEnvironment
  | parseArguments
  | checkInputFiles
  | wait (animation : Animation)
  | connectQueue
  | getBuilder
  | connectBuilder
  | writeClientData
  | writeContext
  | streamBuild
  | readFile
  | closeBuilder
  | closeQueue
deriving DecidableEq, Repr

structure MainCalls where
  /-- `getpwuid(getuid())` -/
  loginName : Option Bytes
  /-- `getenv("QUEUE_HOST")` -/
  queueHost : Option Bytes
  argv : List Bytes
  /-- `po::store` of the parsed command line, or the error of either. -/
  store : List Bytes → Except Bytes VariablesMap
  /-- The error of `bfs::exists`, if it cannot tell. -/
  existsError : ErrorCode
  files : Files
  threadError : Animation → ErrorCode
  queue : Bytes → Connecting
  /-- `queue_stream.write` of a message -/
  writeToQueue : Bytes → ErrorCode
  /-- The message that `queue_stream.read` returns. -/
  builderDataString : Except Nat Bytes
  /-- The header of a text archive. -/
  header : Bytes
  builder : Bytes → Connecting
  /-- `builder_stream.write` of a message -/
  writeToBuilder : Bytes → ErrorCode
  context : ContextCalls
  /-- `builder_stream.is_message_done()` before the first read -/
  messageDone : Bool
  imageOpens : Bool
  closeBuilder : ErrorCode
  closeQueue : ErrorCode
  /-- Ctrl-C: the step it comes in and the state it finds. -/
  interrupt : Option (MainStep × ClientMain)

/-- `EXIT_FAILURE` -/
def exitFailure : Nat := 1

/-- A call of `main`. -/
abbrev MainCall := CallM (Stop MainException) ClientMain Unit

def ClientMain.throws (x : ClientMain) (ex : MainException) :
    Except (Stop MainException) Unit × ClientMain := (.error (.threw ex), x)

/-- A call that may throw `system_error`, and does nothing here but that. -/
def systemCall (error : ErrorCode) : MainCall :=
  call fun x =>
    match error with
    | some value => x.throws (.thrown (.systemError value))
    | none => (.ok (), x)

namespace Client

/-! ## The steps -/

def parseEnvironment (m : MainCalls) : MainCall :=
  call fun x =>
    match m.loginName, m.queueHost with
    | none, _ =>
      x.throws (.thrown (.exception
        (.runtimeError (ascii "Error get login name for client data!"))))
    | some _, none => x.throws (.thrown (.exception (.runtimeError (ascii "QUEUE_HOST not set!"))))
    | some name, some host =>
      (.ok (), { x with clientData := { x.clientData with userId := name, queueHost := host } })

def parseArguments (m : MainCalls) : MainCall :=
  call fun x =>
    match m.store m.argv with
    | .error what => x.throws (.options what)
    | .ok vm =>
      match vm.container, vm.definition, vm.help with
      | some container, some definition, false =>
        match Arch.toArch vm.arch with
        | .error ex => x.throws (.thrown (.exception ex))
        | .ok arch =>
          (.ok (), { x with
            clientData := { x.clientData with
              force := vm.force
              definitionPath := definition
              containerPath := container
              tty := vm.tty
              arch := arch
              backend := Backend.toBackend vm.backend
              -- `Logger`'s priority, which is `info` unless debug information is enabled
              logPriority := if vm.debug then .debug else .info
              transferContext := vm.transferContext } })
      -- `early_exit`; so `po::notify` never misses a required option
      | _, _, _ => (.error (.ended (.exited exitFailure)), x)

def checkInputFiles (m : MainCalls) : MainCall :=
  call fun x =>
    match m.existsError with
    | some value => x.throws (.thrown (.filesystemError value))
    | none =>
      match m.files.checkInputFiles x.clientData with
      | .error ex => x.throws (.thrown (.exception ex))
      | .ok d => (.ok (), { x with clientData := d })

/-- The constructor of a `WaitingAnimation` (`WaitingAnimation.h:14`): with debug information it
starts no thread. -/
def waitingAnimation (m : MainCalls) (animation : Animation) : MainCall :=
  call fun x =>
    if LogPriority.info.toNat < x.clientData.logPriority.toNat then (.ok (), x)
    else exec (systemCall (m.threadError animation)) x

def connectQueue (m : MainCalls) : MainCall :=
  call fun x => exec (systemCall (m.queue x.clientData.queueHost).error) x

def getBuilder (m : MainCalls) : MainCall :=
  call fun x =>
    match m.writeToQueue (ascii "checkout_builder_request"), m.builderDataString with
    | some value, _ => x.throws (.thrown (.systemError value))
    | none, .error value => x.throws (.thrown (.systemError value))
    | none, .ok builderDataString =>
      match deserializeBuilder m.header builderDataString with
      | .error ex => x.throws (.thrown (.exception ex))
      | .ok builderData => (.ok (), { x with builderData := builderData })

def connectBuilder (m : MainCalls) : MainCall :=
  call fun x => exec (systemCall (m.builder x.builderData.host).error) x

def writeClientData (m : MainCalls) : MainCall :=
  call fun x =>
    exec (systemCall (m.writeToBuilder (serializedClientData m.header x.clientData))) x

/-- `write_context`, with the data as it is by then. -/
def sendContext (m : MainCalls) : MainCall :=
  call fun x => exec (within ClientMain.process (fun s x => { x with process := s })
    MainException.thrown (writeContext m.context x.clientData)) x

end Client

def Arrival.read : Arrival → ReadSome
  | .piece p _ => .piece p
  | .readError value _ => .error value

/-- `stream_build`, from the reads that there are; it leaves the others. -/
def relay : ClientRelay → List Arrival → Except (Stop MainException) (List Arrival)
  | .returned _, as => .ok as
  | .threw _ ex, _ => .error (.threw (.thrown ex))
  | _, [] => .error (.ended .running)
  | r, a :: as => relay (r.step a.read) as

/-- How `read_file` ends. -/
def ReadImage.result : ReadImage → Except (Stop MainException) Unit
  | .running (.returned _) => .ok ()
  | .running (.threw _ ex) => .error (.threw (.thrown (.exception ex)))
  | .running _ => .error (.ended .running)
  | .failed _ ex => .error (.threw (.thrown ex))

def Process.fileAt (s : Process) (path : Path) : Option Bytes :=
  match s.disk.lookup path with
  | some (.file content) => some content
  | _ => none

/-- Nothing is at `path`, or a file. -/
def Process.opensAt (s : Process) (path : Path) : Bool :=
  match s.disk.lookup path with
  | none => true
  | some (.file _) => true
  | _ => false

namespace Client

def streamBuild (m : MainCalls) : MainCall :=
  call fun x =>
    match relay (.start m.messageDone) x.arrivals with
    | .ok arrivals => (.ok (), { x with arrivals := arrivals })
    | .error stop => (.error stop, x)

/-- Where the image goes. -/
def containerPath (m : MainCalls) (x : ClientMain) : Path :=
  m.context.resolve x.process.currentPath x.clientData.containerPath

def imageOpens (m : MainCalls) (x : ClientMain) : Bool :=
  m.imageOpens && x.process.opensAt (containerPath m x)

/-- `read_file` from what has arrived. -/
def received (m : MainCalls) (x : ClientMain) : ReadImage :=
  receive x.clientData.containerPath (x.process.fileAt (containerPath m x)) (imageOpens m x)
    x.arrivals

def readImage (m : MainCalls) : MainCall :=
  call fun x =>
    let left : ClientMain :=
      match imageOpens m x, (received m x).container with
      | true, some file => { x with
          process := { x.process with
            disk := x.process.disk.set (containerPath m x) (.file file) } }
      | _, _ => x
    ((received m x).result, left)

end Client

def MainStep.call (m : MainCalls) : MainStep → MainCall
  | .parseEnvironment => Client.parseEnvironment m
  | .parseArguments => Client.parseArguments m
  | .checkInputFiles => Client.checkInputFiles m
  | .wait animation => Client.waitingAnimation m animation
  | .connectQueue => Client.connectQueue m
  | .getBuilder => Client.getBuilder m
  | .connectBuilder => Client.connectBuilder m
  | .writeClientData => Client.writeClientData m
  | .writeContext => Client.sendContext m
  | .streamBuild => Client.streamBuild m
  | .readFile => Client.readImage m
  | .closeBuilder => systemCall m.closeBuilder
  | .closeQueue => systemCall m.closeQueue

/-- The state that Ctrl-C finds, if it comes during `k`. -/
def MainCalls.signal (m : MainCalls) (k : MainStep) : Option ClientMain :=
  (m.interrupt.filter (·.1 = k)).map (·.2)

/-- A step; the handler of `SIGINT` ends it with `early_exit`. -/
def MainCalls.run (m : MainCalls) (k : MainStep) : MainCall :=
  interruptible exitFailure (m.signal k) (k.call m)

/-- The `try` block of `main` (`:354-394`). -/
def trySteps : List MainStep :=
  [.parseEnvironment, .parseArguments, .checkInputFiles, .wait .waitQueue, .connectQueue,
    .wait .waitBuilder, .getBuilder, .connectBuilder, .writeClientData, .wait .waitContext,
    .writeContext, .streamBuild, .wait .waitImage, .readFile]

def Client.main (m : MainCalls) : CallM Ended ClientMain Nat := do
  catchAll (inOrder m.run trySteps)
  catchAll (m.run .closeBuilder)
  catchAll (m.run .closeQueue)
  pure 0

end ContainerBuilder
