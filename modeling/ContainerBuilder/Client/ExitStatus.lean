import ContainerBuilder.Client.Main

/-!
# What the exit status of the client says

`stream_build` checks the exit code of the build, `read_file` the checksum of the image, and both
throw when it is wrong; so do the steps before them. But `main` returns 0 after an exception as it
does without one (`exits_zero_iff`), and only `early_exit` reports a failure. `tells_truth_iff` says
in which runs the status is right all the same. What `write_context` needs on its inputs is in its own
module (`passes_writeContext`).

| here | there |
| --- | --- |
| `afterOutput`            | the loop of `stream_build` (`:222-226`) |
| `MessageIs`, `MessageFails` | the exit code (`:230-236`), the checksum of the image (`:80-85`) |
| `ImageIs`, `ImageFails`  | `read_file` once the file is open (`:66-85`) |
| `Passes`, `Fails`        | whether a step of `main` returns or throws, from the state it begins in |
| `ImageRead`              | `read_file` for the image returns |

A step may do neither: it waits for the builder, or `early_exit` ends the process in it.
-/

namespace ContainerBuilder

open Lib

/-! ## What arrives -/

/-- A message, read as a whole. -/
def messageArrived : List Arrival → Arrived
  | [] => .pending
  | .readError _ _ :: _ => .broken
  | .piece p _ :: as => if p.fin then .complete else messageArrived as

/-- What arrives after the output of the build. -/
def afterOutput (done : Bool) : List Arrival → List Arrival
  | [] => []
  | a :: as =>
    if a.read.isMessageDone done then as else afterOutput (a.read.isMessageDone done) as

/-- The message arrives, and says `text`. -/
def MessageIs (text : Bytes) (as : List Arrival) : Prop :=
  messageArrived as = .complete ∧ receivedText as = text

/-- The message cannot be read, or says something else. -/
def MessageFails (text : Bytes) (as : List Arrival) : Prop :=
  messageArrived as = .broken ∨ messageArrived as = .complete ∧ receivedText as ≠ text

/-- The checksum that belongs to the image. -/
def imageChecksum (as : List Arrival) : Bytes := (Crc.initial.processBytes (received as)).text

/-- The image arrives, and then its checksum. -/
def ImageIs (as : List Arrival) : Prop :=
  imageArrived as = .complete ∧ MessageIs (imageChecksum as) (afterImage as)

def ImageFails (as : List Arrival) : Prop :=
  imageArrived as = .broken ∨
    imageArrived as = .complete ∧ MessageFails (imageChecksum as) (afterImage as)

/-- A reader `r` that collects a message and then compares it with `expected`. -/
theorem fits_message {α : Type} {expected : Bytes}
    {r : Bytes → List Arrival → Except (Stop MainException) α}
    (hnil : ∀ text, r text [] = .error (.ended .running))
    (herror : ∀ text value kept as, ∃ ex, r text (.readError value kept :: as) = .error (.threw ex))
    (hmore : ∀ text p failed as, p.fin = false →
      r text (.piece p failed :: as) = r (text ++ p.payload) as)
    (hlast : ∀ text p failed as, p.fin = true →
      Fits (text ++ p.payload = expected) (text ++ p.payload ≠ expected)
        (r text (.piece p failed :: as))) :
    ∀ (as : List Arrival) (text : Bytes),
      Fits (messageArrived as = .complete ∧ text ++ receivedText as = expected)
        (messageArrived as = .broken ∨
          messageArrived as = .complete ∧ text ++ receivedText as ≠ expected) (r text as) := by
  intro as
  induction as with
  | nil =>
    intro text
    rw [hnil]
    simp [messageArrived, Fits]
  | cons a as ih =>
    intro text
    cases a with
    | readError value kept =>
      obtain ⟨ex, hex⟩ := herror text value kept as
      rw [hex]
      simp [messageArrived, Fits]
    | piece p failed =>
      cases hfin : p.fin with
      | false =>
        rw [hmore text p failed as hfin]
        simpa [messageArrived, receivedText, hfin] using ih (text ++ p.payload)
      | true => simpa [messageArrived, receivedText, hfin] using hlast text p failed as hfin

/-- While the exit code is read. -/
theorem fits_relay_exitCode (printed : Bytes) (as : List Arrival) (exitCodeString : Bytes) :
    Fits (messageArrived as = .complete ∧ exitCodeString ++ receivedText as = ascii "0")
      (messageArrived as = .broken ∨
        messageArrived as = .complete ∧ exitCodeString ++ receivedText as ≠ ascii "0")
      (relay (.readExitCode printed exitCodeString) as) := by
  refine fits_message (r := fun text => relay (.readExitCode printed text)) ?_ ?_ ?_ ?_ as
    exitCodeString
  · intro text
    rfl
  · intro text value kept as
    exact ⟨.thrown (.systemError value), by simp [relay, Arrival.read, ClientRelay.step]⟩
  · intro text p failed as hfin
    simp [relay, Arrival.read, ClientRelay.step, hfin]
  · intro text p failed as hfin
    by_cases hcode : text ++ p.payload = ascii "0"
    · simp [relay, Arrival.read, ClientRelay.step, ClientRelay.checkExitCode,
        Client.checkExitCode, Fits, hfin, hcode]
    · simp [relay, Arrival.read, ClientRelay.step, ClientRelay.checkExitCode,
        Client.checkExitCode, Fits, hfin, hcode]

/-- **`stream_build` returns** if the builder says 0 after the output, and throws if it says anything
else. -/
theorem fits_relay : ∀ (as : List Arrival) (printed : Bytes) (done : Bool),
    Fits (MessageIs (ascii "0") (afterOutput done as))
      (MessageFails (ascii "0") (afterOutput done as)) (relay (.streaming printed done) as) := by
  intro as
  induction as with
  | nil =>
    intro printed done
    simp [relay, afterOutput, MessageIs, MessageFails, messageArrived, Fits]
  | cons a as ih =>
    intro printed done
    by_cases hdone : a.read.isMessageDone done = true
    · have hcode := fits_relay_exitCode (printed ++ a.read.bytes) as []
      simpa [relay, afterOutput, ClientRelay.step, MessageIs, MessageFails, hdone] using hcode
    · have hrest := ih (printed ++ a.read.bytes) false
      simpa [relay, afterOutput, ClientRelay.step, hdone] using hrest

section image
variable (fileName : Bytes)

/-- While the checksum is read. -/
theorem fits_run_checksum (file : Bytes) (csc : Crc) (as : List Arrival) (remoteChecksum : Bytes) :
    Fits (messageArrived as = .complete ∧ remoteChecksum ++ receivedText as = csc.text)
      (messageArrived as = .broken ∨
        messageArrived as = .complete ∧ remoteChecksum ++ receivedText as ≠ csc.text)
      (ReadImage.run fileName (.running (.checksum file csc remoteChecksum)) as).result := by
  refine fits_message
    (r := fun text as => (ReadImage.run fileName (.running (.checksum file csc text)) as).result)
    ?_ ?_ ?_ ?_ as remoteChecksum
  · intro text
    rfl
  · intro text value kept as
    rw [ReadImage.run_cons, ReadImage.step, ReadImage.run_failed]
    exact ⟨_, rfl⟩
  · intro text p failed as hfin
    simp [ReadImage.step_checksum, hfin]
  · intro text p failed as hfin
    have hstopped := (ReadImage.compare_stopped fileName file csc (text ++ p.payload)).1
    rw [ReadImage.run_cons, ReadImage.step_checksum, if_pos hfin,
      ReadImage.run_stopped fileName hstopped]
    by_cases hsum : csc.text = text ++ p.payload
    · simp [ReadFile.compare, ReadImage.result, Fits, ← hsum]
    · simp [ReadFile.compare, ReadImage.result, Fits, hsum, Ne.symm hsum]

/-- While the image is read. -/
theorem fits_run_content : ∀ (as : List Arrival) (file : Bytes) (csc : Crc),
    Fits (imageArrived as = .complete ∧
        MessageIs (csc.processBytes (received as)).text (afterImage as))
      (imageArrived as = .broken ∨ imageArrived as = .complete ∧
        MessageFails (csc.processBytes (received as)).text (afterImage as))
      (ReadImage.run fileName (.running (.content file csc)) as).result := by
  intro as
  induction as with
  | nil =>
    intro file csc
    simp [ReadImage.result, imageArrived, Fits]
  | cons a as ih =>
    intro file csc
    rw [ReadImage.run_cons]
    cases a with
    | readError value kept =>
      rw [ReadImage.step, ReadImage.run_failed]
      simp [ReadImage.result, imageArrived, Fits]
    | piece p failed =>
      cases failed with
      | some kept =>
        rw [ReadImage.step, ReadImage.run_failed]
        simp [ReadImage.result, imageArrived, Fits]
      | none =>
        rw [ReadImage.step_content, imageArrived, received, afterImage]
        by_cases hfin : p.fin = true
        · have hsum := fits_run_checksum fileName (file ++ p.payload)
            (csc.processBytes p.payload) as []
          simpa [MessageIs, MessageFails, hfin] using hsum
        · rw [if_neg hfin, if_neg hfin, if_neg hfin, if_neg hfin, Crc.processBytes_append]
          exact ih (file ++ p.payload) (csc.processBytes p.payload)

/-- **`read_file` returns** if it can open the file, the image arrives and its checksum after it. -/
theorem fits_receive (before : Option Bytes) (opens : Bool) (as : List Arrival) :
    Fits (opens = true ∧ ImageIs as) (opens = false ∨ ImageFails as)
      (receive fileName before opens as).result := by
  cases opens with
  | false =>
    rw [receive, ReadImage.start, if_neg Bool.false_ne_true, ReadImage.run_failed]
    simp [ReadImage.result, Fits]
  | true =>
    have hrun := fits_run_content fileName as [] .initial
    simpa [receive, ReadImage.start, ImageIs, ImageFails, imageChecksum, ReadFile.start] using hrun

end image

/-! ## The steps -/

/-- The container and the definition are named, and no help is asked for. -/
def VariablesMap.complete (vm : VariablesMap) : Bool :=
  vm.container.isSome && vm.definition.isSome && !vm.help

namespace MainCalls

def animationError (m : MainCalls) (x : ClientMain) (animation : Animation) : ErrorCode :=
  if LogPriority.info.toNat < x.clientData.logPriority.toNat then none
  else m.threadError animation

/-- The step, begun in `x`, does what it is for. -/
def Passes (m : MainCalls) (x : ClientMain) : MainStep → Prop
  | .parseEnvironment => m.loginName ≠ none ∧ m.queueHost ≠ none
  | .parseArguments => ∃ vm, m.store m.argv = .ok vm ∧ vm.complete = true ∧
      ∃ arch, Arch.toArch vm.arch = .ok arch
  | .checkInputFiles => m.existsError = none ∧ ∃ d, m.files.checkInputFiles x.clientData = .ok d
  | .wait animation => m.animationError x animation = none
  | .connectQueue => (m.queue x.clientData.queueHost).error = none
  | .getBuilder => m.writeToQueue (ascii "checkout_builder_request") = none ∧
      ∃ text builder, m.builderDataString = .ok text ∧
        Client.deserializeBuilder m.header text = .ok builder
  | .connectBuilder => (m.builder x.builderData.host).error = none
  | .writeClientData =>
    m.writeToBuilder (Client.serializedClientData m.header x.clientData) = none
  | .writeContext => ∃ s', Returns (Client.writeContext m.context x.clientData) x.process () s'
  | .streamBuild => MessageIs (ascii "0") (afterOutput m.messageDone x.arrivals)
  | .readFile => Client.imageOpens m x = true ∧ ImageIs x.arrivals
  | .closeBuilder => m.closeBuilder = none
  | .closeQueue => m.closeQueue = none

/-- It throws. A command line without the two files is no failure, nor is waiting for the builder. -/
def Fails (m : MainCalls) (x : ClientMain) : MainStep → Prop
  | .parseArguments => (∃ what, m.store m.argv = .error what) ∨
      ∃ vm ex, m.store m.argv = .ok vm ∧ vm.complete = true ∧ Arch.toArch vm.arch = .error ex
  | .streamBuild => MessageFails (ascii "0") (afterOutput m.messageDone x.arrivals)
  | .readFile => Client.imageOpens m x = false ∨ ImageFails x.arrivals
  | k => ¬ m.Passes x k

/-- **`write_context` passes** where it is called if its directory can be created and then no step of
it fails: a condition on the disk and on the calls. -/
theorem passes_writeContext {m : MainCalls} {x : ClientMain}
    (h : m.context.OnEntry x.clientData x.process) :
    m.Passes x .writeContext ↔ m.context.createError = none ∧
      ∃ definition file, m.context.Succeeds x.clientData x.process definition file := by
  constructor
  · rintro ⟨s', hreturns⟩
    obtain ⟨_, s₁, hcreate, -⟩ := returns_bind.1 hreturns
    have hcreated := (returns_createDirectories.1 hcreate).1
    obtain ⟨definition, file, hok, -⟩ :=
      (ContextCalls.writeContext_returns h hcreated).1 hreturns
    exact ⟨hcreated, definition, file, hok⟩
  · rintro ⟨hcreated, definition, file, hok⟩
    exact ⟨_, (ContextCalls.writeContext_returns h hcreated).2 ⟨definition, file, hok, rfl⟩⟩

end MainCalls

theorem outcomes_systemCall (error : ErrorCode) (x : ClientMain) :
    Outcomes (systemCall error) x (error = none) (error ≠ none) := by
  cases error with
  | none => exact .of_ok rfl rfl (by simp)
  | some value => exact .of_threw rfl (by simp) (by simp)

section steps
variable (m : MainCalls) (x : ClientMain)

theorem outcomes_parseEnvironment :
    Outcomes (Client.parseEnvironment m) x (m.Passes x .parseEnvironment)
      (m.Fails x .parseEnvironment) := by
  refine outcomes_call ?_
  simp only [MainCalls.Passes, MainCalls.Fails]
  cases m.loginName with
  | none => simp [Fits, ClientMain.throws]
  | some name =>
    cases m.queueHost with
    | none => simp [Fits, ClientMain.throws]
    | some host => simp [Fits]

theorem outcomes_parseArguments :
    Outcomes (Client.parseArguments m) x (m.Passes x .parseArguments)
      (m.Fails x .parseArguments) := by
  refine outcomes_call ?_
  simp only [MainCalls.Passes, MainCalls.Fails]
  cases m.store m.argv with
  | error what => simp [Fits, ClientMain.throws]
  | ok vm =>
    obtain ⟨help, debug, force, transferContext, arch, backend, tty, container, definition⟩ := vm
    cases container with
    | none => simp [Fits, VariablesMap.complete, exitFailure]
    | some container =>
      cases definition with
      | none => simp [Fits, VariablesMap.complete, exitFailure]
      | some definition =>
        cases help with
        | true => simp [Fits, VariablesMap.complete, exitFailure]
        | false =>
          cases harch : Arch.toArch arch with
          | error ex => simp [Fits, VariablesMap.complete, ClientMain.throws, harch]
          | ok arch => simp [Fits, VariablesMap.complete, harch]

theorem outcomes_checkInputFiles :
    Outcomes (Client.checkInputFiles m) x (m.Passes x .checkInputFiles)
      (m.Fails x .checkInputFiles) := by
  refine outcomes_call ?_
  simp only [MainCalls.Passes, MainCalls.Fails]
  cases m.existsError with
  | some value => simp [Fits, ClientMain.throws]
  | none =>
    cases m.files.checkInputFiles x.clientData with
    | error ex => simp [Fits, ClientMain.throws]
    | ok d => simp [Fits]

theorem outcomes_waitingAnimation (animation : Animation) :
    Outcomes (Client.waitingAnimation m animation) x (m.Passes x (.wait animation))
      (m.Fails x (.wait animation)) := by
  refine (outcomes_systemCall (m.animationError x animation) x).of_exec ?_
  unfold MainCalls.animationError Client.waitingAnimation
  rw [exec_call]
  split
  · rfl
  · rfl

theorem outcomes_getBuilder :
    Outcomes (Client.getBuilder m) x (m.Passes x .getBuilder) (m.Fails x .getBuilder) := by
  refine outcomes_call ?_
  simp only [MainCalls.Passes, MainCalls.Fails]
  cases m.writeToQueue (ascii "checkout_builder_request") with
  | some value => simp [Fits, ClientMain.throws]
  | none =>
    cases m.builderDataString with
    | error value => simp [Fits, ClientMain.throws]
    | ok text =>
      cases htext : Client.deserializeBuilder m.header text with
      | error ex => simp [Fits, ClientMain.throws, htext]
      | ok builder => simp [Fits, htext]

theorem outcomes_sendContext :
    Outcomes (Client.sendContext m) x (m.Passes x .writeContext) (m.Fails x .writeContext) := by
  refine outcomes_call ?_
  simp only [MainCalls.Passes, MainCalls.Fails, within, exec_call, Returns]
  generalize exec (Client.writeContext m.context x.clientData) x.process = r
  obtain ⟨a, s'⟩ := r
  cases a with
  | ok a => simp [Fits]
  | error ex => simp [Fits]

theorem outcomes_streamBuild :
    Outcomes (Client.streamBuild m) x (m.Passes x .streamBuild) (m.Fails x .streamBuild) := by
  refine outcomes_call ?_
  have hrelay := fits_relay x.arrivals [] m.messageDone
  rw [← ClientRelay.start] at hrelay
  cases hr : relay (.start m.messageDone) x.arrivals with
  | ok as =>
    rw [hr] at hrelay
    exact hrelay
  | error stop =>
    rw [hr] at hrelay
    cases stop with
    | threw ex => exact hrelay
    | ended e => exact hrelay

theorem outcomes_readImage :
    Outcomes (Client.readImage m) x (m.Passes x .readFile) (m.Fails x .readFile) := by
  refine outcomes_call ?_
  exact fits_receive ..

theorem outcomes_step (k : MainStep) :
    Outcomes (k.call m) x (m.Passes x k) (m.Fails x k) := by
  cases k with
  | parseEnvironment => exact outcomes_parseEnvironment m x
  | parseArguments => exact outcomes_parseArguments m x
  | checkInputFiles => exact outcomes_checkInputFiles m x
  | wait animation => exact outcomes_waitingAnimation m x animation
  | connectQueue =>
    have hconnect := outcomes_systemCall (m.queue x.clientData.queueHost).error x
    exact hconnect.of_exec rfl
  | getBuilder => exact outcomes_getBuilder m x
  | connectBuilder =>
    have hconnect := outcomes_systemCall (m.builder x.builderData.host).error x
    exact hconnect.of_exec rfl
  | writeClientData =>
    have hwrite :=
      outcomes_systemCall (m.writeToBuilder (Client.serializedClientData m.header x.clientData)) x
    exact hwrite.of_exec rfl
  | writeContext => exact outcomes_sendContext m x
  | streamBuild => exact outcomes_streamBuild m x
  | readFile => exact outcomes_readImage m x
  | closeBuilder => exact outcomes_systemCall m.closeBuilder x
  | closeQueue => exact outcomes_systemCall m.closeQueue x

end steps

/-! ## `main` -/

section main
variable (m : MainCalls) (s : ClientMain)

theorem outcomes_run (k : MainStep) (x : ClientMain) :
    Outcomes (m.run k) x (m.signal k = none ∧ m.Passes x k) (m.signal k = none ∧ m.Fails x k) :=
  outcomes_interruptible (outcomes_step m x k) (by decide) (m.signal k)

/-- Ctrl-C comes after the `try` block. -/
def MainCalls.InterruptedLate : Prop :=
  m.signal .closeBuilder ≠ none ∨ m.signal .closeQueue ≠ none

/-- `close`, with what it throws dropped. -/
theorem returns_close {signal : Option ClientMain} {error : ErrorCode} {x x' : ClientMain} :
    Returns (catchAll (interruptible exitFailure signal (systemCall error))) x () x' ↔
      signal = none ∧ x' = x := by
  rw [returns_catchAll]
  cases signal with
  | some y => simp [Returns, Throws, interruptible]
  | none =>
    cases error with
    | none => simp [Returns, Throws, interruptible, systemCall, eq_comm]
    | some value =>
      simp [Returns, Throws, interruptible, systemCall, ClientMain.throws, eq_comm]

/-- `main` returns after an exception as it does without. -/
theorem returns_main {status : Nat} {s' : ClientMain} :
    Returns (Client.main m) s status s' ↔ status = 0 ∧ ¬ m.InterruptedLate ∧
      (Returns (inOrder m.run trySteps) s () s' ∨ Throws (inOrder m.run trySteps) s s') := by
  unfold Client.main MainCalls.InterruptedLate
  simp only [returns_bind, returns_pure]
  constructor
  · rintro ⟨_, s₁, htry, _, s₂, hbuilder, _, s₃, hqueue, rfl, rfl⟩
    obtain ⟨hsignal, rfl⟩ := returns_close.1 hbuilder
    obtain ⟨hsignal', rfl⟩ := returns_close.1 hqueue
    exact ⟨rfl, by simp [hsignal, hsignal'], returns_catchAll.1 htry⟩
  · rintro ⟨rfl, hlate, htry⟩
    simp only [not_or, Decidable.not_not] at hlate
    exact ⟨(), s', returns_catchAll.2 htry, (), s', returns_close.2 ⟨hlate.1, rfl⟩, (), s',
      returns_close.2 ⟨hlate.2, rfl⟩, rfl, rfl⟩

theorem neverExits_main : NeverExits 0 (Client.main m) := by
  have hstep : ∀ k s s', exec (m.run k) s ≠ (.error (.ended (.exited 0)), s') :=
    fun k s => (outcomes_run m k s).exits
  have htry : ∀ s s', exec (inOrder m.run trySteps) s ≠ (.error (.ended (.exited 0)), s') :=
    fun s => (outcomes_inOrder (outcomes_run m) trySteps s).exits
  exact neverExits_bind (neverExits_catchAll htry) fun _ =>
    neverExits_bind (neverExits_catchAll (hstep .closeBuilder)) fun _ =>
      neverExits_bind (neverExits_catchAll (hstep .closeQueue)) fun _ => neverExits_pure 0 0

/-- Every step of the `try` block that `main` comes to does what it is for. -/
def MainCalls.Completes : Prop :=
  ∀ k x, Begins m.run trySteps s k x → m.signal k = none ∧ m.Passes x k

/-- One of them throws. -/
def MainCalls.BreaksOff : Prop :=
  ∃ k x, Begins m.run trySteps s k x ∧ m.signal k = none ∧ m.Fails x k

theorem outcomes_try :
    Outcomes (inOrder m.run trySteps) s (m.Completes s) (m.BreaksOff s) :=
  outcomes_inOrder (outcomes_run m) trySteps s

theorem completes_not_breaksOff (h : m.Completes s) : ¬ m.BreaksOff s := by
  rw [← (outcomes_try m s).throws]
  obtain ⟨s', hr⟩ := (outcomes_try m s).returns.2 h
  rintro ⟨s'', ht⟩
  exact hr.not_throws ht

/-- **The status is 0** whether the `try` block completes or breaks off. -/
theorem exits_zero_iff :
    exitStatus (exec (Client.main m) s).1 = some 0 ↔
      ¬ m.InterruptedLate ∧ (m.Completes s ∨ m.BreaksOff s) := by
  rw [exitStatus_iff (neverExits_main m), ← (outcomes_try m s).returns,
    ← (outcomes_try m s).throws, ← exists_or]
  simp only [returns_main, true_and, exists_and_left]

/-- Whatever fails, a script that calls the client sees 0. -/
theorem failure_exits_zero {k : MainStep} {x : ClientMain} (hk : Begins m.run trySteps s k x)
    (hsignal : m.signal k = none) (hfails : m.Fails x k) (hlate : ¬ m.InterruptedLate) :
    exitStatus (exec (Client.main m) s).1 = some 0 :=
  (exits_zero_iff m s).2 ⟨hlate, .inr ⟨k, x, hk, hsignal, hfails⟩⟩

/-! ## The image -/

/-- `read_file` of the image, begun in `x`, returns and leaves `x'`. -/
def ImageRead (x x' : ClientMain) : Prop :=
  Begins m.run trySteps s .readFile x ∧ Returns (m.run .readFile) x () x'

/-- The image is read at the end of a `try` block that completes. -/
theorem imageRead_iff : (∃ x x', ImageRead m s x x') ↔ m.Completes s := by
  have hlast : trySteps = trySteps.dropLast ++ [.readFile] := rfl
  have honly : MainStep.readFile ∉ trySteps.dropLast := by decide
  have hreturns : ∀ s', Returns (inOrder m.run trySteps) s () s' ↔ ∃ x, ImageRead m s x s' := by
    intro s'
    unfold ImageRead
    rw [hlast]
    exact returns_inOrder_last honly
  rw [← (outcomes_try m s).returns]
  simp only [hreturns]
  exact exists_comm

theorem returned_of_result {r : ReadImage} (h : r.result = .ok ()) :
    ∃ image, r = .running (.returned image) := by
  cases r with
  | failed container ex => cases h
  | running r =>
    cases r with
    | content file csc => cases h
    | checksum file csc remoteChecksum => cases h
    | returned file => exact ⟨file, rfl⟩
    | threw file ex => cases h

/-- The image that has arrived is at `container_path`, and the checksum received is its own. -/
def ImageInPlace (x x' : ClientMain) : Prop :=
  x'.process.fileAt (Client.containerPath m x') = some (received x.arrivals) ∧
    imageChecksum x.arrivals = receivedText (afterImage x.arrivals)

theorem ImageRead.in_place {m : MainCalls} {s x x' : ClientMain} (h : ImageRead m s x x') :
    ImageInPlace m x x' := by
  obtain ⟨-, hr⟩ := h
  obtain ⟨hsignal, hopens, -, -, hsum⟩ := (outcomes_run m .readFile x).returns.1 ⟨x', hr⟩
  unfold MainCalls.run at hr
  rw [hsignal] at hr
  obtain ⟨hresult, hleft⟩ := Prod.mk.inj hr
  obtain ⟨image, hreturned⟩ := returned_of_result hresult
  have himage : image = received x.arrivals := by
    have hrun := hreturned
    rw [Client.received, hopens] at hrun
    exact ((ReadImage.run_content _ x.arrivals []).2 image hrun).1
  simp only [hopens, hreturned, ReadImage.container] at hleft
  subst hleft himage
  refine ⟨?_, hsum.symm⟩
  simp [Process.fileAt, Client.containerPath, Tree.lookup_set]

/-! ## The claim of the status -/

/-- The status is 0 if and only if the image has been read. -/
def TellsTruth : Prop :=
  exitStatus (exec (Client.main m) s).1 = some 0 ↔ ∃ x x', ImageRead m s x x'

/-- No failure is reported as a success, and no success as a failure: what breaks off is
interrupted after that, and what completes is not. -/
structure StatusFits : Prop where
  failure : m.BreaksOff s → m.InterruptedLate
  success : m.Completes s → ¬ m.InterruptedLate

/-- **When the status tells the truth.** If the `try` block breaks off, whatever the failure is, only
when Ctrl-C comes while the streams are closed; if it completes, when no Ctrl-C comes then; and if it
does neither, always. An image that has been read is in its place, with its checksum verified. -/
theorem tells_truth_iff :
    (TellsTruth m s ↔ StatusFits m s) ∧
    ∀ x x', ImageRead m s x x' → ImageInPlace m x x' := by
  refine ⟨?_, fun x x' h => h.in_place⟩
  unfold TellsTruth
  rw [exits_zero_iff, imageRead_iff]
  constructor
  · intro htruth
    refine ⟨fun hbreaks => ?_, fun hcompletes => (htruth.2 hcompletes).1⟩
    by_contra hlate
    exact completes_not_breaksOff m s (htruth.1 ⟨hlate, .inr hbreaks⟩) hbreaks
  · intro hfits
    constructor
    · rintro ⟨hlate, hcompletes | hbreaks⟩
      · exact hcompletes
      · exact absurd (hfits.failure hbreaks) hlate
    · exact fun hcompletes => ⟨hfits.success hcompletes, .inl hcompletes⟩

end main

/-- A command line with the two files, where `QUEUE_HOST` is not set and nothing else goes wrong;
streams that were never connected cannot be closed. -/
def unsetQueueHost : MainCalls where
  loginName := some (ascii "me")
  queueHost := none
  argv := [ascii "container-builder", ascii "c.img", ascii "Dockerfile"]
  store _ := .ok
    { help := false
      debug := false
      force := false
      transferContext := false
      arch := ascii "x86_64"
      backend := ascii "unspecified"
      tty := false
      container := some (ascii "c.img")
      definition := some (ascii "Dockerfile") }
  existsError := none
  files := Files.dockerfile (ascii "FROM centos")
  threadError _ := none
  queue _ := ⟨none, none, none⟩
  writeToQueue _ := none
  builderDataString := .ok (Connection.serializedBuilder (ascii "22 serialization::archive 16 0 0")
    noBuilder)
  header := ascii "22 serialization::archive 16 0 0"
  builder _ := ⟨none, none, none⟩
  writeToBuilder _ := none
  context := plainCalls smallTar
  messageDone := true
  imageOpens := true
  closeBuilder := some 9
  closeQueue := some 9
  interrupt := none

/-- In a directory with a `Dockerfile`. -/
def atStart : ClientMain where
  clientData := Files.dockerfileData
  builderData := noBuilder
  process := homeProcess (ascii "Dockerfile")
  arrivals := []

/-- The client does not even reach the queue, and exits with 0. -/
theorem unset_queue_host_exits_zero :
    exitStatus (exec (Client.main unsetQueueHost) atStart).1 = some 0 ∧
    (¬ ∃ x x', ImageRead unsetQueueHost atStart x x') ∧
    ¬ TellsTruth unsetQueueHost atStart := by
  have hzero : exitStatus (exec (Client.main unsetQueueHost) atStart).1 = some 0 := by rfl
  have hnot : ¬ ∃ x x', ImageRead unsetQueueHost atStart x x' := by
    rw [imageRead_iff]
    intro hcompletes
    have hhost := (hcompletes .parseEnvironment atStart .head).2.2
    exact hhost rfl
  exact ⟨hzero, hnot, fun htruth => hnot (htruth.1 hzero)⟩

end ContainerBuilder
