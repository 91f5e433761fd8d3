import ContainerBuilder.Builder.Main

/-!
# The builder's `main` as a program

`Builder.program` is the builder of an undisturbed session, and `Builder.main` the same function with
everything that can fail. If nothing does, they are one: on whatever pieces arrive, `main` sends what
the program writes (`main_follows_program`). So what is proved of sessions is true of `main`.

| here | there |
| --- | --- |
| `BuilderCalls.Smooth` | no call of `main` fails for a reason of its own |
| `BuildRun.Does`       | the child process does the build that the program is given |
| `Follows`             | the rest of the `try` block sends what the program writes from a stage on |
-/

namespace ContainerBuilder

open Lib

structure BuilderCalls.Smooth (b : BuilderCalls) : Prop where
  accept : b.acceptError = none
  handshake : b.handshakeError = none
  writes : ∀ n, b.writeFailure n = none
  tarball : b.tarballOpens = true
  openContainer : b.openError = none
  readContainer : b.readError = none

structure BuildRun.Does (run : BuildRun) (containerPath : Path) (build : Build) : Prop where
  launched : run.launchError = none
  reads : run.reads = build.pipe
  waited : run.waitError = none
  exitCode : run.exitCode = build.exitCode
  container : build.exitCode = 0 →
    run.disk.lookup containerPath = some (.file build.container.bytes)

/-- The program of this builder. -/
abbrev BuilderCalls.program (b : BuilderCalls) (run : Bytes → Bytes → Build) :
    Program BuilderStage Message UInt8 := Builder.program b.freed b.header run

/-- The calls `ks`, begun in `y`, send what the program writes from `s` on until it reads or stops. -/
def Follows (b : BuilderCalls) (run : Bytes → Bytes → Build) (ks : List BuilderStep)
    (y : BuilderMain) (s : BuilderStage) : Prop :=
  ∃ fs t, (b.program run).Writes s fs t ∧ (b.program run t).Waits ∧
    (exec (inOrder (BuilderStep.call b) ks) y).2.sent = y.sent ++ wire (fs.map Prod.snd)

section
variable {b : BuilderCalls} {run : Bytes → Bytes → Build} {k : BuilderStep} {ks : List BuilderStep}
  {y y' : BuilderMain} {s t : BuilderStage} {fs : List (Message × Frame UInt8)}

/-- A call that returns has sent what the program writes meanwhile. -/
theorem Follows.of_returns (hr : Returns (k.call b) y () y') (hw : (b.program run).Writes s fs t)
    (hsent : y'.sent = y.sent ++ wire (fs.map Prod.snd)) (h : Follows b run ks y' t) :
    Follows b run (k :: ks) y s := by
  obtain ⟨gs, u, hwrites, hwaits, hrest⟩ := h
  refine ⟨fs ++ gs, u, hw.trans hwrites, hwaits, ?_⟩
  rw [exec_inOrder_of_returns hr, hrest, hsent, List.map_append, wire_append, List.append_assoc]

/-- A call that does not return is the last, as the program's act is then. -/
theorem Follows.of_error {stop : Stop MainException} (he : exec (k.call b) y = (.error stop, y'))
    (hw : (b.program run).Writes s fs t) (hwaits : (b.program run t).Waits)
    (hsent : y'.sent = y.sent ++ wire (fs.map Prod.snd)) : Follows b run (k :: ks) y s :=
  ⟨fs, t, hw, hwaits, by rw [exec_inOrder_of_error he, hsent]⟩

/-! ## Writing -/

theorem exec_writeFrame (hb : b.Smooth) (f : Frame UInt8) (y : BuilderMain) :
    exec (Builder.writeFrame b f) y =
      (.ok (), { y with sent := y.sent ++ f.tokens, writes := y.writes + 1 }) := by
  unfold Builder.writeFrame
  simp only [exec_call, hb.writes]

theorem returns_writeFrames (hb : b.Smooth) (frames : List (Frame UInt8)) (y : BuilderMain) :
    ∃ y', Returns (Builder.writeFrames b frames) y () y' ∧ y'.sent = y.sent ++ wire frames := by
  induction frames generalizing y with
  | nil => exact ⟨y, rfl, by simp⟩
  | cons f frames ih =>
    obtain ⟨y', hr, hsent⟩ := ih { y with sent := y.sent ++ f.tokens, writes := y.writes + 1 }
    refine ⟨y', returns_bind.2 ⟨(), _, exec_writeFrame hb f y, hr⟩, ?_⟩
    rw [hsent, wire_cons, List.append_assoc]

/-- `write_file` of the container. -/
theorem follows_writeFile (hb : b.Smooth) {container : File}
    (hfile : y.process.fileAt y.containerPath = some container.bytes) :
    Follows b run [.writeFile] y
      (.writeFile (.start container.bytes container.bytes.length)) := by
  have hpart : ∀ w, Builder.writeFile b.freed w ≠ .stop →
      b.program run (.writeFile w) = (Builder.writeFile b.freed w).map .writeFile Part.ofImage := by
    intro w hw
    cases w with
    | content unread bytesRemaining csc => rfl
    | checksum csc => rfl
    | returned => exact absurd rfl hw
    | threw ex => exact absurd rfl hw
  obtain ⟨hend, -⟩ := emit_rounds b.freed (container.bytes.length + 2) container.bytes .initial
    (Nat.le_refl _) container.size_lt
  replace hend : ((Builder.writeFile b.freed).emit (container.bytes.length + 2)
      (.start container.bytes container.bytes.length)).2 = .returned := hend
  have hwrites := ((Builder.writeFile b.freed).writes_emit (container.bytes.length + 2)
    (.start container.bytes container.bytes.length)).part hpart
  rw [hend] at hwrites
  have hfinished : (b.program run).Writes (.writeFile .returned) [] .finished :=
    .step rfl (.refl _)
  obtain ⟨y', hr, hsent⟩ := returns_writeFrames hb
    (((Builder.writeFile b.freed).emit (container.bytes.length + 2)
      (.start container.bytes container.bytes.length)).1.map Prod.snd) y
  have hcall : Returns (BuilderStep.writeFile.call b) y () y' := by
    unfold Returns at hr ⊢
    simp only [BuilderStep.call, Builder.writeContainer, exec_call, hb.openContainer, hfile,
      Builder.writeContent, hb.readContainer, hend, Option.filter_none]
    exact hr
  refine .of_returns hcall (hwrites.trans hfinished) ?_ ⟨[], _, .refl _, trivial, ?_⟩
  · rw [hsent, List.append_nil, List.map_map]
    rfl
  · simp [inOrder]

/-- The relay of the output. -/
theorem returns_relayOutput_pipe (hb : b.Smooth) (build : Build) (reads : List Bytes)
    (y : BuilderMain) :
    let pipe : List (PipeError × Bytes) :=
      reads.map (fun data => (PipeError.success, data)) ++ [(.eof, [])]
    ∃ fs y', (b.program run).Writes (.streamBuild build pipe) fs (.writeExitCode build) ∧
      Returns (Builder.relayOutput b pipe) y () y' ∧ y'.process = y.process ∧
        y'.sent = y.sent ++ wire (fs.map Prod.snd) := by
  induction reads generalizing y with
  | nil =>
    refine ⟨[(.output, ⟨true, []⟩)], _, .write rfl (.refl _),
      returns_bind.2 ⟨(), _, exec_writeFrame hb _ y, rfl⟩, rfl, ?_⟩
    simp [streamOutput]
  | cons data reads ih =>
    obtain ⟨fs, y', hwrites, hr, hprocess, hsent⟩ :=
      ih { y with sent := y.sent ++ Frame.tokens ⟨false, data⟩, writes := y.writes + 1 }
    refine ⟨(.output, ⟨false, data⟩) :: fs, y', .write rfl hwrites,
      returns_bind.2 ⟨(), _, exec_writeFrame hb _ y, hr⟩, hprocess, ?_⟩
    rw [hsent, List.map_cons, wire_cons, List.append_assoc]

/-- `stream_build` up to the check of the exit code. -/
theorem exec_streamBuild (hb : b.Smooth) {build : Build}
    (hdoes : (b.build y.buildString y.process).Does y.containerPath build) :
    ∃ fs ended, (b.program run).Writes (.streamBuild build build.pipe) fs (.writeExitCode build) ∧
      exec (BuilderStep.streamBuild.call b) y = exec (Builder.checkExitCode build.exitCode) ended ∧
      ended.process = { y.process with disk := (b.build y.buildString y.process).disk } ∧
      ended.sent = y.sent ++
        wire (fs.map Prod.snd ++ [⟨true, Decimal.signed build.exitCode⟩]) := by
  let built : BuilderMain := { y with process := { y.process with
    disk := (b.build y.buildString y.process).disk } }
  obtain ⟨fs, y', hwrites, hrelay, hprocess, hsent⟩ :
      ∃ fs y', (b.program run).Writes (.streamBuild build build.pipe) fs (.writeExitCode build) ∧
        Returns (Builder.relayOutput b build.pipe) built () y' ∧ y'.process = built.process ∧
          y'.sent = built.sent ++ wire (fs.map Prod.snd) :=
    returns_relayOutput_pipe hb build build.reads built
  have hlaunch : Returns (Builder.mayFail (b.build y.buildString y.process).launchError) y () y :=
    Builder.returns_mayFail.2 ⟨hdoes.launched, rfl⟩
  have hdisk : Returns (call fun z : BuilderMain => (Except.ok (), { z with process :=
      { z.process with disk := (b.build y.buildString y.process).disk } }) : BuilderCall) y ()
        built := rfl
  have hwait : Returns (Builder.mayFail (b.build y.buildString y.process).waitError) y' () y' :=
    Builder.returns_mayFail.2 ⟨hdoes.waited, rfl⟩
  rw [← hdoes.reads] at hrelay
  refine ⟨fs, { y' with
    sent := y'.sent ++ Frame.tokens ⟨true, Decimal.signed build.exitCode⟩
    writes := y'.writes + 1 }, hwrites, ?_, hprocess, ?_⟩
  · show exec (Builder.streamRun b (b.build y.buildString y.process)) y = _
    rw [Builder.streamRun, exec_bind_of_returns hlaunch, exec_bind_of_returns hdisk,
      exec_bind_of_returns hrelay, exec_bind_of_returns hwait, hdoes.exitCode]
    exact exec_bind_of_returns (exec_writeFrame hb _ y')
  · show y'.sent ++ _ = _
    rw [hsent, wire_append, List.append_assoc]
    simp [built]

/-- `stream_build` and what comes after it. -/
theorem follows_streamBuild (hb : b.Smooth) {build : Build}
    (hdoes : (b.build y.buildString y.process).Does y.containerPath build) :
    Follows b run [.streamBuild, .writeFile] y (.streamBuild build build.pipe) := by
  obtain ⟨fs, ended, hwrites, hexec, hprocess, hsent⟩ :=
    exec_streamBuild (b := b) hb hdoes
  let exitCode : Message × Frame UInt8 :=
    (.exitCode, ⟨true, Decimal.signed build.exitCode⟩)
  replace hsent : ended.sent = y.sent ++ wire ((fs ++ [exitCode]).map Prod.snd) := by
    rw [hsent, List.map_append]
    rfl
  by_cases hzero : build.exitCode = 0
  · have hcode : (b.program run).Writes (.writeExitCode build) [exitCode]
        (.writeFile (.start build.container.bytes build.container.bytes.length)) := by
      refine .write ?_ (.refl _)
      simp only [BuilderCalls.program, Builder.program, hzero, ne_eq, not_true, if_false]
    have hreturns : Returns (BuilderStep.streamBuild.call b) y () ended := by
      unfold Returns
      rw [hexec]
      simp only [Builder.checkExitCode, exec_call, hzero, ne_eq, not_true, if_false]
    have hcontainer : ended.process.fileAt ended.containerPath = some build.container.bytes := by
      rw [BuilderMain.containerPath, hprocess]
      exact Builder.fileAt_eq_some.2 (hdoes.container hzero)
    exact .of_returns hreturns (hwrites.trans hcode) hsent (follows_writeFile hb hcontainer)
  · have hcode : (b.program run).Writes (.writeExitCode build) [exitCode]
        (.threw (.runtimeError (ascii "Container build failed"))) := by
      refine .write ?_ (.refl _)
      simp only [BuilderCalls.program, Builder.program, hzero, ne_eq, not_false_iff, if_true]
    have hthrows : exec (BuilderStep.streamBuild.call b) y =
        ended.throws (.exception (.runtimeError (ascii "Container build failed"))) := by
      rw [hexec]
      simp only [Builder.checkExitCode, exec_call, hzero, ne_eq, not_false_iff, if_true]
    exact .of_error hthrows (hwrites.trans hcode) trivial hsent

/-- `build_command` and what comes after it. -/
theorem follows_buildCommand (hb : b.Smooth) {context : Bytes}
    (hdoes : ∀ command, (b.build command y.process).Does y.containerPath (run command context)) :
    Follows b run [.buildCommand, .streamBuild, .writeFile] y
      (.buildCommand y.clientData context) := by
  cases hcommand : buildCommand y.clientData with
  | error ex =>
    have hstep : b.program run (.buildCommand y.clientData context) = .step (.threw ex) := by
      simp only [BuilderCalls.program, Builder.program, hcommand]
    have hcall : exec (BuilderStep.buildCommand.call b) y = y.throws (.exception ex) := by
      simp only [BuilderStep.call, Builder.prepareCommand, exec_call, hcommand]
    exact .of_error hcall (.step hstep (.refl _)) trivial (by simp)
  | ok command =>
    have hstep : b.program run (.buildCommand y.clientData context) =
        .step (.streamBuild (run command context) (run command context).pipe) := by
      simp only [BuilderCalls.program, Builder.program, hcommand]
    have hcall : Returns (BuilderStep.buildCommand.call b) y ()
        { y with buildString := command } := by
      unfold Returns
      simp only [BuilderStep.call, Builder.prepareCommand, exec_call, hcommand]
    exact .of_returns hcall (.step hstep (.refl _)) (by simp)
      (follows_streamBuild hb (hdoes command))

/-! ## Reading -/

variable (b run) in
/-- `read_client_data` of pieces. -/
theorem readText_pieces (pieces : List (Frame UInt8)) (text : Bytes) :
    (Builder.readText text (pieces.map (.piece · none)) = .error (.ended .running) ∧
      ∃ text', (b.program run).absorb (.readClientData text) pieces = (.readClientData text', [])) ∨
    ∃ clientDataString rest,
      Builder.readText text (pieces.map (.piece · none)) =
        .ok (clientDataString, rest.map (.piece · none)) ∧
      (b.program run).absorb (.readClientData text) pieces =
        (b.program run).absorb (Builder.deserialize b.header clientDataString) rest := by
  induction pieces generalizing text with
  | nil => exact .inl ⟨rfl, text, rfl⟩
  | cons p pieces ih =>
    obtain ⟨fin, payload⟩ := p
    cases fin with
    | true => exact .inr ⟨text ++ payload, pieces, rfl, rfl⟩
    | false => exact ih (text ++ payload)

/-- What the program makes of the pieces of a context. -/
theorem absorb_readContext (d : ClientData) (r : ReadFile) (pieces : List (Frame UInt8)) :
    (b.program run).absorb (.readContext d r) pieces =
      (.readContext d ((Builder.readFile tarballName).absorb r pieces).1,
        ((Builder.readFile tarballName).absorb r pieces).2) := by
  have hpart : ∀ r, Builder.readFile tarballName r ≠ .stop →
      b.program run (.readContext d r) =
        (Builder.readFile tarballName r).map (.readContext d) Part.ofContext := by
    intro r hr
    cases r with
    | content file csc => rfl
    | checksum file csc remoteChecksum => rfl
    | returned file => exact absurd rfl hr
    | threw file ex => exact absurd rfl hr
  refine Program.absorb_part hpart (fun r hr m next => ?_) r pieces
  cases r with
  | content file csc => cases hr
  | checksum file csc remoteChecksum => cases hr
  | returned file => nofun
  | threw file ex => nofun

/-- The archive is saved in `y`. -/
def BuilderMain.saved (y : BuilderMain) (file : Bytes) : BuilderMain :=
  { y with process := { y.process with
      disk := y.process.disk.set (y.process.currentPath ++ [tarballName]) (.file file) } }

/-- An archive that is accepted can be unpacked, and `run` says how it is built. -/
def Unpacks (b : BuilderCalls) (run : Bytes → Bytes → Build) (s : Process) (file : Bytes) : Prop :=
  ∃ s', Returns (Builder.unpackContext b.unpack)
      { s with disk := s.disk.set (s.currentPath ++ [tarballName]) (.file file) } () s' ∧
    ∀ command, (b.build command s').Does (s'.currentPath ++ [containerName]) (run command file)

/-- `read_context` and what comes after it. -/
theorem follows_readContext (hb : b.Smooth) {pieces : List (Frame UInt8)}
    (harrivals : y.arrivals = pieces.map (.piece · none))
    (hopens : y.process.opensAt (y.process.currentPath ++ [tarballName]) = true)
    (hunpacks : ∀ file, ((Builder.readFile tarballName).absorb .start pieces).1 = .returned file →
      Unpacks b run y.process file) :
    Follows b run [.readContext, .buildCommand, .streamBuild, .writeFile] y
      ((b.program run).absorb (.readContext y.clientData .start) pieces).1 := by
  have hreceive : receive tarballName
      (y.process.fileAt (y.process.currentPath ++ [tarballName])) true y.arrivals =
        .running ((Builder.readFile tarballName).absorb .start pieces).1 := by
    rw [harrivals]
    exact ReadImage.run_pieces tarballName .start pieces
  have hfile : ∀ r file, ((Builder.readFile tarballName).absorb .start pieces).1 = r →
      (ReadImage.running r).container = some file →
        exec (Builder.receiveFile b tarballName) y =
          ((ReadImage.running r).result, y.saved file) := by
    rintro r file rfl hcontainer
    simp only [Builder.receiveFile, exec_call, hb.tarball, hopens, Bool.and_self, hreceive,
      hcontainer]
    rfl
  have hcall : BuilderStep.readContext.call b = (do
      Builder.receiveFile b tarballName
      within BuilderMain.process (fun s y => { y with process := s }) MainException.thrown
        (Builder.unpackContext b.unpack)) := rfl
  -- nothing is unpacked of an archive that is not accepted
  have hstops : ∀ r file stop, ((Builder.readFile tarballName).absorb .start pieces).1 = r →
      (ReadImage.running r).container = some file → (ReadImage.running r).result = .error stop →
        exec (BuilderStep.readContext.call b) y = (.error stop, y.saved file) := by
    intro r file stop hr hcontainer hresult
    rw [hcall, exec_bind, hfile r file hr hcontainer, hresult]
  rw [absorb_readContext]
  cases hr : ((Builder.readFile tarballName).absorb .start pieces).1 with
  | content file csc =>
    exact .of_error (hstops _ file _ hr rfl rfl) (.refl _) trivial (by simp [BuilderMain.saved])
  | checksum file csc remoteChecksum =>
    exact .of_error (hstops _ file _ hr rfl rfl) (.refl _) trivial (by simp [BuilderMain.saved])
  | threw file ex =>
    exact .of_error (hstops _ file _ hr rfl rfl) (.step rfl (.refl _)) trivial
      (by simp [BuilderMain.saved])
  | returned file =>
    obtain ⟨s', hunpack, hdoes⟩ := hunpacks file hr
    have hreturns : Returns (BuilderStep.readContext.call b) y () { y with process := s' } := by
      rw [hcall]
      exact returns_bind.2 ⟨(), _, hfile _ file hr rfl, returns_within.2 ⟨s', hunpack, rfl⟩⟩
    exact .of_returns hreturns (.step rfl (.refl _)) (by simp)
      (follows_buildCommand hb hdoes)

/-- **`main` does as the program does**, if none of its calls fails: whatever pieces arrive, it sends
exactly what the program writes when it has read them. -/
theorem main_follows_program (hb : b.Smooth) {pieces : List (Frame UInt8)}
    (harrivals : y.arrivals = pieces.map (.piece · none))
    (hopens : y.process.opensAt (y.process.currentPath ++ [tarballName]) = true)
    (hunpacks : ∀ d file, ((b.program run).absorb Builder.start pieces).1 =
      .readContext d (.returned file) → Unpacks b run y.process file) :
    ∃ fs t, (b.program run).Writes ((b.program run).absorb Builder.start pieces).1 fs t ∧
      (b.program run t).Waits ∧
      (exec (Builder.main b) y).2.sent = y.sent ++ wire (fs.map Prod.snd) := by
  have haccept : Returns (BuilderStep.accept.call b) y () y :=
    Builder.returns_mayFail.2 ⟨hb.accept, rfl⟩
  have hhandshake : Returns (BuilderStep.handshake.call b) y () y :=
    Builder.returns_mayFail.2 ⟨hb.handshake, rfl⟩
  rw [sent_main, builderSteps, exec_inOrder_of_returns haccept, exec_inOrder_of_returns hhandshake]
  rcases readText_pieces b run pieces [] with
    ⟨hread, text, habsorb⟩ | ⟨clientDataString, rest, hread, habsorb⟩
  · rw [Builder.start, habsorb]
    have hends : exec (BuilderStep.readClientData.call b) y = (.error (.ended .running), y) := by
      simp only [BuilderStep.call, Builder.readClientData, exec_call, harrivals, hread]
    exact Follows.of_error hends (.refl _) trivial (by simp)
  · rw [Builder.start] at hunpacks ⊢
    rw [habsorb] at hunpacks ⊢
    cases hdata : Builder.deserializeClientData b.header clientDataString with
    | error ex =>
      have hstage : Builder.deserialize b.header clientDataString = .threw ex := by
        rw [Builder.deserialize, show unarchive _ _ _ = _ from hdata]
      have hthrows : exec (BuilderStep.readClientData.call b) y =
          BuilderMain.throws { y with arrivals := rest.map (.piece · none) } (.exception ex) := by
        simp only [BuilderStep.call, Builder.readClientData, exec_call, harrivals, hread, hdata]
      rw [hstage, Program.absorb_stop _ rfl]
      exact Follows.of_error hthrows (.refl _) trivial (by simp)
    | ok d =>
      have hstage : Builder.deserialize b.header clientDataString = .readContext d .start := by
        rw [Builder.deserialize, show unarchive _ _ _ = _ from hdata]
      have hreturns : Returns (BuilderStep.readClientData.call b) y ()
          { y with clientData := d, arrivals := rest.map (.piece · none) } := by
        unfold Returns
        simp only [BuilderStep.call, Builder.readClientData, exec_call, harrivals, hread, hdata]
      rw [hstage] at hunpacks ⊢
      refine Follows.of_returns hreturns (.refl _) (by simp) (follows_readContext hb rfl hopens ?_)
      intro file hfile
      refine hunpacks d file ?_
      rw [absorb_readContext, hfile]

end

end ContainerBuilder
