import ContainerBuilder.Builder.Main
import ContainerBuilder.Client.Steps

/-!
# A whole build

The `main` of the client and that of a builder, with everything that can fail in either of them, and
a connection between the two that may break at any point and cut what is sent as it likes. If
`read_file` of the image returns, then the builder has built the client's own context, with the
client's own command, the build has succeeded, and the image is its container, complete
(`image_built`). There is no run in which a user is left with an image of something else, and none
in which an image is taken for complete that is not.

| here | there |
| --- | --- |
| `Client.sent`  | what the client has written to `builder_stream` when it reads the image |
| `Connected`    | the two directions of the TCP connection |
-/

namespace ContainerBuilder

open Lib

/-- The client data and the context. -/
def Client.sent (m : MainCalls) (x₀ x : ClientMain) : List (Token UInt8) :=
  message (Client.serializedClientData m.header x.clientData) ++
    wire ((x.process.written.drop x₀.process.written.length).map Prod.snd)

/-- What the whole run of `main` sends. -/
def Builder.sent (b : BuilderCalls) (y₀ : BuilderMain) : List (Token UInt8) :=
  (exec (Builder.main b) y₀).2.sent.drop y₀.sent.length

/-- What one of them reads the other has sent: the client by the time it is in `x`, the builder by
the end of its run. -/
structure Connected (m : MainCalls) (x₀ x : ClientMain) (b : BuilderCalls) (y₀ : BuilderMain) :
    Prop where
  toBuilder : Delivers Arrival.frame (Client.sent m x₀ x) y₀.arrivals
  toClient : Delivers Arrival.frame (Builder.sent b y₀) x₀.arrivals

section
variable {m : MainCalls} {x₀ x x' : ClientMain} {b : BuilderCalls} {y₀ : BuilderMain}

/-- The messages that the client has read, up to the image. -/
theorem ImageRead.messages {ts : List (Token UInt8)} (h : ImageRead m x₀ x x')
    (hd : Delivers Arrival.frame ts x₀.arrivals) :
    ∃ output image ts',
      ts = message output ++ (message (ascii "0") ++ (message image ++ ts')) ∧
      x'.process.fileAt (Client.containerPath m x') = some image := by
  obtain ⟨output, rest, houtput, hcode⟩ := relay_reads hd h.served.build
  obtain ⟨-, -, himage⟩ := (outcomes_run m .readFile x).returns.1 ⟨x', h.2⟩
  obtain ⟨hread, -⟩ := ImageIs.reads himage
  obtain ⟨ts₁, rfl, hd₁⟩ := hd.sent houtput
  obtain ⟨ts₂, rfl, hd₂⟩ := hd₁.sent hcode
  obtain ⟨ts₃, rfl, -⟩ := hd₂.sent hread
  exact ⟨output, received x.arrivals, ts₃, rfl, h.in_place.1⟩

/-- A builder that the client has read these from has succeeded, and the image is its container. -/
theorem messages_container {y : BuilderMain} {output image : Bytes} {ts : List (Token UInt8)}
    (h : message output ++ (message (ascii "0") ++ (message image ++ ts)) <+: y.messages b) :
    (b.build y.buildString y.process).Succeeds ∧
      (b.build y.buildString y.process).disk.lookup y.containerPath = some (.file image) := by
  obtain ⟨us, hus⟩ := h
  cases hlaunch : (b.build y.buildString y.process).launchError with
  | some value =>
    simp only [BuilderMain.messages, BuildRun.messages, BuildRun.Succeeds, hlaunch, reduceCtorEq,
      false_and, if_false, List.append_nil, List.append_assoc] at hus
    exact absurd (List.append_eq_nil_iff.1 hus).1 (message_ne_nil _)
  | none =>
    simp only [BuilderMain.messages, BuildRun.messages, hlaunch, List.append_assoc] at hus
    obtain ⟨-, hcode⟩ := message_append_inj hus
    obtain ⟨hzero, hfile⟩ := message_append_inj hcode
    have hexit : (b.build y.buildString y.process).Succeeds := by
      have hsigned : ascii "0" = Decimal.signed 0 := by decide
      rw [hsigned] at hzero
      exact ⟨hlaunch, Decimal.signed_eq_zero.1 hzero.symm⟩
    rw [if_pos hexit] at hfile
    refine ⟨hexit, ?_⟩
    cases hcontainer : Process.fileAt
        { y.process with disk := (b.build y.buildString y.process).disk } y.containerPath with
    | none =>
      rw [hcontainer] at hfile
      exact absurd (List.append_eq_nil_iff.1 hfile).1 (message_ne_nil _)
    | some content =>
      rw [hcontainer] at hfile
      simp only [containerMessages, fileMessages] at hfile
      obtain ⟨rfl, -⟩ := message_append_inj hfile
      exact Builder.fileAt_eq_some.1 hcontainer

/-- The context that the client has sent. -/
theorem Client.sent_context
    (h : Returns (Client.writeContext m.context x.clientData) x₀.process () x.process)
    (hentry : m.context.OnEntry x.clientData x₀.process) :
    ∃ definition file, m.context.Succeeds x.clientData x₀.process definition file ∧
      Client.sent m x₀ x = message (Client.serializedClientData m.header x.clientData) ++
        fileMessages m.context.freed file.bytes := by
  have hcreate : m.context.createError = none := by
    obtain ⟨_, s, hcreate, -⟩ := returns_bind.1 h
    exact (returns_createDirectories.1 hcreate).1
  obtain ⟨definition, file, hok, hs⟩ := (ContextCalls.writeContext_returns hentry hcreate).1 h
  have hwire := (sent_wire (sent_rounds m.context.freed file).1).2.2
  refine ⟨definition, file, hok, ?_⟩
  rw [Client.sent, hs, ContextCalls.finished, List.drop_left, hwire, fileMessages]

/-- A builder that is ready for the build has read what the client has sent. -/
theorem BuilderCalls.Ready.read_sent {y : BuilderMain} {clientDataString bytes : Bytes}
    (h : b.Ready y₀ y clientDataString bytes) {text file : Bytes} {freed : Freed}
    (hd : Delivers Arrival.frame (message text ++ fileMessages freed file) y₀.arrivals) :
    clientDataString = text ∧ bytes = file := by
  obtain ⟨rest, rest', rest'', hdata, hfile, -⟩ := h.read
  obtain ⟨htext, ts, hts, hd'⟩ := hd.reads (List.prefix_refl _) hdata
  exact ⟨htext, (hd'.reads hts hfile).1⟩

/-- What is unpacked is the client's context. -/
theorem unpacked_context {u : UnpackCalls} {s s' : Process} {file : File} {context : Disk}
    (htar : u.tar file.bytes = .ok (Tree.graft ∅ [contextName] context))
    (hroot : context.IsDirectory [])
    (hfresh : ∀ p, s.currentPath ++ [contextName] <+: p → s.disk.lookup p = none)
    (h : Returns (Builder.unpackContext u)
      { s with disk := s.disk.set (s.currentPath ++ [tarballName]) (.file file.bytes) } () s') :
    s'.currentPath = s.currentPath ++ [contextName] ∧ s'.disk.subtree s'.currentPath = context := by
  have hchange : u.changeError = none := by
    obtain ⟨_, _, -, hrest⟩ := returns_bind.1 h
    obtain ⟨_, _, -, hset⟩ := returns_bind.1 hrest
    exact (returns_setCurrentPath.1 hset).1
  -- `read_context` of the archive in two frames
  have hwire : wire (wholeFrames .intact file) =
      message file.bytes ++ message (checksumText file.bytes) := by simp [wholeFrames]
  have hwhole := absorb_readFile tarballName [] wholeFrames_ne_nil hwire
  rw [List.append_nil, if_pos rfl] at hwhole
  have haccepted : ((Builder.readFile tarballName).absorb .start (wholeFrames .intact file)).1 =
      .returned file.bytes := congrArg Prod.fst hwhole
  obtain ⟨s₁, hread, hpath, hcontext⟩ := returns_readContext haccepted htar hroot hchange hfresh
  obtain ⟨pwd, s₂, hpwd, hrest⟩ := returns_bind.1 hread
  obtain ⟨rfl, rfl⟩ := returns_currentPath.1 hpwd
  obtain ⟨_, s₃, hinto, hunpack⟩ := returns_bind.1 hrest
  obtain ⟨-, rfl⟩ := (returns_readFileInto (a := ()).2 ⟨_, haccepted, rfl⟩).unique hinto
  have hsame : Returns (Builder.unpackContext u) { s₂ with
      disk := s₂.disk.set (s₂.currentPath ++ [tarballName]) (.file file.bytes) } () s₁ :=
    returns_bind.2 ⟨_, _, returns_currentPath.2 ⟨rfl, rfl⟩, hunpack⟩
  obtain ⟨-, rfl⟩ := h.unique hsame
  exact ⟨hpath, hcontext⟩

/-- The builder whose container the client has read. -/
theorem ImageRead.built (hconnected : Connected m x₀ x b y₀) (h : ImageRead m x₀ x x') :
    ∃ y image clientDataString bytes,
      Begins (BuilderStep.call b) builderSteps y₀ .streamBuild y ∧
      b.Ready y₀ y clientDataString bytes ∧
      (b.build y.buildString y.process).Succeeds ∧
      (b.build y.buildString y.process).disk.lookup y.containerPath = some (.file image) ∧
      x'.process.fileAt (Client.containerPath m x') = some image := by
  obtain ⟨us, hsent, hus⟩ := sends_main b y₀
  have htoClient := hconnected.toClient
  rw [Builder.sent, hsent, List.drop_left] at htoClient
  obtain ⟨output, image, ts, rfl, himage⟩ := h.messages htoClient
  rcases hus with hnil | ⟨y, hbegins, hprefix⟩
  · exact absurd (List.append_eq_nil_iff.1 hnil).1 (message_ne_nil _)
  · obtain ⟨clientDataString, bytes, hready⟩ := ready_of_begins b hbegins
    obtain ⟨hsucceeds, hcontainer⟩ := messages_container hprefix
    exact ⟨y, image, clientDataString, bytes, hbegins, hready, hsucceeds, hcontainer, himage⟩

/-- It has the client's data and the client's context. -/
theorem BuilderCalls.Ready.of_client {y : BuilderMain} {clientDataString bytes : Bytes}
    (h : b.Ready y₀ y clientDataString bytes)
    (hcontext : Returns (Client.writeContext m.context x.clientData) x₀.process () x.process)
    (hconnected : Connected m x₀ x b y₀) (hheader : m.header = b.header)
    (hentry : m.context.OnEntry x.clientData x₀.process)
    (htar : ∀ tree file, m.context.tar tree = .ok file → b.unpack.tar file.bytes = .ok tree)
    (hfresh : ∀ p, y₀.process.currentPath ++ [contextName] <+: p →
      y₀.process.disk.lookup p = none) :
    y.clientData = x.clientData ∧ ∃ definition,
      x₀.process.disk.lookup
        (m.context.resolve x₀.process.currentPath x.clientData.definitionPath) =
          some (.file definition) ∧
      y.process.disk.subtree y.process.currentPath =
        contextTree x.clientData x₀.process definition := by
  obtain ⟨definition, file, hok, hclient⟩ := Client.sent_context hcontext hentry
  have htoBuilder := hconnected.toBuilder
  rw [hclient] at htoBuilder
  obtain ⟨rfl, rfl⟩ := h.read_sent htoBuilder
  have hload := h.clientData
  rw [← hheader] at hload
  obtain ⟨-, htree⟩ := unpacked_context (htar _ _ hok.tar)
    (contextTree_root x.clientData x₀.process definition) hfresh h.unpacked
  exact ⟨Except.ok.inj (hload.symm.trans (unarchive_archive _ _ _)), definition, hok.readable,
    htree⟩

end

/-- **The image is the one that was asked for.** Whatever fails on either side and wherever the
connection breaks: if the client has read an image, then the builder has run the command of the
client's own data in a directory that holds the client's own context, the build has succeeded, and
the file at `container_path` is the container it has left, byte for byte. -/
theorem image_built {m : MainCalls} {x₀ x x' : ClientMain} {b : BuilderCalls} {y₀ : BuilderMain}
    (hheader : m.header = b.header) (hentry : m.context.OnEntry x.clientData x₀.process)
    (htar : ∀ tree file, m.context.tar tree = .ok file → b.unpack.tar file.bytes = .ok tree)
    (hfresh : ∀ p, y₀.process.currentPath ++ [contextName] <+: p → y₀.process.disk.lookup p = none)
    (hconnected : Connected m x₀ x b y₀) (h : ImageRead m x₀ x x') :
    ∃ definition y image,
      x₀.process.disk.lookup
        (m.context.resolve x₀.process.currentPath x.clientData.definitionPath) =
          some (.file definition) ∧
      Begins (BuilderStep.call b) builderSteps y₀ .streamBuild y ∧
      buildCommand x.clientData = .ok y.buildString ∧
      y.process.disk.subtree y.process.currentPath =
        contextTree x.clientData x₀.process definition ∧
      (b.build y.buildString y.process).Succeeds ∧
      (b.build y.buildString y.process).disk.lookup y.containerPath = some (.file image) ∧
      x'.process.fileAt (Client.containerPath m x') = some image := by
  obtain ⟨y, image, clientDataString, bytes, hbegins, hready, hsucceeds, hcontainer, himage⟩ :=
    h.built hconnected
  obtain ⟨hdata, definition, hreadable, hcontext⟩ :=
    hready.of_client h.served.context hconnected hheader hentry htar hfresh
  have hcommand := hready.command
  rw [hdata] at hcommand
  exact ⟨definition, y, image, hreadable, hbegins, hcommand, hcontext, hsucceeds, hcontainer,
    himage⟩

/-! ## A build of a `Dockerfile` -/

def sampleName : Bytes := ascii "Dockerfile"

/-- The current directory is transferred, and nothing fails. -/
def sampleCalls : MainCalls where
  loginName := some (ascii "me")
  queueHost := some (ascii "queue")
  argv := []
  store _ := .ok ⟨false, false, false, true, ascii "x86_64", ascii "docker", false,
    some (ascii "c.img"), some sampleName⟩
  existsError := none
  files := ⟨(· == sampleName), fun _ => ascii "FROM x"⟩
  threadError _ := none
  queue _ := ⟨none, none, none⟩
  writeToQueue _ := none
  builderDataString := .ok (Connection.serializedBuilder [] noBuilder)
  header := []
  builder _ := ⟨none, none, none⟩
  writeToBuilder _ := none
  context := plainCalls (homeTar sampleName)
  messageDone := true
  imageOpens := true
  closeBuilder := none
  closeQueue := none
  interrupt := none

/-- A container of one byte. -/
def sampleRun : BuildRun where
  launchError := none
  reads := [(.success, ascii "hi"), (.eof, [])]
  waitError := none
  exitCode := 0
  disk := Tree.set ∅ (homeDirectory ++ [contextName] ++ [containerName]) (.file [9])
  size_lt := by
    intro path content h
    rw [Tree.lookup_set, Finmap.lookup_empty] at h
    split at h
    · cases h
      decide
    · cases h

def sampleBuilder : BuilderCalls where
  acceptError := none
  handshakeError := none
  writeFailure _ := none
  header := []
  tarballOpens := true
  unpack := homeUntar sampleName
  build _ _ := sampleRun
  openError := none
  readError := none
  freed := .intact

/-- What arrives at the client, the output in two pieces. -/
def sampleArrivals : List Arrival :=
  [.piece ⟨false, ascii "h"⟩ none, .piece ⟨true, ascii "i"⟩ none, .piece ⟨true, ascii "0"⟩ none,
    .piece ⟨true, [9]⟩ none, .piece ⟨true, checksumText [9]⟩ none,
    .readError 104 0]

def sampleStart : ClientMain :=
  ⟨buildOf [] false, noBuilder, homeProcess sampleName, sampleArrivals⟩

def sampleBuilderStart : BuilderMain where
  clientData := buildOf [] false
  buildString := []
  process := freshBuilder
  arrivals := [
    .piece ⟨true, Client.serializedClientData [] (buildOf sampleName true)⟩ none,
    .piece ⟨true, smallFile.bytes⟩ none,
    .piece ⟨true, checksumText smallFile.bytes⟩ none]
  sent := []
  writes := 0

/-- When the image is read. -/
def sampleBefore : ClientMain where
  clientData := buildOf sampleName true
  builderData := noBuilder
  process := (plainCalls (homeTar sampleName)).finished (buildOf sampleName true)
    (homeProcess sampleName) [1] smallFile
  arrivals := sampleArrivals.drop 3

/-- The image is in its place. -/
def sampleAfter : ClientMain :=
  { sampleBefore with process := { sampleBefore.process with
      disk := sampleBefore.process.disk.set (homeDirectory ++ [ascii "c.img"]) (.file [9]) } }

theorem sample_succeeds : (plainCalls (homeTar sampleName)).Succeeds (buildOf sampleName true)
    (homeProcess sampleName) [1] smallFile where
  cpError _ := ⟨rfl, by decide, by decide⟩
  readable := home_definition _
  copyError := rfl
  no_definition _ := by decide +kernel
  enterError := rfl
  tar := by
    simp only [plainCalls, homeTar, homeContext, oneTar, if_true]
  leaveError := rfl
  openError := rfl
  transferError := nofun
  removeError := rfl
  removable := .inr (by decide +kernel)

/-- When the build is streamed. -/
def sampleStreaming : ClientMain := { sampleBefore with arrivals := sampleArrivals }

theorem sample_context :
    Returns (inOrder sampleCalls.run (beforeContext ++ [MainStep.writeContext])) sampleStart ()
      sampleStreaming := by
  have hwrite : Returns (Client.writeContext sampleCalls.context (buildOf sampleName true))
      (homeProcess sampleName) () sampleBefore.process :=
    (ContextCalls.writeContext_returns (home_onEntry _ _ _) rfl).2
      ⟨[1], smallFile, sample_succeeds, rfl⟩
  let x₁ : ClientMain := { sampleStart with clientData := buildOf sampleName true }
  have hfirst : Returns (inOrder sampleCalls.run beforeContext) sampleStart () x₁ := by rfl
  have hcontext : Returns (sampleCalls.run .writeContext) x₁ () sampleStreaming :=
    returns_run.2 ⟨rfl, returns_sendContext.2 ⟨sampleBefore.process, hwrite, rfl⟩⟩
  exact returns_inOrder_append.2 ⟨x₁, hfirst, returns_inOrder_cons.2 ⟨sampleStreaming, hcontext,
    returns_pure.2 ⟨rfl, rfl⟩⟩⟩

theorem sample_stream : Returns (sampleCalls.run .streamBuild) sampleStreaming () sampleBefore := by
  rfl

theorem sample_image_read : ImageRead sampleCalls sampleStart sampleBefore sampleAfter := by
  have hwait : Returns (sampleCalls.run (.wait .waitImage)) sampleBefore () sampleBefore := by rfl
  have hread : Returns (sampleCalls.run .readFile) sampleBefore () sampleAfter := by
    have hopens : Client.imageOpens sampleCalls sampleBefore = true := by decide +kernel
    have hreceived : Client.received sampleCalls sampleBefore = .running (.returned [9]) := by
      decide +kernel
    refine returns_run.2 ⟨rfl, ?_⟩
    unfold Returns MainStep.call Client.readImage
    simp only [exec_call, hopens, hreceived, ReadImage.container]
    rfl
  have hbefore : Returns (inOrder sampleCalls.run
      (beforeContext ++ [MainStep.writeContext] ++
        [MainStep.streamBuild, MainStep.wait .waitImage])) sampleStart () sampleBefore :=
    returns_inOrder_append.2 ⟨sampleStreaming, sample_context,
      returns_inOrder_cons.2 ⟨sampleBefore, sample_stream,
        returns_inOrder_cons.2 ⟨sampleBefore, hwait, returns_pure.2 ⟨rfl, rfl⟩⟩⟩⟩
  have hbegins : Begins sampleCalls.run
      (beforeContext ++ [MainStep.writeContext] ++ [MainStep.streamBuild, MainStep.wait .waitImage] ++
        MainStep.readFile :: []) sampleStart .readFile sampleBefore := begins_append hbefore
  exact ⟨hbegins, hread⟩

theorem sample_connected :
    Connected sampleCalls sampleStart sampleBefore sampleBuilder sampleBuilderStart := by
  have hsent : Builder.sent sampleBuilder sampleBuilderStart =
      Frame.tokens ⟨false, ascii "h"⟩ ++ (Frame.tokens ⟨true, ascii "i"⟩ ++
        (Frame.tokens ⟨true, ascii "0"⟩ ++ (Frame.tokens ⟨true, [9]⟩ ++
          (Frame.tokens ⟨true, checksumText [9]⟩ ++ [])))) := by
    decide +kernel
  have hclient : Client.sent sampleCalls sampleStart sampleBefore =
      Frame.tokens ⟨true, Client.serializedClientData [] (buildOf sampleName true)⟩ ++
        (Frame.tokens ⟨true, smallFile.bytes⟩ ++
          (Frame.tokens ⟨true, checksumText smallFile.bytes⟩ ++ [])) := by
    decide +kernel
  refine ⟨?_, ?_⟩
  · rw [hclient]
    exact .piece rfl (.piece rfl (.piece rfl (.breaks (by simp))))
  · rw [hsent]
    exact .piece rfl (.piece rfl (.piece rfl (.piece rfl (.piece rfl (.breaks (by simp))))))

/-- The image of one byte is the container of this build. -/
theorem image_built_sample : ∃ definition y image,
    Begins (BuilderStep.call sampleBuilder) builderSteps sampleBuilderStart .streamBuild y ∧
      y.process.disk.subtree y.process.currentPath =
        contextTree (buildOf sampleName true) (homeProcess sampleName) definition ∧
      sampleAfter.process.fileAt (Client.containerPath sampleCalls sampleAfter) = some image := by
  obtain ⟨definition, y, image, -, hbegins, -, hcontext, -, -, himage⟩ :=
    image_built rfl (home_onEntry _ _ _) (one_noFailures _).tar
      (fun _ hp => fresh_context hp) sample_connected sample_image_read
  exact ⟨definition, y, image, hbegins, hcontext, himage⟩

end ContainerBuilder
