import ContainerBuilder.Session.Scripts

/-!
# Client and builder agree on the session protocol

In any interleaving and however the frames are cut into pieces, the session of the two programs goes
as their scripts say, as long as the checksums that are sent are those of the files. `Agrees` lists
what that comes to in a state of a run; the rest of a message that is being read and the state in which
nothing is left to do follow from the scripts. A checksum is sent from memory that is no longer owned,
so that an undisturbed session may end with a refused container all the same.

Main results: `session_agrees`, `cleared_checksum_ends_session`.
-/

namespace ContainerBuilder

open Lib
open Lib.Decimal (signed)

/-- `stream_build` has returned, or thrown after its loop. -/
def ClientStage.streamed : ClientStage → Bool
  | .writeClientData => false
  | .writeContext _ => false
  | .streamBuild => false
  | .readExitCode _ => true
  | .readFile _ => true
  | .finished _ => true
  | .threw _ => true

namespace Setup

variable (S : Setup)

/-- The two programs on one connection, the client on the left. -/
def session : Machine (Session Client BuilderStage UInt8) (SessionEvent UInt8)
    (SessionObs Message UInt8) :=
  Lib.session (Client.program S.contextFreed S.header S.clientData S.context)
    (Builder.program S.imageFreed S.header S.run) Client.start Builder.start

/-- A bound on the steps of a session. -/
def bound (b : Build) : Nat :=
  (clientPlan S b).work Client.start + (builderPlan S b).work Builder.start

/-- The reading program has `got` everything up to the message `m` and not all of this. -/
def Reads (b : Build) (agreed got : List (Message × Token UInt8)) (m : Message) : Prop :=
  ∃ rest, got ++ label m (message rest) ++ S.messages b (m.after b) = agreed

end Setup

/-- A run of the session that has come to the state `s`, for a build `b`. -/
structure Agrees (S : Setup) (b : Build) (es : List (SessionEvent UInt8))
    (s : Session Client BuilderStage UInt8) (tr : List (SessionObs Message UInt8)) : Prop where
  /-- The two do not wait for each other. -/
  not_waiting : ∀ m m' next next',
    Client.program S.contextFreed S.header S.clientData S.context s.left = .read m next →
      Builder.program S.imageFreed S.header S.run s.right = .read m' next' →
        s.toRight ≠ [] ∨ s.toLeft ≠ []
  /-- Every token is read by the step it was written for, and these are the messages of the
  session. -/
  uploaded : gotTokens (rightNotes tr) <+: sentTokens (leftNotes tr) ∧
    sentTokens (leftNotes tr) <+: S.upload b
  downloaded : gotTokens (leftNotes tr) <+: sentTokens (rightNotes tr) ∧
    sentTokens (rightNotes tr) <+: S.download b
  /-- Who reads a message has read all before it, and who no longer reads has read all. -/
  builder_reads : ∀ m next, Builder.program S.imageFreed S.header S.run s.right = .read m next →
    S.Reads b (S.upload b) (gotTokens (rightNotes tr)) m
  client_reads : ∀ m next,
    Client.program S.contextFreed S.header S.clientData S.context s.left = .read m next →
      S.Reads b (S.download b) (gotTokens (leftNotes tr)) m
  builder_writes : ∀ m f next, Builder.program S.imageFreed S.header S.run s.right = .write m f next →
    gotTokens (rightNotes tr) = S.upload b
  builder_stops : Builder.program S.imageFreed S.header S.run s.right = .stop →
    gotTokens (rightNotes tr) = S.upload b
  client_stops : Client.program S.contextFreed S.header S.clientData S.context s.left = .stop →
    gotTokens (leftNotes tr) = S.download b
  /-- The builder works with what the client has sent. -/
  received : ∀ d context, s.right = .buildCommand d context →
    d = S.clientData ∧ context = S.context.bytes
  /-- In particular `build_command` does not throw. -/
  builder_throws : ∀ ex, s.right = .threw ex →
    b.exitCode ≠ 0 ∧ ex = .runtimeError (ascii "Container build failed")
  client_throws : ∀ ex, s.left.stage = .threw ex → b.exitCode ≠ 0 ∧
    ex = .runtimeError (ascii "Build failed with exit code " ++ signed b.exitCode)
  /-- The client prints the output of the build, and nothing else. -/
  printed : s.left.printed <+: b.output ∧ (s.left.stage.streamed = true → s.left.printed = b.output)
  image : ∀ image, s.left.stage = .finished image → b.exitCode = 0 ∧ image = b.container.bytes
  /-- There is an end, and when it is reached both have finished, or thrown for the exit code. -/
  bounded : es.countP (fun e => !e.idle) ≤ S.bound b
  finishes : (∀ e, e.idle = false → S.session.step s e = none) →
    (b.exitCode = 0 →
      s.left = ⟨.finished b.container.bytes, b.output⟩ ∧ s.right = .finished) ∧
    (b.exitCode ≠ 0 →
      s.left = ⟨.threw (.runtimeError (ascii "Build failed with exit code " ++ signed b.exitCode)),
        b.output⟩ ∧
      s.right = .threw (.runtimeError (ascii "Container build failed")))

section
variable {S : Setup} {b : Build}

theorem clientPlan_printed {c : Client} (h : (clientPlan S b).Inv c) :
    c.printed <+: b.output ∧ (c.stage.streamed = true → c.printed = b.output) := by
  obtain ⟨stage, printed⟩ := c
  cases stage with
  | writeClientData =>
    obtain rfl : printed = [] := h
    exact ⟨List.nil_prefix, fun hs => by cases hs⟩
  | writeContext w =>
    obtain rfl : printed = [] := h.1
    exact ⟨List.nil_prefix, fun hs => by cases hs⟩
  | streamBuild => exact ⟨h, fun hs => by cases hs⟩
  | readExitCode exitCodeString =>
    obtain rfl : printed = b.output := h.1
    exact ⟨List.prefix_refl _, fun _ => rfl⟩
  | readFile r =>
    obtain rfl : printed = b.output := h.1
    exact ⟨List.prefix_refl _, fun _ => rfl⟩
  | finished image =>
    obtain rfl : printed = b.output := h.1
    exact ⟨List.prefix_refl _, fun _ => rfl⟩
  | threw ex =>
    obtain rfl : printed = b.output := h.1
    exact ⟨List.prefix_refl _, fun _ => rfl⟩

/-- The stages in which the client has stopped. -/
theorem client_stopped {c : Client} (h : (clientPlan S b).Inv c)
    (hs : Client.program S.contextFreed S.header S.clientData S.context c = .stop) :
    (b.exitCode = 0 → c = ⟨.finished b.container.bytes, b.output⟩) ∧
      (b.exitCode ≠ 0 →
        c = ⟨.threw (.runtimeError (ascii "Build failed with exit code " ++ signed b.exitCode)),
          b.output⟩) := by
  obtain ⟨stage, printed⟩ := c
  cases stage with
  | writeClientData => cases hs
  | writeContext w =>
    cases w with
    | content unread bytesRemaining csc =>
      rcases writeFile_stop (Act.map_eq_stop hs) with hw | ⟨ex, hw⟩ <;> cases hw
    | checksum csc => cases hs
    | returned => cases hs
    | threw ex => cases hs
  | streamBuild => cases hs
  | readExitCode exitCodeString => cases hs
  | readFile r => cases r <;> cases hs
  | finished image =>
    obtain ⟨hprinted, hzero, rfl⟩ := h
    obtain rfl : printed = b.output := hprinted
    exact ⟨fun _ => rfl, fun hne => absurd hzero hne⟩
  | threw ex =>
    obtain ⟨hprinted, hne, rfl⟩ := h
    obtain rfl : printed = b.output := hprinted
    exact ⟨fun hzero => absurd hzero hne, fun _ => rfl⟩

/-- The stages in which the builder has stopped. -/
theorem builder_stopped {t : BuilderStage} (h : (builderPlan S b).Inv t)
    (hs : Builder.program S.imageFreed S.header S.run t = .stop) :
    (b.exitCode = 0 → t = .finished) ∧
      (b.exitCode ≠ 0 → t = .threw (.runtimeError (ascii "Container build failed"))) := by
  cases t with
  | readClientData clientDataString => cases hs
  | readContext d r => cases r <;> cases hs
  | buildCommand d context =>
    unfold Builder.program at hs
    simp only at hs
    split at hs <;> cases hs
  | streamBuild b' reads =>
    obtain ⟨-, rest, rfl⟩ := h
    cases rest <;> cases hs
  | writeExitCode b' => cases hs
  | writeFile w =>
    cases w with
    | content unread bytesRemaining csc =>
      rcases writeFile_stop (Act.map_eq_stop hs) with hw | ⟨ex, hw⟩ <;> cases hw
    | checksum csc => cases hs
    | returned => cases hs
    | threw ex => cases hs
  | finished => exact ⟨fun _ => rfl, fun hne => absurd h hne⟩
  | threw ex =>
    obtain ⟨hne, rfl⟩ := h
    exact ⟨fun hzero => absurd hzero hne, fun _ => rfl⟩

/-- Where the builder writes, it has read everything. -/
theorem builder_write {t : BuilderStage} {m : Message} {f : Frame UInt8} {next : BuilderStage}
    (hs : Builder.program S.imageFreed S.header S.run t = .write m f next) :
    (builderPlan S b).toRead t = [] := by
  cases t with
  | readClientData clientDataString => cases hs
  | readContext d r => cases r <;> cases hs
  | buildCommand d context => rfl
  | streamBuild b' reads => rfl
  | writeExitCode b' => rfl
  | writeFile w => rfl
  | finished => rfl
  | threw ex => rfl

end

/-- **Client and builder agree on the session protocol**, if the destroyed texts of the checksums
still are what they were. For the data of every accepted command line, every context, and every build:
in every run of the two programs, whatever their order and whatever pieces they are given to read. -/
theorem session_agrees (S : Setup) {fs : Files} {d : ClientData}
    (hcheck : fs.checkInputFiles d = .ok S.clientData)
    (hintact : ∀ command, buildCommand S.clientData = .ok command →
      S.Intact (S.run command S.context.bytes)) :
    ∃ command, buildCommand S.clientData = .ok command ∧
      ∀ es s tr, S.session.Run Machine.always es s tr →
        Agrees S (S.run command S.context.bytes) es s tr := by
  obtain ⟨command, hcommand⟩ := buildCommand_specified (Files.checkInputFiles_specified hcheck)
  refine ⟨command, hcommand, fun es s tr hrun => ?_⟩
  replace hintact := hintact command hcommand
  generalize hb : S.run command S.context.bytes = b at hintact
  obtain ⟨hstep, hwork⟩ := run_inStep (matched hcommand hb hintact) hrun
  have hup := hstep.toRight
  have hdown := hstep.toLeft
  exact {
    not_waiting := fun m m' next next' hl hr =>
      hstep.not_both_waiting (client_speaksFirst hintact) hl hr
    uploaded := ⟨hup.got_prefix, ⟨_, hup.sent_eq⟩⟩
    downloaded := ⟨hdown.got_prefix, ⟨_, hdown.sent_eq⟩⟩
    builder_reads := by
      intro m next hs
      obtain ⟨rest, hrest⟩ := (builderScript hcommand hb hintact).reading hstep.right hs
      have hgot := hup.got_eq
      rw [hrest, ← List.append_assoc] at hgot
      exact ⟨rest, hgot⟩
    client_reads := by
      intro m next hs
      obtain ⟨rest, hrest⟩ := (clientScript hintact).reading hstep.left hs
      have hgot := hdown.got_eq
      rw [hrest, ← List.append_assoc] at hgot
      exact ⟨rest, hgot⟩
    builder_writes := by
      intro m f next hs
      have hflow := hup
      rw [show (builderScript hcommand hb hintact).toRead s.right = [] from builder_write hs] at hflow
      exact hflow.all_got
    builder_stops := by
      intro hs
      have hflow := hup
      rw [((builderScript hcommand hb hintact).stopped hstep.right hs).2] at hflow
      exact hflow.all_got
    client_stops := by
      intro hs
      have hflow := hdown
      rw [((clientScript hintact).stopped hstep.left hs).2] at hflow
      exact hflow.all_got
    received := by
      intro d context hs
      have hinv := hstep.right
      rw [hs] at hinv
      exact hinv
    builder_throws := by
      intro ex hs
      have hinv := hstep.right
      rw [hs] at hinv
      exact hinv
    client_throws := by
      intro ex hs
      have hinv := hstep.left
      obtain ⟨⟨stage, printed⟩, t, toRight, toLeft⟩ := s
      obtain rfl : stage = .threw ex := hs
      exact hinv.2
    printed := clientPlan_printed hstep.left
    image := by
      intro image hs
      have hinv := hstep.left
      obtain ⟨⟨stage, printed⟩, t, toRight, toLeft⟩ := s
      obtain rfl : stage = .finished image := hs
      exact hinv.2
    bounded := Nat.le_trans (Nat.le_add_right ..) hwork
    finishes := by
      intro hstuck
      obtain ⟨hl, hr⟩ := hstep.stuck_stopped (client_speaksFirst hintact) hstuck
      obtain ⟨hl1, hl2⟩ := client_stopped hstep.left hl
      obtain ⟨hr1, hr2⟩ := builder_stopped hstep.right hr
      exact ⟨fun hz => ⟨hl1 hz, hr1 hz⟩, fun hne => ⟨hl2 hne, hr2 hne⟩⟩ }

/-- A build that prints `hi` and leaves a container of one byte, the checksum of which is sent from
the memory `imageFreed`. -/
def sampleSetup (imageFreed : Freed) : Setup where
  header := ascii "22 serialization::archive 16 0 0"
  clientData := ⟨ascii "me", false, false, .info, .x86_64, .docker, false, ascii "c.img",
    ascii "c.def", ascii "queue"⟩
  context := ⟨[1], by decide⟩
  run _ _ := ⟨[[104, 105]], 0, ⟨[9], by decide⟩⟩
  contextFreed := .intact
  imageFreed := imageFreed

theorem sample_accepted (imageFreed : Freed) :
    Files.checkInputFiles ⟨fun p => p == ascii "c.def", fun _ => ascii "FROM x"⟩
      { (sampleSetup imageFreed).clientData with backend := .unspecified } =
        .ok (sampleSetup imageFreed).clientData := rfl

/-- The session of `sampleSetup`, its output in two pieces, up to the checksum `sum`. -/
def sampleEvents (sum : Bytes) : List (SessionEvent UInt8) :=
  let write := List.replicate 4 (.left .act)
  let read := [
    .right (.arrive ⟨true, (sampleSetup .intact).body ⟨[], 0, ⟨[], by decide⟩⟩ .clientData⟩),
    .right (.arrive ⟨true, [1]⟩),
    .right (.arrive ⟨true, checksumText [1]⟩)]
  let build := List.replicate 8 (.right .act)
  let receive := [
    .left (.arrive ⟨false, [104]⟩),
    .left (.arrive ⟨true, [105]⟩),
    .left (.arrive ⟨true, ascii "0"⟩),
    .left (.arrive ⟨true, [9]⟩),
    .left (.arrive ⟨true, sum⟩),
    .left .act]
  write ++ read ++ build ++ receive

theorem session_agrees_run : ∃ es s tr, (sampleSetup .intact).session.Run Machine.always es s tr ∧
    s.left = ⟨.finished [9], ascii "hi"⟩ ∧ ∃ command, Agrees (sampleSetup .intact)
      ((sampleSetup .intact).run command (sampleSetup .intact).context.bytes) es s tr := by
  have hexec : ((sampleSetup .intact).session.exec (fun _ _ => true)
      (sampleEvents (checksumText [9]))).map (fun r => r.1.left) =
        some ⟨.finished [9], ascii "hi"⟩ := by decide +kernel
  obtain ⟨⟨s, tr⟩, hr, hs⟩ := Option.map_eq_some_iff.1 hexec
  have hrun : (sampleSetup .intact).session.Run Machine.always (sampleEvents (checksumText [9])) s
      tr := Machine.exec_run (fun _ _ _ => trivial) _ hr
  have hintact : ∀ command, buildCommand (sampleSetup .intact).clientData = .ok command →
      (sampleSetup .intact).Intact
        ((sampleSetup .intact).run command (sampleSetup .intact).context.bytes) :=
    fun _ _ => ⟨Freed.intact_bytes _, fun _ => Freed.intact_bytes _⟩
  obtain ⟨command, -, hagrees⟩ :=
    session_agrees (sampleSetup .intact) (sample_accepted .intact) hintact
  exact ⟨_, s, tr, hrun, hs, command, hagrees _ _ _ hrun⟩

/-- The data is that of an accepted command line, the build of a container has returned 0 and the
container has arrived, but the memory of its checksum had been cleared: `read_file` of the client
throws. -/
theorem cleared_checksum_ends_session :
    (∃ (fs : Files) (d : ClientData),
      fs.checkInputFiles d = .ok (sampleSetup .cleared).clientData) ∧
    ∃ es s tr, (sampleSetup .cleared).session.Run Machine.always es s tr ∧
      s.left.stage = .threw (checksumsDoNotMatch (ascii "c.img")) ∧
      ∀ command, ((sampleSetup .cleared).run command [1]).exitCode = 0 ∧
        ¬ Agrees (sampleSetup .cleared) ((sampleSetup .cleared).run command [1]) es s tr := by
  have hexec : ((sampleSetup .cleared).session.exec (fun _ _ => true)
      (sampleEvents (Freed.cleared.bytes (checksumText [9])))).map (fun r => r.1.left.stage) =
        some (.threw (checksumsDoNotMatch (ascii "c.img"))) := by decide +kernel
  obtain ⟨⟨s, tr⟩, hr, hs⟩ := Option.map_eq_some_iff.1 hexec
  refine ⟨⟨_, _, sample_accepted .cleared⟩, _, s, tr,
    Machine.exec_run (fun _ _ _ => trivial) _ hr, hs, fun command => ⟨rfl, ?_⟩⟩
  intro hagrees
  exact (hagrees.client_throws _ hs).1 rfl

end ContainerBuilder
