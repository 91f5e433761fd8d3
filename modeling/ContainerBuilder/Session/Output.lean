import ContainerBuilder.Session.Build

/-!
# What the client shows of a build

`stream_build` of the client prints what it reads and then says how the build has ended. It does not
look at the errors of its reads, and the connection may break at any of them. Even so, what has been
printed at any moment is the beginning of what the client's own build has written to its pipe; and
once there is a verdict on the build, all of it has been printed and the verdict is that of its exit
code (`output_shown`).

| here | there |
| --- | --- |
| `ClientRelay.after` | `stream_build` of the client (`Client/src/main.cpp:218-237`) after reads |
| `ClientRelay.Tells` | what it has printed, and how it ends |
-/

namespace ContainerBuilder

open Lib

namespace ClientRelay

def readAll (r : ClientRelay) (as : List Arrival) : ClientRelay :=
  as.foldl (fun r a => r.step a.read) r

/-- Where `stream_build` is after the reads `as`. -/
def after (done : Bool) (as : List Arrival) : ClientRelay := (start done).readAll as

@[simp] theorem readAll_nil (r : ClientRelay) : r.readAll [] = r := rfl

@[simp] theorem readAll_cons (r : ClientRelay) (a : Arrival) (as : List Arrival) :
    r.readAll (a :: as) = (r.step a.read).readAll as := rfl

/-- This is right for a build with this output and exit code. There is a verdict only when all of the
output has been printed; a failing read may end the function before. -/
inductive Tells (output : Bytes) (exitCode : Int) : ClientRelay → Prop
  | streaming {printed : Bytes} {done : Bool} : printed <+: output →
    Tells output exitCode (.streaming printed done)
  | readExitCode {printed exitCodeString : Bytes} : printed <+: output →
    Tells output exitCode (.readExitCode printed exitCodeString)
  | returned : exitCode = 0 → Tells output exitCode (.returned output)
  | failed : exitCode ≠ 0 → Tells output exitCode (.threw output (.exception
    (.runtimeError (ascii "Build failed with exit code " ++ Decimal.signed exitCode))))
  | broken {printed : Bytes} {value : Nat} : printed <+: output →
    Tells output exitCode (.threw printed (.systemError value))

/-- Nothing has been printed, and there is no verdict. -/
def Silent : ClientRelay → Prop
  | .streaming printed _ => printed = []
  | .readExitCode printed _ => printed = []
  | .returned _ => False
  | .threw printed ex => printed = [] ∧ ∃ value, ex = .systemError value

/-- What is right for every build says nothing. -/
theorem silent_of_tells {r : ClientRelay} (h : ∀ output exitCode, r.Tells output exitCode) :
    r.Silent := by
  cases r with
  | streaming printed done =>
    obtain ⟨hprinted⟩ := h [] 0
    exact List.prefix_nil.1 hprinted
  | readExitCode printed exitCodeString =>
    obtain - | hprinted := h [] 0
    exact List.prefix_nil.1 hprinted
  | returned printed =>
    cases h printed 1 with
    | returned hone => cases hone
  | threw printed ex =>
    cases ex with
    | exception ex =>
      cases h printed 0 with
      | failed hzero => exact absurd rfl hzero
    | systemError value =>
      cases h [] 0 with
      | broken hprinted => exact ⟨List.prefix_nil.1 hprinted, value, rfl⟩
    | filesystemError value => cases h [] 0

variable {output : Bytes} {exitCode : Int} {rest : List (Token UInt8)}

theorem Tells.step_error {r : ClientRelay} (h : r.Tells output exitCode) (value : Nat) :
    (r.step (.error value)).Tells output exitCode := by
  cases h with
  | @streaming printed done hprinted =>
    cases done with
    | false => simpa [step, ReadSome.bytes, ReadSome.isMessageDone] using Tells.streaming hprinted
    | true => simpa [step, ReadSome.bytes, ReadSome.isMessageDone] using Tells.readExitCode hprinted
  | readExitCode hprinted => exact .broken hprinted
  | returned hzero => exact .returned hzero
  | failed hzero => exact .failed hzero
  | broken hprinted => exact .broken hprinted

theorem Tells.readAll_broken {r : ClientRelay} (h : r.Tells output exitCode) {as : List Arrival}
    (has : ∀ a ∈ as, Arrival.frame a = none) : (r.readAll as).Tells output exitCode := by
  induction as generalizing r with
  | nil => exact h
  | cons a as ih =>
    obtain ⟨ha, hlater⟩ := List.forall_mem_cons.1 has
    cases a with
    | piece p failed => cases ha
    | readError value kept => exact ih (h.step_error value) hlater

/-- `ts` is to come, of the rest of the output, the exit code and what follows it. -/
def Awaits (output : Bytes) (exitCode : Int) (rest : List (Token UInt8)) :
    ClientRelay → List (Token UInt8) → Prop
  | .streaming printed _, ts => ∃ bs, output = printed ++ bs ∧
    ts <+: message bs ++ (message (Decimal.signed exitCode) ++ rest)
  | .readExitCode printed exitCodeString, ts => printed = output ∧
    ∃ bs, Decimal.signed exitCode = exitCodeString ++ bs ∧ ts <+: message bs ++ rest
  | r, _ => r.Tells output exitCode

theorem Awaits.tells {r : ClientRelay} {ts : List (Token UInt8)}
    (h : r.Awaits output exitCode rest ts) : r.Tells output exitCode := by
  cases r with
  | streaming printed done =>
    obtain ⟨bs, rfl, -⟩ := h
    exact .streaming (List.prefix_append ..)
  | readExitCode printed exitCodeString =>
    obtain ⟨rfl, -⟩ := h
    exact .readExitCode (List.prefix_refl _)
  | returned printed => exact h
  | threw printed ex => exact h

/-- The verdict is right whatever follows. -/
theorem awaits_checkExitCode (ts : List (Token UInt8)) :
    (checkExitCode output (Decimal.signed exitCode)).Awaits output exitCode rest ts := by
  have hzero : ascii "0" = Decimal.signed 0 := by decide
  unfold checkExitCode Client.checkExitCode
  by_cases hn : exitCode = 0
  · subst hn
    simpa [hzero, Awaits] using Tells.returned rfl
  · have hne : Decimal.signed exitCode ≠ Decimal.signed 0 :=
      fun he => hn (Decimal.signed_eq_zero.1 he)
    simpa [hzero, hne, Awaits] using Tells.failed hn

theorem Awaits.step_piece {r : ClientRelay} {p : Frame UInt8} {ts : List (Token UInt8)}
    (h : r.Awaits output exitCode rest (p.tokens ++ ts)) :
    (r.step (.piece p)).Awaits output exitCode rest ts := by
  cases r with
  | streaming printed done =>
    obtain ⟨bs, rfl, hts⟩ := h
    rcases tokens_append_prefix_message hts with ⟨hfin, cs, rfl, hrest⟩ | ⟨hfin, rfl, hrest⟩
    · have hstep : step (.streaming printed done) (.piece p) =
          .streaming (printed ++ p.payload) false := by
        simp [step, ReadSome.bytes, ReadSome.isMessageDone, hfin]
      rw [hstep]
      exact ⟨cs, (List.append_assoc ..).symm, hrest⟩
    · have hstep : step (.streaming printed done) (.piece p) =
          .readExitCode (printed ++ p.payload) [] := by
        simp [step, ReadSome.bytes, ReadSome.isMessageDone, hfin]
      rw [hstep]
      exact ⟨rfl, _, rfl, hrest⟩
  | readExitCode printed exitCodeString =>
    obtain ⟨rfl, bs, hcode, hts⟩ := h
    rcases tokens_append_prefix_message hts with ⟨hfin, cs, rfl, hrest⟩ | ⟨hfin, rfl, hrest⟩
    · have hstep : step (.readExitCode printed exitCodeString) (.piece p) =
          .readExitCode printed (exitCodeString ++ p.payload) := by
        simp [step, hfin]
      rw [hstep]
      exact ⟨rfl, cs, by rw [hcode, List.append_assoc], hrest⟩
    · have hstep : step (.readExitCode printed exitCodeString) (.piece p) =
          checkExitCode printed (Decimal.signed exitCode) := by
        simp [step, hfin, hcode]
      rw [hstep]
      exact awaits_checkExitCode ts
  | returned printed => exact h
  | threw printed ex => exact h

/-- **What is shown is right** after any of the reads, if what is sent is the output of the build,
its exit code and more, as far as the builder gets with it. -/
theorem Awaits.tells_readAll {r : ClientRelay} {ts : List (Token UInt8)} {as bs : List Arrival}
    (hd : Delivers Arrival.frame ts as) (h : r.Awaits output exitCode rest ts) (hbs : bs <+: as) :
    (r.readAll bs).Tells output exitCode := by
  induction hd generalizing r bs with
  | breaks hnone => exact h.tells.readAll_broken fun a ha => hnone a (hbs.subset ha)
  | @piece a p ts as ha hd ih =>
    cases bs with
    | nil => exact h.tells
    | cons b bs =>
      obtain ⟨rfl, hlater⟩ := List.cons_prefix_cons.1 hbs
      cases b with
      | readError value kept => cases ha
      | piece q failed =>
        obtain rfl : q = p := Option.some.inj ha
        rw [readAll_cons]
        exact ih h.step_piece hlater

/-- The function that `relay` models returns where `after` does. -/
theorem relay_readAll {r : ClientRelay} {as as' : List Arrival} (h : relay r as = .ok as') :
    ∃ bs printed, as = bs ++ as' ∧ r.readAll bs = .returned printed := by
  induction as generalizing r with
  | nil =>
    cases r with
    | returned printed =>
      cases h
      exact ⟨[], printed, rfl, rfl⟩
    | streaming printed done => cases h
    | readExitCode printed exitCodeString => cases h
    | threw printed ex => cases h
  | cons a as ih =>
    cases r with
    | returned printed =>
      cases h
      exact ⟨[], printed, rfl, rfl⟩
    | threw printed ex => cases h
    | streaming printed done =>
      obtain ⟨bs, shown, rfl, hbs⟩ := ih h
      exact ⟨a :: bs, shown, rfl, hbs⟩
    | readExitCode printed exitCodeString =>
      obtain ⟨bs, shown, rfl, hbs⟩ := ih h
      exact ⟨a :: bs, shown, rfl, hbs⟩

end ClientRelay

section
variable {m : MainCalls} {x₀ x : ClientMain} {b : BuilderCalls} {y₀ : BuilderMain}

/-- What is sent of a build begins with its output and its exit code. -/
theorem messages_output {y : BuilderMain} {us : List (Token UInt8)} (hne : us ≠ [])
    (hus : us <+: y.messages b) :
    (b.build y.buildString y.process).launchError = none ∧ ∃ rest,
      us <+: message (pipeOutput (b.build y.buildString y.process).reads) ++
        (message (Decimal.signed (b.build y.buildString y.process).exitCode) ++ rest) := by
  unfold BuilderMain.messages BuildRun.messages at hus
  cases hlaunch : (b.build y.buildString y.process).launchError with
  | some value =>
    have hfails : ¬ (b.build y.buildString y.process).Succeeds := by
      simp [BuildRun.Succeeds, hlaunch]
    simp only [hlaunch, hfails, if_false, List.append_nil, List.prefix_nil] at hus
    exact absurd hus hne
  | none =>
    simp only [hlaunch, List.append_assoc] at hus
    exact ⟨rfl, _, hus⟩

/-- The build that begins in `y` is that of the client's own data, in the client's own context. -/
structure OwnBuild (m : MainCalls) (x₀ x : ClientMain) (b : BuilderCalls) (y₀ y : BuilderMain) :
    Prop where
  begins : Begins (BuilderStep.call b) builderSteps y₀ .streamBuild y
  command : buildCommand x.clientData = .ok y.buildString
  context : ∃ definition,
    x₀.process.disk.lookup
      (m.context.resolve x₀.process.currentPath x.clientData.definitionPath) =
        some (.file definition) ∧
    y.process.disk.subtree y.process.currentPath =
      contextTree x.clientData x₀.process definition

theorem Connected.shown (hconnected : Connected m x₀ x b y₀) (hheader : m.header = b.header)
    (hentry : m.context.OnEntry x.clientData x₀.process)
    (htar : ∀ tree file, m.context.tar tree = .ok file → b.unpack.tar file.bytes = .ok tree)
    (hfresh : ∀ p, y₀.process.currentPath ++ [contextName] <+: p → y₀.process.disk.lookup p = none)
    (hcontext : Returns (Client.writeContext m.context x.clientData) x₀.process () x.process)
    {as : List Arrival} (has : as <+: x₀.arrivals) :
    (ClientRelay.after m.messageDone as).Silent ∨
      ∃ y, OwnBuild m x₀ x b y₀ y ∧
        (b.build y.buildString y.process).launchError = none ∧
        (ClientRelay.after m.messageDone as).Tells
          (pipeOutput (b.build y.buildString y.process).reads)
          (b.build y.buildString y.process).exitCode := by
  obtain ⟨us, hsent, hus⟩ := sends_main b y₀
  have htoClient := hconnected.toClient
  rw [Builder.sent, hsent, List.drop_left] at htoClient
  by_cases hne : us = []
  · -- where nothing is sent, this is the beginning of every output
    subst hne
    refine .inl (ClientRelay.silent_of_tells fun output exitCode => ?_)
    have hstart : (ClientRelay.start m.messageDone).Awaits output exitCode [] [] :=
      ⟨output, rfl, List.nil_prefix⟩
    exact hstart.tells_readAll htoClient has
  · obtain ⟨y, hbegins, hprefix⟩ := hus.resolve_left hne
    obtain ⟨hlaunch, rest, hrest⟩ := messages_output hne hprefix
    obtain ⟨clientDataString, bytes, hready⟩ := ready_of_begins b hbegins
    obtain ⟨hdata, hown⟩ := hready.of_client hcontext hconnected hheader hentry htar hfresh
    have hcommand := hready.command
    rw [hdata] at hcommand
    have hstart : (ClientRelay.start m.messageDone).Awaits _ _ rest us := ⟨_, rfl, hrest⟩
    exact .inr ⟨y, ⟨hbegins, hcommand, hown⟩, hlaunch, hstart.tells_readAll htoClient has⟩

end

/-- **What the user sees is right.** Whatever fails on either side and wherever the connection
breaks: after any of the reads of `stream_build` either nothing has been shown, or the builder has
launched the client's own build and what has been printed and thrown is right for it. If the
function returns, that build has succeeded and its whole output has been printed. -/
theorem output_shown {m : MainCalls} {x₀ x : ClientMain} {b : BuilderCalls} {y₀ : BuilderMain}
    (hheader : m.header = b.header) (hentry : m.context.OnEntry x.clientData x₀.process)
    (htar : ∀ tree file, m.context.tar tree = .ok file → b.unpack.tar file.bytes = .ok tree)
    (hfresh : ∀ p, y₀.process.currentPath ++ [contextName] <+: p → y₀.process.disk.lookup p = none)
    (hconnected : Connected m x₀ x b y₀) (h : Begins m.run trySteps x₀ .streamBuild x) :
    (∀ as, as <+: x.arrivals → (ClientRelay.after m.messageDone as).Silent ∨
      ∃ y, OwnBuild m x₀ x b y₀ y ∧
        (b.build y.buildString y.process).launchError = none ∧
        (ClientRelay.after m.messageDone as).Tells
          (pipeOutput (b.build y.buildString y.process).reads)
          (b.build y.buildString y.process).exitCode) ∧
    ∀ x', Returns (m.run .streamBuild) x () x' →
      ∃ y as, OwnBuild m x₀ x b y₀ y ∧
        (b.build y.buildString y.process).Succeeds ∧ x.arrivals = as ++ x'.arrivals ∧
        ClientRelay.after m.messageDone as =
          .returned (pipeOutput (b.build y.buildString y.process).reads) := by
  obtain ⟨hcontext, harrivals⟩ := context_of_begins h
  rw [harrivals]
  have hshown := fun as (has : as <+: x₀.arrivals) =>
    hconnected.shown hheader hentry htar hfresh hcontext has
  refine ⟨hshown, fun x' hr => ?_⟩
  obtain ⟨as', hrelay, rfl⟩ := returns_streamBuild (returns_run.1 hr).2
  rw [harrivals] at hrelay
  obtain ⟨as, printed, has, hreturned⟩ := ClientRelay.relay_readAll hrelay
  have hafter : ClientRelay.after m.messageDone as = .returned printed := hreturned
  rcases hshown as ⟨as', has.symm⟩ with hsilent | ⟨y, hown, hlaunch, htells⟩
  · rw [hafter] at hsilent
    exact hsilent.elim
  · rw [hafter] at htells
    cases htells with
    | returned hzero => exact ⟨y, as, hown, ⟨hlaunch, hzero⟩, has, hafter⟩

/-- The two bytes of output of the sample, in two pieces. -/
theorem output_shown_sample : ∃ y as,
    OwnBuild sampleCalls sampleStart sampleStreaming sampleBuilder sampleBuilderStart y ∧
      (sampleBuilder.build y.buildString y.process).Succeeds ∧
      sampleArrivals = as ++ sampleBefore.arrivals ∧
      ClientRelay.after true as =
        .returned (pipeOutput (sampleBuilder.build y.buildString y.process).reads) := by
  have hbegins : Begins sampleCalls.run
      (beforeContext ++ [MainStep.writeContext] ++ MainStep.streamBuild ::
        [MainStep.wait .waitImage, MainStep.readFile]) sampleStart .streamBuild sampleStreaming := begins_append sample_context
  have hconnected : Connected sampleCalls sampleStart sampleStreaming sampleBuilder
      sampleBuilderStart := ⟨sample_connected.toBuilder, sample_connected.toClient⟩
  exact (output_shown rfl (home_onEntry _ _ _) (one_noFailures _).tar
    (fun _ hp => fresh_context hp) hconnected hbegins).2 sampleBefore sample_stream

end ContainerBuilder
