import ContainerBuilder.Builder.Backend
import ContainerBuilder.Session.Build

/-!
# From the user's files to the image

`image_built` says which build the image comes from, `backend_yields` what a build that has
succeeded has made. Together: what a user gets is what docker and singularity make of the user's
own files (`image_made`). The definition file is among them, unless an `mv` on the builder fails and
the user has sent a `Dockerfile` too.
-/

namespace ContainerBuilder

open Lib

variable {Image : Type}

/-- A shell in the directory of a process, with its files. -/
structure Shell.At (s : Shell Image) (process : Process) : Prop where
  currentPath : s.currentPath = process.currentPath
  disk : s.vm.disk = process.disk

/-- The child process that this builder launches is the script that its command names, on a machine
where nothing has been built. -/
def BuilderCalls.RunsScripts (b : BuilderCalls) (t : BackendTools Image) (y₀ : BuilderMain) :
    Prop :=
  ∀ y c, Begins (BuilderStep.call b) builderSteps y₀ .streamBuild y →
    launched t y.buildString = some c →
      ∃ s status s', s.Fresh ∧ s.At y.process ∧ Ends c s status s' ∧
        (b.build y.buildString y.process).exitCode = status ∧
        (b.build y.buildString y.process).disk = s'.vm.disk

theorem contextTree_definition (clientData : ClientData) (s : Process) (definition : Bytes) :
    (contextTree clientData s definition).lookup [definitionName] = some (.file definition) := by
  rw [contextTree, Tree.lookup_set, if_pos rfl]

/-- A command that the client's data can make has a script. -/
theorem launched_isSome {t : BackendTools Image} {d : ClientData} {command : Bytes}
    (h : buildCommand d = .ok command) : ∃ c, launched t command = some c := by
  rw [launched_buildCommand h]
  cases hbackend : d.backend with
  | docker => exact ⟨_, rfl⟩
  | singularity => exact ⟨_, rfl⟩
  | unspecified => simp [buildCommand, hbackend] at h

/-- **What the user gets is made of the user's files.** Whatever fails on either side, in the
scripts and between them: if the client has read an image, it is what docker and singularity, or
singularity alone, make of the client's definition file in the client's context; or, where `mv`
fails on the builder, what docker and singularity make of the `Dockerfile` in that context. -/
theorem image_made {m : MainCalls} {x₀ x x' : ClientMain} {b : BuilderCalls} {y₀ : BuilderMain}
    {t : BackendTools Image} {w : Builds Image}
    (hheader : m.header = b.header) (hentry : m.context.OnEntry x.clientData x₀.process)
    (htar : ∀ tree file, m.context.tar tree = .ok file → b.unpack.tar file.bytes = .ok tree)
    (hfresh : ∀ p, y₀.process.currentPath ++ [contextName] <+: p → y₀.process.disk.lookup p = none)
    (hd : t.Documented w) (hscripts : b.RunsScripts t y₀)
    (hconnected : Connected m x₀ x b y₀) (h : ImageRead m x₀ x x') :
    ∃ definition image,
      x₀.process.disk.lookup
        (m.context.resolve x₀.process.currentPath x.clientData.definitionPath) =
          some (.file definition) ∧
      w.Yields t (contextTree x.clientData x₀.process definition) definition image
        x.clientData.backend ∧
      x'.process.fileAt (Client.containerPath m x') = some image := by
  obtain ⟨y, image, clientDataString, bytes, hbegins, hready, hsucceeds, hcontainer, himage⟩ :=
    h.built hconnected
  obtain ⟨hdata, definition, hreadable, hcontext⟩ :=
    hready.of_client h.served.context hconnected hheader hentry htar hfresh
  have hcommand := hready.command
  rw [hdata] at hcommand
  obtain ⟨c, hc⟩ := launched_isSome (t := t) hcommand
  obtain ⟨s, status, s', hs, hat, hends, hstatus, hdisk⟩ := hscripts y c hbegins hc
  -- the script has ended with 0, in the context of the client
  obtain rfl : status = 0 := by
    have hzero := hsucceeds.2
    omega
  have htree : s.context = contextTree x.clientData x₀.process definition := by
    rw [Shell.context, hat.disk, hat.currentPath, hcontext]
  have hdef : s.context.lookup [definitionName] = some (.file definition) := by
    rw [htree, contextTree_definition]
  obtain ⟨file, hyields, hwritten⟩ := backend_yields hd hcommand hc hs hdef hends
  rw [← hdisk, hat.currentPath] at hwritten
  obtain rfl : image = file := by
    have hsame : some (Node.file image) = some (Node.file file) := hcontainer.symm.trans hwritten
    cases hsame
    rfl
  exact ⟨definition, image, hreadable, htree ▸ hyields, himage⟩

/-! ## The build of a `Dockerfile` -/

/-- The state in which the builder of the sample begins its build. -/
def sampleBuilding : BuilderMain :=
  (exec (inOrder (BuilderStep.call sampleBuilder) beforeBuild) sampleBuilderStart).2

theorem freshShell_at (s : Process) : (freshShell s).At s := ⟨rfl, rfl⟩

theorem sample_begins {y : BuilderMain}
    (h : Begins (BuilderStep.call sampleBuilder) builderSteps sampleBuilderStart .streamBuild y) :
    y = sampleBuilding := by
  have hbefore : Begins (BuilderStep.call sampleBuilder)
      (beforeBuild ++ .streamBuild :: [.writeFile]) sampleBuilderStart .streamBuild y := h
  have hreturns : exec _ _ = _ := returns_of_begins (by decide) (by decide) hbefore
  rw [sampleBuilding, hreturns]

theorem sample_runsScripts : sampleBuilder.RunsScripts sampleTools sampleBuilderStart := by
  intro y c hbegins hc
  rw [sample_begins hbegins] at hc ⊢
  have hcommand : buildCommand (buildOf sampleName true) = .ok sampleBuilding.buildString := by
    decide +kernel
  rw [launched_buildCommand hcommand] at hc
  obtain rfl := Option.some.inj hc
  refine ⟨freshShell sampleBuilding.process, _, _, freshShell_fresh _, freshShell_at _,
    ends_result _ _, ?_, ?_⟩
  · decide +kernel
  · decide +kernel

/-- The image of one byte is what singularity makes of the user's `Dockerfile`. -/
theorem image_made_sample : ∃ definition image,
    (homeProcess sampleName).disk.lookup (homeDirectory ++ [sampleName]) =
        some (.file definition) ∧
      sampleBuilds.Yields sampleTools
        (contextTree (buildOf sampleName true) (homeProcess sampleName) definition)
        definition image .docker ∧
      sampleAfter.process.fileAt (Client.containerPath sampleCalls sampleAfter) = some image :=
  image_made rfl (home_onEntry _ _ _) (one_noFailures _).tar (fun _ hp => fresh_context hp)
    sampleTools_documented sample_runsScripts sample_connected sample_image_read

end ContainerBuilder
