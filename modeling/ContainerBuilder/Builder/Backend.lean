import ContainerBuilder.Builder.Main
import ContainerBuilder.Lib.ShellScript

/-!
# The scripts that build (`Builder/scripts`)

The command of a builder is one of two shell scripts, run under `sudo` in the unpacked context. The
singularity script builds `container.def` as it stands. The docker script makes a `Dockerfile` of
it, builds that with docker, pushes the image to a registry that it starts for this, and has
singularity build the container from there. Few of the commands are checked. `docker_yields` and
`singularity_yields` say that all the same a script ends with 0 only if `container.simg` has been
made of the context: a push that has failed leaves nothing in the registry of a fresh machine. What
gets through is an `mv` that has failed in a context with a `Dockerfile` of its own: docker builds
that one.

| here | there |
| --- | --- |
| `Backend.parseArguments`  | `for i in "$@"` (both scripts, lines 6-22) |
| `Backend.whenFound`       | `grep`, and what depends on `GREP_RC` |
| `dockerBackend`           | `docker-builder-backend.sh` |
| `singularityBackend`      | `singularity-builder-backend.sh` |
| `launched`                | `bp::child(build_command, ...)` (`Builder/src/main.cpp:116`) |

The commands are given by `BackendTools.run`; `Documented` says what is taken of them. What else the
scripts inherit than the variables that they or `environment.sh` name is part of the commands.
-/

namespace ContainerBuilder

open Lib

variable {Image : Type}

/-- The value of a variable. It has none of the characters of a pattern, `*`, `?` and `[`, so that
unquoted it is split into words and no more. -/
structure Value where
  text : Bytes
  plain : ∀ b ∈ text, b ≠ 42 ∧ b ≠ 63 ∧ b ≠ 91

def Value.empty : Value := ⟨[], nofun⟩

abbrev Variables := Bytes → Option Value

/-- What the commands of a builder work on: its files, docker's images, and what the registry on the
machine has under a name. -/
structure BuilderVm (Image : Type) where
  disk : Disk
  images : Bytes → Option Image
  registry : Bytes → Option Image

/-- How a command ends, and what it has printed. -/
structure CommandRun (Image : Type) where
  status : Nat
  output : Bytes
  vm : BuilderVm Image

structure BackendTools (Image : Type) where
  /-- The variables that `environment.sh` sets. -/
  environmentSh : List (Bytes × Value)
  /-- The command of these words, in a directory and an environment. -/
  run : Path → Variables → List Bytes → BuilderVm Image → CommandRun Image

/-- A shell that runs a script. -/
structure Shell (Image : Type) where
  currentPath : Path
  values : Variables
  /-- The variables that are exported. -/
  environment : Variables
  vm : BuilderVm Image
  /-- What has been written to the pipe. -/
  output : Bytes

namespace Shell

/-- An assignment; an exported variable stays so. -/
def set (s : Shell Image) (name : Bytes) (value : Value) : Shell Image :=
  { s with
    values := fun n => if n = name then some value else s.values n
    environment := fun n =>
      if n = name then (s.environment n).map fun _ => value else s.environment n }

/-- `export` with an assignment. -/
def export_ (s : Shell Image) (name : Bytes) (value : Value) : Shell Image :=
  { s with
    values := fun n => if n = name then some value else s.values n
    environment := fun n => if n = name then some value else s.environment n }

/-- The tree of the current directory. -/
def context (s : Shell Image) : Disk := s.vm.disk.subtree s.currentPath

end Shell

abbrev Backend (Image α : Type) := ShellScript (Shell Image) α

/-! ## Words -/

/-- The words of a line, between blanks. -/
def words (line : Bytes) : List Bytes := (line.splitOn 32).filter (· ≠ [])

/-- The words that the value of an unquoted variable is split into, with the `IFS` a shell starts with. -/
def fields (value : Value) : List Bytes :=
  (value.text.splitOnP fun b => b == 32 || b == 9 || b == 10).filter (· ≠ [])

def debugFlagName : Bytes := ascii "DEBUG_FLAG"
def ttyName : Bytes := ascii "TTY"
def debugValue : Value := ⟨ascii "--debug", by decide +kernel⟩
def unbufferPath : Bytes := ascii "/usr/bin/unbuffer"
def unbufferValue : Value := ⟨unbufferPath, by decide +kernel⟩
def dockerPath : Bytes := ascii "/usr/bin/docker"
def singularityPath : Bytes := ascii "/usr/local/bin/singularity"
def dockerScript : Bytes := ascii "/usr/local/bin/docker-builder-backend.sh"
def singularityScript : Bytes := ascii "/usr/local/bin/singularity-builder-backend.sh"
def singularityCachedir : Value := ⟨ascii "/home/builder/.singularity", by decide +kernel⟩
def dockerfileName : Bytes := ascii "Dockerfile"
/-- The image of the docker script, at its registry. -/
def dockerImage : Bytes := ascii "localhost:5000/docker_image:latest"

/-! ## What the scripts have in common -/

namespace Backend

def echo (text : Bytes) : Backend Image Unit :=
  assign fun s => { s with output := s.output ++ text ++ [10] }

def setVariable (name : Bytes) (value : Value) : Backend Image Unit :=
  assign fun s => s.set name value

def exportVariable (name : Bytes) (value : Value) : Backend Image Unit :=
  assign fun s => s.export_ name value

/-- `${name}`, unquoted -/
def expand (name : Bytes) : Backend Image (List Bytes) :=
  call fun s => (.ok (((s.values name).map fields).getD []), s)

/-- `! -z ${name+x}` -/
def isSet (name : Bytes) : Backend Image Bool :=
  call fun s => (.ok (s.values name).isSome, s)

/-- `export name=${value}` -/
def exportOf (name value : Bytes) : Backend Image Unit :=
  assign fun s => s.export_ name ((s.values value).getD .empty)

/-- A command; `shown` says whether its output goes to the pipe or to `/dev/null`. -/
def run (t : BackendTools Image) (shown : Bool) (line : List Bytes) : Backend Image Nat :=
  simple fun s =>
    let r := t.run s.currentPath s.environment line s.vm
    (r.status, { s with vm := r.vm, output := if shown then s.output ++ r.output else s.output })

/-- `source /home/builder/environment.sh` -/
def source (t : BackendTools Image) : Backend Image Unit :=
  assign fun s => t.environmentSh.foldl (fun s v => s.set v.1 v.2) s

def parseArgument (i : Bytes) : Backend Image Unit :=
  if i = ascii "--debug" then setVariable debugFlagName debugValue
  else if i = ascii "--tty" then setVariable ttyName unbufferValue
  else do
    echo (ascii "unknown argument to singularity-builder-backend.sh")
    exit 1

def parseArguments : List Bytes → Backend Image Unit
  | [] => pure ()
  | i :: args => do
    parseArgument i
    parseArguments args

/-- `c`, if a line of `container.def` matches. -/
def whenFound (t : BackendTools Image) (pattern : Bytes) (c : Backend Image Unit) :
    Backend Image Unit := do
  let grepRc ← run t true [ascii "grep", pattern, ascii "./container.def"]
  if grepRc = 0 then c else pure ()

end Backend

open Backend

/-! ## `docker-builder-backend.sh` -/

/-- `docker login`, at the default registry if `registry` is empty. -/
def dockerLogin (t : BackendTools Image) (shown : Bool) (registry : List Bytes)
    (username token : Bytes) : Backend Image Unit := do
  let username ← expand username
  let token ← expand token
  let _ ← run t shown ([ascii "docker", ascii "login"] ++ registry ++ ascii "-u" :: username ++
    ascii "-p" :: token)
  pure ()

/-- `|| { echo 'Build Failed' ; exit 1; }` -/
def orFail (c : Backend Image Nat) : Backend Image Unit := do
  let status ← c
  if status = 0 then pure ()
  else do
    echo (ascii "Build Failed")
    exit 1

/-- The registries that a recipe may need (`:31-45`). -/
def dockerLogins (t : BackendTools Image) (shown : Bool) : Backend Image Unit := do
  whenFound t (ascii "FROM code.ornl.gov:4567") do
    echo (ascii "Using OLCF Gitlab registry login credentials")
    dockerLogin t shown [ascii "code.ornl.gov:4567"] (ascii "GITLAB_READONLY_USERNAME")
      (ascii "GITLAB_READONLY_TOKEN")
  whenFound t (ascii "FROM olcf/") do
    echo (ascii "Using OLCF Dockerhub registry login credentials")
    dockerLogin t shown [] (ascii "DOCKERHUB_READONLY_USERNAME")
      (ascii "DOCKERHUB_READONLY_TOKEN")

def mvLine : List Bytes := words (ascii "mv ./container.def Dockerfile")

/-- From the registry of the machine on (`:47-61`). -/
def dockerBuild (t : BackendTools Image) (debugFlag tty : List Bytes) (shown : Bool) :
    Backend Image Nat := do
  let _ ← run t shown (ascii "docker" :: debugFlag ++
    words (ascii "run -d -p 5000:5000 --restart=always --name registry registry:2"))
  let _ ← run t true mvLine
  orFail (run t true (tty ++ dockerPath :: debugFlag ++ [ascii "build", ascii "-t", dockerImage,
    ascii "."]))
  let _ ← run t true (tty ++ dockerPath :: debugFlag ++ [ascii "push", dockerImage])
  exportVariable (ascii "SINGULARITY_CACHEDIR") singularityCachedir
  exportVariable (ascii "SINGULARITY_NOHTTPS") ⟨ascii "true", by decide +kernel⟩
  exportVariable (ascii "SINGULARITY_PULLFOLDER") ⟨ascii "/home/builder", by decide +kernel⟩
  run t true (tty ++ singularityPath :: debugFlag ++ [ascii "build", containerName,
    ascii "docker://" ++ dockerImage])

def dockerBackend (t : BackendTools Image) (args : List Bytes) : Backend Image Nat := do
  source t
  parseArguments args
  let debugFlag ← expand debugFlagName
  let tty ← expand ttyName
  -- `OUT_FD` is `/dev/null` unless the flag is set
  let shown ← isSet debugFlagName
  dockerLogins t shown
  dockerBuild t debugFlag tty shown

/-! ## `singularity-builder-backend.sh` -/

/-- The registries that a recipe may need (`:24-40`); of two, the second stands. -/
def singularityLogins (t : BackendTools Image) : Backend Image Unit := do
  whenFound t (ascii "From: code.ornl.gov:4567") do
    echo (ascii "Using OLCF Gitlab registry login credentials")
    exportOf (ascii "SINGULARITY_DOCKER_USERNAME") (ascii "GITLAB_READONLY_USERNAME")
    exportOf (ascii "SINGULARITY_DOCKER_PASSWORD") (ascii "GITLAB_READONLY_TOKEN")
  whenFound t (ascii "From: olcf/") do
    echo (ascii "Using OLCF Dockerhub registry login credentials")
    exportOf (ascii "SINGULARITY_DOCKER_USERNAME") (ascii "DOCKERHUB_READONLY_USERNAME")
    exportOf (ascii "SINGULARITY_DOCKER_PASSWORD") (ascii "DOCKERHUB_READONLY_TOKEN")

def singularityBackend (t : BackendTools Image) (args : List Bytes) : Backend Image Nat := do
  source t
  parseArguments args
  singularityLogins t
  exportVariable (ascii "SINGULARITY_CACHEDIR") singularityCachedir
  let debugFlag ← expand debugFlagName
  let tty ← expand ttyName
  run t true (tty ++ singularityPath :: debugFlag ++ words (ascii
    "build ./container.simg ./container.def"))

/-! ## The command of a builder -/

/-- The script that a command launches, with its arguments; `sudo` ends with its status. -/
def launched (t : BackendTools Image) (command : Bytes) : Option (Backend Image Nat) :=
  match words command with
  | program :: script :: args =>
    if program ≠ ascii "/usr/bin/sudo" then none
    else if script = dockerScript then some (dockerBackend t args)
    else if script = singularityScript then some (singularityBackend t args)
    else none
  | _ => none

/-! ## What is taken of the commands -/

/-- What docker and singularity may make of what they are given. -/
structure Builds (Image : Type) where
  /-- The `Dockerfile` that docker finds in a directory, links followed. -/
  dockerfile : Disk → Option Bytes
  /-- `docker build` of a directory -/
  image : Disk → Image → Prop
  /-- `singularity build` of an image -/
  ofImage : Image → Bytes → Prop
  /-- `singularity build` of `container.def` in a directory -/
  ofDefinition : Disk → Bytes → Prop

/-- The directory with `container.def` as its `Dockerfile`. -/
def dockerContext (context : Disk) (definition : Bytes) : Disk :=
  (context.prune [definitionName]).set [dockerfileName] (.file definition)

def debugWords (debug : Bool) : List Bytes := if debug then [ascii "--debug"] else []

/-- A command leaves the directory `pwd`, and adds no image of ours to the registry. -/
structure Apart (pwd : Path) (vm vm' : BuilderVm Image) : Prop where
  context : vm'.disk.subtree pwd = vm.disk.subtree pwd
  registry : ∀ image, vm'.registry dockerImage = some image → vm.registry dockerImage = some image

theorem Apart.refl (pwd : Path) (vm : BuilderVm Image) : Apart pwd vm vm := ⟨rfl, fun _ h => h⟩

theorem Apart.trans {pwd : Path} {vm vm' vm'' : BuilderVm Image} (h : Apart pwd vm vm')
    (h' : Apart pwd vm' vm'') : Apart pwd vm vm'' :=
  ⟨h'.context.trans h.context, fun image hi => h.registry image (h'.registry image hi)⟩

/-- `mv` fails somewhere in this context. -/
def BackendTools.MvFails (t : BackendTools Image) (context : Disk) : Prop :=
  ∃ pwd env vm, vm.disk.subtree pwd = context ∧ (t.run pwd env mvLine vm).status ≠ 0

/-- What docker is given of a context: its definition, or the `Dockerfile` that an `mv` that fails
has left in it. -/
def BackendTools.Gives (t : BackendTools Image) (w : Builds Image) (context : Disk)
    (definition : Bytes) (given : Disk) : Prop :=
  given = dockerContext context definition ∨
    given = context ∧ t.MvFails context ∧ (w.dockerfile context).isSome = true

/-- What the commands are documented to do. -/
structure BackendTools.Documented (t : BackendTools Image) (w : Builds Image) : Prop where
  flags_unset : ∀ v ∈ t.environmentSh, v.1 ≠ debugFlagName ∧ v.1 ≠ ttyName
  /-- `unbuffer` runs a command on a terminal, and ends as it does. -/
  unbuffer : ∀ pwd env line vm, (t.run pwd env (unbufferPath :: line) vm).status =
    (t.run pwd env line vm).status ∧
      (t.run pwd env (unbufferPath :: line) vm).vm = (t.run pwd env line vm).vm
  grep : ∀ pwd env pattern vm,
    Apart pwd vm (t.run pwd env [ascii "grep", pattern, ascii "./container.def"] vm).vm
  login : ∀ pwd env line vm,
    Apart pwd vm (t.run pwd env (ascii "docker" :: ascii "login" :: line) vm).vm
  /-- A registry that is started has no images. -/
  registry : ∀ pwd env debug vm, Apart pwd vm (t.run pwd env (ascii "docker" :: debugWords debug ++
    words (ascii "run -d -p 5000:5000 --restart=always --name registry registry:2")) vm).vm
  mv_registry : ∀ pwd env vm, (t.run pwd env mvLine vm).vm.registry = vm.registry
  /-- `Dockerfile` is replaced, or it is a directory, or leads to one. -/
  mv : ∀ pwd env vm definition,
    (vm.disk.subtree pwd).lookup [definitionName] = some (.file definition) →
      let r := t.run pwd env mvLine vm
      r.status = 0 → r.vm.disk.subtree pwd = dockerContext (vm.disk.subtree pwd) definition ∨
        w.dockerfile (r.vm.disk.subtree pwd) = none
  /-- Within a directory `mv` renames, or it leaves all as it was. -/
  mv_fails : ∀ pwd env vm, (t.run pwd env mvLine vm).status ≠ 0 →
    (t.run pwd env mvLine vm).vm.disk.subtree pwd = vm.disk.subtree pwd
  build : ∀ pwd env debug vm,
    let r := t.run pwd env (dockerPath :: debugWords debug ++ [ascii "build", ascii "-t",
      dockerImage, ascii "."]) vm
    r.vm.registry = vm.registry ∧
      (r.status = 0 → (w.dockerfile (vm.disk.subtree pwd)).isSome = true ∧
        ∃ image, w.image (vm.disk.subtree pwd) image ∧ r.vm.images dockerImage = some image)
  /-- What is pushed is the image of this name. -/
  push : ∀ pwd env debug vm image,
    (t.run pwd env (dockerPath :: debugWords debug ++ [ascii "push", dockerImage]) vm).vm.registry
      dockerImage = some image →
        vm.registry dockerImage = some image ∨ vm.images dockerImage = some image
  pull : ∀ pwd env debug vm,
    let r := t.run pwd env (singularityPath :: debugWords debug ++ [ascii "build", containerName,
      ascii "docker://" ++ dockerImage]) vm
    r.status = 0 → ∃ image file, vm.registry dockerImage = some image ∧ w.ofImage image file ∧
      r.vm.disk.lookup (pwd ++ [containerName]) = some (.file file)
  bootstrap : ∀ pwd env debug vm,
    let r := t.run pwd env (singularityPath :: debugWords debug ++
      words (ascii "build ./container.simg ./container.def")) vm
    r.status = 0 → ∃ file, w.ofDefinition (vm.disk.subtree pwd) file ∧
      r.vm.disk.lookup (pwd ++ [containerName]) = some (.file file)

/-! ## Up to the build -/

/-- The shell before it builds: the directory is as it was in `s₀`, the registry has no image of
ours that it did not have, and the flags are as the arguments may set them. -/
structure BeforeBuild (s₀ s : Shell Image) : Prop where
  currentPath : s.currentPath = s₀.currentPath
  apart : Apart s₀.currentPath s₀.vm s.vm
  debugFlag : s.values debugFlagName = none ∨ s.values debugFlagName = some debugValue
  tty : s.values ttyName = none ∨ s.values ttyName = some unbufferValue

section
variable {t : BackendTools Image} {w : Builds Image} {s₀ s s' : Shell Image}

theorem BeforeBuild.set {name : Bytes} {value : Value} (h : BeforeBuild s₀ s)
    (hflag : name = debugFlagName → value = debugValue)
    (htty : name = ttyName → value = unbufferValue) : BeforeBuild s₀ (s.set name value) where
  currentPath := h.currentPath
  apart := h.apart
  debugFlag := by
    by_cases hname : debugFlagName = name
    · simp only [Shell.set, if_pos hname]
      exact .inr (congrArg some (hflag hname.symm))
    · simp only [Shell.set, if_neg hname]
      exact h.debugFlag
  tty := by
    by_cases hname : ttyName = name
    · simp only [Shell.set, if_pos hname]
      exact .inr (congrArg some (htty hname.symm))
    · simp only [Shell.set, if_neg hname]
      exact h.tty

theorem BeforeBuild.export_ {name : Bytes} {value : Value} (h : BeforeBuild s₀ s)
    (hflag : name ≠ debugFlagName) (htty : name ≠ ttyName) :
    BeforeBuild s₀ (s.export_ name value) where
  currentPath := h.currentPath
  apart := h.apart
  debugFlag := by
    simp only [Shell.export_, if_neg hflag.symm]
    exact h.debugFlag
  tty := by
    simp only [Shell.export_, if_neg htty.symm]
    exact h.tty

end

/-- A part of a script that exits on failures only, and keeps what there is before the build. -/
structure Prepares {α : Type} (c : Backend Image α) : Prop where
  failsOnly : FailsOnly c
  keeps : ∀ s₀, Keeps (BeforeBuild s₀) c

namespace Prepares

variable {t : BackendTools Image} {w : Builds Image} {α β : Type}

theorem pure (a : α) : Prepares (Pure.pure a : Backend Image α) :=
  ⟨failsOnly_pure a, fun _ => keeps_pure a⟩

theorem bind {c : Backend Image α} {f : α → Backend Image β} (hc : Prepares c)
    (hf : ∀ a, Prepares (f a)) : Prepares (c >>= f) :=
  ⟨hc.failsOnly.bind fun a => (hf a).failsOnly, fun s₀ =>
    keeps_bind (hc.keeps s₀) fun a => (hf a).keeps s₀⟩

theorem ite {p : Prop} [Decidable p] {c d : Backend Image α} (hc : Prepares c) (hd : Prepares d) :
    Prepares (if p then c else d) := by
  split
  · exact hc
  · exact hd

theorem exit {status : Nat} (h : status ≠ 0) : Prepares (Lib.exit status : Backend Image α) :=
  ⟨failsOnly_exit h, fun _ => keeps_exit status⟩

theorem echo (text : Bytes) : Prepares (Backend.echo text : Backend Image Unit) :=
  ⟨failsOnly_assign _, fun _ => keeps_assign fun _ h =>
    ⟨h.currentPath, h.apart, h.debugFlag, h.tty⟩⟩

theorem expand (name : Bytes) : Prepares (Backend.expand name : Backend Image (List Bytes)) :=
  ⟨nofun, fun _ _ h => h⟩

theorem isSet (name : Bytes) : Prepares (Backend.isSet name : Backend Image Bool) :=
  ⟨nofun, fun _ _ h => h⟩

theorem setVariable {name : Bytes} {value : Value}
    (hflag : name = debugFlagName → value = debugValue)
    (htty : name = ttyName → value = unbufferValue) :
    Prepares (Backend.setVariable name value : Backend Image Unit) :=
  ⟨failsOnly_assign _, fun _ => keeps_assign fun _ h => h.set hflag htty⟩

theorem exportVariable {name : Bytes} (value : Value) (hflag : name ≠ debugFlagName)
    (htty : name ≠ ttyName) : Prepares (Backend.exportVariable name value : Backend Image Unit) :=
  ⟨failsOnly_assign _, fun _ => keeps_assign fun _ h => h.export_ hflag htty⟩

theorem exportOf {name : Bytes} (value : Bytes) (hflag : name ≠ debugFlagName)
    (htty : name ≠ ttyName) : Prepares (Backend.exportOf name value : Backend Image Unit) :=
  ⟨failsOnly_assign _, fun _ => keeps_assign fun _ h => h.export_ hflag htty⟩

/-- A command that stands apart from the build. -/
theorem run {shown : Bool} {line : List Bytes}
    (h : ∀ pwd env vm, Apart pwd vm (t.run pwd env line vm).vm) :
    Prepares (Backend.run t shown line) :=
  ⟨failsOnly_simple _, fun _ => keeps_simple fun s hs =>
    ⟨hs.currentPath, hs.apart.trans (hs.currentPath ▸ h s.currentPath s.environment s.vm),
      hs.debugFlag, hs.tty⟩⟩

theorem whenFound (hd : t.Documented w) (pattern : Bytes) {c : Backend Image Unit}
    (hc : Prepares c) : Prepares (Backend.whenFound t pattern c) :=
  bind (run fun pwd env vm => hd.grep pwd env pattern vm) fun _ => ite hc (pure ())

theorem dockerLogin (hd : t.Documented w) (shown : Bool) (registry : List Bytes)
    (username token : Bytes) :
    Prepares (ContainerBuilder.dockerLogin t shown registry username token) :=
  bind (expand _) fun u => bind (expand _) fun v =>
    bind (run fun pwd env vm =>
      hd.login pwd env (registry ++ ascii "-u" :: u ++ ascii "-p" :: v) vm) fun _ => pure ()

theorem dockerLogins (hd : t.Documented w) (shown : Bool) :
    Prepares (ContainerBuilder.dockerLogins t shown) :=
  bind (whenFound hd _ (bind (echo _) fun _ => dockerLogin hd shown _ _ _)) fun _ =>
    whenFound hd _ (bind (echo _) fun _ => dockerLogin hd shown _ _ _)

theorem singularityLogins (hd : t.Documented w) :
    Prepares (ContainerBuilder.singularityLogins t) := by
  have hnames : ∀ name ∈ [ascii "SINGULARITY_DOCKER_USERNAME",
      ascii "SINGULARITY_DOCKER_PASSWORD"], name ≠ debugFlagName ∧ name ≠ ttyName := by decide
  have hexport : ∀ name ∈ [ascii "SINGULARITY_DOCKER_USERNAME",
      ascii "SINGULARITY_DOCKER_PASSWORD"], ∀ value,
        Prepares (Backend.exportOf name value : Backend Image Unit) := fun name hn value =>
    exportOf value (hnames name hn).1 (hnames name hn).2
  have hboth : ∀ note username token, Prepares (do
      Backend.echo note
      Backend.exportOf (ascii "SINGULARITY_DOCKER_USERNAME") username
      Backend.exportOf (ascii "SINGULARITY_DOCKER_PASSWORD") token : Backend Image Unit) :=
    fun note username token => bind (echo note) fun _ =>
      bind (hexport _ (by simp) username) fun _ => hexport _ (by simp) token
  exact bind (whenFound hd _ (hboth _ _ _)) fun _ => whenFound hd _ (hboth _ _ _)

theorem parseArgument (i : Bytes) :
    Prepares (Backend.parseArgument i : Backend Image Unit) := by
  have hnames : ttyName ≠ debugFlagName := by decide
  refine ite (setVariable (fun _ => rfl) fun h => absurd h.symm hnames) (ite ?_ ?_)
  · exact setVariable (fun h => absurd h hnames) fun _ => rfl
  · exact bind (echo _) fun _ => exit one_ne_zero

theorem parseArguments (args : List Bytes) :
    Prepares (Backend.parseArguments args : Backend Image Unit) := by
  induction args with
  | nil => exact pure ()
  | cons i args ih => exact bind (parseArgument i) fun _ => ih

theorem source (hd : t.Documented w) : Prepares (Backend.source t) := by
  refine ⟨failsOnly_assign _, fun _ => keeps_assign ?_⟩
  have hunset := hd.flags_unset
  generalize t.environmentSh = vs at hunset
  induction vs with
  | nil => exact fun s h => h
  | cons v vs ih =>
    intro s h
    obtain ⟨hflag, htty⟩ := hunset v (List.mem_cons_self ..)
    exact ih (fun v hv => hunset v (List.mem_cons_of_mem _ hv)) _
      (h.set (fun he => absurd he hflag) fun he => absurd he htty)

end Prepares

/-! ## What a script that ends with 0 has built -/

section
variable {t : BackendTools Image} {w : Builds Image} {s₀ s s' : Shell Image} {status : Nat}

theorem Backend.returns_run {shown : Bool} {line : List Bytes} :
    Returns (Backend.run t shown line) s status s' ↔
      let r := t.run s.currentPath s.environment line s.vm
      r.status = status ∧
        s' = { s with vm := r.vm, output := if shown then s.output ++ r.output else s.output } := by
  refine returns_simple.trans ?_
  simp only [Prod.mk.injEq, eq_comm (a := s')]

theorem Backend.returns_expand {name : Bytes} {fs : List Bytes} :
    Returns (Backend.expand name) s fs s' ↔
      fs = ((s.values name).map fields).getD [] ∧ s' = s := by
  unfold Returns Backend.expand
  rw [exec_call]
  simp only [Prod.mk.injEq, Except.ok.injEq, eq_comm (a := fs), eq_comm (a := s')]

theorem failsOnly_orFail {c : Backend Image Nat} (hc : FailsOnly c) : FailsOnly (orFail c) := by
  refine hc.bind fun n => ?_
  split
  · exact failsOnly_pure _
  · exact (failsOnly_assign _).bind fun _ => failsOnly_exit one_ne_zero

theorem returns_orFail {c : Backend Image Nat} {a : Unit} (h : Returns (orFail c) s a s') :
    Returns c s 0 s' := by
  obtain ⟨n, s₁, hc, hrest⟩ := returns_bind.1 h
  split at hrest
  · rename_i hn
    rw [(returns_pure.1 hrest).2, ← hn]
    exact hc
  · obtain ⟨_, s₂, -, hexit⟩ := returns_bind.1 hrest
    cases hexit

theorem BeforeBuild.expand_debugFlag (h : BeforeBuild s₀ s) :
    ∃ debug, ((s.values debugFlagName).map fields).getD [] = debugWords debug := by
  rcases h.debugFlag with hnone | hset
  · exact ⟨false, by rw [hnone]; rfl⟩
  · exact ⟨true, by rw [hset]; decide +kernel⟩

theorem BeforeBuild.expand_tty (h : BeforeBuild s₀ s) :
    ((s.values ttyName).map fields).getD [] = [] ∨
      ((s.values ttyName).map fields).getD [] = [unbufferPath] := by
  rcases h.tty with hnone | hset
  · exact .inl (by rw [hnone]; rfl)
  · exact .inr (by rw [hset]; decide +kernel)

/-- A command does on a terminal what it does without. -/
theorem Backend.returns_onTty (hd : t.Documented w) {tty : List Bytes}
    (htty : tty = [] ∨ tty = [unbufferPath]) {shown : Bool} {line : List Bytes}
    (h : Returns (Backend.run t shown (tty ++ line)) s status s') :
    s'.currentPath = s.currentPath ∧ s'.vm = (t.run s.currentPath s.environment line s.vm).vm ∧
      (t.run s.currentPath s.environment line s.vm).status = status := by
  obtain ⟨hstatus, rfl⟩ := Backend.returns_run.1 h
  rcases htty with rfl | rfl
  · exact ⟨rfl, rfl, hstatus⟩
  · obtain ⟨hsame, hvm⟩ := hd.unbuffer s.currentPath s.environment line s.vm
    exact ⟨rfl, hvm, hsame.symm.trans hstatus⟩

/-- Where docker finds a `Dockerfile` after the `mv`, it is what the script means to give it, unless
the `mv` has failed. -/
theorem BackendTools.Documented.gives (hd : t.Documented w) {pwd : Path} (env : Variables)
    {vm : BuilderVm Image} {context : Disk} {definition : Bytes}
    (hcontext : vm.disk.subtree pwd = context)
    (hdef : context.lookup [definitionName] = some (.file definition))
    (hfound : (w.dockerfile ((t.run pwd env mvLine vm).vm.disk.subtree pwd)).isSome = true) :
    t.Gives w context definition ((t.run pwd env mvLine vm).vm.disk.subtree pwd) := by
  subst hcontext
  by_cases hstatus : (t.run pwd env mvLine vm).status = 0
  · refine .inl ((hd.mv pwd env vm definition hdef hstatus).resolve_right fun hnothing => ?_)
    rw [hnothing] at hfound
    cases hfound
  · have hleft := hd.mv_fails pwd env vm hstatus
    rw [hleft] at hfound ⊢
    exact .inr ⟨rfl, ⟨pwd, env, vm, rfl, hstatus⟩, hfound⟩

/-- The second half of the docker script. -/
theorem dockerBuild_yields (hd : t.Documented w) (hbefore : BeforeBuild s₀ s)
    (hfresh : s₀.vm.registry dockerImage = none) {definition : Bytes}
    (hdef : s₀.context.lookup [definitionName] = some (.file definition)) {debug shown : Bool}
    {tty : List Bytes} (htty : tty = [] ∨ tty = [unbufferPath])
    (h : Ends (dockerBuild t (debugWords debug) tty shown) s 0 s') :
    ∃ given image file, t.Gives w s₀.context definition given ∧ w.image given image ∧
      w.ofImage image file ∧
      s'.vm.disk.lookup (s₀.currentPath ++ [containerName]) = some (.file file) := by
  have hregistry : Prepares (run t shown (ascii "docker" :: debugWords debug ++ words (ascii
      "run -d -p 5000:5000 --restart=always --name registry registry:2"))) :=
    .run fun pwd env vm => hd.registry pwd env debug vm
  obtain ⟨_, s₁, -, h₁, hend⟩ := h.next hregistry.failsOnly (hregistry.keeps s₀) hbefore
  -- no image is in the registry, and the directory is as it was
  have hnone : s₁.vm.registry dockerImage = none := by
    cases hi : s₁.vm.registry dockerImage with
    | none => rfl
    | some image => cases hfresh.symm.trans (h₁.apart.registry image hi)
  have hcontext : s₁.vm.disk.subtree s₁.currentPath = s₀.context := by
    rw [h₁.currentPath]
    exact h₁.apart.context
  obtain ⟨_, s₂, hmv, hend₂⟩ := (ends_zero_bind (failsOnly_simple _)).1 hend
  obtain ⟨-, hs₂⟩ := Backend.returns_run.1 hmv
  have hpath₂ : s₂.currentPath = s₁.currentPath := by rw [hs₂]
  have hvm₂ : s₂.vm = (t.run s₁.currentPath s₁.environment mvLine s₁.vm).vm := by rw [hs₂]
  have hgiven := hd.gives s₁.environment hcontext hdef
  rw [← hvm₂, ← hpath₂] at hgiven
  rw [← hd.mv_registry s₁.currentPath s₁.environment, ← hvm₂] at hnone
  -- the build has found a `Dockerfile`
  obtain ⟨_, s₃, hbuild, hend₃⟩ := (ends_zero_bind (failsOnly_orFail (failsOnly_simple _))).1 hend₂
  rw [List.append_assoc] at hbuild
  obtain ⟨hpath₃, hvm₃, hstatus₃⟩ := Backend.returns_onTty hd htty (returns_orFail hbuild)
  obtain ⟨hkept, hbuilt⟩ := hd.build s₂.currentPath s₂.environment debug s₂.vm
  obtain ⟨hfound, image, himage, htagged⟩ := hbuilt hstatus₃
  rw [← hvm₃] at hkept htagged
  rw [← hkept] at hnone
  -- what is in the registry after the push is this image
  obtain ⟨_, s₄, hpush, hend₄⟩ := (ends_zero_bind (failsOnly_simple _)).1 hend₃
  rw [List.append_assoc] at hpush
  obtain ⟨hpath₄, hvm₄, -⟩ := Backend.returns_onTty hd htty hpush
  obtain ⟨_, s₅, h₅, hend₅⟩ := (ends_zero_bind (failsOnly_assign _)).1 hend₄
  obtain ⟨_, s₆, h₆, hend₆⟩ := (ends_zero_bind (failsOnly_assign _)).1 hend₅
  obtain ⟨_, s₇, h₇, hend₇⟩ := (ends_zero_bind (failsOnly_assign _)).1 hend₆
  obtain rfl := returns_assign.1 h₅
  obtain rfl := returns_assign.1 h₆
  obtain rfl := returns_assign.1 h₇
  have hpull := returns_simple.2 (ends_simple.1 hend₇)
  rw [List.append_assoc] at hpull
  obtain ⟨-, hvm, hstatus⟩ := Backend.returns_onTty hd htty hpull
  obtain ⟨image', file, hregistered, hfile, hwritten⟩ := hd.pull _ _ debug _ hstatus
  have hpushed := hd.push s₃.currentPath s₃.environment debug s₃.vm image' (hvm₄ ▸ hregistered)
  rw [hnone, htagged] at hpushed
  obtain rfl : image = image' := Option.some.inj (hpushed.resolve_left nofun)
  rw [← hvm] at hwritten
  have hpath : s₄.currentPath = s₀.currentPath :=
    hpath₄.trans (hpath₃.trans (hpath₂.trans h₁.currentPath))
  exact ⟨_, image, file, hgiven hfound, himage, hfile, hpath ▸ hwritten⟩

/-- A shell on a machine where nothing has been built. -/
structure Shell.Fresh (s : Shell Image) : Prop where
  registry : s.vm.registry dockerImage = none
  debugFlag : s.values debugFlagName = none
  tty : s.values ttyName = none

theorem Shell.Fresh.beforeBuild (h : s.Fresh) : BeforeBuild s s :=
  ⟨rfl, .refl _ _, .inl h.debugFlag, .inl h.tty⟩

/-- What the two scripts may make of a context with this definition. -/
def Builds.Yields (w : Builds Image) (t : BackendTools Image) (context : Disk)
    (definition file : Bytes) : BackendType → Prop
  | .docker => ∃ given image,
    t.Gives w context definition given ∧ w.image given image ∧ w.ofImage image file
  | .singularity => w.ofDefinition context file
  | .unspecified => False

theorem docker_yields (hd : t.Documented w) {args : List Bytes} (hfresh : s.Fresh)
    {definition : Bytes} (hdef : s.context.lookup [definitionName] = some (.file definition))
    (h : Ends (dockerBackend t args) s 0 s') :
    ∃ file, w.Yields t s.context definition file .docker ∧
      s'.vm.disk.lookup (s.currentPath ++ [containerName]) = some (.file file) := by
  have hsource := Prepares.source hd
  obtain ⟨_, s₁, -, h₁, hend₁⟩ := h.next hsource.failsOnly (hsource.keeps s) hfresh.beforeBuild
  have hparse : Prepares (parseArguments args : Backend Image Unit) := .parseArguments args
  obtain ⟨_, s₂, -, h₂, hend₂⟩ := hend₁.next hparse.failsOnly (hparse.keeps s) h₁
  -- the flags are expanded where the arguments have been parsed
  obtain ⟨debugFlag, s₃, hflag, hend₃⟩ := (ends_zero_bind nofun).1 hend₂
  obtain ⟨hdebugFlag, rfl⟩ := Backend.returns_expand.1 hflag
  obtain ⟨tty, s₄, htty, hend₄⟩ := (ends_zero_bind nofun).1 hend₃
  obtain ⟨hexpanded, rfl⟩ := Backend.returns_expand.1 htty
  obtain ⟨debug, hdebug⟩ := h₂.expand_debugFlag
  have hset : Prepares (isSet debugFlagName : Backend Image Bool) := .isSet debugFlagName
  obtain ⟨shown, s₅, -, h₅, hend₅⟩ := hend₄.next hset.failsOnly (hset.keeps s) h₂
  have hlogins := Prepares.dockerLogins hd shown
  obtain ⟨_, s₆, -, h₆, hend₆⟩ := hend₅.next hlogins.failsOnly (hlogins.keeps s) h₅
  rw [hdebugFlag, hdebug] at hend₆
  obtain ⟨given, image, file, hgiven, himage, hfile, hwritten⟩ :=
    dockerBuild_yields hd h₆ hfresh.registry hdef (hexpanded ▸ h₂.expand_tty) hend₆
  exact ⟨file, ⟨given, image, hgiven, himage, hfile⟩, hwritten⟩

theorem singularity_yields (hd : t.Documented w) {args : List Bytes} (hfresh : s.Fresh)
    {definition : Bytes} (h : Ends (singularityBackend t args) s 0 s') :
    ∃ file, w.Yields t s.context definition file .singularity ∧
      s'.vm.disk.lookup (s.currentPath ++ [containerName]) = some (.file file) := by
  have hsource := Prepares.source hd
  obtain ⟨_, s₁, -, h₁, hend₁⟩ := h.next hsource.failsOnly (hsource.keeps s) hfresh.beforeBuild
  have hparse : Prepares (parseArguments args : Backend Image Unit) := .parseArguments args
  obtain ⟨_, s₂, -, h₂, hend₂⟩ := hend₁.next hparse.failsOnly (hparse.keeps s) h₁
  have hlogins := Prepares.singularityLogins hd
  obtain ⟨_, s₃, -, h₃, hend₃⟩ := hend₂.next hlogins.failsOnly (hlogins.keeps s) h₂
  have hcache : Prepares (exportVariable (ascii "SINGULARITY_CACHEDIR")
      singularityCachedir : Backend Image Unit) :=
    .exportVariable _ (by decide) (by decide)
  obtain ⟨_, s₄, -, h₄, hend₄⟩ := hend₃.next hcache.failsOnly (hcache.keeps s) h₃
  obtain ⟨debugFlag, s₅, hflag, hend₅⟩ := (ends_zero_bind nofun).1 hend₄
  obtain ⟨hdebugFlag, rfl⟩ := Backend.returns_expand.1 hflag
  obtain ⟨tty, s₆, htty, hend₆⟩ := (ends_zero_bind nofun).1 hend₅
  obtain ⟨hexpanded, rfl⟩ := Backend.returns_expand.1 htty
  obtain ⟨debug, hdebug⟩ := h₄.expand_debugFlag
  rw [hdebugFlag, hdebug] at hend₆
  have hbootstrap := returns_simple.2 (ends_simple.1 hend₆)
  rw [List.append_assoc] at hbootstrap
  obtain ⟨-, hvm, hstatus⟩ := Backend.returns_onTty hd (hexpanded ▸ h₄.expand_tty) hbootstrap
  obtain ⟨file, hfile, hwritten⟩ := hd.bootstrap _ _ debug _ hstatus
  rw [← hvm, h₄.currentPath] at hwritten
  rw [h₄.currentPath, h₄.apart.context] at hfile
  exact ⟨file, hfile, hwritten⟩

/-! ## The command of the client's data -/

/-- The arguments that `build_command` appends. -/
def backendArgs (d : ClientData) : List Bytes :=
  debugWords (decide (LogPriority.debug.toNat ≤ d.logPriority.toNat)) ++
    if d.tty then [ascii "--tty"] else []

/-- The script of a backend. -/
def BackendType.script (t : BackendTools Image) (args : List Bytes) :
    BackendType → Option (Backend Image Nat)
  | .docker => some (dockerBackend t args)
  | .singularity => some (singularityBackend t args)
  | .unspecified => none

/-- The words of a command with its flags. -/
theorem words_flags (script : Bytes) (hscript : script ∈ [dockerScript, singularityScript])
    (debug tty : Bool) :
    let command := ascii "/usr/bin/sudo " ++ script
    let command := if debug then command ++ ascii " --debug" else command
    words (if tty then command ++ ascii " --tty" else command) =
      ascii "/usr/bin/sudo" :: script ::
        (debugWords debug ++ if tty then [ascii "--tty"] else []) := by
  revert debug tty
  rcases List.mem_pair.1 hscript with rfl | rfl
  · decide +kernel
  · decide +kernel

theorem launched_of_words {command script : Bytes} {args : List Bytes}
    (h : words command = ascii "/usr/bin/sudo" :: script :: args) :
    launched t command =
      if script = dockerScript then some (dockerBackend t args)
      else if script = singularityScript then some (singularityBackend t args)
      else none := by
  unfold launched
  rw [h]
  simp only [ne_eq, not_true, if_false]

/-- What `build_command` makes launches the script of its backend. -/
theorem launched_buildCommand {d : ClientData} {command : Bytes}
    (h : buildCommand d = .ok command) :
    launched t command = d.backend.script t (backendArgs d) := by
  have hflags := fun script hscript =>
    words_flags script hscript (decide (LogPriority.debug.toNat ≤ d.logPriority.toNat)) d.tty
  simp only [decide_eq_true_eq] at hflags
  cases hbackend : d.backend with
  | docker =>
    have hsplit : ascii "/usr/bin/sudo /usr/local/bin/docker-builder-backend.sh" =
        ascii "/usr/bin/sudo " ++ dockerScript := by decide +kernel
    simp only [buildCommand, hbackend, Except.ok.injEq, hsplit] at h
    rw [← h, launched_of_words (hflags dockerScript (by simp)), if_pos rfl]
    rfl
  | singularity =>
    have hsplit : ascii "/usr/bin/sudo /usr/local/bin/singularity-builder-backend.sh" =
        ascii "/usr/bin/sudo " ++ singularityScript := by decide +kernel
    have hne : singularityScript ≠ dockerScript := by decide +kernel
    simp only [buildCommand, hbackend, Except.ok.injEq, hsplit] at h
    rw [← h, launched_of_words (hflags singularityScript (by simp)), if_neg hne, if_pos rfl]
    rfl
  | unspecified => simp [buildCommand, hbackend] at h

/-- **A script that ends with 0 has built the context**, whichever it is and whatever fails in
it; after an `mv` that fails, with the `Dockerfile` of the context. -/
theorem backend_yields (hd : t.Documented w) {d : ClientData} {command : Bytes}
    (hcommand : buildCommand d = .ok command) {c : Backend Image Nat}
    (hc : launched t command = some c) (hfresh : s.Fresh) {definition : Bytes}
    (hdef : s.context.lookup [definitionName] = some (.file definition)) (h : Ends c s 0 s') :
    ∃ file, w.Yields t s.context definition file d.backend ∧
      s'.vm.disk.lookup (s.currentPath ++ [containerName]) = some (.file file) := by
  rw [launched_buildCommand hcommand] at hc
  cases hbackend : d.backend with
  | docker =>
    rw [hbackend] at hc
    obtain rfl := Option.some.inj hc
    exact docker_yields hd hfresh hdef h
  | singularity =>
    rw [hbackend] at hc
    obtain rfl := Option.some.inj hc
    exact singularity_yields hd hfresh h
  | unspecified =>
    rw [hbackend] at hc
    cases hc

end

/-! ## A docker that builds nothing -/

/-- The image of a context is the context, and its container one byte. -/
def sampleBuilds : Builds Disk where
  dockerfile context :=
    match context.lookup [dockerfileName] with
    | some (.file content) => some content
    | _ => none
  image context image := image = context
  ofImage _ file := file = [9]
  ofDefinition _ file := file = [9]

def sampleContainer (pwd : Path) (vm : BuilderVm Disk) : CommandRun Disk :=
  ⟨0, [], { vm with disk := Tree.set ∅ (pwd ++ [containerName]) (.file [9]) }⟩

/-- A command that is not run by `unbuffer`. -/
def sampleCommand (pwd : Path) (line : List Bytes) (vm : BuilderVm Disk) : CommandRun Disk :=
  let context := vm.disk.subtree pwd
  if line.head? = some (ascii "mv") then
    match context.lookup [definitionName] with
    | some (.file definition) =>
      ⟨0, [], { vm with disk := vm.disk.graft pwd (dockerContext context definition) }⟩
    | _ => ⟨1, [], vm⟩
  else if line.head? = some dockerPath then
    if line.getLast? = some (ascii ".") then
      match sampleBuilds.dockerfile context with
      | some _ => ⟨0, [], { vm with images := fun _ => some context }⟩
      | none => ⟨1, [], vm⟩
    else ⟨0, [], { vm with registry := vm.images }⟩
  else if line.head? = some singularityPath then
    if line.getLast? = some (ascii "docker://" ++ dockerImage) then
      match vm.registry dockerImage with
      | some _ => sampleContainer pwd vm
      | none => ⟨1, [], vm⟩
    else sampleContainer pwd vm
  else ⟨1, [], vm⟩

def sampleTools : BackendTools Disk where
  environmentSh := []
  run pwd _ line vm := sampleCommand pwd (line.dropWhile (· == unbufferPath)) vm

theorem sampleTools_run {pwd : Path} {env : Variables} {program : Bytes} {args : List Bytes}
    {vm : BuilderVm Disk} (h : program ≠ unbufferPath) :
    sampleTools.run pwd env (program :: args) vm = sampleCommand pwd (program :: args) vm := by
  have hne : (program == unbufferPath) = false := by simpa using h
  simp only [sampleTools, List.dropWhile, hne]

theorem sample_apart {pwd : Path} {env : Variables} {program : Bytes} {args : List Bytes}
    {vm : BuilderVm Disk} (h : program ∉ [unbufferPath, ascii "mv", dockerPath, singularityPath]) :
    Apart pwd vm (sampleTools.run pwd env (program :: args) vm).vm := by
  simp only [List.mem_cons, List.not_mem_nil, or_false, not_or] at h
  obtain ⟨hunbuffer, hmv, hdocker, hsingularity⟩ := h
  rw [sampleTools_run hunbuffer]
  simp only [sampleCommand, List.head?_cons, Option.some.injEq, hmv, hdocker, hsingularity,
    if_false]
  exact .refl pwd vm

theorem getLast?_words (program : Bytes) (debug : Bool) (args : List Bytes) (last : Bytes) :
    (program :: (debugWords debug ++ (args ++ [last]))).getLast? = some last := by
  rw [← List.cons_append, ← List.append_assoc, List.getLast?_concat]

theorem sampleContainer_lookup (pwd : Path) (vm : BuilderVm Disk) :
    (sampleContainer pwd vm).vm.disk.lookup (pwd ++ [containerName]) = some (.file [9]) := by
  rw [sampleContainer, Tree.lookup_set, if_pos rfl]

theorem sampleTools_mv (pwd : Path) (env : Variables) (vm : BuilderVm Disk) :
    sampleTools.run pwd env mvLine vm =
      match (vm.disk.subtree pwd).lookup [definitionName] with
      | some (.file definition) =>
        ⟨0, [], { vm with
          disk := vm.disk.graft pwd (dockerContext (vm.disk.subtree pwd) definition) }⟩
      | _ => ⟨1, [], vm⟩ := by
  have hwords : mvLine = [ascii "mv", ascii "./container.def", ascii "Dockerfile"] := by
    decide +kernel
  rw [hwords, sampleTools_run (by decide)]
  simp only [sampleCommand, List.head?_cons, if_true]

theorem sampleTools_documented : sampleTools.Documented sampleBuilds where
  flags_unset := nofun
  unbuffer pwd env line vm := by
    simp [sampleTools]
  grep pwd env pattern vm := sample_apart (by decide)
  login pwd env line vm := sample_apart (by decide)
  registry pwd env debug vm := sample_apart (by decide)
  mv_registry pwd env vm := by
    rw [sampleTools_mv]
    split <;> rfl
  mv pwd env vm definition hdef := by
    simp only [sampleTools_mv, hdef]
    refine fun _ => .inl (Finmap.ext_lookup fun p => ?_)
    rw [Tree.lookup_subtree, Tree.lookup_graft_append]
  mv_fails pwd env vm := by
    rw [sampleTools_mv]
    split
    · exact fun h => absurd rfl h
    · exact fun _ => rfl
  build pwd env debug vm := by
    have hlast : (dockerPath :: (debugWords debug ++ [ascii "build", ascii "-t", dockerImage,
        ascii "."])).getLast? = some (ascii ".") :=
      getLast?_words dockerPath debug [ascii "build", ascii "-t", dockerImage] (ascii ".")
    rw [List.cons_append, sampleTools_run (by decide)]
    simp only [sampleCommand, List.head?_cons, Option.some.injEq,
      show dockerPath ≠ ascii "mv" from by decide, if_false, if_true]
    rw [if_pos hlast]
    cases hfile : sampleBuilds.dockerfile (vm.disk.subtree pwd) with
    | none => exact ⟨rfl, nofun⟩
    | some content => exact ⟨rfl, fun _ => ⟨rfl, _, rfl, rfl⟩⟩
  push pwd env debug vm image := by
    have hlast : (dockerPath :: (debugWords debug ++ [ascii "push", dockerImage])).getLast? ≠
        some (ascii ".") := by
      have hwords : (dockerPath :: (debugWords debug ++ [ascii "push", dockerImage])).getLast? =
          some dockerImage := getLast?_words dockerPath debug [ascii "push"] dockerImage
      rw [hwords]
      decide
    rw [List.cons_append, sampleTools_run (by decide)]
    simp only [sampleCommand, List.head?_cons, Option.some.injEq,
      show dockerPath ≠ ascii "mv" from by decide, if_false, if_true]
    rw [if_neg hlast]
    exact .inr
  pull pwd env debug vm := by
    have hlast : (singularityPath :: (debugWords debug ++ [ascii "build", containerName,
        ascii "docker://" ++ dockerImage])).getLast? = some (ascii "docker://" ++ dockerImage) :=
      getLast?_words singularityPath debug [ascii "build", containerName] _
    rw [List.cons_append, sampleTools_run (by decide)]
    simp only [sampleCommand, List.head?_cons, Option.some.injEq,
      show singularityPath ≠ ascii "mv" from by decide,
      show singularityPath ≠ dockerPath from by decide, if_false, if_true]
    rw [if_pos hlast]
    cases hregistry : vm.registry dockerImage with
    | none => exact nofun
    | some image => exact fun _ => ⟨image, [9], rfl, rfl, sampleContainer_lookup pwd vm⟩
  bootstrap pwd env debug vm := by
    have hlast : (singularityPath :: (debugWords debug ++
        words (ascii "build ./container.simg ./container.def"))).getLast? ≠
          some (ascii "docker://" ++ dockerImage) := by
      have hwords : words (ascii "build ./container.simg ./container.def") =
          [ascii "build", ascii "./container.simg"] ++ [ascii "./container.def"] := by
        decide +kernel
      rw [hwords, getLast?_words]
      decide
    rw [List.cons_append, sampleTools_run (by decide)]
    simp only [sampleCommand, List.head?_cons, Option.some.injEq,
      show singularityPath ≠ ascii "mv" from by decide,
      show singularityPath ≠ dockerPath from by decide, if_false, if_true]
    rw [if_neg hlast]
    exact fun _ => ⟨[9], rfl, sampleContainer_lookup pwd vm⟩

/-- A shell of a machine without images. -/
def freshShell (s : Process) : Shell Disk where
  currentPath := s.currentPath
  values _ := none
  environment _ := none
  vm := ⟨s.disk, fun _ => none, fun _ => none⟩
  output := []

theorem freshShell_fresh (s : Process) : (freshShell s).Fresh := ⟨rfl, rfl, rfl⟩

end ContainerBuilder
