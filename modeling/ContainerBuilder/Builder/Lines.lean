import ContainerBuilder.Builder.Backend

/-!
# The commands that a build runs

The options of the user become fields of the client data, an archive, a command, its words, shell
variables and at last words of other commands. `backendLines` is the list of the command lines that
come of it, with `--debug` and `unbuffer` where the user has asked for them and with the credentials
of `environment.sh`. A script runs no others: two machines that answer these alike cannot be told
apart by it (`backend_lines`).
-/

namespace ContainerBuilder

open Lib Backend

variable {Image : Type}

/-! ## The lines -/

/-- The arguments that `build_command` makes ask for debug output. -/
def ClientData.wantsDebug (d : ClientData) : Bool :=
  decide (LogPriority.debug.toNat ≤ d.logPriority.toNat)

def ttyWords (tty : Bool) : List Bytes := if tty then [unbufferPath] else []

/-- An unquoted variable of `values`. -/
def expanded (values : Variables) (name : Bytes) : List Bytes :=
  ((values name).map fields).getD []

def grepLine (pattern : Bytes) : List Bytes := [ascii "grep", pattern, ascii "./container.def"]

def loginLine (values : Variables) (registry : List Bytes) (username token : Bytes) : List Bytes :=
  [ascii "docker", ascii "login"] ++ registry ++ ascii "-u" :: expanded values username ++
    ascii "-p" :: expanded values token

/-- What a build of `d` may run, with these variables set. -/
def backendLines (d : ClientData) (values : Variables) : List (List Bytes) :=
  let debugFlag := debugWords d.wantsDebug
  let tty := ttyWords d.tty
  match d.backend with
  | .docker =>
    [grepLine (ascii "FROM code.ornl.gov:4567"),
      loginLine values [ascii "code.ornl.gov:4567"] (ascii "GITLAB_READONLY_USERNAME")
        (ascii "GITLAB_READONLY_TOKEN"),
      grepLine (ascii "FROM olcf/"),
      loginLine values [] (ascii "DOCKERHUB_READONLY_USERNAME") (ascii "DOCKERHUB_READONLY_TOKEN"),
      ascii "docker" :: debugFlag ++
        words (ascii "run -d -p 5000:5000 --restart=always --name registry registry:2"),
      mvLine,
      tty ++ dockerPath :: debugFlag ++ [ascii "build", ascii "-t", dockerImage, ascii "."],
      tty ++ dockerPath :: debugFlag ++ [ascii "push", dockerImage],
      tty ++ singularityPath :: debugFlag ++ [ascii "build", containerName,
        ascii "docker://" ++ dockerImage]]
  | .singularity =>
    [grepLine (ascii "From: code.ornl.gov:4567"), grepLine (ascii "From: olcf/"),
      tty ++ singularityPath :: debugFlag ++ words (ascii
        "build ./container.simg ./container.def")]
  | .unspecified => []

/-- `t'` answers these lines as `t` does. -/
def SameOn (lines : List (List Bytes)) (t t' : BackendTools Image) : Prop :=
  ∀ line ∈ lines, ∀ pwd env vm, t'.run pwd env line vm = t.run pwd env line vm

/-! ## The flags -/

/-- The shell after `environment.sh`. -/
def sourced (t : BackendTools Image) (s : Shell Image) : Shell Image :=
  t.environmentSh.foldl (fun s v => s.set v.1 v.2) s

/-- The flags are those of `d`, and the other variables those of `s`. -/
structure FlagsOf (d : ClientData) (s s' : Shell Image) : Prop where
  debugFlag : expanded s'.values debugFlagName = debugWords d.wantsDebug
  tty : expanded s'.values ttyName = ttyWords d.tty
  others : ∀ name, name ≠ debugFlagName → name ≠ ttyName → s'.values name = s.values name

section
variable {s s' : Shell Image} {d : ClientData}

theorem returns_debug : Returns (parseArgument (ascii "--debug")) s ()
    (s.set debugFlagName debugValue) := by
  rw [parseArgument, if_pos rfl]
  exact returns_assign.2 rfl

theorem returns_tty :
    Returns (parseArgument (ascii "--tty")) s () (s.set ttyName unbufferValue) := by
  rw [parseArgument, if_neg (by decide), if_pos rfl]
  exact returns_assign.2 rfl

theorem expanded_set (name : Bytes) (value : Value) :
    expanded (s.set name value).values name = fields value := by
  simp [expanded, Shell.set]

theorem values_set {name other : Bytes} (value : Value) (h : other ≠ name) :
    (s.set name value).values other = s.values other := by
  simp [Shell.set, h]

theorem returns_parseArguments_append {args args' : List Bytes} {s'' : Shell Image}
    (h : Returns (parseArguments args) s () s') (h' : Returns (parseArguments args') s' () s'') :
    Returns (parseArguments (args ++ args')) s () s'' := by
  induction args generalizing s with
  | nil =>
    obtain ⟨-, rfl⟩ := returns_pure.1 h
    exact h'
  | cons i args ih =>
    obtain ⟨_, s₁, hi, hargs⟩ := returns_bind.1 h
    exact returns_bind.2 ⟨(), s₁, hi, ih hargs⟩

/-- What an argument sets, if it is given. -/
theorem returns_flag (given : Bool) {argument name : Bytes} {value : Value} {ws : List Bytes}
    (harg : Returns (parseArgument argument) s () (s.set name value)) (hvalue : fields value = ws)
    (hunset : s.values name = none) :
    ∃ s', Returns (parseArguments (if given then [argument] else [])) s () s' ∧
      expanded s'.values name = (if given then ws else []) ∧
      ∀ other, other ≠ name → s'.values other = s.values other := by
  cases given with
  | true =>
    refine ⟨_, returns_bind.2 ⟨(), _, harg, returns_pure.2 ⟨rfl, rfl⟩⟩, ?_, fun other => ?_⟩
    · rw [expanded_set, hvalue, if_pos rfl]
    · exact values_set value
  | false =>
    refine ⟨s, returns_pure.2 ⟨rfl, rfl⟩, ?_, fun _ _ => rfl⟩
    rw [expanded, hunset]
    rfl

/-- The arguments of a build are never refused, and set the flags that they ask for. -/
theorem returns_parseArguments (hflag : s.values debugFlagName = none)
    (htty : s.values ttyName = none) :
    ∃ s', Returns (parseArguments (backendArgs d)) s () s' ∧ FlagsOf d s s' := by
  have hnames : ttyName ≠ debugFlagName := by decide
  have hdebug : fields debugValue = [ascii "--debug"] := by decide +kernel
  have hunbuffer : fields unbufferValue = [unbufferPath] := by decide +kernel
  obtain ⟨s₁, hargs₁, hexpanded₁, hothers₁⟩ :=
    returns_flag d.wantsDebug returns_debug hdebug hflag
  rw [← hothers₁ ttyName hnames] at htty
  obtain ⟨s₂, hargs₂, hexpanded₂, hothers₂⟩ :=
    returns_flag d.tty returns_tty hunbuffer htty
  refine ⟨s₂, returns_parseArguments_append hargs₁ hargs₂, ?_, hexpanded₂, fun name h h' => ?_⟩
  · rw [expanded, hothers₂ _ hnames.symm]
    exact hexpanded₁
  · rw [hothers₂ name h', hothers₁ name h]

end

/-! ## Machines that answer alike -/

section
variable {t t' : BackendTools Image} {lines : List (List Bytes)} {s : Shell Image}

theorem exec_run_same (h : SameOn lines t t') {line : List Bytes} (hline : line ∈ lines)
    (shown : Bool) (s : Shell Image) :
    exec (Backend.run t' shown line) s = exec (Backend.run t shown line) s := by
  simp only [Backend.run, simple, exec_call, h line hline]

theorem whenFound_same (h : SameOn lines t t') {pattern : Bytes} (hline : grepLine pattern ∈ lines)
    {c c' : Backend Image Unit}
    (hc : ∀ s', s'.values = s.values → exec c' s' = exec c s') :
    exec (whenFound t' pattern c') s = exec (whenFound t pattern c) s := by
  refine exec_bind_congr (exec_run_same h hline true s) fun grepRc s' hr => ?_
  obtain ⟨-, rfl⟩ := Backend.returns_run.1 hr
  split
  · exact hc _ rfl
  · rfl

/-- The part `c` leaves the variable `name` alone. -/
def KeepsValue (name : Bytes) (c : Backend Image Unit) : Prop :=
  ∀ value, Keeps (fun s => s.values name = value) c

theorem KeepsValue.of_returns {name : Bytes} {c : Backend Image Unit} {s' : Shell Image}
    (hc : KeepsValue name c) (hr : Returns c s () s') : s'.values name = s.values name :=
  (hc _).of_returns hr rfl

theorem dockerLogin_same (h : SameOn lines t t') {registry : List Bytes} {username token : Bytes}
    (hline : loginLine s.values registry username token ∈ lines) (shown : Bool) :
    exec (dockerLogin t' shown registry username token) s =
      exec (dockerLogin t shown registry username token) s := by
  refine exec_bind_congr rfl fun u s₁ hu => ?_
  obtain ⟨rfl, rfl⟩ := Backend.returns_expand.1 hu
  refine exec_bind_congr rfl fun v s₂ hv => ?_
  obtain ⟨rfl, rfl⟩ := Backend.returns_expand.1 hv
  exact exec_bind_congr (exec_run_same h hline shown _) fun _ _ _ => rfl

theorem keepsValue_bind {name : Bytes} {c c' : Backend Image Unit} (hc : KeepsValue name c)
    (hc' : KeepsValue name c') : KeepsValue name (do c; c') :=
  fun value => keeps_bind (hc value) fun _ => hc' value

theorem keepsValue_echo (name text : Bytes) : KeepsValue name (echo text : Backend Image Unit) :=
  fun _ => keeps_assign fun _ hs => hs

theorem keepsValue_exportOf {name other : Bytes} (value : Bytes) (h : name ≠ other) :
    KeepsValue name (exportOf other value : Backend Image Unit) :=
  fun _ => keeps_assign fun s hs => by simpa [Shell.export_, h] using hs

theorem keepsValue_exportVariable {name other : Bytes} (value : Value) (h : name ≠ other) :
    KeepsValue name (exportVariable other value : Backend Image Unit) :=
  fun _ => keeps_assign fun s hs => by simpa [Shell.export_, h] using hs

theorem keepsValue_whenFound {name pattern : Bytes} {c : Backend Image Unit}
    (hc : KeepsValue name c) : KeepsValue name (whenFound t pattern c) := by
  intro value
  refine keeps_bind (keeps_simple fun s hs => hs) fun grepRc => ?_
  split
  · exact hc value
  · exact keeps_pure ()

theorem keepsValue_dockerLogin (name : Bytes) (shown : Bool) (registry : List Bytes)
    (username token : Bytes) : KeepsValue name (dockerLogin t shown registry username token) := by
  intro value
  refine keeps_bind (fun s hs => hs) fun u => keeps_bind (fun s hs => hs) fun v => ?_
  exact keeps_bind (keeps_simple fun s hs => hs) fun _ => keeps_pure ()

/-- A note is printed and a login made, if the recipe needs it. -/
theorem login_same (h : SameOn lines t t') {pattern note : Bytes} {registry : List Bytes}
    {username token : Bytes} (hgrep : grepLine pattern ∈ lines)
    (hline : loginLine s.values registry username token ∈ lines) (shown : Bool) :
    exec (whenFound t' pattern do
        echo note
        dockerLogin t' shown registry username token) s =
      exec (whenFound t pattern do
        echo note
        dockerLogin t shown registry username token) s := by
  refine whenFound_same h hgrep fun s' hs' => exec_bind_congr rfl fun _ s₁ hr => ?_
  obtain rfl := returns_assign.1 hr
  refine dockerLogin_same h ?_ shown
  rw [show _ = s.values from hs']
  exact hline

theorem dockerLogins_same {d : ClientData} (hbackend : d.backend = .docker) {values : Variables}
    (hs : s.values = values) (h : SameOn (backendLines d values) t t') (shown : Bool) :
    exec (dockerLogins t' shown) s = exec (dockerLogins t shown) s := by
  refine exec_bind_congr (login_same h ?_ ?_ shown) fun _ s₁ hr => login_same h ?_ ?_ shown
  · simp [backendLines, hbackend]
  · simp [backendLines, hbackend, hs]
  · simp [backendLines, hbackend]
  · have hkept : s₁.values = s.values := funext fun name =>
      (keepsValue_whenFound (keepsValue_bind (keepsValue_echo name _)
        (keepsValue_dockerLogin name shown _ _ _))).of_returns hr
    simp [backendLines, hbackend, hkept, hs]

theorem dockerBuild_same {d : ClientData} (hbackend : d.backend = .docker) {values : Variables}
    (h : SameOn (backendLines d values) t t') (shown : Bool) :
    exec (dockerBuild t' (debugWords d.wantsDebug) (ttyWords d.tty) shown) s =
      exec (dockerBuild t (debugWords d.wantsDebug) (ttyWords d.tty) shown) s := by
  refine exec_bind_congr (exec_run_same h ?_ shown s) fun _ s₁ _ => ?_
  · simp [backendLines, hbackend]
  refine exec_bind_congr (exec_run_same h ?_ true s₁) fun _ s₂ _ => ?_
  · simp [backendLines, hbackend]
  refine exec_bind_congr (exec_bind_congr (exec_run_same h ?_ true s₂) fun _ _ _ => rfl)
    fun _ s₃ _ => ?_
  · simp [backendLines, hbackend]
  refine exec_bind_congr (exec_run_same h ?_ true s₃) fun _ s₄ _ => ?_
  · simp [backendLines, hbackend]
  refine exec_bind_congr rfl fun _ s₅ _ => exec_bind_congr rfl fun _ s₆ _ =>
    exec_bind_congr rfl fun _ s₇ _ => exec_run_same h ?_ true s₇
  simp [backendLines, hbackend]

theorem singularityLogins_same {d : ClientData} (hbackend : d.backend = .singularity)
    {values : Variables} (h : SameOn (backendLines d values) t t') :
    exec (singularityLogins t') s = exec (singularityLogins t) s := by
  refine exec_bind_congr (whenFound_same h ?_ fun _ _ => rfl) fun _ s₁ _ =>
    whenFound_same h ?_ fun _ _ => rfl
  · simp [backendLines, hbackend]
  · simp [backendLines, hbackend]

/-- The logins of singularity are variables of their own. -/
theorem keepsValue_singularityLogins {name : Bytes}
    (h : name ∉ [ascii "SINGULARITY_DOCKER_USERNAME", ascii "SINGULARITY_DOCKER_PASSWORD"]) :
    KeepsValue name (singularityLogins t) := by
  simp only [List.mem_cons, List.not_mem_nil, or_false, not_or] at h
  have hboth : ∀ note username token, KeepsValue name (do
      echo note
      exportOf (ascii "SINGULARITY_DOCKER_USERNAME") username
      exportOf (ascii "SINGULARITY_DOCKER_PASSWORD") token : Backend Image Unit) :=
    fun note username token => keepsValue_bind (keepsValue_echo name note)
      (keepsValue_bind (keepsValue_exportOf username h.1) (keepsValue_exportOf token h.2))
  exact keepsValue_bind (keepsValue_whenFound (hboth _ _ _)) (keepsValue_whenFound (hboth _ _ _))

theorem backendLines_eq {d : ClientData} {s s' : Shell Image} (h : FlagsOf d s s') :
    backendLines d s'.values = backendLines d s.values := by
  have hlogin : ∀ registry username token, username ∉ [debugFlagName, ttyName] →
      token ∉ [debugFlagName, ttyName] →
        loginLine s'.values registry username token = loginLine s.values registry username token := by
    intro registry username token husername htoken
    simp only [List.mem_cons, List.not_mem_nil, or_false, not_or] at husername htoken
    simp only [loginLine, expanded, h.others username husername.1 husername.2,
      h.others token htoken.1 htoken.2]
  unfold backendLines
  rw [hlogin _ _ _ (by decide) (by decide), hlogin _ _ _ (by decide) (by decide)]

theorem dockerBackend_same {d : ClientData} (hbackend : d.backend = .docker)
    (henvironment : t'.environmentSh = t.environmentSh)
    (hflag : (sourced t s).values debugFlagName = none) (htty : (sourced t s).values ttyName = none)
    (h : SameOn (backendLines d (sourced t s).values) t t') :
    exec (dockerBackend t' (backendArgs d)) s = exec (dockerBackend t (backendArgs d)) s := by
  refine exec_bind_congr (by simp only [Backend.source, assign, henvironment]) fun _ s₁ hs₁ => ?_
  obtain rfl : s₁ = sourced t s := returns_assign.1 hs₁
  refine exec_bind_congr rfl fun _ s₂ hparse => ?_
  obtain ⟨s₂', hparse', hflags⟩ := returns_parseArguments (d := d) hflag htty
  obtain ⟨-, rfl⟩ := hparse'.unique hparse
  rw [← backendLines_eq hflags] at h
  refine exec_bind_congr rfl fun debugFlag s₃ hdebugFlag => ?_
  obtain ⟨hdebug, rfl⟩ := Backend.returns_expand.1 hdebugFlag
  obtain rfl : debugFlag = debugWords d.wantsDebug := hdebug.trans hflags.debugFlag
  refine exec_bind_congr rfl fun tty s₄ htty => ?_
  obtain ⟨hwords, rfl⟩ := Backend.returns_expand.1 htty
  obtain rfl : tty = ttyWords d.tty := hwords.trans hflags.tty
  refine exec_bind_congr rfl fun shown s₅ hshown => ?_
  cases hshown
  exact exec_bind_congr (dockerLogins_same hbackend rfl h _) fun _ _ _ =>
    dockerBuild_same hbackend h _

theorem singularityBackend_same {d : ClientData} (hbackend : d.backend = .singularity)
    (henvironment : t'.environmentSh = t.environmentSh)
    (hflag : (sourced t s).values debugFlagName = none) (htty : (sourced t s).values ttyName = none)
    (h : SameOn (backendLines d (sourced t s).values) t t') :
    exec (singularityBackend t' (backendArgs d)) s =
      exec (singularityBackend t (backendArgs d)) s := by
  refine exec_bind_congr (by simp only [Backend.source, assign, henvironment]) fun _ s₁ hs₁ => ?_
  obtain rfl : s₁ = sourced t s := returns_assign.1 hs₁
  refine exec_bind_congr rfl fun _ s₂ hparse => ?_
  obtain ⟨s₂', hparse', hflags⟩ := returns_parseArguments (d := d) hflag htty
  obtain ⟨-, rfl⟩ := hparse'.unique hparse
  refine exec_bind_congr (singularityLogins_same hbackend h) fun _ s₃ hlogins => ?_
  refine exec_bind_congr rfl fun _ s₄ hcache => ?_
  -- neither the logins nor the cache directory touch the flags
  have hkept : ∀ name ∈ [debugFlagName, ttyName], s₄.values name = s₂.values name := by
    intro name hname
    have hnot : ∀ name ∈ [debugFlagName, ttyName], name ∉ [ascii "SINGULARITY_DOCKER_USERNAME",
        ascii "SINGULARITY_DOCKER_PASSWORD"] ∧ name ≠ ascii "SINGULARITY_CACHEDIR" := by decide
    exact ((keepsValue_exportVariable _ (hnot name hname).2).of_returns hcache).trans
      ((keepsValue_singularityLogins (hnot name hname).1).of_returns hlogins)
  refine exec_bind_congr rfl fun debugFlag s₅ hdebugFlag => ?_
  obtain ⟨hdebug, rfl⟩ := Backend.returns_expand.1 hdebugFlag
  rw [hkept debugFlagName (by simp)] at hdebug
  obtain rfl : debugFlag = debugWords d.wantsDebug := hdebug.trans hflags.debugFlag
  refine exec_bind_congr rfl fun tty s₆ htty => ?_
  obtain ⟨hwords, rfl⟩ := Backend.returns_expand.1 htty
  rw [hkept ttyName (by simp)] at hwords
  obtain rfl : tty = ttyWords d.tty := hwords.trans hflags.tty
  exact exec_run_same h (by simp [backendLines, hbackend]) true _

/-- **A build runs these commands and no others.** The arguments that the client's data make are
never refused; and on two machines that answer the lines of the build alike, whatever they make of
others, the script ends with the same status, output and files. -/
theorem backend_lines {d : ClientData} {command : Bytes} (hcommand : buildCommand d = .ok command)
    {c c' : Backend Image Nat} (hc : launched t command = some c)
    (hc' : launched t' command = some c') (henvironment : t'.environmentSh = t.environmentSh)
    (hflag : (sourced t s).values debugFlagName = none) (htty : (sourced t s).values ttyName = none)
    (h : SameOn (backendLines d (sourced t s).values) t t') :
    (∃ s', Returns (parseArguments (backendArgs d)) (sourced t s) () s') ∧
      result c' s = result c s := by
  obtain ⟨s', hparse, -⟩ := returns_parseArguments (d := d) hflag htty
  refine ⟨⟨s', hparse⟩, ?_⟩
  rw [launched_buildCommand hcommand] at hc hc'
  unfold result
  cases hbackend : d.backend with
  | docker =>
    rw [hbackend] at hc hc'
    obtain rfl := Option.some.inj hc
    obtain rfl := Option.some.inj hc'
    rw [dockerBackend_same hbackend henvironment hflag htty h]
  | singularity =>
    rw [hbackend] at hc hc'
    obtain rfl := Option.some.inj hc
    obtain rfl := Option.some.inj hc'
    rw [singularityBackend_same hbackend henvironment hflag htty h]
  | unspecified =>
    rw [hbackend] at hc
    cases hc

end

/-- A machine on which `rm` removes everything. -/
def brittleTools : BackendTools Disk :=
  { sampleTools with
    run := fun pwd env line vm =>
      if line.head? = some (ascii "rm") then ⟨0, [], ⟨∅, vm.images, vm.registry⟩⟩
      else sampleTools.run pwd env line vm }

/-- A build with all its flags. -/
def noisyBuild : ClientData :=
  { buildOf (ascii "Dockerfile") false with tty := true, logPriority := .debug }

def noisyShell : Shell Disk := freshShell (homeProcess (ascii "Dockerfile"))

/-- The build does not notice. -/
theorem backend_lines_rm :
    (∃ s', Returns (parseArguments (backendArgs noisyBuild)) (sourced sampleTools noisyShell) ()
      s') ∧
    result (dockerBackend brittleTools (backendArgs noisyBuild)) noisyShell =
      result (dockerBackend sampleTools (backendArgs noisyBuild)) noisyShell := by
  obtain ⟨command, hcommand⟩ : ∃ command, buildCommand noisyBuild = .ok command := ⟨_, rfl⟩
  have hlaunched : ∀ t : BackendTools Disk,
      launched t command = some (dockerBackend t (backendArgs noisyBuild)) := fun t =>
    launched_buildCommand hcommand
  have hno_rm : ∀ line ∈ backendLines noisyBuild (sourced sampleTools noisyShell).values,
      line.head? ≠ some (ascii "rm") := by decide +kernel
  refine backend_lines hcommand (hlaunched sampleTools) (hlaunched brittleTools) rfl rfl rfl
    fun line hline pwd env vm => ?_
  simp only [brittleTools, if_neg (hno_rm line hline)]

end ContainerBuilder
