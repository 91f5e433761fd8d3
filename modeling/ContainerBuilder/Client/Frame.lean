import ContainerBuilder.Client.Steps

/-!
# What a run of the client leaves as it was

`write_context` works in a directory of its own, copies and archives it there and removes it, and
`read_file` truncates the file at `container_path`. `check_input_files` lets an existing file pass
only with `--force`. So a run may leave a partial image or a directory that should be gone, but
nothing that existed before is changed by it, whatever fails: `files_kept`.

| here | there |
| --- | --- |
| `Spares`         | nothing outside the temporary directory is changed or removed |
| `ForcesOverwrite` | the last test of `check_input_files` (`Client/src/main.cpp:289-295`) |
-/

namespace ContainerBuilder

open Lib

/-- What was there and not under `temp` is there as it was. -/
def Spares (temp : Path) (before after : Disk) : Prop :=
  ∀ p n, before.lookup p = some n → ¬ temp <+: p → after.lookup p = some n

namespace Spares

variable {temp : Path} {before disk disk' : Disk}

theorem refl : Spares temp before before := fun _ _ h _ => h

theorem trans (h : Spares temp before disk) (h' : Spares temp disk disk') :
    Spares temp before disk' := fun p n hp hout => h' p n (h p n hp hout) hout

theorem makeDirectories (path : Path) : Spares temp before (before.makeDirectories path) := by
  intro p n hp _
  rw [lookup_makeDirectories, hp]
  split <;> rfl

theorem leave (left : Disk) : Spares temp before (before.leave temp left) := by
  intro p n hp hout
  rw [Disk.leave, Tree.lookup_graft, if_neg hout]
  exact hp

theorem prune : Spares temp before (before.prune temp) := by
  intro p n hp hout
  rw [Tree.lookup_prune, if_neg hout]
  exact hp

theorem overlay {root : Path} (hroot : temp <+: root) (t : Disk) :
    Spares temp before (before.overlay root t) := by
  intro p n hp hout
  rw [Tree.lookup_overlay, if_neg fun hpre => hout (hroot.trans hpre)]
  exact hp

theorem set {path : Path} (hpath : temp <+: path) (n : Node) :
    Spares temp before (before.set path n) := by
  intro p m hp hout
  rw [Tree.lookup_set, if_neg]
  · exact hp
  · rintro rfl
    exact hout hpath

end Spares

/-! ## The calls -/

section
variable {e : ContextCalls} {clientData : ClientData} {s s' : Process}

theorem spares_createDirectories (fails : Option (Nat × Nat)) (path : Path) :
    Spares e.tempPath s.disk (exec (createDirectories fails path) s).2.disk := by
  unfold createDirectories
  rw [exec_call]
  cases fails with
  | none => exact .makeDirectories path
  | some f => exact .makeDirectories (path.take f.2)

theorem spares_copyFile (fails : Option Failure) (source : Path) {target : Path}
    (htarget : e.tempPath <+: target) :
    Spares e.tempPath s.disk (exec (copyFile fails e.tempPath source target) s).2.disk := by
  unfold copyFile
  rw [exec_call]
  cases fails with
  | some f => exact .leave f.left
  | none =>
    simp only
    split
    · split
      · exact .refl
      · exact .set htarget _
    · exact .refl

theorem spares_setCurrentPath (fails : Option Nat) (path : Path) :
    (exec (setCurrentPath fails path) s).2.disk = s.disk := by
  unfold setCurrentPath
  rw [exec_call]
  cases fails with
  | some value => rfl
  | none =>
    simp only
    split <;> rfl

theorem spares_removeAll (superuser : Bool) (fails : Option Failure) (denied : Disk) :
    Spares e.tempPath s.disk (exec (removeAll superuser fails denied e.tempPath) s).2.disk := by
  unfold removeAll
  rw [exec_call]
  cases fails with
  | none =>
    simp only
    split
    · exact .prune
    · exact .leave denied
  | some f => exact .leave f.left

/-- A command that keeps to the temporary directory when it succeeds. -/
theorem spares_command {run : Process → Except CommandFailure Disk} {what : Bytes}
    (h : ∀ disk, run s = .ok disk → Spares e.tempPath s.disk disk) :
    Spares e.tempPath s.disk (exec (command e.tempPath run what) s).2.disk := by
  unfold command
  refine exec_bind_inv (I := fun s' : Process => Spares e.tempPath s.disk s'.disk) ?_
    fun rc s' _ hs' => ?_
  · unfold system
    rw [exec_call]
    cases hrun : run s with
    | ok disk => exact h disk hrun
    | error f =>
      cases f with
      | exit rc nonzero left => exact .leave left
      | launch value => exact .refl
  · unfold checkRc
    rw [exec_call]
    split
    · exact hs'
    · exact hs'

theorem spares_copyContext :
    Spares e.tempPath s.disk (exec (Client.copyContext e clientData) s).2.disk := by
  unfold Client.copyContext
  split
  · refine spares_command fun disk hrun => ?_
    unfold ContextCalls.runCp at hrun
    split at hrun
    · cases hrun
    · split at hrun
      · obtain rfl := Except.ok.inj hrun
        exact .overlay (List.prefix_append ..) _
      · cases hrun
  · exact .refl

theorem spares_createTarball (h : s.currentPath = e.tempPath) :
    Spares e.tempPath s.disk (exec (Client.createTarball e) s).2.disk := by
  refine spares_command fun disk hrun => ?_
  unfold ContextCalls.runTar at hrun
  cases htar : e.tar (ContextCalls.archived s) with
  | error f =>
    rw [htar] at hrun
    cases hrun
  | ok file =>
    rw [htar] at hrun
    obtain rfl := Except.ok.inj hrun
    rw [h]
    exact .set (List.prefix_append ..) _

theorem spares_openAndWriteFile (freed : Freed) (fails : Option Thrown)
    (broken : Option (Nat × Thrown)) (fileName : Path) :
    (exec (openAndWriteFile freed fails broken fileName) s).2.disk = s.disk := by
  unfold openAndWriteFile
  rw [exec_call]
  split
  · simp only
    split <;> rfl
  · rfl
  · rfl

theorem openAndWriteFile_currentPath (freed : Freed) (fails : Option Thrown)
    (broken : Option (Nat × Thrown)) (fileName : Path) :
    (exec (openAndWriteFile freed fails broken fileName) s).2.currentPath = s.currentPath := by
  unfold openAndWriteFile
  rw [exec_call]
  split
  · simp only
    split <;> rfl
  · rfl
  · rfl

/-- **`write_context` keeps to its directory**, however it ends. -/
theorem spares_writeContext :
    Spares e.tempPath s.disk (exec (Client.writeContext e clientData) s).2.disk := by
  have hnext : ∀ {α β : Type} {c : CallM Thrown Process α} {f : α → CallM Thrown Process β}
      {s₁ : Process}, Spares e.tempPath s.disk s₁.disk →
      Spares e.tempPath s₁.disk (exec c s₁).2.disk →
      (∀ a s₂, Returns c s₁ a s₂ → Spares e.tempPath s.disk s₂.disk →
        Spares e.tempPath s.disk (exec (f a) s₂).2.disk) →
      Spares e.tempPath s.disk (exec (c >>= f) s₁).2.disk := fun hs hc hf =>
    exec_bind_inv (I := fun s' : Process => Spares e.tempPath s.disk s'.disk) (hs.trans hc) hf
  have hsame : ∀ {s₁ s₂ : Process}, s₂.disk = s₁.disk → Spares e.tempPath s₁.disk s₂.disk :=
    fun he => he ▸ .refl
  have hdefinition : e.tempPath <+: e.contextTempPath ++ [definitionName] :=
    ContextCalls.temp_above_context e _
  unfold Client.writeContext
  refine hnext .refl (spares_createDirectories _ _) fun _ s₁ _ h₁ => ?_
  refine hnext h₁ spares_copyContext fun _ s₂ _ h₂ => ?_
  refine hnext h₂ .refl fun pwd s₃ _ h₃ => ?_
  refine hnext h₃ (spares_copyFile _ _ hdefinition) fun _ s₄ _ h₄ => ?_
  refine hnext h₄ .refl fun originalPwd s₅ _ h₅ => ?_
  refine hnext h₅ (hsame (spares_setCurrentPath _ _)) fun _ s₆ hr₆ h₆ => ?_
  obtain ⟨-, -, rfl⟩ := returns_setCurrentPath.1 hr₆
  refine hnext h₆ (spares_createTarball rfl) fun _ s₇ _ h₇ => ?_
  refine hnext h₇ (hsame (spares_setCurrentPath _ _)) fun _ s₈ _ h₈ => ?_
  refine hnext h₈ (hsame (spares_openAndWriteFile _ _ _ _)) fun _ s₉ _ h₉ => ?_
  exact h₉.trans (spares_removeAll _ _ _)

/-- When it returns, the client is back in its directory. -/
theorem writeContext_currentPath {a : Unit}
    (h : Returns (Client.writeContext e clientData) s a s') :
    s'.currentPath = s.currentPath := by
  obtain ⟨_, s₁, hr₁, h₁⟩ := returns_bind.1 h
  obtain ⟨-, rfl⟩ := returns_createDirectories.1 hr₁
  obtain ⟨_, s₂, hr₂, h₂⟩ := returns_bind.1 h₁
  obtain ⟨-, hs₂⟩ := ContextCalls.returns_copyContext.1 hr₂
  have hpath : s₂.currentPath = s.currentPath := by
    rw [hs₂]
    split <;> rfl
  obtain ⟨_, s₃, hr₃, h₃⟩ := returns_bind.1 h₂
  obtain ⟨-, rfl⟩ := returns_currentPath.1 hr₃
  obtain ⟨_, s₄, hr₄, h₄⟩ := returns_bind.1 h₃
  obtain ⟨-, content, -, -, rfl⟩ := returns_copyFile.1 hr₄
  obtain ⟨_, s₅, hr₅, h₅⟩ := returns_bind.1 h₄
  obtain ⟨rfl, rfl⟩ := returns_currentPath.1 hr₅
  obtain ⟨_, s₆, -, h₆⟩ := returns_bind.1 h₅
  obtain ⟨_, s₇, -, h₇⟩ := returns_bind.1 h₆
  obtain ⟨_, s₈, hr₈, h₈⟩ := returns_bind.1 h₇
  obtain ⟨-, -, rfl⟩ := returns_setCurrentPath.1 hr₈
  obtain ⟨_, s₉, hr₉, h₉⟩ := returns_bind.1 h₈
  obtain ⟨-, -, rfl⟩ := returns_removeAll.1 h₉
  have hwrite : s₉.currentPath = s₃.currentPath := by
    have hpath := openAndWriteFile_currentPath (s := { s₇ with currentPath := s₃.currentPath })
      e.freed e.openError e.transferError (e.tempPath ++ [tarballName])
    have hexec : exec _ _ = _ := hr₉
    rw [hexec] at hpath
    exact hpath
  exact hwrite.trans hpath

end

/-! ## The run -/

/-- What exists is overwritten only if that is forced. -/
def ForcesOverwrite (m : MainCalls) (clientData : ClientData) : Prop :=
  m.files.present clientData.containerPath = true → clientData.force = true

section
variable {m : MainCalls} {x x' : ClientMain}

theorem returns_checkInputFiles (h : Returns (Client.checkInputFiles m) x () x') :
    ForcesOverwrite m x'.clientData := by
  unfold Returns Client.checkInputFiles at h
  rw [exec_call] at h
  split at h
  · cases h
  · split at h
    · cases h
    · rename_i d hcheck
      cases h
      unfold Files.checkInputFiles at hcheck
      split at hcheck
      · cases hcheck
      · split at hcheck
        · cases hcheck
        · split at hcheck
          · cases hcheck
          · rename_i hforce
            obtain rfl := Except.ok.inj hcheck
            intro hpresent
            simpa [hpresent] using hforce

/-- Without Ctrl-C a step is its call. -/
theorem exec_run_of_none (hno : m.interrupt = none) (k : MainStep) :
    exec (m.run k) x = exec (k.call m) x := by
  have hsignal : m.signal k = none := by simp [MainCalls.signal, hno]
  unfold MainCalls.run
  rw [hsignal]
  rfl

/-- The streams are closed in the state that the `try` block leaves. -/
theorem main_state (hno : m.interrupt = none) :
    (exec (Client.main m) x).2 = (exec (inOrder m.run trySteps) x).2 := by
  have hclose : ∀ k ∈ [MainStep.closeBuilder, .closeQueue], ∀ y,
      (exec (catchAll (m.run k)) y).2 = y := by
    intro k hk y
    rw [exec_catchAll_state, exec_run_of_none hno]
    simp only [List.mem_cons, List.not_mem_nil, or_false] at hk
    rcases hk with rfl | rfl
    · exact exec_systemCall_state _
    · exact exec_systemCall_state _
  rw [← exec_catchAll_state]
  let I : ClientMain → Prop := fun y => y = (exec (catchAll (inOrder m.run trySteps)) x).2
  have hmain : I (exec (Client.main m) x).2 := by
    unfold Client.main
    refine exec_bind_inv rfl fun _ y _ (hy : I y) => ?_
    refine exec_bind_inv ((hclose .closeBuilder (by simp) y).trans hy) fun _ y' _ (hy' : I y') => ?_
    exact exec_bind_inv ((hclose .closeQueue (by simp) y').trans hy') fun _ y'' _ hy'' => hy''
  exact hmain

/-- Up to `read_file`, only the temporary directory is touched. -/
theorem spares_step (hno : m.interrupt = none) {k : MainStep} (hk : k ≠ .readFile) :
    Spares m.context.tempPath x.process.disk (exec (m.run k) x).2.process.disk := by
  rw [exec_run_of_none hno]
  by_cases hcontext : k = .writeContext
  · subst hcontext
    have hwrite : Spares _ _ (exec (Client.writeContext m.context x.clientData) x.process).2.disk :=
      spares_writeContext
    simp only [MainStep.call, Client.sendContext, exec_call, within]
    split
    · rename_i hexec
      rwa [hexec] at hwrite
    · rename_i hexec
      rwa [hexec] at hwrite
  · rw [(stepFrame m k x).process (by simp [hcontext, hk])]
    exact .refl

/-- When a step returns, the client is where it was. -/
theorem run_currentPath {k : MainStep} (hk : k ≠ .readFile) (h : Returns (m.run k) x () x') :
    x'.process.currentPath = x.process.currentPath := by
  by_cases hcontext : k = .writeContext
  · subst hcontext
    obtain ⟨s, hwrite, rfl⟩ := returns_sendContext.1 (returns_run.1 h).2
    exact writeContext_currentPath hwrite
  · rw [(stepFrame_of_returns h).process (by simp [hcontext, hk])]

/-- The steps up to `read_file`. -/
def beforeImage : List MainStep := beforeContext ++ [.writeContext, .streamBuild, .wait .waitImage]

/-- Where the image is to be read, an overwrite is forced. -/
theorem forced_beforeImage {x₀ : ClientMain} (h : Returns (inOrder m.run beforeImage) x₀ () x) :
    x.process.currentPath = x₀.process.currentPath ∧ ForcesOverwrite m x.clientData := by
  have hnot : ∀ k ∈ beforeImage, k ≠ .readFile := by decide
  constructor
  · exact returns_inOrder_keeps (I := fun y => y.process.currentPath = x₀.process.currentPath)
      (fun k hk y y' hy hr => (run_currentPath (hnot k hk) hr).trans hy) rfl h
  · have hsplit : beforeImage =
        [.parseEnvironment, .parseArguments] ++ .checkInputFiles :: beforeImage.drop 3 := rfl
    rw [hsplit] at h
    obtain ⟨x₁, -, hrest⟩ := returns_inOrder_append.1 h
    obtain ⟨x₂, hcheck, hlater⟩ := returns_inOrder_cons.1 hrest
    have hdata : ∀ k ∈ beforeImage.drop 3,
        k ∉ [.parseEnvironment, .parseArguments, .checkInputFiles] := by decide
    refine returns_inOrder_keeps (I := fun y => ForcesOverwrite m y.clientData)
      (fun k hk y y' hy hr => ?_) (returns_checkInputFiles (returns_run.1 hcheck).2) hlater
    rw [(stepFrame_of_returns hr).clientData (hdata k hk)]
    exact hy

end

/-- **Nothing that exists is lost.** In every run that Ctrl-C does not cut short, whatever fails in
it: what existed before is there afterwards as it was, except, with `--force`, the file at
`container_path`. -/
theorem files_kept {m : MainCalls} {x₀ : ClientMain} (hno : m.interrupt = none)
    (hunique : ∀ p, m.context.tempPath <+: p → x₀.process.disk.lookup p = none)
    (hpresent : ∀ name, (x₀.process.disk.lookup
      (m.context.resolve x₀.process.currentPath name)).isSome = true → m.files.present name = true)
    {p : Path} {n : Node} (hp : x₀.process.disk.lookup p = some n) :
    (exec (Client.main m) x₀).2.process.disk.lookup p = some n ∨
      ((exec (Client.main m) x₀).2.clientData.force = true ∧
        p = m.context.resolve x₀.process.currentPath
          (exec (Client.main m) x₀).2.clientData.containerPath) := by
  have hout : ¬ m.context.tempPath <+: p := by
    intro hpre
    rw [hunique p hpre] at hp
    cases hp
  have hspares : Spares m.context.tempPath x₀.process.disk
      (exec (inOrder m.run beforeImage) x₀).2.process.disk := by
    have hnot : ∀ k ∈ beforeImage, k ≠ .readFile := by decide
    exact exec_inOrder_inv
      (I := fun y : ClientMain => Spares m.context.tempPath x₀.process.disk y.process.disk)
      (fun k hk y hy => hy.trans (spares_step hno (hnot k hk))) .refl
  have hsplit : trySteps = beforeImage ++ [.readFile] := rfl
  rw [main_state hno, hsplit, exec_inOrder_append, exec_bind]
  cases hexec : exec (inOrder m.run beforeImage) x₀ with
  | mk a x =>
    rw [hexec] at hspares
    cases a with
    | error stop => exact .inl (hspares p n hp hout)
    | ok a =>
      obtain ⟨hpath, hforces⟩ := forced_beforeImage hexec
      let I : ClientMain → Prop := fun y => y.process.disk.lookup p = some n ∨
        (y.clientData.force = true ∧
          p = m.context.resolve x₀.process.currentPath y.clientData.containerPath)
      have hread : I (exec (m.run .readFile) x).2 := by
        rw [exec_run_of_none hno]
        simp only [MainStep.call, Client.readImage, exec_call]
        split
        · by_cases htarget : p = Client.containerPath m x
          · rw [Client.containerPath, hpath] at htarget
            have hthere := Option.isSome_of_eq_some hp
            rw [htarget] at hthere
            exact .inr ⟨hforces (hpresent _ hthere), htarget⟩
          · refine .inl ?_
            rw [Tree.lookup_set, if_neg htarget]
            exact hspares p n hp hout
        · exact .inl (hspares p n hp hout)
      exact exec_bind_inv hread fun _ y _ hy => hy

/-- The definition file is kept when the builder never answers. -/
theorem files_kept_definition :
    let m : MainCalls := { unsetQueueHost with queueHost := some (ascii "queue") }
    (exec (Client.main m) atStart).2.process.disk.lookup (homeDirectory ++ [ascii "Dockerfile"]) =
        some (.file [1]) ∨
      ((exec (Client.main m) atStart).2.clientData.force = true ∧
        homeDirectory ++ [ascii "Dockerfile"] = m.context.resolve homeDirectory
          (exec (Client.main m) atStart).2.clientData.containerPath) := by
  intro m
  have hpresent : ∀ name, (atStart.process.disk.lookup
      (m.context.resolve atStart.process.currentPath name)).isSome = true →
        m.files.present name = true := by
    intro name hthere
    by_cases hname : name = ascii "Dockerfile"
    · subst hname
      rfl
    · have hne : homeDirectory ++ [name] ≠ homeDirectory ++ [ascii "Dockerfile"] :=
        fun h => hname (List.singleton_inj.1 (List.append_cancel_left h))
      have hhome : homeDirectory ++ [name] ≠ homeDirectory := by simp
      have hgone : atStart.process.disk.lookup (homeDirectory ++ [name]) = none := by
        simp only [atStart, homeProcess, Tree.lookup_set, if_neg hne, if_neg hhome]
        exact Finmap.lookup_empty _
      cases hgone ▸ hthere
  exact files_kept rfl (home_onEntry smallTar (ascii "Dockerfile") false).temp_unused hpresent
    (home_definition _)

end ContainerBuilder
