import ContainerBuilder.Client.ExitStatus

/-!
# What the steps of the client leave as it was

The `try` block of the client's `main` is a row of steps, each of which is about one part of the
state: the first three find the client data, `write_context` and `read_file` work on the disk, and
`stream_build` reads what has arrived. What a step is not about it leaves alone, however it ends
(`stepFrame`).
-/

namespace ContainerBuilder

open Lib

/-- What the step `k` may have changed between `x` and `x'`. -/
structure StepFrame (k : MainStep) (x x' : ClientMain) : Prop where
  clientData : k ∉ [.parseEnvironment, .parseArguments, .checkInputFiles] →
    x'.clientData = x.clientData
  process : k ∉ [.writeContext, .readFile] → x'.process = x.process
  arrivals : k ≠ .streamBuild → x'.arrivals = x.arrivals

theorem StepFrame.refl (k : MainStep) (x : ClientMain) : StepFrame k x x :=
  ⟨fun _ => rfl, fun _ => rfl, fun _ => rfl⟩

section
variable {m : MainCalls} {x x' : ClientMain} {k : MainStep}

theorem exec_systemCall_state (error : ErrorCode) : (exec (systemCall error) x).2 = x := by
  cases error with
  | none => rfl
  | some value => rfl

theorem stepFrame (m : MainCalls) (k : MainStep) (x : ClientMain) :
    StepFrame k x (exec (k.call m) x).2 := by
  have hsystem : ∀ error, StepFrame k x (exec (systemCall error) x).2 := fun error => by
    rw [exec_systemCall_state]
    exact .refl k x
  cases k with
  | parseEnvironment =>
    simp only [MainStep.call, Client.parseEnvironment, exec_call]
    split
    · exact .refl _ x
    · exact .refl _ x
    · exact ⟨by simp, fun _ => rfl, fun _ => rfl⟩
  | parseArguments =>
    simp only [MainStep.call, Client.parseArguments, exec_call]
    split
    · exact .refl _ x
    · split
      · split
        · exact .refl _ x
        · exact ⟨by simp, fun _ => rfl, fun _ => rfl⟩
      · exact .refl _ x
  | checkInputFiles =>
    simp only [MainStep.call, Client.checkInputFiles, exec_call]
    split
    · exact .refl _ x
    · split
      · exact .refl _ x
      · exact ⟨by simp, fun _ => rfl, fun _ => rfl⟩
  | wait animation =>
    simp only [MainStep.call, Client.waitingAnimation, exec_call]
    split
    · exact .refl _ x
    · exact hsystem _
  | getBuilder =>
    simp only [MainStep.call, Client.getBuilder, exec_call]
    split
    · exact .refl _ x
    · exact .refl _ x
    · split
      · exact .refl _ x
      · exact ⟨fun _ => rfl, fun _ => rfl, fun _ => rfl⟩
  | connectQueue | connectBuilder | writeClientData | closeBuilder | closeQueue => exact hsystem _
  | writeContext =>
    simp only [MainStep.call, Client.sendContext, exec_call, within]
    split
    · exact ⟨fun _ => rfl, by simp, fun _ => rfl⟩
    · exact ⟨fun _ => rfl, by simp, fun _ => rfl⟩
  | streamBuild =>
    simp only [MainStep.call, Client.streamBuild, exec_call]
    split
    · exact ⟨fun _ => rfl, fun _ => rfl, by simp⟩
    · exact .refl _ x
  | readFile =>
    simp only [MainStep.call, Client.readImage, exec_call]
    split
    · exact ⟨fun _ => rfl, by simp, fun _ => rfl⟩
    · exact .refl _ x

/-- A step that returns has not been interrupted. -/
theorem returns_run :
    Returns (m.run k) x () x' ↔ m.signal k = none ∧ Returns (k.call m) x () x' := by
  unfold MainCalls.run
  cases m.signal k with
  | none => simp [Returns, interruptible]
  | some y => simp [Returns, interruptible]

theorem stepFrame_of_returns (h : Returns (m.run k) x () x') : StepFrame k x x' := by
  have hframe := stepFrame m k x
  rwa [show exec (k.call m) x = (.ok (), x') from (returns_run.1 h).2] at hframe

/-! ## Before the image is read -/

/-- The steps up to `write_context`. -/
def beforeContext : List MainStep :=
  [.parseEnvironment, .parseArguments, .checkInputFiles, .wait .waitQueue, .connectQueue,
    .wait .waitBuilder, .getBuilder, .connectBuilder, .writeClientData, .wait .waitContext]

/-- The context of `x` has been sent, and the build of it has succeeded. -/
structure MainCalls.Served (m : MainCalls) (x₀ x : ClientMain) : Prop where
  context : Returns (Client.writeContext m.context x.clientData) x₀.process () x.process
  build : relay (.start m.messageDone) x₀.arrivals = .ok x.arrivals

theorem returns_sendContext :
    Returns (Client.sendContext m) x () x' ↔
      ∃ s, Returns (Client.writeContext m.context x.clientData) x.process () s ∧
        x' = { x with process := s } := by
  unfold Returns Client.sendContext
  rw [exec_call]
  exact returns_within

theorem returns_streamBuild (h : Returns (Client.streamBuild m) x () x') :
    ∃ as, relay (.start m.messageDone) x.arrivals = .ok as ∧ x' = { x with arrivals := as } := by
  unfold Returns Client.streamBuild at h
  rw [exec_call] at h
  cases hrelay : relay (.start m.messageDone) x.arrivals with
  | error stop =>
    simp only [hrelay] at h
    cases h
  | ok as =>
    simp only [hrelay] at h
    cases h
    exact ⟨as, rfl, rfl⟩

/-- When `stream_build` begins, the context has been sent and nothing of the build has been read. -/
theorem context_of_begins {x₀ : ClientMain} (h : Begins m.run trySteps x₀ .streamBuild x) :
    Returns (Client.writeContext m.context x.clientData) x₀.process () x.process ∧
      x.arrivals = x₀.arrivals := by
  have hbegins : Begins m.run (beforeContext ++ [MainStep.writeContext] ++
      MainStep.streamBuild :: [MainStep.wait .waitImage, MainStep.readFile]) x₀ .streamBuild x := h
  have hbefore := returns_of_begins (by decide) (by decide) hbegins
  obtain ⟨x₁, hfirst, hrest⟩ := returns_inOrder_append.1 hbefore
  obtain ⟨x₂, hcontext, hrest₂⟩ := returns_inOrder_cons.1 hrest
  obtain ⟨-, rfl⟩ := returns_pure.1 hrest₂
  -- the steps before the context touch neither the files nor what arrives
  have hnot : ∀ k ∈ beforeContext, k ∉ [.writeContext, .readFile] ∧ k ≠ .streamBuild := by decide
  have hsame : x₁.process = x₀.process ∧ x₁.arrivals = x₀.arrivals := by
    refine returns_inOrder_keeps (I := fun y => y.process = x₀.process ∧ y.arrivals = x₀.arrivals)
      (fun k hk y y' hy hr => ?_) ⟨rfl, rfl⟩ hfirst
    have hframe := stepFrame_of_returns hr
    exact ⟨(hframe.process (hnot k hk).1).trans hy.1, (hframe.arrivals (hnot k hk).2).trans hy.2⟩
  obtain ⟨s, hwrite, rfl⟩ := returns_sendContext.1 (returns_run.1 hcontext).2
  rw [hsame.1] at hwrite
  exact ⟨hwrite, hsame.2⟩

/-- **When `read_file` begins**, the context has been sent and the build has succeeded. -/
theorem ImageRead.served {x₀ : ClientMain} (h : ImageRead m x₀ x x') : m.Served x₀ x := by
  have hbegins : Begins m.run (beforeContext ++ [MainStep.writeContext] ++
      [MainStep.streamBuild, MainStep.wait .waitImage] ++ [MainStep.readFile]) x₀ .readFile x := h.1
  have hbefore := returns_of_begins (by decide) (by decide) hbegins
  obtain ⟨x₁, hfirst, hrest⟩ := returns_inOrder_append.1 hbefore
  obtain ⟨x₂, hstream, hrest₂⟩ := returns_inOrder_cons.1 hrest
  obtain ⟨x₃, hwait, hrest₃⟩ := returns_inOrder_cons.1 hrest₂
  obtain ⟨-, rfl⟩ := returns_pure.1 hrest₃
  have hbuild : Begins m.run (beforeContext ++ [MainStep.writeContext] ++ MainStep.streamBuild ::
      [MainStep.wait .waitImage, MainStep.readFile]) x₀ .streamBuild x₁ := begins_append hfirst
  obtain ⟨hwrite, harrivals⟩ := context_of_begins hbuild
  have hframe := stepFrame_of_returns hwait
  obtain ⟨as, hrelay, rfl⟩ := returns_streamBuild (returns_run.1 hstream).2
  rw [harrivals] at hrelay
  refine ⟨?_, ?_⟩
  · rw [hframe.clientData (by decide), hframe.process (by decide)]
    exact hwrite
  · rw [hframe.arrivals (by decide)]
    exact hrelay

end

end ContainerBuilder
