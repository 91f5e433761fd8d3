import ContainerBuilder.Common.Data

/-!
# `check_input_files` (`Client/src/main.cpp:239-296`)

The regular expressions have no `multiline` option, so `"^(FROM )"` matches at the start of the file
only, and `"(From: )"` anywhere. The comment in `is_docker_recipe` is about lines, and a recipe may
have others before its first `FROM`: `followsLines_iff` says for which recipes the two agree.
-/

namespace ContainerBuilder

/-- Some position of the text, its end included, starts with `pattern`. -/
def occurs (pattern : Bytes) : Bytes → Bool
  | [] => pattern.isEmpty
  | b :: text => pattern.isPrefixOf (b :: text) || occurs pattern text

/-- What the client finds under a path; a file that cannot be read is empty. -/
structure Files where
  present : Bytes → Bool
  contents : Bytes → Bytes

namespace Files

/-- `is_docker_recipe` (main.cpp:239). -/
def isDockerRecipe (fs : Files) (filePath : Bytes) : Bool :=
  (ascii "FROM ").isPrefixOf (fs.contents filePath)

/-- `is_singularity_recipe` (main.cpp:252). -/
def isSingularityRecipe (fs : Files) (filePath : Bytes) : Bool :=
  occurs (ascii "From: ") (fs.contents filePath)

/-- The backend of the definition file, if none is specified (main.cpp:274-286). -/
def detectBackend (fs : Files) (d : ClientData) : Except Exception ClientData :=
  if d.backend = .unspecified then
    if fs.isDockerRecipe d.definitionPath then .ok { d with backend := .docker }
    else if fs.isSingularityRecipe d.definitionPath then .ok { d with backend := .singularity }
    else .error (.runtimeError (ascii "Unable to detect type of " ++ d.definitionPath))
  else .ok d

/-- `check_input_files` (main.cpp:266). -/
def checkInputFiles (fs : Files) (d : ClientData) : Except Exception ClientData :=
  if !fs.present d.definitionPath then
    .error (.runtimeError (d.definitionPath ++ ascii " Does not exists"))
  else
    match fs.detectBackend d with
    | .error ex => .error ex
    | .ok d =>
      if fs.present d.containerPath && !d.force then
        .error (.runtimeError
          (d.containerPath ++ ascii " : file already exists. Add --force flag to override"))
      else .ok d

theorem detectBackend_specified {fs : Files} {d d' : ClientData} (h : fs.detectBackend d = .ok d') :
    d'.backend ≠ .unspecified := by
  unfold detectBackend at h
  split at h
  · split at h
    · obtain rfl := Except.ok.inj h
      simp
    · split at h
      · obtain rfl := Except.ok.inj h
        simp
      · cases h
  · rename_i hspec
    obtain rfl := Except.ok.inj h
    exact hspec

/-- Accepted data names a backend. -/
theorem checkInputFiles_specified {fs : Files} {d d' : ClientData}
    (h : fs.checkInputFiles d = .ok d') : d'.backend ≠ .unspecified := by
  unfold checkInputFiles at h
  split at h
  · cases h
  · split at h
    · cases h
    · rename_i hdetect
      split at h
      · cases h
      · obtain rfl := Except.ok.inj h
        exact detectBackend_specified hdetect

/-! ## Lines -/

/-- Some line of the text begins with `pattern`. -/
def someLineBegins (pattern text : Bytes) : Bool := (text.splitOn 10).any pattern.isPrefixOf

/-- The backend the lines of a definition file call for. -/
def backendOfLines (text : Bytes) : Option BackendType :=
  if someLineBegins (ascii "FROM ") text then some .docker
  else if occurs (ascii "From: ") text then some .singularity
  else none

/-- `check_input_files` goes by the lines of the definition file. -/
def FollowsLines (fs : Files) (d : ClientData) : Prop :=
  match backendOfLines (fs.contents d.definitionPath) with
  | some backend => fs.checkInputFiles d = .ok { d with backend := backend }
  | none => ∃ ex, fs.checkInputFiles d = .error ex

/-- A text that begins with `pattern` has a first line that does. -/
theorem splitOn_of_isPrefixOf : ∀ {pattern text : Bytes}, 10 ∉ pattern →
    pattern.isPrefixOf text = true →
      ∃ line lines, text.splitOn 10 = line :: lines ∧ pattern.isPrefixOf line = true
  | [], text, _, _ => by
    obtain ⟨line, lines, hsplit⟩ := List.exists_cons_of_ne_nil (List.splitOn_ne_nil 10 text)
    exact ⟨line, lines, hsplit, rfl⟩
  | _ :: _, [], _, h => by cases h
  | p :: pattern, b :: text, hn, h => by
    simp only [List.isPrefixOf, Bool.and_eq_true, beq_iff_eq] at h
    obtain ⟨rfl, hpre⟩ := h
    simp only [List.mem_cons, not_or] at hn
    obtain ⟨line, lines, hsplit, hline⟩ := splitOn_of_isPrefixOf hn.2 hpre
    refine ⟨p :: line, lines, ?_, by simpa using hline⟩
    have hp : (p == 10) = false := beq_eq_false_iff_ne.2 (Ne.symm hn.1)
    rw [List.splitOn_cons_eq_if_modifyHead, hp, hsplit]
    rfl

theorem someLineBegins_of_isPrefixOf {pattern text : Bytes} (hn : 10 ∉ pattern)
    (h : pattern.isPrefixOf text = true) : someLineBegins pattern text = true := by
  obtain ⟨line, lines, hsplit, hline⟩ := splitOn_of_isPrefixOf hn h
  simp [someLineBegins, hsplit, hline]

/-- Detection sets the backend and nothing else. -/
theorem detectBackend_ok {fs : Files} {d d' : ClientData} (h : fs.detectBackend d = .ok d') :
    d' = { d with backend := d'.backend } := by
  unfold detectBackend at h
  by_cases hspec : d.backend = .unspecified
  · rw [if_pos hspec] at h
    split at h
    · cases h
      rfl
    · split at h
      · cases h
        rfl
      · cases h
  · rw [if_neg hspec] at h
    cases h
    rfl

/-- The other checks let the detection through. -/
theorem checkInputFiles_detect {fs : Files} {d : ClientData}
    (hdef : fs.present d.definitionPath = true)
    (himage : fs.present d.containerPath = true → d.force = true) :
    fs.checkInputFiles d = fs.detectBackend d := by
  unfold checkInputFiles
  rw [hdef]
  cases hd : fs.detectBackend d with
  | error ex => rfl
  | ok d' =>
    have hsame := detectBackend_ok hd
    have hpath : d'.containerPath = d.containerPath := by rw [hsame]
    have hforce : d'.force = d.force := by rw [hsame]
    by_cases hp : fs.present d.containerPath = true
    · simp [hpath, hforce, hp, himage hp]
    · simp [hpath, hp]

/-- **The backend follows the lines** of those recipes that begin with `"FROM "` themselves or have
no such line at all. -/
theorem followsLines_iff {fs : Files} {d : ClientData} (hspec : d.backend = .unspecified)
    (hdef : fs.present d.definitionPath = true)
    (himage : fs.present d.containerPath = true → d.force = true) :
    FollowsLines fs d ↔
      ((ascii "FROM ").isPrefixOf (fs.contents d.definitionPath) = true ∨
        someLineBegins (ascii "FROM ") (fs.contents d.definitionPath) = false) := by
  have hfrom : 10 ∉ ascii "FROM " := by decide
  unfold FollowsLines backendOfLines
  rw [checkInputFiles_detect hdef himage, detectBackend, if_pos hspec]
  unfold isDockerRecipe isSingularityRecipe
  generalize fs.contents d.definitionPath = text
  by_cases hdocker : (ascii "FROM ").isPrefixOf text = true
  · simp [hdocker, someLineBegins_of_isPrefixOf hfrom hdocker]
  · by_cases hline : someLineBegins (ascii "FROM ") text = true
    · by_cases hsing : occurs (ascii "From: ") text = true
      · simp [hdocker, hline, hsing]
      · simp [hdocker, hline, hsing]
    · by_cases hsing : occurs (ascii "From: ") text = true
      · simp [hdocker, hline, hsing]
      · simp [hdocker, hline, hsing]

/-- The one definition file there is, under the name `Dockerfile`. -/
def dockerfile (text : Bytes) : Files where
  present path := path == ascii "Dockerfile"
  contents _ := text

/-- A build of `Dockerfile` with no backend specified. -/
def dockerfileData : ClientData :=
  ⟨ascii "me", false, false, .info, .x86_64, .unspecified, false, ascii "c.img",
    ascii "Dockerfile", ascii "queue"⟩

theorem followsLines_from : FollowsLines (dockerfile (ascii "FROM centos")) dockerfileData :=
  (followsLines_iff rfl (by decide) (by decide)).2 (.inl (by decide))

/-- A comment before `FROM` hides it: the recipe is refused. -/
theorem comment_hides_from :
    someLineBegins (ascii "FROM ") (ascii "# base\nFROM centos") = true ∧
    (dockerfile (ascii "# base\nFROM centos")).checkInputFiles dockerfileData =
      .error (.runtimeError (ascii "Unable to detect type of Dockerfile")) ∧
    ¬ FollowsLines (dockerfile (ascii "# base\nFROM centos")) dockerfileData := by
  have hline : someLineBegins (ascii "FROM ") (ascii "# base\nFROM centos") = true := by decide
  have hrefused : (dockerfile (ascii "# base\nFROM centos")).checkInputFiles dockerfileData =
      .error (.runtimeError (ascii "Unable to detect type of Dockerfile")) := by rfl
  refine ⟨hline, hrefused, fun h => ?_⟩
  simp only [FollowsLines, backendOfLines, dockerfile, hline, if_true] at h
  cases hrefused.symm.trans h

end Files

end ContainerBuilder
