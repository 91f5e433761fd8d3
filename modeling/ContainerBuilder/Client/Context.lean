import ContainerBuilder.Transfer.Process

/-!
# `write_context` (`Client/src/main.cpp:299-335`)

The client assembles the build context in a directory of its own, archives it there, sends the
archive and removes the directory, all in a row: an exception of any step passes by the steps after
it, and the removal is the last of them.

| here | there |
| --- | --- |
| `ContextCalls`            | how the system answers the calls of `write_context` |
| `Client.copyContext`      | `cp -r . ` into the context directory (`:307-312`) |
| `Client.createTarball`    | `tar zcvf cb-context.tar.gz cb-context` (`:320-323`) |
| `Client.writeContext`     | `write_context` |

`resolve` is what a name means in a directory, links followed. `cp -r` refuses to copy a directory into
itself, and any operands but a directory that is there and one to copy. The copies belong to the user
and have the modes of what was copied, so that some of them may not be removable; the target it leaves
as it is.
-/

namespace ContainerBuilder

open Lib

def contextName : Bytes := ascii "cb-context"
def tarballName : Bytes := ascii "cb-context.tar.gz"
def definitionName : Bytes := ascii "container.def"

structure ContextCalls where
  /-- `temp_path`: `unique_path` in `temp_directory_path()` -/
  tempName : Bytes
  /-- Where it is. -/
  tempPath : Path
  resolve : Path → Bytes → Path
  /-- The error of `create_directories`, and how far it has got. -/
  createError : Option (Nat × Nat)
  cpError : Option CommandFailure
  copyError : Option Failure
  enterError : Option Nat
  /-- The archive of a tree, if it can be made. -/
  tar : Disk → Except CommandFailure File
  leaveError : Option Nat
  openError : Option Thrown
  /-- The first round of `write_file` that fails. -/
  transferError : Option (Nat × Thrown)
  /-- What the text of the checksum has become when it is written. -/
  freed : Freed
  removeError : Option Failure
  /-- Who may write everywhere. -/
  superuser : Bool
  /-- What `remove_all` leaves of a directory that is locked. -/
  denied : Disk

namespace ContextCalls

def contextTempPath (e : ContextCalls) : Path := e.tempPath ++ [contextName]

/-- `context_temp_path`, as it stands in the command. -/
def contextTempName (e : ContextCalls) : Bytes := e.tempName ++ ascii "/" ++ contextName

/-- The command is split into the words that are meant. -/
def OneWord (e : ContextCalls) : Prop :=
  commandWords (ascii "cp -r . " ++ e.contextTempName) =
    [ascii "cp", ascii "-r", ascii ".", e.contextTempName]

instance (e : ContextCalls) : Decidable e.OneWord := inferInstanceAs (Decidable (_ = _))

/-- What `cp -r . ` makes of the disk. -/
def runCp (e : ContextCalls) (s : Process) : Except CommandFailure Disk :=
  match e.cpError with
  | some f => .error f
  | none =>
    if e.OneWord ∧ ¬ s.currentPath <+: e.contextTempPath then
      .ok (s.disk.overlay e.contextTempPath ((s.disk.subtree s.currentPath).erase []))
    else .error (.exit 1 (by decide) (s.disk.subtree e.tempPath))

/-- What `tar zcvf cb-context.tar.gz cb-context` archives. -/
def archived (s : Process) : Disk :=
  Tree.graft ∅ [contextName] (s.disk.subtree (s.currentPath ++ [contextName]))

def runTar (e : ContextCalls) (s : Process) : Except CommandFailure Disk :=
  (e.tar (archived s)).map fun file =>
    s.disk.set (s.currentPath ++ [tarballName]) (.file file.bytes)

end ContextCalls

namespace Client

/-- If requested, the current directory is copied to the context directory. -/
def copyContext (e : ContextCalls) (clientData : ClientData) : CallM Thrown Process Unit :=
  if clientData.transferContext then
    command e.tempPath e.runCp (ascii "Error copying build context")
  else pure ()

def createTarball (e : ContextCalls) : CallM Thrown Process Unit :=
  command e.tempPath e.runTar (ascii "Error creating build context tarball")

def writeContext (e : ContextCalls) (clientData : ClientData) : CallM Thrown Process Unit := do
  createDirectories e.createError e.contextTempPath
  copyContext e clientData
  let pwd ← currentPath
  copyFile e.copyError e.tempPath (e.resolve pwd clientData.definitionPath)
    (e.contextTempPath ++ [definitionName])
  let originalPwd ← currentPath
  setCurrentPath e.enterError e.tempPath
  createTarball e
  setCurrentPath e.leaveError originalPwd
  openAndWriteFile e.freed e.openError e.transferError (e.tempPath ++ [tarballName])
  removeAll e.superuser e.removeError e.denied e.tempPath

end Client

/-! ## What it relies on -/

/-- What is in the client's current directory, if it is transferred, in a directory of its own. -/
def contextBase (clientData : ClientData) (s : Process) : Disk :=
  if clientData.transferContext then (s.disk.subtree s.currentPath).set [] (.directory true)
  else Tree.set ∅ [] (.directory true)

/-- The same with the definition file. -/
def contextTree (clientData : ClientData) (s : Process) (definition : Bytes) : Disk :=
  (contextBase clientData s).set [definitionName] (.file definition)

namespace ContextCalls

/-- Where `write_context` is called. -/
structure OnEntry (e : ContextCalls) (clientData : ClientData) (s : Process) : Prop where
  current_directory : s.disk.IsDirectory s.currentPath
  /-- The path is unique. -/
  temp_unused : ∀ p, e.tempPath <+: p → s.disk.lookup p = none
  /-- `check_input_files` has seen it. -/
  definition_exists :
    (s.disk.lookup (e.resolve s.currentPath clientData.definitionPath)).isSome = true

/-- No step of `write_context` fails: the definition file has the content `definition`, and `file`
is the archive of the context. -/
structure Succeeds (e : ContextCalls) (clientData : ClientData) (s : Process)
    (definition : Bytes) (file : File) : Prop where
  cpError : clientData.transferContext = true →
    e.cpError = none ∧ e.OneWord ∧ ¬ s.currentPath <+: e.contextTempPath
  readable : s.disk.lookup (e.resolve s.currentPath clientData.definitionPath) =
    some (.file definition)
  copyError : e.copyError = none
  /-- `copy_file` does not overwrite. -/
  no_definition : clientData.transferContext = true →
    s.disk.lookup (s.currentPath ++ [definitionName]) = none
  enterError : e.enterError = none
  tar : e.tar (Tree.graft ∅ [contextName] (contextTree clientData s definition)) = .ok file
  leaveError : e.leaveError = none
  openError : e.openError = none
  transferError : ∀ k ex, e.transferError = some (k, ex) → rounds file.bytes.length ≤ k
  removeError : e.removeError = none
  /-- What was copied can be removed again. -/
  removable : e.superuser = true ∨ ¬ (contextTree clientData s definition).Locked []

/-! ## The steps -/

/-- A path without blanks and quotation marks is one word. -/
theorem oneWord_of_plain {e : ContextCalls} (h : ∀ c ∈ e.tempName, c ≠ 32 ∧ c ≠ 34) :
    e.OneWord := by
  have hname : ∀ c ∈ e.contextTempName, c ≠ 32 ∧ c ≠ 34 := by
    intro c hc
    rw [contextTempName, List.append_assoc] at hc
    rcases List.mem_append.1 hc with hc | hc
    · exact h c hc
    · have hrest : ∀ c ∈ ascii "/" ++ contextName, c ≠ 32 ∧ c ≠ 34 := by decide +kernel
      exact hrest c hc
  have hsplit : splitCommand false [] (ascii "cp -r . " ++ e.contextTempName) =
      ascii "cp" :: ascii "-r" :: ascii "." :: splitCommand false [] e.contextTempName := rfl
  have hne : e.contextTempName ≠ [] := by simp [contextTempName, contextName, ascii]
  have hword : splitCommand false [] e.contextTempName = [e.contextTempName] :=
    splitCommand_word _ [] hname hne
  have hunquote : unquote e.contextTempName = e.contextTempName :=
    unquote_plain fun hmem => (hname 34 hmem).2 rfl
  rw [OneWord, commandWords, hsplit, hword]
  simp only [List.map_cons, List.map_nil, hunquote]
  rfl

theorem returns_copyContext {e : ContextCalls} {clientData : ClientData} {s s' : Process}
    {a : Unit} :
    Returns (Client.copyContext e clientData) s a s' ↔
      (clientData.transferContext = true →
        e.cpError = none ∧ e.OneWord ∧ ¬ s.currentPath <+: e.contextTempPath) ∧
        s' = if clientData.transferContext then
          { s with
            disk := s.disk.overlay e.contextTempPath ((s.disk.subtree s.currentPath).erase []) }
        else s := by
  unfold Client.copyContext
  by_cases htransfer : clientData.transferContext = true
  · simp only [htransfer, if_true, returns_command, ContextCalls.runCp, forall_const]
    cases e.cpError with
    | some f => simp
    | none =>
      by_cases hcp : e.OneWord ∧ ¬ s.currentPath <+: e.contextTempPath
      · simp [hcp, eq_comm]
      · simp [hcp]
  · simp [htransfer, returns_pure]

theorem returns_createTarball {e : ContextCalls} {s s' : Process} {a : Unit} :
    Returns (Client.createTarball e) s a s' ↔
      ∃ file, e.tar (ContextCalls.archived s) = .ok file ∧
        s' = { s with disk := s.disk.set (s.currentPath ++ [tarballName]) (.file file.bytes) } := by
  unfold Client.createTarball
  rw [returns_command, ContextCalls.runTar]
  cases e.tar (ContextCalls.archived s) with
  | ok file => simp [Except.map, eq_comm]
  | error f => simp [Except.map]

section steps
variable {e : ContextCalls} {clientData : ClientData} {s : Process}

/-- After `create_directories`. -/
def created (e : ContextCalls) (s : Process) : Process :=
  { s with disk := s.disk.makeDirectories e.contextTempPath }

/-- After the copy of the current directory. -/
def copied (e : ContextCalls) (clientData : ClientData) (s : Process) : Process :=
  if clientData.transferContext then
    { e.created s with
      disk := (e.created s).disk.overlay e.contextTempPath
        (((e.created s).disk.subtree s.currentPath).erase []) }
  else e.created s

/-- After the copy of the definition file. -/
def assembled (e : ContextCalls) (clientData : ClientData) (s : Process) (definition : Bytes) :
    Process :=
  { e.copied clientData s with
    disk := (e.copied clientData s).disk.set (e.contextTempPath ++ [definitionName])
      (.file definition) }

theorem temp_above_context (e : ContextCalls) (p : Path) :
    e.tempPath <+: e.contextTempPath ++ p := by
  rw [ContextCalls.contextTempPath, List.append_assoc]
  exact List.prefix_append ..

theorem not_prefix_temp (e : ContextCalls) : ¬ e.contextTempPath <+: e.tempPath := by
  intro h
  have hlen := h.length_le
  rw [ContextCalls.contextTempPath, List.length_append, List.length_singleton] at hlen
  omega

@[simp] theorem copied_currentPath : (e.copied clientData s).currentPath = s.currentPath := by
  unfold copied created
  split <;> rfl

@[simp] theorem copied_written : (e.copied clientData s).written = s.written := by
  unfold copied created
  split <;> rfl

/-- `create_directories` makes the context directory, and it is empty. -/
theorem lookup_created_context (h : e.OnEntry clientData s) (q : Path) :
    (e.created s).disk.lookup (e.contextTempPath ++ q) =
      if q = [] then some (.directory true) else none := by
  have hnone : s.disk.lookup (e.contextTempPath ++ q) = none :=
    h.temp_unused _ (temp_above_context e q)
  have hroot : e.contextTempPath ++ q <+: e.contextTempPath ++ [] ↔ q <+: [] :=
    List.prefix_append_right_inj _
  rw [List.append_nil, List.prefix_nil] at hroot
  rw [created, lookup_makeDirectories, hnone]
  simp only [hroot, Option.getD_none]

/-- What was there stays as it was. -/
theorem lookup_created_of_some {p : Path} {n : Node} (hp : s.disk.lookup p = some n) :
    (e.created s).disk.lookup p = some n := by
  rw [created, lookup_makeDirectories, hp]
  split <;> rfl

/-- No path of the entry state lies in the context directory. -/
theorem not_context_of_some (h : e.OnEntry clientData s) {p : Path} {n : Node}
    (hp : s.disk.lookup p = some n) : ¬ e.tempPath <+: p := by
  intro hpre
  rw [h.temp_unused p hpre] at hp
  cases hp

theorem lookup_copied_of_not {p : Path} (hp : ¬ e.contextTempPath <+: p) :
    (e.copied clientData s).disk.lookup p = (e.created s).disk.lookup p := by
  unfold copied
  by_cases htransfer : clientData.transferContext = true
  · rw [if_pos htransfer]
    simp only [Tree.lookup_overlay, if_neg hp]
  · rw [if_neg htransfer]

theorem lookup_copied_of_some (h : e.OnEntry clientData s) {p : Path} {n : Node}
    (hp : s.disk.lookup p = some n) : (e.copied clientData s).disk.lookup p = some n := by
  have hout : ¬ e.contextTempPath <+: p := by
    intro hpre
    have htemp : e.tempPath <+: e.contextTempPath := List.prefix_append ..
    exact not_context_of_some h hp (htemp.trans hpre)
  rw [lookup_copied_of_not hout, lookup_created_of_some hp]

theorem lookup_copied_temp (h : e.OnEntry clientData s) :
    (e.copied clientData s).disk.lookup e.tempPath = some (.directory true) := by
  have htemp : e.tempPath <+: e.contextTempPath := List.prefix_append ..
  rw [lookup_copied_of_not (not_prefix_temp e), created, lookup_makeDirectories, if_pos htemp,
    h.temp_unused _ (List.prefix_refl _)]
  rfl

/-- **The copy is the current directory**, if it is requested, and otherwise empty. -/
theorem subtree_copied (h : e.OnEntry clientData s)
    (hself : clientData.transferContext = true → ¬ s.currentPath <+: e.contextTempPath) :
    (e.copied clientData s).disk.subtree e.contextTempPath = contextBase clientData s := by
  refine Finmap.ext_lookup fun q => ?_
  rw [Tree.lookup_subtree]
  unfold copied contextBase
  by_cases htransfer : clientData.transferContext = true
  · have hout : ¬ s.currentPath ++ q <+: e.contextTempPath := by
      intro hpre
      exact hself htransfer ((List.prefix_append ..).trans hpre)
    have hsource : (e.created s).disk.lookup (s.currentPath ++ q) =
        s.disk.lookup (s.currentPath ++ q) := by
      rw [created, lookup_makeDirectories, if_neg hout]
    rw [if_pos htransfer, if_pos htransfer, Tree.lookup_overlay_append, Tree.lookup_set,
      lookup_created_context h]
    by_cases hq : q = []
    · subst hq
      rw [if_pos rfl, if_pos rfl, Finmap.lookup_erase, Option.none_or]
    · rw [if_neg hq, if_neg hq, Finmap.lookup_erase_ne hq, Tree.lookup_subtree,
        Tree.lookup_subtree, hsource, Option.or_none]
  · rw [if_neg htransfer, if_neg htransfer, lookup_created_context h, Tree.lookup_set,
      Finmap.lookup_empty]

/-- **The context is assembled** from the copy and the definition file. -/
theorem subtree_assembled (h : e.OnEntry clientData s)
    (hself : clientData.transferContext = true → ¬ s.currentPath <+: e.contextTempPath)
    (definition : Bytes) :
    (e.assembled clientData s definition).disk.subtree e.contextTempPath =
      contextTree clientData s definition := by
  rw [assembled, Tree.subtree_set, subtree_copied h hself]
  rfl

theorem lookup_assembled_of_some (h : e.OnEntry clientData s) {p : Path} {n : Node}
    (hp : s.disk.lookup p = some n) (definition : Bytes) :
    (e.assembled clientData s definition).disk.lookup p = some n := by
  have hne : p ≠ e.contextTempPath ++ [definitionName] := by
    rintro rfl
    exact not_context_of_some h hp (temp_above_context e _)
  simp only [assembled, Tree.lookup_set, if_neg hne, lookup_copied_of_some h hp]

theorem lookup_assembled_temp (h : e.OnEntry clientData s) (definition : Bytes) :
    (e.assembled clientData s definition).disk.lookup e.tempPath = some (.directory true) := by
  have hne : e.tempPath ≠ e.contextTempPath ++ [definitionName] := by
    intro he
    exact not_prefix_temp e (he ▸ List.prefix_append ..)
  simp only [assembled, Tree.lookup_set, if_neg hne, lookup_copied_temp h]

/-- The definition file is copied if there is none in its place. -/
theorem returns_copyDefinition (h : e.OnEntry clientData s)
    (hself : clientData.transferContext = true → ¬ s.currentPath <+: e.contextTempPath)
    {a : Unit} {s' : Process} :
    Returns (copyFile e.copyError e.tempPath (e.resolve s.currentPath clientData.definitionPath)
        (e.contextTempPath ++ [definitionName])) (e.copied clientData s) a s' ↔
      e.copyError = none ∧ ∃ definition,
        s.disk.lookup (e.resolve s.currentPath clientData.definitionPath) =
          some (.file definition) ∧
        (clientData.transferContext = true →
          s.disk.lookup (s.currentPath ++ [definitionName]) = none) ∧
        s' = e.assembled clientData s definition := by
  obtain ⟨n, hn⟩ := Option.isSome_iff_exists.1 h.definition_exists
  have htarget :
      (e.copied clientData s).disk.lookup (e.contextTempPath ++ [definitionName]) = none ↔
        (clientData.transferContext = true →
          s.disk.lookup (s.currentPath ++ [definitionName]) = none) := by
    rw [← Tree.lookup_subtree, subtree_copied h hself, contextBase]
    by_cases htransfer : clientData.transferContext = true
    · have hroot : ([definitionName] : Path) ≠ [] := List.cons_ne_nil _ _
      simp only [htransfer, if_true, Tree.lookup_set, if_neg hroot, Tree.lookup_subtree,
        forall_const]
    · have hempty : (Tree.set ∅ [] (.directory true) : Disk).lookup [definitionName] = none := by
        rw [Tree.lookup_set, if_neg (List.cons_ne_nil _ _), Finmap.lookup_empty]
      simp [htransfer, hempty]
  rw [returns_copyFile, lookup_copied_of_some h hn, hn, htarget]
  rfl

end steps

/-! ## When it returns -/

section runs
variable {e : ContextCalls} {clientData : ClientData} {s s' : Process}

/-- In the temporary directory. -/
def entered (e : ContextCalls) (clientData : ClientData) (s : Process) (definition : Bytes) :
    Process :=
  { e.assembled clientData s definition with currentPath := e.tempPath }

/-- After `tar`. -/
def tarred (e : ContextCalls) (clientData : ClientData) (s : Process) (definition : Bytes)
    (file : File) : Process :=
  { e.entered clientData s definition with
    disk := (e.entered clientData s definition).disk.set (e.tempPath ++ [tarballName])
      (.file file.bytes) }

/-- Back in the directory of the entry. -/
def left (e : ContextCalls) (clientData : ClientData) (s : Process) (definition : Bytes)
    (file : File) : Process :=
  { e.tarred clientData s definition file with currentPath := s.currentPath }

/-- At the end of a run without failures. -/
def finished (e : ContextCalls) (clientData : ClientData) (s : Process) (definition : Bytes)
    (file : File) : Process where
  disk := (e.tarred clientData s definition file).disk.prune e.tempPath
  currentPath := s.currentPath
  written := s.written ++ (Direction.upload.sent e.freed file (file.bytes.length + 2)).1

theorem returns_enterTemp (h : e.OnEntry clientData s) {definition : Bytes} {a : Unit} :
    Returns (setCurrentPath e.enterError e.tempPath) (e.assembled clientData s definition) a s' ↔
      e.enterError = none ∧ s' = e.entered clientData s definition := by
  have htemp : (e.assembled clientData s definition).disk.IsDirectory e.tempPath :=
    ⟨true, lookup_assembled_temp h definition⟩
  rw [returns_setCurrentPath]
  simp only [htemp, true_and]
  rfl

/-- `tar` finds the context. -/
theorem returns_tar (h : e.OnEntry clientData s)
    (hself : clientData.transferContext = true → ¬ s.currentPath <+: e.contextTempPath)
    {definition : Bytes} {a : Unit} :
    Returns (Client.createTarball e) (e.entered clientData s definition) a s' ↔
      ∃ file, e.tar (Tree.graft ∅ [contextName] (contextTree clientData s definition)) = .ok file ∧
        s' = e.tarred clientData s definition file := by
  have harchived : ContextCalls.archived (e.entered clientData s definition) =
      Tree.graft ∅ [contextName] (contextTree clientData s definition) := by
    rw [ContextCalls.archived, ← subtree_assembled h hself]
    rfl
  rw [returns_createTarball, harchived]
  rfl

/-- The directory of the entry is still there. -/
theorem returns_leaveTemp (h : e.OnEntry clientData s) {definition : Bytes} {file : File}
    {a : Unit} :
    Returns (setCurrentPath e.leaveError s.currentPath) (e.tarred clientData s definition file)
        a s' ↔
      e.leaveError = none ∧ s' = e.left clientData s definition file := by
  obtain ⟨writable, hdirectory⟩ := h.current_directory
  have hne : s.currentPath ≠ e.tempPath ++ [tarballName] := by
    intro he
    exact not_context_of_some h hdirectory (he ▸ List.prefix_append ..)
  have hcurrent : (e.tarred clientData s definition file).disk.IsDirectory s.currentPath := by
    refine ⟨writable, ?_⟩
    simp only [tarred, entered, Tree.lookup_set, if_neg hne,
      lookup_assembled_of_some h hdirectory]
  rw [returns_setCurrentPath]
  simp only [hcurrent, true_and]
  rfl

/-- The archive is where `tar` has put it. -/
theorem returns_transfer {definition : Bytes} {file : File} {a : Unit} :
    Returns (openAndWriteFile e.freed e.openError e.transferError
        (e.tempPath ++ [tarballName])) (e.left clientData s definition file) a s' ↔
      e.openError = none ∧
        (∀ k ex, e.transferError = some (k, ex) → rounds file.bytes.length ≤ k) ∧
          s' = { e.left clientData s definition file with
            written :=
              s.written ++ (Direction.upload.sent e.freed file (file.bytes.length + 2)).1 } := by
  have htarball : (e.left clientData s definition file).disk.lookup
      (e.tempPath ++ [tarballName]) = some (.file file.bytes) := by
    simp only [left, tarred, Tree.lookup_set, if_true]
  have hwritten : (e.left clientData s definition file).written = s.written :=
    copied_written
  rw [returns_openAndWriteFile htarball, hwritten]

theorem lookup_tarred_context (h : e.OnEntry clientData s)
    (hself : clientData.transferContext = true → ¬ s.currentPath <+: e.contextTempPath)
    {definition : Bytes} {file : File} (q : Path) :
    (e.tarred clientData s definition file).disk.lookup (e.contextTempPath ++ q) =
      (contextTree clientData s definition).lookup q := by
  have hne : e.contextTempPath ++ q ≠ e.tempPath ++ [tarballName] := by
    rw [ContextCalls.contextTempPath, List.append_assoc]
    intro he
    have hnames : [contextName] ++ q = [tarballName] := List.append_cancel_left he
    exact absurd (List.cons.inj hnames).1 (by decide)
  rw [← subtree_assembled h hself, Tree.lookup_subtree]
  simp only [tarred, entered, Tree.lookup_set, if_neg hne]

/-- Beside the context there is one directory, the temporary one. -/
theorem writable_of_tarred (h : e.OnEntry clientData s) {definition : Bytes} {file : File}
    {p : Path} (htemp : e.tempPath <+: p) (hcontext : ¬ e.contextTempPath <+: p) {writable : Bool}
    (hp : (e.tarred clientData s definition file).disk.lookup p = some (.directory writable)) :
    writable = true := by
  have hdefinition : p ≠ e.contextTempPath ++ [definitionName] := by
    rintro rfl
    exact hcontext (List.prefix_append ..)
  simp only [tarred, entered, assembled, Tree.lookup_set, if_neg hdefinition,
    lookup_copied_of_not hcontext, created, lookup_makeDirectories, h.temp_unused p htemp] at hp
  split at hp
  · cases hp
  · split at hp
    · exact (Node.directory.inj (Option.some.inj hp)).symm
    · cases hp

/-- What `remove_all` is to remove is locked if the context is. -/
theorem locked_tarred (h : e.OnEntry clientData s)
    (hself : clientData.transferContext = true → ¬ s.currentPath <+: e.contextTempPath)
    {definition : Bytes} {file : File} :
    (e.tarred clientData s definition file).disk.Locked e.tempPath ↔
      (contextTree clientData s definition).Locked [] := by
  rw [locked_iff, locked_iff]
  constructor
  · rintro ⟨path, name, htemp, hpath, hentry⟩
    by_cases hcontext : e.contextTempPath <+: path
    · obtain ⟨q, rfl⟩ := hcontext
      rw [lookup_tarred_context h hself] at hpath
      rw [List.append_assoc, lookup_tarred_context h hself] at hentry
      exact ⟨q, name, List.nil_prefix, hpath, hentry⟩
    · cases writable_of_tarred h htemp hcontext hpath
  · rintro ⟨q, name, -, hpath, hentry⟩
    refine ⟨e.contextTempPath ++ q, name, temp_above_context e q, ?_, ?_⟩
    · rw [lookup_tarred_context h hself, hpath]
    · rw [List.append_assoc, lookup_tarred_context h hself, hentry]

/-- **`write_context` returns** if no step fails, and in no other case. -/
theorem writeContext_returns (h : e.OnEntry clientData s) (hcreate : e.createError = none) :
    Returns (Client.writeContext e clientData) s () s' ↔
      ∃ definition file, e.Succeeds clientData s definition file ∧
        s' = e.finished clientData s definition file := by
  unfold Client.writeContext
  constructor
  · intro hreturns
    obtain ⟨_, s₁, h₁, hreturns⟩ := returns_bind.1 hreturns
    obtain ⟨-, rfl⟩ := returns_createDirectories.1 h₁
    obtain ⟨_, s₂, h₂, hreturns⟩ := returns_bind.1 hreturns
    obtain ⟨hcp, hs₂⟩ := returns_copyContext.1 h₂
    replace hs₂ : s₂ = e.copied clientData s := hs₂
    subst hs₂
    have hself := fun htransfer => (hcp htransfer).2.2
    obtain ⟨_, _, h₃, hreturns⟩ := returns_bind.1 hreturns
    obtain ⟨rfl, rfl⟩ := returns_currentPath.1 h₃
    rw [copied_currentPath] at hreturns
    obtain ⟨_, s₄, h₄, hreturns⟩ := returns_bind.1 hreturns
    obtain ⟨hcopyFile, definition, hreadable, hno, rfl⟩ := (returns_copyDefinition h hself).1 h₄
    obtain ⟨_, _, h₅, hreturns⟩ := returns_bind.1 hreturns
    obtain ⟨rfl, rfl⟩ := returns_currentPath.1 h₅
    obtain ⟨_, s₆, h₆, hreturns⟩ := returns_bind.1 hreturns
    obtain ⟨henterTemp, rfl⟩ := (returns_enterTemp h).1 h₆
    obtain ⟨_, s₇, h₇, hreturns⟩ := returns_bind.1 hreturns
    obtain ⟨file, htar, rfl⟩ := (returns_tar h hself).1 h₇
    obtain ⟨_, s₈, h₈, hreturns⟩ := returns_bind.1 hreturns
    replace h₈ : Returns (setCurrentPath e.leaveError (e.copied clientData s).currentPath)
      (e.tarred clientData s definition file) _ s₈ := h₈
    rw [copied_currentPath] at h₈
    obtain ⟨hleaveTemp, rfl⟩ := (returns_leaveTemp h).1 h₈
    obtain ⟨_, s₉, h₉, hreturns⟩ := returns_bind.1 hreturns
    obtain ⟨hopenTarball, htransfer, rfl⟩ := returns_transfer.1 h₉
    obtain ⟨hremoveAll, hremovable, rfl⟩ := returns_removeAll.1 hreturns
    replace hremovable : e.superuser = true ∨
      ¬ (e.tarred clientData s definition file).disk.Locked e.tempPath := hremovable
    rw [locked_tarred h hself] at hremovable
    exact ⟨definition, file, ⟨hcp, hreadable, hcopyFile, hno, henterTemp, htar, hleaveTemp,
      hopenTarball, htransfer, hremoveAll, hremovable⟩, rfl⟩
  · rintro ⟨definition, file, hok, rfl⟩
    have hself := fun htransfer => (hok.cpError htransfer).2.2
    have hcurrent : (e.assembled clientData s definition).currentPath = s.currentPath :=
      copied_currentPath
    refine returns_bind.2 ⟨(), _, returns_createDirectories.2 ⟨hcreate, rfl⟩, ?_⟩
    refine returns_bind.2 ⟨(), e.copied clientData s, returns_copyContext.2 ⟨hok.cpError, rfl⟩, ?_⟩
    refine returns_bind.2 ⟨_, _, returns_currentPath.2 ⟨rfl, rfl⟩, ?_⟩
    rw [copied_currentPath]
    refine returns_bind.2 ⟨(), _, (returns_copyDefinition h hself).2
      ⟨hok.copyError, definition, hok.readable, hok.no_definition, rfl⟩, ?_⟩
    refine returns_bind.2 ⟨_, _, returns_currentPath.2 ⟨rfl, rfl⟩, ?_⟩
    rw [hcurrent]
    refine returns_bind.2 ⟨(), _, (returns_enterTemp h).2 ⟨hok.enterError, rfl⟩, ?_⟩
    refine returns_bind.2 ⟨(), _, (returns_tar h hself).2 ⟨file, hok.tar, rfl⟩, ?_⟩
    refine returns_bind.2 ⟨(), _, (returns_leaveTemp h).2 ⟨hok.leaveError, rfl⟩, ?_⟩
    refine returns_bind.2 ⟨(), _,
      returns_transfer.2 ⟨hok.openError, hok.transferError, rfl⟩, ?_⟩
    have hremovable : e.superuser = true ∨
        ¬ (e.tarred clientData s definition file).disk.Locked e.tempPath := by
      rw [locked_tarred h hself]
      exact hok.removable
    exact returns_removeAll.2 ⟨hok.removeError, hremovable, rfl⟩

/-! ## What it leaves behind -/

theorem keeps_copyContext : Keeps (Process.Has e.tempPath) (Client.copyContext e clientData) := by
  unfold Client.copyContext
  split
  · refine keeps_command fun s disk hs hrun => ?_
    unfold ContextCalls.runCp at hrun
    split at hrun
    · cases hrun
    · split at hrun
      · obtain rfl := Except.ok.inj hrun
        unfold Process.Has at hs ⊢
        rw [Tree.lookup_overlay, if_neg (not_prefix_temp e)]
        exact hs
      · cases hrun
  · exact keeps_pure ()

theorem keeps_createTarball : Keeps (Process.Has e.tempPath) (Client.createTarball e) := by
  refine keeps_command fun s disk hs hrun => ?_
  unfold ContextCalls.runTar at hrun
  cases htar : e.tar (ContextCalls.archived s) with
  | error f =>
    rw [htar] at hrun
    cases hrun
  | ok file =>
    rw [htar] at hrun
    obtain rfl := Except.ok.inj hrun
    unfold Process.Has at hs ⊢
    rw [Tree.lookup_set]
    split
    · rfl
    · exact hs

/-- Once created, the directory is there whenever `write_context` throws. -/
theorem temp_left_or_returns (hcreate : e.createError = none) :
    Process.Has e.tempPath (exec (Client.writeContext e clientData) s).2 ∨
      ∃ a s', Returns (Client.writeContext e clientData) s a s' := by
  have hcreated : Returns (createDirectories e.createError e.contextTempPath) s ()
      (e.created s) := returns_createDirectories.2 ⟨hcreate, rfl⟩
  have htemp : Process.Has e.tempPath (e.created s) := by
    have hpre : e.tempPath <+: e.contextTempPath := List.prefix_append ..
    unfold Process.Has
    rw [created, lookup_makeDirectories, if_pos hpre]
    rfl
  refine ThrowKeeps.after ?_ hcreated htemp
  refine throwKeeps_bind keeps_copyContext fun _ => ?_
  refine throwKeeps_bind keeps_currentPath fun _ => ?_
  refine throwKeeps_bind keeps_copyFile fun _ => ?_
  refine throwKeeps_bind keeps_currentPath fun _ => ?_
  refine throwKeeps_bind keeps_setCurrentPath fun _ => ?_
  refine throwKeeps_bind keeps_createTarball fun _ => ?_
  refine throwKeeps_bind keeps_setCurrentPath fun _ => ?_
  exact throwKeeps_bind keeps_openAndWriteFile fun _ => throwKeeps_removeAll

end runs

end ContextCalls

/-- The temporary directory is gone and the current directory is that of the entry. -/
def CleansUp (e : ContextCalls) (clientData : ClientData) (s : Process) : Prop :=
  (∀ p, e.tempPath <+: p →
    (exec (Client.writeContext e clientData) s).2.disk.lookup p = none) ∧
  (exec (Client.writeContext e clientData) s).2.currentPath = s.currentPath

/-- **`write_context` cleans up**, once it has created its directory, if no step after that fails,
and in no other case. -/
theorem cleans_up_iff {e : ContextCalls} {clientData : ClientData} {s : Process}
    (h : e.OnEntry clientData s) (hcreate : e.createError = none) :
    CleansUp e clientData s ↔ ∃ definition file, e.Succeeds clientData s definition file := by
  constructor
  · rintro ⟨hgone, -⟩
    have hend : Process.Has e.tempPath (exec (Client.writeContext e clientData) s).2 ∨
        ∃ a s', Returns (Client.writeContext e clientData) s a s' :=
      ContextCalls.temp_left_or_returns hcreate
    rcases hend with hleft | hreturns
    · unfold Process.Has at hleft
      rw [hgone _ (List.prefix_refl _)] at hleft
      cases hleft
    · obtain ⟨_, s', hreturns⟩ := hreturns
      obtain ⟨definition, file, hok, -⟩ := (ContextCalls.writeContext_returns h hcreate).1 hreturns
      exact ⟨definition, file, hok⟩
  · rintro ⟨definition, file, hok⟩
    have hreturns : exec (Client.writeContext e clientData) s =
        (.ok (), e.finished clientData s definition file) :=
      (ContextCalls.writeContext_returns h hcreate).2 ⟨definition, file, hok, rfl⟩
    unfold CleansUp
    rw [hreturns]
    refine ⟨fun p hp => ?_, rfl⟩
    simp only [ContextCalls.finished, Tree.lookup_prune, if_pos hp]

def homeDirectory : Path := [ascii "home"]

/-- The one file of the current directory is `name`. -/
def homeProcess (name : Bytes) : Process where
  disk := ((Tree.set ∅ [] (.directory true)).set homeDirectory (.directory true)).set
    (homeDirectory ++ [name]) (.file [1])
  currentPath := homeDirectory
  written := []

/-- A build of this file. -/
def buildOf (name : Bytes) (transferContext : Bool) : ClientData :=
  ⟨ascii "me", false, false, .info, .x86_64, .docker, transferContext, ascii "c.img", name,
    ascii "queue"⟩

/-- Nothing fails but perhaps `tar`. -/
def plainCalls (tar : Disk → Except CommandFailure File) : ContextCalls where
  tempName := ascii "/tmp/t"
  tempPath := [ascii "tmp", ascii "t"]
  resolve pwd name := pwd ++ [name]
  createError := none
  cpError := none
  copyError := none
  enterError := none
  tar := tar
  leaveError := none
  openError := none
  transferError := none
  freed := .intact
  removeError := none
  superuser := false
  denied := ∅

theorem home_definition (name : Bytes) :
    (homeProcess name).disk.lookup (homeDirectory ++ [name]) = some (.file [1]) := by
  simp only [homeProcess, Tree.lookup_set, if_true]

theorem home_onEntry (tar : Disk → Except CommandFailure File) (name : Bytes)
    (transferContext : Bool) :
    (plainCalls tar).OnEntry (buildOf name transferContext) (homeProcess name) where
  current_directory := by
    have hne : homeDirectory ≠ homeDirectory ++ [name] := by simp
    refine ⟨true, ?_⟩
    simp only [homeProcess, Tree.lookup_set, if_neg hne, if_true]
  temp_unused := by
    rintro p ⟨q, rfl⟩
    have hne : ∀ path, [ascii "tmp", ascii "t"] ++ q ≠ ascii "home" :: path := by
      intro path h
      exact absurd (List.cons.inj h).1 (by decide)
    simp only [homeProcess, plainCalls, homeDirectory, Tree.lookup_set, List.cons_append,
      List.nil_append] at hne ⊢
    rw [if_neg (hne _), if_neg (hne _), if_neg (List.cons_ne_nil _ _), Finmap.lookup_empty]
  definition_exists := Option.isSome_of_eq_some (home_definition name)

def smallFile : File := ⟨[1, 2], by decide⟩

/-- An archive of two bytes. -/
def smallTar (_ : Disk) : Except CommandFailure File := .ok smallFile

theorem cleans_up_plain :
    CleansUp (plainCalls smallTar) (buildOf (ascii "r.def") false) (homeProcess (ascii "r.def")) :=
  (cleans_up_iff (home_onEntry smallTar _ _) rfl).2 ⟨[1], smallFile, {
    cpError := nofun
    readable := home_definition _
    copyError := rfl
    no_definition := nofun
    enterError := rfl
    tar := rfl
    leaveError := rfl
    openError := rfl
    transferError := nofun
    removeError := rfl
    removable := .inr (by decide +kernel) }⟩

/-- `tar` fails. -/
def failingTar (_ : Disk) : Except CommandFailure File := .error (.fatal ∅)

/-- What a build of `r.def` leaves when `tar` fails. -/
def failedTar : Process :=
  (exec (Client.writeContext (plainCalls failingTar) (buildOf (ascii "r.def") false))
    (homeProcess (ascii "r.def"))).2

/-- After a failed `tar` the temporary directory is left, and it is the current one. -/
theorem failed_tar_leaves_context :
    (plainCalls failingTar).OnEntry (buildOf (ascii "r.def") false)
      (homeProcess (ascii "r.def")) ∧
    (plainCalls failingTar).createError = none ∧
    failedTar.disk.lookup [ascii "tmp", ascii "t"] = some (.directory true) ∧
    failedTar.currentPath = [ascii "tmp", ascii "t"] ∧
    ¬ CleansUp (plainCalls failingTar) (buildOf (ascii "r.def") false)
      (homeProcess (ascii "r.def")) := by
  have hleft : failedTar.disk.lookup [ascii "tmp", ascii "t"] = some (.directory true) := by
    decide +kernel
  refine ⟨home_onEntry failingTar _ _, rfl, hleft, by decide +kernel, ?_⟩
  rintro ⟨hgone, -⟩
  have hnone := hgone [ascii "tmp", ascii "t"] (List.prefix_refl _)
  cases hleft.symm.trans hnone

end ContainerBuilder
