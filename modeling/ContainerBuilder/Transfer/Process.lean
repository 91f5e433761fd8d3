import ContainerBuilder.Lib.Calls
import ContainerBuilder.Lib.Tree
import ContainerBuilder.Transfer.Delivery

/-!
# Processes and their files

What client and builder do with files, directories and commands. How the system answers a call is
given to it: the first argument of each call below says whether it fails. A call that succeeds then
has the effect it is documented to have, unless what it needs is not there.

| here | there |
| --- | --- |
| `createDirectories`, `removeAll`  | `bfs::create_directories`, `bfs::remove_all` |
| `copyFile`                        | `bfs::copy_file(from, to)`, which does not overwrite |
| `setCurrentPath`                  | `bfs::current_path(path)` |
| `system`, `checkRc`               | `bp::system(command)`; the test of its return code |
| `commandWords`                    | how Boost.Process splits a command that is given as one string |
| `openAndWriteFile`                | `write_file`, from `container.open` on |

Names are resolved before they get here: a `Path` starts at the root and has no links in it. Of modes
there is only whether the owner of a directory may write in it, which is what it takes to remove
something from it. `Locked` is asked of directories that the program has made itself, so that it owns
them.
-/

namespace ContainerBuilder

open Lib

inductive Node
  /-- Whether its owner may write in it. -/
  | directory (writable : Bool)
  | file (content : Bytes)
  /-- A symbolic link, which `cp -r` and `tar` copy as it is. -/
  | symlink (target : Bytes)
deriving DecidableEq, Repr

abbrev Path := List Bytes

abbrev Disk := Tree Bytes Node

structure Process where
  disk : Disk
  currentPath : Path
  /-- The frames it has written to its stream. -/
  written : List (Part × Frame UInt8)

/-! ## Directories -/

/-- `path` and what is missing above it, as directories. -/
def Disk.makeDirectories (disk : Disk) (path : Path) : Disk :=
  path.inits.foldl (fun (disk : Disk) p =>
    if (disk.lookup p).isSome then disk else disk.set p (.directory true)) disk

theorem lookup_makeDirectories (disk : Disk) (path q : Path) :
    (disk.makeDirectories path).lookup q =
      if q <+: path then some ((disk.lookup q).getD (.directory true)) else disk.lookup q := by
  have hone : ∀ (disk : Disk) (p : Path),
      (if (disk.lookup p).isSome then disk else disk.set p (.directory true) : Disk).lookup q =
        if q = p then some ((disk.lookup q).getD (.directory true)) else disk.lookup q := by
    intro disk p
    by_cases hp : q = p
    · subst hp
      rw [if_pos rfl]
      cases hq : disk.lookup q with
      | some n => simp [hq]
      | none => simp [Tree.lookup_set]
    · rw [if_neg hp]
      split
      · rfl
      · rw [Tree.lookup_set, if_neg hp]
  have key : ∀ (ps : List Path) (disk : Disk),
      (ps.foldl (fun (disk : Disk) p =>
        if (disk.lookup p).isSome then disk else disk.set p (.directory true)) disk).lookup q =
          if q ∈ ps then some ((disk.lookup q).getD (.directory true)) else disk.lookup q := by
    intro ps
    induction ps with
    | nil => intro disk; rfl
    | cons p ps ih =>
      intro disk
      rw [List.foldl_cons, ih, hone]
      by_cases hp : q = p
      · simp [hp]
      · simp [hp]
  rw [Disk.makeDirectories, key]
  simp only [List.mem_inits]

/-- A call has failed and left a directory of anything at `root`. -/
def Disk.leave (disk : Disk) (root : Path) (left : Disk) : Disk :=
  disk.graft root (left.set [] (.directory true))

@[simp] theorem lookup_leave (disk : Disk) (root : Path) (left : Disk) :
    (disk.leave root left).lookup root = some (.directory true) := by
  have hroot := Tree.lookup_graft_append disk (left.set [] (.directory true)) root []
  rw [List.append_nil] at hroot
  rw [Disk.leave, hroot, Tree.lookup_set, if_pos rfl]

/-- There is a directory. -/
def Disk.IsDirectory (disk : Disk) (path : Path) : Prop :=
  ∃ writable, disk.lookup path = some (.directory writable)

instance (disk : Disk) (path : Path) : Decidable (disk.IsDirectory path) :=
  decidable_of_iff (disk.lookup path = some (.directory false) ∨
    disk.lookup path = some (.directory true))
    (Bool.exists_bool (p := fun writable => disk.lookup path = some (.directory writable))).symm

/-- At `root` or under it there is an entry of a directory in which its owner may not write. -/
def Disk.Locked (disk : Disk) (root : Path) : Prop :=
  ∃ p ∈ disk.keys, p ≠ [] ∧ root <+: p.dropLast ∧
    disk.lookup p.dropLast = some (.directory false)

instance (disk : Disk) (root : Path) : Decidable (disk.Locked root) :=
  inferInstanceAs (Decidable (∃ p ∈ disk.keys, _))

theorem locked_iff {disk : Disk} {root : Path} : disk.Locked root ↔
    ∃ path name, root <+: path ∧ disk.lookup path = some (.directory false) ∧
      (disk.lookup (path ++ [name])).isSome = true := by
  constructor
  · rintro ⟨p, hmem, hne, hroot, hlocked⟩
    refine ⟨p.dropLast, p.getLast hne, hroot, hlocked, ?_⟩
    rw [List.dropLast_append_getLast]
    exact Finmap.lookup_isSome.2 (Finmap.mem_keys.1 hmem)
  · rintro ⟨path, name, hroot, hlocked, hentry⟩
    have hmem := Finmap.mem_keys.2 (Finmap.lookup_isSome.1 hentry)
    refine ⟨path ++ [name], hmem, by simp, ?_, ?_⟩
    · rwa [List.dropLast_concat]
    · rwa [List.dropLast_concat]

/-! ## Calls -/

/-- A failed call of the file system: its error, and what it leaves in the directory at work. -/
structure Failure where
  value : Nat
  left : Disk

/-- A failed command. -/
inductive CommandFailure
  | exit (rc : Int) (nonzero : rc ≠ 0) (left : Disk)
  /-- It cannot be run: `process_error`. -/
  | launch (value : Nat)

/-- The return code 2, with which `tar` ends after a fatal error. -/
def CommandFailure.fatal (left : Disk) : CommandFailure := .exit 2 (by decide) left

def fileExists : Nat := 17
def noSuchFile : Nat := 2
/-- `EACCES`. -/
def permissionDenied : Nat := 13

def Failure.result {α : Type} (f : Failure) (work : Path) (s : Process) :
    Except Thrown α × Process :=
  (.error (.filesystemError f.value), { s with disk := s.disk.leave work f.left })

def CommandFailure.result (work : Path) (s : Process) :
    CommandFailure → Except Thrown Int × Process
  | .exit rc _ left => (.ok rc, { s with disk := s.disk.leave work left })
  | .launch value => (.error (.systemError value), s)

/-- A call that fails may have made the first `made` names of the path. -/
def createDirectories (fails : Option (Nat × Nat)) (path : Path) : CallM Thrown Process Unit :=
  call fun s =>
    match fails with
    | some (value, made) =>
      (.error (.filesystemError value),
        { s with disk := s.disk.makeDirectories (path.take made) })
    | none => (.ok (), { s with disk := s.disk.makeDirectories path })

def copyFile (fails : Option Failure) (work source target : Path) : CallM Thrown Process Unit :=
  call fun s =>
    match fails with
    | some f => f.result work s
    | none =>
      match s.disk.lookup source with
      | some (.file content) =>
        if (s.disk.lookup target).isSome then (.error (.filesystemError fileExists), s)
        else (.ok (), { s with disk := s.disk.set target (.file content) })
      | _ => (.error (.filesystemError noSuchFile), s)

def currentPath : CallM Thrown Process Path := call fun s => (.ok s.currentPath, s)

def setCurrentPath (fails : Option Nat) (path : Path) : CallM Thrown Process Unit :=
  call fun s =>
    match fails with
    | some value => (.error (.filesystemError value), s)
    | none =>
      if s.disk.IsDirectory path then (.ok (), { s with currentPath := path })
      else (.error (.filesystemError noSuchFile), s)

/-- Unless the user is the superuser, nothing is removed from a locked directory; `denied` is what is
left then. -/
def removeAll (superuser : Bool) (fails : Option Failure) (denied : Disk) (path : Path) :
    CallM Thrown Process Unit :=
  call fun s =>
    match fails with
    | some f => f.result path s
    | none =>
      if superuser = true ∨ ¬ s.disk.Locked path then
        (.ok (), { s with disk := s.disk.prune path })
      else Failure.result ⟨permissionDenied, denied⟩ path s

/-- The arguments of a command up to the blanks outside of quotation marks; `word` is what has been
read of the next one. -/
def splitCommand : Bool → Bytes → Bytes → List Bytes
  | _, word, [] => if word = [] then [] else [word]
  | quoted, word, c :: cs =>
    if quoted = false ∧ c = 32 then
      if word = [] then splitCommand false [] cs else word :: splitCommand false [] cs
    else splitCommand (if c = 34 then !quoted else quoted) (word ++ [c]) cs

/-- Every `\"` is a quotation mark. -/
def unescape : Bytes → Bytes
  | 92 :: 34 :: cs => 34 :: unescape cs
  | c :: cs => c :: unescape cs
  | [] => []

/-- Quotation marks around a word do not belong to it. -/
def unquote (word : Bytes) : Bytes :=
  unescape (if word.head? = some 34 ∧ word.getLast? = some 34 then word.tail.dropLast else word)

def commandWords (command : Bytes) : List Bytes := (splitCommand false [] command).map unquote

/-- `run` says what the command makes of the state, or how it fails. -/
def system (work : Path) (run : Process → Except CommandFailure Disk) : CallM Thrown Process Int :=
  call fun s =>
    match run s with
    | .ok disk => (.ok 0, { s with disk := disk })
    | .error f => f.result work s

/-- Without blanks and quotation marks a word goes on to the end. -/
theorem splitCommand_word : ∀ (cs word : Bytes), (∀ c ∈ cs, c ≠ 32 ∧ c ≠ 34) → word ++ cs ≠ [] →
    splitCommand false word cs = [word ++ cs]
  | [], word, _, hne => by
    rw [List.append_nil] at hne ⊢
    rw [splitCommand, if_neg hne]
  | c :: cs, word, hplain, _ => by
    obtain ⟨hblank, hquote⟩ := hplain c (List.mem_cons_self ..)
    rw [splitCommand, if_neg fun h => hblank h.2, if_neg hquote,
      splitCommand_word cs (word ++ [c]) (fun d hd => hplain d (List.mem_cons_of_mem _ hd)) (by simp),
      List.append_assoc]
    rfl

theorem unescape_plain : ∀ {word : Bytes}, 34 ∉ word → unescape word = word
  | [], _ => rfl
  | [_], _ => by simp [unescape]
  | c :: d :: cs, h => by
    have hd : d ≠ 34 := fun he => h (by simp [he])
    have htail : unescape (d :: cs) = d :: cs := unescape_plain fun hmem =>
      h (List.mem_cons_of_mem _ hmem)
    rw [unescape]
    · rw [htail]
    · intro cs' _ hcons
      exact hd (List.cons.inj hcons).1

theorem unquote_plain {word : Bytes} (h : 34 ∉ word) : unquote word = word := by
  have hhead : word.head? ≠ some 34 := fun he => h (List.mem_of_mem_head? he)
  rw [unquote, if_neg fun hboth => hhead hboth.1, unescape_plain h]

def checkRc (rc : Int) (what : Bytes) : CallM Thrown Process Unit :=
  call fun s => if rc != 0 then (.error (.exception (.runtimeError what)), s) else (.ok (), s)

/-- A command whose return code is tested. -/
def command (work : Path) (run : Process → Except CommandFailure Disk) (what : Bytes) :
    CallM Thrown Process Unit := do
  let rc ← system work run
  checkRc rc what

/-- `write_file` of a file on the disk; `freed` is what becomes of the text of its checksum, and
`broken` the first of its rounds (the writes of the chunks with the reads before them, and that of the
checksum) that fails. -/
def openAndWriteFile (freed : Freed) (fails : Option Thrown) (broken : Option (Nat × Thrown))
    (fileName : Path) : CallM Thrown Process Unit :=
  call fun s =>
    match fails, s.disk.lookup fileName with
    | none, some (.file content) =>
      let sent := (Client.writeFile freed).emit (content.length + 2)
        (.start content content.length)
      match broken.filter (·.1 < sent.1.length), sent.2 with
      | some (k, ex), _ => (.error ex, { s with written := s.written ++ sent.1.take k })
      | none, .threw ex => (.error (.exception ex), { s with written := s.written ++ sent.1 })
      | none, _ => (.ok (), { s with written := s.written ++ sent.1 })
    | some ex, _ => (.error ex, s)
    | none, _ => (.error (.exception .iosFailure), s)

/-! ## When they return -/

variable {s s' : Process}

theorem returns_createDirectories {fails : Option (Nat × Nat)} {path : Path} {a : Unit} :
    Returns (createDirectories fails path) s a s' ↔
      fails = none ∧ s' = { s with disk := s.disk.makeDirectories path } := by
  unfold Returns createDirectories
  cases fails with
  | none => simp [eq_comm]
  | some value => simp

theorem returns_copyFile {fails : Option Failure} {work source target : Path} {a : Unit} :
    Returns (copyFile fails work source target) s a s' ↔
      fails = none ∧ ∃ content, s.disk.lookup source = some (.file content) ∧
        s.disk.lookup target = none ∧
          s' = { s with disk := s.disk.set target (.file content) } := by
  unfold Returns copyFile
  rw [exec_call]
  cases fails with
  | some f => simp [Failure.result]
  | none =>
    cases hsource : s.disk.lookup source with
    | none => simp
    | some n =>
      cases n with
      | directory writable => simp
      | symlink link => simp
      | file content =>
        cases htarget : s.disk.lookup target with
        | some m => simp
        | none => simp [eq_comm]

theorem returns_currentPath {path : Path} :
    Returns currentPath s path s' ↔ path = s.currentPath ∧ s' = s := by
  simp [Returns, currentPath, eq_comm]

theorem returns_setCurrentPath {fails : Option Nat} {path : Path} {a : Unit} :
    Returns (setCurrentPath fails path) s a s' ↔
      fails = none ∧ s.disk.IsDirectory path ∧ s' = { s with currentPath := path } := by
  unfold Returns setCurrentPath
  cases fails with
  | some value => simp
  | none =>
    by_cases hpath : s.disk.IsDirectory path
    · simp [hpath, eq_comm]
    · simp [hpath]

theorem returns_removeAll {superuser : Bool} {fails : Option Failure} {denied : Disk} {path : Path}
    {a : Unit} :
    Returns (removeAll superuser fails denied path) s a s' ↔
      fails = none ∧ (superuser = true ∨ ¬ s.disk.Locked path) ∧
        s' = { s with disk := s.disk.prune path } := by
  unfold Returns removeAll
  cases fails with
  | some f => simp [Failure.result]
  | none =>
    by_cases hfree : superuser = true ∨ ¬ s.disk.Locked path
    · simp [hfree, eq_comm]
    · simp [hfree, Failure.result]

theorem returns_command {work : Path} {run : Process → Except CommandFailure Disk} {what : Bytes}
    {a : Unit} :
    Returns (command work run what) s a s' ↔
      ∃ disk, run s = .ok disk ∧ s' = { s with disk := disk } := by
  unfold Returns command
  rw [exec_bind, system, exec_call]
  cases hrun : run s with
  | ok disk => simp [checkRc, eq_comm]
  | error f =>
    cases f with
    | launch value => simp [CommandFailure.result]
    | exit rc nonzero left => simp [CommandFailure.result, checkRc, nonzero]

/-- The rounds of `write_file`: the chunks of a file of `size` bytes, one if it is empty, and the
checksum. -/
def rounds (size : Nat) : Nat := (size - 1) / maxChunkSize + 2

/-- `write_file` comes to its end in so many rounds. -/
theorem emit_rounds (freed : Freed) : ∀ (n : Nat) (unread : Bytes) (csc : Crc),
    unread.length + 2 ≤ n → unread.length < UInt64.size →
      ((writeFile freed).emit n (.content unread unread.length csc)).2 = .returned ∧
        ((writeFile freed).emit n (.content unread unread.length csc)).1.length =
          rounds unread.length := by
  have hchecksum : ∀ n csc, 1 ≤ n → ((writeFile freed).emit n (.checksum csc)).2 = .returned ∧
      ((writeFile freed).emit n (.checksum csc)).1.length = 1 := by
    intro n csc hn
    obtain ⟨n, rfl⟩ : ∃ k, n = k + 1 := ⟨n - 1, by omega⟩
    cases n with
    | zero => exact ⟨rfl, rfl⟩
    | succ n => exact ⟨rfl, rfl⟩
  intro n
  induction n with
  | zero => intro unread csc hn; omega
  | succ n ih =>
    intro unread csc hn hlt
    rw [Program.emit, writeFile_content hlt]
    by_cases hle : unread.length ≤ maxChunkSize
    · obtain ⟨hend, hlen⟩ := hchecksum n (csc.processBytes unread) (by omega)
      rw [if_pos hle]
      refine ⟨hend, ?_⟩
      simp only [List.length_cons, hlen, rounds]
      unfold maxChunkSize at *
      omega
    · have hdrop : (unread.drop maxChunkSize).length = unread.length - maxChunkSize :=
        List.length_drop ..
      have hpos : 0 < maxChunkSize := by decide
      obtain ⟨hend, hlen⟩ := ih (unread.drop maxChunkSize)
        (csc.processBytes (unread.take maxChunkSize)) (by omega) (by omega)
      rw [if_neg hle]
      refine ⟨hend, ?_⟩
      simp only [List.length_cons]
      rw [hlen, rounds, rounds, hdrop]
      unfold maxChunkSize at *
      omega

theorem sent_rounds (freed : Freed) (file : File) :
    (Direction.upload.sent freed file (file.bytes.length + 2)).2 = .returned ∧
      (Direction.upload.sent freed file (file.bytes.length + 2)).1.length =
        rounds file.bytes.length :=
  emit_rounds freed _ _ _ (Nat.le_refl _) file.size_lt

theorem returns_openAndWriteFile {freed : Freed} {fails : Option Thrown}
    {broken : Option (Nat × Thrown)} {fileName : Path} {file : File} (hfile : s.disk.lookup fileName = some (.file file.bytes))
    {a : Unit} :
    Returns (openAndWriteFile freed fails broken fileName) s a s' ↔
      fails = none ∧ (∀ k ex, broken = some (k, ex) → rounds file.bytes.length ≤ k) ∧
        s' = { s with written :=
          s.written ++ (Direction.upload.sent freed file (file.bytes.length + 2)).1 } := by
  obtain ⟨hend, hlen⟩ := sent_rounds freed file
  unfold Direction.sent Direction.write at hend hlen ⊢
  simp only at hend hlen ⊢
  unfold Returns openAndWriteFile
  rw [exec_call]
  cases fails with
  | some ex => simp
  | none =>
    simp only [hfile, hend, hlen]
    cases broken with
    | none => simp [eq_comm]
    | some b =>
      obtain ⟨k, ex⟩ := b
      by_cases hk : k < rounds file.bytes.length
      · simp [Option.filter, hk]
      · have hle : rounds file.bytes.length ≤ k := Nat.le_of_not_lt hk
        simp [Option.filter, hk, hle, eq_comm]

/-! ## What they leave -/

/-- There is something at `path`. -/
def Process.Has (path : Path) (s : Process) : Prop := (s.disk.lookup path).isSome = true

theorem has_leave (work : Path) (left : Disk) (s : Process) :
    Process.Has work { s with disk := s.disk.leave work left } := by
  simp [Process.Has]

theorem keeps_copyFile {fails : Option Failure} {work source target : Path} :
    Keeps (Process.Has work) (copyFile fails work source target) := by
  intro s hs
  unfold copyFile
  rw [exec_call]
  cases fails with
  | some f => exact has_leave work f.left s
  | none =>
    simp only
    split
    · split
      · exact hs
      · unfold Process.Has at hs ⊢
        rw [Tree.lookup_set]
        split
        · rfl
        · exact hs
    · exact hs

theorem keeps_currentPath {work : Path} : Keeps (Process.Has work) currentPath := fun _ hs => hs

theorem keeps_setCurrentPath {work path : Path} {fails : Option Nat} :
    Keeps (Process.Has work) (setCurrentPath fails path) := by
  intro s hs
  unfold setCurrentPath
  rw [exec_call]
  cases fails with
  | some value => exact hs
  | none =>
    simp only
    split
    · exact hs
    · exact hs

/-- A command keeps its directory if it does when it succeeds. -/
theorem keeps_command {work : Path} {run : Process → Except CommandFailure Disk} {what : Bytes}
    (h : ∀ s disk, Process.Has work s → run s = .ok disk →
      Process.Has work { s with disk := disk }) :
    Keeps (Process.Has work) (command work run what) := by
  refine keeps_bind ?_ fun rc s hs => ?_
  · intro s hs
    unfold system
    rw [exec_call]
    cases hrun : run s with
    | ok disk => exact h s disk hs hrun
    | error f =>
      cases f with
      | exit rc nonzero left => exact has_leave work left s
      | launch value => exact hs
  · unfold checkRc
    rw [exec_call]
    split
    · exact hs
    · exact hs

theorem keeps_openAndWriteFile {work fileName : Path} {freed : Freed} {fails : Option Thrown}
    {broken : Option (Nat × Thrown)} :
    Keeps (Process.Has work) (openAndWriteFile freed fails broken fileName) := by
  intro s hs
  unfold openAndWriteFile
  rw [exec_call]
  split
  · simp only
    split
    · exact hs
    · exact hs
    · exact hs
  · exact hs
  · exact hs

theorem throwKeeps_removeAll {superuser : Bool} {path : Path} {fails : Option Failure}
    {denied : Disk} : ThrowKeeps (Process.Has path) (removeAll superuser fails denied path) := by
  intro s hs
  unfold removeAll
  rw [exec_call]
  cases fails with
  | some f => exact .inl (has_leave path f.left s)
  | none =>
    by_cases hfree : superuser = true ∨ ¬ s.disk.Locked path
    · refine .inr ⟨(), _, returns_removeAll.2 ⟨rfl, hfree, rfl⟩⟩
    · simp only [if_neg hfree]
      exact .inl (has_leave path denied s)

end ContainerBuilder
