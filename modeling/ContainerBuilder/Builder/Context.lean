import ContainerBuilder.Client.Context

/-!
# `read_context` (`Builder/src/main.cpp:187-199`) and the way of a build context

The builder reads the archive, unpacks it where it is and goes into it. `context_arrives_iff`: if no
call fails for a reason of its own, the tree it ends up in is the one the client was to send, however
the connection cuts the frames, but for four cases:

| the client's tree or its temporary directory | what happens |
| --- | --- |
| the tree holds a `container.def` | `copy_file`, which does not overwrite, throws; the usage text suggests just this name |
| there is a blank in the temporary path | `cp` gets other arguments, and `write_context` throws |
| a directory in the tree is locked, and has entries | `remove_all` throws when it comes to its copy |
| the dead text of the checksum has been overwritten | the builder's `read_file` throws |

| here | there |
| --- | --- |
| `readFileInto`            | `read_file` into a file on the disk |
| `UnpackCalls`             | how the system answers the calls of `read_context` |
| `Builder.readContext`     | `read_context` |

A builder serves one client and is discarded, so its home directory holds no context before.
-/

namespace ContainerBuilder

open Lib

/-- `asio::error::eof` -/
def endOfFile : Nat := 2

/-- `read_file` of what arrives as `pieces`, after which the connection ends. -/
def readFileInto (fileName : Bytes) (path : Path) (pieces : List (Frame UInt8)) :
    CallM Thrown Process Unit :=
  call fun s =>
    let save (file : Bytes) : Process := { s with disk := s.disk.set path (.file file) }
    match ((Builder.readFile fileName).absorb .start pieces).1 with
    | .content file _ => (.error (.systemError endOfFile), save file)
    | .checksum file _ _ => (.error (.systemError endOfFile), save file)
    | .returned file => (.ok (), save file)
    | .threw file ex => (.error (.exception ex), save file)

structure UnpackCalls where
  /-- The entries of an archive, if it can be unpacked. -/
  tar : Bytes → Except CommandFailure Disk
  changeError : Option Nat

/-- What `tar xf cb-context.tar.gz` makes of the disk. -/
def UnpackCalls.runTar (b : UnpackCalls) (s : Process) : Except CommandFailure Disk :=
  match s.disk.lookup (s.currentPath ++ [tarballName]) with
  | some (.file bytes) => (b.tar bytes).map fun entries => s.disk.overlay s.currentPath entries
  | _ => .error (.fatal ∅)

def Builder.readContext (b : UnpackCalls) (pieces : List (Frame UInt8)) :
    CallM Thrown Process Unit := do
  let pwd ← currentPath
  readFileInto tarballName (pwd ++ [tarballName]) pieces
  command (pwd ++ [contextName]) b.runTar (ascii "Error untarring build context")
  setCurrentPath b.changeError (pwd ++ [contextName])

/-! ## Unpacking -/

theorem returns_readFileInto {fileName : Bytes} {path : Path} {pieces : List (Frame UInt8)}
    {s s' : Process} {a : Unit} :
    Returns (readFileInto fileName path pieces) s a s' ↔
      ∃ file, ((Builder.readFile fileName).absorb .start pieces).1 = .returned file ∧
        s' = { s with disk := s.disk.set path (.file file) } := by
  unfold Returns readFileInto
  rw [exec_call]
  cases ((Builder.readFile fileName).absorb .start pieces).1 with
  | content file csc => simp
  | checksum file csc remoteChecksum => simp
  | returned file => simp [eq_comm]
  | threw file ex => simp

/-- Nothing is unpacked before `read_file` has accepted the archive. -/
theorem accepted_of_readContext {b : UnpackCalls} {pieces : List (Frame UInt8)} {s s' : Process}
    (h : Returns (Builder.readContext b pieces) s () s') :
    ∃ file, ((Builder.readFile tarballName).absorb .start pieces).1 = .returned file := by
  obtain ⟨_, _, -, h⟩ := returns_bind.1 h
  obtain ⟨_, _, hread, -⟩ := returns_bind.1 h
  obtain ⟨file, hfile, -⟩ := returns_readFileInto.1 hread
  exact ⟨file, hfile⟩

/-- An unpacked context is what was archived. -/
theorem returns_readContext {b : UnpackCalls} {pieces : List (Frame UInt8)} {file : File}
    {context : Disk} {s : Process}
    (hread : ((Builder.readFile tarballName).absorb .start pieces).1 = .returned file.bytes)
    (htar : b.tar file.bytes = .ok (Tree.graft ∅ [contextName] context))
    (hroot : context.IsDirectory []) (hchange : b.changeError = none)
    (hfresh : ∀ p, s.currentPath ++ [contextName] <+: p → s.disk.lookup p = none) :
    ∃ s', Returns (Builder.readContext b pieces) s () s' ∧
      s'.currentPath = s.currentPath ++ [contextName] ∧
      s'.disk.subtree s'.currentPath = context := by
  -- the archive is saved beside the context
  let saved : Process :=
    { s with disk := s.disk.set (s.currentPath ++ [tarballName]) (.file file.bytes) }
  let unpacked : Process :=
    { saved with disk := saved.disk.overlay s.currentPath (Tree.graft ∅ [contextName] context) }
  have hlookup : ∀ q, unpacked.disk.lookup (s.currentPath ++ [contextName] ++ q) =
      context.lookup q := by
    intro q
    have hnone : saved.disk.lookup (s.currentPath ++ ([contextName] ++ q)) = none := by
      have hname : s.currentPath ++ ([contextName] ++ q) ≠ s.currentPath ++ [tarballName] := by
        intro he
        have hcons := List.cons.inj (List.append_cancel_left he)
        exact absurd hcons.1 (by decide)
      have hunder : s.currentPath ++ [contextName] <+: s.currentPath ++ ([contextName] ++ q) := by
        rw [← List.append_assoc]
        exact List.prefix_append ..
      simp only [saved, Tree.lookup_set, if_neg hname, hfresh _ hunder]
    rw [List.append_assoc, Tree.lookup_overlay_append, Tree.lookup_graft_append, hnone,
      Option.or_none]
  have hrun : b.runTar saved = .ok unpacked.disk := by
    have htarball : saved.disk.lookup (saved.currentPath ++ [tarballName]) =
        some (.file file.bytes) := by
      simp only [saved, Tree.lookup_set, if_true]
    rw [UnpackCalls.runTar, htarball]
    simp only [htar]
    rfl
  have hdirectory : unpacked.disk.IsDirectory (s.currentPath ++ [contextName]) := by
    obtain ⟨writable, hwritable⟩ := hroot
    have hempty := hlookup []
    rw [List.append_nil, hwritable] at hempty
    exact ⟨writable, hempty⟩
  refine ⟨{ unpacked with currentPath := s.currentPath ++ [contextName] }, ?_, rfl, ?_⟩
  · refine returns_bind.2 ⟨_, _, returns_currentPath.2 ⟨rfl, rfl⟩, ?_⟩
    refine returns_bind.2 ⟨(), saved, returns_readFileInto.2 ⟨_, hread, rfl⟩, ?_⟩
    refine returns_bind.2 ⟨(), unpacked, returns_command.2 ⟨_, hrun, rfl⟩, ?_⟩
    exact returns_setCurrentPath.2 ⟨hchange, hdirectory, rfl⟩
  · refine Finmap.ext_lookup fun q => ?_
    rw [Tree.lookup_subtree]
    exact hlookup q

/-! ## From client to builder -/

/-- No call of client or builder fails for a reason of its own; `cp` and `tar` reproduce trees. -/
structure NoFailures (e : ContextCalls) (b : UnpackCalls) : Prop where
  create : e.createError = none
  cp : e.cpError = none
  copy : e.copyError = none
  enter : e.enterError = none
  leave : e.leaveError = none
  openTarball : e.openError = none
  transfer : e.transferError = none
  remove : e.removeError = none
  /-- What is unpacked is what was archived. -/
  tar : ∀ tree file, e.tar tree = .ok file → b.tar file.bytes = .ok tree
  change : b.changeError = none

/-- `write_context` returns, and so does `read_context` with what it has written, however it is
cut; the builder is then in `cb-context`, and finds `context` there. -/
def ContextArrives (e : ContextCalls) (b : UnpackCalls) (clientData : ClientData)
    (client builder : Process) (context : Disk) : Prop :=
  ∃ client' frames, Returns (Client.writeContext e clientData) client () client' ∧
    client'.written = client.written ++ frames ∧
    ∀ pieces, (∀ p ∈ pieces, p.tokens ≠ []) → wire pieces = wire (frames.map Prod.snd) →
      ∃ builder', Returns (Builder.readContext b pieces) builder () builder' ∧
        builder'.currentPath = builder.currentPath ++ [contextName] ∧
        builder'.disk.subtree builder'.currentPath = context

theorem contextTree_root (clientData : ClientData) (s : Process) (definition : Bytes) :
    (contextTree clientData s definition).IsDirectory [] := by
  refine ⟨true, ?_⟩
  rw [contextTree, Tree.lookup_set, if_neg (List.cons_ne_nil _ _).symm, contextBase]
  split
  · rw [Tree.lookup_set, if_pos rfl]
  · rw [Tree.lookup_set, if_pos rfl]

/-- **The build context arrives** if and only if the tree that is transferred has no `container.def`
of its own and the command that copies it is split as it is meant, the copy can be removed again, and
the memory of the destroyed string still holds the text of the archive's checksum. -/
theorem context_arrives_iff {e : ContextCalls} {b : UnpackCalls} {clientData : ClientData}
    {client builder : Process} {definition : Bytes} {file : File}
    (hentry : e.OnEntry clientData client)
    (hreadable : client.disk.lookup (e.resolve client.currentPath clientData.definitionPath) =
      some (.file definition))
    (houtside : clientData.transferContext = true → ¬ client.currentPath <+: e.contextTempPath)
    (hno : NoFailures e b)
    (harchive : e.tar (Tree.graft ∅ [contextName] (contextTree clientData client definition)) =
      .ok file)
    (hfresh : ∀ p, builder.currentPath ++ [contextName] <+: p → builder.disk.lookup p = none) :
    ContextArrives e b clientData client builder (contextTree clientData client definition) ↔
      (clientData.transferContext = true →
        client.disk.lookup (client.currentPath ++ [definitionName]) = none ∧ e.OneWord) ∧
      (e.superuser = true ∨ ¬ (contextTree clientData client definition).Locked []) ∧
      e.freed.bytes (checksumText file.bytes) = checksumText file.bytes := by
  have hsent := (sent_rounds e.freed file).1
  constructor
  · rintro ⟨client', frames, hreturns, hframes, harrives⟩
    obtain ⟨definition', file', hok, rfl⟩ :=
      (ContextCalls.writeContext_returns hentry hno.create).1 hreturns
    obtain rfl : definition = definition' := by
      have hsame := hreadable.symm.trans hok.readable
      exact Node.file.inj (Option.some.inj hsame)
    obtain rfl : file = file' := Except.ok.inj (harchive.symm.trans hok.tar)
    obtain rfl : (Direction.upload.sent e.freed file (file.bytes.length + 2)).1 = frames :=
      List.append_cancel_left hframes
    refine ⟨fun htransfer => ⟨hok.no_definition htransfer, (hok.cpError htransfer).2.1⟩,
      hok.removable, ?_⟩
    -- the frames need not be cut
    have hne : ∀ p ∈ wholeFrames e.freed file, p.tokens ≠ [] := wholeFrames_ne_nil
    have hwire := wire_wholeFrames hsent
    obtain ⟨builder', hread, -, -⟩ := harrives _ hne hwire
    obtain ⟨received, hreceived⟩ := accepted_of_readContext hread
    have habsorb : (Builder.readFile tarballName).absorb .start (wholeFrames e.freed file ++ []) = _ :=
      sent_read [] hsent hne hwire
    rw [List.append_nil] at habsorb
    rw [habsorb] at hreceived
    by_cases hfreed : e.freed.bytes (checksumText file.bytes) = checksumText file.bytes
    · exact hfreed
    · rw [if_neg hfreed] at hreceived
      cases hreceived
  · rintro ⟨htree, hremovable, hfreed⟩
    have hok : e.Succeeds clientData client definition file := {
      cpError := fun htransfer => ⟨hno.cp, (htree htransfer).2, houtside htransfer⟩
      readable := hreadable
      copyError := hno.copy
      no_definition := fun htransfer => (htree htransfer).1
      enterError := hno.enter
      tar := harchive
      leaveError := hno.leave
      openError := hno.openTarball
      transferError := fun k ex hbroken => by
        rw [hno.transfer] at hbroken
        cases hbroken
      removeError := hno.remove
      removable := hremovable }
    refine ⟨e.finished clientData client definition file, _,
      (ContextCalls.writeContext_returns hentry hno.create).2 ⟨definition, file, hok, rfl⟩,
      rfl, ?_⟩
    intro pieces hne hwire
    have habsorb : (Builder.readFile tarballName).absorb .start (pieces ++ []) = _ :=
      sent_read [] hsent hne hwire
    rw [List.append_nil, if_pos hfreed] at habsorb
    have hread : ((Builder.readFile tarballName).absorb .start pieces).1 = .returned file.bytes := by
      rw [habsorb]
    exact returns_readContext hread (hno.tar _ _ harchive)
      (contextTree_root clientData client definition) hno.change hfresh

/-- A `tar` for one tree, with a name for it in the place of the archive. -/
def oneTar (tree : Disk) (t : Disk) : Except CommandFailure File :=
  if t = tree then .ok smallFile else .error (.fatal ∅)

def oneUntar (tree : Disk) : UnpackCalls where
  tar bytes := if bytes = smallFile.bytes then .ok tree else .error (.fatal ∅)
  changeError := none

theorem one_noFailures (tree : Disk) : NoFailures (plainCalls (oneTar tree)) (oneUntar tree) where
  create := rfl
  cp := rfl
  copy := rfl
  enter := rfl
  leave := rfl
  openTarball := rfl
  transfer := rfl
  remove := rfl
  tar t file h := by
    change oneTar tree t = .ok file at h
    unfold oneTar at h
    by_cases ht : t = tree
    · rw [if_pos ht] at h
      obtain rfl := Except.ok.inj h
      rw [ht]
      rfl
    · rw [if_neg ht] at h
      cases h
  change := rfl

/-- A builder that has just been created. -/
def freshBuilder : Process where
  disk := Tree.set ∅ homeDirectory (.directory true)
  currentPath := homeDirectory
  written := []

theorem fresh_context {p : Path} (hp : freshBuilder.currentPath ++ [contextName] <+: p) :
    freshBuilder.disk.lookup p = none := by
  obtain ⟨q, rfl⟩ := hp
  have hne : homeDirectory ++ [contextName] ++ q ≠ homeDirectory := by simp
  simp only [freshBuilder, Tree.lookup_set, if_neg hne, Finmap.lookup_empty]

/-- The context of a build of the one file of the current directory. -/
def homeContext (name : Bytes) : Disk := contextTree (buildOf name true) (homeProcess name) [1]

def homeTar (name : Bytes) : Disk → Except CommandFailure File :=
  oneTar (Tree.graft ∅ [contextName] (homeContext name))

def homeUntar (name : Bytes) : UnpackCalls :=
  oneUntar (Tree.graft ∅ [contextName] (homeContext name))

theorem context_arrives_plain :
    ContextArrives (plainCalls (homeTar (ascii "r.def"))) (homeUntar (ascii "r.def"))
      (buildOf (ascii "r.def") true) (homeProcess (ascii "r.def")) freshBuilder
      (homeContext (ascii "r.def")) :=
  (context_arrives_iff (home_onEntry _ _ _) (home_definition _) (fun _ => by decide)
    (one_noFailures _) (if_pos rfl) fun _ hp => fresh_context hp).2
    ⟨fun _ => ⟨by decide +kernel, by decide⟩, .inr (by decide +kernel), Freed.intact_bytes _⟩

/-- A build of `container.def` in the current directory, with the context, does not get as far as
the archive: `copy_file` finds the copy of the file itself. -/
theorem suggested_definition_refused :
    (plainCalls (homeTar definitionName)).OnEntry (buildOf definitionName true)
      (homeProcess definitionName) ∧
    NoFailures (plainCalls (homeTar definitionName)) (homeUntar definitionName) ∧
    (exec (Client.writeContext (plainCalls (homeTar definitionName)) (buildOf definitionName true))
      (homeProcess definitionName)).1 = .error (.filesystemError fileExists) ∧
    ¬ ContextArrives (plainCalls (homeTar definitionName)) (homeUntar definitionName)
      (buildOf definitionName true) (homeProcess definitionName) freshBuilder
      (homeContext definitionName) := by
  have hthrows : (exec (Client.writeContext (plainCalls (homeTar definitionName))
      (buildOf definitionName true)) (homeProcess definitionName)).1 =
        .error (.filesystemError fileExists) := by rfl
  refine ⟨home_onEntry _ _ _, one_noFailures _, hthrows, ?_⟩
  rintro ⟨client', frames, hreturns, -, -⟩
  rw [show exec _ _ = _ from hreturns] at hthrows
  cases hthrows

end ContainerBuilder
