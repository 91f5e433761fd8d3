import ContainerBuilder.Transfer.File

/-!
# The image file when its transfer fails (`Client/src/main.cpp:55-87`, `:402`)

`read_file` opens the file at `container_path` itself, truncating it, and writes each chunk to it as
it arrives; the checksum is compared after the file is closed. Nothing is written elsewhere and
renamed, and neither `read_file` nor the `catch` blocks of `main` remove anything. So an exception
leaves what had been written: `image_transfer`.

| here | there |
| --- | --- |
| `Arrival`                  | how one read returns and, in the loop, the `file.write` after it |
| `ReadImage`, `ReadImage.step` | `read_file`, one read at a time; without failures it is `Client.readFile` |
| `receive`                  | `read_file` from `file.open` on |
| `ReadImage.container`      | the file at `container_path` |

`std::ofstream` buffers, and an exception destroys it; how much of what was written to it has then
reached the file is part of each failure.
-/

namespace ContainerBuilder

open Lib

inductive Arrival
  /-- A piece is read. If `failed` is `some kept`, then `file.write`, or after the last piece
  `file.close()`, fails and the file keeps `kept` bytes. -/
  | piece (p : Frame UInt8) (failed : Option Nat)
  /-- The read fails. -/
  | readError (value kept : Nat)
deriving DecidableEq, Repr

inductive ReadImage
  | running (s : ReadFile)
  | failed (container : Option Bytes) (ex : Thrown)
deriving DecidableEq, Repr

namespace ReadImage

/-- `container` is what the file was before. -/
def start (container : Option Bytes) (opens : Bool) : ReadImage :=
  if opens then .running .start else .failed container (.exception .iosFailure)

def step (fileName : Bytes) : ReadImage → Arrival → ReadImage
  | .running (.content file csc), .piece p none =>
    match Client.readFile fileName (.content file csc) with
    | .read _ next => .running (next p)
    | _ => .running (.content file csc)
  | .running (.content file _), .piece p (some kept) =>
    .failed (some ((file ++ p.payload).take kept)) (.exception .iosFailure)
  | .running (.content file _), .readError value kept =>
    .failed (some (file.take kept)) (.systemError value)
  | .running (.checksum file csc remoteChecksum), .piece p _ =>
    match Client.readFile fileName (.checksum file csc remoteChecksum) with
    | .read _ next => .running (next p)
    | _ => .running (.checksum file csc remoteChecksum)
  | .running (.checksum file _ _), .readError value _ => .failed (some file) (.systemError value)
  | s, _ => s

def container : ReadImage → Option Bytes
  | .running (.content file _) => some file
  | .running (.checksum file _ _) => some file
  | .running (.returned file) => some file
  | .running (.threw file _) => some file
  | .failed container _ => container

def Threw : ReadImage → Prop
  | .running (.threw _ _) => True
  | .failed _ _ => True
  | _ => False

def run (fileName : Bytes) (s : ReadImage) (as : List Arrival) : ReadImage :=
  as.foldl (step fileName) s

end ReadImage

/-- The transfer of an image to a file that was `before`. -/
def receive (fileName : Bytes) (before : Option Bytes) (opens : Bool) (as : List Arrival) :
    ReadImage :=
  ReadImage.run fileName (.start before opens) as

/-! ## What has been received -/

inductive Arrived
  | complete
  | broken
  | pending
deriving DecidableEq, Repr

/-- The image; it breaks off as well when its file cannot be written. When it is complete, the file is
closed. -/
def imageArrived : List Arrival → Arrived
  | [] => .pending
  | .piece p none :: as => if p.fin then .complete else imageArrived as
  | _ :: _ => .broken

/-- The bytes of the image, as far as they arrive before the first failure. -/
def received : List Arrival → Bytes
  | .piece p none :: as => p.payload ++ if p.fin then [] else received as
  | .piece p (some _) :: _ => p.payload
  | _ => []

/-- What arrives after the last piece of the image. -/
def afterImage : List Arrival → List Arrival
  | .piece p none :: as => if p.fin then as else afterImage as
  | _ => []

/-- The text of a message. -/
def receivedText : List Arrival → Bytes
  | .piece p _ :: as => p.payload ++ if p.fin then [] else receivedText as
  | _ => []

namespace ReadImage

variable (fileName : Bytes)

@[simp] theorem run_nil (s : ReadImage) : run fileName s [] = s := rfl

@[simp] theorem run_cons (s : ReadImage) (a : Arrival) (as : List Arrival) :
    run fileName s (a :: as) = run fileName (s.step fileName a) as := rfl

/-- Not reading any more. -/
def Stopped : ReadImage → Prop
  | .running (.content _ _) => False
  | .running (.checksum _ _ _) => False
  | _ => True

theorem run_stopped {s : ReadImage} (h : s.Stopped) (as : List Arrival) :
    run fileName s as = s := by
  induction as with
  | nil => rfl
  | cons a as ih =>
    have hstep : s.step fileName a = s := by
      cases s with
      | failed container ex => rfl
      | running s =>
        cases s with
        | content file csc => exact h.elim
        | checksum file csc remoteChecksum => exact h.elim
        | returned file => rfl
        | threw file ex => rfl
    rw [run_cons, hstep, ih]

theorem run_failed (container : Option Bytes) (ex : Thrown) (as : List Arrival) :
    run fileName (.failed container ex) as = .failed container ex := by
  have hstopped : (failed container ex).Stopped := trivial
  exact run_stopped fileName hstopped as

/-- As long as nothing fails, this is `Client.readFile`. -/
theorem run_pieces (s : ReadFile) (ps : List (Frame UInt8)) :
    run fileName (.running s) (ps.map (.piece · none)) =
      .running ((Client.readFile fileName).absorb s ps).1 := by
  induction ps generalizing s with
  | nil => rfl
  | cons p ps ih =>
    rw [List.map_cons, run_cons]
    cases s with
    | content file csc => exact ih _
    | checksum file csc remoteChecksum => exact ih _
    | returned file =>
      have hstopped : (running (.returned file)).Stopped := trivial
      exact run_stopped fileName hstopped _
    | threw file ex =>
      have hstopped : (running (.threw file ex)).Stopped := trivial
      exact run_stopped fileName hstopped _

/-- The comparison does not touch the file, and lets only the right checksum pass. -/
theorem compare_stopped (file : Bytes) (csc : Crc) (remoteChecksum : Bytes) :
    (running (.compare fileName file csc remoteChecksum)).Stopped ∧
      (running (.compare fileName file csc remoteChecksum)).container = some file ∧
      ∀ file', ReadFile.compare fileName file csc remoteChecksum = .returned file' →
        file' = file ∧ csc.text = remoteChecksum := by
  unfold ReadFile.compare
  by_cases hsum : (csc.text != remoteChecksum) = true
  · rw [if_pos hsum]
    exact ⟨trivial, rfl, nofun⟩
  · rw [if_neg hsum]
    refine ⟨trivial, rfl, ?_⟩
    rintro file' ⟨⟩
    exact ⟨rfl, by simpa using hsum⟩

theorem step_content (file : Bytes) (csc : Crc) (p : Frame UInt8) :
    (running (.content file csc)).step fileName (.piece p none) =
      if p.fin then .running (.checksum (file ++ p.payload) (csc.processBytes p.payload) [])
      else .running (.content (file ++ p.payload) (csc.processBytes p.payload)) := by
  obtain ⟨fin, payload⟩ := p
  cases fin with
  | false => rfl
  | true => rfl

theorem step_checksum (file : Bytes) (csc : Crc) (remoteChecksum : Bytes) (p : Frame UInt8)
    (failed : Option Nat) :
    (running (.checksum file csc remoteChecksum)).step fileName (.piece p failed) =
      if p.fin then .running (.compare fileName file csc (remoteChecksum ++ p.payload))
      else .running (.checksum file csc (remoteChecksum ++ p.payload)) := by
  obtain ⟨fin, payload⟩ := p
  cases fin with
  | false => rfl
  | true => rfl

/-- While the checksum is read, the file is not touched. -/
theorem run_checksum (file : Bytes) (csc : Crc) : ∀ (as : List Arrival) (remoteChecksum : Bytes),
    (run fileName (.running (.checksum file csc remoteChecksum)) as).container = some file ∧
      ∀ file', run fileName (.running (.checksum file csc remoteChecksum)) as =
        .running (.returned file') →
          file' = file ∧ csc.text = remoteChecksum ++ receivedText as := by
  intro as
  induction as with
  | nil => exact fun _ => ⟨rfl, nofun⟩
  | cons a as ih =>
    intro remoteChecksum
    rw [run_cons]
    cases a with
    | readError value kept =>
      rw [step, run_failed]
      exact ⟨rfl, nofun⟩
    | piece p failed =>
      rw [step_checksum, receivedText]
      by_cases hfin : p.fin = true
      · obtain ⟨hstopped, hfile, hsum⟩ :=
          compare_stopped fileName file csc (remoteChecksum ++ p.payload)
        rw [if_pos hfin, if_pos hfin, run_stopped fileName hstopped, List.append_nil]
        exact ⟨hfile, fun file' hr => hsum file' (running.inj hr)⟩
      · rw [if_neg hfin, if_neg hfin, ← List.append_assoc]
        exact ih (remoteChecksum ++ p.payload)

/-- In the loop, the file holds a prefix of what is received, and after it everything. -/
theorem run_content : ∀ (as : List Arrival) (file : Bytes),
    (∃ left,
      (run fileName (.running (.content file (Crc.initial.processBytes file))) as).container =
        some left ∧ left <+: file ++ received as ∧
          (imageArrived as = .complete → left = file ++ received as)) ∧
      ∀ file', run fileName (.running (.content file (Crc.initial.processBytes file))) as =
        .running (.returned file') →
          file' = file ++ received as ∧
            checksumText file' = receivedText (afterImage as) := by
  intro as
  induction as with
  | nil => exact fun file => ⟨⟨file, rfl, List.prefix_append .., nofun⟩, nofun⟩
  | cons a as ih =>
    intro file
    rw [run_cons]
    cases a with
    | readError value kept =>
      rw [step, run_failed]
      refine ⟨⟨_, rfl, ?_, nofun⟩, nofun⟩
      exact (List.take_prefix ..).trans (List.prefix_append ..)
    | piece p failed =>
      cases failed with
      | some kept =>
        rw [step, run_failed]
        exact ⟨⟨_, rfl, List.take_prefix .., nofun⟩, nofun⟩
      | none =>
        rw [step_content, ← Crc.processBytes_append, imageArrived, received, afterImage]
        by_cases hfin : p.fin = true
        · rw [if_pos hfin, if_pos hfin, if_pos hfin, if_pos hfin, List.append_nil]
          obtain ⟨hfile, hsum⟩ := run_checksum fileName (file ++ p.payload)
            (Crc.initial.processBytes (file ++ p.payload)) as []
          refine ⟨⟨_, hfile, List.prefix_refl _, fun _ => rfl⟩, fun file' hr => ?_⟩
          obtain ⟨rfl, htext⟩ := hsum file' hr
          exact ⟨rfl, htext⟩
        · rw [if_neg hfin, if_neg hfin, if_neg hfin, if_neg hfin, ← List.append_assoc]
          exact ih (file ++ p.payload)

end ReadImage

/-- **What a failed transfer leaves.** If `read_file` throws because the file cannot be opened, the
file is as it was; if it throws later, the file holds a prefix of what has been received, and all of it
once it has been closed. If `read_file` returns, the file holds what has been received, and the
checksum received is its own. -/
theorem image_transfer (fileName : Bytes) (before : Option Bytes) (opens : Bool)
    (as : List Arrival) :
    ((receive fileName before opens as).Threw →
      opens = false ∧ (receive fileName before opens as).container = before ∨
      opens = true ∧ ∃ left, (receive fileName before opens as).container = some left ∧
        left <+: received as ∧ (imageArrived as = .complete → left = received as)) ∧
    (∀ file, receive fileName before opens as = .running (.returned file) →
      file = received as ∧
        checksumText file = receivedText (afterImage as)) := by
  unfold receive ReadImage.start
  cases opens with
  | false =>
    simp only [Bool.false_eq_true, if_false, ReadImage.run_failed]
    exact ⟨fun _ => .inl ⟨trivial, rfl⟩, nofun⟩
  | true =>
    obtain ⟨hfile, hreturned⟩ := ReadImage.run_content fileName as []
    exact ⟨fun _ => .inr ⟨rfl, hfile⟩, hreturned⟩

/-- The connection breaks after the first byte. -/
def brokenImage : List Arrival := [.piece ⟨false, [1]⟩ none, .readError 104 1]

/-- A partial image is left, where there was none and in the place of one. -/
theorem broken_image_is_left :
    (receive (ascii "c.img") none true brokenImage).Threw ∧
    (receive (ascii "c.img") none true brokenImage).container = some [1] ∧
    (receive (ascii "c.img") (some [7, 8]) true brokenImage).Threw ∧
    (receive (ascii "c.img") (some [7, 8]) true brokenImage).container = some [1] ∧
    ¬ ∀ (before : Option Bytes) (as : List Arrival),
      (receive (ascii "c.img") before true as).Threw →
        (receive (ascii "c.img") before true as).container = before := by
  refine ⟨trivial, rfl, trivial, rfl, fun h => ?_⟩
  cases h none brokenImage trivial

end ContainerBuilder
