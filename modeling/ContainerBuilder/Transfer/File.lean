import ContainerBuilder.Lib.Session
import ContainerBuilder.Transfer.Crc

/-!
# `write_file` and `read_file`

Client and builder have the same two functions (`Client/src/main.cpp:55-124`,
`Builder/src/main.cpp:44-77`, `:150-185`; they differ in the priority of their log messages). A file
is sent as one message of chunks and one message with the text of its checksum.

| here | there |
| --- | --- |
| `WriteFile`, `writeFile` | the locals of `write_file` at the head of its loop, its loop body and the write of the checksum |
| `ReadFile`, `readFile`   | the locals of `read_file` and what has been written to `file_name`; its loop body, `stream.read` and the comparison |

`container_checksum` (`:121` of the client, `:182` of the builder) is an `asio::buffer` of a temporary
string, so the memory it views is no longer owned when it is written. What it holds then is a parameter
(`Freed`).

A script for each function says what it has left to do. They match when the reader is to read what
the writer was given, and the round trip follows from that, whatever pieces the reader gets.
-/

namespace ContainerBuilder

open Lib

/-- The bytes of a file; its size is a `uintmax_t`. -/
structure File where
  bytes : Bytes
  size_lt : bytes.length < UInt64.size

/-- The two messages of a transfer. -/
inductive Part
  | content
  | checksum
deriving DecidableEq, Repr

/-- What the memory of the text that `std::to_string` has returned holds when `container_checksum` is
written: as many bytes as the text had, whatever they are. -/
structure Freed where
  bytes : Bytes → Bytes
  length_eq : ∀ text, (bytes text).length = text.length

/-- The memory has not been used for anything else. -/
def Freed.intact : Freed := ⟨id, fun _ => rfl⟩

@[simp] theorem Freed.intact_bytes (text : Bytes) : intact.bytes text = text := rfl

/-- The memory has been cleared. -/
def Freed.cleared : Freed := ⟨fun text => List.replicate text.length 0, fun _ => List.length_replicate⟩

/-- `max_chunk_size`. -/
def maxChunkSize : Nat := 4096

/-! ## Writing -/

inductive WriteFile
  /-- The loop, before `container.read`; `unread` is what `container` has left. -/
  | content (unread : Bytes) (bytesRemaining : Nat) (csc : Crc)
  | checksum (csc : Crc)
  | returned
  | threw (ex : Exception)
deriving DecidableEq, Repr

/-- `container` is open and has `file_size` been asked for. -/
def WriteFile.start (file : Bytes) (fileSize : Nat) : WriteFile := .content file fileSize .initial

def writeFile (freed : Freed) : Program WriteFile Part UInt8
  | .content unread bytesRemaining csc =>
    let chunkSize := min bytesRemaining maxChunkSize
    -- a short read sets failbit, which is among `container.exceptions`
    if unread.length < chunkSize then .step (.threw .iosFailure)
    else
      let chunk := unread.take chunkSize
      let csc := csc.processBytes chunk
      let bytesRemaining := toSizeT (bytesRemaining - chunkSize)
      let fin := bytesRemaining == 0
      .write .content ⟨fin, chunk⟩
        (if fin then .checksum csc else .content (unread.drop chunkSize) bytesRemaining csc)
  | .checksum csc => .write .checksum ⟨true, freed.bytes csc.text⟩ .returned
  | .returned => .stop
  | .threw _ => .stop

section writing
variable {freed : Freed}

/-- One round of the loop, while `bytes_remaining` is what `container` has left. -/
theorem writeFile_content {unread : Bytes} (h : unread.length < UInt64.size) (csc : Crc) :
    writeFile freed (.content unread unread.length csc) =
      if unread.length ≤ maxChunkSize then
        .write .content ⟨true, unread⟩ (.checksum (csc.processBytes unread))
      else
        .write .content ⟨false, unread.take maxChunkSize⟩
          (.content (unread.drop maxChunkSize) (unread.drop maxChunkSize).length
            (csc.processBytes (unread.take maxChunkSize))) := by
  have hpos : 0 < maxChunkSize := by decide
  unfold writeFile
  simp only
  by_cases hle : unread.length ≤ maxChunkSize
  · have hmin : min unread.length maxChunkSize = unread.length := Nat.min_eq_left hle
    have hsub := toSizeT_sub (Nat.le_refl unread.length) h
    rw [hmin, hsub, Nat.sub_self, if_neg (Nat.lt_irrefl _), if_pos hle, List.take_length]
    rfl
  · have hmin : min unread.length maxChunkSize = maxChunkSize := Nat.min_eq_right (by omega)
    have hsub := toSizeT_sub (show maxChunkSize ≤ unread.length by omega) h
    have hne : (unread.length - maxChunkSize == 0) = false := by
      simp only [beq_eq_false_iff_ne]
      omega
    rw [hmin, hsub, hne, if_neg (by omega), if_neg hle, List.length_drop]
    rfl

/-- The loop body throws or writes a chunk. -/
theorem writeFile_content_cases (unread : Bytes) (bytesRemaining : Nat) (csc : Crc) :
    writeFile freed (.content unread bytesRemaining csc) = .step (.threw .iosFailure) ∨
      ∃ chunk next,
        writeFile freed (.content unread bytesRemaining csc) = .write .content chunk next := by
  unfold writeFile
  simp only
  split
  · exact .inl rfl
  · exact .inr ⟨_, _, rfl⟩

theorem writeFile_not_read (s : WriteFile) (m : Part) (next : Frame UInt8 → WriteFile) :
    writeFile freed s ≠ .read m next := by
  intro hs
  cases s with
  | content unread bytesRemaining csc =>
    rcases writeFile_content_cases unread bytesRemaining csc with h | ⟨chunk, after, h⟩
    · cases h.symm.trans hs
    · cases h.symm.trans hs
  | checksum csc => cases hs
  | returned => cases hs
  | threw ex => cases hs

theorem writeFile_stop {s : WriteFile} (hs : writeFile freed s = .stop) :
    s = .returned ∨ ∃ ex, s = .threw ex := by
  cases s with
  | content unread bytesRemaining csc =>
    rcases writeFile_content_cases unread bytesRemaining csc with h | ⟨chunk, after, h⟩
    · cases h.symm.trans hs
    · cases h.symm.trans hs
  | checksum csc => cases hs
  | returned => exact .inl rfl
  | threw ex => exact .inr ⟨ex, rfl⟩

variable (freed)

/-- What `write_file` does with a file that does not change. -/
def writePlan : Plan WriteFile Part UInt8 where
  toSend
    | .content unread _ csc =>
      label .content (message unread) ++
        label .checksum (message (freed.bytes (csc.processBytes unread).text))
    | .checksum csc => label .checksum (message (freed.bytes csc.text))
    | _ => []
  toRead _ := []
  later _ := []
  work
    | .content unread _ _ => unread.length + 2
    | .checksum _ => 1
    | _ => 0
  Inv
    | .content unread bytesRemaining _ => bytesRemaining = unread.length ∧ unread.length < UInt64.size
    | .threw _ => False
    | _ => True

def writeScript : Script (writeFile freed) where
  toPlan := writePlan freed
  keeps := by
    intro s hinv
    cases s with
    | content unread bytesRemaining csc =>
      obtain ⟨rfl, hlt⟩ := hinv
      rw [writeFile_content hlt]
      split
      · exact ⟨trivial, by simp [writePlan], rfl, by simp [writePlan]⟩
      · rename_i hlong
        have hdrop : (unread.drop maxChunkSize).length < unread.length := by
          have : 0 < maxChunkSize := by decide
          rw [List.length_drop]
          omega
        refine ⟨⟨rfl, Nat.lt_trans hdrop hlt⟩, ?_, rfl, Nat.add_lt_add_right hdrop 2⟩
        have hsplit : unread.take maxChunkSize ++ unread.drop maxChunkSize = unread :=
          List.take_append_drop ..
        have hmsg : message unread =
            (unread.take maxChunkSize).map .sym ++ message (unread.drop maxChunkSize) := by
          rw [← message_append, hsplit]
        simp only [writePlan, hmsg, label_append, tokens_more, List.append_assoc,
          ← Crc.processBytes_append, hsplit]
    | checksum csc => exact ⟨trivial, by simp [writePlan], rfl, by simp [writePlan]⟩
    | returned => exact ⟨rfl, rfl⟩
    | threw ex => exact hinv.elim

end writing

/-! ## Reading -/

inductive ReadFile
  /-- The loop, before `read_some`; `file` is what has been written to `file_name`. -/
  | content (file : Bytes) (csc : Crc)
  /-- In `read(remote_checksum_buffer)`. -/
  | checksum (file : Bytes) (csc : Crc) (remoteChecksum : Bytes)
  | returned (file : Bytes)
  | threw (file : Bytes) (ex : Exception)
deriving DecidableEq, Repr

/-- `file_name` has been opened and truncated. -/
def ReadFile.start : ReadFile := .content [] .initial

def checksumsDoNotMatch (fileName : Bytes) : Exception :=
  .runtimeError (fileName ++ ascii " checksums do not match")

/-- The end of `read_file`: the comparison of the checksums (`:81-84` of the client). -/
def ReadFile.compare (fileName file : Bytes) (csc : Crc) (remoteChecksum : Bytes) : ReadFile :=
  if csc.text != remoteChecksum then .threw file (checksumsDoNotMatch fileName) else .returned file

def readFile (fileName : Bytes) : Program ReadFile Part UInt8
  | .content file csc => .read .content fun p =>
    let file := file ++ p.payload
    let csc := csc.processBytes p.payload
    if p.fin then .checksum file csc [] else .content file csc
  | .checksum file csc remoteChecksum => .read .checksum fun p =>
    let remoteChecksum := remoteChecksum ++ p.payload
    if p.fin then .compare fileName file csc remoteChecksum
    else .checksum file csc remoteChecksum
  | .returned _ => .stop
  | .threw _ _ => .stop

/-- What `read_file` does when it is sent `bytes` and the text `sum`. -/
def readPlan (fileName bytes sum : Bytes) : Plan ReadFile Part UInt8 where
  toSend _ := []
  toRead
    | .content file _ =>
      label .content (message (bytes.drop file.length)) ++ label .checksum (message sum)
    | .checksum _ _ remoteChecksum =>
      label .checksum (message (sum.drop remoteChecksum.length))
    | _ => []
  later
    | .content => label .checksum (message sum)
    | .checksum => []
  work
    | .content file _ => (bytes.drop file.length).length + sum.length + 2
    | .checksum _ _ remoteChecksum => (sum.drop remoteChecksum.length).length + 1
    | _ => 0
  Inv
    | .content file csc => file <+: bytes ∧ csc = Crc.initial.processBytes file
    | .checksum file csc remoteChecksum =>
      file = bytes ∧ csc = Crc.initial.processBytes bytes ∧ remoteChecksum <+: sum
    | .returned file => file = bytes ∧ sum = checksumText bytes
    | .threw file ex => file = bytes ∧ ex = checksumsDoNotMatch fileName ∧
      sum ≠ checksumText bytes

section reading
variable (fileName bytes sum : Bytes)

theorem readPlan_content : (readPlan fileName bytes sum).Collects .content bytes
    (fun file => .content file (Crc.initial.processBytes file))
    (.checksum bytes (Crc.initial.processBytes bytes) []) (sum.length + 1) where
  inv _ h := ⟨h, rfl⟩
  toSend _ := rfl
  toRead _ := rfl
  work _ := by
    simp only [readPlan]
    omega
  final_inv := ⟨rfl, rfl, List.nil_prefix⟩
  final_toRead := rfl
  final_work := by simp [readPlan]

theorem readPlan_checksum : (readPlan fileName bytes sum).Collects .checksum sum
    (fun remoteChecksum => .checksum bytes (Crc.initial.processBytes bytes) remoteChecksum)
    (.compare fileName bytes (Crc.initial.processBytes bytes) sum) 0 where
  inv _ h := ⟨rfl, rfl, h⟩
  toSend _ := rfl
  toRead _ := (List.append_nil _).symm
  work _ := rfl
  final_inv := by
    unfold ReadFile.compare
    split
    · rename_i hne
      exact ⟨rfl, rfl, fun he => by simp [he, checksumText] at hne⟩
    · rename_i he
      have hsum : (Crc.initial.processBytes bytes).text = sum := by simpa using he
      exact ⟨rfl, hsum.symm⟩
  final_toRead := by
    unfold ReadFile.compare
    split <;> rfl
  final_work := by
    unfold ReadFile.compare
    split <;> exact Nat.le_refl 0

def readScript : Script (readFile fileName) where
  toPlan := readPlan fileName bytes sum
  keeps := by
    intro s hinv
    cases s with
    | content file csc =>
      obtain ⟨hfile, rfl⟩ := hinv
      refine (readPlan_content fileName bytes sum).keeps hfile (fun as => ?_) fun as he => ?_
      · rw [Crc.processBytes_append]
        rfl
      · rw [← he, Crc.processBytes_append]
        rfl
    | checksum file csc remoteChecksum =>
      obtain ⟨rfl, rfl, hremote⟩ := hinv
      refine (readPlan_checksum fileName file sum).keeps hremote (fun as => rfl) fun as he => ?_
      rw [← he]
      rfl
    | returned file => exact ⟨rfl, rfl⟩
    | threw file ex => exact ⟨rfl, rfl⟩

end reading

/-! ## The two programs -/

/-- `write_file` (Client/src/main.cpp:89). -/
def Client.writeFile : Freed → Program WriteFile Part UInt8 := ContainerBuilder.writeFile

/-- `read_file` (Client/src/main.cpp:55). -/
def Client.readFile : Bytes → Program ReadFile Part UInt8 := ContainerBuilder.readFile

/-- `write_file` (Builder/src/main.cpp:150). -/
def Builder.writeFile : Freed → Program WriteFile Part UInt8 := ContainerBuilder.writeFile

/-- `read_file` (Builder/src/main.cpp:44). -/
def Builder.readFile : Bytes → Program ReadFile Part UInt8 := ContainerBuilder.readFile

end ContainerBuilder
