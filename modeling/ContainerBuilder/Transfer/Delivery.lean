import ContainerBuilder.Transfer.File

/-!
# What a transfer delivers

`Looped` is the loop invariant of `write_file`; the properties of what it writes are read off it. On
the other side the pieces need not be the frames: only the tokens are the same.

Main results: `file_round_trip_iff`, a transfer leaves the file that was sent if and only if the memory
of the checksum's text still holds it, and `corruption_rejected`, a transfer with a damaged window of
up to four bytes throws.
-/

namespace ContainerBuilder

open Lib

/-- From client to builder, or from builder to client. -/
inductive Direction
  | upload
  | download
deriving DecidableEq, Repr

def Direction.write (freed : Freed) : Direction → Program WriteFile Part UInt8
  | .upload => Client.writeFile freed
  | .download => Builder.writeFile freed

def Direction.read : Direction → Bytes → Program ReadFile Part UInt8
  | .upload => Builder.readFile
  | .download => Client.readFile

theorem Direction.write_eq (freed : Freed) (d : Direction) : d.write freed = writeFile freed := by
  cases d <;> rfl

theorem Direction.read_eq (d : Direction) : d.read = readFile := by
  cases d <;> rfl

/-- What `write_file` has written after `n` acts and where it is then. -/
def Direction.sent (d : Direction) (freed : Freed) (file : File) (n : Nat) :
    List (Part × Frame UInt8) × WriteFile :=
  (d.write freed).emit n (.start file.bytes file.bytes.length)

/-- The frames of one of the two messages. -/
def part (m : Part) (frames : List (Part × Frame UInt8)) : List (Frame UInt8) :=
  frames.filterMap fun f => if f.1 = m then some f.2 else none

/-! ## The writer -/

/-- A chunk that is not the last. -/
def more (chunk : Bytes) : Part × Frame UInt8 := (.content, ⟨false, chunk⟩)

@[simp] theorem part_append (m : Part) (fs gs : List (Part × Frame UInt8)) :
    part m (fs ++ gs) = part m fs ++ part m gs :=
  List.filterMap_append

@[simp] theorem part_content_more (chunks : List Bytes) :
    part .content (chunks.map more) = chunks.map fun c => ⟨false, c⟩ := by
  induction chunks with
  | nil => rfl
  | cons c cs ih =>
    rw [List.map_cons, List.map_cons, ← ih]
    rfl

@[simp] theorem part_checksum_more (chunks : List Bytes) :
    part .checksum (chunks.map more) = [] := by
  induction chunks with
  | nil => rfl
  | cons c cs ih =>
    rw [List.map_cons, ← ih]
    rfl

@[simp] theorem wire_more (chunks : List Bytes) :
    wire (chunks.map fun c => ⟨false, c⟩) = chunks.flatten.map .sym := by
  induction chunks with
  | nil => rfl
  | cons c cs ih =>
    rw [List.map_cons, wire_cons, ih, tokens_more, List.flatten_cons, List.map_append]

/-- The loop invariant: full chunks have been written, and with what is unread they make up the
file. -/
inductive Looped (freed : Freed) (file : Bytes) : List (Part × Frame UInt8) → WriteFile → Prop
  | content (chunks : List Bytes) (unread : Bytes) :
    (∀ c ∈ chunks, c.length = maxChunkSize) → chunks.flatten ++ unread = file →
      Looped freed file (chunks.map more)
        (.content unread unread.length (Crc.initial.processBytes chunks.flatten))
  | checksum (chunks : List Bytes) (last : Bytes) :
    (∀ c ∈ chunks, c.length = maxChunkSize) → last.length ≤ maxChunkSize →
      chunks.flatten ++ last = file →
      Looped freed file (chunks.map more ++ [(.content, ⟨true, last⟩)])
        (.checksum (Crc.initial.processBytes file))
  | returned (chunks : List Bytes) (last : Bytes) :
    (∀ c ∈ chunks, c.length = maxChunkSize) → last.length ≤ maxChunkSize →
      chunks.flatten ++ last = file →
      Looped freed file (chunks.map more ++ [(.content, ⟨true, last⟩),
        (.checksum, ⟨true, freed.bytes (checksumText file)⟩)]) .returned

theorem unread_lt {file unread : Bytes} {chunks : List Bytes} (hfile : file.length < UInt64.size)
    (hall : chunks.flatten ++ unread = file) : unread.length < UInt64.size := by
  have hlen : (chunks.flatten ++ unread).length = file.length := by rw [hall]
  rw [List.length_append] at hlen
  omega

section writer
variable {freed : Freed}

/-- A round of the loop keeps the invariant. -/
theorem Looped.next {file : Bytes} (hfile : file.length < UInt64.size) {fs : List (Part × Frame UInt8)}
    {s next : WriteFile} {m : Part} {f : Frame UInt8} (h : Looped freed file fs s)
    (hs : writeFile freed s = .write m f next) : Looped freed file (fs ++ [(m, f)]) next := by
  cases h with
  | content chunks unread hchunks hall =>
    rw [writeFile_content (unread_lt hfile hall)] at hs
    split at hs
    · rename_i hle
      injection hs with hm hf hnext
      subst hm hf hnext
      rw [← Crc.processBytes_append, hall]
      exact .checksum chunks unread hchunks hle hall
    · rename_i hlong
      injection hs with hm hf hnext
      subst hm hf hnext
      have htake : (unread.take maxChunkSize).length = maxChunkSize := by
        rw [List.length_take]
        omega
      have hflat : (chunks ++ [unread.take maxChunkSize]).flatten =
          chunks.flatten ++ unread.take maxChunkSize := by simp
      have hfull : ∀ c ∈ chunks ++ [unread.take maxChunkSize], c.length = maxChunkSize := by
        intro c hc
        rcases List.mem_append.1 hc with hc | hc
        · exact hchunks c hc
        · rw [List.mem_singleton.1 hc, htake]
      have hrest : (chunks ++ [unread.take maxChunkSize]).flatten ++ unread.drop maxChunkSize =
          file := by
        rw [hflat, List.append_assoc, List.take_append_drop, hall]
      have hloop : Looped freed file _ _ := .content _ _ hfull hrest
      rw [hflat, Crc.processBytes_append, List.map_append] at hloop
      exact hloop
  | checksum chunks last hchunks hlast hall =>
    injection hs with hm hf hnext
    subst hm hf hnext
    rw [List.append_assoc]
    exact .returned chunks last hchunks hlast hall
  | returned chunks last hchunks hlast hall => cases hs

theorem Looped.no_step {file : Bytes} (hfile : file.length < UInt64.size)
    {fs : List (Part × Frame UInt8)} {s next : WriteFile} (h : Looped freed file fs s) :
    writeFile freed s ≠ .step next := by
  intro hs
  cases h with
  | content chunks unread hchunks hall =>
    rw [writeFile_content (unread_lt hfile hall)] at hs
    split at hs <;> cases hs
  | checksum => cases hs
  | returned => cases hs

variable (freed) in
theorem sent_looped (d : Direction) (file : File) (n : Nat) :
    Looped freed file.bytes (d.sent freed file n).1 (d.sent freed file n).2 := by
  unfold Direction.sent
  rw [d.write_eq freed]
  apply Program.emit_inv
  · intro fs s m f next h hs
    exact h.next file.size_lt hs
  · intro fs s next h hs
    exact absurd hs (h.no_step file.size_lt)
  · exact .content [] file.bytes (by simp) rfl

/-- No frame of the content is longer than a chunk. -/
theorem Looped.length_le {file : Bytes} {fs : List (Part × Frame UInt8)} {s : WriteFile}
    (h : Looped freed file fs s) : ∀ f ∈ part .content fs, f.payload.length ≤ maxChunkSize := by
  have hmore : ∀ {chunks : List Bytes}, (∀ c ∈ chunks, c.length = maxChunkSize) →
      ∀ f ∈ part .content (chunks.map more), f.payload.length ≤ maxChunkSize := by
    intro chunks hchunks f hf
    rw [part_content_more] at hf
    obtain ⟨c, hc, rfl⟩ := List.mem_map.1 hf
    exact Nat.le_of_eq (hchunks c hc)
  intro f hf
  cases h with
  | content chunks unread hchunks hall => exact hmore hchunks f hf
  | checksum chunks last hchunks hlast hall =>
    rw [part_append] at hf
    rcases List.mem_append.1 hf with hf | hf
    · exact hmore hchunks f hf
    · obtain rfl := List.mem_singleton.1 hf
      exact hlast
  | returned chunks last hchunks hlast hall =>
    rw [part_append] at hf
    rcases List.mem_append.1 hf with hf | hf
    · exact hmore hchunks f hf
    · obtain rfl := List.mem_singleton.1 hf
      exact hlast

variable (freed) in
/-- The loop is left, and the function returns. -/
theorem sent_returned (d : Direction) (file : File) : ∃ n, (d.sent freed file n).2 = .returned := by
  have hstart : (writeScript freed).Inv (.start file.bytes file.bytes.length) := ⟨rfl, file.size_lt⟩
  obtain ⟨n, hn⟩ := (writeScript freed).emit_stops writeFile_not_read hstart
  refine ⟨n, ?_⟩
  have hloop := sent_looped freed d file n
  unfold Direction.sent at hloop ⊢
  rw [d.write_eq freed] at hloop ⊢
  generalize (writeFile freed).emit n _ = r at hn hloop
  obtain ⟨fs, s⟩ := r
  cases hloop with
  | content chunks unread hchunks hall =>
    rw [writeFile_content (unread_lt file.size_lt hall)] at hn
    split at hn <;> cases hn
  | checksum => cases hn
  | returned => rfl

/-- What has been written in the end. -/
theorem sent_frames {d : Direction} {file : File} {n : Nat}
    (h : (d.sent freed file n).2 = .returned) :
    ∃ (chunks : List Bytes) (last : Bytes), (∀ c ∈ chunks, c.length = maxChunkSize) ∧
      last.length ≤ maxChunkSize ∧ chunks.flatten ++ last = file.bytes ∧
      (d.sent freed file n).1 = chunks.map more ++ [(.content, ⟨true, last⟩),
        (.checksum, ⟨true, freed.bytes (checksumText file.bytes)⟩)] := by
  have hloop := sent_looped freed d file n
  rw [h] at hloop
  generalize d.sent freed file n = r at hloop
  obtain ⟨fs, s⟩ := r
  cases hloop with
  | returned chunks last hchunks hlast hall => exact ⟨chunks, last, hchunks, hlast, hall, rfl⟩

/-- The first message is the file, the second what the memory of its checksum's text holds. -/
theorem sent_wire {d : Direction} {file : File} {n : Nat}
    (h : (d.sent freed file n).2 = .returned) :
    wire (part .content (d.sent freed file n).1) = message file.bytes ∧
      wire (part .checksum (d.sent freed file n).1) =
        message (freed.bytes (checksumText file.bytes)) ∧
      wire ((d.sent freed file n).1.map Prod.snd) =
        message file.bytes ++ message (freed.bytes (checksumText file.bytes)) := by
  obtain ⟨chunks, last, -, -, hall, hfs⟩ := sent_frames h
  have hmore : (chunks.map more).map Prod.snd = chunks.map fun c => (⟨false, c⟩ : Frame UInt8) := by
    rw [List.map_map]
    rfl
  have hmsg : chunks.flatten.map .sym ++ message last = message file.bytes := by
    rw [← message_append, hall]
  rw [hfs]
  refine ⟨?_, ?_, ?_⟩
  · rw [part_append, part_content_more, wire_append, wire_more, ← hmsg]
    simp [part]
  · rw [part_append, part_checksum_more]
    simp [part]
  · rw [List.map_append, hmore, wire_append, wire_more, ← hmsg, List.append_assoc]
    simp

end writer

/-! ## The reader -/

/-- The loop of `read_file` is left with the piece that ends the content, and no earlier. -/
theorem absorb_content (fileName bytes : Bytes) : ∀ (pieces : List (Frame UInt8)) {file : Bytes},
    file <+: bytes → (∀ p ∈ pieces, p.tokens ≠ []) →
      wire pieces = message (bytes.drop file.length) →
      (readFile fileName).absorb (.content file (Crc.initial.processBytes file)) pieces =
          (.checksum bytes (Crc.initial.processBytes bytes) [], []) ∧
        ∀ k < pieces.length, ∃ file' csc, ((readFile fileName).absorb
          (.content file (Crc.initial.processBytes file)) (pieces.take k)).1 = .content file' csc
  | [], file, _, _, hwire => absurd hwire.symm (message_ne_nil _)
  | p :: ps, file, hfile, hne, hwire => by
    obtain ⟨fin, payload⟩ := p
    have hps : ∀ q ∈ ps, q.tokens ≠ [] := fun q hq => hne q (List.mem_cons_of_mem _ hq)
    have hw : Frame.tokens ⟨fin, payload⟩ ++ wire ps = message (bytes.drop file.length) ++ [] := by
      rw [List.append_nil, ← hwire, wire_cons]
    have hfirst : ∃ file' csc, ((readFile fileName).absorb
        (.content file (Crc.initial.processBytes file)) ([] : List (Frame UInt8))).1 =
          .content file' csc := ⟨_, _, rfl⟩
    rcases tokens_append_eq_message hw with ⟨hf, bs, hbs, hrest⟩ | ⟨hf, hall, hrest⟩
    · obtain rfl : fin = false := hf
      obtain ⟨hpre, hdrop⟩ := prefix_append_of_drop hfile hbs
      rw [List.append_nil, ← hdrop] at hrest
      obtain ⟨hend, hstay⟩ := absorb_content fileName bytes ps hpre hps hrest
      rw [Crc.processBytes_append] at hend hstay
      refine ⟨hend, fun k hk => ?_⟩
      cases k with
      | zero => exact hfirst
      | succ k => exact hstay k (Nat.lt_of_succ_lt_succ hk)
    · obtain rfl : fin = true := hf
      have hnil : ps = [] := by
        cases ps with
        | nil => rfl
        | cons q qs =>
          rw [wire_cons] at hrest
          exact absurd (List.append_eq_nil_iff.1 hrest).1 (hps q (List.mem_cons_self ..))
      subst hnil
      have hfull : file ++ payload = bytes := by
        have hpre := List.prefix_iff_eq_append.1 hfile
        rwa [hall] at hpre
      refine ⟨?_, fun k hk => ?_⟩
      · simp only [Program.absorb, readFile, if_true, ← Crc.processBytes_append, hfull]
      · obtain rfl : k = 0 := by simpa using hk
        exact hfirst

/-- **What `read_file` makes of a content and a checksum**: it ends with exactly their pieces, and
throws if and only if the text is not the checksum of the content. -/
theorem absorb_readFile (fileName : Bytes) {bytes sum : Bytes} {pieces : List (Frame UInt8)}
    (more : List (Frame UInt8)) (hne : ∀ p ∈ pieces, p.tokens ≠ [])
    (hwire : wire pieces = message bytes ++ message sum) :
    (readFile fileName).absorb .start (pieces ++ more) =
      (if sum = checksumText bytes then .returned bytes
        else .threw bytes (checksumsDoNotMatch fileName), more) := by
  have hreads : ∀ s, (readScript fileName bytes sum).Inv s →
      (readScript fileName bytes sum).toRead s ≠ [] →
        ∃ m next, readFile fileName s = .read m next := by
    intro s _ hr
    cases s with
    | content file csc => exact ⟨_, _, rfl⟩
    | checksum file csc remoteChecksum => exact ⟨_, _, rfl⟩
    | returned file => exact absurd rfl hr
    | threw file ex => exact absurd rfl hr
  have hstart : (readScript fileName bytes sum).Inv .start := ⟨List.nil_prefix, rfl⟩
  have hexp : ((readScript fileName bytes sum).toRead .start).map Prod.snd = wire pieces := by
    rw [hwire]
    simp [readScript, readPlan, ReadFile.start]
  obtain ⟨hall, hinv, hdone⟩ :=
    (readScript fileName bytes sum).absorb_all hreads pieces hstart hne hexp
  rw [Program.absorb_append _ _ _ hall]
  generalize ((readFile fileName).absorb .start pieces).1 = s at hinv hdone
  cases s with
  | content file csc => simp [readScript, readPlan] at hdone
  | checksum file csc remoteChecksum => simp [readScript, readPlan] at hdone
  | returned file =>
    obtain ⟨rfl, hsum⟩ := hinv
    rw [if_pos hsum]
    exact Program.absorb_stop _ rfl more
  | threw file ex =>
    obtain ⟨rfl, rfl, hsum⟩ := hinv
    rw [if_neg hsum]
    exact Program.absorb_stop _ rfl more

/-! ## Transfers -/

/-- A transfer of `file` with `write` and `read` delivers it. -/
structure RoundTrip (freed : Freed) (d : Direction) (fileName : Bytes) (file : File) : Prop where
  /-- The writer's loop ends, and the function returns. -/
  returns : ∃ n, (d.sent freed file n).2 = .returned
  /-- `bytes_remaining` is at all times what has not been sent. -/
  remaining : ∀ n unread bytesRemaining csc,
    (d.sent freed file n).2 = .content unread bytesRemaining csc →
      ((d.sent freed file n).1.flatMap fun f => f.2.payload) ++ unread = file.bytes ∧
        bytesRemaining = unread.length
  chunks_le : ∀ n, ∀ f ∈ part .content (d.sent freed file n).1, f.payload.length ≤ 4096
  /-- Of the content, `fin` is set on the last frame only. -/
  fin_last : ∀ n, (d.sent freed file n).2 = .returned →
    ∃ init last, part .content (d.sent freed file n).1 = init ++ [last] ∧
      (∀ f ∈ init, f.fin = false) ∧ last.fin = true
  /-- The reader's loop ends with the last piece of the content, and no earlier. -/
  stops : ∀ n pieces, (d.sent freed file n).2 = .returned → (∀ p ∈ pieces, p.tokens ≠ []) →
    wire pieces = wire (part .content (d.sent freed file n).1) →
      (∃ csc, (d.read fileName).absorb .start pieces = (.checksum file.bytes csc [], [])) ∧
        ∀ k < pieces.length, ∃ file' csc,
          ((d.read fileName).absorb .start (pieces.take k)).1 = .content file' csc
  /-- The reader accepts the checksum, leaves the file that was sent, and what follows. -/
  delivers : ∀ n pieces more, (d.sent freed file n).2 = .returned →
    (∀ p ∈ pieces, p.tokens ≠ []) →
    wire pieces = wire ((d.sent freed file n).1.map Prod.snd) →
      (d.read fileName).absorb .start (pieces ++ more) = (.returned file.bytes, more)

section
variable {freed : Freed}

/-- The content and the checksum as one frame each. -/
def wholeFrames (freed : Freed) (file : File) : List (Frame UInt8) :=
  [⟨true, file.bytes⟩, ⟨true, freed.bytes (checksumText file.bytes)⟩]

theorem wholeFrames_ne_nil {file : File} : ∀ p ∈ wholeFrames freed file, p.tokens ≠ [] := by
  simp [wholeFrames, Frame.tokens]

theorem wire_wholeFrames {d : Direction} {file : File} {n : Nat}
    (hn : (d.sent freed file n).2 = .returned) :
    wire (wholeFrames freed file) = wire ((d.sent freed file n).1.map Prod.snd) := by
  rw [(sent_wire hn).2.2]
  simp [wholeFrames]

/-- What the reader makes of a whole transfer. -/
theorem sent_read {d : Direction} {fileName : Bytes} {file : File} {n : Nat}
    {pieces : List (Frame UInt8)} (more : List (Frame UInt8))
    (hn : (d.sent freed file n).2 = .returned) (hne : ∀ p ∈ pieces, p.tokens ≠ [])
    (hwire : wire pieces = wire ((d.sent freed file n).1.map Prod.snd)) :
    (d.read fileName).absorb .start (pieces ++ more) =
      (if freed.bytes (checksumText file.bytes) = checksumText file.bytes then
          .returned file.bytes
        else .threw file.bytes (checksumsDoNotMatch fileName), more) := by
  rw [(sent_wire hn).2.2] at hwire
  rw [d.read_eq]
  exact absorb_readFile fileName more hne hwire

/-- A reader that accepts the checksum has been sent the one of the file. -/
theorem RoundTrip.checksum_kept {d : Direction} {fileName : Bytes} {file : File}
    (h : RoundTrip freed d fileName file) :
    freed.bytes (checksumText file.bytes) = checksumText file.bytes := by
  obtain ⟨n, hn⟩ := h.returns
  have hne : ∀ p ∈ wholeFrames freed file, p.tokens ≠ [] := wholeFrames_ne_nil
  have hdelivers := h.delivers n _ [] hn hne (wire_wholeFrames hn)
  rw [sent_read [] hn hne (wire_wholeFrames hn)] at hdelivers
  by_cases hfreed : freed.bytes (checksumText file.bytes) = checksumText file.bytes
  · exact hfreed
  · rw [if_neg hfreed] at hdelivers
    cases hdelivers

/-- **The file arrives if and only if the checksum does**: in either direction, whatever its length
and however the frames are cut and joined, the transfer delivers the file exactly when the memory of
the destroyed string still holds the checksum's text. -/
theorem file_round_trip_iff (freed : Freed) (d : Direction) (fileName : Bytes) (file : File) :
    RoundTrip freed d fileName file ↔
      freed.bytes (checksumText file.bytes) = checksumText file.bytes := by
  constructor
  · exact RoundTrip.checksum_kept
  · intro hfreed
    refine ⟨sent_returned freed d file, ?_, fun n => (sent_looped freed d file n).length_le, ?_, ?_,
      ?_⟩
    · intro n unread bytesRemaining csc hs
      have hloop := sent_looped freed d file n
      rw [hs] at hloop
      generalize d.sent freed file n = r at hloop
      obtain ⟨fs, s⟩ := r
      cases hloop with
      | content chunks unread hchunks hall =>
        refine ⟨?_, rfl⟩
        rw [← hall, List.flatMap_map, List.flatMap_def]
        simp [more]
    · intro n hn
      obtain ⟨chunks, last, -, -, -, hfs⟩ := sent_frames hn
      refine ⟨chunks.map fun c => ⟨false, c⟩, ⟨true, last⟩, ?_, ?_, rfl⟩
      · rw [hfs, part_append, part_content_more]
        rfl
      · intro f hf
        obtain ⟨c, -, rfl⟩ := List.mem_map.1 hf
        rfl
    · intro n pieces hn hne hwire
      rw [(sent_wire hn).1] at hwire
      rw [d.read_eq]
      obtain ⟨h1, h2⟩ := absorb_content fileName file.bytes pieces List.nil_prefix hne hwire
      exact ⟨⟨_, h1⟩, h2⟩
    · intro n pieces more hn hne hwire
      rw [sent_read more hn hne hwire, if_pos hfreed]

/-- The memory has been cleared before an empty file's checksum is sent: the reader throws. -/
theorem cleared_checksum_refused :
    ¬ RoundTrip .cleared .upload (ascii "cb-context.tar.gz") ⟨[], by decide⟩ := by
  intro h
  have hkept : Freed.cleared.bytes (checksumText []) = checksumText [] := h.checksum_kept
  revert hkept
  decide +kernel

/-- **A damaged window of at most four bytes is noticed**, wherever it is, as long as the checksum
message is intact: `read_file` ends by throwing the mismatch. -/
theorem corruption_rejected (d : Direction) (fileName : Bytes) (file : File) {n : Nat}
    (hintact : freed.bytes (checksumText file.bytes) = checksumText file.bytes)
    (hn : (d.sent freed file n).2 = .returned) {pre xs ys suf : Bytes}
    (hfile : file.bytes = pre ++ xs ++ suf) (hlen : ys.length = xs.length) (hwindow : ys.length ≤ 4)
    (hne : ys ≠ xs) {pieces : List (Frame UInt8)} (hpieces : ∀ p ∈ pieces, p.tokens ≠ [])
    (hwire : wire pieces =
      message (pre ++ ys ++ suf) ++ wire (part .checksum (d.sent freed file n).1))
    (more : List (Frame UInt8)) :
    (d.read fileName).absorb .start (pieces ++ more) =
      (.threw (pre ++ ys ++ suf) (.runtimeError (fileName ++ ascii " checksums do not match")),
        more) := by
  rw [(sent_wire hn).2.1, hintact, hfile] at hwire
  have hsum : checksumText (pre ++ xs ++ suf) ≠ checksumText (pre ++ ys ++ suf) := by
    intro he
    have hcsc := Crc.text_injective he.symm
    exact hne (Crc.window_detected hlen hwindow hcsc)
  rw [d.read_eq, absorb_readFile fileName more hpieces hwire, if_neg hsum]
  rfl

/-- One byte of five is damaged, and the content comes in two pieces. -/
theorem corruption_rejected_byte :
    (Direction.upload.read (ascii "cb-context.tar.gz")).absorb .start
        ([⟨false, [1, 7]⟩, ⟨true, [3, 4, 5]⟩,
          ⟨true, checksumText [1, 2, 3, 4, 5]⟩] ++ []) =
      (.threw ([1] ++ [7] ++ [3, 4, 5])
        (.runtimeError (ascii "cb-context.tar.gz" ++ ascii " checksums do not match")), []) := by
  have hsent : (Direction.upload.sent .intact ⟨[1, 2, 3, 4, 5], by decide⟩ 2).2 = .returned := by
    decide +kernel
  have hfile : [1, 2, 3, 4, 5] = [1] ++ [(2 : UInt8)] ++ [3, 4, 5] := rfl
  have hlen : [(7 : UInt8)].length = [(2 : UInt8)].length := rfl
  refine corruption_rejected .upload _ _ (Freed.intact_bytes _) hsent hfile hlen (by decide)
    (by decide) ?_ ?_ []
  · simp [Frame.tokens]
  · decide +kernel

end

end ContainerBuilder
