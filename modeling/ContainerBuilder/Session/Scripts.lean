import ContainerBuilder.Session.Programs

/-!
# The scripts of client and builder

The messages carry no tags: that each is read by the step it was written for rests on both programs
going through the same sequence. `Message.after` is that sequence, and `clientScript` and
`builderScript` say how each program goes through it, stage by stage. The two transfers are parts of
the programs, so their scripts are used as they are (`Lib.Plan.Embeds`).
-/

namespace ContainerBuilder

open Lib
open Lib.Decimal (signed)

/-- A session: the header of its archives, what the client brings, what the builder's processes do,
and what becomes of the text of either checksum before it is written. -/
structure Setup where
  header : Bytes
  clientData : ClientData
  context : File
  run : Bytes → Bytes → Build
  contextFreed : Freed
  imageFreed : Freed

/-- The messages that follow on `m` in its direction. After the exit code there are only the
transfer of the image, and no more if it is not zero. -/
def Message.after (b : Build) : Message → List Message
  | .clientData => [.context, .contextChecksum]
  | .context => [.contextChecksum]
  | .contextChecksum => []
  | .output => .exitCode :: if b.exitCode = 0 then [.image, .imageChecksum] else []
  | .exitCode => if b.exitCode = 0 then [.image, .imageChecksum] else []
  | .image => [.imageChecksum]
  | .imageChecksum => []

namespace Setup

variable (S : Setup) (b : Build)

def body : Message → Bytes
  | .clientData => archive S.header Archive.clientData S.clientData
  | .context => S.context.bytes
  | .contextChecksum => S.contextFreed.bytes (checksumText S.context.bytes)
  | .output => b.output
  | .exitCode => signed b.exitCode
  | .image => b.container.bytes
  | .imageChecksum => S.imageFreed.bytes (checksumText b.container.bytes)

/-- The checksums that are sent are those of the files: a destroyed string still holds its text when
it is written. -/
structure Intact : Prop where
  context : S.body b .contextChecksum = checksumText S.context.bytes
  image : b.exitCode = 0 → S.body b .imageChecksum = checksumText b.container.bytes

def messages (ms : List Message) : List (Message × Token UInt8) :=
  ms.flatMap fun m => label m (message (S.body b m))

/-- What is still to be read of `m` and after it by a reader that has `buf`. -/
def rest (m : Message) (buf : Bytes) : List (Message × Token UInt8) :=
  label m (message ((S.body b m).drop buf.length)) ++ S.messages b (m.after b)

/-- What the client writes in all. -/
def upload : List (Message × Token UInt8) := S.messages b [.clientData, .context, .contextChecksum]

/-- What the builder writes in all. -/
def download : List (Message × Token UInt8) := S.messages b (.output :: Message.after b .output)

@[simp] theorem messages_nil : S.messages b [] = [] := rfl

@[simp] theorem messages_cons (m : Message) (ms : List Message) :
    S.messages b (m :: ms) = label m (message (S.body b m)) ++ S.messages b ms := by
  simp [messages]

theorem rest_nil (m : Message) : S.rest b m [] = S.messages b (m :: m.after b) := by
  simp [rest]

end Setup

/-! ## The transfers as parts -/

section parts
variable {σ : Type} {B : Plan σ Message UInt8} {name : Part → Message} {freed : Freed}
  {send read : List (Message × Token UInt8)} {k : Nat}

/-- `write_file` within a program, until it has returned. -/
theorem writer_keeps {g : WriteFile → σ} (e : (writePlan freed).Embeds B g name send read k)
    {w : WriteFile} (hw : (writePlan freed).Inv w) (hreturned : w ≠ .returned) :
    B.Keeps (g w) ((writeFile freed w).map g name) := by
  have hstop : writeFile freed w ≠ .stop := by
    intro hs
    rcases writeFile_stop hs with h | ⟨ex, h⟩
    · exact hreturned h
    · subst h
      exact hw.elim
  exact e.keeps ((writeScript freed).keeps w hw) hstop fun m next hr =>
    absurd hr (writeFile_not_read w m next)

/-- `read_file` within a program, until it has returned or thrown. -/
theorem reader_keeps {g : ReadFile → σ} {fileName bytes sum : Bytes}
    (e : (readPlan fileName bytes sum).Embeds B g name send read k)
    (hcontent : B.later (name .content) = label (name .checksum) (message sum) ++ read)
    (hchecksum : B.later (name .checksum) = read) {r : ReadFile}
    (hr : (readPlan fileName bytes sum).Inv r) (hstop : readFile fileName r ≠ .stop) :
    B.Keeps (g r) ((readFile fileName r).map g name) := by
  refine e.keeps ((readScript fileName bytes sum).keeps r hr) hstop fun m next _ => ?_
  cases m with
  | content => rw [hcontent, readPlan, label_rename]
  | checksum => rw [hchecksum, readPlan, List.map_nil, List.nil_append]

end parts

/-! ## The client -/

section client
variable (S : Setup) (b : Build)

/-- `readPlan` for the container. -/
def imagePlan : Plan ReadFile Part UInt8 :=
  readPlan S.clientData.containerPath (S.body b .image) (S.body b .imageChecksum)

/-- The work of the client from `read_file` on. -/
def imageWork : Nat := (imagePlan S b).work .start + 1

/-- The work of the client from its `stream_build` on. -/
def outputWork : Nat := b.output.length + 1 + ((signed b.exitCode).length + 1 + imageWork S b)

def clientPlan : Plan Client Message UInt8 where
  toSend c :=
    match c.stage with
    | .writeClientData => S.upload b
    | .writeContext w => ((writePlan S.contextFreed).toSend w).map (Prod.map Part.ofContext id)
    | _ => []
  toRead c :=
    match c.stage with
    | .writeClientData => S.download b
    | .writeContext _ => S.download b
    | .streamBuild => S.rest b .output c.printed
    | .readExitCode exitCodeString => S.rest b .exitCode exitCodeString
    | .readFile r => ((imagePlan S b).toRead r).map (Prod.map Part.ofImage id)
    | _ => []
  later m := S.messages b (m.after b)
  work c :=
    match c.stage with
    | .writeClientData => S.context.bytes.length + 4 + outputWork S b
    | .writeContext w => (writePlan S.contextFreed).work w + (1 + outputWork S b)
    | .streamBuild => (b.output.drop c.printed.length).length + 1 +
        ((signed b.exitCode).length + 1 + imageWork S b)
    | .readExitCode exitCodeString =>
      ((signed b.exitCode).drop exitCodeString.length).length + 1 + imageWork S b
    | .readFile r => (imagePlan S b).work r + 1
    | _ => 0
  Inv c :=
    match c.stage with
    | .writeClientData => c.printed = []
    | .writeContext w => c.printed = [] ∧ (writePlan S.contextFreed).Inv w
    | .streamBuild => c.printed <+: b.output
    | .readExitCode exitCodeString => c.printed = b.output ∧ exitCodeString <+: signed b.exitCode
    | .readFile r => c.printed = b.output ∧ b.exitCode = 0 ∧ (imagePlan S b).Inv r
    | .finished image => c.printed = b.output ∧ b.exitCode = 0 ∧ image = b.container.bytes
    | .threw ex => c.printed = b.output ∧ b.exitCode ≠ 0 ∧
        ex = .runtimeError (ascii "Build failed with exit code " ++ signed b.exitCode)

/-- The exit code that was sent decides as the exit code does. -/
theorem checkExitCode_signed (n : Int) :
    Client.checkExitCode (signed n) = if n = 0 then .readFile .start
      else .threw (.runtimeError (ascii "Build failed with exit code " ++ signed n)) := by
  have hzero : signed 0 = ascii "0" := by decide +kernel
  unfold Client.checkExitCode
  rw [← hzero]
  by_cases hn : n = 0
  · simp [hn]
  · have hne : signed n ≠ signed 0 := fun he => hn (Decimal.signed_eq_zero.1 he)
    simp [hn, hne]

/-- The client is in its `write_context`. -/
theorem client_writes : (writePlan S.contextFreed).Embeds (clientPlan S b)
    (fun w => ⟨.writeContext w, []⟩) Part.ofContext [] (S.download b) (1 + outputWork S b) where
  inv _ hw := ⟨rfl, hw⟩
  toSend _ := (List.append_nil _).symm
  toRead _ := rfl
  work _ := rfl

theorem client_output : (clientPlan S b).Collects .output b.output
    (fun printed => ⟨.streamBuild, printed⟩) ⟨.readExitCode [], b.output⟩
    ((signed b.exitCode).length + 1 + imageWork S b) where
  inv _ h := h
  toSend _ := rfl
  toRead _ := rfl
  work _ := rfl
  final_inv := ⟨rfl, List.nil_prefix⟩
  final_toRead := S.rest_nil b .exitCode
  final_work := Nat.le_refl _

theorem client_exitCode : (clientPlan S b).Collects .exitCode (signed b.exitCode)
    (fun exitCodeString => ⟨.readExitCode exitCodeString, b.output⟩)
    ⟨Client.checkExitCode (signed b.exitCode), b.output⟩ (imageWork S b) where
  inv _ h := ⟨rfl, h⟩
  toSend _ := by
    rw [checkExitCode_signed]
    split <;> rfl
  toRead _ := rfl
  work _ := rfl
  final_inv := by
    rw [checkExitCode_signed]
    by_cases hzero : b.exitCode = 0
    · rw [if_pos hzero]
      exact ⟨rfl, hzero, List.nil_prefix, rfl⟩
    · rw [if_neg hzero]
      exact ⟨rfl, hzero, rfl⟩
  final_toRead := by
    rw [checkExitCode_signed]
    by_cases hzero : b.exitCode = 0
    · simp [clientPlan, imagePlan, readPlan, ReadFile.start, Message.after, hzero, Part.ofImage]
    · simp [clientPlan, Message.after, hzero]
  final_work := by
    rw [checkExitCode_signed]
    split
    · exact Nat.le_refl _
    · exact Nat.zero_le _

/-- The client is in its `read_file`. -/
theorem client_reads (hzero : b.exitCode = 0) : (imagePlan S b).Embeds (clientPlan S b)
    (fun r => ⟨.readFile r, b.output⟩) Part.ofImage [] [] 1 where
  inv _ hr := ⟨rfl, hzero, hr⟩
  toSend _ := rfl
  toRead _ := (List.append_nil _).symm
  work _ := rfl

variable {S b} in
def clientScript (hintact : S.Intact b) :
    Script (Client.program S.contextFreed S.header S.clientData S.context) where
  toPlan := clientPlan S b
  keeps := by
    rintro ⟨stage, printed⟩ hinv
    cases stage with
    | writeClientData =>
      obtain rfl : printed = [] := hinv
      refine ⟨⟨rfl, rfl, S.context.size_lt⟩, ?_, rfl, ?_⟩
      · simp [clientPlan, writePlan, WriteFile.start, Setup.upload, Setup.body, Part.ofContext,
          checksumText]
      · simp [clientPlan, writePlan, WriteFile.start]
        omega
    | writeContext w =>
      obtain ⟨hprinted, hw⟩ := hinv
      obtain rfl : printed = [] := hprinted
      cases w with
      | content unread bytesRemaining csc =>
        exact writer_keeps (client_writes S b) hw (by nofun)
      | checksum csc => exact writer_keeps (client_writes S b) hw (by nofun)
      | returned =>
        refine ⟨List.nil_prefix, rfl, S.rest_nil b .output, ?_⟩
        show (b.output.drop 0).length + 1 + _ < 0 + (1 + outputWork S b)
        rw [List.drop_zero, outputWork]
        omega
      | threw ex => exact hw.elim
    | streamBuild =>
      exact (client_output S b).keeps hinv (fun as => rfl) fun as he => by rw [← he]; rfl
    | readExitCode exitCodeString =>
      obtain ⟨hprinted, hcode⟩ := hinv
      obtain rfl : printed = b.output := hprinted
      exact (client_exitCode S b).keeps hcode (fun as => rfl) fun as he => by rw [← he]; rfl
    | readFile r =>
      obtain ⟨hprinted, hzero, hr⟩ := hinv
      obtain rfl : printed = b.output := hprinted
      have hreader := reader_keeps (client_reads S b hzero)
        (by simp [clientPlan, Part.ofImage, Message.after])
        (by simp [clientPlan, Part.ofImage, Message.after]) hr
      cases r with
      | content file csc => exact hreader (by nofun)
      | checksum file csc remoteChecksum => exact hreader (by nofun)
      | returned image => exact ⟨⟨rfl, hzero, hr.1⟩, rfl, rfl, Nat.lt_succ_self _⟩
      | threw image ex => exact absurd (hintact.image hzero) hr.2.2
    | finished image => exact ⟨rfl, rfl⟩
    | threw ex => exact ⟨rfl, rfl⟩

end client

/-! ## The builder -/

section builder
variable (S : Setup) (b : Build)

/-- `readPlan` for the context. -/
def contextPlan : Plan ReadFile Part UInt8 :=
  readPlan (ascii "cb-context.tar.gz") (S.body b .context) (S.body b .contextChecksum)

/-- The work of the builder from its `stream_build` on. -/
def buildWork : Nat := b.pipe.length + (b.container.bytes.length + 4)

def builderPlan : Plan BuilderStage Message UInt8 where
  toSend
    | .readClientData _ => S.download b
    | .readContext _ _ => S.download b
    | .buildCommand _ _ => S.download b
    | .streamBuild _ reads => label .output (message (reads.map Prod.snd).flatten) ++
        S.messages b (Message.after b .output)
    | .writeExitCode _ => S.messages b (Message.after b .output)
    | .writeFile w => ((writePlan S.imageFreed).toSend w).map (Prod.map Part.ofImage id)
    | _ => []
  toRead
    | .readClientData clientDataString => S.rest b .clientData clientDataString
    | .readContext _ r => ((contextPlan S b).toRead r).map (Prod.map Part.ofContext id)
    | _ => []
  later m := S.messages b (m.after b)
  work
    | .readClientData clientDataString =>
      ((S.body b .clientData).drop clientDataString.length).length + 1 +
        ((contextPlan S b).work .start + (2 + buildWork b))
    | .readContext _ r => (contextPlan S b).work r + (2 + buildWork b)
    | .buildCommand _ _ => 1 + buildWork b
    | .streamBuild _ reads => reads.length + (b.container.bytes.length + 4)
    | .writeExitCode _ => b.container.bytes.length + 4
    | .writeFile w => (writePlan S.imageFreed).work w + 1
    | _ => 0
  Inv
    | .readClientData clientDataString => clientDataString <+: S.body b .clientData
    | .readContext d r => d = S.clientData ∧ (contextPlan S b).Inv r
    | .buildCommand d context => d = S.clientData ∧ context = S.context.bytes
    | .streamBuild b' reads => b' = b ∧
        ∃ rest : List Bytes, reads = rest.map (fun data => (.success, data)) ++ [(.eof, [])]
    | .writeExitCode b' => b' = b
    | .writeFile w => b.exitCode = 0 ∧ (writePlan S.imageFreed).Inv w
    | .finished => b.exitCode = 0
    | .threw ex => b.exitCode ≠ 0 ∧ ex = .runtimeError (ascii "Container build failed")

theorem builder_clientData : (builderPlan S b).Collects .clientData (S.body b .clientData)
    .readClientData (.readContext S.clientData .start)
    ((contextPlan S b).work .start + (2 + buildWork b)) where
  inv _ h := h
  toSend _ := rfl
  toRead _ := rfl
  work _ := rfl
  final_inv := ⟨rfl, List.nil_prefix, rfl⟩
  final_toRead := by
    simp [builderPlan, contextPlan, readPlan, ReadFile.start, Message.after, Part.ofContext]
  final_work := Nat.le_refl _

/-- The builder is in its `read_context`. -/
theorem builder_reads : (contextPlan S b).Embeds (builderPlan S b) (.readContext S.clientData)
    Part.ofContext (S.download b) [] (2 + buildWork b) where
  inv _ hr := ⟨rfl, hr⟩
  toSend _ := rfl
  toRead _ := (List.append_nil _).symm
  work _ := rfl

/-- The builder is in its `write_file`. -/
theorem builder_writes (hzero : b.exitCode = 0) :
    (writePlan S.imageFreed).Embeds (builderPlan S b) .writeFile Part.ofImage [] [] 1 where
  inv _ hw := ⟨hzero, hw⟩
  toSend _ := (List.append_nil _).symm
  toRead _ := rfl
  work _ := rfl

variable {S b} {command : Bytes} (hcommand : buildCommand S.clientData = .ok command)
  (hrun : S.run command S.context.bytes = b) (hintact : S.Intact b)
include hcommand hrun hintact

theorem builder_keeps (s : BuilderStage) (hinv : (builderPlan S b).Inv s) :
    (builderPlan S b).Keeps s (Builder.program S.imageFreed S.header S.run s) := by
  cases s with
  | readClientData clientDataString =>
    refine (builder_clientData S b).keeps hinv (fun as => rfl) fun as he => ?_
    have hall : clientDataString ++ as = archive S.header Archive.clientData S.clientData := he
    simp only [if_true, hall, Builder.deserialize, unarchive_archive]
  | readContext d r =>
    obtain ⟨hd, hr⟩ := hinv
    obtain rfl : d = S.clientData := hd
    have hreader := reader_keeps (builder_reads S b)
      (by simp [builderPlan, Part.ofContext, Message.after])
      (by simp [builderPlan, Part.ofContext, Message.after]) hr
    cases r with
    | content file csc => exact hreader (by nofun)
    | checksum file csc remoteChecksum => exact hreader (by nofun)
    | returned file =>
      refine ⟨⟨rfl, hr.1⟩, rfl, rfl, ?_⟩
      show 1 + buildWork b < 0 + (2 + buildWork b)
      omega
    | threw file ex => exact absurd hintact.context hr.2.2
  | buildCommand d context =>
    obtain ⟨rfl, rfl⟩ := hinv
    simp only [Builder.program, hcommand, hrun]
    refine ⟨⟨rfl, b.reads, rfl⟩, ?_, rfl, ?_⟩
    · have hpipe : (b.pipe.map Prod.snd).flatten = b.output := by
        simp [Build.pipe, Build.output, Function.comp_def]
      show label .output (message (b.pipe.map Prod.snd).flatten) ++ _ = S.download b
      rw [hpipe]
      simp [Setup.download, Setup.body]
    · show b.pipe.length + _ < 1 + buildWork b
      rw [buildWork]
      omega
  | streamBuild b' reads =>
    obtain ⟨rfl, rest, rfl⟩ := hinv
    cases rest with
    | nil => exact ⟨rfl, rfl, rfl, by simp [builderPlan, streamOutput]⟩
    | cons data rest =>
      refine ⟨⟨rfl, rest, rfl⟩, ?_, rfl, ?_⟩
      · simp [builderPlan, streamOutput, message_append]
      · simp [builderPlan, streamOutput]
  | writeExitCode b' =>
    obtain rfl : b' = b := hinv
    by_cases hzero : b'.exitCode = 0
    · simp only [Builder.program, hzero, ne_eq, not_true, if_false]
      refine ⟨⟨hzero, rfl, b'.container.size_lt⟩, ?_, rfl, ?_⟩
      · simp [builderPlan, writePlan, WriteFile.start, Message.after, hzero, Setup.body,
          Part.ofImage, checksumText]
      · show b'.container.bytes.length + 2 + 1 < b'.container.bytes.length + 4
        omega
    · simp only [Builder.program, hzero, ne_eq, not_false_iff, if_true]
      refine ⟨⟨hzero, rfl⟩, ?_, rfl, Nat.succ_pos _⟩
      simp [builderPlan, Message.after, hzero, Setup.body]
  | writeFile w =>
    obtain ⟨hzero, hw⟩ := hinv
    cases w with
    | content unread bytesRemaining csc =>
      exact writer_keeps (builder_writes S b hzero) hw (by nofun)
    | checksum csc => exact writer_keeps (builder_writes S b hzero) hw (by nofun)
    | returned => exact ⟨hzero, rfl, rfl, Nat.lt_succ_self _⟩
    | threw ex => exact hw.elim
  | finished => exact ⟨rfl, rfl⟩
  | threw ex => exact ⟨rfl, rfl⟩

def builderScript : Script (Builder.program S.imageFreed S.header S.run) where
  toPlan := builderPlan S b
  keeps := builder_keeps hcommand hrun hintact

end builder

/-! ## The two together -/

/-- Where the client reads, it has written everything. -/
theorem client_speaksFirst {S : Setup} {b : Build} (hintact : S.Intact b) :
    SpeaksFirst (clientScript hintact) := by
  rintro ⟨stage, printed⟩ m next - hs
  cases stage with
  | writeClientData => cases hs
  | writeContext w =>
    cases w with
    | returned => cases hs
    | threw ex => cases hs
    | content unread bytesRemaining csc =>
      obtain ⟨m, next, hw⟩ := Act.map_eq_read hs
      exact absurd hw (writeFile_not_read _ m next)
    | checksum csc => cases hs
  | streamBuild => rfl
  | readExitCode exitCodeString => rfl
  | readFile r => rfl
  | finished image => rfl
  | threw ex => rfl

theorem matched {S : Setup} {b : Build} {command : Bytes}
    (hcommand : buildCommand S.clientData = .ok command)
    (hrun : S.run command S.context.bytes = b) (hintact : S.Intact b) :
    Matched (clientScript hintact) (builderScript hcommand hrun hintact) Client.start
      Builder.start where
  left := rfl
  right := List.nil_prefix
  toRight := (S.rest_nil b .clientData).symm
  toLeft := rfl

end ContainerBuilder
